/-
Polyad/Proofs/Action.lean

Operations on tuples of known types, each together with what the types must admit for it.

The types of a result are computed from the types of the operands alone, one type at a time; the
elements of a result are computed from the elements alone, by slices, filters and remainders.  An
`Action ts us` is an operation that the types `ts` admit and whose result they say is of the types
`us`.  It is performed on tuples (`Action.typed`) and on bare tuples (`Action.bare`), where no type
is stored and where it can fault: a primitive may, and so may the look at an element that is expected
to be of a certain type and is not.

Idea.  What the types admit is said in numbers (`le_of_splitAt?` and its companions), and these are
the bounds under which no primitive faults.  Main statement: on the elements of a tuple of the types
`ts` no action faults, and it gives the elements of a tuple of the types `us` (`bare_toList`).
-/
import Polyad.Proofs.Bare
import Polyad.Typed
import Polyad.Unary

namespace Polyad

/-! ### What the types admit, in numbers -/

theorem Unary.index?_eq_some_iff {p i : Nat} : index? p = some i ↔ p = i + 1 := by
  cases p with
  | zero => simp [index?]
  | succ n => exact Option.some_inj.trans Nat.succ_inj.symm

namespace TypeList

variable {α : Type} {n : Nat} {ts us head tail : List α}

theorem lt_of_elementAt? {s : α} (h : elementAt? n ts = some s) : n < ts.length := by
  rw [elementAt?_eq_getElem?] at h
  exact (List.getElem?_eq_some_iff.mp h).1

theorem le_of_splitAt? (h : splitAt? n ts = some (head, tail)) : n ≤ ts.length :=
  (splitAt?_eq_some_iff.mp h).1

/-- The part behind a split has the types that the part in front leaves over. -/
theorem length_of_splitAt? (h : splitAt? n ts = some (head, tail)) :
    tail.length = ts.length - n := by
  rw [(splitAt?_eq_some_iff.mp h).2.2, List.length_drop]

theorem lt_of_splitAt? (h : splitAt? n ts = some (head, tail)) (hne : tail ≠ []) :
    n < ts.length := by
  have hpos : 0 < tail.length := List.length_pos_iff.mpr hne
  rw [length_of_splitAt? h] at hpos
  omega

theorem le_of_insertAt? {v : α} (h : insertAt? v n ts = some us) : n ≤ ts.length :=
  (insertAt?_eq_some_iff.mp h).1

theorem length_of_insertAt? {v : α} (h : insertAt? v n ts = some us) :
    us.length = ts.length + 1 := by
  obtain ⟨hle, rfl⟩ := insertAt?_eq_some_iff.mp h
  rw [List.length_append, List.length_take, List.length_cons, List.length_drop]
  omega

theorem lt_of_removeAt? (h : removeAt? n ts = some us) : n < ts.length :=
  (removeAt?_eq_some_iff.mp h).1

end TypeList

variable {U : Universe} {ts us : List (Ty U)}

/-- Where the types of a join are not too many, neither are the elements. -/
theorem Typed.depth_add_le (t : Typed U ts) (u : Typed U us) (h : (ts ++ us).length ≤ maxDepth) :
    t.elements.depth + u.elements.depth ≤ maxDepth := by
  rw [List.length_append, t.length_types, u.length_types] at h
  exact h

/-! ### Looking at an element of a known type -/

namespace Bare

/-- The element at an index, if there is one and it is of type `s`. -/
def typed? (s : Ty U) (vs : List (Value U)) (index : Nat) : Option (Element s) :=
  match vs[index]? with
  | some v => if h : v.ty = s then some ⟨v, h⟩ else none
  | none => none

/-- The values from an index on, each looked at as one of the type that is stated for it. -/
def argumentsFrom (vs : List (Value U)) : (index : Nat) → List (Ty U) → Option (List (Value U))
  | _, [] => some []
  | index, s :: ts => do
    let x ← typed? s vs index
    let rest ← argumentsFrom vs (index + 1) ts
    some (x.val :: rest)

/-- The values that a function of all elements at once is given. -/
def arguments (ts : List (Ty U)) (vs : List (Value U)) : Option (List (Value U)) :=
  argumentsFrom vs 0 ts

theorem typed?_of_ty {s : Ty U} {vs : List (Value U)} {index : Nat} {v : Value U}
    (hv : vs[index]? = some v) (hs : v.ty = s) : typed? s vs index = some ⟨v, hs⟩ := by
  unfold typed?
  rw [hv]
  exact dif_pos hs

/-- On a tuple whose types have the index, the element there is found. -/
theorem typed?_toList (t : Typed U ts) {index : Nat} {s : Ty U}
    (h : TypeList.elementAt? index ts = some s) :
    typed? s t.toList index = some (t.get index h) := by
  have hlt : index < t.toList.length :=
    Nat.lt_of_lt_of_eq (TypeList.lt_of_elementAt? h) t.length_types
  exact typed?_of_ty (List.getElem?_eq_getElem hlt) _

/-- Values of the stated types are all found, one index after the other. -/
theorem argumentsFrom_eq {vs : List (Value U)} {index : Nat}
    (h : Value.types (vs.drop index) = ts) : argumentsFrom vs index ts = some (vs.drop index) := by
  induction ts generalizing index with
  | nil =>
    rw [Value.eq_nil_of_types_eq_nil h]
    rfl
  | cons s ts ih =>
    -- the first value is found at its type, the others from the next index on
    obtain ⟨v, hv, hs, hdrop, hrest⟩ := Value.exists_of_types_drop h
    unfold argumentsFrom
    rw [typed?_of_ty hv hs, ih hrest, hdrop]
    rfl

theorem arguments_eq {vs : List (Value U)} (h : Value.types vs = ts) :
    arguments ts vs = some vs :=
  argumentsFrom_eq h

end Bare

/-! ### Actions -/

/-- An operation that the types `ts` admit, with a result of the types `us`. A position is one-based
and has an index; a result is a tuple, so that it is not too deep. -/
inductive Action (ts : List (Ty U)) : List (Ty U) → Type where
  | add (p : Nat) {i : Nat} (hp : Unary.index? p = some i) (v : Value U) {s : Ty U}
    {us : List (Ty U)} (hat : TypeList.elementAt? i ts = some s)
    (h : TypeList.insertAt? v.ty i ts = some us) (hlist : us.length ≤ maxDepth) : Action ts us
  | spliceHead (p : Nat) {i : Nat} (hp : Unary.index? p = some i) {head tail : List (Ty U)}
    (h : TypeList.splitAt? i ts = some (head, tail)) (hplural : 2 ≤ tail.length) : Action ts head
  | spliceTail (p : Nat) {i : Nat} (hp : Unary.index? p = some i) {head tail : List (Ty U)}
    (h : TypeList.splitAt? i ts = some (head, tail)) (hplural : 2 ≤ tail.length) : Action ts tail
  | truncate (p : Nat) {i : Nat} (hp : Unary.index? p = some i) {head tail : List (Ty U)}
    (h : TypeList.splitAt? i ts = some (head, tail)) (hne : tail ≠ []) : Action ts head
  | hop (p : Nat) {i : Nat} (hp : Unary.index? p = some i) {head tail : List (Ty U)}
    (h : TypeList.splitAt? i ts = some (head, tail)) (hne : tail ≠ []) : Action ts tail
  | remove (p : Nat) {i : Nat} (hp : Unary.index? p = some i) {us : List (Ty U)}
    (h : TypeList.removeAt? i ts = some us) : Action ts us
  | rotateLeft (n : Nat) : Action ts (TypeList.rotateLeft n ts)
  | rotateRight (n : Nat) : Action ts (TypeList.rotateRight n ts)
  | transform (p : Nat) {i : Nat} (hp : Unary.index? p = some i) {s u : Ty U} {us : List (Ty U)}
    (f : Element s → Element u) (hat : TypeList.elementAt? i ts = some s)
    (h : TypeList.replaceAt? u i ts = some us) : Action ts us

namespace Action

/-- The operation on tuples of known types. -/
def typed : {us : List (Ty U)} → Action ts us → Typed U ts → Typed U us
  | _, add _ _ v hat h hlist, t => t.add _ v (Option.isSome_of_eq_some hat) h hlist
  | _, spliceHead _ _ h hplural, t => (t.splice _ h hplural).1
  | _, spliceTail _ _ h hplural, t => (t.splice _ h hplural).2
  | _, truncate _ _ h hne, t => t.truncate _ h hne
  | _, hop _ _ h hne, t => t.hop _ h hne
  | _, remove _ _ h, t => t.remove _ h
  | _, rotateLeft n, t => t.rotateLeft n
  | _, rotateRight n, t => t.rotateRight n
  | _, transform _ _ f hat h, t => t.transform _ f hat h

/-- The operation on bare tuples, unless it faults. -/
def bare : {us : List (Ty U)} → Action ts us → List (Value U) → Option (List (Value U))
  | _, @add _ _ _ i _ v _ _ _ _ _, vs => Bare.insert vs i v
  | _, @spliceHead _ _ _ i _ _ _ _ _, vs => Bare.part vs 0 i
  | _, @spliceTail _ _ _ i _ _ _ _ _, vs => Bare.part vs i vs.length
  | _, @truncate _ _ _ i _ _ _ _ _, vs => Bare.part vs 0 i
  | _, @hop _ _ _ i _ _ _ _ _, vs => Bare.part vs i vs.length
  | _, @remove _ _ _ i _ _ _, vs => Bare.without vs i
  | _, rotateLeft n, vs => Bare.rotateLeft vs n
  | _, rotateRight n, vs => Bare.rotateRight vs n
  | _, @transform _ _ _ i _ s _ _ f _ _, vs =>
    (Bare.typed? s vs i).bind fun x => Bare.replace vs i (f x).val

/-- **One action.**  On the elements of a tuple whose types admit it an action does not fault, and it
gives the elements of a tuple of the types computed for it. -/
theorem bare_toList (a : Action ts us) (t : Typed U ts) :
    a.bare t.toList = some (a.typed t).toList := by
  have hdepth : ts.length = t.elements.values.length := t.length_types
  cases a with
  | add p hp v hat h hlist =>
    have hle := TypeList.le_of_insertAt? h
    have hlength := TypeList.length_of_insertAt? h
    -- there are as many elements as types, and with one more there are not too many
    have hlt : t.elements.values.length < maxDepth := by omega
    exact Bare.insert_values t.elements v (le_of_le_of_eq hle hdepth) hlt
  | spliceHead p hp h _ | truncate p hp h _ =>
    have hle := le_of_le_of_eq (TypeList.le_of_splitAt? h) hdepth
    exact Bare.part_values t.elements (Nat.zero_le _) hle
  | spliceTail p hp h _ | hop p hp h _ =>
    have hle := le_of_le_of_eq (TypeList.le_of_splitAt? h) hdepth
    exact Bare.part_values t.elements hle (Nat.le_refl _)
  | remove p hp h => exact Bare.without_values t.elements _
  | rotateLeft n => exact Bare.rotateLeft_values t.elements n
  | rotateRight n => exact Bare.rotateRight_values t.elements n
  | transform p hp f hat h =>
    -- the element to be transformed is found at its type
    show (Bare.typed? _ _ _).bind _ = _
    rw [Bare.typed?_toList t hat]
    exact Bare.replace_values t.elements _ _

end Action

end Polyad
