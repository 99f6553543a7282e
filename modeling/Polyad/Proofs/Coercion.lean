/-
Polyad/Proofs/Coercion.lean

Tuples that are taken for tuples of other types than those of their elements.

The stated types of a tuple are no part of it.  Where a value of one type may stand for one of
another, a tuple of the first may stand for a tuple of the second: nothing is called for it, and the
elements stay as they are, with the types by which they are told apart when one of them is looked at.
A `Coercion` says which types may stand for which.  It may keep to types that are not told apart
(`Coercion.KeepsTypes`), and it need not: a function that takes references of every lifetime stands
for one that takes references of a single lifetime, and the two are of different types.

Idea.  The types of the elements lead to the stated ones, place by place (`Coercion.Leads`).  An action
that the stated types admit is one that the types of the elements admit, and its result is stated to
be of types to which the actual ones lead (`exists_carried`).  So an action on such a tuple is an action
on a tuple of known types, unless it looks at an element (`Action.Misses`): this is where it faults, and
there is no other fault (`Action.bare_eq_none_iff`).
-/
import Polyad.Proofs.Action
import Mathlib.Data.List.Forall2
import Mathlib.Logic.Relation

namespace Polyad

variable {U : Universe} {ts us ss : List (Ty U)}

/-! ### Coercions -/

/-- Which types may stand for which, without an operation: a value that is stated to be of the first is
taken, as it is, where one of the second is expected. -/
abbrev Coercion (U : Universe) : Type := Ty U → Ty U → Prop

namespace Coercion

variable {c : Coercion U}

/-- No type stands for another one. -/
def KeepsTypes (c : Coercion U) : Prop := ∀ s t, c s t → s = t

/-- There are as many types on both sides, and each leads to the one at its place by any number of
coercions. -/
def Leads (c : Coercion U) : List (Ty U) → List (Ty U) → Prop :=
  List.Forall₂ (Relation.ReflTransGen c)

theorem Leads.refl (ts : List (Ty U)) : c.Leads ts ts :=
  List.forall₂_same.mpr fun _ _ => .refl

theorem Leads.length_eq (h : c.Leads ss ts) : ss.length = ts.length :=
  List.Forall₂.length_eq h

/-- One more coercion at every place. -/
theorem Leads.coerce (h : c.Leads ss ts) (hc : List.Forall₂ c ts us) : c.Leads ss us := by
  unfold Leads at h ⊢
  induction h generalizing us with
  | nil =>
    obtain rfl := List.forall₂_nil_left_iff.mp hc
    exact .nil
  | cons hst _ ih =>
    obtain ⟨u, us, htu, hrest, rfl⟩ := List.forall₂_cons_left_iff.mp hc
    exact .cons (hst.tail htu) (ih hrest)

theorem Leads.append {ss' ts' : List (Ty U)} (h : c.Leads ss ts) (h' : c.Leads ss' ts') :
    c.Leads (ss ++ ss') (ts ++ ts') :=
  List.rel_append h h'

theorem Leads.take (h : c.Leads ss ts) (n : Nat) : c.Leads (ss.take n) (ts.take n) :=
  List.forall₂_take n h

theorem Leads.drop (h : c.Leads ss ts) (n : Nat) : c.Leads (ss.drop n) (ts.drop n) :=
  List.forall₂_drop n h

/-- The same type in front of the rest. -/
theorem Leads.cons (s : Ty U) (h : c.Leads ss ts) : c.Leads (s :: ss) (s :: ts) :=
  List.Forall₂.cons .refl h

theorem Leads.eraseIdx (h : c.Leads ss ts) (n : Nat) : c.Leads (ss.eraseIdx n) (ts.eraseIdx n) := by
  rw [List.eraseIdx_eq_take_drop_succ, List.eraseIdx_eq_take_drop_succ]
  exact (h.take n).append (h.drop (n + 1))

theorem Leads.set (h : c.Leads ss ts) (n : Nat) (s : Ty U) : c.Leads (ss.set n s) (ts.set n s) := by
  rw [List.set_eq_take_append_cons_drop, List.set_eq_take_append_cons_drop, h.length_eq]
  split
  · exact (h.take n).append ((h.drop (n + 1)).cons s)
  · exact h

theorem Leads.rotateLeft (h : c.Leads ss ts) (n : Nat) :
    c.Leads (TypeList.rotateLeft n ss) (TypeList.rotateLeft n ts) := by
  rw [TypeList.rotateLeft_eq, TypeList.rotateLeft_eq, h.length_eq]
  exact (h.drop _).append (h.take _)

theorem Leads.rotateRight (h : c.Leads ss ts) (n : Nat) :
    c.Leads (TypeList.rotateRight n ss) (TypeList.rotateRight n ts) := by
  rw [TypeList.rotateRight_eq, TypeList.rotateRight_eq, h.length_eq]
  exact h.rotateLeft _

theorem KeepsTypes.eq (hc : c.KeepsTypes) (h : List.Forall₂ c ts us) : ts = us := by
  have heq : List.Forall₂ Eq ts us := h.imp hc
  rwa [List.forall₂_eq_eq_eq] at heq

end Coercion

/-! ### Looking at an element of a stated type -/

namespace Bare

variable {s : Ty U} {vs : List (Value U)} {index : Nat}

/-- An element is missed exactly if there is none or it is of another type. -/
theorem typed?_eq_none_iff : typed? s vs index = none ↔ (Value.types vs)[index]? ≠ some s := by
  rw [Value.types_eq_map, List.getElem?_map]
  unfold typed?
  rcases vs[index]? with - | v
  · simp
  · by_cases h : v.ty = s <;> simp [h]

/-- Values that are all found are of the types as which they are looked at. -/
theorem types_of_argumentsFrom (hlength : (vs.drop index).length = ts.length)
    (h : argumentsFrom vs index ts ≠ none) : Value.types (vs.drop index) = ts := by
  induction ts generalizing index with
  | nil =>
    rw [List.eq_nil_of_length_eq_zero hlength]
    rfl
  | cons s ts ih =>
    rcases hdrop : vs.drop index with - | ⟨v, rest⟩
    · rw [hdrop] at hlength
      exact absurd hlength (by simp)
    have hrest : vs.drop (index + 1) = rest := by
      rw [← List.drop_drop, hdrop, List.drop_one, List.tail_cons]
    have hv : vs[index]? = some v := by rw [← List.head?_drop, hdrop, List.head?_cons]
    -- the first value is found, and so are the others
    have hfirst : typed? s vs index ≠ none := fun hnone => h (by rw [argumentsFrom, hnone]; rfl)
    have hothers : argumentsFrom vs (index + 1) ts ≠ none := fun hnone => h (by
      rw [argumentsFrom, hnone]
      cases typed? s vs index <;> rfl)
    have hty : v.ty = s := by
      have hs := not_not.mp (typed?_eq_none_iff.not.mp hfirst)
      rw [Value.types_eq_map, List.getElem?_map, hv] at hs
      exact Option.some.inj hs
    rw [hdrop, List.length_cons, List.length_cons, ← hrest] at hlength
    rw [Value.types_cons, hty, ← hrest, ih (Nat.succ.inj hlength) hothers]

/-- A function of all elements finds one missing exactly if they are not of the stated types. -/
theorem arguments_eq_none_iff (hlength : vs.length = ts.length) :
    arguments ts vs = none ↔ Value.types vs ≠ ts := by
  constructor
  · intro hnone htypes
    exact absurd (hnone.symm.trans (arguments_eq htypes)) (by simp)
  · intro hne
    by_contra h
    have htypes : Value.types (vs.drop 0) = ts := types_of_argumentsFrom hlength h
    exact hne htypes

end Bare

/-! ### Actions on tuples that are taken for others -/

namespace Action

/-- The index at which an action looks at an element, and the type that it expects there. -/
def look? : {us : List (Ty U)} → Action ts us → Option (Nat × Ty U)
  | _, @transform _ _ _ i _ s _ _ _ _ _ => some (i, s)
  | _, add .. | _, spliceHead .. | _, spliceTail .. | _, truncate .. | _, hop .. | _, remove ..
  | _, rotateLeft _ | _, rotateRight _ => none

/-- The action looks at an element that is not of the type that it expects. -/
def Misses (a : Action ts us) (vs : List (Value U)) : Prop :=
  ∃ i s, a.look? = some (i, s) ∧ Bare.typed? s vs i = none

theorem bare_of_misses {a : Action ts us} {vs : List (Value U)} (h : a.Misses vs) :
    a.bare vs = none := by
  obtain ⟨i, s, hlook, hnone⟩ := h
  cases a with
  | transform p hp f hat h =>
    obtain ⟨rfl, rfl⟩ := Prod.mk.inj (Option.some.inj hlook)
    show (Bare.typed? _ _ _).bind _ = none
    rw [hnone]
    rfl
  | _ => exact absurd hlook (by simp [look?])

/-- **What the stated types admit the actual ones admit**, where they agree at the index that is
looked at.  The bare action is the same, and the actual types of the result lead to the stated ones. -/
theorem exists_carried {c : Coercion U} (h : c.Leads ss ts) (a : Action ts us)
    (hlook : ∀ i s, a.look? = some (i, s) → ss[i]? = some s) :
    ∃ ss', ∃ a' : Action ss ss', c.Leads ss' us ∧ a'.bare = a.bare := by
  have hlength := h.length_eq
  have hsplit {i : Nat} {head tail : List (Ty U)}
      (hts : TypeList.splitAt? i ts = some (head, tail)) :
      TypeList.splitAt? i ss = some (ss.take i, ss.drop i) ∧ c.Leads (ss.take i) head ∧
        c.Leads (ss.drop i) tail := by
    obtain ⟨hle, rfl, rfl⟩ := TypeList.splitAt?_eq_some_iff.mp hts
    exact ⟨TypeList.splitAt?_eq_some_iff.mpr ⟨hlength ▸ hle, rfl, rfl⟩, h.take i, h.drop i⟩
  cases a with
  | @add p i hp v s us hat hinsert hlist =>
    obtain ⟨hle, rfl⟩ := TypeList.insertAt?_eq_some_iff.mp hinsert
    have hlt : i < ss.length := hlength ▸ TypeList.lt_of_elementAt? hat
    have hss : TypeList.elementAt? i ss = some ss[i] := by
      rw [TypeList.elementAt?_eq_getElem?, List.getElem?_eq_getElem hlt]
    have hinserted : TypeList.insertAt? v.ty i ss = some (ss.take i ++ v.ty :: ss.drop i) :=
      TypeList.insertAt?_eq_some_iff.mpr ⟨Nat.le_of_lt hlt, rfl⟩
    have hleads := (h.take i).append ((h.drop i).cons v.ty)
    exact ⟨_, .add p hp v hss hinserted (hleads.length_eq ▸ hlist), hleads, rfl⟩
  | @spliceHead p i hp head tail hts hplural =>
    obtain ⟨hss, hhead, htail⟩ := hsplit hts
    exact ⟨_, .spliceHead p hp hss (htail.length_eq ▸ hplural), hhead, rfl⟩
  | @spliceTail p i hp head tail hts hplural =>
    obtain ⟨hss, hhead, htail⟩ := hsplit hts
    exact ⟨_, .spliceTail p hp hss (htail.length_eq ▸ hplural), htail, rfl⟩
  | @truncate p i hp head tail hts hne =>
    obtain ⟨hss, hhead, htail⟩ := hsplit hts
    have hpos := List.length_pos_iff.mpr hne
    exact ⟨_, .truncate p hp hss (List.length_pos_iff.mp (htail.length_eq ▸ hpos)), hhead, rfl⟩
  | @hop p i hp head tail hts hne =>
    obtain ⟨hss, hhead, htail⟩ := hsplit hts
    have hpos := List.length_pos_iff.mpr hne
    exact ⟨_, .hop p hp hss (List.length_pos_iff.mp (htail.length_eq ▸ hpos)), htail, rfl⟩
  | @remove p i hp us hremove =>
    obtain ⟨hlt, rfl⟩ := TypeList.removeAt?_eq_some_iff.mp hremove
    exact ⟨_, .remove p hp (TypeList.removeAt?_eq_some_iff.mpr ⟨hlength ▸ hlt, rfl⟩), h.eraseIdx i,
      rfl⟩
  | rotateLeft n => exact ⟨_, .rotateLeft n, h.rotateLeft n, rfl⟩
  | rotateRight n => exact ⟨_, .rotateRight n, h.rotateRight n, rfl⟩
  | @transform p i hp s u us f hat hreplace =>
    obtain ⟨hlt, rfl⟩ := TypeList.replaceAt?_eq_some_iff.mp hreplace
    have hss : TypeList.elementAt? i ss = some s := by
      rw [TypeList.elementAt?_eq_getElem?]
      exact hlook i s rfl
    exact ⟨_, .transform p hp f hss (TypeList.replaceAt?_eq_some_iff.mpr ⟨hlength ▸ hlt, rfl⟩),
      h.set i u, rfl⟩

/-- **One action on a tuple that is taken for one of other types.**  Unless it misses an element, it
gives a tuple that can be taken for one of the types computed for it. -/
theorem exists_of_not_misses {c : Coercion U} (h : c.Leads ss ts) (a : Action ts us)
    (t : Typed U ss) (hmiss : ¬a.Misses t.toList) :
    ∃ ss', ∃ t' : Typed U ss', c.Leads ss' us ∧ a.bare t.toList = some t'.toList := by
  have hlook (i : Nat) (s : Ty U) (hs : a.look? = some (i, s)) : ss[i]? = some s := by
    by_contra hne
    have htypes : Value.types t.toList = ss := t.types_elements
    exact hmiss ⟨i, s, hs, Bare.typed?_eq_none_iff.mpr (htypes.symm ▸ hne)⟩
  obtain ⟨ss', a', hleads, hbare⟩ := exists_carried h a hlook
  exact ⟨ss', a'.typed t, hleads, hbare ▸ a'.bare_toList t⟩

/-- The only fault of an action is that it misses an element. -/
theorem bare_eq_none_iff {c : Coercion U} (h : c.Leads ss ts) (a : Action ts us) (t : Typed U ss) :
    a.bare t.toList = none ↔ a.Misses t.toList := by
  constructor
  · intro hnone
    by_contra hmiss
    obtain ⟨ss', t', -, hsome⟩ := exists_of_not_misses h a t hmiss
    exact absurd (hnone.symm.trans hsome) (by simp)
  · exact bare_of_misses

end Action

end Polyad
