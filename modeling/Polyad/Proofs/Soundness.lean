/-
Polyad/Proofs/Soundness.lean

Soundness of the types of a tuple: whatever way a tuple of stated types came about, what is known of
the types of its elements.

A tuple has an `Origin`: it is built from values, drawn from a source, recovered from a tuple of
unknown types or read from an item of a format.  A `Construction` is an origin and then any operations
that the stated types admit, and any number of times it may be taken for a tuple of other types, where
the types may stand for these.  The stated types are those that the operations compute on lists of
types.  A construction is carried out on bare tuples, where no type is stored but by the elements
themselves and where it can fault (`Construction.bare`); and on tuples of known types, if no type
stands for another one (`Construction.typed`).

Idea.  The types of the elements lead to the stated ones.  By induction on the construction this holds
of every tuple that comes about (`Construction.exists_leads`): it holds of every origin, and each action
preserves it (`Action.exists_of_not_misses`).  If no type stands for another one, both ways of
carrying out a construction agree (`Construction.bare_eq`): each step is one action
(`Action.bare_toList`), and where a tuple of unknown types is looked at, the checks are the same
(`downcast_toList`, `decode_eq`).

Only this makes the types sound.  Where one type stands for another, a tuple comes about whose elements
are not of the stated types, and an element that is there is not found
(`Construction.types_sound_narrowed`).
-/
import Polyad.Proofs.Coercion
import Polyad.Standard.Codec

namespace Polyad

variable {U : Universe} {c : Coercion U} {δ ε : Type} {ts us : List (Ty U)}

/-! ### Recovering and reading types -/

namespace Bare

/-- The same values, if there are as many as types and they are of these types. -/
def downcast (ts : List (Ty U)) (vs : List (Value U)) : Except (Error U) (List (Value U)) :=
  if vs.length = ts.length then (Capability.typeCheck ts vs 0).map fun () => vs
  else .error (.depthMismatch ts.length vs.length)

/-- The values for which an item stands, unless there are too many for a tuple. -/
def decode (c : Codec U δ ε) (ts : List (Ty U)) (item : δ) :
    Option (Except ε (List (Value U))) :=
  match c.items ts.length item with
  | .error e => some (.error e)
  | .ok items =>
    match c.decodeEach ts items [] with
    | .error e => some (.error e)
    | .ok (values, rest) =>
      (rebuild values).map fun vs => if rest.isEmpty then .ok vs else .error (c.tooLong items.length)

theorem downcast_toList (ts : List (Ty U)) (t : Tuple U) :
    downcast ts t.toList = (Typed.ofTuple ts t).map Typed.toList := by
  unfold downcast Typed.ofTuple
  rw [Tuple.length_toList]
  by_cases hdepth : t.depth = ts.length
  · rw [if_pos hdepth, dif_pos hdepth]
    split
    · next h => exact congrArg (Except.map _) h
    · next h => exact congrArg (Except.map _) h
  · rw [if_neg hdepth, dif_neg hdepth]
    rfl

/-- So many values of a source as there are types, if they are of these types, unless the source runs
dry. -/
def assembleAs (ts : List (Ty U)) (source : Source (Value U)) (offset : Nat) :
    Except (Error U) (Option (List (Value U))) :=
  match assemble source offset ts.length with
  | .ok (some vs) => (downcast ts vs).map some
  | .ok none => .ok none
  | .error e => .error e

theorem assembleAs_eq (ts : List (Ty U)) (source : Source (Value U)) (offset : Nat) :
    assembleAs ts source offset
      = (Typed.assemble ts source offset).1.map (Option.map Typed.toList) := by
  unfold assembleAs Typed.assemble
  rw [assemble_eq]
  rcases Tuple.assemble source offset ts.length with ⟨e | - | t, drawn⟩
  · rfl
  · rfl
  · show (downcast ts t.toList).map some = ((Typed.ofTuple ts t).map some).map _
    rw [downcast_toList]
    cases Typed.ofTuple ts t <;> rfl

theorem decode_eq (c : Codec U δ ε) (ts : List (Ty U)) (hts : ts.length ≤ maxDepth) (item : δ) :
    decode c ts item = some ((Typed.decode c ts hts item).map Typed.toList) := by
  unfold Typed.decode
  split
  · next e hitems =>
    unfold decode
    rw [hitems]
    rfl
  · next items hitems =>
    split
    · next e hread =>
      unfold decode
      simp only [hitems, hread]
      rfl
    · next values rest hread =>
      -- what was read is of the types asked for, so there is not too much of it
      have htypes : Value.types values = ts := c.types_of_decodeEach ts items [] hread
      have hle : values.length ≤ maxDepth := by
        rw [← Value.length_types, htypes]
        exact hts
      unfold decode
      simp only [hitems, hread, rebuild_of_le hle]
      split <;> rfl

end Bare

/-! ### Constructions -/

/-- Why a construction gives no tuple: an operation on tuples failed, a source ran dry, or an item
could not be read. -/
inductive Cause (U : Universe) (ε : Type) where
  | failed (e : Error U)
  | dry
  | unread (e : ε)

/-- The outcome of drawing from a source that may run dry. -/
def Cause.orDry {α : Type} : Except (Error U) (Option α) → Except (Cause U ε) α
  | .ok (some x) => .ok x
  | .ok none => .error .dry
  | .error e => .error (.failed e)

theorem Cause.orDry_map {α β : Type} (f : α → β) (r : Except (Error U) (Option α)) :
    orDry (ε := ε) (r.map (Option.map f)) = (orDry r).map f := by
  rcases r with e | - | x <;> rfl

/-- Where a tuple of stated types comes from. -/
inductive Origin (U : Universe) (δ ε : Type) : List (Ty U) → Type where
  | new (values : List (Value U)) (h : values.length ≤ maxDepth) : Origin U δ ε (Value.types values)
  | empty : Origin U δ ε []
  | assemble (ts : List (Ty U)) (source : Source (Value U)) (offset : Nat) : Origin U δ ε ts
  | downcast (ts : List (Ty U)) (t : Tuple U) : Origin U δ ε ts
  | decode (c : Codec U δ ε) (ts : List (Ty U)) (hts : ts.length ≤ maxDepth) (item : δ) :
    Origin U δ ε ts

namespace Origin

/-- What an origin gives on tuples of known types. -/
def typed : {ts : List (Ty U)} → Origin U δ ε ts → Except (Cause U ε) (Typed U ts)
  | _, new values h => .ok (Typed.ofList values h)
  | _, empty => .ok .empty
  | _, assemble ts source offset => Cause.orDry (Typed.assemble ts source offset).1
  | _, downcast ts t => (Typed.ofTuple ts t).mapError .failed
  | _, decode c ts hts item => (Typed.decode c ts hts item).mapError .unread

/-- What an origin gives on bare tuples, unless it faults. -/
def bare : {ts : List (Ty U)} → Origin U δ ε ts → ExceptT (Cause U ε) Option (List (Value U))
  | _, new values _ => ExceptT.lift (Bare.rebuild values)
  | _, empty => ExceptT.lift (Bare.rebuild [])
  | _, assemble ts source offset =>
    ExceptT.mk (some (Cause.orDry (Bare.assembleAs ts source offset)))
  | _, downcast ts t => ExceptT.mk (some ((Bare.downcast ts t.toList).mapError .failed))
  | _, decode c ts _ item => ExceptT.mk ((Bare.decode c ts item).map (Except.mapError .unread))

/-- **Every origin.**  It does not fault, and it gives the elements of what it gives on tuples of known
types; where it gives none, the cause is the same. -/
theorem bare_eq (o : Origin U δ ε ts) : o.bare.run = some (o.typed.map Typed.toList) := by
  cases o with
  | new values h => exact congrArg (Option.map Except.ok) (Bare.rebuild_of_le h)
  | empty => rfl
  | assemble ts source offset =>
    show some (Cause.orDry (Bare.assembleAs ts source offset)) = _
    rw [Bare.assembleAs_eq, Cause.orDry_map]
    rfl
  | downcast ts t =>
    show some _ = some (((Typed.ofTuple ts t).mapError Cause.failed).map _)
    rw [Bare.downcast_toList]
    cases Typed.ofTuple ts t <;> rfl
  | decode c ts hts item =>
    show Option.map _ (Bare.decode c ts item)
      = some (((Typed.decode c ts hts item).mapError Cause.unread).map _)
    rw [Bare.decode_eq c ts hts item]
    cases Typed.decode c ts hts item <;> rfl

end Origin

/-- A way in which a tuple of stated types comes about, where some types stand for others. -/
inductive Construction (c : Coercion U) (δ ε : Type) : List (Ty U) → Type where
  | origin {ts : List (Ty U)} (o : Origin U δ ε ts) : Construction c δ ε ts
  | clone {ts : List (Ty U)} (e : Construction c δ ε ts) : Construction c δ ε ts
  /-- The tuple is taken for one of other types, as it is. -/
  | coerce {ts us : List (Ty U)} (h : List.Forall₂ c ts us) (e : Construction c δ ε ts) :
    Construction c δ ε us
  | join {ts us : List (Ty U)} (e : Construction c δ ε ts) (e' : Construction c δ ε us)
    (h : (ts ++ us).length ≤ maxDepth) : Construction c δ ε (ts ++ us)
  | act {ts us : List (Ty U)} (a : Action ts us) (e : Construction c δ ε ts) : Construction c δ ε us

namespace Construction

/-- What a construction gives on bare tuples, unless it faults. -/
def bare : {ts : List (Ty U)} → Construction c δ ε ts →
    ExceptT (Cause U ε) Option (List (Value U))
  | _, origin o => o.bare
  | _, clone e => e.bare
  | _, coerce _ e => e.bare
  | _, join e e' _ => do Bare.concat (← e.bare) (← e'.bare)
  | _, act a e => do a.bare (← e.bare)

/-- What a construction gives on tuples of known types, if no type stands for another one. -/
def typed (hc : c.KeepsTypes) :
    {ts : List (Ty U)} → Construction c δ ε ts → Except (Cause U ε) (Typed U ts)
  | _, origin o => o.typed
  | _, clone e => e.typed hc
  | _, coerce h e => hc.eq h ▸ e.typed hc
  | _, join e e' h => do .ok ((← e.typed hc).join (← e'.typed hc) h)
  | _, act a e => do .ok (a.typed (← e.typed hc))

/-! ### Any coercions -/

section Bind

variable {α β : Type} {x : ExceptT (Cause U ε) Option α} {f : α → ExceptT (Cause U ε) Option β}

theorem run_bind_of_ok {a : α} (h : x.run = some (.ok a)) : (x >>= f).run = (f a).run := by
  show x.run.bind _ = _
  rw [h]
  rfl

/-- What a step after another one gives comes from something that the other one gives. -/
theorem exists_of_bind {b : β} (h : (x >>= f).run = some (.ok b)) :
    ∃ a, x.run = some (.ok a) ∧ (f a).run = some (.ok b) := by
  rcases hx : x.run with - | e | a
  · have hfault : (x >>= f).run = none := by
      show x.run.bind _ = _
      rw [hx]
      rfl
    exact absurd (hfault.symm.trans h) (by simp)
  · have herror : (x >>= f).run = some (.error e) := by
      show x.run.bind _ = _
      rw [hx]
      rfl
    exact absurd (herror.symm.trans h) (by simp)
  · exact ⟨a, rfl, (run_bind_of_ok hx).symm.trans h⟩

end Bind

/-- **Every construction.**  What it gives are the elements of a tuple whose types lead to the stated
ones. -/
theorem exists_leads (e : Construction c δ ε ts) {vs : List (Value U)}
    (h : e.bare.run = some (.ok vs)) :
    ∃ ss, ∃ t : Typed U ss, c.Leads ss ts ∧ t.toList = vs := by
  induction e generalizing vs with
  | @origin ts o =>
    have htyped : o.typed.map Typed.toList = .ok vs := Option.some.inj (o.bare_eq.symm.trans h)
    obtain ⟨t, -, ht⟩ := map_eq_ok_iff.mp htyped
    exact ⟨ts, t, .refl ts, ht⟩
  | clone e ih => exact ih h
  | coerce hc e ih =>
    obtain ⟨ss, t, hleads, rfl⟩ := ih h
    exact ⟨ss, t, hleads.coerce hc, rfl⟩
  | join e e' hdepth ih ih' =>
    obtain ⟨vs₁, h₁, hrest⟩ := exists_of_bind h
    obtain ⟨vs₂, h₂, hconcat⟩ := exists_of_bind hrest
    obtain ⟨ss₁, t₁, hleads₁, rfl⟩ := ih h₁
    obtain ⟨ss₂, t₂, hleads₂, rfl⟩ := ih' h₂
    have hleads := hleads₁.append hleads₂
    have hle : (ss₁ ++ ss₂).length ≤ maxDepth := hleads.length_eq ▸ hdepth
    refine ⟨_, t₁.join t₂ hle, hleads, ?_⟩
    have hvalues := Bare.concat_values t₁.elements t₂.elements (t₁.depth_add_le t₂ hle)
    have hjoined : (Bare.concat t₁.toList t₂.toList).map Except.ok = some (.ok vs) := hconcat
    rw [show Bare.concat t₁.toList t₂.toList = _ from hvalues] at hjoined
    exact Except.ok.inj (Option.some.inj hjoined)
  | act a e ih =>
    obtain ⟨vs', h', hact⟩ := exists_of_bind h
    obtain ⟨ss, t, hleads, rfl⟩ := ih h'
    have hsome : (a.bare t.toList).map Except.ok = some (.ok vs) := hact
    have hmiss : ¬a.Misses t.toList := fun hmiss => by
      rw [Action.bare_of_misses hmiss] at hsome
      exact absurd hsome (by simp)
    obtain ⟨ss', t', hleads', ht'⟩ := Action.exists_of_not_misses hleads a t hmiss
    rw [ht'] at hsome
    exact ⟨ss', t', hleads', Except.ok.inj (Option.some.inj hsome)⟩

/-! ### Coercions that keep the types -/

/-- **Every construction.**  If no type stands for another one, it does not fault, and it gives the
elements of what it gives on tuples of known types; where it gives none, the cause is the same. -/
theorem bare_eq (hc : c.KeepsTypes) (e : Construction c δ ε ts) :
    e.bare.run = some ((e.typed hc).map Typed.toList) := by
  induction e with
  | origin o => exact o.bare_eq
  | clone e ih => exact ih
  | coerce h e ih =>
    obtain rfl := hc.eq h
    exact ih
  | join e e' h ih ih' =>
    -- the operands one after the other; where either gives no tuple, neither does the join
    show e.bare.run.bind _ = some (Except.map _ ((e.typed hc).bind _))
    rw [ih]
    cases e.typed hc with
    | error r => rfl
    | ok t =>
      show e'.bare.run.bind _ = some (Except.map _ ((e'.typed hc).bind _))
      rw [ih']
      cases e'.typed hc with
      | error r => rfl
      | ok u =>
        show Option.map Except.ok (Bare.concat t.toList u.toList) = _
        exact congrArg (Option.map Except.ok) (Bare.concat_values t.elements u.elements
          (t.depth_add_le u h))
  | act a e ih =>
    show e.bare.run.bind _ = some (Except.map _ ((e.typed hc).bind _))
    rw [ih]
    cases e.typed hc with
    | error r => rfl
    | ok t =>
      show Option.map Except.ok (a.bare t.toList) = _
      rw [Action.bare_toList]
      rfl

/-! ### Main theorem -/

/-- **Soundness of the types of a tuple.**  However a tuple of the stated types `ts` came about, it is
as deep as there are types, which are not too many, and the types of its elements lead to the stated
ones.  There is an element at every index that the types have, and it is found exactly if it is of the
stated type; a function that asks for all elements finds them exactly if all are.  An action faults
exactly if it misses an element.

If no type stands for another one, nothing has faulted, and the elements are of the stated types, in
order.  So an element is found wherever the types have one, and all of them are found by a function
that asks for all. -/
theorem types_sound (e : Construction c δ ε ts) :
    (∀ vs, e.bare.run = some (.ok vs) →
      c.Leads (Value.types vs) ts ∧ vs.length = ts.length ∧ ts.length ≤ maxDepth ∧
      (∀ p i s, Unary.index? p = some i → TypeList.elementAt? i ts = some s →
        ∃ v, vs[i]? = some v ∧ (Bare.typed? s vs i = none ↔ v.ty ≠ s)) ∧
      (Bare.arguments ts vs = none ↔ Value.types vs ≠ ts) ∧
      ∀ (us : List (Ty U)) (a : Action ts us), a.bare vs = none ↔ a.Misses vs) ∧
    ∀ hc : c.KeepsTypes, ∃ outcome, e.bare.run = some outcome ∧
      outcome = (e.typed hc).map Typed.toList ∧
      ∀ vs, outcome = .ok vs →
        Value.types vs = ts ∧ vs.length = ts.length ∧ ts.length ≤ maxDepth ∧
        (Value.tuple vs).ty = .tuple ts ∧
        (∀ p i s, Unary.index? p = some i → TypeList.elementAt? i ts = some s →
          ∃ x : Element s, Bare.typed? s vs i = some x ∧ vs[i]? = some x.val) ∧
        Bare.arguments ts vs = some vs := by
  refine ⟨fun vs hvs => ?_, fun hc => ⟨_, bare_eq hc e, rfl, fun vs hvs => ?_⟩⟩
  · obtain ⟨ss, t, hleads, rfl⟩ := e.exists_leads hvs
    have htypes : Value.types t.toList = ss := t.types_elements
    have hlength : t.toList.length = ts.length := t.length_types.symm.trans hleads.length_eq
    have hle : ts.length ≤ maxDepth := le_of_eq_of_le hleads.length_eq.symm t.length_types_le
    refine ⟨htypes.symm ▸ hleads, hlength, hle, ?_, Bare.arguments_eq_none_iff hlength,
      fun us a => Action.bare_eq_none_iff hleads a t⟩
    intro p i s _ hs
    have hlt : i < t.toList.length := hlength ▸ TypeList.lt_of_elementAt? hs
    refine ⟨_, List.getElem?_eq_getElem hlt, ?_⟩
    rw [Bare.typed?_eq_none_iff, Value.types_eq_map, List.getElem?_map,
      List.getElem?_eq_getElem hlt]
    simp
  · obtain ⟨t, -, rfl⟩ := map_eq_ok_iff.mp hvs
    have htypes : Value.types t.toList = ts := t.types_elements
    refine ⟨htypes, t.length_types.symm, t.length_types_le, congrArg Ty.tuple htypes, ?_,
      Bare.arguments_eq htypes⟩
    intro p i s _ hs
    exact ⟨t.get i hs, Bare.typed?_toList t hs, List.getElem?_eq_getElem _⟩

/-- A tuple with an element put in between, taken for what it is, and rotated by many more places than
it is deep. -/
theorem types_sound_rotated :
    let same : Coercion Standard := Eq
    let bool : Ty Standard := .leaf .bool
    let unit : Ty Standard := .leaf .unit
    let char : Ty Standard := .leaf .char
    let values : List (Value Standard) :=
      [.leaf Standard.Kind.bool true, .leaf Standard.Kind.char 'x']
    let two : Construction same Document Standard.ReadError [bool, char] :=
      .origin (.new values (by decide))
    let three : Construction same Document Standard.ReadError [bool, unit, char] :=
      .act (.add 2 rfl (.leaf Standard.Kind.unit ()) rfl rfl (by decide)) two
    let taken : Construction same Document Standard.ReadError [bool, unit, char] :=
      .coerce (.cons rfl (.cons rfl (.cons rfl .nil))) three
    let ts := TypeList.rotateLeft 35 [bool, unit, char]
    ∃ vs, (act (.rotateLeft 35) taken).bare.run = some (.ok vs) ∧
      Value.types vs = ts ∧ Bare.arguments ts vs = some vs ∧
      (∃ x : Element char, Bare.typed? char vs 0 = some x) ∧
      ∀ (us : List (Ty Standard)) (a : Action ts us), a.bare vs = none ↔ a.Misses vs := by
  intro same bool unit char values two three taken ts
  have hsame : same.KeepsTypes := fun _ _ h => h
  obtain ⟨hany, hkeeps⟩ := (act (.rotateLeft 35) taken).types_sound
  have htaken : taken.bare.run = some (.ok [.leaf Standard.Kind.bool true,
      .leaf Standard.Kind.unit (), .leaf Standard.Kind.char 'x']) := rfl
  have hrun : (act (.rotateLeft 35) taken).bare.run = some (.ok [.leaf Standard.Kind.char 'x',
      .leaf Standard.Kind.bool true, .leaf Standard.Kind.unit ()]) :=
    (run_bind_of_ok htaken).trans rfl
  obtain ⟨-, -, -, -, -, hfaults⟩ := hany _ hrun
  obtain ⟨outcome, hbare, -, hsound⟩ := hkeeps hsame
  obtain ⟨htypes, -, -, -, helement, harguments⟩ :=
    hsound _ (Option.some.inj (hbare.symm.trans hrun))
  obtain ⟨x, hx, -⟩ := helement 1 0 char rfl rfl
  exact ⟨_, hrun, htypes, harguments, ⟨x, hx⟩, hfaults⟩

end Construction

/-! ### Where one type stands for another -/

/-- Functions of references: those of references of every lifetime, and those of references of a single
one. -/
inductive Pointer where
  | every
  | single
deriving DecidableEq, Repr

def Pointer.name : Pointer → String
  | .every => "for<'a> fn(&'a u8)"
  | .single => "fn(&u8)"

/-- The universe of pointers to such functions, each with its address. -/
@[reducible]
def Pointers : Universe where
  Kind := Pointer
  kindEq := inferInstance
  Carrier _ := UInt64
  name := Pointer.name
  beq _ x y := x == y
  cmp? _ x y := some (compare x y)
  text? _ _ := none
  outline _ x := .atom (toString x)

/-- A function of references of every lifetime stands for one of references of a single lifetime. -/
inductive Narrows : Ty Pointers → Ty Pointers → Prop where
  | narrow : Narrows (.leaf .every) (.leaf .single)

namespace Construction

/-- **The types are not sound where one stands for another.**  A tuple of a function of references of
every lifetime is joined to the empty tuple, as a tuple of a function of references of a single one.
The element of the tuple that comes about is not of the stated type, and it is not found: not by its
position, not by a function of all elements, and a transformation at its position faults. -/
theorem types_sound_narrowed :
    let every : Ty Pointers := .leaf .every
    let single : Ty Pointers := .leaf .single
    let f : Value Pointers := .leaf .every 0
    let made : Construction Narrows Unit Unit [every] := .origin (.new [f] (by decide))
    let joined : Construction Narrows Unit Unit [single] :=
      .join (.origin .empty) (.coerce (.cons .narrow .nil) made) (by decide)
    joined.bare.run = some (.ok [f]) ∧ Value.types [f] ≠ [single] ∧
      Unary.index? 1 = some 0 ∧ TypeList.elementAt? 0 [single] = some single ∧
      Bare.typed? single [f] 0 = none ∧ Bare.arguments [single] [f] = none ∧
      (act (.transform 1 rfl (fun x : Element single => x) rfl rfl) joined).bare.run = none := by
  intro every single f made joined
  exact ⟨rfl, by decide, rfl, rfl, rfl, rfl, rfl⟩

end Construction

end Polyad
