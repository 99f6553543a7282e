/-
Polyad/Proofs/Recovery.lean

Recovering the types of a tuple of which only the elements are known.

A tuple forgets its types (`Typed.erase`) and is asked for them again (`Typed.ofTuple`).  The
answer is a tuple of these types exactly if the one that was asked is what this one forgets its
types to (`ofTuple_eq_ok_iff`).  If it is not, the depth decides before any type does, and then the
first position at which the types part (`ofTuple_eq_error_iff`).

Idea.  The check goes down the types that are asked for and takes the values one by one from an
offset on.  Two lists part at one index at most, and this index is moved by one together with the
offset (`FirstMismatch.cons_iff`); so the induction is on the types asked for, and what carries it
is that the values from the offset on are those that are still to be checked.  Where there are as
many values as types, a value is found at every index, and nothing is ever missing.

Main statement: `Typed.recovery_exact`.
-/
import Polyad.Proofs.Soundness
import Polyad.Proofs.Drawing
import Polyad.Standard.Kind

namespace Polyad

variable {U : Universe} {ts : List (Ty U)}

/-! ### Where types part -/

/-- The types that are found part from those asked for at the index `i`, where `t` is asked for:
something else is found there, or nothing, and before it every type is found as it is asked for. -/
structure FirstMismatch (found asked : List (Ty U)) (i : Nat) (t : Ty U) : Prop where
  asked_at : asked[i]? = some t
  found_ne : found[i]? ≠ some t
  agree : ∀ j < i, found[j]? = asked[j]?

namespace FirstMismatch

variable {found asked : List (Ty U)} {i : Nat} {s t u : Ty U}

theorem lt_length (h : FirstMismatch found asked i t) : i < asked.length :=
  (List.getElem?_eq_some_iff.mp h.asked_at).1

/-- Where the first types differ, or none is found, there the types part. -/
theorem cons_iff_of_ne (h : found.head? ≠ some t) :
    FirstMismatch found (t :: asked) i u ↔ i = 0 ∧ u = t := by
  have hfound : found[0]? ≠ some t := fun h₀ => h (List.head?_eq_getElem? ▸ h₀)
  constructor
  · intro hm
    cases i with
    | zero => exact ⟨rfl, (Option.some.inj hm.asked_at).symm⟩
    | succ i => exact absurd (hm.agree 0 (Nat.succ_pos i)) hfound
  · rintro ⟨rfl, rfl⟩
    exact ⟨rfl, hfound, fun j hj => absurd hj (Nat.not_lt_zero j)⟩

/-- Behind the same first type the types part one index later. -/
theorem cons_iff :
    FirstMismatch (t :: found) (t :: asked) i u ↔
      ∃ j, i = j + 1 ∧ FirstMismatch found asked j u := by
  constructor
  · intro hm
    cases i with
    | zero => exact absurd hm.asked_at hm.found_ne
    | succ j =>
      exact ⟨j, rfl, hm.asked_at, hm.found_ne, fun k hk => hm.agree (k + 1) (Nat.succ_lt_succ hk)⟩
  · rintro ⟨j, rfl, hm⟩
    refine ⟨hm.asked_at, hm.found_ne, fun k hk => ?_⟩
    cases k with
    | zero => rfl
    | succ k => exact hm.agree k (Nat.lt_of_succ_lt_succ hk)

/-- What holds where the types part holds at the head if the types part there. -/
theorem exists_and_iff_of_ne (h : found.head? ≠ some t) {P : Nat → Ty U → Prop} :
    (∃ i u, FirstMismatch found (t :: asked) i u ∧ P i u) ↔ P 0 t := by
  constructor
  · rintro ⟨i, u, hm, hP⟩
    obtain ⟨rfl, rfl⟩ := (cons_iff_of_ne h).mp hm
    exact hP
  · intro hP
    exact ⟨0, t, (cons_iff_of_ne h).mpr ⟨rfl, rfl⟩, hP⟩

/-- What holds where the types part holds one index later behind the same first type. -/
theorem exists_and_iff {P : Nat → Ty U → Prop} :
    (∃ i u, FirstMismatch (t :: found) (t :: asked) i u ∧ P i u) ↔
      ∃ i u, FirstMismatch found asked i u ∧ P (i + 1) u := by
  constructor
  · rintro ⟨i, u, hm, hP⟩
    obtain ⟨j, rfl, hrest⟩ := cons_iff.mp hm
    exact ⟨j, u, hrest, hP⟩
  · rintro ⟨i, u, hm, hP⟩
    exact ⟨i + 1, u, cons_iff.mpr ⟨i, rfl, hm⟩, hP⟩

/-- Where as many types are found as are asked for, there is another one at the index. -/
theorem exists_found (h : FirstMismatch found asked i t) (hlength : found.length = asked.length) :
    ∃ s, found[i]? = some s ∧ s ≠ t := by
  have hlt : i < found.length := hlength ▸ h.lt_length
  have hs : found[i]? = some found[i] := List.getElem?_eq_getElem hlt
  refine ⟨found[i], hs, ?_⟩
  rintro rfl
  exact h.found_ne hs

end FirstMismatch

/-! ### The check -/

namespace Capability

variable {t : Ty U} {values rest : List (Value U)} {v : Value U} {offset : UInt64}

theorem typeCheck_of_drop_nil (hword : offset.toNat + 1 < UInt64.size)
    (h : values.drop offset.toNat = []) :
    typeCheck (t :: ts) values offset = .error (.typeMismatch (offset.toNat + 1) t none) := by
  have hnone : values[offset.toNat]? = none := by rw [← List.head?_drop, h, List.head?_nil]
  simp only [typeCheck, hnone, toNat_succ hword]

theorem typeCheck_of_drop_cons (hword : offset.toNat + 1 < UInt64.size)
    (h : values.drop offset.toNat = v :: rest) :
    typeCheck (t :: ts) values offset
      = if v.ty = t then typeCheck ts values (offset + 1)
        else .error (.typeMismatch (offset.toNat + 1) t (some v.ty)) := by
  have hv : values[offset.toNat]? = some v := by rw [← List.head?_drop, h, List.head?_cons]
  simp only [typeCheck, hv, toNat_succ hword]

/-- **Any types, values and offset.**  The check fails where the types of the values from the
offset on part from those asked for, and says what it found there. -/
theorem typeCheck_eq_error_iff {e : Error U} (hword : offset.toNat + ts.length < UInt64.size) :
    typeCheck ts values offset = .error e ↔
      ∃ i t, FirstMismatch (Value.types (values.drop offset.toNat)) ts i t ∧
        e = .typeMismatch (offset.toNat + i + 1) t
          (Value.types (values.drop offset.toNat))[i]? := by
  induction ts generalizing offset with
  | nil =>
    constructor
    · exact fun h => absurd h (by simp [typeCheck])
    · rintro ⟨i, t, hm, -⟩
      exact absurd hm.lt_length (Nat.not_lt_zero i)
  | cons t ts ih =>
    rw [List.length_cons] at hword
    have hstep : (offset + 1).toNat = offset.toNat + 1 := toNat_succ (by omega)
    rcases hdrop : values.drop offset.toNat with - | ⟨v, rest⟩
    · rw [typeCheck_of_drop_nil (by omega) hdrop, FirstMismatch.exists_and_iff_of_ne (by simp),
        Except.error.injEq]
      exact eq_comm
    · rw [typeCheck_of_drop_cons (by omega) hdrop, Value.types_cons]
      by_cases hty : v.ty = t
      · have hrest : values.drop (offset + 1).toNat = rest := by
          rw [hstep, ← List.drop_drop, hdrop, List.drop_one, List.tail_cons]
        rw [if_pos hty, ih (by omega), hrest, hstep, hty, FirstMismatch.exists_and_iff]
        simp only [List.getElem?_cons_succ, Nat.succ_add_eq_add_succ]
      · rw [if_neg hty, FirstMismatch.exists_and_iff_of_ne (by simpa using hty),
          Except.error.injEq]
        exact eq_comm

end Capability

/-! ### Forgetting types and asking for them -/

theorem Bare.eq_of_downcast {vs ws : List (Value U)} (h : Bare.downcast ts vs = .ok ws) :
    ws = vs := by
  unfold Bare.downcast at h
  split at h
  · obtain ⟨-, -, hvs⟩ := map_eq_ok_iff.mp h
    exact hvs.symm
  · exact absurd h (by simp)

namespace Typed

variable {d : Tuple U}

theorem toList_injective : Function.Injective (@toList U ts) := by
  rintro ⟨elements, _⟩ ⟨elements', _⟩ h
  obtain rfl : elements = elements' := Store.ext h
  rfl

theorem erase_injective : Function.Injective (@erase U ts) :=
  fun _ _ h => toList_injective (congrArg Tuple.toList h)

theorem failure_ofTuple (ts : List (Ty U)) (d : Tuple U) :
    failure (ofTuple ts d) = failure (Bare.downcast ts d.toList) := by
  rw [Bare.downcast_toList, failure_map]

/-- **Refusals.**  A tuple of another depth is refused for its depth.  Otherwise it is refused
where its types part from those asked for. -/
theorem ofTuple_eq_error_iff {e : Error U} :
    ofTuple ts d = .error e ↔
      (d.depth ≠ ts.length ∧ e = .depthMismatch ts.length d.depth) ∨
      (d.depth = ts.length ∧ ∃ i t, FirstMismatch d.elements.types ts i t ∧
        e = .typeMismatch (i + 1) t d.elements.types[i]?) := by
  rw [eq_error_iff, failure_ofTuple]
  unfold Bare.downcast
  rw [Tuple.length_toList]
  by_cases hdepth : d.depth = ts.length
  · have hword := Capability.toNat_zero_add_lt (hdepth ▸ d.depth_le)
    rw [if_pos hdepth, failure_map, ← eq_error_iff, Capability.typeCheck_eq_error_iff hword,
      UInt64.toNat_zero, List.drop_zero]
    constructor
    · rintro ⟨i, t, hm, rfl⟩
      exact .inr ⟨hdepth, i, t, hm, by rw [Nat.zero_add]; rfl⟩
    · rintro (⟨hne, -⟩ | ⟨-, i, t, hm, rfl⟩)
      · exact absurd hdepth hne
      · exact ⟨i, t, hm, by rw [Nat.zero_add]; rfl⟩
  · rw [if_neg hdepth, ← eq_error_iff, Except.error.injEq]
    constructor
    · rintro rfl
      exact .inl ⟨hdepth, rfl⟩
    · rintro (⟨-, rfl⟩ | ⟨h, -⟩)
      · rfl
      · exact absurd h hdepth

/-- Recovering changes no element. -/
theorem erase_of_ofTuple {t : Typed U ts} (h : ofTuple ts d = .ok t) : t.erase = d := by
  have hbare : Bare.downcast ts d.toList = .ok t.toList := by
    rw [Bare.downcast_toList, h]
    rfl
  exact Tuple.toList_injective (Bare.eq_of_downcast hbare)

/-- What forgot these types is of these types. -/
theorem ofTuple_erase_ne_error (t : Typed U ts) (e : Error U) : ofTuple ts t.erase ≠ .error e := by
  intro h
  rcases ofTuple_eq_error_iff.mp h with ⟨hdepth, -⟩ | ⟨-, i, s, hm, -⟩
  · exact hdepth t.length_types.symm
  · have hfound : t.erase.elements.types = ts := t.types_elements
    rw [hfound] at hm
    exact hm.found_ne hm.asked_at

/-- **Answers.**  What a tuple is recovered to is what forgets its types to the tuple. -/
theorem ofTuple_eq_ok_iff {t : Typed U ts} : ofTuple ts d = .ok t ↔ t.erase = d := by
  constructor
  · exact erase_of_ofTuple
  · rintro rfl
    cases h : ofTuple ts t.erase with
    | error e => exact absurd h (ofTuple_erase_ne_error t e)
    | ok u => exact congrArg Except.ok (erase_injective (erase_of_ofTuple h))

/-- A tuple whose elements are of the types has them recovered. -/
theorem exists_ofTuple_eq_ok (h : d.elements.types = ts) :
    ∃ t, ofTuple ts d = .ok t ∧ t.toList = d.toList ∧ t.erase = d :=
  ⟨⟨d.elements, h⟩, ofTuple_eq_ok_iff.mpr rfl, rfl, rfl⟩

/-- A tuple of the right depth but not of the types is refused where the types part, and an element
is found there. -/
theorem exists_ofTuple_eq_error (hdepth : d.depth = ts.length) (h : d.elements.types ≠ ts) :
    ∃ i s t, FirstMismatch d.elements.types ts i t ∧ d.elements.types[i]? = some s ∧ s ≠ t ∧
      ofTuple ts d = .error (.typeMismatch (i + 1) t (some s)) := by
  cases hr : ofTuple ts d with
  | ok t =>
    have htypes : t.erase.elements.types = ts := t.types_elements
    rw [erase_of_ofTuple hr] at htypes
    exact absurd htypes h
  | error e =>
    rcases ofTuple_eq_error_iff.mp hr with ⟨hne, -⟩ | ⟨-, i, t, hm, rfl⟩
    · exact absurd hdepth hne
    · obtain ⟨s, hs, hne⟩ := hm.exists_found ((Store.length_types _).trans hdepth)
      exact ⟨i, s, t, hm, hs, hne, by rw [hs]⟩

theorem ofTuple_ne_missing (p : Nat) (t : Ty U) :
    ofTuple ts d ≠ .error (.typeMismatch p t none) := by
  intro h
  rcases ofTuple_eq_error_iff.mp h with ⟨-, he⟩ | ⟨hdepth, i, u, hm, he⟩
  · exact absurd he (by simp)
  · obtain ⟨s, hs, -⟩ := hm.exists_found ((Store.length_types _).trans hdepth)
    rw [hs] at he
    exact absurd he (by simp)

theorem ofTuple_eq_depthMismatch_iff :
    ofTuple ts d = .error (.depthMismatch ts.length d.depth) ↔ d.depth ≠ ts.length := by
  rw [ofTuple_eq_error_iff]
  constructor
  · rintro (⟨hne, -⟩ | ⟨-, i, t, -, he⟩)
    · exact hne
    · exact absurd he (by simp)
  · intro hne
    exact .inl ⟨hne, rfl⟩

/-! ### Drawing and asking -/

variable {source : Source (Value U)} {offset : Nat} {items : List (Value U)}

/-- The elements are drawn first, and then they are asked for their types. -/
theorem assemble_eq :
    (assemble ts source offset).1
      = (Tuple.assemble source offset ts.length).1.bind fun drawn =>
          match drawn with
          | some d => (tryFrom d : Except (Error U) (Typed U ts)).map some
          | none => .ok none := by
  unfold assemble
  rcases Tuple.assemble source offset ts.length with ⟨e | - | d, count⟩ <;> rfl

/-- A list that ends too early gives nothing, whatever the types of its items. -/
theorem assemble_of_short (hts : ts.length ≤ maxDepth) (hpos : 0 < ts.length)
    (h : items.length < offset + ts.length) :
    (assemble ts (.finite items) offset).1 = .ok none := by
  rw [assemble_eq, Tuple.assemble_of_short hts hpos h]
  rfl

/-- A list that reaches far enough gives what the part of it is recovered to. -/
theorem assemble_of_enough (hts : ts.length ≤ maxDepth) (h : offset + ts.length ≤ items.length) :
    ∃ d : Tuple U, d.toList = (items.drop offset).take ts.length ∧
      (assemble ts (.finite items) offset).1 = (ofTuple ts d).map some := by
  obtain ⟨d, hd, hlist⟩ := Tuple.assemble_of_enough hts h
  refine ⟨d, hlist, ?_⟩
  rw [assemble_eq, hd]
  rfl

/-! ### However a tuple came about -/

variable {δ ε : Type}

/-- What a construction gives is as deep as there are stated types, so these are recovered exactly if
the elements are of them. -/
theorem downcast_of_construction {c : Coercion U} {e : Construction c δ ε ts} {vs : List (Value U)}
    (h : e.bare.run = some (.ok vs)) :
    Bare.downcast ts vs = .ok vs ↔ Value.types vs = ts := by
  obtain ⟨ss, t, hleads, rfl⟩ := e.exists_leads h
  show Bare.downcast ts t.erase.toList = .ok t.erase.toList ↔ t.erase.elements.types = ts
  rw [Bare.downcast_toList, map_eq_ok_iff]
  constructor
  · rintro ⟨u, hu, -⟩
    rw [← erase_of_ofTuple hu]
    exact u.types_elements
  · intro htypes
    obtain ⟨u, hu, hlist, -⟩ := exists_ofTuple_eq_ok htypes
    exact ⟨u, hu, hlist⟩

/-- If no type stands for another one, the stated types are recovered, however a tuple came about. -/
theorem downcast_of_keepsTypes {c : Coercion U} (hc : c.KeepsTypes) {e : Construction c δ ε ts}
    {vs : List (Value U)} (h : e.bare.run = some (.ok vs)) : Bare.downcast ts vs = .ok vs := by
  have htyped : (e.typed hc).map toList = .ok vs := Option.some.inj ((e.bare_eq hc).symm.trans h)
  obtain ⟨t, -, rfl⟩ := map_eq_ok_iff.mp htyped
  exact (downcast_of_construction h).mpr t.types_elements

/-- **Recovery is the inverse of forgetting, and accepts exactly the tuples of the types.**  A
tuple is refused for its depth exactly if it is not as deep as there are types.  Otherwise it is
refused at the first position with another type than the one asked for, which is named together
with the one that is found; nothing is never found.  Otherwise its elements are those of a tuple of
the types, which forgets its types to what there was.

What a tuple of known types forgets its types to has them recovered, equal to itself or not.  However
a tuple of stated types came about, it has these recovered exactly if its elements are of them, and so
it does if no type stands for another one.  The conversion does the same as recovering, and so does
drawing from a source, after as many items have been drawn as there are types: where there are too few,
their types do not matter. -/
theorem recovery_exact (ts : List (Ty U)) (d : Tuple U) :
    (ofTuple ts d = .error (.depthMismatch ts.length d.depth) ↔ d.depth ≠ ts.length) ∧
    (d.depth = ts.length → d.elements.types ≠ ts →
      ∃ i s t, FirstMismatch d.elements.types ts i t ∧ d.elements.types[i]? = some s ∧ s ≠ t ∧
        ofTuple ts d = .error (.typeMismatch (i + 1) t (some s))) ∧
    (∀ p t, ofTuple ts d ≠ .error (.typeMismatch p t none)) ∧
    (d.elements.types = ts → ∃ t, ofTuple ts d = .ok t ∧ t.toList = d.toList ∧ t.erase = d) ∧
    (∀ t : Typed U ts, ofTuple ts t.erase = .ok t) ∧
    (∀ (c : Coercion U) (δ ε : Type) (e : Construction c δ ε ts) (vs : List (Value U)),
      e.bare.run = some (.ok vs) →
        (Bare.downcast ts vs = .ok vs ↔ Value.types vs = ts) ∧
        (c.KeepsTypes → Bare.downcast ts vs = .ok vs)) ∧
    tryFrom d = ofTuple ts d ∧
    ∀ source offset,
      (assemble ts source offset).1
        = ((Tuple.assemble source offset ts.length).1.bind fun drawn =>
            match drawn with
            | some d => (ofTuple ts d).map some
            | none => .ok none) ∧
      (assemble ts source offset).2 = (Tuple.assemble source offset ts.length).2 ∧
      ∀ items, source = .finite items → ts.length ≤ maxDepth →
        (0 < ts.length → items.length < offset + ts.length →
          (assemble ts source offset).1 = .ok none) ∧
        (offset + ts.length ≤ items.length →
          ∃ d : Tuple U, d.toList = (items.drop offset).take ts.length ∧
            (assemble ts source offset).1 = (ofTuple ts d).map some) := by
  refine ⟨ofTuple_eq_depthMismatch_iff, exists_ofTuple_eq_error, ofTuple_ne_missing,
    exists_ofTuple_eq_ok, fun t => ofTuple_eq_ok_iff.mpr rfl,
    fun _ _ _ _ _ h => ⟨downcast_of_construction h, fun hc => downcast_of_keepsTypes hc h⟩, rfl,
    fun source offset => ⟨assemble_eq, rfl, ?_⟩⟩
  rintro items rfl hts
  exact ⟨assemble_of_short hts, assemble_of_enough hts⟩

/-- A tuple of a NaN and a truth value is not equal to itself, and has its types recovered; three
characters are too many, one behind a NaN is the second element and no truth value, and a single
one in a source is too few. -/
theorem recovery_exact_nan :
    let nan : Value Standard := .leaf (Standard.Kind.binary .double) (Binary.nan .double)
    let letter : Value Standard := .leaf Standard.Kind.char 'x'
    let values : List (Value Standard) := [nan, .leaf Standard.Kind.bool true]
    let ts := Value.types values
    let t : Typed Standard ts := .ofList values (by decide)
    let letters : Tuple Standard := ⟨⟨[letter, letter, letter], by decide⟩⟩
    let mixed : Tuple Standard := ⟨⟨[nan, letter], by decide⟩⟩
    t.beq t = false ∧ ofTuple ts t.erase = .ok t ∧ Bare.downcast ts values = .ok values ∧
      (∃ u, ofTuple ts t.erase = .ok u ∧ u.toList = values) ∧
      ofTuple ts letters = .error (.depthMismatch 2 3) ∧
      ofTuple ts mixed = .error (.typeMismatch 2 (.leaf .bool) (some (.leaf .char))) ∧
      (assemble ts (.finite [letter]) 0).1 = .ok none ∧
      (∃ d : Tuple Standard, d.toList = [letter, letter] ∧
        (assemble ts (.finite [nan, letter, letter]) 1).1 = (ofTuple ts d).map some) := by
  intro nan letter values ts t letters mixed
  obtain ⟨hdepth, -, -, -, herase, hreach, -, hsource⟩ := recovery_exact ts letters
  obtain ⟨-, hmismatch, -⟩ := recovery_exact ts mixed
  obtain ⟨-, -, -, hok, -⟩ := recovery_exact ts t.erase
  obtain ⟨u, hu, hvalues, -⟩ := hok rfl
  obtain ⟨-, -, hshort⟩ := hsource (.finite [letter]) 0
  obtain ⟨-, -, hlong⟩ := hsource (.finite [nan, letter, letter]) 1
  have hsame : Coercion.KeepsTypes (U := Standard) Eq := fun _ _ h => h
  have hmade := hreach Eq Unit Unit (.origin (.new values (by decide))) values rfl
  refine ⟨by decide +kernel, herase t, hmade.2 hsame, ⟨u, hu, hvalues⟩, hdepth.mpr (by decide), ?_,
    (hshort _ rfl (by decide)).1 (by decide) (by decide), (hlong _ rfl (by decide)).2 (by decide)⟩
  obtain ⟨i, s, s', hm, hs, -, he⟩ := hmismatch rfl (by decide)
  -- the first types are the same, so the types part at the second
  rcases i with - | - | i
  · exact absurd hm.asked_at hm.found_ne
  · obtain rfl := Option.some.inj hs
    obtain rfl := Option.some.inj hm.asked_at
    exact he
  · exact absurd hm.lt_length (Nat.not_lt.mpr (Nat.le_add_left 2 i))

/-- **Stated types are not recovered where one type stands for another.**  A tuple of a function of
references of every lifetime that was joined to the empty tuple, as a tuple of a function of references
of a single one, is refused at its first position when the types that are stated for it are asked for. -/
theorem recovery_exact_narrowed :
    let every : Ty Pointers := .leaf .every
    let single : Ty Pointers := .leaf .single
    let f : Value Pointers := .leaf .every 0
    let made : Construction Narrows Unit Unit [every] := .origin (.new [f] (by decide))
    let joined : Construction Narrows Unit Unit [single] :=
      .join (.origin .empty) (.coerce (.cons .narrow .nil) made) (by decide)
    joined.bare.run = some (.ok [f]) ∧
      Bare.downcast [single] [f] = .error (.typeMismatch 1 single (some every)) := by
  intro every single f made joined
  exact ⟨rfl, rfl⟩

end Typed

end Polyad
