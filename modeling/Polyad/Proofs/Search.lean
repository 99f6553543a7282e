/-
Polyad/Proofs/Search.lean

Where an element is found: at the first position that holds one equal to it, by whichever way it is
looked for, and what becomes of that position when an element is taken out or two tuples are joined.

Idea.  The two searches ask different questions of an element, whether it is equal to the one looked
for and whether, read at the type of that one, it is equal to it.  Since equal values are of one type
the answers agree, so there is one search only (`indexOfElement?_eq_indexOf?`).  What it gives is said
by the positions that hold an equal element (`HoldsAt`): the least of them, or 0 (`FirstBehind`).
There is only one such number, so what becomes of it when an element is taken out is a question of
what the positions of the rest hold (`holdsAt_of_remove`).  The equality of values is not asked to be
reflexive anywhere, and only that nothing equals a NaN needs it to be symmetric and transitive.

Main statement: `search_finds_first`.
-/
import Polyad.Proofs.Edits
import Polyad.Proofs.Join
import Polyad.Proofs.StandardLaws
import Polyad.Typed
import Mathlib.Data.Nat.Find
import Mathlib.Order.Bounds.Basic

namespace Polyad

/-! ### One search -/

/-- Equal values are of one type, so it does not matter whether the type is asked for before. -/
theorem Value.any_as?_beq {U : Universe} (w x : Value U) :
    (w.as? x.ty).any (·.beq x) = w.beq x := by
  unfold as?
  by_cases hty : w.ty = x.ty
  · rw [if_pos hty, Option.any_some]
  · rw [if_neg hty, Option.any_none]
    exact (Bool.eq_false_iff.mpr fun h => hty (ty_eq_of_beq h)).symm

theorem Store.indexOfElement?_eq_indexOf? {U : Universe} (s : Store U) (x : Value U) :
    s.indexOfElement? x.ty x = s.indexOf? x := by
  unfold indexOfElement? indexOf?
  simp only [Value.any_as?_beq]

namespace Tuple

variable {U : Universe} {t u j r : Tuple U} {x : Value U} {n p q : Nat}

theorem positionOf_eq_positionOfValue (t : Tuple U) (x : Value U) :
    t.positionOf x.ty x = t.positionOfValue x := by
  unfold positionOf positionOfValue
  rw [Store.indexOfElement?_eq_indexOf?]

theorem positionOfValue_eq_elim (t : Tuple U) (x : Value U) :
    t.positionOfValue x = (t.elements.indexOf? x).elim 0 (1 + ·) := by
  unfold positionOfValue
  cases t.elements.indexOf? x with
  | none => rfl
  | some i => exact Nat.add_comm i 1

/-! ### The first position that passes a test -/

theorem findIdx?_eq_none_iff {P : Value U → Bool} :
    t.toList.findIdx? P = none ↔ ∀ p w, t.value p = .ok w → ¬P w = true := by
  simp only [List.findIdx?_eq_none_iff, value_eq_ok_iff]
  constructor
  · rintro h p w ⟨-, hw⟩
    exact Bool.eq_false_iff.mp (h w (List.mem_of_getElem? hw))
  · intro h w hmem
    obtain ⟨i, hi⟩ := List.getElem?_of_mem hmem
    exact Bool.eq_false_iff.mpr (h (i + 1) w ⟨Nat.le_add_left 1 i, hi⟩)

/-- The index that a walk from the front finds is that of the least position. -/
theorem findIdx?_eq_some_iff {P : Value U → Bool} {i : Nat} :
    t.toList.findIdx? P = some i ↔
      IsLeast {p | ∃ w, t.value p = .ok w ∧ P w = true} (i + 1) := by
  rw [List.findIdx?_eq_some_iff_getElem]
  constructor
  · rintro ⟨hlt, hi, hbefore⟩
    refine ⟨⟨t.toList[i], value_eq_ok_iff.mpr ⟨Nat.le_add_left 1 i, ?_⟩, hi⟩, ?_⟩
    · exact List.getElem?_eq_getElem hlt
    · rintro q ⟨w, hw, hP⟩
      obtain ⟨hq, hw⟩ := value_eq_ok_iff.mp hw
      obtain ⟨hlt', rfl⟩ := List.getElem?_eq_some_iff.mp hw
      by_contra hqi
      exact hbefore (q - 1) (by omega) hP
  · rintro ⟨⟨w, hw, hP⟩, hleast⟩
    obtain ⟨-, hw⟩ := value_eq_ok_iff.mp hw
    obtain ⟨hlt, rfl⟩ := List.getElem?_eq_some_iff.mp hw
    refine ⟨hlt, hP, fun k hk hPk => ?_⟩
    have hle : i + 1 ≤ k + 1 := by
      refine hleast ⟨t.toList[k], value_eq_ok_iff.mpr ⟨Nat.le_add_left 1 k, ?_⟩, hPk⟩
      exact List.getElem?_eq_getElem (Nat.lt_trans hk hlt)
    omega

/-! ### The first position that holds an element -/

/-- The element at the position is equal to `x`. -/
def HoldsAt (t : Tuple U) (x : Value U) (p : Nat) : Prop :=
  ∃ w, t.value p = .ok w ∧ w.beq x = true

/-- The position is the first one behind `n` that holds `x`, or it is 0 and there is none. -/
def FirstBehind (t : Tuple U) (x : Value U) (n p : Nat) : Prop :=
  IsLeast {q | n < q ∧ t.HoldsAt x q} p ∨ p = 0 ∧ ∀ q, n < q → ¬t.HoldsAt x q

theorem holdsAt_iff : t.HoldsAt x p ↔ 1 ≤ p ∧ ∃ w, t.toList[p - 1]? = some w ∧ w.beq x = true := by
  simp only [HoldsAt, value_eq_ok_iff, and_assoc, exists_and_left]

theorem HoldsAt.pos (h : t.HoldsAt x p) : 0 < p :=
  (holdsAt_iff.mp h).1

theorem HoldsAt.le_depth (h : t.HoldsAt x p) : p ≤ t.depth := by
  obtain ⟨-, w, hw, -⟩ := holdsAt_iff.mp h
  obtain ⟨hlt, -⟩ := List.getElem?_eq_some_iff.mp hw
  rw [length_toList] at hlt
  omega

/-- There is only one first position. -/
theorem FirstBehind.unique (hp : t.FirstBehind x n p) (hq : t.FirstBehind x n q) : p = q := by
  rcases hp with hp | ⟨rfl, hp⟩ <;> rcases hq with hq | ⟨rfl, hq⟩
  · exact hp.unique hq
  · exact absurd hp.1.2 (hq p hp.1.1)
  · exact absurd hq.1.2 (hp q hq.1.1)
  · rfl

theorem FirstBehind.le_of_holdsAt (hp : t.FirstBehind x 0 p) (hq : t.HoldsAt x q) : p ≤ q := by
  rcases hp with hp | ⟨rfl, -⟩
  · exact hp.2 ⟨hq.pos, hq⟩
  · exact Nat.zero_le q

theorem exists_firstBehind (t : Tuple U) (x : Value U) (n : Nat) : ∃ p, t.FirstBehind x n p := by
  classical
  by_cases h : ∃ q, n < q ∧ t.HoldsAt x q
  · exact ⟨Nat.find h, .inl ⟨Nat.find_spec h, fun q hq => Nat.find_min' h hq⟩⟩
  · exact ⟨0, .inr ⟨rfl, fun q hq hx => h ⟨q, hq, hx⟩⟩⟩

/-- The search gives the first position that holds the element. -/
theorem firstBehind_positionOfValue (t : Tuple U) (x : Value U) :
    t.FirstBehind x 0 (t.positionOfValue x) := by
  unfold positionOfValue
  rcases h : t.elements.indexOf? x with - | i
  · exact .inr ⟨rfl, fun q _ ⟨w, hw, hx⟩ => findIdx?_eq_none_iff.mp h q w hw hx⟩
  · obtain ⟨hholds, hleast⟩ := findIdx?_eq_some_iff.mp h
    exact .inl ⟨⟨Nat.succ_pos i, hholds⟩, fun q hq => hleast hq.2⟩

theorem positionOfValue_eq_iff : t.positionOfValue x = p ↔ t.FirstBehind x 0 p :=
  ⟨fun h => h ▸ t.firstBehind_positionOfValue x, (t.firstBehind_positionOfValue x).unique⟩

/-- Where the search gives a position, this is the first one that holds the element. -/
theorem isLeast_positionOfValue (h : t.positionOfValue x ≠ 0) :
    IsLeast {q | 0 < q ∧ t.HoldsAt x q} (t.positionOfValue x) :=
  (t.firstBehind_positionOfValue x).resolve_right fun h₀ => h h₀.1

theorem positionOfValue_eq_zero_iff :
    t.positionOfValue x = 0 ↔ ∀ w ∈ t.toList, w.ty = x.ty → w.beq x = false := by
  unfold positionOfValue
  rcases h : t.elements.indexOf? x with - | i
  · have hnone := List.findIdx?_eq_none_iff.mp h
    exact ⟨fun _ w hw _ => hnone w hw, fun _ => rfl⟩
  · obtain ⟨hlt, hi, -⟩ := List.findIdx?_eq_some_iff_getElem.mp h
    refine ⟨fun h₀ => absurd h₀ (Nat.succ_ne_zero i), fun hnone => ?_⟩
    have hne := hnone _ (List.getElem_mem hlt) (Value.ty_eq_of_beq hi)
    exact absurd (hi.symm.trans hne) (by decide)

/-- What is not equal to itself is equal to nothing, so it is not found. -/
theorem positionOfValue_of_beq_self (hU : U.LawfulEq) (hx : x.beq x = false) :
    t.positionOfValue x = 0 := by
  have hequiv := Value.equivAt hU
  refine positionOfValue_eq_zero_iff.mpr fun w _ _ => Bool.eq_false_iff.mpr fun hw => ?_
  have hself : x.beq x = true := (hequiv x).trans w x ((hequiv x).symm w ▸ hw) hw
  exact Bool.false_ne_true (hx.symm.trans hself)

/-! ### Removal and join -/

/-- What is behind a removed element has moved one position to the front. -/
theorem holdsAt_of_remove (h₁ : 1 ≤ p) (hr : r.toList = t.toList.eraseIdx (p - 1)) (hq : 1 ≤ q) :
    r.HoldsAt x q ↔ if q < p then t.HoldsAt x q else t.HoldsAt x (q + 1) := by
  rw [holdsAt_iff, hr]
  by_cases hqp : q < p
  · rw [if_pos hqp, List.getElem?_eraseIdx_of_lt (by omega), holdsAt_iff]
  · rw [if_neg hqp, List.getElem?_eraseIdx_of_ge (by omega), holdsAt_iff, Nat.sub_add_cancel hq,
      Nat.add_sub_cancel]
    exact and_congr_left fun _ => ⟨fun _ => Nat.le_add_left 1 q, fun _ => hq⟩

/-- Where the first position was taken out, the rest holds the element behind it only. -/
theorem holdsAt_of_remove_first (h₁ : 1 ≤ p) (hp : t.FirstBehind x 0 p)
    (hr : r.toList = t.toList.eraseIdx (p - 1)) (hq : 1 ≤ q) :
    r.HoldsAt x q ↔ p < q + 1 ∧ t.HoldsAt x (q + 1) := by
  rw [holdsAt_of_remove h₁ hr hq]
  by_cases hqp : q < p
  · rw [if_pos hqp]
    refine iff_of_false (fun h => ?_) (fun h => ?_)
    · exact absurd (hp.le_of_holdsAt h) (by omega)
    · exact absurd h.1 (by omega)
  · rw [if_neg hqp]
    exact (and_iff_right (by omega)).symm

/-- With the first position taken out, the next one is the first. -/
theorem firstBehind_of_remove (h₁ : 1 ≤ p) (hp : t.FirstBehind x 0 p)
    (hr : r.toList = t.toList.eraseIdx (p - 1)) (hq : t.FirstBehind x p q) :
    r.FirstBehind x 0 (q - 1) := by
  rcases hq with ⟨⟨hpq, hq⟩, hmin⟩ | ⟨rfl, hnone⟩
  · have hback : q - 1 + 1 = q := Nat.sub_add_cancel hq.pos
    have hpos : 1 ≤ q - 1 := by omega
    refine .inl ⟨⟨hpos, (holdsAt_of_remove_first h₁ hp hr hpos).mpr ?_⟩, ?_⟩
    · rw [hback]
      exact ⟨hpq, hq⟩
    · rintro k ⟨hk, hx⟩
      have hqk : q ≤ k + 1 := hmin ((holdsAt_of_remove_first h₁ hp hr hk).mp hx)
      show q - 1 ≤ k
      omega
  · refine .inr ⟨rfl, fun k hk hx => ?_⟩
    obtain ⟨hpk, hx⟩ := (holdsAt_of_remove_first h₁ hp hr hk).mp hx
    exact hnone (k + 1) hpk hx

theorem positionOfValue_of_remove (h : t.positionOfValue x ≠ 0) :
    ∃ r, t.remove (t.positionOfValue x) = .ok r ∧
      ∃ q, t.FirstBehind x (t.positionOfValue x) q ∧ r.positionOfValue x = q - 1 := by
  obtain ⟨⟨hpos, hholds⟩, -⟩ := isLeast_positionOfValue h
  obtain ⟨r, hr, hlist, -⟩ := exists_remove hpos hholds.le_depth
  obtain ⟨q, hq⟩ := t.exists_firstBehind x (t.positionOfValue x)
  refine ⟨r, hr, q, hq, positionOfValue_eq_iff.mpr ?_⟩
  exact firstBehind_of_remove hpos (t.firstBehind_positionOfValue x) hlist hq

/-- In a join the elements of the second tuple come behind all those of the first one. -/
theorem indexOf?_of_join (hj : t.join u = .ok j) (x : Value U) :
    j.elements.indexOf? x
      = (t.elements.indexOf? x).or ((u.elements.indexOf? x).map (· + t.depth)) := by
  have hlist := join_eq_ok_iff.mp hj
  show j.toList.findIdx? _ = _
  rw [hlist]
  exact List.findIdx?_append

theorem positionOfValue_of_join (hj : t.join u = .ok j) (x : Value U) :
    j.positionOfValue x
      = if t.positionOfValue x ≠ 0 then t.positionOfValue x
        else if u.positionOfValue x ≠ 0 then t.depth + u.positionOfValue x else 0 := by
  unfold positionOfValue
  rw [indexOf?_of_join hj]
  rcases t.elements.indexOf? x with - | i
  · rcases u.elements.indexOf? x with - | k
    · rfl
    · show k + t.depth + 1 = t.depth + (k + 1)
      omega
  · rfl

/-! ### What is found -/

theorem contains_iff : t.contains x.ty x = true ↔ t.positionOf x.ty x ≠ 0 :=
  bne_iff_ne

/-- **A search finds the first element that is equal to the one looked for**, or gives 0 if there is
none, whether it asks the elements for their type or not, and whether the types of the tuple are
known or not.

Nothing of another type is found, and nothing is found that is not equal to itself: in the standard
universe no value with a NaN inside, and no string among literals.  With the element that was found
taken out, the next one equal to it is found, one position further to the front.  In a join an
element is found in the first tuple if it is there, and otherwise behind it. -/
theorem search_finds_first :
    (∀ (U : Universe) (t : Tuple U) (x : Value U),
      let p := t.positionOf x.ty x
      (t.positionOfValue x = p ∧
        (t.elements.indexOf? x).elim 0 (1 + ·) = p ∧
        (t.elements.indexOfElement? x.ty x).elim 0 (1 + ·) = p ∧
        ∀ ts (u : Typed U ts), u.erase = t →
          u.positionOf x.ty x = p ∧ u.contains x.ty x = t.contains x.ty x) ∧
      (p = 0 ↔ ∀ w ∈ t.toList, w.ty = x.ty → w.beq x = false) ∧
      (U.LawfulEq → x.beq x = false → p = 0) ∧
      (p ≠ 0 → t.HoldsAt x p ∧ ∀ q, q < p → ¬t.HoldsAt x q) ∧
      (t.contains x.ty x = true ↔ p ≠ 0) ∧
      (p ≠ 0 → ∃ r, t.remove p = .ok r ∧ ∃ q, t.FirstBehind x p q ∧ r.positionOf x.ty x = q - 1) ∧
      ∀ u j, t.join u = .ok j →
        j.positionOf x.ty x
          = if p ≠ 0 then p
            else if u.positionOf x.ty x ≠ 0 then t.depth + u.positionOf x.ty x else 0) ∧
    ∀ t : Tuple Standard,
      (∀ x : Value Standard, x.Contains Standard.Kind.HasNaN → t.positionOf x.ty x = 0) ∧
      ∀ s, (∀ w ∈ t.toList, w.ty = .leaf .literal) →
        t.positionOf (.leaf .string) (.leaf .string s) = 0 := by
  refine ⟨fun U t x => ?_, fun t => ⟨fun x hx => ?_, fun s ht => ?_⟩⟩
  · simp only [positionOf_eq_positionOfValue, Store.indexOfElement?_eq_indexOf?, contains_iff,
      ← positionOfValue_eq_elim, true_and]
    refine ⟨?_, positionOfValue_eq_zero_iff, positionOfValue_of_beq_self, fun h => ?_,
      positionOfValue_of_remove, fun u j hj => positionOfValue_of_join hj x⟩
    · rintro ts u rfl
      exact ⟨positionOf_eq_positionOfValue u.erase x, rfl⟩
    · obtain ⟨⟨-, hholds⟩, hmin⟩ := isLeast_positionOfValue h
      refine ⟨hholds, fun q hq hx => ?_⟩
      have hle := hmin ⟨hx.pos, hx⟩
      omega
  · rw [positionOf_eq_positionOfValue]
    exact positionOfValue_of_beq_self Standard.lawful.lawfulEq (Standard.beq_self_eq_false_iff.mpr hx)
  · refine (positionOf_eq_positionOfValue t _).trans (positionOfValue_eq_zero_iff.mpr ?_)
    intro w hw hty
    exact nomatch Ty.leaf.inj ((ht w hw).symm.trans hty)

/-- A string is found behind an equal literal, and behind a NaN, which is not found itself; the
search goes on at the next one when it is taken out, and among literals only there is none. -/
theorem search_finds_first_strings :
    let literal (s : String) : Value Standard := .leaf .literal s
    let string (s : String) : Value Standard := .leaf .string s
    let nan : Value Standard := .leaf (.binary .double) (Binary.nan .double)
    let u := Typed.ofList [literal "a", nan, string "a", string "b", string "a"] (by decide)
    let t := u.erase
    let before : Tuple Standard := ⟨⟨[literal "a", literal "b"], by decide⟩⟩
    t.positionOfValue (string "a") = 3 ∧ u.positionOf (.leaf .string) (string "a") = 3 ∧
      t.HoldsAt (string "a") 3 ∧ ¬t.HoldsAt (string "a") 1 ∧
      (∃ r, t.remove 3 = .ok r ∧ r.positionOf (.leaf .string) (string "a") = 4) ∧
      (∃ j, before.join t = .ok j ∧ j.positionOf (.leaf .string) (string "a") = 5) ∧
      t.positionOf (.leaf (.binary .double)) nan = 0 ∧
      before.positionOf (.leaf .string) (string "a") = 0 := by
  intro literal string nan u t before
  obtain ⟨hsearch, hstandard⟩ := search_finds_first
  obtain ⟨⟨hvalue, -, -, htyped⟩, -, -, hfirst, -, hremove, -⟩ := hsearch Standard t (string "a")
  obtain ⟨-, -, -, -, -, -, hjoin⟩ := hsearch Standard before (string "a")
  obtain ⟨hnan, -⟩ := hstandard t
  obtain ⟨-, hliteral⟩ := hstandard before
  have hposition : t.positionOf (.leaf .string) (string "a") = 3 := by decide
  have hne : t.positionOf (string "a").ty (string "a") ≠ 0 := by decide
  obtain ⟨hholds, hbefore⟩ := hfirst hne
  obtain ⟨r, hr, q, hq, hback⟩ := hremove hne
  obtain ⟨hu, -⟩ := htyped _ u rfl
  -- between the two equal strings there is only one that is not
  have hnext : t.FirstBehind (string "a") 3 5 := by
    refine .inl ⟨⟨by decide, string "a", rfl, by decide⟩, ?_⟩
    rintro k ⟨hk, w, hw, hx⟩
    show 5 ≤ k
    by_contra hlt
    obtain rfl : k = 4 := by omega
    obtain rfl : string "b" = w := Except.ok.inj hw
    exact absurd hx (by decide)
  obtain rfl : q = 5 := hq.unique hnext
  obtain ⟨j, hj⟩ : ∃ j, before.join t = .ok j := ⟨_, rfl⟩
  have hnone : before.positionOf (.leaf .string) (string "a") = 0 := hliteral "a" (by decide)
  refine ⟨hvalue.trans hposition, hu.trans hposition, hholds, hbefore 1 (by decide), ⟨r, hr, hback⟩,
    ⟨j, hj, (hjoin t j hj).trans ?_⟩, hnan nan (.leaf (by decide : (Binary.nan .double).isNaN = true)),
    hnone⟩
  rfl

end Tuple

end Polyad
