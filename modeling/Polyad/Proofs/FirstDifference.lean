/-
Polyad/Proofs/FirstDifference.lean

The order of two tuples is that of the first elements that are not equal.

Tuples of unlike depths are ordered by the depths alone.  Tuples of one depth are compared by going
down their elements up to the first pair that does not have the same place.  That comparison never
asks whether elements are equal, but what it stops at is the first pair of unequal elements
(`PartAt`), because elements have the same place exactly if they are equal.  Nothing else is asked of
the kinds of elements (`Universe.Coherent`).  What stands behind that pair is never looked at.

Idea.  The induction is on the elements of one tuple.  The pair at which two lists part is at the
head of both, or it is the pair at which the tails part, behind equal heads (`Parting.cons_zero_iff`,
`Parting.cons_succ_iff`), and the comparison makes the same distinction.

Main statement: `Tuple.cmp_decided_at_first_difference`.
-/
import Polyad.Proofs.TupleOrder
import Polyad.Proofs.Outcome

namespace Polyad

open Comparison

variable {U : Universe}

/-! ### Where two lists of values part -/

/-- The lists part at the index `i`: there `v` and `w` stand, which are not equal, and before it
equal values stand in both. -/
structure Parting (vs ws : List (Value U)) (i : Nat) (v w : Value U) : Prop where
  left_at : vs[i]? = some v
  right_at : ws[i]? = some w
  unequal : v.beq w = false
  equal_before : ∀ j < i, ∀ x y, vs[j]? = some x → ws[j]? = some y → x.beq y = true

namespace Parting

variable {vs ws : List (Value U)} {x y v w : Value U} {i : Nat}

theorem cons_zero_iff :
    Parting (x :: vs) (y :: ws) 0 v w ↔ x = v ∧ y = w ∧ v.beq w = false := by
  constructor
  · intro h
    exact ⟨Option.some.inj h.left_at, Option.some.inj h.right_at, h.unequal⟩
  · rintro ⟨rfl, rfl, hne⟩
    exact ⟨rfl, rfl, hne, fun j hj => absurd hj (Nat.not_lt_zero j)⟩

theorem cons_succ_iff :
    Parting (x :: vs) (y :: ws) (i + 1) v w ↔ x.beq y = true ∧ Parting vs ws i v w := by
  constructor
  · intro h
    exact ⟨h.equal_before 0 (Nat.succ_pos i) x y rfl rfl, h.left_at, h.right_at, h.unequal,
      fun j hj => h.equal_before (j + 1) (Nat.succ_lt_succ hj)⟩
  · rintro ⟨hxy, h⟩
    refine ⟨h.left_at, h.right_at, h.unequal, fun j hj x' y' hx' hy' => ?_⟩
    cases j with
    | zero =>
      obtain rfl := Option.some.inj hx'
      obtain rfl := Option.some.inj hy'
      exact hxy
    | succ j => exact h.equal_before j (Nat.lt_of_succ_lt_succ hj) x' y' hx' hy'

/-- Lists of one length that are not equal part somewhere. -/
theorem exists_of_beqAll_eq_false (hlength : vs.length = ws.length)
    (h : Value.beqAll vs ws = false) : ∃ i v w, Parting vs ws i v w := by
  induction vs generalizing ws with
  | nil =>
    rw [List.eq_nil_of_length_eq_zero hlength.symm] at h
    exact absurd h (by simp [Value.beqAll])
  | cons x vs ih =>
    cases ws with
    | nil => exact absurd hlength (by simp)
    | cons y ws =>
      cases hxy : x.beq y with
      | false => exact ⟨0, x, y, cons_zero_iff.mpr ⟨rfl, rfl, hxy⟩⟩
      | true =>
        have hrest : Value.beqAll vs ws = false := by
          have hboth : (x.beq y && Value.beqAll vs ws) = false := h
          rwa [hxy, Bool.true_and] at hboth
        obtain ⟨i, v, w, hparting⟩ := ih (Nat.succ.inj hlength) hrest
        exact ⟨i + 1, v, w, cons_succ_iff.mpr ⟨hxy, hparting⟩⟩

/-- Lists part where their beginnings do, whatever comes behind. -/
theorem of_take (h : Parting vs ws i v w) {vs' ws' : List (Value U)}
    (hleft : vs'.take (i + 1) = vs.take (i + 1)) (hright : ws'.take (i + 1) = ws.take (i + 1)) :
    Parting vs' ws' i v w := by
  have hat {xs xs' : List (Value U)} (hx : xs'.take (i + 1) = xs.take (i + 1)) {j : Nat}
      (hj : j < i + 1) : xs'[j]? = xs[j]? := by
    rw [← List.getElem?_take_of_lt hj, hx, List.getElem?_take_of_lt hj]
  refine ⟨(hat hleft (Nat.lt_succ_self i)).trans h.left_at,
    (hat hright (Nat.lt_succ_self i)).trans h.right_at, h.unequal, fun j hj x y hx hy => ?_⟩
  have hj' : j < i + 1 := Nat.lt_succ_of_lt hj
  exact h.equal_before j hj x y ((hat hleft hj').symm.trans hx) ((hat hright hj').symm.trans hy)

end Parting

/-! ### The comparison of the elements -/

/-- What two elements at a position decide: their order, or an error if they are not ordered. -/
def verdict (position : Nat) (v w : Value U) : Except (Error U) Ordering :=
  match v.cmp? w with
  | some o => .ok o
  | none => .error (.notComparable position v.ty w.ty)

theorem verdict_eq_ok_iff {p : Nat} {v w : Value U} {o : Ordering} :
    verdict p v w = .ok o ↔ v.cmp? w = some o := by
  unfold verdict
  cases v.cmp? w <;> simp

theorem verdict_eq_error_iff {p : Nat} {v w : Value U} {e : Error U} :
    verdict p v w = .error e ↔ v.cmp? w = none ∧ e = .notComparable p v.ty w.ty := by
  unfold verdict
  cases v.cmp? w <;> simp [eq_comm]

namespace Store

variable {vs ws : List (Value U)} {x y v w : Value U}

/-- Equal heads are passed over. -/
theorem cmpFrom_cons_of_beq (hU : U.Coherent) (hxy : x.beq y = true) (p : Nat) :
    cmpFrom p (x :: vs) (y :: ws) = cmpFrom (p + 1) vs ws := by
  have hcmp : x.cmp? y = some .eq := (Value.coherentAt hU x y).mpr hxy
  rw [cmpFrom, hcmp]

/-- Unequal heads decide. -/
theorem cmpFrom_cons_of_ne (hU : U.Coherent) (hxy : x.beq y = false) (p : Nat) :
    cmpFrom p (x :: vs) (y :: ws) = verdict p x y := by
  have hcmp : x.cmp? y ≠ some .eq := fun h =>
    absurd ((Value.coherentAt hU x y).mp h) (by simp [hxy])
  unfold cmpFrom verdict
  rcases h : x.cmp? y with - | - | - | -
  · rfl
  · rfl
  · exact absurd h hcmp
  · rfl

theorem cmpFrom_of_parting (hU : U.Coherent) {i : Nat} (h : Parting vs ws i v w) (p : Nat) :
    cmpFrom p vs ws = verdict (p + i) v w := by
  induction vs generalizing ws i p with
  | nil => exact absurd h.left_at (by simp)
  | cons x vs ih =>
    cases ws with
    | nil => exact absurd h.right_at (by simp)
    | cons y ws =>
      cases i with
      | zero =>
        -- the lists part here, and what the heads decide is final
        obtain ⟨rfl, rfl, hne⟩ := Parting.cons_zero_iff.mp h
        exact cmpFrom_cons_of_ne hU hne p
      | succ i =>
        -- the heads are equal, and the tails part one index earlier but at the same position
        obtain ⟨hxy, hrest⟩ := Parting.cons_succ_iff.mp h
        rw [cmpFrom_cons_of_beq hU hxy, ih hrest, Nat.succ_add_eq_add_succ]

end Store

/-! ### The comparison of tuples -/

namespace Tuple

/-- The tuples part at the position `p`, the first one at which the elements `v` and `w` are not
equal. -/
structure PartAt (t u : Tuple U) (p : Nat) (v w : Value U) : Prop where
  value_left : t.value p = .ok v
  value_right : u.value p = .ok w
  unequal : v.beq w = false
  equal_before : ∀ q < p, ∀ x y, t.value q = .ok x → u.value q = .ok y → x.beq y = true

variable {t u : Tuple U} {p : Nat} {v w : Value U}

/-- Positions count from one, indexes from zero. -/
theorem partAt_succ_iff {i : Nat} : PartAt t u (i + 1) v w ↔ Parting t.toList u.toList i v w := by
  constructor
  · intro h
    refine ⟨(value_eq_ok_iff.mp h.value_left).2, (value_eq_ok_iff.mp h.value_right).2, h.unequal,
      fun j hj x y hx hy => ?_⟩
    have hpos : 1 ≤ j + 1 := Nat.succ_pos j
    exact h.equal_before (j + 1) (Nat.succ_lt_succ hj) x y (value_eq_ok_iff.mpr ⟨hpos, hx⟩)
      (value_eq_ok_iff.mpr ⟨hpos, hy⟩)
  · intro h
    have hpos : 1 ≤ i + 1 := Nat.succ_pos i
    refine ⟨value_eq_ok_iff.mpr ⟨hpos, h.left_at⟩, value_eq_ok_iff.mpr ⟨hpos, h.right_at⟩,
      h.unequal, fun q hq x y hx hy => ?_⟩
    obtain ⟨hq', hx'⟩ := value_eq_ok_iff.mp hx
    exact h.equal_before (q - 1) (by omega) x y hx' (value_eq_ok_iff.mp hy).2

theorem PartAt.exists_index (h : PartAt t u p v w) :
    ∃ i, p = i + 1 ∧ Parting t.toList u.toList i v w := by
  obtain ⟨hp, -⟩ := value_eq_ok_iff.mp h.value_left
  obtain ⟨i, rfl⟩ : ∃ i, p = i + 1 := ⟨p - 1, by omega⟩
  exact ⟨i, rfl, partAt_succ_iff.mp h⟩

theorem exists_partAt (hdepth : t.depth = u.depth) (h : t.beq u = false) :
    ∃ p v w, PartAt t u p v w := by
  obtain ⟨i, v, w, hparting⟩ := Parting.exists_of_beqAll_eq_false hdepth h
  exact ⟨i + 1, v, w, partAt_succ_iff.mpr hparting⟩

theorem cmp_of_partAt (hU : U.Coherent) (hdepth : t.depth = u.depth) (h : PartAt t u p v w) :
    t.cmp u = verdict p v w := by
  obtain ⟨i, rfl, hparting⟩ := h.exists_index
  rw [cmp_of_depth_eq hdepth, Store.cmpFrom_of_parting hU hparting, Nat.add_comm]

theorem PartAt.of_take (h : PartAt t u p v w) {t' u' : Tuple U}
    (hleft : t'.toList.take p = t.toList.take p) (hright : u'.toList.take p = u.toList.take p) :
    PartAt t' u' p v w := by
  obtain ⟨i, rfl, hparting⟩ := h.exists_index
  exact partAt_succ_iff.mpr (hparting.of_take hleft hright)

/-! ### Ordered or not -/

theorem cmp?_eq_none_iff : t.cmp? u = none ↔ ∃ e, t.cmp u = .error e := by
  unfold cmp?
  cases t.cmp u <;> simp [Except.toOption]

theorem compares_eq_true_iff {relation : Ordering → Bool} :
    t.compares relation u = true ↔ ∃ o, t.cmp u = .ok o ∧ relation o = true := by
  unfold compares cmp?
  cases t.cmp u <;> simp [Except.toOption]

theorem compares_of_none {relation : Ordering → Bool} (h : t.cmp? u = none) :
    t.compares relation u = false := by
  unfold compares
  rw [h]
  rfl

/-! ### Main theorem -/

/-- **The order of two tuples is decided at the first unequal elements.**  Of tuples that are not as
deep as each other the depths decide, whatever the elements.  Tuples of one depth that are equal
have the same place.  Any others part at one position, at which they are ordered as the elements
there are; if these are of different types or not ordered, this is the error, with the position and
with both types, and there is no other error.  What stands behind the position does not matter.

Two tuples are without an order exactly if their comparison fails, and then they are in none of the
four relations. -/
theorem cmp_decided_at_first_difference (hU : U.Coherent) (t u : Tuple U) :
    (t.depth ≠ u.depth → t.cmp u = .ok (compare t.depth u.depth)) ∧
    (t.depth = u.depth → t.beq u = true → t.cmp u = .ok .eq) ∧
    (t.depth = u.depth → t.beq u = false → ∃ p v w, PartAt t u p v w) ∧
    (∀ p v w, t.depth = u.depth → PartAt t u p v w →
      (t.cmp u = .ok .lt ↔ v.cmp? w = some .lt) ∧
      (t.cmp u = .ok .gt ↔ v.cmp? w = some .gt) ∧
      t.cmp u ≠ .ok .eq ∧
      (t.cmp u = .error (.notComparable p v.ty w.ty) ↔ v.ty ≠ w.ty ∨ v.cmp? w = none) ∧
      (∀ e, t.cmp u = .error e → e = .notComparable p v.ty w.ty) ∧
      ∀ t' u' : Tuple U, t'.depth = u'.depth → t'.toList.take p = t.toList.take p →
        u'.toList.take p = u.toList.take p → t'.cmp u' = t.cmp u) ∧
    (t.cmp? u = none ↔ ∃ e, t.cmp u = .error e) ∧
    (∀ relation, t.compares relation u = true ↔ ∃ o, t.cmp u = .ok o ∧ relation o = true) ∧
    (t.cmp? u = none → t.lt u = false ∧ t.le u = false ∧ t.gt u = false ∧ t.ge u = false) := by
  refine ⟨cmp_of_depth_ne, fun _ => (cmp_eq_ok_eq_iff hU).mpr, exists_partAt,
    fun p v w hdepth h => ?_, cmp?_eq_none_iff, fun relation => compares_eq_true_iff,
    fun h => ⟨compares_of_none h, compares_of_none h, compares_of_none h, compares_of_none h⟩⟩
  · have hcmp := cmp_of_partAt hU hdepth h
    refine ⟨hcmp ▸ verdict_eq_ok_iff, hcmp ▸ verdict_eq_ok_iff, fun heq => ?_, ?_,
      fun e he => (verdict_eq_error_iff.mp (hcmp ▸ he)).2, fun t' u' hdepth' ht hu => ?_⟩
    · -- an order that says "equal" would make the elements equal
      rw [hcmp, verdict_eq_ok_iff, Value.coherentAt hU v w, h.unequal] at heq
      exact Bool.false_ne_true heq
    · rw [hcmp, verdict_eq_error_iff]
      refine ⟨fun he => .inr he.1, fun he => ⟨he.elim (fun hty => ?_) id, rfl⟩⟩
      exact Option.eq_none_iff_forall_ne_some.mpr fun o ho => hty (Value.ty_eq_of_cmp? ho)
    · rw [hcmp, cmp_of_partAt hU hdepth' (h.of_take ht hu)]

/-- Tuples that part at their second position, behind the two zeros: ordered there although a NaN
and a text stand behind it, not ordered where a text or a NaN stands there itself, and of no order at
all in the last case. -/
theorem cmp_decided_at_first_difference_zeros :
    let number (n : Nat) : Value Standard :=
      .leaf (Standard.Kind.binary .double) ⟨BitVec.ofNat 64 n⟩
    let zero := number 0
    let negative := number (Nat.pow 2 63)
    let one := number (1023 * Nat.pow 2 52)
    let text : Value Standard := .leaf Standard.Kind.string "a"
    let nan : Value Standard := .leaf (Standard.Kind.binary .double) (Binary.nan .double)
    let t : Tuple Standard := ⟨⟨[zero, zero, nan], by decide⟩⟩
    let u : Tuple Standard := ⟨⟨[negative, one, text], by decide⟩⟩
    let w : Tuple Standard := ⟨⟨[negative, text, one], by decide⟩⟩
    let x : Tuple Standard := ⟨⟨[negative, nan, nan], by decide⟩⟩
    Standard.Coherent ∧ t.depth = u.depth ∧ t.depth = w.depth ∧ t.depth = x.depth ∧
      PartAt t u 2 zero one ∧ PartAt t w 2 zero text ∧ PartAt t x 2 zero nan ∧
      t.cmp u = .ok .lt ∧
      t.cmp w = .error (.notComparable 2 zero.ty text.ty) ∧
      t.cmp x = .error (.notComparable 2 zero.ty nan.ty) ∧
      t.lt x = false ∧ t.ge x = false := by
  intro number zero negative one text nan t u w x
  have hcoherent : Standard.Coherent := Standard.lawful.coherent
  have hzeros : zero.beq negative = true := by rfl
  have hpart (v : Value Standard) (y y' : Value Standard) (hne : zero.beq v = false) :
      Parting [zero, zero, y] [negative, v, y'] 1 zero v :=
    Parting.cons_succ_iff.mpr ⟨hzeros, Parting.cons_zero_iff.mpr ⟨rfl, rfl, hne⟩⟩
  have htu : PartAt t u 2 zero one := partAt_succ_iff.mpr (hpart one nan text (by rfl))
  have htw : PartAt t w 2 zero text := partAt_succ_iff.mpr (hpart text nan one (by rfl))
  have htx : PartAt t x 2 zero nan := partAt_succ_iff.mpr (hpart nan nan nan (by rfl))
  obtain ⟨-, -, -, hu, -⟩ := cmp_decided_at_first_difference hcoherent t u
  obtain ⟨-, -, -, hw, -⟩ := cmp_decided_at_first_difference hcoherent t w
  obtain ⟨-, -, -, hx, hnone, -, hfalse⟩ := cmp_decided_at_first_difference hcoherent t x
  obtain ⟨hless, -⟩ := hu 2 zero one rfl htu
  obtain ⟨-, -, -, htypes, -⟩ := hw 2 zero text rfl htw
  obtain ⟨-, -, -, hunordered, -⟩ := hx 2 zero nan rfl htx
  have herror := hunordered.mpr (.inr (by rfl))
  obtain ⟨hlt, -, -, hge⟩ := hfalse (hnone.mpr ⟨_, herror⟩)
  exact ⟨hcoherent, rfl, rfl, rfl, htu, htw, htx, hless.mpr (by rfl),
    htypes.mpr (.inl (by decide)), herror, hlt, hge⟩

end Tuple

end Polyad
