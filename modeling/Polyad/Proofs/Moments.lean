/-
Polyad/Proofs/Moments.lean

With exact numbers, the mean and the variance that are kept up to date are those that are computed from
all numbers at once.

Idea.  After any numbers the state is known in closed form: their count, their `average` and their
`scatter`, the sum of the squared distances from the average.  Both sums that these are made of, that
of the numbers and that of their squares, grow by one summand, and the recurrences for the average and
the scatter follow from `length_mul_average`, which also holds of no numbers at all.  So the first
number is no case of its own.

That nothing is divided by zero cannot be seen in a field where this has a value.  It is said of
`Checked` numbers, where it has none: the same program never comes to it (`Variance.extend_checked`,
`Variance.value?_checked`).

Main statement: `Summary.exact_moments`.
-/
import Mathlib.Algebra.Order.Field.Rat
import Mathlib.Algebra.BigOperators.Group.List.Basic
import Mathlib.Algebra.Order.BigOperators.Group.List
import Mathlib.Data.List.Induction
import Mathlib.Tactic.LinearCombination
import Mathlib.Tactic.Ring
import Polyad.Proofs.Delivery

namespace Polyad

/-- Exact arithmetic. -/
instance : Arithmetic ℚ where
  ofCount n := n

namespace Summary

variable {xs ys : List ℚ} {x : ℚ}

/-! ### Average and scatter -/

/-- The sum of the numbers by their count. -/
def average (xs : List ℚ) : ℚ := xs.sum / xs.length

/-- The sum of the squared distances from the average. -/
def scatter (xs : List ℚ) : ℚ := (xs.map fun x => (x - average xs) ^ 2).sum

/-- The count times the average is the sum, also where there are no numbers. -/
theorem length_mul_average (xs : List ℚ) : xs.length * average xs = xs.sum := by
  rcases xs with - | ⟨x, xs⟩
  · exact zero_mul _
  · exact mul_div_cancel₀ _ (Nat.cast_ne_zero.mpr (Nat.succ_ne_zero _))

theorem succ_mul_average (xs : List ℚ) (x : ℚ) :
    (xs.length + 1 : ℚ) * average (xs ++ [x]) = xs.sum + x := by
  have h := length_mul_average (xs ++ [x])
  rwa [List.length_append, List.length_singleton, Nat.cast_add, Nat.cast_one, List.sum_append,
    List.sum_singleton] at h

/-- A new number moves the average by its distance from it, divided by the new count. -/
theorem average_concat (xs : List ℚ) (x : ℚ) :
    average (xs ++ [x]) = average xs + (x - average xs) / (xs.length + 1) := by
  have hpos : (xs.length + 1 : ℚ) ≠ 0 := Nat.cast_add_one_ne_zero _
  apply mul_left_cancel₀ hpos
  rw [mul_add, mul_div_cancel₀ _ hpos]
  linear_combination succ_mul_average xs x - length_mul_average xs

/-- The squares of all distances from a number, by the sums of the numbers and of their squares. -/
theorem sum_sq_sub (xs : List ℚ) (c : ℚ) :
    (xs.map fun x => (x - c) ^ 2).sum
      = (xs.map (· ^ 2)).sum - 2 * c * xs.sum + xs.length * c ^ 2 := by
  induction xs with
  | nil => simp
  | cons x xs ih =>
    rw [List.map_cons, List.sum_cons, ih]
    simp only [List.map_cons, List.sum_cons, List.length_cons, Nat.cast_add, Nat.cast_one]
    ring

theorem scatter_eq (xs : List ℚ) :
    scatter xs = (xs.map (· ^ 2)).sum - average xs * xs.sum := by
  rw [scatter, sum_sq_sub]
  linear_combination average xs * length_mul_average xs

/-- A new number adds the product of its distances from the average before it and from the one after
it. -/
theorem scatter_concat (xs : List ℚ) (x : ℚ) :
    scatter (xs ++ [x]) = scatter xs + (x - average xs) * (x - average (xs ++ [x])) := by
  rw [scatter_eq, scatter_eq, List.map_append, List.sum_append, List.sum_append, List.map_singleton,
    List.sum_singleton, List.sum_singleton]
  linear_combination average (xs ++ [x]) * length_mul_average xs - average xs * succ_mul_average xs x

theorem scatter_nonneg (xs : List ℚ) : 0 ≤ scatter xs := by
  refine List.sum_nonneg fun y hy => ?_
  obtain ⟨x, -, rfl⟩ := List.mem_map.mp hy
  exact sq_nonneg _

theorem average_perm (h : xs.Perm ys) : average xs = average ys := by
  rw [average, average, h.sum_eq, h.length_eq]

theorem scatter_perm (h : xs.Perm ys) : scatter xs = scatter ys := by
  rw [scatter, scatter, average_perm h]
  exact (h.map _).sum_eq

theorem average_nil : average [] = 0 := zero_div _

end Summary

open Summary

/-! ### The states in closed form -/

variable (xs : List ℚ) (x : ℚ) (isSample : Bool)

namespace Mean

/-- The state after the numbers `xs`. -/
def after : Mean ℚ := ⟨xs.length, average xs⟩

theorem value?_after : (after xs).value? = if xs = [] then none else some (average xs) := by
  rcases xs with - | ⟨x, xs⟩ <;> rfl

/-- **One more number** for the mean. -/
theorem push_after : (after xs).push x = after (xs ++ [x]) := by
  unfold after
  rw [average_concat, List.length_append, List.length_singleton, ← Nat.cast_succ]
  rfl

theorem after_perm {xs ys : List ℚ} (h : xs.Perm ys) : after xs = after ys := by
  rw [after, after, average_perm h, h.length_eq]

theorem extend_eq_after : (start : Mean ℚ).extend id xs = after xs := by
  induction xs using List.reverseRecOn with
  | nil => exact congrArg (mk 0) (Nat.cast_zero.trans average_nil.symm)
  | append_singleton xs x ih =>
    have hlast : (start : Mean ℚ).extend id (xs ++ [x]) = (extend id start xs).push x :=
      List.foldl_concat ..
    rw [hlast, ih, push_after]

end Mean

namespace Variance

/-- The state after the numbers `xs`. -/
def after : Variance ℚ := ⟨.after xs, scatter xs, isSample⟩

/-- **One more number** for the variance. -/
theorem push_after : (after xs isSample).push x = after (xs ++ [x]) isSample := by
  -- where there are no numbers, the mean before the first is taken to be zero, as their average is
  have hbefore : (Mean.after xs).value?.getD (Arithmetic.ofCount 0) = average xs := by
    rw [Mean.value?_after]
    split
    · next h =>
      rw [h, average_nil]
      exact Nat.cast_zero
    · rfl
  have hafter : (Mean.after (xs ++ [x])).value?.getD x = average (xs ++ [x]) := by
    rw [Mean.value?_after, if_neg (List.concat_ne_nil x xs)]
    rfl
  show Variance.mk ((Mean.after xs).push x) (scatter xs +
    (x - (Mean.after xs).value?.getD (Arithmetic.ofCount 0)) *
      (x - ((Mean.after xs).push x).value?.getD x)) isSample = _
  rw [hbefore, Mean.push_after, hafter, ← scatter_concat]
  rfl

theorem after_perm {xs ys : List ℚ} (h : xs.Perm ys) : after xs isSample = after ys isSample := by
  rw [after, after, Mean.after_perm h, scatter_perm h]

theorem extend_eq_after : (start isSample : Variance ℚ).extend id xs = after xs isSample := by
  induction xs using List.reverseRecOn with
  | nil => exact congrArg₂ (mk · · isSample) (Mean.extend_eq_after []) Nat.cast_zero
  | append_singleton xs x ih =>
    have hlast : (start isSample : Variance ℚ).extend id (xs ++ [x])
        = (extend id (start isSample) xs).push x := List.foldl_concat ..
    rw [hlast, ih, push_after]

theorem value?_after_population :
    (after xs false).value? = if xs = [] then none else some (scatter xs / xs.length) := by
  rw [value?_eq]
  by_cases h : xs = []
  · rw [if_pos h]
    exact if_pos (.inl (List.length_eq_zero_iff.mpr h))
  · rw [if_neg h]
    exact if_neg fun hnone => hnone.elim (fun h₀ => h (List.length_eq_zero_iff.mp h₀)) nofun

theorem value?_after_sample :
    (after xs true).value? = if xs.length < 2 then none else some (scatter xs / (xs.length - 1)) := by
  have hfew : ((after xs true).count = 0 ∨ true = true ∧ (after xs true).count = 1) ↔ xs.length < 2 := by
    show (xs.length = 0 ∨ true = true ∧ xs.length = 1) ↔ _
    rw [eq_self, true_and]
    omega
  rw [value?_eq]
  refine (if_congr hfew rfl rfl).trans ?_
  by_cases h : xs.length < 2
  · rw [if_pos h, if_pos h]
  · rw [if_neg h, if_neg h]
    exact congrArg (some <| scatter xs / ·) (Nat.cast_pred (by omega))

theorem value?_nonneg {v : Variance ℚ} (hv : 0 ≤ v.squares) {y : ℚ} (hy : v.value? = some y) :
    0 ≤ y := by
  rw [value?_eq] at hy
  split at hy
  · exact nomatch hy
  · obtain rfl := Option.some.inj hy
    exact div_nonneg hv (Nat.cast_nonneg _)

end Variance

/-! ### Numbers that may be missing -/

/-- An exact number, or none where something was divided by zero or the root was taken of a negative
number. -/
def Checked : Type := Option ℚ

namespace Checked

def of (x : ℚ) : Checked := some x

/-- What is computed with a missing number is missing. -/
def both (f : ℚ → ℚ → Checked) : Checked → Checked → Checked
  | some x, some y => f x y
  | _, _ => none

instance : Arithmetic Checked where
  add := both fun x y => of (x + y)
  sub := both fun x y => of (x - y)
  mul := both fun x y => of (x * y)
  div := both fun x y => if y = 0 then none else of (x / y)
  ofCount n := of n

theorem div_of_ne {x y : ℚ} (hy : y ≠ 0) : of x / of y = of (x / y) := if_neg hy

/-- A root that no negative number has. -/
def root (f : ℚ → ℚ) : Checked → Checked
  | some x => if x < 0 then none else of (f x)
  | none => none

theorem root_of_nonneg (f : ℚ → ℚ) {x : ℚ} (hx : 0 ≤ x) : root f (of x) = of (f x) :=
  if_neg (not_lt.mpr hx)

end Checked

namespace Mean

/-- The same state with numbers of which none is missing. -/
def checked (m : Mean ℚ) : Mean Checked := ⟨m.count, .of m.mean⟩

/-- A mean is only ever divided by a count that is not zero. -/
theorem push_checked (m : Mean ℚ) : m.checked.push (.of x) = (m.push x).checked := by
  have hpos : ((m.count + 1 : ℕ) : ℚ) ≠ 0 := Nat.cast_ne_zero.mpr (Nat.succ_ne_zero _)
  have hdiv := Checked.div_of_ne (x := x - m.mean) hpos
  exact congrArg (fun step => mk (m.count + 1) (Checked.of m.mean + step)) hdiv

theorem value?_checked (m : Mean ℚ) : m.checked.value? = m.value?.map Checked.of := by
  unfold value?
  by_cases h : m.count = 0
  · rw [if_pos h]
    exact if_pos h
  · rw [if_neg h]
    exact if_neg h

theorem extend_checked (m : Mean ℚ) : m.checked.extend .of xs = (m.extend id xs).checked :=
  List.foldl_hom checked fun m x => push_checked x m

end Mean

namespace Variance

/-- The same state with numbers of which none is missing. -/
def checked (v : Variance ℚ) : Variance Checked := ⟨v.mean.checked, .of v.squares, v.isSample⟩

theorem push_checked (v : Variance ℚ) : v.checked.push (.of x) = (v.push x).checked := by
  have hgetD (m : Mean ℚ) (y : ℚ) : m.checked.value?.getD (.of y) = .of (m.value?.getD y) := by
    rw [Mean.value?_checked, Option.getD_map]
  have hbefore : v.mean.checked.value?.getD (Arithmetic.ofCount 0) = .of (v.mean.value?.getD 0) :=
    hgetD v.mean 0
  show mk (v.mean.checked.push (.of x)) (.of v.squares +
    (.of x - v.mean.checked.value?.getD (Arithmetic.ofCount 0)) *
      (.of x - (v.mean.checked.push (.of x)).value?.getD (.of x))) v.isSample = _
  rw [Mean.push_checked, hbefore, hgetD]
  rfl

theorem extend_checked (v : Variance ℚ) : v.checked.extend .of xs = (v.extend id xs).checked :=
  List.foldl_hom checked fun v x => push_checked x v

/-- The sum of squares is only divided by a count that is not zero. -/
theorem value?_checked (v : Variance ℚ) : v.checked.value? = v.value?.map Checked.of := by
  rw [value?_eq, value?_eq]
  by_cases h : v.count = 0 ∨ v.isSample = true ∧ v.count = 1
  · rw [if_pos h]
    exact if_pos h
  · have hcount : (if v.isSample then v.count - 1 else v.count) ≠ 0 := by
      split
      · next hsample =>
        have : v.count ≠ 1 := fun h₁ => h (.inr ⟨hsample, h₁⟩)
        omega
      · exact fun h₀ => h (.inl h₀)
    have hdiv := Checked.div_of_ne (x := v.squares) (Nat.cast_ne_zero.mpr hcount)
    rw [if_neg h]
    exact (if_neg h).trans (congrArg some hdiv)

end Variance

/-- No root is taken of a negative number. -/
theorem Deviation.value?_checked (root : ℚ → ℚ) {v : Variance ℚ} (hv : 0 ≤ v.squares) :
    (mk v.checked).value? (Checked.root root) = ((mk v).value? root).map Checked.of := by
  have hvalue : (mk v.checked).value? (Checked.root root)
      = (v.value?.map Checked.of).map (Checked.root root) :=
    congrArg (Option.map _) v.value?_checked
  have hroot : (mk v).value? root = v.value?.map root := rfl
  rw [hvalue, hroot]
  rcases hy : v.value? with - | y
  · rfl
  · exact congrArg some (Checked.root_of_nonneg root (Variance.value?_nonneg hv hy))

/-! ### Main theorem -/

namespace Summary

/-- **With exact numbers the summaries are those of the definitions.**  After any numbers their count is
known; the mean is their average, and the sum that the variance keeps is their scatter, which is not
negative.  The variance is the scatter divided by the count, and for a sample by one less; it is missing
only where there are no numbers or, for a sample, only one.  The deviation is the root of a number that
is not negative.

Nothing is ever divided by zero, and no root is taken of a negative number: with numbers that would be
missing then, the states and the summaries are the same, and no number is missing.  The order of the
numbers does not matter.

The count is a natural number.  For a count of 64 bits all this holds of less than `2 ^ 64` numbers. -/
theorem exact_moments (root : ℚ → ℚ) (xs : List ℚ) :
    let m := (Mean.start : Mean ℚ).extend id xs
    let v (isSample : Bool) := (Variance.start isSample : Variance ℚ).extend id xs
    let d (isSample : Bool) := (Deviation.start isSample : Deviation ℚ).extend id xs
    m.count = xs.length ∧
    m.value? = (if xs = [] then none else some (average xs)) ∧
    (∀ isSample, (v isSample).count = xs.length ∧ (v isSample).mean = m ∧
      (v isSample).squares = scatter xs ∧ 0 ≤ (v isSample).squares) ∧
    (v false).value? = (if xs = [] then none else some (scatter xs / xs.length)) ∧
    (v true).value? = (if xs.length < 2 then none else some (scatter xs / (xs.length - 1))) ∧
    (∀ isSample, (d isSample).value? root = (v isSample).value?.map root ∧
      ∀ y, (v isSample).value? = some y → 0 ≤ y) ∧
    ((Mean.start : Mean Checked).extend .of xs = m.checked ∧
      m.checked.value? = m.value?.map .of) ∧
    (∀ isSample,
      (Variance.start isSample : Variance Checked).extend .of xs = (v isSample).checked ∧
      (v isSample).checked.value? = (v isSample).value?.map .of ∧
      ((Deviation.start isSample : Deviation Checked).extend .of xs).value? (Checked.root root)
        = ((d isSample).value? root).map .of) ∧
    ∀ ys, xs.Perm ys →
      (Mean.start : Mean ℚ).extend id ys = m ∧
      ∀ isSample, (Variance.start isSample : Variance ℚ).extend id ys = v isSample := by
  intro m v d
  have hm : m = .after xs := Mean.extend_eq_after xs
  have hv (isSample : Bool) : v isSample = .after xs isSample := Variance.extend_eq_after xs isSample
  have hkept (isSample : Bool) : (v isSample).count = xs.length ∧ (v isSample).mean = m ∧
      (v isSample).squares = scatter xs := by
    rw [hv, hm]
    exact ⟨rfl, rfl, rfl⟩
  have hscatter (isSample : Bool) : 0 ≤ (v isSample).squares := by
    rw [(hkept isSample).2.2]
    exact scatter_nonneg xs
  have hchecked (isSample : Bool) :
      (Deviation.start isSample : Deviation Checked).extend .of xs = ⟨(v isSample).checked⟩ :=
    congrArg Deviation.mk (Variance.extend_checked xs (.start isSample))
  refine ⟨congrArg Mean.count hm, (congrArg Mean.value? hm).trans (Mean.value?_after xs),
    fun isSample => ?_,
    (congrArg Variance.value? (hv false)).trans (Variance.value?_after_population xs),
    (congrArg Variance.value? (hv true)).trans (Variance.value?_after_sample xs),
    fun isSample => ⟨rfl, fun y => Variance.value?_nonneg (hscatter isSample)⟩,
    ⟨Mean.extend_checked xs .start, m.value?_checked⟩,
    fun isSample => ⟨Variance.extend_checked xs (.start isSample), (v isSample).value?_checked, ?_⟩,
    fun ys h => ⟨?_, fun isSample => ?_⟩⟩
  · obtain ⟨hcount, hmean, hsquares⟩ := hkept isSample
    exact ⟨hcount, hmean, hsquares, hscatter isSample⟩
  · rw [hchecked]
    exact Deviation.value?_checked root (hscatter isSample)
  · rw [hm, Mean.extend_eq_after, Mean.after_perm h]
  · rw [hv, Variance.extend_eq_after, Variance.after_perm isSample h]

/-- Three numbers, in two orders: the mean of each is 5, the variance 26 by 3, and for a sample 13. -/
theorem exact_moments_three :
    let v (isSample : Bool) := (Variance.start isSample : Variance ℚ).extend id [2, 4, 9]
    ([2, 4, 9] : List ℚ).Perm [9, 2, 4] ∧
      ((Mean.start : Mean ℚ).extend id [2, 4, 9]).value? = some 5 ∧
      (v false).value? = some (26 / 3) ∧ (v true).value? = some 13 ∧
      (Mean.start : Mean ℚ).extend id [9, 2, 4] = (Mean.start : Mean ℚ).extend id [2, 4, 9] ∧
      (Variance.start true : Variance ℚ).extend id [9, 2, 4] = v true := by
  have hperm : ([2, 4, 9] : List ℚ).Perm [9, 2, 4] := by decide
  obtain ⟨-, hmean, -, hpopulation, hsample, -, -, -, horder⟩ := exact_moments id [2, 4, 9]
  obtain ⟨hmeans, hvariances⟩ := horder [9, 2, 4] hperm
  have haverage : average [2, 4, 9] = 5 := by norm_num [average]
  have hscatter : scatter [2, 4, 9] = 26 := by norm_num [scatter, haverage]
  refine ⟨hperm, ?_, ?_, ?_, hmeans, hvariances true⟩
  · rw [hmean, haverage]
    rfl
  · rw [hpopulation, hscatter, if_neg (List.cons_ne_nil _ _)]
    norm_num
  · rw [hsample, hscatter]
    norm_num

end Summary

end Polyad
