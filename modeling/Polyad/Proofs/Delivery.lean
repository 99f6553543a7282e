/-
Polyad/Proofs/Delivery.lean

A summary does not depend on how the stream is delivered.

Nothing is assumed of the arithmetic, so that what is said here holds of rounded numbers to the last
bit.

Idea.  An accumulator is `Seamless` if a batch of none changes nothing, a batch can be cut in two, and
an item is accepted as a batch of one.  From this, by induction on the parts, any way of delivering a
stream leads to the state that one batch of the whole stream leads to (`Seamless.foldl_deliver`).  A
batch that is taken item by item is seamless (`Seamless.of_foldl`), and so is one that is passed on to
a part of the state.  The mean inside of a variance is pushed exactly when the variance is, so it is
the mean of the same stream (`Variance.mean_extend`).

Main statement: `Summary.independent_of_delivery`.
-/
import Polyad.Summary.Variance

namespace Polyad

/-! ### Seamless accumulators -/

namespace Accumulator

variable {σ ι ο : Type} {a : Accumulator σ ι ο}

/-- It does not matter where a stream is cut. -/
structure Seamless (a : Accumulator σ ι ο) : Prop where
  extend_nil : ∀ state, a.extend state [] = state
  extend_append : ∀ state xs ys, a.extend state (xs ++ ys) = a.extend (a.extend state xs) ys
  accept_eq : ∀ state item, a.accept state item = a.extend state [item]

/-- A batch that is taken one item after the other, by the steps with which items are accepted. -/
theorem Seamless.of_foldl (step : σ → ι → σ)
    (hextend : ∀ state xs, a.extend state xs = xs.foldl step state)
    (haccept : ∀ state x, a.accept state x = step state x) : a.Seamless where
  extend_nil state := hextend state []
  extend_append state xs ys := by
    rw [hextend, hextend, hextend, List.foldl_append]
  accept_eq state x := by
    rw [hextend, haccept]
    rfl

/-- One part is a batch of its items. -/
theorem Seamless.deliver_eq (h : a.Seamless) (state : σ) (part : Delivery ι) :
    a.deliver state part = a.extend state part.items := by
  cases part with
  | accept item => exact h.accept_eq state item
  | extend batch => rfl

/-- **Any way of delivering a stream** is one batch of the whole stream. -/
theorem Seamless.foldl_deliver (h : a.Seamless) (state : σ) (parts : List (Delivery ι)) :
    parts.foldl a.deliver state = a.extend state (parts.flatMap Delivery.items) := by
  induction parts generalizing state with
  | nil => exact (h.extend_nil state).symm
  | cons part parts ih =>
    rw [List.foldl_cons, ih, h.deliver_eq, List.flatMap_cons, h.extend_append]

/-- Items given one by one to the reducer are a batch. -/
theorem Seamless.feed_eq (h : a.Seamless) (state : σ) (items : List ι) :
    a.reducer.feed state items = a.extend state items := by
  have hfeed : (items.map Delivery.accept).foldl a.deliver state = a.reducer.feed state items :=
    List.foldl_map
  rw [← hfeed, h.foldl_deliver, List.flatMap_map]
  exact congrArg _ (List.flatMap_singleton' items)

/-- The reducer and the collection from a whole stream. -/
theorem Seamless.reduce_start (h : a.Seamless) (items : List ι) :
    a.reducer.reduce a.start items = a.value (a.collect items) :=
  congrArg a.value (h.feed_eq a.start items)

end Accumulator

/-! ### The accumulators -/

variable {α ι : Type} [Arithmetic α] (number : ι → α)

namespace Mean

theorem seamless : (accumulator number).Seamless :=
  .of_foldl (fun m item => m.push (number item)) (fun _ _ => rfl) fun _ _ => rfl

theorem count_extend (m : Mean α) (items : List ι) :
    (m.extend number items).count = m.count + items.length := by
  induction items generalizing m with
  | nil => rfl
  | cons item items ih => exact (ih _).trans (Nat.add_right_comm m.count 1 items.length)

omit [Arithmetic α] in
theorem value?_eq_none_iff {m : Mean α} : m.value? = none ↔ m.count = 0 := by
  unfold value?
  by_cases h : m.count = 0
  · rw [if_pos h]
    exact iff_of_true rfl h
  · rw [if_neg h]
    exact iff_of_false nofun h

end Mean

namespace Variance

theorem seamless : (accumulator number).Seamless :=
  .of_foldl (fun v item => v.push (number item)) (fun _ _ => rfl) fun _ _ => rfl

/-- The mean that a variance keeps is that of the same items. -/
theorem mean_extend (v : Variance α) (items : List ι) :
    (v.extend number items).mean = v.mean.extend number items :=
  (List.foldl_hom mean fun _ _ => rfl).symm

theorem isSample_extend (v : Variance α) (items : List ι) :
    (v.extend number items).isSample = v.isSample := by
  induction items generalizing v with
  | nil => rfl
  | cons item items ih => exact ih _

/-- The variance in the case that there are enough numbers, and the other one. -/
theorem value?_eq (v : Variance α) :
    v.value? = if v.count = 0 ∨ v.isSample = true ∧ v.count = 1 then none
      else some (v.squares / Arithmetic.ofCount (if v.isSample then v.count - 1 else v.count)) := by
  unfold value?
  rcases v.isSample with - | - <;> rcases v.count with - | - | n <;> rfl

theorem value?_eq_none_iff {v : Variance α} :
    v.value? = none ↔ v.count = 0 ∨ v.isSample = true ∧ v.count = 1 := by
  rw [value?_eq]
  split
  · next h => exact iff_of_true rfl h
  · next h => exact iff_of_false nofun h

end Variance

namespace Deviation

/-- A batch is passed on to the variance. -/
theorem seamless (root : α → α) : (accumulator root number).Seamless where
  extend_nil _ := rfl
  extend_append d xs ys := congrArg mk ((Variance.seamless number).extend_append d.variance xs ys)
  accept_eq _ _ := rfl

theorem value?_eq_none_iff {root : α → α} {d : Deviation α} :
    d.value? root = none ↔ d.variance.value? = none :=
  Option.map_eq_none_iff

end Deviation

/-! ### Main theorem -/

namespace Summary

/-- **The delivery of a stream is of no account.**  Whatever state a mean, a variance or a deviation is
in, any way of cutting a stream into items and batches leads to the state that one batch of the whole
stream leads to.  As a reducer each of them gives what is collected from the whole stream.

On the same stream, the variance has the count and the mean that the mean has, and the deviation is
the root of the variance.  A mean is there unless there are no items, a variance or a deviation unless
there are none or, for a sample, only one.  What is a sample remains one.

The counts are natural numbers.  For counts of 64 bits this holds of less than `2 ^ 64` items, those
counted by a given state included. -/
theorem independent_of_delivery (root : α → α) (number : ι → α) :
    (∀ (m : Mean α) (parts : List (Delivery ι)),
      parts.foldl (Mean.accumulator number).deliver m
        = m.extend number (parts.flatMap Delivery.items)) ∧
    (∀ (v : Variance α) (parts : List (Delivery ι)),
      parts.foldl (Variance.accumulator number).deliver v
        = v.extend number (parts.flatMap Delivery.items)) ∧
    (∀ (d : Deviation α) (parts : List (Delivery ι)),
      parts.foldl (Deviation.accumulator root number).deliver d
        = d.extend number (parts.flatMap Delivery.items)) ∧
    (∀ items : List ι,
      (Mean.accumulator number).reducer.reduce .start items
        = ((Mean.accumulator number).collect items).value? ∧
      (Variance.accumulator number).reducer.reduce (.start false) items
        = ((Variance.accumulator number).collect items).value? ∧
      (Deviation.accumulator root number).reducer.reduce (.start false) items
        = ((Deviation.accumulator root number).collect items).value? root) ∧
    (∀ (isSample : Bool) (items : List ι),
      let m := (Mean.start : Mean α).extend number items
      let v := (Variance.start isSample : Variance α).extend number items
      let d := (Deviation.start isSample : Deviation α).extend number items
      m.count = items.length ∧ v.count = m.count ∧ v.mean.value? = m.value? ∧
      d.value? root = v.value?.map root ∧
      (m.value? = none ↔ items = []) ∧
      (v.value? = none ↔ items = [] ∨ isSample = true ∧ items.length = 1) ∧
      (d.value? root = none ↔ v.value? = none)) ∧
    (∀ (v : Variance α) (items : List ι) (item : ι),
      (v.extend number items).isSample = v.isSample ∧
      ((Variance.accumulator number).accept v item).isSample = v.isSample) ∧
    ∀ (d : Deviation α) (items : List ι) (item : ι),
      (d.extend number items).variance.isSample = d.variance.isSample ∧
      ((Deviation.accumulator root number).accept d item).variance.isSample
        = d.variance.isSample := by
  refine ⟨(Mean.seamless number).foldl_deliver, (Variance.seamless number).foldl_deliver,
    (Deviation.seamless number root).foldl_deliver, fun items => ⟨?_, ?_, ?_⟩,
    fun isSample items => ?_, fun v items item => ⟨?_, ?_⟩, fun d items item => ⟨?_, ?_⟩⟩
  · exact (Mean.seamless number).reduce_start items
  · exact (Variance.seamless number).reduce_start items
  · exact (Deviation.seamless number root).reduce_start items
  · intro m v d
    have hmean : v.mean = m := Variance.mean_extend number (.start isSample) items
    have hcount : m.count = items.length :=
      (Mean.count_extend number .start items).trans (Nat.zero_add _)
    have hsample : v.isSample = isSample := Variance.isSample_extend number (.start isSample) items
    have hvariance : v.count = items.length := (congrArg Mean.count hmean).trans hcount
    refine ⟨hcount, hvariance.trans hcount.symm, congrArg Mean.value? hmean, rfl, ?_, ?_,
      Deviation.value?_eq_none_iff⟩
    · rw [Mean.value?_eq_none_iff, hcount, List.length_eq_zero_iff]
    · rw [Variance.value?_eq_none_iff, hvariance, hsample, List.length_eq_zero_iff]
  · exact v.isSample_extend number items
  · exact v.isSample_extend number [item]
  · exact d.variance.isSample_extend number items
  · exact d.variance.isSample_extend number [item]

end Summary

end Polyad
