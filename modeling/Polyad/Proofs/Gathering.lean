/-
Polyad/Proofs/Gathering.lean

Gathering the items of a stream as they are pushed gives the tuple that is assembled by drawing
them.

Idea.  After any items `xs` the state is a function of `xs`: how many were passed over, and the part
of `xs` that is kept, which is the part that an assembly takes (`after`).  One item more takes the
state after `xs` to the state after `xs` and the item (`accept_after`), so a whole stream takes the
first state to the state after the stream (`feed_after`).  What is kept is never more than what was
asked for, and this was not refused at the beginning; so the assembly at the end cannot be refused
either, and an end without a tuple means that the stream was too short.

Main statement: `reduce_eq_assemble`.
-/
import Polyad.Proofs.Drawing
import Polyad.Reducer.Gathering

namespace Polyad.Gathering

variable {U : Universe} {offset depth : Nat}

/-- The state after the items `xs`: those before the offset have been passed over, and of the others
the first `depth` are kept. -/
def after (offset depth : Nat) (xs : List (Value U)) : Gathering U :=
  ⟨offset, depth, min xs.length offset, (xs.drop offset).take depth⟩

/-! ### The beginning -/

/-- No item has been seen in the first state. -/
theorem start_eq (offset depth : Nat) :
    start (U := U) offset depth
      = if maxDepth < depth then .error (.overflow depth) else .ok (after offset depth []) := by
  unfold start after
  rw [List.drop_nil, List.take_nil, List.length_nil, Nat.zero_min]

theorem start_eq_error_iff {e : Error U} :
    start offset depth = .error e ↔ maxDepth < depth ∧ e = .overflow depth := by
  rw [start_eq]
  by_cases h : maxDepth < depth <;> simp [h, eq_comm]

theorem start_eq_ok_iff {g : Gathering U} :
    start offset depth = .ok g ↔ depth ≤ maxDepth ∧ g = after offset depth [] := by
  rw [start_eq, ← Nat.not_lt]
  by_cases h : maxDepth < depth <;> simp [h, eq_comm]

/-! ### One item, and any number of them -/

/-- **One item.**  It is passed over before the offset, kept while there is room, and ignored then.
-/
theorem accept_after (xs : List (Value U)) (x : Value U) :
    reducer.accept (after offset depth xs) x = after offset depth (xs ++ [x]) := by
  have hlength : (xs ++ [x]).length = xs.length + 1 := by simp
  by_cases hskip : xs.length < offset
  · -- nothing is kept yet, neither before the item nor after it
    have hbefore : xs.drop offset = [] := List.drop_eq_nil_of_le (Nat.le_of_lt hskip)
    have hafter : (xs ++ [x]).drop offset = [] := List.drop_eq_nil_of_le (by omega)
    simp only [reducer, after, hbefore, hafter, hlength, List.take_nil]
    rw [if_pos (by omega)]
    congr 1
    omega
  · have hdrop : (xs ++ [x]).drop offset = xs.drop offset ++ [x] :=
      List.drop_append_of_le_length (Nat.le_of_not_lt hskip)
    have hskipped : min (xs.length + 1) offset = min xs.length offset := by omega
    simp only [reducer, after, hdrop, hlength, hskipped]
    rw [if_neg (by omega)]
    by_cases hroom : (xs.drop offset).length < depth
    · have hall : (xs.drop offset).take depth = xs.drop offset :=
        List.take_of_length_le (Nat.le_of_lt hroom)
      have hkept : (xs.drop offset ++ [x]).length ≤ depth := by
        rw [List.length_append, List.length_singleton]
        exact hroom
      rw [hall, if_pos hroom, List.take_of_length_le hkept]
    · have hfull : depth ≤ (xs.drop offset).length := Nat.le_of_not_lt hroom
      rw [if_neg (by rw [List.length_take]; omega), List.take_append_of_le_length hfull]

/-- **Any items.**  They take the state after `xs` to the state after `xs` and them. -/
theorem feed_after (xs ys : List (Value U)) :
    reducer.feed (after offset depth xs) ys = after offset depth (xs ++ ys) := by
  induction ys generalizing xs with
  | nil => rw [Reducer.feed_nil, List.append_nil]
  | cons y ys ih =>
    rw [Reducer.feed_cons, accept_after, ih, List.append_assoc]
    rfl

theorem length_values_after (xs : List (Value U)) :
    (after offset depth xs).values.length ≤ depth :=
  List.length_take_le _ _

/-! ### The end -/

/-- The kept items are assembled to what all items are assembled to. -/
theorem assemble_values_after (h : depth ≤ maxDepth) (xs : List (Value U)) :
    (Tuple.assemble (.finite (after offset depth xs).values) 0 depth).1
      = (Tuple.assemble (.finite xs) offset depth).1 := by
  apply Tuple.assemble_congr
  have hkept : ((after offset depth xs).values.drop 0).take depth = (xs.drop offset).take depth :=
    List.take_of_length_le (length_values_after xs)
  rw [Bare.assemble_finite _ h, Bare.assemble_finite _ h, hkept]

/-- An assembly that was not refused at the beginning is not refused at the end. -/
theorem assemble_values_ne_error (h : depth ≤ maxDepth) (xs : List (Value U)) (e : Error U) :
    (Tuple.assemble (.finite (after offset depth xs).values) 0 depth).1 ≠ .error e := by
  intro herror
  obtain ⟨hdepth, -⟩ := Tuple.assemble_eq_error_iff.mp herror
  omega

theorem finish_of_assemble {g : Gathering U} {result : Option (Tuple U)}
    (h : (Tuple.assemble (.finite g.values) 0 g.depth).1 = .ok result) :
    reducer.finish g = result := by
  simp only [reducer, h]

/-- The result in the state after a stream is the outcome of the assembly from it. -/
theorem finish_after (h : depth ≤ maxDepth) (xs : List (Value U)) :
    (Tuple.assemble (.finite xs) offset depth).1
      = .ok (reducer.finish (after offset depth xs)) := by
  rw [← assemble_values_after h]
  cases hr : (Tuple.assemble (.finite (after offset depth xs).values) 0 depth).1 with
  | error e => exact absurd hr (assemble_values_ne_error h xs e)
  | ok result => rw [finish_of_assemble hr]

/-- **Gathering is assembling.**  For every stream, offset and depth: gathering is refused exactly
if the assembly from the stream is, and with the same error, which is that the depth is too great.
Otherwise the whole stream is reduced to what is assembled from it: the `depth` items from the
offset on if the stream reaches that far, no tuple if it is shorter, and the empty tuple, whatever
the offset, if no items are asked for.

After any part of the stream at most `depth` items are held, and assembling them is not refused. -/
theorem reduce_eq_assemble (offset depth : Nat) (stream : List (Value U)) :
    (∀ e : Error U, start offset depth = .error e ↔
      (Tuple.assemble (.finite stream) offset depth).1 = .error e) ∧
    (∀ e : Error U, start offset depth = .error e ↔ maxDepth < depth ∧ e = .overflow depth) ∧
    ∀ g, start offset depth = .ok g →
      (Tuple.assemble (.finite stream) offset depth).1 = .ok (reducer.reduce g stream) ∧
      (offset + depth ≤ stream.length →
        ∃ t, reducer.reduce g stream = some t ∧ t.toList = (stream.drop offset).take depth) ∧
      (0 < depth → stream.length < offset + depth → reducer.reduce g stream = none) ∧
      (depth = 0 → reducer.reduce g stream = some .empty) ∧
      ∀ xs, xs <+: stream →
        (reducer.feed g xs).values.length ≤ depth ∧
        ∀ e, (Tuple.assemble (.finite (reducer.feed g xs).values) 0 (reducer.feed g xs).depth).1
          ≠ .error e := by
  refine ⟨fun e => ?_, fun e => start_eq_error_iff, fun g hg => ?_⟩
  · rw [start_eq_error_iff, Tuple.assemble_eq_error_iff]
  obtain ⟨hdepth, rfl⟩ := start_eq_ok_iff.mp hg
  have hstream : (Tuple.assemble (.finite stream) offset depth).1
      = .ok (reducer.reduce (after offset depth []) stream) := by
    unfold Reducer.reduce
    rw [feed_after, List.nil_append, finish_after hdepth]
  refine ⟨hstream, fun h => ?_, fun hpos h => ?_, ?_, fun xs _ => ?_⟩
  · obtain ⟨t, ht, hvalues⟩ := Tuple.assemble_of_enough hdepth h
    exact ⟨t, Except.ok.inj (hstream.symm.trans ht), hvalues⟩
  · have hnone := Tuple.assemble_of_short hdepth hpos h
    exact Except.ok.inj (hstream.symm.trans hnone)
  · rintro rfl
    exact Except.ok.inj (hstream.symm.trans Tuple.assemble_zero)
  · rw [feed_after]
    exact ⟨length_values_after _, assemble_values_ne_error hdepth _⟩

/-- Two items after the first one of a stream of four, three after the second one, which it does not
have, and none after more than it has; seventeen are refused at the beginning. -/
theorem reduce_eq_assemble_letters :
    let letter (c : Char) : Value Standard := .leaf .char c
    let stream : List (Value Standard) := ['a', 'b', 'c', 'd'].map letter
    ∃ g g' g'' t, start 1 2 = .ok g ∧ start 2 3 = .ok g' ∧ start 5 0 = .ok g'' ∧
      1 + 2 ≤ stream.length ∧ reducer.reduce g stream = some t ∧
      t.toList = ['b', 'c'].map letter ∧
      0 < 3 ∧ stream.length < 2 + 3 ∧ reducer.reduce g' stream = none ∧
      reducer.reduce g'' stream = some .empty ∧
      ['a', 'b', 'c', 'd'].map letter <+: stream ∧ (reducer.feed g stream).values.length ≤ 2 ∧
      start (U := Standard) 0 17 = .error (.overflow 17) := by
  intro letter stream
  obtain ⟨-, -, hlong⟩ := reduce_eq_assemble 1 2 stream
  obtain ⟨-, -, hshort⟩ := reduce_eq_assemble 2 3 stream
  obtain ⟨-, -, hnone⟩ := reduce_eq_assemble 5 0 stream
  obtain ⟨-, hrefused, -⟩ := reduce_eq_assemble 0 17 stream
  obtain ⟨-, henough, -, -, hheld⟩ := hlong _ rfl
  obtain ⟨-, -, htoo, -⟩ := hshort _ rfl
  obtain ⟨-, -, -, hempty, -⟩ := hnone _ rfl
  obtain ⟨t, ht, hvalues⟩ := henough (by decide)
  have hpart : stream <+: stream := List.prefix_rfl
  exact ⟨_, _, _, t, rfl, rfl, rfl, by decide, ht, hvalues, by decide, by decide,
    htoo (by decide) (by decide), hempty rfl, hpart, (hheld stream hpart).1,
    (hrefused _).mpr ⟨by decide, rfl⟩⟩

end Polyad.Gathering
