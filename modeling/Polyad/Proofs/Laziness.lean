/-
Polyad/Proofs/Laziness.lean

How much of a source is looked at when a tuple is built from it: as many items as it takes to know
the outcome, and never one more.

A source has finitely many items or one for every number, so its size is a number or infinite.  All
of its items make a tuple if they are at most `maxDepth`, and one item more than that is drawn at
most.  The `depth` items after the first `offset` make a tuple if the source has that many, and
nothing is drawn where the outcome does not depend on it.

Idea.  To build a tuple is to draw items one by one, to drop the first ones and to keep the others
(`Assembly.step`).  After `n` draws the state depends on the first `n` items only (`Assembly.after`),
so one step is one more item, and the run halts as soon as there is no item left or none to be kept,
on endless sources too.  What is kept then is what the tuple is made of (`front_drop`).

Main statement: `Tuple.built_from_source`.
-/
import Polyad.Proofs.Drawing
import Mathlib.Computability.StateTransition
import Mathlib.Data.ENat.Lattice

namespace Polyad

open StateTransition

/-! ### What a source has -/

namespace Source

variable {α : Type} {source : Source α} {n : Nat}

/-- How many items there are. -/
def size : Source α → ℕ∞
  | finite items => items.length
  | endless _ _ => ⊤

/-- The item at an index, counted from the next item on. -/
def item? : Source α → Nat → Option α
  | finite items, i => items[i]?
  | endless item start, i => some (item (start + i))

theorem item?_eq_none_iff : source.item? n = none ↔ source.size ≤ n := by
  cases source with
  | finite items =>
    rw [size, Nat.cast_le]
    exact List.getElem?_eq_none_iff
  | endless item start => exact ⟨nofun, fun h => absurd h (not_le_of_gt (ENat.natCast_lt_top n))⟩

theorem exists_item?_iff : (∃ item, source.item? n = some item) ↔ n < source.size := by
  rw [← Option.isSome_iff_exists, Option.isSome_iff_ne_none, ne_eq, item?_eq_none_iff, not_le]

theorem after_zero (source : Source α) : source.after 0 = source := by
  cases source <;> rfl

theorem after_after (source : Source α) (m n : Nat) :
    (source.after m).after n = source.after (m + n) := by
  cases source with
  | finite items => exact congrArg finite List.drop_drop
  | endless item start => exact congrArg (endless item) (Nat.add_assoc start m n)

theorem item?_after (source : Source α) (m i : Nat) :
    (source.after m).item? i = source.item? (m + i) := by
  cases source with
  | finite items => exact List.getElem?_drop
  | endless item start => exact congrArg (fun k => some (item k)) (Nat.add_assoc start m i)

theorem next?_eq (source : Source α) :
    source.next? = (source.item? 0).map fun item => (item, source.after 1) := by
  rcases source with (- | ⟨item, items⟩) | ⟨item, start⟩ <;> rfl

/-- The next item is the first one that the draws before have left. -/
theorem next?_after (source : Source α) (n : Nat) :
    (source.after n).next? = (source.item? n).map fun item => (item, source.after (n + 1)) := by
  rw [next?_eq, item?_after, after_after]
  rfl

/-! ### The front of a source -/

theorem length_front (source : Source α) (n : Nat) :
    ((source.front n).length : ℕ∞) = min source.size n := by
  cases source with
  | finite items => rw [front, size, List.length_take, Nat.mono_cast.map_min, min_comm]
  | endless item start => rw [front, size, List.length_map, List.length_range', top_inf_eq]

theorem length_front_of_le (h : n ≤ source.size) : (source.front n).length = n := by
  have hlength := source.length_front n
  rwa [min_eq_right h, Nat.cast_inj] at hlength

theorem getElem?_front (source : Source α) (n i : Nat) :
    (source.front n)[i]? = if i < n then source.item? i else none := by
  cases source with
  | finite items => exact List.getElem?_take
  | endless item start =>
    rw [front, List.getElem?_map]
    split
    · next h =>
      rw [List.getElem?_range' h, Nat.one_mul]
      rfl
    · next h =>
      rw [List.getElem?_eq_none (by simpa using h)]
      rfl

theorem front_succ {item : α} (h : source.item? n = some item) :
    source.front (n + 1) = source.front n ++ [item] := by
  cases source with
  | finite items =>
    have hitem : items[n]? = some item := h
    rw [front, List.take_add_one, hitem, Option.toList_some]
    rfl
  | endless f start =>
    obtain rfl : f (start + n) = item := Option.some.inj h
    rw [front, List.range'_1_concat, List.map_append]
    rfl

theorem take_front (source : Source α) (m n : Nat) :
    (source.front (m + n)).take m = source.front m := by
  apply List.ext_getElem?
  intro i
  rw [List.getElem?_take, getElem?_front, getElem?_front]
  split
  · next h => rw [if_pos (Nat.lt_add_right n h)]
  · rfl

/-- The front without a front of its own is the front of what is after that. -/
theorem drop_front (source : Source α) (m n : Nat) :
    (source.front (m + n)).drop m = (source.after m).front n := by
  apply List.ext_getElem?
  intro i
  rw [List.getElem?_drop, getElem?_front, getElem?_front, item?_after]
  simp only [Nat.add_lt_add_iff_left]

theorem front_add (source : Source α) (m n : Nat) :
    source.front (m + n) = source.front m ++ (source.after m).front n := by
  rw [← drop_front, ← take_front source m n, List.take_append_drop]

/-- A front that is shorter than asked for is all there is. -/
theorem front_length_front (source : Source α) (n : Nat) :
    source.front (source.front n).length = source.front n := by
  cases source with
  | finite items =>
    show items.take (items.take n).length = items.take n
    rw [List.take_eq_take_iff, List.length_take]
    omega
  | endless item start =>
    show (List.range' start ((List.range' start n).map item).length).map item = _
    rw [List.length_map, List.length_range']
    rfl

theorem length_front_lt_iff : (source.front n).length < n ↔ source.size < n := by
  have hlength := source.length_front n
  rw [← Nat.cast_lt (α := ℕ∞), hlength, min_lt_iff, or_iff_left (lt_irrefl _)]

/-- What is after `m` items has `n` more, at least one, exactly if there are `m + n`. -/
theorem size_after_lt_iff {m : Nat} (hn : n ≠ 0) :
    (source.after m).size < n ↔ source.size < (m + n : Nat) := by
  obtain ⟨k, rfl⟩ := Nat.exists_eq_succ_of_ne_zero hn
  have hlast (source : Source α) (k : Nat) :
      source.size < (k + 1 : Nat) ↔ source.item? k = none := by
    rw [Nat.cast_succ, ENat.lt_add_one_iff (ENat.natCast_ne_top k), item?_eq_none_iff]
  -- on both sides the last of these items is missing
  rw [hlast, item?_after, ← hlast]
  rfl

/-- The items of a list are those of the front at the same indexes. -/
theorem eq_front_iff {items : List α} (h : items.length = n) :
    items = source.front n ↔ ∀ i < n, items[i]? = source.item? i := by
  constructor
  · intro hitems i hi
    rw [hitems, getElem?_front, if_pos hi]
  · intro hitems
    apply List.ext_getElem?
    intro i
    rw [getElem?_front]
    split
    · next hi => exact hitems i hi
    · next hi => exact List.getElem?_eq_none (by omega)

theorem exceeds_iff : source.exceeds n = true ↔ n < source.size := by
  cases source with
  | finite items => rw [exceeds, size, Nat.cast_lt, decide_eq_true_iff]
  | endless item start => exact ⟨fun _ => ENat.natCast_lt_top n, fun _ => rfl⟩

end Source

/-! ### Building item by item -/

/-- A tuple that is being built: what is left of the source, how many items are still to be dropped
and then to be kept, those kept so far, and how many were drawn. -/
structure Assembly (α : Type) where
  source : Source α
  toDrop : Nat
  toKeep : Nat
  kept : List α
  drawn : Nat

namespace Assembly

variable {α : Type} {source : Source α} {offset depth n : Nat}

/-- Before any item is drawn. -/
def start (source : Source α) (offset depth : Nat) : Assembly α := ⟨source, offset, depth, [], 0⟩

/-- One item is drawn, and dropped or kept, unless none is to be kept or there is none. -/
def step (a : Assembly α) : Option (Assembly α) :=
  if a.toKeep = 0 then none
  else a.source.next?.map fun (item, rest) =>
    if a.toDrop = 0 then ⟨rest, 0, a.toKeep - 1, a.kept ++ [item], a.drawn + 1⟩
    else ⟨rest, a.toDrop - 1, a.toKeep, a.kept, a.drawn + 1⟩

/-- After `n` draws. -/
def after (source : Source α) (offset depth n : Nat) : Assembly α :=
  ⟨source.after n, offset - n, depth - (n - offset), (source.front n).drop offset, n⟩

theorem after_zero : after source offset depth 0 = start source offset depth := by
  cases source <;> simp [after, start, Source.after, Source.front]

/-- **One more draw** takes the state after `n` draws to the state after `n + 1`. -/
theorem step_after {item : α} (hitem : source.item? n = some item) (hdepth : depth ≠ 0)
    (hn : n < offset + depth) :
    step (after source offset depth n) = some (after source offset depth (n + 1)) := by
  have hkeep : depth - (n - offset) ≠ 0 := by omega
  have hsize : n ≤ source.size := le_of_lt (Source.exists_item?_iff.mp ⟨item, hitem⟩)
  have hlength := Source.length_front_of_le hsize
  unfold step after
  simp only [if_neg hkeep, Source.next?_after, hitem, Option.map_some, Source.front_succ hitem]
  by_cases hdrop : offset ≤ n
  · -- all that was to be dropped is dropped, and the item is kept
    rw [if_pos (by omega), List.drop_append_of_le_length (by omega)]
    congr 2 <;> omega
  · -- nothing is kept before or after this draw
    rw [if_neg (by omega), List.drop_of_length_le (by omega), List.drop_of_length_le]
    · congr 2
      omega
    · rw [List.length_append, hlength, List.length_singleton]
      omega

/-- No more is drawn where no item is left, and where none is to be kept any more. -/
theorem step_after_eq_none (h : source.item? n = none ∨ depth = 0 ∨ offset + depth ≤ n) :
    step (after source offset depth n) = none := by
  unfold step after
  split
  · rfl
  · next hkeep =>
    have hitem : source.item? n = none := by
      simp only at hkeep
      exact h.resolve_right (by omega)
    rw [Source.next?_after, hitem]
    rfl

/-- The state after `n` draws is reached, if there are so many items to be drawn. -/
theorem reaches_after (hdepth : depth ≠ 0) (hsize : n ≤ source.size) (hn : n ≤ offset + depth) :
    Reaches step (start source offset depth) (after source offset depth n) := by
  induction n with
  | zero => exact after_zero ▸ Relation.ReflTransGen.refl
  | succ n ih =>
    have hlt : n < source.size := lt_of_lt_of_le (Nat.cast_lt.mpr n.lt_succ_self) hsize
    obtain ⟨item, hitem⟩ := Source.exists_item?_iff.mpr hlt
    exact (ih hlt.le (by omega)).tail (Option.mem_def.mpr (step_after hitem hdepth (by omega)))

/-- How many items are drawn in all. -/
def draws (source : Source α) (offset depth : Nat) : Nat :=
  if depth = 0 then 0 else (source.front (offset + depth)).length

/-- **The run halts**, on endless sources too. -/
theorem mem_eval_start (source : Source α) (offset depth : Nat) :
    after source offset depth (draws source offset depth)
      ∈ eval step (start source offset depth) := by
  unfold draws
  split
  · next hdepth =>
    exact mem_eval.mpr ⟨after_zero ▸ Relation.ReflTransGen.refl,
      step_after_eq_none (.inr (.inl hdepth))⟩
  · next hdepth =>
    have hlength := source.length_front (offset + depth)
    have hsize : (source.front (offset + depth)).length ≤ source.size :=
      hlength ▸ min_le_left _ _
    refine mem_eval.mpr ⟨reaches_after hdepth hsize (source.length_front_le _),
      step_after_eq_none ?_⟩
    -- either all that is to be drawn has been drawn, or all that there is
    rcases le_total ((offset + depth : Nat) : ℕ∞) source.size with h | h
    · exact .inr (.inr (Source.length_front_of_le h).ge)
    · rw [min_eq_left h] at hlength
      exact .inl (Source.item?_eq_none_iff.mpr hlength.ge)

/-- What is kept in the end. -/
theorem kept_after_draws (source : Source α) (offset depth : Nat) :
    (after source offset depth (draws source offset depth)).kept
      = (source.after offset).front depth := by
  unfold after draws
  split
  · next hdepth =>
    subst hdepth
    cases source <;> simp [Source.front, Source.after]
  · rw [Source.front_length_front, Source.drop_front]

end Assembly

/-! ### The outcomes -/

namespace Tuple

variable {U : Universe} {source : Source (Value U)} {offset depth : Nat} {t : Tuple U}

theorem ofSource_eq_ok_iff :
    (ofSource source).1 = .ok t ↔ t.toList = source.front (maxDepth + 1) := by
  rw [← (map_injective toList_injective).eq_iff, ← Bare.ofSource_eq]
  show Bare.ofSource source = .ok t.toList ↔ _
  unfold Bare.ofSource
  simp only [Source.draw_eq]
  split
  · next h =>
    -- what was drawn is deeper than any tuple
    refine ⟨nofun, fun ht => ?_⟩
    rw [← ht] at h
    exact absurd t.elements.depth_le (Nat.not_le_of_lt h)
  · rw [Except.ok.injEq, eq_comm]

/-- All items make a tuple exactly if it has the same items at the same indexes. -/
theorem ofSource_eq_ok_iff_items :
    (ofSource source).1 = .ok t ↔ ∀ i, t.toList[i]? = source.item? i := by
  rw [ofSource_eq_ok_iff]
  have hdepth : t.toList.length ≤ maxDepth := t.elements.depth_le
  constructor
  · intro ht i
    rw [ht, Source.getElem?_front]
    split
    · rfl
    · next hi =>
      -- one item more than the greatest depth would have been seen
      refine (Option.eq_none_iff_forall_ne_some.mpr fun item hitem => ?_).symm
      have hsize : (maxDepth + 1 : Nat) ≤ source.size :=
        le_trans (Nat.cast_le.mpr (by omega)) (Source.exists_item?_iff.mp ⟨item, hitem⟩).le
      have hlength := Source.length_front_of_le hsize
      rw [← ht] at hlength
      omega
  · intro hitems
    apply List.ext_getElem?
    intro i
    rw [hitems, Source.getElem?_front]
    split
    · rfl
    · next hi => rw [← hitems, List.getElem?_eq_none (by omega)]

theorem ofSource_eq_error_iff {e : Error U} :
    (ofSource source).1 = .error e ↔ maxDepth < source.size ∧ e = .overflow (maxDepth + 1) := by
  rw [eq_error_iff, failure_ofSource, ← Source.exceeds_iff]
  split
  · next h => simp [h, eq_comm]
  · next h => simp [h]

theorem exists_ofSource_iff :
    (∃ t, (ofSource source).1 = .ok t) ↔ source.size ≤ maxDepth := by
  constructor
  · rintro ⟨t, ht⟩
    refine le_of_not_gt fun hlt => ?_
    exact absurd (ht.symm.trans (ofSource_eq_error_iff.mpr ⟨hlt, rfl⟩)) nofun
  · intro hle
    rcases hr : (ofSource source).1 with e | t
    · exact absurd hle (not_le_of_gt (ofSource_eq_error_iff.mp hr).1)
    · exact ⟨t, rfl⟩

theorem drawn_ofSource (source : Source (Value U)) :
    (ofSource source).2 = (source.front (maxDepth + 1)).length := by
  unfold ofSource Store.ofSource
  rw [Source.draw_eq]

theorem assemble_eq_some_iff (h : depth ≤ maxDepth) :
    (assemble source offset depth).1 = .ok (some t)
      ↔ t.toList = (source.after offset).front depth ∧ t.depth = depth := by
  have hlength := (source.after offset).length_front_le depth
  rw [assemble_eq_ok_iff h, Option.map_some]
  split
  · next hshort =>
    refine ⟨nofun, fun ⟨ht, hdepth⟩ => ?_⟩
    rw [← ht] at hshort
    exact absurd hdepth (Nat.ne_of_lt hshort)
  · next hlong =>
    rw [Option.some.injEq, eq_comm]
    refine ⟨fun ht => ⟨ht, ?_⟩, And.left⟩
    rw [← ht] at hlength hlong
    exact Nat.le_antisymm hlength (Nat.le_of_not_lt hlong)

theorem assemble_eq_some_iff_items (h : depth ≤ maxDepth) :
    (assemble source offset depth).1 = .ok (some t)
      ↔ t.depth = depth ∧ ∀ i < depth, t.toList[i]? = source.item? (offset + i) := by
  rw [assemble_eq_some_iff h, and_comm]
  refine and_congr_right fun hdepth => ?_
  have hlength : t.toList.length = depth := hdepth
  simp only [Source.eq_front_iff hlength, Source.item?_after]

theorem assemble_eq_none_iff (hdepth : depth ≠ 0) (h : depth ≤ maxDepth) :
    (assemble source offset depth).1 = .ok none ↔ source.size < (offset + depth : Nat) := by
  rw [← Source.size_after_lt_iff hdepth, ← Source.length_front_lt_iff, assemble_eq_ok_iff h,
    Option.map_none]
  split
  · next hshort => exact ⟨fun _ => hshort, fun _ => rfl⟩
  · next hlong => exact ⟨nofun, fun hshort => absurd hshort hlong⟩

theorem exists_assemble_iff (hdepth : depth ≠ 0) (h : depth ≤ maxDepth) :
    (∃ t, (assemble source offset depth).1 = .ok (some t))
      ↔ (offset + depth : Nat) ≤ source.size := by
  rw [← not_lt, ← assemble_eq_none_iff hdepth h]
  rcases hr : (assemble source offset depth).1 with e | - | t
  · exact absurd (assemble_eq_error_iff.mp hr).1 (Nat.not_lt_of_le h)
  · simp
  · simp

theorem drawn_assemble (hdepth : depth ≠ 0) (h : depth ≤ maxDepth) :
    (assemble source offset depth).2 = (source.front (offset + depth)).length := by
  unfold assemble Store.assemble
  rw [dif_neg (Nat.not_lt_of_le h), if_neg hdepth, Source.front_add, List.length_append]
  simp only [Source.skip_eq, Source.draw_eq]

/-! ### The runs to the outcomes -/

theorem ofSource_halts (source : Source (Value U)) :
    ∃ a ∈ eval Assembly.step (.start source 0 (maxDepth + 1)),
      a.drawn = (ofSource source).2 ∧ ∀ t, (ofSource source).1 = .ok t ↔ t.toList = a.kept := by
  refine ⟨_, Assembly.mem_eval_start source 0 (maxDepth + 1), ?_, fun t => ?_⟩
  · rw [drawn_ofSource, ← Nat.zero_add (maxDepth + 1)]
    rfl
  · rw [ofSource_eq_ok_iff, Assembly.kept_after_draws, Source.after_zero]

theorem assemble_halts (source : Source (Value U)) (offset : Nat) (h : depth ≤ maxDepth) :
    ∃ a ∈ eval Assembly.step (.start source offset depth),
      a.drawn = (assemble source offset depth).2 ∧
      ∀ t, (assemble source offset depth).1 = .ok (some t)
        ↔ t.toList = a.kept ∧ t.depth = depth := by
  refine ⟨_, Assembly.mem_eval_start source offset depth, ?_, fun t => ?_⟩
  · by_cases hdepth : depth = 0
    · subst hdepth
      rfl
    · rw [drawn_assemble hdepth h]
      exact if_neg hdepth
  · rw [assemble_eq_some_iff h, Assembly.kept_after_draws]

/-! ### The whole -/

/-- **What a source is built into, and how much of it is drawn**, for every source, finite or not.

All items make a tuple if they are at most `maxDepth`, and then it has them in order; otherwise it
would be too deep by one at least, and that one is the last item drawn.  For the `depth` items after
the first `offset`, nothing is drawn if they would be too many, or none; otherwise exactly the first
`offset + depth` items are, as far as there are any, and the items after the first `offset` are those
of the tuple, if there are so many.

The run that draws item by item halts on every source, with as many draws, and has kept the elements
of the tuple. -/
theorem built_from_source (source : Source (Value U)) :
    ((ofSource source).2 = min source.size (maxDepth + 1 : Nat) ∧
      (∀ t, (ofSource source).1 = .ok t ↔ ∀ i, t.toList[i]? = source.item? i) ∧
      ((∃ t, (ofSource source).1 = .ok t) ↔ source.size ≤ maxDepth) ∧
      (∀ e, (ofSource source).1 = .error e
        ↔ maxDepth < source.size ∧ e = .overflow (maxDepth + 1)) ∧
      ∃ a ∈ eval Assembly.step (.start source 0 (maxDepth + 1)),
        a.drawn = (ofSource source).2 ∧ ∀ t, (ofSource source).1 = .ok t ↔ t.toList = a.kept) ∧
    ∀ offset depth,
      (maxDepth < depth → assemble source offset depth = (.error (.overflow depth), 0)) ∧
      (depth = 0 → assemble source offset depth = (.ok (some .empty), 0)) ∧
      (0 < depth → depth ≤ maxDepth →
        (assemble source offset depth).2 = min source.size (offset + depth : Nat) ∧
        (∀ t, (assemble source offset depth).1 = .ok (some t)
          ↔ t.depth = depth ∧ ∀ i < depth, t.toList[i]? = source.item? (offset + i)) ∧
        ((∃ t, (assemble source offset depth).1 = .ok (some t))
          ↔ (offset + depth : Nat) ≤ source.size) ∧
        ((assemble source offset depth).1 = .ok none ↔ source.size < (offset + depth : Nat))) ∧
      (depth ≤ maxDepth →
        ∃ a ∈ eval Assembly.step (.start source offset depth),
          a.drawn = (assemble source offset depth).2 ∧
          ∀ t, (assemble source offset depth).1 = .ok (some t)
            ↔ t.toList = a.kept ∧ t.depth = depth) := by
  refine ⟨⟨?_, fun t => ofSource_eq_ok_iff_items, exists_ofSource_iff,
    fun e => ofSource_eq_error_iff, ofSource_halts source⟩,
    fun offset depth => ⟨fun h => ?_, fun h => ?_, fun hpos h => ?_, assemble_halts source offset⟩⟩
  · rw [drawn_ofSource, Source.length_front]
  · unfold assemble Store.assemble
    rw [dif_pos h]
    rfl
  · subst h
    rfl
  · have hdepth : depth ≠ 0 := Nat.ne_of_gt hpos
    refine ⟨?_, fun t => assemble_eq_some_iff_items h, exists_assemble_iff hdepth h,
      assemble_eq_none_iff hdepth h⟩
    rw [drawn_assemble hdepth h, Source.length_front]

/-- An endless source is refused after 17 items, and gives two items after the greatest word, where
the sum of offset and depth is no word.  Three items are too few for two after the first two, and
enough for none after any. -/
theorem built_from_source_endless :
    let item (n : Nat) : Value Standard := .leaf Standard.Kind.bool (n % 2 == 1)
    let endless := Source.endless item 0
    let short := Source.finite [item 0, item 1, item 2]
    let word := UInt64.size - 1
    maxDepth < endless.size ∧
      (ofSource endless).1 = .error (.overflow 17) ∧ (ofSource endless).2 = 17 ∧
      maxDepth < word ∧ assemble endless word word = (.error (.overflow word), 0) ∧
      assemble short word 0 = (.ok (some .empty), 0) ∧
      0 < 2 ∧ 2 ≤ maxDepth ∧ assemble short 2 2 = (.ok none, 3) ∧
      (∃ t, (assemble endless word 2).1 = .ok (some t)) ∧
      ∃ a ∈ eval Assembly.step (.start endless word 2), a.drawn = UInt64.size + 1 := by
  intro item endless short word
  have hpos : 0 < 2 := by decide
  have hdepth : 2 ≤ maxDepth := by decide
  have hendless (n : Nat) : n < endless.size := ENat.natCast_lt_top n
  obtain ⟨⟨hdrawn, -, -, herror, -⟩, hassemble⟩ := built_from_source endless
  obtain ⟨hmany, -, -, -⟩ := hassemble word word
  obtain ⟨-, -, htwo, hrun⟩ := hassemble word 2
  obtain ⟨-, hshort⟩ := built_from_source short
  obtain ⟨-, hnone, -, -⟩ := hshort word 0
  obtain ⟨-, -, hfew, -⟩ := hshort 2 2
  obtain ⟨hdrawn', -, hexists, -⟩ := htwo hpos hdepth
  obtain ⟨hdrawn₃, -, -, hdry⟩ := hfew hpos hdepth
  obtain ⟨a, ha, hcount, -⟩ := hrun hdepth
  have hword : maxDepth < word := by decide
  rw [min_eq_right (hendless _).le, Nat.cast_inj] at hdrawn hdrawn'
  have hsize : short.size < (2 + 2 : Nat) := Nat.cast_lt.mpr (by decide)
  rw [min_eq_left hsize.le] at hdrawn₃
  refine ⟨hendless _, (herror _).mpr ⟨hendless _, rfl⟩, hdrawn, hword, hmany hword, hnone rfl,
    hpos, hdepth, Prod.ext (hdry.mpr hsize) (Nat.cast_inj.mp hdrawn₃),
    hexists.mpr (hendless _).le, a, ha, hcount.trans hdrawn'⟩

end Tuple

end Polyad
