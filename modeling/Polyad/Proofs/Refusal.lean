/-
Polyad/Proofs/Refusal.lean

What the operations refuse, and that nothing else goes wrong in a history.

`Step.refusal` says by the depths of the operands alone which error a step must give, if any: the
empty tuple is refused before a position is looked at, a position before the depth of the result.
Main statement (`history_sound`): after any steps and before any next one, no step has faulted, every
tuple is at most `maxDepth` deep, and the next step fails exactly if it must and with that very error.
-/
import Polyad.Proofs.History
import Polyad.Standard.Kind

namespace Polyad

variable {U : Universe}

/-! ### Refusals -/

/-- Whether a source has more than `n` items. -/
def Source.exceeds {α : Type} (n : Nat) : Source α → Bool
  | .finite items => n < items.length
  | .endless _ _ => true

/-- The refusal of a position outside of `1, …, last` of a tuple of this depth. -/
def refusedPosition (last p depth : Nat) : Option (Error U) :=
  if 1 ≤ p ∧ p ≤ last then none else some (.invalidPosition p depth)

/-- The refusal of the empty tuple, and of a position only on another one. -/
def refusedAt (operation : Operation) (last p depth : Nat) : Option (Error U) :=
  if depth = 0 then some (.unsupportedOnEmpty operation) else refusedPosition last p depth

/-- The error that a step must give on a history of tuples of these depths. -/
def Step.refusal (depths : List Nat) : Step U → Option (Error U)
  | empty | erase _ | rotateLeft _ _ | rotateRight _ _ => none
  | ofSource source => if source.exceeds maxDepth then some (.overflow (maxDepth + 1)) else none
  | assemble _ _ depth => if depth ≤ maxDepth then none else some (.overflow depth)
  | join i j =>
    if depths.getD i 0 + depths.getD j 0 ≤ maxDepth then none
    else some (.overflow (depths.getD i 0 + depths.getD j 0))
  | add i p _ =>
    (refusedAt .add (depths.getD i 0) p (depths.getD i 0)).or
      (if depths.getD i 0 = maxDepth then some (.overflow (maxDepth + 1)) else none)
  | splice i p => refusedAt .splice (depths.getD i 0 - 1) p (depths.getD i 0)
  | truncate i p => refusedAt .truncate (depths.getD i 0) p (depths.getD i 0)
  | hop i p => refusedAt .hop (depths.getD i 0) p (depths.getD i 0)
  | remove i p => refusedAt .remove (depths.getD i 0) p (depths.getD i 0)
  | transform i p _ => refusedAt .transform (depths.getD i 0) p (depths.getD i 0)
  | value i p => refusedPosition (depths.getD i 0) p (depths.getD i 0)
  | get i index =>
    if index < depths.getD i 0 then none else some (.indexOutOfRange index (depths.getD i 0))

/-! ### Failures -/

/-- The error of an outcome, if it is one. -/
def failure {ε α : Type} : Except ε α → Option ε
  | .error e => some e
  | .ok _ => none

theorem eq_error_iff {ε α : Type} {r : Except ε α} {e : ε} :
    r = .error e ↔ failure r = some e := by
  cases r <;> simp [failure]

@[simp] theorem failure_map {ε α β : Type} (f : α → β) (r : Except ε α) :
    failure (r.map f) = failure r := by
  cases r <;> rfl

theorem map_injective {ε α β : Type} {f : α → β} (hf : Function.Injective f) :
    Function.Injective (Except.map f : Except ε α → Except ε β) := by
  rintro (e | x) (e' | y) h
  · rw [Except.error.inj h]
  · exact absurd h (by simp [Except.map])
  · exact absurd h (by simp [Except.map])
  · rw [hf (Except.ok.inj h)]

/-- The checks in front of an operation, as refusals. -/
theorem failure_guarded {α : Type} {operation : Operation} {last p depth : Nat} {outside : Prop}
    [Decidable outside] (houtside : outside ↔ ¬(1 ≤ p ∧ p ≤ last)) (r : Except (Error U) α) :
    failure (if depth = 0 then .error (.unsupportedOnEmpty operation)
        else if outside then .error (.invalidPosition p depth) else r)
      = (refusedAt operation last p depth).or (failure r) := by
  unfold refusedAt refusedPosition
  by_cases h₀ : depth = 0
  · rw [if_pos h₀, if_pos h₀]
    rfl
  · rw [if_neg h₀, if_neg h₀]
    by_cases hp : 1 ≤ p ∧ p ≤ last
    · rw [if_pos hp, if_neg (fun h => houtside.mp h hp)]
      rfl
    · rw [if_neg hp, if_pos (houtside.mpr hp)]
      rfl

section Tuple

variable (t : Tuple U) (p : Nat)

theorem failure_join (u : Tuple U) :
    failure (t.join u)
      = if t.depth + u.depth ≤ maxDepth then none else some (.overflow (t.depth + u.depth)) := by
  rw [Tuple.join_eq]
  split <;> rfl

theorem failure_add (v : Value U) :
    failure (t.add p v)
      = (refusedAt .add t.depth p t.depth).or
          (if t.depth = maxDepth then some (.overflow (maxDepth + 1)) else none) := by
  rw [Tuple.add_eq]
  have houtside : (p = 0 ∨ t.depth < p) ↔ ¬(1 ≤ p ∧ p ≤ t.depth) := by omega
  refine (failure_guarded houtside _).trans (congrArg (Option.or _) ?_)
  -- behind the checks of the position stands the one of the depth, which no tuple exceeds
  by_cases h : t.depth < maxDepth
  · rw [dif_pos h, if_neg (Nat.ne_of_lt h)]
    rfl
  · rw [dif_neg h, if_pos (Nat.le_antisymm t.depth_le (Nat.le_of_not_lt h))]
    rfl

theorem failure_splice : failure (t.splice p) = refusedAt .splice (t.depth - 1) p t.depth := by
  rw [Tuple.splice_eq]
  by_cases h₀ : t.depth = 0
  · rw [if_pos h₀, refusedAt, if_pos h₀]
    rfl
  · exact (failure_guarded (by omega) _).trans Option.or_none

theorem failure_truncate : failure (t.truncate p) = refusedAt .truncate t.depth p t.depth := by
  rw [Tuple.truncate_eq]
  exact (failure_guarded (by omega) _).trans Option.or_none

theorem failure_hop : failure (t.hop p) = refusedAt .hop t.depth p t.depth := by
  rw [Tuple.hop_eq]
  exact (failure_guarded (by omega) _).trans Option.or_none

theorem failure_remove : failure (t.remove p) = refusedAt .remove t.depth p t.depth := by
  rw [Tuple.remove_eq]
  exact (failure_guarded (by omega) _).trans Option.or_none

theorem failure_value : failure (t.value p) = refusedPosition t.depth p t.depth := by
  rw [Tuple.value_eq, refusedPosition]
  by_cases hp : p = 0 ∨ t.depth < p
  · rw [dif_pos hp, if_neg (by omega)]
    rfl
  · rw [dif_neg hp, if_pos (by omega)]
    rfl

theorem failure_transform (f : Value U → Value U) :
    failure (t.transform p f) = refusedAt .transform t.depth p t.depth := by
  rw [Tuple.transform_eq, refusedAt, refusedPosition]
  by_cases h₀ : t.depth = 0
  · rw [if_pos h₀, if_pos h₀]
    rfl
  rw [if_neg h₀, if_neg h₀]
  by_cases hp : p = 0 ∨ t.depth < p
  · rw [dif_pos hp, if_neg (by omega)]
    rfl
  · rw [dif_neg hp, if_pos (by omega)]
    rfl

theorem failure_get (index : Nat) :
    failure (t.elements.get index)
      = if index < t.depth then none else some (.indexOutOfRange index t.depth) := by
  by_cases h : index < t.depth
  · rw [if_pos h, Store.get_of_lt h]
    rfl
  · rw [if_neg h, Store.get, List.getElem?_eq_none (Nat.le_of_not_lt h)]
    rfl

end Tuple

/-! ### Sources -/

/-- One item past the greatest depth is all that is seen of a source with too many. -/
theorem Source.length_draw_succ {α : Type} (n : Nat) (source : Source α) :
    n < (source.draw (n + 1)).1.length ↔ source.exceeds n = true := by
  rw [Source.draw_eq]
  cases source with
  | finite items =>
    show n < (items.take (n + 1)).length ↔ decide (n < items.length) = true
    rw [List.length_take, decide_eq_true_iff]
    omega
  | endless item start => simp [Source.front, Source.exceeds]

theorem failure_ofSource (source : Source (Value U)) :
    failure (Tuple.ofSource source).1
      = if source.exceeds maxDepth then some (.overflow (maxDepth + 1)) else none := by
  have hle := Store.length_draw_le (maxDepth + 1) source
  have hlt := source.length_draw_succ maxDepth
  unfold Tuple.ofSource Store.ofSource
  by_cases h : (source.draw (maxDepth + 1)).1.length ≤ maxDepth
  · rw [if_neg (fun he => Nat.not_lt_of_le h (hlt.mpr he))]
    simp only [dif_pos h]
    rfl
  · -- what was drawn is one too many and no more, whatever the source would still give
    have hgt := Nat.lt_of_not_le h
    rw [if_pos (hlt.mp hgt)]
    simp only [Nat.le_antisymm hle hgt]
    rfl

theorem failure_assemble (source : Source (Value U)) (offset depth : Nat) :
    failure (Tuple.assemble source offset depth).1
      = if depth ≤ maxDepth then none else some (.overflow depth) := by
  unfold Tuple.assemble Store.assemble
  by_cases h : depth ≤ maxDepth
  · rw [if_pos h]
    simp only [dif_neg (Nat.not_lt_of_le h)]
    split
    · rfl
    · simp only
      split <;> rfl
  · rw [if_neg h]
    simp only [dif_pos (Nat.lt_of_not_le h)]
    rfl

/-! ### Histories -/

theorem depth_getD (history : List (Tuple U)) (i : Nat) :
    (history.map Tuple.depth).getD i 0 = (history.getD i .empty).depth :=
  List.getD_map history .empty Tuple.depth

/-- A step fails exactly if it must, and with the error that it must give. -/
theorem failure_answer (history : List (Tuple U)) (s : Step U) :
    failure (s.answer history) = s.refusal (history.map Tuple.depth) := by
  cases s with
  | empty | erase _ | rotateLeft _ _ | rotateRight _ _ => rfl
  | ofSource source => exact (failure_map _ _).trans (failure_ofSource source)
  | assemble source offset depth =>
    exact (failure_map _ _).trans (failure_assemble source offset depth)
  | join i j =>
    simp only [Step.answer, Step.refusal, failure_map, depth_getD, failure_join]
  | add i p v => simp only [Step.answer, Step.refusal, failure_map, depth_getD, failure_add]
  | splice i p => simp only [Step.answer, Step.refusal, failure_map, depth_getD, failure_splice]
  | truncate i p =>
    simp only [Step.answer, Step.refusal, failure_map, depth_getD, failure_truncate]
  | hop i p => simp only [Step.answer, Step.refusal, failure_map, depth_getD, failure_hop]
  | remove i p => simp only [Step.answer, Step.refusal, failure_map, depth_getD, failure_remove]
  | transform i p f =>
    simp only [Step.answer, Step.refusal, failure_map, depth_getD, failure_transform]
  | value i p => simp only [Step.answer, Step.refusal, failure_map, depth_getD, failure_value]
  | get i index => simp only [Step.answer, Step.refusal, failure_map, depth_getD, failure_get]

/-- **After any steps and before any next one** nothing has faulted, every tuple is at most
`maxDepth` deep, and the next step does not fault either and fails exactly if it must, with the
error that the order of the checks dictates.  History and answer are those of the operations on
tuples. -/
theorem history_sound (steps : List (Step U)) (next : Step U) :
    ∃ history answer,
      bareRun steps = some history ∧ next.bareAnswer history = some answer ∧
      (∀ t ∈ history, t.length ≤ maxDepth) ∧
      (∀ e, answer = .error e ↔ next.refusal (history.map List.length) = some e) ∧
      history = (run steps).map Tuple.toList ∧
      answer = (next.answer (run steps)).map (Answer.map Tuple.toList) := by
  refine ⟨_, _, bareRun_eq steps, bareAnswer_toList (run steps) next, ?_, fun e => ?_, rfl, rfl⟩
  · intro t ht
    obtain ⟨u, -, rfl⟩ := List.mem_map.mp ht
    exact u.depth_le
  · have hdepths : ((run steps).map Tuple.toList).map List.length = (run steps).map Tuple.depth := by
      rw [List.map_map]
      rfl
    rw [eq_error_iff, failure_map, failure_answer, hdepths]

/-- After a full and an empty tuple have been made: a full tuple refuses one more element at its last
position, and an empty one is refused before the greatest word is looked at as a position. -/
theorem history_sound_full :
    let steps : List (Step Standard) :=
      [.assemble (.endless (fun _ => .dyn []) 0) 3 16, .truncate 0 1]
    ∃ history,
      bareRun steps = some history ∧
      List.replicate 16 (.dyn []) ∈ history ∧
      (List.replicate 16 (.dyn [] : Value Standard)).length ≤ maxDepth ∧
      (Step.add 0 16 (.dyn [])).bareAnswer history = some (.error (.overflow 17)) ∧
      (Step.truncate 1 (UInt64.size - 1)).bareAnswer history
        = some (.error (.unsupportedOnEmpty .truncate)) := by
  intro steps
  obtain ⟨history, added, hrun, hadded, hdepth, hadd, hhistory, -⟩ :=
    history_sound steps (.add 0 16 (.dyn []))
  obtain ⟨_, cut, hrun', hcut, -, htruncate, rfl, -⟩ :=
    history_sound steps (.truncate 1 (UInt64.size - 1))
  obtain rfl : history = _ := Option.some.inj (hrun.symm.trans hrun')
  have hfull : List.replicate 16 (.dyn []) ∈ (run steps).map Tuple.toList :=
    List.mem_cons_self
  refine ⟨_, hrun, hfull, hdepth _ hfull, ?_, ?_⟩
  · rw [hadded, (hadd (.overflow 17)).mpr rfl]
  · rw [hcut, (htruncate (.unsupportedOnEmpty .truncate)).mpr rfl]

end Polyad
