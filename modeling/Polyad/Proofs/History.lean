/-
Polyad/Proofs/History.lean

Histories: tuples made one after the other, each step from what was made before.

A step builds a tuple anew or takes its operands from the history by their numbers, with any
positions, indexes and counts; a number that the history does not have stands for the empty tuple.
The same steps are carried out twice, by the operations on tuples (`Step.answer`) and by the
operations on bare tuples, which can fault (`Step.bareAnswer`).

Idea.  One step of a bare history is a step of a history of tuples (`bareAnswer_toList`), by the
lemma of each operation; by induction the same holds of a run (`bareRun_eq`).  That no tuple is too
deep is then read off the history of tuples.
-/
import Mathlib.Data.List.GetD
import Polyad.Proofs.Bare
import Polyad.Typed

namespace Polyad

variable {U : Universe}

/-! ### Steps and answers -/

/-- A step of a history. -/
inductive Step (U : Universe) where
  | empty
  | ofSource (source : Source (Value U))
  | assemble (source : Source (Value U)) (offset depth : Nat)
  | erase {ts : List (Ty U)} (t : Typed U ts)
  | join (on other : Nat)
  | add (on p : Nat) (v : Value U)
  | splice (on p : Nat)
  | truncate (on p : Nat)
  | hop (on p : Nat)
  | remove (on p : Nat)
  | rotateLeft (on n : Nat)
  | rotateRight (on n : Nat)
  | transform (on p : Nat) (f : Value U → Value U)
  | value (on p : Nat)
  | get (on index : Nat)

/-- What a step answers unless it fails: the tuples it makes, or an element. -/
inductive Answer (U : Universe) (τ : Type) where
  | tuples (made : List τ)
  | element (v : Value U)

namespace Answer

variable {τ σ : Type}

/-- The tuples that come into the history. -/
def made : Answer U τ → List τ
  | tuples made => made
  | element _ => []

def map (f : τ → σ) : Answer U τ → Answer U σ
  | tuples made => tuples (made.map f)
  | element v => element v

theorem made_map (f : τ → σ) (a : Answer U τ) : (a.map f).made = a.made.map f := by
  cases a <;> rfl

/-- The answer of a step that makes one tuple. -/
def one (t : τ) : Answer U τ := tuples [t]

end Answer

namespace Step

/-- What a step answers on tuples. -/
def answer (history : List (Tuple U)) : Step U → Except (Error U) (Answer U (Tuple U))
  | empty => .ok (.one .empty)
  | ofSource source => (Tuple.ofSource source).1.map .one
  | assemble source offset depth =>
    (Tuple.assemble source offset depth).1.map fun t => .tuples t.toList
  | erase t => .ok (.one t.erase)
  | join i j => ((history.getD i .empty).join (history.getD j .empty)).map .one
  | add i p v => ((history.getD i .empty).add p v).map .one
  | splice i p => ((history.getD i .empty).splice p).map fun (a, b) => .tuples [a, b]
  | truncate i p => ((history.getD i .empty).truncate p).map .one
  | hop i p => ((history.getD i .empty).hop p).map .one
  | remove i p => ((history.getD i .empty).remove p).map .one
  | rotateLeft i n => .ok (.one ((history.getD i .empty).rotateLeft n))
  | rotateRight i n => .ok (.one ((history.getD i .empty).rotateRight n))
  | transform i p f => ((history.getD i .empty).transform p f).map .one
  | value i p => ((history.getD i .empty).value p).map .element
  | get i index => ((history.getD i .empty).elements.get index).map .element

/-- What a step answers on bare tuples, unless it faults. -/
def bareAnswer (history : List (List (Value U))) :
    Step U → Option (Except (Error U) (Answer U (List (Value U))))
  | empty => some (.ok (.one []))
  | ofSource source => some ((Bare.ofSource source).map .one)
  | assemble source offset depth =>
    some ((Bare.assemble source offset depth).map fun t => .tuples t.toList)
  | erase t => some (.ok (.one t.toList))
  | join i j => (Bare.join (history.getD i []) (history.getD j [])).map (·.map .one)
  | add i p v => (Bare.add (history.getD i []) p v).map (·.map .one)
  | splice i p =>
    (Bare.splice (history.getD i []) p).map (·.map fun (a, b) => .tuples [a, b])
  | truncate i p => (Bare.truncate (history.getD i []) p).map (·.map .one)
  | hop i p => (Bare.hop (history.getD i []) p).map (·.map .one)
  | remove i p => (Bare.remove (history.getD i []) p).map (·.map .one)
  | rotateLeft i n => (Bare.rotateLeft (history.getD i []) n).map fun t => .ok (.one t)
  | rotateRight i n => (Bare.rotateRight (history.getD i []) n).map fun t => .ok (.one t)
  | transform i p f => (Bare.transform (history.getD i []) p f).map (·.map .one)
  | value i p => (Bare.value (history.getD i []) p).map (·.map .element)
  | get i index => some ((Bare.get (history.getD i []) index).map .element)

end Step

/-! ### Runs -/

/-- A history after one more step: with the tuples it makes, or as it was if the step fails. -/
def extend {τ : Type} (history : List τ) : Except (Error U) (Answer U τ) → List τ
  | .ok answer => history ++ answer.made
  | .error _ => history

/-- The history of some steps. -/
def run (steps : List (Step U)) : List (Tuple U) :=
  steps.foldl (fun history step => extend history (step.answer history)) []

/-- The bare history of some steps, unless one of them faults. -/
def bareRun (steps : List (Step U)) : Option (List (List (Value U))) :=
  steps.foldlM (fun history step => (step.bareAnswer history).map (extend history)) []

/-! ### A bare step is a step on tuples -/

theorem map_toList_getD (history : List (Tuple U)) (i : Nat) :
    (history.map Tuple.toList).getD i [] = (history.getD i .empty).toList :=
  List.getD_map history .empty Tuple.toList

/-- It does not matter whether tuples are seen as lists before or after an answer is made of them. -/
theorem map_map_answer {α β : Type} (r : Except (Error U) α) {f : α → β}
    {a : α → Answer U (Tuple U)} {b : β → Answer U (List (Value U))}
    (h : ∀ x, b (f x) = (a x).map Tuple.toList) :
    (r.map f).map b = (r.map a).map (Answer.map Tuple.toList) := by
  cases r with
  | error e => rfl
  | ok x => exact congrArg Except.ok (h x)

/-- **One step.**  On the elements of tuples a step does not fault, and it answers what it answers
on the tuples. -/
theorem bareAnswer_toList (history : List (Tuple U)) (s : Step U) :
    s.bareAnswer (history.map Tuple.toList)
      = some ((s.answer history).map (Answer.map Tuple.toList)) := by
  cases s with
  | empty => rfl
  | ofSource source =>
    simp only [Step.bareAnswer, Bare.ofSource_eq]
    exact congrArg some (map_map_answer _ fun _ => rfl)
  | assemble source offset depth =>
    simp only [Step.bareAnswer, Bare.assemble_eq]
    refine congrArg some (map_map_answer _ fun made => ?_)
    cases made <;> rfl
  | erase t => rfl
  | join i j =>
    simp only [Step.bareAnswer, map_toList_getD, Bare.join_toList]
    exact congrArg some (map_map_answer _ fun _ => rfl)
  | add i p v =>
    simp only [Step.bareAnswer, map_toList_getD, Bare.add_toList]
    exact congrArg some (map_map_answer _ fun _ => rfl)
  | splice i p =>
    simp only [Step.bareAnswer, map_toList_getD, Bare.splice_toList]
    exact congrArg some (map_map_answer _ fun _ => rfl)
  | truncate i p =>
    simp only [Step.bareAnswer, map_toList_getD, Bare.truncate_toList]
    exact congrArg some (map_map_answer _ fun _ => rfl)
  | hop i p =>
    simp only [Step.bareAnswer, map_toList_getD, Bare.hop_toList]
    exact congrArg some (map_map_answer _ fun _ => rfl)
  | remove i p =>
    simp only [Step.bareAnswer, map_toList_getD, Bare.remove_toList]
    exact congrArg some (map_map_answer _ fun _ => rfl)
  | rotateLeft i n =>
    simp only [Step.bareAnswer, map_toList_getD]
    show Option.map _ (Bare.rotateLeft (history.getD i .empty).elements.values n) = _
    rw [Bare.rotateLeft_values]
    rfl
  | rotateRight i n =>
    simp only [Step.bareAnswer, map_toList_getD]
    show Option.map _ (Bare.rotateRight (history.getD i .empty).elements.values n) = _
    rw [Bare.rotateRight_values]
    rfl
  | transform i p f =>
    simp only [Step.bareAnswer, map_toList_getD, Bare.transform_toList]
    exact congrArg some (map_map_answer _ fun _ => rfl)
  | value i p =>
    simp only [Step.bareAnswer, map_toList_getD, Bare.value_toList]
    refine congrArg some ?_
    show Except.map _ _ = Except.map _ (Except.map _ _)
    cases (history.getD i .empty).value p <;> rfl
  | get i index =>
    simp only [Step.bareAnswer, map_toList_getD, Bare.get_toList]
    refine congrArg some ?_
    show Except.map _ _ = Except.map _ (Except.map _ _)
    cases (history.getD i .empty).elements.get index <;> rfl

theorem extend_toList (history : List (Tuple U)) (r : Except (Error U) (Answer U (Tuple U))) :
    extend (history.map Tuple.toList) (r.map (Answer.map Tuple.toList))
      = (extend history r).map Tuple.toList := by
  cases r with
  | error e => rfl
  | ok a =>
    show _ ++ (a.map Tuple.toList).made = (history ++ a.made).map Tuple.toList
    rw [Answer.made_map, List.map_append]

/-- **A whole run.**  No step faults, and the bare history is that of the tuples. -/
theorem bareRun_eq (steps : List (Step U)) :
    bareRun steps = some ((run steps).map Tuple.toList) := by
  -- the induction is from any history on, since a run goes through many
  suffices h : ∀ history : List (Tuple U),
      steps.foldlM (fun history step => (step.bareAnswer history).map (extend history))
          (history.map Tuple.toList)
        = some ((steps.foldl (fun history step => extend history (step.answer history))
            history).map Tuple.toList) from h []
  induction steps with
  | nil => exact fun history => rfl
  | cons s steps ih =>
    intro history
    rw [List.foldlM_cons, List.foldl_cons, bareAnswer_toList, Option.map_some, extend_toList]
    exact ih _

end Polyad
