/-
Polyad/Proofs/Asking.lean

A function with a memory, asked about several things one after the other.

What such a function answers may depend on everything it has been asked before, so its answers are
those of one run through all questions.  A function can be made to keep a record of its calls beside
its memory (`recorded`); that changes no answer.  Whatever is said of every function with a memory is
said of those that keep a record as well, and then it tells what has been asked, how often and in
which order.
-/

namespace Polyad.Asking

variable {α β σ : Type}

/-- The answers of `f` about all of `xs`, in order. -/
def answers (f : α → StateM σ β) (memory : σ) (xs : List α) : List β :=
  ((xs.mapM f).run memory).1

/-- What `f` has in its memory after it has been asked about all of `xs`, in order. -/
def memoryAfter (f : α → StateM σ β) (memory : σ) (xs : List α) : σ :=
  ((xs.mapM f).run memory).2

/-- The same function with a record of its calls: what it was asked and what it answered. -/
def recorded (f : α → StateM σ β) (x : α) : StateM (σ × List (α × β)) β := do
  let (memory, calls) ← get
  let (y, memory) := (f x).run memory
  set (memory, calls ++ [(x, y)])
  pure y

variable (f : α → StateM σ β) (memory : σ) (x : α) (xs : List α)

@[simp]
theorem answers_nil : answers f memory [] = [] := rfl

@[simp]
theorem memoryAfter_nil : memoryAfter f memory [] = memory := rfl

@[simp]
theorem answers_cons :
    answers f memory (x :: xs)
      = ((f x).run memory).1 :: answers f ((f x).run memory).2 xs := by
  unfold answers
  rw [List.mapM_cons]
  rfl

@[simp]
theorem memoryAfter_cons :
    memoryAfter f memory (x :: xs) = memoryAfter f ((f x).run memory).2 xs := by
  unfold memoryAfter
  rw [List.mapM_cons]
  rfl

@[simp]
theorem length_answers : (answers f memory xs).length = xs.length := by
  induction xs generalizing memory with
  | nil => rfl
  | cons x xs ih => rw [answers_cons, List.length_cons, ih, List.length_cons]

/-- A function without use of its memory. -/
theorem answers_pure (g : α → β) :
    answers (fun x => (pure (g x) : StateM σ β)) memory xs = xs.map g := by
  induction xs with
  | nil => rfl
  | cons x xs ih =>
    rw [answers_cons, List.map_cons]
    exact congrArg _ ih

/-! ### With a record -/

theorem run_recorded (calls : List (α × β)) :
    (recorded f x).run (memory, calls)
      = (((f x).run memory).1, ((f x).run memory).2, calls ++ [(x, ((f x).run memory).1)]) :=
  rfl

theorem answers_recorded (calls : List (α × β)) :
    answers (recorded f) (memory, calls) xs = answers f memory xs := by
  induction xs generalizing memory calls with
  | nil => rfl
  | cons x xs ih => rw [answers_cons, answers_cons, run_recorded, ih]

/-- The record of a run: one call for each question, in order. -/
theorem memoryAfter_recorded (calls : List (α × β)) :
    memoryAfter (recorded f) (memory, calls) xs
      = (memoryAfter f memory xs, calls ++ xs.zip (answers f memory xs)) := by
  induction xs generalizing memory calls with
  | nil => rw [memoryAfter_nil, memoryAfter_nil, List.zip_nil_left, List.append_nil]
  | cons x xs ih =>
    rw [memoryAfter_cons, memoryAfter_cons, run_recorded, ih, answers_cons, List.zip_cons_cons,
      List.append_assoc]
    rfl

end Polyad.Asking
