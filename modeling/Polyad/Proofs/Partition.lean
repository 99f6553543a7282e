/-
Polyad/Proofs/Partition.lean

A stream that was split by a predicate can be put together again.

The predicate may have a memory, so that its answer about an item depends on the items it was asked
about before.

Idea.  Once the answers are known, splitting is filtering by them.  So the state after some items is a
function of the items and of the answers about them (`feed_eq`): the predicate has in its memory what
it has there when it is asked about each item once and in order, and the parts have grown by the items
that were answered true and false.  Two parts can be put together along answers exactly if they are
these (`merge?_answered`, `answered_of_merge?`).  The memory is arbitrary, so it may hold a record of
the calls, and the record shows that there were no others.

Main statement: `splits_and_merges`.
-/
import Polyad.Proofs.Asking
import Polyad.Reducer.Partitioning
import Mathlib.Data.List.Perm.Basic

namespace Polyad.Partitioning

open Asking

variable {σ ι : Type} {items : List ι} {given : List Bool}

/-! ### Taking a list apart along answers, and putting it together -/

/-- The items about which the answer is `b`, in order. -/
def answered (b : Bool) (items : List ι) (given : List Bool) : List ι :=
  ((items.zip given).filter (·.2 == b)).map (·.1)

/-- Two parts as one list: the next item is one of the first part if the answer is true, and one of
the second part if not.  There is no such list if a part ends too early or too late. -/
def merge? : List Bool → List ι → List ι → Option (List ι)
  | [], [], [] => some []
  | true :: given, x :: matched, unmatched => (merge? given matched unmatched).map (x :: ·)
  | false :: given, matched, x :: unmatched => (merge? given matched unmatched).map (x :: ·)
  | _, _, _ => none

@[simp]
theorem answered_nil (b : Bool) (given : List Bool) : answered b ([] : List ι) given = [] := rfl

@[simp]
theorem answered_cons (b a : Bool) (x : ι) (xs : List ι) (given : List Bool) :
    answered b (x :: xs) (a :: given)
      = if a == b then x :: answered b xs given else answered b xs given := by
  unfold answered
  cases hab : a == b <;> simp [hab]

theorem answered_singleton_append (b a : Bool) (x : ι) (xs : List ι) (given : List Bool) :
    answered b [x] [a] ++ answered b xs given = answered b (x :: xs) (a :: given) := by
  rw [answered_cons, answered_cons, answered_nil]
  cases a == b <;> rfl

/-- The parts of a list can be put together to it. -/
theorem merge?_answered (h : given.length = items.length) :
    merge? given (answered true items given) (answered false items given) = some items := by
  induction items generalizing given with
  | nil =>
    rw [List.eq_nil_of_length_eq_zero h]
    rfl
  | cons x items ih =>
    obtain ⟨a, given, rfl⟩ := List.exists_cons_of_length_eq_add_one h
    have hrest := ih (Nat.succ.inj h)
    cases a <;> simp [merge?, hrest]

/-- What can be put together to a list are the parts of it. -/
theorem answered_of_merge? {matched unmatched : List ι}
    (h : merge? given matched unmatched = some items) :
    given.length = items.length ∧ matched = answered true items given ∧
      unmatched = answered false items given := by
  -- the next answer says which part the first item of the list was taken from
  fun_induction merge? given matched unmatched generalizing items with
  | case1 =>
    obtain rfl := Option.some.inj h
    exact ⟨rfl, rfl, rfl⟩
  | case2 given x matched unmatched ih =>
    obtain ⟨rest, hrest, rfl⟩ := Option.map_eq_some_iff.mp h
    obtain ⟨hlength, rfl, rfl⟩ := ih hrest
    exact ⟨congrArg (· + 1) hlength, rfl, rfl⟩
  | case3 given matched x unmatched ih =>
    obtain ⟨rest, hrest, rfl⟩ := Option.map_eq_some_iff.mp h
    obtain ⟨hlength, rfl, rfl⟩ := ih hrest
    exact ⟨congrArg (· + 1) hlength, rfl, rfl⟩
  | case4 => exact absurd h (by simp)

theorem answered_sublist (b : Bool) (h : given.length = items.length) :
    (answered b items given).Sublist items := by
  have hfst : (items.zip given).map (·.1) = items := List.map_fst_zip (Nat.le_of_eq h.symm)
  have hpart : (answered b items given).Sublist ((items.zip given).map (·.1)) :=
    List.filter_sublist.map _
  rwa [hfst] at hpart

/-- Every item is in one of the two parts, as often as in the list. -/
theorem answered_perm (h : given.length = items.length) :
    (answered true items given ++ answered false items given).Perm items := by
  have hfst : (items.zip given).map (·.1) = items := List.map_fst_zip (Nat.le_of_eq h.symm)
  have hparts := (List.filter_append_perm (·.2 == true) (items.zip given)).map (·.1)
  rw [hfst, List.map_append] at hparts
  simpa [answered] using hparts

/-! ### One item, and any number of them -/

/-- **One item.**  The predicate is asked about it once, and it goes where the answer says. -/
theorem accept_eq (predicate : ι → StateM σ Bool) (p : Partitioning σ ι) (item : ι) :
    (reducer predicate).accept p item
      = ⟨((predicate item).run p.memory).2,
          p.matched ++ answered true [item] [((predicate item).run p.memory).1],
          p.unmatched ++ answered false [item] [((predicate item).run p.memory).1]⟩ := by
  unfold reducer
  dsimp only
  rcases (predicate item).run p.memory with ⟨- | -, memory⟩ <;> simp

/-- **Any items.**  The predicate is asked about them one after the other, and the parts grow by those
that are answered true and false. -/
theorem feed_eq (predicate : ι → StateM σ Bool) (p : Partitioning σ ι) (items : List ι) :
    (reducer predicate).feed p items
      = ⟨memoryAfter predicate p.memory items,
          p.matched ++ answered true items (answers predicate p.memory items),
          p.unmatched ++ answered false items (answers predicate p.memory items)⟩ := by
  induction items generalizing p with
  | nil => simp
  | cons item items ih =>
    simp only [Reducer.feed_cons, accept_eq, ih, answers_cons, memoryAfter_cons, List.append_assoc,
      answered_singleton_append]

/-- **A stable split without loss.**  Let a stream be split by any predicate, which may have a memory.
Its answers are those of one run through the stream: it is asked about every item once, in the order
of the stream, and about nothing else.  The two parts are the items that it answered true and false,
each in the order of the stream.  Together they hold the items of the stream and no others, and along
the answers they can be put together to the stream, and to it only from them. -/
theorem splits_and_merges (predicate : ι → StateM σ Bool) (memory : σ) (stream : List ι) :
    ((reducer predicate).feed (start memory) stream).memory = memoryAfter predicate memory stream ∧
    let given := answers predicate memory stream
    let parts := (reducer predicate).reduce (start memory) stream
    given.length = stream.length ∧
    (reducer (recorded predicate)).feed (start (memory, [])) stream
      = ⟨(memoryAfter predicate memory stream, stream.zip given), parts.1, parts.2⟩ ∧
    parts.1 = answered true stream given ∧ parts.2 = answered false stream given ∧
    parts.1.Sublist stream ∧ parts.2.Sublist stream ∧ (parts.1 ++ parts.2).Perm stream ∧
    ∀ matched unmatched,
      merge? given matched unmatched = some stream ↔ matched = parts.1 ∧ unmatched = parts.2 := by
  have hfeed := feed_eq predicate (start memory) stream
  refine ⟨congrArg Partitioning.memory hfeed, ?_⟩
  intro given parts
  have hlength : given.length = stream.length := length_answers predicate memory stream
  have hmatched : parts.1 = answered true stream given := congrArg Partitioning.matched hfeed
  have hunmatched : parts.2 = answered false stream given := congrArg Partitioning.unmatched hfeed
  refine ⟨hlength, ?_, hmatched, hunmatched, ?_, ?_, ?_, fun matched unmatched => ⟨fun h => ?_, ?_⟩⟩
  · rw [feed_eq, hmatched, hunmatched]
    simp only [start, answers_recorded, memoryAfter_recorded, List.nil_append, given]
  · exact hmatched ▸ answered_sublist true hlength
  · exact hunmatched ▸ answered_sublist false hlength
  · rw [hmatched, hunmatched]
    exact answered_perm hlength
  · obtain ⟨-, rfl, rfl⟩ := answered_of_merge? h
    exact ⟨hmatched.symm, hunmatched.symm⟩
  · rintro ⟨rfl, rfl⟩
    rw [hmatched, hunmatched]
    exact merge?_answered hlength

/-- Every second item a predicate is asked about is answered true, whatever it is. -/
example :
    let second : Char → StateM Nat Bool := fun _ => do
      modify (· + 1)
      pure ((← get) % 2 = 0)
    (reducer second).reduce (start 0) ['a', 'b', 'a', 'a', 'c'] = (['b', 'a'], ['a', 'a', 'c']) := by
  rfl

end Polyad.Partitioning
