/-
Polyad/Proofs/Join.lean

Join as a partial operation: with the empty tuple it is a monoid as far as there is room, and what
there is room for depends on the depths alone.

Idea.  A join is the tuple that has the elements of both, if there is one (`join_eq_ok_iff`); the bound
need not be looked at, since it is part of being a tuple.  So either way of grouping three tuples has
the outcome `j` exactly if `j` has the elements of all three (`join_join_eq_ok_iff`,
`join_of_join_eq_ok_iff`), and two tuples can be told from their join with a third one as lists can.
Only a failure depends on the grouping: it is that of the first join that is too deep, so the depth it
names may be that of two of the tuples or of all three.

Main statement: `join_partial_monoid`.
-/
import Polyad.Proofs.Outcome
import Polyad.Standard.Kind

namespace Polyad.Tuple

variable {U : Universe} {a b c j k : Tuple U} {i : Nat}

/-! ### The join of two tuples -/

/-- A tuple is a join exactly if it has the elements of both, one after the other. -/
theorem join_eq_ok_iff : a.join b = .ok j ↔ j.toList = a.toList ++ b.toList := by
  refine ⟨fun h => ?_, join_eq_ok⟩
  rcases Nat.lt_or_ge maxDepth (a.depth + b.depth) with hgt | hle
  · rw [join_of_gt hgt] at h
    exact nomatch h
  · rw [join_of_le hle] at h
    obtain rfl := Except.ok.inj h
    rfl

theorem exists_join_iff : (∃ j, a.join b = .ok j) ↔ a.depth + b.depth ≤ maxDepth := by
  constructor
  · rintro ⟨j, hj⟩
    rw [← depth_eq_add (join_eq_ok_iff.mp hj)]
    exact j.depth_le
  · intro h
    exact ⟨_, join_of_le h⟩

/-- The empty tuple may be joined to every tuple, a full one too. -/
theorem empty_join (a : Tuple U) : empty.join a = .ok a :=
  join_eq_ok (List.nil_append a.toList).symm

theorem join_empty (a : Tuple U) : a.join empty = .ok a :=
  join_eq_ok (List.append_nil a.toList).symm

theorem get_eq_ok {v : Value U} (h : a.toList[i]? = some v) : a.elements.get i = .ok v := by
  obtain ⟨hlt, rfl⟩ := List.getElem?_eq_some_iff.mp h
  exact Store.get_of_lt hlt

theorem get_of_join_left (hj : a.join b = .ok j) (h : i < a.depth) :
    ∃ v, a.elements.get i = .ok v ∧ j.elements.get i = .ok v := by
  have hlt : i < a.toList.length := h
  have hat : a.toList[i]? = some a.toList[i] := List.getElem?_eq_getElem hlt
  refine ⟨_, get_eq_ok hat, get_eq_ok ?_⟩
  rw [join_eq_ok_iff.mp hj, List.getElem?_append_left hlt, hat]

theorem get_of_join_right (hj : a.join b = .ok j) (h : a.depth ≤ i) (hi : i < j.depth) :
    ∃ v, b.elements.get (i - a.depth) = .ok v ∧ j.elements.get i = .ok v := by
  have hlist := join_eq_ok_iff.mp hj
  have hdepth := depth_eq_add hlist
  have hlt : i - a.depth < b.toList.length := by rw [length_toList]; omega
  have hat : b.toList[i - a.depth]? = some b.toList[i - a.depth] := List.getElem?_eq_getElem hlt
  refine ⟨_, get_eq_ok hat, get_eq_ok ?_⟩
  rw [hlist, List.getElem?_append_right (show a.toList.length ≤ i from h)]
  exact hat

/-! ### Two joins -/

/-- Some of the elements of a tuple make up a tuple themselves. -/
theorem exists_toList_eq {l : List (Value U)} (h : l.Sublist j.toList) :
    ∃ t : Tuple U, t.toList = l :=
  ⟨⟨⟨l, Nat.le_trans h.length_le j.depth_le⟩⟩, rfl⟩

theorem join_join_eq_ok_iff :
    (do (← a.join b).join c) = .ok j ↔ j.toList = a.toList ++ b.toList ++ c.toList := by
  rw [bind_eq_ok_iff]
  constructor
  · rintro ⟨ab, hab, hj⟩
    rw [join_eq_ok_iff.mp hj, join_eq_ok_iff.mp hab]
  · intro h
    obtain ⟨ab, hab⟩ := exists_toList_eq (h ▸ List.sublist_append_left _ c.toList)
    exact ⟨ab, join_eq_ok hab, join_eq_ok (by rw [h, hab])⟩

theorem join_of_join_eq_ok_iff :
    (do a.join (← b.join c)) = .ok j ↔ j.toList = a.toList ++ b.toList ++ c.toList := by
  rw [bind_eq_ok_iff, List.append_assoc]
  constructor
  · rintro ⟨bc, hbc, hj⟩
    rw [join_eq_ok_iff.mp hj, join_eq_ok_iff.mp hbc]
  · intro h
    obtain ⟨bc, hbc⟩ := exists_toList_eq (h ▸ List.sublist_append_right a.toList _)
    exact ⟨bc, join_eq_ok hbc, join_eq_ok (by rw [h, hbc])⟩

/-- Three tuples that have room together have one join, however they are grouped. -/
theorem exists_join_join (h : a.depth + b.depth + c.depth ≤ maxDepth) :
    ∃ j, (do (← a.join b).join c) = .ok j ∧ (do a.join (← b.join c)) = .ok j := by
  have hlength : (a.toList ++ b.toList ++ c.toList).length ≤ maxDepth := by
    simp only [List.length_append, length_toList]
    exact h
  refine ⟨⟨⟨a.toList ++ b.toList ++ c.toList, hlength⟩⟩, ?_, ?_⟩
  · exact join_join_eq_ok_iff.mpr rfl
  · exact join_of_join_eq_ok_iff.mpr rfl

/-- The first of two joins fails if it is too deep by itself, and the second one fails otherwise. -/
theorem join_join_of_gt (h : maxDepth < a.depth + b.depth + c.depth) :
    (do (← a.join b).join c) = .error (.overflow
      (if maxDepth < a.depth + b.depth then a.depth + b.depth
        else a.depth + b.depth + c.depth)) := by
  by_cases hab : maxDepth < a.depth + b.depth
  · rw [if_pos hab, join_of_gt hab]
    rfl
  · obtain ⟨ab, hj⟩ := exists_join_iff.mpr (Nat.le_of_not_lt hab)
    have hdepth := depth_eq_add (join_eq_ok_iff.mp hj)
    rw [if_neg hab, hj, ← hdepth]
    exact join_of_gt (by omega)

theorem join_of_join_of_gt (h : maxDepth < a.depth + b.depth + c.depth) :
    (do a.join (← b.join c)) = .error (.overflow
      (if maxDepth < b.depth + c.depth then b.depth + c.depth
        else a.depth + b.depth + c.depth)) := by
  by_cases hbc : maxDepth < b.depth + c.depth
  · rw [if_pos hbc, join_of_gt hbc]
    rfl
  · obtain ⟨bc, hj⟩ := exists_join_iff.mpr (Nat.le_of_not_lt hbc)
    have hdepth := depth_eq_add (join_eq_ok_iff.mp hj)
    rw [if_neg hbc, hj, Nat.add_assoc, ← hdepth]
    exact join_of_gt (by omega)

/-! ### Cancellation -/

theorem join_cancel_left (hj : a.join b = .ok j) (hk : a.join c = .ok k)
    (h : j.toList = k.toList) : b.toList = c.toList := by
  rw [join_eq_ok_iff.mp hj, join_eq_ok_iff.mp hk] at h
  exact List.append_cancel_left h

theorem join_cancel_right (hj : b.join a = .ok j) (hk : c.join a = .ok k)
    (h : j.toList = k.toList) : b.toList = c.toList := by
  rw [join_eq_ok_iff.mp hj, join_eq_ok_iff.mp hk] at h
  exact List.append_cancel_right h

/-! ### The laws -/

/-- **Join is a monoid as far as there is room**, and there is room exactly if the depths add up to
no more than the greatest one.

The empty tuple may be joined to every tuple on both sides and changes nothing.  A join has the
elements of the first tuple and then those of the second one.  Three tuples have the same join
however they are grouped, or neither grouping has one: then each fails with a depth that is too great
and no greater than that of all three, but these depths may differ.  From a join and one of its parts
the other part can be told. -/
theorem join_partial_monoid (U : Universe) :
    (∀ a : Tuple U, empty.join a = .ok a ∧ a.join empty = .ok a) ∧
    (∀ a b : Tuple U,
      ((∃ j, a.join b = .ok j) ↔ a.depth + b.depth ≤ maxDepth) ∧
      (maxDepth < a.depth + b.depth → a.join b = .error (.overflow (a.depth + b.depth))) ∧
      ∀ j, a.join b = .ok j → j.depth = a.depth + b.depth ∧ ∀ i,
        (i < a.depth → ∃ v, a.elements.get i = .ok v ∧ j.elements.get i = .ok v) ∧
        (a.depth ≤ i → i < j.depth →
          ∃ v, b.elements.get (i - a.depth) = .ok v ∧ j.elements.get i = .ok v)) ∧
    (∀ a b c : Tuple U,
      (a.depth + b.depth + c.depth ≤ maxDepth →
        ∃ j, (do (← a.join b).join c) = .ok j ∧ (do a.join (← b.join c)) = .ok j) ∧
      (maxDepth < a.depth + b.depth + c.depth →
        ∃ m n, (do (← a.join b).join c) = .error (.overflow m) ∧
          (do a.join (← b.join c)) = .error (.overflow n) ∧
          (maxDepth < m ∧ m ≤ a.depth + b.depth + c.depth) ∧
          (maxDepth < n ∧ n ≤ a.depth + b.depth + c.depth))) ∧
    (∃ (a b c : Tuple U) (m n : Nat), (do (← a.join b).join c) = .error (.overflow m) ∧
      (do a.join (← b.join c)) = .error (.overflow n) ∧ m ≠ n) ∧
    ∀ a b c j k : Tuple U, j.toList = k.toList →
      (a.join b = .ok j → a.join c = .ok k → b.toList = c.toList) ∧
      (b.join a = .ok j → c.join a = .ok k → b.toList = c.toList) := by
  refine ⟨fun a => ⟨empty_join a, join_empty a⟩, fun a b => ⟨exists_join_iff, join_of_gt, ?_⟩,
    fun a b c => ⟨exists_join_join, fun h => ?_⟩, ?_, fun a b c j k h => ⟨?_, ?_⟩⟩
  · intro j hj
    exact ⟨depth_eq_add (join_eq_ok_iff.mp hj), fun i => ⟨get_of_join_left hj, get_of_join_right hj⟩⟩
  · refine ⟨_, _, join_join_of_gt h, join_of_join_of_gt h, ?_, ?_⟩
    · split <;> omega
    · split <;> omega
  · -- eight elements and nine are one too many, and nine and nine are two too many
    let copies (n : Nat) (h : n ≤ maxDepth) : Tuple U :=
      ⟨⟨List.replicate n (.dyn []), by rw [List.length_replicate]; exact h⟩⟩
    exact ⟨copies 8 (by decide), copies 9 (by decide), copies 9 (by decide), 17, 18, rfl, rfl,
      by decide⟩
  · intro hj hk
    exact join_cancel_left hj hk h
  · intro hj hk
    exact join_cancel_right hj hk h

/-- The laws at letters: at a full tuple, to which only the empty one may be joined; at three tuples
that have room; at tuples of eight, nine and nine elements, whose joins fail with two depths; and at
two tuples with the same elements of which one was rotated. -/
theorem join_partial_monoid_letters :
    let letter (c : Char) : Value Standard := .leaf .char c
    let a : Tuple Standard := ⟨⟨['a'].map letter, by decide⟩⟩
    let b : Tuple Standard := ⟨⟨['b', 'c'].map letter, by decide⟩⟩
    let c : Tuple Standard := ⟨⟨['c', 'b'].map letter, by decide⟩⟩
    let eight : Tuple Standard := ⟨⟨List.replicate 8 (letter 'x'), by decide⟩⟩
    let nine : Tuple Standard := ⟨⟨List.replicate 9 (letter 'x'), by decide⟩⟩
    let full : Tuple Standard := ⟨⟨List.replicate 16 (letter 'x'), by decide⟩⟩
    full.join empty = .ok full ∧ full.join a = .error (.overflow 17) ∧
      (∃ j, a.join b = .ok j ∧ j.depth = 3 ∧
        ∃ v, b.elements.get 1 = .ok v ∧ j.elements.get 2 = .ok v) ∧
      (∃ j, (do (← a.join b).join c) = .ok j ∧ (do a.join (← b.join c)) = .ok j) ∧
      (∃ m n, (do (← eight.join nine).join nine) = .error (.overflow m) ∧
        (do eight.join (← nine.join nine)) = .error (.overflow n) ∧
        (16 < m ∧ m ≤ 26) ∧ 16 < n ∧ n ≤ 26) ∧
      b.toList = (c.rotateLeft 1).toList := by
  intro letter a b c eight nine full
  obtain ⟨hempty, htwo, hthree, -, hcancel⟩ := join_partial_monoid Standard
  obtain ⟨-, hfull⟩ := hempty full
  obtain ⟨-, hroom, -⟩ := htwo full a
  obtain ⟨hexists, -, hjoin⟩ := htwo a b
  obtain ⟨j, hj⟩ := hexists.mpr (by decide)
  obtain ⟨hdepth, hget⟩ := hjoin j hj
  obtain ⟨-, hbehind⟩ := hget 2
  obtain ⟨hassoc, -⟩ := hthree a b c
  obtain ⟨-, hfail⟩ := hthree eight nine nine
  obtain ⟨hleft, -⟩ := hcancel a b (c.rotateLeft 1) _ _ rfl
  have hlt : 2 < j.depth := by
    rw [hdepth]
    decide
  exact ⟨hfull, hroom (by decide), ⟨j, hj, hdepth, hbehind (by decide) hlt⟩, hassoc (by decide),
    hfail (by decide), hleft hj hj⟩

end Polyad.Tuple
