/-
Polyad/Proofs/Composition.lean

Every operation that rearranges a tuple is a composition of three of them: `truncate`, `hop` and
`join`.

The operations themselves compute with indexes, each in its own way: `remove` leaves an index out,
`transform` puts a value at an index, a rotation drops and takes a remainder.  Here each of them is
shown to be the parts before and behind a position put together again, errors included.

Idea.  Two tuples with the same elements are the same (`Tuple.ext`), so that a join is known by its
elements alone (`join_eq_ok`).  Every equation then comes down to one of lists, which `take` and
`drop` decide; the depth of the result needs no attention, since the result is a tuple.  Only `add`
can go too deep, and there both sides fail alike (`add_eq_compose`).
-/
import Polyad.Proofs.Outcome
import Polyad.Standard.Kind

namespace Polyad.Tuple

variable {U : Universe} {t : Tuple U} {p : Nat}

/-- The tuple of a single element. -/
def single (v : Value U) : Tuple U := ⟨⟨[v], (by decide : 1 ≤ maxDepth)⟩⟩

theorem ofList_singleton (v : Value U) : ofList [v] = .ok (single v) := rfl

/-! ### The two parts of a tuple -/

/-- A tuple is what comes before a position joined with what comes from it on. -/
theorem truncate_join_hop (h₁ : 1 ≤ p) (h₂ : p ≤ t.depth) :
    (do (← t.truncate p).join (← t.hop p)) = .ok t := by
  rw [truncate_of_le h₁ h₂, hop_of_le h₁ h₂]
  refine join_eq_ok ?_
  rw [toList_slice_zero, toList_slice_depth, List.take_append_drop]

/-- The two parts of a splice are a truncation and a hop. -/
theorem splice_eq_truncate_hop (h₁ : 1 ≤ p) (h₂ : p < t.depth) :
    t.splice p = (do .ok (← t.truncate p, ← t.hop p)) := by
  rw [splice_of_lt h₁ h₂, truncate_of_le h₁ (Nat.le_of_lt h₂), hop_of_le h₁ (Nat.le_of_lt h₂)]
  rfl

/-! ### A new element between two parts -/

/-- What comes before `p`, joined with one element: this never goes too deep, since the element at
`p` is left out. -/
theorem truncate_join_single (h₁ : 1 ≤ p) (h₂ : p ≤ t.depth) (w : Value U) :
    ∃ head : Tuple U, head.toList = t.toList.take (p - 1) ++ [w] ∧
      (do (← t.truncate p).join (← ofList [w])) = .ok head := by
  have hdepth : (t.toList.take (p - 1) ++ [w]).length ≤ maxDepth := by
    have := t.depth_le
    rw [List.length_append, List.length_take, length_toList, List.length_singleton]
    omega
  refine ⟨⟨⟨_, hdepth⟩⟩, rfl, ?_⟩
  rw [truncate_of_le h₁ h₂, ofList_singleton]
  exact join_eq_ok rfl

/-- What comes before `p`, one element, and what comes from `q` on: only the last join can go too
deep. -/
theorem truncate_join_single_join_hop {q : Nat} (h₁ : 1 ≤ p) (h₂ : p ≤ t.depth) (hq₁ : 1 ≤ q)
    (hq₂ : q ≤ t.depth) (w : Value U) :
    ∃ head tail : Tuple U, head.toList = t.toList.take (p - 1) ++ [w] ∧
      tail.toList = t.toList.drop (q - 1) ∧
      (do (← (← t.truncate p).join (← ofList [w])).join (← t.hop q)) = head.join tail := by
  obtain ⟨head, hhead, hjoin⟩ := truncate_join_single h₁ h₂ w
  refine ⟨head, ⟨t.elements.slice (q - 1) t.depth⟩, hhead, toList_slice_depth t _, ?_⟩
  rw [truncate_of_le h₁ h₂, ofList_singleton] at *
  show (join _ (single w)).bind _ = _
  rw [show join _ (single w) = .ok head from hjoin, hop_of_le hq₁ hq₂]
  rfl

/-! ### One element more, one less, one changed -/

/-- An element is added between the two parts at its position; where the tuple is full, both ways
to put it in fail with the same error. -/
theorem add_eq_compose (h₁ : 1 ≤ p) (h₂ : p ≤ t.depth) (v : Value U) :
    t.add p v = (do (← (← t.truncate p).join (← ofList [v])).join (← t.hop p)) := by
  obtain ⟨head, tail, hhead, htail, hcompose⟩ := truncate_join_single_join_hop h₁ h₂ h₁ h₂ v
  rw [hcompose]
  rcases Nat.lt_or_ge t.depth maxDepth with h | h
  · rw [add_of_lt h₁ h₂ h]
    refine (join_eq_ok ?_).symm
    rw [hhead, htail, List.append_assoc]
    rfl
  · -- both sides report the depth that the result would have had, here one more than a full tuple
    have hdepth : head.depth + tail.depth = t.depth + 1 := by
      rw [← length_toList head, ← length_toList tail, hhead, htail, List.length_append,
        List.length_take, List.length_drop, List.length_singleton, length_toList]
      omega
    have hfull : t.depth = maxDepth := Nat.le_antisymm t.depth_le h
    rw [add_of_full h₁ h₂ hfull, join_of_gt (by omega), hdepth, hfull]

/-- The elements after one of them is left out. -/
theorem toList_without (i : Nat) :
    toList ⟨t.elements.without i⟩ = t.toList.take i ++ t.toList.drop (i + 1) := by
  rw [toList_mk, Store.values_without]
  exact List.eraseIdx_eq_take_drop_succ _ _

theorem remove_eq_compose (h₁ : 1 ≤ p) (h₂ : p < t.depth) :
    t.remove p = (do (← t.truncate p).join (← t.hop (p + 1))) := by
  have hle : p ≤ t.depth := Nat.le_of_lt h₂
  rw [remove_of_le h₁ hle, truncate_of_le h₁ hle, hop_of_le (Nat.le_add_left 1 p) h₂]
  refine (join_eq_ok ?_).symm
  rw [toList_without, toList_slice_zero, toList_slice_depth, Nat.sub_add_cancel h₁,
    Nat.add_sub_cancel]

/-- Behind the last position there is nothing to hop to. -/
theorem drop_last (h : 1 ≤ t.depth) : t.toList.drop (t.depth - 1 + 1) = [] :=
  List.drop_eq_nil_of_le (by rw [length_toList]; omega)

theorem remove_last (h : 1 ≤ t.depth) : t.remove t.depth = t.truncate t.depth := by
  rw [remove_of_le h (Nat.le_refl _), truncate_of_le h (Nat.le_refl _)]
  refine congrArg Except.ok (Tuple.ext ?_)
  show toList ⟨t.elements.without (t.depth - 1)⟩ = t.toList.take (t.depth - 1)
  rw [toList_without, drop_last h, List.append_nil]

/-- The elements after one of them is replaced. -/
theorem toList_replace {i : Nat} (h : i < t.depth) (v : Value U) :
    toList ⟨t.elements.replace i v⟩ = t.toList.take i ++ v :: t.toList.drop (i + 1) := by
  rw [toList_mk, Store.values_replace]
  exact List.set_eq_take_append_cons_drop.trans (if_pos h)

theorem transform_eq_compose (h₁ : 1 ≤ p) (h₂ : p < t.depth) (f : Value U → Value U) :
    t.transform p f
      = (do (← (← t.truncate p).join (← ofList [f (← t.value p)])).join (← t.hop (p + 1))) := by
  have hle : p ≤ t.depth := Nat.le_of_lt h₂
  rw [transform_of_le h₁ hle, value_of_le h₁ hle]
  obtain ⟨head, tail, hhead, htail, hcompose⟩ :=
    truncate_join_single_join_hop h₁ hle (Nat.le_add_left 1 p) h₂
      (f (t.elementAt p (by omega)))
  refine Eq.trans ?_ hcompose.symm
  refine (join_eq_ok ?_).symm
  rw [toList_replace (by omega), hhead, htail, List.append_assoc, Nat.sub_add_cancel h₁,
    Nat.add_sub_cancel]
  rfl

theorem transform_last (h : 1 ≤ t.depth) (f : Value U → Value U) :
    t.transform t.depth f
      = (do (← t.truncate t.depth).join (← ofList [f (← t.value t.depth)])) := by
  rw [transform_of_le h (Nat.le_refl _), value_of_le h (Nat.le_refl _)]
  obtain ⟨head, hhead, hcompose⟩ :=
    truncate_join_single h (Nat.le_refl _)
      (f (t.elementAt t.depth (by omega)))
  refine Eq.trans ?_ hcompose.symm
  refine congrArg Except.ok (Tuple.ext ?_)
  show toList ⟨t.elements.replace _ _⟩ = head.toList
  rw [toList_replace (by omega), hhead, drop_last h]

/-! ### Rotations -/

/-- A rotation swaps the two parts at a position. -/
theorem hop_join_truncate (h : 1 ≤ t.depth) (n : Nat) :
    (do (← t.hop (n % t.depth + 1)).join (← t.truncate (n % t.depth + 1)))
      = .ok (t.rotateLeft n) := by
  have hlt : n % t.depth < t.depth := Nat.mod_lt _ h
  rw [hop_of_le (Nat.le_add_left 1 _) hlt, truncate_of_le (Nat.le_add_left 1 _) hlt]
  refine join_eq_ok ?_
  rw [toList_slice_zero, toList_slice_depth, Nat.add_sub_cancel]
  rfl

theorem rotateRight_eq_rotateLeft (t : Tuple U) (n : Nat) :
    t.rotateRight n = t.rotateLeft (t.depth - n % t.depth) := rfl

/-! ### The parts of a join -/

section Join

variable {a b j : Tuple U}

theorem truncate_of_join (hb : 1 ≤ b.depth) (hj : j.toList = a.toList ++ b.toList) :
    j.truncate (a.depth + 1) = .ok a := by
  have hdepth := depth_eq_add hj
  rw [truncate_of_le (Nat.le_add_left 1 _) (by omega)]
  refine congrArg Except.ok (Tuple.ext ?_)
  show toList ⟨j.elements.slice 0 a.depth⟩ = a.toList
  rw [toList_slice_zero, hj]
  exact List.take_left

theorem hop_of_join (hb : 1 ≤ b.depth) (hj : j.toList = a.toList ++ b.toList) :
    j.hop (a.depth + 1) = .ok b := by
  have hdepth := depth_eq_add hj
  rw [hop_of_le (Nat.le_add_left 1 _) (by omega)]
  refine congrArg Except.ok (Tuple.ext ?_)
  show toList ⟨j.elements.slice a.depth j.depth⟩ = b.toList
  rw [toList_slice_depth, hj]
  exact List.drop_left

/-- Splicing a join where it was joined gives its parts back. -/
theorem splice_of_join (hb : 2 ≤ b.depth) (hj : j.toList = a.toList ++ b.toList) :
    j.splice (a.depth + 1) = .ok (a, b) := by
  have hdepth := depth_eq_add hj
  rw [splice_eq_truncate_hop (Nat.le_add_left 1 _) (by omega), truncate_of_join (by omega) hj,
    hop_of_join (by omega) hj]
  rfl

end Join

/-! ### The operations as compositions -/

/-- **Every operation is made of `truncate`, `hop` and `join`.**  On a tuple that is not empty and
at each of its positions, errors included; and conversely a join is taken apart by `truncate`,
`hop` and `splice` where it was joined. -/
theorem operations_eq_compose :
    (∀ t : Tuple U, 1 ≤ t.depth →
      (∀ p, 1 ≤ p → p ≤ t.depth →
        (do (← t.truncate p).join (← t.hop p)) = .ok t ∧
        (p < t.depth → t.splice p = (do .ok (← t.truncate p, ← t.hop p))) ∧
        (∀ v, t.add p v = (do (← (← t.truncate p).join (← ofList [v])).join (← t.hop p)) ∧
          ((∃ u, t.add p v = .ok u) ∨ t.add p v = .error (.overflow (maxDepth + 1)))) ∧
        (p < t.depth → t.remove p = (do (← t.truncate p).join (← t.hop (p + 1)))) ∧
        (p = t.depth → t.remove p = t.truncate p) ∧
        ∀ f,
          (p < t.depth → t.transform p f
            = (do
              let head ← (← t.truncate p).join (← ofList [f (← t.value p)])
              head.join (← t.hop (p + 1)))) ∧
          (p = t.depth → t.transform p f
            = (do (← t.truncate p).join (← ofList [f (← t.value p)])))) ∧
      ∀ n,
        (do (← t.hop (n % t.depth + 1)).join (← t.truncate (n % t.depth + 1)))
          = .ok (t.rotateLeft n) ∧
        t.rotateRight n = t.rotateLeft (t.depth - n % t.depth)) ∧
    ∀ a b : Tuple U, 1 ≤ b.depth → a.depth + b.depth ≤ maxDepth →
      ∃ j, a.join b = .ok j ∧ j.truncate (a.depth + 1) = .ok a ∧ j.hop (a.depth + 1) = .ok b ∧
        (2 ≤ b.depth → j.splice (a.depth + 1) = .ok (a, b)) := by
  constructor
  · intro t ht
    refine ⟨fun p h₁ h₂ => ⟨truncate_join_hop h₁ h₂, splice_eq_truncate_hop h₁, fun v => ?_,
      remove_eq_compose h₁, ?_, fun f => ⟨fun h => transform_eq_compose h₁ h f, ?_⟩⟩,
      fun n => ⟨hop_join_truncate ht n, rotateRight_eq_rotateLeft t n⟩⟩
    · refine ⟨add_eq_compose h₁ h₂ v, ?_⟩
      rcases Nat.lt_or_ge t.depth maxDepth with h | h
      · exact Or.inl ⟨_, add_of_lt h₁ h₂ h⟩
      · exact Or.inr (add_of_full h₁ h₂ (Nat.le_antisymm t.depth_le h))
    · rintro rfl
      exact remove_last ht
    · rintro rfl
      exact transform_last ht f
  · intro a b hb hab
    obtain ⟨j, hj, hjoin⟩ : ∃ j : Tuple U, j.toList = a.toList ++ b.toList ∧ a.join b = .ok j :=
      ⟨_, rfl, join_of_le hab⟩
    exact ⟨j, hjoin, truncate_of_join hb hj, hop_of_join hb hj, fun h => splice_of_join h hj⟩

/-- The compositions on a full tuple, at a position inside and at the last one, and on a join that
fills a tuple. -/
theorem operations_eq_compose_full :
    let t : Tuple Standard := ⟨⟨List.replicate 15 (.dyn []) ++ [.tuple []], by decide⟩⟩
    let b : Tuple Standard := ⟨⟨[.dyn [.tuple []], .dyn []], by decide⟩⟩
    let a : Tuple Standard := ⟨⟨List.replicate 14 (.tuple []), by decide⟩⟩
    (1 ≤ t.depth ∧ 3 < t.depth ∧ 16 = t.depth) ∧
    t.remove 3 = (do (← t.truncate 3).join (← t.hop 4)) ∧
    t.remove 16 = t.truncate 16 ∧
    t.add 16 (.dyn []) = (do (← (← t.truncate 16).join (← ofList [.dyn []])).join (← t.hop 16)) ∧
    t.rotateRight (UInt64.size - 1) = t.rotateLeft (t.depth - (UInt64.size - 1) % t.depth) ∧
    (2 ≤ b.depth ∧ a.depth + b.depth ≤ maxDepth) ∧
    ∃ j, a.join b = .ok j ∧ j.splice 15 = .ok (a, b) := by
  intro t b a
  obtain ⟨hposition, hrotation⟩ := operations_eq_compose.1 t (by decide)
  obtain ⟨-, -, -, hinside, -⟩ := hposition 3 (by decide) (by decide)
  obtain ⟨-, -, hadd, -, hlast, -⟩ := hposition 16 (by decide) (by decide)
  obtain ⟨j, hj, -, -, hsplice⟩ := operations_eq_compose.2 a b (by decide) (by decide)
  exact ⟨⟨by decide, by decide, by decide⟩, hinside (by decide), hlast (by decide),
    (hadd (.dyn [])).1, (hrotation _).2, ⟨by decide, by decide⟩, j, hj, hsplice (by decide)⟩

end Polyad.Tuple
