/-
Polyad/Proofs/Edits.lean

Edits of single elements: one is added, removed or changed, and what two edits in a row do.

Idea.  Behind the checks each edit is an edit of the list of elements, at the index of its position:
`insertIdx`, `eraseIdx` and `modify`.  A tuple that has the elements of the edited list is the
outcome (`add_eq_ok_iff`, `remove_eq_ok`, `transform_eq_ok`); its bound need not be looked at, since
a tuple has no more elements than it may.  So each law of two edits is one of lists, and what is left
to do is to count: an element behind an edit has moved by one position.

What a function does besides giving a value cannot be seen in `transform`.  `transformM` takes
functions with effects in any monad, and there it shows that the effect happens once; what is put at
the position is what `transform` puts there.

Main statement: `edits_shift_positions`.
-/
import Polyad.Proofs.Composition
import Mathlib.Data.List.Basic
import Mathlib.Data.List.InsertIdx

namespace Polyad

/-! ### Edits of lists -/

section Lists

variable {α : Type} {i j : Nat}

theorem eraseIdx_eraseIdx_of_lt (l : List α) (h : i < j) :
    (l.eraseIdx j).eraseIdx i = (l.eraseIdx i).eraseIdx (j - 1) := by
  apply List.ext_getElem?
  intro k
  simp only [List.getElem?_eraseIdx]
  grind

theorem insertIdx_modify_of_lt (f : α → α) (l : List α) (v : α) (h : j < i) :
    (l.modify j f).insertIdx i v = (l.insertIdx i v).modify j f := by
  apply List.ext_getElem?
  intro k
  simp only [List.getElem?_insertIdx, List.getElem?_modify]
  grind

/-- What stands where an element is put in has moved by one. -/
theorem insertIdx_modify_of_le (f : α → α) (l : List α) (v : α) (h : i ≤ j) :
    (l.modify j f).insertIdx i v = (l.insertIdx i v).modify (j + 1) f := by
  apply List.ext_getElem?
  intro k
  simp only [List.getElem?_insertIdx, List.getElem?_modify]
  grind

theorem take_append_cons_drop (l : List α) (v : α) (h : i ≤ l.length) :
    l.take i ++ v :: l.drop i = l.insertIdx i v := by
  induction l generalizing i with
  | nil =>
    obtain rfl := Nat.le_zero.mp h
    rfl
  | cons x xs ih =>
    cases i with
    | zero => rfl
    | succ i =>
      have hrest := ih (Nat.le_of_succ_le_succ h)
      simp [hrest]

end Lists

/-! ### Checks in front of an effect -/

section Checks

variable {m : Type → Type} [Monad m] [LawfulMonad m] {ε α β : Type}

/-- A check that fails has no effect, and nothing comes after it. -/
theorem run_bind_error (e : ε) (k : α → ExceptT ε m β) :
    (do k (← (liftM (Except.error e : Except ε α) : ExceptT ε m α))).run = pure (.error e) := by
  rw [ExceptT.run_bind]
  exact pure_bind _ _

theorem run_bind_ok (a : α) (k : α → ExceptT ε m β) :
    (do k (← (liftM (Except.ok a : Except ε α) : ExceptT ε m α))).run = (k a).run := by
  rw [ExceptT.run_bind]
  exact pure_bind _ _

end Checks

namespace Tuple

variable {U : Universe} {t u : Tuple U} {p q : Nat} {v : Value U} {f g : Value U → Value U}

/-! ### Single edits as edits of the list of elements -/

theorem inRange (h₁ : 1 ≤ p) (h₂ : p ≤ t.depth) : ¬(p = 0 ∨ t.depth < p) := by
  omega

/-- Tuples with the same element at two positions in range have the same value there. -/
theorem value_eq_value (hp : 1 ≤ p) (hq : 1 ≤ q) (hle : q ≤ t.depth)
    (h : u.toList[p - 1]? = t.toList[q - 1]?) : u.value p = t.value q := by
  obtain ⟨w, hw⟩ : ∃ w, t.value q = .ok w := ⟨_, value_of_le hq hle⟩
  have hat := (value_eq_ok_iff.mp hw).2
  rw [hw]
  exact value_eq_ok_iff.mpr ⟨hp, h.trans hat⟩

theorem toList_insert {i : Nat} (h : t.depth < maxDepth) (hi : i ≤ t.depth) (v : Value U) :
    toList ⟨t.elements.insert i v h⟩ = t.toList.insertIdx i v :=
  take_append_cons_drop t.toList v hi

/-- An element is added wherever there is one, unless there is no room for it. -/
theorem add_eq_ok_iff :
    t.add p v = .ok u ↔ 1 ≤ p ∧ p ≤ t.depth ∧ u.toList = t.toList.insertIdx (p - 1) v := by
  by_cases hp : 1 ≤ p ∧ p ≤ t.depth
  · obtain ⟨h₁, h₂⟩ := hp
    have hindex : p - 1 ≤ t.depth := by omega
    rcases Nat.lt_or_ge t.depth maxDepth with h | h
    · rw [add_of_lt h₁ h₂ h, Except.ok.injEq, ← toList_insert h hindex]
      exact ⟨fun hu => ⟨h₁, h₂, hu ▸ rfl⟩, fun hu => Tuple.ext hu.2.2.symm⟩
    · rw [add_of_full h₁ h₂ (Nat.le_antisymm t.depth_le h)]
      refine ⟨nofun, fun ⟨_, _, hu⟩ => ?_⟩
      -- no tuple has one element more than a full one
      have hlength := congrArg List.length hu
      rw [List.length_insertIdx_of_le_length (by rw [length_toList]; exact hindex),
        length_toList, length_toList] at hlength
      have hle := u.depth_le
      omega
  · rw [add_eq]
    refine ⟨fun h => ?_, fun h => absurd ⟨h.1, h.2.1⟩ hp⟩
    rcases Nat.eq_zero_or_pos t.depth with h₀ | h₀
    · rw [if_pos h₀] at h
      exact nomatch h
    · rw [if_neg (by omega), if_pos (by omega)] at h
      exact nomatch h

theorem depth_of_add (h : t.add p v = .ok u) : u.depth = t.depth + 1 := by
  obtain ⟨h₁, h₂, hu⟩ := add_eq_ok_iff.mp h
  rw [← length_toList, hu,
    List.length_insertIdx_of_le_length (by rw [length_toList]; omega), length_toList]

theorem remove_eq_ok (h₁ : 1 ≤ p) (h₂ : p ≤ t.depth) (h : u.toList = t.toList.eraseIdx (p - 1)) :
    t.remove p = .ok u := by
  rw [remove_of_le h₁ h₂]
  refine congrArg Except.ok (Tuple.ext ?_)
  exact (Store.values_without _ _).trans h.symm

theorem exists_remove (h₁ : 1 ≤ p) (h₂ : p ≤ t.depth) :
    ∃ r, t.remove p = .ok r ∧ r.toList = t.toList.eraseIdx (p - 1) ∧ r.depth = t.depth - 1 := by
  have hr : toList ⟨t.elements.without (p - 1)⟩ = t.toList.eraseIdx (p - 1) :=
    Store.values_without _ _
  refine ⟨_, remove_of_le h₁ h₂, hr, ?_⟩
  rw [← length_toList, hr, List.length_eraseIdx_of_lt (by rw [length_toList]; omega), length_toList]

theorem toList_replace_eq_modify (h₁ : 1 ≤ p) (h₂ : p ≤ t.depth) (f : Value U → Value U) :
    toList ⟨t.elements.replace (p - 1) (f (t.elementAt p (inRange h₁ h₂)))⟩
      = t.toList.modify (p - 1) f := by
  rw [toList_mk, Store.values_replace]
  exact (List.modify_eq_set_get f _).symm

theorem transform_eq_ok (h₁ : 1 ≤ p) (h₂ : p ≤ t.depth) (h : u.toList = t.toList.modify (p - 1) f) :
    t.transform p f = .ok u := by
  rw [transform_of_le h₁ h₂]
  refine congrArg Except.ok (Tuple.ext ?_)
  exact (toList_replace_eq_modify h₁ h₂ f).trans h.symm

theorem exists_transform (h₁ : 1 ≤ p) (h₂ : p ≤ t.depth) (f : Value U → Value U) :
    ∃ r, t.transform p f = .ok r ∧ r.toList = t.toList.modify (p - 1) f ∧ r.depth = t.depth := by
  have hr := toList_replace_eq_modify h₁ h₂ f
  refine ⟨_, transform_of_le h₁ h₂, hr, ?_⟩
  rw [← length_toList, hr, List.length_modify, length_toList]

/-! ### An element added, and one removed -/

/-- What was added is at its position. -/
theorem value_of_add (h : t.add p v = .ok u) : u.value p = .ok v := by
  obtain ⟨h₁, h₂, hu⟩ := add_eq_ok_iff.mp h
  have hindex : p - 1 ≤ t.toList.length := by rw [length_toList]; omega
  refine value_eq_ok_iff.mpr ⟨h₁, ?_⟩
  rw [hu, List.getElem?_insertIdx_self, if_pos hindex]

theorem value_of_add_of_lt (h : t.add p v = .ok u) (hq : 1 ≤ q) (hqp : q < p) :
    u.value q = t.value q := by
  obtain ⟨h₁, h₂, hu⟩ := add_eq_ok_iff.mp h
  apply value_eq_value hq hq (by omega)
  rw [hu, List.getElem?_insertIdx_of_lt (by omega)]

theorem value_of_add_of_le (h : t.add p v = .ok u) (hpq : p ≤ q) (hq : q ≤ t.depth) :
    u.value (q + 1) = t.value q := by
  obtain ⟨h₁, h₂, hu⟩ := add_eq_ok_iff.mp h
  apply value_eq_value (Nat.le_add_left 1 q) (Nat.le_trans h₁ hpq) hq
  rw [hu, Nat.add_sub_cancel, List.getElem?_insertIdx_of_gt (by omega)]

theorem remove_of_add (h : t.add p v = .ok u) : u.remove p = .ok t := by
  obtain ⟨h₁, h₂, hu⟩ := add_eq_ok_iff.mp h
  have hdepth := depth_of_add h
  apply remove_eq_ok h₁ (by omega)
  rw [hu, List.eraseIdx_insertIdx_self]

/-- An element that was removed before the last position can be put back. -/
theorem add_of_remove (h₁ : 1 ≤ p) (h₂ : p < t.depth) :
    (do (← t.remove p).add p (← t.value p)) = .ok t := by
  obtain ⟨r, hr, hlist, hdepth⟩ := exists_remove h₁ (Nat.le_of_lt h₂)
  have hindex : p - 1 < t.toList.length := by rw [length_toList]; omega
  have hback : r.add p (t.elementAt p (by omega)) = .ok t := by
    refine add_eq_ok_iff.mpr ⟨h₁, by omega, ?_⟩
    rw [hlist]
    exact (List.insertIdx_eraseIdx_getElem hindex).symm
  rw [hr, value_of_le h₁ (Nat.le_of_lt h₂)]
  exact hback

/-- The last element cannot be put back: nothing is left there before which it would come. -/
theorem add_of_remove_last (h : 1 ≤ t.depth) :
    (do (← t.remove t.depth).add t.depth (← t.value t.depth))
      = .error (if t.depth = 1 then .unsupportedOnEmpty .add
          else .invalidPosition t.depth (t.depth - 1)) := by
  obtain ⟨r, hr, -, hdepth⟩ := exists_remove h (Nat.le_refl t.depth)
  rw [hr, value_of_le h (Nat.le_refl _)]
  show r.add t.depth _ = _
  rw [add_eq]
  by_cases h₁ : t.depth = 1
  · rw [if_pos (by omega), if_pos h₁]
  · rw [if_neg (by omega), if_pos (by omega), if_neg h₁, hdepth]

/-- Of two removals the one further back may come first. -/
theorem remove_remove (h₁ : 1 ≤ p) (hpq : p < q) (h₂ : q ≤ t.depth) :
    ∃ r, (do (← t.remove q).remove p) = .ok r ∧ (do (← t.remove p).remove (q - 1)) = .ok r := by
  obtain ⟨tp, htp, hp, hpd⟩ := exists_remove h₁ (show p ≤ t.depth by omega)
  obtain ⟨tq, htq, hq, hqd⟩ := exists_remove (show 1 ≤ q by omega) h₂
  obtain ⟨r, hr, hlist, -⟩ := exists_remove h₁ (show p ≤ tq.depth by omega)
  have hother : tp.remove (q - 1) = .ok r := by
    apply remove_eq_ok (by omega) (by omega)
    rw [hlist, hq, hp, eraseIdx_eraseIdx_of_lt _ (by omega)]
  refine ⟨r, ?_, ?_⟩
  · rw [htq]
    exact hr
  · rw [htp]
    exact hother

/-! ### An element changed -/

section Effects

variable {m : Type → Type} [Monad m] [LawfulMonad m]

/-- Behind the checks the function is applied once, with all its effects, to the element at the
position; where a check fails it is not applied. -/
theorem transformM_eq (t : Tuple U) (p : Nat) (f : Value U → m (Value U)) :
    (t.transformM p f).run
      = if t.depth = 0 then pure (.error (.unsupportedOnEmpty .transform))
        else if h : p = 0 ∨ t.depth < p then pure (.error (.invalidPosition p t.depth))
        else (fun w => .ok ⟨t.elements.replace (p - 1) w⟩) <$> f (t.elementAt p h) := by
  unfold transformM checkNonEmpty
  rw [value_eq]
  by_cases h₀ : t.depth = 0
  · rw [if_pos h₀, if_pos (isEmpty_iff.mpr h₀)]
    exact run_bind_error _ _
  · rw [if_neg h₀, if_neg (fun h => h₀ (isEmpty_iff.mp h)), run_bind_ok]
    by_cases hp : p = 0 ∨ t.depth < p
    · rw [dif_pos hp, dif_pos hp]
      exact run_bind_error _ _
    · rw [dif_neg hp, dif_neg hp, run_bind_ok]
      simp [Except.map]

theorem transformM_of_le (h₁ : 1 ≤ p) (h₂ : p ≤ t.depth) (f : Value U → m (Value U)) :
    (t.transformM p f).run
      = (fun w => .ok ⟨t.elements.replace (p - 1) w⟩) <$> f (t.elementAt p (inRange h₁ h₂)) := by
  rw [transformM_eq, if_neg (by omega), dif_neg (inRange h₁ h₂)]

end Effects

/-- What was put at a position is there. -/
theorem value_replace (h₁ : 1 ≤ p) (h₂ : p ≤ t.depth) (w : Value U) :
    value ⟨t.elements.replace (p - 1) w⟩ p = .ok w := by
  have hindex : p - 1 < t.toList.length := by rw [length_toList]; omega
  refine value_eq_ok_iff.mpr ⟨h₁, ?_⟩
  rw [toList_mk, Store.values_replace]
  exact List.getElem?_set_self hindex

theorem depth_replace (t : Tuple U) (i : Nat) (w : Value U) :
    depth ⟨t.elements.replace i w⟩ = t.depth := by
  rw [← length_toList, toList_mk, Store.values_replace, List.length_set]
  rfl

/-- At all other positions, in range or not, nothing has changed. -/
theorem value_replace_of_ne (h₁ : 1 ≤ p) (hqp : q ≠ p) (w : Value U) :
    value ⟨t.elements.replace (p - 1) w⟩ q = t.value q := by
  have hdepth := depth_replace t (p - 1) w
  by_cases hq : q = 0 ∨ t.depth < q
  · rw [value_eq, value_eq, dif_pos hq, dif_pos (by rw [hdepth]; exact hq), hdepth]
  · apply value_eq_value (by omega) (by omega) (by omega)
    rw [toList_mk, Store.values_replace]
    exact List.getElem?_set_ne (by omega)

/-! ### Two edits, one of them a change -/

theorem transform_transform (h₁ : 1 ≤ p) (h₂ : p ≤ t.depth) (f g : Value U → Value U) :
    (do (← t.transform p f).transform p g) = t.transform p (g ∘ f) := by
  obtain ⟨tp, htp, hp, hdepth⟩ := exists_transform h₁ h₂ f
  obtain ⟨r, hr, hlist, -⟩ := exists_transform h₁ (show p ≤ tp.depth by omega) g
  have hboth : t.transform p (g ∘ f) = .ok r := by
    apply transform_eq_ok h₁ h₂
    rw [hlist, hp, List.modify_modify_eq]
  rw [htp, hboth]
  exact hr

theorem transform_transform_comm (hp₁ : 1 ≤ p) (hp₂ : p ≤ t.depth) (hq₁ : 1 ≤ q)
    (hq₂ : q ≤ t.depth) (hpq : p ≠ q) (f g : Value U → Value U) :
    (do (← t.transform p f).transform q g) = (do (← t.transform q g).transform p f) := by
  obtain ⟨tp, htp, hp, hpd⟩ := exists_transform hp₁ hp₂ f
  obtain ⟨tq, htq, hq, hqd⟩ := exists_transform hq₁ hq₂ g
  obtain ⟨r, hr, hlist, -⟩ := exists_transform hq₁ (show q ≤ tp.depth by omega) g
  have hother : tq.transform p f = .ok r := by
    apply transform_eq_ok hp₁ (by omega)
    rw [hlist, hp, hq]
    exact List.modify_modify_ne f g _ (by omega)
  rw [htp, htq]
  exact hr.trans hother.symm

/-- A change goes past an added element, one position further back if the element comes before it;
where there is no room for the element, neither order finds any. -/
theorem transform_add_comm (hp₁ : 1 ≤ p) (hp₂ : p ≤ t.depth) (hq₁ : 1 ≤ q) (hq₂ : q ≤ t.depth)
    (v : Value U) (f : Value U → Value U) :
    (do (← t.transform q f).add p v)
      = (do (← t.add p v).transform (if q < p then q else q + 1) f) := by
  obtain ⟨tq, htq, hq, hqd⟩ := exists_transform hq₁ hq₂ f
  rw [htq]
  rcases Nat.lt_or_ge t.depth maxDepth with h | h
  · obtain ⟨tp, htp⟩ : ∃ tp, t.add p v = .ok tp := ⟨_, add_of_lt hp₁ hp₂ h⟩
    have hpd := depth_of_add htp
    obtain ⟨-, -, hp⟩ := add_eq_ok_iff.mp htp
    obtain ⟨r, hr, hlist, -⟩ := exists_transform (t := tp) (p := if q < p then q else q + 1)
      (by split <;> omega) (by split <;> omega) f
    have hother : tq.add p v = .ok r := by
      refine add_eq_ok_iff.mpr ⟨hp₁, by omega, ?_⟩
      rw [hlist, hp, hq]
      by_cases hqp : q < p
      · rw [if_pos hqp, insertIdx_modify_of_lt _ _ _ (by omega)]
      · rw [if_neg hqp, insertIdx_modify_of_le _ _ _ (by omega), Nat.add_sub_cancel,
          Nat.sub_add_cancel hq₁]
    rw [htp]
    exact hother.trans hr.symm
  · have hfull : t.depth = maxDepth := Nat.le_antisymm t.depth_le h
    rw [add_of_full hp₁ hp₂ hfull]
    exact add_of_full hp₁ (by omega) (by omega)

/-- A change goes past a removal elsewhere, one position further to the front if the element came
before it. -/
theorem transform_remove_comm (hp₁ : 1 ≤ p) (hp₂ : p ≤ t.depth) (hq₁ : 1 ≤ q) (hq₂ : q ≤ t.depth)
    (hpq : p ≠ q) (f : Value U → Value U) :
    (do (← t.transform q f).remove p)
      = (do (← t.remove p).transform (if q < p then q else q - 1) f) := by
  obtain ⟨tq, htq, hq, hqd⟩ := exists_transform hq₁ hq₂ f
  obtain ⟨tp, htp, hp, hpd⟩ := exists_remove hp₁ hp₂
  obtain ⟨r, hr, hlist, -⟩ := exists_transform (t := tp) (p := if q < p then q else q - 1)
    (by split <;> omega) (by split <;> omega) f
  have hother : tq.remove p = .ok r := by
    apply remove_eq_ok hp₁ (by omega)
    rw [hlist, hp, hq]
    by_cases hqp : q < p
    · rw [if_pos hqp, List.modify_eraseIdx_of_lt _ _ _ _ (by omega)]
    · rw [if_neg hqp, List.eraseIdx_modify_of_lt _ _ _ _ (by omega)]
  rw [htq, htp]
  exact hother.trans hr.symm

/-! ### The laws -/

/-- **Edits of single elements shift the positions behind them**, and nothing else.

An element that was added is at its position; what came before it has stayed, and what stood there
or behind has moved one position back.  To take it out again gives the tuple back, and so does
putting back what was taken out, except at the last position: nothing is added behind the last
element.  Of two removals either may come first.  A change applies its function once, with all its
effects, to the element at the position, and puts the outcome there; all other positions and the
depth stay.  Changes at one position are one change, at two positions they commute, and a change
commutes with an addition or a removal elsewhere, at the position to which its element moves. -/
theorem edits_shift_positions (t : Tuple U) :
    (∀ p v u, t.add p v = .ok u →
      1 ≤ p ∧ p ≤ t.depth ∧ u.depth = t.depth + 1 ∧
      u.value p = .ok v ∧
      (∀ q, 1 ≤ q → q < p → u.value q = t.value q) ∧
      (∀ q, p ≤ q → q ≤ t.depth → u.value (q + 1) = t.value q) ∧
      u.remove p = .ok t) ∧
    (∀ p, 1 ≤ p → p < t.depth → (do (← t.remove p).add p (← t.value p)) = .ok t) ∧
    (1 ≤ t.depth →
      (do (← t.remove t.depth).add t.depth (← t.value t.depth))
        = .error (if t.depth = 1 then .unsupportedOnEmpty .add
            else .invalidPosition t.depth (t.depth - 1))) ∧
    (∀ p q, 1 ≤ p → p < q → q ≤ t.depth →
      ∃ r, (do (← t.remove q).remove p) = .ok r ∧ (do (← t.remove p).remove (q - 1)) = .ok r) ∧
    ∀ p, 1 ≤ p → p ≤ t.depth →
      (∃ (w : Value U) (put : Value U → Tuple U), t.value p = .ok w ∧
        (∀ x, (put x).value p = .ok x ∧ (put x).depth = t.depth ∧
          ∀ q, q ≠ p → (put x).value q = t.value q) ∧
        (∀ f, t.transform p f = .ok (put (f w))) ∧
        ∀ (m : Type → Type) [Monad m] [LawfulMonad m] (f : Value U → m (Value U)),
          (t.transformM p f).run = (fun x => .ok (put x)) <$> f w) ∧
      (∀ f g, (do (← t.transform p f).transform p g) = t.transform p (g ∘ f)) ∧
      ∀ q, 1 ≤ q → q ≤ t.depth → ∀ f,
        (p ≠ q → ∀ g,
          (do (← t.transform p f).transform q g) = (do (← t.transform q g).transform p f)) ∧
        (∀ v, (do (← t.transform q f).add p v)
          = (do (← t.add p v).transform (if q < p then q else q + 1) f)) ∧
        (p ≠ q → (do (← t.transform q f).remove p)
          = (do (← t.remove p).transform (if q < p then q else q - 1) f)) := by
  refine ⟨?_, fun p => add_of_remove, add_of_remove_last, fun p q => remove_remove, ?_⟩
  · intro p v u h
    obtain ⟨h₁, h₂, -⟩ := add_eq_ok_iff.mp h
    exact ⟨h₁, h₂, depth_of_add h, value_of_add h, fun q => value_of_add_of_lt h,
      fun q => value_of_add_of_le h, remove_of_add h⟩
  · intro p h₁ h₂
    refine ⟨⟨t.elementAt p (inRange h₁ h₂), fun x => ⟨t.elements.replace (p - 1) x⟩,
      value_of_le h₁ h₂, ?_, ?_, ?_⟩, transform_transform h₁ h₂, ?_⟩
    · intro x
      exact ⟨value_replace h₁ h₂ x, depth_replace t _ x, fun q hqp => value_replace_of_ne h₁ hqp x⟩
    · intro f
      exact transform_of_le h₁ h₂
    · intro m _ _ f
      exact transformM_of_le h₁ h₂ f
    · intro q hq₁ hq₂ f
      exact ⟨fun hpq g => transform_transform_comm h₁ h₂ hq₁ hq₂ hpq f g,
        fun v => transform_add_comm h₁ h₂ hq₁ hq₂ v f,
        fun hpq => transform_remove_comm h₁ h₂ hq₁ hq₂ hpq f⟩

/-- The laws at three letters, with a function that counts how often it is applied; at a single
letter, where the last position is the only one; and at a full tuple, which no element goes into
before or after a change. -/
theorem edits_shift_positions_letters :
    let letter (c : Char) : Value Standard := .leaf .char c
    let t : Tuple Standard := ⟨⟨['a', 'b', 'c'].map letter, by decide⟩⟩
    let alone : Tuple Standard := single (letter 'a')
    let full : Tuple Standard := ⟨⟨List.replicate 16 (letter 'a'), by decide⟩⟩
    let wrap (v : Value Standard) : Value Standard := .dyn [v]
    let counted (v : Value Standard) : StateM Nat (Value Standard) := do
      modify (· + 1)
      pure (wrap v)
    (∃ u, t.add 2 (letter 'x') = .ok u ∧ u.value 2 = .ok (letter 'x') ∧
      u.value 1 = t.value 1 ∧ u.value 4 = t.value 3 ∧ u.remove 2 = .ok t) ∧
    (do (← t.remove 2).add 2 (← t.value 2)) = .ok t ∧
    (do (← t.remove 3).add 3 (← t.value 3)) = .error (.invalidPosition 3 2) ∧
    (do (← alone.remove 1).add 1 (← alone.value 1)) = .error (.unsupportedOnEmpty .add) ∧
    (do (← t.remove 3).remove 1) = (do (← t.remove 1).remove 2) ∧
    (∃ u, (t.transformM 2 counted).run.run 0 = (.ok u, 1) ∧ u.value 2 = .ok (wrap (letter 'b')) ∧
      u.value 3 = t.value 3) ∧
    (do (← t.transform 3 wrap).remove 2) = (do (← t.remove 2).transform 2 wrap) ∧
    (do (← full.transform 9 wrap).add 9 (letter 'x'))
      = (do (← full.add 9 (letter 'x')).transform 10 wrap) := by
  intro letter t alone full wrap counted
  obtain ⟨hadd, hback, hlast, hremove, hchange⟩ := t.edits_shift_positions
  obtain ⟨u, hu⟩ : ∃ u, t.add 2 (letter 'x') = .ok u := ⟨_, rfl⟩
  obtain ⟨-, -, -, hnew, hbefore, hbehind, hout⟩ := hadd 2 (letter 'x') u hu
  obtain ⟨r, hr, hr'⟩ := hremove 1 3 (by decide) (by decide) (by decide)
  obtain ⟨⟨w, put, hw, hput, -, heffect⟩, -, helse⟩ := hchange 2 (by decide) (by decide)
  obtain ⟨-, -, hpast⟩ := helse 3 (by decide) (by decide) wrap
  obtain rfl : letter 'b' = w := Except.ok.inj hw
  obtain ⟨hthere, -, hothers⟩ := hput (wrap (letter 'b'))
  have hcounted : (t.transformM 2 counted).run.run 0 = (.ok (put (wrap (letter 'b'))), 1) := by
    rw [heffect]
    rfl
  obtain ⟨-, -, hsingle, -⟩ := alone.edits_shift_positions
  obtain ⟨-, -, -, -, hfull⟩ := full.edits_shift_positions
  obtain ⟨-, -, hroom⟩ := hfull 9 (by decide) (by decide)
  obtain ⟨-, hnone, -⟩ := hroom 9 (by decide) (by decide) wrap
  exact ⟨⟨u, hu, hnew, hbefore 1 (by decide) (by decide), hbehind 3 (by decide) (by decide), hout⟩,
    hback 2 (by decide) (by decide), hlast (by decide), hsingle (by decide), hr.trans hr'.symm,
    ⟨_, hcounted, hthere, hothers 3 (by decide)⟩, hpast (by decide), hnone (letter 'x')⟩

end Tuple

end Polyad
