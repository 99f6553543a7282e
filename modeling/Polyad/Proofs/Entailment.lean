/-
Polyad/Proofs/Entailment.lean

Which matches follow from which: from one strategy to another, from a candidate to a larger or a
rearranged one, and from a matcher to a rearranged one.

Idea.  What the strategies decide is said by indexes (`evaluate_all_iff` and its companions).
`all` and `any` look at one index on both sides, and what is put behind a candidate leaves its
indexes as they are (`admitsAt_append`).  `set` forgets the indexes: it asks which elements there
are on either side, and how many (`evaluate_set_iff_mem`), so it survives whatever loses no element
of the candidate (`evaluate_set_of_subset`) and does not see an order at all.

A matcher must have an element for `any` to follow from `all`: without one, `all` holds of every
candidate and `any` of none.  Where a matcher is built from elements in another order, each pattern
goes with the text it comes from, so that the new matcher can be built as well
(`compile_of_accepts`).

Main statement: `Matcher.evaluate_entailments`.
-/
import Polyad.Proofs.Admission
import Polyad.Proofs.Outcome
import Mathlib.Data.List.Perm.Basic

namespace Polyad

variable {U : Universe} {ρ : Type}

/-! ### Admission by the elements of a larger candidate -/

namespace Engine

variable {engine : Engine ρ}

/-- What is put behind a candidate changes nothing at the indexes that it has. -/
theorem admitsAt_append {elements candidate larger : Store U} {rest : List (Value U)}
    (hlarger : larger.values = candidate.values ++ rest) {i j : Nat} (hj : j < candidate.depth) :
    engine.AdmitsAt elements larger i j ↔ engine.AdmitsAt elements candidate i j := by
  apply admitsAt_congr rfl
  rw [hlarger]
  exact List.getElem?_append_left hj

/-- A text that is a pattern, and every element without a text, can be an element of a matcher. -/
def Accepts (engine : Engine ρ) (v : Value U) : Prop :=
  ∀ source, v.text? = some source → ∃ pattern, engine.compile? source = some pattern

end Engine

namespace Matcher

variable {engine : Engine ρ} {elements : Store U} {strategy : Strategy} {m : Matcher U ρ}

/-! ### Building from rearranged elements -/

/-- Elements that can all be elements of a matcher are compiled, wherever they stand. -/
theorem compileFrom_of_accepts {vs : List (Value U)} (h : ∀ v ∈ vs, engine.Accepts v)
    (position : Nat) : compileFrom engine position vs = .ok (vs.map engine.pattern?) := by
  induction vs generalizing position with
  | nil => rfl
  | cons v vs ih =>
    have hrest := ih (fun w hw => h w (List.mem_cons_of_mem v hw)) (position + 1)
    have hv := h v List.mem_cons_self
    unfold compileFrom
    rw [List.map_cons]
    unfold Engine.pattern?
    rcases htext : v.text? with - | source
    · simp only [hrest]
      rfl
    · obtain ⟨pattern, hpattern⟩ := hv source htext
      simp only [hpattern, hrest]
      rw [Option.bind_some, hpattern]
      rfl

/-- Nothing else is compiled: the first text that is no pattern ends it. -/
theorem accepts_of_compileFrom {position : Nat} {vs : List (Value U)} {patterns : List (Option ρ)}
    (h : compileFrom engine position vs = .ok patterns) : ∀ v ∈ vs, engine.Accepts v := by
  induction vs generalizing position patterns with
  | nil => simp
  | cons v vs ih =>
    unfold compileFrom at h
    -- whatever the first element is, the rest is compiled from the next position on
    obtain ⟨rest, hrest⟩ : ∃ rest, compileFrom engine (position + 1) vs = .ok rest := by
      rcases hr : compileFrom engine (position + 1) vs with e | rest
      · rw [hr] at h
        rcases htext : v.text? with - | source
        · simp [htext, bind, Except.bind] at h
        · rcases hpattern : engine.compile? source with - | pattern <;>
            simp [htext, hpattern, bind, Except.bind] at h
      · exact ⟨rest, rfl⟩
    intro w hw
    rcases List.mem_cons.mp hw with rfl | hw
    · intro source hsource
      rcases hpattern : engine.compile? source with - | pattern
      · simp [hsource, hpattern] at h
      · exact ⟨pattern, rfl⟩
    · exact ih hrest w hw

theorem accepts_of_compile (hm : compile engine elements strategy = .ok m) :
    ∀ v ∈ elements.values, engine.Accepts v := by
  unfold compile at hm
  rcases hp : compileFrom engine 1 elements.values with e | patterns
  · rw [hp] at hm
    exact nomatch hm
  · exact accepts_of_compileFrom hp

/-- A matcher can be built from the elements of another one in any order, for any strategy. -/
theorem exists_compile_of_perm (hm : compile engine elements strategy = .ok m) {elements' : Store U}
    (h : elements.values.Perm elements'.values) (strategy' : Strategy) :
    ∃ m', compile engine elements' strategy' = .ok m' := by
  have haccepts : ∀ v ∈ elements'.values, engine.Accepts v := fun v hv =>
    accepts_of_compile hm v (h.mem_iff.mpr hv)
  refine ⟨⟨elements', elements'.values.map engine.pattern?, strategy'⟩, ?_⟩
  unfold compile
  rw [compileFrom_of_accepts haccepts]
  rfl

/-! ### From `all` to the others -/

/-- The first element admits the one at its index, unless there is no first element. -/
theorem evaluate_any_of_all (hm : compile engine elements strategy = .ok m)
    (helements : elements.depth ≠ 0) {candidate : Store U}
    (h : m.evaluate engine .all candidate = true) : m.evaluate engine .any candidate = true := by
  obtain ⟨hdepth, hadmits⟩ := (evaluate_all_iff hm).mp h
  have hfirst : 0 < elements.depth := Nat.pos_of_ne_zero helements
  have hboth : 0 < min elements.depth candidate.depth := by omega
  exact (evaluate_any_iff hm).mpr ⟨0, hboth, hadmits 0 hfirst⟩

/-- The element of the candidate that `set` asks for is the one at the same index. -/
theorem evaluate_set_of_all (hm : compile engine elements strategy = .ok m) {candidate : Store U}
    (h : m.evaluate engine .all candidate = true) : m.evaluate engine .set candidate = true := by
  obtain ⟨hdepth, hadmits⟩ := (evaluate_all_iff hm).mp h
  apply (evaluate_set_iff hm).mpr
  refine ⟨hdepth, fun i hi => ?_⟩
  exact ⟨i, Nat.lt_of_lt_of_le hi hdepth, hadmits i hi⟩

/-! ### `set` without indexes -/

/-- `set` asks for as many elements and, for every element of the matcher, one that it admits. -/
theorem evaluate_set_iff_mem (hm : compile engine elements strategy = .ok m)
    {candidate : Store U} :
    m.evaluate engine .set candidate = true ↔
      elements.depth ≤ candidate.depth ∧
        ∀ expected ∈ elements.values, ∃ found ∈ candidate.values,
          engine.Admits expected found := by
  rw [evaluate_set_iff hm]
  refine and_congr_right fun _ => ⟨fun h expected hmem => ?_, fun h i hi => ?_⟩
  · obtain ⟨i, he⟩ := List.mem_iff_getElem?.mp hmem
    obtain ⟨j, -, e, found, he', hf, hadmits⟩ := h i (List.getElem?_eq_some_iff.mp he).1
    obtain rfl : expected = e := Option.some.inj (he.symm.trans he')
    exact ⟨found, List.mem_of_getElem? hf, hadmits⟩
  · obtain ⟨found, hmem, hadmits⟩ := h _ (List.getElem_mem hi)
    obtain ⟨j, hf⟩ := List.mem_iff_getElem?.mp hmem
    have hj : j < candidate.depth := (List.getElem?_eq_some_iff.mp hf).1
    exact ⟨j, hj, _, found, List.getElem?_eq_getElem hi, hf, hadmits⟩

/-- `set` holds of every candidate that has the same elements and more. -/
theorem evaluate_set_of_subset (hm : compile engine elements strategy = .ok m)
    {candidate larger : Store U} (hdepth : candidate.depth ≤ larger.depth)
    (hvalues : candidate.values ⊆ larger.values)
    (h : m.evaluate engine .set candidate = true) : m.evaluate engine .set larger = true := by
  obtain ⟨hle, hadmits⟩ := (evaluate_set_iff_mem hm).mp h
  apply (evaluate_set_iff_mem hm).mpr
  refine ⟨Nat.le_trans hle hdepth, fun expected hmem => ?_⟩
  obtain ⟨found, hfound, hadmitted⟩ := hadmits expected hmem
  exact ⟨found, hvalues hfound, hadmitted⟩

/-- `set` does not see the order of a candidate. -/
theorem evaluate_set_eq_of_perm (hm : compile engine elements strategy = .ok m)
    {candidate candidate' : Store U} (h : candidate.values.Perm candidate'.values) :
    m.evaluate engine .set candidate = m.evaluate engine .set candidate' := by
  have hdepth : candidate.depth = candidate'.depth := h.length_eq
  rw [Bool.eq_iff_iff]
  constructor
  · exact evaluate_set_of_subset hm (Nat.le_of_eq hdepth) h.subset
  · exact evaluate_set_of_subset hm (Nat.le_of_eq hdepth.symm) h.symm.subset

/-- `set` does not see the order of a matcher, and neither does it see the strategy that the matcher
was built with. -/
theorem evaluate_set_eq_of_perm_elements (hm : compile engine elements strategy = .ok m)
    {elements' : Store U} {strategy' : Strategy} {m' : Matcher U ρ}
    (hm' : compile engine elements' strategy' = .ok m')
    (h : elements.values.Perm elements'.values) (candidate : Store U) :
    m'.evaluate engine .set candidate = m.evaluate engine .set candidate := by
  have hdepth : elements.depth = elements'.depth := h.length_eq
  rw [Bool.eq_iff_iff, evaluate_set_iff_mem hm, evaluate_set_iff_mem hm', hdepth]
  apply and_congr_right
  intro _
  exact forall_congr' fun expected => imp_congr_left h.mem_iff.symm

/-! ### Larger candidates -/

/-- Whatever holds of a candidate holds of it with more elements behind. -/
theorem evaluate_of_append (hm : compile engine elements strategy = .ok m)
    {candidate larger : Store U} {rest : List (Value U)}
    (hlarger : larger.values = candidate.values ++ rest) {s : Strategy}
    (h : m.evaluate engine s candidate = true) : m.evaluate engine s larger = true := by
  have hdepth : candidate.depth ≤ larger.depth := by
    show candidate.values.length ≤ larger.values.length
    rw [hlarger, List.length_append]
    omega
  cases s with
  | all =>
    obtain ⟨hle, hadmits⟩ := (evaluate_all_iff hm).mp h
    apply (evaluate_all_iff hm).mpr
    refine ⟨Nat.le_trans hle hdepth, fun i hi => ?_⟩
    exact (Engine.admitsAt_append hlarger (Nat.lt_of_lt_of_le hi hle)).mpr (hadmits i hi)
  | any =>
    obtain ⟨i, hi, hadmits⟩ := (evaluate_any_iff hm).mp h
    have hboth : i < min elements.depth larger.depth := by omega
    have hcandidate : i < candidate.depth := by omega
    exact (evaluate_any_iff hm).mpr
      ⟨i, hboth, (Engine.admitsAt_append hlarger hcandidate).mpr hadmits⟩
  | set =>
    refine evaluate_set_of_subset hm hdepth ?_ h
    rw [hlarger]
    exact List.subset_append_left _ _

/-- `set` holds of a candidate with more elements in front. -/
theorem evaluate_set_of_append_left (hm : compile engine elements strategy = .ok m)
    {candidate larger : Store U} {front : List (Value U)}
    (hlarger : larger.values = front ++ candidate.values)
    (h : m.evaluate engine .set candidate = true) : m.evaluate engine .set larger = true := by
  refine evaluate_set_of_subset hm ?_ ?_ h
  · show candidate.values.length ≤ larger.values.length
    rw [hlarger, List.length_append]
    omega
  · rw [hlarger]
    exact List.subset_append_right _ _

/-- `set` holds of a candidate with one element more, wherever it is put. -/
theorem evaluate_set_of_insert (hm : compile engine elements strategy = .ok m)
    {candidate larger : Store U} {index : Nat} {v : Value U}
    (hlarger : larger.values = candidate.values.take index ++ v :: candidate.values.drop index)
    (h : m.evaluate engine .set candidate = true) : m.evaluate engine .set larger = true := by
  -- up to the order it is put in front
  have hperm : larger.values.Perm (v :: candidate.values) := by
    rw [hlarger]
    refine List.perm_middle.trans ?_
    rw [List.take_append_drop]
  refine evaluate_set_of_subset hm ?_ ?_ h
  · show candidate.values.length ≤ larger.values.length
    rw [hperm.length_eq, List.length_cons]
    omega
  · intro w hw
    exact hperm.mem_iff.mpr (List.mem_cons_of_mem v hw)

end Matcher

/-! ### Main theorem -/

namespace Matcher

variable {engine : Engine ρ} {elements : Store U} {strategy : Strategy} {m : Matcher U ρ}

/-- **Which matches follow from which.**  For a matcher that was built from at least one element:

* what matches under `all` matches under `any` and under `set`;
* what matches under a strategy matches under it with any elements joined behind; under `set` also
  with any elements joined in front, and with a new element at any position;
* `set` gives the same answer on every order of a candidate, rotations in particular, and for the
  matcher that is built from the elements in any other order, which can be built.

The operations may be those on tuples of unknown types or those on tuples of known types. -/
theorem evaluate_entailments (hm : compile engine elements strategy = .ok m)
    (helements : elements.depth ≠ 0) :
    (∀ c : Store U, m.evaluate engine .all c = true →
      m.evaluate engine .any c = true ∧ m.evaluate engine .set c = true) ∧
    (∀ c x : Tuple U, c.depth + x.depth ≤ maxDepth →
      ∃ j j', c.join x = .ok j ∧ x.join c = .ok j' ∧
        (∀ s, m.evaluate engine s c.elements = true → m.evaluate engine s j.elements = true) ∧
        (m.evaluate engine .set c.elements = true → m.evaluate engine .set j'.elements = true)) ∧
    (∀ (c : Tuple U) (p : Nat) (v : Value U), 1 ≤ p → p ≤ c.depth → c.depth < maxDepth →
      ∃ u, c.add p v = .ok u ∧
        (m.evaluate engine .set c.elements = true → m.evaluate engine .set u.elements = true)) ∧
    (∀ c c' : Store U, c.values.Perm c'.values →
      m.evaluate engine .set c = m.evaluate engine .set c') ∧
    (∀ (c : Tuple U) (n : Nat),
      m.evaluate engine .set (c.rotateLeft n).elements = m.evaluate engine .set c.elements ∧
      m.evaluate engine .set (c.rotateRight n).elements = m.evaluate engine .set c.elements) ∧
    (∀ (elements' : Store U) (strategy' : Strategy), elements.values.Perm elements'.values →
      ∃ m', compile engine elements' strategy' = .ok m' ∧
        ∀ c, m'.evaluate engine .set c = m.evaluate engine .set c) ∧
    (∀ (ts us : List (Ty U)) (t : Typed U ts) (u : Typed U us) (h : (ts ++ us).length ≤ maxDepth),
      (∀ s, m.evaluate engine s t.elements = true →
        m.evaluate engine s (t.join u h).elements = true) ∧
      (m.evaluate engine .set u.elements = true →
        m.evaluate engine .set (t.join u h).elements = true)) ∧
    (∀ (ts us : List (Ty U)) (t : Typed U ts) (i : Nat) (v : Value U)
        (hat : (TypeList.elementAt? i ts).isSome) (h : TypeList.insertAt? v.ty i ts = some us)
        (hdepth : us.length ≤ maxDepth),
      m.evaluate engine .set t.elements = true →
        m.evaluate engine .set (t.add i v hat h hdepth).elements = true) ∧
    ∀ (ts : List (Ty U)) (t : Typed U ts) (n : Nat),
      m.evaluate engine .set (t.rotateLeft n).elements = m.evaluate engine .set t.elements ∧
      m.evaluate engine .set (t.rotateRight n).elements = m.evaluate engine .set t.elements := by
  have hrotate (c : Store U) (n : Nat) :
      m.evaluate engine .set (c.rotateLeft n) = m.evaluate engine .set c ∧
      m.evaluate engine .set (c.rotateRight n) = m.evaluate engine .set c :=
    ⟨evaluate_set_eq_of_perm hm (c.perm_rotateLeft n),
      evaluate_set_eq_of_perm hm (c.perm_rotateRight n)⟩
  refine ⟨fun c h => ⟨evaluate_any_of_all hm helements h, evaluate_set_of_all hm h⟩,
    fun c x h => ?_, fun c p v h₁ h₂ h => ?_, fun c c' => evaluate_set_eq_of_perm hm,
    fun c => hrotate c.elements, fun elements' strategy' h => ?_, fun ts us t u h => ⟨?_, ?_⟩, ?_,
    fun ts t => hrotate t.elements⟩
  · have h' : x.depth + c.depth ≤ maxDepth := by omega
    refine ⟨_, _, Tuple.join_of_le h, Tuple.join_of_le h', fun s => ?_, ?_⟩
    · exact evaluate_of_append hm rfl
    · exact evaluate_set_of_append_left hm rfl
  · exact ⟨_, Tuple.add_of_lt h₁ h₂ h, evaluate_set_of_insert hm rfl⟩
  · obtain ⟨m', hm'⟩ := exists_compile_of_perm hm h strategy'
    exact ⟨m', hm', evaluate_set_eq_of_perm_elements hm hm' h⟩
  · exact fun s => evaluate_of_append hm rfl
  · exact evaluate_set_of_append_left hm rfl
  · exact fun ts us t i v _ _ _ => evaluate_set_of_insert hm rfl

/-- A candidate that fits a pattern and a letter index by index: what follows for it with a letter
more on either side or in between, for a rotation by the greatest word, and for the matcher turned
round. -/
theorem evaluate_entailments_letters :
    let engine : Engine String :=
      ⟨some, fun p s => s.toList.tails.any p.toList.isPrefixOf, fun p => .atom p⟩
    let pattern : Value Standard := .leaf .string "b"
    let text : Value Standard := .leaf .literal "abc"
    let letter : Value Standard := .leaf .char 'x'
    let elements : Store Standard := ⟨[pattern, letter], by decide⟩
    let turned : Store Standard := ⟨[letter, pattern], by decide⟩
    let c : Tuple Standard := ⟨⟨[text, letter], by decide⟩⟩
    let x : Tuple Standard := ⟨⟨[.leaf .char 'y'], by decide⟩⟩
    ∃ m m' j j' u,
      (compile engine elements .any = .ok m ∧ elements.depth ≠ 0) ∧
      (c.depth + x.depth ≤ maxDepth ∧ c.join x = .ok j ∧ x.join c = .ok j') ∧
      (2 ≤ c.depth ∧ c.depth < maxDepth ∧ c.add 2 letter = .ok u) ∧
      (elements.values.Perm turned.values ∧ compile engine turned .all = .ok m') ∧
      m.evaluate engine .all c.elements = true ∧ m.evaluate engine .any c.elements = true ∧
      m.evaluate engine .all j.elements = true ∧ m.evaluate engine .set j'.elements = true ∧
      m.evaluate engine .set u.elements = true ∧
      m.evaluate engine .set (c.rotateLeft (UInt64.size - 1)).elements = true ∧
      m'.evaluate engine .set c.elements = true := by
  intro engine pattern text letter elements turned c x
  have hm : compile engine elements .any = .ok ⟨elements, [some "b", none], .any⟩ := by rfl
  obtain ⟨hstrategies, hjoin, hadd, -, hrotate, hturned, -⟩ :=
    evaluate_entailments hm (by decide)
  have hall : evaluate engine ⟨elements, [some "b", none], .any⟩ .all c.elements = true := by rfl
  obtain ⟨hany, hset⟩ := hstrategies c.elements hall
  obtain ⟨j, j', hj, hj', hbehind, hfront⟩ := hjoin c x (by decide)
  obtain ⟨u, hu, hbetween⟩ := hadd c 2 letter (by decide) (by decide) (by decide)
  have hperm : elements.values.Perm turned.values := .swap _ _ _
  obtain ⟨m', hm', hsame⟩ := hturned turned .all hperm
  refine ⟨_, m', j, j', u, ⟨hm, by decide⟩, ⟨by decide, hj, hj'⟩, ⟨by decide, by decide, hu⟩,
    ⟨hperm, hm'⟩, hall, hany, hbehind .all hall, hfront hset, hbetween hset, ?_, ?_⟩
  · exact (hrotate c (UInt64.size - 1)).1.trans hset
  · exact (hsame c.elements).trans hset

end Matcher

end Polyad
