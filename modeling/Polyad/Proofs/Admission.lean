/-
Polyad/Proofs/Admission.lean

What the strategies decide, said by indexes: which elements of a matcher must admit which elements
of a candidate.

Idea.  The program walks elements, patterns and candidate side by side and stops at the end of the
shortest.  In a matcher that was built the patterns are those of the elements, one for each
(`Matcher.eq_of_compile`), so that two of the three walks are one walk over the elements.  What is
left is a walk over two lists, and its pairs are those at the indexes that both lists have
(`mem_zip_iff`); where the candidate is as deep as the matcher, these are all indexes of the
matcher.

Main statement: `Matcher.evaluate_iff_admits`.
-/
import Polyad.Matcher
import Polyad.Proofs.StandardLaws
import Mathlib.Data.List.Basic

namespace Polyad

variable {U : Universe} {ρ : Type}

namespace Engine

/-- A matcher element admits a candidate element: the pattern of its text has a match in the text
of the other, or the other has no text and is equal to it. -/
def Admits (engine : Engine ρ) (expected found : Value U) : Prop :=
  (∃ source pattern text, expected.text? = some source ∧ engine.compile? source = some pattern ∧
    found.text? = some text ∧ engine.isMatch pattern text = true) ∨
  (found.text? = none ∧ found.beq expected = true)

/-- The element of a matcher at index `i` admits the element of a candidate at index `j`. -/
def AdmitsAt (engine : Engine ρ) (elements candidate : Store U) (i j : Nat) : Prop :=
  ∃ expected found, elements.values[i]? = some expected ∧ candidate.values[j]? = some found ∧
    engine.Admits expected found

/-- The pattern of an element, if it has a text and the text is a pattern. -/
def pattern? (engine : Engine ρ) (v : Value U) : Option ρ :=
  v.text?.bind engine.compile?

variable {engine : Engine ρ}

/-! ### Admission of one element by another -/

theorem admits_iff {expected found : Value U} :
    Strategy.admits engine.isMatch (engine.pattern? expected) expected found = true ↔
      engine.Admits expected found := by
  unfold Strategy.admits Admits pattern?
  rcases found.text? with - | text
  · simp
  · rcases expected.text? with - | source
    · simp
    · simp [Option.any_eq_true_iff_get, Option.eq_some_iff_get_eq]

/-- An element with a text is never admitted by an element without one. -/
theorem not_admits_of_text {expected found : Value U} (he : expected.text? = none)
    (hf : found.text? ≠ none) : ¬ engine.Admits expected found := by
  rintro (⟨source, -, -, hsource, -⟩ | ⟨hnone, -⟩)
  · exact nomatch he.symm.trans hsource
  · exact hf hnone

/-- An element without a text is never admitted by an element with one, as the two are not equal. -/
theorem not_admits_of_no_text (hU : U.SameText) {expected found : Value U}
    (he : expected.text? ≠ none) (hf : found.text? = none) : ¬ engine.Admits expected found := by
  rintro (⟨-, -, text, -, -, htext, -⟩ | ⟨-, hequal⟩)
  · exact nomatch hf.symm.trans htext
  · exact he ((Value.text?_eq_of_beq hU hequal).symm.trans hf)

theorem admitsAt_iff {elements candidate : Store U} {i j : Nat} {expected found : Value U}
    (he : elements.values[i]? = some expected) (hf : candidate.values[j]? = some found) :
    engine.AdmitsAt elements candidate i j ↔ engine.Admits expected found := by
  unfold AdmitsAt
  rw [he, hf]
  exact ⟨fun ⟨_, _, he, hf, h⟩ => Option.some.inj he ▸ Option.some.inj hf ▸ h,
    fun h => ⟨expected, found, rfl, rfl, h⟩⟩

/-- What the program asks of two elements, said by their indexes. -/
theorem admits_iff_admitsAt {elements candidate : Store U} {i j : Nat} {expected found : Value U}
    (he : elements.values[i]? = some expected) (hf : candidate.values[j]? = some found) :
    Strategy.admits engine.isMatch (engine.pattern? expected) expected found = true ↔
      engine.AdmitsAt elements candidate i j :=
  admits_iff.trans (admitsAt_iff he hf).symm

/-- Admission looks at one element on each side. -/
theorem admitsAt_congr {elements elements' candidate candidate' : Store U} {i j : Nat}
    (he : elements.values[i]? = elements'.values[i]?)
    (hf : candidate.values[j]? = candidate'.values[j]?) :
    engine.AdmitsAt elements candidate i j ↔ engine.AdmitsAt elements' candidate' i j := by
  unfold AdmitsAt
  rw [he, hf]

end Engine

/-! ### The patterns of a matcher -/

theorem Matcher.compileFrom_eq {engine : Engine ρ} {position : Nat} {vs : List (Value U)}
    {patterns : List (Option ρ)} (h : compileFrom engine position vs = .ok patterns) :
    patterns = vs.map engine.pattern? := by
  induction vs generalizing position patterns with
  | nil => exact (Except.ok.inj h).symm
  | cons v vs ih =>
    -- an element that is no error is followed by the rest, and an error of the rest is passed on
    have hcons {p : Option ρ}
        (hp : (do .ok (p :: (← compileFrom engine (position + 1) vs))) = Except.ok patterns) :
        patterns = p :: vs.map engine.pattern? := by
      rcases hrest : compileFrom engine (position + 1) vs with e | rest <;> rw [hrest] at hp
      · exact nomatch hp
      · rw [← ih hrest]
        exact (Except.ok.inj hp).symm
    unfold compileFrom at h
    rw [List.map_cons]
    unfold Engine.pattern?
    rcases htext : v.text? with - | text <;> rw [htext] at h
    · exact hcons h
    · dsimp only at h
      rcases hpattern : engine.compile? text with - | pattern <;> rw [hpattern] at h
      · exact nomatch h
      · rw [Option.bind_some, hpattern]
        exact hcons h

/-- **A matcher that was built** has the elements and the strategy it was built from, and for each
element its pattern. -/
theorem Matcher.eq_of_compile {engine : Engine ρ} {elements : Store U} {strategy : Strategy}
    {m : Matcher U ρ} (h : compile engine elements strategy = .ok m) :
    m = ⟨elements, elements.values.map engine.pattern?, strategy⟩ := by
  unfold compile at h
  rcases hp : compileFrom engine 1 elements.values with e | patterns
  · rw [hp] at h
    exact nomatch h
  · rw [hp] at h
    obtain rfl := Except.ok.inj h
    rw [compileFrom_eq hp]

/-! ### The walks -/

theorem mem_zip_iff {α β : Type} {xs : List α} {ys : List β} {x : α} {y : β} :
    (x, y) ∈ xs.zip ys ↔ ∃ i : Nat, xs[i]? = some x ∧ ys[i]? = some y := by
  rw [List.mem_iff_getElem?]
  exact exists_congr fun i => List.getElem?_zip_eq_some

/-- Walking over elements, their patterns and a candidate is walking over elements and candidate. -/
theorem zip_patterns_eq {α β γ : Type} (g : α → β) (xs : List α) (ys : List γ) :
    (xs.zip (xs.map g)).zip ys = (xs.zip ys).map fun (x, y) => ((x, g x), y) := by
  rw [← List.map_prod_left_eq_zip, List.zip_map_left]
  rfl

namespace Matcher

variable {engine : Engine ρ} {elements : Store U} {strategy : Strategy} {m : Matcher U ρ}

/-- Every element admits the one at its index, so the candidate has to have one there. -/
theorem evaluate_all_iff (hm : compile engine elements strategy = .ok m) {candidate : Store U} :
    m.evaluate engine .all candidate = true ↔
      elements.depth ≤ candidate.depth ∧
        ∀ i < elements.depth, engine.AdmitsAt elements candidate i i := by
  obtain rfl := eq_of_compile hm
  unfold evaluate Strategy.evaluate
  rw [Bool.and_eq_true, decide_eq_true_iff, zip_patterns_eq, List.all_map, List.all_eq_true]
  refine and_congr_right fun hdepth => ⟨fun h i hi => ?_, fun h => ?_⟩
  · -- the candidate is as deep, so every index of the matcher is that of a pair
    have he := List.getElem?_eq_getElem hi
    have hf := List.getElem?_eq_getElem (Nat.lt_of_lt_of_le hi hdepth)
    exact (Engine.admits_iff_admitsAt he hf).mp (h _ (mem_zip_iff.mpr ⟨i, he, hf⟩))
  · rintro ⟨expected, found⟩ hmem
    obtain ⟨i, he, hf⟩ := mem_zip_iff.mp hmem
    have hi : i < elements.depth := (List.getElem?_eq_some_iff.mp he).1
    exact (Engine.admits_iff_admitsAt he hf).mpr (h i hi)

/-- Some element admits the one at its index; there are no others than those that both have. -/
theorem evaluate_any_iff (hm : compile engine elements strategy = .ok m) {candidate : Store U} :
    m.evaluate engine .any candidate = true ↔
      ∃ i < min elements.depth candidate.depth, engine.AdmitsAt elements candidate i i := by
  obtain rfl := eq_of_compile hm
  unfold evaluate Strategy.evaluate
  rw [zip_patterns_eq, List.any_map, List.any_eq_true]
  constructor
  · rintro ⟨⟨expected, found⟩, hmem, h⟩
    obtain ⟨i, he, hf⟩ := mem_zip_iff.mp hmem
    have hi : i < min elements.depth candidate.depth :=
      Nat.lt_min.mpr ⟨(List.getElem?_eq_some_iff.mp he).1, (List.getElem?_eq_some_iff.mp hf).1⟩
    exact ⟨i, hi, (Engine.admits_iff_admitsAt he hf).mp h⟩
  · rintro ⟨i, -, expected, found, he, hf, h⟩
    exact ⟨(expected, found), mem_zip_iff.mpr ⟨i, he, hf⟩, Engine.admits_iff.mpr h⟩

/-- Every element admits some element of a candidate that is as deep. -/
theorem evaluate_set_iff (hm : compile engine elements strategy = .ok m) {candidate : Store U} :
    m.evaluate engine .set candidate = true ↔
      elements.depth ≤ candidate.depth ∧
        ∀ i < elements.depth, ∃ j < candidate.depth, engine.AdmitsAt elements candidate i j := by
  obtain rfl := eq_of_compile hm
  unfold evaluate Strategy.evaluate
  rw [Bool.and_eq_true, decide_eq_true_iff, ← List.map_prod_left_eq_zip, List.all_map,
    List.all_eq_true]
  -- here the walk over the candidate is inside, and neither walk is cut short by the other
  refine and_congr_right fun hdepth => ⟨fun h i hi => ?_, fun h expected hmem => ?_⟩
  · obtain ⟨found, hmem, hadmits⟩ := List.any_eq_true.mp (h _ (List.getElem_mem hi))
    obtain ⟨j, hf⟩ := List.mem_iff_getElem?.mp hmem
    have hj : j < candidate.depth := (List.getElem?_eq_some_iff.mp hf).1
    exact ⟨j, hj, (Engine.admits_iff_admitsAt (List.getElem?_eq_getElem hi) hf).mp hadmits⟩
  · obtain ⟨i, he⟩ := List.mem_iff_getElem?.mp hmem
    obtain ⟨j, -, hadmits⟩ := h i (List.getElem?_eq_some_iff.mp he).1
    obtain ⟨-, found, -, hf, -⟩ := id hadmits
    exact List.any_eq_true.mpr ⟨found, List.mem_of_getElem? hf,
      (Engine.admits_iff_admitsAt he hf).mpr hadmits⟩

/-! ### Elements that are not looked at -/

theorem getElem?_eq_of_take_eq {α : Type} {xs ys : List α} {n i : Nat} (h : xs.take n = ys.take n)
    (hi : i < n) : xs[i]? = ys[i]? := by
  rw [← List.getElem?_take_of_lt hi, h, List.getElem?_take_of_lt hi]

theorem min_depth_eq_of_take_eq {s t : Store U} {n : Nat} (h : s.values.take n = t.values.take n) :
    min n s.depth = min n t.depth := by
  simpa [Store.depth] using congrArg List.length h

/-- Elements behind the depth of the candidate do not matter to `any`. -/
theorem evaluate_any_eq_of_take {elements' : Store U} {strategy' : Strategy} {m' : Matcher U ρ}
    {candidate : Store U} (hm : compile engine elements strategy = .ok m)
    (hm' : compile engine elements' strategy' = .ok m')
    (h : elements.values.take candidate.depth = elements'.values.take candidate.depth) :
    m.evaluate engine .any candidate = m'.evaluate engine .any candidate := by
  rw [Bool.eq_iff_iff, evaluate_any_iff hm, evaluate_any_iff hm', Nat.min_comm,
    min_depth_eq_of_take_eq h, Nat.min_comm]
  refine exists_congr fun i => and_congr_right fun hi => ?_
  exact Engine.admitsAt_congr (getElem?_eq_of_take_eq h (Nat.lt_min.mp hi).2) rfl

/-- Elements of the candidate behind the depth of the matcher do not matter to `any`. -/
theorem evaluate_any_eq_of_take_candidate {candidate candidate' : Store U}
    (hm : compile engine elements strategy = .ok m)
    (h : candidate.values.take elements.depth = candidate'.values.take elements.depth) :
    m.evaluate engine .any candidate = m.evaluate engine .any candidate' := by
  rw [Bool.eq_iff_iff, evaluate_any_iff hm, evaluate_any_iff hm, min_depth_eq_of_take_eq h]
  refine exists_congr fun i => and_congr_right fun hi => ?_
  exact Engine.admitsAt_congr rfl (getElem?_eq_of_take_eq h (Nat.lt_min.mp hi).1)

/-- Elements of the candidate behind the depth of the matcher do not matter to `all`. -/
theorem evaluate_all_eq_of_take_candidate {candidate candidate' : Store U}
    (hm : compile engine elements strategy = .ok m)
    (h : candidate.values.take elements.depth = candidate'.values.take elements.depth) :
    m.evaluate engine .all candidate = m.evaluate engine .all candidate' := by
  have hdepth : elements.depth ≤ candidate.depth ↔ elements.depth ≤ candidate'.depth := by
    have := min_depth_eq_of_take_eq h
    omega
  rw [Bool.eq_iff_iff, evaluate_all_iff hm, evaluate_all_iff hm]
  refine and_congr hdepth (forall₂_congr fun i hi => ?_)
  exact Engine.admitsAt_congr rfl (getElem?_eq_of_take_eq h hi)

/-- Nothing matches the empty candidate. -/
theorem evaluate_eq_false_of_empty {candidate : Store U}
    (hm : compile engine elements strategy = .ok m) (helements : elements.depth ≠ 0)
    (hcandidate : candidate.depth = 0) (s : Strategy) : m.evaluate engine s candidate = false := by
  rw [Bool.eq_false_iff]
  intro h
  cases s with
  | all =>
    obtain ⟨hdepth, -⟩ := (evaluate_all_iff hm).mp h
    omega
  | any =>
    obtain ⟨i, hi, -⟩ := (evaluate_any_iff hm).mp h
    omega
  | set =>
    obtain ⟨hdepth, -⟩ := (evaluate_set_iff hm).mp h
    omega

/-! ### The specification -/

/-- **The strategies decide what they say.**  A matcher that was built from elements has these
elements and, under `all`, a candidate matches if it is as deep and every element admits the one
at its index; under `any`, if an element admits the one at its index, among the indexes that both
have; under `set`, if it is as deep and every element admits some element of it.

A text is never admitted by an element without one, nor the other way round.  Elements behind the
depth of the candidate do not matter to `any`, and elements of the candidate behind the depth of
the matcher matter neither to `any` nor to `all`.  Nothing matches the empty candidate. -/
theorem evaluate_iff_admits (hm : compile engine elements strategy = .ok m) (candidate : Store U) :
    m.elements = elements ∧
    (m.evaluate engine .all candidate = true ↔
      elements.depth ≤ candidate.depth ∧
        ∀ i < elements.depth, engine.AdmitsAt elements candidate i i) ∧
    (m.evaluate engine .any candidate = true ↔
      ∃ i < min elements.depth candidate.depth, engine.AdmitsAt elements candidate i i) ∧
    (m.evaluate engine .set candidate = true ↔
      elements.depth ≤ candidate.depth ∧
        ∀ i < elements.depth, ∃ j < candidate.depth, engine.AdmitsAt elements candidate i j) ∧
    (∀ expected found : Value U, expected.text? = none → found.text? ≠ none →
      ¬ engine.Admits expected found) ∧
    (U.SameText → ∀ expected found : Value U, expected.text? ≠ none → found.text? = none →
      ¬ engine.Admits expected found) ∧
    (∀ (elements' : Store U) (strategy' : Strategy) (m' : Matcher U ρ),
      compile engine elements' strategy' = .ok m' →
      elements.values.take candidate.depth = elements'.values.take candidate.depth →
      m.evaluate engine .any candidate = m'.evaluate engine .any candidate) ∧
    (∀ candidate' : Store U,
      candidate.values.take elements.depth = candidate'.values.take elements.depth →
      m.evaluate engine .all candidate = m.evaluate engine .all candidate' ∧
        m.evaluate engine .any candidate = m.evaluate engine .any candidate') ∧
    (elements.depth ≠ 0 → candidate.depth = 0 → ∀ s, m.evaluate engine s candidate = false) := by
  have helements : m.elements = elements := congrArg Matcher.elements (eq_of_compile hm)
  refine ⟨helements, evaluate_all_iff hm, evaluate_any_iff hm, evaluate_set_iff hm,
    fun expected found => Engine.not_admits_of_text,
    fun hU expected found => Engine.not_admits_of_no_text hU,
    fun elements' strategy' m' hm' h => evaluate_any_eq_of_take hm hm' h,
    fun candidate' h => ⟨?_, ?_⟩, evaluate_eq_false_of_empty hm⟩
  · exact evaluate_all_eq_of_take_candidate hm h
  · exact evaluate_any_eq_of_take_candidate hm h

/-- The specification where patterns are letters to be found in a text: one order of the candidate
matches index by index, the other one element by element only. -/
theorem evaluate_iff_admits_letters :
    let engine : Engine String :=
      ⟨some, fun p s => s.toList.tails.any p.toList.isPrefixOf, fun p => .atom p⟩
    let pattern : Value Standard := .leaf .string "b"
    let text : Value Standard := .leaf .literal "abc"
    let letter : Value Standard := .leaf .char 'x'
    let elements : Store Standard := ⟨[pattern, letter], by decide⟩
    let candidate : Store Standard := ⟨[text, letter, .leaf .boxed "b"], by decide⟩
    let turned : Store Standard := ⟨[letter, text], by decide⟩
    ∃ m, compile engine elements .any = .ok m ∧
      m.evaluate engine .all candidate = true ∧
      m.evaluate engine .set turned = true ∧
      m.evaluate engine .any turned = false ∧
      m.evaluate engine .any .empty = false := by
  intro engine pattern text letter elements candidate turned
  have hm : compile engine elements .any = .ok ⟨elements, [some "b", none], .any⟩ := by rfl
  have htext : engine.Admits pattern text := .inl ⟨"b", "b", "abc", rfl, rfl, rfl, by decide⟩
  have hletter : engine.Admits letter letter := .inr ⟨rfl, by rfl⟩
  obtain ⟨-, hall, -⟩ := evaluate_iff_admits hm candidate
  obtain ⟨-, -, hany, hset, htold, htold', -⟩ := evaluate_iff_admits hm turned
  obtain ⟨-, -, -, -, -, -, -, -, hempty⟩ := evaluate_iff_admits hm .empty
  have hfirst : ¬ engine.Admits pattern letter :=
    htold' Standard.sameText pattern letter (Option.some_ne_none "b") rfl
  have hsecond : ¬ engine.Admits letter text :=
    htold letter text rfl (Option.some_ne_none "abc")
  refine ⟨_, hm, hall.mpr ⟨by decide, fun i hi => ?_⟩, hset.mpr ⟨by decide, fun i hi => ?_⟩,
    Bool.eq_false_iff.mpr fun h => ?_, hempty (by decide) rfl .any⟩
  · match i, hi with
    | 0, _ => exact ⟨_, _, rfl, rfl, htext⟩
    | 1, _ => exact ⟨_, _, rfl, rfl, hletter⟩
  · match i, hi with
    | 0, _ => exact ⟨1, by decide, _, _, rfl, rfl, htext⟩
    | 1, _ => exact ⟨0, by decide, _, _, rfl, rfl, hletter⟩
  · obtain ⟨i, hi, hadmits⟩ := hany.mp h
    match i, hi with
    | 0, _ => exact hfirst ((Engine.admitsAt_iff rfl rfl).mp hadmits)
    | 1, _ => exact hsecond ((Engine.admitsAt_iff rfl rfl).mp hadmits)

end Matcher

end Polyad
