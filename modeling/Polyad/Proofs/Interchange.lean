/-
Polyad/Proofs/Interchange.lean

What a match depends on: of a text the text alone, and of any other element what it is equal to.

Idea.  Equal values and texts that read the same are interchangeable, though a string and a
literal are never equal.  Admission asks first for the texts, which interchangeable values share,
and then for equality between elements without texts; there interchangeable values are equal, and
equality does not tell equal values apart (`admits_congr`).  What the strategies decide is a
matter of which elements admit which (`evaluate_all_iff` and its companions), so nothing else is
left to differ.

Elements that stay the same need not be equal to themselves, since there are NaNs; hence elements
are compared by "the same or interchangeable" (`Store.Alike`).

Main statement: `Matcher.evaluate_eq_of_interchangeable`.
-/
import Polyad.Proofs.Admission

namespace Polyad

variable {U : Universe} {ρ : Type}

/-- Two values are interchangeable: they are equal, or both are texts, of whatever kinds, that
read the same. -/
def Value.Interchangeable (v w : Value U) : Prop :=
  v.beq w = true ∨ ∃ s, v.text? = some s ∧ w.text? = some s

/-- Two stores are alike: as deep as each other, with the same or interchangeable values at every
index. -/
def Store.Alike (s t : Store U) : Prop :=
  s.depth = t.depth ∧
    ∀ (i : Nat) (v w : Value U), s.values[i]? = some v → t.values[i]? = some w →
      v = w ∨ v.Interchangeable w

/-! ### Interchangeable values -/

namespace Value

theorem text?_eq_of_alike (htext : U.SameText) {v w : Value U} (h : v = w ∨ v.Interchangeable w) :
    v.text? = w.text? := by
  rcases h with rfl | hequal | ⟨s, hv, hw⟩
  · rfl
  · exact text?_eq_of_beq htext hequal
  · exact hv.trans hw.symm

/-- Interchangeable values without a text are equal. -/
theorem eq_or_beq_of_alike {v w : Value U} (hv : v.text? = none) (h : v = w ∨ v.Interchangeable w) :
    v = w ∨ v.beq w = true := by
  rcases h with heq | hequal | ⟨s, hs, -⟩
  · exact .inl heq
  · exact .inr hequal
  · exact nomatch hv.symm.trans hs

theorem beq_left_of_alike (hequal : U.LawfulEq) {v w : Value U} (h : v = w ∨ v.beq w = true)
    (u : Value U) : v.beq u = w.beq u := by
  rcases h with rfl | h
  · rfl
  · exact Comparison.EquivAt.congr_left (equivAt hequal) h u

theorem beq_right_of_alike (hequal : U.LawfulEq) {v w : Value U} (h : v = w ∨ v.beq w = true)
    (u : Value U) : u.beq v = u.beq w := by
  rcases h with rfl | h
  · rfl
  · exact Comparison.EquivAt.congr_right (equivAt hequal) h u

end Value

/-! ### Stores that are alike -/

namespace Store

theorem Alike.rel {s t : Store U} (h : s.Alike t) (i : Nat) :
    Option.Rel (fun v w => v = w ∨ v.Interchangeable w) s.values[i]? t.values[i]? := by
  obtain ⟨hdepth, hvalues⟩ := h
  -- as they are equally deep, both have a value at the index or neither
  rcases hs : s.values[i]? with - | v
  · rw [List.getElem?_eq_none_iff] at hs
    rw [List.getElem?_eq_none (Nat.le_trans (Nat.le_of_eq hdepth.symm) hs)]
    exact .none
  · have hi : i < t.values.length := by
      rw [← show s.values.length = t.values.length from hdepth]
      exact (List.getElem?_eq_some_iff.mp hs).1
    rw [List.getElem?_eq_getElem hi]
    exact .some (hvalues i v _ hs (List.getElem?_eq_getElem hi))

theorem Alike.refl (s : Store U) : s.Alike s :=
  ⟨rfl, fun _ _ _ hv hw => .inl (Option.some.inj (hv.symm.trans hw))⟩

theorem alike_of_beq {s t : Store U} (h : s.beq t = true) : s.Alike t := by
  refine ⟨Value.length_eq_of_beqAll h, fun i v w hv hw => ?_⟩
  have hrel := Value.getElem?_rel_of_beqAll h i
  rw [hv, hw] at hrel
  obtain ⟨hvw⟩ := hrel
  exact .inr (.inl hvw)

/-- One value may be replaced by an interchangeable one. -/
theorem alike_replace {s : Store U} {i : Nat} {v w : Value U} (hv : s.values[i]? = some v)
    (hvw : v.Interchangeable w) : s.Alike (s.replace i w) := by
  unfold Alike depth
  rw [values_replace, List.length_set]
  refine ⟨rfl, fun j x y hx hy => ?_⟩
  by_cases hij : i = j
  · subst hij
    rw [List.getElem?_set_self (List.getElem?_eq_some_iff.mp hv).1] at hy
    obtain rfl := Option.some.inj (hv.symm.trans hx)
    obtain rfl := Option.some.inj hy
    exact .inr hvw
  · rw [List.getElem?_set_ne hij] at hy
    exact .inl (Option.some.inj (hx.symm.trans hy))

end Store

/-! ### Admission -/

namespace Engine

variable {engine : Engine ρ}

/-- Interchangeable elements admit the same, and are admitted by the same. -/
theorem admits_congr (hequal : U.LawfulEq) (htext : U.SameText) {e e' f f' : Value U}
    (he : e = e' ∨ e.Interchangeable e') (hf : f = f' ∨ f.Interchangeable f') :
    engine.Admits e f ↔ engine.Admits e' f' := by
  have hetext := Value.text?_eq_of_alike htext he
  have hftext := Value.text?_eq_of_alike htext hf
  unfold Admits
  rw [hetext, hftext]
  refine or_congr_right (and_congr_right fun hfnone => ?_)
  by_cases henone : e'.text? = none
  · rw [Value.beq_left_of_alike hequal (Value.eq_or_beq_of_alike (hftext.trans hfnone) hf),
      Value.beq_right_of_alike hequal (Value.eq_or_beq_of_alike (hetext.trans henone) he)]
  · -- an element without a text is not equal to one with a text
    refine iff_of_false (fun h => henone ?_) (fun h => henone ?_)
    · rw [← hetext, ← Value.text?_eq_of_beq htext h, hftext, hfnone]
    · rw [← Value.text?_eq_of_beq htext h, hfnone]

theorem admitsAt_congr_of_alike (hequal : U.LawfulEq) (htext : U.SameText)
    {elements elements' candidate candidate' : Store U} (he : elements.Alike elements')
    (hc : candidate.Alike candidate') (i j : Nat) :
    engine.AdmitsAt elements candidate i j ↔ engine.AdmitsAt elements' candidate' i j := by
  have hei := he.rel i
  have hcj := hc.rel j
  unfold AdmitsAt
  generalize elements.values[i]? = a, elements'.values[i]? = a' at hei
  generalize candidate.values[j]? = b, candidate'.values[j]? = b' at hcj
  cases hei with
  | none => exact ⟨nofun, nofun⟩
  | some hei =>
    cases hcj with
    | none => exact ⟨nofun, nofun⟩
    | some hcj =>
      simp only [Option.some.injEq, exists_and_left, exists_eq_left',
        admits_congr hequal htext hei hcj]

end Engine

/-! ### Matching -/

namespace Matcher

variable {engine : Engine ρ}

/-- Whether a matcher can be built, and with what patterns, is a matter of the texts. -/
theorem compileFrom_congr {position : Nat} {vs ws : List (Value U)}
    (h : vs.map Value.text? = ws.map Value.text?) :
    compileFrom engine position vs = compileFrom engine position ws := by
  induction vs generalizing position ws with
  | nil =>
    obtain rfl := List.map_eq_nil_iff.mp h.symm
    rfl
  | cons v vs ih =>
    cases ws with
    | nil => exact nomatch h
    | cons w ws =>
      obtain ⟨hvw, hvws⟩ := List.cons.inj h
      unfold compileFrom
      rw [hvw, ih hvws]

/-- A matcher can be built from elements that are alike to those of another one. -/
theorem exists_compile_of_alike (htext : U.SameText) {elements elements' : Store U}
    {strategy : Strategy} {m : Matcher U ρ} (hm : compile engine elements strategy = .ok m)
    (h : elements.Alike elements') : ∃ m', compile engine elements' strategy = .ok m' := by
  have htexts : elements'.values.map Value.text? = elements.values.map Value.text? := by
    refine List.ext_getElem? fun i => ?_
    rw [List.getElem?_map, List.getElem?_map]
    have hrel := h.rel i
    generalize elements.values[i]? = a, elements'.values[i]? = b at hrel
    cases hrel with
    | none => rfl
    | some hvw => exact congrArg some (Value.text?_eq_of_alike htext hvw).symm
  unfold compile at hm ⊢
  rw [compileFrom_congr htexts]
  rcases hp : compileFrom engine 1 elements.values with e | patterns
  · rw [hp] at hm
    exact nomatch hm
  · exact ⟨_, rfl⟩

/-- Matchers and candidates that are alike match alike, under every strategy. -/
theorem evaluate_eq_of_alike (hequal : U.LawfulEq) (htext : U.SameText)
    {elements elements' candidate candidate' : Store U} {strategy strategy' : Strategy}
    {m m' : Matcher U ρ} (hm : compile engine elements strategy = .ok m)
    (hm' : compile engine elements' strategy' = .ok m') (he : elements.Alike elements')
    (hc : candidate.Alike candidate') (s : Strategy) :
    m.evaluate engine s candidate = m'.evaluate engine s candidate' := by
  -- the specification of each strategy speaks of depths and admissions only
  have hadmits : ∀ i j, engine.AdmitsAt elements candidate i j
      ↔ engine.AdmitsAt elements' candidate' i j :=
    Engine.admitsAt_congr_of_alike hequal htext he hc
  rw [Bool.eq_iff_iff]
  cases s with
  | all =>
    rw [evaluate_all_iff hm, evaluate_all_iff hm', he.1, hc.1]
    simp only [hadmits]
  | any =>
    rw [evaluate_any_iff hm, evaluate_any_iff hm', he.1, hc.1]
    simp only [hadmits]
  | set =>
    rw [evaluate_set_iff hm, evaluate_set_iff hm', he.1, hc.1]
    simp only [hadmits]

end Matcher

/-! ### The standard universe -/

namespace Standard

/-- A zero is no NaN and has the place 0, whatever its sign. -/
theorem isNaN_and_rank_of_isZero {p : Precision} {x : Binary p} (h : x.isZero = true) :
    x.isNaN = false ∧ x.rank = 0 := by
  have hmagnitude : x.magnitude = 0 := decide_eq_true_iff.mp h
  unfold Binary.isNaN Binary.rank
  rw [hmagnitude]
  exact ⟨decide_eq_false (Nat.not_lt_zero _), ite_self _⟩

/-- The two zeros of a format are interchangeable. -/
theorem interchangeable_of_isZero {p : Precision} {x y : Binary p} (hx : x.isZero = true)
    (hy : y.isZero = true) :
    (.leaf (.binary p) x : Value Standard).Interchangeable (.leaf (.binary p) y) := by
  refine .inl ((Value.beq_leaf (U := Standard) (Kind.binary p) x y).trans ?_)
  obtain ⟨hxn, hxr⟩ := isNaN_and_rank_of_isZero hx
  obtain ⟨hyn, hyr⟩ := isNaN_and_rank_of_isZero hy
  show (!x.isNaN && !y.isNaN && x.rank == y.rank) = true
  rw [hxn, hyn, hxr, hyr]
  rfl

/-- A string and a literal that read the same are interchangeable, though they are not equal. -/
theorem interchangeable_string_literal (s : String) :
    (.leaf .string s : Value Standard).Interchangeable (.leaf .literal s) ∧
      (.leaf .literal s : Value Standard).Interchangeable (.leaf .string s) :=
  ⟨.inr ⟨s, rfl, rfl⟩, .inr ⟨s, rfl, rfl⟩⟩

end Standard

/-! ### Main theorem -/

/-- **A match depends on what elements mean.**  If the equality of every kind is symmetric and
transitive, and equal values of a kind carry the same text, then matchers built from elements that
are alike give the same answer, under every strategy, on candidates that are alike.  In particular
equal matchers cannot be told apart once they are run under one strategy; and replacing one
element by an interchangeable one changes no answer, in a candidate nor in a matcher, which can
still be built.

The standard universe keeps to both conditions; in it the two zeros of a format are
interchangeable, and a string and a literal with the same text. -/
theorem Matcher.evaluate_eq_of_interchangeable :
    (∀ (U : Universe) (ρ : Type) (engine : Engine ρ), U.LawfulEq → U.SameText →
      ∀ (elements : Store U) (strategy : Strategy) (m : Matcher U ρ),
        compile engine elements strategy = .ok m →
        (∀ (elements' : Store U) (strategy' : Strategy) (m' : Matcher U ρ),
          compile engine elements' strategy' = .ok m' →
          (elements.Alike elements' →
            ∀ (candidate candidate' : Store U), candidate.Alike candidate' →
              ∀ s, m.evaluate engine s candidate = m'.evaluate engine s candidate') ∧
          (m.beq m' = true →
            ∀ (candidate : Store U) (s : Strategy),
              m.evaluate engine s candidate = m'.evaluate engine s candidate)) ∧
        ∀ (i : Nat) (v w : Value U), v.Interchangeable w →
          (elements.values[i]? = some v →
            ∃ m', compile engine (elements.replace i w) strategy = .ok m' ∧
              ∀ (candidate : Store U) (s : Strategy),
                m'.evaluate engine s candidate = m.evaluate engine s candidate) ∧
          ∀ (candidate : Store U) (s : Strategy), candidate.values[i]? = some v →
            m.evaluate engine s (candidate.replace i w) = m.evaluate engine s candidate) ∧
    Standard.LawfulEq ∧ Standard.SameText ∧
    (∀ (p : Precision) (x y : Binary p), x.isZero = true → y.isZero = true →
      (.leaf (.binary p) x : Value Standard).Interchangeable (.leaf (.binary p) y)) ∧
    ∀ s : String, (.leaf .string s : Value Standard).Interchangeable (.leaf .literal s) ∧
      (.leaf .literal s : Value Standard).Interchangeable (.leaf .string s) := by
  refine ⟨fun U ρ engine hequal htext elements strategy m hm => ⟨fun elements' strategy' m' hm' =>
      ⟨fun he candidate candidate' hc => evaluate_eq_of_alike hequal htext hm hm' he hc,
        fun hbeq candidate => ?_⟩,
      fun i v w hvw => ⟨fun hv => ?_, fun candidate s hv => ?_⟩⟩,
    Standard.lawful.lawfulEq, Standard.sameText, fun p x y => Standard.interchangeable_of_isZero,
    Standard.interchangeable_string_literal⟩
  · obtain rfl := eq_of_compile hm
    obtain rfl := eq_of_compile hm'
    exact evaluate_eq_of_alike hequal htext hm hm' (Store.alike_of_beq hbeq) (.refl candidate)
  · have halike := Store.alike_replace hv hvw
    obtain ⟨m', hm'⟩ := exists_compile_of_alike htext hm halike
    refine ⟨m', hm', fun candidate s => ?_⟩
    exact (evaluate_eq_of_alike hequal htext hm hm' halike (.refl candidate) s).symm
  · have halike := Store.alike_replace hv hvw
    exact (evaluate_eq_of_alike hequal htext hm hm (.refl elements) halike s).symm

/-- Letters to be found in a text, and a zero: the sign of the zero makes no difference, and
neither does whether the letters or the text are a string or a literal; the candidate may have a
NaN besides. -/
theorem Matcher.evaluate_eq_of_interchangeable_zeros :
    let engine : Engine String :=
      ⟨some, fun p s => s.toList.tails.any p.toList.isPrefixOf, fun p => .atom p⟩
    let number (n : Nat) : Value Standard :=
      .leaf (Standard.Kind.binary .double) ⟨BitVec.ofNat 64 n⟩
    let zero := number 0
    let negative := number (Nat.pow 2 63)
    let nan : Value Standard := .leaf (Standard.Kind.binary .double) (Binary.nan .double)
    let elements : Store Standard := ⟨[.leaf .string "b", zero], by decide⟩
    let other : Store Standard := ⟨[.leaf .string "b", negative], by decide⟩
    let candidate : Store Standard := ⟨[.leaf .literal "abc", negative, nan], by decide⟩
    ∃ m m' m'' : Matcher Standard String,
      compile engine elements .all = .ok m ∧ compile engine other .any = .ok m' ∧
      compile engine (elements.replace 0 (.leaf .literal "b")) .all = .ok m'' ∧
      m.evaluate engine .all candidate = true ∧
      m'.evaluate engine .all candidate = true ∧
      m''.evaluate engine .all candidate = true ∧
      m.evaluate engine .all (candidate.replace 0 (.leaf .string "abc")) = true ∧
      m.evaluate engine .all (candidate.replace 1 zero) = true := by
  intro engine number zero negative nan elements other candidate
  obtain ⟨hlaws, hequal, htext, hzeros, htexts⟩ := evaluate_eq_of_interchangeable
  have hm : compile engine elements .all = .ok ⟨elements, [some "b", none], .all⟩ := by rfl
  have hm' : compile engine other .any = .ok ⟨other, [some "b", none], .any⟩ := by rfl
  obtain ⟨hmatchers, hreplace⟩ := hlaws Standard String engine hequal htext elements .all _ hm
  obtain ⟨-, hbeq⟩ := hmatchers other .any _ hm'
  obtain ⟨hpattern, -⟩ := hreplace 0 (.leaf .string "b") (.leaf .literal "b") (htexts "b").1
  obtain ⟨m'', hm'', hsame⟩ := hpattern rfl
  obtain ⟨-, hliteral⟩ := hreplace 0 (.leaf .literal "abc") (.leaf .string "abc") (htexts "abc").2
  obtain ⟨-, hzero⟩ := hreplace 1 negative zero (hzeros .double _ _ (by decide) (by decide))
  have hbase : evaluate engine ⟨elements, [some "b", none], .all⟩ .all candidate = true := by rfl
  refine ⟨_, _, m'', hm, hm', hm'', hbase, ?_, (hsame candidate .all).trans hbase,
    (hliteral candidate .all rfl).trans hbase, (hzero candidate .all rfl).trans hbase⟩
  exact (hbeq (by rfl) candidate .all).symm.trans hbase

end Polyad
