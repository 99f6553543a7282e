/-
Polyad/Proofs/Compilation.lean

How a matcher is built: which elements are compiled, where the patterns stand, and which element is
to blame if it cannot be built.

Idea.  The patterns are collected in a walk over the elements that ends at the first text that is no
pattern.  Such an element is refused (`Engine.refuses`), so where the walk ends is where a search for
refused elements ends, counted from the position at which the walk began (`compileFrom_eq_error`).
Elements without a text are passed over by both, and count.  A walk that comes to its end has put
down the pattern of each element at the index of the element, none for an element without a text;
this is all that needs to be known of it (`pattern_of_value`).

Main statement: `Matcher.new_compiles_texts`.
-/
import Polyad.Proofs.Entailment
import Polyad.Proofs.Erasure
import Polyad.Proofs.Search

namespace Polyad

variable {U : Universe} {ρ : Type}

/-! ### Refused elements -/

namespace Engine

variable {engine : Engine ρ} {v : Value U}

/-- The element has a text, and the text is no pattern. -/
def refuses (engine : Engine ρ) (v : Value U) : Bool :=
  v.text?.any fun text => (engine.compile? text).isNone

theorem refuses_iff :
    engine.refuses v = true ↔ ∃ text, v.text? = some text ∧ engine.compile? text = none := by
  simp only [refuses, Option.any_eq_true, Option.isNone_iff_eq_none]

/-- What is not accepted is refused. -/
theorem refuses_eq_false_iff : engine.refuses v = false ↔ engine.Accepts v := by
  rw [Bool.eq_false_iff, Ne, refuses_iff, not_exists]
  refine forall_congr' fun text => ?_
  rw [not_and, ← Ne, Option.ne_none_iff_exists']

theorem pattern?_eq_none_iff (hv : engine.Accepts v) :
    engine.pattern? v = none ↔ v.text? = none := by
  unfold pattern?
  rcases htext : v.text? with - | text
  · exact ⟨fun _ => rfl, fun _ => rfl⟩
  · obtain ⟨pattern, hpattern⟩ := hv text htext
    rw [Option.bind_some, hpattern]
    exact ⟨nofun, nofun⟩

/-- An accepted text has a pattern, the one compiled from it. -/
theorem pattern?_of_text (hv : engine.Accepts v) {text : String} (htext : v.text? = some text) :
    ∃ pattern, engine.compile? text = some pattern ∧ engine.pattern? v = some pattern := by
  obtain ⟨pattern, hpattern⟩ := hv text htext
  refine ⟨pattern, hpattern, ?_⟩
  unfold pattern?
  rw [htext, Option.bind_some, hpattern]

end Engine

/-- Strings and literals are textual, and nothing else is. -/
theorem Standard.text?_eq_some_iff {v : Value Standard} {text : String} :
    v.text? = some text ↔ v = .leaf .string text ∨ v = .leaf .literal text := by
  constructor
  · intro h
    cases v with
    | leaf k x =>
      cases k with
      | string =>
        obtain rfl : x = text := Option.some.inj h
        exact .inl rfl
      | literal =>
        obtain rfl : x = text := Option.some.inj h
        exact .inr rfl
      | _ => exact nomatch h
    | dyn vs => exact nomatch h
    | tuple vs => exact nomatch h
  · rintro (rfl | rfl) <;> rfl

namespace Matcher

variable {engine : Engine ρ} {elements : Store U} {strategy : Strategy} {m : Matcher U ρ}

/-! ### The walk -/

/-- An accepted element is passed over, and its pattern put in front of those of the others. -/
theorem compileFrom_cons_of_accepts {v : Value U} (hv : engine.Accepts v) (vs : List (Value U))
    (position : Nat) :
    compileFrom engine position (v :: vs)
      = (do .ok (engine.pattern? v :: (← compileFrom engine (position + 1) vs))) := by
  unfold Engine.pattern?
  rw [compileFrom]
  rcases htext : v.text? with - | text
  · rfl
  · obtain ⟨pattern, hpattern⟩ := hv text htext
    rw [Option.bind_some, hpattern]
    dsimp only
    rw [hpattern]

/-- At a refused element the walk ends. -/
theorem compileFrom_cons_of_refuses {v : Value U} (hv : engine.refuses v = true)
    (vs : List (Value U)) (position : Nat) :
    compileFrom engine position (v :: vs) = .error (.invalidPattern position) := by
  obtain ⟨text, htext, hnone⟩ := Engine.refuses_iff.mp hv
  rw [compileFrom, htext]
  dsimp only
  rw [hnone]

/-- A walk that fails has ended at the first refused element. -/
theorem compileFrom_eq_error {vs : List (Value U)} {position : Nat} {e : Error U}
    (h : compileFrom engine position vs = .error e) :
    ∃ i, e = .invalidPattern (position + i) ∧ vs.findIdx? engine.refuses = some i := by
  induction vs generalizing position with
  | nil => exact nomatch h
  | cons v vs ih =>
    rw [List.findIdx?_cons]
    rcases hv : engine.refuses v with - | -
    · -- the error is one of the rest, which begins one position further back
      rw [compileFrom_cons_of_accepts (Engine.refuses_eq_false_iff.mp hv)] at h
      rcases hrest : compileFrom engine (position + 1) vs with e' | rest
      · rw [hrest] at h
        obtain rfl : e' = e := Except.error.inj h
        obtain ⟨i, rfl, hi⟩ := ih hrest
        refine ⟨i + 1, congrArg Error.invalidPattern (Nat.succ_add_eq_add_succ position i), ?_⟩
        rw [hi]
        rfl
      · rw [hrest] at h
        exact nomatch h
    · rw [compileFrom_cons_of_refuses hv] at h
      exact ⟨0, (Except.error.inj h).symm, rfl⟩

theorem compileFrom_eq_error_iff {vs : List (Value U)} {position : Nat} {e : Error U} :
    compileFrom engine position vs = .error e ↔
      ∃ i, e = .invalidPattern (position + i) ∧ vs.findIdx? engine.refuses = some i := by
  refine ⟨compileFrom_eq_error, ?_⟩
  rintro ⟨i, rfl, hi⟩
  rcases hp : compileFrom engine position vs with e | patterns
  · obtain ⟨k, rfl, hk⟩ := compileFrom_eq_error hp
    obtain rfl : k = i := Option.some.inj (hk.symm.trans hi)
    rfl
  · obtain ⟨hlt, hrefuses, -⟩ := List.findIdx?_eq_some_iff_getElem.mp hi
    have haccepts := accepts_of_compileFrom hp _ (List.getElem_mem hlt)
    exact absurd hrefuses (Bool.eq_false_iff.mp (Engine.refuses_eq_false_iff.mpr haccepts))

/-! ### Success and failure -/

/-- The matcher is built around the patterns, whatever its strategy. -/
theorem compile_eq_map :
    compile engine elements strategy
      = (compileFrom engine 1 elements.values).map fun patterns => ⟨elements, patterns, strategy⟩ := by
  unfold compile
  cases compileFrom engine 1 elements.values <;> rfl

theorem compile_eq_map_compile (s : Strategy) :
    compile engine elements s
      = (compile engine elements strategy).map fun m => { m with strategy := s } := by
  rw [compile_eq_map, compile_eq_map]
  cases compileFrom engine 1 elements.values <;> rfl

theorem exists_compile_iff :
    (∃ m, compile engine elements strategy = .ok m) ↔ ∀ v ∈ elements.values, engine.Accepts v := by
  refine ⟨fun ⟨m, hm⟩ => accepts_of_compile hm, fun h => ?_⟩
  rw [compile_eq_map, compileFrom_of_accepts h]
  exact ⟨_, rfl⟩

/-- A matcher that cannot be built fails at the first position that holds a refused element. -/
theorem compile_eq_error_iff {t : Tuple U} {e : Error U} :
    compile engine t.elements strategy = .error e ↔
      ∃ p, e = .invalidPattern p ∧
        IsLeast {p | ∃ v, t.value p = .ok v ∧ engine.refuses v = true} p := by
  have hwalk : compile engine t.elements strategy = .error e ↔
      compileFrom engine 1 t.toList = .error e := by
    rw [compile_eq_map]
    show Except.map _ (compileFrom engine 1 t.toList) = _ ↔ _
    cases compileFrom engine 1 t.toList with
    | error e' =>
      exact ⟨fun h => congrArg _ (Except.error.inj h), fun h => congrArg _ (Except.error.inj h)⟩
    | ok patterns => exact ⟨nofun, nofun⟩
  rw [hwalk, compileFrom_eq_error_iff]
  constructor
  · rintro ⟨i, rfl, hi⟩
    exact ⟨i + 1, congrArg _ (Nat.add_comm 1 i), Tuple.findIdx?_eq_some_iff.mp hi⟩
  · rintro ⟨p, rfl, hp⟩
    -- no element is before the first position, so the position has an index
    obtain ⟨v, hv, -⟩ := hp.1
    have hback : p - 1 + 1 = p := Nat.sub_add_cancel (Tuple.value_eq_ok_iff.mp hv).1
    refine ⟨p - 1, ?_, Tuple.findIdx?_eq_some_iff.mpr (hback.symm ▸ hp)⟩
    rw [Nat.add_comm 1, hback]

/-! ### The patterns of a matcher -/

theorem depth_eq_of_compile (hm : compile engine elements strategy = .ok m) :
    m.depth = elements.depth := by
  rw [eq_of_compile hm]
  rfl

theorem length_patterns (hm : compile engine elements strategy = .ok m) :
    m.patterns.length = m.depth := by
  rw [eq_of_compile hm]
  exact List.length_map ..

theorem pattern_eq_error_iff {p : Nat} :
    m.pattern p = .error (.invalidPosition p m.depth) ↔ p = 0 ∨ m.depth < p := by
  unfold pattern
  by_cases hp : p = 0 ∨ m.depth < p
  · rw [if_pos hp]
    exact iff_of_true rfl hp
  · rw [if_neg hp]
    exact iff_of_false nofun hp

/-- The pattern at a position is that of the element at the position. -/
theorem pattern_of_value {t : Tuple U} (hm : compile engine t.elements strategy = .ok m) {p : Nat}
    {v : Value U} (hv : t.value p = .ok v) :
    m.patterns[p - 1]? = some (engine.pattern? v) ∧ m.pattern p = .ok (engine.pattern? v) := by
  obtain ⟨h₁, hat⟩ := Tuple.value_eq_ok_iff.mp hv
  obtain ⟨hlt, -⟩ := List.getElem?_eq_some_iff.mp hat
  rw [Tuple.length_toList] at hlt
  have hdepth : m.depth = t.depth := depth_eq_of_compile hm
  have hpattern : m.patterns[p - 1]? = some (engine.pattern? v) := by
    rw [eq_of_compile hm]
    show (t.toList.map engine.pattern?)[p - 1]? = _
    rw [List.getElem?_map, hat, Option.map_some]
  refine ⟨hpattern, ?_⟩
  rw [pattern, if_neg (by omega), hpattern, Option.getD_some]

/-! ### Main theorem -/

/-- **Exactly the texts are compiled**, and the patterns keep step with the elements.

A matcher can be built if every text among its elements is a pattern, and only then.  Otherwise the
error names the first position at which there is a text that is none, however many elements without
a text come before it.  A matcher that was built has the elements that it was given, and as many
patterns; outside of its positions it refuses to give a pattern, and at each of them it has none if
the element is not textual and otherwise the one compiled from the text of the element itself.  The
strategy plays no part in this.  In the standard universe strings and literals are textual, and no
other values. -/
theorem new_compiles_texts {ts : List (Ty U)} (engine : Engine ρ) (t : Typed U ts) (h : ts ≠ [])
    (s : Strategy) :
    ((∃ m, new engine t h s = .ok m) ↔ ∀ v ∈ t.toList, ∀ text, v.text? = some text →
      ∃ r, engine.compile? text = some r) ∧
    (∀ e, new engine t h s = .error e ↔ ∃ p, e = .invalidPattern p ∧
      IsLeast {p | ∃ v text, t.value p = .ok v ∧ v.text? = some text ∧
        engine.compile? text = none} p) ∧
    (∀ m, new engine t h s = .ok m →
      m.elements = t.elements ∧ m.strategy = s ∧ m.patterns.length = m.depth ∧
      ∀ p, (m.pattern p = .error (.invalidPosition p m.depth) ↔ p = 0 ∨ m.depth < p) ∧
        ∀ v, t.value p = .ok v → ∃ o, m.patterns[p - 1]? = some o ∧ m.pattern p = .ok o ∧
          (o = none ↔ v.text? = none) ∧
          ∀ text, v.text? = some text → ∃ r, engine.compile? text = some r ∧ o = some r) ∧
    (all engine t h = (new engine t h s).map (fun m => { m with strategy := .all }) ∧
      any engine t h = (new engine t h s).map (fun m => { m with strategy := .any }) ∧
      set engine t h = (new engine t h s).map (fun m => { m with strategy := .set })) ∧
    ∀ (v : Value Standard) (text : String),
      v.text? = some text ↔ v = .leaf .string text ∨ v = .leaf .literal text := by
  have hnew : new engine t h s = compile engine t.erase.elements s := rfl
  refine ⟨exists_compile_iff, fun e => ?_, fun m hm => ?_, ⟨compile_eq_map_compile .all,
    compile_eq_map_compile .any, compile_eq_map_compile .set⟩, fun v text => ?_⟩
  · rw [hnew, compile_eq_error_iff]
    simp only [Engine.refuses_iff, Typed.erase_value, exists_and_left]
  · obtain rfl := eq_of_compile hm
    refine ⟨rfl, rfl, length_patterns hm, fun p => ⟨pattern_eq_error_iff, fun v hv => ?_⟩⟩
    rw [← Typed.erase_value] at hv
    have haccepts : engine.Accepts v :=
      accepts_of_compile hm v (List.mem_of_getElem? (Tuple.value_eq_ok_iff.mp hv).2)
    obtain ⟨hpatterns, hpattern⟩ := pattern_of_value (t := t.erase) hm hv
    exact ⟨_, hpatterns, hpattern, Engine.pattern?_eq_none_iff haccepts,
      fun text => Engine.pattern?_of_text haccepts⟩
  · exact Standard.text?_eq_some_iff

/-- Two texts among other elements, one of them a boxed text that would not be a pattern; and elements
of which the fourth and the fifth are texts that are none, behind others that are not textual. -/
theorem new_compiles_texts_letters :
    let engine : Engine String :=
      ⟨fun text => if text = "(" then none else some text, fun p text => p == text, .atom⟩
    let literal (s : String) : Value Standard := .leaf .literal s
    let string (s : String) : Value Standard := .leaf .string s
    let boxed (s : String) : Value Standard := .leaf .boxed s
    let optional (s : String) : Value Standard := .leaf (.option .string) (some s)
    let t := Typed.ofList [boxed "(", literal "a", optional "(", string "b"] (by decide)
    let u := Typed.ofList [boxed "(", literal "a", optional "(", string "(", literal "("] (by decide)
    (∃ m, new engine t nofun .any = .ok m ∧ m.patterns.length = m.depth ∧
      m.pattern 0 = .error (.invalidPosition 0 4) ∧ m.pattern 1 = .ok none ∧
      m.pattern 2 = .ok (some "a") ∧ m.pattern 5 = .error (.invalidPosition 5 4) ∧
      set engine t nofun = .ok { m with strategy := .set }) ∧
    new engine u nofun .all = .error (.invalidPattern 4) ∧
    IsLeast {p | ∃ v text, u.value p = .ok v ∧ v.text? = some text ∧ engine.compile? text = none} 4 ∧
    ∀ text, (boxed "(").text? ≠ some text := by
  intro engine literal string boxed optional t u
  obtain ⟨-, -, hbuilt, ⟨-, -, hset⟩, htextual⟩ := new_compiles_texts engine t nofun .any
  obtain ⟨-, herror, -⟩ := new_compiles_texts engine u nofun .all
  obtain ⟨m, hm⟩ : ∃ m, new engine t nofun .any = .ok m := ⟨_, rfl⟩
  obtain ⟨helements, -, hlength, hpattern⟩ := hbuilt m hm
  have hdepth : m.depth = 4 := congrArg Store.depth helements
  obtain ⟨hzero, -⟩ := hpattern 0
  obtain ⟨-, hone⟩ := hpattern 1
  obtain ⟨-, htwo⟩ := hpattern 2
  obtain ⟨hfive, -⟩ := hpattern 5
  rw [hdepth] at hzero hfive
  -- the boxed text has no pattern, and the literal has that of its own text
  obtain ⟨o, -, ho, hnone, -⟩ := hone (boxed "(") rfl
  obtain rfl : o = none := hnone.mpr rfl
  obtain ⟨o', -, ho', -, hsome⟩ := htwo (literal "a") rfl
  obtain ⟨r, hr, rfl⟩ := hsome "a" rfl
  obtain rfl : "a" = r := Option.some.inj hr
  have hfails : new engine u nofun .all = .error (.invalidPattern 4) := rfl
  obtain ⟨p, hp, hleast⟩ := (herror _).mp hfails
  obtain rfl : 4 = p := Error.invalidPattern.inj hp
  refine ⟨⟨m, hm, hlength, hzero.mpr (by decide), ho, ho', hfive.mpr (by decide), ?_⟩, hfails, hleast,
    fun text h => ?_⟩
  · rw [hset, hm]
    rfl
  · rcases (htextual _ _).mp h with h | h
    · exact nomatch h
    · exact nomatch h

end Matcher

end Polyad
