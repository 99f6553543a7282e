/-
Polyad/Proofs/Offset.lean

The offset at which a walk down a list of types begins.

An offset stands for so many values left out: what is done from it on is what is done from the front
of the values that are left, with errors at positions so much further on.  This is so for as long as
there are offsets.  Behind the last one comes the first one again, and a walk that gets there goes on
at the front of the values, which it was to leave out.

Idea.  Let one walk be ahead of another by a number of offsets, and let the other walk in the values
without so many at the front.  Then both find the same for the same type (`typedAt_drop`), and one
step later they are again ahead and behind by that number.  So each statement is an induction on the
types, and what carries it is that there is a next offset: for walks that go on to the last type,
that there are not more types than offsets (`lockstep`), and for walks that end at a missing value,
that they are within the values (`Within`).

Beyond the last offset the types are parted where the offsets end.  Those in front of the end have
their offsets, and the statements hold of them; the others begin at the first offset
(`feedEach_eq_append`, `collateEach_eq_then`).

Main statement: `Capability.offset_leaves_out`.
-/
import Polyad.Proofs.Recovery
import Polyad.Proofs.Stepping
import Polyad.Standard.Capability
import Polyad.Standard.Codec

namespace Polyad

variable {U : Universe}

/-- The same said of the position that lies `n` further on. -/
def Error.further (n : Nat) : Error U → Error U
  | .typeMismatch position expected found => .typeMismatch (n + position) expected found
  | .missingElement position expected => .missingElement (n + position) expected
  | e => e

namespace Capability

variable {δ ε : Type} {n : Nat} {t : Ty U} {ts : List (Ty U)}
variable {values left right : List (Value U)} {offset start : UInt64}

/-! ### Walks in lockstep -/

/-- Without the first `n` values the same value is at an offset less by `n`. -/
theorem typedAt_drop (t : Ty U) (h : offset.toNat = n + start.toNat) :
    typedAt t (values.drop n) start = typedAt t values offset := by
  unfold typedAt
  rw [List.getElem?_drop, h]

theorem toNat_succ_of_eq (h : offset.toNat = n + start.toNat)
    (hstep : offset.toNat + 1 < UInt64.size) : (offset + 1).toNat = n + (start + 1).toNat := by
  rw [toNat_succ hstep, toNat_succ (by omega), h, Nat.add_assoc]

theorem toNat_eq_add_zero (offset : UInt64) :
    offset.toNat = offset.toNat + (0 : UInt64).toNat := rfl

/-- **Two walks in lockstep**, of which one is ahead by `n` offsets.  What is so at the end of both,
and is so at two offsets if it is so one step later, is so from the start of both, as long as there is
an offset for each type. -/
theorem lockstep {P : List (Ty U) → UInt64 → UInt64 → Prop}
    (nil : ∀ offset start, P [] offset start)
    (cons : ∀ t ts offset start, offset.toNat = n + start.toNat →
      P ts (offset + 1) (start + 1) → P (t :: ts) offset start)
    (h : offset.toNat = n + start.toNat) (hreach : offset.toNat + ts.length ≤ UInt64.size) :
    P ts offset start := by
  induction ts generalizing offset start with
  | nil => exact nil offset start
  | cons t ts ih =>
    refine cons t ts offset start h ?_
    -- the step behind the last type may be one from the last offset, and nothing is done after it
    cases ts with
    | nil => exact nil (offset + 1) (start + 1)
    | cons u us =>
      simp only [List.length_cons] at hreach ih
      have hstep : offset.toNat + 1 < UInt64.size := by omega
      rw [← toNat_succ_add hstep] at hreach
      exact ih (toNat_succ_of_eq h hstep) hreach

/-! ### Values left out -/

/-- The same type is the first that is not found, at a position further on. -/
theorem typeCheck_drop (h : offset.toNat = n + start.toNat)
    (hreach : Within ts.length values offset) :
    typeCheck ts values offset
      = (typeCheck ts (values.drop n) start).mapError (·.further n) := by
  induction ts generalizing offset start with
  | nil => rfl
  | cons t ts ih =>
    have hnext := toNat_succ_of_eq h hreach.step
    -- both look at one value, and name the next offset as its position
    simp only [typeCheck, List.getElem?_drop, ← h, hnext]
    cases hv : values[offset.toNat]? with
    | none => rfl
    | some v =>
      by_cases hty : v.ty = t
      · simp only [if_pos hty]
        exact ih hnext (hreach.next (List.getElem?_eq_some_iff.mp hv).1)
      · simp only [if_neg hty]
        rfl

theorem feedEach_drop (h : Hashing U) (hn : offset.toNat = n + start.toNat)
    (hreach : offset.toNat + ts.length ≤ UInt64.size) :
    feedEach h ts values offset = feedEach h ts (values.drop n) start := by
  let P ts offset start := feedEach h ts values offset = feedEach h ts (values.drop n) start
  refine lockstep (P := P) (fun _ _ => rfl) (fun t ts offset start hn htail => ?_) hn hreach
  simp only [P, feedEach, typedAt_drop t hn, htail]

theorem collateEach_drop (c : Collation U) (hn : offset.toNat = n + start.toNat)
    (hreach : offset.toNat + ts.length ≤ UInt64.size) :
    collateEach c ts left right offset
      = collateEach c ts (left.drop n) (right.drop n) start := by
  let P ts offset start :=
    collateEach c ts left right offset = collateEach c ts (left.drop n) (right.drop n) start
  refine lockstep (P := P) (fun _ _ => rfl) (fun t ts offset start hn htail => ?_) hn hreach
  simp only [P, collateEach, typedAt_drop t hn, htail]

/-- The same values are handed over, and then the same one is refused, at a position further on. -/
theorem handOverBy_drop {μ : Type → Type} [Monad μ] [LawfulMonad μ] {next : UInt64 → μ UInt64}
    (hnext : Steps next) (take : Value U → μ Unit) (refuse : Error U → μ Unit)
    (h : offset.toNat = n + start.toNat) (hreach : Within ts.length values offset) :
    handOverBy next take refuse ts values offset
      = handOverBy startOver take (fun e => refuse (e.further n)) ts (values.drop n) start := by
  induction ts generalizing offset start with
  | nil => rfl
  | cons t ts ih =>
    have hstep := toNat_succ_of_eq h hreach.step
    simp only [handOverBy, typedAt_drop t h, hnext offset hreach.step, startOver, pure_bind]
    cases hv : typedAt t values offset with
    | none =>
      rw [hstep]
      rfl
    | some v => simp only [ih hstep (hreach.next (lt_length_of_typedAt hv))]

theorem encodeEach_drop (c : Codec U δ ε) (h : offset.toNat = n + start.toNat)
    (hreach : Within ts.length values offset) :
    encodeEach c ts values offset
      = (encodeEach c ts (values.drop n) start).mapError (·.further n) := by
  have hwalk := handOverBy_drop steps_startOver (putDown c) throw h hreach
  rw [encodeEach_eq_written, mapError_encodeEach]
  exact congrArg (written · []) hwalk

/-! ### Beyond the last offset -/

/-- A step and then `n` steps. -/
theorem add_ofNat_succ (offset : UInt64) (n : Nat) :
    offset + UInt64.ofNat (n + 1) = offset + 1 + UInt64.ofNat n := by
  rw [Nat.add_comm, UInt64.ofNat_add, ← UInt64.add_assoc]
  rfl

theorem feedEach_append (h : Hashing U) (ts us : List (Ty U)) :
    feedEach h (ts ++ us) values offset
      = feedEach h ts values offset ++ feedEach h us values (offset + UInt64.ofNat ts.length) := by
  induction ts generalizing offset with
  | nil =>
    show feedEach h us values offset = feedEach h us values (offset + 0)
    rw [UInt64.add_zero]
  | cons t ts ih =>
    rw [List.cons_append, feedEach_cons, ih, feedEach_cons h t ts, List.append_assoc,
      List.length_cons, add_ofNat_succ]

theorem collateEach_append (c : Collation U) (ts us : List (Ty U)) :
    collateEach c (ts ++ us) left right offset
      = (collateEach c ts left right offset).then
          (collateEach c us left right (offset + UInt64.ofNat ts.length)) := by
  induction ts generalizing offset with
  | nil =>
    show collateEach c us left right offset = collateEach c us left right (offset + 0)
    rw [UInt64.add_zero]
  | cons t ts ih =>
    rw [List.cons_append, collateEach_cons, ih, collateEach_cons c t ts, Ordering.then_assoc,
      List.length_cons, add_ofNat_succ]

/-- So many steps on is the first offset. -/
theorem add_ofNat_remaining (offset : UInt64) : offset + UInt64.ofNat (remaining offset) = 0 := by
  refine UInt64.toNat_inj.mp ?_
  rw [UInt64.toNat_add, UInt64.toNat_ofNat', Nat.add_mod_mod, add_remaining]
  rfl

/-- So many types have an offset each. -/
theorem reach_take (offset : UInt64) (ts : List (Ty U)) :
    offset.toNat + (ts.take (remaining offset)).length ≤ UInt64.size := by
  have := add_remaining offset
  have := List.length_take_le (remaining offset) ts
  omega

/-- The types behind them, if there are any, begin at the first offset. -/
theorem drop_remaining (offset : UInt64) (ts : List (Ty U)) :
    ts.drop (remaining offset) = [] ∨
      offset + UInt64.ofNat (ts.take (remaining offset)).length = 0 := by
  rcases Nat.le_total ts.length (remaining offset) with hle | hle
  · exact .inl (List.drop_eq_nil_of_le hle)
  · refine .inr ?_
    rw [List.length_take_of_le hle, add_ofNat_remaining]

/-- **Behind the last offset a hash is given the first values.** -/
theorem feedEach_eq_append (h : Hashing U) (ts : List (Ty U)) (values : List (Value U))
    (offset : UInt64) :
    feedEach h ts values offset
      = feedEach h (ts.take (remaining offset)) (values.drop offset.toNat) 0 ++
        feedEach h (ts.drop (remaining offset)) values 0 := by
  have hsplit : feedEach h ts values offset = feedEach h (ts.take _ ++ ts.drop _) values offset :=
    congrArg (feedEach h · values offset) (List.take_append_drop (remaining offset) ts).symm
  rw [hsplit, feedEach_append, feedEach_drop h (toNat_eq_add_zero offset) (reach_take offset ts)]
  rcases drop_remaining offset ts with hnil | hzero
  · rw [hnil]
    rfl
  · rw [hzero]

/-- **Behind the last offset the first values are compared.** -/
theorem collateEach_eq_then (c : Collation U) (ts : List (Ty U)) (left right : List (Value U))
    (offset : UInt64) :
    collateEach c ts left right offset
      = (collateEach c (ts.take (remaining offset)) (left.drop offset.toNat)
          (right.drop offset.toNat) 0).then
        (collateEach c (ts.drop (remaining offset)) left right 0) := by
  have hsplit : collateEach c ts left right offset
      = collateEach c (ts.take _ ++ ts.drop _) left right offset :=
    congrArg (collateEach c · left right offset) (List.take_append_drop (remaining offset) ts).symm
  rw [hsplit, collateEach_append,
    collateEach_drop c (toNat_eq_add_zero offset) (reach_take offset ts)]
  rcases drop_remaining offset ts with hnil | hzero
  · rw [hnil]
    rfl
  · rw [hzero]

theorem succ_last (hlast : offset.toNat + 1 = UInt64.size) : offset + 1 = 0 := by
  refine UInt64.toNat_inj.mp ?_
  rw [UInt64.toNat_add]
  exact (congrArg (· % UInt64.size) hlast).trans (Nat.mod_self _)

/-- The position of a value that is missing at the last offset is one behind it, which is zero. -/
theorem typeCheck_last (hlast : offset.toNat + 1 = UInt64.size)
    (hle : values.length ≤ offset.toNat) :
    typeCheck (t :: ts) values offset = .error (.typeMismatch 0 t none) := by
  simp only [typeCheck, List.getElem?_eq_none hle, succ_last hlast]
  rfl

theorem encodeEach_last (c : Codec U δ ε) (hlast : offset.toNat + 1 = UInt64.size)
    (hle : values.length ≤ offset.toNat) :
    encodeEach c (t :: ts) values offset = .error (.missingElement 0 t) := by
  simp only [encodeEach, typedAt_of_le hle, succ_last hlast]
  rfl

theorem collateEach_nil (c : Collation U) (ts : List (Ty U)) (offset : UInt64) :
    collateEach c ts [] [] offset = .eq := by
  induction ts generalizing offset with
  | nil => rfl
  | cons t ts ih => exact ih (offset + 1)

/-! ### Main theorem -/

/-- **An offset stands for values left out, for as long as there are offsets.**  What is checked and
written from an offset on is what is checked and written of the values without so many at the front,
with errors so much further on, if the offset is not the last one or there is no type to look for; so
is what is given to a hash and what is compared, if there is an offset for each type.  On a machine
nothing of this faults, whatever its step at the last offset would do, and the same values are handed
over before one is refused.  Values before the offset are not looked at.

Beyond the last offset it is not so.  From the last one on a missing value is reported at the
position zero.  A hash is given the first values after those from the offset on, and a comparison
that is not decided by these is decided by the first values.  Where a machine has no step from the
last offset, a walk that gets there faults. -/
theorem offset_leaves_out (h : Hashing U) (c : Collation U) (ts : List (Ty U)) (offset : UInt64) :
    (∀ values, Within ts.length values offset →
      typeCheck ts values offset
        = (typeCheck ts (values.drop offset.toNat) 0).mapError (·.further offset.toNat) ∧
      (∀ t rest, ts = t :: rest → values.length ≤ offset.toNat →
        typeCheck ts values offset = .error (.typeMismatch (offset.toNat + 1) t none)) ∧
      (∀ (δ ε : Type) (codec : Codec U δ ε),
        encodeEach codec ts values offset
          = (encodeEach codec ts (values.drop offset.toNat) 0).mapError
              (·.further offset.toNat) ∧
        encodeEach codec ts values offset
          = written (handOverBy startOver (putDown codec) throw ts values offset) []) ∧
      ∀ (μ : Type → Type) [Monad μ] [LawfulMonad μ] (next : UInt64 → μ UInt64), Steps next →
        typeCheckBy next ts values offset = pure (typeCheck ts values offset) ∧
        ∀ take refuse,
          handOverBy next take refuse ts values offset
            = handOverBy startOver take (fun e => refuse (e.further offset.toNat)) ts
                (values.drop offset.toNat) 0) ∧
    (offset.toNat + ts.length ≤ UInt64.size →
      (∀ values, feedEach h ts values offset = feedEach h ts (values.drop offset.toNat) 0) ∧
      ∀ left right,
        collateEach c ts left right offset
          = collateEach c ts (left.drop offset.toNat) (right.drop offset.toNat) 0 ∧
        (left.length ≤ offset.toNat → right.length ≤ offset.toNat →
          collateEach c ts left right offset = .eq)) ∧
    (offset.toNat + ts.length < UInt64.size →
      ∀ (μ : Type → Type) [Monad μ] [LawfulMonad μ] (next : UInt64 → μ UInt64), Steps next →
        (∀ values, feedEachBy next h ts values offset = pure (feedEach h ts values offset)) ∧
        ∀ left right,
          collateEachBy next c ts left right offset
            = pure (collateEach c ts left right offset)) ∧
    (∀ values values', values.drop offset.toNat = values'.drop offset.toNat →
      (Within ts.length values offset → Within ts.length values' offset →
        typeCheck ts values offset = typeCheck ts values' offset ∧
        ∀ (δ ε : Type) (codec : Codec U δ ε),
          encodeEach codec ts values offset = encodeEach codec ts values' offset) ∧
      (offset.toNat + ts.length ≤ UInt64.size →
        feedEach h ts values offset = feedEach h ts values' offset ∧
        ∀ other,
          collateEach c ts values other offset = collateEach c ts values' other offset ∧
          collateEach c ts other values offset = collateEach c ts other values' offset)) ∧
    (∀ t rest values, ts = t :: rest → offset.toNat + 1 = UInt64.size →
      values.length ≤ offset.toNat →
      typeCheck ts values offset = .error (.typeMismatch 0 t none) ∧
      (∀ (δ ε : Type) (codec : Codec U δ ε),
        encodeEach codec ts values offset = .error (.missingElement 0 t)) ∧
      typeCheckBy halt ts values offset = none) ∧
    (∀ values,
      feedEach h ts values offset
        = feedEach h (ts.take (remaining offset)) (values.drop offset.toNat) 0 ++
          feedEach h (ts.drop (remaining offset)) values 0) ∧
    (∀ left right,
      collateEach c ts left right offset
        = (collateEach c (ts.take (remaining offset)) (left.drop offset.toNat)
            (right.drop offset.toNat) 0).then
          (collateEach c (ts.drop (remaining offset)) left right 0)) ∧
    (UInt64.size ≤ offset.toNat + ts.length →
      (∀ values, feedEachBy halt h ts values offset = none) ∧
      ∀ left right,
        collateEachBy halt c ts left right offset = none ↔
          collateEach c (ts.take (remaining offset)) (left.drop offset.toNat)
            (right.drop offset.toNat) 0 = .eq) := by
  have hn := toNat_eq_add_zero offset
  refine ⟨fun values hreach => ⟨?_, ?_, ?_, ?_⟩, fun hreach => ⟨?_, fun left right => ⟨?_, ?_⟩⟩,
    fun hreach μ _ _ next hnext => ⟨?_, ?_⟩,
    fun values values' hdrop => ⟨fun hreach hreach' => ⟨?_, fun δ ε codec => ?_⟩,
      fun hreach => ⟨?_, fun other => ⟨?_, ?_⟩⟩⟩,
    ?_, fun values => ?_, fun left right => ?_, fun hle => ⟨fun values => ?_, fun left right => ?_⟩⟩
  -- walks that end where the values end
  · exact typeCheck_drop hn hreach
  · rintro t rest rfl hle
    exact typeCheck_of_drop_nil hreach.step (List.drop_eq_nil_of_le hle)
  · exact fun δ ε codec => ⟨encodeEach_drop codec hn hreach, encodeEach_eq_written codec⟩
  · intro μ _ _ next hnext
    exact ⟨typeCheckBy_eq hnext hreach,
      fun take refuse => handOverBy_drop hnext take refuse hn hreach⟩
  -- walks to the end of the types
  · exact fun values => feedEach_drop h hn hreach
  · exact collateEach_drop c hn hreach
  · intro hleft hright
    rw [collateEach_drop c hn hreach, List.drop_eq_nil_of_le hleft, List.drop_eq_nil_of_le hright]
    exact collateEach_nil c ts 0
  · exact fun values => feedEachBy_eq hnext h hreach
  · exact fun left right => collateEachBy_eq hnext c hreach
  -- values before the offset
  · rw [typeCheck_drop hn hreach, hdrop, ← typeCheck_drop hn hreach']
  · rw [encodeEach_drop codec hn hreach, hdrop, ← encodeEach_drop codec hn hreach']
  · rw [feedEach_drop h hn hreach, hdrop, ← feedEach_drop h hn hreach]
  · rw [collateEach_drop c hn hreach, hdrop, ← collateEach_drop c hn hreach]
  · rw [collateEach_drop c hn hreach, hdrop, ← collateEach_drop c hn hreach]
  -- beyond the last offset
  · rintro t rest values rfl hlast hle
    exact ⟨typeCheck_last hlast hle, fun δ ε codec => encodeEach_last codec hlast hle,
      typeCheckBy_halt_last hlast⟩
  · exact feedEach_eq_append h ts values offset
  · exact collateEach_eq_then c ts left right offset
  · exact feedEachBy_halt_of_le h hle
  · rw [collateEachBy_halt_eq_none_iff c hle, collateEach_drop c hn (reach_take offset ts)]

/-- From the second of three letters on a truth value is missed at position three, the third one, and
a fourth letter at position four, whether or not a machine faults at the last offset.  The first
letters are not compared.  At the offset before the last one there are two offsets left: two letters
are not found there, and a third is the first one. -/
theorem offset_leaves_out_letters :
    let letter (x : Char) : Value Standard := .leaf Standard.Kind.char x
    let char : Ty Standard := .leaf .char
    let bool : Ty Standard := .leaf .bool
    let values := [letter 'x', letter 'a', letter 'b']
    let other := [letter 'y', letter 'a', letter 'b']
    let far : UInt64 := 18446744073709551614
    let last : UInt64 := 18446744073709551615
    typeCheck [char, bool] values 1 = .error (.typeMismatch 3 bool (some char)) ∧
      typeCheckBy halt [char, bool] values 1
        = some (.error (.typeMismatch 3 bool (some char))) ∧
      encodeEach Standard.codec [char, char, char] values 1 = .error (.missingElement 4 char) ∧
      typeCheck [char, bool] values far
        = .error (.typeMismatch 18446744073709551615 char none) ∧
      feedEachBy halt Standard.hashing [char, char] values 1
        = some (feedEach Standard.hashing [char, char] [letter 'a', letter 'b'] 0) ∧
      collateEach Standard.collation [char, char] values other 1 = .eq ∧
      feedEach Standard.hashing [char, char] values far = [] ∧
      typeCheck [char] values last = .error (.typeMismatch 0 char none) ∧
      feedEach Standard.hashing [char, char, char] values far
        = feedEach Standard.hashing [char] values 0 ∧
      feedEachBy halt Standard.hashing [char, char, char] values far = none ∧
      collateEach Standard.collation [char, char, char] values other far = .lt := by
  intro letter char bool values other far last
  have hvalues : values.length + 1 < UInt64.size := by decide
  have holds (ts : List (Ty Standard)) (offset : UInt64) :=
    offset_leaves_out Standard.hashing Standard.collation ts offset
  obtain ⟨hends, -⟩ := holds [char, bool] 1
  obtain ⟨hcheck, -, -, hmachine⟩ := hends values (within_of_lt hvalues (by decide))
  obtain ⟨hcheckBy, -⟩ := hmachine Option halt steps_halt
  obtain ⟨hends₃, -⟩ := holds [char, char, char] 1
  obtain ⟨-, -, hwrite, -⟩ := hends₃ values (within_of_lt hvalues (by decide))
  obtain ⟨hendsFar, -⟩ := holds [char, bool] far
  obtain ⟨-, hpast, -⟩ := hendsFar values (within_of_lt hvalues (by decide))
  obtain ⟨-, hall, hmachines, -⟩ := holds [char, char] 1
  obtain ⟨hfeed, hcollate⟩ := hall (by decide)
  obtain ⟨hfeedBy, -⟩ := hmachines (by decide) Option halt steps_halt
  obtain ⟨-, hallFar, -⟩ := holds [char, char] far
  obtain ⟨hfeedFar, -⟩ := hallFar (by decide)
  obtain ⟨-, -, -, -, hlast, -⟩ := holds [char] last
  obtain ⟨hzero, -⟩ := hlast char [] values rfl (by decide) (by decide)
  obtain ⟨-, -, -, -, -, hfront, hfront', hfault⟩ := holds [char, char, char] far
  obtain ⟨hnone, -⟩ := hfault (by decide)
  have hchecked : typeCheck [char, bool] values 1
      = .error (.typeMismatch 3 bool (some char)) := hcheck.trans rfl
  refine ⟨hchecked, hcheckBy.trans (congrArg some hchecked), ?_, hpast char [bool] rfl (by decide),
    (hfeedBy values).trans (congrArg some (hfeed values)), ?_, (hfeedFar values).trans rfl, hzero,
    (hfront values).trans rfl, hnone values, ?_⟩
  · exact (hwrite _ _ Standard.codec).1.trans rfl
  · exact (hcollate values other).1.trans (by decide +kernel)
  · exact (hfront' values other).trans (by decide +kernel)

/-- **Where it is not so.**  Three numbers are looked for from the offset before the last one on, and
none is there.  Yet a hash is given the first value, and it is compared. -/
theorem last_offsets_look_at_front :
    let one : Value Standard := .leaf (Standard.Kind.integer .i64) ⟨1, by decide, by decide⟩
    let two : Value Standard := .leaf (Standard.Kind.integer .i64) ⟨2, by decide, by decide⟩
    let ts : List (Ty Standard) := [one.ty, one.ty, one.ty]
    let offset : UInt64 := 18446744073709551614
    feedEach Standard.hashing ts [one] offset
        ≠ feedEach Standard.hashing ts ([one].drop offset.toNat) 0 ∧
      collateEach Standard.collation ts [one] [two] offset
        ≠ collateEach Standard.collation ts ([one].drop offset.toNat)
            ([two].drop offset.toNat) 0 := by
  decide +kernel

end Capability

end Polyad
