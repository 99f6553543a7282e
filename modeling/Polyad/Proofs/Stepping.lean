/-
Polyad/Proofs/Stepping.lean

Walks down a list of types, as a machine takes them.

From each value the walk steps to the next offset.  An offset is a machine word, and at the last one
machines differ: one starts over at the first offset, another faults.  So the step is left to the
machine (`Steps`), and with it whatever else the machine may do.  The walks are those of `Capability`,
with a step wherever those go to the next offset.

Idea.  A walk takes no step from the last offset if it has few enough types, or, where it ends at the
first value that is missing, if there are few enough values (`Within`).  Behind the next value the
same is true of the rest of the walk, so the induction is on the types; every step is the same on all
machines, and the walk answers what the one of `Capability` does (`typeCheckBy_eq`, `feedEachBy_eq`,
`collateEachBy_eq`).  A walk that gets to the last offset faults where the machine does
(`feedEachBy_halt_of_le`, `collateEachBy_halt_eq_none_iff`).

`encodeEach` answers with all items at once.  A walk that hands over value by value also shows what
was handed over before a refusal (`handOverBy`), and `encodeEach` is the case in which the items are
put down in a list (`encodeEach_eq_written`).
-/
import Polyad.Capability

namespace Polyad.Capability

variable {U : Universe} {n : Nat} {t : Ty U} {ts : List (Ty U)}
variable {values left right : List (Value U)} {offset : UInt64}

/-! ### The first type and the others -/

theorem feedEach_cons (h : Hashing U) (t : Ty U) (ts : List (Ty U)) :
    feedEach h (t :: ts) values offset
      = feedEach h [t] values offset ++ feedEach h ts values (offset + 1) := by
  simp only [feedEach, List.append_nil]

theorem collateEach_cons (c : Collation U) (t : Ty U) (ts : List (Ty U)) :
    collateEach c (t :: ts) left right offset
      = (collateEach c [t] left right offset).then
          (collateEach c ts left right (offset + 1)) := by
  simp only [collateEach, Ordering.then_eq]

/-! ### Walks of a machine -/

section Machine

variable {μ : Type → Type} [Monad μ]

/-- A machine steps from an offset to the next one.  What it does at the last one is left open. -/
def Steps (next : UInt64 → μ UInt64) : Prop :=
  ∀ offset : UInt64, offset.toNat + 1 < UInt64.size → next offset = pure (offset + 1)

/-- Behind the last offset comes the first one. -/
def startOver (offset : UInt64) : μ UInt64 := pure (offset + 1)

/-- Behind the last offset comes a fault. -/
def halt (offset : UInt64) : Option UInt64 :=
  if offset.toNat + 1 < UInt64.size then some (offset + 1) else none

theorem steps_startOver : Steps (startOver (μ := μ)) := fun _ _ => rfl

theorem steps_halt : Steps halt := fun _ h => if_pos h

variable (next : UInt64 → μ UInt64)

/-- `typeCheck` on a machine.  The position that an error names is the next offset. -/
def typeCheckBy :
    List (Ty U) → (values : List (Value U)) → (offset : UInt64) → μ (Except (Error U) Unit)
  | [], _, _ => pure (.ok ())
  | t :: ts, values, offset => do
    let following ← next offset
    match values[offset.toNat]? with
    | some v =>
      if v.ty = t then typeCheckBy ts values following
      else pure (.error (.typeMismatch following.toNat t (some v.ty)))
    | none => pure (.error (.typeMismatch following.toNat t none))

/-- `feedEach` on a machine. -/
def feedEachBy (h : Hashing U) :
    List (Ty U) → (values : List (Value U)) → (offset : UInt64) → μ (List (Write U))
  | [], _, _ => pure []
  | t :: ts, values, offset => do
    let following ← next offset
    let rest ← feedEachBy h ts values following
    pure (feedEach h [t] values offset ++ rest)

/-- `collateEach` on a machine, which steps on only from a pair that is equal. -/
def collateEachBy (c : Collation U) :
    List (Ty U) → (left right : List (Value U)) → (offset : UInt64) → μ Ordering
  | [], _, _, _ => pure .eq
  | t :: ts, left, right, offset =>
    match collateEach c [t] left right offset with
    | .eq => do
      let following ← next offset
      collateEachBy c ts left right following
    | decided => pure decided

/-- Hands over the values one by one, until one does not fit and is refused.  The one who takes them
may refuse as well. -/
def handOverBy (take : Value U → μ Unit) (refuse : Error U → μ Unit) :
    List (Ty U) → (values : List (Value U)) → (offset : UInt64) → μ Unit
  | [], _, _ => pure ()
  | t :: ts, values, offset =>
    match typedAt t values offset with
    | some v => do
      take v
      let following ← next offset
      handOverBy take refuse ts values following
    | none => do
      let following ← next offset
      refuse (.missingElement following.toNat t)

end Machine

/-! ### How far offsets reach -/

theorem toNat_succ_add (hstep : offset.toNat + 1 < UInt64.size) :
    (offset + 1).toNat + n = offset.toNat + (n + 1) := by
  rw [toNat_succ hstep, Nat.add_assoc, Nat.add_comm 1]

theorem step_or_last (offset : UInt64) :
    offset.toNat + 1 < UInt64.size ∨ offset.toNat + 1 = UInt64.size :=
  Nat.lt_or_eq_of_le offset.toNat_lt

/-- No step from the last offset is taken by a walk that begins at `offset`, takes `n` steps at most
and ends where the values end. -/
def Within (n : Nat) (values : List (Value U)) (offset : UInt64) : Prop :=
  offset.toNat + n < UInt64.size ∨ max offset.toNat values.length + 1 < UInt64.size

theorem Within.step (h : Within (n + 1) values offset) : offset.toNat + 1 < UInt64.size := by
  rcases h with h | h <;> omega

theorem Within.next (h : Within (n + 1) values offset) (hlt : offset.toNat < values.length) :
    Within n values (offset + 1) := by
  have hstep : (offset + 1).toNat = offset.toNat + 1 := toNat_succ h.step
  rcases h with h | h
  · exact .inl (by omega)
  · exact .inr (by omega)

/-- In a list as long as a list of values can be, every offset but the last one will do. -/
theorem within_of_lt (hvalues : values.length + 1 < UInt64.size)
    (hstep : offset.toNat + 1 < UInt64.size) : Within n values offset :=
  .inr (by omega)

theorem typedAt_of_le (h : values.length ≤ offset.toNat) : typedAt t values offset = none := by
  unfold typedAt
  rw [List.getElem?_eq_none h]

theorem lt_length_of_typedAt {v : Value U} (h : typedAt t values offset = some v) :
    offset.toNat < values.length := by
  refine Nat.lt_of_not_le fun hle => ?_
  rw [typedAt_of_le hle] at h
  exact absurd h (by simp)

/-! ### No fault -/

section Lawful

variable {μ : Type → Type} [Monad μ] [LawfulMonad μ] {next : UInt64 → μ UInt64}

theorem typeCheckBy_eq (hnext : Steps next) (hreach : Within ts.length values offset) :
    typeCheckBy next ts values offset = pure (typeCheck ts values offset) := by
  induction ts generalizing offset with
  | nil => rfl
  | cons t ts ih =>
    simp only [typeCheckBy, typeCheck, hnext offset hreach.step, pure_bind]
    cases hv : values[offset.toNat]? with
    | none => rfl
    | some v =>
      have hrest := ih (hreach.next (List.getElem?_eq_some_iff.mp hv).1)
      by_cases hty : v.ty = t
      · simp only [if_pos hty, hrest]
      · simp only [if_neg hty]

theorem feedEachBy_eq (hnext : Steps next) (h : Hashing U)
    (hreach : offset.toNat + ts.length < UInt64.size) :
    feedEachBy next h ts values offset = pure (feedEach h ts values offset) := by
  induction ts generalizing offset with
  | nil => rfl
  | cons t ts ih =>
    rw [List.length_cons] at hreach
    have hstep : offset.toNat + 1 < UInt64.size := by omega
    rw [← toNat_succ_add hstep] at hreach
    unfold feedEachBy
    rw [hnext offset hstep, pure_bind, ih hreach, pure_bind, ← feedEach_cons]

theorem collateEachBy_eq (hnext : Steps next) (c : Collation U)
    (hreach : offset.toNat + ts.length < UInt64.size) :
    collateEachBy next c ts left right offset = pure (collateEach c ts left right offset) := by
  induction ts generalizing offset with
  | nil => rfl
  | cons t ts ih =>
    rw [List.length_cons] at hreach
    have hstep : offset.toNat + 1 < UInt64.size := by omega
    rw [← toNat_succ_add hstep] at hreach
    unfold collateEachBy
    rw [hnext offset hstep, pure_bind, ih hreach, collateEach_cons c t ts]
    cases collateEach c [t] left right offset <;> rfl

end Lawful

/-! ### Faults -/

/-- How many offsets there are from this one on. -/
def remaining (offset : UInt64) : Nat := UInt64.size - offset.toNat

theorem add_remaining (offset : UInt64) : offset.toNat + remaining offset = UInt64.size :=
  Nat.add_sub_of_le (Nat.le_of_lt offset.toNat_lt)

theorem remaining_succ (hstep : offset.toNat + 1 < UInt64.size) :
    remaining (offset + 1) = remaining offset - 1 := by
  unfold remaining
  rw [toNat_succ hstep, Nat.sub_sub]

theorem halt_last (hlast : offset.toNat + 1 = UInt64.size) : halt offset = none :=
  if_neg (Nat.not_lt_of_ge (Nat.le_of_eq hlast.symm))

theorem typeCheckBy_halt_last (hlast : offset.toNat + 1 = UInt64.size) :
    typeCheckBy halt (t :: ts) values offset = none := by
  unfold typeCheckBy
  rw [halt_last hlast]
  rfl

theorem feedEachBy_halt_of_le (h : Hashing U) (hle : UInt64.size ≤ offset.toNat + ts.length) :
    feedEachBy halt h ts values offset = none := by
  induction ts generalizing offset with
  | nil => exact absurd hle (Nat.not_le_of_lt offset.toNat_lt)
  | cons t ts ih =>
    rw [List.length_cons] at hle
    unfold feedEachBy
    rcases step_or_last offset with hstep | hlast
    · rw [← toNat_succ_add hstep] at hle
      rw [steps_halt offset hstep, pure_bind, ih hle]
      rfl
    · rw [halt_last hlast]
      rfl

/-- A comparison that is decided before does not step on from the last offset. -/
theorem collateEachBy_halt_eq_none_iff (c : Collation U)
    (hle : UInt64.size ≤ offset.toNat + ts.length) :
    collateEachBy halt c ts left right offset = none ↔
      collateEach c (ts.take (remaining offset)) left right offset = .eq := by
  induction ts generalizing offset with
  | nil => exact absurd hle (Nat.not_le_of_lt offset.toNat_lt)
  | cons t ts ih =>
    rw [List.length_cons] at hle
    have htake : (t :: ts).take (remaining offset) = t :: ts.take (remaining offset - 1) :=
      List.take_cons (Nat.sub_pos_of_lt offset.toNat_lt)
    rw [htake, collateEach_cons]
    unfold collateEachBy
    -- only from a pair that is equal there is a step
    cases collateEach c [t] left right offset with
    | lt => exact ⟨fun h => absurd h (by simp), fun h => absurd h (by simp)⟩
    | gt => exact ⟨fun h => absurd h (by simp), fun h => absurd h (by simp)⟩
    | eq =>
      show (halt offset).bind _ = _ ↔ _
      rcases step_or_last offset with hstep | hlast
      · rw [← toNat_succ_add hstep] at hle
        rw [steps_halt offset hstep, ← remaining_succ hstep]
        exact ih hle
      · have hzero : remaining offset - 1 = 0 := by
          have := add_remaining offset
          omega
        rw [halt_last hlast, hzero]
        exact ⟨fun _ => rfl, fun _ => rfl⟩

/-! ### Writing is handing over -/

section Writing

variable {δ ε : Type}

/-- Puts the item of a value behind the items before it. -/
def putDown (c : Codec U δ ε) (v : Value U) : ExceptT (Error U) (StateM (List δ)) Unit :=
  modify (· ++ [c.encode v])

/-- The items that are put down, unless something is refused. -/
def written (walk : ExceptT (Error U) (StateM (List δ)) Unit) (items : List δ) :
    Except (Error U) (List δ) :=
  (walk.run.run items).1.map fun _ => (walk.run.run items).2

theorem written_handOverBy (c : Codec U δ ε) (f : Error U → Error U) (items : List δ) :
    written (handOverBy startOver (putDown c) (fun e => throw (f e)) ts values offset) items
      = ((encodeEach c ts values offset).map (items ++ ·)).mapError f := by
  induction ts generalizing offset items with
  | nil =>
    simp only [encodeEach, Except.map, List.append_nil]
    rfl
  | cons t ts ih =>
    simp only [handOverBy, encodeEach]
    cases typedAt t values offset with
    | none => rfl
    | some v =>
      refine (ih (items ++ [c.encode v])).trans ?_
      cases encodeEach c ts values (offset + 1) with
      | error e => rfl
      | ok rest => exact congrArg Except.ok (List.append_assoc items [c.encode v] rest)

theorem mapError_encodeEach (c : Codec U δ ε) (f : Error U → Error U) :
    (encodeEach c ts values offset).mapError f
      = written (handOverBy startOver (putDown c) (fun e => throw (f e)) ts values offset) [] := by
  rw [written_handOverBy]
  cases encodeEach c ts values offset <;> rfl

/-- **Writing is handing over**, to one who puts down an item for each value. -/
theorem encodeEach_eq_written (c : Codec U δ ε) :
    encodeEach c ts values offset
      = written (handOverBy startOver (putDown c) throw ts values offset) [] := by
  refine Eq.trans ?_ (mapError_encodeEach c id)
  cases encodeEach c ts values offset <;> rfl

end Writing

end Polyad.Capability
