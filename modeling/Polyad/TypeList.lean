/-
Polyad/TypeList.lean

What becomes of a list of types when a tuple of these types is taken apart or put together.

Every operation is computed on the list of types alone, by recursion on the list and on a
zero-based index; `none` says that the operation has no type there.  A rotation is a repeated
single step, whatever the number of steps.  The lemmas say the same by `take`, `drop` and the
remainder of the number of steps by the length, which is how a store computes.
-/

namespace Polyad.TypeList

variable {α : Type}

/-- The first `n` types and the rest. -/
def splitAt? : Nat → List α → Option (List α × List α)
  | 0, ts => some ([], ts)
  | _ + 1, [] => none
  | n + 1, t :: ts => (splitAt? n ts).map fun (head, tail) => (t :: head, tail)

/-- The type at index `n`. -/
def elementAt? : Nat → List α → Option α
  | _, [] => none
  | 0, t :: _ => some t
  | n + 1, _ :: ts => elementAt? n ts

/-- The types with `v` before index `n`. -/
def insertAt? (v : α) : Nat → List α → Option (List α)
  | 0, ts => some (v :: ts)
  | _ + 1, [] => none
  | n + 1, t :: ts => (insertAt? v n ts).map (t :: ·)

/-- The types but the one at index `n`. -/
def removeAt? : Nat → List α → Option (List α)
  | _, [] => none
  | 0, _ :: ts => some ts
  | n + 1, t :: ts => (removeAt? n ts).map (t :: ·)

/-- The types with `u` for the one at index `n`. -/
def replaceAt? (u : α) : Nat → List α → Option (List α)
  | _, [] => none
  | 0, _ :: ts => some (u :: ts)
  | n + 1, t :: ts => (replaceAt? u n ts).map (t :: ·)

/-- All types but the last, and the last. -/
def unsnoc? : List α → Option (List α × α)
  | [] => none
  | [t] => some ([], t)
  | t :: t' :: ts => (unsnoc? (t' :: ts)).map fun (init, last) => (t :: init, last)

/-- The first type moved to the end. -/
def rotateLeftOnce : List α → List α
  | [] => []
  | t :: ts => ts ++ [t]

/-- The last type moved to the front. -/
def rotateRightOnce (ts : List α) : List α :=
  match unsnoc? ts with
  | none => []
  | some (init, last) => last :: init

/-- So many single steps to the left. -/
def rotateLeft : Nat → List α → List α
  | 0, ts => ts
  | n + 1, ts => rotateLeft n (rotateLeftOnce ts)

/-- So many single steps to the right. -/
def rotateRight : Nat → List α → List α
  | 0, ts => ts
  | n + 1, ts => rotateRight n (rotateRightOnce ts)

/-! ### The operations by `take` and `drop` -/

theorem splitAt?_eq_some_iff {n : Nat} {ts head tail : List α} :
    splitAt? n ts = some (head, tail) ↔
      n ≤ ts.length ∧ head = ts.take n ∧ tail = ts.drop n := by
  induction n generalizing ts head tail with
  | zero => simp [splitAt?, eq_comm]
  | succ n ih =>
    cases ts with
    | nil => simp [splitAt?]
    | cons t ts =>
      simp only [splitAt?, Option.map_eq_some_iff, Prod.exists, Prod.mk.injEq, ih,
        List.length_cons, Nat.add_le_add_iff_right, List.take_succ_cons, List.drop_succ_cons]
      constructor
      · rintro ⟨_, _, ⟨h, rfl, rfl⟩, rfl, rfl⟩
        exact ⟨h, rfl, rfl⟩
      · rintro ⟨h, rfl, rfl⟩
        exact ⟨_, _, ⟨h, rfl, rfl⟩, rfl, rfl⟩

theorem elementAt?_eq_getElem? (n : Nat) (ts : List α) : elementAt? n ts = ts[n]? := by
  induction ts generalizing n with
  | nil => simp [elementAt?]
  | cons t ts ih => cases n <;> simp [elementAt?, ih]

theorem insertAt?_eq_some_iff {v : α} {n : Nat} {ts us : List α} :
    insertAt? v n ts = some us ↔ n ≤ ts.length ∧ us = ts.take n ++ v :: ts.drop n := by
  induction n generalizing ts us with
  | zero => simp [insertAt?, eq_comm]
  | succ n ih =>
    cases ts with
    | nil => simp [insertAt?]
    | cons t ts =>
      simp only [insertAt?, Option.map_eq_some_iff, ih, List.length_cons,
        Nat.add_le_add_iff_right, List.take_succ_cons, List.drop_succ_cons, List.cons_append]
      constructor
      · rintro ⟨_, ⟨h, rfl⟩, rfl⟩
        exact ⟨h, rfl⟩
      · rintro ⟨h, rfl⟩
        exact ⟨_, ⟨h, rfl⟩, rfl⟩

theorem removeAt?_eq_some_iff {n : Nat} {ts us : List α} :
    removeAt? n ts = some us ↔ n < ts.length ∧ us = ts.eraseIdx n := by
  induction ts generalizing n us with
  | nil => simp [removeAt?]
  | cons t ts ih =>
    cases n with
    | zero => simp [removeAt?, eq_comm]
    | succ n =>
      simp only [removeAt?, Option.map_eq_some_iff, ih, List.length_cons,
        Nat.add_lt_add_iff_right, List.eraseIdx_cons_succ]
      constructor
      · rintro ⟨_, ⟨h, rfl⟩, rfl⟩
        exact ⟨h, rfl⟩
      · rintro ⟨h, rfl⟩
        exact ⟨_, ⟨h, rfl⟩, rfl⟩

theorem replaceAt?_eq_some_iff {u : α} {n : Nat} {ts us : List α} :
    replaceAt? u n ts = some us ↔ n < ts.length ∧ us = ts.set n u := by
  induction ts generalizing n us with
  | nil => simp [replaceAt?]
  | cons t ts ih =>
    cases n with
    | zero => simp [replaceAt?, eq_comm]
    | succ n =>
      simp only [replaceAt?, Option.map_eq_some_iff, ih, List.length_cons,
        Nat.add_lt_add_iff_right, List.set_cons_succ]
      constructor
      · rintro ⟨_, ⟨h, rfl⟩, rfl⟩
        exact ⟨h, rfl⟩
      · rintro ⟨h, rfl⟩
        exact ⟨_, ⟨h, rfl⟩, rfl⟩

theorem unsnoc?_append (ts : List α) (t : α) : unsnoc? (ts ++ [t]) = some (ts, t) := by
  induction ts with
  | nil => rfl
  | cons s ts ih =>
    cases h : ts ++ [t] with
    | nil => simp at h
    | cons r rs =>
      rw [h] at ih
      simp [List.cons_append, h, unsnoc?, ih]

/-! ### Rotations by the remainder -/

/-- The remainder of the next number. -/
theorem succ_mod {d : Nat} (hd : 0 < d) (n : Nat) :
    (n + 1) % d = if n % d + 1 = d then 0 else n % d + 1 := by
  have hlt := Nat.mod_lt n hd
  conv => lhs; rw [← Nat.div_add_mod n d, Nat.add_assoc, Nat.mul_add_mod]
  split
  · rename_i h
    rw [h, Nat.mod_self]
  · exact Nat.mod_eq_of_lt (by omega)

/-- A step to the right undoes a step to the left. -/
theorem rotateRightOnce_rotateLeftOnce (ts : List α) :
    rotateRightOnce (rotateLeftOnce ts) = ts := by
  cases ts with
  | nil => rfl
  | cons t ts => simp [rotateLeftOnce, rotateRightOnce, unsnoc?_append]

@[simp]
theorem length_rotateLeftOnce (ts : List α) : (rotateLeftOnce ts).length = ts.length := by
  cases ts <;> simp [rotateLeftOnce]

/-- Many steps to the left at once. -/
theorem rotateLeft_eq (n : Nat) (ts : List α) :
    rotateLeft n ts = ts.drop (n % ts.length) ++ ts.take (n % ts.length) := by
  induction n generalizing ts with
  | zero => simp [rotateLeft]
  | succ n ih =>
    cases ts with
    | nil => simp [rotateLeft, rotateLeftOnce, ih]
    | cons t ts =>
      rw [rotateLeft, ih, length_rotateLeftOnce]
      have hlt : n % (t :: ts).length < (t :: ts).length := Nat.mod_lt _ (by simp)
      rw [succ_mod (by simp)]
      generalize n % (t :: ts).length = k at *
      simp only [List.length_cons] at hlt ⊢
      split
      · have hk : k = ts.length := by omega
        simp [rotateLeftOnce, hk]
      · have hk : k ≤ ts.length := by omega
        simp [rotateLeftOnce, List.drop_append_of_le_length hk, List.take_append_of_le_length hk]

theorem rotateLeft_add (m n : Nat) (ts : List α) :
    rotateLeft (m + n) ts = rotateLeft n (rotateLeft m ts) := by
  induction m generalizing ts with
  | zero => simp [rotateLeft]
  | succ m ih => rw [Nat.succ_add, rotateLeft, rotateLeft, ih]

@[simp]
theorem length_rotateLeft (n : Nat) (ts : List α) : (rotateLeft n ts).length = ts.length := by
  induction n generalizing ts with
  | zero => rfl
  | succ n ih => simp [rotateLeft, ih]

/-- Equal remainders give equal rotations. -/
theorem rotateLeft_congr {m n : Nat} {ts : List α} (h : m % ts.length = n % ts.length) :
    rotateLeft m ts = rotateLeft n ts := by
  rw [rotateLeft_eq, rotateLeft_eq, h]

/-- A step to the right is as many steps to the left as bring a list back, less one. -/
theorem rotateRightOnce_eq (ts : List α) :
    rotateRightOnce ts = rotateLeft (ts.length - 1) ts := by
  cases ts with
  | nil => rfl
  | cons t ts =>
    have h : rotateLeft (ts.length + 1) (t :: ts) = t :: ts := by
      rw [rotateLeft_eq]; simp
    conv => lhs; rw [← h]
    rw [rotateLeft_add]
    simp only [rotateLeft, rotateRightOnce_rotateLeftOnce, List.length_cons, Nat.add_sub_cancel]

/-- Many steps to the right as steps to the left. -/
theorem rotateRight_eq (n : Nat) (ts : List α) :
    rotateRight n ts = rotateLeft (ts.length - n % ts.length) ts := by
  induction n generalizing ts with
  | zero => simp [rotateRight, rotateLeft_eq]
  | succ n ih =>
    rw [rotateRight, ih, rotateRightOnce_eq, length_rotateLeft, ← rotateLeft_add]
    apply rotateLeft_congr
    cases ts with
    | nil => simp
    | cons t ts =>
      simp only [List.length_cons, Nat.add_sub_cancel]
      generalize ts.length = d
      have hd : 0 < d + 1 := by omega
      have hlt := Nat.mod_lt n hd
      rw [succ_mod hd]
      split
      · rename_i h
        have : d + (d + 1 - n % (d + 1)) = d + 1 - 0 := by omega
        rw [this]
      · have : d + (d + 1 - n % (d + 1)) = (d + 1 - (n % (d + 1) + 1)) + (d + 1) := by omega
        rw [this, Nat.add_mod_right]

end Polyad.TypeList
