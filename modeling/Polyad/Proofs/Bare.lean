/-
Polyad/Proofs/Bare.lean

Bare tuples: lists of values of any length, and the operations on them as a machine performs them.

A tuple carries the bound on its depth, and the operations on tuples are total.  A bare tuple carries
nothing.  Its operations work on machine words and can fault (`none`): where a sum or a difference
is no word, where a slice runs backwards or past the end, and where more than `maxDepth` values are
put together.  A fault is no error; an error is an answer.

Idea.  In front of every primitive stand the checks of the operation, and these are exactly what
keeps the primitive from its fault.  Main statements: on the elements of tuples no operation faults,
and each answers what the operation on tuples answers (`add_toList`, `splice_toList`, …).  So a run of
bare operations is a run of operations on tuples, whatever its length.
-/
import Polyad.Proofs.Outcome

namespace Polyad.Bare

variable {U : Universe}

/-! ### Primitives -/

/-- The sum of two words, unless it runs over. -/
def sum? (m n : Nat) : Option Nat :=
  if m + n < UInt64.size then some (m + n) else none

/-- The difference of two words, unless it falls below zero. -/
def difference? (m n : Nat) : Option Nat :=
  if n ≤ m then some (m - n) else none

/-- The remainder of two words, unless the divisor is zero. -/
def remainder? (m n : Nat) : Option Nat :=
  if n = 0 then none else some (m % n)

/-- The values from the index `start` to just before the index `stop`, unless this runs backwards or
past the end. -/
def slice? (vs : List (Value U)) (start stop : Nat) : Option (List (Value U)) :=
  if start ≤ stop ∧ stop ≤ vs.length then some ((vs.take stop).drop start) else none

/-- Values as those of a new tuple, unless there are too many. -/
def rebuild (vs : List (Value U)) : Option (List (Value U)) :=
  if vs.length ≤ maxDepth then some vs else none

theorem sum?_of_le {m n : Nat} (hm : m ≤ maxDepth) (hn : n ≤ maxDepth) :
    sum? m n = some (m + n) := by
  have hword : maxDepth + maxDepth < UInt64.size := by decide
  exact if_pos (by omega)

theorem difference?_of_le {m n : Nat} (h : n ≤ m) : difference? m n = some (m - n) := if_pos h

theorem remainder?_of_pos {m n : Nat} (h : 0 < n) : remainder? m n = some (m % n) :=
  if_neg (by omega)

theorem slice?_of_le {vs : List (Value U)} {start stop : Nat} (h₁ : start ≤ stop)
    (h₂ : stop ≤ vs.length) : slice? vs start stop = some ((vs.take stop).drop start) :=
  if_pos ⟨h₁, h₂⟩

theorem rebuild_of_le {vs : List (Value U)} (h : vs.length ≤ maxDepth) : rebuild vs = some vs :=
  if_pos h

/-- The values of a store are few enough. -/
theorem rebuild_values (s : Store U) : rebuild s.values = some s.values :=
  rebuild_of_le s.length_le

/-! ### Taking apart and putting together -/

def concat (s t : List (Value U)) : Option (List (Value U)) := rebuild (s ++ t)

def part (s : List (Value U)) (start stop : Nat) : Option (List (Value U)) :=
  (slice? s start stop).bind rebuild

def insert (s : List (Value U)) (index : Nat) (v : Value U) : Option (List (Value U)) := do
  let head ← slice? s 0 index
  let tail ← slice? s index s.length
  rebuild (head ++ v :: tail)

def without (s : List (Value U)) (index : Nat) : Option (List (Value U)) :=
  rebuild ((s.zipIdx.filter (·.2 != index)).map (·.1))

/-- Values in which the one at `index` gives way to the pending one, which is there only once. -/
def substitute (index : Nat) : Option (Value U) → List (Value U × Nat) → List (Value U)
  | _, [] => []
  | pending, (w, i) :: rest =>
    if i = index then pending.getD w :: substitute index none rest
    else w :: substitute index pending rest

def replace (s : List (Value U)) (index : Nat) (v : Value U) : Option (List (Value U)) :=
  rebuild (substitute index (some v) s.zipIdx)

def rotateLeft (s : List (Value U)) (n : Nat) : Option (List (Value U)) :=
  if s.length = 0 then some s
  else do
    let k ← remainder? n s.length
    let back ← slice? s k s.length
    let front ← slice? s 0 k
    rebuild (back ++ front)

def rotateRight (s : List (Value U)) (n : Nat) : Option (List (Value U)) :=
  if s.length = 0 then some s
  else do
    let k ← remainder? n s.length
    let m ← difference? s.length k
    rotateLeft s m

/-! On the values of a store each of these gives the values of the store's own operation. -/

section Values

variable (s : Store U)

theorem concat_values (t : Store U) (h : s.depth + t.depth ≤ maxDepth) :
    concat s.values t.values = some (s.concat t h).values :=
  rebuild_values (s.concat t h)

theorem part_values {start stop : Nat} (h₁ : start ≤ stop) (h₂ : stop ≤ s.depth) :
    part s.values start stop = some (s.slice start stop).values := by
  unfold part
  rw [slice?_of_le h₁ h₂]
  exact rebuild_values (s.slice start stop)

theorem insert_values {index : Nat} (v : Value U) (hindex : index ≤ s.values.length)
    (h : s.depth < maxDepth) :
    insert s.values index v = some (s.insert index v h).values := by
  unfold insert
  rw [slice?_of_le (Nat.zero_le _) hindex, slice?_of_le hindex (Nat.le_refl _), List.take_length]
  exact rebuild_values (s.insert index v h)

theorem without_values (index : Nat) : without s.values index = some (s.without index).values :=
  rebuild_values (s.without index)

theorem substitute_none (index : Nat) (vs : List (Value U)) (k : Nat) :
    substitute index none (vs.zipIdx k) = vs := by
  induction vs generalizing k with
  | nil => rfl
  | cons v vs ih =>
    rw [List.zipIdx_cons, substitute, Option.getD_none, ih, ite_self]

/-- The index comes up once, so the pending value is put down once. -/
theorem substitute_some (index : Nat) (v : Value U) (vs : List (Value U)) (k : Nat) :
    substitute (index + k) (some v) (vs.zipIdx k) = vs.set index v := by
  induction vs generalizing k index with
  | nil => rfl
  | cons w vs ih =>
    rw [List.zipIdx_cons, substitute]
    -- from the index on nothing is pending, before it the first value stays
    cases index with
    | zero => rw [if_pos (Nat.zero_add k).symm, substitute_none]; rfl
    | succ index =>
      rw [if_neg (by omega), Nat.succ_add_eq_add_succ, ih]
      rfl

theorem replace_values (index : Nat) (v : Value U) :
    replace s.values index v = some (s.replace index v).values := by
  have hset : substitute index (some v) s.values.zipIdx = (s.replace index v).values := by
    rw [Store.values_replace]
    exact substitute_some index v s.values 0
  unfold replace
  rw [hset]
  exact rebuild_values (s.replace index v)

/-- A store without elements is its own rotation. -/
theorem rotateLeft_of_empty {s : Store U} (h : s.values.length = 0) (n : Nat) :
    s.rotateLeft n = s := by
  refine Store.ext ?_
  rw [Store.values_rotateLeft, List.eq_nil_of_length_eq_zero h, List.drop_nil, List.take_nil,
    List.append_nil]

theorem rotateLeft_values (n : Nat) : rotateLeft s.values n = some (s.rotateLeft n).values := by
  unfold rotateLeft
  by_cases h₀ : s.values.length = 0
  · rw [if_pos h₀, rotateLeft_of_empty h₀]
  · have hpos : 0 < s.values.length := Nat.pos_of_ne_zero h₀
    have hlt : n % s.values.length ≤ s.values.length := Nat.le_of_lt (Nat.mod_lt n hpos)
    rw [if_neg h₀, remainder?_of_pos hpos]
    show (slice? s.values (n % s.values.length) s.values.length).bind _ = _
    rw [slice?_of_le hlt (Nat.le_refl _), slice?_of_le (Nat.zero_le _) hlt, List.take_length]
    exact rebuild_values (s.rotateLeft n)

theorem rotateRight_values (n : Nat) :
    rotateRight s.values n = some (s.rotateRight n).values := by
  unfold rotateRight
  by_cases h₀ : s.values.length = 0
  · rw [if_pos h₀]
    exact congrArg (fun r => some (Store.values r)) (rotateLeft_of_empty h₀ _).symm
  · have hpos : 0 < s.values.length := Nat.pos_of_ne_zero h₀
    rw [if_neg h₀, remainder?_of_pos hpos]
    show (difference? s.values.length (n % s.values.length)).bind _ = _
    rw [difference?_of_le (Nat.le_of_lt (Nat.mod_lt n hpos))]
    exact rotateLeft_values s _

end Values

/-! ### Building from a source -/

/-- The values of a source, of which one past the greatest depth is drawn at most. -/
def ofSource (source : Source (Value U)) : Except (Error U) (List (Value U)) :=
  let items := (source.draw (maxDepth + 1)).1
  if maxDepth < items.length then .error (.overflow items.length) else .ok items

/-- So many values of a source after the first `offset`, unless it runs dry. -/
def assemble (source : Source (Value U)) (offset depth : Nat) :
    Except (Error U) (Option (List (Value U))) :=
  if maxDepth < depth then .error (.overflow depth)
  else
    let taken := ((source.skip offset).2.draw depth).1
    .ok (if taken.length < depth then none else some taken)

theorem ofSource_eq (source : Source (Value U)) :
    ofSource source = (Tuple.ofSource source).1.map Tuple.toList := by
  unfold ofSource Tuple.ofSource Store.ofSource
  by_cases h : (source.draw (maxDepth + 1)).1.length ≤ maxDepth
  · simp only [dif_pos h, if_neg (Nat.not_lt_of_le h)]
    rfl
  · simp only [dif_neg h, if_pos (Nat.lt_of_not_le h)]
    rfl

theorem assemble_eq (source : Source (Value U)) (offset depth : Nat) :
    assemble source offset depth
      = (Tuple.assemble source offset depth).1.map (Option.map Tuple.toList) := by
  unfold assemble Tuple.assemble Store.assemble
  by_cases h : maxDepth < depth
  · simp only [if_pos h, dif_pos h]
    rfl
  · simp only [if_neg h, dif_neg h]
    by_cases h₀ : depth = 0
    · -- nothing is to be kept, so what is skipped does not matter
      subst h₀
      rfl
    · simp only [if_neg h₀]
      split <;> rfl

/-! ### Operations on tuples

A refusal is an answer, and the first one ends the operation. -/

/-- The empty tuple is refused, and then a position outside of the range. -/
def guarded {α : Type} (t : List (Value U)) (operation : Operation) (outside : Prop)
    [Decidable outside] (p : Nat) (rest : Option (Except (Error U) α)) :
    Option (Except (Error U) α) :=
  if t.length = 0 then some (.error (.unsupportedOnEmpty operation))
  else if outside then some (.error (.invalidPosition p t.length))
  else rest

def get (t : List (Value U)) (index : Nat) : Except (Error U) (Value U) :=
  match t[index]? with
  | some v => .ok v
  | none => .error (.indexOutOfRange index t.length)

def value (t : List (Value U)) (p : Nat) : Option (Except (Error U) (Value U)) :=
  if p = 0 ∨ t.length < p then some (.error (.invalidPosition p t.length))
  else (difference? p 1).map (get t)

def join (t u : List (Value U)) : Option (Except (Error U) (List (Value U))) :=
  (sum? t.length u.length).bind fun depth =>
    if maxDepth < depth then some (.error (.overflow depth)) else (concat t u).map .ok

def add (t : List (Value U)) (p : Nat) (v : Value U) :
    Option (Except (Error U) (List (Value U))) :=
  guarded t .add (p = 0 ∨ t.length < p) p
    (if t.length = maxDepth then some (.error (.overflow (maxDepth + 1)))
    else do
      let index ← difference? p 1
      (insert t index v).map .ok)

def splice (t : List (Value U)) (p : Nat) :
    Option (Except (Error U) (List (Value U) × List (Value U))) :=
  guarded t .splice (p = 0 ∨ t.length ≤ p) p do
    let index ← difference? p 1
    let head ← part t 0 index
    let tail ← part t index t.length
    some (.ok (head, tail))

def truncate (t : List (Value U)) (p : Nat) : Option (Except (Error U) (List (Value U))) :=
  guarded t .truncate (p = 0 ∨ t.length < p) p do
    let index ← difference? p 1
    (part t 0 index).map .ok

def hop (t : List (Value U)) (p : Nat) : Option (Except (Error U) (List (Value U))) :=
  guarded t .hop (p = 0 ∨ t.length < p) p do
    let index ← difference? p 1
    (part t index t.length).map .ok

def remove (t : List (Value U)) (p : Nat) : Option (Except (Error U) (List (Value U))) :=
  guarded t .remove (p = 0 ∨ t.length < p) p do
    let index ← difference? p 1
    (without t index).map .ok

def transform (t : List (Value U)) (p : Nat) (f : Value U → Value U) :
    Option (Except (Error U) (List (Value U))) :=
  if t.length = 0 then some (.error (.unsupportedOnEmpty .transform))
  else (value t p).bind fun
    | .error e => some (.error e)
    | .ok v => ((difference? p 1).bind fun index => replace t index (f v)).map .ok

/-! ### On the elements of tuples -/

section Elements

variable (t : Tuple U) (p : Nat)

/-- Where the part behind the checks does not fault, both checks are those of tuples. -/
theorem guarded_toList {α β : Type} {operation : Operation} {outside : Prop} [Decidable outside]
    {rest : Option (Except (Error U) β)} {result : Except (Error U) α} {f : α → β}
    (hrest : ¬t.depth = 0 → ¬outside → rest = some (result.map f)) :
    guarded t.toList operation outside p rest
      = some (Except.map f
          (if t.depth = 0 then .error (.unsupportedOnEmpty operation)
            else if outside then .error (.invalidPosition p t.depth)
            else result)) := by
  unfold guarded
  rw [Tuple.length_toList]
  by_cases h₀ : t.depth = 0
  · rw [if_pos h₀, if_pos h₀]
    rfl
  · rw [if_neg h₀, if_neg h₀]
    by_cases hp : outside
    · rw [if_pos hp, if_pos hp]
      rfl
    · rw [if_neg hp, if_neg hp]
      exact hrest h₀ hp

theorem get_toList (index : Nat) : get t.toList index = t.elements.get index := rfl

theorem value_toList : value t.toList p = some (t.value p) := by
  unfold value
  rw [Tuple.value_eq, Tuple.length_toList]
  by_cases hp : p = 0 ∨ t.depth < p
  · rw [if_pos hp, dif_pos hp]
  · rw [if_neg hp, dif_neg hp, difference?_of_le (by omega)]
    exact congrArg some (Store.get_of_lt _)

theorem join_toList (u : Tuple U) :
    join t.toList u.toList = some ((t.join u).map Tuple.toList) := by
  unfold join
  rw [Tuple.length_toList, Tuple.length_toList, sum?_of_le t.depth_le u.depth_le, Tuple.join_eq]
  show (if maxDepth < t.depth + u.depth then _ else _) = _
  by_cases h : t.depth + u.depth ≤ maxDepth
  · rw [dif_pos h, if_neg (by omega)]
    exact congrArg (Option.map Except.ok) (concat_values t.elements u.elements h)
  · rw [dif_neg h, if_pos (by omega)]
    rfl

theorem add_toList (v : Value U) : add t.toList p v = some ((t.add p v).map Tuple.toList) := by
  rw [Tuple.add_eq]
  refine guarded_toList t p fun h₀ hp => ?_
  rw [Tuple.length_toList] at hp ⊢
  by_cases h : t.depth < maxDepth
  · rw [dif_pos h, if_neg (Nat.ne_of_lt h), difference?_of_le (by omega)]
    have hindex : p - 1 ≤ t.elements.values.length := show p - 1 ≤ t.depth by omega
    exact congrArg (Option.map Except.ok) (insert_values t.elements v hindex h)
  · rw [dif_neg h, if_pos (Nat.le_antisymm t.depth_le (Nat.le_of_not_lt h))]
    rfl

theorem splice_toList :
    splice t.toList p = some ((t.splice p).map fun (a, b) => (a.toList, b.toList)) := by
  rw [Tuple.splice_eq]
  refine guarded_toList t p fun h₀ hp => ?_
  rw [Tuple.length_toList] at hp ⊢
  have hindex : p - 1 ≤ t.elements.depth := show p - 1 ≤ t.depth by omega
  rw [difference?_of_le (by omega)]
  -- the two parts one after the other, each of which could fault
  show (part t.elements.values 0 (p - 1)).bind _ = _
  rw [part_values t.elements (Nat.zero_le _) hindex]
  show (part t.elements.values (p - 1) t.elements.depth).bind _ = _
  rw [part_values t.elements hindex (Nat.le_refl _)]
  rfl

theorem truncate_toList : truncate t.toList p = some ((t.truncate p).map Tuple.toList) := by
  rw [Tuple.truncate_eq]
  refine guarded_toList t p fun h₀ hp => ?_
  rw [Tuple.length_toList] at hp
  rw [difference?_of_le (by omega)]
  exact congrArg (Option.map Except.ok)
    (part_values t.elements (Nat.zero_le _) (show p - 1 ≤ t.depth by omega))

theorem hop_toList : hop t.toList p = some ((t.hop p).map Tuple.toList) := by
  rw [Tuple.hop_eq]
  refine guarded_toList t p fun h₀ hp => ?_
  rw [Tuple.length_toList] at hp
  rw [difference?_of_le (by omega)]
  exact congrArg (Option.map Except.ok)
    (part_values t.elements (show p - 1 ≤ t.depth by omega) (Nat.le_refl _))

theorem remove_toList : remove t.toList p = some ((t.remove p).map Tuple.toList) := by
  rw [Tuple.remove_eq]
  refine guarded_toList t p fun h₀ hp => ?_
  rw [Tuple.length_toList] at hp
  rw [difference?_of_le (by omega)]
  exact congrArg (Option.map Except.ok) (without_values t.elements (p - 1))

theorem transform_toList (f : Value U → Value U) :
    transform t.toList p f = some ((t.transform p f).map Tuple.toList) := by
  unfold transform
  rw [value_toList, Tuple.transform_eq, Tuple.value_eq, Tuple.length_toList]
  by_cases h₀ : t.depth = 0
  · rw [if_pos h₀, if_pos h₀]
    rfl
  rw [if_neg h₀, if_neg h₀]
  by_cases hp : p = 0 ∨ t.depth < p
  · rw [dif_pos hp, dif_pos hp]
    rfl
  rw [dif_neg hp, dif_neg hp, difference?_of_le (by omega)]
  exact congrArg (Option.map Except.ok) (replace_values t.elements (p - 1) _)

end Elements

end Polyad.Bare
