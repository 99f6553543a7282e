/-
Polyad/Proofs/Reading.lean

Reading a tuple of known types from the front of a sequence of items.

One value is read for each type, until an item cannot be read, the sequence ends, or there is no
type left.  What has not been looked at by then stays where it is: `Codec.readEach` keeps it in all
three cases, and gives the same values and errors as `Codec.decodeEach`, which keeps it only where
it succeeds (`decodeEach_eq`).

Idea.  As long as every item gives a value of its type, a run of reading is at the types and items
that are left, with the values behind those from before (`readEach_of_decodes`).  The three ends of
a run are then one step each: an item that cannot be read (`readEach_of_error`), no item
(`readEach_of_short`), and no type (`readEach_of_all`).  In the second one the depth that the error
names is put together from the values that were read and the types that are left; it is always the
number of all types.
-/
import Polyad.Typed

namespace Polyad

variable {U : Universe} {δ ε : Type}

namespace Codec

variable {c : Codec U δ ε} {t : Ty U} {ts : List (Ty U)} {item : δ} {items : List δ}
variable {v w : Value U} {vs values : List (Value U)} {e : ε} {i j n : Nat}

/-! ### Reading with what is left -/

/-- One value of each type, read from the front of `items` and put behind `values`, and the items
that were not looked at. -/
def readEach (c : Codec U δ ε) :
    (ts : List (Ty U)) → (values : List (Value U)) → (items : List δ) →
      Except ε (List (Value U)) × List δ
  | [], values, items => (.ok values, items)
  | _ :: ts, values, [] => (.error (c.tooShort values.length (values.length + 1 + ts.length)), [])
  | t :: ts, values, item :: items =>
    match c.decode t item with
    | .ok v => readEach c ts (values ++ [v]) items
    | .error e => (.error e, items)

theorem readEach_cons_of_ok (h : c.decode t item = .ok v) :
    c.readEach (t :: ts) values (item :: items) = c.readEach ts (values ++ [v]) items := by
  simp only [readEach, h]

theorem readEach_cons_of_error (h : c.decode t item = .error e) :
    c.readEach (t :: ts) values (item :: items) = (.error e, items) := by
  simp only [readEach, h]

/-- The same values and the same errors are read where what is left is kept only with values. -/
theorem decodeEach_eq (c : Codec U δ ε) (ts : List (Ty U)) (items : List δ)
    (values : List (Value U)) :
    c.decodeEach ts items values
      = (c.readEach ts values items).1.map fun vs => (vs, (c.readEach ts values items).2) := by
  induction ts generalizing items values with
  | nil => simp only [decodeEach]; rfl
  | cons t ts ih =>
    rcases items with - | ⟨item, items⟩
    · simp only [decodeEach]
      rfl
    · simp only [decodeEach]
      cases h : c.decode t item with
      | error e =>
        rw [readEach_cons_of_error h]
        rfl
      | ok v =>
        rw [readEach_cons_of_ok h]
        exact ih items (values ++ [v])

theorem types_of_readEach (h : (c.readEach ts values items).1 = .ok vs) :
    Value.types vs = Value.types values ++ ts := by
  have hdecode := c.decodeEach_eq ts items values
  rw [h] at hdecode
  exact c.types_of_decodeEach ts items values hdecode

/-! ### Where items give values -/

/-- The item at the index `j` gives the value `v` of the type at `j`. -/
def DecodesAt (c : Codec U δ ε) (ts : List (Ty U)) (items : List δ) (j : Nat) (v : Value U) :
    Prop :=
  ∃ t item, ts[j]? = some t ∧ items[j]? = some item ∧ c.decode t item = .ok v

theorem DecodesAt.unique (h : c.DecodesAt ts items j v) (h' : c.DecodesAt ts items j w) :
    v = w := by
  obtain ⟨t, item, ht, hitem, hv⟩ := h
  obtain ⟨t', item', ht', hitem', hw⟩ := h'
  obtain rfl := Option.some.inj (ht.symm.trans ht')
  obtain rfl := Option.some.inj (hitem.symm.trans hitem')
  exact Except.ok.inj (hv.symm.trans hw)

theorem DecodesAt.lt_length (h : c.DecodesAt ts items j v) : j < ts.length := by
  obtain ⟨t, item, ht, -⟩ := h
  exact (List.getElem?_eq_some_iff.mp ht).1

theorem DecodesAt.exists_cons (h : c.DecodesAt ts items 0 v) :
    ∃ t ts' item items', ts = t :: ts' ∧ items = item :: items' ∧ c.decode t item = .ok v := by
  obtain ⟨t, item, ht, hitem, hv⟩ := h
  rcases ts with - | ⟨t', ts'⟩
  · exact absurd ht (by simp)
  rcases items with - | ⟨item', items'⟩
  · exact absurd hitem (by simp)
  obtain rfl := Option.some.inj ht
  obtain rfl := Option.some.inj hitem
  exact ⟨_, _, _, _, rfl, rfl, hv⟩

/-- Behind an item that gives a value so many items give values if they and this one do. -/
theorem forall_decodesAt_cons_iff (h : c.decode t item = .ok v) :
    (∀ j < n + 1, ∃ v, c.DecodesAt (t :: ts) (item :: items) j v) ↔
      ∀ j < n, ∃ v, c.DecodesAt ts items j v := by
  constructor
  · exact fun hall j hj => hall (j + 1) (Nat.succ_lt_succ hj)
  · rintro hall (- | j) hj
    · exact ⟨v, t, item, rfl, rfl, h⟩
    · exact hall j (Nat.lt_of_succ_lt_succ hj)

/-- **The first items.**  As long as they give values of their types, reading goes on behind them
with these values. -/
theorem readEach_of_decodes (h : ∀ j < n, ∃ v, c.DecodesAt ts items j v) :
    ∃ vs : List (Value U), vs.length = n ∧
      (∀ j v, vs[j]? = some v ↔ j < n ∧ c.DecodesAt ts items j v) ∧
      ∀ values, c.readEach ts values items
        = c.readEach (ts.drop n) (values ++ vs) (items.drop n) := by
  induction n generalizing ts items with
  | zero => exact ⟨[], rfl, by simp, by simp⟩
  | succ n ih =>
    obtain ⟨v, hv⟩ := h 0 n.succ_pos
    obtain ⟨t, ts, item, items, rfl, rfl, hdecode⟩ := hv.exists_cons
    obtain ⟨vs, hlength, hvs, hread⟩ := ih ((forall_decodesAt_cons_iff hdecode).mp h)
    refine ⟨v :: vs, congrArg (· + 1) hlength, ?_, fun values => ?_⟩
    · rintro (- | j) w
      · constructor
        · intro hw
          obtain rfl := Option.some.inj hw
          exact ⟨n.succ_pos, hv⟩
        · rintro ⟨-, hw⟩
          exact congrArg some (hv.unique hw)
      · -- one index later in the lists is one index later in the values
        show vs[j]? = some w ↔ j + 1 < n + 1 ∧ c.DecodesAt ts items j w
        rw [hvs, Nat.succ_lt_succ_iff]
    · rw [readEach_cons_of_ok hdecode, hread, List.append_assoc]
      rfl

/-! ### How reading ends -/

/-- **An item that cannot be read**, behind items that can.  Its error is the one of reading, and
the items behind it are not looked at. -/
theorem readEach_of_error (h : ∀ j < i, ∃ v, c.DecodesAt ts items j v) (ht : ts[i]? = some t)
    (hitem : items[i]? = some item) (he : c.decode t item = .error e) :
    c.readEach ts [] items = (.error e, items.drop (i + 1)) := by
  obtain ⟨vs, -, -, hread⟩ := readEach_of_decodes h
  obtain ⟨hts, rfl⟩ := List.getElem?_eq_some_iff.mp ht
  obtain ⟨hitems, rfl⟩ := List.getElem?_eq_some_iff.mp hitem
  rw [hread, List.drop_eq_getElem_cons hts, List.drop_eq_getElem_cons hitems]
  exact readEach_cons_of_error he

/-- **Too few items**, all of which can be read.  The error names how many there are and the number
of all types. -/
theorem readEach_of_short (h : ∀ j < items.length, ∃ v, c.DecodesAt ts items j v)
    (hshort : items.length < ts.length) :
    c.readEach ts [] items = (.error (c.tooShort items.length ts.length), []) := by
  obtain ⟨vs, hlength, -, hread⟩ := readEach_of_decodes h
  -- the values that were read, one more, and the types that are left are all types
  have hdepth : items.length + 1 + (ts.drop (items.length + 1)).length = ts.length := by
    rw [List.length_drop]
    omega
  rw [hread, List.drop_eq_getElem_cons hshort, List.drop_length, List.nil_append]
  show (Except.error (c.tooShort vs.length (vs.length + 1 + _)), ([] : List δ)) = _
  rw [hlength, hdepth]

/-- **Enough items** that can be read.  They give the values, and what is behind them is not looked
at. -/
theorem readEach_of_all (h : ∀ j < ts.length, ∃ v, c.DecodesAt ts items j v) :
    ∃ vs : List (Value U), c.readEach ts [] items = (.ok vs, items.drop ts.length) ∧
      ∀ j v, vs[j]? = some v ↔ c.DecodesAt ts items j v := by
  obtain ⟨vs, -, hvs, hread⟩ := readEach_of_decodes h
  refine ⟨vs, ?_, fun j v => ?_⟩
  · rw [hread, List.drop_length, List.nil_append]
    rfl
  · rw [hvs]
    exact ⟨fun hj => hj.2, fun hv => ⟨hv.lt_length, hv⟩⟩

/-- Reading ends in one of the three ways. -/
theorem reading_cases (c : Codec U δ ε) (ts : List (Ty U)) (items : List δ) :
    (∀ j < ts.length, ∃ v, c.DecodesAt ts items j v) ∨
    (items.length < ts.length ∧ ∀ j < items.length, ∃ v, c.DecodesAt ts items j v) ∨
    ∃ i t item e, ts[i]? = some t ∧ items[i]? = some item ∧ c.decode t item = .error e ∧
      ∀ j < i, ∃ v, c.DecodesAt ts items j v := by
  induction ts generalizing items with
  | nil => exact .inl fun j hj => absurd hj (Nat.not_lt_zero j)
  | cons t ts ih =>
    rcases items with - | ⟨item, items⟩
    · exact .inr (.inl ⟨Nat.succ_pos _, fun j hj => absurd hj (Nat.not_lt_zero j)⟩)
    cases hread : c.decode t item with
    | error e =>
      exact .inr (.inr ⟨0, t, item, e, rfl, rfl, hread, fun j hj => absurd hj (Nat.not_lt_zero j)⟩)
    | ok v =>
      -- the same end as that of the rest, one index later
      rcases ih items with hall | ⟨hlt, hall⟩ | ⟨i, t', item', e, ht, hitem, he, hall⟩
      · exact .inl ((forall_decodesAt_cons_iff hread).mpr hall)
      · exact .inr (.inl ⟨Nat.succ_lt_succ hlt, (forall_decodesAt_cons_iff hread).mpr hall⟩)
      · exact .inr (.inr ⟨i + 1, t', item', e, ht, hitem, he,
          (forall_decodesAt_cons_iff hread).mpr hall⟩)

/-- **What is accepted.**  Values are read exactly if there is an item for each type, and it gives a
value of the type. -/
theorem exists_readEach_eq_ok_iff :
    (∃ vs, (c.readEach ts [] items).1 = .ok vs) ↔
      ∀ j < ts.length, ∃ v, c.DecodesAt ts items j v := by
  constructor
  · rintro ⟨vs, hvs⟩
    rcases c.reading_cases ts items with hall | ⟨hlt, hall⟩ | ⟨i, t, item, e, ht, hitem, he, hall⟩
    · exact hall
    · rw [readEach_of_short hall hlt] at hvs
      exact absurd hvs (by simp)
    · rw [readEach_of_error hall ht hitem he] at hvs
      exact absurd hvs (by simp)
  · intro hall
    obtain ⟨vs, hvs, -⟩ := readEach_of_all hall
    exact ⟨vs, congrArg Prod.fst hvs⟩

end Codec

/-! ### Reading a tuple -/

namespace Typed

variable {c : Codec U δ ε} {ts : List (Ty U)} (hts : ts.length ≤ maxDepth) {item : δ}
variable {items rest : List δ} {vs : List (Value U)} {e : ε}

theorem length_le_of_types (hts : ts.length ≤ maxDepth) (htypes : Value.types vs = ts) :
    vs.length ≤ maxDepth := by
  rw [← Value.length_types, htypes]
  exact hts

/-- The tuple of the values at the front of a sequence, and the items that were not looked at. -/
def read (c : Codec U δ ε) (ts : List (Ty U)) (hts : ts.length ≤ maxDepth) (items : List δ) :
    Except ε (Typed U ts) × List δ :=
  match h : c.readEach ts [] items with
  | (.error e, rest) => (.error e, rest)
  | (.ok vs, rest) =>
    have htypes : Value.types vs = ts := c.types_of_readEach (congrArg Prod.fst h)
    (.ok ⟨⟨vs, length_le_of_types hts htypes⟩, htypes⟩, rest)

theorem read_of_error (h : c.readEach ts [] items = (.error e, rest)) :
    read c ts hts items = (.error e, rest) := by
  unfold read
  split
  · next h' =>
    rw [h'] at h
    obtain ⟨he, rfl⟩ := Prod.mk.inj h
    rw [Except.error.inj he]
  · next h' =>
    rw [h'] at h
    exact absurd h (by simp)

theorem exists_read_of_ok (h : c.readEach ts [] items = (.ok vs, rest)) :
    ∃ t : Typed U ts, t.toList = vs ∧ read c ts hts items = (.ok t, rest) := by
  unfold read
  split
  · next h' =>
    rw [h'] at h
    exact absurd h (by simp)
  · next vs' rest' h' =>
    rw [h'] at h
    obtain ⟨hvs, rfl⟩ := Prod.mk.inj h
    exact ⟨⟨⟨vs', _⟩, _⟩, Except.ok.inj hvs, rfl⟩

/-- A tuple is read exactly if there is an item for each type, and it gives a value of the type. -/
theorem exists_read_eq_ok_iff :
    (∃ t, (read c ts hts items).1 = .ok t) ↔ ∀ j < ts.length, ∃ v, c.DecodesAt ts items j v := by
  rw [← Codec.exists_readEach_eq_ok_iff]
  rcases hread : c.readEach ts [] items with ⟨e | vs, rest⟩
  · rw [read_of_error hts hread]
    simp
  · obtain ⟨t, -, ht⟩ := exists_read_of_ok hts hread
    rw [ht]
    exact ⟨fun _ => ⟨vs, rfl⟩, fun _ => ⟨t, rfl⟩⟩

/-- The tuple for which an item stands is the one read from the sequence that the item holds, unless
the sequence goes on. -/
theorem decode_eq_read (hitems : c.items ts.length item = .ok items) :
    decode c ts hts item
      = (read c ts hts items).1.bind fun t =>
          if (read c ts hts items).2.isEmpty then .ok t else .error (c.tooLong items.length) := by
  have hdecode := c.decodeEach_eq ts items []
  unfold decode
  split
  · next h => exact absurd (h.symm.trans hitems) (by simp)
  next items' h =>
  obtain rfl := Except.ok.inj (h.symm.trans hitems)
  rcases hread : c.readEach ts [] items' with ⟨e | vs, rest⟩
  · rw [hread] at hdecode
    rw [read_of_error hts hread]
    split
    · next he => exact congrArg _ (Except.error.inj (he.symm.trans hdecode))
    · next hvs => exact absurd (hvs.symm.trans hdecode) (by simp [Except.map])
  · rw [hread] at hdecode
    obtain ⟨t, rfl, ht⟩ := exists_read_of_ok hts hread
    rw [ht]
    split
    · next he => exact absurd (he.symm.trans hdecode) (by simp [Except.map])
    · next hvs =>
      obtain ⟨rfl, rfl⟩ := Prod.mk.inj (Except.ok.inj (hvs.symm.trans hdecode))
      rfl

end Typed

end Polyad
