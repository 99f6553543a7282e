/-
Polyad/Proofs/RoundTrip.lean

A tuple of known types is written as the sequence of its elements and read back from it.

When a tuple is written, its elements are taken one by one from the types, and each one is checked
first; an element that is a tuple itself is written in the same way, with checks of its own
(`Codec.writeAs`).  None of the checks fails (`writeAs_of_ty`), so what is written is one item for
each element, in order.

Idea.  Two assumptions are made: that every kind of value is read back from what is written for it
(`Codec.Inverts`), and that the format gives back the sequence that it was given
(`Codec.KeepsSequences`).  Nesting is in the types, and the induction is on the types
(`Ty.Serializable`): a tuple is read back if values of its types are, since it is written with as
many items as it has types, and then none of them is missing and none is left over.

Main statement: `Typed.serialization_exact`.
-/
import Polyad.Proofs.Reading
import Polyad.Proofs.Recovery
import Polyad.Standard.Codec

namespace Polyad

variable {U : Universe} {δ ε : Type} {c : Codec U δ ε}

/-- A type of values that can be written: a kind with the property `P`, or the tuples of such
types, of which there are not too many. -/
inductive Ty.Serializable (P : U.Kind → Prop) : Ty U → Prop where
  | leaf {k : U.Kind} (h : P k) : Serializable P (.leaf k)
  | tuple {ts : List (Ty U)} (hdepth : ts.length ≤ maxDepth) (h : ∀ t ∈ ts, Serializable P t) :
    Serializable P (.tuple ts)

theorem Ty.Serializable.mono {P Q : U.Kind → Prop} {t : Ty U} (hPQ : ∀ k, P k → Q k)
    (h : t.Serializable P) : t.Serializable Q := by
  induction h with
  | leaf hk => exact .leaf (hPQ _ hk)
  | tuple hdepth _ ih => exact .tuple hdepth ih

/-! ### Writing -/

namespace Codec

mutual

/-- The item for a value of type `t`, with the checks of the tuples in it. -/
def writeAs (c : Codec U δ ε) : Ty U → Value U → Except (Error U) δ
  | .tuple ts, .tuple values => (writeEach c ts values 0).map c.sequence
  | _, v => .ok (c.encode v)

/-- The items for the values from the offset on, each of which must be of its type. -/
def writeEach (c : Codec U δ ε) :
    List (Ty U) → (values : List (Value U)) → (offset : UInt64) → Except (Error U) (List δ)
  | [], _, _ => .ok []
  | t :: ts, values, offset =>
    match Capability.typedAt t values offset with
    | some v => do
      let item ← writeAs c t v
      let items ← writeEach c ts values (offset + 1)
      .ok (item :: items)
    | none => .error (.missingElement (offset + 1).toNat t)

end

end Codec

namespace Capability

variable {t : Ty U} {ts : List (Ty U)} {values : List (Value U)} {v : Value U} {offset : UInt64}

theorem ty_of_typedAt (h : typedAt t values offset = some v) : v.ty = t := by
  unfold typedAt at h
  split at h
  · obtain ⟨hty, rfl⟩ := Value.as?_eq_some_iff.mp h
    exact hty
  · exact absurd h (by simp)

/-- Values of the types asked for are all written. -/
theorem encodeEach_of_types_drop (hword : offset.toNat + ts.length < UInt64.size)
    (h : Value.types (values.drop offset.toNat) = ts) :
    encodeEach c ts values offset = .ok ((values.drop offset.toNat).map c.encode) := by
  induction ts generalizing offset with
  | nil =>
    rw [Value.eq_nil_of_types_eq_nil h]
    rfl
  | cons t ts ih =>
    rw [List.length_cons] at hword
    have hstep : (offset + 1).toNat = offset.toNat + 1 := toNat_succ (by omega)
    obtain ⟨v, hv, -, hdrop, hrest⟩ := exists_typedAt_of_types_drop h
    have htail := ih (by omega) (hstep ▸ hrest)
    simp only [encodeEach, hv, htail]
    rw [hdrop, List.map_cons, hstep]
    rfl

end Capability

namespace Codec

variable {P : U.Kind → Prop} {t : Ty U} {ts : List (Ty U)} {v : Value U}
variable {vs values : List (Value U)} {offset : UInt64}

theorem encodeAll_eq_map (c : Codec U δ ε) (vs : List (Value U)) :
    c.encodeAll vs = vs.map c.encode := by
  induction vs with
  | nil => simp only [encodeAll, List.map_nil]
  | cons v vs ih => simp only [encodeAll, ih, List.map_cons]

/-- Where the checks inside of the elements do not fail, those of the tuple are all there is. -/
theorem writeEach_eq_encodeEach
    (h : ∀ t ∈ ts, ∀ v : Value U, v.ty = t → c.writeAs t v = .ok (c.encode v)) :
    c.writeEach ts values offset = Capability.encodeEach c ts values offset := by
  induction ts generalizing offset with
  | nil => simp only [writeEach, Capability.encodeEach]
  | cons t ts ih =>
    have hrest : c.writeEach ts values (offset + 1)
        = Capability.encodeEach c ts values (offset + 1) :=
      ih fun u hu => h u (List.mem_cons_of_mem t hu)
    simp only [writeEach, Capability.encodeEach, hrest]
    cases hv : Capability.typedAt t values offset with
    | none => rfl
    | some v =>
      simp only [h t List.mem_cons_self v (Capability.ty_of_typedAt hv)]
      rfl

/-- **No check fails** when a value of its type is written. -/
theorem writeAs_of_ty (ht : t.Serializable P) (hv : v.ty = t) :
    c.writeAs t v = .ok (c.encode v) := by
  induction ht generalizing v with
  | leaf _ => simp only [writeAs]
  | @tuple ts hdepth _ ih =>
    obtain ⟨vs, rfl, htypes⟩ := Value.eq_tuple_of_ty hv
    have hword := Capability.toNat_zero_add_lt hdepth
    have hdrop : Value.types (vs.drop (0 : UInt64).toNat) = ts := htypes
    simp only [writeAs, encode]
    rw [writeEach_eq_encodeEach fun t ht v hv => ih t ht hv,
      Capability.encodeEach_of_types_drop hword hdrop, encodeAll_eq_map]
    rfl

/-! ### Reading back -/

/-- Every value of the kind is read back from the item that is written for it. -/
def Inverts (c : Codec U δ ε) (k : U.Kind) : Prop :=
  ∀ x, c.read k (c.write k x) = .ok x

/-- The format gives back the sequence that it was given, if a tuple of its length is asked for. -/
def KeepsSequences (c : Codec U δ ε) : Prop :=
  ∀ items, c.items items.length (c.sequence items) = .ok items

/-- As many items are given back as the values have types. -/
theorem KeepsSequences.items_map_encode (hc : c.KeepsSequences) (htypes : Value.types vs = ts) :
    c.items ts.length (c.sequence (vs.map c.encode)) = .ok (vs.map c.encode) := by
  have hlength : ts.length = (vs.map c.encode).length := by
    rw [List.length_map, ← htypes, Value.length_types]
  rw [hlength]
  exact hc _

/-- Where values are read back, so are several of them, and nothing is left over. -/
theorem readEach_map_encode
    (h : ∀ t ∈ ts, ∀ v : Value U, v.ty = t → c.decode t (c.encode v) = .ok v)
    (htypes : Value.types vs = ts) :
    c.readEach ts values (vs.map c.encode) = (.ok (values ++ vs), []) := by
  induction vs generalizing ts values with
  | nil =>
    obtain rfl := htypes
    rw [List.append_nil]
    rfl
  | cons v vs ih =>
    obtain rfl := htypes
    have hv := h v.ty List.mem_cons_self v rfl
    rw [List.map_cons, Value.types_cons, readEach_cons_of_ok hv,
      ih (fun u hu => h u (List.mem_cons_of_mem _ hu)) rfl, List.append_assoc]
    rfl

/-- **Every value is read back** from what is written for it, if the kinds in its type are. -/
theorem decode_encode (hc : c.KeepsSequences) (ht : t.Serializable c.Inverts) (hv : v.ty = t) :
    c.decode t (c.encode v) = .ok v := by
  induction ht generalizing v with
  | leaf hk =>
    obtain ⟨x, rfl⟩ := Value.eq_leaf_of_ty hv
    simp only [encode, decode, hk x]
    rfl
  | @tuple ts hdepth _ ih =>
    obtain ⟨vs, rfl, htypes⟩ := Value.eq_tuple_of_ty hv
    have hitems := hc.items_map_encode htypes
    have hread : c.readEach ts [] (vs.map c.encode) = (.ok vs, []) :=
      readEach_map_encode (fun t ht v hv => ih t ht hv) htypes
    simp only [encode, decode, encodeAll_eq_map, hitems, decodeEach_eq]
    show (Except.map _ _).bind _ = _
    rw [hread]
    rfl

end Codec

/-! ### The standard format -/

namespace Standard

theorem codec_keepsSequences : codec.KeepsSequences := fun _ => rfl

theorem inverts_unit : codec.Inverts .unit := fun _ => rfl

theorem inverts_bool : codec.Inverts .bool := fun _ => rfl

/-- A list is read back if what is in it is. -/
theorem inverts_list {k : Kind} (hk : codec.Inverts k) : codec.Inverts (.list k) := by
  intro xs
  show (xs.map (Kind.write k)).mapM (Kind.read k) = .ok xs
  induction xs with
  | nil => rfl
  | cons x xs ih =>
    have hx : Kind.read k (Kind.write k x) = .ok x := hk x
    rw [List.map_cons, List.mapM_cons, hx, ih]
    rfl

/-- The message for a sequence that is too short. -/
theorem message_tooShort (count depth : Nat) :
    (codec.tooShort count depth).message
      = "invalid length " ++ toString count ++ ", expected a tuple of depth "
        ++ toString depth := by
  have hwords : ", expected " ++ "a tuple of depth " = ", expected a tuple of depth " := rfl
  show _ ++ ("a tuple of depth " ++ toString depth) = _
  rw [← hwords]
  simp only [String.append_assoc]

end Standard

/-! ### Tuples -/

namespace Typed

variable {ts : List (Ty U)}

theorem encodeEach_toList (t : Typed U ts) :
    Capability.encodeEach c ts t.toList 0 = .ok (t.toList.map c.encode) := by
  have htypes : Value.types (t.toList.drop (0 : UInt64).toNat) = ts := t.types_elements
  exact Capability.encodeEach_of_types_drop (Capability.toNat_zero_add_lt t.length_types_le) htypes

/-- A tuple is written as the sequence of what its elements are written as. -/
theorem encode_eq (t : Typed U ts) : t.encode c = .ok (c.sequence (t.toList.map c.encode)) := by
  unfold encode
  rw [encodeEach_toList]
  rfl

theorem writeEach_toList {P : U.Kind → Prop} (hP : ∀ s ∈ ts, s.Serializable P) (t : Typed U ts) :
    c.writeEach ts t.toList 0 = .ok (t.toList.map c.encode) := by
  rw [Codec.writeEach_eq_encodeEach fun s hs v hv => Codec.writeAs_of_ty (hP s hs) hv,
    encodeEach_toList]

/-- **Round trip.**  A tuple is read back from what is written for it. -/
theorem decode_encode (hts : ts.length ≤ maxDepth) (hc : c.KeepsSequences)
    (hP : ∀ s ∈ ts, s.Serializable c.Inverts) (t : Typed U ts) :
    decode c ts hts (c.sequence (t.toList.map c.encode)) = .ok t := by
  have htypes : Value.types t.toList = ts := t.types_elements
  have hread : c.readEach ts [] (t.toList.map c.encode) = (.ok t.toList, []) :=
    Codec.readEach_map_encode (fun s hs v hv => Codec.decode_encode hc (hP s hs) hv) htypes
  obtain ⟨u, hu, hreads⟩ := exists_read_of_ok hts hread
  rw [decode_eq_read hts (hc.items_map_encode htypes), hreads, toList_injective hu]
  rfl

/-- **Writing and reading tuples of known types.**  For any format:

A tuple is written as one item for each element, in order; no check fails, neither for its own
elements nor inside of elements that are tuples.  If what is written for a value of each kind is
read back, and the sequence that was written is, so is the tuple.

From any sequence, an item that cannot be read, behind items that can, decides the error and is the
last one that is looked at; if all can be read but are too few, the error names how many there are
and the number of all types; if there are enough, the tuple has the values that they give, and the
items behind them are not looked at.  So exactly the sequences are accepted that begin with an item
for each type.  An item is read as the sequence that it holds, of which nothing may be left over.

The words of the standard format for a sequence that is too short are the last statement. -/
theorem serialization_exact (c : Codec U δ ε) (ts : List (Ty U)) (hts : ts.length ≤ maxDepth) :
    (∀ t : Typed U ts, ∃ items, t.encode c = .ok (c.sequence items) ∧ items.length = t.depth ∧
      items = t.toList.map c.encode ∧
      ((∀ s ∈ ts, s.Serializable fun _ => True) → c.writeEach ts t.toList 0 = .ok items) ∧
      ((∀ s ∈ ts, s.Serializable c.Inverts) → c.KeepsSequences →
        decode c ts hts (c.sequence items) = .ok t)) ∧
    (∀ items,
      (∀ i s item e, ts[i]? = some s → items[i]? = some item → c.decode s item = .error e →
        (∀ j < i, ∃ v, c.DecodesAt ts items j v) →
        read c ts hts items = (.error e, items.drop (i + 1))) ∧
      (items.length < ts.length → (∀ j < items.length, ∃ v, c.DecodesAt ts items j v) →
        read c ts hts items = (.error (c.tooShort items.length ts.length), [])) ∧
      ((∀ j < ts.length, ∃ v, c.DecodesAt ts items j v) →
        ∃ t, read c ts hts items = (.ok t, items.drop ts.length) ∧
          ∀ j v, t.toList[j]? = some v ↔ c.DecodesAt ts items j v) ∧
      ((∃ t, (read c ts hts items).1 = .ok t) ↔
        ∀ j < ts.length, ∃ v, c.DecodesAt ts items j v) ∧
      ∀ item, c.items ts.length item = .ok items →
        decode c ts hts item = (read c ts hts items).1.bind fun t =>
          if (read c ts hts items).2.isEmpty then .ok t else .error (c.tooLong items.length)) ∧
    ∀ count depth, (Standard.codec.tooShort count depth).message
      = "invalid length " ++ toString count ++ ", expected a tuple of depth "
        ++ toString depth := by
  refine ⟨fun t => ⟨_, encode_eq t, ?_, rfl, fun hP => writeEach_toList hP t,
    fun hP hc => decode_encode hts hc hP t⟩, fun items => ⟨?_, ?_, ?_, ?_, fun item => ?_⟩,
    Standard.message_tooShort⟩
  · rw [List.length_map]
    rfl
  · intro i s item e hs hitem he hall
    exact read_of_error hts (Codec.readEach_of_error hall hs hitem he)
  · intro hshort hall
    exact read_of_error hts (Codec.readEach_of_short hall hshort)
  · intro hall
    obtain ⟨vs, hread, hvs⟩ := Codec.readEach_of_all hall
    obtain ⟨t, rfl, ht⟩ := exists_read_of_ok hts hread
    exact ⟨t, ht, hvs⟩
  · exact exists_read_eq_ok_iff hts
  · exact decode_eq_read hts

/-- A truth value and a tuple of a list and a unit, written and read back; then a sequence whose
second item is no tuple, one that ends before it, and one that goes on behind it. -/
theorem serialization_exact_nested :
    let c := Standard.codec
    let inner : Value Standard :=
      .tuple [.leaf (Standard.Kind.list .bool) [true, false], .leaf Standard.Kind.unit ()]
    let values : List (Value Standard) := [.leaf Standard.Kind.bool true, inner]
    let ts := Value.types values
    let t : Typed Standard ts := .ofList values (by decide)
    let items : List Document := [.bool true, .array [.array [.bool true, .bool false], .null]]
    (∀ s ∈ ts, s.Serializable c.Inverts) ∧ c.KeepsSequences ∧ t.encode c = .ok (.array items) ∧
      c.writeEach ts t.toList 0 = .ok items ∧ decode c ts (by decide) (.array items) = .ok t ∧
      read c ts (by decide) [.bool true, .null, .null]
        = (.error (.wrongType .null (.tuple 2)), [.null]) ∧
      read c ts (by decide) [.bool true] = (.error (c.tooShort 1 2), []) ∧
      (c.tooShort 1 2).message = "invalid length 1, expected a tuple of depth 2" ∧
      ∃ u, read c ts (by decide) (items ++ [.null]) = (.ok u, [.null]) := by
  intro c inner values ts t items
  have hbool : Ty.Serializable c.Inverts (.leaf Standard.Kind.bool) := .leaf Standard.inverts_bool
  have hinner : inner.ty.Serializable c.Inverts := by
    refine .tuple (by decide) fun s hs => ?_
    rcases List.mem_cons.mp hs with rfl | hs
    · exact .leaf (Standard.inverts_list Standard.inverts_bool)
    · obtain rfl := List.mem_singleton.mp hs
      exact .leaf Standard.inverts_unit
  have hserializable : ∀ s ∈ ts, s.Serializable c.Inverts := by
    intro s hs
    rcases List.mem_cons.mp hs with rfl | hs
    · exact hbool
    · obtain rfl := List.mem_singleton.mp hs
      exact hinner
  obtain ⟨hwrite, hread, hmessage⟩ := serialization_exact c ts (by decide)
  obtain ⟨_, hencode, -, rfl, hchecks, hback⟩ := hwrite t
  obtain ⟨herror, -⟩ := hread [.bool true, .null, .null]
  obtain ⟨-, hshort, -⟩ := hread [.bool true]
  obtain ⟨-, -, hall, -⟩ := hread (items ++ [.null])
  have hfirst : ∀ rest, ∀ j < 1, ∃ v, c.DecodesAt ts (.bool true :: rest) j v := by
    intro rest j hj
    obtain rfl := Nat.lt_one_iff.mp hj
    exact ⟨_, _, _, rfl, rfl, rfl⟩
  have hboth : ∀ j < ts.length, ∃ v, c.DecodesAt ts (items ++ [.null]) j v := by
    rintro (- | - | j) hj
    · exact hfirst _ 0 Nat.one_pos
    · exact ⟨_, _, _, rfl, rfl, rfl⟩
    · exact absurd hj (Nat.not_lt.mpr (Nat.le_add_left 2 j))
  obtain ⟨u, hu, -⟩ := hall hboth
  exact ⟨hserializable, Standard.codec_keepsSequences, hencode,
    hchecks fun s hs => (hserializable s hs).mono fun _ _ => trivial,
    hback hserializable Standard.codec_keepsSequences, herror 1 _ _ _ rfl rfl rfl (hfirst _),
    hshort (by decide) (hfirst []), hmessage 1 2, u, hu⟩

end Typed

end Polyad
