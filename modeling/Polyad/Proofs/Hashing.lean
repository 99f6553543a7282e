/-
Polyad/Proofs/Hashing.lean

What is given to a hash agrees with equality, with the types of the elements known or not.

Idea.  Where the types are not known, an element gives its type and its text; equal elements are
of one type and carry one text, so they give the same.  Conversely the stream can be read back:
behind the count every element begins with a type, which is no byte, so that one sees where a text
ends and whether there is one at all (`feed_append_inj`), and by induction all elements are told
apart (`flatMap_feed_eq_iff`).  Where the types are known, each element gives what its own hash
gives; at every offset two lists of equal values have either equal elements of one type or none
(`typedAt_rel`), so nothing can be skipped in one of them alone.

Main statements: `hash_respects_equality`, `Tuple.feed_eq_iff`, `Hashing.agrees`.
-/
import Polyad.Matcher
import Polyad.Standard.Capability
import Polyad.Proofs.Bytes
import Polyad.Proofs.StandardLaws

namespace Polyad

open Comparison

variable {U : Universe}

/-! ### Values of unknown type -/

namespace Value

/-- What a hash sees of an element of unknown type. -/
def label (v : Value U) : Ty U × Option String := (v.ty, v.text?)

theorem feed_eq_of_label {v w : Value U} (h : v.label = w.label) : v.feed = w.feed := by
  obtain ⟨hty, htext⟩ := Prod.mk.inj h
  unfold feed
  rw [hty, htext]

theorem label_eq_of_beq (hU : U.SameText) {v w : Value U} (h : v.beq w = true) :
    v.label = w.label :=
  Prod.ext (ty_eq_of_beq h) (text?_eq_of_beq hU h)

theorem feed_eq_of_beq (hU : U.SameText) {v w : Value U} (h : v.beq w = true) : v.feed = w.feed :=
  feed_eq_of_label (label_eq_of_beq hU h)

/-- A stream that does not begin with a byte. -/
def NoByte (r : List (Write U)) : Prop :=
  ∀ b r', r ≠ .byte b :: r'

theorem noByte_flatMap_feed (vs : List (Value U)) : NoByte (vs.flatMap feed) := by
  intro b r
  cases vs with
  | nil => exact nofun
  | cons v vs => exact nofun

/-- A text gives at least the byte that ends it. -/
theorem exists_byte_textBytes (s : String) (r : List (Write U)) :
    ∃ b r', Feed.bytes (Feed.textBytes s) ++ r = .byte b :: r' := by
  unfold Feed.textBytes
  cases s.toUTF8.toList with
  | nil => exact ⟨0xff, r, rfl⟩
  | cons b bs => exact ⟨b, _, rfl⟩

/-- **An element is read back** from the front of a stream, if what follows does not begin with a
byte: its type, and its text if it has one. -/
theorem feed_append_inj {v w : Value U} {r r' : List (Write U)} (hr : NoByte r) (hr' : NoByte r')
    (h : v.feed ++ r = w.feed ++ r') : v.label = w.label ∧ r = r' := by
  unfold feed at h
  obtain ⟨htype, hrest⟩ := List.cons.inj h
  suffices v.text? = w.text? ∧ r = r' from ⟨Prod.ext (Write.typeId.inj htype) this.1, this.2⟩
  rcases hv : v.text? with - | s <;> rcases hw : w.text? with - | s' <;> rw [hv, hw] at hrest
  · exact ⟨rfl, hrest⟩
  · -- only one of the two elements would have a text, and the other stream goes on with a byte
    obtain ⟨b, r'', he⟩ := exists_byte_textBytes s' r'
    exact absurd (hrest.trans he) (hr b r'')
  · obtain ⟨b, r'', he⟩ := exists_byte_textBytes s r
    exact absurd (hrest.symm.trans he) (hr' b r'')
  · obtain ⟨hs, hrest⟩ := Feed.textBytes_append_inj hrest
    exact ⟨congrArg some hs, hrest⟩

/-- As many elements give the same stream exactly if a hash sees the same of each. -/
theorem flatMap_feed_eq_iff {vs ws : List (Value U)} (hlength : vs.length = ws.length) :
    vs.flatMap feed = ws.flatMap feed ↔ vs.map label = ws.map label := by
  induction vs generalizing ws with
  | nil =>
    obtain rfl := List.length_eq_zero_iff.mp hlength.symm
    exact ⟨fun _ => rfl, fun _ => rfl⟩
  | cons v vs ih =>
    cases ws with
    | nil => exact nomatch hlength
    | cons w ws =>
      rw [List.flatMap_cons, List.flatMap_cons, List.map_cons, List.map_cons, List.cons.injEq,
        ← ih (Nat.succ.inj hlength)]
      constructor
      · exact feed_append_inj (noByte_flatMap_feed vs) (noByte_flatMap_feed ws)
      · rintro ⟨hlabel, hrest⟩
        rw [feed_eq_of_label hlabel, hrest]

theorem feedAll_eq_iff {vs ws : List (Value U)} (hvs : vs.length < UInt64.size)
    (hws : ws.length < UInt64.size) : feedAll vs = feedAll ws ↔ vs.map label = ws.map label := by
  unfold feedAll
  constructor
  · intro h
    obtain ⟨hlength, hrest⟩ := Feed.count_append_inj hvs hws h
    exact (flatMap_feed_eq_iff hlength).mp hrest
  · intro h
    have hlength : vs.length = ws.length := by
      simpa using congrArg List.length h
    rw [hlength, (flatMap_feed_eq_iff hlength).mpr h]

/-- A hash sees the same of each element if every position has elements of one type and one text. -/
theorem map_label_eq_iff {vs ws : List (Value U)} :
    vs.map label = ws.map label ↔ vs.length = ws.length ∧
      ∀ (i : Nat) (v w : Value U), vs[i]? = some v → ws[i]? = some w →
        v.ty = w.ty ∧ v.text? = w.text? := by
  constructor
  · intro h
    refine ⟨by simpa using congrArg List.length h, fun i v w hv hw => ?_⟩
    have hi : (vs.map label)[i]? = (ws.map label)[i]? := congrArg (·[i]?) h
    rw [List.getElem?_map, List.getElem?_map, hv, hw] at hi
    exact Prod.mk.inj (Option.some.inj hi)
  · rintro ⟨hlength, h⟩
    refine List.ext_getElem (by simpa using hlength) fun i hv hw => ?_
    rw [List.length_map] at hv hw
    obtain ⟨hty, htext⟩ :=
      h i vs[i] ws[i] (List.getElem?_eq_getElem hv) (List.getElem?_eq_getElem hw)
    rw [List.getElem_map, List.getElem_map]
    exact Prod.ext hty htext

/-! ### Equal lists of values -/

theorem feedAll_eq_of_beqAll (hU : U.SameText) {vs ws : List (Value U)} (h : beqAll vs ws = true) :
    feedAll vs = feedAll ws := by
  unfold feedAll
  have hall := beqAll_iff_forall₂.mp h
  have hfeed : vs.flatMap feed = ws.flatMap feed :=
    flatMap_eq_of_forall₂ (fun v _ w => feed_eq_of_beq hU) hall
  rw [hall.length_eq, hfeed]

theorem feedTypedAll_eq (h : Hashing U) (vs : List (Value U)) :
    feedTypedAll h vs = vs.flatMap (feedTyped h) := by
  induction vs with
  | nil => rfl
  | cons v vs ih =>
    show feedTyped h v ++ feedTypedAll h vs = _
    rw [ih, List.flatMap_cons]

end Value

/-- The hash of a type agrees with equality: equal values of the type give the same. -/
def Hashing.Agrees (h : Hashing U) (t : Ty U) : Prop :=
  ∀ v w : Value U, v.ty = t → v.beq w = true → v.feedTyped h = w.feedTyped h

namespace Hashing

/-! ### Hashes of types -/

variable {h : Hashing U}

theorem agrees_leaf {k : U.Kind}
    (hk : ∀ x y, U.beq k x y = true → h.bytes k x = h.bytes k y) : h.Agrees (.leaf k) := by
  intro v w hv hvw
  cases v with
  | leaf j x =>
    obtain rfl := Ty.leaf.inj hv
    obtain ⟨y, rfl⟩ := Value.exists_leaf_of_ty (Value.ty_eq_of_beq hvw)
    rw [Value.beq_leaf] at hvw
    exact congrArg Feed.bytes (hk x y hvw)
  | dyn xs => exact nomatch hv
  | tuple xs => exact nomatch hv

/-- A tuple of unknown types gives no more than equality of types and texts can tell. -/
theorem agrees_dyn (hU : U.SameText) : h.Agrees .dyn := by
  intro v w hv hvw
  cases v with
  | leaf j x => exact nomatch hv
  | dyn xs =>
    obtain ⟨ys, rfl⟩ := Value.exists_dyn_of_ty (Value.ty_eq_of_beq hvw)
    exact Value.feedAll_eq_of_beqAll hU hvw
  | tuple xs => exact nomatch hv

/-- A tuple of known types hands the agreement on. -/
theorem agrees_tuple {ts : List (Ty U)} (hts : ∀ t ∈ ts, h.Agrees t) : h.Agrees (.tuple ts) := by
  intro v w hv hvw
  cases v with
  | leaf j x => exact nomatch hv
  | dyn xs => exact nomatch hv
  | tuple xs =>
    obtain rfl : Value.types xs = ts := Ty.tuple.inj hv
    obtain ⟨ys, rfl⟩ := Value.exists_tuple_of_ty (Value.ty_eq_of_beq hvw)
    show Feed.count xs.length ++ Value.feedTypedAll h xs
      = Feed.count ys.length ++ Value.feedTypedAll h ys
    rw [Value.feedTypedAll_eq, Value.feedTypedAll_eq, Value.length_eq_of_beqAll hvw]
    refine congrArg (_ ++ ·)
      (flatMap_eq_of_forall₂ (fun x hx y hxy => ?_) (Value.beqAll_iff_forall₂.mp hvw))
    have hmem : x.ty ∈ Value.types xs := by
      rw [Value.types_eq_map]
      exact List.mem_map_of_mem hx
    exact hts x.ty hmem x y rfl hxy

/-- A hash that agrees with equality on every kind does so on every type. -/
theorem agrees (hU : U.SameText)
    (hkind : ∀ k x y, U.beq k x y = true → h.bytes k x = h.bytes k y) : (t : Ty U) → h.Agrees t
  | .leaf k => agrees_leaf (hkind k)
  | .dyn => agrees_dyn hU
  | .tuple _ => agrees_tuple fun t _ => agrees hU hkind t

end Hashing

namespace Capability

/-! ### Values of known types -/

/-- At every offset, equal lists of values have equal values of a type, or neither has one. -/
theorem typedAt_rel {vs ws : List (Value U)} (h : Value.beqAll vs ws = true) (t : Ty U)
    (offset : UInt64) :
    Option.Rel (fun v w => v.ty = t ∧ v.beq w = true) (typedAt t vs offset)
      (typedAt t ws offset) := by
  have hrel := Value.getElem?_rel_of_beqAll h offset.toNat
  unfold typedAt
  generalize vs[offset.toNat]? = a at hrel ⊢
  generalize ws[offset.toNat]? = b at hrel ⊢
  cases hrel with
  | none => exact .none
  | @some v w hvw =>
    have hty : v.ty = w.ty := Value.ty_eq_of_beq hvw
    -- the two values are of one type, so both pass the check of the type or neither
    show Option.Rel _ (v.as? t) (w.as? t)
    unfold Value.as?
    by_cases hv : v.ty = t
    · rw [if_pos hv, if_pos (hty ▸ hv)]
      exact .some ⟨hv, hvw⟩
    · rw [if_neg hv, if_neg (hty ▸ hv)]
      exact .none

/-- Equal lists of values give the same, from every offset on and whether or not they fit the
types. -/
theorem feedEach_eq_of_beqAll {h : Hashing U} {ts : List (Ty U)} (hts : ∀ t ∈ ts, h.Agrees t)
    {vs ws : List (Value U)} (hvw : Value.beqAll vs ws = true) (offset : UInt64) :
    feedEach h ts vs offset = feedEach h ts ws offset := by
  induction ts generalizing offset with
  | nil => rfl
  | cons t ts ih =>
    have hrel := typedAt_rel hvw t offset
    have hrest := ih (fun t ht => hts t (List.mem_cons_of_mem _ ht)) (offset + 1)
    unfold feedEach
    rw [hrest]
    generalize typedAt t vs offset = a at hrel ⊢
    generalize typedAt t ws offset = b at hrel ⊢
    cases hrel with
    | none => rfl
    | @some v w hboth =>
      show v.feedTyped h ++ _ = w.feedTyped h ++ _
      rw [hts t List.mem_cons_self v w hboth.1 hboth.2]

/-- Where the values are of the types, none is skipped: each gives what its own hash gives. -/
theorem feedEach_eq_flatMap {h : Hashing U} {ts : List (Ty U)} {vs : List (Value U)}
    {offset : UInt64}
    (hword : offset.toNat + ts.length < UInt64.size)
    (hts : Value.types (vs.drop offset.toNat) = ts) :
    feedEach h ts vs offset = (vs.drop offset.toNat).flatMap (Value.feedTyped h) := by
  induction ts generalizing offset with
  | nil =>
    rw [Value.eq_nil_of_types_eq_nil hts]
    rfl
  | cons t ts ih =>
    rw [List.length_cons] at hword
    have hstep : (offset + 1).toNat = offset.toNat + 1 := toNat_succ (by omega)
    obtain ⟨v, htyped, -, hdrop, hrest⟩ := exists_typedAt_of_types_drop hts
    rw [← hstep] at hdrop hrest
    unfold feedEach
    rw [htyped, ih (by omega) hrest, hdrop, List.flatMap_cons]

end Capability

/-- **The stream of a tuple of unknown types** tells its depth, and of every element its type and
its text. -/
theorem Tuple.feed_eq_iff {t u : Tuple U} :
    t.feed = u.feed ↔ t.depth = u.depth ∧
      ∀ (i : Nat) (v w : Value U), t.toList[i]? = some v → u.toList[i]? = some w →
        v.ty = w.ty ∧ v.text? = w.text? := by
  have hbound (s : Store U) : s.values.length < UInt64.size :=
    Nat.lt_of_le_of_lt s.depth_le (by decide)
  exact (Value.feedAll_eq_iff (hbound _) (hbound _)).trans Value.map_label_eq_iff

/-! ### The standard universe -/

namespace Standard

/-- Equal values of a kind give the same bytes.  Floating-point numbers have no hash; where they stand,
nothing is given. -/
theorem Kind.feed_eq_of_beq (k : Kind) (x y : k.Carrier) (h : beq k x y = true) :
    feed k x = feed k y := by
  induction k with
  | unit | binary p => rfl
  | bool | char | ordering | string | literal | boxed => rw [beq_iff_eq.mp h]
  | integer k =>
    have hval : x.val = y.val := beq_iff_eq.mp h
    show x.bytes = y.bytes
    unfold Integer.bytes
    rw [hval]
  | option k ih =>
    rcases x with - | x <;> rcases y with - | y
    · rfl
    · exact nomatch h
    · exact nomatch h
    · exact congrArg (littleEndian 8 1 ++ ·) (ih x y h)
  | list k ih =>
    have hall := equalItems_iff_forall₂.mp h
    show littleEndian 8 x.length ++ x.flatMap (feed k)
      = littleEndian 8 y.length ++ y.flatMap (feed k)
    rw [hall.length_eq, flatMap_eq_of_forall₂ (fun x _ => ih x) hall]
  | pair k j ihk ihj =>
    obtain ⟨hfirst, hsecond⟩ := Bool.and_eq_true_iff.mp h
    show feed k x.1 ++ feed j x.2 = feed k y.1 ++ feed j y.2
    rw [ihk _ _ hfirst, ihj _ _ hsecond]

theorem hashing_agrees (t : Ty Standard) : hashing.Agrees t :=
  Hashing.agrees sameText Kind.feed_eq_of_beq t

end Standard

/-! ### The agreement -/

/-- **What is given to a hash agrees with equality.**

Where the types are not known: if equal values of a kind carry the same text, then equal values,
stores and tuples give the same; and whatever the universe, two tuples give the same exactly if
they are of one depth and have, position by position, elements of one type and of one text, or
without one.  Where the types are known and the hash of each agrees with equality: two equal
tuples give the same, and so do two equal matchers, whatever their strategies.  In both no element
is skipped that is of the type expected.  The standard universe keeps to both conditions. -/
theorem hash_respects_equality :
    (∀ U : Universe, U.SameText →
      (∀ v w : Value U, v.beq w = true → v.feed = w.feed) ∧
      (∀ s t : Store U, s.beq t = true → s.feed = t.feed) ∧
      ∀ t u : Tuple U, t.beq u = true → t.feed = u.feed) ∧
    (∀ (U : Universe) (t u : Tuple U),
      t.feed = u.feed ↔ t.depth = u.depth ∧
        ∀ (i : Nat) (v w : Value U), t.toList[i]? = some v → u.toList[i]? = some w →
          v.ty = w.ty ∧ v.text? = w.text?) ∧
    (∀ (U : Universe) (h : Hashing U) (ts : List (Ty U)),
      ((∀ t ∈ ts, h.Agrees t) →
        (∀ t u : Typed U ts, t.beq u = true → t.feed h = u.feed h) ∧
        ∀ (ρ : Type) (m n : Matcher U ρ), m.beq n = true → m.feed h ts = n.feed h ts) ∧
      (∀ t : Typed U ts,
        t.feed h = Feed.count t.depth ++ t.toList.flatMap (Value.feedTyped h)) ∧
      ∀ (ρ : Type) (m : Matcher U ρ), m.elements.types = ts →
        m.feed h ts = Feed.count m.depth ++ m.elements.values.flatMap (Value.feedTyped h)) ∧
    Standard.SameText ∧ ∀ t : Ty Standard, Standard.hashing.Agrees t := by
  have hstore {U : Universe} (hU : U.SameText) (s t : Store U) (h : s.beq t = true) :
      s.feed = t.feed := Value.feedAll_eq_of_beqAll hU h
  have hequal {U : Universe} {h : Hashing U} {ts : List (Ty U)} (hts : ∀ t ∈ ts, h.Agrees t)
      (s t : Store U) (hst : s.beq t = true) :
      Feed.count s.depth ++ Capability.feedEach h ts s.values 0
        = Feed.count t.depth ++ Capability.feedEach h ts t.values 0 := by
    have hdepth : s.depth = t.depth := Value.length_eq_of_beqAll hst
    rw [hdepth, Capability.feedEach_eq_of_beqAll hts hst 0]
  have hwhole {U : Universe} {h : Hashing U} {ts : List (Ty U)} (s : Store U) (hs : s.types = ts) :
      Capability.feedEach h ts s.values 0 = s.values.flatMap (Value.feedTyped h) := by
    have hword : ts.length < UInt64.size := by
      rw [← hs, Store.length_types]
      exact Nat.lt_of_le_of_lt s.depth_le (by decide)
    exact Capability.feedEach_eq_flatMap (by simpa using hword) hs
  refine ⟨fun U hU => ⟨fun v w => Value.feed_eq_of_beq hU, hstore hU,
      fun t u => hstore hU t.elements u.elements⟩,
    fun U t u => Tuple.feed_eq_iff,
    fun U h ts => ⟨fun hts => ⟨fun t u => hequal hts t.elements u.elements,
        fun ρ m n => hequal hts m.elements n.elements⟩,
      fun t => congrArg (_ ++ ·) (hwhole t.elements t.types_elements),
      fun ρ m hm => congrArg (_ ++ ·) (hwhole m.elements hm)⟩,
    Standard.sameText, Standard.hashing_agrees⟩

/-- Tuples whose elements are tuples of unknown types that differ in the signs of zeros give the same,
and so do matchers for them with different strategies; where a text ends can be told from the stream.
Each of the types has a hash, since a tuple of unknown types gives no more of a zero than its type. -/
theorem hash_respects_equality_zeros :
    let number (n : Nat) : Value Standard :=
      .leaf (Standard.Kind.binary .double) ⟨BitVec.ofNat 64 n⟩
    let zero := number 0
    let negative := number (Nat.pow 2 63)
    let text (s : String) : Value Standard := .leaf Standard.Kind.string s
    let s : Store Standard := ⟨[.dyn [zero], .tuple [.dyn [zero], text "a"]], by decide⟩
    let t : Store Standard := ⟨[.dyn [negative], .tuple [.dyn [negative], text "a"]], by decide⟩
    let apart : Tuple Standard := ⟨⟨[text "a", text "bc"], by decide⟩⟩
    let shifted : Tuple Standard := ⟨⟨[text "ab", text "c"], by decide⟩⟩
    s.feed = t.feed ∧
      (⟨s, rfl⟩ : Typed Standard s.types).feed Standard.hashing
        = (⟨t, rfl⟩ : Typed Standard s.types).feed Standard.hashing ∧
      (⟨s, [none, none], .all⟩ : Matcher Standard Unit).feed Standard.hashing s.types
        = (⟨t, [none, none], .any⟩ : Matcher Standard Unit).feed Standard.hashing s.types ∧
      apart.feed ≠ shifted.feed := by
  intro number zero negative text s t apart shifted
  obtain ⟨huntyped, htold, htyped, hsameText, hagrees⟩ := hash_respects_equality
  obtain ⟨-, hstore, -⟩ := huntyped Standard hsameText
  obtain ⟨hequal, -⟩ := htyped Standard Standard.hashing s.types
  obtain ⟨htuples, hmatchers⟩ := hequal fun t _ => hagrees t
  have hst : s.beq t = true := by rfl
  refine ⟨hstore s t hst, htuples _ _ hst, hmatchers Unit _ _ hst, fun hfeed => ?_⟩
  obtain ⟨-, hpositions⟩ := (htold Standard apart shifted).mp hfeed
  obtain ⟨-, hsame⟩ := hpositions 0 (text "a") (text "ab") rfl rfl
  exact absurd (Option.some.inj hsame) (by decide)

end Polyad
