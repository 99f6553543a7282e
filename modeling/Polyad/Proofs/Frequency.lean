/-
Polyad/Proofs/Frequency.lean

The most frequent item of a stream, the one that was seen first if several are equally frequent.

The entries of a table come up in no order that can be relied on.  `Mode.After xs m` says that `m` is
what a table can be after the stream `xs`, where the entries may have changed places after any item.
Items are only told apart by their equality, which need not be identity.

Idea.  After a stream there is one entry for each distinct item, with the number of its occurrences and
the index of the first one (`Mode.Counts`); one more item keeps this, and so does any change of places.
A walk over the entries ends at a greatest one (`Tally.foldl_greater`).  No two entries have the same
first index, so that no two of them are equally great, and it does not matter where the walk begins.

Main statement: `Mode.leads_whatever_the_order`.
-/
import Mathlib.Algebra.Order.Ring.Nat
import Mathlib.Data.List.Basic
import Polyad.Proofs.Delivery
import Polyad.Summary.Mode

namespace Polyad

variable {ι : Type}

/-! ### The greatest entry -/

namespace Tally

/-- `a` is not greater than `b`. -/
def AtMost (a b : Tally ι) : Prop :=
  a.occurrences < b.occurrences ∨ a.occurrences = b.occurrences ∧ b.first ≤ a.first

theorem AtMost.trans {a b c : Tally ι} (h : a.AtMost b) (h' : b.AtMost c) : a.AtMost c := by
  unfold AtMost at *
  omega

theorem AtMost.refl (a : Tally ι) : a.AtMost a := .inr ⟨rfl, Nat.le_refl _⟩

theorem cmp_eq_gt_iff {a b : Tally ι} : a.cmp b = .gt ↔ ¬ a.AtMost b := by
  unfold cmp AtMost
  rw [Ordering.then_eq_gt, Nat.compare_eq_gt, Nat.compare_eq_gt, Nat.compare_eq_eq]
  omega

/-- The greater of two entries is one of them, and neither is greater. -/
theorem greater_spec (a b : Tally ι) :
    (a.greater b = a ∨ a.greater b = b) ∧ a.AtMost (a.greater b) ∧ b.AtMost (a.greater b) := by
  unfold greater
  split
  · next h =>
    have hgt := cmp_eq_gt_iff.mp h
    refine ⟨.inl rfl, .refl a, ?_⟩
    unfold AtMost at *
    omega
  · next h => exact ⟨.inr rfl, not_not.mp fun hgt => h (cmp_eq_gt_iff.mpr hgt), .refl b⟩

/-- **The walk over the entries** ends at one of them than which none is greater. -/
theorem foldl_greater (e : Tally ι) (es : List (Tally ι)) :
    es.foldl greater e ∈ e :: es ∧ ∀ f ∈ e :: es, f.AtMost (es.foldl greater e) := by
  induction es generalizing e with
  | nil => exact ⟨List.mem_singleton.mpr rfl, fun f hf => List.mem_singleton.mp hf ▸ .refl e⟩
  | cons e' es ih =>
    obtain ⟨hone, hleft, hright⟩ := greater_spec e e'
    obtain ⟨hmem, hmost⟩ := ih (e.greater e')
    have hgreater := hmost _ List.mem_cons_self
    rw [List.foldl_cons]
    constructor
    · rcases List.mem_cons.mp hmem with h | h
      · rw [h]
        rcases hone with h' | h' <;> rw [h']
        · exact List.mem_cons_self
        · exact List.mem_cons_of_mem _ List.mem_cons_self
      · exact List.mem_cons_of_mem _ (List.mem_cons_of_mem _ h)
    · intro f hf
      rcases List.mem_cons.mp hf with rfl | hf
      · exact hleft.trans hgreater
      · rcases List.mem_cons.mp hf with rfl | hf
        · exact hright.trans hgreater
        · exact hmost f (List.mem_cons_of_mem _ hf)

end Tally

namespace Mode

theorem value?_eq_none_iff {m : Mode ι} : m.value? = none ↔ m.entries = [] := by
  unfold value?
  cases m.entries with
  | nil => exact iff_of_true rfl rfl
  | cons e es => exact iff_of_false nofun nofun

/-- The most frequent item is that of a greatest entry. -/
theorem exists_of_value? {m : Mode ι} {x : ι} (h : m.value? = some x) :
    ∃ r ∈ m.entries, r.item = x ∧ ∀ f ∈ m.entries, f.AtMost r := by
  unfold value? at h
  cases hm : m.entries with
  | nil =>
    rw [hm] at h
    exact nomatch h
  | cons e es =>
    rw [hm] at h
    obtain ⟨hmem, hmost⟩ := Tally.foldl_greater e es
    exact ⟨_, hmem, Option.some.inj h, hmost⟩

end Mode

/-! ### Equal items -/

section Equal

variable [BEq ι] {xs : List ι} {x y : ι}

theorem idxOf_concat_of_lt (h : xs.idxOf x < xs.length) (y : ι) :
    (xs ++ [y]).idxOf x = xs.idxOf x :=
  List.findIdx_append.trans (if_pos h)

variable [EquivBEq ι]

theorem count_congr (h : (x == y) = true) : xs.count x = xs.count y :=
  congrArg (xs.countP ·) (funext fun _ => BEq.congr_right h)

theorem idxOf_congr (h : (x == y) = true) : xs.idxOf x = xs.idxOf y :=
  congrArg (xs.findIdx ·) (funext fun _ => BEq.congr_right h)

/-- An item that is equal to none before it is counted once, at the last index. -/
theorem count_concat_self (h : ∀ z ∈ xs, (z == x) = false) : (xs ++ [x]).count x = 1 := by
  have hnone : xs.count x = 0 := List.countP_eq_zero.mpr fun z hz => Bool.eq_false_iff.mp (h z hz)
  rw [List.count_append, hnone, List.count_singleton, if_pos BEq.rfl]

theorem idxOf_concat_self (h : ∀ z ∈ xs, (z == x) = false) : (xs ++ [x]).idxOf x = xs.length := by
  have hnone : xs.idxOf x = xs.length := List.findIdx_eq_length_of_false h
  refine (List.findIdx_append.trans (if_neg (Nat.not_lt.mpr (Nat.le_of_eq hnone.symm)))).trans ?_
  rw [List.findIdx_cons, BEq.rfl, cond_true, Nat.zero_add]

end Equal

/-! ### The table after a stream -/

namespace Tally

variable [BEq ι] (item : ι) (e : Tally ι)

@[simp]
theorem note_item : (e.note item).item = e.item := by
  unfold note
  split <;> rfl

@[simp]
theorem note_first : (e.note item).first = e.first := by
  unfold note
  split <;> rfl

@[simp]
theorem note_occurrences :
    (e.note item).occurrences = e.occurrences + if e.item == item then 1 else 0 := by
  unfold note
  split <;> rfl

end Tally

namespace Mode

variable [BEq ι]

/-- What a table can be after a stream: entries may have changed places after any item. -/
inductive After : List ι → Mode ι → Prop
  | start : After [] .start
  | push {xs : List ι} {m : Mode ι} (item : ι) : After xs m → After (xs ++ [item]) (m.push item)
  | reorder {xs : List ι} {m : Mode ι} {entries : List (Tally ι)} :
    After xs m → m.entries.Perm entries → After xs ⟨entries, m.seen⟩

/-- There is one entry for each distinct item, and it counts the item. -/
structure Counts (xs : List ι) (m : Mode ι) : Prop where
  seen : m.seen = xs.length
  occurrences : ∀ e ∈ m.entries, e.occurrences = xs.count e.item
  first : ∀ e ∈ m.entries, e.first = xs.idxOf e.item
  item : ∀ e ∈ m.entries, xs[e.first]? = some e.item
  distinct : m.entries.Pairwise fun a b => (a.item == b.item) = false
  complete : ∀ x ∈ xs, ∃ e ∈ m.entries, (e.item == x) = true
  total : (m.entries.map Tally.occurrences).sum = m.seen

section Step

variable {xs : List ι} {m : Mode ι} {x : ι}

theorem push_of_hit (hx : ∃ e ∈ m.entries, (e.item == x) = true) :
    m.push x = ⟨m.entries.map (.note x), m.seen + 1⟩ := by
  unfold push
  rw [if_pos (List.any_eq_true.mpr hx)]

theorem push_of_miss (hx : ∀ e ∈ m.entries, (e.item == x) = false) :
    m.push x = ⟨m.entries ++ [⟨x, 1, m.seen⟩], m.seen + 1⟩ := by
  unfold push
  rw [if_neg]
  rw [List.any_eq_true]
  rintro ⟨e, he, heq⟩
  exact Bool.eq_false_iff.mp (hx e he) heq

theorem Counts.first_lt (h : Counts xs m) {e : Tally ι} (he : e ∈ m.entries) :
    e.first < xs.length :=
  (List.getElem?_eq_some_iff.mp (h.item e he)).1

theorem sum_note (x : ι) (es : List (Tally ι)) :
    ((es.map (.note x)).map Tally.occurrences).sum
      = (es.map Tally.occurrences).sum + es.countP (·.item == x) := by
  induction es with
  | nil => rfl
  | cons e es ih =>
    rw [List.map_cons, List.map_cons, List.sum_cons, ih, Tally.note_occurrences, List.map_cons,
      List.sum_cons, List.countP_cons]
    omega

variable [EquivBEq ι]

/-- A distinct item has one entry. -/
theorem countP_eq_one {es : List (Tally ι)}
    (hdistinct : es.Pairwise fun a b => (a.item == b.item) = false)
    (hx : ∃ e ∈ es, (e.item == x) = true) : es.countP (·.item == x) = 1 := by
  induction es with
  | nil =>
    obtain ⟨e, he, -⟩ := hx
    exact absurd he List.not_mem_nil
  | cons a es ih =>
    obtain ⟨hne, hdistinct⟩ := List.pairwise_cons.mp hdistinct
    rw [List.countP_cons]
    by_cases ha : (a.item == x) = true
    · -- an entry of the same item further on would be one of the item of the first
      have hnone : es.countP (·.item == x) = 0 := by
        refine List.countP_eq_zero.mpr fun e he heq => ?_
        exact Bool.eq_false_iff.mp (hne e he) (BEq.trans ha (BEq.symm heq))
      rw [hnone, if_pos ha]
    · rw [if_neg ha]
      obtain ⟨e, he, heq⟩ := hx
      rcases List.mem_cons.mp he with rfl | he
      · exact absurd heq ha
      · exact ih hdistinct ⟨e, he, heq⟩

/-- **One more item** that has an entry. -/
theorem Counts.push_of_hit (h : Counts xs m) (hx : ∃ e ∈ m.entries, (e.item == x) = true) :
    Counts (xs ++ [x]) ⟨m.entries.map (.note x), m.seen + 1⟩ := by
  -- every entry is the old one with its item counted once more or not
  have hall {p : Tally ι → Prop} (hp : ∀ e ∈ m.entries, p (e.note x)) :
      ∀ e ∈ m.entries.map (.note x), p e := List.forall_mem_map.mpr hp
  refine ⟨?_, hall fun e he => ?_, hall fun e he => ?_, hall fun e he => ?_, ?_, fun y hy => ?_, ?_⟩
  · rw [h.seen, List.length_append, List.length_singleton]
  · rw [Tally.note_occurrences, Tally.note_item, h.occurrences e he, List.count_append,
      List.count_singleton, BEq.comm]
  · rw [Tally.note_first, Tally.note_item, h.first e he,
      idxOf_concat_of_lt (h.first e he ▸ h.first_lt he)]
  · rw [Tally.note_first, Tally.note_item, List.getElem?_append_left (h.first_lt he), h.item e he]
  · refine List.pairwise_map.mpr (h.distinct.imp fun hab => ?_)
    rwa [Tally.note_item, Tally.note_item]
  · obtain ⟨e, he, heq⟩ : ∃ e ∈ m.entries, (e.item == y) = true := by
      rcases List.mem_append.mp hy with hy | hy
      · exact h.complete y hy
      · exact List.mem_singleton.mp hy ▸ hx
    exact ⟨e.note x, List.mem_map_of_mem he, by rwa [Tally.note_item]⟩
  · rw [sum_note, h.total, countP_eq_one h.distinct hx]

/-- **One more item** that has no entry. -/
theorem Counts.push_of_miss (h : Counts xs m) (hx : ∀ e ∈ m.entries, (e.item == x) = false) :
    Counts (xs ++ [x]) ⟨m.entries ++ [⟨x, 1, m.seen⟩], m.seen + 1⟩ := by
  have hnew : ∀ z ∈ xs, (z == x) = false := by
    intro z hz
    obtain ⟨e, he, heq⟩ := h.complete z hz
    exact BEq.neq_of_beq_of_neq (BEq.symm heq) (hx e he)
  have hall {p : Tally ι → Prop} (hp : ∀ e ∈ m.entries, p e) (hp' : p ⟨x, 1, m.seen⟩) :
      ∀ e ∈ m.entries ++ [⟨x, 1, m.seen⟩], p e := by
    intro e he
    rcases List.mem_append.mp he with he | he
    · exact hp e he
    · exact List.mem_singleton.mp he ▸ hp'
  refine ⟨?_, hall (fun e he => ?_) ?_, hall (fun e he => ?_) ?_, hall (fun e he => ?_) ?_, ?_,
    fun y hy => ?_, ?_⟩
  · rw [h.seen, List.length_append, List.length_singleton]
  · rw [h.occurrences e he, List.count_append, List.count_singleton, BEq.comm, hx e he]
    rfl
  · exact (count_concat_self hnew).symm
  · rw [h.first e he, idxOf_concat_of_lt (h.first e he ▸ h.first_lt he)]
  · exact h.seen.trans (idxOf_concat_self hnew).symm
  · rw [List.getElem?_append_left (h.first_lt he), h.item e he]
  · show (xs ++ [x])[m.seen]? = some x
    rw [h.seen, List.getElem?_concat_length]
  · refine List.pairwise_append.mpr ⟨h.distinct, List.pairwise_singleton .., fun e he e' he' => ?_⟩
    exact List.mem_singleton.mp he' ▸ hx e he
  · rcases List.mem_append.mp hy with hy | hy
    · obtain ⟨e, he, heq⟩ := h.complete y hy
      exact ⟨e, List.mem_append_left _ he, heq⟩
    · exact ⟨⟨x, 1, m.seen⟩, List.mem_append_right _ (List.mem_singleton.mpr rfl),
        List.mem_singleton.mp hy ▸ BEq.rfl⟩
  · rw [List.map_append, List.sum_append, h.total]
    rfl

theorem Counts.push (h : Counts xs m) (x : ι) : Counts (xs ++ [x]) (m.push x) := by
  by_cases hx : ∃ e ∈ m.entries, (e.item == x) = true
  · rw [Mode.push_of_hit hx]
    exact h.push_of_hit hx
  · have hmiss : ∀ e ∈ m.entries, (e.item == x) = false :=
      fun e he => Bool.eq_false_iff.mpr fun heq => hx ⟨e, he, heq⟩
    rw [Mode.push_of_miss hmiss]
    exact h.push_of_miss hmiss

/-- It does not matter in which order the entries come up. -/
theorem Counts.reorder (h : Counts xs m) {entries : List (Tally ι)}
    (hperm : m.entries.Perm entries) : Counts xs ⟨entries, m.seen⟩ where
  seen := h.seen
  occurrences e he := h.occurrences e (hperm.mem_iff.mpr he)
  first e he := h.first e (hperm.mem_iff.mpr he)
  item e he := h.item e (hperm.mem_iff.mpr he)
  distinct := (hperm.pairwise_iff fun hab => BEq.comm.trans hab).mp h.distinct
  complete x hx := by
    obtain ⟨e, he, heq⟩ := h.complete x hx
    exact ⟨e, hperm.mem_iff.mp he, heq⟩
  total := (hperm.map _).sum_nat.symm.trans h.total

/-- **The loop invariant** of any table. -/
theorem After.counts (h : After xs m) : Counts xs m := by
  induction h with
  | start => exact ⟨rfl, nofun, nofun, nofun, .nil, nofun, rfl⟩
  | push x _ ih => exact ih.push x
  | reorder _ hperm ih => exact ih.reorder hperm

end Step

/-! ### The leading item -/

/-- Every other distinct item occurs less often, or as often and for the first time later. -/
def Leads (xs : List ι) (x : ι) : Prop :=
  x ∈ xs ∧ ∀ y ∈ xs, (y == x) = false →
    xs.count y < xs.count x ∨ xs.count y = xs.count x ∧ xs.idxOf x < xs.idxOf y

section Leading

variable [EquivBEq ι] {xs : List ι} {m : Mode ι} {x y : ι}

/-- No two items lead. -/
theorem Leads.unique (hx : Leads xs x) (hy : Leads xs y) : (x == y) = true := by
  by_contra hne
  have hne : (x == y) = false := Bool.eq_false_iff.mpr hne
  have hxy := hx.2 y hy.1 (BEq.comm.trans hne)
  have hyx := hy.2 x hx.1 hne
  omega

/-- Different items have been seen first at different indexes. -/
theorem Counts.first_ne (h : Counts xs m) {a b : Tally ι} (ha : a ∈ m.entries) (hb : b ∈ m.entries)
    (hne : (a.item == b.item) = false) : a.first ≠ b.first := by
  intro heq
  have hitem := h.item a ha
  rw [heq, h.item b hb] at hitem
  rw [Option.some.inj hitem, BEq.rfl] at hne
  exact nomatch hne

/-- **The item of a greatest entry leads.** -/
theorem Counts.leads (h : Counts xs m) {r : Tally ι} (hr : r ∈ m.entries)
    (hmost : ∀ e ∈ m.entries, e.AtMost r) : Leads xs r.item := by
  refine ⟨List.mem_of_getElem? (h.item r hr), fun y hy hne => ?_⟩
  obtain ⟨e, he, heq⟩ := h.complete y hy
  have hother : (e.item == r.item) = false := BEq.neq_of_beq_of_neq heq hne
  have hfirst := h.first_ne he hr hother
  have hle := hmost e he
  unfold Tally.AtMost at hle
  rw [← count_congr heq, ← idxOf_congr heq, ← h.occurrences e he, ← h.occurrences r hr,
    ← h.first e he, ← h.first r hr]
  omega

omit [EquivBEq ι] in
theorem Counts.value?_eq_none_iff (h : Counts xs m) : m.value? = none ↔ xs = [] := by
  rw [Mode.value?_eq_none_iff]
  constructor <;> intro hnil
  · refine List.eq_nil_iff_forall_not_mem.mpr fun y hy => ?_
    obtain ⟨e, he, -⟩ := h.complete y hy
    exact List.not_mem_nil (hnil ▸ he)
  · refine List.eq_nil_iff_forall_not_mem.mpr fun e he => ?_
    exact List.not_mem_nil (hnil ▸ List.mem_of_getElem? (h.item e he))

/-- The most frequent item leads, and it is the first of its equals. -/
theorem Counts.leads_of_value? (h : Counts xs m) (hx : m.value? = some x) :
    Leads xs x ∧ xs[xs.idxOf x]? = some x := by
  obtain ⟨r, hr, rfl, hmost⟩ := exists_of_value? hx
  exact ⟨h.leads hr hmost, h.first r hr ▸ h.item r hr⟩

theorem Counts.value?_eq_some_iff (h : Counts xs m) :
    m.value? = some x ↔ Leads xs x ∧ xs[xs.idxOf x]? = some x := by
  refine ⟨h.leads_of_value?, fun ⟨hx, hitem⟩ => ?_⟩
  cases hy : m.value? with
  | none =>
    rw [h.value?_eq_none_iff.mp hy] at hx
    exact absurd hx.1 List.not_mem_nil
  | some y =>
    -- two leading items are equal, and so the first of their equals is the same
    obtain ⟨hy, hitem'⟩ := h.leads_of_value? hy
    rw [← idxOf_congr (hx.unique hy), hitem] at hitem'
    exact hitem'.symm

end Leading

/-! ### Delivery -/

theorem seamless : (accumulator (ι := ι)).Seamless :=
  .of_foldl push (fun _ _ => rfl) fun _ _ => rfl

theorem After.extend {xs : List ι} {m : Mode ι} (h : After xs m) (items : List ι) :
    After (xs ++ items) (m.extend items) := by
  induction items generalizing xs m with
  | nil => rwa [List.append_nil]
  | cons item items ih =>
    rw [List.append_cons]
    exact ih (h.push item)

/-! ### Main theorem -/

/-- **The most frequent item, whatever the order of the entries.**  A table into which a stream is
delivered, item by item and in batches or all at once, is one of the tables that there can be after
the stream.  For each of these, whatever places its entries have taken on the way, the following holds.

There is no most frequent item if the stream is empty, and otherwise it is the leading one, as it came
up first; any two leading items are equal.  The table has seen as many items as there are and its counts
add up to them.  Each distinct item has one entry, which holds the number of its occurrences and the
index of the first one, and no two entries are of equal items or have the same first index.

All these are natural numbers.  For numbers of 64 bits this holds of streams of less than `2 ^ 64`
items. -/
theorem leads_whatever_the_order [EquivBEq ι] :
    (∀ (xs : List ι) (m : Mode ι) (parts : List (Delivery ι)), After xs m →
      After (xs ++ parts.flatMap Delivery.items) (parts.foldl accumulator.deliver m)) ∧
    (∀ parts : List (Delivery ι),
      After (parts.flatMap Delivery.items) (parts.foldl accumulator.deliver .start)) ∧
    (∀ xs : List ι, After xs (accumulator.collect xs)) ∧
    ∀ (xs : List ι) (m : Mode ι), After xs m →
      (m.value? = none ↔ xs = []) ∧
      (∀ x, m.value? = some x ↔ Leads xs x ∧ xs[xs.idxOf x]? = some x) ∧
      (∀ x y, Leads xs x → Leads xs y → (x == y) = true) ∧
      accumulator.reducer.finish m = m.value? ∧
      m.seen = xs.length ∧ (m.entries.map Tally.occurrences).sum = m.seen ∧
      (∀ x ∈ xs, m.entries.countP (·.item == x) = 1) ∧
      (∀ e ∈ m.entries, e.item ∈ xs ∧ e.occurrences = xs.count e.item ∧
        e.first = xs.idxOf e.item) ∧
      m.entries.Pairwise fun a b => (a.item == b.item) = false ∧ a.first ≠ b.first := by
  have hdeliver (xs : List ι) (m : Mode ι) (parts : List (Delivery ι)) (h : After xs m) :
      After (xs ++ parts.flatMap Delivery.items) (parts.foldl accumulator.deliver m) := by
    rw [seamless.foldl_deliver]
    exact h.extend _
  refine ⟨hdeliver, fun parts => hdeliver [] .start parts .start,
    fun xs => After.start.extend xs, fun xs m h => ?_⟩
  have hcounts := h.counts
  have hitem : ∀ e ∈ m.entries, e.item ∈ xs := fun e he => List.mem_of_getElem? (hcounts.item e he)
  have hdistinct : m.entries.Pairwise fun a b => (a.item == b.item) = false ∧ a.first ≠ b.first :=
    hcounts.distinct.imp_of_mem fun ha hb hne => ⟨hne, hcounts.first_ne ha hb hne⟩
  exact ⟨hcounts.value?_eq_none_iff, fun x => hcounts.value?_eq_some_iff,
    fun x y hx hy => hx.unique hy, rfl, hcounts.seen, hcounts.total,
    fun x hx => countP_eq_one hcounts.distinct (hcounts.complete x hx),
    fun e he => ⟨hitem e he, hcounts.occurrences e he, hcounts.first e he⟩, hdistinct⟩

/-- Equally frequent items of which the one seen later has come to stand first in the table. -/
theorem leads_whatever_the_order_tied :
    After [3, 1, 1, 3] ⟨[⟨1, 2, 1⟩, ⟨3, 2, 0⟩], 4⟩ ∧ Leads [3, 1, 1, 3] 3 ∧
      (⟨[⟨1, 2, 1⟩, ⟨3, 2, 0⟩], 4⟩ : Mode Nat).value? = some 3 := by
  obtain ⟨-, hdelivered, -, hafter⟩ := leads_whatever_the_order (ι := Nat)
  have h : After [3, 1, 1, 3] ⟨[⟨1, 2, 1⟩, ⟨3, 2, 0⟩], 4⟩ :=
    .reorder (hdelivered [.accept 3, .extend [1, 1], .extend [], .accept 3]) (.swap _ _ _)
  have hleads : Leads [3, 1, 1, 3] 3 := by
    unfold Leads
    decide
  exact ⟨h, hleads, ((hafter _ _ h).2.1 3).mpr ⟨hleads, rfl⟩⟩

end Mode

end Polyad
