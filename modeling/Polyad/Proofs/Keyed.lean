/-
Polyad/Proofs/Keyed.lean

The elements of a tuple under keys: under each key that comes up stands the last element with it, and
there are no other keys.

What gives the key of an index may have a memory, and keys are compared by an equality of their own,
which need not tell all of them apart.

Idea.  The entries are made in two steps that do not interfere: the keys of all indexes are asked for
in order, and the elements are put under these keys one after the other (`Store.run_keyed`).  What one
more pair of a key and a value does is seen at all keys at once: it is the value at its own key, and
nothing changes at the others (`lookup_put`).  By induction on the pairs, from the last one back, the
value at a key is that of the pair with this key at the greatest index (`lookup_ofPairs_eq_some_iff`).

Main statement: `Tuple.keyed_keeps_last`.
-/
import Polyad.Proofs.Asking
import Polyad.Standard.Kind
import Polyad.Typed
import Mathlib.Data.List.Induction
import Mathlib.Data.List.Perm.Basic
import Mathlib.Order.Bounds.Basic

namespace Polyad

/-! ### Entries under keys -/

namespace Entries

variable {κ ν : Type} [BEq κ] {entries pairs : List (κ × ν)} {k k' : κ} {v : ν}

/-- Keys of which no one is equal to a later one. -/
def Distinct (keys : List κ) : Prop := keys.Pairwise fun a b => (a == b) = false

/-- The entries with one more value, in place of the one under its key or behind all of them. -/
def put (entries : List (κ × ν)) (k : κ) (v : ν) : List (κ × ν) :=
  if entries.any (·.1 == k)
    then entries.map fun entry => if entry.1 == k then (entry.1, v) else entry
    else entries ++ [(k, v)]

/-- The entries for several pairs, from the first to the last. -/
def ofPairs (pairs : List (κ × ν)) : List (κ × ν) :=
  pairs.foldl (fun entries p => put entries p.1 p.2) []

theorem ofPairs_concat (pairs : List (κ × ν)) (p : κ × ν) :
    ofPairs (pairs ++ [p]) = put (ofPairs pairs) p.1 p.2 := by
  unfold ofPairs
  rw [List.foldl_append]
  rfl

/-! #### Keys -/

/-- A value under a key that is there leaves the keys as they are. -/
theorem keys_put_of_any (v : ν) (h : entries.any (·.1 == k) = true) :
    (put entries k v).map (·.1) = entries.map (·.1) := by
  unfold put
  rw [if_pos h, List.map_map]
  refine List.map_congr_left fun entry _ => ?_
  cases hk : entry.1 == k <;> simp [hk]

/-- A value under a new key is a new entry. -/
theorem put_of_not_any (v : ν) (h : ¬entries.any (·.1 == k) = true) :
    put entries k v = entries ++ [(k, v)] :=
  if_neg h

theorem distinct_put (h : Distinct (entries.map (·.1))) (k : κ) (v : ν) :
    Distinct ((put entries k v).map (·.1)) := by
  by_cases hk : entries.any (·.1 == k) = true
  · rwa [keys_put_of_any v hk]
  · rw [put_of_not_any v hk, List.map_append]
    refine List.pairwise_append.mpr ⟨h, List.pairwise_singleton .., fun a ha b hb => ?_⟩
    obtain ⟨entry, hentry, rfl⟩ := List.mem_map.mp ha
    obtain rfl := List.mem_singleton.mp hb
    exact Bool.eq_false_iff.mpr fun heq => hk (List.any_eq_true.mpr ⟨entry, hentry, heq⟩)

theorem distinct_ofPairs (pairs : List (κ × ν)) : Distinct ((ofPairs pairs).map (·.1)) := by
  induction pairs using List.reverseRecOn with
  | nil => exact List.Pairwise.nil
  | append_singleton pairs p ih =>
    rw [ofPairs_concat]
    exact distinct_put ih p.1 p.2

/-- The keys are those of the pairs. -/
theorem keys_ofPairs_subset (pairs : List (κ × ν)) :
    (ofPairs pairs).map (·.1) ⊆ pairs.map (·.1) := by
  induction pairs using List.reverseRecOn with
  | nil => exact List.Subset.refl _
  | append_singleton pairs p ih =>
    rw [ofPairs_concat, List.map_append]
    by_cases hp : (ofPairs pairs).any (·.1 == p.1) = true
    · rw [keys_put_of_any _ hp]
      exact List.subset_append_of_subset_left _ ih
    · rw [put_of_not_any _ hp, List.map_append]
      exact List.append_subset.mpr ⟨List.subset_append_of_subset_left _ ih,
        List.subset_append_right _ _⟩

/-- Pairs with distinct keys are entries as they are. -/
theorem ofPairs_eq_self (h : Distinct (pairs.map (·.1))) : ofPairs pairs = pairs := by
  induction pairs using List.reverseRecOn with
  | nil => rfl
  | append_singleton pairs p ih =>
    rw [List.map_append] at h
    obtain ⟨hpairs, -, hp⟩ := List.pairwise_append.mp h
    rw [ofPairs_concat, ih hpairs]
    refine put_of_not_any _ fun hany => ?_
    obtain ⟨entry, hentry, heq⟩ := List.any_eq_true.mp hany
    have hne := hp entry.1 (List.mem_map_of_mem hentry) p.1 (List.mem_singleton_self _)
    exact Bool.eq_false_iff.mp hne heq

/-- Under distinct keys there is room for all values. -/
theorem length_ofPairs_zip_of_distinct {keys : List κ} {values : List ν}
    (h : keys.length = values.length) (hkeys : Distinct keys) :
    (ofPairs (keys.zip values)).length = keys.length := by
  have hpairs : (keys.zip values).map (·.1) = keys := List.map_fst_zip (Nat.le_of_eq h)
  rw [ofPairs_eq_self (hpairs.symm ▸ hkeys), List.length_zip, ← h, Nat.min_self]

/-! #### Indexes -/

/-- The indexes at which there is a key equal to `k`. -/
def indexes (k : κ) (keys : List κ) : Set Nat :=
  {i | ∃ a, keys[i]? = some a ∧ (k == a) = true}

theorem lt_length_of_mem_indexes {keys : List κ} {i : Nat} (h : i ∈ indexes k keys) :
    i < keys.length := by
  obtain ⟨a, ha, -⟩ := h
  exact (List.getElem?_eq_some_iff.mp ha).1

theorem mem_indexes_concat {keys : List κ} {a : κ} {i : Nat} :
    i ∈ indexes k (keys ++ [a]) ↔ i ∈ indexes k keys ∨ i = keys.length ∧ (k == a) = true := by
  rcases Nat.lt_trichotomy i keys.length with hlt | rfl | hgt
  · simp [indexes, List.getElem?_append_left hlt, Nat.ne_of_lt hlt]
  · simp [indexes]
  · have hout : (keys ++ [a])[i]? = none := by
      rw [List.getElem?_eq_none_iff, List.length_append]
      exact hgt
    simp [indexes, hout, Nat.le_of_lt hgt, Nat.ne_of_gt hgt]

/-- A last key that is equal to `k` is the last of these. -/
theorem isGreatest_indexes_concat {keys : List κ} {a : κ} (h : (k == a) = true) {i : Nat} :
    IsGreatest (indexes k (keys ++ [a])) i ↔ i = keys.length := by
  have hlast : IsGreatest (indexes k (keys ++ [a])) keys.length := by
    refine ⟨mem_indexes_concat.mpr (.inr ⟨rfl, h⟩), fun j hj => ?_⟩
    have hlt := lt_length_of_mem_indexes hj
    rw [List.length_append, List.length_singleton] at hlt
    exact Nat.le_of_lt_succ hlt
  exact ⟨fun hi => hi.unique hlast, fun hi => hi ▸ hlast⟩

/-- A last key that is not equal to `k` changes nothing about those that are. -/
theorem indexes_concat_of_ne {keys : List κ} {a : κ} (h : (k == a) = false) :
    indexes k (keys ++ [a]) = indexes k keys := by
  ext i
  rw [mem_indexes_concat, h]
  simp

theorem indexes_map_range (f : Nat → κ) (k : κ) (n : Nat) :
    indexes k ((List.range n).map f) = {i | i < n ∧ (k == f i) = true} := by
  ext i
  by_cases hi : i < n <;> simp [indexes, hi]

/-! #### Values -/

variable [EquivBEq κ]

/-- The values under a key are replaced where they are asked for. -/
theorem lookup_map_replace (entries : List (κ × ν)) (k k' : κ) (v : ν) :
    (entries.map fun entry => if entry.1 == k then (entry.1, v) else entry).lookup k'
      = if k' == k then (entries.lookup k').map fun _ => v else entries.lookup k' := by
  induction entries with
  | nil => cases k' == k <;> rfl
  | cons entry entries ih =>
    obtain ⟨a, w⟩ := entry
    have hentry : (if a == k then (a, v) else (a, w)) = (a, if a == k then v else w) := by
      cases a == k <;> rfl
    simp only [List.map_cons, hentry, List.lookup_cons, ih]
    cases hka : k' == a with
    | false => rfl
    | true =>
      -- the entry that is found is of the key exactly if the key that is asked for is
      rw [BEq.congr_left hka]
      cases a == k <;> rfl

/-- **One more value** is the one under its key, and the other keys keep theirs. -/
theorem lookup_put (entries : List (κ × ν)) (k k' : κ) (v : ν) :
    (put entries k v).lookup k' = if k' == k then some v else entries.lookup k' := by
  by_cases hany : entries.any (·.1 == k) = true
  · unfold put
    rw [if_pos hany, lookup_map_replace]
    cases hk : k' == k with
    | false => rfl
    | true =>
      obtain ⟨entry, hentry, heq⟩ := List.any_eq_true.mp hany
      have hfound : (entries.lookup k').isSome = true :=
        List.lookup_isSome_iff.mpr ⟨entry, hentry, BEq.trans hk (BEq.symm heq)⟩
      obtain ⟨w, hw⟩ := Option.isSome_iff_exists.mp hfound
      rw [hw]
      rfl
  · rw [put_of_not_any v hany, List.lookup_append, List.lookup_cons, List.lookup_nil]
    cases hk : k' == k with
    | false => exact Option.or_none
    | true =>
      have hnone : entries.lookup k' = none := by
        refine List.lookup_eq_none_iff.mpr fun entry hentry => ?_
        have hne : (k' == entry.1) = false := Bool.eq_false_iff.mpr fun heq =>
          hany (List.any_eq_true.mpr ⟨entry, hentry, BEq.trans (BEq.symm heq) hk⟩)
        rw [bne, hne, Bool.not_false]
      rw [hnone]
      rfl

/-- **The last value under a key counts.** -/
theorem lookup_ofPairs_eq_some_iff :
    (ofPairs pairs).lookup k = some v ↔
      ∃ i, IsGreatest (indexes k (pairs.map (·.1))) i ∧ (pairs.map (·.2))[i]? = some v := by
  induction pairs using List.reverseRecOn with
  | nil => simp [ofPairs]
  | append_singleton pairs p ih =>
    have hlength : (pairs.map (·.1)).length = (pairs.map (·.2)).length := by
      rw [List.length_map, List.length_map]
    rw [ofPairs_concat, lookup_put, List.map_append, List.map_append]
    -- the last pair is behind all others: it decides if it has the key, and if not, they do
    cases hk : k == p.1 with
    | true =>
      simp only [List.map_singleton, isGreatest_indexes_concat hk, exists_eq_left, hlength,
        List.getElem?_concat_length]
      exact Iff.rfl
    | false =>
      rw [List.map_singleton, indexes_concat_of_ne hk]
      refine ih.trans (exists_congr fun i => and_congr_right fun hi => ?_)
      have hlt := hlength ▸ lt_length_of_mem_indexes hi.1
      rw [List.getElem?_append_left hlt]

/-- The keys at which there is a value are those of the pairs. -/
theorem isSome_lookup_ofPairs (pairs : List (κ × ν)) (k : κ) :
    ((ofPairs pairs).lookup k).isSome = (pairs.map (·.1)).any (k == ·) := by
  induction pairs using List.reverseRecOn with
  | nil => rfl
  | append_singleton pairs p ih =>
    rw [ofPairs_concat, lookup_put, List.map_append, List.any_append, ← ih]
    cases hk : k == p.1 <;> simp [hk]

omit [EquivBEq κ] in
/-- Where equal keys are the same, the keys are exactly those of the pairs. -/
theorem mem_keys_ofPairs [LawfulBEq κ] {pairs : List (κ × ν)} {k : κ} :
    k ∈ (ofPairs pairs).map (·.1) ↔ k ∈ pairs.map (·.1) := by
  refine ⟨fun h => keys_ofPairs_subset pairs h, fun h => ?_⟩
  have hfound : ((ofPairs pairs).lookup k).isSome = true := by
    rw [isSome_lookup_ofPairs]
    exact List.any_eq_true.mpr ⟨k, h, BEq.rfl⟩
  obtain ⟨entry, hentry, heq⟩ := List.lookup_isSome_iff.mp hfound
  exact List.mem_map.mpr ⟨entry, hentry, (eq_of_beq heq).symm⟩

/-! #### As many keys as values -/

section Zip

variable {keys : List κ} {values : List ν}

theorem lookup_ofPairs_zip_eq_some_iff (h : keys.length = values.length) :
    (ofPairs (keys.zip values)).lookup k = some v ↔
      ∃ i, IsGreatest (indexes k keys) i ∧ values[i]? = some v := by
  have hkeys : (keys.zip values).map (·.1) = keys := List.map_fst_zip (Nat.le_of_eq h)
  have hvalues : (keys.zip values).map (·.2) = values := List.map_snd_zip (Nat.le_of_eq h.symm)
  rw [lookup_ofPairs_eq_some_iff, hkeys, hvalues]

/-- Under distinct keys all values are found. -/
theorem lookup_ofPairs_zip_of_distinct (h : keys.length = values.length) (hkeys : Distinct keys)
    {i : Nat} (hk : keys[i]? = some k) : (ofPairs (keys.zip values)).lookup k = values[i]? := by
  have hlast : IsGreatest (indexes k keys) i := by
    refine ⟨⟨k, hk, BEq.rfl⟩, fun j hj => Nat.le_of_not_lt fun hlt => ?_⟩
    obtain ⟨a, ha, heq⟩ := hj
    obtain ⟨hi, rfl⟩ := List.getElem?_eq_some_iff.mp hk
    obtain ⟨hj, rfl⟩ := List.getElem?_eq_some_iff.mp ha
    exact Bool.eq_false_iff.mp (List.pairwise_iff_getElem.mp hkeys i j hi hj hlt) heq
  have hlt : i < values.length := h ▸ (List.getElem?_eq_some_iff.mp hk).1
  rw [List.getElem?_eq_getElem hlt, lookup_ofPairs_zip_eq_some_iff h]
  exact ⟨i, hlast, List.getElem?_eq_getElem hlt⟩

theorem map_lookup_ofPairs_zip (h : keys.length = values.length) (hkeys : Distinct keys) :
    keys.map (fun k => (ofPairs (keys.zip values)).lookup k) = values.map some := by
  refine List.ext_getElem (by simpa using h) fun i hi hi' => ?_
  rw [List.length_map] at hi hi'
  rw [List.getElem_map, List.getElem_map, ← List.getElem?_eq_getElem hi']
  exact lookup_ofPairs_zip_of_distinct h hkeys (List.getElem?_eq_getElem hi)

end Zip

end Entries

/-! ### The elements of a tuple under keys -/

open Asking Entries

variable {U : Universe} {κ σ : Type} [BEq κ]

/-- The keys of the indexes from `n` on are asked for in order, whatever becomes of the elements. -/
theorem Store.run_foldlM_keyed (key : Nat → StateM σ κ) (values : List (Value U)) (n : Nat)
    (entries : List (κ × Value U)) (memory : σ) :
    ((values.zipIdx n).foldlM (fun entries (v, index) => do
        let k ← key index
        pure (if entries.any (·.1 == k)
          then entries.map fun entry => if entry.1 == k then (entry.1, v) else entry
          else entries ++ [(k, v)])) entries : StateM σ (List (κ × Value U))).run memory
      = (((answers key memory (List.range' n values.length)).zip values).foldl
            (fun entries p => put entries p.1 p.2) entries,
          memoryAfter key memory (List.range' n values.length)) := by
  induction values generalizing n entries memory with
  | nil => rfl
  | cons v values ih =>
    rw [List.zipIdx_cons, List.foldlM_cons]
    -- the memory is passed on from index to index, and the entries from pair to pair
    refine (ih _ _ _).trans ?_
    rw [List.length_cons, List.range'_succ, answers_cons, memoryAfter_cons, List.zip_cons_cons,
      List.foldl_cons]
    rfl

namespace Tuple

variable (t : Tuple U) (key : Nat → StateM σ κ) (memory : σ)

/-- **Keys and elements.**  All keys are asked for in order, and the elements are put under them. -/
theorem run_keyed :
    (t.keyed key).run memory
      = (ofPairs ((answers key memory (List.range t.depth)).zip t.toList),
          memoryAfter key memory (List.range t.depth)) := by
  rw [List.range_eq_range']
  exact Store.run_foldlM_keyed key t.toList 0 [] memory

theorem run_keyed_pure (f : Nat → κ) :
    ((t.keyed fun i => pure (f i)).run memory).1
      = ofPairs (((List.range t.depth).map f).zip t.toList) := by
  rw [run_keyed, answers_pure]

omit [BEq κ] in
theorem length_map_range (f : Nat → κ) :
    ((List.range t.depth).map f).length = t.toList.length :=
  (List.length_map f).trans List.length_range

/-- Under keys of their own there is room for all elements. -/
theorem length_keyed_of_injective {f : Nat → κ} (hf : ∀ i j, (f i == f j) = true → i = j) :
    ((t.keyed fun i => pure (f i)).run memory).1.length = t.depth := by
  have hkeys : Distinct ((List.range t.depth).map f) :=
    List.pairwise_map.mpr (List.pairwise_lt_range.imp fun hlt =>
      Bool.eq_false_iff.mpr fun heq => Nat.ne_of_lt hlt (hf _ _ heq))
  rw [run_keyed_pure, length_ofPairs_zip_of_distinct (t.length_map_range f) hkeys, length_map_range]
  rfl

/-- Under a key of its own each element is found. -/
theorem lookup_keyed_of_injective [EquivBEq κ] {f : Nat → κ}
    (hf : ∀ i j, (f i == f j) = true → i = j) (i : Nat) :
    ((t.keyed fun i => pure (f i)).run memory).1.lookup (f i) = t.toList[i]? := by
  rw [run_keyed_pure]
  ext v
  rw [lookup_ofPairs_zip_eq_some_iff (t.length_map_range f), indexes_map_range]
  constructor
  · rintro ⟨j, ⟨⟨-, hj⟩, -⟩, hv⟩
    rwa [hf i j hj]
  · intro hv
    have hlt : i < t.depth := (List.getElem?_eq_some_iff.mp hv).1
    exact ⟨i, ⟨⟨hlt, BEq.rfl⟩, fun j hj => Nat.le_of_eq (hf i j hj.2).symm⟩, hv⟩

/-- Under remainders the last element with each remainder is found. -/
theorem lookup_keyed_mod_eq_some_iff {m r : Nat} {v : Value U} :
    ((t.keyed fun i => pure (i % m)).run memory).1.lookup r = some v ↔
      ∃ i, IsGreatest {i | i < t.depth ∧ i % m = r} i ∧ t.toList[i]? = some v := by
  have hindexes : indexes r ((List.range t.depth).map (· % m)) = {i | i < t.depth ∧ i % m = r} := by
    rw [indexes_map_range]
    exact Set.ext fun i => and_congr_right fun _ => beq_iff_eq.trans eq_comm
  rw [run_keyed_pure, lookup_ofPairs_zip_eq_some_iff (t.length_map_range _), hindexes]

theorem mem_map_mod_range {m : Nat} (hm : 0 < m) (n r : Nat) :
    r ∈ (List.range n).map (· % m) ↔ r < min n m := by
  rw [List.mem_map, Nat.lt_min]
  constructor
  · rintro ⟨i, hi, rfl⟩
    exact ⟨Nat.lt_of_le_of_lt (Nat.mod_le i m) (List.mem_range.mp hi), Nat.mod_lt i hm⟩
  · rintro ⟨hn, hr⟩
    exact ⟨r, List.mem_range.mpr hn, Nat.mod_eq_of_lt hr⟩

/-- As many remainders come up as there are, and no more than there are elements. -/
theorem length_keyed_mod {m : Nat} (hm : 0 < m) :
    ((t.keyed fun i => pure (i % m)).run memory).1.length = min t.depth m := by
  have hkeys : (((List.range t.depth).map (· % m)).zip t.toList).map (·.1)
      = (List.range t.depth).map (· % m) :=
    List.map_fst_zip (Nat.le_of_eq (t.length_map_range _))
  rw [run_keyed_pure, ← List.length_map (·.1)]
  -- the remainders that come up are those below both numbers, once each
  refine (List.Perm.length_eq ?_).trans (List.length_range (n := min t.depth m))
  refine (List.perm_ext_iff_of_nodup ?_ List.nodup_range).mpr fun r => ?_
  · exact (distinct_ofPairs _).imp fun hne heq => by simp [heq] at hne
  · rw [mem_keys_ofPairs, hkeys, mem_map_mod_range hm, List.mem_range]

/-- **Each key keeps its last element, and there are no other keys.**  Let the elements of a tuple be
put under the keys of their indexes, where giving a key may depend on what was asked before, and keys
are compared by any equivalence.

The keys are asked for once each, for the indexes 0, 1, … up to the depth and in this order.  It is no
matter whether the types of the elements are known.  The keys of the entries are keys that were given,
no two of them are equal, and a key has an entry exactly if it is equal to one that was given.  What is
under a key is the element at the greatest index whose key is equal to it.

So if no two of the keys that are given are equal there are as many entries as elements, and each
element is found under the key of its index; and that is so for an injective function.  Under the
remainders modulo a positive number there are as many entries as there are remainders, unless there
are fewer elements, and under each remainder is the element at the greatest index that leaves it. -/
theorem keyed_keeps_last [EquivBEq κ] (t : Tuple U) (key : Nat → StateM σ κ) (memory : σ) :
    let keys := answers key memory (List.range t.depth)
    let entries := ((t.keyed key).run memory).1
    (keys.length = t.depth ∧
      (t.keyed key).run memory = (entries, memoryAfter key memory (List.range t.depth)) ∧
      (t.keyed (recorded key)).run (memory, [])
        = (entries, memoryAfter key memory (List.range t.depth), (List.range t.depth).zip keys)) ∧
    (∀ (ts : List (Ty U)) (u : Typed U ts), u.erase = t → u.keyed key = t.keyed key) ∧
    (Distinct (entries.map (·.1)) ∧ entries.map (·.1) ⊆ keys ∧
      ∀ k, (entries.lookup k).isSome = keys.any (k == ·)) ∧
    (∀ k v, entries.lookup k = some v ↔
      ∃ i, IsGreatest (indexes k keys) i ∧ t.toList[i]? = some v) ∧
    (Distinct keys →
      entries.length = t.depth ∧ keys.map (fun k => entries.lookup k) = t.toList.map some) ∧
    (∀ f : Nat → κ, (∀ i j, (f i == f j) = true → i = j) →
      let entries := ((t.keyed fun i => pure (f i)).run memory).1
      entries.length = t.depth ∧ ∀ i, entries.lookup (f i) = t.toList[i]?) ∧
    ∀ m, 0 < m →
      let entries := ((t.keyed fun i => pure (i % m)).run memory).1
      entries.length = min t.depth m ∧
      ∀ r v, entries.lookup r = some v ↔
        ∃ i, IsGreatest {i | i < t.depth ∧ i % m = r} i ∧ t.toList[i]? = some v := by
  intro keys entries
  have hdepth : keys.length = t.depth :=
    (length_answers key memory (List.range t.depth)).trans List.length_range
  have hlength : keys.length = t.toList.length := hdepth
  have hentries : entries = ofPairs (keys.zip t.toList) := congrArg Prod.fst (t.run_keyed key memory)
  have hpairs : (keys.zip t.toList).map (·.1) = keys := List.map_fst_zip (Nat.le_of_eq hlength)
  refine ⟨⟨hdepth, ?_, ?_⟩, ?_, ⟨?_, ?_, fun k => ?_⟩, fun k v => ?_, fun hkeys => ⟨?_, ?_⟩,
    fun f hf => ⟨t.length_keyed_of_injective memory hf, t.lookup_keyed_of_injective memory hf⟩,
    fun m hm => ⟨t.length_keyed_mod memory hm, fun r v => t.lookup_keyed_mod_eq_some_iff memory⟩⟩
  · rw [hentries, run_keyed]
  · rw [hentries, run_keyed, answers_recorded, memoryAfter_recorded, List.nil_append]
  · rintro ts u rfl
    rfl
  · exact hentries ▸ distinct_ofPairs _
  · have hsubset := keys_ofPairs_subset (keys.zip t.toList)
    rwa [hpairs, ← hentries] at hsubset
  · rw [hentries, isSome_lookup_ofPairs, hpairs]
  · rw [hentries, lookup_ofPairs_zip_eq_some_iff hlength]
  · rw [hentries, length_ofPairs_zip_of_distinct hlength hkeys, hdepth]
  · rw [hentries]
    exact map_lookup_ofPairs_zip hlength hkeys

/-- Three letters under keys that a counter gives.  Where two of the keys are equal the last letter
is found, and where none are all letters are; so they are under their own indexes, while there are
only two remainders modulo two. -/
theorem keyed_keeps_last_letters :
    let letter (c : Char) : Value Standard := .leaf .char c
    let u : Typed Standard _ := Typed.ofList (['a', 'b', 'c'].map letter) (by decide)
    let t := u.erase
    let count : StateM Nat Nat := do
      modify (· + 1)
      get
    let counted (_ : Nat) : StateM Nat Nat := count
    let halved (_ : Nat) : StateM Nat Nat := (· / 2) <$> count
    u.erase = t ∧ u.keyed halved = t.keyed halved ∧
    answers halved 0 (List.range 3) = [0, 1, 1] ∧
    ((t.keyed halved).run 0).1.lookup 1 = some (letter 'c') ∧
    Distinct (answers counted 0 (List.range t.depth)) ∧ ((t.keyed counted).run 0).1.length = 3 ∧
    (∀ i j : Nat, (id i == id j) = true → i = j) ∧
    ((t.keyed fun i => pure (id i)).run 0).1.lookup 1 = some (letter 'b') ∧
    0 < 2 ∧ ((t.keyed fun i => pure (i % 2)).run 0).1.length = 2 := by
  intro letter u t count counted halved
  obtain ⟨-, htyped, -, hlast, -⟩ := keyed_keeps_last t halved 0
  obtain ⟨-, -, -, -, hdistinct, hinjective, hmod⟩ := keyed_keeps_last t counted 0
  have hgreatest : IsGreatest (indexes 1 [0, 1, 1]) 2 :=
    ⟨⟨1, rfl, rfl⟩, fun j hj => Nat.le_of_lt_succ (lt_length_of_mem_indexes hj)⟩
  have hkeys : Distinct (answers counted 0 (List.range t.depth)) := by
    show Distinct [1, 2, 3]
    unfold Distinct
    decide
  have hid : ∀ i j : Nat, (id i == id j) = true → i = j := fun i j h => eq_of_beq h
  exact ⟨rfl, htyped _ u rfl, rfl, (hlast 1 _).mpr ⟨2, hgreatest, rfl⟩, hkeys, (hdistinct hkeys).1,
    hid, (hinjective id hid).2 1, by decide, (hmod 2 (by decide)).1⟩

end Tuple

end Polyad
