/-
Polyad/Proofs/Erasure.lean

A tuple of known types does what it does without them.

To forget the types of a tuple is to keep its elements.  The operations on tuples of unknown types
check at run time what the types would have told: that the tuple is not empty, that the position is
in range, that the result is not too deep.

Idea.  An index at which the types can be split, or at which they have an element, is below the depth
(`lt_of_splitAt?`, `lt_of_elementAt?`), so that the position `index + 1` is in range; and types that
make a tuple are not too many.  So no check fails (`truncate_of_le` and its companions), and behind
the checks the elements are the same.  Main statement: `erase_refines`.
-/
import Polyad.Proofs.Action
import Polyad.Matcher
import Polyad.Standard.Kind

namespace Polyad.Typed

variable {U : Universe} {ts us head tail : List (Ty U)} {i : Nat}

/-! ### Operations

The position of an index is one more, in the range of the operation by what the types admit. -/

theorem erase_join (t : Typed U ts) (u : Typed U us) (h : (ts ++ us).length ≤ maxDepth) :
    t.erase.join u.erase = .ok (t.join u h).erase :=
  Tuple.join_of_le (t := t.erase) (u := u.erase) (t.depth_add_le u h)

theorem succ_le_depth (t : Typed U ts) (h : i < ts.length) : i + 1 ≤ t.erase.depth :=
  Nat.lt_of_lt_of_eq h t.length_types

theorem erase_add (t : Typed U ts) (v : Value U) {s : Ty U}
    (hat : TypeList.elementAt? i ts = some s) (h : TypeList.insertAt? v.ty i ts = some us)
    (hlist : us.length ≤ maxDepth) :
    t.erase.add (i + 1) v = .ok (t.add i v (Option.isSome_of_eq_some hat) h hlist).erase := by
  have hposition := t.succ_le_depth (TypeList.lt_of_elementAt? hat)
  -- the types of the result are those of the tuple and one more
  have hdepth : t.erase.depth < maxDepth := by
    have hlength := TypeList.length_of_insertAt? h
    have htypes : ts.length = t.erase.depth := t.length_types
    omega
  exact Tuple.add_of_lt (Nat.le_add_left 1 i) hposition hdepth

/-- Two types behind a split are one more than a position in range needs. -/
theorem erase_splice (t : Typed U ts) (h : TypeList.splitAt? i ts = some (head, tail))
    (hplural : 2 ≤ tail.length) :
    t.erase.splice (i + 1)
      = .ok ((t.splice i h hplural).1.erase, (t.splice i h hplural).2.erase) := by
  have hlt : i + 1 < ts.length := by
    have hlength := TypeList.length_of_splitAt? h
    omega
  exact Tuple.splice_of_lt (Nat.le_add_left 1 i) (t.succ_le_depth hlt)

theorem erase_truncate (t : Typed U ts) (h : TypeList.splitAt? i ts = some (head, tail))
    (hne : tail ≠ []) : t.erase.truncate (i + 1) = .ok (t.truncate i h hne).erase :=
  Tuple.truncate_of_le (Nat.le_add_left 1 i) (t.succ_le_depth (TypeList.lt_of_splitAt? h hne))

theorem erase_hop (t : Typed U ts) (h : TypeList.splitAt? i ts = some (head, tail))
    (hne : tail ≠ []) : t.erase.hop (i + 1) = .ok (t.hop i h hne).erase :=
  Tuple.hop_of_le (Nat.le_add_left 1 i) (t.succ_le_depth (TypeList.lt_of_splitAt? h hne))

theorem erase_remove (t : Typed U ts) (h : TypeList.removeAt? i ts = some us) :
    t.erase.remove (i + 1) = .ok (t.remove i h).erase :=
  Tuple.remove_of_le (Nat.le_add_left 1 i) (t.succ_le_depth (TypeList.lt_of_removeAt? h))

/-- It does not matter what a function on all values does to values of other types. -/
theorem erase_transform (t : Typed U ts) {s u : Ty U} (f : Element s → Element u)
    (g : Value U → Value U) (hg : ∀ x : Element s, g x.val = (f x).val)
    (hs : TypeList.elementAt? i ts = some s) (h : TypeList.replaceAt? u i ts = some us) :
    t.erase.transform (i + 1) g = .ok (t.transform i f hs h).erase := by
  have hposition := t.succ_le_depth (TypeList.lt_of_elementAt? hs)
  -- the element at the position is the one at the index, of the type that `f` expects
  have helement : t.erase.elementAt (i + 1) (by omega) = (t.get i hs).val := rfl
  rw [Tuple.transform_of_le (Nat.le_add_left 1 i) hposition, helement, hg]
  rfl

/-! ### Queries -/

theorem erase_value (t : Typed U ts) (p : Nat) : t.erase.value p = t.value p := by
  rw [Tuple.value_eq]
  show _ = if p = 0 ∨ t.erase.depth < p then _ else t.erase.elements.get (p - 1)
  by_cases hp : p = 0 ∨ t.erase.depth < p
  · rw [dif_pos hp, if_pos hp]
    rfl
  · rw [dif_neg hp, if_neg hp]
    exact (Store.get_of_lt _).symm

/-- A tuple of some types is not empty, and this is all that a match asks for. -/
theorem erase_matches {ρ : Type} (engine : Engine ρ) (m : Matcher U ρ) (t : Typed U ts)
    (h : ts ≠ []) : t.erase.matches? engine m = .ok (t.isMatch engine m h) := by
  have hdepth : t.erase.depth ≠ 0 := fun h₀ =>
    h (List.eq_nil_of_length_eq_zero (t.length_types.trans h₀))
  exact if_neg fun hempty => hdepth (Tuple.isEmpty_iff.mp hempty)

/-! ### The refinement -/

/-- **The operations that the types admit are those on tuples of unknown types**, at the position of
their index and behind all checks, and their results have the same elements.  What can be asked of a
tuple has the same answer without its types. -/
theorem erase_refines (t : Typed U ts) :
    (∀ (us : List (Ty U)) (u : Typed U us) (h : (ts ++ us).length ≤ maxDepth),
      t.erase.join u.erase = .ok (t.join u h).erase) ∧
    (∀ p i, Unary.index? p = some i →
      (∀ (v : Value U) (s : Ty U) (us : List (Ty U))
          (hat : TypeList.elementAt? i ts = some s) (h : TypeList.insertAt? v.ty i ts = some us)
          (hlist : us.length ≤ maxDepth),
        t.erase.add p v = .ok (t.add i v (Option.isSome_of_eq_some hat) h hlist).erase) ∧
      (∀ (head tail : List (Ty U)) (h : TypeList.splitAt? i ts = some (head, tail)),
        (∀ hplural : 2 ≤ tail.length,
          t.erase.splice p
            = .ok ((t.splice i h hplural).1.erase, (t.splice i h hplural).2.erase)) ∧
        (∀ hne : tail ≠ [],
          t.erase.truncate p = .ok (t.truncate i h hne).erase ∧
          t.erase.hop p = .ok (t.hop i h hne).erase)) ∧
      (∀ (us : List (Ty U)) (h : TypeList.removeAt? i ts = some us),
        t.erase.remove p = .ok (t.remove i h).erase) ∧
      (∀ (s u : Ty U) (us : List (Ty U)) (f : Element s → Element u) (g : Value U → Value U)
          (hs : TypeList.elementAt? i ts = some s) (h : TypeList.replaceAt? u i ts = some us),
        (∀ x : Element s, g x.val = (f x).val) →
          t.erase.transform p g = .ok (t.transform i f hs h).erase)) ∧
    (∀ n, t.erase.rotateLeft n = (t.rotateLeft n).erase ∧
      t.erase.rotateRight n = (t.rotateRight n).erase) ∧
    (∀ p, t.erase.value p = t.value p) ∧
    (∀ (ty : Ty U) (v : Value U), t.erase.positionOf ty v = t.positionOf ty v ∧
      t.erase.contains ty v = t.contains ty v) ∧
    (∀ (κ σ : Type) [BEq κ] (key : Nat → StateM σ κ), t.erase.keyed key = t.keyed key) ∧
    (∀ (ρ : Type) (engine : Engine ρ) (m : Matcher U ρ) (h : ts ≠ []),
      t.erase.matches? engine m = .ok (t.isMatch engine m h)) ∧
    ∀ u : Typed U ts, t.erase.beq u.erase = t.beq u ∧ t.erase.cmp? u.erase = t.cmp? u := by
  refine ⟨fun us u h => t.erase_join u h, fun p i hp => ?_, fun n => ⟨rfl, rfl⟩, t.erase_value,
    fun ty v => ⟨rfl, rfl⟩, fun κ σ _ key => rfl, fun ρ engine m h => erase_matches engine m t h,
    fun u => ⟨rfl, rfl⟩⟩
  obtain rfl := Unary.index?_eq_some_iff.mp hp
  refine ⟨fun v s us hat h hlist => t.erase_add v hat h hlist, fun head tail h => ⟨?_, ?_⟩,
    fun us h => t.erase_remove h, fun s u us f g hs h hg => t.erase_transform f g hg hs h⟩
  · exact fun hplural => t.erase_splice h hplural
  · exact fun hne => ⟨t.erase_truncate h hne, t.erase_hop h hne⟩

/-- The refinement at the last position that a splice admits, one further for a new element, and for
a function that only knows what to do with elements of one type. -/
theorem erase_refines_last :
    let ts : List (Ty Standard) := [.dyn, .tuple [], .leaf Standard.Kind.bool]
    let t : Typed Standard ts :=
      ofList (U := Standard) [.dyn [], .tuple [], .leaf Standard.Kind.bool true] (by decide)
    let f : Element (.leaf Standard.Kind.bool) → Element (U := Standard) .dyn :=
      fun x => ⟨.dyn [x.val], rfl⟩
    ∃ h : TypeList.splitAt? 1 ts = some ([.dyn], [.tuple [], .leaf Standard.Kind.bool]),
      t.erase.splice 2
        = .ok ((t.splice 1 h (by decide)).1.erase, (t.splice 1 h (by decide)).2.erase) ∧
      t.erase.add 3 (.dyn []) = .ok (t.add 2 (.dyn []) rfl rfl (by decide)).erase ∧
      t.erase.transform 3 (fun v => .dyn [v]) = .ok (t.transform 2 f rfl rfl).erase ∧
      t.erase.join t.erase = .ok (t.join t (by decide)).erase := by
  intro ts t f
  obtain ⟨hjoin, hposition, -⟩ := t.erase_refines
  obtain ⟨-, hsplit, -⟩ := hposition 2 1 rfl
  obtain ⟨hadd, -, -, htransform⟩ := hposition 3 2 rfl
  exact ⟨rfl, (hsplit _ _ rfl).1 (by decide), hadd (.dyn []) _ _ rfl rfl (by decide),
    htransform _ _ _ f _ rfl rfl fun _ => rfl, hjoin _ t (by decide)⟩

end Polyad.Typed
