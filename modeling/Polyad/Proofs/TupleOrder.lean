/-
Polyad/Proofs/TupleOrder.lean

The laws of equality and order of tuples of unknown types, with the outcome at elements that are not
ordered.

Idea.  A tuple that is an element of another one is equal to what it is equal to by itself, and is
ordered as it is by itself (`toValue_cmp?`), so whatever does not speak of errors is a law of
nested values.  An error names the first position whose elements are not ordered and the types of
these elements; from the other side the same position is found with the types exchanged
(`cmp_reversed`), and elements in the same place are of the same type, so that they lead to the
same error (`cmp_congr`).

The documented contract of the kinds gives all laws but two: that the order is transitive and that
tuples in the same place compare alike.  A chain of tuples that are less is, at its first positions, a
chain that mixes elements that are less with elements that are equal, and of these the contract says
nothing.  Over three marks that keep the contract both laws fail (`equality_order_laws_marks`).

Main statement: `equality_order_laws`.
-/
import Polyad.Tuple
import Polyad.Proofs.StandardLaws

namespace Polyad

open Comparison

variable {U : Universe}

/-! ### Errors seen from the other side -/

/-- The outcome of a comparison when its operands are exchanged. -/
def reversed : Except (Error U) Ordering → Except (Error U) Ordering
  | .ok o => .ok o.swap
  | .error (.notComparable position left right) => .error (.notComparable position right left)
  | .error e => .error e

namespace Store

theorem cmpFrom_reversed (hU : U.Dual) (p : Nat) (vs ws : List (Value U)) :
    cmpFrom p ws vs = reversed (cmpFrom p vs ws) := by
  induction vs generalizing p ws with
  | nil => cases ws <;> rfl
  | cons v vs ih =>
    cases ws with
    | nil => rfl
    | cons w ws =>
      unfold cmpFrom
      rw [Value.dualAt hU v w]
      rcases v.cmp? w with - | - | - | -
      · rfl
      · rfl
      · exact ih (p + 1) ws
      · rfl

/-- An error is always that of elements that are not ordered. -/
theorem cmpFrom_eq_error {p : Nat} {vs ws : List (Value U)} {e : Error U}
    (h : cmpFrom p vs ws = .error e) : ∃ q l r, e = .notComparable q l r := by
  induction vs generalizing p ws with
  | nil => cases ws <;> exact nomatch h
  | cons v vs ih =>
    cases ws with
    | nil => exact nomatch h
    | cons w ws =>
      unfold cmpFrom at h
      rcases hc : v.cmp? w with - | - | - | - <;> rw [hc] at h
      · exact ⟨p, v.ty, w.ty, (Except.error.inj h).symm⟩
      · exact nomatch h
      · exact ih h
      · exact nomatch h

theorem toOption_cmpFrom (p : Nat) (vs ws : List (Value U)) :
    (cmpFrom p vs ws).toOption = Value.cmpAll? vs ws := by
  induction vs generalizing p ws with
  | nil => cases ws <;> rfl
  | cons v vs ih =>
    cases ws with
    | nil => rfl
    | cons w ws =>
      unfold cmpFrom Value.cmpAll?
      rcases v.cmp? w with - | - | - | -
      · rfl
      · rfl
      · exact ih (p + 1) ws
      · rfl

/-- Equal elements lead to the same outcome, and to the same error. -/
theorem cmpFrom_congr (hU : U.Lawful) (p : Nat) {us vs : List (Value U)}
    (h : Value.beqAll us vs = true) (ws : List (Value U)) : cmpFrom p us ws = cmpFrom p vs ws := by
  have hall := Value.beqAll_iff_forall₂.mp h
  clear h
  induction hall generalizing p ws with
  | nil => rfl
  | @cons u v us vs huv _ ih =>
    cases ws with
    | nil => rfl
    | cons w ws =>
      have hcmp : u.cmp? w = v.cmp? w :=
        OrderAt.congr_left (Value.orderAt hU) (((Value.orderAt hU u).eq_iff v).mpr huv) w
      unfold cmpFrom
      rw [hcmp, Value.ty_eq_of_beq huv, ih (p + 1) ws]

end Store

namespace Tuple

/-! ### A tuple as an element -/

theorem cmp_of_depth_eq {t u : Tuple U} (h : t.depth = u.depth) :
    t.cmp u = Store.cmpFrom 1 t.toList u.toList := by
  unfold cmp Store.cmp
  rw [show compare t.elements.depth u.elements.depth = .eq from Nat.compare_eq_eq.mpr h]
  rfl

theorem cmp_of_depth_ne {t u : Tuple U} (h : t.depth ≠ u.depth) :
    t.cmp u = .ok (compare t.depth u.depth) := by
  unfold cmp Store.cmp
  rcases hc : compare t.elements.depth u.elements.depth with - | - | -
  · exact congrArg Except.ok hc.symm
  · exact absurd (Nat.compare_eq_eq.mp hc) h
  · exact congrArg Except.ok hc.symm

theorem toValue_cmp? (t u : Tuple U) : t.toValue.cmp? u.toValue = t.cmp? u := by
  show (if t.depth = u.depth then Value.cmpAll? t.toList u.toList
    else some (compare t.depth u.depth)) = (t.cmp u).toOption
  by_cases h : t.depth = u.depth
  · rw [if_pos h, cmp_of_depth_eq h, Store.toOption_cmpFrom]
  · rw [if_neg h, cmp_of_depth_ne h]
    rfl

theorem cmp_eq_ok_iff {t u : Tuple U} {o : Ordering} :
    t.cmp u = .ok o ↔ t.toValue.cmp? u.toValue = some o := by
  rw [toValue_cmp?, cmp?]
  rcases t.cmp u with e | o'
  · exact ⟨nofun, nofun⟩
  · exact ⟨fun h => congrArg some (Except.ok.inj h),
      fun h => congrArg Except.ok (Option.some.inj h)⟩

/-! ### Exchanged and equal operands -/

theorem cmp_reversed (hU : U.Dual) (t u : Tuple U) : u.cmp t = reversed (t.cmp u) := by
  by_cases h : t.depth = u.depth
  · rw [cmp_of_depth_eq h, cmp_of_depth_eq h.symm]
    exact Store.cmpFrom_reversed hU 1 _ _
  · rw [cmp_of_depth_ne h, cmp_of_depth_ne (Ne.symm h)]
    exact congrArg Except.ok (Nat.compare_swap t.depth u.depth).symm

theorem cmp_eq_error {t u : Tuple U} {e : Error U} (h : t.cmp u = .error e) :
    ∃ p l r, e = .notComparable p l r := by
  by_cases hd : t.depth = u.depth
  · rw [cmp_of_depth_eq hd] at h
    exact Store.cmpFrom_eq_error h
  · rw [cmp_of_depth_ne hd] at h
    exact nomatch h

theorem cmp_congr (hU : U.Lawful) {t u : Tuple U} (h : t.beq u = true) (w : Tuple U) :
    t.cmp w = u.cmp w := by
  have hdepth : t.depth = u.depth := Value.length_eq_of_beqAll h
  by_cases hw : u.depth = w.depth
  · rw [cmp_of_depth_eq (hdepth.trans hw), cmp_of_depth_eq hw]
    exact Store.cmpFrom_congr hU 1 h _
  · rw [cmp_of_depth_ne (hdepth ▸ hw), cmp_of_depth_ne hw, hdepth]

theorem cmp_eq_ok_iff_swap (hU : U.Dual) {t u : Tuple U} {o : Ordering} :
    t.cmp u = .ok o ↔ u.cmp t = .ok o.swap := by
  constructor <;> intro h
  · rw [cmp_reversed hU t u, h]
    rfl
  · rw [cmp_reversed hU u t, h]
    cases o <;> rfl

theorem cmp_eq_error_iff_swap (hU : U.Dual) {t u : Tuple U} {p : Nat} {l r : Ty U} :
    t.cmp u = .error (.notComparable p l r) ↔ u.cmp t = .error (.notComparable p r l) := by
  constructor <;> intro h
  · rw [cmp_reversed hU t u, h]
    rfl
  · rw [cmp_reversed hU u t, h]
    rfl

theorem cmp_eq_ok_eq_iff (hU : U.Coherent) {t u : Tuple U} : t.cmp u = .ok .eq ↔ t.beq u = true :=
  cmp_eq_ok_iff.trans (Value.coherentAt hU t.toValue u.toValue)

/-! ### The laws -/

/-- **The laws of equality and order** of values and of tuples of unknown types, nested to any depth.

If every kind keeps the documented contract: equality is symmetric and transitive, and only what is
not equal to itself inside a value keeps it from being so; values have the same place exactly if they
are equal; the order is reversed from the other side; and values of different types are neither equal
nor ordered.  For tuples the same holds with the errors: a comparison fails at the same position from
the other side, with the types exchanged.

If every kind also keeps the chains that mix "less" and "equal": the order is transitive, and values
and tuples in the same place compare alike with every third one, errors included.

The standard universe keeps both, and there only a NaN inside a value keeps it from being equal to
itself. -/
theorem equality_order_laws :
    (∀ U : Universe, U.Contract →
      (∀ a b c : Value U,
        a.beq b = b.beq a ∧
        (a.beq b = true → b.beq c = true → a.beq c = true) ∧
        (a.beq a = false ↔ a.Contains fun k x => U.beq k x x = false) ∧
        (a.cmp? b = some .eq ↔ a.beq b = true) ∧
        b.cmp? a = (a.cmp? b).map Ordering.swap ∧
        (a.ty ≠ b.ty → a.beq b = false ∧ a.cmp? b = none)) ∧
      ∀ t u w : Tuple U,
        t.beq u = u.beq t ∧
        (t.beq u = true → u.beq w = true → t.beq w = true) ∧
        (t.beq t = false ↔ t.toValue.Contains fun k x => U.beq k x x = false) ∧
        (t.cmp u = .ok .eq ↔ t.beq u = true) ∧
        (∀ o, t.cmp u = .ok o ↔ u.cmp t = .ok o.swap) ∧
        (∀ e, t.cmp u = .error e → ∃ p l r, e = .notComparable p l r) ∧
        ∀ p l r,
          t.cmp u = .error (.notComparable p l r) ↔ u.cmp t = .error (.notComparable p r l)) ∧
    (∀ U : Universe, U.Contract → U.MixedChains →
      (∀ a b c : Value U,
        (a.cmp? b = some .lt → b.cmp? c = some .lt → a.cmp? c = some .lt) ∧
        (a.cmp? b = some .eq → a.cmp? c = b.cmp? c)) ∧
      ∀ t u w : Tuple U,
        (t.cmp u = .ok .lt → u.cmp w = .ok .lt → t.cmp w = .ok .lt) ∧
        (t.cmp u = .ok .eq → t.cmp w = u.cmp w)) ∧
    Standard.Contract ∧ Standard.MixedChains ∧
    ∀ v : Value Standard, v.beq v = false ↔ v.Contains Standard.Kind.HasNaN := by
  refine ⟨fun U hU => ⟨fun a b c => ?_, fun t u w => ?_⟩,
    fun U hU hmixed => ⟨fun a b c => ?_, fun t u w => ?_⟩,
    Standard.lawful.contract, Standard.lawful.mixedChains, fun v => Standard.beq_self_eq_false_iff⟩
  · have hequiv := Value.equivAt hU.lawfulEq
    refine ⟨(hequiv b).symm a, (hequiv a).trans b c, Value.beq_self_eq_false_iff,
      Value.coherentAt hU.coherent a b, Value.dualAt hU.dual a b, fun hne => ⟨?_, ?_⟩⟩
    · exact Bool.eq_false_iff.mpr fun h => hne (Value.ty_eq_of_beq h)
    · exact Option.eq_none_iff_forall_ne_some.mpr fun o h => hne (Value.ty_eq_of_cmp? h)
  · have hequiv := Value.equivAt hU.lawfulEq
    exact ⟨(hequiv u.toValue).symm t.toValue, (hequiv t.toValue).trans u.toValue w.toValue,
      Value.beq_self_eq_false_iff (v := t.toValue), cmp_eq_ok_eq_iff hU.coherent,
      fun o => cmp_eq_ok_iff_swap hU.dual, fun e => cmp_eq_error,
      fun p l r => cmp_eq_error_iff_swap hU.dual⟩
  · have horder := Value.orderAt (hU.lawful hmixed)
    exact ⟨(horder a).lt_trans, fun h => OrderAt.congr_left horder h c⟩
  · have hlawful := hU.lawful hmixed
    refine ⟨fun htu huw => ?_, fun h => cmp_congr hlawful ((cmp_eq_ok_eq_iff hU.coherent).mp h) w⟩
    have hlt := (Value.orderAt hlawful t.toValue).lt_trans (cmp_eq_ok_iff.mp htu)
      (cmp_eq_ok_iff.mp huw)
    exact cmp_eq_ok_iff.mpr hlt

/-- The laws at tuples that hold tuples: the two zeros are in the same place, under a chain of an
equal and a smaller element and under an error, and a tuple with a NaN inside differs from
itself. -/
theorem equality_order_laws_zeros :
    let number (n : Nat) : Value Standard :=
      .leaf (Standard.Kind.binary .double) ⟨BitVec.ofNat 64 n⟩
    let zero := number 0
    let negative := number (Nat.pow 2 63)
    let one := number (1023 * Nat.pow 2 52)
    let text : Value Standard := .leaf Standard.Kind.string "a"
    let nan : Value Standard := .leaf (Standard.Kind.binary .double) (Binary.nan .double)
    let t : Tuple Standard := ⟨⟨[.dyn [zero], zero], by decide⟩⟩
    let u : Tuple Standard := ⟨⟨[.dyn [negative], one], by decide⟩⟩
    let w : Tuple Standard := ⟨⟨[.dyn [one], text], by decide⟩⟩
    let x : Tuple Standard := ⟨⟨[.dyn [negative], text], by decide⟩⟩
    t.cmp u = .ok .lt ∧ u.cmp w = .ok .lt ∧ t.cmp w = .ok .lt ∧ w.cmp t = .ok .gt ∧
      t.cmp x = .error (.notComparable 2 zero.ty text.ty) ∧
      x.cmp t = .error (.notComparable 2 text.ty zero.ty) ∧
      (Value.dyn [zero]).cmp? nan = (Value.dyn [negative]).cmp? nan ∧
      (Value.dyn [nan]).beq (.dyn [nan]) = false := by
  intro number zero negative one text nan t u w x
  obtain ⟨hcontract, hmixed, hstandard, hchains, hnan⟩ := equality_order_laws
  obtain ⟨-, htuples⟩ := hcontract Standard hstandard
  obtain ⟨hvalues, hless⟩ := hmixed Standard hstandard hchains
  obtain ⟨hchain, -⟩ := hless t u w
  obtain ⟨-, -, -, -, -, -, hswap⟩ := htuples t x u
  obtain ⟨-, hcongr⟩ := hvalues (.dyn [zero]) (.dyn [negative]) nan
  obtain ⟨-, -, -, -, hreverse, -⟩ := htuples t w u
  have htu : t.cmp u = .ok .lt := by rfl
  have huw : u.cmp w = .ok .lt := by rfl
  have htw : t.cmp w = .ok .lt := hchain htu huw
  have htx : t.cmp x = .error (.notComparable 2 zero.ty text.ty) := by rfl
  have hbits : (Binary.nan .double).isNaN = true := by decide
  refine ⟨htu, huw, htw, (hreverse .lt).mp htw, htx, (hswap _ _ _).mp htx, hcongr (by rfl),
    (hnan _).mpr ?_⟩
  exact .dyn List.mem_cons_self (.leaf hbits)

end Tuple

/-! ### Where chains mix -/

/-- Three marks, of which `high` and `twin` are equal and `low` is less than `high` only. -/
inductive Mark where
  | low
  | high
  | twin
deriving DecidableEq, Repr

namespace Mark

def beq : Mark → Mark → Bool
  | .high, .twin | .twin, .high => true
  | x, y => decide (x = y)

def cmp? : Mark → Mark → Option Ordering
  | .low, .high => some .lt
  | .high, .low => some .gt
  | x, y => if x.beq y then some .eq else none

def name : Mark → String
  | .low => "low"
  | .high => "high"
  | .twin => "twin"

end Mark

/-- The universe whose only elements are the three marks. -/
@[reducible]
def Marks : Universe where
  Kind := Unit
  kindEq := inferInstance
  Carrier _ := Mark
  name _ := "mark"
  beq _ := Mark.beq
  cmp? _ := Mark.cmp?
  text? _ _ := none
  outline _ x := .atom x.name

theorem Marks.contract : Marks.Contract where
  eq_symm := by rintro ⟨⟩ (_ | _ | _) (_ | _ | _) <;> decide
  eq_trans := by rintro ⟨⟩ (_ | _ | _) (_ | _ | _) (_ | _ | _) <;> decide
  eq_iff := by rintro ⟨⟩ (_ | _ | _) (_ | _ | _) <;> decide
  lt_iff_gt := by rintro ⟨⟩ (_ | _ | _) (_ | _ | _) <;> decide
  lt_trans := by rintro ⟨⟩ (_ | _ | _) (_ | _ | _) (_ | _ | _) <;> decide

namespace Tuple

/-- **The contract is not enough.**  The marks keep it.  Of three tuples of marks each is less than the
next, and the first and the last are not ordered; and two marks in the same place, and the tuples of
just these, do not compare alike with a third. -/
theorem equality_order_laws_marks :
    let mark (m : Mark) : Value Marks := .leaf () m
    let only (m : Mark) : Tuple Marks := ⟨⟨[mark m], by show 1 ≤ maxDepth; decide⟩⟩
    let t : Tuple Marks := ⟨⟨[mark .low, mark .low], by decide⟩⟩
    let u : Tuple Marks := ⟨⟨[mark .high, mark .low], by decide⟩⟩
    let w : Tuple Marks := ⟨⟨[mark .twin, mark .high], by decide⟩⟩
    Marks.Contract ∧
      (t.cmp u = .ok .lt ∧ u.cmp w = .ok .lt ∧
        t.cmp w = .error (.notComparable 1 (.leaf ()) (.leaf ()))) ∧
      ((mark .high).cmp? (mark .twin) = some .eq ∧ (mark .high).cmp? (mark .low) = some .gt ∧
        (mark .twin).cmp? (mark .low) = none) ∧
      (only .high).cmp (only .twin) = .ok .eq ∧ (only .high).cmp (only .low) = .ok .gt ∧
      (only .twin).cmp (only .low) = .error (.notComparable 1 (.leaf ()) (.leaf ())) := by
  intro mark only t u w
  exact ⟨Marks.contract, ⟨rfl, rfl, rfl⟩, ⟨rfl, rfl, rfl⟩, rfl, rfl, rfl⟩

end Tuple

end Polyad
