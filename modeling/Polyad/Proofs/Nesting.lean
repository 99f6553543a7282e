/-
Polyad/Proofs/Nesting.lean

Equality and order of nested values: what the kinds of a universe promise of their values holds of
all values, tuples within tuples included.

Idea.  By induction on a value (`Value.induct`) a law holds of it against all others: a value of a
kind inherits it from its kind, and a tuple from its elements.  To use the laws of lists, the
comparison of two tuples is written as one comparison after another, of the depths or of the types
first and of the lists of elements then (`cmp?_dyn`, `cmp?_tuple`). Values of different form are not
equal and not ordered, so each form can be dealt with by itself (`OrderAt.embed`).

Note where each hypothesis is consumed.  That an order keeps to equality (`Universe.Coherent`) and
that it is reversed from the other side (`Universe.Dual`) pass to nested values by themselves, and the
documented contract (`Universe.Contract`) gives both.  Transitivity needs more than the contract: the
two chains that mix a step up with one that stays (`Universe.MixedChains`).  A universe that keeps all
of it is lawful (`Universe.lawful_iff`).

Main statements: `Value.equivAt`, `Value.coherentAt`, `Value.dualAt`, `Value.orderAt`,
`Value.ty_eq_of_beq`, `Value.beq_self_eq_false_iff`.
-/
import Polyad.Value
import Polyad.Proofs.Comparison

namespace Polyad

open Comparison
open Standard (lexicographic equalItems)

/-- The values of every kind are compared by a symmetric and transitive equality. -/
def Universe.LawfulEq (U : Universe) : Prop :=
  ∀ k x, EquivAt (U.beq k) x

/-- The order of every kind keeps to its equality: two values have the same place exactly if they are
equal. -/
def Universe.Coherent (U : Universe) : Prop :=
  ∀ k x, CoherentAt (U.beq k) (U.cmp? k) x

/-- The order of every kind is reversed if it is seen from the other side. -/
def Universe.Dual (U : Universe) : Prop :=
  ∀ k x, DualAt (U.cmp? k) x

/-- The contract of an equality and of an order with gaps as it is documented, for the values of every
kind: equality is symmetric and transitive, two values have the same place exactly if they are equal,
"less" from one side is "greater" from the other, and "less" is transitive.  Neither reflexivity nor
totality is asked for, and nothing is said of a chain of something less and something equal. -/
structure Universe.Contract (U : Universe) : Prop where
  eq_symm : ∀ k x y, U.beq k x y = true → U.beq k y x = true
  eq_trans : ∀ k x y z, U.beq k x y = true → U.beq k y z = true → U.beq k x z = true
  eq_iff : ∀ k x y, U.cmp? k x y = some .eq ↔ U.beq k x y = true
  lt_iff_gt : ∀ k x y, U.cmp? k x y = some .lt ↔ U.cmp? k y x = some .gt
  lt_trans : ∀ k x y z, U.cmp? k x y = some .lt → U.cmp? k y z = some .lt → U.cmp? k x z = some .lt

/-- What the contract leaves open: a value that is less than another one, or greater, is so against
everything that is equal to the other one. -/
structure Universe.MixedChains (U : Universe) : Prop where
  lt_of_lt_of_eq : ∀ k x y z, U.cmp? k x y = some .lt → U.beq k y z = true → U.cmp? k x z = some .lt
  lt_of_eq_of_lt : ∀ k x y z, U.beq k x y = true → U.cmp? k y z = some .lt → U.cmp? k x z = some .lt

/-- The values of every kind are compared by an order that keeps to their equality, is reversed
from the other side, and is transitive, also along chains that mix "less" and "equal".  This is the
documented contract and the mixed chains beyond it (`Universe.lawful_iff`). -/
def Universe.Lawful (U : Universe) : Prop :=
  ∀ k x, OrderAt (U.beq k) (U.cmp? k) x

/-- Equal values of a kind carry the same text, or none does. -/
def Universe.SameText (U : Universe) : Prop :=
  ∀ k x y, U.beq k x y = true → U.text? k x = U.text? k y

/-! ### The contract, and what goes beyond it -/

namespace Universe

variable {U : Universe}

theorem Lawful.lawfulEq (h : U.Lawful) : U.LawfulEq :=
  fun k => OrderAt.equivAt (h k)

theorem Lawful.coherent (h : U.Lawful) : U.Coherent := fun k x => (h k x).eq_iff

namespace Contract

theorem lawfulEq (h : U.Contract) : U.LawfulEq := by
  refine fun k x => ⟨fun y => ?_, fun y z => h.eq_trans k x y z⟩
  rw [Bool.eq_iff_iff]
  exact ⟨h.eq_symm k y x, h.eq_symm k x y⟩

theorem coherent (h : U.Contract) : U.Coherent := h.eq_iff

/-- What is neither less nor equal nor greater from one side is none of these from the other. -/
theorem dual (h : U.Contract) : U.Dual := by
  intro k x y
  have hlt := h.lt_iff_gt k x y
  have hgt := h.lt_iff_gt k y x
  have heq : U.cmp? k x y = some .eq ↔ U.cmp? k y x = some .eq := by
    rw [h.eq_iff, h.eq_iff]
    exact ⟨h.eq_symm k x y, h.eq_symm k y x⟩
  generalize U.cmp? k x y = o at hlt hgt heq ⊢
  generalize U.cmp? k y x = p at hlt hgt heq ⊢
  rcases o with - | - | - | - <;> rcases p with - | - | - | - <;> simp at hlt hgt heq ⊢

end Contract

theorem Contract.lawful (h : U.Contract) (hmixed : U.MixedChains) : U.Lawful := by
  refine fun k x => ⟨h.coherent k x, h.dual k x, fun y z o p hxy hyz ho hp => ?_⟩
  cases o with
  | gt => exact absurd rfl ho
  | lt =>
    cases p with
    | gt => exact absurd rfl hp
    | lt => exact h.lt_trans k x y z hxy hyz
    | eq => exact hmixed.lt_of_lt_of_eq k x y z hxy ((h.eq_iff k y z).mp hyz)
  | eq =>
    have hbeq := (h.eq_iff k x y).mp hxy
    cases p with
    | gt => exact absurd rfl hp
    | lt => exact hmixed.lt_of_eq_of_lt k x y z hbeq hyz
    | eq => exact (h.eq_iff k x z).mpr (h.eq_trans k x y z hbeq ((h.eq_iff k y z).mp hyz))

theorem Lawful.contract (h : U.Lawful) : U.Contract where
  eq_symm k x y hxy := (h.lawfulEq k x).symm y ▸ hxy
  eq_trans k x := (h.lawfulEq k x).trans
  eq_iff k x := (h k x).eq_iff
  lt_iff_gt k x y := by
    rw [(h k x).swap y]
    rcases U.cmp? k x y with - | - | - | - <;> simp
  lt_trans k x _ _ := (h k x).lt_trans

theorem Lawful.mixedChains (h : U.Lawful) : U.MixedChains where
  lt_of_lt_of_eq k x y z hxy hyz :=
    (h k x).chain y z .lt .eq hxy (((h k y).eq_iff z).mpr hyz) (by decide) (by decide)
  lt_of_eq_of_lt k x y z hxy hyz :=
    (h k x).chain y z .eq .lt (((h k x).eq_iff y).mpr hxy) hyz (by decide) (by decide)

/-- **A universe is lawful exactly if it keeps the documented contract and the mixed chains.** -/
theorem lawful_iff : U.Lawful ↔ U.Contract ∧ U.MixedChains :=
  ⟨fun h => ⟨h.contract, h.mixedChains⟩, fun h => h.1.lawful h.2⟩

end Universe

namespace Value

variable {U : Universe}

/-- Induction on a value: a property of all values of a kind that every tuple has if its elements
do. -/
theorem induct {P : Value U → Prop} (leaf : ∀ k x, P (.leaf k x))
    (dyn : ∀ xs, (∀ x ∈ xs, P x) → P (.dyn xs)) (tuple : ∀ xs, (∀ x ∈ xs, P x) → P (.tuple xs))
    (v : Value U) : P v :=
  @Value.rec U P (fun xs => ∀ x ∈ xs, P x) leaf dyn tuple (fun _ hx => nomatch hx)
    (fun _ _ hv hvs _ hx => (List.mem_cons.mp hx).elim (· ▸ hv) (hvs _)) v

/-! ### The comparisons of elements as those of lists -/

theorem beqAll_eq (xs ys : List (Value U)) : beqAll xs ys = equalItems beq xs ys := by
  induction xs generalizing ys with
  | nil => cases ys <;> rfl
  | cons x xs ih =>
    cases ys with
    | nil => rfl
    | cons y ys =>
      show (beq x y && beqAll xs ys) = (beq x y && equalItems beq xs ys)
      rw [ih]

theorem cmpAll?_eq {xs ys : List (Value U)} (h : xs.length = ys.length) :
    cmpAll? xs ys = lexicographic cmp? xs ys := by
  induction xs generalizing ys with
  | nil =>
    cases ys with
    | nil => rfl
    | cons y ys => exact nomatch h
  | cons x xs ih =>
    cases ys with
    | nil => exact nomatch h
    | cons y ys =>
      show next (cmp? x y) (cmpAll? xs ys) = next (cmp? x y) (lexicographic cmp? xs ys)
      rw [ih (Nat.succ.inj h)]

theorem beqAll_iff_forall₂ {xs ys : List (Value U)} :
    beqAll xs ys = true ↔ List.Forall₂ (fun x y => x.beq y = true) xs ys := by
  rw [beqAll_eq, equalItems_iff_forall₂]

theorem length_eq_of_beqAll {xs ys : List (Value U)} (h : beqAll xs ys = true) :
    xs.length = ys.length :=
  (beqAll_iff_forall₂.mp h).length_eq

/-- Equal lists of values have equal values at every index, or none. -/
theorem getElem?_rel_of_beqAll {vs ws : List (Value U)} (h : beqAll vs ws = true) (i : Nat) :
    Option.Rel (fun v w => v.beq w = true) vs[i]? ws[i]? := by
  induction beqAll_iff_forall₂.mp h generalizing i with
  | nil => exact .none
  | cons hvw hvws ih =>
    cases i with
    | zero => exact .some hvw
    | succ i => exact ih (beqAll_iff_forall₂.mpr hvws) i

/-! ### Values of different types -/

theorem types_eq_of_beqAll {xs ys : List (Value U)}
    (hty : ∀ x ∈ xs, ∀ y, x.beq y = true → x.ty = y.ty) (h : beqAll xs ys = true) :
    types xs = types ys := by
  have hall := beqAll_iff_forall₂.mp h
  clear h
  induction hall with
  | nil => rfl
  | @cons x y xs ys hxy _ ih =>
    have hrest := ih fun x hx => hty x (List.mem_cons_of_mem _ hx)
    rw [types_cons, types_cons, hty x List.mem_cons_self y hxy, hrest]

/-- Equal values are of one type. -/
theorem ty_eq_of_beq {v w : Value U} (h : v.beq w = true) : v.ty = w.ty := by
  induction v using induct generalizing w with
  | leaf k x =>
    cases w with
    | leaf j y =>
      by_cases hkj : k = j
      · rw [ty, ty, hkj]
      · simp [beq, hkj] at h
    | dyn ys => exact absurd h Bool.false_ne_true
    | tuple ys => exact absurd h Bool.false_ne_true
  | dyn xs _ =>
    cases w with
    | leaf j y => exact absurd h Bool.false_ne_true
    | dyn ys => rfl
    | tuple ys => exact absurd h Bool.false_ne_true
  | tuple xs ih =>
    cases w with
    | leaf j y => exact absurd h Bool.false_ne_true
    | dyn ys => exact absurd h Bool.false_ne_true
    | tuple ys => exact congrArg Ty.tuple (types_eq_of_beqAll (fun x hx y => ih x hx) h)

/-- Ordered values are of one type. -/
theorem ty_eq_of_cmp? {v w : Value U} {o : Ordering} (h : v.cmp? w = some o) : v.ty = w.ty := by
  cases v <;> cases w
  case leaf.leaf k x j y =>
    by_cases hkj : k = j
    · rw [ty, ty, hkj]
    · simp [cmp?, hkj] at h
  case dyn.dyn => rfl
  case tuple.tuple xs ys =>
    by_cases htypes : types xs = types ys
    · exact congrArg Ty.tuple htypes
    · simp [cmp?, htypes] at h
  all_goals exact absurd h.symm (Option.some_ne_none o)

theorem text?_eq_of_beq (hU : U.SameText) {v w : Value U} (h : v.beq w = true) :
    v.text? = w.text? := by
  cases v <;> cases w
  case leaf.leaf k x j y =>
    obtain rfl := Ty.leaf.inj (ty_eq_of_beq h)
    exact hU k x y (by simpa [beq] using h)
  case dyn.dyn => rfl
  case tuple.tuple => rfl
  all_goals exact nomatch h

/-! ### Tuples compare by depth or types, and then by elements -/

theorem beq_leaf (k : U.Kind) (x y : U.Carrier k) :
    (leaf k x).beq (leaf k y) = U.beq k x y := by
  simp [beq]

theorem cmp?_leaf (k : U.Kind) (x y : U.Carrier k) :
    (leaf k x).cmp? (leaf k y) = U.cmp? k x y := by
  simp [cmp?]

theorem beq_dyn (xs ys : List (Value U)) :
    (dyn xs).beq (dyn ys) = (decide (xs.length = ys.length) && equalItems beq xs ys) := by
  show beqAll xs ys = _
  rw [← beqAll_eq, Bool.eq_iff_iff, Bool.and_eq_true, decide_eq_true_iff]
  exact ⟨fun h => ⟨length_eq_of_beqAll h, h⟩, And.right⟩

theorem cmp?_dyn (xs ys : List (Value U)) :
    (dyn xs).cmp? (dyn ys)
      = next (some (compare xs.length ys.length)) (lexicographic cmp? xs ys) := by
  show (if xs.length = ys.length then cmpAll? xs ys else some (compare xs.length ys.length)) = _
  by_cases h : xs.length = ys.length
  · rw [if_pos h, cmpAll?_eq h, Nat.compare_eq_eq.mpr h]
    rfl
  · rw [if_neg h]
    -- depths that differ decide by themselves
    rcases hc : compare xs.length ys.length with - | - | -
    · rfl
    · exact absurd (Nat.compare_eq_eq.mp hc) h
    · rfl

theorem beq_tuple (xs ys : List (Value U)) :
    (tuple xs).beq (tuple ys) = (decide (types xs = types ys) && equalItems beq xs ys) := by
  show beqAll xs ys = _
  rw [← beqAll_eq, Bool.eq_iff_iff, Bool.and_eq_true, decide_eq_true_iff]
  exact ⟨fun h => ⟨types_eq_of_beqAll (fun _ _ _ => ty_eq_of_beq) h, h⟩, And.right⟩

theorem cmp?_tuple (xs ys : List (Value U)) :
    (tuple xs).cmp? (tuple ys)
      = next (if types xs = types ys then some .eq else none) (lexicographic cmp? xs ys) := by
  show (if types xs = types ys then cmpAll? xs ys else none) = _
  by_cases h : types xs = types ys
  · have hlength : xs.length = ys.length := by
      rw [← length_types, h, length_types]
    rw [if_pos h, if_pos h, cmpAll?_eq hlength]
    rfl
  · rw [if_neg h, if_neg h]
    rfl

/-! ### The laws of all values -/

theorem exists_leaf_of_ty {k : U.Kind} {x : U.Carrier k} {w : Value U}
    (h : (leaf k x).ty = w.ty) : ∃ y, w = leaf k y :=
  eq_leaf_of_ty h.symm

theorem exists_dyn_of_ty {xs : List (Value U)} {w : Value U} (h : (dyn xs).ty = w.ty) :
    ∃ ys, w = dyn ys :=
  eq_dyn_of_ty h.symm

theorem exists_tuple_of_ty {xs : List (Value U)} {w : Value U} (h : (tuple xs).ty = w.ty) :
    ∃ ys, w = tuple ys := by
  obtain ⟨ys, rfl, -⟩ := eq_tuple_of_ty h.symm
  exact ⟨ys, rfl⟩

/-- Depths are in a total order. -/
theorem orderAt_depth (n : Nat) :
    OrderAt (fun m n : Nat => decide (m = n)) (fun m n => some (compare m n)) n :=
  .key id (fun _ _ => decide_eq_true_iff) n

/-- **Equality of nested values** is symmetric and transitive if that of every kind is. -/
theorem equivAt (hU : U.LawfulEq) (v : Value U) : EquivAt beq v := by
  induction v using induct with
  | leaf k x => exact (hU k x).embed (beq_leaf k) ty_eq_of_beq exists_leaf_of_ty
  | dyn xs ih => exact (EquivAt.list ih).embed beqAll_eq ty_eq_of_beq exists_dyn_of_ty
  | tuple xs ih => exact (EquivAt.list ih).embed beqAll_eq ty_eq_of_beq exists_tuple_of_ty

/-- **The order of nested values** keeps to their equality if that of every kind does. -/
theorem coherentAt (hU : U.Coherent) (v : Value U) : CoherentAt beq cmp? v := by
  induction v using induct with
  | leaf k x =>
    exact (hU k x).embed (beq_leaf k) (cmp?_leaf k) ty_eq_of_beq ty_eq_of_cmp? exists_leaf_of_ty
  | dyn xs ih =>
    have hboth := CoherentAt.both List.length id (orderAt_depth xs.length).eq_iff (CoherentAt.list ih)
    exact hboth.embed beq_dyn cmp?_dyn ty_eq_of_beq ty_eq_of_cmp? exists_dyn_of_ty
  | tuple xs ih =>
    have hboth := CoherentAt.both types id (OrderAt.discrete (types xs)).eq_iff (CoherentAt.list ih)
    exact hboth.embed beq_tuple cmp?_tuple ty_eq_of_beq ty_eq_of_cmp? exists_tuple_of_ty

/-- It is reversed from the other side if that of every kind is. -/
theorem dualAt (hU : U.Dual) (v : Value U) : DualAt cmp? v := by
  induction v using induct with
  | leaf k x => exact (hU k x).embed (cmp?_leaf k) ty_eq_of_cmp? exists_leaf_of_ty
  | dyn xs ih =>
    have hboth := DualAt.both List.length id (orderAt_depth xs.length).swap (DualAt.list ih)
    exact hboth.embed cmp?_dyn ty_eq_of_cmp? exists_dyn_of_ty
  | tuple xs ih =>
    have hboth := DualAt.both types id (OrderAt.discrete (types xs)).swap (DualAt.list ih)
    exact hboth.embed cmp?_tuple ty_eq_of_cmp? exists_tuple_of_ty

theorem orderAt_leaf {k : U.Kind} {x : U.Carrier k} (h : OrderAt (U.beq k) (U.cmp? k) x) :
    OrderAt beq cmp? (leaf k x) :=
  h.embed (beq_leaf k) (cmp?_leaf k) ty_eq_of_beq ty_eq_of_cmp? exists_leaf_of_ty

theorem orderAt_dyn {xs : List (Value U)} (h : ∀ x ∈ xs, OrderAt beq cmp? x) :
    OrderAt beq cmp? (dyn xs) :=
  (OrderAt.both List.length id (orderAt_depth xs.length) (OrderAt.list h)).embed beq_dyn cmp?_dyn
    ty_eq_of_beq ty_eq_of_cmp? exists_dyn_of_ty

theorem orderAt_tuple {xs : List (Value U)} (h : ∀ x ∈ xs, OrderAt beq cmp? x) :
    OrderAt beq cmp? (tuple xs) :=
  (OrderAt.both types id (.discrete (types xs)) (OrderAt.list h)).embed beq_tuple cmp?_tuple
    ty_eq_of_beq ty_eq_of_cmp? exists_tuple_of_ty

/-- **It is lawful** if that of every kind is: with the mixed chains it is transitive too. -/
theorem orderAt (hU : U.Lawful) (v : Value U) : OrderAt beq cmp? v := by
  induction v using induct with
  | leaf k x => exact orderAt_leaf (hU k x)
  | dyn xs ih => exact orderAt_dyn ih
  | tuple xs ih => exact orderAt_tuple ih

/-! ### Values that are not equal to themselves -/

/-- Somewhere inside a value there is a value of a kind that has the property `P`. -/
inductive Contains (P : (k : U.Kind) → U.Carrier k → Prop) : Value U → Prop
  | leaf {k x} (h : P k x) : Contains P (.leaf k x)
  | dyn {v vs} (hv : v ∈ vs) (h : Contains P v) : Contains P (.dyn vs)
  | tuple {v vs} (hv : v ∈ vs) (h : Contains P v) : Contains P (.tuple vs)

theorem beqAll_self_eq_false_iff {vs : List (Value U)} :
    beqAll vs vs = false ↔ ∃ v ∈ vs, v.beq v = false := by
  induction vs with
  | nil => exact ⟨nofun, fun ⟨_, hv, _⟩ => nomatch hv⟩
  | cons v vs ih =>
    show (beq v v && beqAll vs vs) = false ↔ _
    rw [Bool.and_eq_false_iff, ih]
    simp only [List.mem_cons, exists_eq_or_imp]

/-- **A value differs from itself** exactly if a value of some kind inside it does. -/
theorem beq_self_eq_false_iff {v : Value U} :
    v.beq v = false ↔ v.Contains fun k x => U.beq k x x = false := by
  induction v using induct with
  | leaf k x =>
    rw [beq_leaf]
    exact ⟨fun h => .leaf h, fun (.leaf h) => h⟩
  | dyn vs ih =>
    show beqAll vs vs = false ↔ _
    rw [beqAll_self_eq_false_iff]
    constructor
    · rintro ⟨v, hv, h⟩
      exact .dyn hv ((ih v hv).mp h)
    · rintro (_ | ⟨hv, h⟩)
      exact ⟨_, hv, (ih _ hv).mpr h⟩
  | tuple vs ih =>
    show beqAll vs vs = false ↔ _
    rw [beqAll_self_eq_false_iff]
    constructor
    · rintro ⟨v, hv, h⟩
      exact .tuple hv ((ih v hv).mp h)
    · rintro (_ | _ | ⟨hv, h⟩)
      exact ⟨_, hv, (ih _ hv).mpr h⟩

end Value

end Polyad
