/-
Polyad/Proofs/TotalOrder.lean

Tuples of known types are in a total order if the values of their element types are, and it is the
order that they have when nothing is known of their types.

The total order goes down the list of types and looks for a value of the type at each offset.  The
order of unknown types compares the depths, goes down the two lists of values, and may find that two
of them are not ordered.

Idea.  A tuple of known types is compared as the element that it can be of another tuple
(`collate_eq`, `cmp?_eq`), so that the whole is a law of nested values.  There the induction is on the
type: the values of a kind are in a total order by assumption, and the tuples of some types are if
the values of these types are (`Value.cmp?_eq_collate`, `Value.orderAt_of_collated`).  An order that
leaves nothing undecided is total (`OrderAt.transCmp`).

Main statement: `Typed.collate_total`.
-/
import Polyad.Typed
import Polyad.Standard.Capability
import Polyad.Proofs.TupleOrder

namespace Polyad

open Comparison

variable {U : Universe} {c : Collation U}

/-! ### Types whose values are in a total order -/

/-- What the total order of a kind owes to its equality and to its order: that it is transitive and
reversed from the other side, that the same values are equal in it, and that it is the order of any
two values. -/
structure Collation.LawfulAt (c : Collation U) (k : U.Kind) : Prop where
  order : Std.TransCmp (c.compare k)
  eq_iff : ∀ x y, c.compare k x y = .eq ↔ U.beq k x y = true
  decides : ∀ x y, U.cmp? k x y = some (c.compare k x y)

/-- A type of values in a total order: a kind whose values are, or the tuples of such types.
Tuples of unknown types are in none. -/
inductive Ty.Collated (c : Collation U) : Ty U → Prop where
  | leaf {k : U.Kind} (h : c.LawfulAt k) : Collated c (.leaf k)
  | tuple {ts : List (Ty U)} (h : ∀ t ∈ ts, Collated c t) : Collated c (.tuple ts)

theorem Collation.LawfulAt.orderAt {k : U.Kind} (h : c.LawfulAt k) (x : U.Carrier k) :
    OrderAt (U.beq k) (U.cmp? k) x := by
  have hcmp : U.cmp? k = fun x y => some (c.compare k x y) :=
    funext fun x => funext fun y => h.decides x y
  have horder := h.order
  rw [hcmp]
  exact OrderAt.total h.eq_iff x

/-! ### Nested values -/

namespace Value

variable {t : Ty U} {v w : Value U}

/-- Values of the same types are ordered one after the other by the total order, if each is. -/
theorem cmpAll?_eq_collateAll {vs ws : List (Value U)}
    (h : ∀ v ∈ vs, ∀ w, w.ty = v.ty → v.cmp? w = some (collate c v w))
    (htypes : types ws = types vs) : cmpAll? vs ws = some (collateAll c vs ws) := by
  induction vs generalizing ws with
  | nil =>
    obtain rfl := eq_nil_of_types_eq_nil htypes
    rfl
  | cons v vs ih =>
    cases ws with
    | nil => exact absurd htypes (by simp)
    | cons w ws =>
      obtain ⟨hty, hrest⟩ := List.cons.inj htypes
      have htail := ih (fun x hx => h x (List.mem_cons_of_mem v hx)) hrest
      -- the heads are ordered in both ways alike, and only equal ones pass on to the tails
      unfold cmpAll? collateAll
      rw [h v List.mem_cons_self w hty, htail]
      cases collate c v w <;> rfl

/-- **The order of two values of a collated type is the total one.** -/
theorem cmp?_eq_collate (ht : t.Collated c) (hv : v.ty = t) (hw : w.ty = t) :
    v.cmp? w = some (collate c v w) := by
  induction ht generalizing v w with
  | @leaf k hk =>
    obtain ⟨x, rfl⟩ := eq_leaf_of_ty hv
    obtain ⟨y, rfl⟩ := eq_leaf_of_ty hw
    rw [cmp?_leaf, hk.decides]
    simp [collate]
  | @tuple ts _ ih =>
    obtain ⟨xs, rfl, hxs⟩ := eq_tuple_of_ty hv
    obtain ⟨ys, rfl, hys⟩ := eq_tuple_of_ty hw
    have htypes : types ys = types xs := hys.trans hxs.symm
    -- each element is of one of the types, and so is the other tuple's at its place
    have hall : ∀ x ∈ xs, ∀ y, y.ty = x.ty → x.cmp? y = some (collate c x y) := by
      intro x hx y hy
      have hmem : x.ty ∈ ts := by
        rw [← hxs, types_eq_map]
        exact List.mem_map_of_mem hx
      exact ih x.ty hmem rfl hy
    show (if types xs = types ys then cmpAll? xs ys else none) = some (collateAll c xs ys)
    rw [if_pos htypes.symm, cmpAll?_eq_collateAll hall htypes]

/-- Values of a collated type keep the laws of an order, whatever the other types do. -/
theorem orderAt_of_collated (ht : t.Collated c) (hv : v.ty = t) : OrderAt beq cmp? v := by
  induction ht generalizing v with
  | @leaf k hk =>
    obtain ⟨x, rfl⟩ := eq_leaf_of_ty hv
    exact orderAt_leaf (hk.orderAt x)
  | @tuple ts _ ih =>
    obtain ⟨xs, rfl, hxs⟩ := eq_tuple_of_ty hv
    refine orderAt_tuple fun x hx => ?_
    have hmem : x.ty ∈ ts := by
      rw [← hxs, types_eq_map]
      exact List.mem_map_of_mem hx
    exact ih x.ty hmem rfl

end Value

/-! ### The order by types and offsets -/

/-- Where all values are of the types, none is missing, and the values are compared one by one. -/
theorem Capability.collateEach_of_types_drop {ts : List (Ty U)} {left right : List (Value U)}
    {offset : UInt64} (hword : offset.toNat + ts.length < UInt64.size)
    (hleft : Value.types (left.drop offset.toNat) = ts)
    (hright : Value.types (right.drop offset.toNat) = ts) :
    collateEach c ts left right offset
      = Value.collateAll c (left.drop offset.toNat) (right.drop offset.toNat) := by
  induction ts generalizing offset with
  | nil =>
    rw [Value.eq_nil_of_types_eq_nil hleft]
    simp [collateEach, Value.collateAll]
  | cons t ts ih =>
    rw [List.length_cons] at hword
    have hstep : (offset + 1).toNat = offset.toNat + 1 := toNat_succ (by omega)
    obtain ⟨v, hv, -, hdrop, hrest⟩ := exists_typedAt_of_types_drop hleft
    obtain ⟨w, hw, -, hdrop', hrest'⟩ := exists_typedAt_of_types_drop hright
    rw [← hstep] at hdrop hrest hdrop' hrest'
    unfold collateEach
    rw [hv, hw, ih (by omega) hrest hrest', hdrop, hdrop']
    rfl

namespace Typed

variable {ts : List (Ty U)}

/-! ### A tuple as an element -/

theorem ty_toValue (t : Typed U ts) : t.toValue.ty = .tuple ts :=
  congrArg Ty.tuple t.types_elements

theorem collate_eq (t u : Typed U ts) : t.collate c u = Value.collate c t.toValue u.toValue := by
  have hword := Capability.toNat_zero_add_lt t.length_types_le
  exact Capability.collateEach_of_types_drop hword t.types_elements u.types_elements

theorem depth_eq (t u : Typed U ts) : t.erase.depth = u.erase.depth :=
  t.length_types.symm.trans u.length_types

theorem cmp?_eq (t u : Typed U ts) : t.cmp? u = t.toValue.cmp? u.toValue := by
  have htypes : Value.types t.toList = Value.types u.toList :=
    t.types_elements.trans u.types_elements.symm
  show (t.erase.cmp u.erase).toOption
    = if Value.types t.toList = Value.types u.toList then Value.cmpAll? t.toList u.toList else none
  rw [if_pos htypes, Tuple.cmp_of_depth_eq (depth_eq t u), Store.toOption_cmpFrom]
  rfl

/-- **The order of two tuples of collated types is the total one.** -/
theorem cmp?_eq_collate (h : ∀ s ∈ ts, s.Collated c) (t u : Typed U ts) :
    t.cmp? u = some (t.collate c u) := by
  rw [cmp?_eq, collate_eq]
  exact Value.cmp?_eq_collate (.tuple h) t.ty_toValue u.ty_toValue

theorem collate_eq_eq_iff (h : ∀ s ∈ ts, s.Collated c) (t u : Typed U ts) :
    t.collate c u = .eq ↔ t.beq u = true := by
  have horder := Value.orderAt_of_collated (.tuple h) t.ty_toValue
  have hplace : t.cmp? u = some .eq ↔ t.beq u = true := by
    rw [cmp?_eq]
    exact horder.eq_iff u.toValue
  rw [← hplace, cmp?_eq_collate h, Option.some.injEq]

/-- The tuples of collated types are in a total order. -/
theorem transCmp_collate (h : ∀ s ∈ ts, s.Collated c) :
    Std.TransCmp (Typed.collate c : Typed U ts → Typed U ts → Ordering) :=
  OrderAt.transCmp toValue (fun t => Value.orderAt_of_collated (.tuple h) t.ty_toValue)
    fun t u => (cmp?_eq t u).symm.trans (cmp?_eq_collate h t u)

end Typed

/-! ### The standard universe -/

namespace Standard

namespace Kind

/-- There is no floating-point number inside the values of the kind. -/
def Exact : Kind → Prop
  | .binary _ => False
  | .option k | .list k => k.Exact
  | .pair k j => k.Exact ∧ j.Exact
  | _ => True

/-- A list order that decides all items decides all lists. -/
theorem lexicographic_eq_compareLex {α : Type} {cmp? : α → α → Option Ordering}
    {cmp : α → α → Ordering} (h : ∀ x y, cmp? x y = some (cmp x y)) (xs ys : List α) :
    lexicographic cmp? xs ys = some (List.compareLex cmp xs ys) := by
  induction xs generalizing ys with
  | nil => cases ys <;> simp [lexicographic, List.compareLex]
  | cons x xs ih =>
    cases ys with
    | nil => simp [lexicographic, List.compareLex]
    | cons y ys =>
      unfold lexicographic
      rw [h, List.compareLex_cons_cons]
      cases cmp x y with
      | eq => exact ih ys
      | lt | gt => rfl

/-- **Without floating-point numbers the order of a kind is the total one.** -/
theorem cmp?_eq_collate {k : Kind} (hk : k.Exact) (x y : k.Carrier) :
    cmp? k x y = some (collate k x y) := by
  induction k with
  | binary p => exact hk.elim
  | option k ih =>
    rcases x with - | x <;> rcases y with - | y
    · rfl
    · rfl
    · rfl
    · exact ih hk x y
  | list k ih => exact lexicographic_eq_compareLex (ih hk) x y
  | pair k j ihk ihj =>
    unfold cmp? collate
    rw [ihk hk.1, ihj hk.2]
    cases collate k x.1 y.1 <;> rfl
  | unit | bool | char | ordering | integer _ | string | literal | boxed => rfl

end Kind

theorem lawfulAt_collation {k : Kind} (hk : k.Exact) : collation.LawfulAt k where
  order := OrderAt.transCmp id (Kind.orderAt k) (Kind.cmp?_eq_collate hk)
  eq_iff x y := by
    rw [← (Kind.orderAt k x).eq_iff y, Kind.cmp?_eq_collate hk, Option.some.injEq]
    rfl
  decides := Kind.cmp?_eq_collate hk

end Standard

/-! ### The laws -/

namespace Typed

/-- **Tuples of known types are in a total order** if the values of their types are, tuples of such
types among them; and without floating-point numbers these are the types of the standard universe.

The comparison that takes nothing of the types as known comes to the same outcome, and so never
fails; tuples have the same place exactly if they are equal, as each is to itself; the order is
reversed from the other side; of two tuples one is at most the other, both only if they are equal;
and the order is transitive, with a strict step anywhere also strictly. -/
theorem collate_total :
    (∀ (U : Universe) (c : Collation U) (ts : List (Ty U)), (∀ s ∈ ts, s.Collated c) →
      ∀ t u w : Typed U ts,
        t.cmp? u = some (t.collate c u) ∧
        t.erase.cmp u.erase = .ok (t.collate c u) ∧
        (t.collate c u = .eq ↔ t.beq u = true) ∧
        t.beq t = true ∧
        u.collate c t = (t.collate c u).swap ∧
        ((t.collate c u).isLE ∨ (u.collate c t).isLE) ∧
        ((t.collate c u).isLE → (u.collate c t).isLE → t.beq u = true) ∧
        ((t.collate c u).isLE → (u.collate c w).isLE → (t.collate c w).isLE) ∧
        (t.collate c u = .lt → (u.collate c w).isLE → t.collate c w = .lt) ∧
        ((t.collate c u).isLE → u.collate c w = .lt → t.collate c w = .lt)) ∧
    ∀ k : Standard.Kind, k.Exact → Standard.collation.LawfulAt k := by
  refine ⟨fun U c ts h t u w => ?_, fun k => Standard.lawfulAt_collation⟩
  have htrans := transCmp_collate h
  have hdecided : t.cmp? u = some (t.collate c u) := cmp?_eq_collate h t u
  have hcmp : t.erase.cmp u.erase = .ok (t.collate c u) :=
    Tuple.cmp_eq_ok_iff.mpr ((Tuple.toValue_cmp? _ _).trans hdecided)
  have hswap : u.collate c t = (t.collate c u).swap := Std.OrientedCmp.eq_swap
  have hantisymm : (t.collate c u).isLE → (u.collate c t).isLE → t.beq u = true := fun htu hut =>
    (collate_eq_eq_iff h t u).mp (Std.OrientedCmp.isLE_antisymm htu hut)
  refine ⟨hdecided, hcmp, collate_eq_eq_iff h t u, ?_, hswap, ?_, hantisymm,
    Std.TransCmp.isLE_trans, Std.TransCmp.lt_of_lt_of_isLE, Std.TransCmp.lt_of_isLE_of_lt⟩
  · exact (collate_eq_eq_iff h t t).mp Std.ReflCmp.compare_self
  · rw [hswap]
    cases t.collate c u <;> decide

/-- The order of tuples that hold a typed tuple: the first two differ only inside of it. -/
theorem collate_total_nested :
    let inner : List (Ty Standard) :=
      [.leaf (Standard.Kind.list .bool), .leaf Standard.Kind.char]
    let make (c : Char) (bs : List Bool) : Typed Standard [.leaf Standard.Kind.char, .tuple inner] :=
      ⟨⟨[.leaf Standard.Kind.char c, .tuple [.leaf (Standard.Kind.list .bool) bs,
        .leaf Standard.Kind.char 'z']], Nat.le_of_ble_eq_true rfl⟩, rfl⟩
    let t := make 'a' [true]
    let u := make 'a' [true, false]
    let w := make 'b' []
    (∀ s ∈ [Ty.leaf Standard.Kind.char, .tuple inner], s.Collated Standard.collation) ∧
      t.cmp? u = some .lt ∧ u.erase.cmp t.erase = .ok .gt ∧ u.erase.cmp w.erase = .ok .lt ∧
      t.collate Standard.collation w = .lt ∧ t.beq t = true ∧
      (Standard.Kind.pair (.list .char) (.option .bool)).Exact ∧
      Standard.collation.LawfulAt (Standard.Kind.pair (.list .char) (.option .bool)) := by
  intro inner make t u w
  obtain ⟨hlaws, hstandard⟩ := collate_total
  have hcollated : ∀ s ∈ [Ty.leaf Standard.Kind.char, .tuple inner],
      s.Collated Standard.collation := by
    have hchar : (Ty.leaf Standard.Kind.char).Collated Standard.collation :=
      .leaf (hstandard Standard.Kind.char trivial)
    have hlist : (Ty.leaf (Standard.Kind.list .bool)).Collated Standard.collation :=
      .leaf (hstandard (Standard.Kind.list .bool) trivial)
    simp only [inner, List.forall_mem_cons]
    exact ⟨hchar, .tuple (by simp [hlist, hchar]), by simp⟩
  obtain ⟨hdecided, -, -, hrefl, hswap, -, -, -, hchain, -⟩ :=
    hlaws Standard Standard.collation _ hcollated t u w
  obtain ⟨-, hut, -⟩ := hlaws Standard Standard.collation _ hcollated u t w
  obtain ⟨-, huw, -⟩ := hlaws Standard Standard.collation _ hcollated u w t
  have hless : t.collate Standard.collation u = .lt := by decide
  have hless' : u.collate Standard.collation w = .lt := by decide
  rw [hless] at hdecided hswap
  rw [hswap] at hut
  rw [hless'] at huw
  have hexact : (Standard.Kind.pair (.list .char) (.option .bool)).Exact := ⟨trivial, trivial⟩
  exact ⟨hcollated, hdecided, hut, huw, hchain hless (hless' ▸ rfl), hrefl, hexact,
    hstandard _ hexact⟩

end Typed

end Polyad
