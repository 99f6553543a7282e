/-
Polyad/Proofs/Comparison.lean

What can be relied on when values are compared by an equality that need not be reflexive and an
order that need not be total, and how it is passed on to options, lists and pairs.

Idea.  The laws are stated of one value `x` against all others (`EquivAt`, `CoherentAt`, `DualAt`,
`OrderAt`), so that an induction on nested values can use them for the parts of a value before they
are known of all values.  Each of the first three passes through every comparison by itself.
Transitivity does not: it is stated of chains that may mix "less" and "equal", since this is the form
in which it passes through a lexicographic comparison, where a chain of lists that are less is, at
the first places, a chain of equal items.  Every comparison here is made of few parts: keys in a
total order, a guard, one comparison after another (`OrderAt.both`), and those of options and
lists.

Main statements: `OrderAt.both`, `OrderAt.list`, `OrderAt.embed`; what follows from the laws
(`OrderAt.lt_trans`, `OrderAt.congr_left`).
-/
import Polyad.Standard.Kind
import Mathlib.Data.List.Forall2

namespace Polyad.Comparison

open Standard (lexicographic equalItems optionOrder)

variable {α β : Type}

/-- What an equality owes to the value `x`: to be symmetric and transitive.  Nothing is said of
`x` and `x` itself. -/
structure EquivAt (beq : α → α → Bool) (x : α) : Prop where
  symm : ∀ y, beq y x = beq x y
  trans : ∀ y z, beq x y = true → beq y z = true → beq x z = true

/-- The order keeps to the equality `beq` at the value `x`: another value has the same place exactly
if it is equal. -/
def CoherentAt (beq : α → α → Bool) (cmp? : α → α → Option Ordering) (x : α) : Prop :=
  ∀ y, cmp? x y = some .eq ↔ beq x y = true

/-- The order is reversed if it is seen from the other side of the value `x`. -/
def DualAt (cmp? : α → α → Option Ordering) (x : α) : Prop :=
  ∀ y, cmp? y x = (cmp? x y).map Ordering.swap

/-- What an order has to keep at the value `x` for its transitivity to pass through compounds: it
keeps to the equality `beq`, it is reversed from the other side, and a chain of two steps, none of
them downwards, goes up unless both steps stay (`x < y < z`, `x < y = z` and `x = y < z` give
`x < z`, and `x = y = z` gives `x = z`).

The chain asks for more than an order with gaps is commonly held to.  That `x < y < z` gives `x < z`
and that equality is transitive belongs to the documented contract of such an order; the two chains
that mix a step up with one that stays do not, and they do not follow from it
(`Universe.lawful_iff`). -/
structure OrderAt (beq : α → α → Bool) (cmp? : α → α → Option Ordering) (x : α) : Prop where
  eq_iff : CoherentAt beq cmp? x
  swap : DualAt cmp? x
  chain : ∀ y z o p, cmp? x y = some o → cmp? y z = some p → o ≠ .gt → p ≠ .gt →
    cmp? x z = some (o.then p)

/-! ### What follows from the laws -/

section Laws

variable {beq : α → α → Bool} {cmp? : α → α → Option Ordering}

theorem EquivAt.congr_left (h : ∀ x, EquivAt beq x) {x y : α} (hxy : beq x y = true) (z : α) :
    beq x z = beq y z := by
  rw [Bool.eq_iff_iff]
  constructor
  · exact (h y).trans x z ((h x).symm y ▸ hxy)
  · exact (h x).trans y z hxy

theorem EquivAt.congr_right (h : ∀ x, EquivAt beq x) {y z : α} (hyz : beq y z = true) (x : α) :
    beq x y = beq x z := by
  rw [(h y).symm x, (h z).symm x]
  exact congr_left h hyz x

/-- An order that keeps to its equality makes it symmetric and transitive. -/
theorem OrderAt.equivAt (h : ∀ x, OrderAt beq cmp? x) (x : α) : EquivAt beq x where
  symm y := by
    rw [Bool.eq_iff_iff, ← (h x).eq_iff y, ← (h y).eq_iff x, (h x).swap y]
    cases cmp? x y with
    | none => exact ⟨nofun, nofun⟩
    | some o => cases o <;> decide
  trans y z hxy hyz := by
    have hchain := (h x).chain y z .eq .eq (((h x).eq_iff y).mpr hxy) (((h y).eq_iff z).mpr hyz)
      (by decide) (by decide)
    exact ((h x).eq_iff z).mp hchain

theorem OrderAt.lt_trans {x y z : α} (h : OrderAt beq cmp? x) (hxy : cmp? x y = some .lt)
    (hyz : cmp? y z = some .lt) : cmp? x z = some .lt :=
  h.chain y z .lt .lt hxy hyz (by decide) (by decide)

/-- An outcome against one of two values in the same place is the outcome against the other. -/
theorem OrderAt.of_eq (h : ∀ x, OrderAt beq cmp? x) {x y z : α} {o : Ordering}
    (hxy : cmp? x y = some .eq) (hyz : cmp? y z = some o) : cmp? x z = some o := by
  have hyx : cmp? y x = some .eq := by rw [(h x).swap y, hxy]; rfl
  cases o with
  | lt => exact (h x).chain y z .eq .lt hxy hyz (by decide) (by decide)
  | eq => exact (h x).chain y z .eq .eq hxy hyz (by decide) (by decide)
  | gt =>
    -- from above the chain runs the other way: `z < y = x`
    have hzy : cmp? z y = some .lt := by rw [(h y).swap z, hyz]; rfl
    have hzx := (h z).chain y x .lt .eq hzy hyx (by decide) (by decide)
    rw [(h z).swap x, hzx]
    rfl

/-- **Two values in the same place compare alike with every third one**, also where they are not
ordered with it. -/
theorem OrderAt.congr_left (h : ∀ x, OrderAt beq cmp? x) {x y : α} (hxy : cmp? x y = some .eq)
    (z : α) : cmp? x z = cmp? y z := by
  have hyx : cmp? y x = some .eq := by rw [(h x).swap y, hxy]; rfl
  cases hyz : cmp? y z with
  | some o => exact of_eq h hxy hyz
  | none =>
    cases hxz : cmp? x z with
    | none => rfl
    | some o => exact absurd (hyz.symm.trans (of_eq h hyx hxz)) nofun

end Laws

/-! ### Keys and guards -/

/-- Values in a total order. -/
theorem OrderAt.total {cmp : α → α → Ordering} [Std.TransCmp cmp] {beq : α → α → Bool}
    (heq : ∀ x y, cmp x y = .eq ↔ beq x y = true) (x : α) :
    OrderAt beq (fun x y => some (cmp x y)) x where
  eq_iff y := by
    rw [Option.some.injEq]
    exact heq x y
  swap y := congrArg some Std.OrientedCmp.eq_swap
  chain y z o p hxy hyz ho hp := by
    obtain rfl := Option.some.inj hxy
    obtain rfl := Option.some.inj hyz
    refine congrArg some ?_
    rcases hxy : cmp x y with - | - | -
    · have hle : (cmp y z).isLE = true := by
        rwa [Ordering.isLE_iff_ne_gt]
      exact Std.TransCmp.lt_of_lt_of_isLE hxy hle
    · exact Std.TransCmp.congr_left hxy
    · exact absurd hxy ho

/-- Values with keys in a total order. -/
theorem OrderAt.key {γ : Type} [Ord γ] [Std.TransOrd γ] [Std.LawfulEqOrd γ] {beq : α → α → Bool}
    (key : α → γ) (hbeq : ∀ x y, beq x y = true ↔ key x = key y) (x : α) :
    OrderAt beq (fun x y => some (compare (key x) (key y))) x := by
  have heq : ∀ x y, compareOn key x y = .eq ↔ beq x y = true := by
    intro x y
    rw [hbeq]
    show compare (key x) (key y) = .eq ↔ key x = key y
    exact Std.LawfulEqCmp.compare_eq_iff_eq
  exact OrderAt.total heq x

/-- Values that an order leaves nowhere undecided are in a total order. -/
theorem OrderAt.transCmp {beq : β → β → Bool} {cmp? : β → β → Option Ordering} (f : α → β)
    (h : ∀ x, OrderAt beq cmp? (f x)) {cmp : α → α → Ordering}
    (hcmp : ∀ x y, cmp? (f x) (f y) = some (cmp x y)) : Std.TransCmp cmp where
  eq_swap {x y} := by
    have hswap := (h y).swap (f x)
    rw [hcmp, hcmp, Option.map_some] at hswap
    exact Option.some.inj hswap
  isLE_trans {x y z} hxy hyz := by
    rw [Ordering.isLE_iff_ne_gt] at hxy hyz
    have hchain := (h x).chain (f y) (f z) _ _ (hcmp x y) (hcmp y z) hxy hyz
    rw [hcmp] at hchain
    rw [Option.some.inj hchain, Ordering.isLE_iff_ne_gt]
    cases hc : cmp x y with
    | lt => exact nofun
    | eq => exact hyz
    | gt => exact absurd hc hxy

/-- The values that pass a guard as before, and the others never equal and never ordered. -/
theorem OrderAt.guard {beq : α → α → Bool} {cmp? : α → α → Option Ordering} (out : α → Bool) {x : α}
    (h : OrderAt beq cmp? x) :
    OrderAt (fun x y => !out x && !out y && beq x y)
      (fun x y => if out x || out y then none else cmp? x y) x where
  eq_iff y := by
    cases hx : out x <;> cases hy : out y <;> simp [h.eq_iff y]
  swap y := by
    show (if out y || out x then none else cmp? y x)
      = (if out x || out y then none else cmp? x y).map Ordering.swap
    cases hx : out x <;> cases hy : out y <;> simp [h.swap y]
  chain y z o p hxy hyz ho hp := by
    cases hx : out x <;> cases hy : out y <;> cases hz : out z <;> simp [hx, hy, hz] at hxy hyz ⊢
    exact h.chain y z o p hxy hyz ho hp

/-- One value, and no order but with itself. -/
theorem OrderAt.discrete [DecidableEq α] (x : α) :
    OrderAt (fun x y : α => decide (x = y)) (fun x y => if x = y then some .eq else none) x where
  eq_iff y := by by_cases h : x = y <;> simp [h]
  swap y := by by_cases h : x = y <;> simp [h, eq_comm]
  chain y z o p hxy hyz _ _ := by
    split at hxy
    · next h =>
      obtain rfl := Option.some.inj hxy
      rw [h]
      exact hyz
    · exact nomatch hxy

/-! ### One comparison after another -/

/-- What is decided by a first comparison, or else by a second one. -/
def next (first second : Option Ordering) : Option Ordering :=
  match first with
  | some .eq => second
  | decided => decided

theorem next_eq_some_eq {first second : Option Ordering} :
    next first second = some .eq ↔ first = some .eq ∧ second = some .eq := by
  rcases first with - | - | - | - <;> simp [next]

theorem next_swap (first second : Option Ordering) :
    next (first.map Ordering.swap) (second.map Ordering.swap) = (next first second).map .swap := by
  rcases first with - | - | - | - <;> rfl

/-- A chain of two steps that are taken by two comparisons each. -/
theorem next_chain {c₁ c₂ c₃ d₁ d₂ d₃ : Option Ordering}
    (hc : ∀ o p, c₁ = some o → c₂ = some p → o ≠ .gt → p ≠ .gt → c₃ = some (o.then p))
    (hd : ∀ o p, d₁ = some o → d₂ = some p → o ≠ .gt → p ≠ .gt → d₃ = some (o.then p))
    {o p : Ordering} (ho : next c₁ d₁ = some o) (hp : next c₂ d₂ = some p) (hogt : o ≠ .gt)
    (hpgt : p ≠ .gt) : next c₃ d₃ = some (o.then p) := by
  -- a step up at the first comparison on either side decides, whatever the second comparisons say
  rcases c₁ with - | - | - | -
  · exact nomatch ho
  · obtain rfl := Option.some.inj ho
    rcases c₂ with - | - | - | -
    · exact nomatch hp
    · rw [hc .lt .lt rfl rfl nofun nofun]
      rfl
    · rw [hc .lt .eq rfl rfl nofun nofun]
      rfl
    · exact absurd (Option.some.inj hp).symm hpgt
  · rcases c₂ with - | - | - | -
    · exact nomatch hp
    · obtain rfl := Option.some.inj hp
      rw [hc .eq .lt rfl rfl nofun nofun]
      cases o with
      | gt => exact absurd rfl hogt
      | lt | eq => rfl
    · rw [hc .eq .eq rfl rfl nofun nofun]
      exact hd o p ho hp hogt hpgt
    · exact absurd (Option.some.inj hp).symm hpgt
  · exact absurd (Option.some.inj ho).symm hogt

section Compound

variable {b₁ : α → α → Bool} {c₁ : α → α → Option Ordering}
variable {b₂ : β → β → Bool} {c₂ : β → β → Option Ordering}

theorem CoherentAt.both {γ : Type} (f : γ → α) (g : γ → β) {x : γ} (h₁ : CoherentAt b₁ c₁ (f x))
    (h₂ : CoherentAt b₂ c₂ (g x)) :
    CoherentAt (fun y z => b₁ (f y) (f z) && b₂ (g y) (g z))
      (fun y z => next (c₁ (f y) (f z)) (c₂ (g y) (g z))) x := by
  intro y
  show next (c₁ (f x) (f y)) (c₂ (g x) (g y)) = _ ↔ (b₁ (f x) (f y) && b₂ (g x) (g y)) = true
  rw [next_eq_some_eq, h₁ (f y), h₂ (g y), Bool.and_eq_true]

theorem DualAt.both {γ : Type} (f : γ → α) (g : γ → β) {x : γ} (h₁ : DualAt c₁ (f x))
    (h₂ : DualAt c₂ (g x)) : DualAt (fun y z => next (c₁ (f y) (f z)) (c₂ (g y) (g z))) x := by
  intro y
  show next (c₁ (f y) (f x)) (c₂ (g y) (g x)) = (next (c₁ (f x) (f y)) (c₂ (g x) (g y))).map _
  rw [h₁ (f y), h₂ (g y), next_swap]

/-- Two comparisons of one value, of different things. -/
theorem OrderAt.both {γ : Type} (f : γ → α) (g : γ → β) {x : γ} (h₁ : OrderAt b₁ c₁ (f x))
    (h₂ : OrderAt b₂ c₂ (g x)) :
    OrderAt (fun y z => b₁ (f y) (f z) && b₂ (g y) (g z))
      (fun y z => next (c₁ (f y) (f z)) (c₂ (g y) (g z))) x where
  eq_iff := .both f g h₁.eq_iff h₂.eq_iff
  swap := .both f g h₁.swap h₂.swap
  chain y z _ _ hxy hyz :=
    next_chain (h₁.chain (f y) (f z)) (h₂.chain (g y) (g z)) hxy hyz

/-- Nothing comes first and equals nothing else; what there is compares as before. -/
theorem OrderAt.option {o : Option α} (h : ∀ x ∈ o, OrderAt b₁ c₁ x) :
    OrderAt (optionOrder true false false b₁)
      (optionOrder (some .eq) (some .lt) (some .gt) c₁) o := by
  rcases o with - | x
  · refine ⟨fun y => ?_, fun y => ?_, fun y z o p hxy hyz _ hp => ?_⟩
    · cases y <;> simp [optionOrder]
    · cases y <;> rfl
    · rcases y with - | y <;> rcases z with - | z <;> obtain rfl := Option.some.inj hxy
      · exact hyz
      · exact hyz
      · exact absurd (Option.some.inj hyz).symm hp
      · cases p with
        | gt => exact absurd rfl hp
        | lt | eq => rfl
  · have hx := h x rfl
    refine ⟨fun y => ?_, fun y => ?_, fun y z o p hxy hyz ho hp => ?_⟩
    · rcases y with - | y
      · simp [optionOrder]
      · exact hx.eq_iff y
    · rcases y with - | y
      · rfl
      · exact hx.swap y
    · rcases y with - | y
      · exact absurd (Option.some.inj hxy).symm ho
      · rcases z with - | z
        · exact absurd (Option.some.inj hyz).symm hp
        · exact hx.chain y z o p hxy hyz ho hp

/-- Two lists are equal exactly if they are as long as each other and equal item by item. -/
theorem equalItems_iff_forall₂ {xs ys : List α} :
    equalItems b₁ xs ys = true ↔ List.Forall₂ (fun x y => b₁ x y = true) xs ys := by
  induction xs generalizing ys with
  | nil =>
    cases ys with
    | nil => exact ⟨fun _ => .nil, fun _ => rfl⟩
    | cons y ys => exact ⟨nofun, nofun⟩
  | cons x xs ih =>
    cases ys with
    | nil => exact ⟨nofun, nofun⟩
    | cons y ys =>
      show (b₁ x y && equalItems b₁ xs ys) = true ↔ _
      rw [Bool.and_eq_true, ih, List.forall₂_cons]

/-- Lists with items that a function does not tell apart. -/
theorem flatMap_eq_of_forall₂ {R : α → α → Prop} {f : α → List β} {xs ys : List α}
    (hf : ∀ x ∈ xs, ∀ y, R x y → f x = f y) (h : List.Forall₂ R xs ys) :
    xs.flatMap f = ys.flatMap f := by
  induction h with
  | nil => rfl
  | @cons x y xs ys hxy _ ih =>
    have hrest := ih fun x hx => hf x (List.mem_cons_of_mem _ hx)
    rw [List.flatMap_cons, List.flatMap_cons, hf x List.mem_cons_self y hxy, hrest]

theorem EquivAt.list {xs : List α} (h : ∀ x ∈ xs, EquivAt b₁ x) : EquivAt (equalItems b₁) xs := by
  induction xs with
  | nil =>
    refine ⟨fun ys => ?_, fun ys zs hxy hyz => ?_⟩
    · cases ys <;> rfl
    · rcases ys with - | ⟨y, ys⟩
      · exact hyz
      · exact nomatch hxy
  | cons x xs ih =>
    have hx := h x List.mem_cons_self
    have hxs := ih fun x hx => h x (List.mem_cons_of_mem _ hx)
    refine ⟨fun ys => ?_, fun ys zs hxy hyz => ?_⟩
    · rcases ys with - | ⟨y, ys⟩
      · rfl
      · show (b₁ y x && equalItems b₁ ys xs) = (b₁ x y && equalItems b₁ xs ys)
        rw [hx.symm, hxs.symm]
    · rcases ys with - | ⟨y, ys⟩
      · exact nomatch hxy
      · rcases zs with - | ⟨z, zs⟩
        · exact nomatch hyz
        · obtain ⟨hxy, hxys⟩ := Bool.and_eq_true_iff.mp hxy
          obtain ⟨hyz, hyzs⟩ := Bool.and_eq_true_iff.mp hyz
          exact Bool.and_eq_true_iff.mpr ⟨hx.trans y z hxy hyz, hxs.trans ys zs hxys hyzs⟩

/-- Lists have the same place exactly if they are as long as each other and their items have. -/
theorem CoherentAt.list {xs : List α} (h : ∀ x ∈ xs, CoherentAt b₁ c₁ x) :
    CoherentAt (equalItems b₁) (lexicographic c₁) xs := by
  intro ys
  induction xs generalizing ys with
  | nil => cases ys <;> simp [lexicographic, equalItems]
  | cons x xs ih =>
    rcases ys with - | ⟨y, ys⟩
    · simp [lexicographic, equalItems]
    · have hrest := ih (fun x hx => h x (List.mem_cons_of_mem _ hx)) ys
      show next (c₁ x y) (lexicographic c₁ xs ys) = _ ↔ (b₁ x y && equalItems b₁ xs ys) = true
      rw [next_eq_some_eq, h x List.mem_cons_self y, hrest, Bool.and_eq_true]

theorem DualAt.list {xs : List α} (h : ∀ x ∈ xs, DualAt c₁ x) :
    DualAt (lexicographic c₁) xs := by
  intro ys
  induction xs generalizing ys with
  | nil => cases ys <;> rfl
  | cons x xs ih =>
    rcases ys with - | ⟨y, ys⟩
    · rfl
    · have hrest := ih (fun x hx => h x (List.mem_cons_of_mem _ hx)) ys
      show next (c₁ y x) (lexicographic c₁ ys xs) = (next (c₁ x y) (lexicographic c₁ xs ys)).map _
      rw [h x List.mem_cons_self y, hrest, next_swap]

/-- Lists by their first items that are not equal, and the shorter one first if there are none. -/
theorem OrderAt.list {xs : List α} (h : ∀ x ∈ xs, OrderAt b₁ c₁ x) :
    OrderAt (equalItems b₁) (lexicographic c₁) xs := by
  refine ⟨.list fun x hx => (h x hx).eq_iff, .list fun x hx => (h x hx).swap, ?_⟩
  induction xs with
  | nil =>
    intro ys zs o p hxy hyz _ hp
    rcases ys with - | ⟨y, ys⟩ <;> rcases zs with - | ⟨z, zs⟩ <;> obtain rfl := Option.some.inj hxy
    · exact hyz
    · exact hyz
    · exact absurd (Option.some.inj hyz).symm hp
    · cases p with
      | gt => exact absurd rfl hp
      | lt | eq => rfl
  | cons x xs ih =>
    intro ys zs o p hxy hyz ho hp
    have hrest := ih fun x hx => h x (List.mem_cons_of_mem _ hx)
    rcases ys with - | ⟨y, ys⟩
    · exact absurd (Option.some.inj hxy).symm ho
    · rcases zs with - | ⟨z, zs⟩
      · exact absurd (Option.some.inj hyz).symm hp
      · -- lists that are not empty compare by their first items and then by the rest
        exact next_chain ((h x List.mem_cons_self).chain y z) (hrest ys zs) hxy hyz ho hp

end Compound

/-! ### Values of several types -/

section Embed

variable {τ : Type} {ty : α → τ} {b : α → α → Bool} {c : α → α → Option Ordering}
variable {b₁ : β → β → Bool} {c₁ : β → β → Option Ordering} {f : β → α} {x : β}

/-- Values of one form, where equal values are of one type and the type shows the form. -/
theorem EquivAt.embed (h : EquivAt b₁ x) (hb : ∀ y z, b (f y) (f z) = b₁ y z)
    (hty : ∀ {y z}, b y z = true → ty y = ty z) (hform : ∀ {y z}, ty (f y) = ty z → ∃ w, z = f w) :
    EquivAt b (f x) := by
  refine ⟨fun y => ?_, fun y z hxy hyz => ?_⟩
  · rw [Bool.eq_iff_iff]
    constructor <;> intro hxy
    · obtain ⟨y, rfl⟩ := hform (hty hxy).symm
      rwa [hb, ← h.symm, ← hb]
    · obtain ⟨y, rfl⟩ := hform (hty hxy)
      rwa [hb, h.symm, ← hb]
  · obtain ⟨y, rfl⟩ := hform (hty hxy)
    obtain ⟨z, rfl⟩ := hform (hty hyz)
    rw [hb] at hxy hyz ⊢
    exact h.trans y z hxy hyz

theorem CoherentAt.embed (h : CoherentAt b₁ c₁ x) (hb : ∀ y z, b (f y) (f z) = b₁ y z)
    (hc : ∀ y z, c (f y) (f z) = c₁ y z) (htyb : ∀ {y z}, b y z = true → ty y = ty z)
    (htyc : ∀ {y z o}, c y z = some o → ty y = ty z)
    (hform : ∀ {y z}, ty (f y) = ty z → ∃ w, z = f w) : CoherentAt b c (f x) := by
  intro y
  by_cases hty : ty (f x) = ty y
  · obtain ⟨y, rfl⟩ := hform hty
    rw [hb, hc, h y]
  · exact ⟨fun hxy => absurd (htyc hxy) hty, fun hxy => absurd (htyb hxy) hty⟩

theorem DualAt.embed (h : DualAt c₁ x) (hc : ∀ y z, c (f y) (f z) = c₁ y z)
    (htyc : ∀ {y z o}, c y z = some o → ty y = ty z)
    (hform : ∀ {y z}, ty (f y) = ty z → ∃ w, z = f w) : DualAt c (f x) := by
  intro y
  by_cases hty : ty (f x) = ty y
  · obtain ⟨y, rfl⟩ := hform hty
    rw [hc, hc, h y]
  · -- values of two types are ordered from neither side
    have hxy : c (f x) y = none := Option.eq_none_iff_forall_ne_some.mpr fun o h => hty (htyc h)
    have hyx : c y (f x) = none :=
      Option.eq_none_iff_forall_ne_some.mpr fun o h => hty (htyc h).symm
    rw [hxy, hyx]
    rfl

/-- Values of one form, where ordered values are of one type and the type shows the form. -/
theorem OrderAt.embed (h : OrderAt b₁ c₁ x) (hb : ∀ y z, b (f y) (f z) = b₁ y z)
    (hc : ∀ y z, c (f y) (f z) = c₁ y z) (htyb : ∀ {y z}, b y z = true → ty y = ty z)
    (htyc : ∀ {y z o}, c y z = some o → ty y = ty z)
    (hform : ∀ {y z}, ty (f y) = ty z → ∃ w, z = f w) : OrderAt b c (f x) := by
  refine ⟨h.eq_iff.embed hb hc htyb htyc hform, h.swap.embed hc htyc hform, ?_⟩
  intro y z o p hxy hyz ho hp
  obtain ⟨y, rfl⟩ := hform (htyc hxy)
  obtain ⟨z, rfl⟩ := hform (htyc hyz)
  rw [hc] at hxy hyz ⊢
  exact h.chain y z o p hxy hyz ho hp

end Embed

end Polyad.Comparison
