/-
Polyad/Proofs/Teeing.lean

Reducers that take the items of one stream side by side do not see each other.

Of two of them the first one is given copies, and each ends as it would on its own.  Two such pairs can
be put together in their turn, so there are whole trees of reducers; the results are pairs of pairs of
the same shape.

Idea.  The states of two reducers side by side are the states that each of them would have had
(`feed_eq`), so all there is to show is that copies make no difference.  A leaf of a tree is given
copies of copies, as many times over as there are nodes above it of which it is on the first side.
Instead of counting them, every tree is shown to be a machine that cannot tell a copy from its item
(`Indifferent.machine`): for such a one a stream of copies is the stream (`Indifferent.reduce_map`).
From there on it is only the result of one node (`run_tee`) that the inductions on leaves and on
rearrangements need.

Main statement: `is_product`.
-/
import Polyad.Reducer.Teeing
import Polyad.Reducer.Counting
import Polyad.Reducer.Joining
import Polyad.Standard.Kind

namespace Polyad

variable {U : Universe} {σ τ ι ο : Type} {s t : Ty U} {copy : ι → ι}

/-! ### Pairs as elements -/

/-- The elements of a tuple of either sort. -/
def Value.elements : Value U → List (Value U)
  | .leaf _ _ => []
  | .dyn values => values
  | .tuple values => values

theorem Value.types_elements {v : Value U} {ts : List (Ty U)} (h : v.ty = .tuple ts) :
    types v.elements = ts := by
  obtain ⟨values, rfl, htypes⟩ := eq_tuple_of_ty h
  exact htypes

theorem Value.length_elements_le {v : Value U} {ts : List (Ty U)} (h : v.ty = .tuple ts)
    (hts : ts.length ≤ maxDepth) : v.elements.length ≤ maxDepth := by
  rwa [← length_types, types_elements h]

namespace Typed

variable {ts : List (Ty U)} {u v : Ty U}

/-- A tuple of known types as an element. -/
def toElement (t : Typed U ts) : Element (.tuple ts) :=
  ⟨t.toValue, congrArg Ty.tuple t.types_elements⟩

/-- The tuple that an element is. -/
def ofElement (hts : ts.length ≤ maxDepth) (x : Element (.tuple ts)) : Typed U ts :=
  ⟨⟨x.val.elements, Value.length_elements_le x.property hts⟩, Value.types_elements x.property⟩

/-- The first element of a pair. -/
def first (x : Element (.tuple [s, t])) : Element s :=
  (ofElement (by simp [maxDepth]) x).get 0 rfl

/-- The second element of a pair. -/
def second (x : Element (.tuple [s, t])) : Element t :=
  (ofElement (by simp [maxDepth]) x).get 1 rfl

@[simp]
theorem first_pair (x : Element s) (y : Element t) : first (pair x y).toElement = x := rfl

@[simp]
theorem second_pair (x : Element s) (y : Element t) : second (pair x y).toElement = y := rfl

/-- Both elements of a pair, each by a function of its own. -/
def both (f : Element s → Element u) (g : Element t → Element v) (x : Element (.tuple [s, t])) :
    Element (.tuple [u, v]) :=
  (pair (f (first x)) (g (second x))).toElement

/-- The second element of a pair and then the first. -/
def swapped (x : Element (.tuple [s, t])) : Element (.tuple [t, s]) :=
  (pair (second x) (first x)).toElement

/-- Three elements, the last two of them in the inner pair. -/
def toRight (x : Element (.tuple [.tuple [s, t], u])) : Element (.tuple [s, .tuple [t, u]]) :=
  (pair (first (first x)) (pair (second (first x)) (second x)).toElement).toElement

/-- Three elements, the first two of them in the inner pair. -/
def toLeft (x : Element (.tuple [s, .tuple [t, u]])) : Element (.tuple [.tuple [s, t], u]) :=
  (pair (pair (first x) (first (second x))).toElement (second (second x))).toElement

end Typed

/-! ### One reducer -/

namespace Reducer

variable {r : Reducer σ ι ο}

/-- A reducer that cannot tell a copy from its item. -/
def Indifferent (r : Reducer σ ι ο) (copy : ι → ι) : Prop :=
  ∀ state item, r.accept state (copy item) = r.accept state item

theorem Indifferent.feed_map (h : r.Indifferent copy) (state : σ) (items : List ι) :
    r.feed state (items.map copy) = r.feed state items := by
  induction items generalizing state with
  | nil => rfl
  | cons item items ih => rw [List.map_cons, feed_cons, feed_cons, h, ih]

theorem Indifferent.reduce_map (h : r.Indifferent copy) (state : σ) (items : List ι) :
    r.reduce state (items.map copy) = r.reduce state items :=
  congrArg r.finish (h.feed_map state items)

/-- The same reducer with a record of the items it has accepted. -/
def recording (r : Reducer σ ι ο) : Reducer (σ × List ι) ι ο where
  accept state item := (r.accept state.1 item, state.2 ++ [item])
  finish state := r.finish state.1

theorem feed_recording (r : Reducer σ ι ο) (state : σ) (accepted items : List ι) :
    r.recording.feed (state, accepted) items = (r.feed state items, accepted ++ items) := by
  induction items generalizing state accepted with
  | nil => rw [feed_nil, feed_nil, List.append_nil]
  | cons item items ih =>
    refine (ih (r.accept state item) (accepted ++ [item])).trans ?_
    rw [List.append_assoc]
    rfl

end Reducer

/-- A reducer together with the state in which it starts. -/
structure Machine (ι ο : Type) where
  State : Type
  reducer : Reducer State ι ο
  start : State

/-- The result for a stream of a machine that has it to itself. -/
def Machine.run (m : Machine ι ο) (stream : List ι) : ο :=
  m.reducer.reduce m.start stream

namespace Teeing

/-! ### Two reducers -/

section Pair

variable (copy) (a : Reducer σ ι (Element s)) (b : Reducer τ ι (Element t))

/-- **Any items.**  Each of the two has the state that it would have on its own, with copies on the one
side and the items on the other. -/
theorem feed_eq (p : Teeing σ τ) (items : List ι) :
    (reducer copy a b).feed p items = ⟨a.feed p.left (items.map copy), b.feed p.right items⟩ := by
  induction items generalizing p with
  | nil => rfl
  | cons item items ih => exact ih _

/-- The result is the pair of the results. -/
theorem reduce_eq (p : Teeing σ τ) (items : List ι) :
    (reducer copy a b).reduce p items
      = .pair (a.reduce p.left (items.map copy)) (b.reduce p.right items) :=
  congrArg (reducer copy a b).finish (feed_eq copy a b p items)

variable {copy a b}

/-- Two reducers that cannot tell a copy from its item cannot do so together. -/
theorem indifferent_reducer (ha : a.Indifferent copy) (hb : b.Indifferent copy) :
    (reducer copy a b).Indifferent copy := by
  intro state item
  -- the first of the two is given a copy of a copy
  show Teeing.mk (a.accept state.left (copy (copy item))) (b.accept state.right (copy item))
    = Teeing.mk (a.accept state.left (copy item)) (b.accept state.right item)
  rw [ha, hb]

end Pair

/-! ### Trees of reducers -/

/-- Reducers put side by side two by two, by the type of their result. -/
inductive Tree (U : Universe) (ι : Type) : Ty U → Type 1
  | leaf {t : Ty U} (m : Machine ι (Element t)) : Tree U ι t
  | tee {s t : Ty U} (left : Tree U ι s) (right : Tree U ι t) : Tree U ι (.tuple [s, t])

namespace Tree

variable {u v : Ty U} {x : Tree U ι s} {y : Tree U ι t}

/-- The one machine that a tree is. -/
def machine (copy : ι → ι) {s : Ty U} : Tree U ι s → Machine ι (Element s)
  | leaf m => m
  | tee left right =>
    { State := Teeing (left.machine copy).State (right.machine copy).State
      reducer := (reducer copy (left.machine copy).reducer (right.machine copy).reducer).mapResult
        Typed.toElement
      start := ⟨(left.machine copy).start, (right.machine copy).start⟩ }

/-- The result of a tree for a stream. -/
def run (copy : ι → ι) (tree : Tree U ι s) (stream : List ι) : Element s :=
  (tree.machine copy).run stream

/-- No leaf can tell a copy from its item. -/
def Indifferent (copy : ι → ι) {s : Ty U} : Tree U ι s → Prop
  | leaf m => m.reducer.Indifferent copy
  | tee left right => left.Indifferent copy ∧ right.Indifferent copy

/-- The machine is a leaf of the tree, where its result is picked out by the function. -/
inductive HasLeaf :
    {s t : Ty U} → Tree U ι s → Machine ι (Element t) → (Element s → Element t) → Prop
  | here {t : Ty U} (m : Machine ι (Element t)) : HasLeaf (leaf m) m id
  | left {s t u : Ty U} {x : Tree U ι s} {m : Machine ι (Element u)} {pick : Element s → Element u}
    (y : Tree U ι t) (h : HasLeaf x m pick) : HasLeaf (tee x y) m (pick ∘ Typed.first)
  | right {s t u : Ty U} {y : Tree U ι t} {m : Machine ι (Element u)} {pick : Element t → Element u}
    (x : Tree U ι s) (h : HasLeaf y m pick) : HasLeaf (tee x y) m (pick ∘ Typed.second)

/-- The second tree comes from the first one by swapping and regrouping, at any places and any number
of times; the function does the same to a result. -/
inductive Rearranges :
    {s t : Ty U} → Tree U ι s → Tree U ι t → (Element s → Element t) → Prop
  | refl {s : Ty U} (x : Tree U ι s) : Rearranges x x id
  | trans {s t u : Ty U} {x : Tree U ι s} {y : Tree U ι t} {z : Tree U ι u}
    {f : Element s → Element t} {g : Element t → Element u}
    (h₁ : Rearranges x y f) (h₂ : Rearranges y z g) : Rearranges x z (g ∘ f)
  | inside {s t u v : Ty U} {x : Tree U ι s} {y : Tree U ι t} {x' : Tree U ι u} {y' : Tree U ι v}
    {f : Element s → Element u} {g : Element t → Element v}
    (h₁ : Rearranges x x' f) (h₂ : Rearranges y y' g) :
    Rearranges (tee x y) (tee x' y') (Typed.both f g)
  | swap {s t : Ty U} (x : Tree U ι s) (y : Tree U ι t) :
    Rearranges (tee x y) (tee y x) Typed.swapped
  | toRight {s t u : Ty U} (x : Tree U ι s) (y : Tree U ι t) (z : Tree U ι u) :
    Rearranges (tee (tee x y) z) (tee x (tee y z)) Typed.toRight
  | toLeft {s t u : Ty U} (x : Tree U ι s) (y : Tree U ι t) (z : Tree U ι u) :
    Rearranges (tee x (tee y z)) (tee (tee x y) z) Typed.toLeft

/-- A rearranged tree has the same leaves, each where the rearrangement has put its result. -/
theorem Rearranges.hasLeaf {f : Element s → Element t} (h : x.Rearranges y f)
    {m : Machine ι (Element u)} {pick : Element s → Element u} (hm : x.HasLeaf m pick) :
    ∃ pick' : Element t → Element u, y.HasLeaf m pick' ∧ pick' ∘ f = pick := by
  -- the side of a node on which the leaf is says where it goes
  induction h with
  | refl x => exact ⟨pick, hm, rfl⟩
  | trans _ _ ih₁ ih₂ =>
    obtain ⟨pick₁, hm₁, rfl⟩ := ih₁ hm
    obtain ⟨pick₂, hm₂, rfl⟩ := ih₂ hm₁
    exact ⟨pick₂, hm₂, rfl⟩
  | inside _ _ ih₁ ih₂ =>
    cases hm with
    | left y hm =>
      obtain ⟨pick₁, hm₁, rfl⟩ := ih₁ hm
      exact ⟨_, .left _ hm₁, rfl⟩
    | right x hm =>
      obtain ⟨pick₂, hm₂, rfl⟩ := ih₂ hm
      exact ⟨_, .right _ hm₂, rfl⟩
  | swap x y =>
    cases hm with
    | left y hm => exact ⟨_, .right y hm, rfl⟩
    | right x hm => exact ⟨_, .left x hm, rfl⟩
  | toRight x y z =>
    cases hm with
    | left z hm =>
      cases hm with
      | left y hm => exact ⟨_, .left _ hm, rfl⟩
      | right x hm => exact ⟨_, .right x (.left z hm), rfl⟩
    | right xy hm => exact ⟨_, .right x (.right y hm), rfl⟩
  | toLeft x y z =>
    cases hm with
    | left yz hm => exact ⟨_, .left z (.left y hm), rfl⟩
    | right x hm =>
      cases hm with
      | left z hm => exact ⟨_, .left z (.right x hm), rfl⟩
      | right y hm => exact ⟨_, .right _ hm, rfl⟩

/-! ### Results of trees -/

theorem Indifferent.machine {x : Tree U ι s} (h : x.Indifferent copy) :
    (x.machine copy).reducer.Indifferent copy := by
  induction x with
  | leaf m => exact h
  | tee left right ihl ihr => exact indifferent_reducer (ihl h.1) (ihr h.2)

/-- **A node.**  Its result is the pair of those that the two trees have for the stream. -/
theorem run_tee (hx : x.Indifferent copy) (y : Tree U ι t) (stream : List ι) :
    (tee x y).run copy stream = (Typed.pair (x.run copy stream) (y.run copy stream)).toElement := by
  -- the first tree is given copies, which make no difference to it
  have hleft : (x.machine copy).reducer.reduce (x.machine copy).start (stream.map copy)
      = x.run copy stream := hx.machine.reduce_map _ _
  have hpair := reduce_eq copy (x.machine copy).reducer (y.machine copy).reducer
    ⟨(x.machine copy).start, (y.machine copy).start⟩ stream
  rw [hleft] at hpair
  exact congrArg Typed.toElement hpair

/-- **Any tree.**  The result of a leaf is that of its own run. -/
theorem HasLeaf.pick_run {m : Machine ι (Element t)} {pick : Element s → Element t}
    (h : x.HasLeaf m pick) (hx : x.Indifferent copy) (stream : List ι) :
    pick (x.run copy stream) = m.run stream := by
  induction h with
  | here m => rfl
  | left y _ ih => rw [run_tee hx.1, Function.comp_apply, Typed.first_pair, ih hx.1]
  | right x _ ih => rw [run_tee hx.1, Function.comp_apply, Typed.second_pair, ih hx.2]

theorem Rearranges.indifferent {f : Element s → Element t} (h : x.Rearranges y f)
    (hx : x.Indifferent copy) : y.Indifferent copy := by
  induction h with
  | refl x => exact hx
  | trans _ _ ih₁ ih₂ => exact ih₂ (ih₁ hx)
  | inside _ _ ih₁ ih₂ => exact ⟨ih₁ hx.1, ih₂ hx.2⟩
  | swap x y => exact ⟨hx.2, hx.1⟩
  | toRight x y z => exact ⟨hx.1.1, hx.1.2, hx.2⟩
  | toLeft x y z => exact ⟨⟨hx.1, hx.2.1⟩, hx.2.2⟩

/-- **Any rearrangement** of a tree does the same to its result. -/
theorem Rearranges.apply_run {f : Element s → Element t} (h : x.Rearranges y f)
    (hx : x.Indifferent copy) (stream : List ι) : f (x.run copy stream) = y.run copy stream := by
  -- both trees have pairs as their results, and the function takes apart the pairs of the first one
  induction h with
  | refl x => rfl
  | trans h₁ _ ih₁ ih₂ => rw [Function.comp_apply, ih₁ hx, ih₂ (h₁.indifferent hx)]
  | inside h₁ _ ih₁ ih₂ =>
    rw [run_tee hx.1, run_tee (h₁.indifferent hx.1), ← ih₁ hx.1, ← ih₂ hx.2]
    rfl
  | swap x y =>
    rw [run_tee hx.1, run_tee hx.2]
    rfl
  | toRight x y z =>
    rw [run_tee hx.1, run_tee hx.1.1, run_tee hx.1.1, run_tee hx.1.2]
    rfl
  | toLeft x y z =>
    have hleft : (tee x y).Indifferent copy := ⟨hx.1, hx.2.1⟩
    rw [run_tee hx.1, run_tee hx.2.1, run_tee hleft, run_tee hx.1]
    rfl

end Tree

/-- **Two reducers side by side are their product.**  Let any two reducers take the items of a stream,
the first one copies of them.  The elements of the pair that comes out, each of its own type, are what
each of the two makes on its own of the stream, and each has taken every item once and in order.  Where
copies cannot be told from items, the first one might as well have been given these.

So it is in trees of any depth: a leaf has the result that it has with the stream to itself.  To swap and
regroup trees is to do the same to their results, and to have the same leaves in other places. -/
theorem is_product (copy : ι → ι) :
    (∀ {σ τ : Type} {s t : Ty U} (a : Reducer σ ι (Element s)) (b : Reducer τ ι (Element t))
        (x : σ) (y : τ) (stream : List ι),
      let pair := (reducer copy a b).reduce ⟨x, y⟩ stream
      pair.get 0 rfl = a.reduce x (stream.map copy) ∧ pair.get 1 rfl = b.reduce y stream ∧
      (reducer copy a.recording b.recording).feed ⟨(x, []), (y, [])⟩ stream
        = ⟨(a.feed x (stream.map copy), stream.map copy), (b.feed y stream, stream)⟩ ∧
      (a.Indifferent copy → pair.get 0 rfl = a.reduce x stream)) ∧
    ∀ {s : Ty U} (tree : Tree U ι s), tree.Indifferent copy → ∀ stream,
      (∀ {t : Ty U} (leaf : Machine ι (Element t)) (pick : Element s → Element t),
        tree.HasLeaf leaf pick → pick (tree.run copy stream) = leaf.run stream) ∧
      ∀ {t : Ty U} (other : Tree U ι t) (rearrange : Element s → Element t),
        tree.Rearranges other rearrange →
          rearrange (tree.run copy stream) = other.run copy stream ∧
          ∀ {u : Ty U} (leaf : Machine ι (Element u)) (pick : Element s → Element u),
            tree.HasLeaf leaf pick → ∃ pick', other.HasLeaf leaf pick' ∧ pick' ∘ rearrange = pick := by
  refine ⟨fun a b x y stream => ?_, fun tree htree stream =>
    ⟨fun leaf pick h => ?_, fun other rearrange h => ?_⟩⟩
  · intro pair
    have hpair : pair = .pair (a.reduce x (stream.map copy)) (b.reduce y stream) :=
      reduce_eq copy a b ⟨x, y⟩ stream
    have hfirst : pair.get 0 rfl = a.reduce x (stream.map copy) := by
      rw [hpair]
      rfl
    have hsecond : pair.get 1 rfl = b.reduce y stream := by
      rw [hpair]
      rfl
    refine ⟨hfirst, hsecond, ?_, fun ha => hfirst.trans (ha.reduce_map x stream)⟩
    rw [feed_eq, Reducer.feed_recording, Reducer.feed_recording, List.nil_append, List.nil_append]
  · exact h.pick_run htree stream
  · exact ⟨h.apply_run htree stream, fun leaf pick hleaf => h.hasLeaf hleaf⟩

/-- Numbered letters, of which a copy has another number; three reducers that look at letters only. -/
theorem is_product_letters :
    let copy (item : Char × Nat) : Char × Nat := (item.1, item.2 + 1)
    let stream : List (Char × Nat) := [('a', 0), ('b', 0), ('c', 0)]
    let text (s : String) : Element (U := Standard) (.leaf .string) := ⟨.leaf .string s, rfl⟩
    let count (n : Nat) : Element (U := Standard) (.leaf (.option (.integer .uword))) :=
      ⟨.leaf (.option (.integer .uword)) (Integer.ofInt? .uword n), rfl⟩
    let joining : Reducer Joining (Char × Nat) (Element (U := Standard) (.leaf .string)) :=
      (Joining.reducer.mapItem fun item => String.singleton item.1).mapResult text
    let dashes : Tree Standard (Char × Nat) _ := .leaf ⟨_, joining, .start "-" "" ""⟩
    let commas : Tree Standard (Char × Nat) _ := .leaf ⟨_, joining, .start ", " "[" "]"⟩
    let counted : Tree Standard (Char × Nat) _ :=
      .leaf ⟨_, Counting.reducer.mapResult count, .start⟩
    joining.Indifferent copy ∧
    ((reducer copy joining joining).reduce ⟨.start "-" "" "", .start ", " "[" "]"⟩ stream).get 0 rfl
      = text "a-b-c" ∧
    ((dashes.tee counted).tee commas).Indifferent copy ∧
    Typed.second (Typed.first (((dashes.tee counted).tee commas).run copy stream)) = count 3 ∧
    Typed.both id Typed.swapped
        (Typed.toRight (((dashes.tee counted).tee commas).run copy stream))
      = (dashes.tee (commas.tee counted)).run copy stream := by
  intro copy stream text count joining dashes commas counted
  obtain ⟨hpair, htree⟩ := is_product (U := Standard) copy
  have hjoining : joining.Indifferent copy := fun _ _ => rfl
  have hindifferent : ((dashes.tee counted).tee commas).Indifferent copy :=
    ⟨⟨hjoining, fun _ _ => rfl⟩, hjoining⟩
  obtain ⟨hleaf, hother⟩ := htree _ hindifferent stream
  exact ⟨hjoining, (hpair joining joining _ _ stream).2.2.2 hjoining, hindifferent,
    hleaf _ _ (.left _ (.right _ (.here _))),
    (hother _ _ (.trans (.toRight _ _ _) (.inside (.refl _) (.swap _ _)))).1⟩

end Teeing

end Polyad
