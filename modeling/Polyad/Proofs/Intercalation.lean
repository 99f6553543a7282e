/-
Polyad/Proofs/Intercalation.lean

Joining the texts of a stream puts the separator between any two of them and nowhere else.

Idea.  What has been joined so far does not tell whether there was a text in it, since the part before
the first text may be empty and so may the texts.  So a run is followed from a state in which joining
has started (`feed_started`): from there on every text brings a separator with it, and only the first
text does not, whatever it is.

Main statement: `intercalates`.
-/
import Polyad.Reducer.Joining
import Mathlib.Algebra.Order.Ring.Nat

namespace Polyad.Joining

variable {ι : Type} (separator before after text : String) (texts : List String)

/-! ### Texts behind separators -/

/-- Texts with the separator before each of them. -/
def separated (separator : String) (texts : List String) : String :=
  String.join (texts.map (separator ++ ·))

@[simp]
theorem separated_nil : separated separator [] = "" := rfl

@[simp]
theorem separated_cons :
    separated separator (text :: texts) = separator ++ text ++ separated separator texts := by
  unfold separated
  rw [List.map_cons, String.join_cons]

/-- There is one separator for each text. -/
theorem length_separated :
    (separated separator texts).length
      = (texts.map String.length).sum + texts.length * separator.length := by
  induction texts with
  | nil => simp
  | cons text texts ih =>
    rw [separated_cons, String.length_append, String.length_append, ih, List.map_cons,
      List.sum_cons, List.length_cons, Nat.add_one_mul]
    omega

/-- Between texts there is a separator before each text but the first. -/
theorem intercalate_cons :
    separator.intercalate (text :: texts) = text ++ separated separator texts := by
  induction texts generalizing text with
  | nil => rw [String.intercalate_singleton, separated_nil, String.append_empty]
  | cons next texts ih =>
    rw [String.intercalate_cons_cons, ih, separated_cons, String.append_assoc, String.append_assoc]

/-- Empty texts at the beginning leave nothing but their separators. -/
theorem intercalate_replicate_append (n : Nat) (h : texts ≠ []) :
    separator.intercalate (List.replicate n "" ++ texts)
      = String.join (List.replicate n separator) ++ separator.intercalate texts := by
  induction n with
  | zero => simp
  | succ n ih =>
    have hne : List.replicate n "" ++ texts ≠ [] := List.append_ne_nil_of_right_ne_nil _ h
    rw [List.replicate_succ, List.cons_append, String.intercalate_cons_of_ne_nil hne, ih,
      List.replicate_succ, String.join_cons, String.empty_append, String.append_assoc]

/-! ### One text, and any number of them -/

/-- **One text**, which brings a separator with it if joining has started. -/
theorem accept_eq (joined : String) (started : Bool) :
    reducer.accept ⟨separator, after, joined, started⟩ text
      = ⟨separator, after, (if started then joined ++ separator else joined) ++ text, true⟩ :=
  rfl

/-- **Any texts** from a state in which joining has started. -/
theorem feed_started (joined : String) :
    reducer.feed ⟨separator, after, joined, true⟩ texts
      = ⟨separator, after, joined ++ separated separator texts, true⟩ := by
  induction texts generalizing joined with
  | nil => rw [Reducer.feed_nil, separated_nil, String.append_empty]
  | cons text texts ih =>
    rw [Reducer.feed_cons, accept_eq, if_pos rfl, ih, separated_cons, String.append_assoc,
      String.append_assoc, String.append_assoc]

/-- Nothing stands between the two parts around no text at all. -/
theorem reduce_nil : reducer.reduce (start separator before after) [] = before ++ after := rfl

theorem reduce_cons :
    reducer.reduce (start separator before after) (text :: texts)
      = before ++ text ++ separated separator texts ++ after := by
  -- only the first text is accepted in a state in which joining has not started
  have hfirst : reducer.accept (start separator before after) text
      = ⟨separator, after, before ++ text, true⟩ :=
    accept_eq separator after text before false
  unfold Reducer.reduce
  rw [Reducer.feed_cons, hfirst, feed_started]
  rfl

theorem reduce_eq_intercalate :
    reducer.reduce (start separator before after) texts
      = before ++ separator.intercalate texts ++ after := by
  cases texts with
  | nil => rw [reduce_nil, String.intercalate_nil, String.append_empty]
  | cons text texts =>
    rw [reduce_cons, intercalate_cons]
    simp only [String.append_assoc]

theorem length_reduce :
    (reducer.reduce (start separator before after) texts).length
      = before.length + ((texts.map String.length).sum + (texts.length - 1) * separator.length)
        + after.length := by
  cases texts with
  | nil => simp [reduce_nil]
  | cons text texts =>
    rw [reduce_cons, String.length_append, String.length_append, String.length_append,
      length_separated, List.map_cons, List.sum_cons, List.length_cons, Nat.add_sub_cancel]
    omega

/-- **Joining is intercalation.**  Let the items of a stream be shown as any texts.  Joined with a
separator and with something before and after, the stream becomes the one part, its texts with the
separator between any two of them, and the other part.  No items leave the two parts, and an item with
others behind it brings one separator for each of these, so that there is one less than there are
items.  It is no matter whether a text is empty or looks like the separator: items that are shown as
nothing at the beginning still have their separators.

Where a stream is cut into two parts with items in both, a separator stands between what the parts
are joined to on their own. -/
theorem intercalates (display : ι → String) (separator before after : String) :
    let joined (before after : String) (items : List ι) : String :=
      (reducer.mapItem display).reduce (start separator before after) items
    (∀ items, joined before after items
      = before ++ separator.intercalate (items.map display) ++ after) ∧
    joined before after [] = before ++ after ∧
    (∀ item items, joined before after (item :: items)
      = before ++ display item ++ separated separator (items.map display) ++ after) ∧
    (∀ items, (joined before after items).length
      = before.length + ((items.map fun item => (display item).length).sum
          + (items.length - 1) * separator.length) + after.length) ∧
    (∀ xs ys, (∀ x ∈ xs, display x = "") → ys ≠ [] → joined before after (xs ++ ys)
      = before ++ (String.join (List.replicate xs.length separator) ++ joined "" "" ys) ++ after) ∧
    ∀ xs ys, xs ≠ [] → ys ≠ [] → joined before after (xs ++ ys)
      = before ++ (joined "" "" xs ++ separator ++ joined "" "" ys) ++ after := by
  intro joined
  have hjoined (before after : String) (items : List ι) :
      joined before after items
        = before ++ separator.intercalate (items.map display) ++ after := by
    simp only [joined, Reducer.reduce_mapItem, reduce_eq_intercalate]
  have hbare (items : List ι) : joined "" "" items = separator.intercalate (items.map display) := by
    rw [hjoined, String.empty_append, String.append_empty]
  refine ⟨hjoined before after, reduce_nil .., fun item items => ?_, fun items => ?_,
    fun xs ys hxs hys => ?_, fun xs ys hxs hys => ?_⟩
  · simp only [joined, Reducer.reduce_mapItem, List.map_cons, reduce_cons]
  · simp only [joined, Reducer.reduce_mapItem, length_reduce, List.map_map, List.length_map]
    rfl
  · have hempty : xs.map display = List.replicate xs.length "" :=
      List.eq_replicate_iff.mpr ⟨List.length_map _, by simpa using hxs⟩
    rw [hjoined, hbare, List.map_append, hempty, intercalate_replicate_append]
    simpa using hys
  · rw [hjoined, hbare, hbare, List.map_append, String.intercalate_append_of_ne_nil]
    · simpa using hxs
    · simpa using hys

/-- Numbers, one of which is shown as nothing and one as the separator. -/
theorem intercalates_dashes :
    let display (n : Nat) : String := if n = 0 then "" else if n = 1 then "-" else "x"
    let joined (before after : String) (items : List Nat) : String :=
      (reducer.mapItem display).reduce (start "-" before after) items
    (∀ n ∈ [0, 0], display n = "") ∧ [1, 2] ≠ [] ∧ [0, 0] ≠ [] ∧
    joined "<" ">" ([0, 0] ++ [1, 2]) = "<" ++ ("--" ++ joined "" "" [1, 2]) ++ ">" ∧
    joined "<" ">" ([0, 0] ++ [1, 2])
      = "<" ++ (joined "" "" [0, 0] ++ "-" ++ joined "" "" [1, 2]) ++ ">" ∧
    joined "<" ">" [0, 0, 1, 2] = "<----x>" ∧ joined "<" ">" [] = "<>" := by
  intro display joined
  obtain ⟨-, hnone, -, -, hempty, hcut⟩ := intercalates display "-" "<" ">"
  have hshown : ∀ n ∈ [0, 0], display n = "" := by simp [display]
  have hright : [1, 2] ≠ [] := List.cons_ne_nil _ _
  have hleft : [0, 0] ≠ [] := List.cons_ne_nil _ _
  exact ⟨hshown, hright, hleft, hempty _ _ hshown hright, hcut _ _ hleft hright, by decide, hnone⟩

end Polyad.Joining
