import Mathlib.Data.List.Basic
import Switchyard.Text.Split

/-!
# Laws of cutting at a separator

The fields on both sides of a separator are those of the two sides, and all fields consist of items
of the list.  They hold no separator and give the list back when they are joined.
-/

set_option autoImplicit false

namespace Switchyard.Text

universe u

variable {α : Type u} [DecidableEq α]

theorem splitFrom_eq (separator : α) (field : List α) (fields : List (List α))
    (items : List α) :
    splitFrom separator field fields items =
      fields.reverse ++ splitFrom separator field [] items := by
  induction items generalizing field fields with
  | nil => simp [splitFrom]
  | cons head rest inductionHypothesis =>
      simp only [splitFrom]
      split
      · rw [inductionHypothesis [] (field.reverse :: fields),
          inductionHypothesis [] [field.reverse]]
        simp
      · exact inductionHypothesis (head :: field) fields

theorem splitFrom_eq_splitOnPPrepend (separator : α) (begun items : List α) :
    splitFrom separator begun [] items =
      List.splitOnPPrepend (fun item => item == separator) items begun := by
  induction items generalizing begun with
  | nil => rfl
  | cons head rest inductionHypothesis =>
      simp only [splitFrom, List.splitOnPPrepend_cons_eq_if, beq_iff_eq]
      split
      · rw [splitFrom_eq, inductionHypothesis, List.splitOnPPrepend_nil_right]
        rfl
      · exact inductionHypothesis (head :: begun)

theorem splitOn_eq (separator : α) (items : List α) :
    splitOn separator items = items.splitOn separator :=
  splitFrom_eq_splitOnPPrepend separator [] items

theorem splitOn_append_cons (separator : α) (before after : List α) :
    splitOn separator (before ++ separator :: after) =
      splitOn separator before ++ splitOn separator after := by
  simp only [splitOn_eq, List.splitOn_append_cons_self]

theorem flatten_splitFrom (separator : α) (begun items : List α) :
    (splitFrom separator begun [] items).flatten =
      begun.reverse ++ items.filter (· ≠ separator) := by
  induction items generalizing begun with
  | nil => simp [splitFrom]
  | cons head rest inductionHypothesis =>
      simp only [splitFrom]
      split
      case isTrue same =>
          simp [splitFrom_eq separator [] [begun.reverse], inductionHypothesis, same]
      case isFalse other => simp [inductionHypothesis, other]

/-- Only separators are lost between the fields. -/
theorem flatten_splitOn (separator : α) (items : List α) :
    (splitOn separator items).flatten = items.filter (· ≠ separator) :=
  flatten_splitFrom separator [] items

omit [DecidableEq α] in
theorem drop_length_takeWhile (holds : α → Bool) (items : List α) :
    items.drop (items.takeWhile holds).length = items.dropWhile holds :=
  (congrArg (List.drop _) List.takeWhile_append_dropWhile.symm).trans List.drop_left

theorem cutAtFirst_fst (separator : α) (items : List α) :
    (cutAtFirst separator items).1 = items.takeWhile fun item => item ≠ separator := by
  have whole := List.takeWhile_append_dropWhile (p := fun item => item ≠ separator) (l := items)
  unfold cutAtFirst
  split
  case h_1 none =>
      rw [none, List.append_nil] at whole
      exact whole.symm
  case h_2 => rfl

/-- Items other than the separator are taken into the field that is being read. -/
theorem splitFrom_append {separator : α} {front : List α} (uncut : separator ∉ front)
    (begun items : List α) : splitFrom separator begun [] (front ++ items) =
      splitFrom separator (front.reverse ++ begun) [] items := by
  induction front generalizing begun with
  | nil => rfl
  | cons head rest inductionHypothesis =>
      rw [List.mem_cons, not_or] at uncut
      rw [List.cons_append, splitFrom, if_neg (Ne.symm uncut.1), inductionHypothesis uncut.2]
      simp

theorem not_mem_of_mem_splitFrom {separator : α} {begun : List α} (uncut : separator ∉ begun)
    (items : List α) : ∀ field ∈ splitFrom separator begun [] items, separator ∉ field := by
  induction items generalizing begun with
  | nil => simpa [splitFrom] using uncut
  | cons head rest inductionHypothesis =>
      simp only [splitFrom]
      split
      case isTrue =>
          rw [splitFrom_eq, List.reverse_singleton, List.singleton_append, List.forall_mem_cons]
          exact ⟨by simpa using uncut, inductionHypothesis List.not_mem_nil⟩
      case isFalse other =>
          exact inductionHypothesis (List.not_mem_cons_of_ne_of_not_mem (Ne.symm other) uncut)

theorem mem_of_mem_splitFrom {separator item : α} {begun field items : List α}
    {fields : List (List α)} (found : field ∈ splitFrom separator begun fields items)
    (inField : item ∈ field) : field ∈ fields ∨ item ∈ begun ∨ item ∈ items := by
  induction items generalizing begun fields with
  | nil =>
      simp only [splitFrom, List.mem_reverse, List.mem_cons] at found
      rcases found with rfl | earlier
      · exact .inr (.inl (List.mem_reverse.mp inField))
      · exact .inl earlier
  | cons head rest inductionHypothesis =>
      simp only [splitFrom] at found
      split at found
      · rcases inductionHypothesis found with earlier | inBegun | inRest
        · rcases List.mem_cons.mp earlier with rfl | earlier
          · exact .inr (.inl (List.mem_reverse.mp inField))
          · exact .inl earlier
        · cases inBegun
        · exact .inr (.inr (List.mem_cons_of_mem _ inRest))
      · rcases inductionHypothesis found with earlier | inBegun | inRest
        · exact .inl earlier
        · rcases List.mem_cons.mp inBegun with rfl | inBegun
          · exact .inr (.inr List.mem_cons_self)
          · exact .inr (.inl inBegun)
        · exact .inr (.inr (List.mem_cons_of_mem _ inRest))

/-- The fields consist of items of the list. -/
theorem mem_of_mem_splitOn {separator item : α} {field items : List α}
    (found : field ∈ splitOn separator items) (inField : item ∈ field) : item ∈ items := by
  rcases mem_of_mem_splitFrom found inField with impossible | impossible | inItems
  · cases impossible
  · cases impossible
  · exact inItems

/-- Items other than the separator stand in some field. -/
theorem exists_mem_splitOn {separator item : α} {items : List α} (other : item ≠ separator)
    (membership : item ∈ items) : ∃ field ∈ splitOn separator items, item ∈ field := by
  suffices general : ∀ begun : List α, item ∈ begun ∨ item ∈ items →
      ∃ field ∈ splitFrom separator begun [] items, item ∈ field from general [] (.inr membership)
  clear membership
  induction items with
  | nil =>
      intro begun membership
      exact ⟨begun.reverse, by simp [splitFrom], by simpa using membership⟩
  | cons head rest inductionHypothesis =>
      intro begun membership
      simp only [splitFrom]
      split
      case isTrue same =>
          rw [splitFrom_eq]
          rcases membership with inBegun | inItems
          · exact ⟨begun.reverse, by simp, by simpa using inBegun⟩
          · have inRest : item ∈ rest :=
              (List.mem_cons.mp inItems).resolve_left fun is => other (is.trans same)
            obtain ⟨field, found, inField⟩ := inductionHypothesis [] (.inr inRest)
            exact ⟨field, List.mem_append_right _ found, inField⟩
      case isFalse =>
          refine inductionHypothesis (head :: begun) ?_
          rcases membership with inBegun | inItems
          · exact .inl (List.mem_cons_of_mem _ inBegun)
          · rcases List.mem_cons.mp inItems with rfl | inRest
            · exact .inl List.mem_cons_self
            · exact .inr inRest

/-- The pieces of a text between all its separators. -/
structure Cut (separator : Char) (text : String) (pieces : List String) : Prop where
  given : pieces ≠ []
  joined : String.intercalate (String.singleton separator) pieces = text
  uncut : ∀ piece ∈ pieces, separator ∉ piece.toList

theorem cut_fields (separator : Char) (text : String) :
    Cut separator text (fields separator text) where
  given := by simp [fields, splitOn_eq]
  joined := by
    rw [← String.toList_inj, String.toList_intercalate]
    simp [fields, splitOn_eq, Function.comp_def]
  uncut := by
    have apart : ∀ field ∈ splitOn separator text.toList, separator ∉ field :=
      not_mem_of_mem_splitFrom List.not_mem_nil text.toList
    simpa [fields] using apart

theorem fields_append (separator : Char) (before after : String) :
    fields separator (before ++ String.singleton separator ++ after) =
      fields separator before ++ fields separator after := by
  simp [fields, splitOn_append_cons]

end Switchyard.Text
