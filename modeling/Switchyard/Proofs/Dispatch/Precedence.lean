import Mathlib.Data.List.Nodup
import Switchyard.Proofs.Dispatch.Parameters

/-!
# One parameter, looked up in four ways

The first value of a parameter, all its values, the map of all parameters and the map of those whose
names begin alike are four readings of the same two forms.  They agree on every name, and a name
that the query has is never looked up in the body.
-/

set_option autoImplicit false

namespace Switchyard

namespace Form

/-- The entries of a name, in their order. -/
def named (form : Form) (name : String) : List (String × String) :=
  form.entries.filter fun entry => entry.1 = name

variable {form : Form} {name : String}

theorem named_eq (form : Form) (name : String) :
    (form.getAll name).map (Prod.mk name) = form.named name := by
  rw [getAll, named, List.map_map]
  refine (List.map_congr_left ?_).trans (List.map_id _)
  rintro ⟨other, value⟩ membership
  obtain rfl : other = name := by simpa using (List.mem_filter.mp membership).2
  rfl

theorem get?_eq_lookup (form : Form) (name : String) :
    form.get? name = form.entries.lookup name := by
  rw [get?]
  induction form.entries with
  | nil => rfl
  | cons entry rest inductionHypothesis =>
      obtain ⟨other, value⟩ := entry
      by_cases same : other = name
      · simp [same]
      · have apart : (name == other) = false := by simpa using Ne.symm same
        simp [same, List.lookup_cons, apart, inductionHypothesis]

end Form

namespace Dispatch.Context

variable {context : Context} {entries : List (String × String)} {seen : List String}
  {name start rest text : String}

theorem lookup_firstEntries (seen : List String) (entries : List (String × String))
    (name : String) : (firstEntries seen entries).lookup name =
      if name ∈ seen then none else entries.lookup name := by
  induction entries generalizing seen with
  | nil => simp [firstEntries]
  | cons entry rest inductionHypothesis =>
      obtain ⟨other, value⟩ := entry
      by_cases same : name = other
      · subst same
        by_cases known : name ∈ seen <;> simp [firstEntries, known, inductionHypothesis]
      · have apart : (name == other) = false := by simpa using same
        by_cases known : other ∈ seen <;>
          simp [firstEntries, known, inductionHypothesis, List.lookup_cons, apart, same]

/-- Every name is there once, and those that were seen before are not. -/
theorem nodup_firstEntries (seen : List String) (entries : List (String × String)) :
    ((firstEntries seen entries).map Prod.fst).Nodup ∧
      ∀ name ∈ (firstEntries seen entries).map Prod.fst, name ∉ seen := by
  induction entries generalizing seen with
  | nil => simp [firstEntries]
  | cons entry rest inductionHypothesis =>
      obtain ⟨other, value⟩ := entry
      by_cases known : other ∈ seen
      · simpa [firstEntries, known] using inductionHypothesis seen
      · obtain ⟨nodup, fresh⟩ := inductionHypothesis (other :: seen)
        rw [firstEntries, if_neg (by simpa using known), List.map_cons, List.nodup_cons,
          List.forall_mem_cons]
        refine ⟨⟨fun again => fresh other again List.mem_cons_self, nodup⟩, known, ?_⟩
        intro name membership inSeen
        exact fresh name membership (List.mem_cons_of_mem _ inSeen)

theorem afterStart?_eq_some : afterStart? start text = some rest ↔ text = start ++ rest := by
  rw [afterStart?]
  split
  case isTrue begins =>
      obtain ⟨tail, spelled⟩ := List.isPrefixOf_iff_prefix.mp begins
      rw [← spelled, List.drop_left, Option.some_inj, ← String.toList_inj, ← String.toList_inj,
        String.toList_append, ← spelled, String.toList_ofList]
      exact (List.append_right_inj start.toList).symm
  case isFalse other =>
      refine iff_of_false nofun ?_
      rintro rfl
      exact other (List.isPrefixOf_iff_prefix.mpr (by simp))

theorem nodup_parameterMap (context : Context) :
    (context.parameterMap.map Prod.fst).Nodup :=
  (nodup_firstEntries [] _).1

theorem lookup_parameterMap (context : Context) (name : String) :
    context.parameterMap.lookup name = context.parameter name := by
  rw [parameterMap, lookup_firstEntries, parameter, Form.get?_eq_lookup, Form.get?_eq_lookup]
  simp [List.lookup_append]

theorem parameter_eq_head? (context : Context) (name : String) :
    context.parameter name = (context.parameterValues name).head? := by
  cases values : context.queryForm.getAll name with
  | nil =>
      obtain ⟨all, first⟩ := parameters_of_unasked values
      rw [all, first, Form.get?_eq_head?_getAll]
  | cons value others =>
      rw [parameter, parameterValues, Form.get?_eq_head?_getAll, values]
      rfl

/-- The values of a parameter come from one form only. -/
theorem parameterValues_named (context : Context) (name : String) :
    (context.parameterValues name).map (Prod.mk name) =
      if context.queryForm.named name = [] then context.bodyForm.named name
      else context.queryForm.named name := by
  simp only [← Form.named_eq]
  cases values : context.queryForm.getAll name with
  | nil => rw [(parameters_of_unasked values).1, List.map_nil, if_pos rfl]
  | cons value others =>
      rw [parameterValues, values, List.map_cons, if_neg (List.cons_ne_nil _ _)]

/-- Put back before the names, the start gives the parameters whose names begin with it. -/
theorem restored_parametersWithStart (context : Context) (start : String) :
    (context.parametersWithStart start).map (fun entry => (start ++ entry.1, entry.2)) =
      context.parameterMap.filter fun entry => start.toList.isPrefixOf entry.1.toList := by
  unfold parametersWithStart
  induction context.parameterMap with
  | nil => rfl
  | cons entry others inductionHypothesis =>
      obtain ⟨name, value⟩ := entry
      cases cut : afterStart? start name with
      | none =>
          have other : start.toList.isPrefixOf name.toList = false := by
            rw [afterStart?] at cut
            split at cut
            case isTrue => cases cut
            case isFalse apart => exact Bool.eq_false_iff.mpr apart
          simpa [cut, other] using inductionHypothesis
      | some rest =>
          obtain rfl := afterStart?_eq_some.mp cut
          simpa [cut] using inductionHypothesis

theorem nodup_parametersWithStart (context : Context) (start : String) :
    ((context.parametersWithStart start).map Prod.fst).Nodup := by
  have restored : ((context.parametersWithStart start).map fun entry =>
      (start ++ entry.1, entry.2)).Sublist context.parameterMap := by
    rw [restored_parametersWithStart]
    exact List.filter_sublist
  have nodup := context.nodup_parameterMap.sublist (restored.map Prod.fst)
  rw [List.map_map] at nodup
  exact List.Nodup.of_map (start ++ ·) (by rwa [List.map_map])

theorem lookup_parametersWithStart (context : Context) (start rest : String) :
    (context.parametersWithStart start).lookup rest =
      context.parameterMap.lookup (start ++ rest) := by
  unfold parametersWithStart
  induction context.parameterMap with
  | nil => rfl
  | cons entry others inductionHypothesis =>
      obtain ⟨name, value⟩ := entry
      cases cut : afterStart? start name with
      | none =>
          have apart : start ++ rest ≠ name := by
            rintro rfl
            rw [afterStart?_eq_some.mpr rfl] at cut
            cases cut
          have other : (start ++ rest == name) = false := by simpa using apart
          simp [cut, inductionHypothesis, List.lookup_cons, other]
      | some found =>
          obtain rfl := afterStart?_eq_some.mp cut
          by_cases same : rest = found
          · simp [same, cut]
          · have apart : (rest == found) = false := by simpa using same
            have other : (start ++ rest == start ++ found) = false := by simpa using same
            simp [cut, List.lookup_cons, apart, other, inductionHypothesis]

/-- The values of a parameter are those that the query has under its name, in their order, or those
that the body has if the query has none.  Its value is the first of them, and it stands in the map
of all parameters once.  Taking a start away from the names keeps every parameter whose name begins
with it, and brings no two of them together. -/
theorem parameters_agree (context : Context) (name start rest : String) :
    (context.parameterValues name).map (Prod.mk name) =
        (if context.queryForm.named name = [] then context.bodyForm.named name
        else context.queryForm.named name) ∧
      context.parameter name = (context.parameterValues name).head? ∧
      context.parameterMap.lookup name = context.parameter name ∧
      (context.parameterMap.map Prod.fst).Nodup ∧
      (context.parametersWithStart start).lookup rest = context.parameter (start ++ rest) ∧
      ((context.parametersWithStart start).map Prod.fst).Nodup ∧
      (context.parametersWithStart start).map (fun entry => (start ++ entry.1, entry.2)) =
        context.parameterMap.filter fun entry => start.toList.isPrefixOf entry.1.toList := by
  refine ⟨context.parameterValues_named name, context.parameter_eq_head? name,
    context.lookup_parameterMap name, context.nodup_parameterMap, ?_,
    context.nodup_parametersWithStart start, context.restored_parametersWithStart start⟩
  rw [lookup_parametersWithStart, lookup_parameterMap]

end Dispatch.Context

end Switchyard
