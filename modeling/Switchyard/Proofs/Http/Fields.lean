import Switchyard.Http.Response

/-!
# Laws of header fields

Setting a name gives it one value and leaves the other names alone.
-/

set_option autoImplicit false

namespace Switchyard.Http

namespace Fields

variable {fields : Fields} {name other : String} {value : Octets}

theorem contains_eq_false_iff : fields.contains name = false ↔ fields.getAll name = [] := by
  simp [contains, getAll, List.filter_eq_nil_iff]

theorem get?_eq_head?_getAll (fields : Fields) (name : String) :
    fields.get? name = (fields.getAll name).head? := by
  rw [get?, getAll, List.head?_map, List.head?_filter]

@[simp]
theorem getAll_erase_self : (fields.erase name).getAll name = [] := by
  simp [getAll, erase, List.filter_filter]

theorem getAll_erase_of_ne (different : other ≠ name) :
    (fields.erase name).getAll other = fields.getAll other := by
  simp only [getAll, erase, List.filter_filter]
  congr 1
  apply List.filter_congr
  intro field _
  by_cases named : field.name = other
  · simp [named, different]
  · simp [named]

@[simp]
theorem getAll_append_self :
    (fields.append name value).getAll name = fields.getAll name ++ [value] := by
  simp [getAll, append]

theorem getAll_append_of_ne (different : other ≠ name) :
    (fields.append name value).getAll other = fields.getAll other := by
  simp [getAll, append, Ne.symm different]

@[simp]
theorem getAll_set_self : (fields.set name value).getAll name = [value] := by
  simp [set]

theorem getAll_set_of_ne (different : other ≠ name) :
    (fields.set name value).getAll other = fields.getAll other := by
  simp [set, getAll_append_of_ne different, getAll_erase_of_ne different]

theorem getAll_setIfAbsent_of_ne (different : other ≠ name) :
    (fields.setIfAbsent name value).getAll other = fields.getAll other := by
  unfold setIfAbsent
  split
  · rfl
  · exact getAll_set_of_ne different

end Fields

namespace Response

variable {response : Response} {length : Nat}

@[simp]
theorem body_withLength : (response.withLength length).body = response.body := by
  unfold withLength
  split <;> rfl

theorem status_withLength : (response.withLength length).status = response.status := by
  unfold withLength
  split <;> rfl

theorem getAll_withLength_of_ne {name : String} (different : name ≠ contentLengthName) :
    (response.withLength length).fields.getAll name = response.fields.getAll name := by
  unfold withLength
  split
  · rfl
  · exact Fields.getAll_set_of_ne different

end Response

end Switchyard.Http
