/-!
Cutting a list at a separator.  `splitOn` keeps every field, also the empty ones, so that joining
the fields with the separator gives the list back; `cutAtFirst` cuts once.
-/

set_option autoImplicit false

namespace Switchyard.Text

universe u

variable {α : Type u} [DecidableEq α]

def splitFrom (separator : α) (field : List α) (fields : List (List α)) :
    List α → List (List α)
  | [] => (field.reverse :: fields).reverse
  | head :: rest =>
      if head = separator then
        splitFrom separator [] (field.reverse :: fields) rest
      else
        splitFrom separator (head :: field) fields rest

/-- The fields between separators; there is always at least one. -/
def splitOn (separator : α) (items : List α) : List (List α) :=
  splitFrom separator [] [] items

/-- What stands before the first separator, and what stands after it if there is one. -/
def cutAtFirst (separator : α) (items : List α) : List α × Option (List α) :=
  match items.dropWhile fun item => item ≠ separator with
  | [] => (items, none)
  | _ :: after => (items.takeWhile fun item => item ≠ separator, some after)

def fields (separator : Char) (text : String) : List String :=
  (splitOn separator text.toList).map String.ofList

end Switchyard.Text
