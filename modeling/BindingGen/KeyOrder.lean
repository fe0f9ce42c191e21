/-!
# Lists in the order of their keys

Values under texts, each key once, the smaller keys first.
-/

namespace BindingGen.KeyOrder

variable {α : Type}

/-- Puts a value in its place; a later value replaces an earlier one. -/
def insert (key : String) (value : α) : List (String × α) → List (String × α)
  | [] => [(key, value)]
  | (k, v) :: rest =>
    if key = k then (key, value) :: rest
    else if key < k then (key, value) :: (k, v) :: rest
    else (k, v) :: insert key value rest

/-- The last value of each key. -/
def ofList (values : List (String × α)) : List (String × α) :=
  values.foldl (fun sorted (key, value) => insert key value sorted) []

end BindingGen.KeyOrder
