import BindingGen.Text.Blank

/-!
# Namespaces

Sibling names share a leading part that names their enumeration. It counts as a namespace only when
it ends in an underscore, and a name that is nothing else keeps it.
-/

namespace BindingGen.Namespace

/-- The longest common leading part of two texts. -/
def sharedPart : List Char → List Char → List Char
  | a :: as, b :: bs => if a = b then a :: sharedPart as bs else []
  | _, _ => []

/-- The longest leading part that all names share. -/
def sharedByAll : List (List Char) → List Char
  | [] => []
  | name :: names => names.foldl sharedPart name

def commonPrefixChars (names : List (List Char)) : List Char :=
  let shared := sharedByAll names
  if shared.getLast? = some '_' then shared else []

/-- The namespace of the names that are there. -/
def commonPrefix (names : List (Option String)) : String :=
  String.ofList (commonPrefixChars (names.filterMap (·.map String.toList)))

def stripPrefixChars (raw start : List Char) : List Char :=
  match Text.afterPrefix? start raw with
  | some (c :: rest) => c :: rest
  | _ => raw

/-- Removes a namespace from the front of a name, unless nothing would be left. -/
def stripPrefix (raw start : String) : String :=
  String.ofList (stripPrefixChars raw.toList start.toList)

end BindingGen.Namespace
