/-!
# Paths

A path is the text that names a file. Reading its components skips doubled separators and steps to
the same directory; two paths are the same if their components are.
-/

namespace BindingGen

structure Path where
  text : String
  deriving DecidableEq, Repr

namespace Path

/-! ## Components -/

inductive Component where
  | root
  | current
  | parent
  | name (text : List Char)
  deriving DecidableEq, Repr

/-- The texts between separators. -/
def splitSeparators : List Char → List (List Char)
  | [] => [[]]
  | c :: rest =>
    if c = '/' then [] :: splitSeparators rest
    else
      match splitSeparators rest with
      | [] => [[c]]
      | first :: others => (c :: first) :: others

/-- Each component with the part of the path that ends in it. Only a relative path may begin with a
step to the same directory. -/
def componentsFrom (first : Bool) (before : List Char) :
    List (List Char) → List (Component × List Char)
  | [] => []
  | segment :: rest =>
    let here := before ++ segment
    let others := componentsFrom false (here ++ ['/']) rest
    if segment = [] then others
    else if segment = ['.'] then if first then (.current, here) :: others else others
    else if segment = ['.', '.'] then (.parent, here) :: others
    else (.name segment, here) :: others

def locatedComponents : List Char → List (Component × List Char)
  | '/' :: rest => (.root, ['/']) :: componentsFrom false ['/'] (splitSeparators rest)
  | text => componentsFrom true [] (splitSeparators text)

def components (path : Path) : List Component :=
  (locatedComponents path.text.toList).map Prod.fst

/-- Whether two paths are written alike up to what components leave out. -/
def same (a b : Path) : Bool := a.components == b.components

/-! ## Parts -/

/-- The end of the component before the last one. The root has no parent. -/
def parentChars? (text : List Char) : Option (List Char) :=
  match (locatedComponents text).reverse with
  | [] => none
  | (.root, _) :: _ => none
  | _ :: (_, before) :: _ => some before
  | [_] => some []

def parent? (path : Path) : Option Path :=
  (parentChars? path.text.toList).map fun text => ⟨String.ofList text⟩

def fileName? (path : Path) : Option String :=
  match path.components.getLast? with
  | some (.name text) => some (String.ofList text)
  | _ => none

def isAbsolute (path : Path) : Bool := path.text.toList.head? = some '/'

/-! ## Joining -/

/-- A tail behind a base, with one separator put between them where there is none. -/
def appendChars (base tail : List Char) : List Char :=
  match base.getLast? with
  | none => tail
  | some '/' => base ++ tail
  | some _ => base ++ '/' :: tail

/-- An absolute tail replaces the base. -/
def join (base tail : Path) : Path :=
  if tail.isAbsolute then tail
  else ⟨String.ofList (appendChars base.text.toList tail.text.toList)⟩

end Path

end BindingGen
