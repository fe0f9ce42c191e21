import BindingGen.FileStore

/-!
# File trees

Directories and files by their place below the root, and the rules by which a path finds one: every
step but the last has to be a directory. There are no links, so the step to a parent undoes the one
before it.
-/

namespace BindingGen

/-- A place: the names on the way from the root. -/
abbrev Location := List String

/-- What a file holds. Only some bytes are text. -/
inductive Content where
  | text (text : String)
  | binary (bytes : ByteArray)

/-- The content of a file of these bytes. -/
def Content.ofBytes (bytes : ByteArray) : Content :=
  match String.fromUTF8? bytes with
  | some content => .text content
  | none => .binary bytes

inductive FileNode where
  | directory
  | file (content : Content)

/-- The root is always a directory. -/
structure FileTree where
  nodes : List (Location × FileNode)

namespace FileTree

/-- Only the root. -/
def empty : FileTree := ⟨[]⟩

/-! ## Places -/

def node? (tree : FileTree) : Location → Option FileNode
  | [] => some .directory
  | place => tree.nodes.lookup place

/-- Puts a node at a place, instead of what was there. -/
def set (tree : FileTree) (place : Location) (node : FileNode) : FileTree :=
  ⟨(place, node) :: tree.nodes.filter (·.1 != place)⟩

/-- Removes a place with everything below it. -/
def erase (tree : FileTree) (place : Location) : FileTree :=
  ⟨tree.nodes.filter fun (other, _) => !place.isPrefixOf other⟩

def isDirectory (tree : FileTree) (place : Location) : Bool :=
  match tree.node? place with
  | some .directory => true
  | _ => false

/-! ## Finding a place -/

/-- Names take at most 255 bytes. -/
def nameLimit : Nat := 255

/-- Whole paths take less than 4096 bytes. -/
def pathLimit : Nat := 4096

/-- The texts between the separators of a path. -/
def stepsOf (path : Path) : List String :=
  (Path.splitSeparators path.text.toList).map String.ofList

/-- The place that steps lead to from another one. An empty step stays, like the step to the same
directory. -/
def follow (tree : FileTree) (here : Location) : List String → Except FileFault Location
  | [] => .ok here
  | step :: rest =>
    match tree.node? here with
    | none => .error .notFound
    | some (.file _) => .error .notDirectory
    | some .directory =>
      if step = "" ∨ step = "." then follow tree here rest
      else if step = ".." then follow tree here.dropLast rest
      else if nameLimit < step.utf8ByteSize then .error .nameTooLong
      else
        match tree.node? (here ++ [step]) with
        | none => .error .notFound
        | some _ => follow tree (here ++ [step]) rest

/-- Paths that no place can have. -/
def checkPath (path : Path) : Except FileFault Unit :=
  if path.text.toList.contains '\x00' then .error .invalidPath
  else if path.text = "" then .error .notFound
  else if pathLimit ≤ path.text.utf8ByteSize then .error .nameTooLong
  else .ok ()

/-- Where a path starts, seen from a working directory. -/
def origin (cwd : Location) (path : Path) : Location := if path.isAbsolute then [] else cwd

def find (tree : FileTree) (cwd : Location) (path : Path) : Except FileFault Location := do
  checkPath path
  tree.follow (origin cwd path) (stepsOf path)

/-! ## Reading -/

def isFile (tree : FileTree) (cwd : Location) (path : Path) : Bool :=
  match tree.find cwd path with
  | .ok place =>
    match tree.node? place with
    | some (.file _) => true
    | _ => false
  | .error _ => false

def readText (tree : FileTree) (cwd : Location) (path : Path) : Except FileFault String := do
  match tree.node? (← tree.find cwd path) with
  | some (.file (.text text)) => .ok text
  | some (.file (.binary _)) => .error .invalidText
  | some .directory => .error .isDirectory
  | none => .error .notFound

/-! ## Writing -/

/-- The steps without separators at the end, and whether there were any. -/
def splitEnd (steps : List String) : List String × Bool :=
  let kept := (steps.reverse.dropWhile (· = "")).reverse
  (kept, kept.length < steps.length)

/-- The place of a file that may not be there yet: its directory has to be. -/
def findNew (tree : FileTree) (cwd : Location) (path : Path) : Except FileFault Location := do
  checkPath path
  let start := origin cwd path
  let (steps, slash) := splitEnd (stepsOf path)
  match steps.getLast? with
  | none => .error .isDirectory
  | some name =>
    -- Such a name is never that of a file, but a fault on the way to it comes first.
    if name = "." ∨ name = ".." then
      let _ ← tree.follow start steps
      .error .isDirectory
    else do
      let parent ← tree.follow start steps.dropLast
      if !tree.isDirectory parent then .error .notDirectory
      else if slash then .error .isDirectory
      else if nameLimit < name.utf8ByteSize then .error .nameTooLong
      else if tree.isDirectory (parent ++ [name]) then .error .isDirectory
      else .ok (parent ++ [name])

def write (tree : FileTree) (cwd : Location) (path : Path) (content : Content) :
    Except FileFault FileTree := do
  return tree.set (← tree.findNew cwd path) (.file content)

/-! ## Directories -/

/-- Opens the directories that steps go through. -/
def makeSteps (tree : FileTree) (here : Location) : List String → Except FileFault FileTree
  | [] => .ok tree
  | step :: rest =>
    if step = "" ∨ step = "." then makeSteps tree here rest
    else if step = ".." then makeSteps tree here.dropLast rest
    else
      match tree.node? (here ++ [step]) with
      | some .directory => makeSteps tree (here ++ [step]) rest
      | some (.file _) => .error .notDirectory
      | none => makeSteps (tree.set (here ++ [step]) .directory) (here ++ [step]) rest

def makeDirectories (tree : FileTree) (cwd : Location) (path : Path) :
    Except FileFault FileTree :=
  tree.makeSteps (origin cwd path) (stepsOf path)

/-- Writes a file and opens the directories on the way to it. -/
def writeNested (tree : FileTree) (cwd : Location) (path : Path) (content : Content) :
    Except FileFault FileTree := do
  let tree ← tree.makeSteps (origin cwd path) (stepsOf path).dropLast
  tree.write cwd path content

def remove (tree : FileTree) (cwd : Location) (path : Path) : Except FileFault FileTree := do
  return tree.erase (← tree.find cwd path)

/-! ## As a store -/

/-- A file tree with the directory in which relative paths start. -/
structure View where
  tree : FileTree
  cwd : Location

instance : FileStore (StateM View) where
  readText path := do
    let view ← get
    return view.tree.readText view.cwd path
  isFile path := do
    let view ← get
    return view.tree.isFile view.cwd path
  writeText path text := do
    let view ← get
    match view.tree.write view.cwd path (.text text) with
    | .ok tree =>
      modify fun view => { view with tree }
      return .ok ()
    | .error fault => return .error fault

end FileTree

end BindingGen
