import BindingGen.Json.Lexical

/-!
# Readings of a JSON text

A reading is what a text says up to its first fault: a tree in which every value keeps its place. A
fault stands where reading stopped, so what is found by walking the tree in order is found in the
order of the text.
-/

namespace BindingGen.Json

inductive Scalar where
  | null
  | bool (value : Bool)
  | number (value : Number)
  | string (value : String)
  deriving DecidableEq, Repr

/-- A scalar keeps the text behind it, an array or object the text from its bracket on. A member
keeps its key's place, and an object ends well or in a fault. -/
inductive Reading where
  | scalar (value : Scalar) (behind : List Char)
  | array (start : List Char) (items : List Reading)
  | object (start : List Char) (members : List (String × Mark × Reading))
      (ending : Except ReadError Mark)
  | fault (error : ReadError)

namespace Reading

/-- What is read and the text behind it, unless reading stopped. -/
abbrev Step (α : Type) := α × Option (List Char)

def stop (fault : Fault) (mark : Mark) : Step Reading := (.fault ⟨fault, mark⟩, none)

/-! ## Scalars -/

def readScalar (text : List Char) : Step Reading :=
  match text with
  | [] => stop .endInValue (.before [])
  | 'n' :: rest => word ['u', 'l', 'l'] .null rest
  | 't' :: rest => word ['r', 'u', 'e'] (.bool true) rest
  | 'f' :: rest => word ['a', 'l', 's', 'e'] (.bool false) rest
  | '"' :: rest =>
    match readString rest with
    | .ok (content, behind) => (.scalar (.string (String.ofList content)) behind, some behind)
    | .error e => (.fault e, none)
  | c :: _ =>
    if c.isDigit || c = '-' then
      match readNumber text with
      | .ok (n, behind) => (.scalar (.number n) behind, some behind)
      | .error e => (.fault e, none)
    else stop .expectedValue (.after text)
where
  word (letters : List Char) (value : Scalar) (rest : List Char) : Step Reading :=
    match readWord letters rest with
    | .ok behind => (.scalar value behind, some behind)
    | .error e => (.fault e, none)

/-! ## Arrays -/

/-- The items of an array, behind its bracket or an earlier item. Every item takes a character, so
the length of the text bounds their number. -/
def readItems (element : List Char → Step Reading) :
    Nat → Bool → List Char → Step (List Reading)
  | 0, _, _ => ([], none)
  | fuel + 1, first, text =>
    let item (text : List Char) : Step (List Reading) :=
      match element text with
      | (found, none) => ([found], none)
      | (found, some behind) =>
        let (items, rest) := readItems element fuel false behind
        (found :: items, rest)
    match skipSpace text with
    | [] => ([.fault ⟨.endInArray, .before []⟩], none)
    | ']' :: rest => ([], some rest)
    | c :: rest =>
      if first then item (c :: rest)
      else if c = ',' then
        match skipSpace rest with
        | [] => ([.fault ⟨.endInValue, .before []⟩], none)
        | ']' :: more => ([.fault ⟨.trailingComma, .after (']' :: more)⟩], none)
        | next => item next
      else ([.fault ⟨.expectedArrayEnd, .after (c :: rest)⟩], none)

/-! ## Objects -/

structure ObjectReading where
  members : List (String × Mark × Reading)
  ending : Except ReadError Mark
  behind : Option (List Char)

/-- Where a complaint about a member is placed: behind its key, or behind the brace that follows. -/
def keyMark (text : List Char) : Mark :=
  match skipSpace text with
  | '\x7d' :: rest => .after ('\x7d' :: rest)
  | rest => .before rest

def readColon (text : List Char) : Except ReadError (List Char) :=
  match skipSpace text with
  | [] => .error ⟨.endInObject, .before []⟩
  | ':' :: rest => .ok rest
  | other => .error ⟨.expectedColon, .after other⟩

/-- The members of an object, behind its brace or an earlier member. -/
def readMembers (element : List Char → Step Reading) : Nat → Bool → List Char → ObjectReading
  | 0, _, _ => ⟨[], .error ⟨.endInObject, .before []⟩, none⟩
  | fuel + 1, first, text =>
    let broken (fault : Fault) (mark : Mark) : ObjectReading := ⟨[], .error ⟨fault, mark⟩, none⟩
    let member (text : List Char) : ObjectReading :=
      match readString text with
      | .error e => ⟨[], .error e, none⟩
      | .ok (content, behindKey) =>
        let key := String.ofList content
        let mark := keyMark behindKey
        match readColon behindKey with
        | .error e => ⟨[(key, mark, .fault e)], .error e, none⟩
        | .ok text =>
          match element (skipSpace text) with
          | (found, none) => ⟨[(key, mark, found)], .ok (.before []), none⟩
          | (found, some behind) =>
            let others := readMembers element fuel false behind
            { others with members := (key, mark, found) :: others.members }
    match skipSpace text with
    | [] => broken .endInObject (.before [])
    | '\x7d' :: rest => ⟨[], .ok (.before rest), some rest⟩
    | c :: rest =>
      if first then
        if c = '"' then member rest else broken .keyNotString (.after (c :: rest))
      else if c = ',' then
        match skipSpace rest with
        | [] => broken .endInValue (.before [])
        | '"' :: more => member more
        | '\x7d' :: more => broken .trailingComma (.after ('\x7d' :: more))
        | other => broken .keyNotString (.after other)
      else broken .expectedObjectEnd (.after (c :: rest))

/-! ## Values -/

/-- A value at the front of a text without leading blanks, nested at most `depth` deep. -/
def readValue : Nat → List Char → Step Reading
  | 0, text => stop .tooDeep (.after text)
  | depth + 1, text =>
    match text with
    | '[' :: rest =>
      if depth = 0 then (.array text [.fault ⟨.tooDeep, .after text⟩], none)
      else
        let (items, behind) :=
          readItems (readValue depth) (rest.length + 1) true rest
        (.array text items, behind)
    | '\x7b' :: rest =>
      if depth = 0 then (.object text [] (.error ⟨.tooDeep, .after text⟩), none)
      else
        let read := readMembers (readValue depth) (rest.length + 1) true rest
        (.object text read.members read.ending, read.behind)
    | _ => readScalar text

/-- How deep values may nest. -/
def depthLimit : Nat := 128

/-! ## Values without places -/

end Reading

def Scalar.toJson : Scalar → Json
  | null => .null
  | bool b => .bool b
  | number n => .number n
  | string s => .string s

mutual

/-- The value that a reading describes, or its first fault. -/
def ofReading : Reading → Except ReadError Json
  | .scalar value _ => .ok value.toJson
  | .array _ items => do return .array (← ofReadings items)
  | .object _ members ending => do
    let members ← ofMemberReadings members
    let _ ← ending
    return ofMembers members
  | .fault e => .error e

def ofReadings : List Reading → Except ReadError (List Json)
  | [] => .ok []
  | r :: rs => do
    let value ← ofReading r
    return value :: (← ofReadings rs)

def ofMemberReadings : List (String × Mark × Reading) → Except ReadError (List (String × Json))
  | [] => .ok []
  | (key, _, r) :: rest => do
    let value ← ofReading r
    return (key, value) :: (← ofMemberReadings rest)

end

/-- Decodes a whole text: one value with nothing but blanks around it. -/
def decodeText {α : Type} (decode : Reading → Except ReadError α) (text : List Char) :
    Except ReadError α := do
  let (found, behind) := Reading.readValue Reading.depthLimit (skipSpace text)
  let value ← decode found
  match skipSpace (behind.getD []) with
  | [] => return value
  | rest => throw ⟨.trailingCharacters, .after rest⟩

def ofText (text : List Char) : Except ReadError Json := decodeText ofReading text

end BindingGen.Json
