/-!
# Terminal control

A text without what a terminal would act on instead of showing it: controls that are no blanks, and
the sequences that begin with an escape character.
-/

namespace BindingGen.Text

/-- What a terminal is reading: text, an escape sequence, a sequence of a command with parameters,
or a string that is addressed to it. -/
inductive TerminalMode where
  | text
  | escape
  | intermediate
  | command
  | title
  | message
  deriving DecidableEq, Repr

namespace TerminalMode

def isBlankControl (c : Char) : Bool := c = '\t' || c = '\n' || c = '\x0c' || c = '\r'

/-- Whether a character is in a range of codes. -/
def within (first last : Nat) (c : Char) : Bool := first ≤ c.toNat && c.toNat ≤ last

/-- Whether text shows the character. -/
def isShown (c : Char) : Bool := isBlankControl c || (0x20 ≤ c.toNat && c.toNat ≠ 0x7F)

/-- What follows the escape character. -/
def afterEscape (c : Char) : TerminalMode :=
  if c = '[' then command
  else if c = ']' then title
  else if c = 'P' || c = 'X' || c = '^' || c = '_' then message
  else if within 0x20 0x2F c then intermediate
  else if within 0x30 0x7E c then text
  else escape

/-- The mode behind a character that is not shown. An escape character, and two controls, end
everything. -/
def step (mode : TerminalMode) (c : Char) : TerminalMode :=
  if c = '\x1b' then escape
  else if c = '\x18' || c = '\x1a' then text
  else
    match mode with
    | text => text
    | escape => afterEscape c
    | intermediate => if within 0x30 0x7E c then text else intermediate
    | command => if within 0x40 0x7E c then text else command
    | title => if c = '\x07' then text else title
    | message => message

/-- A blank control ends what is no string, and is shown. -/
def shows (mode : TerminalMode) (c : Char) : Bool :=
  match mode with
  | text => isShown c
  | title => false
  | message => false
  | _ => isBlankControl c

end TerminalMode

def withoutControlsFrom (mode : TerminalMode) : List Char → List Char
  | [] => []
  | c :: rest =>
    if mode.shows c then c :: withoutControlsFrom .text rest
    else withoutControlsFrom (mode.step c) rest

def withoutControls (text : String) : String :=
  String.ofList (withoutControlsFrom .text text.toList)

end BindingGen.Text
