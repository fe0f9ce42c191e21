import BindingGen.Json.Fault

/-!
# The words of a JSON text

Reading a string, a number or a literal word from the front of a text. Each reader returns the
value with the text behind it.
-/

namespace BindingGen.Json

def isSpace (c : Char) : Bool := c = ' ' || c = '\n' || c = '\t' || c = '\r'

def skipSpace (text : List Char) : List Char := text.dropWhile isSpace

/-! ## Strings -/

def hexValue? (c : Char) : Option Nat :=
  if c.isDigit then some (c.toNat - 48)
  else if 'a' ≤ c ∧ c ≤ 'f' then some (c.toNat - 87)
  else if 'A' ≤ c ∧ c ≤ 'F' then some (c.toNat - 55)
  else none

/-- Reads four hexadecimal digits; other characters are skipped by their bytes. -/
def readHex (text : List Char) : Except ReadError (Nat × List Char) :=
  match text with
  | a :: b :: c :: d :: rest =>
    match hexValue? a, hexValue? b, hexValue? c, hexValue? d with
    | some a, some b, some c, some d => .ok (((a * 16 + b) * 16 + c) * 16 + d, rest)
    | _, _, _, _ => .error ⟨.invalidEscape, ⟨text, 4⟩⟩
  | short =>
    if (String.ofList short).utf8ByteSize < 4 then .error ⟨.endInString, .before []⟩
    else .error ⟨.invalidEscape, ⟨text, 4⟩⟩

/-- The second half of a pair of surrogates. -/
def readLowSurrogate (high : Nat) (text : List Char) : Except ReadError (Char × List Char) :=
  match text with
  | [] => .error ⟨.endInString, .before []⟩
  | '\\' :: [] => .error ⟨.endInString, .before []⟩
  | '\\' :: 'u' :: rest =>
    match readHex rest with
    | .error e => .error e
    | .ok (low, rest) =>
      if low < 0xDC00 || 0xDFFF < low then .error ⟨.loneSurrogate, .before rest⟩
      else .ok (Char.ofNat (0x10000 + (high - 0xD800) * 0x400 + (low - 0xDC00)), rest)
  | '\\' :: other => .error ⟨.incompleteEscape, .after other⟩
  | other => .error ⟨.incompleteEscape, .after other⟩

/-- An escape, behind its backslash. -/
def readEscape (text : List Char) : Except ReadError (Char × List Char) :=
  match text with
  | [] => .error ⟨.endInString, .before []⟩
  | '"' :: rest => .ok ('"', rest)
  | '\\' :: rest => .ok ('\\', rest)
  | '/' :: rest => .ok ('/', rest)
  | 'b' :: rest => .ok ('\x08', rest)
  | 'f' :: rest => .ok ('\x0c', rest)
  | 'n' :: rest => .ok ('\n', rest)
  | 'r' :: rest => .ok ('\r', rest)
  | 't' :: rest => .ok ('\t', rest)
  | 'u' :: rest =>
    match readHex rest with
    | .error e => .error e
    | .ok (code, rest) =>
      if 0xDC00 ≤ code && code ≤ 0xDFFF then .error ⟨.loneSurrogate, .before rest⟩
      else if 0xD800 ≤ code && code ≤ 0xDBFF then readLowSurrogate code rest
      else .ok (Char.ofNat code, rest)
  | other => .error ⟨.invalidEscape, .after other⟩

theorem readHex_length {text rest : List Char} {n : Nat} (h : readHex text = .ok (n, rest)) :
    rest.length < text.length := by
  unfold readHex at h
  split at h
  · split at h
    · simp only [Except.ok.injEq, Prod.mk.injEq] at h
      simp [← h.2]; omega
    · simp at h
  · split at h <;> simp at h

theorem readLowSurrogate_length {text rest : List Char} {high : Nat} {c : Char}
    (h : readLowSurrogate high text = .ok (c, rest)) : rest.length < text.length := by
  unfold readLowSurrogate at h
  split at h <;> try (simp at h; done)
  split at h
  · simp at h
  · rename_i hr
    have := readHex_length hr
    split at h <;> simp at h
    simp [← h.2]
    omega

theorem readEscape_length {text rest : List Char} {c : Char}
    (h : readEscape text = .ok (c, rest)) : rest.length < text.length := by
  unfold readEscape at h
  split at h <;> try (simp at h; done)
  all_goals try (simp at h; simp [← h.2])
  split at h
  · simp at h
  · rename_i hr
    have := readHex_length hr
    split at h
    · simp at h
    · split at h
      · have := readLowSurrogate_length h
        simp
        omega
      · simp at h
        simp [← h.2]
        omega

/-- The content of a string, behind its opening quote. -/
def readString (text : List Char) : Except ReadError (List Char × List Char) :=
  match text with
  | [] => .error ⟨.endInString, .before []⟩
  | '"' :: rest => .ok ([], rest)
  | '\\' :: rest =>
    match h : readEscape rest with
    | .error e => .error e
    | .ok (c, rest') =>
      have := readEscape_length h
      match readString rest' with
      | .error e => .error e
      | .ok (content, behind) => .ok (c :: content, behind)
  | c :: rest =>
    if c.toNat < 32 then .error ⟨.controlCharacter, .after (c :: rest)⟩
    else
      match readString rest with
      | .error e => .error e
      | .ok (content, behind) => .ok (c :: content, behind)
termination_by text.length
decreasing_by all_goals simp_all; try omega

/-! ## Numbers -/

def digitValue (c : Char) : Nat := c.toNat - 48

/-- Digits collected in 64 bits, with the power of ten that they stand for. -/
structure Significand where
  value : Nat
  exponent : Int

/-- Digits before the point. From the first one that does not fit they only count. -/
def Significand.addWhole : Significand → List Char → Significand
  | s, [] => s
  | s, d :: ds =>
    let grown := s.value * 10 + digitValue d
    if grown < Nat.pow 2 64 then addWhole ⟨grown, s.exponent⟩ ds
    else ⟨s.value, s.exponent + (d :: ds).length⟩

/-- Digits behind the point. From the first one that does not fit they are dropped. -/
def Significand.addFraction : Significand → List Char → Significand
  | s, [] => s
  | s, d :: ds =>
    let grown := s.value * 10 + digitValue d
    if grown < Nat.pow 2 64 then addFraction ⟨grown, s.exponent - 1⟩ ds else s

/-- Scales by a power of ten in one multiplication or division, after divisions by 10 ^ 308 where the
power is smaller than that. -/
def scale (x : Double) (exponent : Int) : Nat → Option Double
  | 0 => some x
  | fuel + 1 =>
    if exponent.natAbs ≤ 308 then
      (Double.ofNat? (Nat.pow 10 exponent.natAbs)).bind fun power =>
        if 0 ≤ exponent then x.mul? power else x.div? power
    else if x.isZero then some x
    else if 0 ≤ exponent then none
    else
      ((Double.ofNat? (Nat.pow 10 308)).bind x.div?).bind fun smaller =>
        scale smaller (exponent + 308) fuel

/-- The number of collected digits, or none when it is out of range. -/
def Significand.toDouble? (negative : Bool) (s : Significand) : Option Double := do
  let x ← Double.ofNat? s.value
  let scaled ← scale x s.exponent 4
  return if negative then scaled.neg else scaled

def maxExponentDigits : Nat := Nat.pow 2 31 - 1

/-- The length of the shortest leading part of the digits whose number exceeds the limit. -/
def overflowLength (value : Nat) : List Char → Option Nat
  | [] => none
  | d :: ds =>
    let grown := value * 10 + digitValue d
    if maxExponentDigits < grown then some 1 else (overflowLength grown ds).map (· + 1)

def withExponent (negative : Bool) (s : Significand) (text : List Char) :
    Except ReadError (Number × List Char) :=
  let (down, text) :=
    match text with
    | '+' :: rest => (false, rest)
    | '-' :: rest => (true, rest)
    | _ => (false, text)
  match text with
  | [] => .error ⟨.endInValue, .before []⟩
  | c :: _ =>
    if !c.isDigit then .error ⟨.invalidNumber, .after text⟩
    else
      let digits := text.takeWhile Char.isDigit
      let rest := text.drop digits.length
      match overflowLength 0 digits with
      | some n =>
        if s.value != 0 && !down then .error ⟨.numberOutOfRange, .before (text.drop n)⟩
        else .ok (.double (Double.zero negative), rest)
      | none =>
        let power : Int := digits.foldl (fun n d => n * 10 + digitValue d) 0
        match ({ s with exponent := s.exponent + if down then -power else power } :
          Significand).toDouble? negative with
        | some x => .ok (.double x, rest)
        | none => .error ⟨.numberOutOfRange, .before rest⟩

/-- What follows the digits before the point. -/
def finishNumber (negative : Bool) (s : Significand) (text : List Char) :
    Except ReadError (Number × List Char) :=
  match text with
  | '.' :: rest =>
    let digits := rest.takeWhile Char.isDigit
    let behind := rest.drop digits.length
    if digits.isEmpty then
      .error ⟨if rest.isEmpty then .endInValue else .invalidNumber, .after rest⟩
    else
      let s := s.addFraction digits
      match behind with
      | 'e' :: power => withExponent negative s power
      | 'E' :: power => withExponent negative s power
      | _ =>
        match s.toDouble? negative with
        | some x => .ok (.double x, behind)
        | none => .error ⟨.numberOutOfRange, .before behind⟩
  | 'e' :: power => withExponent negative s power
  | 'E' :: power => withExponent negative s power
  | _ =>
    -- A number beyond 64 bits and a negative zero become doubles.
    let integer : Int := if negative then -s.value else s.value
    if s.exponent = 0 && !(negative && (s.value = 0 || Nat.pow 2 63 < s.value)) then
      .ok (.integer integer, text)
    else
      match s.toDouble? negative with
      | some x => .ok (.double x, text)
      | none => .error ⟨.numberOutOfRange, .before text⟩

/-- A number, behind its sign. -/
def readUnsigned (negative : Bool) (text : List Char) : Except ReadError (Number × List Char) :=
  match text with
  | [] => .error ⟨.endInValue, .before []⟩
  | '0' :: rest =>
    if rest.head?.any Char.isDigit then .error ⟨.invalidNumber, .after rest⟩
    else finishNumber negative ⟨0, 0⟩ rest
  | c :: _ =>
    if c.isDigit then
      let digits := text.takeWhile Char.isDigit
      finishNumber negative (Significand.addWhole ⟨0, 0⟩ digits) (text.drop digits.length)
    else .error ⟨.invalidNumber, .after text⟩

def readNumber (text : List Char) : Except ReadError (Number × List Char) :=
  match text with
  | '-' :: rest => readUnsigned true rest
  | _ => readUnsigned false text

/-! ## Literal words -/

/-- Passes the letters of a word. -/
def readWord : List Char → List Char → Except ReadError (List Char)
  | [], text => .ok text
  | _ :: _, [] => .error ⟨.endInValue, .before []⟩
  | w :: word, c :: rest =>
    if w = c then readWord word rest else .error ⟨.expectedIdentifier, .after (c :: rest)⟩

end BindingGen.Json
