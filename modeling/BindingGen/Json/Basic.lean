import BindingGen.Double.Shortest
import BindingGen.KeyOrder

/-!
# JSON values

Objects hold each key once, in the order of the keys. Integers that fit 64 bits are exact; every
other number is a `Double`.
-/

namespace BindingGen

inductive Json.Number where
  | integer (value : Int)
  | double (value : Double)
  deriving DecidableEq, Repr

inductive Json where
  | null
  | bool (value : Bool)
  | number (value : Json.Number)
  | string (value : String)
  | array (items : List Json)
  | object (members : List (String × Json))
  deriving Repr

namespace Json

/-! ## Objects -/

/-- The members of an object. -/
abbrev Members := List (String × Json)

/-- Puts a member in its place; a later value replaces an earlier one. -/
def Members.insert (members : Members) (key : String) (value : Json) : Members :=
  KeyOrder.insert key value members

/-- Members in the order of their keys. -/
def Members.sort (members : Members) : Members := KeyOrder.ofList members

def ofMembers (members : Members) : Json := object members.sort

def get? (value : Json) (key : String) : Option Json :=
  match value with
  | object members => members.lookup key
  | _ => none

def int (n : Int) : Json := number (.integer n)

def orNull {α : Type} (f : α → Json) : Option α → Json
  | none => null
  | some a => f a

/-! ## Equality -/

/-- An integer never equals a `Double`; both zeros of a `Double` are equal. -/
def Number.same : Number → Number → Bool
  | integer a, integer b => a == b
  | double a, double b => a.compareTo b == .eq
  | _, _ => false

mutual

def same : Json → Json → Bool
  | null, null => true
  | bool a, bool b => a == b
  | number a, number b => a.same b
  | string a, string b => a == b
  | array as, array bs => sameItems as bs
  | object as, object bs => sameMembers as bs
  | _, _ => false

def sameItems : List Json → List Json → Bool
  | [], [] => true
  | a :: as, b :: bs => same a b && sameItems as bs
  | _, _ => false

def sameMembers : List (String × Json) → List (String × Json) → Bool
  | [], [] => true
  | (k, a) :: as, (l, b) :: bs => k == l && same a b && sameMembers as bs
  | _, _ => false

end

end Json

end BindingGen
