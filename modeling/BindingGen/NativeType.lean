/-!
# Native types

The closed set of type annotations that struct fields may carry, and the generated type of each.
-/

namespace BindingGen

inductive NativeType where
  | int
  | charPointer
  deriving DecidableEq, Repr

namespace NativeType

def all : List NativeType := [int, charPointer]

/-- The annotations of a type, the canonical one first. -/
def spellings : NativeType → List String
  | int => ["int", "ctypes.c_int"]
  | charPointer => ["char*", "char *", "ctypes.POINTER(ctypes.c_char)"]

def target : NativeType → String
  | int => "int"
  | charPointer => "str"

def display : NativeType → String
  | int => "int"
  | charPointer => "char*"

def ofAnnotation? (spelling : String) : Option NativeType :=
  all.find? (·.spellings.contains spelling)

def position : NativeType → Nat
  | int => 0
  | charPointer => 1

end NativeType

end BindingGen
