/-!
# Kinds of schema documents

A document describes enumerations or structures. Templates see its definitions under a name of its
kind.
-/

namespace BindingGen.Schema

inductive Kind where
  | enums
  | structs
  deriving DecidableEq, Repr

namespace Kind

def display : Kind → String
  | enums => "enums"
  | structs => "structs"

def dataName : Kind → String
  | enums => "all_enums"
  | structs => "all_structs"

def ofDisplay? (text : String) : Option Kind := [enums, structs].find? (·.display == text)

end Kind

end BindingGen.Schema
