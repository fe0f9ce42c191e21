import BindingGen.Schema.Kind

/-!
# Generators

The fixed table of generators: the schema file that each reads, the template that it renders and the
kind of definitions in between.
-/

namespace BindingGen

inductive Generator where
  | enums
  | structs
  deriving DecidableEq, Repr

namespace Generator

def all : List Generator := [enums, structs]

def name : Generator → String
  | enums => "enums"
  | structs => "structs"

def schemaFile : Generator → String
  | enums => "enum_defs.json"
  | structs => "struct_defs.json"

def templateFile : Generator → String
  | enums => "enums.py.hbs"
  | structs => "struct_definitions.py.hbs"

def kind : Generator → Schema.Kind
  | enums => .enums
  | structs => .structs

def expectedNames : String := ", ".intercalate (all.map name)

def ofName? (text : String) : Option Generator := all.find? (·.name == text)

end Generator

end BindingGen
