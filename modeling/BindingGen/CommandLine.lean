import BindingGen.Generation
import BindingGen.Journal.Filter
import BindingGen.Text.ControlSequence
import BindingGen.Text.Similarity

/-!
# The command line

A generator and a file to write, or a request for help. Mistakes in the arguments are reported with
the usage; an unknown generator is reported as the program's answer, every other failure as an
error.
-/

namespace BindingGen.CommandLine

/-! ## Arguments -/

/-- What may have been meant by an argument that is not expected. -/
inductive Hint where
  | similar (option : String)
  | value
  deriving DecidableEq, Repr

/-- What is wrong with the arguments. What is not expected may stand behind others that were
given. -/
inductive Misuse where
  | missing (names : List String)
  | unexpected (argument : String) (hint : Option Hint) (afterOthers : Bool)
  | unexpectedValue (value option : String) (afterOthers : Bool)
  | emptyValue (name : String)
  deriving DecidableEq, Repr

inductive Request where
  | generate (name : String) (output : Path)
  | help
  | version
  | refused (misuse : Misuse)
  deriving DecidableEq, Repr

def positionals : List String := ["<GENERATOR_NAME>", "<OUTPUT_FILE>"]

/-- The usage, with the options that are part of it. Arguments of which some are given are shown as
a choice. -/
def usage (options : List String) (someGiven : Bool) : String :=
  "Usage: " ++ " ".intercalate ("postgres-parser-codegen" :: options ++
    if someGiven then ["<GENERATOR_NAME|OUTPUT_FILE>"] else positionals)

def helpText : String :=
  "Generate postgres-parser bindings from grammar metadata\n\n" ++ usage [] false ++ "\n\n" ++
    "Arguments:\n" ++
    "  <GENERATOR_NAME>  Generator to run (enums, structs)\n" ++
    "  <OUTPUT_FILE>     File to write the generated source to\n\n" ++
    "Options:\n" ++
    "  -h, --help     Print help\n" ++
    "  -V, --version  Print version\n"

def versionText : String := "postgres-parser-codegen 0.3.0\n"

/-! ## Reading arguments -/

/-- The file to write needs a name. -/
def refusal? : List String → Option Misuse
  | [_, ""] => some (.emptyValue "<OUTPUT_FILE>")
  | _ => none

/-- The request of complete arguments. -/
def ofPositionals (held : List String) : Request :=
  match refusal? held, held with
  | some misuse, _ => .refused misuse
  | none, [name, output] => .generate name ⟨output⟩
  | none, _ => .refused (.missing (positionals.drop held.length))

def longOptions : List (String × Request) := [("help", .help), ("version", .version)]

/-- An option that is similar to a word that is none. -/
def hintFor (name : String) : Hint :=
  match Text.mostSimilar? name (longOptions.map Prod.fst) with
  | some option => .similar ("--" ++ option)
  | none => .value

/-- An option behind two dashes, which carries no value. It is read before the last of the arguments
in front of it is settled. -/
def longOption (held : List String) (argument : List Char) : Request :=
  let name := String.ofList (argument.takeWhile (· ≠ '='))
  match longOptions.lookup name, argument.dropWhile (· ≠ '=') with
  | some request, [] => request
  | some _, _ :: value =>
    .refused (.unexpectedValue (String.ofList value) ("--" ++ name) (1 < held.length))
  | none, _ => .refused (.unexpected ("--" ++ name) (some (hintFor name)) (!held.isEmpty))

/-- Options of one letter behind one dash. The first one decides. -/
def shortOption : Char → Request
  | 'h' => .help
  | 'V' => .version
  | c => .refused (.unexpected (String.ofList ['-', c]) (some .value) false)

/-- An option is answered once the arguments in front of it are accepted. -/
def answered (held : List String) : Request → Request
  | .refused misuse => .refused misuse
  | request =>
    match refusal? held with
    | some misuse => .refused misuse
    | none => request

/-- Reads arguments from left to right, behind those that are held already. Behind two dashes
nothing is an option. -/
def parseFrom (held : List String) (onlyValues : Bool) : List String → Request
  | [] => ofPositionals held
  | argument :: rest =>
    let value : Request :=
      if held.length < 2 then parseFrom (held ++ [argument]) onlyValues rest
      else .refused (.unexpected argument none false)
    if onlyValues then value
    else
      match argument.toList with
      | ['-', '-'] => parseFrom held true rest
      | '-' :: '-' :: option => answered held (longOption held option)
      | '-' :: letter :: _ => answered held (shortOption letter)
      | _ => value

def parse (arguments : List String) : Request := parseFrom [] false arguments

/-! ## Reports -/

/-- What the program prints, and how it exits. -/
structure Report where
  exitCode : Nat
  stdout : String
  stderr : String
  deriving DecidableEq, Repr

namespace Misuse

def reason : Misuse → String
  | missing names =>
    "the following required arguments were not provided:\n" ++
      "\n".intercalate (names.map ("  " ++ ·)) ++ "\n"
  | unexpected argument hint _ =>
    let argument := Text.withoutControls argument
    "unexpected argument '" ++ argument ++ "' found\n" ++
      match hint with
      | some (.similar option) => "\n  tip: a similar argument exists: '" ++ option ++ "'\n"
      | some .value =>
        "\n  tip: to pass '" ++ argument ++ "' as a value, use '-- " ++ argument ++ "'\n"
      | none => ""
  | unexpectedValue value option _ =>
    "unexpected value '" ++ Text.withoutControls value ++ "' for '" ++ option ++
      "' found; no more were expected\n"
  | emptyValue name => "a value is required for '" ++ name ++ "' but none was supplied\n"

/-- The usage that a mistake is answered with. An option that was meant, or may have been, is part
of it. -/
def usageText : Misuse → String
  | emptyValue _ => ""
  | missing _ => "\n" ++ usage [] false ++ "\n"
  | unexpected _ (some (.similar option)) afterOthers => "\n" ++ usage [option] afterOthers ++ "\n"
  | unexpected _ _ afterOthers => "\n" ++ usage [] afterOthers ++ "\n"
  | unexpectedValue _ option afterOthers => "\n" ++ usage [option] afterOthers ++ "\n"

def message (misuse : Misuse) : String :=
  "error: " ++ misuse.reason ++ misuse.usageText ++ "\nFor more information, try '--help'.\n"

end Misuse

/-- A failure with the causes below it. -/
def errorLine (failure : Failure) : String :=
  "error: " ++ failure.message ++
    (match failure.cause? with
      | some cause => ": " ++ cause
      | none => "") ++ "\n"

def journalText (filter : Journal.Filter) (entries : List Journal.Entry) : String :=
  String.join ((entries.filter filter.passes).map (·.line ++ "\n"))

/-- The settings in use, as they are reported. -/
def settingsText (settings : Settings) (now : Int) : String :=
  "GeneratorConfig \x7b srcdata_root: " ++
    Text.quoted settings.schemaRoot.text ++ ", template_root: " ++
    Text.quoted settings.templateRoot.text ++ ", current_year: " ++
    toString (settings.yearIn now) ++ ", log_level: " ++ Text.quoted settings.logFilter ++ " \x7d"

/-- The report of a finished run. Only a mistake of the caller's own is an answer of the program. -/
def conclude (journal : String) : Except Failure Unit → Report
  | .ok () => ⟨0, "", journal⟩
  | .error failure =>
    if failure.isUserError then ⟨1, failure.message ++ "\n", journal⟩
    else ⟨1, "", journal ++ errorLine failure⟩

variable {m : Type → Type} [Monad m] [FileStore m]

/-- A run in a working directory, with the settings found there. -/
def generate (root : Path) (now : Int) (name : String) (output : Path) : m Report := do
  match ← (Settings.discover root : Task m Settings).perform with
  | (.error failure, _) => return conclude "" (.error failure)
  | (.ok settings, _) =>
    let task : Task m Unit := do
      Task.report .debug .program "Resolved generator config"
        [("config", settingsText settings now)]
      Generation.run settings now name output
    let (result, entries) ← task.perform
    return conclude (journalText (.ofText settings.logFilter) entries) result

/-- Does what the arguments ask for. -/
def execute (root : Path) (now : Int) (arguments : List String) : m Report :=
  match parse arguments with
  | .generate name output => generate root now name output
  | .help => return ⟨0, helpText, ""⟩
  | .version => return ⟨0, versionText, ""⟩
  | .refused misuse => return ⟨2, "", misuse.message⟩

end BindingGen.CommandLine
