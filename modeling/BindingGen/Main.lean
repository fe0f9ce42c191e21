import BindingGen.CommandLine

/-!
# The program

Runs the command line on the files of the computer.
-/

namespace BindingGen

/-! ## Files -/

def FileFault.ofError (e : IO.Error) : FileFault :=
  match e with
  | .noFileOrDirectory .. => .notFound
  | .inappropriateType _ 20 _ => .notDirectory
  | .inappropriateType _ 21 _ => .isDirectory
  | .permissionDenied _ code _ => .other ("Permission denied (os error " ++ toString code ++ ")")
  | _ => .other (toString e)

/-- Does a step, and gives the fault of a failure. -/
def catchFault {α : Type} (step : IO α) : IO (Except FileFault α) := do
  try
    return .ok (← step)
  catch e => return .error (.ofError e)

instance : FileStore IO where
  readText path := do
    match ← catchFault (IO.FS.readBinFile path.text) with
    | .error fault => return .error fault
    | .ok bytes =>
      match String.fromUTF8? bytes with
      | some text => return .ok text
      | none => return .error .invalidText
  isFile path := do
    match ← catchFault (do (← IO.FS.realPath path.text).metadata) with
    | .ok found =>
      match found.type with
      | .file => return true
      | _ => return false
    | .error _ => return false
  writeText path text := catchFault (IO.FS.writeFile path.text text)

/-! ## The calendar -/

/-- The year of a day in the proleptic Gregorian calendar, by its number from the first of January
1970. Years begin in March here, so that the leap day is the last day of its year. -/
def yearOfDay (day : Int) : Int :=
  let shifted := day + 719468
  let era := Int.fdiv shifted 146097
  let dayOfEra := shifted - era * 146097
  let yearOfEra := (dayOfEra - dayOfEra / 1460 + dayOfEra / 36524 - dayOfEra / 146096) / 365
  let dayOfYear := dayOfEra - (365 * yearOfEra + yearOfEra / 4 - yearOfEra / 100)
  let year := yearOfEra + era * 400
  if 306 ≤ dayOfYear then year + 1 else year

/-- The year by the clock that dates files. -/
def currentYear : IO Int := do
  let (handle, path) ← IO.FS.createTempFile
  handle.flush
  let seconds := (← path.metadata).modified.sec
  IO.FS.removeFile path
  return yearOfDay (Int.fdiv seconds 86400)

end BindingGen

def main (arguments : List String) : IO UInt32 := do
  let root ← IO.currentDir
  let now ← BindingGen.currentYear
  let report ← (BindingGen.CommandLine.execute ⟨root.toString⟩ now arguments :
    IO BindingGen.CommandLine.Report)
  (← IO.getStdout).putStr report.stdout
  (← IO.getStderr).putStr report.stderr
  return report.exitCode.toUInt32
