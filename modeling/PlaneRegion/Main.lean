import Std.Time
import PlaneRegion.Canvas.Export
import PlaneRegion.CommandLine

/-!
# The program

The machine as a host: the standard streams, the file system, and a log whose lines begin with the
time of day.
-/

namespace PlaneRegion

/-- A log that is open. -/
structure OpenLog where
  /-- The events up to this level are logged. -/
  level : Level
  file : Option IO.FS.Handle

/-- Programs that run on the machine. -/
abbrev Machine := StateT (Option OpenLog) IO

namespace Machine

/-- A failure in the words of the machine. -/
def describe (code : UInt32) (details : String) : FileError :=
  let code := if code < 0x80000000 then code else 0 - code
  .other (details.capitalize ++ " (os error " ++ toString code ++ ")")

/-- Why an operation on a file failed. -/
def fileError : IO.Error → FileError
  | .noFileOrDirectory .. => .notFound
  | .inappropriateType _ code details =>
      if code = 21 ∨ code = 0 - 21 then .isDirectory
      else if code = 20 ∨ code = 0 - 20 then .notDirectory
      else describe code details
  | .permissionDenied _ code details => describe code details
  | .resourceExhausted _ code details => describe code details
  | .invalidArgument _ code details =>
      if code = 36 ∨ code = 0 - 36 then .tooLong
      else if details = "string contains NUL bytes" then .zeroCharacter
      else describe code details
  | e => .other (toString e)

/-- Perform an operation on a file. -/
def attempt {α : Type} (action : IO α) : Machine (Except FileError α) := do
  match ← action.toBaseIO with
  | .ok a => return .ok a
  | .error e => return .error (fileError e)

/-- The bytes of a content. -/
def bytesOf : Content → ByteArray
  | .text text => text.toUTF8
  | .bitmap viewport strokes => Png.file (Bitmap.ofStrokes viewport strokes)

/-- The time of day. -/
def timeOfDay : IO String := do
  let now ← Std.Time.Timestamp.now
  return (Std.Time.PlainDateTime.ofWallTime (now.toWallTime .zero)).format "HH:mm:ss"

/-- The name of a log file that is opened now. -/
def logName : IO String := do
  let now ← Std.Time.PlainDateTime.now
  return "log_" ++ now.format "uuuu-MM-dd_HH-mm-ss" ++ ".txt"

instance : Host Machine where
  print line := IO.println line
  complain line := IO.eprintln line
  readText path := do
    match ← attempt (IO.FS.readBinFile path) with
    | .error e => return .error e
    | .ok bytes =>
        match String.fromUTF8? bytes with
        | some text => return .ok text
        | none => return .error .notText
  save path content := attempt (IO.FS.writeBinFile path (bytesOf content))
  openLog level toFile := do
    let name ← logName
    let file ←
      if toFile then attempt (some <$> IO.FS.Handle.mk name .write) else pure (.ok none)
    match file with
    | .error e => return .error (name, e)
    | .ok file =>
        if (← get).isNone then set (some ⟨level, file⟩ : Option OpenLog)
        return .ok ()
  log event := do
    match ← get with
    | none => return ()
    | some ⟨level, file⟩ =>
        if event.level.verbosity ≤ level.verbosity then
          let line := (← timeOfDay) ++ " " ++ event.line
          if event.level = .error then IO.eprintln line else IO.println line
          match file with
          | none => return ()
          | some file => file.putStrLn line

end Machine
end PlaneRegion

/-- Run the command line on the machine. -/
def main (arguments : List String) : IO UInt32 :=
  (PlaneRegion.CommandLine.run arguments : PlaneRegion.Machine UInt32).run' none
