import PlaneRegion.Canvas.Recorder
import PlaneRegion.Journal.Event

/-!
# The host of a program

What a program needs from the machine it runs on: two streams of text, files, and a log.  Programs
are written for an arbitrary monad with these operations.
-/

namespace PlaneRegion

/-! ## File errors

Why a file can not be read or written, in the two wordings that reports use: a sentence, and a
record with named parts.
-/

/-- Why a file can not be read or written. -/
inductive FileError where
  /-- There is no such file, or no directory to create it in. -/
  | notFound
  /-- The path leads through something that is not a directory. -/
  | notDirectory
  | isDirectory
  /-- The path or one of its parts is too long. -/
  | tooLong
  /-- The path has a character of code zero, which no file name can have. -/
  | zeroCharacter
  /-- The file is not valid UTF-8. -/
  | notText
  /-- Anything else, in the words of the machine. -/
  | other (reason : String)
  deriving DecidableEq, Repr

namespace FileError

/-- The text of a file error. -/
def message : FileError → String
  | notFound => "No such file or directory (os error 2)"
  | notDirectory => "Not a directory (os error 20)"
  | isDirectory => "Is a directory (os error 21)"
  | tooLong => "File name too long (os error 36)"
  | zeroCharacter => "file name contained an unexpected NUL byte"
  | notText => "stream did not contain valid UTF-8"
  | other reason => reason

/-- The text of a file error with its parts named. -/
def detailed : FileError → String
  | notFound =>
      "Os \x7b code: 2, kind: NotFound, message: \"No such file or directory\" \x7d"
  | notDirectory => "Os \x7b code: 20, kind: NotADirectory, message: \"Not a directory\" \x7d"
  | isDirectory => "Os \x7b code: 21, kind: IsADirectory, message: \"Is a directory\" \x7d"
  | tooLong => "Os \x7b code: 36, kind: InvalidFilename, message: \"File name too long\" \x7d"
  | zeroCharacter =>
      "Error \x7b kind: InvalidInput, message: " ++
        "\"file name contained an unexpected NUL byte\" \x7d"
  | e => e.message

end FileError

/-! ## Operations of a host -/

/-- What a file can be filled with. -/
inductive Content where
  /-- Text in UTF-8. -/
  | text (text : String)
  | bitmap (viewport : Viewport Float) (strokes : List (Stroke Float))

/-- The machine that a program runs on. -/
class Host (m : Type → Type) where
  /-- Write a line to the standard output. -/
  print : String → m Unit
  /-- Write a line to the standard error stream. -/
  complain : String → m Unit
  /-- Read a file of text. -/
  readText : String → m (Except FileError String)
  /-- Create or replace a file. -/
  save : String → Content → m (Except FileError Unit)
  /-- Begin to log the events up to a level, also to a file if wanted.  An open log stays as it is.
  A failure names the file that can not be created. -/
  openLog : Level → Bool → m (Except (String × FileError) Unit)
  /-- Log an event, if a log is open. -/
  log : Event Float → m Unit

namespace Host

variable {m : Type → Type} [Monad m] [Host m]

/-- Log the events of a computation and give its value. -/
def play {α : Type} (x : Traced (Event Float) α) : m α := do
  for event in x.events do
    log event
  return x.value

end Host
end PlaneRegion
