import PlaneRegion.Host.Basic
import PlaneRegion.Host.Location

/-!
# Desks

A desk is a host that is a value: a directory with its surroundings, the lines written so far, and a
log whose clock stands still.  Running a program on a desk is a pure function.
-/

namespace PlaneRegion

/-- A file on a desk or around it. -/
structure DeskFile where
  /-- Where the file stands. -/
  place : Place
  /-- The bytes, or nothing for a bitmap, whose bytes a desk does not keep. -/
  bytes : Option ByteArray

/-- A directory with the output and the log of one program. -/
structure Desk where
  /-- The files of the directory and of those around it. -/
  files : List DeskFile
  /-- The lines of the standard output, the latest first. -/
  output : List String
  /-- The lines of the standard error stream, the latest first. -/
  complaints : List String
  /-- The level of the open log, and whether the log is written to a file. -/
  logging : Option (Level × Bool)
  /-- The lines of the log file, the latest first. -/
  logLines : List String

namespace Desk

/-- What the clock of every desk shows. -/
def clock : String := "TIME"

/-- The name of the log file. -/
def logName : String := "log_" ++ clock ++ ".txt"

/-- A desk on which nothing has happened, with files of the given names and bytes. -/
def withFiles (files : List (String × ByteArray)) : Desk where
  files := ⟨.nullDevice, some .empty⟩ :: files.map fun (name, bytes) => ⟨.onDesk name, some bytes⟩
  output := []
  complaints := []
  logging := none
  logLines := []

/-- Lines, the latest first, as a text. -/
def linesText (lines : List String) : String :=
  String.join (lines.reverse.map fun line => line ++ "\n")

/-- The standard output. -/
def outputText (desk : Desk) : String := linesText desk.output

/-- The standard error stream. -/
def complaintsText (desk : Desk) : String := linesText desk.complaints

/-- The file at a place. -/
def file? (desk : Desk) (place : Place) : Option DeskFile :=
  desk.files.find? fun file => file.place == place

/-- Go on from a directory as a part of a path says. -/
def enter (desk : Desk) (directory : Directory) (part : String) : Except FileError Directory :=
  if part = "." then .ok directory
  else if part = ".." then .ok directory.parent
  else if Location.isTooLong part then .error .tooLong
  else
    match directory.child? part, desk.file? ⟨directory, part⟩ with
    | some child, _ => .ok child
    | none, some _ => .error .notDirectory
    | none, none => .error .notFound

/-- The directory that the parts of a path lead to. -/
def walk (desk : Desk) (absolute : Bool) (parts : List String) : Except FileError Directory :=
  parts.foldlM desk.enter (if absolute then .root else .desk)

/-- The place that a path leads to, and whether the path asks for a directory there. -/
def resolve (desk : Desk) (path : String) : Except FileError (Place × Bool) := do
  let location ← Location.ofPath? path
  match location.name? with
  | none =>
      let _ ← desk.walk location.absolute location.parts
      throw .isDirectory
  | some name =>
      let directory ← desk.walk location.absolute location.parts.dropLast
      if (directory.child? name).isSome then throw .isDirectory
      return (⟨directory, name⟩, location.slashed)

/-- The place at which a path asks for a new file. -/
def placeForNew (desk : Desk) (path : String) : Except FileError Place := do
  let (place, slashed) ← desk.resolve path
  if slashed then throw .isDirectory
  if Location.isTooLong place.name then throw .tooLong
  return place

/-- Create or replace a file. -/
def put (desk : Desk) (file : DeskFile) : Desk :=
  if file.place = .nullDevice then desk
  else { desk with files := desk.files.filter (·.place ≠ file.place) ++ [file] }

/-- The text of the file at a path. -/
def readText (desk : Desk) (path : String) : Except FileError String := do
  let (place, slashed) ← desk.resolve path
  if Location.isTooLong place.name then throw .tooLong
  match desk.file? place with
  | none => throw .notFound
  | some file =>
      if slashed then throw .notDirectory
      match file.bytes.bind String.fromUTF8? with
      | some text => return text
      | none => throw .notText

/-- The bytes of a content, as far as a desk keeps them. -/
def bytesOf : Content → Option ByteArray
  | .text text => some text.toUTF8
  | .bitmap _ _ => none

/-- The desk after an event, given the lines of its log. -/
def log (desk : Desk) (event : Event Float) : Desk :=
  match desk.logging with
  | none => desk
  | some (level, toFile) =>
      if event.level.verbosity ≤ level.verbosity then
        let line := clock ++ " " ++ event.line
        let desk :=
          if event.level = .error then { desk with complaints := line :: desk.complaints }
          else { desk with output := line :: desk.output }
        if toFile then { desk with logLines := line :: desk.logLines } else desk
      else desk

/-- The files of the directory, the log file included. -/
def ownFiles (desk : Desk) : List DeskFile :=
  let files := desk.files.filter (·.place.directory = .desk)
  match desk.logging with
  | some (_, true) => files ++ [⟨.onDesk logName, some (linesText desk.logLines).toUTF8⟩]
  | _ => files

instance : Host (StateM Desk) where
  print line := modify fun desk => { desk with output := line :: desk.output }
  complain line := modify fun desk => { desk with complaints := line :: desk.complaints }
  readText path := return (← get).readText path
  save path content := do
    match (← get).placeForNew path with
    | .error e => return .error e
    | .ok place =>
        modify fun desk => desk.put ⟨place, bytesOf content⟩
        return .ok ()
  openLog level toFile := do
    if (← get).logging.isNone then
      modify fun desk => { desk with logging := some (level, toFile) }
    return .ok ()
  log event := modify fun desk => desk.log event

end Desk
end PlaneRegion
