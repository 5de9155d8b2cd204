import PlaneRegion.Host.Basic

/-!
# Locations and places

A path says where a file is to be found, a place where it stands.
-/

namespace PlaneRegion

/-! ## Locations

A path taken apart at its slashes.  A slash more does not change where a path leads, save that one
at the end asks for a directory.  The parts `.` and `..` stay in a directory and leave it.
-/

/-- A path to a file or a directory, in parts. -/
structure Location where
  /-- The path begins at the root. -/
  absolute : Bool
  /-- What stands between the slashes, where that is not empty. -/
  parts : List String
  /-- The path ends with a slash. -/
  slashed : Bool
  deriving DecidableEq, Repr

namespace Location

/-- The greatest number of bytes of a path. -/
def maxBytes : Nat := 4095

/-- The greatest number of bytes of a part. -/
def maxPartBytes : Nat := 255

/-- A part that is too long to name anything. -/
def isTooLong (part : String) : Bool := maxPartBytes < part.utf8ByteSize

/-- The parts of a path. -/
def ofPath (path : String) : Location where
  absolute := path.startsWith "/"
  parts := (path.splitOn "/").filter (· ≠ "")
  slashed := path.endsWith "/"

/-- The parts of a path that may lead somewhere. -/
def ofPath? (path : String) : Except FileError Location :=
  if path.toList.contains '\x00' then .error .zeroCharacter
  else if path = "" then .error .notFound
  else if maxBytes < path.utf8ByteSize then .error .tooLong
  else .ok (ofPath path)

/-- The last part, if it is a name. -/
def name? (location : Location) : Option String :=
  location.parts.getLast?.filter fun part => part ≠ "." ∧ part ≠ ".."

/-- The last part apart from those that stay in a directory, if it is a name. -/
def fileName? (location : Location) : Option String :=
  (location.parts.filter (· ≠ ".")).getLast?.filter (· ≠ "..")

/-- What follows the last dot of a name, unless the name begins with that dot. -/
def extensionOf? (name : String) : Option String :=
  let reversed := name.toList.reverse
  match reversed.dropWhile (· ≠ '.') with
  | _ :: _ :: _ => some (String.ofList (reversed.takeWhile (· ≠ '.')).reverse)
  | _ => none

/-- The extension of the file name. -/
def extension? (location : Location) : Option String :=
  location.fileName?.bind extensionOf?

end Location

/-! ## Places

Where a file stands: in a directory, under a name.  The directories that are known are the one that
a desk is, the root, and the usual ones below the root; a desk stands in the one for temporary
files.
-/

/-- A directory that can be reached from a desk. -/
inductive Directory where
  | desk
  | root
  /-- A directory directly below the root. -/
  | belowRoot (name : String)
  deriving DecidableEq, Repr

namespace Directory

/-- The names of the directories below the root. -/
def namesBelowRoot : List String :=
  ["bin", "boot", "dev", "etc", "home", "lib", "media", "mnt", "opt", "proc", "root", "run", "sbin",
    "srv", "sys", "tmp", "usr", "var"]

/-- The directory that `..` leads to.  The root is above itself. -/
def parent : Directory → Directory
  | desk => belowRoot "tmp"
  | root => root
  | belowRoot _ => root

/-- The directory of a name within a directory. -/
def child? : Directory → String → Option Directory
  | root, name => if name ∈ namesBelowRoot then some (belowRoot name) else none
  | desk, _ => none
  | belowRoot _, _ => none

end Directory

/-- Where a file stands. -/
structure Place where
  /-- The directory of the file. -/
  directory : Directory
  name : String
  deriving DecidableEq, Repr

namespace Place

/-- The place of a name on the desk itself. -/
def onDesk (name : String) : Place := ⟨.desk, name⟩

/-- The file that stays empty whatever is written to it. -/
def nullDevice : Place := ⟨.belowRoot "dev", "null"⟩

end Place
end PlaneRegion
