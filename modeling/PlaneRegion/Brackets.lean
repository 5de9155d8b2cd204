/-!
# Brackets

Balance of round brackets, the bracket that closes an open one, and calls such as `sin(2x)`, whose
bracket opens after the name and is closed by the last character.

Depths are counted without bound. A counter of 32 bits with a sign holds the depth before every
position of a text with fewer than `2 ^ 31` brackets; only a longer text could make it overflow.
-/

namespace PlaneRegion
namespace Brackets

/-- The nesting depth after one more character, counted without bound. -/
def depthAfter (depth : Int) (c : Char) : Int :=
  if c = '(' then depth + 1 else if c = ')' then depth - 1 else depth

/-- Every bracket of the rest of a text is matched, at a given depth of open ones, counted without
bound. -/
def balancedFrom : Nat → List Char → Bool
  | depth, [] => depth == 0
  | depth, '(' :: rest => balancedFrom (depth + 1) rest
  | 0, ')' :: _ => false
  | depth + 1, ')' :: rest => balancedFrom depth rest
  | depth, _ :: rest => balancedFrom depth rest

/-- Every opening bracket has its closing one, and none closes before one opens. -/
def balanced (text : List Char) : Bool :=
  balancedFrom 0 text

/-- The part of a text before the closing bracket that brings the depth, counted without bound, to
zero. -/
def beforeClosing : Int → List Char → Option (List Char)
  | _, [] => none
  | depth, c :: rest =>
      let depth := depthAfter depth c
      if c = ')' ∧ depth = 0 then some []
      else (beforeClosing depth rest).map (c :: ·)

/-- The number of bytes of a text in UTF-8. -/
def byteLength (text : List Char) : Nat :=
  text.foldl (fun bytes c => bytes + c.utf8Size) 0

/-- Drop the characters that begin before a byte position, and count the bytes dropped. -/
def fromByte (start : Nat) : Nat → List Char → Nat × List Char
  | position, [] => (position, [])
  | position, c :: rest =>
      if position < start then fromByte start (position + c.utf8Size) rest
      else (position, c :: rest)

/-- The byte position of the closing bracket that balances the text from a byte position on. -/
def closing (text : List Char) (start : Nat) : Option Nat :=
  let (position, rest) := fromByte start 0 text
  (beforeClosing 0 rest).map fun inside => position + byteLength inside

/-- The name and the argument of a call: the first bracket is closed by the last character. -/
def splitCall (text : List Char) : Option (List Char × List Char) :=
  let (name, call) := text.span (· != '(')
  match beforeClosing 0 call with
  | some (_ :: argument) =>
      if argument.length + 2 = call.length then some (name, argument) else none
  | _ => none

end Brackets
end PlaneRegion
