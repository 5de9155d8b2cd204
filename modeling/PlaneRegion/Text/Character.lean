/-!
# Characters

The properties of characters by which texts are read and laid out. Each is a table of code points
or a rule about them.
-/

namespace PlaneRegion

/-! ## Decimal digits

The characters with the Unicode property `Nd`.  They come in runs of ten, from a zero to a nine,
so the zeros determine the property.  Of these digits only the ASCII ones denote a number here;
the others make a numeral that has no value.
-/

namespace Text

/-- The code points of the characters with decimal digit value zero. -/
def digitZeros : List Nat :=
  [0x30, 0x660, 0x6F0, 0x7C0, 0x966, 0x9E6, 0xA66, 0xAE6, 0xB66, 0xBE6, 0xC66, 0xCE6, 0xD66,
  0xDE6, 0xE50, 0xED0, 0xF20, 0x1040, 0x1090, 0x17E0, 0x1810, 0x1946, 0x19D0, 0x1A80, 0x1A90,
  0x1B50, 0x1BB0, 0x1C40, 0x1C50, 0xA620, 0xA8D0, 0xA900, 0xA9D0, 0xA9F0, 0xAA50, 0xABF0, 0xFF10,
  0x104A0, 0x10D30, 0x10D40, 0x11066, 0x110F0, 0x11136, 0x111D0, 0x112F0, 0x11450, 0x114D0,
  0x11650, 0x116C0, 0x116D0, 0x116DA, 0x11730, 0x118E0, 0x11950, 0x11BF0, 0x11C50, 0x11D50,
  0x11DA0, 0x11F50, 0x16130, 0x16A60, 0x16AC0, 0x16B50, 0x16D70, 0x1CCF0, 0x1D7CE, 0x1D7D8,
  0x1D7E2, 0x1D7EC, 0x1D7F6, 0x1E140, 0x1E2F0, 0x1E4F0, 0x1E5F1, 0x1E950, 0x1FBF0]

/-- A character with the Unicode property `Nd`. -/
def isDecimalDigit (c : Char) : Bool :=
  c.isDigit || digitZeros.any fun start => start ≤ c.toNat && c.toNat < start + 10

/-! ## Blank characters

The characters with the Unicode property `White_Space`, and the two ways in which blanks are
removed from a text: everywhere, or at both ends only.
-/

/-- A character with the Unicode property `White_Space`. -/
def isBlank (c : Char) : Bool :=
  let code := c.toNat
  (9 ≤ code && code ≤ 13) || code == 0x20 || code == 0x85 || code == 0xA0 || code == 0x1680 ||
    (0x2000 ≤ code && code ≤ 0x200A) || code == 0x2028 || code == 0x2029 || code == 0x202F ||
    code == 0x205F || code == 0x3000

/-- A text without any of its blanks. -/
def compact (text : List Char) : List Char :=
  text.filter fun c => !isBlank c

/-- A text without the blanks at its end. -/
def trimEnd (text : List Char) : List Char :=
  (text.reverse.dropWhile isBlank).reverse

/-- A text without the blanks at its two ends. -/
def trim (text : List Char) : List Char :=
  trimEnd (text.dropWhile isBlank)

/-- `trim` on strings. -/
def trimmed (text : String) : String :=
  String.ofList (trim text.toList)

/-- A text that holds nothing but blanks. -/
def isAllBlank (text : List Char) : Bool :=
  text.all isBlank

/-! ## Display columns

The width of a text on a terminal, where the characters of the wide East Asian blocks take two
columns and all others one.
-/

/-- First and last code points of the blocks of wide characters. -/
def wideBlocks : List (Nat × Nat) :=
  [(0x1100, 0x115F), (0x2E80, 0x303E), (0x3041, 0xA4CF), (0xA960, 0xA97F), (0xAC00, 0xD7A3),
    (0xF900, 0xFAFF), (0xFE30, 0xFE6F), (0xFF01, 0xFF60), (0xFFE0, 0xFFE6), (0x1F300, 0x1F64F),
    (0x1F680, 0x1F6FF), (0x1F900, 0x1F9FF), (0x20000, 0x3FFFD)]

/-- The number of columns one character takes. -/
def columnsOf (c : Char) : Nat :=
  if wideBlocks.any fun block => block.1 ≤ c.toNat && c.toNat ≤ block.2 then 2 else 1

/-- The number of columns a text takes. -/
def columns (text : String) : Nat :=
  text.toList.foldl (fun width c => width + columnsOf c) 0

end Text
end PlaneRegion
