import PlaneRegion.Canvas.Recorder
import PlaneRegion.Scalar.Basic

/-!
# Drawings in files

A drawing is written as text, with polylines for its strokes, or as a bitmap, whose bytes are then
put into a file.
-/

namespace PlaneRegion

/-! ## Drawings as SVG text

A drawing becomes a white rectangle and one polyline for each stroke.  Coordinates are rounded to
pixels and held within the canvas.
-/

namespace Svg

/-- The number of points that a curved segment is flattened to. -/
def curveSteps : Nat := 8

/-- The pixel nearest to a coordinate, held between zero and the side of the canvas. -/
def pixel (side : Nat) (coordinate : Float) : Int :=
  max 0 (min (side : Int) (Binary64.nearestInt32 coordinate))

/-- One point of a polyline, followed by a space. -/
def pointText (viewport : Viewport Float) (p : Point Float) : String :=
  toString (pixel viewport.width p.x) ++ "," ++ toString (pixel viewport.height p.y) ++ " "

/-- One polyline of the given colour and width. -/
def polyline (viewport : Viewport Float) (colour : Colour) (width : Nat)
    (points : List (Point Float)) : String :=
  "<polyline fill=\"none\" opacity=\"1\" stroke=\"" ++ colour.hex ++ "\" stroke-width=\"" ++
    toString width ++ "\" points=\"" ++ String.join (points.map (pointText viewport)) ++ "\"/>\n"

/-- One stroke as a polyline: lines are one pixel wide, paths two. -/
def stroke (viewport : Viewport Float) : Stroke Float → String
  | .line start stop colour => polyline viewport colour 1 [start, stop]
  | .path path => polyline viewport path.colour 2 (path.flatten curveSteps)

/-- A whole drawing. -/
def document (viewport : Viewport Float) (strokes : List (Stroke Float)) : String :=
  let width := toString viewport.width
  let height := toString viewport.height
  "<svg width=\"" ++ width ++ "\" height=\"" ++ height ++ "\" viewBox=\"0 0 " ++ width ++ " " ++
    height ++ "\" xmlns=\"http://www.w3.org/2000/svg\">\n" ++
    "<rect x=\"0\" y=\"0\" width=\"" ++ width ++ "\" height=\"" ++ height ++
    "\" opacity=\"1\" fill=\"#FFFFFF\" stroke=\"none\"/>\n" ++
    String.join (strokes.map (stroke viewport)) ++ "</svg>\n"

end Svg

/-! ## Drawings as bitmaps

A drawing becomes a rectangle of pixels with the polylines that it has as SVG text.  Each pixel is a
place in a palette of white and the colours of a drawing.
-/

/-- A rectangle of pixels. -/
structure Bitmap where
  /-- Pixels in a row. -/
  width : Nat
  /-- Number of rows. -/
  height : Nat
  /-- The places in the palette, row by row. -/
  pixels : ByteArray

namespace Bitmap

/-- The red, green and blue parts of the colours that a pixel can have. -/
def palette : List (Nat × Nat × Nat) :=
  (255, 255, 255) ::
    [Colour.black, Colour.red, Colour.blue, Colour.green, Colour.purple].map Colour.parts

/-- The place of a colour in the palette. -/
def place : Colour → UInt8
  | .black => 1
  | .red => 2
  | .blue => 3
  | .green => 4
  | .purple => 5

/-- A white rectangle. -/
def blank (width height : Nat) : Bitmap :=
  ⟨width, height, ⟨Array.replicate (width * height) 0⟩⟩

/-- Colour one pixel; there is nothing to colour outside of the rectangle. -/
def dot (bitmap : Bitmap) (colour : Colour) (x y : Int) : Bitmap :=
  let ⟨width, height, pixels⟩ := bitmap
  if 0 ≤ x ∧ x < width ∧ 0 ≤ y ∧ y < height then
    ⟨width, height, pixels.set! (y.toNat * width + x.toNat) (place colour)⟩
  else ⟨width, height, pixels⟩

/-- Colour a square of pixels that ends at the given one. -/
def square (bitmap : Bitmap) (colour : Colour) (side : Nat) (x y : Int) : Bitmap :=
  (List.range side).foldl
    (fun bitmap (i : Nat) =>
      (List.range side).foldl (fun bitmap (j : Nat) => bitmap.dot colour (x - i) (y - j)) bitmap)
    bitmap

/-- The integer nearest to `start + step / steps * (stop - start)`. -/
def between (start stop : Int) (step steps : Nat) : Int :=
  start + (2 * (stop - start) * step + steps) / (2 * steps)

/-- Draw a straight line of the given width. -/
def line (bitmap : Bitmap) (colour : Colour) (width : Nat) (start stop : Int × Int) : Bitmap :=
  let steps := max (max (stop.1 - start.1).natAbs (stop.2 - start.2).natAbs) 1
  (List.range (steps + 1)).foldl (fun bitmap i =>
    bitmap.square colour width (between start.1 stop.1 i steps) (between start.2 stop.2 i steps))
    bitmap

/-- Draw straight lines from each point to the next. -/
def polyline (bitmap : Bitmap) (colour : Colour) (width : Nat) (points : List (Int × Int)) :
    Bitmap :=
  (points.zip points.tail).foldl
    (fun bitmap (start, stop) => bitmap.line colour width start stop) bitmap

/-- The pixel of a point of the screen. -/
def pixelAt (viewport : Viewport Float) (p : Point Float) : Int × Int :=
  (Svg.pixel viewport.width p.x, Svg.pixel viewport.height p.y)

/-- Draw one stroke: lines are one pixel wide, paths two. -/
def stroke (viewport : Viewport Float) (bitmap : Bitmap) : Stroke Float → Bitmap
  | .line start stop colour =>
      bitmap.polyline colour 1 ([start, stop].map (pixelAt viewport))
  | .path path =>
      bitmap.polyline path.colour 2 ((path.flatten Svg.curveSteps).map (pixelAt viewport))

/-- A whole drawing. -/
def ofStrokes (viewport : Viewport Float) (strokes : List (Stroke Float)) : Bitmap :=
  strokes.foldl (stroke viewport) (blank viewport.width viewport.height)

end Bitmap

/-! ## Bitmaps as PNG files

A file is a signature and a list of chunks: the header, the palette, the pixels and the end.  The
pixels are stored without compression.
-/

namespace Png

/-- A number in four bytes, the highest first. -/
def word (n : UInt32) : List UInt8 :=
  [(n >>> 24).toUInt8, (n >>> 16).toUInt8, (n >>> 8).toUInt8, n.toUInt8]

/-- A number in two bytes, the lowest first. -/
def half (n : UInt16) : List UInt8 :=
  [n.toUInt8, (n >>> 8).toUInt8]

/-- One step of the division by the polynomial of the cyclic check. -/
def shift (remainder : UInt32) : UInt32 :=
  if remainder &&& 1 = 1 then (remainder >>> 1) ^^^ 0xEDB88320 else remainder >>> 1

/-- The remainders of all bytes. -/
def remainders : Array UInt32 :=
  Array.ofFn fun i : Fin 256 => Nat.repeat shift 8 (UInt32.ofNat i.val)

/-- The cyclic check of bytes. -/
def cyclicCheck (bytes : ByteArray) : UInt32 :=
  bytes.foldl (fun c b =>
    remainders.getD ((c ^^^ b.toUInt32) &&& 255).toNat 0 ^^^ (c >>> 8)) 0xFFFFFFFF ^^^ 0xFFFFFFFF

/-- The check sum of stored data: two sums modulo the greatest prime below 2 ^ 16. -/
def sumCheck (bytes : ByteArray) : UInt32 :=
  let (a, b) := bytes.foldl (fun ((a, b) : UInt32 × UInt32) byte =>
    let a := (a + byte.toUInt32) % 65521
    (a, (b + a) % 65521)) (1, 0)
  (b <<< 16) ||| a

/-- The bytes of a list. -/
def bytes (list : List UInt8) : ByteArray := ⟨list.toArray⟩

/-- A chunk: its length, its name, its data and their check. -/
def chunk (name : String) (data : ByteArray) : ByteArray :=
  let body := name.toUTF8 ++ data
  bytes (word (UInt32.ofNat data.size)) ++ body ++ bytes (word (cyclicCheck body))

/-- The greatest length of a stored block. -/
def maxBlock : Nat := 65535

/-- Data in stored blocks, of which `count` follow from the given place on. -/
def blocks (data : ByteArray) : Nat → Nat → ByteArray → ByteArray
  | _, 0, result => result
  | start, count + 1, result =>
      let block := data.extract start (start + maxBlock)
      let size := UInt16.ofNat block.size
      let header := (if count = 0 then 1 else 0) :: half size ++ half (~~~size)
      blocks data (start + maxBlock) count (result ++ bytes header ++ block)

/-- Data as a stream without compression. -/
def stream (data : ByteArray) : ByteArray :=
  blocks data 0 ((data.size + maxBlock - 1) / maxBlock) (bytes [0x78, 0x01]) ++
    bytes (word (sumCheck data))

/-- The rows of a bitmap, each after the byte that announces plain pixels. -/
def rows (bitmap : Bitmap) : ByteArray :=
  (List.range bitmap.height).foldl (fun data row =>
    data.push 0 ++ bitmap.pixels.extract (row * bitmap.width) ((row + 1) * bitmap.width))
    ByteArray.empty

/-- Size, eight bits for a pixel, a palette, and no special method. -/
def header (bitmap : Bitmap) : ByteArray :=
  bytes (word (UInt32.ofNat bitmap.width) ++ word (UInt32.ofNat bitmap.height) ++ [8, 3, 0, 0, 0])

/-- The colours of the palette. -/
def palette : ByteArray :=
  bytes (Bitmap.palette.flatMap fun (r, g, b) =>
    [UInt8.ofNat r, UInt8.ofNat g, UInt8.ofNat b])

/-- The file of a bitmap. -/
def file (bitmap : Bitmap) : ByteArray :=
  bytes [0x89, 0x50, 0x4E, 0x47, 0x0D, 0x0A, 0x1A, 0x0A] ++ chunk "IHDR" (header bitmap) ++
    chunk "PLTE" palette ++ chunk "IDAT" (stream (rows bitmap)) ++ chunk "IEND" ByteArray.empty

end Png
end PlaneRegion
