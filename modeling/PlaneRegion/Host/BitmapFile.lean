import PlaneRegion.Host.Basic
import PlaneRegion.Host.Location
import PlaneRegion.Text.Quoted

/-!
# Files of bitmaps

The extension of a path decides in which format a drawing is saved there.  A format that is known
but can not be written leaves an empty file behind.
-/

namespace PlaneRegion

/-! ## Formats of bitmaps

The file formats for bitmaps, as extensions of file names tell them.  All of them are recognized,
few can be written.
-/

/-- A file format for bitmaps. -/
inductive BitmapFormat where
  | png
  | jpeg
  | bmp
  | avif
  | gif
  | webP
  | tiff
  | tga
  | dds
  | ico
  | hdr
  | openExr
  | pnm
  | farbfeld
  | qoi
  deriving DecidableEq, Repr

namespace BitmapFormat

/-- The format that an extension in lower case names. -/
def ofLowerCase? : String → Option BitmapFormat
  | "png" => some png
  | "jpg" | "jpeg" => some jpeg
  | "bmp" => some bmp
  | "avif" => some avif
  | "gif" => some gif
  | "webp" => some webP
  | "tif" | "tiff" => some tiff
  | "tga" => some tga
  | "dds" => some dds
  | "ico" => some ico
  | "hdr" => some hdr
  | "exr" => some openExr
  | "pbm" | "pam" | "ppm" | "pgm" => some pnm
  | "ff" | "farbfeld" => some farbfeld
  | "qoi" => some qoi
  | _ => none

/-- The format that an extension names; the case of ASCII letters does not matter. -/
def ofExtension? (extension : String) : Option BitmapFormat :=
  ofLowerCase? (extension.map Char.toLower)

/-- Bitmaps can be written in this format. -/
def isWritable : BitmapFormat → Bool
  | png | jpeg | bmp => true
  | _ => false

/-- The name of a format. -/
def name : BitmapFormat → String
  | png => "Png"
  | jpeg => "Jpeg"
  | bmp => "Bmp"
  | avif => "Avif"
  | gif => "Gif"
  | webP => "WebP"
  | tiff => "Tiff"
  | tga => "Tga"
  | dds => "Dds"
  | ico => "Ico"
  | hdr => "Hdr"
  | openExr => "OpenExr"
  | pnm => "Pnm"
  | farbfeld => "Farbfeld"
  | qoi => "Qoi"

end BitmapFormat

/-! ## Saving a bitmap -/

/-- Why a drawing can not be saved as a bitmap. -/
inductive BitmapError where
  /-- The file can not be created. -/
  | file (reason : FileError)
  | noExtension
  | unknownExtension (extension : String)
  /-- The format can not be written. -/
  | unwritable (format : BitmapFormat)
  deriving DecidableEq, Repr

namespace BitmapError

/-- The text about a format that has no writer, given how the format is known. -/
def unsupported (format kind : String) : String :=
  "Unsupported(UnsupportedError \x7b format: " ++ format ++ ", kind: Format(" ++ kind ++ ") \x7d)"

/-- The text of a bitmap error with its parts named. -/
def detailed : BitmapError → String
  | file reason => "IoError(" ++ reason.detailed ++ ")"
  | noExtension => unsupported "Unknown" "Unknown"
  | unknownExtension extension =>
      let hint := "PathExtension(" ++ Text.quotedFully extension ++ ")"
      unsupported hint hint
  | unwritable format => unsupported "Unknown" ("Name(" ++ Text.quoted format.name ++ ")")

end BitmapError

/-- The format that a path asks for. -/
def BitmapFormat.ofPath (path : String) : Except BitmapError BitmapFormat :=
  match (Location.ofPath path).extension? with
  | none => .error .noExtension
  | some extension =>
      match ofExtension? extension with
      | none => .error (.unknownExtension extension)
      | some format => .ok format

variable {m : Type → Type} [Monad m] [Host m]

/-- Save a drawing as a bitmap in the format that the path asks for. -/
def Host.saveBitmap (path : String) (viewport : Viewport Float) (strokes : List (Stroke Float)) :
    ExceptT BitmapError m Unit := do
  let format ← ExceptT.mk (pure (BitmapFormat.ofPath path))
  let content := if format.isWritable then .bitmap viewport strokes else .text ""
  ExceptT.mk ((·.mapError .file) <$> (Host.save path content : m _))
  if !format.isWritable then throw (.unwritable format)

end PlaneRegion
