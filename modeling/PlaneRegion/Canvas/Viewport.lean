import PlaneRegion.Binary64.Text
import PlaneRegion.Scalar.Basic

/-!
# Viewports

A viewport is the size of a canvas in pixels and the number of pixels per unit along each axis.  It
places the origin in the middle of the canvas and lets screen rows grow downward.
-/

namespace PlaneRegion

/-- A point of the plane or of the screen. -/
structure Point (α : Type) where
  x : α
  y : α
  deriving DecidableEq, Repr

namespace Point

variable {α : Type} [Scalar α]

/-- Both coordinates are finite. -/
def isFinite (p : Point α) : Bool :=
  Scalar.isFinite p.x && Scalar.isFinite p.y

/-- The distance between two points. -/
def distance (p q : Point α) : α :=
  Scalar.hypot (q.x - p.x) (q.y - p.y)

end Point

/-- The size and the scale of a canvas. -/
structure Viewport (α : Type) where
  /-- Width in pixels. -/
  width : Nat
  /-- Height in pixels. -/
  height : Nat
  /-- Pixels per unit in horizontal direction. -/
  scaleX : α
  /-- Pixels per unit in vertical direction. -/
  scaleY : α
  deriving DecidableEq, Repr

/-- Why a viewport can not be used. -/
inductive ViewportFault (α : Type) where
  /-- A side has no pixel. -/
  | empty (width height : Nat)
  /-- A side has too many pixels. -/
  | tooLarge (width height : Nat)
  /-- A scale is less than one pixel per unit, or not finite. -/
  | scale (scaleX scaleY : α)
  deriving DecidableEq, Repr

namespace Viewport

variable {α : Type} [Scalar α]

/-- The greatest side of a canvas in pixels. -/
def maxSide : Nat := 10000

/-- The least number of pixels per unit. -/
def minScale : α := Scalar.ofNat 1

/-- The viewport used unless another is asked for. -/
def standard : Viewport α := ⟨600, 350, Scalar.ofNat 25, Scalar.ofNat 25⟩

/-- At least one pixel per unit, and finite. -/
def isUsableScale (scale : α) : Bool :=
  Scalar.atMost minScale scale && Scalar.isFinite scale

/-- The first fault of a viewport. -/
def fault? (v : Viewport α) : Option (ViewportFault α) :=
  if v.width = 0 ∨ v.height = 0 then some (.empty v.width v.height)
  else if maxSide < v.width ∨ maxSide < v.height then some (.tooLarge v.width v.height)
  else if !isUsableScale v.scaleX || !isUsableScale v.scaleY then some (.scale v.scaleX v.scaleY)
  else none

/-- The horizontal screen coordinate of a horizontal coordinate of the plane. -/
def toScreenX (v : Viewport α) (x : α) : α :=
  Scalar.ofNat v.width / Scalar.ofNat 2 + x * v.scaleX

/-- The vertical screen coordinate of a vertical coordinate of the plane. -/
def toScreenY (v : Viewport α) (y : α) : α :=
  Scalar.ofNat v.height / Scalar.ofNat 2 - y * v.scaleY

/-- The screen point of a point of the plane. -/
def toScreen (v : Viewport α) (x y : α) : Point α :=
  ⟨v.toScreenX x, v.toScreenY y⟩

/-- The interval around zero that `pixels` pixels show at a scale. -/
def visible (pixels : Nat) (scale : α) : α × α :=
  let lower := -Scalar.ofNat pixels / (Scalar.ofNat 2 * scale)
  (lower, -lower)

/-- The visible interval of horizontal coordinates. -/
def rangeX (v : Viewport α) : α × α := visible v.width v.scaleX

/-- The visible interval of vertical coordinates. -/
def rangeY (v : Viewport α) : α × α := visible v.height v.scaleY

end Viewport

/-- The notice about an unusable viewport. -/
def ViewportFault.message : ViewportFault Float → String
  | empty width height =>
      "canvas size must be positive, got " ++ toString width ++ "x" ++ toString height
  | tooLarge width height =>
      "canvas size must not exceed " ++ toString Viewport.maxSide ++ " pixels, got " ++
        toString width ++ "x" ++ toString height
  | scale scaleX scaleY =>
      "axis scales must be at least 1 pixel per unit, got " ++ Binary64.text scaleX ++ " and " ++
        Binary64.text scaleY

end PlaneRegion
