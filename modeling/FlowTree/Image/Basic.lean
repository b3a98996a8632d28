import FlowTree.Json.Render

/-! # Images

Pixels of eight bits a channel and the filters that a flow may apply to them. Filters work on the colour
channels and leave the alpha channel alone. -/

namespace FlowTree

/-- A pixel. -/
structure Pixel where
  red : UInt8
  green : UInt8
  blue : UInt8
  alpha : UInt8

/-- An image, row by row. -/
structure Image where
  width : Nat
  height : Nat
  pixels : Array Pixel

namespace Image

/-- A colour in single precision. -/
structure Colour where
  red : Float32
  green : Float32
  blue : Float32

/-- The same change of every channel. -/
def Colour.map (f : Float32 → Float32) (c : Colour) : Colour :=
  ⟨f c.red, f c.green, f c.blue⟩

/-- The brightness that a colour has for the eye. -/
def Colour.luma (c : Colour) : Float32 :=
  0.2126 * c.red + 0.7152 * c.green + 0.0722 * c.blue

/-- The nearest value of a channel. -/
def channel (v : Float32) : UInt8 :=
  let r := v.round
  if r < 0.0 then 0 else if 255.0 < r then 255 else r.toUInt8

/-- Changes the colour of every pixel. -/
def mapColours (f : Colour → Colour) (image : Image) : Image :=
  { image with
    pixels := image.pixels.map fun p =>
      let c := f ⟨p.red.toFloat32, p.green.toFloat32, p.blue.toFloat32⟩
      ⟨channel c.red, channel c.green, channel c.blue, p.alpha⟩ }

/-- The negative. -/
def invert (image : Image) : Image :=
  { image with
    pixels := image.pixels.map fun p => ⟨255 - p.red, 255 - p.green, 255 - p.blue, p.alpha⟩ }

/-- A channel cut to whole values. -/
def cut (v : Float) : UInt8 :=
  if v < 0.0 then 0 else if 255.0 < v then 255 else v.toUInt8

/-- Turns every hue by an angle. -/
def rotateHue (degrees : Int) (image : Image) : Image :=
  let angle := Float.ofInt degrees * (3.14159265358979323846 / 180.0)
  let c := angle.cos
  let s := angle.sin
  { image with
    pixels := image.pixels.map fun p =>
      let r := p.red.toFloat
      let g := p.green.toFloat
      let b := p.blue.toFloat
      ⟨cut ((0.213 + c * 0.787 - s * 0.213) * r + (0.715 - c * 0.715 - s * 0.715) * g +
          (0.072 - c * 0.072 + s * 0.928) * b),
        cut ((0.213 - c * 0.213 + s * 0.143) * r + (0.715 + c * 0.285 + s * 0.140) * g +
          (0.072 - c * 0.072 - s * 0.283) * b),
        cut ((0.213 - c * 0.213 - s * 0.787) * r + (0.715 - c * 0.715 + s * 0.715) * g +
          (0.072 + c * 0.928 + s * 0.072) * b),
        p.alpha⟩ }

/-- The weights of a blur, from the pixel itself outwards. -/
def weights (sigma : Float) : List Float :=
  let reach := min (2.0 * sigma).ceil.toUInt64.toNat 4096
  (List.range (reach + 1)).map fun i =>
    (-(Float.ofNat i * Float.ofNat i) / (2.0 * sigma * sigma)).exp

/-- The weighted mean of a channel along a line, whose ends are continued by their last pixel. -/
def smooth (weights : List Float) (value : Int → Float) : Float :=
  let step (acc : Float × Float) (w : Float × Nat) : Float × Float :=
    let values := if w.2 = 0 then value 0 else value w.2 + value (-(w.2 : Int))
    let count : Float := if w.2 = 0 then 1.0 else 2.0
    (acc.1 + w.1 * values, acc.2 + w.1 * count)
  let (sum, total) := (weights.zipIdx).foldl step (0.0, 0.0)
  sum / total

/-- Smooths every channel along one direction. -/
def blurAlong (weights : List Float) (dx dy : Int) (image : Image) : Image :=
  let pixelAt (x y : Int) : Pixel :=
    let x := (max 0 (min x (image.width - 1))).toNat
    let y := (max 0 (min y (image.height - 1))).toNat
    image.pixels.getD (y * image.width + x) ⟨0, 0, 0, 0⟩
  { image with
    pixels := image.pixels.mapIdx fun i _ =>
      let x : Int := i % image.width
      let y : Int := i / image.width
      let mean (f : Pixel → UInt8) : UInt8 :=
        cut ((smooth weights fun k => (f (pixelAt (x + k * dx) (y + k * dy))).toFloat) + 0.5)
      ⟨mean Pixel.red, mean Pixel.green, mean Pixel.blue, mean Pixel.alpha⟩ }

/-- Blurs by a bell curve of the given width. -/
def blur (sigma : Float32) (image : Image) : Image :=
  let ws := weights sigma.toFloat
  blurAlong ws 0 1 (blurAlong ws 1 0 image)

end Image

/-- A filter. -/
inductive ImageOp where
  /-- Multiplies every channel. -/
  | brightness (factor : Float32)
  /-- Scales every channel around the middle grey. -/
  | contrast (factor : Float32)
  /-- Scales every channel around the brightness of its pixel. -/
  | saturation (factor : Float32)
  /-- Moves every channel towards the brightness of its pixel. -/
  | grayscale (level : Float32)
  /-- The negative, darkened by a level below one. -/
  | invert (level : Float32)
  | blur (sigma : Float32)
  | hue (degrees : Int)
  | unchanged

namespace ImageOp

/-- A percentage as a factor. What is no number or zero leaves everything as it is. -/
def percent (text : String) : Float32 :=
  match Json.parseNumber? text with
  | some n => if n == 0.0 then 1.0 else (n / 100.0).toFloat32
  | none => 1.0

/-- A factor of at most one. -/
def atMostOne (f : Float32) : Float32 :=
  if f < 1.0 then f else 1.0

/-- The whole number that a double is cut to, within 32 bits. -/
def cut32 (f : Float) : Int :=
  match Dyadic.ofFloat? f with
  | some d => if d.toInt < -2147483648 then -2147483648 else if 2147483647 < d.toInt then 2147483647 else d.toInt
  | none => 0

/-- The filter that a name and its parameters describe. -/
def ofTexts (name amount level blur : String) : ImageOp :=
  let name := Text.trim name
  if name = "brightness" then brightness (percent amount)
  else if name = "contrast" then contrast (percent amount)
  else if name = "saturation" then saturation (percent amount)
  else if name = "grayscale" then grayscale (atMostOne (percent level))
  else if name = "invert" then invert (atMostOne (percent level))
  else if name = "blur" then .blur ((Json.parseNumber? blur).getD 0.0).toFloat32
  else if name = "hue" then hue (cut32 ((Json.parseNumber? amount).getD 0.0))
  else unchanged

/-- The filtered image. `smooth` blurs by a bell curve of a width. -/
def apply (smooth : Float32 → Image → Image) (op : ImageOp) (image : Image) : Image :=
  match op with
  | brightness f => image.mapColours (·.map (· * f))
  | contrast f => image.mapColours (·.map fun v => 128.0 + f * (v - 128.0))
  | saturation f => image.mapColours fun c => c.map fun v => c.luma + (v - c.luma) * f
  | grayscale level => image.mapColours fun c => c.map fun v => v + (c.luma - v) * level
  | invert level =>
    if level < 1.0 then image.invert.mapColours (·.map (· * level)) else image.invert
  | blur sigma => if 0.0 < sigma then smooth sigma image else image
  | hue degrees => if degrees = 0 then image else image.rotateHue degrees
  | unchanged => image

end ImageOp

/-- A library for work on images. -/
structure ImageLibrary where
  /-- The image that bytes hold, or why they hold none. -/
  decode : List UInt8 → Except String Image
  /-- The image as a PNG, or why it has none. -/
  encode : Image → Except String (List UInt8)
  /-- Blurs by a bell curve of a width. -/
  blur : Float32 → Image → Image
  /-- How the work on bytes crashes, if it does. -/
  crash? : ImageOp → List UInt8 → Option String

/-- The filtered image as a PNG, or what went wrong and how it is told. -/
def ImageLibrary.render (l : ImageLibrary) (op : ImageOp) (bytes : List UInt8) :
    Except (String × String) (List UInt8) :=
  match l.crash? op bytes with
  | some message => .error ("processing_error", message)
  | none =>
    match l.decode bytes with
    | .error message => .error ("decode_error", message)
    | .ok image => (l.encode (op.apply l.blur image)).mapError ("encode_error", ·)

end FlowTree
