import FlowTree.Image.Basic
import FlowTree.Image.Inflate
import FlowTree.Text.Utf8

/-! # PNG images

Reading PNG images of every colour type and depth whose rows are stored in order, and writing images with
eight bits for each of four channels. Written images are not compressed. Together they make up a library
that knows no other kind of images. -/

namespace FlowTree.Png

/-- The bytes that a PNG image begins with. -/
def signature : List UInt8 := [0x89, 0x50, 0x4E, 0x47, 0x0D, 0x0A, 0x1A, 0x0A]

/-- The number in bytes, the highest first. -/
def ofBytes (bytes : List UInt8) : Nat :=
  bytes.foldl (fun n b => n * 256 + b.toNat) 0

/-- A number in four bytes, the highest first. -/
def bytes4 (n : Nat) : List UInt8 :=
  [n / 16777216, n / 65536, n / 256, n].map UInt8.ofNat

/-- The table of the checksum: the remainders of single bytes. -/
def crcTable : Array Nat :=
  (Array.range 256).map fun n =>
    (List.range 8).foldl (fun c _ => if c % 2 = 1 then (c / 2) ^^^ 0xEDB88320 else c / 2) n

/-- The checksum of a chunk. -/
def crc (bytes : List UInt8) : Nat :=
  (bytes.foldl (fun c b => crcTable.getD ((c ^^^ b.toNat) % 256) 0 ^^^ (c / 256)) 0xFFFFFFFF) ^^^ 0xFFFFFFFF

/-- The checksum of compressed data. -/
def adler (bytes : List UInt8) : Nat :=
  let (a, b) := bytes.foldl
    (fun (s : Nat × Nat) x => ((s.1 + x.toNat) % 65521, (s.2 + s.1 + x.toNat) % 65521)) (1, 0)
  b * 65536 + a

/-- A chunk: its kind and its data. -/
abbrev Chunk := String × List UInt8

/-- The chunks up to the last one. `fuel` bounds their number. -/
def chunks? : (fuel : Nat) → List UInt8 → Option (List Chunk)
  | 0, _ => none
  | fuel + 1, bytes =>
    let length := ofBytes (bytes.take 4)
    let kind := Text.ofBytes ((bytes.drop 4).take 4)
    let rest := bytes.drop 8
    if rest.length < length + 4 then none
    else if crc ((bytes.drop 4).take (length + 4)) ≠ ofBytes ((rest.drop length).take 4) then none
    else if kind = "IEND" then some []
    else (chunks? fuel (rest.drop (length + 4))).map ((kind, rest.take length) :: ·)

/-- What the header of an image says. -/
structure Header where
  width : Nat
  height : Nat
  depth : Nat
  colour : Nat

/-- The number of values that a pixel of a colour type takes. -/
def channels? (colour : Nat) : Option Nat :=
  [(0, 1), (2, 3), (3, 1), (4, 2), (6, 4)].lookup colour

/-- The header of an image whose rows are stored in order. -/
def header? (data : List UInt8) : Option Header :=
  match data.drop 8 with
  | [depth, colour, 0, 0, 0] =>
    some ⟨ofBytes (data.take 4), ofBytes ((data.drop 4).take 4), depth.toNat, colour.toNat⟩
  | _ => none

/-- The neighbour that is nearest to left + above - corner. -/
def nearest (left above corner : Nat) : Nat :=
  let p : Int := left + above - corner
  let distance (n : Nat) : Nat := (p - n).natAbs
  if distance left ≤ distance above ∧ distance left ≤ distance corner then left
  else if distance above ≤ distance corner then above else corner

/-- Undoes the filter of a row. `step` is the number of bytes of a pixel, and `above` the row before. -/
def unfilter? (kind step : Nat) (above row : Array UInt8) : Option (Array UInt8) :=
  if 4 < kind then none
  else
    some <| row.foldl (fun (done : Array UInt8) x =>
      let i := done.size
      let left := if i < step then 0 else (done.getD (i - step) 0).toNat
      let up := (above.getD i 0).toNat
      let corner := if i < step then 0 else (above.getD (i - step) 0).toNat
      let guess :=
        if kind = 0 then 0
        else if kind = 1 then left
        else if kind = 2 then up
        else if kind = 3 then (left + up) / 2
        else nearest left up corner
      done.push (UInt8.ofNat (x.toNat + guess))) #[]

/-- The rows of an image of `count` more rows, filters undone. -/
def rows? (width step : Nat) : (count : Nat) → (above : Array UInt8) → List UInt8 →
    Option (List (Array UInt8))
  | 0, _, _ => some []
  | _ + 1, _, [] => none
  | count + 1, above, kind :: bytes =>
    if bytes.length < width then none
    else do
      let row ← unfilter? kind.toNat step above (bytes.take width).toArray
      return row :: (← rows? width step count row (bytes.drop width))

/-- The values of a row, `depth` bits each. -/
def valuesOf (depth count : Nat) (row : Array UInt8) : List Nat :=
  (List.range count).map fun i =>
    if depth = 16 then (row.getD (2 * i) 0).toNat * 256 + (row.getD (2 * i + 1) 0).toNat
    else
      let place := i * depth
      (row.getD (place / 8) 0).toNat / Nat.pow 2 (8 - depth - place % 8) % Nat.pow 2 depth

/-- A value of a channel in eight bits. -/
def scale (depth value : Nat) : UInt8 :=
  if depth = 16 then UInt8.ofNat ((value * 255 + 32767) / 65535)
  else UInt8.ofNat (value * 255 / (Nat.pow 2 depth - 1))

/-- The pixels of a row of values. `palette` and `clear` are the chunks that tell the colours of indices
    and which colour is transparent. -/
def pixels? (h : Header) (palette clear : List UInt8) : List Nat → Option (List Pixel)
  | [] => some []
  | values => do
    let to8 := scale h.depth
    let (pixel, rest) ← match h.colour, values with
      | 0, v :: rest =>
        let alpha := if clear ≠ [] ∧ ofBytes clear = v then 0 else 255
        some ((⟨to8 v, to8 v, to8 v, alpha⟩ : Pixel), rest)
      | 2, r :: g :: b :: rest =>
        let alpha := if clear ≠ [] ∧ ofBytes clear = (r * 65536 + g) * 65536 + b then 0 else 255
        some (⟨to8 r, to8 g, to8 b, alpha⟩, rest)
      | 3, i :: rest =>
        match palette.drop (3 * i) with
        | r :: g :: b :: _ => some (⟨r, g, b, (clear[i]?).getD 255⟩, rest)
        | _ => none
      | 4, v :: a :: rest => some (⟨to8 v, to8 v, to8 v, to8 a⟩, rest)
      | 6, r :: g :: b :: a :: rest => some (⟨to8 r, to8 g, to8 b, to8 a⟩, rest)
      | _, _ => none
    if rest.length < values.length then return pixel :: (← pixels? h palette clear rest) else none
termination_by values => values.length

/-- Why bytes are no image. -/
inductive Fault where
  | unknownFormat
  | damaged

def Fault.message : Fault → String
  | unknownFormat => "The image format could not be determined"
  | damaged => "Format error decoding Png: the data are damaged"

/-- The image in a row of chunks. -/
def ofChunks? (chunks : List Chunk) : Option Image := do
  let h ← (chunks.lookup "IHDR").bind header?
  let channels ← channels? h.colour
  if ¬ [1, 2, 4, 8, 16].contains h.depth then none
  else
    let data := (chunks.filter (·.1 = "IDAT")).flatMap (·.2)
    let raw ← Inflate.inflate? ⟨data.toArray⟩
    let bits := h.depth * channels
    let width := (h.width * bits + 7) / 8
    let rows ← rows? width (max 1 (bits / 8)) h.height #[] raw.data.toList
    let palette := (chunks.lookup "PLTE").getD []
    let clear := (chunks.lookup "tRNS").getD []
    let pixels ← rows.mapM fun row => pixels? h palette clear (valuesOf h.depth (h.width * channels) row)
    return ⟨h.width, h.height, pixels.flatten.toArray⟩

/-- The image that bytes hold. -/
def decode (bytes : List UInt8) : Except Fault Image :=
  if bytes.take 8 ≠ signature then .error .unknownFormat
  else
    match (chunks? bytes.length (bytes.drop 8)).bind ofChunks? with
    | some image => .ok image
    | none => .error .damaged

/-- A chunk with its length and its checksum. -/
def chunk (kind : String) (data : List UInt8) : List UInt8 :=
  let body := Text.toBytes kind ++ data
  bytes4 data.length ++ body ++ bytes4 (crc body)

/-- Data in stored blocks of at most 65535 bytes. `fuel` bounds their number. -/
def stored : (fuel : Nat) → List UInt8 → List UInt8
  | 0, _ => []
  | fuel + 1, data =>
    let now := data.take 65535
    let later := data.drop 65535
    let low (n : Nat) : List UInt8 := [UInt8.ofNat n, UInt8.ofNat (n / 256)]
    (if later = [] then 1 else 0) :: low now.length ++ low (65535 - now.length) ++ now ++
      (if later = [] then [] else stored fuel later)

/-- The rows of an image, each after the mark that it is not filtered. -/
def rowBytes (image : Image) : List UInt8 :=
  (List.range image.height).flatMap fun y =>
    0 :: (image.pixels.extract (y * image.width) ((y + 1) * image.width)).toList.flatMap fun p =>
      [p.red, p.green, p.blue, p.alpha]

/-- The bytes of an image. -/
def encode (image : Image) : List UInt8 :=
  let raw := rowBytes image
  signature ++ chunk "IHDR" (bytes4 image.width ++ bytes4 image.height ++ [8, 6, 0, 0, 0]) ++
    chunk "IDAT" ([0x78, 0x01] ++ stored (raw.length / 65535 + 1) raw ++ bytes4 (adler raw)) ++
    chunk "IEND" []

def library : ImageLibrary where
  decode bytes := (decode bytes).mapError Fault.message
  encode image := .ok (encode image)
  blur := Image.blur
  crash? _ _ := none

end FlowTree.Png
