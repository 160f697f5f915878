/-!
# Pictures

Rectangles of pixels, row by row, each pixel a few channels of one or two bytes, the low byte first.  Two
pictures of the same size and colour differ by the root of the summed squared differences of their bytes
per pixel.
-/

namespace ScadManual

/-- The channels of a pixel and the bits of each. -/
inductive Color where
  | l8
  | la8
  | rgb8
  | rgba8
  | l16
  | la16
  | rgb16
  | rgba16
deriving DecidableEq, Repr, Inhabited

/-- Byte arrays are equal when their bytes are. -/
instance decidableEqBytes : DecidableEq ByteArray := fun a b =>
  if h : a.data = b.data then .isTrue (ByteArray.ext h) else .isFalse fun e => h (e ▸ rfl)

/-- A picture. -/
structure Picture where
  color : Color
  width : Nat
  height : Nat
  bytes : ByteArray
deriving DecidableEq, Inhabited

namespace Picture

/-- Have the pictures the same size and colour? -/
def comparable (a b : Picture) : Bool :=
  a.width == b.width && a.height == b.height && a.color == b.color

/-- The squared distance of two bytes. -/
def squaredDistance (x y : UInt8) : Nat :=
  let d := if x ≤ y then y.toNat - x.toNat else x.toNat - y.toNat
  d * d

/-- The summed squared distances of the bytes. -/
def sumOfSquares (a b : Picture) : Nat :=
  ((a.bytes.toList.zip b.bytes.toList).map fun (x, y) => squaredDistance x y).foldl (· + ·) 0

/-- The difference of two pictures, when they can be compared.  Empty pictures do not differ. -/
def difference? (a b : Picture) : Option Float :=
  if a.comparable b then
    let pixels := a.width * a.height
    if pixels = 0 then some 0.0
    else some (Float.sqrt (Float.ofNat (a.sumOfSquares b) / Float.ofNat pixels))
  else none

/-- A channel of two bytes, rounded to one. -/
def narrow (low high : UInt8) : UInt8 :=
  UInt8.ofNat ((high.toNat * 256 + low.toNat + 128) / 257)

/-- Channels of two bytes, each rounded to one. -/
def narrowAll : List UInt8 → List UInt8
  | low :: high :: rest => narrow low high :: narrowAll rest
  | _ => []

/-- The pixels of one grey channel as red, green, blue and full opacity. -/
def ofGrey : List UInt8 → List UInt8
  | l :: rest => l :: l :: l :: 255 :: ofGrey rest
  | [] => []

/-- The pixels of grey and opacity as red, green, blue and opacity. -/
def ofGreyAlpha : List UInt8 → List UInt8
  | l :: a :: rest => l :: l :: l :: a :: ofGreyAlpha rest
  | _ => []

/-- The pixels of red, green and blue with full opacity. -/
def ofRgb : List UInt8 → List UInt8
  | r :: g :: b :: rest => r :: g :: b :: 255 :: ofRgb rest
  | _ => []

/-- The picture in red, green, blue and opacity of one byte each. -/
def toRgba8 (p : Picture) : Picture :=
  let bytes := p.bytes.toList
  let data :=
    match p.color with
    | .l8 => ofGrey bytes
    | .la8 => ofGreyAlpha bytes
    | .rgb8 => ofRgb bytes
    | .rgba8 => bytes
    | .l16 => ofGrey (narrowAll bytes)
    | .la16 => ofGreyAlpha (narrowAll bytes)
    | .rgb16 => ofRgb (narrowAll bytes)
    | .rgba16 => narrowAll bytes
  ⟨.rgba8, p.width, p.height, ⟨data.toArray⟩⟩

end Picture

end ScadManual
