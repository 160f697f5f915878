/-!
# Decimal text of binary numbers

The shortest decimal that reads back as a given binary number.  A binary number of finite precision stands
for all reals that round to it; of the decimals with the fewest digits among these the text shows the one
nearest to the number.  All arithmetic is on natural numbers.
-/

namespace ScadManual

/-- The number `digits · 10 ^ exponent`. -/
structure Decimal where
  digits : Nat
  exponent : Int
deriving DecidableEq, Repr

namespace Decimal

/-- A positive binary number `mantissa · 2 ^ exponent`.  At the `edge` of a power of two the next smaller
number is only half as far away as the next larger one. -/
structure Binary where
  mantissa : Nat
  exponent : Int
  edge : Bool
deriving DecidableEq, Repr

/-- The number and the ends of the interval of reals that round to it, in quarters of its last digit. -/
def Binary.quarters (b : Binary) : Nat × Nat × Nat :=
  (4 * b.mantissa, if b.edge then 4 * b.mantissa - 1 else 4 * b.mantissa - 2, 4 * b.mantissa + 2)

/-- The best decimal with the given exponent that reads back, if there is one. -/
def atExponent? (b : Binary) (k : Int) : Option Decimal :=
  let e := b.exponent - 2
  let twos := (-e).toNat
  let tens := (-k).toNat
  let decimalUnit := Nat.pow 10 (k + tens).toNat * Nat.pow 2 twos
  let binaryUnit := Nat.pow 2 (e + twos).toNat * Nat.pow 10 tens
  let (value, low, high) := b.quarters
  let value := value * binaryUnit
  let reads (d : Nat) : Bool :=
    let x := d * decimalUnit
    if b.mantissa % 2 = 0 then low * binaryUnit ≤ x && x ≤ high * binaryUnit
    else low * binaryUnit < x && x < high * binaryUnit
  let below := value / decimalUnit
  let above := below + 1
  let nearer := value - below * decimalUnit ≤ above * decimalUnit - value
  match below ≠ 0 && reads below, reads above with
  | true, true => some ⟨if nearer then below else above, k⟩
  | true, false => some ⟨below, k⟩
  | false, true => some ⟨above, k⟩
  | false, false => none

/-- The first hit among `count` exponents, from `k` downwards. -/
def search (b : Binary) (k : Int) : Nat → Option Decimal
  | 0 => none
  | count + 1 =>
    match atExponent? b k with
    | some d => some d
    | none => search b (k - 1) count

/-- The largest decimal exponent of a single-precision number. -/
def maxExponent : Int := 39

/-- Decimal exponents that cover all single-precision numbers to their last digit. -/
def exponentCount : Nat := 100

/-- The shortest decimal of a positive number. -/
def shortest (b : Binary) : Decimal :=
  (search b maxExponent exponentCount).getD ⟨0, 0⟩

/-- The parts of a single-precision number that is neither negative nor infinite. -/
def ofSingle (x : Float32) : Binary :=
  let bits := x.toBits.toNat
  let exponent : Nat := bits / Nat.pow 2 23 % 256
  let fraction : Nat := bits % Nat.pow 2 23
  if exponent = 0 then ⟨fraction, -149, false⟩
  else ⟨fraction + Nat.pow 2 23, Int.ofNat exponent - 150, fraction == 0 && exponent > 1⟩

/-- The text of a decimal, without an exponent. -/
def text (d : Decimal) : String :=
  let digits := (toString d.digits).toList
  if d.exponent ≥ 0 then
    String.ofList (digits ++ List.replicate d.exponent.toNat '0')
  else
    let places := (-d.exponent).toNat
    let padded := List.replicate (places + 1 - digits.length) '0' ++ digits
    String.ofList (padded.take (padded.length - places) ++ '.' :: padded.drop (padded.length - places))

/-- The text of a single-precision number that is neither negative nor infinite. -/
def ofFloat32 (x : Float32) : String :=
  let b := ofSingle x
  if b.mantissa = 0 then "0" else (shortest b).text

end Decimal

end ScadManual
