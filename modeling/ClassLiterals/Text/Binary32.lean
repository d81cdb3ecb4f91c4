import ClassLiterals.Text.Numeral

/-!
# Single-precision numbers as text

A number of 32 bits is written with the fewest digits that read back as the same number; of several
such texts the nearest one is taken, and of two that are equally near the one further from zero. A
number from `1e16` up or below `1e-4` has an exponent, any other one has a point and at least one
digit after it.

The number is `m * 2 ^ q` for a natural `m`. All comparisons are made on multiples of one unit,
small enough that the number, the ends of the interval that rounds to it and the decimal
candidates are natural numbers.
-/

namespace ClassLiterals.Text.Binary32

/-- A finite number that is not zero, as `significand * 2 ^ (place - 149)`. -/
structure Finite where
  significand : Nat
  place : Nat
  deriving DecidableEq, Repr

/-- The finite number with the given exponent field and fraction field. -/
def Finite.ofFields (exponent fraction : Nat) : Finite :=
  if exponent = 0 then ⟨fraction, 0⟩ else ⟨fraction + (1 <<< 23), exponent - 1⟩

/-- The decimal exponent of the smallest candidates. -/
def lowestExponent : Int := -46

/-- Units in a number: one unit is `2 ^ (-151) * 10 ^ (-46)`. -/
def Finite.units (x : Finite) : Nat :=
  ((4 * x.significand) <<< x.place) * Nat.pow 10 46

/-- Units from a number down to the lower end of the interval that rounds to it. The interval is
narrower below a power of two. -/
def Finite.below (x : Finite) : Nat :=
  ((if x.significand = 1 <<< 23 ∧ 0 < x.place then 1 else 2) <<< x.place) * Nat.pow 10 46

/-- Units from a number up to the upper end of the interval that rounds to it. -/
def Finite.above (x : Finite) : Nat :=
  (2 <<< x.place) * Nat.pow 10 46

/-- Whether a value of `n` units rounds to `x`. The ends belong to the even significand. -/
def Finite.holds (x : Finite) (n : Nat) : Bool :=
  let low := x.units - x.below
  let high := x.units + x.above
  if x.significand % 2 = 0 then low ≤ n && n ≤ high else low < n && n < high

/-- Units in `10 ^ (step - 46)`. -/
def gridUnits (step : Nat) : Nat :=
  (1 <<< 151) * Nat.pow 10 step

/-- The multiple of `10 ^ (step - 46)` that rounds to `x`, the nearer one of two, and the greater
one of two that are equally near. -/
def Finite.onGrid? (x : Finite) (step : Nat) : Option Nat :=
  let grid := gridUnits step
  let d := x.units / grid
  let lower := 0 < d && x.holds (d * grid)
  let upper := x.holds ((d + 1) * grid)
  if lower && upper then
    if x.units - d * grid < (d + 1) * grid - x.units then some d else some (d + 1)
  else if lower then some d
  else if upper then some (d + 1)
  else none

/-- The shortest decimal that rounds to `x`: its digits and the exponent of the last one. The grids
are tried from the coarsest one on. -/
def Finite.shortest (x : Finite) : Nat × Int :=
  go 86
where
  go : Nat → Nat × Int
    | 0 => (x.units / gridUnits 0, lowestExponent)
    | step + 1 =>
      match x.onGrid? step with
      | some d => (d, lowestExponent + step)
      | none => go step

/-- The digits with an exponent: one digit, the others after a point. -/
def scientific (digits : List Char) (exponent : Int) : String :=
  let mantissa := match digits with
    | first :: second :: rest => first :: '.' :: second :: rest
    | short => short
  String.ofList mantissa ++ "e" ++ signedDecimal (exponent + digits.length - 1)

/-- The digits with a point among them or beside them. -/
def positional (digits : List Char) (exponent : Int) : String :=
  let whole := exponent + digits.length
  String.ofList <|
    if 0 ≤ exponent then digits ++ List.replicate exponent.toNat '0' ++ ['.', '0']
    else if 0 < whole then digits.take whole.toNat ++ '.' :: digits.drop whole.toNat
    else '0' :: '.' :: List.replicate (-whole).toNat '0' ++ digits

/-- Whether the number with these magnitude bits is written with an exponent: it is not zero, and
it is at least `1e16` or less than `1e-4`. -/
def isScientific (magnitude : Nat) : Bool :=
  0x5A0E1BCA ≤ magnitude || (0 < magnitude && magnitude < 0x38D1B717)

/-- The text of the single-precision number with the given bits. -/
def render (bits : UInt32) : String :=
  let magnitude := bits.toNat % (1 <<< 31)
  let exponent := magnitude / (1 <<< 23)
  let fraction := magnitude % (1 <<< 23)
  let sign := if bits.toNat < 1 <<< 31 then "" else "-"
  if exponent = 255 then if fraction = 0 then sign ++ "inf" else "NaN"
  else if magnitude = 0 then sign ++ "0.0"
  else
    let (digits, last) := (Finite.ofFields exponent fraction).shortest
    let text := if isScientific magnitude then scientific else positional
    sign ++ text (Nat.toDigits 10 digits) last

end ClassLiterals.Text.Binary32
