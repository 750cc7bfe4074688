/-
# UriRouting.Decimal.Shortest — binary numbers in as few decimal digits as tell them apart

A binary number of fixed precision stands for all reals that round to it. `shortest` gives
the decimal with the fewest digits among these, the nearest if there are several. All
arithmetic is on naturals and exact. What is left open by that is decided by a `Style`:
which of two decimals is taken half way between them, and whether the digits are written
out with all their zeros (`positional`) or with an exponent (`scientific`).
-/
import UriRouting.Text.Basic

namespace UriRouting

set_option autoImplicit false

/-- The widths of the fields of a binary format: a sign, an exponent and a fraction. -/
structure BinaryFormat where
  exponentBits : Nat
  fractionBits : Nat
  deriving Repr, DecidableEq

namespace BinaryFormat

def single : BinaryFormat := ⟨8, 23⟩

def double : BinaryFormat := ⟨11, 52⟩

/-- A number by its bits: a finite one is `mantissa * 2 ^ up / 2 ^ down`, where one of the
two exponents is zero. The reals below it are half as far away as those above it if it is
`narrow` below. -/
inductive Value where
  | nan
  | infinite (negative : Bool)
  | finite (negative : Bool) (mantissa up down : Nat) (narrow : Bool)
  deriving Repr, DecidableEq

def value (f : BinaryFormat) (bits : Nat) : Value :=
  let fraction := bits % Nat.pow 2 f.fractionBits
  let exponent := bits / Nat.pow 2 f.fractionBits % Nat.pow 2 f.exponentBits
  let negative := bits / Nat.pow 2 (f.fractionBits + f.exponentBits) % 2 == 1
  let bias := Nat.pow 2 (f.exponentBits - 1) - 2 + f.fractionBits
  if exponent + 1 = Nat.pow 2 f.exponentBits then
    if fraction = 0 then .infinite negative else .nan
  else
    let mantissa := if exponent = 0 then fraction else Nat.pow 2 f.fractionBits + fraction
    let shift := exponent - 1
    .finite negative mantissa (shift - bias) (bias - shift) (fraction == 0 && 1 < exponent)

end BinaryFormat

namespace Decimal

/-- The decimal `number * 10 ^ exponent`. -/
structure Digits where
  number : Nat
  exponent : Int
  deriving Repr, DecidableEq

/-- Which of two decimals is taken half way between them. -/
inductive Tie where
  /-- The one that ends in an even digit. -/
  | toEven
  /-- The greater one. -/
  | up
  deriving Repr, DecidableEq

/-- One of the two multiples of a unit around a number that lies so many parts of the unit
above `below`: the nearer one. -/
def nearest (tie : Tie) (below part unit : Nat) : Nat :=
  if 2 * part < unit then below
  else if unit < 2 * part then below + 1
  else
    match tie with
    | .up => below + 1
    | .toEven => if below % 2 = 0 then below else below + 1

/-- The multiple of a power of ten that stands for the reals between `low` and `high`
quarters and is nearest to `middle`, if there is one. All four are numbers of quarters of a
unit, of which `unit` make one step of the grid. -/
def onGrid? (tie : Tie) (closed : Bool) (low middle high unit : Nat) : Option Nat :=
  let below := middle / unit
  let fits (n : Nat) : Bool :=
    if closed then low ≤ n * unit && n * unit ≤ high else low < n * unit && n * unit < high
  match fits below, fits (below + 1) with
  | true, true => some (nearest tie below (middle % unit) unit)
  | true, false => some below
  | false, true => some (below + 1)
  | false, false => none

/-- The fewest digits of a positive number. Grids are tried from the first that is wider
than the number down to the one that every fraction of the format lies on, so the last
digit is no zero. -/
def shortest (tie : Tie) (mantissa up down : Nat) (narrow : Bool) : Digits :=
  let scale := 4 * Nat.pow 2 up
  let middle := mantissa * scale
  let low := middle - (if narrow then scale / 4 else scale / 2)
  let high := middle + scale / 2
  let closed := mantissa % 2 == 0
  let one := 4 * Nat.pow 2 down
  let width := (Nat.toDigits 10 (middle / one)).length
  let tens := (List.range (width + 1)).reverse.findSome? fun zeros =>
    (onGrid? tie closed low middle high (one * Nat.pow 10 zeros)).map
      fun n => (⟨n, zeros⟩ : Digits)
  let tenths := (List.range (down + 1)).findSome? fun places =>
    let step := Nat.pow 10 places
    (onGrid? tie closed (low * step) (middle * step) (high * step) one).map
      fun n => (⟨n, -places⟩ : Digits)
  (tens.or tenths).getD ⟨mantissa * Nat.pow 2 up, 0⟩

/-- The power of ten that the first digit counts. -/
def Digits.leading (d : Digits) : Int := (Nat.toDigits 10 d.number).length - 1 + d.exponent

/-- Digits with as many zeros as their place takes, and a point if it lies behind one. -/
def positional (d : Digits) : Text :=
  let places := (-d.exponent).toNat
  let number := Nat.toDigits 10 (d.number * Nat.pow 10 d.exponent.toNat)
  if places = 0 then number
  else
    let padded := List.replicate (places + 1 - number.length) '0' ++ number
    padded.take (padded.length - places) ++ '.' :: padded.drop (padded.length - places)

/-- Digits with a point behind the first, if it is not the only one, and the power of ten
that the first counts. -/
def scientific (d : Digits) : Text :=
  let digits :=
    match Nat.toDigits 10 d.number with
    | first :: second :: more => first :: '.' :: second :: more
    | digits => digits
  let sign := if d.leading < 0 then '-' else '+'
  digits ++ 'e' :: sign :: Nat.toDigits 10 d.leading.natAbs

/-- How numbers are written. -/
structure Style where
  tie : Tie
  /-- A whole number has a point and a zero behind it, where no exponent is written. -/
  wholePoint : Bool
  /-- The least and the greatest power of ten that the first digit may count in a number
  that is written without an exponent; all if none are given. -/
  plain : Option (Int × Int)
  deriving Repr, DecidableEq

def Style.isPlain (style : Style) (d : Digits) : Bool :=
  match style.plain with
  | none => true
  | some (least, greatest) => least ≤ d.leading && d.leading ≤ greatest

def writeDigits (style : Style) (d : Digits) : Text :=
  if style.isPlain d then
    positional d ++ if style.wholePoint && 0 ≤ d.exponent then ".0".toList else []
  else scientific d

def write (style : Style) (format : BinaryFormat) (bits : Nat) : Text :=
  let sign (negative : Bool) (t : Text) : Text := if negative then '-' :: t else t
  match format.value bits with
  | .nan => "NaN".toList
  | .infinite negative => sign negative "inf".toList
  | .finite negative mantissa up down narrow =>
    sign negative <| writeDigits style <|
      if mantissa = 0 then ⟨0, 0⟩ else shortest style.tie mantissa up down narrow

end Decimal
end UriRouting
