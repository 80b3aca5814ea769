import RuntimeTypes.Heap.Basic

/-!
# The text of values

How values show in messages. A float shows by the shortest digits that read back as it. An array
shows its entries, and an array among them only its length, so the text is finite however arrays are
nested.
-/

namespace RuntimeTypes.Decimal

/-! ## Binary floating-point numbers

What the 64 bits of a double stand for: a sign and, unless the number is infinite or no number at
all, an integer significand and a power of two.
-/

/-- The magnitude `significand * 2 ^ exponent`, with the distance to the next smaller double noted:
it is half as large where the significand is the least of its binade. -/
structure Binary where
  significand : Nat
  exponent : Int
  /-- The next smaller double is only half as far away as the next larger one. -/
  narrowBelow : Bool
  deriving DecidableEq, Repr

/-- What a double is, apart from its sign. -/
inductive Magnitude where
  | notANumber
  | infinite
  | finite (value : Binary)
  deriving DecidableEq, Repr

def signBit (bits : UInt64) : Bool :=
  bits >>> 63 = 1

/-- The magnitude that the lower 63 bits stand for. -/
def magnitude (bits : UInt64) : Magnitude :=
  let biased := (bits >>> 52 &&& 0x7ff).toNat
  let fraction := (bits &&& 0xfffffffffffff).toNat
  if biased = 2047 then
    if fraction = 0 then .infinite else .notANumber
  else if biased = 0 then
    .finite ⟨fraction, -1074, false⟩
  else
    .finite ⟨0x10000000000000 + fraction, (biased : Int) - 1075, fraction = 0 && biased ≠ 1⟩

/-! ## The shortest decimal that reads back

Every double is the rounding of an interval of reals around it, whose ends belong to it exactly
when its significand is even. Its shortest decimal is the point of the coarsest decimal grid that
meets the interval: of the two neighbours of the number on that grid the nearer one that lies
inside, and the larger one where both are equally near.

All of it is exact arithmetic on natural numbers: a number is four times its significand in units
of a quarter of its last place, so that the ends of the interval are whole as well.
-/

/-- The number `digits * 10 ^ exponent`. -/
structure Scaled where
  digits : Nat
  exponent : Int
  deriving DecidableEq, Repr

namespace Binary

/-- The number in quarters of its last place. -/
def quarters (b : Binary) : Nat :=
  4 * b.significand

/-- The lower end of the interval that rounds to the number, in the same unit. -/
def lowerQuarters (b : Binary) : Nat :=
  b.quarters - if b.narrowBelow then 1 else 2

/-- The upper end of the interval that rounds to the number, in the same unit. -/
def upperQuarters (b : Binary) : Nat :=
  b.quarters + 2

/-- The power of two that the quarters count. -/
def unitExponent (b : Binary) : Int :=
  b.exponent - 2

/-- Quarters times this number and grid points times `gridWeight` are on one scale. -/
def quarterWeight (b : Binary) (exponent : Int) : Nat :=
  Nat.pow 2 b.unitExponent.toNat * Nat.pow 10 (-exponent).toNat

/-- Points of the grid of multiples of `10 ^ exponent`, on the scale of `quarterWeight`. -/
def gridWeight (b : Binary) (exponent : Int) : Nat :=
  Nat.pow 10 exponent.toNat * Nat.pow 2 (-b.unitExponent).toNat

/-- Whether `digits * 10 ^ exponent` rounds to the number. -/
def admits (b : Binary) (digits : Nat) (exponent : Int) : Bool :=
  let low := b.lowerQuarters * b.quarterWeight exponent
  let high := b.upperQuarters * b.quarterWeight exponent
  let point := digits * b.gridWeight exponent
  if b.significand % 2 = 0 then low ≤ point && point ≤ high else low < point && point < high

/-- The point that stands for the number on the grid of multiples of `10 ^ exponent`, if one of the
number's two neighbours there rounds to it. -/
def onGrid? (b : Binary) (exponent : Int) : Option Scaled :=
  let value := b.quarters * b.quarterWeight exponent
  let step := b.gridWeight exponent
  let below := value / step
  let above := below + 1
  let nearer := if above * step - value ≤ value - below * step then above else below
  match b.admits below exponent, b.admits above exponent with
  | true, true => some ⟨nearer, exponent⟩
  | true, false => some ⟨below, exponent⟩
  | false, true => some ⟨above, exponent⟩
  | false, false => none

/-- A power of ten to start the search at: that of the first digit of a nonzero number, or the next
larger one. The number is below `2 ^ (log2 quarters + unitExponent + 1)`, and for the exponents of
doubles the fraction is close enough to the decimal logarithm of two to round down alike. -/
def coarsestExponent (b : Binary) : Int :=
  ((b.quarters.log2 : Int) + b.unitExponent + 1) * 30103 / 100000

/-- The shortest decimal of a number, or `none` for zero, which has no first digit. Seventeen
digits tell all doubles apart, and the coarsest grid may hold none, so for every other number one of
eighteen grids has a point. -/
def shortest? (b : Binary) : Option Scaled :=
  if b.significand = 0 then none
  else (List.range 18).findSome? fun (places : Nat) => b.onGrid? (b.coarsestExponent - places)

end Binary

/-! ## The text of a float

A float is written with its shortest digits: plainly, with at least one digit after the point,
while its first digit stands between the ten-thousandths and the units of `10 ^ 15`, and in
scientific notation outside that range.
-/

/-- Which powers of ten of the first digit are written plainly. -/
structure Notation where
  /-- The least power written plainly. -/
  firstPlain : Int
  /-- The least power above those that is not. -/
  firstLarge : Int
  deriving DecidableEq, Repr

/-- Floats are plain from `10 ^ (-4)` up to below `10 ^ 16`. -/
def floatNotation : Notation := ⟨-4, 16⟩

/-- How many decimal digits a number has; zero has one. -/
def digitCount (n : Nat) : Nat :=
  (Nat.toDigits 10 n).length

/-- The digits of a number without the zeros at its end. -/
def significantDigits (n : Nat) : List Char :=
  ((Nat.toDigits 10 n).reverse.dropWhile (· = '0')).reverse

/-- Digits with the decimal point after the place of the units, where the first digit has the power
of ten `lead`. Zeros fill the places that have no digit. -/
def plainText (digits : List Char) (lead : Int) : List Char :=
  if lead < 0 then
    '0' :: '.' :: (List.replicate (-lead - 1).toNat '0' ++ digits)
  else
    let whole := lead.toNat + 1
    let fraction := digits.drop whole
    digits.take whole ++ List.replicate (whole - digits.length) '0' ++
      '.' :: (if fraction.isEmpty then ['0'] else fraction)

/-- Digits with the decimal point after the first, and the power of ten of that digit. -/
def scientificText (digits : List Char) (lead : Int) : List Char :=
  let mantissa := match digits with
    | first :: second :: rest => first :: '.' :: second :: rest
    | short => short
  mantissa ++ 'e' :: (Int.repr lead).toList

/-- The text of `digits * 10 ^ exponent`. -/
def Notation.write (n : Notation) (number : Scaled) : List Char :=
  let lead := number.exponent + digitCount number.digits - 1
  let digits := significantDigits number.digits
  if n.firstPlain ≤ lead && lead < n.firstLarge then plainText digits lead
  else scientificText digits lead

/-- The text of a float, given by its bits. The sign shows on every float but those that are no
number. -/
def floatText (bits : UInt64) : String :=
  let sign := if signBit bits then "-" else ""
  match magnitude bits with
  | .notANumber => "NaN"
  | .infinite => sign ++ "inf"
  | .finite b =>
    match b.shortest? with
    | none => sign ++ "0.0"
    | some number => sign ++ String.ofList (floatNotation.write number)

end RuntimeTypes.Decimal

namespace RuntimeTypes

/-! ## Values -/

namespace InstanceId

/-- An identity number as it follows the class or kind of its instance. -/
def render (id : InstanceId) : String :=
  "#" ++ id.number.toNat.repr

def renderLong (id : InstanceId) : String :=
  "InstanceId(" ++ id.number.toNat.repr ++ ")"

end InstanceId

/-- A key as it shows in an array: integers plainly, texts quoted. -/
def Key.render : Key → String
  | .int n => n.toInt.repr
  | .text s => Text.quote s

def Object.render (o : Object) : String :=
  "Object(" ++ o.className.text ++ o.id.render ++ ")"

def Resource.render (r : Resource) : String :=
  "Resource(" ++ r.kind.text ++ r.id.render ++ ")"

/-- The length of an array, as it stands before its entries. -/
def arrayHeading (entries : List (Key × Value)) : String :=
  "array(" ++ entries.length.repr ++ ")"

namespace Value

/-- The text of a value, with the entries of an array written by `array`. -/
def renderWith (array : ArrayRef → String) : Value → String
  | .null => "null"
  | .bool b => if b then "true" else "false"
  | .int n => n.toInt.repr
  | .float bits => Decimal.floatText bits
  | .string s => Text.quote s
  | .array a => array a
  | .object o => o.render
  | .resource r => r.render

/-- The text of a value among the entries of an array: an array shows its length alone. -/
def summary (h : Heap) (v : Value) : String :=
  v.renderWith fun a => arrayHeading (h.entries a)

/-- The text of a value: an array shows one level of entries. -/
def render (h : Heap) (v : Value) : String :=
  v.renderWith fun a =>
    let entry : Key × Value → String := fun e => e.1.render ++ " => " ++ e.2.summary h
    arrayHeading (h.entries a) ++ " [" ++ ", ".intercalate ((h.entries a).map entry) ++ "]"

end Value

end RuntimeTypes
