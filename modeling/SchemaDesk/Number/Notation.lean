import SchemaDesk.Number.Shortest

/-!
# Decimal notation

How a number is written. Whole numbers are written in full. A floating-point
number is written by its shortest numeral, with a point and at least one digit
on either side of it, or, outside a range of magnitudes, with one digit before
the point and an exponent. Shown texts and saved files have a layout each.
-/

namespace SchemaDesk.Number

/-- The digits of a natural number. -/
def natText (n : Nat) : List Char :=
  Nat.toDigits 10 n

/-- The digits of a whole number, after its sign if it is negative. -/
def intText (n : Int) : List Char :=
  if n < 0 then '-' :: natText n.natAbs else natText n.natAbs

/-- The most digits with which a whole number is written in a document; its sign is none of them. -/
def digitLimit : Nat := 4300

/-- A whole number has few enough digits to be written in a document. -/
def isWritable (n : Int) : Bool :=
  (natText n.natAbs).length ≤ digitLimit

/-- A layout says which leading exponents are written without an exponent, and how many digits an
exponent has at least. -/
structure Layout where
  leastPositional : Int
  exponentWidth : Nat
deriving DecidableEq, Repr

/-- Numbers from 0.0001 up are shown without an exponent, and an exponent has two digits. -/
def Layout.shown : Layout := ⟨-4, 2⟩

/-- Numbers from 0.00001 up are saved without an exponent, and an exponent is as short as it is. -/
def Layout.saved : Layout := ⟨-5, 1⟩

/-- The leading exponent from which on every layout writes an exponent. -/
def positionalLimit : Int := 16

/-- The numeral with a point at its place. -/
def positionalText (digits : List Char) (exponent : Int) : List Char :=
  let place := digits.length + exponent
  if place ≤ 0 then ['0', '.'] ++ List.replicate (-place).toNat '0' ++ digits
  else if exponent ≥ 0 then digits ++ List.replicate exponent.toNat '0' ++ ['.', '0']
  else digits.take place.toNat ++ '.' :: digits.drop place.toNat

/-- The exponent with its sign, filled with zeros up to the given width. -/
def exponentText (width : Nat) (exponent : Int) : List Char :=
  let digits := natText exponent.natAbs
  (if exponent < 0 then '-' else '+') ::
    (List.replicate (width - digits.length) '0' ++ digits)

/-- The numeral with one digit before the point and an exponent. -/
def scientificText (width : Nat) (digits : List Char) (leading : Int) : List Char :=
  let fraction :=
    match digits.drop 1 with
    | [] => []
    | more => '.' :: more
  digits.take 1 ++ fraction ++ 'e' :: exponentText width leading

/-- The written form of a decimal numeral. -/
def decimalText (layout : Layout) (decimal : Decimal) : List Char :=
  let digits := natText decimal.digits
  let leading := digits.length - 1 + decimal.exponent
  if layout.leastPositional ≤ leading ∧ leading < positionalLimit then
    positionalText digits decimal.exponent
  else scientificText layout.exponentWidth digits leading

/-- The written form of a finite number. -/
def finiteText (layout : Layout) (negative : Bool) (magnitude : Magnitude) : List Char :=
  let text := decimalText layout magnitude.shortest
  if negative then '-' :: text else text

/-- The text that shows a number. -/
def shownText : Binary64 → List Char
  | .finite negative magnitude => finiteText .shown negative magnitude
  | .infinite negative => if negative then "-inf".toList else "inf".toList
  | .nan => "nan".toList

end SchemaDesk.Number
