import SchemaDesk.Number.Binary64

/-!
# Shortest decimals

The decimal numeral with the fewest digits that still denotes a given
floating-point number; of several, the one nearest to the number, and of two
equally near the even one. Every numeral that is produced has been read back.
-/

namespace SchemaDesk.Number

/-- The decimal numeral `digits * 10 ^ exponent`. -/
structure Decimal where
  digits : Nat
  exponent : Int
deriving DecidableEq, Repr

/-- The magnitude as a quotient of whole numbers, after division by `10 ^ exponent`. -/
def Magnitude.scaled (magnitude : Magnitude) (exponent : Int) : Nat × Nat :=
  if exponent ≥ 0 then (magnitude.units, unitsInOne * Nat.pow 10 exponent.toNat)
  else (magnitude.units * Nat.pow 10 (-exponent).toNat, unitsInOne)

/-- The decimal numeral that equals the magnitude exactly. -/
def Magnitude.exactDecimal (magnitude : Magnitude) : Decimal :=
  if magnitude.shift ≥ 1074 then ⟨magnitude.mantissa * Nat.pow 2 (magnitude.shift - 1074), 0⟩
  else
    ⟨magnitude.mantissa * Nat.pow 5 (1074 - magnitude.shift),
      Int.negSucc (1073 - magnitude.shift)⟩

/-- The exponent of the leading decimal digit of a magnitude other than zero. -/
def Magnitude.leadingExponent (magnitude : Magnitude) : Int :=
  (Nat.toDigits 10 (magnitude.units * Nat.pow 10 400 / unitsInOne)).length - 401

/-- The numeral denotes the magnitude. -/
def Magnitude.denotedBy (magnitude : Magnitude) (decimal : Decimal) : Bool :=
  Magnitude.ofDecimal? decimal.digits decimal.exponent == some magnitude

/-- Of the two neighbours of the magnitude on a decimal grid, the better one that denotes it. -/
def Magnitude.onGrid? (magnitude : Magnitude) (exponent : Int) : Option Decimal :=
  let (num, den) := magnitude.scaled exponent
  let below : Decimal := ⟨num / den, exponent⟩
  let above : Decimal := ⟨num / den + 1, exponent⟩
  let nearer := roundHalfEven num den
  match magnitude.denotedBy below, magnitude.denotedBy above with
  | true, true => some ⟨nearer, exponent⟩
  | true, false => some below
  | false, true => some above
  | false, false => none

/-- The first of the grids with the given digit counts that holds a numeral for the magnitude. -/
def Magnitude.firstOnGrids (magnitude : Magnitude) (leading : Int) : List Nat → Option Decimal
  | [] => none
  | count :: counts =>
    match magnitude.onGrid? (leading - count + 1) with
    | some decimal => some decimal
    | none => magnitude.firstOnGrids leading counts

/-- The numeral without the zeros it ends with. -/
def Decimal.trim (decimal : Decimal) : Decimal :=
  let text := (Nat.toDigits 10 decimal.digits).reverse
  let count := (text.takeWhile (· == '0')).length
  ⟨decimal.digits / Nat.pow 10 count, decimal.exponent + count⟩

/-- The shortest numeral that denotes the magnitude. Seventeen digits always suffice; the exact
numeral stands behind them. -/
def Magnitude.shortest (magnitude : Magnitude) : Decimal :=
  if magnitude.units = 0 then ⟨0, 0⟩
  else
    let found := magnitude.firstOnGrids magnitude.leadingExponent ((List.range 17).map (· + 1))
    (found.getD magnitude.exactDecimal).trim

end SchemaDesk.Number
