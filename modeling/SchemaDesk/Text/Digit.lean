/-!
# Digits

Decimal digits are the characters of the Unicode category "number, decimal
digit". They come in runs of ten, one run per script, so the zeros determine
the class. Hexadecimal numerals are lower-case and of a fixed width, and their
digits are read in either case.
-/

namespace SchemaDesk.Text

/-! ## Decimal digits -/

/-- The zero of every script that writes decimal digits. -/
def decimalZeros : List Nat :=
  [48, 0x660, 0x6f0, 0x7c0, 0x966, 0x9e6, 0xa66, 0xae6, 0xb66, 0xbe6, 0xc66, 0xce6, 0xd66, 0xde6,
   0xe50, 0xed0, 0xf20, 0x1040, 0x1090, 0x17e0, 0x1810, 0x1946, 0x19d0, 0x1a80, 0x1a90, 0x1b50,
   0x1bb0, 0x1c40, 0x1c50, 0xa620, 0xa8d0, 0xa900, 0xa9d0, 0xa9f0, 0xaa50, 0xabf0, 0xff10,
   0x104a0, 0x10d30, 0x11066, 0x110f0, 0x11136, 0x111d0, 0x112f0, 0x11450, 0x114d0, 0x11650,
   0x116c0, 0x11730, 0x118e0, 0x11950, 0x11c50, 0x11d50, 0x11da0, 0x16a60, 0x16ac0, 0x16b50,
   0x1d7ce, 0x1d7d8, 0x1d7e2, 0x1d7ec, 0x1d7f6, 0x1e140, 0x1e2f0, 0x1e950, 0x1fbf0]

/-- A decimal digit lies in the run of ten that some script's zero opens. -/
def isDecimalDigit (c : Char) : Bool :=
  decimalZeros.any fun start => start ≤ c.toNat && c.toNat < start + 10

/-- The ASCII digits are decimal digits. -/
theorem isDecimalDigit_of_isDigit (c : Char) (digit : c.isDigit = true) :
    isDecimalDigit c = true := by
  simp only [Char.isDigit, Bool.and_eq_true, decide_eq_true_eq] at digit
  have low : 48 ≤ c.toNat := digit.1
  have high : c.toNat ≤ 57 := digit.2
  have run : (48 ≤ c.toNat && c.toNat < 48 + 10) = true := by
    simp only [Bool.and_eq_true, decide_eq_true_eq]; omega
  simp only [isDecimalDigit, List.any_eq_true]
  exact ⟨48, by decide, run⟩

/-! ## Hexadecimal digits -/

/-- The lower-case digit of a number below sixteen. -/
def hexDigit (n : Nat) : Char :=
  Nat.digitChar n

/-- The last `width` hexadecimal digits of a number. -/
def hex : Nat → Nat → List Char
  | 0, _ => []
  | width + 1, n => hex width (n / 16) ++ [hexDigit (n % 16)]

/-- The value of a hexadecimal digit in either case. -/
def hexValue? (c : Char) : Option Nat :=
  let n := c.toNat
  if 48 ≤ n ∧ n ≤ 57 then some (n - 48)
  else if 97 ≤ n ∧ n ≤ 102 then some (n - 87)
  else if 65 ≤ n ∧ n ≤ 70 then some (n - 55)
  else none

/-- The value of four hexadecimal digits. -/
def hexUnit? (a b c d : Char) : Option Nat := do
  let a ← hexValue? a
  let b ← hexValue? b
  let c ← hexValue? c
  let d ← hexValue? d
  some (((a * 16 + b) * 16 + c) * 16 + d)

/-- Every digit that is written is read back. -/
theorem hexValue?_hexDigit (n : Nat) (small : n < 16) : hexValue? (hexDigit n) = some n := by
  have all : ∀ m : Fin 16, hexValue? (hexDigit m.val) = some m.val := by decide
  exact all ⟨n, small⟩

/-- What holds of each of the sixteen digits holds of every digit of a numeral. -/
theorem forall_mem_hex {P : Char → Prop} (digit : ∀ m : Fin 16, P (hexDigit m.val))
    (width n : Nat) : ∀ c ∈ hex width n, P c := by
  induction width generalizing n with
  | zero => exact fun c inside => absurd inside List.not_mem_nil
  | succ width ih =>
    rw [hex, List.forall_mem_append, List.forall_mem_singleton]
    exact ⟨ih _, digit ⟨n % 16, Nat.mod_lt n (by decide)⟩⟩

end SchemaDesk.Text
