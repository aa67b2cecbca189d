import SchemaDesk.Text.Digit

/-!
# Quoted strings

The string syntax of JSON: a text between double quotes, in which a backslash
introduces an escape. Two styles of writing differ only in the characters that
stand for themselves: everything printable in ASCII, or everything but the
control characters. Reading accepts every escape of the syntax and refuses raw
control characters and surrogates that have no partner.
-/

namespace SchemaDesk.Text.Quoted

/-- A style says which characters stand for themselves when no short escape exists. -/
structure Style where
  plain : Char → Bool

/-- Only printable ASCII stands for itself. -/
def Style.ascii : Style where
  plain c := 32 ≤ c.toNat && c.toNat ≤ 126

/-- Everything but the control characters below the space stands for itself. -/
def Style.document : Style where
  plain c := 32 ≤ c.toNat

/-- The escape of one sixteen-bit unit. -/
def unitEscape (unit : Nat) : List Char :=
  '\\' :: 'u' :: hex 4 unit

/-- The escape of a character by its units; a character above U+FFFF takes two. -/
def codeEscape (c : Char) : List Char :=
  let n := c.toNat
  if n < 0x10000 then unitEscape n
  else unitEscape (0xd800 + (n - 0x10000) / 0x400) ++ unitEscape (0xdc00 + (n - 0x10000) % 0x400)

/-- The written form of one character inside the quotes. -/
def writeChar (style : Style) (c : Char) : List Char :=
  if c = '"' then ['\\', '"']
  else if c = '\\' then ['\\', '\\']
  else if c = '\n' then ['\\', 'n']
  else if c = '\r' then ['\\', 'r']
  else if c = '\t' then ['\\', 't']
  else if c = '\x08' then ['\\', 'b']
  else if c = '\x0c' then ['\\', 'f']
  else if style.plain c then [c]
  else codeEscape c

/-- The written form of a code point. A surrogate is no character; it is written by its escape. -/
def writePoint (style : Style) (point : Nat) : List Char :=
  if point.isValidChar then writeChar style (Char.ofNat point) else unitEscape point

/-- The code points between double quotes. -/
def writePoints (style : Style) (points : List Nat) : List Char :=
  '"' :: points.flatMap (writePoint style) ++ ['"']

/-- The text between double quotes. -/
def write (style : Style) (text : List Char) : List Char :=
  writePoints style (text.map Char.toNat)

/-- A text has no surrogates, so each of its characters has its own written form. -/
theorem write_eq (style : Style) (text : List Char) :
    write style text = '"' :: text.flatMap (writeChar style) ++ ['"'] := by
  have point (c : Char) : writePoint style c.toNat = writeChar style c := by
    have valid : c.toNat.isValidChar := c.valid
    rw [writePoint, if_pos valid, Char.ofNat_toNat]
  rw [write, writePoints, List.flatMap_map, funext point]

/-- The character of a short escape. -/
def shortEscape? (c : Char) : Option Char :=
  if c = '"' then some '"'
  else if c = '\\' then some '\\'
  else if c = '/' then some '/'
  else if c = 'b' then some '\x08'
  else if c = 'f' then some '\x0c'
  else if c = 'n' then some '\n'
  else if c = 'r' then some '\r'
  else if c = 't' then some '\t'
  else none

/-- The unit opens a surrogate pair. -/
def isHighSurrogate (unit : Nat) : Bool :=
  0xd800 ≤ unit && unit < 0xdc00

/-- The unit closes a surrogate pair. -/
def isLowSurrogate (unit : Nat) : Bool :=
  0xdc00 ≤ unit && unit < 0xe000

/-- The character of a surrogate pair. -/
def pairChar (high low : Nat) : Char :=
  Char.ofNat (0x10000 + (high - 0xd800) * 0x400 + (low - 0xdc00))

/-- Reads the characters up to the closing quote, and what follows that quote. -/
def readRest : List Char → Option (List Char × List Char)
  | [] => none
  | c :: rest =>
    if c = '"' then some ([], rest)
    else if c = '\\' then
      match rest with
      | [] => none
      | e :: rest =>
        if e = 'u' then
          match rest with
          | a :: b :: c :: d :: rest =>
            match hexUnit? a b c d with
            | none => none
            | some unit =>
              if isHighSurrogate unit then
                match rest with
                | backslash :: u :: a :: b :: c :: d :: rest =>
                  if backslash = '\\' ∧ u = 'u' then
                    match hexUnit? a b c d with
                    | none => none
                    | some low =>
                      if isLowSurrogate low then
                        match readRest rest with
                        | none => none
                        | some (text, after) => some (pairChar unit low :: text, after)
                      else none
                  else none
                | _ => none
              else if isLowSurrogate unit then none
              else
                match readRest rest with
                | none => none
                | some (text, after) => some (Char.ofNat unit :: text, after)
          | _ => none
        else
          match shortEscape? e with
          | none => none
          | some short =>
            match readRest rest with
            | none => none
            | some (text, after) => some (short :: text, after)
    else if c.toNat < 32 then none
    else
      match readRest rest with
      | none => none
      | some (text, after) => some (c :: text, after)

/-- Reads a quoted string, and what follows it. -/
def read : List Char → Option (List Char × List Char)
  | [] => none
  | c :: rest => if c = '"' then readRest rest else none

end SchemaDesk.Text.Quoted
