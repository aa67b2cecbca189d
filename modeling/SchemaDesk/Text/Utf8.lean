import SchemaDesk.Text.Digit

/-!
# UTF-8

Texts as sequences of bytes. Decoding stops at the first sequence that no
character has, and says where it lies, how long it is and what is wrong with
it: the first byte cannot open a character, a later byte cannot continue it, or
the bytes end too early.
-/

namespace SchemaDesk.Text.Utf8

/-- The bytes of one character. -/
def encodeChar (c : Char) : List UInt8 :=
  let n := c.toNat
  if n < 0x80 then [n.toUInt8]
  else if n < 0x800 then [(0xc0 + n / 0x40).toUInt8, (0x80 + n % 0x40).toUInt8]
  else if n < 0x10000 then
    [(0xe0 + n / 0x1000).toUInt8, (0x80 + n / 0x40 % 0x40).toUInt8, (0x80 + n % 0x40).toUInt8]
  else
    [(0xf0 + n / 0x40000).toUInt8, (0x80 + n / 0x1000 % 0x40).toUInt8,
      (0x80 + n / 0x40 % 0x40).toUInt8, (0x80 + n % 0x40).toUInt8]

/-- The bytes of a text. -/
def encode (text : List Char) : List UInt8 :=
  text.flatMap encodeChar

/-- What is wrong with a sequence of bytes. -/
inductive Fault where
  | invalidStart
  | invalidContinuation
  | unexpectedEnd
deriving DecidableEq, Repr

/-- The wording of a fault. -/
def Fault.message : Fault → String
  | .invalidStart => "invalid start byte"
  | .invalidContinuation => "invalid continuation byte"
  | .unexpectedEnd => "unexpected end of data"

/-- The first sequence that cannot be decoded: its first byte, its position, its length and what
is wrong with it. -/
structure Malformed where
  byte : UInt8
  position : Nat
  length : Nat
  fault : Fault
deriving DecidableEq, Repr

/-- A single byte is shown with its value, several by the positions of the first and the last. -/
def Malformed.message (malformed : Malformed) : String :=
  let place :=
    if malformed.length = 1 then
      "byte 0x" ++ String.ofList (hex 2 malformed.byte.toNat) ++ " in position " ++
        toString malformed.position
    else
      "bytes in position " ++ toString malformed.position ++ "-" ++
        toString (malformed.position + malformed.length - 1)
  "'utf-8' codec can't decode " ++ place ++ ": " ++ malformed.fault.message

/-- The lead bytes by the length of their sequence, with the range of the second byte. -/
def leadRange? (lead : Nat) : Option (Nat × Nat × Nat) :=
  if lead < 0xc2 then none
  else if lead < 0xe0 then some (2, 0x80, 0xbf)
  else if lead = 0xe0 then some (3, 0xa0, 0xbf)
  else if lead = 0xed then some (3, 0x80, 0x9f)
  else if lead < 0xf0 then some (3, 0x80, 0xbf)
  else if lead = 0xf0 then some (4, 0x90, 0xbf)
  else if lead < 0xf4 then some (4, 0x80, 0xbf)
  else if lead = 0xf4 then some (4, 0x80, 0x8f)
  else none

/-- The byte may stand at the third or fourth place of a sequence. -/
def isContinuation (byte : UInt8) : Bool :=
  0x80 ≤ byte.toNat && byte.toNat ≤ 0xbf

/-- Decodes bytes that begin at the given position. -/
def decodeFrom (position : Nat) : List UInt8 → Except Malformed (List Char)
  | [] => .ok []
  | a :: rest =>
    if a.toNat < 0x80 then (Char.ofNat a.toNat :: ·) <$> decodeFrom (position + 1) rest
    else
      match leadRange? a.toNat with
      | none => .error ⟨a, position, 1, .invalidStart⟩
      | some (width, low, high) =>
        match rest with
        | [] => .error ⟨a, position, 1, .unexpectedEnd⟩
        | b :: rest =>
          if b.toNat < low ∨ high < b.toNat then .error ⟨a, position, 1, .invalidContinuation⟩
          else if width = 2 then
            (Char.ofNat ((a.toNat - 0xc0) * 0x40 + (b.toNat - 0x80)) :: ·) <$>
              decodeFrom (position + 2) rest
          else
            match rest with
            | [] => .error ⟨a, position, 2, .unexpectedEnd⟩
            | c :: rest =>
              if !isContinuation c then .error ⟨a, position, 2, .invalidContinuation⟩
              else if width = 3 then
                (Char.ofNat (((a.toNat - 0xe0) * 0x40 + (b.toNat - 0x80)) * 0x40 +
                  (c.toNat - 0x80)) :: ·) <$> decodeFrom (position + 3) rest
              else
                match rest with
                | [] => .error ⟨a, position, 3, .unexpectedEnd⟩
                | d :: rest =>
                  if !isContinuation d then .error ⟨a, position, 3, .invalidContinuation⟩
                  else
                    (Char.ofNat ((((a.toNat - 0xf0) * 0x40 + (b.toNat - 0x80)) * 0x40 +
                      (c.toNat - 0x80)) * 0x40 + (d.toNat - 0x80)) :: ·) <$>
                      decodeFrom (position + 4) rest

/-- Decodes a whole sequence of bytes. -/
def decode (bytes : List UInt8) : Except Malformed (List Char) :=
  decodeFrom 0 bytes

end SchemaDesk.Text.Utf8
