/-!
Bytes and characters. Bytes that are no UTF-8 are decoded to replacement characters: one for each
byte that starts no character, and one for the longest start of a character that breaks off.
-/

namespace PathRouter.Text.Utf8

def encode (s : List Char) : List UInt8 := s.flatMap String.utf8EncodeChar

def replacement : Char := '\uFFFD'

/-- A character of which `missing` bytes are still to come. The next of them lies between two
bounds; the ones after it only have to be continuation bytes. -/
structure Pending where
  missing : Nat
  least : Nat
  most : Nat
  /-- The bits read so far. -/
  bits : Nat

/-- What the first byte of a character tells. -/
inductive Lead where
  | whole (c : Char)
  | opening (p : Pending)
  | invalid

/-- The bounds of the second byte shut out characters written longer than they need be, surrogates,
and code points that are too large. -/
def lead (b : Nat) : Lead :=
  if b < 0x80 then .whole (Char.ofNat b)
  else if b < 0xC2 then .invalid
  else if b < 0xE0 then .opening ⟨1, 0x80, 0xBF, b - 0xC0⟩
  else if b = 0xE0 then .opening ⟨2, 0xA0, 0xBF, 0⟩
  else if b = 0xED then .opening ⟨2, 0x80, 0x9F, 0xD⟩
  else if b < 0xF0 then .opening ⟨2, 0x80, 0xBF, b - 0xE0⟩
  else if b = 0xF0 then .opening ⟨3, 0x90, 0xBF, 0⟩
  else if b < 0xF4 then .opening ⟨3, 0x80, 0xBF, b - 0xF0⟩
  else if b = 0xF4 then .opening ⟨3, 0x80, 0x8F, 4⟩
  else .invalid

/-- Decodes a byte between characters. -/
def decodeLead (b : Nat) : List Char × Option Pending :=
  match lead b with
  | .whole c => ([c], none)
  | .opening p => ([], some p)
  | .invalid => ([replacement], none)

/-- Decodes one byte: the characters that it completes, and the one that it leaves open. -/
def decodeByte (pending : Option Pending) (b : Nat) : List Char × Option Pending :=
  match pending with
  | none => decodeLead b
  | some p =>
      if p.least ≤ b && b ≤ p.most then
        let bits := 64 * p.bits + (b - 0x80)
        if p.missing ≤ 1 then ([Char.ofNat bits], none)
        else ([], some ⟨p.missing - 1, 0x80, 0xBF, bits⟩)
      else
        let (cs, next) := decodeLead b
        (replacement :: cs, next)

def decodeFrom (pending : Option Pending) : List UInt8 → List Char
  | [] => if pending.isSome then [replacement] else []
  | b :: rest =>
      let (cs, next) := decodeByte pending b.toNat
      cs ++ decodeFrom next rest

def decode (bytes : List UInt8) : List Char := decodeFrom none bytes

end PathRouter.Text.Utf8
