import PathRouter.Text.Digits
import PathRouter.Text.Utf8

/-!
Percent-encoding: a percent sign and two hexadecimal digits stand for a byte. A percent sign that
is not followed by two digits stands for itself.
-/

namespace PathRouter.Text.Percent

/-- The byte that two hexadecimal digits stand for. -/
def byteOf? (high low : Char) : Option UInt8 := do
  let h ← digitValue? 16 high
  let l ← digitValue? 16 low
  some (UInt8.ofNat (16 * h + l))

def decodeBytes : List Char → List UInt8
  | [] => []
  | '%' :: high :: low :: rest =>
      match byteOf? high low with
      | some b => b :: decodeBytes rest
      | none => String.utf8EncodeChar '%' ++ decodeBytes (high :: low :: rest)
  | c :: rest => String.utf8EncodeChar c ++ decodeBytes rest

/-- The text that an encoded text stands for; its bytes are read as UTF-8. -/
def decode (s : String) : String := String.ofList (Utf8.decode (decodeBytes s.toList))

end PathRouter.Text.Percent
