import PathRouter.Proofs.Text.Utf8
import PathRouter.Text.Percent

/-!
Texts that are written with percent-encoding. A text has many codes: any character may be written
as its bytes, in either case of the digits, and some characters have to be. What all of them have
in common is that they are read as the same bytes, and so as the same text.
-/

namespace PathRouter.Text.Percent

/-- The character is the hexadecimal digit of the number, in either case. -/
def IsDigit (n : Nat) (c : Char) : Prop := c = Nat.digitChar n ∨ c = (Nat.digitChar n).toUpper

instance (n : Nat) (c : Char) : Decidable (IsDigit n c) :=
  inferInstanceAs (Decidable (_ ∨ _))

/-- The text has a percent sign and two digits for each byte. -/
inductive Escapes : List UInt8 → List Char → Prop where
  | nil : Escapes [] []
  | cons {bytes code} (b : UInt8) (high low : Char) (hhigh : IsDigit (b.toNat / 16) high)
      (hlow : IsDigit (b.toNat % 16) low) (h : Escapes bytes code) :
      Escapes (b :: bytes) ('%' :: high :: low :: code)

/-- The second text is a code of the first: each character stands for itself or is escaped. A
percent sign is always escaped, and so are the reserved characters. -/
inductive Encodes (reserved : Char → Prop) : List Char → List Char → Prop where
  | nil : Encodes reserved [] []
  | plain {cs code} (c : Char) (hpercent : c ≠ '%') (hreserved : ¬ reserved c)
      (h : Encodes reserved cs code) : Encodes reserved (c :: cs) (c :: code)
  | escaped {cs code} (c : Char) (escape : List Char)
      (hescape : Escapes (String.utf8EncodeChar c) escape) (h : Encodes reserved cs code) :
      Encodes reserved (c :: cs) (escape ++ code)

/-! ### Reading a code -/

section Reading

variable {n : Nat} {c : Char}

theorem digitValue?_of_isDigit (hn : n < 16) (h : IsDigit n c) : digitValue? 16 c = some n := by
  have hdigits : ∀ n < 16, digitValue? 16 (Nat.digitChar n) = some n ∧
      digitValue? 16 (Nat.digitChar n).toUpper = some n := by decide
  rcases h with rfl | rfl
  · exact (hdigits n hn).1
  · exact (hdigits n hn).2

theorem byteOf?_of_isDigit {b : UInt8} {high low : Char} (hhigh : IsDigit (b.toNat / 16) high)
    (hlow : IsDigit (b.toNat % 16) low) : byteOf? high low = some b := by
  have hb : b.toNat < 256 := b.toNat_lt
  rw [byteOf?, digitValue?_of_isDigit (by omega) hhigh, digitValue?_of_isDigit (by omega) hlow]
  show some (UInt8.ofNat (16 * (b.toNat / 16) + b.toNat % 16)) = some b
  rw [Nat.div_add_mod, UInt8.ofNat_toNat]

theorem decodeBytes_plain (hpercent : c ≠ '%') (code : List Char) :
    decodeBytes (c :: code) = String.utf8EncodeChar c ++ decodeBytes code :=
  decodeBytes.eq_3 c code fun _ _ _ hc => absurd hc hpercent

theorem decodeBytes_escapes {bytes : List UInt8} {escape : List Char} (h : Escapes bytes escape)
    (code : List Char) : decodeBytes (escape ++ code) = bytes ++ decodeBytes code := by
  induction h with
  | nil => rfl
  | cons b high low hhigh hlow _ ih =>
      simp only [List.cons_append, decodeBytes, byteOf?_of_isDigit hhigh hlow, ih]

variable {reserved : Char → Prop} {cs code : List Char}

theorem decodeBytes_encodes (h : Encodes reserved cs code) : decodeBytes code = Utf8.encode cs := by
  induction h with
  | nil => rfl
  | plain c hpercent _ _ ih => rw [decodeBytes_plain hpercent, ih, Utf8.encode_cons]
  | escaped c escape hescape _ ih => rw [decodeBytes_escapes hescape, ih, Utf8.encode_cons]

/-- All codes of a text are decoded to it. -/
theorem decode_encodes {text code : String} (h : Encodes reserved text.toList code.toList) :
    decode code = text := by
  rw [decode, decodeBytes_encodes h, Utf8.decode_encode, String.ofList_toList]

end Reading

/-! ### Reserved characters -/

section Reserved

variable {reserved : Char → Prop} {cs code : List Char}

theorem slash_not_mem_of_escapes {bytes : List UInt8} {escape : List Char}
    (h : Escapes bytes escape) : '/' ∉ escape := by
  have hdigits : ∀ n < 16, ¬ IsDigit n '/' := by decide
  induction h with
  | nil => exact List.not_mem_nil
  | cons b high low hhigh hlow _ ih =>
      have hb : b.toNat < 256 := b.toNat_lt
      have hhigh_ne : '/' ≠ high := by
        rintro rfl
        exact hdigits _ (by omega) hhigh
      have hlow_ne : '/' ≠ low := by
        rintro rfl
        exact hdigits _ (by omega) hlow
      simp [hhigh_ne, hlow_ne, ih]

/-- A slash in the text does not show in a code for which it is reserved. -/
theorem slash_not_mem_of_encodes (h : Encodes (· = '/') cs code) : '/' ∉ code := by
  induction h with
  | nil => exact List.not_mem_nil
  | plain c _ hreserved _ ih => simp [Ne.symm hreserved, ih]
  | escaped c escape hescape _ ih => simp [slash_not_mem_of_escapes hescape, ih]

theorem ne_nil_of_encodes (h : Encodes reserved cs code) (hne : cs ≠ []) : code ≠ [] := by
  cases h with
  | nil => contradiction
  | plain => exact List.cons_ne_nil _ _
  | escaped c escape hescape =>
      have hbytes : String.utf8EncodeChar c ≠ [] := String.utf8EncodeChar_ne_nil
      generalize String.utf8EncodeChar c = bytes at hescape hbytes
      cases hescape with
      | nil => contradiction
      | cons => simp

end Reserved

end PathRouter.Text.Percent
