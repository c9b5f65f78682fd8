import Mathlib
import PathRouter.Text.Utf8

/-!
Characters are read back from their bytes. The bytes after the first of a character are read one at
a time, so what is followed through them is which number the character still open is going to be:
the bits that were read are the front of that number, and the next byte lies within the bounds that
the first byte has set.
-/

namespace PathRouter.Text.Utf8

/-- The last bytes of a character of more than one byte, each with six of its bits. -/
def trail : Nat → Nat → List UInt8
  | 0, _ => []
  | k + 1, v => UInt8.ofNat (v / 64 ^ k % 64 + 0x80) :: trail k v

theorem encode_cons (c : Char) (s : List Char) :
    encode (c :: s) = String.utf8EncodeChar c ++ encode s := List.flatMap_cons

/-! ### Reading a byte -/

section Reading

variable {b : UInt8} {c : Char} {p : Pending} (rest : List UInt8)

theorem decodeFrom_whole (h : lead b.toNat = .whole c) :
    decodeFrom none (b :: rest) = c :: decodeFrom none rest := by
  simp [decodeFrom, decodeByte, decodeLead, h]

theorem decodeFrom_opening (h : lead b.toNat = .opening p) :
    decodeFrom none (b :: rest) = decodeFrom (some p) rest := by
  simp [decodeFrom, decodeByte, decodeLead, h]

theorem decodeFrom_last (hbounds : p.least ≤ b.toNat ∧ b.toNat ≤ p.most) (h : p.missing = 1) :
    decodeFrom (some p) (b :: rest) =
      Char.ofNat (64 * p.bits + (b.toNat - 0x80)) :: decodeFrom none rest := by
  simp [decodeFrom, decodeByte, hbounds, h]

theorem decodeFrom_next (hbounds : p.least ≤ b.toNat ∧ b.toNat ≤ p.most) (h : 1 < p.missing) :
    decodeFrom (some p) (b :: rest) =
      decodeFrom (some ⟨p.missing - 1, 0x80, 0xBF, 64 * p.bits + (b.toNat - 0x80)⟩) rest := by
  simp [decodeFrom, decodeByte, hbounds, Nat.not_le.2 h]

end Reading

/-! ### The bytes after the first -/

/-- The character that is open is going to be the one of the number. -/
structure Pending.Expects (p : Pending) (v : Nat) : Prop where
  missing : 0 < p.missing
  bits : p.bits = v / 64 ^ p.missing
  least : p.least ≤ v / 64 ^ (p.missing - 1) % 64 + 0x80
  most : v / 64 ^ (p.missing - 1) % 64 + 0x80 ≤ p.most

theorem decodeFrom_trail {p : Pending} {v : Nat} (h : p.Expects v) (rest : List UInt8) :
    decodeFrom (some p) (trail p.missing v ++ rest) = Char.ofNat v :: decodeFrom none rest := by
  obtain ⟨missing, least, most, bits⟩ := p
  induction missing generalizing least most bits with
  | zero => exact absurd h.missing (Nat.lt_irrefl 0)
  | succ k ih =>
      obtain ⟨-, hbits, hleast, hmost⟩ := h
      simp only [Nat.add_sub_cancel] at hbits hleast hmost
      have hbyte : (UInt8.ofNat (v / 64 ^ k % 64 + 0x80)).toNat = v / 64 ^ k % 64 + 0x80 := by
        rw [UInt8.toNat_ofNat']
        omega
      have hread : 64 * bits + (v / 64 ^ k % 64 + 0x80 - 0x80) = v / 64 ^ k := by
        rw [hbits, Nat.pow_succ, ← Nat.div_div_eq_div_mul]
        omega
      rw [trail, List.cons_append]
      cases k with
      | zero =>
          rw [decodeFrom_last _ (by rw [hbyte]; exact ⟨hleast, hmost⟩) rfl, hbyte, hread]
          simp [trail]
      | succ k =>
          rw [decodeFrom_next _ (by rw [hbyte]; exact ⟨hleast, hmost⟩) (by simp), hbyte, hread]
          -- After the second byte any continuation byte may come.
          have hleast : 0x80 ≤ v / 64 ^ k % 64 + 0x80 := Nat.le_add_left ..
          have hmost : v / 64 ^ k % 64 + 0x80 ≤ 0xBF := by omega
          exact ih 0x80 0xBF _ ⟨Nat.succ_pos k, rfl, hleast, hmost⟩

/-! ### The first byte -/

/-- The byte opens a character of the number with so many bytes to come. -/
def Opens (b missing v : Nat) : Prop := ∃ p, lead b = .opening p ∧ p.missing = missing ∧ p.Expects v

theorem decodeFrom_opens {b missing v : Nat} (hb : b < 256) (h : Opens b missing v)
    (rest : List UInt8) :
    decodeFrom none (UInt8.ofNat b :: trail missing v ++ rest) =
      Char.ofNat v :: decodeFrom none rest := by
  obtain ⟨p, hlead, rfl, hexpects⟩ := h
  have hbyte : (UInt8.ofNat b).toNat = b := by
    rw [UInt8.toNat_ofNat']
    omega
  rw [List.cons_append, decodeFrom_opening _ (by rw [hbyte]; exact hlead),
    decodeFrom_trail hexpects]

theorem lead_whole {v : Nat} (h : v ≤ 0x7F) : lead v = .whole (Char.ofNat v) :=
  if_pos (by omega)

theorem opens_of_lead {b k v least most : Nat}
    (hlead : lead b = .opening ⟨k + 1, least, most, v / 64 ^ (k + 1)⟩)
    (hleast : least ≤ v / 64 ^ k % 64 + 0x80) (hmost : v / 64 ^ k % 64 + 0x80 ≤ most) :
    Opens b (k + 1) v :=
  ⟨_, hlead, rfl, ⟨Nat.succ_pos k, rfl, hleast, hmost⟩⟩

theorem opens_two {v : Nat} (hleast : 0x7F < v) (hmost : v ≤ 0x7FF) :
    Opens (v / 64 % 0x20 + 0xC0) 1 v := by
  have hbyte : v / 64 % 0x20 = v / 64 ^ 1 := by omega
  have hlead : lead (v / 64 ^ 1 + 0xC0) = .opening ⟨1, 0x80, 0xBF, v / 64 ^ 1⟩ := by
    rw [lead, if_neg (by omega), if_neg (by omega), if_pos (by omega), Nat.add_sub_cancel]
  rw [hbyte]
  exact opens_of_lead hlead (by omega) (by omega)

/-- The bytes `E0` and `ED` would also open longer forms than needed, and surrogates. -/
theorem opens_three {v : Nat} (hleast : 0x7FF < v) (hmost : v ≤ 0xFFFF)
    (hsurrogate : v < 0xD800 ∨ 0xDFFF < v) : Opens (v / 4096 % 0x10 + 0xE0) 2 v := by
  have hbyte : v / 4096 % 0x10 = v / 64 ^ 2 := by omega
  rw [hbyte]
  by_cases hfirst : v / 64 ^ 2 = 0
  · have hlead : lead (v / 64 ^ 2 + 0xE0) = .opening ⟨2, 0xA0, 0xBF, v / 64 ^ 2⟩ := by
      rw [hfirst]
      rfl
    exact opens_of_lead hlead (by omega) (by omega)
  · by_cases hlast : v / 64 ^ 2 = 0xD
    · have hlead : lead (v / 64 ^ 2 + 0xE0) = .opening ⟨2, 0x80, 0x9F, v / 64 ^ 2⟩ := by
        rw [hlast]
        rfl
      exact opens_of_lead hlead (by omega) (by omega)
    · have hlead : lead (v / 64 ^ 2 + 0xE0) = .opening ⟨2, 0x80, 0xBF, v / 64 ^ 2⟩ := by
        rw [lead, if_neg (by omega), if_neg (by omega), if_neg (by omega), if_neg (by omega),
          if_neg (by omega), if_pos (by omega), Nat.add_sub_cancel]
      exact opens_of_lead hlead (by omega) (by omega)

/-- The bytes `F0` and `F4` would also open longer forms than needed, and numbers that are too
large. -/
theorem opens_four {v : Nat} (hleast : 0xFFFF < v) (hmost : v < 0x110000) :
    Opens (v / 262144 % 0x08 + 0xF0) 3 v := by
  have hbyte : v / 262144 % 0x08 = v / 64 ^ 3 := by omega
  rw [hbyte]
  by_cases hfirst : v / 64 ^ 3 = 0
  · have hlead : lead (v / 64 ^ 3 + 0xF0) = .opening ⟨3, 0x90, 0xBF, v / 64 ^ 3⟩ := by
      rw [hfirst]
      rfl
    exact opens_of_lead hlead (by omega) (by omega)
  · by_cases hlast : v / 64 ^ 3 = 4
    · have hlead : lead (v / 64 ^ 3 + 0xF0) = .opening ⟨3, 0x80, 0x8F, v / 64 ^ 3⟩ := by
        rw [hlast]
        rfl
      exact opens_of_lead hlead (by omega) (by omega)
    · have hlead : lead (v / 64 ^ 3 + 0xF0) = .opening ⟨3, 0x80, 0xBF, v / 64 ^ 3⟩ := by
        rw [lead, if_neg (by omega), if_neg (by omega), if_neg (by omega), if_neg (by omega),
          if_neg (by omega), if_neg (by omega), if_neg (by omega), if_pos (by omega),
          Nat.add_sub_cancel]
      exact opens_of_lead hlead (by omega) (by omega)

/-! ### Characters -/

theorem decodeFrom_encodeChar (c : Char) (rest : List UInt8) :
    decodeFrom none (String.utf8EncodeChar c ++ rest) = c :: decodeFrom none rest := by
  have hchar : Char.ofNat c.val.toNat = c := Char.ofNat_toNat c
  have hvalid : c.val.toNat < 0xD800 ∨ 0xDFFF < c.val.toNat ∧ c.val.toNat < 0x110000 := c.valid
  rw [String.utf8EncodeChar]
  generalize c.val.toNat = v at hchar hvalid
  subst hchar
  by_cases hone : v ≤ 0x7F
  · have hbyte : (UInt8.ofNat v).toNat = v := by
      rw [UInt8.toNat_ofNat']
      omega
    rw [if_pos hone]
    exact decodeFrom_whole _ (by rw [hbyte, lead_whole hone])
  · rw [if_neg hone]
    by_cases htwo : v ≤ 0x7FF
    · rw [if_pos htwo]
      have hopens : Opens _ 1 v := opens_two (by omega) htwo
      simpa [trail] using decodeFrom_opens (by omega) hopens rest
    · rw [if_neg htwo]
      by_cases hthree : v ≤ 0xFFFF
      · rw [if_pos hthree]
        have hopens : Opens _ 2 v := opens_three (by omega) hthree (by omega)
        simpa [trail] using decodeFrom_opens (by omega) hopens rest
      · rw [if_neg hthree]
        have hopens : Opens _ 3 v := opens_four (by omega) (by omega)
        simpa [trail] using decodeFrom_opens (by omega) hopens rest

/-- Decoding undoes encoding. -/
theorem decode_encode (s : List Char) : decode (encode s) = s := by
  induction s with
  | nil => rfl
  | cons c rest ih =>
      rw [decode, encode_cons, decodeFrom_encodeChar]
      exact congrArg (c :: ·) ih

end PathRouter.Text.Utf8
