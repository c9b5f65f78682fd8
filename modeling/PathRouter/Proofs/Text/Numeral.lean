import PathRouter.Text.Digits

/-!
Decimal numerals. Zeros in front leave a number as it is, so it has many numerals; but only one has
no such zeros, and this is the text that a number is shown as. Whoever reads the digits of it gets
the number back.
-/

namespace PathRouter.Text

/-- The text is the decimal numeral of the number, without zeros in front that could be left out. -/
structure IsNumeral (cs : List Char) (n : Nat) : Prop where
  nonempty : cs ≠ []
  digits : ∀ c ∈ cs, c.isDigit
  noLeadingZero : cs.head? = some '0' → cs = ['0']
  value : Nat.ofDigitChars 10 cs 0 = n

theorem isDigit_iff {c : Char} : c.isDigit ↔ ∃ d < 10, c = Nat.digitChar d := by
  constructor
  · intro h
    simp only [Char.isDigit, Bool.and_eq_true, decide_eq_true_eq, ge_iff_le,
      UInt32.le_iff_toNat_le] at h
    obtain ⟨hlow, hhigh⟩ : 48 ≤ c.toNat ∧ c.toNat ≤ 57 := h
    refine ⟨c.toNat - 48, by omega, ?_⟩
    rw [← Char.toNat_inj, Nat.toNat_digitChar_of_lt_ten (by omega)]
    omega
  · rintro ⟨d, hd, rfl⟩
    rw [Nat.isDigit_digitChar, decide_eq_true hd]

/-! ### The numeral of a number -/

/-- Digits after the numeral of a number that is not zero make another such numeral. -/
theorem toDigits_append {cs : List Char} (h : ∀ c ∈ cs, c.isDigit) {n : Nat} (hn : 0 < n) :
    Nat.toDigits 10 n ++ cs = Nat.toDigits 10 (Nat.ofDigitChars 10 cs n) := by
  induction cs generalizing n with
  | nil => rw [List.append_nil, Nat.ofDigitChars_nil]
  | cons c cs ih =>
      obtain ⟨d, hd, rfl⟩ := isDigit_iff.1 (h c List.mem_cons_self)
      have hlater : ∀ c ∈ cs, c.isDigit := fun c hc => h c (List.mem_cons_of_mem _ hc)
      calc Nat.toDigits 10 n ++ d.digitChar :: cs
          = Nat.toDigits 10 n ++ Nat.toDigits 10 d ++ cs := by
            rw [Nat.toDigits_of_lt_base hd, List.append_assoc, List.singleton_append]
        _ = Nat.toDigits 10 (10 * n + d) ++ cs := by
            rw [Nat.toDigits_append_toDigits (by decide) hn hd]
        _ = Nat.toDigits 10 (Nat.ofDigitChars 10 cs (10 * n + d)) := ih hlater (by omega)
        _ = Nat.toDigits 10 (Nat.ofDigitChars 10 (d.digitChar :: cs) n) := by
            rw [Nat.ofDigitChars_cons_digitChar_of_lt_ten hd]

/-- Only the numeral of zero starts with a zero. -/
theorem eq_zero_of_head?_toDigits {n : Nat} (h : (Nat.toDigits 10 n).head? = some '0') : n = 0 := by
  induction n using Nat.strongRecOn with
  | _ n ih =>
      rw [Nat.toDigits_eq_if (by decide)] at h
      split at h
      · exact Nat.digitChar_eq_zero.1 (Option.some.inj h)
      · rw [List.head?_append, List.head?_eq_some_head Nat.toDigits_ne_nil, Option.some_or,
          ← List.head?_eq_some_head] at h
        have htens := ih (n / 10) (by omega) h
        omega

theorem isNumeral_iff {cs : List Char} {n : Nat} : IsNumeral cs n ↔ cs = Nat.toDigits 10 n := by
  constructor
  · rintro ⟨hne, hdigits, hzero, rfl⟩
    obtain ⟨c, later, rfl⟩ := List.exists_cons_of_ne_nil hne
    obtain ⟨d, hd, rfl⟩ := isDigit_iff.1 (hdigits c List.mem_cons_self)
    rcases Nat.eq_zero_or_pos d with rfl | hpos
    · rw [hzero rfl]
      rfl
    · have hlater : ∀ c ∈ later, c.isDigit := fun c hc => hdigits c (List.mem_cons_of_mem _ hc)
      calc d.digitChar :: later
          = Nat.toDigits 10 d ++ later := by
            rw [Nat.toDigits_of_lt_base hd, List.singleton_append]
        _ = Nat.toDigits 10 (Nat.ofDigitChars 10 later d) := toDigits_append hlater hpos
        _ = Nat.toDigits 10 (Nat.ofDigitChars 10 (d.digitChar :: later) 0) := by
            rw [Nat.ofDigitChars_cons_digitChar_of_lt_ten hd, Nat.mul_zero, Nat.zero_add]
  · rintro rfl
    refine ⟨Nat.toDigits_ne_nil, fun c => Nat.isDigit_of_mem_toDigits (by decide) (by decide),
      fun hhead => ?_, Nat.ofDigitChars_ten_toDigits⟩
    rw [eq_zero_of_head?_toDigits hhead]
    rfl

/-- A number is shown as its numeral. -/
theorem isNumeral_toString (n : Nat) : IsNumeral (toString n).toList n :=
  isNumeral_iff.2 Nat.toList_repr

theorem not_mem_toString {c : Char} (hc : c.isDigit = false) (n : Nat) :
    c ∉ (toString n).toList := by
  intro hmem
  rw [(isNumeral_toString n).digits c hmem] at hc
  contradiction

/-! ### Reading a numeral -/

theorem digitValue?_digitChar {d : Nat} (hd : d < 10) :
    digitValue? 10 (Nat.digitChar d) = some d := by
  have hdigits : ∀ d < 10, digitValue? 10 (Nat.digitChar d) = some d := by decide
  exact hdigits d hd

/-- All digits are read, and what they stand for is the value of the text. -/
theorem exists_spanDigits_eq {cs : List Char} (h : ∀ c ∈ cs, c.isDigit) :
    ∃ digits, spanDigits 10 cs = (digits, []) ∧ digits.length = cs.length ∧
      ∀ n, digits.foldl (fun n d => 10 * n + d) n = Nat.ofDigitChars 10 cs n := by
  induction cs with
  | nil => exact ⟨[], rfl, rfl, fun n => Nat.ofDigitChars_nil.symm⟩
  | cons c cs ih =>
      obtain ⟨d, hd, rfl⟩ := isDigit_iff.1 (h c List.mem_cons_self)
      obtain ⟨digits, hspan, hlength, hvalue⟩ := ih fun c hc => h c (List.mem_cons_of_mem _ hc)
      refine ⟨d :: digits, ?_, congrArg (· + 1) hlength, fun n => ?_⟩
      · rw [spanDigits, digitValue?_digitChar hd, hspan]
      · rw [Nat.ofDigitChars_cons_digitChar_of_lt_ten hd]
        exact hvalue _

theorem IsNumeral.exists_spanDigits_eq {cs : List Char} {n : Nat} (h : IsNumeral cs n) :
    ∃ digits, spanDigits 10 cs = (digits, []) ∧ digits ≠ [] ∧ valueOf 10 digits = n := by
  obtain ⟨digits, hspan, hlength, hvalue⟩ := Text.exists_spanDigits_eq h.digits
  refine ⟨digits, hspan, ?_, (hvalue 0).trans h.value⟩
  rw [← List.length_pos_iff, hlength, List.length_pos_iff]
  exact h.nonempty

end PathRouter.Text
