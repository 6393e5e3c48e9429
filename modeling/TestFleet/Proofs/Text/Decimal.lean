import Mathlib.Data.Nat.Digits.Defs
import TestFleet.Text.Decimal

/-!
# What decimal numerals denote

Reading a numeral of a number below a limit accepts an optional plus sign and one or more digits,
provided that the number they write is below the limit, and nothing else. The sign and the zeros in
front of the digits are all that two numerals of one number differ by.

* `IsNumeral`: a text is a numeral of a number;
* `readBelow_eq_ok_iff`: reading yields a number exactly for its numerals, if it is below the limit;
* `isNumeral_decimal`: the digits that a number is written with are a numeral of it;
* `IsNumeral.exists_fronted`: every numeral of a number has its significant digits, behind zeros and
  perhaps a sign;
* `IsNumeral.eq_of_fronted`: and what stands in front of them does not count.
-/

namespace TestFleet.Text

/-- What may stand in front of the digits of a numeral. -/
def IsSign (cs : List Char) : Prop := cs = [] ∨ cs = ['+']

/-- Digits of base ten and nothing else. -/
def AreDigits (cs : List Char) : Prop := ∀ c ∈ cs, c.isDigit = true

/-- The text is a numeral of the number: an optional sign, and then digits that write it. -/
def IsNumeral (n : Nat) (s : String) : Prop :=
  ∃ sign digits, IsSign sign ∧ digits ≠ [] ∧ AreDigits digits ∧
    Nat.ofDigitChars 10 digits 0 = n ∧ s.toList = sign ++ digits

variable {limit m n : Nat} {c : Char} {cs sign digits : List Char} {s : String}

/-! ## Digits -/

theorem exists_digitChar (digit : c.isDigit = true) : ∃ d : Fin 10, c = Nat.digitChar d := by
  have bounds : 48 ≤ c.toNat ∧ c.toNat ≤ 57 := by
    simpa [Char.isDigit, UInt32.le_iff_toNat_le] using digit
  have shown : ∀ d : Fin 10, Char.ofNat (48 + d) = Nat.digitChar d := by decide
  refine ⟨⟨c.toNat - 48, by omega⟩, ?_⟩
  rw [← shown, show 48 + (c.toNat - 48) = c.toNat by omega, Char.ofNat_toNat]

theorem digitValue?_of_isDigit (digit : c.isDigit = true) :
    digitValue? c = some (c.toNat - '0'.toNat) := by
  rw [Char.isDigit, Bool.and_eq_true, decide_eq_true_eq, decide_eq_true_eq] at digit
  exact if_pos digit

theorem digitValue?_of_not_isDigit (other : c.isDigit = false) : digitValue? c = none := by
  refine if_neg fun between => ?_
  have digit : c.isDigit = true := by
    rw [Char.isDigit, Bool.and_eq_true, decide_eq_true_eq, decide_eq_true_eq]
    exact between
  rw [digit] at other
  cases other

theorem areDigits_cons : AreDigits (c :: cs) ↔ c.isDigit = true ∧ AreDigits cs :=
  List.forall_mem_cons

theorem AreDigits.ne_plus (h : AreDigits (c :: cs)) : c ≠ '+' := by
  rintro rfl
  exact absurd (areDigits_cons.1 h).1 (by decide)

theorem le_ofDigitChars (cs : List Char) (n : Nat) : n ≤ Nat.ofDigitChars 10 cs n := by
  induction cs generalizing n with
  | nil => exact Nat.le_refl n
  | cons c cs ih =>
    rw [Nat.ofDigitChars_cons]
    have := ih (10 * n + (c.toNat - '0'.toNat))
    omega

/-! ## Reading -/

/-- More digits only make a number greater, so it is enough to compare with the limit at the end. -/
theorem readDigits_eq_ok_iff (below : n < limit) : readDigits limit n cs = .ok m ↔
    AreDigits cs ∧ Nat.ofDigitChars 10 cs n = m ∧ m < limit := by
  induction cs generalizing n with
  | nil =>
    rw [readDigits, Except.ok.injEq, Nat.ofDigitChars_nil]
    exact ⟨fun same => ⟨fun _ h => (List.not_mem_nil h).elim, same, same ▸ below⟩, fun h => h.2.1⟩
  | cons c cs ih =>
    rw [readDigits, areDigits_cons, Nat.ofDigitChars_cons]
    cases digit : c.isDigit with
    | false => simp [digitValue?_of_not_isDigit digit]
    | true =>
      rw [digitValue?_of_isDigit digit]
      dsimp only
      split
      next fits => simpa using ih fits
      next exceeds =>
        have := le_ofDigitChars cs (10 * n + (c.toNat - '0'.toNat))
        simp only [reduceCtorEq, true_and, false_iff]
        omega

theorem readBelow_of_digits (isSign : IsSign sign) (nonempty : digits ≠ [])
    (areDigits : AreDigits digits) (text : s.toList = sign ++ digits) :
    readBelow limit s = readDigits limit 0 digits := by
  obtain ⟨c, cs, rfl⟩ := List.exists_cons_of_ne_nil nonempty
  rw [readBelow, text]
  rcases isSign with rfl | rfl
  · have := areDigits.ne_plus
    simp [this]
  · rfl

theorem readBelow_eq_ok_iff (pos : 0 < limit) :
    readBelow limit s = .ok n ↔ IsNumeral n s ∧ n < limit := by
  constructor
  · intro read
    have parts : ∃ sign digits, IsSign sign ∧ digits ≠ [] ∧ s.toList = sign ++ digits ∧
        readDigits limit 0 digits = .ok n := by
      rw [readBelow] at read
      split at read
      next => cases read
      next => cases read
      next cs nonempty text => exact ⟨['+'], cs, .inr rfl, nonempty, text, read⟩
      next nonempty _ _ => exact ⟨[], s.toList, .inl rfl, nonempty, rfl, read⟩
    obtain ⟨sign, digits, isSign, nonempty, text, read⟩ := parts
    obtain ⟨areDigits, value, below⟩ := (readDigits_eq_ok_iff pos).1 read
    exact ⟨⟨sign, digits, isSign, nonempty, areDigits, value, text⟩, below⟩
  · rintro ⟨⟨sign, digits, isSign, nonempty, areDigits, value, text⟩, below⟩
    rw [readBelow_of_digits isSign nonempty areDigits text]
    exact (readDigits_eq_ok_iff pos).2 ⟨areDigits, value, below⟩

/-- A numeral has one sign, and one number is written behind it. -/
theorem IsNumeral.eq_value (numeral : IsNumeral n s) (isSign : IsSign sign)
    (areDigits : AreDigits digits) (text : s.toList = sign ++ digits) :
    n = Nat.ofDigitChars 10 digits 0 := by
  obtain ⟨sign', digits', isSign', -, areDigits', rfl, text'⟩ := numeral
  rw [text] at text'
  rcases isSign with rfl | rfl <;> rcases isSign' with rfl | rfl
  · rw [List.append_cancel_left text']
  · rw [List.nil_append] at text'
    exact absurd rfl (text' ▸ areDigits).ne_plus
  · rw [List.nil_append] at text'
    exact absurd rfl (text' ▸ areDigits').ne_plus
  · rw [List.append_cancel_left text']

theorem readUInt32_eq_ok_iff {n : UInt32} : readUInt32 s = .ok n ↔ IsNumeral n.toNat s := by
  have read (m : Nat) : readBelow UInt32.size s = .ok m ↔ IsNumeral m s ∧ m < UInt32.size :=
    readBelow_eq_ok_iff (by decide)
  constructor
  · intro h
    cases number : readBelow UInt32.size s with
    | error fault => rw [readUInt32, number] at h; cases h
    | ok m =>
      rw [readUInt32, number] at h
      obtain ⟨numeral, below⟩ := (read m).1 number
      cases h
      rwa [UInt32.toNat_ofNat_of_lt' below]
  · intro numeral
    rw [readUInt32, (read _).2 ⟨numeral, n.toNat_lt⟩]
    exact congrArg Except.ok UInt32.ofNat_toNat

/-! ## Writing -/

theorem areDigits_decimalDigits (n : Nat) : AreDigits (decimalDigits n) :=
  fun _ mem => Nat.isDigit_of_mem_toDigits (by decide) (by decide) mem

theorem isNumeral_decimal (n : Nat) : IsNumeral n (decimal n) :=
  ⟨[], decimalDigits n, .inl rfl, Nat.toDigits_ne_nil, areDigits_decimalDigits n,
    Nat.ofDigitChars_ten_toDigits, String.toList_ofList⟩

/-! ## Zeros in front -/

/-- The digits that a number is written with, none of them if it is zero. -/
def significantDigits (n : Nat) : List Char := if n = 0 then [] else decimalDigits n

theorem areDigits_significantDigits (n : Nat) : AreDigits (significantDigits n) := by
  rw [significantDigits]
  split
  · exact fun _ mem => (List.not_mem_nil mem).elim
  · exact areDigits_decimalDigits n

/-- Digits behind those of a positive number are, together with them, the digits of the number that
they go on to. -/
theorem decimalDigits_append (pos : 0 < n) (areDigits : AreDigits cs) :
    decimalDigits n ++ cs = decimalDigits (Nat.ofDigitChars 10 cs n) := by
  induction cs generalizing n with
  | nil => rw [List.append_nil, Nat.ofDigitChars_nil]
  | cons c cs ih =>
    obtain ⟨digit, behind⟩ := areDigits_cons.1 areDigits
    obtain ⟨⟨d, small⟩, rfl⟩ := exists_digitChar digit
    have one : decimalDigits d = [Nat.digitChar d] := Nat.toDigits_of_lt_base small
    have more : decimalDigits n ++ decimalDigits d = decimalDigits (10 * n + d) :=
      Nat.toDigits_append_toDigits (by decide) pos small
    rw [Nat.ofDigitChars_cons_digitChar_of_lt_ten small, ← ih (by omega) behind, ← more, one,
      List.append_assoc, List.singleton_append]

/-- All digits that write a number are its significant digits, with zeros in front. -/
theorem exists_zeros (areDigits : AreDigits digits) : ∃ zeros, digits =
    List.replicate zeros '0' ++ significantDigits (Nat.ofDigitChars 10 digits 0) := by
  induction digits with
  | nil => exact ⟨0, rfl⟩
  | cons c cs ih =>
    obtain ⟨digit, behind⟩ := areDigits_cons.1 areDigits
    obtain ⟨⟨d, small⟩, rfl⟩ := exists_digitChar digit
    rw [Nat.ofDigitChars_cons_digitChar_of_lt_ten small, Nat.mul_zero, Nat.zero_add]
    -- A zero is one more in front; any other digit is the first of the number.
    rcases Nat.eq_zero_or_pos d with rfl | pos
    · obtain ⟨zeros, split⟩ := ih behind
      exact ⟨zeros + 1, congrArg ('0' :: ·) split⟩
    · have one : decimalDigits d = [Nat.digitChar d] := Nat.toDigits_of_lt_base small
      have := le_ofDigitChars cs d
      refine ⟨0, ?_⟩
      rw [significantDigits, if_neg (by omega), ← decimalDigits_append pos behind, one]
      rfl

theorem ofDigitChars_zeros_append (zeros : Nat) (digits : List Char) :
    Nat.ofDigitChars 10 (List.replicate zeros '0' ++ digits) 0 = Nat.ofDigitChars 10 digits 0 := by
  rw [Nat.ofDigitChars_append, Nat.ofDigitChars_replicate_zero, Nat.mul_zero]

/-- The text of digits with zeros and perhaps a sign in front. -/
def fronted (sign : List Char) (zeros : Nat) (digits : List Char) : String :=
  String.ofList (sign ++ (List.replicate zeros '0' ++ digits))

theorem IsNumeral.exists_fronted (numeral : IsNumeral n s) :
    ∃ sign zeros, IsSign sign ∧ s = fronted sign zeros (significantDigits n) := by
  obtain ⟨sign, digits, isSign, -, areDigits, rfl, text⟩ := numeral
  obtain ⟨zeros, split⟩ := exists_zeros areDigits
  refine ⟨sign, zeros, isSign, ?_⟩
  rw [fronted, ← split, ← text, String.ofList_toList]

/-- Of a numeral, what stands in front of the significant digits does not count. -/
theorem IsNumeral.eq_of_fronted {zeros : Nat} (numeral : IsNumeral n (fronted sign zeros digits))
    (isSign : IsSign sign) (areDigits : AreDigits digits) : n = Nat.ofDigitChars 10 digits 0 := by
  have all : AreDigits (List.replicate zeros '0' ++ digits) := by
    refine List.forall_mem_append.2 ⟨fun c mem => ?_, areDigits⟩
    rw [List.eq_of_mem_replicate mem]
    rfl
  rw [numeral.eq_value isSign all String.toList_ofList, ofDigitChars_zeros_append]

end TestFleet.Text
