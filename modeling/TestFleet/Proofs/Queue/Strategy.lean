import TestFleet.Proofs.Text.Decimal
import TestFleet.Queue.Strategy

/-!
# Naming the ways to split a job

A text names a strategy if it is one of the three plain names, or the mark of fixed sizes with a
numeral of 32 bits behind it. Every strategy is named by what is shown of it. No text has two
meanings, and two texts mean the same only if they are the same or write one size, with or without a
sign and with more or fewer zeros in front.

* `Names`: the texts that name a strategy;
* `ofText_eq_ok_iff`: they are the texts that are read as it;
* `names_shown`: what is shown of a strategy is one of them;
* `Alike`: texts that write one size, or are the same;
* `ofText_exact`: they are the texts that are read as one strategy.
-/

namespace TestFleet.SplitStrategy

open Text (AreDigits IsNumeral IsSign fronted readUInt32 readUInt32_eq_ok_iff)

variable {s t rest : String} {v : SplitStrategy}

/-- The texts that name a strategy. -/
inductive Names : String → SplitStrategy → Prop
  | unsplit : Names "unsplit" unsplit
  | individual : Names "individual" individual
  | equallyDivided : Names "equally_divided" equallyDivided
  | fixedBucketSize {numeral : String} {size : UInt32} (h : IsNumeral size.toNat numeral) :
    Names (sizeMark ++ numeral) (fixedBucketSize size)

/-- The texts are the same, or they are the mark of fixed sizes with the same digits behind it, each
with so many zeros and perhaps a sign in between. -/
inductive Alike : String → String → Prop
  | same (s : String) : Alike s s
  | size {sign sign' digits : List Char} (zeros zeros' : Nat) (isSign : IsSign sign)
    (isSign' : IsSign sign') (areDigits : AreDigits digits) :
    Alike (sizeMark ++ fronted sign zeros digits) (sizeMark ++ fronted sign' zeros' digits)

/-! ## Reading a name -/

theorem after?_eq_some_iff {mark : String} : after? mark s = some rest ↔ s = mark ++ rest := by
  rw [after?, ← String.toList_inj, String.toList_append]
  constructor
  · intro h
    split at h
    next front =>
      cases h
      rw [String.toList_ofList]
      conv_lhs => rw [← List.take_append_drop mark.toList.length s.toList, front]
    next => cases h
  · intro text
    rw [text, List.take_left, if_pos rfl, List.drop_left, String.ofList_toList]

/-- The mark is the beginning of none of the plain names. -/
theorem ofText_sizeMark_append (numeral : String) : ofText (sizeMark ++ numeral) =
    match readUInt32 numeral with
    | .ok n => .ok (fixedBucketSize n)
    | .error fault => .error (.invalidSize numeral fault) := by
  have first : (sizeMark ++ numeral).toList.head? = some 'f' := by
    rw [String.toList_append]
    rfl
  have other {name : String} (h : name.toList.head? ≠ some 'f') : sizeMark ++ numeral ≠ name :=
    fun same => h (same ▸ first)
  have marked : after? sizeMark (sizeMark ++ numeral) = some numeral := after?_eq_some_iff.2 rfl
  unfold ofText
  rw [if_neg (other (by decide)), if_neg (other (by decide)), if_neg (other (by decide))]
  cases number : readUInt32 numeral <;> simp only [marked, number]

theorem ofText_eq_ok_iff : ofText s = .ok v ↔ Names s v := by
  constructor
  · intro read
    unfold ofText at read
    split at read
    next plain => cases read; exact plain ▸ .unsplit
    split at read
    next plain => cases read; exact plain ▸ .individual
    split at read
    next plain => cases read; exact plain ▸ .equallyDivided
    split at read
    next numeral marked =>
      obtain rfl := after?_eq_some_iff.1 marked
      split at read
      next size number => cases read; exact .fixedBucketSize (readUInt32_eq_ok_iff.1 number)
      next => cases read
    next => cases read
  · rintro (_ | _ | _ | numeral)
    · rfl
    · rfl
    · rfl
    · rw [ofText_sizeMark_append, readUInt32_eq_ok_iff.2 numeral]

theorem names_shown (v : SplitStrategy) : Names v.shown v := by
  cases v with
  | unsplit => exact .unsplit
  | individual => exact .individual
  | equallyDivided => exact .equallyDivided
  | fixedBucketSize size => exact .fixedBucketSize (Text.isNumeral_decimal size.toNat)

/-! ## Texts that are read as one strategy -/

theorem Names.alike (hs : Names s v) (ht : Names t v) : Alike s t := by
  cases hs with
  | unsplit => cases ht; exact .same _
  | individual => cases ht; exact .same _
  | equallyDivided => cases ht; exact .same _
  | fixedBucketSize numeral =>
    cases ht with | fixedBucketSize numeral' => ?_
    obtain ⟨sign, zeros, isSign, rfl⟩ := numeral.exists_fronted
    obtain ⟨sign', zeros', isSign', rfl⟩ := numeral'.exists_fronted
    exact .size zeros zeros' isSign isSign' (Text.areDigits_significantDigits _)

/-- A text with a size behind the mark names nothing but a fixed size, and the digits tell which. -/
theorem eq_of_ofText_fronted {sign digits : List Char} {zeros : Nat} (isSign : IsSign sign)
    (areDigits : AreDigits digits) (read : ofText (sizeMark ++ fronted sign zeros digits) = .ok v) :
    v = fixedBucketSize (UInt32.ofNat (Nat.ofDigitChars 10 digits 0)) := by
  rw [ofText_sizeMark_append] at read
  split at read
  next size number =>
    cases read
    have numeral := readUInt32_eq_ok_iff.1 number
    rw [← numeral.eq_of_fronted isSign areDigits, UInt32.ofNat_toNat]
  next => cases read

theorem Alike.eq {w : SplitStrategy} (alike : Alike s t) (hs : ofText s = .ok v)
    (ht : ofText t = .ok w) : v = w := by
  cases alike with
  | same => exact Except.ok.inj (hs.symm.trans ht)
  | size zeros zeros' isSign isSign' areDigits =>
    rw [eq_of_ofText_fronted isSign areDigits hs, eq_of_ofText_fronted isSign' areDigits ht]

/-- Texts are read as a strategy exactly if they name it, every strategy is named by what is shown
of it, and two texts are read as one strategy exactly if both are read and they are the same up to
a sign and zeros in front of a size. -/
theorem ofText_exact :
    (∀ v : SplitStrategy, ofText v.shown = .ok v) ∧
    (∀ s v, ofText s = .ok v ↔ Names s v) ∧
    ∀ s t, (∃ v, ofText s = .ok v ∧ ofText t = .ok v) ↔
      (∃ v, ofText s = .ok v) ∧ (∃ v, ofText t = .ok v) ∧ Alike s t := by
  refine ⟨fun v => ofText_eq_ok_iff.2 (names_shown v), fun s v => ofText_eq_ok_iff, fun s t => ?_⟩
  constructor
  · rintro ⟨v, hs, ht⟩
    exact ⟨⟨v, hs⟩, ⟨v, ht⟩, (ofText_eq_ok_iff.1 hs).alike (ofText_eq_ok_iff.1 ht)⟩
  · rintro ⟨⟨v, hs⟩, ⟨w, ht⟩, alike⟩
    exact ⟨v, hs, alike.eq hs ht ▸ ht⟩

example : ofText "fixed_bucket_size:+0042" = ofText "fixed_bucket_size:42" := by decide

end TestFleet.SplitStrategy
