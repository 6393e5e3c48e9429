import Mathlib.Data.List.TakeWhile
import Mathlib.Data.Nat.Digits.Defs
import TestFleet.Json.Parser
import TestFleet.Proofs.Text.Decimal

/-!
# Reading what was written

The bytes that a value is written as are read as the draft of that value, and nothing of what
follows them is taken, unless it could go on with a number (`Ends`).

* `parseString_escaped`: a string, whatever its characters;
* `parseNumber_digitBytes`: a number, whatever its size;
* `parseItems_bytes`, `parseFields_bytes`: items and fields, from what is read of each;
* `isRead`: a value within a text; `parse_bytes`: a value that is all of the text.
-/

namespace TestFleet.Json

/-! ## Strings -/

theorem ofUtf8?_utf8 (s : String) : Text.ofUtf8? (Text.utf8 s) = some s := by
  rw [Text.ofUtf8?, Text.utf8, Array.toArray_toList, String.fromUTF8?]
  exact dif_pos s.isValidUTF8

/-- A control character written in digits is read as its byte. -/
theorem hexUnit?_control {b : UInt8} (low : b < 0x20) :
    hexUnit? 0x30 0x30 (ascii (Nat.digitChar (b.toNat / 16)))
        (ascii (Nat.digitChar (b.toNat % 16))) = some b.toNat ∧
      codePointBytes b.toNat = [b] := by
  have all : ∀ n : Fin 32,
      hexUnit? 0x30 0x30 (ascii (Nat.digitChar (n / 16))) (ascii (Nat.digitChar (n % 16))) =
        some n.val ∧ codePointBytes n = [UInt8.ofNat n] := by decide
  simpa using all ⟨b.toNat, UInt8.lt_iff_toNat_lt.1 low⟩

/-- Seven bytes have a letter of their own behind the backslash. -/
theorem escapeLetter?_eq_none_or (b : UInt8) : escapeLetter? b = none ∨
    b ∈ ([0x22, 0x5C, 0x08, 0x0C, 0x0A, 0x0D, 0x09] : List UInt8) := by
  by_cases special : b ∈ ([0x22, 0x5C, 0x08, 0x0C, 0x0A, 0x0D, 0x09] : List UInt8)
  · exact .inr special
  · left
    simp only [List.mem_cons, List.not_mem_nil, or_false, not_or] at special
    simp [escapeLetter?, special]

/-- A byte that was written inside a string is read back in one part. -/
theorem parseStringFrom_escapeByte (fuel : Nat) (done : List UInt8) (b : UInt8)
    (rest : List UInt8) :
    parseStringFrom (fuel + 1) done true (escapeByte b ++ rest) =
      parseStringFrom fuel (b :: done) true rest := by
  rcases escapeLetter?_eq_none_or b with none | special
  · rw [escapeByte, none]
    by_cases low : b < 0x20
    · obtain ⟨digits, char⟩ := hexUnit?_control low
      have small : b.toNat < 0x20 := UInt8.lt_iff_toNat_lt.1 low
      have notLead : ¬ (0xD800 ≤ b.toNat ∧ b.toNat ≤ 0xDBFF) := by omega
      have notTrail : ¬ (0xDC00 ≤ b.toNat ∧ b.toNat ≤ 0xDFFF) := by omega
      rw [if_pos low]
      change parseStringFrom (fuel + 1) done true (0x5C :: 0x75 :: 0x30 :: 0x30 ::
        ascii (Nat.digitChar (b.toNat / 16)) :: ascii (Nat.digitChar (b.toNat % 16)) :: rest) = _
      rw [parseStringFrom.eq_def]
      simp only [digits, char, if_neg notLead, if_neg notTrail]
      rfl
    · have notQuote : b ≠ 0x22 := by rintro rfl; exact absurd none (by decide)
      have notBackslash : b ≠ 0x5C := by rintro rfl; exact absurd none (by decide)
      rw [if_neg low, List.singleton_append, parseStringFrom.eq_def]
      simp only [if_neg notQuote, if_neg notBackslash, if_neg low]
  · simp only [List.mem_cons, List.not_mem_nil, or_false] at special
    rcases special with rfl | rfl | rfl | rfl | rfl | rfl | rfl <;> rfl

theorem escapeByte_ne_nil (b : UInt8) : escapeByte b ≠ [] := by
  rw [escapeByte]
  split
  · exact List.cons_ne_nil _ _
  · split
    · exact List.cons_ne_nil _ _
    · exact List.cons_ne_nil _ _

theorem length_le_escaped (bs : List UInt8) : bs.length ≤ (bs.flatMap escapeByte).length := by
  induction bs with
  | nil => exact Nat.le_refl _
  | cons b bs ih =>
    have := List.length_pos_iff.2 (escapeByte_ne_nil b)
    rw [List.flatMap_cons, List.length_append, List.length_cons]
    omega

theorem parseStringFrom_escaped (bs : List UInt8) {fuel : Nat} (enough : bs.length < fuel)
    (done rest : List UInt8) :
    parseStringFrom fuel done true (bs.flatMap escapeByte ++ 0x22 :: rest) =
      .ok (some (done.reverse ++ bs), rest) := by
  induction bs generalizing fuel done with
  | nil =>
    obtain ⟨fuel, rfl⟩ := Nat.exists_eq_add_of_lt enough
    rw [List.append_nil]
    rfl
  | cons b bs ih =>
    rw [List.length_cons] at enough
    obtain ⟨fuel, rfl⟩ : ∃ n, fuel = n + 1 := ⟨fuel - 1, by omega⟩
    rw [List.flatMap_cons, List.append_assoc, parseStringFrom_escapeByte, ih (by omega),
      List.reverse_cons, List.append_assoc, List.singleton_append]

theorem parseString_escaped (s : String) (rest : List UInt8) :
    parseString ((Text.utf8 s).flatMap escapeByte ++ 0x22 :: rest) = .ok (some s, rest) := by
  have enough : (Text.utf8 s).length <
      ((Text.utf8 s).flatMap escapeByte ++ 0x22 :: rest).length + 1 := by
    have := length_le_escaped (Text.utf8 s)
    rw [List.length_append]
    omega
  rw [parseString, parseStringFrom_escaped _ enough, List.reverse_nil, List.nil_append]
  simp only [Except.map, Option.bind_some, ofUtf8?_utf8]

theorem parseName_stringBytes (s : String) (rest : List UInt8) :
    parseName (stringBytes s ++ rest) = (.string (some s), some rest) := by
  have opened : stringBytes s ++ rest =
      0x22 :: ((Text.utf8 s).flatMap escapeByte ++ 0x22 :: rest) := by
    rw [stringBytes, List.cons_append, List.cons_append, List.append_assoc]
    rfl
  rw [opened, parseName, parseString_escaped]

/-! ## Numbers -/

/-- What may follow a number: nothing that it could go on with. -/
def Ends (rest : List UInt8) : Prop :=
  ∀ b ∈ rest.head?, isDigit b = false ∧ b ≠ 0x2E ∧ b ≠ 0x65 ∧ b ≠ 0x45

theorem parseFraction_of_ends {rest : List UInt8} (ends : Ends rest) :
    parseFraction rest = .ok ([], rest) := by
  unfold parseFraction
  split
  · exact absurd rfl (ends _ rfl).2.1
  · rfl

theorem parseExponent_of_ends {rest : List UInt8} (ends : Ends rest) :
    parseExponent rest = .ok (none, rest) := by
  cases rest with
  | nil => rfl
  | cons b rest =>
    obtain ⟨-, -, lower, upper⟩ := ends b rfl
    unfold parseExponent
    simp only [if_neg (not_or.2 ⟨lower, upper⟩)]

/-- The bytes of a number. -/
def digitBytes (n : Nat) : List UInt8 := (Text.decimalDigits n).map ascii

theorem exists_digit {n : Nat} {c : Char} (mem : c ∈ Text.decimalDigits n) :
    ∃ d : Fin 10, c = Nat.digitChar d :=
  Text.exists_digitChar (Nat.isDigit_of_mem_toDigits (by decide) (by decide) mem)

theorem isDigit_of_mem_digitBytes {n : Nat} {b : UInt8} (mem : b ∈ digitBytes n) :
    isDigit b = true := by
  obtain ⟨c, digit, rfl⟩ := List.mem_map.1 mem
  obtain ⟨d, rfl⟩ := exists_digit digit
  have all : ∀ d : Fin 10, isDigit (ascii (Nat.digitChar d)) = true := by decide
  exact all d

theorem digitBytes_ne_nil (n : Nat) : digitBytes n ≠ [] := by
  rw [digitBytes, Ne, List.map_eq_nil_iff]
  exact Nat.toDigits_ne_nil

theorem head?_decimalDigits {n : Nat} (pos : 0 < n) :
    (Text.decimalDigits n).head? ≠ some '0' := by
  rw [Text.decimalDigits]
  induction n using Nat.strong_induction_on with
  | _ n ih =>
    by_cases small : n < 10
    · have all : ∀ d : Fin 10, 0 < d.val → some (Nat.digitChar d) ≠ some '0' := by decide
      rw [Nat.toDigits_of_lt_base small]
      exact all ⟨n, small⟩ pos
    · rw [Nat.toDigits_of_base_le (by decide) (by omega),
        List.head?_append, List.head?_eq_some_head Nat.toDigits_ne_nil,
        Option.some_or, ← List.head?_eq_some_head]
      exact ih (n / 10) (by omega) (by omega)

/-- Only zero is written with a zero in front. -/
theorem length_digitBytes_of_zero {n : Nat} (zero : (digitBytes n).head? = some 0x30) :
    (digitBytes n).length = 1 := by
  rcases Nat.eq_zero_or_pos n with rfl | pos
  · rfl
  · exfalso
    rw [digitBytes, List.head?_map, Option.map_eq_some_iff] at zero
    obtain ⟨c, first, zero⟩ := zero
    obtain ⟨d, rfl⟩ := exists_digit (List.mem_of_head? first)
    have all : ∀ d : Fin 10, ascii (Nat.digitChar d) = 0x30 → Nat.digitChar d = '0' := by decide
    exact head?_decimalDigits pos (first.trans (congrArg some (all d zero)))

theorem map_digitValue_digitBytes (n : Nat) : (digitBytes n).map digitValue =
    (Text.decimalDigits n).map fun c => c.toNat - '0'.toNat := by
  rw [digitBytes, List.map_map]
  refine List.map_congr_left fun c mem => ?_
  obtain ⟨d, rfl⟩ := exists_digit mem
  have all : ∀ d : Fin 10, digitValue (ascii (Nat.digitChar d)) =
      (Nat.digitChar d).toNat - '0'.toNat := by decide
  exact all d

theorem parseWhole_digitBytes (n : Nat) {rest : List UInt8} (ends : Ends rest) :
    parseWhole (digitBytes n ++ rest) = .ok (digitBytes n, rest) := by
  have stop : rest.takeWhile isDigit = [] ∧ rest.dropWhile isDigit = rest := by
    cases rest with
    | nil => exact ⟨rfl, rfl⟩
    | cons b rest => simp [(ends b rfl).1]
  have digits : ∀ b ∈ digitBytes n, isDigit b = true := fun b => isDigit_of_mem_digitBytes
  have short : ¬ ((digitBytes n).head? = some 0x30 ∧ 1 < (digitBytes n).length) := by
    rintro ⟨zero, long⟩
    rw [length_digitBytes_of_zero zero] at long
    exact Nat.lt_irrefl 1 long
  rw [parseWhole, List.takeWhile_append_of_pos digits, List.dropWhile_append_of_pos digits, stop.1,
    stop.2, List.append_nil]
  simp only [List.isEmpty_iff, digitBytes_ne_nil, if_neg short, if_false]

theorem parseNumber_digitBytes (n : Nat) {rest : List UInt8} (ends : Ends rest) :
    parseNumber (digitBytes n ++ rest) = .ok (.ofNatural n, rest) := by
  have unsigned : parseNumber (digitBytes n ++ rest) =
      parseUnsigned false (digitBytes n ++ rest) := by
    unfold parseNumber
    split
    · next bytes minus =>
      have front : (digitBytes n ++ rest).head? = some 0x2D := by rw [minus, List.head?_cons]
      rw [List.head?_append, List.head?_eq_some_head (digitBytes_ne_nil n), Option.some_or] at front
      have first := isDigit_of_mem_digitBytes (List.head_mem (digitBytes_ne_nil n))
      rw [Option.some.inj front] at first
      exact absurd first (by decide)
    · rfl
  rw [unsigned, parseUnsigned, parseWhole_digitBytes n ends]
  simp only [bind, Except.bind, parseFraction_of_ends ends, parseExponent_of_ends ends,
    map_digitValue_digitBytes]
  rfl

/-! ## Values -/

/-- Values by what they are made of. -/
theorem inductionOn {P : Json → Prop} (j : Json) (null : P .null) (bool : ∀ b, P (.bool b))
    (natural : ∀ n, P (.natural n)) (string : ∀ s, P (.string s))
    (array : ∀ items, (∀ j ∈ items, P j) → P (.array items))
    (object : ∀ fields, (∀ f ∈ fields, P f.2) → P (.object fields)) : P j :=
  match j with
  | .null => null
  | .bool b => bool b
  | .natural n => natural n
  | .string s => string s
  | .array items =>
    array items fun j _ => inductionOn j null bool natural string array object
  | .object fields =>
    object fields fun f _ => inductionOn f.2 null bool natural string array object
termination_by j
decreasing_by
  · have := List.sizeOf_lt_of_mem ‹j ∈ items›
    rw [Json.array.sizeOf_spec]
    omega
  · have := List.sizeOf_lt_of_mem ‹f ∈ fields›
    obtain ⟨name, value⟩ := f
    rw [Json.object.sizeOf_spec]
    simp only [Prod.mk.sizeOf_spec] at this ⊢
    omega

theorem ends_nil : Ends [] := by
  rintro b ⟨⟩

theorem ends_cons {b : UInt8} (rest : List UInt8)
    (other : isDigit b = false ∧ b ≠ 0x2E ∧ b ≠ 0x65 ∧ b ≠ 0x45) : Ends (b :: rest) := by
  rintro _ ⟨rfl⟩
  exact other

theorem ends_itemsBytes (items : List Json) (rest : List UInt8) :
    Ends (itemsBytes items ++ rest) := by
  cases items with
  | nil => exact ends_cons _ (by decide)
  | cons item items => exact ends_cons _ (by decide)

theorem ends_fieldsBytes (fields : List (String × Json)) (rest : List UInt8) :
    Ends (fieldsBytes fields ++ rest) := by
  cases fields with
  | nil => exact ends_cons _ (by decide)
  | cons field fields => exact ends_cons _ (by decide)

/-- A value is read back wherever it stands, given as much fuel as it has bytes. -/
def IsRead (j : Json) : Prop :=
  ∀ (fuel : Nat) (rest : List UInt8), j.bytes.length ≤ fuel → Ends rest →
    parseValue fuel (j.bytes ++ rest) = (Draft.ofJson j, some rest)

/-- The byte that a value begins with is no blank and closes no array. -/
theorem exists_bytes_eq_cons (j : Json) :
    ∃ b bs, j.bytes = b :: bs ∧ isSpace b = false ∧ b ≠ 0x5D := by
  cases j with
  | null => exact ⟨_, _, rfl, by decide⟩
  | bool b => cases b <;> exact ⟨_, _, rfl, by decide⟩
  | natural n =>
    obtain ⟨d, first⟩ := exists_digit (List.head_mem (Nat.toDigits_ne_nil (b := 10) (n := n)))
    have all : ∀ d : Fin 10, isSpace (ascii (Nat.digitChar d)) = false ∧
        ascii (Nat.digitChar d) ≠ 0x5D := by decide
    refine ⟨ascii (Nat.digitChar d), (Text.decimalDigits n).tail.map ascii, ?_, all d⟩
    rw [← first, ← List.map_cons]
    exact congrArg (List.map ascii) (List.cons_head_tail Nat.toDigits_ne_nil).symm
  | string s => exact ⟨_, _, rfl, by decide⟩
  | array items => cases items <;> exact ⟨_, _, rfl, by decide⟩
  | object fields => cases fields <;> exact ⟨_, _, rfl, by decide⟩

theorem bytes_ne_nil (j : Json) : j.bytes ≠ [] := by
  obtain ⟨b, bs, front, -⟩ := exists_bytes_eq_cons j
  rw [front]
  exact List.cons_ne_nil b bs

theorem skipSpace_cons {b : UInt8} (solid : isSpace b = false) (bs : List UInt8) :
    skipSpace (b :: bs) = b :: bs :=
  List.dropWhile_cons_of_neg (by rw [solid]; exact Bool.false_ne_true)

theorem parseItems_bytes {first : Json} (read : IsRead first) {items : List Json}
    (reads : ∀ j ∈ items, IsRead j) {fuel : Nat} (rest : List UInt8)
    (enough : first.bytes.length + (itemsBytes items).length ≤ fuel) :
    parseItems fuel (first.bytes ++ (itemsBytes items ++ rest)) =
      (Draft.ofJson first :: Draft.ofItems items, none, some rest) := by
  induction items generalizing first fuel with
  | nil =>
    have one : (itemsBytes []).length = 1 := rfl
    obtain ⟨fuel, rfl⟩ : ∃ n, fuel = n + 1 := ⟨fuel - 1, by omega⟩
    rw [parseItems, read fuel _ (by omega) (ends_itemsBytes _ _)]
    rfl
  | cons item items ih =>
    have long : (itemsBytes (item :: items)).length =
        item.bytes.length + (itemsBytes items).length + 1 := by
      rw [itemsBytes, List.length_append, List.length_cons]
      omega
    obtain ⟨fuel, rfl⟩ : ∃ n, fuel = n + 1 := ⟨fuel - 1, by omega⟩
    obtain ⟨read', reads⟩ := List.forall_mem_cons.1 reads
    have comma : itemsBytes (item :: items) ++ rest =
        ascii ',' :: (item.bytes ++ (itemsBytes items ++ rest)) := by
      simp only [itemsBytes, List.append_assoc, List.cons_append]
    have solid (bs : List UInt8) : skipSpace (ascii ',' :: bs) = 0x2C :: bs := rfl
    have left : item.bytes.length + (itemsBytes items).length ≤ fuel := by omega
    rw [parseItems, read fuel _ (by omega) (ends_itemsBytes _ _)]
    simp only [comma, solid, ih read' reads left, Draft.ofItems]

theorem parseFields_bytes (name : String) {value : Json} (read : IsRead value)
    {fields : List (String × Json)} (reads : ∀ f ∈ fields, IsRead f.2) {fuel : Nat}
    (rest : List UInt8) (enough : value.bytes.length + (fieldsBytes fields).length ≤ fuel) :
    parseFields fuel
        (stringBytes name ++ ascii ':' :: (value.bytes ++ (fieldsBytes fields ++ rest))) =
      ((.string (some name), Draft.ofJson value) :: Draft.ofFields fields, none, some rest) := by
  have quote (name : String) (bs : List UInt8) :
      skipSpace (stringBytes name ++ bs) = stringBytes name ++ bs := rfl
  have colon (bs : List UInt8) : skipSpace (ascii ':' :: bs) = 0x3A :: bs := rfl
  induction fields generalizing name value fuel with
  | nil =>
    have one : (fieldsBytes []).length = 1 := rfl
    obtain ⟨fuel, rfl⟩ : ∃ n, fuel = n + 1 := ⟨fuel - 1, by omega⟩
    simp only [parseFields, quote, parseName_stringBytes, colon,
      read fuel _ (by omega) (ends_fieldsBytes _ _)]
    rfl
  | cons field fields ih =>
    obtain ⟨name', value'⟩ := field
    have long : value'.bytes.length + (fieldsBytes fields).length <
        (fieldsBytes ((name', value') :: fields)).length := by
      simp only [fieldsBytes, List.length_append, List.length_cons]
      omega
    obtain ⟨fuel, rfl⟩ : ∃ n, fuel = n + 1 := ⟨fuel - 1, by omega⟩
    obtain ⟨read', reads⟩ := List.forall_mem_cons.1 reads
    have left : value'.bytes.length + (fieldsBytes fields).length ≤ fuel := by omega
    have comma : fieldsBytes ((name', value') :: fields) ++ rest = ascii ',' ::
        (stringBytes name' ++ ascii ':' :: (value'.bytes ++ (fieldsBytes fields ++ rest))) := by
      simp only [fieldsBytes, List.append_assoc, List.cons_append]
    have solid (bs : List UInt8) : skipSpace (ascii ',' :: bs) = 0x2C :: bs := rfl
    simp only [parseFields, quote, parseName_stringBytes, colon,
      read fuel _ (by omega) (ends_fieldsBytes _ _)]
    simp only [comma, solid, ih name' read' reads left, Draft.ofFields]

theorem parseValue_digitBytes (fuel n : Nat) {rest : List UInt8} (ends : Ends rest) :
    parseValue (fuel + 1) (digitBytes n ++ rest) = (.number (.ofNatural n), some rest) := by
  obtain ⟨b, bs, front, solid, -⟩ := exists_bytes_eq_cons (.natural n)
  have front : digitBytes n = b :: bs := front
  have digit : isDigit b = true := isDigit_of_mem_digitBytes (front ▸ List.mem_cons_self)
  have number := parseNumber_digitBytes n ends
  rw [front, List.cons_append] at number ⊢
  have other : ∀ c : Char, isDigit (ascii c) = false → b ≠ ascii c := fun c no same =>
    Bool.false_ne_true (no.symm.trans (same ▸ digit))
  rw [parseValue, skipSpace_cons solid]
  simp only [if_neg (other 'n' (by decide)), if_neg (other 't' (by decide)),
    if_neg (other 'f' (by decide)), if_neg (other '"' (by decide)),
    if_pos (show b = ascii '-' ∨ isDigit b = true from .inr digit), number]

theorem parseValue_bracket (fuel : Nat) {b : UInt8} (solid : isSpace b = false) (other : b ≠ 0x5D)
    (bs : List UInt8) : parseValue (fuel + 1) (ascii '[' :: b :: bs) =
      (.array (parseItems fuel (b :: bs)).1 (parseItems fuel (b :: bs)).2.1,
        (parseItems fuel (b :: bs)).2.2) := by
  rw [parseValue, skipSpace_cons (by decide)]
  simp only [if_neg (show ascii '[' ≠ ascii 'n' by decide),
    if_neg (show ascii '[' ≠ ascii 't' by decide), if_neg (show ascii '[' ≠ ascii 'f' by decide),
    if_neg (show ascii '[' ≠ ascii '"' by decide),
    if_neg (show ¬ (ascii '[' = ascii '-' ∨ isDigit (ascii '[') = true) by decide),
    if_true, skipSpace_cons solid]
  split
  · next same => exact absurd (List.cons.inj same).1 other
  · next none => cases none
  · rfl

theorem parseValue_brace (fuel : Nat) (name : String) (bs : List UInt8) :
    parseValue (fuel + 1) (ascii '\x7b' :: (stringBytes name ++ bs)) =
      (.object (parseFields fuel (stringBytes name ++ bs)).1
        (parseFields fuel (stringBytes name ++ bs)).2.1,
        (parseFields fuel (stringBytes name ++ bs)).2.2) :=
  rfl

theorem exists_fuel {j : Json} {fuel : Nat} (enough : j.bytes.length ≤ fuel) :
    ∃ n, fuel = n + 1 :=
  Nat.exists_eq_add_one.2 (Nat.lt_of_lt_of_le (List.length_pos_iff.2 (bytes_ne_nil j)) enough)

theorem isRead_array {items : List Json} (reads : ∀ j ∈ items, IsRead j) :
    IsRead (.array items) := by
  intro fuel rest enough ends
  obtain ⟨fuel, rfl⟩ := exists_fuel enough
  cases items with
  | nil => rfl
  | cons item items =>
    obtain ⟨read, reads⟩ := List.forall_mem_cons.1 reads
    have written : (Json.array (item :: items)).bytes ++ rest =
        ascii '[' :: (item.bytes ++ (itemsBytes items ++ rest)) := by
      simp only [bytes, List.append_assoc, List.cons_append]
    have inside : item.bytes.length + (itemsBytes items).length ≤ fuel := by
      simp only [bytes, List.length_append, List.length_cons] at enough
      omega
    have read := parseItems_bytes read reads rest inside
    -- The first item does not begin with the bracket that would close the array at once.
    obtain ⟨b, bs, front, solid, other⟩ := exists_bytes_eq_cons item
    rw [front, List.cons_append] at read
    rw [written, front, List.cons_append, parseValue_bracket fuel solid other, read]
    rfl

theorem isRead_object {fields : List (String × Json)} (reads : ∀ f ∈ fields, IsRead f.2) :
    IsRead (.object fields) := by
  intro fuel rest enough ends
  obtain ⟨fuel, rfl⟩ := exists_fuel enough
  cases fields with
  | nil => rfl
  | cons field fields =>
    obtain ⟨name, value⟩ := field
    obtain ⟨read, reads⟩ := List.forall_mem_cons.1 reads
    have written : (Json.object ((name, value) :: fields)).bytes ++ rest = ascii '\x7b' ::
        (stringBytes name ++ ascii ':' :: (value.bytes ++ (fieldsBytes fields ++ rest))) := by
      simp only [bytes, List.append_assoc, List.cons_append]
    have inside : value.bytes.length + (fieldsBytes fields).length ≤ fuel := by
      simp only [bytes, List.length_append, List.length_cons] at enough
      omega
    rw [written, parseValue_brace, parseFields_bytes name read reads rest inside]
    rfl

/-- Every value is read back. -/
theorem isRead (j : Json) : IsRead j := by
  induction j using inductionOn with
  | null =>
    intro fuel rest enough ends
    obtain ⟨fuel, rfl⟩ := exists_fuel enough
    rfl
  | bool b =>
    intro fuel rest enough ends
    obtain ⟨fuel, rfl⟩ := exists_fuel enough
    cases b <;> rfl
  | natural n =>
    intro fuel rest enough ends
    obtain ⟨fuel, rfl⟩ := exists_fuel enough
    exact parseValue_digitBytes fuel n ends
  | string s =>
    intro fuel rest enough ends
    obtain ⟨fuel, rfl⟩ := exists_fuel enough
    exact parseName_stringBytes s rest
  | array items reads => exact isRead_array reads
  | object fields reads => exact isRead_object reads

/-- Reading what a value was written as yields the draft of the value, and nothing is left. -/
theorem parse_bytes (j : Json) : parse j.bytes = (Draft.ofJson j, some []) := by
  have whole := isRead j (2 * j.bytes.length + 2) [] (by omega) ends_nil
  rwa [List.append_nil] at whole

end TestFleet.Json
