import Mathlib.Algebra.Ring.Nat
import TestFleet.Identity

/-!
# The number of a client as text

A client's number is read back from the digits in groups that it is shown as.

* `hexNumber?_digits`: so many digits write the number up to the power of sixteen;
* `ClientId.ofText?_shown`: the number from its text.
-/

namespace TestFleet

theorem hexValue?_digitChar {d : Nat} (small : d < 16) :
    Text.hexValue? (Nat.digitChar d) = some d := by
  have all : ∀ d : Fin 16, Text.hexValue? (Nat.digitChar d) = some d.val := by decide
  exact all ⟨d, small⟩

theorem hexNumber?_append_singleton {cs : List Char} {m d : Nat}
    (front : Text.hexNumber? cs = some m) (small : d < 16) :
    Text.hexNumber? (cs ++ [Nat.digitChar d]) = some (16 * m + d) := by
  rw [Text.hexNumber?] at front
  rw [Text.hexNumber?, List.foldl_append, front, List.foldl_cons, List.foldl_nil,
    hexValue?_digitChar small]
  rfl

theorem hexNumber?_digits (n k : Nat) :
    Text.hexNumber? ((List.range k).map fun i =>
      Nat.digitChar ((n >>> (4 * (k - 1 - i))) % 16)) = some (n % 16 ^ k) := by
  induction k generalizing n with
  | zero => simp [Text.hexNumber?, Nat.mod_one]
  | succ k ih =>
    -- All digits but the last are those of what is left without it.
    have front : (List.range k).map (fun i => Nat.digitChar ((n >>> (4 * (k + 1 - 1 - i))) % 16)) =
        (List.range k).map fun i =>
          Nat.digitChar (((n >>> 4) >>> (4 * (k - 1 - i))) % 16) := by
      refine List.map_congr_left fun i mem => ?_
      have less := List.mem_range.1 mem
      rw [← Nat.shiftRight_add, show 4 + 4 * (k - 1 - i) = 4 * (k + 1 - 1 - i) by omega]
    have last : (n >>> (4 * (k + 1 - 1 - k))) % 16 = n % 16 := by
      rw [show 4 * (k + 1 - 1 - k) = 0 by omega, Nat.shiftRight_zero]
    rw [List.range_succ, List.map_append, List.map_singleton, front, last,
      hexNumber?_append_singleton (ih (n >>> 4)) (Nat.mod_lt n (by decide))]
    have next : n % 16 ^ (k + 1) = n % 16 + 16 * (n / 16 % 16 ^ k) := by
      rw [Nat.pow_succ', Nat.mod_mul]
    rw [next, Nat.shiftRight_eq_div_pow, Nat.add_comm]

namespace ClientId

theorem length_digits (c : ClientId) : c.digits.length = 32 := by
  rw [digits, List.length_map, List.length_range]

theorem ofDigits?_digits (c : ClientId) : ofDigits? c.digits = some c := by
  have number : Text.hexNumber? c.digits = some (c.number.toNat % 16 ^ 32) :=
    hexNumber?_digits c.number.toNat 32
  have less : c.number.toNat < 16 ^ 32 := Nat.lt_of_lt_of_eq c.number.isLt (by decide)
  rw [ofDigits?, if_pos c.length_digits, number, Nat.mod_eq_of_lt less, Option.map_some,
    BitVec.ofNat_toNat, BitVec.setWidth_eq]

theorem ungroup?_groups {a b c d e : List Char} (ha : a.length = 8) (hb : b.length = 4)
    (hc : c.length = 4) (hd : d.length = 4) (he : e.length = 12) :
    ungroup? (a ++ '-' :: b ++ '-' :: c ++ '-' :: d ++ '-' :: e) =
      some (a ++ b ++ c ++ d ++ e) := by
  simp (disch := omega) [ungroup?, ha, hb, hc, hd, he, List.getElem?_append, List.drop_append,
    List.drop_eq_nil_of_le, List.getElem?_cons_zero]

theorem take_drop_append (m n : Nat) (cs : List Char) :
    (cs.drop m).take n ++ cs.drop (m + n) = cs.drop m := by
  rw [← List.drop_drop, List.take_append_drop]

theorem ofText?_shown (c : ClientId) : ofText? c.shown = some c := by
  have cut := c.length_digits
  have whole : c.digits.take 8 ++ (c.digits.drop 8).take 4 ++ (c.digits.drop 12).take 4 ++
      (c.digits.drop 16).take 4 ++ c.digits.drop 20 = c.digits := by
    simp only [List.append_assoc]
    rw [take_drop_append 16 4, take_drop_append 12 4, take_drop_append 8 4, List.take_append_drop]
  have grouped : ungroup? c.shown.toList = some c.digits := by
    rw [shown, String.toList_ofList]
    refine (ungroup?_groups ?_ ?_ ?_ ?_ ?_).trans (congrArg some whole) <;> simp [cut]
  have long : c.shown.toList.length = 36 := by simp [shown, cut]
  unfold ofText?
  dsimp only
  rw [if_neg (by rw [long]; decide), if_pos long, grouped]
  exact c.ofDigits?_digits

end ClientId

end TestFleet
