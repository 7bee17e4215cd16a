import MatrixGoose.Foundation.FirstMatch

/-!
# Decimal numerals

Numerals may have leading zeros, so a number has several of them; padding to a
width picks one for each number, and does so without a clash even for the numbers
that are longer than the width.
-/

namespace Foundation

/-- Digits, at least one, with a value. -/
structure Numeral (cs : List Char) (n : Nat) : Prop where
  ne_nil : cs ≠ []
  isDigit : forall c, c ∈ cs -> c.isDigit = true
  value : Nat.ofDigitChars 10 cs 0 = n

namespace Numeral

def padded (width n : Nat) : List Char :=
  (Nat.toDigits 10 n).leftpad width '0'

theorem unique {cs : List Char} {m n : Nat} (hm : Numeral cs m) (hn : Numeral cs n) :
    m = n :=
  hm.value.symm.trans hn.value

theorem numeral_toDigits (n : Nat) : Numeral (Nat.toDigits 10 n) n where
  ne_nil := Nat.toDigits_ne_nil
  isDigit _ hc := Nat.isDigit_of_mem_toDigits (by simp) (by simp) hc
  value := Nat.ofDigitChars_ten_toDigits

theorem leadingZeros {cs : List Char} {n : Nat} (h : Numeral cs n) (zeros : Nat) :
    Numeral (List.replicate zeros '0' ++ cs) n where
  ne_nil := by
    intro hnil
    exact h.ne_nil (List.append_eq_nil_iff.mp hnil).2
  isDigit := by
    intro c hc
    rcases List.mem_append.mp hc with hzero | hdigit
    · rw [List.eq_of_mem_replicate hzero]
      rfl
    · exact h.isDigit c hdigit
  value := by
    rw [Nat.ofDigitChars_append, Nat.ofDigitChars_replicate_zero, Nat.mul_zero, h.value]

theorem numeral_padded (width n : Nat) : Numeral (padded width n) n :=
  (numeral_toDigits n).leadingZeros _

theorem padded_injective {width m n : Nat} (h : padded width m = padded width n) : m = n := by
  have hm := numeral_padded width m
  rw [h] at hm
  exact hm.unique (numeral_padded width n)

theorem notMem {cs : List Char} {n : Nat} (h : Numeral cs n) {c : Char}
    (hc : c.isDigit = false) : c ∉ cs := by
  intro hmem
  rw [h.isDigit c hmem] at hc
  cases hc

theorem eq_of_append_eq {cs cs' rest rest' : List Char} {m n : Nat} {stop : Char}
    (hm : Numeral cs m) (hn : Numeral cs' n) (hstop : stop.isDigit = false)
    (h : cs ++ stop :: rest = cs' ++ stop :: rest') : m = n := by
  have hfind := FirstMatch.find_append_cons rest (hm.notMem hstop)
  rw [h, FirstMatch.find_append_cons rest' (hn.notMem hstop), Option.some.injEq] at hfind
  have hcs := (List.append_inj h hfind.symm).1
  rw [hcs] at hm
  exact hm.unique hn

end Numeral

end Foundation
