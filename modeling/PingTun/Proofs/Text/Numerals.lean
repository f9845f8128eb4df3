-- SUMMARY: Numerals that are written can be read again.
import Mathlib.Data.List.Basic
import PingTun.Text.Numeral

/-! # Numerals

What is written of a number are digits only, at least one of them, and to read them gives the number
back.
-/

namespace PingTun.Numeral

theorem text_eq (n : Nat) : text n = toString n := by
  rw [Nat.toString_eq_ofList_toDigits, text, chars]

theorem isDigit_of_mem_chars {n : Nat} {c : Char} (h : c ∈ chars n) : c.isDigit = true :=
  Nat.isDigit_of_mem_toDigits (by decide) (by decide) h

theorem chars_ne_nil (n : Nat) : chars n ≠ [] := Nat.toDigits_ne_nil

theorem not_mem_chars {c : Char} (hc : c.isDigit = false) (n : Nat) : c ∉ chars n := by
  intro hmem
  rw [isDigit_of_mem_chars hmem] at hc
  cases hc

/-- Only zero itself is written with a zero in front. -/
theorem head?_chars {n : Nat} (h : 0 < n) : (chars n).head? ≠ some '0' := by
  induction n using Nat.strongRecOn with
  | ind n ih =>
    rw [chars, Nat.toDigits_eq_if (by decide)]
    split
    · rename_i hlt
      intro hzero
      have hvalue := congrArg Char.toNat (Option.some.inj hzero)
      rw [Nat.toNat_digitChar_of_lt_ten hlt] at hvalue
      have : n = 0 := Nat.add_left_cancel hvalue
      omega
    · rw [List.head?_append_of_ne_nil _ Nat.toDigits_ne_nil]
      exact ih (n / 10) (by omega) (by omega)

theorem ofDigitChars_chars (n : Nat) : Nat.ofDigitChars 10 (chars n) 0 = n :=
  Nat.ofDigitChars_toDigits (by decide) (by decide)

/-! ## Reading -/

theorem le_ofDigitChars (n : Nat) (cs : List Char) : n ≤ Nat.ofDigitChars 10 cs n := by
  induction cs generalizing n with
  | nil => exact Nat.le_refl n
  | cons c cs ih =>
    rw [Nat.ofDigitChars_cons]
    calc
      n ≤ 10 * n + (c.toNat - '0'.toNat) := by omega
      _ ≤ _ := ih _

/-- Digits are read one after the other as long as the number stays within its bound. -/
theorem extend_digits {bound : Nat} {outgrown : Flaw} {n : Nat} {cs : List Char}
    (hdigits : ∀ c ∈ cs, c.isDigit = true) (hle : Nat.ofDigitChars 10 cs n ≤ bound) :
    extend bound outgrown n cs = .ok (Nat.ofDigitChars 10 cs n) := by
  induction cs generalizing n with
  | nil => rfl
  | cons c cs ih =>
    obtain ⟨hdigit, hrest⟩ := List.forall_mem_cons.mp hdigits
    rw [Nat.ofDigitChars_cons, Nat.mul_comm] at hle ⊢
    have hvalue : digit? c = some (c.toNat - '0'.toNat) := if_pos hdigit
    have hfits : n * 10 + (c.toNat - '0'.toNat) ≤ bound := Nat.le_trans (le_ofDigitChars ..) hle
    simp only [extend, hvalue, if_pos hfits]
    exact ih hrest hle

/-- A numeral without a sign is all digits. -/
theorem readNat_of_ne {bound : Nat} {c : Char} (cs : List Char) (h : c ≠ '+') :
    readNat bound (c :: cs) = extend bound .tooLarge 0 (c :: cs) := by
  unfold readNat
  split
  · rename_i heq
    cases heq
  · rename_i heq
    exact absurd (List.cons.inj heq).1 h
  · rename_i heq
    exact absurd (List.cons.inj heq).1 h
  · rfl

/-- A number that is within the bound is read again. -/
theorem readNat_chars {bound n : Nat} (h : n ≤ bound) : readNat bound (chars n) = .ok n := by
  have hextend : extend bound .tooLarge 0 (chars n) = .ok n := by
    rw [extend_digits (fun c => isDigit_of_mem_chars), ofDigitChars_chars]
    rwa [ofDigitChars_chars]
  have hsign : '+' ∉ chars n := not_mem_chars rfl n
  cases hchars : chars n with
  | nil => exact absurd hchars (chars_ne_nil n)
  | cons c cs =>
    rw [hchars] at hsign
    rw [readNat_of_ne cs fun hc => hsign (hc ▸ List.mem_cons_self), ← hchars, hextend]

end PingTun.Numeral
