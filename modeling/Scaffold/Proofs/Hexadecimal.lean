import Mathlib.Algebra.Ring.Nat
import Scaffold.Document.Json
import Scaffold.Text.Pad

/-!
# Hexadecimal digits read back

A number that fits into some digits is written with just so many of them, and they denote it.
-/
namespace Scaffold.Text

open Document.Json (hexNumber? hexValue?)

theorem hexDigits_one {n : Nat} (h : n < 16) : hexDigits 1 n = [n.digitChar] := by
  rw [hexDigits, Nat.toDigits_of_lt_base h]
  rfl

/-- The last digit stands for the remainder. -/
theorem hexDigits_succ (more n : Nat) :
    hexDigits (more + 2) n = hexDigits (more + 1) (n / 16) ++ [(n % 16).digitChar] := by
  by_cases hsmall : n < 16
  · have hzero : n / 16 = 0 := Nat.div_eq_of_lt hsmall
    have hdigit : n % 16 = n := Nat.mod_eq_of_lt hsmall
    simp [hexDigits, Nat.toDigits_of_lt_base hsmall, hzero, hdigit, Nat.toDigits_zero,
      List.replicate_succ']
  · have hdigits := Nat.toDigits_of_base_le (b := 16) (by decide) (Nat.not_lt.1 hsmall)
    simp [hexDigits, hdigits]

theorem length_hexDigits (more : Nat) {n : Nat} (h : n < 16 ^ (more + 1)) :
    (hexDigits (more + 1) n).length = more + 1 := by
  have hle : (Nat.toDigits 16 n).length ≤ more + 1 :=
    (Nat.length_toDigits_le_iff (by decide) (Nat.succ_pos more)).2 h
  simp only [hexDigits, List.length_append, List.length_replicate]
  omega

theorem hexValue?_digitChar {d : Nat} (h : d < 16) : hexValue? d.digitChar = some d := by
  have hall : ∀ d < 16, hexValue? (Nat.digitChar d) = some d := by decide
  exact hall d h

theorem exists_of_mem_hexDigits (more : Nat) {n : Nat} (h : n < 16 ^ (more + 1)) {c : Char}
    (hc : c ∈ hexDigits (more + 1) n) : ∃ d < 16, c = Nat.digitChar d := by
  induction more generalizing n with
  | zero =>
    have hsmall : n < 16 := h
    rw [hexDigits_one hsmall, List.mem_singleton] at hc
    exact ⟨n, hsmall, hc⟩
  | succ more ih =>
    rw [hexDigits_succ, List.mem_append, List.mem_singleton] at hc
    rcases hc with hc | hc
    · rw [Nat.pow_succ] at h
      exact ih (Nat.div_lt_of_lt_mul (by omega)) hc
    · exact ⟨n % 16, Nat.mod_lt n (by decide), hc⟩

/-- What is no number stays none, whatever digits follow. -/
theorem foldl_hexValue?_none (cs : List Char) :
    cs.foldl (fun n c => n.bind fun n => (hexValue? c).map (n * 16 + ·)) none = none := by
  induction cs with
  | nil => rfl
  | cons c cs ih => exact ih

/-- By induction on the number of digits: all but the last one denote the quotient. -/
theorem hexNumber?_hexDigits (more : Nat) {n : Nat} (h : n < 16 ^ (more + 1)) :
    hexNumber? (hexDigits (more + 1) n) = some n := by
  induction more generalizing n with
  | zero =>
    have hsmall : n < 16 := h
    rw [hexDigits_one hsmall]
    simp [hexNumber?, hexValue?_digitChar hsmall]
  | succ more ih =>
    have hquotient : n / 16 < 16 ^ (more + 1) := by
      rw [Nat.pow_succ] at h
      exact Nat.div_lt_of_lt_mul (by omega)
    have hread : hexNumber? (hexDigits (more + 1) (n / 16)) = some (n / 16) := ih hquotient
    rw [hexNumber?] at hread
    rw [hexDigits_succ, hexNumber?, List.foldl_append, hread]
    simp only [List.foldl_cons, List.foldl_nil, Option.bind_some,
      hexValue?_digitChar (Nat.mod_lt n (by decide)), Option.map_some, Option.some.injEq]
    omega

end Scaffold.Text
