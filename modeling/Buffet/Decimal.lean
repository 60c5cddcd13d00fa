import Mathlib.Data.Nat.Digits
import Mathlib.Tactic.IntervalCases

/-! # Decimal numerals

`std::to_string` of an `int` is its decimal numeral, as Lean's `toString` on `Int` is. Reading
the digits back gives the number, so distinct numbers have distinct numerals.
-/

namespace Buffet.Decimal

/-- The decimal digits of `n`, most significant first. -/
def decimal (n : Nat) : List Char :=
  if n < 10 then [Nat.digitChar n] else decimal (n / 10) ++ [Nat.digitChar (n % 10)]
termination_by n
decreasing_by omega

theorem decimal_eq (n : Nat) :
    decimal n = if n < 10 then [Nat.digitChar n]
      else decimal (n / 10) ++ [Nat.digitChar (n % 10)] := by
  rw [decimal]

theorem toDigitsCore_eq : ∀ (fuel n : Nat) (ds : List Char), n < fuel →
    Nat.toDigitsCore 10 fuel n ds = decimal n ++ ds
  | 0, _, _, h => absurd h (Nat.not_lt_zero _)
  | fuel + 1, n, ds, h => by
    rw [Nat.toDigitsCore, decimal_eq]
    by_cases h10 : n < 10
    · simp [h10, Nat.mod_eq_of_lt h10, Nat.div_eq_of_lt h10]
    · have hdiv : n / 10 ≠ 0 := by omega
      simp only [hdiv, if_false, h10]
      rw [toDigitsCore_eq fuel (n / 10) _ (by omega)]
      simp

theorem repr_eq (n : Nat) : Nat.repr n = (decimal n).asString := by
  rw [Nat.repr, Nat.toDigits, toDigitsCore_eq _ _ _ (Nat.lt_succ_self n), List.append_nil]

/-- The value of a string of decimal digits read most significant first, as `std::stoi` reads
it. -/
def digitsValue (l : List Char) : Nat := l.foldl (fun acc c => 10 * acc + (c.toNat - 48)) 0

theorem digitChar_toNat {d : Nat} (h : d < 10) : (Nat.digitChar d).toNat - 48 = d := by
  interval_cases d <;> rfl

theorem digitsValue_decimal (n : Nat) : digitsValue (decimal n) = n := by
  induction n using Nat.strong_induction_on with
  | _ n ih =>
    rw [decimal_eq]
    split_ifs with h
    · simp [digitsValue, digitChar_toNat h]
    · have hlast : digitsValue (decimal (n / 10) ++ [Nat.digitChar (n % 10)]) =
          10 * digitsValue (decimal (n / 10)) + ((Nat.digitChar (n % 10)).toNat - 48) := by
        simp [digitsValue, List.foldl_append]
      rw [hlast, ih _ (by omega)]
      have := digitChar_toNat (Nat.mod_lt n (by omega : 10 > 0))
      omega

theorem repr_injective : Function.Injective Nat.repr := by
  intro a b h
  rw [repr_eq, repr_eq] at h
  have h' : decimal a = decimal b := by simpa [List.asString] using congrArg String.data h
  rw [← digitsValue_decimal a, ← digitsValue_decimal b, h']

theorem toString_natCast_injective : Function.Injective fun n : Nat => toString (n : Int) :=
  fun _ _ h => repr_injective h

end Buffet.Decimal
