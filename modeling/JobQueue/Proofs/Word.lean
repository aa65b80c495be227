import JobQueue.Word
import Mathlib.Tactic.Ring

/-! Arithmetic within a machine word, which finds out when a result does not fit. -/

namespace JobQueue.Word

variable {most : Nat}

/-- A number that fits a word, of which `most` is the greatest. -/
def fit? (most n : Nat) : Option Nat :=
  if n ≤ most then some n else none

theorem fit?_of_le {n : Nat} (h : n ≤ most) : fit? most n = some n :=
  if_pos h

theorem getD_fit? (n : Nat) : (fit? most n).getD most = min n most := by
  unfold fit?
  split <;> simp <;> omega

/-- A number on the way to a greater one fits if that one does. -/
theorem fit?_bind {n m : Nat} {f : Nat → Option Nat} (hle : n ≤ m)
    (hf : n ≤ most → f n = fit? most m) : (fit? most n).bind f = fit? most m := by
  by_cases h : n ≤ most
  · rw [fit?_of_le h, Option.bind_some, hf h]
  · simp [fit?, h, show ¬ m ≤ most by omega]

/-! ### Powers -/

/-- A power times `acc`, by repeated squaring. The base is not squared again once the exponent is 1. -/
def powerFrom? (most acc base exponent : Nat) : Option Nat :=
  if exponent = 0 then some acc
  else if exponent = 1 then fit? most (acc * base)
  else
    (if exponent % 2 = 1 then fit? most (acc * base) else some acc).bind fun acc =>
      (fit? most (base * base)).bind fun base =>
        powerFrom? most acc base (exponent / 2)
termination_by exponent

/-- No product on the way to a power is greater than the power, unless this one is zero. -/
theorem powerFrom?_eq {acc base : Nat} (exponent : Nat) (hacc : acc ≤ most) (hzero : acc = 0 → base = 0) :
    powerFrom? most acc base exponent = fit? most (acc * base ^ exponent) := by
  induction exponent using Nat.strong_induction_on generalizing acc base with
  | _ exponent ih =>
    rw [powerFrom?]
    split_ifs with h0 h1 hodd
    · simp [h0, fit?_of_le hacc]
    · simp [h1]
    all_goals
      have hsquare : base * base ≤ acc * base ^ exponent := by
        rcases Nat.eq_zero_or_pos base with rfl | hbase
        · simp
        · have hpos : 1 ≤ acc := by omega
          calc base * base = 1 * base ^ 2 := by ring
            _ ≤ acc * base ^ exponent :=
              Nat.mul_le_mul hpos (Nat.pow_le_pow_right hbase (by omega))
    · have hpower : acc * base ^ exponent = acc * base * (base * base) ^ (exponent / 2) := by
        conv_lhs => rw [show exponent = 2 * (exponent / 2) + 1 by omega, pow_succ, pow_mul]
        ring
      have hfirst : acc * base ≤ acc * base ^ exponent :=
        Nat.mul_le_mul_left acc (Nat.le_self_pow h0 base)
      refine fit?_bind hfirst fun hle => fit?_bind hsquare fun _ => ?_
      rw [hpower]
      refine ih _ (by omega) hle fun hnone => ?_
      rcases Nat.mul_eq_zero.1 hnone with h | h <;> simp_all
    · have hpower : acc * base ^ exponent = acc * (base * base) ^ (exponent / 2) := by
        conv_lhs => rw [show exponent = 2 * (exponent / 2) by omega, pow_mul]
        ring
      refine fit?_bind hsquare fun _ => ?_
      rw [hpower]
      exact ih _ (by omega) hacc fun hnone => by simp [hzero hnone]

/-- A power, if it fits. -/
def power? (most base exponent : Nat) : Option Nat :=
  powerFrom? most 1 base exponent

theorem power?_eq {base exponent : Nat} (hmost : 1 ≤ most) :
    power? most base exponent = fit? most (base ^ exponent) := by
  rw [power?, powerFrom?_eq exponent hmost (by simp), Nat.one_mul]

end JobQueue.Word
