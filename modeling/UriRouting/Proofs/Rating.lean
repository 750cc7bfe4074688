/-
# UriRouting.Proofs.Rating — a match is always rated high enough

A rating starts at the required score and grows with what is matched, so no match should fall
short of what is required.  That is a matter of arithmetic, and routers do not calculate
exactly.  `RoundedScore` says what is needed of the numbers they calculate in: each stands for
a rational, and each operation is the one on rationals with its result rounded, in a way that
is monotone and keeps zero and one.  Nothing is asked about how far a result is rounded, and
none but the required score has to be kept.  Exact arithmetic is one instance; rationals with
any such rounding (`Rounding`) are others, and single precision without its infinities and
NaNs is of this kind.

Then a required score between zero and one is reached by every match (`required_le_rate`).
-/
import Mathlib.Algebra.Order.Field.Rat
import Mathlib.Tactic.Linarith
import UriRouting.Routing.Score

namespace UriRouting

set_option autoImplicit false

/-- Numbers that stand for rationals, with operations that round what is exact. -/
class RoundedScore (σ : Type) [ScoreNumber σ] where
  value : σ → ℚ
  round : ℚ → ℚ
  monotone : Monotone round
  round_zero : round 0 = 0
  round_one : round 1 = 1
  value_ofNat : ∀ n : Nat, value (ScoreNumber.ofNat n) = round n
  value_add : ∀ a b : σ, value (ScoreNumber.add a b) = round (value a + value b)
  value_sub : ∀ a b : σ, value (ScoreNumber.sub a b) = round (value a - value b)
  value_mul : ∀ a b : σ, value (ScoreNumber.mul a b) = round (value a * value b)
  value_div : ∀ a b : σ, value (ScoreNumber.div a b) = round (value a / value b)
  le_iff : ∀ a b : σ, ScoreNumber.le a b = true ↔ value a ≤ value b
  lt_iff : ∀ a b : σ, ScoreNumber.lt a b = true ↔ value a < value b

/-- Exact arithmetic rounds nothing. -/
instance : RoundedScore Rat where
  value := id
  round := id
  monotone := monotone_id
  round_zero := rfl
  round_one := rfl
  value_ofNat _ := rfl
  value_add _ _ := rfl
  value_sub _ _ := rfl
  value_mul _ _ := rfl
  value_div _ _ := rfl
  le_iff _ _ := decide_eq_true_iff
  lt_iff _ _ := decide_eq_true_iff

/-- A way to round that respects the order, and the two scores that bound all others. -/
structure Rounding where
  round : ℚ → ℚ
  monotone : Monotone round
  round_zero : round 0 = 0
  round_one : round 1 = 1

namespace Rounding

/-- A rational to be calculated with in rounded operations. -/
structure Number (ρ : Rounding) where
  value : ℚ
  deriving DecidableEq

variable (ρ : Rounding)

instance : ScoreNumber ρ.Number where
  ofNat n := ⟨ρ.round n⟩
  add a b := ⟨ρ.round (a.value + b.value)⟩
  sub a b := ⟨ρ.round (a.value - b.value)⟩
  mul a b := ⟨ρ.round (a.value * b.value)⟩
  div a b := ⟨ρ.round (a.value / b.value)⟩
  le a b := decide (a.value ≤ b.value)
  lt a b := decide (a.value < b.value)

instance : RoundedScore ρ.Number where
  value := Number.value
  round := ρ.round
  monotone := ρ.monotone
  round_zero := ρ.round_zero
  round_one := ρ.round_one
  value_ofNat _ := rfl
  value_add _ _ := rfl
  value_sub _ _ := rfl
  value_mul _ _ := rfl
  value_div _ _ := rfl
  le_iff _ _ := decide_eq_true_iff
  lt_iff _ _ := decide_eq_true_iff

end Rounding

namespace RoundedScore

variable {σ : Type} [ScoreNumber σ] [RoundedScore σ]

/-- Rounding leaves the number as it is. -/
def Kept (a : σ) : Prop := round σ (value a) = value a

theorem round_nonneg {q : ℚ} (h : 0 ≤ q) : 0 ≤ round σ q := by
  have le := monotone (σ := σ) h
  rwa [round_zero] at le

theorem bounds_of_inRange {a : σ} (h : Score.inRange a = true) : 0 ≤ value a ∧ value a ≤ 1 := by
  rw [Score.inRange, Bool.and_eq_true, le_iff, le_iff, value_ofNat, value_ofNat] at h
  simpa [round_zero, round_one] using h

/-- What is rated above the required score is not below zero, however it is rounded. -/
theorem surplus_nonneg {required : σ} (atMostOne : value required ≤ 1) (matched total : Nat) :
    0 ≤ value (ScoreNumber.mul (ScoreNumber.sub (ScoreNumber.ofNat 1) required)
      (ScoreNumber.div (ScoreNumber.ofNat matched) (ScoreNumber.ofNat total) : σ)) := by
  rw [value_mul, value_sub, value_div, value_ofNat, value_ofNat, value_ofNat]
  have slack : 0 ≤ round σ (round σ (1 : Nat) - value required) := by
    apply round_nonneg
    rw [Nat.cast_one, round_one]
    linarith
  have share : 0 ≤ round σ (round σ matched / round σ total) := by
    apply round_nonneg
    apply div_nonneg
    · exact round_nonneg (Nat.cast_nonneg matched)
    · exact round_nonneg (Nat.cast_nonneg total)
  exact round_nonneg (mul_nonneg slack share)

/-- **No match falls short:** whatever is matched of a text is rated as high as is required. -/
theorem required_le_rate {required : σ} (kept : Kept required)
    (valid : Score.inRange required = true) (matched : Nat) (t : Text) :
    ScoreNumber.le required (Score.rate required matched t) = true := by
  obtain ⟨-, atMostOne⟩ := bounds_of_inRange valid
  rw [le_iff, Score.rate]
  by_cases empty : t = []
  · rw [if_pos empty, value_ofNat, Nat.cast_one, round_one]
    exact atMostOne
  · rw [if_neg empty, value_add]
    have above := surplus_nonneg atMostOne matched (Text.size t)
    calc value required = round σ (value required) := kept.symm
      _ ≤ _ := monotone (by linarith)

end RoundedScore
end UriRouting
