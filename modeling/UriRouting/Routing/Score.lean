/-
# UriRouting.Routing.Score — how well a route fits

A route that matches is rated between the required score and one, by the share of the text
that it matches. The rating is written once for all numbers that can do the arithmetic:
routers run on single precision, `ScoreNumber Rat` is the arithmetic that it approximates.
-/
import UriRouting.Text.Basic

namespace UriRouting

set_option autoImplicit false

/-- Numbers that scores are computed in. -/
class ScoreNumber (σ : Type) where
  ofNat : Nat → σ
  add : σ → σ → σ
  sub : σ → σ → σ
  mul : σ → σ → σ
  div : σ → σ → σ
  le : σ → σ → Bool
  lt : σ → σ → Bool

instance : ScoreNumber Float32 where
  ofNat := Float32.ofNat
  add := (· + ·)
  sub := (· - ·)
  mul := (· * ·)
  div := (· / ·)
  le a b := decide (a ≤ b)
  lt a b := decide (a < b)

instance : ScoreNumber Rat where
  ofNat n := (n : Rat)
  add := (· + ·)
  sub := (· - ·)
  mul := (· * ·)
  div := (· / ·)
  le a b := decide (a ≤ b)
  lt a b := decide (a < b)

namespace Score

variable {σ : Type} [ScoreNumber σ]

open ScoreNumber

/-- One half: the score that is required if nothing else is said. -/
def half : σ := div (ofNat 1) (ofNat 2)

/-- A score that can be required: at least zero and at most one. -/
def inRange (score : σ) : Bool := le (ofNat 0) score && le score (ofNat 1)

/-- The rating of a match of so many octets of a text. Nothing is left to match of an empty
text, so its rating is full. -/
def rate (required : σ) (matched : Nat) (t : Text) : σ :=
  if t = [] then ofNat 1
  else
    add required
      (mul (sub (ofNat 1) required) (div (ofNat matched) (ofNat (Text.size t))))

end Score
end UriRouting
