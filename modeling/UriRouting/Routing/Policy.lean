/-
# UriRouting.Routing.Policy — how a router selects

A policy says which of the routes that accept is preferred, and the score that a route has
to reach to accept. It is valid if that score lies between zero and one; a score that is no
number does not.
-/
import UriRouting.Decimal.Shortest
import UriRouting.Routing.Score
import UriRouting.Text.Named

namespace UriRouting

set_option autoImplicit false

/-- Which of the routes that accept is selected. -/
inductive Preference where
  /-- The one of the highest score. -/
  | best
  | first
  | last
  /-- Each in turn. -/
  | next
  | random
  deriving Repr, DecidableEq

namespace Preference

def name : Preference → String
  | best => "best"
  | first => "first"
  | last => "last"
  | next => "next"
  | random => "random"

def label : Preference → String
  | best => "Best"
  | first => "First"
  | last => "Last"
  | next => "Next"
  | random => "Random"

instance : Named Preference where
  noun := "routing mode"
  values := [best, first, last, next, random]
  name := name
  label := label
  fold := Text.lowered
  complete a := by cases a <;> decide
  fold_name a := by cases a <;> decide
  name_injective := by decide

end Preference

structure Policy (σ : Type) where
  preference : Preference
  requiredScore : σ

namespace Policy

variable {σ : Type} [ScoreNumber σ]

def default : Policy σ := ⟨.first, Score.half⟩

def isValid (p : Policy σ) : Bool := Score.inRange p.requiredScore

end Policy

/-- A required score that no route could be held to. -/
structure ScoreOutOfRange where
  score : Float32

namespace ScoreOutOfRange

/-- Scores are written without an exponent, however many zeros that takes, and whole ones
without a point; half way the greater decimal is taken. -/
def style : Decimal.Style where
  tie := .up
  wholePoint := false
  plain := none

def message (e : ScoreOutOfRange) : String :=
  "required score out of range: " ++
    String.ofList (Decimal.write style .single e.score.toBits.toNat)

end ScoreOutOfRange

/-- The policy, if its required score can be required. -/
def Policy.validate (p : Policy Float32) : Except ScoreOutOfRange (Policy Float32) :=
  if p.isValid then .ok p else .error ⟨p.requiredScore⟩

end UriRouting
