/-
# UriRouting.Path.Ranking — the candidate that fits a path best

Of all candidates whose patterns match a path a `Ranking` selects the one of the highest
`Rank`: more literal characters, then more variables, then a method before a locator. Of
candidates of the same rank the first wins.
-/
import UriRouting.Path.Pattern

namespace UriRouting

set_option autoImplicit false

inductive Target where
  | method
  | locator
  deriving Repr, DecidableEq

structure Rank where
  literals : Nat
  groups : Nat
  target : Target
  deriving Repr, DecidableEq

/-- `a` is strictly above `b`. -/
def Rank.above (a b : Rank) : Bool :=
  b.literals < a.literals ||
    a.literals == b.literals &&
      (b.groups < a.groups || a.groups == b.groups && a.target == .method && b.target == .locator)

structure Candidate (δ : Type) where
  pattern : PathPattern
  target : Target
  data : δ

/-- A candidate that matches a path, and how. -/
structure Candidate.Selected (δ : Type) where
  candidate : Candidate δ
  rank : Rank
  matching : Matching

namespace Candidate

variable {δ : Type}

/-- The candidate with its rank and its matching, if it matches the path. -/
def select? (c : Candidate δ) (path : Text) :
    Logged (Option (Selected δ) × Candidate δ) := do
  let (matching, pattern) ← c.pattern.matching? path
  match matching with
  | none => pure (none, { c with pattern })
  | some matching => do
    let (groups, pattern) ← pattern.capturingGroups
    let c := { c with pattern }
    pure (some ⟨c, ⟨pattern.literalChars, groups, c.target⟩, matching⟩, c)

/-- A later candidate has to be strictly above the best so far. -/
def Selected.better (best : Option (Selected δ)) (later : Selected δ) : Option (Selected δ) :=
  match best with
  | none => some later
  | some best => some (if later.rank.above best.rank then later else best)

end Candidate

structure Ranking (δ : Type) where
  candidates : List (Candidate δ) := []

namespace Ranking

variable {δ : Type}

def add (r : Ranking δ) (pattern : PathPattern) (target : Target) (data : δ) : Ranking δ :=
  ⟨r.candidates ++ [⟨pattern, target, data⟩]⟩

/-- The best of a selection and of all candidates that match. -/
def bestOf (path : Text) : Option (Candidate.Selected δ) → List (Candidate δ) →
    Logged (Option (Candidate.Selected δ) × List (Candidate δ))
  | best, [] => pure (best, [])
  | best, c :: candidates => do
    let (selected, c) ← c.select? path
    let best := match selected with
      | some selected => Candidate.Selected.better best selected
      | none => best
    let (best, candidates) ← bestOf path best candidates
    pure (best, c :: candidates)

def selectionEvents (path : Text) : Option (Candidate.Selected δ) → List Event
  | some selected => [.candidateSelected selected.candidate.pattern.text path]
  | none => []

def best (r : Ranking δ) (path : Text) :
    Logged (Option (Candidate.Selected δ) × Ranking δ) := do
  let (best, candidates) ← bestOf path none r.candidates
  Logged.log (selectionEvents path best)
  pure (best, ⟨candidates⟩)

end Ranking
end UriRouting
