/-
# UriRouting.Routing.Route — routes

A route leads from a template to a target. It rates what remains of a path by how much of
it the template matches, and accepts it if the rating reaches what is required.
-/
import UriRouting.Routing.Score
import UriRouting.Template.Cached

namespace UriRouting

set_option autoImplicit false

structure Route (τ : Type) where
  template : CachedTemplate
  target : τ

namespace Route

variable {τ σ : Type} [ScoreNumber σ]

/-- The route of a pattern matches the front of a text. -/
def ofPattern (pattern : Text) (target : τ) : Route τ :=
  ⟨{ template := { pattern, mode := .startsWith } }, target⟩

def pattern (r : Route τ) : Text := r.template.template.pattern

def mode (r : Route τ) : Mode := r.template.template.mode

/-- The rating of the route for what remains of a path, if it matches. -/
def rate? (r : Route τ) (remaining : Text) (required : σ) : Logged (Option σ × Route τ) := do
  let (matched, template) ← r.template.matchedSize? remaining
  pure (matched.map fun n => Score.rate required n remaining, { r with template })

/-- The rating, or zero if the route does not match. -/
def score (r : Route τ) (remaining : Text) (required : σ) : Logged (σ × Route τ) := do
  let (rating, r) ← r.rate? remaining required
  pure (rating.getD (ScoreNumber.ofNat 0), r)

/-- The route matches, and is rated as high as required. -/
def accepts (r : Route τ) (remaining : Text) (required : σ) : Logged (Bool × Route τ) := do
  let (rating, r) ← r.rate? remaining required
  pure (rating.any fun s => ScoreNumber.le required s, r)

end Route
end UriRouting
