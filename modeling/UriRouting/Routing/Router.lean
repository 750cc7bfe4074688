/-
# UriRouting.Routing.Router — routers

A router selects among its routes for what remains of a path, by the preference of its
policy. For four preferences the routes are asked in some order and the first that accepts
is selected: from the front, from the back, or around in a circle, from where the last
selection ended or from a random place. For the fifth all are asked and the highest rating
wins. A default route stands in when none is selected.
-/
import UriRouting.Routing.Route
import UriRouting.Routing.Policy
import UriRouting.Path.Pattern

namespace UriRouting

set_option autoImplicit false

structure Router (τ σ : Type) where
  policy : Policy σ
  routes : List (Route τ) := []
  default : Option (Route τ) := none
  /-- Where the next turn begins: behind the route that had the last one. -/
  cursor : Nat := 0

/-- What a router selects: one of its routes by position, or the default. -/
inductive Selection where
  | attached (index : Nat)
  | default
  deriving Repr, DecidableEq

/-- A selected route with what it matches of a text, and what it leaves. -/
structure Resolution where
  selection : Selection
  matched : Text
  remaining : Text
  bindings : Bindings
  deriving DecidableEq

namespace Router

variable {τ σ : Type} [ScoreNumber σ]

def ofPolicy (policy : Policy σ) : Router τ σ := { policy }

def attachRoute (r : Router τ σ) (route : Route τ) : Router τ σ :=
  { r with routes := r.routes ++ [route] }

def attach (r : Router τ σ) (pattern : Text) (target : τ) : Router τ σ :=
  r.attachRoute (.ofPattern pattern target)

def attachTemplate (r : Router τ σ) (template : Template) (target : τ) : Router τ σ :=
  r.attachRoute ⟨{ template }, target⟩

/-- The default route matches the empty front of every text. -/
def attachDefault (r : Router τ σ) (target : τ) : Router τ σ :=
  { r with default := some (.ofPattern [] target) }

/-- The route of a selection. -/
def route? (r : Router τ σ) : Selection → Option (Route τ)
  | .attached index => r.routes[index]?
  | .default => r.default

/-- The router with another route in the place of a selected one. -/
def setRoute (r : Router τ σ) (selection : Selection) (route : Route τ) : Router τ σ :=
  match selection with
  | .attached index => { r with routes := r.routes.set index route }
  | .default => { r with default := some route }

/-- All positions below `n`, from `start` on around in a circle. -/
def circle (start n : Nat) : List Nat := (List.range n).map fun offset => (start + offset) % n

/-- Asks the routes at these positions in order, up to the first that accepts. -/
def firstAccepting (required : σ) (remaining : Text) :
    List Nat → List (Route τ) → Logged (Option Nat × List (Route τ))
  | [], routes => pure (none, routes)
  | index :: order, routes =>
    match routes[index]? with
    | none => firstAccepting required remaining order routes
    | some route => do
      let (accepted, route) ← route.accepts remaining required
      if accepted then pure (some index, routes.set index route)
      else firstAccepting required remaining order (routes.set index route)

/-- A rating that is high enough and above the best so far is the best now. -/
def betterRating (required : σ) (best : Option (σ × Nat)) (index : Nat) :
    Option σ → Option (σ × Nat)
  | none => best
  | some rating =>
    if ScoreNumber.le required rating &&
        best.all fun (current, _) => ScoreNumber.lt current rating then
      some (rating, index)
    else best

/-- Asks all routes, of which the first has position `index`, for the best rating. -/
def bestRated (required : σ) (remaining : Text) :
    Option (σ × Nat) → Nat → List (Route τ) → Logged (Option Nat × List (Route τ))
  | best, _, [] => pure (best.map (·.2), [])
  | best, index, route :: routes => do
    let (rating, route) ← route.rate? remaining required
    let (selected, routes) ←
      bestRated required remaining (betterRating required best index rating) (index + 1) routes
    pure (selected, route :: routes)

/-- The positions in the order in which they are asked, `start` being a position
drawn at random. -/
def order (r : Router τ σ) (start : Nat) : List Nat :=
  let n := r.routes.length
  match r.policy.preference with
  | .best | .first => List.range n
  | .last => (List.range n).reverse
  | .next => circle r.cursor n
  | .random => circle start n

/-- Selects among the attached routes. A turn that is taken moves the cursor. -/
def selectAttached (r : Router τ σ) (start : Nat) (remaining : Text) :
    Logged (Option Nat × Router τ σ) := do
  let required := r.policy.requiredScore
  match r.policy.preference with
  | .best => do
    let (selected, routes) ← bestRated required remaining none 0 r.routes
    pure (selected, { r with routes })
  | .next => do
    let (selected, routes) ← firstAccepting required remaining (r.order start) r.routes
    pure (selected, { r with routes, cursor := (selected.map (· + 1)).getD r.cursor })
  | _ => do
    let (selected, routes) ← firstAccepting required remaining (r.order start) r.routes
    pure (selected, { r with routes })

/-- Falls back on the default route, if there is one and it accepts. -/
def selectDefault (r : Router τ σ) (remaining : Text) :
    Logged (Option Selection × Router τ σ) :=
  match r.default with
  | none => pure (none, r)
  | some route => do
    let (accepted, route) ← route.accepts remaining r.policy.requiredScore
    pure (if accepted then some .default else none, { r with default := some route })

def select (r : Router τ σ) (start : Nat) (remaining : Text) :
    Logged (Option Selection × Router τ σ) := do
  let (selected, r) ← r.selectAttached start remaining
  match selected with
  | some index => pure (some (.attached index), r)
  | none => r.selectDefault remaining

/-- Splits a text behind what a route has matched. -/
def resolution (selection : Selection) (remaining : Text) (parsed : Parsed) : Resolution :=
  let (matched, rest) := Text.splitAt parsed.size remaining
  ⟨selection, matched, rest, parsed.bindings⟩

/-- Selects a route and takes the text apart by it. -/
def resolve (r : Router τ σ) (start : Nat) (remaining : Text) :
    Logged (Option Resolution × Router τ σ) := do
  let (selected, r) ← r.select start remaining
  match selected.bind fun selection => (r.route? selection).map (selection, ·) with
  | none => pure (none, r)
  | some (selection, route) => do
    let (parsed, template) ← route.template.parse? remaining
    let r := r.setRoute selection { route with template }
    match parsed with
    | none => pure (none, r)
    | some parsed => do
      let resolved := resolution selection remaining parsed
      Logged.log [.routeResolved route.pattern resolved.matched resolved.remaining]
      pure (some resolved, r)

end Router
end UriRouting
