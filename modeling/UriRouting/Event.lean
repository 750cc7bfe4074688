/-
# UriRouting.Event — what is logged, and by which results

The library logs nothing itself: a function that has something to say returns a `Logged`
value, the answer with the events in the order in which they happened. `Event` has one
constructor for each thing that can happen; how it is worded is decided in `level`,
`message` and `fields`.
-/
import UriRouting.Pattern.Token

namespace UriRouting

set_option autoImplicit false

inductive Level where
  | warn
  | debug
  | trace
  deriving Repr, DecidableEq

def Level.name : Level → String
  | .warn => "WARN"
  | .debug => "DEBUG"
  | .trace => "TRACE"

inductive Event where
  | defect (pattern : Text) (defect : Pattern.Defect)
  /-- A search was given up, so nothing is known about the value. -/
  | searchGivenUp (pattern value : Text)
  | variableMatched (name value : Text)
  | candidateSelected (pattern path : Text)
  | routeResolved (pattern matched remaining : Text)
  deriving Repr, DecidableEq

namespace Event

def level : Event → Level
  | defect _ _ | searchGivenUp _ _ => .warn
  | variableMatched _ _ => .trace
  | candidateSelected _ _ | routeResolved _ _ _ => .debug

def message : Event → String
  | defect _ (.invalidCharacter _) => "invalid variable character"
  | defect _ .emptyVariable => "empty template variable"
  | defect _ .unbalancedBrace => "unbalanced brace in template"
  | defect _ .unterminatedVariable => "unterminated template variable"
  | searchGivenUp _ _ => "template not matched"
  | variableMatched _ _ => "template variable matched"
  | candidateSelected _ _ => "route candidate selected"
  | routeResolved _ _ _ => "route resolved"

/-- Why a search is given up. -/
def limitExceeded : String :=
  "Error executing regex: Max limit for backtracking count exceeded"

def fields : Event → List (String × Text)
  | defect pattern (.invalidCharacter c) => [("pattern", pattern), ("character", [c])]
  | defect pattern _ => [("pattern", pattern)]
  | searchGivenUp pattern value =>
    [("pattern", pattern), ("value", value), ("err", limitExceeded.toList)]
  | variableMatched name value => [("name", name), ("value", value)]
  | candidateSelected pattern path => [("pattern", pattern), ("path", path)]
  | routeResolved pattern matched remaining =>
    [("pattern", pattern), ("matched", matched), ("remaining", remaining)]

end Event

/-- The defects of a pattern as events. -/
def Pattern.events (pattern : Text) : List Event := (defects pattern).map (.defect pattern)

/-- An answer, and what happened on the way to it. -/
structure Logged (α : Type) where
  answer : α
  events : List Event := []
  deriving Repr, DecidableEq

namespace Logged

variable {α β : Type}

instance : Monad Logged where
  pure a := ⟨a, []⟩
  bind x f := ⟨(f x.answer).answer, x.events ++ (f x.answer).events⟩

@[simp] theorem answer_pure (a : α) : (pure a : Logged α).answer = a := rfl

@[simp] theorem events_pure (a : α) : (pure a : Logged α).events = [] := rfl

@[simp] theorem answer_bind (x : Logged α) (f : α → Logged β) :
    (x >>= f).answer = (f x.answer).answer := rfl

@[simp] theorem events_bind (x : Logged α) (f : α → Logged β) :
    (x >>= f).events = x.events ++ (f x.answer).events := rfl

/-- The answer without anything logged, but these events. -/
def log (events : List Event) : Logged Unit := ⟨(), events⟩

@[simp] theorem events_log (events : List Event) : (log events).events = events := rfl

end Logged
end UriRouting
