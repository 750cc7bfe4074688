/-
# UriRouting.Request.Handlers — handlers by method

A resource has at most one handler for each method. A request for its head is served by its
GET handler if it has none for HEAD: `Handlers.resolve?` says which handler serves a
request, and `prefer` picks among handlers of several resources.
-/
import UriRouting.Request.Method

namespace UriRouting

set_option autoImplicit false

structure Handlers (η : Type) where
  handler? : Method → Option η

namespace Handlers

variable {η : Type}

def empty : Handlers η := ⟨fun _ => none⟩

def insert (r : Handlers η) (method : Method) (handler : η) : Handlers η :=
  ⟨fun other => if other = method then some handler else r.handler? other⟩

/-- The handlers in the order of the methods. -/
def entries (r : Handlers η) : List (Method × η) :=
  (Named.values : List Method).filterMap fun method => (r.handler? method).map (method, ·)

/-- The handler that serves a method, and the method that it is for. -/
def resolve? (r : Handlers η) (method : Method) : Option (Method × η) :=
  match r.handler? method with
  | some handler => some (method, handler)
  | none => if method = .head then (r.handler? .get).map (.get, ·) else none

/-- The methods that are served. -/
def allowed (r : Handlers η) : List Method :=
  (Named.values : List Method).filter fun method => (r.resolve? method).isSome

/-- A later candidate takes the place of `best` in one case: it is the first GET handler
that comes after a HEAD handler, and the request is for a head. -/
def preferOver (method : Method) (best candidate : Method × η) : Method × η :=
  if method = .head ∧ best.1 = .head ∧ candidate.1 = .get then candidate else best

/-- The candidate that is to serve a request. -/
def prefer (method : Method) : List (Method × η) → Option (Method × η)
  | [] => none
  | first :: candidates => some (candidates.foldl (preferOver method) first)

end Handlers
end UriRouting
