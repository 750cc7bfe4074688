/-
# UriRouting.Template.Mode — what may follow a match

A template matches a whole text, the front of a text, or the front of a text up to the end
of a path segment. `Mode.fits` decides it from the text that follows the match.
-/
import UriRouting.Text.Named

namespace UriRouting

set_option autoImplicit false

inductive Mode where
  | equals
  | startsWith
  | startsWithSegment
  deriving Repr, DecidableEq

namespace Mode

def name : Mode → String
  | equals => "equals"
  | startsWith => "starts_with"
  | startsWithSegment => "starts_with_segment"

def label : Mode → String
  | equals => "Equals"
  | startsWith => "StartsWith"
  | startsWithSegment => "StartsWithSegment"

instance : Named Mode where
  noun := "matching mode"
  values := [equals, startsWith, startsWithSegment]
  name := name
  label := label
  fold := Text.lowered
  complete a := by cases a <;> decide
  fold_name a := by cases a <;> decide
  name_injective := by decide

def fits : Mode → Text → Bool
  | equals, rest => rest.isEmpty
  | startsWith, _ => true
  | startsWithSegment, rest => rest.isEmpty || rest.head? == some '/'

end Mode
end UriRouting
