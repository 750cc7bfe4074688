/-
# UriRouting.Path.Pattern — patterns of paths

A path pattern starts with a slash and ends without one, or is empty, and it matches whole
segments at the front of a path. Two of them are the same for routing if they have the same
skeleton, the pattern with nothing in the place of its variables. What the rank of a
candidate needs, the number of literal characters and of variables, is read off the pattern
alone.
-/
import UriRouting.Template.Cached

namespace UriRouting

set_option autoImplicit false

/-- A path split behind the part that a pattern has matched. -/
structure Matching where
  matched : Text
  bindings : Bindings
  remainder : Text
  deriving DecidableEq

/-- Nothing is left but a slash. -/
def Matching.isComplete (m : Matching) : Bool := m.remainder == [] || m.remainder == ['/']

structure PathPattern where
  template : CachedTemplate
  skeleton : Text
  deriving DecidableEq

namespace PathPattern

def dropTrailingSlashes (pattern : Text) : Text :=
  (pattern.reverse.dropWhile (· == '/')).reverse

def normalize (pattern : Text) : Text :=
  match dropTrailingSlashes pattern with
  | [] => []
  | c :: t => if c = '/' then c :: t else '/' :: c :: t

/-- The pattern of a text in normal form. Its skeleton is what the template writes when
every variable has the empty value. -/
def ofPattern (pattern : Text) (descriptors : Dictionary Variable) : Logged PathPattern := do
  let template : CachedTemplate :=
    { template := { pattern := normalize pattern, mode := .startsWithSegment, descriptors } }
  let skeleton ← template.format fun _ => some []
  pure ⟨template, skeleton⟩

def text (p : PathPattern) : Text := p.template.template.pattern

def isEmpty (p : PathPattern) : Bool := p.text.isEmpty

def mode (p : PathPattern) : Mode := p.template.template.mode

def literalChars (p : PathPattern) : Nat := p.skeleton.length

def capturingGroups (p : PathPattern) : Logged (Nat × PathPattern) := do
  let (groups, template) ← p.template.groups
  pure (groups.length, { p with template })

def matching? (p : PathPattern) (path : Text) : Logged (Option Matching × PathPattern) := do
  let (parsed, template) ← p.template.parse? path
  let matching := parsed.map fun parsed =>
    let (matched, remainder) := Text.splitAt parsed.size path
    { matched, bindings := parsed.bindings, remainder : Matching }
  pure (matching, { p with template })

/-- The pattern matches the path up to at most a slash. -/
def matchesAll (p : PathPattern) (path : Text) : Logged (Bool × PathPattern) := do
  let (matching, p) ← p.matching? path
  pure (matching.any Matching.isComplete, p)

/-- Patterns are told apart by their skeletons. -/
def Same (p q : PathPattern) : Prop := p.skeleton = q.skeleton

instance (p q : PathPattern) : Decidable (Same p q) :=
  inferInstanceAs (Decidable (p.skeleton = q.skeleton))

/-- The skeletons of some patterns, each once: as many as patterns can be told apart. -/
def skeletons (patterns : List PathPattern) : List Text :=
  (patterns.map (·.skeleton)).eraseDups

end PathPattern
end UriRouting
