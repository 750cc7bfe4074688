/-
# UriRouting.Template.Basic — templates

A `Template` is a pattern with a mode, descriptors for its variables and one for all
others, and a say on encoding. It reads texts (`verdict`, `matchedSize?`, `parse?`) by the
matcher that it stands for, and writes them (`format`) from the same tokens, given a value
for each name that has one.
-/
import UriRouting.Text.Dictionary
import UriRouting.Template.Matcher

namespace UriRouting

set_option autoImplicit false

/-- Values of variables by name. -/
abbrev Bindings := Dictionary Text

structure Template where
  pattern : Text
  mode : Mode := .equals
  descriptors : Dictionary Variable := .empty
  /-- Describes the variables that have no descriptor. -/
  fallback : Variable := {}
  /-- All values are encoded when they are written. -/
  encoding : Bool := false
  /-- How often a search comes back to an alternative before it is given up. -/
  limit : Nat := 1000000
  deriving DecidableEq

/-- A text taken apart: the octets that were matched, and the values found in them. -/
structure Parsed where
  size : Nat
  bindings : Bindings
  deriving DecidableEq

namespace Template

def describe (t : Template) (name : Text) : Variable :=
  (t.descriptors.find? name).getD t.fallback

def tokens (t : Template) : List Token := Pattern.tokens t.pattern

def variableNames (t : Template) : List Text := Pattern.variableNames t.pattern

/-- What the template stands for in matching; every template has its matcher. -/
def matcher (t : Template) : Matcher where
  pieces := Piece.ofTokens t.describe [] t.tokens
  mode := t.mode
  limit := t.limit

def groups (t : Template) : List Text := t.matcher.groups

def verdict (t : Template) (value : Text) : Verdict := t.matcher.run value

/-- The octets of a value in front of what is left of it. -/
def consumed (value rest : Text) : Nat := Text.size value - Text.size rest

/-- The octets of a value that a verdict has matched. -/
def sizeOf? (value : Text) : Verdict → Option Nat
  | .matched _ rest => some (consumed value rest)
  | _ => none

def matchedSize? (t : Template) (value : Text) : Option Nat := sizeOf? value (t.verdict value)

/-- A captured text as its variable wants it. -/
def readValue (t : Template) (name captured : Text) : Text :=
  if (t.describe name).decodes then Percent.decode captured else captured

def readCaptures (t : Template) (captures : Captures) : Captures :=
  captures.map fun (name, captured) => (name, t.readValue name captured)

/-- What a verdict on a value says of the variables. -/
def parsed? (t : Template) (value : Text) : Verdict → Option Parsed
  | .matched captures rest =>
    some ⟨consumed value rest, Dictionary.ofList (t.readCaptures captures)⟩
  | _ => none

def parse? (t : Template) (value : Text) : Option Parsed := t.parsed? value (t.verdict value)

/-- What is written for a variable: its value, or else its default, encoded for its kind if
the template encodes, and as a component if only the variable does. -/
def writeValue (t : Template) (resolve : Text → Option Text) (name : Text) : Text :=
  let v := t.describe name
  let value := (resolve name).getD v.default
  if t.encoding then v.encode value
  else if v.encodes then Percent.encode Percent.Safe.component.keeps value
  else value

def writeToken (t : Template) (resolve : Text → Option Text) : Token → Text
  | .literal text => text
  | .variable name => t.writeValue resolve name

def format (t : Template) (resolve : Text → Option Text) : Text :=
  t.tokens.flatMap (t.writeToken resolve)

end Template
end UriRouting
