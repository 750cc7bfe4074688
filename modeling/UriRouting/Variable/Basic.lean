/-
# UriRouting.Variable.Basic — descriptors of variables

A `Variable` describes what stands for a name of a pattern: which texts it matches
(`Variable.language`), what is written when no value is known, and whether values are
encoded when they are written and decoded when they are read.
-/
import UriRouting.Variable.Kind

namespace UriRouting

set_option autoImplicit false

/-- The texts that a variable matches: one text only, or any number of items of a kind, at
least one if a value is required. -/
inductive Language where
  | exactly (text : Text)
  | items (kind : Kind) (required : Bool)
  deriving Repr, DecidableEq

structure Variable where
  kind : Kind := .uriSegment
  /-- Written where no value is known. -/
  default : Text := []
  /-- The empty text is no value. -/
  required : Bool := true
  /-- Only the default is matched. -/
  fixed : Bool := false
  /-- Values are encoded as components when they are written. -/
  encodes : Bool := false
  /-- Values are decoded when they are read. -/
  decodes : Bool := false
  deriving Repr, DecidableEq

namespace Variable

def ofKind (kind : Kind) : Variable := { kind }

def ofFixed (text : Text) : Variable := { default := text, fixed := true }

def language (v : Variable) : Language :=
  if v.fixed then .exactly v.default else .items v.kind v.required

/-- The marks that mean something in a regular expression. -/
def isMark (c : Char) : Bool := "\\.+*?()|[]\x7b\x7d^$#".toList.contains c

/-- A text as a regular expression that matches it alone. -/
def escaped (t : Text) : Text := t.flatMap fun c => if isMark c then ['\\', c] else [c]

/-- The regular expression of a value, in a group of its own. It is written for display:
what a variable matches is its `language`. -/
def expression (v : Variable) : String :=
  if v.fixed then "(" ++ String.ofList (escaped v.default) ++ ")"
  else v.kind.expression v.required

/-- A value as it may stand in the part of a URI that the kind names. -/
def encode (v : Variable) (value : Text) : Text := Percent.encode v.kind.safe.keeps value

end Variable
end UriRouting
