/-
# UriRouting.Pattern.Token — what a pattern means, and what is wrong with it

Every pattern has a reading, also a malformed one: `tokens` are the literal texts and the
variables that it stands for, `defects` what had to be put up with, both in the order of
the pattern. Each part of the pattern is read by itself:

* a brace that closes nothing is literal, and a defect;
* characters that no name has are left out of a body, each a defect;
* braces without a name stand for nothing, and are a defect;
* a body that is never closed is literal with its brace, and a defect.
-/
import UriRouting.Pattern.Part

namespace UriRouting

set_option autoImplicit false

inductive Token where
  | literal (text : Text)
  | variable (name : Text)
  deriving Repr, DecidableEq

def Token.render : Token → Text
  | .literal text => text
  | .variable name => '{' :: name ++ ['}']

namespace Pattern

inductive Defect where
  | invalidCharacter (c : Char)
  | emptyVariable
  | unbalancedBrace
  | unterminatedVariable
  deriving Repr, DecidableEq

/-- The characters of a body that make its name. -/
def nameOf (body : Text) : Text := body.filter Text.isUnreserved

def strayCharacters (body : Text) : List Defect :=
  (body.filter fun c => !Text.isUnreserved c).map .invalidCharacter

def Part.tokens : Part → List Token
  | .plain text => [.literal text]
  | .braced body => if nameOf body = [] then [] else [.variable (nameOf body)]
  | .unclosed body => [.literal ('{' :: body)]

def Part.defects : Part → List Defect
  | .plain text => (text.filter (· == '}')).map fun _ => .unbalancedBrace
  | .braced body =>
    strayCharacters body ++ if nameOf body = [] then [.emptyVariable] else []
  | .unclosed body => strayCharacters body ++ [.unterminatedVariable]

def tokens (pattern : Text) : List Token := (parts pattern).flatMap Part.tokens

def defects (pattern : Text) : List Defect := (parts pattern).flatMap Part.defects

/-- The names of the variables in order, one for each time that a variable stands in the
pattern. -/
def variableNames (pattern : Text) : List Text :=
  (tokens pattern).filterMap fun
    | .variable name => some name
    | .literal _ => none

end Pattern
end UriRouting
