/-
# UriRouting.Variable.CharClass — classes of characters, and how they are written

A class is given by its parts, single characters and ranges, either as what it allows or as
what it leaves out. `CharClass.contains` decides membership and `CharClass.expression`
writes the class as a regular expression does.
-/
import UriRouting.Text.WordChar

namespace UriRouting

set_option autoImplicit false

inductive CharClass.Part where
  | one (c : Char)
  | range (first last : Char)
  | word
  deriving Repr, DecidableEq

inductive CharClass where
  /-- Every character but the line feed. -/
  | anyInLine
  | only (parts : List CharClass.Part)
  | except (parts : List CharClass.Part)
  deriving Repr, DecidableEq

namespace CharClass

def Part.contains : Part → Char → Bool
  | .one d, c => c == d
  | .range first last, c => first ≤ c && c ≤ last
  | .word, c => Text.isWordChar c

def contains : CharClass → Char → Bool
  | .anyInLine, c => c != '\n'
  | .only parts, c => parts.any (·.contains c)
  | .except parts, c => !parts.any (·.contains c)

/-- The single characters of a string. -/
def ones (s : String) : List Part := s.toList.map .one

def letters : List Part := [.range 'a' 'z', .range 'A' 'Z']

def digits : List Part := [.range '0' '9']

/-- A character between the brackets of a class: brackets and backslashes are escaped, the
tab has a name, and other controls are written by number. -/
def charExpression (c : Char) : String :=
  if c = '[' ∨ c = ']' ∨ c = '\\' then String.ofList ['\\', c]
  else if c = '\t' then "\\t"
  else if c.toNat < 0x20 ∨ c.toNat = 0x7F then
    "\\x" ++ String.ofList ((Nat.toDigits 16 (0x100 + c.toNat)).tail.map Char.toUpper)
  else c.toString

def Part.expression : Part → String
  | .one c => charExpression c
  | .range first last => charExpression first ++ "-" ++ charExpression last
  | .word => "\\w"

def expression : CharClass → String
  | .anyInLine => "."
  | .only parts => "[" ++ String.join (parts.map Part.expression) ++ "]"
  | .except parts => "[^" ++ String.join (parts.map Part.expression) ++ "]"

end CharClass
end UriRouting
