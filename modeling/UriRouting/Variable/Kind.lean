/-
# UriRouting.Variable.Kind — the kinds of values that a variable takes

A kind says which items a value is made of: the characters of its class and, for the kinds
that are parts of a URI and may hold encoded octets, also `%` with two hexadecimal digits.
`Kind.item?` takes one item from the front of a text and `Kind.items` all of them, each
with the text after it.
-/
import UriRouting.Text.Named
import UriRouting.Text.Percent
import UriRouting.Variable.CharClass

namespace UriRouting

set_option autoImplicit false

inductive Kind where
  | all
  | alpha
  | digit
  | alphaDigit
  | uriUnreserved
  | uriAll
  | uriPath
  | uriSegment
  | uriQuery
  | uriQueryParam
  | uriFragment
  | word
  | token
  | comment
  | commentAttribute
  deriving Repr, DecidableEq

namespace Kind

def name : Kind → String
  | all => "all"
  | alpha => "alpha"
  | digit => "digit"
  | alphaDigit => "alpha_digit"
  | uriUnreserved => "uri_unreserved"
  | uriAll => "uri_all"
  | uriPath => "uri_path"
  | uriSegment => "uri_segment"
  | uriQuery => "uri_query"
  | uriQueryParam => "uri_query_param"
  | uriFragment => "uri_fragment"
  | word => "word"
  | token => "token"
  | comment => "comment"
  | commentAttribute => "comment_attribute"

def label : Kind → String
  | all => "All"
  | alpha => "Alpha"
  | digit => "Digit"
  | alphaDigit => "AlphaDigit"
  | uriUnreserved => "UriUnreserved"
  | uriAll => "UriAll"
  | uriPath => "UriPath"
  | uriSegment => "UriSegment"
  | uriQuery => "UriQuery"
  | uriQueryParam => "UriQueryParam"
  | uriFragment => "UriFragment"
  | word => "Word"
  | token => "Token"
  | comment => "Comment"
  | commentAttribute => "CommentAttribute"

instance : Named Kind where
  noun := "variable kind"
  values := [all, alpha, digit, alphaDigit, uriUnreserved, uriAll, uriPath, uriSegment,
    uriQuery, uriQueryParam, uriFragment, word, token, comment, commentAttribute]
  name := name
  label := label
  fold := Text.lowered
  complete a := by cases a <;> decide
  fold_name a := by cases a <;> decide
  name_injective := by decide

/-- The characters that a value may hold as they are. -/
def chars : Kind → CharClass
  | all => .anyInLine
  | alpha => .only CharClass.letters
  | digit => .only CharClass.digits
  | alphaDigit => .only (CharClass.letters ++ CharClass.digits)
  | uriUnreserved => .only (CharClass.letters ++ CharClass.digits ++ CharClass.ones "._~-")
  | uriAll =>
    .only (CharClass.ones ":/?#[]@!$&'()*+,;=" ++ CharClass.letters ++ CharClass.digits ++
      CharClass.ones "._~-")
  | uriPath =>
    .only (CharClass.letters ++ CharClass.digits ++ CharClass.ones "._~!$&'()*+,;=:@/-")
  | uriSegment =>
    .only (CharClass.letters ++ CharClass.digits ++ CharClass.ones "._~!$&'()*+,;=:@-")
  | uriQuery | uriFragment =>
    .only (CharClass.letters ++ CharClass.digits ++ CharClass.ones "._~!$&'()*+,;=:@/?-")
  | uriQueryParam =>
    .only (CharClass.letters ++ CharClass.digits ++ CharClass.ones "._~!$'()*+,;:@/?-")
  | word => .only [.word]
  | token => .except (CharClass.ones "()<>@,;:\\\"/[]?=\x7b\x7d \t")
  | comment =>
    .except [.range '\x00' '\x08', .one '\x0B', .one '\x0C', .range '\x0E' '\x1F',
      .one '\x7F', .one '(', .one ')']
  | commentAttribute => .except (CharClass.ones ";()")

/-- The kinds whose values may hold encoded octets. -/
def admitsEncoded : Kind → Bool
  | uriAll | uriPath | uriSegment | uriQuery | uriQueryParam | uriFragment => true
  | _ => false

/-- The regular expression of a value, in a group of its own. -/
def expression (k : Kind) (required : Bool) : String :=
  let loop := if required then "+)" else "*)"
  if k.admitsEncoded then
    "((?:" ++ k.chars.expression ++ "|%[0-9A-Fa-f]\x7b2\x7d)" ++ loop
  else "(" ++ k.chars.expression ++ loop

/-- What a value is encoded to. -/
def safe : Kind → Percent.Safe
  | uriPath => .path
  | uriQuery | uriFragment => .query
  | _ => .component

/-- The item at the front of a text, and the text after it. -/
def item? (k : Kind) : Text → Option (Text × Text)
  | [] => none
  | c :: t =>
    if k.chars.contains c then some ([c], t)
    else
      match t with
      | high :: low :: rest =>
        if k.admitsEncoded && c == '%' && Percent.isHexDigit high && Percent.isHexDigit low then
          some ([c, high, low], rest)
        else none
      | _ => none

/-- The items at the front of a text as far as they go, each with the text after it. -/
def items (k : Kind) : Text → List (Text × Text)
  | [] => []
  | c :: t =>
    if k.chars.contains c then ([c], t) :: items k t
    else
      match t with
      | high :: low :: rest =>
        if k.admitsEncoded && c == '%' && Percent.isHexDigit high && Percent.isHexDigit low then
          ([c, high, low], rest) :: items k rest
        else []
      | _ => []

theorem items_eq (k : Kind) (t : Text) : k.items t =
    match k.item? t with
    | some (item, rest) => (item, rest) :: k.items rest
    | none => [] := by
  cases t with
  | nil => rfl
  | cons c t =>
    rw [items.eq_def, item?.eq_def]
    by_cases h : k.chars.contains c = true
    · simp only [if_pos h]
    · simp only [if_neg h]
      split
      · split <;> rfl
      · rfl

/-- An item and the text after it make up the text. -/
theorem item?_eq_some {k : Kind} {t item rest : Text} (h : k.item? t = some (item, rest)) :
    ∃ c more, item = c :: more ∧ t = c :: (more ++ rest) := by
  unfold item? at h
  split at h
  · exact nomatch h
  · rename_i c t
    split at h
    · cases h
      exact ⟨c, [], rfl, rfl⟩
    · split at h
      · split at h
        · cases h
          exact ⟨_, _, rfl, rfl⟩
        · exact nomatch h
      · exact nomatch h

end Kind
end UriRouting
