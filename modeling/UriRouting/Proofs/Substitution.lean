/-
# UriRouting.Proofs.Substitution — a text in the place of a variable

`Pattern.substitute` writes a text for all tokens of a name, and leaves everything as it is that
is no such token, malformed or not.  A text without
braces is read as plain text wherever it is put, so the new pattern means what the old one
does with a literal for the variable (`Pattern.flatMap_tokens_substitute`), whatever stands on
both sides: a reading that does not see where literals are cut need not know of the pattern at
all.

A text that is not empty and has no slash makes no difference to the slashes at the ends of a
pattern, so the normal form is kept (`PathPattern.normalize_substitute`).
-/
import UriRouting.Proofs.Rewriting

namespace UriRouting

set_option autoImplicit false

namespace Token

/-- The token, or a literal if it is the variable of the name. -/
def substitute (name value : Text) (token : Token) : Token :=
  if token = .variable name then .literal value else token

/-- A literal for a variable is a value that is given for it. -/
theorem fill_substitute (name value : Text) (given : Text → Text) (token : Token) :
    (token.substitute name value).fill given = token.fill (Function.update given name value) := by
  rcases token with text | other
  · rfl
  · by_cases same : other = name <;> simp [substitute, fill, same]

theorem name?_substitute (name value : Text) (token : Token) :
    (token.substitute name value).name?.toList = token.name?.toList.filter (· ≠ name) := by
  rcases token with text | other
  · rfl
  · by_cases same : other = name <;> simp [substitute, name?, same]

end Token

namespace Pattern

theorem parts_eq_plain {t : Text} (nonempty : t ≠ []) (plain : '{' ∉ t) :
    parts t = [.plain t] := by
  induction t with
  | nil => contradiction
  | cons c t ih =>
      have apart := List.ne_and_not_mem_of_not_mem_cons plain
      rw [parts_plain apart.1.symm]
      cases t with
      | nil => rfl
      | cons d t => rw [ih (by simp) apart.2]; rfl

/-! ## The pattern with a text for a variable -/

variable {name value : Text}

/-- The text of a part, or the value if the part is the variable. -/
def Part.substitute (name value : Text) (part : Part) : Text :=
  if part.tokens = [.variable name] then value else part.render

/-- The pattern with the value in the place of all tokens of the name. -/
def substitute (name value pattern : Text) : Text :=
  (parts pattern).flatMap (Part.substitute name value)

@[simp] theorem substitute_nil : substitute name value [] = [] := rfl

/-- To substitute is to rewrite the braces of one variable. -/
theorem substitute_eq_rewrite (name value pattern : Text) :
    substitute name value pattern =
      rewrite (fun body => Part.substitute name value (.braced body)) pattern := by
  apply List.flatMap_congr
  intro part _
  cases part with
  | plain text => exact if_neg (by simp [Part.tokens])
  | braced body => rfl
  | unclosed body => exact if_neg (by simp [Part.tokens])

theorem substitute_plain {c : Char} (plain : c ≠ '{') (t : Text) :
    substitute name value (c :: t) = c :: substitute name value t := by
  rw [substitute_eq_rewrite, rewrite_plain plain, substitute_eq_rewrite]

theorem substitute_unclosed {body : Text} (stays : '}' ∉ body) :
    substitute name value ('{' :: body) = '{' :: body := by
  rw [substitute_eq_rewrite, rewrite_unclosed stays]

theorem substitute_named {body : Text} (stays : '}' ∉ body)
    (named : (Part.braced body).tokens = [.variable name]) (t : Text) :
    substitute name value ((Part.braced body).render ++ t) = value ++ substitute name value t := by
  rw [substitute_eq_rewrite, rewrite_braced stays, substitute_eq_rewrite, Part.substitute,
    if_pos named]

theorem substitute_other {body : Text} (stays : '}' ∉ body)
    (other : (Part.braced body).tokens ≠ [.variable name]) (t : Text) :
    substitute name value ((Part.braced body).render ++ t) =
      (Part.braced body).render ++ substitute name value t := by
  rw [substitute_eq_rewrite, rewrite_braced stays, substitute_eq_rewrite, Part.substitute,
    if_neg other]

/-! ## What it means -/

theorem tokens_braced {body : Text} (stays : '}' ∉ body) (t : Text) :
    tokens ((Part.braced body).render ++ t) = (Part.braced body).tokens ++ tokens t := by
  rw [tokens, parts_braced stays]
  rfl

/-- Where braces stand for nothing, the literals on both sides stay two. -/
example : tokens "/a/\x7b\x7d/b".toList = [.literal "/a/".toList, .literal "/b".toList] := by
  decide

/-- Braces hold one token at the most. -/
theorem tokens_eq_of_mem {body : Text} {token : Token}
    (member : token ∈ (Part.braced body).tokens) : (Part.braced body).tokens = [token] := by
  rw [Part.tokens] at member ⊢
  split at member
  · cases member
  · rename_i named
    rw [if_neg named, List.mem_singleton.1 member]

section Reading

variable {α : Type} (read : Token → List α)
  (seamless : ∀ a b, read (.literal (a ++ b)) = read (.literal a) ++ read (.literal b))

include seamless

/-- Plain text in front is read as a literal. -/
theorem flatMap_tokens_literal {front : Text} (nonempty : front ≠ []) (plain : '{' ∉ front)
    (t : Text) :
    (tokens (front ++ t)).flatMap read = read (.literal front) ++ (tokens t).flatMap read := by
  have alone := parts_eq_plain nonempty plain
  have closed : Closed (parts front) := by simp [alone, Closed]
  rw [flatMap_tokens_append read seamless closed, tokens, alone]
  simp [Part.tokens]

theorem flatMap_tokens_plain {c : Char} (plain : c ≠ '{') (t : Text) :
    (tokens (c :: t)).flatMap read = read (.literal [c]) ++ (tokens t).flatMap read :=
  flatMap_tokens_literal read seamless (List.cons_ne_nil c []) (by simpa using plain.symm) t

/-- A pattern with a text for a variable is read as the pattern is, with a literal for it. -/
theorem flatMap_tokens_substitute (nonempty : value ≠ []) (plain : '{' ∉ value)
    (pattern : Text) :
    (tokens (substitute name value pattern)).flatMap read =
      (tokens pattern).flatMap fun token => read (token.substitute name value) := by
  induction pattern using induction with
  | nil => rfl
  | plain c t outside ih =>
      have single : '{' ∉ [c] := by simpa using outside.symm
      rw [substitute_plain outside, ← List.singleton_append,
        flatMap_tokens_literal read seamless (by simp) single, ih, ← List.singleton_append (l := t)]
      exact (flatMap_tokens_literal (fun token => read (token.substitute name value)) seamless
        (by simp) single t).symm
  | unclosed body stays =>
      rw [substitute_unclosed stays, tokens, parts_unclosed stays]
      rfl
  | braced body t stays ih =>
      rw [tokens_braced stays, List.flatMap_append]
      by_cases named : (Part.braced body).tokens = [.variable name]
      · rw [substitute_named stays named, flatMap_tokens_literal read seamless nonempty plain, ih,
          named]
        simp [Token.substitute]
      · rw [substitute_other stays named, tokens_braced stays, List.flatMap_append, ih]
        congr 1
        apply List.flatMap_congr
        intro token member
        have other : token ≠ .variable name := by
          rintro rfl
          exact named (tokens_eq_of_mem member)
        rw [Token.substitute, if_neg other]

end Reading

theorem fill_substitute (nonempty : value ≠ []) (plain : '{' ∉ value) (pattern : Text)
    (given : Text → Text) :
    (tokens (substitute name value pattern)).flatMap (Token.fill given) =
      (tokens pattern).flatMap (Token.fill (Function.update given name value)) := by
  rw [flatMap_tokens_substitute (Token.fill given) (fun _ _ => rfl) nonempty plain]
  exact List.flatMap_congr fun token _ => token.fill_substitute name value given

theorem variableNames_substitute (nonempty : value ≠ []) (plain : '{' ∉ value)
    (pattern : Text) :
    variableNames (substitute name value pattern) =
      (variableNames pattern).filter (· ≠ name) := by
  rw [variableNames_eq, variableNames_eq, List.filter_flatMap,
    flatMap_tokens_substitute _ (fun _ _ => rfl) nonempty plain]
  exact List.flatMap_congr fun token _ => token.name?_substitute name value

end Pattern

/-- The normal form does not see the text. -/
theorem PathPattern.normalize_substitute {name value : Text} (nonempty : value ≠ [])
    (slashless : '/' ∉ value) (pattern : Text) :
    normalize (Pattern.substitute name value pattern) =
      Pattern.substitute name value (normalize pattern) := by
  have keeps : KeepsEnds fun body => Pattern.Part.substitute name value (.braced body) := by
    constructor <;> intro body <;> rw [Pattern.Part.substitute] <;> split
    · exact nonempty
    · simp [Pattern.Part.render]
    · exact fun first => slashless (List.mem_of_head? first)
    · simp [Pattern.Part.render]
    · exact fun last => slashless (List.mem_of_getLast? last)
    · rw [Pattern.Part.render, List.getLast?_concat]
      decide
  rw [Pattern.substitute_eq_rewrite, Pattern.substitute_eq_rewrite, normalize_rewrite keeps]

end UriRouting
