/-
# UriRouting.Proofs.Cleaning — malformed patterns mean their clean form

Whatever is wrong with a pattern, it is read as some tokens, and the tokens can be written down
again: `Pattern.clean`.  Stray characters are gone from the braces, and braces without a name are
gone; a brace that closes nothing, or is never closed, is literal text before and after.  Written
down like this the tokens are read as they were, but for one thing: where empty braces stood
between two literals these are one literal now.

So the clean form agrees with the pattern in every reading that does not see where a literal is
cut (`Pattern.flatMap_tokens_clean`).  One of them cuts all literals into their characters
(`Token.letters`).  A search along characters goes the same way as along whole literals and
spends the same (`Piece.search_letters`), so a verdict is about the characters, also where the
search is given up (`Template.verdict_of_letters`).
-/
import UriRouting.Proofs.Patience
import UriRouting.Proofs.Substitution

namespace UriRouting

set_option autoImplicit false

/-! ## Literals cut into characters -/

/-- The token, or the characters of a literal one by one. -/
def Token.letters : Token → List Token
  | .literal text => text.map fun c => .literal [c]
  | .variable name => [.variable name]

namespace Piece

/-- The piece, or the characters of a literal one by one. -/
def letters : Piece → List Piece
  | .literal text => text.map fun c => .literal [c]
  | .first name language => [.first name language]
  | .again name => [.again name]

theorem ofTokens_literals (describe : Text → Variable) (seen : List Text) (text : Text)
    (tokens : List Token) :
    ofTokens describe seen ((text.map fun c => .literal [c]) ++ tokens) =
      (text.map fun c => .literal [c]) ++ ofTokens describe seen tokens := by
  induction text with
  | nil => rfl
  | cons c text ih => exact congrArg (.literal [c] :: ·) ih

theorem ofTokens_letters (describe : Text → Variable) (seen : List Text) (tokens : List Token) :
    ofTokens describe seen (tokens.flatMap Token.letters) =
      (ofTokens describe seen tokens).flatMap letters := by
  induction tokens generalizing seen with
  | nil => rfl
  | cons token tokens ih =>
      rcases token with text | name
      · rw [List.flatMap_cons, Token.letters, ofTokens_literals, ih]
        rfl
      · rw [List.flatMap_cons, Token.letters, List.singleton_append]
        cases before : seen.contains name with
        | true =>
            rw [ofTokens_known before, ofTokens_known before, ih]
            rfl
        | false =>
            rw [ofTokens_new before, ofTokens_new before, ih]
            rfl

theorem any_isAgain_letters (pieces : List Piece) :
    (pieces.flatMap letters).any isAgain = pieces.any isAgain := by
  rw [List.any_flatMap]
  congr 1
  funext piece
  cases piece with
  | literal text => simp [letters, isAgain]
  | first name language => rfl
  | again name => rfl

variable {limit : Nat} {mode : Mode}

theorem search_literals (text : Text) (pieces : List Piece) (marks : List Mark) (t : Text)
    (spent : Nat) :
    search limit mode ((text.map fun c => .literal [c]) ++ pieces) marks t spent =
      search limit mode (.literal text :: pieces) marks t spent := by
  induction text generalizing t with
  | nil => rfl
  | cons c text ih =>
      rw [List.map_cons, List.cons_append]
      cases t with
      | nil => rfl
      | cons d t =>
          by_cases same : c = d
          · simpa [search, Text.after?, same] using ih t
          · simp [search, Text.after?, same]

/-- A search does not see where the literals are cut: neither what it finds nor what it spends. -/
theorem search_letters (pieces : List Piece) (marks : List Mark) (t : Text) (spent : Nat) :
    search limit mode (pieces.flatMap letters) marks t spent =
      search limit mode pieces marks t spent := by
  induction pieces generalizing marks t spent with
  | nil => rfl
  | cons piece pieces ih =>
      rw [List.flatMap_cons]
      cases piece with
      | literal text =>
          rw [letters, search_literals]
          simp only [search, ih]
      | first name language => simp only [letters, List.singleton_append, search, ih]
      | again name => simp only [letters, List.singleton_append, search, ih]

theorem searchFront_letters (limit : Nat) (mode : Mode) (pieces : List Piece) (t : Text) :
    searchFront limit mode (pieces.flatMap letters) t = searchFront limit mode pieces t := by
  rw [searchFront, search_letters, searchFront]

/-- What is found without regard to a limit is what a search finds that is patient enough. -/
theorem firstSplit?_letters (mode : Mode) (pieces : List Piece) (t : Text) :
    firstSplit? mode (pieces.flatMap letters) [] t = firstSplit? mode pieces [] t := by
  obtain ⟨limit, patient⟩ := exists_limit mode pieces t
  have here := agrees_searchFront limit mode pieces t
  have there := agrees_searchFront limit mode (pieces.flatMap letters) t
  rw [searchFront_letters] at there
  cases outcome : searchFront limit mode pieces t with
  | found captures rest =>
      rw [outcome] at here there
      exact Eq.trans there (Eq.symm here)
  | missed spent =>
      rw [outcome] at here there
      exact Eq.trans there (Eq.symm here)
  | gaveUp => exact absurd outcome (patient limit (Nat.le_refl limit))

end Piece

namespace Matcher

def letters (m : Matcher) : Matcher := { m with pieces := m.pieces.flatMap Piece.letters }

theorem run_letters (m : Matcher) (t : Text) : m.letters.run t = m.run t := by
  have repeats : m.letters.repeats = m.repeats := Piece.any_isAgain_letters m.pieces
  cases again : m.repeats with
  | true =>
      rw [run, run, if_pos again, if_pos (repeats.trans again), letters,
        Piece.searchFront_letters]
  | false =>
      rw [run_distinct again, run_distinct (repeats.trans again), split?, split?, letters,
        Piece.firstSplit?_letters]

end Matcher

namespace Template

theorem matcher_letters (t : Template) :
    t.matcher.letters =
      ⟨Piece.ofTokens t.describe [] (t.tokens.flatMap Token.letters), t.mode, t.limit⟩ := by
  rw [Piece.ofTokens_letters]
  rfl

/-- Patterns of the same characters and variables come to the same verdict. -/
theorem verdict_of_letters {t : Template} {pattern : Text}
    (same : (Pattern.tokens pattern).flatMap Token.letters = t.tokens.flatMap Token.letters)
    (text : Text) : ({ t with pattern } : Template).verdict text = t.verdict text := by
  have matchers : ({ t with pattern } : Template).matcher.letters = t.matcher.letters := by
    rw [matcher_letters, matcher_letters]
    exact congrArg (fun tokens => Matcher.mk (Piece.ofTokens t.describe [] tokens) _ _) same
  rw [verdict, ← Matcher.run_letters, matchers, Matcher.run_letters, verdict]

end Template

/-! ## The clean form -/

namespace Pattern

/-- What a pattern means, written down as a pattern. -/
def clean (pattern : Text) : Text := (tokens pattern).flatMap Token.render

/-- What stands between braces, written down again. -/
def cleanBody (body : Text) : Text := (Part.braced body).tokens.flatMap Token.render

theorem clean_eq_rewrite (pattern : Text) : clean pattern = rewrite cleanBody pattern := by
  rw [clean, tokens, List.flatMap_assoc, rewrite]
  apply List.flatMap_congr
  intro part _
  cases part with
  | plain text => simp [Part.tokens, Token.render, Part.render]
  | braced body => rfl
  | unclosed body => simp [Part.tokens, Token.render, Part.render]

theorem nameOf_nameOf (body : Text) : nameOf (nameOf body) = nameOf body := by
  simp [nameOf, List.filter_filter]

theorem not_mem_nameOf (body : Text) : '}' ∉ nameOf body := fun member =>
  absurd (List.mem_filter.1 member).2 (by decide)

/-- The clean form is read as the pattern is, but for the cuts of literals. -/
theorem flatMap_tokens_clean {α : Type} (read : Token → List α)
    (seamless : ∀ a b, read (.literal (a ++ b)) = read (.literal a) ++ read (.literal b))
    (pattern : Text) :
    (tokens (clean pattern)).flatMap read = (tokens pattern).flatMap read := by
  rw [clean_eq_rewrite]
  induction pattern using induction with
  | nil => rfl
  | plain c t outside ih =>
      rw [rewrite_plain outside, flatMap_tokens_plain read seamless outside, ih,
        flatMap_tokens_plain read seamless outside]
  | unclosed body stays => rw [rewrite_unclosed stays]
  | braced body t stays ih =>
      rw [rewrite_braced stays, tokens_braced stays, List.flatMap_append, ← ih]
      by_cases nameless : nameOf body = []
      · simp [cleanBody, Part.tokens, nameless]
      · have written : cleanBody body = (Part.braced (nameOf body)).render := by
          simp [cleanBody, Part.tokens, nameless, Token.render, Part.render]
        rw [written, tokens_braced (not_mem_nameOf body), List.flatMap_append]
        simp [Part.tokens, nameOf_nameOf]

/-- What is clean stays as it is. -/
theorem clean_clean (pattern : Text) : clean (clean pattern) = clean pattern :=
  flatMap_tokens_clean Token.render (fun _ _ => rfl) pattern

theorem variableNames_clean (pattern : Text) :
    variableNames (clean pattern) = variableNames pattern := by
  rw [variableNames_eq, variableNames_eq]
  exact flatMap_tokens_clean _ (fun _ _ => rfl) pattern

theorem letters_clean (pattern : Text) :
    (tokens (clean pattern)).flatMap Token.letters = (tokens pattern).flatMap Token.letters :=
  flatMap_tokens_clean Token.letters (fun _ _ => List.map_append) pattern

end Pattern

namespace Template

/-- The template with the clean form in the place of its pattern. -/
def cleaned (t : Template) : Template := { t with pattern := Pattern.clean t.pattern }

variable {t : Template}

theorem variableNames_cleaned : t.cleaned.variableNames = t.variableNames :=
  Pattern.variableNames_clean t.pattern

theorem groups_cleaned : t.cleaned.groups = t.groups := by
  rw [groups_eq, groups_eq, variableNames_cleaned]

theorem verdict_cleaned (text : Text) : t.cleaned.verdict text = t.verdict text :=
  verdict_of_letters (Pattern.letters_clean t.pattern) text

theorem matchedSize?_cleaned (text : Text) :
    t.cleaned.matchedSize? text = t.matchedSize? text := by
  rw [matchedSize?, verdict_cleaned, matchedSize?]

theorem parse?_cleaned (text : Text) : t.cleaned.parse? text = t.parse? text := by
  rw [parse?, verdict_cleaned]
  rfl

theorem format_cleaned (resolve : Text → Option Text) :
    t.cleaned.format resolve = t.format resolve :=
  Pattern.flatMap_tokens_clean (t.writeToken resolve) (fun _ _ => rfl) t.pattern

/-- Values are written as they are. -/
def WritesPlainly (t : Template) : Prop :=
  t.encoding = false ∧ ∀ name ∈ t.variableNames, (t.describe name).encodes = false

theorem WritesPlainly.cleaned (plain : t.WritesPlainly) : t.cleaned.WritesPlainly := by
  refine ⟨plain.1, fun name member => plain.2 name ?_⟩
  rwa [variableNames_cleaned] at member

/-- Gives each variable its own name in braces for a value. -/
def nameInBraces (name : Text) : Option Text := some (Token.variable name).render

theorem format_nameInBraces (plain : t.WritesPlainly) :
    t.format nameInBraces = Pattern.clean t.pattern := by
  apply List.flatMap_congr
  intro token member
  rcases token with text | name
  · rfl
  · have bare := plain.2 name (mem_variableNames.2 member)
    simp [writeToken, writeValue, nameInBraces, plain.1, bare]

/-- **Malformed patterns mean their clean form.**  A template that writes values as they are, and
is given the names in braces for values, writes a clean form of its pattern, which is its own
clean form.  Any template with it in the place of the pattern has the same variables and groups,
comes to the same verdict on every text, be it that the search is given up, hence matches and
parses the same, and writes the same for all values. -/
theorem cleaned_alike (t writer : Template) (same : writer.pattern = t.pattern)
    (plain : writer.WritesPlainly) :
    let cleaned := writer.format nameInBraces
    let t' : Template := { t with pattern := cleaned }
    ({ writer with pattern := cleaned } : Template).format nameInBraces = cleaned ∧
      t'.variableNames = t.variableNames ∧ t'.groups = t.groups ∧
      (∀ text, t'.verdict text = t.verdict text ∧ t'.matchedSize? text = t.matchedSize? text ∧
        t'.parse? text = t.parse? text) ∧
      ∀ resolve, t'.format resolve = t.format resolve := by
  have written : writer.format nameInBraces = Pattern.clean t.pattern :=
    same ▸ format_nameInBraces plain
  have again : writer.cleaned.format nameInBraces = Pattern.clean t.pattern := by
    rw [format_nameInBraces plain.cleaned, cleaned, Pattern.clean_clean, same]
  rw [cleaned, same] at again
  simp only [written]
  refine ⟨again, variableNames_cleaned, groups_cleaned, ?_, format_cleaned⟩
  intro text
  exact ⟨verdict_cleaned text, matchedSize?_cleaned text, parse?_cleaned text⟩

namespace Example

/-- Empty braces between two literals, a brace that closes nothing, names with stray characters, of
which one comes again, and a brace that is never closed. -/
def faulty : Template where
  pattern := "/a\x7b\x7d/b\x7d\x7bx y\x7d-\x7bxy\x7d\x7bz\x7b".toList
  mode := .startsWith
  descriptors := .ofList [("xy".toList, .ofKind .digit)]
  limit := 20

/-- A template of the same pattern, of which nothing else is known. -/
def bare : Template where
  pattern := faulty.pattern

end Example

theorem cleaned_alike_faulty :
    Example.bare.pattern = Example.faulty.pattern ∧ Example.bare.WritesPlainly ∧
      Example.bare.format nameInBraces = "/a/b\x7d\x7bxy\x7d-\x7bxy\x7d\x7bz\x7b".toList ∧
      let cleaned : Template :=
        { Example.faulty with pattern := Example.bare.format nameInBraces }
      cleaned.parse? "/a/b\x7d77-77\x7bz\x7b/".toList =
          some ⟨13, .ofList [("xy".toList, "77".toList)]⟩ := by
  have plain : Example.bare.WritesPlainly := by
    simp only [WritesPlainly]
    decide +kernel
  refine ⟨rfl, plain, by decide +kernel, ?_⟩
  have alike := cleaned_alike Example.faulty Example.bare rfl plain
  have parses := (alike.2.2.2.1 "/a/b\x7d77-77\x7bz\x7b/".toList).2.2
  have before : Example.faulty.parse? "/a/b\x7d77-77\x7bz\x7b/".toList =
      some ⟨13, .ofList [("xy".toList, "77".toList)]⟩ := by
    decide +kernel
  exact parses.trans before

end Template
end UriRouting
