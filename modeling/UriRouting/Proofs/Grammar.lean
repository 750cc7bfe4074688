/-
# UriRouting.Proofs.Grammar — patterns without a defect

A pattern is well-formed if it is made of characters that are no braces and of names in braces
(`Pattern.WellFormed`).  These are the patterns of which nothing is logged, and to write down
their tokens gives them back.  The other way round, tokens that a pattern can have are read as
they were written down (`Pattern.Canonical`, `tokens_flatMap_render`).

Every pattern has a reading, and what is logged of it is found at the places of the pattern
(`Place.defect?`, `defects_eq_places`): one defect at each character between braces that no name
has, one at each `}` that closes braces without a name or no braces at all, and one at the end if
braces are open there.
-/
import UriRouting.Event
import UriRouting.Proofs.Cleaning
import UriRouting.Proofs.Places
import UriRouting.Proofs.Renaming

namespace UriRouting

set_option autoImplicit false

namespace Pattern

/-! ## Defects along a pattern -/

theorem defects_plain {c : Char} (plain : c ≠ '{') (t : Text) :
    defects (c :: t) = (if c = '}' then [.unbalancedBrace] else []) ++ defects t := by
  have own : Part.defects (.plain [c]) = if c = '}' then [.unbalancedBrace] else [] := by
    by_cases closes : c = '}' <;> simp [Part.defects, closes]
  rw [defects, parts_plain plain, defects, ← own]
  unfold consPlain
  split
  · rename_i text ps first
    have joined : Part.defects (.plain (c :: text)) =
        Part.defects (.plain [c]) ++ Part.defects (.plain text) := by
      rw [Part.defects, ← List.singleton_append, List.filter_append, List.map_append]
      rfl
    rw [first, List.flatMap_cons, List.flatMap_cons, joined, List.append_assoc]
  · rfl

theorem defects_unclosed {body : Text} (stays : '}' ∉ body) :
    defects ('{' :: body) = strayCharacters body ++ [.unterminatedVariable] := by
  rw [defects, parts_unclosed stays, List.flatMap_singleton, Part.defects]

theorem defects_braced {body : Text} (stays : '}' ∉ body) (t : Text) :
    defects ((Part.braced body).render ++ t) = (Part.braced body).defects ++ defects t := by
  rw [defects, parts_braced stays]
  rfl

theorem strayCharacters_eq_nil_iff {body : Text} :
    strayCharacters body = [] ↔ ∀ c ∈ body, Text.isUnreserved c = true := by
  rw [strayCharacters, List.map_eq_nil_iff, List.filter_eq_nil_iff]
  simp

theorem strayCharacters_eq_filterMap (body : Text) :
    strayCharacters body = body.filterMap fun c =>
      if Text.isUnreserved c then none else some (.invalidCharacter c) := by
  induction body with
  | nil => rfl
  | cons c body ih =>
      rw [List.filterMap_cons, ← ih]
      cases unreserved : Text.isUnreserved c <;> simp [strayCharacters, unreserved]

/-! ## The grammar -/

/-- Characters that are no braces, and names in braces. -/
inductive WellFormed : Text → Prop where
  | nil : WellFormed []
  | char {c : Char} {t : Text} (opens : c ≠ '{') (closes : c ≠ '}') (rest : WellFormed t) :
      WellFormed (c :: t)
  | braces {name t : Text} (named : Nameable name) (rest : WellFormed t) :
      WellFormed ((Token.variable name).render ++ t)

/-- What has no defect is well-formed, and nothing else is. -/
theorem defects_eq_nil_iff {pattern : Text} : defects pattern = [] ↔ WellFormed pattern := by
  constructor
  · intro sound
    induction pattern using induction with
    | nil => exact .nil
    | plain c t outside ih =>
        rw [defects_plain outside, List.append_eq_nil_iff] at sound
        have closes : c ≠ '}' := by
          intro same
          rw [if_pos same] at sound
          cases sound.1
        exact .char outside closes (ih sound.2)
    | unclosed body stays =>
        rw [defects_unclosed stays] at sound
        simp at sound
    | braced body t stays ih =>
        rw [defects_braced stays, List.append_eq_nil_iff, Part.defects, List.append_eq_nil_iff,
          strayCharacters_eq_nil_iff] at sound
        obtain ⟨⟨unreserved, nameless⟩, rest⟩ := sound
        have whole : nameOf body = body := List.filter_eq_self.2 unreserved
        have nonempty : body ≠ [] := by
          intro empty
          rw [if_pos (whole.trans empty)] at nameless
          cases nameless
        exact .braces ⟨nonempty, unreserved⟩ (ih rest)
  · intro sound
    induction sound with
    | nil => rfl
    | char opens closes _ ih => rw [defects_plain opens, if_neg closes, ih, List.append_nil]
    | @braces name t named _ ih =>
        have own : (Part.braced name).defects = [] := by
          rw [Part.defects, strayCharacters_eq_nil_iff.2 named.2, named.nameOf_eq,
            if_neg named.1, List.append_nil]
        exact (defects_braced named.not_mem t).trans (by rw [own, ih, List.append_nil])

/-- A well-formed pattern is clean. -/
theorem WellFormed.clean_eq {pattern : Text} (sound : WellFormed pattern) :
    clean pattern = pattern := by
  induction sound with
  | nil => rfl
  | char opens _ _ ih =>
      rw [clean_eq_rewrite] at ih ⊢
      rw [rewrite_plain opens, ih]
  | @braces name t named _ ih =>
      have own : cleanBody name = (Token.variable name).render := by
        simp [cleanBody, Part.tokens, named.nameOf_eq, named.1]
      rw [clean_eq_rewrite] at ih ⊢
      have written : rewrite cleanBody ((Part.braced name).render ++ t) =
          cleanBody name ++ rewrite cleanBody t := rewrite_braced named.not_mem t
      rw [ih, own] at written
      exact written

/-! ## Tokens written down -/

/-- Tokens that a pattern can have: literals are not empty, have no braces and stand apart, and
names can be names. -/
structure Canonical (ts : List Token) : Prop where
  literals : ∀ text, .literal text ∈ ts → text ≠ [] ∧ '{' ∉ text ∧ '}' ∉ text
  names : ∀ name, .variable name ∈ ts → Nameable name
  apart : ts.IsChain fun a b => a.name? = none → b.name? ≠ none

theorem Canonical.tail {token : Token} {ts : List Token} (h : Canonical (token :: ts)) :
    Canonical ts where
  literals text member := h.literals text (List.mem_cons_of_mem _ member)
  names name member := h.names name (List.mem_cons_of_mem _ member)
  apart := h.apart.of_cons

/-- Behind a literal the text is over, or braces open. -/
theorem Canonical.opens {text : Text} {ts : List Token} (h : Canonical (.literal text :: ts)) :
    ts.flatMap Token.render = [] ∨ ∃ t, ts.flatMap Token.render = '{' :: t := by
  rcases ts with - | ⟨other | name, ts⟩
  · exact .inl rfl
  · have apart := (List.isChain_cons_cons.1 h.apart).1
    exact absurd rfl (apart rfl)
  · exact .inr ⟨_, rfl⟩

theorem tokens_literal {text rest : Text} (nonempty : text ≠ []) (plain : '{' ∉ text)
    (opens : rest = [] ∨ ∃ t, rest = '{' :: t) :
    tokens (text ++ rest) = .literal text :: tokens rest := by
  have alone := parts_eq_plain nonempty plain
  have closed : Closed (parts text) := by simp [alone, Closed]
  rw [tokens, parts_append closed, alone, tokens]
  rcases opens with rfl | ⟨t, rfl⟩
  · rfl
  · rw [parts_open]
    rcases inside t with ⟨body, none | ps⟩
    · rfl
    · rfl

/-- Such tokens are read as they were written down. -/
theorem tokens_flatMap_render {ts : List Token} (h : Canonical ts) :
    tokens (ts.flatMap Token.render) = ts := by
  induction ts with
  | nil => rfl
  | cons token ts ih =>
      rw [List.flatMap_cons]
      rcases token with text | name
      · have ⟨nonempty, plain, _⟩ := h.literals text List.mem_cons_self
        rw [Token.render, tokens_literal nonempty plain h.opens, ih h.tail]
      · have named := h.names name List.mem_cons_self
        have read := tokens_braced named.not_mem (ts.flatMap Token.render)
        rw [Part.tokens, named.nameOf_eq, if_neg named.1, ih h.tail] at read
        exact read

/-! ## Defects at the places of a pattern -/

namespace Place

/-- What is wrong at a place, by the braces that are open there. -/
def defect? (p : Place) : Option Defect :=
  match p.opened with
  | none => if p.char = '}' then some .unbalancedBrace else none
  | some body =>
    if p.char = '}' then if nameOf body = [] then some .emptyVariable else none
    else if Text.isUnreserved p.char then none else some (.invalidCharacter p.char)

/-- Between braces stands a character that no name has. -/
def isStray (p : Place) : Bool :=
  p.opened.isSome && p.char != '}' && !Text.isUnreserved p.char

/-- Braces are closed that have no name. -/
def closesNameless (p : Place) : Bool :=
  p.char == '}' && p.opened.any fun body => nameOf body == []

/-- A brace closes nothing. -/
def closesNothing (p : Place) : Bool := p.char == '}' && p.opened.isNone

end Place

theorem filterMap_defect?_body {body : Text} (stays : '}' ∉ body) (rest : Text) :
    (bodyPlaces [] body rest).filterMap Place.defect? = strayCharacters body := by
  rw [strayCharacters_eq_filterMap]
  exact filterMap_bodyPlaces _ stays (fun opened c after closes _ => if_neg closes) []

/-- The defects of a pattern are those of its places in their order, and one more if braces are
open at its end. -/
theorem defects_eq_places (pattern : Text) :
    defects pattern = (places pattern).filterMap Place.defect? ++
      if (openBody? pattern).isSome then [.unterminatedVariable] else [] := by
  induction pattern using induction with
  | nil => rfl
  | plain c t outside ih =>
      have same : openBody? (c :: t) = openBody? t := openBody?_append (openBody?_plain outside) t
      rw [defects_plain outside, ih, places_plain outside, same, ← List.append_assoc]
      by_cases closes : c = '}' <;> simp [Place.defect?, closes]
  | unclosed body stays =>
      rw [defects_unclosed stays, places_unclosed stays, openBody?_unclosed stays,
        List.filterMap_cons_none rfl, filterMap_defect?_body stays]
      rfl
  | braced body t stays ih =>
      rw [defects_braced stays, ih, places_braced stays, openBody?_append (openBody?_braced body),
        List.filterMap_cons_none rfl, List.filterMap_append, filterMap_defect?_body stays,
        ← List.append_assoc, Part.defects]
      by_cases nameless : nameOf body = [] <;> simp [Place.defect?, nameless]

/-- A place has one defect at the most, of one of three kinds. -/
theorem Place.isSome_defect? (p : Place) :
    (if p.defect?.isSome then 1 else 0) =
      (if p.isStray then 1 else 0) + (if p.closesNameless then 1 else 0) +
        if p.closesNothing then 1 else 0 := by
  obtain ⟨opened, c, after⟩ := p
  by_cases closes : c = '}'
  · rcases opened with - | body
    · simp [defect?, isStray, closesNameless, closesNothing, closes]
    · by_cases nameless : nameOf body = [] <;>
        simp [defect?, isStray, closesNameless, closesNothing, closes, nameless]
  · rcases opened with - | body
    · simp [defect?, isStray, closesNameless, closesNothing, closes]
    · cases unreserved : Text.isUnreserved c <;>
        simp [defect?, isStray, closesNameless, closesNothing, closes, unreserved]

theorem length_filterMap_defect? (ps : List Place) :
    (ps.filterMap Place.defect?).length =
      ps.countP Place.isStray + ps.countP Place.closesNameless +
        ps.countP Place.closesNothing := by
  rw [List.length_filterMap_eq_countP]
  induction ps with
  | nil => rfl
  | cons p ps ih =>
      simp only [List.countP_cons, ih, p.isSome_defect?]
      omega

theorem length_events (pattern : Text) :
    (events pattern).length =
      (places pattern).countP Place.isStray + (places pattern).countP Place.closesNameless +
        (places pattern).countP Place.closesNothing +
          if (openBody? pattern).isSome then 1 else 0 := by
  rw [events, List.length_map, defects_eq_places, List.length_append, length_filterMap_defect?]
  split <;> rfl

/-- **Reading accepts exactly its grammar, and undoes writing.**  Nothing is logged of a pattern
if and only if it is well-formed, and then its tokens, written down, are the pattern again.  Tokens
that a pattern can have are read as they were written down.  Of any pattern as many warnings are
logged as there are characters between braces that no name has, braces that are closed without a
name, closing braces outside of all others, and one more if braces are open at the end. -/
theorem reads_its_grammar :
    (∀ pattern, (events pattern = [] ↔ WellFormed pattern) ∧
      (events pattern = [] → (tokens pattern).flatMap Token.render = pattern)) ∧
    (∀ ts, Canonical ts → tokens (ts.flatMap Token.render) = ts) ∧
    ∀ pattern, (∀ e ∈ events pattern, e.level = .warn) ∧
      (events pattern).length =
        (places pattern).countP Place.isStray + (places pattern).countP Place.closesNameless +
          (places pattern).countP Place.closesNothing +
            if (openBody? pattern).isSome then 1 else 0 := by
  have accepted (pattern : Text) : events pattern = [] ↔ WellFormed pattern := by
    rw [events, List.map_eq_nil_iff, defects_eq_nil_iff]
  refine ⟨?_, fun ts => tokens_flatMap_render, ?_⟩
  · intro pattern
    exact ⟨accepted pattern, fun silent => ((accepted pattern).1 silent).clean_eq⟩
  · intro pattern
    refine ⟨?_, length_events pattern⟩
    intro e member
    obtain ⟨defect, -, rfl⟩ := List.mem_map.1 member
    rfl

/-- A brace that closes nothing, braces without a name, and a space and a brace where a name should
be, of which one stands in braces that are never closed. -/
example : let pattern := "\x7d\x7b\x7d/\x7ba b\x7d\x7bc\x7b".toList
    (places pattern).countP Place.closesNothing = 1 ∧
      (places pattern).countP Place.closesNameless = 1 ∧
      (places pattern).countP Place.isStray = 2 ∧
      openBody? pattern = some "c\x7b".toList := by
  decide +kernel

namespace Example

/-- Literals and variables in turns, and two variables side by side. -/
def written : List Token :=
  [.literal "/a/".toList, .variable "x".toList, .variable "y-1".toList, .literal ".é".toList,
    .variable "x".toList]

theorem canonical_written : Canonical written where
  literals text member := by
    simp only [written, List.mem_cons, Token.literal.injEq, List.not_mem_nil, reduceCtorEq,
      or_false, false_or] at member
    rcases member with rfl | rfl <;> decide
  names name member := by
    simp only [written, List.mem_cons, Token.variable.injEq, List.not_mem_nil, reduceCtorEq,
      or_false, false_or] at member
    rcases member with rfl | rfl | rfl <;> decide
  apart := by simp [written, Token.name?]

end Example

theorem reads_its_grammar_written :
    Canonical Example.written ∧
      Example.written.flatMap Token.render = "/a/\x7bx\x7d\x7by-1\x7d.é\x7bx\x7d".toList ∧
      tokens "/a/\x7bx\x7d\x7by-1\x7d.é\x7bx\x7d".toList = Example.written :=
  ⟨Example.canonical_written, rfl, reads_its_grammar.2.1 _ Example.canonical_written⟩

end Pattern
end UriRouting
