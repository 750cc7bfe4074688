/-
# UriRouting.Proofs.Skeleton — what the rank of a path pattern is read off

The skeleton of a path pattern is written by its template, where every variable is empty, and its
groups are those of a matcher.  Both can be told from the text of the pattern alone, by the spans
in it: a span goes from a brace outside of all spans to the next closing brace.  The skeleton is
what stands outside of the spans (`Pattern.outsideSpans_eq`), and the names of the variables are
what is left of their bodies (`Pattern.variableNames_eq_spans`).  Nothing is lost between the two
(`Pattern.length_outsideSpans_add`).

So descriptors have no part in which patterns are the same, nor in what ranks them
(`PathPattern.rank_of_text`).
-/
import Mathlib.Data.Finset.Card
import UriRouting.Proofs.PathMatching
import UriRouting.Proofs.Places
import UriRouting.Proofs.Substitution
import UriRouting.Proofs.Upkeep

namespace UriRouting

set_option autoImplicit false

namespace Pattern

namespace Place

/-- The character belongs to a span: it opens braces or stands behind some that are open, and from
here on there is a brace that closes them. -/
def inSpan (p : Place) : Bool :=
  (p.opened.isSome || p.char == '{') && (p.char :: p.after).contains '}'

/-- The character, if it belongs to no span. -/
def kept? (p : Place) : Option Char := if p.inSpan then none else some p.char

/-- The body of the span that ends with the character, if one does. -/
def body? (p : Place) : Option Text := if p.char = '}' then p.opened else none

end Place

/-- What stands outside of the spans. -/
def outsideSpans (pattern : Text) : Text := (places pattern).filterMap Place.kept?

/-- What stands between the braces of each span. -/
def spanBodies (pattern : Text) : List Text := (places pattern).filterMap Place.body?

/-- The characters of all spans, their braces included. -/
def spanChars (pattern : Text) : Text :=
  (spanBodies pattern).flatMap fun body => (Part.braced body).render

/-- What is left of the bodies without the characters that no name has, if anything is. -/
def spanNames (pattern : Text) : List Text :=
  ((spanBodies pattern).map nameOf).filter (· ≠ [])

variable {c : Char} {body : Text}

theorem outsideSpans_plain (plain : c ≠ '{') (t : Text) :
    outsideSpans (c :: t) = c :: outsideSpans t := by
  have kept : Place.kept? ⟨none, c, t⟩ = some c := by simp [Place.kept?, Place.inSpan, plain]
  rw [outsideSpans, places_plain plain, List.filterMap_cons_some kept, outsideSpans]

theorem outsideSpans_unclosed (stays : '}' ∉ body) :
    outsideSpans ('{' :: body) = '{' :: body := by
  have kept (opened : Option Text) (c : Char) (after : Text) (other : c ≠ '}')
      (none : '}' ∉ after) : Place.kept? ⟨opened, c, after⟩ = some c := by
    simp [Place.kept?, Place.inSpan, other.symm, none]
  have all : (bodyPlaces [] body []).filterMap Place.kept? = body.filterMap some :=
    filterMap_bodyPlaces some stays
      (fun opened c after other none => kept (some opened) c _ other (by simpa using none)) []
  rw [outsideSpans, places_unclosed stays,
    List.filterMap_cons_some (kept none '{' body (by decide) stays), all, List.filterMap_some]

theorem outsideSpans_braced (stays : '}' ∉ body) (t : Text) :
    outsideSpans ((Part.braced body).render ++ t) = outsideSpans t := by
  have opening : Place.kept? ⟨none, '{', body ++ '}' :: t⟩ = none := by
    simp [Place.kept?, Place.inSpan]
  have closing : Place.kept? ⟨some body, '}', t⟩ = none := rfl
  have between : (bodyPlaces [] body ('}' :: t)).filterMap Place.kept? =
      body.filterMap fun _ => none :=
    filterMap_bodyPlaces _ stays (fun _ _ _ _ _ => by simp [Place.kept?, Place.inSpan]) []
  rw [outsideSpans, places_braced stays, List.filterMap_cons_none opening, List.filterMap_append,
    between, List.filterMap_cons_none closing, outsideSpans]
  simp

theorem spanBodies_plain (plain : c ≠ '{') (t : Text) : spanBodies (c :: t) = spanBodies t := by
  have none : Place.body? ⟨none, c, t⟩ = none := ite_self _
  rw [spanBodies, places_plain plain, List.filterMap_cons_none none, spanBodies]

theorem body?_bodyPlaces (stays : '}' ∉ body) (rest : Text) :
    (bodyPlaces [] body rest).filterMap Place.body? = [] := by
  have none : (bodyPlaces [] body rest).filterMap Place.body? = body.filterMap fun _ => none :=
    filterMap_bodyPlaces _ stays (fun _ _ _ other _ => if_neg other) []
  simpa using none

theorem spanBodies_unclosed (stays : '}' ∉ body) : spanBodies ('{' :: body) = [] := by
  rw [spanBodies, places_unclosed stays, List.filterMap_cons_none rfl, body?_bodyPlaces stays]

theorem spanBodies_braced (stays : '}' ∉ body) (t : Text) :
    spanBodies ((Part.braced body).render ++ t) = body :: spanBodies t := by
  have closing : Place.body? ⟨some body, '}', t⟩ = some body := rfl
  rw [spanBodies, places_braced stays, List.filterMap_cons_none rfl, List.filterMap_append,
    body?_bodyPlaces stays, List.nil_append, List.filterMap_cons_some closing, spanBodies]

/-- Where all variables are empty, what is left is what stands outside of the spans. -/
theorem outsideSpans_eq (pattern : Text) :
    outsideSpans pattern = (tokens pattern).flatMap (Token.fill fun _ => []) := by
  induction pattern using induction with
  | nil => rfl
  | plain c t outside ih =>
      rw [outsideSpans_plain outside, ih,
        flatMap_tokens_plain (Token.fill fun _ => []) (fun _ _ => rfl) outside]
      rfl
  | unclosed body stays =>
      rw [outsideSpans_unclosed stays, tokens, parts_unclosed stays]
      exact (List.append_nil _).symm
  | braced body t stays ih =>
      rw [outsideSpans_braced stays, ih, tokens_braced stays, List.flatMap_append]
      by_cases nameless : nameOf body = [] <;> simp [Part.tokens, nameless, Token.fill]

theorem variableNames_eq_spans (pattern : Text) : variableNames pattern = spanNames pattern := by
  rw [variableNames_eq]
  induction pattern using induction with
  | nil => rfl
  | plain c t outside ih =>
      rw [flatMap_tokens_plain (fun token => token.name?.toList) (fun _ _ => rfl) outside, ih,
        spanNames, spanNames, spanBodies_plain outside]
      rfl
  | unclosed body stays =>
      rw [tokens, parts_unclosed stays, spanNames, spanBodies_unclosed stays]
      rfl
  | braced body t stays ih =>
      rw [tokens_braced stays, List.flatMap_append, ih, spanNames, spanNames,
        spanBodies_braced stays, List.map_cons, List.filter_cons]
      by_cases nameless : nameOf body = [] <;> simp [Part.tokens, nameless, Token.name?]

/-- Every character stands outside of the spans or in one of them. -/
theorem length_outsideSpans_add (pattern : Text) :
    (outsideSpans pattern).length + (spanChars pattern).length = pattern.length := by
  induction pattern using induction with
  | nil => rfl
  | plain c t outside ih =>
      rw [spanChars] at ih
      rw [spanChars, outsideSpans_plain outside, spanBodies_plain outside, List.length_cons,
        List.length_cons, ← ih]
      omega
  | unclosed body stays =>
      rw [spanChars, outsideSpans_unclosed stays, spanBodies_unclosed stays]
      rfl
  | braced body t stays ih =>
      rw [spanChars] at ih
      rw [spanChars, outsideSpans_braced stays, spanBodies_braced stays, List.flatMap_cons,
        List.length_append, List.length_append, ← ih]
      omega

/-- A span without a name and one with a brace in its body, between a brace that closes nothing
and one that is never closed. -/
example : let pattern := "/a\x7d\x7bx y\x7d\x7b\x7d/\x7bz\x7b\x7db/\x7bc".toList
    outsideSpans pattern = "/a\x7d/b/\x7bc".toList ∧
      spanNames pattern = ["xy".toList, "z".toList] := by
  decide +kernel

end Pattern

namespace PathPattern

open Pattern

theorem skeleton_eq_outsideSpans (pattern : Text) (descriptors : Dictionary Variable) :
    (ofPattern pattern descriptors).answer.skeleton = outsideSpans (normalize pattern) :=
  (skeleton_ofPattern pattern descriptors).trans (outsideSpans_eq (normalize pattern)).symm

theorem capturingGroups_eq_spans (pattern : Text) (descriptors : Dictionary Variable) :
    (ofPattern pattern descriptors).answer.capturingGroups.answer.1 =
      (spanNames (normalize pattern)).toFinset.card := by
  have good := good_ofPattern pattern descriptors
  have same : (spanNames (normalize pattern)).eraseDups.toFinset =
      (spanNames (normalize pattern)).toFinset := by
    ext name
    simp
  rw [← same, List.toFinset_card_of_nodup (nodup_eraseDups _), ← variableNames_eq_spans]
  simp only [capturingGroups, Logged.answer_bind, Logged.answer_pure,
    CachedTemplate.groups_answer good, Template.groups_eq]
  rfl

/-- **The rank of a path pattern is read off its text.**  Whatever the descriptors, the skeleton,
by which patterns are told apart, is what stands outside of the spans of the normal form, its
number of characters is that of literal characters, and the different names in the spans are the
variables that are counted.  So none of this depends on the descriptors, and the literal
characters and those of the spans are all characters of the normal form. -/
theorem rank_of_text (pattern : Text) (descriptors : Dictionary Variable) :
    let p := (ofPattern pattern descriptors).answer
    let normal := normalize pattern
    p.skeleton = outsideSpans normal ∧ p.literalChars = (outsideSpans normal).length ∧
      p.capturingGroups.answer.1 = (spanNames normal).toFinset.card ∧
      (∀ pattern' descriptors', Same p (ofPattern pattern' descriptors').answer ↔
        outsideSpans normal = outsideSpans (normalize pattern')) ∧
      (∀ descriptors', let q := (ofPattern pattern descriptors').answer
        Same p q ∧ p.literalChars = q.literalChars ∧
          p.capturingGroups.answer.1 = q.capturingGroups.answer.1) ∧
      p.literalChars + (spanChars normal).length = normal.length := by
  have skeleton := skeleton_eq_outsideSpans pattern
  have literals := fun descriptors => congrArg List.length (skeleton descriptors)
  have groups := capturingGroups_eq_spans pattern
  refine ⟨skeleton descriptors, literals descriptors, groups descriptors, ?_, ?_, ?_⟩
  · intro pattern' descriptors'
    rw [Same, skeleton, skeleton_eq_outsideSpans]
  · intro descriptors'
    exact ⟨(skeleton descriptors).trans (skeleton descriptors').symm,
      (literals descriptors).trans (literals descriptors').symm,
      (groups descriptors).trans (groups descriptors').symm⟩
  · rw [literalChars, literals descriptors, length_outsideSpans_add]

end PathPattern
end UriRouting
