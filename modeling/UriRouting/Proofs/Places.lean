/-
# UriRouting.Proofs.Places — a pattern seen from each of its characters

Which braces are open somewhere in a pattern can be told from the text before that place, without
reading the pattern from its front: behind the last `}` there is a `{`, and the body so far is
what follows the first of these (`Pattern.openBody?`).  One more character opens braces, closes
them, or makes the body longer (`openBody?_snoc_outside`, `openBody?_snoc_inside`).

A `Pattern.Place` is a character of a pattern with the braces that are open before it and the text
after it.  What has been closed makes no difference to the places behind it, so the places of a
pattern are found along its parts (`places_plain`, `places_unclosed`, `places_braced`), and what
is read off the places can be compared with what is read off the parts.
-/
import UriRouting.Proofs.Rewriting

namespace UriRouting

set_option autoImplicit false

namespace Pattern

/-! ## Open braces -/

/-- The body so far of the braces that are open at the end of a text, if any are: what stands
behind the first `{` that has no `}` after it. -/
def openBody? (text : Text) : Option Text :=
  match (text.rtakeWhile (· ≠ '}')).dropWhile (· ≠ '{') with
  | [] => none
  | _ :: body => some body

variable {before opened body : Text} {c : Char}

theorem openBody?_snoc_close (before : Text) : openBody? (before ++ ['}']) = none := by
  rw [openBody?, List.rtakeWhile_concat, if_neg (by decide)]
  rfl

theorem openBody?_snoc_outside (outside : openBody? before = none) (c : Char) :
    openBody? (before ++ [c]) = if c = '{' then some [] else none := by
  by_cases closes : c = '}'
  · subst closes
    rw [openBody?_snoc_close, if_neg (by decide)]
  · have none : (before.rtakeWhile (· ≠ '}')).dropWhile (· ≠ '{') = [] := by
      unfold openBody? at outside
      split at outside
      · assumption
      · cases outside
    rw [openBody?, List.rtakeWhile_concat, if_pos (by simpa using closes), List.dropWhile_append,
      none]
    by_cases opens : c = '{'
    · simp [opens]
    · simp [opens]

theorem openBody?_snoc_inside (inside : openBody? before = some opened) (stays : c ≠ '}') :
    openBody? (before ++ [c]) = some (opened ++ [c]) := by
  obtain ⟨brace, some⟩ : ∃ brace,
      (before.rtakeWhile (· ≠ '}')).dropWhile (· ≠ '{') = brace :: opened := by
    unfold openBody? at inside
    split at inside
    · cases inside
    · rename_i brace body found
      cases inside
      exact ⟨brace, found⟩
  rw [openBody?, List.rtakeWhile_concat, if_pos (by simpa using stays), List.dropWhile_append,
    some]
  rfl

theorem openBody?_plain (plain : c ≠ '{') : openBody? [c] = none := by
  rw [← List.nil_append [c], openBody?_snoc_outside rfl, if_neg plain]

/-- What has been closed makes no difference. -/
theorem openBody?_append (outside : openBody? before = none) (text : Text) :
    openBody? (before ++ text) = openBody? text := by
  induction text using List.reverseRecOn with
  | nil => rw [List.append_nil, outside]; rfl
  | append_singleton text c ih =>
      rw [← List.append_assoc]
      cases now : openBody? text with
      | none => rw [openBody?_snoc_outside (ih.trans now), openBody?_snoc_outside now]
      | some opened =>
          by_cases closes : c = '}'
          · rw [closes, openBody?_snoc_close, openBody?_snoc_close]
          · rw [openBody?_snoc_inside (ih.trans now) closes, openBody?_snoc_inside now closes]

theorem openBody?_body (inside : openBody? before = some opened) (stays : '}' ∉ body) :
    openBody? (before ++ body) = some (opened ++ body) := by
  induction body generalizing before opened with
  | nil => rw [List.append_nil, List.append_nil, inside]
  | cons c body ih =>
      have apart := List.ne_and_not_mem_of_not_mem_cons stays
      have next := ih (openBody?_snoc_inside inside apart.1.symm) apart.2
      rwa [List.append_assoc, List.append_assoc] at next

theorem openBody?_open : openBody? ['{'] = some [] := rfl

theorem openBody?_unclosed (stays : '}' ∉ body) : openBody? ('{' :: body) = some body :=
  openBody?_body openBody?_open stays

theorem openBody?_braced (body : Text) : openBody? (Part.braced body).render = none :=
  openBody?_snoc_close ('{' :: body)

/-! ## Places -/

/-- A character of a pattern, with the body so far of the braces that are open before it, and what
stands after it. -/
structure Place where
  opened : Option Text
  char : Char
  after : Text
  deriving Repr, DecidableEq

/-- The places of a text that stands behind another. -/
def placesBehind : (before : Text) → Text → List Place
  | _, [] => []
  | before, c :: after => ⟨openBody? before, c, after⟩ :: placesBehind (before ++ [c]) after

def places (pattern : Text) : List Place := placesBehind [] pattern

theorem placesBehind_outside (outside : openBody? before = none) (text : Text) :
    placesBehind before text = places text := by
  -- the text that has been read since is the same on both sides
  suffices alike : ∀ front, placesBehind (before ++ front) text = placesBehind front text by
    have here := alike []
    rw [List.append_nil] at here
    exact here
  induction text with
  | nil => intro front; rfl
  | cons c text ih =>
      intro front
      rw [placesBehind, placesBehind, openBody?_append outside, List.append_assoc, ih]

/-- The places of a body, where a part of the body and another text stand around it. -/
def bodyPlaces : (opened body rest : Text) → List Place
  | _, [], _ => []
  | opened, c :: body, rest =>
    ⟨some opened, c, body ++ rest⟩ :: bodyPlaces (opened ++ [c]) body rest

theorem placesBehind_inside (inside : openBody? before = some opened) (stays : '}' ∉ body)
    (rest : Text) :
    placesBehind before (body ++ rest) =
      bodyPlaces opened body rest ++ placesBehind (before ++ body) rest := by
  induction body generalizing before opened with
  | nil => rw [List.append_nil]; rfl
  | cons c body ih =>
      have apart := List.ne_and_not_mem_of_not_mem_cons stays
      have next := ih (openBody?_snoc_inside inside apart.1.symm) apart.2
      rw [List.cons_append, placesBehind, inside, next, List.append_assoc]
      rfl

theorem places_plain (plain : c ≠ '{') (t : Text) :
    places (c :: t) = ⟨none, c, t⟩ :: places t := by
  rw [← placesBehind_outside (openBody?_plain plain) t]
  rfl

theorem places_open (t : Text) :
    places ('{' :: t) = ⟨none, '{', t⟩ :: placesBehind ['{'] t := rfl

theorem places_unclosed (stays : '}' ∉ body) :
    places ('{' :: body) = ⟨none, '{', body⟩ :: bodyPlaces [] body [] := by
  have inside := placesBehind_inside openBody?_open stays []
  rw [List.append_nil] at inside
  rw [places_open, inside, placesBehind, List.append_nil]

theorem places_braced (stays : '}' ∉ body) (t : Text) :
    places ((Part.braced body).render ++ t) =
      ⟨none, '{', body ++ '}' :: t⟩ ::
        (bodyPlaces [] body ('}' :: t) ++ ⟨some body, '}', t⟩ :: places t) := by
  have inside := placesBehind_inside openBody?_open stays ('}' :: t)
  rw [Part.render, List.append_assoc, List.cons_append, List.singleton_append, places_open, inside,
    placesBehind, List.singleton_append, openBody?_unclosed stays,
    placesBehind_outside (openBody?_snoc_close _)]

/-! ## Reading off the places -/

variable {α : Type} {read : Place → Option α}

/-- What is read off the places of a body, where only the character matters. -/
theorem filterMap_bodyPlaces (byChar : Char → Option α) {rest : Text} (stays : '}' ∉ body)
    (same : ∀ opened c after, c ≠ '}' → '}' ∉ after →
      read ⟨some opened, c, after ++ rest⟩ = byChar c) (opened : Text) :
    (bodyPlaces opened body rest).filterMap read = body.filterMap byChar := by
  induction body generalizing opened with
  | nil => rfl
  | cons c body ih =>
      have apart := List.ne_and_not_mem_of_not_mem_cons stays
      rw [bodyPlaces, List.filterMap_cons, List.filterMap_cons, ih apart.2,
        same opened c body apart.1.symm apart.2]

end Pattern
end UriRouting
