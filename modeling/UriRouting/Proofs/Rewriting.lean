/-
# UriRouting.Proofs.Rewriting — braces rewritten

Patterns are read from the front: a plain character, a brace that is closed somewhere, or one
that never is (`Pattern.induction`).  `Pattern.rewrite` writes a text for each pair of braces, by
what stands between them, and leaves everything outside of them as it is, malformed or not.

As long as none of these texts is empty or has a slash at either end, the slashes at the ends of
the pattern are those that were there before, so the normal form of path patterns is kept
(`PathPattern.normalize_rewrite`).
-/
import UriRouting.Proofs.Append

namespace UriRouting

set_option autoImplicit false

namespace Pattern

/-! ## From the front -/

theorem inside_unclosed {body : Text} (stays : '}' ∉ body) : inside body = (body, none) := by
  induction body with
  | nil => rfl
  | cons c body ih =>
      have apart := List.ne_and_not_mem_of_not_mem_cons stays
      rw [inside_body apart.1.symm, ih apart.2]

theorem inside_closed {body : Text} (stays : '}' ∉ body) (t : Text) :
    inside (body ++ '}' :: t) = (body, some (parts t)) := by
  induction body with
  | nil => exact inside_close t
  | cons c body ih =>
      have apart := List.ne_and_not_mem_of_not_mem_cons stays
      rw [List.cons_append, inside_body apart.1.symm, ih apart.2]

theorem parts_unclosed {body : Text} (stays : '}' ∉ body) :
    parts ('{' :: body) = [.unclosed body] := by
  rw [parts_open, inside_unclosed stays]
  rfl

theorem parts_braced {body : Text} (stays : '}' ∉ body) (t : Text) :
    parts ((Part.braced body).render ++ t) = .braced body :: parts t := by
  rw [Part.render, List.append_assoc, List.cons_append, parts_open, List.singleton_append,
    inside_closed stays]
  rfl

/-- A pattern is empty, or starts with a plain character, a brace that is never closed, or one
that is. -/
@[elab_as_elim]
theorem induction {motive : Text → Prop} (nil : motive [])
    (plain : ∀ c t, c ≠ '{' → motive t → motive (c :: t))
    (unclosed : ∀ body, '}' ∉ body → motive ('{' :: body))
    (braced : ∀ body t, '}' ∉ body → motive t → motive ((Part.braced body).render ++ t)) :
    ∀ pattern, motive pattern
  | [] => nil
  | c :: t => by
      by_cases opens : c = '{'
      · subst opens
        by_cases closes : '}' ∈ t
        · obtain ⟨body, rest, cut, stays⟩ := List.eq_append_cons_of_mem closes
          have closed : '{' :: t = (Part.braced body).render ++ rest := by simp [cut, Part.render]
          rw [closed]
          exact braced body rest stays (induction nil plain unclosed braced rest)
        · exact unclosed t closes
      · exact plain c t opens (induction nil plain unclosed braced t)
termination_by pattern => pattern.length
decreasing_by
  · rw [cut, List.length_cons, List.length_append, List.length_cons]
    omega
  · exact Nat.lt_succ_self _

/-! ## Other texts for the braces -/

variable {write : Text → Text}

/-- The pattern with a text for each pair of braces, by what stands between them. -/
def rewrite (write : Text → Text) (pattern : Text) : Text :=
  (parts pattern).flatMap fun
    | .braced body => write body
    | part => part.render

@[simp] theorem rewrite_nil : rewrite write [] = [] := rfl

theorem rewrite_plain {c : Char} (plain : c ≠ '{') (t : Text) :
    rewrite write (c :: t) = c :: rewrite write t := by
  rw [rewrite, parts_plain plain, rewrite]
  unfold consPlain
  split
  · rename_i text ps first
    rw [first]
    rfl
  · rfl

theorem rewrite_unclosed {body : Text} (stays : '}' ∉ body) :
    rewrite write ('{' :: body) = '{' :: body := by
  rw [rewrite, parts_unclosed stays, List.flatMap_singleton]
  rfl

theorem rewrite_braced {body : Text} (stays : '}' ∉ body) (t : Text) :
    rewrite write ((Part.braced body).render ++ t) = write body ++ rewrite write t := by
  rw [rewrite, parts_braced stays]
  rfl

end Pattern

namespace PathPattern

open Pattern

variable {write : Text → Text}

/-- A slash at the end is part of no braces. -/
theorem rewrite_append_slash (pattern : Text) :
    rewrite write (pattern ++ ['/']) = rewrite write pattern ++ ['/'] := by
  induction pattern using induction with
  | nil => exact rewrite_plain (by decide) []
  | plain c t outside ih =>
      rw [List.cons_append, rewrite_plain outside, rewrite_plain outside, ih, List.cons_append]
  | unclosed body stays =>
      have stays' : '}' ∉ body ++ ['/'] := by simp [stays]
      rw [List.cons_append, rewrite_unclosed stays, rewrite_unclosed stays', List.cons_append]
  | braced body t stays ih =>
      rw [List.append_assoc, rewrite_braced stays, rewrite_braced stays, ih, List.append_assoc]

theorem normalize_eq (pattern : Text) :
    normalize pattern =
      let kept := dropTrailingSlashes pattern
      if kept = [] ∨ kept.head? = some '/' then kept else '/' :: kept := by
  unfold normalize
  cases dropTrailingSlashes pattern with
  | nil => rfl
  | cons c t => simp

/-- Something is written for each pair of braces, and no slash at either end of it. -/
structure KeepsEnds (write : Text → Text) : Prop where
  nonempty : ∀ body, write body ≠ []
  first : ∀ body, (write body).head? ≠ some '/'
  last : ∀ body, (write body).getLast? ≠ some '/'

namespace KeepsEnds

variable (keeps : KeepsEnds write)

include keeps

theorem rewrite_eq_nil_iff {pattern : Text} : rewrite write pattern = [] ↔ pattern = [] := by
  induction pattern using induction with
  | nil => simp
  | plain c t outside _ => simp [rewrite_plain outside]
  | unclosed body stays => simp [rewrite_unclosed stays]
  | braced body t stays _ =>
      rw [rewrite_braced stays]
      simp [Part.render, keeps.nonempty body]

theorem head?_rewrite_eq_slash_iff {pattern : Text} :
    (rewrite write pattern).head? = some '/' ↔ pattern.head? = some '/' := by
  induction pattern using induction with
  | nil => simp
  | plain c t outside _ => simp [rewrite_plain outside]
  | unclosed body stays => simp [rewrite_unclosed stays]
  | braced body t stays _ =>
      rw [rewrite_braced stays, List.head?_append_of_ne_nil _ (keeps.nonempty body)]
      simp [Part.render, keeps.first body]

theorem getLast?_of_rewrite {pattern : Text}
    (last : (rewrite write pattern).getLast? = some '/') : pattern.getLast? = some '/' := by
  induction pattern using induction with
  | nil => exact last
  | plain c t outside ih =>
      rw [rewrite_plain outside, ← List.singleton_append, List.getLast?_append,
        Option.or_eq_some_iff] at last
      rw [← List.singleton_append, List.getLast?_append, Option.or_eq_some_iff]
      rcases last with last | ⟨empty, last⟩
      · exact Or.inl (ih last)
      · rw [List.getLast?_eq_none_iff, keeps.rewrite_eq_nil_iff] at empty
        exact Or.inr ⟨by rw [empty, List.getLast?_nil], last⟩
  | unclosed body stays => rwa [rewrite_unclosed stays] at last
  | braced body t stays ih =>
      -- what is written for the braces does not end with a slash, so it stands further behind
      have behind : (rewrite write t).getLast? = some '/' := by
        rw [rewrite_braced stays, List.getLast?_append, Option.or_eq_some_iff] at last
        rcases last with last | ⟨-, last⟩
        · exact last
        · exact absurd last (keeps.last body)
      rw [List.getLast?_append, ih behind, Option.some_or]

theorem dropTrailingSlashes_rewrite (pattern : Text) :
    dropTrailingSlashes (rewrite write pattern) = rewrite write (dropTrailingSlashes pattern) := by
  induction pattern using List.reverseRecOn with
  | nil => rfl
  | append_singleton front c ih =>
      by_cases slash : c = '/'
      · have drop (t : Text) : dropTrailingSlashes (t ++ ['/']) = dropTrailingSlashes t :=
          List.rdropWhile_concat_pos _ _ _ (by decide)
        rw [slash, rewrite_append_slash, drop, drop, ih]
      · have kept : dropTrailingSlashes (front ++ [c]) = front ++ [c] :=
          dropTrailingSlashes_eq_self_iff.2 (by simpa using slash)
        rw [kept, dropTrailingSlashes_eq_self_iff]
        intro last
        have before := keeps.getLast?_of_rewrite last
        exact slash (by simpa using before)

end KeepsEnds

/-- The normal form does not see what is written for the braces. -/
theorem normalize_rewrite (keeps : KeepsEnds write) (pattern : Text) :
    normalize (rewrite write pattern) = rewrite write (normalize pattern) := by
  simp only [normalize_eq, keeps.dropTrailingSlashes_rewrite, keeps.rewrite_eq_nil_iff,
    keeps.head?_rewrite_eq_slash_iff]
  split
  · rfl
  · rw [rewrite_plain (by decide)]

end PathPattern
end UriRouting
