/-
# UriRouting.Proofs.Append — one pattern behind another

A pattern that closes its braces can be read without what follows it: the parts of `p ++ q`
are those of `p` and then those of `q`, but for a run of plain text that ends the one and
goes on in the other (`Pattern.parts_append`).  A reading does not see where such a run was
cut, so names and filled texts are read one behind the other (`Pattern.variableNames_append`,
`Pattern.fill_append`).

The normal form of path patterns, to start with a slash and to end without one
(`PathPattern.normalize_eq_self_iff`), is left alone by this: patterns in normal form are in
normal form together (`PathPattern.normalize_append`).
-/
import Mathlib.Data.List.DropRight
import UriRouting.Path.Pattern
import UriRouting.Proofs.Split

namespace UriRouting

set_option autoImplicit false

namespace Pattern

/-- No part is left open. -/
def Closed (ps : List Part) : Prop := ∀ body, .unclosed body ∉ ps

theorem closed_of_defects {pattern : Text}
    (h : Defect.unterminatedVariable ∉ defects pattern) : Closed (parts pattern) := by
  intro body member
  apply h
  rw [defects, List.mem_flatMap]
  refine ⟨.unclosed body, member, ?_⟩
  rw [Part.defects]
  exact List.mem_append_right _ List.mem_cons_self

/-- One list of parts behind another.  Runs of plain text that meet become one. -/
def glue : List Part → List Part → List Part
  | [], qs => qs
  | [.plain text], .plain more :: qs => .plain (text ++ more) :: qs
  | part :: ps, qs => part :: glue ps qs

theorem glue_consPlain (c : Char) (ps qs : List Part) :
    glue (consPlain c ps) qs = consPlain c (glue ps qs) := by
  -- only the last part may meet a part of the second list
  rcases ps with - | ⟨⟨text⟩ | body | body, - | ⟨p, ps⟩⟩
  · rcases qs with - | ⟨⟨more⟩ | body | body, qs⟩ <;> rfl
  · rcases qs with - | ⟨⟨more⟩ | body | body, qs⟩ <;> rfl
  all_goals rfl

theorem parts_open (t : Text) : parts ('{' :: t) = opened (inside t) := by
  rw [parts, if_pos rfl]

theorem parts_plain {c : Char} (plain : c ≠ '{') (t : Text) :
    parts (c :: t) = consPlain c (parts t) := by
  rw [parts, if_neg plain]

theorem inside_close (t : Text) : inside ('}' :: t) = ([], some (parts t)) := by
  rw [inside, if_pos rfl]

theorem inside_body {c : Char} (stays : c ≠ '}') (t : Text) :
    inside (c :: t) = (c :: (inside t).1, (inside t).2) := by
  rw [inside, if_neg stays]

theorem closed_of_consPlain {c : Char} {ps : List Part} (h : Closed (consPlain c ps)) :
    Closed ps := by
  intro body member
  unfold consPlain at h
  split at h
  · rcases List.mem_cons.1 member with same | member
    · cases same
    · exact h body (List.mem_cons_of_mem _ member)
  · exact h body (List.mem_cons_of_mem _ member)

/-- Outside of braces and inside of them, what is closed is read as if nothing followed. -/
theorem parts_and_inside_append (p q : Text) :
    (Closed (parts p) → parts (p ++ q) = glue (parts p) (parts q)) ∧
      ∀ body ps, inside p = (body, some ps) → Closed ps →
        inside (p ++ q) = (body, some (glue ps (parts q))) := by
  induction p with
  | nil =>
      constructor
      · intro _; rfl
      · intro body ps h; cases h
  | cons c t ih =>
      obtain ⟨outIh, inIh⟩ := ih
      rw [List.cons_append]
      constructor
      · intro closed
        -- a brace that opens hands over to the reading inside, which hands back behind it
        by_cases opens : c = '{'
        · rw [opens, parts_open] at closed ⊢
          rw [parts_open]
          cases within : inside t with
          | mk body later =>
              rw [within] at closed
              cases later with
              | none => exact absurd List.mem_cons_self (closed body)
              | some ps =>
                  have rest : Closed ps := fun b member => closed b (List.mem_cons_of_mem _ member)
                  rw [inIh body ps within rest]
                  rfl
        · rw [parts_plain opens] at closed ⊢
          rw [parts_plain opens, outIh (closed_of_consPlain closed), glue_consPlain]
      · intro body ps h closed
        by_cases closes : c = '}'
        · rw [closes, inside_close] at h ⊢
          cases h
          rw [outIh closed]
        · rw [inside_body closes] at h ⊢
          obtain ⟨rfl, later⟩ := Prod.mk.inj h
          rw [inIh (inside t).1 ps (by rw [← later]) closed]

theorem parts_append {p : Text} (closed : Closed (parts p)) (q : Text) :
    parts (p ++ q) = glue (parts p) (parts q) :=
  (parts_and_inside_append p q).1 closed

/-! ## Reading along -/

/-- A reading of tokens that does not see where a literal is cut. -/
theorem flatMap_glue {α : Type} (read : Token → List α)
    (seamless : ∀ a b, read (.literal (a ++ b)) = read (.literal a) ++ read (.literal b))
    (ps qs : List Part) :
    ((glue ps qs).flatMap Part.tokens).flatMap read =
      (ps.flatMap Part.tokens).flatMap read ++ (qs.flatMap Part.tokens).flatMap read := by
  induction ps, qs using glue.induct with
  | case1 qs => rfl
  | case2 text more qs =>
      simp only [glue, List.flatMap_cons, List.flatMap_nil, Part.tokens, List.flatMap_append,
        seamless, List.append_nil, List.append_assoc]
  | case3 part ps qs apart ih =>
      rw [glue, List.flatMap_cons, List.flatMap_cons, List.flatMap_append, List.flatMap_append, ih,
        List.append_assoc]
      exact apart

/-- What is read of a closed pattern and another is read of the one and then of the other. -/
theorem flatMap_tokens_append {α : Type} (read : Token → List α)
    (seamless : ∀ a b, read (.literal (a ++ b)) = read (.literal a) ++ read (.literal b))
    {p : Text} (closed : Closed (parts p)) (q : Text) :
    (tokens (p ++ q)).flatMap read = (tokens p).flatMap read ++ (tokens q).flatMap read := by
  rw [tokens, parts_append closed]
  exact flatMap_glue read seamless (parts p) (parts q)

theorem fill_append {p : Text} (closed : Closed (parts p)) (q : Text) (value : Text → Text) :
    (tokens (p ++ q)).flatMap (Token.fill value) =
      (tokens p).flatMap (Token.fill value) ++ (tokens q).flatMap (Token.fill value) :=
  flatMap_tokens_append (Token.fill value) (fun _ _ => rfl) closed q

theorem variableNames_eq (pattern : Text) :
    variableNames pattern = (tokens pattern).flatMap fun token => token.name?.toList :=
  List.filterMap_eq_flatMap_toList Token.name? (tokens pattern)

theorem variableNames_append {p : Text} (closed : Closed (parts p)) (q : Text) :
    variableNames (p ++ q) = variableNames p ++ variableNames q := by
  rw [variableNames_eq, variableNames_eq, variableNames_eq]
  exact flatMap_tokens_append _ (fun _ _ => rfl) closed q

end Pattern

namespace PathPattern

open Pattern

theorem dropTrailingSlashes_eq_self_iff {pattern : Text} :
    dropTrailingSlashes pattern = pattern ↔ pattern.getLast? ≠ some '/' := by
  refine List.rdropWhile_eq_self_iff.trans ?_
  cases pattern with
  | nil => simp
  | cons c t => simp [List.getLast?_eq_some_getLast]

/-- A pattern in normal form is empty or starts with a slash, and does not end with one. -/
theorem normalize_eq_self_iff {pattern : Text} :
    normalize pattern = pattern ↔
      (pattern = [] ∨ ∃ t, pattern = '/' :: t) ∧ pattern.getLast? ≠ some '/' := by
  rw [← dropTrailingSlashes_eq_self_iff]
  have front : dropTrailingSlashes pattern <+: pattern := List.rdropWhile_prefix _ _
  constructor
  · intro normal
    unfold normalize at normal
    split at normal
    · subst normal
      exact ⟨Or.inl rfl, rfl⟩
    · rename_i c t dropped
      split at normal
      · rename_i slash
        rw [dropped, normal]
        exact ⟨Or.inr ⟨t, by rw [← normal, slash]⟩, rfl⟩
      · rename_i other
        rw [dropped, ← normal] at front
        exact absurd (List.cons_prefix_cons.1 front).1 other
  · rintro ⟨rfl | ⟨t, rfl⟩, kept⟩
    · rfl
    · rw [normalize, kept]
      exact if_pos rfl

theorem normalize_normalize (pattern : Text) :
    normalize (normalize pattern) = normalize pattern := by
  have kept : dropTrailingSlashes (dropTrailingSlashes pattern) = dropTrailingSlashes pattern :=
    List.rdropWhile_idempotent _ _
  rw [dropTrailingSlashes_eq_self_iff] at kept
  rw [normalize_eq_self_iff]
  unfold normalize
  split
  · simp
  · rename_i c t dropped
    rw [dropped] at kept
    split
    · rename_i slash
      exact ⟨Or.inr ⟨t, by rw [slash]⟩, kept⟩
    · rw [List.getLast?_cons_cons]
      exact ⟨Or.inr ⟨c :: t, rfl⟩, kept⟩

/-- Patterns in normal form are in normal form together. -/
theorem normalize_append {p q : Text} (hp : normalize p = p) (hq : normalize q = q) :
    normalize (p ++ q) = p ++ q := by
  rw [normalize_eq_self_iff] at hp hq ⊢
  constructor
  · rcases hp.1 with rfl | ⟨t, rfl⟩
    · exact hq.1
    · exact Or.inr ⟨t ++ q, rfl⟩
  · rw [List.getLast?_append, ne_eq, Option.or_eq_some_iff]
    rintro (last | ⟨-, last⟩)
    · exact hq.2 last
    · exact hp.2 last

/-- What a pattern in normal form stands for is empty or starts with a slash, so a segment ends
in front of it if one ends behind it. -/
theorem ends_fill_append {pattern rest : Text} (normal : normalize pattern = pattern)
    (value : Text → Text) (ends : Mode.startsWithSegment.Ends rest) :
    Mode.startsWithSegment.Ends ((tokens pattern).flatMap (Token.fill value) ++ rest) := by
  rcases (normalize_eq_self_iff.1 normal).1 with rfl | ⟨t, rfl⟩
  · exact ends
  · right
    rw [tokens, parts_plain (by decide)]
    unfold consPlain
    split
    · exact ⟨_, rfl⟩
    · exact ⟨_, rfl⟩

end PathPattern
end UriRouting
