/-
# UriRouting.Proofs.FixedText — what is written for a fixed variable, and what it matches

A fixed variable matches its default as it is.  Where no value is known for it the default is
written too, but encoded if the template or the descriptor asks for that; which characters are
left as they are then depends on both and on the kind (`Template.keeps`).  The two texts are the
same exactly if no character has to be encoded (`Template.admits_writeValue_iff`), as a character
that is not kept gets longer (`Percent.length_lt_encode`).

A template of fixed variables matches one whole text, that of its defaults
(`Template.nonempty_split_iff`), and comes back to nothing on the way (`Piece.within_search`), so
no limit is ever passed.  Hence it matches what it writes for the defaults if it writes all of
them as they are, and otherwise misses it, as that is too long (`Template.matchedSize?_fixed`).
-/
import UriRouting.Proofs.RoundTrip

namespace UriRouting

set_option autoImplicit false

namespace Percent

/-! ## What encoding makes longer -/

variable {keep : Char → Bool} {t : Text}

theorem encode_cons (keep : Char → Bool) (c : Char) (t : Text) :
    encode keep (c :: t) =
      (if keep c then [c] else (Utf8.encodeChar c).flatMap encodeOctet) ++ encode keep t :=
  List.flatMap_cons

theorem length_encodeOctets (c : Char) :
    ((Utf8.encodeChar c).flatMap encodeOctet).length = c.utf8Size * 3 := by
  simp [List.length_flatMap, encodeOctet, Utf8.length_encodeChar]

theorem encode_of_keeps (kept : ∀ c ∈ t, keep c = true) : encode keep t = t := by
  induction t with
  | nil => rfl
  | cons c t ih =>
      have later := ih fun d member => kept d (List.mem_cons_of_mem _ member)
      rw [encode_cons, if_pos (kept c List.mem_cons_self), later, List.singleton_append]

theorem length_le_encode (keep : Char → Bool) (t : Text) : t.length ≤ (encode keep t).length := by
  induction t with
  | nil => exact Nat.le_refl 0
  | cons c t ih =>
      have pos := c.utf8Size_pos
      rw [encode_cons, List.length_append, List.length_cons]
      split
      · rw [List.length_singleton]
        omega
      · rw [length_encodeOctets]
        omega

/-- A character that is not kept makes the text longer. -/
theorem length_lt_encode {c : Char} (member : c ∈ t) (lost : keep c ≠ true) :
    t.length < (encode keep t).length := by
  obtain ⟨front, rest, rfl⟩ := List.append_of_mem member
  have pos := c.utf8Size_pos
  have before := length_le_encode keep front
  have behind := length_le_encode keep rest
  have parts : encode keep (front ++ c :: rest) =
      encode keep front ++ encode keep (c :: rest) := List.flatMap_append
  rw [parts, encode_cons, if_neg lost]
  simp only [List.length_append, List.length_cons, length_encodeOctets]
  omega

end Percent

/-! ## Searching with nothing to come back to -/

open Outcome

/-- Where each variable takes one text only, a search comes back to nothing. -/
theorem Piece.within_search (limit : Nat) (mode : Mode) {pieces : List Piece}
    (exact : ∀ name language, .first name language ∈ pieces → ∃ text, language = .exactly text)
    (marks : List Mark) (t : Text) (spent : Nat) :
    (search limit mode pieces marks t spent).Within spent := by
  induction pieces generalizing marks t with
  | nil =>
      rw [search]
      split
      · trivial
      · exact Nat.le_refl spent
  | cons piece pieces ih =>
      have later :=
        ih fun name language member => exact name language (List.mem_cons_of_mem _ member)
      cases piece with
      | literal text =>
          rw [search]
          split
          · exact later marks _
          · exact Nat.le_refl spent
      | first name language =>
          obtain ⟨text, rfl⟩ := exact name language List.mem_cons_self
          rw [search, Language.search]
          split
          · exact later _ _
          · exact Nat.le_refl spent
      | again name =>
          rw [search]
          split
          · split
            · exact later marks _
            · exact Nat.le_refl spent
          · exact Nat.le_refl spent

/-- The pieces of variables have the languages of their descriptors. -/
theorem Piece.first_mem_ofTokens {describe : Text → Variable} {seen : List Text}
    {tokens : List Token} {name : Text} {language : Language}
    (member : .first name language ∈ ofTokens describe seen tokens) :
    name ∈ Token.names tokens ∧ language = (describe name).language := by
  induction tokens generalizing seen with
  | nil => cases member
  | cons token tokens ih =>
      rcases token with text | other
      · rcases List.mem_cons.1 member with same | member
        · cases same
        · exact ih member
      · rw [Token.names_variable, List.mem_cons]
        cases before : seen.contains other with
        | true =>
            rw [ofTokens_known before] at member
            rcases List.mem_cons.1 member with same | member
            · cases same
            · exact (ih member).imp_left Or.inr
        | false =>
            rw [ofTokens_new before] at member
            rcases List.mem_cons.1 member with same | member
            · cases same
              exact ⟨Or.inl rfl, rfl⟩
            · exact (ih member).imp_left Or.inr

namespace Template

variable {t : Template} {text : Text} {resolve : Text → Option Text}

/-! ## What is written -/

/-- The characters that are left as they are in what is written for a variable. -/
def keeps (t : Template) (name : Text) : Char → Bool :=
  if t.encoding then (t.describe name).kind.safe.keeps
  else if (t.describe name).encodes then Percent.Safe.component.keeps
  else fun _ => true

theorem writeValue_eq (t : Template) (resolve : Text → Option Text) (name : Text) :
    t.writeValue resolve name =
      Percent.encode (t.keeps name) ((resolve name).getD (t.describe name).default) := by
  simp only [writeValue, keeps]
  split
  · rfl
  · split
    · rfl
    · rw [Percent.encode_of_keeps fun _ _ => rfl]

/-- Nothing of the default has to be encoded when it is written. -/
def KeepsDefault (t : Template) (name : Text) : Prop :=
  ∀ c ∈ (t.describe name).default, t.keeps name c = true

instance (t : Template) (name : Text) : Decidable (t.KeepsDefault name) :=
  List.decidableBAll _ _

theorem writeValue_of_keepsDefault {name : Text} (silent : resolve name = none)
    (kept : t.KeepsDefault name) : t.writeValue resolve name = (t.describe name).default := by
  rw [writeValue_eq, silent, Option.getD_none, Percent.encode_of_keeps kept]

theorem length_le_writeValue {name : Text} (silent : resolve name = none) :
    (t.describe name).default.length ≤ (t.writeValue resolve name).length := by
  rw [writeValue_eq, silent, Option.getD_none]
  exact Percent.length_le_encode _ _

theorem length_lt_writeValue {name : Text} (silent : resolve name = none)
    (lost : ¬ t.KeepsDefault name) :
    (t.describe name).default.length < (t.writeValue resolve name).length := by
  obtain ⟨c, lost⟩ := not_forall.1 lost
  obtain ⟨member, lost⟩ := not_forall.1 lost
  rw [writeValue_eq, silent, Option.getD_none]
  exact Percent.length_lt_encode member lost

/-! ## What is matched -/

theorem admits_of_fixed {name : Text} (fixed : (t.describe name).fixed = true) {value : Text} :
    (t.describe name).language.Admits value ↔ value = (t.describe name).default := by
  rw [Variable.language, if_pos fixed]
  rfl

/-- A fixed variable takes what is written for it exactly if its default is written as it is. -/
theorem admits_writeValue_iff {name : Text} (fixed : (t.describe name).fixed = true)
    (silent : resolve name = none) :
    (t.describe name).language.Admits (t.writeValue resolve name) ↔ t.KeepsDefault name := by
  rw [admits_of_fixed fixed]
  constructor
  · intro same
    by_contra lost
    have longer := length_lt_writeValue (t := t) silent lost
    rw [same] at longer
    exact absurd longer (Nat.lt_irrefl _)
  · exact writeValue_of_keepsDefault silent

/-- What a template of fixed variables matches as a whole is the text of its defaults. -/
theorem nonempty_split_iff (whole : t.mode = .equals)
    (fixed : ∀ name ∈ t.variableNames, (t.describe name).fixed = true) :
    Nonempty (t.Split text) ↔
      text = t.tokens.flatMap (Token.fill fun name => (t.describe name).default) := by
  constructor
  · rintro ⟨s⟩
    rw [← s.front_of_equals whole, s.front_eq]
    apply Token.flatMap_fill_congr
    intro name member
    exact (admits_of_fixed (fixed name member)).1 (s.admits member)
  · intro same
    refine ⟨.ofValue (fun name => (t.describe name).default) [] ?_ ?_ (by rw [whole]; rfl)⟩
    · rw [List.append_nil]
      exact same
    · intro name member
      exact (admits_of_fixed (fixed name member)).2 rfl

theorem verdict_ne_gaveUp (whole : t.mode = .equals)
    (fixed : ∀ name ∈ t.variableNames, (t.describe name).fixed = true) (text : Text) :
    t.verdict text ≠ .gaveUp := by
  apply Matcher.run_ne_gaveUp
  have exact : ∀ name language, .first name language ∈ t.matcher.pieces →
      ∃ text, language = .exactly text := by
    intro name language member
    obtain ⟨named, rfl⟩ := Piece.first_mem_ofTokens member
    exact ⟨(t.describe name).default, if_pos (fixed name named)⟩
  have within := Piece.within_search t.matcher.limit t.matcher.mode exact [] text 0
  have mode : t.matcher.mode = .equals := whole
  unfold Piece.searchFront
  cases outcome : Piece.search t.matcher.limit t.matcher.mode t.matcher.pieces [] text 0 with
  | found captures rest => simp [Outcome.orElse]
  | missed spent =>
      rw [outcome] at within
      obtain rfl : spent = 0 := Nat.le_zero.1 within
      simp [Outcome.orElse, mode, Mode.laterStarts, Outcome.spend]
  | gaveUp =>
      rw [outcome] at within
      exact within.elim

theorem matchedSize?_equals (whole : t.mode = .equals) (settled : t.verdict text ≠ .gaveUp) :
    t.matchedSize? text = some (Text.size text) ↔ Nonempty (t.Split text) := by
  constructor
  · intro found
    obtain ⟨s, -⟩ := exists_matched_of_matchedSize? found
    exact ⟨s⟩
  · intro some
    obtain ⟨s, -, matched⟩ := exists_matched (Or.inr settled) some
    rw [matchedSize?_of_matched matched, s.size_of_equals whole]

theorem verdict_eq_missed_iff (settled : t.verdict text ≠ .gaveUp) :
    t.verdict text = .missed ↔ ¬ Nonempty (t.Split text) := by
  constructor
  · intro missed
    exact split?_eq_none_iff.1 (Matcher.run_missed missed)
  · intro none
    rcases t.verdict_cases text with ⟨s, -⟩ | ⟨-, missed⟩ | ⟨-, gaveUp⟩
    · exact absurd ⟨s⟩ none
    · exact missed
    · exact absurd gaveUp settled

/-- **A template of fixed variables matches what it writes for their defaults** exactly if it
writes all of them as they are, whatever its limit is.  Otherwise it matches nothing of it.  It
is the same for one variable: what is written for it is what it matches exactly if its default is
written as it is. -/
theorem matchedSize?_fixed (whole : t.mode = .equals)
    (fixed : ∀ name ∈ t.variableNames, (t.describe name).fixed = true)
    (silent : ∀ name ∈ t.variableNames, resolve name = none) :
    (t.matchedSize? (t.format resolve) = some (Text.size (t.format resolve)) ↔
        ∀ name ∈ t.variableNames, t.KeepsDefault name) ∧
      (t.verdict (t.format resolve) = .missed ↔
        ∃ name ∈ t.variableNames, ¬ t.KeepsDefault name) ∧
      ∀ name ∈ t.variableNames,
        ((t.describe name).language.Admits (t.writeValue resolve name) ↔ t.KeepsDefault name) := by
  have settled := verdict_ne_gaveUp whole fixed (t.format resolve)
  have split : Nonempty (t.Split (t.format resolve)) ↔
      ∀ name ∈ t.variableNames, t.KeepsDefault name := by
    rw [nonempty_split_iff whole fixed, t.format_eq_fill]
    constructor
    · intro same name member
      by_contra lost
      have longer := @Token.length_fill_lt _ _ t.tokens name
        (fun other named => length_le_writeValue (t := t) (silent other named)) member
        (length_lt_writeValue (silent name member) lost)
      rw [same] at longer
      exact absurd longer (Nat.lt_irrefl _)
    · intro kept
      apply Token.flatMap_fill_congr
      intro name member
      exact writeValue_of_keepsDefault (silent name member) (kept name member)
  refine ⟨(matchedSize?_equals whole settled).trans split, ?_, ?_⟩
  · rw [verdict_eq_missed_iff settled, split]
    simp only [not_forall, exists_prop]
  · intro name member
    exact admits_writeValue_iff (fixed name member) (silent name member)

namespace Example

/-- A version that comes back, and a file name that a path keeps the slash of. -/
def release : Template where
  pattern := "/\x7bversion\x7d/\x7bfile\x7d?v=\x7bversion\x7d".toList
  descriptors := .ofList [("version".toList, .ofFixed "v1.0~b".toList),
    ("file".toList, { kind := .uriPath, default := "docs/a_b".toList, fixed := true })]
  encoding := true

/-- A default with a space, in a template that encodes. -/
def spaced : Template where
  pattern := "/\x7bname\x7d".toList
  descriptors := .ofList [("name".toList, .ofFixed "a b".toList)]
  encoding := true

end Example

theorem matchedSize?_fixed_release :
    Example.release.matchedSize? "/v1.0~b/docs/a_b?v=v1.0~b".toList = some 25 := by
  have written : Example.release.format (fun _ => none) = "/v1.0~b/docs/a_b?v=v1.0~b".toList := by
    decide +kernel
  have h := @matchedSize?_fixed Example.release (fun _ => none) rfl (by decide +kernel)
    fun _ _ => rfl
  rw [written] at h
  exact h.1.2 (by decide +kernel)

/-- **What is written for a fixed variable need not be what it matches.**  The space of the
default is written as an octet, and the variable matches a space. -/
theorem format_of_fixed_missed :
    Example.spaced.mode = .equals ∧
      (∀ name ∈ Example.spaced.variableNames, (Example.spaced.describe name).fixed = true) ∧
      Example.spaced.format (fun _ => none) = "/a%20b".toList ∧
      Example.spaced.verdict "/a%20b".toList = .missed ∧
      ¬ Example.spaced.matchedSize? (Example.spaced.format fun _ => none) =
        some (Text.size (Example.spaced.format fun _ => none)) := by
  refine ⟨rfl, ?_, ?_, ?_, ?_⟩ <;> decide +kernel

end Template
end UriRouting
