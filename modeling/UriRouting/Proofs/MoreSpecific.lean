/-
# UriRouting.Proofs.MoreSpecific — the more specific pattern wins

A text for one of its variables makes a path pattern more specific: `Specialization` is such a
text with the pattern and the name, and with what it takes to be one.

Each split of a path along the special pattern is one along the general pattern, the text being
the value of the variable (`Specialization.generalize`), so what the one matches the other does
(`Specialization.general_matches`).  The special pattern has the text among its literals, and
all of the literals that the general one has (`Specialization.literalChars_lt`).  That is what
ranks are compared by first, so wherever both are registered the general pattern is not of the
highest rank, no matter what else is.  Whatever is selected has at least as many literals as the
special pattern.
-/
import UriRouting.Proofs.FirstMaximum
import UriRouting.Proofs.Substitution
import UriRouting.Proofs.Upkeep
import UriRouting.Proofs.WholePath

namespace UriRouting

set_option autoImplicit false

namespace PathPattern

/-- The same pattern, with nothing kept. -/
def fresh (p : PathPattern) : PathPattern := { p with template := p.template.fresh }

/-- The literal characters are what is left where all variables are empty. -/
theorem literalChars_ofPattern (pattern : Text) (descriptors : Dictionary Variable) :
    let p := (ofPattern pattern descriptors).answer
    p.literalChars = (p.template.template.tokens.flatMap (Token.fill fun _ => [])).length :=
  congrArg List.length (skeleton_ofPattern pattern descriptors)

end PathPattern

/-- A path pattern, and a text for one of its variables. -/
structure Specialization where
  pattern : Text
  descriptors : Dictionary Variable
  name : Text
  value : Text
  named : name ∈ Pattern.variableNames (PathPattern.normalize pattern)
  nonempty : value ≠ []
  plain : ∀ c ∈ value, c ≠ '{' ∧ c ≠ '}' ∧ c ≠ '/'
  admits : ((descriptors.find? name).getD {}).language.Admits value

namespace Specialization

variable (s : Specialization) {path : Text}

def general : PathPattern := (PathPattern.ofPattern s.pattern s.descriptors).answer

/-- The pattern with the text for all tokens of the variable. -/
def special : PathPattern :=
  (PathPattern.ofPattern (Pattern.substitute s.name s.value s.pattern) s.descriptors).answer

theorem no_brace : '{' ∉ s.value := fun member => (s.plain '{' member).1 rfl

theorem no_slash : '/' ∉ s.value := fun member => (s.plain '/' member).2.2 rfl

/-- It is the same to substitute in a text or in the pattern that is made of it. -/
theorem text_special : s.special.text = Pattern.substitute s.name s.value s.general.text :=
  PathPattern.normalize_substitute s.nonempty s.no_slash s.pattern

theorem tokens_special :
    s.special.template.template.tokens =
      Pattern.tokens (Pattern.substitute s.name s.value s.general.text) :=
  congrArg Pattern.tokens s.text_special

theorem fill_special (given : Text → Text) :
    s.special.template.template.tokens.flatMap (Token.fill given) =
      s.general.template.template.tokens.flatMap
        (Token.fill (Function.update given s.name s.value)) := by
  rw [tokens_special, Pattern.fill_substitute s.nonempty s.no_brace]
  rfl

theorem variableNames_special :
    s.special.template.template.variableNames =
      s.general.template.template.variableNames.filter (· ≠ s.name) := by
  rw [Template.variableNames, show s.special.template.template.pattern = _ from s.text_special]
  exact Pattern.variableNames_substitute s.nonempty s.no_brace s.general.text

theorem literalChars_lt : s.general.literalChars < s.special.literalChars := by
  have ofGeneral := PathPattern.literalChars_ofPattern s.pattern s.descriptors
  have ofSpecial : s.special.literalChars = (s.special.template.template.tokens.flatMap _).length :=
    PathPattern.literalChars_ofPattern _ s.descriptors
  rw [ofSpecial, s.fill_special]
  refine ofGeneral.trans_lt (Token.length_fill_lt (fun _ _ => Nat.zero_le _) s.named ?_)
  rw [Function.update_self]
  exact List.length_pos_iff.2 s.nonempty

theorem good_general : s.general.template.Good := PathPattern.good_ofPattern _ _

theorem good_special : s.special.template.Good := PathPattern.good_ofPattern _ _

/-- A split along the special pattern, seen as one along the general pattern. -/
def generalize (split : s.special.template.template.Split path) :
    s.general.template.template.Split path :=
  .ofValue (Function.update split.value s.name s.value) split.rest
    (by
      have whole := split.whole_eq
      rwa [s.fill_special] at whole)
    (by
      intro name member
      by_cases same : name = s.name
      · rw [same, Function.update_self]
        exact s.admits
      · rw [Function.update_of_ne same]
        apply split.admits
        rw [s.variableNames_special, List.mem_filter]
        exact ⟨member, by simpa using same⟩)
    split.ends

/-- What the special pattern matches the general pattern matches. -/
theorem general_matches (settled : s.general.template.template.Settled path)
    (fits : (s.special.matching? path).answer.1.isSome = true) :
    (s.general.matching? path).answer.1.isSome = true := by
  obtain ⟨split⟩ := PathPattern.exists_split_of_isSome s.good_special fits
  exact PathPattern.isSome_of_split s.good_general settled ⟨s.generalize split⟩

end Specialization

/-! ## In a ranking -/

variable {δ : Type}

namespace Candidate

/-- The candidate was registered with the pattern, whatever is kept in it by now. -/
def IsOf (c : Candidate δ) (p : PathPattern) : Prop := c.pattern.fresh = p

theorem isOf_asked {c : Candidate δ} {p : PathPattern} : c.asked.IsOf p ↔ c.IsOf p := by
  rw [IsOf, IsOf, asked, PathPattern.fresh, CachedTemplate.fresh_prepare]
  rfl

variable {c : Candidate δ} {p : PathPattern}

theorem IsOf.literals_eq (h : c.IsOf p) : c.rank.literals = p.literalChars := by
  obtain rfl : c.pattern.fresh = p := h
  rfl

/-- A candidate matches what the pattern does that it was registered with. -/
theorem IsOf.isMatch_eq (h : c.IsOf p) (good : c.pattern.template.Good) (path : Text) :
    c.isMatch path = (p.matching? path).answer.1.isSome := by
  obtain rfl : c.pattern.fresh = p := h
  rw [isMatch, matching?, PathPattern.matching?_answer good,
    PathPattern.matching?_answer (CachedTemplate.good_fresh _)]
  rfl

end Candidate

/-- **The more specific pattern wins.**  With a text for one of its variables a pattern has more
literal characters, and each path that it matches then is one that it matched before, if the
search along the general pattern comes to an end.  For such a path a ranking that holds the
special pattern, anywhere and among any others, selects a candidate, and never one of the
general pattern. -/
theorem Specialization.more_specific_wins (s : Specialization) :
    s.general.literalChars < s.special.literalChars ∧
      ∀ path, (s.special.matching? path).answer.1.isSome = true →
        (s.general.template.template.Settled path →
          (s.general.matching? path).answer.1.isSome = true) ∧
        ∀ r : Ranking δ, r.Good → (∃ c ∈ r.candidates, c.IsOf s.special) →
          ∃ selected index c, (r.best path).answer.1 = some selected ∧ r.Leads path index c ∧
            selected.candidate = c.asked ∧ ¬ c.IsOf s.general ∧
              ¬ selected.candidate.IsOf s.general := by
  refine ⟨s.literalChars_lt, ?_⟩
  intro path fits
  refine ⟨fun settled => s.general_matches settled fits, ?_⟩
  rintro r good ⟨own, member, isSpecial⟩
  have ownFits : own.isMatch path = true := by
    rw [isSpecial.isMatch_eq (good own member)]
    exact fits
  cases found : (r.best path).answer.1 with
  | none =>
      have nothing := (Ranking.best_eq_none_iff good).1 found own member
      rw [Candidate.isMatch, nothing] at ownFits
      cases ownFits
  | some selected =>
      obtain ⟨index, c, leads, asked, -⟩ := Ranking.leads_of_best good found
      -- the general pattern has fewer literals than the special one, and so than the leader
      have other : ¬ c.IsOf s.general := by
        intro isGeneral
        have above := Rank.literals_le (leads.highest own member ownFits)
        rw [isSpecial.literals_eq, isGeneral.literals_eq] at above
        exact absurd s.literalChars_lt (not_lt.2 above)
      refine ⟨selected, index, c, rfl, leads, asked, other, ?_⟩
      rw [asked, Candidate.isOf_asked]
      exact other

namespace Specialization

namespace Example

/-- A variable that stands twice, once in front of a brace that closes nothing, in a pattern that
is not in normal form. -/
def doubled : Specialization where
  pattern := "\x7bx\x7d\x7d/\x7by\x7d-\x7bx\x7d//".toList
  descriptors := .empty
  name := "x".toList
  value := "v1".toList
  named := by decide
  nonempty := by decide
  plain := by simp
  admits := by decide +kernel

/-- The general pattern first, and of the better target. -/
def both : Ranking Nat :=
  ((⟨[]⟩ : Ranking Nat).add doubled.general .method 0).add doubled.special .locator 1

def path : Text := "/v1\x7d/b-v1/c".toList

theorem good_both : both.Good :=
  Ranking.good_add (Ranking.good_add Ranking.good_empty doubled.good_general _ _)
    doubled.good_special _ _

end Example

theorem more_specific_wins_doubled :
    (Example.doubled.general.matching? Example.path).answer.1.isSome = true ∧
      ∃ selected, (Example.both.best Example.path).answer.1 = some selected ∧
        ¬ selected.candidate.IsOf Example.doubled.general := by
  obtain ⟨-, wins⟩ := @more_specific_wins Nat Example.doubled
  obtain ⟨general, best⟩ := wins Example.path (by decide +kernel)
  have registered : ⟨Example.doubled.special, .locator, 1⟩ ∈ Example.both.candidates :=
    List.mem_append_right _ List.mem_cons_self
  obtain ⟨selected, -, -, found, -, -, -, other⟩ :=
    best Example.both Example.good_both ⟨_, registered, rfl⟩
  exact ⟨general (by decide +kernel), selected, found, other⟩

end Specialization
end UriRouting
