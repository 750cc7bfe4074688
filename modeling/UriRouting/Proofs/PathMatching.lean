/-
# UriRouting.Proofs.PathMatching — path patterns answer with the split that wins

What a path pattern answers for a path is the split that wins, along the pattern in its normal
form and into segments: its front, its bindings and what is left
(`PathPattern.matchingOf?_eq_some_iff`).  Two splits that win are one
(`Template.Split.Wins.shares_eq`), so any split that is shown to win is the answer, wherever
it comes from.
-/
import UriRouting.Proofs.Matching
import UriRouting.Proofs.Upkeep

namespace UriRouting

set_option autoImplicit false

namespace Template.Split

variable {t : Template} {text : Text}

theorem value_of_shares_eq {s s' : t.Split text} (same : s.shares = s'.shares) (name : Text) :
    s.value name = s'.value name := by
  rw [value, value, same]

/-- Two splits that win are one. -/
theorem Wins.shares_eq {s s' : t.Split text} (wins : s.Wins) (wins' : s'.Wins) :
    s.shares = s'.shares := by
  rcases wins s' with same | below
  · exact same.symm
  · rcases wins' s with same | above
    · exact same
    · exact absurd (List.lt_trans below above) (List.lt_irrefl _)

/-- What a path pattern answers for the split. -/
def matching (s : t.Split text) : Matching := ⟨s.front, s.bindings, s.rest⟩

theorem rest_eq_of_front_eq {s s' : t.Split text} (same : s.front = s'.front) :
    s.rest = s'.rest := by
  have whole : s.front ++ s.rest = s'.front ++ s'.rest := s.whole.symm.trans s'.whole
  rw [same] at whole
  exact List.append_cancel_left whole

theorem matching_congr {s s' : t.Split text} (same : s.shares = s'.shares) :
    s.matching = s'.matching := by
  have fronts : s.front = s'.front := by rw [front, front, same]
  have rests : s.rest = s'.rest := rest_eq_of_front_eq fronts
  have values : s.captures = s'.captures :=
    captures_congr fun name _ => value_of_shares_eq same name
  rw [matching, matching, fronts, rests, bindings, bindings, values]

end Template.Split

namespace PathPattern

/-- The skeleton is what the tokens make where all variables are empty. -/
theorem skeleton_ofPattern (pattern : Text) (descriptors : Dictionary Variable) :
    let p := (ofPattern pattern descriptors).answer
    p.skeleton = p.template.template.tokens.flatMap (Token.fill fun _ => []) := by
  apply List.flatMap_congr
  intro token _
  rcases token with text | name
  · rfl
  · simp [Template.writeToken, Template.writeValue, Token.fill, Percent.encode]

/-- The template of the path pattern that a text in normal form makes. -/
def segments (descriptors : Dictionary Variable) (pattern : Text) : Template :=
  { pattern, mode := .startsWithSegment, descriptors }

/-- What the pattern of a text matches of a path. -/
def matchingOf? (descriptors : Dictionary Variable) (pattern path : Text) : Option Matching :=
  ((ofPattern pattern descriptors).answer.matching? path).answer.1

variable {descriptors : Dictionary Variable} {pattern path : Text}

theorem matchingOf?_eq (normal : normalize pattern = pattern) :
    matchingOf? descriptors pattern path =
      ((segments descriptors pattern).parse? path).map fun parsed =>
        ⟨(Text.splitAt parsed.size path).1, parsed.bindings,
          (Text.splitAt parsed.size path).2⟩ := by
  have template : (ofPattern pattern descriptors).answer.template.template =
      segments descriptors (normalize pattern) := rfl
  rw [matchingOf?, matching?, Logged.answer_bind,
    CachedTemplate.parse?_answer (good_ofPattern pattern descriptors), template, normal]
  rfl

/-- A path pattern answers with the split that wins. -/
theorem matchingOf?_eq_some_iff (normal : normalize pattern = pattern)
    (distinct : (Pattern.variableNames pattern).Nodup) {m : Matching} :
    matchingOf? descriptors pattern path = some m ↔
      ∃ s : (segments descriptors pattern).Split path, s.Wins ∧ m = s.matching := by
  have answer (s : (segments descriptors pattern).Split path)
      (matched : (segments descriptors pattern).verdict path = .matched s.captures s.rest) :
      matchingOf? descriptors pattern path = some s.matching := by
    rw [matchingOf?_eq normal, Template.parse?_of_matched matched, Option.map_some, s.splitAt_size]
    rfl
  constructor
  · intro h
    rw [matchingOf?_eq normal] at h
    obtain ⟨parsed, read, -⟩ := Option.map_eq_some_iff.1 h
    obtain ⟨s, wins, matched, -⟩ := Template.exists_matched_of_parse? read
    rw [← matchingOf?_eq normal, answer s matched] at h
    exact ⟨s, wins, (Option.some.inj h).symm⟩
  · rintro ⟨s, wins, rfl⟩
    have settled : (segments descriptors pattern).variableNames.Nodup := distinct
    obtain ⟨s', wins', matched⟩ := Template.exists_matched (Or.inl settled) ⟨s⟩
    rw [answer s' matched, Template.Split.matching_congr (wins'.shares_eq wins)]

/-- Where there is a split, one wins. -/
theorem exists_wins (distinct : (Pattern.variableNames pattern).Nodup)
    (s : (segments descriptors pattern).Split path) :
    ∃ s : (segments descriptors pattern).Split path, s.Wins := by
  have settled : (segments descriptors pattern).variableNames.Nodup := distinct
  obtain ⟨s', wins, -⟩ := Template.exists_matched (Or.inl settled) ⟨s⟩
  exact ⟨s', wins⟩

theorem find?_bindings (s : (segments descriptors pattern).Split path) (name : Text) :
    s.bindings.find? name =
      if name ∈ Pattern.variableNames pattern then
        some ((segments descriptors pattern).readValue name (s.value name))
      else none := by
  rw [s.find?_bindings, s.lookup_shares, apply_ite (Option.map _)]
  rfl

end PathPattern
end UriRouting
