/-
# UriRouting.Proofs.WholePath — when a pattern matches all of a path

A path pattern is said to match all of a path if what its match leaves is nothing, or a slash.
That looks at one match only, the one that wins.  `PathPattern.Covers` speaks of all of them:
the same pattern, asked for whole texts, matches the path, or the path without one slash at its
end.

Where the winning match leaves no more than a slash, its front is a whole text that the pattern
splits, so the path is covered.  The other way round a split of the whole path has to be found
by a search that gives as much as it can to the first variable.  Where no name is repeated it
is, as what wins ends as far on as any split does (`Template.longestFront_of_matched`), and the
two say the same (`PathPattern.matchesAll_iff`).  A variable that comes back may stand in the
way: the more it takes, the more has to stand behind it a second time, and the split that wins
may end before the path does (`PathPattern.matchesAll_passes_over`).
-/
import UriRouting.Proofs.Longest
import UriRouting.Proofs.MatchedFront

namespace UriRouting

set_option autoImplicit false

theorem Matching.isComplete_iff {m : Matching} :
    m.isComplete = true ↔ m.remainder = [] ∨ m.remainder = ['/'] := by
  rw [isComplete, Bool.or_eq_true, beq_iff_eq, beq_iff_eq]

namespace Template

variable {t : Template} {text front left : Text}

/-- A text is matched exactly if it can be split. -/
theorem isSome_matchedSize?_iff (settled : t.Settled text) :
    (t.matchedSize? text).isSome = true ↔ Nonempty (t.Split text) := by
  constructor
  · intro some
    obtain ⟨n, found⟩ := Option.isSome_iff_exists.1 some
    obtain ⟨s, -⟩ := exists_matched_of_matchedSize? found
    exact ⟨s⟩
  · intro some
    obtain ⟨s, -, matched⟩ := exists_matched settled some
    rw [matchedSize?_of_matched matched]
    rfl

/-- The split of a whole text, as one of a longer text. -/
def Split.followed (s : (t.inMode .equals).Split front) (ends : t.mode.Ends left) :
    t.Split (front ++ left) :=
  .ofValue s.value left
    (by
      have whole := s.front_of_equals rfl
      rw [s.front_eq] at whole
      exact congrArg (· ++ left) whole.symm)
    (fun _ => s.admits) ends

end Template

namespace PathPattern

variable {p : PathPattern} {path : Text}

/-- The pattern, asked for whole texts. -/
def whole (p : PathPattern) : Template := p.template.template.inMode .equals

/-- The pattern matches the path as a whole, or all of it but a slash at its end. -/
def Covers (p : PathPattern) (path : Text) : Prop :=
  (p.whole.matchedSize? path).isSome = true ∨
    ∃ front, path = front ++ ['/'] ∧ (p.whole.matchedSize? front).isSome = true

theorem exists_matched_of_matching? (good : p.template.Good) {m : Matching}
    (h : (p.matching? path).answer.1 = some m) :
    ∃ s : p.template.template.Split path,
      p.template.template.verdict path = .matched s.captures s.rest ∧ m = s.matching := by
  rw [matching?_answer good] at h
  obtain ⟨parsed, read, rfl⟩ := Option.map_eq_some_iff.1 h
  obtain ⟨s, -, matched, rfl⟩ := Template.exists_matched_of_parse? read
  refine ⟨s, matched, ?_⟩
  rw [s.splitAt_size]
  rfl

theorem matching?_of_matched (good : p.template.Good) {s : p.template.template.Split path}
    (matched : p.template.template.verdict path = .matched s.captures s.rest) :
    (p.matching? path).answer.1 = some s.matching := by
  rw [matching?_answer good, Template.parse?_of_matched matched, Option.map_some, s.splitAt_size]
  rfl

/-- What is matched has a split, under every limit. -/
theorem exists_split_of_isSome (good : p.template.Good)
    (fits : (p.matching? path).answer.1.isSome = true) :
    Nonempty (p.template.template.Split path) := by
  obtain ⟨m, found⟩ := Option.isSome_iff_exists.1 fits
  obtain ⟨s, -⟩ := exists_matched_of_matching? good found
  exact ⟨s⟩

theorem isSome_of_split (good : p.template.Good) (settled : p.template.template.Settled path)
    (some : Nonempty (p.template.template.Split path)) :
    (p.matching? path).answer.1.isSome = true := by
  obtain ⟨winner, -, matched⟩ := Template.exists_matched settled some
  rw [matching?_of_matched good matched]
  rfl

theorem matchesAll_eq_true_iff :
    (p.matchesAll path).answer.1 = true ↔
      ∃ m, (p.matching? path).answer.1 = some m ∧ (m.remainder = [] ∨ m.remainder = ['/']) := by
  show (p.matching? path).answer.1.any Matching.isComplete = true ↔ _
  cases (p.matching? path).answer.1 with
  | none => simp
  | some m => simp [Matching.isComplete_iff]

/-- A match that leaves no more than a slash is one of the whole path, but for that slash. -/
theorem covers_of_matchesAll (good : p.template.Good) (settled : p.whole.Settled path)
    (settledBefore : ∀ front, path = front ++ ['/'] → p.whole.Settled front)
    (all : (p.matchesAll path).answer.1 = true) : p.Covers path := by
  obtain ⟨m, found, complete⟩ := matchesAll_eq_true_iff.1 all
  obtain ⟨s, -, rfl⟩ := exists_matched_of_matching? good found
  have matched (settled : p.whole.Settled s.front) :
      (p.whole.matchedSize? s.front).isSome = true :=
    (Template.isSome_matchedSize?_iff settled).2 ⟨s.alone .equals⟩
  have path_eq := s.whole
  rcases complete with nothing | slash
  · left
    rw [show s.rest = [] from nothing, List.append_nil] at path_eq
    rw [path_eq] at settled ⊢
    exact matched settled
  · right
    rw [show s.rest = ['/'] from slash] at path_eq
    exact ⟨s.front, path_eq, matched (settledBefore s.front path_eq)⟩

/-- Where no name is repeated, a match leaves no more than any split of the path does. -/
theorem exists_matching_of_split (good : p.template.Good)
    (distinct : p.template.template.variableNames.Nodup)
    (other : p.template.template.Split path) :
    ∃ m more, (p.matching? path).answer.1 = some m ∧ other.rest = more ++ m.remainder := by
  obtain ⟨s, -, matched⟩ := Template.exists_matched (Or.inl distinct) ⟨other⟩
  obtain ⟨more, longer⟩ := (Template.longestFront_of_matched distinct matched).2 other
  refine ⟨s.matching, more, matching?_of_matched good matched, ?_⟩
  have same : other.front ++ other.rest = s.front ++ s.rest := other.whole.symm.trans s.whole
  rw [← longer, List.append_assoc] at same
  exact List.append_cancel_left same

theorem matchesAll_of_covers (good : p.template.Good) (segments : p.mode = .startsWithSegment)
    (distinct : p.template.template.variableNames.Nodup) (covers : p.Covers path) :
    (p.matchesAll path).answer.1 = true := by
  obtain ⟨front, left, rfl, little, all⟩ : ∃ front left, path = front ++ left ∧
      (left = [] ∨ left = ['/']) ∧ (p.whole.matchedSize? front).isSome = true := by
    rcases covers with all | ⟨front, rfl, all⟩
    · exact ⟨path, [], (List.append_nil path).symm, Or.inl rfl, all⟩
    · exact ⟨front, ['/'], rfl, Or.inr rfl, all⟩
  have ends : p.template.template.mode.Ends left := by
    rw [show p.template.template.mode = .startsWithSegment from segments]
    rcases little with rfl | rfl
    · exact Or.inl rfl
    · exact Or.inr ⟨[], rfl⟩
  have settled : p.whole.Settled front := Or.inl distinct
  obtain ⟨s⟩ := (Template.isSome_matchedSize?_iff settled).1 all
  obtain ⟨m, more, found, rest⟩ := exists_matching_of_split good distinct (s.followed ends)
  have rest : left = more ++ m.remainder := rest
  refine matchesAll_eq_true_iff.2 ⟨m, found, ?_⟩
  rcases little with rfl | rfl
  · exact Or.inl (List.append_eq_nil_iff.1 rest.symm).2
  · rcases List.singleton_eq_append_iff.1 rest with ⟨-, slash⟩ | ⟨-, nothing⟩
    · exact Or.inr slash
    · exact Or.inl nothing

/-- **What a pattern matches completely.**  A pattern that leaves no more than a slash of a path
covers the path, as far as the search for the whole path comes to an end, and the one for the
path without a slash at its end; and if no name is repeated in the pattern it leaves no more
than a slash of every path that it covers. -/
theorem matchesAll_iff (good : p.template.Good) (segments : p.mode = .startsWithSegment)
    (path : Text) :
    (p.whole.Settled path → (∀ front, path = front ++ ['/'] → p.whole.Settled front) →
        (p.matchesAll path).answer.1 = true → p.Covers path) ∧
      (p.template.template.variableNames.Nodup →
        ((p.matchesAll path).answer.1 = true ↔ p.Covers path)) := by
  refine ⟨covers_of_matchesAll good, ?_⟩
  intro distinct
  constructor
  · exact covers_of_matchesAll good (Or.inl distinct) fun _ _ => Or.inl distinct
  · exact matchesAll_of_covers good segments distinct

namespace Example

/-- A path up to a segment, where the path may hold that segment too. -/
def upToEdit : PathPattern :=
  (PathPattern.ofPattern "/\x7bpath\x7d/edit".toList
    (.ofList [("path".toList, .ofKind .uriPath)])).answer

/-- What stands in front of a path in the middle comes back behind it. -/
def echo : PathPattern :=
  (PathPattern.ofPattern "/\x7bx\x7d\x7bpath\x7d\x7bx\x7d".toList
    (.ofList [("path".toList, .ofKind .uriPath)])).answer

end Example

theorem matchesAll_iff_upToEdit :
    Example.upToEdit.Covers "/a/edit/b/edit/".toList ∧
      ¬ Example.upToEdit.Covers "/a/edit/b".toList ∧ Example.echo.Covers "/aba".toList ∧
      Example.echo.Covers "/aba/".toList := by
  have good : Example.upToEdit.template.Good := good_ofPattern _ _
  have distinct : Example.upToEdit.template.template.variableNames.Nodup := by decide +kernel
  -- in the other a name is repeated, so it takes that each search ends
  have good' : Example.echo.template.Good := good_ofPattern _ _
  have settled : Example.echo.whole.Settled "/aba".toList := by decide +kernel
  refine ⟨?_, ?_, ?_, ?_⟩
  · exact ((matchesAll_iff good rfl "/a/edit/b/edit/".toList).2 distinct).1 (by decide +kernel)
  · intro covers
    have all := ((matchesAll_iff good rfl "/a/edit/b".toList).2 distinct).2 covers
    exact absurd all (by decide +kernel)
  · apply (matchesAll_iff good' rfl "/aba".toList).1 settled
    · intro front same
      have last := congrArg List.getLast? same
      rw [List.getLast?_concat] at last
      cases last
    · decide +kernel
  · apply (matchesAll_iff good' rfl "/aba/".toList).1 (by decide +kernel)
    · intro front same
      have cut : "/aba".toList ++ ['/'] = front ++ ['/'] := same
      rw [← List.append_cancel_right cut]
      exact settled
    · decide +kernel

/-- **A name that comes back may hide the match of the whole path.**  In `/abcab/a` the first
`x` takes `ab` rather than `a`, and then the match ends at the second `ab`, though the path is
`a`, `bcab/` and `a` again.  No search is given up for it. -/
theorem matchesAll_passes_over :
    (Example.echo.matchesAll "/abcab/a".toList).answer.1 = false ∧
      Example.echo.whole.matchedSize? "/abcab/a".toList = some 8 ∧
      Example.echo.template.template.Settled "/abcab/a".toList ∧
      ¬ ((Example.echo.matchesAll "/abcab/a".toList).answer.1 = true ↔
        Example.echo.Covers "/abcab/a".toList) := by
  have passed : (Example.echo.matchesAll "/abcab/a".toList).answer.1 = false := by decide +kernel
  have whole : Example.echo.whole.matchedSize? "/abcab/a".toList = some 8 := by decide +kernel
  refine ⟨passed, whole, by decide +kernel, ?_⟩
  rw [passed]
  intro same
  exact nomatch same.2 (Or.inl (by rw [whole]; rfl))

end PathPattern
end UriRouting
