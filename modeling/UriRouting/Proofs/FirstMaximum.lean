/-
# UriRouting.Proofs.FirstMaximum — the first of the highest is selected

A ranking asks its candidates one by one and keeps the best so far, which only a candidate
strictly above it replaces.  So what is kept in the end is the first of those that no other is
above: the loop is the `List.argmax` of the ranks (`Candidate.Selected.foldl_better`), and that
is the first element which is as great as all others (`argmax_eq_find?`).

Ranks are compared from the first of their three parts on, which makes `Rank.above` the order
of `Rank.scores`, a linear one.  `Candidate.selection?` says what a candidate has to offer for
a path, without what asking it leaves in its cache; `Ranking.best_answer` that the best of a
ranking is what the first of its leading candidates offers.  The rest is read off that:
`Ranking.Leads` describes the leading candidate by its position, and nothing that keeps the
candidates of the highest rank in their order changes which one it is.  Positions are those of
registration, as each candidate that is added comes behind all others (`Ranking.addAll_eq`);
adding and asking keep a ranking good (`Ranking.good_addAll`, `Ranking.good_best`), so it may
have been asked before.
-/
import Mathlib.Data.List.Lex
import Mathlib.Data.List.MinMax
import UriRouting.Path.Ranking
import UriRouting.Proofs.MatchedFront

namespace UriRouting

set_option autoImplicit false

/-- Of the greatest elements of a list `argmax` keeps the first. -/
theorem argmax_eq_find? {α β : Type} [LinearOrder β] [less : DecidableLT β] (key : α → β)
    (l : List α) : l.argmax key = l.find? fun a => decide (∀ b ∈ l, key b ≤ key a) := by
  obtain rfl : less = LinearOrder.toDecidableLT := Subsingleton.elim _ _
  induction l using List.reverseRecOn with
  | nil => rfl
  | append_singleton l last ih =>
      rw [List.argmax_concat, List.find?_append]
      simp only [List.mem_append, List.mem_singleton, or_imp, forall_and, forall_eq]
      cases kept : l.argmax key with
      | none =>
          rw [List.argmax_eq_none] at kept
          simp [kept]
      | some best =>
          have greatest : ∀ b ∈ l, key b ≤ key best := fun b member =>
            List.le_of_mem_argmax member kept
          by_cases above : key best < key last
          · -- the last is above all others, and the only one to be
            have refused : l.find? (fun a =>
                decide ((∀ b ∈ l, key b ≤ key a) ∧ key last ≤ key a)) = none := by
              rw [List.find?_eq_none]
              intro a member
              have below := lt_of_le_of_lt (greatest a member) above
              simp [not_le.2 below]
            have accepted : ∀ b ∈ l, key b ≤ key last := fun b member =>
              (greatest b member).trans above.le
            rw [refused, Option.none_or]
            simpa [above] using accepted
          · -- whoever was greatest among the others still is
            have same : l.find? (fun a =>
                decide ((∀ b ∈ l, key b ≤ key a) ∧ key last ≤ key a)) = some best := by
              rw [← kept, ih]
              congr 1
              funext a
              rw [decide_eq_decide, and_iff_left_iff_imp]
              intro top
              exact (not_lt.1 above).trans (top best (List.argmax_mem kept))
            rw [same, Option.some_or]
            simp [above]

/-- What `argmax` keeps is as great as all others, and greater than those in front of it. -/
theorem exists_append_of_argmax {α β : Type} [LinearOrder β] {key : α → β} {l : List α} {best : α}
    (kept : l.argmax key = some best) :
    ∃ front back, l = front ++ best :: back ∧ ∀ a ∈ front, key a < key best := by
  have greatest : ∀ b ∈ l, key b ≤ key best := fun b member => List.le_of_mem_argmax member kept
  rw [argmax_eq_find?] at kept
  obtain ⟨-, front, back, split, refused⟩ := List.find?_eq_some_iff_append.1 kept
  refine ⟨front, back, split, ?_⟩
  intro a member
  -- if it were as great it would have been kept
  by_contra reached
  have alike : ∀ b ∈ l, key b ≤ key a := fun b member =>
    (greatest b member).trans (not_lt.1 reached)
  have refused := refused a member
  simp only [Bool.not_eq_true', decide_eq_false_iff_not] at refused
  exact refused alike

namespace Rank

/-- The parts of a rank, the one that is looked at first in front. -/
def scores (r : Rank) : List Nat :=
  [r.literals, r.groups, match r.target with | .method => 1 | .locator => 0]

theorem above_iff {a b : Rank} : a.above b = true ↔ b.scores < a.scores := by
  obtain ⟨literals, groups, target⟩ := a
  obtain ⟨literals', groups', target'⟩ := b
  cases target <;> cases target' <;>
    simp [above, scores, List.cons_lt_cons_iff] <;> omega

/-- Literals are the first that ranks are compared by. -/
theorem literals_le {a b : Rank} (h : a.scores ≤ b.scores) : a.literals ≤ b.literals := by
  by_contra less
  exact absurd (above_iff.1 (by simp [above, not_le.1 less])) (not_lt.2 h)

end Rank

variable {δ : Type}

namespace Candidate

/-- What the candidate's pattern matches of a path. -/
def matching? (c : Candidate δ) (path : Text) : Option Matching :=
  (c.pattern.matching? path).answer.1

def isMatch (c : Candidate δ) (path : Text) : Bool := (c.matching? path).isSome

/-- Literal characters, distinct variables, and the target. -/
def rank (c : Candidate δ) : Rank :=
  ⟨c.pattern.literalChars, c.pattern.template.template.variableNames.eraseDups.length, c.target⟩

/-- The candidate once it was asked. -/
def asked (c : Candidate δ) : Candidate δ :=
  { c with pattern := { c.pattern with template := c.pattern.template.prepare.answer.2 } }

/-- What a candidate has to offer for a path. -/
def selection? (c : Candidate δ) (path : Text) : Option (Selected δ) :=
  (c.matching? path).map fun matching => ⟨c.asked, c.rank, matching⟩

theorem select?_answer {c : Candidate δ} (good : c.pattern.template.Good) (path : Text) :
    (c.select? path).answer = (c.selection? path, c.asked) := by
  have asked := PathPattern.matching?_answer good path
  unfold select? selection? matching?
  simp only [Logged.answer_bind, asked]
  cases c.pattern.template.template.parse? path with
  | none => rfl
  | some parsed =>
      have groups := CachedTemplate.groups_answer (CachedTemplate.good_prepare good)
      simp only [Option.map_some, Logged.answer_bind, PathPattern.capturingGroups, groups,
        CachedTemplate.prepare_prepare, CachedTemplate.prepare_template, Template.groups_eq]
      rfl

theorem selection?_eq_some_iff {c : Candidate δ} {path : Text} {selected : Selected δ} :
    c.selection? path = some selected ↔
      ∃ matching, c.matching? path = some matching ∧ selected = ⟨c.asked, c.rank, matching⟩ := by
  rw [selection?, Option.map_eq_some_iff]
  simp only [eq_comm]

theorem isSome_selection? (c : Candidate δ) (path : Text) :
    (c.selection? path).isSome = c.isMatch path :=
  Option.isSome_map

/-- To keep the better of each two is to keep the first of the greatest. -/
theorem Selected.foldl_better (offers : List (Selected δ)) :
    offers.foldl better none = offers.argmax fun s => s.rank.scores := by
  unfold List.argmax
  congr 1
  funext best later
  cases best with
  | none => rfl
  | some best =>
      simp only [better, List.argAux, ← Rank.above_iff]
      split <;> rfl

end Candidate

namespace Ranking

/-- What is kept anywhere in the ranking is what its templates stand for. -/
def Good (r : Ranking δ) : Prop := ∀ c ∈ r.candidates, c.pattern.template.Good

theorem good_empty : (⟨[]⟩ : Ranking δ).Good := fun _ member => nomatch member

theorem good_add {r : Ranking δ} (good : r.Good) {pattern : PathPattern}
    (kept : pattern.template.Good) (target : Target) (data : δ) :
    (r.add pattern target data).Good := by
  intro c member
  rcases List.mem_append.1 member with member | member
  · exact good c member
  · cases List.mem_singleton.1 member
    exact kept

/-- The ranking to which candidates were added, one after the other. -/
def addAll (r : Ranking δ) (added : List (Candidate δ)) : Ranking δ :=
  added.foldl (fun r c => r.add c.pattern c.target c.data) r

theorem good_addAll {r : Ranking δ} (good : r.Good) {added : List (Candidate δ)}
    (kept : ∀ c ∈ added, c.pattern.template.Good) : (r.addAll added).Good := by
  induction added generalizing r with
  | nil => exact good
  | cons c added ih =>
      have first : (r.add c.pattern c.target c.data).Good :=
        good_add good (kept c List.mem_cons_self) c.target c.data
      exact ih first fun c member => kept c (List.mem_cons_of_mem _ member)

/-- Candidates come in the order in which they were added, behind those that were there. -/
theorem addAll_eq (r : Ranking δ) (added : List (Candidate δ)) :
    r.addAll added = ⟨r.candidates ++ added⟩ := by
  induction added generalizing r with
  | nil => rw [List.append_nil]; rfl
  | cons c added ih =>
      have first : r.addAll (c :: added) = (r.add c.pattern c.target c.data).addAll added := rfl
      rw [first, ih, add, List.append_assoc]
      rfl

theorem bestOf_answer (path : Text) {candidates : List (Candidate δ)}
    (good : ∀ c ∈ candidates, c.pattern.template.Good) (best : Option (Candidate.Selected δ)) :
    (bestOf path best candidates).answer =
      ((candidates.filterMap (·.selection? path)).foldl Candidate.Selected.better best,
        candidates.map Candidate.asked) := by
  induction candidates generalizing best with
  | nil => rfl
  | cons c candidates ih =>
      have here := Candidate.select?_answer (good c List.mem_cons_self) path
      have later := ih fun c member => good c (List.mem_cons_of_mem _ member)
      simp only [bestOf, Logged.answer_bind, here, later, List.filterMap_cons]
      cases c.selection? path <;> rfl

/-- The candidate matches, and none that matches is above it. -/
def isTop (r : Ranking δ) (path : Text) (c : Candidate δ) : Bool :=
  c.isMatch path &&
    decide (∀ other ∈ r.candidates, other.isMatch path = true →
      other.rank.scores ≤ c.rank.scores)

theorem isTop_iff {r : Ranking δ} {path : Text} {c : Candidate δ} :
    r.isTop path c = true ↔ c.isMatch path = true ∧
      ∀ other ∈ r.candidates, other.isMatch path = true → other.rank.scores ≤ c.rank.scores := by
  rw [isTop, Bool.and_eq_true, decide_eq_true_eq]

theorem best_answer {r : Ranking δ} (good : r.Good) (path : Text) :
    (r.best path).answer =
      ((r.candidates.filterMap (·.selection? path)).foldl Candidate.Selected.better none,
        ⟨r.candidates.map Candidate.asked⟩) := by
  simp only [best, Logged.answer_bind, bestOf_answer path good]
  rfl

/-- What a ranking keeps once it was asked is what its templates stand for. -/
theorem good_best {r : Ranking δ} (good : r.Good) (path : Text) :
    (r.best path).answer.2.Good := by
  rw [best_answer good]
  intro c member
  obtain ⟨before, here, rfl⟩ := List.mem_map.1 member
  have member : before ∈ r.candidates := here
  exact CachedTemplate.good_prepare (good before member)

theorem best_eq_none_iff {r : Ranking δ} (good : r.Good) {path : Text} :
    (r.best path).answer.1 = none ↔ ∀ c ∈ r.candidates, c.matching? path = none := by
  rw [best_answer good, Candidate.Selected.foldl_better, List.argmax_eq_none,
    List.filterMap_eq_nil_iff]
  simp only [Candidate.selection?, Option.map_eq_none_iff]

/-- The best of a ranking is the offer of the first candidate that none is above. -/
theorem best_eq_offer {r : Ranking δ} (good : r.Good) (path : Text) :
    (r.best path).answer.1 = (r.candidates.find? (r.isTop path)).bind (·.selection? path) := by
  rw [best_answer good, Candidate.Selected.foldl_better, argmax_eq_find?, List.find?_filterMap]
  show Option.bind (List.find? _ r.candidates) _ = _
  congr 2
  funext c
  rw [isTop, ← c.isSome_selection? path]
  cases offer : c.selection? path with
  | none => rfl
  | some selected =>
      obtain ⟨matching, -, rfl⟩ := Candidate.selection?_eq_some_iff.1 offer
      simp only [Option.any_some, Option.isSome_some, Bool.true_and, decide_eq_decide,
        List.mem_filterMap]
      -- to be above all offers is to be above all candidates that match
      constructor
      · intro above other member fits
        obtain ⟨found, here⟩ := Option.isSome_iff_exists.1 fits
        exact above _ ⟨other, member, Candidate.selection?_eq_some_iff.2 ⟨found, here, rfl⟩⟩
      · rintro above _ ⟨other, member, offer⟩
        obtain ⟨found, here, rfl⟩ := Candidate.selection?_eq_some_iff.1 offer
        exact above other member (Option.isSome_iff_exists.2 ⟨found, here⟩)

/-- The candidate at this position is the first of the highest rank among those that match. -/
structure Leads (r : Ranking δ) (path : Text) (index : Nat) (c : Candidate δ) : Prop where
  registered : r.candidates[index]? = some c
  fits : c.isMatch path = true
  highest : ∀ other ∈ r.candidates, other.isMatch path = true →
    other.rank.scores ≤ c.rank.scores
  first : ∀ earlier < index, ∀ other, r.candidates[earlier]? = some other →
    other.isMatch path = true → other.rank.scores < c.rank.scores

theorem exists_leads {r : Ranking δ} {path : Text} {c : Candidate δ}
    (found : r.candidates.find? (r.isTop path) = some c) : ∃ index, r.Leads path index c := by
  obtain ⟨top, index, bound, rfl, before⟩ := List.find?_eq_some_iff_getElem.1 found
  obtain ⟨fits, highest⟩ := isTop_iff.1 top
  refine ⟨index, List.getElem?_eq_getElem bound, fits, highest, ?_⟩
  intro earlier lt other here matched
  obtain ⟨within, rfl⟩ := List.getElem?_eq_some_iff.1 here
  -- if it were as high it would have been found before
  by_contra reached
  have refused := before earlier lt
  have alike : r.isTop path r.candidates[earlier] = true :=
    isTop_iff.2 ⟨matched, fun third member fits =>
      (highest third member fits).trans (not_lt.1 reached)⟩
  rw [alike] at refused
  cases refused

/-- What is selected is what the leading candidate offers. -/
theorem leads_of_best {r : Ranking δ} (good : r.Good) {path : Text}
    {selected : Candidate.Selected δ} (found : (r.best path).answer.1 = some selected) :
    ∃ index c, r.Leads path index c ∧ selected.candidate = c.asked ∧
      selected.rank = c.rank ∧ (c.pattern.matching? path).answer.1 = some selected.matching := by
  rw [best_eq_offer good, Option.bind_eq_some_iff] at found
  obtain ⟨c, top, offer⟩ := found
  obtain ⟨matching, here, rfl⟩ := Candidate.selection?_eq_some_iff.1 offer
  obtain ⟨index, leads⟩ := exists_leads top
  exact ⟨index, c, leads, rfl, rfl, here⟩

/-- Which candidates are top does not hang on the order of registration. -/
theorem isTop_of_perm {r r' : Ranking δ} (perm : r'.candidates.Perm r.candidates) (path : Text) :
    r'.isTop path = r.isTop path := by
  funext c
  rw [isTop, isTop]
  simp only [perm.mem_iff]

/-- **The best is the first maximum.**  A ranking to which candidates were added selects nothing
if none of its candidates matches the path, and otherwise the first of those that match with the
highest rank, in the order of their registration, with just what its pattern matches; and an
order in which the candidates of the highest rank come as they did selects the same. -/
theorem best_leads {r : Ranking δ} (good : r.Good) {added : List (Candidate δ)}
    (kept : ∀ c ∈ added, c.pattern.template.Good) (path : Text) :
    let all : Ranking δ := ⟨r.candidates ++ added⟩
    (((r.addAll added).best path).answer.1 = none ↔
        ∀ c ∈ all.candidates, c.matching? path = none) ∧
      (∀ selected, ((r.addAll added).best path).answer.1 = some selected →
        ∃ index c, all.Leads path index c ∧ selected.candidate = c.asked ∧
          selected.rank = c.rank ∧ (c.pattern.matching? path).answer.1 = some selected.matching) ∧
      ∀ r' : Ranking δ, r'.candidates.Perm all.candidates →
        r'.candidates.filter (all.isTop path) = all.candidates.filter (all.isTop path) →
          (r'.best path).answer.1 = ((r.addAll added).best path).answer.1 := by
  intro all
  have registered : r.addAll added = all := addAll_eq r added
  have good : all.Good := registered ▸ good_addAll good kept
  rw [registered]
  refine ⟨best_eq_none_iff good, fun _ => leads_of_best good, ?_⟩
  intro r' perm same
  have good' : r'.Good := fun c member => good c (perm.mem_iff.1 member)
  rw [best_eq_offer good, best_eq_offer good', isTop_of_perm perm, ← List.head?_filter, same,
    List.head?_filter]

namespace Example

def pathPattern (text : String) : PathPattern :=
  (PathPattern.ofPattern text.toList .empty).answer

def ahead : Candidate Nat := ⟨pathPattern "/\x7bx\x7d/b", .locator, 0⟩

def behind : List (Candidate Nat) :=
  [⟨pathPattern "/a/\x7bx\x7d", .method, 1⟩, ⟨pathPattern "/\x7bx\x7d/b", .method, 2⟩]

/-- Three candidates with as many literal characters and variables, the first of them not a
method. -/
def crossed : Ranking Nat := addAll ⟨[]⟩ (ahead :: behind)

/-- The same candidates, the first of them added last. -/
def crossedLate : Ranking Nat := addAll ⟨[]⟩ (behind ++ [ahead])

theorem good_crossed : ∀ c ∈ ahead :: behind, c.pattern.template.Good := by
  have kept (text : String) : (pathPattern text).template.Good :=
    PathPattern.good_ofPattern text.toList .empty
  intro c member
  simp only [behind, List.mem_cons, List.not_mem_nil, or_false] at member
  rcases member with rfl | rfl | rfl <;> exact kept _

end Example

theorem best_leads_crossed :
    (∃ index c, Example.crossed.Leads "/a/b".toList index c ∧ c.data = 1) ∧
      (Example.crossedLate.best "/a/b".toList).answer.1 =
        (Example.crossed.best "/a/b".toList).answer.1 := by
  obtain ⟨-, leads, reordered⟩ := best_leads good_empty Example.good_crossed "/a/b".toList
  constructor
  · have found : (Example.crossed.best "/a/b".toList).answer.1.map (·.candidate.data) =
        some 1 := by decide +kernel
    obtain ⟨selected, found, data⟩ := Option.map_eq_some_iff.1 found
    obtain ⟨index, c, lead, asked, -⟩ := leads selected found
    rw [asked] at data
    exact ⟨index, c, lead, data⟩
  · have locator : Example.crossed.isTop "/a/b".toList Example.ahead = false := by
      decide +kernel
    apply reordered
    · exact List.perm_append_singleton Example.ahead Example.behind
    · show (Example.behind ++ [Example.ahead]).filter (Example.crossed.isTop "/a/b".toList) =
        (Example.ahead :: Example.behind).filter (Example.crossed.isTop "/a/b".toList)
      rw [List.filter_append, List.filter_singleton, List.filter_cons, locator]
      exact List.append_nil _

end Ranking
end UriRouting
