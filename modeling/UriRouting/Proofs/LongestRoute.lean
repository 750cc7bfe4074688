/-
# UriRouting.Proofs.LongestRoute — the best route is the longest match

Where the best is preferred all routes are asked, and the highest rating wins that was reached
first.  So the loop is a `List.argmax` (`Router.bestRated_answer`), and what it ends with is the
first of the greatest ratings (`Router.firstGreatest_of_bestRated`).  But a router is not read
by its ratings.  What can be seen is how much of a text each route matches.

In exact arithmetic the rating is a line over the matched size (`Score.rate_of_ne_nil`), from
the required score up to one.  If something is left to match and less than everything required
the line rises, so that ratings are ordered as sizes are, and the longest match wins
(`Score.strictMono_rate`).  At both ends of the range it is flat, all matches are rated one
(`Score.rate_eq_one`), and the first match wins.  `FirstGreatest` says both, of whatever the
positions are compared by.
-/
import Mathlib.Tactic.Linarith
import Mathlib.Tactic.Ring
import UriRouting.Proofs.FirstMaximum
import UriRouting.Proofs.Longest
import UriRouting.Proofs.Selection

namespace UriRouting

set_option autoImplicit false

/-! ## The rating as a line -/

namespace Score

variable {required : ℚ} {t : Text}

/-- Exact arithmetic rounds no score. -/
theorem kept_exact (required : ℚ) : RoundedScore.Kept required := rfl

theorem rate_nil (required : ℚ) (n : Nat) : rate required n [] = 1 := rfl

theorem rate_of_ne_nil (left : t ≠ []) (required : ℚ) (n : Nat) :
    rate required n t = required + (1 - required) * ((n : ℚ) / Text.size t) := by
  rw [rate, if_neg left]
  rfl

/-- At both ends of the range all matches are rated alike. -/
theorem rate_eq_one (flat : t = [] ∨ required = 1) (n : Nat) : rate required n t = 1 := by
  by_cases left : t = []
  · rw [left, rate_nil]
  · rw [rate_of_ne_nil left, flat.resolve_left left]
    ring

/-- The line ends at one, where all of the text is matched. -/
theorem rate_size (required : ℚ) (t : Text) : rate required (Text.size t) t = 1 := by
  by_cases left : t = []
  · rw [left, rate_nil]
  · have size : (Text.size t : ℚ) ≠ 0 := Nat.cast_ne_zero.2 (Text.size_pos left).ne'
    rw [rate_of_ne_nil left, div_self size]
    ring

/-- In between, to match more is to be rated higher. -/
theorem strictMono_rate (left : t ≠ []) (below : required < 1) :
    StrictMono fun n => rate required n t := by
  intro n m lt
  have slack : 0 < 1 - required := by linarith
  have size : (0 : ℚ) < Text.size t := Nat.cast_pos.2 (Text.size_pos left)
  show rate required n t < rate required m t
  rw [rate_of_ne_nil left, rate_of_ne_nil left]
  gcongr

theorem monotone_rate (atMostOne : required ≤ 1) (t : Text) :
    Monotone fun n => rate required n t := by
  by_cases flat : t = [] ∨ required = 1
  · intro n m _
    show rate required n t ≤ rate required m t
    rw [rate_eq_one flat, rate_eq_one flat]
  · obtain ⟨left, notAll⟩ := not_or.1 flat
    exact (strictMono_rate left (lt_of_le_of_ne atMostOne notAll)).monotone

end Score

/-! ## The first of the greatest -/

/-- No position that has a value has a greater one, and those before have lesser ones. -/
def FirstGreatest {β : Type} [LT β] [LE β] (valueAt : Nat → Option β) (index : Nat) : Prop :=
  ∃ top, valueAt index = some top ∧
    (∀ other value, valueAt other = some value → value ≤ top) ∧
    ∀ earlier < index, ∀ value, valueAt earlier = some value → value < top

namespace FirstGreatest

variable {β γ : Type} [LinearOrder β] {valueAt : Nat → Option γ} {index : Nat}

/-- What is compared through a map that rises may as well be compared before it. -/
theorem of_map [LinearOrder γ] {f : γ → β} (rises : StrictMono f)
    (h : FirstGreatest (fun i => (valueAt i).map f) index) : FirstGreatest valueAt index := by
  obtain ⟨_, found, greatest, first⟩ := h
  obtain ⟨top, here, rfl⟩ := Option.map_eq_some_iff.1 found
  refine ⟨top, here, ?_, ?_⟩
  · intro other value there
    exact rises.le_iff_le.1 (greatest other _ (Option.map_eq_some_iff.2 ⟨value, there, rfl⟩))
  · intro earlier lt value there
    exact rises.lt_iff_lt.1 (first earlier lt _ (Option.map_eq_some_iff.2 ⟨value, there, rfl⟩))

/-- Where all values are the same it is the first position to have one. -/
theorem first_of_map {f : γ → β} {c : β} (flat : ∀ value, f value = c)
    (h : FirstGreatest (fun i => (valueAt i).map f) index) :
    ∀ earlier < index, valueAt earlier = none := by
  obtain ⟨_, found, -, first⟩ := h
  obtain ⟨top, here, rfl⟩ := Option.map_eq_some_iff.1 found
  intro earlier lt
  rw [Option.eq_none_iff_forall_not_mem]
  intro value there
  have less := first earlier lt _ (Option.map_eq_some_iff.2 ⟨value, there, rfl⟩)
  rw [flat, flat] at less
  exact lt_irrefl c less

end FirstGreatest

variable {τ : Type}

/-- How many octets of the text the route at a position matches. -/
def sizeAt? (routes : List (Route τ)) (remaining : Text) (index : Nat) : Option Nat :=
  routes[index]?.bind fun route => route.template.template.matchedSize? remaining

theorem isSome_sizeAt? (routes : List (Route τ)) (remaining : Text) (index : Nat) :
    (sizeAt? routes remaining index).isSome = matchesAt routes remaining index := by
  unfold sizeAt? matchesAt Route.isMatch
  cases routes[index]? <;> rfl

/-- No more is matched of a text than there is. -/
theorem Template.matchedSize?_le {t : Template} {text : Text} {n : Nat}
    (h : t.matchedSize? text = some n) : n ≤ Text.size text := by
  obtain ⟨s, -, -, rfl⟩ := exists_matched_of_matchedSize? h
  exact Text.size_le_of_prefix ⟨s.rest, s.whole.symm⟩

namespace Route

variable {required : ℚ} {remaining : Text}

theorem score_answer {route : Route τ} (good : route.template.Good) {n : Nat}
    (fits : route.template.template.matchedSize? remaining = some n) :
    (route.score remaining required).answer.1 = Score.rate required n remaining := by
  simp only [score, Logged.answer_bind, rate?_answer good, fits]
  rfl

end Route

namespace Router

variable {required : ℚ} {remaining : Text}

/-- The ratings of the routes that match, with their positions. -/
def ratings (required : ℚ) (remaining : Text) (routes : List (Route τ × Nat)) : List (ℚ × Nat) :=
  routes.filterMap fun (route, index) =>
    (route.template.template.matchedSize? remaining).map fun n =>
      (Score.rate required n remaining, index)

/-- The loop keeps the first of the greatest ratings, as none is below what is required. -/
theorem bestRated_answer (valid : Score.inRange required = true) {routes : List (Route τ)}
    (good : ∀ route ∈ routes, route.template.Good) (best : Option (ℚ × Nat)) (index : Nat) :
    (bestRated required remaining best index routes).answer.1 =
      ((ratings required remaining (routes.zipIdx index)).foldl
        (List.argAux fun later best => best.1 < later.1) best).map Prod.snd := by
  induction routes generalizing best index with
  | nil => rfl
  | cons route routes ih =>
      have later := fun best => ih (fun route member => good route (List.mem_cons_of_mem _ member))
        best (index + 1)
      simp only [bestRated, Logged.answer_bind, later,
        Route.rate?_answer (good route List.mem_cons_self), List.zipIdx_cons, ratings,
        List.filterMap_cons]
      cases route.template.template.matchedSize? remaining with
      | none => rfl
      | some n =>
          have reached := RoundedScore.required_le_rate (Score.kept_exact required) valid n remaining
          simp only [Option.map_some, betterRating, reached, Bool.true_and, List.foldl_cons]
          cases best <;> simp [List.argAux, ScoreNumber.lt]

theorem mem_ratings {routes : List (Route τ)} {rating : ℚ} {index : Nat} :
    (rating, index) ∈ ratings required remaining routes.zipIdx ↔
      (sizeAt? routes remaining index).map (fun n => Score.rate required n remaining) =
        some rating := by
  simp only [ratings, List.mem_filterMap, Prod.exists, List.mk_mem_zipIdx_iff_getElem?,
    Option.map_eq_some_iff, sizeAt?, Option.bind_eq_some_iff, Prod.mk.injEq]
  constructor
  · rintro ⟨route, _, here, n, fits, rated, rfl⟩
    exact ⟨n, ⟨route, here, fits⟩, rated⟩
  · rintro ⟨n, ⟨route, here, fits⟩, rated⟩
    exact ⟨route, index, here, n, fits, rated, rfl⟩

/-- Ratings come in the order of their positions. -/
theorem pairwise_ratings (required : ℚ) (remaining : Text) (routes : List (Route τ)) :
    (ratings required remaining routes.zipIdx).Pairwise fun rated later => rated.2 < later.2 := by
  have positions : routes.zipIdx.Pairwise fun entry later => entry.2 < later.2 := by
    rw [← List.pairwise_map, List.zipIdx_map_snd]
    exact List.pairwise_lt_range'
  rw [ratings, List.pairwise_filterMap]
  refine positions.imp ?_
  rintro ⟨_, position⟩ ⟨_, later⟩ lt _ rated _ rated'
  obtain ⟨_, -, rfl⟩ := Option.map_eq_some_iff.1 rated
  obtain ⟨_, -, rfl⟩ := Option.map_eq_some_iff.1 rated'
  exact lt

theorem firstGreatest_of_bestRated (valid : Score.inRange required = true)
    {routes : List (Route τ)} (good : ∀ route ∈ routes, route.template.Good) {index : Nat}
    (h : (bestRated required remaining none 0 routes).answer.1 = some index) :
    FirstGreatest (fun i => (sizeAt? routes remaining i).map fun n =>
      Score.rate required n remaining) index := by
  rw [bestRated_answer valid good] at h
  obtain ⟨⟨rating, _⟩, kept, rfl⟩ := Option.map_eq_some_iff.1 h
  have kept : (ratings required remaining routes.zipIdx).argmax Prod.fst = some (rating, _) :=
    kept
  refine ⟨rating, mem_ratings.1 (List.argmax_mem kept), ?_, ?_⟩
  · intro other value there
    exact List.le_of_mem_argmax (mem_ratings.2 there) kept
  · intro earlier lt value there
    obtain ⟨front, back, split, lesser⟩ := exists_append_of_argmax kept
    have member := mem_ratings.2 there
    have ordered := pairwise_ratings required remaining routes
    rw [split] at member ordered
    rcases List.mem_append.1 member with inFront | behind
    · exact lesser (value, earlier) inFront
    · -- behind the best there are later positions only
      have after := (List.pairwise_append.1 ordered).2.1
      rcases List.mem_cons.1 behind with same | behind
      · cases same
        exact absurd lt (lt_irrefl _)
      · exact absurd lt (List.rel_of_pairwise_cons after behind).not_gt

/-- What a route scores for a text, by the score that the router requires. -/
def scoreOf (r : Router τ ℚ) (remaining : Text) (route : Route τ) : ℚ :=
  (route.score remaining r.policy.requiredScore).answer.1

theorem scoreOf_eq {r : Router τ ℚ} (wellFormed : r.WellFormed) {route : Route τ}
    (member : route ∈ r.routes) {n : Nat}
    (fits : route.template.template.matchedSize? remaining = some n) :
    r.scoreOf remaining route = Score.rate r.policy.requiredScore n remaining :=
  Route.score_answer (wellFormed.good.1 route member) fits

/-- **The best is the longest match.**  In exact arithmetic the scores of the routes that match
lie between what is required and one, and whoever matches more scores no less.  If a route
matches, an attached one is selected: the first of those that match the most, as long as
something remains and less than one is required; else the first that matches.  If none does, it
is the default route, if there is one. -/
theorem select_longest {r : Router τ ℚ} (wellFormed : r.WellFormed)
    (best : r.policy.preference = .best) (start : Nat) (remaining : Text) :
    (∀ route ∈ r.routes, ∀ n, route.template.template.matchedSize? remaining = some n →
      r.policy.requiredScore ≤ r.scoreOf remaining route ∧ r.scoreOf remaining route ≤ 1 ∧
        ∀ other ∈ r.routes, ∀ m, other.template.template.matchedSize? remaining = some m →
          n ≤ m → r.scoreOf remaining route ≤ r.scoreOf remaining other) ∧
      ((∃ route ∈ r.routes, route.isMatch remaining = true) →
        ∃ index, (r.select start remaining).answer.1 = some (.attached index) ∧
          (remaining ≠ [] → r.policy.requiredScore < 1 →
            FirstGreatest (sizeAt? r.routes remaining) index) ∧
          (remaining = [] ∨ r.policy.requiredScore = 1 →
            matchesAt r.routes remaining index = true ∧
              ∀ earlier < index, matchesAt r.routes remaining earlier = false)) ∧
      ((∀ route ∈ r.routes, route.isMatch remaining = false) →
        (r.select start remaining).answer.1 = if r.default.isSome then some .default else none) := by
  have kept := Score.kept_exact r.policy.requiredScore
  have selects := selects_select wellFormed kept start remaining
  obtain ⟨-, atMostOne⟩ := RoundedScore.bounds_of_inRange wellFormed.valid
  have rises := Score.monotone_rate atMostOne remaining
  refine ⟨?_, ?_, selects.fallback⟩
  · intro route member n fits
    rw [scoreOf_eq wellFormed member fits]
    refine ⟨?_, ?_, ?_⟩
    · exact (RoundedScore.le_iff _ _).1
        (RoundedScore.required_le_rate kept wellFormed.valid n remaining)
    · rw [← Score.rate_size r.policy.requiredScore remaining]
      exact rises (Template.matchedSize?_le fits)
    · intro other member' m fits' le
      rw [scoreOf_eq wellFormed member' fits']
      exact rises le
  · intro some
    obtain ⟨index, selected⟩ := selects.attached.2 some
    have chosen := (select_eq_attached_iff wellFormed kept).1 selected
    rw [selectAttached_answer_best best] at chosen
    have leads := firstGreatest_of_bestRated wellFormed.valid wellFormed.good.1 chosen
    refine ⟨index, selected, ?_, ?_⟩
    · intro left below
      exact leads.of_map (Score.strictMono_rate left below)
    · intro flat
      refine ⟨selects.fits index selected, ?_⟩
      intro earlier lt
      rw [← isSome_sizeAt?, leads.first_of_map (Score.rate_eq_one flat) earlier lt]
      rfl

/-- Three routes, of which the second and the third match as much of the same texts. -/
def Example.byLength : Router Unit ℚ :=
  (((ofPolicy ⟨.best, 1 / 2⟩).attach "/a".toList ()).attach "/\x7bx\x7d/b".toList ()).attach
    "/a/b".toList ()

theorem select_longest_byLength :
    (Example.byLength.select 0 "/a/b/c".toList).answer.1 = some (.attached 1) ∧
      FirstGreatest (sizeAt? Example.byLength.routes "/a/b/c".toList) 1 := by
  have selected : (Example.byLength.select 0 "/a/b/c".toList).answer.1 = some (.attached 1) := by
    decide +kernel
  have made : Example.byLength.WellFormed :=
    (((wellFormed_ofPolicy (by decide +kernel)).attach _ _).attach _ _).attach _ _
  obtain ⟨-, longest, -⟩ := select_longest made rfl 0 "/a/b/c".toList
  obtain ⟨index, found, greatest, -⟩ := longest (exists_matchesAt.1 ⟨1, by decide +kernel⟩)
  obtain rfl : 1 = index := by
    rw [selected] at found
    exact Selection.attached.inj (Option.some.inj found)
  exact ⟨selected, greatest (by decide) (by decide +kernel)⟩

end Router
end UriRouting
