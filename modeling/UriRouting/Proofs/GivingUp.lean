/-
# UriRouting.Proofs.GivingUp — what a limit decides, and what it does not

A limit is compared with a count and enters nothing else, so a search that comes to an end under
a limit goes the same way under every higher one: each way to put searches together keeps this
(`Outcome.Composed.persists`).  What a search finds that comes to an end is `Template.unlimited`,
in which no limit occurs (`Template.verdict_eq_unlimited`).

A search that is given up is one warning and no answer (`CachedTemplate.GivesUp`).  To whoever
asked it is a text that was missed: a ranking selects as if it held no such candidate
(`Ranking.best_decided`), and a router as if another route stood there that misses the text,
since all that it hears of its routes is what they parse (`Router.Alike`).
-/
import UriRouting.Proofs.FirstMaximum
import UriRouting.Proofs.History
import UriRouting.Proofs.Resolution

namespace UriRouting

set_option autoImplicit false

/-- What a search has come to under one limit it comes to under every higher one. -/
theorem Outcome.Composed.persists {search : Nat → Nat → Outcome} (h : Composed search)
    {low high : Nat} (le : low ≤ high) {spent : Nat} (settled : search low spent ≠ .gaveUp) :
    search high spent = search low spent := by
  induction h generalizing spent with
  | found captures rest => rfl
  | missed => rfl
  | spend cost _ later =>
      by_cases passed : low < spent + cost
      · exact absurd (if_pos passed) settled
      · have allowed : ¬ high < spent + cost := by omega
        simp only [Outcome.spend, if_neg passed, if_neg allowed] at settled ⊢
        exact later settled
  | @orElse search next _ _ first later =>
      have ended : search low spent ≠ .gaveUp := by
        intro gaveUp
        exact settled (by simp only [gaveUp, Outcome.orElse])
      simp only [first ended] at settled ⊢
      cases outcome : search low spent with
      | found captures rest => rfl
      | missed sofar =>
          simp only [outcome, Outcome.orElse] at settled ⊢
          exact later settled
      | gaveUp => exact absurd outcome ended

theorem Piece.searchFront_persists {low high : Nat} (le : low ≤ high) {mode : Mode}
    {pieces : List Piece} {t : Text} (settled : searchFront low mode pieces t ≠ .gaveUp) :
    searchFront high mode pieces t = searchFront low mode pieces t := by
  obtain ⟨search, composed, front⟩ := exists_composed mode pieces t
  rw [front] at settled
  rw [front, front, composed.persists le settled]

/-! ## Under every limit -/

namespace Template

variable {t : Template} {text : Text}

/-- The template with another limit. -/
def limitedTo (t : Template) (limit : Nat) : Template := { t with limit }

/-- What there is to say of a text, without regard to the limit. -/
def unlimited (t : Template) (text : Text) : Verdict :=
  match t.matcher.split? text with
  | some (captures, rest) => .matched captures rest
  | none => .missed

theorem verdict_eq_unlimited (settled : t.verdict text ≠ .gaveUp) :
    t.verdict text = t.unlimited text := by
  unfold unlimited
  cases outcome : t.verdict text with
  | matched captures rest => rw [Matcher.run_matched outcome]
  | missed => rw [Matcher.run_missed outcome]
  | gaveUp => exact absurd outcome settled

/-- A verdict is the same under every higher limit. -/
theorem verdict_limitedTo {low high : Nat} (le : low ≤ high)
    (settled : (t.limitedTo low).verdict text ≠ .gaveUp) :
    (t.limitedTo high).verdict text = (t.limitedTo low).verdict text := by
  have persists := @Piece.searchFront_persists low high le t.mode t.matcher.pieces text
  unfold verdict Matcher.run at settled ⊢
  split
  · rename_i repeated
    have repeated : (t.limitedTo low).matcher.repeats = true := repeated
    rw [if_pos repeated] at settled ⊢
    have ended : Piece.searchFront low t.mode t.matcher.pieces text ≠ .gaveUp := by
      intro gaveUp
      have same : Piece.searchFront (t.limitedTo low).matcher.limit (t.limitedTo low).matcher.mode
          (t.limitedTo low).matcher.pieces text = .gaveUp := gaveUp
      exact settled (by rw [same])
    have same : Piece.searchFront (t.limitedTo high).matcher.limit (t.limitedTo high).matcher.mode
        (t.limitedTo high).matcher.pieces text =
          Piece.searchFront (t.limitedTo low).matcher.limit (t.limitedTo low).matcher.mode
            (t.limitedTo low).matcher.pieces text := persists ended
    rw [same]
  · rename_i distinct
    have distinct : ¬ (t.limitedTo low).matcher.repeats = true := distinct
    rw [if_neg distinct]
    rfl

theorem verdict_of_distinct (distinct : t.variableNames.Nodup) (text : Text) :
    t.verdict text = t.unlimited text :=
  Matcher.run_distinct (repeats_eq_false_iff.2 distinct) text

/-- Both ways to ask for a match are the same question. -/
theorem matchedSize?_eq (t : Template) (text : Text) :
    t.matchedSize? text = (t.parse? text).map Parsed.size := by
  unfold matchedSize? parse?
  cases t.verdict text <;> rfl

theorem matchedSize?_of_gaveUp (gaveUp : t.verdict text = .gaveUp) :
    t.matchedSize? text = none := by
  rw [matchedSize?, gaveUp]
  rfl

theorem parse?_of_gaveUp (gaveUp : t.verdict text = .gaveUp) : t.parse? text = none := by
  rw [parse?, gaveUp]
  rfl

theorem parse?_of_missed (missed : t.verdict text = .missed) : t.parse? text = none := by
  rw [parse?, missed]
  rfl

theorem parse?_limitedTo {low high : Nat} (le : low ≤ high) {parsed : Parsed}
    (found : (t.limitedTo low).parse? text = some parsed) :
    (t.limitedTo high).parse? text = some parsed := by
  have settled : (t.limitedTo low).verdict text ≠ .gaveUp := by
    intro gaveUp
    rw [parse?_of_gaveUp gaveUp] at found
    cases found
  rw [← found, parse?, parse?, verdict_limitedTo le settled]
  rfl

/-- What the limits do to the answers for a text. -/
structure Limited (t : Template) (text : Text) : Prop where
  /-- What is matched under a limit is matched under every higher one. -/
  size : ∀ low high n, low ≤ high → (t.limitedTo low).matchedSize? text = some n →
    (t.limitedTo high).matchedSize? text = some n
  parsed : ∀ low high parsed, low ≤ high → (t.limitedTo low).parse? text = some parsed →
    (t.limitedTo high).parse? text = some parsed
  /-- Under each limit the answers are the unlimited ones, or none. -/
  either : ∀ limit,
    ((t.limitedTo limit).matchedSize? text = sizeOf? text (t.unlimited text) ∧
        (t.limitedTo limit).parse? text = t.parsed? text (t.unlimited text)) ∨
      ((t.limitedTo limit).matchedSize? text = none ∧ (t.limitedTo limit).parse? text = none)
  /-- From some limit on they are the unlimited ones. -/
  reached : ∃ enough, ∀ limit, enough ≤ limit →
    (t.limitedTo limit).verdict text = t.unlimited text
  together : ∀ limit,
    (t.limitedTo limit).matchedSize? text = none ↔ (t.limitedTo limit).parse? text = none
  /-- Without a repeated name no limit makes a difference. -/
  distinct : t.variableNames.Nodup → ∀ limit,
    (t.limitedTo limit).verdict text = t.unlimited text

theorem limited (t : Template) (text : Text) : t.Limited text where
  size low high n le found := by
    rw [matchedSize?_eq, Option.map_eq_some_iff] at found ⊢
    obtain ⟨parsed, found, same⟩ := found
    exact ⟨parsed, parse?_limitedTo le found, same⟩
  parsed low high parsed le found := parse?_limitedTo le found
  either limit := by
    by_cases gaveUp : (t.limitedTo limit).verdict text = .gaveUp
    · exact Or.inr ⟨matchedSize?_of_gaveUp gaveUp, parse?_of_gaveUp gaveUp⟩
    · left
      have settled : (t.limitedTo limit).verdict text = t.unlimited text :=
        verdict_eq_unlimited gaveUp
      rw [matchedSize?, parse?, settled]
      exact ⟨rfl, rfl⟩
  reached := by
    obtain ⟨enough, settled⟩ := t.exists_limit text
    exact ⟨enough, fun limit le => verdict_eq_unlimited (settled limit le)⟩
  together limit := by
    rw [matchedSize?_eq, Option.map_eq_none_iff]
  distinct distinct limit := verdict_of_distinct (t := t.limitedTo limit) distinct text

end Template

/-! ## What is heard of it -/

namespace CachedTemplate

/-- What a call is like that gives the search for a text up: no answer, one warning behind those
that the pattern is read with, if it had to be read, and no change but the matcher that is kept. -/
structure GivesUp (c : CachedTemplate) (text : Text) : Prop where
  size : c.matchedSize? text = ⟨(none, { c with matcher := some c.template.matcher }),
    c.prepare.events ++ [.searchGivenUp c.template.pattern text]⟩
  parsed : c.parse? text = ⟨(none, { c with matcher := some c.template.matcher }),
    c.prepare.events ++ [.searchGivenUp c.template.pattern text]⟩
  defects : ∀ e ∈ c.prepare.events, e.isDefect = true

theorem prepare_kept {c : CachedTemplate} (good : c.Good) :
    c.prepare.answer.2 = { c with matcher := some c.template.matcher } := by
  obtain ⟨template, kept⟩ := c
  cases kept with
  | none => rfl
  | some m => rw [good m rfl]; rfl

theorem judge_gaveUp {c : CachedTemplate} (good : c.Good) {text : Text}
    (gaveUp : c.template.verdict text = .gaveUp) :
    c.judge text = ⟨(.gaveUp, { c with matcher := some c.template.matcher }),
      c.prepare.events ++ [.searchGivenUp c.template.pattern text]⟩ := by
  have run : c.prepare.answer.1.run text = .gaveUp := by
    rw [prepare_answer good]
    exact gaveUp
  have events : (c.judge text).events =
      c.prepare.events ++ [.searchGivenUp c.template.pattern text] := by
    simp only [judge, Logged.events_bind, Logged.events_log, Logged.events_pure, run,
      prepare_template, giveUpEvents, List.append_nil]
  have answer := judge_answer good text
  rw [gaveUp, prepare_kept good] at answer
  rw [← answer, ← events]

theorem givesUp {c : CachedTemplate} (good : c.Good) {text : Text}
    (gaveUp : c.template.verdict text = .gaveUp) : c.GivesUp text where
  size := by
    have judged := judge_gaveUp good gaveUp
    show Logged.mk (Template.sizeOf? text (c.judge text).answer.1, (c.judge text).answer.2)
      ((c.judge text).events ++ []) = _
    rw [judged, List.append_nil]
    rfl
  parsed := by
    have judged := judge_gaveUp good gaveUp
    show Logged.mk ((c.judge text).answer.2.template.parsed? text (c.judge text).answer.1,
        (c.judge text).answer.2)
      ((c.judge text).events ++
        (captureEvents (c.judge text).answer.2.template (c.judge text).answer.1 ++ [])) = _
    rw [judged, List.append_nil]
    simp only [captureEvents, List.append_nil]
    rfl
  defects e member := by
    unfold prepare at member
    cases kept : c.matcher with
    | none =>
        rw [kept] at member
        simp only [Logged.events_bind, Logged.events_log, Logged.events_pure,
          List.append_nil] at member
        exact isDefect_of_mem_events member
    | some m =>
        rw [kept] at member
        cases member

end CachedTemplate

namespace Ranking

variable {δ : Type}

/-- The candidates whose search for the path comes to an end. -/
def decided (r : Ranking δ) (path : Text) : Ranking δ :=
  ⟨r.candidates.filter fun c => c.pattern.template.template.verdict path ≠ .gaveUp⟩

theorem matching?_of_gaveUp {c : Candidate δ} (good : c.pattern.template.Good) {path : Text}
    (gaveUp : c.pattern.template.template.verdict path = .gaveUp) : c.matching? path = none := by
  rw [Candidate.matching?, PathPattern.matching?_answer good, Template.parse?_of_gaveUp gaveUp]
  rfl

/-- A candidate that gives up has no part in the selection. -/
theorem best_decided {r : Ranking δ} (good : r.Good) (path : Text) :
    (r.best path).answer.1 = ((r.decided path).best path).answer.1 := by
  have kept : (r.decided path).Good := fun c member => good c (List.mem_filter.1 member).1
  have offers : r.candidates.filterMap (·.selection? path) =
      (r.decided path).candidates.filterMap (·.selection? path) := by
    rw [decided, List.filterMap_filter]
    apply List.filterMap_congr
    intro c member
    split
    · rfl
    · rename_i gaveUp
      have gaveUp : c.pattern.template.template.verdict path = .gaveUp := by simpa using gaveUp
      rw [Candidate.selection?, matching?_of_gaveUp (good c member) gaveUp, Option.map_none]
  rw [best_answer good, best_answer kept, offers]

end Ranking

variable {τ σ : Type}

/-- What the template of the route says of a text. -/
def Route.reads (remaining : Text) (route : Route τ) : Option Parsed :=
  route.template.template.parse? remaining

/-- What routes keep is no part of what they say. -/
theorem reads_of_upkept {routes routes' : List (Route τ)} (h : Upkept routes routes')
    (remaining : Text) :
    routes'.map (Route.reads remaining) = routes.map (Route.reads remaining) := by
  have same := congrArg (List.map (Route.reads remaining)) h.1
  rwa [List.map_map, List.map_map] at same

namespace Router

/-- Two routers of one policy, at one place of their turns, whose routes parse a text alike. -/
structure Alike (remaining : Text) (r r' : Router τ σ) : Prop where
  policy : r'.policy = r.policy
  cursor : r'.cursor = r.cursor
  default : r'.default = r.default
  routes : r'.routes.map (Route.reads remaining) = r.routes.map (Route.reads remaining)

/-- A route in the place of one that says the same of the text. -/
theorem alike_setRoute {r : Router τ σ} {index : Nat} {route other : Route τ} {remaining : Text}
    (found : r.routes[index]? = some route) (same : other.reads remaining = route.reads remaining) :
    Alike remaining r (r.setRoute (.attached index) other) where
  policy := rfl
  cursor := rfl
  default := rfl
  routes := by
    obtain ⟨bound, rfl⟩ := List.getElem?_eq_some_iff.1 found
    have here : (r.routes.map (Route.reads remaining)).get ⟨index, by simpa using bound⟩ =
        other.reads remaining := by
      rw [List.get_eq_getElem, List.getElem_map, same]
    rw [setRoute, List.map_set, ← here, List.get_eq_getElem, List.set_getElem_self]

theorem good_setRoute {r : Router τ σ} (good : r.Good) {other : Route τ}
    (kept : other.template.Good) (index : Nat) : (r.setRoute (.attached index) other).Good := by
  constructor
  · intro route member
    rcases List.mem_or_eq_of_mem_set member with member | rfl
    · exact good.1 route member
    · exact kept
  · exact good.2

section Select

variable {remaining : Text} {r r' : Router τ σ}

theorem Alike.reads (h : Alike remaining r r') (selection : Selection) :
    (r'.route? selection).map (Route.reads remaining) =
      (r.route? selection).map (Route.reads remaining) := by
  cases selection with
  | attached index =>
      have same := congrArg (·[index]?) h.routes
      simp only [List.getElem?_map] at same
      exact same
  | default => rw [route?, route?, h.default]

variable [ScoreNumber σ]

theorem rate?_reads {route : Route τ} (good : route.template.Good) (required : σ) :
    (route.rate? remaining required).answer.1 =
      (route.reads remaining).map fun parsed => Score.rate required parsed.size remaining := by
  rw [Route.rate?_answer good, Template.matchedSize?_eq, Option.map_map]
  rfl

theorem accepts_reads {route : Route τ} (good : route.template.Good) (required : σ) :
    (route.accepts remaining required).answer = ((route.reads remaining).any fun parsed =>
      ScoreNumber.le required (Score.rate required parsed.size remaining), route.prepared) := by
  simp only [Route.accepts, Logged.answer_bind, Route.rate?_answer good, Template.matchedSize?_eq,
    Logged.answer_pure, Option.map_map, Option.any_map]
  rfl

theorem firstAccepting_alike (required : σ) (order : List Nat) {routes routes' : List (Route τ)}
    (good : ∀ route ∈ routes, route.template.Good)
    (good' : ∀ route ∈ routes', route.template.Good)
    (same : routes'.map (Route.reads remaining) = routes.map (Route.reads remaining)) :
    (firstAccepting required remaining order routes').answer.1 =
      (firstAccepting required remaining order routes).answer.1 := by
  induction order generalizing routes routes' with
  | nil => rfl
  | cons index order ih =>
      have here := congrArg (·[index]?) same
      simp only [List.getElem?_map] at here
      unfold firstAccepting
      cases found : routes[index]? with
      | none =>
          rw [found, Option.map_none, Option.map_eq_none_iff] at here
          rw [here]
          exact ih good good' same
      | some route =>
          rw [found, Option.map_some, Option.map_eq_some_iff] at here
          obtain ⟨route', found', reads⟩ := here
          have put : Upkept routes (routes.set index route.prepared) := .set found
          have put' : Upkept routes' (routes'.set index route'.prepared) := .set found'
          simp only [found', Logged.answer_bind,
            accepts_reads (good route (List.mem_of_getElem? found)),
            accepts_reads (good' route' (List.mem_of_getElem? found')), reads]
          split
          · rfl
          · apply ih (put.2 good) (put'.2 good')
            rw [reads_of_upkept put, reads_of_upkept put', same]

theorem bestRated_alike (required : σ) (best : Option (σ × Nat)) (index : Nat)
    {routes routes' : List (Route τ)} (good : ∀ route ∈ routes, route.template.Good)
    (good' : ∀ route ∈ routes', route.template.Good)
    (same : routes'.map (Route.reads remaining) = routes.map (Route.reads remaining)) :
    (bestRated required remaining best index routes').answer.1 =
      (bestRated required remaining best index routes).answer.1 := by
  induction routes generalizing best index routes' with
  | nil =>
      obtain rfl : routes' = [] := List.map_eq_nil_iff.1 same
      rfl
  | cons route routes ih =>
      cases routes' with
      | nil => cases same
      | cons route' routes' =>
          obtain ⟨reads, same⟩ := List.cons.inj same
          simp only [bestRated, Logged.answer_bind, rate?_reads (good route List.mem_cons_self),
            rate?_reads (good' route' List.mem_cons_self), reads]
          exact ih _ _ (fun other member => good other (List.mem_cons_of_mem _ member))
            (fun other member => good' other (List.mem_cons_of_mem _ member)) same

theorem selectAttached_alike (h : Alike remaining r r') (good : r.Good) (good' : r'.Good)
    (start : Nat) : (r'.selectAttached start remaining).answer.1 =
      (r.selectAttached start remaining).answer.1 := by
  have length : r'.routes.length = r.routes.length := by
    simpa using congrArg List.length h.routes
  have order : r'.order start = r.order start := by
    simp only [Router.order, h.policy, h.cursor, length]
  have first := firstAccepting_alike r.policy.requiredScore (r.order start) good.1 good'.1 h.routes
  have best := bestRated_alike r.policy.requiredScore none 0 good.1 good'.1 h.routes
  unfold selectAttached
  rw [h.policy, order]
  split
  · exact best
  · exact first
  · exact first

theorem selectAttached_default (r : Router τ σ) (start : Nat) (remaining : Text) :
    (r.selectAttached start remaining).answer.2.default = r.default := by
  unfold selectAttached
  split <;> rfl

theorem selectDefault_alike (policy : r'.policy = r.policy) (default : r'.default = r.default)
    (remaining : Text) :
    (r'.selectDefault remaining).answer.1 = (r.selectDefault remaining).answer.1 := by
  unfold selectDefault
  rw [policy, default]
  cases r.default with
  | none => rfl
  | some route => simp only [Logged.answer_bind, Logged.answer_pure]

/-- Routers are told apart by what their routes say of the text, and by nothing else. -/
theorem select_alike (h : Alike remaining r r') (good : r.Good) (good' : r'.Good) (start : Nat) :
    (r'.select start remaining).answer.1 = (r.select start remaining).answer.1 := by
  have attached := selectAttached_alike h good good' start
  have policy := (r.upkeep_selectAttached start remaining).policy
  have policy' := (r'.upkeep_selectAttached start remaining).policy
  unfold select
  simp only [Logged.answer_bind, attached]
  cases (r.selectAttached start remaining).answer.1 with
  | some index => simp only [Logged.answer_pure]
  | none =>
      apply selectDefault_alike
      · rw [policy', policy, h.policy]
      · rw [selectAttached_default, selectAttached_default, h.default]

theorem resolve_alike (h : Alike remaining r r') (good : r.Good) (good' : r'.Good) (start : Nat) :
    (r'.resolve start remaining).answer.1 = (r.resolve start remaining).answer.1 := by
  have selected := (resolve_answer good start remaining).1
  have selected' := (resolve_answer good' start remaining).1
  rw [select_alike h good good', ← selected] at selected'
  cases found : (r.resolve start remaining).answer.1 with
  | none =>
      rw [found, Option.map_none, Option.map_eq_none_iff] at selected'
      exact selected'
  | some resolved =>
      rw [found, Option.map_some, Option.map_eq_some_iff] at selected'
      obtain ⟨resolved', found', same⟩ := selected'
      obtain ⟨route, parsed, there, read, eq⟩ := exists_parse_of_resolve good found
      obtain ⟨route', parsed', there', read', eq'⟩ := exists_parse_of_resolve good' found'
      have alike := h.reads resolved.selection
      rw [there, ← same, there', Option.map_some, Option.map_some, Route.reads, Route.reads, read,
        read'] at alike
      obtain rfl := Option.some.inj (Option.some.inj alike)
      rw [found', eq', eq, same]

end Select

end Router

/-- **A limit can only suppress a match.**  Which limit is set decides whether there is an answer
for a text and never which, and nothing at all where no name is repeated.  A search that is given
up is one warning and no match.  A ranking goes on to its other candidates, and a router to its
other routes: neither tells a route that gives up from one that misses the text. -/
theorem limit_only_suppresses :
    (∀ (t : Template) (text : Text), t.Limited text) ∧
      (∀ (c : CachedTemplate) (text : Text), c.Good → c.template.verdict text = .gaveUp →
        c.GivesUp text) ∧
      (∀ (δ : Type) (r : Ranking δ) (path : Text), r.Good →
        (r.best path).answer.1 = ((r.decided path).best path).answer.1) ∧
      ∀ (τ σ : Type) [ScoreNumber σ] (r : Router τ σ) (start : Nat) (remaining : Text) (index : Nat)
        (route other : Route τ), r.Good → r.routes[index]? = some route →
          route.template.template.verdict remaining = .gaveUp →
          other.template.Good → other.template.template.verdict remaining = .missed →
            ((r.setRoute (.attached index) other).select start remaining).answer.1 =
                (r.select start remaining).answer.1 ∧
              ((r.setRoute (.attached index) other).resolve start remaining).answer.1 =
                (r.resolve start remaining).answer.1 := by
  refine ⟨Template.limited, ?_, ?_, ?_⟩
  · intro c text good gaveUp
    exact CachedTemplate.givesUp good gaveUp
  · intro δ r path good
    exact Ranking.best_decided good path
  · intro τ σ _ r start remaining index route other good found gaveUp kept missed
    have alike : Router.Alike remaining r (r.setRoute (.attached index) other) := by
      apply Router.alike_setRoute found
      rw [Route.reads, Route.reads, Template.parse?_of_missed missed,
        Template.parse?_of_gaveUp gaveUp]
    have good' := Router.good_setRoute good kept index
    exact ⟨Router.select_alike alike good good' start, Router.resolve_alike alike good good' start⟩

namespace Example

/-- Three variables that compete for the text in front of a copy of the first. -/
def crowded : Template where
  pattern := "/\x7ba\x7d\x7bb\x7d\x7bc\x7d\x7ba\x7dz".toList
  mode := .startsWithSegment
  fallback := .ofKind .all
  limit := 100

/-- A candidate that gives up, in front of one that matches. -/
def crowdedFirst : Ranking Nat :=
  ((⟨[]⟩ : Ranking Nat).add ⟨{ template := crowded }, "/z".toList⟩ .method 0).add
    (PathPattern.ofPattern "/\x7bx\x7d".toList .empty).answer .locator 1

/-- A route that gives up, in front of one that matches. -/
def crowdedRoute : Router Unit Rat :=
  ((Router.ofPolicy ⟨.best, 1 / 2⟩).attachTemplate crowded ()).attach "/x".toList ()

/-- There is no `z` at the end, which is noticed in vain too often. -/
def unfinished : Text := "/xxxxxxxx".toList

end Example

theorem limit_only_suppresses_crowded :
    (Example.crowded.limitedTo 1000).matchedSize? "/xaxxz".toList = some 6 ∧
      CachedTemplate.GivesUp { template := Example.crowded } Example.unfinished ∧
      (((Example.crowdedFirst.decided Example.unfinished).best Example.unfinished).answer.1.map
        fun selected => selected.candidate.data) = some 1 ∧
      ((Example.crowdedRoute.setRoute (.attached 0) (.ofPattern "/y".toList ())).select 0
        Example.unfinished).answer.1 = some (.attached 1) := by
  obtain ⟨limited, givesUp, ranking, router⟩ := limit_only_suppresses
  have gaveUp : Example.crowded.verdict Example.unfinished = .gaveUp := by decide +kernel
  have unused : CachedTemplate.Good { template := Example.crowded } := fun _ kept => nomatch kept
  have crowdedGood : Example.crowdedFirst.Good :=
    Ranking.good_add (Ranking.good_add Ranking.good_empty unused _ _)
      (PathPattern.good_ofPattern _ _) _ _
  have routeGood : Example.crowdedRoute.Good :=
    Router.good_attach (Router.good_attachTemplate (Router.good_ofPolicy _) _ _) _ _
  refine ⟨?_, ?_, ?_, ?_⟩
  · exact (limited Example.crowded "/xaxxz".toList).size 100 1000 6 (by decide) (by decide +kernel)
  · exact givesUp _ _ unused gaveUp
  · rw [← ranking Nat Example.crowdedFirst Example.unfinished crowdedGood]
    decide +kernel
  · rw [(router Unit Rat Example.crowdedRoute 0 Example.unfinished 0
      ⟨{ template := Example.crowded }, ()⟩ (.ofPattern "/y".toList ()) routeGood rfl gaveUp
      (fun _ kept => nomatch kept) (by decide +kernel)).1]
    decide +kernel

end UriRouting
