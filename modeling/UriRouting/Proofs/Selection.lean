/-
# UriRouting.Proofs.Selection — which route is selected

A router asks its routes in some order whether they accept a text, and a route accepts if its
template matches and its rating reaches the required score.  The second is never in doubt
(`RoundedScore.required_le_rate`), so to accept is to match (`Route.accepts_answer`), asking
in an order is looking for the first match in it (`Router.firstAccepting_answer`), and asking
for the best rating ends with a match if there is any (`Router.isSome_bestRated`,
`Router.exists_of_bestRated`).  What fills the caches while routes are asked changes none of
the answers to come (`matchesAt_of_upkept`).

`Router.WellFormed` holds of what is made by attaching to a valid policy, and asking keeps it
(`Router.Upkeep.wellFormed`).  `Router.Selects` says what a selection is, preference by
preference, by the positions that match; `Router.select_selects` that every selection of a
well-formed router is of this kind, that no more than the best rating hangs on the score that is
required, and that a default, once attached, is what is selected where nothing matches.
-/
import Mathlib.Data.Rat.Floor
import Mathlib.Tactic.Linarith
import UriRouting.Proofs.Matching
import UriRouting.Proofs.Rating
import UriRouting.Proofs.Upkeep

namespace UriRouting

set_option autoImplicit false

/-- The template of a default route: it matches the empty front of every text. -/
def Template.default : Template := { pattern := [], mode := .startsWith }

theorem Template.matchedSize?_default (text : Text) :
    Template.default.matchedSize? text = some 0 := by
  have split : Nonempty (Template.default.Split text) :=
    ⟨.ofValue (fun _ => []) text rfl (fun _ member => nomatch member) trivial⟩
  obtain ⟨s, -, matched⟩ := Template.exists_matched (Or.inl (by decide)) split
  rw [matchedSize?_of_matched matched, Split.size, s.front_eq]
  rfl

variable {τ σ : Type}

/-! ## One route -/

namespace Route

/-- The template of the route matches the text. -/
def isMatch (r : Route τ) (remaining : Text) : Bool :=
  (r.template.template.matchedSize? remaining).isSome

variable [ScoreNumber σ]

theorem rate?_answer {r : Route τ} (good : r.template.Good) (remaining : Text) (required : σ) :
    (r.rate? remaining required).answer =
      ((r.template.template.matchedSize? remaining).map fun n => Score.rate required n remaining,
        r.prepared) := by
  simp only [rate?, Logged.answer_bind, CachedTemplate.matchedSize?_answer good]
  rfl

/-- A route accepts what it matches, as no match falls short of what is required. -/
theorem accepts_answer [RoundedScore σ] {r : Route τ} (good : r.template.Good) {required : σ}
    (kept : RoundedScore.Kept required) (valid : Score.inRange required = true)
    (remaining : Text) :
    (r.accepts remaining required).answer = (r.isMatch remaining, r.prepared) := by
  simp only [accepts, Logged.answer_bind, rate?_answer good]
  cases h : r.template.template.matchedSize? remaining with
  | none => simp [isMatch, h]
  | some n => simp [isMatch, h, RoundedScore.required_le_rate kept valid]

end Route

/-! ## The positions that match -/

/-- The route at a position, if there is one, matches the text. -/
def matchesAt (routes : List (Route τ)) (remaining : Text) (index : Nat) : Bool :=
  routes[index]?.any fun route => route.isMatch remaining

theorem matchesAt_iff {routes : List (Route τ)} {remaining : Text} {index : Nat} :
    matchesAt routes remaining index = true ↔
      ∃ route, routes[index]? = some route ∧ route.isMatch remaining = true := by
  cases h : routes[index]? <;> simp [matchesAt, h]

theorem lt_length_of_matchesAt {routes : List (Route τ)} {remaining : Text} {index : Nat}
    (h : matchesAt routes remaining index = true) : index < routes.length := by
  obtain ⟨route, found, -⟩ := matchesAt_iff.1 h
  exact (List.getElem?_eq_some_iff.1 found).1

theorem exists_matchesAt {routes : List (Route τ)} {remaining : Text} :
    (∃ index, matchesAt routes remaining index = true) ↔
      ∃ route ∈ routes, route.isMatch remaining = true := by
  constructor
  · rintro ⟨index, h⟩
    obtain ⟨route, found, here⟩ := matchesAt_iff.1 h
    exact ⟨route, List.mem_of_getElem? found, here⟩
  · rintro ⟨route, member, here⟩
    obtain ⟨index, found⟩ := List.mem_iff_getElem?.1 member
    exact ⟨index, matchesAt_iff.2 ⟨route, found, here⟩⟩

theorem matchesAt_eq_false {routes : List (Route τ)} {remaining : Text}
    (idle : ∀ route ∈ routes, route.isMatch remaining = false) (index : Nat) :
    matchesAt routes remaining index = false := by
  rw [Bool.eq_false_iff]
  intro here
  obtain ⟨route, member, fits⟩ := exists_matchesAt.1 ⟨index, here⟩
  rw [idle route member] at fits
  cases fits

/-- What routes keep is no part of what they match. -/
theorem matchesAt_of_upkept {routes routes' : List (Route τ)} (h : Upkept routes routes')
    (remaining : Text) : matchesAt routes' remaining = matchesAt routes remaining := by
  funext index
  have fresh (routes : List (Route τ)) : matchesAt routes remaining index =
      (routes.map Route.fresh)[index]?.any fun route => route.isMatch remaining := by
    rw [List.getElem?_map, Option.any_map]
    rfl
  rw [fresh, fresh, h.1]

namespace Router

/-! ## Routers as they are made -/

theorem Upkeep.isSome_default {r r' : Router τ σ} (upkeep : Upkeep r r') :
    r'.default.isSome = r.default.isSome := by
  have same := congrArg Option.isSome (upkeep.map_fresh .default)
  rw [Option.isSome_map, Option.isSome_map] at same
  exact same

section Made

variable [ScoreNumber σ]

/-- A valid policy, caches that are what their templates stand for, and the template of default
routes in the default route. -/
structure WellFormed (r : Router τ σ) : Prop where
  valid : r.policy.isValid = true
  good : r.Good
  default : ∀ route, r.default = some route → route.template.template = Template.default

theorem wellFormed_ofPolicy {policy : Policy σ} (valid : policy.isValid = true) :
    (ofPolicy policy : Router τ σ).WellFormed where
  valid := valid
  good := good_ofPolicy policy
  default _ found := nomatch found

theorem WellFormed.attachTemplate {r : Router τ σ} (h : r.WellFormed) (template : Template)
    (target : τ) : (r.attachTemplate template target).WellFormed where
  valid := h.valid
  good := good_attachTemplate h.good template target
  default := h.default

theorem WellFormed.attach {r : Router τ σ} (h : r.WellFormed) (pattern : Text) (target : τ) :
    (r.attach pattern target).WellFormed :=
  h.attachTemplate { pattern, mode := .startsWith } target

theorem WellFormed.attachDefault {r : Router τ σ} (h : r.WellFormed) (target : τ) :
    (r.attachDefault target).WellFormed where
  valid := h.valid
  good := good_attachDefault h.good target
  default _ found := by cases found; rfl

/-- Asking keeps a router well-formed. -/
theorem Upkeep.wellFormed {r r' : Router τ σ} (upkeep : Upkeep r r') (h : r.WellFormed) :
    r'.WellFormed where
  valid := by rw [upkeep.policy]; exact h.valid
  good := upkeep.good h.good
  default route' found := by
    have after : r'.route? .default = some route' := found
    obtain ⟨route, before, same⟩ := upkeep.route? after
    rw [← same]
    exact h.default route before

theorem wellFormed_select {r : Router τ σ} (h : r.WellFormed) (start : Nat) (remaining : Text) :
    (r.select start remaining).answer.2.WellFormed :=
  (r.upkeep_select start remaining).wellFormed h

end Made

/-! ## Asking the routes in an order -/

theorem mem_circle {origin n index : Nat} : index ∈ circle origin n ↔ index < n := by
  rw [circle, List.mem_map]
  constructor
  · rintro ⟨offset, member, rfl⟩
    exact Nat.mod_lt _ (Nat.zero_lt_of_lt (List.mem_range.1 member))
  · intro below
    have turn : origin % n < n := Nat.mod_lt _ (Nat.zero_lt_of_lt below)
    -- once around at the most
    by_cases ahead : origin % n ≤ index
    · refine ⟨index - origin % n, List.mem_range.2 (by omega), ?_⟩
      rw [Nat.add_mod, Nat.mod_eq_of_lt (a := index - origin % n) (by omega)]
      rw [Nat.add_sub_cancel' ahead, Nat.mod_eq_of_lt below]
    · refine ⟨n + index - origin % n, List.mem_range.2 (by omega), ?_⟩
      rw [Nat.add_mod, Nat.mod_eq_of_lt (a := n + index - origin % n) (by omega)]
      rw [Nat.add_sub_cancel' (by omega), Nat.add_mod_left, Nat.mod_eq_of_lt below]

/-- Every route is asked, whatever the order. -/
theorem mem_order {r : Router τ σ} {start index : Nat} :
    index ∈ r.order start ↔ index < r.routes.length := by
  unfold order
  cases r.policy.preference with
  | best | first => exact List.mem_range
  | last => rw [List.mem_reverse, List.mem_range]
  | next | random => exact mem_circle

variable [ScoreNumber σ] {required : σ}

/-- What is best among the routes matches, or was best before them. -/
theorem exists_of_bestRated {remaining : Text} {routes : List (Route τ)}
    (good : ∀ route ∈ routes, route.template.Good) {best : Option (σ × Nat)} {index selected : Nat}
    (h : (bestRated required remaining best index routes).answer.1 = some selected) :
    (∃ rating, best = some (rating, selected)) ∨
      ∃ offset, selected = index + offset ∧ matchesAt routes remaining offset = true := by
  induction routes generalizing best index with
  | nil =>
      obtain ⟨⟨rating, _⟩, found, rfl⟩ := Option.map_eq_some_iff.1 h
      exact Or.inl ⟨rating, found⟩
  | cons route routes ih =>
      simp only [bestRated, Logged.answer_bind,
        Route.rate?_answer (good route List.mem_cons_self)] at h
      rcases ih (fun route member => good route (List.mem_cons_of_mem _ member)) h with
        ⟨rating, found⟩ | ⟨offset, rfl, later⟩
      · cases here : route.template.template.matchedSize? remaining with
        | none => exact Or.inl ⟨rating, by simpa [here, betterRating] using found⟩
        | some n =>
            rw [here, Option.map_some, betterRating] at found
            split at found
            · obtain ⟨-, rfl⟩ := Prod.mk.inj (Option.some.inj found)
              exact Or.inr ⟨0, rfl, by simp [matchesAt, Route.isMatch, here]⟩
            · exact Or.inl ⟨rating, found⟩
      · exact Or.inr ⟨offset + 1, by omega, later⟩

/-- Where the best is preferred, all routes are asked for their rating. -/
theorem selectAttached_answer_best {r : Router τ σ} (best : r.policy.preference = .best)
    (start : Nat) (remaining : Text) :
    (r.selectAttached start remaining).answer.1 =
      (bestRated r.policy.requiredScore remaining none 0 r.routes).answer.1 := by
  unfold selectAttached
  rw [best]
  rfl

variable [RoundedScore σ]

/-- The first route in the order that matches is the first that accepts. -/
theorem firstAccepting_answer (kept : RoundedScore.Kept required)
    (valid : Score.inRange required = true) (remaining : Text) (order : List Nat)
    {routes : List (Route τ)} (good : ∀ route ∈ routes, route.template.Good) :
    (firstAccepting required remaining order routes).answer.1 =
      order.find? (matchesAt routes remaining) := by
  induction order generalizing routes with
  | nil => rfl
  | cons index order ih =>
      unfold firstAccepting
      rw [List.find?_cons]
      cases found : routes[index]? with
      | none =>
          have noMatch : matchesAt routes remaining index = false := by simp [matchesAt, found]
          rw [noMatch]
          exact ih good
      | some route =>
          have asked := Route.accepts_answer (good route (List.mem_of_getElem? found)) kept valid
            remaining
          have put : Upkept routes (routes.set index route.prepared) := .set found
          have here : matchesAt routes remaining index = route.isMatch remaining := by
            simp [matchesAt, found]
          simp only [Logged.answer_bind, asked, here]
          cases route.isMatch remaining with
          | true => rfl
          | false =>
              simp only [Bool.false_eq_true, if_false]
              rw [ih (put.2 good), matchesAt_of_upkept put]

/-- There is a best if there was one before, or if a route matches. -/
theorem isSome_bestRated (kept : RoundedScore.Kept required)
    (valid : Score.inRange required = true) {remaining : Text} {routes : List (Route τ)}
    (good : ∀ route ∈ routes, route.template.Good) {best : Option (σ × Nat)} (index : Nat)
    (h : best.isSome = true ∨ ∃ route ∈ routes, route.isMatch remaining = true) :
    (bestRated required remaining best index routes).answer.1.isSome = true := by
  induction routes generalizing best index with
  | nil =>
      rcases h with h | ⟨_, member, -⟩
      · rw [bestRated, Logged.answer_pure, Option.isSome_map, h]
      · cases member
  | cons route routes ih =>
      simp only [bestRated, Logged.answer_bind,
        Route.rate?_answer (good route List.mem_cons_self)]
      apply ih fun route member => good route (List.mem_cons_of_mem _ member)
      cases here : route.template.template.matchedSize? remaining with
      | none =>
          rcases h with h | ⟨other, member, found⟩
          · exact Or.inl h
          · rcases List.mem_cons.1 member with rfl | member
            · rw [Route.isMatch, here] at found
              cases found
            · exact Or.inr ⟨other, member, found⟩
      | some n =>
          left
          have reached := RoundedScore.required_le_rate kept valid n remaining
          rw [Option.map_some, betterRating, reached, Bool.true_and]
          -- nothing stands in the way of a rating but a better one
          cases best with
          | none => rfl
          | some best =>
              split
              · rfl
              · rfl

/-! ## One selection -/

theorem selectAttached_answer {r : Router τ σ} (wellFormed : r.WellFormed)
    (kept : RoundedScore.Kept r.policy.requiredScore)
    (ordered : r.policy.preference ≠ .best) (start : Nat) (remaining : Text) :
    (r.selectAttached start remaining).answer.1 =
      (r.order start).find? (matchesAt r.routes remaining) := by
  rw [← firstAccepting_answer kept wellFormed.valid remaining (r.order start) wellFormed.good.1]
  unfold selectAttached
  split
  · contradiction
  · rfl
  · rfl

/-- A position is selected if one matches, whatever is preferred. -/
theorem isSome_selectAttached {r : Router τ σ} (wellFormed : r.WellFormed)
    (kept : RoundedScore.Kept r.policy.requiredScore) {start : Nat} {remaining : Text}
    (h : ∃ route ∈ r.routes, route.isMatch remaining = true) :
    (r.selectAttached start remaining).answer.1.isSome = true := by
  by_cases best : r.policy.preference = .best
  · rw [selectAttached_answer_best best]
    exact isSome_bestRated kept wellFormed.valid wellFormed.good.1 0 (Or.inr h)
  · obtain ⟨index, here⟩ := exists_matchesAt.2 h
    rw [selectAttached_answer wellFormed kept best, List.find?_isSome]
    exact ⟨index, mem_order.2 (lt_length_of_matchesAt here), here⟩

/-- The position that is selected matches, whatever is preferred. -/
theorem matchesAt_of_selectAttached {r : Router τ σ} (wellFormed : r.WellFormed)
    (kept : RoundedScore.Kept r.policy.requiredScore) {start index : Nat} {remaining : Text}
    (h : (r.selectAttached start remaining).answer.1 = some index) :
    matchesAt r.routes remaining index = true := by
  by_cases best : r.policy.preference = .best
  · rw [selectAttached_answer_best best] at h
    rcases exists_of_bestRated wellFormed.good.1 h with ⟨_, found⟩ | ⟨offset, rfl, here⟩
    · cases found
    · rw [Nat.zero_add]
      exact here
  · rw [selectAttached_answer wellFormed kept best] at h
    exact List.find?_some h

/-- The default route is never refused. -/
theorem selectDefault_answer {r : Router τ σ} (wellFormed : r.WellFormed)
    (kept : RoundedScore.Kept r.policy.requiredScore) (remaining : Text) :
    (r.selectDefault remaining).answer.1 =
      if r.default.isSome then some .default else none := by
  unfold selectDefault
  cases found : r.default with
  | none => rfl
  | some route =>
      have fits : route.isMatch remaining = true := by
        rw [Route.isMatch, wellFormed.default route found, Template.matchedSize?_default]
        rfl
      have good := wellFormed.good.2 route (Option.mem_toList.2 found)
      have asked := Route.accepts_answer good kept wellFormed.valid remaining
      simp only [Logged.answer_bind, asked, fits]
      rfl

theorem select_answer {r : Router τ σ} (wellFormed : r.WellFormed)
    (kept : RoundedScore.Kept r.policy.requiredScore) (start : Nat) (remaining : Text) :
    (r.select start remaining).answer.1 =
      ((r.selectAttached start remaining).answer.1.map .attached).or
        (if r.default.isSome then some .default else none) := by
  have upkeep := r.upkeep_selectAttached start remaining
  unfold select
  simp only [Logged.answer_bind]
  cases (r.selectAttached start remaining).answer.1 with
  | some index => rfl
  | none =>
      rw [← upkeep.isSome_default]
      apply selectDefault_answer (upkeep.wellFormed wellFormed)
      rw [upkeep.policy]
      exact kept

/-- The first position that matches at or behind `origin`, around in a circle. -/
def FirstFrom (routes : List (Route τ)) (remaining : Text) (origin index : Nat) : Prop :=
  ∃ offset < routes.length, index = (origin + offset) % routes.length ∧
    ∀ earlier < offset, matchesAt routes remaining ((origin + earlier) % routes.length) = false

omit [ScoreNumber σ] [RoundedScore σ] in
theorem firstFrom_of_find? {routes : List (Route τ)} {remaining : Text} {origin index : Nat}
    (h : (circle origin routes.length).find? (matchesAt routes remaining) = some index) :
    FirstFrom routes remaining origin index := by
  rw [circle, List.find?_map] at h
  obtain ⟨offset, found, rfl⟩ := Option.map_eq_some_iff.1 h
  obtain ⟨-, below, before⟩ := List.find?_range_eq_some.1 found
  refine ⟨offset, List.mem_range.1 below, rfl, ?_⟩
  intro earlier lt
  simpa using before earlier lt

/-- From the back, the positions behind the first that matches do not. -/
theorem not_matchesAt_of_find?_reverse {routes : List (Route τ)} {remaining : Text} {index : Nat}
    (h : (List.range routes.length).reverse.find? (matchesAt routes remaining) = some index) :
    ∀ later > index, matchesAt routes remaining later = false := by
  intro later behind
  by_cases below : later < routes.length
  · obtain ⟨-, asked, bound, rfl, before⟩ := List.find?_eq_some_iff_getElem.1 h
    rw [List.getElem_reverse, List.getElem_range] at behind
    rw [List.length_reverse, List.length_range] at bound
    rw [List.length_range] at behind
    have refused := before (routes.length - 1 - later) (by omega)
    rw [List.getElem_reverse, List.getElem_range, List.length_range] at refused
    have same : routes.length - 1 - (routes.length - 1 - later) = later := by omega
    simpa [same] using refused
  · rw [Bool.eq_false_iff]
    intro here
    exact below (lt_length_of_matchesAt here)

/-- What is selected for a text, `start` being the position that was drawn at random. -/
structure Selects (r : Router τ σ) (start : Nat) (remaining : Text)
    (selected : Option Selection) : Prop where
  /-- An attached route is selected if there is one that matches. -/
  attached : (∃ index, selected = some (.attached index)) ↔
    ∃ route ∈ r.routes, route.isMatch remaining = true
  /-- The attached route that is selected matches. -/
  fits : ∀ index, selected = some (.attached index) → matchesAt r.routes remaining index = true
  first : r.policy.preference = .first → ∀ index, selected = some (.attached index) →
    ∀ earlier < index, matchesAt r.routes remaining earlier = false
  last : r.policy.preference = .last → ∀ index, selected = some (.attached index) →
    ∀ later > index, matchesAt r.routes remaining later = false
  next : r.policy.preference = .next → ∀ index, selected = some (.attached index) →
    FirstFrom r.routes remaining r.cursor index
  random : r.policy.preference = .random → ∀ index, selected = some (.attached index) →
    FirstFrom r.routes remaining start index
  /-- The default route stands in for all texts that no attached route matches. -/
  fallback : (∀ route ∈ r.routes, route.isMatch remaining = false) →
    selected = if r.default.isSome then some .default else none

theorem select_eq_attached_iff {r : Router τ σ} (wellFormed : r.WellFormed)
    (kept : RoundedScore.Kept r.policy.requiredScore) {start index : Nat} {remaining : Text} :
    (r.select start remaining).answer.1 = some (.attached index) ↔
      (r.selectAttached start remaining).answer.1 = some index := by
  rw [select_answer wellFormed kept]
  cases (r.selectAttached start remaining).answer.1 with
  | some i => simp
  | none => cases h : r.default.isSome <;> simp

/-- Where all is not asked for the best, what is selected is the first match in the order. -/
theorem find?_order_of_select {r : Router τ σ} (wellFormed : r.WellFormed)
    (kept : RoundedScore.Kept r.policy.requiredScore)
    (ordered : r.policy.preference ≠ .best) {start index : Nat} {remaining : Text}
    (h : (r.select start remaining).answer.1 = some (.attached index)) :
    (r.order start).find? (matchesAt r.routes remaining) = some index := by
  rw [← selectAttached_answer wellFormed kept ordered]
  exact (select_eq_attached_iff wellFormed kept).1 h

theorem selects_select {r : Router τ σ} (wellFormed : r.WellFormed)
    (kept : RoundedScore.Kept r.policy.requiredScore) (start : Nat) (remaining : Text) :
    r.Selects start remaining (r.select start remaining).answer.1 := by
  have fits : ∀ index, (r.select start remaining).answer.1 = some (.attached index) →
      matchesAt r.routes remaining index = true := by
    intro index selected
    exact matchesAt_of_selectAttached wellFormed kept
      ((select_eq_attached_iff wellFormed kept).1 selected)
  constructor
  case attached =>
    constructor
    · rintro ⟨index, selected⟩
      exact exists_matchesAt.1 ⟨index, fits index selected⟩
    · intro some
      obtain ⟨index, selected⟩ :=
        Option.isSome_iff_exists.1 (isSome_selectAttached wellFormed kept some)
      exact ⟨index, (select_eq_attached_iff wellFormed kept).2 selected⟩
  case fits => exact fits
  case first =>
    intro preference index selected earlier lt
    have found := find?_order_of_select wellFormed kept (by simp [preference]) selected
    simp only [order, preference] at found
    simpa using (List.find?_range_eq_some.1 found).2.2 earlier lt
  case last =>
    intro preference index selected
    have found := find?_order_of_select wellFormed kept (by simp [preference]) selected
    simp only [order, preference] at found
    exact not_matchesAt_of_find?_reverse found
  case next =>
    intro preference index selected
    have found := find?_order_of_select wellFormed kept (by simp [preference]) selected
    simp only [order, preference] at found
    exact firstFrom_of_find? found
  case random =>
    intro preference index selected
    have found := find?_order_of_select wellFormed kept (by simp [preference]) selected
    simp only [order, preference] at found
    exact firstFrom_of_find? found
  case fallback =>
    intro refused
    rw [select_answer wellFormed kept]
    cases attached : (r.selectAttached start remaining).answer.1 with
    | none => rfl
    | some index =>
        have here := matchesAt_of_selectAttached wellFormed kept attached
        rw [matchesAt_eq_false refused index] at here
        cases here

/-- The router with another score that is required. -/
def requiring (r : Router τ σ) (required : σ) : Router τ σ :=
  { r with policy := { r.policy with requiredScore := required } }

omit [RoundedScore σ] in
theorem WellFormed.requiring {r : Router τ σ} (h : r.WellFormed)
    (valid : Score.inRange required = true) : (r.requiring required).WellFormed where
  valid := valid
  good := h.good
  default := h.default

/-- The required score decides nothing but what is best. -/
theorem select_requiring {r : Router τ σ} (wellFormed : r.WellFormed)
    (kept : RoundedScore.Kept r.policy.requiredScore)
    (ordered : r.policy.preference ≠ .best) (keptToo : RoundedScore.Kept required)
    (valid : Score.inRange required = true) (start : Nat) (remaining : Text) :
    ((r.requiring required).select start remaining).answer.1 =
      (r.select start remaining).answer.1 := by
  have wellFormedToo := wellFormed.requiring valid
  rw [select_answer wellFormed kept, select_answer wellFormedToo keptToo,
    selectAttached_answer wellFormed kept ordered,
    selectAttached_answer wellFormedToo keptToo ordered]
  rfl

/-- Behind an attached default a text that no attached route matches is led to the default. -/
theorem select_attachDefault {r : Router τ σ} (wellFormed : r.WellFormed)
    (kept : RoundedScore.Kept r.policy.requiredScore) (start : Nat) {remaining : Text}
    (idle : ∀ route ∈ r.routes, route.isMatch remaining = false) (target : τ) :
    ((r.attachDefault target).select start remaining).answer.1 = some .default ∧
      ((r.attachDefault target).select start remaining).answer.2.default.map (·.target) =
        some target := by
  have selects := selects_select (wellFormed.attachDefault target) kept start remaining
  have upkeep := (r.attachDefault target).upkeep_select start remaining
  exact ⟨selects.fallback idle, upkeep.map_target .default⟩

/-- **A selection is the preferred match:** what a router selects, it selects among the routes
that match and by its preference; every route that matches is accepted; unless the best is
preferred, no other score that could be required changes what is selected; and once a default is
attached, it is what is selected for a text that no attached route matches. -/
theorem select_selects {r : Router τ σ} (wellFormed : r.WellFormed)
    (kept : RoundedScore.Kept r.policy.requiredScore) (start : Nat) (remaining : Text) :
    r.Selects start remaining (r.select start remaining).answer.1 ∧
      (∀ route ∈ r.routes, route.isMatch remaining = true →
        (route.accepts remaining r.policy.requiredScore).answer.1 = true) ∧
      (r.policy.preference ≠ .best → ∀ required : σ, RoundedScore.Kept required →
        Score.inRange required = true →
          ((r.requiring required).select start remaining).answer.1 =
            (r.select start remaining).answer.1) ∧
      ((∀ route ∈ r.routes, route.isMatch remaining = false) → ∀ target : τ,
        ((r.attachDefault target).select start remaining).answer.1 = some .default ∧
          ((r.attachDefault target).select start remaining).answer.2.default.map (·.target) =
            some target) := by
  refine ⟨selects_select wellFormed kept start remaining, ?_, ?_, ?_⟩
  · intro route member fits
    rw [Route.accepts_answer (wellFormed.good.1 route member) kept wellFormed.valid]
    exact fits
  · intro ordered required keptToo valid
    exact select_requiring wellFormed kept ordered keptToo valid start remaining
  · intro idle target
    exact select_attachDefault wellFormed kept start idle target

namespace Example

/-- Rounds down to hundredths. -/
def hundredths : Rounding where
  round q := (⌊q * 100⌋ : ℚ) / 100
  monotone a b le := by
    have floors : ⌊a * 100⌋ ≤ ⌊b * 100⌋ := Int.floor_mono (by linarith)
    have casts : (⌊a * 100⌋ : ℚ) ≤ ⌊b * 100⌋ := Int.cast_le.2 floors
    show (⌊a * 100⌋ : ℚ) / 100 ≤ (⌊b * 100⌋ : ℚ) / 100
    linarith
  round_zero := by norm_num
  round_one := by norm_num

/-- Two routes in turn, a third of the score being required, rounded. -/
def inTurn : Router Nat hundredths.Number :=
  ((ofPolicy ⟨.next, ⟨33 / 100⟩⟩).attach "/a".toList 0).attach "/b".toList 1

theorem wellFormed_inTurn : inTurn.WellFormed :=
  ((wellFormed_ofPolicy (by decide +kernel)).attach _ _).attach _ _

end Example

theorem select_selects_inTurn :
    (Example.inTurn.select 0 "/b/c".toList).answer.1 = some (.attached 1) ∧
      Example.inTurn.Selects 0 "/b/c".toList (some (.attached 1)) ∧
      ((Example.inTurn.attachDefault 2).select 0 "/c".toList).answer.1 = some .default ∧
      ((Example.inTurn.attachDefault 2).select 0 "/c".toList).answer.2.default.map (·.target) =
        some 2 := by
  have selected : (Example.inTurn.select 0 "/b/c".toList).answer.1 = some (.attached 1) := by
    decide +kernel
  have kept : RoundedScore.Kept Example.inTurn.policy.requiredScore := by
    unfold RoundedScore.Kept
    decide +kernel
  have wellFormed := Example.wellFormed_inTurn
  refine ⟨selected, ?_, ?_⟩
  · rw [← selected]
    exact (select_selects wellFormed kept 0 "/b/c".toList).1
  · obtain ⟨-, -, -, behind⟩ := select_selects wellFormed kept 0 "/c".toList
    exact behind (by decide +kernel) 2

end Router
end UriRouting
