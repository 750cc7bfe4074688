/-
# UriRouting.Proofs.Resolution — resolving is selecting

A resolution selects a route, by which the cursor has moved already, and only then asks it to
take the text apart.  Behind the selection there are two ways left to come to nothing: the
router may hold no such route, or the route may not parse what it was selected for.  Neither
is ever taken.  A route that is selected was asked for its match, and it had one
(`Router.exists_found_of_select`); no score has a part in that, as what does not match is not
rated at all.  From this question on the route keeps its matcher, so the second one leaves the
router as it is (`Router.resolve_answer`).

Parsing ends where matching does, at the end of a split, and so between two characters
(`Resolution.Splits`).  With the cursor, which only a turn moves (`Router.cursor_select`),
this is all there is to say of a resolution (`Router.resolve_select`).
-/
import UriRouting.Proofs.Selection

namespace UriRouting

set_option autoImplicit false

/-- The position of the attached route that was selected. -/
def turn? : Option Selection → Option Nat
  | some (.attached index) => some index
  | _ => none

theorem turn?_eq_some_iff {selected : Option Selection} {index : Nat} :
    turn? selected = some index ↔ selected = some (.attached index) := by
  rcases selected with - | ⟨_ | _⟩ <;> simp [turn?]

theorem turn?_eq_none_iff {selected : Option Selection} :
    turn? selected = none ↔ ∀ index, selected ≠ some (.attached index) := by
  rcases selected with - | ⟨_ | _⟩ <;> simp [turn?]

/-- The text is taken apart by the template: what is matched is all that the template matches,
with the values that it parses, and nothing of the text is lost. -/
structure Resolution.Splits (resolved : Resolution) (template : Template) (remaining : Text) :
    Prop where
  whole : resolved.matched ++ resolved.remaining = remaining
  size : template.matchedSize? remaining = some (Text.size resolved.matched)
  parsed : template.parse? remaining = some ⟨Text.size resolved.matched, resolved.bindings⟩

namespace Resolution.Splits

variable {resolved : Resolution} {template : Template} {remaining : Text}

theorem size_le (h : resolved.Splits template remaining) :
    Text.size resolved.matched ≤ Text.size remaining := by
  rw [← h.whole, Text.size_append]
  exact Nat.le_add_right _ _

/-- The template of a default route takes nothing off the text. -/
theorem of_default (h : resolved.Splits Template.default remaining) :
    resolved.matched = [] ∧ resolved.remaining = remaining := by
  have size := h.size
  rw [Template.matchedSize?_default] at size
  have empty : resolved.matched = [] := by
    by_contra nonempty
    have pos := Text.size_pos nonempty
    have zero : 0 = Text.size resolved.matched := Option.some.inj size
    omega
  refine ⟨empty, ?_⟩
  have whole := h.whole
  rwa [empty, List.nil_append] at whole

end Resolution.Splits

/-- What is parsed takes the text apart: it ends between two characters. -/
theorem Router.splits_resolution {template : Template} {remaining : Text} {parsed : Parsed}
    (h : template.parse? remaining = some parsed) (selection : Selection) :
    (resolution selection remaining parsed).Splits template remaining := by
  obtain ⟨s, -, matched, rfl⟩ := Template.exists_matched_of_parse? h
  have cut : resolution selection remaining ⟨s.size, s.bindings⟩ =
      ⟨selection, s.front, s.rest, s.bindings⟩ := by
    rw [resolution, s.splitAt_size]
  rw [cut]
  exact ⟨s.whole.symm, Template.matchedSize?_of_matched matched, h⟩

variable {τ σ : Type}

namespace Route

/-- The route was asked, so it keeps its matcher, and it matches. -/
structure Found (r : Route τ) (remaining : Text) : Prop where
  fits : r.isMatch remaining = true
  asked : r.prepared = r

theorem found_prepared {r : Route τ} {remaining : Text} (fits : r.isMatch remaining = true) :
    r.prepared.Found remaining where
  fits := by
    rw [isMatch, template_of_fresh_eq r.fresh_prepared]
    exact fits
  asked := by
    rw [prepared, prepared, CachedTemplate.prepare_prepare]

/-- Nothing is accepted that does not match, so no score has to be looked at. -/
theorem found_of_accepts [ScoreNumber σ] {r : Route τ} (good : r.template.Good)
    {remaining : Text} {required : σ} (h : (r.accepts remaining required).answer.1 = true) :
    r.prepared.Found remaining := by
  simp only [accepts, Logged.answer_bind, Logged.answer_pure, rate?_answer good] at h
  apply found_prepared
  cases fits : r.template.template.matchedSize? remaining with
  | none =>
      rw [fits] at h
      cases h
  | some n => rw [isMatch, fits, Option.isSome_some]

end Route

namespace Router

variable [ScoreNumber σ]

/-! ## What is selected was asked -/

theorem exists_found_of_firstAccepting {required : σ} {remaining : Text} {order : List Nat}
    {routes : List (Route τ)} (good : ∀ route ∈ routes, route.template.Good) {index : Nat}
    (h : (firstAccepting required remaining order routes).answer.1 = some index) :
    ∃ route, (firstAccepting required remaining order routes).answer.2[index]? = some route ∧
      route.Found remaining := by
  induction order generalizing routes with
  | nil => cases h
  | cons position order ih =>
      unfold firstAccepting at h ⊢
      cases there : routes[position]? with
      | none =>
          rw [there] at h
          exact ih good h
      | some route =>
          have kept := good route (List.mem_of_getElem? there)
          have put : Upkept routes (routes.set position route.prepared) := .set there
          simp only [there, Logged.answer_bind] at h ⊢
          cases accepted : (route.accepts remaining required).answer.1 with
          | true =>
              rw [accepted] at h
              cases h
              have bound := (List.getElem?_eq_some_iff.1 there).1
              refine ⟨route.prepared, ?_, Route.found_of_accepts kept accepted⟩
              exact List.getElem?_set_self bound
          | false =>
              rw [accepted] at h
              exact ih (put.2 good) h

/-- All routes are asked for the best rating. -/
theorem bestRated_routes (required : σ) (remaining : Text) (best : Option (σ × Nat))
    (index : Nat) (routes : List (Route τ)) :
    (bestRated required remaining best index routes).answer.2 = routes.map Route.prepared := by
  induction routes generalizing best index with
  | nil => rfl
  | cons route routes ih => exact congrArg (route.prepared :: ·) (ih _ _)

theorem exists_found_of_selectAttached {r : Router τ σ} (good : r.Good) {start index : Nat}
    {remaining : Text} (h : (r.selectAttached start remaining).answer.1 = some index) :
    ∃ route, (r.selectAttached start remaining).answer.2.routes[index]? = some route ∧
      route.Found remaining := by
  unfold selectAttached at h ⊢
  split
  · rename_i best
    rw [best] at h
    rcases exists_of_bestRated good.1 h with ⟨_, none⟩ | ⟨offset, same, here⟩
    · cases none
    · obtain ⟨route, there, fits⟩ := matchesAt_iff.1 here
      obtain rfl : index = offset := by rw [same, Nat.zero_add]
      refine ⟨route.prepared, ?_, Route.found_prepared fits⟩
      have asked := bestRated_routes r.policy.requiredScore remaining none 0 r.routes
      simp only [Logged.answer_bind, Logged.answer_pure, asked, List.getElem?_map, there,
        Option.map_some]
  · rename_i next
    rw [next] at h
    exact exists_found_of_firstAccepting good.1 h
  · rename_i notBest notNext
    split at h
    · contradiction
    · contradiction
    · exact exists_found_of_firstAccepting good.1 h

theorem exists_found_of_selectDefault {r : Router τ σ} (good : r.Good) {remaining : Text}
    {selection : Selection} (h : (r.selectDefault remaining).answer.1 = some selection) :
    ∃ route, (r.selectDefault remaining).answer.2.route? selection = some route ∧
      route.Found remaining := by
  unfold selectDefault at h ⊢
  cases there : r.default with
  | none =>
      rw [there] at h
      cases h
  | some route =>
      have kept := good.2 route (Option.mem_toList.2 there)
      simp only [there, Logged.answer_bind, Logged.answer_pure] at h ⊢
      split at h
      · rename_i accepted
        cases h
        exact ⟨route.prepared, rfl, Route.found_of_accepts kept accepted⟩
      · cases h

/-- A router holds the route that it selects, which was asked and matches. -/
theorem exists_found_of_select {r : Router τ σ} (good : r.Good) {start : Nat} {remaining : Text}
    {selection : Selection} (h : (r.select start remaining).answer.1 = some selection) :
    ∃ route, (r.select start remaining).answer.2.route? selection = some route ∧
      route.Found remaining := by
  have upkeep := r.upkeep_selectAttached start remaining
  unfold select at h ⊢
  simp only [Logged.answer_bind] at h ⊢
  cases selected : (r.selectAttached start remaining).answer.1 with
  | some index =>
      rw [selected] at h
      cases h
      exact exists_found_of_selectAttached good selected
  | none =>
      rw [selected] at h
      exact exists_found_of_selectDefault (upkeep.good good) h

/-! ## The cursor -/

theorem cursor_selectAttached {r : Router τ σ} (next : r.policy.preference = .next) (start : Nat)
    (remaining : Text) : (r.selectAttached start remaining).answer.2.cursor =
      ((r.selectAttached start remaining).answer.1.map (· + 1)).getD r.cursor := by
  unfold selectAttached
  rw [next]
  rfl

/-- The default route takes no turn. -/
theorem selectDefault_takes_no_turn (r : Router τ σ) (remaining : Text) :
    turn? (r.selectDefault remaining).answer.1 = none ∧
      (r.selectDefault remaining).answer.2.cursor = r.cursor := by
  unfold selectDefault
  cases r.default with
  | none => exact ⟨rfl, rfl⟩
  | some route =>
      simp only [Logged.answer_bind]
      split
      · exact ⟨rfl, rfl⟩
      · exact ⟨rfl, rfl⟩

theorem cursor_select {r : Router τ σ} (next : r.policy.preference = .next) (start : Nat)
    (remaining : Text) : (r.select start remaining).answer.2.cursor =
      ((turn? (r.select start remaining).answer.1).map (· + 1)).getD r.cursor := by
  have moved := cursor_selectAttached next start remaining
  unfold select
  simp only [Logged.answer_bind]
  split
  · rename_i index selected
    rw [selected] at moved
    exact moved
  · rename_i selected
    rw [selected] at moved
    obtain ⟨noTurn, stays⟩ :=
      selectDefault_takes_no_turn (r.selectAttached start remaining).answer.2 remaining
    rw [noTurn, stays]
    exact moved

/-! ## Resolving -/

omit [ScoreNumber σ] in
/-- A route that is put where it is changes nothing. -/
theorem setRoute_self {r : Router τ σ} {selection : Selection} {route : Route τ}
    (found : r.route? selection = some route) : r.setRoute selection route = r := by
  cases selection with
  | attached index =>
      obtain ⟨bound, rfl⟩ := List.getElem?_eq_some_iff.1 found
      rw [setRoute, List.set_getElem_self]
  | default => rw [setRoute, ← show r.default = some route from found]

/-- Resolving gives the route that is selected, as what a route is selected for it parses, and
leaves no more behind, as the route keeps its matcher already. -/
theorem resolve_answer {r : Router τ σ} (good : r.Good) (start : Nat) (remaining : Text) :
    (r.resolve start remaining).answer.1.map Resolution.selection =
        (r.select start remaining).answer.1 ∧
      (r.resolve start remaining).answer.2 = (r.select start remaining).answer.2 := by
  have upkeep := r.upkeep_select start remaining
  have found : ∀ selection, (r.select start remaining).answer.1 = some selection →
      ∃ route, (r.select start remaining).answer.2.route? selection = some route ∧
        route.Found remaining := fun _ => exists_found_of_select good
  unfold resolve
  simp only [Logged.answer_bind]
  generalize (r.select start remaining).answer = selected at upkeep found
  obtain ⟨selected, r'⟩ := selected
  cases selected with
  | none => exact ⟨rfl, rfl⟩
  | some selection =>
      obtain ⟨route, there, fits, asked⟩ := found selection rfl
      have parsed := Template.isSome_parse? route.template.template remaining
      rw [show (route.template.template.matchedSize? remaining).isSome = true from fits] at parsed
      obtain ⟨parsed, read⟩ := Option.isSome_iff_exists.1 parsed
      have parse := CachedTemplate.parse?_answer ((upkeep.good good).route there) remaining
      have unchanged : r'.setRoute selection route.prepared = r' := by
        rw [asked, setRoute_self there]
      simp only [Option.bind_some, there, Option.map_some, Logged.answer_bind, parse, read]
      exact ⟨rfl, unchanged⟩

theorem exists_splits_of_resolve {r : Router τ σ} (good : r.Good) {start : Nat}
    {remaining : Text} {resolved : Resolution}
    (h : (r.resolve start remaining).answer.1 = some resolved) :
    ∃ route, r.route? resolved.selection = some route ∧
      resolved.Splits route.template.template remaining := by
  obtain ⟨route, parsed, there, read, same⟩ := exists_parse_of_resolve good h
  refine ⟨route, there, ?_⟩
  rw [same]
  exact splits_resolution read _

/-- **Resolving is selecting, with the text taken apart.**  It gives a route exactly if one is
selected, the same one, and leaves the router as selecting does; so a turn that it takes is
one that was given, and without a route the cursor stays.  What was matched is what the
template of the route matches, all of it, and ends between two characters; a default route
takes nothing. -/
theorem resolve_select {r : Router τ σ} (good : r.Good)
    (standIn : ∀ route, r.default = some route → route.template.template = Template.default)
    (start : Nat) (remaining : Text) :
    (r.resolve start remaining).answer.1.map Resolution.selection =
        (r.select start remaining).answer.1 ∧
      (r.resolve start remaining).answer.2 = (r.select start remaining).answer.2 ∧
      (r.policy.preference = .next → (r.resolve start remaining).answer.2.cursor =
        ((turn? ((r.resolve start remaining).answer.1.map Resolution.selection)).map
          (· + 1)).getD r.cursor) ∧
      ∀ resolved, (r.resolve start remaining).answer.1 = some resolved →
        (∃ route, r.route? resolved.selection = some route ∧
          resolved.Splits route.template.template remaining) ∧
        Text.size resolved.matched ≤ Text.size remaining ∧
        (resolved.selection = .default →
          resolved.matched = [] ∧ resolved.remaining = remaining) := by
  obtain ⟨same, state⟩ := resolve_answer good start remaining
  refine ⟨same, state, ?_, ?_⟩
  · intro next
    rw [same, state]
    exact cursor_select next start remaining
  · intro resolved h
    obtain ⟨route, there, splits⟩ := exists_splits_of_resolve good h
    refine ⟨⟨route, there, splits⟩, splits.size_le, ?_⟩
    intro default
    rw [default] at there
    rw [standIn route there] at splits
    exact splits.of_default

namespace Example

/-- A word that comes back, in letters beyond ASCII too. -/
def words : Template where
  pattern := "/\x7bx\x7d-\x7bx\x7d".toList
  mode := .startsWith
  descriptors := .ofList [("x".toList, .ofKind .word)]

/-- Routes that have their turns, of which the first has had one already, and a default. -/
def accented : Router Unit ℚ :=
  let made : Router Unit ℚ :=
    (((ofPolicy ⟨.next, 1 / 2⟩).attach "/n".toList ()).attachTemplate words ()).attachDefault ()
  (made.select 0 "/né".toList).answer.2

def takenApart : Resolution :=
  ⟨.attached 1, "/né-né".toList, "/ß".toList, .ofList [("x".toList, "né".toList)]⟩

end Example

theorem resolve_select_accented :
    (Example.accented.resolve 0 "/né-né/ß".toList).answer.1 = some Example.takenApart ∧
      (Example.accented.select 0 "/né-né/ß".toList).answer.1 = some (.attached 1) ∧
      (Example.accented.resolve 0 "/né-né/ß".toList).answer.2.cursor = 2 ∧
      ∃ route, Example.accented.route? (.attached 1) = some route ∧
        Example.takenApart.Splits route.template.template "/né-né/ß".toList := by
  have made : Example.accented.WellFormed :=
    wellFormed_select ((((wellFormed_ofPolicy (by decide +kernel)).attach _ _).attachTemplate
      _ _).attachDefault _) 0 _
  obtain ⟨same, -, cursor, splits⟩ := resolve_select made.good made.default 0 "/né-né/ß".toList
  have resolved : (Example.accented.resolve 0 "/né-né/ß".toList).answer.1 =
      some Example.takenApart := by decide +kernel
  rw [resolved] at same cursor
  obtain ⟨takenApart, -⟩ := splits _ resolved
  exact ⟨resolved, same.symm, cursor (by decide +kernel), takenApart⟩

end Router
end UriRouting
