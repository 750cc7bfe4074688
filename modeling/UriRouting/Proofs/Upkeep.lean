/-
# UriRouting.Proofs.Upkeep — what an answer leaves as it was

A template that is asked may keep its matcher from then on.  `Good` says that what is kept is
what the template stands for: it holds of every path pattern and router that is made, and
each operation keeps it (`PathPattern.good_matching?`, `Router.good_attachRoute`,
`Router.good_resolve`).  Nothing else changes, but for the cursor of a router: `Upkept`
compares two lists of routes without what they keep (`Route.fresh`) and says that good caches
stay good.  Every way of asking is upkeep (`Router.upkept_firstAccepting`,
`Router.upkept_bestRated`), so a selection is, and a resolution (`Router.upkeep_select`,
`Router.upkeep_resolve`).  The route of a selection is the one that was attached, then
(`Router.Upkeep.map_fresh`): it leads to the same target, and its template is what a resolution
takes a text apart by (`Router.exists_parse_of_resolve`).
-/
import UriRouting.Routing.Router

namespace UriRouting

set_option autoImplicit false

theorem CachedTemplate.fresh_prepare (c : CachedTemplate) :
    c.prepare.answer.2.fresh = c.fresh := by
  unfold prepare
  cases c.matcher <;> rfl

/-- What is kept is not made again. -/
theorem CachedTemplate.prepare_prepare (c : CachedTemplate) :
    c.prepare.answer.2.prepare.answer.2 = c.prepare.answer.2 := by
  obtain ⟨template, kept⟩ := c
  cases kept <;> rfl

namespace PathPattern

theorem good_ofPattern (pattern : Text) (descriptors : Dictionary Variable) :
    (ofPattern pattern descriptors).answer.template.Good := fun _ kept => nomatch kept

theorem good_matching? {p : PathPattern} (good : p.template.Good) (path : Text) :
    (p.matching? path).answer.2.template.Good := by
  simp only [matching?, Logged.answer_bind, CachedTemplate.parse?_answer good]
  exact CachedTemplate.good_prepare good

end PathPattern

variable {τ σ : Type}

namespace Route

/-- The same route, with nothing kept. -/
def fresh (r : Route τ) : Route τ := { r with template := r.template.fresh }

/-- The route once it was asked. -/
def prepared (r : Route τ) : Route τ := { r with template := r.template.prepare.answer.2 }

theorem fresh_prepared (r : Route τ) : r.prepared.fresh = r.fresh := by
  simp only [fresh, prepared, CachedTemplate.fresh_prepare]

theorem template_of_fresh_eq {r r' : Route τ} (same : r.fresh = r'.fresh) :
    r.template.template = r'.template.template :=
  congrArg (fun r => r.template.template) same

end Route

/-- Two lists of routes that differ in no more than what is kept, the second as good as the
first. -/
def Upkept (routes routes' : List (Route τ)) : Prop :=
  routes'.map Route.fresh = routes.map Route.fresh ∧
    ((∀ route ∈ routes, route.template.Good) → ∀ route ∈ routes', route.template.Good)

namespace Upkept

variable {routes routes' routes'' : List (Route τ)}

theorem refl (routes : List (Route τ)) : Upkept routes routes := ⟨rfl, id⟩

theorem trans (h : Upkept routes routes') (h' : Upkept routes' routes'') :
    Upkept routes routes'' :=
  ⟨h'.1.trans h.1, fun good => h'.2 (h.2 good)⟩

/-- A route that is asked is put back in its place. -/
theorem set {index : Nat} {route : Route τ} (found : routes[index]? = some route) :
    Upkept routes (routes.set index route.prepared) := by
  obtain ⟨bound, rfl⟩ := List.getElem?_eq_some_iff.1 found
  constructor
  · rw [List.map_set, Route.fresh_prepared]
    apply List.ext_getElem?
    intro i
    by_cases same : index = i
    · subst same
      simp [bound]
    · simp [List.getElem?_set_ne same]
  · intro good route member
    rcases List.mem_or_eq_of_mem_set member with member | rfl
    · exact good route member
    · exact CachedTemplate.good_prepare (good _ (List.getElem_mem bound))

theorem cons (route : Route τ) (h : Upkept routes routes') :
    Upkept (route :: routes) (route.prepared :: routes') := by
  constructor
  · rw [List.map_cons, List.map_cons, Route.fresh_prepared, h.1]
  · intro good route' member
    rcases List.mem_cons.1 member with rfl | member
    · exact CachedTemplate.good_prepare (good route List.mem_cons_self)
    · exact h.2 (fun route member => good route (List.mem_cons_of_mem _ member)) route' member

end Upkept

namespace Router

/-- What is kept anywhere in the router is what its templates stand for. -/
def Good (r : Router τ σ) : Prop :=
  (∀ route ∈ r.routes, route.template.Good) ∧ ∀ route ∈ r.default.toList, route.template.Good

theorem good_ofPolicy (policy : Policy σ) : (ofPolicy policy : Router τ σ).Good := by
  constructor
  · intro route member
    cases member
  · intro route member
    cases member

theorem good_attachRoute {r : Router τ σ} (good : r.Good) {route : Route τ}
    (kept : route.template.Good) : (r.attachRoute route).Good := by
  constructor
  · intro other member
    rcases List.mem_append.1 member with member | member
    · exact good.1 other member
    · cases List.mem_singleton.1 member
      exact kept
  · exact good.2

theorem good_attachTemplate {r : Router τ σ} (good : r.Good) (template : Template) (target : τ) :
    (r.attachTemplate template target).Good :=
  good_attachRoute good fun _ kept => nomatch kept

theorem good_attach {r : Router τ σ} (good : r.Good) (pattern : Text) (target : τ) :
    (r.attach pattern target).Good :=
  good_attachTemplate good { pattern, mode := .startsWith } target

theorem good_attachDefault {r : Router τ σ} (good : r.Good) (target : τ) :
    (r.attachDefault target).Good := by
  constructor
  · exact good.1
  · intro route member
    cases List.mem_singleton.1 member
    intro matcher kept
    cases kept

theorem Good.route {r : Router τ σ} (good : r.Good) {selection : Selection} {route : Route τ}
    (found : r.route? selection = some route) : route.template.Good := by
  cases selection with
  | attached index => exact good.1 route (List.mem_of_getElem? found)
  | default => exact good.2 route (Option.mem_toList.2 found)

/-- The router after a selection: the same but for what is kept, and for the cursor. -/
structure Upkeep (r r' : Router τ σ) : Prop where
  policy : r'.policy = r.policy
  routes : Upkept r.routes r'.routes
  default : Upkept r.default.toList r'.default.toList

theorem Upkeep.good {r r' : Router τ σ} (h : Upkeep r r') (good : r.Good) : r'.Good :=
  ⟨h.routes.2 good.1, h.default.2 good.2⟩

theorem Upkeep.trans {r r' r'' : Router τ σ} (h : Upkeep r r') (h' : Upkeep r' r'') :
    Upkeep r r'' :=
  ⟨h'.policy.trans h.policy, h.routes.trans h'.routes, h.default.trans h'.default⟩

/-- The route of a selection is the one that was attached, but for what is kept. -/
theorem Upkeep.map_fresh {r r' : Router τ σ} (h : Upkeep r r') (selection : Selection) :
    (r'.route? selection).map Route.fresh = (r.route? selection).map Route.fresh := by
  cases selection with
  | attached index =>
      have same := congrArg (·[index]?) h.routes.1
      simpa only [List.getElem?_map, Router.route?] using same
  | default =>
      have same := congrArg List.head? h.default.1
      simpa only [List.head?_map, Option.head?_toList, Router.route?] using same

/-- The routes of a selection are those that were attached. -/
theorem Upkeep.route? {r r' : Router τ σ} (h : Upkeep r r') {selection : Selection}
    {route' : Route τ} (found : r'.route? selection = some route') :
    ∃ route, r.route? selection = some route ∧
      route.template.template = route'.template.template := by
  have same := h.map_fresh selection
  rw [found, Option.map_some] at same
  obtain ⟨route, attached, same⟩ := Option.map_eq_some_iff.1 same.symm
  exact ⟨route, attached, Route.template_of_fresh_eq same⟩

/-- Each route leads where it did. -/
theorem Upkeep.map_target {r r' : Router τ σ} (h : Upkeep r r') (selection : Selection) :
    (r'.route? selection).map (·.target) = (r.route? selection).map (·.target) := by
  have same := congrArg (Option.map (·.target)) (h.map_fresh selection)
  rw [Option.map_map, Option.map_map] at same
  exact same

/-- What is selected with its route is that route. -/
theorem route?_of_selected {r : Router τ σ} {selected : Option Selection} {selection : Selection}
    {route : Route τ}
    (found : (selected.bind fun selection => (r.route? selection).map (selection, ·)) =
      some (selection, route)) : r.route? selection = some route := by
  obtain ⟨_, -, within⟩ := Option.bind_eq_some_iff.1 found
  obtain ⟨_, after, same⟩ := Option.map_eq_some_iff.1 within
  obtain ⟨rfl, rfl⟩ := Prod.mk.inj same
  exact after

/-- The route of a selection that was asked is put back in its place. -/
theorem upkeep_setRoute {r : Router τ σ} {selection : Selection} {route : Route τ}
    (found : r.route? selection = some route) : Upkeep r (r.setRoute selection route.prepared) := by
  cases selection with
  | attached index => exact ⟨rfl, .set found, .refl _⟩
  | default =>
      refine ⟨rfl, .refl _, ?_⟩
      rw [show r.default = some route from found]
      exact .cons route (.refl [])

variable [ScoreNumber σ]

theorem upkept_firstAccepting (required : σ) (remaining : Text) (order : List Nat)
    (routes : List (Route τ)) :
    Upkept routes (firstAccepting required remaining order routes).answer.2 := by
  induction order generalizing routes with
  | nil => exact .refl routes
  | cons index order ih =>
      unfold firstAccepting
      cases found : routes[index]? with
      | none => exact ih routes
      | some route =>
          have put : Upkept routes (routes.set index route.prepared) := .set found
          simp only [Logged.answer_bind]
          split
          · exact put
          · exact put.trans (ih _)

theorem upkept_bestRated (required : σ) (remaining : Text) (best : Option (σ × Nat))
    (index : Nat) (routes : List (Route τ)) :
    Upkept routes (bestRated required remaining best index routes).answer.2 := by
  induction routes generalizing best index with
  | nil => exact .refl []
  | cons route routes ih => exact .cons route (ih _ _)

theorem upkeep_selectAttached (r : Router τ σ) (start : Nat) (remaining : Text) :
    Upkeep r (r.selectAttached start remaining).answer.2 := by
  unfold selectAttached
  split
  · exact ⟨rfl, upkept_bestRated _ _ _ _ _, .refl _⟩
  · exact ⟨rfl, upkept_firstAccepting _ _ _ _, .refl _⟩
  · exact ⟨rfl, upkept_firstAccepting _ _ _ _, .refl _⟩

theorem upkeep_selectDefault (r : Router τ σ) (remaining : Text) :
    Upkeep r (r.selectDefault remaining).answer.2 := by
  unfold selectDefault
  cases found : r.default with
  | none => exact ⟨rfl, .refl _, .refl _⟩
  | some route =>
      refine ⟨rfl, .refl _, ?_⟩
      rw [found]
      exact .cons route (.refl [])

theorem upkeep_select (r : Router τ σ) (start : Nat) (remaining : Text) :
    Upkeep r (r.select start remaining).answer.2 := by
  have attached := r.upkeep_selectAttached start remaining
  unfold select
  simp only [Logged.answer_bind]
  split
  · exact attached
  · exact attached.trans (upkeep_selectDefault _ remaining)

theorem upkeep_resolve (r : Router τ σ) (start : Nat) (remaining : Text) :
    Upkeep r (r.resolve start remaining).answer.2 := by
  have selected := r.upkeep_select start remaining
  unfold resolve
  simp only [Logged.answer_bind]
  split
  · exact selected
  · rename_i selection route found
    have kept := selected.trans (upkeep_setRoute (route?_of_selected found))
    simp only [Logged.answer_bind]
    split
    · exact kept
    · exact kept

theorem good_resolve {r : Router τ σ} (good : r.Good) (start : Nat) (remaining : Text) :
    (r.resolve start remaining).answer.2.Good :=
  (r.upkeep_resolve start remaining).good good

/-- A resolution takes the text apart by the template of its route. -/
theorem exists_parse_of_resolve {r : Router τ σ} (good : r.Good) {start : Nat}
    {remaining : Text} {resolved : Resolution}
    (h : (r.resolve start remaining).answer.1 = some resolved) :
    ∃ route parsed, r.route? resolved.selection = some route ∧
      route.template.template.parse? remaining = some parsed ∧
      resolved = resolution resolved.selection remaining parsed := by
  have upkeep := r.upkeep_select start remaining
  unfold resolve at h
  simp only [Logged.answer_bind] at h
  generalize (r.select start remaining).answer = selected at h upkeep
  obtain ⟨selected, r'⟩ := selected
  simp only at h upkeep
  split at h
  · cases h
  · rename_i selection route' found
    have after := route?_of_selected found
    obtain ⟨route, attached, template⟩ := upkeep.route? after
    have parse := CachedTemplate.parse?_answer ((upkeep.good good).route after) remaining
    simp only [Logged.answer_bind, parse] at h
    split at h
    · cases h
    · rename_i parsed read
      cases h
      exact ⟨route, parsed, attached, template ▸ read, rfl⟩

end Router
end UriRouting
