/-
# UriRouting.Proofs.Turns — routes in turn

A router that selects in turn remembers one position, the cursor.  This module follows it
through whole runs, in which routes are attached, texts are selected for and resolved, and some
of these find no route.  An `Operation` is one call, `Router.after` a router behind a list of
them, and `Router.turns` the positions that were selected so far, read off what the calls gave
and not off the cursor.

One step keeps a router `Rotating`: it selects in turn and its cursor is on the circle, or just
behind the end of it (`Rotating.perform`).  The cursor moves behind each route that has its
turn and never else (`Rotating.cursor_perform`), so after any run it stands behind the last
turn (`Rotating.cursor_after`).  Where the remainder of a sum decides (`FirstFrom`), at most one
whole circle is taken off it, and what is found is the next match up to the end, or else from
the front (`firstInTurn_of_firstFrom`).  Hence every turn goes to the first match behind the
route that had the last one (`perform_inTurn`).
-/
import UriRouting.Proofs.Resolution

namespace UriRouting

set_option autoImplicit false

variable {τ σ : Type}

theorem Upkept.length_eq {routes routes' : List (Route τ)} (h : Upkept routes routes') :
    routes'.length = routes.length := by
  simpa using congrArg List.length h.1

/-! ## Once around the circle -/

/-- The first position that matches from `origin` up to the end, or else from the front. -/
def FirstInTurn (routes : List (Route τ)) (remaining : Text) (origin index : Nat) : Prop :=
  (origin ≤ index ∧
      ∀ between, origin ≤ between → between < index →
        matchesAt routes remaining between = false) ∨
    (index < origin ∧ (∀ later, origin ≤ later → matchesAt routes remaining later = false) ∧
      ∀ earlier < index, matchesAt routes remaining earlier = false)

/-- The first position that matches behind the one that had the last turn, which comes last
itself.  The first turn of all starts at the front. -/
def Follows (routes : List (Route τ)) (remaining : Text) : (last : Option Nat) → Nat → Prop
  | none, index => ∀ earlier < index, matchesAt routes remaining earlier = false
  | some last, index =>
      (last < index ∧
          ∀ between, last < between → between < index →
            matchesAt routes remaining between = false) ∨
        (index ≤ last ∧ (∀ later > last, matchesAt routes remaining later = false) ∧
          ∀ earlier < index, matchesAt routes remaining earlier = false)

variable {routes : List (Route τ)} {remaining : Text} {origin index : Nat}

/-- Going around by remainders crosses the end once at the most. -/
theorem firstInTurn_of_firstFrom (h : Router.FirstFrom routes remaining origin index)
    (onCircle : origin ≤ routes.length) : FirstInTurn routes remaining origin index := by
  obtain ⟨offset, lt, rfl, before⟩ := h
  by_cases within : origin + offset < routes.length
  · left
    rw [Nat.mod_eq_of_lt within]
    refine ⟨Nat.le_add_right _ _, ?_⟩
    intro between le below
    have refused := before (between - origin) (by omega)
    rwa [Nat.add_sub_cancel' le, Nat.mod_eq_of_lt (by omega)] at refused
  · right
    have once : (origin + offset) % routes.length = origin + offset - routes.length := by
      rw [Nat.mod_eq_sub_mod (by omega), Nat.mod_eq_of_lt (by omega)]
    rw [once]
    refine ⟨by omega, ?_, ?_⟩
    · intro later le
      by_cases bound : later < routes.length
      · have refused := before (later - origin) (by omega)
        rwa [Nat.add_sub_cancel' le, Nat.mod_eq_of_lt bound] at refused
      · rw [Bool.eq_false_iff]
        intro here
        exact bound (lt_length_of_matchesAt here)
    · intro earlier below
      have refused := before (routes.length - origin + earlier) (by omega)
      have around : origin + (routes.length - origin + earlier) = routes.length + earlier := by
        omega
      rwa [around, Nat.add_mod_left, Nat.mod_eq_of_lt (by omega)] at refused

/-- A turn that starts behind the last one follows it. -/
theorem follows_of_firstInTurn {last : Option Nat}
    (h : FirstInTurn routes remaining ((last.map (· + 1)).getD 0) index) :
    Follows routes remaining last index := by
  cases last with
  | none =>
      rcases h with ⟨-, between⟩ | ⟨below, -⟩
      · intro earlier below
        exact between earlier (Nat.zero_le _) below
      · exact absurd below (Nat.not_lt_zero _)
  | some last =>
      rcases h with ⟨behind, between⟩ | ⟨below, later, earlier⟩
      · exact Or.inl ⟨behind, between⟩
      · exact Or.inr ⟨Nat.lt_succ_iff.1 below, later, earlier⟩

namespace Router

variable [ScoreNumber σ]

/-! ## Runs -/

/-- One call of a router. -/
inductive Operation (τ : Type) where
  | attach (pattern : Text) (target : τ)
  | attachTemplate (template : Template) (target : τ)
  | attachDefault (target : τ)
  /-- `start` is the position that would be drawn at random. -/
  | select (start : Nat) (remaining : Text)
  | resolve (start : Nat) (remaining : Text)

/-- The text that a route is wanted for. -/
def Operation.asked? : Operation τ → Option Text
  | select _ remaining | resolve _ remaining => some remaining
  | _ => none

/-- What a call selects, and the router that it leaves. -/
def perform (r : Router τ σ) : Operation τ → Option Selection × Router τ σ
  | .attach pattern target => (none, r.attach pattern target)
  | .attachTemplate template target => (none, r.attachTemplate template target)
  | .attachDefault target => (none, r.attachDefault target)
  | .select start remaining => (r.select start remaining).answer
  | .resolve start remaining =>
    let (resolved, r) := (r.resolve start remaining).answer
    (resolved.map Resolution.selection, r)

/-- A router behind a history of calls, the earliest first. -/
def after (r : Router τ σ) (history : List (Operation τ)) : Router τ σ :=
  history.foldl (fun r op => (r.perform op).2) r

/-- The calls of a history, each with what it selects. -/
def transcript : Router τ σ → List (Operation τ) → List (Operation τ × Option Selection)
  | _, [] => []
  | r, op :: history => (op, (r.perform op).1) :: (r.perform op).2.transcript history

/-- The positions of attached routes that had a turn, in order. -/
def turns (r : Router τ σ) (history : List (Operation τ)) : List Nat :=
  (r.transcript history).filterMap fun entry => turn? entry.2

theorem turns_cons (r : Router τ σ) (op : Operation τ) (history : List (Operation τ)) :
    r.turns (op :: history) =
      (turn? (r.perform op).1).toList ++ (r.perform op).2.turns history := by
  rw [turns, transcript, List.filterMap_cons]
  cases turn? (r.perform op).1 <;> rfl

variable [RoundedScore σ]

/-! ## Routers that rotate -/

/-- A router that selects in turn, with its cursor on the circle of its routes or just behind
the last of them. -/
structure Rotating (r : Router τ σ) : Prop where
  wellFormed : r.WellFormed
  kept : RoundedScore.Kept r.policy.requiredScore
  next : r.policy.preference = .next
  cursor_le : r.cursor ≤ r.routes.length

theorem rotating_ofPolicy {policy : Policy σ} (valid : policy.isValid = true)
    (kept : RoundedScore.Kept policy.requiredScore) (next : policy.preference = .next) :
    (ofPolicy policy : Router τ σ).Rotating :=
  ⟨wellFormed_ofPolicy valid, kept, next, Nat.le_refl 0⟩

namespace Rotating

variable {r : Router τ σ}

theorem attachTemplate (h : r.Rotating) (template : Template) (target : τ) :
    (r.attachTemplate template target).Rotating where
  wellFormed := h.wellFormed.attachTemplate template target
  kept := h.kept
  next := h.next
  cursor_le := by
    have le := h.cursor_le
    simp only [Router.attachTemplate, attachRoute, List.length_append]
    omega

theorem attachDefault (h : r.Rotating) (target : τ) : (r.attachDefault target).Rotating where
  wellFormed := h.wellFormed.attachDefault target
  kept := h.kept
  next := h.next
  cursor_le := h.cursor_le

/-- A text is selected for or resolved: what comes of it is what is selected for it. -/
theorem exists_select (h : r.Rotating) {op : Operation τ} {remaining : Text}
    (asked : op.asked? = some remaining) :
    ∃ start, (r.perform op).1 = (r.select start remaining).answer.1 ∧
      (r.perform op).2.cursor = (r.select start remaining).answer.2.cursor ∧
      Upkeep r (r.perform op).2 := by
  cases op with
  | select start t =>
      cases asked
      exact ⟨start, rfl, rfl, r.upkeep_select start remaining⟩
  | resolve start t =>
      cases asked
      obtain ⟨same, state⟩ := resolve_answer h.wellFormed.good start remaining
      exact ⟨start, same, congrArg Router.cursor state, r.upkeep_resolve start remaining⟩
  | attach | attachTemplate | attachDefault => cases asked

/-- The cursor moves behind a route that has its turn, and never else. -/
theorem cursor_perform (h : r.Rotating) (op : Operation τ) :
    (r.perform op).2.cursor = ((turn? (r.perform op).1).map (· + 1)).getD r.cursor := by
  cases asked : op.asked? with
  | none =>
      cases op with
      | attach | attachTemplate | attachDefault => rfl
      | select | resolve => cases asked
  | some remaining =>
      obtain ⟨start, selected, cursor, -⟩ := h.exists_select asked
      rw [selected, cursor]
      exact cursor_select h.next start remaining

/-- A turn goes to a route that matches, the first from the cursor on. -/
theorem turn (h : r.Rotating) {op : Operation τ} {remaining : Text} {index : Nat}
    (asked : op.asked? = some remaining) (selected : (r.perform op).1 = some (.attached index)) :
    matchesAt r.routes remaining index = true ∧ FirstFrom r.routes remaining r.cursor index := by
  obtain ⟨start, same, -⟩ := h.exists_select asked
  rw [same] at selected
  have selects := selects_select h.wellFormed h.kept start remaining
  exact ⟨selects.fits index selected, selects.next h.next index selected⟩

/-- There is a turn for every text that some route matches, and for no other. -/
theorem exists_turn_iff (h : r.Rotating) {op : Operation τ} {remaining : Text}
    (asked : op.asked? = some remaining) :
    (∃ index, (r.perform op).1 = some (.attached index)) ↔
      ∃ route ∈ r.routes, route.isMatch remaining = true := by
  obtain ⟨start, same, -⟩ := h.exists_select asked
  rw [same]
  exact (selects_select h.wellFormed h.kept start remaining).attached

/-- Asking keeps a router rotating. -/
theorem ask (h : r.Rotating) {op : Operation τ} {remaining : Text}
    (asked : op.asked? = some remaining) : (r.perform op).2.Rotating := by
  obtain ⟨-, -, -, upkeep⟩ := h.exists_select asked
  refine ⟨upkeep.wellFormed h.wellFormed, ?_, ?_, ?_⟩
  · rw [upkeep.policy]
    exact h.kept
  · rw [upkeep.policy]
    exact h.next
  · rw [h.cursor_perform, upkeep.routes.length_eq]
    cases turn : turn? (r.perform op).1 with
    | none => exact h.cursor_le
    | some index =>
        have fits := (h.turn asked (turn?_eq_some_iff.1 turn)).1
        exact lt_length_of_matchesAt fits

theorem perform (h : r.Rotating) (op : Operation τ) : (r.perform op).2.Rotating := by
  cases op with
  | attach pattern target => exact h.attachTemplate { pattern, mode := .startsWith } target
  | attachTemplate template target => exact h.attachTemplate template target
  | attachDefault target => exact h.attachDefault target
  | select start remaining => exact h.ask rfl
  | resolve start remaining => exact h.ask rfl

theorem after (h : r.Rotating) (history : List (Operation τ)) : (r.after history).Rotating := by
  induction history generalizing r with
  | nil => exact h
  | cons op history ih => exact ih (h.perform op)

/-- The cursor stands behind the last turn, or where it stood if there was none. -/
theorem cursor_after (h : r.Rotating) (history : List (Operation τ)) :
    (r.after history).cursor = ((r.turns history).getLast?.map (· + 1)).getD r.cursor := by
  induction history generalizing r with
  | nil => rfl
  | cons op history ih =>
      have later : (r.after (op :: history)).cursor =
          (((r.perform op).2.turns history).getLast?.map (· + 1)).getD (r.perform op).2.cursor :=
        ih (h.perform op)
      rw [later, turns_cons, List.getLast?_append, h.cursor_perform]
      cases ((r.perform op).2.turns history).getLast? with
      | some index => rfl
      | none => cases turn? (r.perform op).1 <;> rfl

end Rotating

/-- **Routes have their turns in order,** in every run of a router that selects in turn.  The
cursor never passes the end of the routes, so the sums that are taken around the circle stay
below twice their number, and none is taken where there is no route.  A call selects an
attached route if one matches its text, the first from the cursor on, which is the first
behind the route that had the last turn; the cursor is then put behind it.  A call that selects
no attached route leaves the cursor where it is, and so does attaching. -/
theorem perform_inTurn {policy : Policy σ} (valid : policy.isValid = true)
    (kept : RoundedScore.Kept policy.requiredScore) (next : policy.preference = .next)
    (history : List (Operation τ)) {r : Router τ σ}
    (reached : (ofPolicy policy).after history = r) :
    r.cursor ≤ r.routes.length ∧
      (∀ offset < r.routes.length,
        0 < r.routes.length ∧ r.cursor + offset < 2 * r.routes.length) ∧
      ∀ op : Operation τ,
        (∀ remaining, op.asked? = some remaining →
          ((∃ index, (r.perform op).1 = some (.attached index)) ↔
            ∃ route ∈ r.routes, route.isMatch remaining = true)) ∧
        (∀ index, (r.perform op).1 = some (.attached index) →
          ∃ remaining, op.asked? = some remaining ∧
            matchesAt r.routes remaining index = true ∧
            FirstFrom r.routes remaining r.cursor index ∧
            Follows r.routes remaining
              ((ofPolicy policy : Router τ σ).turns history).getLast? index ∧
            (r.perform op).2.cursor = index + 1) ∧
        ((∀ index, (r.perform op).1 ≠ some (.attached index)) →
          (r.perform op).2.cursor = r.cursor) ∧
        (op.asked? = none → (r.perform op).2.cursor = r.cursor) := by
  have new : (ofPolicy policy : Router τ σ).Rotating := rotating_ofPolicy valid kept next
  have rotating : r.Rotating := reached ▸ new.after history
  have le := rotating.cursor_le
  have behind : r.cursor =
      (((ofPolicy policy : Router τ σ).turns history).getLast?.map (· + 1)).getD 0 :=
    reached ▸ new.cursor_after history
  refine ⟨le, fun offset lt => ⟨by omega, by omega⟩, fun op => ⟨?_, ?_, ?_, ?_⟩⟩
  · intro remaining asked
    exact rotating.exists_turn_iff asked
  · intro index selected
    cases asked : op.asked? with
    | none =>
        cases op with
        | attach | attachTemplate | attachDefault => cases selected
        | select | resolve => cases asked
    | some remaining =>
        obtain ⟨fits, first⟩ := rotating.turn asked selected
        have inTurn := firstInTurn_of_firstFrom first le
        rw [behind] at inTurn
        refine ⟨remaining, rfl, fits, first, follows_of_firstInTurn inTurn, ?_⟩
        rw [rotating.cursor_perform, turn?_eq_some_iff.2 selected]
        rfl
  · intro noTurn
    rw [rotating.cursor_perform, turn?_eq_none_iff.2 noTurn]
    rfl
  · intro attaching
    cases op with
    | attach | attachTemplate | attachDefault => rfl
    | select | resolve => cases attaching

namespace Example

/-- In turn, and a third of the score is required, rounded. -/
def policy : Policy hundredths.Number := ⟨.next, ⟨33 / 100⟩⟩

/-- A text that there is no route for yet, two routes that have their turns, a text for the
default route, and a third route, attached while the cursor is behind the end. -/
def history : List (Operation Unit) :=
  [.resolve 0 "/a".toList, .attach "/b".toList (), .attach "/a".toList (), .attachDefault (),
    .select 0 "/b".toList, .resolve 0 "/a/c".toList, .select 0 "/c".toList,
    .attachTemplate { pattern := "/b/\x7bid\x7d".toList, mode := .equals } ()]

/-- The router behind them. -/
def inHistory : Router Unit hundredths.Number := (ofPolicy policy).after history

end Example

theorem perform_inTurn_history :
    Example.inHistory.cursor ≤ Example.inHistory.routes.length ∧
      (Example.inHistory.perform (.resolve 7 "/b/1".toList)).1 = some (.attached 2) ∧
      Follows Example.inHistory.routes "/b/1".toList (some 1) 2 ∧
      (Example.inHistory.perform (.resolve 7 "/b/1".toList)).2.cursor = 3 := by
  have selected :
      (Example.inHistory.perform (.resolve 7 "/b/1".toList)).1 = some (.attached 2) := by
    decide +kernel
  have last : ((ofPolicy Example.policy).turns Example.history).getLast? = some 1 := by
    decide +kernel
  obtain ⟨le, -, inTurn⟩ := perform_inTurn (by decide +kernel)
    (by unfold RoundedScore.Kept; decide +kernel) rfl Example.history
    (show (ofPolicy Example.policy).after Example.history = Example.inHistory from rfl)
  obtain ⟨-, turn, -⟩ := inTurn (.resolve 7 "/b/1".toList)
  obtain ⟨remaining, asked, -, -, follows, cursor⟩ := turn 2 selected
  cases asked
  rw [last] at follows
  exact ⟨le, selected, follows, cursor⟩

end Router
end UriRouting
