/-
# UriRouting.Proofs.Fairness — as many turns for each

Routes that match one text share its turns evenly while no route is attached, wherever the
cursor stands at first and whatever texts are asked for in between that no route matches.

The `rank` of a position is the number of positions before it that match.  A turn goes to the
position that has the rank of the cursor and puts the cursor one rank further
(`Router.Rotating.rank_turn`), where the ranks count around by the number of routes that match:
behind the last match the cursor has the rank of the first.  So it is the turn of a position
whenever the rank of the first cursor and the turns since then add up to its rank (`DueAfter`,
`Router.Rotating.count_answersTo`), which is once in every round (`count_dueAfter`).
-/
import Mathlib.Data.Int.CardIntervalMod
import UriRouting.Proofs.Turns

namespace UriRouting

set_option autoImplicit false

variable {τ σ : Type}

/-! ## Ranks -/

/-- How many positions before this one match. -/
def rank (routes : List (Route τ)) (remaining : Text) (index : Nat) : Nat :=
  Nat.count (fun earlier => matchesAt routes remaining earlier = true) index

/-- How many routes match. -/
def matchCount (routes : List (Route τ)) (remaining : Text) : Nat :=
  routes.countP fun route => route.isMatch remaining

variable {routes : List (Route τ)} {remaining : Text} {origin index : Nat}

theorem rank_length (routes : List (Route τ)) (remaining : Text) :
    rank routes remaining routes.length = matchCount routes remaining := by
  induction routes with
  | nil => rfl
  | cons route routes ih =>
      have first : matchesAt (route :: routes) remaining 0 = route.isMatch remaining := rfl
      have others : ∀ index, matchesAt (route :: routes) remaining (index + 1) =
          matchesAt routes remaining index := fun _ => rfl
      unfold rank matchCount at ih ⊢
      rw [List.length_cons, Nat.count_succ', List.countP_cons]
      simp only [first, others, ih]

theorem rank_succ (here : matchesAt routes remaining index = true) :
    rank routes remaining (index + 1) = rank routes remaining index + 1 :=
  Nat.count_succ_eq_succ_count_iff.2 here

theorem rank_lt_matchCount (here : matchesAt routes remaining index = true) :
    rank routes remaining index < matchCount routes remaining := by
  rw [← rank_length]
  exact Nat.count_strict_mono here (lt_length_of_matchesAt here)

theorem rank_eq_of_between (le : origin ≤ index)
    (between : ∀ i, origin ≤ i → i < index → matchesAt routes remaining i = false) :
    rank routes remaining index = rank routes remaining origin := by
  obtain ⟨distance, rfl⟩ := Nat.exists_eq_add_of_le le
  unfold rank
  rw [Nat.count_add, Nat.add_eq_left, Nat.count_iff_forall_not]
  intro offset lt
  rw [between (origin + offset) (by omega) (by omega)]
  decide

/-- Whose turn it is has the rank of the position where the turn starts. -/
theorem rank_of_firstInTurn (h : FirstInTurn routes remaining origin index)
    (onCircle : origin ≤ routes.length) :
    rank routes remaining origin ≡ rank routes remaining index
      [MOD matchCount routes remaining] := by
  rcases h with ⟨le, between⟩ | ⟨-, later, earlier⟩
  · rw [rank_eq_of_between le between]
  · have top : matchCount routes remaining = rank routes remaining origin := by
      rw [← rank_length]
      exact rank_eq_of_between onCircle fun i le _ => later i le
    have bottom : rank routes remaining index = rank routes remaining 0 :=
      rank_eq_of_between (Nat.zero_le index) fun i _ lt => earlier i lt
    rw [← top, bottom]
    exact Nat.mod_self _

/-- Of positions that match, no two have one rank. -/
theorem eq_of_rank_modEq {other : Nat} (here : matchesAt routes remaining index = true)
    (there : matchesAt routes remaining other = true)
    (same : rank routes remaining index ≡ rank routes remaining other
      [MOD matchCount routes remaining]) : index = other :=
  Nat.count_injective here there
    (same.eq_of_lt_of_lt (rank_lt_matchCount here) (rank_lt_matchCount there))

/-- What routes keep is no part of their ranks. -/
theorem rank_of_upkept {routes' : List (Route τ)} (upkept : Upkept routes routes')
    (remaining : Text) : rank routes' remaining = rank routes remaining := by
  funext index
  unfold rank
  rw [matchesAt_of_upkept upkept]

theorem matchCount_of_upkept {routes' : List (Route τ)} (upkept : Upkept routes routes')
    (remaining : Text) : matchCount routes' remaining = matchCount routes remaining := by
  rw [← rank_length, ← rank_length, rank_of_upkept upkept, upkept.length_eq]

/-! ## Whose turn is to come -/

/-- So many turns after one that starts at `origin`, it is the turn of the position. -/
def DueAfter (routes : List (Route τ)) (remaining : Text) (origin index done : Nat) : Prop :=
  rank routes remaining origin + done ≡ rank routes remaining index
    [MOD matchCount routes remaining]

instance : DecidablePred (DueAfter routes remaining origin index) := fun _ =>
  inferInstanceAs (Decidable
    (_ ≡ rank routes remaining index [MOD matchCount routes remaining]))

/-- It is due at once if it has the turn. -/
theorem dueAfter_zero_iff {turn : Nat} (fits : matchesAt routes remaining turn = true)
    (same : rank routes remaining origin ≡ rank routes remaining turn
      [MOD matchCount routes remaining])
    (here : matchesAt routes remaining index = true) :
    DueAfter routes remaining origin index 0 ↔ turn = index := by
  constructor
  · intro due
    exact eq_of_rank_modEq fits here (same.symm.trans due)
  · rintro rfl
    exact same

/-- What is due after one turn more is due after this turn. -/
theorem dueAfter_succ_iff {turn onward : Nat}
    (same : rank routes remaining origin ≡ rank routes remaining turn
      [MOD matchCount routes remaining])
    (further : rank routes remaining onward = rank routes remaining turn + 1) (done : Nat) :
    DueAfter routes remaining origin index (done + 1) ↔
      DueAfter routes remaining onward index done := by
  have sums : rank routes remaining origin + (done + 1) ≡ rank routes remaining onward + done
      [MOD matchCount routes remaining] := by
    rw [further, Nat.add_assoc, Nat.add_comm 1]
    exact same.add_right (done + 1)
  exact ⟨sums.symm.trans, sums.trans⟩

/-- A position is due once in every round. -/
theorem count_dueAfter (someMatch : 0 < matchCount routes remaining) (rounds : Nat) :
    Nat.count (DueAfter routes remaining origin index) (rounds * matchCount routes remaining) =
      rounds := by
  have upTo := Nat.count_add
    (fun sum => sum ≡ rank routes remaining index [MOD matchCount routes remaining])
    (rank routes remaining origin) (rounds * matchCount routes remaining)
  rw [Nat.count_modEq_card _ someMatch, Nat.count_modEq_card _ someMatch,
    Nat.add_mul_div_right _ _ someMatch, Nat.add_mul_mod_self_right] at upTo
  -- whole rounds end where they start, so they add nothing to what an unfinished one counts
  exact Nat.add_left_cancel (upTo.symm.trans (Nat.add_right_comm _ _ _))

namespace Router

/-! ## Runs that ask for one text -/

/-- Each call asks for this text, or for one that no route matches. -/
def AsksFor (routes : List (Route τ)) (remaining : Text) (calls : List (Operation τ)) : Prop :=
  ∀ op ∈ calls, ∃ text ∈ op.asked?,
    text = remaining ∨ ∀ route ∈ routes, route.isMatch text = false

instance (routes : List (Route τ)) (remaining : Text) (calls : List (Operation τ)) :
    Decidable (AsksFor routes remaining calls) :=
  inferInstanceAs (Decidable (∀ op ∈ calls, ∃ text ∈ op.asked?,
    text = remaining ∨ ∀ route ∈ routes, route.isMatch text = false))

theorem AsksFor.cons {op : Operation τ} {calls : List (Operation τ)}
    (asks : AsksFor routes remaining (op :: calls)) :
    (op.asked? = some remaining ∨
        ∃ other, op.asked? = some other ∧ ∀ index, matchesAt routes other index = false) ∧
      AsksFor routes remaining calls := by
  obtain ⟨⟨text, asked, now⟩, later⟩ := List.forall_mem_cons.1 asks
  refine ⟨?_, later⟩
  rcases now with rfl | idle
  · exact Or.inl asked
  · exact Or.inr ⟨text, asked, matchesAt_eq_false idle⟩

/-- How many calls ask for this text. -/
def askCount (remaining : Text) (calls : List (Operation τ)) : Nat :=
  calls.countP fun op => op.asked? == some remaining

theorem askCount_cons (remaining : Text) (op : Operation τ) (calls : List (Operation τ)) :
    askCount remaining (op :: calls) =
      if op.asked? = some remaining then askCount remaining calls + 1
      else askCount remaining calls := by
  unfold askCount
  rw [List.countP_cons]
  by_cases asked : op.asked? = some remaining
  · simp [asked]
  · simp [asked]

variable [ScoreNumber σ]

/-- What the calls that ask for this text select, in order. -/
def answersTo (r : Router τ σ) (remaining : Text) (calls : List (Operation τ)) :
    List (Option Selection) :=
  ((r.transcript calls).filter fun entry => entry.1.asked? == some remaining).map (·.2)

theorem answersTo_cons (r : Router τ σ) (remaining : Text) (op : Operation τ)
    (calls : List (Operation τ)) :
    r.answersTo remaining (op :: calls) =
      if op.asked? = some remaining then
        (r.perform op).1 :: (r.perform op).2.answersTo remaining calls
      else (r.perform op).2.answersTo remaining calls := by
  unfold answersTo
  rw [transcript, List.filter_cons]
  by_cases asked : op.asked? = some remaining
  · simp [asked]
  · simp [asked]

variable [RoundedScore σ]

namespace Rotating

variable {r : Router τ σ} {op : Operation τ} {calls : List (Operation τ)}

theorem upkept_perform (h : r.Rotating) (asked : op.asked? = some remaining) :
    Upkept r.routes (r.perform op).2.routes := by
  obtain ⟨-, -, -, upkeep⟩ := h.exists_select asked
  exact upkeep.routes

/-- A text that no route matches takes no turn. -/
theorem cursor_of_no_match (h : r.Rotating) (asked : op.asked? = some remaining)
    (idle : ∀ index, matchesAt r.routes remaining index = false) :
    (r.perform op).2.cursor = r.cursor := by
  have noTurn : ∀ index, (r.perform op).1 ≠ some (.attached index) := by
    intro index selected
    have here := (h.turn asked selected).1
    rw [idle index] at here
    cases here
  rw [h.cursor_perform, turn?_eq_none_iff.2 noTurn]
  rfl

/-- A text that some route matches takes a turn.  It goes to a position of the cursor's rank
and puts the cursor one rank further. -/
theorem rank_turn (h : r.Rotating) (asked : op.asked? = some remaining)
    (here : matchesAt r.routes remaining index = true) :
    ∃ turn, (r.perform op).1 = some (.attached turn) ∧
      matchesAt r.routes remaining turn = true ∧
      rank r.routes remaining r.cursor ≡ rank r.routes remaining turn
        [MOD matchCount r.routes remaining] ∧
      rank r.routes remaining (r.perform op).2.cursor = rank r.routes remaining turn + 1 := by
  obtain ⟨turn, selected⟩ := (h.exists_turn_iff asked).2 (exists_matchesAt.1 ⟨index, here⟩)
  obtain ⟨fits, first⟩ := h.turn asked selected
  have inTurn := firstInTurn_of_firstFrom first h.cursor_le
  refine ⟨turn, selected, fits, rank_of_firstInTurn inTurn h.cursor_le, ?_⟩
  rw [h.cursor_perform, turn?_eq_some_iff.2 selected]
  exact rank_succ fits

/-- A position has a turn as often as it is due. -/
theorem count_answersTo (h : r.Rotating) (upkept : Upkept routes r.routes)
    (asks : AsksFor routes remaining calls) (here : matchesAt routes remaining index = true) :
    (r.answersTo remaining calls).count (some (.attached index)) =
      Nat.count (DueAfter routes remaining r.cursor index) (askCount remaining calls) := by
  -- ranks are taken of the routes before the first call, of which only the caches change
  induction calls generalizing r with
  | nil => rfl
  | cons op calls ih =>
      obtain ⟨now, later⟩ := asks.cons
      rw [answersTo_cons, askCount_cons]
      by_cases asked : op.asked? = some remaining
      · have rest := ih (h.perform op) (upkept.trans (h.upkept_perform asked)) later
        have turned := h.rank_turn asked (matchesAt_of_upkept upkept remaining ▸ here)
        simp only [matchesAt_of_upkept upkept, rank_of_upkept upkept,
          matchCount_of_upkept upkept] at turned
        obtain ⟨turn, selected, fits, same, further⟩ := turned
        rw [if_pos asked, if_pos asked, List.count_cons, rest, selected, Nat.count_succ']
        simp only [dueAfter_succ_iff same further, dueAfter_zero_iff fits same here,
          beq_iff_eq, Option.some.injEq, Selection.attached.injEq]
      · obtain ⟨other, askedOther, idle⟩ := now.resolve_left asked
        have stays : (r.perform op).2.cursor = r.cursor :=
          h.cursor_of_no_match askedOther (matchesAt_of_upkept upkept other ▸ idle)
        have rest := ih (h.perform op) (upkept.trans (h.upkept_perform askedOther)) later
        rw [if_neg asked, if_neg asked, rest, stays]

/-- Only positions that match have a turn. -/
theorem exists_of_mem_answersTo (h : r.Rotating) (upkept : Upkept routes r.routes)
    (asks : AsksFor routes remaining calls) (here : matchesAt routes remaining index = true)
    {answer : Option Selection} (member : answer ∈ r.answersTo remaining calls) :
    ∃ turn, answer = some (.attached turn) ∧ matchesAt routes remaining turn = true := by
  induction calls generalizing r with
  | nil => cases member
  | cons op calls ih =>
      obtain ⟨now, later⟩ := asks.cons
      rw [answersTo_cons] at member
      by_cases asked : op.asked? = some remaining
      · rw [if_pos asked] at member
        rcases List.mem_cons.1 member with rfl | member
        · obtain ⟨turn, selected, fits, -⟩ :=
            h.rank_turn asked (matchesAt_of_upkept upkept remaining ▸ here)
          exact ⟨turn, selected, matchesAt_of_upkept upkept remaining ▸ fits⟩
        · exact ih (h.perform op) (upkept.trans (h.upkept_perform asked)) later member
      · obtain ⟨other, askedOther, -⟩ := now.resolve_left asked
        rw [if_neg asked] at member
        exact ih (h.perform op) (upkept.trans (h.upkept_perform askedOther)) later member

end Rotating

/-- **Turns are shared evenly.**  Behind any history of a router that selects in turn, the
routes that match a text have `rounds` turns each when the text is asked for `rounds` times as
often as there are such routes, and all of these calls go to them: whatever other texts are
asked for in between, if only no route matches those. -/
theorem answersTo_fair {policy : Policy σ} (valid : policy.isValid = true)
    (kept : RoundedScore.Kept policy.requiredScore) (next : policy.preference = .next)
    (history : List (Operation τ)) {r : Router τ σ}
    (reached : (ofPolicy policy).after history = r) {remaining : Text}
    (someMatch : 0 < matchCount r.routes remaining) {calls : List (Operation τ)}
    (asks : AsksFor r.routes remaining calls) {rounds : Nat}
    (number : askCount remaining calls = rounds * matchCount r.routes remaining) :
    (∀ index, matchesAt r.routes remaining index = true →
      (r.answersTo remaining calls).count (some (.attached index)) = rounds) ∧
    ∀ answer ∈ r.answersTo remaining calls, ∃ index,
      answer = some (.attached index) ∧ matchesAt r.routes remaining index = true := by
  have rotating : r.Rotating :=
    reached ▸ (rotating_ofPolicy valid kept next : (ofPolicy policy).Rotating).after history
  constructor
  · intro index here
    rw [rotating.count_answersTo (.refl _) asks here, number]
    exact count_dueAfter someMatch rounds
  · intro answer member
    obtain ⟨index, here⟩ := exists_matchesAt.2 (List.countP_pos_iff.1 someMatch)
    exact rotating.exists_of_mem_answersTo (.refl _) asks here member

namespace Example

/-- A text of two routes is asked for four times, and texts of none in between. -/
def calls : List (Operation Unit) :=
  [.select 0 "/c".toList, .select 0 "/b/1".toList, .select 0 "/b/1".toList,
    .resolve 0 "/c/b/1".toList, .resolve 0 "/b/1".toList, .select 0 "".toList,
    .select 0 "/b/1".toList]

end Example

theorem answersTo_fair_history :
    (Example.inHistory.answersTo "/b/1".toList Example.calls).count (some (.attached 0)) = 2 ∧
      (Example.inHistory.answersTo "/b/1".toList Example.calls).count (some (.attached 2)) = 2 := by
  obtain ⟨even, -⟩ := answersTo_fair (by decide +kernel)
    (by unfold RoundedScore.Kept; decide +kernel) rfl Example.history
    (show (ofPolicy Example.policy).after Example.history = Example.inHistory from rfl)
    (show 0 < matchCount Example.inHistory.routes "/b/1".toList by decide +kernel)
    (show AsksFor Example.inHistory.routes "/b/1".toList Example.calls by decide +kernel)
    (show askCount "/b/1".toList Example.calls =
      2 * matchCount Example.inHistory.routes "/b/1".toList by decide +kernel)
  exact ⟨even 0 (by decide +kernel), even 2 (by decide +kernel)⟩

end Router
end UriRouting
