/-
# UriRouting.Proofs.Patience — a limit that is high enough

A search, by its limit and its count so far, is put together in few ways: it finds something or
misses, it comes back to alternatives, or it goes on where another search has missed
(`Outcome.Composed`).  The search along any pieces is one of these (`Piece.composed_search`), so
what all of these ways keep holds of it.

A search is given up when it has come back to more alternatives than the limit allows.  It comes
back to finitely many only: started with any count it adds at most some fixed number to it, under
every limit that leaves room for that (`Outcome.Composed.bounded`).  So for every text some limit
is never passed (`Template.exists_limit`).
-/
import UriRouting.Template.Basic

namespace UriRouting

set_option autoImplicit false

namespace Outcome

/-- The searches, by limit and count so far, that are put together of what there is to a search.
The limit is only ever passed on, and compared with the count. -/
inductive Composed : ((limit spent : Nat) → Outcome) → Prop
  | found (captures : Captures) (rest : Text) : Composed fun _ _ => .found captures rest
  | missed : Composed fun _ spent => .missed spent
  | spend (cost : Nat) {next : Nat → Nat → Outcome} (later : Composed next) :
      Composed fun limit spent => spend limit spent cost (next limit)
  | orElse {search next : Nat → Nat → Outcome} (first : Composed search) (later : Composed next) :
      Composed fun limit spent => (search limit spent).orElse (next limit)

end Outcome

open Outcome

/-! ## How a search is put together -/

namespace Language

variable {next : (limit count : Nat) → Text → (spent : Nat) → Outcome}

theorem composed_searchCuts (kind : Kind)
    (h : ∀ count t, Composed fun limit spent => next limit count t spent) (taken : Nat)
    (here : Text) (items : List (Text × Text)) :
    Composed fun limit spent => searchCuts limit kind (next limit) taken here items spent := by
  induction items generalizing taken here with
  | nil => exact .spend _ (h taken here)
  | cons first more ih => exact .spend _ (.orElse (ih _ _) (.spend _ (h taken here)))

theorem composed_search (language : Language) (t : Text)
    (h : ∀ count t, Composed fun limit spent => next limit count t spent) :
    Composed fun limit spent => language.search limit (next limit) t spent := by
  cases language with
  | exactly text =>
      simp only [search]
      cases Text.after? text t with
      | none => exact .missed
      | some rest => exact h _ rest
  | items kind required =>
      cases required with
      | false => exact composed_searchCuts kind h 0 t _
      | true =>
          simp only [search]
          cases kind.items t with
          | nil => exact .spend _ .missed
          | cons first more =>
              exact .spend _ (.orElse (composed_searchCuts kind h _ _ more) (.spend _ .missed))

end Language

theorem Piece.composed_search (mode : Mode) (pieces : List Piece) (marks : List Mark) (t : Text) :
    Composed fun limit spent => search limit mode pieces marks t spent := by
  induction pieces generalizing marks t with
  | nil =>
      simp only [search]
      cases mode.fits t with
      | true => exact .found _ t
      | false => exact .missed
  | cons piece pieces ih =>
      cases piece with
      | literal text =>
          simp only [search]
          cases Text.after? text t with
          | none => exact .missed
          | some rest => exact ih marks rest
      | first name language =>
          exact Language.composed_search language t fun count rest => ih _ rest
      | again name =>
          simp only [search]
          cases Mark.find? name marks with
          | none => exact .missed
          | some mark =>
              simp only
              cases Text.afterCopy? mark.count mark.start t with
              | none => exact .missed
              | some rest => exact ih marks rest

/-- The search on a whole text starts with a count of nothing. -/
theorem Piece.exists_composed (mode : Mode) (pieces : List Piece) (t : Text) :
    ∃ search, Composed search ∧ ∀ limit, searchFront limit mode pieces t = search limit 0 :=
  ⟨_, .orElse (composed_search mode pieces [] t) (.spend (mode.laterStarts t) .missed),
    fun _ => rfl⟩

/-! ## What it spends -/

namespace Outcome

/-- The search came to an end, having come back to at most so many alternatives. -/
def Within (bound : Nat) : Outcome → Prop
  | .found _ _ => True
  | .missed spent => spent ≤ bound
  | .gaveUp => False

theorem Within.mono {o : Outcome} {low high : Nat} (h : o.Within low) (le : low ≤ high) :
    o.Within high := by
  cases o with
  | found captures rest => trivial
  | missed spent => exact Nat.le_trans h le
  | gaveUp => exact h

/-- A search comes back to so many alternatives at most, if the limit leaves room for them. -/
theorem Composed.bounded {search : Nat → Nat → Outcome} (h : Composed search) :
    ∃ cost, ∀ limit spent, spent + cost ≤ limit → (search limit spent).Within (spent + cost) := by
  induction h with
  | found captures rest => exact ⟨0, fun _ _ _ => trivial⟩
  | missed => exact ⟨0, fun _ spent _ => Nat.le_refl spent⟩
  | spend cost _ later =>
      obtain ⟨more, bound⟩ := later
      refine ⟨cost + more, ?_⟩
      intro limit spent room
      have allowed : ¬ limit < spent + cost := by omega
      simp only [Outcome.spend, if_neg allowed, ← Nat.add_assoc]
      exact bound limit (spent + cost) (by omega)
  | @orElse search next _ _ first later =>
      obtain ⟨cost, bound⟩ := first
      obtain ⟨more, bound'⟩ := later
      refine ⟨cost + more, ?_⟩
      intro limit spent room
      have before := bound limit spent (by omega)
      dsimp only
      cases outcome : search limit spent with
      | found captures rest => trivial
      | missed sofar =>
          rw [outcome] at before
          have le : sofar ≤ spent + cost := before
          have last := bound' limit sofar (by omega)
          exact last.mono (by omega)
      | gaveUp =>
          rw [outcome] at before
          exact before.elim

end Outcome

/-- Along any pieces some limit is never passed. -/
theorem Piece.exists_limit (mode : Mode) (pieces : List Piece) (t : Text) :
    ∃ enough, ∀ limit, enough ≤ limit → searchFront limit mode pieces t ≠ .gaveUp := by
  obtain ⟨search, composed, front⟩ := exists_composed mode pieces t
  obtain ⟨enough, bounded⟩ := composed.bounded
  refine ⟨enough, ?_⟩
  intro limit le gaveUp
  have within := bounded limit 0 (by omega)
  rw [← front, gaveUp] at within
  exact within

theorem Matcher.run_ne_gaveUp {m : Matcher} {t : Text}
    (h : Piece.searchFront m.limit m.mode m.pieces t ≠ .gaveUp) : m.run t ≠ .gaveUp := by
  unfold run
  split
  · cases outcome : Piece.searchFront m.limit m.mode m.pieces t with
    | found captures rest => simp
    | missed spent => simp
    | gaveUp => exact absurd outcome h
  · split <;> simp

/-- Some limit is never passed. -/
theorem Template.exists_limit (t : Template) (text : Text) :
    ∃ enough, ∀ limit, enough ≤ limit → ({ t with limit } : Template).verdict text ≠ .gaveUp := by
  obtain ⟨enough, patient⟩ := Piece.exists_limit t.mode t.matcher.pieces text
  exact ⟨enough, fun limit le => Matcher.run_ne_gaveUp (patient limit le)⟩

end UriRouting
