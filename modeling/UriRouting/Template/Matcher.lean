/-
# UriRouting.Template.Matcher — pieces, an end and a limit

A `Matcher` is all that matching needs to know of a template. If a variable occurs twice
its text is found by a search that may be given up, and otherwise by a row. Either way the
verdict is about one and the same split (`run_matched`, `run_missed`), and without a
repeated variable there is always a verdict (`run_distinct`).

Texts are matched along the pieces themselves. The regular expression of a variable, which
`Variable.expression` writes, is there to be read and is never run, so a matcher can be made
of all pieces: there is no pattern too large to have one.
-/
import UriRouting.Template.Row
import UriRouting.Template.Search

namespace UriRouting

set_option autoImplicit false

inductive Verdict where
  | matched (captures : Captures) (rest : Text)
  | missed
  | gaveUp
  deriving Repr, DecidableEq

structure Matcher where
  pieces : List Piece
  mode : Mode
  limit : Nat
  deriving Repr, DecidableEq

namespace Matcher

/-- Some variable occurs more than once. -/
def repeats (m : Matcher) : Bool := m.pieces.any Piece.isAgain

/-- The names of the variables, each once, in the order of their first occurrences. -/
def groups (m : Matcher) : List Text := Piece.names m.pieces

/-- The first split of a text, without regard to the limit. -/
def split? (m : Matcher) (t : Text) : Option (Captures × Text) :=
  Piece.firstSplit? m.mode m.pieces [] t

def run (m : Matcher) (t : Text) : Verdict :=
  if m.repeats then
    match Piece.searchFront m.limit m.mode m.pieces t with
    | .found captures rest => .matched captures rest
    | .missed _ => .missed
    | .gaveUp => .gaveUp
  else
    match (Piece.row m.mode m.pieces t).here with
    | some (captures, rest) => .matched captures rest
    | none => .missed

theorem run_distinct {m : Matcher} (h : m.repeats = false) (t : Text) : m.run t =
    match m.split? t with
    | some (captures, rest) => .matched captures rest
    | none => .missed := by
  rw [run, if_neg (by simp [h]), Piece.head_row m.mode h, split?]

theorem run_matched {m : Matcher} {t rest : Text} {captures : Captures}
    (h : m.run t = .matched captures rest) : m.split? t = some (captures, rest) := by
  cases r : m.repeats with
  | false =>
    rw [run_distinct r] at h
    cases e : m.split? t with
    | none => simp [e] at h
    | some a => simpa [e, Prod.ext_iff] using h
  | true =>
    rw [run, if_pos r] at h
    have agrees := Piece.agrees_searchFront m.limit m.mode m.pieces t
    cases e : Piece.searchFront m.limit m.mode m.pieces t with
    | found captures rest =>
      rw [e] at agrees h
      cases h
      exact agrees
    | missed _ => simp [e] at h
    | gaveUp => simp [e] at h

theorem run_missed {m : Matcher} {t : Text} (h : m.run t = .missed) : m.split? t = none := by
  cases r : m.repeats with
  | false =>
    rw [run_distinct r] at h
    cases e : m.split? t with
    | none => rfl
    | some a => simp [e] at h
  | true =>
    rw [run, if_pos r] at h
    have agrees := Piece.agrees_searchFront m.limit m.mode m.pieces t
    cases e : Piece.searchFront m.limit m.mode m.pieces t with
    | found _ _ => simp [e] at h
    | missed _ =>
      rw [e] at agrees
      exact agrees
    | gaveUp => simp [e] at h

end Matcher
end UriRouting
