/-
# UriRouting.Template.Piece — patterns made ready for matching

The tokens of a pattern become `Piece`s: a literal, the first occurrence of a variable with
the language of its descriptor, or a later occurrence, which has to repeat the text of the
first. `firstSplit?` is the plain reading of a list of pieces: cut the text along them, give
each variable as much as possible, the earlier ones first, and take what works.
-/
import UriRouting.Pattern.Token
import UriRouting.Template.Mode
import UriRouting.Variable.Basic

namespace UriRouting

set_option autoImplicit false

inductive Piece where
  | literal (text : Text)
  | first (name : Text) (language : Language)
  | again (name : Text)
  deriving Repr, DecidableEq

/-- The texts of variables in the order of their first occurrences. -/
abbrev Captures := List (Text × Text)

namespace Language

/-- All cuts of a text behind a number of its items, the last one first. `taken` and `here`
are the two sides of the cut before these items. -/
def cuts : (taken here : Text) → (items : List (Text × Text)) → List (Text × Text)
  | taken, here, [] => [(taken, here)]
  | taken, here, (item, rest) :: more => cuts (taken ++ item) rest more ++ [(taken, here)]

/-- All ways to cut a text of the language off the front of a text, the longest first. -/
def stops : Language → Text → List (Text × Text)
  | .exactly text, t =>
    match Text.after? text t with
    | some rest => [(text, rest)]
    | none => []
  | .items kind false, t => cuts [] t (kind.items t)
  | .items kind true, t =>
    match kind.items t with
    | [] => []
    | (item, rest) :: more => cuts item rest more

theorem append_of_mem_cuts {taken here value rest t : Text} {kind : Kind}
    (h : (value, rest) ∈ cuts taken here (kind.items here)) (whole : t = taken ++ here) :
    t = value ++ rest := by
  generalize e : kind.items here = items at h
  induction items generalizing taken here with
  | nil =>
    obtain ⟨rfl, rfl⟩ := Prod.mk.inj (List.mem_singleton.1 h)
    exact whole
  | cons first more ih =>
    rw [Kind.items_eq] at e
    cases i : kind.item? here with
    | none => simp [i] at e
    | some cut =>
      obtain ⟨item, after⟩ := cut
      simp only [i, List.cons.injEq] at e
      obtain ⟨rfl, e⟩ := e
      obtain ⟨c, more', rfl, eq⟩ := Kind.item?_eq_some i
      rcases List.mem_append.1 h with h | h
      · exact ih (by rw [whole, eq]; simp) e h
      · obtain ⟨rfl, rfl⟩ := Prod.mk.inj (List.mem_singleton.1 h)
        exact whole

/-- A cut cuts the text in two, and loses nothing. -/
theorem append_of_mem_stops {language : Language} {t value rest : Text}
    (h : (value, rest) ∈ language.stops t) : t = value ++ rest := by
  match language with
  | .exactly text =>
    unfold stops at h
    cases e : Text.after? text t with
    | none => simp [e] at h
    | some after =>
      simp only [e, List.mem_singleton, Prod.mk.injEq] at h
      obtain ⟨rfl, rfl⟩ := h
      exact Text.after?_eq_some.1 e
  | .items kind false => exact append_of_mem_cuts h rfl
  | .items kind true =>
    simp only [stops] at h
    rw [Kind.items_eq] at h
    cases i : kind.item? t with
    | none => simp [i] at h
    | some cut =>
      obtain ⟨item, after⟩ := cut
      simp only [i] at h
      obtain ⟨c, more, rfl, eq⟩ := Kind.item?_eq_some i
      exact append_of_mem_cuts h (by rw [eq]; rfl)

end Language

namespace Piece

/-- The pieces of tokens; `seen` are the names that have occurred before. -/
def ofTokens (describe : Text → Variable) : (seen : List Text) → List Token → List Piece
  | _, [] => []
  | seen, .literal text :: tokens => .literal text :: ofTokens describe seen tokens
  | seen, .variable name :: tokens =>
    if seen.contains name then .again name :: ofTokens describe seen tokens
    else .first name (describe name).language :: ofTokens describe (name :: seen) tokens

def isAgain : Piece → Bool
  | .again _ => true
  | _ => false

/-- The names of the pieces, each once. -/
def names (pieces : List Piece) : List Text :=
  pieces.filterMap fun
    | .first name _ => some name
    | _ => none

/-- The split of a text that gives the first variable most, then the second, and so on:
what the variables got, and the text that follows. -/
def firstSplit? (mode : Mode) : List Piece → Captures → Text → Option (Captures × Text)
  | [], captures, t => if mode.fits t then some (captures, t) else none
  | .literal text :: pieces, captures, t =>
    match Text.after? text t with
    | some rest => firstSplit? mode pieces captures rest
    | none => none
  | .first name language :: pieces, captures, t =>
    (language.stops t).findSome? fun (value, rest) =>
      firstSplit? mode pieces (captures ++ [(name, value)]) rest
  | .again name :: pieces, captures, t =>
    match captures.lookup name with
    | some value =>
      match Text.after? value t with
      | some rest => firstSplit? mode pieces captures rest
      | none => none
    | none => none

end Piece
end UriRouting
