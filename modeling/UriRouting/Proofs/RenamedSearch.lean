/-
# UriRouting.Proofs.RenamedSearch — a search with other names

A search asks of names only whether two of them are the same, to find what a variable got before.
So when all names of its pieces are replaced by others, different names by different ones, it goes
the same way, spends the same and ends alike: in the same captures under their new names, in
nothing, or in giving up (`Piece.searchFront_rename`).

The plain reading of the pieces is what a search finds that is patient enough, so it is renamed
with it (`Piece.firstSplit?_rename`), and the verdict of a matcher with both of them
(`Matcher.run_rename`).
-/
import Mathlib.Data.Set.Function
import UriRouting.Proofs.Patience

namespace UriRouting

set_option autoImplicit false

/-- The entries with other names. -/
def renameEntries {α : Type} (f : Text → Text) (entries : List (Text × α)) : List (Text × α) :=
  entries.map fun (name, value) => (f name, value)

variable {f : Text → Text} {scope : Set Text}

namespace Mark

def rename (f : Text → Text) (m : Mark) : Mark := { m with name := f m.name }

theorem captures_rename (marks : List Mark) :
    captures (marks.map (rename f)) = renameEntries f (captures marks) := by
  rw [captures, captures, renameEntries, List.map_map, List.map_map]
  rfl

theorem find?_rename (apart : Set.InjOn f scope) {name : Text} (named : name ∈ scope)
    {marks : List Mark} (within : ∀ m ∈ marks, m.name ∈ scope) :
    find? (f name) (marks.map (rename f)) = (find? name marks).map (rename f) := by
  induction marks with
  | nil => rfl
  | cons m marks ih =>
      have later := ih fun m member => within m (List.mem_cons_of_mem _ member)
      have same : (f name == (m.rename f).name) = (name == m.name) :=
        beq_eq_beq.2 (apart.eq_iff named (within m List.mem_cons_self))
      simp only [find?, List.map_cons, List.find?_cons, same] at later ⊢
      cases name == m.name with
      | true => rfl
      | false => exact later

end Mark

namespace Outcome

/-- The outcome with other names for the variables. -/
def rename (f : Text → Text) : Outcome → Outcome
  | .found captures rest => .found (renameEntries f captures) rest
  | .missed spent => .missed spent
  | .gaveUp => .gaveUp

theorem spend_rename (limit spent cost : Nat) (next : Nat → Outcome) :
    spend limit spent cost (fun spent => (next spent).rename f) =
      (spend limit spent cost next).rename f := by
  unfold spend
  split <;> rfl

theorem orElse_rename (o : Outcome) (next : Nat → Outcome) :
    (o.rename f).orElse (fun spent => (next spent).rename f) = (o.orElse next).rename f := by
  cases o <;> rfl

end Outcome

open Outcome

namespace Language

variable {limit : Nat} {next : Nat → Text → Nat → Outcome}

theorem searchCuts_rename (kind : Kind) (taken : Nat) (here : Text) (items : List (Text × Text))
    (spent : Nat) :
    searchCuts limit kind (fun count rest spent => (next count rest spent).rename f) taken here
      items spent = (searchCuts limit kind next taken here items spent).rename f := by
  induction items generalizing taken here spent with
  | nil => exact spend_rename ..
  | cons first more ih => simp only [searchCuts, ih, spend_rename, orElse_rename]

/-- To search for the text of a variable is to go on with each of its stops, so renaming what
comes of them renames what comes of it. -/
theorem search_rename (language : Language) (t : Text) (spent : Nat) :
    language.search limit (fun count rest spent => (next count rest spent).rename f) t spent =
      (language.search limit next t spent).rename f := by
  match language with
  | .exactly text =>
      simp only [search]
      cases Text.after? text t <;> rfl
  | .items kind false => exact searchCuts_rename ..
  | .items kind true =>
      simp only [search]
      cases kind.items t with
      | nil => exact spend_rename limit spent _ .missed
      | cons first more =>
          have last (spent : Nat) : spend limit spent (kind.costAfter first.1) .missed =
              (spend limit spent (kind.costAfter first.1) .missed).rename f :=
            spend_rename limit spent _ .missed
          simp only [searchCuts_rename]
          rw [← spend_rename]
          congr 1
          funext spent
          rw [← orElse_rename]
          congr 1
          exact funext last

end Language

namespace Piece

def rename (f : Text → Text) : Piece → Piece
  | .literal text => .literal text
  | .first name language => .first (f name) language
  | .again name => .again (f name)

/-- The piece has a name of the set, or none. -/
def Within (scope : Set Text) : Piece → Prop
  | .literal _ => True
  | .first name _ => name ∈ scope
  | .again name => name ∈ scope

theorem isAgain_rename (piece : Piece) : (piece.rename f).isAgain = piece.isAgain := by
  cases piece <;> rfl

theorem names_map_rename (pieces : List Piece) :
    Piece.names (pieces.map (rename f)) = (Piece.names pieces).map f := by
  rw [Piece.names, Piece.names, List.filterMap_map, List.map_filterMap]
  congr 1
  funext piece
  cases piece <;> rfl

theorem search_rename (apart : Set.InjOn f scope) {limit : Nat} {mode : Mode}
    {pieces : List Piece} (within : ∀ piece ∈ pieces, piece.Within scope) {marks : List Mark}
    (marked : ∀ m ∈ marks, m.name ∈ scope) (t : Text) (spent : Nat) :
    search limit mode (pieces.map (rename f)) (marks.map (Mark.rename f)) t spent =
      (search limit mode pieces marks t spent).rename f := by
  induction pieces generalizing marks t spent with
  | nil =>
      simp only [List.map_nil, search]
      split
      · rw [Mark.captures_rename]
        rfl
      · rfl
  | cons piece pieces ih =>
      have here := within piece List.mem_cons_self
      replace ih := @ih fun piece member => within piece (List.mem_cons_of_mem _ member)
      cases piece with
      | literal text =>
          simp only [List.map_cons, rename, search]
          cases Text.after? text t with
          | none => rfl
          | some rest => exact ih marked rest spent
      | first name language =>
          simp only [List.map_cons, rename, search]
          rw [← Language.search_rename]
          congr 1
          funext count rest spent
          have marked' : ∀ m ∈ marks ++ [⟨name, t, count⟩], m.name ∈ scope := by
            intro m member
            rcases List.mem_append.1 member with before | new
            · exact marked m before
            · rw [List.mem_singleton.1 new]
              exact here
          rw [← ih marked', List.map_append]
          rfl
      | again name =>
          simp only [List.map_cons, rename, search, Mark.find?_rename apart here marked]
          cases Mark.find? name marks with
          | none => rfl
          | some mark =>
              simp only [Option.map_some, Mark.rename]
              cases Text.afterCopy? mark.count mark.start t with
              | none => rfl
              | some rest => exact ih marked rest spent

variable {pieces : List Piece}

theorem searchFront_rename (apart : Set.InjOn f scope)
    (within : ∀ piece ∈ pieces, piece.Within scope) (limit : Nat) (mode : Mode) (t : Text) :
    searchFront limit mode (pieces.map (rename f)) t =
      (searchFront limit mode pieces t).rename f := by
  rw [searchFront, searchFront, ← orElse_rename]
  congr 1
  · exact search_rename apart within (fun _ none => absurd none List.not_mem_nil) t 0
  · exact funext fun spent => spend_rename limit spent _ .missed

/-- What is found without regard to a limit is what a search finds that is patient enough. -/
theorem firstSplit?_rename (apart : Set.InjOn f scope)
    (within : ∀ piece ∈ pieces, piece.Within scope) (mode : Mode) (t : Text) :
    firstSplit? mode (pieces.map (rename f)) [] t =
      (firstSplit? mode pieces [] t).map fun (captures, rest) =>
        (renameEntries f captures, rest) := by
  obtain ⟨limit, patient⟩ := exists_limit mode pieces t
  have here := agrees_searchFront limit mode pieces t
  have there := agrees_searchFront limit mode (pieces.map (rename f)) t
  rw [searchFront_rename apart within] at there
  cases outcome : searchFront limit mode pieces t with
  | found captures rest =>
      rw [outcome] at here there
      rw [show firstSplit? mode pieces [] t = _ from here]
      exact there
  | missed spent =>
      rw [outcome] at here there
      rw [show firstSplit? mode pieces [] t = _ from here]
      exact there
  | gaveUp => exact absurd outcome (patient limit (Nat.le_refl limit))

end Piece

def Verdict.rename (f : Text → Text) : Verdict → Verdict
  | .matched captures rest => .matched (renameEntries f captures) rest
  | .missed => .missed
  | .gaveUp => .gaveUp

namespace Matcher

def rename (f : Text → Text) (m : Matcher) : Matcher :=
  { m with pieces := m.pieces.map (.rename f) }

theorem repeats_rename (m : Matcher) : (m.rename f).repeats = m.repeats := by
  rw [repeats, repeats, rename, List.any_map]
  exact congrArg m.pieces.any (funext Piece.isAgain_rename)

/-- A matcher with other names comes to the same verdict. -/
theorem run_rename (apart : Set.InjOn f scope) {m : Matcher}
    (within : ∀ piece ∈ m.pieces, piece.Within scope) (t : Text) :
    (m.rename f).run t = (m.run t).rename f := by
  cases again : m.repeats with
  | true =>
      have again' := m.repeats_rename (f := f).trans again
      rw [run, run, if_pos again, if_pos again']
      rw [rename, Piece.searchFront_rename apart within]
      cases Piece.searchFront m.limit m.mode m.pieces t <;> rfl
  | false =>
      rw [run_distinct again, run_distinct (m.repeats_rename.trans again), split?, split?, rename,
        Piece.firstSplit?_rename apart within]
      cases Piece.firstSplit? m.mode m.pieces [] t <;> rfl

end Matcher
end UriRouting
