/-
# UriRouting.Template.Search — looking for a split with bounded patience

`search` walks through the splits in the order of `Piece.firstSplit?` and counts how often
it comes back to an alternative that it had put aside. Two things are put aside: leaving a
variable before its next item, and, for kinds that admit encoded octets, reading an item as
one of these. `searchFront` is the search on a whole text. A mode that looks at what follows
a match puts aside one thing more, at each place of the text: to start behind it. No start
but the front leads anywhere, yet a search that misses has come back to all of them.

When the count passes the limit the search is given up. The limit is only ever compared
with the count, so it decides whether there is an answer and never which
(`Piece.agrees_searchFront`).
-/
import UriRouting.Template.Piece

namespace UriRouting

set_option autoImplicit false

inductive Outcome where
  | found (captures : Captures) (rest : Text)
  /-- Nothing is left to try; so many alternatives have been come back to. -/
  | missed (spent : Nat)
  | gaveUp
  deriving Repr, DecidableEq

namespace Outcome

/-- Comes back to `cost` more alternatives, if the limit allows it. -/
def spend (limit spent cost : Nat) (next : Nat → Outcome) : Outcome :=
  if limit < spent + cost then .gaveUp else next (spent + cost)

/-- Goes on where a search has missed. -/
def orElse (o : Outcome) (next : Nat → Outcome) : Outcome :=
  match o with
  | .missed spent => next spent
  | .found captures rest => .found captures rest
  | .gaveUp => .gaveUp

end Outcome

/-- How many more starts a search in this mode has put aside once it has missed at the front:
one at each character, and one at the end. -/
def Mode.laterStarts : Mode → Text → Nat
  | .equals, _ | .startsWith, _ => 0
  | .startsWithSegment, t => t.length + 1

namespace Kind

/-- How often a search comes back to an alternative before the item is read: an encoded
octet is the second reading of an item. -/
def costBefore (item : Text) : Nat := if item.length = 1 then 0 else 1

/-- How often it does so once the item has led nowhere: a single character leaves the second
reading to be tried. -/
def costAfter (kind : Kind) (item : Text) : Nat :=
  if kind.admitsEncoded ∧ item.length = 1 then 1 else 0

/-- How often it does so to see that there is no further item. -/
def costNone (kind : Kind) : Nat := if kind.admitsEncoded then 1 else 0

end Kind

namespace Language

/-- Tries the cuts behind items in the order of `cuts`, telling `next` how many characters
stand before the cut and which text after it. -/
def searchCuts (limit : Nat) (kind : Kind) (next : Nat → Text → Nat → Outcome) :
    (taken : Nat) → (here : Text) → (items : List (Text × Text)) → (spent : Nat) → Outcome
  | taken, here, [], spent =>
    Outcome.spend limit spent (kind.costNone + 1) fun spent => next taken here spent
  | taken, here, (item, rest) :: more, spent =>
    Outcome.spend limit spent (Kind.costBefore item) fun spent =>
      (searchCuts limit kind next (taken + item.length) rest more spent).orElse fun spent =>
        Outcome.spend limit spent (kind.costAfter item + 1) fun spent => next taken here spent

/-- Tries the cuts of `stops` in their order. -/
def search (limit : Nat) (next : Nat → Text → Nat → Outcome) :
    Language → Text → (spent : Nat) → Outcome
  | .exactly text, t, spent =>
    match Text.after? text t with
    | some rest => next text.length rest spent
    | none => .missed spent
  | .items kind false, t, spent => searchCuts limit kind next 0 t (kind.items t) spent
  | .items kind true, t, spent =>
    match kind.items t with
    | [] => Outcome.spend limit spent kind.costNone .missed
    | (item, rest) :: more =>
      Outcome.spend limit spent (Kind.costBefore item) fun spent =>
        (searchCuts limit kind next item.length rest more spent).orElse fun spent =>
          Outcome.spend limit spent (kind.costAfter item) .missed

end Language

/-- Where the text of a variable starts, and how many characters it has: so long as a search
goes on nothing is copied. -/
structure Mark where
  name : Text
  start : Text
  count : Nat
  deriving Repr, DecidableEq

namespace Mark

def value (m : Mark) : Text := m.start.take m.count

def captures (marks : List Mark) : Captures := marks.map fun m => (m.name, m.value)

def find? (name : Text) (marks : List Mark) : Option Mark := marks.find? fun m => name == m.name

theorem lookup_captures (name : Text) (marks : List Mark) :
    (captures marks).lookup name = (find? name marks).map value := by
  induction marks with
  | nil => rfl
  | cons m marks ih =>
    cases h : name == m.name with
    | true => simp [captures, find?, List.lookup_cons, h]
    | false =>
      simp only [captures, find?, List.map_cons, List.lookup_cons, List.find?_cons, h]
      exact ih

end Mark

namespace Piece

/-- Splits a text along pieces, where `marks` tell what the variables before them got. -/
def search (limit : Nat) (mode : Mode) : List Piece → List Mark → Text → (spent : Nat) → Outcome
  | [], marks, t, spent =>
    if mode.fits t then .found (Mark.captures marks) t else .missed spent
  | .literal text :: pieces, marks, t, spent =>
    match Text.after? text t with
    | some rest => search limit mode pieces marks rest spent
    | none => .missed spent
  | .first name language :: pieces, marks, t, spent =>
    language.search limit
      (fun count rest spent => search limit mode pieces (marks ++ [⟨name, t, count⟩]) rest spent)
      t spent
  | .again name :: pieces, marks, t, spent =>
    match Mark.find? name marks with
    | some mark =>
      match Text.afterCopy? mark.count mark.start t with
      | some rest => search limit mode pieces marks rest spent
      | none => .missed spent
    | none => .missed spent

/-- The first split of a whole text, from the front or, in vain, from further on. -/
def searchFront (limit : Nat) (mode : Mode) (pieces : List Piece) (t : Text) : Outcome :=
  (search limit mode pieces [] t 0).orElse fun spent =>
    Outcome.spend limit spent (mode.laterStarts t) .missed

end Piece

namespace Outcome

/-- The outcome is right about what there is to be found. -/
def Agrees : Outcome → Option (Captures × Text) → Prop
  | .found captures rest, a => a = some (captures, rest)
  | .missed _, a => a = none
  | .gaveUp, _ => True

theorem agrees_spend {limit spent cost : Nat} {next : Nat → Outcome}
    {a : Option (Captures × Text)} (h : ∀ spent, (next spent).Agrees a) :
    (spend limit spent cost next).Agrees a := by
  unfold spend
  split
  · trivial
  · exact h _

theorem agrees_orElse {o : Outcome} {next : Nat → Outcome} {a b : Option (Captures × Text)}
    (ho : o.Agrees a) (h : ∀ spent, (next spent).Agrees b) :
    (o.orElse next).Agrees (a.or b) := by
  match o with
  | .found captures rest => rw [show a = some (captures, rest) from ho]; rfl
  | .missed spent => rw [show a = none from ho]; exact h spent
  | .gaveUp => trivial

theorem agrees_singleton {o : Outcome} {f : Text × Text → Option (Captures × Text)}
    {cut : Text × Text} (h : o.Agrees (f cut)) : o.Agrees ([cut].findSome? f) := by
  rw [List.findSome?_cons, List.findSome?_nil]
  cases e : f cut <;> rwa [e] at h

end Outcome

namespace Language

variable {limit : Nat} {next : Nat → Text → Nat → Outcome}
  {f : Text × Text → Option (Captures × Text)}

theorem agrees_searchCuts (kind : Kind) (taken here : Text) (items : List (Text × Text))
    (h : ∀ value rest, (value, rest) ∈ cuts taken here items →
      ∀ spent, (next value.length rest spent).Agrees (f (value, rest)))
    (spent : Nat) : (searchCuts limit kind next taken.length here items spent).Agrees
      ((cuts taken here items).findSome? f) := by
  induction items generalizing taken here spent with
  | nil =>
    exact Outcome.agrees_spend fun spent =>
      Outcome.agrees_singleton (h taken here List.mem_cons_self spent)
  | cons first more ih =>
    obtain ⟨item, rest⟩ := first
    refine Outcome.agrees_spend fun spent => ?_
    rw [cuts, List.findSome?_append]
    have later := ih (taken ++ item) rest
      (fun value rest mem => h value rest (List.mem_append_left _ mem)) spent
    rw [List.length_append] at later
    refine Outcome.agrees_orElse later fun spent => Outcome.agrees_spend fun spent => ?_
    exact Outcome.agrees_singleton
      (h taken here (List.mem_append_right _ List.mem_cons_self) spent)

theorem agrees_search (language : Language) (t : Text)
    (h : ∀ value rest, (value, rest) ∈ language.stops t →
      ∀ spent, (next value.length rest spent).Agrees (f (value, rest))) (spent : Nat) :
    (language.search limit next t spent).Agrees ((language.stops t).findSome? f) := by
  match language with
  | .exactly text =>
    simp only [search]
    simp only [stops] at h ⊢
    cases e : Text.after? text t with
    | none => rfl
    | some rest =>
      simp only [e] at h
      exact Outcome.agrees_singleton (h text rest List.mem_cons_self spent)
  | .items kind false => exact agrees_searchCuts kind [] t _ h spent
  | .items kind true =>
    simp only [search]
    simp only [stops] at h ⊢
    cases e : kind.items t with
    | nil => exact Outcome.agrees_spend fun _ => rfl
    | cons first more =>
      obtain ⟨item, rest⟩ := first
      simp only [e] at h
      refine Outcome.agrees_spend fun spent => ?_
      have last : ∀ spent, (Outcome.spend limit spent (kind.costAfter item) .missed).Agrees none :=
        fun _ => Outcome.agrees_spend fun _ => rfl
      rw [← Option.or_none (o := (cuts item rest more).findSome? f)]
      exact Outcome.agrees_orElse (agrees_searchCuts kind item rest more h spent) last

end Language

/-- A search that is not given up finds the first split, or there is none. -/
theorem Piece.agrees_search (limit : Nat) (mode : Mode) (pieces : List Piece)
    (marks : List Mark) (t : Text) (spent : Nat) :
    (search limit mode pieces marks t spent).Agrees
      (firstSplit? mode pieces (Mark.captures marks) t) := by
  induction pieces generalizing marks t spent with
  | nil =>
    simp only [search, firstSplit?]
    split <;> rfl
  | cons piece pieces ih =>
    match piece with
    | .literal text =>
      simp only [search, firstSplit?]
      cases Text.after? text t with
      | none => rfl
      | some rest => exact ih marks rest spent
    | .first name language =>
      refine Language.agrees_search language t (fun value rest mem spent => ?_) spent
      have whole := Language.append_of_mem_stops mem
      have same : Mark.captures marks ++ [(name, value)] =
          Mark.captures (marks ++ [⟨name, t, value.length⟩]) := by
        simp [Mark.captures, Mark.value, whole]
      simp only [same]
      exact ih _ rest spent
    | .again name =>
      simp only [search, firstSplit?, Mark.lookup_captures]
      cases Mark.find? name marks with
      | none => rfl
      | some mark =>
        simp only [Option.map_some, Text.afterCopy?_eq]
        cases e : Text.after? mark.value t with
        | none =>
          rw [Mark.value] at e
          rw [e]
          rfl
        | some rest =>
          rw [Mark.value] at e
          rw [e]
          exact ih marks rest spent

theorem Piece.agrees_searchFront (limit : Nat) (mode : Mode) (pieces : List Piece) (t : Text) :
    (searchFront limit mode pieces t).Agrees (firstSplit? mode pieces [] t) := by
  rw [← Option.or_none (o := firstSplit? mode pieces [] t)]
  exact Outcome.agrees_orElse (agrees_search limit mode pieces [] t 0) fun _ =>
    Outcome.agrees_spend fun _ => rfl

end UriRouting
