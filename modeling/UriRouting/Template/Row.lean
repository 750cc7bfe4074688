/-
# UriRouting.Template.Row — the split of a text without coming back

Where no variable occurs twice, what the pieces from some point on make of the text from
some point on does not depend on what came before. So a split is found without a search: a
`Row` holds the answer of a list of pieces for every suffix of the text, the whole text
first, and the row of one more piece is read off the row behind it in one pass
(`Piece.row`). `head_row` says that the first answer of the row is `Piece.firstSplit?`.
-/
import UriRouting.Template.Piece

namespace UriRouting

set_option autoImplicit false

/-- One answer for each suffix of a text, the whole text first. -/
abbrev Row (α : Type) := List (Option α)

namespace Row

variable {α β : Type}

/-- The answer for the text from here on. -/
def here (row : Row α) : Option α := row.headD none

/-- The answer for the text after so many characters. -/
def after (row : Row α) (n : Nat) : Option α := here (row.drop n)

def ofFunction (f : Text → Option α) : Text → Row α
  | [] => [f []]
  | c :: t => f (c :: t) :: ofFunction f t

/-- A new row, each answer read off the suffix and the rest of a row beside it. -/
def along (f : Text → Row α → Option β) : Text → Row α → Row β
  | [], row => [f [] row]
  | c :: t, row => f (c :: t) row :: along f t row.tail

/-- An item, and what `row` has for the text behind it. -/
def enter (kind : Kind) (t : Text) (row : Row (Text × α)) : Option (Text × α) :=
  match kind.item? t with
  | some (item, _) => (row.after item.length).map fun (value, a) => (item ++ value, a)
  | none => none

/-- As many items as go together with an answer of `row`, with this answer. -/
def greedy (kind : Kind) : Text → Row α → Row (Text × α)
  | [], row => [row.here.map fun a => ([], a)]
  | c :: t, row =>
    let later := greedy kind t row.tail
    (enter kind (c :: t) (none :: later)).or (row.here.map fun a => ([], a)) :: later

/-- A text that stands here, and what `row` has for the text behind it. -/
def skip (text t : Text) (row : Row α) : Option α :=
  match Text.after? text t with
  | some _ => row.after text.length
  | none => none

end Row

namespace Language

/-- The longest text of a language that goes together with an answer of `row`. -/
def row {α : Type} : Language → Text → Row α → Row (Text × α)
  | .exactly text, t, row => Row.along (fun t row => (row.skip text t).map (text, ·)) t row
  | .items kind false, t, row => Row.greedy kind t row
  | .items kind true, t, row => Row.along (Row.enter kind) t (Row.greedy kind t row)

end Language

namespace Piece

/-- The answers of a list of pieces in which no variable occurs again. -/
def row (mode : Mode) : List Piece → Text → Row (Captures × Text)
  | [], t => Row.ofFunction (fun t => if mode.fits t then some ([], t) else none) t
  | .literal text :: pieces, t =>
    Row.along (fun t row => row.skip text t) t (row mode pieces t)
  | .first name language :: pieces, t =>
    (language.row t (row mode pieces t)).map fun answer =>
      answer.map fun (value, captures, rest) => ((name, value) :: captures, rest)
  | .again _ :: _, _ => []

end Piece

namespace Row

variable {α β : Type}

/-- The row holds the answers of `f` for a text and its suffixes. -/
def Answers (f : Text → Option α) : Text → Row α → Prop
  | [], row => row = [f []]
  | c :: t, row => ∃ later, row = f (c :: t) :: later ∧ Answers f t later

theorem Answers.here_eq {f : Text → Option α} {t : Text} {row : Row α}
    (h : Answers f t row) : row.here = f t := by
  cases t with
  | nil => rw [h]; rfl
  | cons c t => obtain ⟨later, rfl, _⟩ := h; rfl

theorem Answers.after_eq {f : Text → Option α} {front rest : Text} {row : Row α}
    (h : Answers f (front ++ rest) row) : row.after front.length = f rest := by
  induction front generalizing row with
  | nil => exact h.here_eq
  | cons c front ih => obtain ⟨later, rfl, h⟩ := h; exact ih h

theorem answers_ofFunction (f : Text → Option α) (t : Text) : Answers f t (ofFunction f t) := by
  induction t with
  | nil => rfl
  | cons c t ih => exact ⟨_, rfl, ih⟩

theorem Answers.map {f : Text → Option α} {t : Text} {row : Row α} (h : Answers f t row)
    (g : α → β) : Answers (fun t => (f t).map g) t (List.map (Option.map g) row) := by
  induction t generalizing row with
  | nil => rw [h]; rfl
  | cons c t ih =>
    obtain ⟨later, rfl, h⟩ := h
    exact ⟨_, rfl, ih h⟩

theorem answers_along {f : Text → Option α} {g : Text → Option β}
    {step : Text → Row α → Option β} (same : ∀ t row, Answers f t row → step t row = g t)
    {t : Text} {row : Row α} (h : Answers f t row) : Answers g t (along step t row) := by
  induction t generalizing row with
  | nil => exact congrArg (fun a => [a]) (same [] row h)
  | cons c t ih =>
    refine ⟨along step t row.tail, congrArg (· :: along step t row.tail) (same _ row h), ih ?_⟩
    obtain ⟨later, rfl, h⟩ := h
    exact h

theorem skip_eq {f : Text → Option α} {t : Text} {row : Row α} (h : Answers f t row)
    (text : Text) : row.skip text t = (Text.after? text t).bind f := by
  unfold skip
  cases e : Text.after? text t with
  | none => rfl
  | some rest =>
    rw [Text.after?_eq_some] at e
    subst e
    exact h.after_eq

/-- The best of some cuts, by what comes after the cut. -/
def best (f : Text → Option α) (cuts : List (Text × Text)) : Option (Text × α) :=
  cuts.findSome? fun (value, rest) => (f rest).map (value, ·)

theorem cuts_append (front taken here : Text) (items : List (Text × Text)) :
    Language.cuts (front ++ taken) here items =
      (Language.cuts taken here items).map fun (value, rest) => (front ++ value, rest) := by
  induction items generalizing taken here with
  | nil => rfl
  | cons first more ih =>
    obtain ⟨item, rest⟩ := first
    simp only [Language.cuts, List.append_assoc, ih, List.map_append, List.map_cons, List.map_nil]

theorem best_cuts_append (f : Text → Option α) (front here : Text)
    (items : List (Text × Text)) : best f (Language.cuts front here items) =
      (best f (Language.cuts [] here items)).map fun (value, a) => (front ++ value, a) := by
  have h := cuts_append front [] here items
  rw [List.append_nil] at h
  rw [h]
  generalize Language.cuts [] here items = cuts
  unfold best
  induction cuts with
  | nil => rfl
  | cons cut cuts ih =>
    obtain ⟨value, rest⟩ := cut
    simp only [List.map_cons, List.findSome?_cons]
    cases f rest with
    | none => simpa using ih
    | some a => rfl

theorem best_cuts_cons (f : Text → Option α) (taken here item rest : Text)
    (more : List (Text × Text)) :
    best f (Language.cuts taken here ((item, rest) :: more)) =
      (best f (Language.cuts (taken ++ item) rest more)).or ((f here).map (taken, ·)) := by
  unfold best
  rw [Language.cuts, List.findSome?_append]
  congr 1
  simp only [List.findSome?_cons, List.findSome?_nil]
  cases f here <;> rfl

/-- The best cut behind items of a kind, or behind at least one of them. -/
def bestItems (kind : Kind) (f : Text → Option α) (t : Text) : Option (Text × α) :=
  best f (Language.cuts [] t (kind.items t))

theorem enter_cons {kind : Kind} {f : Text → Option (Text × α)} {c : Char} {t : Text}
    {row : Row (Text × α)} (h : Answers f t row) (skipped : Option (Text × α)) :
    enter kind (c :: t) (skipped :: row) =
      match kind.item? (c :: t) with
      | some (item, rest) => (f rest).map fun (value, a) => (item ++ value, a)
      | none => none := by
  unfold enter
  cases e : kind.item? (c :: t) with
  | none => rfl
  | some cut =>
    obtain ⟨item, rest⟩ := cut
    obtain ⟨_, more, rfl, eq⟩ := Kind.item?_eq_some e
    obtain ⟨rfl, rfl⟩ := List.cons.inj eq
    have after : Row.after (skipped :: row) (more.length + 1) = f rest := h.after_eq
    simp only [List.length_cons, after]

theorem enter_eq {kind : Kind} {f : Text → Option (Text × α)} {t : Text} {row : Row (Text × α)}
    (h : Answers f t row) : enter kind t row =
      match kind.item? t with
      | some (item, rest) => (f rest).map fun (value, a) => (item ++ value, a)
      | none => none := by
  cases t with
  | nil => rfl
  | cons c t =>
    obtain ⟨later, rfl, h⟩ := h
    exact enter_cons h _

theorem bestItems_eq (kind : Kind) (f : Text → Option α) (t : Text) : bestItems kind f t =
    (match kind.item? t with
      | some (item, rest) =>
        (bestItems kind f rest).map fun (cut : Text × α) => (item ++ cut.1, cut.2)
      | none => none).or ((f t).map ([], ·)) := by
  rw [bestItems, Kind.items_eq]
  cases kind.item? t with
  | none =>
    simp only [Language.cuts, best, List.findSome?_cons, List.findSome?_nil]
    cases f t <;> rfl
  | some cut =>
    obtain ⟨item, rest⟩ := cut
    simp only [best_cuts_cons, List.nil_append]
    rw [best_cuts_append]
    rfl

theorem answers_greedy (kind : Kind) {f : Text → Option α} {t : Text} {row : Row α}
    (h : Answers f t row) : Answers (bestItems kind f) t (greedy kind t row) := by
  induction t generalizing row with
  | nil =>
    show [_] = [_]
    rw [h.here_eq, bestItems_eq]
    rfl
  | cons c t ih =>
    have here := h.here_eq
    obtain ⟨later, rfl, h⟩ := h
    refine ⟨greedy kind t later, ?_, ih h⟩
    show (enter kind (c :: t) (none :: greedy kind t later)).or _ :: _ = _
    rw [enter_cons (ih h), bestItems_eq, here]
    rfl

/-- The cut that is best is the one that the language tries first. -/
theorem answers_row (language : Language) {f : Text → Option α} {t : Text} {row : Row α}
    (h : Answers f t row) :
    Answers (fun t => best f (language.stops t)) t (language.row t row) := by
  match language with
  | .exactly text =>
    refine answers_along (fun t row h => ?_) h
    rw [skip_eq h, Language.stops]
    cases Text.after? text t with
    | none => rfl
    | some rest => simp [best]
  | .items kind false => exact answers_greedy kind h
  | .items kind true =>
    refine answers_along (fun t row h => ?_) (answers_greedy kind h)
    rw [enter_eq h, Language.stops, Kind.items_eq]
    cases kind.item? t with
    | none => rfl
    | some cut =>
      obtain ⟨item, rest⟩ := cut
      exact (best_cuts_append f item rest (kind.items rest)).symm

end Row

namespace Piece

/-- What came before does not matter where no variable occurs again. -/
theorem firstSplit?_captures (mode : Mode) {pieces : List Piece}
    (distinct : pieces.any isAgain = false) (captures : Captures) (t : Text) :
    firstSplit? mode pieces captures t =
      (firstSplit? mode pieces [] t).map fun (later, rest) => (captures ++ later, rest) := by
  induction pieces generalizing captures t with
  | nil => by_cases h : mode.fits t <;> simp [firstSplit?, h]
  | cons piece pieces ih =>
    simp only [List.any_cons, Bool.or_eq_false_iff] at distinct
    match piece with
    | .literal text =>
      simp only [firstSplit?]
      cases Text.after? text t with
      | none => rfl
      | some rest => exact ih distinct.2 captures rest
    | .first name language =>
      simp only [firstSplit?]
      generalize language.stops t = cuts
      induction cuts with
      | nil => rfl
      | cons cut cuts more =>
        obtain ⟨value, rest⟩ := cut
        simp only [List.findSome?_cons, List.nil_append]
        rw [ih distinct.2 (captures ++ _), ih distinct.2 [_]]
        cases firstSplit? mode pieces [] rest with
        | none => simpa using more
        | some a => simp
    | .again name => exact absurd distinct.1 (by simp [isAgain])

theorem firstSplit?_first (mode : Mode) {pieces : List Piece}
    (distinct : pieces.any isAgain = false) (name : Text) (language : Language) (t : Text) :
    firstSplit? mode (.first name language :: pieces) [] t =
      (Row.best (firstSplit? mode pieces []) (language.stops t)).map
        fun (value, captures, rest) => ((name, value) :: captures, rest) := by
  simp only [firstSplit?, Row.best]
  generalize language.stops t = cuts
  induction cuts with
  | nil => rfl
  | cons cut cuts ih =>
    obtain ⟨value, rest⟩ := cut
    simp only [List.findSome?_cons, List.nil_append]
    rw [firstSplit?_captures mode distinct [_]]
    cases firstSplit? mode pieces [] rest with
    | none => simpa using ih
    | some a => simp

/-- A row holds the first split of every suffix of the text. -/
theorem answers_row (mode : Mode) {pieces : List Piece} (distinct : pieces.any isAgain = false)
    (t : Text) : Row.Answers (firstSplit? mode pieces []) t (row mode pieces t) := by
  induction pieces with
  | nil => exact Row.answers_ofFunction _ t
  | cons piece pieces ih =>
    simp only [List.any_cons, Bool.or_eq_false_iff] at distinct
    match piece with
    | .literal text =>
      refine Row.answers_along (fun t row h => ?_) (ih distinct.2)
      rw [Row.skip_eq h, firstSplit?]
      cases Text.after? text t <;> rfl
    | .first name language =>
      have h := (Row.answers_row language (ih distinct.2)).map fun (value, captures, rest) =>
        ((name, value) :: captures, rest)
      exact (funext (firstSplit?_first mode distinct.2 name language)) ▸ h
    | .again name => exact absurd distinct.1 (by simp [isAgain])

theorem head_row (mode : Mode) {pieces : List Piece} (distinct : pieces.any isAgain = false)
    (t : Text) : (row mode pieces t).here = firstSplit? mode pieces [] t :=
  (answers_row mode distinct t).here_eq

end Piece
end UriRouting
