/-
# UriRouting.Proofs.SearchOrder — all splits of a text, first one first

`Piece.firstSplit?` stops at the first split that works.  `Piece.splits` goes on: it lists
every split in the order in which they would be tried, so that the first split is its head
(`head?_splits`).  The order is the reverse lexicographic one of the sizes that the
variables get (`pairwise_splits`), hence the head is above all others, wherever in the text
the variables compete for characters.
-/
import UriRouting.Proofs.Language

namespace UriRouting

set_option autoImplicit false

/-- How many octets each variable got. -/
def Captures.sizes (captures : Captures) : List Nat :=
  captures.map fun (_, share) => Text.size share

namespace Piece

/-- All splits of a text in the order in which they are tried. -/
def splits (mode : Mode) : List Piece → Captures → Text → List (Captures × Text)
  | [], captures, t => if mode.fits t then [(captures, t)] else []
  | .literal text :: pieces, captures, t =>
      match Text.after? text t with
      | some rest => splits mode pieces captures rest
      | none => []
  | .first name language :: pieces, captures, t =>
      (language.stops t).flatMap fun (value, rest) =>
        splits mode pieces (captures ++ [(name, value)]) rest
  | .again name :: pieces, captures, t =>
      match captures.lookup name with
      | some value =>
          match Text.after? value t with
          | some rest => splits mode pieces captures rest
          | none => []
      | none => []

variable {mode : Mode}

/-- The first split is the first of all splits. -/
theorem head?_splits (pieces : List Piece) (captures : Captures) (t : Text) :
    (splits mode pieces captures t).head? = firstSplit? mode pieces captures t := by
  induction pieces generalizing captures t with
  | nil =>
      simp only [splits, firstSplit?]
      split <;> rfl
  | cons piece pieces ih =>
      cases piece with
      | literal text =>
          simp only [splits, firstSplit?]
          cases Text.after? text t with
          | none => rfl
          | some rest => exact ih captures rest
      | first name language =>
          simp only [splits, firstSplit?, List.head?_flatMap, ih]
      | again name =>
          simp only [splits, firstSplit?]
          cases captures.lookup name with
          | none => rfl
          | some value =>
              simp only
              cases Text.after? value t with
              | none => rfl
              | some rest => exact ih captures rest

/-- A split keeps what the variables before it got. -/
theorem prefix_of_mem_splits {pieces : List Piece} {captures later : Captures} {t rest : Text}
    (h : (later, rest) ∈ splits mode pieces captures t) : captures <+: later := by
  induction pieces generalizing captures t with
  | nil =>
      simp only [splits] at h
      split at h
      · obtain ⟨rfl, rfl⟩ := Prod.mk.inj (List.mem_singleton.1 h)
        exact List.prefix_rfl
      · cases h
  | cons piece pieces ih =>
      cases piece with
      | literal text =>
          simp only [splits] at h
          split at h
          · exact ih h
          · cases h
      | first name language =>
          simp only [splits, List.mem_flatMap] at h
          obtain ⟨⟨value, after⟩, -, h⟩ := h
          exact (List.prefix_append captures _).trans (ih h)
      | again name =>
          simp only [splits] at h
          split at h
          · split at h
            · exact ih h
            · cases h
          · cases h

theorem sizes_lt_of_prefix {captures : Captures} {name : Text} {less more : Text}
    {below above : Captures} (shorter : Text.size less < Text.size more)
    (hbelow : captures ++ [(name, less)] <+: below)
    (habove : captures ++ [(name, more)] <+: above) : below.sizes < above.sizes := by
  obtain ⟨tail, rfl⟩ := hbelow
  obtain ⟨tail', rfl⟩ := habove
  simp only [Captures.sizes, List.map_append, List.append_assoc, List.map_cons,
    List.cons_append, List.nil_append]
  exact List.append_left_lt (List.cons_lt_cons_iff.2 (Or.inl shorter))

/-- Splits that are tried later give less to the first variable on which they differ. -/
theorem pairwise_splits (pieces : List Piece) (captures : Captures) (t : Text) :
    (splits mode pieces captures t).Pairwise fun a b => b.1.sizes < a.1.sizes := by
  induction pieces generalizing captures t with
  | nil =>
      simp only [splits]
      split
      · exact List.pairwise_singleton _ _
      · exact .nil
  | cons piece pieces ih =>
      cases piece with
      | literal text =>
          simp only [splits]
          split
          · exact ih captures _
          · exact .nil
      | first name language =>
          refine List.pairwise_flatMap.2 ⟨fun cut _ => ih _ cut.2, ?_⟩
          refine (Language.pairwise_stops language t).imp fun {a b} shorter => ?_
          rintro ⟨above, rest⟩ ha ⟨below, rest'⟩ hb
          exact sizes_lt_of_prefix shorter (prefix_of_mem_splits hb) (prefix_of_mem_splits ha)
      | again name =>
          simp only [splits]
          split
          · split
            · exact ih captures _
            · exact .nil
          · exact .nil

end Piece
end UriRouting
