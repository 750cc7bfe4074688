/-
# UriRouting.Proofs.Longest — without repeated names the first split is the longest

The search gives most to the first variable, not to all of them together.  Where no name is
repeated it still ends as far on as any split does: were another split to end behind the
first one, the two would cross in some token, that one piece would lie within the other, and
from the start of the inner to the end of the outer there would be a text of the same
language (`Language.admits_inside`), which the search would have tried before
(`Language.exists_before`).  The inner piece may start within an encoded octet of the outer
one; `Kind.IsValue.of_append` sees to that.  `Piece.suffix_of_first` is the induction along
the pieces, for a split that starts further back than the search.

So templates, patterns of paths and the routes of a router match the longest front that they
can (`longest_of_distinct`).
-/
import UriRouting.Proofs.Matching
import UriRouting.Proofs.Upkeep

namespace UriRouting

set_option autoImplicit false

/-- From the start of an inner text to the end of an outer one the language goes through. -/
theorem Language.admits_inside {language : Language} {front value more : Text}
    (inner : language.Admits value) (outer : language.Admits (front ++ (value ++ more))) :
    language.Admits (value ++ more) := by
  cases language with
  | exactly text =>
      simp only [Admits] at inner outer ⊢
      subst inner
      have lengths := congrArg List.length outer
      simp only [List.length_append] at lengths
      have : more = [] := List.eq_nil_of_length_eq_zero (by omega)
      rw [this, List.append_nil]
  | items kind required =>
      constructor
      · exact outer.1.of_append
      · intro needed empty
        exact inner.2 needed (List.append_eq_nil_iff.1 empty).1

/-- The texts that are tried before a cut are the longer ones. -/
theorem Language.mem_before {language : Language} {t value rest longer rest' : Text}
    {before after : List (Text × Text)}
    (stops : language.stops t = before ++ (value, rest) :: after)
    (member : (longer, rest') ∈ language.stops t) (lt : Text.size value < Text.size longer) :
    (longer, rest') ∈ before := by
  have ordered := language.pairwise_stops t
  rw [stops] at ordered member
  rcases List.mem_append.1 member with member | member
  · exact member
  · rcases List.mem_cons.1 member with same | member
    · rw [(Prod.mk.inj same).1] at lt
      exact absurd lt (Nat.lt_irrefl _)
    · have shorter := List.rel_of_pairwise_cons (List.pairwise_append.1 ordered).2.1 member
      exact absurd (Nat.lt_trans lt shorter) (Nat.lt_irrefl _)

/-- Where a cut of a text that starts further back ends further on, a cut that ends there too
was tried before. -/
theorem Language.exists_before {language : Language} {t whole value rest value' rest' : Text}
    {before after : List (Text × Text)} (back : t <:+ whole)
    (stops : language.stops t = before ++ (value, rest) :: after)
    (other : (value', rest') ∈ language.stops whole) (cross : rest'.length < rest.length) :
    ∃ longer, (longer, rest') ∈ before := by
  have here : (value, rest) ∈ language.stops t := by
    rw [stops]
    exact List.mem_append_right before List.mem_cons_self
  obtain ⟨rfl, admits⟩ := Language.mem_stops_iff.1 here
  obtain ⟨rfl, admits'⟩ := Language.mem_stops_iff.1 other
  have inner : rest <:+ value' ++ rest' := (List.suffix_append value rest).trans back
  obtain ⟨more, rfl⟩ := List.suffix_of_suffix_length_le (List.suffix_append value' rest') inner
    (Nat.le_of_lt cross)
  obtain ⟨front, whole⟩ := back
  have pieces : value' = front ++ (value ++ more) := by
    apply (List.append_left_inj rest').1
    rw [← whole]
    simp only [List.append_assoc]
  rw [pieces] at admits'
  have through := Language.admits_inside admits admits'
  have nonempty : more ≠ [] := by
    rintro rfl
    exact absurd cross (Nat.lt_irrefl _)
  have longer : Text.size value < Text.size (value ++ more) := by
    have := Text.size_pos nonempty
    rw [Text.size_append]
    omega
  refine ⟨value ++ more, Language.mem_before stops ?_ longer⟩
  exact Language.mem_stops_iff.2 ⟨by rw [List.append_assoc], through⟩

namespace Piece

variable {mode : Mode}

/-- Where there is any split there is a first one, whatever came before. -/
theorem firstSplit?_ne_none {pieces : List Piece} (distinct : pieces.any isAgain = false)
    {captures captures' later : Captures} {t rest : Text}
    (member : (later, rest) ∈ splits mode pieces captures t) :
    firstSplit? mode pieces captures' t ≠ none := by
  intro none
  rw [firstSplit?_captures mode distinct, Option.map_eq_none_iff] at none
  have here := firstSplit?_captures mode distinct captures t
  rw [none, ← head?_splits, Option.map_none, List.head?_eq_none_iff] at here
  rw [here] at member
  cases member

/-- What the first split leaves is all that any split leaves, also one that starts further
back. -/
theorem suffix_of_first {pieces : List Piece} (distinct : pieces.any isAgain = false)
    {captures captures' later later' : Captures} {t whole rest rest' : Text} (back : t <:+ whole)
    (first : firstSplit? mode pieces captures t = some (later, rest))
    (other : (later', rest') ∈ splits mode pieces captures' whole) : rest <:+ rest' := by
  induction pieces generalizing captures captures' t whole with
  | nil =>
      simp only [firstSplit?, splits] at first other
      split at first
      · split at other
        · cases first
          cases List.mem_singleton.1 other
          exact back
        · cases other
      · cases first
  | cons piece pieces ih =>
      simp only [List.any_cons, Bool.or_eq_false_iff] at distinct
      cases piece with
      | literal text =>
          simp only [firstSplit?, splits] at first other
          split at first
          · rename_i r found
            split at other
            · rename_i r' found'
              rw [Text.after?_eq_some] at found found'
              subst found found'
              have le := back.length_le
              simp only [List.length_append] at le
              have inner : r <:+ text ++ r' := (List.suffix_append text r).trans back
              exact ih distinct.2 (List.suffix_of_suffix_length_le inner
                (List.suffix_append text r') (by omega)) first other
            · cases other
          · cases first
      | first name language =>
          obtain ⟨⟨value', r'⟩, cut', next'⟩ := List.mem_flatMap.1 other
          obtain ⟨before, ⟨value, r⟩, after, stops, next, failed⟩ :=
            List.findSome?_eq_some_iff.1 first
          rcases Nat.lt_or_ge r'.length r.length with cross | le
          · -- the search would have ended this piece where the other split does
            obtain ⟨longer, tried⟩ := Language.exists_before back stops cut' cross
            exact absurd (failed _ tried) (firstSplit?_ne_none distinct.2 next')
          · have cut : (value, r) ∈ language.stops t := by
              rw [stops]
              exact List.mem_append_right before List.mem_cons_self
            obtain ⟨rfl, -⟩ := Language.mem_stops_iff.1 cut
            obtain ⟨rfl, -⟩ := Language.mem_stops_iff.1 cut'
            have inner : r <:+ value' ++ r' := (List.suffix_append value r).trans back
            exact ih distinct.2
              (List.suffix_of_suffix_length_le inner (List.suffix_append value' r') le) next next'
      | again name => exact absurd distinct.1 (by simp [isAgain])

end Piece

theorem Text.size_le_of_prefix {front longer : Text} (h : front <+: longer) :
    size front ≤ size longer := by
  obtain ⟨more, rfl⟩ := h
  rw [size_append]
  exact Nat.le_add_right _ _

namespace Template

variable {t : Template} {text : Text}

/-- A front of the text that is split, such that no longer one is. -/
def LongestFront (t : Template) (text front : Text) : Prop :=
  (∃ s : t.Split text, s.front = front) ∧ ∀ s : t.Split text, s.front <+: front

/-- Without a repeated name the split that is found ends as far on as any. -/
theorem longestFront_of_matched (distinct : t.variableNames.Nodup) {s : t.Split text}
    (matched : t.verdict text = .matched s.captures s.rest) : t.LongestFront text s.front := by
  constructor
  · exact ⟨s, rfl⟩
  intro other
  have first : t.matcher.split? text = some (s.captures, s.rest) := Matcher.run_matched matched
  have left : s.rest <:+ other.rest :=
    Piece.suffix_of_first (repeats_eq_false_iff.2 distinct) (List.suffix_refl text) first
      other.mem_splits
  have here : s.front ++ s.rest = text := s.whole.symm
  have there : other.front ++ other.rest = text := other.whole.symm
  have total := congrArg List.length (here.trans there.symm)
  rw [List.length_append, List.length_append] at total
  have less := left.length_le
  exact List.prefix_of_prefix_length_le ⟨_, there⟩ ⟨_, here⟩ (by omega)

theorem longestFront_of_parse? (distinct : t.variableNames.Nodup) {parsed : Parsed}
    (h : t.parse? text = some parsed) :
    t.LongestFront text (Text.splitAt parsed.size text).1 := by
  obtain ⟨s, -, matched, rfl⟩ := exists_matched_of_parse? h
  rw [s.splitAt_size]
  exact longestFront_of_matched distinct matched

end Template

/-- **Greedy is longest when no name repeats.**  What a template matches is the greatest size
of any split, and what a pattern of paths or a route of a router matches is the longest front
of the path that can be split. -/
theorem longest_of_distinct :
    (∀ (t : Template) (text : Text) (n : Nat), t.variableNames.Nodup →
      t.matchedSize? text = some n →
        (∃ s : t.Split text, s.size = n) ∧ ∀ s : t.Split text, s.size ≤ n) ∧
      (∀ (p : PathPattern) (path : Text) (m : Matching), p.template.Good →
        p.template.template.variableNames.Nodup → (p.matching? path).answer.1 = some m →
          p.template.template.LongestFront path m.matched) ∧
      ∀ (τ σ : Type) [ScoreNumber σ] (r : Router τ σ) (start : Nat) (remaining : Text)
        (resolved : Resolution), r.Good → (r.resolve start remaining).answer.1 = some resolved →
          ∃ route, r.route? resolved.selection = some route ∧
            (route.template.template.variableNames.Nodup →
              route.template.template.LongestFront remaining resolved.matched) := by
  refine ⟨?_, ?_, ?_⟩
  · intro t text n distinct h
    obtain ⟨s, -, matched, rfl⟩ := Template.exists_matched_of_matchedSize? h
    have longest := Template.longestFront_of_matched distinct matched
    constructor
    · exact ⟨s, rfl⟩
    · intro other
      exact Text.size_le_of_prefix (longest.2 other)
  · intro p path m good distinct h
    have parse := CachedTemplate.parse?_answer good path
    simp only [PathPattern.matching?, Logged.answer_bind, parse] at h
    obtain ⟨parsed, read, rfl⟩ := Option.map_eq_some_iff.1 h
    exact Template.longestFront_of_parse? distinct read
  · intro τ σ _ r start remaining resolved good h
    obtain ⟨route, parsed, attached, read, same⟩ := Router.exists_parse_of_resolve good h
    refine ⟨route, attached, ?_⟩
    intro distinct
    rw [same]
    exact Template.longestFront_of_parse? distinct read

/-- A path up to a segment, where the path may hold that segment too. -/
def Example.edit : Template where
  pattern := "/\x7bpath\x7d/edit".toList
  mode := .startsWithSegment
  descriptors := .ofList [("path".toList, .ofKind .uriPath)]

theorem longest_of_distinct_edit :
    (∀ s : Example.edit.Split "/a%2Fb/edit/c/edit/d".toList, s.size ≤ 18) ∧
      Example.edit.LongestFront "/a/edit/edit/".toList "/a/edit/edit".toList ∧
      ∃ route : Route Unit, route.template.template = Example.edit ∧
        route.template.template.LongestFront "/a/edit/edit/".toList "/a/edit/edit".toList := by
  obtain ⟨ofTemplate, ofPattern, ofRouter⟩ := longest_of_distinct
  have distinct : Example.edit.variableNames.Nodup := by decide +kernel
  have found : (Example.edit.matchedSize? "/a%2Fb/edit/c/edit/d".toList) = some 18 := by
    decide +kernel
  refine ⟨(ofTemplate _ _ _ distinct found).2, ?_, ?_⟩
  · exact ofPattern ⟨{ template := Example.edit }, "//edit".toList⟩ "/a/edit/edit/".toList
      ⟨"/a/edit/edit".toList, .ofList [("path".toList, "a/edit".toList)], ['/']⟩
      (fun _ kept => nomatch kept) distinct (by decide +kernel)
  · let empty : Router Unit Rat := .ofPolicy ⟨.first, 0⟩
    have good : (empty.attachTemplate Example.edit ()).Good :=
      Router.good_attachTemplate (Router.good_ofPolicy _) _ _
    obtain ⟨route, attached, longest⟩ := ofRouter Unit Rat (empty.attachTemplate Example.edit ())
      0 "/a/edit/edit/".toList ⟨.attached 0, "/a/edit/edit".toList, ['/'],
        .ofList [("path".toList, "a/edit".toList)]⟩ good (by decide +kernel)
    cases attached
    exact ⟨_, rfl, longest distinct⟩

end UriRouting
