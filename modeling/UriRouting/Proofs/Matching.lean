/-
# UriRouting.Proofs.Matching — matching answers with the split that wins

Three things can come of matching (`Template.verdict_cases`): the split that wins, the news
that there is none, or, where a variable is repeated, nothing at all because the search was
given up.  What `matchedSize?` and `parse?` answer is read off that split
(`matchedSize?_of_matched`, `parse?_of_matched`), so

* a text is matched exactly if it has a split, and up to the end of one
  (`matchedSize?_sound_complete`);
* the values that are parsed are those of the split that gives most to the first variable,
  then to the second, and so on (`parse?_lexicographic`).
-/
import UriRouting.Proofs.Patience
import UriRouting.Proofs.Split

namespace UriRouting

set_option autoImplicit false

/-- No token repeats a variable exactly if no name occurs twice. -/
theorem Piece.any_isAgain_ofTokens (describe : Text → Variable) (seen : List Text)
    (tokens : List Token) : (ofTokens describe seen tokens).any isAgain = false ↔
      (Token.names tokens).Nodup ∧ ∀ name ∈ Token.names tokens, seen.contains name = false := by
  induction tokens generalizing seen with
  | nil => simp [ofTokens, Token.names]
  | cons token tokens ih =>
      rcases token with text | name
      · exact ih seen
      · rw [Token.names_variable, List.nodup_cons]
        cases before : seen.contains name with
        | true =>
            rw [ofTokens_known before, List.any_cons]
            constructor
            · intro h; exact absurd h (by simp [isAgain])
            · rintro ⟨-, new⟩
              exact absurd (new name List.mem_cons_self) (by rw [before]; decide)
        | false =>
            rw [ofTokens_new before, List.any_cons]
            simp only [isAgain, Bool.false_or, ih]
            constructor
            · rintro ⟨distinct, new⟩
              have notNamed : name ∉ Token.names tokens := by
                intro member
                simpa using new name member
              refine ⟨⟨notNamed, distinct⟩, ?_⟩
              intro other member
              rcases List.mem_cons.1 member with rfl | member
              · exact before
              · have := new other member
                rw [List.contains_cons, Bool.or_eq_false_iff] at this
                exact this.2
            · rintro ⟨⟨notNamed, distinct⟩, new⟩
              refine ⟨distinct, ?_⟩
              intro other member
              have ne : other ≠ name := by
                rintro rfl
                exact notNamed member
              rw [List.contains_cons, beq_false_of_ne ne, Bool.false_or]
              exact new other (List.mem_cons_of_mem _ member)

theorem nodup_eraseDups : ∀ names : List Text, names.eraseDups.Nodup
  | [] => .nil
  | name :: names => by
      rw [List.eraseDups_cons, List.nodup_cons, List.mem_eraseDups]
      exact ⟨by simp, nodup_eraseDups _⟩
termination_by names => names.length
decreasing_by exact Nat.lt_succ_of_le (List.length_filter_le _ _)

/-- An entry of each name puts each name's value into the dictionary, and nothing else. -/
theorem Dictionary.find?_ofList_map {α : Type} (value : Text → α) (names : List Text)
    (name : Text) : (ofList (names.map fun name => (name, value name))).find? name =
      if name ∈ names then some (value name) else none := by
  have from_ (d : Dictionary α) : (names.foldl (fun d name => d.insert name (value name)) d).find?
      name = if name ∈ names then some (value name) else d.find? name := by
    induction names generalizing d with
    | nil => simp
    | cons first names ih =>
        rw [List.foldl_cons, ih, find?_insert]
        by_cases same : name = first
        · simp [same]
        · simp [same]
  rw [ofList, List.foldl_map]
  exact from_ empty

namespace Template

variable {t : Template} {text : Text}

theorem repeats_eq_false_iff : t.matcher.repeats = false ↔ t.variableNames.Nodup := by
  refine (Piece.any_isAgain_ofTokens t.describe [] t.tokens).trans ?_
  exact ⟨And.left, fun distinct => ⟨distinct, fun _ _ => rfl⟩⟩

/-- **What can come of matching.** -/
theorem verdict_cases (t : Template) (text : Text) :
    (∃ s : t.Split text, s.Wins ∧ t.verdict text = .matched s.captures s.rest) ∨
      (¬ Nonempty (t.Split text) ∧ t.verdict text = .missed) ∨
      (¬ t.variableNames.Nodup ∧ t.verdict text = .gaveUp) := by
  cases outcome : t.verdict text with
  | matched captures rest =>
      obtain ⟨s, rfl, rfl, wins⟩ := exists_first_split (Matcher.run_matched outcome)
      exact Or.inl ⟨s, wins, rfl⟩
  | missed => exact Or.inr (Or.inl ⟨split?_eq_none_iff.1 (Matcher.run_missed outcome), rfl⟩)
  | gaveUp =>
      refine Or.inr (Or.inr ⟨fun distinct => ?_, rfl⟩)
      have run := Matcher.run_distinct (repeats_eq_false_iff.2 distinct) text
      rw [show t.matcher.run text = .gaveUp from outcome] at run
      split at run <;> cases run

/-- A text with a split is matched, unless the search is given up. -/
theorem exists_matched (settled : t.variableNames.Nodup ∨ t.verdict text ≠ .gaveUp)
    (some : Nonempty (t.Split text)) :
    ∃ s : t.Split text, s.Wins ∧ t.verdict text = .matched s.captures s.rest := by
  rcases t.verdict_cases text with matched | ⟨none, -⟩ | ⟨repeated, gaveUp⟩
  · exact matched
  · exact absurd some none
  · exact absurd settled (not_or.2 ⟨repeated, fun ne => ne gaveUp⟩)

namespace Split

theorem consumed_eq (s : t.Split text) : consumed text s.rest = s.size := by
  have total : Text.size text = s.size + Text.size s.rest := by
    rw [size, ← Text.size_append]
    exact congrArg Text.size s.whole
  rw [consumed, total]
  omega

theorem splitAt_size (s : t.Split text) : Text.splitAt s.size text = (s.front, s.rest) :=
  (congrArg (Text.splitAt s.size) s.whole).trans (Text.splitAt_size s.front s.rest)

/-- A split of a whole text leaves nothing of it. -/
theorem front_of_equals (s : t.Split text) (whole : t.mode = .equals) : s.front = text := by
  have ends := s.ends
  rw [whole] at ends
  have all := s.whole
  rw [show s.rest = [] from ends, List.append_nil] at all
  exact all.symm

theorem size_of_equals (s : t.Split text) (whole : t.mode = .equals) : s.size = Text.size text :=
  congrArg Text.size (s.front_of_equals whole)

/-- The values of the variables as they are read. -/
def bindings (s : t.Split text) : Bindings := Dictionary.ofList (t.readCaptures s.captures)

theorem find?_bindings (s : t.Split text) (name : Text) :
    s.bindings.find? name = (s.shares.lookup (.variable name)).map (t.readValue name) := by
  have entries : t.readCaptures s.captures =
      t.groups.map fun name => (name, t.readValue name (s.value name)) := by
    rw [readCaptures, captures, List.map_map]
    rfl
  rw [bindings, entries, Dictionary.find?_ofList_map, s.lookup_shares]
  simp only [t.groups_eq, List.mem_eraseDups]
  split <;> rfl

end Split

/-- A text is parsed if it is matched. -/
theorem isSome_parse? (t : Template) (text : Text) :
    (t.parse? text).isSome = (t.matchedSize? text).isSome := by
  unfold parse? matchedSize?
  cases t.verdict text <;> rfl

theorem matchedSize?_of_matched {s : t.Split text}
    (matched : t.verdict text = .matched s.captures s.rest) :
    t.matchedSize? text = some s.size := by
  rw [matchedSize?, matched, sizeOf?, s.consumed_eq]

theorem parse?_of_matched {s : t.Split text}
    (matched : t.verdict text = .matched s.captures s.rest) :
    t.parse? text = some ⟨s.size, s.bindings⟩ := by
  rw [parse?, matched, parsed?, s.consumed_eq]
  rfl

/-- Whatever is answered comes of a split that wins. -/
theorem exists_matched_of_matchedSize? {n : Nat} (h : t.matchedSize? text = some n) :
    ∃ s : t.Split text, s.Wins ∧ t.verdict text = .matched s.captures s.rest ∧ s.size = n := by
  rcases t.verdict_cases text with ⟨s, wins, matched⟩ | ⟨-, missed⟩ | ⟨-, gaveUp⟩
  · rw [matchedSize?_of_matched matched] at h
    exact ⟨s, wins, matched, Option.some.inj h⟩
  · rw [matchedSize?, missed] at h
    cases h
  · rw [matchedSize?, gaveUp] at h
    cases h

theorem exists_matched_of_parse? {parsed : Parsed} (h : t.parse? text = some parsed) :
    ∃ s : t.Split text, s.Wins ∧ t.verdict text = .matched s.captures s.rest ∧
      parsed = ⟨s.size, s.bindings⟩ := by
  rcases t.verdict_cases text with ⟨s, wins, matched⟩ | ⟨-, missed⟩ | ⟨-, gaveUp⟩
  · rw [parse?_of_matched matched] at h
    exact ⟨s, wins, matched, (Option.some.inj h).symm⟩
  · rw [parse?, missed] at h
    cases h
  · rw [parse?, gaveUp] at h
    cases h

/-! ## The two statements -/

/-- **Matching accepts the language of the template.**  A match ends where a split ends,
under every limit; where there is a split there is a match, unless a variable is repeated
and the search was given up; and no search is given up under a limit that is high enough. -/
theorem matchedSize?_sound_complete (t : Template) (text : Text) :
    (∀ n, t.matchedSize? text = some n → ∃ s : t.Split text, s.size = n) ∧
      (t.variableNames.Nodup ∨ t.verdict text ≠ .gaveUp → Nonempty (t.Split text) →
        ∃ n, t.matchedSize? text = some n) ∧
      ∃ enough, ∀ limit, enough ≤ limit →
        ({ t with limit } : Template).verdict text ≠ .gaveUp := by
  refine ⟨?_, ?_, t.exists_limit text⟩
  · intro n h
    obtain ⟨s, -, -, size⟩ := exists_matched_of_matchedSize? h
    exact ⟨s, size⟩
  · intro settled some
    obtain ⟨s, -, matched⟩ := exists_matched settled some
    exact ⟨s.size, matchedSize?_of_matched matched⟩

/-- The name stands twice, so its text is searched for and `a-a-a` has to be taken back. -/
def Example.twice : Template := { pattern := "/\x7bx\x7d-\x7bx\x7d".toList }

theorem matchedSize?_sound_complete_twice :
    Example.twice.verdict "/a-a-a-a".toList ≠ .gaveUp ∧
      ∃ n, Example.twice.matchedSize? "/a-a-a-a".toList = some n := by
  have split : Nonempty (Example.twice.Split "/a-a-a-a".toList) :=
    ⟨.ofValue (fun _ => "a-a".toList) [] (by decide +kernel) (by decide +kernel) rfl⟩
  have settled : Example.twice.verdict "/a-a-a-a".toList ≠ .gaveUp := by decide +kernel
  exact ⟨settled, (matchedSize?_sound_complete _ _).2.1 (Or.inr settled) split⟩

/-- **The split that wins is the one that is parsed.**  Its vector of sizes is above that of
every other split, the names that are parsed are the groups, each once, and a value is what
its variable got, decoded where the descriptor says so. -/
theorem parse?_lexicographic {parsed : Parsed} (h : t.parse? text = some parsed) :
    t.groups = t.variableNames.eraseDups ∧ t.groups.Nodup ∧
      (∀ name, (parsed.bindings.find? name).isSome ↔ name ∈ t.variableNames) ∧
      ∃ s : t.Split text,
        (∀ other : t.Split text, other.shares = s.shares ∨ other.lengths < s.lengths) ∧
        parsed.size = s.size ∧
        ∀ name, parsed.bindings.find? name =
          (s.shares.lookup (.variable name)).map fun share =>
            if (t.describe name).decodes then Percent.decode share else share := by
  obtain ⟨s, wins, -, rfl⟩ := exists_matched_of_parse? h
  refine ⟨t.groups_eq, ?_, ?_, s, wins, rfl, s.find?_bindings⟩
  · rw [t.groups_eq]
    exact nodup_eraseDups _
  · intro name
    rw [s.find?_bindings, Option.isSome_map, s.lookup_shares]
    split <;> simp_all

/-- Two variables that compete for characters, of which the first comes back and the second
is decoded. -/
def Example.adjacent : Template where
  pattern := "/\x7ba\x7d\x7bb\x7d/\x7ba\x7d".toList
  descriptors := .ofList [("b".toList, { required := false, decodes := true })]

theorem parse?_lexicographic_adjacent :
    Example.adjacent.parse? "/ab%41c/ab".toList =
        some ⟨10, .ofList [("a".toList, "ab".toList), ("b".toList, "Ac".toList)]⟩ ∧
      ∃ s : Example.adjacent.Split "/ab%41c/ab".toList,
        ∀ other : Example.adjacent.Split "/ab%41c/ab".toList,
          other.shares = s.shares ∨ other.lengths < s.lengths := by
  have h : Example.adjacent.parse? "/ab%41c/ab".toList =
      some ⟨10, .ofList [("a".toList, "ab".toList), ("b".toList, "Ac".toList)]⟩ := by
    decide +kernel
  obtain ⟨-, -, -, s, wins, -⟩ := parse?_lexicographic h
  exact ⟨h, s, wins⟩

end Template
end UriRouting
