/-
# UriRouting.Proofs.RoundTrip — what is written is read back, and what is read written

A template that matches whole texts reads its own output back (`parse?_format`) if each text
that it writes for a variable is one that the variable takes, and if no variable can take
more than was written for it: behind it the pattern ends, or goes on with a character that
none of its texts holds (`Token.Separated`).  Then the written text has one split only,
whatever the search prefers (`Token.value_unique`), so what is parsed is what was written,
and decoding undoes either way of encoding (`decode_writeValue`).

The other way round nothing of this is needed.  Reading and writing go along the same tokens,
so whatever split was found, the values that it gave write the text that it covers, as long as
none is decoded or encoded on the way (`format_parse?`).
-/
import UriRouting.Proofs.Matching

namespace UriRouting

set_option autoImplicit false

/-- A character that neither front holds marks where both fronts end. -/
theorem Text.front_unique {front front' rest rest' : Text} {c : Char} (apart : c ∉ front)
    (apart' : c ∉ front') (same : front ++ c :: rest = front' ++ c :: rest') :
    front = front' := by
  rcases List.append_eq_append_iff.1 same with ⟨more, longer, tail⟩ | ⟨more, longer, tail⟩
  · cases more with
    | nil => rw [longer, List.append_nil]
    | cons d more =>
        obtain ⟨rfl, -⟩ := List.cons.inj tail
        exact absurd (longer ▸ List.mem_append_right front List.mem_cons_self) apart'
  · cases more with
    | nil => rw [longer, List.append_nil]
    | cons d more =>
        obtain ⟨rfl, -⟩ := List.cons.inj tail
        exact absurd (longer ▸ List.mem_append_right front' List.mem_cons_self) apart

namespace Token

/-- The pattern ends here, or goes on with a character that no text of the language holds. -/
def Apart (language : Language) : List Token → Prop
  | [] => True
  | .literal (c :: _) :: _ => ∀ value, language.Admits value → c ∉ value
  | _ => False

/-- Behind each token of a variable that is not fixed its texts come to an end. -/
def Separated (describe : Text → Variable) : List Token → Prop
  | [] => True
  | .literal _ :: tokens => Separated describe tokens
  | .variable name :: tokens =>
      ((describe name).fixed = false → Apart (describe name).language tokens) ∧
        Separated describe tokens

instance (language : Language) : ∀ tokens, Decidable (Apart language tokens)
  | [] => inferInstanceAs (Decidable True)
  | .literal [] :: _ => inferInstanceAs (Decidable False)
  | .literal (_ :: _) :: _ => decidable_of_iff _ Language.mentions_eq_false_iff
  | .variable _ :: _ => inferInstanceAs (Decidable False)

instance decidableSeparated (describe : Text → Variable) :
    ∀ tokens, Decidable (Separated describe tokens)
  | [] => inferInstanceAs (Decidable True)
  | .literal _ :: tokens => decidableSeparated describe tokens
  | .variable name :: tokens =>
      have := decidableSeparated describe tokens
      inferInstanceAs (Decidable (((describe name).fixed = false → _) ∧ _))

variable {describe : Text → Variable}

/-- Where the pattern comes apart a text of the language ends in one place. -/
theorem Apart.unique {language : Language} {tokens : List Token} {value value' : Text → Text}
    {share share' : Text} (apart : Apart language tokens) (taken : language.Admits share)
    (taken' : language.Admits share')
    (same : share ++ tokens.flatMap (fill value) = share' ++ tokens.flatMap (fill value')) :
    share = share' := by
  rcases tokens with - | ⟨(- | ⟨c, text⟩) | name, later⟩
  · simpa using same
  · exact apart.elim
  · simp only [fill, List.flatMap_cons, List.cons_append] at same
    exact Text.front_unique (apart _ taken) (apart _ taken') same
  · exact apart.elim

/-- Separated variables can fill a text in one way only. -/
theorem value_unique {value value' : Text → Text} {tokens : List Token}
    (separated : Separated describe tokens)
    (admits : ∀ name ∈ names tokens, (describe name).language.Admits (value name))
    (admits' : ∀ name ∈ names tokens, (describe name).language.Admits (value' name))
    (same : tokens.flatMap (fill value) = tokens.flatMap (fill value')) :
    ∀ name ∈ names tokens, value name = value' name := by
  induction tokens with
  | nil =>
      intro name member
      cases member
  | cons token tokens ih =>
      rw [List.flatMap_cons, List.flatMap_cons] at same
      rcases token with text | name
      · exact ih separated admits admits' (List.append_cancel_left same)
      · obtain ⟨next, separated⟩ := separated
        have taken := admits name List.mem_cons_self
        have taken' := admits' name List.mem_cons_self
        have here : value name = value' name := by
          cases fixed : (describe name).fixed with
          | true =>
              simp only [Variable.language, fixed, if_true, Language.Admits] at taken taken'
              rw [taken, taken']
          | false => exact (next fixed).unique taken taken' same
        simp only [fill, here, List.append_cancel_left_eq] at same
        intro other member
        rcases List.mem_cons.1 member with rfl | member
        · exact here
        · exact ih separated (fun name member => admits name (List.mem_cons_of_mem _ member))
            (fun name member => admits' name (List.mem_cons_of_mem _ member)) same other member

end Token

namespace Template

variable {t : Template} {resolve : Text → Option Text}

theorem format_eq_fill (t : Template) (resolve : Text → Option Text) :
    t.format resolve = t.tokens.flatMap (Token.fill (t.writeValue resolve)) :=
  rfl

/-- A value that was encoded is the value again when it is decoded. -/
theorem decode_writeValue {name : Text}
    (encodes : t.encoding = true ∨ (t.describe name).encodes = true) :
    Percent.decode (t.writeValue resolve name) =
      (resolve name).getD (t.describe name).default := by
  unfold writeValue
  split
  · exact Percent.decode_encode_of_keep (Percent.Safe.keeps_percent _) _
  · rename_i notAll
    rw [if_pos (encodes.resolve_left notAll)]
    exact Percent.decode_encode_of_keep (Percent.Safe.keeps_percent _) _

/-- The only split of what was written gives each variable what was written for it. -/
theorem Split.value_of_format (whole : t.mode = .equals)
    (separated : Token.Separated t.describe t.tokens)
    (admitted : ∀ name ∈ t.variableNames,
      (t.describe name).language.Admits (t.writeValue resolve name))
    (s : t.Split (t.format resolve)) {name : Text} (member : name ∈ t.variableNames) :
    s.value name = t.writeValue resolve name := by
  have nothingLeft : s.rest = [] := by
    have ends := s.ends
    rwa [whole] at ends
  have same := s.whole_eq
  rw [nothingLeft, List.append_nil] at same
  exact Token.value_unique separated (fun _ => s.admits) admitted
    (same.symm.trans (t.format_eq_fill resolve)) name member

/-- **Format, then parse, gives the values back.** -/
theorem parse?_format (whole : t.mode = .equals)
    (admitted : ∀ name ∈ t.variableNames,
      (t.describe name).language.Admits (t.writeValue resolve name))
    (separated : Token.Separated t.describe t.tokens)
    (settled : t.variableNames.Nodup ∨ t.verdict (t.format resolve) ≠ .gaveUp) :
    ∃ parsed, t.parse? (t.format resolve) = some parsed ∧
      parsed.size = Text.size (t.format resolve) ∧
      (∀ name, parsed.bindings.find? name =
        if name ∈ t.variableNames then
          some (if (t.describe name).decodes then Percent.decode (t.writeValue resolve name)
            else t.writeValue resolve name)
        else none) ∧
      ∀ name ∈ t.variableNames, (t.encoding = true ∨ (t.describe name).encodes = true) →
        (t.describe name).decodes = true →
          parsed.bindings.find? name = some ((resolve name).getD (t.describe name).default) := by
  have written : t.format resolve = t.tokens.flatMap (Token.fill (t.writeValue resolve)) ++ [] := by
    rw [List.append_nil, format_eq_fill]
  have fits : t.mode.Ends [] := by rw [whole]; rfl
  obtain ⟨s, -, matched⟩ := exists_matched settled ⟨.ofValue _ [] written admitted fits⟩
  have values (name : Text) : s.bindings.find? name =
      if name ∈ t.variableNames then some (t.readValue name (t.writeValue resolve name))
      else none := by
    rw [s.find?_bindings, s.lookup_shares]
    split
    · rename_i member
      rw [s.value_of_format whole separated admitted member, Option.map_some]
    · rfl
  have end_ : s.size = Text.size (t.format resolve) := by
    have ends := s.ends
    rw [whole] at ends
    have total := s.whole
    rw [show s.rest = [] from ends, List.append_nil] at total
    exact congrArg Text.size total.symm
  refine ⟨_, parse?_of_matched matched, end_, values, ?_⟩
  intro name member encodes decodes
  rw [values, if_pos member, readValue, if_pos decodes, decode_writeValue encodes]

/-- A variable that is encoded, decoded and repeated, and a fixed one. -/
def Example.search : Template where
  pattern := "/\x7bx\x7d/\x7bv\x7d?\x7bx\x7d".toList
  descriptors := .ofList
    [("x".toList, { encodes := true, decodes := true }), ("v".toList, .ofFixed "v1".toList)]

theorem parse?_format_search :
    ∃ parsed, Example.search.parse? (Example.search.format fun name =>
        if name = "x".toList then some "é/%41".toList else none) = some parsed ∧
      parsed.bindings.find? "x".toList = some "é/%41".toList := by
  have separated : Token.Separated Example.search.describe Example.search.tokens := by
    decide +kernel
  obtain ⟨parsed, h, -, -, back⟩ := @parse?_format Example.search
    (fun name => if name = "x".toList then some "é/%41".toList else none) rfl
    (by decide +kernel) separated (Or.inr (by decide +kernel))
  exact ⟨parsed, h, back "x".toList (by decide +kernel) (Or.inr (by decide +kernel))
    (by decide +kernel)⟩

/-! ## What is read, written -/

variable {text : Text}

/-- A value that is not encoded is written as it was read. -/
theorem Split.writeValue_bindings (s : t.Split text) (plain : t.encoding = false) {name : Text}
    (member : name ∈ t.variableNames) (bare : (t.describe name).encodes = false) :
    t.writeValue s.bindings.find? name = t.readValue name (s.value name) := by
  have found : s.bindings.find? name = some (t.readValue name (s.value name)) := by
    rw [s.find?_bindings, s.lookup_shares, if_pos member, Option.map_some]
  rw [writeValue, found, Option.getD_some, if_neg (by simp [plain]), if_neg (by simp [bare])]

/-- **Parse, then format, gives the matched front back,** which in a template for whole texts
is all of the text. -/
theorem format_parse? {parsed : Parsed} (plain : t.encoding = false)
    (bare : ∀ name ∈ t.variableNames,
      (t.describe name).encodes = false ∧ (t.describe name).decodes = false)
    (h : t.parse? text = some parsed) :
    t.format parsed.bindings.find? = (Text.splitAt parsed.size text).1 ∧
      (t.mode = .equals → t.format parsed.bindings.find? = text) := by
  obtain ⟨s, -, -, rfl⟩ := exists_matched_of_parse? h
  have written : t.format s.bindings.find? = s.front := by
    rw [format_eq_fill, s.front_eq]
    apply Token.flatMap_fill_congr
    intro name member
    obtain ⟨notEncoded, notDecoded⟩ := bare name member
    rw [s.writeValue_bindings plain member notEncoded, readValue, if_neg (by simp [notDecoded])]
  constructor
  · rw [s.splitAt_size]
    exact written
  · intro whole
    exact written.trans (s.front_of_equals whole)

/-- A stray brace, a name with a blank in it, braces without a name and one that is never
closed, around a variable that comes back, one that may be left out and a fixed one. -/
def Example.malformed : Template where
  pattern := "\x7d/\x7ba\x7d\x7bb c\x7d/\x7bv\x7d\x7b\x7d-\x7ba\x7d\x7bd".toList
  mode := .startsWith
  descriptors := .ofList
    [("bc".toList, { required := false }), ("v".toList, .ofFixed "v1".toList)]

theorem format_parse?_malformed :
    ∃ parsed, Example.malformed.parse? "\x7d/abc/v1-ab\x7bde".toList = some parsed ∧
      Example.malformed.format parsed.bindings.find? = "\x7d/abc/v1-ab\x7bd".toList := by
  have found : Example.malformed.parse? "\x7d/abc/v1-ab\x7bde".toList =
      some ⟨13, .ofList [("a".toList, "ab".toList), ("bc".toList, "c".toList),
        ("v".toList, "v1".toList)]⟩ := by decide +kernel
  have written := (format_parse? rfl (by decide +kernel) found).1
  exact ⟨_, found, written.trans (by decide +kernel)⟩

end Template
end UriRouting
