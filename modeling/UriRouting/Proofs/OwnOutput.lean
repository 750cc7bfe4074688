/-
# UriRouting.Proofs.OwnOutput — a template that encodes matches what it writes

An encoded text is made of characters that were kept and of octets, each a percent sign and
two digits.  What is kept is said by the three sets of `Percent.Safe`, which serve writing;
what a value may hold is said by the class of its kind, which serves matching.  The two fit
for every kind that takes percent signs at all (`Kind.takesEncoded`): a character that is
kept for the kind is in its class (`Kind.contains_of_keeps`), and an octet is one item of the
kind or three characters of its class (`Kind.isValue_encodeOctet`).  So the encoding of any
text whatever is a value of the kind (`Kind.isValue_encode`).

What was written has a split then, the one that it was written by, so it is matched, and as
a whole (`Template.matchedSize?_format`).  Which split is found is left open: variables that
stand side by side can share what was written for them in many ways.
-/
import UriRouting.Proofs.Matching

namespace UriRouting

set_option autoImplicit false

namespace Percent

/-! ## What encoders write -/

theorem isUnreserved_hexDigit {n : Nat} (h : n < 16) :
    Text.isUnreserved (hexDigit n) = true := by
  have all : ∀ n < 16, Text.isUnreserved (hexDigit n) = true := by decide
  exact all n h

theorem isHexDigit_hexDigit {n : Nat} (h : n < 16) : isHexDigit (hexDigit n) = true := by
  rw [isHexDigit, hexValue?_hexDigit h]
  rfl

theorem Safe.keeps_of_isUnreserved (s : Safe) {c : Char} (h : Text.isUnreserved c = true) :
    s.keeps c = true := by
  cases s <;> simp [Safe.keeps, h]

theorem ascii_of_isUnreserved {c : Char} (h : Text.isUnreserved c = true) :
    c.toNat < 128 := by
  simp only [Text.isUnreserved, Bool.or_eq_true, beq_iff_eq] at h
  rcases h with (((h | rfl) | rfl) | rfl) | rfl
  · have ranges : (decide ('A'.val ≤ c.val ∧ c.val ≤ 'Z'.val) ||
        (decide ('a'.val ≤ c.val) && decide (c.val ≤ 'z'.val)) ||
          (decide ('0'.val ≤ c.val) && decide (c.val ≤ '9'.val))) = true := h
    simp only [Bool.or_eq_true, Bool.and_eq_true, decide_eq_true_eq,
      UInt32.le_iff_toNat_le] at ranges
    have code : c.toNat = c.val.toNat := rfl
    have lastCapital : 'Z'.val.toNat = 90 := rfl
    have lastLetter : 'z'.val.toNat = 122 := rfl
    have lastDigit : '9'.val.toNat = 57 := rfl
    omega
  all_goals decide

/-- No set keeps a character above ASCII. -/
theorem Safe.ascii_of_keeps {s : Safe} {c : Char} (kept : s.keeps c = true) :
    c.toNat < 128 := by
  have kept : (Text.isUnreserved c = true ∨ c = '/') ∨ c = '?' := by
    cases s <;> simp only [Safe.keeps, Bool.or_eq_true, beq_iff_eq] at kept <;> tauto
  rcases kept with (unreserved | rfl) | rfl
  · exact ascii_of_isUnreserved unreserved
  · decide
  · decide

/-- Encoders write what they keep, and percent signs. -/
theorem Safe.keeps_of_mem_encode {safe : Safe} {t : Text} {c : Char}
    (member : c ∈ encode safe.keeps t) : safe.keeps c = true ∨ c = '%' := by
  obtain ⟨d, -, member⟩ := List.mem_flatMap.1 member
  by_cases kept : safe.keeps d = true
  · rw [if_pos kept, List.mem_singleton] at member
    rw [member]
    exact Or.inl kept
  · rw [if_neg kept] at member
    obtain ⟨b, -, member⟩ := List.mem_flatMap.1 member
    have bound : b.toNat < 256 := b.toNat_lt
    simp only [encodeOctet, List.mem_cons, List.not_mem_nil, or_false] at member
    rcases member with rfl | rfl | rfl
    · exact Or.inr rfl
    · exact Or.inl (safe.keeps_of_isUnreserved (isUnreserved_hexDigit (by omega)))
    · exact Or.inl (safe.keeps_of_isUnreserved (isUnreserved_hexDigit (by omega)))

theorem encode_ne_nil (keep : Char → Bool) {t : Text} (nonempty : t ≠ []) :
    encode keep t ≠ [] := by
  cases t with
  | nil => exact absurd rfl nonempty
  | cons c t =>
      intro empty
      rw [encode, List.flatMap_cons] at empty
      have first := (List.append_eq_nil_iff.1 empty).1
      by_cases kept : keep c = true
      · simp [kept] at first
      · rw [if_neg kept, List.flatMap_eq_nil_iff] at first
        have octets : (Utf8.encodeChar c).length = c.utf8Size := Utf8.length_encodeChar c
        have pos := c.utf8Size_pos
        obtain ⟨b, member⟩ := List.exists_mem_of_length_pos (l := Utf8.encodeChar c) (by omega)
        exact absurd (first b member) (by simp [encodeOctet])

end Percent

namespace Kind

/-! ## Which kinds take it -/

/-- The kinds of which a value may hold percent signs, be it as characters or in encoded
octets. -/
def takesEncoded : Kind → Bool
  | all | uriAll | uriPath | uriSegment | uriQuery | uriQueryParam | uriFragment => true
  | token | comment | commentAttribute => true
  | alpha | digit | alphaDigit | uriUnreserved | word => false

variable {k : Kind}

/-- What is kept in writing may stand in a value. -/
theorem contains_of_keeps (takes : k.takesEncoded = true) {c : Char}
    (kept : k.safe.keeps c = true) : k.chars.contains c = true := by
  refine Text.forall_ascii (P := fun c => k.safe.keeps c = true → k.chars.contains c = true) ?_
    (Percent.Safe.ascii_of_keeps kept) kept
  cases k <;> simp only [takesEncoded, Bool.false_eq_true] at takes <;> decide +kernel

theorem contains_hexDigit (takes : k.takesEncoded = true) {n : Nat} (h : n < 16) :
    k.chars.contains (Percent.hexDigit n) = true :=
  contains_of_keeps takes (Percent.Safe.keeps_of_isUnreserved _ (Percent.isUnreserved_hexDigit h))

/-- A value holds percent signs as characters, or to announce octets, or not at all. -/
theorem takesEncoded_eq (k : Kind) :
    k.takesEncoded = (k.chars.contains '%' || k.admitsEncoded) := by
  cases k <;> decide

theorem IsValue.append {s t : Text} (first : k.IsValue s) (later : k.IsValue t) :
    k.IsValue (s ++ t) := by
  induction first with
  | nil => exact later
  | cons item _ ih =>
      rw [List.append_assoc]
      exact .cons item ih

theorem IsValue.flatMap {α : Type} {f : α → Text} {l : List α}
    (each : ∀ a ∈ l, k.IsValue (f a)) : k.IsValue (l.flatMap f) := by
  induction l with
  | nil => exact .nil
  | cons a l ih =>
      rw [List.flatMap_cons]
      apply IsValue.append
      · exact each a List.mem_cons_self
      · exact ih fun b member => each b (List.mem_cons_of_mem _ member)

theorem IsValue.of_contains {t : Text} (all : ∀ c ∈ t, k.chars.contains c = true) :
    k.IsValue t := by
  induction t with
  | nil => exact .nil
  | cons c t ih =>
      have item : k.IsItem [c] := .char (all c List.mem_cons_self)
      exact .cons item (ih fun d member => all d (List.mem_cons_of_mem _ member))

theorem isValue_encodeOctet (takes : k.takesEncoded = true) (b : UInt8) :
    k.IsValue (Percent.encodeOctet b) := by
  have bound : b.toNat < 256 := b.toNat_lt
  have high : b.toNat / 16 < 16 := by omega
  have low : b.toNat % 16 < 16 := by omega
  cases admits : k.admitsEncoded with
  | true =>
      apply IsValue.singleton
      exact .octet admits (Percent.isHexDigit_hexDigit high) (Percent.isHexDigit_hexDigit low)
  | false =>
      apply IsValue.of_contains
      intro c member
      simp only [Percent.encodeOctet, List.mem_cons, List.not_mem_nil, or_false] at member
      rcases member with rfl | rfl | rfl
      · rwa [takesEncoded_eq, admits, Bool.or_false] at takes
      · exact contains_hexDigit takes high
      · exact contains_hexDigit takes low

/-- The encoding of any text at all is a value. -/
theorem isValue_encode (takes : k.takesEncoded = true) (t : Text) :
    k.IsValue (Percent.encode k.safe.keeps t) := by
  apply IsValue.flatMap
  intro c _
  by_cases kept : k.safe.keeps c = true
  · rw [if_pos kept]
    exact .singleton (.char (contains_of_keeps takes kept))
  · rw [if_neg kept]
    exact IsValue.flatMap fun b _ => isValue_encodeOctet takes b

end Kind

namespace Template

variable {t : Template} {resolve : Text → Option Text}

/-- What a template that encodes writes for a variable is a text of the variable. -/
theorem admits_writeValue (encodes : t.encoding = true) {name : Text}
    (free : (t.describe name).fixed = false)
    (takes : (t.describe name).kind.takesEncoded = true)
    (given : (t.describe name).required = true →
      (resolve name).getD (t.describe name).default ≠ []) :
    (t.describe name).language.Admits (t.writeValue resolve name) := by
  rw [Variable.language, if_neg (by simp [free]), writeValue, if_pos encodes, Variable.encode]
  constructor
  · exact Kind.isValue_encode takes _
  · intro required
    exact Percent.encode_ne_nil _ (given required)

/-- **A template that encodes matches what it writes,** and all of it, whatever the values
are, if a value is given where one is required. -/
theorem matchedSize?_format (whole : t.mode = .equals) (encodes : t.encoding = true)
    (free : ∀ name ∈ t.variableNames, (t.describe name).fixed = false)
    (takes : ∀ name ∈ t.variableNames, (t.describe name).kind.takesEncoded = true)
    (given : ∀ name ∈ t.variableNames, (t.describe name).required = true →
      (resolve name).getD (t.describe name).default ≠ [])
    (settled : t.variableNames.Nodup ∨ t.verdict (t.format resolve) ≠ .gaveUp) :
    t.matchedSize? (t.format resolve) = some (Text.size (t.format resolve)) := by
  have admits : ∀ name ∈ t.variableNames,
      (t.describe name).language.Admits (t.writeValue resolve name) := by
    intro name member
    exact admits_writeValue encodes (free name member) (takes name member) (given name member)
  have written : t.format resolve =
      t.tokens.flatMap (Token.fill (t.writeValue resolve)) ++ [] := (List.append_nil _).symm
  have ends : t.mode.Ends [] := by rw [whole]; rfl
  obtain ⟨s, -, matched⟩ := exists_matched settled ⟨.ofValue _ [] written admits ends⟩
  rw [matchedSize?_of_matched matched, s.size_of_equals whole]

/-- A path that comes back, a comment that may be left out beside it, and a query. -/
def Example.encoded : Template where
  pattern := "\x7bpath\x7d\x7bnote\x7d?\x7bquery\x7d#\x7bpath\x7d".toList
  descriptors := .ofList [("path".toList, .ofKind .uriPath),
    ("note".toList, { kind := .comment, required := false }),
    ("query".toList, { kind := .uriQuery, default := "a=ß".toList })]
  encoding := true

/-- Values that have to be encoded; for the query there is its default. -/
def Example.given : Text → Option Text :=
  (Dictionary.ofList [("path".toList, "é/%".toList), ("note".toList, "(\n)".toList)]).find?

theorem matchedSize?_format_encoded :
    Example.encoded.matchedSize? "%C3%A9/%25%28%0A%29?a%3D%C3%9F#%C3%A9/%25".toList = some 41 := by
  have written : Example.encoded.format Example.given =
      "%C3%A9/%25%28%0A%29?a%3D%C3%9F#%C3%A9/%25".toList := by decide +kernel
  have h := @matchedSize?_format Example.encoded Example.given rfl rfl
    (by decide +kernel) (by decide +kernel) (by decide +kernel) (Or.inr (by decide +kernel))
  rw [written] at h
  exact h.trans (by decide)

end Template
end UriRouting
