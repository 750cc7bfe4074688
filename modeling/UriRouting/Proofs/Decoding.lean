/-
# UriRouting.Proofs.Decoding — decoding the pieces and decoding the whole

Decoding undoes each of the encoders, whatever the text is, as none of them keeps a percent
sign (`Percent.decode_undoes_encode`).  What was never encoded may be decoded too, and then the
octets need not be a text at all.  There are two places where decoding looks ahead, and where
it could tell a text from its pieces: a percent sign takes the next two characters, and an
octet that opens a character waits for others.

A text is `Percent.Whole` if no percent sign in it takes a character from behind it.  Values of
the kinds that admit encoded octets are, even where those octets make no character
(`Kind.IsValue.whole`).  An octet that opens a character waits only for octets that start none
(`Utf8.Unfinished.Waits`), so it is given up wherever a plain character follows
(`Utf8.decodeFrom_append`).  Hence a piece can be decoded by itself if it is whole and a plain
character follows or nothing (`Percent.decode_append`), which is so for the variables of a
template that are kept apart by literals (`Template.format_eq_decode`).
-/
import UriRouting.Proofs.OwnOutput
import UriRouting.Proofs.RoundTrip
import UriRouting.Proofs.Substitution

namespace UriRouting

set_option autoImplicit false

namespace Utf8

/-! ## Octets -/

/-- All octets that can go on the character are such as start none. -/
structure Unfinished.Waits (u : Unfinished) : Prop where
  low : 0x80 ≤ u.low
  high : u.high ≤ 0xBF

/-- The octet starts a character. -/
def IsFirst (b : UInt8) : Prop := b.toNat < 0x80 ∨ 0xC0 ≤ b.toNat

/-- None of the octets belongs to a character from before them. -/
def Starts (bytes : List UInt8) : Prop := ∀ b, bytes.head? = some b → IsFirst b

theorem waits_of_lead? {n : Nat} {u : Unfinished} (h : lead? n = some u) : u.Waits := by
  unfold lead? at h
  split at h
  · obtain rfl := Option.some.inj h
    exact ⟨Nat.le_refl _, Nat.le_refl _⟩
  · split at h
    · obtain rfl := Option.some.inj h
      constructor
      · dsimp only; split <;> omega
      · dsimp only; split <;> omega
    · split at h
      · obtain rfl := Option.some.inj h
        constructor
        · dsimp only; split <;> omega
        · dsimp only; split <;> omega
      · cases h

theorem waits_of_start {b : UInt8} {u : Unfinished} (h : (start b).2 = some u) : u.Waits := by
  unfold start at h
  split at h
  · cases h
  · split at h
    · rename_i opened
      obtain rfl := Option.some.inj h
      exact waits_of_lead? opened
    · cases h

/-- Every character that is opened in reading waits. -/
theorem waits_of_step {state : Option Unfinished} {b : UInt8} {u : Unfinished}
    (h : (step state b).2 = some u) : u.Waits := by
  cases state with
  | none => exact waits_of_start h
  | some before =>
      rw [step, resume] at h
      split at h
      · dsimp only at h
        split at h
        · cases h
        · obtain rfl := Option.some.inj h
          exact ⟨Nat.le_refl _, Nat.le_refl _⟩
      · exact waits_of_start h

/-- An octet that starts a character cuts short the one before. -/
theorem resume_of_isFirst {u : Unfinished} (waits : u.Waits) {b : UInt8} (first : IsFirst b) :
    resume u b = (replacement :: (start b).1, (start b).2) := by
  have low := waits.low
  have high := waits.high
  rw [resume, if_neg]
  rcases first with below | above <;> omega

/-- Where a character starts, what was read before can be read by itself. -/
theorem decodeFrom_append {state : Option Unfinished} (waits : ∀ u, state = some u → u.Waits)
    (bytes : List UInt8) {more : List UInt8} (starts : Starts more) :
    decodeFrom state (bytes ++ more) = decodeFrom state bytes ++ decodeFrom none more := by
  induction bytes generalizing state with
  | nil =>
      cases state with
      | none => rw [List.nil_append, decodeFrom, List.nil_append]
      | some u =>
          cases more with
          | nil => rfl
          | cons b more =>
              have cut := resume_of_isFirst (waits u rfl) (starts b rfl)
              rw [List.nil_append, decodeFrom, decodeFrom, decodeFrom, step, step, cut]
              rfl
  | cons b bytes ih =>
      rw [List.cons_append, decodeFrom, decodeFrom, ih fun u => waits_of_step, List.append_assoc]

theorem starts_encodeChar_append (c : Char) (bytes : List UInt8) :
    Starts (encodeChar c ++ bytes) := by
  intro b h
  have range : c.toNat < 0x110000 := by
    rcases c.valid with low | ⟨-, high⟩
    · exact Nat.lt_trans low (by decide)
    · exact high
  unfold encodeChar at h
  generalize c.toNat = n at h range
  dsimp only at h
  unfold IsFirst
  -- by the number of octets
  split at h
  · cases h
    left
    rw [UInt8.toNat_ofNat']
    omega
  · right
    split at h
    · cases h
      rw [UInt8.toNat_ofNat']
      omega
    · split at h
      · cases h
        rw [UInt8.toNat_ofNat']
        omega
      · cases h
        rw [UInt8.toNat_ofNat']
        omega

end Utf8

namespace Percent

/-! ## Texts -/

/-- No percent sign of the text takes a character from behind it. -/
def Whole (t : Text) : Prop := ∀ more, octets (t ++ more) = octets t ++ octets more

theorem whole_nil : Whole [] := fun _ => rfl

theorem Whole.append {s t : Text} (front : Whole s) (back : Whole t) : Whole (s ++ t) := by
  intro more
  rw [List.append_assoc, front, back, front, List.append_assoc]

theorem whole_singleton {c : Char} (other : c ≠ '%') : Whole [c] := by
  intro more
  rw [List.singleton_append, octets_cons other]
  rfl

theorem whole_octet {high low : Char} (highDigit : isHexDigit high = true)
    (lowDigit : isHexDigit low = true) : Whole ['%', high, low] := by
  intro more
  obtain ⟨h, high⟩ := Option.isSome_iff_exists.1 highDigit
  obtain ⟨l, low⟩ := Option.isSome_iff_exists.1 lowDigit
  simp only [List.cons_append, List.nil_append, octets, octet?, high, low, if_true]

/-- A text without a percent sign stands for itself. -/
theorem octets_append {t : Text} (none : '%' ∉ t) (more : Text) :
    octets (t ++ more) = Utf8.encode t ++ octets more := by
  induction t with
  | nil => rfl
  | cons c t ih =>
      obtain ⟨other, none⟩ := List.ne_and_not_mem_of_not_mem_cons none
      have first : Utf8.encode (c :: t) = Utf8.encodeChar c ++ Utf8.encode t := List.flatMap_cons
      rw [List.cons_append, octets_cons other.symm, ih none, first, List.append_assoc]

theorem decode_plain_append {t : Text} (none : '%' ∉ t) (more : Text) :
    decode (t ++ more) = t ++ decode more := by
  rw [decode, octets_append none, Utf8.decode, Utf8.decodeFrom_encode_append]
  rfl

theorem starts_octets {t : Text} (nonempty : t ≠ []) (none : '%' ∉ t) (more : Text) :
    Utf8.Starts (octets (t ++ more)) := by
  cases t with
  | nil => contradiction
  | cons c t =>
      rw [octets_append none, Utf8.encode, List.flatMap_cons, List.append_assoc]
      exact Utf8.starts_encodeChar_append c _

/-- What is whole can be decoded by itself where a character starts behind it. -/
theorem decode_append {s t : Text} (whole : Whole s) (starts : Utf8.Starts (octets t)) :
    decode (s ++ t) = decode s ++ decode t := by
  have between : ∀ u, (none : Option Utf8.Unfinished) = some u → u.Waits := by
    intro u opened
    cases opened
  rw [decode, whole t]
  exact Utf8.decodeFrom_append between (octets s) starts

/-- **Decoding undoes every encoder.**  Each of the three writes nothing but what it keeps and
percent signs, of any text, and the text is what is decoded; so it does for the encoder that
the kind of a variable chooses, and no two texts are encoded alike. -/
theorem decode_undoes_encode :
    (∀ (safe : Safe) (t : Text), decode (encode safe.keeps t) = t ∧
        ∀ c ∈ encode safe.keeps t, safe.keeps c = true ∨ c = '%') ∧
      (∀ (v : Variable) (t : Text), decode (v.encode t) = t) ∧
      (∀ safe : Safe, Function.Injective (encode safe.keeps)) ∧
      ∀ v : Variable, Function.Injective v.encode := by
  have undone (safe : Safe) : Function.LeftInverse decode (encode safe.keeps) :=
    decode_encode_of_keep safe.keeps_percent
  refine ⟨?_, ?_, ?_, ?_⟩
  · intro safe t
    exact ⟨undone safe t, fun _ => Safe.keeps_of_mem_encode⟩
  · intro v t
    exact undone v.kind.safe t
  · intro safe
    exact (undone safe).injective
  · intro v
    exact (undone v.kind.safe).injective

/-- A text with percent signs, characters of all sizes, and one that decoding writes itself. -/
example : decode (encode Safe.path.keeps "%41/é\uFFFD😀".toList) = "%41/é\uFFFD😀".toList := by
  decide +kernel

end Percent

namespace Kind

variable {k : Kind}

theorem IsItem.whole (admits : k.admitsEncoded = true) {item : Text} (h : k.IsItem item) :
    Percent.Whole item := by
  cases h with
  | char inClass =>
      apply Percent.whole_singleton
      rintro rfl
      rw [percent_not_in_class admits] at inClass
      cases inClass
  | octet _ high low => exact Percent.whole_octet high low

theorem IsValue.whole (admits : k.admitsEncoded = true) {t : Text} (h : k.IsValue t) :
    Percent.Whole t := by
  induction h with
  | nil => exact Percent.whole_nil
  | cons item _ ih => exact (item.whole admits).append ih

end Kind

/-! ## Templates -/

/-- Literals are cut out of the pattern where something stands. -/
theorem Pattern.literal_ne_nil {pattern own : Text} (member : .literal own ∈ tokens pattern) :
    own ≠ [] := by
  induction pattern using induction with
  | nil => cases member
  | plain c t outside ih =>
      rw [tokens, parts_plain outside] at member
      unfold consPlain at member
      split at member
      · rename_i text parts here
        rcases List.mem_cons.1 member with same | later
        · cases same
          simp
        · apply ih
          rw [tokens, here]
          exact List.mem_cons_of_mem _ later
      · rcases List.mem_cons.1 member with same | later
        · cases same
          simp
        · exact ih later
  | unclosed body stays =>
      rw [tokens, parts_unclosed stays] at member
      cases List.mem_singleton.1 member
      simp
  | braced body t stays ih =>
      rw [tokens_braced stays] at member
      rcases List.mem_append.1 member with inside | later
      · rw [Part.tokens] at inside
        split at inside
        · cases inside
        · cases List.mem_singleton.1 inside
      · exact ih later

namespace Token

/-- No variable stands beside another. -/
def Spaced (tokens : List Token) : Prop :=
  tokens.IsChain fun token next => token.name? = none ∨ next.name? = none

/-- Values that are whole, with plain text between them, are decoded one by one. -/
theorem decode_fill {value : Text → Text} {tokens : List Token}
    (plain : ∀ own, .literal own ∈ tokens → own ≠ [] ∧ '%' ∉ own) (spaced : Spaced tokens)
    (whole : ∀ name ∈ names tokens, Percent.Whole (value name)) :
    Percent.decode (tokens.flatMap (fill value)) =
      tokens.flatMap (fill fun name => Percent.decode (value name)) := by
  induction tokens with
  | nil => rfl
  | cons token tokens ih =>
      have later := ih (fun own member => plain own (List.mem_cons_of_mem _ member))
        (List.isChain_of_isChain_cons spaced)
      rw [List.flatMap_cons, List.flatMap_cons]
      rcases token with own | name
      · have none := (plain own List.mem_cons_self).2
        rw [fill, fill, Percent.decode_plain_append none, later whole]
      · have alone := whole name List.mem_cons_self
        rw [fill, fill, Percent.decode_append alone, later]
        · intro other member
          exact whole other (List.mem_cons_of_mem _ member)
        · -- a literal is next, if anything is
          rcases tokens with - | ⟨own | other, tokens⟩
          · intro b nothing
            cases nothing
          · obtain ⟨nonempty, none⟩ := plain own (by simp)
            exact Percent.starts_octets nonempty none _
          · rcases (List.isChain_cons_cons.1 spaced).1 with beside | beside <;> cases beside

end Token

namespace Template

variable {t : Template} {text : Text}

/-- **Decoding variable by variable is decoding the whole.**  If the variables of a template
hold characters and encoded octets, with literals between them that have no percent sign, then
writing what was read and decoded gives what the matched front is decoded to, whatever
characters the octets make, or fail to make. -/
theorem format_eq_decode {parsed : Parsed} (plain : t.encoding = false)
    (literals : ∀ own, .literal own ∈ t.tokens → '%' ∉ own) (spaced : Token.Spaced t.tokens)
    (kinds : ∀ name ∈ t.variableNames,
      (t.describe name).fixed = false ∧ (t.describe name).kind.admitsEncoded = true)
    (decoded : ∀ name ∈ t.variableNames,
      (t.describe name).decodes = true ∧ (t.describe name).encodes = false)
    (h : t.parse? text = some parsed) :
    t.format parsed.bindings.find? =
      Percent.decode (Text.splitAt parsed.size text).1 := by
  obtain ⟨s, -, -, rfl⟩ := exists_matched_of_parse? h
  have whole : ∀ name ∈ Token.names t.tokens, Percent.Whole (s.value name) := by
    intro name member
    obtain ⟨free, admits⟩ := kinds name member
    have admitted := s.admits member
    rw [Variable.language, if_neg (by simp [free])] at admitted
    exact admitted.1.whole admits
  have written : t.format s.bindings.find? =
      t.tokens.flatMap (Token.fill fun name => Percent.decode (s.value name)) := by
    rw [format_eq_fill]
    apply Token.flatMap_fill_congr
    intro name member
    obtain ⟨decodes, notEncoded⟩ := decoded name member
    rw [s.writeValue_bindings plain member notEncoded, readValue, if_pos decodes]
  calc t.format s.bindings.find?
      = t.tokens.flatMap (Token.fill fun name => Percent.decode (s.value name)) := written
    _ = Percent.decode (t.tokens.flatMap (Token.fill s.value)) := by
        refine (Token.decode_fill ?_ spaced whole).symm
        intro own member
        exact ⟨Pattern.literal_ne_nil member, literals own member⟩
    _ = Percent.decode (Text.splitAt s.size text).1 := by rw [s.splitAt_size, s.front_eq]

/-- A segment that is cut short within a character, a literal whose first octet would be the
next to come, and a path that comes back. -/
def Example.truncated : Template where
  pattern := "/\x7bx\x7dé\x7bpath\x7d-\x7bx\x7d".toList
  mode := .startsWith
  descriptors := .ofList [("x".toList, { decodes := true }),
    ("path".toList, { kind := .uriPath, required := false, decodes := true })]

theorem format_eq_decode_truncated :
    ∃ parsed, Example.truncated.parse? "/a%E2%82é%C3%A9/%41%FF-a%E2%82?".toList = some parsed ∧
      Example.truncated.format parsed.bindings.find? = "/a\uFFFDéé/A\uFFFD-a\uFFFD".toList := by
  have found : Example.truncated.parse? "/a%E2%82é%C3%A9/%41%FF-a%E2%82?".toList =
      some ⟨31, .ofList [("x".toList, "a\uFFFD".toList), ("path".toList, "é/A\uFFFD".toList)]⟩ := by
    decide +kernel
  have literals : ∀ token ∈ Example.truncated.tokens, '%' ∉ token.fill fun _ => [] := by
    decide +kernel
  have spaced : Token.Spaced Example.truncated.tokens := by
    unfold Token.Spaced
    decide +kernel
  have written := format_eq_decode rfl (fun own member => literals (.literal own) member) spaced
    (by decide +kernel) (by decide +kernel) found
  exact ⟨_, found, written.trans (by decide +kernel)⟩

end Template
end UriRouting
