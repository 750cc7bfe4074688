/-
# UriRouting.Proofs.MatchedFront — what was matched is matched by itself

A template that has matched a front of a text is asked again, for that front alone.  The text
is shorter and ends in another place, so there are splits that are none any more, and others
that were none before; what won must win again.  It is a split of its front in every mode, as
nothing is left (`Template.Split.alone`).  And whatever splits the front, in the same mode or
as a whole, splits the text too: what it leaves, with the rest of the text behind, may be left
by a match of the text (`Mode.Ends.append`, `Template.Split.beyond`).  So nothing is above it
among the splits of the front that was not above it before (`Template.Split.Wins.alone`).

Hence matching by prefixes and matching of whole texts agree on what is matched, and the first
match of a path says all about a second one (`matched_again`).
-/
import UriRouting.Proofs.PathMatching

namespace UriRouting

set_option autoImplicit false

namespace Mode

theorem ends_nil (mode : Mode) : mode.Ends [] := by
  cases mode with
  | equals => rfl
  | startsWith => trivial
  | startsWithSegment => exact Or.inl rfl

/-- What may be left of a front may be left of the text, with the rest of the text behind. -/
theorem Ends.append {mode outer : Mode} (same : mode = outer ∨ mode = .equals)
    {left rest : Text} (inner : mode.Ends left) (ends : outer.Ends rest) :
    outer.Ends (left ++ rest) := by
  rcases same with rfl | rfl
  · cases mode with
    | equals =>
        cases inner
        exact ends
    | startsWith => trivial
    | startsWithSegment =>
        rcases inner with rfl | ⟨more, rfl⟩
        · exact ends
        · exact Or.inr ⟨more ++ rest, rfl⟩
  · cases inner
    exact ends

end Mode

namespace Template

/-- The template in another mode. -/
def inMode (t : Template) (mode : Mode) : Template := { t with mode }

/-- A search for a split of the text comes to an end.  Without a repeated variable there is
none that could be given up. -/
def Settled (t : Template) (text : Text) : Prop :=
  t.variableNames.Nodup ∨ t.verdict text ≠ .gaveUp

instance (t : Template) (text : Text) : Decidable (t.Settled text) :=
  inferInstanceAs (Decidable (_ ∨ _))

namespace Split

variable {t : Template} {text : Text} {mode : Mode}

/-- The split, of no more than its front. -/
def alone (s : t.Split text) (mode : Mode) : (t.inMode mode).Split s.front :=
  .ofValue s.value [] (by rw [List.append_nil]; exact s.front_eq) (fun _ => s.admits) mode.ends_nil

/-- A split of the front, of all the text. -/
def beyond (s : t.Split text) (same : mode = t.mode ∨ mode = .equals)
    (other : (t.inMode mode).Split s.front) : t.Split text :=
  .ofValue other.value (other.rest ++ s.rest)
    (by
      have front : s.front = t.tokens.flatMap (Token.fill other.value) ++ other.rest :=
        other.whole_eq
      rw [← List.append_assoc, ← front]
      exact s.whole)
    (fun _ => other.admits) (other.ends.append same s.ends)

theorem shares_alone (s : t.Split text) (mode : Mode) : (s.alone mode).shares = s.shares :=
  s.shares_eq.symm

theorem shares_beyond (s : t.Split text) (same : mode = t.mode ∨ mode = .equals)
    (other : (t.inMode mode).Split s.front) : (s.beyond same other).shares = other.shares :=
  other.shares_eq.symm

section Congr

variable {front : Text} {s : t.Split text} {s' : (t.inMode mode).Split front}

/-! What is said of a split is read off the shares, whatever the mode is. -/

theorem value_congr (same : s'.shares = s.shares) (name : Text) : s'.value name = s.value name := by
  rw [value, value, same]

theorem size_congr (same : s'.shares = s.shares) : s'.size = s.size := by
  rw [size, size, Split.front, Split.front, same]

theorem lengths_congr (same : s'.shares = s.shares) : s'.lengths = s.lengths :=
  List.map_congr_left fun name _ => congrArg Text.size (value_congr same name)

theorem bindings_congr (same : s'.shares = s.shares) : s'.bindings = s.bindings := by
  have captures : s'.captures = s.captures :=
    List.map_congr_left fun name _ => congrArg (Prod.mk name) (value_congr same name)
  exact congrArg (fun captures => Dictionary.ofList (t.readCaptures captures)) captures

end Congr

/-- What wins wins among the splits of its front. -/
theorem Wins.alone {s : t.Split text} (wins : s.Wins) (same : mode = t.mode ∨ mode = .equals) :
    (s.alone mode).Wins := by
  intro other
  rw [shares_alone, lengths_congr (s.shares_alone mode)]
  rcases wins (s.beyond same other) with equal | below
  · left
    exact (s.shares_beyond same other).symm.trans equal
  · right
    rwa [← lengths_congr (s.shares_beyond same other).symm] at below

end Split

variable {t : Template} {text : Text} {mode : Mode}

/-- A split that wins is what is parsed of its front. -/
theorem parse?_front {s : t.Split text} (wins : s.Wins) (same : mode = t.mode ∨ mode = .equals)
    (settled : (t.inMode mode).Settled s.front) :
    (t.inMode mode).parse? s.front = some ⟨s.size, s.bindings⟩ := by
  obtain ⟨s', wins', matched⟩ := exists_matched settled ⟨s.alone mode⟩
  have shares : s'.shares = s.shares :=
    (wins'.shares_eq (wins.alone same)).trans (s.shares_alone mode)
  rw [parse?_of_matched matched, Split.size_congr shares, Split.bindings_congr shares]

/-- What is parsed of a text is parsed of its matched front, in the same mode and as a whole. -/
theorem parse?_splitAt {parsed : Parsed} (h : t.parse? text = some parsed)
    (same : mode = t.mode ∨ mode = .equals)
    (settled : (t.inMode mode).Settled (Text.splitAt parsed.size text).1) :
    (t.inMode mode).parse? (Text.splitAt parsed.size text).1 = some parsed := by
  obtain ⟨s, wins, -, rfl⟩ := exists_matched_of_parse? h
  rw [s.splitAt_size] at settled ⊢
  exact parse?_front wins same settled

theorem size_splitAt {parsed : Parsed} (h : t.parse? text = some parsed) :
    Text.size (Text.splitAt parsed.size text).1 = parsed.size := by
  obtain ⟨s, -, -, rfl⟩ := exists_matched_of_parse? h
  rw [s.splitAt_size]
  rfl

end Template

theorem PathPattern.matching?_answer {p : PathPattern} (good : p.template.Good) (path : Text) :
    (p.matching? path).answer =
      ((p.template.template.parse? path).map fun parsed =>
        ⟨(Text.splitAt parsed.size path).1, parsed.bindings, (Text.splitAt parsed.size path).2⟩,
        { p with template := p.template.prepare.answer.2 }) := by
  simp only [matching?, Logged.answer_bind, CachedTemplate.parse?_answer good]
  rfl

/-- **What was matched is matched again:** of the front that a template matches it parses the
same, with all that it has kept by then, and so it does once it matches whole texts only.  And
a path pattern matches what it has matched of a path, all of it and with the same values. -/
theorem matched_again :
    (∀ (c : CachedTemplate) (text : Text) (parsed : Parsed), c.Good →
      (c.parse? text).answer.1 = some parsed →
        let used := (c.parse? text).answer.2
        let front := (Text.splitAt parsed.size text).1
        Text.size front = parsed.size ∧
          (c.template.Settled front → (used.parse? front).answer.1 = some parsed) ∧
          ((c.template.inMode .equals).Settled front →
            ((used.setMode .equals).parse? front).answer.1 = some parsed)) ∧
      ∀ (p : PathPattern) (path : Text) (m : Matching), p.template.Good →
        (p.matching? path).answer.1 = some m → p.template.template.Settled m.matched →
          ((p.matching? path).answer.2.matching? m.matched).answer.1 =
            some { m with remainder := [] } := by
  constructor
  · intro c text parsed good h used front
    have used_eq : used = c.prepare.answer.2 :=
      congrArg Prod.snd (CachedTemplate.parse?_answer good text)
    have template : used.template = c.template := by
      rw [used_eq, CachedTemplate.prepare_template]
    rw [CachedTemplate.parse?_answer good] at h
    refine ⟨Template.size_splitAt h, ?_, ?_⟩
    · intro settled
      have kept : used.Good := by
        rw [used_eq]
        exact CachedTemplate.good_prepare good
      rw [CachedTemplate.parse?_answer kept, template]
      exact Template.parse?_splitAt h (Or.inl rfl) settled
    · intro settled
      have changed : (used.setMode .equals).template = c.template.inMode .equals := by
        rw [← template]
        rfl
      rw [CachedTemplate.parse?_answer (CachedTemplate.good_setMode used .equals), changed]
      exact Template.parse?_splitAt h (Or.inr rfl) settled
  · intro p path m good h settled
    rw [PathPattern.matching?_answer good] at h ⊢
    obtain ⟨parsed, read, rfl⟩ := Option.map_eq_some_iff.1 h
    have again : p.template.template.parse? (Text.splitAt parsed.size path).1 = some parsed :=
      Template.parse?_splitAt read (Or.inl rfl) settled
    have whole := Text.splitAt_size (Text.splitAt parsed.size path).1 []
    rw [List.append_nil, Template.size_splitAt read] at whole
    rw [PathPattern.matching?_answer (CachedTemplate.good_prepare good)]
    simp only [CachedTemplate.prepare_template, again, Option.map_some, whole]

namespace Example

/-- A name that comes back in the next segment, and what may stand behind it in the first. -/
def renamed : PathPattern :=
  (PathPattern.ofPattern "/\x7bx\x7d\x7by\x7d/\x7bx\x7d".toList
    (.ofList [("y".toList, { required := false })])).answer

def renamedMatching : Matching :=
  ⟨"/abc/ab".toList, .ofList [("x".toList, "ab".toList), ("y".toList, "c".toList)], "/d".toList⟩

end Example

theorem matched_again_renamed :
    ((Example.renamed.matching? "/abc/ab/d".toList).answer.2.matching? "/abc/ab".toList).answer.1 =
        some { Example.renamedMatching with remainder := [] } ∧
      (((Example.renamed.template.parse? "/abc/ab/d".toList).answer.2.setMode .equals).parse?
        "/abc/ab".toList).answer.1 = some ⟨7, Example.renamedMatching.bindings⟩ := by
  obtain ⟨ofTemplate, ofPattern⟩ := matched_again
  have good : Example.renamed.template.Good := PathPattern.good_ofPattern _ _
  constructor
  · exact ofPattern Example.renamed "/abc/ab/d".toList Example.renamedMatching good
      (by decide +kernel) (Or.inr (by decide +kernel))
  · obtain ⟨-, -, whole⟩ := ofTemplate Example.renamed.template "/abc/ab/d".toList
      ⟨7, Example.renamedMatching.bindings⟩ good (by decide +kernel)
    have front : (Text.splitAt 7 "/abc/ab/d".toList).1 = "/abc/ab".toList := by decide +kernel
    rw [front] at whole
    exact whole (Or.inr (by decide +kernel))

end UriRouting
