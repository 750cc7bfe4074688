/-
# UriRouting.Proofs.UriStructure — values stay where they are put

A URI is taken apart at its delimiters: what stands between them can be anything, as long as
it brings no delimiter of its own.  A template that encodes sees to that.  An encoder writes
unreserved characters and percent signs, and besides them no more than what its set keeps,
which for a path is the slash, and for a query or a fragment the question mark too
(`Kind.separators`).  A descriptor that encodes alone, without the template, keeps none of
them (`Template.written_apart`).

So whatever is given for the variables, and whatever their defaults are, the characters of a
formatted text that no value can bring (`Template.isStructural`) are those of the literals, in
their order (`Template.filter_format`): two runs with different values cannot be told apart by
them, and none of the delimiters is ever there more often than in the pattern.
-/
import UriRouting.Proofs.OwnOutput

namespace UriRouting

set_option autoImplicit false

/-- The delimiters that values of the kind may hold as they are. -/
def Kind.separators : Kind → Text
  | uriPath => ['/']
  | uriQuery | uriFragment => ['/', '?']
  | _ => []

theorem Kind.keeps_safe (k : Kind) (c : Char) :
    k.safe.keeps c = (Text.isUnreserved c || k.separators.contains c) := by
  cases k <;> simp [safe, Percent.Safe.keeps, separators, Bool.or_assoc, beq_eq_decide]

/-- Marks that delimit, the space, controls, and all that is not ASCII. -/
def Text.isForeign (c : Char) : Bool :=
  "#&= ".toList.contains c || c.toNat < 0x20 || 0x7F ≤ c.toNat

/-- Encoders write nothing foreign, whatever they keep. -/
theorem Text.isForeign_eq_false {c : Char}
    (written : Text.isUnreserved c = true ∨ c ∈ ['%', '/', '?']) : Text.isForeign c = false := by
  rcases written with unreserved | mark
  · refine Text.forall_ascii (P := fun c => Text.isUnreserved c = true → Text.isForeign c = false)
      ?_ (Percent.ascii_of_isUnreserved unreserved) unreserved
    decide +kernel
  · simp only [List.mem_cons, List.not_mem_nil, or_false] at mark
    rcases mark with rfl | rfl | rfl <;> decide

theorem Kind.mem_of_mem_separators {k : Kind} {c : Char} (h : c ∈ k.separators) :
    c ∈ ['%', '/', '?'] := by
  cases k <;> simp only [separators, List.mem_cons, List.not_mem_nil, or_false] at h
  · subst h; decide
  · rcases h with rfl | rfl <;> decide
  · rcases h with rfl | rfl <;> decide

namespace Template

/-- The literals of the pattern, one behind the other. -/
def literals (t : Template) : Text := t.tokens.flatMap (Token.fill fun _ => [])

/-- No value brings the character.  Unreserved characters and percent signs may be in any
value; if all of a template is encoded, so may be what the kind of a variable keeps. -/
def isStructural (t : Template) (c : Char) : Bool :=
  !(Text.isUnreserved c || c == '%' ||
    (t.encoding && t.variableNames.any fun name => (t.describe name).kind.separators.contains c))

variable {t : Template}

/-- What is written for a variable holds no delimiters but those of its kind, and even these
only where the template encodes. -/
theorem written_apart {name : Text}
    (encodes : t.encoding = true ∨ (t.describe name).encodes = true)
    (resolve : Text → Option Text) {c : Char} (member : c ∈ t.writeValue resolve name) :
    Text.isUnreserved c = true ∨ c = '%' ∨
      (t.encoding = true ∧ c ∈ (t.describe name).kind.separators) := by
  unfold writeValue at member
  split at member
  · rename_i all
    rcases Percent.Safe.keeps_of_mem_encode member with kept | percent
    · rw [Kind.keeps_safe, Bool.or_eq_true, List.contains_iff_mem] at kept
      exact kept.imp_right fun separator => Or.inr ⟨all, separator⟩
    · exact Or.inr (Or.inl percent)
  · rename_i notAll
    rw [if_pos (encodes.resolve_left notAll)] at member
    rcases Percent.Safe.keeps_of_mem_encode member with kept | percent
    · exact Or.inl kept
    · exact Or.inr (Or.inl percent)

theorem not_isStructural_of_written {name : Text} (named : name ∈ t.variableNames)
    (encodes : t.encoding = true ∨ (t.describe name).encodes = true)
    (resolve : Text → Option Text) {c : Char} (member : c ∈ t.writeValue resolve name) :
    t.isStructural c = false := by
  rw [isStructural, Bool.not_eq_false', Bool.or_eq_true, Bool.or_eq_true, Bool.and_eq_true,
    List.any_eq_true]
  rcases written_apart encodes resolve member with unreserved | percent | ⟨all, separator⟩
  · exact Or.inl (Or.inl unreserved)
  · exact Or.inl (Or.inr (beq_iff_eq.2 percent))
  · exact Or.inr ⟨all, name, named, List.contains_iff_mem.2 separator⟩

/-- The structure of what is written is that of the literals. -/
theorem filter_format
    (encodes : t.encoding = true ∨ ∀ name ∈ t.variableNames, (t.describe name).encodes = true)
    (resolve : Text → Option Text) :
    (t.format resolve).filter t.isStructural = t.literals.filter t.isStructural := by
  rw [format, literals, List.filter_flatMap, List.filter_flatMap]
  apply List.flatMap_congr
  intro token member
  rcases token with own | name
  · rfl
  · have named : name ∈ t.variableNames := Token.mem_names.2 member
    have either := encodes.imp_right fun each => each name named
    rw [writeToken, Token.fill, List.filter_nil, List.filter_eq_nil_iff]
    intro c written
    rw [not_isStructural_of_written named either resolve written]
    decide

/-- Foreign characters are structural, whatever the kinds are. -/
theorem isStructural_of_isForeign {c : Char} (foreign : Text.isForeign c = true) :
    t.isStructural c = true := by
  by_contra loose
  rw [Bool.not_eq_true, isStructural, Bool.not_eq_false', Bool.or_eq_true, Bool.or_eq_true,
    Bool.and_eq_true, List.any_eq_true] at loose
  have written : Text.isUnreserved c = true ∨ c ∈ ['%', '/', '?'] := by
    rcases loose with (unreserved | percent) | ⟨-, name, -, separator⟩
    · exact Or.inl unreserved
    · rw [beq_iff_eq.1 percent]
      exact Or.inr (by decide)
    · exact Or.inr (Kind.mem_of_mem_separators (List.contains_iff_mem.1 separator))
  rw [Text.isForeign_eq_false written] at foreign
  cases foreign

/-- **Values bring no structure.**  Where everything is encoded, whatever two resolvers give
for the variables, what they write does not differ but in unreserved characters and percent
signs, and in the slashes and question marks of kinds that keep them where the template
encodes: all else is from the literals.  A value is written with no other characters, so no
delimiter, space, control or character beyond ASCII is there more often than in the pattern. -/
theorem format_structure
    (encodes : t.encoding = true ∨ ∀ name ∈ t.variableNames, (t.describe name).encodes = true) :
    (∀ resolve resolve', (t.format resolve).filter t.isStructural =
        (t.format resolve').filter t.isStructural) ∧
      (∀ resolve, (t.format resolve).filter t.isStructural =
        t.literals.filter t.isStructural) ∧
      (∀ resolve, ∀ name ∈ t.variableNames, ∀ c ∈ t.writeValue resolve name,
        Text.isUnreserved c = true ∨ c = '%' ∨
          (t.encoding = true ∧ c ∈ (t.describe name).kind.separators)) ∧
      ∀ resolve c, Text.isForeign c = true →
        (t.format resolve).count c = t.literals.count c := by
  refine ⟨?_, filter_format encodes, ?_, ?_⟩
  · intro resolve resolve'
    rw [filter_format encodes, filter_format encodes]
  · intro resolve name named c member
    exact written_apart (encodes.imp_right fun each => each name named) resolve member
  · intro resolve c foreign
    have structural := isStructural_of_isForeign (t := t) foreign
    rw [← List.count_filter structural, filter_format encodes, List.count_filter structural]

/-- A segment, a fixed text that would go on in the query, and the query itself. -/
def Example.guarded : Template where
  pattern := "/\x7bname\x7d/\x7bv\x7d?q=\x7bquery\x7d".toList
  descriptors := .ofList
    [("v".toList, .ofFixed "a&b".toList), ("query".toList, .ofKind .uriQuery)]
  encoding := true

/-- A value with all that could end a segment, a path, a query or a line. -/
def Example.hostile : Text → Option Text := fun _ => some "../é?a=1&b#c \n".toList

theorem format_structure_hostile :
    Example.guarded.encoding = true ∧
      (Example.guarded.format Example.hostile).filter Example.guarded.isStructural = ['='] ∧
      (Example.guarded.format Example.hostile).filter Example.guarded.isStructural =
        (Example.guarded.format fun _ => none).filter Example.guarded.isStructural ∧
      (Example.guarded.format Example.hostile).count '#' = 0 := by
  obtain ⟨alike, literals, -, foreign⟩ := format_structure (t := Example.guarded) (Or.inl rfl)
  refine ⟨rfl, ?_, alike _ _, ?_⟩
  · rw [literals]
    decide +kernel
  · rw [foreign _ '#' (by decide)]
    decide +kernel

end Template
end UriRouting
