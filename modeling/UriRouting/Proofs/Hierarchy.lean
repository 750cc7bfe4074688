/-
# UriRouting.Proofs.Hierarchy — matching in two steps

A router may match a path by one pattern and what is left of it by another, or by both
patterns at once, one written behind the other.  The first way commits itself: what the first
pattern has matched is not taken back when the second fails.  Where no variable of the first
takes a slash that makes no difference, as its match can end in one place only: at the end of
a segment and behind as many slashes as the pattern has (`Template.Split.front_unique`).

So a split along both patterns is a split along the first and one of what that leaves along
the second (`Joinable.first`, `Joinable.second`, `Joinable.join`), and since the variables of
the first come first, the split that wins is made of two that win (`Joinable.wins_join`).
`Joinable` says what is asked of two patterns, `matchingOf?_append` what follows for the
answers of path patterns.
-/
import UriRouting.Proofs.Append
import UriRouting.Proofs.PathMatching

namespace UriRouting

set_option autoImplicit false

/-! ## Slashes -/

/-- Fronts of a text that end where segments end are told apart by their slashes. -/
theorem Text.front_eq_of_count {front front' rest rest' : Text}
    (same : front ++ rest = front' ++ rest') (slashes : front.count '/' = front'.count '/')
    (ends : Mode.startsWithSegment.Ends rest) (ends' : Mode.startsWithSegment.Ends rest') :
    front = front' := by
  -- whichever goes on would go on with a slash
  have stops {more rest rest' : Text} (ends : Mode.startsWithSegment.Ends rest)
      (tail : rest = more ++ rest') (none : more.count '/' = 0) : more = [] := by
    cases more with
    | nil => rfl
    | cons c more =>
        rcases ends with rfl | ⟨later, rfl⟩
        · cases tail
        · obtain ⟨rfl, -⟩ := List.cons.inj tail
          rw [List.count_cons_self] at none
          omega
  rcases List.append_eq_append_iff.1 same with ⟨more, rfl, tail⟩ | ⟨more, rfl, tail⟩
  · rw [List.count_append] at slashes
    rw [stops ends tail (by omega), List.append_nil]
  · rw [List.count_append] at slashes
    rw [stops ends' tail (by omega), List.append_nil]

/-- A list that is less than one of its length is less whatever follows. -/
theorem append_lt_append_of_lt {a b : List Nat} (less : a < b) (length : a.length = b.length)
    (x y : List Nat) : a ++ x < b ++ y := by
  induction a generalizing b with
  | nil =>
      cases b with
      | nil => exact absurd less (List.lt_irrefl _)
      | cons n b => cases length
  | cons m a ih =>
      cases b with
      | nil => cases length
      | cons n b =>
          rw [List.cons_append, List.cons_append, List.cons_lt_cons_iff]
          rcases List.cons_lt_cons_iff.1 less with below | ⟨rfl, later⟩
          · exact Or.inl below
          · exact Or.inr ⟨rfl, ih later (Nat.succ.inj length)⟩

namespace Token

/-- The texts of variables add nothing to the slashes of a pattern if there is none in them. -/
theorem count_fill {value : Text → Text} {tokens : List Token}
    (slashless : ∀ name ∈ names tokens, '/' ∉ value name) :
    (tokens.flatMap (fill value)).count '/' =
      (tokens.flatMap (fill fun _ => [])).count '/' := by
  induction tokens with
  | nil => rfl
  | cons token tokens ih =>
      rw [List.flatMap_cons, List.flatMap_cons, List.count_append, List.count_append]
      rcases token with text | name
      · rw [ih slashless]
        rfl
      · rw [ih fun name member => slashless name (List.mem_cons_of_mem _ member)]
        rw [fill, List.count_eq_zero.2 (slashless name List.mem_cons_self)]
        rfl

end Token

theorem eraseDups_of_nodup {names : List Text} (distinct : names.Nodup) :
    names.eraseDups = names := by
  induction names with
  | nil => rfl
  | cons name names ih =>
      obtain ⟨new, distinct⟩ := List.nodup_cons.1 distinct
      rw [List.eraseDups_cons, List.filter_eq_self.2, ih distinct]
      intro other member
      simp only [Bool.not_eq_true', beq_eq_false_iff_ne]
      rintro rfl
      exact new member

namespace Template

variable {t : Template} {text : Text}

namespace Split

/-- If no variable takes a slash, the slashes that are matched are those of the pattern. -/
theorem count_front (slashless : ∀ name ∈ t.variableNames, ∀ value,
    (t.describe name).language.Admits value → '/' ∉ value) (s : t.Split text) :
    s.front.count '/' = (t.tokens.flatMap (Token.fill fun _ => [])).count '/' := by
  rw [s.front_eq]
  exact Token.count_fill fun name member => slashless name member _ (s.admits member)

/-- If no variable takes a slash, all splits into segments end at one place. -/
theorem front_unique (segments : t.mode = .startsWithSegment)
    (slashless : ∀ name ∈ t.variableNames, ∀ value,
      (t.describe name).language.Admits value → '/' ∉ value) (s s' : t.Split text) :
    s.front = s'.front := by
  have ends := s.ends
  have ends' := s'.ends
  rw [segments] at ends ends'
  have slashes := (s.count_front slashless).trans (s'.count_front slashless).symm
  exact Text.front_eq_of_count (s.whole.symm.trans s'.whole) slashes ends ends'

end Split
end Template

namespace PathPattern

variable {descriptors : Dictionary Variable} {pattern path : Text}

/-- Where no variable is repeated, the lengths are those of the variables in a row. -/
theorem lengths_of_distinct (distinct : (Pattern.variableNames pattern).Nodup)
    (s : (segments descriptors pattern).Split path) :
    s.lengths = (Pattern.variableNames pattern).map fun name => Text.size (s.value name) := by
  have names : (segments descriptors pattern).variableNames.eraseDups =
      Pattern.variableNames pattern := eraseDups_of_nodup distinct
  rw [Template.Split.lengths, names]

/-! ## Joints -/

/-- One text for each variable: those of the first pattern from one source, all others from
another. -/
def either (front : Text) (value value' : Text → Text) (name : Text) : Text :=
  if name ∈ Pattern.variableNames front then value name else value' name

theorem either_front {front : Text} (value value' : Text → Text) {name : Text}
    (member : name ∈ Pattern.variableNames front) : either front value value' name = value name :=
  if_pos member

/-- Two patterns with nothing in them that could reach over the joint. -/
structure Joinable (descriptors : Dictionary Variable) (front back : Text) : Prop where
  frontNormal : normalize front = front
  backNormal : normalize back = back
  /-- No brace of the first pattern takes what follows for a body. -/
  closed : Pattern.Defect.unterminatedVariable ∉ Pattern.defects front
  distinct : (Pattern.variableNames (front ++ back)).Nodup
  /-- No variable of the first pattern takes a text with a slash.  Those of the second may. -/
  slashless : ∀ name ∈ Pattern.variableNames front, ∀ value,
    ((descriptors.find? name).getD {}).language.Admits value → '/' ∉ value

namespace Joinable

variable {front back : Text} (h : Joinable descriptors front back)

include h

theorem names_eq : Pattern.variableNames (front ++ back) =
    Pattern.variableNames front ++ Pattern.variableNames back :=
  Pattern.variableNames_append (Pattern.closed_of_defects h.closed) back

theorem fill_eq (value : Text → Text) :
    (segments descriptors (front ++ back)).tokens.flatMap (Token.fill value) =
      (segments descriptors front).tokens.flatMap (Token.fill value) ++
        (segments descriptors back).tokens.flatMap (Token.fill value) :=
  Pattern.fill_append (Pattern.closed_of_defects h.closed) back value

theorem mem_of_front {name : Text} (member : name ∈ Pattern.variableNames front) :
    name ∈ Pattern.variableNames (front ++ back) := by
  rw [h.names_eq]
  exact List.mem_append_left _ member

theorem mem_of_back {name : Text} (member : name ∈ Pattern.variableNames back) :
    name ∈ Pattern.variableNames (front ++ back) := by
  rw [h.names_eq]
  exact List.mem_append_right _ member

theorem mem_front_or_back {name : Text} (member : name ∈ Pattern.variableNames (front ++ back)) :
    name ∈ Pattern.variableNames front ∨ name ∈ Pattern.variableNames back := by
  rwa [h.names_eq, List.mem_append] at member

theorem distinct_parts : (Pattern.variableNames front).Nodup ∧
    (Pattern.variableNames back).Nodup ∧
      ∀ name ∈ Pattern.variableNames front, ∀ other ∈ Pattern.variableNames back,
        name ≠ other := by
  have distinct := h.distinct
  rwa [h.names_eq, List.nodup_append] at distinct

theorem distinct_front : (Pattern.variableNames front).Nodup := h.distinct_parts.1

theorem distinct_back : (Pattern.variableNames back).Nodup := h.distinct_parts.2.1

theorem not_mem_front {name : Text} (member : name ∈ Pattern.variableNames back) :
    name ∉ Pattern.variableNames front :=
  fun here => h.distinct_parts.2.2 name here name member rfl

/-! ### Splits taken apart -/

/-- The first pattern's part of a split. -/
def first (s : (segments descriptors (front ++ back)).Split path) :
    (segments descriptors front).Split path :=
  .ofValue s.value ((segments descriptors back).tokens.flatMap (Token.fill s.value) ++ s.rest)
    (by rw [← List.append_assoc, ← h.fill_eq]; exact s.whole_eq)
    (fun _ member => s.admits (h.mem_of_front member))
    (ends_fill_append h.backNormal s.value s.ends)

/-- The second pattern's part of a split, of any text that is left behind the first. -/
def second (s : (segments descriptors (front ++ back)).Split path) {left : Text}
    (same : left = (h.first s).rest) : (segments descriptors back).Split left :=
  .ofValue s.value s.rest same (fun _ member => s.admits (h.mem_of_back member)) s.ends

/-- Whatever the first pattern is given by itself, it ends where its part of any split does. -/
theorem rest_eq (s : (segments descriptors front).Split path)
    (other : (segments descriptors (front ++ back)).Split path) :
    s.rest = (h.first other).rest := by
  have slashless : ∀ name ∈ (segments descriptors front).variableNames, ∀ value,
      ((segments descriptors front).describe name).language.Admits value → '/' ∉ value :=
    h.slashless
  apply Template.Split.rest_eq_of_front_eq
  exact Template.Split.front_unique rfl slashless s (h.first other)

/-! ### Splits put together -/

theorem either_back (value value' : Text → Text) {name : Text}
    (member : name ∈ Pattern.variableNames back) : either front value value' name = value' name :=
  if_neg (h.not_mem_front member)

theorem fill_either (value value' : Text → Text) :
    (segments descriptors (front ++ back)).tokens.flatMap (Token.fill (either front value value')) =
      (segments descriptors front).tokens.flatMap (Token.fill value) ++
        (segments descriptors back).tokens.flatMap (Token.fill value') := by
  rw [h.fill_eq]
  exact congrArg₂ (· ++ ·)
    (Token.flatMap_fill_congr fun _ member => either_front value value' member)
    (Token.flatMap_fill_congr fun _ member => h.either_back value value' member)

theorem admits_either {value value' : Text → Text}
    (admits : ∀ name ∈ Pattern.variableNames front,
      ((segments descriptors front).describe name).language.Admits (value name))
    (admits' : ∀ name ∈ Pattern.variableNames back,
      ((segments descriptors back).describe name).language.Admits (value' name)) :
    ∀ name ∈ Pattern.variableNames (front ++ back),
      ((segments descriptors (front ++ back)).describe name).language.Admits
        (either front value value' name) := by
  intro name member
  rcases h.mem_front_or_back member with here | here
  · rw [either_front value value' here]
    exact admits name here
  · rw [h.either_back value value' here]
    exact admits' name here

/-- A split along the first pattern, and a split of what it leaves along the second. -/
def join (s : (segments descriptors front).Split path)
    (s' : (segments descriptors back).Split s.rest) :
    (segments descriptors (front ++ back)).Split path :=
  .ofValue (either front s.value s'.value) s'.rest
    (by
      rw [h.fill_either, List.append_assoc, ← s'.whole_eq]
      exact s.whole_eq)
    (h.admits_either (fun _ => s.admits) (fun _ => s'.admits)) s'.ends

variable {s : (segments descriptors front).Split path}
  {s' : (segments descriptors back).Split s.rest}

theorem value_join {name : Text} (member : name ∈ Pattern.variableNames (front ++ back)) :
    (h.join s s').value name = either front s.value s'.value name :=
  Template.Split.value_ofValue member

theorem front_join : (h.join s s').front = s.front ++ s'.front := by
  have same : ∀ name ∈ Token.names (segments descriptors (front ++ back)).tokens,
      (h.join s s').value name = either front s.value s'.value name := fun _ => h.value_join
  rw [Template.Split.front_eq, Token.flatMap_fill_congr same, h.fill_either, ← s.front_eq,
    ← s'.front_eq]

/-- A split's lengths are those of splits along the two patterns that give the same. -/
theorem lengths_eq {t : (segments descriptors (front ++ back)).Split path} {left : Text}
    {t₁ : (segments descriptors front).Split path} {t₂ : (segments descriptors back).Split left}
    (same : ∀ name ∈ Pattern.variableNames front, t.value name = t₁.value name)
    (same' : ∀ name ∈ Pattern.variableNames back, t.value name = t₂.value name) :
    t.lengths = t₁.lengths ++ t₂.lengths := by
  rw [lengths_of_distinct h.distinct, lengths_of_distinct h.distinct_front,
    lengths_of_distinct h.distinct_back, h.names_eq, List.map_append]
  congr 1
  · exact List.map_congr_left fun name member => congrArg Text.size (same name member)
  · exact List.map_congr_left fun name member => congrArg Text.size (same' name member)

/-- **Greedy choices go together:** if either pattern gives its variables most, so does the
split along both. -/
theorem wins_join (wins : s.Wins) (wins' : s'.Wins) : (h.join s s').Wins := by
  intro other
  have rests := h.rest_eq s other
  have first {name : Text} (member : name ∈ Pattern.variableNames front) :
      (h.first other).value name = other.value name := Template.Split.value_ofValue member
  have second {name : Text} (member : name ∈ Pattern.variableNames back) :
      (h.second other rests).value name = other.value name := Template.Split.value_ofValue member
  have joined : (h.join s s').lengths = s.lengths ++ s'.lengths := by
    apply h.lengths_eq
    · intro name member
      rw [h.value_join (h.mem_of_front member), either_front _ _ member]
    · intro name member
      rw [h.value_join (h.mem_of_back member), h.either_back _ _ member]
  have parted : other.lengths = (h.first other).lengths ++ (h.second other rests).lengths :=
    h.lengths_eq (fun _ member => (first member).symm) fun _ member => (second member).symm
  rw [joined, parted]
  -- the first pattern's lengths decide, and the second's only where those are the same
  rcases wins (h.first other) with same | below
  · rcases wins' (h.second other rests) with same' | below
    · left
      apply Template.Split.shares_congr
      intro name member
      rw [h.value_join member]
      rcases h.mem_front_or_back member with here | here
      · rw [either_front _ _ here, ← first here, Template.Split.value_of_shares_eq same]
      · rw [h.either_back _ _ here, ← second here, Template.Split.value_of_shares_eq same']
    · right
      have equal : (h.first other).lengths = s.lengths :=
        List.map_congr_left fun name _ =>
          congrArg Text.size (Template.Split.value_of_shares_eq same name)
      rw [equal]
      exact List.append_left_lt below
  · right
    apply append_lt_append_of_lt below
    rw [Template.Split.lengths, Template.Split.lengths, List.length_map, List.length_map]

/-- Either binding of a split along both patterns is one of its parts. -/
theorem find?_bindings_join (name : Text) :
    (h.join s s').bindings.find? name =
      (s.bindings.find? name).or (s'.bindings.find? name) := by
  rw [find?_bindings, find?_bindings, find?_bindings]
  by_cases inFront : name ∈ Pattern.variableNames front
  · rw [if_pos (h.mem_of_front inFront), if_pos inFront, h.value_join (h.mem_of_front inFront),
      either_front _ _ inFront]
    rfl
  · rw [if_neg inFront, Option.none_or]
    by_cases inBack : name ∈ Pattern.variableNames back
    · rw [if_pos (h.mem_of_back inBack), if_pos inBack, h.value_join (h.mem_of_back inBack),
        h.either_back _ _ inBack]
      rfl
    · rw [if_neg inBack, if_neg]
      intro member
      exact (h.mem_front_or_back member).elim inFront inBack

/-- What both patterns match in two steps they match at once. -/
theorem exists_matching {m₁ m₂ : Matching}
    (first : matchingOf? descriptors front path = some m₁)
    (second : matchingOf? descriptors back m₁.remainder = some m₂) :
    ∃ m, matchingOf? descriptors (front ++ back) path = some m ∧
      m.matched = m₁.matched ++ m₂.matched ∧ m.remainder = m₂.remainder ∧
      ∀ name, m.bindings.find? name = (m₁.bindings.find? name).or (m₂.bindings.find? name) := by
  have normal := normalize_append h.frontNormal h.backNormal
  obtain ⟨s, wins, rfl⟩ := (matchingOf?_eq_some_iff h.frontNormal h.distinct_front).1 first
  obtain ⟨s', wins', rfl⟩ := (matchingOf?_eq_some_iff h.backNormal h.distinct_back).1 second
  refine ⟨(h.join s s').matching, ?_, h.front_join, rfl, h.find?_bindings_join⟩
  exact (matchingOf?_eq_some_iff normal h.distinct).2 ⟨_, h.wins_join wins wins', rfl⟩

/-- What both patterns match at once they match in two steps. -/
theorem exists_steps {m : Matching}
    (found : matchingOf? descriptors (front ++ back) path = some m) :
    ∃ m₁ m₂, matchingOf? descriptors front path = some m₁ ∧
      matchingOf? descriptors back m₁.remainder = some m₂ := by
  have normal := normalize_append h.frontNormal h.backNormal
  obtain ⟨s, -, -⟩ := (matchingOf?_eq_some_iff normal h.distinct).1 found
  obtain ⟨s₁, wins₁⟩ := exists_wins h.distinct_front (h.first s)
  obtain ⟨s₂, wins₂⟩ := exists_wins h.distinct_back (h.second s (h.rest_eq s₁ s))
  refine ⟨s₁.matching, s₂.matching, ?_, ?_⟩
  · exact (matchingOf?_eq_some_iff h.frontNormal h.distinct_front).2 ⟨s₁, wins₁, rfl⟩
  · exact (matchingOf?_eq_some_iff h.backNormal h.distinct_back).2 ⟨s₂, wins₂, rfl⟩

end Joinable

/-- **Matching in two steps is matching at once.**  A pattern and one behind it match a path
together exactly if the first matches it and the second what the first leaves; and then they
match what the two match one behind the other, leave what the second leaves, and bind each
variable as the one that has it. -/
theorem matchingOf?_append {front back : Text} (h : Joinable descriptors front back)
    (path : Text) :
    ((matchingOf? descriptors (front ++ back) path).isSome = true ↔
        ∃ m₁ m₂, matchingOf? descriptors front path = some m₁ ∧
          matchingOf? descriptors back m₁.remainder = some m₂) ∧
      ∀ m₁ m₂, matchingOf? descriptors front path = some m₁ →
        matchingOf? descriptors back m₁.remainder = some m₂ →
          ∃ m, matchingOf? descriptors (front ++ back) path = some m ∧
            m.matched = m₁.matched ++ m₂.matched ∧ m.remainder = m₂.remainder ∧
            ∀ name, m.bindings.find? name =
              (m₁.bindings.find? name).or (m₂.bindings.find? name) := by
  refine ⟨⟨?_, ?_⟩, fun _ _ => h.exists_matching⟩
  · intro some
    obtain ⟨m, found⟩ := Option.isSome_iff_exists.1 some
    exact h.exists_steps found
  · rintro ⟨m₁, m₂, first, second⟩
    obtain ⟨m, found, -⟩ := h.exists_matching first second
    rw [found]
    rfl

namespace Example

/-- A number that letters may follow, and a word. -/
def kinds : Dictionary Variable :=
  .ofList [("id".toList, .ofKind .digit), ("tail".toList, { kind := .word, required := false }),
    ("page".toList, .ofKind .word)]

def user : Text := "/users/\x7bid\x7d\x7btail\x7d".toList

def page : Text := "/\x7bpage\x7d".toList

theorem joinable : Joinable kinds user page where
  frontNormal := by decide +kernel
  backNormal := by decide +kernel
  closed := by decide +kernel
  distinct := by decide +kernel
  slashless := by
    have apart : ∀ name ∈ Pattern.variableNames user,
        ((kinds.find? name).getD {}).language.mentions '/' = false := by decide +kernel
    intro name member
    exact Language.mentions_eq_false_iff.1 (apart name member)

def userMatching : Matching :=
  ⟨"/users/42nd".toList, .ofList [("id".toList, "42".toList), ("tail".toList, "nd".toList)],
    "/a/b".toList⟩

def pageMatching : Matching :=
  ⟨"/a".toList, .ofList [("page".toList, "a".toList)], "/b".toList⟩

end Example

theorem matchingOf?_append_user :
    ∃ m, matchingOf? Example.kinds (Example.user ++ Example.page) "/users/42nd/a/b".toList =
        some m ∧
      m.matched = "/users/42nd/a".toList ∧ m.remainder = "/b".toList ∧
      m.bindings.find? "tail".toList = some "nd".toList := by
  obtain ⟨m, found, matched, remainder, bindings⟩ :=
    (matchingOf?_append Example.joinable "/users/42nd/a/b".toList).2 Example.userMatching
      Example.pageMatching (by decide +kernel) (by decide +kernel)
  refine ⟨m, found, matched.trans (by decide +kernel), remainder, ?_⟩
  rw [bindings]
  decide +kernel

end PathPattern
end UriRouting
