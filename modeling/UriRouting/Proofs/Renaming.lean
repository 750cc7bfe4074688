/-
# UriRouting.Proofs.Renaming — names of variables do not matter

A `Renaming` is a pattern with a list of descriptors, and another name for each name.  The new
names stand between the same braces (`Pattern.rename`) and in front of the same descriptors.
Malformed parts stay as they are, and so does the normal form of a path pattern
(`PathPattern.normalize_rename`), so the new tokens are the old ones renamed
(`Pattern.tokens_rename`).

Where different names stay different (`Renaming.Separates`) the new pattern is made of the
renamed pieces, so each search along it is the old one, renamed (`Matcher.run_rename`), and comes
to the same end, also where that is to give up.  Where names are merged the pieces are others, as
what was a variable of its own has to repeat a text now.  But each split along the new pattern is
one along the old pattern, in which the names that were merged have the same text
(`Renaming.unmerge`), if they are described alike (`Renaming.Alike`).
-/
import UriRouting.Proofs.RenamedSearch
import UriRouting.Proofs.Rewriting
import UriRouting.Proofs.WholePath

namespace UriRouting

set_option autoImplicit false

variable {f : Text → Text}

/-! ## Entries with other names -/

namespace Dictionary

variable {α : Type}

/-- The same values under other names. -/
def rename (f : Text → Text) (d : Dictionary α) : Dictionary α :=
  ofList (renameEntries f d.entries)

theorem ofList_concat (entries : List (Text × α)) (entry : Text × α) :
    ofList (entries ++ [entry]) = (ofList entries).insert entry.1 entry.2 := by
  rw [ofList, List.foldl_append]
  rfl

/-- The last entry of a name is the one that is found. -/
theorem find?_ofList (entries : List (Text × α)) (name : Text) :
    (ofList entries).find? name = entries.reverse.lookup name := by
  induction entries using List.reverseRecOn with
  | nil => rfl
  | append_singleton front entry ih =>
      obtain ⟨key, value⟩ := entry
      rw [ofList_concat, find?_insert, List.reverse_concat, List.lookup_cons, ih]
      by_cases same : name = key
      · simp [same]
      · simp [same, beq_false_of_ne same]

theorem mem_keys_iff {entries : List (Text × α)} {name : Text} :
    name ∈ entries.map Prod.fst ↔ (ofList entries).find? name ≠ none := by
  rw [find?_ofList, ne_eq, List.lookup_eq_none_iff]
  simp

theorem place_last {entries : List (Text × α)} {name : Text} (value : α)
    (below : ∀ entry ∈ entries, entry.1 < name) :
    place name value entries = entries ++ [(name, value)] := by
  induction entries with
  | nil => rfl
  | cons first later ih =>
      have less := below first List.mem_cons_self
      rw [place, if_neg (List.lt_asymm less), if_pos less,
        ih fun entry member => below entry (List.mem_cons_of_mem _ member)]
      rfl

theorem entries_ofList {entries : List (Text × α)} (sorted : entries.Pairwise (·.1 < ·.1)) :
    (ofList entries).entries = entries := by
  induction entries using List.reverseRecOn with
  | nil => rfl
  | append_singleton front entry ih =>
      obtain ⟨before, -, below⟩ := List.pairwise_append.1 sorted
      rw [ofList_concat]
      show place entry.1 entry.2 (ofList front).entries = _
      rw [ih before, place_last entry.2 fun other member => below other member entry (by simp)]

theorem ofList_entries (d : Dictionary α) : ofList d.entries = d :=
  ext_find? fun name => congrArg (List.lookup name) (entries_ofList d.sorted)

/-- Under a new name nothing is found, or what was found under one of its old names: the one
whose entry is the last of these. -/
theorem find?_ofList_renameEntries (entries : List (Text × α)) (new : Text) :
    ((ofList (renameEntries f entries)).find? new = none ∧
        ∀ name ∈ entries.map Prod.fst, f name ≠ new) ∨
      ∃ name ∈ entries.map Prod.fst, f name = new ∧
        (ofList (renameEntries f entries)).find? new = (ofList entries).find? name := by
  induction entries using List.reverseRecOn with
  | nil => exact Or.inl ⟨rfl, by simp⟩
  | append_singleton front entry ih =>
      have snoc : renameEntries f (front ++ [entry]) =
          renameEntries f front ++ [(f entry.1, entry.2)] := List.map_append
      simp only [snoc, ofList_concat, find?_insert, List.map_append, List.mem_append]
      by_cases same : new = f entry.1
      · exact Or.inr ⟨entry.1, by simp, same.symm, by simp [same]⟩
      · rw [if_neg same]
        rcases ih with ⟨none, other⟩ | ⟨name, member, renamed, found⟩
        · refine Or.inl ⟨none, ?_⟩
          rintro name (member | last)
          · exact other name member
          · rw [List.map_singleton, List.mem_singleton] at last
            rw [last]
            exact Ne.symm same
        · have apart : name ≠ entry.1 := by
            rintro rfl
            exact same renamed.symm
          exact Or.inr ⟨name, Or.inl member, renamed, by rw [if_neg apart, found]⟩

/-- To rename entries is to rename what they make, if no two names of theirs are merged. -/
theorem ofList_renameEntries {entries : List (Text × α)}
    (apart : Set.InjOn f {name | name ∈ entries.map Prod.fst}) :
    ofList (renameEntries f entries) = (ofList entries).rename f := by
  have keys (name : Text) : name ∈ (ofList entries).entries.map Prod.fst ↔
      name ∈ entries.map Prod.fst := by
    rw [mem_keys_iff, ofList_entries, mem_keys_iff]
  apply ext_find?
  intro new
  have again := find?_ofList_renameEntries (f := f) (ofList entries).entries new
  rw [ofList_entries] at again
  rw [rename]
  rcases find?_ofList_renameEntries (f := f) entries new with
    ⟨none, other⟩ | ⟨name, member, renamed, found⟩
  · rcases again with ⟨none', -⟩ | ⟨name, member, renamed, -⟩
    · rw [none, none']
    · exact absurd renamed (other name ((keys name).1 member))
  · rcases again with ⟨-, other⟩ | ⟨name', member', renamed', found'⟩
    · exact absurd renamed (other name ((keys name).2 member))
    · rw [found, found', apart member ((keys name').1 member') (renamed.trans renamed'.symm)]

end Dictionary

/-! ## Patterns with other names -/

/-- A text that can be the name of a variable. -/
def Pattern.Nameable (name : Text) : Prop := name ≠ [] ∧ ∀ c ∈ name, Text.isUnreserved c = true

instance (name : Text) : Decidable (Pattern.Nameable name) :=
  @instDecidableAnd _ _ _ (List.decidableBAll _ _)

def Token.rename (f : Text → Text) : Token → Token
  | .literal text => .literal text
  | .variable name => .variable (f name)

theorem Token.fill_rename (value : Text → Text) (token : Token) :
    (token.rename f).fill value = token.fill (value ∘ f) := by
  cases token <;> rfl

theorem Token.names_map_rename (tokens : List Token) :
    names (tokens.map (rename f)) = (names tokens).map f := by
  induction tokens with
  | nil => rfl
  | cons token tokens ih =>
      rcases token with text | name
      · exact ih
      · exact congrArg (f name :: ·) ih

namespace Pattern

theorem Nameable.nameOf_eq {name : Text} (h : Nameable name) : nameOf name = name :=
  List.filter_eq_self.2 h.2

theorem Nameable.not_mem {name : Text} (h : Nameable name) : '}' ∉ name :=
  fun member => absurd (h.2 _ member) (by decide)

/-- What stands between braces, with the new name if there is a name. -/
def renameBody (f : Text → Text) (body : Text) : Text :=
  if nameOf body = [] then body else f (nameOf body)

def Part.rename (f : Text → Text) : Part → Part
  | .plain text => .plain text
  | .braced body => .braced (renameBody f body)
  | .unclosed body => .unclosed body

/-- The pattern with another name for each variable. -/
def rename (f : Text → Text) (pattern : Text) : Text := render ((parts pattern).map (.rename f))

theorem rename_eq_rewrite (pattern : Text) :
    rename f pattern = rewrite (fun body => (Part.braced (renameBody f body)).render) pattern := by
  rw [rename, render, List.flatMap_map]
  apply List.flatMap_congr
  intro part _
  cases part <;> rfl

theorem consPlain_map_rename (c : Char) (ps : List Part) :
    consPlain c (ps.map (.rename f)) = (consPlain c ps).map (.rename f) := by
  rcases ps with - | ⟨⟨text⟩ | body | body, ps⟩ <;> rfl

theorem mem_consPlain_of_braced {c : Char} {body : Text} {ps : List Part}
    (member : .braced body ∈ ps) : .braced body ∈ consPlain c ps := by
  rcases ps with - | ⟨⟨text⟩ | first | first, ps⟩
  · exact absurd member List.not_mem_nil
  · exact List.mem_cons_of_mem _ ((List.mem_cons.1 member).resolve_left nofun)
  · exact List.mem_cons_of_mem _ member
  · exact List.mem_cons_of_mem _ member

/-- New names that can be names are read as they were written. -/
theorem parts_rename {pattern : Text}
    (nameable : ∀ body, .braced body ∈ parts pattern → nameOf body ≠ [] →
      Nameable (f (nameOf body))) :
    parts (rename f pattern) = (parts pattern).map (.rename f) := by
  rw [rename_eq_rewrite]
  induction pattern using induction with
  | nil => rfl
  | plain c t outside ih =>
      rw [parts_plain outside] at nameable ⊢
      rw [rewrite_plain outside, parts_plain outside,
        ih fun body member => nameable body (mem_consPlain_of_braced member),
        consPlain_map_rename]
  | unclosed body stays =>
      rw [rewrite_unclosed stays, parts_unclosed stays]
      rfl
  | braced body t stays ih =>
      rw [parts_braced stays] at nameable ⊢
      have stays' : '}' ∉ renameBody f body := by
        unfold renameBody
        split
        · exact stays
        · rename_i named
          exact (nameable body List.mem_cons_self named).not_mem
      rw [rewrite_braced stays, parts_braced stays',
        ih fun body member => nameable body (List.mem_cons_of_mem _ member)]
      rfl

theorem tokens_rename {pattern : Text}
    (nameable : ∀ name ∈ variableNames pattern, Nameable (f name)) :
    tokens (rename f pattern) = (tokens pattern).map (.rename f) := by
  have braced (body : Text) (member : .braced body ∈ parts pattern) (named : nameOf body ≠ []) :
      Nameable (f (nameOf body)) := by
    apply nameable
    refine Token.mem_names.2 (List.mem_flatMap.2 ⟨.braced body, member, ?_⟩)
    rw [Part.tokens, if_neg named]
    exact List.mem_cons_self
  rw [tokens, parts_rename braced, List.flatMap_map, tokens, List.map_flatMap]
  apply List.flatMap_congr
  intro part member
  cases part with
  | plain text => rfl
  | unclosed body => rfl
  | braced body =>
      by_cases named : nameOf body = []
      · simp [Part.rename, Part.tokens, renameBody, named]
      · have new := braced body member named
        simp [Part.rename, Part.tokens, renameBody, named, new.nameOf_eq, new.1, Token.rename]

end Pattern

/-- The normal form does not see the names. -/
theorem PathPattern.normalize_rename (f : Text → Text) (pattern : Text) :
    normalize (Pattern.rename f pattern) = Pattern.rename f (normalize pattern) := by
  have keeps : KeepsEnds fun body => (Pattern.Part.braced (Pattern.renameBody f body)).render := by
    constructor <;> intro body
    · simp [Pattern.Part.render]
    · simp [Pattern.Part.render]
    · rw [Pattern.Part.render, List.getLast?_concat]
      decide
  rw [Pattern.rename_eq_rewrite, Pattern.rename_eq_rewrite, normalize_rewrite keeps]

/-! ## Pieces with other names -/

namespace Piece

variable {scope : Set Text} {describe describe' : Text → Variable}

theorem within_ofTokens {tokens : List Token} (named : ∀ name ∈ Token.names tokens, name ∈ scope)
    (seen : List Text) : ∀ piece ∈ ofTokens describe seen tokens, piece.Within scope := by
  induction tokens generalizing seen with
  | nil => exact fun piece none => absurd none List.not_mem_nil
  | cons token tokens ih =>
      rcases token with text | name
      · exact List.forall_mem_cons.2 ⟨trivial, ih named seen⟩
      · have later := ih fun other member => named other (List.mem_cons_of_mem _ member)
        have here : name ∈ scope := named name List.mem_cons_self
        rw [ofTokens]
        split
        · exact List.forall_mem_cons.2 ⟨here, later seen⟩
        · exact List.forall_mem_cons.2 ⟨here, later (name :: seen)⟩

/-- Tokens with other names make pieces with other names: what has occurred before has occurred
before under its new name, and nothing else has. -/
theorem ofTokens_rename (apart : Set.InjOn f scope)
    (described : ∀ name ∈ scope, describe' (f name) = describe name) {tokens : List Token}
    (named : ∀ name ∈ Token.names tokens, name ∈ scope) {seen : List Text}
    (known : ∀ name ∈ seen, name ∈ scope) :
    ofTokens describe' (seen.map f) (tokens.map (.rename f)) =
      (ofTokens describe seen tokens).map (rename f) := by
  induction tokens generalizing seen with
  | nil => rfl
  | cons token tokens ih =>
      rcases token with text | name
      · exact congrArg (.literal text :: ·) (ih named known)
      · replace ih := @ih fun other member => named other (List.mem_cons_of_mem _ member)
        have here : name ∈ scope := named name List.mem_cons_self
        have before : (seen.map f).contains (f name) = seen.contains name := by
          rw [Bool.eq_iff_iff, List.contains_iff_mem, List.contains_iff_mem, List.mem_map]
          constructor
          · rintro ⟨other, member, same⟩
            rwa [← apart (known other member) here same]
          · exact fun member => ⟨name, member, rfl⟩
        rw [List.map_cons, Token.rename]
        cases again : seen.contains name with
        | true =>
            rw [ofTokens_known again, ofTokens_known (before.trans again), ih known]
            rfl
        | false =>
            rw [ofTokens_new again, ofTokens_new (before.trans again), described name here,
              ← List.map_cons, ih (List.forall_mem_cons.2 ⟨here, known⟩)]
            rfl

end Piece

/-- What was matched, with other names for the values. -/
def Matching.rename (f : Text → Text) (m : Matching) : Matching :=
  { m with bindings := m.bindings.rename f }

/-- A path pattern to be made of a text and a list of descriptors, and another name for each
name.  The new names of its variables can be names. -/
structure Renaming where
  pattern : Text
  descriptors : List (Text × Variable)
  rename : Text → Text
  nameable : ∀ name ∈ Pattern.variableNames (PathPattern.normalize pattern),
    Pattern.Nameable (rename name)

namespace Renaming

variable (r : Renaming) {path : Text}

def original : PathPattern :=
  (PathPattern.ofPattern r.pattern (.ofList r.descriptors)).answer

/-- The pattern with the new names, in its tokens and in the list of descriptors alike. -/
def renamed : PathPattern :=
  (PathPattern.ofPattern (Pattern.rename r.rename r.pattern)
    (.ofList (renameEntries r.rename r.descriptors))).answer

/-- The names of the variables. -/
def names : List Text := r.original.template.template.variableNames

/-- The names of the variables and of the descriptors. -/
def inUse : List Text := r.names ++ r.descriptors.map Prod.fst

/-- No variable is merged with another name. -/
def Separates : Prop :=
  ∀ name ∈ r.names, ∀ other ∈ r.inUse, r.rename other = r.rename name → other = name

/-- A variable is merged with names only that have the same descriptor. -/
def Alike : Prop :=
  ∀ name ∈ r.names, ∀ other ∈ r.inUse, r.rename other = r.rename name →
    r.original.template.template.describe other = r.original.template.template.describe name

theorem Separates.alike {r : Renaming} (separates : r.Separates) : r.Alike := by
  intro name named other used same
  rw [separates name named other used same]

theorem good_original : r.original.template.Good := PathPattern.good_ofPattern _ _

theorem good_renamed : r.renamed.template.Good := PathPattern.good_ofPattern _ _

theorem tokens_renamed :
    r.renamed.template.template.tokens =
      r.original.template.template.tokens.map (.rename r.rename) := by
  have normal : r.renamed.text = Pattern.rename r.rename r.original.text :=
    PathPattern.normalize_rename r.rename r.pattern
  exact (congrArg Pattern.tokens normal).trans (Pattern.tokens_rename r.nameable)

theorem names_renamed : r.renamed.template.template.variableNames = r.names.map r.rename :=
  (congrArg Token.names r.tokens_renamed).trans (Token.names_map_rename _)

/-- The skeletons are the same, whatever is renamed or merged. -/
theorem skeleton_renamed : r.renamed.skeleton = r.original.skeleton := by
  have ofRenamed : r.renamed.skeleton = r.renamed.template.template.tokens.flatMap _ :=
    PathPattern.skeleton_ofPattern _ _
  rw [ofRenamed, r.tokens_renamed, List.flatMap_map]
  refine Eq.trans ?_ (PathPattern.skeleton_ofPattern _ _).symm
  exact List.flatMap_congr fun token _ => token.fill_rename _

/-- A variable is described as it was before. -/
theorem describe_renamed (alike : r.Alike) {name : Text} (named : name ∈ r.names) :
    r.renamed.template.template.describe (r.rename name) =
      r.original.template.template.describe name := by
  rcases Dictionary.find?_ofList_renameEntries (f := r.rename) r.descriptors (r.rename name) with
    ⟨none, other⟩ | ⟨other, member, same, found⟩
  · have absent : (Dictionary.ofList r.descriptors).find? name = .none := by
      by_contra present
      exact other name (Dictionary.mem_keys_iff.2 present) rfl
    exact congrArg (Option.getD · _) (none.trans absent.symm)
  · rw [← alike name named other (List.mem_append_right _ member) same]
    exact congrArg (Option.getD · _) found

/-! ### Without a merge -/

section Separates

variable {r} (separates : r.Separates)

include separates

theorem Separates.injOn : Set.InjOn r.rename {name | name ∈ r.names} :=
  fun _ member _ member' same => separates _ member' _ (List.mem_append_left _ member) same

theorem matcher_renamed :
    r.renamed.template.template.matcher = r.original.template.template.matcher.rename r.rename := by
  have pieces : Piece.ofTokens r.renamed.template.template.describe []
      r.renamed.template.template.tokens = (Piece.ofTokens r.original.template.template.describe []
        r.original.template.template.tokens).map (.rename r.rename) := by
    rw [r.tokens_renamed]
    exact Piece.ofTokens_rename separates.injOn
      (fun name named => r.describe_renamed separates.alike named)
      (fun _ => id) (fun _ none => absurd none List.not_mem_nil)
  exact congrArg (Matcher.mk · .startsWithSegment 1000000) pieces

theorem verdict_renamed (path : Text) :
    r.renamed.template.template.verdict path =
      (r.original.template.template.verdict path).rename r.rename := by
  rw [Template.verdict, matcher_renamed separates, Template.verdict,
    Matcher.run_rename separates.injOn (Piece.within_ofTokens (fun _ => id) [])]

/-- A captured text is read as it was before. -/
theorem readCaptures_renamed {captures : Captures}
    (named : ∀ name ∈ captures.map Prod.fst, name ∈ r.names) :
    r.renamed.template.template.readCaptures (renameEntries r.rename captures) =
      renameEntries r.rename (r.original.template.template.readCaptures captures) := by
  rw [Template.readCaptures, Template.readCaptures, renameEntries, renameEntries, List.map_map,
    List.map_map]
  apply List.map_congr_left
  rintro ⟨name, captured⟩ member
  have described :=
    r.describe_renamed separates.alike (named name (List.mem_map_of_mem member))
  simp only [Function.comp_apply, Template.readValue, described]

/-- The values are those that were read before, under the new names. -/
theorem parse?_renamed (path : Text) :
    r.renamed.template.template.parse? path =
      (r.original.template.template.parse? path).map fun parsed =>
        { parsed with bindings := parsed.bindings.rename r.rename } := by
  rw [Template.parse?, verdict_renamed separates, Template.parse?]
  rcases r.original.template.template.verdict_cases path with
    ⟨s, -, matched⟩ | ⟨-, missed⟩ | ⟨-, gaveUp⟩
  · have named : ∀ name ∈ s.captures.map Prod.fst, name ∈ r.names := by
      intro name member
      have here : name ∈ r.original.template.template.variableNames := by
        simpa [Template.Split.captures, Template.groups_eq] using member
      exact here
    have read : ∀ name ∈ (r.original.template.template.readCaptures s.captures).map Prod.fst,
        name ∈ r.names := by
      intro name member
      rw [Template.readCaptures, List.map_map] at member
      exact named name member
    rw [matched]
    simp only [Verdict.rename, Template.parsed?, Option.map_some,
      readCaptures_renamed separates named]
    rw [Dictionary.ofList_renameEntries (separates.injOn.mono read)]
  · rw [missed]
    rfl
  · rw [gaveUp]
    rfl

theorem matching?_renamed (path : Text) :
    (r.renamed.matching? path).answer.1 =
      (r.original.matching? path).answer.1.map (.rename r.rename) := by
  rw [PathPattern.matching?_answer r.good_renamed, PathPattern.matching?_answer r.good_original,
    parse?_renamed separates, Option.map_map, Option.map_map]
  rfl

theorem groups_renamed :
    r.renamed.capturingGroups.answer.1 = r.original.capturingGroups.answer.1 := by
  have groups : r.renamed.template.template.groups = r.original.template.template.groups.map
      r.rename := by
    rw [Template.groups, matcher_renamed separates]
    exact Piece.names_map_rename _
  simp only [PathPattern.capturingGroups, Logged.answer_bind, Logged.answer_pure,
    CachedTemplate.groups_answer r.good_renamed, CachedTemplate.groups_answer r.good_original,
    groups, List.length_map]

end Separates

/-! ### With merged names -/

/-- A split along the new pattern, as one along the old pattern: a variable gets what its new name
got. -/
def unmerge (alike : r.Alike) (s : r.renamed.template.template.Split path) :
    r.original.template.template.Split path :=
  .ofValue (s.value ∘ r.rename) s.rest
    (by
      have whole := s.whole_eq
      rw [r.tokens_renamed, List.flatMap_map] at whole
      exact whole.trans (congrArg (· ++ s.rest)
        (List.flatMap_congr fun token _ => token.fill_rename s.value)))
    (by
      intro name named
      have here : r.rename name ∈ r.renamed.template.template.variableNames := by
        rw [r.names_renamed]
        exact List.mem_map_of_mem named
      rw [← r.describe_renamed alike named]
      exact s.admits here)
    s.ends

/-- What the new pattern matches the old pattern matches. -/
theorem original_matches (alike : r.Alike) (settled : r.original.template.template.Settled path)
    (fits : (r.renamed.matching? path).answer.1.isSome = true) :
    (r.original.matching? path).answer.1.isSome = true := by
  obtain ⟨split⟩ := PathPattern.exists_split_of_isSome r.good_renamed fits
  exact PathPattern.isSome_of_split r.good_original settled ⟨r.unmerge alike split⟩

/-- **Names of variables do not matter.**  With other names a pattern is the same pattern, of as
many literal characters.  If no two names are merged it has as many groups, and of every path it
matches what it matched before, with the same values under the new names, or nothing, also where
it gives up.  If some are merged that are described alike, it matches no more than before, as far
as the search without the merge comes to an end. -/
theorem names_do_not_matter :
    PathPattern.Same r.renamed r.original ∧ r.renamed.literalChars = r.original.literalChars ∧
      (r.Separates →
        r.renamed.capturingGroups.answer.1 = r.original.capturingGroups.answer.1 ∧
        ∀ path, (r.renamed.matching? path).answer.1 =
          (r.original.matching? path).answer.1.map (.rename r.rename)) ∧
      (r.Alike → ∀ path, r.original.template.template.Settled path →
        (r.renamed.matching? path).answer.1.isSome = true →
          (r.original.matching? path).answer.1.isSome = true) := by
  refine ⟨r.skeleton_renamed, congrArg List.length r.skeleton_renamed, ?_, ?_⟩
  · intro separates
    exact ⟨groups_renamed separates, matching?_renamed separates⟩
  · intro alike path settled
    exact r.original_matches alike settled

namespace Example

/-- A name takes the place of another one, in a pattern that is not in normal form, with a body
that has to be cleaned to be a name. -/
def shifted : Renaming where
  pattern := "users/\x7bid\x7d/\x7btag x\x7d/\x7bid\x7d//".toList
  descriptors := [("id".toList, .ofKind .digit)]
  rename name := if name = "id".toList then "user".toList else "id".toList
  nameable := by decide +kernel

/-- Both variables are merged, of which one is described as all are that have no descriptor. -/
def merged : Renaming where
  pattern := "/\x7ba\x7d/\x7bb\x7d".toList
  descriptors := [("b".toList, {})]
  rename _ := "c".toList
  nameable := by decide +kernel

end Example

theorem names_do_not_matter_shifted :
    (Example.shifted.renamed.matching? "/users/42/x/42/more".toList).answer.1 =
        some ⟨"/users/42/x/42".toList,
          .ofList [("user".toList, "42".toList), ("id".toList, "x".toList)], "/more".toList⟩ ∧
      (Example.merged.renamed.matching? "/x/x/y".toList).answer.1.isSome = true ∧
      (Example.merged.original.matching? "/x/x/y".toList).answer.1.isSome = true := by
  have fits : (Example.merged.renamed.matching? "/x/x/y".toList).answer.1.isSome = true := by
    decide +kernel
  refine ⟨?_, fits, ?_⟩
  · have separates : Example.shifted.Separates := by
      simp only [Separates]
      decide +kernel
    have before : (Example.shifted.original.matching? "/users/42/x/42/more".toList).answer.1 =
        some ⟨"/users/42/x/42".toList,
          .ofList [("id".toList, "42".toList), ("tagx".toList, "x".toList)], "/more".toList⟩ := by
      decide +kernel
    rw [(names_do_not_matter Example.shifted).2.2.1 separates |>.2, before]
    decide +kernel
  · have alike : Example.merged.Alike := by
      simp only [Alike]
      decide +kernel
    exact (names_do_not_matter Example.merged).2.2.2 alike "/x/x/y".toList
      (Or.inl (by decide +kernel)) fits

end Renaming
end UriRouting
