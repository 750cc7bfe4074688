/-
# UriRouting.Proofs.Split — what it means that a template matches

A `Template.Split` of a text gives every token of the pattern its share of the text, one
share behind the other from the front on: a literal its own characters, the first token of
a variable a text of the variable's language, every later token what the first one got.
What is left must fit the mode.  Nothing of it speaks of a search.

A split is known by the one text that each of its variables got (`Split.shares_eq`), and
any choice of texts that fits makes a split (`Split.ofValue`).  `Split.mem_splits` and
`exists_split_of_mem` say that the list of `Piece.splits` holds the splits and nothing else;
hence the search ends at the split that gives most to the first variable, then to the
second, and so on (`exists_first_split`), and at none only if there is none
(`split?_eq_none_iff`).
-/
import Mathlib.Algebra.Order.BigOperators.Group.List
import Mathlib.Algebra.Order.Group.Nat
import Mathlib.Data.List.Basic
import UriRouting.Proofs.SearchOrder
import UriRouting.Template.Basic

namespace UriRouting

set_option autoImplicit false

/-- What may be left behind a match. -/
def Mode.Ends : Mode → Text → Prop
  | .equals, rest => rest = []
  | .startsWith, _ => True
  | .startsWithSegment, rest => rest = [] ∨ ∃ more, rest = '/' :: more

theorem Mode.fits_iff {mode : Mode} {rest : Text} : mode.fits rest = true ↔ mode.Ends rest := by
  cases mode <;> cases rest <;> simp [fits, Ends]

instance (mode : Mode) (rest : Text) : Decidable (mode.Ends rest) :=
  decidable_of_iff _ Mode.fits_iff

namespace Token

def name? : Token → Option Text
  | .variable name => some name
  | .literal _ => none

def names (tokens : List Token) : List Text := tokens.filterMap name?

/-- The text of a token where each variable stands for its value. -/
def fill (value : Text → Text) : Token → Text
  | .literal text => text
  | .variable name => value name

@[simp] theorem names_literal (text : Text) (tokens : List Token) :
    names (.literal text :: tokens) = names tokens := rfl

@[simp] theorem names_variable (name : Text) (tokens : List Token) :
    names (.variable name :: tokens) = name :: names tokens := rfl

theorem mem_names {name : Text} {tokens : List Token} :
    name ∈ names tokens ↔ .variable name ∈ tokens := by
  induction tokens with
  | nil => simp [names]
  | cons token tokens ih => cases token <;> simp [ih]

/-- Tokens are filled alike by texts that agree on their names. -/
theorem flatMap_fill_congr {value value' : Text → Text} {tokens : List Token}
    (same : ∀ name ∈ names tokens, value name = value' name) :
    tokens.flatMap (fill value) = tokens.flatMap (fill value') := by
  apply List.flatMap_congr
  intro token member
  rcases token with text | name
  · rfl
  · exact same name (mem_names.2 member)

/-- Where no value is shorter and one is longer the text is longer. -/
theorem length_fill_lt {less more : Text → Text} {tokens : List Token} {name : Text}
    (le : ∀ name ∈ names tokens, (less name).length ≤ (more name).length)
    (named : name ∈ names tokens) (lt : (less name).length < (more name).length) :
    (tokens.flatMap (fill less)).length < (tokens.flatMap (fill more)).length := by
  rw [List.length_flatMap, List.length_flatMap]
  apply List.sum_lt_sum
  · intro token member
    rcases token with text | other
    · exact le_rfl
    · exact le other (mem_names.2 member)
  · exact ⟨.variable name, mem_names.1 named, lt⟩

end Token

namespace Piece

@[simp] theorem names_nil : names [] = [] := rfl

@[simp] theorem names_literal (text : Text) (pieces : List Piece) :
    names (.literal text :: pieces) = names pieces := rfl

@[simp] theorem names_first (name : Text) (language : Language) (pieces : List Piece) :
    names (.first name language :: pieces) = name :: names pieces := rfl

@[simp] theorem names_again (name : Text) (pieces : List Piece) :
    names (.again name :: pieces) = names pieces := rfl

variable {describe : Text → Variable} {seen : List Text} {name : Text}

theorem ofTokens_known (known : seen.contains name = true) (tokens : List Token) :
    ofTokens describe seen (.variable name :: tokens) =
      .again name :: ofTokens describe seen tokens := by
  rw [ofTokens, if_pos known]

theorem ofTokens_new (new : seen.contains name = false) (tokens : List Token) :
    ofTokens describe seen (.variable name :: tokens) =
      .first name (describe name).language :: ofTokens describe (name :: seen) tokens := by
  rw [ofTokens, if_neg (Bool.eq_false_iff.1 new)]

/-- The names of the pieces are those of the tokens in order of first appearance. -/
theorem names_ofTokens (seen : List Text) (tokens : List Token) :
    names (ofTokens describe seen tokens) =
      ((Token.names tokens).filter fun name => !seen.contains name).eraseDups := by
  induction tokens generalizing seen with
  | nil => rfl
  | cons token tokens ih =>
      rcases token with text | name
      · exact ih seen
      · cases before : seen.contains name with
        | true =>
            rw [ofTokens_known before, names_again, ih seen, Token.names_variable,
              List.filter_cons_of_neg (by rw [before]; decide)]
        | false =>
            rw [ofTokens_new before, names_first, ih, Token.names_variable,
              List.filter_cons_of_pos (by rw [before]; decide), List.eraseDups_cons,
              List.filter_filter]
            simp only [List.contains_cons, Bool.not_or]

end Piece

namespace Captures

/-- The text that a variable got. -/
def value (captures : Captures) (name : Text) : Text := (captures.lookup name).getD []

/-- The names that have occurred are those that have got a text. -/
def Holds (captures : Captures) (seen : List Text) : Prop :=
  ∀ name, seen.contains name = (captures.lookup name).isSome

/-- No variable has got another text than its value. -/
def Agrees (captures : Captures) (value : Text → Text) : Prop :=
  ∀ name share, captures.lookup name = some share → value name = share

variable {captures later : Captures} {seen : List Text}

theorem holds_nil : Holds [] [] := fun _ => rfl

theorem agrees_nil (value : Text → Text) : Agrees [] value := fun _ _ found => nomatch found

theorem Agrees.snoc {value : Text → Text} (h : captures.Agrees value) (name : Text) :
    (captures ++ [(name, value name)]).Agrees value := by
  intro other share found
  rw [List.lookup_append, Option.or_eq_some_iff] at found
  rcases found with found | ⟨-, found⟩
  · exact h other share found
  · rw [List.lookup_cons] at found
    split at found
    · rename_i same
      rw [beq_iff_eq.1 same]
      exact Option.some.inj found
    · cases found

theorem Holds.snoc (h : captures.Holds seen) (name share : Text) :
    (captures ++ [(name, share)]).Holds (name :: seen) := by
  intro other
  rw [List.contains_cons, List.lookup_append, Option.isSome_or, h other, Bool.or_comm]
  by_cases same : other = name
  · simp [same]
  · simp [List.lookup_cons, beq_false_of_ne same]

/-- What a variable got it keeps. -/
theorem value_of_prefix (h : captures <+: later) {name share : Text}
    (found : captures.lookup name = some share) : later.value name = share := by
  obtain ⟨tail, rfl⟩ := h
  rw [value, List.lookup_append, found, Option.some_or, Option.getD_some]

theorem lookup_snoc (h : captures.Holds seen) {name : Text} (new : seen.contains name = false)
    (share : Text) : (captures ++ [(name, share)]).lookup name = some share := by
  have none : captures.lookup name = none := by
    have := h name
    rw [new] at this
    simpa using this.symm
  rw [List.lookup_append, none]
  simp

end Captures

namespace Piece

variable {mode : Mode} {describe : Text → Variable}

/-- A split that is found is right: the tokens filled with what the variables got make up
the text, and each variable that is new has got a text of its language. -/
theorem fill_of_mem_splits {tokens : List Token} {seen : List Text} {captures later : Captures}
    {t rest : Text} (holds : captures.Holds seen)
    (h : (later, rest) ∈ splits mode (ofTokens describe seen tokens) captures t) :
    t = tokens.flatMap (Token.fill later.value) ++ rest ∧ mode.Ends rest ∧
      (∀ name ∈ Token.names tokens, seen.contains name = false →
        (describe name).language.Admits (later.value name)) ∧
      later = captures ++ (names (ofTokens describe seen tokens)).map
        fun name => (name, later.value name) := by
  induction tokens generalizing seen captures t with
  | nil =>
      simp only [ofTokens, splits] at h
      split at h
      · rename_i fits
        obtain ⟨rfl, rfl⟩ := Prod.mk.inj (List.mem_singleton.1 h)
        exact ⟨rfl, Mode.fits_iff.1 fits, by simp [Token.names], by simp [ofTokens, names]⟩
      · cases h
  | cons token tokens ih =>
      rcases token with text | name
      · simp only [ofTokens, splits] at h
        split at h
        · rename_i after found
          obtain ⟨rfl, right⟩ := ih holds h
          rw [Text.after?_eq_some.1 found]
          exact ⟨by simp [Token.fill], right⟩
        · cases h
      · cases before : seen.contains name with
        | true =>
            rw [ofTokens_known before] at h
            simp only [splits] at h
            split at h
            · rename_i share known
              split at h
              · rename_i after found
                have got : later.value name = share :=
                  Captures.value_of_prefix (prefix_of_mem_splits h) known
                obtain ⟨rfl, ends, admits, order⟩ := ih holds h
                refine ⟨?_, ends, ?_, ?_⟩
                · rw [Text.after?_eq_some.1 found]
                  simp [Token.fill, got]
                · intro other member new
                  rcases List.mem_cons.1 member with rfl | member
                  · rw [before] at new; exact absurd new (by decide)
                  · exact admits other member new
                · rw [ofTokens_known before, names_again]
                  exact order
              · cases h
            · cases h
        | false =>
            rw [ofTokens_new before] at h
            simp only [splits, List.mem_flatMap] at h
            obtain ⟨⟨share, after⟩, cut, h⟩ := h
            obtain ⟨rfl, admitted⟩ := Language.mem_stops_iff.1 cut
            have got : later.value name = share :=
              Captures.value_of_prefix (prefix_of_mem_splits h)
                (Captures.lookup_snoc holds before share)
            obtain ⟨rfl, ends, admits, order⟩ := ih (holds.snoc name share) h
            refine ⟨by simp [Token.fill, got], ends, ?_, ?_⟩
            · intro other member new
              by_cases same : other = name
              · rw [same, got]; exact admitted
              · refine admits other ((List.mem_cons.1 member).resolve_left same) ?_
                rw [List.contains_cons, beq_false_of_ne same, new, Bool.or_false]
            · rw [ofTokens_new before, names_first, List.map_cons, got, List.append_cons]
              exact order

/-- No split is passed over: texts of the languages that make up the text with what is left
are among the splits. -/
theorem mem_splits_of_fill {value : Text → Text} {tokens : List Token} {seen : List Text}
    {captures : Captures} {rest : Text} (holds : captures.Holds seen)
    (agrees : captures.Agrees value)
    (admits : ∀ name ∈ Token.names tokens, seen.contains name = false →
      (describe name).language.Admits (value name))
    (ends : mode.Ends rest) :
    (captures ++ (names (ofTokens describe seen tokens)).map (fun name => (name, value name)),
      rest) ∈ splits mode (ofTokens describe seen tokens) captures
        (tokens.flatMap (Token.fill value) ++ rest) := by
  induction tokens generalizing seen captures with
  | nil => simp [ofTokens, splits, names, Mode.fits_iff.2 ends]
  | cons token tokens ih =>
      rw [List.flatMap_cons, List.append_assoc]
      rcases token with text | name
      · simp only [ofTokens, splits, Token.fill, Text.after?_append]
        exact ih holds agrees admits
      · cases before : seen.contains name with
        | true =>
            obtain ⟨share, known⟩ : ∃ share, captures.lookup name = some share := by
              rw [← Option.isSome_iff_exists, ← holds name, before]
            rw [ofTokens_known before, names_again]
            simp only [splits, known, Token.fill, agrees name share known, Text.after?_append]
            exact ih holds agrees fun other member => admits other (List.mem_cons_of_mem _ member)
        | false =>
            rw [ofTokens_new before, names_first]
            simp only [splits, List.mem_flatMap, Token.fill]
            refine ⟨(value name, _), Language.mem_stops_iff.2
              ⟨rfl, admits name List.mem_cons_self before⟩, ?_⟩
            have stillNew : ∀ other ∈ Token.names tokens, (name :: seen).contains other = false →
                (describe other).language.Admits (value other) := by
              intro other member new
              rw [List.contains_cons, Bool.or_eq_false_iff] at new
              exact admits other (List.mem_cons_of_mem _ member) new.2
            have later := ih (holds.snoc name (value name)) (agrees.snoc name) stillNew
            rwa [List.append_assoc] at later

end Piece

namespace Template

/-- A split of a text along the tokens of the pattern. -/
structure Split (t : Template) (text : Text) where
  /-- Each token with its share of the text. -/
  shares : List (Token × Text)
  rest : Text
  tokens : shares.map Prod.fst = t.tokens
  whole : text = shares.flatMap Prod.snd ++ rest
  literal : ∀ own share, (.literal own, share) ∈ shares → share = own
  /-- The share of a variable's first token. -/
  first : ∀ name share, shares.lookup (.variable name) = some share →
    (t.describe name).language.Admits share
  /-- Every other token of a variable gets the same. -/
  again : ∀ name share, (.variable name, share) ∈ shares →
    shares.lookup (.variable name) = some share
  ends : t.mode.Ends rest

theorem mem_variableNames {t : Template} {name : Text} :
    name ∈ t.variableNames ↔ .variable name ∈ t.tokens :=
  Token.mem_names

theorem groups_eq (t : Template) : t.groups = t.variableNames.eraseDups := by
  have all : (Token.names t.tokens).filter (fun name => !([] : List Text).contains name) =
      Token.names t.tokens := List.filter_eq_self.2 fun _ _ => rfl
  exact (Piece.names_ofTokens [] t.tokens).trans (congrArg List.eraseDups all)

/-- Nothing is looked up in a list of filled tokens but its own tokens. -/
theorem lookup_filled (fill : Token → Text) (tokens : List Token) (token : Token) :
    (tokens.map fun token => (token, fill token)).lookup token =
      if token ∈ tokens then some (fill token) else none := by
  induction tokens with
  | nil => rfl
  | cons first tokens ih =>
      rw [List.map_cons, List.lookup_cons, ih]
      by_cases same : token = first
      · simp [same]
      · simp [same, beq_false_of_ne same]

namespace Split

variable {t : Template} {text : Text}

/-- The text that a variable got. -/
def value (s : t.Split text) (name : Text) : Text := (s.shares.lookup (.variable name)).getD []

/-- The text in front of what is left. -/
def front (s : t.Split text) : Text := s.shares.flatMap Prod.snd

/-- Where the split ends. -/
def size (s : t.Split text) : Nat := Text.size s.front

/-- The sizes of what the variables got, in order of first appearance. -/
def lengths (s : t.Split text) : List Nat :=
  t.variableNames.eraseDups.map fun name => Text.size (s.value name)

def captures (s : t.Split text) : Captures := t.groups.map fun name => (name, s.value name)

/-- The split gives most to the first variable, of those that do so most to the second, and
so on. -/
def Wins (s : t.Split text) : Prop :=
  ∀ other : t.Split text, other.shares = s.shares ∨ other.lengths < s.lengths

theorem share_eq (s : t.Split text) {token : Token} {share : Text}
    (member : (token, share) ∈ s.shares) : share = token.fill s.value := by
  rcases token with own | name
  · exact s.literal own share member
  · rw [Token.fill, value, s.again name share member, Option.getD_some]

/-- The texts of the variables say all about a split. -/
theorem shares_eq (s : t.Split text) :
    s.shares = t.tokens.map fun token => (token, token.fill s.value) := by
  rw [← s.tokens, List.map_map]
  refine (List.map_id s.shares).symm.trans (List.map_congr_left fun pair member => ?_)
  obtain ⟨token, share⟩ := pair
  exact congrArg (Prod.mk token) (s.share_eq member)

theorem lookup_shares (s : t.Split text) (name : Text) :
    s.shares.lookup (.variable name) =
      if name ∈ t.variableNames then some (s.value name) else none := by
  have filled := congrArg (List.lookup (.variable name)) s.shares_eq
  rw [filled, lookup_filled]
  simp only [mem_variableNames, Token.fill]

theorem front_eq (s : t.Split text) : s.front = t.tokens.flatMap (Token.fill s.value) := by
  rw [front, s.shares_eq, List.flatMap_map]

theorem whole_eq (s : t.Split text) : text = t.tokens.flatMap (Token.fill s.value) ++ s.rest := by
  rw [← s.front_eq]
  exact s.whole

theorem admits (s : t.Split text) {name : Text} (member : name ∈ t.variableNames) :
    (t.describe name).language.Admits (s.value name) :=
  s.first name _ (by rw [s.lookup_shares, if_pos member])

theorem shares_congr {s s' : t.Split text}
    (same : ∀ name ∈ t.variableNames, s.value name = s'.value name) : s.shares = s'.shares := by
  rw [s.shares_eq, s'.shares_eq]
  apply List.map_congr_left
  intro token member
  apply congrArg (Prod.mk token)
  rcases token with own | name
  · rfl
  · exact same name (mem_variableNames.2 member)

/-- Any texts of the languages that make up the text, with what is left, split it. -/
def ofValue (value : Text → Text) (rest : Text)
    (whole : text = t.tokens.flatMap (Token.fill value) ++ rest)
    (admits : ∀ name ∈ t.variableNames, (t.describe name).language.Admits (value name))
    (ends : t.mode.Ends rest) : t.Split text where
  shares := t.tokens.map fun token => (token, token.fill value)
  rest := rest
  tokens := by simp [List.map_map, Function.comp_def]
  whole := by rw [whole, List.flatMap_map]
  literal own share member := by
    obtain ⟨token, -, same⟩ := List.mem_map.1 member
    obtain ⟨rfl, rfl⟩ := Prod.mk.inj same
    rfl
  first name share found := by
    rw [lookup_filled] at found
    split at found
    · rename_i member
      cases found
      exact admits name (mem_variableNames.2 member)
    · cases found
  again name share member := by
    obtain ⟨token, member', same⟩ := List.mem_map.1 member
    obtain ⟨rfl, rfl⟩ := Prod.mk.inj same
    rw [lookup_filled, if_pos member']
  ends := ends

theorem value_ofValue {value : Text → Text} {rest : Text}
    {whole : text = t.tokens.flatMap (Token.fill value) ++ rest}
    {admits : ∀ name ∈ t.variableNames, (t.describe name).language.Admits (value name)}
    {ends : t.mode.Ends rest} {name : Text} (member : name ∈ t.variableNames) :
    (ofValue value rest whole admits ends).value name = value name := by
  rw [Split.value, ofValue, lookup_filled, if_pos (mem_variableNames.1 member), Token.fill,
    Option.getD_some]

theorem captures_congr {s : t.Split text} {value : Text → Text}
    (same : ∀ name ∈ t.variableNames, s.value name = value name) :
    s.captures = t.groups.map fun name => (name, value name) := by
  apply List.map_congr_left
  intro name member
  apply congrArg (Prod.mk name)
  rw [t.groups_eq, List.mem_eraseDups] at member
  exact same name member

theorem sizes_captures (s : t.Split text) : s.captures.sizes = s.lengths := by
  rw [captures, Captures.sizes, lengths, List.map_map, groups_eq]
  rfl

theorem shares_eq_of_captures {s s' : t.Split text} (same : s.captures = s'.captures) :
    s.shares = s'.shares := by
  apply shares_congr
  intro name member
  have all := List.map_inj_left.1 same name (by rwa [t.groups_eq, List.mem_eraseDups])
  exact (Prod.mk.inj all).2

/-- Every split is listed. -/
theorem mem_splits (s : t.Split text) :
    (s.captures, s.rest) ∈ Piece.splits t.mode t.matcher.pieces [] text := by
  have h := Piece.mem_splits_of_fill Captures.holds_nil (Captures.agrees_nil s.value)
    (fun name (member : name ∈ Token.names t.tokens) _ => s.admits member) s.ends
  rw [List.nil_append, ← s.whole_eq] at h
  exact h

end Split

variable {t : Template} {text rest : Text} {captures : Captures}

/-- Whatever is listed is a split. -/
theorem exists_split_of_mem
    (h : (captures, rest) ∈ Piece.splits t.mode t.matcher.pieces [] text) :
    ∃ s : t.Split text, s.captures = captures ∧ s.rest = rest := by
  obtain ⟨whole, ends, admits, order⟩ := Piece.fill_of_mem_splits Captures.holds_nil h
  refine ⟨.ofValue captures.value rest whole (fun name member => admits name member rfl) ends,
    ?_, rfl⟩
  rw [Split.captures_congr fun name member => Split.value_ofValue member]
  exact order.symm

/-- The search ends at the split that wins. -/
theorem exists_first_split (h : t.matcher.split? text = some (captures, rest)) :
    ∃ s : t.Split text, s.captures = captures ∧ s.rest = rest ∧ s.Wins := by
  rw [Matcher.split?, ← Piece.head?_splits, List.head?_eq_some_iff] at h
  obtain ⟨others, listed⟩ := h
  have here : (captures, rest) ∈ Piece.splits t.mode t.matcher.pieces [] text :=
    listed ▸ List.mem_cons_self
  obtain ⟨s, rfl, rfl⟩ := exists_split_of_mem here
  refine ⟨s, rfl, rfl, ?_⟩
  intro other
  have listed : Piece.splits t.mode t.matcher.pieces [] text = _ := listed
  have ordered : (Piece.splits t.mode t.matcher.pieces [] text).Pairwise _ :=
    Piece.pairwise_splits t.matcher.pieces [] text
  have member := other.mem_splits
  rw [listed] at ordered member
  rcases List.mem_cons.1 member with same | later
  · exact Or.inl (Split.shares_eq_of_captures (Prod.mk.inj same).1)
  · have below := List.rel_of_pairwise_cons ordered later
    rw [Split.sizes_captures, Split.sizes_captures] at below
    exact Or.inr below

theorem split?_eq_none_iff : t.matcher.split? text = none ↔ ¬ Nonempty (t.Split text) := by
  constructor
  · intro h
    rw [Matcher.split?, ← Piece.head?_splits, List.head?_eq_none_iff] at h
    rintro ⟨s⟩
    exact List.not_mem_nil (h ▸ s.mem_splits)
  · intro empty
    cases found : t.matcher.split? text with
    | none => rfl
    | some pair =>
        obtain ⟨s, -⟩ := exists_first_split found
        exact absurd ⟨s⟩ empty

end Template
end UriRouting
