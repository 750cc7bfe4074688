/-
# UriRouting.Proofs.Language — which texts a variable takes

`Language.stops` cuts the texts of a language off the front of a text, in the order of
trying.  This module says which texts those are without any trying: a value of a kind is a
row of items (`Kind.IsValue`), and `Language.Admits` adds what a descriptor asks for.

* `mem_stops_iff`: the cuts are exactly the ways to part the text behind a text of the
  language, none missing and none besides;
* `pairwise_stops`: the longest cut comes first, and no two are of one length;
* `Kind.IsValue.of_append`: what is left of a value behind any of its characters is a value
  again.  An encoded octet may be cut open for this: its digits are characters of every
  class that admits encoded octets.
-/
import Mathlib.Tactic.Tauto
import UriRouting.Template.Piece

namespace UriRouting

set_option autoImplicit false

theorem Text.size_pos {t : Text} (nonempty : t ≠ []) : 0 < Text.size t := by
  cases t with
  | nil => exact absurd rfl nonempty
  | cons c t =>
      have := c.utf8Size_pos
      simp only [Text.size_cons]
      omega

/-- What is checked of the first 128 characters holds of every character of ASCII. -/
theorem Text.forall_ascii {P : Char → Prop} (each : ∀ n < 128, P (Char.ofNat n)) {c : Char}
    (ascii : c.toNat < 128) : P c := by
  have here := each c.toNat ascii
  rwa [Char.ofNat_toNat] at here

namespace Kind

/-- An item is a character of the class or, where the kind admits it, an encoded octet. -/
inductive IsItem (k : Kind) : Text → Prop
  | char {c : Char} (inClass : k.chars.contains c = true) : IsItem k [c]
  | octet {high low : Char} (admits : k.admitsEncoded = true)
      (highDigit : Percent.isHexDigit high = true) (lowDigit : Percent.isHexDigit low = true) :
      IsItem k ['%', high, low]

/-- A value is any number of items, one behind the other. -/
inductive IsValue (k : Kind) : Text → Prop
  | nil : IsValue k []
  | cons {item t : Text} (first : k.IsItem item) (later : IsValue k t) : IsValue k (item ++ t)

variable {k : Kind}

theorem IsItem.ne_nil {item : Text} (h : k.IsItem item) : item ≠ [] := by
  cases h <;> simp

/-- Where octets may be encoded the percent sign stands for nothing else. -/
theorem percent_not_in_class (admits : k.admitsEncoded = true) :
    k.chars.contains '%' = false := by
  cases k <;> simp only [admitsEncoded, Bool.false_eq_true] at admits <;> decide

theorem hexDigit_in_range {c : Char} (digit : Percent.isHexDigit c = true) :
    ('0' ≤ c ∧ c ≤ '9') ∨ ('A' ≤ c ∧ c ≤ 'Z') ∨ ('a' ≤ c ∧ c ≤ 'z') := by
  unfold Percent.isHexDigit Percent.hexValue? at digit
  split at digit
  · rename_i h; exact Or.inl h
  · split at digit
    · rename_i h
      exact Or.inr (Or.inl ⟨h.1, Char.le_trans h.2 (by decide)⟩)
    · split at digit
      · rename_i h
        exact Or.inr (Or.inr ⟨h.1, Char.le_trans h.2 (by decide)⟩)
      · simp at digit

/-- The digits of an encoded octet may also stand for themselves. -/
theorem hexDigit_in_class (admits : k.admitsEncoded = true) {c : Char}
    (digit : Percent.isHexDigit c = true) : k.chars.contains c = true := by
  have range := hexDigit_in_range digit
  have plain : (CharClass.letters ++ CharClass.digits).any (·.contains c) = true := by
    simp only [CharClass.letters, CharClass.digits, List.cons_append, List.nil_append,
      List.any_cons, List.any_nil, CharClass.Part.contains, Bool.or_eq_true, Bool.and_eq_true,
      decide_eq_true_eq]
    tauto
  rw [List.any_append, Bool.or_eq_true] at plain
  cases k <;> simp only [admitsEncoded, Bool.false_eq_true] at admits <;>
    simp only [chars, CharClass.contains, List.any_append, Bool.or_eq_true] <;> tauto

/-- `item?` takes an item off, and finds one wherever there is one. -/
theorem item?_eq_some_iff {t item rest : Text} :
    k.item? t = some (item, rest) ↔ t = item ++ rest ∧ k.IsItem item := by
  constructor
  · intro h
    unfold item? at h
    split at h
    · cases h
    · split at h
      · rename_i inClass
        cases h
        exact ⟨rfl, .char inClass⟩
      · split at h
        · split at h
          · rename_i octet
            simp only [Bool.and_eq_true, beq_iff_eq] at octet
            obtain ⟨⟨⟨admits, rfl⟩, high⟩, low⟩ := octet
            cases h
            exact ⟨rfl, .octet admits high low⟩
          · cases h
        · cases h
  · rintro ⟨rfl, h⟩
    cases h with
    | char inClass => simp [item?, inClass]
    | octet admits high low => simp [item?, percent_not_in_class admits, admits, high, low]

theorem items_append {item : Text} (h : k.IsItem item) (rest : Text) :
    k.items (item ++ rest) = (item, rest) :: k.items rest := by
  rw [items_eq, item?_eq_some_iff.2 ⟨rfl, h⟩]

theorem isItem_of_mem_items {t item rest : Text} (h : (item, rest) ∈ k.items t) :
    k.IsItem item := by
  generalize e : k.items t = items at h
  induction items generalizing t with
  | nil => cases h
  | cons first more ih =>
      rw [items_eq] at e
      cases cut : k.item? t with
      | none => simp [cut] at e
      | some found =>
          simp only [cut, List.cons.injEq] at e
          obtain ⟨rfl, e⟩ := e
          rcases List.mem_cons.1 h with same | h
          · cases same
            exact (item?_eq_some_iff.1 cut).2
          · exact ih e h

theorem IsValue.singleton {item : Text} (h : k.IsItem item) : k.IsValue item := by
  simpa using IsValue.cons h .nil

/-- Of what characters a value is made. -/
theorem IsValue.of_mem {t : Text} (h : k.IsValue t) {c : Char} (member : c ∈ t) :
    k.chars.contains c = true ∨ (k.admitsEncoded = true ∧ c = '%') := by
  induction h with
  | nil => cases member
  | cons first later ih =>
      rcases List.mem_append.1 member with member | member
      · cases first with
        | char inClass =>
            rw [List.mem_singleton.1 member]
            exact Or.inl inClass
        | octet admits high low =>
            simp only [List.mem_cons, List.not_mem_nil, or_false] at member
            rcases member with rfl | rfl | rfl
            · exact Or.inr ⟨admits, rfl⟩
            · exact Or.inl (hexDigit_in_class admits high)
            · exact Or.inl (hexDigit_in_class admits low)
      · exact ih member

/-- A value cut open anywhere leaves a value behind the cut. -/
theorem IsValue.of_append {front t : Text} (h : k.IsValue (front ++ t)) : k.IsValue t := by
  generalize e : front ++ t = whole at h
  induction h generalizing front with
  | nil =>
      obtain ⟨-, rfl⟩ := List.append_eq_nil_iff.1 e
      exact .nil
  | cons first later ih =>
      cases front with
      | nil =>
          rw [List.nil_append] at e
          exact e ▸ .cons first later
      | cons c front =>
          cases first with
          | char inClass =>
              exact ih (List.cons.inj e).2
          | octet admits high low =>
              have highItem := IsItem.char (hexDigit_in_class admits high)
              have lowItem := IsItem.char (hexDigit_in_class admits low)
              -- the cut is behind the percent sign, behind the first digit, or further on
              rcases front with - | ⟨_, - | ⟨_, front⟩⟩
              · rw [show t = [_] ++ ([_] ++ _) from (List.cons.inj e).2]
                exact .cons highItem (.cons lowItem later)
              · rw [show t = [_] ++ _ from (List.cons.inj (List.cons.inj e).2).2]
                exact .cons lowItem later
              · exact ih (List.cons.inj (List.cons.inj (List.cons.inj e).2).2).2

end Kind

namespace Language

/-- The texts of a language: one text, or values of a kind, which a descriptor may require
not to be empty. -/
def Admits : Language → Text → Prop
  | .exactly text, t => t = text
  | .items kind required, t => kind.IsValue t ∧ (required = true → t ≠ [])

/-- Some text of the language holds the character. -/
def mentions : Language → Char → Bool
  | .exactly text, c => text.contains c
  | .items kind _, c => kind.chars.contains c || (kind.admitsEncoded && c == '%')

theorem mentions_eq_false_iff {language : Language} {c : Char} :
    language.mentions c = false ↔ ∀ t, language.Admits t → c ∉ t := by
  cases language with
  | exactly text =>
      simp only [mentions, Admits, forall_eq, List.contains_eq_mem, decide_eq_false_iff_not]
  | items kind required =>
      rw [mentions, Bool.or_eq_false_iff, Bool.and_eq_false_iff, beq_eq_false_iff_ne]
      constructor
      · rintro ⟨notInClass, notEncoded⟩ t ⟨isValue, -⟩ member
        rcases isValue.of_mem member with inClass | ⟨admits, percent⟩
        · rw [notInClass] at inClass; exact nomatch inClass
        · rcases notEncoded with never | other
          · rw [never] at admits; cases admits
          · exact other percent
      · intro apart
        refine ⟨Bool.eq_false_iff.2 fun inClass => ?_, ?_⟩
        · exact apart [c] ⟨.singleton (.char inClass), fun _ => by simp⟩ (by simp)
        · by_cases percent : c = '%'
          · refine Or.inl (Bool.eq_false_iff.2 fun admits => ?_)
            have octet : kind.IsItem ['%', '4', '1'] := .octet admits (by decide) (by decide)
            exact apart _ ⟨.singleton octet, fun _ => by simp⟩ (by simp [percent])
          · exact Or.inr percent

/-! ## The cuts of a text -/

theorem self_mem_cuts (taken here : Text) (items : List (Text × Text)) :
    (taken, here) ∈ cuts taken here items := by
  cases items with
  | nil => exact List.mem_singleton_self _
  | cons first more => exact List.mem_append_right _ (List.mem_singleton_self _)

theorem mem_cuts_iff {kind : Kind} {taken here value rest : Text} :
    (value, rest) ∈ cuts taken here (kind.items here) ↔
      ∃ more, value = taken ++ more ∧ here = more ++ rest ∧ kind.IsValue more := by
  constructor
  · intro h
    generalize e : kind.items here = items at h
    induction items generalizing taken here with
    | nil =>
        obtain ⟨rfl, rfl⟩ := Prod.mk.inj (List.mem_singleton.1 h)
        exact ⟨[], by simp, rfl, .nil⟩
    | cons first later ih =>
        rw [Kind.items_eq] at e
        cases cut : kind.item? here with
        | none => simp [cut] at e
        | some found =>
            obtain ⟨item, after⟩ := found
            simp only [cut, List.cons.injEq] at e
            obtain ⟨rfl, e⟩ := e
            obtain ⟨rfl, isItem⟩ := Kind.item?_eq_some_iff.1 cut
            rcases List.mem_append.1 h with h | h
            · obtain ⟨more, rfl, rfl, isValue⟩ := ih e h
              exact ⟨item ++ more, by simp, by simp, .cons isItem isValue⟩
            · obtain ⟨rfl, rfl⟩ := Prod.mk.inj (List.mem_singleton.1 h)
              exact ⟨[], by simp, rfl, .nil⟩
  · rintro ⟨more, rfl, rfl, isValue⟩
    induction isValue generalizing taken with
    | nil => simpa using self_mem_cuts taken rest _
    | @cons item t isItem _ ih =>
        rw [List.append_assoc item, Kind.items_append isItem, cuts, ← List.append_assoc taken]
        exact List.mem_append_left _ ih

theorem mem_stops_iff {language : Language} {t value rest : Text} :
    (value, rest) ∈ language.stops t ↔ t = value ++ rest ∧ language.Admits value := by
  cases language with
  | exactly text =>
      simp only [stops, Admits]
      cases after : Text.after? text t with
      | none =>
          simp only [List.not_mem_nil, false_iff, not_and]
          rintro rfl rfl
          simp at after
      | some later =>
          rw [Text.after?_eq_some] at after
          subst after
          simp only [List.mem_singleton, Prod.mk.injEq]
          constructor
          · rintro ⟨rfl, rfl⟩; exact ⟨rfl, rfl⟩
          · rintro ⟨whole, rfl⟩; exact ⟨rfl, (List.append_cancel_left whole).symm⟩
  | items kind required =>
      cases required with
      | false =>
          simp only [stops, Admits, mem_cuts_iff, List.nil_append]
          constructor
          · rintro ⟨more, rfl, whole, isValue⟩; exact ⟨whole, isValue, by simp⟩
          · rintro ⟨whole, isValue, -⟩; exact ⟨value, rfl, whole, isValue⟩
      | true =>
          simp only [stops, Admits]
          constructor
          · intro h
            rw [Kind.items_eq] at h
            cases cut : kind.item? t with
            | none => simp [cut] at h
            | some found =>
                obtain ⟨item, after⟩ := found
                obtain ⟨rfl, isItem⟩ := Kind.item?_eq_some_iff.1 cut
                simp only [cut, mem_cuts_iff] at h
                obtain ⟨more, rfl, rfl, isValue⟩ := h
                exact ⟨by simp, .cons isItem isValue, fun _ => by simp [isItem.ne_nil]⟩
          · rintro ⟨rfl, isValue, nonempty⟩
            cases isValue with
            | nil => simp at nonempty
            | cons isItem later =>
                rw [List.append_assoc, Kind.items_append isItem]
                exact mem_cuts_iff.2 ⟨_, rfl, rfl, later⟩

theorem admits_iff {language : Language} {t : Text} :
    language.Admits t ↔ (t, []) ∈ language.stops t := by
  rw [mem_stops_iff, List.append_nil]
  exact ⟨fun h => ⟨rfl, h⟩, And.right⟩

instance (language : Language) (t : Text) : Decidable (language.Admits t) :=
  decidable_of_iff _ admits_iff.symm

/-! ## The order of the cuts -/

theorem prefix_of_mem_cuts {taken here value rest : Text} {items : List (Text × Text)}
    (h : (value, rest) ∈ cuts taken here items) : taken <+: value := by
  induction items generalizing taken here with
  | nil =>
      obtain ⟨rfl, rfl⟩ := Prod.mk.inj (List.mem_singleton.1 h)
      exact List.prefix_rfl
  | cons first more ih =>
      rcases List.mem_append.1 h with h | h
      · exact (List.prefix_append taken first.1).trans (ih h)
      · obtain ⟨rfl, rfl⟩ := Prod.mk.inj (List.mem_singleton.1 h)
        exact List.prefix_rfl

theorem pairwise_cuts {items : List (Text × Text)} (nonempty : ∀ e ∈ items, e.1 ≠ [])
    (taken here : Text) :
    (cuts taken here items).Pairwise fun a b => Text.size b.1 < Text.size a.1 := by
  induction items generalizing taken here with
  | nil => exact List.pairwise_singleton _ _
  | cons first more ih =>
      obtain ⟨item, rest⟩ := first
      have later := ih (fun e he => nonempty e (List.mem_cons_of_mem _ he)) (taken ++ item) rest
      refine List.pairwise_append.2 ⟨later, List.pairwise_singleton _ _, ?_⟩
      rintro ⟨value, after⟩ member _ last
      obtain rfl := List.mem_singleton.1 last
      obtain ⟨end', rfl⟩ := prefix_of_mem_cuts member
      have : 0 < Text.size item := Text.size_pos (nonempty _ List.mem_cons_self)
      simp only [Text.size_append]
      omega

/-- The longest cut is tried first. -/
theorem pairwise_stops (language : Language) (t : Text) :
    (language.stops t).Pairwise fun a b => Text.size b.1 < Text.size a.1 := by
  have nonempty (kind : Kind) (t : Text) : ∀ e ∈ kind.items t, e.1 ≠ [] :=
    fun _ member => (Kind.isItem_of_mem_items member).ne_nil
  cases language with
  | exactly text =>
      simp only [stops]
      cases Text.after? text t with
      | none => exact .nil
      | some rest => exact List.pairwise_singleton _ _
  | items kind required =>
      have all := nonempty kind t
      cases required with
      | false => exact pairwise_cuts all [] t
      | true =>
          simp only [stops]
          cases e : kind.items t with
          | nil => exact .nil
          | cons first more =>
              rw [e] at all
              exact pairwise_cuts (fun e he => all e (List.mem_cons_of_mem _ he)) _ _

end Language
end UriRouting
