/-
# UriRouting.Proofs.Widening — wider variables lose no match

Some kinds take all that others do: `Kind.Widens` is the order that is made of the steps from a
kind to the next wider one (`Kind.Next`).  Each step is an inclusion of two classes that were
written down apart from each other (`Kind.Next.contains`), and no kind that admits encoded octets
has a wider one that does not.  So a value of a kind is a value of every wider kind
(`Kind.Widens.isValue`), and a descriptor that is widened, in its kind or from required to
optional, takes what it took before (`Variable.Widens.admits`).

A split along a template is then one along the widened template (`Template.Widens.split`), so the
match is not lost.  It need not be the split that wins, as a wider variable takes more of the
text from those behind it; but where no name is repeated what wins ends as far on as any split
does (`Template.Widens.matchedSize?_mono`).
-/
import Mathlib.Logic.Relation
import UriRouting.Proofs.WholePath

namespace UriRouting

set_option autoImplicit false

namespace CharClass

theorem contains_of_subset {parts more : List Part} (subset : ∀ part ∈ parts, part ∈ more)
    {c : Char} (inClass : (only parts).contains c = true) : (only more).contains c = true := by
  obtain ⟨part, member, here⟩ := List.any_eq_true.1 inClass
  exact List.any_eq_true.2 ⟨part, subset part member, here⟩

theorem ascii_of_alphaDigit {c : Char}
    (inClass : (only (letters ++ digits)).contains c = true) : c.toNat < 128 := by
  have le : c ≤ 'z' ∨ c ≤ 'Z' ∨ c ≤ '9' := by
    simp only [contains, letters, digits, List.cons_append, List.nil_append, List.any_cons,
      List.any_nil, Part.contains, Bool.or_false, Bool.or_eq_true, Bool.and_eq_true,
      decide_eq_true_eq] at inClass
    exact inClass.imp And.right (Or.imp And.right And.right)
  have codes : c.toNat ≤ 'z'.toNat ∨ c.toNat ≤ 'Z'.toNat ∨ c.toNat ≤ '9'.toNat := le
  have letter : 'z'.toNat = 122 := rfl
  have capital : 'Z'.toNat = 90 := rfl
  have number : '9'.toNat = 57 := rfl
  omega

theorem isWordChar_of_alphaDigit {c : Char}
    (inClass : (only (letters ++ digits)).contains c = true) : Text.isWordChar c = true := by
  refine Text.forall_ascii (P := fun c => (only (letters ++ digits)).contains c = true →
    Text.isWordChar c = true) ?_ (ascii_of_alphaDigit inClass) inClass
  decide +kernel

end CharClass

namespace Kind

/-- From a kind to one that is next to it and takes more, or the same. -/
inductive Next : Kind → Kind → Prop
  | alpha : Next alpha alphaDigit
  | digit : Next digit alphaDigit
  | word : Next alphaDigit word
  | unreserved : Next alphaDigit uriUnreserved
  | segment : Next uriUnreserved uriSegment
  | path : Next uriSegment uriPath
  | query : Next uriPath uriQuery
  | param : Next uriUnreserved uriQueryParam
  | params : Next uriQueryParam uriQuery
  | fragment : Next uriQuery uriFragment
  | queryAgain : Next uriFragment uriQuery
  | all : Next uriFragment uriAll

/-- The second kind is as wide as the first, or wider. -/
def Widens : Kind → Kind → Prop := Relation.ReflTransGen Next

theorem Next.contains {k k' : Kind} (next : Next k k') {c : Char}
    (inClass : k.chars.contains c = true) : k'.chars.contains c = true := by
  cases next with
  | word =>
      have here := CharClass.isWordChar_of_alphaDigit inClass
      simpa [chars, CharClass.contains, CharClass.Part.contains] using here
  | _ => exact CharClass.contains_of_subset (by decide +kernel) inClass

theorem Next.admitsEncoded {k k' : Kind} (next : Next k k') (admits : k.admitsEncoded = true) :
    k'.admitsEncoded = true := by
  cases next <;> first | rfl | cases admits

theorem Next.isItem {k k' : Kind} (next : Next k k') {item : Text} (h : k.IsItem item) :
    k'.IsItem item := by
  cases h with
  | char inClass => exact .char (next.contains inClass)
  | octet admits high low => exact .octet (next.admitsEncoded admits) high low

theorem Next.isValue {k k' : Kind} (next : Next k k') {t : Text} (h : k.IsValue t) :
    k'.IsValue t := by
  induction h with
  | nil => exact .nil
  | cons item _ ih => exact .cons (next.isItem item) ih

/-- What is a value of a kind is one of every wider kind. -/
theorem Widens.isValue {k k' : Kind} (wider : k.Widens k') {t : Text} (h : k.IsValue t) :
    k'.IsValue t := by
  induction wider with
  | refl => exact h
  | tail _ next ih => exact next.isValue ih

end Kind

/-- The descriptor itself, or one that is wider in its kind or optional instead of required.
There is no wider one than a fixed one. -/
inductive Variable.Widens (v : Variable) : Variable → Prop
  | same : Widens v v
  | wider {kind : Kind} {required : Bool} (free : v.fixed = false) (kinds : v.kind.Widens kind)
      (optional : required = true → v.required = true) : Widens v { v with kind, required }

theorem Variable.Widens.admits {v v' : Variable} (wider : v.Widens v') {value : Text}
    (h : v.language.Admits value) : v'.language.Admits value := by
  cases wider with
  | same => exact h
  | wider free kinds optional =>
      rw [language, if_neg (by simp [free])] at h ⊢
      exact ⟨kinds.isValue h.1, fun needed => h.2 (optional needed)⟩

namespace Template

/-- The second template is the first with some descriptors widened, and the same otherwise. -/
structure Widens (t t' : Template) : Prop where
  pattern : t'.pattern = t.pattern
  mode : t'.mode = t.mode
  encoding : t'.encoding = t.encoding
  limit : t'.limit = t.limit
  descriptors : ∀ name,
    Option.Rel Variable.Widens (t.descriptors.find? name) (t'.descriptors.find? name)
  fallback : t.fallback.Widens t'.fallback

namespace Widens

variable {t t' : Template} {text : Text} (h : t.Widens t')

include h

theorem describe (name : Text) : (t.describe name).Widens (t'.describe name) := by
  have related := h.descriptors name
  unfold Template.describe
  revert related
  generalize t.descriptors.find? name = found
  generalize t'.descriptors.find? name = found'
  intro related
  cases related with
  | some wider => exact wider
  | none => exact h.fallback

theorem tokens : t'.tokens = t.tokens := congrArg Pattern.tokens h.pattern

theorem variableNames : t'.variableNames = t.variableNames :=
  congrArg Pattern.variableNames h.pattern

/-- A split along the template, as one along the widened template. -/
def split (s : t.Split text) : t'.Split text :=
  .ofValue s.value s.rest
    (by
      rw [h.tokens]
      exact s.whole_eq)
    (by
      intro name member
      rw [h.variableNames] at member
      exact (h.describe name).admits (s.admits member))
    (by
      rw [h.mode]
      exact s.ends)

theorem size_split (s : t.Split text) : (h.split s).size = s.size := by
  rw [← (h.split s).consumed_eq, ← s.consumed_eq]
  rfl

end Widens

/-- **Widening a descriptor never loses a match.**  What a template matches it matches with wider
descriptors too, if that search comes to an end: a whole text as a whole, and where no name is
repeated at least as much of the front. -/
theorem Widens.matchedSize?_mono {t t' : Template} (h : t.Widens t') {text : Text}
    (settled : t'.Settled text) {n : Nat} (found : t.matchedSize? text = some n) :
    ∃ m, t'.matchedSize? text = some m ∧ (t.mode = .equals → m = n) ∧
      (t.variableNames.Nodup → n ≤ m) := by
  obtain ⟨s, -, -, rfl⟩ := exists_matched_of_matchedSize? found
  obtain ⟨winner, -, matched⟩ := exists_matched settled ⟨h.split s⟩
  refine ⟨winner.size, matchedSize?_of_matched matched, ?_, ?_⟩
  · intro whole
    rw [winner.size_of_equals (h.mode.trans whole), s.size_of_equals whole]
  · intro distinct
    rw [← h.variableNames] at distinct
    rw [← h.size_split s]
    exact Text.size_le_of_prefix ((longestFront_of_matched distinct matched).2 (h.split s))

namespace Example

/-- A path up to a segment, with a number behind it. -/
def numbered (name number : Variable) : Template where
  pattern := "/\x7bname\x7d/edit\x7bnumber\x7d".toList
  mode := .startsWithSegment
  descriptors := .ofList [("name".toList, name), ("number".toList, number)]

def narrow : Template := numbered (.ofKind .uriUnreserved) (.ofKind .digit)

/-- The name may span segments, and the number be any word, or be left out. -/
def wide : Template := numbered (.ofKind .uriPath) { kind := .word, required := false }

theorem narrow_widens : narrow.Widens wide where
  pattern := rfl
  mode := rfl
  encoding := rfl
  limit := rfl
  descriptors name := by
    have path : (Variable.ofKind .uriUnreserved).Widens (.ofKind .uriPath) :=
      .wider rfl (.tail (.single .segment) .path) id
    have word : (Variable.ofKind .digit).Widens { kind := .word, required := false } :=
      .wider rfl (.tail (.single .digit) .word) (by simp)
    have found (first second : Variable) : (numbered first second).descriptors.find? name =
        if name = "number".toList then some second
        else if name = "name".toList then some first else none := by
      have both : (numbered first second).descriptors =
          (Dictionary.empty.insert "name".toList first).insert "number".toList second := rfl
      rw [both, Dictionary.find?_insert, Dictionary.find?_insert, Dictionary.find?_empty]
    rw [narrow, wide, found, found]
    by_cases last : name = "number".toList
    · rw [if_pos last, if_pos last]
      exact .some word
    · rw [if_neg last, if_neg last]
      by_cases first : name = "name".toList
      · rw [if_pos first, if_pos first]
        exact .some path
      · rw [if_neg first, if_neg first]
        exact .none
  fallback := .same

def path : Text := "/a/edit1/b/edit".toList

end Example

theorem Widens.matchedSize?_mono_wide :
    Example.narrow.matchedSize? Example.path = some 8 ∧
      ∃ m, Example.wide.matchedSize? Example.path = some m ∧ 8 ≤ m := by
  have found : Example.narrow.matchedSize? Example.path = some 8 := by decide +kernel
  have distinct : Example.narrow.variableNames.Nodup := by decide +kernel
  have settled : Example.wide.Settled Example.path := Or.inl distinct
  obtain ⟨m, wider, -, le⟩ := Widens.matchedSize?_mono Example.narrow_widens settled found
  exact ⟨found, m, wider, le distinct⟩

end Template
end UriRouting
