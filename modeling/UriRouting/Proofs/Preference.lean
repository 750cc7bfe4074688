/-
# UriRouting.Proofs.Preference — which candidate serves a request

The candidates are looked at one after the other, and a later one may take the place of the best
so far.  It happens once at the most, for only a HEAD handler gives way, and a GET handler does
not: `foldl_preferOver_settled` is what a winner keeps, `foldl_preferOver_head` what becomes of a
HEAD handler.  So the winner can be told from the list alone (`Handlers.prefer_eq`): the first
GET handler if a HEAD handler stands first in a list for a request for a head, and otherwise the
first candidate.  The rest is read off this rule.
-/
import UriRouting.Request.Handlers

namespace UriRouting

set_option autoImplicit false

namespace Handlers

variable {η : Type} {method : Method} {best : Method × η}

def isGet (candidate : Method × η) : Bool := candidate.1 == .get

/-- Whoever wins over a HEAD handler, or is none, or serves another request, keeps its place. -/
theorem foldl_preferOver_settled (settled : ¬ (method = .head ∧ best.1 = .head))
    (candidates : List (Method × η)) : candidates.foldl (preferOver method) best = best := by
  induction candidates with
  | nil => rfl
  | cons candidate candidates ih =>
      have stays : preferOver method best candidate = best :=
        if_neg fun h => settled ⟨h.1, h.2.1⟩
      rw [List.foldl_cons, stays, ih]

/-- A HEAD handler gives way to the first GET handler behind it. -/
theorem foldl_preferOver_head (head : best.1 = .head) (candidates : List (Method × η)) :
    candidates.foldl (preferOver .head) best = (candidates.find? isGet).getD best := by
  induction candidates with
  | nil => rfl
  | cons candidate candidates ih =>
      rw [List.foldl_cons]
      by_cases get : candidate.1 = .get
      · have wins : preferOver .head best candidate = candidate := if_pos ⟨rfl, head, get⟩
        have settled : ¬ (Method.head = .head ∧ candidate.1 = .head) := by simp [get]
        rw [wins, foldl_preferOver_settled settled, List.find?_cons_of_pos (by simp [isGet, get]),
          Option.getD_some]
      · have stays : preferOver .head best candidate = best := if_neg fun h => get h.2.2
        rw [stays, ih, List.find?_cons_of_neg (by simp [isGet, get])]

theorem isSome_find?_isGet {candidates : List (Method × η)} :
    (candidates.find? isGet).isSome = true ↔ .get ∈ candidates.map Prod.fst := by
  simp [isGet]

/-- The request is for a head, a HEAD handler stands first, and there is a GET handler. -/
def GivesWay (method : Method) (candidates : List (Method × η)) : Prop :=
  method = .head ∧ candidates.head?.map Prod.fst = some .head ∧
    .get ∈ candidates.map Prod.fst

instance (method : Method) (candidates : List (Method × η)) :
    Decidable (GivesWay method candidates) :=
  inferInstanceAs (Decidable (_ ∧ _ ∧ _))

theorem givesWay_head_iff {first : Method × η} (head : first.1 = .head)
    {candidates : List (Method × η)} :
    GivesWay .head (first :: candidates) ↔ (candidates.find? isGet).isSome = true := by
  rw [isSome_find?_isGet]
  simp [GivesWay, head]

/-- The rule in closed form. -/
theorem prefer_eq (method : Method) (candidates : List (Method × η)) :
    prefer method candidates =
      if GivesWay method candidates then candidates.find? isGet else candidates.head? := by
  cases candidates with
  | nil => rw [if_neg (by simp [GivesWay])]; rfl
  | cons first candidates =>
      rw [prefer, List.head?_cons]
      by_cases head : method = .head ∧ first.1 = .head
      · obtain ⟨rfl, head⟩ := head
        rw [foldl_preferOver_head head, List.find?_cons_of_neg (by simp [isGet, head])]
        cases found : candidates.find? isGet <;> simp [givesWay_head_iff head, found]
      · have none : ¬ GivesWay method (first :: candidates) := by
          rintro ⟨request, leads, -⟩
          exact head ⟨request, Option.some.inj leads⟩
        rw [foldl_preferOver_settled head, if_neg none]

theorem prefer_of_givesWay {candidates : List (Method × η)} (h : GivesWay method candidates) :
    prefer method candidates = candidates.find? isGet := by
  rw [prefer_eq, if_pos h]

theorem prefer_of_not_givesWay {candidates : List (Method × η)}
    (h : ¬ GivesWay method candidates) : prefer method candidates = candidates.head? := by
  rw [prefer_eq, if_neg h]

theorem GivesWay.exists_find {candidates : List (Method × η)} (h : GivesWay method candidates) :
    ∃ got, candidates.find? isGet = some got :=
  Option.isSome_iff_exists.1 (isSome_find?_isGet.2 h.2.2)

theorem prefer_eq_none_iff {candidates : List (Method × η)} :
    prefer method candidates = none ↔ candidates = [] := by
  cases candidates with
  | nil => simp [prefer]
  | cons first candidates => simp [prefer]

/-- A HEAD handler wins a request for a head only if there is no GET handler. -/
theorem ne_head_of_prefer {candidates : List (Method × η)}
    (h : prefer .head candidates = some best) (get : .get ∈ candidates.map Prod.fst) :
    best.1 ≠ .head := by
  intro head
  by_cases gives : GivesWay .head candidates
  · rw [prefer_of_givesWay gives] at h
    have found := List.find?_some h
    simp [isGet, head] at found
  · rw [prefer_of_not_givesWay gives] at h
    exact gives ⟨rfl, by rw [h, Option.map_some, head], get⟩

/-- The answer for a longer list, where it is another one. -/
theorem prefer_append (method : Method) (candidates more : List (Method × η)) :
    prefer method (candidates ++ more) = prefer method candidates ∨
      prefer method candidates = none ∨
      method = .head ∧ ∃ first got, prefer method candidates = some first ∧
        candidates.head? = some first ∧ first.1 = .head ∧
        (candidates ++ more).find? isGet = some got ∧
        prefer method (candidates ++ more) = some got := by
  cases candidates with
  | nil => exact .inr (.inl rfl)
  | cons first candidates =>
      by_cases before : GivesWay method (first :: candidates)
      · -- the first GET handler stays the first one
        obtain ⟨got, found⟩ := before.exists_find
        have after : GivesWay method (first :: candidates ++ more) :=
          ⟨before.1, before.2.1, by
            rw [List.map_append]
            exact List.mem_append_left _ before.2.2⟩
        left
        rw [prefer_of_givesWay before, prefer_of_givesWay after, List.find?_append, found,
          Option.some_or]
      · rw [prefer_of_not_givesWay before]
        by_cases after : GivesWay method (first :: candidates ++ more)
        · obtain ⟨got, found⟩ := after.exists_find
          have head : first.1 = .head := Option.some.inj after.2.1
          exact .inr (.inr ⟨after.1, first, got, rfl, rfl, head, found,
            (prefer_of_givesWay after).trans found⟩)
        · left
          rw [prefer_of_not_givesWay after]
          rfl

/-- **Who serves a request.**  The first of the candidates, if there is one; only where the request
is for a head, and a HEAD handler stands first, it gives way to the first GET handler.  So no HEAD
handler serves a request for a head where a GET handler could, and more candidates behind the
others change the answer only if there was none, or from the HEAD handler in the first place to
the first GET handler. -/
theorem prefer_by_rule (method : Method) (candidates : List (Method × η)) :
    (prefer method candidates = none ↔ candidates = []) ∧
      (GivesWay method candidates → prefer method candidates = candidates.find? isGet) ∧
      (¬ GivesWay method candidates → prefer method candidates = candidates.head?) ∧
      (∀ best, method = .head → .get ∈ candidates.map Prod.fst →
        prefer method candidates = some best → best.1 ≠ .head) ∧
      ∀ more, prefer method (candidates ++ more) = prefer method candidates ∨
        prefer method candidates = none ∨
        method = .head ∧ ∃ first got, prefer method candidates = some first ∧
          candidates.head? = some first ∧ first.1 = .head ∧
          (candidates ++ more).find? isGet = some got ∧
          prefer method (candidates ++ more) = some got := by
  refine ⟨prefer_eq_none_iff, prefer_of_givesWay, prefer_of_not_givesWay, ?_,
    prefer_append method candidates⟩
  rintro best rfl get h
  exact ne_head_of_prefer h get

namespace Example

/-- A HEAD handler in front of two GET handlers, and another one between them. -/
def crowd : List (Method × Nat) := [(.head, 0), (.post, 1), (.get, 2), (.head, 3), (.get, 4)]

end Example

theorem prefer_by_rule_crowd :
    GivesWay .head Example.crowd ∧ prefer .head Example.crowd = some (.get, 2) ∧
      ¬ GivesWay .get Example.crowd ∧ prefer .get Example.crowd = some (.head, 0) := by
  have gives : GivesWay .head Example.crowd := by decide
  have keeps : ¬ GivesWay .get Example.crowd := by decide
  exact ⟨gives, (prefer_by_rule .head Example.crowd).2.1 gives, keeps,
    (prefer_by_rule .get Example.crowd).2.2.1 keeps⟩

end Handlers
end UriRouting
