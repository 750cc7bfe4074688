/-
# UriRouting.Text.Named — values that are chosen by name

A type of `Named` values lists them in a fixed order, each with the name that is written
for it. `Named.read` accepts a name in the spellings that the type folds together, and
`Named.ofName?` only the name itself. Names are distinct, so a name that was written is
read back (`read_name`, `ofName?_name`).
-/
import UriRouting.Text.Basic

namespace UriRouting

set_option autoImplicit false

class Named (α : Type) [DecidableEq α] where
  /-- What such a value is called in a complaint. -/
  noun : String
  values : List α
  name : α → String
  /-- The name as the value is called where it is shown for inspection. -/
  label : α → String
  /-- What a spelling is turned into before it is compared with the names. -/
  fold : Text → Text
  complete : ∀ a, a ∈ values
  fold_name : ∀ a, fold (name a).toList = (name a).toList
  name_injective : ∀ a ∈ values, ∀ b ∈ values, (name a).toList = (name b).toList → a = b

/-- A spelling of no value. -/
structure UnknownName where
  noun : String
  given : Text
  deriving Repr, DecidableEq

def UnknownName.message (e : UnknownName) : String :=
  "unknown " ++ e.noun ++ ": " ++ String.ofList e.given

namespace Named

variable {α : Type} [DecidableEq α] [Named α]

def ofName? (t : Text) : Option α := (values : List α).find? fun a => (name a).toList == t

def read (t : Text) : Except UnknownName α :=
  match (ofName? (fold α t) : Option α) with
  | some a => .ok a
  | none => .error ⟨noun α, t⟩

theorem ofName?_name (a : α) : ofName? (name a).toList = some a := by
  unfold ofName?
  cases h : (values : List α).find? fun b => (name b).toList == (name a).toList with
  | none =>
    have := List.find?_eq_none.1 h a (complete a)
    simp at this
  | some b =>
    have eq := List.find?_some h
    exact congrArg some (name_injective b (complete b) a (complete a) (by simpa using eq))

theorem read_name (a : α) : read (name a).toList = .ok a := by
  rw [read, fold_name, ofName?_name]

end Named
end UriRouting
