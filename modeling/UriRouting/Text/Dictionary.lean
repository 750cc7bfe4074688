/-
# UriRouting.Text.Dictionary — values by name

A `Dictionary` holds at most one value for each name, and its entries are in the order of
the names. So two dictionaries are equal when they look up the same (`ext_find?`), whatever
was inserted in between. `find?_insert` says what an insertion does.
-/
import UriRouting.Text.Basic

namespace UriRouting

set_option autoImplicit false

structure Dictionary (α : Type) where
  entries : List (Text × α)
  sorted : entries.Pairwise (·.1 < ·.1)
  deriving DecidableEq

namespace Dictionary

variable {α : Type}

def empty : Dictionary α := ⟨[], .nil⟩

def find? (d : Dictionary α) (name : Text) : Option α := d.entries.lookup name

def contains (d : Dictionary α) (name : Text) : Bool := (d.find? name).isSome

def size (d : Dictionary α) : Nat := d.entries.length

def isEmpty (d : Dictionary α) : Bool := d.entries.isEmpty

/-- Puts an entry at its place, over one of the same name. -/
def place (name : Text) (value : α) : List (Text × α) → List (Text × α)
  | [] => [(name, value)]
  | (other, old) :: later =>
    if name < other then (name, value) :: (other, old) :: later
    else if other < name then (other, old) :: place name value later
    else (name, value) :: later

theorem mem_place {name : Text} {value : α} {entries : List (Text × α)} {e : Text × α}
    (h : e ∈ place name value entries) : e = (name, value) ∨ e ∈ entries := by
  induction entries with
  | nil => simpa [place] using h
  | cons first later ih =>
    obtain ⟨other, old⟩ := first
    unfold place at h
    split at h
    · simpa using h
    · split at h
      · rcases List.mem_cons.1 h with rfl | h
        · exact .inr List.mem_cons_self
        · exact (ih h).imp_right (List.mem_cons_of_mem _)
      · exact (List.mem_cons.1 h).imp_right (List.mem_cons_of_mem _)

theorem sorted_place (name : Text) (value : α) {entries : List (Text × α)}
    (sorted : entries.Pairwise (·.1 < ·.1)) :
    (place name value entries).Pairwise (·.1 < ·.1) := by
  induction entries with
  | nil => simp [place]
  | cons first later ih =>
    obtain ⟨other, old⟩ := first
    obtain ⟨above, rest⟩ := List.pairwise_cons.1 sorted
    unfold place
    split
    case isTrue h =>
      refine List.pairwise_cons.2 ⟨fun e he => ?_, sorted⟩
      rcases List.mem_cons.1 he with rfl | he
      · exact h
      · exact List.lt_trans h (above e he)
    case isFalse h =>
      split
      case isTrue h' =>
        refine List.pairwise_cons.2 ⟨fun e he => ?_, ih rest⟩
        rcases mem_place he with rfl | he
        · exact h'
        · exact above e he
      case isFalse h' =>
        refine List.pairwise_cons.2 ⟨fun e he => ?_, rest⟩
        have same : name = other := List.le_antisymm (List.not_lt.1 h') (List.not_lt.1 h)
        exact same ▸ above e he

def insert (d : Dictionary α) (name : Text) (value : α) : Dictionary α :=
  ⟨place name value d.entries, sorted_place name value d.sorted⟩

/-- The entries of a list, a later one of the same name in the place of an earlier. -/
def ofList (entries : List (Text × α)) : Dictionary α :=
  entries.foldl (fun d (name, value) => d.insert name value) empty

private theorem lookup_cons (key : Text) (value : α) (later : List (Text × α)) (other : Text) :
    ((key, value) :: later).lookup other =
      if other = key then some value else later.lookup other := by
  by_cases e : other = key
  · simp [e]
  · simp [List.lookup_cons, beq_false_of_ne e, e]

private theorem lookup_place (name : Text) (value : α) (entries : List (Text × α))
    (other : Text) : (place name value entries).lookup other =
      if other = name then some value else entries.lookup other := by
  induction entries with
  | nil => exact lookup_cons name value [] other
  | cons first later ih =>
    obtain ⟨key, old⟩ := first
    unfold place
    split
    case isTrue h => exact lookup_cons name value _ other
    case isFalse h =>
      split
      case isTrue h' =>
        have ne : key ≠ name := fun e => List.lt_irrefl _ (e ▸ h')
        simp only [lookup_cons, ih]
        by_cases e : other = key
        · simp [e, ne]
        · simp [e]
      case isFalse h' =>
        have same : name = key := List.le_antisymm (List.not_lt.1 h') (List.not_lt.1 h)
        simp only [lookup_cons, same]
        by_cases e : other = key <;> simp [e]

/-- An insertion changes what its own name has, and nothing else. -/
theorem find?_insert (d : Dictionary α) (name : Text) (value : α) (other : Text) :
    (d.insert name value).find? other = if other = name then some value else d.find? other :=
  lookup_place name value d.entries other

private theorem lookup_eq_none {entries : List (Text × α)} {name : Text}
    (h : ∀ e ∈ entries, name < e.1) : entries.lookup name = none := by
  induction entries with
  | nil => rfl
  | cons first later ih =>
    obtain ⟨key, value⟩ := first
    have ne : name ≠ key := fun e => List.lt_irrefl _ (e ▸ h _ List.mem_cons_self)
    rw [lookup_cons, if_neg ne]
    exact ih fun e he => h e (List.mem_cons_of_mem _ he)

private theorem entries_ext {d e : List (Text × α)} (hd : d.Pairwise (·.1 < ·.1))
    (he : e.Pairwise (·.1 < ·.1)) (same : ∀ name, d.lookup name = e.lookup name) : d = e := by
  induction d generalizing e with
  | nil =>
    cases e with
    | nil => rfl
    | cons first later =>
      have := same first.1
      rw [lookup_cons first.1 first.2, if_pos rfl] at this
      exact nomatch this
  | cons first later ih =>
    obtain ⟨key, value⟩ := first
    obtain ⟨above, rest⟩ := List.pairwise_cons.1 hd
    cases e with
    | nil =>
      have := same key
      rw [lookup_cons, if_pos rfl] at this
      exact nomatch this
    | cons first' later' =>
      obtain ⟨key', value'⟩ := first'
      obtain ⟨above', rest'⟩ := List.pairwise_cons.1 he
      have not_below : ¬ key < key' := fun h => by
        have := same key
        rw [lookup_cons, if_pos rfl, lookup_eq_none] at this
        · exact nomatch this
        · intro e he
          rcases List.mem_cons.1 he with rfl | he
          · exact h
          · exact List.lt_trans h (above' e he)
      have not_above : ¬ key' < key := fun h => by
        have := same key'
        rw [lookup_cons key', if_pos rfl, lookup_eq_none] at this
        · exact nomatch this
        · intro e he
          rcases List.mem_cons.1 he with rfl | he
          · exact h
          · exact List.lt_trans h (above e he)
      have keys : key = key' := List.le_antisymm (List.not_lt.1 not_above) (List.not_lt.1 not_below)
      subst keys
      have values : some value = some value' := by
        have := same key
        rwa [lookup_cons, lookup_cons, if_pos rfl, if_pos rfl] at this
      cases values
      refine congrArg _ (ih rest rest' fun name => ?_)
      by_cases h : name = key
      · rw [h, lookup_eq_none above, lookup_eq_none above']
      · have := same name
        rwa [lookup_cons, lookup_cons, if_neg h, if_neg h] at this

/-- Dictionaries that look up the same are the same. -/
theorem ext_find? {d e : Dictionary α} (same : ∀ name, d.find? name = e.find? name) : d = e := by
  cases d
  cases e
  congr
  exact entries_ext (by assumption) (by assumption) same

@[simp] theorem find?_empty (name : Text) : (empty : Dictionary α).find? name = none := rfl

end Dictionary
end UriRouting
