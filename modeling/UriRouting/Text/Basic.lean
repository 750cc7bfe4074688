/-
# UriRouting.Text.Basic — texts, and how long they are

A text is the list of its characters, so that patterns, paths and values can be taken
apart by recursion. Every length and position the library reports is the number of
UTF-8 octets, `Text.size`; it is additive over `++` (`size_append`).
-/

namespace UriRouting

set_option autoImplicit false

abbrev Text := List Char

namespace Text

/-- The number of octets of a text written in UTF-8. -/
def size : Text → Nat
  | [] => 0
  | c :: t => c.utf8Size + size t

@[simp] theorem size_nil : size [] = 0 := rfl

@[simp] theorem size_cons (c : Char) (t : Text) : size (c :: t) = c.utf8Size + size t := rfl

@[simp] theorem size_append (s t : Text) : size (s ++ t) = size s + size t := by
  induction s with
  | nil => simp
  | cons c s ih => simp only [List.cons_append, size_cons, ih, Nat.add_assoc]

/-- The text after `part`, of a text that starts with `part`. -/
def after? (part : Text) : Text → Option Text :=
  match part with
  | [] => some
  | c :: part => fun
    | [] => none
    | d :: t => if c = d then after? part t else none

theorem after?_eq_some {part t rest : Text} : after? part t = some rest ↔ t = part ++ rest := by
  induction part generalizing t with
  | nil => simp [after?]
  | cons c part ih =>
    cases t with
    | nil => simp [after?]
    | cons d t =>
      by_cases h : c = d
      · simp [after?, h, ih]
      · simp [after?, h, Ne.symm h]

@[simp] theorem after?_append (part rest : Text) : after? part (part ++ rest) = some rest :=
  after?_eq_some.2 rfl

/-- The text after a copy of the first `n` characters of `s`, of a text that starts with
one. -/
def afterCopy? : (n : Nat) → (s t : Text) → Option Text
  | 0, _, t => some t
  | _ + 1, [], t => some t
  | _ + 1, _ :: _, [] => none
  | n + 1, c :: s, d :: t => if c = d then afterCopy? n s t else none

theorem afterCopy?_eq (n : Nat) (s t : Text) : afterCopy? n s t = after? (s.take n) t := by
  induction n generalizing s t with
  | zero => rfl
  | succ n ih =>
    match s, t with
    | [], _ => rfl
    | _ :: _, [] => rfl
    | c :: s, d :: t =>
      simp only [afterCopy?, List.take_succ_cons, after?, ih]

/-- The two sides of a text at a number of octets; a character that lies across goes to the
second. -/
def splitAt : Nat → Text → Text × Text
  | _, [] => ([], [])
  | n, c :: t =>
    if c.utf8Size ≤ n then
      let (front, rest) := splitAt (n - c.utf8Size) t
      (c :: front, rest)
    else ([], c :: t)

theorem splitAt_size (s t : Text) : splitAt (size s) (s ++ t) = (s, t) := by
  induction s with
  | nil =>
    cases t with
    | nil => rfl
    | cons c t =>
      have pos := c.utf8Size_pos
      have above : ¬ c.utf8Size ≤ size [] := by simp; omega
      rw [List.nil_append, splitAt, if_neg above]
  | cons c s ih =>
    have within : c.utf8Size ≤ size (c :: s) := by simp
    have rest : size (c :: s) - c.utf8Size = size s := by simp
    rw [List.cons_append, splitAt, if_pos within, rest, ih]

/-- Letters and digits of ASCII and the four marks `-`, `.`, `_` and `~`: the characters
that never need to be encoded in a URI, and of which variable names are made. -/
def isUnreserved (c : Char) : Bool :=
  c.isAlphanum || c == '-' || c == '.' || c == '_' || c == '~'

/-- The character lies in one of the ranges, of which each names its first and last. -/
def inRanges (ranges : List (Nat × Nat)) (c : Char) : Bool :=
  ranges.any fun (first, last) => first ≤ c.toNat && c.toNat ≤ last

/-- The capital letters of ASCII as small ones, and the sign for kelvin as `k`: no other
character has a lower case that is ASCII text. -/
def lowerChar (c : Char) : Char := if c = '\u212A' then 'k' else c.toLower

/-- The name that a text spells in any mix of cases, for names made of small ASCII
letters. Texts that spell no such name stay different from all of them. -/
def lowered (t : Text) : Text := t.map lowerChar

end Text
end UriRouting
