/-
# UriRouting.Text.Utf8 — texts as octets, and octets as texts

`encode` writes a text in UTF-8. `decode` reads any octets: what is well formed gives its
characters, and each maximal piece that no character starts with gives one replacement
character U+FFFD. The reader is a machine with one cell, the character it is inside of.
The main statement is `decode_encode`: what was written is read back.
-/
import UriRouting.Text.Basic

namespace UriRouting

set_option autoImplicit false

namespace Utf8

/-- The octets of a character: one, or a lead octet and one to three that carry six bits
each. -/
def encodeChar (c : Char) : List UInt8 :=
  let n := c.toNat
  if n < 0x80 then [.ofNat n]
  else if n < 0x800 then [.ofNat (0xC0 + n / 0x40), .ofNat (0x80 + n % 0x40)]
  else if n < 0x10000 then
    [.ofNat (0xE0 + n / 0x1000), .ofNat (0x80 + n / 0x40 % 0x40), .ofNat (0x80 + n % 0x40)]
  else
    [.ofNat (0xF0 + n / 0x40000), .ofNat (0x80 + n / 0x1000 % 0x40),
      .ofNat (0x80 + n / 0x40 % 0x40), .ofNat (0x80 + n % 0x40)]

def encode (t : Text) : List UInt8 := t.flatMap encodeChar

/-- A character of which the first octets are read: the bits so far, how many octets are
to come, and the range that the next one has to be in. -/
structure Unfinished where
  bits : Nat
  missing : Nat
  low : Nat
  high : Nat
  deriving Repr, DecidableEq

def replacement : Char := '\uFFFD'

/-- The lead octets of two, three and four octets. Four of them narrow the range of the
next octet, so that no character has a longer form than it needs, none is a surrogate and
none is above U+10FFFF. -/
def lead? (n : Nat) : Option Unfinished :=
  if 0xC2 ≤ n ∧ n ≤ 0xDF then some ⟨n - 0xC0, 1, 0x80, 0xBF⟩
  else if 0xE0 ≤ n ∧ n ≤ 0xEF then
    some ⟨n - 0xE0, 2, if n = 0xE0 then 0xA0 else 0x80, if n = 0xED then 0x9F else 0xBF⟩
  else if 0xF0 ≤ n ∧ n ≤ 0xF4 then
    some ⟨n - 0xF0, 3, if n = 0xF0 then 0x90 else 0x80, if n = 0xF4 then 0x8F else 0xBF⟩
  else none

/-- Reads an octet between two characters: what it writes, and the character it opens. -/
def start (b : UInt8) : Text × Option Unfinished :=
  if b.toNat < 0x80 then ([Char.ofNat b.toNat], none)
  else
    match lead? b.toNat with
    | some u => ([], some u)
    | none => ([replacement], none)

/-- Reads an octet inside a character. One that cannot go on cuts the character short, and
is then read as the first of the next. -/
def resume (u : Unfinished) (b : UInt8) : Text × Option Unfinished :=
  if u.low ≤ b.toNat ∧ b.toNat ≤ u.high then
    let bits := u.bits * 0x40 + (b.toNat - 0x80)
    if u.missing ≤ 1 then ([Char.ofNat bits], none)
    else ([], some ⟨bits, u.missing - 1, 0x80, 0xBF⟩)
  else (replacement :: (start b).1, (start b).2)

def step : Option Unfinished → UInt8 → Text × Option Unfinished
  | none, b => start b
  | some u, b => resume u b

/-- Reads octets from inside of a character, or from between two. -/
def decodeFrom : Option Unfinished → List UInt8 → Text
  | none, [] => []
  | some _, [] => [replacement]
  | state, b :: bytes => (step state b).1 ++ decodeFrom (step state b).2 bytes

/-- The text that the octets hold. -/
def decode (bytes : List UInt8) : Text := decodeFrom none bytes

private theorem char_range (c : Char) :
    c.toNat < 0xD800 ∨ (0xDFFF < c.toNat ∧ c.toNat < 0x110000) :=
  c.valid

theorem length_encodeChar (c : Char) : (encodeChar c).length = c.utf8Size := by
  have e : c.toNat = c.val.toNat := rfl
  simp only [encodeChar, Char.utf8Size, UInt32.le_iff_toNat_le, UInt32.toNat_ofNatLT, e]
  split
  · rw [if_pos (by omega)]; rfl
  · split
    · rw [if_neg (by omega), if_pos (by omega)]; rfl
    · split
      · rw [if_neg (by omega), if_neg (by omega), if_pos (by omega)]; rfl
      · rw [if_neg (by omega), if_neg (by omega), if_neg (by omega)]; rfl

private theorem toNat_ofNat_small {n : Nat} (h : n < 0x100) : (UInt8.ofNat n).toNat = n := by
  simp [Nat.mod_eq_of_lt h]

/-- A written character is read back, and leaves the reader between two characters. -/
theorem decodeFrom_encodeChar (c : Char) (bytes : List UInt8) :
    decodeFrom none (encodeChar c ++ bytes) = c :: decodeFrom none bytes := by
  have hr := char_range c
  have hc : Char.ofNat c.toNat = c := Char.ofNat_toNat c
  unfold encodeChar
  generalize c.toNat = n at hr hc
  dsimp only
  split
  case isTrue h =>
    have e : (UInt8.ofNat n).toNat = n := toNat_ofNat_small (by omega)
    simp [decodeFrom, step, start, e, h, hc]
  case isFalse h1 =>
    split
    case isTrue h =>
      have e : (UInt8.ofNat (0xC0 + n / 0x40)).toNat = 0xC0 + n / 0x40 :=
        toNat_ofNat_small (by omega)
      have e' : (UInt8.ofNat (0x80 + n % 0x40)).toNat = 0x80 + n % 0x40 :=
        toNat_ofNat_small (by omega)
      have first : step none (UInt8.ofNat (0xC0 + n / 0x40)) =
          ([], some ⟨n / 0x40, 1, 0x80, 0xBF⟩) := by
        simp only [step, start, lead?, e]
        rw [if_neg (by omega), if_pos (by omega)]
        simp
      have second : step (some ⟨n / 0x40, 1, 0x80, 0xBF⟩) (UInt8.ofNat (0x80 + n % 0x40)) =
          ([c], none) := by
        simp only [step, resume, e']
        rw [if_pos (by omega), if_pos (by omega),
          show n / 0x40 * 0x40 + (0x80 + n % 0x40 - 0x80) = n by omega, hc]
      simp only [List.cons_append, List.nil_append, decodeFrom, first, second]
    case isFalse h2 =>
      split
      case isTrue h =>
        have e0 : (UInt8.ofNat (0xE0 + n / 0x1000)).toNat = 0xE0 + n / 0x1000 :=
          toNat_ofNat_small (by omega)
        have e1 : (UInt8.ofNat (0x80 + n / 0x40 % 0x40)).toNat = 0x80 + n / 0x40 % 0x40 :=
          toNat_ofNat_small (by omega)
        have e2 : (UInt8.ofNat (0x80 + n % 0x40)).toNat = 0x80 + n % 0x40 :=
          toNat_ofNat_small (by omega)
        have first : step none (UInt8.ofNat (0xE0 + n / 0x1000)) =
            ([], some ⟨n / 0x1000, 2, if n / 0x1000 = 0 then 0xA0 else 0x80,
              if n / 0x1000 = 13 then 0x9F else 0xBF⟩) := by
          simp only [step, start, lead?, e0]
          have l : 0xE0 + n / 0x1000 = 0xED ↔ n / 0x1000 = 13 := by omega
          rw [if_neg (by omega), if_neg (by omega), if_pos (by omega)]
          simp [l]
        have second : step (some ⟨n / 0x1000, 2, if n / 0x1000 = 0 then 0xA0 else 0x80,
              if n / 0x1000 = 13 then 0x9F else 0xBF⟩) (UInt8.ofNat (0x80 + n / 0x40 % 0x40)) =
            ([], some ⟨n / 0x40, 1, 0x80, 0xBF⟩) := by
          simp only [step, resume, e1]
          rw [if_pos (by split <;> split <;> omega), if_neg (by omega),
            show n / 0x1000 * 0x40 + (0x80 + n / 0x40 % 0x40 - 0x80) = n / 0x40 by omega]
        have third : step (some ⟨n / 0x40, 1, 0x80, 0xBF⟩) (UInt8.ofNat (0x80 + n % 0x40)) =
            ([c], none) := by
          simp only [step, resume, e2]
          rw [if_pos (by omega), if_pos (by omega),
            show n / 0x40 * 0x40 + (0x80 + n % 0x40 - 0x80) = n by omega, hc]
        simp only [List.cons_append, List.nil_append, decodeFrom, first, second, third]
      case isFalse h3 =>
        have e0 : (UInt8.ofNat (0xF0 + n / 0x40000)).toNat = 0xF0 + n / 0x40000 :=
          toNat_ofNat_small (by omega)
        have e1 : (UInt8.ofNat (0x80 + n / 0x1000 % 0x40)).toNat = 0x80 + n / 0x1000 % 0x40 :=
          toNat_ofNat_small (by omega)
        have e2 : (UInt8.ofNat (0x80 + n / 0x40 % 0x40)).toNat = 0x80 + n / 0x40 % 0x40 :=
          toNat_ofNat_small (by omega)
        have e3 : (UInt8.ofNat (0x80 + n % 0x40)).toNat = 0x80 + n % 0x40 :=
          toNat_ofNat_small (by omega)
        have first : step none (UInt8.ofNat (0xF0 + n / 0x40000)) =
            ([], some ⟨n / 0x40000, 3, if n / 0x40000 = 0 then 0x90 else 0x80,
              if n / 0x40000 = 4 then 0x8F else 0xBF⟩) := by
          simp only [step, start, lead?, e0]
          have l : 0xF0 + n / 0x40000 = 0xF4 ↔ n / 0x40000 = 4 := by omega
          rw [if_neg (by omega), if_neg (by omega), if_neg (by omega), if_pos (by omega)]
          simp [l]
        have second : step (some ⟨n / 0x40000, 3, if n / 0x40000 = 0 then 0x90 else 0x80,
              if n / 0x40000 = 4 then 0x8F else 0xBF⟩) (UInt8.ofNat (0x80 + n / 0x1000 % 0x40)) =
            ([], some ⟨n / 0x1000, 2, 0x80, 0xBF⟩) := by
          simp only [step, resume, e1]
          rw [if_pos (by split <;> split <;> omega), if_neg (by omega),
            show n / 0x40000 * 0x40 + (0x80 + n / 0x1000 % 0x40 - 0x80) = n / 0x1000 by omega]
        have third : step (some ⟨n / 0x1000, 2, 0x80, 0xBF⟩)
              (UInt8.ofNat (0x80 + n / 0x40 % 0x40)) =
            ([], some ⟨n / 0x40, 1, 0x80, 0xBF⟩) := by
          simp only [step, resume, e2]
          rw [if_pos (by omega), if_neg (by omega),
            show n / 0x1000 * 0x40 + (0x80 + n / 0x40 % 0x40 - 0x80) = n / 0x40 by omega]
        have fourth : step (some ⟨n / 0x40, 1, 0x80, 0xBF⟩) (UInt8.ofNat (0x80 + n % 0x40)) =
            ([c], none) := by
          simp only [step, resume, e3]
          rw [if_pos (by omega), if_pos (by omega),
            show n / 0x40 * 0x40 + (0x80 + n % 0x40 - 0x80) = n by omega, hc]
        simp only [List.cons_append, List.nil_append, decodeFrom, first, second, third, fourth]

theorem decodeFrom_encode_append (t : Text) (bytes : List UInt8) :
    decodeFrom none (encode t ++ bytes) = t ++ decodeFrom none bytes := by
  induction t with
  | nil => rfl
  | cons c t ih =>
    have h : encode (c :: t) = encodeChar c ++ encode t := List.flatMap_cons
    rw [h, List.append_assoc, decodeFrom_encodeChar, ih, List.cons_append]

/-- What was written is read back. -/
theorem decode_encode (t : Text) : decode (encode t) = t := by
  have h := decodeFrom_encode_append t []
  rwa [List.append_nil, decodeFrom, List.append_nil] at h

end Utf8
end UriRouting
