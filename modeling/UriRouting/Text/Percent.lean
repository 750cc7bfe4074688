/-
# UriRouting.Text.Percent — percent-encoding

`encode keep` leaves the kept characters and writes every octet of the others as `%` and
two hexadecimal digits, capitals. `decode` turns every `%` with two digits of either case
into its octet, leaves any other `%` as it is, and reads the octets as UTF-8. Which
characters a part of a URI keeps is one of the three sets of `Safe`. Decoding undoes any
encoding that does not keep the percent sign (`decode_encode_of_keep`), and none of the three
sets does (`Safe.keeps_percent`).
-/
import UriRouting.Text.Utf8

namespace UriRouting

set_option autoImplicit false

namespace Percent

def hexDigit (n : Nat) : Char := Char.ofNat (if n < 10 then 0x30 + n else 0x37 + n)

def hexValue? (c : Char) : Option Nat :=
  if '0' ≤ c ∧ c ≤ '9' then some (c.toNat - 0x30)
  else if 'A' ≤ c ∧ c ≤ 'F' then some (c.toNat - 0x37)
  else if 'a' ≤ c ∧ c ≤ 'f' then some (c.toNat - 0x57)
  else none

def isHexDigit (c : Char) : Bool := (hexValue? c).isSome

def encodeOctet (b : UInt8) : Text := ['%', hexDigit (b.toNat / 16), hexDigit (b.toNat % 16)]

/-- Writes a text with the characters of `keep` as they are and the octets of all others
encoded. -/
def encode (keep : Char → Bool) (t : Text) : Text :=
  t.flatMap fun c => if keep c then [c] else (Utf8.encodeChar c).flatMap encodeOctet

/-- The octet of two hexadecimal digits. -/
def octet? (high low : Char) : Option UInt8 :=
  match hexValue? high, hexValue? low with
  | some h, some l => some (.ofNat (16 * h + l))
  | _, _ => none

/-- The octets that an encoded text stands for. -/
def octets : Text → List UInt8
  | [] => []
  | [c] => Utf8.encodeChar c
  | [c, d] => Utf8.encodeChar c ++ Utf8.encodeChar d
  | c :: high :: low :: t =>
    match if c = '%' then octet? high low else none with
    | some b => b :: octets t
    | none => Utf8.encodeChar c ++ octets (high :: low :: t)

def decode (t : Text) : Text := Utf8.decode (octets t)

/-- The parts of a URI that differ in what may stand there as it is: a single component, a
path with its slashes, and what follows a question mark or a number sign. -/
inductive Safe where
  | component
  | path
  | query
  deriving Repr, DecidableEq

def Safe.keeps : Safe → Char → Bool
  | .component, c => Text.isUnreserved c
  | .path, c => Text.isUnreserved c || c == '/'
  | .query, c => Text.isUnreserved c || c == '/' || c == '?'

theorem hexValue?_hexDigit {n : Nat} (h : n < 16) : hexValue? (hexDigit n) = some n := by
  have all : ∀ n < 16, hexValue? (hexDigit n) = some n := by decide
  exact all n h

theorem octets_encodeOctet_append (b : UInt8) (t : Text) :
    octets (encodeOctet b ++ t) = b :: octets t := by
  have bound : b.toNat < 256 := b.toNat_lt
  have high := hexValue?_hexDigit (n := b.toNat / 16) (by omega)
  have low := hexValue?_hexDigit (n := b.toNat % 16) (by omega)
  have back : UInt8.ofNat (16 * (b.toNat / 16) + b.toNat % 16) = b := by
    rw [Nat.div_add_mod]
    simp
  simp only [encodeOctet, List.cons_append, List.nil_append, octets, octet?, high, low, back,
    if_true]

theorem octets_cons {c : Char} (h : c ≠ '%') (t : Text) :
    octets (c :: t) = Utf8.encodeChar c ++ octets t := by
  match t with
  | [] => simp [octets]
  | [_] => rfl
  | _ :: _ :: _ => simp only [octets, if_neg h]

theorem octets_encodeOctets_append (bytes : List UInt8) (t : Text) :
    octets (bytes.flatMap encodeOctet ++ t) = bytes ++ octets t := by
  induction bytes with
  | nil => rfl
  | cons b bytes ih =>
    rw [List.flatMap_cons, List.append_assoc, octets_encodeOctet_append, ih, List.cons_append]

/-- An encoded text stands for the octets of the text, unless the percent sign is kept. -/
theorem octets_encode {keep : Char → Bool} (percent : keep '%' = false) (t : Text) :
    octets (encode keep t) = Utf8.encode t := by
  induction t with
  | nil => rfl
  | cons c t ih =>
    have step : encode keep (c :: t) =
        (if keep c then [c] else (Utf8.encodeChar c).flatMap encodeOctet) ++ encode keep t :=
      List.flatMap_cons
    rw [step, Utf8.encode, List.flatMap_cons]
    split
    case isTrue kept =>
      have ne : c ≠ '%' := fun e => by simp [e, percent] at kept
      rw [List.cons_append, List.nil_append, octets_cons ne, ih]
      rfl
    case isFalse _ =>
      rw [octets_encodeOctets_append, ih]
      rfl

/-- Nothing is lost by encoding, unless the percent sign is kept. -/
theorem decode_encode_of_keep {keep : Char → Bool} (percent : keep '%' = false) (t : Text) :
    decode (encode keep t) = t := by
  rw [decode, octets_encode percent, Utf8.decode_encode]

theorem Safe.keeps_percent (s : Safe) : s.keeps '%' = false := by
  cases s <;> decide

end Percent
end UriRouting
