/-
# UriRouting.Document.Basic — documents, and why one is not what was asked for

A `Document` is data of a common format: scalars, sequences and maps. What is decoded from
it (`Decode`) either succeeds or says what is wrong, the first thing that is. Maps have
their keys in order and each once (`Document.ofEntries`), so which thing is first does not
depend on how the document was written.
-/
import UriRouting.Decimal.Shortest
import UriRouting.Text.Dictionary
import UriRouting.Text.Named
import UriRouting.Text.Quoted

namespace UriRouting

set_option autoImplicit false

inductive Document where
  | null
  | boolean (value : Bool)
  /-- A whole number of at most sixty-four bits, with or without a sign. -/
  | integer (value : Int)
  | real (value : Float)
  | string (text : Text)
  | sequence (items : List Document)
  | map (entries : List (Text × Document))

namespace Document

/-- The map of some entries; a later one takes the place of an earlier one of its key. -/
def ofEntries (entries : List (Text × Document)) : Document :=
  .map (Dictionary.ofList entries).entries

/-- Numbers that are not integers always have a point or an exponent, which is written for
those from ten to the sixteenth on and for those below a hundred thousandth; half way the
even decimal is taken. -/
def realStyle : Decimal.Style where
  tie := .toEven
  wholePoint := true
  plain := some (-5, 15)

/-- What a document is, as a complaint about it says. -/
def describe : Document → String
  | .null => "null"
  | .boolean value => "boolean `" ++ toString value ++ "`"
  | .integer value => "integer `" ++ toString value ++ "`"
  | .real value =>
    "floating point `" ++ String.ofList (Decimal.write realStyle .double value.toBits.toNat) ++ "`"
  | .string text => "string " ++ String.ofList (Text.quoted text)
  | .sequence _ => "sequence"
  | .map _ => "map"

end Document

/-- What a document was asked to be. -/
inductive Expectation where
  | alternative
  | nothing
  | record (name : String)
  | text
  | boolean
  | singlePrecision
  | size
  | map
  deriving Repr, DecidableEq

def Expectation.describe : Expectation → String
  | .alternative => "string or map"
  | .nothing => "unit"
  | .record name => "struct " ++ name
  | .text => "a string"
  | .boolean => "a boolean"
  | .singlePrecision => "f32"
  | .size => "usize"
  | .map => "a map"

inductive DecodeError where
  | unknownName (given : Text) (names : List String)
  | invalidType (found : Document) (expected : Expectation)
  /-- A number of the right type that is out of its bounds. -/
  | invalidValue (found : Document) (expected : Expectation)
  /-- An alternative was given by a map of no keys or of several. -/
  | notOneKey
  /-- A record was given by a sequence of more items than it has fields. -/
  | tooManyItems (count : Nat)

def DecodeError.message : DecodeError → String
  | .unknownName given names =>
    "unknown variant `" ++ String.ofList given ++ "`, expected one of " ++
      ", ".intercalate (names.map fun name => "`" ++ name ++ "`")
  | .invalidType found expected =>
    "invalid type: " ++ found.describe ++ ", expected " ++ expected.describe
  | .invalidValue found expected =>
    "invalid value: " ++ found.describe ++ ", expected " ++ expected.describe
  | .notOneKey => "invalid value: map, expected map with a single key"
  | .tooManyItems count =>
    "invalid length " ++ toString count ++ ", expected fewer elements in array"

abbrev Decode (α : Type) := Document → Except DecodeError α

namespace Decode

def text : Decode Text
  | .string t => .ok t
  | d => .error (.invalidType d .text)

def boolean : Decode Bool
  | .boolean b => .ok b
  | d => .error (.invalidType d .boolean)

/-- A number of either kind, rounded once. -/
def singlePrecision : Decode Float32
  | .integer n =>
    .ok (if n < 0 then (Int64.ofInt n).toFloat32 else (UInt64.ofNat n.toNat).toFloat32)
  | .real x => .ok x.toFloat32
  | d => .error (.invalidType d .singlePrecision)

/-- A number of things: not below zero, which is the one bound that a document can pass. -/
def size : Decode Nat
  | .integer n =>
    if n < 0 then .error (.invalidValue (.integer n) .size) else .ok n.toNat
  | d => .error (.invalidType d .size)

def name {α : Type} [DecidableEq α] [Named α] (t : Text) : Except DecodeError α :=
  match (Named.ofName? t : Option α) with
  | some a => .ok a
  | none => .error (.unknownName t ((Named.values : List α).map Named.name))

/-- One of the values of a type: its name, or a map of its name to nothing. -/
def named {α : Type} [DecidableEq α] [Named α] : Decode α
  | .string t => name t
  | .map [(key, value)] => do
    let a ← name key
    match value with
    | .null => .ok a
    | value => .error (.invalidType value .nothing)
  | .map _ => .error .notOneKey
  | d => .error (.invalidType d .alternative)

/-- A field of a record: its name, and how a document changes a record in that field. -/
structure Field (α : Type) where
  name : String
  decode : Document → α → Except DecodeError α

def Field.of {α β : Type} (name : String) (decode : Decode β) (set : β → α → α) : Field α where
  name := name
  decode d a := do
    let value ← decode d
    .ok (set value a)

/-- The entries of a map over a record. Names that no field has are passed over. -/
def entries {α : Type} (fields : List (Field α)) :
    List (Text × Document) → α → Except DecodeError α
  | [], a => .ok a
  | (key, d) :: later, a =>
    match fields.find? fun field => field.name.toList == key with
    | some field => do
      let a ← field.decode d a
      entries fields later a
    | none => entries fields later a

/-- The items of a sequence over a record, field by field, as far as both go. -/
def items {α : Type} : List (Field α) → List Document → α → Except DecodeError α
  | field :: fields, d :: later, a => do
    let a ← field.decode d a
    items fields later a
  | _, _, a => .ok a

/-- A record by its fields: some of them by name, or the first of them in order. The others
are as in `default`. -/
def record {α : Type} (name : String) (fields : List (Field α)) (default : α) : Decode α
  | .map found => entries fields found default
  | .sequence found => do
    let a ← items fields found default
    if found.length ≤ fields.length then .ok a else .error (.tooManyItems found.length)
  | d => .error (.invalidType d (.record name))

end Decode
end UriRouting
