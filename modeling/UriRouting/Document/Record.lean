/-
# UriRouting.Document.Record — what of the library is given by documents

Descriptors of variables, policies of routers and handlers by method can be decoded from
documents. A policy is not validated by that.
-/
import UriRouting.Document.Basic
import UriRouting.Routing.Policy
import UriRouting.Request.Handlers
import UriRouting.Variable.Basic

namespace UriRouting

set_option autoImplicit false

def Variable.fields : List (Decode.Field Variable) := [
  .of "kind" Decode.named fun kind v => { v with kind },
  .of "default_value" Decode.text fun default v => { v with default },
  .of "required" Decode.boolean fun required v => { v with required },
  .of "fixed" Decode.boolean fun fixed v => { v with fixed },
  .of "encode_on_format" Decode.boolean fun encodes v => { v with encodes },
  .of "decode_on_parse" Decode.boolean fun decodes v => { v with decodes }]

def Variable.decode : Decode Variable := Decode.record "Variable" Variable.fields {}

def Policy.fields : List (Decode.Field (Policy Float32)) := [
  .of "routing" Decode.named fun preference p => { p with preference },
  .of "required_score" Decode.singlePrecision fun requiredScore p => { p with requiredScore }]

def Policy.decode : Decode (Policy Float32) :=
  Decode.record "Config" Policy.fields Policy.default

/-- The handlers of a map from methods, entry by entry. -/
def Handlers.decodeEntries {η : Type} (handler : Decode η) :
    List (Text × Document) → Handlers η → Except DecodeError (Handlers η)
  | [], r => .ok r
  | (key, d) :: later, r => do
    let method ← Decode.name key
    let h ← handler d
    decodeEntries handler later (r.insert method h)

def Handlers.decode {η : Type} (handler : Decode η) : Decode (Handlers η)
  | .map entries => Handlers.decodeEntries handler entries .empty
  | d => .error (.invalidType d .map)

end UriRouting
