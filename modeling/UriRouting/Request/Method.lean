/-
# UriRouting.Request.Method — the methods of requests

Methods have capital names, and are read in any case of ASCII letters. Where several are
listed they stand in the order of the constructors.
-/
import UriRouting.Text.Named

namespace UriRouting

set_option autoImplicit false

inductive Method where
  | get
  | head
  | post
  | put
  | delete
  | options
  | trace
  | patch
  deriving Repr, DecidableEq

namespace Method

def name : Method → String
  | get => "GET"
  | head => "HEAD"
  | post => "POST"
  | put => "PUT"
  | delete => "DELETE"
  | options => "OPTIONS"
  | trace => "TRACE"
  | patch => "PATCH"

def label : Method → String
  | get => "Get"
  | head => "Head"
  | post => "Post"
  | put => "Put"
  | delete => "Delete"
  | options => "Options"
  | trace => "Trace"
  | patch => "Patch"

instance : Named Method where
  noun := "method"
  values := [get, head, post, put, delete, options, trace, patch]
  name := name
  label := label
  fold t := t.map Char.toUpper
  complete a := by cases a <;> decide
  fold_name a := by cases a <;> decide
  name_injective := by decide

end Method
end UriRouting
