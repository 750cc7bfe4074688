/-
# UriRouting.Template.Inspect — templates as they are shown for inspection

The text of a template names its fields, but neither the limit nor the kept matcher, which
it marks by two dots.
-/
import UriRouting.Template.Basic
import UriRouting.Text.Quoted

namespace UriRouting

set_option autoImplicit false

namespace Inspect

def braced (parts : List Text) : Text :=
  " \x7b ".toList ++ ", ".toList.intercalate parts ++ " \x7d".toList

def field (name : String) (value : Text) : Text := name.toList ++ ": ".toList ++ value

def boolean (b : Bool) : Text := (toString b).toList

def descriptor (v : Variable) : Text :=
  "Variable".toList ++ braced [
    field "kind" v.kind.label.toList,
    field "default_value" (Text.quoted v.default),
    field "required" (boolean v.required),
    field "fixed" (boolean v.fixed),
    field "encode_on_format" (boolean v.encodes),
    field "decode_on_parse" (boolean v.decodes)]

def descriptors (d : Dictionary Variable) : Text :=
  '{' :: ", ".toList.intercalate (d.entries.map fun (name, v) =>
    Text.quoted name ++ ": ".toList ++ descriptor v) ++ ['}']

def template (t : Template) : Text :=
  "Template".toList ++ braced [
    field "pattern" (Text.quoted t.pattern),
    field "mode" t.mode.label.toList,
    field "variables" (descriptors t.descriptors),
    field "default" (descriptor t.fallback),
    field "encoding" (boolean t.encoding),
    "..".toList]

end Inspect
end UriRouting
