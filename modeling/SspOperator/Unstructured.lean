import SspOperator.Meta

/-
  Decoded JSON as `unstructured.Unstructured` holds it (apimachinery's
  `unstructured/helpers.go`): `map[string]interface{}`, `[]interface{}`, strings,
  numbers, booleans and `nil`. A decoded map has distinct keys, so an object's fields
  are a list read with `List.lookup`.

  The accessors walk a field path through nested maps. Their errors name the path and
  the Go type found (`%T`); the value itself (`%v`) is left out of the messages.
-/

namespace SspOperator

/-- A decoded JSON value. -/
inductive JsonValue
  | null
  | bool (b : Bool)
  | number (n : Int)
  | string (s : String)
  | array (items : List JsonValue)
  | object (fields : List (String × JsonValue))

/-- `%T` of a decoded value. -/
def JsonValue.typeName : JsonValue → String
  | .null => "<nil>"
  | .bool _ => "bool"
  | .number _ => "int64"
  | .string _ => "string"
  | .array _ => "[]interface \x7b\x7d"
  | .object _ => "map[string]interface \x7b\x7d"

/-- `jsonPath`. -/
def jsonPath (fields : List String) : String :=
  "." ++ ".".intercalate fields

/-- The loop of `NestedFieldNoCopy` from the value reached so far; `seen` is the path
    walked. `some` is a found field, whose value may be `nil`. -/
def nestedFieldFrom : JsonValue → List String → List String → Except String (Option JsonValue)
  | val, [], _ => .ok (some val)
  | .null, _ :: _, _ => .ok none
  | .object m, field :: rest, seen =>
      match m.lookup field with
      | none => .ok none
      | some val => nestedFieldFrom val rest (seen ++ [field])
  | val, field :: _, seen =>
      .error (jsonPath (seen ++ [field]) ++ " accessor error: value is of the type " ++
        val.typeName ++ ", expected map[string]interface\x7b\x7d")

/-- `unstructured.NestedFieldNoCopy`. -/
def NestedFieldNoCopy (obj : List (String × JsonValue)) (fields : List String) :
    Except String (Option JsonValue) :=
  nestedFieldFrom (.object obj) fields []

/-- `unstructured.NestedSlice`. -/
def NestedSlice (obj : List (String × JsonValue)) (fields : List String) :
    Except String (Option (List JsonValue)) := do
  match ← NestedFieldNoCopy obj fields with
  | none => pure none
  | some (.array items) => pure (some items)
  | some val =>
      throw (jsonPath fields ++ " accessor error: value is of the type " ++ val.typeName ++
        ", expected []interface\x7b\x7d")

/-- `getNestedString`: `""` unless the field is a string. -/
def getNestedString (obj : List (String × JsonValue)) (fields : List String) : String :=
  match NestedFieldNoCopy obj fields with
  | .ok (some (.string s)) => s
  | _ => ""

end SspOperator
