import Mathlib.Data.Rat.Floor
import SspOperator.Meta

/-
  JSONPath lookups of the template validator (`validation/path`).

  A rule path is written `jsonpath::<expr>`; `Path` keeps the trimmed `<expr>` and the
  JSONPath that `Path.New` parses, the template `{.spec.template<expr>}` (`Path.ofExpr`).
  The zero `Path`, which a rule without a `path` member keeps, has a nil JSONPath, and
  `Path.Find` panics on it. Evaluating a JSONPath is client-go's `jsonpath` package,
  vendored and not embedded: the validator modules take it as the parameter
  `jsonPathFind : String → VM → Except String Results`, which gets the parsed template
  and the object and returns the values found or the package's error.

  A value found is a `reflect.Value`; `Value` has one constructor per Go type that the
  conversions below tell apart (`toInt64` switches on exact types, so a named integer
  type is `other`), and a `str` constructor for every value of string kind (the type
  `string` and named string types alike, which `AsString` treats the same). Go's
  fixed-width integers are Lean's `Int64`, `UInt32`, ...; `int` and `uint` are 64 bits
  wide. A float carries its exact (finite) value as a rational.

  `resource.Quantity` is its internal representation: a scaled `int64Amount`, or an
  `inf.Dec` once promoted, in which case `AsInt64` gives up.
-/

namespace SspOperator.TemplateValidator

/-- `resource.Quantity`, by its internal representation. -/
inductive Quantity
  /-- `i`, used while `d.Dec == nil`: `value * 10^scale`. -/
  | int64Amount (value : Int64) (scale : Int)
  /-- `d.Dec`: an arbitrary-precision decimal `unscaled * 10^(-scale)`. -/
  | infDec (unscaled : Int) (scale : Int)
deriving DecidableEq

/-- `positiveScaleInt64`: `base * 10^scale`, or nothing when it overflows `int64`. -/
def positiveScaleInt64 (base : Int64) (scale : Nat) : Option Int64 :=
  let v := base.toInt * 10 ^ scale
  if Int64.minValue.toInt ≤ v ∧ v ≤ Int64.maxValue.toInt then some (Int64.ofInt v) else none

/-- `Quantity.AsInt64`. -/
def Quantity.asInt64 : Quantity → Option Int64
  | .infDec _ _ => none
  | .int64Amount value scale =>
      if scale = 0 then some value
      else if scale < 0 then none
      else positiveScaleInt64 value scale.toNat

/-- A value found by a JSONPath lookup, by its Go type. -/
inductive Value
  | int (v : Int64)
  | int32 (v : Int32)
  | int64 (v : Int64)
  | uint (v : UInt64)
  | uint32 (v : UInt32)
  | uint64 (v : UInt64)
  | float32 (v : ℚ)
  | float64 (v : ℚ)
  /-- A value of kind string, of type `string` or of a named string type. -/
  | str (s : String)
  | quantity (q : Quantity)
  | quantityPtr (q : Quantity)
  /-- A value of any other type, by the name `reflect.Type.String()` gives it. -/
  | other (typeName : String)
deriving DecidableEq

/-- `reflect.Type.String()` of the value's type. -/
def Value.typeName : Value → String
  | .int _ => "int"
  | .int32 _ => "int32"
  | .int64 _ => "int64"
  | .uint _ => "uint"
  | .uint32 _ => "uint32"
  | .uint64 _ => "uint64"
  | .float32 _ => "float32"
  | .float64 _ => "float64"
  | .str _ => "string"
  | .quantity _ => "resource.Quantity"
  | .quantityPtr _ => "*resource.Quantity"
  | .other t => t

/-- `math.Round`: the nearest integer, halves away from zero. -/
def goRound (x : ℚ) : Int :=
  if 0 ≤ x then ⌊x + 1 / 2⌋ else -⌊-x + 1 / 2⌋

/-- `int64(f)` of an integral float: exact in range; out of range Go leaves the result
    to the implementation, and on amd64 it is the minimum `int64`. -/
def floatToInt64 (i : Int) : Int64 :=
  if Int64.minValue.toInt ≤ i ∧ i ≤ Int64.maxValue.toInt then Int64.ofInt i else Int64.minValue

/-- `toInt64`: the integer types convert with Go's `int64(...)` (which wraps `uint` and
    `uint64` values of `2^63` and more), floats are rounded first. -/
def toInt64 : Value → Option Int64
  | .int v => some v
  | .int32 v => some v.toInt64
  | .int64 v => some v
  | .uint v => some v.toInt64
  | .uint32 v => some v.toUInt64.toInt64
  | .uint64 v => some v.toInt64
  | .float32 v => some (floatToInt64 (goRound v))
  | .float64 v => some (floatToInt64 (goRound v))
  | _ => none

/-- `Results`: the values found, one list per JSONPath result. -/
abbrev Results := List (List Value)

/-- `Results.Len`. -/
def Results.len (r : Results) : Nat :=
  (r.map List.length).sum

/-- `reflect.Value.String()`: the string of a value of kind string, `<T Value>` for
    any other value. -/
def Value.toGoString : Value → String
  | .str s => s
  | v => "<" ++ v.typeName ++ " Value>"

/-- `Results.AsString`: every value found, flattened; values that are not strings
    read as `<T Value>` (the `<invalid Value>` error needs an invalid `reflect.Value`,
    which a lookup does not return). -/
def Results.asString (r : Results) : Except String (List String) :=
  .ok (r.flatten.map Value.toGoString)

/-- One value of `Results.AsInt64`. -/
def Value.asInt64 (v : Value) : Except String Int64 :=
  match toInt64 v with
  | some i => .ok i
  | none =>
      match v with
      | .quantity q | .quantityPtr q =>
          match q.asInt64 with
          | some i => .ok i
          | none => .error ("mismatching type: " ++ v.typeName ++ ", not int or resource.Quantity")
      | _ => .error ("mismatching type: " ++ v.typeName ++ ", not int or resource.Quantity")

/-- `Results.AsInt64`: every value converted in order, or the first failure. -/
def Results.asInt64 (r : Results) : Except String (List Int64) :=
  r.flatten.mapM Value.asInt64

/-! ## Paths -/

def JSONPathPrefix : String := "jsonpath::"

def ErrInvalidJSONPath : String := "invalid JSONPath"

/-- A rule path: the expression `Expr()` returns, and the parsed `*jsonpath.JSONPath`, by the
    template it was parsed from (`none` is nil). -/
structure Path where
  expr : String
  path : Option String
deriving DecidableEq

/-- The path `Path.New` makes of `jsonpath::<expr>` when it parses: its JSONPath is the
    template `NewJSONPathFromString` builds. -/
def Path.ofExpr (expr : String) : Path :=
  { expr := expr, path := some ("\x7b.spec.template" ++ expr ++ "\x7d") }

/-- The JSONPath of the path is set. -/
def Path.Parsed (p : Path) : Prop :=
  p.path.isSome

instance (p : Path) : Decidable p.Parsed :=
  inferInstanceAs (Decidable (p.path.isSome = true))

section find

variable {VM : Type} (jsonPathFind : String → VM → Except String Results)

/-- `Path.Find`: `FindResults` reads the parser through the JSONPath, which panics when it is
    nil; a failed lookup is reported as `ErrInvalidJSONPath`. -/
def Path.find (p : Path) (vm : VM) : Except Fault Results := do
  let jp ← deref p.path
  match jsonPathFind jp vm with
  | .ok r => .ok r
  | .error _ => .error (.error ErrInvalidJSONPath)

theorem Path.find_noPanic {p : Path} (hp : p.Parsed) (vm : VM) :
    NoPanic (p.find jsonPathFind vm) := by
  obtain ⟨jp, hjp⟩ := Option.isSome_iff_exists.mp hp
  rw [Path.find, hjp, deref_some, except_ok_bind]
  split
  · exact NoPanic.ok _
  · exact NoPanic.error _

/-- A nil JSONPath panics whatever it is looked up on. -/
theorem Path.find_of_nil {p : Path} (hp : p.path = none) (vm : VM) :
    p.find jsonPathFind vm = .error nilDereference := by
  rw [Path.find, hp, deref_none, except_error_bind]

end find

/-- `IntOrPath`: a literal, or a path when `path` is set. -/
structure IntOrPath where
  int : Int64
  path : Option Path
deriving DecidableEq

/-- `StringOrPath`: a literal, or a path when `path` is set. -/
structure StringOrPath where
  str : String
  path : Option Path
deriving DecidableEq

end SspOperator.TemplateValidator
