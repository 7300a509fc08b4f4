import Mathlib.Data.UInt
import SspOperator.TemplateValidator.Rules
import SspOperator.Lib.Binary64
import SspOperator.Lib.Loop

/-
  Validation rules as JSON (`validation/rules.go`, `validation/path/variants.go`,
  `validation/path/path.go`): `encoding/json` decoding a `[]Rule`, and encoding one.

  The model works on the JSON document, not its text: `json.Marshal` writes a document
  whose text reads back as the same document, and `ParseRules` of a text is `Unmarshal`
  of the document the text is (an empty text is no rules). A number is the exact value
  of its literal.

  Decoding an object into a `Rule` goes through its members in order. A key selects the
  field of that JSON name, else the first whose name is equal up to case; other keys are
  skipped. A value of the wrong JSON type for a field is a type error that decoding
  records (the first one is `Unmarshal`'s error) and goes on from. An error of an
  `UnmarshalJSON` method stops the decoding. `Path`, `IntOrPath` and `StringOrPath`
  decode through their `UnmarshalJSON`. A number for an `IntOrPath` is read as a double
  and rounded to an integer; anything else must be a path string.

  Encoding is field by field, with `omitempty` fields left out when empty. `Path`
  encodes as its `jsonpath::` string. `IntOrPath` and `StringOrPath` have no
  `MarshalJSON`, so they encode as objects of their Go fields, which their
  `UnmarshalJSON` does not accept back: no list with a rule that has enum values or a
  bound decodes from its own encoding (`unmarshalRules_marshalRules_ne_ok`).

  The JSONPath parser of client-go is a parameter: `jsonPathParse` gives the error of
  `jsonpath.Parse` on a template, none when it parses. A zero `Path`, the value of a rule
  without a `path` member, has the empty expression and a nil JSONPath.
-/

namespace SspOperator.TemplateValidator

/-- A JSON document; an object keeps its members in order, repeated keys included. -/
inductive Json
  | null
  | bool (b : Bool)
  | number (value : ℚ)
  | string (s : String)
  | array (items : List Json)
  | object (members : List (String × Json))

/-- The word `UnmarshalTypeError` uses for a JSON value. -/
def Json.kind : Json → String
  | .null => "null"
  | .bool _ => "bool"
  | .number _ => "number"
  | .string _ => "string"
  | .array _ => "array"
  | .object _ => "object"

/-- `UnmarshalTypeError.Error()`, for a field of a `Rule` or for a value of its own. -/
def unmarshalTypeError (value typ : String) : Option String → String
  | some field =>
      "json: cannot unmarshal " ++ value ++ " into Go struct field Rule." ++ field ++ " of type " ++ typ
  | none => "json: cannot unmarshal " ++ value ++ " into Go value of type " ++ typ

/-! ## `json.Unmarshal` into a fresh variable -/

/-- `json.Unmarshal` into a `float64`: `null` leaves the zero, a number is rounded to the
    nearest double, anything else fails. The one caller drops the error. -/
def unmarshalFloat64 : Json → Option ℚ
  | .null => some 0
  | .number q => Binary64.round q
  | _ => none

/-- `json.Unmarshal` into a `string`: `null` leaves the empty string. -/
def unmarshalString : Json → Except String String
  | .null => .ok ""
  | .string s => .ok s
  | j => .error (unmarshalTypeError j.kind "string" none)

/-! ## Paths and the variants -/

/-- `isJSONPath`. -/
def isJSONPath (s : String) : Bool :=
  HasPrefix s JSONPathPrefix

/-- `trimJSONPath`: the prefix, then one `$`. -/
def trimJSONPath (path : String) : String :=
  TrimPrefix (TrimPrefix path JSONPathPrefix) "$"

/-- `NewJSONPathFromString`. -/
def NewJSONPathFromString (path : String) : Except String String :=
  if !isJSONPath path then .error ErrInvalidJSONPath
  else .ok ("\x7b.spec.template" ++ trimJSONPath path ++ "\x7d")

section parse

variable (jsonPathParse : String → Option String)

/-- `path.New`. -/
def Path.New (expr : String) : Except String Path := do
  let pathExpr ← NewJSONPathFromString expr
  match jsonPathParse pathExpr with
  | some err => throw err
  | none => pure { expr := trimJSONPath expr, path := some pathExpr }

/-- `Path.UnmarshalJSON`. -/
def Path.unmarshalJSON (j : Json) : Except String Path := do
  let str ← unmarshalString j
  Path.New jsonPathParse str

/-- `IntOrPath.UnmarshalJSON`: a number, else a path. -/
def IntOrPath.unmarshalJSON (j : Json) : Except String IntOrPath :=
  let literal := match unmarshalFloat64 j with
    | some number => toInt64 (.float64 number)
    | none => none
  match literal with
  | some intVal => .ok { int := intVal, path := none }
  | none =>
      match Path.unmarshalJSON jsonPathParse j with
      | .ok path => .ok { int := 0, path := some path }
      | .error err => .error ("cannot unmarshall IntOrPath from JSON: " ++ err)

/-- `StringOrPath.UnmarshalJSON`: a string, which is a path when it has the prefix. -/
def StringOrPath.unmarshalJSON (j : Json) : Except String StringOrPath := do
  let str ← unmarshalString j
  if !isJSONPath str then pure { str := str, path := none }
  else
    let path ← Path.New jsonPathParse str
    pure { str := "", path := some path }

end parse

/-- `Path.MarshalJSON`. -/
def Path.marshalJSON (p : Path) : Json :=
  .string (JSONPathPrefix ++ p.expr)

/-- A `*Path`: `null` when nil. -/
def marshalPathPtr : Option Path → Json
  | none => .null
  | some p => p.marshalJSON

/-- An `IntOrPath`, by its exported Go fields. -/
def IntOrPath.marshal (v : IntOrPath) : Json :=
  .object [("Int", .number v.int.toInt), ("Path", marshalPathPtr v.path)]

/-- A `StringOrPath`, by its exported Go fields. -/
def StringOrPath.marshal (v : StringOrPath) : Json :=
  .object [("Str", .string v.str), ("Path", marshalPathPtr v.path)]

/-! ## Rules -/

/-- The string a `RuleType` decodes from. -/
def RuleType.ofString : String → RuleType
  | "integer" => .integer
  | "string" => .string
  | "enum" => .enum
  | "regex" => .regex
  | s => .unknown s

/-- The zero `Rule`, which decoding starts from. -/
def Rule.zero : Rule :=
  { rule := .unknown "", name := "", path := { expr := "", path := none }, message := "", valid := none
    justWarning := false, values := [], min := none, max := none, minLength := none
    maxLength := none, regex := "" }

/-- The fields of `Rule`, in their order. -/
inductive RuleField
  | rule | name | path | message | valid | justWarning | values
  | min | max | minLength | maxLength | regex
deriving DecidableEq

/-- The JSON name of a field, from its tag. -/
def RuleField.jsonName : RuleField → String
  | .rule => "rule"
  | .name => "name"
  | .path => "path"
  | .message => "message"
  | .valid => "valid"
  | .justWarning => "justWarning"
  | .values => "values"
  | .min => "min"
  | .max => "max"
  | .minLength => "minLength"
  | .maxLength => "maxLength"
  | .regex => "regex"

def ruleFields : List RuleField :=
  [.rule, .name, .path, .message, .valid, .justWarning, .values, .min, .max, .minLength,
    .maxLength, .regex]

/-- `foldRune` on the runes whose fold class holds an ASCII letter: ASCII letters to upper
    case, the long s to `S` and the Kelvin sign to `K`. Every other rune folds to a rune
    outside ASCII, and so matches no field name; it is left as it is. -/
def foldChar (c : Char) : Char :=
  if c.isLower then c.toUpper else if c = 'ſ' then 'S' else if c = 'K' then 'K' else c

/-- `foldName`. -/
def foldName (s : String) : List Char :=
  s.toList.map foldChar

/-- The field a key selects: the field of that name, else the first whose name folds to
    the same. -/
def ruleFieldFor (key : String) : Option RuleField :=
  (ruleFields.find? (·.jsonName = key)).or (ruleFields.find? (foldName ·.jsonName = foldName key))

section decode

variable (jsonPathParse : String → Option String)

/-- A field of string kind: `null` leaves it, a string sets it, any other value is a type
    error and leaves it. -/
def stringField (field typ : String) (j : Json) (rule : Rule) (set : String → Rule) :
    Rule × Option String :=
  match j with
  | .null => (rule, none)
  | .string s => (set s, none)
  | j => (rule, some (unmarshalTypeError j.kind typ (some field)))

/-- A `*Path` field: `null` makes it nil, anything else goes to `Path.UnmarshalJSON`. -/
def pathPtrField : Json → Except String (Option Path)
  | .null => .ok none
  | j => some <$> Path.unmarshalJSON jsonPathParse j

/-- A `*IntOrPath` field: `null` makes it nil, anything else goes to
    `IntOrPath.UnmarshalJSON`. -/
def intOrPathField : Json → Except String (Option IntOrPath)
  | .null => .ok none
  | j => some <$> IntOrPath.unmarshalJSON jsonPathParse j

/-- Decoding one member into the field it selects: the rule after it and the type error it
    records, or the error of an `UnmarshalJSON` that stops the decoding. -/
def decodeField (rule : Rule) : RuleField → Json → Except String (Rule × Option String)
  | .rule, j => .ok (stringField "rule" "validation.RuleType" j rule fun s =>
      { rule with rule := RuleType.ofString s })
  | .name, j => .ok (stringField "name" "string" j rule fun s => { rule with name := s })
  | .path, j => do
      let path ← Path.unmarshalJSON jsonPathParse j
      pure ({ rule with path := path }, none)
  | .message, j => .ok (stringField "message" "string" j rule fun s => { rule with message := s })
  | .valid, j => do
      let valid ← pathPtrField jsonPathParse j
      pure ({ rule with valid := valid }, none)
  | .justWarning, .null => .ok (rule, none)
  | .justWarning, .bool b => .ok ({ rule with justWarning := b }, none)
  | .justWarning, j => .ok (rule, some (unmarshalTypeError j.kind "bool" (some "justWarning")))
  | .values, .null => .ok ({ rule with values := [] }, none)
  | .values, .array items => do
      let values ← items.mapM (StringOrPath.unmarshalJSON jsonPathParse)
      pure ({ rule with values := values }, none)
  | .values, j =>
      .ok (rule, some (unmarshalTypeError j.kind "[]path.StringOrPath" (some "values")))
  | .min, j => do
      let min ← intOrPathField jsonPathParse j
      pure ({ rule with min := min }, none)
  | .max, j => do
      let max ← intOrPathField jsonPathParse j
      pure ({ rule with max := max }, none)
  | .minLength, j => do
      let minLength ← intOrPathField jsonPathParse j
      pure ({ rule with minLength := minLength }, none)
  | .maxLength, j => do
      let maxLength ← intOrPathField jsonPathParse j
      pure ({ rule with maxLength := maxLength }, none)
  | .regex, j => .ok (stringField "regex" "string" j rule fun s => { rule with regex := s })

/-- One member of a rule object; the first type error is the one kept. -/
def decodeRuleMember (state : Rule × Option String) (member : String × Json) :
    Except String (Rule × Option String) :=
  match ruleFieldFor member.1 with
  | none => .ok state
  | some field => do
      let (rule, typeError) ← decodeField jsonPathParse state.1 field member.2
      pure (rule, state.2.or typeError)

/-- One element of the array: an object is decoded member by member from the zero rule,
    `null` leaves the zero rule, anything else is a type error. -/
def decodeRule (saved : Option String) : Json → Except String (Rule × Option String)
  | .object members => members.foldlM (decodeRuleMember jsonPathParse) (Rule.zero, saved)
  | .null => .ok (Rule.zero, saved)
  | j => .ok (Rule.zero, saved.or (some (unmarshalTypeError j.kind "validation.Rule" none)))

/-- One step of decoding the array. -/
def decodeRulesStep (state : List Rule × Option String) (item : Json) :
    Except String (List Rule × Option String) := do
  let (rule, saved) ← decodeRule jsonPathParse state.2 item
  pure (state.1 ++ [rule], saved)

/-- `json.Unmarshal` of a document into a `[]Rule`. -/
def unmarshalRules : Json → Except String (List Rule)
  | .null => .ok []
  | .array items => do
      let (rules, saved) ← items.foldlM (decodeRulesStep jsonPathParse) ([], none)
      match saved with
      | some err => .error err
      | none => .ok rules
  | j => .error (unmarshalTypeError j.kind "[]validation.Rule" none)

end decode

/-- `json.Marshal` of a `Rule`: the fields in order, `omitempty` ones left out when empty. -/
def Rule.marshal (r : Rule) : Json :=
  .object <|
    [("rule", .string r.rule.toString), ("name", .string r.name), ("path", r.path.marshalJSON),
      ("message", .string r.message)] ++
    (r.valid.map fun valid => ("valid", valid.marshalJSON)).toList ++
    (if r.justWarning then [("justWarning", .bool true)] else []) ++
    (if r.values.isEmpty then [] else [("values", .array (r.values.map StringOrPath.marshal))]) ++
    (r.min.map fun min => ("min", min.marshal)).toList ++
    (r.max.map fun max => ("max", max.marshal)).toList ++
    (r.minLength.map fun minLength => ("minLength", minLength.marshal)).toList ++
    (r.maxLength.map fun maxLength => ("maxLength", maxLength.marshal)).toList ++
    (if r.regex = "" then [] else [("regex", .string r.regex)])

/-- `json.Marshal` of a `[]Rule` (a nil slice writes `null`, which decodes to no rules as
    the empty array does). -/
def marshalRules (rules : List Rule) : Json :=
  .array (rules.map Rule.marshal)

/-! ## Reading numbers -/

theorem goRound_intCast (z : ℤ) : goRound z = z := by
  have hfloor : ∀ w : ℤ, ⌊(w : ℚ) + 1 / 2⌋ = w := fun w => by
    rw [Int.floor_intCast_add]
    norm_num
  unfold goRound
  split_ifs
  · exact hfloor z
  · rw [← Int.cast_neg, hfloor, neg_neg]

section numbers

variable (jsonPathParse : String → Option String)

/-- A number is read as the double nearest to it, rounded to an integer as `toInt64` does;
    a number beyond the doubles is not a path either. -/
theorem IntOrPath.unmarshalJSON_number (q : ℚ) :
    IntOrPath.unmarshalJSON jsonPathParse (.number q) =
      match Binary64.round q with
      | some number => .ok { int := floatToInt64 (goRound number), path := none }
      | none => .error ("cannot unmarshall IntOrPath from JSON: " ++
          unmarshalTypeError "number" "string" none) := by
  cases hround : Binary64.round q <;>
    simp [IntOrPath.unmarshalJSON, unmarshalFloat64, hround, toInt64, Path.unmarshalJSON,
      unmarshalString, Json.kind]

/-- Integers up to `2^53` in absolute value are read exactly. -/
theorem IntOrPath.unmarshalJSON_intCast {z : ℤ} (hz : z.natAbs ≤ 2 ^ 53) :
    IntOrPath.unmarshalJSON jsonPathParse (.number z) = .ok { int := Int64.ofInt z, path := none } := by
  have hrange : Int64.minValue.toInt ≤ z ∧ z ≤ Int64.maxValue.toInt := by
    have hmin : Int64.minValue.toInt = -2 ^ 63 := by decide
    have hmax : Int64.maxValue.toInt = 2 ^ 63 - 1 := by decide
    rw [hmin, hmax]
    omega
  rw [IntOrPath.unmarshalJSON_number, Binary64.round_intCast hz]
  simp only [goRound_intCast, floatToInt64, if_pos hrange]

end numbers

/-- Neither reading is exact. A `min` of `1.5` is the integer 2 and an `IntOrPath` of
    `2^53 + 1` is `2^53`, both without an error; a `uint64` of `2^63` found at a rule path is
    read as `-2^63`. -/
theorem numbers_change_without_error (jsonPathParse : String → Option String) :
    (∀ rule, decodeField jsonPathParse rule .min (.number (3 / 2)) =
      .ok ({ rule with min := some { int := 2, path := none } }, none)) ∧
    IntOrPath.unmarshalJSON jsonPathParse (.number (2 ^ 53 + 1)) =
      .ok { int := 2 ^ 53, path := none } ∧
    Results.asInt64 [[.uint64 (2 ^ 63)]] = .ok [-2 ^ 63] := by
  have hhalf : Binary64.round (3 / 2) = some (3 / 2) := by decide +kernel
  have hhalfRound : floatToInt64 (goRound (3 / 2)) = 2 := by decide +kernel
  have hbig : Binary64.round (2 ^ 53 + 1) = some (2 ^ 53) := by decide +kernel
  have hbigRound : floatToInt64 (goRound (2 ^ 53)) = 2 ^ 53 := by decide +kernel
  refine ⟨?half, ?big, ?wrap⟩
  case half =>
    intro rule
    simp [decodeField, intOrPathField, IntOrPath.unmarshalJSON_number, hhalf, hhalfRound]
  case big =>
    rw [IntOrPath.unmarshalJSON_number, hbig]
    simp only [hbigRound]
  case wrap => decide +kernel

section roundTrip

variable {jsonPathParse : String → Option String}

theorem Path.New_eq_ok {s : String} (hs : isJSONPath s = true)
    (hparse : jsonPathParse ("\x7b.spec.template" ++ trimJSONPath s ++ "\x7d") = none) :
    Path.New jsonPathParse s = .ok (Path.ofExpr (trimJSONPath s)) := by
  simp [Path.New, NewJSONPathFromString, hs, hparse, Path.ofExpr]

/-- `IntOrPath.UnmarshalJSON` refuses what `json.Marshal` writes of an `IntOrPath`: an object
    is neither a number nor a path string. -/
theorem IntOrPath.unmarshalJSON_marshal (v : IntOrPath) :
    IntOrPath.unmarshalJSON jsonPathParse v.marshal =
      .error ("cannot unmarshall IntOrPath from JSON: " ++ unmarshalTypeError "object" "string" none) :=
  rfl

/-- `StringOrPath.UnmarshalJSON` refuses what `json.Marshal` writes of a `StringOrPath`. -/
theorem StringOrPath.unmarshalJSON_marshal (v : StringOrPath) :
    StringOrPath.unmarshalJSON jsonPathParse v.marshal =
      .error (unmarshalTypeError "object" "string" none) :=
  rfl

theorem intOrPathField_marshal (v : IntOrPath) :
    intOrPathField jsonPathParse v.marshal =
      .error ("cannot unmarshall IntOrPath from JSON: " ++ unmarshalTypeError "object" "string" none) :=
  rfl

theorem ruleFieldFor_jsonName (field : RuleField) : ruleFieldFor field.jsonName = some field := by
  cases field <;> rfl

/-- A rule with enum values or a bound, which the encoding writes through a `StringOrPath`
    or an `IntOrPath`. -/
def Rule.HasArgument (r : Rule) : Prop :=
  r.values ≠ [] ∨ r.min.isSome ∨ r.max.isSome ∨ r.minLength.isSome ∨ r.maxLength.isSome

/-- The member of a bound, as the encoding writes it, stops the decoding. -/
theorem decodeRuleMember_bound_ne_ok {field : RuleField}
    (hfield : field = .min ∨ field = .max ∨ field = .minLength ∨ field = .maxLength)
    (v : IntOrPath) (state state' : Rule × Option String) :
    decodeRuleMember jsonPathParse state (field.jsonName, v.marshal) ≠ .ok state' := by
  rcases hfield with rfl | rfl | rfl | rfl <;>
    simp [decodeRuleMember, ruleFieldFor_jsonName, decodeField, intOrPathField_marshal]

/-- The member of non-empty enum values, as the encoding writes it, stops the decoding at
    its first value. -/
theorem decodeRuleMember_values_ne_ok {values : List StringOrPath} (hvalues : values ≠ [])
    (state state' : Rule × Option String) :
    decodeRuleMember jsonPathParse state
      (RuleField.values.jsonName, .array (values.map StringOrPath.marshal)) ≠ .ok state' := by
  obtain ⟨v, rest, rfl⟩ := List.exists_cons_of_ne_nil hvalues
  simp [decodeRuleMember, ruleFieldFor_jsonName, decodeField, StringOrPath.unmarshalJSON_marshal]

/-- A rule with an argument does not decode back from its encoding. -/
theorem decodeRule_marshal_ne_ok {r : Rule} (h : r.HasArgument) (saved : Option String)
    (result : Rule × Option String) : decodeRule jsonPathParse saved r.marshal ≠ .ok result := by
  -- the member of the argument is one of the encoded members, and no state gets past it
  obtain ⟨member, hmem, hfail⟩ : ∃ member ∈ (match r.marshal with
        | .object members => members
        | _ => []),
      ∀ state state', decodeRuleMember jsonPathParse state member ≠ .ok state' := by
    rcases h with hvalues | hmin | hmax | hminLength | hmaxLength
    · exact ⟨_, by simp [Rule.marshal, hvalues, RuleField.jsonName],
        decodeRuleMember_values_ne_ok hvalues⟩
    · obtain ⟨v, hv⟩ := Option.isSome_iff_exists.mp hmin
      exact ⟨(RuleField.min.jsonName, v.marshal), by simp [Rule.marshal, hv, RuleField.jsonName],
        decodeRuleMember_bound_ne_ok (Or.inl rfl) v⟩
    · obtain ⟨v, hv⟩ := Option.isSome_iff_exists.mp hmax
      exact ⟨(RuleField.max.jsonName, v.marshal), by simp [Rule.marshal, hv, RuleField.jsonName],
        decodeRuleMember_bound_ne_ok (Or.inr (Or.inl rfl)) v⟩
    · obtain ⟨v, hv⟩ := Option.isSome_iff_exists.mp hminLength
      exact ⟨(RuleField.minLength.jsonName, v.marshal),
        by simp [Rule.marshal, hv, RuleField.jsonName],
        decodeRuleMember_bound_ne_ok (Or.inr (Or.inr (Or.inl rfl))) v⟩
    · obtain ⟨v, hv⟩ := Option.isSome_iff_exists.mp hmaxLength
      exact ⟨(RuleField.maxLength.jsonName, v.marshal),
        by simp [Rule.marshal, hv, RuleField.jsonName],
        decodeRuleMember_bound_ne_ok (Or.inr (Or.inr (Or.inr rfl))) v⟩
  exact Loop.foldlM_ne_ok_of_mem _ hfail _ _ result hmem

/-- The encoding of a list of rules does not decode back as soon as one rule has an
    argument. -/
theorem unmarshalRules_marshalRules_ne_ok {rules : List Rule} (h : ∃ r ∈ rules, r.HasArgument)
    (result : List Rule) : unmarshalRules jsonPathParse (marshalRules rules) ≠ .ok result := by
  obtain ⟨r, hr, harg⟩ := h
  have hfail : ∀ state state', decodeRulesStep jsonPathParse state r.marshal ≠ .ok state' := by
    intro state state' hstep
    simp only [decodeRulesStep, except_bind_eq_ok] at hstep
    obtain ⟨decoded, hdecoded, _⟩ := hstep
    exact decodeRule_marshal_ne_ok harg state.2 decoded hdecoded
  intro hrules
  simp only [unmarshalRules, marshalRules, except_bind_eq_ok] at hrules
  obtain ⟨state, hloop, _⟩ := hrules
  exact Loop.foldlM_ne_ok_of_mem _ hfail _ _ state (List.mem_map_of_mem hr) hloop

/-- A rule of a template bounding the number of CPU cores. -/
def coresRuleDoc : Json :=
  .array [.object [("rule", .string "integer"), ("name", .string "core-limits"),
    ("path", .string "jsonpath::.spec.domain.cpu.cores"),
    ("message", .string "cpu cores must be limited"), ("min", .number 1), ("max", .number 4)]]

/-- The rule `coresRuleDoc` decodes to. -/
def coresRule : Rule :=
  { Rule.zero with
    rule := .integer, name := "core-limits", path := Path.ofExpr ".spec.domain.cpu.cores"
    message := "cpu cores must be limited"
    min := some { int := 1, path := none }, max := some { int := 4, path := none } }

/-- The rule decodes, but its encoding does not decode back: the encoded bound is an object,
    which `IntOrPath.UnmarshalJSON` refuses. -/
theorem bounded_rule_does_not_survive_marshalling
    (hparse : jsonPathParse "\x7b.spec.template.spec.domain.cpu.cores\x7d" = none) :
    unmarshalRules jsonPathParse coresRuleDoc = .ok [coresRule] ∧
    unmarshalRules jsonPathParse (marshalRules [coresRule]) =
      .error ("cannot unmarshall IntOrPath from JSON: " ++ unmarshalTypeError "object" "string" none) := by
  have htrim : trimJSONPath "jsonpath::.spec.domain.cpu.cores" = ".spec.domain.cpu.cores" := by
    decide
  have hpath : Path.New jsonPathParse "jsonpath::.spec.domain.cpu.cores" =
      .ok (Path.ofExpr ".spec.domain.cpu.cores") := by
    rw [← htrim]
    exact Path.New_eq_ok (by decide) (by rw [htrim]; exact hparse)
  have hone : IntOrPath.unmarshalJSON jsonPathParse (.number 1) = .ok { int := 1, path := none } := by
    simpa using IntOrPath.unmarshalJSON_intCast jsonPathParse (show (1 : ℤ).natAbs ≤ 2 ^ 53 by decide)
  have hfour : IntOrPath.unmarshalJSON jsonPathParse (.number 4) = .ok { int := 4, path := none } := by
    simpa using IntOrPath.unmarshalJSON_intCast jsonPathParse (show (4 : ℤ).natAbs ≤ 2 ^ 53 by decide)
  constructor
  · simp [unmarshalRules, coresRuleDoc, decodeRulesStep, decodeRule, decodeRuleMember, ruleFieldFor,
      ruleFields, RuleField.jsonName, decodeField, stringField, Path.unmarshalJSON, unmarshalString,
      intOrPathField, hpath, hone, hfour]
    rfl
  · simp [unmarshalRules, marshalRules, coresRule, Rule.marshal, decodeRulesStep, decodeRule,
      decodeRuleMember, ruleFieldFor, ruleFields, RuleField.jsonName, decodeField, stringField,
      Path.unmarshalJSON, Path.marshalJSON, unmarshalString, JSONPathPrefix, hpath, Rule.zero,
      Path.ofExpr, intOrPathField_marshal]

theorem cores_rule_does_not_survive_marshalling :
    unmarshalRules (fun _ => none) coresRuleDoc = .ok [coresRule] ∧
    unmarshalRules (fun _ => none) (marshalRules [coresRule]) =
      .error ("cannot unmarshall IntOrPath from JSON: " ++ unmarshalTypeError "object" "string" none) :=
  @bounded_rule_does_not_survive_marshalling (fun _ => none) rfl

theorem cores_rule_list_does_not_decode_back :
    (∃ r ∈ [coresRule], r.HasArgument) ∧
      unmarshalRules (fun _ => none) (marshalRules [coresRule]) ≠ .ok [coresRule] := by
  have harg : ∃ r ∈ [coresRule], r.HasArgument :=
    ⟨coresRule, List.mem_singleton_self _, Or.inr (Or.inl rfl)⟩
  exact ⟨harg, unmarshalRules_marshalRules_ne_ok harg [coresRule]⟩

end roundTrip

end SspOperator.TemplateValidator
