import SspOperator.TemplateValidator.Path

/-
  Validation rules and their specialisation (`validation/rules.go`,
  `validation/specialized.go`).

  A `Rule` is specialised against the VM and the reference VM into a `RuleApplier`:
  its bounds or enum values are resolved (a bound given as a path is looked up on the
  VM, and on the reference VM when the lookup on the VM fails; it must yield exactly one
  value). Applying it looks up the values at the rule's `path` the same way, fails when
  there are none, and reports whether all of them satisfy the rule. The applier keeps
  the values and the verdict, from which `String()` builds the application text.

  The lookups end in `Except Fault`: a Go error is caught where the code checks `err`, a
  panic of `Path.Find` on a nil JSONPath goes up through all of them. Over rules whose
  paths are all parsed (`Rule.PathsParsed`) none of them panics.

  Go's regular expressions are not embedded: `regexpCompile` gives the error of
  `regexp.Compile` on a pattern (none when it compiles) and `matchString` the result of
  `MatchString` of a compiled pattern on a string. `%s` of a compiled pattern prints
  its source.
-/

namespace SspOperator.TemplateValidator

/-- `RuleType`: the four rule kinds, and `unknown s` for any other string `s`. -/
inductive RuleType
  | integer
  | string
  | enum
  | regex
  | unknown (s : String)
deriving DecidableEq

/-- The string a `RuleType` is. -/
def RuleType.toString : RuleType → String
  | .integer => "integer"
  | .string => "string"
  | .enum => "enum"
  | .regex => "regex"
  | .unknown s => s

/-- `RuleType.IsValid`. -/
def RuleType.isValid : RuleType → Bool
  | .unknown _ => false
  | _ => true

/-- A validation rule, as `ParseRules` decodes it. -/
structure Rule where
  rule : RuleType
  name : String
  path : Path
  message : String
  valid : Option Path
  justWarning : Bool
  values : List StringOrPath
  min : Option IntOrPath
  max : Option IntOrPath
  minLength : Option IntOrPath
  maxLength : Option IntOrPath
  regex : String
deriving DecidableEq

def ErrNoValuesFound : String := "no values were found"

/-- `Range`: optional lower and upper bounds. -/
structure Range where
  minSet : Bool
  min : Int64
  maxSet : Bool
  max : Int64
deriving DecidableEq

/-- The zero `Range`: no bound set. -/
def Range.zero : Range := ⟨false, 0, false, 0⟩

/-- `Range.Includes`. -/
def Range.includes (r : Range) (v : Int64) : Bool :=
  !(r.minSet && v < r.min) && !(r.maxSet && v > r.max)

/-- A specialised rule, with the values of its last application and their verdict. -/
inductive RuleApplier
  | intRule (ref : Rule) (value : Range) (current : List Int64) (satisfied : Bool)
  | stringRule (ref : Rule) (length : Range) (current : List String) (satisfied : Bool)
  | enumRule (ref : Rule) (values : List String) (current : List String) (satisfied : Bool)
  | regexRule (ref : Rule) (regex : String) (current : List String) (satisfied : Bool)

section lookup

variable {VM : Type} (jsonPathFind : String → VM → Except String Results)

/-- `findPathOnVmOrRef`: the lookup on the VM, else the lookup on the reference VM. The
    error of the first lookup is caught; a panic is not. -/
def findPathOnVmOrRef (path : Path) (vm ref : VM) : Except Fault Results :=
  match path.find jsonPathFind vm with
  | .ok res => .ok res
  | .error (.error _) => path.find jsonPathFind ref
  | .error (.panic msg) => .error (.panic msg)

def decodeInts (path : Path) (vm ref : VM) : Except Fault (List Int64) := do
  let res ← findPathOnVmOrRef jsonPathFind path vm ref
  res.asInt64.mapError Fault.error

/-- `decodeInt`: the literal, or the single value the path yields. -/
def decodeInt (ip : IntOrPath) (vm ref : VM) : Except Fault Int64 :=
  match ip.path with
  | none => .ok ip.int
  | some p => do
      let v ← decodeInts jsonPathFind p vm ref
      match v with
      | [x] => .ok x
      | _ => .error (.error ("expected one value, found " ++ toString v.length))

def decodeStrings (path : Path) (vm ref : VM) : Except Fault (List String) := do
  let res ← findPathOnVmOrRef jsonPathFind path vm ref
  res.asString.mapError Fault.error

/-- `decodeString`: the literal, or the single value the path yields. -/
def decodeString (sp : StringOrPath) (vm ref : VM) : Except Fault String :=
  match sp.path with
  | none => .ok sp.str
  | some p => do
      let vals ← decodeStrings jsonPathFind p vm ref
      match vals with
      | [x] => .ok x
      | _ => .error (.error ("expected one value, found " ++ toString vals.length))

/-- `Range.Decode`: the lower bound, then the upper one; the first failure stops it. -/
def Range.decode (min max : Option IntOrPath) (vm ref : VM) : Except Fault Range := do
  let r ← match min with
    | none => pure Range.zero
    | some m => do
        let v ← decodeInt jsonPathFind m vm ref
        pure { Range.zero with min := v, minSet := true }
  match max with
  | none => pure r
  | some m => do
      let v ← decodeInt jsonPathFind m vm ref
      pure { r with max := v, maxSet := true }

def newIntRule (r : Rule) (vm ref : VM) : Except Fault RuleApplier := do
  let value ← Range.decode jsonPathFind r.min r.max vm ref
  pure (.intRule r value [] false)

def newStringRule (r : Rule) (vm ref : VM) : Except Fault RuleApplier := do
  let length ← Range.decode jsonPathFind r.minLength r.maxLength vm ref
  pure (.stringRule r length [] false)

def newEnumRule (r : Rule) (vm ref : VM) : Except Fault RuleApplier := do
  let values ← r.values.mapM (fun v => decodeString jsonPathFind v vm ref)
  pure (.enumRule r values [] false)

variable (regexpCompile : String → Option String) (matchString : String → String → Bool)

def newRegexRule (r : Rule) : Except Fault RuleApplier :=
  match regexpCompile r.regex with
  | some err => .error (.error err)
  | none => .ok (.regexRule r r.regex [] false)

/-- `Rule.Specialize`. -/
def Rule.specialize (r : Rule) (vm ref : VM) : Except Fault RuleApplier :=
  match r.rule with
  | .integer => newIntRule jsonPathFind r vm ref
  | .string => newStringRule jsonPathFind r vm ref
  | .enum => newEnumRule jsonPathFind r vm ref
  | .regex => newRegexRule regexpCompile r
  | .unknown s => .error (.error ("usupported rule: " ++ s))

/-- `containsOnly`: every value is one of the expected ones. -/
def containsOnly (data expected : List String) : Bool :=
  data.all fun v => expected.contains v

/-- `Apply` of each applier: the values at the rule's path (none is an error), and
    whether they all satisfy the rule; the applier records both. -/
def RuleApplier.apply : RuleApplier → VM → VM → Except Fault (Bool × RuleApplier)
  | .intRule ref value _ _, vm, refVm => do
      let vals ← decodeInts jsonPathFind ref.path vm refVm
      if vals.length = 0 then .error (.error ErrNoValuesFound)
      else
        let satisfied := vals.all value.includes
        pure (satisfied, .intRule ref value vals satisfied)
  | .stringRule ref length _ _, vm, refVm => do
      let vals ← decodeStrings jsonPathFind ref.path vm refVm
      if vals.length = 0 then .error (.error ErrNoValuesFound)
      else
        let satisfied := vals.all fun val => length.includes (Int64.ofNat val.utf8ByteSize)
        pure (satisfied, .stringRule ref length vals satisfied)
  | .enumRule ref values _ _, vm, refVm => do
      let vals ← decodeStrings jsonPathFind ref.path vm refVm
      if vals.length = 0 then .error (.error ErrNoValuesFound)
      else
        let satisfied := containsOnly vals values
        pure (satisfied, .enumRule ref values vals satisfied)
  | .regexRule ref regex _ _, vm, refVm => do
      let vals ← decodeStrings jsonPathFind ref.path vm refVm
      if vals.length = 0 then .error (.error ErrNoValuesFound)
      else
        let satisfied := vals.all fun val => matchString regex val
        pure (satisfied, .regexRule ref regex vals satisfied)

end lookup

/-- `%v` of a `[]int64`. -/
def fmtInt64s (vs : List Int64) : String :=
  "[" ++ " ".intercalate (vs.map toString) ++ "]"

/-- A bound as `String()` prints it: the number, or `N/A` when unset. -/
def Range.boundText (set : Bool) (v : Int64) : String :=
  if set then toString v else "N/A"

/-- `String()` of each applier: the application text. -/
def RuleApplier.toString : RuleApplier → String
  | .intRule _ value current satisfied =>
      let lowerBound := Range.boundText value.minSet value.min
      let upperBound := Range.boundText value.maxSet value.max
      if satisfied then
        "All values " ++ fmtInt64s current ++ " are in interval [" ++ lowerBound ++ ", " ++
          upperBound ++ "]"
      else
        ", ".intercalate <| current.map fun v =>
          (if value.minSet && v < value.min then
            "value " ++ ToString.toString v ++ " is lower than minimum [" ++ lowerBound ++ "]"
          else "") ++
          (if value.maxSet && v > value.max then
            "value " ++ ToString.toString v ++ " is higher than maximum [" ++ upperBound ++ "]"
          else "")
  | .stringRule _ length _ satisfied =>
      let lowerBound := Range.boundText length.minSet length.min
      let upperBound := Range.boundText length.maxSet length.max
      if satisfied then
        "Lengts of all strings are in interval [" ++ lowerBound ++ ", " ++ upperBound ++ "]"
      else
        "Lengths of some strings are not in interval [" ++ lowerBound ++ ", " ++ upperBound ++ "]"
  | .enumRule _ values current satisfied =>
      if satisfied then
        "All [" ++ ", ".intercalate current ++ "] are in [" ++ ", ".intercalate values ++ "]"
      else
        "Some of [" ++ ", ".intercalate current ++ "] are not in [" ++ ", ".intercalate values ++ "]"
  | .regexRule _ regex current satisfied =>
      if satisfied then "All [" ++ ", ".intercalate current ++ "] match " ++ regex
      else "Some of [" ++ ", ".intercalate current ++ "] do not match " ++ regex

section applicable

variable {VM : Type} (jsonPathFind : String → VM → Except String Results)

/-- `Rule.IsAppliableOn`: no `valid` path, or one that finds at least one value; an error of
    the lookup makes the rule not applicable. -/
def Rule.isAppliableOn (r : Rule) (vm : VM) : Except Fault Bool :=
  match r.valid with
  | none => .ok true
  | some v =>
      match v.find jsonPathFind vm with
      | .error (.error _) => .ok false
      | .error (.panic msg) => .error (.panic msg)
      | .ok results => .ok (decide (results.len > 0))

end applicable

/-! ## Rules whose paths are parsed -/

/-- The rule an applier was specialised from. -/
def RuleApplier.ref : RuleApplier → Rule
  | .intRule ref .. | .stringRule ref .. | .enumRule ref .. | .regexRule ref .. => ref

/-- A bound whose path, if it has one, is parsed. -/
def IntOrPath.Parsed (ip : IntOrPath) : Prop :=
  ∀ p ∈ ip.path, p.Parsed

/-- An enum value whose path, if it has one, is parsed. -/
def StringOrPath.Parsed (sp : StringOrPath) : Prop :=
  ∀ p ∈ sp.path, p.Parsed

/-- Every path of the rule has its JSONPath. `ParseRules` parses every path it decodes; only
    the `path` of a rule without a `path` member is the zero `Path`. -/
def Rule.PathsParsed (r : Rule) : Prop :=
  r.path.Parsed ∧ (∀ v ∈ r.valid, v.Parsed) ∧ (∀ v ∈ r.values, v.Parsed) ∧
    ∀ b ∈ [r.min, r.max, r.minLength, r.maxLength], ∀ ip ∈ b, ip.Parsed

section noPanic

variable {VM : Type} (jsonPathFind : String → VM → Except String Results)
  (regexpCompile : String → Option String) (matchString : String → String → Bool)

theorem findPathOnVmOrRef_noPanic {p : Path} (hp : p.Parsed) (vm ref : VM) :
    NoPanic (findPathOnVmOrRef jsonPathFind p vm ref) := by
  unfold findPathOnVmOrRef
  rcases (p.find_noPanic jsonPathFind hp vm).cases with ⟨res, h⟩ | ⟨e, h⟩
  · rw [h]
    exact NoPanic.ok res
  · -- the error on the VM sends the lookup to the reference VM
    rw [h]
    exact p.find_noPanic jsonPathFind hp ref

theorem decodeInts_noPanic {p : Path} (hp : p.Parsed) (vm ref : VM) :
    NoPanic (decodeInts jsonPathFind p vm ref) :=
  (findPathOnVmOrRef_noPanic jsonPathFind hp vm ref).bind fun _ _ => NoPanic.mapError _

theorem decodeStrings_noPanic {p : Path} (hp : p.Parsed) (vm ref : VM) :
    NoPanic (decodeStrings jsonPathFind p vm ref) :=
  (findPathOnVmOrRef_noPanic jsonPathFind hp vm ref).bind fun _ _ => NoPanic.mapError _

theorem decodeInt_noPanic {ip : IntOrPath} (h : ip.Parsed) (vm ref : VM) :
    NoPanic (decodeInt jsonPathFind ip vm ref) := by
  unfold decodeInt
  cases hp : ip.path with
  | none => exact NoPanic.ok _
  | some p =>
      refine (decodeInts_noPanic jsonPathFind (h p hp) vm ref).bind fun v _ => ?_
      split
      · exact NoPanic.ok _
      · exact NoPanic.error _

theorem decodeString_noPanic {sp : StringOrPath} (h : sp.Parsed) (vm ref : VM) :
    NoPanic (decodeString jsonPathFind sp vm ref) := by
  unfold decodeString
  cases hp : sp.path with
  | none => exact NoPanic.ok _
  | some p =>
      refine (decodeStrings_noPanic jsonPathFind (h p hp) vm ref).bind fun v _ => ?_
      split
      · exact NoPanic.ok _
      · exact NoPanic.error _

theorem Range.decode_noPanic {min max : Option IntOrPath} (hmin : ∀ ip ∈ min, ip.Parsed)
    (hmax : ∀ ip ∈ max, ip.Parsed) (vm ref : VM) :
    NoPanic (Range.decode jsonPathFind min max vm ref) := by
  -- the upper bound is decoded from whatever range the lower one gave
  have hupper : ∀ r : Range, NoPanic (match max with
      | none => pure r
      | some m => do
          let v ← decodeInt jsonPathFind m vm ref
          pure { r with max := v, maxSet := true }) := by
    intro r
    cases max with
    | none => exact NoPanic.ok _
    | some m =>
        exact (decodeInt_noPanic jsonPathFind (hmax m rfl) vm ref).bind fun _ _ => NoPanic.ok _
  unfold Range.decode
  cases min with
  | none => exact hupper _
  | some m =>
      exact (decodeInt_noPanic jsonPathFind (hmin m rfl) vm ref).bind fun _ _ => hupper _

theorem Rule.specialize_noPanic {r : Rule} (hr : r.PathsParsed) (vm ref : VM) :
    NoPanic (r.specialize jsonPathFind regexpCompile vm ref) := by
  obtain ⟨-, -, hvalues, hbounds⟩ := hr
  unfold Rule.specialize
  split
  · exact (Range.decode_noPanic jsonPathFind (hbounds _ (by simp)) (hbounds _ (by simp)) vm
      ref).bind fun _ _ => NoPanic.ok _
  · exact (Range.decode_noPanic jsonPathFind (hbounds _ (by simp)) (hbounds _ (by simp)) vm
      ref).bind fun _ _ => NoPanic.ok _
  · exact (NoPanic.mapM fun v hv => decodeString_noPanic jsonPathFind (hvalues v hv) vm
      ref).bind fun _ _ => NoPanic.ok _
  · unfold newRegexRule
    split
    · exact NoPanic.error _
    · exact NoPanic.ok _
  · exact NoPanic.error _

/-- Specialising keeps the rule as the applier's reference. -/
theorem Rule.specialize_ref {r : Rule} {vm ref : VM} {ra : RuleApplier}
    (h : r.specialize jsonPathFind regexpCompile vm ref = .ok ra) : ra.ref = r := by
  unfold Rule.specialize at h
  split at h
  · obtain ⟨_, -, h⟩ := except_bind_eq_ok.mp h
    cases h
    rfl
  · obtain ⟨_, -, h⟩ := except_bind_eq_ok.mp h
    cases h
    rfl
  · obtain ⟨_, -, h⟩ := except_bind_eq_ok.mp h
    cases h
    rfl
  · unfold newRegexRule at h
    split at h
    · cases h
    · cases h
      rfl
  · cases h

theorem RuleApplier.apply_noPanic {ra : RuleApplier} (h : ra.ref.path.Parsed) (vm ref : VM) :
    NoPanic (ra.apply jsonPathFind matchString vm ref) := by
  cases ra with
  | intRule =>
      exact (decodeInts_noPanic jsonPathFind h vm ref).bind fun _ _ =>
        NoPanic.ite (NoPanic.error _) (NoPanic.ok _)
  | stringRule =>
      exact (decodeStrings_noPanic jsonPathFind h vm ref).bind fun _ _ =>
        NoPanic.ite (NoPanic.error _) (NoPanic.ok _)
  | enumRule =>
      exact (decodeStrings_noPanic jsonPathFind h vm ref).bind fun _ _ =>
        NoPanic.ite (NoPanic.error _) (NoPanic.ok _)
  | regexRule =>
      exact (decodeStrings_noPanic jsonPathFind h vm ref).bind fun _ _ =>
        NoPanic.ite (NoPanic.error _) (NoPanic.ok _)

/-- The lookup of a `valid` path that is parsed returns: a rule is applicable or not. -/
theorem Rule.isAppliableOn_eq_ok {r : Rule} (h : ∀ v ∈ r.valid, v.Parsed) (vm : VM) :
    ∃ b, r.isAppliableOn jsonPathFind vm = .ok b := by
  unfold Rule.isAppliableOn
  cases hv : r.valid with
  | none => exact ⟨true, rfl⟩
  | some v =>
      rcases (v.find_noPanic jsonPathFind (h v hv) vm).cases with ⟨res, hf⟩ | ⟨e, hf⟩
      · exact ⟨decide (res.len > 0), by simp only [hf]⟩
      · exact ⟨false, by simp only [hf]⟩

/-- An applier whose rule has the zero `path` panics: its lookup reads the nil JSONPath. -/
theorem RuleApplier.apply_of_nil_path {ra : RuleApplier} (h : ra.ref.path.path = none)
    (vm ref : VM) : ra.apply jsonPathFind matchString vm ref = .error nilDereference := by
  have hfind : findPathOnVmOrRef jsonPathFind ra.ref.path vm ref = .error nilDereference := by
    rw [findPathOnVmOrRef, Path.find_of_nil jsonPathFind h]
    rfl
  cases ra <;>
    simp only [RuleApplier.ref] at hfind <;>
    simp only [RuleApplier.apply, decodeInts, decodeStrings, hfind, except_error_bind]

end noPanic

/-! ## Values of any type -/

section anyType

variable {VM : Type} (jsonPathFind : String → VM → Except String Results)

/-- The values of a string, enum or regex rule are the texts of all values found, so their
    types never make the lookup fail: a value that is not a string reads as `<T Value>`. -/
theorem decodeStrings_of_found {path : Path} {vm refVm : VM} {res : Results}
    (hfind : findPathOnVmOrRef jsonPathFind path vm refVm = .ok res) :
    decodeStrings jsonPathFind path vm refVm = .ok (res.flatten.map Value.toGoString) := by
  rw [decodeStrings, hfind, except_ok_bind]
  rfl

end anyType

end SspOperator.TemplateValidator
