import Mathlib
import SspOperator.Meta

/-
  The reference VM of the template validator (`kubevirtjobs/refgen.go`,
  `kubevirtjobs/virtualmachine.go`).

  `NewDefaultVirtualMachine` fills a zero `DomainSpec` with `makeStruct`, which walks the
  fields by reflection: it skips a field whose name starts with a lower-case rune, makes
  maps and channels, makes slices of `numItems.ForField(name)` items (filling struct
  items), points pointers at new values (filling structs), and fills struct fields in
  place. The rule lookups fall back on this VM when a path finds nothing on the real one.

  Go types are modelled by the kind `makeStruct` switches on; a struct type is an index
  into a table of struct types, so that types can refer to themselves. KubeVirt's API types
  are such a table, a parameter here, with `DomainSpec` one of its indices. A value records
  what `makeStruct` sets, and `zero` for what it leaves. The recursion has fuel: on a type
  that contains itself through the fields `makeStruct` follows, Go recurses until the stack
  overflows, and the model runs out of fuel (`none`).

  On a table whose field names start with an ASCII letter, whose channels go both ways and
  whose exported fields form an acyclic graph, `NewDefaultVirtualMachine` ends, and every
  path through exported struct, pointer and slice fields of the domain finds a value in the
  VM it returns (`reference_vm_paths_found`).

  `isUnexported` looks at the rune of the name's first byte. Go exports a field when its
  first rune is an upper-case letter. The two agree on names starting with an ASCII letter
  but not on others: `_x` is unexported but not lower case, and `makeStruct` sets it, which
  panics (`makeStruct_underscore_panics`).
-/

namespace SspOperator.KubevirtObjs

/-- A Go type, by the kind `makeStruct` switches on. -/
inductive GoType
  | struct (id : Nat)
  | ptr (elem : GoType)
  | slice (elem : GoType)
  | map
  /-- A channel type; `reflect.MakeChan` only makes channels of both directions. -/
  | chan (bothDir : Bool)
  /-- Any other kind, which `makeStruct` leaves alone. -/
  | other
deriving DecidableEq

/-- A field of a struct type. Its name is an identifier, exported when its first rune is an
    upper-case letter; for an ASCII rune that is `A` to `Z`. -/
structure Field where
  name : String
  type : GoType
  exported : Bool
  name_ne : name ≠ ""
  exported_of_ascii : ∀ c rest, name.toList = c :: rest → c.toNat < 128 → exported = c.isUpper

/-- The struct types, by index. Go does not allow two fields of one struct to share a name. -/
structure StructTable where
  fields : Nat → List Field
  names_nodup : ∀ id, ((fields id).map Field.name).Nodup

/-- A value as `makeStruct` leaves it: what it sets, and `zero` for the rest. -/
inductive Value
  | zero
  | struct (fields : List (String × Value))
  | ptr (target : Value)
  | slice (items : List Value)
  | map
  | chan

/-! ## `makeStruct` -/

/-- The first byte of a character's UTF-8 encoding. -/
def leadByte (c : Char) : Nat :=
  if c.toNat < 0x80 then c.toNat
  else if c.toNat < 0x800 then 0xC0 + c.toNat / 0x40
  else if c.toNat < 0x10000 then 0xE0 + c.toNat / 0x1000
  else 0xF0 + c.toNat / 0x40000

/-- `unicode.IsLower` of a rune below 256: `a` to `z`, `µ`, and the Latin-1 letters from `ß`
    on but `÷`. -/
def isLowerLatin1 (r : Nat) : Bool :=
  (0x61 ≤ r && r ≤ 0x7A) || r == 0xB5 || (0xDF ≤ r && r ≤ 0xFF && r != 0xF7)

/-- `isUnexported`: `unicode.IsLower(rune(name[0]))`. A field name is never empty. -/
def isUnexported (name : String) : Bool :=
  match name.toList with
  | c :: _ => isLowerLatin1 (leadByte c)
  | [] => false

/-- `MaxItems`. -/
def MaxItems : Int := 64

/-- `NumItems.ForField`. -/
def ForField (numItems : String → Option Int) (name : String) : Int :=
  (numItems name).getD MaxItems

def setUnexportedPanic : Fault :=
  .panic "reflect: reflect.Value.Set using value obtained using unexported field"

def negativeLenPanic : Fault :=
  .panic "reflect.MakeSlice: negative len"

def unidirectionalChanPanic : Fault :=
  .panic "reflect.MakeChan: unidirectional channel type"

/-- Filling may panic, and may not end: `none` is running out of fuel. -/
abbrev Fill := ExceptT Fault Option

section make

variable (structs : StructTable) (numItems : String → Option Int)

/-- One iteration of `makeStruct`'s loop, with `makeElem` the recursive call on a struct
    type. The struct's value is settable unless it was reached through an unexported field,
    and a field's value is settable when the struct's is and the field is exported. -/
def makeField (makeElem : Nat → Bool → Fill Value) (settable : Bool) (ft : Field) :
    Fill (String × Value) := do
  if isUnexported ft.name then return (ft.name, .zero)
  let canSet := settable && ft.exported
  let set (v : Value) : Fill (String × Value) :=
    if canSet then pure (ft.name, v) else throw setUnexportedPanic
  match ft.type with
  | .map => set .map
  | .slice elem =>
      let num := ForField numItems ft.name
      if num < 0 then throw negativeLenPanic
      -- the slice is set, then its items are filled in place
      if !canSet then throw setUnexportedPanic
      match elem with
      | .struct id => do
          let items ← (List.replicate num.toNat ()).mapM fun _ => makeElem id true
          pure (ft.name, .slice items)
      | _ => pure (ft.name, .slice (List.replicate num.toNat .zero))
  | .chan bothDir => if bothDir then set .chan else throw unidirectionalChanPanic
  | .ptr elem =>
      -- the new value is filled before the pointer is set
      match elem with
      | .struct id => do
          let target ← makeElem id true
          set (.ptr target)
      | _ => set (.ptr .zero)
  | .struct id => do
      let v ← makeElem id canSet
      pure (ft.name, v)
  | .other => pure (ft.name, .zero)

/-- `makeStruct` on a zero value of the struct type `id`. -/
def makeStruct : Nat → Nat → Bool → Fill Value
  | 0, _, _ => ExceptT.lift none
  | fuel + 1, id, settable => do
      let fields ← (structs.fields id).mapM (makeField numItems (makeStruct fuel) settable)
      pure (.struct fields)

end make

/-! ## What `makeStruct` is meant to build -/

section filled

variable (structs : StructTable) (numItems : String → Option Int)

mutual
/-- The value of an exported field named `name` of type `t` once filled: a map or a
    channel made, a pointer to a new value (a filled struct), a slice of `ForField name`
    items (filled structs), a filled struct. -/
def FilledField (name : String) : GoType → Value → Prop
  | .map, v => v = .map
  | .chan _, v => v = .chan
  | .other, v => v = .zero
  | .ptr (.struct id), .ptr (.struct fields) => FilledFields (structs.fields id) fields
  | .ptr (.struct _), _ => False
  | .ptr _, v => v = .ptr .zero
  | .slice (.struct id), .slice items =>
      items.length = (ForField numItems name).toNat ∧ FilledItems id items
  | .slice (.struct _), _ => False
  | .slice _, v => v = .slice (List.replicate (ForField numItems name).toNat .zero)
  | .struct id, .struct fields => FilledFields (structs.fields id) fields
  | .struct _, _ => False

/-- The fields of a filled struct, in order: the exported ones filled, the others zero. -/
def FilledFields : List Field → List (String × Value) → Prop
  | [], [] => True
  | ft :: fts, (name, v) :: rest =>
      name = ft.name ∧ (if ft.exported then FilledField ft.name ft.type v else v = .zero) ∧
        FilledFields fts rest
  | _, _ => False

/-- Items that are filled structs of the type `id`. -/
def FilledItems (id : Nat) : List Value → Prop
  | [] => True
  | .struct fields :: vs => FilledFields (structs.fields id) fields ∧ FilledItems id vs
  | _ :: _ => False
end

end filled

/-- The struct type an exported field leads `makeStruct` into. -/
def GoType.fillTarget : GoType → Option Nat
  | .struct id => some id
  | .ptr (.struct id) => some id
  | .slice (.struct id) => some id
  | _ => none

/-- The struct types can be ranked so that every exported field leads into a lower rank:
    the graph of exported fields is acyclic. -/
def Ranked (structs : StructTable) (rank : Nat → Nat) : Prop :=
  ∀ id, ∀ ft ∈ structs.fields id, ft.exported = true →
    ∀ id', ft.type.fillTarget = some id' → rank id' < rank id

/-- Every field name starts with an ASCII letter, and every channel field goes both ways. -/
def PlainFields (structs : StructTable) : Prop :=
  ∀ id, ∀ ft ∈ structs.fields id,
    (∃ c rest, ft.name.toList = c :: rest ∧ c.isAlpha) ∧ ft.type ≠ .chan false

/-! ## Filling plain, acyclic struct types -/

/-- On a name starting with an ASCII letter, `isUnexported` is Go's rule. -/
theorem isUnexported_of_alpha {ft : Field} (h : ∃ c rest, ft.name.toList = c :: rest ∧ c.isAlpha) :
    isUnexported ft.name = !ft.exported := by
  obtain ⟨c, rest, hname, halpha⟩ := h
  -- the ASCII letters, checked one by one
  have hascii : ∀ n < 128, (Char.ofNat n).isAlpha = true →
      isLowerLatin1 (leadByte (Char.ofNat n)) = !(Char.ofNat n).isUpper := by
    decide
  have hlt : c.toNat < 128 := by
    simp only [Char.isAlpha, Char.isUpper, Char.isLower, Bool.or_eq_true, Bool.and_eq_true,
      decide_eq_true_eq] at halpha
    rcases halpha with ⟨_, h⟩ | ⟨_, h⟩ <;>
      · rw [Char.toNat]
        exact lt_of_le_of_lt (UInt32.le_iff_toNat_le.mp h) (by decide)
  have hc := hascii c.toNat hlt (by rw [Char.ofNat_toNat]; exact halpha)
  rw [Char.ofNat_toNat] at hc
  rw [isUnexported, hname]
  dsimp only
  rw [hc, ft.exported_of_ascii c rest hname hlt]

/-- What holds of `MaxItems` and of every item count given holds of `ForField`. -/
theorem ForField_of {numItems : String → Option Int} (P : Int → Prop) (hmax : P MaxItems)
    (hnum : ∀ name n, numItems name = some n → P n) (name : String) :
    P (ForField numItems name) := by
  unfold ForField
  cases h : numItems name with
  | none => exact hmax
  | some n => exact hnum name n h

theorem ForField_nonneg {numItems : String → Option Int}
    (hnum : ∀ name n, numItems name = some n → 0 ≤ n) (name : String) :
    0 ≤ ForField numItems name :=
  ForField_of (0 ≤ ·) (by decide) hnum name

/-- A loop of steps that all return a value returns their values. -/
theorem mapM_eq_pure {α β : Type} {f : α → Fill β} {g : α → β} :
    ∀ l : List α, (∀ x ∈ l, f x = pure (g x)) → l.mapM f = pure (l.map g)
  | [], _ => rfl
  | x :: l, h => by
      rw [List.mapM_cons, h x List.mem_cons_self,
        mapM_eq_pure l fun y hy => h y (List.mem_cons_of_mem x hy)]
      simp

section fill

variable {structs : StructTable} {numItems : String → Option Int}

/-- The loop over the fields returns filled fields when every field does. -/
theorem mapM_fields {step : Field → Fill (String × Value)} :
    ∀ fts : List Field,
      (∀ ft ∈ fts, ∃ v, step ft = pure (ft.name, v) ∧
        (if ft.exported then FilledField structs numItems ft.name ft.type v else v = .zero)) →
      ∃ fields, fts.mapM step = pure fields ∧ FilledFields structs numItems fts fields
  | [], _ => ⟨[], rfl, trivial⟩
  | ft :: fts, h => by
      obtain ⟨v, hstep, hv⟩ := h ft List.mem_cons_self
      obtain ⟨fields, hrest, hfilled⟩ :=
        mapM_fields fts fun ft' hft' => h ft' (List.mem_cons_of_mem ft hft')
      refine ⟨(ft.name, v) :: fields, ?_, ⟨rfl, hv, hfilled⟩⟩
      rw [List.mapM_cons, hstep, hrest]
      simp

theorem filledItems_replicate {id : Nat} {fields : List (String × Value)}
    (h : FilledFields structs numItems (structs.fields id) fields) (n : Nat) :
    FilledItems structs numItems id (List.replicate n (.struct fields)) := by
  induction n with
  | zero => simp [FilledItems]
  | succ n ih => simp [List.replicate_succ, FilledItems, h, ih]

/-- One field of a plain field list is filled, given that the struct types it leads into
    are. -/
theorem makeField_fills {makeElem : Nat → Bool → Fill Value} {ft : Field}
    (hplain : (∃ c rest, ft.name.toList = c :: rest ∧ c.isAlpha) ∧ ft.type ≠ .chan false)
    (hnum : ∀ name n, numItems name = some n → 0 ≤ n)
    (helem : ∀ id, ft.exported = true → ft.type.fillTarget = some id →
      ∃ fields, makeElem id true = pure (.struct fields) ∧
        FilledFields structs numItems (structs.fields id) fields) :
    ∃ v, makeField numItems makeElem true ft = pure (ft.name, v) ∧
      (if ft.exported then FilledField structs numItems ft.name ft.type v else v = .zero) := by
  have hunexported := isUnexported_of_alpha hplain.1
  cases hexported : ft.exported
  · -- skipped: the name starts with a lower-case letter
    refine ⟨.zero, ?_, rfl⟩
    simp [makeField, hunexported, hexported]
  simp only [hexported, Bool.not_true] at hunexported
  have hnum' := ForField_nonneg hnum ft.name
  -- the struct type the field leads into is filled
  have helem' : ∀ id, ft.type.fillTarget = some id → ∃ fields,
      makeElem id true = pure (.struct fields) ∧ FilledFields structs numItems (structs.fields id) fields :=
    fun id h => helem id hexported h
  cases htype : ft.type with
  | map => exact ⟨.map, by simp [makeField, hunexported, hexported, htype], by simp [FilledField]⟩
  | chan bothDir =>
      have hboth : bothDir = true := by
        cases bothDir
        · exact absurd htype hplain.2
        · rfl
      subst hboth
      exact ⟨.chan, by simp [makeField, hunexported, hexported, htype], by simp [FilledField]⟩
  | other => exact ⟨.zero, by simp [makeField, hunexported, htype], by simp [FilledField]⟩
  | struct id =>
      obtain ⟨fields, hmake, hfilled⟩ := helem' id (by rw [htype]; rfl)
      exact ⟨.struct fields, by simp [makeField, hunexported, hexported, htype, hmake],
        by simpa [FilledField] using hfilled⟩
  | ptr elem =>
      cases elem
      case struct id =>
        obtain ⟨fields, hmake, hfilled⟩ := helem' id (by rw [htype]; rfl)
        exact ⟨.ptr (.struct fields), by simp [makeField, hunexported, hexported, htype, hmake],
          by simpa [FilledField] using hfilled⟩
      all_goals
        exact ⟨.ptr .zero, by simp [makeField, hunexported, hexported, htype], by simp [FilledField]⟩
  | slice elem =>
      have hlen : ¬ForField numItems ft.name < 0 := not_lt.mpr hnum'
      cases elem
      case struct id =>
        obtain ⟨fields, hmake, hfilled⟩ := helem' id (by rw [htype]; rfl)
        -- every item is the same filled struct
        have hitems := mapM_eq_pure (List.replicate (ForField numItems ft.name).toNat ())
          (fun _ _ => hmake)
        refine ⟨.slice (List.replicate (ForField numItems ft.name).toNat (.struct fields)), ?_, ?_⟩
        · simp only [List.map_replicate] at hitems
          simp [makeField, hunexported, hexported, htype, hlen, hitems]
        · simpa [FilledField] using filledItems_replicate hfilled _
      all_goals
        exact ⟨.slice (List.replicate (ForField numItems ft.name).toNat .zero),
          by simp [makeField, hunexported, hexported, htype, hlen], by simp [FilledField]⟩

/-- On plain struct types whose exported fields form an acyclic graph, with item counts that
    are not negative, `makeStruct` ends within the rank of the type and fills it. -/
theorem makeStruct_fills {rank : Nat → Nat} (hplain : PlainFields structs)
    (hnum : ∀ name n, numItems name = some n → 0 ≤ n) (hrank : Ranked structs rank) :
    ∀ fuel id, rank id < fuel → ∃ fields,
      makeStruct structs numItems fuel id true = pure (.struct fields) ∧
        FilledFields structs numItems (structs.fields id) fields := by
  intro fuel
  -- the fuel bounds the rank of the type being filled, and each field goes down a rank
  induction fuel with
  | zero => intro id hid; omega
  | succ fuel ih =>
      intro id hid
      obtain ⟨fields, hloop, hfilled⟩ := mapM_fields (structs.fields id) fun ft hft =>
        makeField_fills (hplain id ft hft) hnum fun id' hexported htarget =>
          ih id' (by have := hrank id ft hft hexported id' htarget; omega)
      refine ⟨fields, ?_, hfilled⟩
      rw [makeStruct, hloop]
      rfl

end fill

/-! ## Paths through a filled value -/

/-- A step of a JSONPath: a field, or every item of a slice (`[*]`). Fields go by their Go
    names here; the JSON names of the real paths are a renaming of them. -/
inductive PathStep
  | field (name : String)
  | items

/-- A JSONPath follows a pointer to what it points at. -/
def Value.deref : Value → Value
  | .ptr target => target
  | v => v

/-- The values a path finds. -/
def Value.find : List PathStep → Value → List Value
  | [], v => [v]
  | .field name :: rest, .struct fields =>
      match fields.find? (·.1 = name) with
      | some (_, v) => Value.find rest v.deref
      | none => []
  | .items :: rest, .slice items => items.flatMap fun item => Value.find rest item.deref
  | _, _ => []

/-- A path from a value of the struct type `id` through exported fields: into a struct
    field, through a pointer to a struct, or into every item of a slice of structs, and
    ending at any exported field. -/
inductive FieldPath (structs : StructTable) : Nat → List PathStep → Prop
  | last {id : Nat} {ft : Field} : ft ∈ structs.fields id → ft.exported = true →
      FieldPath structs id [.field ft.name]
  | struct {id id' : Nat} {ft : Field} {rest : List PathStep} : ft ∈ structs.fields id →
      ft.exported = true → ft.type = .struct id' → FieldPath structs id' rest →
      FieldPath structs id (.field ft.name :: rest)
  | ptr {id id' : Nat} {ft : Field} {rest : List PathStep} : ft ∈ structs.fields id →
      ft.exported = true → ft.type = .ptr (.struct id') → FieldPath structs id' rest →
      FieldPath structs id (.field ft.name :: rest)
  | slice {id id' : Nat} {ft : Field} {rest : List PathStep} : ft ∈ structs.fields id →
      ft.exported = true → ft.type = .slice (.struct id') → FieldPath structs id' rest →
      FieldPath structs id (.field ft.name :: .items :: rest)

section paths

variable {structs : StructTable} {numItems : String → Option Int}

/-- A field of a filled struct is found under its name, with its filled value. -/
theorem FilledFields.find? :
    ∀ {fts : List Field} {fields : List (String × Value)},
      FilledFields structs numItems fts fields → (fts.map Field.name).Nodup →
      ∀ {ft : Field}, ft ∈ fts → ∃ v, fields.find? (·.1 = ft.name) = some (ft.name, v) ∧
        (if ft.exported then FilledField structs numItems ft.name ft.type v else v = .zero)
  | [], [], _, _, _, hft => by simp at hft
  | ft' :: fts, (name, v) :: fields, h, hnodup, ft, hft => by
      obtain ⟨rfl, hv, hrest⟩ := h
      rw [List.map_cons, List.nodup_cons] at hnodup
      rcases List.mem_cons.mp hft with rfl | hft
      · exact ⟨v, by simp, hv⟩
      · -- an earlier field has another name
        have hne : ft'.name ≠ ft.name := fun heq => hnodup.1 (heq ▸ List.mem_map_of_mem hft)
        obtain ⟨w, hfind, hw⟩ := FilledFields.find? hrest hnodup.2 hft
        exact ⟨w, by simp [hne, hfind], hw⟩
  | [], _ :: _, h, _, _, _ => h.elim
  | _ :: _, [], h, _, _, _ => h.elim

/-- With positive item counts, every path through exported fields finds a value in a
    filled struct. -/
theorem find_ne_nil (hpos : ∀ name n, numItems name = some n → 0 < n) :
    ∀ {id : Nat} {path : List PathStep}, FieldPath structs id path →
      ∀ {fields : List (String × Value)}, FilledFields structs numItems (structs.fields id) fields →
        (Value.struct fields).find path ≠ [] := by
  intro id path hpath
  induction hpath with
  | last hft hexported =>
      intro fields hfilled
      obtain ⟨v, hfind, _⟩ := hfilled.find? (structs.names_nodup _) hft
      simp [Value.find, hfind]
  | struct hft hexported htype _ ih =>
      intro fields hfilled
      obtain ⟨v, hfind, hv⟩ := hfilled.find? (structs.names_nodup _) hft
      rw [if_pos hexported, htype] at hv
      cases v with
      | struct inner => simpa [Value.find, hfind, Value.deref] using ih hv
      | _ => simp [FilledField] at hv
  | ptr hft hexported htype _ ih =>
      intro fields hfilled
      obtain ⟨v, hfind, hv⟩ := hfilled.find? (structs.names_nodup _) hft
      rw [if_pos hexported, htype] at hv
      rcases v with _ | _ | (_ | inner | _ | _ | _ | _) | _ | _ | _
      all_goals simp [FilledField] at hv
      simpa [Value.find, hfind, Value.deref] using ih hv
  | @slice id id' ft rest hft hexported htype _ ih =>
      intro fields hfilled
      obtain ⟨v, hfind, hv⟩ := hfilled.find? (structs.names_nodup _) hft
      rw [if_pos hexported, htype] at hv
      cases v with
      | slice items =>
          obtain ⟨hlen, hitems⟩ := hv
          -- the slice has `ForField` items, at least one, each a filled struct
          have hcount : 0 < ForField numItems ft.name := ForField_of (0 < ·) (by decide) hpos _
          cases items with
          | nil => simp at hlen; omega
          | cons item items =>
              cases item with
              | struct inner =>
                  have hfirst := ih hitems.1
                  simp only [Value.find, hfind, Value.deref, List.flatMap_cons]
                  intro happ
                  exact hfirst (List.append_eq_nil_iff.mp happ).1
              | _ => simp [FilledItems] at hitems
      | _ => simp [FilledField] at hv

end paths

/-- On plain struct types whose exported fields form an acyclic graph, with item counts that
    are not negative, `makeStruct` ends within the rank of the type and fills it; with
    positive item counts, every path through exported struct, pointer and slice fields
    finds a value in what it builds. -/
theorem makeStruct_fills_reference {structs : StructTable} {numItems : String → Option Int}
    {rank : Nat → Nat} (hplain : PlainFields structs)
    (hnum : ∀ name n, numItems name = some n → 0 ≤ n) (hrank : Ranked structs rank) (id : Nat) :
    ∃ fields, makeStruct structs numItems (rank id + 1) id true = pure (.struct fields) ∧
      FilledFields structs numItems (structs.fields id) fields ∧
      ((∀ name n, numItems name = some n → 0 < n) →
        ∀ path, FieldPath structs id path → (Value.struct fields).find path ≠ []) := by
  obtain ⟨fields, hmake, hfilled⟩ :=
    makeStruct_fills hplain hnum hrank (rank id + 1) id (Nat.lt_succ_self _)
  exact ⟨fields, hmake, hfilled, fun hpos _ hpath => find_ne_nil hpos hpath hfilled⟩

/-! ## `NewDefaultVirtualMachine` -/

/-- The item counts of `NewDefaultVirtualMachine`: `MaxDisks`, `MaxIfaces`,
    `MaxPortsPerIface` and `MaxNTPServers`. -/
def defaultNumItems (name : String) : Option Int :=
  if name = "Disks" then some 64
  else if name = "Interfaces" then some 64
  else if name = "Ports" then some 16
  else if name = "NTPServers" then some 8
  else none

theorem defaultNumItems_pos : ∀ name n, defaultNumItems name = some n → 0 < n := by
  intro name n h
  unfold defaultNumItems at h
  split_ifs at h <;> cases h <;> decide

/-- A VM whose template, which the VM points at, has the domain `domSpec`; its other fields
    are zero. -/
def vmWithDomain (domSpec : Value) : Value :=
  .struct [("Spec", .struct [("Template", .ptr (.struct [("Spec", .struct [("Domain", domSpec)])]))])]

/-- `NewDefaultVirtualMachine` on the table `structs` of KubeVirt's API types, in which
    `domainSpec` is `DomainSpec`: `makeStruct` fills a zero domain, which becomes the domain
    of the template the VM points at. The defaults set afterwards
    (`SetObjectDefaults_VirtualMachine`, `setVirtualMachineDefaults`) write fields of kinds a
    value does not tell from zero, and make no field nil. -/
def NewDefaultVirtualMachine (structs : StructTable) (domainSpec fuel : Nat) : Fill Value := do
  let domSpec ← makeStruct structs defaultNumItems fuel domainSpec true
  pure (vmWithDomain domSpec)

/-- `spec.template.spec.domain`, by Go names. -/
def domainPath : List PathStep :=
  [.field "Spec", .field "Template", .field "Spec", .field "Domain"]

theorem find_domainPath (domSpec : Value) (path : List PathStep) :
    (vmWithDomain domSpec).find (domainPath ++ path) = domSpec.deref.find path := by
  simp [vmWithDomain, domainPath, Value.find, Value.deref]

/-- For every table of struct types whose field names start with an ASCII letter, whose
    channels go both ways and whose exported fields form an acyclic graph,
    `NewDefaultVirtualMachine` ends, and every path through exported struct, pointer and slice
    fields of `DomainSpec` finds a value under `spec.template.spec.domain`. -/
theorem reference_vm_paths_found {structs : StructTable} {domainSpec : Nat} {rank : Nat → Nat}
    (hplain : PlainFields structs) (hrank : Ranked structs rank) :
    ∃ vm, NewDefaultVirtualMachine structs domainSpec (rank domainSpec + 1) = pure vm ∧
      ∀ path, FieldPath structs domainSpec path → vm.find (domainPath ++ path) ≠ [] := by
  obtain ⟨fields, hmake, -, hfind⟩ := makeStruct_fills_reference hplain
    (fun name n h => (defaultNumItems_pos name n h).le) hrank domainSpec
  refine ⟨vmWithDomain (.struct fields), ?_, fun path hpath => ?_⟩
  · rw [NewDefaultVirtualMachine, hmake]
    rfl
  · rw [find_domainPath]
    exact hfind defaultNumItems_pos path hpath

/-! ## Part of the domain of a VM -/

/-- An exported field, named with an upper-case ASCII letter first. -/
def Field.exportedNamed (name : String) (type : GoType)
    (hname : name.toList.head?.any Char.isUpper = true) : Field :=
  { name := name, type := type, exported := true
    name_ne := by
      rintro rfl
      simp at hname
    exported_of_ascii := by
      intro c rest h _
      rw [h] at hname
      simpa using hname.symm }

theorem Field.plain_exportedNamed {name : String} {type : GoType}
    {hname : name.toList.head?.any Char.isUpper = true} (htype : type ≠ .chan false) :
    (∃ c rest, (Field.exportedNamed name type hname).name.toList = c :: rest ∧ c.isAlpha) ∧
      (Field.exportedNamed name type hname).type ≠ .chan false := by
  refine ⟨?_, htype⟩
  cases h : name.toList with
  | nil => simp [h] at hname
  | cons c rest =>
      rw [h] at hname
      refine ⟨c, rest, h, ?_⟩
      simp only [List.head?_cons, Option.any_some] at hname
      simp [Char.isAlpha, hname]

/-- A few struct types of a VM's domain: the domain, its devices, the CPU, a disk and its
    CD-ROM target. -/
def domainTypes : StructTable :=
  { fields := fun
      | 0 => [.exportedNamed "Devices" (.struct 1) (by decide),
              .exportedNamed "CPU" (.ptr (.struct 2)) (by decide)]
      | 1 => [.exportedNamed "Disks" (.slice (.struct 3)) (by decide),
              .exportedNamed "AutoattachGraphicsDevice" (.ptr .other) (by decide)]
      | 2 => [.exportedNamed "Cores" .other (by decide), .exportedNamed "Model" .other (by decide)]
      | 3 => [.exportedNamed "Name" .other (by decide),
              .exportedNamed "CDRom" (.ptr (.struct 4)) (by decide)]
      | 4 => [.exportedNamed "Bus" .other (by decide),
              .exportedNamed "ReadOnly" (.ptr .other) (by decide),
              .exportedNamed "Tray" .other (by decide)]
      | _ => []
    names_nodup := by
      intro id
      match id with
      | 0 | 1 | 2 | 3 | 4 => decide
      | _ + 5 => simp }

/-- The domain's types, ranked by how deep they sit. -/
def domainRank : Nat → Nat
  | 0 => 3
  | 1 => 2
  | 3 => 1
  | _ => 0

/-- The reference VM over a few struct types of a VM's domain. -/
theorem domain_reference_filled :
    PlainFields domainTypes ∧ Ranked domainTypes domainRank ∧
      ∃ vm, NewDefaultVirtualMachine domainTypes 0 (domainRank 0 + 1) = pure vm ∧
        ∀ path, FieldPath domainTypes 0 path → vm.find (domainPath ++ path) ≠ [] := by
  have hplain : PlainFields domainTypes := by
    intro id ft hft
    match id, hft with
    | 0, hft | 1, hft | 2, hft | 3, hft | 4, hft =>
        simp only [domainTypes, List.mem_cons, List.not_mem_nil, or_false] at hft
        rcases hft with rfl | rfl | rfl <;> exact Field.plain_exportedNamed (by decide)
    | _ + 5, hft => simp [domainTypes] at hft
  have hrank : Ranked domainTypes domainRank := by
    intro id ft hft _ id' htarget
    match id, hft with
    | 0, hft | 1, hft | 2, hft | 3, hft | 4, hft =>
        simp only [domainTypes, List.mem_cons, List.not_mem_nil, or_false] at hft
        rcases hft with rfl | rfl | rfl <;>
          simp [Field.exportedNamed, GoType.fillTarget] at htarget <;> subst htarget <;> decide
    | _ + 5, hft => simp [domainTypes] at hft
  exact ⟨hplain, hrank, reference_vm_paths_found hplain hrank⟩

/-! ## A field named with an underscore -/

/-- `_x *int`: unexported, but its first rune is not lower case. -/
def underscoreField : Field :=
  { name := "_x", type := .ptr .other, exported := false, name_ne := by decide
    exported_of_ascii := by
      intro c rest h _
      obtain ⟨rfl, rfl⟩ : '_' = c ∧ ['x'] = rest := by simpa using h
      rfl }

/-- `struct { _x *int }`. -/
def underscoreStruct : StructTable :=
  { fields := fun _ => [underscoreField], names_nodup := fun _ => by simp }

/-- `makeStruct` does not skip `_x`, and setting it panics, with any fuel. -/
theorem makeStruct_panics_of_underscore_field (numItems : String → Option Int) (fuel : Nat) :
    makeStruct underscoreStruct numItems (fuel + 1) 0 true = ExceptT.mk (some (.error setUnexportedPanic)) :=
  rfl

end SspOperator.KubevirtObjs
