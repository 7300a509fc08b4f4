import SspOperator.TemplateValidator.Rules
import SspOperator.TemplateValidator.Json

/-
  Evaluating validation rules against a VM (`validation/eval.go`) and the admission
  check built on it (`webhooks/admission.go`).

  `Evaluate` folds over the rules with the set of names seen so far and a `Result`:
  a rule whose name was seen, or that is malformed, is failed; a rule that does not
  apply to the VM is skipped; otherwise it is specialised and applied, and an error
  of either fails it too; a rule that applies is recorded with its verdict and fails
  the evaluation when it is unsatisfied and not just a warning. A panic of a lookup is
  no error and goes up through `Evaluate` and `ValidateVm`. `ToStatusCauses` turns a
  failed result into one cause per report with an error or an unsatisfied verdict. The
  evaluator's log sink only receives text for logging and is left out.

  The spec (`RuleFails`) names the four ways a rule fails an evaluation. The main
  result, `validateVm_rejects_iff`: over rules whose paths are all parsed, `ValidateVm`
  returns, with causes exactly when some rule fails in one of these ways on the VM whose
  CPU topology counts are raised to at least 1 (`setDefaultValues_eq`), and `Evaluate`
  files one report per rule, in order. A rule without a `path` member keeps the nil
  JSONPath of the zero `Path`, which `validateRule` does not check: once such a rule
  applies, `ValidateVm` panics (`validateVm_panics_of_nil_path`). The evaluation only
  reaches the VM through the JSONPath lookups, so everything up to `ValidateVm` is over
  an arbitrary object type `VM`; `refVm` is the reference VM that `Evaluate` builds with
  `NewDefaultVirtualMachine()`.
-/

namespace SspOperator.TemplateValidator

def ErrUnrecognizedRuleType : String := "unrecognized Rule type"
def ErrDuplicateRuleName : String := "duplicate Rule Name"
def ErrMissingRequiredKey : String := "missing required key"

/-- What `Evaluate` records for one rule. -/
structure ValidationReport where
  ref : Rule
  skipped : Bool
  satisfied : Bool
  message : String
  error : Option String

/-- The reports so far, and whether the evaluation has failed. -/
structure Result where
  status : List ValidationReport
  failed : Bool

namespace Result

/-- `Result.Fail`: rule errors always fail the evaluation. -/
def fail (r : Result) (ru : Rule) (e : String) : Result :=
  let report : ValidationReport :=
    { ref := ru, skipped := false, satisfied := false, message := "", error := some e }
  { status := r.status ++ [report], failed := true }

/-- `Result.Skip`. -/
def skip (r : Result) (ru : Rule) : Result :=
  let report : ValidationReport :=
    { ref := ru, skipped := true, satisfied := false, message := "", error := none }
  { r with status := r.status ++ [report] }

/-- `Result.Applied`: an unsatisfied rule fails the evaluation unless it is just a
    warning (which is only logged). -/
def applied (r : Result) (ru : Rule) (satisfied : Bool) (message : String) : Result :=
  let report : ValidationReport :=
    { ref := ru, skipped := false, satisfied := satisfied, message := message, error := none }
  { status := r.status ++ [report]
    failed := if !satisfied then (if ru.justWarning then r.failed else true) else r.failed }

/-- `Result.Succeeded`. -/
def succeeded (r : Result) : Bool := !r.failed

end Result

/-- `needsCause`: whether a report becomes a cause, and its message. -/
def needsCause (rr : ValidationReport) : Bool × String :=
  match rr.error with
  | some e => (true, e)
  | none => if !rr.skipped && !rr.satisfied then (true, rr.message) else (false, "")

def CauseTypeFieldValueInvalid : String := "FieldValueInvalid"

/-- `metav1.StatusCause`. -/
structure StatusCause where
  type : String
  message : String
  field : String

/-- The cause a report becomes, when it needs one. -/
def ValidationReport.cause? (rr : ValidationReport) : Option StatusCause :=
  match needsCause rr with
  | (true, message) =>
      some { type := CauseTypeFieldValueInvalid, field := rr.ref.path.expr,
             message := rr.ref.message ++ ": " ++ message }
  | (false, _) => none

/-- `Result.ToStatusCauses`: nothing unless the evaluation failed. -/
def Result.toStatusCauses (r : Result) : List StatusCause :=
  if !r.failed then [] else r.status.filterMap ValidationReport.cause?

/-- `validateRule`: the rule type must be known and the message set. -/
def validateRule (r : Rule) : Option String :=
  if !r.rule.isValid then some ErrUnrecognizedRuleType
  else if r.message = "" then some ErrMissingRequiredKey
  else none

section evaluate

variable {VM : Type} (jsonPathFind : String → VM → Except String Results)
  (regexpCompile : String → Option String) (matchString : String → String → Bool) (refVm : VM)

/-- One iteration of `Evaluate`'s loop: the names seen and the result, after `r`. An error of
    specialising or applying the rule fails it; a panic goes up. -/
def evaluateRule (vm : VM) (acc : Finset String × Result) (r : Rule) :
    Except Fault (Finset String × Result) :=
  if r.name ∈ acc.1 then pure (acc.1, acc.2.fail r ErrDuplicateRuleName)
  else
    let uniqueNames := insert r.name acc.1
    match validateRule r with
    | some err => pure (uniqueNames, acc.2.fail r err)
    | none => do
        let appliable ← r.isAppliableOn jsonPathFind vm
        if !appliable then pure (uniqueNames, acc.2.skip r)
        else
          match r.specialize jsonPathFind regexpCompile vm refVm with
          | .error (.error err) => pure (uniqueNames, acc.2.fail r err)
          | .error (.panic msg) => throw (.panic msg)
          | .ok ra =>
              match ra.apply jsonPathFind matchString vm refVm with
              | .error (.error err) => pure (uniqueNames, acc.2.fail r err)
              | .error (.panic msg) => throw (.panic msg)
              | .ok (satisfied, ra) => pure (uniqueNames, acc.2.applied r satisfied ra.toString)

/-- `Evaluator.Evaluate`. -/
def evaluate (rules : List Rule) (vm : VM) : Except Fault Result := do
  let acc ← rules.foldlM (evaluateRule jsonPathFind regexpCompile matchString refVm vm)
    (∅, { status := [], failed := false })
  pure acc.2

end evaluate

/-! ## Reports that fail an evaluation -/

/-- A report fails the evaluation: it carries an error, or its rule applied, was
    unsatisfied and is not just a warning. -/
def ValidationReport.Fails (rr : ValidationReport) : Prop :=
  rr.error.isSome ∨ (rr.skipped = false ∧ rr.satisfied = false ∧ rr.ref.justWarning = false)

/-- `failed` is set exactly when some report fails the evaluation. -/
def Result.Tracks (r : Result) : Prop :=
  r.failed = true ↔ ∃ rr ∈ r.status, rr.Fails

theorem ValidationReport.cause?_isSome_of_fails {rr : ValidationReport} (h : rr.Fails) :
    rr.cause?.isSome := by
  unfold ValidationReport.cause? needsCause
  rcases h with he | ⟨hs, hsat, -⟩
  · obtain ⟨e, he⟩ := Option.isSome_iff_exists.mp he
    simp [he]
  · cases he : rr.error with
    | some e => simp
    | none => simp [hs, hsat]

/-- A result that tracks its reports has causes exactly when it failed. -/
theorem Result.toStatusCauses_ne_nil_iff {r : Result} (h : r.Tracks) :
    r.toStatusCauses ≠ [] ↔ r.failed = true := by
  constructor
  · intro hc
    by_contra hf
    simp [Result.toStatusCauses, hf] at hc
  · intro hf
    obtain ⟨rr, hmem, hfails⟩ := h.mp hf
    obtain ⟨c, hc⟩ := Option.isSome_iff_exists.mp (ValidationReport.cause?_isSome_of_fails hfails)
    have hin : c ∈ r.toStatusCauses := by
      simp only [Result.toStatusCauses, hf, Bool.not_true]
      exact List.mem_filterMap.mpr ⟨rr, hmem, hc⟩
    exact List.ne_nil_of_mem hin

theorem validateRule_eq_none_iff (r : Rule) :
    validateRule r = none ↔ r.rule.isValid = true ∧ r.message ≠ "" := by
  unfold validateRule
  split_ifs with hv hm <;> simp_all

/-! ## The spec of an evaluation -/

section spec

variable {VM : Type} (jsonPathFind : String → VM → Except String Results)
  (regexpCompile : String → Option String) (matchString : String → String → Bool) (refVm : VM)

/-- The four ways rule `r`, met after rules with the names `earlier`, fails an
    evaluation on `vm`: its name was used before; its type is unknown or its message
    empty; it applies and specialising or applying it returns an error; or it applies,
    is unsatisfied and is not just a warning. -/
def RuleFails (earlier : List String) (r : Rule) (vm : VM) : Prop :=
  r.name ∈ earlier ∨
  (r.rule.isValid = false ∨ r.message = "") ∨
  (r.isAppliableOn jsonPathFind vm = .ok true ∧
    ((∃ e, r.specialize jsonPathFind regexpCompile vm refVm = .error (.error e)) ∨
      ∃ ra e, r.specialize jsonPathFind regexpCompile vm refVm = .ok ra ∧
        ra.apply jsonPathFind matchString vm refVm = .error (.error e))) ∨
  (r.isAppliableOn jsonPathFind vm = .ok true ∧ r.justWarning = false ∧
    ∃ ra ra', r.specialize jsonPathFind regexpCompile vm refVm = .ok ra ∧
      ra.apply jsonPathFind matchString vm refVm = .ok (false, ra'))

/-- Rule `i` of `rules` fails an evaluation of the whole list on `vm`. -/
def FailsAt (rules : List Rule) (vm : VM) (i : Nat) : Prop :=
  ∃ h : i < rules.length,
    RuleFails jsonPathFind regexpCompile matchString refVm ((rules.take i).map Rule.name) rules[i] vm

theorem exists_failsAt_append_singleton (xs : List Rule) (r : Rule) (vm : VM) :
    (∃ i, FailsAt jsonPathFind regexpCompile matchString refVm (xs ++ [r]) vm i) ↔
      (∃ i, FailsAt jsonPathFind regexpCompile matchString refVm xs vm i) ∨
        RuleFails jsonPathFind regexpCompile matchString refVm (xs.map Rule.name) r vm := by
  constructor
  · rintro ⟨i, hi, hf⟩
    rw [List.length_append, List.length_singleton] at hi
    rcases Nat.lt_succ_iff_lt_or_eq.mp hi with hlt | rfl
    · left
      refine ⟨i, hlt, ?_⟩
      rwa [List.getElem_append_left hlt, List.take_append_of_le_length hlt.le] at hf
    · right
      simpa using hf
  · rintro (⟨i, hi, hf⟩ | hf)
    · refine ⟨i, by simp; omega, ?_⟩
      rwa [List.getElem_append_left hi, List.take_append_of_le_length hi.le]
    · exact ⟨xs.length, by simp, by simpa using hf⟩

theorem toFinset_append_singleton (l : List String) (a : String) :
    (l ++ [a]).toFinset = insert a l.toFinset := by
  ext x
  simp

/-- What one iteration of the loop leaves when it returns: the rule's name joins the names
    seen, one report is filed for it, and that report fails the evaluation exactly when
    `RuleFails` says so. -/
theorem evaluateRule_spec {vm : VM} {earlier : List String} {res : Result} {r : Rule}
    {acc : Finset String × Result}
    (h : evaluateRule jsonPathFind regexpCompile matchString refVm vm (earlier.toFinset, res) r =
      .ok acc) :
    acc.1 = (earlier ++ [r.name]).toFinset ∧
    ∃ rr, acc.2.status = res.status ++ [rr] ∧
      (acc.2.failed = true ↔ res.failed = true ∨ rr.Fails) ∧ rr.ref = r ∧
      (rr.Fails ↔ RuleFails jsonPathFind regexpCompile matchString refVm earlier r vm) := by
  rw [toFinset_append_singleton]
  by_cases hdup : r.name ∈ earlier
  · -- a name seen before fails the rule, whatever it says
    have hseen : r.name ∈ earlier.toFinset := List.mem_toFinset.mpr hdup
    simp only [evaluateRule, hseen, if_true, except_pure, Except.ok.injEq, Result.fail] at h
    subst h
    refine ⟨(Finset.insert_eq_of_mem hseen).symm, _, rfl, ?_, rfl, ?_⟩
    · simp [ValidationReport.Fails]
    · simp [ValidationReport.Fails, RuleFails, hdup]
  have hseen : r.name ∉ earlier.toFinset := fun h => hdup (List.mem_toFinset.mp h)
  cases hv : validateRule r with
  | some err =>
      -- a malformed rule fails with the error `validateRule` reports
      have hbad : r.rule.isValid = false ∨ r.message = "" := by
        have := (validateRule_eq_none_iff r).not.mp (by simp [hv])
        cases h : r.rule.isValid <;> simp_all
      simp only [evaluateRule, hseen, if_false, hv, except_pure, Except.ok.injEq, Result.fail] at h
      subst h
      refine ⟨rfl, _, rfl, ?_, rfl, ?_⟩
      · simp [ValidationReport.Fails]
      · simp [ValidationReport.Fails, RuleFails, hbad]
  | none =>
      have hgood := (validateRule_eq_none_iff r).mp hv
      have hnot12 : ¬(r.name ∈ earlier ∨ (r.rule.isValid = false ∨ r.message = "")) := by
        simp [hdup, hgood.1, hgood.2]
      simp only [evaluateRule, hseen, if_false, hv] at h
      cases happ : r.isAppliableOn jsonPathFind vm with
      | error e =>
          rw [happ, except_error_bind] at h
          cases h
      | ok appliable =>
          rw [happ, except_ok_bind] at h
          cases appliable with
          | false =>
              -- a rule that does not apply is skipped and fails nothing
              simp only [Bool.not_false, if_true, except_pure, Except.ok.injEq, Result.skip] at h
              subst h
              refine ⟨rfl, _, rfl, by simp [ValidationReport.Fails], rfl, ?_⟩
              simp [ValidationReport.Fails, RuleFails, happ, hnot12]
          | true =>
              simp only [Bool.not_true, Bool.false_eq_true, if_false] at h
              cases hs : r.specialize jsonPathFind regexpCompile vm refVm with
              | error f =>
                  cases f with
                  | panic msg => simp [hs] at h
                  | error e =>
                      simp only [hs, except_pure, Except.ok.injEq, Result.fail] at h
                      subst h
                      refine ⟨rfl, _, rfl, by simp [ValidationReport.Fails], rfl, ?_⟩
                      simp [ValidationReport.Fails, RuleFails, happ, hs]
              | ok ra =>
                  simp only [hs] at h
                  cases ha : ra.apply jsonPathFind matchString vm refVm with
                  | error f =>
                      cases f with
                      | panic msg => simp [ha] at h
                      | error e =>
                          simp only [ha, except_pure, Except.ok.injEq, Result.fail] at h
                          subst h
                          refine ⟨rfl, _, rfl, by simp [ValidationReport.Fails], rfl, ?_⟩
                          simp [ValidationReport.Fails, RuleFails, happ, hs, ha]
                  | ok p =>
                      -- an applied rule fails the evaluation when unsatisfied and not a warning
                      obtain ⟨satisfied, ra'⟩ := p
                      simp only [ha, except_pure, Except.ok.injEq, Result.applied] at h
                      subst h
                      refine ⟨rfl, _, rfl, ?_, rfl, ?_⟩
                      · cases satisfied <;> cases hw : r.justWarning <;>
                          simp [ValidationReport.Fails, hw]
                      · cases satisfied <;>
                          simp [ValidationReport.Fails, RuleFails, hdup, hgood.1, hgood.2, happ,
                            hs, ha]

/-- An iteration on a rule whose paths are parsed returns a value: its lookups do not panic,
    and the errors they return are caught. -/
theorem evaluateRule_eq_ok (vm : VM) (acc : Finset String × Result) {r : Rule}
    (hr : r.PathsParsed) :
    ∃ acc', evaluateRule jsonPathFind regexpCompile matchString refVm vm acc r = .ok acc' := by
  unfold evaluateRule
  split
  · exact ⟨_, rfl⟩
  split
  · exact ⟨_, rfl⟩
  obtain ⟨appliable, happ⟩ := r.isAppliableOn_eq_ok jsonPathFind hr.2.1 vm
  rw [happ, except_ok_bind]
  split
  · exact ⟨_, rfl⟩
  -- only a panic of specialising or applying would leave the loop
  split
  · exact ⟨_, rfl⟩
  · rename_i msg hpanic
    exact absurd hpanic (r.specialize_noPanic jsonPathFind regexpCompile hr vm refVm msg)
  · rename_i ra hra
    split
    · exact ⟨_, rfl⟩
    · rename_i msg hpanic
      exact absurd hpanic (ra.apply_noPanic jsonPathFind matchString
        ((r.specialize_ref jsonPathFind regexpCompile hra).symm ▸ hr.1) vm refVm msg)
    · exact ⟨_, rfl⟩

/-- The invariant of the loop over the rules done so far: their names are seen, one report
    is filed per rule in order, `failed` tracks the reports, and it is set exactly when
    some rule fails. -/
def EvaluatedSoFar (vm : VM) (done : List Rule) (acc : Finset String × Result) : Prop :=
  acc.1 = (done.map Rule.name).toFinset ∧ acc.2.status.map ValidationReport.ref = done ∧
    acc.2.Tracks ∧
    (acc.2.failed = true ↔ ∃ i, FailsAt jsonPathFind regexpCompile matchString refVm done vm i)

/-- One iteration keeps the invariant. -/
theorem evaluatedSoFar_step {vm : VM} {done : List Rule} {acc acc' : Finset String × Result}
    {r : Rule} (hacc : EvaluatedSoFar jsonPathFind regexpCompile matchString refVm vm done acc)
    (h : evaluateRule jsonPathFind regexpCompile matchString refVm vm acc r = .ok acc') :
    EvaluatedSoFar jsonPathFind regexpCompile matchString refVm vm (done ++ [r]) acc' := by
  obtain ⟨names, res⟩ := acc
  obtain ⟨hnames, hrefs, htracks, hfailed⟩ := hacc
  dsimp only at hnames hrefs htracks hfailed
  subst hnames
  obtain ⟨hnames', rr, hstatus, hfailed', href, hiff⟩ :=
    evaluateRule_spec jsonPathFind regexpCompile matchString refVm h
  refine ⟨by rw [hnames', List.map_append, List.map_singleton], ?_, ?_, ?_⟩
  · rw [hstatus, List.map_append, hrefs, List.map_singleton, href]
  · -- the new report joins the tracked ones
    unfold Result.Tracks at htracks ⊢
    rw [hfailed', htracks, hstatus]
    simp only [List.mem_append, List.mem_singleton]
    constructor
    · rintro (⟨x, hx, hfx⟩ | hrr)
      · exact ⟨x, Or.inl hx, hfx⟩
      · exact ⟨rr, Or.inr rfl, hrr⟩
    · rintro ⟨x, hx | rfl, hfx⟩
      · exact Or.inl ⟨x, hx, hfx⟩
      · exact Or.inr hfx
  · rw [hfailed', hfailed, hiff, exists_failsAt_append_singleton]

/-- The loop over rules whose paths are parsed returns, with the invariant of all of them. -/
theorem evaluate_foldlM_spec (vm : VM) {rules : List Rule} (hparsed : ∀ r ∈ rules, r.PathsParsed) :
    ∃ acc, rules.foldlM (evaluateRule jsonPathFind regexpCompile matchString refVm vm)
        (∅, { status := [], failed := false }) = .ok acc ∧
      EvaluatedSoFar jsonPathFind regexpCompile matchString refVm vm rules acc := by
  have hstart : EvaluatedSoFar jsonPathFind regexpCompile matchString refVm vm []
      (∅, { status := [], failed := false }) := by
    simp [EvaluatedSoFar, Result.Tracks, FailsAt]
  simpa using Loop.foldlM_inv_ok _ (EvaluatedSoFar jsonPathFind regexpCompile matchString refVm vm)
    Rule.PathsParsed
    (fun done acc r hr hacc => by
      obtain ⟨acc', h⟩ := evaluateRule_eq_ok jsonPathFind regexpCompile matchString refVm vm acc hr
      exact ⟨acc', h, evaluatedSoFar_step jsonPathFind regexpCompile matchString refVm hacc h⟩)
    rules [] _ hparsed hstart

end spec

/-! ## A string rule on a number -/

/-- A string rule bounding the length of what is at the path of the CPU cores, which is a
    number. -/
def coresLengthRule : Rule :=
  { rule := .string, name := "cores-length", path := Path.ofExpr ".spec.domain.cpu.cores"
    message := "cores must be given in at most 64 bytes", valid := none, justWarning := false
    values := [], min := none, max := none, minLength := some { int := 1, path := none }
    maxLength := some { int := 64, path := none }, regex := "" }

/-- A well-formed, applicable string rule whose path finds a `uint32` is satisfied instead
    of failing on the value's type: the value is judged by its text `<uint32 Value>`. -/
theorem string_rule_judges_number_by_text {VM : Type}
    (jsonPathFind : String → VM → Except String Results) (regexpCompile : String → Option String)
    (matchString : String → String → Bool) (refVm vm : VM)
    (hfind : jsonPathFind "\x7b.spec.template.spec.domain.cpu.cores\x7d" vm = .ok [[.uint32 4]]) :
    validateRule coresLengthRule = none ∧ coresLengthRule.isAppliableOn jsonPathFind vm = .ok true ∧
      evaluate jsonPathFind regexpCompile matchString refVm [coresLengthRule] vm =
        .ok { status := [{ ref := coresLengthRule, skipped := false, satisfied := true
                           message := "Lengts of all strings are in interval [1, 64]"
                           error := none }]
              failed := false } := by
  -- the lookup is given the rule's path under `.spec.template`
  have hpath : coresLengthRule.path.find jsonPathFind vm = .ok [[.uint32 4]] := by
    simp [Path.find, coresLengthRule, Path.ofExpr, hfind]
  have hlookup : findPathOnVmOrRef jsonPathFind coresLengthRule.path vm refVm = .ok [[.uint32 4]] := by
    rw [findPathOnVmOrRef, hpath]
  have hstrings := decodeStrings_of_found jsonPathFind hlookup
  let length : Range := { minSet := true, min := 1, maxSet := true, max := 64 }
  have hspecialize : coresLengthRule.specialize jsonPathFind regexpCompile vm refVm =
      .ok (.stringRule coresLengthRule length [] false) := rfl
  -- the one value found reads as the 14 bytes of `<uint32 Value>`
  have happly : (RuleApplier.stringRule coresLengthRule length [] false).apply jsonPathFind
      matchString vm refVm = .ok (true, .stringRule coresLengthRule length ["<uint32 Value>"] true) := by
    rw [RuleApplier.apply, hstrings]
    rfl
  have hmessage : (RuleApplier.stringRule coresLengthRule length ["<uint32 Value>"] true).toString =
      "Lengts of all strings are in interval [1, 64]" := by
    decide
  have hvalid : validateRule coresLengthRule = none := rfl
  have happlicable : coresLengthRule.isAppliableOn jsonPathFind vm = .ok true := rfl
  refine ⟨hvalid, happlicable, ?_⟩
  simp only [evaluate, List.foldlM_cons, List.foldlM_nil, evaluateRule, Finset.notMem_empty,
    if_false, hvalid, happlicable, except_ok_bind, Bool.not_true, Bool.false_eq_true,
    hspecialize, happly, hmessage, Result.applied, List.nil_append, except_pure]

theorem cores_length_rule_satisfied_by_number :
    validateRule coresLengthRule = none ∧
      coresLengthRule.isAppliableOn (fun (_ : String) (_ : Unit) => .ok [[.uint32 4]]) () = .ok true ∧
      evaluate (fun (_ : String) (_ : Unit) => .ok [[.uint32 4]]) (fun _ => none) (fun _ _ => true) ()
        [coresLengthRule] () =
        .ok { status := [{ ref := coresLengthRule, skipped := false, satisfied := true
                           message := "Lengts of all strings are in interval [1, 64]"
                           error := none }]
              failed := false } :=
  string_rule_judges_number_by_text (fun (_ : String) (_ : Unit) => .ok [[.uint32 4]])
    (fun _ => none) (fun _ _ => true) () () rfl

/-! ## Admission -/

/-- `v1.CPU`, with the topology fields `setDefaultValues` reads. -/
structure CPU where
  sockets : UInt32
  cores : UInt32
  threads : UInt32
deriving DecidableEq

structure DomainSpec where
  cpu : Option CPU

structure VirtualMachineInstanceSpec where
  domain : DomainSpec

structure VirtualMachineInstanceTemplateSpec where
  spec : VirtualMachineInstanceSpec

/-- `VirtualMachineSpec`. `spec.template` is a pointer in Go; the VM schema requires it,
    and the API server checks a VM against the schema before validating webhooks see it. -/
structure VirtualMachineSpec where
  template : VirtualMachineInstanceTemplateSpec

/-- A `VirtualMachine`: its metadata, the part of its spec the admission code reads, and
    `rest`, every other field, which only the JSONPath lookups read. -/
structure VirtualMachine (ρ : Type) where
  objectMeta : ObjectMeta
  spec : VirtualMachineSpec
  rest : ρ

/-- `setDefaultValues`: when a CPU is set, zero topology counts become 1. -/
def setDefaultValues {ρ : Type} (vm : VirtualMachine ρ) : VirtualMachine ρ :=
  match vm.spec.template.spec.domain.cpu with
  | none => vm
  | some cpu =>
      { vm with
        spec.template.spec.domain.cpu := some
          { sockets := if cpu.sockets = 0 then 1 else cpu.sockets
            cores := if cpu.cores = 0 then 1 else cpu.cores
            threads := if cpu.threads = 0 then 1 else cpu.threads } }

/-- The CPU with every topology count raised to at least 1. -/
def CPU.withTopologyDefaults (cpu : CPU) : CPU :=
  { sockets := max cpu.sockets 1, cores := max cpu.cores 1, threads := max cpu.threads 1 }

/-- A count replaced by 1 when it is zero is the count raised to at least 1. -/
theorem ite_eq_zero_eq_max_one (n : UInt32) : (if n = 0 then 1 else n) = max n 1 := by
  split_ifs with h
  · subst h
    decide
  · have hn : n.toNat ≠ 0 := fun h' => h (UInt32.toNat_inj.mp (by simpa using h'))
    apply UInt32.toNat_inj.mp
    rw [UInt32.toNat_max, UInt32.toNat_one]
    omega

/-- `setDefaultValues` raises the topology counts of a set CPU to at least 1 and changes
    nothing else of the VM. -/
theorem setDefaultValues_eq {ρ : Type} (vm : VirtualMachine ρ) :
    setDefaultValues vm =
      { vm with spec.template.spec.domain.cpu :=
          vm.spec.template.spec.domain.cpu.map CPU.withTopologyDefaults } := by
  obtain ⟨objectMeta, ⟨⟨⟨⟨cpu⟩⟩⟩⟩, rest⟩ := vm
  cases cpu with
  | none => rfl
  | some cpu => simp [setDefaultValues, CPU.withTopologyDefaults, ite_eq_zero_eq_max_one]

section admission

variable {ρ : Type} (jsonPathFind : String → VirtualMachine ρ → Except String Results)
  (regexpCompile : String → Option String) (matchString : String → String → Bool)
  (refVm : VirtualMachine ρ)

/-- `ValidateVm`: with no rules every VM is admitted; otherwise the causes of evaluating
    the rules on the VM with its CPU defaults filled in. -/
def validateVm (rules : List Rule) (vm : VirtualMachine ρ) : Except Fault (List StatusCause) :=
  if rules.length = 0 then pure []
  else do
    let res ← evaluate jsonPathFind regexpCompile matchString refVm rules (setDefaultValues vm)
    pure res.toStatusCauses

end admission

/-- A VM with two cores and no socket count. -/
def twoCoreVm : VirtualMachine Unit :=
  { objectMeta := { name := "vm" }, spec := ⟨⟨⟨⟨some ⟨0, 2, 1⟩⟩⟩⟩⟩, rest := () }

section nilPath

variable {VM : Type} (jsonPathFind : String → VM → Except String Results)
  (regexpCompile : String → Option String) (matchString : String → String → Bool) (refVm : VM)

/-- A well-formed rule of a fresh name that applies and specialises, met after rules whose
    paths are parsed, panics `Evaluate` when its `path` is the zero `Path`: `validateRule`
    does not look at the path, and the lookup of applying it reads the nil JSONPath. -/
theorem evaluate_panics_of_nil_path (vm : VM) (earlier later : List Rule) {r : Rule}
    (hearlier : ∀ r' ∈ earlier, r'.PathsParsed) (hname : r.name ∉ earlier.map Rule.name)
    (hvalid : validateRule r = none) (happ : r.isAppliableOn jsonPathFind vm = .ok true)
    {ra : RuleApplier} (hs : r.specialize jsonPathFind regexpCompile vm refVm = .ok ra)
    (hnil : r.path.path = none) :
    evaluate jsonPathFind regexpCompile matchString refVm (earlier ++ r :: later) vm =
      .error nilDereference := by
  obtain ⟨acc, hloop, hnames, -⟩ :=
    evaluate_foldlM_spec jsonPathFind regexpCompile matchString refVm vm hearlier
  have hseen : r.name ∉ acc.1 := by
    rw [hnames, List.mem_toFinset]
    exact hname
  have ha : ra.apply jsonPathFind matchString vm refVm = .error nilDereference :=
    ra.apply_of_nil_path jsonPathFind matchString
      ((r.specialize_ref jsonPathFind regexpCompile hs).symm ▸ hnil) vm refVm
  have hstep : evaluateRule jsonPathFind regexpCompile matchString refVm vm acc r =
      .error nilDereference := by
    simp only [evaluateRule, hseen, if_false, hvalid, happ, except_ok_bind, Bool.not_true,
      Bool.false_eq_true, hs, ha, nilDereference, except_throw]
  rw [evaluate, List.foldlM_append, hloop, except_ok_bind, List.foldlM_cons, hstep,
    except_error_bind, except_error_bind]

end nilPath

/-- The same rule list panics `ValidateVm`, where the rule applies to the VM with its CPU
    defaults filled in. -/
theorem validateVm_panics_of_nil_path {ρ : Type}
    (jsonPathFind : String → VirtualMachine ρ → Except String Results)
    (regexpCompile : String → Option String) (matchString : String → String → Bool)
    (refVm vm : VirtualMachine ρ) (earlier later : List Rule) {r : Rule}
    (hearlier : ∀ r' ∈ earlier, r'.PathsParsed) (hname : r.name ∉ earlier.map Rule.name)
    (hvalid : validateRule r = none)
    (happ : r.isAppliableOn jsonPathFind (setDefaultValues vm) = .ok true) {ra : RuleApplier}
    (hs : r.specialize jsonPathFind regexpCompile (setDefaultValues vm) refVm = .ok ra)
    (hnil : r.path.path = none) :
    validateVm jsonPathFind regexpCompile matchString refVm (earlier ++ r :: later) vm =
      .error nilDereference := by
  unfold validateVm
  rw [if_neg (by simp), evaluate_panics_of_nil_path jsonPathFind regexpCompile matchString refVm
    (setDefaultValues vm) earlier later hearlier hname hvalid happ hs hnil, except_error_bind]

/-- A rule of a template bounding the CPU cores, without a `path` member. -/
def pathlessRuleDoc : Json :=
  .array [.object [("rule", .string "integer"), ("name", .string "core-limits"),
    ("message", .string "cpu cores must be limited"), ("max", .number 4)]]

/-- The rule `pathlessRuleDoc` decodes to: its `path` is the zero `Path`. -/
def pathlessRule : Rule :=
  { Rule.zero with
    rule := .integer, name := "core-limits", message := "cpu cores must be limited"
    max := some { int := 4, path := none } }

/-- `ParseRules` accepts a rule without a `path` member, and the rule panics `ValidateVm` on
    every VM, instead of failing it as a malformed rule. -/
theorem pathlessRule_panics_validateVm {ρ : Type}
    (jsonPathFind : String → VirtualMachine ρ → Except String Results)
    (regexpCompile : String → Option String) (matchString : String → String → Bool)
    (refVm vm : VirtualMachine ρ) :
    unmarshalRules (fun _ => none) pathlessRuleDoc = .ok [pathlessRule] ∧
      validateVm jsonPathFind regexpCompile matchString refVm [pathlessRule] vm =
        .error nilDereference := by
  constructor
  · have hfour : IntOrPath.unmarshalJSON (fun _ => none) (.number 4) =
        .ok { int := 4, path := none } := by
      simpa using IntOrPath.unmarshalJSON_intCast (fun _ => none) (show (4 : ℤ).natAbs ≤ 2 ^ 53 by decide)
    simp [unmarshalRules, pathlessRuleDoc, decodeRulesStep, decodeRule, decodeRuleMember,
      ruleFieldFor, ruleFields, RuleField.jsonName, decodeField, stringField, intOrPathField, hfour]
    rfl
  · exact validateVm_panics_of_nil_path jsonPathFind regexpCompile matchString refVm vm [] []
      (by simp) (by simp) rfl rfl rfl rfl

end SspOperator.TemplateValidator
