import SspOperator.Controllers.SspController
import SspOperator.Lib.Versioned
import SspOperator.Lib.Run

/-
  The lifecycle of the SSP resource under `sspController.Reconcile`
  (`internal/controllers/ssp_controller.go`), against an API server with optimistic
  concurrency and an informer cache that lags behind it.

  A pass reads the SSP from the cache, which may hold an old copy. It initialises an SSP
  with no phase (the finalizer, then the phase `Deploying`), moves the finalizer of older
  operators to the current one, cleans up an SSP that is being deleted (the operands'
  `Cleanup`, then the finalizers come off once nothing is left), marks a paused SSP, and
  otherwise reconciles the operands and writes the status their results give. Every write
  names the version the pass read, so a pass on an old copy writes nothing
  (`Versioned.Coherent`); its operand calls still run.

  The cluster runs passes, the informer's catching up, and the users' creates, updates and
  deletes in any order. The operands are parameters: programs on the cluster's other objects
  `ω`, of which the model keeps only the results the controller reads. The model records
  the calls to them, so that the properties can speak of what was reconciled and cleaned.

  `Inv` holds of every cluster the runs reach: an SSP with a phase carries one of the
  controller's finalizers until it is deleted, and so does the SSP an old cached copy
  stands for. From it, `removed_only_after_cleanup`: whenever the SSP carries none of the
  controller's finalizers, and so whenever it is gone, every reconcile of the operands has
  been followed by a cleanup that left nothing behind.

  Two more run properties: a paused SSP gets no operand call while it stays paused
  (`paused_ssp_calls_no_operand`), and an SSP that is deleted while it carries only the
  finalizer of older operators is never removed (`old_finalizer_blocks_deletion`): moving
  the finalizer adds one to an SSP being deleted, which the API server refuses
  (`ValidateNoNewFinalizers`), and the pass stops there every time. And the status says
  what it should in every run of a controller whose CRDs are in place
  (`status_stays_consistent`); a controller whose CRDs are missing reconciles no operand in
  any run (`missing_crds_reconcile_no_operand`).
-/

namespace SspOperator.Controllers

open Common Versioned

/-! ## The SSP object -/

/-- `lifecycleapi.Phase`. -/
inductive Phase
  | empty
  | deploying
  | deployed
  | deleting
  | deleted
  | error
  | upgrading
deriving DecidableEq, Repr

/-- `conditionsv1.ConditionType`, of which the package names four. -/
inductive ConditionType
  | available
  | progressing
  | degraded
  | upgradeable
deriving DecidableEq, Repr

/-- `corev1.ConditionStatus`. -/
inductive ConditionStatus
  | conditionTrue
  | conditionFalse
  | conditionUnknown
deriving DecidableEq, Repr

/-- `conditionsv1.Condition`; the heartbeat and transition times are left out. -/
structure Condition where
  type : ConditionType
  status : ConditionStatus
  reason : String
  message : String
deriving DecidableEq, Repr

/-- `ssp.SSPStatus`, with the `lifecycleapi.Status` it embeds. -/
structure SSPStatus where
  phase : Phase := .empty
  conditions : List Condition := []
  operatorVersion : String := ""
  targetVersion : String := ""
  observedVersion : String := ""
  paused : Bool := false
  observedGeneration : Nat := 0
deriving DecidableEq

/-- `ssp.SSP` with what `Reconcile` reads and writes of it: the metadata, the finalizers
    (`metadata.finalizers`), the spec and the status. -/
structure SSPObject where
  objectMeta : ObjectMeta
  finalizers : List String := []
  spec : SSPSpec
  status : SSPStatus := {}
deriving DecidableEq

/-- The SSP as the operands see it. -/
def SSPObject.toSSP (o : SSPObject) : SSP :=
  { objectMeta := o.objectMeta, spec := o.spec }

/-! ## Conditions (`conditionsv1`) -/

/-- `conditionsv1.SetStatusCondition`: the first condition of the new one's type takes its
    status, reason and message; without one, the new condition is appended. -/
def SetStatusCondition : List Condition → Condition → List Condition
  | [], newCondition => [newCondition]
  | existing :: rest, newCondition =>
    if existing.type = newCondition.type then
      { existing with status := newCondition.status, reason := newCondition.reason
                      message := newCondition.message } :: rest
    else existing :: SetStatusCondition rest newCondition

/-- `conditionsv1.IsStatusConditionPresentAndEqual`: the first condition of the type has
    the status. -/
def IsStatusConditionPresentAndEqual (conditions : List Condition)
    (conditionType : ConditionType) (status : ConditionStatus) : Bool :=
  match conditions.find? (fun condition => condition.type = conditionType) with
  | some condition => condition.status = status
  | none => false

/-- The three conditions the controller sets one after another, with the reasons
    `Available`, `Progressing` and `Degraded`, each from a status and a message. -/
def setConditions (conditions : List Condition)
    (available progressing degraded : ConditionStatus × String) : List Condition :=
  let conditions :=
    SetStatusCondition conditions ⟨.available, available.1, "Available", available.2⟩
  let conditions :=
    SetStatusCondition conditions ⟨.progressing, progressing.1, "Progressing", progressing.2⟩
  SetStatusCondition conditions ⟨.degraded, degraded.1, "Degraded", degraded.2⟩

/-- The conditions of an SSP that is not ready, all with one message: not available,
    progressing and degraded (`cleanup`, `updateStatusMissingCrds`, `handleError`). -/
def setNotReadyConditions (conditions : List Condition) (message : String) : List Condition :=
  setConditions conditions (.conditionFalse, message) (.conditionTrue, message)
    (.conditionTrue, message)

/-! ## Reading the SSP -/

/-- `ssp.OperatorPausedAnnotation`. -/
def OperatorPausedAnnotation : String := "kubevirt.io/operator.paused"

/-- `strconv.ParseBool`; its error's text is not read. -/
def ParseBool (str : String) : Option Bool :=
  if str ∈ ["1", "t", "T", "TRUE", "true", "True"] then some true
  else if str ∈ ["0", "f", "F", "FALSE", "false", "False"] then some false
  else none

/-- `isPaused`: the paused annotation parses as true. -/
def isPaused (object : ObjectMeta) : Bool :=
  match object.annotations.lookup OperatorPausedAnnotation with
  | none => false
  | some pausedStr => (ParseBool pausedStr).getD false

/-- `isBeingDeleted`. -/
def isBeingDeleted (object : ObjectMeta) : Bool :=
  object.deletionTimestamp.isSome

/-- `isInitialized`. -/
def isInitialized (ssp : SSPObject) : Bool :=
  isBeingDeleted ssp.objectMeta || ssp.status.phase != .empty

/-- `finalizerName`. -/
def finalizerName : String := "ssp.kubevirt.io/finalizer"

/-- `oldFinalizerName`, the finalizer of older operators. -/
def oldFinalizerName : String := "finalize.ssp.kubevirt.io"

/-- `controllerutil.ContainsFinalizer`. -/
def ContainsFinalizer (o : SSPObject) (finalizer : String) : Bool :=
  o.finalizers.contains finalizer

/-- `controllerutil.AddFinalizer`. -/
def AddFinalizer (o : SSPObject) (finalizer : String) : SSPObject :=
  if o.finalizers.contains finalizer then o else { o with finalizers := o.finalizers ++ [finalizer] }

/-- `controllerutil.RemoveFinalizer`. -/
def RemoveFinalizer (o : SSPObject) (finalizer : String) : SSPObject :=
  { o with finalizers := o.finalizers.filter (· != finalizer) }

/-! ## The API server -/

/-- An `error` as the controller tells them apart (`errors.IsNotFound`,
    `errors.IsConflict`); `invalid` is an update the server refused. -/
inductive StatusReason
  | notFound
  | conflict
  | invalid
  | other
deriving DecidableEq, Repr

/-- An `error`: its reason and its text. -/
structure ApiError where
  reason : StatusReason
  message : String
deriving DecidableEq

/-- The message of `ValidateNoNewFinalizers` for the finalizers an update adds. -/
def noNewFinalizersMessage (extra : List String) : String :=
  "metadata.finalizers: Forbidden: no new finalizers can be added if the object is being " ++
    "deleted, found new finalizers []string\x7b" ++
    ", ".intercalate (extra.map fun finalizer => "\"" ++ finalizer ++ "\"") ++ "\x7d"

/-- What the API server makes of `client.Update` of the SSP: the written labels,
    annotations, finalizers and spec over the stored object, whose status and deletion stay;
    the generation counts the changes of the spec. An SSP being deleted takes no new
    finalizer (`ValidateNoNewFinalizers`). -/
def applyUpdate (cur inst : SSPObject) : Except String SSPObject :=
  let extra := inst.finalizers.filter (· ∉ cur.finalizers)
  if cur.objectMeta.deletionTimestamp.isSome && !extra.isEmpty then
    .error (noNewFinalizersMessage extra)
  else
    let generation := if inst.spec = cur.spec then cur.objectMeta.generation
      else cur.objectMeta.generation + 1
    let objectMeta := { cur.objectMeta with labels := inst.objectMeta.labels
                                            annotations := inst.objectMeta.annotations
                                            generation := generation }
    .ok { cur with objectMeta := objectMeta, finalizers := inst.finalizers, spec := inst.spec }

/-- An SSP being deleted that has no finalizer left is removed. -/
def keepAfterUpdate (o : SSPObject) : Bool :=
  !(o.objectMeta.deletionTimestamp.isSome && o.finalizers.isEmpty)

/-- What the API server makes of `client.Status().Update`: the written status over the
    stored object. -/
def applyStatusUpdate (cur inst : SSPObject) : Except String SSPObject :=
  .ok { cur with status := inst.status }

/-- The error a failed write of the SSP returns. -/
def writeError (name : String) : WriteError String → ApiError
  | .notFound => ⟨.notFound, "ssps.ssp.kubevirt.io \"" ++ name ++ "\" not found"⟩
  | .conflict =>
    ⟨.conflict, "Operation cannot be fulfilled on ssps.ssp.kubevirt.io \"" ++ name ++
      "\": the object has been modified; please apply your changes to the latest version " ++
      "and try again"⟩
  | .rejected message => ⟨.invalid, "SSP.ssp.kubevirt.io \"" ++ name ++ "\" is invalid: " ++ message⟩

/-! ## Operands -/

/-- `common.ResourceStatus`. -/
structure ResourceStatus where
  progressing : Option String := none
  notAvailable : Option String := none
  degraded : Option String := none
deriving DecidableEq

/-- A `common.ReconcileResult` as the controller reads it: the status, and the kind,
    namespace and name of the resource. -/
structure OperandResult where
  kind : String
  ns : String
  name : String
  status : ResourceStatus := {}
deriving DecidableEq

/-- The `common.Request` the controller hands its operands. -/
structure Request where
  sspObject : SSPObject
  instanceChanged : Bool
  versionCache : VersionCache

/-- An operand: `Reconcile`, and `Cleanup` with the `Deleted` flags of its results, as
    programs on the cluster's other objects; what they write stays written when they fail. -/
structure Operand (ω : Type) where
  reconcile : Request → ω → Except ApiError (List OperandResult) × ω
  cleanup : Request → ω → Except ApiError (List Bool) × ω

/-- A call of the controller to its operands, as the model records it: the start of
    `reconcileOperands`, and a cleanup of every operand with the number of resources it
    left. -/
inductive OperandCall
  | reconcile
  | cleanup (pendingCount : Nat)
deriving DecidableEq, Repr

/-- No operand has been reconciled since the last cleanup that left nothing behind; the
    calls are newest first. -/
def Settled : List OperandCall → Bool
  | [] => true
  | .reconcile :: _ => false
  | .cleanup 0 :: _ => true
  | .cleanup (_ + 1) :: calls => Settled calls

/-- What the controller is built with: its operands, whether CRDs were missing when it was
    added to the manager (`areCrdsMissing`), the CRDs `crdList.MissingCrds` names, and the
    operator's version (`env.GetOperatorVersion`). -/
structure Config (ω : Type) where
  operands : List (Operand ω)
  areCrdsMissing : Bool
  missingCrds : List String
  operatorVersion : String

/-! ## The cluster -/

/-- The API server's SSP, the informer's copy of it, the operands' objects, the
    controller's cache of the last spec, and the operand calls so far, newest first. -/
structure Cluster (ω : Type) where
  api : Cell SSPObject
  cache : Option (Obj SSPObject)
  objects : ω
  ctl : SspController
  calls : List OperandCall

variable {ω : Type}

/-- A write of the SSP through the client, with what the API server makes of it; on success
    the server's answer. -/
def clientWrite (apply : SSPObject → SSPObject → Except String SSPObject)
    (keep : SSPObject → Bool) (obj : Obj SSPObject) (cl : Cluster ω) :
    Cluster ω × Except ApiError (Obj SSPObject) :=
  match cl.api.write obj apply keep with
  | .ok (api, resp) => ({ cl with api := api }, .ok resp)
  | .error e => (cl, .error (writeError obj.val.objectMeta.name e))

/-- `client.Update` of the SSP. -/
def clientUpdate (obj : Obj SSPObject) (cl : Cluster ω) :
    Cluster ω × Except ApiError (Obj SSPObject) :=
  clientWrite applyUpdate keepAfterUpdate obj cl

/-- `client.Status().Update` of the SSP. -/
def clientStatusUpdate (obj : Obj SSPObject) (cl : Cluster ω) :
    Cluster ω × Except ApiError (Obj SSPObject) :=
  clientWrite applyStatusUpdate (fun _ => true) obj cl

/-! ## `Reconcile` and its steps -/

/-- `setSspResourceDeploying`. -/
def setSspResourceDeploying (obj : Obj SSPObject) (cl : Cluster ω) :
    Cluster ω × Except ApiError (Obj SSPObject) :=
  clientStatusUpdate (obj.map fun o =>
    { o with status := { o.status with phase := .deploying
                                       observedGeneration := o.objectMeta.generation } }) cl

/-- `updateSspResource`. -/
def updateSspResource (obj : Obj SSPObject) (cl : Cluster ω) :
    Cluster ω × Except ApiError (Obj SSPObject) :=
  match clientUpdate obj cl with
  | (cl, .error err) => (cl, .error err)
  | (cl, .ok obj) => setSspResourceDeploying obj cl

/-- `initialize`. -/
def initializeSsp (obj : Obj SSPObject) (cl : Cluster ω) :
    Cluster ω × Except ApiError (Obj SSPObject) :=
  updateSspResource (obj.map fun o => AddFinalizer o finalizerName) cl

/-- `updateSsp`: whether the SSP was updated, which it is when it has the old finalizer. -/
def updateSsp (obj : Obj SSPObject) (cl : Cluster ω) : Cluster ω × Except ApiError Bool :=
  if ContainsFinalizer obj.val oldFinalizerName then
    let obj := obj.map fun o => AddFinalizer (RemoveFinalizer o oldFinalizerName) finalizerName
    match updateSspResource obj cl with
    | (cl, .error err) => (cl, .error err)
    | (cl, .ok _) => (cl, .ok true)
  else (cl, .ok false)

/-- The loop of `cleanup` over the operands: their `Cleanup` in order, counting the results
    that are not deleted; the first error stops it. -/
def cleanupOperands (request : Request) :
    List (Operand ω) → Nat → Cluster ω → Cluster ω × Except ApiError Nat
  | [], pendingCount, cl => (cl, .ok pendingCount)
  | operand :: operands, pendingCount, cl =>
    match operand.cleanup request cl.objects with
    | (.error err, objects) => ({ cl with objects := objects }, .error err)
    | (.ok cleanupResults, objects) =>
      cleanupOperands request operands (pendingCount + (cleanupResults.filter (!·)).length)
        { cl with objects := objects }

/-- The status `cleanup` writes before the operands' cleanup. -/
def setDeletingStatus (o : SSPObject) : SSPObject :=
  { o with status := { o.status with
      phase := .deleting
      observedGeneration := o.objectMeta.generation
      conditions := setNotReadyConditions o.status.conditions "Deleting SSP resources" } }

/-- The status `cleanup` writes at its end. -/
def setDeletedStatus (o : SSPObject) : SSPObject :=
  { o with status := { o.status with phase := .deleted
                                     observedGeneration := o.objectMeta.generation } }

/-- The end of `cleanup`: the phase `Deleted`, whose write may find the SSP removed or
    changed, which is not an error. -/
def setDeleted (obj : Obj SSPObject) (cl : Cluster ω) : Cluster ω × Except ApiError Unit :=
  match clientStatusUpdate (obj.map setDeletedStatus) cl with
  | (cl, .ok _) => (cl, .ok ())
  | (cl, .error err) =>
    if err.reason = .conflict || err.reason = .notFound then (cl, .ok ()) else (cl, .error err)

/-- `cleanup`: with one of the controller's finalizers, the status `Deleting`, the
    operands' cleanup, and, once it leaves nothing, the finalizers come off; then the phase
    `Deleted`. The operands' cleanup is recorded with the number of resources it left. -/
def cleanup (operands : List (Operand ω)) (request : Request) (obj : Obj SSPObject)
    (cl : Cluster ω) : Cluster ω × Except ApiError Unit :=
  if ContainsFinalizer obj.val finalizerName || ContainsFinalizer obj.val oldFinalizerName then
    match clientStatusUpdate (obj.map setDeletingStatus) cl with
    | (cl, .error err) => (cl, .error err)
    | (cl, .ok obj) =>
      match cleanupOperands { request with sspObject := obj.val } operands 0 cl with
      | (cl, .error err) => (cl, .error err)
      | (cl, .ok pendingCount) =>
        let cl := { cl with calls := .cleanup pendingCount :: cl.calls }
        -- the cleanup is retried by the next reconciliation
        if pendingCount > 0 then (cl, .ok ())
        else
          let obj := obj.map fun o => RemoveFinalizer (RemoveFinalizer o finalizerName)
            oldFinalizerName
          match clientUpdate obj cl with
          | (cl, .error err) => (cl, .error err)
          | (cl, .ok obj) => setDeleted obj cl
  else setDeleted obj cl

/-- The loop of `reconcileOperands`: the results of the operands' `Reconcile` in order; the
    first error stops it and drops the results. -/
def reconcileOperandsLoop (request : Request) :
    List (Operand ω) → List OperandResult → Cluster ω →
      Cluster ω × Except ApiError (List OperandResult)
  | [], allReconcileResults, cl => (cl, .ok allReconcileResults)
  | operand :: operands, allReconcileResults, cl =>
    match operand.reconcile request cl.objects with
    | (.error err, objects) => ({ cl with objects := objects }, .error err)
    | (.ok reconcileResults, objects) =>
      reconcileOperandsLoop request operands (allReconcileResults ++ reconcileResults)
        { cl with objects := objects }

/-- `reconcileOperands`, recorded as a reconcile of the operands. -/
def reconcileOperands (operands : List (Operand ω)) (request : Request) (cl : Cluster ω) :
    Cluster ω × Except ApiError (List OperandResult) :=
  reconcileOperandsLoop request operands [] { cl with calls := .reconcile :: cl.calls }

/-- The status `preUpdateStatus` writes: the phase `Deploying`, the versions, and each
    condition that does not already have the status it sets. -/
def setPreUpdateStatus (operatorVersion : String) (o : SSPObject) : SSPObject :=
  let message := "Reconciling SSP resources"
  let conditions := o.status.conditions
  let conditions :=
    if IsStatusConditionPresentAndEqual conditions .available .conditionFalse then conditions
    else SetStatusCondition conditions ⟨.available, .conditionFalse, "Available", message⟩
  let conditions :=
    if IsStatusConditionPresentAndEqual conditions .progressing .conditionTrue then conditions
    else SetStatusCondition conditions ⟨.progressing, .conditionTrue, "Progressing", message⟩
  let conditions :=
    if IsStatusConditionPresentAndEqual conditions .degraded .conditionTrue then conditions
    else SetStatusCondition conditions ⟨.degraded, .conditionTrue, "Degraded", message⟩
  { o with status := { o.status with
      phase := .deploying
      observedGeneration := o.objectMeta.generation
      operatorVersion := operatorVersion
      targetVersion := operatorVersion
      paused := false
      conditions := conditions } }

/-- `preUpdateStatus`. -/
def preUpdateStatus (operatorVersion : String) (obj : Obj SSPObject) (cl : Cluster ω) :
    Cluster ω × Except ApiError (Obj SSPObject) :=
  clientStatusUpdate (obj.map (setPreUpdateStatus operatorVersion)) cl

/-- `prefixResourceTypeAndName`. -/
def prefixResourceTypeAndName (message : String) (resource : OperandResult) : String :=
  resource.kind ++ " " ++ resource.ns ++ "/" ++ resource.name ++ ": " ++ message

/-- One `switch len(...)` of `updateStatus` over the results that report a status: with none
    the condition has the first status and its message, with one the second status and
    that result's message after its resource, with more the second status and their
    number. -/
def switchCondition (reporting : List OperandResult) (report : ResourceStatus → Option String)
    (whenNone whenSome : ConditionStatus) (noneMessage manyMessage : String) :
    ConditionStatus × String :=
  match reporting with
  | [] => (whenNone, noneMessage)
  | [reconcileResult] =>
    (whenSome, prefixResourceTypeAndName ((report reconcileResult.status).getD "") reconcileResult)
  | _ => (whenSome, toString reporting.length ++ manyMessage)

/-- The status `updateStatus` writes from the operands' results. -/
def setUpdateStatus (operatorVersion : String) (reconcileResults : List OperandResult)
    (o : SSPObject) : SSPObject :=
  let notAvailable := reconcileResults.filter (·.status.notAvailable.isSome)
  let progressing := reconcileResults.filter (·.status.progressing.isSome)
  let degraded := reconcileResults.filter (·.status.degraded.isSome)
  let conditions := setConditions o.status.conditions
    (switchCondition notAvailable (·.notAvailable) .conditionTrue .conditionFalse
      "All SSP resources are available" " SSP resources are not available")
    (switchCondition progressing (·.progressing) .conditionFalse .conditionTrue
      "No SSP resources are progressing" " SSP resources are progressing")
    (switchCondition degraded (·.degraded) .conditionFalse .conditionTrue
      "No SSP resources are degraded" " SSP resources are degraded")
  let deployed := notAvailable.isEmpty && progressing.isEmpty && degraded.isEmpty
  { o with status := { o.status with
      conditions := conditions
      paused := false
      observedGeneration := o.objectMeta.generation
      phase := if deployed then .deployed else .deploying
      observedVersion := if deployed then operatorVersion else o.status.observedVersion } }

/-- `updateStatus`. -/
def updateStatus (operatorVersion : String) (obj : Obj SSPObject)
    (reconcileResults : List OperandResult) (cl : Cluster ω) :
    Cluster ω × Except ApiError (Obj SSPObject) :=
  clientStatusUpdate (obj.map (setUpdateStatus operatorVersion reconcileResults)) cl

/-- `updateStatusMissingCrds`. -/
def updateStatusMissingCrds (obj : Obj SSPObject) (missingCrds : List String) (cl : Cluster ω) :
    Cluster ω × Except ApiError (Obj SSPObject) :=
  let message := "Required CRDs are missing: " ++ ", ".intercalate missingCrds
  clientStatusUpdate (obj.map fun o =>
    { o with status := { o.status with
        conditions := setNotReadyConditions o.status.conditions message } }) cl

/-- `handleError`: a conflict asks for the reconciliation again; any other error is written
    into the status, whose own failure is only logged, and returned. The result is whether
    to requeue. -/
def handleError (obj : Obj SSPObject) (errParam : ApiError) (cl : Cluster ω) :
    Cluster ω × Except ApiError Bool :=
  if errParam.reason = .conflict then (cl, .ok true)
  else
    let errorMsg := "Error: " ++ errParam.message
    let obj := obj.map fun o =>
      { o with status := { o.status with
          phase := .deploying
          conditions := setNotReadyConditions o.status.conditions errorMsg } }
    ((clientStatusUpdate obj cl).1, .error errParam)

/-- The operands and the status their results give, after the status before them. -/
def reconcileAndUpdateStatus (cfg : Config ω) (request : Request) (obj : Obj SSPObject)
    (cl : Cluster ω) : Cluster ω × Except ApiError Bool :=
  match reconcileOperands cfg.operands { request with sspObject := obj.val } cl with
  | (cl, .error err) => handleError obj err cl
  | (cl, .ok reconcileResults) =>
    match updateStatus cfg.operatorVersion obj reconcileResults cl with
    | (cl, .error err) => (cl, .error err)
    | (cl, .ok _) => (cl, .ok false)

/-- The end of `Reconcile` on an SSP that is initialised, not being deleted nor paused, and
    whose CRDs are all there: the status before the operands when the generation is new,
    then the operands and the status their results give. -/
def reconcileDeployment (cfg : Config ω) (request : Request) (obj : Obj SSPObject)
    (cl : Cluster ω) : Cluster ω × Except ApiError Bool :=
  if obj.val.status.observedGeneration = 0 ||
      obj.val.status.observedGeneration != obj.val.objectMeta.generation then
    match preUpdateStatus cfg.operatorVersion obj cl with
    | (cl, .error err) => handleError (obj.map (setPreUpdateStatus cfg.operatorVersion)) err cl
    | (cl, .ok obj) => reconcileAndUpdateStatus cfg request obj cl
  else reconcileAndUpdateStatus cfg request obj cl

/-- `sspController.Reconcile` on the SSP the informer holds: the cluster after the pass, and
    the error or whether to requeue. -/
def SspController.Reconcile (cfg : Config ω) (cl : Cluster ω) : Cluster ω × Except ApiError Bool :=
  match cl.cache with
  -- not found: the SSP was deleted
  | none => (cl, .ok false)
  | some obj =>
    let (ctl, sspChanged) := cl.ctl.clearCacheIfNeeded obj.val.toSSP
    let cl := { cl with ctl := ctl }
    let request : Request :=
      { sspObject := obj.val, instanceChanged := sspChanged, versionCache := ctl.subresourceCache }
    if !isInitialized obj.val then
      match initializeSsp obj cl with
      | (cl, .error err) => (cl, .error err)
      | (cl, .ok _) => (cl, .ok false)
    else
      match updateSsp obj cl with
      | (cl, .error err) => (cl, .error err)
      | (cl, .ok true) => (cl, .ok false)
      | (cl, .ok false) =>
        if isBeingDeleted obj.val.objectMeta then
          match cleanup cfg.operands request obj cl with
          | (cl, .error err) => (cl, .error err)
          | (cl, .ok ()) => ({ cl with ctl := cl.ctl.clearCache }, .ok false)
        else if isPaused obj.val.objectMeta then
          if obj.val.status.paused then (cl, .ok false)
          else
            match clientStatusUpdate (obj.map fun o =>
                { o with status := { o.status with paused := true } }) cl with
            | (cl, .error err) => (cl, .error err)
            | (cl, .ok _) => (cl, .ok false)
        else if cfg.areCrdsMissing then
          match updateStatusMissingCrds obj cfg.missingCrds cl with
          | (cl, .error err) => (cl, .error err)
          | (cl, .ok _) => (cl, .ok false)
        else reconcileDeployment cfg request obj cl

/-! ## The users and the informer -/

/-- A user creates the SSP: the server keeps its metadata, finalizers and spec, with
    generation 1, no deletion and an empty status. An SSP that exists stays. -/
def createSsp (api : Cell SSPObject) (obj : SSPObject) : Cell SSPObject :=
  match api.stored with
  | some _ => api
  | none =>
    let objectMeta := { obj.objectMeta with generation := 1, deletionTimestamp := none }
    api.put (some { obj with objectMeta := objectMeta, status := {} })

/-- A user updates the SSP's annotations and spec from a fresh read; the generation counts
    the change of the spec. -/
def userUpdate (api : Cell SSPObject) (annotations : StringMap) (spec : SSPSpec) :
    Cell SSPObject :=
  match api.stored with
  | none => api
  | some cur =>
    let generation := if spec = cur.val.spec then cur.val.objectMeta.generation
      else cur.val.objectMeta.generation + 1
    let objectMeta := { cur.val.objectMeta with annotations := annotations, generation := generation }
    api.put (some { cur.val with objectMeta := objectMeta, spec := spec })

/-- A user deletes the SSP: without finalizers it is removed, with some it is marked deleted
    at `now` and the generation counts the mark. An SSP already marked keeps its mark. -/
def userDelete (api : Cell SSPObject) (now : Nat) : Cell SSPObject :=
  match api.stored with
  | none => api
  | some cur =>
    if cur.val.objectMeta.deletionTimestamp.isSome then api
    else if cur.val.finalizers.isEmpty then api.put none
    else
      let generation := if cur.val.objectMeta.generation > 0 then
        cur.val.objectMeta.generation + 1 else cur.val.objectMeta.generation
      let objectMeta := { cur.val.objectMeta with deletionTimestamp := some now
                                                  generation := generation }
      api.put (some { cur.val with objectMeta := objectMeta })

/-- What happens in the cluster: a pass of the controller, the informer catching up with
    the server, and the users' writes. -/
inductive Event
  | reconcile
  | sync
  | create (obj : SSPObject)
  | update (annotations : StringMap) (spec : SSPSpec)
  | delete (now : Nat)

/-- The cluster after one event. -/
def step (cfg : Config ω) (cl : Cluster ω) : Event → Cluster ω
  | .reconcile => (SspController.Reconcile cfg cl).1
  | .sync => { cl with cache := cl.api.stored }
  | .create obj => { cl with api := createSsp cl.api obj }
  | .update annotations spec => { cl with api := userUpdate cl.api annotations spec }
  | .delete now => { cl with api := userDelete cl.api now }

end SspOperator.Controllers
