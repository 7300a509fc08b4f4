import SspOperator.Operands.TemplateValidator

/-
  The SSP controller's version cache across reconciliations
  (`internal/controllers/ssp_controller.go`).

  The controller keeps one `VersionCache` for all its passes. `clearCacheIfNeeded` empties
  it when the SSP's spec differs from the spec of the last pass; nothing else about the SSP
  is compared. A pass here is `Reconcile` on an SSP that is initialised, not being deleted,
  not paused and with every CRD present, and the operand it reconciles is the template
  validator's Deployment.

  The fast path of the cache skips the update function for a found version that the
  operator wrote itself, which is sound only while the desired object depends on nothing
  but the SSP's spec. The Deployment's pod template depends on the SSP's labels too: after
  the SSP's part-of label changes, the fast path writes the new label into the
  Deployment's own labels but keeps the old one in the pod template, where a pass that
  always calls the update function writes the new one.
-/

namespace SspOperator.Controllers

open Common Operands

/-- The cache state of `sspController`. -/
structure SspController where
  lastSspSpec : SSPSpec
  subresourceCache : VersionCache

/-- A controller that has reconciled nothing yet. -/
def SspController.init : SspController :=
  { lastSspSpec := default, subresourceCache := VersionCache.empty }

/-- `clearCacheIfNeeded`: the controller after the check, and whether the spec changed. -/
def SspController.clearCacheIfNeeded (s : SspController) (sspObj : SSP) : SspController × Bool :=
  if s.lastSspSpec ≠ sspObj.spec then
    ({ subresourceCache := VersionCache.empty, lastSspSpec := sspObj.spec }, true)
  else (s, false)

/-- `clearCache`. -/
def SspController.clearCache (s : SspController) : SspController :=
  { s with lastSspSpec := default, subresourceCache := VersionCache.empty }

/-- One pass of `sspController.Reconcile` over the template validator's Deployment. With
    `alwaysCall` the builder behaves as if `AlwaysCallUpdateFunc` were set. -/
def SspController.reconcilePass (image : String) (singleReplica alwaysCall : Bool)
    (s : SspController) (sspObj : SSP) (store : Store DeploymentSpec) :
    Except Fault (SspController × Store DeploymentSpec) := do
  let s := (s.clearCacheIfNeeded sspObj).1
  let builder ← reconcileDeployment image singleReplica sspObj
  let builder := { builder with options :=
    { alwaysCallUpdateFunc := builder.options.alwaysCallUpdateFunc || alwaysCall } }
  let out ← (builder.Reconcile deploymentType sspObj store s.subresourceCache).mapError .error
  pure ({ s with subresourceCache := out.cache }, out.store)

/-- Passes on the SSP as it is at each of them. -/
def SspController.runPasses (image : String) (singleReplica alwaysCall : Bool)
    (s : SspController) (ssps : List SSP) (store : Store DeploymentSpec) :
    Except Fault (SspController × Store DeploymentSpec) :=
  ssps.foldlM (fun acc sspObj => reconcilePass image singleReplica alwaysCall acc.1 sspObj acc.2)
    (s, store)

/-- The SSP with a part-of label and an otherwise fixed spec. -/
def sspPartOf (partOf : String) : SSP :=
  { objectMeta := { name := "ssp-sample", ns := "kubevirt", uid := "ssp-uid"
                    labels := StringMap.ofList [(AppKubernetesPartOfLabel, partOf)] }
    spec := { commonTemplates := { ns := "openshift" } } }

/-- The part-of label of the stored Deployment and of its pod template. -/
def deploymentPartOf (result : SspController × Store DeploymentSpec) : Option (String × String) :=
  (result.2.get { ns := "kubevirt", name := DeploymentName }).map fun d =>
    (d.objectMeta.labels.get AppKubernetesPartOfLabel,
      d.body.template.objectMeta.labels.get AppKubernetesPartOfLabel)

/-- Two passes, the SSP's part-of label changing from `A` to `B` in between: with the
    version cache the Deployment gets label `B` and its pod template keeps `A`; with the
    update function always called both get `B`. -/
theorem cache_fast_path_keeps_stale_pod_labels :
    (SspController.runPasses "validator-image" false false SspController.init
        [sspPartOf "A", sspPartOf "B"] (Store.empty true)).map deploymentPartOf =
      .ok (some ("B", "A")) ∧
    (SspController.runPasses "validator-image" false true SspController.init
        [sspPartOf "A", sspPartOf "B"] (Store.empty true)).map deploymentPartOf =
      .ok (some ("B", "B")) := by
  constructor <;> rfl

end SspOperator.Controllers
