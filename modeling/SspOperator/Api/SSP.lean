import SspOperator.Common.CryptoPolicy

/-
  The `SSP` custom resource (`api/v1beta3/ssp_types.go`), with the fields the
  modelled operands read. `ptr.Deref(spec.EnableMultipleArchitectures, false)` is
  `SSPSpec.isMultiarch`. The template validator's placement is the `NodePlacement` of the
  lifecycle SDK, with the scheduling types of `core` it holds; of a scheduling term the model
  keeps the fields `newPodAntiAffinity` fills in.
-/

namespace SspOperator

/-- `ssp.Cluster`: the architectures the cluster runs, as written in the spec. -/
structure Cluster where
  workloadArchitectures : List String := []
  controlPlaneArchitectures : List String := []
deriving DecidableEq

/-- `ssp.DataImportCronTemplate`; of the cron spec only `managedDataSource` is read. -/
structure DataImportCronTemplate where
  objectMeta : ObjectMeta
  managedDataSource : String
deriving DecidableEq

/-- `ssp.CommonTemplates`. -/
structure CommonTemplates where
  ns : String
  dataImportCronTemplates : List DataImportCronTemplate := []
deriving DecidableEq

/-! ## Node placement -/

/-- `metav1.LabelSelectorRequirement` and `core.NodeSelectorRequirement`. -/
structure SelectorRequirement where
  key : String
  operator : String
  values : List String
deriving DecidableEq

/-- `core.NodeSelectorTerm`. -/
structure NodeSelectorTerm where
  matchExpressions : List SelectorRequirement := []
  matchFields : List SelectorRequirement := []
deriving DecidableEq

/-- `core.PreferredSchedulingTerm`. -/
structure PreferredSchedulingTerm where
  weight : Int
  preference : NodeSelectorTerm
deriving DecidableEq

/-- `core.NodeSelector`. -/
structure NodeSelector where
  nodeSelectorTerms : List NodeSelectorTerm
deriving DecidableEq

/-- `core.NodeAffinity`: `required` is `RequiredDuringSchedulingIgnoredDuringExecution`,
    `preferred` is `PreferredDuringSchedulingIgnoredDuringExecution`. -/
structure NodeAffinity where
  required : Option NodeSelector := none
  preferred : List PreferredSchedulingTerm := []
deriving DecidableEq

/-- `core.PodAffinityTerm`, with the match expressions of its label selector. -/
structure PodAffinityTerm where
  matchExpressions : List SelectorRequirement
  topologyKey : String
deriving DecidableEq

/-- `core.WeightedPodAffinityTerm`. -/
structure WeightedPodAffinityTerm where
  weight : Int
  podAffinityTerm : PodAffinityTerm
deriving DecidableEq

/-- `core.PodAffinity` and `core.PodAntiAffinity`, which have the same two lists. -/
structure PodAffinity where
  required : List PodAffinityTerm := []
  preferred : List WeightedPodAffinityTerm := []
deriving DecidableEq

/-- `core.Affinity`. -/
structure Affinity where
  nodeAffinity : Option NodeAffinity := none
  podAffinity : Option PodAffinity := none
  podAntiAffinity : Option PodAffinity := none
deriving DecidableEq

/-- `core.Toleration`. -/
structure Toleration where
  key : String := ""
  operator : String := ""
  value : String := ""
  effect : String := ""
  tolerationSeconds : Option Int := none
deriving DecidableEq

/-- `api.NodePlacement`, the placement an SSP may ask for. -/
structure NodePlacement where
  nodeSelector : StringMap := none
  affinity : Option Affinity := none
  tolerations : List Toleration := []
deriving DecidableEq

/-! ## The spec -/

/-- `ssp.TemplateValidator`. -/
structure TemplateValidatorSpec where
  replicas : Option Nat := none
  placement : Option NodePlacement := none
deriving DecidableEq

/-- `ssp.SSPSpec`. -/
structure SSPSpec where
  templateValidator : Option TemplateValidatorSpec := none
  enableMultipleArchitectures : Option Bool := none
  cluster : Option Cluster := none
  commonTemplates : CommonTemplates
  tlsSecurityProfile : Option Common.TLSSecurityProfile := none
deriving DecidableEq

/-- `ssp.SSPSpec{}`. -/
instance : Inhabited SSPSpec := ⟨{ commonTemplates := { ns := "" } }⟩

/-- `ptr.Deref(spec.EnableMultipleArchitectures, false)`. -/
def SSPSpec.isMultiarch (spec : SSPSpec) : Bool :=
  spec.enableMultipleArchitectures.getD false

/-- `ssp.SSP`. -/
structure SSP where
  objectMeta : ObjectMeta
  spec : SSPSpec
deriving DecidableEq

end SspOperator
