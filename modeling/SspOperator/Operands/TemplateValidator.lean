import SspOperator.Common.Resource

/-
  The Deployment of the template-validator operand
  (`internal/operands/template-validator/reconcile.go`, `resources.go`).

  `reconcileDeployment` builds the Deployment afresh on every call. Its pod template carries
  the app labels, and with them the SSP's part-of and version labels (`AddAppLabels` on the
  pod template's metadata); the Deployment is written with the `Deployment` case of
  `defaultUpdateFunc`, which copies the whole spec. Of the pod spec the model keeps the image
  and the three scheduling fields `injectPlacementMetadata` reads and writes: the node
  selector, the affinity and the tolerations; the rest of it is fixed.

  `newDeployment` asks the scheduler to spread the validator's pods over the hosts, and
  `reconcileDeployment` injects the placement of the SSP's `templateValidator` into that pod
  spec. The injection never reads a scheduling term, it only copies and appends lists of
  them, so what an affinity asks for is its six lists of terms (`AffinityTerms`). It keeps
  the pod's node selector entries over the placement's and adds the others, appends the
  placement's tolerations, and appends every list of affinity terms of the placement to the
  pod's, whichever of the nil cases the merges meet (`injectPlacementMetadata_spec`). So the
  validator's pods follow every constraint of the placement and keep the operator's
  preference to spread them (`validator_pods_follow_placement`).
-/

namespace SspOperator.Operands

open Common

/-- Names of `template-validator/resources.go` and `common/constants.go`. -/
def VirtTemplateValidator : String := "virt-template-validator"
def KubevirtIo : String := "kubevirt.io"
def DeploymentName : String := VirtTemplateValidator
def PrometheusLabel : String := "prometheus.ssp.kubevirt.io"
def RequiredSCCAnnotation : String := "openshift.io/required-scc"
def RequiredSCCAnnotationValue : String := "restricted-v2"

/-- `operandName` and `operandComponent` of the operand. -/
def templateValidatorOperandName : String := "template-validator"
def templateValidatorOperandComponent : String := "templating"

/-- `CommonLabels`. -/
def CommonLabels : StringMap :=
  StringMap.ofList [(KubevirtIo, VirtTemplateValidator)]

/-- The Go type of Deployments. -/
def deploymentType : ObjectType := { typeName := "*v1.Deployment", kind := "Deployment" }

/-! ## Injecting the placement -/

/-- `mergeNodeAffinity`: a configured node affinity is copied where the pod has none;
    otherwise its required terms are copied or appended, and its preferred terms appended. -/
def mergeNodeAffinity (currentAffinity : Affinity) (configNodeAffinity : Option NodeAffinity) :
    Affinity :=
  match configNodeAffinity, currentAffinity.nodeAffinity with
  | none, _ => currentAffinity
  | some config, none => { currentAffinity with nodeAffinity := some config }
  | some config, some current =>
      let required :=
        match config.required, current.required with
        | none, required => required
        | some configRequired, none => some configRequired
        | some configRequired, some currentRequired =>
            some { nodeSelectorTerms :=
              currentRequired.nodeSelectorTerms ++ configRequired.nodeSelectorTerms }
      { currentAffinity with
        nodeAffinity := some { required := required
                               preferred := current.preferred ++ config.preferred } }

/-- The merge `mergePodAffinity` and `mergePodAntiAffinity` make of one field: a configured
    affinity is copied where the pod has none, and its two lists are appended otherwise. -/
def mergePodAffinityTerms (current config : Option PodAffinity) : Option PodAffinity :=
  match config, current with
  | none, current => current
  | some config, none => some config
  | some config, some current =>
      some { required := current.required ++ config.required
             preferred := current.preferred ++ config.preferred }

/-- `mergePodAffinity`. -/
def mergePodAffinity (currentAffinity : Affinity) (configPodAffinity : Option PodAffinity) :
    Affinity :=
  { currentAffinity with
    podAffinity := mergePodAffinityTerms currentAffinity.podAffinity configPodAffinity }

/-- `mergePodAntiAffinity`. -/
def mergePodAntiAffinity (currentAffinity : Affinity)
    (configPodAntiAffinity : Option PodAffinity) : Affinity :=
  { currentAffinity with
    podAntiAffinity := mergePodAffinityTerms currentAffinity.podAntiAffinity configPodAntiAffinity }

/-- `injectPlacementMetadata`, on the pod spec of the Deployment, which is never nil. The loop
    over the placement's node selector adds an entry where the pod's selector has none of its
    key: the union that keeps the pod's entries, in a map made non-nil first. -/
def injectPlacementMetadata (podSpec : PodSpec) (componentConfig : Option TemplateValidatorSpec) :
    PodSpec :=
  match componentConfig.bind (·.placement) with
  | none => podSpec
  | some nodePlacement =>
      let nodeSelector : StringMap :=
        some (podSpec.nodeSelector.getD ∅ ∪ nodePlacement.nodeSelector.getD ∅)
      let affinity :=
        match nodePlacement.affinity, podSpec.affinity with
        | none, affinity => affinity
        | some config, none => some config
        | some config, some current =>
            some (mergePodAntiAffinity
              (mergePodAffinity (mergeNodeAffinity current config.nodeAffinity) config.podAffinity)
              config.podAntiAffinity)
      { podSpec with nodeSelector := nodeSelector, affinity := affinity
                     tolerations := podSpec.tolerations ++ nodePlacement.tolerations }

/-! ## The Deployment -/

/-- The topology key and selector operator of `resources.go`. -/
def kubernetesHostnameTopologyKey : String := "kubernetes.io/hostname"
def LabelSelectorOpIn : String := "In"

/-- `newPodAntiAffinity`: one preferred term of weight 1. -/
def newPodAntiAffinity (key topologyKey operator : String) (values : List String) : PodAffinity :=
  { preferred := [{ weight := 1
                    podAffinityTerm := { matchExpressions := [{ key, operator, values }]
                                         topologyKey := topologyKey } }] }

/-- `newDeployment`. -/
def newDeployment (ns : String) (replicas : Nat) (image : String) : ClientObject DeploymentSpec :=
  let podLabels := (CommonLabels.set PrometheusLabel "true").set "name" DeploymentName
  let podAntiAffinity := newPodAntiAffinity KubevirtIo kubernetesHostnameTopologyKey
    LabelSelectorOpIn [VirtTemplateValidator]
  { objectMeta := { name := DeploymentName, ns := ns
                    annotations := StringMap.ofList [( RequiredSCCAnnotation, RequiredSCCAnnotationValue)]
                    labels := StringMap.ofList [("name", DeploymentName)] }
    body := { replicas := replicas, selector := CommonLabels
              template := { objectMeta := { name := VirtTemplateValidator
                                            annotations := StringMap.ofList
                                              [( RequiredSCCAnnotation, RequiredSCCAnnotationValue)]
                                            labels := podLabels }
                            spec := { image := image
                                      affinity := some { podAntiAffinity := some podAntiAffinity } } } } }

/-- The replicas of `reconcileDeployment`: one, unless the SSP asks for a number, which a
    single-replica topology caps at one. -/
def validatorReplicas (validatorSpec : Option TemplateValidatorSpec) (singleReplica : Bool) : Nat :=
  match validatorSpec.bind (·.replicas) with
  | none => 1
  | some numberOfReplicas => if singleReplica && numberOfReplicas > 1 then 1 else numberOfReplicas

/-- `reconcileDeployment`, up to the `Reconcile` call: the builder it makes. The image is
    the operator's environment setting; an empty one panics. -/
def reconcileDeployment (image : String) (singleReplica : Bool) (requestInstance : SSP) :
    Except Fault (ReconcileBuilder DeploymentSpec) :=
  if image = "" then .error (.panic "Cannot reconcile without valid image name")
  else
    let validatorSpec := requestInstance.spec.templateValidator
    let numberOfReplicas := validatorReplicas validatorSpec singleReplica
    let deployment := newDeployment requestInstance.objectMeta.ns numberOfReplicas image
    let podMeta := AddAppLabels requestInstance templateValidatorOperandName
      templateValidatorOperandComponent deployment.body.template.objectMeta
    let podSpec := injectPlacementMetadata deployment.body.template.spec validatorSpec
    let deployment := { deployment with
      body := { deployment.body with template := { objectMeta := podMeta, spec := podSpec } } }
    .ok { resource := deployment, isClusterResource := false, addLabels := true
          operandName := templateValidatorOperandName
          operandComponent := templateValidatorOperandComponent, updateFunc := specUpdateFunc }

/-- The pod spec of the Deployment `reconcileDeployment` builds: `newDeployment`'s, with the
    SSP's placement injected. -/
theorem reconcileDeployment_podSpec {image : String} {singleReplica : Bool}
    {requestInstance : SSP} {builder : ReconcileBuilder DeploymentSpec}
    (h : reconcileDeployment image singleReplica requestInstance = .ok builder) :
    builder.resource.body.template.spec =
      injectPlacementMetadata
        (newDeployment requestInstance.objectMeta.ns
          (validatorReplicas requestInstance.spec.templateValidator singleReplica)
          image).body.template.spec
        requestInstance.spec.templateValidator := by
  unfold reconcileDeployment at h
  split_ifs at h
  cases h
  rfl

/-! ## What an affinity asks for -/

/-- The six lists of scheduling terms of an affinity. -/
structure AffinityTerms where
  nodeRequired : List NodeSelectorTerm := []
  nodePreferred : List PreferredSchedulingTerm := []
  podRequired : List PodAffinityTerm := []
  podPreferred : List WeightedPodAffinityTerm := []
  antiRequired : List PodAffinityTerm := []
  antiPreferred : List WeightedPodAffinityTerm := []
deriving DecidableEq

/-- Two affinities' terms together, list by list. -/
instance : Append AffinityTerms where
  append a b :=
    { nodeRequired := a.nodeRequired ++ b.nodeRequired
      nodePreferred := a.nodePreferred ++ b.nodePreferred
      podRequired := a.podRequired ++ b.podRequired
      podPreferred := a.podPreferred ++ b.podPreferred
      antiRequired := a.antiRequired ++ b.antiRequired
      antiPreferred := a.antiPreferred ++ b.antiPreferred }

/-- The required node selector terms of a node affinity; nil has none. -/
def nodeRequiredTerms (nodeAffinity : Option NodeAffinity) : List NodeSelectorTerm :=
  ((nodeAffinity.bind (·.required)).map (·.nodeSelectorTerms)).getD []

/-- The terms an affinity asks for; nil asks for none. -/
def affinityTerms (affinity : Option Affinity) : AffinityTerms :=
  match affinity with
  | none => {}
  | some a =>
      { nodeRequired := nodeRequiredTerms a.nodeAffinity
        nodePreferred := (a.nodeAffinity.map (·.preferred)).getD []
        podRequired := (a.podAffinity.map (·.required)).getD []
        podPreferred := (a.podAffinity.map (·.preferred)).getD []
        antiRequired := (a.podAntiAffinity.map (·.required)).getD []
        antiPreferred := (a.podAntiAffinity.map (·.preferred)).getD [] }

@[simp] theorem affinityTerms_none : affinityTerms none = {} := rfl

@[simp] theorem nil_append_terms (a : AffinityTerms) : ({} : AffinityTerms) ++ a = a := rfl

@[simp] theorem append_nil_terms (a : AffinityTerms) : a ++ ({} : AffinityTerms) = a := by
  show AffinityTerms.mk _ _ _ _ _ _ = a
  simp only [List.append_nil]

theorem affinityTerms_ext {a b : AffinityTerms} (h₁ : a.nodeRequired = b.nodeRequired)
    (h₂ : a.nodePreferred = b.nodePreferred) (h₃ : a.podRequired = b.podRequired)
    (h₄ : a.podPreferred = b.podPreferred) (h₅ : a.antiRequired = b.antiRequired)
    (h₆ : a.antiPreferred = b.antiPreferred) : a = b := by
  cases a
  cases b
  simp_all

/-! ## Each merge appends its own lists -/

section Merges

variable (current : Affinity)

/-- The required terms after `mergeNodeAffinity`: the pod's, then the configured ones. -/
theorem nodeRequiredTerms_mergeNodeAffinity (config : Option NodeAffinity) :
    nodeRequiredTerms (mergeNodeAffinity current config).nodeAffinity =
      nodeRequiredTerms current.nodeAffinity ++ nodeRequiredTerms config := by
  unfold mergeNodeAffinity
  -- the nil cases of the two affinities, then of their required selectors
  rcases config with _ | ⟨_ | configRequired, configPreferred⟩ <;>
    rcases current.nodeAffinity with _ | ⟨_ | currentRequired, currentPreferred⟩ <;>
    simp [nodeRequiredTerms]

theorem nodePreferred_mergeNodeAffinity (config : Option NodeAffinity) :
    ((mergeNodeAffinity current config).nodeAffinity.map (·.preferred)).getD [] =
      (current.nodeAffinity.map (·.preferred)).getD [] ++ (config.map (·.preferred)).getD [] := by
  unfold mergeNodeAffinity
  rcases config with _ | config <;> rcases current.nodeAffinity with _ | cur <;> simp

/-- `mergePodAffinityTerms` appends both lists, whichever affinity is nil. -/
theorem required_mergePodAffinityTerms (cur config : Option PodAffinity) :
    ((mergePodAffinityTerms cur config).map (·.required)).getD [] =
      (cur.map (·.required)).getD [] ++ (config.map (·.required)).getD [] := by
  rcases config with _ | config <;> rcases cur with _ | cur <;> simp [mergePodAffinityTerms]

theorem preferred_mergePodAffinityTerms (cur config : Option PodAffinity) :
    ((mergePodAffinityTerms cur config).map (·.preferred)).getD [] =
      (cur.map (·.preferred)).getD [] ++ (config.map (·.preferred)).getD [] := by
  rcases config with _ | config <;> rcases cur with _ | cur <;> simp [mergePodAffinityTerms]

/-- The three merges of `injectPlacementMetadata`, one after the other, append the configured
    affinity's terms to the pod's. -/
theorem affinityTerms_merges (config : Affinity) :
    affinityTerms (some (mergePodAntiAffinity
        (mergePodAffinity (mergeNodeAffinity current config.nodeAffinity) config.podAffinity)
        config.podAntiAffinity)) =
      affinityTerms (some current) ++ affinityTerms (some config) := by
  -- each merge writes one field: the node merge leaves the pod affinities to the others
  have hpod : (mergeNodeAffinity current config.nodeAffinity).podAffinity = current.podAffinity := by
    unfold mergeNodeAffinity
    split <;> rfl
  have hanti : (mergeNodeAffinity current config.nodeAffinity).podAntiAffinity =
      current.podAntiAffinity := by
    unfold mergeNodeAffinity
    split <;> rfl
  apply affinityTerms_ext
  · exact nodeRequiredTerms_mergeNodeAffinity current config.nodeAffinity
  · exact nodePreferred_mergeNodeAffinity current config.nodeAffinity
  · simp only [affinityTerms, mergePodAntiAffinity, mergePodAffinity]
    rw [required_mergePodAffinityTerms, hpod]
    rfl
  · simp only [affinityTerms, mergePodAntiAffinity, mergePodAffinity]
    rw [preferred_mergePodAffinityTerms, hpod]
    rfl
  · simp only [affinityTerms, mergePodAntiAffinity, mergePodAffinity]
    rw [required_mergePodAffinityTerms, hanti]
    rfl
  · simp only [affinityTerms, mergePodAntiAffinity, mergePodAffinity]
    rw [preferred_mergePodAffinityTerms, hanti]
    rfl

end Merges

/-! ## The injection -/

/-- What `injectPlacementMetadata` makes of a pod spec with a placement to inject: the image is
    kept, the pod's node selector entries win over the placement's, the placement's
    tolerations follow the pod's, and every list of affinity terms of the placement follows
    the pod's. -/
theorem injectPlacementMetadata_spec (podSpec : PodSpec)
    {componentConfig : Option TemplateValidatorSpec} {nodePlacement : NodePlacement}
    (hplacement : componentConfig.bind (·.placement) = some nodePlacement) :
    (injectPlacementMetadata podSpec componentConfig).image = podSpec.image ∧
    (∀ k, (injectPlacementMetadata podSpec componentConfig).nodeSelector.lookup k =
      (podSpec.nodeSelector.lookup k).or (nodePlacement.nodeSelector.lookup k)) ∧
    affinityTerms (injectPlacementMetadata podSpec componentConfig).affinity =
      affinityTerms podSpec.affinity ++ affinityTerms nodePlacement.affinity ∧
    (injectPlacementMetadata podSpec componentConfig).tolerations =
      podSpec.tolerations ++ nodePlacement.tolerations := by
  unfold injectPlacementMetadata
  rw [hplacement]
  refine ⟨rfl, fun k => ?_, ?_, rfl⟩
  · -- the union looks a key up in the pod's selector first
    simp only [StringMap.lookup_some]
    by_cases hk : k ∈ podSpec.nodeSelector.getD ∅
    · rw [Finmap.lookup_union_left hk, ← StringMap.lookup_some_getD]
      obtain ⟨v, hv⟩ := Finmap.mem_iff.mp hk
      rw [StringMap.lookup_some, hv, Option.some_or]
    · rw [Finmap.lookup_union_right hk, ← StringMap.lookup_some_getD podSpec.nodeSelector,
        StringMap.lookup_some, Finmap.lookup_eq_none.mpr hk, Option.none_or,
        ← StringMap.lookup_some_getD, StringMap.lookup_some]
  · -- the nil cases of the placement's affinity and the pod's
    dsimp only
    rcases nodePlacement.affinity with _ | config <;> rcases podSpec.affinity with _ | current
    · rfl
    · exact (append_nil_terms _).symm
    · rfl
    · exact affinityTerms_merges current config

/-- The template validator's pods follow every constraint of the placement the SSP asks
    for: its node selector, its tolerations and every affinity term of it, after the
    operator's preference to spread the pods over the hosts, which no placement removes; and
    the pod runs the operator's image. -/
theorem validator_pods_follow_placement {image : String} {singleReplica : Bool}
    {requestInstance : SSP} {builder : ReconcileBuilder DeploymentSpec}
    {nodePlacement : NodePlacement}
    (hplacement : requestInstance.spec.templateValidator.bind (·.placement) = some nodePlacement)
    (h : reconcileDeployment image singleReplica requestInstance = .ok builder) :
    builder.resource.body.template.spec.image = image ∧
    (∀ k, builder.resource.body.template.spec.nodeSelector.lookup k =
      nodePlacement.nodeSelector.lookup k) ∧
    affinityTerms builder.resource.body.template.spec.affinity =
      { antiPreferred := (newPodAntiAffinity KubevirtIo kubernetesHostnameTopologyKey
          LabelSelectorOpIn [VirtTemplateValidator]).preferred } ++
        affinityTerms nodePlacement.affinity ∧
    builder.resource.body.template.spec.tolerations = nodePlacement.tolerations := by
  obtain ⟨himage, hselector, hterms, htolerations⟩ :=
    injectPlacementMetadata_spec (newDeployment requestInstance.objectMeta.ns
      (validatorReplicas requestInstance.spec.templateValidator singleReplica)
      image).body.template.spec hplacement
  rw [reconcileDeployment_podSpec h]
  refine ⟨himage, fun k => ?_, hterms, htolerations⟩
  -- `newDeployment` sets no node selector
  rw [hselector k]
  rfl

/-- A placement on infrastructure nodes. -/
def infraPlacement : NodePlacement :=
  { nodeSelector := StringMap.ofList [("node-role.kubernetes.io/infra", "")]
    tolerations := [{ key := "node-role.kubernetes.io/infra", operator := "Exists"
                      effect := "NoSchedule" }] }

/-- An SSP that places the template validator on infrastructure nodes. -/
def sspWithInfraPlacement : SSP :=
  { objectMeta := { name := "ssp-sample", ns := "kubevirt" }
    spec := { commonTemplates := { ns := "openshift" }
              templateValidator := some { placement := some infraPlacement } } }

theorem infra_placement_followed :
    ∃ builder, reconcileDeployment "validator-image" false sspWithInfraPlacement = .ok builder ∧
      builder.resource.body.template.spec.image = "validator-image" ∧
      (∀ k, builder.resource.body.template.spec.nodeSelector.lookup k =
        infraPlacement.nodeSelector.lookup k) ∧
      affinityTerms builder.resource.body.template.spec.affinity =
        { antiPreferred := (newPodAntiAffinity KubevirtIo kubernetesHostnameTopologyKey
            LabelSelectorOpIn [VirtTemplateValidator]).preferred } ++
          affinityTerms infraPlacement.affinity ∧
      builder.resource.body.template.spec.tolerations = infraPlacement.tolerations :=
  ⟨_, rfl, validator_pods_follow_placement rfl rfl⟩

end SspOperator.Operands
