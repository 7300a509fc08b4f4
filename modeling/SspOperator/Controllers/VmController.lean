import SspOperator.Meta

/-
  The VM controller's volume metric (`internal/controllers/vm_controller.go` and
  `pkg/monitoring/metrics/ssp-operator/rbd_metrics.go`).

  The gauge `kubevirt_ssp_vm_rbd_block_volume_without_rxbounce{name, namespace}` warns about
  VMs with a Ceph RBD block volume mapped without the `krbd:rxbounce` option. `Reconcile`
  walks the VM's volumes; each DataVolume or PVC volume that resolves to a PVC and its PV
  sets the gauge of the VM from that pair (`rbdVolumeValue`), and when none resolves the
  gauge is set to 0. Every set overwrites the one before, so the gauge ends with the value of
  the last volume that resolves (`Reconcile_of_resolved`), not with whether some
  volume is affected: an affected volume followed by an unaffected one leaves 0, and the two
  in the other order leave 1 (`rbd_gauge_depends_on_volume_order`).

  The gauge is a function from the label values to the value last set, `none` for a series
  never set. Its writes stay when a later step fails, so the loop returns the gauge next to
  its result. The reads of the cluster are the parameter `VmClient`: the cached `Get` of a VM
  and of a PVC by key, and of a PV by name (the cache reader drops the namespace the code
  passes for the cluster-scoped PV). The requeue flags of the result are left out.
-/

namespace SspOperator.Controllers

/-- `corev1.PersistentVolumeMode`. -/
inductive PersistentVolumeMode
  | block
  | filesystem
deriving DecidableEq

/-- `corev1.PersistentVolumeClaim`, with the fields the metric reads. -/
structure PersistentVolumeClaim where
  objectMeta : ObjectMeta
  /-- `spec.volumeName`: the PV the claim is bound to. -/
  volumeName : String := ""
  /-- `spec.volumeMode`, a pointer. -/
  volumeMode : Option PersistentVolumeMode := none
deriving DecidableEq

/-- `corev1.CSIPersistentVolumeSource`. -/
structure CSIPersistentVolumeSource where
  driver : String
  volumeAttributes : StringMap := none
deriving DecidableEq

/-- `corev1.PersistentVolume`; `csi` is `spec.csi`. -/
structure PersistentVolume where
  objectMeta : ObjectMeta
  csi : Option CSIPersistentVolumeSource := none
deriving DecidableEq

/-- The source of a VM volume, as far as the metric tells them apart. -/
inductive VolumeSource
  | dataVolume (name : String)
  | persistentVolumeClaim (claimName : String)
  | other
deriving DecidableEq

/-- `kubevirtv1.VirtualMachine`: its metadata, `status.printableStatus`, and the volumes of
    `spec.template.spec`; `template` is the pointer `spec.template`. -/
structure VirtualMachine where
  objectMeta : ObjectMeta
  printableStatus : String := ""
  template : Option (List VolumeSource)
deriving DecidableEq

def VirtualMachineStatusProvisioning : String := "Provisioning"

/-- The cached reads of the VM controller; `none` is not found. -/
structure VmClient where
  getVm : NamespacedName → Except String (Option VirtualMachine)
  getPvc : NamespacedName → Except String (Option PersistentVolumeClaim)
  getPv : String → Except String (Option PersistentVolume)

/-- The gauge vector, by its label values `(name, namespace)`. -/
abbrev Gauge := String × String → Option Nat

/-- `vmRbdVolume.WithLabelValues(vm.Name, vm.Namespace).Set(value)`. -/
def setGauge (gauge : Gauge) (vm : ObjectMeta) (value : Nat) : Gauge :=
  Function.update gauge (vm.name, vm.ns) (some value)

/-! ## `SetVmWithVolume` -/

/-- `usesRbdCsiDriver`. -/
def usesRbdCsiDriver (pv : PersistentVolume) : Bool :=
  match pv.csi with
  | none => false
  | some csi => Contains csi.driver "rbd.csi.ceph.com"

/-- The value `SetVmWithVolume` sets for a PVC and its PV. The volume mode is read only for
    an RBD volume; a nil mode there is a nil dereference. -/
def rbdVolumeValue (pvc : PersistentVolumeClaim) (pv : PersistentVolume) : Except Fault Nat := do
  if !usesRbdCsiDriver pv then return 0
  let volumeMode ← deref pvc.volumeMode
  if volumeMode ≠ .block then return 0
  let csi ← deref pv.csi
  -- without a mounter the default one, `rbd`, is used
  if let some mounter := csi.volumeAttributes.lookup "mounter" then
    if mounter ≠ "rbd" then return 0
  match csi.volumeAttributes.lookup "mapOptions" with
  | none => return 1
  | some rxbounce => return if Contains rxbounce "krbd:rxbounce" then 0 else 1

/-- `metrics.SetVmWithVolume`: without a PVC or a PV the gauge is 0. -/
def SetVmWithVolume (vm : ObjectMeta) (pvc : Option PersistentVolumeClaim)
    (pv : Option PersistentVolume) (gauge : Gauge) : Except Fault Gauge :=
  match pvc, pv with
  | some pvc, some pv => (rbdVolumeValue pvc pv).map (setGauge gauge vm)
  | _, _ => .ok (setGauge gauge vm 0)

/-! ## `Reconcile` -/

/-- The name of the claim a volume reads, for DataVolume and PVC volumes. -/
def VolumeSource.claimName : VolumeSource → Option String
  | .dataVolume name => some name
  | .persistentVolumeClaim claimName => some claimName
  | .other => none

/-- The PVC and the PV that a volume of a VM in namespace `ns` resolves to; `none` for a
    volume of another kind, or when the PVC or the PV is not found. -/
def resolveVolume (client : VmClient) (ns : String) (volume : VolumeSource) :
    Except String (Option (PersistentVolumeClaim × PersistentVolume)) := do
  let some volumeName := volume.claimName | return none
  let some pvc ← client.getPvc { ns := ns, name := volumeName } | return none
  let some pv ← client.getPv pvc.volumeName | return none
  return some (pvc, pv)

/-- The loop of `setVmVolumesMetrics` from `metricWasSet`: the gauge it leaves, and its
    result. A failed read stops it with the gauge as far as it got. -/
def setVmVolumesMetricsFrom (client : VmClient) (vm : ObjectMeta) :
    List VolumeSource → Gauge → Bool → Gauge × Except Fault Unit
  | [], gauge, metricWasSet => (if metricWasSet then gauge else setGauge gauge vm 0, .ok ())
  | volume :: rest, gauge, metricWasSet =>
      match resolveVolume client vm.ns volume with
      | .error e => (gauge, .error (.error e))
      | .ok none => setVmVolumesMetricsFrom client vm rest gauge metricWasSet
      | .ok (some (pvc, pv)) =>
          match SetVmWithVolume vm (some pvc) (some pv) gauge with
          | .error f => (gauge, .error f)
          | .ok gauge => setVmVolumesMetricsFrom client vm rest gauge true

/-- `vmController.setVmVolumesMetrics`. -/
def setVmVolumesMetrics (client : VmClient) (vm : ObjectMeta) (volumes : List VolumeSource)
    (gauge : Gauge) : Gauge × Except Fault Unit :=
  setVmVolumesMetricsFrom client vm volumes gauge false

/-- `vmController.Reconcile`, for the VM of `req`. -/
def Reconcile (client : VmClient) (req : NamespacedName) (gauge : Gauge) :
    Gauge × Except Fault Unit :=
  match client.getVm req with
  | .error e => (gauge, .error (.error ("could not find VM " ++ req.ns ++ "/" ++ req.name ++ ": " ++ e)))
  | .ok none =>
      -- the VM was deleted
      (setGauge gauge { name := req.name, ns := req.ns } 0, .ok ())
  | .ok (some vm) =>
      if vm.printableStatus = VirtualMachineStatusProvisioning then (gauge, .ok ())
      else
        match vm.template with
        | none => (gauge, .error nilDereference)
        | some volumes =>
            let (gauge, result) := setVmVolumesMetrics client vm.objectMeta volumes gauge
            (gauge, result.mapError fun
              | .error e => .error ("could not set vm volumes metrics for " ++ req.ns ++ "/" ++
                  req.name ++ ": " ++ e)
              | f => f)

/-! ## The last resolved volume decides -/

section resolved

variable {client : VmClient} {vm : ObjectMeta}

/-- Where every volume resolves and every resolved pair has a value, the loop sets the gauge
    of the VM to the value of the last volume that resolves, or keeps what it had (0 when
    nothing was set) when none does. -/
theorem setVmVolumesMetricsFrom_of_resolved
    (resolved : VolumeSource → Option (PersistentVolumeClaim × PersistentVolume))
    (value : PersistentVolumeClaim × PersistentVolume → Nat) :
    ∀ (volumes : List VolumeSource) (gauge : Gauge) (metricWasSet : Bool),
      (∀ v ∈ volumes, resolveVolume client vm.ns v = .ok (resolved v)) →
      (∀ v ∈ volumes, ∀ p, resolved v = some p → rbdVolumeValue p.1 p.2 = .ok (value p)) →
      (metricWasSet = true → gauge (vm.name, vm.ns) ≠ none) →
      (setVmVolumesMetricsFrom client vm volumes gauge metricWasSet).2 = .ok () ∧
        (setVmVolumesMetricsFrom client vm volumes gauge metricWasSet).1 (vm.name, vm.ns) =
          match (volumes.filterMap resolved).getLast? with
          | some p => some (value p)
          | none => if metricWasSet then gauge (vm.name, vm.ns) else some 0
  | [], gauge, metricWasSet, _, _, _ => by
      cases metricWasSet <;> simp [setVmVolumesMetricsFrom, setGauge]
  | volume :: rest, gauge, metricWasSet, hresolve, hvalue, hset => by
      have hrest := hresolve volume List.mem_cons_self
      cases hv : resolved volume with
      | none =>
          -- an unresolved volume leaves the gauge alone
          have ih := setVmVolumesMetricsFrom_of_resolved resolved value rest gauge metricWasSet
            (fun v hv => hresolve v (List.mem_cons_of_mem _ hv))
            (fun v hv => hvalue v (List.mem_cons_of_mem _ hv)) hset
          simpa [setVmVolumesMetricsFrom, hrest, hv, List.filterMap_cons] using ih
      | some p =>
          have hval := hvalue volume List.mem_cons_self p hv
          have ih := setVmVolumesMetricsFrom_of_resolved resolved value rest
            (setGauge gauge vm (value p)) true
            (fun v hv => hresolve v (List.mem_cons_of_mem _ hv))
            (fun v hv => hvalue v (List.mem_cons_of_mem _ hv)) (by simp [setGauge])
          refine ⟨?_, ?_⟩
          · simpa [setVmVolumesMetricsFrom, hrest, hv, SetVmWithVolume, hval, Except.map] using ih.1
          · rw [List.filterMap_cons, hv]
            simp only [setVmVolumesMetricsFrom, hrest, hv, SetVmWithVolume, hval, Except.map]
            rw [ih.2]
            -- the volume's own value is the last one when no later volume resolves
            cases hlast : (rest.filterMap resolved).getLast? with
            | some q => simp [List.getLast?_cons, hlast]
            | none =>
                rw [List.getLast?_eq_none_iff] at hlast
                simp [hlast, setGauge]

/-- `Reconcile` of a VM that is not provisioning, whose volumes all resolve and have values,
    succeeds and sets the VM's gauge to the value of its last volume that resolves, or to 0
    when none does. -/
theorem Reconcile_of_resolved {client : VmClient} {req : NamespacedName} {gauge : Gauge}
    {vm : VirtualMachine} {volumes : List VolumeSource}
    (resolved : VolumeSource → Option (PersistentVolumeClaim × PersistentVolume))
    (value : PersistentVolumeClaim × PersistentVolume → Nat)
    (hget : client.getVm req = .ok (some vm))
    (hstatus : vm.printableStatus ≠ VirtualMachineStatusProvisioning)
    (htemplate : vm.template = some volumes)
    (hresolve : ∀ v ∈ volumes, resolveVolume client vm.objectMeta.ns v = .ok (resolved v))
    (hvalue : ∀ v ∈ volumes, ∀ p, resolved v = some p → rbdVolumeValue p.1 p.2 = .ok (value p)) :
    (Reconcile client req gauge).2 = .ok () ∧
      (Reconcile client req gauge).1 (vm.objectMeta.name, vm.objectMeta.ns) =
        some ((volumes.filterMap resolved).getLast?.elim 0 value) := by
  obtain ⟨hok, hgauge⟩ := setVmVolumesMetricsFrom_of_resolved resolved value volumes gauge false
    hresolve hvalue (by simp)
  simp only [Reconcile, hget, hstatus, if_false, htemplate, setVmVolumesMetrics]
  refine ⟨by simp [hok], ?_⟩
  rw [hgauge]
  cases (volumes.filterMap resolved).getLast? <;> rfl

end resolved

/-! ## Two volumes in either order -/

/-- Two VMs of namespace `vms` with the same two volumes in opposite orders: an RBD block
    volume mapped without options, and a file-system volume on the same driver. -/
def rbdClient : VmClient where
  getVm key :=
    if key = { ns := "vms", name := "vm-rbd-first" } then
      .ok (some { objectMeta := { name := "vm-rbd-first", ns := "vms" },
                  template := some [.persistentVolumeClaim "rbd-disk", .dataVolume "fs-disk"] })
    else if key = { ns := "vms", name := "vm-rbd-last" } then
      .ok (some { objectMeta := { name := "vm-rbd-last", ns := "vms" },
                  template := some [.dataVolume "fs-disk", .persistentVolumeClaim "rbd-disk"] })
    else .ok none
  getPvc key :=
    if key = { ns := "vms", name := "rbd-disk" } then
      .ok (some { objectMeta := { name := "rbd-disk", ns := "vms" }, volumeName := "pv-rbd",
                  volumeMode := some .block })
    else if key = { ns := "vms", name := "fs-disk" } then
      .ok (some { objectMeta := { name := "fs-disk", ns := "vms" }, volumeName := "pv-fs",
                  volumeMode := some .filesystem })
    else .ok none
  getPv name :=
    if name = "pv-rbd" ∨ name = "pv-fs" then
      .ok (some { objectMeta := { name := name },
                  csi := some { driver := "openshift-storage.rbd.csi.ceph.com" } })
    else .ok none

/-- A VM with an RBD block volume without `krbd:rxbounce` and a file-system volume: with the
    RBD volume first its gauge is 0, with the RBD volume last it is 1. -/
theorem rbd_gauge_depends_on_volume_order :
    (Reconcile rbdClient { ns := "vms", name := "vm-rbd-first" } (fun _ => none)).2 = .ok () ∧
    (Reconcile rbdClient { ns := "vms", name := "vm-rbd-first" } (fun _ => none)).1
      ("vm-rbd-first", "vms") = some 0 ∧
    (Reconcile rbdClient { ns := "vms", name := "vm-rbd-last" } (fun _ => none)).2 = .ok () ∧
    (Reconcile rbdClient { ns := "vms", name := "vm-rbd-last" } (fun _ => none)).1
      ("vm-rbd-last", "vms") = some 1 := by
  -- every volume of the two VMs resolves to its PVC and PV, and each pair has a value
  have hresolve : ∀ v ∈ [VolumeSource.persistentVolumeClaim "rbd-disk", .dataVolume "fs-disk"],
      resolveVolume rbdClient "vms" v = .ok ((resolveVolume rbdClient "vms" v).toOption.join) := by
    simp only [List.mem_cons, List.not_mem_nil, or_false]
    rintro v (rfl | rfl) <;> rfl
  have hvalue : ∀ v ∈ [VolumeSource.persistentVolumeClaim "rbd-disk", .dataVolume "fs-disk"],
      ∀ p, (resolveVolume rbdClient "vms" v).toOption.join = some p →
        rbdVolumeValue p.1 p.2 = .ok ((rbdVolumeValue p.1 p.2).toOption.getD 0) := by
    simp only [List.mem_cons, List.not_mem_nil, or_false]
    rintro v (rfl | rfl) p hp <;> cases hp <;> rfl
  -- the gauge takes the value of the volume that comes last: 0 for the file system, 1 for RBD
  obtain ⟨hfirst, hgaugeFirst⟩ := @Reconcile_of_resolved rbdClient
    { ns := "vms", name := "vm-rbd-first" } (fun _ => none) _ _ _ _ rfl (by decide) rfl hresolve hvalue
  obtain ⟨hlast, hgaugeLast⟩ := @Reconcile_of_resolved rbdClient
    { ns := "vms", name := "vm-rbd-last" } (fun _ => none) _ _ _ _ rfl (by decide) rfl
    (fun v hv => hresolve v (by simpa [or_comm] using hv))
    (fun v hv => hvalue v (by simpa [or_comm] using hv))
  exact ⟨hfirst, hgaugeFirst.trans rfl, hlast, hgaugeLast.trans rfl⟩

end SspOperator.Controllers
