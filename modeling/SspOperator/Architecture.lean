import SspOperator.Api.SSP

/-
  Cluster architectures (`internal/architecture`).

  `GetSSPArchs` reads the architectures from `.spec.cluster`: control-plane ones
  first, then workload ones, without repetitions. With multi-architecture support
  all of them are returned; without it only the first, and with no cluster block
  the architecture the operator was built for (`runtime.GOARCH`, the parameter
  `goarch`).
-/

namespace SspOperator

/-- `architecture.Arch`. -/
inductive Arch
  | amd64
  | arm64
  | s390x
deriving DecidableEq

/-- `string(arch)`. -/
def Arch.toString : Arch → String
  | .amd64 => "amd64"
  | .arm64 => "arm64"
  | .s390x => "s390x"

/-- `architecture.ToArch`. -/
def ToArch (arch : String) : Except String Arch :=
  match arch with
  | "amd64" => .ok .amd64
  | "arm64" => .ok .arm64
  | "s390x" => .ok .s390x
  | _ => .error ("unknown architecture: " ++ arch)

/-- `concatWithoutRepetitions`: the values of the slices in order, each at its first
    occurrence; the result itself plays the part of the Go code's `set`. -/
def concatWithoutRepetitions {T : Type} [DecidableEq T] (data : List (List T)) : List T :=
  data.flatten.foldl (fun result val => if val ∈ result then result else result ++ [val]) []

/-- `architecture.GetSSPArchs`. -/
def GetSSPArchs (goarch : String) (sspSpec : SSPSpec) : Except String (List Arch) :=
  match sspSpec.cluster with
  | none =>
      if sspSpec.isMultiarch then
        .error ".spec.cluster cannot be nil, if .spec.enableMultipleArchitectures is true"
      else
        match ToArch goarch with
        | .error err => .error ("default architecture is not supported: " ++ err)
        | .ok defaultArchitecture => .ok [defaultArchitecture]
  | some cluster =>
      let archStrs := concatWithoutRepetitions
        [cluster.controlPlaneArchitectures, cluster.workloadArchitectures]
      match archStrs with
      | [] => .error "no architectures are defined in .spec.cluster"
      | archStr :: _ =>
          if sspSpec.isMultiarch then archStrs.mapM ToArch
          else do
            let arch ← ToArch archStr
            pure [arch]

/-- Without multi-architecture support the operator works with exactly one
    architecture. -/
theorem GetSSPArchs_single {goarch : String} {sspSpec : SSPSpec} {archs : List Arch}
    (hmulti : sspSpec.isMultiarch = false) (h : GetSSPArchs goarch sspSpec = .ok archs) :
    ∃ arch, archs = [arch] := by
  unfold GetSSPArchs at h
  simp only [hmulti, Bool.false_eq_true, ↓reduceIte] at h
  cases hc : sspSpec.cluster with
  | none =>
      -- the architecture the operator was built for
      rw [hc] at h
      cases ha : ToArch goarch with
      | error err => simp [ha] at h
      | ok arch =>
          simp only [ha, Except.ok.injEq] at h
          exact ⟨arch, h.symm⟩
  | some cluster =>
      -- the first architecture of the cluster block
      rw [hc] at h
      cases hs : concatWithoutRepetitions
          [cluster.controlPlaneArchitectures, cluster.workloadArchitectures] with
      | nil => simp [hs] at h
      | cons archStr rest =>
          cases ha : ToArch archStr with
          | error err => simp [hs, ha] at h
          | ok arch =>
              simp only [hs, ha, except_ok_bind, except_pure, Except.ok.injEq] at h
              exact ⟨arch, h.symm⟩


/-! ## What `GetSSPArchs` returns -/

@[simp] theorem ToArch_toString (arch : Arch) : ToArch arch.toString = .ok arch := by
  cases arch <;> rfl

/-- `ToArch` accepts exactly the names of the architectures. -/
theorem toString_of_ToArch {s : String} {arch : Arch} (h : ToArch s = .ok arch) :
    arch.toString = s := by
  unfold ToArch at h
  split at h <;> simp only [Except.ok.injEq, reduceCtorEq] at h <;> rw [← h] <;> rfl

/-- Strings that all name architectures convert, and convert back. -/
theorem mapM_ToArch {strs : List String} (h : ∀ s ∈ strs, ∃ arch, ToArch s = .ok arch) :
    ∃ archs, strs.mapM ToArch = .ok archs ∧ archs.map Arch.toString = strs := by
  induction strs with
  | nil => exact ⟨[], rfl, rfl⟩
  | cons s rest ih =>
      obtain ⟨arch, harch⟩ := h s List.mem_cons_self
      obtain ⟨archs, hmap, hstrs⟩ := ih fun s' hs' => h s' (List.mem_cons_of_mem s hs')
      refine ⟨arch :: archs, ?_, ?_⟩
      · simp only [List.mapM_cons, harch, hmap, except_ok_bind, except_pure]
      · rw [List.map_cons, toString_of_ToArch harch, hstrs]

theorem append_union_assoc {T : Type} [DecidableEq T] (l₁ l₂ l₃ : List T) :
    (l₁ ++ l₂) ∪ l₃ = l₁ ∪ (l₂ ∪ l₃) := by
  induction l₁ with
  | nil => rfl
  | cons a l ih => simp only [List.cons_append, List.cons_union, ih]

/-- The loop of `concatWithoutRepetitions`, from any list built so far: each value not yet
    in the list is appended at its first occurrence. Reversed, the list is the union of the
    values seen, last first, with the start. -/
theorem foldl_withoutRepetitions {T : Type} [DecidableEq T] (l acc : List T) :
    l.foldl (fun result val => if val ∈ result then result else result ++ [val]) acc =
      (l.reverse ∪ acc.reverse).reverse := by
  induction l generalizing acc with
  | nil => simp
  | cons v l ih =>
      rw [List.foldl_cons, ih, List.reverse_cons, append_union_assoc, List.cons_union,
        List.nil_union]
      by_cases hv : v ∈ acc
      · -- a value seen before is skipped
        have hv' : v ∈ acc.reverse := List.mem_reverse.mpr hv
        rw [if_pos hv, List.insert_of_mem hv']
      · have hv' : v ∉ acc.reverse := fun h => hv (List.mem_reverse.mp h)
        rw [if_neg hv, List.insert_of_not_mem hv', List.reverse_append, List.reverse_singleton,
          List.singleton_append]

/-- The values of `l` at their first occurrences, in order. -/
def firstOccurrences {T : Type} [DecidableEq T] (l : List T) : List T :=
  l.reverse.dedup.reverse

theorem nodup_firstOccurrences {T : Type} [DecidableEq T] (l : List T) :
    (firstOccurrences l).Nodup :=
  List.nodup_reverse.mpr (List.nodup_dedup _)

@[simp] theorem mem_firstOccurrences {T : Type} [DecidableEq T] {l : List T} {x : T} :
    x ∈ firstOccurrences l ↔ x ∈ l := by
  simp [firstOccurrences]

theorem firstOccurrences_eq_nil {T : Type} [DecidableEq T] {l : List T} :
    firstOccurrences l = [] ↔ l = [] := by
  simp [firstOccurrences]

/-- `concatWithoutRepetitions` keeps the first occurrence of each value, in order. -/
theorem concatWithoutRepetitions_eq {T : Type} [DecidableEq T] (data : List (List T)) :
    concatWithoutRepetitions data = firstOccurrences data.flatten := by
  have hunion : data.flatten.reverse ∪ [] = data.flatten.reverse.dedup := by
    simpa using (List.dedup_append data.flatten.reverse []).symm
  rw [concatWithoutRepetitions, foldl_withoutRepetitions, List.reverse_nil, hunion,
    firstOccurrences]

/-- With a cluster block whose architectures are known and not all absent, `GetSSPArchs`
    returns the cluster's architectures at their first occurrences, control-plane ones
    first, or with multi-architecture support off only the first of them. -/
theorem GetSSPArchs_of_known {goarch : String} {sspSpec : SSPSpec} {cluster : Cluster}
    (hc : sspSpec.cluster = some cluster)
    (hne : cluster.controlPlaneArchitectures ++ cluster.workloadArchitectures ≠ [])
    (hknown : ∀ s ∈ cluster.controlPlaneArchitectures ++ cluster.workloadArchitectures,
      ∃ arch, ToArch s = .ok arch) :
    ∃ archs, GetSSPArchs goarch sspSpec = .ok archs ∧
      archs.map Arch.toString =
        (if sspSpec.isMultiarch then id else List.take 1)
          (firstOccurrences (cluster.controlPlaneArchitectures ++ cluster.workloadArchitectures)) := by
  have hfirst : concatWithoutRepetitions
      [cluster.controlPlaneArchitectures, cluster.workloadArchitectures] =
        firstOccurrences (cluster.controlPlaneArchitectures ++ cluster.workloadArchitectures) := by
    rw [concatWithoutRepetitions_eq]
    simp
  have hknown' : ∀ s ∈ firstOccurrences
      (cluster.controlPlaneArchitectures ++ cluster.workloadArchitectures),
        ∃ arch, ToArch s = .ok arch := fun s hs => hknown s (mem_firstOccurrences.mp hs)
  cases hs : firstOccurrences (cluster.controlPlaneArchitectures ++ cluster.workloadArchitectures)
    with
  | nil => exact absurd (firstOccurrences_eq_nil.mp hs) hne
  | cons s rest =>
      rw [hs] at hknown'
      unfold GetSSPArchs
      simp only [hc, hfirst, hs]
      cases sspSpec.isMultiarch
      · -- only the first architecture
        obtain ⟨arch, harch⟩ := hknown' s List.mem_cons_self
        refine ⟨[arch], ?_, ?_⟩
        · simp [harch]
        · simp [toString_of_ToArch harch]
      · obtain ⟨archs, hmapM, hstrs⟩ := mapM_ToArch hknown'
        exact ⟨archs, by simpa using hmapM, by simpa using hstrs⟩

end SspOperator
