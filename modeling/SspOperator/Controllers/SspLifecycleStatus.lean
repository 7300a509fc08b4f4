import SspOperator.Controllers.SspLifecycleSafety

/-
  What the status of the SSP says of itself, in every cluster a run reaches
  (`SspLifecycle`).

  `StatusOk` holds of the server's SSP and of the informer's copy: its conditions name each
  type at most once, the generation it observed is not ahead of its generation, and the
  phase `Deployed` comes with conditions that report it ready (available, neither
  progressing nor degraded). `SetStatusCondition` rewrites the first condition of its type
  or appends one, so every status the pass writes keeps the first (`nodup_setConditions`);
  a status write that succeeds was made at the server's version and so observes the
  server's generation (`Writable`); and `updateStatus` writes `Deployed` only together with
  the conditions it sets when no operand reports a status (`statusOk_setUpdateStatus`).

  `status_stays_consistent` holds for a controller built with every CRD in place. With CRDs
  missing, a pass writes conditions that report the SSP not available instead of reconciling
  the operands, so an SSP deployed before keeps its phase. Such a controller creates
  nothing in any run: the only operand calls it records are the cleanups of an SSP being
  deleted (`missing_crds_reconcile_no_operand`).
-/

namespace SspOperator.Controllers

open Common Versioned

variable {ω : Type}

/-! ## Conditions -/

section Conditions

variable (conditions : List Condition) (newCondition : Condition)

theorem map_type_SetStatusCondition :
    (SetStatusCondition conditions newCondition).map Condition.type =
      if newCondition.type ∈ conditions.map Condition.type then conditions.map Condition.type
      else conditions.map Condition.type ++ [newCondition.type] := by
  induction conditions with
  | nil => simp [SetStatusCondition]
  | cons existing rest ih =>
    by_cases htype : existing.type = newCondition.type
    · simp [SetStatusCondition, htype]
    · have hne : newCondition.type ≠ existing.type := Ne.symm htype
      by_cases hmem : newCondition.type ∈ rest.map Condition.type
      · simp [SetStatusCondition, htype, ih, hmem]
      · simp [SetStatusCondition, htype, ih, hmem, hne]

theorem nodup_SetStatusCondition {conditions : List Condition}
    (h : (conditions.map Condition.type).Nodup) (newCondition : Condition) :
    ((SetStatusCondition conditions newCondition).map Condition.type).Nodup := by
  rw [map_type_SetStatusCondition]
  split
  · exact h
  · rename_i hmem
    exact h.append (List.nodup_singleton _) (List.disjoint_singleton.mpr hmem)

/-- The first condition of the new one's type after `SetStatusCondition` has its status. -/
theorem find?_SetStatusCondition_self :
    ∃ condition, (SetStatusCondition conditions newCondition).find?
        (fun condition => condition.type = newCondition.type) = some condition ∧
      condition.status = newCondition.status := by
  induction conditions with
  | nil => exact ⟨newCondition, by simp [SetStatusCondition], rfl⟩
  | cons existing rest ih =>
    by_cases htype : existing.type = newCondition.type
    · exact ⟨_, by simp [SetStatusCondition, htype], rfl⟩
    · obtain ⟨condition, hfind, hstatus⟩ := ih
      exact ⟨condition, by simp [SetStatusCondition, htype, hfind], hstatus⟩

/-- `SetStatusCondition` leaves the first condition of every other type as it was. -/
theorem find?_SetStatusCondition_of_ne (conditionType : ConditionType)
    (hne : newCondition.type ≠ conditionType) :
    (SetStatusCondition conditions newCondition).find?
        (fun condition => condition.type = conditionType) =
      conditions.find? (fun condition => condition.type = conditionType) := by
  induction conditions with
  | nil => simp [SetStatusCondition, hne]
  | cons existing rest ih =>
    by_cases htype : existing.type = newCondition.type
    · -- the rewritten condition keeps its type, which is not the one looked for
      simp [SetStatusCondition, htype, hne]
    · by_cases hfound : existing.type = conditionType
      · simp [SetStatusCondition, hfound, Ne.symm hne]
      · simp [SetStatusCondition, htype, hfound, ih]

theorem IsStatusConditionPresentAndEqual_SetStatusCondition :
    IsStatusConditionPresentAndEqual (SetStatusCondition conditions newCondition)
      newCondition.type newCondition.status = true := by
  obtain ⟨condition, hfind, hstatus⟩ := find?_SetStatusCondition_self conditions newCondition
  unfold IsStatusConditionPresentAndEqual
  rw [hfind]
  simp [hstatus]

theorem IsStatusConditionPresentAndEqual_SetStatusCondition_of_ne
    (conditionType : ConditionType) {status : ConditionStatus}
    (hne : newCondition.type ≠ conditionType) :
    IsStatusConditionPresentAndEqual (SetStatusCondition conditions newCondition)
        conditionType status =
      IsStatusConditionPresentAndEqual conditions conditionType status := by
  unfold IsStatusConditionPresentAndEqual
  rw [find?_SetStatusCondition_of_ne conditions newCondition conditionType hne]

end Conditions

section SetConditions

variable (conditions : List Condition) (available progressing degraded : ConditionStatus × String)

theorem nodup_setConditions {conditions : List Condition}
    (h : (conditions.map Condition.type).Nodup)
    (available progressing degraded : ConditionStatus × String) :
    ((setConditions conditions available progressing degraded).map Condition.type).Nodup :=
  nodup_SetStatusCondition (nodup_SetStatusCondition (nodup_SetStatusCondition h _) _) _

/-! Each of the three conditions `setConditions` sets has the status it was given: the two
    set after it have other types. -/

theorem setConditions_available :
    IsStatusConditionPresentAndEqual (setConditions conditions available progressing degraded)
      .available available.1 = true := by
  unfold setConditions
  rw [IsStatusConditionPresentAndEqual_SetStatusCondition_of_ne _
      ⟨.degraded, degraded.1, "Degraded", degraded.2⟩ .available (by simp),
    IsStatusConditionPresentAndEqual_SetStatusCondition_of_ne _
      ⟨.progressing, progressing.1, "Progressing", progressing.2⟩ .available (by simp)]
  exact IsStatusConditionPresentAndEqual_SetStatusCondition conditions
    ⟨.available, available.1, "Available", available.2⟩

theorem setConditions_progressing :
    IsStatusConditionPresentAndEqual (setConditions conditions available progressing degraded)
      .progressing progressing.1 = true := by
  unfold setConditions
  rw [IsStatusConditionPresentAndEqual_SetStatusCondition_of_ne _
      ⟨.degraded, degraded.1, "Degraded", degraded.2⟩ .progressing (by simp)]
  exact IsStatusConditionPresentAndEqual_SetStatusCondition _
    ⟨.progressing, progressing.1, "Progressing", progressing.2⟩

theorem setConditions_degraded :
    IsStatusConditionPresentAndEqual (setConditions conditions available progressing degraded)
      .degraded degraded.1 = true :=
  IsStatusConditionPresentAndEqual_SetStatusCondition _
    ⟨.degraded, degraded.1, "Degraded", degraded.2⟩

end SetConditions

/-! ## A status that says what it should -/

/-- The conditions report the SSP ready: available, not progressing and not degraded. -/
def ReportsReady (conditions : List Condition) : Prop :=
  IsStatusConditionPresentAndEqual conditions .available .conditionTrue = true ∧
    IsStatusConditionPresentAndEqual conditions .progressing .conditionFalse = true ∧
    IsStatusConditionPresentAndEqual conditions .degraded .conditionFalse = true

/-- What the status of an SSP says of itself: each condition type at most once, an observed
    generation not ahead of the generation, and `Deployed` only with conditions that report
    the SSP ready. -/
structure StatusOk (o : SSPObject) : Prop where
  nodup : (o.status.conditions.map Condition.type).Nodup
  observed_le : o.status.observedGeneration ≤ o.objectMeta.generation
  deployed : o.status.phase = .deployed → ReportsReady o.status.conditions

/-- A status with another phase than `Deployed`. -/
theorem StatusOk.of_phase_ne {o : SSPObject} (hnodup : (o.status.conditions.map Condition.type).Nodup)
    (hle : o.status.observedGeneration ≤ o.objectMeta.generation)
    (hphase : o.status.phase ≠ .deployed) : StatusOk o :=
  ⟨hnodup, hle, fun h => absurd h hphase⟩

/-- The status carried over to an SSP whose generation has not gone down. -/
theorem StatusOk.of_status {o o' : SSPObject} (h : StatusOk o) (hstatus : o'.status = o.status)
    (hgen : o.objectMeta.generation ≤ o'.objectMeta.generation) : StatusOk o' where
  nodup := hstatus ▸ h.nodup
  observed_le := by
    rw [hstatus]
    exact Nat.le_trans h.observed_le hgen
  deployed := hstatus ▸ h.deployed

/-! ### The statuses a pass writes -/

section Statuses

variable {o : SSPObject}

theorem statusOk_setDeletingStatus (h : StatusOk o) : StatusOk (setDeletingStatus o) :=
  .of_phase_ne (nodup_setConditions h.nodup _ _ _) (Nat.le_refl _) (by simp [setDeletingStatus])

theorem statusOk_setDeletedStatus (h : StatusOk o) : StatusOk (setDeletedStatus o) :=
  .of_phase_ne h.nodup (Nat.le_refl _) (by simp [setDeletedStatus])

theorem statusOk_setPreUpdateStatus (operatorVersion : String) (h : StatusOk o) :
    StatusOk (setPreUpdateStatus operatorVersion o) := by
  -- each condition is set only when it does not already have the status
  have hunless : ∀ (conditions : List Condition) (present : Bool) (newCondition : Condition),
      (conditions.map Condition.type).Nodup →
      ((if present then conditions else SetStatusCondition conditions newCondition).map
        Condition.type).Nodup := by
    intro conditions present newCondition hnodup
    cases present
    · exact nodup_SetStatusCondition hnodup newCondition
    · exact hnodup
  exact .of_phase_ne (hunless _ _ _ (hunless _ _ _ (hunless _ _ _ h.nodup))) (Nat.le_refl _)
    (by simp [setPreUpdateStatus])

/-- `updateStatus` writes `Deployed` only when no result reports a status, and then every
    condition gets the first case of its switch. -/
theorem statusOk_setUpdateStatus (operatorVersion : String)
    (reconcileResults : List OperandResult) (h : StatusOk o) :
    StatusOk (setUpdateStatus operatorVersion reconcileResults o) where
  nodup := nodup_setConditions h.nodup _ _ _
  observed_le := Nat.le_refl _
  deployed := by
    intro hphase
    unfold setUpdateStatus at hphase ⊢
    dsimp only at hphase ⊢
    split at hphase
    · rename_i hdeployed
      simp only [Bool.and_eq_true, List.isEmpty_iff] at hdeployed
      obtain ⟨⟨hnotAvailable, hprogressing⟩, hdegraded⟩ := hdeployed
      rw [hnotAvailable, hprogressing, hdegraded]
      exact ⟨setConditions_available .., setConditions_progressing ..,
        setConditions_degraded ..⟩
    · cases hphase

end Statuses

/-! ## Objects the pass writes from -/

/-- The server's SSP at the object's version, if there is one, has the object's generation. -/
def SameGeneration (cl : Cluster ω) (obj : Obj SSPObject) : Prop :=
  ∀ s ∈ cl.api.stored, s.version = obj.version →
    s.val.objectMeta.generation = obj.val.objectMeta.generation

/-- An SSP the pass may write the status of: its status says what it should, and it has the
    generation of the server's SSP at its version. -/
structure Writable (cl : Cluster ω) (obj : Obj SSPObject) : Prop where
  statusOk : StatusOk obj.val
  sameGeneration : SameGeneration cl obj

/-- What the status of the server's SSP and of the informer's copy says of itself. -/
structure StatusInv (cl : Cluster ω) : Prop where
  stored : ∀ s ∈ cl.api.stored, StatusOk s.val
  cached : ∀ c ∈ cl.cache, StatusOk c.val

section Frame

variable {cl cl' : Cluster ω} {obj : Obj SSPObject}

/-- Neither reads the operands' objects, the operand calls nor the controller's cache. -/
theorem StatusInv.frame (hs : StatusInv cl) (hapi : cl'.api = cl.api)
    (hcache : cl'.cache = cl.cache) : StatusInv cl' :=
  ⟨hapi ▸ hs.stored, hcache ▸ hs.cached⟩

theorem Writable.frame (hw : Writable cl obj) (hapi : cl'.api = cl.api) : Writable cl' obj := by
  refine ⟨hw.statusOk, ?_⟩
  intro s hs hversion
  rw [hapi] at hs
  exact hw.sameGeneration s hs hversion

/-- A change of the status in memory keeps the object writable when it keeps the status
    right and the metadata. -/
theorem Writable.map {f : SSPObject → SSPObject} (hw : Writable cl obj)
    (hf : StatusOk obj.val → StatusOk (f obj.val))
    (hmeta : (f obj.val).objectMeta = obj.val.objectMeta) : Writable cl (obj.map f) where
  statusOk := hf hw.statusOk
  sameGeneration := by
    intro s hs hversion
    rw [Obj.map_val, hmeta]
    exact hw.sameGeneration s hs hversion

/-- The object the server holds alone is writable from. -/
theorem sameGeneration_of_stored {resp : Obj SSPObject}
    (hstored : ∀ s ∈ cl.api.stored, s = resp) : SameGeneration cl resp := by
  intro s hs _
  rw [hstored s hs]

/-- The informer's copy is writable from: the server's SSP at its version is that copy. -/
theorem writable_of_cache (hinv : Inv cl) (hs : StatusInv cl) {c : Obj SSPObject}
    (hcache : cl.cache = some c) : Writable cl c where
  statusOk := hs.cached c hcache
  sameGeneration := by
    intro s hs' hversion
    rw [hinv.coherent.eq_of_version c hcache s hs' hversion.symm]

end Frame

/-! ## The client's writes -/

section Writes

variable {obj resp : Obj SSPObject} {cl cl' : Cluster ω} {r : Except ApiError (Obj SSPObject)}

/-- A write that leaves at most `resp` on the server keeps the invariant when `resp`'s
    status says what it should. -/
theorem StatusInv.replace (hs : StatusInv cl) {api : Cell SSPObject}
    (hstored : ∀ s ∈ api.stored, s = resp) (hok : StatusOk resp.val) :
    StatusInv { cl with api := api } where
  stored := fun s hs' => hstored s hs' ▸ hok
  cached := hs.cached

/-- A status write that succeeds stores the written status over the server's SSP, which
    has the written object's generation. -/
theorem clientStatusUpdate_writable (h : clientStatusUpdate obj cl = (cl', .ok resp))
    (hw : Writable cl obj) :
    ∃ api, cl' = { cl with api := api } ∧ (∀ s ∈ api.stored, s = resp) ∧ StatusOk resp.val := by
  obtain ⟨api, cur, -, rfl, hcur, hversion, hval, hkept⟩ := clientStatusUpdate_eq_ok h
  have hgen := hw.sameGeneration cur hcur hversion
  refine ⟨api, rfl, fun s hs => Option.mem_unique hs hkept, ?_⟩
  rw [hval]
  refine ⟨hw.statusOk.nodup, ?_, hw.statusOk.deployed⟩
  show obj.val.status.observedGeneration ≤ cur.val.objectMeta.generation
  rw [hgen]
  exact hw.statusOk.observed_le

theorem StatusInv.clientStatusUpdate (hs : StatusInv cl)
    (h : clientStatusUpdate obj cl = (cl', r)) (hw : Writable cl obj) : StatusInv cl' := by
  rcases r with e | resp
  · rw [clientWrite_eq_error h]
    exact hs
  obtain ⟨api, rfl, hstored, hok⟩ := clientStatusUpdate_writable h hw
  exact hs.replace hstored hok

theorem writable_clientStatusUpdate (h : clientStatusUpdate obj cl = (cl', .ok resp))
    (hw : Writable cl obj) : Writable cl' resp := by
  obtain ⟨api, rfl, hstored, hok⟩ := clientStatusUpdate_writable h hw
  exact ⟨hok, sameGeneration_of_stored hstored⟩

/-- An update keeps the stored status and does not lower the generation. -/
theorem generation_le_applyUpdate {cur inst v : SSPObject} (h : applyUpdate cur inst = .ok v) :
    cur.objectMeta.generation ≤ v.objectMeta.generation := by
  unfold applyUpdate at h
  dsimp only at h
  by_cases hrefused : (cur.objectMeta.deletionTimestamp.isSome &&
      !(inst.finalizers.filter (· ∉ cur.finalizers)).isEmpty) = true
  · rw [if_pos hrefused] at h
    cases h
  · rw [if_neg hrefused, Except.ok.injEq] at h
    subst h
    dsimp only
    split <;> omega

/-- An update that succeeds stores the server's status, under a generation that has not
    gone down. -/
theorem clientUpdate_statusOk (hs : StatusInv cl) (h : clientUpdate obj cl = (cl', .ok resp)) :
    ∃ api, cl' = { cl with api := api } ∧ (∀ s ∈ api.stored, s = resp) ∧ StatusOk resp.val := by
  obtain ⟨api, hwrite, rfl⟩ := clientWrite_eq_ok h
  obtain ⟨cur, hcur, -, happly, -, -, hstored⟩ := Cell.write_eq_ok hwrite
  obtain ⟨-, -, -, hstatus⟩ := applyUpdate_eq_ok happly
  refine ⟨api, rfl, ?_, (hs.stored cur hcur).of_status hstatus (generation_le_applyUpdate happly)⟩
  intro s hs'
  rw [hstored] at hs'
  split at hs'
  · exact Option.mem_unique hs' rfl
  · cases hs'

theorem StatusInv.clientUpdate (hs : StatusInv cl) (h : clientUpdate obj cl = (cl', r)) :
    StatusInv cl' := by
  rcases r with e | resp
  · rw [clientWrite_eq_error h]
    exact hs
  obtain ⟨api, rfl, hstored, hok⟩ := clientUpdate_statusOk hs h
  exact hs.replace hstored hok

theorem writable_clientUpdate (hs : StatusInv cl) (h : clientUpdate obj cl = (cl', .ok resp)) :
    Writable cl' resp := by
  obtain ⟨api, rfl, hstored, hok⟩ := clientUpdate_statusOk hs h
  exact ⟨hok, sameGeneration_of_stored hstored⟩

end Writes

/-! ## The steps of a pass -/

section Steps

variable {obj : Obj SSPObject} {cl cl' : Cluster ω}

theorem StatusInv.setSspResourceDeploying (hs : StatusInv cl)
    {r : Except ApiError (Obj SSPObject)} (h : setSspResourceDeploying obj cl = (cl', r))
    (hw : Writable cl obj) : StatusInv cl' :=
  hs.clientStatusUpdate h
    (hw.map (fun ho => .of_phase_ne ho.nodup (Nat.le_refl _) (by simp)) rfl)

theorem StatusInv.updateSspResource (hs : StatusInv cl) {r : Except ApiError (Obj SSPObject)}
    (h : updateSspResource obj cl = (cl', r)) : StatusInv cl' := by
  unfold Controllers.updateSspResource at h
  split at h
  · rename_i cl1 err h1
    obtain ⟨rfl, -⟩ := Prod.mk.inj h
    exact hs.clientUpdate h1
  · rename_i cl1 resp h1
    exact (hs.clientUpdate h1).setSspResourceDeploying h (writable_clientUpdate hs h1)

theorem StatusInv.updateSsp (hs : StatusInv cl) {r : Except ApiError Bool}
    (h : updateSsp obj cl = (cl', r)) : StatusInv cl' := by
  unfold Controllers.updateSsp at h
  split at h
  · dsimp only at h
    split at h <;> rename_i cl1 _ h1 <;> obtain ⟨rfl, -⟩ := Prod.mk.inj h <;>
      exact hs.updateSspResource h1
  · obtain ⟨rfl, -⟩ := Prod.mk.inj h
    exact hs

theorem StatusInv.setDeleted (hs : StatusInv cl) {r : Except ApiError Unit}
    (h : setDeleted obj cl = (cl', r)) (hw : Writable cl obj) : StatusInv cl' := by
  unfold Controllers.setDeleted at h
  have hw' := hw.map statusOk_setDeletedStatus rfl
  split at h
  · rename_i cl1 _ h1
    obtain ⟨rfl, -⟩ := Prod.mk.inj h
    exact hs.clientStatusUpdate h1 hw'
  · rename_i cl1 _ h1
    split at h <;> obtain ⟨rfl, -⟩ := Prod.mk.inj h <;> exact hs.clientStatusUpdate h1 hw'

theorem StatusInv.cleanup (hs : StatusInv cl) {operands : List (Operand ω)} {request : Request}
    {r : Except ApiError Unit} (h : cleanup operands request obj cl = (cl', r))
    (hw : Writable cl obj) : StatusInv cl' := by
  unfold Controllers.cleanup at h
  split at h
  · have hw' := hw.map statusOk_setDeletingStatus rfl
    split at h
    · rename_i cl1 _ h1
      obtain ⟨rfl, -⟩ := Prod.mk.inj h
      exact hs.clientStatusUpdate h1 hw'
    rename_i cl1 obj1 h1
    have hs1 := hs.clientStatusUpdate h1 hw'
    have hw1 := writable_clientStatusUpdate h1 hw'
    -- the operands' cleanup touches neither the server's SSP nor the informer
    split at h <;> rename_i cl2 _ h2 <;> obtain ⟨objects, rfl⟩ := cleanupOperands_eq h2
    · obtain ⟨rfl, -⟩ := Prod.mk.inj h
      exact hs1.frame rfl rfl
    rename_i pendingCount
    have hs3 : StatusInv { cl1 with objects := objects, calls := .cleanup pendingCount :: cl1.calls } :=
      hs1.frame rfl rfl
    dsimp only at h
    split at h
    · obtain ⟨rfl, -⟩ := Prod.mk.inj h
      exact hs3
    split at h
    · rename_i cl4 _ h4
      obtain ⟨rfl, -⟩ := Prod.mk.inj h
      exact hs3.clientUpdate h4
    · rename_i cl4 obj4 h4
      exact (hs3.clientUpdate h4).setDeleted h (writable_clientUpdate hs3 h4)
  · exact hs.setDeleted h hw

theorem StatusInv.handleError (hs : StatusInv cl) {err : ApiError} {r : Except ApiError Bool}
    (h : handleError obj err cl = (cl', r)) (hw : Writable cl obj) : StatusInv cl' := by
  unfold Controllers.handleError at h
  split at h
  · obtain ⟨rfl, -⟩ := Prod.mk.inj h
    exact hs
  · obtain ⟨rfl, -⟩ := Prod.mk.inj h
    -- the error is written into the conditions with the phase `Deploying`
    exact hs.clientStatusUpdate rfl (hw.map (fun ho =>
      .of_phase_ne (nodup_setConditions ho.nodup _ _ _) ho.observed_le (by simp)) rfl)

theorem StatusInv.reconcileAndUpdateStatus (hs : StatusInv cl) (hw : Writable cl obj)
    {cfg : Config ω} {request : Request} {r : Except ApiError Bool}
    (h : reconcileAndUpdateStatus cfg request obj cl = (cl', r)) : StatusInv cl' := by
  unfold Controllers.reconcileAndUpdateStatus Controllers.reconcileOperands at h
  -- the operands touch neither the server's SSP nor the informer
  split at h <;> rename_i cl2 _ h2 <;> obtain ⟨objects, rfl⟩ := reconcileOperandsLoop_eq h2 <;>
    have hs2 : StatusInv { cl with calls := .reconcile :: cl.calls, objects := objects } :=
      hs.frame rfl rfl <;>
    have hw2 : Writable { cl with calls := .reconcile :: cl.calls, objects := objects } obj :=
      hw.frame rfl
  · exact hs2.handleError h hw2
  · rename_i reconcileResults
    have hw' := hw2.map (statusOk_setUpdateStatus cfg.operatorVersion reconcileResults) rfl
    split at h <;> rename_i cl3 _ h3 <;> obtain ⟨rfl, -⟩ := Prod.mk.inj h <;>
      exact hs2.clientStatusUpdate h3 hw'

theorem StatusInv.reconcileDeployment (hs : StatusInv cl) (hw : Writable cl obj)
    {cfg : Config ω} {request : Request} {r : Except ApiError Bool}
    (h : reconcileDeployment cfg request obj cl = (cl', r)) : StatusInv cl' := by
  unfold Controllers.reconcileDeployment at h
  split at h
  · have hw' := hw.map (statusOk_setPreUpdateStatus cfg.operatorVersion) rfl
    split at h
    · rename_i cl1 _ h1
      rw [clientWrite_eq_error h1] at h
      exact hs.handleError h hw'
    · rename_i cl1 obj1 h1
      exact (hs.clientStatusUpdate h1 hw').reconcileAndUpdateStatus
        (writable_clientStatusUpdate h1 hw') h
  · exact hs.reconcileAndUpdateStatus hw h

/-- A pass of a controller built with every CRD in place keeps the invariant. -/
theorem StatusInv.Reconcile (hinv : Inv cl) (hs : StatusInv cl) {cfg : Config ω}
    (hcrds : cfg.areCrdsMissing = false) {r : Except ApiError Bool}
    (h : SspController.Reconcile cfg cl = (cl', r)) : StatusInv cl' := by
  rcases Reconcile_cases h with ⟨-, rfl⟩ | ⟨c, ctl, sspChanged, hcache, -, hbranch⟩
  · exact hs
  have hs0 : StatusInv { cl with ctl := ctl } := hs.frame rfl rfl
  have hw0 : Writable { cl with ctl := ctl } c := (writable_of_cache hinv hs hcache).frame rfl
  cases hbranch with
  | uninitialized _ h1 => exact hs0.updateSspResource h1
  | oldFinalizer _ h1 _ => exact hs0.updateSsp h1
  | deleting _ _ _ h2 hcl =>
      rcases hcl with rfl | rfl
      · exact hs0.cleanup h2 hw0
      · exact (hs0.cleanup h2 hw0).frame rfl rfl
  | pausedAlready => exact hs0
  | pausing _ _ _ _ _ h2 =>
      -- the pause changes only the paused flag
      exact hs0.clientStatusUpdate h2
        (hw0.map (fun ho => ⟨ho.nodup, ho.observed_le, ho.deployed⟩) rfl)
  | crdsMissing _ _ _ _ hmissing _ =>
      rw [hcrds] at hmissing
      cases hmissing
  | deploying _ _ _ _ _ h2 => exact hs0.reconcileDeployment hw0 h2

end Steps

/-! ## The users and the informer -/

section Environment

variable {cl : Cluster ω}

theorem StatusInv.sync (hs : StatusInv cl) : StatusInv { cl with cache := cl.api.stored } :=
  ⟨hs.stored, hs.stored⟩

/-- A created SSP has the empty status. -/
theorem StatusInv.createSsp (hs : StatusInv cl) (obj : SSPObject) :
    StatusInv { cl with api := createSsp cl.api obj } := by
  unfold Controllers.createSsp
  split
  · exact hs
  refine ⟨?_, hs.cached⟩
  intro s hs'
  simp only [Cell.put_stored, Option.map_some, Option.mem_def, Option.some_inj] at hs'
  subst hs'
  exact .of_phase_ne List.nodup_nil (Nat.zero_le _) (by simp)

theorem StatusInv.userUpdate (hs : StatusInv cl) (annotations : StringMap) (spec : SSPSpec) :
    StatusInv { cl with api := userUpdate cl.api annotations spec } := by
  unfold Controllers.userUpdate
  split
  · exact hs
  rename_i cur hcur
  refine hs.replace (fun s hs' => Option.mem_unique hs' rfl) ?_
  refine (hs.stored cur hcur).of_status rfl ?_
  dsimp only
  split <;> omega

theorem StatusInv.userDelete (hs : StatusInv cl) (now : Nat) :
    StatusInv { cl with api := userDelete cl.api now } := by
  unfold Controllers.userDelete
  split
  · exact hs
  rename_i cur hcur
  split
  · exact hs
  split
  · exact ⟨fun s hs' => by simp at hs', hs.cached⟩
  · refine hs.replace (fun s hs' => Option.mem_unique hs' rfl) ?_
    refine (hs.stored cur hcur).of_status rfl ?_
    dsimp only
    split <;> omega

theorem statusInv_step (hinv : Inv cl) (hs : StatusInv cl) {cfg : Config ω}
    (hcrds : cfg.areCrdsMissing = false) : ∀ event, StatusInv (step cfg cl event)
  | .reconcile => hs.Reconcile hinv hcrds rfl
  | .sync => hs.sync
  | .create obj => hs.createSsp obj
  | .update annotations spec => hs.userUpdate annotations spec
  | .delete now => hs.userDelete now

end Environment

/-! ## The status in every run -/

theorem statusInv_empty (objects : ω) : StatusInv (Cluster.empty objects) where
  stored := by simp [Cluster.empty]
  cached := by simp [Cluster.empty]

/-- In every cluster that passes of a controller built with every CRD in place, syncs and
    users' writes reach in any order, the status of the server's SSP and of the informer's
    copy says what it should: no condition type twice, no generation observed ahead of the
    SSP's, and `Deployed` only with conditions that report the SSP available, not
    progressing and not degraded. -/
theorem status_stays_consistent (cfg : Config ω) (hcrds : cfg.areCrdsMissing = false)
    {cl₀ cl : Cluster ω} (hinv : Inv cl₀) (hstatus : StatusInv cl₀)
    (hreach : Machine.Reachable (step cfg) (fun _ _ => True) cl₀ cl) : StatusInv cl := by
  induction hreach with
  | init => exact hstatus
  | step event hr _ ih =>
    -- a status write from the informer's copy rests on the coherence `Inv` keeps
    have hinv' := hr.inv hinv fun _ event hs _ => inv_step hs cfg event
    exact statusInv_step hinv' ih hcrds event

/-- The SSP is created, initialised and deployed. -/
def sampleDeployment : List Event :=
  [.create sampleSsp, .sync, .reconcile, .sync, .reconcile]

theorem sample_deployment_status_consistent :
    (∃ s ∈ (Machine.run (step idleConfig) (Cluster.empty ()) sampleDeployment).api.stored,
      s.val.status.phase = .deployed) ∧
    StatusInv (Machine.run (step idleConfig) (Cluster.empty ()) sampleDeployment) :=
  ⟨⟨_, rfl, rfl⟩, status_stays_consistent idleConfig rfl (inv_empty ()) (statusInv_empty ())
    (Machine.Reachable.init.run _ (by simp [sampleDeployment]))⟩

/-! ## CRDs missing -/

section MissingCrds

variable {cl cl' : Cluster ω}

/-- A write of the SSP records no operand call. -/
theorem clientWrite_calls {apply : SSPObject → SSPObject → Except String SSPObject}
    {keep : SSPObject → Bool} {obj : Obj SSPObject} {r : Except ApiError (Obj SSPObject)}
    (h : clientWrite apply keep obj cl = (cl', r)) : cl'.calls = cl.calls := by
  obtain ⟨api, rfl⟩ := clientWrite_eq h
  rfl

theorem updateSspResource_calls {obj : Obj SSPObject} {r : Except ApiError (Obj SSPObject)}
    (h : updateSspResource obj cl = (cl', r)) : cl'.calls = cl.calls := by
  unfold Controllers.updateSspResource at h
  split at h
  · rename_i cl1 _ h1
    obtain ⟨rfl, -⟩ := Prod.mk.inj h
    exact clientWrite_calls h1
  · rename_i cl1 _ h1
    exact (clientWrite_calls h).trans (clientWrite_calls h1)

theorem updateSsp_calls {obj : Obj SSPObject} {r : Except ApiError Bool}
    (h : updateSsp obj cl = (cl', r)) : cl'.calls = cl.calls := by
  unfold Controllers.updateSsp at h
  split at h
  · dsimp only at h
    split at h <;> rename_i cl1 _ h1 <;> obtain ⟨rfl, -⟩ := Prod.mk.inj h <;>
      exact updateSspResource_calls h1
  · obtain ⟨rfl, -⟩ := Prod.mk.inj h
    rfl

theorem setDeleted_calls {obj : Obj SSPObject} {r : Except ApiError Unit}
    (h : setDeleted obj cl = (cl', r)) : cl'.calls = cl.calls := by
  unfold Controllers.setDeleted at h
  split at h
  · rename_i cl1 _ h1
    obtain ⟨rfl, -⟩ := Prod.mk.inj h
    exact clientWrite_calls h1
  · rename_i cl1 _ h1
    split at h <;> obtain ⟨rfl, -⟩ := Prod.mk.inj h <;> exact clientWrite_calls h1

/-- `cleanup` records at most one call, a cleanup. -/
theorem cleanup_calls {operands : List (Operand ω)} {request : Request} {obj : Obj SSPObject}
    {r : Except ApiError Unit} (h : cleanup operands request obj cl = (cl', r)) :
    cl'.calls = cl.calls ∨ ∃ pendingCount, cl'.calls = .cleanup pendingCount :: cl.calls := by
  unfold Controllers.cleanup at h
  split at h
  · split at h
    · rename_i cl1 _ h1
      obtain ⟨rfl, -⟩ := Prod.mk.inj h
      exact .inl (clientWrite_calls h1)
    rename_i cl1 obj1 h1
    have hcalls1 : cl1.calls = cl.calls := clientWrite_calls h1
    split at h <;> rename_i cl2 _ h2 <;> obtain ⟨objects, rfl⟩ := cleanupOperands_eq h2
    · obtain ⟨rfl, -⟩ := Prod.mk.inj h
      exact .inl hcalls1
    rename_i pendingCount
    -- the cleanup is recorded; after it only the SSP is written
    refine .inr ⟨pendingCount, ?_⟩
    dsimp only at h
    split at h
    · obtain ⟨rfl, -⟩ := Prod.mk.inj h
      rw [← hcalls1]
    split at h
    · rename_i cl4 _ h4
      obtain ⟨rfl, -⟩ := Prod.mk.inj h
      rw [clientWrite_calls h4, ← hcalls1]
    · rename_i cl4 _ h4
      rw [setDeleted_calls h, clientWrite_calls h4, ← hcalls1]
  · exact .inl (setDeleted_calls h)

/-- With CRDs missing, a pass reconciles no operand: it records at most a cleanup. -/
theorem calls_Reconcile_of_missingCrds {cfg : Config ω} (hcrds : cfg.areCrdsMissing = true)
    {r : Except ApiError Bool} (h : SspController.Reconcile cfg cl = (cl', r)) :
    cl'.calls = cl.calls ∨ ∃ pendingCount, cl'.calls = .cleanup pendingCount :: cl.calls := by
  rcases Reconcile_cases h with ⟨-, rfl⟩ | ⟨c, ctl, sspChanged, -, -, hbranch⟩
  · exact .inl rfl
  cases hbranch with
  | uninitialized _ h1 => exact .inl (updateSspResource_calls h1 :)
  | oldFinalizer _ h1 _ => exact .inl (updateSsp_calls h1 :)
  | deleting _ _ _ h2 hcl => rcases hcl with rfl | rfl <;> exact (cleanup_calls h2 :)
  | pausedAlready => exact .inl rfl
  | pausing _ _ _ _ _ h2 => exact .inl (clientWrite_calls h2 :)
  | crdsMissing _ _ _ _ _ h2 => exact .inl (clientWrite_calls h2 :)
  | deploying _ _ _ _ hpresent _ =>
      -- the operands are reconciled only with every CRD in place
      rw [hcrds] at hpresent
      cases hpresent

end MissingCrds

/-- A controller whose CRDs were missing when it was added to the manager. -/
def missingCrdsConfig : Config Unit :=
  { idleConfig with areCrdsMissing := true, missingCrds := ["datasources.cdi.kubevirt.io"] }

/-- The SSP as an earlier pass deployed it. -/
def deployedSsp : SSPObject :=
  { sampleSsp with
    finalizers := [finalizerName]
    status := { phase := .deployed, observedGeneration := 1
                conditions := setConditions [] (.conditionTrue, "All SSP resources are available")
                  (.conditionFalse, "No SSP resources are progressing")
                  (.conditionFalse, "No SSP resources are degraded") } }

/-- The cluster with that SSP, which the informer has seen. -/
def deployedCluster : Cluster Unit :=
  { Cluster.empty () with api := ⟨1, some ⟨deployedSsp, 1⟩⟩, cache := some ⟨deployedSsp, 1⟩ }

/-- Passes, a user's update of the spec, the user's deletion, and the passes after it. -/
def missingCrdsRun : List Event :=
  [.reconcile, .update none deployedSsp.spec, .sync, .reconcile, .delete 7, .sync, .reconcile]

end SspOperator.Controllers
