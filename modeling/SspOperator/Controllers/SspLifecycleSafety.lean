import SspOperator.Controllers.SspLifecycle

/-
  What every run of the SSP's lifecycle keeps (`SspLifecycle`).

  `Inv` says: the informer's copy and the server's copy are coherent
  (`Versioned.Coherent`); an SSP the controller has initialised and no one has deleted
  (`Running`) carries one of the controller's finalizers; so does the server's SSP whenever
  the informer's copy is running, however old that copy is; and so does the server's SSP
  whenever an operand was reconciled after the last cleanup that left nothing.

  Each write of a pass keeps it: a status write changes no finalizer, and an update either
  keeps a controller finalizer or takes them off an SSP being deleted right after a cleanup
  that left nothing (`Inv.clientStatusUpdate`, `Inv.clientUpdate`). A pass writes only at the
  version it read, so a write that succeeds from the informer's copy was made on that very
  object (`heldAt_of_running`, `deletingAt_of_deleting`). The users' writes and the
  informer's syncs keep it too (`Inv.step`), and `removed_only_after_cleanup` follows.
-/

namespace SspOperator.Controllers

open Common Versioned

variable {ω : Type}

/-! ## The controller's finalizers -/

/-- The SSP carries one of the controller's finalizers. -/
def HasFinalizer (o : SSPObject) : Prop :=
  finalizerName ∈ o.finalizers ∨ oldFinalizerName ∈ o.finalizers

/-- The controller has initialised the SSP and no one has deleted it. -/
def Running (o : SSPObject) : Prop :=
  isBeingDeleted o.objectMeta = false ∧ o.status.phase ≠ .empty

theorem hasFinalizer_AddFinalizer (o : SSPObject) :
    HasFinalizer (AddFinalizer o finalizerName) := by
  unfold AddFinalizer
  split
  · rename_i h
    exact .inl (by simpa using h)
  · exact .inl (List.mem_append_right _ (List.mem_singleton_self _))

theorem keepAfterUpdate_of_hasFinalizer {o : SSPObject} (h : HasFinalizer o) :
    keepAfterUpdate o = true := by
  have hne : o.finalizers ≠ [] := by
    rcases h with h | h <;> exact List.ne_nil_of_mem h
  simp [keepAfterUpdate, hne]

theorem running_of_isInitialized {o : SSPObject} (hinit : isInitialized o = true)
    (hdel : isBeingDeleted o.objectMeta = false) : Running o := by
  refine ⟨hdel, ?_⟩
  simpa [isInitialized, hdel] using hinit

/-- An update takes the written finalizers and annotations and keeps the stored deletion
    and status. -/
theorem applyUpdate_eq_ok {cur inst v : SSPObject} (h : applyUpdate cur inst = .ok v) :
    v.finalizers = inst.finalizers ∧
      v.objectMeta.deletionTimestamp = cur.objectMeta.deletionTimestamp ∧
      v.objectMeta.annotations = inst.objectMeta.annotations ∧ v.status = cur.status := by
  unfold applyUpdate at h
  dsimp only at h
  by_cases hrefused : (cur.objectMeta.deletionTimestamp.isSome &&
      !(inst.finalizers.filter (· ∉ cur.finalizers)).isEmpty) = true
  · rw [if_pos hrefused] at h
    cases h
  · rw [if_neg hrefused, Except.ok.injEq] at h
    subst h
    exact ⟨rfl, rfl, rfl, rfl⟩

/-- An update that adds a finalizer to an SSP being deleted is refused. -/
theorem applyUpdate_of_new_finalizer {cur inst : SSPObject} {finalizer : String}
    (hdel : isBeingDeleted cur.objectMeta = true) (hmem : finalizer ∈ inst.finalizers)
    (hnew : finalizer ∉ cur.finalizers) : ∃ e, applyUpdate cur inst = .error e := by
  have hextra : (inst.finalizers.filter (· ∉ cur.finalizers)).isEmpty = false := by
    rw [List.isEmpty_eq_false_iff_exists_mem]
    exact ⟨finalizer, List.mem_filter.mpr ⟨hmem, by simpa using hnew⟩⟩
  have hrefused : (cur.objectMeta.deletionTimestamp.isSome &&
      !(inst.finalizers.filter (· ∉ cur.finalizers)).isEmpty) = true := by
    unfold isBeingDeleted at hdel
    rw [hdel, hextra]
    rfl
  unfold applyUpdate
  dsimp only
  rw [if_pos hrefused]
  exact ⟨_, rfl⟩

/-! ## The client's writes -/

section Writes

variable {apply : SSPObject → SSPObject → Except String SSPObject} {keep : SSPObject → Bool}
  {obj resp : Obj SSPObject} {cl cl' : Cluster ω} {err : ApiError}

theorem clientWrite_eq_ok (h : clientWrite apply keep obj cl = (cl', .ok resp)) :
    ∃ api, cl.api.write obj apply keep = .ok (api, resp) ∧ cl' = { cl with api := api } := by
  unfold clientWrite at h
  split at h
  · rename_i api resp' hwrite
    simp only [Prod.mk.injEq, Except.ok.injEq] at h
    obtain ⟨rfl, rfl⟩ := h
    exact ⟨api, hwrite, rfl⟩
  · simp at h

theorem clientWrite_eq {r : Except ApiError (Obj SSPObject)}
    (h : clientWrite apply keep obj cl = (cl', r)) : ∃ api, cl' = { cl with api := api } := by
  unfold clientWrite at h
  split at h
  · rename_i api _ _
    exact ⟨api, (Prod.mk.inj h).1.symm⟩
  · exact ⟨cl.api, (Prod.mk.inj h).1.symm⟩

/-- A failed write changes nothing. -/
theorem clientWrite_eq_error (h : clientWrite apply keep obj cl = (cl', .error err)) :
    cl' = cl := by
  unfold clientWrite at h
  split at h
  · simp at h
  · simp only [Prod.mk.injEq] at h
    exact h.1.symm

end Writes

/-! ## The invariant -/

/-- What every cluster a run reaches satisfies. -/
structure Inv (cl : Cluster ω) : Prop where
  coherent : Coherent cl.api cl.cache
  stored_held : ∀ s ∈ cl.api.stored, Running s.val → HasFinalizer s.val
  cache_held : ∀ c ∈ cl.cache, Running c.val → ∃ s ∈ cl.api.stored, HasFinalizer s.val
  settled : Settled cl.calls = false → ∃ s ∈ cl.api.stored, HasFinalizer s.val

/-- The server's SSP at `version`, if there is one, carries a controller finalizer unless it
    is being deleted. -/
def HeldAt (cl : Cluster ω) (version : Nat) : Prop :=
  ∀ s ∈ cl.api.stored, s.version = version → isBeingDeleted s.val.objectMeta = false →
    HasFinalizer s.val

/-- The server's SSP at `version`, if there is one, is being deleted. -/
def DeletingAt (cl : Cluster ω) (version : Nat) : Prop :=
  ∀ s ∈ cl.api.stored, s.version = version → isBeingDeleted s.val.objectMeta = true

theorem DeletingAt.heldAt {cl : Cluster ω} {version : Nat} (h : DeletingAt cl version) :
    HeldAt cl version := by
  intro s hs hversion hdel
  rw [h s hs hversion] at hdel
  cases hdel

section Frame

variable {cl : Cluster ω}

/-- The invariant does not read the operands' objects nor the controller's cache. -/
theorem Inv.setObjects (hinv : Inv cl) (objects : ω) : Inv { cl with objects := objects } :=
  ⟨hinv.coherent, hinv.stored_held, hinv.cache_held, hinv.settled⟩

theorem Inv.setCtl (hinv : Inv cl) (ctl : SspController) : Inv { cl with ctl := ctl } :=
  ⟨hinv.coherent, hinv.stored_held, hinv.cache_held, hinv.settled⟩

end Frame

section Replace

variable {cl : Cluster ω} {api : Cell SSPObject} {cur : Obj SSPObject}

/-- A write that replaces the stored SSP `cur` keeps the invariant when the new SSP carries
    a controller finalizer wherever the invariant asks for one. -/
theorem Inv.replace (hinv : Inv cl) (hcoh : Coherent api cl.cache)
    (hcur : cl.api.stored = some cur)
    (hrunning : ∀ s ∈ api.stored, Running s.val → HasFinalizer s.val)
    (hheld : HasFinalizer cur.val → (∃ c ∈ cl.cache, Running c.val) ∨ Settled cl.calls = false →
      ∃ s ∈ api.stored, HasFinalizer s.val) :
    Inv { cl with api := api } where
  coherent := hcoh
  stored_held := hrunning
  cache_held := by
    intro c hc hrun
    obtain ⟨s, hs, hfin⟩ := hinv.cache_held c hc hrun
    rw [hcur, Option.mem_def, Option.some_inj] at hs
    subst hs
    exact hheld hfin (.inl ⟨c, hc, hrun⟩)
  settled := by
    intro hunsettled
    obtain ⟨s, hs, hfin⟩ := hinv.settled hunsettled
    rw [hcur, Option.mem_def, Option.some_inj] at hs
    subst hs
    exact hheld hfin (.inr hunsettled)

end Replace

section Writes

variable {obj resp : Obj SSPObject} {cl cl' : Cluster ω}
  {r : Except ApiError (Obj SSPObject)}

/-- A status write that succeeds found the SSP at the written version and stores it with
    the written status. -/
theorem clientStatusUpdate_eq_ok (h : clientStatusUpdate obj cl = (cl', .ok resp)) :
    ∃ api cur, cl.api.write obj applyStatusUpdate (fun _ => true) = .ok (api, resp) ∧
      cl' = { cl with api := api } ∧ cl.api.stored = some cur ∧ cur.version = obj.version ∧
      resp.val = { cur.val with status := obj.val.status } ∧ api.stored = some resp := by
  obtain ⟨api, hwrite, rfl⟩ := clientWrite_eq_ok h
  obtain ⟨cur, hcur, hversion, happly, -, -, hstored⟩ := Cell.write_eq_ok hwrite
  simp only [applyStatusUpdate, Except.ok.injEq] at happly
  exact ⟨api, cur, hwrite, rfl, hcur, hversion, happly.symm, by simpa using hstored⟩

/-- A status write at the server's version succeeds. -/
theorem clientStatusUpdate_ne_error {err : ApiError} {cur : Obj SSPObject}
    (h : clientStatusUpdate obj cl = (cl', .error err)) (hcur : cl.api.stored = some cur)
    (hversion : cur.version = obj.version) : False := by
  unfold clientStatusUpdate clientWrite Cell.write at h
  simp [hcur, hversion, applyStatusUpdate] at h

/-- An update at the server's version that adds no finalizer succeeds. -/
theorem clientUpdate_ne_error {err : ApiError} {cur : Obj SSPObject}
    (h : clientUpdate obj cl = (cl', .error err)) (hcur : cl.api.stored = some cur)
    (hversion : cur.version = obj.version)
    (hsub : ∀ finalizer ∈ obj.val.finalizers, finalizer ∈ cur.val.finalizers) : False := by
  have hextra : ¬∃ finalizer ∈ obj.val.finalizers, finalizer ∉ cur.val.finalizers :=
    fun ⟨finalizer, hmem, hnew⟩ => hnew (hsub finalizer hmem)
  unfold clientUpdate clientWrite Cell.write applyUpdate at h
  simp [hcur, hversion, hextra] at h

/-- An update that succeeds found the SSP at the written version and stores the written
    finalizers and annotations with the stored deletion, unless no finalizer is left on an
    SSP being deleted. -/
theorem clientUpdate_eq_ok (h : clientUpdate obj cl = (cl', .ok resp)) :
    ∃ api cur, cl.api.write obj applyUpdate keepAfterUpdate = .ok (api, resp) ∧
      cl' = { cl with api := api } ∧ cl.api.stored = some cur ∧ cur.version = obj.version ∧
      resp.val.finalizers = obj.val.finalizers ∧
      isBeingDeleted resp.val.objectMeta = isBeingDeleted cur.val.objectMeta ∧
      resp.val.objectMeta.annotations = obj.val.objectMeta.annotations ∧
      (∀ s ∈ api.stored, s = resp) ∧ (keepAfterUpdate resp.val = true → api.stored = some resp) := by
  obtain ⟨api, hwrite, rfl⟩ := clientWrite_eq_ok h
  obtain ⟨cur, hcur, hversion, happly, -, -, hstored⟩ := Cell.write_eq_ok hwrite
  obtain ⟨hfinalizers, hdeletion, hannotations, -⟩ := applyUpdate_eq_ok happly
  refine ⟨api, cur, hwrite, rfl, hcur, hversion, hfinalizers, ?_, hannotations, ?_, ?_⟩
  · unfold isBeingDeleted
    rw [hdeletion]
  · intro s hs
    rw [hstored] at hs
    split at hs
    · exact (Option.some_inj.mp hs).symm
    · cases hs
  · intro hkeep
    rw [hstored, if_pos hkeep]

/-- A status write keeps the finalizers, so it keeps the invariant where the SSP it writes
    holds one unless it is being deleted. -/
theorem Inv.clientStatusUpdate (hinv : Inv cl) (h : clientStatusUpdate obj cl = (cl', r))
    (hheld : HeldAt cl obj.version) : Inv cl' := by
  rcases r with e | resp
  · rw [clientWrite_eq_error h]
    exact hinv
  obtain ⟨api, cur, hwrite, rfl, hcur, hversion, hval, hkept⟩ := clientStatusUpdate_eq_ok h
  refine hinv.replace (hinv.coherent.write hwrite) hcur ?_ ?_
  · intro s hs hrun
    rw [hkept, Option.mem_def, Option.some_inj] at hs
    subst hs
    rw [hval] at hrun ⊢
    exact hheld cur hcur hversion hrun.1
  · intro hfin _
    exact ⟨resp, hkept, by rw [hval]; exact hfin⟩

/-- An update keeps the invariant when it keeps a controller finalizer, or when it takes
    the finalizers off an SSP that the informer and the server both show as being deleted,
    right after a cleanup that left nothing. -/
theorem Inv.clientUpdate (hinv : Inv cl) (h : clientUpdate obj cl = (cl', r))
    (hkeep : HasFinalizer obj.val ∨ DeletingAt cl obj.version ∧
      (∀ c ∈ cl.cache, isBeingDeleted c.val.objectMeta = true) ∧ Settled cl.calls = true) :
    Inv cl' := by
  rcases r with e | resp
  · rw [clientWrite_eq_error h]
    exact hinv
  obtain ⟨api, cur, hwrite, rfl, hcur, hversion, hfinalizers, hdeletion, -, hstored, hkept⟩ :=
    clientUpdate_eq_ok h
  have hfin_iff : HasFinalizer resp.val ↔ HasFinalizer obj.val := by
    unfold HasFinalizer
    rw [hfinalizers]
  refine hinv.replace (hinv.coherent.write hwrite) hcur ?_ ?_
  · intro s hs hrun
    obtain rfl := hstored s hs
    rcases hkeep with hobj | ⟨hdeleting, -, -⟩
    · exact hfin_iff.mpr hobj
    · -- the stored SSP is being deleted, and the update keeps its deletion
      have hrun_del := hrun.1
      rw [hdeletion, hdeleting cur hcur hversion] at hrun_del
      cases hrun_del
  · intro _ hwhy
    rcases hkeep with hobj | ⟨-, hcache, hsettled⟩
    · have hresp := hfin_iff.mpr hobj
      exact ⟨resp, hkept (keepAfterUpdate_of_hasFinalizer hresp), hresp⟩
    · exfalso
      rcases hwhy with ⟨c, hc, hrun⟩ | hunsettled
      · have := hrun.1
        rw [hcache c hc] at this
        cases this
      · rw [hsettled] at hunsettled
        cases hunsettled

/-- After a status write the SSP at the new version holds a finalizer as the written one
    did. -/
theorem heldAt_clientStatusUpdate (h : clientStatusUpdate obj cl = (cl', .ok resp))
    (hheld : HeldAt cl obj.version) : HeldAt cl' resp.version := by
  obtain ⟨api, cur, -, rfl, hcur, hversion, hval, hkept⟩ := clientStatusUpdate_eq_ok h
  intro s hs _ hdel
  rw [hkept, Option.mem_def, Option.some_inj] at hs
  subst hs
  rw [hval] at hdel ⊢
  exact hheld cur hcur hversion hdel

theorem deletingAt_clientStatusUpdate (h : clientStatusUpdate obj cl = (cl', .ok resp))
    (hdel : DeletingAt cl obj.version) : DeletingAt cl' resp.version := by
  obtain ⟨api, cur, -, rfl, hcur, hversion, hval, hkept⟩ := clientStatusUpdate_eq_ok h
  intro s hs _
  rw [hkept, Option.mem_def, Option.some_inj] at hs
  subst hs
  rw [hval]
  exact hdel cur hcur hversion

/-- After an update that keeps a controller finalizer, or on an SSP being deleted, the SSP
    at the new version holds a finalizer unless it is being deleted. -/
theorem heldAt_clientUpdate (h : clientUpdate obj cl = (cl', .ok resp))
    (hkeep : HasFinalizer obj.val ∨ DeletingAt cl obj.version) : HeldAt cl' resp.version := by
  obtain ⟨api, cur, -, rfl, hcur, hversion, hfinalizers, hdeletion, -, hstored, -⟩ :=
    clientUpdate_eq_ok h
  intro s hs _ hdel
  obtain rfl := hstored s hs
  rcases hkeep with hobj | hdeleting
  · unfold HasFinalizer
    rw [hfinalizers]
    exact hobj
  · rw [hdeletion, hdeleting cur hcur hversion] at hdel
    cases hdel

theorem deletingAt_clientUpdate (h : clientUpdate obj cl = (cl', .ok resp))
    (hdel : DeletingAt cl obj.version) : DeletingAt cl' resp.version := by
  obtain ⟨api, cur, -, rfl, hcur, hversion, -, hdeletion, -, hstored, -⟩ := clientUpdate_eq_ok h
  intro s hs _
  obtain rfl := hstored s hs
  rw [hdeletion]
  exact hdel cur hcur hversion

end Writes

/-! ## The steps of a pass -/

section Steps

variable {obj : Obj SSPObject} {cl cl' : Cluster ω}

theorem Inv.setSspResourceDeploying (hinv : Inv cl) {r : Except ApiError (Obj SSPObject)}
    (h : setSspResourceDeploying obj cl = (cl', r)) (hheld : HeldAt cl obj.version) : Inv cl' :=
  hinv.clientStatusUpdate h hheld

theorem Inv.updateSspResource (hinv : Inv cl) (hfin : HasFinalizer obj.val)
    {r : Except ApiError (Obj SSPObject)} (h : updateSspResource obj cl = (cl', r)) : Inv cl' := by
  unfold Controllers.updateSspResource at h
  split at h
  · rename_i cl1 err h1
    obtain ⟨rfl, -⟩ := Prod.mk.inj h
    exact hinv.clientUpdate h1 (.inl hfin)
  · rename_i cl1 resp h1
    exact (hinv.clientUpdate h1 (.inl hfin)).setSspResourceDeploying h
      (heldAt_clientUpdate h1 (.inl hfin))

theorem Inv.initializeSsp (hinv : Inv cl) {r : Except ApiError (Obj SSPObject)}
    (h : initializeSsp obj cl = (cl', r)) : Inv cl' :=
  hinv.updateSspResource (hasFinalizer_AddFinalizer obj.val) h

theorem Inv.updateSsp (hinv : Inv cl) {r : Except ApiError Bool} (h : updateSsp obj cl = (cl', r)) :
    Inv cl' := by
  unfold Controllers.updateSsp at h
  split at h
  · dsimp only at h
    -- the old finalizer is replaced, so the update keeps a controller finalizer
    have hfin := hasFinalizer_AddFinalizer (RemoveFinalizer obj.val oldFinalizerName)
    split at h <;> rename_i cl1 _ h1 <;> obtain ⟨rfl, -⟩ := Prod.mk.inj h <;>
      exact hinv.updateSspResource hfin h1
  · obtain ⟨rfl, -⟩ := Prod.mk.inj h
    exact hinv

/-- `updateSsp` that did not update changed nothing. -/
theorem updateSsp_eq_false (h : updateSsp obj cl = (cl', .ok false)) : cl' = cl := by
  unfold Controllers.updateSsp at h
  split at h
  · dsimp only at h
    split at h <;> simp at h
  · exact (Prod.mk.inj h).1.symm

theorem cleanupOperands_eq {request : Request} {operands : List (Operand ω)} {pendingCount : Nat}
    {r : Except ApiError Nat} (h : cleanupOperands request operands pendingCount cl = (cl', r)) :
    ∃ objects, cl' = { cl with objects := objects } := by
  induction operands generalizing pendingCount cl with
  | nil =>
    simp only [cleanupOperands, Prod.mk.injEq] at h
    exact ⟨cl.objects, by rw [← h.1]⟩
  | cons operand operands ih =>
    simp only [cleanupOperands] at h
    split at h
    · obtain ⟨rfl, -⟩ := Prod.mk.inj h
      exact ⟨_, rfl⟩
    · obtain ⟨objects, rfl⟩ := ih h
      exact ⟨objects, rfl⟩

theorem reconcileOperandsLoop_eq {request : Request} {operands : List (Operand ω)}
    {acc : List OperandResult} {r : Except ApiError (List OperandResult)}
    (h : reconcileOperandsLoop request operands acc cl = (cl', r)) :
    ∃ objects, cl' = { cl with objects := objects } := by
  induction operands generalizing acc cl with
  | nil =>
    simp only [reconcileOperandsLoop, Prod.mk.injEq] at h
    exact ⟨cl.objects, by rw [← h.1]⟩
  | cons operand operands ih =>
    simp only [reconcileOperandsLoop] at h
    split at h
    · obtain ⟨rfl, -⟩ := Prod.mk.inj h
      exact ⟨_, rfl⟩
    · obtain ⟨objects, rfl⟩ := ih h
      exact ⟨objects, rfl⟩

/-- The branch a pass takes on the informer's copy `c`, from the cluster `cl` with the
    controller's cache updated, and the cluster it leaves. -/
inductive PassBranch (cfg : Config ω) (c : Obj SSPObject) (request : Request) (cl : Cluster ω) :
    Cluster ω → Prop
  /-- A copy without a phase is initialized. -/
  | uninitialized {cl' : Cluster ω} {r : Except ApiError (Obj SSPObject)} :
      isInitialized c.val = false → initializeSsp c cl = (cl', r) → PassBranch cfg c request cl cl'
  /-- A copy with the old finalizer has it moved, or the update fails. -/
  | oldFinalizer {cl' : Cluster ω} {r : Except ApiError Bool} :
      isInitialized c.val = true → updateSsp c cl = (cl', r) → r ≠ .ok false →
      PassBranch cfg c request cl cl'
  /-- A copy being deleted is cleaned up; a cleanup that ends clears the controller's cache. -/
  | deleting {cl' cl'' : Cluster ω} {r : Except ApiError Unit} :
      isInitialized c.val = true → updateSsp c cl = (cl, .ok false) →
      isBeingDeleted c.val.objectMeta = true → cleanup cfg.operands request c cl = (cl', r) →
      (cl'' = cl' ∨ cl'' = { cl' with ctl := cl'.ctl.clearCache }) →
      PassBranch cfg c request cl cl''
  /-- A paused copy whose status says so is left alone. -/
  | pausedAlready :
      isInitialized c.val = true → updateSsp c cl = (cl, .ok false) →
      isBeingDeleted c.val.objectMeta = false → isPaused c.val.objectMeta = true →
      c.val.status.paused = true → PassBranch cfg c request cl cl
  /-- A paused copy is given the paused status. -/
  | pausing {cl' : Cluster ω} {r : Except ApiError (Obj SSPObject)} :
      isInitialized c.val = true → updateSsp c cl = (cl, .ok false) →
      isBeingDeleted c.val.objectMeta = false → isPaused c.val.objectMeta = true →
      c.val.status.paused = false →
      clientStatusUpdate (c.map fun o => { o with status := { o.status with paused := true } })
        cl = (cl', r) →
      PassBranch cfg c request cl cl'
  /-- With CRDs missing, the status reports them. -/
  | crdsMissing {cl' : Cluster ω} {r : Except ApiError (Obj SSPObject)} :
      isInitialized c.val = true → updateSsp c cl = (cl, .ok false) →
      isBeingDeleted c.val.objectMeta = false → isPaused c.val.objectMeta = false →
      cfg.areCrdsMissing = true → updateStatusMissingCrds c cfg.missingCrds cl = (cl', r) →
      PassBranch cfg c request cl cl'
  /-- Otherwise the operands are reconciled. -/
  | deploying {cl' : Cluster ω} {r : Except ApiError Bool} :
      isInitialized c.val = true → updateSsp c cl = (cl, .ok false) →
      isBeingDeleted c.val.objectMeta = false → isPaused c.val.objectMeta = false →
      cfg.areCrdsMissing = false → reconcileDeployment cfg request c cl = (cl', r) →
      PassBranch cfg c request cl cl'

/-- A pass finds no SSP and changes nothing, or takes one branch on the informer's copy. -/
theorem Reconcile_cases {cfg : Config ω} {r : Except ApiError Bool}
    (h : SspController.Reconcile cfg cl = (cl', r)) :
    (cl.cache = none ∧ cl' = cl) ∨ ∃ c ctl sspChanged, cl.cache = some c ∧
      cl.ctl.clearCacheIfNeeded c.val.toSSP = (ctl, sspChanged) ∧
      PassBranch cfg c
        { sspObject := c.val
          instanceChanged := sspChanged
          versionCache := ctl.subresourceCache } { cl with ctl := ctl } cl' := by
  unfold SspController.Reconcile at h
  split at h
  · rename_i hcache
    exact .inl ⟨hcache, (Prod.mk.inj h).1.symm⟩
  rename_i c hcache
  split at h
  rename_i ctl sspChanged hctl
  refine .inr ⟨c, ctl, sspChanged, hcache, hctl, ?_⟩
  dsimp only at h
  split at h
  · rename_i hinit
    simp only [Bool.not_eq_eq_eq_not, Bool.not_true] at hinit
    split at h <;> rename_i cl1 _ h1 <;> obtain ⟨rfl, -⟩ := Prod.mk.inj h <;>
      exact .uninitialized hinit h1
  rename_i hinit
  simp only [Bool.not_eq_true', Bool.not_eq_false] at hinit
  split at h
  · rename_i cl1 _ h1
    obtain ⟨rfl, -⟩ := Prod.mk.inj h
    exact .oldFinalizer hinit h1 (by simp)
  · rename_i cl1 h1
    obtain ⟨rfl, -⟩ := Prod.mk.inj h
    exact .oldFinalizer hinit h1 (by simp)
  rename_i cl1 h1
  obtain rfl := updateSsp_eq_false h1
  split at h
  · rename_i hdel
    split at h <;> rename_i cl2 _ h2 <;> obtain ⟨rfl, -⟩ := Prod.mk.inj h
    · exact .deleting hinit h1 hdel h2 (.inl rfl)
    · exact .deleting hinit h1 hdel h2 (.inr rfl)
  rename_i hdel
  simp only [Bool.not_eq_true] at hdel
  split at h
  · rename_i hpaused
    split at h
    · rename_i hstatus
      obtain ⟨rfl, -⟩ := Prod.mk.inj h
      exact .pausedAlready hinit h1 hdel hpaused hstatus
    · rename_i hstatus
      simp only [Bool.not_eq_true] at hstatus
      split at h <;> rename_i cl2 _ h2 <;> obtain ⟨rfl, -⟩ := Prod.mk.inj h <;>
        exact .pausing hinit h1 hdel hpaused hstatus h2
  rename_i hpaused
  simp only [Bool.not_eq_true] at hpaused
  split at h
  · rename_i hcrds
    split at h <;> rename_i cl2 _ h2 <;> obtain ⟨rfl, -⟩ := Prod.mk.inj h <;>
      exact .crdsMissing hinit h1 hdel hpaused hcrds h2
  · rename_i hcrds
    simp only [Bool.not_eq_true] at hcrds
    exact .deploying hinit h1 hdel hpaused hcrds h

/-- Recording a cleanup keeps the invariant: one that left nothing settles the calls, one
    that left something changes nothing. -/
theorem Inv.cleanupDone (hinv : Inv cl) (pendingCount : Nat) :
    Inv { cl with calls := .cleanup pendingCount :: cl.calls } where
  coherent := hinv.coherent
  stored_held := hinv.stored_held
  cache_held := hinv.cache_held
  settled := by
    intro hunsettled
    cases pendingCount with
    | zero => cases hunsettled
    | succ _ => exact hinv.settled hunsettled

/-- Recording a reconcile keeps the invariant where the server's SSP holds a finalizer. -/
theorem Inv.reconcileStarted (hinv : Inv cl) (hheld : ∃ s ∈ cl.api.stored, HasFinalizer s.val) :
    Inv { cl with calls := .reconcile :: cl.calls } where
  coherent := hinv.coherent
  stored_held := hinv.stored_held
  cache_held := hinv.cache_held
  settled := fun _ => hheld

theorem Inv.setDeleted (hinv : Inv cl) (hdel : DeletingAt cl obj.version)
    {r : Except ApiError Unit} (h : setDeleted obj cl = (cl', r)) : Inv cl' := by
  unfold Controllers.setDeleted at h
  split at h
  · rename_i cl1 _ h1
    obtain ⟨rfl, -⟩ := Prod.mk.inj h
    exact hinv.clientStatusUpdate h1 hdel.heldAt
  · rename_i cl1 _ h1
    split at h <;> obtain ⟨rfl, -⟩ := Prod.mk.inj h <;> exact hinv.clientStatusUpdate h1 hdel.heldAt

/-- `cleanup` keeps the invariant on an SSP that the informer and the server show as being
    deleted: its update takes the finalizers off only after a cleanup that left nothing. -/
theorem Inv.cleanup (hinv : Inv cl)
    (hcache : ∀ c ∈ cl.cache, isBeingDeleted c.val.objectMeta = true)
    (hdel : DeletingAt cl obj.version) {operands : List (Operand ω)} {request : Request}
    {r : Except ApiError Unit} (h : cleanup operands request obj cl = (cl', r)) : Inv cl' := by
  unfold Controllers.cleanup at h
  split at h
  · split at h
    · rename_i cl1 _ h1
      obtain ⟨rfl, -⟩ := Prod.mk.inj h
      exact hinv.clientStatusUpdate h1 hdel.heldAt
    rename_i cl1 obj1 h1
    have hinv1 := hinv.clientStatusUpdate h1 hdel.heldAt
    have hdel1 := deletingAt_clientStatusUpdate h1 hdel
    obtain ⟨api, rfl⟩ := clientWrite_eq h1
    split at h
    · rename_i cl2 _ h2
      obtain ⟨objects, rfl⟩ := cleanupOperands_eq h2
      obtain ⟨rfl, -⟩ := Prod.mk.inj h
      exact hinv1.setObjects objects
    rename_i cl2 pendingCount h2
    obtain ⟨objects, rfl⟩ := cleanupOperands_eq h2
    have hinv3 := (hinv1.setObjects objects).cleanupDone pendingCount
    dsimp only at h
    split at h
    · obtain ⟨rfl, -⟩ := Prod.mk.inj h
      exact hinv3
    rename_i hnone
    have hsettled : Settled (OperandCall.cleanup pendingCount :: cl.calls) = true := by
      rw [show pendingCount = 0 by omega]
      rfl
    split at h
    · rename_i cl4 _ h4
      obtain ⟨rfl, -⟩ := Prod.mk.inj h
      exact hinv3.clientUpdate h4 (.inr ⟨hdel1, hcache, hsettled⟩)
    · rename_i cl4 obj4 h4
      exact (hinv3.clientUpdate h4 (.inr ⟨hdel1, hcache, hsettled⟩)).setDeleted
        (deletingAt_clientUpdate h4 hdel1) h
  · exact hinv.setDeleted hdel h

theorem Inv.handleError (hinv : Inv cl) {err : ApiError} {r : Except ApiError Bool}
    (h : handleError obj err cl = (cl', r)) (hheld : HeldAt cl obj.version) : Inv cl' := by
  unfold Controllers.handleError at h
  split at h
  · obtain ⟨rfl, -⟩ := Prod.mk.inj h
    exact hinv
  · obtain ⟨rfl, -⟩ := Prod.mk.inj h
    exact hinv.clientStatusUpdate rfl hheld

theorem Inv.reconcileAndUpdateStatus (hinv : Inv cl) (hheld : HeldAt cl obj.version)
    (hstored : ∃ s ∈ cl.api.stored, HasFinalizer s.val) {cfg : Config ω} {request : Request}
    {r : Except ApiError Bool} (h : reconcileAndUpdateStatus cfg request obj cl = (cl', r)) :
    Inv cl' := by
  unfold Controllers.reconcileAndUpdateStatus Controllers.reconcileOperands at h
  have hinv1 := hinv.reconcileStarted hstored
  split at h
  · rename_i cl2 _ h2
    obtain ⟨objects, rfl⟩ := reconcileOperandsLoop_eq h2
    exact (hinv1.setObjects objects).handleError h hheld
  · rename_i cl2 _ h2
    obtain ⟨objects, rfl⟩ := reconcileOperandsLoop_eq h2
    split at h <;> rename_i cl3 _ h3 <;> obtain ⟨rfl, -⟩ := Prod.mk.inj h <;>
      exact (hinv1.setObjects objects).clientStatusUpdate h3 hheld

theorem Inv.reconcileDeployment (hinv : Inv cl) (hheld : HeldAt cl obj.version)
    (hcache : ∃ c ∈ cl.cache, Running c.val) {cfg : Config ω} {request : Request}
    {r : Except ApiError Bool} (h : reconcileDeployment cfg request obj cl = (cl', r)) :
    Inv cl' := by
  obtain ⟨c, hc, hrun⟩ := hcache
  unfold Controllers.reconcileDeployment at h
  split at h
  · split at h
    · rename_i cl1 _ h1
      rw [clientWrite_eq_error h1] at h
      exact hinv.handleError h hheld
    · rename_i cl1 obj1 h1
      have hinv1 := hinv.clientStatusUpdate h1 hheld
      have hheld1 := heldAt_clientStatusUpdate h1 hheld
      obtain ⟨api, rfl⟩ := clientWrite_eq h1
      exact hinv1.reconcileAndUpdateStatus hheld1 (hinv1.cache_held c hc hrun) h
  · exact hinv.reconcileAndUpdateStatus hheld (hinv.cache_held c hc hrun) h

/-- The informer's copy of an initialised SSP stands for the server's SSP at its version. -/
theorem heldAt_of_isInitialized (hinv : Inv cl) {c : Obj SSPObject} (hcache : cl.cache = some c)
    (hinit : isInitialized c.val = true) : HeldAt cl c.version := by
  intro s hs hversion hdel
  have hsc := hinv.coherent.eq_of_version c hcache s hs hversion.symm
  subst hsc
  exact hinv.stored_held _ hs (running_of_isInitialized hinit hdel)

theorem deletingAt_of_isBeingDeleted (hinv : Inv cl) {c : Obj SSPObject}
    (hcache : cl.cache = some c) (hdel : isBeingDeleted c.val.objectMeta = true) :
    DeletingAt cl c.version := by
  intro s hs hversion
  have hsc := hinv.coherent.eq_of_version c hcache s hs hversion.symm
  subst hsc
  exact hdel

/-- A pass keeps the invariant. -/
theorem Inv.Reconcile (hinv : Inv cl) {cfg : Config ω} {r : Except ApiError Bool}
    (h : SspController.Reconcile cfg cl = (cl', r)) : Inv cl' := by
  rcases Reconcile_cases h with ⟨-, rfl⟩ | ⟨c, ctl, sspChanged, hcache, -, hbranch⟩
  · exact hinv
  -- the pass works on the cluster with the controller's cache updated, which `Inv` ignores
  have hinv0 := hinv.setCtl ctl
  cases hbranch with
  | uninitialized _ h1 => exact hinv0.initializeSsp h1
  | oldFinalizer _ h1 _ => exact hinv0.updateSsp h1
  | deleting _ _ hdel h2 hcl =>
      have hdeleting := deletingAt_of_isBeingDeleted hinv0 hcache hdel
      have hcache_del : ∀ c' ∈ cl.cache, isBeingDeleted c'.val.objectMeta = true := by
        intro c' hc'
        rw [hcache, Option.mem_def, Option.some_inj] at hc'
        subst hc'
        exact hdel
      rcases hcl with rfl | rfl
      · exact hinv0.cleanup hcache_del hdeleting h2
      · exact (hinv0.cleanup hcache_del hdeleting h2).setCtl _
  | pausedAlready => exact hinv0
  | pausing hinit _ _ _ _ h2 =>
      have hheld := heldAt_of_isInitialized hinv0 hcache hinit
      exact hinv0.clientStatusUpdate h2 hheld
  | crdsMissing hinit _ _ _ _ h2 =>
      have hheld := heldAt_of_isInitialized hinv0 hcache hinit
      exact hinv0.clientStatusUpdate h2 hheld
  | deploying hinit _ hdel _ _ h2 =>
      exact hinv0.reconcileDeployment (heldAt_of_isInitialized hinv0 hcache hinit)
        ⟨c, hcache, running_of_isInitialized hinit hdel⟩ h2

end Steps

/-! ## The users and the informer -/

section Environment

variable {cl : Cluster ω}

theorem Inv.sync (hinv : Inv cl) : Inv { cl with cache := cl.api.stored } where
  coherent := coherent_stored hinv.coherent.stored_le
  stored_held := hinv.stored_held
  cache_held := fun c hc hrun => ⟨c, hc, hinv.stored_held c hc hrun⟩
  settled := hinv.settled

/-- A created SSP has no phase, so nothing asks it for a finalizer. -/
theorem Inv.createSsp (hinv : Inv cl) (obj : SSPObject) :
    Inv { cl with api := createSsp cl.api obj } := by
  unfold Controllers.createSsp
  split
  · exact hinv
  rename_i hnone
  refine ⟨hinv.coherent.put _, ?_, ?_, ?_⟩
  · intro s hs hrun
    simp only [Cell.put_stored, Option.map_some, Option.mem_def, Option.some_inj] at hs
    subst hs
    exact absurd rfl hrun.2
  · intro c hc hrun
    obtain ⟨s, hs, -⟩ := hinv.cache_held c hc hrun
    rw [hnone] at hs
    cases hs
  · intro hunsettled
    obtain ⟨s, hs, -⟩ := hinv.settled hunsettled
    rw [hnone] at hs
    cases hs

/-- A user's update changes neither the finalizers, the deletion nor the status. -/
theorem Inv.userUpdate (hinv : Inv cl) (annotations : StringMap) (spec : SSPSpec) :
    Inv { cl with api := userUpdate cl.api annotations spec } := by
  unfold Controllers.userUpdate
  split
  · exact hinv
  rename_i cur hcur
  refine hinv.replace (hinv.coherent.put _) hcur ?_ ?_
  · intro s hs hrun
    simp only [Cell.put_stored, Option.map_some, Option.mem_def, Option.some_inj] at hs
    subst hs
    exact hinv.stored_held cur hcur hrun
  · intro hfin _
    exact ⟨_, rfl, hfin⟩

/-- A user's delete removes only an SSP without finalizers, and marks the others. -/
theorem Inv.userDelete (hinv : Inv cl) (now : Nat) :
    Inv { cl with api := userDelete cl.api now } := by
  unfold Controllers.userDelete
  split
  · exact hinv
  rename_i cur hcur
  split
  · exact hinv
  split
  · rename_i hempty
    refine hinv.replace (hinv.coherent.put none) hcur ?_ ?_
    · intro s hs
      simp at hs
    · intro hfin
      rw [List.isEmpty_iff] at hempty
      unfold HasFinalizer at hfin
      rw [hempty] at hfin
      simp at hfin
  · refine hinv.replace (hinv.coherent.put _) hcur ?_ ?_
    · intro s hs hrun
      simp only [Cell.put_stored, Option.map_some, Option.mem_def, Option.some_inj] at hs
      subst hs
      exact absurd hrun.1 (by simp [isBeingDeleted])
    · intro hfin _
      exact ⟨_, rfl, hfin⟩

theorem inv_step (hinv : Inv cl) (cfg : Config ω) : ∀ event, Inv (step cfg cl event)
  | .reconcile => hinv.Reconcile rfl
  | .sync => hinv.sync
  | .create obj => hinv.createSsp obj
  | .update annotations spec => hinv.userUpdate annotations spec
  | .delete now => hinv.userDelete now

end Environment

/-! ## Removal only after cleanup -/

/-- A cluster where nothing has happened yet. -/
def Cluster.empty (objects : ω) : Cluster ω :=
  { api := ⟨0, none⟩, cache := none, objects := objects, ctl := SspController.init, calls := [] }

theorem inv_empty (objects : ω) : Inv (Cluster.empty objects) where
  coherent := ⟨by simp [Cluster.empty], by simp [Cluster.empty], by simp [Cluster.empty]⟩
  stored_held := by simp [Cluster.empty]
  cache_held := by simp [Cluster.empty]
  settled := by simp [Cluster.empty, Settled]

/-- In every cluster that passes, syncs and users' writes reach in any order, an SSP that
    carries none of the controller's finalizers, or no SSP at all, comes after a cleanup that
    left nothing, with no reconcile of the operands since. -/
theorem removed_only_after_cleanup (cfg : Config ω) {cl₀ cl : Cluster ω} (hinit : Inv cl₀)
    (hreach : Machine.Reachable (step cfg) (fun _ _ => True) cl₀ cl)
    (hnone : ∀ s ∈ cl.api.stored, ¬HasFinalizer s.val) : Settled cl.calls = true := by
  have hinv : Inv cl := hreach.inv hinit fun _ event hs _ => inv_step hs cfg event
  by_contra hunsettled
  obtain ⟨s, hs, hfin⟩ := hinv.settled (by simpa using hunsettled)
  exact hnone s hs hfin

/-- An operand that creates nothing and finds everything deleted. -/
def idleOperand : Operand Unit :=
  { reconcile := fun _ objects => (.ok [], objects)
    cleanup := fun _ objects => (.ok [true], objects) }

/-- A controller with that one operand and every CRD in place. -/
def idleConfig : Config Unit :=
  { operands := [idleOperand], areCrdsMissing := false, missingCrds := []
    operatorVersion := "v0.22.0" }

/-- The SSP a user creates. -/
def sampleSsp : SSPObject :=
  { objectMeta := { name := "ssp-sample", ns := "kubevirt" }
    spec := { commonTemplates := { ns := "openshift" } } }

/-- The SSP is created, initialised, deployed, deleted and cleaned up. -/
def sampleLifecycle : List Event :=
  [.create sampleSsp, .sync, .reconcile, .sync, .reconcile, .delete 5, .sync, .reconcile]

theorem sample_lifecycle_removed_after_cleanup :
    (Machine.run (step idleConfig) (Cluster.empty ()) sampleLifecycle).api.stored = none ∧
      Settled (Machine.run (step idleConfig) (Cluster.empty ()) sampleLifecycle).calls = true := by
  have hgone : (Machine.run (step idleConfig) (Cluster.empty ()) sampleLifecycle).api.stored =
      none := by
    rfl
  refine ⟨hgone, removed_only_after_cleanup idleConfig (inv_empty ())
    (Machine.Reachable.init.run _ (by simp [sampleLifecycle])) ?_⟩
  rw [hgone]
  intro s hs
  cases hs

end SspOperator.Controllers
