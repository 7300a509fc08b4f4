import SspOperator.Controllers.SspLifecycleSafety

/-
  Two regions of the SSP's lifecycle that no run leaves and in which no operand is called
  (`SspLifecycle`).

  A paused SSP that is not being deleted, with its informer copy paused too
  (`PausedRunning`): a pass may still initialise it or move its finalizer, whose writes keep
  the annotations the informer saw, and otherwise writes at most `paused` into the status.
  While no one deletes the SSP or takes the annotation off, no operand is reconciled or
  cleaned up (`paused_ssp_calls_no_operand`).

  An SSP being deleted that carries the finalizer of older operators and not the current one
  (`OldFinalizerDeleting`): every pass reaches `updateSsp` (or `initialize`, on an old copy),
  whose update adds the current finalizer, and the API server refuses to add a finalizer to
  an SSP being deleted. The pass returns that error before `cleanup`, each time, so the SSP
  is never removed and its operands are never cleaned up
  (`old_finalizer_blocks_deletion`).
-/

namespace SspOperator.Controllers

open Common Versioned

variable {ω : Type} {cl cl' : Cluster ω}

/-! ## Refused writes -/

section Refused

variable {apply : SSPObject → SSPObject → Except String SSPObject} {keep : SSPObject → Bool}
  {obj : Obj SSPObject}

/-- A write that the server's SSP refuses at every version fails, whatever version it names. -/
theorem clientWrite_of_refused
    (hrefused : ∀ s ∈ cl.api.stored, ∃ e, apply s.val obj.val = .error e) :
    ∃ err, clientWrite apply keep obj cl = (cl, .error err) := by
  unfold clientWrite
  cases hs : cl.api.stored with
  | none => exact ⟨writeError obj.val.objectMeta.name .notFound, by simp [Cell.write, hs]⟩
  | some s =>
    by_cases hversion : s.version = obj.version
    · obtain ⟨e, he⟩ := hrefused s hs
      exact ⟨writeError obj.val.objectMeta.name (.rejected e),
        by simp [Cell.write, hs, hversion, he]⟩
    · exact ⟨writeError obj.val.objectMeta.name .conflict, by simp [Cell.write, hs, hversion]⟩

theorem updateSspResource_of_refused (cl : Cluster ω) (obj : Obj SSPObject)
    (hrefused : ∀ s ∈ cl.api.stored, ∃ e, applyUpdate s.val obj.val = .error e) :
    ∃ err, updateSspResource obj cl = (cl, .error err) := by
  obtain ⟨err, h⟩ : ∃ err, clientWrite applyUpdate keepAfterUpdate obj cl = (cl, .error err) :=
    clientWrite_of_refused hrefused
  exact ⟨err, by rw [Controllers.updateSspResource, clientUpdate, h]⟩

end Refused

/-- A write leaves the informer's copy, the operands' objects and the calls as they were. -/
theorem clientWrite_frame {apply : SSPObject → SSPObject → Except String SSPObject}
    {keep : SSPObject → Bool} {obj : Obj SSPObject} {r : Except ApiError (Obj SSPObject)}
    (h : clientWrite apply keep obj cl = (cl', r)) :
    cl'.cache = cl.cache ∧ cl'.objects = cl.objects ∧ cl'.calls = cl.calls := by
  obtain ⟨api, rfl⟩ := clientWrite_eq h
  exact ⟨rfl, rfl, rfl⟩

@[simp] theorem AddFinalizer_objectMeta (o : SSPObject) (finalizer : String) :
    (AddFinalizer o finalizer).objectMeta = o.objectMeta := by
  unfold AddFinalizer
  split <;> rfl

theorem mem_AddFinalizer (o : SSPObject) (finalizer : String) :
    finalizer ∈ (AddFinalizer o finalizer).finalizers := by
  unfold AddFinalizer
  split
  · rename_i h
    simpa using h
  · exact List.mem_append_right _ (List.mem_singleton_self _)

/-- A user's update stores the SSP with the new annotations and keeps its finalizers, its
    deletion and its status. -/
theorem userUpdate_stored {api : Cell SSPObject} {cur : Obj SSPObject}
    (hcur : api.stored = some cur) (annotations : StringMap) (spec : SSPSpec) :
    ∃ v, (userUpdate api annotations spec).stored = some v ∧
      v.val.finalizers = cur.val.finalizers ∧
      v.val.objectMeta.deletionTimestamp = cur.val.objectMeta.deletionTimestamp ∧
      v.val.objectMeta.annotations = annotations ∧ v.val.status = cur.val.status := by
  simp [userUpdate, hcur]

/-! ## An SSP deleted with the old finalizer -/

/-- The server's SSP is being deleted and carries the old finalizer but not the current
    one, and the informer's copy carries the old finalizer. -/
structure OldFinalizerDeleting (cl : Cluster ω) : Prop where
  stored : ∃ s ∈ cl.api.stored, isBeingDeleted s.val.objectMeta = true ∧
    oldFinalizerName ∈ s.val.finalizers ∧ finalizerName ∉ s.val.finalizers
  cached : ∀ c ∈ cl.cache, oldFinalizerName ∈ c.val.finalizers

/-- Every update that adds the current finalizer is refused. -/
theorem OldFinalizerDeleting.refused (hstuck : OldFinalizerDeleting cl) {o : SSPObject}
    (hadd : finalizerName ∈ o.finalizers) :
    ∀ s ∈ cl.api.stored, ∃ e, applyUpdate s.val o = .error e := by
  obtain ⟨s, hs, hdel, -, hnew⟩ := hstuck.stored
  intro s' hs'
  rw [Option.mem_def] at hs hs'
  rw [hs, Option.some_inj] at hs'
  subst hs'
  exact applyUpdate_of_new_finalizer hdel hadd hnew

/-- A pass fails in `initialize` or `updateSsp` and changes nothing but the controller's
    cache. -/
theorem Reconcile_of_oldFinalizerDeleting (hstuck : OldFinalizerDeleting cl) {cfg : Config ω}
    {r : Except ApiError Bool} (h : SspController.Reconcile cfg cl = (cl', r)) :
    cl'.api = cl.api ∧ cl'.cache = cl.cache ∧ cl'.objects = cl.objects ∧ cl'.calls = cl.calls := by
  rcases Reconcile_cases h with ⟨-, rfl⟩ | ⟨c, ctl, sspChanged, hcache, -, hbranch⟩
  · exact ⟨rfl, rfl, rfl, rfl⟩
  -- `updateSsp` moves the old finalizer, adding the current one, which the server refuses
  obtain ⟨err, herr⟩ := updateSspResource_of_refused { cl with ctl := ctl }
    (c.map fun o => AddFinalizer (RemoveFinalizer o oldFinalizerName) finalizerName)
    (hstuck.refused (mem_AddFinalizer (RemoveFinalizer c.val oldFinalizerName) finalizerName))
  have hold : ContainsFinalizer c.val oldFinalizerName = true := by
    simpa [ContainsFinalizer] using hstuck.cached c hcache
  have hupdate : updateSsp c { cl with ctl := ctl } = ({ cl with ctl := ctl }, .error err) := by
    rw [Controllers.updateSsp, if_pos hold]
    dsimp only
    rw [herr]
  -- so every branch past `updateSsp` is out of reach
  have hfails : updateSsp c { cl with ctl := ctl } ≠ ({ cl with ctl := ctl }, .ok false) := by
    rw [hupdate]
    simp
  cases hbranch with
  | uninitialized _ h1 =>
      -- `initialize` adds the current finalizer
      obtain ⟨err', herr'⟩ := updateSspResource_of_refused { cl with ctl := ctl }
        (c.map fun o => AddFinalizer o finalizerName)
        (hstuck.refused (mem_AddFinalizer c.val finalizerName))
      rw [initializeSsp, herr'] at h1
      obtain ⟨rfl, -⟩ := Prod.mk.inj h1
      exact ⟨rfl, rfl, rfl, rfl⟩
  | oldFinalizer _ h1 _ =>
      rw [hupdate] at h1
      obtain ⟨rfl, -⟩ := Prod.mk.inj h1
      exact ⟨rfl, rfl, rfl, rfl⟩
  | deleting _ hupd _ _ _ => exact absurd hupd hfails
  | pausedAlready _ hupd _ _ _ => exact absurd hupd hfails
  | pausing _ hupd _ _ _ _ => exact absurd hupd hfails
  | crdsMissing _ hupd _ _ _ _ => exact absurd hupd hfails
  | deploying _ hupd _ _ _ _ => exact absurd hupd hfails

theorem OldFinalizerDeleting.step (hstuck : OldFinalizerDeleting cl) (cfg : Config ω)
    (event : Event) :
    OldFinalizerDeleting (step cfg cl event) ∧ (step cfg cl event).objects = cl.objects ∧
      (step cfg cl event).calls = cl.calls := by
  cases event with
  | reconcile =>
    have hpass : SspController.Reconcile cfg cl =
        ((SspController.Reconcile cfg cl).1, (SspController.Reconcile cfg cl).2) := rfl
    obtain ⟨hapi, hcache, hobjects, hcalls⟩ := Reconcile_of_oldFinalizerDeleting hstuck hpass
    refine ⟨⟨?_, ?_⟩, hobjects, hcalls⟩
    · show ∃ s ∈ (SspController.Reconcile cfg cl).1.api.stored, _
      rw [hapi]
      exact hstuck.stored
    · show ∀ c ∈ (SspController.Reconcile cfg cl).1.cache, _
      rw [hcache]
      exact hstuck.cached
  | sync =>
    obtain ⟨s, hs, hdel, hold, hnew⟩ := hstuck.stored
    refine ⟨⟨⟨s, hs, hdel, hold, hnew⟩, ?_⟩, rfl, rfl⟩
    intro c hc
    change c ∈ cl.api.stored at hc
    rw [Option.mem_def] at hs hc
    rw [hs, Option.some_inj] at hc
    subst hc
    exact hold
  | create obj =>
    obtain ⟨s, hs, hdel, hold, hnew⟩ := hstuck.stored
    have hcreate : createSsp cl.api obj = cl.api := by
      rw [Option.mem_def] at hs
      simp [createSsp, hs]
    exact ⟨⟨by simpa [Controllers.step, hcreate] using hstuck.stored, hstuck.cached⟩, rfl, rfl⟩
  | update annotations spec =>
    obtain ⟨s, hs, hdel, hold, hnew⟩ := hstuck.stored
    obtain ⟨v, hv, hfinalizers, hdeletion, -, -⟩ := userUpdate_stored hs annotations spec
    refine ⟨⟨⟨v, hv, ?_, ?_, ?_⟩, hstuck.cached⟩, rfl, rfl⟩
    · unfold isBeingDeleted at hdel ⊢
      rw [hdeletion]
      exact hdel
    · rw [hfinalizers]
      exact hold
    · rw [hfinalizers]
      exact hnew
  | delete now =>
    obtain ⟨s, hs, hdel, hold, hnew⟩ := hstuck.stored
    have hdelete : userDelete cl.api now = cl.api := by
      rw [Option.mem_def] at hs
      unfold isBeingDeleted at hdel
      simp [userDelete, hs, hdel]
    exact ⟨⟨by simpa [Controllers.step, hdelete] using hstuck.stored, hstuck.cached⟩, rfl, rfl⟩

/-- An SSP that is deleted while it carries the old finalizer and not the current one is
    never removed, whatever runs: every cluster the runs reach still holds it, being
    deleted, and no operand has been called since. -/
theorem old_finalizer_blocks_deletion (cfg : Config ω) (hstuck : OldFinalizerDeleting cl)
    (hreach : Machine.Reachable (step cfg) (fun _ _ => True) cl cl') :
    OldFinalizerDeleting cl' ∧ cl'.objects = cl.objects ∧ cl'.calls = cl.calls := by
  induction hreach with
  | init => exact ⟨hstuck, rfl, rfl⟩
  | step event _ _ ih =>
    obtain ⟨hx, hobjects, hcalls⟩ := ih
    obtain ⟨hstep, hobjects', hcalls'⟩ := hx.step cfg event
    exact ⟨hstep, hobjects'.trans hobjects, hcalls'.trans hcalls⟩

/-- The sample SSP as an older operator left it, deleted by a user before the upgrade. -/
def oldOperatorSsp : SSPObject :=
  { sampleSsp with
    objectMeta := { sampleSsp.objectMeta with deletionTimestamp := some 5 }
    finalizers := [oldFinalizerName]
    status := { phase := .deployed } }

/-- The cluster the upgraded operator finds, with the informer caught up. -/
def oldOperatorCluster : Cluster Unit :=
  { Cluster.empty () with api := ⟨1, some ⟨oldOperatorSsp, 1⟩⟩, cache := some ⟨oldOperatorSsp, 1⟩ }

theorem old_operator_ssp_never_cleaned :
    OldFinalizerDeleting oldOperatorCluster ∧
      (Machine.run (step idleConfig) oldOperatorCluster
        [.reconcile, .sync, .reconcile, .reconcile]).calls = [] := by
  have hstuck : OldFinalizerDeleting oldOperatorCluster := by
    refine ⟨⟨_, rfl, rfl, ?_, ?_⟩, ?_⟩
    · simp [oldOperatorSsp]
    · simp [oldOperatorSsp, finalizerName, oldFinalizerName]
    · intro c hc
      rw [show oldOperatorCluster.cache = some ⟨oldOperatorSsp, 1⟩ from rfl, Option.mem_def,
        Option.some_inj] at hc
      subst hc
      simp [oldOperatorSsp]
  exact ⟨hstuck, (old_finalizer_blocks_deletion idleConfig hstuck
    (Machine.Reachable.init.run _ (by simp))).2.2⟩

/-! ## A paused SSP -/

/-- The server's SSP is paused and not being deleted. -/
def PausedStored (cl : Cluster ω) : Prop :=
  ∃ s ∈ cl.api.stored, isPaused s.val.objectMeta = true ∧ isBeingDeleted s.val.objectMeta = false

/-- The server's SSP is paused and not being deleted, and so is the informer's copy. -/
structure PausedRunning (cl : Cluster ω) : Prop where
  stored : PausedStored cl
  cached : ∀ c ∈ cl.cache, isPaused c.val.objectMeta = true ∧
    isBeingDeleted c.val.objectMeta = false

section Paused

variable {obj : Obj SSPObject}

/-- A status write keeps the metadata. -/
theorem PausedStored.clientStatusUpdate (hp : PausedStored cl)
    {r : Except ApiError (Obj SSPObject)} (h : clientStatusUpdate obj cl = (cl', r)) :
    PausedStored cl' := by
  rcases r with e | resp
  · rw [clientWrite_eq_error h]
    exact hp
  obtain ⟨api, cur, -, rfl, hcur, -, hval, hkept⟩ := clientStatusUpdate_eq_ok h
  obtain ⟨s, hs, hpaused, hdel⟩ := hp
  rw [Option.mem_def, hcur, Option.some_inj] at hs
  subst hs
  exact ⟨resp, hkept, by rw [hval]; exact hpaused, by rw [hval]; exact hdel⟩

/-- An update writes the annotations it was given and keeps the deletion. -/
theorem PausedStored.clientUpdate (hp : PausedStored cl) {r : Except ApiError (Obj SSPObject)}
    (h : clientUpdate obj cl = (cl', r)) (hobj : isPaused obj.val.objectMeta = true) :
    PausedStored cl' := by
  rcases r with e | resp
  · rw [clientWrite_eq_error h]
    exact hp
  obtain ⟨api, cur, -, rfl, hcur, -, -, hdeletion, hannotations, -, hkept⟩ :=
    clientUpdate_eq_ok h
  obtain ⟨s, hs, -, hdel⟩ := hp
  rw [Option.mem_def, hcur, Option.some_inj] at hs
  subst hs
  have hresp_del : isBeingDeleted resp.val.objectMeta = false := by
    rw [hdeletion]
    exact hdel
  have hkeep : keepAfterUpdate resp.val = true := by
    unfold isBeingDeleted at hresp_del
    simp [keepAfterUpdate, hresp_del]
  refine ⟨resp, hkept hkeep, ?_, hresp_del⟩
  -- `isPaused` reads only the annotations
  unfold isPaused at hobj ⊢
  rw [hannotations]
  exact hobj

theorem PausedStored.updateSspResource (hp : PausedStored cl)
    {r : Except ApiError (Obj SSPObject)} (h : updateSspResource obj cl = (cl', r))
    (hobj : isPaused obj.val.objectMeta = true) :
    PausedStored cl' ∧ cl'.cache = cl.cache ∧ cl'.objects = cl.objects ∧ cl'.calls = cl.calls := by
  unfold Controllers.updateSspResource at h
  split at h
  · rename_i cl1 _ h1
    obtain ⟨rfl, -⟩ := Prod.mk.inj h
    exact ⟨hp.clientUpdate h1 hobj, clientWrite_frame h1⟩
  · rename_i cl1 resp h1
    have hp1 := hp.clientUpdate h1 hobj
    obtain ⟨hcache1, hobjects1, hcalls1⟩ := clientWrite_frame h1
    obtain ⟨hcache, hobjects, hcalls⟩ := clientWrite_frame h
    exact ⟨hp1.clientStatusUpdate h, hcache.trans hcache1, hobjects.trans hobjects1,
      hcalls.trans hcalls1⟩

theorem PausedStored.updateSsp (hp : PausedStored cl) {r : Except ApiError Bool}
    (h : updateSsp obj cl = (cl', r)) (hobj : isPaused obj.val.objectMeta = true) :
    PausedStored cl' ∧ cl'.cache = cl.cache ∧ cl'.objects = cl.objects ∧ cl'.calls = cl.calls := by
  unfold Controllers.updateSsp at h
  split at h
  · dsimp only at h
    have hobj' : isPaused (AddFinalizer (RemoveFinalizer obj.val oldFinalizerName)
        finalizerName).objectMeta = true := by
      rw [AddFinalizer_objectMeta]
      exact hobj
    split at h <;> rename_i cl1 _ h1 <;> obtain ⟨rfl, -⟩ := Prod.mk.inj h <;>
      exact hp.updateSspResource h1 hobj'
  · obtain ⟨rfl, -⟩ := Prod.mk.inj h
    exact ⟨hp, rfl, rfl, rfl⟩

/-- A pass on a paused copy calls no operand and keeps the server's SSP paused. -/
theorem Reconcile_of_pausedRunning (hp : PausedRunning cl) {cfg : Config ω}
    {r : Except ApiError Bool} (h : SspController.Reconcile cfg cl = (cl', r)) :
    PausedStored cl' ∧ cl'.cache = cl.cache ∧ cl'.objects = cl.objects ∧ cl'.calls = cl.calls := by
  rcases Reconcile_cases h with ⟨-, rfl⟩ | ⟨c, ctl, sspChanged, hcache, -, hbranch⟩
  · exact ⟨hp.stored, rfl, rfl, rfl⟩
  obtain ⟨hpaused, hdel⟩ := hp.cached c hcache
  have hp0 : PausedStored { cl with ctl := ctl } := hp.stored
  -- the copy is paused and not being deleted, so the pass stops at the pause at the latest
  cases hbranch with
  | uninitialized _ h1 =>
      have hpaused' : isPaused (AddFinalizer c.val finalizerName).objectMeta = true := by
        rw [AddFinalizer_objectMeta]
        exact hpaused
      exact hp0.updateSspResource h1 hpaused'
  | oldFinalizer _ h1 _ => exact hp0.updateSsp h1 hpaused
  | deleting _ _ hdeleting _ _ =>
      rw [hdel] at hdeleting
      cases hdeleting
  | pausedAlready => exact ⟨hp0, rfl, rfl, rfl⟩
  | pausing _ _ _ _ _ h2 => exact ⟨hp0.clientStatusUpdate h2, (clientWrite_frame h2 :)⟩
  | crdsMissing _ _ _ hnotPaused _ _ =>
      rw [hpaused] at hnotPaused
      cases hnotPaused
  | deploying _ _ _ hnotPaused _ _ =>
      rw [hpaused] at hnotPaused
      cases hnotPaused

end Paused

/-- What keeps the SSP paused: no one deletes it, and a user's update keeps the paused
    annotation. -/
def KeepsPaused (cl : Cluster ω) : Event → Prop
  | .update annotations _ =>
    ∀ s ∈ cl.api.stored, isPaused { s.val.objectMeta with annotations := annotations } = true
  | .delete _ => False
  | _ => True

theorem PausedRunning.step (hp : PausedRunning cl) (cfg : Config ω) (event : Event)
    (hkeeps : KeepsPaused cl event) :
    PausedRunning (step cfg cl event) ∧ (step cfg cl event).objects = cl.objects ∧
      (step cfg cl event).calls = cl.calls := by
  cases event with
  | reconcile =>
    have hpass : SspController.Reconcile cfg cl =
        ((SspController.Reconcile cfg cl).1, (SspController.Reconcile cfg cl).2) := rfl
    obtain ⟨hstored, hcache, hobjects, hcalls⟩ := Reconcile_of_pausedRunning hp hpass
    refine ⟨⟨hstored, ?_⟩, hobjects, hcalls⟩
    show ∀ c ∈ (SspController.Reconcile cfg cl).1.cache, _
    rw [hcache]
    exact hp.cached
  | sync =>
    refine ⟨⟨hp.stored, ?_⟩, rfl, rfl⟩
    obtain ⟨s, hs, hpaused, hdel⟩ := hp.stored
    intro c hc
    change c ∈ cl.api.stored at hc
    rw [Option.mem_def] at hs hc
    rw [hs, Option.some_inj] at hc
    subst hc
    exact ⟨hpaused, hdel⟩
  | create obj =>
    obtain ⟨s, hs, -⟩ := hp.stored
    have hcreate : createSsp cl.api obj = cl.api := by
      rw [Option.mem_def] at hs
      simp [createSsp, hs]
    exact ⟨⟨by simpa [Controllers.step, hcreate] using hp.stored, hp.cached⟩, rfl, rfl⟩
  | update annotations spec =>
    obtain ⟨s, hs, -, hdel⟩ := hp.stored
    obtain ⟨v, hv, -, hdeletion, hannotations, -⟩ := userUpdate_stored hs annotations spec
    refine ⟨⟨⟨v, hv, ?_, ?_⟩, hp.cached⟩, rfl, rfl⟩
    · have hkept := hkeeps s hs
      unfold isPaused at hkept ⊢
      rw [hannotations]
      exact hkept
    · unfold isBeingDeleted at hdel ⊢
      rw [hdeletion]
      exact hdel
  | delete now => exact hkeeps.elim

/-- While no one deletes a paused SSP or takes its paused annotation off, once the informer
    has seen it paused no operand is reconciled or cleaned up, whatever interleaving of
    passes, syncs and updates runs. -/
theorem paused_ssp_calls_no_operand (cfg : Config ω) (hpaused : PausedRunning cl)
    (hreach : Machine.Reachable (step cfg) KeepsPaused cl cl') :
    PausedRunning cl' ∧ cl'.objects = cl.objects ∧ cl'.calls = cl.calls := by
  induction hreach with
  | init => exact ⟨hpaused, rfl, rfl⟩
  | step event _ hkeeps ih =>
    obtain ⟨hx, hobjects, hcalls⟩ := ih
    obtain ⟨hstep, hobjects', hcalls'⟩ := hx.step cfg event hkeeps
    exact ⟨hstep, hobjects'.trans hobjects, hcalls'.trans hcalls⟩

/-- The sample SSP, deployed and then paused by its user. -/
def pausedSsp : SSPObject :=
  { sampleSsp with
    objectMeta := { sampleSsp.objectMeta with
      annotations := StringMap.set none OperatorPausedAnnotation "true" }
    finalizers := [finalizerName]
    status := { phase := .deployed, observedGeneration := 1 } }

/-- The cluster once the informer has seen the pause. -/
def pausedCluster : Cluster Unit :=
  { Cluster.empty () with api := ⟨1, some ⟨pausedSsp, 1⟩⟩, cache := some ⟨pausedSsp, 1⟩ }

theorem paused_cluster_calls_no_operand :
    PausedRunning pausedCluster ∧
      (Machine.run (step idleConfig) pausedCluster [.reconcile, .sync, .reconcile]).calls = [] := by
  have hpaused : PausedRunning pausedCluster := by
    have hsame : isPaused pausedSsp.objectMeta = true ∧
        isBeingDeleted pausedSsp.objectMeta = false := by
      constructor <;> decide
    refine ⟨⟨_, rfl, hsame⟩, ?_⟩
    intro c hc
    rw [show pausedCluster.cache = some ⟨pausedSsp, 1⟩ from rfl, Option.mem_def,
      Option.some_inj] at hc
    subst hc
    exact hsame
  exact ⟨hpaused, (paused_ssp_calls_no_operand idleConfig hpaused
    (Machine.Reachable.init.run [Event.reconcile, Event.sync, Event.reconcile]
      ⟨trivial, trivial, trivial, trivial⟩)).2.2⟩

end SspOperator.Controllers
