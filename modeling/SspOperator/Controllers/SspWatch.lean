import SspOperator.Controllers.SspLifecycleViews
import SspOperator.Controllers.SspLifecycleRegions
import SspOperator.Lib.Watch

/-
  The SSP controller with its work queue and the watch of the SSP (`watchSspResource` in
  `internal/controllers/ssp_controller.go`, the predicates of
  `internal/controller/predicates`).

  controller-runtime runs `Reconcile` for a request taken off a work queue. The SSP's request
  is queued when the watch of the SSP passes a change the informer sees, when a watched
  resource of the operands changes, and again after a pass that failed. The watch passes
  creations and deletions, and the updates that change the SSP's labels, annotations, spec or
  deletion timestamp (`relevantChangesPredicate`) or its finalizers
  (`FinalizerChangedPredicate`). A change of the status alone is dropped: "Otherwise, it would
  cause a reconciliation loop."

  `queueStep` runs the lifecycle of `SspLifecycle` with the queue: a worker runs a pass only
  for a queued request, and the informer's catching up queues the request when the watch
  passes the change. Every run of it is a run of the lifecycle (`reachable_cluster`), so
  `Inv` holds there too.

  Without users' writes, the informer's copy and the SSP the server holds differ in nothing
  `relevantChangesPredicate` looks at, so the watch passes the controller's own writes only
  when they change the finalizers (`own_writes_pass_only_finalizer_changes`). The pass that
  initialises an SSP therefore queues the next pass exactly when it adds the finalizer
  (`initialization_requeues_iff`): `initialize` counts on its update to trigger the next
  reconciliation, and that update changes nothing the watch looks at when the SSP already
  carries the finalizer. Such an SSP is initialised to `Deploying` and then, without users'
  writes or changes of the operands' resources, no pass runs again and its operands are never
  reconciled (`created_with_finalizer_never_reconciled`).
-/

namespace SspOperator.Controllers

open Common Versioned Watch

variable {ω α β : Type}

/-! ## The predicates -/

/-- `predicate.LabelChangedPredicate`: `maps.Equal` of the labels, where a nil map is the
    empty one. -/
def LabelChangedPredicate (objectMeta : α → ObjectMeta) : Predicate α :=
  .onChange fun o => (objectMeta o).labels.semantic

/-- `predicate.AnnotationChangedPredicate`. -/
def AnnotationChangedPredicate (objectMeta : α → ObjectMeta) : Predicate α :=
  .onChange fun o => (objectMeta o).annotations.semantic

/-- `predicates.SpecChangedPredicate`: an update passes unless both objects have a `Spec`
    field and the specs are equal (`reflect.DeepEqual`). -/
def SpecChangedPredicate [DecidableEq β] (getSpec : α → Option β) : Predicate α where
  update old new :=
    match getSpec new, getSpec old with
    | some newSpec, some oldSpec => newSpec != oldSpec
    | _, _ => true

/-- `predicates.DeletionTimestampChangedPredicate`. -/
def DeletionTimestampChangedPredicate (objectMeta : α → ObjectMeta) : Predicate α :=
  .onChange fun o => (objectMeta o).deletionTimestamp

/-- `predicates.FinalizerChangedPredicate`: `reflect.DeepEqual` of the finalizers. -/
def FinalizerChangedPredicate (finalizers : α → List String) : Predicate α :=
  .onChange finalizers

/-- `relevantChangesPredicate`. -/
def relevantChangesPredicate [DecidableEq β] (objectMeta : α → ObjectMeta)
    (getSpec : α → Option β) : Predicate α :=
  .or [LabelChangedPredicate objectMeta, AnnotationChangedPredicate objectMeta,
    SpecChangedPredicate getSpec, DeletionTimestampChangedPredicate objectMeta]

/-- The predicate `watchSspResource` watches the SSP through. -/
def watchSspResource : Predicate SSPObject :=
  .or [relevantChangesPredicate SSPObject.objectMeta (fun o => some o.spec),
    FinalizerChangedPredicate SSPObject.finalizers]

/-! ## What the watch looks at -/

/-- What `relevantChangesPredicate` compares of the SSP. -/
def watchView (o : SSPObject) : StringMap × StringMap × SSPSpec × Option Nat :=
  (o.objectMeta.labels, o.objectMeta.annotations, o.spec, o.objectMeta.deletionTimestamp)

theorem relevantChangesPredicate_update_of_watchView {old new : SSPObject}
    (h : watchView new = watchView old) :
    (relevantChangesPredicate SSPObject.objectMeta fun o => some o.spec).update old new =
      false := by
  simp only [watchView, Prod.mk.injEq] at h
  obtain ⟨hlabels, hannotations, hspec, hdeletion⟩ := h
  rw [relevantChangesPredicate, or_update_eq_false]
  intro p hp
  simp only [List.mem_cons, List.not_mem_nil, or_false] at hp
  rcases hp with rfl | rfl | rfl | rfl
  · simp [LabelChangedPredicate, hlabels]
  · simp [AnnotationChangedPredicate, hannotations]
  · simp [SpecChangedPredicate, hspec]
  · simp [DeletionTimestampChangedPredicate, hdeletion]

/-- Between two SSPs with the same view the watch passes an update exactly when the
    finalizers changed. -/
theorem watchSspResource_update_of_watchView {old new : SSPObject}
    (h : watchView new = watchView old) :
    watchSspResource.update old new = !decide (new.finalizers = old.finalizers) := by
  have hrelevant := relevantChangesPredicate_update_of_watchView h
  simp only [watchSspResource, Predicate.or, List.any_cons, List.any_nil, Bool.or_false,
    hrelevant, Bool.false_or]
  rfl

@[simp] theorem watchSspResource_update_self (o : SSPObject) :
    watchSspResource.update o o = false := by
  rw [watchSspResource_update_of_watchView rfl]
  simp

/-- An update that writes the server's view keeps it: the server keeps the deletion
    timestamp and stores the written labels, annotations and spec. -/
theorem watchView_applyUpdate {cur inst v : SSPObject} (h : applyUpdate cur inst = .ok v)
    (hsame : watchView inst = watchView cur) : watchView v = watchView cur := by
  simp only [watchView, Prod.mk.injEq] at hsame
  obtain ⟨hlabels, hannotations, hspec, -⟩ := hsame
  unfold applyUpdate at h
  dsimp only at h
  by_cases hrefused : (cur.objectMeta.deletionTimestamp.isSome &&
      !(inst.finalizers.filter (· ∉ cur.finalizers)).isEmpty) = true
  · rw [if_pos hrefused] at h
    cases h
  · rw [if_neg hrefused, Except.ok.injEq] at h
    subst h
    simp [watchView, hlabels, hannotations, hspec]

/-- What the watch looks at is a view the controller's writes keep. -/
theorem watchView_writeStable : WriteStable watchView where
  addFinalizer o finalizer := by
    unfold AddFinalizer
    split <;> rfl
  removeFinalizer _ _ := rfl
  status _ _ := rfl
  update := watchView_applyUpdate

/-! ## The controller with its work queue -/

/-- The controller with its work queue: the cluster, and whether the SSP's request is
    queued. -/
structure Queued (ω : Type) where
  cluster : Cluster ω
  queued : Bool

/-- What drives the controller with its queue: a worker taking the request off the queue,
    the informer catching up, the users' writes, and a change of a watched resource of the
    operands, which queues the SSP's request through its owner. -/
inductive QueueEvent
  | work
  | sync
  | create (obj : SSPObject)
  | update (annotations : StringMap) (spec : SSPSpec)
  | delete (now : Nat)
  | ownedChange

/-- The users' writes of the SSP. -/
def QueueEvent.userWrite : QueueEvent → Bool
  | .create _ | .update _ _ | .delete _ => true
  | .work | .sync | .ownedChange => false

/-- Whether the request is queued again after a pass: after an error, which controller-runtime
    retries with a rate limit, or when the result asks for it. -/
def requeue : Except ApiError Bool → Bool
  | .error _ => true
  | .ok again => again

/-- The controller with its queue after one event. -/
def queueStep (cfg : Config ω) (s : Queued ω) : QueueEvent → Queued ω
  | .work =>
    if s.queued then
      let result := SspController.Reconcile cfg s.cluster
      { cluster := result.1, queued := requeue result.2 }
    else s
  | .sync =>
    { cluster := step cfg s.cluster .sync
      queued := s.queued ||
        watchSspResource.passes (s.cluster.cache.map Obj.val) (s.cluster.api.stored.map Obj.val) }
  | .create obj => { s with cluster := step cfg s.cluster (.create obj) }
  | .update annotations spec => { s with cluster := step cfg s.cluster (.update annotations spec) }
  | .delete now => { s with cluster := step cfg s.cluster (.delete now) }
  | .ownedChange => { s with queued := true }

section Work

variable {cfg : Config ω} {s : Queued ω}

@[simp] theorem queueStep_work_of_queued (hq : s.queued = true) :
    queueStep cfg s .work = ⟨(SspController.Reconcile cfg s.cluster).1,
      requeue (SspController.Reconcile cfg s.cluster).2⟩ := by
  simp [queueStep, hq]

@[simp] theorem queueStep_work_of_not_queued (hq : s.queued = false) :
    queueStep cfg s .work = s := by
  simp [queueStep, hq]

end Work

/-- Every step of the controller with its queue is a step of the lifecycle or leaves the
    cluster as it is. -/
theorem queueStep_cluster (cfg : Config ω) (s : Queued ω) (e : QueueEvent) :
    (queueStep cfg s e).cluster = s.cluster ∨
      ∃ event, (queueStep cfg s e).cluster = step cfg s.cluster event := by
  cases e with
  | work =>
    cases hq : s.queued
    · rw [queueStep_work_of_not_queued hq]
      exact .inl rfl
    · rw [queueStep_work_of_queued hq]
      exact .inr ⟨.reconcile, rfl⟩
  | sync => exact .inr ⟨.sync, rfl⟩
  | create obj => exact .inr ⟨.create obj, rfl⟩
  | update annotations spec => exact .inr ⟨.update annotations spec, rfl⟩
  | delete now => exact .inr ⟨.delete now, rfl⟩
  | ownedChange => exact .inl rfl

section Runs

variable {cfg : Config ω} {ok : Queued ω → QueueEvent → Prop} {s₀ s : Queued ω}

/-- Every run of the controller with its queue is a run of the lifecycle. -/
theorem reachable_cluster (h : Machine.Reachable (queueStep cfg) ok s₀ s) :
    Machine.Reachable (step cfg) (fun _ _ => True) s₀.cluster s.cluster :=
  h.map fun s e _ =>
    (queueStep_cluster cfg s e).imp_right fun ⟨event, hevent⟩ => ⟨event, trivial, hevent⟩

theorem inv_of_reachable (hinit : Inv s₀.cluster) (h : Machine.Reachable (queueStep cfg) ok s₀ s) :
    Inv s.cluster :=
  (reachable_cluster h).inv hinit fun _ event hs _ => inv_step hs cfg event

end Runs

/-! ## The pass that initialises the SSP -/

section Initialize

variable {cl : Cluster ω} {c : Obj SSPObject}

/-- A write at the version of the server's SSP that the server accepts and keeps. -/
theorem clientWrite_of_stored {apply : SSPObject → SSPObject → Except String SSPObject}
    {keep : SSPObject → Bool} {obj cur : Obj SSPObject} {v : SSPObject}
    (hcur : cl.api.stored = some cur) (hversion : cur.version = obj.version)
    (happly : apply cur.val obj.val = .ok v) (hkeep : keep v = true) :
    clientWrite apply keep obj cl =
      ({ cl with api := ⟨cl.api.revision + 1, some ⟨v, cl.api.revision + 1⟩⟩ },
        .ok ⟨v, cl.api.revision + 1⟩) := by
  simp [clientWrite, Cell.write, hcur, hversion, happly, hkeep]

@[simp] theorem AddFinalizer_spec (o : SSPObject) (finalizer : String) :
    (AddFinalizer o finalizer).spec = o.spec := by
  unfold AddFinalizer
  split <;> rfl

/-- What the server makes of an update of an SSP that is not being deleted. -/
theorem applyUpdate_of_live {cur inst : SSPObject}
    (hnone : cur.objectMeta.deletionTimestamp = none) :
    applyUpdate cur inst = .ok { cur with
      objectMeta := { cur.objectMeta with
        labels := inst.objectMeta.labels
        annotations := inst.objectMeta.annotations
        generation := if inst.spec = cur.spec then cur.objectMeta.generation
          else cur.objectMeta.generation + 1 }
      finalizers := inst.finalizers
      spec := inst.spec } := by
  simp [applyUpdate, hnone]

/-- `initialize` on the server's SSP, which is not being deleted: the update stores the SSP
    with the finalizer, and the status write stores it `Deploying`. Neither changes what the
    watch looks at. -/
theorem initializeSsp_of_stored (hsync : cl.api.stored = some c)
    (hlive : isBeingDeleted c.val.objectMeta = false) :
    ∃ v, initializeSsp c cl =
        ({ cl with api := ⟨cl.api.revision + 1 + 1, some ⟨v, cl.api.revision + 1 + 1⟩⟩ },
          .ok ⟨v, cl.api.revision + 1 + 1⟩) ∧
      watchView v = watchView c.val ∧
      v.finalizers = (AddFinalizer c.val finalizerName).finalizers ∧
      v.status.phase = .deploying := by
  have hnone : c.val.objectMeta.deletionTimestamp = none := by
    simpa [isBeingDeleted] using hlive
  -- the update: nothing but the finalizers changes, and the server keeps the SSP
  obtain ⟨v₁, hv₁⟩ : ∃ v₁ : SSPObject,
      v₁ = { c.val with finalizers := (AddFinalizer c.val finalizerName).finalizers } := ⟨_, rfl⟩
  have happly : applyUpdate c.val (AddFinalizer c.val finalizerName) = .ok v₁ := by
    rw [applyUpdate_of_live hnone, hv₁, AddFinalizer_objectMeta, AddFinalizer_spec, if_pos rfl]
  have hkeep : keepAfterUpdate v₁ = true := by
    simp [keepAfterUpdate, hv₁, hnone]
  have hupdate : clientUpdate (c.map fun o => AddFinalizer o finalizerName) cl =
      ({ cl with api := ⟨cl.api.revision + 1, some ⟨v₁, cl.api.revision + 1⟩⟩ },
        .ok ⟨v₁, cl.api.revision + 1⟩) :=
    clientWrite_of_stored hsync rfl happly hkeep
  -- the status write, at the version the update answered
  obtain ⟨v₂, hv₂⟩ : ∃ v₂ : SSPObject, v₂ = { v₁ with status := { v₁.status with
      phase := .deploying, observedGeneration := v₁.objectMeta.generation } } := ⟨_, rfl⟩
  have hstatus : setSspResourceDeploying ⟨v₁, cl.api.revision + 1⟩
      { cl with api := ⟨cl.api.revision + 1, some ⟨v₁, cl.api.revision + 1⟩⟩ } =
      ({ cl with api := ⟨cl.api.revision + 1 + 1, some ⟨v₂, cl.api.revision + 1 + 1⟩⟩ },
        .ok ⟨v₂, cl.api.revision + 1 + 1⟩) := by
    rw [hv₂]
    exact clientWrite_of_stored rfl rfl rfl rfl
  refine ⟨v₂, ?_, by rw [hv₂, hv₁]; rfl, by rw [hv₂, hv₁], by rw [hv₂]⟩
  unfold initializeSsp updateSspResource
  rw [hupdate]
  exact hstatus

/-- The pass on an SSP that is not initialised, which the informer holds as the server has
    it: `initialize`, and nothing more. -/
theorem Reconcile_of_uninitialized (cfg : Config ω) (hcache : cl.cache = some c)
    (hsync : cl.api.stored = some c) (huninit : isInitialized c.val = false) :
    ∃ ctl v, SspController.Reconcile cfg cl =
        ({ cl with ctl := ctl
                   api := ⟨cl.api.revision + 1 + 1, some ⟨v, cl.api.revision + 1 + 1⟩⟩ },
          .ok false) ∧
      watchView v = watchView c.val ∧
      v.finalizers = (AddFinalizer c.val finalizerName).finalizers ∧
      v.status.phase = .deploying := by
  have hlive : isBeingDeleted c.val.objectMeta = false := by
    simp only [isInitialized, Bool.or_eq_false_iff] at huninit
    exact huninit.1
  have hnot : (!isInitialized c.val) = true := by simp [huninit]
  unfold SspController.Reconcile
  rw [hcache]
  dsimp only
  generalize cl.ctl.clearCacheIfNeeded c.val.toSSP = p
  obtain ⟨ctl, sspChanged⟩ := p
  dsimp only
  rw [if_pos hnot]
  have hsync' : ({ cl with cache := some c, ctl := ctl } : Cluster ω).api.stored = some c := hsync
  obtain ⟨v, hinit, hview, hfinalizers, hphase⟩ := initializeSsp_of_stored hsync' hlive
  rw [hinit]
  exact ⟨ctl, v, rfl, hview, hfinalizers, hphase⟩

end Initialize

/-! ## The controller's own writes -/

/-- The informer's copy has what the watch looks at of the server's SSP. -/
def SeesView (s : Queued ω) : Prop :=
  ∀ o ∈ s.cluster.cache, ∀ v ∈ s.cluster.api.stored, watchView v.val = watchView o.val

/-- A pass keeps it: it leaves the informer's copy and keeps the view of the server's SSP;
    catching up restores it, and a change of an operand's resource leaves the cluster. -/
theorem SeesView.step {cfg : Config ω} {s : Queued ω} (hinv : Inv s.cluster) (hs : SeesView s)
    {e : QueueEvent} (he : e.userWrite = false) : SeesView (queueStep cfg s e) := by
  cases e with
  | work =>
    cases hq : s.queued
    · rw [queueStep_work_of_not_queued hq]
      exact hs
    rw [queueStep_work_of_queued hq]
    have hpass : SspController.Reconcile cfg s.cluster =
        ((SspController.Reconcile cfg s.cluster).1, (SspController.Reconcile cfg s.cluster).2) :=
      rfl
    intro o ho v hv
    rw [cache_Reconcile hinv hpass] at ho
    obtain ⟨v₀, hv₀, hview⟩ := keepsView_Reconcile watchView_writeStable hinv hpass v hv
    exact hview.trans (hs o ho v₀ hv₀)
  | sync =>
    intro o ho v hv
    rw [Option.mem_unique ho hv]
  | ownedChange => exact hs
  | create | update | delete => cases he

/-- Without users' writes, from an informer that has caught up, the informer's copy and the
    server's SSP differ in nothing `relevantChangesPredicate` looks at: the watch passes the
    controller's own writes of the SSP only when they change its finalizers, and never a
    write of its status. -/
theorem own_writes_pass_only_finalizer_changes (cfg : Config ω) {s₀ s : Queued ω}
    (hinit : Inv s₀.cluster) (hcaught : s₀.cluster.cache = s₀.cluster.api.stored)
    (hreach : Machine.Reachable (queueStep cfg) (fun _ e => e.userWrite = false) s₀ s) :
    ∀ o ∈ s.cluster.cache, ∀ v ∈ s.cluster.api.stored,
      (relevantChangesPredicate SSPObject.objectMeta fun o => some o.spec).update o.val v.val =
        false := by
  have hsees : SeesView s := by
    induction hreach with
    | init =>
      intro o ho v hv
      rw [hcaught] at ho
      rw [Option.mem_unique ho hv]
    | step e hr he ih => exact SeesView.step (inv_of_reachable hinit hr) ih he
  intro o ho v hv
  exact relevantChangesPredicate_update_of_watchView (hsees o ho v hv)

/-- The SSP is created without a finalizer, and the informer sees it. -/
def createdQueue : Queued Unit :=
  Machine.run (queueStep idleConfig) ⟨Cluster.empty (), false⟩ [.create sampleSsp, .sync]

/-- The SSP is initialised, the informer sees it, and it is deployed. -/
def deploymentRun : List QueueEvent :=
  [.work, .sync, .work, .sync]

theorem deployment_passes_only_finalizer_changes :
    (relevantChangesPredicate SSPObject.objectMeta fun o => some o.spec).passes
      ((Machine.run (queueStep idleConfig) createdQueue deploymentRun).cluster.cache.map Obj.val)
      ((Machine.run (queueStep idleConfig) createdQueue deploymentRun).cluster.api.stored.map
        Obj.val) = false := by
  have hcreated : Machine.Reachable (queueStep idleConfig) (fun _ _ => True)
      ⟨Cluster.empty (), false⟩ createdQueue :=
    Machine.Reachable.init.run _ (by simp)
  obtain ⟨o, ho⟩ : ∃ o,
      (Machine.run (queueStep idleConfig) createdQueue deploymentRun).cluster.cache = some o :=
    ⟨_, rfl⟩
  obtain ⟨v, hv⟩ : ∃ v,
      (Machine.run (queueStep idleConfig) createdQueue deploymentRun).cluster.api.stored = some v :=
    ⟨_, rfl⟩
  rw [ho, hv]
  exact own_writes_pass_only_finalizer_changes idleConfig
    (inv_of_reachable (inv_empty ()) hcreated) rfl
    (Machine.Reachable.init.run _ (by simp [deploymentRun, QueueEvent.userWrite])) o ho v hv

/-! ## The pass that initialises the SSP queues the next one only with the finalizer -/

theorem AddFinalizer_finalizers_eq_iff (o : SSPObject) (finalizer : String) :
    (AddFinalizer o finalizer).finalizers = o.finalizers ↔ finalizer ∈ o.finalizers := by
  unfold AddFinalizer
  split
  · rename_i hcontains
    simpa using hcontains
  · rename_i hcontains
    simp only [List.contains_iff_mem] at hcontains
    simp [hcontains]

/-- After the pass that initialises an SSP the informer holds as the server has it, catching
    up queues the next pass exactly when the SSP lacked the finalizer: `initialize` counts on
    its update to trigger the next reconciliation, and with the finalizer already in place
    that update changes nothing the watch looks at. -/
theorem initialization_requeues_iff {cfg : Config ω} {s : Queued ω} {c : Obj SSPObject}
    (hqueued : s.queued = true) (hcache : s.cluster.cache = some c)
    (hsync : s.cluster.api.stored = some c) (huninit : isInitialized c.val = false) :
    (Machine.run (queueStep cfg) s [.work, .sync]).queued = true ↔
      finalizerName ∉ c.val.finalizers := by
  obtain ⟨ctl, v, hpass, hview, hfinalizers, -⟩ :=
    Reconcile_of_uninitialized cfg hcache hsync huninit
  -- the pass leaves nothing queued; catching up hands the watch the update from `c` to `v`
  have hrun : (Machine.run (queueStep cfg) s [.work, .sync]).queued =
      watchSspResource.update c.val v := by
    rw [Machine.run_cons, queueStep_work_of_queued hqueued, hpass]
    simp [queueStep, requeue, hcache]
  rw [hrun, watchSspResource_update_of_watchView hview, hfinalizers]
  simp [AddFinalizer_finalizers_eq_iff]

/-- The sample SSP, created without a finalizer, is initialised, and the next pass is
    queued. -/
theorem created_ssp_initialisation_requeues :
    (Machine.run (queueStep idleConfig) createdQueue [.work, .sync]).queued = true :=
  (initialization_requeues_iff rfl rfl rfl rfl).mpr (by decide)

/-! ## An SSP created with the finalizer stalls -/

/-- The SSP created with the finalizer stalls: it is not initialised and the informer holds it
    as the server has it, or it is `Deploying`, nothing is queued and the watch drops the
    change from the informer's copy to the server's SSP. The operands' calls are `calls`. -/
def Stalled (calls : List OperandCall) (s : Queued ω) : Prop :=
  s.cluster.calls = calls ∧
    ((∃ c, s.cluster.cache = some c ∧ s.cluster.api.stored = some c ∧
        isInitialized c.val = false ∧ finalizerName ∈ c.val.finalizers) ∨
      (s.queued = false ∧ ∃ o v, s.cluster.cache = some o ∧ s.cluster.api.stored = some v ∧
        watchSspResource.update o.val v.val = false ∧ v.val.status.phase = .deploying))

section Stalled

variable {cfg : Config ω} {calls : List OperandCall} {s : Queued ω}

/-- The pass initialises the SSP, and the update it counts on is dropped. -/
theorem Stalled.work_of_uninitialized {c : Obj SSPObject} (hcalls : s.cluster.calls = calls)
    (hqueued : s.queued = true) (hcache : s.cluster.cache = some c)
    (hsync : s.cluster.api.stored = some c) (huninit : isInitialized c.val = false)
    (hmem : finalizerName ∈ c.val.finalizers) : Stalled calls (queueStep cfg s .work) := by
  obtain ⟨ctl, v, hpass, hview, hfinalizers, hphase⟩ :=
    Reconcile_of_uninitialized cfg hcache hsync huninit
  have hdropped : watchSspResource.update c.val v = false := by
    rw [watchSspResource_update_of_watchView hview, hfinalizers,
      (AddFinalizer_finalizers_eq_iff c.val finalizerName).mpr hmem]
    simp
  rw [queueStep_work_of_queued hqueued, hpass]
  exact ⟨hcalls, .inr ⟨rfl, c, _, hcache, rfl, hdropped, hphase⟩⟩

/-- Without users' writes and changes of the operands' resources, the SSP stays stalled. -/
theorem Stalled.step (hs : Stalled calls s) {e : QueueEvent} (he : e = .work ∨ e = .sync) :
    Stalled calls (queueStep cfg s e) := by
  obtain ⟨hcalls, ⟨c, hcache, hsync, huninit, hmem⟩ | ⟨hqueued, o, v, hcache, hsync, hdropped,
    hphase⟩⟩ := hs
  -- not initialised yet: a pass initialises it, catching up changes nothing
  · rcases he with rfl | rfl
    · cases hq : s.queued
      · rw [queueStep_work_of_not_queued hq]
        exact ⟨hcalls, .inl ⟨c, hcache, hsync, huninit, hmem⟩⟩
      · exact Stalled.work_of_uninitialized hcalls hq hcache hsync huninit hmem
    · exact ⟨hcalls, .inl ⟨c, hsync, hsync, huninit, hmem⟩⟩
  -- initialised: no pass runs, and catching up queues nothing
  · rcases he with rfl | rfl
    · rw [queueStep_work_of_not_queued hqueued]
      exact ⟨hcalls, .inr ⟨hqueued, o, v, hcache, hsync, hdropped, hphase⟩⟩
    · refine ⟨hcalls, .inr ⟨?_, v, v, hsync, hsync, watchSspResource_update_self v.val, hphase⟩⟩
      simp [queueStep, hqueued, hcache, hsync, hdropped]

theorem Stalled.phase_ne_deployed (hs : Stalled calls s) :
    ∀ v ∈ s.cluster.api.stored, v.val.status.phase ≠ .deployed := by
  intro v hv
  obtain ⟨-, ⟨c, -, hsync, huninit, -⟩ | ⟨-, o, v', -, hsync, -, hphase⟩⟩ := hs
  · obtain rfl := Option.mem_unique hv hsync
    simp only [isInitialized, Bool.or_eq_false_iff, bne_eq_false_iff_eq] at huninit
    rw [huninit.2]
    decide
  · obtain rfl := Option.mem_unique hv hsync
    rw [hphase]
    decide

end Stalled

/-- An SSP created with the finalizer, which the informer holds as the server has it, is
    initialised to `Deploying` and then stalls: `initialize` counts on its update to trigger
    the next reconciliation, and the watch drops that update. Without users' writes and changes
    of the operands' resources, no operand is ever reconciled and the SSP is never
    `Deployed`. -/
theorem created_with_finalizer_never_reconciled (cfg : Config ω) {s : Queued ω}
    {c : Obj SSPObject} (hcache : s.cluster.cache = some c) (hsync : s.cluster.api.stored = some c)
    (huninit : isInitialized c.val = false) (hmem : finalizerName ∈ c.val.finalizers)
    (events : List QueueEvent) (hquiet : ∀ e ∈ events, e = .work ∨ e = .sync) :
    (Machine.run (queueStep cfg) s events).cluster.calls = s.cluster.calls ∧
      ∀ v ∈ (Machine.run (queueStep cfg) s events).cluster.api.stored,
        v.val.status.phase ≠ .deployed := by
  have hstep : ∀ t e, Stalled s.cluster.calls t → (e = .work ∨ e = .sync) →
      Stalled s.cluster.calls (queueStep cfg t e) :=
    fun _ _ ht he => ht.step he
  have hguarded : Machine.Guarded (queueStep cfg) (fun _ e => e = .work ∨ e = .sync) s events :=
    Machine.guarded_of_forall s events hquiet
  have hstalled : Stalled s.cluster.calls (Machine.run (queueStep cfg) s events) :=
    Machine.run_inv hstep s events ⟨rfl, .inl ⟨c, hcache, hsync, huninit, hmem⟩⟩ hguarded
  exact ⟨hstalled.1, hstalled.phase_ne_deployed⟩

/-- The sample SSP, created with the finalizer, and seen by the informer. -/
def finalizedQueue : Queued Unit :=
  Machine.run (queueStep idleConfig) ⟨Cluster.empty (), true⟩
    [.create { sampleSsp with finalizers := [finalizerName] }, .sync]

theorem finalized_ssp_stalls :
    (Machine.run (queueStep idleConfig) finalizedQueue deploymentRun).cluster.calls = [] ∧
      ∀ v ∈ (Machine.run (queueStep idleConfig) finalizedQueue deploymentRun).cluster.api.stored,
        v.val.status.phase ≠ .deployed :=
  created_with_finalizer_never_reconciled idleConfig rfl rfl rfl (by decide) deploymentRun
    (by simp [deploymentRun])

/-- Created without the finalizer, the same SSP is deployed, and its operands reconciled. -/
example : (Machine.run (queueStep idleConfig) createdQueue deploymentRun).cluster.calls =
    [.reconcile] := by
  rfl

end SspOperator.Controllers
