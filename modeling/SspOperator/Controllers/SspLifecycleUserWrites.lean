import SspOperator.Controllers.SspLifecycleViews

/-
  What becomes of the users' writes of the SSP under the controller's passes
  (`SspLifecycle`).

  A pass changes the SSP's status and finalizers and nothing a user writes: its labels,
  annotations and spec, nor the generation that counts the changes of the spec
  (`reconcile_keeps_user_fields`). These fields are a view the controller's writes keep
  (`userFields_writeStable`, `SspLifecycleViews`): the pass updates the SSP only from the
  informer's copy or from what the server has just answered, at the version it read, so a
  user's update the informer has not seen yet makes the pass's write fail and is never
  undone.

  A delete completes: a pass on an SSP being deleted that carries only the controller's
  finalizer and that the informer holds as the server has it, with operands whose cleanup
  reports every resource deleted, removes the SSP and records a cleanup that left nothing
  (`deletion_completes_in_one_pass`).
-/

namespace SspOperator.Controllers

open Common Versioned

variable {ω : Type}

/-! ## The users' fields -/

/-- What the users write of the SSP, and the generation that counts its spec's changes. -/
def userFields (o : SSPObject) : StringMap × StringMap × SSPSpec × Nat :=
  (o.objectMeta.labels, o.objectMeta.annotations, o.spec, o.objectMeta.generation)

/-- The server's SSP after, if any, has the user fields of the server's SSP before. -/
def KeepsUserFields (cl cl' : Cluster ω) : Prop :=
  ∀ s' ∈ cl'.api.stored, ∃ s ∈ cl.api.stored, userFields s'.val = userFields s.val

/-- The server's SSP at the object's version, if there is one, has the object's user
    fields. -/
def UserFieldsAt (cl : Cluster ω) (obj : Obj SSPObject) : Prop :=
  ∀ s ∈ cl.api.stored, s.version = obj.version → userFields s.val = userFields obj.val

/-- An update that writes the server's user fields keeps them, the generation included. -/
theorem userFields_applyUpdate {cur inst v : SSPObject} (h : applyUpdate cur inst = .ok v)
    (hsame : userFields cur = userFields inst) : userFields v = userFields cur := by
  simp only [userFields, Prod.mk.injEq] at hsame
  obtain ⟨hlabels, hannotations, hspec, -⟩ := hsame
  unfold applyUpdate at h
  dsimp only at h
  by_cases hrefused : (cur.objectMeta.deletionTimestamp.isSome &&
      !(inst.finalizers.filter (· ∉ cur.finalizers)).isEmpty) = true
  · rw [if_pos hrefused] at h
    cases h
  · rw [if_neg hrefused, Except.ok.injEq] at h
    subst h
    simp [userFields, hlabels, hannotations, hspec]

/-- The user fields are a view of the SSP that the controller's writes keep. -/
theorem userFields_writeStable : WriteStable userFields where
  addFinalizer o finalizer := by
    unfold AddFinalizer
    split <;> rfl
  removeFinalizer _ _ := rfl
  status _ _ := rfl
  update happly hsame := userFields_applyUpdate happly hsame.symm

/-- A pass changes no user field. -/
theorem keepsUserFields_Reconcile {cl cl' : Cluster ω} (hinv : Inv cl) {cfg : Config ω}
    {r : Except ApiError Bool} (h : SspController.Reconcile cfg cl = (cl', r)) :
    KeepsUserFields cl cl' :=
  keepsView_Reconcile userFields_writeStable hinv h

/-! ## Users' updates are never undone -/

/-- In every cluster that passes, syncs and users' writes reach in any order, the next pass
    leaves the SSP's labels, annotations, spec and generation as the server has them: a pass
    never undoes a user's update, even from an informer's copy that does not have it yet. -/
theorem reconcile_keeps_user_fields (cfg : Config ω) {cl₀ cl : Cluster ω} (hinit : Inv cl₀)
    (hreach : Machine.Reachable (step cfg) (fun _ _ => True) cl₀ cl) :
    KeepsUserFields cl (step cfg cl .reconcile) := by
  have hinv : Inv cl := hreach.inv hinit fun _ event hs _ => inv_step hs cfg event
  exact keepsUserFields_Reconcile hinv rfl

/-- The spec a user writes into the sample SSP. -/
def updatedSpec : SSPSpec :=
  { commonTemplates := { ns := "templates" } }

/-- The SSP is created and initialised, and a user updates its spec before the informer sees
    the initialisation. -/
def staleUpdate : List Event :=
  [.create sampleSsp, .sync, .reconcile, .update none updatedSpec]

theorem stale_pass_keeps_updated_spec :
    KeepsUserFields (Machine.run (step idleConfig) (Cluster.empty ()) staleUpdate)
        (step idleConfig (Machine.run (step idleConfig) (Cluster.empty ()) staleUpdate) .reconcile) ∧
      ∃ s ∈ (step idleConfig (Machine.run (step idleConfig) (Cluster.empty ()) staleUpdate)
        .reconcile).api.stored, s.val.spec = updatedSpec :=
  ⟨reconcile_keeps_user_fields idleConfig (inv_empty ())
    (Machine.Reachable.init.run _ (by simp [staleUpdate])), ⟨_, rfl, rfl⟩⟩

/-! ## A delete completes -/

/-- An operand whose cleanup succeeds and reports every resource deleted. -/
def CleanupDone (operand : Operand ω) : Prop :=
  ∀ request objects, ∃ results objects',
    operand.cleanup request objects = (.ok results, objects') ∧ ∀ deleted ∈ results, deleted = true

/-- Operands that are all done leave no resource pending. -/
theorem cleanupOperands_of_done {operands : List (Operand ω)}
    (hdone : ∀ operand ∈ operands, CleanupDone operand) (request : Request) (pendingCount : Nat)
    (cl : Cluster ω) :
    ∃ objects, cleanupOperands request operands pendingCount cl =
      ({ cl with objects := objects }, .ok pendingCount) := by
  induction operands generalizing cl with
  | nil => exact ⟨cl.objects, rfl⟩
  | cons operand operands ih =>
    obtain ⟨results, objects, hcleanup, hdeleted⟩ :=
      hdone operand List.mem_cons_self request cl.objects
    have hnone : (results.filter (!·)).length = 0 := by
      rw [List.length_eq_zero_iff, List.filter_eq_nil_iff]
      intro deleted hmem
      simp [hdeleted deleted hmem]
    obtain ⟨objects', hrest⟩ :=
      ih (fun operand' hmem => hdone operand' (List.mem_cons_of_mem _ hmem)) { cl with objects := objects }
    refine ⟨objects', ?_⟩
    simp only [cleanupOperands, hcleanup, hnone, Nat.add_zero]
    exact hrest

/-- The phase `Deleted` finds the SSP gone, which is no error. -/
theorem setDeleted_of_removed {obj : Obj SSPObject} {cl cl' : Cluster ω} {r : Except ApiError Unit}
    (h : setDeleted obj cl = (cl', r)) (hnone : cl.api.stored = none) : cl' = cl ∧ r = .ok () := by
  unfold setDeleted clientStatusUpdate clientWrite Cell.write at h
  simp [hnone, writeError] at h
  exact ⟨h.1.symm, h.2.symm⟩

/-- `cleanup` of the server's SSP, being deleted with only the controller's finalizer, when
    the operands are all done: the status `Deleting`, the operands' cleanup, the update that
    takes the finalizer off and so removes the SSP, and the phase `Deleted` that finds it
    gone. -/
theorem cleanup_of_done {operands : List (Operand ω)}
    (hdone : ∀ operand ∈ operands, CleanupDone operand) {request : Request}
    {obj : Obj SSPObject} {cl cl' : Cluster ω} {r : Except ApiError Unit}
    (h : cleanup operands request obj cl = (cl', r)) (hsync : cl.api.stored = some obj)
    (hdel : isBeingDeleted obj.val.objectMeta = true) (hmem : finalizerName ∈ obj.val.finalizers)
    (honly : ∀ finalizer ∈ obj.val.finalizers, finalizer = finalizerName) :
    cl'.api.stored = none ∧ cl'.calls = .cleanup 0 :: cl.calls ∧ r = .ok () := by
  unfold Controllers.cleanup at h
  have hcontains : (ContainsFinalizer obj.val finalizerName ||
      ContainsFinalizer obj.val oldFinalizerName) = true := by
    simp [ContainsFinalizer, hmem]
  rw [if_pos hcontains] at h
  -- the status `Deleting` is written at the server's version
  split at h
  · rename_i cl1 _ h1
    exact (clientStatusUpdate_ne_error h1 hsync rfl).elim
  rename_i cl1 obj1 h1
  obtain ⟨api1, cur, -, rfl, hcur, -, hval1, hkept1⟩ := clientStatusUpdate_eq_ok h1
  rw [hsync, Option.some_inj] at hcur
  subst hcur
  obtain ⟨objects, hoperands⟩ :=
    cleanupOperands_of_done hdone { request with sspObject := obj1.val } 0 { cl with api := api1 }
  rw [hoperands] at h
  dsimp only at h
  rw [if_neg (Nat.lt_irrefl 0)] at h
  -- the update only takes finalizers off, and leaves none
  have hfinalizers1 : obj1.val.finalizers = obj.val.finalizers := by rw [hval1]
  have hremoved : (RemoveFinalizer (RemoveFinalizer obj1.val finalizerName)
      oldFinalizerName).finalizers = [] := by
    simp only [RemoveFinalizer, hfinalizers1, List.filter_filter, List.filter_eq_nil_iff]
    intro finalizer hfin
    simp [honly finalizer hfin]
  split at h
  · rename_i cl4 _ h4
    refine (clientUpdate_ne_error h4 hkept1 rfl ?_).elim
    intro finalizer hfin
    rw [Obj.map_val, hremoved] at hfin
    cases hfin
  rename_i cl4 obj4 h4
  obtain ⟨api4, cur4, hwrite4, rfl, hcur4, -, hfinalizers4, hdeletion4, -⟩ := clientUpdate_eq_ok h4
  rw [hkept1, Option.some_inj] at hcur4
  subst hcur4
  -- the answer is being deleted and has no finalizer left, so the server removes it
  have hkeep : keepAfterUpdate obj4.val = false := by
    have hdel4 : isBeingDeleted obj4.val.objectMeta = true := by
      rw [hdeletion4, hval1]
      exact hdel
    unfold isBeingDeleted at hdel4
    simp [keepAfterUpdate, hdel4, hfinalizers4, hremoved]
  obtain ⟨-, -, -, -, -, -, hstored4⟩ := Cell.write_eq_ok hwrite4
  have hgone : api4.stored = none := by simpa [hkeep] using hstored4
  obtain ⟨rfl, rfl⟩ := setDeleted_of_removed h hgone
  exact ⟨hgone, rfl, rfl⟩

/-- A pass on an SSP that a user has deleted, that carries only the controller's finalizer
    and that the informer holds as the server has it, with operands whose cleanup reports
    every resource deleted, removes the SSP and records a cleanup that left nothing. -/
theorem deletion_completes_in_one_pass {cfg : Config ω}
    (hdone : ∀ operand ∈ cfg.operands, CleanupDone operand) {cl cl' : Cluster ω}
    {r : Except ApiError Bool} {c : Obj SSPObject} (h : SspController.Reconcile cfg cl = (cl', r))
    (hcache : cl.cache = some c) (hsync : cl.api.stored = some c)
    (hdel : isBeingDeleted c.val.objectMeta = true) (hmem : finalizerName ∈ c.val.finalizers)
    (honly : ∀ finalizer ∈ c.val.finalizers, finalizer = finalizerName) :
    cl'.api.stored = none ∧ cl'.calls = .cleanup 0 :: cl.calls ∧ r = .ok false := by
  unfold SspController.Reconcile at h
  split at h
  · rename_i hnone
    rw [hcache] at hnone
    cases hnone
  rename_i c' hc'
  rw [hcache, Option.some_inj] at hc'
  subst hc'
  split at h
  rename_i ctl sspChanged _
  dsimp only at h
  -- the SSP is being deleted and carries no old finalizer, so the pass goes to `cleanup`
  have hinit : ¬(!isInitialized c.val) = true := by simp [isInitialized, hdel]
  have hold : ContainsFinalizer c.val oldFinalizerName = false := by
    rw [Bool.eq_false_iff]
    intro hcontains
    have hne : oldFinalizerName ≠ finalizerName := by decide
    exact hne (honly _ (by simpa [ContainsFinalizer] using hcontains))
  have hupdate : updateSsp c { cl with ctl := ctl } = ({ cl with ctl := ctl }, .ok false) := by
    unfold Controllers.updateSsp
    rw [if_neg (by simp [hold])]
  rw [if_neg hinit, hupdate] at h
  dsimp only at h
  rw [if_pos hdel] at h
  split at h
  · rename_i cl2 _ h2
    obtain ⟨-, -, hr⟩ := cleanup_of_done hdone h2 hsync hdel hmem honly
    cases hr
  · rename_i cl2 h2
    obtain ⟨rfl, rfl⟩ := Prod.mk.inj h
    obtain ⟨hgone, hcalls, -⟩ := cleanup_of_done hdone h2 hsync hdel hmem honly
    exact ⟨hgone, hcalls, rfl⟩

/-- The sample SSP, deployed, with the controller's finalizer, deleted by a user. -/
def deletedSsp : SSPObject :=
  { sampleSsp with
    objectMeta := { sampleSsp.objectMeta with generation := 2, deletionTimestamp := some 5 }
    finalizers := [finalizerName]
    status := { phase := .deployed, observedGeneration := 1 } }

/-- The cluster with that SSP, which the informer has seen. -/
def deletedCluster : Cluster Unit :=
  { Cluster.empty () with api := ⟨3, some ⟨deletedSsp, 3⟩⟩, cache := some ⟨deletedSsp, 3⟩
                          calls := [.reconcile] }

theorem deleted_cluster_removed_in_one_pass :
    (SspController.Reconcile idleConfig deletedCluster).1.api.stored = none ∧
      (SspController.Reconcile idleConfig deletedCluster).1.calls = [.cleanup 0, .reconcile] ∧
      (SspController.Reconcile idleConfig deletedCluster).2 = .ok false := by
  have hpass : SspController.Reconcile idleConfig deletedCluster =
      ((SspController.Reconcile idleConfig deletedCluster).1,
        (SspController.Reconcile idleConfig deletedCluster).2) := rfl
  have hdone : ∀ operand ∈ idleConfig.operands, CleanupDone operand := by
    intro operand hoperand
    rw [show idleConfig.operands = [idleOperand] from rfl, List.mem_singleton] at hoperand
    subst hoperand
    intro request objects
    exact ⟨[true], objects, rfl, by simp⟩
  exact deletion_completes_in_one_pass hdone hpass rfl rfl (by decide) (by decide) (by decide)

end SspOperator.Controllers
