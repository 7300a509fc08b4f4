import SspOperator.Controllers.SspLifecycleSafety

/-
  What the controller's passes keep of the cluster (`SspLifecycle`).

  A pass changes the cluster in few ways: status writes of the SSP, which the server applies
  to the status of the stored object alone; updates of the object the informer holds or the
  server has just answered, with finalizers added or taken off; and changes of the operands'
  objects, of the operand calls and of the controller's cache. A relation between clusters
  that all of these keep, where an update needs only a precondition that the informer's
  copy and a status write's answer meet, is kept by every pass (`PassRule.Reconcile`).

  Two rules: no pass writes the informer's copy (`cache_Reconcile`), and a view of the SSP
  that the finalizer helpers and status changes leave alone, and that an update keeps when
  the written object has the stored one's view (`WriteStable`), is kept by every pass: the
  SSP the server holds after the pass, if any, has the view of the one it held before
  (`keepsView_Reconcile`). Under `Inv` an update from the informer's copy succeeds only on
  the very object the copy holds (`viewAt_of_cache`), so a change the informer has not seen
  yet is never undone.
-/

namespace SspOperator.Controllers

open Common Versioned

variable {ω β : Type}

/-! ## Rules of a pass -/

/-- What a relation `R` between the clusters before and after needs for every pass to keep
    it: it is a preorder that holds across changes of the operands' objects, the calls and
    the controller's cache, across every status write, and across updates of objects that
    satisfy `P`. `P` holds of the informer's copy under `Inv` and of a status write's answer,
    and survives those changes and the finalizer helpers. -/
structure PassRule (R : Cluster ω → Cluster ω → Prop) (P : Cluster ω → Obj SSPObject → Prop) :
    Prop where
  refl : ∀ cl, R cl cl
  trans : ∀ {cl₁ cl₂ cl₃}, R cl₁ cl₂ → R cl₂ cl₃ → R cl₁ cl₃
  frame : ∀ {cl cl'}, cl'.api = cl.api → cl'.cache = cl.cache → R cl cl'
  statusUpdate : ∀ {obj cl cl' r}, clientStatusUpdate obj cl = (cl', r) → R cl cl'
  update : ∀ {obj cl cl' r}, clientUpdate obj cl = (cl', r) → P cl obj → R cl cl'
  frameAt : ∀ {cl cl' obj}, P cl obj → cl'.api = cl.api → P cl' obj
  addFinalizer : ∀ {cl obj} finalizer, P cl obj →
    P cl (obj.map fun o => AddFinalizer o finalizer)
  removeFinalizer : ∀ {cl obj} finalizer, P cl obj →
    P cl (obj.map fun o => RemoveFinalizer o finalizer)
  answer : ∀ {obj cl cl' resp}, clientStatusUpdate obj cl = (cl', .ok resp) → P cl' resp
  cache : ∀ {cl c}, Inv cl → cl.cache = some c → P cl c

section Steps

variable {R : Cluster ω → Cluster ω → Prop} {P : Cluster ω → Obj SSPObject → Prop}
variable (hR : PassRule R P)
include hR

variable {obj : Obj SSPObject} {cl cl' : Cluster ω}

theorem PassRule.updateSspResource {r : Except ApiError (Obj SSPObject)}
    (h : updateSspResource obj cl = (cl', r)) (hat : P cl obj) : R cl cl' := by
  unfold Controllers.updateSspResource at h
  split at h
  · rename_i cl1 _ h1
    obtain ⟨rfl, -⟩ := Prod.mk.inj h
    exact hR.update h1 hat
  · rename_i cl1 _ h1
    exact hR.trans (hR.update h1 hat) (hR.statusUpdate h)

theorem PassRule.updateSsp {r : Except ApiError Bool} (h : updateSsp obj cl = (cl', r))
    (hat : P cl obj) : R cl cl' := by
  unfold Controllers.updateSsp at h
  split at h
  · dsimp only at h
    -- moving the finalizer changes only the finalizers
    have hat' : P cl (obj.map fun o =>
        AddFinalizer (RemoveFinalizer o oldFinalizerName) finalizerName) :=
      hR.addFinalizer finalizerName (hR.removeFinalizer oldFinalizerName hat)
    split at h <;> rename_i cl1 _ h1 <;> obtain ⟨rfl, -⟩ := Prod.mk.inj h <;>
      exact hR.updateSspResource h1 hat'
  · obtain ⟨rfl, -⟩ := Prod.mk.inj h
    exact hR.refl cl

theorem PassRule.setDeleted {r : Except ApiError Unit} (h : setDeleted obj cl = (cl', r)) :
    R cl cl' := by
  unfold Controllers.setDeleted at h
  split at h
  · rename_i cl1 _ h1
    obtain ⟨rfl, -⟩ := Prod.mk.inj h
    exact hR.statusUpdate h1
  · rename_i cl1 _ h1
    split at h <;> obtain ⟨rfl, -⟩ := Prod.mk.inj h <;> exact hR.statusUpdate h1

/-- `cleanup` takes the finalizers off the SSP the server has just answered. -/
theorem PassRule.cleanup {operands : List (Operand ω)} {request : Request}
    {r : Except ApiError Unit} (h : cleanup operands request obj cl = (cl', r)) : R cl cl' := by
  unfold Controllers.cleanup at h
  split at h
  · split at h
    · rename_i cl1 _ h1
      obtain ⟨rfl, -⟩ := Prod.mk.inj h
      exact hR.statusUpdate h1
    rename_i cl1 obj1 h1
    have hR1 : R cl cl1 := hR.statusUpdate h1
    have hat1 : P cl1 obj1 := hR.answer h1
    split at h <;> rename_i cl2 _ h2 <;> obtain ⟨objects, rfl⟩ := cleanupOperands_eq h2
    · obtain ⟨rfl, -⟩ := Prod.mk.inj h
      exact hR.trans hR1 (hR.frame rfl rfl)
    rename_i pendingCount
    -- the operands' cleanup leaves the server and the informer alone
    have hR3 : R cl { cl1 with objects := objects, calls := .cleanup pendingCount :: cl1.calls } :=
      hR.trans hR1 (hR.frame rfl rfl)
    dsimp only at h
    split at h
    · obtain ⟨rfl, -⟩ := Prod.mk.inj h
      exact hR3
    have hat2 : P { cl1 with objects := objects, calls := .cleanup pendingCount :: cl1.calls }
        obj1 := hR.frameAt hat1 rfl
    have hat3 : P { cl1 with objects := objects, calls := .cleanup pendingCount :: cl1.calls }
        (obj1.map fun o => RemoveFinalizer (RemoveFinalizer o finalizerName) oldFinalizerName) :=
      hR.removeFinalizer oldFinalizerName (hR.removeFinalizer finalizerName hat2)
    split at h
    · rename_i cl4 _ h4
      obtain ⟨rfl, -⟩ := Prod.mk.inj h
      exact hR.trans hR3 (hR.update h4 hat3)
    · rename_i cl4 obj4 h4
      exact hR.trans hR3 (hR.trans (hR.update h4 hat3) (hR.setDeleted h))
  · exact hR.setDeleted h

theorem PassRule.handleError {err : ApiError} {r : Except ApiError Bool}
    (h : handleError obj err cl = (cl', r)) : R cl cl' := by
  unfold Controllers.handleError at h
  split at h
  · obtain ⟨rfl, -⟩ := Prod.mk.inj h
    exact hR.refl cl
  · obtain ⟨rfl, -⟩ := Prod.mk.inj h
    exact hR.statusUpdate rfl

theorem PassRule.reconcileAndUpdateStatus {cfg : Config ω} {request : Request}
    {r : Except ApiError Bool} (h : reconcileAndUpdateStatus cfg request obj cl = (cl', r)) :
    R cl cl' := by
  unfold Controllers.reconcileAndUpdateStatus Controllers.reconcileOperands at h
  -- the operands leave the server and the informer alone
  split at h <;> rename_i cl2 _ h2 <;> obtain ⟨objects, rfl⟩ := reconcileOperandsLoop_eq h2 <;>
    have hR2 : R cl { cl with calls := .reconcile :: cl.calls, objects := objects } :=
      hR.frame rfl rfl
  · exact hR.trans hR2 (hR.handleError h)
  · split at h <;> rename_i cl3 _ h3 <;> obtain ⟨rfl, -⟩ := Prod.mk.inj h <;>
      exact hR.trans hR2 (hR.statusUpdate h3)

theorem PassRule.reconcileDeployment {cfg : Config ω} {request : Request}
    {r : Except ApiError Bool} (h : reconcileDeployment cfg request obj cl = (cl', r)) :
    R cl cl' := by
  unfold Controllers.reconcileDeployment at h
  split at h
  · split at h
    · rename_i cl1 _ h1
      rw [clientWrite_eq_error h1] at h
      exact hR.handleError h
    · rename_i cl1 obj1 h1
      exact hR.trans (hR.statusUpdate h1) (hR.reconcileAndUpdateStatus h)
  · exact hR.reconcileAndUpdateStatus h

/-- Every pass keeps a relation that follows the rules. -/
theorem PassRule.Reconcile (hinv : Inv cl) {cfg : Config ω} {r : Except ApiError Bool}
    (h : SspController.Reconcile cfg cl = (cl', r)) : R cl cl' := by
  rcases Reconcile_cases h with ⟨-, rfl⟩ | ⟨c, ctl, sspChanged, hcache, -, hbranch⟩
  · exact hR.refl _
  -- the pass works on the cluster with the controller's cache updated
  have hat0 : P { cl with ctl := ctl } c := hR.frameAt (hR.cache hinv hcache) rfl
  have hR0 : R cl { cl with ctl := ctl } := hR.frame rfl rfl
  cases hbranch with
  | uninitialized _ h1 => exact hR.trans hR0 (hR.updateSspResource h1 (hR.addFinalizer _ hat0))
  | oldFinalizer _ h1 _ => exact hR.trans hR0 (hR.updateSsp h1 hat0)
  | deleting _ _ _ h2 hcl =>
      rcases hcl with rfl | rfl
      · exact hR.trans hR0 (hR.cleanup h2)
      · exact hR.trans hR0 (hR.trans (hR.cleanup h2) (hR.frame rfl rfl))
  | pausedAlready => exact hR0
  | pausing _ _ _ _ _ h2 => exact hR.trans hR0 (hR.statusUpdate h2)
  | crdsMissing _ _ _ _ _ h2 => exact hR.trans hR0 (hR.statusUpdate h2)
  | deploying _ _ _ _ _ h2 => exact hR.trans hR0 (hR.reconcileDeployment h2)

end Steps

/-! ## The informer's copy -/

/-- No step of a pass writes the informer's copy. -/
theorem cache_passRule : PassRule (ω := ω) (fun cl cl' => cl'.cache = cl.cache) (fun _ _ => True) where
  refl _ := rfl
  trans h₁₂ h₂₃ := h₂₃.trans h₁₂
  frame _ hcache := hcache
  statusUpdate h := by
    obtain ⟨api, rfl⟩ := clientWrite_eq h
    rfl
  update h _ := by
    obtain ⟨api, rfl⟩ := clientWrite_eq h
    rfl
  frameAt _ _ := trivial
  addFinalizer _ _ := trivial
  removeFinalizer _ _ := trivial
  answer _ := trivial
  cache _ _ := trivial

/-- A pass leaves the informer's copy as it found it. -/
theorem cache_Reconcile {cl cl' : Cluster ω} (hinv : Inv cl) {cfg : Config ω}
    {r : Except ApiError Bool} (h : SspController.Reconcile cfg cl = (cl', r)) :
    cl'.cache = cl.cache :=
  cache_passRule.Reconcile hinv h

/-! ## Views of the SSP -/

/-- A view of the SSP that the controller's writes keep: the finalizer helpers and status
    changes leave it, and an update keeps it when the written object has the stored one's
    view. -/
structure WriteStable (f : SSPObject → β) : Prop where
  addFinalizer : ∀ o finalizer, f (AddFinalizer o finalizer) = f o
  removeFinalizer : ∀ o finalizer, f (RemoveFinalizer o finalizer) = f o
  status : ∀ (o : SSPObject) (status : SSPStatus), f { o with status := status } = f o
  update : ∀ {cur inst v}, applyUpdate cur inst = .ok v → f inst = f cur → f v = f cur

/-- The server's SSP after, if any, has the view of the server's SSP before. -/
def KeepsView (f : SSPObject → β) (cl cl' : Cluster ω) : Prop :=
  ∀ s' ∈ cl'.api.stored, ∃ s ∈ cl.api.stored, f s'.val = f s.val

/-- The server's SSP at the object's version, if there is one, has the object's view. -/
def ViewAt (f : SSPObject → β) (cl : Cluster ω) (obj : Obj SSPObject) : Prop :=
  ∀ s ∈ cl.api.stored, s.version = obj.version → f s.val = f obj.val

variable {f : SSPObject → β}

section Keeps

variable {cl₁ cl₂ cl₃ : Cluster ω}

theorem KeepsView.refl (f : SSPObject → β) (cl : Cluster ω) : KeepsView f cl cl :=
  fun s hs => ⟨s, hs, rfl⟩

theorem KeepsView.trans (h₁₂ : KeepsView f cl₁ cl₂) (h₂₃ : KeepsView f cl₂ cl₃) :
    KeepsView f cl₁ cl₃ := by
  intro s₃ hs₃
  obtain ⟨s₂, hs₂, hview₃⟩ := h₂₃ s₃ hs₃
  obtain ⟨s₁, hs₁, hview₂⟩ := h₁₂ s₂ hs₂
  exact ⟨s₁, hs₁, hview₃.trans hview₂⟩

/-- Nothing that leaves the server alone changes a view. -/
theorem keepsView_of_api (hapi : cl₂.api = cl₁.api) : KeepsView f cl₁ cl₂ := by
  intro s hs
  rw [hapi] at hs
  exact ⟨s, hs, rfl⟩

end Keeps

section ViewAt

variable {cl cl' : Cluster ω} {obj : Obj SSPObject}

theorem ViewAt.map {g : SSPObject → SSPObject} (hat : ViewAt f cl obj)
    (hg : f (g obj.val) = f obj.val) : ViewAt f cl (obj.map g) := by
  intro s hs hversion
  rw [Obj.map_val, hg]
  exact hat s hs hversion

theorem ViewAt.frame (hat : ViewAt f cl obj) (hapi : cl'.api = cl.api) : ViewAt f cl' obj := by
  intro s hs hversion
  rw [hapi] at hs
  exact hat s hs hversion

/-- The object the server holds alone has its view. -/
theorem viewAt_of_stored (hstored : ∀ s ∈ cl.api.stored, s = obj) : ViewAt f cl obj := by
  intro s hs _
  rw [hstored s hs]

/-- Under `Inv`, the informer's copy has the view of the server's SSP at its version: it is
    that SSP. -/
theorem viewAt_of_cache (hinv : Inv cl) {c : Obj SSPObject} (hcache : cl.cache = some c) :
    ViewAt f cl c := by
  intro s hs hversion
  rw [hinv.coherent.eq_of_version c hcache s hs hversion.symm]

/-- After a status write that succeeds the server holds its answer alone. -/
theorem viewAt_clientStatusUpdate {resp : Obj SSPObject}
    (h : clientStatusUpdate obj cl = (cl', .ok resp)) : ViewAt f cl' resp := by
  obtain ⟨api, cur, -, rfl, -, -, -, hkept⟩ := clientStatusUpdate_eq_ok h
  exact viewAt_of_stored fun s hs => Option.mem_unique hs hkept

end ViewAt

section Writes

variable (hf : WriteStable f)
include hf

variable {obj resp : Obj SSPObject} {cl cl' : Cluster ω} {r : Except ApiError (Obj SSPObject)}

/-- A status write keeps every stable view. -/
theorem keepsView_clientStatusUpdate (h : clientStatusUpdate obj cl = (cl', r)) :
    KeepsView f cl cl' := by
  rcases r with e | resp
  · rw [clientWrite_eq_error h]
    exact .refl f cl
  obtain ⟨api, cur, -, rfl, hcur, -, hval, hkept⟩ := clientStatusUpdate_eq_ok h
  intro s hs
  rw [Option.mem_unique hs hkept]
  exact ⟨cur, hcur, by rw [hval, hf.status]⟩

/-- An update keeps a stable view when the written object has the view of the server's SSP
    at its version. -/
theorem keepsView_clientUpdate (h : clientUpdate obj cl = (cl', r)) (hat : ViewAt f cl obj) :
    KeepsView f cl cl' := by
  rcases r with e | resp
  · rw [clientWrite_eq_error h]
    exact .refl f cl
  obtain ⟨api, hwrite, rfl⟩ := clientWrite_eq_ok h
  obtain ⟨cur, hcur, hversion, happly, -⟩ := Cell.write_eq_ok hwrite
  intro s hs
  rw [Cell.eq_of_mem_write hwrite s hs]
  exact ⟨cur, hcur, hf.update happly (hat cur hcur hversion).symm⟩

/-- A stable view is a rule of the passes: objects with the view of the server's SSP at
    their version may be written. -/
theorem WriteStable.passRule : PassRule (ω := ω) (KeepsView f) (ViewAt f) where
  refl := KeepsView.refl f
  trans := KeepsView.trans
  frame hapi _ := keepsView_of_api hapi
  statusUpdate := keepsView_clientStatusUpdate hf
  update := keepsView_clientUpdate hf
  frameAt := ViewAt.frame
  addFinalizer finalizer hat := hat.map (hf.addFinalizer _ finalizer)
  removeFinalizer finalizer hat := hat.map (hf.removeFinalizer _ finalizer)
  answer := viewAt_clientStatusUpdate
  cache hinv hcache := viewAt_of_cache hinv hcache

/-- A pass keeps every stable view of the SSP the server holds. -/
theorem keepsView_Reconcile {cl cl' : Cluster ω} (hinv : Inv cl) {cfg : Config ω}
    {r : Except ApiError Bool} (h : SspController.Reconcile cfg cl = (cl', r)) :
    KeepsView f cl cl' :=
  hf.passRule.Reconcile hinv h

end Writes

end SspOperator.Controllers
