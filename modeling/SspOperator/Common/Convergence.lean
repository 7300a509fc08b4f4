import SspOperator.Common.Resource

/-
  Convergence of `common.CreateOrUpdate`.

  A call that creates or updates an object stores what `mutateFn` made of the found object.
  The next call of the same reconcile function finds that object settled (`Settled`) when
  the update function settles the desired objects (`SettlingUpdate`): it keeps what the
  metadata steps wrote, holds the desired labels and annotations, and making it again on
  what it made changes nothing, for every desired object between the one it was given and
  what it made. Those are the desired objects of the next call: a reconcile function that
  keeps its object between calls starts from the object the last call left, whose maps the
  call may have shared with the found object (`shareMaps`). Where the next call makes the
  update function, the first call made it too (`AlwaysCallUpdateFunc`, or a kind the cache
  never holds); otherwise the version the first call wrote is in the cache and the next
  call skips it. So the next call returns `OperationResultNone` and writes nothing.

  A call that deletes an object whose immutable spec changed leaves its key empty: the next
  call creates the object, and the one after that finds it settled.

  The update functions that set the rest of the object idempotently settle every desired
  object (`bodyUpdateFunc_settles`); the operands' own update functions are shown to settle
  in their modules.
-/

namespace SspOperator.Common

variable {σ : Type}

namespace ReconcileBuilder

variable (r : ReconcileBuilder σ)

/-! ## The inversion of a write -/

section inversion

variable [DecidableEq σ]

/-- What `createOrUpdateWithImmutableSpec` can do: create the mutated object where its key
    is free, and otherwise leave, delete or update the mutated found object. -/
theorem createOrUpdate_cases {kind : String} {cache : VersionCache} {store : Store σ}
    {resource obj : ClientObject σ} {w : WriteResult σ}
    (h : r.createOrUpdateWithImmutableSpec kind cache store resource obj = .ok w) :
    ∃ g out, r.mutate kind cache obj.objectMeta.key resource g = .ok out ∧ w.resource = out.1 ∧
      ((store.get obj.objectMeta.key = none ∧ g = obj ∧ w.res = .created ∧
          store.create out.2 = .ok (w.store, w.found)) ∨
        (store.get obj.objectMeta.key = some g ∧
          ((DeepEqual g out.2 = true ∧ w.res = .none ∧ w.store = store) ∨
            (DeepEqual g out.2 = false ∧ (r.immutableSpec && !r.sameSpec g out.2) = true ∧
              w.res = .deleted ∧ w.found = out.2 ∧ store.delete out.2 = .ok w.store) ∨
            (DeepEqual g out.2 = false ∧ (r.immutableSpec && !r.sameSpec g out.2) = false ∧
              w.res = .updated ∧ store.update out.2 = .ok (w.store, w.found))))) := by
  unfold createOrUpdateWithImmutableSpec at h
  dsimp only at h
  cases hget : store.get obj.objectMeta.key with
  | none =>
      -- the key is free: create
      simp only [hget] at h
      cases hmut : r.mutate kind cache obj.objectMeta.key resource obj with
      | error err => simp [hmut] at h
      | ok out =>
          cases hcreate : store.create out.2 with
          | error err => simp [hmut, hcreate] at h
          | ok c =>
              simp only [hmut, hcreate, mapError_ok, except_ok_bind, except_pure,
                Except.ok.injEq] at h
              subst h
              exact ⟨obj, out, hmut, rfl, .inl ⟨rfl, rfl, rfl, hcreate⟩⟩
  | some g =>
      simp only [hget] at h
      cases hmut : r.mutate kind cache obj.objectMeta.key resource g with
      | error err => simp [hmut] at h
      | ok out =>
          simp only [hmut, mapError_ok, except_ok_bind] at h
          by_cases heq : DeepEqual g out.2 = true
          · -- unchanged
            simp only [heq, if_true, except_pure, Except.ok.injEq] at h
            subst h
            exact ⟨g, out, hmut, rfl, .inr ⟨rfl, .inl ⟨heq, rfl, rfl⟩⟩⟩
          · have heq' : DeepEqual g out.2 = false := by simpa using heq
            simp only [heq', Bool.false_eq_true, if_false] at h
            by_cases himm : (r.immutableSpec && !r.sameSpec g out.2) = true
            · -- the immutable spec changed: delete
              simp only [himm, if_true] at h
              cases hdel : store.delete out.2 with
              | error err => simp [hdel] at h
              | ok s' =>
                  simp only [hdel, mapError_ok, except_ok_bind, except_pure, Except.ok.injEq] at h
                  subst h
                  exact ⟨g, out, hmut, rfl, .inr ⟨rfl, .inr (.inl ⟨heq', himm, rfl, rfl, hdel⟩)⟩⟩
            · -- update
              have himm' : (r.immutableSpec && !r.sameSpec g out.2) = false := by simpa using himm
              simp only [himm', Bool.false_eq_true, if_false] at h
              cases hupd : store.update out.2 with
              | error err => simp [hupd] at h
              | ok c =>
                  simp only [hupd, mapError_ok, except_ok_bind, except_pure, Except.ok.injEq] at h
                  subst h
                  exact ⟨g, out, hmut, rfl, .inr ⟨rfl, .inr (.inr ⟨heq', himm', rfl, hupd⟩)⟩⟩

theorem DeepEqual_self (a : ClientObject σ) : DeepEqual a a = true := by
  simp [DeepEqual]

end inversion

/-- Settledness reads the builder's options and update function, not its object. -/
theorem settled_with_resource {kind : String} {cache : VersionCache} {e g : ClientObject σ}
    (d : ClientObject σ) (hs : r.Settled kind cache e g) :
    ({ r with resource := d }).Settled kind cache e g :=
  ⟨hs.live, hs.owners, hs.labels, hs.annotations, hs.update⟩

/-- The desired object of the next call prepares to the same object: it is the one the
    reconcile function built, or the one the last call left, which is prepared already. -/
theorem prepare_of_mem {requestInstance : SSP} {e d : ClientObject σ}
    (hprep : r.prepare requestInstance = .ok e) (hd : d ∈ [r.resource, e]) :
    { r with resource := d }.prepare requestInstance = .ok e := by
  simp only [List.mem_cons, List.not_mem_nil, or_false] at hd
  rcases hd with rfl | rfl
  · exact hprep
  · exact r.prepare_prepare hprep

end ReconcileBuilder

/-! ## Update functions that settle -/

/-- An update function after which the next call finds the object settled, for the desired
    objects that `D` admits. It keeps the key, the deletion and the owner references of the
    object it is given and leaves alone the fields a write sets; it keeps the labels and
    annotations of an admitted desired object; and on what it made, for a desired object
    between that one and what it made, the desired object is admitted and making the update
    function again after the metadata steps changes nothing. -/
structure SettlingUpdate (U : ResourceUpdateFunc σ) (D : ClientObject σ → Prop) : Prop where
  key : ∀ e m, (U e m).objectMeta.key = m.objectMeta.key
  deletion : ∀ e m, (U e m).objectMeta.deletionTimestamp = m.objectMeta.deletionTimestamp
  owners : ∀ e m, (U e m).objectMeta.ownerReferences = m.objectMeta.ownerReferences
  persist : ∀ e m uid revision generation,
    U e (Store.persist m uid revision generation) = Store.persist (U e m) uid revision generation
  keeps : ∀ e g, D e → e.objectMeta.labels.Subset (U e (mergeMeta e g)).objectMeta.labels ∧
    e.objectMeta.annotations.Subset (U e (mergeMeta e g)).objectMeta.annotations
  stable : ∀ e g e', D e → Between e e' (U e (mergeMeta e g)) →
    D e' ∧ U e' (mergeMeta e' (U e (mergeMeta e g))) = mergeMeta e' (U e (mergeMeta e g))

/-- An update function that sets the rest of the object, where setting it twice is setting it
    once, settles every desired object: `found.Spec = expected.Spec` and the other cases of
    `defaultUpdateFunc`. -/
theorem bodyUpdateFunc_settles {F : σ → σ → σ} (hF : ∀ d x, F d (F d x) = F d x) :
    SettlingUpdate (bodyUpdateFunc F) fun _ => True where
  key _ _ := rfl
  deletion _ _ := rfl
  owners _ _ := rfl
  persist _ _ _ _ _ := rfl
  keeps e g _ := ⟨subset_updateMap _ _, subset_updateMap _ _⟩
  stable e g e' _ hbetween := by
    refine ⟨trivial, ?_⟩
    -- the desired rest of the object is `e`'s, so the rest is set to what it is
    have hbody : e'.body = e.body := by rw [hbetween.eq]
    simp only [bodyUpdateFunc, mergeMeta_body, hbody, hF]
    rfl

/-- The spec copies of `defaultUpdateFunc` settle every desired object. -/
theorem specUpdateFunc_settles :
    SettlingUpdate (specUpdateFunc : ResourceUpdateFunc σ) fun _ => True :=
  bodyUpdateFunc_settles fun _ _ => rfl

theorem mergeMeta_persist (e m : ClientObject σ) (uid : String) (revision generation : Nat) :
    mergeMeta e (Store.persist m uid revision generation) =
      Store.persist (mergeMeta e m) uid revision generation := rfl

namespace ReconcileBuilder

variable (r : ReconcileBuilder σ)

/-- Whether a call makes the update function on the found object `g`. -/
def callsUpdate (kind : String) (cache : VersionCache) (g : ClientObject σ) : Bool :=
  r.options.alwaysCallUpdateFunc || !cache.Contains kind g.objectMeta

/-- What a call makes of the live found object `g`: the metadata steps, then the update
    function where the call makes it. -/
def updated (kind : String) (cache : VersionCache) (e g : ClientObject σ) : ClientObject σ :=
  if r.callsUpdate kind cache g then r.updateFunc e (mergeMeta e g) else mergeMeta e g

/-- `mutateFn` on a live found object: the desired object with the maps it shares, and what
    the call makes of the found object. -/
theorem mutateFn_of_live {kind : String} {cache : VersionCache} {e g : ClientObject σ}
    (hlive : g.objectMeta.deletionTimestamp = none) :
    r.mutateFn kind cache e g = (shareMaps e g (r.updated kind cache e g), r.updated kind cache e g) := by
  unfold mutateFn updated callsUpdate
  simp only [hlive, Option.isSome_none, Bool.false_eq_true, if_false]
  rw [Contains_mergeMeta]

/-- Where the next call makes the update function on the object the last one wrote, the
    last one made it too: either it always does, or the kind is never cached. -/
theorem callsUpdate_of_next {kind : String} {cache : VersionCache} {g f : ClientObject σ}
    (hrv : f.objectMeta.resourceVersion ≠ "")
    (hnext : r.callsUpdate kind (cache.Add kind f.objectMeta) f = true) :
    r.callsUpdate kind cache g = true := by
  unfold callsUpdate at hnext ⊢
  by_cases hkind : kind = ""
  · subst hkind
    simp [VersionCache.Contains_empty_kind]
  · rw [VersionCache.Contains_Add_self cache f.objectMeta hkind hrv] at hnext
    simp only [Bool.not_true, Bool.or_false] at hnext
    simp [hnext]

section settling

variable {D : ClientObject σ → Prop} (hU : SettlingUpdate r.updateFunc D)
include hU

theorem updated_key (kind : String) (cache : VersionCache) (e g : ClientObject σ) :
    (r.updated kind cache e g).objectMeta.key = g.objectMeta.key := by
  unfold updated
  split
  · rw [hU.key]
    rfl
  · rfl

theorem updated_live {kind : String} {cache : VersionCache} {e g : ClientObject σ}
    (hlive : g.objectMeta.deletionTimestamp = none) :
    (r.updated kind cache e g).objectMeta.deletionTimestamp = none := by
  unfold updated
  split
  · rw [hU.deletion]
    exact hlive
  · exact hlive

theorem updated_owners (kind : String) (cache : VersionCache) (e g : ClientObject σ) :
    (r.updated kind cache e g).objectMeta.ownerReferences = e.objectMeta.ownerReferences := by
  unfold updated
  split
  · rw [hU.owners]
    rfl
  · rfl

/-- What a call makes of the found object holds the labels and annotations of an admitted
    desired object. -/
theorem between_updated {kind : String} {cache : VersionCache} {e g : ClientObject σ}
    (hD : D e) : Between e e (r.updated kind cache e g) := by
  refine ⟨rfl, ⟨StringMap.Subset.refl _, ?_⟩, ⟨StringMap.Subset.refl _, ?_⟩⟩ <;>
    unfold updated <;> split
  · exact (hU.keeps e g hD).1
  · exact subset_updateMap _ _
  · exact (hU.keeps e g hD).2
  · exact subset_updateMap _ _

/-- The desired object as the call leaves it lies between the desired object and what the
    call made: a map it shares with the found object is the map the call made. -/
theorem between_shareMaps {kind : String} {cache : VersionCache} {e g : ClientObject σ}
    (hD : D e) : Between e (shareMaps e g (r.updated kind cache e g)) (r.updated kind cache e g) := by
  have hupdated : Between e e (r.updated kind cache e g) := r.between_updated hU hD
  obtain ⟨-, ⟨-, hl⟩, ⟨-, ha⟩⟩ := hupdated
  refine ⟨rfl, ?_, ?_⟩ <;> unfold shareMaps sharedMap <;> dsimp only <;> split
  · exact ⟨hl, StringMap.Subset.refl _⟩
  · exact ⟨StringMap.Subset.refl _, hl⟩
  · exact ⟨ha, StringMap.Subset.refl _⟩
  · exact ⟨StringMap.Subset.refl _, ha⟩

/-- After the call wrote what it made of `g`, a desired object between the desired one and
    what the call made finds the written object settled. -/
theorem settled_of_between {kind : String} {cache : VersionCache} {e e' g : ClientObject σ}
    (hlive : g.objectMeta.deletionTimestamp = none) (hD : D e)
    (hbetween : Between e e' (r.updated kind cache e g)) (uid : String) (revision generation : Nat) :
    r.Settled kind (cache.Add kind (Store.persist (r.updated kind cache e g) uid revision
      generation).objectMeta) e' (Store.persist (r.updated kind cache e g) uid revision generation) := by
  refine ⟨r.updated_live hU hlive, ?_, hbetween.labels.2, hbetween.annotations.2, ?_⟩
  · show (r.updated kind cache e g).objectMeta.ownerReferences = e'.objectMeta.ownerReferences
    rw [r.updated_owners hU, hbetween.eq]
  · intro hnext
    -- the next call makes the update function, so this one made it too
    have hcall : r.callsUpdate kind cache g = true :=
      r.callsUpdate_of_next (Store.persist_resourceVersion_ne _ _ _ _) hnext
    have hbetween' : Between e e' (r.updateFunc e (mergeMeta e g)) := by
      have h := hbetween
      unfold updated at h
      rwa [if_pos hcall] at h
    unfold updated
    rw [if_pos hcall, mergeMeta_persist, hU.persist, (hU.stable e g e' hD hbetween').2]

/-- The desired objects of the next call, the one the reconcile function built and the one
    this call left, prepare to objects between the prepared one and what the call made,
    which `D` admits. -/
theorem next_prepare {requestInstance : SSP} {kind : String} {cache : VersionCache}
    {e g d : ClientObject σ} (hprep : r.prepare requestInstance = .ok e) (hD : D e)
    (hd : d ∈ [r.resource, shareMaps e g (r.updated kind cache e g)]) :
    ∃ e₂, { r with resource := d }.prepare requestInstance = .ok e₂ ∧
      Between e e₂ (r.updated kind cache e g) ∧ D e₂ := by
  by_cases hcall : r.callsUpdate kind cache g = true
  · -- the update function ran, and `stable` admits what lies between
    have hD₂ : ∀ e₂, Between e e₂ (r.updated kind cache e g) → D e₂ := by
      intro e₂ h
      unfold updated at h
      rw [if_pos hcall] at h
      exact (hU.stable e g e₂ hD h).1
    simp only [List.mem_cons, List.not_mem_nil, or_false] at hd
    rcases hd with rfl | rfl
    · exact ⟨e, hprep, r.between_updated hU hD, hD⟩
    · obtain ⟨e₂, hprep₂, hbetween⟩ := r.prepare_between hprep (r.between_shareMaps hU hD)
      exact ⟨e₂, hprep₂, hbetween, hD₂ e₂ hbetween⟩
  · -- the metadata steps alone share nothing new: the desired object is the prepared one
    have hshare : shareMaps e g (r.updated kind cache e g) = e := by
      unfold updated
      rw [if_neg hcall]
      exact shareMaps_of_maps rfl rfl
    rw [hshare] at hd
    exact ⟨e, r.prepare_of_mem hprep hd, r.between_updated hU hD, hD⟩

end settling

variable [DecidableEq σ]

/-- A found object being deleted is left as it is, which `DeepEqual` finds unchanged: a call
    that writes or deletes found a live object. -/
theorem live_of_changed {kind : String} {cache : VersionCache} {e g : ClientObject σ}
    (h : DeepEqual g (r.mutateFn kind cache e g).2 = false) :
    g.objectMeta.deletionTimestamp = none := by
  cases hdel : g.objectMeta.deletionTimestamp with
  | none => rfl
  | some t =>
      have hsame : (r.mutateFn kind cache e g).2 = g := by simp [mutateFn, hdel]
      rw [hsame, DeepEqual_self] at h
      cases h

section settling

variable [Inhabited σ] {D : ClientObject σ → Prop} (hU : SettlingUpdate r.updateFunc D)
include hU

/-- After a create or an update the store holds, under the key of each desired object of
    the next call, an object that is settled for it. -/
theorem settled_after_write {ty : ObjectType} {requestInstance : SSP}
    (hD : ∀ e, r.prepare requestInstance = .ok e → D e) {store : Store σ}
    {cache : VersionCache} {out : ReconcileOutcome σ}
    (h : r.Reconcile ty requestInstance store cache = .ok out)
    (hres : out.result.operationResult = .created ∨ out.result.operationResult = .updated) :
    ∀ d ∈ [r.resource, out.resource], ∃ e₂ g,
      { r with resource := d }.prepare requestInstance = .ok e₂ ∧
      out.store.get e₂.objectMeta.key = some g ∧ r.Settled ty.kind out.cache e₂ g ∧ D e₂ := by
  obtain ⟨e, w, hprep, hw, rfl⟩ := r.Reconcile_eq_ok.mp h
  simp only [finish_operationResult] at hres
  obtain ⟨g₀, out', hmut, hresource, hcases⟩ := r.createOrUpdate_cases hw
  obtain ⟨hout, hkey⟩ := r.mutate_eq_ok.mp hmut
  have hkey' : out'.2.objectMeta.key = e.objectMeta.key := hkey
  -- the found object was live, and the store holds the persisted mutation of it
  have hwritten : g₀.objectMeta.deletionTimestamp = none ∧ ∃ uid revision generation,
      w.found = Store.persist out'.2 uid revision generation ∧
      w.store.get e.objectMeta.key = some w.found := by
    rcases hcases with ⟨-, rfl, -, hcreate⟩ |
      ⟨-, ⟨-, hnone, -⟩ | ⟨-, -, hdel, -, -⟩ | ⟨heq, -, -, hupd⟩⟩
    · obtain ⟨-, hfound, hstored⟩ := Store.create_eq_ok hcreate
      exact ⟨rfl, _, _, _, hfound, hkey' ▸ hstored⟩
    · rw [hnone] at hres
      simp at hres
    · rw [hdel] at hres
      simp at hres
    · obtain ⟨⟨uid, generation, hfound⟩, hstored⟩ := Store.update_eq_ok hupd
      exact ⟨r.live_of_changed (hout ▸ heq), uid, _, generation, hfound, hkey' ▸ hstored⟩
  obtain ⟨hlive, uid, revision, generation, hfound, hstored⟩ := hwritten
  rw [r.mutateFn_of_live hlive] at hout
  subst hout
  have hcache : (finish ty.kind cache w).cache = cache.Add ty.kind w.found.objectMeta := by
    apply finish_cache_of_live
    · rcases hres with hres | hres <;> rw [hres] <;> decide
    · rw [hfound]
      exact r.updated_live hU hlive
  intro d hd
  have hd' : d ∈ [r.resource, shareMaps e g₀ (r.updated ty.kind cache e g₀)] := by
    simpa [hresource] using hd
  obtain ⟨e₂, hprep₂, hbetween, hD₂⟩ := r.next_prepare hU hprep (hD e hprep) hd'
  have hkey₂ : e₂.objectMeta.key = e.objectMeta.key := by
    rw [hbetween.eq]
    rfl
  refine ⟨e₂, w.found, hprep₂, by simpa [hkey₂] using hstored, ?_, hD₂⟩
  rw [hcache, hfound]
  exact r.settled_of_between hU hlive (hD e hprep) hbetween uid revision generation

/-- After a delete the key of each desired object of the next call is free. -/
theorem absent_after_delete {ty : ObjectType} {requestInstance : SSP}
    (hD : ∀ e, r.prepare requestInstance = .ok e → D e) {store : Store σ}
    {cache : VersionCache} {out : ReconcileOutcome σ}
    (h : r.Reconcile ty requestInstance store cache = .ok out)
    (hres : out.result.operationResult = .deleted) :
    ∀ d ∈ [r.resource, out.resource], ∃ e₂,
      { r with resource := d }.prepare requestInstance = .ok e₂ ∧
      out.store.get e₂.objectMeta.key = none ∧ D e₂ := by
  obtain ⟨e, w, hprep, hw, rfl⟩ := r.Reconcile_eq_ok.mp h
  simp only [finish_operationResult] at hres
  obtain ⟨g₀, out', hmut, hresource, hcases⟩ := r.createOrUpdate_cases hw
  obtain ⟨hout, hkey⟩ := r.mutate_eq_ok.mp hmut
  have hkey' : out'.2.objectMeta.key = e.objectMeta.key := hkey
  rcases hcases with ⟨-, -, hcreated, -⟩ |
    ⟨-, ⟨-, hnone, -⟩ | ⟨hne, -, -, -, hdel⟩ | ⟨-, -, hupdated, -⟩⟩
  · rw [hcreated] at hres
    simp at hres
  · rw [hnone] at hres
    simp at hres
  · have hlive := r.live_of_changed (hout ▸ hne)
    rw [r.mutateFn_of_live hlive] at hout
    subst hout
    intro d hd
    have hd' : d ∈ [r.resource, shareMaps e g₀ (r.updated ty.kind cache e g₀)] := by
      simpa [hresource] using hd
    obtain ⟨e₂, hprep₂, hbetween, hD₂⟩ := r.next_prepare hU hprep (hD e hprep) hd'
    have hkey₂ : e₂.objectMeta.key = e.objectMeta.key := by
      rw [hbetween.eq]
      rfl
    refine ⟨e₂, hprep₂, ?_, hD₂⟩
    rw [finish_store, hkey₂, ← hkey']
    exact Store.delete_eq_ok hdel
  · rw [hupdated] at hres
    simp at hres

/-- Where the key is free, the call creates the object. -/
theorem created_of_absent {ty : ObjectType} {requestInstance : SSP} {store : Store σ}
    {cache : VersionCache} {e : ClientObject σ} (hprep : r.prepare requestInstance = .ok e)
    (hget : store.get e.objectMeta.key = none) :
    ∃ out, r.Reconcile ty requestInstance store cache = .ok out ∧
      out.result.operationResult = .created := by
  have hkey : (r.mutateFn ty.kind cache e (emptyResource e)).2.objectMeta.key =
      (emptyResource e).objectMeta.key := by
    rw [r.mutateFn_of_live rfl]
    exact r.updated_key hU _ _ _ _
  have hmut : r.mutate ty.kind cache (emptyResource e).objectMeta.key e (emptyResource e) =
      .ok (r.mutateFn ty.kind cache e (emptyResource e)) :=
    (r.mutate_eq_ok).mpr ⟨rfl, hkey⟩
  have hfree : store.get (r.mutateFn ty.kind cache e (emptyResource e)).2.objectMeta.key = none := by
    rw [hkey]
    exact hget
  obtain ⟨c, hcreate⟩ := Store.create_ok_of_get hfree
  have hw : r.createOrUpdateWithImmutableSpec ty.kind cache store e (emptyResource e) =
      .ok { res := .created, existing := none, resource := (r.mutateFn ty.kind cache e
        (emptyResource e)).1, found := c.2, store := c.1 } := by
    unfold createOrUpdateWithImmutableSpec
    simp only [show (emptyResource e).objectMeta.key = e.objectMeta.key from rfl, hget]
    simp only [show (emptyResource e).objectMeta.key = e.objectMeta.key from rfl] at hmut
    simp only [hmut, hcreate, mapError_ok, except_ok_bind, except_pure]
  exact ⟨_, (r.Reconcile_eq_ok).mpr ⟨e, _, hprep, hw, rfl⟩, by simp⟩

end settling

variable [Inhabited σ]

/-- A ConfigMap of the SSP's namespace, written with the default update function. -/
def sampleSSP : SSP :=
  { objectMeta := { name := "ssp-sample", ns := "kubevirt", uid := "ssp-uid" }
    spec := { commonTemplates := { ns := "openshift" } } }

def configMapType : ObjectType := { typeName := "*v1.ConfigMap", kind := "ConfigMap" }

def sampleConfigMapBuilder : ReconcileBuilder ConfigMapData :=
  { resource := { objectMeta := { name := "virt-template-validator", ns := "kubevirt" }
                  body := { data := Finmap.singleton "tls-config.json" "{}" } }
    isClusterResource := false, addLabels := true, operandName := "template-validator"
    operandComponent := "templating", updateFunc := specUpdateFunc }

/-- Reconciliation converges when the update function settles the desired objects `D`
    admits, among them the prepared one: after a create or an update, calling the same
    reconcile function again on the store and the version cache the call left returns
    `OperationResultNone` and writes nothing; after a delete (the immutable spec changed)
    the next call creates the object and the one after that returns `OperationResultNone`
    and writes nothing. The desired object of a next call is the one the reconcile function
    built, or the one the last call left. -/
theorem reconcile_converges {D : ClientObject σ → Prop} (hU : SettlingUpdate r.updateFunc D)
    {ty : ObjectType} {requestInstance : SSP} (hD : ∀ e, r.prepare requestInstance = .ok e → D e)
    {store : Store σ} {cache : VersionCache} {out : ReconcileOutcome σ}
    (h : r.Reconcile ty requestInstance store cache = .ok out) :
    ((out.result.operationResult = .created ∨ out.result.operationResult = .updated) →
      ∀ d ∈ [r.resource, out.resource], ∃ out₂,
        { r with resource := d }.Reconcile ty requestInstance out.store out.cache = .ok out₂ ∧
        out₂.result.operationResult = .none ∧ out₂.store = out.store) ∧
    (out.result.operationResult = .deleted →
      ∀ d ∈ [r.resource, out.resource], ∃ out₂,
        { r with resource := d }.Reconcile ty requestInstance out.store out.cache = .ok out₂ ∧
        out₂.result.operationResult = .created ∧
        ∀ d₂ ∈ [d, out₂.resource], ∃ out₃,
          { r with resource := d₂ }.Reconcile ty requestInstance out₂.store out₂.cache =
            .ok out₃ ∧
          out₃.result.operationResult = .none ∧ out₃.store = out₂.store) := by
  constructor
  · -- the written object is settled for the next call
    intro hres d hd
    obtain ⟨e₂, g, hprep₂, hget, hs, -⟩ := r.settled_after_write hU hD h hres d hd
    obtain ⟨out₂, h₂, hnone, hstore, -⟩ :=
      ({ r with resource := d }).Reconcile_of_settled hprep₂ hget (r.settled_with_resource d hs)
    exact ⟨out₂, h₂, hnone, hstore⟩
  · -- the next call creates the object, and the written object is settled for the third
    intro hres d hd
    obtain ⟨e₂, hprep₂, hget, hD₂⟩ := r.absent_after_delete hU hD h hres d hd
    obtain ⟨out₂, h₂, hcreated⟩ := ({ r with resource := d }).created_of_absent hU hprep₂ hget
    refine ⟨out₂, h₂, hcreated, ?_⟩
    intro d₂ hd₂
    have hD' : ∀ e, ({ r with resource := d }).prepare requestInstance = .ok e → D e := by
      intro e he
      rw [hprep₂] at he
      cases he
      exact hD₂
    obtain ⟨e₃, g, hprep₃, hget₃, hs, -⟩ :=
      ({ r with resource := d }).settled_after_write hU hD' h₂ (.inl hcreated) d₂ hd₂
    obtain ⟨out₃, h₃, hnone, hstore, -⟩ :=
      ({ r with resource := d₂ }).Reconcile_of_settled hprep₃ hget₃
        (({ r with resource := d }).settled_with_resource d₂ hs)
    exact ⟨out₃, h₃, hnone, hstore⟩

/-- The first call creates the ConfigMap in an empty cluster, and the next call changes
    nothing. -/
theorem configMap_reconcile_converges :
    ∃ out, sampleConfigMapBuilder.Reconcile configMapType sampleSSP (Store.empty false)
        VersionCache.empty = .ok out ∧
      out.result.operationResult = .created ∧
      ∀ d ∈ [sampleConfigMapBuilder.resource, out.resource], ∃ out₂,
        { sampleConfigMapBuilder with resource := d }.Reconcile configMapType sampleSSP out.store
          out.cache = .ok out₂ ∧
        out₂.result.operationResult = .none ∧ out₂.store = out.store := by
  obtain ⟨out, h⟩ : ∃ out, sampleConfigMapBuilder.Reconcile configMapType sampleSSP
      (Store.empty false) VersionCache.empty = .ok out := ⟨_, rfl⟩
  have hcreated : out.result.operationResult = .created := by
    have hmap : (sampleConfigMapBuilder.Reconcile configMapType sampleSSP (Store.empty false)
        VersionCache.empty).map (·.result.operationResult) = .ok .created := rfl
    rw [h] at hmap
    simpa [Except.map] using hmap
  exact ⟨out, h, hcreated,
    (reconcile_converges sampleConfigMapBuilder
      specUpdateFunc_settles (fun _ _ => trivial) h).1 (.inl hcreated)⟩

end ReconcileBuilder

end SspOperator.Common
