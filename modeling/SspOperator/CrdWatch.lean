import Mathlib.Data.Finset.Card
import SspOperator.Meta
import SspOperator.Lib.Edge

/-
  The watch of required CRDs (`internal/crd-watch/crd-watch.go`).

  A `CrdWatch` keeps three sets of CRD names: the required ones, the ones that exist, and
  the required ones that are missing. The informer's handlers and `sync` change them one
  name at a time, through `crdAdded` and `crdDeleted`, which decide whether to call a
  handler from the size of the missing set before and after the change. `setupManager`
  sets both handlers to the manager's `cancel`, which restarts the operator.

  A handler is modelled by whether it is set; a call returns the handlers it calls. The
  maps of names are `Finset`s. Go ranges over a map in an order it leaves open; `sync`
  takes the two orders it ranges in as part of its `Listing`, and `Listing.Ranges` says
  they are orders of the two maps. The informer hands a handler either the CRD's
  `*metav1.PartialObjectMetadata` or, for a deletion its watch missed, a
  `cache.DeletedFinalStateUnknown` tombstone; the handlers assert the former.

  What the watch is for (`transitionCalls`): a handler is called when the set of missing
  required CRDs goes from non-empty to empty or back. Proved:
  * `Consistent` (missing = required \ existing) is kept by every change, and `Ready`,
    which adds that the watch of `setupManager` is initialised with both handlers set,
    holds in every state a run from `Init` reaches (`ready_of_reachable`);
  * `Init` calls no handler, an informer event calls `transitionCalls` of its change, and
    a `sync` calls them as if its additions and its deletions were two events
    (`handle_calls`); a sync whose listing adds the last missing CRD and drops another
    calls both handlers, though the missing set is non-empty before and after;
  * a tombstone makes `DeleteFunc` panic, where the CRD's own metadata records the
    deletion (`tombstone_delete_panics`).
-/

namespace SspOperator

/-- `CrdWatch`. A handler is recorded by whether it is set: a nil handler is not called. -/
structure CrdWatch where
  AllCrdsAddedHandler : Bool := false
  SomeCrdRemovedHandler : Bool := false
  requiredCrds : Finset String
  existingCrds : Finset String
  missingCrds : Finset String
  initialized : Bool := false
deriving DecidableEq

namespace CrdWatch

/-- The handlers of a watch. -/
inductive Handler
  | allCrdsAdded
  | someCrdRemoved
deriving DecidableEq, Repr

/-- `New`: every required CRD is missing until a listing or an event adds it. -/
def New (requiredCrds : List String) : CrdWatch :=
  { requiredCrds := requiredCrds.toFinset, existingCrds := ∅
    missingCrds := requiredCrds.toFinset }

/-- `crdAdded`, with the handlers it calls. -/
def crdAdded (c : CrdWatch) (crdName : String) : CrdWatch × List Handler :=
  let missingCountOld := c.missingCrds.card
  let c := { c with existingCrds := insert crdName c.existingCrds
                    missingCrds := c.missingCrds.erase crdName }
  if !c.initialized || !c.AllCrdsAddedHandler then (c, [])
  -- the last required CRD is added
  else if missingCountOld = 1 ∧ c.missingCrds.card = 0 then (c, [.allCrdsAdded])
  else (c, [])

/-- `crdDeleted`, with the handlers it calls. -/
def crdDeleted (c : CrdWatch) (crdName : String) : CrdWatch × List Handler :=
  let c := { c with existingCrds := c.existingCrds.erase crdName }
  if crdName ∉ c.requiredCrds then (c, [])
  else
    let missingCountOld := c.missingCrds.card
    let c := { c with missingCrds := insert crdName c.missingCrds }
    if !c.initialized || !c.SomeCrdRemovedHandler then (c, [])
    -- all CRDs existed and one is removed
    else if missingCountOld = 0 then (c, [.someCrdRemoved])
    else (c, [])

/-- One `List` of the CRDs for `sync`: its result, and the orders in which `sync` then
    ranges over the map of listed names and over `existingCrds`. -/
structure Listing where
  items : Except String (List String)
  newCrdsOrder : List String := []
  existingCrdsOrder : List String := []

/-- `for name := range m` visits each key of `m` once, in the order `order`. -/
def RangeOrder (order : List String) (m : Finset String) : Prop :=
  order.Nodup ∧ order.toFinset = m

instance (order : List String) (m : Finset String) : Decidable (RangeOrder order m) :=
  inferInstanceAs (Decidable (_ ∧ _))

/-- The orders of a successful listing are orders of the maps `sync` ranges over in `c`. -/
def Listing.Ranges (l : Listing) (c : CrdWatch) : Prop :=
  ∀ items, l.items = .ok items →
    RangeOrder l.newCrdsOrder items.toFinset ∧ RangeOrder l.existingCrdsOrder c.existingCrds

/-- `sync`: the listed names that do not exist yet are added, then the existing names that
    are not listed are deleted, each in the order of the range over its map. -/
def sync (c : CrdWatch) (l : Listing) : Except String (CrdWatch × List Handler) :=
  match l.items with
  | .error err => .error ("failed to list CRDs: " ++ err)
  | .ok items =>
    let newCrds := items.toFinset
    -- both lists are collected before `crdAdded` and `crdDeleted` change `existingCrds`
    let addedCrds := l.newCrdsOrder.filter (· ∉ c.existingCrds)
    let deletedCrds := l.existingCrdsOrder.filter (· ∉ newCrds)
    let added := Machine.runOut crdAdded c addedCrds
    let deleted := Machine.runOut crdDeleted added.1 deletedCrds
    .ok (deleted.1, added.2 ++ deleted.2)

/-- `Init`. -/
def Init (c : CrdWatch) (l : Listing) : Except String (CrdWatch × List Handler) :=
  (c.sync l).map fun r => ({ r.1 with initialized := true }, r.2)

/-- `CrdExists`. -/
def CrdExists (c : CrdWatch) (crdName : String) : Except Fault Bool :=
  if !c.initialized then .error (.panic "crd watch not initialized")
  else .ok (decide (crdName ∈ c.existingCrds))

/-- `MissingCrds`, as the set of names its slice holds. -/
def MissingCrds (c : CrdWatch) : Except Fault (Finset String) :=
  if !c.initialized then .error (.panic "crd watch not initialized")
  else .ok c.missingCrds

/-- What the informer hands a handler of CRD events. -/
inductive Notification
  /-- The CRD's `*metav1.PartialObjectMetadata`, by its name. -/
  | partialObjectMetadata (name : String)
  /-- `cache.DeletedFinalStateUnknown`, for a deletion the watch missed: the object's key,
      and the name of its last known metadata, if any. -/
  | deletedFinalStateUnknown (key : String) (obj : Option String)

/-- `obj.(*metav1.PartialObjectMetadata).GetName()`: a type assertion that panics on any
    other dynamic type. -/
def partialObjectMetadataName : Notification → Except Fault String
  | .partialObjectMetadata name => .ok name
  | .deletedFinalStateUnknown _ _ =>
    .error (.panic
      "interface conversion: interface \x7b\x7d is cache.DeletedFinalStateUnknown, not *v1.PartialObjectMetadata")

/-- The `AddFunc` of `Start`. -/
def AddFunc (c : CrdWatch) (obj : Notification) : Except Fault (CrdWatch × List Handler) :=
  (partialObjectMetadataName obj).map c.crdAdded

/-- The `DeleteFunc` of `Start`. -/
def DeleteFunc (c : CrdWatch) (obj : Notification) : Except Fault (CrdWatch × List Handler) :=
  (partialObjectMetadataName obj).map c.crdDeleted

/-- What a started watch handles: informer events, and the `sync` of `Start`, which runs
    once the handlers are registered and so interleaves with their events. -/
inductive Event
  | add (obj : Notification)
  | delete (obj : Notification)
  | sync (l : Listing)

/-- A started watch handling an event. -/
def handle (c : CrdWatch) : Event → Except Fault (CrdWatch × List Handler)
  | .add obj => c.AddFunc obj
  | .delete obj => c.DeleteFunc obj
  | .sync l => (c.sync l).mapError fun err => .error ("failed to sync CRD watch: " ++ err)

/-- The watch after an event. -/
def next (c : CrdWatch) (e : Event) : CrdWatch :=
  match c.handle e with
  | .ok r => r.1
  | .error _ => c

/-- The watch handles the event without failing, and a listing's orders are orders of the
    maps `sync` ranges over. -/
def Handles (c : CrdWatch) (e : Event) : Prop :=
  (∃ r, c.handle e = .ok r) ∧ ∀ l, e = .sync l → l.Ranges c

/-- The watch of `setupManager`, with both handlers set to the manager's `cancel`. -/
def setupWatch (requiredCrds : List String) : CrdWatch :=
  { New requiredCrds with AllCrdsAddedHandler := true, SomeCrdRemovedHandler := true }

/-! ## What a call does -/

variable {c : CrdWatch} {crdName : String}

@[simp] theorem crdAdded_fst (c : CrdWatch) (crdName : String) :
    (c.crdAdded crdName).1 = { c with existingCrds := insert crdName c.existingCrds
                                      missingCrds := c.missingCrds.erase crdName } := by
  unfold crdAdded
  dsimp only
  split_ifs <;> rfl

@[simp] theorem crdDeleted_fst (c : CrdWatch) (crdName : String) :
    (c.crdDeleted crdName).1 =
      { c with existingCrds := c.existingCrds.erase crdName
               missingCrds := if crdName ∈ c.requiredCrds then insert crdName c.missingCrds
                 else c.missingCrds } := by
  unfold crdDeleted
  dsimp only
  by_cases hreq : crdName ∈ c.requiredCrds
  · simp only [hreq, not_true_eq_false, if_false, if_true]
    split_ifs <;> rfl
  · simp only [hreq, not_false_eq_true, if_true, if_false]

/-- No required CRD is missing. -/
def NoneMissing (c : CrdWatch) : Prop := c.missingCrds = ∅

/-- Some required CRD is missing. -/
def SomeMissing (c : CrdWatch) : Prop := c.missingCrds.Nonempty

instance : DecidablePred NoneMissing := fun c => inferInstanceAs (Decidable (c.missingCrds = ∅))

instance : DecidablePred SomeMissing :=
  fun c => inferInstanceAs (Decidable c.missingCrds.Nonempty)

/-- The size test of `crdAdded`: one name was missing and none is. -/
theorem card_one_erase_iff (m : Finset String) (crdName : String) :
    (m.card = 1 ∧ (m.erase crdName).card = 0) ↔ (¬m = ∅ ∧ m.erase crdName = ∅) := by
  rw [Finset.card_eq_zero]
  constructor
  · rintro ⟨hone, hempty⟩
    refine ⟨fun h => ?_, hempty⟩
    simp [h] at hone
  · rintro ⟨hne, hempty⟩
    obtain h | h := Finset.erase_eq_empty_iff m crdName |>.1 hempty
    · exact absurd h hne
    · simp [h]

/-- `crdAdded` calls `AllCrdsAddedHandler` where no CRD is missing any more. -/
theorem crdAdded_snd (c : CrdWatch) (crdName : String) :
    (c.crdAdded crdName).2 = if c.initialized ∧ c.AllCrdsAddedHandler then
      Machine.rise NoneMissing .allCrdsAdded c (c.crdAdded crdName).1 else [] := by
  rw [crdAdded_fst]
  unfold crdAdded
  dsimp only
  by_cases hon : c.initialized ∧ c.AllCrdsAddedHandler
  · obtain ⟨hi, ha⟩ := hon
    have hsize := card_one_erase_iff c.missingCrds crdName
    simp only [hi, ha, Bool.not_true, Bool.or_self, Bool.false_eq_true, if_false, and_self,
      if_true, Machine.rise, NoneMissing]
    -- the size test of the source is the emptiness test
    simp only [hsize]
    split_ifs with h <;> simp [h]
  · have hoff : (!c.initialized || !c.AllCrdsAddedHandler) = true := by
      simpa [Bool.or_eq_true, imp_iff_not_or] using hon
    simp [hoff, hon]

/-- `crdDeleted` calls `SomeCrdRemovedHandler` where a CRD starts to be missing. -/
theorem crdDeleted_snd (c : CrdWatch) (crdName : String) :
    (c.crdDeleted crdName).2 = if c.initialized ∧ c.SomeCrdRemovedHandler then
      Machine.rise SomeMissing .someCrdRemoved c (c.crdDeleted crdName).1 else [] := by
  rw [crdDeleted_fst]
  unfold crdDeleted
  dsimp only
  by_cases hreq : crdName ∈ c.requiredCrds
  · by_cases hon : c.initialized ∧ c.SomeCrdRemovedHandler
    · obtain ⟨hi, hs⟩ := hon
      simp only [hreq, not_true_eq_false, if_false, if_true, hi, hs, Bool.not_true, Bool.or_self,
        Bool.false_eq_true, and_self, Machine.rise, SomeMissing, Finset.insert_nonempty,
        and_true, Finset.card_eq_zero, Finset.not_nonempty_iff_eq_empty]
      split_ifs <;> rfl
    · have hoff : (!c.initialized || !c.SomeCrdRemovedHandler) = true := by
        simpa [Bool.or_eq_true, imp_iff_not_or] using hon
      simp [hreq, hoff, hon]
  · -- a CRD that is not required leaves the missing set as it is
    simp [hreq, Machine.rise, SomeMissing]

/-! ## The missing CRDs -/

/-- The missing CRDs are the required ones that do not exist. -/
def Consistent (c : CrdWatch) : Prop := c.missingCrds = c.requiredCrds \ c.existingCrds

/-- The parts of a watch that no change of a CRD touches. -/
def config (c : CrdWatch) : Finset String × Bool × Bool × Bool :=
  (c.requiredCrds, c.initialized, c.AllCrdsAddedHandler, c.SomeCrdRemovedHandler)

@[simp] theorem config_crdAdded (c : CrdWatch) (crdName : String) :
    (c.crdAdded crdName).1.config = c.config := by
  simp [config]

@[simp] theorem config_crdDeleted (c : CrdWatch) (crdName : String) :
    (c.crdDeleted crdName).1.config = c.config := by
  simp [config]

theorem consistent_New (requiredCrds : List String) : (New requiredCrds).Consistent := by
  simp [Consistent, New]

theorem Consistent.crdAdded (h : c.Consistent) (crdName : String) :
    (c.crdAdded crdName).1.Consistent := by
  simp only [Consistent, crdAdded_fst]
  rw [h, Finset.sdiff_insert]

theorem Consistent.crdDeleted (h : c.Consistent) (crdName : String) :
    (c.crdDeleted crdName).1.Consistent := by
  simp only [Consistent, crdDeleted_fst]
  split_ifs with hreq
  · rw [h, Finset.sdiff_erase hreq]
  · -- the name is not required, so whether it exists does not change the missing set
    rw [h]
    ext x
    by_cases hx : x = crdName
    · subst hx
      simp [hreq]
    · simp [hx]

/-- Adding names one after another: they exist, and are not missing. -/
theorem runOut_crdAdded_fst (c : CrdWatch) (names : List String) :
    (Machine.runOut crdAdded c names).1 =
      { c with existingCrds := c.existingCrds ∪ names.toFinset
               missingCrds := c.missingCrds \ names.toFinset } := by
  induction names generalizing c with
  | nil => simp
  | cons crdName names ih =>
    rw [Machine.runOut_cons_fst, ih, crdAdded_fst]
    simp only [List.toFinset_cons, Finset.sdiff_insert, Finset.erase_sdiff_comm,
      Finset.insert_union, Finset.union_insert]

/-- Deleting names one after another: they do not exist, and the required ones are
    missing. -/
theorem runOut_crdDeleted_fst (c : CrdWatch) (names : List String) :
    (Machine.runOut crdDeleted c names).1 =
      { c with existingCrds := c.existingCrds \ names.toFinset
               missingCrds := c.missingCrds ∪ (c.requiredCrds ∩ names.toFinset) } := by
  induction names generalizing c with
  | nil => simp
  | cons crdName names ih =>
    rw [Machine.runOut_cons_fst, ih, crdDeleted_fst]
    simp only [List.toFinset_cons, Finset.sdiff_insert, Finset.erase_sdiff_comm]
    congr 1
    split_ifs with hreq
    · rw [Finset.inter_insert_of_mem hreq, Finset.insert_union, Finset.union_insert]
    · rw [Finset.inter_insert_of_notMem hreq]

@[simp] theorem config_runOut_crdAdded (c : CrdWatch) (names : List String) :
    (Machine.runOut crdAdded c names).1.config = c.config := by
  simp [runOut_crdAdded_fst, config]

@[simp] theorem config_runOut_crdDeleted (c : CrdWatch) (names : List String) :
    (Machine.runOut crdDeleted c names).1.config = c.config := by
  simp [runOut_crdDeleted_fst, config]

/-! ## What the handlers are for -/

/-- The handler calls that a change of the missing required CRDs from `m` to `m'` asks
    for: `AllCrdsAddedHandler` when none is missing any more, `SomeCrdRemovedHandler` when
    one starts to be missing. -/
def transitionCalls (m m' : Finset String) : List Handler :=
  Machine.rise (fun m : Finset String => m = ∅) .allCrdsAdded m m' ++
    Machine.rise Finset.Nonempty .someCrdRemoved m m'

/-- A change that only removes missing CRDs can only complete the set. -/
theorem transitionCalls_of_subset {m m' : Finset String} (h : m' ⊆ m) :
    transitionCalls m m' = Machine.rise (fun m : Finset String => m = ∅) .allCrdsAdded m m' := by
  have hnil : Machine.rise Finset.Nonempty Handler.someCrdRemoved m m' = [] :=
    Machine.rise_eq_nil _ (fun hne => hne.mono h)
  rw [transitionCalls, hnil, List.append_nil]

/-- A change that only adds missing CRDs can only break the set. -/
theorem transitionCalls_of_superset {m m' : Finset String} (h : m ⊆ m') :
    transitionCalls m m' = Machine.rise Finset.Nonempty .someCrdRemoved m m' := by
  have hnil : Machine.rise (fun m : Finset String => m = ∅) Handler.allCrdsAdded m m' = [] :=
    Machine.rise_eq_nil _ (fun hempty => Finset.subset_empty.1 (hempty ▸ h))
  rw [transitionCalls, hnil, List.nil_append]

/-- An initialised watch with both handlers set. -/
def Armed (c : CrdWatch) : Prop :=
  c.initialized = true ∧ c.AllCrdsAddedHandler = true ∧ c.SomeCrdRemovedHandler = true

theorem Armed.of_config {c d : CrdWatch} (h : c.Armed) (hd : d.config = c.config) : d.Armed := by
  simp only [config, Prod.mk.injEq] at hd
  obtain ⟨-, hi, ha, hs⟩ := hd
  exact ⟨hi ▸ h.1, ha ▸ h.2.1, hs ▸ h.2.2⟩

/-- An armed watch calls on `crdAdded` what the change of its missing set asks for. -/
theorem crdAdded_calls (h : c.Armed) (crdName : String) :
    (c.crdAdded crdName).2 = transitionCalls c.missingCrds (c.crdAdded crdName).1.missingCrds := by
  rw [crdAdded_snd, if_pos ⟨h.1, h.2.1⟩, transitionCalls_of_subset (by simpa using Finset.erase_subset crdName c.missingCrds)]
  rfl

/-- An armed watch calls on `crdDeleted` what the change of its missing set asks for. -/
theorem crdDeleted_calls (h : c.Armed) (crdName : String) :
    (c.crdDeleted crdName).2 =
      transitionCalls c.missingCrds (c.crdDeleted crdName).1.missingCrds := by
  have hgrow : c.missingCrds ⊆ (c.crdDeleted crdName).1.missingCrds := by
    simp only [crdDeleted_fst]
    split_ifs
    · exact Finset.subset_insert _ _
    · exact Finset.Subset.refl _
  rw [crdDeleted_snd, if_pos ⟨h.1, h.2.2⟩, transitionCalls_of_superset hgrow]
  rfl

/-- Adding names one after another calls what the change of the missing set asks for. -/
theorem runOut_crdAdded_calls (h : c.Armed) (names : List String) :
    (Machine.runOut crdAdded c names).2 =
      transitionCalls c.missingCrds (Machine.runOut crdAdded c names).1.missingCrds := by
  have hinv : ∀ d n, Armed d → Armed (d.crdAdded n).1 :=
    fun d n hd => hd.of_config (config_crdAdded d n)
  have hkeep : ∀ d n, Armed d → NoneMissing d → NoneMissing (d.crdAdded n).1 := by
    intro d n _ hd
    simp only [NoneMissing, crdAdded_fst] at hd ⊢
    rw [hd, Finset.erase_empty]
  have hout : ∀ d n, Armed d →
      (d.crdAdded n).2 = Machine.rise NoneMissing Handler.allCrdsAdded d (d.crdAdded n).1 :=
    fun d n hd => by rw [crdAdded_snd, if_pos ⟨hd.1, hd.2.1⟩]
  have hshrink : (Machine.runOut crdAdded c names).1.missingCrds ⊆ c.missingCrds := by
    rw [runOut_crdAdded_fst]
    exact Finset.sdiff_subset
  rw [Machine.runOut_rise hinv hkeep hout c names h, transitionCalls_of_subset hshrink]
  rfl

/-- Deleting names one after another calls what the change of the missing set asks for. -/
theorem runOut_crdDeleted_calls (h : c.Armed) (names : List String) :
    (Machine.runOut crdDeleted c names).2 =
      transitionCalls c.missingCrds (Machine.runOut crdDeleted c names).1.missingCrds := by
  have hinv : ∀ d n, Armed d → Armed (d.crdDeleted n).1 :=
    fun d n hd => hd.of_config (config_crdDeleted d n)
  have hkeep : ∀ d n, Armed d → SomeMissing d → SomeMissing (d.crdDeleted n).1 := by
    intro d n _ hd
    simp only [SomeMissing, crdDeleted_fst]
    split_ifs
    · exact hd.mono (Finset.subset_insert _ _)
    · exact hd
  have hout : ∀ d n, Armed d →
      (d.crdDeleted n).2 = Machine.rise SomeMissing Handler.someCrdRemoved d (d.crdDeleted n).1 :=
    fun d n hd => by rw [crdDeleted_snd, if_pos ⟨hd.1, hd.2.2⟩]
  have hgrow : c.missingCrds ⊆ (Machine.runOut crdDeleted c names).1.missingCrds := by
    rw [runOut_crdDeleted_fst]
    exact Finset.subset_union_left
  rw [Machine.runOut_rise hinv hkeep hout c names h, transitionCalls_of_superset hgrow]
  rfl

/-! ## `sync` and `Init` -/

variable {l : Listing} {c' : CrdWatch} {calls : List Handler}

/-- A successful `sync` listed the CRDs, then added and deleted names. -/
theorem sync_eq_ok (h : c.sync l = .ok (c', calls)) :
    ∃ items, l.items = .ok items ∧
      c' = (Machine.runOut crdDeleted
        (Machine.runOut crdAdded c (l.newCrdsOrder.filter (· ∉ c.existingCrds))).1
        (l.existingCrdsOrder.filter (· ∉ items.toFinset))).1 ∧
      calls = (Machine.runOut crdAdded c (l.newCrdsOrder.filter (· ∉ c.existingCrds))).2 ++
        (Machine.runOut crdDeleted
          (Machine.runOut crdAdded c (l.newCrdsOrder.filter (· ∉ c.existingCrds))).1
          (l.existingCrdsOrder.filter (· ∉ items.toFinset))).2 := by
  unfold sync at h
  cases hitems : l.items with
  | error err =>
    rw [hitems] at h
    cases h
  | ok items =>
    rw [hitems] at h
    cases h
    exact ⟨items, rfl, rfl, rfl⟩

/-- `sync` keeps the configuration of the watch, and `Consistent`. -/
theorem sync_keeps (h : c.sync l = .ok (c', calls)) :
    c'.config = c.config ∧ (c.Consistent → c'.Consistent) := by
  obtain ⟨items, -, rfl, -⟩ := sync_eq_ok h
  refine ⟨by simp, fun hc => ?_⟩
  exact Machine.runOut_inv (fun d n (hd : Consistent d) => hd.crdDeleted n) _ _
    (Machine.runOut_inv (fun d n (hd : Consistent d) => hd.crdAdded n) c _ hc)

/-- An armed, consistent watch in a `sync` with orders of its maps: the listed CRDs exist
    after it, and it calls what the change of the missing set by the additions asks for,
    then what the change by the deletions asks for. -/
theorem sync_calls (h : c.Armed) (hc : c.Consistent) (hr : l.Ranges c)
    (hs : c.sync l = .ok (c', calls)) :
    ∃ items, l.items = .ok items ∧ c'.existingCrds = items.toFinset ∧
      calls = transitionCalls c.missingCrds (c.requiredCrds \ (c.existingCrds ∪ items.toFinset)) ++
        transitionCalls (c.requiredCrds \ (c.existingCrds ∪ items.toFinset)) c'.missingCrds := by
  obtain ⟨items, hitems, rfl, rfl⟩ := sync_eq_ok hs
  obtain ⟨⟨-, hnew⟩, ⟨-, hexisting⟩⟩ := hr items hitems
  -- the names each range visits and keeps
  have hadded : (l.newCrdsOrder.filter (· ∉ c.existingCrds)).toFinset =
      items.toFinset \ c.existingCrds := by
    rw [List.toFinset_filter, hnew, Finset.sdiff_eq_filter]
    simp
  have hdeleted : (l.existingCrdsOrder.filter (· ∉ items.toFinset)).toFinset =
      c.existingCrds \ items.toFinset := by
    rw [List.toFinset_filter, hexisting, Finset.sdiff_eq_filter]
    simp
  have hmid : (Machine.runOut crdAdded c (l.newCrdsOrder.filter (· ∉ c.existingCrds))).1.missingCrds =
      c.requiredCrds \ (c.existingCrds ∪ items.toFinset) := by
    rw [runOut_crdAdded_fst, hadded, hc]
    ext x
    simp only [Finset.mem_sdiff, Finset.mem_union]
    tauto
  refine ⟨items, hitems, ?_, ?_⟩
  · rw [runOut_crdDeleted_fst, runOut_crdAdded_fst]
    simp only [hadded, hdeleted, Finset.union_sdiff_self_eq_union]
    ext x
    by_cases hx : x ∈ items.toFinset <;> simp [hx]
  · rw [runOut_crdAdded_calls h, runOut_crdDeleted_calls (h.of_config (by simp)), hmid]

/-- `Init` is a `sync` that then marks the watch initialised. -/
theorem Init_eq_ok (h : c.Init l = .ok (c', calls)) :
    ∃ d, c.sync l = .ok (d, calls) ∧ c' = { d with initialized := true } := by
  unfold Init at h
  cases hs : c.sync l with
  | error err =>
    rw [hs] at h
    cases h
  | ok r =>
    rw [hs] at h
    cases h
    exact ⟨r.1, rfl, rfl⟩

/-- A watch that is not initialised calls no handler in a `sync`. -/
theorem sync_calls_of_not_initialized (hi : c.initialized = false)
    (h : c.sync l = .ok (c', calls)) : calls = [] := by
  obtain ⟨items, -, -, rfl⟩ := sync_eq_ok h
  have hoff : ∀ d : CrdWatch, d.initialized = false → ¬(d.initialized = true ∧ d.AllCrdsAddedHandler = true) ∧
      ¬(d.initialized = true ∧ d.SomeCrdRemovedHandler = true) := by
    intro d hd
    simp [hd]
  have hadded : ∀ (d : CrdWatch) names, d.initialized = false →
      (Machine.runOut crdAdded d names).2 = [] :=
    Machine.runOut_snd_eq_nil (fun d n hd => by simpa using hd)
      (fun d n hd => by rw [crdAdded_snd, if_neg (hoff d hd).1])
  have hdeleted : ∀ (d : CrdWatch) names, d.initialized = false →
      (Machine.runOut crdDeleted d names).2 = [] :=
    Machine.runOut_snd_eq_nil (fun d n hd => by simpa using hd)
      (fun d n hd => by rw [crdDeleted_snd, if_neg (hoff d hd).2])
  rw [hadded c _ hi, hdeleted _ _ (by simpa [runOut_crdAdded_fst] using hi), List.append_nil]

/-! ## The handlers' events -/

variable {e : Event}

/-- What a handled event can be: an addition or a deletion delivered as the CRD's metadata,
    or a successful `sync`. -/
theorem handle_eq_ok (h : c.handle e = .ok (c', calls)) :
    (∃ crdName, e = .add (.partialObjectMetadata crdName) ∧ c.crdAdded crdName = (c', calls)) ∨
    (∃ crdName, e = .delete (.partialObjectMetadata crdName) ∧
      c.crdDeleted crdName = (c', calls)) ∨
    (∃ l, e = .sync l ∧ c.sync l = .ok (c', calls)) := by
  cases e with
  | add obj =>
    cases obj with
    | partialObjectMetadata crdName =>
      exact .inl ⟨crdName, rfl, by simpa [handle, AddFunc, partialObjectMetadataName, Except.map] using h⟩
    | deletedFinalStateUnknown key obj =>
      simp [handle, AddFunc, partialObjectMetadataName, Except.map] at h
  | delete obj =>
    cases obj with
    | partialObjectMetadata crdName =>
      exact .inr (.inl ⟨crdName, rfl, by simpa [handle, DeleteFunc, partialObjectMetadataName, Except.map] using h⟩)
    | deletedFinalStateUnknown key obj =>
      simp [handle, DeleteFunc, partialObjectMetadataName, Except.map] at h
  | sync l =>
    exact .inr (.inr ⟨l, rfl, by simpa [handle] using h⟩)

theorem next_of_handle (h : c.handle e = .ok (c', calls)) : c.next e = c' := by
  simp [next, h]

/-- What holds of the watch of `setupManager` from `Init` on. -/
structure Ready (requiredCrds : List String) (c : CrdWatch) : Prop where
  required : c.requiredCrds = requiredCrds.toFinset
  consistent : c.Consistent
  armed : c.Armed

variable {requiredCrds : List String}

theorem Ready.of_config (h : Ready requiredCrds c) (hcfg : c'.config = c.config)
    (hc : c'.Consistent) : Ready requiredCrds c' := by
  have hreq : c'.requiredCrds = c.requiredCrds := congrArg Prod.fst hcfg
  exact ⟨hreq.trans h.required, hc, h.armed.of_config hcfg⟩

/-- Every event the watch handles keeps it ready. -/
theorem Ready.handle (h : Ready requiredCrds c) (he : c.handle e = .ok (c', calls)) :
    Ready requiredCrds c' := by
  rcases handle_eq_ok he with ⟨crdName, -, hstep⟩ | ⟨crdName, -, hstep⟩ | ⟨l, -, hsync⟩
  · have hc' : c' = (c.crdAdded crdName).1 := by rw [hstep]
    subst hc'
    exact h.of_config (config_crdAdded c crdName) (h.consistent.crdAdded crdName)
  · have hc' : c' = (c.crdDeleted crdName).1 := by rw [hstep]
    subst hc'
    exact h.of_config (config_crdDeleted c crdName) (h.consistent.crdDeleted crdName)
  · exact h.of_config (sync_keeps hsync).1 ((sync_keeps hsync).2 h.consistent)

/-- `Init` of the watch of `setupManager` calls no handler and leaves it ready. -/
theorem ready_Init (h : (setupWatch requiredCrds).Init l = .ok (c, calls)) :
    Ready requiredCrds c ∧ calls = [] := by
  obtain ⟨d, hsync, rfl⟩ := Init_eq_ok h
  have hkeep := sync_keeps hsync
  simp only [config, setupWatch, New, Prod.mk.injEq] at hkeep
  obtain ⟨⟨hreq, -, hall, hsome⟩, hc⟩ := hkeep
  refine ⟨⟨hreq, hc (consistent_New requiredCrds), rfl, hall, hsome⟩, ?_⟩
  exact sync_calls_of_not_initialized rfl hsync

/-- Every state that a run of the watch of `setupManager` reaches from `Init` is ready. -/
theorem ready_of_reachable {c₀ : CrdWatch} {calls₀ : List Handler}
    (hinit : (setupWatch requiredCrds).Init l = .ok (c₀, calls₀))
    (hreach : Machine.Reachable next Handles c₀ c) : Ready requiredCrds c := by
  refine Machine.Reachable.inv (ready_Init hinit).1 ?_ hreach
  rintro d e hd ⟨⟨⟨d', calls⟩, he⟩, -⟩
  rw [next_of_handle he]
  exact hd.handle he

/-! ## Runs of the watch of `setupManager` -/

section Runs

variable {c₀ : CrdWatch} {calls₀ : List Handler}

/-- `Init` calls no handler, and in every state a run reaches from it `MissingCrds` reports
    the required CRDs that do not exist and `CrdExists` whether a CRD exists. -/
theorem reachable_reports (hinit : (setupWatch requiredCrds).Init l = .ok (c₀, calls₀))
    (hreach : Machine.Reachable next Handles c₀ c) :
    calls₀ = [] ∧ c.MissingCrds = .ok (requiredCrds.toFinset \ c.existingCrds) ∧
      ∀ crdName, c.CrdExists crdName = .ok (decide (crdName ∈ c.existingCrds)) := by
  have hready := ready_of_reachable hinit hreach
  have hinit' : c.initialized = true := hready.armed.1
  refine ⟨(ready_Init hinit).2, ?_, fun crdName => ?_⟩
  · rw [MissingCrds, if_neg (by simp [hinit']), hready.consistent, hready.required]
  · simp [CrdExists, hinit']

theorem reports_after_init :
    ∃ c₀ calls₀, (setupWatch ["a", "b"]).Init ⟨.ok ["b"], ["b"], []⟩ = .ok (c₀, calls₀) ∧
      calls₀ = [] ∧ c₀.MissingCrds = .ok (["a", "b"].toFinset \ c₀.existingCrds) ∧
      ∀ crdName, c₀.CrdExists crdName = .ok (decide (crdName ∈ c₀.existingCrds)) :=
  ⟨_, _, rfl,
    reachable_reports (rfl : (setupWatch ["a", "b"]).Init ⟨.ok ["b"], ["b"], []⟩ = _) .init⟩

/-- From `Init` on, an informer event calls the handlers that the change of the missing
    set asks for: `AllCrdsAddedHandler` when it adds the last missing CRD,
    `SomeCrdRemovedHandler` when it deletes a required CRD while none is missing, and no
    handler otherwise. -/
theorem reachable_event_calls (hinit : (setupWatch requiredCrds).Init l = .ok (c₀, calls₀))
    (hreach : Machine.Reachable next Handles c₀ c) (he : c.handle e = .ok (c', calls))
    (hevent : ∀ l, e ≠ .sync l) :
    calls = transitionCalls c.missingCrds c'.missingCrds := by
  have hready := ready_of_reachable hinit hreach
  rcases handle_eq_ok he with ⟨crdName, -, hstep⟩ | ⟨crdName, -, hstep⟩ | ⟨l, rfl, -⟩
  · have hcalls := crdAdded_calls hready.armed crdName
    rw [hstep] at hcalls
    exact hcalls
  · have hcalls := crdDeleted_calls hready.armed crdName
    rw [hstep] at hcalls
    exact hcalls
  · exact absurd rfl (hevent l)

theorem adding_last_crd_calls_handler :
    ∃ c₀ c' calls, (setupWatch ["a", "b"]).Init ⟨.ok ["b"], ["b"], []⟩ = .ok (c₀, []) ∧
      c₀.handle (.add (.partialObjectMetadata "a")) = .ok (c', calls) ∧
      calls = transitionCalls c₀.missingCrds c'.missingCrds ∧ calls = [.allCrdsAdded] :=
  ⟨_, _, _, rfl, rfl,
    reachable_event_calls (rfl : (setupWatch ["a", "b"]).Init ⟨.ok ["b"], ["b"], []⟩ = _) .init
      (show handle _ (.add (.partialObjectMetadata "a")) = _ from rfl) (fun _ h => nomatch h), rfl⟩

/-- From `Init` on, a `sync` whose orders are orders of the maps it ranges over leaves
    the listed CRDs existing, and calls the handlers as two events would: one that adds
    the listed CRDs, then one that deletes the others. -/
theorem reachable_sync_calls {listing : Listing}
    (hinit : (setupWatch requiredCrds).Init l = .ok (c₀, calls₀))
    (hreach : Machine.Reachable next Handles c₀ c) (hr : listing.Ranges c)
    (he : c.handle (.sync listing) = .ok (c', calls)) :
    ∃ items, listing.items = .ok items ∧ c'.existingCrds = items.toFinset ∧
      calls = transitionCalls c.missingCrds
          (requiredCrds.toFinset \ (c.existingCrds ∪ items.toFinset)) ++
        transitionCalls (requiredCrds.toFinset \ (c.existingCrds ∪ items.toFinset))
          c'.missingCrds := by
  have hready := ready_of_reachable hinit hreach
  have hsync : c.sync listing = .ok (c', calls) := by simpa [handle] using he
  rw [← hready.required]
  exact sync_calls hready.armed hready.consistent hr hsync

theorem sync_dropping_crd_calls_handler :
    ∃ c₀ c' calls, (setupWatch ["a", "b"]).Init ⟨.ok ["a", "b"], ["a", "b"], []⟩ = .ok (c₀, []) ∧
      c₀.handle (.sync ⟨.ok ["a"], ["a"], ["a", "b"]⟩) = .ok (c', calls) ∧
      ∃ items, (⟨.ok ["a"], ["a"], ["a", "b"]⟩ : Listing).items = .ok items ∧
        c'.existingCrds = items.toFinset ∧
        calls = transitionCalls c₀.missingCrds
            (["a", "b"].toFinset \ (c₀.existingCrds ∪ items.toFinset)) ++
          transitionCalls (["a", "b"].toFinset \ (c₀.existingCrds ∪ items.toFinset))
            c'.missingCrds :=
  ⟨_, _, _, rfl, rfl,
    reachable_sync_calls (rfl : (setupWatch ["a", "b"]).Init ⟨.ok ["a", "b"], ["a", "b"], []⟩ = _)
      .init (fun _ h => by cases h; exact ⟨by decide, by decide⟩)
      (show handle _ (.sync ⟨.ok ["a"], ["a"], ["a", "b"]⟩) = _ from rfl)⟩

/-- A deletion that the informer's watch missed reaches `DeleteFunc` as a
    `DeletedFinalStateUnknown` tombstone, and the type assertion panics; the same deletion
    delivered as the CRD's metadata records it, and the required CRD is then missing. -/
theorem tombstone_delete_panics {crdName : String} (h : Ready requiredCrds c)
    (hreq : crdName ∈ requiredCrds) :
    c.handle (.delete (.deletedFinalStateUnknown crdName (some crdName))) = .error (.panic
      "interface conversion: interface \x7b\x7d is cache.DeletedFinalStateUnknown, not *v1.PartialObjectMetadata") ∧
    ∃ c' calls, c.handle (.delete (.partialObjectMetadata crdName)) = .ok (c', calls) ∧
      crdName ∉ c'.existingCrds ∧ crdName ∈ c'.missingCrds := by
  have hrequired : crdName ∈ c.requiredCrds := by
    rw [h.required]
    exact List.mem_toFinset.2 hreq
  refine ⟨rfl, (c.crdDeleted crdName).1, (c.crdDeleted crdName).2, rfl, ?_, ?_⟩
  · simp
  · simp [hrequired]

theorem tombstone_delete_panics_after_init :
    ∃ c, (setupWatch ["a"]).Init ⟨.ok ["a"], ["a"], []⟩ = .ok (c, []) ∧
      c.handle (.delete (.deletedFinalStateUnknown "a" (some "a"))) = .error (.panic
        "interface conversion: interface \x7b\x7d is cache.DeletedFinalStateUnknown, not *v1.PartialObjectMetadata") := by
  obtain ⟨c, hc⟩ : ∃ c, (setupWatch ["a"]).Init ⟨.ok ["a"], ["a"], []⟩ = .ok (c, []) := ⟨_, rfl⟩
  exact ⟨c, hc, (tombstone_delete_panics (ready_Init hc).1 (by simp)).1⟩

end Runs

end CrdWatch

end SspOperator
