import NetworkEnforcer.Sync.Cycle
import NetworkEnforcer.Reconcile.Controller
import NetworkEnforcer.Reconcile.Direct

/-!
# The two writers of a status

The status sync and the reconciler patch the status of the same policy from copies that may be stale.
`Server` is one policy on the API server together with every version it has had; an `Event` is an edit by
a user, a cycle of the sync or an update of the Ready condition, and both writers work on a version they
read some time ago.  The sync reads what it has written itself.

* `lookup_of_answers_statusPatch`, `updateReadyCondition_wnps` — the events are what the two programs do;
* `Versions` — a resource version names one version;
* `ServerInvariant.step` — what one event keeps;
* `statuses_of_two_writers` — neither writer undoes the other.
-/

namespace NetworkEnforcer.Sync

open NetworkEnforcer.Lib NetworkEnforcer.Api NetworkEnforcer.Status NetworkEnforcer.Reconcile

/-! ## The writers -/

/-- What a status patch makes of the stored policy; `none` if it fails or is refused. -/
def attempt (patch : List (String × Json Value)) (failed : Bool) (stored : WorkloadNetworkPolicy) :
    Option WorkloadNetworkPolicy :=
  if failed || conflicts patch stored then none else some (patchStatus patch stored)

/-- The policy that `updateReadyCondition` sends, if it sends one. -/
def readyUpdate (ctrl : ControllerLib) (wnp : WorkloadNetworkPolicy) (condition : Condition) :
    Option WorkloadNetworkPolicy :=
  match ctrl.setStatusCondition wnp.status.conditions condition with
  | (_, false) => none
  | (conditions, true) => some { wnp with status := { wnp.status with conditions := conditions } }

/-- `attempt` is the answer to a status patch of the sync. -/
lemma lookup_of_answers_statusPatch {obj base old : WorkloadNetworkPolicy} {w w' : World}
    {err : Option Err} (h : Answers (.statusPatch obj base) w err w')
    (hold : w.stored.lookup base.key = some old) :
    w'.stored.lookup base.key = some ((attempt (mergeFrom base obj) err.isSome old).getD old) := by
  obtain ⟨stored', hans, rfl⟩ := h
  cases err with
  | some e =>
    have hsame : stored' = w.stored := hans
    rw [hsame, hold]
    rfl
  | none =>
    obtain ⟨old', hold', hconf, rfl⟩ := hans
    obtain rfl : old = old' := Option.some.inj (hold.symm.trans hold')
    have hkey : old.key = base.key := Store.key_of_lookup hold
    simp only [attempt, hconf, Option.isSome_none, Bool.or_false, Bool.false_eq_true, if_false,
      Option.getD_some]
    rw [← hkey, ← patchStatus_key (mergeFrom base obj) old]
    exact Store.lookup_put w.stored _

/-- `updateReadyCondition` writes the policies by one patch, to `readyUpdate`. -/
lemma updateReadyCondition_wnps {cl : Cluster} (env : Env cl) (wnp : WorkloadNetworkPolicy)
    (condition : Condition) (w : Reconcile.World) :
    (updateReadyCondition env wnp condition w).2.wnps =
      match readyUpdate env.ctrl wnp condition with
      | none => w.wnps
      | some new => (env.status.patch w.wnps wnp new).2 := by
  unfold updateReadyCondition readyUpdate
  rcases hset : env.ctrl.setStatusCondition wnp.status.conditions condition with ⟨conditions, changed⟩
  cases changed with
  | false => rfl
  | true =>
    dsimp only
    rcases env.status.patch w.wnps wnp _ with ⟨err, wnps⟩
    cases err <;> rfl

/-! ## The policy on the server -/

structure Server where
  stored : WorkloadNetworkPolicy
  /-- Every version so far. -/
  versions : List WorkloadNetworkPolicy
  /-- The versions since the last patch of the sync, that one included. -/
  recent : List WorkloadNetworkPolicy
  /-- History: the conditions of the last successful Ready patch. -/
  ready : List Condition
  /-- History: the status that the last successful cycle of the sync computed. -/
  synced : WorkloadNetworkPolicyStatus
  /-- History: the successful cycles, in order. -/
  cycles : List Call

def Server.start (w : WorkloadNetworkPolicy) : Server := ⟨w, [w], [w], w.status.conditions, w.status, []⟩

/-- A new version. -/
def Server.commit (s : Server) (new : WorkloadNetworkPolicy) : Server :=
  { s with stored := new, versions := new :: s.versions, recent := new :: s.recent }

inductive Event where
  /-- Metadata and spec are written. -/
  | edit (new : WorkloadNetworkPolicy)
  /-- A cycle of the sync, on one of the recent versions. -/
  | sync (version : Nat) (scraped : List ViolationRecord) (now : Time) (failed : Bool)
  /-- An update of the Ready condition, on any version. -/
  | ready (version : Nat) (condition : Condition) (failed : Bool)

/-- The call of `RecomputeStatus` in a cycle. -/
def callOn (snap : WorkloadNetworkPolicy) (scraped : List ViolationRecord) (now : Time) : Call :=
  ⟨snap.spec, snap.annotations, snap.generation, scraped, now⟩

def Server.step (lib : Apimachinery) (ctrl : ControllerLib) (s : Server) : Event → Server
  | .edit new =>
    s.commit { new with
      status := s.stored.status
      resourceVersion := s.stored.resourceVersion + 1 }
  | .sync version scraped now failed =>
    match s.recent[version]? with
    | none => s
    | some snap =>
      match snap.recomputeStatus lib scraped now with
      | none => s
      | some (new, _) =>
        match attempt (mergeFrom snap new) failed s.stored with
        | none => s
        | some stored =>
          { s.commit stored with
            recent := [stored]
            synced := new.status
            cycles := s.cycles ++ [callOn snap scraped now] }
  | .ready version condition failed =>
    match s.versions[version]? with
    | none => s
    | some snap =>
      match readyUpdate ctrl snap condition with
      | none => s
      | some new =>
        -- the client makes no lock for an object without a version
        match attempt (mergeFromWithOptimisticLock snap new)
          (failed || snap.resourceVersion = 0) s.stored with
        | none => s
        | some stored => { s.commit stored with ready := new.status.conditions }

/-! ## Versions -/

/-- The versions of a policy so far: a resource version names one of them, and none is ahead of the
stored one. -/
structure Versions (versions : List WorkloadNetworkPolicy) (stored : WorkloadNetworkPolicy) : Prop where
  current : stored ∈ versions
  bounded : ∀ v ∈ versions, v.resourceVersion ≤ stored.resourceVersion
  unique : ∀ v ∈ versions, v.resourceVersion = stored.resourceVersion → v = stored
  times : ∀ v ∈ versions, storedStatus v.status = v.status

lemma Versions.cons {versions : List WorkloadNetworkPolicy} {stored new : WorkloadNetworkPolicy}
    (h : Versions versions stored)
    (hnew : new = stored ∨ new.resourceVersion = stored.resourceVersion + 1)
    (htimes : storedStatus new.status = new.status) : Versions (new :: versions) new := by
  refine ⟨List.mem_cons_self .., ?_, ?_, List.forall_mem_cons.2 ⟨htimes, h.times⟩⟩
  · refine List.forall_mem_cons.2 ⟨le_rfl, fun v hv => ?_⟩
    have hle := h.bounded v hv
    rcases hnew with rfl | hrv <;> omega
  · refine List.forall_mem_cons.2 ⟨fun _ => rfl, fun v hv heq => ?_⟩
    rcases hnew with rfl | hrv
    · exact h.unique v hv heq
    · have hle := h.bounded v hv
      omega

/-- A status patch makes a new version, or changes nothing. -/
lemma patchStatus_version (patch : List (String × Json Value)) (stored : WorkloadNetworkPolicy) :
    patchStatus patch stored = stored ∨
      (patchStatus patch stored).resourceVersion = stored.resourceVersion + 1 := by
  unfold patchStatus
  dsimp only
  split
  · rename_i heq
    rw [heq]
    exact .inl rfl
  · exact .inr rfl

/-! ## Whole seconds -/

lemma map_eq_self {α : Type} {f : α → α} {l : List α} : l.map f = l ↔ ∀ x ∈ l, f x = x :=
  ⟨fun h => List.map_inj_left.1 (h.trans (List.map_id l).symm),
    fun h => (List.map_congr_left h).trans (List.map_id l)⟩

lemma storedRecord_eq_self {r : ViolationRecord} :
    storedRecord r = r ↔ wholeSeconds r.timestamp = r.timestamp :=
  ⟨fun h => congrArg (·.timestamp) h, fun h => by rw [storedRecord, h]⟩

/-- The status is as it would be read back. -/
lemma storedStatus_eq_self {s : WorkloadNetworkPolicyStatus} :
    storedStatus s = s ↔ (∀ c ∈ s.conditions, storedCondition c = c) ∧
      (∀ r ∈ s.violations, storedRecord r = r) ∧
      ∀ a ∈ s.acknowledgedViolations, storedAcknowledged a = a := by
  rw [← map_eq_self, ← map_eq_self, ← map_eq_self]
  constructor
  · intro h
    exact ⟨congrArg (·.conditions) h, congrArg (·.violations) h, congrArg (·.acknowledgedViolations) h⟩
  · rintro ⟨hc, hv, ha⟩
    rw [storedStatus, hc, hv, ha]

/-- A call makes no time of its own. -/
lemma storedStatus_of_recomputed {w w' : WorkloadNetworkPolicy} {scraped : List ViolationRecord}
    {now : Time} {acks : List AcknowledgedViolationRecord} (h : Recomputed w scraped now w' acks)
    (hw : storedStatus w.status = w.status) (hscraped : ∀ v ∈ scraped, storedRecord v = v)
    (hnow : wholeSeconds now = now) : storedStatus w'.status = w'.status := by
  obtain ⟨hc, hv, ha⟩ := storedStatus_eq_self.1 hw
  have hmerged : ∀ r ∈ (mergeScrapedViolations w.status scraped).violations, storedRecord r = r := by
    refine mergeScrapedViolations_forall ?_ ?_ hv hscraped
    · intro r v hr hv
      have hwhole := storedRecord_eq_self.1 hv
      unfold ViolationRecord.refresh
      split
      · exact storedRecord_eq_self.2 hwhole
      · exact hr
    · intro v i hv
      have hwhole := storedRecord_eq_self.1 hv
      exact storedRecord_eq_self.2 hwhole
  have hacks : ∀ a ∈ acks, storedAcknowledged a = a := by
    intro a hmem
    have hviol : a.violation ∈ outcome w' acks :=
      List.mem_append_left _ (List.mem_map_of_mem hmem)
    rw [storedAcknowledged, hmerged _ (h.outcome_subperm.subset hviol), h.time a hmem, hnow, ← h.time a hmem]
  refine storedStatus_eq_self.2 ⟨?_, ?_, ?_⟩
  · rw [h.conditions]
    exact hc
  · exact fun r hr => hmerged r (h.violations_sublist.subset hr)
  · rcases h.acknowledged with ⟨-, heq⟩ | heq
    · rw [heq]
      exact ha
    · intro a hmem
      rw [heq] at hmem
      rcases List.mem_append.1 ((sortAndTrim_subperm _ _).subset hmem) with hold | hack
      · exact ha a hold
      · exact hacks a hack

/-! ## What the writers store -/

variable {lib : Apimachinery} {ctrl : ControllerLib}

lemma attempt_eq_some {patch : List (String × Json Value)} {failed : Bool}
    {stored new : WorkloadNetworkPolicy} (h : attempt patch failed stored = some new) :
    failed = false ∧ conflicts patch stored = false ∧ new = patchStatus patch stored := by
  unfold attempt at h
  split at h
  · cases h
  · rename_i hor
    simp only [Bool.or_eq_true, not_or, Bool.not_eq_true] at hor
    exact ⟨hor.1, hor.2, (Option.some.inj h).symm⟩

lemma readyUpdate_eq_some {wnp new : WorkloadNetworkPolicy} {condition : Condition}
    (h : readyUpdate ctrl wnp condition = some new) :
    new = { wnp with status := { wnp.status with
      conditions := (ctrl.setStatusCondition wnp.status.conditions condition).1 } } := by
  unfold readyUpdate at h
  split at h
  · cases h
  · rename_i hset
    rw [hset, Option.some.inj h]

/-- A locked patch of the stored version stores the status that it was made for. -/
lemma patchStatus_lock_status (stored : WorkloadNetworkPolicy) {new : WorkloadNetworkPolicy}
    (hnew : storedStatus new.status = new.status) :
    (patchStatus (mergeFromWithOptimisticLock stored new) stored).status = new.status := by
  unfold mergeFromWithOptimisticLock
  rw [patchStatus_status]
  simp only [mergeStatus, merge3_stored]
  exact hnew

/-- A successful locked patch was made for the stored version. -/
lemma Versions.eq_of_lock {versions : List WorkloadNetworkPolicy} {stored snap new : WorkloadNetworkPolicy}
    (h : Versions versions stored) (hsnap : snap ∈ versions) (hrv : snap.resourceVersion ≠ 0)
    (hconf : conflicts (mergeFromWithOptimisticLock snap new) stored = false) : snap = stored := by
  rw [conflicts_mergeFromWithOptimisticLock hrv] at hconf
  exact h.unique snap hsnap (by simpa using hconf)

/-- A cycle on a policy with other metadata and other conditions computes the same violations. -/
lemma call_of_recomputeStatus {st : RunState} {snap new : WorkloadNetworkPolicy}
    {scraped : List ViolationRecord} {now : Time} {acks : List AcknowledgedViolationRecord}
    (hsame : SameViolations st.policy.status snap.status)
    (h : snap.recomputeStatus lib scraped now = some (new, acks)) :
    ∃ st', Call.run lib st (callOn snap scraped now) = some st' ∧
      SameViolations st'.policy.status new.status := by
  have hedit : (callOn snap scraped now).edit st.policy = transplant st.policy snap := by
    unfold Call.edit callOn transplant
    rw [hsame]
  have hrun := recomputeStatus_transplant lib st.policy snap scraped now
  rw [h, ← hedit] at hrun
  unfold Call.run
  simp only
  rw [show (callOn snap scraped now).scraped = scraped from rfl,
    show (callOn snap scraped now).now = now from rfl, hrun]
  exact ⟨_, rfl, rfl⟩

/-! ## What an event does -/

lemma step_sync_cases (lib : Apimachinery) (ctrl : ControllerLib) (s : Server) (version : Nat)
    (scraped : List ViolationRecord) (now : Time) (failed : Bool) :
    s.step lib ctrl (.sync version scraped now failed) = s ∨
      ∃ snap new acks, snap ∈ s.recent ∧ snap.recomputeStatus lib scraped now = some (new, acks) ∧
        s.step lib ctrl (.sync version scraped now failed) =
          { s.commit (patchStatus (mergeFrom snap new) s.stored) with
            recent := [patchStatus (mergeFrom snap new) s.stored]
            synced := new.status
            cycles := s.cycles ++ [callOn snap scraped now] } := by
  simp only [Server.step]
  split
  · exact .inl rfl
  · rename_i snap hsnap
    split
    · exact .inl rfl
    · rename_i new acks hrec
      split
      · exact .inl rfl
      · rename_i stored hatt
        obtain ⟨-, -, rfl⟩ := attempt_eq_some hatt
        exact .inr ⟨snap, new, acks, List.mem_of_getElem? hsnap, hrec, rfl⟩

lemma step_ready_cases (lib : Apimachinery) (ctrl : ControllerLib) (s : Server) (version : Nat)
    (condition : Condition) (failed : Bool) :
    s.step lib ctrl (.ready version condition failed) = s ∨
      ∃ snap new, snap ∈ s.versions ∧ readyUpdate ctrl snap condition = some new ∧
        snap.resourceVersion ≠ 0 ∧ conflicts (mergeFromWithOptimisticLock snap new) s.stored = false ∧
        s.step lib ctrl (.ready version condition failed) =
          { s.commit (patchStatus (mergeFromWithOptimisticLock snap new) s.stored) with
            ready := new.status.conditions } := by
  simp only [Server.step]
  split
  · exact .inl rfl
  · rename_i snap hsnap
    split
    · exact .inl rfl
    · rename_i new hupd
      split
      · exact .inl rfl
      · rename_i stored hatt
        obtain ⟨hfailed, hconf, rfl⟩ := attempt_eq_some hatt
        simp only [Bool.or_eq_false_iff, decide_eq_false_iff_not] at hfailed
        exact .inr ⟨snap, new, List.mem_of_getElem? hsnap, hupd, hfailed.2, hconf, rfl⟩

/-! ## The invariant -/

/-- What holds of the server after any events; `first` is the policy before them. -/
structure ServerInvariant (lib : Apimachinery) (first : WorkloadNetworkPolicy) (s : Server) : Prop where
  versions : Versions s.versions s.stored
  /-- The sync reads versions with the violation fields that are still stored. -/
  recent : ∀ v ∈ s.recent, v ∈ s.versions ∧ SameViolations v.status s.stored.status
  conditions : s.stored.status.conditions = s.ready
  synced : SameViolations s.synced s.stored.status
  folded : ∃ st, runCalls lib ⟨first, []⟩ s.cycles = some st ∧
    SameViolations st.policy.status s.stored.status

/-- The times that a cycle reads are whole seconds. -/
def Event.WholeSeconds : Event → Prop
  | .sync _ scraped now _ => (∀ v ∈ scraped, storedRecord v = v) ∧ wholeSeconds now = now
  | _ => True

/-- `SetStatusCondition` sets times in whole seconds. -/
def WholeSecondsClock (ctrl : ControllerLib) : Prop :=
  ∀ (conditions : List Condition) (new : Condition), (∀ c ∈ conditions, storedCondition c = c) →
    ∀ c ∈ (ctrl.setStatusCondition conditions new).1, storedCondition c = c

variable {first : WorkloadNetworkPolicy} {s : Server}

lemma ServerInvariant.start (lib : Apimachinery) (h : storedStatus first.status = first.status) :
    ServerInvariant lib first (.start first) := by
  refine ⟨⟨List.mem_singleton_self _, ?_, ?_, ?_⟩, ?_, rfl, rfl, ⟨_, rfl, rfl⟩⟩ <;>
    simp [Server.start, h, SameViolations.refl]

/-- A new version with the stored violation fields. -/
lemma ServerInvariant.commit (h : ServerInvariant lib first s) (new : WorkloadNetworkPolicy)
    (hnew : new = s.stored ∨ new.resourceVersion = s.stored.resourceVersion + 1)
    (htimes : storedStatus new.status = new.status) (hsame : SameViolations s.stored.status new.status) :
    ServerInvariant lib first { s.commit new with ready := new.status.conditions } := by
  obtain ⟨st, hrun, hst⟩ := h.folded
  refine ⟨h.versions.cons hnew htimes, ?_, rfl, h.synced.trans hsame, st, hrun, hst.trans hsame⟩
  refine List.forall_mem_cons.2 ⟨⟨List.mem_cons_self .., .refl _⟩, fun v hv => ?_⟩
  exact ⟨List.mem_cons_of_mem _ (h.recent v hv).1, (h.recent v hv).2.trans hsame⟩

lemma ServerInvariant.edit (h : ServerInvariant lib first s) (new : WorkloadNetworkPolicy) :
    ServerInvariant lib first (s.step lib ctrl (.edit new)) := by
  have htimes := h.versions.times _ h.versions.current
  have hcommit := h.commit { new with
    status := s.stored.status
    resourceVersion := s.stored.resourceVersion + 1 } (.inr rfl) htimes (.refl _)
  rw [h.conditions] at hcommit
  exact hcommit

lemma ServerInvariant.sync (h : ServerInvariant lib first s) (version : Nat)
    {scraped : List ViolationRecord} {now : Time} (failed : Bool)
    (hscraped : ∀ v ∈ scraped, storedRecord v = v) (hnow : wholeSeconds now = now) :
    ServerInvariant lib first (s.step lib ctrl (.sync version scraped now failed)) := by
  rcases step_sync_cases lib ctrl s version scraped now failed with
    hstep | ⟨snap, new, acks, hsnap, hrec, hstep⟩
  · rw [hstep]
    exact h
  · rw [hstep]
    obtain ⟨hmem, hsame⟩ := h.recent snap hsnap
    have hspec := recomputeStatus_spec hrec
    have hold := h.versions.times _ h.versions.current
    have hwnp := h.versions.times _ hmem
    have hnew := storedStatus_of_recomputed hspec hwnp hscraped hnow
    -- the computed status is stored, next to the conditions that are there by now
    have hstatus : (patchStatus (mergeFrom snap new) s.stored).status =
        { new.status with conditions := s.stored.status.conditions } := by
      rw [patchStatus_commit hsame hwnp hold hspec.conditions, hnew]
    have hcommitted : SameViolations new.status (patchStatus (mergeFrom snap new) s.stored).status := by
      rw [hstatus]
      exact rfl
    have htimes : storedStatus (patchStatus (mergeFrom snap new) s.stored).status =
        (patchStatus (mergeFrom snap new) s.stored).status := by
      rw [hstatus]
      exact storedStatus_eq_self.2 ⟨(storedStatus_eq_self.1 hold).1, (storedStatus_eq_self.1 hnew).2⟩
    obtain ⟨st, hrun, hst⟩ := h.folded
    obtain ⟨st', hcall, hst'⟩ := call_of_recomputeStatus (hst.trans hsame.symm) hrec
    refine ⟨h.versions.cons (patchStatus_version _ _) htimes, ?_, ?_, hcommitted, st', ?_,
      hst'.trans hcommitted⟩
    · exact List.forall_mem_singleton.2 ⟨List.mem_cons_self .., .refl _⟩
    · exact (congrArg (·.conditions) hstatus).trans h.conditions
    · rw [runCalls_concat, hrun]
      exact hcall

lemma ServerInvariant.ready (h : ServerInvariant lib first s) (hclock : WholeSecondsClock ctrl)
    (version : Nat) (condition : Condition) (failed : Bool) :
    ServerInvariant lib first (s.step lib ctrl (.ready version condition failed)) := by
  rcases step_ready_cases lib ctrl s version condition failed with
    hstep | ⟨snap, new, hsnap, hupd, hrv, hconf, hstep⟩
  · rw [hstep]
    exact h
  · rw [hstep]
    -- the lock: the patch is made for the version that is stored
    obtain rfl := h.versions.eq_of_lock hsnap hrv hconf
    have hold := storedStatus_eq_self.1 (h.versions.times _ h.versions.current)
    have hnew : storedStatus new.status = new.status := by
      rw [readyUpdate_eq_some hupd]
      exact storedStatus_eq_self.2 ⟨hclock _ condition hold.1, hold.2⟩
    have hsame : SameViolations s.stored.status new.status := by
      rw [readyUpdate_eq_some hupd]
      exact rfl
    have hstatus := patchStatus_lock_status s.stored hnew
    rw [← hstatus] at hnew hsame ⊢
    exact h.commit _ (patchStatus_version _ _) hnew hsame

/-- **What one event keeps.** -/
theorem ServerInvariant.step (h : ServerInvariant lib first s) (hclock : WholeSecondsClock ctrl)
    {e : Event} (he : e.WholeSeconds) : ServerInvariant lib first (s.step lib ctrl e) := by
  cases e with
  | edit new => exact h.edit new
  | sync version scraped now failed => exact h.sync version failed he.1 he.2
  | ready version condition failed => exact h.ready hclock version condition failed

theorem ServerInvariant.run (hclock : WholeSecondsClock ctrl) (events : List Event) :
    ∀ {s : Server}, ServerInvariant lib first s → (∀ e ∈ events, e.WholeSeconds) →
      ServerInvariant lib first (events.foldl (Server.step lib ctrl) s) := by
  induction events with
  | nil => exact fun h _ => h
  | cons e events ih =>
    intro s h he
    exact ih (h.step hclock (he e (List.mem_cons_self ..))) fun e' he' => he e' (List.mem_cons_of_mem _ he')

/-- **Neither writer undoes the other.**  After any edits, cycles of the sync and updates of the Ready
condition, where cycles and updates may work on stale versions and their patches may fail: the stored
conditions are those of the last successful Ready patch, the other fields of the status are those that
the last successful cycle computed, and they are what the calls of `RecomputeStatus` in exactly the
successful cycles make of the first status. -/
theorem statuses_of_two_writers (lib : Apimachinery) (ctrl : ControllerLib) (hclock : WholeSecondsClock ctrl)
    (first : WorkloadNetworkPolicy) (hfirst : storedStatus first.status = first.status)
    (events : List Event) (hevents : ∀ e ∈ events, e.WholeSeconds) :
    let s := events.foldl (Server.step lib ctrl) (.start first)
    s.stored.status.conditions = s.ready ∧ SameViolations s.synced s.stored.status ∧
      ∃ st, runCalls lib ⟨first, []⟩ s.cycles = some st ∧
        SameViolations st.policy.status s.stored.status := by
  have h := ServerInvariant.run hclock events (ServerInvariant.start lib hfirst) hevents
  exact ⟨h.conditions, h.synced, h.folded⟩

lemma storedCondition_eq_self {c : Condition} :
    storedCondition c = c ↔ wholeSeconds c.lastTransitionTime = c.lastTransitionTime :=
  ⟨fun h => congrArg (·.lastTransitionTime) h, fun h => by rw [storedCondition, h]⟩

lemma wholeSecondsClock_direct {now : Time} (hnow : wholeSeconds now = now) :
    WholeSecondsClock (.direct now) := by
  intro conditions new h
  have htransitioned : ∀ old ∈ conditions, storedCondition (transitioned now old new) =
      transitioned now old new := by
    intro old hold
    have hwhole := storedCondition_eq_self.1 (h old hold)
    refine storedCondition_eq_self.2 ?_
    simp only [transitioned]
    split
    · exact hwhole
    · exact hnow
  simp only [ControllerLib.direct, setStatusConditionAt]
  split
  · exact List.forall_mem_append.2 ⟨h, List.forall_mem_singleton.2 (storedCondition_eq_self.2 hnow)⟩
  · rename_i old hold
    split
    · exact h
    · intro c hc
      obtain ⟨c', hc', rfl⟩ := List.mem_map.1 hc
      split
      · exact htransitioned old (List.mem_of_find?_eq_some hold)
      · exact h c' hc'

/-- A policy before its first update and its first cycle. -/
def freshPolicy : WorkloadNetworkPolicy :=
  { ns := "shop", name := "web", resourceVersion := 1
    spec := ⟨⟨.istio, none, some { selector := { matchLabels := AList.singleton "app" "web" } }⟩,
      ⟨⟨workloadKindDeployment, "web"⟩, .ingress⟩, .monitor⟩ }

/-- The Ready condition is set, and the cycle does not know of it. -/
def readyThenSync : List Event :=
  [.ready 0 { type := conditionReady, status := .conditionTrue } false,
    .sync 1 [{ timestamp := 1000000000 }] 2000000000 false]

theorem statuses_of_two_writers_stale_cycle :
    let s := readyThenSync.foldl (Server.step .documented (.direct 3000000000)) (.start freshPolicy)
    (s.ready.length = 1 ∧ s.cycles.length = 1) ∧
      s.stored.status.conditions = s.ready ∧ SameViolations s.synced s.stored.status ∧
      ∃ st, runCalls .documented ⟨freshPolicy, []⟩ s.cycles = some st ∧
        SameViolations st.policy.status s.stored.status := by
  refine ⟨⟨rfl, rfl⟩, ?_⟩
  have hevents : ∀ e ∈ readyThenSync, e.WholeSeconds :=
    List.forall_mem_cons.2 ⟨trivial, List.forall_mem_singleton.2 ⟨List.forall_mem_singleton.2 rfl, rfl⟩⟩
  exact statuses_of_two_writers .documented (.direct 3000000000) (wholeSecondsClock_direct rfl) freshPolicy
    rfl readyThenSync hevents

end NetworkEnforcer.Sync
