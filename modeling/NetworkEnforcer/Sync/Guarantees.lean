import NetworkEnforcer.Sync.Cycle

/-!
# What the status sync guarantees over whole runs

A run starts between two cycles and goes on for any number of steps, of the sync and of everybody else.

* `sync_conservation` — between two cycles no observation is unaccounted for;
* `sync_acknowledgements` — at every moment, acknowledgements are logged at most once and only when they
  are stored.
-/

namespace NetworkEnforcer.Sync

open NetworkEnforcer.Lib NetworkEnforcer.Api NetworkEnforcer.Status NetworkEnforcer.Attribution

/-- Runs of the sync are safe at every moment. -/
theorem runs_safe {lib : Apimachinery} {limit : Nat} {start w : World} {p : SyncM (Option Err)}
    (hstart : Start limit start) (hrun : (system limit).Runs (sync lib) (start, .ret none) (w, p)) :
    Safe (system limit) (Always start limit) (Before start) (fun _ => SyncInvariant start limit 0 []) p w := by
  refine Safe.reachable (fun _ w hw => sync_safe lib hstart hw) ?_ hrun
  exact Safe.ret SyncInvariant.stable hstart.syncInvariant fun w hw => ⟨⟨_, _, hw⟩, hw⟩

/-- **Conservation of observations.**  Between two cycles, every observation recorded so far was
overwritten, is buffered, was counted as unattributed, is part of the stored counters or was carried by a
status patch that failed. -/
theorem sync_conservation (lib : Apimachinery) (limit : Nat) (start w : World) (err : Option Err)
    (hstart : Start limit start)
    (hrun : (system limit).Runs (sync lib) (start, .ret none) (w, .ret err)) :
    (w.recorded : Int) =
      w.overwritten + w.buffer.size + w.unattributed.length + increase start w + lost w := by
  have h := (runs_safe hstart hrun).post.ledger.balance
  simpa using h

/-! ## A cycle whose status patch fails -/

/-- One policy and an empty buffer. -/
def worldWith (policy : WorkloadNetworkPolicy) : World where
  buffer := ⟨2, fun _ => webObservation, 0, by decide⟩
  stored := Store.ofList [policy]

lemma lookup_worldWith {policy p : WorkloadNetworkPolicy} {k : NamespacedName}
    (h : (worldWith policy).stored.lookup k = some p) : p = policy :=
  List.mem_singleton.1 (GoMap.lookup_indexBy h).1

lemma start_worldWith {policy : WorkloadNetworkPolicy} (hzero : policy.status = {})
    (hbackend : policy.spec.backend = .kubernetes → policy.spec.kubernetes.isSome) :
    Start 1 (worldWith policy) where
  buffer := rfl
  unattributed := rfl
  emitted := rfl
  recorded := rfl
  overwritten := rfl
  refused := rfl
  limit_lt := by decide
  count h := by
    rw [lookup_worldWith h, hzero]
    decide
  storable h := by
    rw [lookup_worldWith h]
    exact ⟨hbackend, by rw [hzero]; rfl⟩

/-- A cache that agrees with the store. -/
def cacheOf (policy : WorkloadNetworkPolicy) : IndexedCache := ⟨.ofList [policy], fun _ => none⟩

lemma patchAnswers_error {obj base : WorkloadNetworkPolicy} {stored : Store WorkloadNetworkPolicy.key}
    {apply : List (String × Json Value) → WorkloadNetworkPolicy → WorkloadNetworkPolicy} {err : Err} :
    PatchAnswers obj base apply stored (some err) stored := rfl

lemma patchAnswers_ok {obj base : WorkloadNetworkPolicy} {stored : Store WorkloadNetworkPolicy.key}
    {apply : List (String × Json Value) → WorkloadNetworkPolicy → WorkloadNetworkPolicy}
    (old : WorkloadNetworkPolicy) (hold : stored.lookup base.key = some old)
    (hversion : obj.resourceVersion = base.resourceVersion) :
    PatchAnswers obj base apply stored none (stored.put (apply (mergeFrom base obj) old)) :=
  ⟨old, hold, conflicts_mergeFrom_of_eq hversion old, rfl⟩

/-- The rest of a cycle that found one policy and one observation of it, … -/
def processing (policy : WorkloadNetworkPolicy) : SyncM (Option Err) := do
  [policy].forM fun wnp => do
    let _ ← processWorkloadNetworkPolicy .documented wnp [violationRecord wnp.key webObservation]
  return none

/-- … and the world it works on. -/
def drained (policy : WorkloadNetworkPolicy) : World :=
  { worldWith policy with
    buffer := ((worldWith policy).buffer.record webObservation).2.drain.2
    recorded := 1 }

/-- An observation is recorded, drained and attributed. -/
lemma run_processing (annotations : GoMap String String) :
    let policy := { webPolicy with annotations := annotations }
    (system 1).Runs (sync .documented) (worldWith policy, .ret none) (drained policy, processing policy) := by
  intro policy
  refine .head (.env (.record webObservation Nat.zero_lt_one)) ?_
  refine .head .restart ?_
  refine .head (.call (x := Except.ok [policy]) ⟨rfl, fun items h => ?_⟩) ?_
  · obtain rfl := Except.ok.inj h
    exact List.Perm.refl _
  refine .head (.call (x := Except.ok []) rfl) ?_
  refine .head (.call (x := [webObservation]) ⟨rfl, rfl⟩) ?_
  refine .head (.call (x := cacheOf policy) rfl) ?_
  exact .refl

/-- The status patch fails. -/
lemma run_refused : ∃ w, (system 1).Runs (sync .documented) (worldWith webPolicy, .ret none) (w, .ret none) ∧
    w.recorded = 1 ∧ w.overwritten = 0 ∧ w.buffer.size = 0 ∧ w.unattributed = [] ∧
    w.stored = (worldWith webPolicy).stored := by
  refine ⟨?after, (run_processing ∅).trans ?run, ?fields⟩
  case run =>
    refine .head (.call (r := Request.now) (x := (0 : Int)) rfl) ?_
    refine .head (.call (x := some (Err.other "refused")) ⟨_, patchAnswers_error, rfl⟩) ?_
    exact .refl
  case fields => exact ⟨rfl, rfl, rfl, rfl, rfl⟩

theorem sync_conservation_one_observation : ∃ w : World, w.recorded = 1 ∧
    (w.recorded : Int) = w.overwritten + w.buffer.size + w.unattributed.length +
      increase (worldWith webPolicy) w + lost w := by
  obtain ⟨w, hrun, hrecorded, -⟩ := run_refused
  exact ⟨w, hrecorded, sync_conservation .documented 1 (worldWith webPolicy) w none
    (start_worldWith rfl (by decide)) hrun⟩

/-- The observation is recorded, and neither overwritten nor buffered nor unattributed nor counted. -/
theorem sync_refused_patch_loses_observation : ∃ w,
    (system 1).Runs (sync .documented) (worldWith webPolicy, .ret none) (w, .ret none) ∧
      (w.recorded : Int) ≠ w.overwritten + w.buffer.size + w.unattributed.length +
        increase (worldWith webPolicy) w := by
  obtain ⟨w, hrun, hrecorded, hoverwritten, hbuffer, hunattributed, hstored⟩ := run_refused
  have hincrease : increase (worldWith webPolicy) w = 0 := by
    rw [increase, hstored]
    exact increase_start _
  refine ⟨w, hrun, ?_⟩
  rw [hrecorded, hoverwritten, hbuffer, hunattributed, hincrease]
  decide

/-! ## Acknowledgements -/

/-- **Acknowledgements are logged at most once and only when they are stored.**  At every moment of a
run: no two events are about the same violation of a policy, no stored status lists a violation that an
event was about, and an event that is about to be emitted is about a violation that the stored status
does not list any more. -/
theorem sync_acknowledgements (lib : Apimachinery) (limit : Nat) (start w : World)
    (p : SyncM (Option Err)) (hstart : Start limit start) (hnumbered : StartNumbered start.stored)
    (hrun : (system limit).Runs (sync lib) (start, .ret none) (w, p)) :
    (∀ k, (eventIDs k w.emitted).Nodup) ∧ (∀ ack ∈ w.emitted, Gone ack w.stored) ∧
      ∀ ack rest, p = .call (.emit ack) rest → Gone ack w.stored := by
  have hsafe := runs_safe hstart hrun
  obtain ⟨pending, toEmit, hinv⟩ := hsafe.inv_holds
  have hn := hinv.numbered hnumbered
  refine ⟨fun k => ?_, fun ack hack => hn.gone (List.mem_append_right _ hack), ?_⟩
  · cases hl : w.stored.lookup k with
    | some policy =>
      have honce := (hn.policy hl).once
      rw [eventIDs_append] at honce
      exact honce.of_append_right
    | none =>
      have hnil := hn.eventIDs_eq_nil hl
      rw [eventIDs_append, List.append_eq_nil_iff] at hnil
      rw [hnil.2]
      exact List.nodup_nil
  · rintro ack rest rfl
    exact hsafe.request hnumbered

/-- The policy, with an annotation that acknowledges its first violation. -/
def acknowledgingPolicy : WorkloadNetworkPolicy :=
  { webPolicy with annotations := AList.singleton (violationAcknowledgePrefix ++ "0") "expected" }

lemma startNumbered_worldWith {policy : WorkloadNetworkPolicy} (hzero : policy.status = {}) :
    StartNumbered (worldWith policy).stored := by
  intro k p h
  rw [lookup_worldWith h, hzero]
  refine ⟨⟨[], ⟨?_, ?_, ?_, ?_, ?_⟩⟩, ?_⟩ <;> simp [storedRecords]

/-- What the cycle computes for the policy, and what its status patch stores. -/
def recomputedPolicy : WorkloadNetworkPolicy :=
  ((acknowledgingPolicy.recomputeStatus .documented
    [violationRecord acknowledgingPolicy.key webObservation] 0).map Prod.fst).getD acknowledgingPolicy

def committedPolicy : WorkloadNetworkPolicy :=
  patchStatus (mergeFrom acknowledgingPolicy recomputedPolicy) acknowledgingPolicy

/-- The cycle stores the acknowledgement and emits its event; the patch of the annotations is next. -/
lemma run_emitted : ∃ (w : World) (rest : Option Err → SyncM (Option Err)),
    (system 1).Runs (sync .documented) (worldWith acknowledgingPolicy, .ret none)
        (w, .call (.patch recomputedPolicy acknowledgingPolicy) rest) ∧
      w.stored.lookup acknowledgingPolicy.key = some committedPolicy ∧
      w.emitted.map (·.violation.id) = [0] := by
  refine ⟨?after, ?rest, (run_processing acknowledgingPolicy.annotations).trans ?run, ?stored, ?emitted⟩
  case run =>
    refine .head (.call (r := Request.now) (x := (0 : Int)) rfl) ?_
    refine .head (.call (x := (none : Option Err)) ⟨_, patchAnswers_ok acknowledgingPolicy ?_ ?_, rfl⟩) ?_
    · rfl
    · rfl
    refine .head (.call (x := PUnit.unit) rfl) ?_
    exact .refl
  case stored => rfl
  case emitted => rfl

theorem sync_acknowledgements_one_event : ∃ (w : World) (p : SyncM (Option Err)),
    w.emitted.map (·.violation.id) = [0] ∧
    (∀ k, (eventIDs k w.emitted).Nodup) ∧ (∀ ack ∈ w.emitted, Gone ack w.stored) ∧
      ∀ ack rest, p = .call (.emit ack) rest → Gone ack w.stored := by
  obtain ⟨w, rest, hrun, -, hemitted⟩ := run_emitted
  exact ⟨w, _, hemitted, sync_acknowledgements .documented 1 (worldWith acknowledgingPolicy) w _
    (start_worldWith rfl (by decide)) (startNumbered_worldWith rfl) hrun⟩

end NetworkEnforcer.Sync
