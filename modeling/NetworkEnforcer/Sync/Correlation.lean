import NetworkEnforcer.Attribution.Soundness
import NetworkEnforcer.Sync.Program

/-!
# What a cycle attributes

As long as the cache has the policies of the snapshot, `correlateViolationsToWNPs` gives every policy the records of
the observations that belong to it by its target, in their order, and no others (`correlate_records`).
-/

namespace NetworkEnforcer.Sync

open NetworkEnforcer.Lib NetworkEnforcer.Api NetworkEnforcer.Attribution NetworkEnforcer.Workload

/-- The cache has the policies of the snapshot, and its lists succeed. -/
structure Agrees (snap : Snapshot) (c : IndexedCache) : Prop where
  same : c.wnps.Perm snap.values
  lists : ∀ ns key, ∃ items, c.listByTarget ns key = .ok items
  kinds : ∀ wnp ∈ c.wnps, wnp.spec.targetRef.kind ∈ supportedKinds

/-- A cycle during which the cache stays like that. -/
def agreeing (snap : Snapshot) : System Request.Resp Unit where
  exec
    | .cache, _, c, _ => Agrees snap c
    | _, _, _, _ => True
  env _ _ := False

/-- The record of an observation for the policy, if it belongs to it. -/
def recordFor (snap : Snapshot) (key : NamespacedName) (obs : Observation) : Option ViolationRecord :=
  match attributeByTargetRef snap.values obs with
  | .ok wnpKey => if wnpKey = key then some (violationRecord key obs) else none
  | .error _ => none

lemma recordFor_eq_some {snap : Snapshot} {key : NamespacedName} {obs : Observation} {v : ViolationRecord} :
    recordFor snap key obs = some v ↔
      attributeByTargetRef snap.values obs = .ok key ∧ v = violationRecord key obs := by
  unfold recordFor
  cases attributeByTargetRef snap.values obs with
  | error reason => exact iff_of_false (fun h => by cases h) (fun h => by cases h.1)
  | ok wnpKey =>
    by_cases hkey : wnpKey = key
    · subst hkey
      simp only [if_true, Option.some.injEq, true_and]
      exact eq_comm
    · simp only [Except.ok.injEq, hkey, false_and]
      exact iff_of_false (fun h => by cases h) id

/-- Every request but a crash is answered. -/
def Answered : Request → Unit → Prop
  | .crash, _ => False
  | _, _ => True

section Correlate

variable {snap : Snapshot} {ownedIndex : GoMap NamespacedName (Option NamespacedName)}

/-- What is in the map, and what the observations that are left will add. -/
def Pending (snap : Snapshot) (all rest : List Observation) (m : ViolationsByWNP) : Prop :=
  ∀ key, (m.lookup key).getD [] ++ rest.filterMap (recordFor snap key) = all.filterMap (recordFor snap key)

lemma stable_agreeing (P : Prop) : (agreeing snap).Stable fun _ => P := fun _ _ _ hstep => absurd hstep id

section Turn

variable {all rest : List Observation} {m : ViolationsByWNP} {obs : Observation}

/-- An observation that belongs to no policy adds nothing. -/
lemma Pending.skip {reason : UnattributedReason} (h : Pending snap all (obs :: rest) m)
    (hnone : attributeByTargetRef snap.values obs = .error reason) : Pending snap all rest m := by
  intro key
  have hkey := h key
  rwa [List.filterMap_cons_none (by simp only [recordFor, hnone])] at hkey

/-- One that belongs to a policy adds its record there. -/
lemma Pending.push {wnpKey : NamespacedName} (h : Pending snap all (obs :: rest) m)
    (htarget : attributeByTargetRef snap.values obs = .ok wnpKey) :
    Pending snap all rest (m.push wnpKey (violationRecord wnpKey obs)) := by
  intro key
  rw [← h key]
  by_cases hkey : key = wnpKey
  · subst hkey
    have hrecord : recordFor snap key obs = some (violationRecord key obs) :=
      recordFor_eq_some.2 ⟨htarget, rfl⟩
    rw [GoMap.lookup_push_self, List.filterMap_cons_some hrecord, List.append_assoc]
    rfl
  · have hrecord : recordFor snap key obs = none := by
      simp only [recordFor, htarget, if_neg (Ne.symm hkey)]
    rw [GoMap.lookup_push_ne _ _ hkey, List.filterMap_cons_none hrecord]

end Turn

/-- One turn of the loop. -/
lemma correlateViolation_records {all rest : List Observation} {m : ViolationsByWNP} (obs : Observation)
    (h : Pending snap all (obs :: rest) m) :
    Safe (agreeing snap) (fun _ => True) Answered (fun m' _ => Pending snap all rest m')
      (correlateViolation ownedIndex snap (duplicateTargets snap) m obs) () := by
  unfold correlateViolation
  refine Safe.ask_bind (stable_agreeing True) trivial (fun _ _ => ⟨trivial, trivial⟩) fun _ c _ _ hc => ?_
  obtain ⟨hsame, hlists, hkinds⟩ : Agrees snap c := hc
  have hattributed := attributeViolation_eq hsame hlists obs ownedIndex hkinds
  cases htarget : attributeByTargetRef snap.values obs with
  | error reason =>
    have hrest : Safe (agreeing snap) (fun _ => True) Answered (fun m' _ => Pending snap all rest m')
        (do ask (.recordUnattributed obs reason); return m) () :=
      Safe.ask_bind (stable_agreeing True) trivial (fun _ _ => ⟨trivial, trivial⟩) fun _ _ _ _ _ =>
        Safe.ret (stable_agreeing True) trivial fun _ _ => ⟨trivial, h.skip htarget⟩
    simp only [hattributed, htarget]
    split
    · exact Safe.ask_bind (stable_agreeing True) trivial (fun _ _ => ⟨trivial, trivial⟩) fun _ _ _ _ _ => hrest
    · exact hrest
  | ok wnpKey =>
    have hrest : Safe (agreeing snap) (fun _ => True) Answered (fun m' _ => Pending snap all rest m')
        (return m.push wnpKey (violationRecord wnpKey obs)) () :=
      Safe.ret (stable_agreeing True) trivial fun _ _ => ⟨trivial, h.push htarget⟩
    simp only [hattributed, htarget]
    split
    · exact Safe.ask_bind (stable_agreeing True) trivial (fun _ _ => ⟨trivial, trivial⟩) fun _ _ _ _ _ => hrest
    · exact hrest

lemma correlate_safe_agreeing (observations : List Observation) :
    Safe (agreeing snap) (fun _ => True) Answered (fun m _ => Pending snap observations [] m)
      (correlateViolationsToWNPs observations ownedIndex snap (duplicateTargets snap)) () := by
  have hstart : Pending snap observations observations ∅ := fun key => rfl
  exact Safe.foldlM (I := fun rest m _ => Pending snap observations rest m) (fun m => stable_agreeing _)
    (fun _ _ _ => trivial) observations (fun obs _ rest m _ h => correlateViolation_records obs h) hstart

lemma correlate_ends {c : IndexedCache} (hc : Agrees snap c) (observations : List Observation) :
    ∃ m, (agreeing snap).RunsOnce ((), correlateViolationsToWNPs observations ownedIndex snap (duplicateTargets snap))
      ((), .ret m) := by
  have hans : ∀ r w, True → Answered r w → ∃ x w', (agreeing snap).exec r w x w' := by
    intro r w _ hr
    cases r with
    | crash => exact absurd hr id
    | cache => exact ⟨c, w, hc⟩
    | listWNPs => exact ⟨.ok [], w, trivial⟩
    | listNetworkPolicies => exact ⟨.ok [], w, trivial⟩
    | drain => exact ⟨[], w, trivial⟩
    | recordUnattributed => exact ⟨⟨⟩, w, trivial⟩
    | recordDisagreement => exact ⟨⟨⟩, w, trivial⟩
    | now => exact ⟨0, w, trivial⟩
    | statusPatch => exact ⟨none, w, trivial⟩
    | patch => exact ⟨none, w, trivial⟩
    | emit => exact ⟨⟨⟩, w, trivial⟩
  obtain ⟨m, ⟨⟩, hrun⟩ := (correlate_safe_agreeing observations).ends hans
  exact ⟨m, hrun⟩

/-- **Every policy gets the records of its observations**, and no others. -/
theorem correlate_records {observations : List Observation} {m : ViolationsByWNP}
    (hrun : (agreeing snap).RunsOnce
      ((), correlateViolationsToWNPs observations ownedIndex snap (duplicateTargets snap)) ((), .ret m))
    (key : NamespacedName) : (m.lookup key).getD [] = observations.filterMap (recordFor snap key) := by
  have hend : Pending snap observations [] m := ((correlate_safe_agreeing observations).runsOnce hrun).post
  have hkey := hend key
  rwa [List.filterMap_nil, List.append_nil] at hkey

end Correlate

end NetworkEnforcer.Sync
