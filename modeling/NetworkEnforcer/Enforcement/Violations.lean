import NetworkEnforcer.Lib.CoarseRecency
import NetworkEnforcer.Enforcement.Kubernetes
import NetworkEnforcer.Learner.Delivery
import NetworkEnforcer.Scraper.Stream
import NetworkEnforcer.Status.Clearing
import NetworkEnforcer.Status.Invariant
import NetworkEnforcer.Status.KubernetesClearing
import NetworkEnforcer.Sync.Correlation
import NetworkEnforcer.Sync.ThreeWay

/-!
# Violations of learned policies, kubernetes backend

A flow that a policy in monitor mode does not have is reported, attributed to a policy and kept in the status.

* `monitor_report_attributed` — a reported violation belongs to the one policy for the workload and direction;
* `scraped_flows_attributed` — so does a violation that a scraper received, and the sync gets it;
* `learned_policy_keeps_violations` — the rules that the learner writes name the pods of the peer, and the test of
  `clearAllowedKubernetesViolations` is for rules that do not.  So nothing is ever cleared from the status of such a
  policy, even if it has learned the flow since: the status has the newest hundred of everything that was observed.
-/

namespace NetworkEnforcer.Enforcement

open NetworkEnforcer.Lib NetworkEnforcer.Api NetworkEnforcer.Semantics NetworkEnforcer.Status
open NetworkEnforcer.Learning hiding World Request ask reconcile admits system Answers

/-! ## Rules that name pods -/

/-- The one peer of a rule is given by a selector of pods that does not select every pod. -/
def NamesPods (lib : Apimachinery) (peers : List NetworkPolicyPeer) : Prop :=
  ∃ peer selector labels, peers = [peer] ∧ peer.podSelector = some selector ∧ selects lib selector labels = false

/-- The workload of the peer does not consist of all pods. -/
def ProperPeer (lib : Apimachinery) (e : LearnedFlow) : Prop := ∃ labels, selects lib e.peer.selector labels = false

section Rules

variable {lib : Apimachinery} {R : Type} (T : PeerPortRule R)

/-- An upsert leaves the peers of the rules as they are, and adds at most one rule with its own peer. -/
lemma forall_peers_upsert {P : List NetworkPolicyPeer → Prop} {peer : NetworkPolicyPeer} {port : NetworkPolicyPort}
    {rules : List R} (hrules : ∀ rule ∈ rules, P (T.peers rule)) (hpeer : P [peer]) :
    ∀ rule ∈ upsertRuleByPeer lib T peer port rules, P (T.peers rule) := by
  induction rules with
  | nil =>
    intro rule hrule
    obtain rfl := List.mem_singleton.1 hrule
    rw [T.peers_rule]
    exact hpeer
  | cons first rules ih =>
    obtain ⟨hfirst, hrest⟩ := List.forall_mem_cons.1 hrules
    rw [upsertRuleByPeer]
    split
    · split
      · exact hrules
      · refine List.forall_mem_cons.2 ⟨?_, hrest⟩
        rw [T.peers_rule]
        exact hfirst
    · exact List.forall_mem_cons.2 ⟨hfirst, ih hrest⟩

/-- No rule that names pods compares equal to one that is for a whole namespace. -/
lemma not_equal_of_namesPods (hlib : LawfulSelectors lib) {ns : String} {peers : List NetworkPolicyPeer}
    (h : NamesPods lib peers) : equalUnordered [namespacePeer ns] peers (policyPeerEqual lib) = false := by
  rw [Bool.eq_false_iff]
  intro hequal
  obtain ⟨peer, selector, labels, rfl, hselector, hproper⟩ := h
  obtain ⟨peer', hpeers, hpeer⟩ := equalUnordered_singleton hequal
  obtain rfl := List.singleton_injective hpeers
  rw [policyPeerEqual, Bool.and_eq_true, Bool.and_eq_true] at hpeer
  have htext : lib.formatLabelSelector none = lib.formatLabelSelector peer.podSelector :=
    of_decide_eq_true hpeer.1.2
  rw [hselector] at htext
  rw [hlib.missing selector htext.symm labels] at hproper
  cases hproper

end Rules

/-! ## Learned policies -/

/-- Every rule of the specification names pods. -/
structure PodRules (lib : Apimachinery) (spec : NetworkPolicySpec) : Prop where
  egress : ∀ rule ∈ spec.egress, NamesPods lib rule.to_
  ingress : ∀ rule ∈ spec.ingress, NamesPods lib rule.from_

section Learned

variable {lib : Apimachinery} {workload : WorkloadRef} {direction : PolicyType}

lemma namesPods_peer {e : LearnedFlow} (h : ProperPeer lib e) : NamesPods lib [e.peerAndPort.1] := by
  obtain ⟨labels, hlabels⟩ := h
  exact ⟨_, e.peer.selector, labels, rfl, rfl, hlabels⟩

/-- One more flow. -/
lemma PodRules.mutate {proposal proposal' : WorkloadNetworkPolicyProposalSpec} {e : LearnedFlow}
    (h : PodRules lib (proposal.kubernetes.getD {})) (he : ProperPeer lib e)
    (hmut : mutateKubernetesProposal lib workload e.peer direction e.protocol e.dstPort proposal = .ok proposal') :
    PodRules lib (proposal'.kubernetes.getD {}) := by
  have hegress := h.egress
  have hingress := h.ingress
  cases direction with
  | unset => cases hmut
  | egress =>
    obtain rfl := Except.ok.inj hmut
    refine ⟨forall_peers_upsert egressRule ?_ (namesPods_peer he), ?_⟩
    · rw [selectWorkload_egress]
      exact hegress
    · intro rule hrule
      have hmem : rule ∈ (selectWorkload workload .egress (proposal.kubernetes.getD {})).ingress := hrule
      rw [selectWorkload_ingress] at hmem
      exact hingress rule hmem
  | ingress =>
    obtain rfl := Except.ok.inj hmut
    refine ⟨?_, forall_peers_upsert ingressRule ?_ (namesPods_peer he)⟩
    · intro rule hrule
      have hmem : rule ∈ (selectWorkload workload .ingress (proposal.kubernetes.getD {})).egress := hrule
      rw [selectWorkload_egress] at hmem
      exact hegress rule hmem
    · rw [selectWorkload_ingress]
      exact hingress

lemma PodRules.foldlM (events : List LearnedFlow) {proposal proposal' : WorkloadNetworkPolicyProposalSpec}
    (h : PodRules lib (proposal.kubernetes.getD {})) (hpeers : ∀ e ∈ events, ProperPeer lib e)
    (hfold : events.foldlM (fun spec e => mutateKubernetesProposal lib workload e.peer direction e.protocol
      e.dstPort spec) proposal = .ok proposal') : PodRules lib (proposal'.kubernetes.getD {}) := by
  induction events generalizing proposal with
  | nil =>
    obtain rfl := Except.ok.inj hfold
    exact h
  | cons e events ih =>
    obtain ⟨he, hpeers⟩ := List.forall_mem_cons.1 hpeers
    rw [List.foldlM_cons] at hfold
    cases hmut : mutateKubernetesProposal lib workload e.peer direction e.protocol e.dstPort proposal with
    | error err =>
      rw [hmut] at hfold
      cases hfold
    | ok mid =>
      rw [hmut] at hfold
      exact ih (h.mutate he hmut) hpeers hfold

end Learned

/-- The specification of a policy that was promoted from a proposal, which was learned from flows with proper
workloads. -/
def IsLearnedPolicy (lib : Apimachinery) (spec : WorkloadNetworkPolicySpec) : Prop :=
  ∃ workload direction events proposal mode policy, events ≠ [] ∧ (∀ e ∈ events, ProperPeer lib e) ∧
    learnKubernetesProposal lib workload direction events = .ok proposal.spec ∧
    promotedPolicy proposal mode = .ok policy ∧ spec = policy.spec

/-- **No violation is permitted by a learned policy**, by the test of the status. -/
theorem not_permits_of_learned {lib : Apimachinery} (hlib : LawfulSelectors lib) {spec : WorkloadNetworkPolicySpec}
    (h : IsLearnedPolicy lib spec) : spec.backend = .kubernetes ∧ spec.kubernetes.isSome = true ∧
      ∀ v, Status.permits lib spec v = false := by
  obtain ⟨workload, direction, events, proposal, mode, policy, hne, hpeers, hlearn, hpolicy, rfl⟩ := h
  obtain ⟨hbackend, -, k, hk, -⟩ := promoted_of_learned hne hlearn hpolicy
  have hsame : policy.spec.kubernetes = proposal.spec.kubernetes := by rw [(promotedPolicy_eq_ok hpolicy).2.2]
  have hstart : PodRules lib ((getProposalMetadata workload direction).spec.kubernetes.getD {}) := by
    refine ⟨?_, ?_⟩
    · exact fun _ hrule => absurd hrule List.not_mem_nil
    · exact fun _ hrule => absurd hrule List.not_mem_nil
  have hrules := hstart.foldlM events hpeers hlearn
  rw [← hsame, hk, Option.getD_some] at hrules
  refine ⟨hbackend, by rw [hk]; rfl, fun v => ?_⟩
  simp only [Status.permits, hbackend, hk, Option.any_some, kubernetesAllows, Bool.or_eq_false_iff,
    List.any_eq_false, Bool.not_eq_true]
  refine ⟨fun rule hrule => ?_, fun rule hrule => ?_⟩
  · simp only [ingressRuleEqual, ViolationRecord.toIngressRule,
      not_equal_of_namesPods hlib (hrules.ingress rule hrule), Bool.false_and]
  · simp only [egressRuleEqual, ViolationRecord.toEgressRule,
      not_equal_of_namesPods hlib (hrules.egress rule hrule), Bool.false_and]

/-! ## The status over many cycles -/

/-- A cycle of the sync on a policy.  The status that it computes is sent as a patch, and the next cycle finds what the
server has stored; `none` if the call would dereference a nil pointer. -/
def syncCycle (lib : Apimachinery) (w : WorkloadNetworkPolicy) (c : Call) : Option WorkloadNetworkPolicy :=
  ((c.edit w).recomputeStatus lib c.scraped c.now).map fun out =>
    Sync.patchStatus (Sync.mergeFrom (c.edit w) out.1) (c.edit w)

/-- Cycle after cycle. -/
def syncCycles (lib : Apimachinery) (w : WorkloadNetworkPolicy) (calls : List Call) : Option WorkloadNetworkPolicy :=
  calls.foldlM (syncCycle lib) w

/-- Everything that was observed in a run. -/
def observed (calls : List Call) : List ViolationRecord := calls.flatMap (·.scraped)

/-- The key and the time of a record, as they are stored. -/
def storedEntry (v : ViolationRecord) : ViolationRecordKey × Time := entry (Sync.storedRecord v)

/-- What a cycle leaves behind: at most a hundred violations, each of them once, with their times in whole seconds. -/
structure Settled (violations : List ViolationRecord) : Prop where
  keys : (violations.map ViolationRecord.key).Nodup
  short : violations.length ≤ maxViolationRecords
  times : ∀ v ∈ violations, Sync.storedRecord v = v

/-- A call that removes no violation of this kind and observes no other: no rule permits one, and nobody acknowledges
a violation. -/
structure Keeps (lib : Apimachinery) (kind : ViolationRecordKey → Prop) (c : Call) : Prop where
  template : c.spec.backend = .kubernetes → c.spec.kubernetes.isSome = true
  annotations : ∀ k ∈ c.annotations, acknowledgedID k = none
  unpermitted : ∀ k, kind k → Status.permits lib c.spec (ofKey k) = false
  scraped : ∀ v ∈ c.scraped, kind v.key

lemma wholeSeconds_le_wholeSeconds {s t : Time} (h : s ≤ t) : Sync.wholeSeconds s ≤ Sync.wholeSeconds t :=
  Int.mul_le_mul_of_nonneg_right (Int.ediv_le_ediv (by decide) h) (by decide)

lemma map_storedEntry (l : List ViolationRecord) :
    l.map storedEntry = (l.map entry).map (coarsen Sync.wholeSeconds) := by
  rw [List.map_map]
  rfl

/-- A patch against the stored policy stores the computed status. -/
lemma status_patched (w new : WorkloadNetworkPolicy) :
    (Sync.patchStatus (Sync.mergeFrom w new) w).status = Sync.storedStatus new.status := by
  rw [Sync.patchStatus_status]
  simp only [Sync.mergeStatus, Sync.merge3_stored]

section Cycles

variable {lib : Apimachinery} {kind : ViolationRecordKey → Prop} {c : Call} {w : WorkloadNetworkPolicy}

/-- The keys after a merge are those of the violations and the observations. -/
lemma kind_of_mem_newest {n : Nat} {violations scraped : List ViolationRecord}
    (hkeys : ((violations.map entry).map Prod.fst).Nodup) (hold : ∀ v ∈ violations, kind v.key)
    (hnew : ∀ v ∈ scraped, kind v.key) {e : ViolationRecordKey × Time}
    (he : e ∈ newest n ((scraped.map entry).foldl observe (violations.map entry))) : kind e.1 := by
  have hmem := foldl_observe_subset hkeys ((sortDesc_perm _ _).subset (List.mem_of_mem_take he))
  rw [List.mem_append, List.mem_map, List.mem_map] at hmem
  rcases hmem with ⟨v, hv, rfl⟩ | ⟨v, hv, rfl⟩
  · exact hold v hv
  · exact hnew v hv

/-- What a cycle stores: the observations are merged, nothing is cleared, and the times are cut to seconds. -/
lemma entries_syncCycle (hc : Keeps lib kind c) (hkeys : ((w.status.violations.map entry).map Prod.fst).Nodup)
    (hold : ∀ v ∈ w.status.violations, kind v.key) :
    ∃ w', syncCycle lib w c = some w' ∧ (∀ v ∈ w'.status.violations, Sync.storedRecord v = v) ∧
      w'.status.violations.map entry = (newest maxViolationRecords
        ((c.scraped.map entry).foldl observe (w.status.violations.map entry))).map (coarsen Sync.wholeSeconds) := by
  have hentries := entries_activeAfter lib (c.edit w) c.scraped hc.annotations hc.template c.now
  have hall : ∀ e ∈ newest maxViolationRecords ((c.scraped.map entry).foldl observe (w.status.violations.map entry)),
      (!Status.permits lib (c.edit w).spec (ofKey e.1)) = true := by
    intro e he
    have hkind : kind e.1 := kind_of_mem_newest hkeys hold hc.scraped he
    rw [show Status.permits lib (c.edit w).spec (ofKey e.1) = false from hc.unpermitted _ hkind]
    rfl
  rw [show (c.edit w).status = w.status from rfl, List.filter_eq_self.2 hall] at hentries
  unfold activeAfter at hentries
  unfold syncCycle
  cases hres : (c.edit w).recomputeStatus lib c.scraped c.now with
  | none =>
    rw [hres] at hentries
    cases hentries
  | some out =>
    rw [hres] at hentries
    have hviolations : out.1.status.violations.map entry = _ := Option.some.inj hentries
    refine ⟨_, rfl, ?_, ?_⟩
    · rw [status_patched]
      intro v hv
      obtain ⟨v, -, rfl⟩ := List.mem_map.1 hv
      simp only [Sync.storedRecord, Sync.wholeSeconds_wholeSeconds]
    · rw [status_patched, ← hviolations, ← map_storedEntry]
      exact List.map_map ..

/-- **One cycle** keeps the newest, and counts its observations in. -/
lemma isNewest_syncCycle {T : ViolationRecordKey → WithBot Time} (hc : Keeps lib kind c)
    (hnewest : IsNewest maxViolationRecords T (w.status.violations.map entry))
    (htimes : ∀ v ∈ w.status.violations, Sync.storedRecord v = v) (hold : ∀ v ∈ w.status.violations, kind v.key) :
    ∃ w', syncCycle lib w c = some w' ∧
      IsNewest maxViolationRecords (T ⊔ latest (c.scraped.map storedEntry)) (w'.status.violations.map entry) ∧
      (∀ v ∈ w'.status.violations, Sync.storedRecord v = v) ∧ ∀ v ∈ w'.status.violations, kind v.key := by
  obtain ⟨w', hrun, htimes', hentries⟩ := entries_syncCycle hc hnewest.nodup hold
  have hfix : ∀ a ∈ w.status.violations.map entry, Sync.wholeSeconds a.2 = a.2 :=
    List.forall_mem_map.2 fun v hv => congrArg (·.timestamp) (htimes v hv)
  refine ⟨w', hrun, ?_, htimes', fun v hv => ?_⟩
  · rw [hentries, map_storedEntry]
    exact hnewest.round (fun _ _ h => wholeSeconds_le_wholeSeconds h) hfix _
  · have hmem : entry v ∈ w'.status.violations.map entry := List.mem_map_of_mem hv
    rw [hentries] at hmem
    obtain ⟨e, he, heq⟩ := List.mem_map.1 hmem
    rw [show v.key = e.1 from (congrArg Prod.fst heq).symm]
    exact kind_of_mem_newest hnewest.nodup hold hc.scraped he

lemma latest_map_append (l l' : List ViolationRecord) :
    latest ((l ++ l').map storedEntry) = latest (l.map storedEntry) ⊔ latest (l'.map storedEntry) := by
  funext k
  rw [List.map_append, latest_append]
  rfl

/-- **Any number of cycles**, by induction on the calls. -/
lemma isNewest_syncCycles {calls : List Call} (hcalls : ∀ c ∈ calls, Keeps lib kind c)
    {T : ViolationRecordKey → WithBot Time}
    (hnewest : IsNewest maxViolationRecords T (w.status.violations.map entry))
    (htimes : ∀ v ∈ w.status.violations, Sync.storedRecord v = v) (hold : ∀ v ∈ w.status.violations, kind v.key) :
    ∃ w', syncCycles lib w calls = some w' ∧
      IsNewest maxViolationRecords (T ⊔ latest ((observed calls).map storedEntry))
        (w'.status.violations.map entry) := by
  induction calls generalizing w T with
  | nil =>
    refine ⟨w, rfl, ?_⟩
    rw [show latest ((observed []).map storedEntry) = ⊥ from rfl, sup_bot_eq]
    exact hnewest
  | cons c calls ih =>
    obtain ⟨hc, hcalls⟩ := List.forall_mem_cons.1 hcalls
    obtain ⟨mid, hmid, hnewest', htimes', hold'⟩ := isNewest_syncCycle hc hnewest htimes hold
    obtain ⟨w', hrun, hlast⟩ := ih hcalls hnewest' htimes' hold'
    refine ⟨w', ?_, ?_⟩
    · rw [syncCycles, List.foldlM_cons, hmid]
      exact hrun
    · rw [observed, List.flatMap_cons, latest_map_append, ← sup_assoc]
      exact hlast

/-- **Where nothing is removed, the status has the newest hundred** of what was there and what was observed. -/
theorem syncCycles_keeps {calls : List Call} (hcalls : ∀ c ∈ calls, Keeps lib kind c)
    (hstart : Settled w.status.violations) (hold : ∀ v ∈ w.status.violations, kind v.key) :
    ∃ w', syncCycles lib w calls = some w' ∧ IsNewest maxViolationRecords
      (latest ((w.status.violations ++ observed calls).map storedEntry)) (w'.status.violations.map entry) := by
  have hsame : w.status.violations.map storedEntry = w.status.violations.map entry :=
    List.map_congr_left fun v hv => congrArg entry (hstart.times v hv)
  have hkeys : ((w.status.violations.map entry).map Prod.fst).Nodup := by
    rw [List.map_map]
    exact hstart.keys
  have hshort : (w.status.violations.map entry).length ≤ maxViolationRecords := by
    rw [List.length_map]
    exact hstart.short
  rw [latest_map_append, hsame]
  exact isNewest_syncCycles hcalls (.of_nodup hkeys hshort) hstart.times hold

end Cycles

/-- A call on a learned policy that nobody acknowledges a violation of. -/
structure Unacknowledged (lib : Apimachinery) (c : Call) : Prop where
  learned : IsLearnedPolicy lib c.spec
  annotations : ∀ k ∈ c.annotations, acknowledgedID k = none

/-- **The violations of a learned policy are the newest hundred of all that was observed.**  Cycle after cycle, each on
the status that the one before has stored and with whatever flows the policy has learned by then, also those that were
reported before: as long as nobody acknowledges a violation, none leaves the status but for a hundred others that are,
in whole seconds, not older. -/
theorem learned_policy_keeps_violations {lib : Apimachinery} (hlib : LawfulSelectors lib) {calls : List Call}
    (hcalls : ∀ c ∈ calls, Unacknowledged lib c) {w : WorkloadNetworkPolicy} (hstart : Settled w.status.violations) :
    ∃ w', syncCycles lib w calls = some w' ∧ IsNewest maxViolationRecords
      (latest ((w.status.violations ++ observed calls).map storedEntry)) (w'.status.violations.map entry) := by
  have hkeeps : ∀ c ∈ calls, Keeps lib (fun _ => True) c := by
    intro c hc
    obtain ⟨-, hk, hpermits⟩ := not_permits_of_learned hlib (hcalls c hc).learned
    exact ⟨fun _ => hk, (hcalls c hc).annotations, fun k _ => hpermits (ofKey k), fun _ _ => trivial⟩
  exact syncCycles_keeps hkeeps hstart fun _ _ => trivial

/-- The flow that `webPolicy` has learned, as a violation of it. -/
def learnedViolation : ViolationRecord where
  timestamp := 3500000000
  source := shopWorkload "web"
  dest := webToDB.peer
  protocol := webToDB.protocol
  dstPort := webToDB.dstPort
  action := .monitor
  denyingPolicyNamespace := webPolicy.ns
  denyingPolicyName := webPolicy.name

/-- A cycle of the sync on `webPolicy`. -/
def webCycle (scraped : List ViolationRecord) : Call where
  spec := webPolicy.spec
  annotations := ∅
  generation := 1
  scraped := scraped
  now := 9000000000

/-- The policy has the rule of the flow, and yet its violation stays in the status, with the second it was seen in. -/
theorem learned_policy_keeps_violations_web :
    ∃ w', syncCycles namespaceSelectors webPolicy [webCycle [learnedViolation], webCycle []] = some w' ∧
      w'.status.violations.map entry = [(learnedViolation.key, 3000000000)] := by
  have hlearned : IsLearnedPolicy namespaceSelectors webPolicy.spec := by
    obtain ⟨promoted, hpromoted⟩ := exists_promotedPolicy webProposal (by decide) .protect
    refine ⟨shopWorkload "web", .egress, [webToDB], webProposal, .protect, promoted, List.cons_ne_nil _ _, ?_, rfl,
      hpromoted, (promotedPolicy_eq_ok hpromoted).2.2.symm⟩
    intro e he
    obtain rfl := List.mem_singleton.1 he
    exact ⟨∅, by decide⟩
  have hcycle : ∀ scraped, Unacknowledged namespaceSelectors (webCycle scraped) := fun _ =>
    ⟨hlearned, fun _ hk => absurd hk (AList.notMem_empty _)⟩
  have hstart : Settled webPolicy.status.violations := ⟨List.nodup_nil, by decide, List.forall_mem_nil _⟩
  have hcalls : ∀ c ∈ [webCycle [learnedViolation], webCycle []], Unacknowledged namespaceSelectors c :=
    List.forall_mem_cons.2 ⟨hcycle _, List.forall_mem_cons.2 ⟨hcycle _, List.forall_mem_nil _⟩⟩
  obtain ⟨w', hrun, hnewest⟩ := learned_policy_keeps_violations lawful_namespaceSelectors hcalls hstart
  exact ⟨w', hrun, hnewest.eq_singleton (by decide)⟩

/-! ## From the monitor to the policy -/

section Monitor

open NetworkEnforcer.Attribution NetworkEnforcer.Workload

variable {lib : Apimachinery}

/-- With a known subject the policy is the one that targets it. -/
lemma attributeViolation_eq_ok_iff {c : IndexedCache} {snap : Snapshot} (h : Sync.Agrees snap c)
    (nps : List NetworkPolicy) {obs : Observation} {subject : WorkloadRef}
    (hsubject : violationSubject obs = some subject) (key : NamespacedName) :
    (attributeViolation c obs (buildOwnershipIndex nps snap) snap (duplicateTargets snap)).1 = .ok key ↔
      ∃ wnp, snap.values.filter (targets subject.ns (targetRefOf subject) obs.direction) = [wnp] ∧
        wnp.key = key := by
  rw [attributeViolation_eq h.same h.lists _ _ h.kinds, attributeByTargetRef_eq_ok, hsubject]
  constructor
  · rintro ⟨_, wnp, hs, hone, hkey⟩
    obtain rfl := Option.some.inj hs
    exact ⟨wnp, hone, hkey⟩
  · rintro ⟨wnp, hone, hkey⟩
    exact ⟨subject, wnp, rfl, hone, hkey⟩

/-- The subject of a monitor violation is the workload that was monitored. -/
lemma subject_of_monitor {event : LearningEvent} (hcomplete : Scraper.Recordable lib (.enqueue event))
    {workload : WorkloadRef} {direction : PolicyType} {flow : LearnedFlow}
    (hu : LearnerUpdate.kubernetes workload direction flow ∈ Learner.updates event) (policyName : String)
    (now : Time) : Resolved lib workload ∧
      violationSubject (generateViolationObservation policyName workload flow.peer flow.protocol direction
        flow.dstPort now) = some workload := by
  obtain ⟨source, dest, hsource, hdest, hs, hd⟩ := hcomplete
  simp only [Learner.updates, hsource, hdest] at hu
  split at hu
  · cases List.mem_singleton.1 hu
  · rcases List.mem_cons.1 hu with hu | hu
    · obtain ⟨rfl, rfl, rfl⟩ := LearnerUpdate.kubernetes.inj hu
      exact ⟨hs, Scraper.Resolved.violationSubject_eq hs (.inl ⟨rfl, rfl⟩)⟩
    · obtain ⟨rfl, rfl, rfl⟩ := LearnerUpdate.kubernetes.inj (List.mem_singleton.1 hu)
      exact ⟨hd, Scraper.Resolved.violationSubject_eq hd (.inr ⟨rfl, rfl⟩)⟩

/-- **A monitor violation reaches the policy of its workload.**  In a run of the learner whose events are complete,
as the scrapers of the network deliver them, every reported violation is that of a known workload.  When cache and
snapshot of the sync agree, it is recorded for a policy exactly if that is the one policy that targets the workload
in the direction of the flow. -/
theorem monitor_report_attributed {ctrl : Reconcile.ControllerLib}
    {initial : Store fun p : WorkloadNetworkPolicyProposal => p.namespacedName} {w : Learner.World}
    (h : Learner.Reachable lib ctrl initial w)
    (hcomplete : ∀ event ∈ w.accepted, event.backend ≠ .istio → Scraper.Recordable lib (.enqueue event))
    {obs : Observation} (hobs : obs ∈ w.monitor.emitted) {c : IndexedCache} {snap : Snapshot}
    (nps : List NetworkPolicy) (hsame : c.wnps.Perm snap.values)
    (hlist : ∀ ns key, ∃ items, c.listByTarget ns key = .ok items)
    (hkinds : ∀ wnp ∈ c.wnps, wnp.spec.targetRef.kind ∈ supportedKinds) :
    ∃ subject, Resolved lib subject ∧ violationSubject obs = some subject ∧ ∀ key,
      (attributeViolation c obs (buildOwnershipIndex nps snap) snap (duplicateTargets snap)).1 = .ok key ↔
        ∃ wnp, snap.values.filter (targets subject.ns (targetRefOf subject) obs.direction) = [wnp] ∧
          wnp.key = key := by
  obtain ⟨event, hevent, workload, direction, flow, hu, policy, -, -, -, -, now, rfl⟩ := h.inv.justified hobs
  have hbackend : event.backend ≠ .istio := by
    intro hb
    unfold Learner.updates at hu
    split at hu
    · rw [if_pos hb] at hu
      cases List.mem_singleton.1 hu
    · cases hu
  obtain ⟨hresolved, hsubject⟩ := subject_of_monitor (hcomplete event hevent hbackend) hu policy.name now
  exact ⟨workload, hresolved, hsubject, attributeViolation_eq_ok_iff ⟨hsame, hlist, hkinds⟩ nps hsubject⟩

/-- The violation that the monitor reports of `web` is recorded for its policy. -/
theorem monitor_report_attributed_web : ∃ w obs, Learner.Reachable .documented (.direct 0) (.ofList []) w ∧
    w.monitor.emitted = [obs] ∧
    (attributeViolation ⟨.ofList [Learner.monitorPolicy], fun _ => none⟩ obs (buildOwnershipIndex []
      (wnpByKey [Learner.monitorPolicy])) (wnpByKey [Learner.monitorPolicy])
      (duplicateTargets (wnpByKey [Learner.monitorPolicy]))).1 = .ok Learner.monitorPolicy.key := by
  obtain ⟨w, hw, haccepted, hemitted⟩ := Learner.reported_run
  have hcomplete : ∀ event ∈ w.accepted, event.backend ≠ .istio →
      Scraper.Recordable .documented (.enqueue event) := by
    intro event hevent _
    rw [haccepted] at hevent
    obtain rfl := List.mem_singleton.1 hevent
    refine ⟨sampleWorkload "web", sampleWorkload "db", rfl, rfl, ?_, ?_⟩
    · exact ⟨by decide, by decide, by decide, ⟨_, rfl⟩, by decide⟩
    · exact ⟨by decide, by decide, by decide, ⟨_, rfl⟩, by decide⟩
  have hobs : generateViolationObservation "web-egress" (sampleWorkload "web") (sampleWorkload "db") "TCP" .egress
      5432 7 ∈ w.monitor.emitted := by
    rw [hemitted]
    exact List.mem_singleton_self _
  let c : IndexedCache := ⟨.ofList [Learner.monitorPolicy], fun _ => none⟩
  have hsame : c.wnps.Perm (wnpByKey [Learner.monitorPolicy]).values := List.Perm.refl _
  obtain ⟨subject, -, hsubject, hattributed⟩ := monitor_report_attributed hw hcomplete hobs (c := c) [] hsame
    (fun _ _ => ⟨_, rfl⟩) (by decide)
  obtain rfl : sampleWorkload "web" = subject := Option.some.inj hsubject
  exact ⟨w, _, hw, hemitted, (hattributed _).2 ⟨Learner.monitorPolicy, rfl, rfl⟩⟩

end Monitor

/-! ## From the stream to the policy -/

section Stream

open NetworkEnforcer.Attribution NetworkEnforcer.Workload
open NetworkEnforcer.Scraper (Source Course Outcome Sinks Recordable)

/-- **A violation that was received reaches the policy of its workload.**  In every run of a scraper on flows with a
direction that the provider knows, the learner gets complete events only.  Every violation of a flow is drained by the
sync or still in the buffer, unless the buffer has dropped some; and when cache and snapshot of the sync agree, it is
recorded for a policy exactly if that is the one policy that targets its workload in the direction of the flow. -/
theorem scraped_flows_attributed {F : Type} {src : Source F} {lib : Apimachinery} {marshalFlow : F → Except Err Bytes}
    {otlp : Bool} {flowDumperBuffer : Option (Ringbuf.Buffer Bytes)} {course : Course F} {rounds : Nat}
    {outcome : Outcome} {s : Sinks}
    (hrun : course.start src lib marshalFlow rounds (.start otlp flowDumperBuffer) = (outcome, .ok s))
    (hdeclared : ∀ a ∈ course.received outcome.attempts, src.Declared a.flow) :
    (∀ event ∈ s.taken ++ s.channel, Recordable lib (.enqueue event)) ∧
    ∀ obs ∈ Scraper.violationsOf src lib (course.received outcome.attempts),
      (s.dropped = 0 → obs ∈ s.drained ++ s.violationBuffer.drain.1.reverse) ∧
      ∃ subject, Resolved lib subject ∧ violationSubject obs = some subject ∧
        ∀ (c : IndexedCache) (snap : Snapshot) (nps : List NetworkPolicy) (key : NamespacedName), Sync.Agrees snap c →
          ((attributeViolation c obs (buildOwnershipIndex nps snap) snap (duplicateTargets snap)).1 = .ok key ↔
            ∃ wnp, snap.values.filter (targets subject.ns (targetRefOf subject) obs.direction) = [wnp] ∧
              wnp.key = key) := by
  have haccounts := Course.start_accounts hrun
  constructor
  · intro event hevent
    obtain ⟨a, ha, hresult⟩ := Scraper.mem_eventsOf.1 (haccounts.sent.subset hevent)
    rw [← hresult]
    exact a.recordable (hdeclared a ha)
  · intro obs hobs
    refine ⟨fun hdropped => ?_, ?_⟩
    · obtain ⟨hsub, hlength⟩ := haccounts.kept.delivered
      rw [hdropped, Nat.add_zero] at hlength
      rw [hsub.eq_of_length hlength]
      exact haccounts.recorded.subset hobs
    · obtain ⟨a, ha, hresult⟩ := Scraper.mem_violationsOf.1 hobs
      have hrecordable : Recordable lib (a.result src lib) := a.recordable (hdeclared a ha)
      rw [hresult] at hrecordable
      obtain ⟨⟨subject, hsubject, hresolved⟩, -⟩ := hrecordable
      exact ⟨subject, hresolved, hsubject, fun c snap nps key h => attributeViolation_eq_ok_iff h nps hsubject key⟩

/-- A flow of `web` out of the cluster, after which the context is done and the sync drains the buffer. -/
def droppedCourse : Course (Option Scraper.GetFlowsResponse) where
  session _ :=
    { arrivals := [{ flow := some (.flow (some Scraper.droppedFlow)), client := Scraper.webClient, wnps := .ofList [],
                     now := 0 }]
      recvErr := { text := "context canceled" }
      contextDone := true
      after := [.drain] }
  done t := decide (1 ≤ t)
  retry := .lines { text := "context canceled", isCanceled := true }
  done_mono h hdone := decide_eq_true ((of_decide_eq_true hdone).trans h)
  done_of_contextDone k _ := decide_eq_true (by unfold Scraper.afterAttempt; omega)

/-- The violation of that flow. -/
def droppedViolation : Observation :=
  { provider := .kubernetes, direction := .egress, timestamp := 7, source := Scraper.webRef,
    dest := { ownerName := "203.0.113.7" }, protocol := "TCP", dstPort := 443, action := .protect }

/-- The sync has drained it, and records it for the policy of `web`. -/
theorem scraped_flows_attributed_web :
    ∃ s, Scraper.CiliumScraper.start droppedCourse .documented (fun _ => .ok []) 1 (.start false none) =
        (.returned none 1 1, .ok s) ∧ droppedViolation ∈ s.drained ∧
      (attributeViolation ⟨.ofList [Learner.monitorPolicy], fun _ => none⟩ droppedViolation (buildOwnershipIndex []
        (wnpByKey [Learner.monitorPolicy])) (wnpByKey [Learner.monitorPolicy])
        (duplicateTargets (wnpByKey [Learner.monitorPolicy]))).1 = .ok Learner.monitorPolicy.key := by
  obtain ⟨s, hrun, hdropped, hempty⟩ : ∃ s, Scraper.CiliumScraper.start droppedCourse .documented
      (fun _ => .ok []) 1 (.start false none) = (.returned none 1 1, .ok s) ∧
        s.dropped = 0 ∧ s.violationBuffer.drain.1 = [] := ⟨_, rfl, rfl, rfl⟩
  have hviolation : droppedViolation ∈ Scraper.violationsOf Scraper.hubble .documented (droppedCourse.received 1) :=
    Scraper.mem_violationsOf.2 ⟨_, List.mem_cons_self .., rfl⟩
  have hdeclared : ∀ a ∈ droppedCourse.received 1, Scraper.hubble.Declared a.flow := by
    intro a ha
    obtain rfl := List.mem_singleton.1 ha
    intro flow hflow n
    obtain rfl : Scraper.droppedFlow = flow :=
      Option.some.inj (Scraper.GetFlowsResponse.flow.inj (Option.some.inj hflow))
    intro hn
    cases hn
  obtain ⟨hkept, subject, -, hsubject, hattributed⟩ := (scraped_flows_attributed hrun hdeclared).2 droppedViolation
    hviolation
  obtain rfl : Scraper.webRef = subject := Option.some.inj hsubject
  have hmem := hkept hdropped
  rw [hempty, List.reverse_nil, List.append_nil] at hmem
  have hagrees : Sync.Agrees (wnpByKey [Learner.monitorPolicy]) ⟨.ofList [Learner.monitorPolicy], fun _ => none⟩ :=
    ⟨List.Perm.refl _, fun _ _ => ⟨_, rfl⟩, by decide⟩
  exact ⟨s, hrun, hmem, (hattributed _ _ _ _ hagrees).2 ⟨Learner.monitorPolicy, rfl, rfl⟩⟩

end Stream

end NetworkEnforcer.Enforcement
