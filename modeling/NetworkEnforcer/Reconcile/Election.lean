import Mathlib.Data.Prod.Lex
import Mathlib.Data.String.Basic
import NetworkEnforcer.Attribution.Soundness
import NetworkEnforcer.Reconcile.Controller

/-!
# The election among policies with one target

Policies are ordered by their `age`, a linear order, and the oldest policy of a list is one of least
age (`oldest_minimal`).  `conflictIn` is what `checkDuplicateTarget` answers, as a function of the cluster
alone: neither the reader nor the order of its lists matters (`checkDuplicateTarget_eq`), because the answer
depends on the ages of the listed policies and not on their order (`conflictOf_congr`).  `Loses` is the
election said without lists; the check agrees with it in both directions (`winner_eq_false_of_loses`,
`winner_of_not_loses`).
-/

namespace NetworkEnforcer.Reconcile

open NetworkEnforcer.Lib NetworkEnforcer.Api NetworkEnforcer.Workload
open NetworkEnforcer.Attribution (wnpTargetKey wnpTargetKey_eq_some_iff)

/-! ## The order -/

/-- What policies are ordered by: the time of creation, then the name. -/
def age (w : WorkloadNetworkPolicy) : Int ×ₗ String := toLex (w.creationTimestamp, w.name)

lemma older_iff {a b : WorkloadNetworkPolicy} : older a b = true ↔ age a < age b := by
  rw [age, age, Prod.Lex.toLex_lt_toLex]
  unfold older
  split
  · simp [*]
  · rename_i h1
    split
    · rename_i h2
      simp [h1, ne_of_gt h2]
    · rename_i h2
      simp [le_antisymm (not_lt.1 h2) (not_lt.1 h1)]

/-- **The election picks a policy no other is older than.** -/
theorem oldest_minimal (rest : List WorkloadNetworkPolicy) : ∀ first : WorkloadNetworkPolicy,
    oldestWorkloadNetworkPolicy first rest ∈ first :: rest ∧
      ∀ x ∈ first :: rest, age (oldestWorkloadNetworkPolicy first rest) ≤ age x := by
  induction rest with
  | nil =>
    intro first
    refine ⟨List.mem_singleton_self _, fun x hx => ?_⟩
    rw [List.mem_singleton.1 hx]
    exact le_rfl
  | cons y rest ih =>
    intro first
    -- one turn of the loop: `y` takes the place of `first` when it is older
    have hunfold : oldestWorkloadNetworkPolicy first (y :: rest) =
        oldestWorkloadNetworkPolicy (if older y first then y else first) rest := rfl
    rw [hunfold]
    obtain ⟨hmem, hmin⟩ := ih (if older y first then y else first)
    have hhead := hmin _ (List.mem_cons_self ..)
    have hle : age (if older y first then y else first) ≤ age first ∧
        age (if older y first then y else first) ≤ age y := by
      split
      · rename_i h; exact ⟨(older_iff.1 h).le, le_rfl⟩
      · rename_i h; exact ⟨le_rfl, not_lt.1 (mt older_iff.2 h)⟩
    constructor
    · rcases List.mem_cons.1 hmem with h | h
      · rw [h]
        split <;> simp
      · exact List.mem_cons_of_mem _ (List.mem_cons_of_mem _ h)
    · intro x hx
      rcases List.mem_cons.1 hx with rfl | hx
      · exact hhead.trans hle.1
      rcases List.mem_cons.1 hx with rfl | hx
      · exact hhead.trans hle.2
      · exact hmin x (List.mem_cons_of_mem _ hx)

/-! ## The answer as a function of the cluster -/

/-- The policies of a namespace under a key of the index. -/
def indexed (cl : Cluster) (ns key : String) : List WorkloadNetworkPolicy :=
  cl.wnps.values.filter fun v => v.ns = ns && key ∈ indexWNPByTarget v

lemma mem_indexed {cl : Cluster} {ns key : String} {v : WorkloadNetworkPolicy} :
    v ∈ indexed cl ns key ↔ v ∈ cl.wnps.values ∧ wnpTargetKey v = some ⟨ns, key⟩ := by
  rw [wnpTargetKey_eq_some_iff, indexed, List.mem_filter, Bool.and_eq_true, decide_eq_true_eq,
    decide_eq_true_eq]

/-- The conflict that is reported for the policies a list returned. -/
def conflictOf (wnp : WorkloadNetworkPolicy) : List WorkloadNetworkPolicy → Option DuplicateTargetConflict
  | first :: second :: rest =>
    let oldest := oldestWorkloadNetworkPolicy first (second :: rest)
    some ⟨duplicateTargetCondition wnp oldest (first :: second :: rest), oldest.name = wnp.name⟩
  | _ => none

/-- The conflict of a policy in a cluster. -/
def conflictIn (cl : Cluster) (wnp : WorkloadNetworkPolicy) : Option DuplicateTargetConflict :=
  (wnpTargetKey wnp).bind fun target => conflictOf wnp (indexed cl wnp.ns target.target)

lemma conflictOf_isSome {wnp : WorkloadNetworkPolicy} (items : List WorkloadNetworkPolicy) :
    (conflictOf wnp items).isSome = true ↔ 2 ≤ items.length := by
  match items with
  | [] => simp [conflictOf]
  | [_] => simp [conflictOf]
  | _ :: _ :: _ => simp [conflictOf]

/-- Two policies of one age have one name. -/
lemma name_eq_of_age_eq {v w : WorkloadNetworkPolicy} (h : age v = age w) : v.name = w.name :=
  congrArg (fun a => (ofLex a).2) h

lemma age_oldest_le {first first' : WorkloadNetworkPolicy} {rest rest' : List WorkloadNetworkPolicy}
    (h : (first' :: rest').map age ⊆ (first :: rest).map age) :
    age (oldestWorkloadNetworkPolicy first rest) ≤ age (oldestWorkloadNetworkPolicy first' rest') := by
  obtain ⟨hmem, -⟩ := oldest_minimal rest' first'
  obtain ⟨x, hx, hage⟩ := List.mem_map.1 (h (List.mem_map_of_mem hmem))
  rw [← hage]
  exact (oldest_minimal rest first).2 x hx

/-- **The conflict depends on the ages alone**: not on the order of the list, nor on anything else the
listed policies carry. -/
theorem conflictOf_congr {wnp : WorkloadNetworkPolicy} {items items' : List WorkloadNetworkPolicy}
    (h : (items.map age).Perm (items'.map age)) : conflictOf wnp items = conflictOf wnp items' := by
  have hlen : items.length = items'.length := by simpa using h.length_eq
  have hnames : (items.map (·.name)).Perm (items'.map (·.name)) := by
    have := h.map fun a => (ofLex a).2
    rwa [List.map_map, List.map_map] at this
  rcases items with _ | ⟨a, _ | ⟨b, rest⟩⟩
  · rw [List.length_eq_zero_iff.1 hlen.symm]
  · obtain ⟨a', rfl⟩ := List.length_eq_one_iff.1 hlen.symm
    rfl
  · rcases items' with _ | ⟨a', _ | ⟨b', rest'⟩⟩
    · cases hlen
    · cases hlen
    -- each oldest policy has the age of some policy of the other list
    · have hname : (oldestWorkloadNetworkPolicy a (b :: rest)).name =
          (oldestWorkloadNetworkPolicy a' (b' :: rest')).name :=
        name_eq_of_age_eq (le_antisymm (age_oldest_le h.symm.subset) (age_oldest_le h.subset))
      simp only [conflictOf, duplicateTargetCondition, hname, hlen, listedNames,
        insertionSort_eq_of_perm hnames]

/-- **`checkDuplicateTarget` is a function of the cluster**, when its list succeeds. -/
theorem checkDuplicateTarget_eq {cl : Cluster} {r : Reader cl} {wnp : WorkloadNetworkPolicy}
    {c : Option DuplicateTargetConflict} (h : checkDuplicateTarget r wnp = .ok c) :
    c = conflictIn cl wnp := by
  unfold checkDuplicateTarget at h
  unfold conflictIn
  cases htarget : wnpTargetKey wnp with
  | none =>
    rw [htarget] at h
    exact (Except.ok.inj h).symm
  | some target =>
    rw [htarget] at h
    simp only at h
    rw [Option.bind_some]
    cases hlist : r.listWNPsByTarget wnp.ns target.target with
    | error err =>
      rw [hlist] at h
      cases h
    | ok items =>
      rw [hlist] at h
      rw [indexed, ← conflictOf_congr ((r.listWNPsByTarget_lists _ _ _ hlist).map age)]
      match items, h with
      | [], h => exact (Except.ok.inj h).symm
      | [_], h => exact (Except.ok.inj h).symm
      | _ :: _ :: _, h => exact (Except.ok.inj h).symm

/-- A client that answers finds the conflict. -/
lemma Reader.Answers.checkDuplicateTarget_eq {cl : Cluster} {r : Reader cl} (ha : r.Answers)
    (wnp : WorkloadNetworkPolicy) : checkDuplicateTarget r wnp = .ok (conflictIn cl wnp) := by
  cases h : checkDuplicateTarget r wnp with
  | ok c => rw [Reconcile.checkDuplicateTarget_eq h]
  | error err =>
    unfold checkDuplicateTarget at h
    split at h
    · cases h
    · split at h
      · rename_i hlist
        obtain ⟨items, hitems⟩ := ha.listWNPsByTarget _ _
        rw [hitems] at hlist
        cases hlist
      · cases h
      · cases h

/-! ## Winning and losing -/

/-- An older policy of the namespace has the same target and direction. -/
structure Loses (cl : Cluster) (wnp : WorkloadNetworkPolicy) : Prop where
  complete : Complete wnp.spec.targetRef wnp.spec.direction
  rival : ∃ v ∈ cl.wnps.values,
    targets wnp.ns wnp.spec.targetRef wnp.spec.direction v = true ∧ older v wnp = true

/-- A policy with the target is listed under its key. -/
lemma mem_indexed_of_targets {cl : Cluster} {wnp v : WorkloadNetworkPolicy}
    (hc : Complete wnp.spec.targetRef wnp.spec.direction) (hv : v ∈ cl.wnps.values)
    (ht : targets wnp.ns wnp.spec.targetRef wnp.spec.direction v = true) :
    v ∈ indexed cl wnp.ns
      (wnpTargetIndexKey wnp.spec.targetRef.kind wnp.spec.targetRef.name wnp.spec.direction) := by
  obtain ⟨hns, href, hd⟩ := targets_iff.1 ht
  refine List.mem_filter.2 ⟨hv, ?_⟩
  simp only [Bool.and_eq_true, decide_eq_true_eq]
  exact ⟨hns, mem_indexWNPByTarget.2 ⟨by rw [href, hd]; exact hc, by rw [href, hd]⟩⟩

lemma wnpTargetKey_of_complete {w : WorkloadNetworkPolicy} (hc : Complete w.spec.targetRef w.spec.direction) :
    wnpTargetKey w =
      some ⟨w.ns, wnpTargetIndexKey w.spec.targetRef.kind w.spec.targetRef.name w.spec.direction⟩ :=
  wnpTargetKey_eq_some_iff.2 ⟨rfl, mem_indexWNPByTarget.2 ⟨hc, rfl⟩⟩

/-- What was listed when a conflict is reported. -/
lemma conflictIn_eq_some {cl : Cluster} {wnp : WorkloadNetworkPolicy} {c : DuplicateTargetConflict}
    (h : conflictIn cl wnp = some c) :
    c.condition.status = .conditionFalse ∧ c.condition.type = conditionReady ∧
      ∃ m ∈ indexed cl wnp.ns
          (wnpTargetIndexKey wnp.spec.targetRef.kind wnp.spec.targetRef.name wnp.spec.direction),
        c.winner = decide (m.name = wnp.name) ∧
        ∀ x ∈ indexed cl wnp.ns
          (wnpTargetIndexKey wnp.spec.targetRef.kind wnp.spec.targetRef.name wnp.spec.direction),
          age m ≤ age x := by
  obtain ⟨⟨ns, key⟩, htarget, h⟩ := Option.bind_eq_some_iff.1 h
  obtain ⟨-, hkey⟩ := wnpTargetKey_eq_some_iff.1 htarget
  obtain rfl := (mem_indexWNPByTarget.1 hkey).2
  unfold conflictOf at h
  split at h
  · rename_i first second rest hitems
    obtain rfl := Option.some.inj h
    obtain ⟨hmem, hmin⟩ := oldest_minimal (second :: rest) first
    rw [← hitems] at hmem hmin
    exact ⟨rfl, rfl, _, hmem, rfl, hmin⟩
  · cases h

lemma two_le_length_of_mem {α : Type} {l : List α} {a b : α} (ha : a ∈ l) (hb : b ∈ l) (h : a ≠ b) :
    2 ≤ l.length := by
  match l with
  | [] => cases ha
  | [x] => exact absurd ((List.mem_singleton.1 ha).trans (List.mem_singleton.1 hb).symm) h
  | _ :: _ :: _ => simp

/-- A second policy with the target is always reported. -/
lemma conflictIn_ne_none {cl : Cluster} {wnp v : WorkloadNetworkPolicy}
    (hw : cl.wnps.lookup wnp.key = some wnp) (hc : Complete wnp.spec.targetRef wnp.spec.direction)
    (hv : v ∈ cl.wnps.values) (ht : targets wnp.ns wnp.spec.targetRef wnp.spec.direction v = true)
    (hne : v ≠ wnp) : conflictIn cl wnp ≠ none := by
  have hself := mem_indexed_of_targets hc (Store.mem_of_lookup hw) (targets_iff.2 ⟨rfl, rfl, rfl⟩)
  have htwo := two_le_length_of_mem (mem_indexed_of_targets hc hv ht) hself hne
  rw [conflictIn, wnpTargetKey_of_complete hc, Option.bind_some]
  exact Option.isSome_iff_ne_none.1 ((conflictOf_isSome _).2 htwo)

/-- **A loser is told so**, unless the list fails. -/
theorem winner_eq_false_of_loses {cl : Cluster} {r : Reader cl} {wnp : WorkloadNetworkPolicy}
    (hw : cl.wnps.lookup wnp.key = some wnp) (hl : Loses cl wnp) {c : Option DuplicateTargetConflict}
    (h : checkDuplicateTarget r wnp = .ok c) : ∃ x, c = some x ∧ x.winner = false := by
  obtain ⟨v, hv, ht, hold⟩ := hl.rival
  rw [older_iff] at hold
  have hne : v ≠ wnp := fun he => lt_irrefl _ (he ▸ hold)
  obtain rfl := checkDuplicateTarget_eq h
  obtain ⟨x, hx⟩ := Option.ne_none_iff_exists'.1 (conflictIn_ne_none hw hl.complete hv ht hne)
  obtain ⟨-, -, m, hm, hwin, hmin⟩ := conflictIn_eq_some hx
  refine ⟨x, hx, ?_⟩
  rw [hwin, decide_eq_false_iff_not]
  intro hname
  -- the winner would be the policy itself, which has an older rival
  obtain ⟨hmem, hkey⟩ := mem_indexed.1 hm
  have hself : m = wnp := Store.eq_of_key_eq hmem (Store.mem_of_lookup hw)
    (congrArg₂ NamespacedName.mk (wnpTargetKey_eq_some_iff.1 hkey).1 hname)
  have hle := hmin v (mem_indexed_of_targets hl.complete hv ht)
  rw [hself] at hle
  exact not_le.2 hold hle

/-- **Who does not lose wins**, when keys are unambiguous. -/
theorem winner_of_not_loses {cl : Cluster} {r : Reader cl} {wnp : WorkloadNetworkPolicy}
    (hw : cl.wnps.lookup wnp.key = some wnp)
    (hu : Unambiguous cl.wnps.values wnp.spec.targetRef wnp.spec.direction) (hl : ¬ Loses cl wnp)
    {c : DuplicateTargetConflict} (h : checkDuplicateTarget r wnp = .ok (some c)) : c.winner = true := by
  obtain ⟨-, -, m, hm, hwin, hmin⟩ := conflictIn_eq_some (checkDuplicateTarget_eq h).symm
  rw [hwin, decide_eq_true_eq]
  by_contra hname
  obtain ⟨hmem, hkey⟩ := mem_indexed.1 hm
  obtain ⟨hns, hlisted⟩ := wnpTargetKey_eq_some_iff.1 hkey
  obtain ⟨href, hd⟩ := hu m hmem hlisted
  have hc : Complete wnp.spec.targetRef wnp.spec.direction := by
    rw [← href, ← hd]
    exact (mem_indexWNPByTarget.1 hlisted).1
  have hself := mem_indexed_of_targets hc (Store.mem_of_lookup hw) (targets_iff.2 ⟨rfl, rfl, rfl⟩)
  refine hl ⟨hc, m, hmem, targets_iff.2 ⟨hns, href, hd⟩, older_iff.2 ?_⟩
  exact lt_of_le_of_ne (hmin wnp hself) fun hage => hname (name_eq_of_age_eq hage)

end NetworkEnforcer.Reconcile
