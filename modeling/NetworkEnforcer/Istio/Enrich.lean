import NetworkEnforcer.Lib.Strconv
import NetworkEnforcer.Workload.Extract

/-!
# Enrichment of istio violations (`internal/istio`)

Ztunnel reports the client of a connection by its address and the server by its pod.  The enricher looks up
both in the cache, the client through an index of pods by address, and the policy of the server.  What cannot
be resolved stays as it was reported.

The source is resolved from the reported source alone, and nothing else depends on it (`enrich_withSource`).
-/

namespace NetworkEnforcer.Istio

open NetworkEnforcer.Lib NetworkEnforcer.Api NetworkEnforcer.Workload

def indexPodByIP (pod : Pod) : List String := if pod.podIP = "" then [] else [pod.podIP]

/-- The client of an enricher: its cache has the indexes of policies by target and of pods by address. -/
structure EnricherClient extends WorkloadClient, TargetReader where
  /-- The pods in the cache. -/
  pods : List Pod
  /-- `List` with `MatchingFields` on `PodIPIndexField`. -/
  listByIP (ip : String) : Except Err (List Pod)
  /-- A list that succeeds has exactly the pods with the address, in some order. -/
  listByIP_ok {ip : String} {items : List Pod} :
    listByIP ip = .ok items → items.Perm (pods.filter fun pod => ip ∈ indexPodByIP pod)

/-- `*Enricher`; `none` is a nil enricher.  One with a nil client is never built, and for `Enrich` the same. -/
abbrev Enricher : Type := Option EnricherClient

def workloadRefFromPod (pod : Pod) : WorkloadRef := (getNameAndKind pod).setIdentity pod.serviceAccountName

/-! ## The source -/

def peerIPFromAddr (addr : String) : Except Err String :=
  match splitHostPort addr with
  | .error why =>
    .error (.wrap ("parsing source peer address \"" ++ addr ++ "\"")
      (.other (if addr = "" then why else "address " ++ addr ++ ": " ++ why)))
  | .ok (host, _) => .ok host

def resolveSourceWorkload (c : EnricherClient) (obs : Observation) : Except Err WorkloadRef :=
  match peerIPFromAddr obs.source.ownerName with
  | .error err => .error err
  | .ok peerIP =>
    match c.listByIP peerIP with
    | .error err => .error (.wrap ("listing pods for source peer IP " ++ peerIP) err)
    | .ok [pod] => .ok (workloadRefFromPod pod)
    | .ok [] => .error (.other ("no pod found for source peer IP " ++ peerIP))
    | .ok pods => .error (.other (formatInt pods.length ++ " pods found for source peer IP " ++ peerIP))

/-! ## The destination -/

def resolveDestWorkload (c : EnricherClient) (obs : Observation) : Except Err Pod :=
  if obs.dest.ns = "" || obs.dest.ownerName = "" then
    .error (.other "observation has no destination pod to resolve")
  else
    match c.getPod ⟨obs.dest.ns, obs.dest.ownerName⟩ with
    | .error err => .error (.wrap ("fetching destination pod " ++ obs.dest.ns ++ "/" ++ obs.dest.ownerName) err)
    | .ok pod => .ok pod

/-- The policy of the destination, if none was reported and one can be found. -/
def enrichDenyingPolicy (c : EnricherClient) (obs : Observation) : Observation :=
  if obs.denyingPolicyName ≠ "" then obs
  else
    match resolveDenyingPolicy c.toTargetReader obs.dest .ingress with
    | .error _ => obs
    | .ok owner =>
      if owner.name = "" then obs
      else { obs with denyingPolicyNamespace := owner.ns, denyingPolicyName := owner.name }

/-- The part of `Enrich` about the destination. -/
def enrichDest (c : EnricherClient) (obs : Observation) : Observation :=
  match resolveDestWorkload c obs with
  | .error _ => obs
  | .ok dstPod => enrichDenyingPolicy c { obs with dest := workloadRefFromPod dstPod }

/-- The part of `Enrich` about the source. -/
def enrichSource (c : EnricherClient) (obs : Observation) : Observation :=
  match resolveSourceWorkload c obs with
  | .error _ => obs
  | .ok src => { obs with source := src }

def enrich (e : Enricher) (obs : Observation) : Observation :=
  match e with
  | none => obs
  | some c => enrichDest c (enrichSource c obs)

/-- `GetWorkloadRef` of an enricher with a client. -/
def getWorkloadRef (lib : Apimachinery) (c : EnricherClient) (podNamespacedName : NamespacedName) :
    Except Err WorkloadRef :=
  Workload.get lib c.toWorkloadClient podNamespacedName

/-! ## What the source decides -/

/-- The address belongs to exactly one pod of the cache, which becomes the source. -/
def ResolvesTo (e : Enricher) (ip : String) (pod : Pod) : Prop :=
  ∃ c, e = some c ∧ c.listByIP ip = .ok [pod]

/-- The observation from another source, at another time. -/
def withSource (obs : Observation) (src : WorkloadRef) (t : Time) : Observation :=
  { obs with source := src, timestamp := t }

lemma withSource_withSource (obs : Observation) (src src' : WorkloadRef) (t t' : Time) :
    withSource (withSource obs src t) src' t' = withSource obs src' t' := rfl

lemma enrichDenyingPolicy_withSource (c : EnricherClient) (obs : Observation) (src : WorkloadRef) (t : Time) :
    enrichDenyingPolicy c (withSource obs src t) = withSource (enrichDenyingPolicy c obs) src t := by
  have hname : (withSource obs src t).denyingPolicyName = obs.denyingPolicyName := rfl
  have hdest : (withSource obs src t).dest = obs.dest := rfl
  unfold enrichDenyingPolicy
  rw [hname, hdest]
  by_cases hreported : obs.denyingPolicyName ≠ ""
  · rw [if_pos hreported, if_pos hreported]
  · rw [if_neg hreported, if_neg hreported]
    cases resolveDenyingPolicy c.toTargetReader obs.dest .ingress with
    | error err => rfl
    | ok owner =>
      by_cases howner : owner.name = ""
      · simp only [if_pos howner]
      · simp only [if_neg howner]
        rfl

lemma enrichDest_withSource (c : EnricherClient) (obs : Observation) (src : WorkloadRef) (t : Time) :
    enrichDest c (withSource obs src t) = withSource (enrichDest c obs) src t := by
  have hdest : resolveDestWorkload c (withSource obs src t) = resolveDestWorkload c obs := rfl
  unfold enrichDest
  rw [hdest]
  cases resolveDestWorkload c obs with
  | error err => rfl
  | ok dstPod => exact enrichDenyingPolicy_withSource c { obs with dest := workloadRefFromPod dstPod } src t

/-- The first part changes only the source. -/
lemma enrichSource_eq (c : EnricherClient) (obs : Observation) :
    enrichSource c obs = withSource obs (enrichSource c obs).source obs.timestamp := by
  unfold enrichSource
  cases resolveSourceWorkload c obs <;> rfl

/-- The source after the enrichment. -/
def enrichedSource (e : Enricher) (obs : Observation) : WorkloadRef :=
  match e with
  | none => obs.source
  | some c => (enrichSource c obs).source

/-- **The source decides nothing but itself.** -/
lemma enrich_withSource (e : Enricher) (obs : Observation) (src : WorkloadRef) (t : Time) :
    enrich e (withSource obs src t) = withSource (enrich e obs) (enrichedSource e (withSource obs src t)) t := by
  cases e with
  | none => rfl
  | some c =>
    calc enrich (some c) (withSource obs src t)
        = enrichDest c (withSource obs (enrichedSource (some c) (withSource obs src t)) t) :=
          congrArg (enrichDest c) (enrichSource_eq c (withSource obs src t))
      _ = withSource (enrichDest c obs) (enrichedSource (some c) (withSource obs src t)) t :=
          enrichDest_withSource c obs _ t
      _ = withSource (enrich (some c) obs) (enrichedSource (some c) (withSource obs src t)) t := by
          rw [enrich, enrichSource_eq, enrichDest_withSource, withSource_withSource]

lemma source_enrich (e : Enricher) (obs : Observation) : (enrich e obs).source = enrichedSource e obs := by
  have h := enrich_withSource e obs obs.source obs.timestamp
  exact congrArg (fun o => o.source) h

lemma enrichedSource_of_resolvesTo {e : Enricher} {obs : Observation} {ip port : String} {pod : Pod}
    (haddr : splitHostPort obs.source.ownerName = .ok (ip, port)) (h : ResolvesTo e ip pod) :
    enrichedSource e obs = workloadRefFromPod pod := by
  obtain ⟨c, rfl, hlist⟩ := h
  simp only [enrichedSource, enrichSource, resolveSourceWorkload, peerIPFromAddr, haddr, hlist]

/-- In every other case, the reported source stays. -/
lemma enrichedSource_of_not_resolvesTo {e : Enricher} {obs : Observation} {ip port : String}
    (haddr : splitHostPort obs.source.ownerName = .ok (ip, port)) (h : ¬ ∃ pod, ResolvesTo e ip pod) :
    enrichedSource e obs = obs.source := by
  cases e with
  | none => rfl
  | some c =>
    simp only [enrichedSource, enrichSource, resolveSourceWorkload, peerIPFromAddr, haddr]
    cases hlist : c.listByIP ip with
    | error err => rfl
    | ok pods =>
      match pods, hlist with
      | [], _ => rfl
      | [pod], hlist => exact absurd ⟨pod, c, rfl, hlist⟩ h
      | _ :: _ :: _, _ => rfl

end NetworkEnforcer.Istio
