import NetworkEnforcer.Istio.Enrich
import NetworkEnforcer.Scraper.Flow
import NetworkEnforcer.Sync.Program

/-!
# The Istio scraper (`internal/scraper/istio_scraper.go`)

The scraper receives log records.  The attributes of a record and of its resource are flattened into one map
of texts; a learning record becomes an event, a monitor or protect record an observation that is enriched.

* `exportLogs_learnable` — every event that a request sends to the learner is one that it can learn from;
* `istioKey_eq_iff` — the observation names the client by its address, with the port of that one connection,
  and the address is part of the key of the violation, so connections of one client share a record only if the
  client is resolved.
-/

namespace NetworkEnforcer.Scraper

open NetworkEnforcer.Lib NetworkEnforcer.Api NetworkEnforcer.Workload NetworkEnforcer.Istio
open NetworkEnforcer.Sync (violationRecord)

/-! ## Log records -/

/-- `AnyValue`; a double by its bits.  `other` is a missing value and every composite one. -/
inductive AnyValue where
  | string (s : String)
  | int (i : Int)
  | double (bits : UInt64)
  | bool (b : Bool)
  | other
  deriving DecidableEq, Repr

structure LogRecord where
  timeUnixNano : Nat := 0
  attributes : List (String × AnyValue) := []
  deriving DecidableEq, Repr

structure ResourceLogs where
  attributes : List (String × AnyValue) := []
  /-- The records of every scope. -/
  scopeLogs : List (List LogRecord) := []
  deriving DecidableEq, Repr

abbrev Attrs : Type := GoMap String String

/-- `attrs[key]`. -/
def Attrs.get (attrs : Attrs) (key : String) : String := (attrs.lookup key).getD ""

/-- `formatFloat` is `strconv.FormatFloat(_, 'f', -1, 64)`. -/
def anyValueToString (formatFloat : UInt64 → String) : AnyValue → String
  | .string s => s
  | .int i => formatInt i
  | .double bits => formatFloat bits
  | .bool b => if b then "true" else "false"
  | .other => ""

def attrMap (formatFloat : UInt64 → String) (attrs : List (String × AnyValue)) : Attrs :=
  attrs.foldl (fun m kv =>
    let value := anyValueToString formatFloat kv.2
    if value = "" then m else m.insert kv.1 value) ∅

def mergeAttrMaps (base override : Attrs) : Attrs :=
  override.entries.foldl (fun m e => m.insert e.1 e.2) base

def eventTypeKey : String := "evt.type"
def srcIdentityKey : String := "src.identity"
def dstNamespaceKey : String := "dst.namespace"
def dstNameKey : String := "dst.name"
def dstPortKey : String := "dst.port"
def policyKey : String := "policy"
def dstNamespacedNameKey : String := "dst.namespaced_name"
def srcAddrKey : String := "src.addr"

def eventTypeLearn : String := "learn"
def eventTypeMonitor : String := "monitor"
def eventTypeProtect : String := "protect"

/-! ## Observations -/

def splitNamespacedName (namespacedName : String) : String × String :=
  (cutAt '/' namespacedName).getD ("", namespacedName)

def timestampFromRecord (now : Time) (record : LogRecord) : Time :=
  if 0 < record.timeUnixNano ∧ record.timeUnixNano < 2 ^ 63 then record.timeUnixNano else now

def policyEventToObservation (now : Time) (record : LogRecord) (attrs : Attrs) : Observation :=
  let (dstNamespace, dstName) := splitNamespacedName (attrs.get dstNamespacedNameKey)
  let (policyNamespace, policyName) := splitNamespacedName (attrs.get policyKey)
  { provider := .istio, direction := .ingress, timestamp := timestampFromRecord now record,
    source := { ownerName := attrs.get srcAddrKey }, dest := { ns := dstNamespace, ownerName := dstName },
    protocol := protocolTCP,
    action := if attrs.get eventTypeKey = eventTypeMonitor then .monitor else .protect,
    denyingPolicyNamespace := policyNamespace, denyingPolicyName := policyName }

/-! ## Learning events -/

/-- `enqueueLearningEvent`; an event that is not sent is skipped. -/
def enqueueLearningEvent (lib : Apimachinery) (e : Enricher) (attrs : Attrs) : FlowResult :=
  let dstPodName := attrs.get dstNameKey
  let dstNamespace := attrs.get dstNamespaceKey
  let dstPortAttr := attrs.get dstPortKey
  match cutPrefix (attrs.get srcIdentityKey) "spiffe://" with
  | none => .skip
  | some srcIdentity =>
    if dstPodName = "" || dstNamespace = "" || dstPortAttr = "" || srcIdentity = "" then .skip
    else
      match parsePort dstPortAttr, e with
      | some dstPort, some c =>
        match getWorkloadRef lib c ⟨dstNamespace, dstPodName⟩ with
        | .error _ => .skip
        | .ok dstWorkloadRef =>
          if !dstWorkloadRef.isSupported then .skip
          else
            .enqueue
              { source := some { identity := srcIdentity }, dest := some dstWorkloadRef, dstPort := dstPort,
                protocol := protocolTCP, backend := .istio }
      | _, _ => .skip

/-! ## Records -/

/-- The observation that `recordPolicyEvent` records. -/
def recordPolicyEvent (now : Time) (e : Enricher) (record : LogRecord) (attrs : Attrs) : Observation :=
  enrich e (policyEventToObservation now record attrs)

/-- What `Export` makes of one record. -/
def exportRecord (lib : Apimachinery) (formatFloat : UInt64 → String) (now : Time) (e : Enricher)
    (resourceAttrs : Attrs) (record : LogRecord) : FlowResult :=
  let attrs := mergeAttrMaps resourceAttrs (attrMap formatFloat record.attributes)
  if attrs.get eventTypeKey = eventTypeLearn then enqueueLearningEvent lib e attrs
  else if attrs.get eventTypeKey = eventTypeMonitor || attrs.get eventTypeKey = eventTypeProtect then
    .violation (recordPolicyEvent now e record attrs)
  else .skip

/-- `Export`, by the results of the records in turn. -/
def exportLogs (lib : Apimachinery) (formatFloat : UInt64 → String) (now : Time) (e : Enricher)
    (req : List ResourceLogs) : List FlowResult :=
  req.flatMap fun resourceLogs =>
    resourceLogs.scopeLogs.flatMap fun records =>
      records.map (exportRecord lib formatFloat now e (attrMap formatFloat resourceLogs.attributes))

/-! ## What is learned -/

/-- A learning event as the reconciler expects it: an identity, a resolved workload and a port. -/
def Learnable (lib : Apimachinery) (event : LearningEvent) : Prop :=
  ∃ identity dest, event.source = some { identity := identity } ∧ identity ≠ "" ∧ event.dest = some dest ∧
    Resolved lib dest ∧ minValidPort ≤ event.dstPort ∧ event.dstPort ≤ maxValidPort ∧ event.backend = .istio

lemma parsePort_some {port : String} {n : Int} (h : parsePort port = some n) :
    minValidPort ≤ n ∧ n ≤ maxValidPort := by
  unfold parsePort at h
  cases hparse : parseInt 32 port with
  | none =>
    rw [hparse] at h
    cases h
  | some parsed =>
    rw [hparse] at h
    by_cases hrange : parsed < minValidPort ∨ parsed > maxValidPort
    · simp [hrange] at h
    · have hsame : parsed = n := by
        simp only [if_neg hrange] at h
        have hnot : ¬(parsed < 0 ∨ parsed > maxValidPort) := by
          unfold minValidPort at hrange
          omega
        rw [portToInt32, if_neg hnot] at h
        exact Option.some.inj h
      omega

lemma enqueueLearningEvent_learnable {lib : Apimachinery} {e : Enricher} {attrs : Attrs} {event : LearningEvent}
    (h : enqueueLearningEvent lib e attrs = .enqueue event) : Learnable lib event := by
  simp only [enqueueLearningEvent] at h
  split at h
  · cases h
  rename_i srcIdentity hidentity
  split at h
  · cases h
  rename_i hfields
  split at h
  · rename_i dstPort c hport
    split at h
    · cases h
    rename_i dest hdest
    split at h
    · cases h
    rename_i hsupported
    obtain rfl := FlowResult.enqueue.inj h
    simp only [Bool.or_eq_true, decide_eq_true_eq, not_or] at hfields
    have hs : dest.isSupported = true := by simpa using hsupported
    obtain ⟨hlo, hhi⟩ := parsePort_some hport
    exact ⟨srcIdentity, dest, rfl, hfields.2, rfl, get_resolved hdest hs, hlo, hhi, rfl⟩
  · cases h

/-- **What the scraper sends to the learner is learnable**, whatever records it receives. -/
theorem exportLogs_learnable {lib : Apimachinery} {formatFloat : UInt64 → String} {now : Time} {e : Enricher}
    {req : List ResourceLogs} {event : LearningEvent}
    (h : .enqueue event ∈ exportLogs lib formatFloat now e req) : Learnable lib event := by
  obtain ⟨resourceLogs, -, h⟩ := List.mem_flatMap.1 h
  obtain ⟨records, -, h⟩ := List.mem_flatMap.1 h
  obtain ⟨record, -, hrecord⟩ := List.mem_map.1 h
  simp only [exportRecord] at hrecord
  split at hrecord
  · exact enqueueLearningEvent_learnable hrecord
  · split at hrecord <;> cases hrecord

/-! ## Keys -/

/-- Two maps with the same attributes, the address of the client apart. -/
def SameButAddress (attrs attrs' : Attrs) : Prop := ∀ key, key ≠ srcAddrKey → attrs.get key = attrs'.get key

/-- Such records give the same observation, the source and the time apart. -/
lemma policyEventToObservation_of_sameButAddress {attrs attrs' : Attrs} (h : SameButAddress attrs attrs')
    (now now' : Time) (record record' : LogRecord) :
    policyEventToObservation now' record' attrs' =
      withSource (policyEventToObservation now record attrs) { ownerName := attrs'.get srcAddrKey }
        (timestampFromRecord now' record') := by
  have hdst := h dstNamespacedNameKey (by decide)
  have hpolicy := h policyKey (by decide)
  have htype := h eventTypeKey (by decide)
  simp only [withSource, policyEventToObservation, hdst, hpolicy, htype]

/-- What the key sees of a source: everything but the selector. -/
def sourceKey (src : WorkloadRef) : String × String × String × String :=
  (src.ns, src.ownerKind, src.ownerName, src.identity)

lemma key_violationRecord_withSource (wnpKey : NamespacedName) (obs : Observation) (src : WorkloadRef) (t : Time) :
    (violationRecord wnpKey obs).key = (violationRecord wnpKey (withSource obs src t)).key ↔
      sourceKey obs.source = sourceKey src := by
  simp [ViolationRecord.key, violationRecord, withSource, sourceKey]

/-- **When two connections of one client share a record.**  Take two records that agree but for the time and
the address of the client, where the addresses have the same host.  Their observations, attributed to one
policy, have the same key exactly when the host is the address of one pod, or the addresses are the same. -/
theorem istioKey_eq_iff (e : Enricher) (wnpKey : NamespacedName) (now now' : Time) (record record' : LogRecord)
    {attrs attrs' : Attrs} (hsame : SameButAddress attrs attrs') {ip port port' : String}
    (haddr : splitHostPort (attrs.get srcAddrKey) = .ok (ip, port))
    (haddr' : splitHostPort (attrs'.get srcAddrKey) = .ok (ip, port')) :
    (violationRecord wnpKey (recordPolicyEvent now e record attrs)).key =
        (violationRecord wnpKey (recordPolicyEvent now' e record' attrs')).key ↔
      (∃ pod, ResolvesTo e ip pod) ∨ attrs.get srcAddrKey = attrs'.get srcAddrKey := by
  have hother := policyEventToObservation_of_sameButAddress hsame now now' record record'
  rw [recordPolicyEvent, recordPolicyEvent, hother, enrich_withSource, key_violationRecord_withSource,
    source_enrich, ← hother]
  by_cases hpod : ∃ pod, ResolvesTo e ip pod
  · obtain ⟨pod, hresolves⟩ := hpod
    have hsource : enrichedSource e (policyEventToObservation now record attrs) = workloadRefFromPod pod :=
      enrichedSource_of_resolvesTo haddr hresolves
    have hsource' : enrichedSource e (policyEventToObservation now' record' attrs') = workloadRefFromPod pod :=
      enrichedSource_of_resolvesTo haddr' hresolves
    rw [hsource, hsource']
    exact iff_of_true rfl (Or.inl ⟨pod, hresolves⟩)
  · -- both addresses stay, and they are all that the key sees of the sources
    have hsource : enrichedSource e (policyEventToObservation now record attrs) =
        { ownerName := attrs.get srcAddrKey } := enrichedSource_of_not_resolvesTo haddr hpod
    have hsource' : enrichedSource e (policyEventToObservation now' record' attrs') =
        { ownerName := attrs'.get srcAddrKey } := enrichedSource_of_not_resolvesTo haddr' hpod
    rw [hsource, hsource', or_iff_right hpod]
    simp [sourceKey]

/-! ## Two connections -/

/-- A cluster with these pods and no workload or policy. -/
def podCluster (pods : List Pod) : EnricherClient where
  toTargetReader := .ofList []
  getPod k := ((pods.find? (·.key = k)).map Except.ok).getD (.error (.notFound "pod not found"))
  getDeployment _ := .error noSuchWorkload
  getStatefulSet _ := .error noSuchWorkload
  getDaemonSet _ := .error noSuchWorkload
  listPods ns := .ok (pods.filter (·.ns = ns))
  getDeployment_named := Named.error noSuchWorkload
  getStatefulSet_named := Named.error noSuchWorkload
  getDaemonSet_named := Named.error noSuchWorkload
  pods := pods
  listByIP ip := .ok (pods.filter fun pod => ip ∈ indexPodByIP pod)
  listByIP_ok h := List.Perm.of_eq (Except.ok.inj h).symm

/-- The attributes of a denied connection from the address. -/
def deniedFrom (addr : String) : Attrs :=
  ((AList.singleton eventTypeKey eventTypeProtect).insert dstNamespacedNameKey "shop/web-0").insert srcAddrKey addr

lemma sameButAddress_deniedFrom (addr addr' : String) : SameButAddress (deniedFrom addr) (deniedFrom addr') := by
  intro key hkey
  unfold Attrs.get deniedFrom
  rw [AList.lookup_insert_ne hkey, AList.lookup_insert_ne hkey]

/-- Connections of a client in the cluster share their record. -/
theorem istioKey_eq_known_client :
    let client : Pod := { ns := "shop", name := "client", podIP := "10.244.0.2" }
    (violationRecord ⟨"shop", "web"⟩
        (recordPolicyEvent 0 (some (podCluster [client])) {} (deniedFrom "10.244.0.2:40001"))).key =
      (violationRecord ⟨"shop", "web"⟩
        (recordPolicyEvent 0 (some (podCluster [client])) {} (deniedFrom "10.244.0.2:40002"))).key := by
  intro client
  have haddr : splitHostPort "10.244.0.2:40001" = .ok ("10.244.0.2", "40001") := by decide +kernel
  have haddr' : splitHostPort "10.244.0.2:40002" = .ok ("10.244.0.2", "40002") := by decide +kernel
  exact (istioKey_eq_iff _ _ 0 0 {} {} (sameButAddress_deniedFrom _ _) haddr haddr').2
    (Or.inl ⟨client, _, rfl, rfl⟩)

/-- Connections of a client from outside do not. -/
theorem istioKey_ne_unknown_client :
    SameButAddress (deniedFrom "203.0.113.7:40001") (deniedFrom "203.0.113.7:40002") ∧
      splitHostPort "203.0.113.7:40001" = .ok ("203.0.113.7", "40001") ∧
      splitHostPort "203.0.113.7:40002" = .ok ("203.0.113.7", "40002") ∧
      (violationRecord ⟨"shop", "web"⟩
          (recordPolicyEvent 0 (some (podCluster [])) {} (deniedFrom "203.0.113.7:40001"))).key ≠
        (violationRecord ⟨"shop", "web"⟩
          (recordPolicyEvent 0 (some (podCluster [])) {} (deniedFrom "203.0.113.7:40002"))).key :=
  ⟨sameButAddress_deniedFrom _ _, by decide +kernel, by decide +kernel, by decide +kernel⟩

end NetworkEnforcer.Scraper
