import NetworkEnforcer.Scraper.Flow

/-!
# The Calico scraper (`internal/scraper/calico_flow_parser.go`)

Goldmane aggregates flows, and names the pods of one generator `GENERATENAME*`.  The parser keeps an allowed
flow between two workloads that its destination reported, and a denied flow whose reporter is a workload.
The resolver finds a pod with such a name and asks for the workload of that pod.
-/

namespace NetworkEnforcer.Scraper

open NetworkEnforcer.Lib NetworkEnforcer.Api NetworkEnforcer.Workload

/-! ## Goldmane flows -/

/-- `EndpointType`; `other` is the unspecified one and any value that is not declared. -/
inductive EndpointType where
  | workloadEndpoint | hostEndpoint | networkSet | network | other
  deriving DecidableEq, Repr

@[inherit_doc EndpointType]
inductive Reporter where
  | src | dst | other
  deriving DecidableEq, Repr

@[inherit_doc EndpointType]
inductive Action where
  | allow | deny | pass | other
  deriving DecidableEq, Repr

/-- `PolicyKind`; `other` is every kind but the two that are looked for. -/
inductive PolicyKind where
  | networkPolicy | endOfTier | other
  deriving DecidableEq, Repr

/-- The `PolicyHit` that a hit names as its trigger. -/
structure PolicyTrigger where
  kind : PolicyKind := .other
  ns : String := ""
  name : String := ""
  deriving DecidableEq, Repr

structure PolicyHit extends PolicyTrigger where
  action : Action := .other
  trigger : Option PolicyTrigger := none
  deriving DecidableEq, Repr

structure FlowKey where
  sourceName : String := ""
  sourceNamespace : String := ""
  sourceType : EndpointType := .other
  destName : String := ""
  destNamespace : String := ""
  destType : EndpointType := .other
  destPort : Int := 0
  proto : String := ""
  reporter : Reporter := .other
  action : Action := .other
  /-- The enforced policies of the trace, if there is a trace. -/
  policies : Option (List PolicyHit) := none
  deriving DecidableEq, Repr

structure GoldmaneFlow where
  key : Option FlowKey := none
  /-- In seconds. -/
  startTime : Int := 0
  deriving DecidableEq, Repr

/-- `pb.FlowResult`. -/
structure GoldmaneFlowResult where
  flow : Option GoldmaneFlow := none
  deriving DecidableEq, Repr

/-! ## Endpoints -/

structure CalicoEndpoint where
  kind : EndpointType
  name : String
  ns : String
  deriving DecidableEq, Repr

def CalicoEndpoint.isWorkload (e : CalicoEndpoint) : Bool :=
  e.kind = .workloadEndpoint && e.name ≠ "" && e.ns ≠ ""

def CalicoEndpoint.isViolationPeer (e : CalicoEndpoint) : Bool :=
  match e.kind with
  | .networkSet | .network => e.name ≠ ""
  | _ => e.isWorkload

/-! ## Parsing -/

def discardCalicoFlow (key : Option FlowKey) : Bool :=
  match key with
  | none => true
  | some key =>
    if key.destPort < minValidPort || key.destPort > maxValidPort then true
    else
      let source : CalicoEndpoint := ⟨key.sourceType, key.sourceName, key.sourceNamespace⟩
      let dest : CalicoEndpoint := ⟨key.destType, key.destName, key.destNamespace⟩
      match key.action with
      | .allow => key.reporter ≠ .dst || !source.isWorkload || !dest.isWorkload
      | .deny =>
        match key.reporter with
        | .src => !source.isWorkload || !dest.isViolationPeer
        | .dst => !dest.isWorkload || !source.isViolationPeer
        | .other => true
      | _ => true

def extractCalicoPortAndProtocol (key : FlowKey) : Except PortError (Int × String) :=
  -- no letter outside ASCII has a capital in these two names
  if toUpper key.proto = protocolTCP then (portToInt32 key.destPort).map (·, protocolTCP)
  else if toUpper key.proto = protocolUDP then (portToInt32 key.destPort).map (·, protocolUDP)
  else .error (.unsupportedProtocol key.proto)

def calicoViolationTimestamp (now : Time) (flow : GoldmaneFlow) : Time :=
  if flow.startTime > 0 then flow.startTime * 1000000000 else now

/-- The policy that a hit of `getDenyingPolicy` names, with its namespace second. -/
def denyingPolicyOf (policy : PolicyHit) : Option (String × String) :=
  if policy.action ≠ .deny then none
  else
    match policy.kind with
    | .networkPolicy => if policy.name ≠ "" then some (policy.name, policy.ns) else none
    | .endOfTier =>
      match policy.trigger with
      | none => none
      | some trigger =>
        if trigger.kind = .networkPolicy ∧ trigger.name ≠ "" then some (trigger.name, trigger.ns) else none
    | .other => none

def getDenyingPolicy (key : FlowKey) : String × String :=
  ((key.policies.getD []).findSome? denyingPolicyOf).getD ("", "")

/-- `parseCalicoFlow`; `none` is a nil result. -/
def parseCalicoFlow (now : Time) (flowResult : Option GoldmaneFlowResult) : FlowResult :=
  match flowResult with
  | none => .error (.other "found nil flow result")
  | some flowResult =>
    match flowResult.flow with
    | none => .error (.other "found empty flow")
    | some flow =>
      if discardCalicoFlow flow.key then .skip
      else
        -- the getters read a nil key as the empty one, but such a flow is discarded
        let key := flow.key.getD {}
        match extractCalicoPortAndProtocol key with
        | .error (.unsupportedProtocol _) => .skip
        | .error (.failed err) => .error err
        | .ok (dstPort, proto) =>
          let source : WorkloadRef := { ns := key.sourceNamespace, ownerName := key.sourceName }
          let dest : WorkloadRef := { ns := key.destNamespace, ownerName := key.destName }
          let violation (direction : PolicyType) : FlowResult :=
            let (denyingPolicyName, denyingPolicyNamespace) := getDenyingPolicy key
            .violation
              { provider := .kubernetes, direction := direction,
                timestamp := calicoViolationTimestamp now flow, source := source, dest := dest,
                protocol := proto, dstPort := dstPort, action := .protect,
                denyingPolicyNamespace := denyingPolicyNamespace, denyingPolicyName := denyingPolicyName }
          if key.action = .deny then
            match key.reporter with
            | .src => violation .egress
            | .dst => violation .ingress
            | .other => .error (.other "found violation flow with unknown reporter")
          else
            .enqueue
              { source := some source, dest := some dest, dstPort := dstPort, protocol := proto,
                backend := .kubernetes }

/-! ## Resolution -/

namespace CalicoScraper

def resolvePod (lib : Apimachinery) (c : WorkloadClient) (ns ownerName : String) : Except Err WorkloadRef :=
  let generateName := ownerName ++ "-"
  match c.listPods ns with
  | .error err => .error err
  | .ok pods =>
    match pods.find? fun pod => pod.generateName = generateName || hasPrefix pod.name generateName with
    | none => .ok {}
    | some pod => Workload.get lib c pod.key

def resolve (lib : Apimachinery) (c : WorkloadClient) : Resolver := fun ref =>
  match cutSuffix ref.ownerName "-*" with
  | none => .error .skipWorkload
  | some ownerName =>
    if ownerName = "" then .error .skipWorkload
    else
      match resolvePod lib c ref.ns ownerName with
      | .error err => .error (.failed err)
      | .ok resolved => if !resolved.isSupported then .error .skipWorkload else .ok resolved

end CalicoScraper

/-! ## What the parser and the resolver deliver -/

lemma extractCalicoPortAndProtocol_ok {key : FlowKey} {port : Int} {proto : String}
    (h : extractCalicoPortAndProtocol key = .ok (port, proto)) : 0 ≤ port ∧ port ≤ maxValidPort := by
  unfold extractCalicoPortAndProtocol at h
  split at h
  · exact portToInt32_map_ok h
  split at h
  · exact portToInt32_map_ok h
  · cases h

/-- **The endpoints of an event are never nil, and a violation has a direction.** -/
theorem parseCalicoFlow_parsed (now : Time) (flowResult : Option GoldmaneFlowResult) :
    Pointed (parseCalicoFlow now flowResult) ∧ Directed (parseCalicoFlow now flowResult) := by
  unfold parseCalicoFlow
  split
  · exact ⟨trivial, trivial⟩
  split
  · exact ⟨trivial, trivial⟩
  split
  · exact ⟨trivial, trivial⟩
  simp only
  split
  · exact ⟨trivial, trivial⟩
  · exact ⟨trivial, trivial⟩
  rename_i port proto hport
  split
  · split
    · exact ⟨trivial, nofun, extractCalicoPortAndProtocol_ok hport⟩
    · exact ⟨trivial, nofun, extractCalicoPortAndProtocol_ok hport⟩
    · exact ⟨trivial, trivial⟩
  · exact ⟨⟨rfl, rfl⟩, trivial⟩

lemma CalicoScraper.resolve_sound (lib : Apimachinery) (c : WorkloadClient) :
    Sound lib (CalicoScraper.resolve lib c) := by
  intro ref ref' h
  unfold CalicoScraper.resolve at h
  split at h
  · cases h
  split at h
  · cases h
  split at h
  · cases h
  rename_i resolved hpod
  split at h
  · cases h
  rename_i hs
  obtain rfl := Except.ok.inj h
  replace hs : resolved.isSupported = true := by simpa using hs
  unfold CalicoScraper.resolvePod at hpod
  simp only at hpod
  split at hpod
  · cases hpod
  split at hpod
  · -- no pod of that name: the empty reference, which has no supported kind
    obtain rfl := Except.ok.inj hpod
    cases hs
  · exact get_resolved hpod hs

end NetworkEnforcer.Scraper
