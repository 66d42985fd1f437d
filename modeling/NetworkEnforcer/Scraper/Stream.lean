import NetworkEnforcer.Learner.Program
import NetworkEnforcer.Lib.Bytes
import NetworkEnforcer.Ringbuf.Refinement
import NetworkEnforcer.Scraper.Outcomes
import NetworkEnforcer.Scraper.Reconnect

/-!
# The streams of the scrapers (`internal/scraper/cilium_scraper.go`, `calico_scraper.go`)

Both scrapers receive flows, hand the events to the learner and the violations to the ring buffer, and connect
again when the stream breaks.  A `Course` is one course of events: what every attempt receives, what the cluster
looks like at each flow, and what the learner, the sync and the monitor do at the channel and the buffer meanwhile.

* `Accounts.handle`, `Accounts.other` — one flow, and one step of somebody else;
* `stream_accounts`, `Course.sinks_accounts` — one attempt, and all of them;
* `received_flows_delivered` — nothing is lost but what a warning is logged for.
-/

namespace NetworkEnforcer.Scraper

open NetworkEnforcer.Lib NetworkEnforcer.Api NetworkEnforcer.Workload NetworkEnforcer.Ringbuf

/-! ## The OTel log (`internal/violation/otel.go`) -/

def eventNameViolationObserved : String := "policy_violation_observed"

def providerText : PolicyBackend → String
  | .kubernetes => "kubernetes"
  | .istio => "istio"
  | .other name => name

def actionText : WorkloadNetworkPolicyMode → String
  | .monitor => "monitor"
  | .protect => "protect"

/-- A record of the log, of severity `warn`; the destination port is an attribute of its own type. -/
structure OtelRecord where
  eventName : String
  timestamp : Time
  attributes : List (String × String)
  destinationPort : Int
  deriving DecidableEq

/-- `addStringAttrs` for one attribute after another: empty ones are left out. -/
def addStringAttrs (attributes : List (String × String)) : List (String × String) :=
  attributes.filter (·.2 ≠ "")

def otelRecord (observation : Observation) : OtelRecord where
  eventName := eventNameViolationObserved
  timestamp := observation.timestamp
  attributes := addStringAttrs
    [("enforcement.provider", providerText observation.provider),
      ("action", actionText observation.action),
      ("source.workload.name", observation.source.ownerName),
      ("source.workload.namespace", observation.source.ns),
      ("source.workload.kind", observation.source.ownerKind),
      ("source.workload.identity", observation.source.identity),
      ("destination.workload.name", observation.dest.ownerName),
      ("destination.workload.namespace", observation.dest.ns),
      ("destination.workload.kind", observation.dest.ownerKind),
      ("destination.workload.identity", observation.dest.identity),
      ("network.transport", observation.protocol),
      ("policy.ref.namespace", observation.denyingPolicyNamespace),
      ("policy.ref.name", observation.denyingPolicyName)]
  destinationPort := observation.dstPort

/-- `EmitOtelLog` on what the logger has got so far; the logger is nil without an OTLP endpoint. -/
def emitOtelLog (logger : Option (List OtelRecord)) (observation : Observation) : Option (List OtelRecord) :=
  match logger with
  | none => none
  | some records => some (records ++ [otelRecord observation])

/-! ## Where the flows go -/

/-- The zero value of the slots. -/
instance : Inhabited Observation := ⟨{ provider := .kubernetes, direction := .unset }⟩

/-- What a scraper writes to, and what has become of it. -/
structure Sinks where
  /-- The events that wait in the channel of the learner. -/
  channel : List LearningEvent := []
  violationBuffer : Buffer Observation
  flowDumperBuffer : Option (Buffer Bytes) := none
  violationOtelLogger : Option (List OtelRecord) := none
  /-- How often the channel was full. -/
  full : Nat := 0
  /-- How often the buffer dropped its oldest violation. -/
  dropped : Nat := 0
  /-- The events that the learner took, all that was recorded, and what the sync has drained of it. -/
  taken : List LearningEvent := []
  recorded : List Observation := []
  drained : List Observation := []

/-- A step of somebody else: the learner takes an event, the sync drains the buffer, the monitor records. -/
inductive Other where
  | take
  | drain
  | report (obs : Observation)

namespace Sinks

/-- `EnqueueLearningEvent`. -/
def enqueueLearningEvent (s : Sinks) (event : LearningEvent) : Bool × Sinks :=
  if s.channel.length < Learner.defaultEventChannelBufferSize then
    (true, { s with channel := s.channel ++ [event] })
  else (false, s)

/-- `Record` on the buffer of the violations, with the warning. -/
def record (s : Sinks) (obs : Observation) : Sinks :=
  let r := s.violationBuffer.record obs
  { s with
    violationBuffer := r.2
    dropped := s.dropped + (if r.1 then 1 else 0)
    recorded := s.recorded ++ [obs] }

def other (s : Sinks) : Other → Sinks
  | .take =>
    match s.channel with
    | [] => s
    | event :: rest => { s with channel := rest, taken := s.taken ++ [event] }
  | .drain =>
    { s with
      violationBuffer := s.violationBuffer.drain.2
      drained := s.drained ++ s.violationBuffer.drain.1.reverse }
  | .report obs => s.record obs

def others (s : Sinks) (steps : List Other) : Sinks := steps.foldl other s

/-- `dumpFlow`; a flow that cannot be marshalled is not dumped. -/
def dumpFlow {F : Type} (marshalFlow : F → Except Err Bytes) (s : Sinks) (flow : F) : Sinks :=
  match s.flowDumperBuffer with
  | none => s
  | some buf =>
    match marshalFlow flow with
    | .error _ => s
    | .ok marshaled => { s with flowDumperBuffer := some (buf.record marshaled).2 }

/-- The cases of `stream` on the outcome of a flow. -/
def handle (s : Sinks) : FlowResult → Sinks
  | .skip | .error _ => s
  | .enqueue event =>
    let r := s.enqueueLearningEvent event
    if r.1 then r.2 else { r.2 with full := r.2.full + 1 }
  | .violation obs => { s with violationOtelLogger := emitOtelLog s.violationOtelLogger obs }.record obs

/-- A new process, with or without an OTLP endpoint. -/
def start (otlp : Bool) (flowDumperBuffer : Option (Buffer Bytes)) : Sinks where
  violationBuffer := .new
  flowDumperBuffer := flowDumperBuffer
  violationOtelLogger := if otlp then some [] else none

end Sinks

/-! ## The streams -/

/-- What the two scrapers do not share: their texts and the processing of a flow, which never panics and delivers
nothing that is not complete. -/
structure Source (F : Type) where
  name : String
  createFailed : String
  openFailed : String
  receiveFailed : String
  process (lib : Apimachinery) (c : WorkloadClient) (wnps : TargetReader) (now : Time) (flow : F) :
    Except Panic FlowResult
  process_total : ∀ lib c wnps now flow, ∃ r, process lib c wnps now flow = .ok r
  /-- The flow has a direction that the provider knows. -/
  Declared : F → Prop
  recordable : ∀ {lib c wnps now flow r}, Declared flow → process lib c wnps now flow = .ok r → Recordable lib r

/-- A flow that arrives, after the steps of others, and the cluster as it is then. -/
structure Arrival (F : Type) where
  before : List Other := []
  flow : F
  client : WorkloadClient
  wnps : TargetReader
  now : Time

/-- One attempt: the calls that fail, and what is received until then. -/
structure Session (F : Type) where
  createErr : Option StreamErr := none
  openErr : Option StreamErr := none
  arrivals : List (Arrival F) := []
  recvErr : StreamErr
  /-- The context is done when `Recv` fails. -/
  contextDone : Bool := false
  /-- The steps of others from then to the next attempt. -/
  after : List Other := []

/-- `fmt.Errorf` with `%w`. -/
def StreamErr.wrap (context : String) (err : StreamErr) : StreamErr := { err with text := context ++ ": " ++ err.text }

section Code

variable {F : Type} (src : Source F) (lib : Apimachinery) (marshalFlow : F → Except Err Bytes)

/-- The loop of `stream`, with `successfulConnection`. -/
def receive : List (Arrival F) → Bool → Sinks → Except Panic (Bool × Sinks)
  | [], successfulConnection, s => .ok (successfulConnection, s)
  | a :: arrivals, _, s => do
    let s := (s.others a.before).dumpFlow marshalFlow a.flow
    let result ← src.process lib a.client a.wnps a.now a.flow
    receive arrivals true (s.handle result)

/-- `stream`, with `successfulConnection` when it returns. -/
def stream (session : Session F) (s : Sinks) : Except Panic (Attempt × Sinks) :=
  match session.createErr with
  | some err => .ok ({ err := some (err.wrap src.createFailed) }, s)
  | none =>
    match session.openErr with
    | some err => .ok ({ err := some (err.wrap src.openFailed) }, s)
    | none => do
      let (received, s) ← receive src lib marshalFlow session.arrivals false s
      let err := if session.contextDone then none else some (session.recvErr.wrap src.receiveFailed)
      return ({ err := err, received := received }, s)

end Code

lemma recordable_processFlow {lib : Apimachinery} {c : WorkloadClient} {wnps : TargetReader} {now : Time}
    {response : Option GetFlowsResponse} {r : FlowResult}
    (hdeclared : ∀ flow, response = some (.flow (some flow)) → ∀ n, flow.trafficDirection ≠ .undeclared n)
    (h : CiliumScraper.processFlow lib c wnps now response = .ok r) : Recordable lib r := by
  unfold CiliumScraper.processFlow at h
  split at h
  case h_3 flow =>
    obtain ⟨r', hr', hrec⟩ := cilium_recordable lib c wnps now flow
    obtain rfl := Except.ok.inj (hr'.symm.trans h)
    exact hrec (hdeclared flow rfl)
  -- a skip or an error
  all_goals
    obtain rfl := Except.ok.inj h
    exact trivial

/-- The Cilium scraper. -/
def hubble : Source (Option GetFlowsResponse) where
  name := "Cilium"
  createFailed := "failed to create Hubble client"
  openFailed := "failed to get flows from Hubble"
  receiveFailed := "error receiving flow from Hubble"
  process := CiliumScraper.processFlow
  process_total := processFlow_total
  Declared response := ∀ flow, response = some (.flow (some flow)) → ∀ n, flow.trafficDirection ≠ .undeclared n
  recordable := recordable_processFlow

/-- The Calico scraper, which has the processing in line. -/
def goldmane : Source (Option GoldmaneFlowResult) where
  name := "Calico"
  createFailed := "failed to create Goldmane client"
  openFailed := "failed to stream flows from Goldmane"
  receiveFailed := "error receiving flow from Goldmane"
  process lib c wnps now flowResult :=
    resolveParsedFlow (CalicoScraper.resolve lib c) wnps (parseCalicoFlow now flowResult)
  process_total lib c wnps now flowResult := by
    obtain ⟨r, hr, -⟩ := calico_recordable lib c wnps now flowResult
    exact ⟨r, hr⟩
  Declared _ := True
  recordable {lib c wnps now flowResult r} _ h := by
    obtain ⟨r', hr', hrec⟩ := calico_recordable lib c wnps now flowResult
    obtain rfl := Except.ok.inj (hr'.symm.trans h)
    exact hrec

def CiliumScraper.stream := Scraper.stream hubble
def CalicoScraper.stream := Scraper.stream goldmane

/-! ## Start -/

/-- What an attempt returns. -/
def Session.attempt {F : Type} (src : Source F) (session : Session F) : Attempt :=
  match session.createErr with
  | some err => { err := some (err.wrap src.createFailed) }
  | none =>
    match session.openErr with
    | some err => { err := some (err.wrap src.openFailed) }
    | none =>
      { err := if session.contextDone then none else some (session.recvErr.wrap src.receiveFailed)
        received := !session.arrivals.isEmpty }

/-- A course of events. -/
structure Course (F : Type) where
  session : Nat → Session F
  done : Nat → Bool
  retry : Retrier
  done_mono : ∀ {m n}, m ≤ n → done m = true → done n = true
  /-- A context that an attempt finds done is done afterwards. -/
  done_of_contextDone : ∀ k, (session k).contextDone = true → done (afterAttempt k) = true

namespace Course

variable {F : Type} (course : Course F) (src : Source F) (lib : Apimachinery) (marshalFlow : F → Except Err Bytes)

/-- The attempts, as `runStreamWithReconnect` sees them. -/
def environment : Environment where
  attempt k := (course.session k).attempt src
  done := course.done
  retry := course.retry
  done_mono := course.done_mono

/-- The sinks after so many attempts. -/
def sinks : Nat → Sinks → Except Panic Sinks
  | 0, s => .ok s
  | k + 1, s => do
    let s ← sinks k s
    let (_, s) ← stream src lib marshalFlow (course.session k) s
    return s.others (course.session k).after

/-- `Start`, followed for a number of rounds. -/
def start (rounds : Nat) (s : Sinks) : Outcome × Except Panic Sinks :=
  let outcome := runStreamWithReconnect (course.environment src) src.name rounds 0
  (outcome, course.sinks src lib marshalFlow outcome.attempts s)

end Course

def CiliumScraper.start (course : Course (Option GetFlowsResponse)) := course.start hubble
def CalicoScraper.start (course : Course (Option GoldmaneFlowResult)) := course.start goldmane

/-! ## What becomes of a flow -/

def FlowResult.event? : FlowResult → Option LearningEvent
  | .enqueue event => some event
  | _ => none

def FlowResult.observation? : FlowResult → Option Observation
  | .violation obs => some obs
  | _ => none

section Results

variable {F : Type} (src : Source F) (lib : Apimachinery)

/-- The outcome of a flow. -/
def Arrival.result (a : Arrival F) : FlowResult :=
  (src.process lib a.client a.wnps a.now a.flow).toOption.getD .skip

lemma Arrival.process_eq (a : Arrival F) :
    src.process lib a.client a.wnps a.now a.flow = .ok (a.result src lib) := by
  obtain ⟨r, hr⟩ := src.process_total lib a.client a.wnps a.now a.flow
  rw [Arrival.result, hr]
  rfl

/-- The flows that an attempt receives. -/
def Session.received (session : Session F) : List (Arrival F) :=
  if session.createErr.isSome || session.openErr.isSome then [] else session.arrivals

/-- The flows of so many attempts. -/
def Course.received (course : Course F) (k : Nat) : List (Arrival F) :=
  (List.range k).flatMap fun i => (course.session i).received

lemma Course.received_succ (course : Course F) (k : Nat) :
    course.received (k + 1) = course.received k ++ (course.session k).received := by
  rw [Course.received, List.range_succ, List.flatMap_append, List.flatMap_singleton]
  rfl

end Results

/-! ## The balance of the buffer -/

/-- What the buffer has kept of all that was recorded: what is missing was dropped. -/
structure Kept (s : Sinks) : Prop where
  balance : ∃ before since, Represents s.violationBuffer since ∧ s.recorded = before ++ since.reverse ∧
    s.drained.Sublist before ∧
    s.drained.length + s.dropped + min since.length s.violationBuffer.capacity = s.recorded.length

namespace Kept

variable {s : Sinks}

lemma record (h : Kept s) (obs : Observation) : Kept (s.record obs) := by
  obtain ⟨before, since, hrep, hrecorded, hdrained, hcount⟩ := h.balance
  refine ⟨before, obs :: since, hrep.record obs, ?_, hdrained, ?_⟩
  · show s.recorded ++ [obs] = _
    rw [hrecorded, List.reverse_cons, List.append_assoc]
  · -- the answer of the buffer tells whether there was room
    have hanswer : (s.violationBuffer.record obs).1 = decide (s.violationBuffer.capacity ≤ since.length) := by
      rw [← hrep.pos]
      rfl
    show s.drained.length + (s.dropped + if (s.violationBuffer.record obs).1 = true then 1 else 0) +
      min (since.length + 1) s.violationBuffer.capacity = (s.recorded ++ [obs]).length
    rw [hanswer, List.length_append, ← hcount, List.length_singleton]
    by_cases hroom : s.violationBuffer.capacity ≤ since.length
    · rw [decide_eq_true hroom, if_pos rfl]
      omega
    · rw [decide_eq_false hroom, if_neg Bool.false_ne_true]
      omega

lemma drain (h : Kept s) : Kept (s.other .drain) := by
  obtain ⟨before, since, hrep, hrecorded, hdrained, hcount⟩ := h.balance
  refine ⟨s.recorded, [], .drain _, (List.append_nil _).symm, ?_, ?_⟩
  · show (s.drained ++ s.violationBuffer.drain.1.reverse).Sublist s.recorded
    rw [hrecorded, hrep.drained]
    exact hdrained.append (List.take_sublist _ _).reverse
  · show (s.drained ++ s.violationBuffer.drain.1.reverse).length + s.dropped + min 0 _ = s.recorded.length
    rw [List.length_append, List.length_reverse, hrep.drained, List.length_take, ← hcount]
    omega

/-- All that was recorded, as the sync will have it. -/
lemma delivered (h : Kept s) : (s.drained ++ s.violationBuffer.drain.1.reverse).Sublist s.recorded ∧
    (s.drained ++ s.violationBuffer.drain.1.reverse).length + s.dropped = s.recorded.length := by
  obtain ⟨before, since, hrep, hrecorded, hdrained, hcount⟩ := h.balance
  rw [hrep.drained]
  constructor
  · rw [hrecorded]
    exact hdrained.append (List.take_sublist _ _).reverse
  · rw [List.length_append, List.length_reverse, List.length_take, ← hcount]
    omega

end Kept

/-! ## The balance of a scraper -/

/-- What has become of these events and violations. -/
structure Accounts (otlp : Bool) (s : Sinks) (events : List LearningEvent) (violations : List Observation) :
    Prop where
  sent : (s.taken ++ s.channel).Sublist events
  refused : (s.taken ++ s.channel).length + s.full = events.length
  logged : s.violationOtelLogger = if otlp then some (violations.map otelRecord) else none
  recorded : violations.Sublist s.recorded
  kept : Kept s

namespace Accounts

variable {otlp : Bool} {s : Sinks} {events : List LearningEvent} {violations : List Observation}

lemma start (flowDumperBuffer : Option (Buffer Bytes)) : Accounts otlp (.start otlp flowDumperBuffer) [] [] where
  sent := List.Sublist.refl _
  refused := rfl
  logged := rfl
  recorded := List.Sublist.refl _
  kept := by
    refine ⟨[], [], .newWithSize _, rfl, List.Sublist.refl _, ?_⟩
    show 0 + 0 + min 0 _ = 0
    rw [Nat.zero_min]

/-- The learner takes the oldest event of the channel. -/
lemma take (h : Accounts otlp s events violations) : Accounts otlp (s.other .take) events violations := by
  cases hchannel : s.channel with
  | nil =>
    have hsame : s.other .take = s := by simp only [Sinks.other, hchannel]
    rw [hsame]
    exact h
  | cons event rest =>
    have hmoved : s.other .take = { s with channel := rest, taken := s.taken ++ [event] } := by
      simp only [Sinks.other, hchannel]
    have hsame : (s.taken ++ [event]) ++ rest = s.taken ++ s.channel := by
      rw [hchannel, List.append_assoc]
      rfl
    rw [hmoved]
    exact ⟨by rw [hsame]; exact h.sent, by rw [hsame]; exact h.refused, h.logged, h.recorded, ⟨h.kept.balance⟩⟩

/-- **One step of somebody else.** -/
lemma other (h : Accounts otlp s events violations) (step : Other) : Accounts otlp (s.other step) events violations := by
  cases step with
  | take => exact h.take
  | drain => exact ⟨h.sent, h.refused, h.logged, h.recorded, h.kept.drain⟩
  | report obs =>
    exact ⟨h.sent, h.refused, h.logged, h.recorded.trans (List.sublist_append_left _ _), h.kept.record obs⟩

lemma others (h : Accounts otlp s events violations) (steps : List Other) :
    Accounts otlp (s.others steps) events violations := by
  induction steps generalizing s with
  | nil => exact h
  | cons step steps ih => exact ih (h.other step)

lemma dumpFlow {F : Type} (h : Accounts otlp s events violations) (marshalFlow : F → Except Err Bytes) (flow : F) :
    Accounts otlp (s.dumpFlow marshalFlow flow) events violations := by
  unfold Sinks.dumpFlow
  split
  · exact h
  · split
    · exact h
    · exact ⟨h.sent, h.refused, h.logged, h.recorded, ⟨h.kept.balance⟩⟩

/-- An event is in the channel, or the warning is logged. -/
lemma enqueue (h : Accounts otlp s events violations) (event : LearningEvent) :
    Accounts otlp (s.handle (.enqueue event)) (events ++ [event]) violations := by
  have hcount := h.refused
  by_cases hroom : s.channel.length < Learner.defaultEventChannelBufferSize
  · have hsent : s.handle (.enqueue event) = { s with channel := s.channel ++ [event] } := by
      simp only [Sinks.handle, Sinks.enqueueLearningEvent, if_pos hroom, if_true]
    have happend : s.taken ++ (s.channel ++ [event]) = (s.taken ++ s.channel) ++ [event] :=
      (List.append_assoc ..).symm
    rw [hsent]
    refine ⟨?_, ?_, h.logged, h.recorded, ⟨h.kept.balance⟩⟩
    · rw [happend]
      exact h.sent.append (List.Sublist.refl [event])
    · show (s.taken ++ (s.channel ++ [event])).length + s.full = (events ++ [event]).length
      simp only [List.length_append, List.length_singleton] at hcount ⊢
      omega
  · have hfull : s.handle (.enqueue event) = { s with full := s.full + 1 } := by
      simp only [Sinks.handle, Sinks.enqueueLearningEvent, if_neg hroom]
      rfl
    rw [hfull]
    refine ⟨h.sent.trans (List.sublist_append_left _ _), ?_, h.logged, h.recorded, ⟨h.kept.balance⟩⟩
    show (s.taken ++ s.channel).length + (s.full + 1) = (events ++ [event]).length
    simp only [List.length_append, List.length_singleton] at hcount ⊢
    omega

lemma violation (h : Accounts otlp s events violations) (obs : Observation) :
    Accounts otlp (s.handle (.violation obs)) events (violations ++ [obs]) := by
  have hkept : Kept { s with violationOtelLogger := emitOtelLog s.violationOtelLogger obs } := ⟨h.kept.balance⟩
  refine ⟨h.sent, h.refused, ?_, h.recorded.append (List.Sublist.refl [obs]), hkept.record obs⟩
  show emitOtelLog s.violationOtelLogger obs = _
  rw [h.logged, List.map_append]
  cases otlp with
  | true => rfl
  | false => rfl

/-- **One flow.** -/
lemma handle (h : Accounts otlp s events violations) (result : FlowResult) :
    Accounts otlp (s.handle result) (events ++ result.event?.toList) (violations ++ result.observation?.toList) := by
  cases result with
  | skip => exact (List.append_nil events).symm ▸ (List.append_nil violations).symm ▸ h
  | error err => exact (List.append_nil events).symm ▸ (List.append_nil violations).symm ▸ h
  | enqueue event => exact (List.append_nil violations).symm ▸ h.enqueue event
  | violation obs => exact (List.append_nil events).symm ▸ h.violation obs

end Accounts

section Run

variable {F : Type} (src : Source F) (lib : Apimachinery) (marshalFlow : F → Except Err Bytes)

/-- The events of the flows, in their order. -/
def eventsOf (arrivals : List (Arrival F)) : List LearningEvent :=
  arrivals.flatMap fun a => (a.result src lib).event?.toList

/-- The violations of the flows, in their order. -/
def violationsOf (arrivals : List (Arrival F)) : List Observation :=
  arrivals.flatMap fun a => (a.result src lib).observation?.toList

variable {src lib marshalFlow} {otlp : Bool} {s : Sinks} {events : List LearningEvent}
  {violations : List Observation}

lemma mem_eventsOf {arrivals : List (Arrival F)} {event : LearningEvent} :
    event ∈ eventsOf src lib arrivals ↔ ∃ a ∈ arrivals, a.result src lib = .enqueue event := by
  unfold eventsOf
  rw [List.mem_flatMap]
  refine exists_congr fun a => and_congr_right fun _ => ?_
  cases a.result src lib <;> simp [FlowResult.event?, eq_comm]

lemma mem_violationsOf {arrivals : List (Arrival F)} {obs : Observation} :
    obs ∈ violationsOf src lib arrivals ↔ ∃ a ∈ arrivals, a.result src lib = .violation obs := by
  unfold violationsOf
  rw [List.mem_flatMap]
  refine exists_congr fun a => and_congr_right fun _ => ?_
  cases a.result src lib <;> simp [FlowResult.observation?, eq_comm]

lemma Arrival.recordable (a : Arrival F) (h : src.Declared a.flow) : Recordable lib (a.result src lib) :=
  src.recordable h (a.process_eq src lib)

/-- **The flows of a stream.** -/
lemma receive_accounts (arrivals : List (Arrival F)) (successfulConnection : Bool) (h : Accounts otlp s events violations) :
    ∃ s', receive src lib marshalFlow arrivals successfulConnection s =
        .ok (successfulConnection || !arrivals.isEmpty, s') ∧
      Accounts otlp s' (events ++ eventsOf src lib arrivals) (violations ++ violationsOf src lib arrivals) := by
  induction arrivals generalizing successfulConnection s events violations with
  | nil =>
    refine ⟨s, ?_, (List.append_nil events).symm ▸ (List.append_nil violations).symm ▸ h⟩
    rw [List.isEmpty_nil, Bool.not_true, Bool.or_false]
    rfl
  | cons a arrivals ih =>
    obtain ⟨s', hreceive, haccounts⟩ :=
      ih true (((h.others a.before).dumpFlow marshalFlow a.flow).handle (a.result src lib))
    refine ⟨s', ?_, ?_⟩
    · rw [receive, a.process_eq src lib]
      refine Eq.trans hreceive ?_
      rw [Bool.true_or, List.isEmpty_cons, Bool.not_false, Bool.or_true]
    · rw [List.append_assoc, List.append_assoc] at haccounts
      exact haccounts

/-- **One attempt.** -/
lemma stream_accounts (session : Session F) (h : Accounts otlp s events violations) :
    ∃ s', stream src lib marshalFlow session s = .ok (session.attempt src, s') ∧
      Accounts otlp s' (events ++ eventsOf src lib session.received)
        (violations ++ violationsOf src lib session.received) := by
  have hnothing : Accounts otlp s (events ++ []) (violations ++ []) :=
    (List.append_nil events).symm ▸ (List.append_nil violations).symm ▸ h
  cases hcreate : session.createErr with
  | some err =>
    refine ⟨s, ?_, ?_⟩
    · simp only [stream, Session.attempt, hcreate]
    · simp only [Session.received, hcreate, Option.isSome_some, Bool.true_or, if_true]
      exact hnothing
  | none =>
    cases hopen : session.openErr with
    | some err =>
      refine ⟨s, ?_, ?_⟩
      · simp only [stream, Session.attempt, hcreate, hopen]
      · simp only [Session.received, hcreate, hopen, Option.isSome_some, Bool.or_true, if_true]
        exact hnothing
    | none =>
      obtain ⟨s', hreceive, haccounts⟩ :
          ∃ s', receive src lib marshalFlow session.arrivals false s = .ok (!session.arrivals.isEmpty, s') ∧
            Accounts otlp s' (events ++ eventsOf src lib session.arrivals)
              (violations ++ violationsOf src lib session.arrivals) := receive_accounts session.arrivals false h
      refine ⟨s', ?_, ?_⟩
      · simp only [stream, Session.attempt, hcreate, hopen, hreceive]
        rfl
      · simp only [Session.received, hcreate, hopen, Option.isSome_none, Bool.or_self, Bool.false_eq_true, if_false]
        exact haccounts

/-- **All attempts.** -/
lemma Course.sinks_accounts (course : Course F) (k : Nat) (h : Accounts otlp s events violations) :
    ∃ s', course.sinks src lib marshalFlow k s = .ok s' ∧
      Accounts otlp s' (events ++ eventsOf src lib (course.received k))
        (violations ++ violationsOf src lib (course.received k)) := by
  induction k with
  | zero => exact ⟨s, rfl, (List.append_nil events).symm ▸ (List.append_nil violations).symm ▸ h⟩
  | succ k ih =>
    obtain ⟨s₁, hsinks, h₁⟩ := ih
    obtain ⟨s₂, hstream, h₂⟩ : ∃ s₂, stream src lib marshalFlow (course.session k) s₁ = _ ∧ _ :=
      stream_accounts (course.session k) h₁
    refine ⟨s₂.others (course.session k).after, ?_, ?_⟩
    · rw [Course.sinks, hsinks]
      show (stream src lib marshalFlow (course.session k) s₁ >>= _) = _
      rw [hstream]
      rfl
    · rw [course.received_succ, eventsOf, violationsOf, List.flatMap_append, List.flatMap_append, ← List.append_assoc,
        ← List.append_assoc]
      exact h₂.others _

lemma Course.exists_start (course : Course F) (rounds : Nat) (otlp : Bool) (flowDumperBuffer : Option (Buffer Bytes)) :
    ∃ outcome s, course.start src lib marshalFlow rounds (.start otlp flowDumperBuffer) = (outcome, .ok s) := by
  obtain ⟨s, hsinks, -⟩ : ∃ s', course.sinks src lib marshalFlow _ (.start otlp flowDumperBuffer) = .ok s' ∧ _ :=
    course.sinks_accounts (runStreamWithReconnect (course.environment src) src.name rounds 0).attempts
      (Accounts.start flowDumperBuffer)
  exact ⟨_, s, Prod.ext rfl hsinks⟩

/-- **A whole run.** -/
lemma Course.start_accounts {course : Course F} {rounds : Nat} {flowDumperBuffer : Option (Buffer Bytes)}
    {outcome : Outcome} {s : Sinks}
    (h : course.start src lib marshalFlow rounds (.start otlp flowDumperBuffer) = (outcome, .ok s)) :
    Accounts otlp s (eventsOf src lib (course.received outcome.attempts))
      (violationsOf src lib (course.received outcome.attempts)) := by
  obtain ⟨houtcome, hs⟩ := Prod.mk.inj h
  obtain ⟨s', hsinks, haccounts⟩ : ∃ s', course.sinks src lib marshalFlow outcome.attempts (.start otlp flowDumperBuffer) =
    .ok s' ∧ _ := course.sinks_accounts outcome.attempts (Accounts.start flowDumperBuffer)
  rw [houtcome, hsinks] at hs
  obtain rfl := Except.ok.inj hs
  exact haccounts

end Run

/-- The errors of a stream are those of the calls it makes. -/
def Session.failure {F : Type} (session : Session F) : StreamErr :=
  (session.createErr.or session.openErr).getD session.recvErr

lemma Session.contextDone_of_nil {F : Type} {src : Source F} {session : Session F}
    (h : (session.attempt src).err = none) : session.contextDone = true := by
  unfold Session.attempt at h
  cases hcreate : session.createErr with
  | some err =>
    rw [hcreate] at h
    cases h
  | none =>
    cases hopen : session.openErr with
    | some err =>
      rw [hcreate, hopen] at h
      cases h
    | none =>
      rw [hcreate, hopen] at h
      by_contra hdone
      rw [show (_ : Option StreamErr) = _ from if_neg hdone] at h
      cases h

/-- Wrapping an error does not change what it is. -/
lemma Session.cancelled_of_attempt {F : Type} {src : Source F} {session : Session F}
    (h : isContextCancellation (session.attempt src).err = true) :
    isContextCancellation (some session.failure) = true := by
  unfold Session.attempt at h
  unfold Session.failure
  cases hcreate : session.createErr with
  | some err =>
    rw [hcreate] at h
    exact h
  | none =>
    cases hopen : session.openErr with
    | some err =>
      rw [hcreate, hopen] at h
      exact h
    | none =>
      rw [hcreate, hopen] at h
      cases hdone : session.contextDone with
      | true =>
        rw [hdone] at h
        cases h
      | false =>
        rw [hdone] at h
        exact h

/-- Nobody else's context ends an attempt. -/
def Course.NoForeignContext {F : Type} (course : Course F) (src : Source F) : Prop :=
  ∀ k, Reaches (course.environment src) k → course.done (afterAttempt k) = false →
    isContextCancellation (some (course.session k).failure) = false

lemma Course.neverAbandoned {F : Type} {course : Course F} {src : Source F} (h : course.NoForeignContext src) :
    NeverAbandoned (course.environment src) src.name := by
  refine (neverAbandoned_iff_of_nil_done fun k hnil => ?_).2 fun k hreach hdone => ?_
  · exact course.done_of_contextDone k (Session.contextDone_of_nil hnil)
  · have hforeign := h k hreach hdone
    rw [Bool.eq_false_iff]
    intro hcancelled
    rw [Session.cancelled_of_attempt hcancelled] at hforeign
    cases hforeign

/-- **Nothing is lost but what a warning is logged for.**  However often the stream breaks, and whatever the learner,
the sync and the monitor do meanwhile: of the flows that have been received, every event was taken by the learner or
is in the channel, in their order, but for as many as the channel was full for; every violation is in the OTel log, if
there is one, and was recorded, and all that was recorded has been drained by the sync or is in the buffer, in its
order, but for as many as the buffer has dropped.  Without an error of somebody else's context, the stream is given up
only when the context of the scraper is done, or with an error after five attempts in a row without a flow. -/
theorem received_flows_delivered {F : Type} (src : Source F) (lib : Apimachinery) (marshalFlow : F → Except Err Bytes)
    (otlp : Bool) (flowDumperBuffer : Option (Buffer Bytes)) (course : Course F) (rounds : Nat) :
    ∃ outcome s, course.start src lib marshalFlow rounds (.start otlp flowDumperBuffer) = (outcome, .ok s) ∧
      ((s.taken ++ s.channel).Sublist (eventsOf src lib (course.received outcome.attempts)) ∧
        (s.taken ++ s.channel).length + s.full = (eventsOf src lib (course.received outcome.attempts)).length) ∧
      s.violationOtelLogger = (if otlp then
        some ((violationsOf src lib (course.received outcome.attempts)).map otelRecord) else none) ∧
      (violationsOf src lib (course.received outcome.attempts)).Sublist s.recorded ∧
      ((s.drained ++ s.violationBuffer.drain.1.reverse).Sublist s.recorded ∧
        (s.drained ++ s.violationBuffer.drain.1.reverse).length + s.dropped = s.recorded.length) ∧
      (course.NoForeignContext src → NeverAbandoned (course.environment src) src.name) := by
  obtain ⟨outcome, s, hrun⟩ := course.exists_start rounds otlp flowDumperBuffer
  have haccounts := Course.start_accounts hrun
  exact ⟨outcome, s, hrun, ⟨haccounts.sent, haccounts.refused⟩, haccounts.logged, haccounts.recorded,
    haccounts.kept.delivered, Course.neverAbandoned⟩

end NetworkEnforcer.Scraper
