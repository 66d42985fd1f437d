import NetworkEnforcer.Lib.LuaPattern
import NetworkEnforcer.Ztunnel.Parser

/-!
# The Lua filter (`files/istio-fluent-bit/ztunnel_to_otel.lua`)

The filter shipped in the chart does what the parser does, on records that a Lua program sees as tables:
a field that is absent or null reads as `nil`.  A call can fail only by indexing a number or a Boolean.

On the schema of ztunnel (`Known`) the two agree (`go_parser_matches_lua_filter`): one has an event exactly
when the other returns code 1, with the same attributes.
-/

namespace NetworkEnforcer.Ztunnel

open NetworkEnforcer.Lib

/-! ## Lua values -/

/-- `attempt to index a … value`. -/
inductive LuaError where
  | index (key : Bytes)
  deriving DecidableEq, Repr

/-- `record[key]` on a table; `null` stands for `nil`. -/
def get (table : Fields) (key : Bytes) : Json := (table.lookup key).getD .null

/-- `value[key]` on any value.  The string library has no function under the keys of the filter, and the
keys of an array are numbers. -/
def index (value : Json) (key : Bytes) : Except LuaError Json :=
  match value with
  | .object fields => .ok (get fields key)
  | .string _ | .array _ => .ok .null
  | .null | .bool _ | .number _ => .error (.index key)

/-- `value or default`. -/
def orElse (value default : Json) : Json :=
  match value with
  | .null | .bool false => default
  | v => v

/-- `value == text`. -/
def equalsText (value : Json) (text : Bytes) : Bool :=
  match value with
  | .string s => s = text
  | _ => false

/-- `tostring`.  The text of a table goes on with its address, which no test of the filter sees. -/
def tostring : Json → Bytes
  | .null => ascii "nil"
  | .bool true => ascii "true"
  | .bool false => ascii "false"
  | .number text => text
  | .string s => s
  | .array _ | .object _ => ascii "table: 0x"

/-- `table[key] = value`: assigning `nil` removes the key. -/
def set (table : Fields) (key : Bytes) (value : Json) : Fields :=
  let rest := table.filter fun e => e.1 ≠ key
  match value with
  | .null => rest
  | v => (key, v) :: rest

/-! ## The filter -/

/-- `has_empty_field`. -/
def hasEmptyField (record : Fields) (key : Bytes) : Bool :=
  match get record key with
  | .null => true
  | v => tostring v = []

/-- `%d`. -/
def isDigitByte (b : UInt8) : Bool := isDigitRune b.toNat

/-- The pattern `:(%d+)$`. -/
def portPattern : List LuaPattern.Item := [.single (· = colon), .capture isDigitByte, .eos]

/-- `s:match(pattern)`, for a pattern with a capture: the first one. -/
def luaMatch (s : Bytes) (pattern : List LuaPattern.Item) : Option Bytes :=
  (LuaPattern.find pattern s).bind List.head?

/-- `extract_port`. -/
def luaExtractPort (address : Json) : Bytes :=
  match address with
  | .null => []
  | v => (luaMatch (tostring v) portPattern).getD []

def emptyText : Json := .string []

/-- `to_policy_event`. -/
def toPolicyEvent {T : Type} (timestamp : T) (record : Fields) (evtType : EventType) :
    Except LuaError (Int × T × Fields) := do
  let proxy := orElse (get record proxyKey) (.object [])
  let inbound := orElse (get record inboundKey) (.object [])
  let out := set [] evtTypeKey (.string evtType.text)
  let out := set out dstNamespacedNameKey (orElse (← index proxy wlKey) emptyText)
  let out := set out policyKey (orElse (get record policyKey) emptyText)
  let out := set out srcAddrKey (orElse (← index inbound peerKey) emptyText)
  let out := set out messageKey (orElse (get record messageKey) emptyText)
  return (1, timestamp, out)

/-- `to_learn_event`. -/
def toLearnEvent {T : Type} (timestamp : T) (record : Fields) : Int × T × Fields :=
  if !equalsText (get record directionKey) directionInbound then (-1, timestamp, record)
  else if hasEmptyField record srcIdentityKey || hasEmptyField record dstIdentityKey then
    (-1, timestamp, record)
  else
    let out := set [] evtTypeKey (.string EventType.learn.text)
    let out := set out dstNameKey (get record dstWorkloadKey)
    let out := set out dstNamespaceKey (get record dstNamespaceKey)
    let out := set out dstPortKey (.string (luaExtractPort (get record dstHboneAddrKey)))
    let out := set out srcIdentityKey (get record srcIdentityKey)
    let out := set out messageKey (orElse (get record messageKey) emptyText)
    (1, timestamp, out)

/-- `to_otel`. -/
def toOtel {T : Type} (_tag : Bytes) (timestamp : T) (record : Fields) : Except LuaError (Int × T × Fields) :=
  let message := get record messageKey
  if equalsText message msgMonitorDeny || equalsText message msgMonitorAllowMiss then
    toPolicyEvent timestamp record .monitor
  else if equalsText message msgViolationDeny || equalsText message msgViolationAllowMiss then
    toPolicyEvent timestamp record .protect
  else if equalsText message msgLearn then .ok (toLearnEvent timestamp record)
  else .ok (-1, timestamp, record)

/-! ## Ports -/

/-- **`extractPort` is the match of `:(%d+)$`**, on every string. -/
theorem extractPort_eq_luaMatch (d : RuneDecoder) (address : Bytes) :
    extractPort d address = (luaMatch address portPattern).getD [] := by
  have hcolon : isDigitByte colon = false := by decide
  have hascii : ∀ n, 0x80 ≤ n → isDigitRune n = false := by
    intro n hn
    simp only [isDigitRune, Bool.and_eq_false_iff, decide_eq_false_iff_not]
    omega
  unfold extractPort luaMatch portPattern
  rw [LuaPattern.find_capture_end hcolon]
  cases afterLast colon address with
  | none => rfl
  | some port =>
    have hdigits : (runes d port).all isDigitRune = port.all isDigitByte := all_runes d hascii port
    simp only [Option.bind_some, hdigits]
    by_cases hne : port = []
    · simp [hne]
    · by_cases hall : port.all isDigitByte = true
      · rw [if_neg hne, if_pos hall, if_pos ⟨hne, hall⟩]
        rfl
      · rw [if_neg hne, if_neg hall, if_neg fun h => hall h.2]
        rfl

/-! ## The schema -/

/-- The attribute is absent, null or a string. -/
def Textual (fields : Fields) (key : Bytes) : Prop :=
  fields.lookup key = none ∨ fields.lookup key = some .null ∨ ∃ s, fields.lookup key = some (.string s)

/-- The attribute is absent, null or an object with these fields. -/
def Nested (fields : Fields) (key : Bytes) (inner : Fields) : Prop :=
  (fields.lookup key = none ∧ inner = []) ∨ (fields.lookup key = some .null ∧ inner = []) ∨
    fields.lookup key = some (.object inner)

/-- The attributes of the record that are strings. -/
def textKeys : List Bytes :=
  [messageKey, directionKey, srcIdentityKey, dstIdentityKey, dstWorkloadKey, dstNamespaceKey, dstHboneAddrKey,
    policyKey]

/-- A record of ztunnel, with the objects nested in it: known attributes are texts or missing, whatever
else there is. -/
structure Known (fields proxy inbound : Fields) : Prop where
  texts : ∀ key ∈ textKeys, Textual fields key
  nestedProxy : Nested fields proxyKey proxy
  wl : Textual proxy wlKey
  nestedInbound : Nested fields inboundKey inbound
  peer : Textual inbound peerKey

/-- The text of a field as `*string`. -/
def pointer (fields : Fields) (key : Bytes) : Option Bytes :=
  match get fields key with
  | .string s => some s
  | _ => none

/-- A pointer as Lua sees it. -/
def asLua : Option Bytes → Json
  | some s => .string s
  | none => .null

section Textual

variable {fields : Fields} {key : Bytes}

lemma Textual.get_eq (h : Textual fields key) : get fields key = asLua (pointer fields key) := by
  unfold pointer get
  rcases h with h | h | ⟨s, h⟩ <;> rw [h] <;> rfl

lemma Textual.pointerField (h : Textual fields key) : pointerField fields key = .ok (pointer fields key) := by
  unfold Ztunnel.pointerField pointer get
  rcases h with h | h | ⟨s, h⟩ <;> rw [h] <;> rfl

lemma Textual.stringField (h : Textual fields key) :
    stringField fields key = .ok ((pointer fields key).getD []) := by
  unfold Ztunnel.stringField
  rw [h.pointerField]
  rfl

lemma orElse_asLua (o : Option Bytes) : orElse (asLua o) emptyText = .string (o.getD []) := by
  cases o <;> rfl

lemma equalsText_asLua (o : Option Bytes) {text : Bytes} (h : text ≠ []) :
    equalsText (asLua o) text = true ↔ o.getD [] = text := by
  cases o with
  | none => exact ⟨nofun, fun he => absurd he.symm h⟩
  | some s => exact decide_eq_true_iff

lemma Textual.hasEmptyField (h : Textual fields key) :
    hasEmptyField fields key = true ↔ (pointer fields key).getD [] = [] := by
  unfold Ztunnel.hasEmptyField
  rw [h.get_eq]
  cases pointer fields key with
  | none => exact ⟨fun _ => rfl, fun _ => rfl⟩
  | some s => exact decide_eq_true_iff

lemma luaExtractPort_asLua (d : RuneDecoder) (o : Option Bytes) :
    luaExtractPort (asLua o) = extractPort d (o.getD []) := by
  rw [extractPort_eq_luaMatch]
  cases o <;> rfl

lemma Nested.structField {inner : Fields} (h : Nested fields key inner) : structField fields key = .ok inner := by
  unfold Ztunnel.structField
  rcases h with ⟨h, rfl⟩ | ⟨h, rfl⟩ | h <;> rw [h]

lemma Nested.index_orElse {inner : Fields} (h : Nested fields key inner) (k : Bytes) :
    index (orElse (get fields key) (.object [])) k = .ok (get inner k) := by
  unfold get
  rcases h with ⟨h, rfl⟩ | ⟨h, rfl⟩ | h <;> rw [h] <;> rfl

end Textual

/-! ## Tables -/

lemma lookup_cons_ne {key k : Bytes} (h : k ≠ key) (v : Json) (table : Fields) :
    ((key, v) :: table).lookup k = table.lookup k := by
  rw [List.lookup_cons, beq_false_of_ne h]

lemma lookup_filter_ne (table : Fields) (key k : Bytes) :
    (table.filter fun e => e.1 ≠ key).lookup k = if k = key then none else table.lookup k := by
  induction table with
  | nil => simp
  | cons e table ih =>
    obtain ⟨key', v⟩ := e
    by_cases he : key' = key
    · subst he
      rw [List.filter_cons_of_neg (by simp), ih]
      by_cases hk : k = key'
      · rw [if_pos hk, if_pos hk]
      · rw [if_neg hk, if_neg hk, lookup_cons_ne hk]
    · rw [List.filter_cons_of_pos (by simpa using he)]
      by_cases hk : k = key'
      · subst hk
        rw [if_neg he, List.lookup_cons_self, List.lookup_cons_self]
      · rw [lookup_cons_ne hk, lookup_cons_ne hk, ih]

/-- What a table holds after an assignment. -/
@[simp] lemma get_set (table : Fields) (key : Bytes) (value : Json) (k : Bytes) :
    get (set table key value) k = if k = key then value else get table k := by
  have hrest : get (table.filter fun e => e.1 ≠ key) k = if k = key then .null else get table k := by
    unfold get
    rw [lookup_filter_ne]
    split <;> rfl
  have hcons : ∀ v, get ((key, v) :: table.filter fun e => e.1 ≠ key) k =
      if k = key then v else get table k := by
    intro v
    by_cases hk : k = key
    · simp [get, hk]
    · rw [if_neg hk] at hrest ⊢
      rw [← hrest, get, get, lookup_cons_ne hk]
  cases value with
  | null => exact hrest
  | _ => exact hcons _

@[simp] lemma get_nil (k : Bytes) : get [] k = .null := rfl

@[simp] lemma asLua_lookup_empty (k : Bytes) : asLua ((∅ : GoMap Bytes Bytes).lookup k) = .null := rfl

@[simp] lemma asLua_lookup_insert (m : GoMap Bytes Bytes) (key s k : Bytes) :
    asLua ((m.insert key s).lookup k) = if k = key then .string s else asLua (m.lookup k) := by
  by_cases hk : k = key
  · subst hk
    rw [AList.lookup_insert, if_pos rfl, asLua]
  · rw [AList.lookup_insert_ne hk, if_neg hk]

lemma asLua_lookup_insertPointer {m : GoMap Bytes Bytes} {key : Bytes} (hm : m.lookup key = none)
    (o : Option Bytes) (k : Bytes) :
    asLua ((insertPointer m key o).lookup k) = if k = key then asLua o else asLua (m.lookup k) := by
  cases o with
  | some s => exact asLua_lookup_insert m key s k
  | none =>
    by_cases hk : k = key
    · subst hk
      rw [if_pos rfl, insertPointer, hm]
    · rw [if_neg hk]
      rfl

/-! ## Agreement -/

/-- What is unmarshalled from a known object. -/
def knownRecord (fields proxy inbound : Fields) : Record where
  message := (pointer fields messageKey).getD []
  direction := (pointer fields directionKey).getD []
  sourceIdentity := (pointer fields srcIdentityKey).getD []
  destinationIdentity := (pointer fields dstIdentityKey).getD []
  destinationName := pointer fields dstWorkloadKey
  destinationNamespace := pointer fields dstNamespaceKey
  destinationHBONEAddr := (pointer fields dstHboneAddrKey).getD []
  policy := (pointer fields policyKey).getD []
  proxyWorkload := (pointer proxy wlKey).getD []
  inboundPeer := (pointer inbound peerKey).getD []

section Agreement

variable {fields proxy inbound : Fields}

lemma Known.unmarshalRecord (h : Known fields proxy inbound) :
    unmarshalRecord (.object fields) = .ok (knownRecord fields proxy inbound) := by
  have hs : ∀ key ∈ textKeys, stringField fields key = .ok ((pointer fields key).getD []) :=
    fun key hk => (h.texts key hk).stringField
  have hp : ∀ key ∈ textKeys, pointerField fields key = .ok (pointer fields key) :=
    fun key hk => (h.texts key hk).pointerField
  simp only [textKeys, List.forall_mem_cons] at hs hp
  simp only [Ztunnel.unmarshalRecord, hs, hp, h.nestedProxy.structField, h.wl.stringField,
    h.nestedInbound.structField, h.peer.stringField, bind, Except.bind]
  rfl

lemma Known.get_eq (h : Known fields proxy inbound) {key : Bytes} (hk : key ∈ textKeys) :
    get fields key = asLua (pointer fields key) :=
  (h.texts key hk).get_eq

lemma Known.equalsText_message (h : Known fields proxy inbound) (text : Bytes) (ht : text ≠ []) :
    equalsText (get fields messageKey) text = true ↔ (knownRecord fields proxy inbound).message = text := by
  have hk : messageKey ∈ textKeys := by decide
  rw [h.get_eq hk]
  exact equalsText_asLua _ ht

/-- The message is the second field of the parser, and the last one the filter sets; no other field of an
event has its key. -/
lemma messageKey_ne {k : Bytes} (hk : k ∈ [evtTypeKey, dstNameKey, dstNamespaceKey, dstPortKey, srcIdentityKey,
    dstNamespacedNameKey, policyKey, srcAddrKey]) : messageKey ≠ k := by
  revert k
  decide

lemma asLua_policyAttributes {event : Event} (h : event.type ≠ .learn) (k : Bytes) :
    asLua ((eventAttributes event).lookup k) =
      if k = srcAddrKey then .string event.sourceAddress
      else if k = policyKey then .string event.policy
      else if k = dstNamespacedNameKey then .string event.destinationNamespacedName
      else if k = messageKey then .string event.message
      else if k = evtTypeKey then .string event.type.text else .null := by
  unfold eventAttributes
  rw [if_neg h]
  simp only [asLua_lookup_insert, asLua_lookup_empty]

lemma asLua_learnAttributes {event : Event} (h : event.type = .learn) (k : Bytes) :
    asLua ((eventAttributes event).lookup k) =
      if k = srcIdentityKey then .string event.sourceIdentity
      else if k = dstPortKey then .string event.destinationPort
      else if k = dstNamespaceKey then asLua event.destinationNamespace
      else if k = dstNameKey then asLua event.destinationName
      else if k = messageKey then .string event.message
      else if k = evtTypeKey then .string event.type.text else .null := by
  have hname : (((∅ : GoMap Bytes Bytes).insert evtTypeKey event.type.text).insert messageKey
      event.message).lookup dstNameKey = none := by
    rw [AList.lookup_insert_ne (by decide), AList.lookup_insert_ne (by decide), AList.lookup_empty]
  have hns : (insertPointer (((∅ : GoMap Bytes Bytes).insert evtTypeKey event.type.text).insert messageKey
      event.message) dstNameKey event.destinationName).lookup dstNamespaceKey = none := by
    cases event.destinationName with
    | none =>
      rw [insertPointer, AList.lookup_insert_ne (by decide), AList.lookup_insert_ne (by decide),
        AList.lookup_empty]
    | some name =>
      rw [insertPointer, AList.lookup_insert_ne (by decide), AList.lookup_insert_ne (by decide),
        AList.lookup_insert_ne (by decide), AList.lookup_empty]
  unfold eventAttributes
  rw [if_pos h]
  simp only [asLua_lookup_insert, asLua_lookup_insertPointer hns, asLua_lookup_insertPointer hname,
    asLua_lookup_empty]

lemma Known.toPolicyEvent (h : Known fields proxy inbound) {T : Type} (time : T) (timestamp : Bytes)
    (type : EventType) (htype : type ≠ .learn) :
    ∃ out, toPolicyEvent time fields type = .ok (1, time, out) ∧ ∀ k, get out k =
      asLua ((eventAttributes (policyEvent timestamp (knownRecord fields proxy inbound) type)).lookup k) := by
  have hpolicy : policyKey ∈ textKeys := by decide
  have hmessage : messageKey ∈ textKeys := by decide
  unfold Ztunnel.toPolicyEvent
  rw [h.get_eq hpolicy, h.get_eq hmessage]
  simp only [h.nestedProxy.index_orElse, h.nestedInbound.index_orElse, h.wl.get_eq, h.peer.get_eq]
  refine ⟨_, rfl, fun k => ?_⟩
  rw [asLua_policyAttributes htype]
  simp only [get_set, get_nil, orElse_asLua]
  by_cases hk : k = messageKey
  · rw [hk, if_pos rfl, if_neg (messageKey_ne (by decide)), if_neg (messageKey_ne (by decide)),
      if_neg (messageKey_ne (by decide)), if_pos rfl]
    rfl
  · rw [if_neg hk, if_neg hk]
    rfl

/-- An identity that the parser reads is a text to the filter. -/
lemma Known.get_srcIdentity (h : Known fields proxy inbound)
    (hne : (knownRecord fields proxy inbound).sourceIdentity ≠ []) :
    get fields srcIdentityKey = .string (knownRecord fields proxy inbound).sourceIdentity := by
  rw [h.get_eq (by decide)]
  cases hp : pointer fields srcIdentityKey with
  | none => exact absurd (by simp [knownRecord, hp]) hne
  | some s => simp [knownRecord, hp, asLua]

lemma Known.toLearnEvent (h : Known fields proxy inbound) (d : RuneDecoder) {T : Type} (time : T)
    (timestamp : Bytes) :
    ∃ code out, toLearnEvent time fields = (code, time, out) ∧
      ((learnEvent d timestamp (knownRecord fields proxy inbound)).isSome = true ↔ code = 1) ∧
      ∀ event, learnEvent d timestamp (knownRecord fields proxy inbound) = some event →
        ∀ k, get out k = asLua ((eventAttributes event).lookup k) := by
  have hdirection : equalsText (get fields directionKey) directionInbound = true ↔
      (knownRecord fields proxy inbound).direction = directionInbound := by
    rw [h.get_eq (by decide)]
    exact equalsText_asLua _ (by decide)
  have hsource : hasEmptyField fields srcIdentityKey = true ↔
      (knownRecord fields proxy inbound).sourceIdentity = [] :=
    (h.texts srcIdentityKey (by decide)).hasEmptyField
  have hdest : hasEmptyField fields dstIdentityKey = true ↔
      (knownRecord fields proxy inbound).destinationIdentity = [] :=
    (h.texts dstIdentityKey (by decide)).hasEmptyField
  unfold Ztunnel.toLearnEvent learnEvent
  by_cases hin : equalsText (get fields directionKey) directionInbound = true
  · by_cases hempty : (hasEmptyField fields srcIdentityKey || hasEmptyField fields dstIdentityKey) = true
    · -- an identity is missing on both sides
      have hskip := hempty
      rw [Bool.or_eq_true, hsource, hdest] at hskip
      rw [if_neg (by simp [hin]), if_pos hempty, if_pos (Or.inr hskip)]
      exact ⟨-1, fields, rfl, by simp, nofun⟩
    · have hgo : ¬ ((knownRecord fields proxy inbound).direction ≠ directionInbound ∨
          (knownRecord fields proxy inbound).sourceIdentity = [] ∨
          (knownRecord fields proxy inbound).destinationIdentity = []) := by
        rw [Bool.or_eq_true, hsource, hdest] at hempty
        rintro (hd | he)
        · exact hd (hdirection.1 hin)
        · exact hempty he
      have hident := h.get_srcIdentity fun hs => hgo (Or.inr (Or.inl hs))
      have hmessage : messageKey ∈ textKeys := by decide
      have haddr : dstHboneAddrKey ∈ textKeys := by decide
      have hname : dstWorkloadKey ∈ textKeys := by decide
      have hns : dstNamespaceKey ∈ textKeys := by decide
      rw [if_neg (by simp [hin]), if_neg hempty, if_neg hgo]
      refine ⟨1, _, rfl, by simp, fun event hevent k => ?_⟩
      obtain rfl := Option.some.inj hevent
      rw [asLua_learnAttributes rfl]
      simp only [get_set, get_nil, hident, h.get_eq hmessage, h.get_eq haddr, h.get_eq hname, h.get_eq hns,
        orElse_asLua, luaExtractPort_asLua d]
      by_cases hk : k = messageKey
      · rw [hk, if_pos rfl, if_neg (messageKey_ne (by decide)), if_neg (messageKey_ne (by decide)),
          if_neg (messageKey_ne (by decide)), if_neg (messageKey_ne (by decide)), if_pos rfl]
        rfl
      · rw [if_neg hk, if_neg hk]
        rfl
  · rw [if_pos (by simp [hin]), if_pos (Or.inl fun hd => hin (hdirection.2 hd))]
    exact ⟨-1, fields, rfl, by simp, nofun⟩

/-- **The Go parser and the Lua filter are equivalent** on the records of ztunnel, for every decoder of
JSON that serves both. -/
theorem go_parser_matches_lua_filter (d : RuneDecoder) (decode : Bytes → Except String Json)
    {timestamp stream tag body : Bytes} (hline : CriHeader timestamp stream tag)
    (hbody : decode body = .ok (.object fields)) (h : Known fields proxy inbound) {T : Type} (time : T)
    (luaTag : Bytes) :
    (∃ event code out, parse d decode (criLine timestamp stream tag body) = .ok event ∧
      toOtel luaTag time fields = .ok (code, time, out) ∧ (event.isSome = true ↔ code = 1) ∧
      ∀ e, event = some e → ∀ k, get out k = asLua ((eventAttributes e).lookup k)) ∧
    ∀ address, extractPort d address = (luaMatch address portPattern).getD [] := by
  refine ⟨?_, extractPort_eq_luaMatch d⟩
  rw [parse_criLine d hline hbody h.unmarshalRecord]
  have hmd := h.equalsText_message msgMonitorDeny (by decide)
  have hma := h.equalsText_message msgMonitorAllowMiss (by decide)
  have hvd := h.equalsText_message msgViolationDeny (by decide)
  have hva := h.equalsText_message msgViolationAllowMiss (by decide)
  have hl := h.equalsText_message msgLearn (by decide)
  simp only [toOtel, Bool.or_eq_true, hmd, hma, hvd, hva, hl, recordEvent]
  split
  · obtain ⟨out, hout, hattrs⟩ := h.toPolicyEvent time timestamp .monitor nofun
    exact ⟨_, 1, out, rfl, hout, by simp, fun e he k => Option.some.inj he ▸ hattrs k⟩
  split
  · obtain ⟨out, hout, hattrs⟩ := h.toPolicyEvent time timestamp .protect nofun
    exact ⟨_, 1, out, rfl, hout, by simp, fun e he k => Option.some.inj he ▸ hattrs k⟩
  split
  · obtain ⟨code, out, hout, hcode, hattrs⟩ := h.toLearnEvent d time timestamp
    exact ⟨_, code, out, rfl, congrArg Except.ok hout, hcode, hattrs⟩
  · exact ⟨none, -1, fields, rfl, rfl, by simp, nofun⟩

end Agreement

/-! ## A record read from its text -/

section Reader

/-- A text of JSON without escapes, up to its closing quote. -/
def readText : Bytes → Option (Bytes × Bytes)
  | [] => none
  | b :: rest => if b = 34 then cut 34 rest else none

def readValue (text : Bytes) : Option (Json × Bytes) :=
  if (ascii "null").isPrefixOf text then some (.null, text.drop 4)
  else (readText text).map fun (s, rest) => (.string s, rest)

/-- One field and its colon. -/
def readField (text : Bytes) : Option ((Bytes × Json) × Bytes) := do
  let (name, rest) ← readText text
  let (value, rest) ← if rest.head? = some 58 then readValue rest.tail else none
  return ((name, value), rest)

/-- The fields up to the closing brace; none of them is longer than the text. -/
def readFields : Nat → Bytes → Option Fields
  | 0, _ => none
  | n + 1, text => do
    let (field, rest) ← readField text
    if rest = [125] then return [field]
    else if rest.head? = some 44 then return field :: (← readFields n rest.tail)
    else none

/-- A decoder of the flat objects of JSON whose values are nulls and texts without escapes. -/
def readFlat (text : Bytes) : Except String Json :=
  if text.head? = some 123 then
    match readFields text.length text.tail with
    | some fields => .ok (.object fields)
    | none => .error "invalid character"
  else .error "invalid character looking for beginning of value"

end Reader

/-- A completed connection, with a null namespace and no name. -/
def sampleFields : Fields :=
  [(messageKey, .string msgLearn), (directionKey, .string directionInbound),
    (srcIdentityKey, .string (ascii "client")), (dstIdentityKey, .string (ascii "server")),
    (dstNamespaceKey, .null), (dstHboneAddrKey, .string (ascii "10.0.0.1:8080"))]

/-- The same record as ztunnel writes it. -/
def sampleBody : Bytes :=
  ascii "\x7b\"message\":\"connection complete\"," ++ ascii "\"direction\":\"inbound\"," ++
    ascii "\"src.identity\":\"client\"," ++ ascii "\"dst.identity\":\"server\"," ++
    ascii "\"dst.namespace\":null," ++ ascii "\"dst.hbone_addr\":\"10.0.0.1:8080\"\x7d"

set_option maxRecDepth 4000 in
lemma readFlat_sampleBody : readFlat sampleBody = .ok (.object sampleFields) := by rfl

/-- Every byte outside ASCII is an invalid rune. -/
def asciiDecoder : RuneDecoder where
  decode _ _ := (0xfffd, 1)
  decode_ge _ _ := by decide

theorem go_parser_matches_lua_filter_sample :
    ∃ event code out, parse asciiDecoder readFlat
        (criLine (ascii "2026-01-01T00:00:00Z") streamStdout (ascii "F") sampleBody) = .ok event ∧
      toOtel [] () sampleFields = .ok (code, (), out) ∧ (event.isSome = true ↔ code = 1) ∧
      ∀ e, event = some e → ∀ k, get out k = asLua ((eventAttributes e).lookup k) := by
  have hline : CriHeader (ascii "2026-01-01T00:00:00Z") streamStdout (ascii "F") :=
    ⟨by decide, by decide, Or.inl rfl, by decide⟩
  have hknown : Known sampleFields [] [] :=
    { texts := by
        intro key hk
        simp only [textKeys, List.mem_cons, List.not_mem_nil, or_false] at hk
        rcases hk with rfl | rfl | rfl | rfl | rfl | rfl | rfl | rfl
        · exact Or.inr (Or.inr ⟨_, rfl⟩)
        · exact Or.inr (Or.inr ⟨_, rfl⟩)
        · exact Or.inr (Or.inr ⟨_, rfl⟩)
        · exact Or.inr (Or.inr ⟨_, rfl⟩)
        · exact Or.inl rfl
        · exact Or.inr (Or.inl rfl)
        · exact Or.inr (Or.inr ⟨_, rfl⟩)
        · exact Or.inl rfl
      nestedProxy := Or.inl ⟨rfl, rfl⟩
      wl := Or.inl rfl
      nestedInbound := Or.inl ⟨rfl, rfl⟩
      peer := Or.inl rfl }
  exact (go_parser_matches_lua_filter asciiDecoder readFlat hline readFlat_sampleBody hknown () []).1

end NetworkEnforcer.Ztunnel
