import AdbControl.Companion.CommandArgs
import AdbControl.Framework.JsonAlike

namespace AdbControl.Companion

open Framework

/-- The names of the constants of the two enumerations in Kotlin -/
def QuicChannel.kotlinName : QuicChannel → String
  | control => "CONTROL"
  | data => "DATA"
  | media => "MEDIA"

def QuicMessageKind.kotlinName : QuicMessageKind → String
  | hello => "HELLO"
  | helloAck => "HELLO_ACK"
  | heartbeat => "HEARTBEAT"
  | capabilityList => "CAPABILITY_LIST"
  | permissionState => "PERMISSION_STATE"
  | commandRequest => "COMMAND_REQUEST"
  | commandResponse => "COMMAND_RESPONSE"
  | streamOpen => "STREAM_OPEN"
  | streamChunk => "STREAM_CHUNK"
  | streamClose => "STREAM_CLOSE"
  | error => "ERROR"

def QuicChannel.entries : List QuicChannel := [.control, .data, .media]

def QuicMessageKind.entries : List QuicMessageKind :=
  [.hello, .helloAck, .heartbeat, .capabilityList, .permissionState, .commandRequest,
    .commandResponse, .streamOpen, .streamChunk, .streamClose, .error]

/-- An envelope on the phone -/
structure PhoneEnvelope where
  protocol : String := companionProtocol
  version : Int := 1
  messageId : String
  traceId : Option String := none
  deviceId : Option String := none
  channel : QuicChannel
  kind : QuicMessageKind
  payload : Args := []

namespace QuicJsonCodec

def substringBefore (text : List Char) (delimiter : Char) : List Char :=
  text.takeWhile (fun c => c != delimiter)

def substringAfter (text : List Char) (delimiter : Char) : List Char :=
  (text.dropWhile (fun c => c != delimiter)).drop 1

def channelWireName (channel : QuicChannel) : String :=
  String.ofList (channel.kotlinName.toList.map Char.toLower)

def kindWireName (kind : QuicMessageKind) : String :=
  let name := kind.kotlinName.toList
  let lower := name.map Char.toLower
  String.ofList (substringBefore lower '_' ++ match substringAfter lower '_' with
    | [] => []
    | first :: rest => (if '_' ∈ name then first.toUpper else first) :: rest)

theorem channelWireName_eq (channel : QuicChannel) : channelWireName channel = channel.wireName := by
  cases channel <;> decide

theorem kindWireName_eq (kind : QuicMessageKind) : kindWireName kind = kind.name := by
  cases kind <;> decide

variable (texts : NumberTexts) (toInteger : String → Option Int)

mutual

/-- `toJsonValue`; what is no map, list or scalar is written as its text. -/
def toJsonValue : Arg → Value
  | .null => .null
  | .bool b => .bool b
  | .number n => .number n
  | .string s => .string s
  | .map entries => .object (toJsonMembers entries)
  | .list items => .array (toJsonItems items)
  | .jsonObject members => .string (String.ofList (jsonText texts (.object members)))
  | .jsonArray items => .string (String.ofList (jsonText texts (.array items)))

def toJsonItems : List Arg → List Value
  | [] => []
  | item :: items => toJsonValue item :: toJsonItems items

def toJsonMembers : Args → List (String × Value)
  | [] => []
  | (key, value) :: entries => (key, toJsonValue value) :: toJsonMembers entries

end

def encodeEnvelope (envelope : PhoneEnvelope) : Value :=
  .object ([("protocol", .string envelope.protocol),
      ("version", .number (if envelope.version < 0 then .negInt envelope.version
        else .posInt envelope.version.toNat)),
      ("messageId", .string envelope.messageId)] ++
    envelope.traceId.toList.map (fun id => ("traceId", .string id)) ++
    envelope.deviceId.toList.map (fun id => ("deviceId", .string id)) ++
    [("channel", .string (channelWireName envelope.channel)),
      ("kind", .string (kindWireName envelope.kind)),
      ("payload", toJsonValue texts (.map envelope.payload))])

/-- `getString`, which throws where the member is missing -/
def getString (members : List (String × Value)) (name : String) : Option String :=
  (members.lookup name).map (Args.optString texts)

/-- `getInt`; `toInteger` reads the text of a number. -/
def getInt (members : List (String × Value)) (name : String) : Option Int :=
  match members.lookup name with
  | some (.number n) => some (texts.toInt n)
  | some (.string s) => toInteger s
  | _ => none

/-- None where `getString` throws -/
def optNullableString (members : List (String × Value)) (name : String) : Option (Option String) :=
  match members.lookup name with
  | none | some .null => some none
  | some value => some (some (Args.optString texts value))

def optJSONObject (members : List (String × Value)) (name : String) : List (String × Value) :=
  match members.lookup name with
  | some (.object members) => members
  | _ => []

def decodeEnvelope : Value → Option PhoneEnvelope
  | .object value => do
    let protocol ← getString texts value "protocol"
    let version ← getInt texts toInteger value "version"
    let messageId ← getString texts value "messageId"
    let traceId ← optNullableString texts value "traceId"
    let deviceId ← optNullableString texts value "deviceId"
    let channelName ← getString texts value "channel"
    let channel ← QuicChannel.entries.find? (fun channel => channelWireName channel = channelName)
    let kindName ← getString texts value "kind"
    let kind ← QuicMessageKind.entries.find? (fun kind => kindWireName kind = kindName)
    pure ⟨protocol, version, messageId, traceId, deviceId, channel, kind,
      jsonObjectToMap (optJSONObject value "payload")⟩
  | _ => none

end QuicJsonCodec

/-- A constant of an enumeration: its name, or an object with the name as its only key. -/
def asVariant {α : Type} (variants : List α) (name : α → String) : Value → Option α
  | .string s => variants.find? (fun v => name v = s)
  | .object [(key, .null)] => variants.find? (fun v => name v = key)
  | _ => none

def asOptionalString : Option Value → Option (Option String)
  | none | some .null => some none
  | some (.string s) => some (some s)
  | _ => none

/-- The fields that the derived `Deserialize` of `QuicEnvelope` sees, in their order -/
def QuicEnvelope.fieldNames : List String :=
  ["protocol", "version", "messageId", "traceId", "deviceId", "channel", "kind", "payload"]

def QuicEnvelope.ofJson (v : Value) : Option QuicEnvelope := do
  let [protocol, version, messageId, traceId, deviceId, channel, kind, payload] ←
    v.structFields QuicEnvelope.fieldNames | none
  let protocol ← protocol.bind Value.asStr
  let version ← version.bind (Value.asUnsigned 16)
  let messageId ← messageId.bind Value.asStr
  let traceId ← asOptionalString traceId
  let deviceId ← asOptionalString deviceId
  let channel ← channel.bind (asVariant QuicChannel.entries QuicChannel.wireName)
  let kind ← kind.bind (asVariant QuicMessageKind.entries QuicMessageKind.name)
  some ⟨protocol, UInt16.ofNat version, messageId, traceId, deviceId, channel, kind,
    payload.getD .null⟩

section Payload

open QuicJsonCodec

variable (texts : NumberTexts)

mutual

/-- What is decoded is encoded as it was. -/
theorem toJsonValue_fromJsonValue : ∀ v, toJsonValue texts (fromJsonValue v) = v
  | .null => rfl
  | .bool _ => rfl
  | .number _ => rfl
  | .string _ => rfl
  | .array items => congrArg Value.array (toJsonItems_fromJsonItems items)
  | .object members => congrArg Value.object (toJsonMembers_jsonObjectToMap members)

theorem toJsonItems_fromJsonItems : ∀ items, toJsonItems texts (fromJsonItems items) = items
  | [] => rfl
  | item :: items =>
    congrArg₂ List.cons (toJsonValue_fromJsonValue item) (toJsonItems_fromJsonItems items)

theorem toJsonMembers_jsonObjectToMap : ∀ members,
    toJsonMembers texts (jsonObjectToMap members) = members
  | [] => rfl
  | (key, value) :: members =>
    congrArg₂ List.cons (congrArg (Prod.mk key) (toJsonValue_fromJsonValue value))
      (toJsonMembers_jsonObjectToMap members)

end

end Payload

section Members

/-- The value of a number, where `decimal` is the one of a decimal -/
def Number.value (decimal : String → ℚ) : Number → ℚ
  | .posInt n => n
  | .negInt n => n
  | .float text => decimal text

/-- A codec carries an integer as it is, and a decimal by its value. -/
def Carried (decimal : String → ℚ) : Number → Number → Prop
  | .float text, m => decimal text = Number.value decimal m
  | n, m => m = n

/-- The members of an object are those of an envelope, with this payload. -/
structure IsEnvelope (members : List (String × Value)) (envelope : QuicEnvelope) (payload : Value) :
    Prop where
  protocol : members.lookup "protocol" = some (.string envelope.protocol)
  version : members.lookup "version" = some (.number (.posInt envelope.version.toNat))
  messageId : members.lookup "messageId" = some (.string envelope.messageId)
  traceId : members.lookup "traceId" = envelope.traceId.map Value.string
  deviceId : members.lookup "deviceId" = envelope.deviceId.map Value.string
  channel : members.lookup "channel" = some (.string envelope.channel.wireName)
  kind : members.lookup "kind" = some (.string envelope.kind.name)
  payload : members.lookup "payload" = some payload

theorem toJson_isEnvelope (envelope : QuicEnvelope) :
    ∃ members, envelope.toJson = .object members ∧ IsEnvelope members envelope envelope.payload ∧
      (members.map Prod.fst).Nodup := by
  refine ⟨_, rfl, ?_, ?_⟩
  · obtain ⟨protocol, version, messageId, traceId, deviceId, channel, kind, payload⟩ := envelope
    cases traceId <;> cases deviceId <;> exact ⟨rfl, rfl, rfl, rfl, rfl, rfl, rfl, rfl⟩
  · obtain ⟨protocol, version, messageId, traceId, deviceId, channel, kind, payload⟩ := envelope
    cases traceId <;> cases deviceId <;> simp

variable {decimal : String → ℚ} {members members' : List (String × Value)} {envelope : QuicEnvelope}
  {payload : Value} {texts : NumberTexts} {toInteger : String → Option Int}

theorem Carried.refl (n : Number) : Carried decimal n n := by
  cases n <;> exact rfl

theorem Carried.trans (n m k : Number) (h : Carried decimal n m) (h' : Carried decimal m k) :
    Carried decimal n k := by
  cases n with
  | posInt n =>
    obtain rfl : m = .posInt n := h
    exact h'
  | negInt n =>
    obtain rfl : m = .negInt n := h
    exact h'
  | float text =>
    have hvalue : decimal text = Number.value decimal m := h
    cases m with
    | posInt m =>
      obtain rfl : k = .posInt m := h'
      exact hvalue
    | negInt m =>
      obtain rfl : k = .negInt m := h'
      exact hvalue
    | float text' => exact hvalue.trans h'

theorem Carried.value (n m : Number) (h : Carried decimal n m) :
    Number.value decimal n = Number.value decimal m := by
  cases n with
  | posInt n =>
    obtain rfl : m = .posInt n := h
    rfl
  | negInt n =>
    obtain rfl : m = .negInt n := h
    rfl
  | float text => exact h

/-- A codec carries all members of an envelope. -/
theorem IsEnvelope.alike (h : IsEnvelope members envelope payload)
    (halike : Alike (Carried decimal) (.object members) (.object members')) :
    ∃ payload', IsEnvelope members' envelope payload' ∧ Alike (Carried decimal) payload payload' := by
  have string {key s : String} (hlookup : members.lookup key = some (.string s)) :
      members'.lookup key = some (.string s) := by
    obtain ⟨v', hv', hsame⟩ := halike.lookup hlookup
    rw [hv', hsame.eq_string]
  have optional {key : String} {s : Option String} (hlookup : members.lookup key = s.map Value.string) :
      members'.lookup key = s.map Value.string := by
    cases s with
    | none => exact halike.lookup_none hlookup
    | some s => exact string hlookup
  obtain ⟨payload', hpayload, hsame⟩ := halike.lookup h.payload
  refine ⟨payload', ⟨string h.protocol, ?_, string h.messageId, optional h.traceId,
    optional h.deviceId, string h.channel, string h.kind, hpayload⟩, hsame⟩
  obtain ⟨v', hv', hversion⟩ := halike.lookup h.version
  obtain ⟨m, rfl, hm⟩ := hversion.exists_number
  rw [hv', show m = .posInt envelope.version.toNat from hm]

/-- What Core makes of an envelope's members -/
theorem IsEnvelope.ofJson (h : IsEnvelope members envelope payload) (once : (members.map Prod.fst).Nodup) :
    QuicEnvelope.ofJson (.object members) = some { envelope with payload := payload } := by
  obtain ⟨protocol, version, messageId, traceId, deviceId, channel, kind, _⟩ := envelope
  have hchannel : asVariant QuicChannel.entries QuicChannel.wireName (.string channel.wireName) =
      some channel := by cases channel <;> rfl
  have hkind : asVariant QuicMessageKind.entries QuicMessageKind.name (.string kind.name) =
      some kind := by cases kind <;> rfl
  have hoptional (s : Option String) : asOptionalString (s.map Value.string) = some s := by
    cases s <;> rfl
  have hversion : Value.asUnsigned 16 (.number (.posInt version.toNat)) = some version.toNat :=
    if_pos version.toNat_lt
  rw [QuicEnvelope.ofJson, Value.structFields_of_nodup once]
  simp only [QuicEnvelope.fieldNames, List.map_cons, List.map_nil, Option.bind_eq_bind, Option.bind_some,
    h.protocol, h.version, h.messageId, h.traceId, h.deviceId, h.channel, h.kind, h.payload, Value.asStr,
    hchannel, hkind, hoptional, hversion, UInt16.ofNat_toNat, Option.getD_some]

open QuicJsonCodec in
/-- What the phone makes of an envelope's members -/
theorem IsEnvelope.decodeEnvelope {payloadMembers : List (String × Value)}
    (h : IsEnvelope members envelope (.object payloadMembers))
    (htoInt : ∀ n < 2^16, texts.toInt (.posInt n) = n) :
    decodeEnvelope texts toInteger (.object members) =
      some ⟨envelope.protocol, envelope.version.toNat, envelope.messageId, envelope.traceId,
        envelope.deviceId, envelope.channel, envelope.kind, jsonObjectToMap payloadMembers⟩ := by
  obtain ⟨protocol, version, messageId, traceId, deviceId, channel, kind, _⟩ := envelope
  have text (s : String) : Args.optString texts (.string s) = s := by
    rw [Args.optString, parseArg, Arg.text, String.ofList_toList]
  have string {name s : String} (hlookup : members.lookup name = some (.string s)) :
      getString texts members name = some s := by
    rw [getString, hlookup, Option.map_some, text]
  have optional {name : String} {s : Option String} (hlookup : members.lookup name = s.map Value.string) :
      optNullableString texts members name = some s := by
    cases s with
    | none => rw [optNullableString, hlookup, Option.map_none]
    | some s =>
      rw [optNullableString, hlookup]
      exact congrArg (fun s => some (some s)) (text s)
  have hchannel : QuicChannel.entries.find? (fun c => channelWireName c = channel.wireName) = some channel := by
    simp only [channelWireName_eq]
    cases channel <;> rfl
  have hkind : QuicMessageKind.entries.find? (fun k => kindWireName k = kind.name) = some kind := by
    simp only [kindWireName_eq]
    cases kind <;> rfl
  have hversion : getInt texts toInteger members "version" = some (version.toNat : Int) := by
    rw [getInt, h.version, ← htoInt version.toNat version.toNat_lt]
  have hpayload : optJSONObject members "payload" = payloadMembers := by
    rw [optJSONObject, h.payload]
  rw [QuicJsonCodec.decodeEnvelope]
  simp only [string h.protocol, hversion, string h.messageId, optional h.traceId, optional h.deviceId,
    string h.channel, hchannel, string h.kind, hkind, hpayload, Option.bind_eq_bind, Option.bind_some]
  rfl

open QuicJsonCodec in
theorem encodeEnvelope_eq_toJson (phone : PhoneEnvelope) (hversion : 0 ≤ phone.version)
    (hbound : phone.version < 2^16) :
    encodeEnvelope texts phone = QuicEnvelope.toJson ⟨phone.protocol, UInt16.ofNat phone.version.toNat,
      phone.messageId, phone.traceId, phone.deviceId, phone.channel, phone.kind,
      .object (toJsonMembers texts phone.payload)⟩ := by
  have hnat : (UInt16.ofNat phone.version.toNat).toNat = phone.version.toNat :=
    UInt16.toNat_ofNat_of_lt (by simp only [UInt16.size]; omega)
  rw [encodeEnvelope, QuicEnvelope.toJson, hnat, if_neg (Int.not_lt.mpr hversion), channelWireName_eq,
    kindWireName_eq, toJsonValue]

end Members

end AdbControl.Companion
