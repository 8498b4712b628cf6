import AdbControl.Companion.EnvelopeCodec
import AdbControl.Framework.JsonText

namespace AdbControl.Companion

open Framework

/-- `serde_json` in Core and `org.json` on the phone: each reads what the other wrote as the same value.
The numbers that both carry are the integers of 64 bits, which the phone has with a sign only, and the
decimals, of which `decimal` is the value. -/
structure JsonCodecs where
  serdeToString : Value → String
  serdeFromStr : String → Option Value
  orgToString : Value → String
  orgParse : String → Option Value
  texts : NumberTexts
  toInteger : String → Option Int
  decimal : String → ℚ
  carried : Number → Prop
  carried_posInt : ∀ n < 2^63, carried (.posInt n)
  carried_negInt : ∀ n, -2^63 ≤ n → n < 0 → carried (.negInt n)
  carried_float : ∀ text : String, text.toList.all isNumeral = true → text.toList.any isFraction = true →
    carried (.float text)
  toInt_posInt : ∀ n < 2^31, texts.toInt (.posInt n) = n
  org_reads : ∀ v, v.Good carried → ∃ v', orgParse (serdeToString v) = some v' ∧ v'.Good carried ∧
    Alike (Carried decimal) v v'
  serde_reads : ∀ v, v.Good carried → ∃ v', serdeFromStr (orgToString v) = some v' ∧ v'.Good carried ∧
    Alike (Carried decimal) v v'

namespace JsonCodecs

variable (codecs : JsonCodecs)

def serialize (envelope : QuicEnvelope) : String := codecs.serdeToString envelope.toJson

def deserialize (json : String) : Option QuicEnvelope :=
  (codecs.serdeFromStr json).bind QuicEnvelope.ofJson

def encodeEnvelope (envelope : PhoneEnvelope) : String :=
  codecs.orgToString (QuicJsonCodec.encodeEnvelope codecs.texts envelope)

def decodeEnvelope (json : String) : Option PhoneEnvelope :=
  (codecs.orgParse json).bind (QuicJsonCodec.decodeEnvelope codecs.texts codecs.toInteger)

variable {codecs}

theorem toJson_good {envelope : QuicEnvelope} (h : envelope.payload.Good codecs.carried) :
    envelope.toJson.Good codecs.carried := by
  obtain ⟨members, hmembers, -, once⟩ := toJson_isEnvelope envelope
  have hversion := codecs.carried_posInt envelope.version.toNat (by
    have := envelope.version.toNat_lt
    omega)
  rw [QuicEnvelope.toJson, Value.object.injEq] at hmembers
  subst hmembers
  refine ⟨once, ?_⟩
  rw [goodMembers_iff]
  intro member hmember
  simp only [List.mem_append, List.mem_cons, List.mem_map, Option.mem_toList, List.not_mem_nil,
    or_false] at hmember
  rcases hmember with (((rfl | rfl | rfl) | ⟨id, -, rfl⟩) | ⟨id, -, rfl⟩) | rfl | rfl | rfl
  · trivial
  · exact hversion
  · trivial
  · trivial
  · trivial
  · trivial
  · trivial
  · exact h

/-- Core reads what the phone writes of an envelope: all fields as they are, and the payload by the
value of its numbers. -/
theorem deserialize_toJson {envelope : QuicEnvelope} (h : envelope.payload.Good codecs.carried) :
    ∃ payload, codecs.deserialize (codecs.orgToString envelope.toJson) =
        some { envelope with payload := payload } ∧
      Alike (Carried codecs.decimal) envelope.payload payload := by
  obtain ⟨members, htoJson, hmembers, -⟩ := toJson_isEnvelope envelope
  obtain ⟨v', hread, hgood, halike⟩ := codecs.serde_reads envelope.toJson (toJson_good h)
  rw [htoJson] at halike
  obtain ⟨members', rfl⟩ := halike.exists_object
  obtain ⟨payload, hmembers', hsame⟩ := hmembers.alike halike
  exact ⟨payload, by rw [deserialize, hread, Option.bind_some, hmembers'.ofJson hgood.1], hsame⟩

/-- The phone reads what Core writes of an envelope, and writes what is the envelope again but for its
payload. -/
theorem decodeEnvelope_serialize {envelope : QuicEnvelope} {payloadMembers : List (String × Value)}
    (hobject : envelope.payload = .object payloadMembers) (h : envelope.payload.Good codecs.carried) :
    ∃ phone payload, codecs.decodeEnvelope (codecs.serialize envelope) = some phone ∧
      QuicJsonCodec.encodeEnvelope codecs.texts phone =
        QuicEnvelope.toJson { envelope with payload := payload } ∧
      payload.Good codecs.carried ∧ Alike (Carried codecs.decimal) envelope.payload payload := by
  obtain ⟨members, htoJson, hmembers, -⟩ := toJson_isEnvelope envelope
  obtain ⟨v', hread, hgood, halike⟩ := codecs.org_reads envelope.toJson (toJson_good h)
  rw [htoJson] at halike
  obtain ⟨members', rfl⟩ := halike.exists_object
  obtain ⟨payload, hmembers', hsame⟩ := hmembers.alike halike
  have hpayload := goodMembers_iff.mp hgood.2 _ (mem_of_lookup hmembers'.payload)
  obtain ⟨payloadMembers', rfl⟩ := (hobject ▸ hsame).exists_object
  have htoInt (n : Nat) (hn : n < 2^16) : codecs.texts.toInt (.posInt n) = n :=
    codecs.toInt_posInt n (by omega)
  refine ⟨_, _, by rw [decodeEnvelope, serialize, hread, Option.bind_some,
    hmembers'.decodeEnvelope htoInt], ?_, hpayload, hsame⟩
  have hlt := envelope.version.toNat_lt
  rw [encodeEnvelope_eq_toJson _ (Int.natCast_nonneg _) (by simp only []; omega), toJsonMembers_jsonObjectToMap,
    Int.toNat_natCast, UInt16.ofNat_toNat]

/-- The value of a decimal without sign and exponent -/
def pointValue (text : String) : ℚ :=
  Nat.ofDigitChars 10 (text.toList.filter Char.isDigit) 0 /
    10^((text.toList.dropWhile (fun c => c != '.')).length - 1)

/-- Both sides with one text of a value, without blanks -/
def plainCodecs : JsonCodecs where
  serdeToString v := String.ofList v.compact
  serdeFromStr json := readJson json.toList
  orgToString v := String.ofList v.compact
  orgParse json := readJson json.toList
  texts := plainNumbers
  toInteger := String.toInt?
  decimal := pointValue
  carried := Number.IsWritten
  carried_posInt _ _ := trivial
  carried_negInt _ _ h := h
  carried_float _ hnumeral hfraction := ⟨hnumeral, hfraction⟩
  toInt_posInt n h := by
    simp only [plainNumbers]
    exact Int.bmod_eq_of_le (by omega) (by omega)
  org_reads v h := ⟨v, by rw [String.toList_ofList, readJson_compact h], h, Alike.refl Carried.refl v⟩
  serde_reads v h := ⟨v, by rw [String.toList_ofList, readJson_compact h], h, Alike.refl Carried.refl v⟩

/-- An envelope of Core comes back from the phone as it was, with the numbers of its payload by their
value, and Core reads every envelope of the phone. -/
theorem envelope_round_trip (codecs : JsonCodecs) :
    (∀ (envelope : QuicEnvelope) (members : List (String × Value)), envelope.payload = .object members →
      envelope.payload.Good codecs.carried → ∃ phone payload,
        codecs.decodeEnvelope (codecs.serialize envelope) = some phone ∧
        codecs.deserialize (codecs.encodeEnvelope phone) = some { envelope with payload := payload } ∧
        Alike (fun n m => Number.value codecs.decimal n = Number.value codecs.decimal m) envelope.payload payload) ∧
    ∀ phone : PhoneEnvelope, 0 ≤ phone.version → phone.version < 2^16 →
      (QuicJsonCodec.toJsonValue codecs.texts (.map phone.payload)).Good codecs.carried →
        ∃ envelope, codecs.deserialize (codecs.encodeEnvelope phone) = some envelope ∧
          envelope.channel = phone.channel ∧ envelope.kind = phone.kind := by
  constructor
  · intro envelope members hobject h
    obtain ⟨phone, payload, hphone, hencode, hgood, hsame⟩ := decodeEnvelope_serialize hobject h
    obtain ⟨payload', hread, hsame'⟩ := @deserialize_toJson codecs { envelope with payload := payload } hgood
    refine ⟨phone, payload', hphone, ?_, ?_⟩
    · rw [encodeEnvelope, hencode, hread]
    · exact (hsame.trans Carried.trans hsame').mono Carried.value
  · intro phone hversion hbound h
    rw [QuicJsonCodec.toJsonValue] at h
    obtain ⟨payload, hread, -⟩ := @deserialize_toJson codecs ⟨phone.protocol,
      UInt16.ofNat phone.version.toNat, phone.messageId, phone.traceId, phone.deviceId, phone.channel,
      phone.kind, .object (QuicJsonCodec.toJsonMembers codecs.texts phone.payload)⟩ h
    rw [← encodeEnvelope_eq_toJson phone hversion hbound] at hread
    exact ⟨_, hread, rfl, rfl⟩

/-- A request with nested arguments, and the answer of the phone -/
theorem envelope_round_trip_request :
    let args : List (String × Value) :=
      [("args", .object [("volume", .number (.negInt (-3))), ("extra", .null),
        ("levels", .array [.number (.posInt (2^40)), .number (.float "0.5"), .bool true])])]
    let request : QuicEnvelope := ⟨companionProtocol, 1, "request-1", none, some "phone-1", .control,
      .commandRequest, .object args⟩
    let answer : PhoneEnvelope := ⟨companionProtocol, 1, "response-1", none, none, .control,
      .commandResponse, [("ok", .bool true), ("value", .null)]⟩
    (∃ phone payload, plainCodecs.decodeEnvelope (plainCodecs.serialize request) = some phone ∧
      plainCodecs.deserialize (plainCodecs.encodeEnvelope phone) =
        some { request with payload := payload } ∧
      Alike (fun n m => Number.value pointValue n = Number.value pointValue m) request.payload payload) ∧
    ∃ envelope, plainCodecs.deserialize (plainCodecs.encodeEnvelope answer) = some envelope ∧
      envelope.channel = .control ∧ envelope.kind = .commandResponse := by
  intro args request answer
  have hargs : request.payload.Good Number.IsWritten := by
    refine ⟨by decide, ⟨⟨by decide, ?_, trivial, ⟨trivial, ⟨by decide, by decide⟩, trivial, trivial⟩, trivial⟩,
      trivial⟩⟩
    exact (by decide : (-3 : Int) < 0)
  have hanswer : (QuicJsonCodec.toJsonValue plainNumbers (.map answer.payload)).Good Number.IsWritten :=
    ⟨by decide, trivial, trivial, trivial⟩
  exact ⟨(envelope_round_trip plainCodecs).1 request args rfl hargs,
    (envelope_round_trip plainCodecs).2 answer (by decide) (by decide) hanswer⟩

end JsonCodecs

end AdbControl.Companion
