import AdbControl.Companion.MediaSink

namespace AdbControl.Companion

open Framework

/-- The answer to a message that the gate refuses -/
def ingressErrorEnvelope (error : AppError) : QuicEnvelope :=
  { errorEnvelope none none none error with messageId := "trusted-ingress-error" }

namespace TrustedCompanionIngress

section

variable (codecs : JsonCodecs) (decodeBase64 : String → Option (List UInt8))
  (toLowercase : Char → List Char)

/-- With the envelope that is the answer -/
def handleJsonBytes (t : TrustedCompanionIngress) (json : String) :
    TrustedCompanionIngress × QuicEnvelope :=
  match codecs.deserialize json with
  | some envelope =>
    let handled := t.handleEnvelope decodeBase64 toLowercase envelope
    match handled.2 with
    | .ok response => (handled.1, response)
    | .error e => (handled.1, ingressErrorEnvelope e)
  | none =>
    (t, errorEnvelope none none none ⟨"COMPANION_INGRESS_INVALID_JSON",
      "Companion ingress received invalid JSON envelope.", "companion.ingress", false, none⟩)

end

variable (codecs : JsonCodecs) (base64 : Base64Codecs) (toLowercase : Char → List Char)

/-- The device of the sink is trusted for the certificate that it names. -/
def trusts (t : TrustedCompanionIngress) (sink : QuicMediaStreamSink) : Bool :=
  match sink.deviceId, sink.certificateFingerprintSha256 with
  | some deviceId, some fingerprint =>
    t.trustStore.isTrusted toLowercase deviceId fingerprint t.nowUnixMs
  | _, _ => false

def receive (t : TrustedCompanionIngress) (m : SinkMessage) : TrustedCompanionIngress :=
  (t.handleJsonBytes codecs base64.decode toLowercase (m.text codecs base64)).1

def answer (t : TrustedCompanionIngress) (m : SinkMessage) : QuicEnvelope :=
  (t.handleJsonBytes codecs base64.decode toLowercase (m.text codecs base64)).2

/-- What trusted phones handed over, with its session, in the order of arrival -/
def admitted (t : TrustedCompanionIngress) (messages : List SinkMessage) : List (String × List UInt8) :=
  (messages.filter fun m => t.trusts toLowercase m.sink).filterMap fun m => m.call.data?

variable {codecs base64 toLowercase} {t : TrustedCompanionIngress} {m : SinkMessage} {e : QuicEnvelope}

theorem enforceTrust_sink (h : m.ReadAs base64 e) :
    if t.trusts toLowercase m.sink then t.enforceTrust toLowercase e = .ok ()
    else ∃ error, t.enforceTrust toLowercase e = .error error := by
  have other : e.kind ≠ .hello := by
    rw [h.kind]
    cases m.call <;> simp [StreamCall.kind]
  obtain ⟨⟨deviceId, fingerprint⟩, uuid, call⟩ := m
  have hdevice : e.deviceId = deviceId := h.device
  have hfingerprint : fingerprintOf e = fingerprint := h.fingerprint
  rw [enforceTrust, if_neg other, hdevice, hfingerprint]
  cases deviceId with
  | none => exact ⟨_, rfl⟩
  | some deviceId =>
    cases fingerprint with
    | none => exact ⟨_, rfl⟩
    | some fingerprint =>
      simp only [trusts]
      split_ifs
      · rfl
      · exact ⟨_, rfl⟩

/-- A trusted message is taken: the store keeps what it carries. -/
theorem dispatchEnvelope_sink (h : m.ReadAs base64 e) :
    ∃ ingress response, t.dispatchEnvelope base64.decode e =
      ({ t with ingress := ingress, media := mediaStep base64.decode t.mediaStore t.media e },
        .ok response) ∧ response.kind = .commandResponse := by
  have dispatched : t.dispatchEnvelope base64.decode e = t.handleMediaEnvelope base64.decode e := by
    rw [dispatchEnvelope, h.valid]
    have hkind := h.kind
    cases hcall : m.call <;> simp [hkind, hcall, StreamCall.kind]
  have channel : ¬e.channel ≠ .media := not_not.mpr h.channel
  rw [dispatched, handleMediaEnvelope]
  simp only [CompanionIngress.handleMediaEnvelope, if_neg channel]
  have hchunk := h.chunk
  cases hdata : m.call.data? with
  | none =>
    have other : e.kind ≠ .streamChunk := by simp [h.kind, m.call.kind_eq_streamChunk, hdata]
    rw [hdata] at hchunk
    refine ⟨_, _, by rw [if_neg other, mediaStep, CompanionMediaStore.storeEnvelope, hchunk], rfl⟩
  | some data =>
    have kind : e.kind = .streamChunk := by simp [h.kind, m.call.kind_eq_streamChunk, hdata]
    rw [hdata] at hchunk
    simp only [if_pos kind, mediaStep, CompanionMediaStore.storeEnvelope, hchunk]
    exact ⟨_, _, rfl, rfl⟩

/-- A message is kept and answered as a command is, or refused without any effect. -/
theorem receive_cases (h : m.Carried codecs) :
    (t.trusts toLowercase m.sink = true ∧ ∃ e ingress, m.ReadAs base64 e ∧
      t.receive codecs base64 toLowercase m =
        { t with ingress := ingress, media := mediaStep base64.decode t.mediaStore t.media e } ∧
      (t.answer codecs base64 toLowercase m).kind = .commandResponse) ∨
    (t.trusts toLowercase m.sink = false ∧ t.receive codecs base64 toLowercase m = t ∧
      (t.answer codecs base64 toLowercase m).kind = .error) := by
  obtain ⟨e, hread, he⟩ := @SinkMessage.deserialize_text codecs base64 m h
  have hgate := @enforceTrust_sink base64 toLowercase t m e he
  rw [receive, answer, handleJsonBytes, hread]
  simp only [handleEnvelope]
  split_ifs at hgate with htrusts
  · obtain ⟨ingress, response, hdispatch, hkind⟩ := @dispatchEnvelope_sink base64 t m e he
    refine Or.inl ⟨htrusts, e, ingress, he, ?_⟩
    simp only [hgate, hdispatch]
    exact ⟨trivial, hkind⟩
  · obtain ⟨error, herror⟩ := hgate
    refine Or.inr ⟨Bool.eq_false_iff.mpr htrusts, ?_⟩
    simp only [herror]
    exact ⟨trivial, rfl⟩

end TrustedCompanionIngress

/-- The media files are those of the data, accepted in this order. -/
def Keeps (store : CompanionMediaStore) (fs : MediaFs) (data : List (String × List UInt8)) : Prop :=
  ∃ h, fs.Holds store.rootDir h ∧ (Apart (h.map AcceptedChunk.sessionId) → Indexed h) ∧
    h.map (fun a => (a.sessionId, a.bytes)) = data

/-- What was handed over for one session, in order -/
def piecesOf (sessionId : String) (data : List (String × List UInt8)) : List (List UInt8) :=
  (data.filter fun d => d.1 = sessionId).map Prod.snd

/-- The directory of a session has one file for each of these pieces, numbered in their order, and
nothing else. -/
structure Filed (fs : MediaFs) (sessionId : String) (pieces : List (List UInt8)) : Prop where
  piece : ∀ i, (fs.files (safePathSegment sessionId))[chunkFileName i]? = pieces[i]?
  listed : ∀ name, name ∈ fs.entries (safePathSegment sessionId) ↔
    ∃ i < pieces.length, name = chunkFileName i

variable {store : CompanionMediaStore} {fs : MediaFs} {data : List (String × List UInt8)}
  {base64 : Base64Codecs} {m : SinkMessage} {e : QuicEnvelope}

theorem Keeps.read (h : Keeps store fs data) (he : m.ReadAs base64 e) :
    Keeps store (mediaStep base64.decode store fs e) (data ++ m.call.data?.toList) := by
  obtain ⟨h, holds, indexed, rfl⟩ := h
  have hchunk := he.chunk
  cases hdata : m.call.data? with
  | none =>
    rw [hdata] at hchunk
    rw [mediaStep, CompanionMediaStore.storeEnvelope, hchunk]
    exact ⟨h, holds, indexed, by simp⟩
  | some data =>
    obtain ⟨sessionId, bytes⟩ := data
    rw [hdata] at hchunk
    have hstep : mediaStep base64.decode store fs e =
        fs.write (nextChunk store fs sessionId bytes).dir (nextChunk store fs sessionId bytes).file
          bytes := by
      simp only [mediaStep, CompanionMediaStore.storeEnvelope, hchunk, MediaFs.write_createDirAll,
        nextChunkIndex_eq]
      rfl
    refine ⟨h ++ [nextChunk store fs sessionId bytes], hstep ▸ holds.store sessionId bytes, ?_, ?_⟩
    · rw [List.map_append]
      intro apart
      exact (indexed apart.of_append).store holds bytes apart
    · rw [List.map_append]
      rfl

/-- Among sessions that are apart, the pieces of each one are filed. -/
theorem Keeps.filed (h : Keeps store fs data) (apart : Apart (data.map Prod.fst)) {sessionId : String}
    (hsession : sessionId ∈ data.map Prod.fst) : Filed fs sessionId (piecesOf sessionId data) := by
  obtain ⟨h, holds, indexed, rfl⟩ := h
  have sessions : (h.map (fun a => (a.sessionId, a.bytes))).map Prod.fst = h.map AcceptedChunk.sessionId := by
    rw [List.map_map]
    rfl
  rw [sessions] at apart hsession
  have pieces : piecesOf sessionId (h.map (fun a => (a.sessionId, a.bytes))) =
      (chunksOf sessionId h).map AcceptedChunk.bytes := by
    rw [piecesOf, List.filter_map, List.map_map]
    rfl
  -- the chunk in each place has the number of its place
  have numbered {i : Nat} {a : AcceptedChunk} (ha : (chunksOf sessionId h)[i]? = some a) :
      a.file = chunkFileName i := by
    have hindex := congrArg (fun l => l[i]?) (indexed apart sessionId)
    simp only [List.getElem?_map, ha, Option.map_some,
      List.getElem?_range (List.getElem?_eq_some_iff.mp ha).1, Option.some.injEq] at hindex
    rw [AcceptedChunk.file, hindex]
  rw [pieces]
  refine ⟨?_, ?_⟩
  · intro i
    apply Option.ext
    intro bytes
    rw [holds.filed, List.getElem?_map, Option.map_eq_some_iff]
    constructor
    · intro hfiled
      obtain ⟨a, ha, hdir, hfile, hbytes⟩ := hfiled
      have hid : a.sessionId = sessionId := by
        by_contra hne
        exact (apart a.sessionId (List.mem_map_of_mem ha) sessionId hsession hne).1 hdir
      have hmem : a ∈ chunksOf sessionId h := List.mem_filter.mpr ⟨ha, decide_eq_true hid⟩
      obtain ⟨j, hj⟩ := List.mem_iff_getElem?.mp hmem
      have hji : j = i := chunkFileName_injective ((numbered hj).symm.trans hfile)
      exact ⟨a, hji ▸ hj, hbytes⟩
    · intro hpiece
      obtain ⟨a, ha, hbytes⟩ := hpiece
      obtain ⟨hmem, hid⟩ := List.mem_filter.mp (List.mem_of_getElem? ha)
      have hid : a.sessionId = sessionId := of_decide_eq_true hid
      exact ⟨a, hmem, congrArg safePathSegment hid, numbered ha, hbytes⟩
  · intro name
    obtain ⟨a, ha, rfl⟩ := List.mem_map.mp hsession
    have hlisted := holds.listed_of_apart apart ha name
    rw [AcceptedChunk.dir] at hlisted
    rw [AcceptedChunk.sessionId, hlisted, List.length_map]
    constructor
    · intro hname
      obtain ⟨b, hb, rfl⟩ := hname
      obtain ⟨i, hi⟩ := List.mem_iff_getElem?.mp hb
      exact ⟨i, (List.getElem?_eq_some_iff.mp hi).1, numbered hi⟩
    · intro hname
      obtain ⟨i, hi, rfl⟩ := hname
      have hget := List.getElem?_eq_getElem hi
      exact ⟨_, List.mem_of_getElem? hget, numbered hget⟩

namespace TrustedCompanionIngress

variable {codecs : JsonCodecs} {toLowercase : Char → List Char}

/-- From any state: every message is answered by the trust in its sink, and the store goes on with what
the trusted ones handed over. -/
theorem receive_run (t : TrustedCompanionIngress) {messages : List SinkMessage}
    (carried : ∀ m ∈ messages, m.Carried codecs) {data : List (String × List UInt8)}
    (h : Keeps t.mediaStore t.media data) :
    Keeps t.mediaStore (run (receive codecs base64 toLowercase) t messages).media
      (data ++ t.admitted toLowercase messages) ∧
    eventsOf (receive codecs base64 toLowercase)
      (fun t m => [(t.answer codecs base64 toLowercase m).kind]) t messages =
      messages.map fun m => if t.trusts toLowercase m.sink then .commandResponse else .error := by
  induction messages generalizing t data with
  | nil => exact ⟨by rwa [admitted, List.filter_nil, List.filterMap_nil, List.append_nil], rfl⟩
  | cons m messages ih =>
    obtain ⟨hm, hrest⟩ := List.forall_mem_cons.mp carried
    rw [run_cons, eventsOf_cons, List.map_cons, admitted, List.filter_cons]
    rcases @receive_cases codecs base64 toLowercase t m hm with
      ⟨htrusts, e, ingress, he, hstep, hanswer⟩ | ⟨htrusts, hstep, hanswer⟩
    · obtain ⟨hkeeps, hanswers⟩ := ih ⟨ingress, t.mediaStore, mediaStep base64.decode t.mediaStore t.media e,
        t.trustStore, t.nowUnixMs⟩ hrest (h.read he)
      rw [hstep, hanswer, if_pos htrusts, if_pos htrusts, List.filterMap_cons]
      refine ⟨?_, congrArg (List.cons _) hanswers⟩
      rw [List.append_assoc] at hkeeps
      cases hdata : m.call.data? with
      | none =>
        rw [hdata] at hkeeps
        exact hkeeps
      | some piece =>
        rw [hdata] at hkeeps
        exact hkeeps
    · obtain ⟨hkeeps, hanswers⟩ := ih t hrest h
      have refused : ¬t.trusts toLowercase m.sink = true := Bool.eq_false_iff.mp htrusts
      rw [hstep, hanswer, if_neg refused, if_neg refused]
      exact ⟨hkeeps, congrArg (List.cons _) hanswers⟩

end TrustedCompanionIngress

open TrustedCompanionIngress

/-- The messages of any sinks, in any interleaving: a message is answered as accepted exactly when its
device is trusted for the certificate that it names, and where the sessions of the accepted ones are
apart, the directory of each holds exactly what its encoder handed over, piece by piece in order. -/
theorem media_streams_delivered (codecs : JsonCodecs) (base64 : Base64Codecs)
    (toLowercase : Char → List Char) (trustStore : CompanionTrustStore) (mediaRoot : String)
    (nowUnixMs : UInt64) (messages : List SinkMessage) (carried : ∀ m ∈ messages, m.Carried codecs) :
    let t := new trustStore mediaRoot nowUnixMs
    let pieces := t.admitted toLowercase messages
    eventsOf (receive codecs base64 toLowercase)
        (fun t m => [(t.answer codecs base64 toLowercase m).kind]) t messages =
      messages.map (fun m => if t.trusts toLowercase m.sink then .commandResponse else .error) ∧
    (Apart (pieces.map Prod.fst) → ∀ sessionId ∈ pieces.map Prod.fst,
      Filed (run (receive codecs base64 toLowercase) t messages).media sessionId
        (piecesOf sessionId pieces)) := by
  intro t pieces
  have start : Keeps t.mediaStore t.media [] := ⟨[], MediaFs.holds_empty mediaRoot, fun _ _ => rfl, rfl⟩
  obtain ⟨keeps, answers⟩ := @receive_run base64 codecs toLowercase t messages carried [] start
  exact ⟨answers, fun apart sessionId hsession => keeps.filed apart hsession⟩

/-- The camera of the paired phone, and a message for its session from a phone that is not paired -/
def cameraMessages : List SinkMessage :=
  [⟨⟨some "phone", some lowerFingerprint⟩, "1", .onStreamStarted "front" "video/avc" []⟩,
    ⟨⟨some "phone", some lowerFingerprint⟩, "2", .onConfig "front" ⟨[0, 0, 0, 1, 103], by decide⟩ []⟩,
    ⟨⟨some "other", some lowerFingerprint⟩, "3", .onChunk "front" ⟨[1], by decide⟩ []⟩,
    ⟨⟨some "phone", some lowerFingerprint⟩, "4",
      .onChunk "front" ⟨[0, 0, 0, 1, 101], by decide⟩ [("isKeyFrame", .bool true)]⟩]

theorem media_streams_delivered_camera :
    let trustStore := run (TrustOp.step asciiLowercase) CompanionTrustStore.empty pairPhone
    let t := run (receive .plainCodecs .standard asciiLowercase) (new trustStore "media" 3000)
      cameraMessages
    Filed t.media "front" [[0, 0, 0, 1, 103], [0, 0, 0, 1, 101]] := by
  intro trustStore t
  have carried : ∀ m ∈ cameraMessages, m.Carried .plainCodecs := by
    simp only [cameraMessages, List.forall_mem_cons]
    exact ⟨⟨by decide, trivial⟩, ⟨by decide, trivial⟩, ⟨by decide, trivial⟩, ⟨by decide, trivial, trivial⟩,
      List.forall_mem_nil _⟩
  have paired : (new trustStore "media" 3000).trusts asciiLowercase
      ⟨some "phone", some lowerFingerprint⟩ = true := by decide
  have unpaired : (new trustStore "media" 3000).trusts asciiLowercase
      ⟨some "other", some lowerFingerprint⟩ = false := by decide
  have admitted_eq : (new trustStore "media" 3000).admitted asciiLowercase cameraMessages =
      [("front", [0, 0, 0, 1, 103]), ("front", [0, 0, 0, 1, 101])] := by
    simp only [admitted, cameraMessages, List.filter_cons, paired, unpaired, if_true, List.filter_nil,
      Bool.false_eq_true, if_false]
    rfl
  have delivered := (media_streams_delivered .plainCodecs .standard asciiLowercase trustStore "media" 3000
    cameraMessages carried).2
  simp only [admitted_eq] at delivered
  refine delivered ?_ "front" List.mem_cons_self
  intro a ha b hb hne
  simp only [List.map_cons, List.map_nil, List.mem_cons, List.not_mem_nil, or_false, or_self] at ha hb
  exact absurd (ha.trans hb.symm) hne

end AdbControl.Companion
