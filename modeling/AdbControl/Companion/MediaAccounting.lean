import AdbControl.Companion.Ingress
import AdbControl.Companion.MediaIntegrity

namespace AdbControl.Companion

open Framework

/-- Where the file system fails while a chunk is stored: reading the directory of the session or an
entry of it, making the directory, or writing the file, which then may hold the first bytes of the
chunk already. -/
inductive MediaFault
  | readDir
  | readEntry
  | createDir
  | write (written : Option Nat)
  deriving DecidableEq

namespace MediaFault

def error : MediaFault → AppError
  | readDir => ⟨"COMPANION_MEDIA_STORE_READ_FAILED",
      "Core failed to read media session directory.", "companion.media_store", true, none⟩
  | readEntry => ⟨"COMPANION_MEDIA_STORE_READ_FAILED",
      "Core failed to read media chunk entry.", "companion.media_store", true, none⟩
  | createDir => ⟨"COMPANION_MEDIA_STORE_DIR_CREATE_FAILED",
      "Core failed to create media session directory.", "companion.media_store", true, none⟩
  | write _ => ⟨"COMPANION_MEDIA_CHUNK_WRITE_FAILED",
      "Core failed to write media chunk.", "companion.media_store", true, none⟩

/-- The chunk comes to the point of the fault: only a directory that exists is read. -/
def Hits (fs : MediaFs) (sessionId : String) : MediaFault → Prop
  | readDir | readEntry => fs.exists? (safePathSegment sessionId) = true
  | createDir | write _ => True

instance (fs : MediaFs) (sessionId : String) : (fault : MediaFault) →
    Decidable (fault.Hits fs sessionId)
  | readDir | readEntry => inferInstanceAs (Decidable (_ = true))
  | createDir | write _ => instDecidableTrue

/-- What a fault leaves of a chunk. -/
def left (fs : MediaFs) (sessionId : String) (bytes : List UInt8) : MediaFault → MediaFs
  | readDir | readEntry | createDir => fs
  | write none => fs.createDirAll (safePathSegment sessionId)
  | write (some n) => (fs.createDirAll (safePathSegment sessionId)).write (safePathSegment sessionId)
      (chunkFileName (nextChunkIndex fs sessionId)) (bytes.take n)

end MediaFault

section

-- the standard base64 decoder
variable (decodeBase64 : String → Option (List UInt8))

/-- `store_envelope` on a file system that may fail. -/
def CompanionMediaStore.storeOrFail (store : CompanionMediaStore) (fs : MediaFs)
    (fault : Option MediaFault) (envelope : QuicEnvelope) :
    MediaFs × Except AppError (Option StoredMediaChunk) :=
  match mediaChunk decodeBase64 envelope, fault with
  | .ok (some (sessionId, bytes)), some fault =>
    if fault.Hits fs sessionId then (fault.left fs sessionId bytes, .error fault.error)
    else store.storeEnvelope decodeBase64 fs envelope
  | _, _ => store.storeEnvelope decodeBase64 fs envelope

/-- The ingress with its media store, if it has one, and the files under the store's root. -/
structure StoringIngress where
  ingress : CompanionIngress
  mediaStore : Option CompanionMediaStore
  files : MediaFs

/-- What the acknowledgement says of a chunk that is stored. -/
def StoredMediaChunk.toMembers (chunk : StoredMediaChunk) : List (String × Value) :=
  [("stored", .bool true), ("storedSessionId", .string chunk.sessionId),
    ("storedChunkIndex", .number (.posInt chunk.chunkIndex)),
    ("storedSizeBytes", .number (.posInt chunk.sizeBytes)), ("storedPath", .string chunk.path)]

namespace StoringIngress

def handleMediaEnvelope (i : StoringIngress) (fault : Option MediaFault) (envelope : QuicEnvelope) :
    StoringIngress × Except AppError QuicEnvelope :=
  if envelope.channel ≠ .media then
    (i, .error ⟨"COMPANION_MEDIA_CHANNEL_INVALID",
      "Media stream messages must use the media channel.", "companion.ingress", false, none⟩)
  else
    -- the chunk is counted before it is stored
    let count := if envelope.kind = .streamChunk then i.ingress.mediaChunkCount + 1
      else i.ingress.mediaChunkCount
    let stored := match envelope.kind, i.mediaStore with
      | .streamChunk, some store => store.storeOrFail decodeBase64 i.files fault envelope
      | _, _ => (i.files, .ok none)
    let i : StoringIngress := ⟨{ i.ingress with mediaChunkCount := count }, i.mediaStore, stored.1⟩
    (i, stored.2.map (fun chunk =>
      ackEnvelope envelope.traceId envelope.deviceId envelope.messageId (.object
        ([("accepted", .bool true), ("media", .bool true),
          ("receivedKind", .string envelope.kind.name),
          ("receivedChunkCount", .number (.posInt count))] ++
            (chunk.map StoredMediaChunk.toMembers).getD []))))

def dispatchEnvelope (i : StoringIngress) (fault : Option MediaFault) (envelope : QuicEnvelope) :
    StoringIngress × Except AppError QuicEnvelope :=
  match validateQuicEnvelope envelope with
  | .error e => (i, .error e)
  | .ok () =>
    match envelope.kind with
    | .streamOpen | .streamChunk | .streamClose => i.handleMediaEnvelope decodeBase64 fault envelope
    | _ =>
      let handled := i.ingress.dispatchEnvelope envelope
      ({ i with ingress := handled.1 }, handled.2)

def handleEnvelope (i : StoringIngress) (fault : Option MediaFault) (envelope : QuicEnvelope) :
    StoringIngress × QuicEnvelope :=
  let handled := i.dispatchEnvelope decodeBase64 fault envelope
  match handled.2 with
  | .ok response => (handled.1, response)
  | .error e =>
    (handled.1, errorEnvelope envelope.traceId envelope.deviceId (some envelope.messageId) e)

/-- Without a store this is the ingress of the live transport. -/
theorem handleEnvelope_storeless (i : CompanionIngress) (files : MediaFs)
    (fault : Option MediaFault) (envelope : QuicEnvelope) :
    handleEnvelope decodeBase64 ⟨i, none, files⟩ fault envelope =
      (⟨(i.handleEnvelope envelope).1, none, files⟩, (i.handleEnvelope envelope).2) := by
  have dispatched : dispatchEnvelope decodeBase64 ⟨i, none, files⟩ fault envelope =
      (⟨(i.dispatchEnvelope envelope).1, none, files⟩, (i.dispatchEnvelope envelope).2) := by
    unfold dispatchEnvelope
    cases hvalid : validateQuicEnvelope envelope with
    | error e => simp only [CompanionIngress.dispatchEnvelope, hvalid]
    | ok u =>
      cases hkind : envelope.kind with
      | streamOpen | streamChunk | streamClose =>
        simp only [CompanionIngress.dispatchEnvelope, hvalid, hkind, handleMediaEnvelope,
          CompanionIngress.handleMediaEnvelope]
        split_ifs <;> rfl
      | _ => rfl
  rw [handleEnvelope, dispatched, CompanionIngress.handleEnvelope]
  cases (i.dispatchEnvelope envelope).2 <;> rfl

/-- One envelope, with the fault that the file system has in store for it. -/
abbrev Input := QuicEnvelope × Option MediaFault

def step (i : StoringIngress) (input : Input) : StoringIngress :=
  (i.handleEnvelope decodeBase64 input.2 input.1).1

def reply (i : StoringIngress) (input : Input) : QuicEnvelope :=
  (i.handleEnvelope decodeBase64 input.2 input.1).2

/-- A stream chunk is answered with an acknowledgement that accepts it. -/
def accepts (i : StoringIngress) (input : Input) : Bool :=
  input.1.kind == .streamChunk && (i.reply decodeBase64 input).kind == .commandResponse &&
    ((i.reply decodeBase64 input).payload.get? "accepted").bind Value.asBool == some true

/-- An envelope that is answered with an error leaves the counter and the stored chunks alone. -/
def ErrorKeeps (i : StoringIngress) (input : Input) : Prop :=
  (i.reply decodeBase64 input).kind = .error →
    (i.step decodeBase64 input).ingress.mediaChunkCount = i.ingress.mediaChunkCount ∧
      ∀ dir, (i.step decodeBase64 input).files.files dir = i.files.files dir

/-- The payload names a session and holds bytes in base64, and storing them meets no fault. -/
def Storable (files : MediaFs) (input : Input) : Prop :=
  ∃ sessionId data bytes, input.1.payload.get? "sessionId" = some (.string sessionId) ∧
    input.1.payload.get? "encoding" = some (.string "base64") ∧
    input.1.payload.get? "data" = some (.string data) ∧ decodeBase64 data = some bytes ∧
    ∀ fault ∈ input.2, ¬fault.Hits files sessionId

/-- A stream chunk that is to be stored: it is valid, it comes on the media channel, and there is a
store. -/
def Demands (i : StoringIngress) (envelope : QuicEnvelope) : Prop :=
  validateQuicEnvelope envelope = .ok () ∧ envelope.kind = .streamChunk ∧ envelope.channel = .media ∧
    i.mediaStore.isSome = true

variable {decodeBase64}

theorem requiredString_ok {payload : Value} {key s : String} :
    requiredString payload key = .ok s ↔ payload.get? key = some (.string s) := by
  unfold requiredString
  cases hfield : payload.get? key with
  | none => simp
  | some v => cases v <;> simp [Value.asStr]

/-- What a stream chunk holds, if its payload is well formed. -/
theorem mediaChunk_some {envelope : QuicEnvelope} (hkind : envelope.kind = .streamChunk)
    {sessionId : String} {bytes : List UInt8} :
    mediaChunk decodeBase64 envelope = .ok (some (sessionId, bytes)) ↔
      ∃ data, envelope.payload.get? "sessionId" = some (.string sessionId) ∧
        envelope.payload.get? "encoding" = some (.string "base64") ∧
        envelope.payload.get? "data" = some (.string data) ∧ decodeBase64 data = some bytes := by
  simp only [← requiredString_ok]
  unfold mediaChunk
  rw [if_neg (by simp [hkind])]
  cases hsession : requiredString envelope.payload "sessionId" with
  | error e => simp [bind, Except.bind]
  | ok s =>
    cases hencoding : requiredString envelope.payload "encoding" with
    | error e => simp [bind, Except.bind]
    | ok encoding =>
      by_cases hbase : encoding = "base64"
      · cases hdata : requiredString envelope.payload "data" with
        | error e => simp [bind, Except.bind, hbase]
        | ok data =>
          cases hdecoded : decodeBase64 data with
          | none => simp [bind, Except.bind, hbase, hdecoded]
          | some decoded => simp [bind, Except.bind, hbase, hdecoded]
      · simp [bind, Except.bind, hbase]

/-- A stream chunk is never passed over. -/
theorem mediaChunk_ne_none {envelope : QuicEnvelope} (hkind : envelope.kind = .streamChunk) :
    mediaChunk decodeBase64 envelope ≠ .ok none := by
  unfold mediaChunk
  rw [if_neg (by simp [hkind])]
  cases requiredString envelope.payload "sessionId" with
  | error e => simp [bind, Except.bind]
  | ok s =>
    cases requiredString envelope.payload "encoding" with
    | error e => simp [bind, Except.bind]
    | ok encoding =>
      by_cases hbase : encoding = "base64"
      · cases requiredString envelope.payload "data" with
        | error e => simp [bind, Except.bind, hbase]
        | ok data => cases hdecoded : decodeBase64 data <;> simp [bind, Except.bind, hbase, hdecoded]
      · simp [bind, Except.bind, hbase]

/-- A stream chunk is stored exactly when it is storable. -/
theorem storeOrFail_spec (store : CompanionMediaStore) (files : MediaFs) (input : Input)
    (hkind : input.1.kind = .streamChunk) :
    (Storable decodeBase64 files input ∧
      ∃ chunk, (store.storeOrFail decodeBase64 files input.2 input.1).2 = .ok (some chunk)) ∨
    (¬Storable decodeBase64 files input ∧
      ∃ e, (store.storeOrFail decodeBase64 files input.2 input.1).2 = .error e) := by
  obtain ⟨envelope, fault⟩ := input
  cases hchunk : mediaChunk decodeBase64 envelope with
  | error e =>
    refine Or.inr ⟨?_, e, by simp only [CompanionMediaStore.storeOrFail,
      CompanionMediaStore.storeEnvelope, hchunk]⟩
    rintro ⟨sessionId, data, bytes, hsession, hencoding, hdata, hdecoded, -⟩
    rw [(mediaChunk_some hkind).mpr ⟨data, hsession, hencoding, hdata, hdecoded⟩] at hchunk
    cases hchunk
  | ok found =>
    cases found with
    | none => exact (mediaChunk_ne_none hkind hchunk).elim
    | some pair =>
      obtain ⟨sessionId, bytes⟩ := pair
      obtain ⟨data, hsession, hencoding, hdata, hdecoded⟩ := (mediaChunk_some hkind).mp hchunk
      by_cases hhit : ∃ f ∈ fault, f.Hits files sessionId
      · obtain ⟨f, hf, hits⟩ := hhit
        rw [Option.mem_def] at hf
        subst hf
        refine Or.inr ⟨?_, f.error, by simp only [CompanionMediaStore.storeOrFail, hchunk, if_pos hits]⟩
        rintro ⟨sessionId', data', bytes', hsession', -, -, -, clear⟩
        have hsession' : envelope.payload.get? "sessionId" = some (.string sessionId') := hsession'
        rw [hsession, Option.some.injEq, Value.string.injEq] at hsession'
        exact clear f rfl (hsession' ▸ hits)
      · have clear : ∀ f ∈ fault, ¬f.Hits files sessionId :=
          fun f hf hits => hhit ⟨f, hf, hits⟩
        refine Or.inl ⟨⟨sessionId, data, bytes, hsession, hencoding, hdata, hdecoded, clear⟩, ?_⟩
        cases fault with
        | none =>
          simp only [CompanionMediaStore.storeOrFail, CompanionMediaStore.storeEnvelope, hchunk]
          exact ⟨_, rfl⟩
        | some f =>
          simp only [CompanionMediaStore.storeOrFail, hchunk, if_neg (clear f rfl),
            CompanionMediaStore.storeEnvelope]
          exact ⟨_, rfl⟩

/-- The counter and the files after a step. -/
structure After (i i' : StoringIngress) (count : Nat) : Prop where
  counted : i'.ingress.mediaChunkCount = i.ingress.mediaChunkCount + count
  kept : count = 0 → i'.files = i.files

variable (decodeBase64) in
/-- What a step does. It is accounted for: an accepted chunk is counted, and what is refused leaves
everything. Or a chunk is counted that is refused because it cannot be stored. -/
inductive StepCase (i : StoringIngress) (input : Input) : Prop
  | accounted (storable : i.Demands input.1 → Storable decodeBase64 i.files input)
      (after : i.After (i.step decodeBase64 input) (i.accepts decodeBase64 input).toNat)
      (accepted : i.accepts decodeBase64 input = true → (i.reply decodeBase64 input).kind ≠ .error)
  | refused (demands : i.Demands input.1) (unstorable : ¬Storable decodeBase64 i.files input)
      (after : i.After (i.step decodeBase64 input) 1) (accepted : i.accepts decodeBase64 input = false)
      (error : (i.reply decodeBase64 input).kind = .error)

theorem handleEnvelope_error {i i' : StoringIngress} {input : Input} {e : AppError}
    (h : i.dispatchEnvelope decodeBase64 input.2 input.1 = (i', .error e)) :
    i.step decodeBase64 input = i' ∧ (i.reply decodeBase64 input).kind = .error := by
  rw [step, reply, handleEnvelope, h]
  exact ⟨rfl, rfl⟩

theorem handleEnvelope_ok {i i' : StoringIngress} {input : Input} {response : QuicEnvelope}
    (h : i.dispatchEnvelope decodeBase64 input.2 input.1 = (i', .ok response)) :
    i.step decodeBase64 input = i' ∧ i.reply decodeBase64 input = response := by
  rw [step, reply, handleEnvelope, h]
  exact ⟨rfl, rfl⟩

theorem accepts_of_error {i : StoringIngress} {input : Input}
    (h : (i.reply decodeBase64 input).kind = .error) : i.accepts decodeBase64 input = false := by
  simp [accepts, h]

/-- Only stream chunks are accepted as such. -/
theorem accepts_of_kind {i : StoringIngress} {input : Input} (h : input.1.kind ≠ .streamChunk) :
    i.accepts decodeBase64 input = false := by
  simp [accepts, h]

/-- What is refused before it is counted leaves everything. -/
theorem stepCase_refused {i : StoringIngress} {input : Input} {e : AppError}
    (h : i.dispatchEnvelope decodeBase64 input.2 input.1 = (i, .error e))
    (idle : ¬i.Demands input.1) : StepCase decodeBase64 i input := by
  obtain ⟨hstep, herror⟩ := handleEnvelope_error h
  have none_accepted := accepts_of_error herror
  refine .accounted (fun hd => (idle hd).elim) ?_ (fun ha => ?_)
  · rw [none_accepted, hstep]
    exact ⟨rfl, fun _ => rfl⟩
  · rw [none_accepted] at ha
    cases ha

/-- A message that is no stream chunk leaves the counter and the files. -/
theorem stepCase_other {i : StoringIngress} {input : Input} (hkind : input.1.kind ≠ .streamChunk)
    (hcount : (i.step decodeBase64 input).ingress.mediaChunkCount = i.ingress.mediaChunkCount)
    (hfiles : (i.step decodeBase64 input).files = i.files) : StepCase decodeBase64 i input := by
  have none_accepted := @accepts_of_kind decodeBase64 i input hkind
  refine .accounted (fun hd => (hkind hd.2.1).elim) ?_ (fun ha => ?_)
  · rw [none_accepted]
    exact ⟨hcount, fun _ => hfiles⟩
  · rw [none_accepted] at ha
    cases ha

/-- A valid stream chunk on the media channel is counted, and then stored if there is a store. -/
theorem stepCase_chunk {i : StoringIngress} {input : Input}
    (hvalid : validateQuicEnvelope input.1 = .ok ()) (hkind : input.1.kind = .streamChunk)
    (hchannel : input.1.channel = .media) : StepCase decodeBase64 i input := by
  obtain ⟨envelope, fault⟩ := input
  have hkind : envelope.kind = .streamChunk := hkind
  have hvalid : validateQuicEnvelope envelope = .ok () := hvalid
  have hchannel : ¬envelope.channel ≠ .media := not_not.mpr hchannel
  have dispatched : i.dispatchEnvelope decodeBase64 fault envelope =
      i.handleMediaEnvelope decodeBase64 fault envelope := by
    simp only [dispatchEnvelope, hvalid, hkind]
  have acked {response : QuicEnvelope} {members : List (String × Value)}
      (hreply : i.reply decodeBase64 (envelope, fault) = response)
      (hresponse : response = ackEnvelope envelope.traceId envelope.deviceId envelope.messageId
        (.object (("accepted", .bool true) :: members))) :
      i.accepts decodeBase64 (envelope, fault) = true ∧
        (i.reply decodeBase64 (envelope, fault)).kind ≠ .error := by
    rw [accepts, hreply, hresponse, hkind]
    exact ⟨rfl, by simp [ackEnvelope, coreEnvelope]⟩
  cases hstore : i.mediaStore with
  | none =>
    have handled := dispatched
    simp only [handleMediaEnvelope, if_neg hchannel, hkind, hstore, if_true, Except.map] at handled
    obtain ⟨hstep, hreply⟩ := @handleEnvelope_ok decodeBase64 _ _ (envelope, fault) _ handled
    obtain ⟨haccepts, hnot⟩ := acked hreply rfl
    refine .accounted (fun hd => ?_) ?_ (fun _ => hnot)
    · rw [Demands, hstore] at hd
      cases hd.2.2.2
    · rw [haccepts, hstep]
      exact ⟨rfl, fun h => by cases h⟩
  | some store =>
    have handled := dispatched
    simp only [handleMediaEnvelope, if_neg hchannel, hkind, hstore, if_true] at handled
    rcases @storeOrFail_spec decodeBase64 store i.files (envelope, fault) hkind with
      ⟨storable, chunk, hok⟩ | ⟨unstorable, e, herror⟩
    · have hok : (store.storeOrFail decodeBase64 i.files fault envelope).2 = .ok (some chunk) := hok
      simp only [hok, Except.map] at handled
      obtain ⟨hstep, hreply⟩ := @handleEnvelope_ok decodeBase64 _ _ (envelope, fault) _ handled
      obtain ⟨haccepts, hnot⟩ := acked hreply rfl
      refine .accounted (fun _ => storable) ?_ (fun _ => hnot)
      rw [haccepts, hstep]
      exact ⟨rfl, fun h => by cases h⟩
    · have herror : (store.storeOrFail decodeBase64 i.files fault envelope).2 = .error e := herror
      simp only [herror, Except.map] at handled
      obtain ⟨hstep, hreply⟩ := @handleEnvelope_error decodeBase64 _ _ (envelope, fault) _ handled
      refine .refused ⟨hvalid, hkind, not_not.mp hchannel, by rw [hstore]; rfl⟩ unstorable ?_
        (accepts_of_error hreply) hreply
      rw [hstep]
      exact ⟨rfl, fun h => by cases h⟩

theorem step_dispatch (i : StoringIngress) (input : Input) :
    i.step decodeBase64 input = (i.dispatchEnvelope decodeBase64 input.2 input.1).1 := by
  simp only [step, handleEnvelope]
  split <;> rfl

theorem step_cases (i : StoringIngress) (input : Input) : StepCase decodeBase64 i input := by
  obtain ⟨envelope, fault⟩ := input
  cases hvalid : validateQuicEnvelope envelope with
  | error e =>
    have refused : i.dispatchEnvelope decodeBase64 fault envelope = (i, .error e) := by
      simp only [dispatchEnvelope, hvalid]
    refine stepCase_refused refused ?_
    rintro ⟨hok, -⟩
    rw [hvalid] at hok
    cases hok
  | ok u =>
    cases hkind : envelope.kind with
    | streamChunk =>
      by_cases hchannel : envelope.channel = .media
      · exact stepCase_chunk hvalid hkind hchannel
      · have refused : ∃ e, i.dispatchEnvelope decodeBase64 fault envelope = (i, .error e) := by
          simp only [dispatchEnvelope, hvalid, hkind, handleMediaEnvelope, if_pos hchannel]
          exact ⟨_, rfl⟩
        obtain ⟨e, he⟩ := refused
        exact stepCase_refused he (fun hd => hchannel hd.2.2.1)
    | streamOpen | streamClose =>
      apply stepCase_other (by simp [hkind])
      · simp only [step_dispatch, dispatchEnvelope, hvalid, hkind, handleMediaEnvelope, reduceCtorEq,
          if_false]
        split_ifs <;> rfl
      · simp only [step_dispatch, dispatchEnvelope, hvalid, hkind, handleMediaEnvelope]
        split_ifs <;> rfl
    | _ =>
      apply stepCase_other (by simp [hkind])
      · simp only [step_dispatch, dispatchEnvelope, hvalid, hkind, CompanionIngress.dispatchEnvelope]
      · simp only [step_dispatch, dispatchEnvelope, hvalid, hkind]

/-- The ingress as it is made, with any sessions, with or without a store, on any files. -/
def new (sessionManager : CompanionSessionManager) (mediaStore : Option CompanionMediaStore)
    (files : MediaFs) : StoringIngress :=
  ⟨.new sessionManager, mediaStore, files⟩

variable (decodeBase64) in
/-- How many stream chunks of a run are accepted. -/
def acceptedCount (i : StoringIngress) (inputs : List Input) : Nat :=
  (eventsOf (step decodeBase64) (fun i input => [i.accepts decodeBase64 input]) i inputs).count true

variable (decodeBase64) in
/-- Along a run what is answered with an error leaves the counter and the stored chunks, and the
counter is at every moment the number of the chunks accepted so far. -/
structure Accounts (i : StoringIngress) (inputs : List Input) : Prop where
  errors : Along (step decodeBase64) (ErrorKeeps decodeBase64) i inputs
  counted : ∀ pre post, inputs = pre ++ post →
    (run (step decodeBase64) i pre).ingress.mediaChunkCount =
      i.ingress.mediaChunkCount + acceptedCount decodeBase64 i pre

variable (decodeBase64) in
/-- A chunk that is to be stored can be. -/
def Stores (i : StoringIngress) (input : Input) : Prop :=
  i.Demands input.1 → Storable decodeBase64 i.files input

/-- An error leaves the counter and the chunks exactly when it is not of a chunk to be stored. -/
theorem errorKeeps_iff (i : StoringIngress) (input : Input) :
    ErrorKeeps decodeBase64 i input ↔ Stores decodeBase64 i input := by
  cases @step_cases decodeBase64 i input with
  | accounted storable after accepted =>
    refine iff_of_true ?_ storable
    intro herror
    have none_accepted : (i.accepts decodeBase64 input).toNat = 0 := by
      rw [accepts_of_error herror]
      rfl
    rw [after.counted, after.kept none_accepted, none_accepted]
    exact ⟨rfl, fun _ => rfl⟩
  | refused demands unstorable after accepted error =>
    refine iff_of_false ?_ (fun h => unstorable (h demands))
    intro hkeeps
    have hcount := (hkeeps error).1
    rw [after.counted] at hcount
    omega

/-- Where a chunk to be stored can be, a step counts what it accepts. -/
theorem counted_step {i : StoringIngress} {input : Input} (h : Stores decodeBase64 i input) :
    (i.step decodeBase64 input).ingress.mediaChunkCount =
      i.ingress.mediaChunkCount + (i.accepts decodeBase64 input).toNat := by
  cases @step_cases decodeBase64 i input with
  | accounted _ after _ => exact after.counted
  | refused demands unstorable _ _ _ => exact (unstorable (h demands)).elim

theorem counted_run {i : StoringIngress} {inputs : List Input}
    (h : Along (step decodeBase64) (Stores decodeBase64) i inputs) :
    (run (step decodeBase64) i inputs).ingress.mediaChunkCount =
      i.ingress.mediaChunkCount + acceptedCount decodeBase64 i inputs := by
  induction inputs generalizing i with
  | nil => rfl
  | cons input inputs ih =>
    rw [run_cons, ih h.2, counted_step h.1, acceptedCount, acceptedCount, eventsOf_cons,
      List.singleton_append, List.count_cons]
    cases i.accepts decodeBase64 input with
    | false => simp
    | true =>
      simp only [Bool.toNat_true, beq_self_eq_true, if_true]
      omega

end StoringIngress

end

open StoringIngress in
/-- For every run of envelopes, valid or not, with or without a store, on a file system that may
fail: the ingress accounts for the chunks exactly when every chunk that is to be stored can be. -/
theorem media_accounting_iff (decodeBase64 : String → Option (List UInt8))
    (sessionManager : CompanionSessionManager) (mediaStore : Option CompanionMediaStore)
    (files : MediaFs) (inputs : List StoringIngress.Input) :
    Accounts decodeBase64 (.new sessionManager mediaStore files) inputs ↔
      Along (step decodeBase64) (Stores decodeBase64) (.new sessionManager mediaStore files)
        inputs := by
  have same : Along (step decodeBase64) (ErrorKeeps decodeBase64)
      (.new sessionManager mediaStore files) inputs ↔ Along (step decodeBase64)
        (Stores decodeBase64) (.new sessionManager mediaStore files) inputs :=
    along_congr (fun _ => True) (fun _ _ _ _ => trivial)
      (fun i input _ => errorKeeps_iff i input) trivial
  constructor
  · intro h
    exact same.mp h.errors
  · intro h
    refine ⟨same.mpr h, ?_⟩
    intro pre post hsplit
    subst hsplit
    exact counted_run h.before

/-- A chunk that says it is not base64. -/
def rawChunk : QuicEnvelope :=
  { emptyChunk "s" with
    payload := .object [("sessionId", .string "s"), ("encoding", .string "raw"),
      ("data", .string "")] }

/-- The chunk is refused, and counted. -/
theorem refused_chunk_counted :
    ¬∀ (sessionManager : CompanionSessionManager) (mediaStore : Option CompanionMediaStore)
      (files : MediaFs) (inputs : List StoringIngress.Input),
      StoringIngress.Accounts decodeNothing (.new sessionManager mediaStore files) inputs := by
  intro h
  have counted := (h .default (some ⟨"media"⟩) .empty [(rawChunk, none)]).counted
    [(rawChunk, none)] [] rfl
  revert counted
  decide

end AdbControl.Companion
