import AdbControl.Server.CoreAnswers

namespace AdbControl.Server.CoreIpc

open Framework

variable {κ π : Type}

/-- The JSON of both sides: the server writes requests and reads responses, Core the reverse. -/
structure Codec (π : Type) where
  marshal : Request π → Option (List UInt8)
  unmarshal : List UInt8 → Option Response
  fromStr : List UInt8 → Option IpcRequest
  encodeResponse : IpcResponse → List UInt8

variable (codec : Codec π) (handleRequest : κ → IpcRequest → κ × Except AppError Value)

/-- The channel to a Core that runs `serve_json_lines`. -/
def Codec.ends : Ends κ π :=
  ⟨codec.marshal, codec.unmarshal,
    handleJsonLine codec.fromStr codec.encodeResponse handleRequest⟩

/-- JSON is written on one line; Core can parse the requests that are made, and each side reads an id
as the other has written it. -/
structure Codec.Speaks (requests : List (Request π)) : Prop where
  marshal : ∀ request line, codec.marshal request = some line → newline ∉ line
  encode : ∀ response, newline ∉ codec.encodeResponse response
  parses : ∀ request ∈ requests, ∀ line, codec.marshal request = some line →
    ∃ parsed, codec.fromStr (Scanner.dropCr carriage line) = some parsed ∧ parsed.id = request.id
  reads : ∀ request ∈ requests, ∀ core parsed, parsed.id = request.id →
    ∃ response, codec.unmarshal (Scanner.dropCr carriage
      (codec.encodeResponse (.ofOutcome parsed.id (handleRequest core parsed).2))) = some response ∧
      response.id = request.id

variable {codec handleRequest}

theorem Codec.Speaks.oneLine {requests : List (Request π)}
    (h : codec.Speaks handleRequest requests) : OneLine (codec.ends handleRequest) := by
  refine ⟨h.marshal, ?_⟩
  intro core line
  unfold Codec.ends handleJsonLine
  dsimp only
  split
  · exact h.encode _
  · exact h.encode _

namespace Channel

section Served

variable {ends : Ends κ π} {s : Channel κ π}

/-- What stands as an answer is what Core has made of the line. -/
def AnswersOf (ends : Ends κ π) (s : Channel κ π) : Prop :=
  ∀ e ∈ s.served, ∃ core, e.2 = (ends.serve core (Scanner.dropCr carriage e.1)).2

theorem answersOf_step (h : AnswersOf ends s) (act : ChannelAct π) :
    AnswersOf ends (step ends s act) := by
  intro e he
  rcases eq_or_ne act .serve with rfl | hact
  · simp only [step, serveLine] at he
    split_ifs at he
    · rcases List.mem_append.mp he with he | he
      · exact h e he
      · rw [List.mem_singleton.mp he]
        exact ⟨s.core, rfl⟩
    · exact h e he
  · rw [served_quiet hact] at he
    exact h e he

theorem answersOf_run (core : κ) (acts : List (ChannelAct π)) :
    AnswersOf ends (run (step ends) (start core) acts) :=
  run_invariant_of_step (AnswersOf ends) (fun _ act h => answersOf_step h act) acts nofun

/-- A call that has written reads, or has returned. -/
theorem Paired.sent_at (h : s.Paired ends) {k : Nat} (hk : k ∈ s.sent) :
    ∃ call, s.calls[k]? = some call ∧
      (call.pc = .reading ∨ ∃ answer, call.pc = .returned answer) := by
  obtain ⟨call, hcall⟩ : ∃ call, s.calls[k]? = some call :=
    ⟨_, List.getElem?_eq_getElem (h.known k (Or.inr hk))⟩
  refine ⟨call, hcall, ?_⟩
  have hsound := h.sound k call hcall
  unfold Traffic.Sound at hsound
  cases hpc : call.pc with
  | locking =>
    rw [hpc] at hsound
    exact (hsound.2 hk).elim
  | checking =>
    rw [hpc] at hsound
    exact (hsound.2 hk).elim
  | writing line =>
    rw [hpc] at hsound
    exact (hsound.2.1 hk).elim
  | reading => exact Or.inl rfl
  | returned answer => exact Or.inr ⟨answer, rfl⟩

end Served

variable (codec handleRequest)

/-- The call was answered with the response that Core gave to its own request, under its id. -/
def ReadsOwn (s : Channel κ π) (k : Nat) (call : Call π) (answer : Answer) : Prop :=
  ∃ (i : Nat) (line written : List UInt8) (core : κ) (parsed : IpcRequest) (response : Response),
    s.sent[i]? = some k ∧ codec.marshal call.request = some line ∧
    codec.fromStr (Scanner.dropCr carriage line) = some parsed ∧ parsed.id = call.request.id ∧
    s.served[i]? = some (line, written) ∧
    written = codec.encodeResponse (.ofOutcome parsed.id (handleRequest core parsed).2) ∧
    codec.unmarshal (Scanner.dropCr carriage written) = some response ∧
    response.id = call.request.id ∧ answer = call.accept response

variable {codec handleRequest} {s : Channel κ π}

/-- Where both sides speak the same JSON, a call's own answer is one under its id. -/
theorem readsOwn_of_own {requests : List (Request π)} (h : codec.Speaks handleRequest requests)
    (hanswers : AnswersOf (codec.ends handleRequest) s)
    (hfits : ∀ e ∈ s.served, e.2.length < maxTokenSize) {k : Nat} {call : Call π} {answer : Answer}
    (hcall : call.request ∈ requests)
    (hown : s.toTraffic.Own (codec.ends handleRequest) k call answer) :
    ReadsOwn codec handleRequest s k call answer := by
  obtain ⟨i, line, written, hi, hserved, hline, hanswer⟩ := hown
  have hmem : (line, written) ∈ s.served := List.mem_of_getElem? hserved
  obtain ⟨core, hwritten⟩ := hanswers _ hmem
  obtain ⟨parsed, hparsed, hid⟩ := h.parses _ hcall line hline
  have hencoded : written =
      codec.encodeResponse (.ofOutcome parsed.id (handleRequest core parsed).2) := by
    rw [show written = _ from hwritten]
    simp only [Codec.ends, handleJsonLine, hparsed]
  obtain ⟨response, hread, hrid⟩ := h.reads _ hcall core parsed hid
  rw [← hencoded] at hread
  refine ⟨i, line, written, core, parsed, response, hi, hline, hparsed, hid, hserved, hencoded,
    hread, hrid, ?_⟩
  have hfit : written.length < maxTokenSize := hfits _ hmem
  rw [hanswer, Call.outcome, if_pos hfit, Call.judge]
  simp only [Codec.ends, hread]

theorem ReadsOwn.matches {k : Nat} {call : Call π} {answer : Answer}
    (h : ReadsOwn codec handleRequest s k call answer) : answer ≠ .mismatch := by
  obtain ⟨-, -, -, -, -, response, -, -, -, -, -, -, -, hid, hanswer⟩ := h
  rw [hanswer, Call.accept, if_neg (not_not_intro hid)]
  cases response.ok with
  | false =>
    rw [if_pos rfl]
    cases response.error with
    | none => nofun
    | some e => nofun
  | true =>
    rw [if_neg (by decide)]
    cases call.target with
    | none => nofun
    | some decodes =>
      dsimp only
      split_ifs
      · nofun
      · nofun
      · nofun

/-- In every run of any number of calls, with calls cancelled at any point, every call that comes to
write its request reads the response that Core gave to that request, and the others never write. A
call that reads returns, once Core has answered, after as many of its steps as there are bytes to
read. -/
theorem calls_read_their_own (codec : Codec π)
    (handleRequest : κ → IpcRequest → κ × Except AppError Value) (core : κ)
    (acts : List (ChannelAct π))
    (hspeaks : codec.Speaks handleRequest ((run (step (codec.ends handleRequest)) (start core)
      acts).calls.map (·.request)))
    (hfits : ∀ e ∈ (run (step (codec.ends handleRequest)) (start core) acts).served,
      e.2.length < maxTokenSize) :
    let s := run (step (codec.ends handleRequest)) (start core) acts
    s.sent.Nodup ∧
    (∀ k ∈ s.sent, ∃ call, s.calls[k]? = some call ∧
      (call.pc = .reading ∨ ∃ answer, call.pc = .returned answer)) ∧
    (∀ (k : Nat) call answer, s.calls[k]? = some call → call.pc = .returned answer →
      answer ≠ .mismatch ∧ (s.Unsent k answer ∨ ReadsOwn codec handleRequest s k call answer)) ∧
    ∀ pre more k call, acts = pre ++ more →
      (run (step (codec.ends handleRequest)) (start core) pre).calls[k]? = some call →
      call.pc = .reading →
      let t := run (step (codec.ends handleRequest)) (start core) pre
      t.served.length = t.sent.length → t.stdout.length < more.countP (isStepOf k) →
      ∃ call answer, s.calls[k]? = some call ∧ call.pc = .returned answer := by
  intro s
  have hone := hspeaks.oneLine
  have hclear : Along (step (codec.ends handleRequest)) WritesClear (start core) acts :=
    clear_of_fits hfits
  have h : s.Paired (codec.ends handleRequest) := (paired_start core).ran hone hclear
  refine ⟨h.nodup, fun k hk => h.sent_at hk, ?_, ?_⟩
  · intro k call answer hcall hpc
    rcases h.own.2 k call answer hcall hpc with hun | hown
    · refine ⟨?_, Or.inl hun⟩
      rcases hun.2 with hcancelled | hmarshal
      · rw [hcancelled]
        nofun
      · rw [hmarshal]
        nofun
    · have hmem : call.request ∈ s.calls.map (·.request) :=
        List.mem_map_of_mem (List.mem_of_getElem? hcall)
      have hreads := readsOwn_of_own hspeaks (answersOf_run core acts) hfits hmem hown
      exact ⟨hreads.matches, Or.inr hreads⟩
  · intro pre more k call hsplit hcall hpc t heven hmore
    subst hsplit
    have hpre := (paired_start core).ran hone hclear.before
    have hafter := ((along_append _ _ _ _ _).mp hclear).2
    have due := due_run hone hpre (n := t.stdout.length + 1)
      ⟨call, hcall, Or.inl ⟨hpc, heven, Nat.lt_succ_self _⟩⟩ hafter
    rw [show t.stdout.length + 1 - more.countP (isStepOf k) = 0 by omega, ← run_append] at due
    exact due.returned

/-- The three requests for the devices. -/
def deviceLists : List (Request Unit) :=
  ["web-1", "web-2", "web-3"].map fun id => ⟨id, "device.list", ()⟩

def requestText (request : Request Unit) : List UInt8 :=
  (utf8 ("\x7b\"id\":\"" ++ request.id ++ "\",\"method\":\"" ++ request.method ++
    "\",\"params\":null\x7d")).filter (· ≠ newline)

/-- The response to one of them, where there are no devices. -/
def responseText (id : String) : List UInt8 :=
  (utf8 ("\x7b\"id\":\"" ++ id ++ "\",\"ok\":true,\"result\":[]\x7d")).filter (· ≠ newline)

/-- The JSON of these requests and their responses. -/
def deviceListCodec : Codec Unit where
  marshal := fun request => some (requestText request)
  fromStr := fun line => (deviceLists.find? fun request => requestText request = line).map
    fun request => ⟨request.id, request.method, .null⟩
  encodeResponse := fun response => responseText (response.id.getD "")
  unmarshal := fun line => (deviceLists.find? fun request => responseText request.id = line).map
    fun request => ⟨request.id, true, utf8 "[]", none⟩

def noDevices (core : Unit) (_ : IpcRequest) : Unit × Except AppError Value := (core, .ok (.array []))

theorem deviceListCodec_speaks : deviceListCodec.Speaks noDevices deviceLists := by
  refine ⟨?_, ?_, ?_, ?_⟩
  · intro request line hline
    obtain rfl := Option.some.inj hline
    simp [requestText]
  · intro response
    simp [deviceListCodec, responseText]
  · intro request hrequest line hline
    obtain rfl := Option.some.inj hline
    have parsed : ∀ request ∈ deviceLists, (deviceListCodec.fromStr
        (Scanner.dropCr carriage (requestText request))).map (·.id) = some request.id := by
      decide
    exact Option.map_eq_some_iff.mp (parsed request hrequest)
  · intro request hrequest core parsed hid
    have read : ∀ request ∈ deviceLists, (deviceListCodec.unmarshal
        (Scanner.dropCr carriage (responseText request.id))).map (·.id) = some request.id := by
      decide
    have written : deviceListCodec.encodeResponse (.ofOutcome parsed.id (noDevices core parsed).2) =
        responseText request.id := by
      rw [← hid]
      rfl
    rw [written]
    exact Option.map_eq_some_iff.mp (read request hrequest)

/-- Of three calls the second is cancelled while it waits for the lock, the first while it reads. -/
def threeCalls : List (ChannelAct Unit) :=
  List.replicate 3 (.call "device.list" () none) ++ (goes 0 3 ++ .cancel 1 :: (goes 1 1 ++
    .cancel 0 :: .serve :: (goes 0 2 ++ (goes 2 3 ++ .serve :: goes 2 2))))

theorem threeCalls_requests : (run (step (deviceListCodec.ends noDevices)) (start ())
    threeCalls).calls.map (·.request) = deviceLists := by
  decide

theorem threeCalls_fit : ∀ e ∈ (run (step (deviceListCodec.ends noDevices)) (start ())
    threeCalls).served, e.2.length < maxTokenSize := by
  decide

theorem calls_read_their_own_three :
    let s := run (step (deviceListCodec.ends noDevices)) (start ()) threeCalls
    s.calls.map (·.pc) = [.returned .done, .returned (.unavailable .cancelled), .returned .done] ∧
      ∀ (k : Nat) call answer, s.calls[k]? = some call → call.pc = .returned answer →
        answer ≠ .mismatch ∧
          (s.Unsent k answer ∨ ReadsOwn deviceListCodec noDevices s k call answer) := by
  intro s
  constructor
  · decide
  · have speaks := threeCalls_requests ▸ deviceListCodec_speaks
    exact (calls_read_their_own deviceListCodec noDevices () threeCalls speaks threeCalls_fit).2.2.1

end Channel

end AdbControl.Server.CoreIpc
