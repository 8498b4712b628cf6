import AdbControl.Framework.Threads
import AdbControl.Server.CoreIpc

namespace AdbControl.Server.CoreIpc

open Framework

variable {κ π : Type}

/-- Requests and responses are one line each. -/
structure OneLine (ends : Ends κ π) : Prop where
  marshal : ∀ request line, ends.marshal request = some line → newline ∉ line
  serve : ∀ core line, newline ∉ (ends.serve core line).2

/-- What a call comes to by the response to its own request: a line that is too long for the scanner
is its own failure. -/
def Call.outcome (ends : Ends κ π) (call : Call π) (response : List UInt8) : Answer :=
  if response.length < maxTokenSize then call.judge ends (Scanner.dropCr carriage response)
  else .unavailable .tooLong

namespace Traffic

/-- No call reads: Core has answered all that was written. As long as all of it fitted the scanner,
the pipes and the scanner are empty; else the scanner is spoilt. -/
structure Still (t : Traffic) : Prop where
  even : t.served.length = t.sent.length
  stdin : t.stdin = []
  clear : (∀ e ∈ t.served, e.2.length < maxTokenSize) →
    t.stdout = [] ∧ t.scanner.held = [] ∧ t.scanner.Live maxTokenSize
  spoilt : ∀ e ∈ t.served, maxTokenSize ≤ e.2.length →
    t.scanner.tooLong = true ∧ t.scanner.held ≠ [] ∧ newline ∉ t.scanner.held

/-- The request of the last call that wrote is under way, and nothing else is. -/
structure Asked (t : Traffic) (line : List UInt8) : Prop where
  even : t.served.length + 1 = t.sent.length
  fits : ∀ e ∈ t.served, e.2.length < maxTokenSize
  stdin : t.stdin = line ++ [newline]
  stdout : t.stdout = []
  held : t.scanner.held = []

/-- Core has answered it, and no more than the answer is in the pipe and the scanner. -/
structure Answered (t : Traffic) (line response : List UInt8) : Prop where
  served : ∃ earlier, t.served = earlier ++ [(line, response)] ∧
    earlier.length + 1 = t.sent.length ∧ ∀ e ∈ earlier, e.2.length < maxTokenSize
  oneLine : newline ∉ response
  stdin : t.stdin = []
  stream : t.scanner.held ++ t.stdout = response ++ [newline]

variable {κ π : Type} (ends : Ends κ π)

/-- What a call that has written and returned was answered. -/
def Own (t : Traffic) (k : Nat) (call : Call π) (answer : Answer) : Prop :=
  ∃ (i : Nat) (line response : List UInt8), t.sent[i]? = some k ∧
    t.served[i]? = some (line, response) ∧ ends.marshal call.request = some line ∧
    answer = call.outcome ends response

/-- A call returned before it wrote. -/
def Unsent (t : Traffic) (k : Nat) (answer : Answer) : Prop :=
  k ∉ t.sent ∧ (answer = .unavailable .cancelled ∨ answer = .unavailable .marshal)

/-- What holds of a call, by the place it has come to. -/
def Sound (t : Traffic) (holder : Option Nat) (k : Nat) (call : Call π) : Prop :=
  match call.pc with
  | .locking => holder ≠ some k ∧ k ∉ t.sent
  | .checking => holder = some k ∧ k ∉ t.sent
  | .writing line => holder = some k ∧ k ∉ t.sent ∧ ends.marshal call.request = some line
  | .reading => holder = some k ∧ t.sent.getLast? = some k ∧ t.scanner.Live maxTokenSize ∧
      ∃ line, ends.marshal call.request = some line ∧
        (t.Asked line ∨ ∃ response, t.Answered line response)
  | .returned answer => holder ≠ some k ∧ (t.Unsent k answer ∨ t.Own ends k call answer)

variable {ends} {t t' : Traffic} {holder holder' : Option Nat} {k : Nat} {call call' : Call π}

/-- Between lock and unlock there is the holder alone. -/
theorem Sound.holds (h : t.Sound ends holder k call) :
    call.pc.holds = true ↔ holder = some k := by
  unfold Sound at h
  cases hpc : call.pc with
  | locking =>
    rw [hpc] at h
    simpa [CallPc.holds] using h.1
  | checking =>
    rw [hpc] at h
    simpa [CallPc.holds] using h.1
  | writing line =>
    rw [hpc] at h
    simpa [CallPc.holds] using h.1
  | reading =>
    rw [hpc] at h
    simpa [CallPc.holds] using h.1
  | returned answer =>
    rw [hpc] at h
    simpa [CallPc.holds] using h.1

theorem Sound.at_reading (h : t.Sound ends holder k call) (hpc : call.pc = .reading) :
    holder = some k ∧ t.sent.getLast? = some k ∧ t.scanner.Live maxTokenSize ∧
      ∃ line, ends.marshal call.request = some line ∧
        (t.Asked line ∨ ∃ response, t.Answered line response) := by
  unfold Sound at h
  rw [hpc] at h
  exact h

theorem Sound.at_returned {answer : Answer} (h : t.Sound ends holder k call)
    (hpc : call.pc = .returned answer) :
    holder ≠ some k ∧ (t.Unsent k answer ∨ t.Own ends k call answer) := by
  unfold Sound at h
  rw [hpc] at h
  exact h

theorem sound_reading (hpc : call.pc = .reading) (hholder : holder = some k)
    (hlast : t.sent.getLast? = some k) (hlive : t.scanner.Live maxTokenSize) {line : List UInt8}
    (hline : ends.marshal call.request = some line)
    (hphase : t.Asked line ∨ ∃ response, t.Answered line response) :
    t.Sound ends holder k call := by
  unfold Sound
  rw [hpc]
  exact ⟨hholder, hlast, hlive, line, hline, hphase⟩

/-- What holds of a call does not hang on its context, nor on who else holds the lock. -/
theorem Sound.congr (h : t.Sound ends holder k call) (hrequest : call'.request = call.request)
    (htarget : call'.target = call.target) (hpc : call'.pc = call.pc)
    (hholder : holder' = some k ↔ holder = some k) : t.Sound ends holder' k call' := by
  have houtcome (response : List UInt8) : call'.outcome ends response = call.outcome ends response := by
    unfold Call.outcome Call.judge Call.accept
    rw [hrequest, htarget]
  unfold Sound Own at h ⊢
  rw [hpc]
  cases hplace : call.pc with
  | locking =>
    rw [hplace] at h
    exact ⟨fun hh => h.1 (hholder.mp hh), h.2⟩
  | checking =>
    rw [hplace] at h
    exact ⟨hholder.mpr h.1, h.2⟩
  | writing line =>
    rw [hplace, ← hrequest] at h
    exact ⟨hholder.mpr h.1, h.2⟩
  | reading =>
    rw [hplace, ← hrequest] at h
    exact ⟨hholder.mpr h.1, h.2⟩
  | returned answer =>
    rw [hplace] at h
    simp only [houtcome, hrequest]
    exact ⟨fun hh => h.1 (hholder.mp hh), h.2⟩

/-- A call that does not read minds neither what others write nor what is read or answered. -/
theorem Sound.grows (h : t.Sound ends holder k call) (hpc : call.pc ≠ .reading)
    (hsent : ∃ more, t'.sent = t.sent ++ more ∧ k ∉ more)
    (hserved : ∃ more, t'.served = t.served ++ more) : t'.Sound ends holder k call := by
  obtain ⟨more, hsent, hk⟩ := hsent
  obtain ⟨more', hserved⟩ := hserved
  have hunsent (h : k ∉ t.sent) : k ∉ t'.sent := by
    rw [hsent, List.mem_append, not_or]
    exact ⟨h, hk⟩
  unfold Sound at h ⊢
  cases hplace : call.pc with
  | locking =>
    rw [hplace] at h
    exact ⟨h.1, hunsent h.2⟩
  | checking =>
    rw [hplace] at h
    exact ⟨h.1, hunsent h.2⟩
  | writing line =>
    rw [hplace] at h
    exact ⟨h.1, hunsent h.2.1, h.2.2⟩
  | reading => exact (hpc hplace).elim
  | returned answer =>
    rw [hplace] at h
    refine ⟨h.1, ?_⟩
    rcases h.2 with hun | ⟨i, line, response, hi, hr, hline, hanswer⟩
    · exact Or.inl ⟨hunsent hun.1, hun.2⟩
    · refine Or.inr ⟨i, line, response, ?_, ?_, hline, hanswer⟩
      · obtain ⟨hlt, -⟩ := List.getElem?_eq_some_iff.mp hi
        rw [hsent, List.getElem?_append_left hlt]
        exact hi
      · obtain ⟨hlt, -⟩ := List.getElem?_eq_some_iff.mp hr
        rw [hserved, List.getElem?_append_left hlt]
        exact hr

/-- The traffic after a read of `n` bytes. -/
def read (t : Traffic) (scanner : Scanner UInt8) (n : Nat) : Traffic :=
  { t with scanner := scanner.feed (t.stdout.take n), stdout := t.stdout.drop n }

/-- While the request is under way, the scanner waits. -/
theorem Asked.waits {line : List UInt8} (h : t.Asked line) (hlive : t.scanner.Live maxTokenSize) :
    ∃ room scanner, t.scanner.poll maxTokenSize newline carriage = (.wants room, scanner) ∧
      ∀ n, (t.read scanner (min room n)).Asked line ∧
        (t.read scanner (min room n)).scanner.Live maxTokenSize := by
  have hheld : newline ∉ t.scanner.held := by simp [h.held]
  have hroom : t.scanner.held.length < maxTokenSize := by simp [h.held, maxTokenSize]
  obtain ⟨room, scanner, hfill, -, hsame, hfeed⟩ := Scanner.fill_wants hlive hroom
  refine ⟨room, scanner, (Scanner.poll_fill hlive hheld).trans hfill, fun n => ?_⟩
  have empty (m : Nat) : t.stdout.take m = [] := by rw [h.stdout, List.take_nil]
  refine ⟨⟨h.even, h.fits, h.stdin, ?_, ?_⟩, ?_⟩
  · show t.stdout.drop (min room n) = []
    rw [h.stdout, List.drop_nil]
  · show scanner.held ++ t.stdout.take (min room n) = []
    rw [empty, hsame, h.held, List.append_nil]
  · show (scanner.feed (t.stdout.take (min room n))).Live maxTokenSize
    rw [empty]
    exact hfeed [] (Nat.zero_le room)

/-- Once Core has answered, one round of the scan reads more of the answer, or comes to its end, or
finds it too long. -/
theorem Answered.polled {line response : List UInt8} (h : t.Answered line response)
    (hlive : t.scanner.Live maxTokenSize) :
    (∃ scanner, t.scanner.poll maxTokenSize newline carriage =
        (.token (Scanner.dropCr carriage response), scanner) ∧ response.length < maxTokenSize ∧
        scanner.Live maxTokenSize ∧ scanner.held = [] ∧ t.stdout = []) ∨
    (∃ room scanner, t.scanner.poll maxTokenSize newline carriage = (.wants room, scanner) ∧
        0 < room ∧ t.stdout ≠ [] ∧
        ∀ n, (t.read scanner (min room n)).Answered line response ∧
          (t.read scanner (min room n)).scanner.Live maxTokenSize) ∨
    (∃ scanner, t.scanner.poll maxTokenSize newline carriage = (.stop, scanner) ∧
        maxTokenSize ≤ response.length ∧ scanner.tooLong = true ∧ scanner.held ≠ [] ∧
        newline ∉ scanner.held) := by
  rcases Scanner.poll_stream hlive h.stream h.oneLine with
    ⟨scanner, hpoll, hfits, hlive', hrest⟩ | ⟨room, scanner, hpoll, hpos, hsame, hne, hfeed⟩ |
    ⟨scanner, hpoll, hlong, hdead, hheld, -⟩
  · obtain ⟨hempty, hout⟩ := List.append_eq_nil_iff.mp hrest
    exact Or.inl ⟨scanner, hpoll, hfits, hlive', hempty, hout⟩
  · refine Or.inr (Or.inl ⟨room, scanner, hpoll, hpos, hne, fun n => ?_⟩)
    have hlen : (t.stdout.take (min room n)).length ≤ room := by
      rw [List.length_take]
      omega
    refine ⟨⟨h.served, h.oneLine, h.stdin, ?_⟩, hfeed _ hlen⟩
    show scanner.held ++ t.stdout.take (min room n) ++ t.stdout.drop (min room n) =
      response ++ [newline]
    rw [hsame, List.append_assoc, List.take_append_drop, h.stream]
  · refine Or.inr (Or.inr ⟨scanner, hpoll, hlong, hdead, ?_, ?_⟩)
    · rw [hheld]
      intro hnil
      have hlen := congrArg List.length hnil
      rw [List.length_take, List.length_nil, Nat.min_eq_left hlong] at hlen
      exact absurd hlen (by decide)
    · rw [hheld]
      exact fun hmem => h.oneLine (List.mem_of_mem_take hmem)

/-- The last request and its response stand at the same place. -/
theorem Answered.own {line response : List UInt8} (h : t.Answered line response)
    (hlast : t.sent.getLast? = some k) (hline : ends.marshal call.request = some line) :
    t.Own ends k call (call.outcome ends response) := by
  obtain ⟨earlier, hserved, hlen, -⟩ := h.served
  refine ⟨earlier.length, line, response, ?_, ?_, hline, rfl⟩
  · rw [List.getLast?_eq_getElem?, ← hlen, Nat.add_sub_cancel] at hlast
    exact hlast
  · rw [hserved, List.getElem?_append_right (le_refl _), Nat.sub_self]
    rfl

theorem Answered.even {line response : List UInt8} (h : t.Answered line response) :
    t.served.length = t.sent.length := by
  obtain ⟨earlier, hserved, hlen, -⟩ := h.served
  rw [hserved, List.length_append, List.length_singleton]
  exact hlen

/-- An answer that has been read leaves nothing behind. -/
theorem Answered.ended {line response : List UInt8} (h : t.Answered line response)
    {scanner : Scanner UInt8} (hfits : response.length < maxTokenSize)
    (hlive : scanner.Live maxTokenSize) (hheld : scanner.held = []) (hout : t.stdout = []) :
    Still { t with scanner } := by
  refine ⟨h.even, h.stdin, fun _ => ⟨hout, hheld, hlive⟩, ?_⟩
  intro e he hlong
  obtain ⟨earlier, hserved, -, hearlier⟩ := h.served
  have hmem : e ∈ earlier ++ [(line, response)] := hserved ▸ he
  rcases List.mem_append.mp hmem with he | he
  · exact absurd (hearlier e he) (Nat.not_lt.mpr hlong)
  · obtain rfl := List.mem_singleton.mp he
    exact absurd hfits (Nat.not_lt.mpr hlong)

/-- One that is too long spoils the scanner. -/
theorem Answered.spoils {line response : List UInt8} (h : t.Answered line response)
    {scanner : Scanner UInt8} (hlong : maxTokenSize ≤ response.length)
    (hdead : scanner.tooLong = true) (hheld : scanner.held ≠ []) (hno : newline ∉ scanner.held) :
    Still { t with scanner } := by
  refine ⟨h.even, h.stdin, ?_, fun _ _ _ => ⟨hdead, hheld, hno⟩⟩
  intro hall
  obtain ⟨earlier, hserved, -, -⟩ := h.served
  have hmem : (line, response) ∈ t.served := by
    rw [hserved]
    simp
  exact absurd (hall (line, response) hmem) (Nat.not_lt.mpr hlong)

end Traffic

namespace Channel

variable (ends : Ends κ π)

def NoneReads (calls : List (Call π)) : Prop :=
  ∀ (k : Nat) call, calls[k]? = some call → call.pc ≠ .reading

/-- Requests and responses are paired by their order alone. -/
structure Paired (s : Channel κ π) : Prop where
  sound : ∀ (k : Nat) call, s.calls[k]? = some call → s.toTraffic.Sound ends s.holder k call
  known : ∀ k, s.holder = some k ∨ k ∈ s.sent → k < s.calls.length
  still : NoneReads s.calls → s.toTraffic.Still
  nodup : s.sent.Nodup

/-- The step writes no request after a response that was too long for the scanner. -/
def WritesClear (s : Channel κ π) : ChannelAct π → Prop
  | .go k _ => ∀ call line, s.calls[k]? = some call → call.pc = .writing line →
    ∀ e ∈ s.served, e.2.length < maxTokenSize
  | _ => True

variable {ends} {s : Channel κ π}

theorem paired_start (core : κ) : (start core : Channel κ π).Paired ends := by
  refine ⟨?_, ?_, ?_, List.nodup_nil⟩
  · intro k call hcall
    simp [start] at hcall
  · intro k hk
    simp [start] at hk
  · intro _
    refine ⟨rfl, rfl, fun _ => ⟨rfl, rfl, Scanner.live_new (by decide)⟩, ?_⟩
    intro e he
    simp [start] at he

/-- Only the holder reads. -/
theorem Paired.reader (h : s.Paired ends) {j k : Nat} {call : Call π} (hk : s.holder = some k)
    (hcall : s.calls[j]? = some call) (hj : j ≠ k) : call.pc ≠ .reading := by
  intro hpc
  have hj' := ((h.sound j call hcall).at_reading hpc).1
  rw [hk] at hj'
  exact hj (Option.some.inj hj').symm

/-- A call moves, and leaves the traffic alone. -/
theorem Paired.aside (h : s.Paired ends) {k : Nat} {call call' : Call π} {holder : Option Nat}
    (hcall : s.calls[k]? = some call) (hpc : call'.pc = .reading ↔ call.pc = .reading)
    (hholder : ∀ j, j ≠ k → (holder = some j ↔ s.holder = some j))
    (hsound : s.toTraffic.Sound ends holder k call') :
    Paired ends { s.setCall k call' with holder } := by
  obtain ⟨hk, -⟩ := List.getElem?_eq_some_iff.mp hcall
  have place := getElem?_set_of_moves hcall call'
  refine ⟨?_, ?_, ?_, h.nodup⟩
  · intro j other hother
    have hj : (s.calls.set k call')[j]? = some other := hother
    rw [place] at hj
    split_ifs at hj with hkj
    · cases hj
      subst hkj
      exact hsound
    · exact (h.sound j other hj).congr rfl rfl rfl (hholder j (Ne.symm hkj))
  · intro j hj
    show j < (s.calls.set k call').length
    rw [List.length_set]
    by_cases hjk : j = k
    · rw [hjk]
      exact hk
    · rcases hj with hj | hj
      · exact h.known j (Or.inl ((hholder j hjk).mp hj))
      · exact h.known j (Or.inr hj)
  · intro hnone
    apply h.still
    intro j other hother hreading
    by_cases hkj : k = j
    · subst hkj
      rw [hcall] at hother
      cases hother
      refine hnone k call' ?_ (hpc.mpr hreading)
      show (s.calls.set k call')[k]? = some call'
      rw [place, if_pos rfl]
    · refine hnone j other ?_ hreading
      show (s.calls.set k call')[j]? = some other
      rw [place, if_neg hkj]
      exact hother

/-- A call begins. -/
theorem Paired.begun (h : s.Paired ends) {call : Call π} (hpc : call.pc = .locking)
    (sequence : Nat) : Paired ends { s with sequence, calls := s.calls ++ [call] } := by
  have place {j : Nat} {other : Call π} (hj : (s.calls ++ [call])[j]? = some other) :
      s.calls[j]? = some other ∨ j = s.calls.length ∧ other = call := by
    rw [List.getElem?_append] at hj
    split_ifs at hj with hlt
    · exact Or.inl hj
    · rw [List.getElem?_singleton] at hj
      split_ifs at hj with hzero
      cases hj
      exact Or.inr ⟨by omega, rfl⟩
  refine ⟨?_, ?_, ?_, h.nodup⟩
  · intro j other hother
    rcases place hother with hold | ⟨hj, rfl⟩
    · exact h.sound j other hold
    · have fresh (hknown : s.holder = some j ∨ j ∈ s.sent) : False :=
        absurd (h.known j hknown) (by omega)
      unfold Traffic.Sound
      rw [hpc]
      exact ⟨fun hh => fresh (Or.inl hh), fun hs => fresh (Or.inr hs)⟩
  · intro j hj
    show j < (s.calls ++ [call]).length
    have hlt := h.known j hj
    rw [List.length_append]
    omega
  · intro hnone
    apply h.still
    intro j other hother
    obtain ⟨hlt, -⟩ := List.getElem?_eq_some_iff.mp hother
    apply hnone j other
    show (s.calls ++ [call])[j]? = some other
    rw [List.getElem?_append_left hlt]
    exact hother

/-- The holder moves with the traffic; the others do not read. -/
theorem Paired.moves (h : s.Paired ends) {k : Nat} {call call' : Call π} {holder : Option Nat}
    {traffic : Traffic} (hcall : s.calls[k]? = some call) (hk : s.holder = some k)
    (hholder : holder = some k ∨ holder = none)
    (hsent : ∃ more, traffic.sent = s.sent ++ more ∧ (∀ j ∈ more, j = k))
    (hserved : ∃ more, traffic.served = s.served ++ more)
    (hsound : traffic.Sound ends holder k call')
    (hstill : call'.pc ≠ .reading → traffic.Still) (hnodup : traffic.sent.Nodup) :
    Paired ends { s.setCall k call' with toTraffic := traffic, holder } := by
  obtain ⟨hlt, -⟩ := List.getElem?_eq_some_iff.mp hcall
  obtain ⟨more, hmore, honly⟩ := hsent
  have place := getElem?_set_of_moves hcall call'
  have other {j : Nat} (hj : j ≠ k) : ¬(holder = some j) ∧ ¬(s.holder = some j) := by
    constructor
    · intro hh
      rcases hholder with hk' | hnone
      · rw [hk'] at hh
        exact hj (Option.some.inj hh).symm
      · rw [hnone] at hh
        cases hh
    · intro hh
      rw [hk] at hh
      exact hj (Option.some.inj hh).symm
  refine ⟨?_, ?_, ?_, hnodup⟩
  · intro j other' hother
    have hj : (s.calls.set k call')[j]? = some other' := hother
    rw [place] at hj
    split_ifs at hj with hkj
    · cases hj
      subst hkj
      exact hsound
    · have hjk : j ≠ k := Ne.symm hkj
      have grown := (h.sound j other' hj).grows (h.reader hk hj hjk)
        ⟨more, hmore, fun hm => hjk (honly j hm)⟩ hserved
      exact grown.congr rfl rfl rfl (iff_of_false (other hjk).1 (other hjk).2)
  · intro j hj
    show j < (s.calls.set k call').length
    rw [List.length_set]
    by_cases hjk : j = k
    · rw [hjk]
      exact hlt
    · rcases hj with hj | hj
      · exact ((other hjk).1 hj).elim
      · have hmem : j ∈ s.sent ++ more := hmore ▸ hj
        rcases List.mem_append.mp hmem with hm | hm
        · exact h.known j (Or.inr hm)
        · exact (hjk (honly j hm)).elim
  · intro hnone
    apply hstill
    apply hnone k
    show (s.calls.set k call')[k]? = some call'
    rw [place, if_pos rfl]

theorem setCall_self {k : Nat} {call : Call π} (hcall : s.calls[k]? = some call) :
    s.setCall k call = s := by
  obtain ⟨hlt, hget⟩ := List.getElem?_eq_some_iff.mp hcall
  unfold setCall
  rw [← hget, List.set_getElem_self]

/-- A round of the scan of the call that reads. -/
theorem Paired.scanned (h : s.Paired ends) {k : Nat} {choice : Choice} {call : Call π}
    (hcall : s.calls[k]? = some call) (hpc : call.pc = .reading) :
    (s.goReading ends k choice call).Paired ends := by
  obtain ⟨hk, hlast, hlive, line, hline, hphase⟩ := (h.sound k call hcall).at_reading hpc
  have keeps : ∃ more, s.served = s.served ++ more := ⟨[], (List.append_nil _).symm⟩
  have keepsSent : ∃ more, s.sent = s.sent ++ more ∧ ∀ j ∈ more, j = k :=
    ⟨[], (List.append_nil _).symm, by simp⟩
  -- a read leaves the call where it is
  have reads {scanner : Scanner UInt8} {n : Nat}
      (hphase' : (s.read scanner n).Asked line ∨ ∃ response, (s.read scanner n).Answered line response)
      (hlive' : (s.read scanner n).scanner.Live maxTokenSize) :
      Paired ends { s with
        scanner := scanner.feed (s.stdout.take n), stdout := s.stdout.drop n } := by
    have moved := @Paired.moves _ _ _ _ h _ _ call s.holder (s.read scanner n) hcall hk
      (Or.inl hk) keepsSent keeps
      (Traffic.sound_reading hpc hk hlast hlive' hline hphase') (fun hh => (hh hpc).elim) h.nodup
    rw [setCall_self hcall] at moved
    exact moved
  unfold Channel.goReading
  rcases hphase with hasked | ⟨response, hanswered⟩
  · obtain ⟨room, scanner, hpoll, hwaits⟩ := hasked.waits hlive
    obtain ⟨hasked', hlive'⟩ := hwaits (max 1 choice.bytes)
    rw [hpoll]
    exact reads (Or.inl hasked') hlive'
  · have hown := hanswered.own hlast hline
    rcases hanswered.polled hlive with ⟨scanner, hpoll, hfits, hlive', hheld, hout⟩ |
      ⟨room, scanner, hpoll, -, -, hreads⟩ | ⟨scanner, hpoll, hlong, hdead, hheld, hno⟩
    · have answer : call.judge ends (Scanner.dropCr carriage response) =
          call.outcome ends response := by
        unfold Call.outcome
        rw [if_pos hfits]
      rw [hpoll]
      dsimp only
      rw [answer]
      exact h.moves hcall hk (Or.inr rfl) keepsSent keeps ⟨nofun, Or.inr hown⟩
        (fun _ => hanswered.ended hfits hlive' hheld hout) h.nodup
    · obtain ⟨hanswered', hlive'⟩ := hreads (max 1 choice.bytes)
      rw [hpoll]
      exact reads (Or.inr ⟨response, hanswered'⟩) hlive'
    · have answer : Answer.unavailable .tooLong = call.outcome ends response := by
        unfold Call.outcome
        rw [if_neg (Nat.not_lt.mpr hlong)]
      rw [hpoll]
      dsimp only
      rw [answer]
      exact h.moves hcall hk (Or.inr rfl) keepsSent keeps ⟨nofun, Or.inr hown⟩
        (fun _ => hanswered.spoils hlong hdead hheld hno) h.nodup

/-- A step of a call, which writes only where all answers so far have fitted the scanner. -/
theorem Paired.went (h : s.Paired ends) {k : Nat} {choice : Choice}
    {call : Call π} (hcall : s.calls[k]? = some call)
    (hclear : ∀ line, call.pc = .writing line → ∀ e ∈ s.served, e.2.length < maxTokenSize) :
    (s.go ends k choice call).Paired ends := by
  have hsound := h.sound k call hcall
  unfold Traffic.Sound at hsound
  unfold Channel.go
  cases hpc : call.pc with
  | locking =>
    rw [hpc] at hsound
    dsimp only at hsound ⊢
    split_ifs with hlocks hcancelled
    · refine h.aside hcall (by simp [hpc]) ?_ ⟨rfl, hsound.2⟩
      intro j hj
      rw [hlocks.1]
      exact iff_of_false (fun hh => hj (Option.some.inj hh).symm) nofun
    · exact h.aside hcall (by simp [hpc]) (fun _ _ => Iff.rfl)
        ⟨hsound.1, Or.inl ⟨hsound.2, Or.inl rfl⟩⟩
    · exact h
  | checking =>
    rw [hpc] at hsound
    dsimp only at hsound ⊢
    have free (j : Nat) (hj : j ≠ k) : (none : Option Nat) = some j ↔ s.holder = some j := by
      rw [hsound.1]
      exact iff_of_false nofun (fun hh => hj (Option.some.inj hh).symm)
    split_ifs with hcancelled
    · exact h.aside hcall (by simp [hpc]) free ⟨nofun, Or.inl ⟨hsound.2, Or.inl rfl⟩⟩
    · cases hline : ends.marshal call.request with
      | none => exact h.aside hcall (by simp [hpc]) free ⟨nofun, Or.inl ⟨hsound.2, Or.inr rfl⟩⟩
      | some line =>
        exact h.aside hcall (by simp [hpc]) (fun _ _ => Iff.rfl) ⟨hsound.1, hsound.2, hline⟩
  | writing line =>
    rw [hpc] at hsound
    dsimp only at hsound ⊢
    obtain ⟨hk, hunsent, hline⟩ := hsound
    have hnone : NoneReads s.calls := by
      intro j other hother
      by_cases hjk : j = k
      · subst hjk
        rw [hcall] at hother
        cases hother
        simp [hpc]
      · exact h.reader hk hother hjk
    have still := h.still hnone
    have fits := hclear line hpc
    obtain ⟨hout, hheld, hlive⟩ := still.clear fits
    refine h.moves hcall hk (Or.inl hk) ⟨[k], rfl, by simp⟩ ⟨[], (List.append_nil _).symm⟩ ?_
      (fun hh => (hh rfl).elim) ?_
    · refine ⟨hk, List.getLast?_concat, hlive, line, hline, Or.inl ⟨?_, fits, ?_, hout, hheld⟩⟩
      · show s.served.length + 1 = (s.sent ++ [k]).length
        rw [still.even, List.length_append, List.length_singleton]
      · show s.stdin ++ (line ++ [newline]) = line ++ [newline]
        rw [still.stdin, List.nil_append]
    · exact List.nodup_append.mpr ⟨h.nodup, List.nodup_singleton k, by
        intro a ha b hb hab
        rw [List.mem_singleton] at hb
        exact hunsent (hb ▸ hab ▸ ha)⟩
  | reading => exact h.scanned hcall hpc
  | returned answer => exact h

/-- Core reads the one line that is under way, and answers it. -/
theorem serveLine_asked {line : List UInt8} (h : s.toTraffic.Asked line) (hline : newline ∉ line) :
    s.serveLine ends = { s with
      core := (ends.serve s.core (Scanner.dropCr carriage line)).1
      stdin := []
      stdout := (ends.serve s.core (Scanner.dropCr carriage line)).2 ++ [newline]
      served := s.served ++ [(line, (ends.serve s.core (Scanner.dropCr carriage line)).2)] } := by
  have index : s.stdin.idxOf newline = line.length := by
    rw [h.stdin, List.idxOf_append_of_notMem hline, List.idxOf_cons_self, Nat.add_zero]
  have whole : s.stdin.take line.length = line := by
    rw [h.stdin, List.take_left]
  have gone : s.stdin.drop (line.length + 1) = [] := by
    rw [h.stdin]
    simp
  unfold serveLine
  rw [if_pos (by simp [h.stdin]), index, whole, gone, h.stdout]
  rfl

/-- Core answers the line of the call that reads: there is no other. -/
theorem Paired.lineServed (hone : OneLine ends) (h : s.Paired ends) :
    (s.serveLine ends).Paired ends := by
  by_cases hcome : newline ∈ s.stdin
  · by_cases hnone : NoneReads s.calls
    · rw [(h.still hnone).stdin] at hcome
      cases hcome
    · unfold NoneReads at hnone
      push Not at hnone
      obtain ⟨k, call, hcall, hpc⟩ := hnone
      obtain ⟨hk, hlast, hlive, line, hline, hphase⟩ := (h.sound k call hcall).at_reading hpc
      rcases hphase with hasked | ⟨response, hanswered⟩
      · rw [serveLine_asked hasked (hone.marshal _ _ hline)]
        have hresponse := hone.serve s.core (Scanner.dropCr carriage line)
        generalize ends.serve s.core (Scanner.dropCr carriage line) = answered at hresponse ⊢
        have hphase : Traffic.Answered { s.toTraffic with
            stdin := []
            stdout := answered.2 ++ [newline]
            served := s.served ++ [(line, answered.2)] } line answered.2 := by
          refine ⟨⟨s.served, rfl, hasked.even, hasked.fits⟩, hresponse, rfl, ?_⟩
          show s.scanner.held ++ (answered.2 ++ [newline]) = answered.2 ++ [newline]
          rw [hasked.held, List.nil_append]
        have moved := @Paired.moves _ _ _ _ h _ _ call s.holder
          { s.toTraffic with
            stdin := []
            stdout := answered.2 ++ [newline]
            served := s.served ++ [(line, answered.2)] } hcall hk (Or.inl hk)
          ⟨[], (List.append_nil _).symm, by simp⟩ ⟨_, rfl⟩
          (Traffic.sound_reading hpc hk hlast hlive hline (Or.inr ⟨_, hphase⟩))
          (fun hh => (hh hpc).elim) h.nodup
        rw [setCall_self hcall] at moved
        exact ⟨moved.sound, moved.known, moved.still, moved.nodup⟩
      · rw [hanswered.stdin] at hcome
        cases hcome
  · unfold Channel.serveLine
    rw [if_neg hcome]
    exact h

theorem Paired.stepped (hone : OneLine ends) (h : s.Paired ends) {act : ChannelAct π}
    (hclear : s.WritesClear act) : (step ends s act).Paired ends := by
  cases act with
  | call method params target => exact h.begun rfl _
  | cancel k =>
    cases hcall : s.calls[k]? with
    | none =>
      simp only [Channel.step, hcall]
      exact h
    | some call =>
      simp only [Channel.step, hcall]
      exact h.aside hcall Iff.rfl (fun _ _ => Iff.rfl)
        ((h.sound k call hcall).congr rfl rfl rfl Iff.rfl)
  | go k choice =>
    cases hcall : s.calls[k]? with
    | none =>
      simp only [Channel.step, hcall]
      exact h
    | some call =>
      simp only [Channel.step, hcall]
      exact h.went hcall (fun line hpc => hclear call line hcall hpc)
  | serve => exact h.lineServed hone

theorem Paired.ran (hone : OneLine ends) (h : s.Paired ends) {acts : List (ChannelAct π)}
    (hclear : Along (Channel.step ends) WritesClear s acts) :
    (Framework.run (Channel.step ends) s acts).Paired ends :=
  run_invariant (fun s => s.Paired ends) (fun _ _ h hclear => h.stepped hone hclear) h hclear

end Channel

end AdbControl.Server.CoreIpc
