import AdbControl.Framework.History
import AdbControl.Framework.Threads

namespace AdbControl.Companion.NativeEngine

open Framework

/-- Where a thread is: `calling` has the read lock and is in a native call on a client; `connecting` has the
write lock and is in `nativeConnect`. -/
inductive Place
  | out
  | calling (client : Nat)
  | connecting
  deriving DecidableEq

/-- `JniNativeQuicEngine`; the clients are numbered as `nativeConnect` makes them. -/
structure Engine where
  handle : Option Nat
  next : Nat
  threads : List Place
  deriving DecidableEq

inductive Act
  /-- `send`, `poll` or what is done with a video stream: the read lock, and the native call -/
  | use (k : Nat)
  | done (k : Nat)
  /-- `connect` up to `nativeConnect` -/
  | connect (k : Nat)
  /-- `nativeConnect` gives a client, or throws. -/
  | connected (k : Nat) (ok : Bool)
  | close (k : Nat)

inductive Note
  | opened (client : Nat)
  | closed (client : Nat)
  | called (k client : Nat)
  | returned (k client : Nat)
  deriving DecidableEq

namespace Engine

def start (threads : Nat) : Engine := ⟨none, 0, List.replicate threads .out⟩

def readable (s : Engine) (k : Nat) : Bool := s.threads[k]? = some .out && decide (.connecting ∉ s.threads)

def writable (s : Engine) (k : Nat) : Bool :=
  s.threads[k]? = some .out && s.threads.all fun place => place = .out

def step (s : Engine) : Act → Engine
  | .use k =>
    match s.handle with
    | some client => if s.readable k then { s with threads := s.threads.set k (.calling client) } else s
    | none => s
  | .done k =>
    match s.threads[k]? with
    | some (.calling _) => { s with threads := s.threads.set k .out }
    | _ => s
  | .connect k => if s.writable k then { s with threads := s.threads.set k .connecting } else s
  | .connected k ok =>
    match s.threads[k]? with
    | some .connecting =>
      if ok then ⟨some s.next, s.next + 1, s.threads.set k .out⟩
      else { s with threads := s.threads.set k .out }
    | _ => s
  | .close k => if s.writable k then { s with handle := none } else s

def notes (s : Engine) : Act → List Note
  | .use k =>
    match s.handle with
    | some client => if s.readable k then [.called k client] else []
    | none => []
  | .done k =>
    match s.threads[k]? with
    | some (.calling client) => [.returned k client]
    | _ => []
  | .connect k | .close k => if s.writable k then s.handle.toList.map .closed else []
  | .connected k ok =>
    match s.threads[k]? with
    | some .connecting => if ok then [.opened s.next] else []
    | _ => []

/-- A connection that fails leaves the handle it found, so it is to find none. -/
def Fresh (s : Engine) : Act → Prop
  | .connected _ false => s.handle = none
  | _ => True

instance Fresh.decidable (s : Engine) : ∀ a, Decidable (Fresh s a)
  | .connected _ false => inferInstanceAs (Decidable (s.handle = none))
  | .connected _ true | .use _ | .done _ | .connect _ | .close _ => instDecidableTrue

end Engine

/-- What opens and closes the client -/
def about (client : Nat) : Note → Bool
  | .opened c | .closed c => c = client
  | _ => false

def Note.counts (client : Nat) : Note → Int
  | called _ c => if c = client then 1 else 0
  | returned _ c => if c = client then -1 else 0
  | _ => 0

/-- The calls on the client that are under way -/
def underWay (client : Nat) (h : List Note) : Int :=
  (h.map (Note.counts client)).sum

/-- Native code is called on a client that is open, and closes one that is open and not in use. -/
def Safe (h : List Note) : Note → Prop
  | .opened client => lastOf (about client) h = none
  | .closed client => lastOf (about client) h = some (.opened client) ∧ underWay client h = 0
  | .called _ client => lastOf (about client) h = some (.opened client)
  | .returned _ client => lastOf (about client) h = some (.opened client) ∧ 0 < underWay client h

namespace Engine

variable {s : Engine} {h : List Note} {k client : Nat}

theorem underWay_snoc (client : Nat) (h : List Note) (e : Note) :
    underWay client (h ++ [e]) = underWay client h + e.counts client := by
  simp [underWay]

/-- The engine in step with what native code has been told -/
structure Holding (s : Engine) (h : List Note) : Prop where
  handle : ∀ client, s.handle = some client → .connecting ∉ s.threads →
    lastOf (about client) h = some (.opened client)
  next : ∀ client, s.next ≤ client → lastOf (about client) h = none
  calls : ∀ client, underWay client h = s.threads.countP fun place => place = .calling client
  calling : ∀ (k client : Nat), s.threads[k]? = some (.calling client) →
    s.handle = some client ∧ .connecting ∉ s.threads
  connecting : ∀ (k : Nat), s.threads[k]? = some .connecting →
    ∀ (j : Nat) (place : Place), s.threads[j]? = some place → j ≠ k → place = .out

theorem holding_start (threads : Nat) : Holding (start threads) [] where
  handle client h := by cases h
  next _ _ := rfl
  calls client := by simp [start, underWay, List.countP_replicate]
  calling k client h := by
    have hout : Place.calling client = .out := List.eq_of_mem_replicate (List.mem_of_getElem? h)
    cases hout
  connecting k h := by
    have hout : Place.connecting = .out := List.eq_of_mem_replicate (List.mem_of_getElem? h)
    cases hout

theorem writable_iff : s.writable k = true ↔
    s.threads[k]? = some .out ∧ ∀ place ∈ s.threads, place = .out := by
  rw [writable, Bool.and_eq_true_iff, decide_eq_true_eq, List.all_eq_true]
  simp

/-- Nothing of the lock is held where a writer comes in. -/
theorem Holding.quiet (hs : Holding s h) (hk : s.writable k = true) :
    .connecting ∉ s.threads ∧ ∀ client, underWay client h = 0 := by
  obtain ⟨-, hout⟩ := writable_iff.mp hk
  constructor
  · intro hmem
    cases hout _ hmem
  · intro client
    rw [hs.calls, List.countP_eq_zero.mpr]
    · rfl
    · intro place hplace
      rw [hout place hplace]
      rintro ⟨⟩

/-- The handle's client, known to have been made -/
theorem Holding.lt_next (hs : Holding s h) (hclient : lastOf (about client) h = some (.opened client)) :
    client < s.next := by
  by_contra hle
  rw [hs.next client (Nat.not_lt.mp hle)] at hclient
  cases hclient

theorem not_mem_out (hk : s.threads[k]? = some .connecting) (hs : Holding s h) :
    .connecting ∉ s.threads.set k .out := by
  intro hmem
  obtain ⟨j, hj⟩ := List.mem_iff_getElem?.mp hmem
  rcases getElem?_moved hj with ⟨-, hout⟩ | ⟨hne, hj⟩
  · cases hout
  · cases hs.connecting k hk j _ hj hne

theorem lastOf_call {e : Note} (he : ∀ client, about client e = false) (client : Nat) (h : List Note) :
    lastOf (about client) (h ++ [e]) = lastOf (about client) h := by
  rw [lastOf_snoc, he]
  rfl

/-- A reader comes in, or goes. -/
theorem Holding.turn (hs : Holding s h) {old new : Place} {e : Note} (hk : s.threads[k]? = some old)
    (he : ∀ client, about client e = false) (hquiet : .connecting ∉ s.threads) (hnew : new ≠ .connecting)
    (hcalling : ∀ client, new = .calling client → s.handle = some client)
    (hcounts : ∀ client, e.counts client + (if old = .calling client then 1 else 0) =
      if new = .calling client then 1 else 0) :
    Holding { s with threads := s.threads.set k new } (h ++ [e]) := by
  have hquiet' : .connecting ∉ s.threads.set k new := by
    intro hmem
    obtain ⟨j, hj⟩ := List.mem_iff_getElem?.mp hmem
    rcases getElem?_moved hj with ⟨-, hsame⟩ | ⟨-, hj⟩
    · exact hnew hsame.symm
    · exact hquiet (List.mem_of_getElem? hj)
  refine ⟨?_, ?_, ?_, ?_, ?_⟩
  · intro client hclient _
    rw [lastOf_call he]
    exact hs.handle client hclient hquiet
  · intro client hclient
    rw [lastOf_call he]
    exact hs.next client hclient
  · intro client
    have hmoved := countP_moved (fun place => decide (place = .calling client)) hk new
    have hdelta := hcounts client
    simp only [decide_eq_true_eq] at hmoved
    rw [underWay_snoc, hs.calls]
    show _ = (((s.threads.set k new).countP fun place => decide (place = .calling client) : Nat) : Int)
    split_ifs at hmoved hdelta <;> omega
  · intro j client hj
    rcases getElem?_moved hj with ⟨-, hsame⟩ | ⟨-, hj⟩
    · exact ⟨hcalling client hsame.symm, hquiet'⟩
    · exact ⟨(hs.calling j client hj).1, hquiet'⟩
  · intro j hj
    exact absurd (List.mem_of_getElem? hj) hquiet'

/-- A writer closes the handle's client, if there is one. -/
theorem Holding.close (hs : Holding s h) (hk : s.writable k = true) :
    EachAfter (fun pre e => Safe (h ++ pre) e) (s.handle.toList.map .closed) ∧
    (∀ client, lastOf (about client) (h ++ s.handle.toList.map .closed) ≠ none → client < s.next) ∧
      ∀ client, underWay client (h ++ s.handle.toList.map .closed) = 0 := by
  obtain ⟨hquiet, hnone⟩ := hs.quiet hk
  cases hhandle : s.handle with
  | none =>
    refine ⟨eachAfter_nil, ?_, ?_⟩
    · intro client hclient
      rw [Option.toList_none, List.map_nil, List.append_nil] at hclient
      by_contra hle
      exact hclient (hs.next client (Nat.not_lt.mp hle))
    · intro client
      rw [Option.toList_none, List.map_nil, List.append_nil]
      exact hnone client
  | some closed =>
    have hopen := hs.handle closed hhandle hquiet
    refine ⟨eachAfter_singleton.mpr ?_, ?_, ?_⟩
    · rw [List.append_nil]
      exact ⟨hopen, hnone closed⟩
    · intro client hclient
      rw [Option.toList_some, List.map_singleton, lastOf_snoc] at hclient
      by_contra hle
      refine hclient ?_
      have hne : closed ≠ client := (Nat.lt_of_lt_of_le (hs.lt_next hopen) (Nat.not_lt.mp hle)).ne
      rw [show about client (.closed closed) = false from decide_eq_false hne]
      exact hs.next client (Nat.not_lt.mp hle)
    · intro client
      rw [Option.toList_some, List.map_singleton, underWay_snoc, hnone]
      rfl

theorem Holding.step (hs : Holding s h) (a : Act) (hfresh : Fresh s a) :
    Holding (step s a) (h ++ notes s a) ∧ EachAfter (fun pre e => Safe (h ++ pre) e) (notes s a) := by
  have hsame : Holding s (h ++ []) := by rwa [List.append_nil]
  cases a with
  | use k =>
    simp only [Engine.step, notes]
    split
    next client hclient =>
      split_ifs with hk
      · obtain ⟨hout, hquiet⟩ := Bool.and_eq_true_iff.mp hk
        have hquiet := of_decide_eq_true hquiet
        refine ⟨hs.turn (of_decide_eq_true hout) (fun _ => rfl) hquiet (by rintro ⟨⟩) ?_ ?_, ?_⟩
        · rintro _ ⟨⟩
          exact hclient
        · intro other
          simp [Note.counts]
        · rw [eachAfter_singleton, List.append_nil]
          exact hs.handle client hclient hquiet
      · exact ⟨hsame, eachAfter_nil⟩
    next => exact ⟨hsame, eachAfter_nil⟩
  | done k =>
    simp only [Engine.step, notes]
    split
    next client hk =>
      obtain ⟨hclient, hquiet⟩ := hs.calling k client hk
      refine ⟨hs.turn hk (fun _ => rfl) hquiet (by rintro ⟨⟩) (by rintro _ ⟨⟩) ?_, ?_⟩
      · intro other
        by_cases hother : client = other <;> simp [Note.counts, hother]
      · rw [eachAfter_singleton, List.append_nil]
        refine ⟨hs.handle client hclient hquiet, ?_⟩
        rw [hs.calls]
        refine Int.natCast_pos.mpr (List.countP_pos_iff.mpr ⟨_, List.mem_of_getElem? hk, ?_⟩)
        exact decide_eq_true rfl
    next => exact ⟨hsame, eachAfter_nil⟩
  | connect k =>
    simp only [Engine.step, notes]
    split_ifs with hk
    · obtain ⟨hsafe, hnext, hcalls⟩ := hs.close hk
      obtain ⟨hout, hall⟩ := writable_iff.mp hk
      refine ⟨⟨?_, ?_, ?_, ?_, ?_⟩, hsafe⟩
      · intro client _ hquiet
        exact absurd (List.mem_of_getElem? (getElem?_mover hout _)) hquiet
      · intro client hclient
        by_contra hsome
        exact Nat.not_lt.mpr hclient (hnext client hsome)
      · intro client
        rw [hcalls, List.countP_eq_zero.mpr]
        · rfl
        · intro place hplace
          rcases List.mem_or_eq_of_mem_set hplace with hplace | rfl
          · rw [hall place hplace]
            rintro ⟨⟩
          · rintro ⟨⟩
      · intro j client hj
        rcases getElem?_moved hj with ⟨-, hbad⟩ | ⟨-, hj⟩
        · cases hbad
        · cases hall _ (List.mem_of_getElem? hj)
      · intro j hj i place hi hne
        rcases getElem?_moved hi with ⟨rfl, -⟩ | ⟨-, hi⟩
        · rcases getElem?_moved hj with ⟨rfl, -⟩ | ⟨-, hj⟩
          · exact absurd rfl hne
          · cases hall _ (List.mem_of_getElem? hj)
        · exact hall place (List.mem_of_getElem? hi)
    · exact ⟨hsame, eachAfter_nil⟩
  | connected k ok =>
    simp only [Engine.step, notes]
    split
    next hk =>
      have hquiet := not_mem_out hk hs
      have hcount (client : Nat) : (s.threads.set k .out).countP (fun place => place = .calling client) =
          s.threads.countP fun place => place = .calling client := by
        have hmoved := countP_moved (fun place => decide (place = .calling client)) hk .out
        simpa using hmoved
      have hcalling (j client : Nat) (hj : (s.threads.set k .out)[j]? = some (.calling client)) :
          s.threads[j]? = some (.calling client) := by
        rcases getElem?_moved hj with ⟨-, hbad⟩ | ⟨-, hj⟩
        · cases hbad
        · exact hj
      have hnobody (j client : Nat) : (s.threads.set k .out)[j]? ≠ some (.calling client) := by
        intro hj
        exact (hs.calling j client (hcalling j client hj)).2 (List.mem_of_getElem? hk)
      cases ok with
      | true =>
        refine ⟨⟨?_, ?_, ?_, ?_, ?_⟩, ?_⟩
        · rintro client ⟨⟩ _
          rw [if_pos rfl, lastOf_snoc, show about s.next (.opened s.next) = true from decide_eq_true rfl]
          rfl
        · intro client hclient
          rw [if_pos rfl, lastOf_snoc, show about client (.opened s.next) = false from
            decide_eq_false (Nat.ne_of_lt hclient)]
          exact hs.next client (Nat.le_of_succ_le hclient)
        · intro client
          rw [if_pos rfl, underWay_snoc, hs.calls]
          exact congrArg Nat.cast (hcount client).symm
        · intro j client hj
          exact absurd hj (hnobody j client)
        · intro j hj
          exact absurd (List.mem_of_getElem? hj) hquiet
        · rw [if_pos rfl, eachAfter_singleton, List.append_nil]
          exact hs.next s.next le_rfl
      | false =>
        refine ⟨⟨?_, ?_, ?_, ?_, ?_⟩, eachAfter_nil⟩
        · intro client hclient
          have hnone : s.handle = none := hfresh
          rw [show (_ : Engine).handle = s.handle from rfl, hnone] at hclient
          cases hclient
        · simpa using hs.next
        · intro client
          rw [if_neg Bool.false_ne_true, List.append_nil, hs.calls]
          exact congrArg Nat.cast (hcount client).symm
        · intro j client hj
          exact absurd hj (hnobody j client)
        · intro j hj
          exact absurd (List.mem_of_getElem? hj) hquiet
    next => exact ⟨hsame, eachAfter_nil⟩
  | close k =>
    simp only [Engine.step, notes]
    split_ifs with hk
    · obtain ⟨hsafe, hnext, hcalls⟩ := hs.close hk
      obtain ⟨hquiet, hnone⟩ := hs.quiet hk
      refine ⟨⟨?_, ?_, ?_, ?_, hs.connecting⟩, hsafe⟩
      · intro client hclient
        cases hclient
      · intro client hclient
        by_contra hsome
        exact Nat.not_lt.mpr hclient (hnext client hsome)
      · intro client
        rw [hcalls, ← hnone client]
        exact hs.calls client
      · intro j client hj
        cases (writable_iff.mp hk).2 _ (List.mem_of_getElem? hj)
    · exact ⟨hsame, eachAfter_nil⟩

/-- In every run in which no connection fails on an engine that was connected, native code is called on open
clients only, and a client is closed once and when no call on it is under way. -/
theorem native_calls_safe (threads : Nat) (acts : List Act) (hfresh : Along step Fresh (start threads) acts) :
    EachAfter Safe (eventsOf step notes (start threads) acts) := by
  have keep (s : Engine) (h : List Note) (a : Act) (hs : Holding s h ∧ EachAfter Safe h) (ha : Fresh s a) :
      Holding (step s a) (h ++ notes s a) ∧ EachAfter Safe (h ++ notes s a) := by
    obtain ⟨hholding, hsafe⟩ := hs.1.step a ha
    exact ⟨hholding, eachAfter_append.mpr ⟨hs.2, hsafe⟩⟩
  exact (run_history_along (fun s h => Holding s h ∧ EachAfter Safe h) keep (h := [])
    ⟨holding_start threads, eachAfter_nil⟩ hfresh).2

theorem native_calls_safe_two_readers : EachAfter Safe
    [.opened 0, .called 0 0, .called 1 0, .returned 1 0, .returned 0 0, .closed 0, .opened 1] :=
  native_calls_safe 2 [.connect 0, .connected 0 true, .use 0, .use 1, .close 1, .done 1, .connect 1, .done 0,
    .connect 1, .connected 1 true] (by decide)

/-- A connection that fails leaves the client that it closed in the handle. -/
theorem failed_connect_dangles : ¬EachAfter Safe (eventsOf step notes (start 1)
    [.connect 0, .connected 0 true, .connect 0, .connected 0 false, .use 0]) := by
  intro hall
  have hcalled := hall [.opened 0, .closed 0] (.called 0 0) [] rfl
  simp [Safe, lastOf, about] at hcalled

end Engine

end AdbControl.Companion.NativeEngine
