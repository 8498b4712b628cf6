import AdbControl.Framework.History
import AdbControl.Framework.Program
import AdbControl.Framework.Threads

/-! Calls of programs by several threads, each call under the lock of its key: what the threads do
under one key is one call after the other, and each does what its program says. -/

namespace AdbControl.Framework

variable {ι δ κ ρ α : Type}

/-- A kind of calls: under which lock each runs, if under one, and what it does. -/
structure Calls (ι δ κ ρ α : Type) where
  key : ι → Option δ
  program : ι → Program κ ρ α

namespace Calls

/-- Where a thread is; `inside` has what is left of its call. -/
inductive Place (ι κ ρ α : Type)
  | out
  | waiting (i : ι)
  | inside (i : ι) (rest : Program κ ρ α)

inductive Act (ι ρ : Type)
  | call (k : Nat) (i : ι)
  | enter (k : Nat)
  | answer (k : Nat) (r : ρ)
  | leave (k : Nat)

inductive Event (ι κ ρ α : Type)
  | entered (k : Nat) (i : ι)
  | gave (k : Nat) (i : ι) (c : κ) (r : ρ)
  | left (k : Nat) (i : ι) (result : α)

def Event.call : Event ι κ ρ α → ι
  | entered _ i | gave _ i _ _ | left _ i _ => i

abbrev State (ι κ ρ α : Type) := List (Place ι κ ρ α)

variable (C : Calls ι δ κ ρ α) [DecidableEq δ]

/-- The thread is in a call under the lock of `d`. -/
def holds (d : δ) : Place ι κ ρ α → Bool
  | .inside i _ => C.key i = some d
  | _ => false

def free (s : State ι κ ρ α) (i : ι) : Bool := (C.key i).all fun d => s.all fun place => !C.holds d place

def step (s : State ι κ ρ α) : Act ι ρ → State ι κ ρ α
  | .call k i =>
    match s[k]? with
    | some .out => s.set k (.waiting i)
    | _ => s
  | .enter k =>
    match s[k]? with
    | some (.waiting i) => if C.free s i then s.set k (.inside i (C.program i)) else s
    | _ => s
  | .answer k r =>
    match s[k]? with
    | some (.inside i (.ask _ next)) => s.set k (.inside i (next r))
    | _ => s
  | .leave k =>
    match s[k]? with
    | some (.inside _ (.done _)) => s.set k .out
    | _ => s

def events (s : State ι κ ρ α) : Act ι ρ → List (Event ι κ ρ α)
  | .call _ _ => []
  | .enter k =>
    match s[k]? with
    | some (.waiting i) => if C.free s i then [.entered k i] else []
    | _ => []
  | .answer k r =>
    match s[k]? with
    | some (.inside i (.ask c _)) => [.gave k i c r]
    | _ => []
  | .leave k =>
    match s[k]? with
    | some (.inside i (.done result)) => [.left k i result]
    | _ => []

def start (threads : Nat) : State ι κ ρ α := List.replicate threads .out

/-- All that a step can do -/
inductive Moves (s : State ι κ ρ α) : State ι κ ρ α → List (Event ι κ ρ α) → Prop
  | same : Moves s s []
  | called (k : Nat) (i : ι) (place : s[k]? = some .out) : Moves s (s.set k (.waiting i)) []
  | entered (k : Nat) (i : ι) (place : s[k]? = some (.waiting i)) (free : C.free s i = true) :
    Moves s (s.set k (.inside i (C.program i))) [.entered k i]
  | gave (k : Nat) (i : ι) (c : κ) (next : ρ → Program κ ρ α) (r : ρ)
    (place : s[k]? = some (.inside i (.ask c next))) :
    Moves s (s.set k (.inside i (next r))) [.gave k i c r]
  | left (k : Nat) (i : ι) (result : α) (place : s[k]? = some (.inside i (.done result))) :
    Moves s (s.set k .out) [.left k i result]

variable {C} {s s' : State ι κ ρ α} {h more : List (Event ι κ ρ α)} {d : δ} {i : ι} {k : Nat}

theorem step_moves (s : State ι κ ρ α) (act : Act ι ρ) : Moves C s (C.step s act) (C.events s act) := by
  cases act with
  | call k i =>
    simp only [step, events]
    split
    next hk => exact .called k i hk
    next => exact .same
  | enter k =>
    simp only [step, events]
    split
    next i hk =>
      split_ifs with hfree
      · exact .entered k i hk hfree
      · exact .same
    next => exact .same
  | answer k r =>
    simp only [step, events]
    split
    next i c next hk => exact .gave k i c next r hk
    next => exact .same
  | leave k =>
    simp only [step, events]
    split
    next i result hk => exact .left k i result hk
    next => exact .same

/-- What a call has done so far, at the end of the history -/
def Under (h : List (Event ι κ ρ α)) (k : Nat) (i : ι) (t : List (κ × ρ)) : Prop :=
  ∃ past, h = past ++ .entered k i :: t.map fun x => .gave k i x.1 x.2

/-- An event comes in its turn: a call begins after the end of the one before, and gives a command or
ends where its program does after what the call has done so far. -/
def InTurn (C : Calls ι δ κ ρ α) (h : List (Event ι κ ρ α)) : Event ι κ ρ α → Prop
  | .entered _ _ => h = [] ∨ ∃ past k i result, h = past ++ [.left k i result]
  | .gave k i c _ => ∃ t next, Under h k i t ∧ (C.program i).Trace t (.ask c next)
  | .left k i result => ∃ t, Under h k i t ∧ (C.program i).Trace t (.done result)

/-- Under one key, a call is under way and its thread is the only one inside, or none is. -/
inductive Turn (C : Calls ι δ κ ρ α) (d : δ) (s : State ι κ ρ α) (h : List (Event ι κ ρ α)) : Prop
  | empty (nobody : ∀ (j : Nat) (place : Place ι κ ρ α), s[j]? = some place → C.holds d place = false)
    (ended : h = [] ∨ ∃ past k i result, h = past ++ [.left k i result])
  | taken (k : Nat) (i : ι) (rest : Program κ ρ α) (t : List (κ × ρ))
    (place : s[k]? = some (.inside i rest)) (key : C.key i = some d) (under : Under h k i t)
    (trace : (C.program i).Trace t rest)
    (alone : ∀ (j : Nat) (place : Place ι κ ρ α), s[j]? = some place → C.holds d place = true → j = k)

theorem Under.gave {t : List (κ × ρ)} (hu : Under h k i t) (c : κ) (r : ρ) :
    Under (h ++ [.gave k i c r]) k i (t ++ [(c, r)]) := by
  obtain ⟨past, rfl⟩ := hu
  exact ⟨past, by simp⟩

theorem Under.last {past : List (Event ι κ ρ α)} {k' : Nat} {i' : ι} {c : κ} {r : ρ} {t : List (κ × ρ)}
    (hu : Under (past ++ [.gave k' i' c r]) k i t) : k = k' ∧ i = i' ∧ ∃ before, t = before ++ [(c, r)] := by
  obtain ⟨old, hold⟩ := hu
  rcases List.eq_nil_or_concat t with rfl | ⟨before, last, rfl⟩
  · obtain ⟨-, hlast⟩ := List.append_inj' hold rfl
    cases hlast
  · rw [List.concat_eq_append, List.map_append, ← List.cons_append, ← List.append_assoc] at hold
    obtain ⟨-, hlast⟩ := List.append_inj' hold rfl
    cases hlast
    exact ⟨rfl, rfl, before, by rw [List.concat_eq_append]⟩

/-- The part of the history under the lock of `d` -/
def on (C : Calls ι δ κ ρ α) (d : δ) (h : List (Event ι κ ρ α)) : List (Event ι κ ρ α) :=
  h.filter fun e => C.key e.call = some d

theorem on_append : on C d (h ++ more) = on C d h ++ on C d more := List.filter_append ..

theorem on_own {e : Event ι κ ρ α} (he : C.key e.call = some d) : on C d [e] = [e] :=
  List.filter_eq_self.mpr (List.forall_mem_singleton.mpr (decide_eq_true he))

theorem on_other {e : Event ι κ ρ α} (he : C.key e.call ≠ some d) : on C d [e] = [] := by
  refine List.filter_eq_nil_iff.mpr (List.forall_mem_singleton.mpr ?_)
  simpa using he

theorem key_of_mem {e : Event ι κ ρ α} (he : e ∈ on C d h) : C.key e.call = some d :=
  of_decide_eq_true (List.mem_filter.mp he).2

theorem holds_inside {rest : Program κ ρ α} (hkey : C.key i = some d) :
    C.holds d (.inside i rest) = true := decide_eq_true hkey

theorem not_holds_inside {rest : Program κ ρ α} (hkey : C.key i ≠ some d) :
    C.holds d (.inside i rest) = false := decide_eq_false hkey

/-- A thread that moves outside the lock of `d` leaves the turn there as it is. -/
theorem Turn.keep (ht : Turn C d s h) {old new : Place ι κ ρ α} (hplace : s[k]? = some old)
    (hold : C.holds d old = false) (hnew : C.holds d new = false) : Turn C d (s.set k new) h := by
  cases ht with
  | empty nobody ended =>
    refine .empty ?_ ended
    intro j place hj
    rcases getElem?_moved hj with ⟨rfl, rfl⟩ | ⟨-, hj⟩
    · exact hnew
    · exact nobody j place hj
  | taken k' i rest t place key under trace alone =>
    have hne : k ≠ k' := by
      rintro rfl
      obtain rfl : old = .inside i rest := Option.some.inj (hplace.symm.trans place)
      rw [holds_inside key] at hold
      cases hold
    refine .taken k' i rest t ?_ key under trace ?_
    · rwa [List.getElem?_set_ne hne]
    · intro j place' hj hholds
      rcases getElem?_moved hj with ⟨rfl, rfl⟩ | ⟨-, hj⟩
      · rw [hnew] at hholds
        cases hholds
      · exact alone j place' hj hholds

/-- The thread inside is the one whose turn it is. -/
theorem Turn.inside (ht : Turn C d s h) {rest : Program κ ρ α} (hplace : s[k]? = some (.inside i rest))
    (hkey : C.key i = some d) : ∃ t, Under h k i t ∧ (C.program i).Trace t rest ∧
      ∀ (j : Nat) (place : Place ι κ ρ α), s[j]? = some place → C.holds d place = true → j = k := by
  cases ht with
  | empty nobody ended =>
    have hfalse := nobody k _ hplace
    rw [holds_inside hkey] at hfalse
    cases hfalse
  | taken k' i' rest' t place key under trace alone =>
    obtain rfl : k = k' := alone k _ hplace (holds_inside hkey)
    cases hplace.symm.trans place
    exact ⟨t, under, trace, alone⟩

theorem alone_set {new : Place ι κ ρ α} (halone : ∀ (j : Nat) (place : Place ι κ ρ α),
    s[j]? = some place → C.holds d place = true → j = k) (j : Nat) (place : Place ι κ ρ α)
    (hj : (s.set k new)[j]? = some place) (hholds : C.holds d place = true) : j = k := by
  rcases getElem?_moved hj with ⟨rfl, -⟩ | ⟨-, hj⟩
  · rfl
  · exact halone j place hj hholds

theorem Moves.turn (hm : Moves C s s' more) (ht : Turn C d s h) :
    Turn C d s' (h ++ on C d more) ∧ EachAfter (fun pre e => InTurn C (h ++ pre) e) (on C d more) := by
  cases hm with
  | same =>
    rw [show on C d ([] : List (Event ι κ ρ α)) = [] from rfl, List.append_nil]
    exact ⟨ht, eachAfter_nil⟩
  | called k i place =>
    rw [show on C d ([] : List (Event ι κ ρ α)) = [] from rfl, List.append_nil]
    exact ⟨ht.keep place rfl rfl, eachAfter_nil⟩
  | entered k i place hfree =>
    by_cases hkey : C.key i = some d
    · rw [on_own (e := .entered k i) hkey]
      rw [free, hkey, Option.all_some, List.all_eq_true] at hfree
      have nobody (j : Nat) (other : Place ι κ ρ α) (hj : s[j]? = some other) : C.holds d other = false := by
        simpa using hfree other (List.mem_of_getElem? hj)
      have ended : h = [] ∨ ∃ past k i result, h = past ++ [.left k i result] := by
        cases ht with
        | empty _ ended => exact ended
        | taken k' i' rest t place' key _ _ _ =>
          have hfalse := nobody k' _ place'
          rw [holds_inside key] at hfalse
          cases hfalse
      refine ⟨.taken k i _ [] (getElem?_mover place _) hkey ⟨h, rfl⟩ .start ?_, ?_⟩
      · intro j other hj hholds
        rcases getElem?_moved hj with ⟨rfl, -⟩ | ⟨-, hj⟩
        · rfl
        · rw [nobody j other hj] at hholds
          cases hholds
      · rw [eachAfter_singleton, List.append_nil]
        exact ended
    · rw [on_other (e := .entered k i) hkey, List.append_nil]
      exact ⟨ht.keep place rfl (not_holds_inside hkey), eachAfter_nil⟩
  | gave k i c next r place =>
    by_cases hkey : C.key i = some d
    · obtain ⟨t, hunder, htrace, halone⟩ := ht.inside place hkey
      rw [on_own (e := .gave k i c r) hkey]
      refine ⟨.taken k i _ _ (getElem?_mover place _) hkey (hunder.gave c r) (.more htrace r)
        (alone_set halone), ?_⟩
      rw [eachAfter_singleton, List.append_nil]
      exact ⟨t, next, hunder, htrace⟩
    · rw [on_other (e := .gave k i c r) hkey, List.append_nil]
      exact ⟨ht.keep place (not_holds_inside hkey) (not_holds_inside hkey), eachAfter_nil⟩
  | left k i result place =>
    by_cases hkey : C.key i = some d
    · obtain ⟨t, hunder, htrace, halone⟩ := ht.inside place hkey
      rw [on_own (e := .left k i result) hkey]
      refine ⟨.empty ?_ (.inr ⟨h, k, i, result, rfl⟩), ?_⟩
      · intro j other hj
        rcases getElem?_moved hj with ⟨-, rfl⟩ | ⟨hne, hj⟩
        · rfl
        · exact Bool.eq_false_iff.mpr fun hholds => hne (halone j other hj hholds)
      · rw [eachAfter_singleton, List.append_nil]
        exact ⟨t, hunder, htrace⟩
    · rw [on_other (e := .left k i result) hkey, List.append_nil]
      exact ⟨ht.keep place (not_holds_inside hkey) rfl, eachAfter_nil⟩

/-- In every run, what happens under the lock of `d` comes in its turn. -/
theorem serial (C : Calls ι δ κ ρ α) (d : δ) (threads : Nat) (acts : List (Act ι ρ)) :
    EachAfter (InTurn C) (on C d (eventsOf C.step C.events (start threads) acts)) := by
  have hstart : Turn C d (start threads) [] := by
    refine .empty ?_ (.inl rfl)
    intro j place hj
    obtain rfl : place = .out := List.eq_of_mem_replicate (List.mem_of_getElem? hj)
    rfl
  have keep (s : State ι κ ρ α) (h : List (Event ι κ ρ α)) (act : Act ι ρ)
      (hs : Turn C d s (on C d h) ∧ EachAfter (InTurn C) (on C d h)) :
      Turn C d (C.step s act) (on C d (h ++ C.events s act)) ∧
        EachAfter (InTurn C) (on C d (h ++ C.events s act)) := by
    obtain ⟨hturn, hall⟩ := (step_moves s act).turn hs.1
    rw [on_append]
    exact ⟨hturn, eachAfter_append.mpr ⟨hs.2, hall⟩⟩
  exact (run_history (fun s h => Turn C d s (on C d h) ∧ EachAfter (InTurn C) (on C d h)) keep
    (h := []) acts ⟨hstart, eachAfter_nil⟩).2

omit [DecidableEq δ] in
/-- What every program keeps to, the calls keep to: each command after what its call has done so far, and
each result after all that its call has done. -/
theorem InTurn.holds {P : ι → List (κ × ρ) → κ → Prop} {Q : ι → List (κ × ρ) → α → Prop}
    (hprograms : ∀ i, (C.program i).Holds (P i) (Q i) []) {e : Event ι κ ρ α} (he : InTurn C h e) :
    match e with
    | .entered _ _ => True
    | .gave k i c _ => ∃ t, Under h k i t ∧ P i t c
    | .left k i result => ∃ t, Under h k i t ∧ Q i t result := by
  cases e with
  | entered k i => trivial
  | gave k i c r =>
    obtain ⟨t, next, hunder, htrace⟩ := he
    exact ⟨t, hunder, ((hprograms i).trace htrace).1⟩
  | left k i result =>
    obtain ⟨t, hunder, htrace⟩ := he
    exact ⟨t, hunder, (hprograms i).trace htrace⟩

end Calls

end AdbControl.Framework
