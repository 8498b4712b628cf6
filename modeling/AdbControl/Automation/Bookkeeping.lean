import AdbControl.Automation.Service

namespace AdbControl.Automation

open Framework

namespace RunState

variable {r r' : RunState} {now k : Nat} {ok : Bool} {thread : Thread}

/-- The goroutine of the run has ended, or the run was dropped before it had one. -/
def Gone (r : RunState) : Prop := r.execute = .returned ∨ r.execute = .discarded

/-- The first transition of `execute` is allowed, which no stop has come before, and is saved. -/
def Launches (r : RunState) (thread : Thread) (ok : Bool) : Prop :=
  thread = .execute →
    match r.execute with
    | .starting => r.run.status = .running ∨ transitions r.run.status .running = true
    | .startSaving _ => ok = true
    | _ => True

theorem releases_execute : r.releases .execute = true ↔
    r.execute = .leaving ∨ r.execute = .discarding := by
  simp [releases]

theorem turn_stays (r : RunState) (index : Nat) :
    r.turn index ≠ .returned ∧ r.turn index ≠ .discarded := by
  unfold turn
  split_ifs <;> exact ⟨nofun, nofun⟩

/-- A run is gone when it was before, when it has removed its entry, or when it was not launched. -/
theorem Advances.gone_iff (h : r.Advances now ok r') :
    r'.Gone ↔ r.Gone ∨ r.releases .execute = true ∨ ¬r.Launches .execute ok := by
  rw [releases_execute]
  simp only [Gone, Launches, forall_const]
  cases h with
  | refused hpc hsame hno => simp [hpc, hsame, hno]
  | unstarted hpc hok => simp [hpc, hok]
  | starts hpc hyes => simp [hpc, hyes]
  | runs hpc hsame => simp [hpc, hsame, r.turn_stays 0]
  | started hpc hok => simp [hpc, hok, r.turn_stays 0]
  | @updated index snapshot hpc hok => simp [hpc, r.turn_stays (index + 1)]
  | looks hpc hpc' | acted hpc hpc' => rcases hpc' with rfl | rfl <;> simp [hpc]
  | heeds hpc =>
    revert hpc
    cases r.execute <;> simp [ExecutePc.heeds]
  | ends hpc | saves hpc =>
    revert hpc
    cases r.execute <;> simp [ExecutePc.end?]
  | rests hpc =>
    revert hpc
    cases r.execute <;> simp [ExecutePc.heeds]
  | creates hpc | created hpc | drops hpc | discards hpc | wakes hpc | acts hpc
  | updates hpc | unsaved hpc | marks hpc | leaves hpc | releases hpc => simp [hpc]

theorem go_gone_iff (r : RunState) (now : Nat) (ok : Bool) (thread : Thread) :
    (r.go now ok thread).Gone ↔ r.Gone ∨ r.releases thread = true ∨ ¬r.Launches thread ok := by
  cases thread with
  | execute => exact (r.stepExecute_advances now ok).gone_iff
  | call k =>
    have pc : (r.go now ok (.call k)).execute = r.execute := (r.stepCall_advances now k ok).execute
    simp [Gone, pc, releases, Launches]

end RunState

namespace ServiceState

variable {tasks : TaskStore}

/-- The map has no entry for a run that is gone. -/
def Released (s : ServiceState) : Prop :=
  ∀ (key : String) (n : Nat) (r : RunState), s.controls[key]? = some n → s.runs[n]? = some r →
    ¬r.Gone

/-- Every start that is refused is so for a run that is not gone. -/
def RefusesForRuns (s : ServiceState) : Prop :=
  ∀ taskID, s.busy taskID = true → ∃ (n : Nat) (r : RunState), s.runs[n]? = some r ∧ ¬r.Gone ∧
    activeTask r.run.id = taskID

/-- Each step launches the run that it goes on with. -/
def Launches (s : ServiceState) : ServiceAct → Prop
  | .go n thread ok => ∀ r, s.runs[n]? = some r → r.Launches thread ok
  | _ => True

/-- Every entry is that of a run, under its id. -/
def Listed (s : ServiceState) : Prop :=
  ∀ (key : String) (n : Nat), s.controls[key]? = some n →
    ∃ r, s.runs[n]? = some r ∧ r.run.id = key

/-- Every run that is not gone has its entry. -/
def Entered (s : ServiceState) : Prop :=
  ∀ (n : Nat) (r : RunState), s.runs[n]? = some r → ¬r.Gone → s.controls[r.run.id]? = some n

theorem refusesForRuns {s : ServiceState} (hlisted : s.Listed) (h : s.Released) :
    s.RefusesForRuns := by
  intro taskID hbusy
  obtain ⟨key, hkey, hmatches⟩ := List.any_eq_true.mp hbusy
  rw [Bool.and_eq_true, beq_iff_eq] at hmatches
  obtain ⟨n, hn⟩ := (Keyed.mem_iff_lookup s.controls key).mp (Std.ExtTreeMap.mem_keys.mp hkey)
  obtain ⟨r, hr, hid⟩ := hlisted key n hn
  exact ⟨n, r, hr, h key n r hn hr, by rw [hid, hmatches.2]⟩

variable {s s' : ServiceState} {act : ServiceAct}

/-- An entry that is there after a thread has gone on was there before, and the thread did not
remove it. -/
theorem lookup_released {controls : Keyed String Nat} {releases : Bool} {id key : String} {n : Nat}
    (h : (if releases then controls.erase id else controls)[key]? = some n) :
    controls[key]? = some n ∧ (releases = true → key ≠ id) := by
  split_ifs at h with hreleases
  · rw [Keyed.lookup_erase] at h
    split_ifs at h with hkey
    exact ⟨h, fun _ => hkey⟩
  · exact ⟨h, fun hyes => (hreleases hyes).elim⟩

theorem listed_step (h : s.Listed) (hsteps : Steps tasks s act s') : s'.Listed := by
  have write {m : Nat} {r r' : RunState} (hr : s.runs[m]? = some r) (hid : r'.run.id = r.run.id)
      (key : String) (n : Nat) (hn : s.controls[key]? = some n) :
      ∃ one, (s.runs.insert m r')[n]? = some one ∧ one.run.id = key := by
    obtain ⟨one, hone, hkey⟩ := h key n hn
    rw [Keyed.lookup_insert]
    split_ifs with he
    · subst he
      rw [hr] at hone
      cases hone
      exact ⟨r', rfl, hid.trans hkey⟩
    · exact ⟨one, hone, hkey⟩
  cases hsteps with
  | idles => exact h
  | @begins m taskID buffer task runIdentifier hm =>
    intro key n hn
    simp only [Keyed.lookup_insert] at hn ⊢
    split_ifs at hn with hkey
    · cases hn
      exact ⟨_, if_pos rfl, hkey.symm⟩
    · obtain ⟨r, hr, hid⟩ := h key n hn
      refine ⟨r, ?_, hid⟩
      rw [if_neg, hr]
      rintro rfl
      rw [hm] at hr
      cases hr
  | @enters m k _ _ op r _ hr _ =>
    exact write hr (show (r.begin k op).run.id = r.run.id from rfl)
  | @goes m thread ok r hr =>
    intro key n hn
    exact write hr (r.go_id s.now ok thread) key n (lookup_released hn).1

/-- A step that launches the run it goes on with leaves no entry of a run that is gone. -/
theorem released_step (hlisted : s.Listed) (h : s.Released) (hlaunches : s.Launches act)
    (hsteps : Steps tasks s act s') : s'.Released := by
  cases hsteps with
  | idles => exact h
  | @begins m taskID buffer task runIdentifier hm =>
    intro key n r hn hr hgone
    simp only [Keyed.lookup_insert] at hn hr
    split_ifs at hr with he
    · cases hr
      rcases hgone with hpc | hpc <;> cases hpc
    · split_ifs at hn with hkey
      · cases hn
        exact he rfl
      · exact h key n r hn hr hgone
  | @enters m _ _ _ op old _ hold _ =>
    intro key n r hn hr hgone
    rcases Keyed.lookup_insert_cases hr with ⟨rfl, rfl⟩ | ⟨-, hr⟩
    · exact h key n old hn hold hgone
    · exact h key n r hn hr hgone
  | @goes m thread ok old hold =>
    intro key n r hn hr hgone
    obtain ⟨hbefore, hkept⟩ := lookup_released hn
    rcases Keyed.lookup_insert_cases hr with ⟨rfl, rfl⟩ | ⟨-, hr⟩
    · rw [RunState.go_gone_iff] at hgone
      rcases hgone with hgone | hreleases | hnot
      · exact h key n old hbefore hold hgone
      · obtain ⟨one, hone, hid⟩ := hlisted key n hbefore
        rw [hold] at hone
        cases hone
        exact hkept hreleases hid.symm
      · exact hnot (hlaunches old hold)
    · exact h key n r hbefore hr hgone

/-- A run that is not gone after a step has its entry, if it had it before, no run begins under its
id, and no other run removes an entry under it. -/
theorem entry_step (hsteps : Steps tasks s act s') {n : Nat} {r : RunState}
    (hr : s'.runs[n]? = some r) (hstays : ¬r.Gone)
    (entry : ∀ old, s.runs[n]? = some old → old.run.taskID = r.run.taskID → ¬old.Gone →
      s.controls[old.run.id]? = some n)
    (fresh : ∀ (m : Nat) (taskID : String) (buffer : Option (Vector UInt8 8)) (task : Task)
      (runIdentifier : String), act = .run m taskID buffer → tasks[taskID]? = some task →
      (task.concurrencyPolicy = "skip" → s.busy taskID = false) →
      identifier "run" buffer = .ok runIdentifier → s.runs[n]? = some r →
      r.run.id ≠ taskID ++ ":" ++ runIdentifier)
    (own : ∀ (m : Nat) (other : RunState) (thread : Thread), s.runs[n]? = some r →
      s.runs[m]? = some other → other.releases thread = true → r.run.id = other.run.id → n = m) :
    s'.controls[r.run.id]? = some n := by
  cases hsteps with
  | idles => exact entry r hr rfl hstays
  | @begins m taskID buffer task runIdentifier _ htask hskip hid =>
    simp only [Keyed.lookup_insert]
    rcases Keyed.lookup_insert_cases hr with ⟨rfl, rfl⟩ | ⟨-, hr⟩
    · exact if_pos rfl
    · rw [if_neg (fresh m taskID buffer task runIdentifier rfl htask hskip hid hr)]
      exact entry r hr rfl hstays
  | @enters m _ _ _ op old _ hold _ =>
    rcases Keyed.lookup_insert_cases hr with ⟨rfl, rfl⟩ | ⟨-, hr⟩
    · exact entry old hold rfl hstays
    · exact entry r hr rfl hstays
  | @goes m thread ok old hold =>
    rcases Keyed.lookup_insert_cases hr with ⟨rfl, rfl⟩ | ⟨he, hr⟩
    · obtain ⟨sameID, sameTask⟩ := old.go_same s.now ok thread
      rw [RunState.go_gone_iff, not_or, not_or] at hstays
      rw [sameID, if_neg hstays.2.1]
      exact entry old hold sameTask.symm hstays.1
    · have kept := entry r hr rfl hstays
      split_ifs with hreleases
      · rw [Keyed.lookup_erase, if_neg, kept]
        intro hid
        exact he (own m old thread hr hold hreleases hid)
      · exact kept

/-- While ids are distinct, an entry is removed by its own run alone. -/
theorem entered_step (hdistinct : Distinct s.runs) (hfresh : s.Fresh act) (h : s.Entered)
    (hsteps : Steps tasks s act s') : s'.Entered := by
  intro n r hr hstays
  apply entry_step hsteps hr hstays
  · intro old hold _ holdstays
    exact h n old hold holdstays
  · intro m taskID buffer task runIdentifier hact _ _ hid hr
    subst hact
    exact hfresh runIdentifier hid n r hr
  · intro m other _ hr hother _ hid
    exact hdistinct n m r other hr hother hid

/-- While ids are distinct, a step leaves the map without entries of runs that are gone exactly when
it launches the run that it goes on with. -/
theorem released_step_iff (hlisted : s.Listed) (hentered : s.Entered) (h : s.Released) :
    (step tasks s act).Released ↔ s.Launches act := by
  constructor
  · intro hafter
    cases act with
    | go n thread ok =>
      intro r hr
      by_contra hnot
      have gone : (r.go s.now ok thread).Gone := (r.go_gone_iff s.now ok thread).mpr
        (Or.inr (Or.inr hnot))
      have keeps : r.releases thread = false ∧ ¬r.Gone := by
        unfold RunState.Launches at hnot
        rw [Classical.not_imp] at hnot
        obtain ⟨rfl, hpc⟩ := hnot
        rw [← Bool.not_eq_true, RunState.releases_execute, RunState.Gone]
        cases hexecute : r.execute <;> simp_all
      have entry := hentered n r hr keeps.2
      refine hafter r.run.id n (r.go s.now ok thread) ?_ ?_ gone
      · simp [step, hr, keeps.1, entry]
      · simp [step, hr]
    | elapse | run | control => trivial
  · exact fun hlaunches => released_step hlisted h hlaunches (step_steps tasks s act)

/-- From the start of the service on: while every step launches the run that it goes on with, the
map has entries of runs under way alone, and refuses starts for such runs alone; and, while no id is
given twice, only then has it no others. -/
theorem bookkeeping_released (tasks : TaskStore) (rows : Keyed String Run) (acts : List ServiceAct) :
    (Along (step tasks) Launches (start rows) acts →
      Along (step tasks) (fun s act => (step tasks s act).Released ∧
        (step tasks s act).RefusesForRuns) (start rows) acts) ∧
    (Along (step tasks) Fresh (start rows) acts →
      Along (step tasks) (fun s act => (step tasks s act).Released) (start rows) acts →
      Along (step tasks) Launches (start rows) acts) := by
  have listed : (start rows).Listed := by
    intro key n hn
    simp [start] at hn
  have released : (start rows).Released := by
    intro key n r hn
    simp [start] at hn
  constructor
  · intro h
    refine along_safe (fun s : ServiceState => s.Listed ∧ s.Released) ?_ ?_ ⟨listed, released⟩ h
    · intro s act hs hlaunches
      have hsteps := step_steps tasks s act
      exact ⟨listed_step hs.1 hsteps, released_step hs.1 hs.2 hlaunches hsteps⟩
    · intro s act hs hlaunches
      have hsteps := step_steps tasks s act
      have after := released_step hs.1 hs.2 hlaunches hsteps
      exact ⟨after, refusesForRuns (listed_step hs.1 hsteps) after⟩
  · intro hfresh h
    have entered : (start rows).Entered := by
      intro n r hr
      simp [start] at hr
    refine along_safe (fun s : ServiceState => s.Listed ∧ s.Released ∧ Distinct s.runs ∧
      s.Entered) ?_ ?_ ⟨listed, released, distinct_start rows, entered⟩ (along_and.mpr ⟨hfresh, h⟩)
    · intro s act hs hact
      have hsteps := step_steps tasks s act
      exact ⟨listed_step hs.1 hsteps, hact.2, distinct_step hs.2.2.1 hact.1 hsteps,
        entered_step hs.2.2.1 hact.1 hs.2.2.2 hsteps⟩
    · intro s act hs hact
      exact (released_step_iff hs.1 hs.2.2.2 hs.2.1).mp hact.2

/-- The run is stopped before `execute` has made its first transition. -/
def stoppedAtOnce : List ServiceAct :=
  .run 0 "t" (some (.replicate 8 0)) :: List.replicate 2 (.go 0 .execute true) ++
    .control 0 "t:run-0000000000000000" "stop" :: List.replicate 3 (.go 0 (.call 0) true) ++
    [.go 0 .execute true]

/-- Its goroutine has then ended, and its entry is still there. -/
theorem stopped_run_stays_listed : ¬∀ (tasks : TaskStore) (rows : Keyed String Run)
    (acts : List ServiceAct), Along (step tasks) (fun s act => (step tasks s act).Released ∧
      (step tasks s act).RefusesForRuns) (start rows) acts := by
  intro h
  have last := (h oneTask ∅ (stoppedAtOnce ++ [.elapse 0])).at
  have entry : (step oneTask (run (step oneTask) (start ∅) stoppedAtOnce)
      (.elapse 0)).controls["t:run-0000000000000000"]? = some 0 := by
    decide
  have ended : ((step oneTask (run (step oneTask) (start ∅) stoppedAtOnce)
      (.elapse 0)).runs[0]?.map RunState.execute) = some .returned := by
    decide
  obtain ⟨r, hr, hpc⟩ := Option.map_eq_some_iff.mp ended
  exact last.1 _ 0 r entry hr (Or.inl hpc)

end ServiceState

end AdbControl.Automation
