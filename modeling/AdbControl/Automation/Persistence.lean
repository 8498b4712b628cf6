import AdbControl.Automation.Service

namespace AdbControl.Automation

open Framework

/-- A row shows a run's status and how many steps it has completed. -/
def Run.Agrees (row run : Run) : Prop :=
  row.status = run.status ∧ row.completedSteps = run.completedSteps

instance (row run : Run) : Decidable (row.Agrees run) :=
  inferInstanceAs (Decidable (_ ∧ _))

theorem Run.Agrees.trans {a b c : Run} (hab : a.Agrees b) (hbc : b.Agrees c) : a.Agrees c :=
  ⟨hab.1.trans hbc.1, hab.2.trans hbc.2⟩

theorem Run.Agrees.symm {a b : Run} (h : a.Agrees b) : b.Agrees a := ⟨h.1.symm, h.2.symm⟩

def CallPc.isReturned : CallPc → Bool
  | .returned _ => true
  | _ => false

namespace RunState

variable {r r' : RunState} {now k : Nat} {ok : Bool} {thread : Thread}

/-- All that was under way on the run is over. -/
def Finished (r : RunState) : Prop :=
  (r.execute = .returned ∨ r.execute = .discarded) ∧
    ∀ (k : Nat) (call : Call), r.calls[k]? = some call → call.pc.isReturned = true

instance (r : RunState) : Decidable r.Finished :=
  decidable_of_iff ((r.execute = .returned ∨ r.execute = .discarded) ∧
    ∀ e ∈ r.calls.toList, e.2.pc.isReturned = true)
    (and_congr_right fun _ => ⟨fun h k call hcall =>
      h (k, call) (Std.ExtTreeMap.mem_toList_iff_getElem?_eq_some.mpr hcall), fun h e he =>
      h e.1 e.2 (Std.ExtTreeMap.mem_toList_iff_getElem?_eq_some.mp he)⟩)

/-- Another thread is about to save the run as it is. -/
def SavedBy (r : RunState) (thread : Thread) : Prop :=
  ∃ other snapshot, other ≠ thread ∧ r.snapshot other = some snapshot ∧ snapshot.Agrees r.run

/-- Every snapshot that is about to be saved is one of the run. -/
def OwnSnapshots (r : RunState) : Prop :=
  ∀ thread snapshot, r.snapshot thread = some snapshot → snapshot.id = r.run.id

/-- The run is still to get its row, its row shows it as it is, or a save that is under way will. -/
def Shown (r : RunState) (row : Option Run) : Prop :=
  r.execute = .creating ∨ (∃ run, row = some run ∧ run.Agrees r.run) ∨
    ∃ thread snapshot, r.snapshot thread = some snapshot ∧ snapshot.Agrees r.run

theorem finished_snapshot (h : r.Finished) (thread : Thread) : r.snapshot thread = none := by
  cases thread with
  | execute => rcases h.1 with hpc | hpc <;> simp [snapshot, hpc]
  | call k =>
    cases hcall : r.calls[k]? with
    | none => simp [snapshot, hcall]
    | some call =>
      obtain ⟨operation, pc⟩ := call
      have returned := h.2 k _ hcall
      cases pc with
      | returned result => simp [snapshot, hcall]
      | _ => cases returned

theorem shown_of_finished {row : Option Run} (h : r.Shown row) (hfinished : r.Finished) :
    ∃ run, row = some run ∧ run.Agrees r.run := by
  rcases h with hpc | hrow | ⟨thread, snapshot, hsnapshot, -⟩
  · rcases hfinished.1 with hdone | hdone <;> rw [hpc] at hdone <;> cases hdone
  · exact hrow
  · rw [finished_snapshot hfinished thread] at hsnapshot
    cases hsnapshot

/-- What a step of a thread does to the run and to the thread's own snapshot: it takes a new one of
the run as it is now, or changes nothing that a row shows and takes none. -/
theorem go_snapshot (r : RunState) (now : Nat) (ok : Bool) (thread : Thread) :
    (r.go now ok thread).snapshot thread = some (r.go now ok thread).run ∨
    (r.go now ok thread).run.Agrees r.run ∧
      (r.execute = .creating → (r.go now ok thread).execute = .creating) ∧
      ((r.go now ok thread).snapshot thread = none ∨
        (r.go now ok thread).snapshot thread = r.snapshot thread) := by
  have turns (index : Nat) : { r with execute := r.turn index }.snapshot .execute = none := by
    simp only [snapshot, turn]
    split_ifs <;> rfl
  have execute {r' : RunState} (h : r.Advances now ok r') : r'.snapshot .execute = some r'.run ∨
      r'.run.Agrees r.run ∧ (r.execute = .creating → r'.execute = .creating) ∧
        (r'.snapshot .execute = none ∨ r'.snapshot .execute = r.snapshot .execute) := by
    have moves {pc : ExecutePc} (hpc : r.execute = pc) (hne : pc ≠ .creating)
        (hagrees : r'.run.Agrees r.run) (hnone : r'.snapshot .execute = none) :
        r'.run.Agrees r.run ∧ (r.execute = .creating → r'.execute = .creating) ∧
          (r'.snapshot .execute = none ∨ r'.snapshot .execute = r.snapshot .execute) :=
      ⟨hagrees, fun hcreating => (hne (hpc.symm.trans hcreating)).elim, Or.inl hnone⟩
    cases h with
    | creates | starts | updates | saves => exact Or.inl rfl
    | rests => exact Or.inr ⟨⟨rfl, rfl⟩, id, Or.inr rfl⟩
    | heeds hpc | ends hpc =>
      refine Or.inr (moves rfl ?_ ⟨rfl, rfl⟩ rfl)
      intro hcreating
      rw [hcreating] at hpc
      cases hpc
    | runs hpc | started hpc | updated hpc => exact Or.inr (moves hpc nofun ⟨rfl, rfl⟩ (turns _))
    | looks hpc hpc' | acted hpc hpc' =>
      refine Or.inr (moves hpc nofun ⟨rfl, rfl⟩ ?_)
      rcases hpc' with rfl | rfl <;> rfl
    | created hpc | drops hpc | discards hpc | refused hpc | unstarted hpc | wakes hpc | acts hpc
    | unsaved hpc | marks hpc | leaves hpc | releases hpc =>
      exact Or.inr (moves hpc nofun ⟨rfl, rfl⟩ rfl)
  have call {k : Nat} {r' : RunState} (h : r.CallAdvances now ok k r') :
      r'.snapshot (.call k) = some r'.run ∨
      r'.run.Agrees r.run ∧ (r.execute = .creating → r'.execute = .creating) ∧
        (r'.snapshot (.call k) = none ∨ r'.snapshot (.call k) = r.snapshot (.call k)) := by
    cases h with
    | moves => exact Or.inl (by simp [snapshot, setCall])
    | rests => exact Or.inr ⟨⟨rfl, rfl⟩, id, Or.inr rfl⟩
    | @idles call | @saved call | @refused call | @unsaved call =>
      refine Or.inr ⟨⟨rfl, rfl⟩, id, Or.inl ?_⟩
      cases hop : call.operation <;> simp [snapshot, setCall, Operation.done, Operation.refused]
    | _ => exact Or.inr ⟨⟨rfl, rfl⟩, id, Or.inl (by simp [snapshot, setCall])⟩
  cases thread with
  | execute => exact execute (r.stepExecute_advances now ok)
  | call k => exact call (r.stepCall_advances now k ok)

/-- A thread leaves the snapshots of the others alone. -/
theorem go_snapshot_other (r : RunState) (now : Nat) (ok : Bool) {thread other : Thread}
    (h : other ≠ thread) : (r.go now ok thread).snapshot other = r.snapshot other := by
  cases thread with
  | execute =>
    cases other with
    | execute => exact (h rfl).elim
    | call j =>
      have calls : (r.go now ok .execute).calls = r.calls := (r.stepExecute_advances now ok).calls
      simp only [snapshot, calls]
  | call k =>
    have hstep := r.stepCall_advances now k ok
    cases other with
    | execute =>
      have pc : (r.go now ok (.call k)).execute = r.execute := hstep.execute
      simp only [snapshot, pc]
    | call j =>
      have hj : j ≠ k := fun he => h (by rw [he])
      have calls : (r.go now ok (.call k)).calls[j]? = r.calls[j]? := hstep.others hj
      simp only [snapshot, calls]

theorem ownSnapshots_go (h : r.OwnSnapshots) (now : Nat) (ok : Bool) (thread : Thread) :
    (r.go now ok thread).OwnSnapshots := by
  intro other snapshot hsnapshot
  rw [go_id]
  by_cases hother : other = thread
  · subst hother
    rcases r.go_snapshot now ok other with hnew | ⟨-, -, hnone | hsame⟩
    · rw [hnew] at hsnapshot
      cases hsnapshot
      exact r.go_id now ok other
    · rw [hnone] at hsnapshot
      cases hsnapshot
    · rw [hsame] at hsnapshot
      exact h other snapshot hsnapshot
  · rw [go_snapshot_other r now ok hother] at hsnapshot
    exact h other snapshot hsnapshot

/-- A row after a save of a snapshot, if there is one. -/
def savedRow (row snapshot : Option Run) (ok : Bool) : Option Run :=
  match snapshot with
  | some run => if ok then some run else row
  | none => row

/-- The step stores no snapshot but one that shows the run as it is, or leaves another such save
under way. -/
def InOrder (r : RunState) (thread : Thread) : Prop :=
  ∀ snapshot, r.snapshot thread = some snapshot → snapshot.Agrees r.run ∨ r.SavedBy thread

/-- A run stays shown while its saves succeed and are in order. -/
theorem shown_go {row : Option Run} (h : r.Shown row) (now : Nat) (thread : Thread)
    (hsaved : r.snapshot thread ≠ none → ok = true) (horder : r.InOrder thread) :
    (r.go now ok thread).Shown (savedRow row (r.snapshot thread) ok) := by
  have keeps {other : Thread} {snapshot : Run} (hother : other ≠ thread)
      (hsnapshot : r.snapshot other = some snapshot)
      (hagrees : snapshot.Agrees (r.go now ok thread).run) {row' : Option Run} :
      (r.go now ok thread).Shown row' :=
    Or.inr (Or.inr ⟨other, snapshot, by rw [go_snapshot_other r now ok hother, hsnapshot], hagrees⟩)
  rcases r.go_snapshot now ok thread with hnew | ⟨hagrees, hcreating, -⟩
  · exact Or.inr (Or.inr ⟨thread, _, hnew, rfl, rfl⟩)
  · cases hsnapshot : r.snapshot thread with
    | some snapshot =>
      have hok := hsaved (by rw [hsnapshot]; exact nofun)
      subst hok
      simp only [savedRow, if_true]
      rcases horder snapshot hsnapshot with hown | ⟨other, snapshot', hother, hsnapshot', hshows⟩
      · exact Or.inr (Or.inl ⟨snapshot, rfl, hown.trans hagrees.symm⟩)
      · exact keeps hother hsnapshot' (hshows.trans hagrees.symm)
    | none =>
      simp only [savedRow]
      rcases h with hpc | ⟨run, hrow, hshows⟩ | ⟨other, snapshot', hsnapshot', hshows⟩
      · exact Or.inl (hcreating hpc)
      · exact Or.inr (Or.inl ⟨run, hrow, hshows.trans hagrees.symm⟩)
      · refine keeps ?_ hsnapshot' (hshows.trans hagrees.symm)
        rintro rfl
        rw [hsnapshot] at hsnapshot'
        cases hsnapshot'

theorem ownSnapshots_fresh (id taskID : String) (actions : List String) :
    (RunState.fresh id taskID actions).OwnSnapshots := by
  intro thread snapshot h
  cases thread with
  | execute => cases h
  | call k => simp [RunState.snapshot, RunState.fresh] at h

/-- A call that enters has no snapshot, and leaves those of the others alone. -/
theorem snapshot_begin (hk : k ∉ r.calls) (operation : Operation) (thread : Thread) :
    (r.begin k operation).snapshot thread = r.snapshot thread := by
  cases thread with
  | execute => rfl
  | call j =>
    simp only [snapshot, begin, Keyed.lookup_insert]
    split_ifs with hj
    · subst hj
      have hnone : r.calls[j]? = none := by simpa using hk
      rw [hnone]
      cases operation <;> rfl
    · rfl

end RunState

/-- What the act does outside the service succeeds. -/
def ServiceAct.succeeds : ServiceAct → Bool
  | .go _ _ ok => ok
  | _ => true

def ServiceAct.starts : ServiceAct → Bool
  | .run .. => true
  | _ => false

namespace ServiceState

variable {tasks : TaskStore} {n : Nat}

/-- The saves of the run succeed. -/
def Saves (n : Nat) (s : ServiceState) : ServiceAct → Prop
  | .go m thread ok => m = n → ∀ r, s.runs[m]? = some r → r.snapshot thread ≠ none → ok = true
  | _ => True

/-- The saves of the run are in order. -/
def InOrder (n : Nat) (s : ServiceState) : ServiceAct → Prop
  | .go m thread _ => m = n → ∀ r, s.runs[m]? = some r → r.InOrder thread
  | _ => True

/-- What is kept about the rows of the runs, and that of run `n` above all. -/
structure Persisted (n : Nat) (s : ServiceState) : Prop where
  distinct : Distinct s.runs
  own : ∀ (m : Nat) (r : RunState), s.runs[m]? = some r → r.OwnSnapshots
  shown : ∀ r, s.runs[n]? = some r → r.Shown s.rows[r.run.id]?

/-- The row of a run changes only when the run stores a snapshot. -/
theorem saveRun_lookup {rows : Keyed String Run} {snapshot : Option Run} {ok : Bool} {id : String}
    (hid : ∀ run, snapshot = some run → run.id = id) :
    (saveRun rows snapshot ok)[id]? = RunState.savedRow rows[id]? snapshot ok := by
  cases snapshot with
  | none => rfl
  | some run =>
    cases ok with
    | false => rfl
    | true => simp [saveRun, RunState.savedRow, hid run rfl]

theorem saveRun_other {rows : Keyed String Run} {snapshot : Option Run} {ok : Bool} {id : String}
    (hid : ∀ run, snapshot = some run → run.id ≠ id) :
    (saveRun rows snapshot ok)[id]? = rows[id]? := by
  cases snapshot with
  | none => rfl
  | some run =>
    cases ok with
    | false => rfl
    | true => simp [saveRun, Ne.symm (hid run rfl)]

/-- A step keeps the rows of the runs. -/
theorem persisted_step {s : ServiceState} (h : s.Persisted n) (act : ServiceAct)
    (hfresh : s.Fresh act) (hsaves : s.Saves n act) (horder : s.InOrder n act) :
    (step tasks s act).Persisted n := by
  have hsteps := step_steps tasks s act
  have distinct := distinct_step h.distinct hfresh hsteps
  have own : ∀ (m : Nat) (r : RunState), (step tasks s act).runs[m]? = some r →
      r.OwnSnapshots := by
    apply runs_step act h.own
    · exact RunState.ownSnapshots_fresh
    · intro r k operation hr hk thread snapshot hsnapshot
      rw [RunState.snapshot_begin hk] at hsnapshot
      exact hr thread snapshot hsnapshot
    · intro m thread ok r _ _ hr
      exact RunState.ownSnapshots_go hr s.now ok thread
  refine ⟨distinct, own, ?_⟩
  generalize step tasks s act = s' at hsteps
  cases hsteps with
  | idles => exact h.shown
  | begins =>
    intro r hr
    rcases Keyed.lookup_insert_cases hr with ⟨rfl, rfl⟩ | ⟨-, hr⟩
    · exact Or.inl rfl
    · exact h.shown r hr
  | @enters m k runID operation op old _ hold hk =>
    intro r hr
    rcases Keyed.lookup_insert_cases hr with ⟨rfl, rfl⟩ | ⟨-, hr⟩
    · have same := RunState.snapshot_begin hk op
      rcases h.shown old hold with hpc | hrow | ⟨thread, snapshot, hsnapshot, hshows⟩
      · exact Or.inl hpc
      · exact Or.inr (Or.inl hrow)
      · exact Or.inr (Or.inr ⟨thread, snapshot, by rw [same, hsnapshot], hshows⟩)
    · exact h.shown r hr
  | @goes m thread ok old hold =>
    have snapshots := h.own m old hold thread
    intro r hr
    rcases Keyed.lookup_insert_cases hr with ⟨rfl, rfl⟩ | ⟨he, hr⟩
    · rw [old.go_id, saveRun_lookup snapshots]
      exact RunState.shown_go (h.shown old hold) s.now thread (hsaves rfl old hold)
        (horder rfl old hold)
    · rw [saveRun_other]
      · exact h.shown r hr
      · intro run hrun hid
        rw [snapshots run hrun] at hid
        exact he (h.distinct n m r old hr hold hid.symm)

/-- When all that was under way on a run is over and all its saves succeeded in order, its row shows
its status and how many steps it has completed. -/
theorem row_agrees (tasks : TaskStore) (rows : Keyed String Run) (acts : List ServiceAct) (n : Nat)
    (r : RunState) (hfresh : Along (step tasks) Fresh (start rows) acts)
    (hsaves : Along (step tasks) (Saves n) (start rows) acts)
    (horder : Along (step tasks) (InOrder n) (start rows) acts)
    (hr : (run (step tasks) (start rows) acts).runs[n]? = some r) (hfinished : r.Finished) :
    ∃ row, (run (step tasks) (start rows) acts).rows[r.run.id]? = some row ∧ row.Agrees r.run := by
  have all := along_and.mpr ⟨hfresh, along_and.mpr ⟨hsaves, horder⟩⟩
  have persisted : (run (step tasks) (start rows) acts).Persisted n := by
    refine run_invariant (Persisted n) ?_ ?_ all
    · intro s act hs hact
      exact persisted_step hs act hact.1 hact.2.1 hact.2.2
    · refine ⟨distinct_start rows, ?_, ?_⟩
      · intro m r hm
        simp [start] at hm
      · intro r hm
        simp [start] at hm
  exact RunState.shown_of_finished (persisted.shown r hr) hfinished

/-- Where every act succeeds, so do the saves of each run. -/
theorem saves_of_succeeds {s : ServiceState} {acts : List ServiceAct}
    (h : ∀ act ∈ acts, act.succeeds = true) : Along (step tasks) (Saves n) s acts := by
  apply along_of_at
  intro pre act post he
  have hact := h act (by simp [he])
  cases act with
  | go m thread ok => exact fun _ _ _ _ => hact
  | elapse | run | control => trivial

/-- The first start of all is of a fresh run. -/
theorem fresh_of_alone {rows : Keyed String Run} {taskID : String}
    {buffer : Option (Vector UInt8 8)} {acts : List ServiceAct}
    (h : ∀ act ∈ acts, act.starts = false) :
    Along (step tasks) Fresh (start rows) (.run n taskID buffer :: acts) := by
  constructor
  · intro runIdentifier _ k r hr
    simp [start] at hr
  · apply along_of_at
    intro pre act post he
    have hact := h act (by simp [he])
    cases act with
    | run => cases hact
    | elapse | control | go => trivial

/-- A save is in order that stores the run as it is. -/
def storesCurrent (s : ServiceState) : ServiceAct → Bool
  | .go m thread _ =>
    match s.runs[m]? with
    | none => true
    | some r => (r.snapshot thread).all (fun snapshot => decide (snapshot.Agrees r.run))
  | _ => true

theorem inOrder_of_storesCurrent {s : ServiceState} {act : ServiceAct}
    (h : s.storesCurrent act = true) : s.InOrder n act := by
  cases act with
  | go m thread ok =>
    intro _ r hr snapshot hsnapshot
    simp only [storesCurrent, hr, hsnapshot, Option.all_some, decide_eq_true_eq] at h
    exact Or.inl h
  | elapse | run | control => trivial

/-- The run goes on to its end, and nothing else happens. -/
def runsThrough : List ServiceAct :=
  lastActionRuns ++ List.replicate 6 (.go 0 .execute true)

theorem row_agrees_succeeded :
    ((run (step oneTask) (start ∅) runsThrough).rows["t:run-0000000000000000"]?.map
      (fun row => (row.status, row.completedSteps))) = some (.succeeded, 1) := by
  have ends : ((run (step oneTask) (start ∅) runsThrough).runs[0]?.map
      (fun r => (decide r.Finished, r.run.id, r.run.status, r.run.completedSteps))) =
      some (true, "t:run-0000000000000000", .succeeded, 1) := by
    decide
  obtain ⟨r, hr, hend⟩ := Option.map_eq_some_iff.mp ends
  simp only [Prod.mk.injEq, decide_eq_true_eq] at hend
  obtain ⟨hfinished, hid, hstatus, hsteps⟩ := hend
  have stores : Along (step oneTask) (fun s act => s.storesCurrent act = true) (start ∅)
      runsThrough := by
    decide
  have order : Along (step oneTask) (InOrder 0) (start ∅) runsThrough :=
    along_safe (fun _ => True) (fun _ _ _ _ => trivial)
      (fun _ _ _ h => inOrder_of_storesCurrent h) trivial stores
  obtain ⟨row, hrow, hagrees⟩ := row_agrees oneTask ∅ runsThrough 0 r
    (fresh_of_alone (by decide)) (saves_of_succeeds (by decide)) order hr hfinished
  rw [← hid, hrow, Option.map_some, hagrees.1, hagrees.2, hstatus, hsteps]

/-- The progress is about to be saved when a stop comes in between: its own save is the first. -/
def stopOvertakes : List ServiceAct :=
  lastActionRuns ++ List.replicate 2 (.go 0 .execute true) ++
    .control 0 "t:run-0000000000000000" "stop" :: List.replicate 3 (.go 0 (.call 0) true) ++
    List.replicate 3 (.go 0 .execute true)

/-- Then the row shows a stopped run as running. -/
theorem stopped_run_shown_running : ¬∀ (tasks : TaskStore) (rows : Keyed String Run)
    (acts : List ServiceAct) (n : Nat) (r : RunState),
    Along (step tasks) Fresh (start rows) acts → Along (step tasks) (Saves n) (start rows) acts →
    (run (step tasks) (start rows) acts).runs[n]? = some r → r.Finished →
    ∃ row, (run (step tasks) (start rows) acts).rows[r.run.id]? = some row ∧ row.Agrees r.run := by
  intro h
  have fresh : Along (step oneTask) Fresh (start ∅) stopOvertakes := fresh_of_alone (by decide)
  have saves : Along (step oneTask) (Saves 0) (start ∅) stopOvertakes :=
    saves_of_succeeds (by decide)
  have ends : ((run (step oneTask) (start ∅) stopOvertakes).runs[0]?.map
      (fun r => (decide r.Finished, r.run.id, r.run.status))) =
      some (true, "t:run-0000000000000000", .stopped) := by
    decide
  have row : ((run (step oneTask) (start ∅) stopOvertakes).rows["t:run-0000000000000000"]?.map
      Run.status) = some .running := by
    decide
  obtain ⟨r, hr, hend⟩ := Option.map_eq_some_iff.mp ends
  simp only [Prod.mk.injEq, decide_eq_true_eq] at hend
  obtain ⟨hfinished, hid, hstopped⟩ := hend
  obtain ⟨shown, hshown, hagrees⟩ := h oneTask ∅ stopOvertakes 0 r fresh saves hr hfinished
  rw [hid] at hshown
  rw [hshown, Option.map_some, Option.some.injEq] at row
  rw [Run.Agrees, row, hstopped] at hagrees
  cases hagrees.1

end ServiceState

end AdbControl.Automation
