import AdbControl.Automation.Model
import AdbControl.Framework.OrderBy
import AdbControl.Framework.Outcome
import AdbControl.Framework.UtcTime

namespace AdbControl.Automation

open Framework

/-- A row of `automation_tasks` -/
structure TaskRow where
  definition : Task
  createdAt : UtcTime
  updatedAt : UtcTime
  deriving DecidableEq

/-- A row of `automation_runs`. A text that is no run is stored as none; a run is stored in the row of
its id. -/
structure RunRow where
  id : String
  stored : Option Run
  startedAt : UtcTime
  named : ∀ run ∈ stored, run.id = id
  deriving DecidableEq

/-- The column `updated_at` -/
def TaskRow.updated (row : TaskRow) : List Char := row.updatedAt.rfc3339Nano

/-- The column `started_at` -/
def RunRow.started (row : RunRow) : List Char := row.startedAt.rfc3339Nano

namespace Repository

/-- The rows that `ListTasks` reads -/
def selectTasks (T : OrderBy TaskRow.updated) (rows : List TaskRow) : List TaskRow := T.list rows

def listTasks (T : OrderBy TaskRow.updated) (rows : List TaskRow) : List Task :=
  (selectTasks T rows).map TaskRow.definition

/-- `SaveTask` at the times of the task -/
def saveTask (rows : List TaskRow) (task : Task) (createdAt updatedAt : UtcTime) : List TaskRow :=
  if rows.any (fun row => row.definition.id == task.id) then
    rows.map fun row =>
      if row.definition.id = task.id then { row with definition := task, updatedAt } else row
  else rows ++ [⟨task, createdAt, updatedAt⟩]

/-- The row in which a run is stored anew -/
def storeRun (row : RunRow) (run : Run) : RunRow :=
  if h : row.id = run.id then
    { row with stored := some run, named := fun r hr => by rw [← Option.some.inj hr, h] }
  else row

/-- `SaveRun`; `startedAt` is the time at which the run has started, or else the present one. -/
def saveRun (rows : List RunRow) (run : Run) (startedAt : UtcTime) : List RunRow :=
  if rows.any (fun row => row.id == run.id) then rows.map fun row => storeRun row run
  else rows ++ [⟨run.id, some run, startedAt, fun _ hr => by rw [← Option.some.inj hr]⟩]

def runLimit (limit : Int) : Nat := if limit ≤ 0 ∨ limit > 200 then 50 else limit.toNat

/-- The rows that `ListRuns` reads -/
def selectRuns (R : OrderBy RunRow.started) (limit : Int) (rows : List RunRow) : List RunRow :=
  (R.list rows).take (runLimit limit)

/-- `ListRuns`; a text that is no run is an error. -/
def listRuns (R : OrderBy RunRow.started) (limit : Int) (rows : List RunRow) : Option (List Run) :=
  (selectRuns R limit rows).mapM RunRow.stored

def interrupted (status : RunStatus) : Bool :=
  status = .queued || status = .running || status = .paused

/-- The run as it is saved after a restart -/
def failInterrupted (now : Nat) (run : Run) : Run :=
  { run with
    status := .failed
    errorCode := "APP_RESTART_INTERRUPTED"
    finishedAt := some now }

/-- What a recovery meets: the times at which it comes to the runs, and which of its saves succeed. -/
structure RecoveryEnv where
  now : Run → Nat
  present : Run → UtcTime
  saves : Run → Bool

/-- The loop of `RecoverInterrupted` -/
def recoverRuns (env : RecoveryEnv) : List Run → List RunRow → Option (List RunRow)
  | [], rows => some rows
  | run :: runs, rows =>
    if interrupted run.status then
      if env.saves run then
        recoverRuns env runs (saveRun rows (failInterrupted (env.now run) run) (env.present run))
      else none
    else recoverRuns env runs rows

def recoverInterrupted (R : OrderBy RunRow.started) (env : RecoveryEnv) (rows : List RunRow) :
    Option (List RunRow) := do
  recoverRuns env (← listRuns R 200 rows) rows

/-- The run of the row was under way. -/
def Interrupted (row : RunRow) : Prop := ∃ run, row.stored = some run ∧ interrupted run.status = true

/-- What a recovery is to make of a row -/
structure Recovers (row row' : RunRow) : Prop where
  id : row'.id = row.id
  startedAt : row'.startedAt = row.startedAt
  failed : ∀ run, row.stored = some run → interrupted run.status = true →
    ∃ now, row'.stored = some (failInterrupted now run)
  kept : ¬Interrupted row → row' = row

/-- A row once the loop has come through these runs -/
def recovered (env : RecoveryEnv) (runs : List Run) (row : RunRow) : RunRow :=
  runs.foldl (fun row run =>
    if interrupted run.status then storeRun row (failInterrupted (env.now run) run) else row) row

section

variable {env : RecoveryEnv} {run : Run} {runs : List Run} {row : RunRow} {rows rows' : List RunRow}

@[simp] theorem storeRun_id (row : RunRow) (run : Run) : (storeRun row run).id = row.id := by
  unfold storeRun
  split_ifs <;> rfl

theorem storeRun_other (h : row.id ≠ run.id) : storeRun row run = row := dif_neg h

theorem storeRun_own (h : row.id = run.id) :
    (storeRun row run).stored = some run ∧ (storeRun row run).startedAt = row.startedAt := by
  rw [storeRun, dif_pos h]
  exact ⟨rfl, rfl⟩

/-- Where all its runs have a row, the loop goes through each row by itself. -/
theorem recoverRuns_rows (hrows : ∀ run ∈ runs, run.id ∈ rows.map RunRow.id)
    (h : recoverRuns env runs rows = some rows') : rows' = rows.map (recovered env runs) := by
  induction runs generalizing rows with
  | nil =>
    rw [recoverRuns, Option.some.injEq] at h
    rw [← h]
    exact (List.map_id rows).symm
  | cons run runs ih =>
    obtain ⟨hrun, hruns⟩ := List.forall_mem_cons.mp hrows
    rw [recoverRuns] at h
    split_ifs at h with hinterrupted hsaves
    · have exists_row : rows.any (fun row => row.id == run.id) = true := by
        obtain ⟨row, hrow, hid⟩ := List.mem_map.mp hrun
        exact List.any_eq_true.mpr ⟨row, hrow, by simp [hid]⟩
      have stored : saveRun rows (failInterrupted (env.now run) run) (env.present run) =
          rows.map fun row => storeRun row (failInterrupted (env.now run) run) :=
        if_pos exists_row
      rw [stored] at h
      have ids : (rows.map fun row => storeRun row (failInterrupted (env.now run) run)).map RunRow.id =
          rows.map RunRow.id := by
        rw [List.map_map]
        exact List.map_congr_left fun row _ => storeRun_id row _
      have rest := ih (by rwa [ids]) h
      rw [rest, List.map_map]
      apply List.map_congr_left
      intro row _
      rw [Function.comp_apply, recovered, recovered, List.foldl_cons, if_pos hinterrupted]
    · have rest := ih hruns h
      rw [rest]
      apply List.map_congr_left
      intro row _
      rw [recovered, recovered, List.foldl_cons, if_neg hinterrupted]

/-- A row stays of which no run is recovered. -/
theorem recovered_other (h : ∀ run ∈ runs, interrupted run.status = true → row.id ≠ run.id) :
    recovered env runs row = row := by
  induction runs with
  | nil => rfl
  | cons run runs ih =>
    obtain ⟨hrun, hruns⟩ := List.forall_mem_cons.mp h
    rw [recovered, List.foldl_cons]
    split_ifs with hinterrupted
    · have same : storeRun row (failInterrupted (env.now run) run) = row :=
        storeRun_other (hrun hinterrupted)
      rw [same]
      exact ih hruns
    · exact ih hruns

/-- A run under way is recovered in its row, once. -/
theorem recovered_own (hrun : run ∈ runs) (distinct : (runs.map Run.id).Nodup)
    (hinterrupted : interrupted run.status = true) (hid : row.id = run.id) :
    recovered env runs row = storeRun row (failInterrupted (env.now run) run) := by
  obtain ⟨before, after, rfl⟩ := List.append_of_mem hrun
  rw [List.map_append, List.map_cons, List.nodup_append, List.nodup_cons] at distinct
  obtain ⟨-, ⟨later, -⟩, apart⟩ := distinct
  have first : recovered env before row = row := by
    apply recovered_other
    intro other hother _ hsame
    exact apart other.id (List.mem_map_of_mem hother) run.id (by simp) (hsame.symm.trans hid)
  have rest : recovered env after (storeRun row (failInterrupted (env.now run) run)) =
      storeRun row (failInterrupted (env.now run) run) := by
    apply recovered_other
    intro other hother _ hsame
    rw [storeRun_id, hid] at hsame
    exact later (hsame ▸ List.mem_map_of_mem hother)
  rw [recovered, List.foldl_append, List.foldl_cons, if_pos hinterrupted]
  rw [recovered] at first rest
  rw [first, rest]

theorem decoded_runs (h : List.Forall₂ (fun row run => row.stored = some run) rows runs) :
    (∀ run, run ∈ runs ↔ ∃ row ∈ rows, row.stored = some run) ∧
      runs.map Run.id = rows.map RunRow.id := by
  induction h with
  | nil => simp
  | @cons row run rows runs hrow _ ih =>
    constructor
    · intro other
      rw [List.mem_cons, ih.1, List.exists_mem_cons_iff, hrow, Option.some.injEq, eq_comm]
    · rw [List.map_cons, List.map_cons, ih.2, row.named run hrow]

/-- The runs that are listed are those of the rows that are read, each once. -/
theorem listRuns_runs {R : OrderBy RunRow.started} {limit : Int}
    (distinct : (rows.map RunRow.id).Nodup) (h : listRuns R limit rows = some runs) :
    (∀ run, run ∈ runs ↔ ∃ row ∈ selectRuns R limit rows, row.stored = some run) ∧
      runs.map Run.id = (selectRuns R limit rows).map RunRow.id ∧ (runs.map Run.id).Nodup := by
  obtain ⟨hruns, ids⟩ := decoded_runs (mapM_eq_some.mp h)
  have taken : (selectRuns R limit rows).Sublist (R.list rows) := List.take_sublist _ _
  refine ⟨hruns, ids, ?_⟩
  rw [ids]
  exact (taken.map RunRow.id).nodup (((R.perm rows).map RunRow.id).nodup_iff.mpr distinct)

/-- A recovery makes of a row what it is to make of it when it reads it, and leaves it otherwise. -/
theorem recovers_iff (hruns : ∀ run, run ∈ runs ↔ ∃ row ∈ rows', row.stored = some run)
    (distinct : (runs.map Run.id).Nodup) (hrows : rows' ⊆ rows)
    (ids : (rows.map RunRow.id).Nodup) (hrow : row ∈ rows) :
    Recovers row (recovered env runs row) ∧ ¬Interrupted (recovered env runs row) ↔
      (Interrupted row → row ∈ rows') := by
  by_cases hread : ∃ run ∈ runs, interrupted run.status = true ∧ row.id = run.id
  · obtain ⟨run, hrun, hinterrupted, hid⟩ := hread
    obtain ⟨source, hsource, hstored⟩ := (hruns run).mp hrun
    have same : source = row :=
      List.inj_on_of_nodup_map ids (hrows hsource) hrow ((source.named run hstored).symm.trans hid.symm)
    subst same
    have own := @recovered_own env _ _ _ hrun distinct hinterrupted hid
    obtain ⟨stored, started⟩ := @storeRun_own (failInterrupted (env.now run) run) source hid
    rw [own]
    refine iff_of_true ⟨⟨storeRun_id _ _, started, ?_, ?_⟩, ?_⟩ (fun _ => hsource)
    · intro other hother _
      rw [hstored, Option.some.injEq] at hother
      exact ⟨env.now run, by rw [stored, hother]⟩
    · intro hidle
      exact (hidle ⟨run, hstored, hinterrupted⟩).elim
    · intro hafter
      obtain ⟨other, hother, hstatus⟩ := hafter
      rw [stored, Option.some.injEq] at hother
      rw [← hother] at hstatus
      cases hstatus
  · have other : recovered env runs row = row := by
      apply recovered_other
      intro run hrun hinterrupted hid
      exact hread ⟨run, hrun, hinterrupted, hid⟩
    rw [other]
    constructor
    · intro hafter hinterrupted
      exact (hafter.2 hinterrupted).elim
    · intro hlisted
      have idle : ¬Interrupted row := by
        intro hinterrupted
        obtain ⟨run, hstored, hstatus⟩ := id hinterrupted
        exact hread ⟨run, (hruns run).mpr ⟨row, hlisted hinterrupted, hstored⟩, hstatus,
          (row.named run hstored).symm⟩
      refine ⟨⟨rfl, rfl, ?_, fun _ => rfl⟩, idle⟩
      intro run hstored hstatus
      exact (idle ⟨run, hstored, hstatus⟩).elim

/-- A recovery that succeeds goes through each row by itself. -/
theorem recoverInterrupted_rows {R : OrderBy RunRow.started} (ids : (rows.map RunRow.id).Nodup)
    (h : recoverInterrupted R env rows = some rows') :
    ∃ runs, rows' = rows.map (recovered env runs) ∧ ∀ row ∈ rows,
      (Recovers row (recovered env runs row) ∧ ¬Interrupted (recovered env runs row) ↔
        (Interrupted row → row ∈ (R.list rows).take 200)) := by
  obtain ⟨runs, hlisted, h⟩ := Option.bind_eq_some_iff.mp h
  obtain ⟨hruns, -, distinct⟩ := listRuns_runs ids hlisted
  have read : selectRuns R 200 rows ⊆ rows := fun row hrow =>
    (R.perm rows).mem_iff.mp (List.mem_of_mem_take hrow)
  refine ⟨runs, ?_, fun row hrow => recovers_iff hruns distinct read ids hrow⟩
  refine recoverRuns_rows ?_ h
  intro run hrun
  obtain ⟨row, hrow, hstored⟩ := (hruns run).mp hrun
  rw [row.named run hstored]
  exact List.mem_map_of_mem (read hrow)

end

/-- A recovery that succeeds has failed every run that was under way, and has left all others, exactly
when every one of them is among the two hundred rows that it reads. -/
theorem recovery_complete_iff {R : OrderBy RunRow.started} {env : RecoveryEnv}
    {rows rows' : List RunRow} (ids : (rows.map RunRow.id).Nodup)
    (h : recoverInterrupted R env rows = some rows') :
    (List.Forall₂ Recovers rows rows' ∧ ∀ row ∈ rows', ¬Interrupted row) ↔
      ∀ row ∈ rows, Interrupted row → row ∈ (R.list rows).take 200 := by
  obtain ⟨runs, hrows', each⟩ := recoverInterrupted_rows ids h
  rw [hrows', List.forall₂_map_right_iff, List.forall₂_same, List.forall_mem_map]
  constructor
  · intro h row hrow
    exact (each row hrow).mp ⟨h.1 row hrow, h.2 row hrow⟩
  · intro h
    exact ⟨fun row hrow => ((each row hrow).mpr (h row hrow)).1,
      fun row hrow => ((each row hrow).mpr (h row hrow)).2⟩

section

/-- Run 0 is queued since the year 2000, all others have succeeded a year later. -/
def oldRun (i : Nat) : Run where
  id := String.ofList (List.replicate i 'r')
  taskID := "t"
  status := if i = 0 then .queued else .succeeded
  completedSteps := 0
  totalSteps := 1
  errorCode := ""
  startedAt := none
  finishedAt := none

def oldRow (i : Nat) : RunRow where
  id := (oldRun i).id
  stored := some (oldRun i)
  startedAt := if i = 0 then .newYear 2000 (by omega) else .newYear 2001 (by omega)
  named := fun run hrun => by rw [← Option.some.inj hrun]

def savingEnv : RecoveryEnv := ⟨fun _ => 0, fun _ => .newYear 2002 (by omega), fun _ => true⟩

theorem recovery_complete_iff_queued :
    Recovers (oldRow 0) (storeRun (oldRow 0) (failInterrupted 0 (oldRun 0))) := by
  have listed : (OrderBy.stable RunRow.started).list [oldRow 0] = [oldRow 0] :=
    List.mergeSort_singleton _
  have read : listRuns (OrderBy.stable RunRow.started) 200 [oldRow 0] = some [oldRun 0] := by
    rw [listRuns, selectRuns, listed]
    rfl
  have recovery : recoverInterrupted (OrderBy.stable RunRow.started) savingEnv [oldRow 0] =
      some [storeRun (oldRow 0) (failInterrupted 0 (oldRun 0))] := by
    rw [recoverInterrupted, read]
    rfl
  have complete := (recovery_complete_iff (by simp) recovery).mpr (by
    rw [listed]
    exact fun row hrow _ => hrow)
  exact (List.forall₂_cons.mp complete.1).1

theorem recoverRuns_succeeds {env : RecoveryEnv} (h : ∀ run, env.saves run = true)
    (runs : List Run) (rows : List RunRow) : ∃ rows', recoverRuns env runs rows = some rows' := by
  induction runs generalizing rows with
  | nil => exact ⟨rows, rfl⟩
  | cons run runs ih =>
    rw [recoverRuns, if_pos (h run)]
    split_ifs
    · exact ih _
    · exact ih _

theorem listRuns_succeeds {R : OrderBy RunRow.started} {limit : Int} {rows : List RunRow}
    (h : ∀ row ∈ rows, ∃ run, row.stored = some run) : ∃ runs, listRuns R limit rows = some runs := by
  have read : ∀ row ∈ selectRuns R limit rows, ∃ run, row.stored = some run := fun row hrow =>
    h row ((R.perm rows).mem_iff.mp (List.mem_of_mem_take hrow))
  rw [listRuns]
  generalize selectRuns R limit rows = selected at read
  induction selected with
  | nil => exact ⟨[], rfl⟩
  | cons row selected ih =>
    obtain ⟨⟨run, hrun⟩, hselected⟩ := List.forall_mem_cons.mp read
    obtain ⟨runs, hruns⟩ := ih hselected
    exact ⟨run :: runs, by rw [List.mapM_cons, hrun, hruns]; rfl⟩

/-- Of 201 runs the oldest is not read, and stays queued. -/
theorem old_run_stays_queued : ¬∀ (R : OrderBy RunRow.started) (env : RecoveryEnv)
    (rows rows' : List RunRow), (rows.map RunRow.id).Nodup →
    recoverInterrupted R env rows = some rows' →
    List.Forall₂ Recovers rows rows' ∧ ∀ row ∈ rows', ¬Interrupted row := by
  intro h
  let R := OrderBy.stable RunRow.started
  let rows := (List.range 201).map oldRow
  have injective : Function.Injective fun i => (oldRow i).id := by
    intro i j hij
    have hlength := congrArg (fun s : String => s.toList.length) hij
    simpa [oldRow, oldRun] using hlength
  have ids : (rows.map RunRow.id).Nodup := by
    rw [List.map_map]
    exact List.nodup_range.map injective
  obtain ⟨runs, hruns⟩ : ∃ runs, listRuns R 200 rows = some runs := by
    apply listRuns_succeeds
    intro row hrow
    obtain ⟨i, -, rfl⟩ := List.mem_map.mp hrow
    exact ⟨oldRun i, rfl⟩
  obtain ⟨rows', hrows'⟩ := @recoverRuns_succeeds savingEnv (fun _ => rfl) runs rows
  have recovery : recoverInterrupted R savingEnv rows = some rows' := by
    rw [recoverInterrupted, hruns]
    exact hrows'
  have queued : oldRow 0 ∈ rows := List.mem_map_of_mem (by simp)
  have read : oldRow 0 ∈ (R.list rows).take 200 := by
    obtain ⟨complete, idle⟩ := h R savingEnv rows rows' ids recovery
    obtain ⟨runs, hrows, each⟩ := recoverInterrupted_rows ids recovery
    rw [hrows, List.forall₂_map_right_iff, List.forall₂_same] at complete
    rw [hrows, List.forall_mem_map] at idle
    exact (each _ queued).mp ⟨complete _ queued, idle _ queued⟩ ⟨oldRun 0, rfl, rfl⟩
  refine (R.take_keeps 200 rows).least_dropped (List.Nodup.of_map RunRow.id ids) ?_ ?_ read
  · simp [rows]
  · intro row hrow hne
    obtain ⟨i, -, rfl⟩ := List.mem_map.mp hrow
    have later : i ≠ 0 := by
      rintro rfl
      exact hne rfl
    rw [RunRow.started, RunRow.started, oldRow, oldRow]
    simp only [later, if_true, if_false]
    decide

end

end Repository

end AdbControl.Automation
