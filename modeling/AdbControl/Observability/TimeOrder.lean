import AdbControl.Automation.Repository
import AdbControl.Observability.Repository

namespace AdbControl.Observability

open Framework

section

variable {α : Type*} (time : α → UtcTime)

/-- The newest row first -/
def Chronological (rows : List α) : Prop :=
  rows.Pairwise fun a b => (time b).instant ≤ (time a).instant

/-- No row's time is another's that is cut off after some place of its second. -/
def NoneCutOff (rows : List α) : Prop :=
  ∀ a ∈ rows, ∀ b ∈ rows, ¬(time a).CutOff (time b)

variable {time} {rows : List α}

/-- Rows that come by their texts come by their times exactly when none is cut off. -/
theorem chronological_iff (O : OrderBy fun a => (time a).rfc3339Nano) :
    Chronological time (O.list rows) ↔ NoneCutOff time rows := by
  have sorted := O.sorted rows
  constructor
  · intro h a ha b hb hcut
    have hlt : (time a).instant < (time b).instant := by
      obtain ⟨hne, k, -, he⟩ := hcut
      refine lt_of_le_of_ne ?_ hne
      rw [he]
      exact Nat.div_mul_le_self _ _
    obtain ⟨i, hi, hai⟩ := List.mem_iff_getElem.mp (O.mem_list.mpr ha)
    obtain ⟨j, hj, hbj⟩ := List.mem_iff_getElem.mp (O.mem_list.mpr hb)
    rcases Nat.lt_trichotomy i j with hij | hij | hij
    · have times := List.pairwise_iff_getElem.mp h i j hi hj hij
      rw [hai, hbj] at times
      omega
    · subst hij
      rw [← hai, ← hbj] at hlt
      omega
    · -- of a cut-off time the text is the greater one
      have text := List.pairwise_iff_getElem.mp sorted j i hj hi hij
      rw [hai, hbj] at text
      have same := le_antisymm text (not_lt.mp (mt (UtcTime.rfc3339Nano_lt_iff hlt).mp
        (not_not.mpr hcut)))
      exact hlt.ne (UtcTime.rfc3339Nano_inj same)
  · intro h
    refine sorted.imp_of_mem ?_
    intro a b ha hb htext
    exact UtcTime.rfc3339Nano_le_iff.mpr (h a (O.mem_list.mp ha) b (O.mem_list.mp hb)) htext

theorem NoneCutOff.keeps {limit : Nat} {kept : List α} (h : NoneCutOff time rows)
    (hkept : KeepsGreatest (fun a => (time a).rfc3339Nano) limit kept rows) :
    KeepsGreatest (fun a => (time a).instant) limit kept rows :=
  hkept.of_key fun a ha b hb htext => UtcTime.rfc3339Nano_le_iff.mpr (h a ha b hb) htext

theorem NoneCutOff.mono {rows' : List α} (h : NoneCutOff time rows) (hsub : rows' ⊆ rows) :
    NoneCutOff time rows' :=
  fun a ha b hb => h a (hsub ha) b (hsub hb)

end

section

variable (E : OrderBy Event.created) (T : OrderBy Automation.TaskRow.updated)
  (R : OrderBy Automation.RunRow.started)

/-- All events that these calls have saved, in their order -/
def history (calls : List Repository.SaveCall) : List Event :=
  eventsOf (Repository.step E) Repository.saved [] calls

/-- The table of the events after these calls -/
def tableAfter (calls : List Repository.SaveCall) : List Event := run (Repository.step E) [] calls

/-- The events come newest first, the table keeps the newest of all, and a query drops none for an
older one. -/
structure EventsInOrder (like : Event → String → Bool) (calls : List Repository.SaveCall) :
    Prop where
  order : Chronological Event.createdAt (E.list (history E calls))
  newest : KeepsGreatest (fun event => event.createdAt.instant) maxEvents (tableAfter E calls)
    (history E calls)
  queries : ∀ query,
    Chronological Event.createdAt (Repository.list E like query (tableAfter E calls)) ∧
      KeepsGreatest (fun event => event.createdAt.instant) (Repository.listLimit query)
        (Repository.list E like query (tableAfter E calls))
        ((tableAfter E calls).filter (Repository.selects like query))

/-- The tasks are listed with the one first that was updated last. -/
structure TasksInOrder (rows : List Automation.TaskRow) : Prop where
  order : Chronological Automation.TaskRow.updatedAt (Automation.Repository.selectTasks T rows)
  listed : Automation.Repository.listTasks T rows =
    (Automation.Repository.selectTasks T rows).map Automation.TaskRow.definition

/-- The runs are ordered with the newest first, and no limit drops one for an older one. -/
structure RunsInOrder (rows : List Automation.RunRow) : Prop where
  order : Chronological Automation.RunRow.startedAt (R.list rows)
  limits : ∀ limit,
    Chronological Automation.RunRow.startedAt (Automation.Repository.selectRuns R limit rows) ∧
      KeepsGreatest (fun row => row.startedAt.instant) (Automation.Repository.runLimit limit)
        (Automation.Repository.selectRuns R limit rows) rows

variable {E T R}

theorem keepsNewest_run (calls : List Repository.SaveCall) :
    Repository.KeepsNewest (tableAfter E calls) (history E calls) := by
  have start : Repository.KeepsNewest [] [] :=
    ⟨List.nodup_nil, rfl, [], List.Perm.refl _, nofun⟩
  have kept := run_history Repository.KeepsNewest
    (fun table history call h => @Repository.keepsNewest_step E table history h call) calls start
  rwa [List.nil_append] at kept

theorem eventsInOrder_iff {like : Event → String → Bool} {calls : List Repository.SaveCall} :
    EventsInOrder E like calls ↔ NoneCutOff Event.createdAt (history E calls) := by
  constructor
  · intro h
    exact (chronological_iff E).mp h.order
  · intro h
    have newest := (keepsNewest_run (E := E) calls).keeps
    have reversed : NoneCutOff Event.createdAt (history E calls).reverse :=
      h.mono (List.reverse_perm _).subset
    refine ⟨(chronological_iff E).mpr h,
      (reversed.keeps newest).perm_rows (List.reverse_perm _), ?_⟩
    intro query
    have rows : NoneCutOff Event.createdAt
        ((tableAfter E calls).filter (Repository.selects like query)) :=
      reversed.mono fun event hevent => newest.subset (List.mem_of_mem_filter hevent)
    have listed := (chronological_iff E).mpr rows
    exact ⟨listed.sublist (List.take_sublist _ _), rows.keeps (E.take_keeps _ _)⟩

theorem tasksInOrder_iff {rows : List Automation.TaskRow} :
    TasksInOrder T rows ↔ NoneCutOff Automation.TaskRow.updatedAt rows :=
  ⟨fun h => (chronological_iff T).mp h.order, fun h => ⟨(chronological_iff T).mpr h, rfl⟩⟩

theorem runsInOrder_iff {rows : List Automation.RunRow} :
    RunsInOrder R rows ↔ NoneCutOff Automation.RunRow.startedAt rows := by
  constructor
  · intro h
    exact (chronological_iff R).mp h.order
  · intro h
    have order := (chronological_iff R).mpr h
    exact ⟨order, fun limit => ⟨order.sublist (List.take_sublist _ _), h.keeps (R.take_keeps _ _)⟩⟩

end

/-- The orders by the stored texts are those by the times, and all that is built on them keeps the
newest rows, exactly when no stored time is another one cut off after some place of its second. -/
theorem stored_order_iff (E : OrderBy Event.created) (T : OrderBy Automation.TaskRow.updated)
    (R : OrderBy Automation.RunRow.started) (like : Event → String → Bool)
    (calls : List Repository.SaveCall) (tasks : List Automation.TaskRow)
    (runs : List Automation.RunRow) :
    (EventsInOrder E like calls ∧ TasksInOrder T tasks ∧ RunsInOrder R runs) ↔
    NoneCutOff Event.createdAt (history E calls) ∧
      NoneCutOff Automation.TaskRow.updatedAt tasks ∧
      NoneCutOff Automation.RunRow.startedAt runs := by
  rw [eventsInOrder_iff, tasksInOrder_iff, runsInOrder_iff]

section Noon

private def noon : UtcTime where
  year := 2026
  month := 1
  day := 1
  hour := 12
  minute := 0
  second := 0
  nanosecond := 0
  year_le := by decide
  month_le := by decide
  day_le := by decide
  hour_lt := by decide
  minute_lt := by decide
  second_lt := by decide
  nanosecond_lt := by decide

/-- Half a second past noon -/
private def pastNoon : UtcTime :=
  { noon with
    nanosecond := 500000000
    nanosecond_lt := by decide }

private def aRun (id : String) : Automation.Run where
  id := id
  taskID := "task"
  status := .succeeded
  completedSteps := 1
  totalSteps := 1
  errorCode := ""
  startedAt := none
  finishedAt := none

private def noonRuns : List Automation.RunRow :=
  Automation.Repository.saveRun (Automation.Repository.saveRun [] (aRun "first") noon)
    (aRun "second") pastNoon

/-- A run of noon is listed before one that has started half a second later. -/
theorem noon_listed_first : ¬∀ (E : OrderBy Event.created) (T : OrderBy Automation.TaskRow.updated)
    (R : OrderBy Automation.RunRow.started) (like : Event → String → Bool)
    (calls : List Repository.SaveCall) (tasks : List Automation.TaskRow)
    (runs : List Automation.RunRow),
    EventsInOrder E like calls ∧ TasksInOrder T tasks ∧ RunsInOrder R runs := by
  intro h
  have runs := (h (.stable _) (.stable _) (.stable _) (fun _ _ => false) [] [] noonRuns).2.2
  have apart := runsInOrder_iff.mp runs
  have same : noon.seconds = pastNoon.seconds :=
    UtcTime.seconds_eq_iff.mpr ⟨rfl, rfl, rfl, rfl, rfl, rfl⟩
  have cut : noon.CutOff pastNoon :=
    UtcTime.cutOff_iff.mpr ⟨same, by decide, 9, le_refl 9, by decide⟩
  have hnoon : (⟨"first", some (aRun "first"), noon, by simp [aRun]⟩ : Automation.RunRow) ∈
      noonRuns := by
    simp [noonRuns, Automation.Repository.saveRun, aRun]
  have hpast : (⟨"second", some (aRun "second"), pastNoon, by simp [aRun]⟩ : Automation.RunRow) ∈
      noonRuns := by
    simp [noonRuns, Automation.Repository.saveRun, aRun]
  exact apart _ hnoon _ hpast cut

end Noon

end AdbControl.Observability
