import AdbControl.Automation.Bookkeeping

namespace AdbControl.Automation

open Framework

/-- A saved task is stored under the id of the path, whatever that is. -/
theorem saveTask_stored {tasks tasks' : TaskStore} {now : Nat} {buffer : Option (Vector UInt8 8)}
    {pathID : String} {task : Task} (hpath : pathID ≠ "")
    (hvalid : validate { task with id := pathID } = .ok ())
    (h : (saveTask tasks now buffer true pathID task).1 = tasks') :
    ∃ stored, tasks'[pathID]? = some stored ∧ stored.concurrencyPolicy =
      if task.concurrencyPolicy = "" then "skip" else task.concurrencyPolicy := by
  subst h
  simp [saveTask, save, hpath, hvalid]

theorem digitChar_ne_colon {n : Nat} (h : n < 16) : ':' ≠ n.digitChar := by
  have digits : ∀ n : Fin 16, ':' ≠ n.val.digitChar := by decide
  exact digits ⟨n, h⟩

/-- An identifier has no colon. -/
theorem identifier_colon {buffer : Option (Vector UInt8 8)} {runIdentifier : String}
    (h : identifier "run" buffer = .ok runIdentifier) : ':' ∉ runIdentifier.toList := by
  cases buffer with
  | none => cases h
  | some bytes =>
    cases h
    have digits : ':' ∉ hex bytes.toList := by
      simp only [hex, List.mem_flatMap, List.mem_cons, List.not_mem_nil, or_false, not_exists,
        not_and, not_or]
      intro b _
      have hb := b.toNat_lt
      exact ⟨digitChar_ne_colon (by omega), digitChar_ne_colon (Nat.mod_lt _ (by omega))⟩
    simp [digits]

theorem takeWhile_colon (l rest : List Char) :
    (l ++ ':' :: rest).takeWhile (fun c => c != ':') = l.takeWhile (fun c => c != ':') := by
  induction l with
  | nil => rfl
  | cons c l ih =>
    rw [List.cons_append, List.takeWhile_cons, List.takeWhile_cons, ih]

/-- The colon that a run's identifier follows is the last one of the run's id. -/
theorem runID_injective {taskID taskID' runIdentifier runIdentifier' : String}
    (hid : ':' ∉ runIdentifier.toList) (hid' : ':' ∉ runIdentifier'.toList)
    (h : taskID ++ ":" ++ runIdentifier = taskID' ++ ":" ++ runIdentifier') : taskID = taskID' := by
  have last (t x : List Char) (hx : ':' ∉ x) :
      ((t ++ ':' :: x).reverse.takeWhile (fun c => c != ':')).reverse = x := by
    have hnone : ∀ c ∈ x.reverse, (c != ':') = true := by
      intro c hc
      rw [bne_iff_ne]
      rintro rfl
      exact hx (List.mem_reverse.mp hc)
    rw [List.reverse_append, List.reverse_cons, List.append_assoc, List.singleton_append,
      takeWhile_colon, List.takeWhile_eq_self_iff.mpr hnone, List.reverse_reverse]
  have hlist : taskID.toList ++ ':' :: runIdentifier.toList =
      taskID'.toList ++ ':' :: runIdentifier'.toList := by
    simpa using congrArg String.toList h
  have same : runIdentifier.toList = runIdentifier'.toList := by
    rw [← last taskID.toList _ hid, hlist, last _ _ hid']
  rw [same] at hlist
  exact String.toList_inj.mp (List.append_cancel_right hlist)

theorem activeTask_toList (taskID runIdentifier : String) :
    (activeTask (taskID ++ ":" ++ runIdentifier)).toList =
      taskID.toList.takeWhile (fun c => c != ':') := by
  have hlist : (taskID ++ ":" ++ runIdentifier).toList =
      taskID.toList ++ ':' :: runIdentifier.toList := by
    simp
  have hcolon : ':' ∈ (taskID ++ ":" ++ runIdentifier).toList := by
    rw [hlist]
    simp
  rw [activeTask, if_pos hcolon, hlist, takeWhile_colon, String.toList_ofList]

/-- What comes before the first colon of a list is the list `l`: it has no colon, and is all of the
list, or all before a colon in it. -/
theorem takeWhile_eq_iff (t l : List Char) : t.takeWhile (fun c => c != ':') = l ↔
    ':' ∉ l ∧ (t = l ∨ (l ++ [':']).isPrefixOf t = true) := by
  induction t generalizing l with
  | nil =>
    cases l with
    | nil => simp
    | cons c l => simp
  | cons c t ih =>
    rw [List.takeWhile_cons]
    by_cases hc : c = ':'
    · subst hc
      cases l with
      | nil => simp
      | cons d l =>
        simp only [bne_self_eq_false, Bool.false_eq_true, if_false, List.cons_append,
          List.isPrefixOf, Bool.and_eq_true, beq_iff_eq, List.mem_cons, List.cons.injEq]
        grind
    · have hne : (c != ':') = true := by simpa using hc
      rw [if_pos hne]
      cases l with
      | nil => simp [Ne.symm hc]
      | cons d l =>
        have rest := ih l
        simp only [List.cons_append, List.isPrefixOf, Bool.and_eq_true, beq_iff_eq, List.mem_cons,
          List.cons.injEq]
        grind

/-- Which task a run's id is taken for: its own if that has no colon, else one whose id stands before
a colon in that. -/
theorem activeTask_eq_iff (taskID taskID' runIdentifier : String) :
    activeTask (taskID' ++ ":" ++ runIdentifier) = taskID ↔ ':' ∉ taskID.toList ∧
      (taskID' = taskID ∨ startsWith taskID' (taskID ++ ":") = true) := by
  rw [← String.toList_inj, activeTask_toList, takeWhile_eq_iff, String.toList_inj, startsWith]
  simp

/-- The run's id is its task's with an identifier. -/
def RunState.Named (r : RunState) : Prop := ∃ runIdentifier : String,
  ':' ∉ runIdentifier.toList ∧ r.run.id = r.run.taskID ++ ":" ++ runIdentifier

namespace ServiceState

variable {tasks : TaskStore} {s s' : ServiceState} {act : ServiceAct}

/-- The run is one of the task, and is not gone. -/
def ActiveRun (s : ServiceState) (taskID : String) (n : Nat) : Prop :=
  ∃ r, s.runs[n]? = some r ∧ r.run.taskID = taskID ∧ ¬r.Gone

/-- No stored task with the skip policy has two active runs. -/
def Alone (tasks : TaskStore) (s : ServiceState) : Prop :=
  ∀ (taskID : String) (task : Task), tasks[taskID]? = some task → task.concurrencyPolicy = "skip" →
    ∀ n m : Nat, s.ActiveRun taskID n → s.ActiveRun taskID m → n = m

/-- A start that the act makes is refused as already running only when a run of the task is active. -/
def Justified (tasks : TaskStore) (s : ServiceState) : ServiceAct → Prop
  | .run n taskID buffer => n ∉ s.runs →
    (s.beginRun tasks n taskID buffer).2 = .error concurrencySkipped →
      ∃ m, s.ActiveRun taskID m
  | _ => True

/-- An entry of the map is of a run of the task, or of a task whose id goes on after it with a
colon. -/
def EntryLike (s : ServiceState) (taskID : String) : Prop :=
  ∃ (key : String) (m : Nat) (r : RunState), s.controls[key]? = some m ∧ s.runs[m]? = some r ∧
    (r.run.taskID = taskID ∨ startsWith r.run.taskID (taskID ++ ":") = true)

/-- A start of a task with the skip policy: while a run of the task is active, the task's id has no
colon, or there is no identifier for another run; and otherwise the id has a colon, or no entry of
the map is like it, which would be of a run of the task that is gone or of another task. -/
def SkipSound (tasks : TaskStore) (s : ServiceState) : ServiceAct → Prop
  | .run n taskID buffer => n ∉ s.runs → ∀ task, tasks[taskID]? = some task →
    task.concurrencyPolicy = "skip" →
      ((∃ m, s.ActiveRun taskID m) → ':' ∉ taskID.toList ∨ buffer = none) ∧
      ((∀ m, ¬s.ActiveRun taskID m) → ':' ∈ taskID.toList ∨ ¬s.EntryLike taskID)
  | _ => True

/-- What is known of the ids of runs and of the map: every id is the task's with an identifier, every
entry is that of its run, and the active runs of tasks with the skip policy have theirs, where the
task's id has no colon. -/
structure Tracked (tasks : TaskStore) (s : ServiceState) : Prop where
  named : ∀ (n : Nat) (r : RunState), s.runs[n]? = some r → r.Named
  listed : s.Listed
  entered : ∀ (taskID : String) (task : Task), tasks[taskID]? = some task →
    task.concurrencyPolicy = "skip" → ':' ∉ taskID.toList → ∀ (n : Nat) (r : RunState),
    s.runs[n]? = some r → r.run.taskID = taskID → ¬r.Gone → s.controls[r.run.id]? = some n

/-- A task counts as busy when its id has no colon and an entry is like it. -/
theorem busy_iff (h : s.Tracked tasks) (taskID : String) :
    s.busy taskID = true ↔ ':' ∉ taskID.toList ∧ s.EntryLike taskID := by
  have keyLike {key : String} {m : Nat} (hm : s.controls[key]? = some m) :
      ∃ r, s.runs[m]? = some r ∧ key ≠ "" ∧ (activeTask key = taskID ↔ ':' ∉ taskID.toList ∧
        (r.run.taskID = taskID ∨ startsWith r.run.taskID (taskID ++ ":") = true)) := by
    obtain ⟨r, hr, rfl⟩ := h.listed key m hm
    obtain ⟨runIdentifier, -, hid⟩ := h.named m r hr
    refine ⟨r, hr, ?_, ?_⟩
    · rw [hid]
      intro hempty
      have := congrArg String.toList hempty
      simp at this
    · rw [hid]
      exact activeTask_eq_iff taskID r.run.taskID runIdentifier
  rw [busy, List.any_eq_true]
  constructor
  · rintro ⟨key, hkey, hmatches⟩
    rw [Bool.and_eq_true, beq_iff_eq] at hmatches
    obtain ⟨m, hm⟩ := (Keyed.mem_iff_lookup s.controls key).mp (Std.ExtTreeMap.mem_keys.mp hkey)
    obtain ⟨r, hr, -, hlike⟩ := keyLike hm
    have hlike := hlike.mp hmatches.2
    exact ⟨hlike.1, key, m, r, hm, hr, hlike.2⟩
  · rintro ⟨hcolon, key, m, r, hm, hr, hlike⟩
    obtain ⟨one, hone, hne, hactive⟩ := keyLike hm
    rw [hr] at hone
    cases hone
    have hkey : key ∈ s.controls.keys :=
      Std.ExtTreeMap.mem_keys.mpr ((Keyed.mem_iff_lookup s.controls key).mpr ⟨m, hm⟩)
    refine ⟨key, hkey, ?_⟩
    have hlength : 0 < key.length :=
      Nat.pos_of_ne_zero (fun hzero => hne (String.length_eq_zero_iff.mp hzero))
    rw [Bool.and_eq_true, beq_iff_eq, decide_eq_true_iff]
    exact ⟨hlength, hactive.mpr ⟨hcolon, hlike⟩⟩

theorem activeRun_of_releases {n : Nat} {r : RunState} (hr : s.runs[n]? = some r)
    {thread : Thread} (hreleases : r.releases thread = true) : s.ActiveRun r.run.taskID n := by
  refine ⟨r, hr, rfl, ?_⟩
  cases thread with
  | execute =>
    rw [RunState.releases_execute] at hreleases
    rcases hreleases with hpc | hpc <;> simp [RunState.Gone, hpc]
  | call k => simp [RunState.releases] at hreleases

/-- A run that is active after a step was so before, or has begun in it. -/
theorem activeRun_step {taskID : String} {n : Nat} (hsteps : Steps tasks s act s')
    (h : s'.ActiveRun taskID n) : s.ActiveRun taskID n ∨
      ∃ (buffer : Option (Vector UInt8 8)) (runIdentifier : String), act = .run n taskID buffer ∧
        s.runs[n]? = none ∧ identifier "run" buffer = .ok runIdentifier ∧
        ∀ task, tasks[taskID]? = some task → task.concurrencyPolicy = "skip" →
          s.busy taskID = false := by
  obtain ⟨r, hr, htask, hactive⟩ := h
  cases hsteps with
  | idles => exact Or.inl ⟨r, hr, htask, hactive⟩
  | @begins m taskID' buffer task runIdentifier hm hstored hskip hid =>
    rcases Keyed.lookup_insert_cases hr with ⟨rfl, rfl⟩ | ⟨-, hr⟩
    · subst htask
      refine Or.inr ⟨buffer, runIdentifier, rfl, hm, hid, ?_⟩
      intro one hone hpolicy
      have hsame : some task = some one := hstored.symm.trans hone
      cases hsame
      exact hskip hpolicy
    · exact Or.inl ⟨r, hr, htask, hactive⟩
  | @enters m _ _ _ op old _ hold _ =>
    rcases Keyed.lookup_insert_cases hr with ⟨rfl, rfl⟩ | ⟨-, hr⟩
    · exact Or.inl ⟨old, hold, htask, hactive⟩
    · exact Or.inl ⟨r, hr, htask, hactive⟩
  | @goes m thread ok old hold =>
    rcases Keyed.lookup_insert_cases hr with ⟨rfl, rfl⟩ | ⟨-, hr⟩
    · rw [RunState.go_gone_iff, not_or] at hactive
      rw [(old.go_same s.now ok thread).2] at htask
      exact Or.inl ⟨old, hold, htask, hactive.1⟩
    · exact Or.inl ⟨r, hr, htask, hactive⟩

theorem named_step (h : s.Tracked tasks) (hsteps : Steps tasks s act s') :
    ∀ (n : Nat) (r : RunState), s'.runs[n]? = some r → r.Named := by
  cases hsteps with
  | idles => exact h.named
  | @begins _ _ _ _ runIdentifier _ _ _ hid =>
    exact Keyed.forall_insert h.named ⟨runIdentifier, identifier_colon hid, rfl⟩
  | @enters m _ _ _ _ r _ hr _ => exact Keyed.forall_insert h.named (h.named m r hr)
  | @goes m thread ok r hr =>
    obtain ⟨runIdentifier, hcolon, hid⟩ := h.named m r hr
    obtain ⟨sameID, sameTask⟩ := r.go_same s.now ok thread
    exact Keyed.forall_insert h.named ⟨runIdentifier, hcolon, by rw [sameID, sameTask, hid]⟩

/-- Two runs under one id are of one task. -/
theorem same_task (h : s.Tracked tasks) {n m : Nat} {r r' : RunState} (hr : s.runs[n]? = some r)
    (hr' : s.runs[m]? = some r') (hid : r.run.id = r'.run.id) : r.run.taskID = r'.run.taskID := by
  obtain ⟨one, hone, he⟩ := h.named n r hr
  obtain ⟨two, htwo, he'⟩ := h.named m r' hr'
  rw [he, he'] at hid
  exact runID_injective hone htwo hid

/-- While a run of a task with the skip policy is active, the task is busy, unless its id has a
colon. -/
theorem busy_of_activeRun (h : s.Tracked tasks) {taskID : String} {task : Task} {n : Nat}
    (htask : tasks[taskID]? = some task) (hskip : task.concurrencyPolicy = "skip")
    (hcolon : ':' ∉ taskID.toList) (hactive : s.ActiveRun taskID n) : s.busy taskID = true := by
  obtain ⟨r, hr, hsame, hstays⟩ := hactive
  have entry := h.entered taskID task htask hskip hcolon n r hr hsame hstays
  exact (busy_iff h taskID).mpr ⟨hcolon, r.run.id, n, r, entry, hr, Or.inl hsame⟩

/-- An entry is removed by its own run alone, while no other run of the task is active. -/
theorem entered_skip_step (h : s.Tracked tasks) (halone : s.Alone tasks)
    (hsteps : Steps tasks s act s') (taskID : String) (task : Task)
    (htask : tasks[taskID]? = some task) (hpolicy : task.concurrencyPolicy = "skip")
    (hcolon : ':' ∉ taskID.toList) (n : Nat) (r : RunState) (hr : s'.runs[n]? = some r)
    (hsame : r.run.taskID = taskID) (hstays : ¬r.Gone) : s'.controls[r.run.id]? = some n := by
  apply entry_step hsteps hr hstays
  · intro old hold holdsame holdstays
    exact h.entered taskID task htask hpolicy hcolon n old hold (holdsame.trans hsame) holdstays
  · intro m taskID' buffer task' runIdentifier _ htask' hskip hid hr hsameID
    -- the run that begins would be of the task, which is busy
    obtain ⟨one, hone, hid'⟩ := h.named n r hr
    rw [hid'] at hsameID
    have hother : taskID' = taskID := by
      rw [← hsame, runID_injective hone (identifier_colon hid) hsameID]
    subst hother
    rw [htask] at htask'
    cases htask'
    have hbusy := busy_of_activeRun h htask hpolicy hcolon ⟨r, hr, hsame, hstays⟩
    rw [hskip hpolicy] at hbusy
    cases hbusy
  · intro m other thread hr hother hreleases hsameID
    have other_active := activeRun_of_releases hother hreleases
    rw [← same_task h hr hother hsameID, hsame] at other_active
    exact halone taskID task htask hpolicy n m ⟨r, hr, hsame, hstays⟩ other_active

theorem tracked_step (h : s.Tracked tasks) (halone : s.Alone tasks)
    (hsteps : Steps tasks s act s') : s'.Tracked tasks where
  named := named_step h hsteps
  listed := listed_step h.listed hsteps
  entered := entered_skip_step h halone hsteps

/-- A start is refused as already running exactly when the task has the skip policy and is busy. -/
theorem refused_iff (tasks : TaskStore) (s : ServiceState) (n : Nat) (taskID : String)
    (buffer : Option (Vector UInt8 8)) :
    (s.beginRun tasks n taskID buffer).2 = .error concurrencySkipped ↔ ∃ task,
      tasks[taskID]? = some task ∧ task.concurrencyPolicy = "skip" ∧ s.busy taskID = true := by
  unfold beginRun
  cases htask : tasks[taskID]? with
  | none => simp [taskNotFound, concurrencySkipped]
  | some task =>
    by_cases hskip : task.concurrencyPolicy = "skip" ∧ s.busy taskID = true
    · simp [hskip]
    · simp only [Option.some.injEq, exists_eq_left', hskip, iff_false]
      cases buffer with
      | none => simp [identifier, identifierFailed, concurrencySkipped]
      | some bytes => simp [identifier]

/-- A step that keeps to the skip policy leaves the runs of its tasks alone, and refuses no other
start. -/
theorem alone_step (h : s.Tracked tasks) (halone : s.Alone tasks) (hsound : s.SkipSound tasks act) :
    (step tasks s act).Alone tasks ∧ s.Justified tasks act := by
  constructor
  · intro taskID task htask hpolicy
    have hsteps := step_steps tasks s act
    have none_else {n m : Nat} (hn : (step tasks s act).ActiveRun taskID n)
        (hm : s.ActiveRun taskID m) : s.ActiveRun taskID n := by
      rcases activeRun_step hsteps hn with before | ⟨buffer, runIdentifier, rfl, hnew, hid, hfree⟩
      · exact before
      · exfalso
        have hbusy := hfree task htask hpolicy
        have cut := (hsound (by simpa using hnew) task htask hpolicy).1 ⟨m, hm⟩
        rcases cut with hcolon | rfl
        · rw [busy_of_activeRun h htask hpolicy hcolon hm] at hbusy
          cases hbusy
        · cases hid
    intro n m hn hm
    rcases activeRun_step hsteps hn with before | ⟨buffer, _, rfl, -, -, -⟩
    · exact halone taskID task htask hpolicy n m before (none_else hm before)
    · rcases activeRun_step hsteps hm with before | ⟨_, _, hact, -, -, -⟩
      · exact halone taskID task htask hpolicy n m (none_else hn before) before
      · cases hact
        rfl
  · cases act with
    | elapse | control | go => trivial
    | run n taskID buffer =>
      intro hnew hrefused
      obtain ⟨task, htask, hpolicy, hbusy⟩ := (refused_iff tasks s n taskID buffer).mp hrefused
      obtain ⟨hcolon, hlike⟩ := (busy_iff h taskID).mp hbusy
      by_contra hnone
      have kept := (hsound hnew task htask hpolicy).2 (not_exists.mp hnone)
      rcases kept with hin | hno
      · exact hcolon hin
      · exact hno hlike

/-- A step keeps the skip policy exactly when its start, if it is one, is sound. -/
theorem alone_step_iff (h : s.Tracked tasks) (halone : s.Alone tasks) :
    (step tasks s act).Alone tasks ∧ s.Justified tasks act ↔ s.SkipSound tasks act := by
  constructor
  · rintro ⟨hafter, hjustified⟩
    cases act with
    | elapse | control | go => trivial
    | run n taskID buffer =>
      intro hnew task htask hpolicy
      constructor
      · rintro ⟨m, hm⟩
        by_contra hnot
        rw [not_or, not_not] at hnot
        obtain ⟨hcolon, hbuffer⟩ := hnot
        -- the id of the task is cut short, so a second run begins
        have hfree : s.busy taskID = false := by
          rw [← Bool.not_eq_true, busy_iff h]
          exact fun hbusy => hbusy.1 hcolon
        obtain ⟨bytes, rfl⟩ := Option.ne_none_iff_exists'.mp hbuffer
        obtain ⟨r, hr, hsame, hstays⟩ := hm
        have hne : m ≠ n := by
          rintro rfl
          exact hnew ((Keyed.mem_iff_lookup s.runs m).mpr ⟨r, hr⟩)
        have old : (step tasks s (.run n taskID (some bytes))).ActiveRun taskID m :=
          ⟨r, by simp [step, hnew, beginRun, htask, hfree, identifier, hne, hr], hsame, hstays⟩
        have new : (step tasks s (.run n taskID (some bytes))).ActiveRun taskID n := by
          refine ⟨.fresh (taskID ++ ":" ++ String.ofList ("run".toList ++ '-' :: hex bytes.toList))
            taskID task.actions, ?_, rfl, ?_⟩
          · simp [step, hnew, beginRun, htask, hfree, identifier]
          · simp [RunState.Gone, RunState.fresh]
        exact hne (hafter taskID task htask hpolicy m n old new)
      · intro hnone
        by_contra hnot
        rw [not_or, not_not] at hnot
        have hbusy := (busy_iff h taskID).mpr hnot
        obtain ⟨m, hm⟩ := hjustified hnew
          ((refused_iff tasks s n taskID buffer).mpr ⟨task, htask, hpolicy, hbusy⟩)
        exact hnone m hm
  · exact alone_step h halone

/-- From the start of the service on: no task with the skip policy ever has two active runs, and a
start is refused for an active run of its task alone, exactly when every start is sound. -/
theorem skip_exact_iff (tasks : TaskStore) (rows : Keyed String Run) (acts : List ServiceAct) :
    Along (step tasks) (fun s act => (step tasks s act).Alone tasks ∧ s.Justified tasks act)
      (start rows) acts ↔ Along (step tasks) (SkipSound tasks) (start rows) acts := by
  apply along_congr (fun s : ServiceState => s.Tracked tasks ∧ s.Alone tasks)
  · intro s act hs hact
    exact ⟨tracked_step hs.1 hs.2 (step_steps tasks s act), hact.1⟩
  · intro s act hs
    exact alone_step_iff hs.1 hs.2
  · have none_there {n : Nat} {r : RunState} (hr : (start rows).runs[n]? = some r) : False := by
      simp [start] at hr
    refine ⟨⟨fun n r hr => (none_there hr).elim, ?_, ?_⟩, ?_⟩
    · intro key n hn
      simp [start] at hn
    · intro taskID task _ _ _ n r hr
      exact (none_there hr).elim
    · intro taskID task _ _ n m hn
      obtain ⟨r, hr, -⟩ := hn
      exact (none_there hr).elim

/-- A task with a colon in its id, as the handler saves it. -/
def colonTask : TaskStore := (saveTask ∅ 0 none true "a:b" oneAction).1

/-- Both starts of it are accepted, and two of its runs are active. -/
theorem two_runs_of_one_task : ¬∀ (tasks : TaskStore) (rows : Keyed String Run)
    (acts : List ServiceAct), Along (step tasks)
      (fun s act => (step tasks s act).Alone tasks ∧ s.Justified tasks act) (start rows) acts := by
  intro h
  have both := (h colonTask ∅ ([.run 0 "a:b" (some (.replicate 8 0))] ++
    [.run 1 "a:b" (some (.replicate 8 1))])).at.1
  have stored : ∃ task, colonTask["a:b"]? = some task ∧ task.concurrencyPolicy = "skip" :=
    saveTask_stored (by decide) rfl rfl
  obtain ⟨task, htask, hpolicy⟩ := stored
  have active (n : Nat) (hn : ((step colonTask (run (step colonTask) (start ∅)
      [.run 0 "a:b" (some (.replicate 8 0))]) (.run 1 "a:b" (some (.replicate 8 1)))).runs[n]?.map
        (fun r => (r.run.taskID, r.execute))) = some ("a:b", .creating)) :
      (step colonTask (run (step colonTask) (start ∅) [.run 0 "a:b" (some (.replicate 8 0))])
        (.run 1 "a:b" (some (.replicate 8 1)))).ActiveRun "a:b" n := by
    obtain ⟨r, hr, hfields⟩ := Option.map_eq_some_iff.mp hn
    rw [Prod.mk.injEq] at hfields
    refine ⟨r, hr, hfields.1, ?_⟩
    rintro (hpc | hpc) <;> rw [hfields.2] at hpc <;> cases hpc
  have first := active 0 (by decide)
  have second := active 1 (by decide)
  have same := both "a:b" task htask hpolicy 0 1 first second
  cases same

end ServiceState

end AdbControl.Automation
