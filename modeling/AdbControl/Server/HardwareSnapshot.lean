import AdbControl.Server.HardwareMonitor

namespace AdbControl.Server.Hardware

open Framework

namespace Monitors

variable {m : Monitors} {left : List String} {listed : List Status}

/-- The device's task is running, with these metrics. -/
def Runs (m : Monitors) (deviceId : String) (metrics : List String) : Prop :=
  ∃ task, m.taskOf deviceId = some task ∧ task.running = true ∧ task.metrics = metrics

/-- Every device's task is its own. -/
def Named (m : Monitors) : Prop :=
  ∀ deviceId i, m.current[deviceId]? = some i →
    ∃ task : Status, m.tasks[i]? = some task ∧ task.deviceId = deviceId

/-- Of all devices but those that are left, exactly the ones that run are listed, each once and with
its metrics. -/
structure Lists (m : Monitors) (left : List String) (listed : List Status) : Prop where
  nodup : (left ++ listed.map (·.deviceId)).Nodup
  exact : ∀ status : Status, status.deviceId ∉ left →
    (status ∈ listed ↔ status.running = true ∧ m.Runs status.deviceId status.metrics)

theorem named_new : new.Named := by
  intro deviceId i h
  simp [new] at h

theorem Named.start (h : m.Named) (deviceId : String) (metrics : List String) :
    (m.start deviceId metrics).Named := by
  intro other i hi
  rcases Keyed.lookup_insert_cases hi with ⟨rfl, rfl⟩ | ⟨-, hi⟩
  · exact ⟨⟨other, true, metrics⟩, List.getElem?_concat_length, rfl⟩
  · obtain ⟨task, htask, hname⟩ := h other i hi
    obtain ⟨hlt, -⟩ := List.getElem?_eq_some_iff.mp htask
    exact ⟨task, by rw [Monitors.start, List.getElem?_append_left hlt, htask], hname⟩

theorem Named.halt (h : m.Named) (j : Nat) : (m.halt j).Named := by
  intro other i hi
  obtain ⟨task, htask, hname⟩ := h other i hi
  show ∃ task : Status, (m.tasks.modify j _)[i]? = some task ∧ _
  rw [List.getElem?_modify, htask]
  exact ⟨_, rfl, by split_ifs <;> exact hname⟩

theorem Named.saved (h : m.Named) (deviceId : String) (status : Status) :
    status ∈ m.saved deviceId ↔
      status.deviceId = deviceId ∧ status.running = true ∧ m.Runs deviceId status.metrics := by
  unfold Monitors.saved Runs
  cases htask : m.taskOf deviceId with
  | none => simp
  | some task =>
    have hname : task.deviceId = deviceId := by
      unfold taskOf at htask
      cases hi : m.current[deviceId]? with
      | none =>
        rw [hi] at htask
        cases htask
      | some i =>
        rw [hi] at htask
        obtain ⟨task', htask', hname⟩ := h deviceId i hi
        obtain rfl := Option.some.inj (htask'.symm.trans htask)
        exact hname
    dsimp only
    split_ifs with hrunning
    · rw [List.mem_singleton]
      constructor
      · rintro rfl
        exact ⟨hname, hrunning, status, rfl, hrunning, rfl⟩
      · rintro ⟨hdevice, hstatus, task', htask', -, hmetrics⟩
        obtain rfl := Option.some.inj htask'
        cases status
        cases task
        simp_all
    · constructor
      · nofun
      · rintro ⟨-, -, task', htask', hrun, -⟩
        obtain rfl := Option.some.inj htask'
        exact (hrunning hrun).elim

/-- At first all is left. -/
theorem lists_keys (m : Monitors) : m.Lists m.current.keys [] := by
  constructor
  · rw [List.map_nil, List.append_nil]
    have distinct := Std.ExtTreeMap.distinct_keys (t := m.current)
    exact distinct.imp fun hne heq => hne (Std.LawfulEqCmp.compare_eq_iff_eq.mpr heq)
  · intro status hleft
    refine iff_of_false List.not_mem_nil ?_
    rintro ⟨-, task, htask, -⟩
    apply hleft
    rw [Std.ExtTreeMap.mem_keys, Keyed.mem_iff_lookup]
    unfold taskOf at htask
    cases hi : m.current[status.deviceId]? with
    | none =>
      rw [hi] at htask
      cases htask
    | some i => exact ⟨i, rfl⟩

/-- A device that is looked at is listed as it is. -/
theorem Lists.look (h : m.Lists left listed) (hnamed : m.Named) {deviceId : String}
    (hmem : deviceId ∈ left) :
    m.Lists (left.erase deviceId) (listed ++ m.saved deviceId) := by
  have hleft : left.Nodup := (List.nodup_append.mp h.nodup).1
  have apart : ∀ a ∈ left, ∀ b ∈ listed.map (·.deviceId), a ≠ b := (List.nodup_append.mp h.nodup).2.2
  have fresh : ∀ status ∈ listed, status.deviceId ≠ deviceId := by
    intro status hstatus heq
    exact apart deviceId hmem status.deviceId (List.mem_map_of_mem hstatus) heq.symm
  have one : ((m.saved deviceId).map (·.deviceId)).Nodup := by
    unfold Monitors.saved
    split
    · exact List.nodup_nil
    · split_ifs
      · exact List.nodup_singleton _
      · exact List.nodup_nil
  have own : ∀ b ∈ (m.saved deviceId).map (·.deviceId), b = deviceId := by
    intro b hb
    obtain ⟨status, hstatus, rfl⟩ := List.mem_map.mp hb
    exact ((hnamed.saved deviceId status).mp hstatus).1
  constructor
  · rw [List.map_append, List.nodup_append]
    refine ⟨hleft.erase deviceId, ?_, ?_⟩
    · rw [List.nodup_append]
      refine ⟨(List.nodup_append.mp h.nodup).2.1, one, ?_⟩
      intro a ha b hb hab
      obtain ⟨status, hstatus, rfl⟩ := List.mem_map.mp ha
      exact fresh status hstatus (hab.trans (own b hb))
    · intro a ha b hb hab
      rcases List.mem_append.mp hb with hb | hb
      · exact apart a (List.mem_of_mem_erase ha) b hb hab
      · rw [hab, own b hb] at ha
        exact hleft.not_mem_erase ha
  · intro status hstatus
    rw [List.mem_append, hnamed.saved]
    by_cases hdevice : status.deviceId = deviceId
    · constructor
      · rintro (hold | ⟨-, hrunning, hruns⟩)
        · exact (fresh status hold hdevice).elim
        · exact ⟨hrunning, hdevice ▸ hruns⟩
      · rintro ⟨hrunning, hruns⟩
        exact Or.inr ⟨hdevice, hrunning, hdevice ▸ hruns⟩
    · have hout : status.deviceId ∉ left := fun hin =>
        hstatus ((List.mem_erase_of_ne hdevice).mpr hin)
      rw [h.exact status hout]
      constructor
      · rintro (hruns | ⟨hsame, -⟩)
        · exact hruns
        · exact (hdevice hsame).elim
      · exact Or.inl

theorem isRunning_iff (m : Monitors) (deviceId : String) :
    m.isRunning deviceId = true ↔ ∃ metrics, m.Runs deviceId metrics := by
  unfold isRunning Runs
  cases m.taskOf deviceId with
  | none => simp
  | some task => simp

theorem runs_start (hnamed : m.Named) (deviceId other : String) (metrics observed : List String) :
    (m.start deviceId metrics).Runs other observed ↔
      other = deviceId ∧ observed = metrics ∨ other ≠ deviceId ∧ m.Runs other observed := by
  unfold Runs
  have found : (m.start deviceId metrics).taskOf other =
      if other = deviceId then some ⟨deviceId, true, metrics⟩ else m.taskOf other := by
    unfold taskOf Monitors.start
    rw [Keyed.lookup_insert]
    by_cases hother : other = deviceId
    · rw [if_pos hother, if_pos hother]
      exact List.getElem?_concat_length
    · rw [if_neg hother, if_neg hother]
      cases hi : m.current[other]? with
      | none => rfl
      | some i =>
        obtain ⟨task, htask, -⟩ := hnamed other i hi
        obtain ⟨hlt, -⟩ := List.getElem?_eq_some_iff.mp htask
        exact List.getElem?_append_left hlt
  rw [found]
  by_cases hother : other = deviceId
  · rw [if_pos hother]
    constructor
    · rintro ⟨task, htask, -, hmetrics⟩
      obtain rfl := Option.some.inj htask
      exact Or.inl ⟨hother, hmetrics.symm⟩
    · rintro (⟨-, rfl⟩ | ⟨hne, -⟩)
      · exact ⟨_, rfl, rfl, rfl⟩
      · exact (hne hother).elim
  · rw [if_neg hother]
    constructor
    · exact fun hruns => Or.inr ⟨hother, hruns⟩
    · rintro (⟨heq, -⟩ | ⟨-, hruns⟩)
      · exact (hother heq).elim
      · exact hruns

/-- Every saved status of a device of its own is resumed, if the device has a name. -/
theorem runs_resume {saved : List Status} (hnamed : m.Named)
    (hnodup : (saved.map (·.deviceId)).Nodup)
    (hidle : ∀ status ∈ saved, m.isRunning status.deviceId = false) (deviceId : String)
    (metrics : List String) :
    (m.resume saved).Runs deviceId metrics ↔ m.Runs deviceId metrics ∨
      deviceId ≠ "" ∧ (⟨deviceId, true, metrics⟩ : Status) ∈ saved := by
  induction saved generalizing m with
  | nil => simp [resume]
  | cons status rest ih =>
    rw [List.map_cons, List.nodup_cons] at hnodup
    have hstatus := hidle status List.mem_cons_self
    have hrest : ∀ other ∈ rest, other.deviceId ≠ status.deviceId := fun other hother heq =>
      hnodup.1 (heq ▸ List.mem_map_of_mem hother)
    show ((if status.running = true ∧ status.deviceId ≠ "" ∧ m.isRunning status.deviceId = false then
      m.start status.deviceId status.metrics else m).resume rest).Runs deviceId metrics ↔ _
    rw [List.mem_cons]
    split_ifs with hstart
    · have still : ∀ other ∈ rest,
          (m.start status.deviceId status.metrics).isRunning other.deviceId = false := by
        intro other hother
        rw [Bool.eq_false_iff, Ne, isRunning_iff]
        rintro ⟨observed, hruns⟩
        rcases (runs_start hnamed ..).mp hruns with ⟨heq, -⟩ | ⟨-, hruns⟩
        · exact hrest other hother heq
        · have idle := hidle other (List.mem_cons_of_mem _ hother)
          rw [(m.isRunning_iff _).mpr ⟨observed, hruns⟩] at idle
          cases idle
      rw [ih (hnamed.start _ _) hnodup.2 still, runs_start hnamed]
      constructor
      · rintro ((⟨rfl, rfl⟩ | ⟨-, hruns⟩) | ⟨hname, hmem⟩)
        · refine Or.inr ⟨hstart.2.1, Or.inl ?_⟩
          rw [← hstart.1]
        · exact Or.inl hruns
        · exact Or.inr ⟨hname, Or.inr hmem⟩
      · rintro (hruns | ⟨hname, rfl | hmem⟩)
        · refine Or.inl (Or.inr ⟨?_, hruns⟩)
          rintro rfl
          rw [(m.isRunning_iff _).mpr ⟨metrics, hruns⟩] at hstatus
          cases hstatus
        · exact Or.inl (Or.inl ⟨rfl, rfl⟩)
        · exact Or.inr ⟨hname, hmem⟩
    · rw [ih hnamed hnodup.2 fun other hother => hidle other (List.mem_cons_of_mem _ hother)]
      constructor
      · rintro (hruns | ⟨hname, hmem⟩)
        · exact Or.inl hruns
        · exact Or.inr ⟨hname, Or.inr hmem⟩
      · rintro (hruns | ⟨hname, rfl | hmem⟩)
        · exact Or.inl hruns
        · exact (hstart ⟨rfl, hname, hstatus⟩).elim
        · exact Or.inr ⟨hname, hmem⟩

/-- A new manager resumes from a complete list exactly what runs, but for a device without a
name. -/
theorem Lists.resume (h : m.Lists [] listed) (deviceId : String) (metrics : List String) :
    (new.resume listed).Runs deviceId metrics ↔ deviceId ≠ "" ∧ m.Runs deviceId metrics := by
  have idle (status : Status) : new.isRunning status.deviceId = false := by
    simp [isRunning, taskOf, new]
  have none : ¬new.Runs deviceId metrics := fun hruns => by
    have running := (new.isRunning_iff deviceId).mpr ⟨metrics, hruns⟩
    rw [idle ⟨deviceId, true, metrics⟩] at running
    cases running
  rw [runs_resume named_new h.nodup (fun status _ => idle status),
    h.exact ⟨deviceId, true, metrics⟩ List.not_mem_nil]
  simp [none]

end Monitors

end AdbControl.Server.Hardware
