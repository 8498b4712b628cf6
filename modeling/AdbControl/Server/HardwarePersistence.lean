import AdbControl.Server.HardwareSnapshot

namespace AdbControl.Server.Hardware

open Framework

namespace Disk

variable {disk : Disk} {i : Nat} {content : List UInt8}

/-- The temporary file and the saved one are there, and are not the same. -/
structure Sound (disk : Disk) : Prop where
  temporary : ∀ i, disk.temporary = some i → i < disk.inodes.length ∧ disk.file ≠ some i
  file : ∀ i, disk.file = some i → i < disk.inodes.length

theorem Sound.create (h : disk.Sound) : disk.create.1.Sound := by
  unfold Disk.create
  cases htemporary : disk.temporary with
  | some i =>
    constructor
    · intro j hj
      rw [List.length_set]
      exact h.temporary j (htemporary ▸ hj)
    · intro j hj
      rw [List.length_set]
      exact h.file j hj
  | none =>
    constructor
    · intro j hj
      obtain rfl := Option.some.inj hj
      rw [List.length_append]
      exact ⟨Nat.lt_succ_self _, fun hfile => (h.file _ hfile).ne rfl⟩
    · intro j hj
      rw [List.length_append]
      exact Nat.lt_succ_of_lt (h.file j hj)

/-- The temporary file is empty when it is opened. -/
theorem create_blank (h : disk.Sound) :
    disk.create.1.temporary = some disk.create.2 ∧
      disk.create.1.inodes[disk.create.2]? = some [] := by
  unfold Disk.create
  cases htemporary : disk.temporary with
  | some i => exact ⟨rfl, List.getElem?_set_self (h.temporary i htemporary).1⟩
  | none => exact ⟨rfl, List.getElem?_concat_length⟩

/-- Opening the temporary file leaves the saved one alone. -/
theorem content_create (h : disk.Sound) : disk.create.1.content = disk.content := by
  unfold Disk.create content
  cases htemporary : disk.temporary with
  | some i =>
    cases hfile : disk.file with
    | none => rfl
    | some j =>
      have apart : i ≠ j := fun hij => (h.temporary i htemporary).2 (hij ▸ hfile)
      dsimp only
      exact List.getElem?_set_ne apart
  | none =>
    cases hfile : disk.file with
    | none => rfl
    | some j =>
      dsimp only
      exact List.getElem?_append_left (h.file j hfile)

theorem Sound.write (h : disk.Sound) (i : Nat) (content : List UInt8) :
    (disk.write i content).Sound := by
  have length : (disk.write i content).inodes.length = disk.inodes.length := List.length_modify ..
  constructor
  · intro j hj
    rw [length]
    exact h.temporary j hj
  · intro j hj
    rw [length]
    exact h.file j hj

theorem write_blank (h : disk.inodes[i]? = some []) :
    (disk.write i content).inodes[i]? = some content := by
  unfold write
  rw [List.getElem?_modify_eq, h]
  simp

theorem content_write (h : disk.Sound) (htemporary : disk.temporary = some i) :
    (disk.write i content).content = disk.content := by
  unfold write Disk.content
  cases hfile : disk.file with
  | none => rfl
  | some j =>
    have apart : i ≠ j := fun hij => (h.temporary i htemporary).2 (hij ▸ hfile)
    dsimp only
    exact List.getElem?_modify_ne _ _ apart

end Disk

namespace CallPc

/-- What is going to be the file will list exactly what runs, unless the memory changes. -/
def Promises (m : Monitors) : CallPc → Prop
  | .persisting => True
  | .listing left listed => m.Lists left listed
  | .opening listed => m.Lists [] listed
  | .writing _ listed => m.Lists [] listed
  | .replacing listed => m.Lists [] listed
  | _ => False

/-- The call uses the temporary file. -/
def isFiling : CallPc → Bool
  | .writing _ _ => true
  | .replacing _ => true
  | _ => false

end CallPc

namespace MonitorState

variable (marshal : List Status → List UInt8) (s : MonitorState)

/-- The file lists exactly the devices whose task is running, each with its metrics; there is none
before anything has run. -/
def FileLists : Prop :=
  match s.disk.content with
  | none => ∀ deviceId metrics, ¬s.monitors.Runs deviceId metrics
  | some content => ∃ listed, content = marshal listed ∧ s.monitors.Lists [] listed

def Promised (k : Nat) : Prop :=
  ∃ pc, s.calls[k]? = some pc ∧ pc.Promises s.monitors

/-- No call is under way, and the file is as it should be. -/
structure Settled : Prop where
  calls : s.calls = []
  named : s.monitors.Named
  sound : s.disk.Sound
  lists : s.FileLists marshal

/-- What is renamed lists exactly what runs, or another call is about to write what does. -/
def InOrder (s : MonitorState) : MonitorAct → Prop
  | .go k _ _ => ∀ listed, s.calls[k]? = some (.replacing listed) →
      s.monitors.Lists [] listed ∨ ∃ j, j ≠ k ∧ s.Promised j
  | _ => True

/-- No call has failed to write. -/
def Unfailed : Prop := ∀ pc ∈ s.calls, pc ≠ .returned true

/-- The temporary file is of one call. -/
def Alone : Prop := s.calls.countP CallPc.isFiling ≤ if s.disk.temporary.isSome then 1 else 0

/-- The temporary file is as the call that uses it left it. -/
structure Filed : Prop where
  named : s.monitors.Named
  sound : s.disk.Sound
  writing : ∀ (k : Nat) i listed, s.calls[k]? = some (.writing i listed) →
    s.disk.temporary = some i ∧ s.disk.inodes[i]? = some []
  replacing : ∀ (k : Nat) listed, s.calls[k]? = some (.replacing listed) →
    ∃ i, s.disk.temporary = some i ∧ s.disk.inodes[i]? = some (marshal listed)

/-- The step of a call that does not fail. -/
inductive Moves (m : Monitors) (disk : Disk) : CallPc → Monitors → Disk → CallPc → Prop
  | looks {pc next : CallPc} (hpc : pc.isFiling = false) (hnext : next.isFiling = false)
      (hkeep : m.Named → pc.Promises m → next.Promises m) : Moves m disk pc m disk next
  | changes {pc : CallPc} {m' : Monitors} (hpc : pc.isFiling = false)
      (hnamed : m.Named → m'.Named) : Moves m disk pc m' disk .persisting
  | opens {listed : List Status} :
      Moves m disk (.opening listed) m disk.create.1 (.writing disk.create.2 listed)
  | writes {i : Nat} {listed : List Status} :
      Moves m disk (.writing i listed) m (disk.write i (marshal listed)) (.replacing listed)
  | renames {i : Nat} {listed : List Status} (htemporary : disk.temporary = some i) :
      Moves m disk (.replacing listed) m { disk with file := some i, temporary := none }
        (.returned false)

variable {marshal} {s}

theorem advance_moves (pick : Nat) (ok : Bool) {pc : CallPc}
    (h : (s.advance marshal pick ok pc).2.2 ≠ .returned true) :
    Moves marshal s.monitors s.disk pc (s.advance marshal pick ok pc).1
      (s.advance marshal pick ok pc).2.1 (s.advance marshal pick ok pc).2.2 := by
  cases pc with
  | starting deviceId metrics =>
    simp only [advance]
    split_ifs
    · exact .looks rfl rfl fun _ => nofun
    · exact .looks rfl rfl fun _ => nofun
    · exact .changes rfl fun hnamed => hnamed.start deviceId metrics
  | stopping deviceId =>
    simp only [advance]
    split
    · exact .looks rfl rfl fun _ => nofun
    · exact .looks rfl rfl fun _ => nofun
  | halting i => exact .changes rfl fun hnamed => hnamed.halt i
  | persisting => exact .looks rfl rfl fun _ _ => s.monitors.lists_keys
  | listing left listed =>
    simp only [advance]
    split
    · rename_i hnone
      have none_left : left = [] := by
        by_contra hleft
        have hlt := Nat.mod_lt pick (List.length_pos_iff.mpr hleft)
        rw [List.getElem?_eq_getElem hlt] at hnone
        cases hnone
      subst none_left
      exact .looks rfl rfl fun _ => id
    · rename_i deviceId hpick
      refine .looks rfl rfl fun hnamed hlists => ?_
      exact Monitors.Lists.look hlists hnamed (List.mem_of_getElem? hpick)
  | opening listed =>
    cases ok with
    | true => exact .opens
    | false => exact (h rfl).elim
  | writing i listed =>
    cases ok with
    | true => exact .writes
    | false => exact (h rfl).elim
  | replacing listed =>
    simp only [advance, Disk.rename] at h ⊢
    cases htemporary : s.disk.temporary with
    | none =>
      rw [htemporary] at h
      exact (h rfl).elim
    | some i =>
      rw [htemporary] at h
      cases ok with
      | true => exact .renames htemporary
      | false => exact (h rfl).elim
  | returned failed => exact .looks rfl rfl fun _ => nofun

/-- An opened temporary file and the call that uses it go together. -/
theorem Moves.debt {m m' : Monitors} {disk disk' : Disk} {pc next : CallPc}
    (h : Moves marshal m disk pc m' disk' next) :
    (if pc.isFiling then 1 else 0) + (if disk'.temporary.isSome then 1 else 0) ≤
      (if next.isFiling then 1 else 0) + if disk.temporary.isSome then 1 else 0 := by
  cases h with
  | looks hpc hnext hkeep =>
    rw [hpc, hnext]
  | changes hpc hnamed =>
    rw [hpc]
    exact le_refl _
  | opens =>
    have one : (if disk.create.1.temporary.isSome then 1 else 0) ≤ 1 := by split_ifs <;> omega
    show 0 + (if disk.create.1.temporary.isSome then 1 else 0) ≤
      1 + if disk.temporary.isSome then 1 else 0
    omega
  | writes => exact le_refl _
  | renames htemporary =>
    rw [htemporary]
    exact le_refl _

theorem Moves.named {m m' : Monitors} {disk disk' : Disk} {pc next : CallPc}
    (h : Moves marshal m disk pc m' disk' next) (hnamed : m.Named) : m'.Named := by
  cases h with
  | changes hpc hstill => exact hstill hnamed
  | _ => exact hnamed

theorem Moves.sound {m m' : Monitors} {disk disk' : Disk} {pc next : CallPc}
    (h : Moves marshal m disk pc m' disk' next) (hsound : disk.Sound) : disk'.Sound := by
  cases h with
  | opens => exact hsound.create
  | writes => exact hsound.write _ _
  | renames htemporary =>
    constructor
    · nofun
    · intro j hj
      obtain rfl := Option.some.inj hj
      exact (hsound.temporary _ htemporary).1
  | _ => exact hsound

theorem step_go {k : Nat} {pc : CallPc} (hpc : s.calls[k]? = some pc) (pick : Nat) (ok : Bool) :
    step marshal s (.go k pick ok) = ⟨(s.advance marshal pick ok pc).1,
      (s.advance marshal pick ok pc).2.1, s.calls.set k (s.advance marshal pick ok pc).2.2⟩ := by
  simp only [step, hpc]

theorem step_idle {k : Nat} (hpc : s.calls[k]? = none) (pick : Nat) (ok : Bool) :
    step marshal s (.go k pick ok) = s := by
  simp only [step, hpc]

/-- The step of a call after which none has failed. -/
theorem step_moves {k : Nat} {pc : CallPc} (hpc : s.calls[k]? = some pc) (pick : Nat) (ok : Bool)
    (h : (step marshal s (.go k pick ok)).Unfailed) :
    ∃ m' disk' next, step marshal s (.go k pick ok) = ⟨m', disk', s.calls.set k next⟩ ∧
      Moves marshal s.monitors s.disk pc m' disk' next := by
  rw [step_go hpc] at h ⊢
  have hnext := List.mem_of_getElem? (getElem?_mover hpc (s.advance marshal pick ok pc).2.2)
  exact ⟨_, _, _, rfl, advance_moves pick ok (h _ hnext)⟩

/-- A call that has failed stays so. -/
theorem unfailed_before (act : MonitorAct) (h : (step marshal s act).Unfailed) : s.Unfailed := by
  intro pc hmem hfailed
  subst hfailed
  cases act with
  | start deviceId metrics => exact h _ (List.mem_append_left _ hmem) rfl
  | stop deviceId => exact h _ (List.mem_append_left _ hmem) rfl
  | go k pick ok =>
    obtain ⟨j, hj⟩ := List.mem_iff_getElem?.mp hmem
    cases hpc : s.calls[k]? with
    | none =>
      rw [step_idle hpc] at h
      exact h _ hmem rfl
    | some pc =>
      rw [step_go hpc] at h
      by_cases hjk : j = k
      · subst hjk
        obtain rfl := Option.some.inj (hj.symm.trans hpc)
        exact h _ (List.mem_of_getElem? (getElem?_mover hpc (.returned true))) rfl
      · refine h _ (List.mem_of_getElem? (i := j) ?_) rfl
        show (s.calls.set k _)[j]? = _
        rw [List.getElem?_set_ne (Ne.symm hjk), hj]

/-- If the temporary file is of one call at the end of a step, so it was before. -/
theorem alone_before (act : MonitorAct) (hunfailed : (step marshal s act).Unfailed)
    (h : (step marshal s act).Alone) : s.Alone := by
  unfold Alone at h ⊢
  cases act with
  | start deviceId metrics =>
    have begun : (s.calls ++ [CallPc.starting deviceId metrics]).countP CallPc.isFiling =
        s.calls.countP CallPc.isFiling := by simp [CallPc.isFiling]
    rw [← begun]
    exact h
  | stop deviceId =>
    have begun : (s.calls ++ [CallPc.stopping deviceId]).countP CallPc.isFiling =
        s.calls.countP CallPc.isFiling := by simp [CallPc.isFiling]
    rw [← begun]
    exact h
  | go k pick ok =>
    cases hpc : s.calls[k]? with
    | none =>
      rw [step_idle hpc] at h
      exact h
    | some pc =>
      obtain ⟨m', disk', next, hstep, hmoves⟩ := step_moves hpc pick ok hunfailed
      rw [hstep] at h
      dsimp only at h
      have count := countP_moved CallPc.isFiling hpc next
      have debt := hmoves.debt
      omega

/-- Once all calls have returned without a failure, none had failed before, and the temporary file
was never of two of them. -/
theorem alone_of_returned (acts : List MonitorAct)
    (hreturned : ∀ pc ∈ (run (step marshal) s acts).calls, pc = .returned false) :
    s.Unfailed ∧ s.Alone := by
  induction acts generalizing s with
  | nil =>
    rw [run_nil] at hreturned
    have none : s.calls.countP CallPc.isFiling = 0 := by
      rw [List.countP_eq_zero]
      intro pc hpc
      rw [hreturned pc hpc]
      exact Bool.false_ne_true
    refine ⟨fun pc hpc hfailed => ?_, ?_⟩
    · rw [hreturned pc hpc] at hfailed
      cases hfailed
    · unfold Alone
      rw [none]
      exact Nat.zero_le _
  | cons act acts ih =>
    obtain ⟨hunfailed, halone⟩ := ih hreturned
    exact ⟨unfailed_before act hunfailed, alone_before act hunfailed halone⟩

theorem Alone.others (h : s.Alone) {j k : Nat} {pc pc' : CallPc} (hjk : j ≠ k)
    (hj : s.calls[j]? = some pc) (hk : s.calls[k]? = some pc') (hpc' : pc'.isFiling = true) :
    pc.isFiling = false := by
  by_contra hpc
  have two := two_le_countP hjk hj hk (by simpa using hpc) hpc'
  unfold Alone at h
  split_ifs at h
  · omega
  · omega

/-- While another call uses the temporary file, the files stay as they are. -/
theorem Moves.still {m' : Monitors} {disk' : Disk} {j k : Nat} {pc next pc' : CallPc}
    (h : Moves marshal s.monitors s.disk pc m' disk' next) (hpc : s.calls[k]? = some pc)
    (halone : s.Alone) (halone' : Alone ⟨m', disk', s.calls.set k next⟩) (hjk : j ≠ k)
    (hj : s.calls[j]? = some pc') (hpc' : pc'.isFiling = true) : disk' = s.disk := by
  cases h with
  | looks => rfl
  | changes => rfl
  | @opens listed =>
    have hj' : (s.calls.set k (.writing s.disk.create.2 listed))[j]? = some pc' := by
      rw [List.getElem?_set_ne (Ne.symm hjk), hj]
    have clash := Alone.others halone' (Ne.symm hjk) (getElem?_mover hpc _) hj' hpc'
    cases clash
  | writes =>
    have clash := halone.others (Ne.symm hjk) hpc hj hpc'
    cases clash
  | renames =>
    have clash := halone.others (Ne.symm hjk) hpc hj hpc'
    cases clash

theorem Filed.moves {m' : Monitors} {disk' : Disk} {k : Nat} {pc next : CallPc}
    (hfiled : s.Filed marshal) (h : Moves marshal s.monitors s.disk pc m' disk' next)
    (hpc : s.calls[k]? = some pc) (halone : s.Alone)
    (halone' : Alone ⟨m', disk', s.calls.set k next⟩) :
    Filed marshal ⟨m', disk', s.calls.set k next⟩ := by
  refine ⟨h.named hfiled.named, h.sound hfiled.sound, ?_, ?_⟩
  · intro j i listed hj
    rcases getElem?_moved hj with ⟨-, hnext⟩ | ⟨hjk, hj⟩
    · cases h with
      | looks hpc hquiet hkeep =>
        rw [← hnext] at hquiet
        cases hquiet
      | opens =>
        cases hnext
        exact Disk.create_blank hfiled.sound
      | _ => cases hnext
    · rw [h.still hpc halone halone' hjk hj rfl]
      exact hfiled.writing j i listed hj
  · intro j listed hj
    rcases getElem?_moved hj with ⟨-, hnext⟩ | ⟨hjk, hj⟩
    · cases h with
      | looks hpc hquiet hkeep =>
        rw [← hnext] at hquiet
        cases hquiet
      | writes =>
        cases hnext
        obtain ⟨htemporary, hblank⟩ := hfiled.writing k _ _ hpc
        exact ⟨_, htemporary, Disk.write_blank hblank⟩
      | _ => cases hnext
    · rw [h.still hpc halone halone' hjk hj rfl]
      exact hfiled.replacing j listed hj

theorem Promised.other {j k : Nat} (h : s.Promised j) (hjk : j ≠ k) (disk : Disk) (next : CallPc) :
    Promised ⟨s.monitors, disk, s.calls.set k next⟩ j := by
  obtain ⟨pc, hpc, hpromises⟩ := h
  exact ⟨pc, by rw [List.getElem?_set_ne (Ne.symm hjk), hpc], hpromises⟩

/-- The file is as it should be, or a call is about to make it so. -/
def Shown (marshal : List Status → List UInt8) (s : MonitorState) : Prop :=
  s.FileLists marshal ∨ ∃ k, s.Promised k

/-- A step that changes neither the memory nor the file, and keeps the promise of its call. -/
theorem Shown.aside {disk' : Disk} {k : Nat} {pc next : CallPc} (h : s.Shown marshal)
    (hpc : s.calls[k]? = some pc) (hcontent : disk'.content = s.disk.content)
    (hkeep : pc.Promises s.monitors → next.Promises s.monitors) :
    Shown marshal ⟨s.monitors, disk', s.calls.set k next⟩ := by
  rcases h with hlists | ⟨j, hpromised⟩
  · refine Or.inl ?_
    unfold FileLists at hlists ⊢
    dsimp only
    rwa [hcontent]
  · by_cases hjk : j = k
    · subst hjk
      obtain ⟨pc', hpc', hpromises⟩ := hpromised
      obtain rfl := Option.some.inj (hpc'.symm.trans hpc)
      exact Or.inr ⟨j, next, getElem?_mover hpc next, hkeep hpromises⟩
    · exact Or.inr ⟨j, hpromised.other hjk disk' next⟩

theorem Shown.moves {m' : Monitors} {disk' : Disk} {k : Nat} {pc next : CallPc}
    (hshown : s.Shown marshal) (hfiled : s.Filed marshal)
    (h : Moves marshal s.monitors s.disk pc m' disk' next) (hpc : s.calls[k]? = some pc)
    (horder : ∀ listed, pc = .replacing listed →
      s.monitors.Lists [] listed ∨ ∃ j, j ≠ k ∧ s.Promised j) :
    Shown marshal ⟨m', disk', s.calls.set k next⟩ := by
  cases h with
  | looks _ _ hkeep => exact hshown.aside hpc rfl (hkeep hfiled.named)
  | changes => exact Or.inr ⟨k, .persisting, getElem?_mover hpc _, trivial⟩
  | opens => exact hshown.aside hpc (Disk.content_create hfiled.sound) id
  | writes =>
    obtain ⟨htemporary, -⟩ := hfiled.writing k _ _ hpc
    exact hshown.aside hpc (Disk.content_write hfiled.sound htemporary) id
  | @renames i listed htemporary =>
    rcases horder listed rfl with hlists | ⟨j, hjk, hpromised⟩
    · refine Or.inl ?_
      obtain ⟨i', htemporary', hwritten⟩ := hfiled.replacing k listed hpc
      obtain rfl := Option.some.inj (htemporary'.symm.trans htemporary)
      unfold FileLists Disk.content
      dsimp only
      rw [hwritten]
      exact ⟨listed, rfl, hlists⟩
    · exact Or.inr ⟨j, hpromised.other hjk _ _⟩

/-- A call that begins has written nothing and promises nothing. -/
theorem begin_keeps {pc : CallPc} (hpc : pc.isFiling = false) (hfiled : s.Filed marshal)
    (hshown : s.Shown marshal) :
    Filed marshal { s with calls := s.calls ++ [pc] } ∧
      Shown marshal { s with calls := s.calls ++ [pc] } := by
  have old {j : Nat} {pc' : CallPc} (hj : (s.calls ++ [pc])[j]? = some pc')
      (hpc' : pc'.isFiling = true) : s.calls[j]? = some pc' := by
    rw [List.getElem?_append] at hj
    split_ifs at hj
    · exact hj
    · rw [List.getElem?_singleton] at hj
      split_ifs at hj
      rw [Option.some.inj hj, hpc'] at hpc
      cases hpc
  refine ⟨⟨hfiled.named, hfiled.sound, ?_, ?_⟩, ?_⟩
  · intro j i listed hj
    exact hfiled.writing j i listed (old hj rfl)
  · intro j listed hj
    exact hfiled.replacing j listed (old hj rfl)
  · rcases hshown with hlists | ⟨j, pc', hj, hpromises⟩
    · exact Or.inl hlists
    · obtain ⟨hlt, -⟩ := List.getElem?_eq_some_iff.mp hj
      exact Or.inr ⟨j, pc', by rw [List.getElem?_append_left hlt, hj], hpromises⟩

theorem step_keeps (act : MonitorAct) (hfiled : s.Filed marshal) (hshown : s.Shown marshal)
    (horder : s.InOrder act) (hunfailed : (step marshal s act).Unfailed) (halone : s.Alone)
    (halone' : (step marshal s act).Alone) :
    (step marshal s act).Filed marshal ∧ (step marshal s act).Shown marshal := by
  cases act with
  | start deviceId metrics => exact begin_keeps rfl hfiled hshown
  | stop deviceId => exact begin_keeps rfl hfiled hshown
  | go k pick ok =>
    cases hpc : s.calls[k]? with
    | none =>
      rw [step_idle hpc]
      exact ⟨hfiled, hshown⟩
    | some pc =>
      obtain ⟨m', disk', next, hstep, hmoves⟩ := step_moves hpc pick ok hunfailed
      rw [hstep] at halone' ⊢
      refine ⟨hfiled.moves hmoves hpc halone halone', hshown.moves hfiled hmoves hpc ?_⟩
      rintro listed rfl
      exact horder listed hpc

theorem run_keeps (acts : List MonitorAct) (hfiled : s.Filed marshal) (hshown : s.Shown marshal)
    (horder : Along (step marshal) InOrder s acts)
    (hreturned : ∀ pc ∈ (run (step marshal) s acts).calls, pc = .returned false) :
    (run (step marshal) s acts).Shown marshal := by
  induction acts generalizing s with
  | nil => exact hshown
  | cons act acts ih =>
    obtain ⟨-, halone⟩ := alone_of_returned (act :: acts) hreturned
    obtain ⟨hunfailed', halone'⟩ := alone_of_returned acts hreturned
    obtain ⟨hfiled', hshown'⟩ :=
      step_keeps act hfiled hshown horder.1 hunfailed' halone halone'
    exact ih hfiled' hshown' horder.2 hreturned

theorem settled_start : start.Settled marshal := by
  refine ⟨rfl, Monitors.named_new, ⟨nofun, nofun⟩, ?_⟩
  intro deviceId metrics h
  obtain ⟨task, htask, -⟩ := h
  simp [start, Monitors.new, Monitors.taskOf] at htask

def phone : Status := ⟨"phone", true, ["cpu"]⟩

def tablet : Status := ⟨"tablet", true, ["memory"]⟩

instance : Encodable Char := Encodable.ofLeftInverse Char.toNat Char.ofNat Char.ofNat_toNat

instance : Encodable String :=
  Encodable.ofLeftInverse String.toList String.ofList fun _ => String.ofList_toList

instance : Encodable Status :=
  Encodable.ofLeftInverse (fun status => (status.deviceId, status.running, status.metrics))
    (fun saved => ⟨saved.1, saved.2.1, saved.2.2⟩) fun _ => rfl

def phoneJson : List UInt8 :=
  "[\x7b\"deviceId\":\"phone\",\"running\":true,\"metrics\":[\"cpu\"]\x7d]".toList.map
    fun c => UInt8.ofNat c.toNat

/-- JSON where it is looked at here, and elsewhere a text that can be told from it. -/
def marshalSaved (saved : List Status) : List UInt8 :=
  if saved = [phone] then phoneJson else List.replicate (Encodable.encode saved) 0

def unmarshalSaved (content : List UInt8) : Option (List Status) :=
  if content = phoneJson then some [phone] else Encodable.decode content.length

theorem unmarshalSaved_marshalSaved (saved : List Status) :
    unmarshalSaved (marshalSaved saved) = some saved := by
  unfold unmarshalSaved marshalSaved
  by_cases hsaved : saved = [phone]
  · rw [if_pos hsaved, if_pos rfl, hsaved]
  · have other : List.replicate (Encodable.encode saved) (0 : UInt8) ≠ phoneJson := by
      intro heq
      have zero : (91 : UInt8) = 0 := by
        refine @List.eq_of_mem_replicate _ 0 _ (Encodable.encode saved) ?_
        rw [heq]
        exact List.mem_cons_self
      cases zero
    rw [if_neg hsaved, if_neg other, List.length_replicate, Encodable.encodek]

/-- The phone is started twice at the same time, and saved by the first. -/
def phoneTwice : List MonitorAct :=
  [.start "phone" ["cpu"], .start "phone" ["cpu"], .go 0 0 true, .go 1 0 true, .go 0 0 true,
    .go 0 0 true, .go 0 0 true, .go 0 0 true, .go 0 0 true, .go 0 0 true]

/-- Two devices are started at the same time, and the file that lists the first of them alone is the
last to be renamed. -/
def staleLast : List MonitorAct :=
  [.start "phone" ["cpu"], .start "tablet" ["memory"],
    .go 0 0 true, .go 0 0 true, .go 0 0 true, .go 0 0 true,
    .go 1 0 true, .go 1 0 true, .go 1 0 true, .go 1 0 true, .go 1 0 true,
    .go 1 0 true, .go 1 0 true, .go 1 0 true,
    .go 0 0 true, .go 0 0 true, .go 0 0 true]

end MonitorState

end AdbControl.Server.Hardware
