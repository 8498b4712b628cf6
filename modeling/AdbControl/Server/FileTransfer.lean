import AdbControl.Framework.Keyed
import AdbControl.Framework.Run
import AdbControl.Server.RemotePath

namespace AdbControl.Server

open Framework

inductive TransferState
  | queued
  | running
  | completed
  | failed
  deriving DecidableEq, Repr

def TransferState.Final (state : TransferState) : Prop := state = .completed ∨ state = .failed

instance (state : TransferState) : Decidable state.Final :=
  inferInstanceAs (Decidable (_ ∨ _))

/-- A transfer as it is reported. Its progress is left out, which is computed from the two counts of
bytes. -/
structure FileTransfer where
  id : String
  deviceID : String
  remotePath : String
  fileName : String
  state : TransferState
  bytesTotal : Int
  bytesTransferred : Int
  transport : String
  error : String
  createdAt : Nat
  completedAt : Option Nat
  deriving DecidableEq, Repr

/-- The two commands of adb that `run` has Core execute. -/
inductive TransferCommand
  | stat
  | pull
  deriving DecidableEq, Repr

/-- How a command ends: with the number that its output begins with, or with the text of an error.
Where the channel to Core breaks, adb may go on without it. -/
structure CommandEnd where
  total : Int
  error : Option String
  detached : Bool
  deriving DecidableEq, Repr

/-- How far `run` has come. -/
inductive TransferPc
  | starting
  /-- for the channel to Core -/
  | waiting (command : TransferCommand)
  | executing (command : TransferCommand)
  | counting (total : Int)
  | finishing (error : Option String) (now : Nat)
  | ended
  deriving DecidableEq, Repr

/-- How far a call of `remove` has come; at its end it tells whether it has found the job. -/
inductive RemovalPc
  | entered
  | cancelling
  | deleting
  | returned (found : Bool)
  deriving DecidableEq, Repr

/-- A job with all that is under way on it, and the size of its local file, if that exists. -/
structure Transfer where
  job : FileTransfer
  listed : Bool
  cancelled : Bool
  pc : TransferPc
  /-- whether the adb that pulls is alive -/
  adb : Bool
  file : Option Nat
  removals : Keyed Nat RemovalPc

inductive TransferAct
  | run (command : CommandEnd) (now : Nat)
  /-- what adb makes of the local file -/
  | adb (file : Option Nat)
  | timeout
  | status
  /-- a call of `remove`, of a user or of the timer -/
  | remove (k : Nat)
  | removal (k : Nat) (ok : Bool)

namespace Transfer

/-- A job as it is when it enters the map. -/
def fresh (id deviceID remotePath : String) (now : Nat) : Transfer where
  job :=
    { id
      deviceID
      remotePath
      fileName := String.ofList (baseName remotePath.toList)
      state := .queued
      bytesTotal := 0
      bytesTransferred := 0
      transport := "adb-isolated"
      error := ""
      createdAt := now
      completedAt := none }
  listed := true
  cancelled := false
  pc := .starting
  adb := false
  file := none
  removals := ∅

/-- `update`: a job that is not in the map any more stays as it is. -/
def update (t : Transfer) (fn : FileTransfer → FileTransfer) : Transfer :=
  if t.listed then { t with job := fn t.job } else t

/-- The last update of `run` -/
def finish (file : Option Nat) (error : Option String) (now : Nat) (job : FileTransfer) :
    FileTransfer :=
  let job := { job with completedAt := some now }
  match error with
  | some text => { job with state := .failed, error := text }
  | none =>
    match file with
    | none => { job with state := .completed }
    | some size =>
      { job with
        state := .completed
        bytesTransferred := size
        bytesTotal := if job.bytesTotal = 0 then size else job.bytesTotal }

/-- Where `run` goes after a command. -/
def after (command : TransferCommand) (result : CommandEnd) (now : Nat) : TransferPc :=
  match command, result.error with
  | .stat, none => .counting result.total
  | .stat, some _ => .waiting .pull
  | .pull, error => .finishing error now

def stepRun (t : Transfer) (result : CommandEnd) (now : Nat) : Transfer :=
  match t.pc with
  | .starting =>
    { t.update (fun job => { job with state := .running }) with pc := .waiting .stat }
  | .waiting command =>
    -- a request is not sent in a context that is done
    if t.cancelled || result.error.isSome then
      { t with pc := after command { result with error := some (result.error.getD "") } now }
    else { t with pc := .executing command, adb := command = .pull }
  | .executing command =>
    { t with
      pc := after command result now
      adb := t.adb && result.error.isSome && result.detached }
  | .counting total =>
    { t.update (fun job => { job with bytesTotal := total }) with pc := .waiting .pull }
  | .finishing error now => { t.update (finish t.file error now) with pc := .ended }
  | .ended => t

def stepRemoval (t : Transfer) (k : Nat) (ok : Bool) : Transfer :=
  match t.removals[k]? with
  | some .entered =>
    if t.listed then { t with listed := false, removals := t.removals.insert k .cancelling }
    else { t with removals := t.removals.insert k (.returned false) }
  | some .cancelling => { t with cancelled := true, removals := t.removals.insert k .deleting }
  | some .deleting =>
    { t with
      file := if ok then none else t.file
      removals := t.removals.insert k (.returned true) }
  | some (.returned _) | none => t

/-- The job with the bytes that have come so far -/
def counted (t : Transfer) : FileTransfer :=
  match t.file with
  | some size => if t.job.state = .running then { t.job with bytesTransferred := size } else t.job
  | none => t.job

/-- What `snapshot` changes, and what it answers. -/
def snapshot (t : Transfer) : Transfer × Option FileTransfer :=
  if t.listed then ({ t with job := t.counted }, some t.counted) else (t, none)

/-- `localPath`, with the job that it answers. -/
def localPath (t : Transfer) (deviceID : String) : Option FileTransfer :=
  if t.listed ∧ t.job.deviceID = deviceID ∧ t.job.state = .completed then some t.job else none

def step (t : Transfer) : TransferAct → Transfer
  | .run result now => t.stepRun result now
  | .adb file => if t.adb then { t with file } else t
  | .timeout => { t with cancelled := true }
  | .status => t.snapshot.1
  | .remove k => if k ∈ t.removals then t else { t with removals := t.removals.insert k .entered }
  | .removal k ok => t.stepRemoval k ok

/-- A removal that has found the job has returned, and with it the deletion of the file. -/
def Deleted (t : Transfer) : Prop := ∃ k : Nat, t.removals[k]? = some (.returned true)

/-- Once a removal has returned and `run` has ended, the job is not listed and has no file. -/
def LeavesNothing (t : Transfer) : Prop :=
  (∃ (k : Nat) (found : Bool), t.removals[k]? = some (.returned found)) → t.pc = .ended →
    t.snapshot.2 = none ∧ (∀ deviceID, t.localPath deviceID = none) ∧ t.file = none

/-- The step leaves no file behind: adb does not create it when it has been deleted, its deletion
succeeds, and a removal that does not find the job comes after the deletion. -/
def Clean (t : Transfer) : TransferAct → Prop
  | .adb (some _) => t.adb = true → ¬t.Deleted
  | .removal k ok =>
    match t.removals[k]? with
    | some .entered => t.listed = false → t.Deleted
    | some .deleting => ok = false → t.file = none
    | _ => True
  | _ => True

/-- What holds of a transfer at any time. -/
structure Sound (t : Transfer) : Prop where
  removed : ∀ (k : Nat) (pc : RemovalPc), t.removals[k]? = some pc → pc ≠ .entered → t.listed = false
  final : t.job.state.Final → t.pc = .ended

/-- What holds of a transfer whose steps leave no file behind. -/
structure Tidy (t : Transfer) : Prop where
  deleted : t.Deleted → t.file = none
  late : ∀ k : Nat, t.removals[k]? = some (.returned false) → t.Deleted

variable {t : Transfer}

@[simp] theorem update_same (t : Transfer) (fn : FileTransfer → FileTransfer) :
    (t.update fn).listed = t.listed ∧ (t.update fn).removals = t.removals ∧
      (t.update fn).file = t.file := by
  unfold update
  split_ifs <;> exact ⟨rfl, rfl, rfl⟩

/-- `run` leaves the list, the removals and the file alone. -/
theorem stepRun_same (t : Transfer) (result : CommandEnd) (now : Nat) :
    (t.stepRun result now).listed = t.listed ∧ (t.stepRun result now).removals = t.removals ∧
      (t.stepRun result now).file = t.file := by
  unfold stepRun
  cases t.pc with
  | starting => exact t.update_same _
  | waiting command =>
    simp only
    split_ifs <;> exact ⟨rfl, rfl, rfl⟩
  | executing command => exact ⟨rfl, rfl, rfl⟩
  | counting total => exact t.update_same _
  | finishing error now => exact t.update_same _
  | ended => exact ⟨rfl, rfl, rfl⟩

theorem counted_state (t : Transfer) : t.counted.state = t.job.state := by
  unfold counted
  cases t.file with
  | none => rfl
  | some size =>
    simp only
    split_ifs <;> rfl

/-- A status query changes at most the job, and not its state. -/
theorem snapshot_same (t : Transfer) :
    ∃ job, t.snapshot.1 = { t with job } ∧ job.state = t.job.state := by
  unfold snapshot
  split_ifs
  · exact ⟨t.counted, rfl, t.counted_state⟩
  · exact ⟨t.job, rfl, rfl⟩

/-- The state stays, or is that of the update. -/
theorem update_state (t : Transfer) (fn : FileTransfer → FileTransfer) :
    (t.update fn).job.state = t.job.state ∨ (t.update fn).job.state = (fn t.job).state := by
  unfold update
  split_ifs
  · exact Or.inr rfl
  · exact Or.inl rfl

/-- `run` leaves the state as it is, reports that it runs, or ends. -/
theorem stepRun_state (t : Transfer) (result : CommandEnd) (now : Nat) :
    (t.stepRun result now).job.state = t.job.state ∨
      (t.stepRun result now).job.state = .running ∨ t.pc ≠ .ended ∧
        (t.stepRun result now).pc = .ended := by
  unfold stepRun
  cases t.pc with
  | starting =>
    rcases t.update_state (fun job => { job with state := .running }) with he | he
    · exact Or.inl he
    · exact Or.inr (Or.inl he)
  | waiting command =>
    simp only
    split_ifs <;> exact Or.inl rfl
  | executing command => exact Or.inl rfl
  | counting total => exact Or.inl ((t.update_state _).elim id id)
  | finishing error now => exact Or.inr (Or.inr ⟨nofun, rfl⟩)
  | ended => exact Or.inl rfl

theorem not_final_running : ¬TransferState.Final .running := by decide

/-- `run` has ended where the state is final, and then rests. -/
theorem Sound.stepRun (h : t.Sound) (result : CommandEnd) (now : Nat) :
    (t.stepRun result now).Sound := by
  obtain ⟨hlisted, hremovals, -⟩ := t.stepRun_same result now
  refine ⟨?_, ?_⟩
  · rw [hlisted, hremovals]
    exact h.removed
  · intro hfinal
    rcases t.stepRun_state result now with hstate | hstate | ⟨-, hpc⟩
    · rw [hstate] at hfinal
      have hpc := h.final hfinal
      rw [Transfer.stepRun, hpc]
      exact hpc
    · rw [hstate] at hfinal
      exact (not_final_running hfinal).elim
    · exact hpc

theorem Sound.stepRemoval (h : t.Sound) (k : Nat) (ok : Bool) : (t.stepRemoval k ok).Sound := by
  have insert {pc : RemovalPc} (hlisted : t.listed = false) (j : Nat) (pc' : RemovalPc)
      (_ : (t.removals.insert k pc)[j]? = some pc') (_ : pc' ≠ .entered) : t.listed = false :=
    hlisted
  unfold Transfer.stepRemoval
  cases hk : t.removals[k]? with
  | none => exact h
  | some pc =>
    cases pc with
    | entered =>
      simp only
      split_ifs with hlisted
      · exact ⟨fun _ _ _ _ => rfl, h.final⟩
      · exact ⟨insert (Bool.eq_false_iff.mpr hlisted), h.final⟩
    | cancelling => exact ⟨insert (h.removed k _ hk nofun), h.final⟩
    | deleting => exact ⟨insert (h.removed k _ hk nofun), h.final⟩
    | returned found => exact h

theorem Sound.step (h : t.Sound) (act : TransferAct) : (t.step act).Sound := by
  cases act with
  | run result now => exact h.stepRun result now
  | adb file =>
    rw [Transfer.step]
    split_ifs
    · exact ⟨h.removed, h.final⟩
    · exact h
  | timeout => exact ⟨h.removed, h.final⟩
  | status =>
    obtain ⟨job, he, hstate⟩ := t.snapshot_same
    rw [Transfer.step, he]
    exact ⟨h.removed, hstate ▸ h.final⟩
  | remove k =>
    rw [Transfer.step]
    split_ifs
    · exact h
    · refine ⟨?_, h.final⟩
      intro j pc hj hpc
      rcases Keyed.lookup_insert_cases hj with ⟨-, he⟩ | ⟨-, hold⟩
      · exact (hpc he).elim
      · exact h.removed j pc hold hpc
  | removal k ok => exact h.stepRemoval k ok

/-- A state that is final does not change. -/
theorem Sound.state_step (h : t.Sound) (hfinal : t.job.state.Final) (act : TransferAct) :
    (t.step act).job.state = t.job.state := by
  have hpc := h.final hfinal
  cases act with
  | run result now => rw [Transfer.step, Transfer.stepRun, hpc]
  | adb file =>
    rw [Transfer.step]
    split_ifs <;> rfl
  | timeout => rfl
  | status =>
    obtain ⟨job, he, hstate⟩ := t.snapshot_same
    rw [Transfer.step, he]
    exact hstate
  | remove k =>
    rw [Transfer.step]
    split_ifs <;> rfl
  | removal k ok =>
    rw [Transfer.step]
    unfold Transfer.stepRemoval
    split
    · split_ifs <;> rfl
    · rfl
    · rfl
    · rfl
    · rfl

/-- A removal that goes on changes nothing that was deleted, as long as it does not return itself. -/
theorem deleted_insert {k : Nat} {pc : RemovalPc} (hold : t.removals[k]? ≠ some (.returned true))
    (hpc : pc ≠ .returned true) :
    (∃ j : Nat, (t.removals.insert k pc)[j]? = some (.returned true)) ↔ t.Deleted := by
  constructor
  · intro h
    obtain ⟨j, hj⟩ := h
    rcases Keyed.lookup_insert_cases hj with ⟨-, he⟩ | ⟨-, hj⟩
    · exact (hpc he.symm).elim
    · exact ⟨j, hj⟩
  · intro h
    obtain ⟨j, hj⟩ := h
    refine ⟨j, ?_⟩
    have hne : j ≠ k := by
      rintro rfl
      exact hold hj
    rw [Keyed.lookup_insert, if_neg hne, hj]

/-- So it keeps the file away that was deleted. -/
theorem Tidy.insert (h : t.Tidy) {k : Nat} {pc : RemovalPc} {listed cancelled : Bool}
    (hold : t.removals[k]? ≠ some (.returned true)) (hpc : pc ≠ .returned true)
    (hlate : pc = .returned false → t.Deleted) :
    Tidy { t with listed, cancelled, removals := t.removals.insert k pc } := by
  have same := deleted_insert hold hpc
  refine ⟨fun hdeleted => h.deleted (same.mp hdeleted), ?_⟩
  intro j hj
  apply same.mpr
  rcases Keyed.lookup_insert_cases hj with ⟨-, he⟩ | ⟨-, hj⟩
  · exact hlate he.symm
  · exact h.late j hj

theorem Tidy.stepRemoval (h : t.Tidy) {k : Nat} {ok : Bool} (hclean : t.Clean (.removal k ok)) :
    (t.stepRemoval k ok).Tidy := by
  unfold Transfer.stepRemoval
  simp only [Clean] at hclean
  cases hk : t.removals[k]? with
  | none => exact h
  | some pc =>
    simp only [hk] at hclean
    cases pc with
    | entered =>
      simp only
      split_ifs with hlisted
      · exact h.insert (by rw [hk]; exact nofun) nofun nofun
      · have hdeleted := hclean (Bool.eq_false_iff.mpr hlisted)
        exact h.insert (by rw [hk]; exact nofun) nofun (fun _ => hdeleted)
    | cancelling => exact h.insert (by rw [hk]; exact nofun) nofun nofun
    | deleting =>
      have hdeleted : ∃ j : Nat, (t.removals.insert k (.returned true))[j]? = some (.returned true) :=
        ⟨k, by simp⟩
      refine ⟨?_, fun _ _ => hdeleted⟩
      intro _
      cases ok with
      | true => rfl
      | false => exact hclean rfl
    | returned found => exact h

theorem Tidy.step (h : t.Tidy) {act : TransferAct} (hclean : t.Clean act) : (t.step act).Tidy := by
  cases act with
  | run result now =>
    obtain ⟨-, hremovals, hfile⟩ := t.stepRun_same result now
    refine ⟨?_, ?_⟩
    · rw [Deleted, Transfer.step, hremovals, hfile]
      exact h.deleted
    · rw [Deleted, Transfer.step, hremovals]
      exact h.late
  | adb file =>
    rw [Transfer.step]
    split_ifs with hadb
    · refine ⟨?_, h.late⟩
      intro hdeleted
      cases file with
      | none => rfl
      | some size => exact (hclean hadb hdeleted).elim
    · exact h
  | timeout => exact ⟨h.deleted, h.late⟩
  | status =>
    obtain ⟨job, he, -⟩ := t.snapshot_same
    rw [Transfer.step, he]
    exact ⟨h.deleted, h.late⟩
  | remove k =>
    rw [Transfer.step]
    split_ifs with hk
    · exact h
    · refine h.insert ?_ nofun nofun
      intro hreturned
      exact hk ((Keyed.mem_iff_lookup _ _).mpr ⟨_, hreturned⟩)
  | removal k ok => exact h.stepRemoval hclean

theorem Tidy.leavesNothing (h : t.Tidy) (hsound : t.Sound) : t.LeavesNothing := by
  intro hreturned _
  obtain ⟨k, found, hk⟩ := hreturned
  have hlisted := hsound.removed k _ hk nofun
  have hdeleted : t.Deleted := by
    cases found with
    | true => exact ⟨k, hk⟩
    | false => exact h.late k hk
  refine ⟨?_, ?_, h.deleted hdeleted⟩
  · simp [snapshot, hlisted]
  · simp [localPath, hlisted]

theorem sound_fresh (id deviceID remotePath : String) (now : Nat) :
    (fresh id deviceID remotePath now).Sound := by
  refine ⟨?_, ?_⟩
  · intro k pc hk
    simp [fresh] at hk
  · intro hfinal
    rcases hfinal with he | he <;> cases he

theorem tidy_fresh (id deviceID remotePath : String) (now : Nat) :
    (fresh id deviceID remotePath now).Tidy := by
  refine ⟨fun _ => rfl, ?_⟩
  intro k hk
  simp [fresh] at hk

end Transfer

/-- All transfers ever begun, under their ids. -/
abbrev Transfers := Keyed String Transfer

/-- An id is the time in nanoseconds, which no two starts have in common. -/
inductive TransfersAct
  | start (id deviceID remotePath : String) (now : Nat)
  | go (id : String) (act : TransferAct)

namespace Transfers

def start (ts : Transfers) (id deviceID remotePath : String) (now : Nat) : Transfers :=
  match validateRemotePath remotePath with
  | .error _ => ts
  | .ok () => if id ∈ ts then ts else ts.insert id (.fresh id deviceID remotePath now)

def step (ts : Transfers) : TransfersAct → Transfers
  | .start id deviceID remotePath now => ts.start id deviceID remotePath now
  | .go id act =>
    match ts[id]? with
    | none => ts
    | some t => ts.insert id (t.step act)

/-- The step leaves no file of its transfer behind. -/
def Clean (ts : Transfers) : TransfersAct → Prop
  | .start _ _ _ _ => True
  | .go id act => ∀ t, ts[id]? = some t → t.Clean act

variable {ts : Transfers} {id : String} {t t' : Transfer}

/-- What a transfer is after a step: what it was, a new one, or what its own step has made of it. -/
theorem step_cases {act : TransfersAct} (h : (step ts act)[id]? = some t') :
    ts[id]? = some t' ∨
    (ts[id]? = none ∧ ∃ deviceID remotePath now, t' = .fresh id deviceID remotePath now) ∨
    ∃ t own, ts[id]? = some t ∧ act = .go id own ∧ t' = t.step own := by
  cases act with
  | start started deviceID remotePath now =>
    simp only [step, start] at h
    split at h
    · exact Or.inl h
    · split_ifs at h with hid
      · exact Or.inl h
      · rcases Keyed.lookup_insert_cases h with ⟨rfl, he⟩ | ⟨-, hold⟩
        · exact Or.inr (Or.inl ⟨by simpa using hid, deviceID, remotePath, now, he⟩)
        · exact Or.inl hold
  | go gone own =>
    simp only [step] at h
    cases hgone : ts[gone]? with
    | none =>
      rw [hgone] at h
      exact Or.inl h
    | some t =>
      simp only [hgone] at h
      rcases Keyed.lookup_insert_cases h with ⟨rfl, he⟩ | ⟨-, hold⟩
      · exact Or.inr (Or.inr ⟨t, own, hgone, rfl, he⟩)
      · exact Or.inl hold

def AllSound (ts : Transfers) : Prop := ∀ (id : String) (t : Transfer), ts[id]? = some t → t.Sound

theorem sound_step (h : AllSound ts) (act : TransfersAct) : AllSound (step ts act) := by
  intro id t' ht'
  rcases step_cases ht' with hold | ⟨-, deviceID, remotePath, now, rfl⟩ | ⟨t, own, ht, -, rfl⟩
  · exact h id t' hold
  · exact Transfer.sound_fresh id deviceID remotePath now
  · exact (h id t ht).step own

theorem tidy_step (h : ∀ (id : String) (t : Transfer), ts[id]? = some t → t.Tidy) {act : TransfersAct}
    (hclean : Clean ts act) : ∀ (id : String) (t : Transfer), (step ts act)[id]? = some t → t.Tidy := by
  intro id t' ht'
  rcases step_cases ht' with hold | ⟨-, deviceID, remotePath, now, rfl⟩ | ⟨t, own, ht, rfl, rfl⟩
  · exact h id t' hold
  · exact Transfer.tidy_fresh id deviceID remotePath now
  · exact (h id t ht).step (hclean t ht)

/-- No transfer is forgotten. -/
theorem step_known (ht : ts[id]? = some t) (act : TransfersAct) :
    ∃ t' : Transfer, (step ts act)[id]? = some t' := by
  have write (gone : String) (t' : Transfer) : ∃ t'', (ts.insert gone t')[id]? = some t'' := by
    rw [Keyed.lookup_insert]
    split_ifs
    · exact ⟨t', rfl⟩
    · exact ⟨t, ht⟩
  cases act with
  | start started deviceID remotePath now =>
    simp only [step, start]
    split
    · exact ⟨t, ht⟩
    · split_ifs
      · exact ⟨t, ht⟩
      · exact write _ _
  | go gone own =>
    simp only [step]
    split
    · exact ⟨t, ht⟩
    · exact write _ _

/-- A transfer whose state is final keeps it in every step. -/
theorem state_step (hsound : AllSound ts) (ht : ts[id]? = some t) (hfinal : t.job.state.Final)
    (act : TransfersAct) :
    ∃ t' : Transfer, (step ts act)[id]? = some t' ∧ t'.job.state = t.job.state := by
  obtain ⟨t', ht'⟩ := step_known ht act
  refine ⟨t', ht', ?_⟩
  rcases step_cases ht' with hold | ⟨hnone, -⟩ | ⟨t'', own, hold, -, rfl⟩
  · rw [ht] at hold
    rw [Option.some.inj hold]
  · rw [ht] at hnone
    cases hnone
  · rw [ht] at hold
    obtain rfl := Option.some.inj hold
    exact (hsound id t ht).state_step hfinal own

theorem sound_run (acts : List TransfersAct) : AllSound (run step ∅ acts) := by
  refine run_invariant_of_step AllSound (fun _ act h => sound_step h act) acts ?_
  intro id t ht
  simp at ht

/-- A state that was reported as final is reported ever after. -/
theorem state_run (hsound : AllSound ts) (ht : ts[id]? = some t) (hfinal : t.job.state.Final)
    (acts : List TransfersAct) :
    ∃ t' : Transfer, (run step ts acts)[id]? = some t' ∧ t'.job.state = t.job.state := by
  have kept := run_invariant_of_step (fun ts : Transfers => AllSound ts ∧
      ∃ t' : Transfer, ts[id]? = some t' ∧ t'.job.state = t.job.state)
    (fun ts act h => by
      obtain ⟨hsound, t', ht', hstate⟩ := h
      obtain ⟨t'', ht'', hstate'⟩ := state_step hsound ht' (hstate ▸ hfinal) act
      exact ⟨sound_step hsound act, t'', ht'', hstate'.trans hstate⟩)
    acts ⟨hsound, t, ht, rfl⟩
  exact kept.2

theorem snapshot_state {job : FileTransfer} (h : t.snapshot.2 = some job) :
    job.state = t.job.state := by
  unfold Transfer.snapshot at h
  split_ifs at h
  obtain rfl := Option.some.inj h
  exact t.counted_state

/-- Where no step leaves a file behind, nothing is left of a removed transfer whose `run` has ended;
and in any run a transfer that was reported as completed or failed is reported so ever after. -/
theorem removed_leaves_nothing (acts : List TransfersAct) :
    (Along step Clean ∅ acts → ∀ (id : String) (t : Transfer), (run step ∅ acts)[id]? = some t →
      t.LeavesNothing) ∧
    ∀ pre post, acts = pre ++ post → ∀ (id : String) (t t' : Transfer) (job job' : FileTransfer),
      (run step ∅ pre)[id]? = some t → (run step ∅ acts)[id]? = some t' →
      t.snapshot.2 = some job → t'.snapshot.2 = some job' → job.state.Final →
      job'.state = job.state := by
  constructor
  · intro hclean id t ht
    have tidy : ∀ (id : String) (t : Transfer), (run step ∅ acts)[id]? = some t → t.Tidy := by
      refine run_invariant (fun ts : Transfers =>
        ∀ (id : String) (t : Transfer), ts[id]? = some t → t.Tidy)
        (fun _ _ h hstep => tidy_step h hstep) ?_ hclean
      intro id t ht
      simp at ht
    exact (tidy id t ht).leavesNothing (sound_run acts id t ht)
  · intro pre post he id t t' job job' ht ht' hjob hjob' hfinal
    subst he
    have hstate := snapshot_state hjob
    rw [hstate] at hfinal
    obtain ⟨t'', ht'', hsame⟩ := state_run (sound_run pre) ht hfinal post
    rw [run_append, ht''] at ht'
    rw [snapshot_state hjob', ← Option.some.inj ht', hsame, hstate]

section Late

private def pullsUntil (post : List TransferAct) : List TransfersAct :=
  .start "1" "phone" "/sdcard/a" 0 ::
    (List.replicate 5 (TransferAct.run ⟨0, none, false⟩ 0) ++ post).map (.go "1")

private def removesWhilePulled : List TransferAct :=
  .remove 0 :: List.replicate 3 (.removal 0 true)

/-- The pull creates the file after a removal has deleted what was there. -/
theorem removed_file_created : ¬∀ (acts : List TransfersAct) (id : String) (t : Transfer),
    (run step ∅ acts)[id]? = some t → t.LeavesNothing := by
  intro h
  let acts := pullsUntil (removesWhilePulled ++
    [.adb (some 10), .run ⟨0, none, false⟩ 0, .run ⟨0, none, false⟩ 0])
  have left : ((run step ∅ acts)["1"]?.map
      (fun t => (t.removals[0]?, t.pc, t.file))) =
      some (some (.returned true), .ended, some 10) := by
    decide
  obtain ⟨t, ht, he⟩ := Option.map_eq_some_iff.mp left
  simp only [Prod.mk.injEq] at he
  have nothing := h acts "1" t ht ⟨0, true, he.1⟩ he.2.1
  rw [he.2.2] at nothing
  cases nothing.2.2

end Late

end Transfers

end AdbControl.Server
