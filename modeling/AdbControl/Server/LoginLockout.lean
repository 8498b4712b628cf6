import AdbControl.Framework.Threads
import AdbControl.Server.PasswordChange
import AdbControl.Server.AuthThreads

namespace AdbControl.Server.Auth

open Framework

/-- The call has passed the lock, and has Core evaluate its password next. -/
def AuthPc.isAsking : AuthPc → Bool
  | .asking _ => true
  | _ => false

/-- The call has had a wrong password evaluated, and counts it next. -/
def AuthPc.isCounting : AuthPc → Bool
  | .counting _ => true
  | _ => false

/-- The call is past the lock, with a password that Core evaluates or has evaluated. -/
def AuthPc.isGuessing : AuthPc → Bool
  | .asking _ | .counting _ | .admitting _ _ => true
  | _ => false

namespace AuthState

variable {κ δ : Type} (ops : CoreOps κ δ)

def askingCalls (s : AuthState κ) : Nat := s.calls.countP AuthPc.isAsking

def countingCalls (s : AuthState κ) : Nat := s.calls.countP AuthPc.isCounting

def isLocked (s : AuthState κ) : Bool := s.manager.isLocked s.now

/-- The calls whose password Core evaluates in a step: its answer tells whether it is right. -/
def evaluations (s : AuthState κ) : AuthAct δ → List Nat
  | .go k draw =>
    match s.calls[k]? with
    | some (.asking password) =>
      match (ops.login s.core draw.core password).2 with
      | .ok _ => [k]
      | .error e => if e.errorCode = credentialsInvalid then [k] else []
    | _ => []
  | _ => []

/-- No password that is presented in the step is right. -/
def wrongGuess (s : AuthState κ) : AuthAct δ → Bool
  | .go k draw =>
    match s.calls[k]? with
    | some (.asking password) =>
      match (ops.login s.core draw.core password).2 with
      | .ok _ => false
      | .error _ => true
    | _ => true
  | _ => true

/-- The lock expires in the step. -/
def expires (s : AuthState κ) : AuthAct δ → Bool
  | .elapse duration => s.isLocked && !s.manager.isLocked (s.now + duration)
  | _ => false

/-- No call passes the lock while the wrong passwords that are counted and the calls that are past
the lock and not yet counted make five. -/
def hasRoom (s : AuthState κ) : AuthAct δ → Bool
  | .go k _ =>
    match s.calls[k]? with
    | some (.checking _) =>
      s.isLocked || s.manager.failedAttempts + s.askingCalls + s.countingCalls < 5
    | _ => true
  | _ => true

/-- How many passwords may yet be evaluated before the lock expires. -/
def budget (s : AuthState κ) : Nat :=
  if s.isLocked then 0 else 5 - (s.manager.failedAttempts + s.countingCalls)

/-- What holds as long as there is room: the calls past the lock are among the five, and none of
them is left once the lock is set. -/
structure Guarded (s : AuthState κ) : Prop where
  failed : s.manager.failedAttempts < 5
  room : s.manager.failedAttempts + s.askingCalls + s.countingCalls ≤ 5
  locked : s.isLocked = true →
    s.manager.failedAttempts = 0 ∧ s.askingCalls = 0 ∧ s.countingCalls = 0
  admitting : ∀ (k : Nat) token session, s.calls[k]? ≠ some (.admitting token session)

/-- What a step makes of a state with room: there is still room, and `n` passwords fewer may yet be
evaluated. -/
def Spends (s : AuthState κ) (n : Nat) (s' : AuthState κ) : Prop :=
  s'.Guarded ∧ n + s'.budget ≤ s.budget

/-- Five wrong passwords have been evaluated, and the lock that they make is still to be set. -/
def lockPending (s : AuthState κ) : Bool := 5 ≤ s.manager.failedAttempts + s.countingCalls

/-- A login that comes to the lock while it is pending or active is answered there, without Core. -/
def AnswersLocked (s : AuthState κ) (act : AuthAct δ) : Prop :=
  ∀ k draw password, act = .go k draw → s.calls[k]? = some (.checking password) →
    s.isLocked || s.lockPending = true →
    (step ops s act).core = s.core ∧
      (step ops s act).calls[k]? = some (.loggedIn (.error .temporarilyLocked))

/-- Between two expiries of the lock Core evaluates at most five passwords, and no login goes past
the lock while it is pending or active. -/
def LockoutHolds (s : AuthState κ) (acts : List (AuthAct δ)) : Prop :=
  (∀ pre seg post, acts = pre ++ (seg ++ post) →
    Along (step ops) (fun s act => s.expires act = false) (run (step ops) s pre) seg →
    (eventsOf (step ops) (evaluations ops) (run (step ops) s pre) seg).length ≤ 5) ∧
  Along (step ops) (AnswersLocked ops) s acts

variable {ops} {s : AuthState κ}

theorem guarded_start (core : κ) : (start core).Guarded := by
  refine ⟨Nat.zero_lt_succ 4, by simp [start, Manager.new, askingCalls, countingCalls], ?_, ?_⟩
  · intro h
    simp [isLocked, start, Manager.new, Manager.isLocked] at h
  · intro k token session h
    simp [start] at h

/-- A call that presents no password counts nowhere. -/
theorem uncounted {pc : AuthPc} (h : pc.isGuessing = false) :
    pc.isAsking = false ∧ pc.isCounting = false ∧
      ∀ token session, pc ≠ .admitting token session := by
  cases pc with
  | asking password => cases h
  | counting e => cases h
  | admitting token session => cases h
  | _ => exact ⟨rfl, rfl, nofun⟩

/-- No call is about to open a session, unless the one that moves comes there. -/
theorem admitting_set {calls : List AuthPc} {k : Nat} {next : AuthPc}
    (h : ∀ (j : Nat) token session, calls[j]? ≠ some (.admitting token session))
    (hnext : ∀ token session, next ≠ .admitting token session) (j : Nat) (token : String)
    (session : Session) : (calls.set k next)[j]? ≠ some (.admitting token session) := by
  intro hj
  rcases getElem?_moved hj with ⟨-, hmoved⟩ | ⟨-, hj⟩
  · exact hnext token session hmoved.symm
  · exact h j token session hj

/-- A call that presents no password moves, and leaves the lock and the count alone. -/
theorem Guarded.quiet (h : s.Guarded) {k : Nat} {pc next : AuthPc} (hpc : s.calls[k]? = some pc)
    {core : κ} {manager : Manager}
    (hmanager : manager.failedAttempts = s.manager.failedAttempts ∧
      manager.lockedUntil = s.manager.lockedUntil)
    (hidle : pc.isGuessing = false) (hnext : next.isGuessing = false) :
    s.Spends 0 { s with core, manager, calls := s.calls.set k next } := by
  obtain ⟨hasking, hcounting, -⟩ := uncounted hidle
  obtain ⟨hasking', hcounting', hadmitting⟩ := uncounted hnext
  have asking : (s.calls.set k next).countP AuthPc.isAsking = s.askingCalls := by
    simpa [askingCalls, hasking, hasking'] using countP_moved AuthPc.isAsking hpc next
  have counting : (s.calls.set k next).countP AuthPc.isCounting = s.countingCalls := by
    simpa [countingCalls, hcounting, hcounting'] using countP_moved AuthPc.isCounting hpc next
  have hlocked : manager.isLocked s.now = s.isLocked := by
    simp only [isLocked, Manager.isLocked, hmanager.2]
  refine ⟨⟨?_, ?_, ?_, admitting_set h.admitting hadmitting⟩, ?_⟩
  · show manager.failedAttempts < 5
    rw [hmanager.1]
    exact h.failed
  · show manager.failedAttempts + (s.calls.set k next).countP AuthPc.isAsking +
      (s.calls.set k next).countP AuthPc.isCounting ≤ 5
    rw [hmanager.1, asking, counting]
    exact h.room
  · show manager.isLocked s.now = true → manager.failedAttempts = 0 ∧
      (s.calls.set k next).countP AuthPc.isAsking = 0 ∧
      (s.calls.set k next).countP AuthPc.isCounting = 0
    rw [hlocked, hmanager.1, asking, counting]
    exact h.locked
  · show 0 + (if manager.isLocked s.now then 0
      else 5 - (manager.failedAttempts + (s.calls.set k next).countP AuthPc.isCounting)) ≤ s.budget
    rw [hlocked, hmanager.1, counting, Nat.zero_add]
    exact le_refl _

/-- A call passes the lock, where there is room. -/
theorem Guarded.pass (h : s.Guarded) {k : Nat} {password : String}
    (hpc : s.calls[k]? = some (.checking password)) (hlocked : s.isLocked = false)
    (hroom : s.manager.failedAttempts + s.askingCalls + s.countingCalls < 5) :
    s.Spends 0 { s with calls := s.calls.set k (.asking password) } := by
  have asking : (s.calls.set k (.asking password)).countP AuthPc.isAsking = s.askingCalls + 1 :=
    countP_moved AuthPc.isAsking hpc _
  have counting : (s.calls.set k (.asking password)).countP AuthPc.isCounting = s.countingCalls :=
    countP_moved AuthPc.isCounting hpc _
  refine ⟨⟨h.failed, ?_, ?_, admitting_set h.admitting nofun⟩, ?_⟩
  · show s.manager.failedAttempts + (s.calls.set k (.asking password)).countP AuthPc.isAsking +
      (s.calls.set k (.asking password)).countP AuthPc.isCounting ≤ 5
    rw [asking, counting]
    omega
  · intro hstill
    rw [show s.isLocked = true from hstill] at hlocked
    cases hlocked
  · show 0 + (if s.isLocked then 0 else 5 - (s.manager.failedAttempts +
      (s.calls.set k (.asking password)).countP AuthPc.isCounting)) ≤ s.budget
    rw [counting, Nat.zero_add]
    exact le_refl _

/-- Core evaluates a wrong password, while the lock cannot be set. -/
theorem Guarded.evaluate (h : s.Guarded) {k : Nat} {password : String} {core : κ} {e : AppError}
    (hpc : s.calls[k]? = some (.asking password)) :
    s.Spends 1 { s with core, calls := s.calls.set k (.counting e) } := by
  have asking : (s.calls.set k (.counting e)).countP AuthPc.isAsking + 1 = s.askingCalls :=
    countP_moved AuthPc.isAsking hpc _
  have counting : (s.calls.set k (.counting e)).countP AuthPc.isCounting = s.countingCalls + 1 :=
    countP_moved AuthPc.isCounting hpc _
  have hroom := h.room
  have hlocked : s.isLocked = false := by
    by_contra hl
    have idle := (h.locked (by simpa using hl)).2.1
    omega
  refine ⟨⟨h.failed, ?_, ?_, admitting_set h.admitting nofun⟩, ?_⟩
  · show s.manager.failedAttempts + (s.calls.set k (.counting e)).countP AuthPc.isAsking +
      (s.calls.set k (.counting e)).countP AuthPc.isCounting ≤ 5
    omega
  · intro hstill
    rw [show s.isLocked = true from hstill] at hlocked
    cases hlocked
  · show 1 + (if s.isLocked then 0 else 5 - (s.manager.failedAttempts +
      (s.calls.set k (.counting e)).countP AuthPc.isCounting)) ≤
        if s.isLocked then 0 else 5 - (s.manager.failedAttempts + s.countingCalls)
    rw [hlocked, counting]
    simp only [Bool.false_eq_true, if_false]
    omega

/-- Core's answer to a login is not about the password. -/
theorem Guarded.refuse (h : s.Guarded) {k : Nat} {password : String} {core : κ} {e : AuthError}
    (hpc : s.calls[k]? = some (.asking password)) :
    s.Spends 0 { s with core, calls := s.calls.set k (.loggedIn (.error e)) } := by
  have asking : (s.calls.set k (.loggedIn (.error e))).countP AuthPc.isAsking + 1 = s.askingCalls :=
    countP_moved AuthPc.isAsking hpc _
  have counting : (s.calls.set k (.loggedIn (.error e))).countP AuthPc.isCounting =
      s.countingCalls := countP_moved AuthPc.isCounting hpc _
  have hroom := h.room
  refine ⟨⟨h.failed, ?_, ?_, admitting_set h.admitting nofun⟩, ?_⟩
  · show s.manager.failedAttempts +
      (s.calls.set k (.loggedIn (.error e))).countP AuthPc.isAsking +
      (s.calls.set k (.loggedIn (.error e))).countP AuthPc.isCounting ≤ 5
    omega
  · intro hstill
    have idle := (h.locked hstill).2.1
    omega
  · show 0 + (if s.isLocked then 0 else 5 - (s.manager.failedAttempts +
      (s.calls.set k (.loggedIn (.error e))).countP AuthPc.isCounting)) ≤ s.budget
    rw [counting, Nat.zero_add]
    exact le_refl _

/-- A wrong password is counted: the fifth sets the lock, and then no call is under way. -/
theorem Guarded.count (h : s.Guarded) {k : Nat} {e : AppError}
    (hpc : s.calls[k]? = some (.counting e)) :
    s.Spends 0 { s with
      manager := s.manager.countFailure s.now
      calls := s.calls.set k (.loggedIn (.error (.invalidCredentials e))) } := by
  have asking : (s.calls.set k (.loggedIn (.error (.invalidCredentials e)))).countP
      AuthPc.isAsking = s.askingCalls := countP_moved AuthPc.isAsking hpc _
  have counting : (s.calls.set k (.loggedIn (.error (.invalidCredentials e)))).countP
      AuthPc.isCounting + 1 = s.countingCalls := countP_moved AuthPc.isCounting hpc _
  have admitting : ∀ (j : Nat) token session,
      (s.calls.set k (.loggedIn (.error (.invalidCredentials e))))[j]? ≠
        some (.admitting token session) := admitting_set h.admitting nofun
  have hroom := h.room
  have hfailed := h.failed
  generalize s.calls.set k _ = calls at asking counting admitting ⊢
  have hlocked : s.isLocked = false := by
    by_contra hl
    have idle := (h.locked (by simpa using hl)).2.2
    omega
  unfold Manager.countFailure
  split_ifs with hfive
  · refine ⟨⟨Nat.zero_lt_succ 4, ?_, ?_, admitting⟩, ?_⟩
    · show 0 + calls.countP AuthPc.isAsking + calls.countP AuthPc.isCounting ≤ 5
      omega
    · intro _
      show 0 = 0 ∧ calls.countP AuthPc.isAsking = 0 ∧ calls.countP AuthPc.isCounting = 0
      omega
    · have set : decide (s.now < s.now + lockDuration) = true := by simp [lockDuration]
      show 0 + (if decide (s.now < s.now + lockDuration) then 0
        else 5 - (0 + calls.countP AuthPc.isCounting)) ≤ s.budget
      rw [set, if_pos rfl]
      exact Nat.zero_le _
  · refine ⟨⟨?_, ?_, ?_, admitting⟩, ?_⟩
    · show s.manager.failedAttempts + 1 < 5
      omega
    · show s.manager.failedAttempts + 1 + calls.countP AuthPc.isAsking +
        calls.countP AuthPc.isCounting ≤ 5
      omega
    · intro hstill
      rw [show s.isLocked = true from hstill] at hlocked
      cases hlocked
    · show 0 + (if s.isLocked then 0
        else 5 - (s.manager.failedAttempts + 1 + calls.countP AuthPc.isCounting)) ≤
          if s.isLocked then 0 else 5 - (s.manager.failedAttempts + s.countingCalls)
      rw [hlocked]
      simp only [Bool.false_eq_true, if_false]
      omega

/-- A call begins, before any password. -/
theorem Guarded.begin (h : s.Guarded) {pc : AuthPc} (hpc : pc.isGuessing = false) :
    s.Spends 0 (s.begin pc) := by
  obtain ⟨hasking, hcounting, hadmitting⟩ := uncounted hpc
  have asking : (s.begin pc).askingCalls = s.askingCalls := by
    simp [askingCalls, AuthState.begin, hasking]
  have counting : (s.begin pc).countingCalls = s.countingCalls := by
    simp [countingCalls, AuthState.begin, hcounting]
  refine ⟨⟨h.failed, ?_, ?_, ?_⟩, ?_⟩
  · rw [asking, counting]
    exact h.room
  · rw [asking, counting]
    exact h.locked
  · intro k token session hk
    rw [AuthState.begin, List.getElem?_append] at hk
    split_ifs at hk
    · exact h.admitting k token session hk
    · rw [List.getElem?_singleton] at hk
      split_ifs at hk
      exact hadmitting token session (Option.some.inj hk)
  · show 0 + (if s.isLocked then 0
      else 5 - (s.manager.failedAttempts + (s.begin pc).countingCalls)) ≤ s.budget
    rw [counting, Nat.zero_add]
    exact le_refl _

/-- Time passes, and the lock stays as it is. -/
theorem Guarded.elapse (h : s.Guarded) {duration : Nat}
    (hexpires : expires s (.elapse duration : AuthAct δ) = false) :
    s.Spends 0 { s with now := s.now + duration } := by
  have later (hl : s.manager.isLocked (s.now + duration) = true) : s.isLocked = true := by
    simp only [isLocked, Manager.isLocked, decide_eq_true_eq] at hl ⊢
    omega
  simp only [expires, Bool.and_eq_false_iff, Bool.not_eq_false'] at hexpires
  have same : s.manager.isLocked (s.now + duration) = s.isLocked := by
    rcases hexpires with hopen | hl
    · rw [hopen]
      by_contra hl
      rw [later (by simpa using hl)] at hopen
      cases hopen
    · rw [hl, later hl]
  refine ⟨⟨h.failed, h.room, fun hl => h.locked (later hl), h.admitting⟩, ?_⟩
  show 0 + (if s.manager.isLocked (s.now + duration) then 0
    else 5 - (s.manager.failedAttempts + s.countingCalls)) ≤ s.budget
  rw [same, Nat.zero_add]
  exact le_refl _

/-- Time passes; where the lock expires, there is room all the more. -/
theorem Guarded.later (h : s.Guarded) (duration : Nat) :
    Guarded { s with now := s.now + duration } := by
  refine ⟨h.failed, h.room, fun hl => h.locked ?_, h.admitting⟩
  simp only [isLocked, Manager.isLocked, decide_eq_true_eq] at hl ⊢
  omega

theorem bootstrapFrom_idle (cached : Option Session) :
    (bootstrapFrom cached).isGuessing = false := by
  unfold bootstrapFrom
  split
  · rfl
  · split_ifs
    · rfl
    · rfl

theorem changeFrom_idle (session : Session) (currentPassword newPassword : String) :
    (changeFrom session currentPassword newPassword).isGuessing = false := by
  unfold changeFrom
  split_ifs
  · rfl
  · split
    · rfl
    · rfl

/-- A call that presents no password, and is not at the lock, comes to none by its step, and leaves
the lock and the count alone. -/
theorem advance_idle (ops : CoreOps κ δ) (draw : AuthDraw δ) {pc : AuthPc} (hpc : pc.isGuessing = false)
    (hlock : ∀ password, pc ≠ .checking password) :
    ((s.advance ops draw pc).2.1.failedAttempts = s.manager.failedAttempts ∧
      (s.advance ops draw pc).2.1.lockedUntil = s.manager.lockedUntil) ∧
      (s.advance ops draw pc).2.2.isGuessing = false := by
  cases pc with
  | asking password => cases hpc
  | counting e => cases hpc
  | admitting token session => cases hpc
  | checking password => exact (hlock password rfl).elim
  | reading => exact ⟨⟨rfl, rfl⟩, bootstrapFrom_idle _⟩
  | refreshing token =>
    refine ⟨⟨rfl, rfl⟩, ?_⟩
    simp only [advance]
    split
    · rfl
    · split_ifs
      · rfl
      · rfl
  | trying =>
    refine ⟨⟨rfl, rfl⟩, ?_⟩
    simp only [advance]
    split
    · rfl
    · rfl
  | changing session currentPassword newPassword =>
    refine ⟨⟨rfl, rfl⟩, ?_⟩
    simp only [advance]
    split
    · rfl
    · rfl
  | _ => exact ⟨⟨rfl, rfl⟩, rfl⟩

theorem Guarded.idle (h : s.Guarded) {k : Nat} (draw : AuthDraw δ) {pc : AuthPc}
    (hpc : s.calls[k]? = some pc) (hidle : pc.isGuessing = false)
    (hlock : ∀ password, pc ≠ .checking password) :
    s.Spends 0 { s with
      core := (s.advance ops draw pc).1
      manager := (s.advance ops draw pc).2.1
      calls := s.calls.set k (s.advance ops draw pc).2.2 } := by
  obtain ⟨hmanager, hnext⟩ := advance_idle ops draw hidle hlock
  exact h.quiet hpc hmanager hidle hnext

/-- One step of a call, where there is room and no password is right. -/
theorem guarded_go (h : s.Guarded) {k : Nat} {draw : AuthDraw δ} {pc : AuthPc}
    (hpc : s.calls[k]? = some pc) (hwrong : s.wrongGuess ops (.go k draw) = true)
    (hroom : s.hasRoom (.go k draw : AuthAct δ) = true) :
    s.Spends (s.evaluations ops (.go k draw)).length (step ops s (.go k draw)) := by
  rw [step_go hpc]
  simp only [evaluations, wrongGuess, hasRoom, hpc] at hwrong hroom ⊢
  cases pc with
  | checking password =>
    simp only [advance]
    cases hlocked : s.isLocked with
    | true =>
      rw [show s.manager.isLocked s.now = true from hlocked, if_pos rfl]
      exact h.quiet hpc ⟨rfl, rfl⟩ rfl rfl
    | false =>
      rw [show s.manager.isLocked s.now = false from hlocked, if_neg (by decide)]
      rw [hlocked, Bool.false_or, decide_eq_true_eq] at hroom
      exact h.pass hpc hlocked hroom
  | asking password =>
    simp only [advance]
    cases hanswer : (ops.login s.core draw.core password).2 with
    | ok login => simp [hanswer] at hwrong
    | error e =>
      simp only [judgeLogin]
      by_cases hcode : e.errorCode = credentialsInvalid
      · rw [if_pos hcode, if_pos hcode]
        exact h.evaluate hpc
      · rw [if_neg hcode, if_neg hcode]
        exact h.refuse hpc
  | counting e => exact h.count hpc
  | admitting token session => exact (h.admitting k token session hpc).elim
  | _ => exact h.idle draw hpc rfl (fun _ => by simp)

/-- What a step of a run asks for: no password is right, and no call passes the lock without room. -/
def Roomy (ops : CoreOps κ δ) (s : AuthState κ) (act : AuthAct δ) : Prop :=
  s.wrongGuess ops act = true ∧ s.hasRoom act = true

theorem guarded_step (h : s.Guarded) {act : AuthAct δ} (hroomy : Roomy ops s act) :
    (step ops s act).Guarded ∧ (s.expires act = false →
      (s.evaluations ops act).length + (step ops s act).budget ≤ s.budget) := by
  cases act with
  | elapse duration => exact ⟨h.later duration, fun hexpires => (h.elapse hexpires).2⟩
  | login password =>
    have begun := @Guarded.begin _ _ h (.checking password) rfl
    exact ⟨begun.1, fun _ => begun.2⟩
  | localBootstrapSession =>
    have begun := @Guarded.begin _ _ h .reading rfl
    exact ⟨begun.1, fun _ => begun.2⟩
  | changeAdminPassword session currentPassword newPassword =>
    have begun := h.begin (changeFrom_idle session currentPassword newPassword)
    exact ⟨begun.1, fun _ => begun.2⟩
  | go k draw =>
    cases hpc : s.calls[k]? with
    | none =>
      have rests : step ops s (.go k draw) = s := by simp only [step, hpc]
      rw [rests]
      simp [h, evaluations, hpc]
    | some pc =>
      have went := guarded_go h hpc hroomy.1 hroomy.2
      exact ⟨went.1, fun _ => went.2⟩

theorem guarded_run (h : s.Guarded) {acts : List (AuthAct δ)}
    (hroomy : Along (step ops) (Roomy ops) s acts) : (run (step ops) s acts).Guarded :=
  run_invariant Guarded (fun _ _ h hroomy => (guarded_step h hroomy).1) h hroomy

/-- While the lock does not expire, what is evaluated is spent. -/
theorem evaluations_le_budget (h : s.Guarded) {seg : List (AuthAct δ)}
    (hroomy : Along (step ops) (Roomy ops) s seg)
    (hexpires : Along (step ops) (fun s act => s.expires act = false) s seg) :
    (eventsOf (step ops) (evaluations ops) s seg).length + (run (step ops) s seg).budget ≤
      s.budget := by
  induction seg generalizing s with
  | nil => simp
  | cons act seg ih =>
    obtain ⟨hkept, hspent⟩ := guarded_step h hroomy.1
    have now := hspent hexpires.1
    have later := ih hkept hroomy.2 hexpires.2
    rw [eventsOf_cons, List.length_append, run_cons]
    omega

theorem budget_le (s : AuthState κ) : s.budget ≤ 5 := by
  unfold budget
  split_ifs
  · exact Nat.zero_le 5
  · exact Nat.sub_le _ _

/-- A call comes to the lock, with room only where the lock is not pending. -/
theorem answersLocked_of_room {act : AuthAct δ} (hroom : s.hasRoom act = true) :
    AnswersLocked ops s act := by
  intro k draw password hact hpc hpending
  subst hact
  have hlocked : s.manager.isLocked s.now = true := by
    simp only [hasRoom, hpc, Bool.or_eq_true, decide_eq_true_eq] at hroom
    rcases hroom with hlocked | hroom
    · exact hlocked
    · simp only [lockPending, Bool.or_eq_true, decide_eq_true_eq] at hpending
      rcases hpending with hlocked | hfive
      · exact hlocked
      · omega
  constructor
  · rw [step_go hpc]
    rfl
  · rw [step_go_at hpc]
    simp only [advance, hlocked, if_true]

/-- In a run of any calls in which no right password is presented, the lockout holds as long as no
login passes the lock while the wrong passwords counted and the logins past it make five. -/
theorem lockout_holds (ops : CoreOps κ δ) (core : κ) (acts : List (AuthAct δ))
    (hwrong : Along (step ops) (fun s act => s.wrongGuess ops act = true) (start core) acts)
    (hroom : Along (step ops) (fun s act => s.hasRoom act = true) (start core) acts) :
    LockoutHolds ops (start core) acts := by
  have hroomy : Along (step ops) (Roomy ops) (start core) acts := along_and.mpr ⟨hwrong, hroom⟩
  constructor
  · intro pre seg post hsplit hexpires
    subst hsplit
    have hseg := ((along_append _ _ _ _ _).mp hroomy).2.before
    have spent := evaluations_le_budget (guarded_run (guarded_start core) hroomy.before) hseg hexpires
    have five := budget_le (run (step ops) (start core) pre)
    omega
  · exact along_safe (fun _ => True) (fun _ _ _ _ => trivial)
      (fun _ _ _ hroom => answersLocked_of_room hroom) trivial hroom

/-- Five wrong passwords one after the other, and a sixth that the lock answers. -/
def fiveGuesses : List (AuthAct Unit) :=
  (List.range 6).flatMap fun k => .login "guess" :: List.replicate 3 (.go k ⟨(), none⟩)

theorem lockout_holds_five : LockoutHolds plainCore (start defaultPassword) fiveGuesses :=
  lockout_holds plainCore defaultPassword fiveGuesses (by decide) (by decide)

/-- Six logins at once, all of which look at the lock before any is evaluated. -/
def sixAtOnce : List (AuthAct Unit) :=
  List.replicate 6 (.login "guess") ++
    ((List.range 6).map fun k => .go k ⟨(), none⟩) ++ (List.range 6).map fun k => .go k ⟨(), none⟩

theorem lockout_fails_six : ¬∀ (κ δ : Type) (ops : CoreOps κ δ) (core : κ)
    (acts : List (AuthAct δ)),
    Along (step ops) (fun s act => s.wrongGuess ops act = true) (start core) acts →
    LockoutHolds ops (start core) acts := by
  intro h
  have five := (h String Unit plainCore defaultPassword sixAtOnce (by decide)).1 [] sixAtOnce []
    (List.append_nil sixAtOnce).symm (by decide)
  revert five
  decide

end AuthState

end AdbControl.Server.Auth
