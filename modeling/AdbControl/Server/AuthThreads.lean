import AdbControl.Server.AuthManager
import AdbControl.Framework.Run

namespace AdbControl.Server.Auth

open Framework

/-- How far a call of the manager has come: between two places it holds the mutex once, or calls
Core without it. -/
inductive AuthPc
  -- `Login`, and the end of `ChangeAdminPassword`
  | checking (password : String)
  | asking (password : String)
  | counting (e : AppError)
  | admitting (token : String) (session : Session)
  | loggedIn (result : Except AuthError (String × Session))
  -- `LocalBootstrapSession`
  | reading
  | refreshing (coreSessionToken : String)
  | refreshed (session : Session)
  | clearing
  | trying
  | installing (session : Session)
  | answered (result : Option Session)
  -- `ChangeAdminPassword`
  | changing (session : Session) (currentPassword newPassword : String)
  | wiping (newPassword : String)

/-- The manager and Core, with all calls ever begun. -/
structure AuthState (κ : Type) where
  core : κ
  now : Nat
  manager : Manager
  calls : List AuthPc

/-- What decides a step of a call: the call of Core, and the random token. -/
structure AuthDraw (δ : Type) where
  core : δ
  random : Option String

inductive AuthAct (δ : Type)
  | elapse (duration : Nat)
  | login (password : String)
  /-- `DefaultPasswordActive` is this call, and tells only whether there is a session -/
  | localBootstrapSession
  | changeAdminPassword (session : Session) (currentPassword newPassword : String)
  | go (k : Nat) (draw : AuthDraw δ)

namespace AuthState

variable {κ δ : Type} (ops : CoreOps κ δ)

def start (core : κ) : AuthState κ := ⟨core, 0, .new, []⟩

/-- `refreshCoreSession` on Core's answer. -/
def refreshCoreSession (token : String) (answer : Except AppError CoreAccount) : Option Session :=
  match answer with
  | .error _ => none
  | .ok account =>
    if account.username ≠ defaultAdminUsername ∨ account.role ≠ "admin" then none
    else some ⟨account.username, account.role, account.passwordChangeRequired, false, token⟩

/-- A factory login opens a local session only for an administrator who is to change the password. -/
def bootstrapSession (answer : Except AppError CoreLogin) : Option Session :=
  match answer with
  | .error _ => none
  | .ok login =>
    if login.username ≠ defaultAdminUsername ∨ login.role ≠ "admin" ∨
        login.passwordChangeRequired = false then none
    else some { login.session with localBypass := true }

/-- Where a call of `LocalBootstrapSession` begins, from the cached session. -/
def bootstrapFrom (cached : Option Session) : AuthPc :=
  match cached with
  | none => .trying
  | some session =>
    if session.coreSessionToken = "" then .trying else .refreshing session.coreSessionToken

/-- Where a call of `ChangeAdminPassword` begins. -/
def changeFrom (session : Session) (currentPassword newPassword : String) : AuthPc :=
  if currentPassword = newPassword then .loggedIn (.error .passwordUnchanged)
  else
    match requireAdmin session with
    | .error e => .loggedIn (.error e)
    | .ok () => .changing session currentPassword newPassword

/-- The next step of a call: what it leaves of Core and the manager, and where it comes. -/
def advance (s : AuthState κ) (draw : AuthDraw δ) : AuthPc → κ × Manager × AuthPc
  | .checking password =>
    (s.core, s.manager,
      if s.manager.isLocked s.now then .loggedIn (.error .temporarilyLocked) else .asking password)
  | .asking password =>
    let called := ops.login s.core draw.core password
    (called.1, s.manager,
      match judgeLogin called.2 draw.random with
      | .wrongPassword e => .counting e
      | .refused e => .loggedIn (.error e)
      | .accepted token session => .admitting token session)
  | .counting e =>
    (s.core, s.manager.countFailure s.now, .loggedIn (.error (.invalidCredentials e)))
  | .admitting token session =>
    (s.core, s.manager.admit s.now token session, .loggedIn (.ok (token, session)))
  | .reading => (s.core, s.manager, bootstrapFrom s.manager.localBootstrap)
  | .refreshing token =>
    let called := ops.me s.core draw.core token
    (called.1, s.manager,
      match refreshCoreSession token called.2 with
      | none => .clearing
      | some session =>
        if session.passwordChangeRequired then .refreshed { session with localBypass := true }
        else .clearing)
  | .refreshed session =>
    (s.core, { s.manager with localBootstrap := some session }, .answered (some session))
  | .clearing => (s.core, { s.manager with localBootstrap := none }, .trying)
  | .trying =>
    let called := ops.login s.core draw.core defaultPassword
    (called.1, s.manager,
      match bootstrapSession called.2 with
      | none => .answered none
      | some session => .installing session)
  | .installing session =>
    (s.core, { s.manager with localBootstrap := some session }, .answered (some session))
  | .changing session currentPassword newPassword =>
    let called :=
      ops.changePassword s.core draw.core session.coreSessionToken currentPassword newPassword
    (called.1, s.manager,
      match called.2 with
      | .error e => .loggedIn (.error (changeError e))
      | .ok () => .wiping newPassword)
  | .wiping newPassword => (s.core, s.manager.wipe, .checking newPassword)
  | .loggedIn result => (s.core, s.manager, .loggedIn result)
  | .answered result => (s.core, s.manager, .answered result)

def begin (s : AuthState κ) (pc : AuthPc) : AuthState κ := { s with calls := s.calls ++ [pc] }

def step (s : AuthState κ) : AuthAct δ → AuthState κ
  | .elapse duration => { s with now := s.now + duration }
  | .login password => s.begin (.checking password)
  | .localBootstrapSession => s.begin .reading
  | .changeAdminPassword session currentPassword newPassword =>
    s.begin (changeFrom session currentPassword newPassword)
  | .go k draw =>
    match s.calls[k]? with
    | none => s
    | some pc =>
      let next := s.advance ops draw pc
      { s with core := next.1, manager := next.2.1, calls := s.calls.set k next.2.2 }

/-- What a step can do: time passes, a call begins, or a call goes on. -/
inductive Steps (s : AuthState κ) : AuthAct δ → AuthState κ → Prop
  | elapses (duration : Nat) : Steps s (.elapse duration) { s with now := s.now + duration }
  | begins {act : AuthAct δ} (pc : AuthPc) (h : act = .localBootstrapSession ∧ pc = .reading ∨
      (∃ password, act = .login password ∧ pc = .checking password) ∨
      ∃ session current new, act = .changeAdminPassword session current new ∧
        pc = changeFrom session current new) : Steps s act (s.begin pc)
  | rests (k : Nat) (draw : AuthDraw δ) (h : s.calls[k]? = none) : Steps s (.go k draw) s
  | goes (k : Nat) (draw : AuthDraw δ) {pc : AuthPc} (h : s.calls[k]? = some pc) :
    Steps s (.go k draw) { s with
      core := (s.advance ops draw pc).1
      manager := (s.advance ops draw pc).2.1
      calls := s.calls.set k (s.advance ops draw pc).2.2 }

theorem step_steps (s : AuthState κ) (act : AuthAct δ) : Steps ops s act (step ops s act) := by
  cases act with
  | elapse duration => exact .elapses duration
  | login password => exact .begins _ (Or.inr (Or.inl ⟨password, rfl, rfl⟩))
  | localBootstrapSession => exact .begins _ (Or.inl ⟨rfl, rfl⟩)
  | changeAdminPassword session current new =>
    exact .begins _ (Or.inr (Or.inr ⟨session, current, new, rfl, rfl⟩))
  | go k draw =>
    cases hpc : s.calls[k]? with
    | none =>
      simp only [step, hpc]
      exact .rests k draw hpc
    | some pc =>
      simp only [step, hpc]
      exact .goes k draw hpc

section Alone

variable {ops} {s : AuthState κ} {k : Nat} {draw : AuthDraw δ}

theorem step_go {pc : AuthPc} (h : s.calls[k]? = some pc) : step ops s (.go k draw) = { s with
    core := (s.advance ops draw pc).1
    manager := (s.advance ops draw pc).2.1
    calls := s.calls.set k (s.advance ops draw pc).2.2 } := by
  simp only [step, h]

/-- Where a call is after its step. -/
theorem step_go_at {pc : AuthPc} (h : s.calls[k]? = some pc) :
    (step ops s (.go k draw)).calls[k]? = some (s.advance ops draw pc).2.2 := by
  obtain ⟨hk, -⟩ := List.getElem?_eq_some_iff.mp h
  rw [step_go h]
  simp [hk]

/-- A call that has returned stays as it is. -/
theorem step_loggedIn {result : Except AuthError (String × Session)}
    (h : s.calls[k]? = some (.loggedIn result)) : step ops s (.go k draw) = s := by
  obtain ⟨hk, hpc⟩ := List.getElem?_eq_some_iff.mp h
  rw [step_go h]
  simp only [advance, ← hpc, List.set_getElem_self]

theorem run_loggedIn {result : Except AuthError (String × Session)}
    (h : s.calls[k]? = some (.loggedIn result)) (n : Nat) :
    run (step ops) s (List.replicate n (.go k draw)) = s := by
  induction n with
  | zero => rfl
  | succ n ih => rw [List.replicate_succ, run_cons, step_loggedIn h, ih]

/-- Core, the manager and the call, as a login leaves them. -/
def Leaves (s : AuthState κ) (k : Nat)
    (result : κ × Manager × Except AuthError (String × Session)) : Prop :=
  s.core = result.1 ∧ s.manager = result.2.1 ∧ s.calls[k]? = some (.loggedIn result.2.2)

/-- A login whose steps nothing comes between is the function. -/
theorem login_alone {password : String} (h : s.calls[k]? = some (.checking password)) :
    Leaves (run (step ops) s (List.replicate 3 (.go k draw))) k
      (login ops s.core s.manager ⟨s.now, s.now, draw.core, draw.random⟩ password) := by
  have first := @step_go_at _ _ ops _ _ draw _ h
  rw [List.replicate_succ, run_cons]
  unfold login
  cases hlocked : s.manager.isLocked s.now with
  | true =>
    simp only [advance, hlocked, if_true] at first ⊢
    rw [run_loggedIn first]
    refine ⟨?_, ?_, first⟩
    · rw [step_go h]
      rfl
    · rw [step_go h]
      rfl
  | false =>
    simp only [advance, hlocked, Bool.false_eq_true, if_false] at first ⊢
    have looked : step ops s (.go k draw) = { s with calls := s.calls.set k (.asking password) } := by
      rw [step_go h]
      simp [advance, hlocked]
    have second := @step_go_at _ _ ops _ _ draw _ first
    rw [List.replicate_succ, run_cons]
    have asked := @step_go _ _ ops _ _ draw _ first
    rw [looked] at second asked ⊢
    simp only [advance] at second asked
    cases hverdict : judgeLogin (ops.login s.core draw.core password).2 draw.random with
    | refused e =>
      simp only [hverdict] at second asked
      rw [run_loggedIn second, asked]
      exact ⟨rfl, rfl, by rw [← asked]; exact second⟩
    | wrongPassword e =>
      simp only [hverdict] at second asked
      have third := @step_go_at _ _ ops _ _ draw _ second
      have counted := @step_go _ _ ops _ _ draw _ second
      rw [List.replicate_one, run_cons, run_nil]
      rw [asked] at third counted ⊢
      rw [counted] at third ⊢
      exact ⟨rfl, rfl, third⟩
    | accepted token session =>
      simp only [hverdict] at second asked
      have third := @step_go_at _ _ ops _ _ draw _ second
      have admitted := @step_go _ _ ops _ _ draw _ second
      rw [List.replicate_one, run_cons, run_nil]
      rw [asked] at third admitted ⊢
      rw [admitted] at third ⊢
      exact ⟨rfl, rfl, third⟩

/-- A change of the password whose steps nothing comes between is the function. -/
theorem change_alone {session : Session} {currentPassword newPassword : String}
    {first : AuthDraw δ} (h : s.calls[k]? = some (.changing session currentPassword newPassword))
    (hne : currentPassword ≠ newPassword) (hadmin : requireAdmin session = .ok ()) :
    Leaves (run (step ops) s (.go k first :: List.replicate 4 (.go k draw))) k
      (changeAdminPassword ops s.core s.manager first.core
        ⟨s.now, s.now, draw.core, draw.random⟩ session currentPassword newPassword) := by
  have called := @step_go _ _ ops _ _ first _ h
  have second := @step_go_at _ _ ops _ _ first _ h
  rw [run_cons]
  unfold changeAdminPassword
  rw [if_neg hne, hadmin]
  simp only [advance] at called second ⊢
  cases hanswer : (ops.changePassword s.core first.core session.coreSessionToken currentPassword
      newPassword).2 with
  | error e =>
    simp only [hanswer] at called second
    rw [run_loggedIn second]
    refine ⟨?_, ?_, second⟩
    · rw [called]
    · rw [called]
  | ok u =>
    simp only [hanswer] at called second
    have third := @step_go_at _ _ ops _ _ draw _ second
    have wiped := @step_go _ _ ops _ _ draw _ second
    rw [List.replicate_succ, run_cons]
    have logged := @login_alone _ _ ops _ _ draw _ third
    rw [called] at wiped logged ⊢
    simp only [advance] at wiped
    rw [wiped] at logged ⊢
    exact logged

end Alone

end AuthState

end AdbControl.Server.Auth
