import AdbControl.Error
import AdbControl.Framework.Keyed

namespace AdbControl.Server.Auth

open Framework

def defaultAdminUsername : String := "admin"

def defaultPassword : String := "admin"

/-- Times are in milliseconds. -/
def sessionLifetime : Nat := 8 * 60 * 60 * 1000

def lockDuration : Nat := 30 * 1000

structure Session where
  username : String
  role : String
  passwordChangeRequired : Bool
  localBypass : Bool
  coreSessionToken : String
  deriving DecidableEq, Repr

structure BrowserSession where
  session : Session
  expiresAt : Nat
  deriving DecidableEq, Repr

/-- What the manager keeps; it stores no password. -/
structure Manager where
  sessions : Keyed String BrowserSession
  failedAttempts : Nat
  lockedUntil : Nat
  localBootstrap : Option Session

inductive AuthError
  | adminOnly
  | invalidCredentials (e : AppError)
  | temporarilyLocked
  | passwordUnchanged
  | noRandomToken
  | core (e : AppError)
  deriving DecidableEq, Repr

/-- What Core says to a login. -/
structure CoreLogin where
  sessionToken : String
  username : String
  role : String
  passwordChangeRequired : Bool

/-- What Core says of the account of a session. -/
structure CoreAccount where
  username : String
  role : String
  passwordChangeRequired : Bool

/-- Core, as the manager calls it: each call may change its state, and an error may be the call's
own, that never got there or whose answer was lost. `δ` is what else decides a call. -/
structure CoreOps (κ δ : Type) where
  login : κ → δ → (password : String) → κ × Except AppError CoreLogin
  me : κ → δ → (sessionToken : String) → κ × Except AppError CoreAccount
  changePassword : κ → δ → (sessionToken currentPassword newPassword : String) →
    κ × Except AppError Unit

/-- The code of Core's answer to a wrong password. -/
def credentialsInvalid : String := "REMOTE_AUTH_CREDENTIALS_INVALID"

def CoreLogin.session (login : CoreLogin) : Session :=
  ⟨login.username, login.role, login.passwordChangeRequired, false, login.sessionToken⟩

def requireAdmin (session : Session) : Except AuthError Unit :=
  if session.username ≠ defaultAdminUsername ∨ session.role ≠ "admin" ∨
      session.coreSessionToken = "" then .error .adminOnly
  else .ok ()

def Manager.new : Manager := ⟨∅, 0, 0, none⟩

/-- The lock is looked at. -/
def Manager.isLocked (m : Manager) (now : Nat) : Bool := now < m.lockedUntil

/-- A wrong password is counted, the fifth of which sets the lock. -/
def Manager.countFailure (m : Manager) (now : Nat) : Manager :=
  if 5 ≤ m.failedAttempts + 1 then
    { m with failedAttempts := 0, lockedUntil := now + lockDuration }
  else { m with failedAttempts := m.failedAttempts + 1 }

/-- A session is opened, and those that have expired are dropped. -/
def Manager.admit (m : Manager) (now : Nat) (token : String) (session : Session) : Manager :=
  { m with
    sessions := (m.sessions.retain (fun _ record => now < record.expiresAt)).insert token
      ⟨session, now + sessionLifetime⟩
    failedAttempts := 0
    lockedUntil := 0 }

/-- All sessions are dropped, the cached one of the local console too. -/
def Manager.wipe (m : Manager) : Manager := { m with sessions := ∅, localBootstrap := none }

/-- What becomes of Core's answer to a login before the manager is touched again: an error that
counts as a wrong password, another, or a session with a token for it. -/
inductive LoginVerdict
  | wrongPassword (e : AppError)
  | refused (e : AuthError)
  | accepted (token : String) (session : Session)

def judgeLogin (answer : Except AppError CoreLogin) (random : Option String) : LoginVerdict :=
  match answer with
  | .error e => if e.errorCode = credentialsInvalid then .wrongPassword e else .refused (.core e)
  | .ok login =>
    match requireAdmin login.session with
    | .error e => .refused e
    | .ok () =>
      match random with
      | none => .refused .noRandomToken
      | some token => .accepted token login.session

/-- What one login meets: the time when it looks at the lock and when it is back from Core, what
decides the call of Core, and the random token, if it can be drawn. -/
structure LoginEnv (δ : Type) where
  now : Nat
  later : Nat
  draw : δ
  random : Option String

variable {κ δ : Type} (ops : CoreOps κ δ)

/-- `Manager.Login`. -/
def login (core : κ) (m : Manager) (env : LoginEnv δ) (password : String) :
    κ × Manager × Except AuthError (String × Session) :=
  if m.isLocked env.now then (core, m, .error .temporarilyLocked)
  else
    let called := ops.login core env.draw password
    match judgeLogin called.2 env.random with
    | .wrongPassword e => (called.1, m.countFailure env.later, .error (.invalidCredentials e))
    | .refused e => (called.1, m, .error e)
    | .accepted token session => (called.1, m.admit env.later token session, .ok (token, session))

/-- The error of a change that Core refuses. -/
def changeError (e : AppError) : AuthError :=
  if e.errorCode = credentialsInvalid then .invalidCredentials e else .core e

/-- `Manager.ChangeAdminPassword`; `change` decides the call of Core that changes the password, and
`env` is what the login after it meets. -/
def changeAdminPassword (core : κ) (m : Manager) (change : δ) (env : LoginEnv δ)
    (session : Session) (currentPassword newPassword : String) :
    κ × Manager × Except AuthError (String × Session) :=
  if currentPassword = newPassword then (core, m, .error .passwordUnchanged)
  else
    match requireAdmin session with
    | .error e => (core, m, .error e)
    | .ok () =>
      let called := ops.changePassword core change session.coreSessionToken currentPassword newPassword
      match called.2 with
      | .error e => (called.1, m, .error (changeError e))
      | .ok () => login ops called.1 m.wipe env newPassword

end AdbControl.Server.Auth
