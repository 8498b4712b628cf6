import AdbControl.Server.AuthManager

namespace AdbControl.Server.Auth

open Framework

variable {κ δ : Type} {ops : CoreOps κ δ}

/-- Core as far as its passwords go: a change that succeeds is from the password that is stored to
the new one, and a login changes none. -/
structure StoresPassword (ops : CoreOps κ δ) (password : κ → String) : Prop where
  change : ∀ core draw sessionToken currentPassword newPassword,
    (ops.changePassword core draw sessionToken currentPassword newPassword).2 = .ok () →
    password core = currentPassword ∧
      password (ops.changePassword core draw sessionToken currentPassword newPassword).1 = newPassword
  login : ∀ core draw guess, password (ops.login core draw guess).1 = password core

/-- A login succeeds: no lock is active, Core answers with a session of the administrator, and a
token can be drawn. -/
def LoginSucceeds (ops : CoreOps κ δ) (core : κ) (m : Manager) (env : LoginEnv δ)
    (password : String) : Prop :=
  m.isLocked env.now = false ∧ env.random.isSome = true ∧
    ∃ answer, (ops.login core env.draw password).2 = .ok answer ∧
      requireAdmin answer.session = .ok ()

theorem judgeLogin_accepted {answer : Except AppError CoreLogin} {random : Option String} :
    (∃ token session, judgeLogin answer random = .accepted token session) ↔
      random.isSome = true ∧ ∃ login, answer = .ok login ∧ requireAdmin login.session = .ok () := by
  unfold judgeLogin
  cases answer with
  | error e =>
    dsimp only
    split_ifs <;> simp
  | ok login =>
    cases hadmin : requireAdmin login.session with
    | error e => simp [hadmin]
    | ok u => cases random <;> simp [hadmin]

/-- A login fails exactly where it does not succeed. -/
theorem login_fails_iff {core : κ} {m : Manager} {env : LoginEnv δ} {password : String} :
    (∃ e, (login ops core m env password).2.2 = .error e) ↔
      ¬LoginSucceeds ops core m env password := by
  unfold login LoginSucceeds
  cases hlocked : m.isLocked env.now with
  | true => simp
  | false =>
    have haccepted := @judgeLogin_accepted (ops.login core env.draw password).2 env.random
    simp only [Bool.false_eq_true, if_false, true_and, ← haccepted]
    cases judgeLogin (ops.login core env.draw password).2 env.random <;> simp

theorem login_password {password : κ → String} (h : StoresPassword ops password) (core : κ)
    (m : Manager) (env : LoginEnv δ) (guess : String) :
    password (login ops core m env guess).1 = password core := by
  unfold login
  split_ifs
  · rfl
  · dsimp only
    split
    · exact h.login core env.draw guess
    · exact h.login core env.draw guess
    · exact h.login core env.draw guess

/-- An error of the change leaves all as it was: the password at Core and the browser sessions. -/
def AllOrNothing (password : κ → String) (core : κ) (m : Manager)
    (result : κ × Manager × Except AuthError (String × Session)) : Prop :=
  (∃ e, result.2.2 = .error e) →
    password result.1 = password core ∧ result.2.1.sessions = m.sessions

/-- A change of the password is all or nothing exactly when Core, where it is asked, answers with an
error and has kept the password, or has changed it and the login after it succeeds. -/
theorem change_all_or_nothing_iff (ops : CoreOps κ δ) (password : κ → String)
    (hstores : StoresPassword ops password) (core : κ) (m : Manager) (change : δ)
    (env : LoginEnv δ) (session : Session) (currentPassword newPassword : String) :
    AllOrNothing password core m
        (changeAdminPassword ops core m change env session currentPassword newPassword) ↔
      (currentPassword ≠ newPassword → requireAdmin session = .ok () →
        match (ops.changePassword core change session.coreSessionToken currentPassword
          newPassword) with
        | (changed, .error _) => password changed = password core
        | (changed, .ok ()) => LoginSucceeds ops changed m.wipe env newPassword) := by
  unfold AllOrNothing changeAdminPassword
  by_cases hsame : currentPassword = newPassword
  · simp [hsame]
  · rw [if_neg hsame]
    cases hadmin : requireAdmin session with
    | error e => simp
    | ok u =>
      have hchange := hstores.change core change session.coreSessionToken currentPassword newPassword
      cases hcalled : ops.changePassword core change session.coreSessionToken currentPassword
          newPassword with
      | mk changed answer =>
        rw [hcalled] at hchange
        cases answer with
        | error e => simp [hsame]
        | ok u =>
          obtain ⟨hold, hnew⟩ := hchange rfl
          dsimp only at hnew
          simp only [ne_eq, hsame, not_false_eq_true, forall_const]
          constructor
          · intro h
            by_contra hfails
            -- the password has been changed by then
            have kept := (h (login_fails_iff.mpr hfails)).1
            rw [login_password hstores, hnew, hold] at kept
            exact hsame kept.symm
          · intro hsucceeds hfails
            exact absurd hsucceeds (login_fails_iff.mp hfails)

/-- A Core that keeps one password, and lets every session change it. -/
def plainCore : CoreOps String Unit where
  login := fun core _ password => (core,
    if password = core then .ok ⟨"token", "admin", "admin", core == defaultPassword⟩
    else .error ⟨credentialsInvalid, "", "", true, none⟩)
  me := fun core _ _ => (core, .ok ⟨"admin", "admin", core == defaultPassword⟩)
  changePassword := fun core _ _ currentPassword newPassword =>
    if currentPassword = core then (newPassword, .ok ())
    else (core, .error ⟨credentialsInvalid, "", "", true, none⟩)

theorem plainCore_stores : StoresPassword plainCore id := by
  constructor
  · intro core draw sessionToken currentPassword newPassword h
    unfold plainCore at h ⊢
    dsimp only at h ⊢
    split_ifs at h ⊢ with hcurrent
    exact ⟨hcurrent.symm, rfl⟩
  · intro core draw guess
    rfl

/-- The session of an administrator who is to change the password. -/
def firstSession : Session := ⟨"admin", "admin", true, false, "token"⟩

theorem change_all_or_nothing_first : AllOrNothing id defaultPassword .new
    (changeAdminPassword plainCore defaultPassword .new () ⟨0, 0, (), some "browser"⟩ firstSession
      defaultPassword "secure-admin-password") := by
  rw [change_all_or_nothing_iff plainCore id plainCore_stores]
  intro _ _
  show LoginSucceeds plainCore "secure-admin-password" _ _ _
  exact ⟨rfl, rfl, _, rfl, rfl⟩

/-- Five wrong passwords have locked the manager, when a session that is open changes the password:
Core makes the change, the sessions are dropped, and the caller is told of the lock. -/
theorem change_fails_when_locked : ¬∀ (κ δ : Type) (ops : CoreOps κ δ) (password : κ → String),
    StoresPassword ops password → ∀ (core : κ) (m : Manager) (change : δ) (env : LoginEnv δ)
    (session : Session) (currentPassword newPassword : String),
    AllOrNothing password core m
      (changeAdminPassword ops core m change env session currentPassword newPassword) := by
  intro h
  have kept := (h String Unit plainCore id plainCore_stores defaultPassword
    { Manager.new with lockedUntil := 30000 } () ⟨0, 0, (), some "browser"⟩ firstSession
    defaultPassword "secure-admin-password" ⟨.temporarilyLocked, rfl⟩).1
  revert kept
  decide

end AdbControl.Server.Auth
