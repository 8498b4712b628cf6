import AdbControl.Framework.Threads
import AdbControl.Server.PasswordChange
import AdbControl.Server.AuthThreads

namespace AdbControl.Server.Auth

open Framework

variable {κ δ : Type}

/-- Core once the factory password is changed: it stays changed, the factory password is rejected,
and the administrator is not to change the password. -/
structure FactoryGone (ops : CoreOps κ δ) (Changed : κ → Prop) : Prop where
  change : ∀ core draw token currentPassword newPassword,
    (ops.changePassword core draw token currentPassword newPassword).2 = .ok () →
    Changed (ops.changePassword core draw token currentPassword newPassword).1
  change_keeps : ∀ core draw token currentPassword newPassword, Changed core →
    Changed (ops.changePassword core draw token currentPassword newPassword).1
  login_keeps : ∀ core draw password, Changed core → Changed (ops.login core draw password).1
  me_keeps : ∀ core draw token, Changed core → Changed (ops.me core draw token).1
  rejects : ∀ core draw answer, Changed core →
    (ops.login core draw defaultPassword).2 ≠ .ok answer
  reports : ∀ core draw token account, Changed core → (ops.me core draw token).2 = .ok account →
    account.username = defaultAdminUsername → account.passwordChangeRequired = false

/-- How many steps a call of `LocalBootstrapSession` still takes at most, where it is to answer that
there is no session. -/
def AuthPc.refusesIn : AuthPc → Option Nat
  | .reading => some 4
  | .refreshing _ => some 3
  | .clearing => some 2
  | .trying => some 1
  | .answered none => some 0
  | _ => none

namespace AuthState

variable {ops : CoreOps κ δ} {Changed : κ → Prop} {s : AuthState κ}

/-- The step is one of call `j`. -/
def isStepOf (j : Nat) : AuthAct δ → Bool
  | .go k _ => k = j
  | _ => false

/-- Core's password stays changed, whatever call goes on. -/
theorem advance_changed (hgone : FactoryGone ops Changed) (h : Changed s.core) (draw : AuthDraw δ)
    (pc : AuthPc) : Changed (s.advance ops draw pc).1 := by
  cases pc with
  | asking password => exact hgone.login_keeps _ _ _ h
  | refreshing token => exact hgone.me_keeps _ _ _ h
  | trying => exact hgone.login_keeps _ _ _ h
  | changing session currentPassword newPassword => exact hgone.change_keeps _ _ _ _ _ h
  | _ => exact h

theorem step_changed (hgone : FactoryGone ops Changed) (h : Changed s.core) (act : AuthAct δ) :
    Changed (step ops s act).core := by
  have hstep := step_steps ops s act
  generalize step ops s act = s' at hstep ⊢
  cases hstep with
  | elapses duration => exact h
  | begins pc hact => exact h
  | rests k draw hpc => exact h
  | goes k draw hpc => exact advance_changed hgone h draw _

theorem run_changed (hgone : FactoryGone ops Changed) (h : Changed s.core)
    (acts : List (AuthAct δ)) : Changed (run (step ops) s acts).core :=
  run_invariant_of_step (fun s : AuthState κ => Changed s.core)
    (fun _ act h => step_changed hgone h act) acts h

/-- Core's answer on the account of a cached session opens no local session. -/
theorem refreshCoreSession_gone (hgone : FactoryGone ops Changed) {core : κ} (h : Changed core)
    {draw : δ} {token : String} {session : Session}
    (hsession : refreshCoreSession token (ops.me core draw token).2 = some session) :
    session.passwordChangeRequired = false := by
  unfold refreshCoreSession at hsession
  cases hme : (ops.me core draw token).2 with
  | error e =>
    rw [hme] at hsession
    cases hsession
  | ok account =>
    rw [hme] at hsession
    dsimp only at hsession
    split_ifs at hsession with hother
    have hadmin : account.username = defaultAdminUsername := by
      by_contra hne
      exact hother (Or.inl hne)
    cases hsession
    exact hgone.reports core draw token account h hme hadmin

/-- Nor does its answer to the factory password. -/
theorem bootstrapSession_gone (hgone : FactoryGone ops Changed) {core : κ} (h : Changed core)
    (draw : δ) : bootstrapSession (ops.login core draw defaultPassword).2 = none := by
  unfold bootstrapSession
  cases hlogin : (ops.login core draw defaultPassword).2 with
  | error e => rfl
  | ok answer => exact (hgone.rejects core draw answer h hlogin).elim

/-- Each step of a call that is to refuse brings it nearer, whatever the cache holds. -/
theorem advance_refuses (hgone : FactoryGone ops Changed) (h : Changed s.core) (draw : AuthDraw δ)
    {pc : AuthPc} {n : Nat} (hpc : pc.refusesIn = some n) :
    ∃ m, (s.advance ops draw pc).2.2.refusesIn = some m ∧ m ≤ n - 1 := by
  cases pc with
  | reading =>
    cases hpc
    show ∃ m, (bootstrapFrom s.manager.localBootstrap).refusesIn = some m ∧ m ≤ 3
    unfold bootstrapFrom
    split
    · exact ⟨1, rfl, by omega⟩
    · split_ifs
      · exact ⟨1, rfl, by omega⟩
      · exact ⟨3, rfl, le_refl 3⟩
  | refreshing token =>
    cases hpc
    have hrefresh := @refreshCoreSession_gone _ _ _ _ hgone _ h draw.core token
    refine ⟨2, ?_, le_refl 2⟩
    simp only [advance]
    cases hsession : refreshCoreSession token (ops.me s.core draw.core token).2 with
    | none => rfl
    | some session =>
      rw [hsession] at hrefresh
      simp [hrefresh rfl, AuthPc.refusesIn]
  | clearing =>
    cases hpc
    exact ⟨1, rfl, le_refl 1⟩
  | trying =>
    cases hpc
    refine ⟨0, ?_, le_refl 0⟩
    simp only [advance]
    rw [bootstrapSession_gone hgone h]
    rfl
  | answered result =>
    cases result with
    | none =>
      cases hpc
      exact ⟨0, rfl, le_refl 0⟩
    | some session => cases hpc
  | checking password => cases hpc
  | asking password => cases hpc
  | counting e => cases hpc
  | admitting token session => cases hpc
  | loggedIn result => cases hpc
  | refreshed session => cases hpc
  | installing session => cases hpc
  | changing session currentPassword newPassword => cases hpc
  | wiping newPassword => cases hpc

/-- Call `j` is to refuse, after `n` more of its steps at the latest. -/
def Refuses (s : AuthState κ) (j n : Nat) : Prop :=
  ∃ pc m, s.calls[j]? = some pc ∧ pc.refusesIn = some m ∧ m ≤ n

/-- A step keeps a call that is to refuse so; a step of its own brings it nearer. -/
theorem step_refuses (hgone : FactoryGone ops Changed) (h : Changed s.core) {j n : Nat}
    (hrefuses : s.Refuses j n) (act : AuthAct δ) :
    (step ops s act).Refuses j (if isStepOf j act then n - 1 else n) := by
  obtain ⟨pc, m, hpc, hm, hle⟩ := hrefuses
  have hstep := step_steps ops s act
  generalize step ops s act = s' at hstep ⊢
  cases hstep with
  | elapses duration => exact ⟨pc, m, hpc, hm, hle⟩
  | begins next hact =>
    have own : isStepOf j act = false := by
      rcases hact with ⟨rfl, -⟩ | ⟨password, rfl, -⟩ | ⟨session, current, new, rfl, -⟩
      · rfl
      · rfl
      · rfl
    rw [own]
    obtain ⟨hj, -⟩ := List.getElem?_eq_some_iff.mp hpc
    refine ⟨pc, m, ?_, hm, hle⟩
    show (s.calls ++ [next])[j]? = some pc
    rw [List.getElem?_append_left hj]
    exact hpc
  | rests k draw hnone =>
    have own : isStepOf j (.go k draw) = false := by
      refine decide_eq_false fun hk => ?_
      rw [hk, hpc] at hnone
      cases hnone
    rw [own]
    exact ⟨pc, m, hpc, hm, hle⟩
  | goes k draw hk =>
    by_cases hkj : k = j
    · subst hkj
      rw [hpc] at hk
      cases hk
      obtain ⟨m', hm', hle'⟩ := advance_refuses hgone h draw hm
      refine ⟨_, m', getElem?_mover hpc _, hm', ?_⟩
      rw [show isStepOf k (.go k draw) = true from decide_eq_true rfl, if_pos rfl]
      omega
    · refine ⟨pc, m, ?_, hm, ?_⟩
      · show (s.calls.set k _)[j]? = some pc
        rw [List.getElem?_set_ne hkj]
        exact hpc
      · rw [show isStepOf j (.go k draw) = false from decide_eq_false hkj]
        exact hle

theorem run_refuses (hgone : FactoryGone ops Changed) (h : Changed s.core) {j n : Nat}
    (hrefuses : s.Refuses j n) (acts : List (AuthAct δ)) :
    (run (step ops) s acts).Refuses j (n - acts.countP (isStepOf j)) := by
  induction acts generalizing s n with
  | nil => exact hrefuses
  | cons act acts ih =>
    have later := ih (step_changed hgone h act) (step_refuses hgone h hrefuses act)
    rw [run_cons, List.countP_cons]
    cases hown : isStepOf j act with
    | true =>
      rw [hown] at later
      simpa [Nat.sub_sub, Nat.add_comm] using later
    | false =>
      rw [hown] at later
      simpa using later

/-- A call that is to refuse has answered that there is no session, or is still under way. -/
theorem Refuses.answer {j n : Nat} (h : s.Refuses j n) :
    (∀ result, s.calls[j]? = some (.answered result) → result = none) ∧
      (n = 0 → s.calls[j]? = some (.answered none)) := by
  obtain ⟨pc, m, hpc, hm, hle⟩ := h
  constructor
  · intro result hresult
    rw [hpc] at hresult
    cases hresult
    cases result with
    | none => rfl
    | some session => cases hm
  · intro hn
    subst hn
    obtain rfl := Nat.le_zero.mp hle
    rw [hpc]
    cases pc with
    | answered result =>
      cases result with
      | none => rfl
      | some session => cases hm
    | _ => cases hm

/-- A call of `LocalBootstrapSession` that begins after Core has made a change of the password
answers that there is no session, whatever calls were in flight by then or came in between; it does
so by its fourth step. -/
theorem bypass_ends (ops : CoreOps κ δ) (Changed : κ → Prop) (hgone : FactoryGone ops Changed)
    (core : κ) (pre mid post : List (AuthAct δ)) (k : Nat) (draw : AuthDraw δ) (session : Session)
    (currentPassword newPassword : String)
    (hcall : (run (step ops) (start core) pre).calls[k]? =
      some (.changing session currentPassword newPassword))
    (hok : (ops.changePassword (run (step ops) (start core) pre).core draw.core
      session.coreSessionToken currentPassword newPassword).2 = .ok ()) :
    let before := run (step ops) (start core) (pre ++ .go k draw :: mid)
    let after := run (step ops) before (.localBootstrapSession :: post)
    (∀ result, after.calls[before.calls.length]? = some (.answered result) → result = none) ∧
      (4 ≤ post.countP (isStepOf before.calls.length) →
        after.calls[before.calls.length]? = some (.answered none)) := by
  intro before after
  have changed : Changed (step ops (run (step ops) (start core) pre) (.go k draw)).core := by
    rw [step_go hcall]
    exact hgone.change _ _ _ _ _ hok
  have hbefore : Changed before.core := by
    show Changed (run (step ops) (start core) (pre ++ .go k draw :: mid)).core
    rw [run_append, run_cons]
    exact run_changed hgone changed mid
  have begun : (step ops before .localBootstrapSession).Refuses before.calls.length 4 := by
    refine ⟨.reading, 4, ?_, rfl, le_refl 4⟩
    show (before.calls ++ [.reading])[before.calls.length]? = some .reading
    rw [List.getElem?_concat_length]
  have ended := (run_refuses hgone (step_changed hgone hbefore _) begun post).answer
  exact ⟨ended.1, fun hfour => ended.2 (Nat.sub_eq_zero_of_le hfour)⟩

/-- A Core as `plainCore` that does not take the factory password back. -/
def strictCore : CoreOps String Unit := { plainCore with
  changePassword := fun core draw sessionToken currentPassword newPassword =>
    if newPassword = defaultPassword then
      (core, .error ⟨"REMOTE_AUTH_PASSWORD_INVALID", "", "", false, none⟩)
    else plainCore.changePassword core draw sessionToken currentPassword newPassword }

theorem strictCore_gone : FactoryGone strictCore (· ≠ defaultPassword) := by
  refine ⟨?_, ?_, fun _ _ _ h => h, fun _ _ _ h => h, ?_, ?_⟩
  · intro core draw token currentPassword newPassword hok
    simp only [strictCore, plainCore] at hok ⊢
    split_ifs at hok ⊢ with hnew hcurrent
    exact hnew
  · intro core draw token currentPassword newPassword h
    simp only [strictCore, plainCore]
    split_ifs with hnew hcurrent
    · exact h
    · exact hnew
    · exact h
  · intro core draw answer h hlogin
    simp [strictCore, plainCore, Ne.symm h] at hlogin
  · intro core draw token account h hme _
    simp only [strictCore, plainCore, Except.ok.injEq] at hme
    rw [← hme]
    simpa using h

/-- The session that a call was about to keep when the password was changed is in the cache, and
the next call refuses all the same. -/
theorem bypass_ends_stale :
    let s := run (step strictCore) (start defaultPassword)
      [.localBootstrapSession, .go 0 ⟨(), none⟩, .go 0 ⟨(), none⟩,
        .changeAdminPassword firstSession defaultPassword "secure-admin-password",
        .go 1 ⟨(), none⟩, .go 0 ⟨(), none⟩]
    s.manager.localBootstrap = some { firstSession with localBypass := true } ∧
      (run (step strictCore) s
        (.localBootstrapSession :: List.replicate 4 (.go 2 ⟨(), none⟩))).calls[2]? =
          some (.answered none) := by
  intro s
  have refused := (bypass_ends strictCore _ strictCore_gone defaultPassword
    [.localBootstrapSession, .go 0 ⟨(), none⟩, .go 0 ⟨(), none⟩,
      .changeAdminPassword firstSession defaultPassword "secure-admin-password"]
    [.go 0 ⟨(), none⟩] (List.replicate 4 (.go 2 ⟨(), none⟩)) 1 ⟨(), none⟩ firstSession
    defaultPassword "secure-admin-password" rfl rfl).2
  exact ⟨rfl, refused (by decide)⟩

end AuthState

end AdbControl.Server.Auth
