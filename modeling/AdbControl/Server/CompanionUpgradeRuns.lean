import AdbControl.Server.CompanionUpgrade

namespace AdbControl.Server.CompanionUpgrade

open Framework
open Framework.Program (Holds holds_bind)
open AdbControl.Server.DeviceAction (CommandOutput DeviceEnv Failure companionPackageName packageListContains)

abbrev Steps := List (Command × Reply)

variable {env : DeviceEnv} {requirement : CompanionRequirement} {d : String} {t u : Steps}
  {P : Steps → Command → Prop}

section Reading

def Succeeded (r : Reply) : Prop := ∃ output : CommandOutput, r = .ok output ∧ output.exitCode = 0

def Clean (args : List String) : Prop := args.any (fun arg => '\x00' ∈ arg.toList) = false

theorem exec_holds {Q : Steps → CommandOutput × Option Failure → Prop} {args : List String}
    (hP : Clean args → P t (.adb args)) (hrefused : ¬Clean args → ∀ e, Q t (noOutput, some e))
    (hfailed : ∀ r, ¬Succeeded r → ∀ output e, Q (t ++ [(.adb args, r)]) (output, some e))
    (hok : Clean args → ∀ output : CommandOutput, output.exitCode = 0 →
      Q (t ++ [(.adb args, .ok output)]) (output, none)) : Holds P Q t (exec env args) := by
  rw [exec]
  split_ifs with hnul
  · exact hrefused (ne_of_eq_of_ne hnul Bool.true_eq_false.mp) _
  · have hclean : Clean args := Bool.eq_false_iff.mpr hnul
    refine holds_bind.mpr ⟨hP hclean, ?_⟩
    intro r
    cases r with
    | error e =>
      refine hfailed _ ?_ _ _
      rintro ⟨output, houtput, -⟩
      cases houtput
    | ok output =>
      by_cases hexit : output.exitCode = 0
      · show Q _ (output, if output.exitCode ≠ 0 then _ else none)
        rw [if_neg (not_not.mpr hexit)]
        exact hok hclean output hexit
      · show Q _ (output, if output.exitCode ≠ 0 then _ else none)
        rw [if_pos hexit]
        refine hfailed _ ?_ _ _
        rintro ⟨other, houtput, hzero⟩
        cases houtput
        exact hexit hzero

theorem stat_holds {Q : Steps → Bool → Prop} {path : String} (hP : P t (.stat path))
    (hrefused : Q t false) (hmissing : ∀ r, Q (t ++ [(.stat path, r)]) false)
    (hfound : '\x00' ∉ path.toList → ∀ output, Q (t ++ [(.stat path, .ok output)]) true) :
    Holds P Q t (stat path) := by
  rw [stat]
  split_ifs with hnul
  · exact hrefused
  · refine holds_bind.mpr ⟨hP, ?_⟩
    intro r
    cases r with
    | error e => exact hmissing _
    | ok output => exact hfound hnul output

/-- What a reading of the package does, and what it gives -/
inductive Reads (d : String) : Steps → Except Failure CompanionPackageInfo → Prop
  | refused (e : Failure) : Reads d [] (.error e)
  | unlisted (r : Reply) (e : Failure) : Reads d [(.adb (listArgs d), r)] (.error e)
  | missing (listed : CommandOutput) (exit : listed.exitCode = 0)
    (without : packageListContains listed.stdout companionPackageName = false) :
    Reads d [(.adb (listArgs d), .ok listed)] (.ok .missing)
  | unread (listed : CommandOutput) (r : Reply) (e : Failure) :
    Reads d [(.adb (listArgs d), .ok listed), (.adb (dumpArgs d), r)] (.error e)
  | found (listed output : CommandOutput) (exits : listed.exitCode = 0 ∧ output.exitCode = 0)
    (within : packageListContains listed.stdout companionPackageName = true) :
    Reads d [(.adb (listArgs d), .ok listed), (.adb (dumpArgs d), .ok output)]
      (.ok (parseCompanionPackageInfo output.stdout))

theorem probe_holds {Q : Steps → Except Failure CompanionPackageInfo → Prop}
    (hlist : P t (.adb (listArgs d)))
    (hdump : ∀ r, P (t ++ [(.adb (listArgs d), r)]) (.adb (dumpArgs d)))
    (hQ : ∀ u info, Reads d u info → Q (t ++ u) info) : Holds P Q t (probeCompanionPackage env d) := by
  refine holds_bind.mpr (exec_holds (fun _ => hlist) ?_ ?_ ?_)
  · intro _ e
    have hnone := hQ [] _ (.refused e)
    rwa [List.append_nil] at hnone
  · intro r _ output e
    exact hQ _ _ (.unlisted r e)
  · intro _ listed hexit
    cases hlisted : packageListContains listed.stdout companionPackageName with
    | false =>
      simp only [hlisted]
      exact hQ _ _ (.missing listed hexit hlisted)
    | true =>
      simp only [hlisted]
      refine holds_bind.mpr (exec_holds (fun _ => hdump _) ?_ ?_ ?_)
      · intro _ e
        exact hQ _ _ (.unlisted _ e)
      · intro r _ output e
        have hunread := hQ _ _ (.unread listed r e)
        rwa [List.append_cons] at hunread
      · intro _ output hexit'
        have hfound := hQ _ _ (.found listed output ⟨hexit, hexit'⟩ hlisted)
        rwa [List.append_cons] at hfound

end Reading

section Calls

/-- No uninstall has succeeded. -/
def Intact (d : String) (t : Steps) : Prop := ∀ r, (.adb (uninstallArgs d), r) ∈ t → ¬Succeeded r

/-- The last step is not an uninstall that succeeded. -/
def Settled (d : String) (t : Steps) : Prop :=
  ∀ past r, t = past ++ [(.adb (uninstallArgs d), r)] → ¬Succeeded r

def Call.deviceID : Call → String
  | check deviceID | ensure deviceID | forceInstall deviceID | reinstall deviceID => deviceID

/-- A command that a call may give after what it has done: it uninstalls only to reinstall, with the new
package at hand and the old one just read as installed, and installs next what it has uninstalled. -/
structure Careful (requirement : CompanionRequirement) (i : Call) (t : Steps) (c : Command) : Prop where
  uninstalls : ∀ d, c = .adb (uninstallArgs d) → i = .reinstall d ∧
    (∃ output, (.stat requirement.apkPath, .ok output) ∈ t) ∧
    ∃ u info, Reads d u (.ok info) ∧ info.installed = true ∧ u <:+ t
  replaces : Settled i.deviceID t ∨ c = .adb (installArgs requirement i.deviceID)

def lostCodes : List String := ["COMPANION_REINSTALL_FAILED", "COMPANION_REINSTALL_DEVICE_OFFLINE"]

/-- A version was read from the device right after an install that succeeded. -/
def Verified (requirement : CompanionRequirement) (d : String) (t : Steps)
    (result : CompanionUpgradeResult) : Prop :=
  ∃ past args r u info, t = past ++ (.adb args, r) :: u ∧
    (args = coverArgs requirement d ∨ args = installArgs requirement d) ∧ Succeeded r ∧
    Reads d u (.ok info) ∧ info.installed = true ∧ requirement.versionCode ≤ info.versionCode ∧
    result.installedVersionCode = info.versionCode

/-- What a call may answer after all that it has done -/
structure Reported (requirement : CompanionRequirement) (i : Call) (t : Steps) (answer : Answer) :
    Prop where
  settled : Settled i.deviceID t
  told : Intact i.deviceID t ∨
    (∃ r, (.adb (installArgs requirement i.deviceID), r) ∈ t ∧ Succeeded r) ∨
    ∃ e, answer = .error (.app e "") ∧ e.errorCode ∈ lostCodes
  verified : ∀ result, answer = .ok result → result.updated = true →
    Verified requirement i.deviceID t result

theorem intact_nil : Intact d [] := fun _ h => absurd h List.not_mem_nil

theorem intact_append (ht : Intact d t) (hu : Intact d u) : Intact d (t ++ u) := by
  intro r hr
  rcases List.mem_append.mp hr with hr | hr
  · exact ht r hr
  · exact hu r hr

theorem intact_one {c : Command} (hc : c ≠ .adb (uninstallArgs d)) (r : Reply) : Intact d [(c, r)] := by
  intro r' hr
  cases List.mem_singleton.mp hr
  exact absurd rfl hc

theorem Intact.settled (ht : Intact d t) : Settled d t := by
  rintro past r rfl
  exact ht r (List.mem_append_right _ List.mem_cons_self)

theorem settled_append (ht : Settled d t) (hu : Intact d u) : Settled d (t ++ u) := by
  intro past r h
  rcases List.eq_nil_or_concat u with rfl | ⟨front, last, rfl⟩
  · exact ht past r (by rwa [List.append_nil] at h)
  · rw [List.concat_eq_append, ← List.append_assoc] at h
    obtain ⟨-, rfl⟩ := List.append_inj' h rfl |>.imp_right List.singleton_inj.mp
    exact hu r (by simp)

theorem listArgs_ne (d d' : String) : Command.adb (listArgs d') ≠ .adb (uninstallArgs d) := by
  simp [listArgs, uninstallArgs, DeviceAction.deviceArgs]

theorem dumpArgs_ne (d d' : String) : Command.adb (dumpArgs d') ≠ .adb (uninstallArgs d) := by
  simp [dumpArgs, uninstallArgs, DeviceAction.deviceArgs]

theorem coverArgs_ne (d d' : String) : Command.adb (coverArgs requirement d') ≠ .adb (uninstallArgs d) := by
  simp [coverArgs, uninstallArgs, DeviceAction.deviceArgs]

theorem installArgs_ne (d d' : String) :
    Command.adb (installArgs requirement d') ≠ .adb (uninstallArgs d) := by
  simp [installArgs, uninstallArgs, DeviceAction.deviceArgs]

theorem Reads.intact {d' : String} {answer : Except Failure CompanionPackageInfo} (h : Reads d' u answer) :
    Intact d u := by
  cases h with
  | refused e => exact intact_nil
  | unlisted r e => exact intact_one (listArgs_ne d d') r
  | missing listed _ _ => exact intact_one (listArgs_ne d d') _
  | unread listed r e =>
    exact intact_append (intact_one (listArgs_ne d d') _) (intact_one (dumpArgs_ne d d') _)
  | found listed output _ _ =>
    exact intact_append (intact_one (listArgs_ne d d') _) (intact_one (dumpArgs_ne d d') _)

variable {i : Call} {c : Command}

theorem careful_of_settled (hc : ∀ d, c ≠ .adb (uninstallArgs d)) (ht : Settled i.deviceID t) :
    Careful requirement i t c where
  uninstalls d h := absurd h (hc d)
  replaces := .inl ht

theorem reported_error (ht : Intact i.deviceID t) (e : Failure) : Reported requirement i t (.error e) where
  settled := ht.settled
  told := .inl ht
  verified _ h := by cases h

/-- A reading of the package under a call -/
theorem probe_careful {Q : Steps → Except Failure CompanionPackageInfo → Prop}
    (ht : Settled i.deviceID t) (hQ : ∀ u info, Reads d u info → Q (t ++ u) info) :
    Holds (Careful requirement i) Q t (probeCompanionPackage env d) := by
  refine probe_holds (careful_of_settled (listArgs_ne · d) ht) ?_ hQ
  intro r
  exact careful_of_settled (dumpArgs_ne · d) (settled_append ht (intact_one (listArgs_ne _ d) r))

theorem settled_snoc (hc : c ≠ .adb (uninstallArgs d)) (r : Reply) : Settled d (t ++ [(c, r)]) := by
  intro past r' h
  obtain ⟨-, hlast⟩ := List.append_inj' h rfl
  cases hlast
  exact absurd rfl hc

theorem clean_installArgs (hd : Clean (uninstallArgs d)) (hpath : '\x00' ∉ requirement.apkPath.toList) :
    Clean (installArgs requirement d) := by
  have hparts : Clean [d] ∧ Clean ["-s", "install", requirement.apkPath] := by
    constructor
    · simp only [Clean, uninstallArgs, DeviceAction.deviceArgs, List.any_cons, Bool.or_eq_false_iff] at hd ⊢
      exact ⟨hd.2.1, rfl⟩
    · simp only [Clean, List.any_cons, Bool.or_eq_false_iff]
      exact ⟨by decide, by decide, decide_eq_false hpath, rfl⟩
  simp only [Clean, installArgs, DeviceAction.deviceArgs, List.any_cons, Bool.or_eq_false_iff] at hparts ⊢
  exact ⟨hparts.2.1, hparts.1.1, hparts.2.2.1, hparts.2.2.2.1, rfl⟩

theorem lost_code (output : CommandOutput) : (companionReinstallError env output).errorCode ∈ lostCodes := by
  rw [companionReinstallError]
  split_ifs
  · exact List.mem_cons_of_mem _ List.mem_cons_self
  · exact List.mem_cons_self

/-- What a call answers from the reading behind its install -/
theorem verified_answer {args : List String} {r : Reply} {info : CompanionPackageInfo}
    {result : CompanionUpgradeResult} {state : UpgradeState}
    (hargs : args = coverArgs requirement d ∨ args = installArgs requirement d) (hr : Succeeded r)
    (hreads : Reads d u (.ok info)) (hmet : ¬requirement.unmet info) :
    Verified requirement d (t ++ [(.adb args, r)] ++ u) (result.reached state info) := by
  obtain ⟨hinstalled, hversion⟩ := not_or.mp hmet
  exact ⟨t, args, r, u, info, by simp, hargs, hr, hreads, Bool.not_eq_false _ ▸ hinstalled,
    Int.not_lt.mp hversion, rfl⟩

/-- An install that succeeded, the reading behind it, and the answer from it -/
theorem reported_installed {args : List String} {r : Reply} {answer : Answer}
    (hargs : args = coverArgs requirement i.deviceID ∧ Intact i.deviceID t ∨
      args = installArgs requirement i.deviceID) (hr : Succeeded r)
    {read : Except Failure CompanionPackageInfo} (hreads : Reads i.deviceID u read)
    (hanswer : ∀ result, answer = .ok result →
      Verified requirement i.deviceID (t ++ [(.adb args, r)] ++ u) result) :
    Reported requirement i (t ++ [(.adb args, r)] ++ u) answer where
  settled := by
    refine settled_append (settled_snoc ?_ r) hreads.intact
    rcases hargs with ⟨rfl, -⟩ | rfl
    · exact coverArgs_ne _ _
    · exact installArgs_ne _ _
  told := by
    rcases hargs with ⟨rfl, hintact⟩ | rfl
    · exact .inl (intact_append (intact_append hintact (intact_one (coverArgs_ne _ _) r)) hreads.intact)
    · exact .inr (.inl ⟨r, by simp, hr⟩)
  verified result h _ := hanswer result h

theorem installAgain_holds {result : CompanionUpgradeResult} (ht : Intact d t ∨ Clean (installArgs requirement d)) :
    Holds (Careful requirement (.reinstall d)) (Reported requirement (.reinstall d)) t
      (installAgain env requirement d result) := by
  refine holds_bind.mpr (exec_holds ?_ ?_ ?_ ?_)
  · intro _
    exact ⟨fun d' h => absurd h (installArgs_ne d' d), .inr rfl⟩
  · intro hrefused e
    rcases ht with hintact | hclean
    · exact reported_error (i := .reinstall d) hintact _
    · exact absurd hclean hrefused
  · intro r _ output e
    exact ⟨settled_snoc (installArgs_ne _ _) r, .inr (.inr ⟨_, rfl, lost_code output⟩), fun _ h => by cases h⟩
  · intro _ output hexit
    have hr : Succeeded (.ok output) := ⟨output, rfl, hexit⟩
    refine holds_bind.mpr (probe_careful (settled_snoc (installArgs_ne _ _) _) ?_)
    intro u read hreads
    cases read with
    | error e => exact reported_installed (i := .reinstall d) (.inr rfl) hr hreads fun _ h => by cases h
    | ok info =>
      by_cases hunmet : requirement.unmet info
      · show Reported _ _ _ (if requirement.unmet info then _ else _)
        rw [if_pos hunmet]
        exact reported_installed (i := .reinstall d) (.inr rfl) hr hreads fun _ h => by cases h
      · show Reported _ _ _ (if requirement.unmet info then _ else _)
        rw [if_neg hunmet]
        refine reported_installed (i := .reinstall d) (.inr rfl) hr hreads ?_
        intro result h
        cases h
        exact verified_answer (.inr rfl) hr hreads hunmet

theorem stat_ne (path d : String) : Command.stat path ≠ .adb (uninstallArgs d) := by
  rintro ⟨⟩

/-- A stat under a call that has changed nothing yet -/
theorem stat_careful {Q : Steps → Bool → Prop} {path : String} (ht : Intact i.deviceID t)
    (hmissing : ∀ t, Intact i.deviceID t → Q t false)
    (hfound : '\x00' ∉ path.toList → ∀ output, Q (t ++ [(.stat path, .ok output)]) true) :
    Holds (Careful requirement i) Q t (stat path) := by
  refine stat_holds (careful_of_settled (stat_ne path) ht.settled) (hmissing _ ht) ?_ hfound
  intro r
  exact hmissing _ (intact_append ht (intact_one (stat_ne path _) r))

theorem uninstallArgs_inj {d' : String} (h : uninstallArgs d = uninstallArgs d') : d = d' := by
  cases h
  rfl

theorem reinstallCompanion_holds :
    Holds (Careful requirement (.reinstall d)) (Reported requirement (.reinstall d)) []
      (reinstallCompanion env requirement d) := by
  refine holds_bind.mpr (stat_careful intact_nil ?_ ?_)
  · intro t ht
    exact reported_error (i := .reinstall d) ht _
  · intro hpath output
    have hstat : Intact d ([] ++ [(.stat requirement.apkPath, .ok output)]) := intact_one (stat_ne _ d) _
    refine holds_bind.mpr (probe_careful hstat.settled ?_)
    intro u read hreads
    have hread : Intact d ([] ++ [(.stat requirement.apkPath, .ok output)] ++ u) :=
      intact_append hstat hreads.intact
    cases read with
    | error e => exact reported_error (i := .reinstall d) hread e
    | ok current =>
      cases hinstalled : current.installed with
      | false =>
        simp only [hinstalled]
        exact installAgain_holds (.inl hread)
      | true =>
        simp only [hinstalled]
        refine holds_bind.mpr (exec_holds ?_ ?_ ?_ ?_)
        · intro _
          refine ⟨?_, .inl hread.settled⟩
          intro d' h
          obtain rfl : d = d' := uninstallArgs_inj (Command.adb.inj h)
          exact ⟨rfl, ⟨output, by simp⟩, u, current, hreads, hinstalled, List.suffix_append _ _⟩
        · intro _ e
          exact reported_error (i := .reinstall d) hread _
        · intro r hfailed _ e
          refine reported_error (i := .reinstall d) (intact_append hread ?_) _
          intro r' hr'
          cases List.mem_singleton.mp hr'
          exact hfailed
        · intro hclean _ _
          exact installAgain_holds (.inr (clean_installArgs hclean hpath))

theorem installCompanion_holds :
    Holds (Careful requirement (.forceInstall d)) (Reported requirement (.forceInstall d)) []
      (installCompanion env requirement d) := by
  refine holds_bind.mpr (probe_careful intact_nil.settled ?_)
  intro u read hreads
  cases read with
  | error e => exact reported_error (i := .forceInstall d) hreads.intact e
  | ok current =>
    refine holds_bind.mpr (stat_careful hreads.intact ?_ ?_)
    · intro t ht
      exact reported_error (i := .forceInstall d) ht _
    · intro hpath output
      have hstat : Intact d ([] ++ u ++ [(.stat requirement.apkPath, .ok output)]) :=
        intact_append hreads.intact (intact_one (stat_ne _ d) _)
      refine holds_bind.mpr (exec_holds ?_ ?_ ?_ ?_)
      · intro _
        exact careful_of_settled (coverArgs_ne · d) hstat.settled
      · intro _ e
        exact reported_error (i := .forceInstall d) hstat _
      · intro r _ output e
        exact reported_error (i := .forceInstall d) (intact_append hstat (intact_one (coverArgs_ne _ d) r)) _
      · intro _ output hexit
        have hr : Succeeded (.ok output) := ⟨output, rfl, hexit⟩
        refine holds_bind.mpr (probe_careful (settled_snoc (coverArgs_ne _ d) _) ?_)
        intro u read hreads
        cases read with
        | error e =>
          exact reported_installed (i := .forceInstall d) (.inl ⟨rfl, hstat⟩) hr hreads fun _ h => by cases h
        | ok info =>
          by_cases hunmet : requirement.unmet info
          · show Reported _ _ _ (if requirement.unmet info then _ else _)
            rw [if_pos hunmet]
            exact reported_installed (i := .forceInstall d) (.inl ⟨rfl, hstat⟩) hr hreads
              fun _ h => by cases h
          · show Reported _ _ _ (if requirement.unmet info then _ else _)
            rw [if_neg hunmet]
            refine reported_installed (i := .forceInstall d) (.inl ⟨rfl, hstat⟩) hr hreads ?_
            intro result h
            cases h
            exact verified_answer (.inl rfl) hr hreads hunmet

theorem checkConfiguredCompanion_holds :
    Holds (Careful requirement i) (fun t answer => Intact i.deviceID t ∧
      ∀ result, answer = .ok result → result.updated = false) []
      (checkConfiguredCompanion env requirement d) := by
  rw [checkConfiguredCompanion]
  split_ifs
  · refine holds_bind.mpr (probe_careful intact_nil.settled ?_)
    intro u read hreads
    cases read with
    | error e => exact ⟨hreads.intact, fun _ h => by cases h⟩
    | ok current =>
      refine ⟨hreads.intact, ?_⟩
      intro result h
      obtain rfl := Except.ok.inj h
      split_ifs <;> rfl
  · refine ⟨intact_nil, ?_⟩
    intro result h
    cases h
    rfl

theorem reported_unchanged {answer : Answer} (ht : Intact i.deviceID t)
    (h : ∀ result, answer = .ok result → result.updated = false) : Reported requirement i t answer where
  settled := ht.settled
  told := .inl ht
  verified result hresult hupdated := by
    rw [h result hresult] at hupdated
    cases hupdated

theorem calls_hold (i : Call) :
    ((calls env requirement).program i).Holds (Careful requirement i) (Reported requirement i) [] := by
  cases i with
  | check d =>
    refine checkConfiguredCompanion_holds.mono ?_
    intro t answer h
    exact reported_unchanged h.1 h.2
  | ensure d =>
    refine holds_bind.mpr (checkConfiguredCompanion_holds.mono ?_)
    intro t answer h
    cases answer with
    | error e => exact reported_error h.1 e
    | ok result =>
      refine reported_unchanged h.1 ?_
      intro result' hresult
      have hsame : result' = result := by
        cases hstate : result.state <;> simp [hstate] at hresult <;> exact hresult.symm
      rw [hsame]
      exact h.2 result rfl
  | forceInstall d =>
    simp only [calls]
    split_ifs
    · exact installCompanion_holds
    · exact reported_error intact_nil _
  | reinstall d =>
    simp only [calls]
    split_ifs
    · exact reinstallCompanion_holds
    · exact reported_error intact_nil _

theorem deviceID_of_key (h : (calls env requirement).key i = some d) : i.deviceID = d := by
  cases i with
  | check => cases h
  | ensure => cases h
  | forceInstall deviceID =>
    simp only [calls] at h
    split_ifs at h
    exact Option.some.inj h
  | reinstall deviceID =>
    simp only [calls] at h
    split_ifs at h
    exact Option.some.inj h

end Calls

section Runs

open Calls (Event InTurn Under)

variable (env requirement) (d : String) (threads : Nat) (acts : List (Calls.Act Call Reply))

/-- What is done under the lock of a device, over a run of the service -/
def deviceHistory : List (Event Call Command Reply Answer) :=
  Calls.on (calls env requirement) d
    (eventsOf (calls env requirement).step (calls env requirement).events (Calls.start threads) acts)

variable {env requirement d threads acts}

/-- What a call under the lock of `d` does, it does with care, and its answer rests on what it did. -/
theorem inTurn_split {pre post : List (Event Call Command Reply Answer)}
    {e : Event Call Command Reply Answer}
    (hsplit : deviceHistory env requirement d threads acts = pre ++ e :: post) :
    e.call.deviceID = d ∧
      match e with
      | .entered _ _ => pre = [] ∨ ∃ past k i answer, pre = past ++ [.left k i answer]
      | .gave k i c _ => ∃ t, Under pre k i t ∧ Careful requirement i t c
      | .left k i answer => ∃ t, Under pre k i t ∧ Reported requirement i t answer := by
  have hmem : e ∈ deviceHistory env requirement d threads acts := by
    rw [hsplit]
    simp
  have hturn : InTurn (calls env requirement) pre e :=
    Calls.serial (calls env requirement) d threads acts pre e post hsplit
  refine ⟨deviceID_of_key (Calls.key_of_mem hmem), ?_⟩
  have hholds := hturn.holds (@calls_hold env requirement)
  cases e with
  | entered k i => exact hturn
  | gave k i c r => exact hholds
  | left k i answer => exact hholds

variable (env requirement d threads acts)

end Runs

end AdbControl.Server.CompanionUpgrade
