import AdbControl.Server.RemoteDevices

namespace AdbControl.Server.DeviceService

open Framework
open AdbControl.Server.DeviceAction (broadcastTexts broadcastWords companionPackageName deviceArgs
  shellQuote)

/-- The words of the command that configures the connection of the companion. -/
def configureWords (endpoint deviceID : String) (info : CompanionConnectionInfo) :
    List (List Char) :=
  ["am".toList, "broadcast".toList, "--receiver-foreground".toList,
    "-a".toList, "com.adbcontrol.companion.CONFIGURE_CONNECTION".toList,
    "-n".toList, companionPackageName.toList ++ "/.quic.CompanionConnectionReceiver".toList,
    "--es".toList, "endpoint".toList, endpoint.toList,
    "--es".toList, "deviceId".toList, deviceID.toList,
    "--es".toList, "serverName".toList, info.serverName.toList,
    "--es".toList, "certificateDerBase64".toList, info.certificateDERBase64.toList]

/-- A line for the shell of the device is read there as one command, of words that are meant. -/
def Effect.Broadcasts (deviceID : String) (meant : List (List Char) → Prop) : Effect → Prop
  | .device (.adb args) => ∀ line, args = deviceArgs deviceID ["shell", line] →
      ∃ words, meant words ∧ Shell.commands line.toList = some [words]
  | _ => True

variable {env : ServiceEnv} {deviceID : String} {meant : List (List Char) → Prop}

theorem commands_configure (endpoint deviceID : String) (info : CompanionConnectionInfo) :
    Shell.commands ([' '].intercalate (configureTexts endpoint deviceID info)) =
      some [configureWords endpoint deviceID info] := by
  apply Shell.commands_intercalate
  · unfold configureTexts configureWords
    repeat' apply List.Forall₂.cons
    on_goal -1 => exact List.Forall₂.nil
    all_goals first
      | exact DeviceAction.renders_shellQuote _
      | exact Shell.renders_plain (by decide)
  · show (!decide ("am".toList ∈ Shell.reserved)) = true
    decide

theorem broadcasts_line {line : List Char} {words : List (List Char)} (hmeant : meant words)
    (h : Shell.commands line = some [words]) :
    (Effect.device (.adb (deviceArgs deviceID ["shell", String.ofList line]))).Broadcasts deviceID
      meant := by
  intro line' hline
  have same : String.ofList line = line' := by simpa [deviceArgs] using hline
  rw [← same, String.toList_ofList]
  exact ⟨words, hmeant, h⟩

/-- The result file is read by a command of other words, and not by a line. -/
theorem broadcasts_look (requestID : List Char) :
    (Effect.device (.adb (deviceArgs deviceID
      ["shell", "cat", String.ofList (DeviceAction.resultPath requestID)]))).Broadcasts deviceID
      meant := by
  intro line hline
  simp [deviceArgs] at hline

theorem broadcasts_executeCompanionCommand (capabilityID operation : String) (args : Value) :
    Sends (Effect.Broadcasts deviceID fun words => ∃ requestID,
        words = broadcastWords requestID capabilityID.toList operation.toList (env.marshal args))
      (executeCompanionCommand env deviceID capabilityID operation args) := by
  apply sends_ite
  · intro _
    exact sends_pure _
  · intro _
    apply sends_bind sends_get
    intro sent
    apply sends_bind
    · exact sends_exec (broadcasts_line ⟨_, rfl⟩ (DeviceAction.commands_broadcast _ _ _ _))
    · intro asked
      cases asked with
      | error e => exact sends_pure _
      | ok output =>
        apply sends_bind
        · apply @sends_within _ _ _ fun e => (Effect.device e).Broadcasts deviceID _
          · intro _
            exact DeviceAction.sends_looks (broadcasts_look _) none 30
          · exact fun e he => he
        · intro payload
          cases payload with
          | error e => exact sends_pure _
          | ok payload =>
            dsimp only
            split
            · exact sends_pure _
            · exact sends_pure _

theorem broadcasts_provisionCompanionQUIC :
    Sends (Effect.Broadcasts deviceID fun words => ∃ endpoint info,
        companionEndpoint env deviceID info = .ok endpoint ∧
          words = configureWords endpoint deviceID info)
      (provisionCompanionQUIC env deviceID) := by
  apply sends_bind
  · apply sends_bind
    · apply sends_bind (sends_send trivial)
      intro _
      apply sends_bind sends_get
      intro sent
      exact sends_pure _
    · intro answer
      cases answer with
      | error e => exact sends_pure _
      | ok answer => exact sends_pure _
  · intro answer
    cases answer with
    | error e => exact sends_pure _
    | ok answer =>
      dsimp only
      split
      · exact sends_pure _
      · next info _ =>
        split
        · exact sends_pure _
        · next endpoint hendpoint =>
          apply sends_bind
          · exact sends_exec
              (broadcasts_line ⟨endpoint, info, hendpoint, rfl⟩ (commands_configure _ _ _))
          · intro configured
            cases configured with
            | error e => exact sends_pure _
            | ok output => exact sends_pure _

/-- Whatever characters are in them, the values of both broadcasts are each one word of the line,
and this word; and no other line is sent to the shell of the device. -/
theorem broadcast_quoting_exact (env : ServiceEnv) (deviceID : String) :
    (∀ requestID capabilityID operation args : List Char,
      Shell.commands ([' '].intercalate (broadcastTexts requestID capabilityID operation args)) =
        some [broadcastWords requestID capabilityID operation args]) ∧
    (∀ (endpoint : String) (info : CompanionConnectionInfo),
      Shell.commands ([' '].intercalate (configureTexts endpoint deviceID info)) =
        some [configureWords endpoint deviceID info]) ∧
    (∀ (capabilityID operation : String) (args : Value),
      Sends (Effect.Broadcasts deviceID fun words => ∃ requestID,
          words = broadcastWords requestID capabilityID.toList operation.toList (env.marshal args))
        (executeCompanionCommand env deviceID capabilityID operation args)) ∧
    Sends (Effect.Broadcasts deviceID fun words => ∃ endpoint info,
        companionEndpoint env deviceID info = .ok endpoint ∧
          words = configureWords endpoint deviceID info)
      (provisionCompanionQUIC env deviceID) :=
  ⟨DeviceAction.commands_broadcast, fun endpoint info => commands_configure endpoint deviceID info,
    broadcasts_executeCompanionCommand, broadcasts_provisionCompanionQUIC⟩

end AdbControl.Server.DeviceService
