import AdbControl.ScrcpyServer
import AdbControl.Server.RemoteDevices

namespace AdbControl

open Framework

/-- `ScrcpyStartParams`, as `handle_adb_scrcpy_start` hands it on: an absent member has its default,
and a null is none. -/
def ScrcpyServerConfig.ofParams (params : Value) : Option ScrcpyServerConfig := do
  let [sessionId, deviceId, apkPath, scid, maxSize, videoBitRate, maxFps] ← params.structFields
    ["sessionId", "deviceId", "apkPath", "scid", "maxSize", "videoBitRate", "maxFps"] | none
  let text (field : Option Value) : Option String := field.elim (some "") Value.asStr
  let number (bits : Nat) (field : Option Value) : Option Nat :=
    field.elim (some 0) (Value.asUnsigned bits)
  some {
    sessionId := ← text sessionId
    deviceId := ← text deviceId
    apkPath := ← text apkPath
    scid := .ofNat (← number 32 scid)
    maxSize := .ofNat (← number 16 maxSize)
    videoBitRate := .ofNat (← number 32 videoBitRate)
    maxFps := .ofNat (← number 8 maxFps) }

namespace Server.DeviceService

/-- The digits of a number, with zeros before them, are its digits at each place. -/
theorem toDigits_leftpad {k n : Nat} (h : n < 16^(k + 1)) :
    (Nat.toDigits 16 n).leftpad (k + 1) '0' =
      (List.range (k + 1)).reverse.map fun i => (n / 16^i % 16).digitChar := by
  induction k generalizing n with
  | zero =>
    have hn : n < 16 := by simpa using h
    rw [Nat.toDigits_of_lt_base hn]
    simp [List.leftpad, Nat.mod_eq_of_lt hn]
  | succ k ih =>
    have hhigh : n / 16 < 16^(k + 1) := by
      rw [pow_succ] at h
      omega
    have places : (List.range (k + 1 + 1)).reverse.map (fun i => (n / 16^i % 16).digitChar) =
        (List.range (k + 1)).reverse.map (fun i => (n / 16 / 16^i % 16).digitChar) ++
          [(n % 16).digitChar] := by
      rw [List.range_succ_eq_map, List.reverse_cons, List.map_append, ← List.map_reverse,
        List.map_map]
      congr 1
      · apply List.map_congr_left
        intro i _
        rw [Function.comp_apply, pow_succ', Nat.div_div_eq_div_mul]
      · simp
    rw [places, ← ih hhigh]
    by_cases hn : n < 16
    · -- there is one digit, and nothing above it
      rw [Nat.toDigits_of_lt_base hn, Nat.div_eq_of_lt hn, Nat.mod_eq_of_lt hn]
      simp [List.leftpad, Nat.toDigits_zero, List.replicate_succ']
    · rw [Nat.toDigits_of_base_le (by omega) (by omega)]
      simp [List.leftpad]

/-- Both sides print the id alike. -/
theorem hex8_eq_scidText (scid : UInt32) : hex8 scid = scidText scid := by
  have hsize : scid.toNat < 16^(7 + 1) := scid.toNat_lt
  rw [hex8, scidText, toDigits_leftpad hsize]

theorem scrcpyID_bounds (random : Vector UInt8 4) :
    0x10000000 ≤ (scrcpyID random).toNat ∧ (scrcpyID random).toNat < 2^31 := by
  have masked (drawn : UInt32) : ((drawn &&& 0x6fffffff) ||| 0x10000000).toNat =
      (drawn.toNat &&& 0x6fffffff) ||| 0x10000000 := by
    rw [UInt32.toNat_or, UInt32.toNat_and]
    rfl
  rw [scrcpyID, masked]
  constructor
  · exact Nat.right_le_or
  · apply Nat.or_lt_two_pow
    · exact lt_of_le_of_lt Nat.and_le_right (by norm_num)
    · norm_num

theorem normalizeScrcpyOptions_bounds (options : ScrcpyOptions) :
    (128 ≤ (normalizeScrcpyOptions options).maxSize ∧
        (normalizeScrcpyOptions options).maxSize ≤ 4096) ∧
      (500000 ≤ (normalizeScrcpyOptions options).bitRate ∧
        (normalizeScrcpyOptions options).bitRate ≤ 32000000) ∧
      1 ≤ (normalizeScrcpyOptions options).frameRate ∧
        (normalizeScrcpyOptions options).frameRate ≤ 60 := by
  simp only [normalizeScrcpyOptions]
  split_ifs <;> omega

theorem isAsciiAlphanumeric_hex8 (scid : UInt32) :
    ∀ c ∈ (hex8 scid).toList, isAsciiAlphanumeric c = true := by
  have digits : ∀ n : Fin 16, isAsciiAlphanumeric n.val.digitChar = true := by decide
  intro c hc
  rw [hex8, String.toList_ofList, List.mem_map] at hc
  obtain ⟨i, -, rfl⟩ := hc
  exact digits ⟨scid.toNat / 16^i % 16, Nat.mod_lt _ (by omega)⟩

theorem length_hex8 (scid : UInt32) : (hex8 scid).toList.length = 8 := by
  simp [hex8]

theorem validSession_web (scid : UInt32) : validSession ("web-" ++ hex8 scid) = true := by
  have ascii : ∀ c ∈ (hex8 scid).toList, c.toNat < 128 := by
    intro c hc
    have hc := isAsciiAlphanumeric_hex8 scid c hc
    simp only [isAsciiAlphanumeric, isAsciiDigit, Bool.or_eq_true, Bool.and_eq_true,
      decide_eq_true_eq] at hc
    omega
  have size : ("web-" ++ hex8 scid).utf8ByteSize = 12 := by
    have digits := utf8ByteSize_ascii ascii
    rw [String.ofList_toList, length_hex8] at digits
    rw [String.utf8ByteSize_append, digits]
    rfl
  have begun : ("web-" ++ hex8 scid).isEmpty = false := by
    rw [String.isEmpty, size]
    rfl
  rw [validSession, begun, size, String.toList_append, List.all_append, Bool.not_false,
    Bool.true_and, decide_eq_true (by omega), Bool.true_and, Bool.and_eq_true]
  refine ⟨by decide, ?_⟩
  rw [List.all_eq_true]
  intro c hc
  rw [isAsciiAlphanumeric_hex8 scid c hc, Bool.true_or]

/-- What Core reads of the parameters. -/
def startConfig (deviceID apkPath : String) (scid : UInt32) (options : ScrcpyOptions) :
    ScrcpyServerConfig where
  sessionId := "web-" ++ hex8 scid
  deviceId := deviceID
  apkPath := apkPath
  scid := scid
  maxSize := .ofNat options.maxSize.toNat
  videoBitRate := .ofNat options.bitRate.toNat
  maxFps := .ofNat options.frameRate.toNat

theorem ofParams_scrcpyStartParams (deviceID apkPath : String) (scid : UInt32)
    (options : ScrcpyOptions) :
    ScrcpyServerConfig.ofParams (.object (scrcpyStartParams deviceID apkPath scid
        (normalizeScrcpyOptions options))) =
      some (startConfig deviceID apkPath scid (normalizeScrcpyOptions options)) := by
  obtain ⟨hsize, hrate, hframes⟩ := normalizeScrcpyOptions_bounds options
  have number (bits : Nat) (n : Int) (hn : 0 ≤ n) (hlt : n.toNat < 2^bits) :
      (Value.number (if n < 0 then .negInt n else .posInt n.toNat)).asUnsigned bits =
        some n.toNat := by
    rw [if_neg (by omega), Value.asUnsigned, if_pos hlt]
  have scidNumber := number 32 scid.toNat (Int.natCast_nonneg _) scid.toNat_lt
  have sizeNumber := number 16 (normalizeScrcpyOptions options).maxSize (by omega) (by omega)
  have rateNumber := number 32 (normalizeScrcpyOptions options).bitRate (by omega) (by omega)
  have framesNumber := number 8 (normalizeScrcpyOptions options).frameRate (by omega) (by omega)
  have fields : (Value.object (scrcpyStartParams deviceID apkPath scid
      (normalizeScrcpyOptions options))).structFields
        ["sessionId", "deviceId", "apkPath", "scid", "maxSize", "videoBitRate", "maxFps"] =
      some ((scrcpyStartParams deviceID apkPath scid
        (normalizeScrcpyOptions options)).map fun param => some param.2) := by
    rfl
  rw [ScrcpyServerConfig.ofParams, fields]
  simp only [scrcpyStartParams, List.map_cons, List.map_nil, Option.elim_some, Option.bind_eq_bind,
    Option.bind_some, Value.asStr, scidNumber, sizeNumber, rateNumber, framesNumber]
  simp [startConfig]

theorem validate_startConfig (options : ScrcpyOptions) (random : Vector UInt8 4)
    {deviceID apkPath : String} (hid : isBlank deviceID = false)
    (hlength : deviceID.utf8ByteSize ≤ 512) (hpath : validApkPath apkPath = true) :
    validateScrcpyConfig (startConfig deviceID apkPath (scrcpyID random)
      (normalizeScrcpyOptions options)) = .ok () := by
  obtain ⟨hsize, hrate, hframes⟩ := normalizeScrcpyOptions_bounds options
  obtain ⟨hlow, hhigh⟩ := scrcpyID_bounds random
  set config := startConfig deviceID apkPath (scrcpyID random) (normalizeScrcpyOptions options)
    with hconfig
  have scid : 0x10000000 ≤ config.scid ∧ config.scid ≤ 0x7fffffff := by
    constructor <;> rw [UInt32.le_iff_toNat_le]
    · exact hlow
    · show (scrcpyID random).toNat ≤ 0x7fffffff
      omega
  have maxSize : 128 ≤ config.maxSize ∧ config.maxSize ≤ 4096 := by
    have value : config.maxSize.toNat = (normalizeScrcpyOptions options).maxSize.toNat :=
      UInt16.toNat_ofNat_of_lt' (show _ < 2^16 by omega)
    constructor <;> rw [UInt16.le_iff_toNat_le, value]
    · show 128 ≤ _
      omega
    · show _ ≤ 4096
      omega
  have videoBitRate : 500000 ≤ config.videoBitRate ∧ config.videoBitRate ≤ 32000000 := by
    have value : config.videoBitRate.toNat = (normalizeScrcpyOptions options).bitRate.toNat :=
      UInt32.toNat_ofNat_of_lt' (show _ < 2^32 by omega)
    constructor <;> rw [UInt32.le_iff_toNat_le, value]
    · show 500000 ≤ _
      omega
    · show _ ≤ 32000000
      omega
  have maxFps : 1 ≤ config.maxFps ∧ config.maxFps ≤ 60 := by
    have value : config.maxFps.toNat = (normalizeScrcpyOptions options).frameRate.toNat :=
      UInt8.toNat_ofNat_of_lt' (show _ < 2^8 by omega)
    constructor <;> rw [UInt8.le_iff_toNat_le, value]
    · show 1 ≤ _
      omega
    · show _ ≤ 60
      omega
  have session : validSession config.sessionId = true := validSession_web (scrcpyID random)
  rw [validateScrcpyConfig, if_neg]
  rw [session, show config.deviceId = deviceID from rfl, show config.apkPath = apkPath from rfl, hid,
    hpath]
  simp [scid, maxSize, videoBitRate, maxFps, hlength]

/-- The request that starts a session, and the socket that is forwarded to it, are of one id. -/
def Effect.OfScrcpy (deviceID : String) (params : List (String × Value)) (digits : String) :
    Effect → Prop
  | .call method sent => method = "adb.scrcpy.start" → sent = params
  | .device (.adb args) => ∀ name, args = DeviceAction.deviceArgs deviceID
      ["forward", "tcp:0", "localabstract:scrcpy_" ++ name] → name = digits
  | _ => True

theorem ofScrcpy_openScrcpy (env : ServiceEnv) (deviceID apkPath : String) (scid : UInt32)
    (options : ScrcpyOptions) :
    Sends (Effect.OfScrcpy deviceID (scrcpyStartParams deviceID apkPath scid options) (hex8 scid))
      (openScrcpy env deviceID apkPath scid options) := by
  set Meets := Effect.OfScrcpy deviceID (scrcpyStartParams deviceID apkPath scid options) (hex8 scid)
  have removes (port : Int) : Sends Meets (exec env
      (DeviceAction.deviceArgs deviceID ["forward", "--remove", "tcp:" ++ toString port])) := by
    apply sends_exec
    intro name hname
    simp [DeviceAction.deviceArgs] at hname
  have calls {method : String} {params : List (String × Value)}
      (h : Meets (.call method params)) : Sends Meets (call env method params) := by
    apply sends_bind (sends_send h)
    intro _
    apply sends_bind sends_get
    intro sent
    exact sends_pure _
  apply sends_bind
  · apply sends_exec
    intro name hname
    have same : hex8 scid = name := by simpa [DeviceAction.deviceArgs] using hname
    exact same.symm
  · intro forward
    cases forward with
    | error e => exact sends_pure _
    | ok forward =>
      dsimp only
      split
      · exact sends_pure _
      · next port _ =>
        apply sends_bind (calls fun _ => rfl)
        intro started
        cases started with
        | error e => exact sends_bind (removes port) (fun _ => sends_pure _)
        | ok answer =>
          apply sends_bind sends_get
          intro sent
          split
          · apply sends_bind
            · apply sends_bind (calls fun hmethod => absurd hmethod (by decide))
              intro _
              exact sends_bind (removes port) (fun _ => sends_pure _)
            · intro _
              exact sends_pure _
          · exact sends_pure _

/-- Whatever options are asked for and whatever bytes are drawn, Core reads the parameters as a
configuration that it accepts, with an id that a signed integer holds, and prints this id to the
scrcpy server as it stands in the name of the forwarded socket. -/
theorem scrcpy_request_accepted (env : ServiceEnv) (options : ScrcpyOptions)
    (random : Vector UInt8 4) (deviceID apkPath : String) (hid : isBlank deviceID = false)
    (hlength : deviceID.utf8ByteSize ≤ 512) (hpath : validApkPath apkPath = true) :
    ∃ config, ScrcpyServerConfig.ofParams (.object (scrcpyStartParams deviceID apkPath
        (scrcpyID random) (normalizeScrcpyOptions options))) = some config ∧
      validateScrcpyConfig config = .ok () ∧ config.scid.toNat < 2^31 ∧
      scidText config.scid = hex8 (scrcpyID random) ∧
      (hex8 (scrcpyID random)).toList.length = 8 ∧
      "scid=" ++ hex8 (scrcpyID random) ∈ remoteArgs config ∧
      Sends (Effect.OfScrcpy deviceID (scrcpyStartParams deviceID apkPath (scrcpyID random)
          (normalizeScrcpyOptions options)) (hex8 (scrcpyID random)))
        (openScrcpy env deviceID apkPath (scrcpyID random) (normalizeScrcpyOptions options)) := by
  have digits := hex8_eq_scidText (scrcpyID random)
  refine ⟨_, ofParams_scrcpyStartParams deviceID apkPath (scrcpyID random) options,
    validate_startConfig options random hid hlength hpath, (scrcpyID_bounds random).2, digits.symm,
    length_hex8 _, ?_, ofScrcpy_openScrcpy _ _ _ _ _⟩
  rw [digits]
  simp [remoteArgs, startConfig]

theorem scrcpy_request_accepted_companion :
    ∃ config, ScrcpyServerConfig.ofParams (.object (scrcpyStartParams "A"
        "/data/app/~~abc==/com.adbcontrol.companion/base.apk" (scrcpyID ⟨#[255, 255, 255, 255], rfl⟩)
        (normalizeScrcpyOptions {}))) = some config ∧ validateScrcpyConfig config = .ok () := by
  obtain ⟨config, hread, hvalid, -⟩ := scrcpy_request_accepted RemoteHandlers.bothOnlineEnv {}
    ⟨#[255, 255, 255, 255], rfl⟩ "A" "/data/app/~~abc==/com.adbcontrol.companion/base.apk"
    (by decide) (by decide) (by decide)
  exact ⟨config, hread, hvalid⟩

end Server.DeviceService

end AdbControl
