import AdbControl.Framework.Outcome
import AdbControl.Framework.Resolve
import AdbControl.Framework.Shell
import AdbControl.Error

namespace AdbControl

open Framework

structure ScrcpyServerConfig where
  sessionId : String
  deviceId : String
  apkPath : String
  scid : UInt32
  maxSize : UInt16
  videoBitRate : UInt32
  maxFps : UInt8
  deriving DecidableEq, Repr

def validSession (sessionId : String) : Bool :=
  !sessionId.isEmpty && decide (sessionId.utf8ByteSize ≤ 64) &&
    sessionId.toList.all (fun c => isAsciiAlphanumeric c || c = '-')

def isApkPathChar (c : Char) : Bool :=
  isAsciiAlphanumeric c || c ∈ ['/', '.', '_', '-', '+', '=', '~']

def validApkPath (apkPath : String) : Bool :=
  startsWith apkPath "/data/app/" && ".apk".toList.isSuffixOf apkPath.toList &&
    apkPath.toList.all isApkPathChar

def validateScrcpyConfig (config : ScrcpyServerConfig) : Except AppError Unit :=
  if validSession config.sessionId = false ∨ isBlank config.deviceId = true ∨
      config.deviceId.utf8ByteSize > 512 ∨ validApkPath config.apkPath = false ∨
      ¬(0x10000000 ≤ config.scid ∧ config.scid ≤ 0x7fffffff) ∨
      ¬(128 ≤ config.maxSize ∧ config.maxSize ≤ 4096) ∨
      ¬(500000 ≤ config.videoBitRate ∧ config.videoBitRate ≤ 32000000) ∨
      ¬(1 ≤ config.maxFps ∧ config.maxFps ≤ 60) then
    .error ⟨"SCRCPY_CONFIG_INVALID", "The scrcpy server configuration is invalid.", "adb.scrcpy",
      false, none⟩
  else .ok ()

def validateAdbArgs (args : List String) : Except AppError Unit :=
  if args.any (fun arg => (utf8Bytes arg).contains 0) then
    .error ⟨"ADB_ARGS_CONTAIN_NUL", "ADB arguments must not contain NUL bytes.", "adb.runner", false,
      none⟩
  else .ok ()

/-- `{:08x}`. -/
def scidText (scid : UInt32) : String :=
  String.ofList ((Nat.toDigits 16 scid.toNat).leftpad 8 '0')

/-- What the device's shell is given. -/
def remoteArgs (config : ScrcpyServerConfig) : List String :=
  ["CLASSPATH=" ++ config.apkPath, "app_process", "/", "com.genymobile.scrcpy.Server", "4.0",
    "scid=" ++ scidText config.scid, "log_level=info", "audio=true", "audio_codec=raw", "video=true",
    "control=true", "video_codec=h264", "video_codec_options=profile=1,level=2048",
    "max_size=" ++ config.maxSize.toNat.repr, "video_bit_rate=" ++ config.videoBitRate.toNat.repr,
    "max_fps=" ++ config.maxFps.toNat.repr, "tunnel_forward=true", "send_device_meta=false",
    "send_dummy_byte=true", "send_stream_meta=true", "send_frame_meta=true"]

def buildScrcpyServerArgs (config : ScrcpyServerConfig) : Except AppError (List String) := do
  validateScrcpyConfig config
  let args := ["-s", config.deviceId, "shell"] ++ remoteArgs config
  validateAdbArgs args
  pure args

def dataApp : List (List Char) := ["data".toList, "app".toList]

/-- The path leads, by its names alone, to an apk file somewhere below `/data/app`. -/
def ConfinedApk (apkPath : String) : Prop :=
  ∃ (directories : List (List Char)) (file : List Char),
    resolve [] (pathNames apkPath.toList) = dataApp ++ directories ++ [file] ∧
      ".apk".toList <:+ file

/-- Those of the directories `/data/app` that the names after them climb out of are the first that
they enter again. -/
def ComesBack (apkPath : String) : Prop :=
  let c := climb ((pathNames apkPath.toList).drop 2)
  dataApp.drop (2 - c.levels) <+: c.below

instance (apkPath : String) : Decidable (ComesBack apkPath) :=
  inferInstanceAs (Decidable (_ <+: _))

section

theorem isApkPathChar_cases {c : Char} (h : isApkPathChar c = true) :
    Shell.isPlain c = true ∨ c = '=' ∨ c = '~' := by
  simp only [isApkPathChar, Bool.or_eq_true, decide_eq_true_eq, List.mem_cons,
    List.not_mem_nil, or_false] at h
  rcases h with h | rfl | rfl | rfl | rfl | rfl | rfl | rfl
  · exact Or.inl (by simp [Shell.isPlain, h])
  · exact Or.inl (by decide)
  · exact Or.inl (by decide)
  · exact Or.inl (by decide)
  · exact Or.inl (by decide)
  · exact Or.inl (by decide)
  · exact Or.inr (Or.inl rfl)
  · exact Or.inr (Or.inr rfl)

/-- A path has nothing special in it where its word has an equals sign already, and more. -/
theorem literalFrom_apkPath {path : List Char} (h : ∀ c ∈ path, isApkPathChar c = true)
    {front : List Char} {last : Char} (equals : '=' ∈ front) (hlast : last ≠ ':') :
    Shell.literalFrom (front ++ [last]) path = true := by
  induction path generalizing front last with
  | nil => rfl
  | cons c path ih =>
    obtain ⟨hc, hpath⟩ := List.forall_mem_cons.mp h
    have literal : Shell.isLiteral (front ++ [last]) c = true := by
      rcases isApkPathChar_cases hc with hplain | rfl | rfl
      · exact Shell.isLiteral_plain hplain _
      · simp [Shell.isLiteral]
      · simp [Shell.isLiteral, Shell.not_expandsTilde equals hlast]
    have colon : c ≠ ':' := by
      rintro rfl
      exact absurd hc (by decide)
    rw [Shell.literalFrom, literal, Bool.true_and]
    exact ih hpath (List.mem_append_left _ equals) colon

theorem startsWith_iff {s p : String} :
    startsWith s p = true ↔ ∃ rest, s.toList = p.toList ++ rest := by
  rw [startsWith, List.isPrefixOf_iff_prefix]
  constructor
  · rintro ⟨rest, hrest⟩
    exact ⟨rest, hrest.symm⟩
  · rintro ⟨rest, hrest⟩
    exact ⟨rest, hrest.symm⟩

/-- What is after `/data/app/` in a path that passes the check. -/
theorem validApkPath_rest {apkPath : String} (h : validApkPath apkPath = true) :
    ∃ body, apkPath.toList = "/data/app/".toList ++ (body ++ ".apk".toList) ∧
      ∀ c ∈ apkPath.toList, isApkPathChar c = true := by
  simp only [validApkPath, Bool.and_eq_true, List.all_eq_true] at h
  obtain ⟨⟨hstart, hend⟩, hchars⟩ := h
  obtain ⟨rest, hrest⟩ := startsWith_iff.mp hstart
  have hsuffix : ".apk".toList <:+ "/data/app/".toList ++ rest :=
    hrest ▸ List.isSuffixOf_iff_suffix.mp hend
  have body : ∃ body, rest = body ++ ".apk".toList := by
    rcases List.suffix_or_suffix_of_suffix (List.suffix_append "/data/app/".toList rest) hsuffix with
      ⟨front, hfront⟩ | ⟨body, hbody⟩
    · -- the beginning ends with a slash, and the ending has none
      have whole : "/data/app/".toList ++ rest <:+ "/data/app/".toList ++ rest := List.suffix_refl _
      obtain ⟨outer, houter⟩ := hsuffix
      rw [← hfront, ← List.append_assoc] at houter
      have beginning := List.append_cancel_right houter
      rcases List.eq_nil_or_concat front with rfl | ⟨front', last, rfl⟩
      · exact ⟨[], by rw [← hfront]; rfl⟩
      · rw [List.concat_eq_append, ← List.append_assoc] at beginning
        have slash : last = '/' := by
          have hlast := congrArg List.getLast? beginning
          rw [List.getLast?_concat] at hlast
          exact Option.some.inj hlast
        have inside : last ∈ ".apk".toList := by
          rw [← hfront, List.concat_eq_append]
          simp
        rw [slash] at inside
        exact absurd inside (by decide)
    · exact ⟨body, hbody.symm⟩
  obtain ⟨body, rfl⟩ := body
  exact ⟨body, hrest, hchars⟩

/-- For a path that passes the check, what the resolution does is decided by how far it climbs. -/
theorem confinedApk_iff {apkPath : String} (h : validApkPath apkPath = true) :
    ConfinedApk apkPath ↔ ComesBack apkPath := by
  obtain ⟨body, hpath, -⟩ := validApkPath_rest h
  obtain ⟨directories, stem, hnames⟩ :=
    @pathNames_extension body ".apk".toList (by decide) (by decide)
  have names : pathNames apkPath.toList = dataApp ++ (directories ++ [stem ++ ".apk".toList]) := by
    have spelled : apkPath.toList = "/data/app".toList ++ '/' :: (body ++ ".apk".toList) := hpath
    rw [spelled, pathNames_append, hnames]
    rfl
  have hfile : stem ++ ".apk".toList ≠ parentName := by
    intro hup
    have hlength := congrArg List.length hup
    simp [parentName] at hlength
  have place : resolve [] (pathNames apkPath.toList) =
      resolve dataApp (directories ++ [stem ++ ".apk".toList]) := by
    rw [names, resolve_append]
    rfl
  have below : ConfinedApk apkPath ↔
      dataApp <+: resolve dataApp (directories ++ [stem ++ ".apk".toList]) := by
    rw [ConfinedApk, place]
    constructor
    · rintro ⟨dirs, file, hplace, -⟩
      rw [hplace, List.append_assoc]
      exact List.prefix_append _ _
    · rintro ⟨more, hmore⟩
      rw [resolve_eq_climb, climb_name directories hfile, Climb.apply, ← List.append_assoc] at hmore ⊢
      rcases List.eq_nil_or_concat more with rfl | ⟨dirs, last, rfl⟩
      · rw [List.append_nil] at hmore
        have hlast := congrArg List.getLast? hmore
        rw [List.getLast?_concat] at hlast
        have ending : ".apk".toList <:+ "app".toList := ⟨stem, (Option.some.inj hlast).symm⟩
        exact absurd ending (by decide)
      · rw [List.concat_eq_append, ← List.append_assoc] at hmore
        refine ⟨dirs, last, hmore.symm, ?_⟩
        have hlast := congrArg List.getLast? hmore
        rw [List.getLast?_concat, List.getLast?_concat] at hlast
        exact ⟨stem, (Option.some.inj hlast).symm⟩
  have after : (pathNames apkPath.toList).drop 2 = directories ++ [stem ++ ".apk".toList] := by
    rw [names]
    rfl
  rw [below, below_resolve_iff, ComesBack, after]
  rfl

theorem isLiteralWord_classPath {apkPath : String} (h : validApkPath apkPath = true) :
    Shell.isLiteralWord ("CLASSPATH=" ++ apkPath).toList = true := by
  obtain ⟨body, hpath, hchars⟩ := validApkPath_rest h
  have tail : ∀ c ∈ "data/app/".toList ++ (body ++ ".apk".toList), isApkPathChar c = true := by
    intro c hc
    refine hchars c ?_
    rw [hpath]
    exact List.mem_cons_of_mem '/' hc
  have spelled : ("CLASSPATH=" ++ apkPath).toList =
      ("CLASSPATH=".toList ++ ['/']) ++ ("data/app/".toList ++ (body ++ ".apk".toList)) := by
    rw [String.toList_append, hpath]
    rfl
  rw [spelled]
  exact Shell.isLiteralWord_append (by decide) (literalFrom_apkPath tail (by decide) (by decide))

theorem isPlain_scidText (scid : UInt32) : ∀ c ∈ (scidText scid).toList, Shell.isPlain c = true := by
  intro c hc
  rw [scidText, String.toList_ofList, List.leftpad, List.mem_append, List.mem_replicate] at hc
  rcases hc with ⟨-, rfl⟩ | hc
  · decide
  · exact Shell.isPlain_toDigits (by omega) (by omega) _ c hc

/-- None of the words for the device's shell has anything special in it. -/
theorem isLiteralWord_remoteArgs {config : ScrcpyServerConfig}
    (h : validApkPath config.apkPath = true) :
    ∀ word ∈ remoteArgs config, Shell.isLiteralWord word.toList = true := by
  have number (label : String) (hlabel : Shell.isLiteralWord label.toList = true) (n : Nat) :
      Shell.isLiteralWord (label ++ n.repr).toList = true := by
    rw [String.toList_append]
    exact Shell.isLiteralWord_append hlabel (Shell.literalFrom_plain (Shell.isPlain_repr n) _)
  have scid : Shell.isLiteralWord ("scid=" ++ scidText config.scid).toList = true := by
    rw [String.toList_append]
    exact Shell.isLiteralWord_append (by decide)
      (Shell.literalFrom_plain (isPlain_scidText config.scid) _)
  simp only [remoteArgs, List.forall_mem_cons]
  refine ⟨isLiteralWord_classPath h, ?_, ?_, ?_, ?_, scid, ?_, ?_, ?_, ?_, ?_, ?_, ?_,
    number _ (by decide) _, number _ (by decide) _, number _ (by decide) _, ?_, ?_, ?_, ?_, ?_, ?_⟩
  all_goals decide

theorem validateScrcpyConfig_ok {config : ScrcpyServerConfig}
    (h : validateScrcpyConfig config = .ok ()) : validApkPath config.apkPath = true := by
  unfold validateScrcpyConfig at h
  split_ifs at h with hbad
  by_contra hpath
  exact hbad (Or.inr (Or.inr (Or.inr (Or.inl (Bool.not_eq_true _ ▸ hpath)))))

theorem buildScrcpyServerArgs_ok {config : ScrcpyServerConfig} {args : List String}
    (h : buildScrcpyServerArgs config = .ok args) :
    validApkPath config.apkPath = true ∧
      args = ["-s", config.deviceId, "shell"] ++ remoteArgs config := by
  obtain ⟨u, hvalid, hrest⟩ := bind_eq_ok.mp h
  obtain ⟨u', -, hargs⟩ := bind_eq_ok.mp hrest
  exact ⟨validateScrcpyConfig_ok hvalid, (Except.ok.inj hargs).symm⟩

end

/-- Of every configuration that is accepted, the words after `shell` have nothing special in them
and are read back from the line they are joined to; and the apk is a file below `/data/app` exactly
when its path does not climb out of this directory, or comes back into it by name. -/
theorem scrcpy_classpath_iff {config : ScrcpyServerConfig} {args : List String}
    (h : buildScrcpyServerArgs config = .ok args) :
    (∃ words, args = ["-s", config.deviceId, "shell"] ++ words ∧
      (∀ word ∈ words, Shell.isLiteralWord word.toList = true) ∧
      Shell.words [] ([' '].intercalate (words.map String.toList)) =
        some (words.map String.toList)) ∧
    (ConfinedApk config.apkPath ↔ ComesBack config.apkPath) := by
  obtain ⟨hpath, hargs⟩ := buildScrcpyServerArgs_ok h
  have literal := isLiteralWord_remoteArgs hpath
  refine ⟨⟨remoteArgs config, hargs, literal, ?_⟩, confinedApk_iff hpath⟩
  apply Shell.words_intercalate
  intro word hword
  obtain ⟨text, htext, rfl⟩ := List.mem_map.mp hword
  exact literal text htext

section

def webConfig (apkPath : String) : ScrcpyServerConfig :=
  ⟨"web-1234abcd", "device-1", apkPath, 0x1234abcd, 1280, 4000000, 30⟩

theorem scrcpy_classpath_iff_companion :
    ConfinedApk "/data/app/~~abc==/com.adbcontrol.companion/base.apk" := by
  have built : buildScrcpyServerArgs (webConfig "/data/app/~~abc==/com.adbcontrol.companion/base.apk") =
      .ok (["-s", "device-1", "shell"] ++
        remoteArgs (webConfig "/data/app/~~abc==/com.adbcontrol.companion/base.apk")) := by
    decide
  exact (scrcpy_classpath_iff built).2.mpr (by decide)

/-- A path that climbs out of `/data/app` and does not come back is accepted. -/
theorem climbing_apk_accepted :
    buildScrcpyServerArgs (webConfig "/data/app/../../data/local/tmp/evil.apk") =
      .ok (["-s", "device-1", "shell"] ++
        remoteArgs (webConfig "/data/app/../../data/local/tmp/evil.apk")) ∧
    ¬ConfinedApk "/data/app/../../data/local/tmp/evil.apk" := by
  refine ⟨by decide, ?_⟩
  rintro ⟨directories, file, hplace, -⟩
  have place : resolve [] (pathNames "/data/app/../../data/local/tmp/evil.apk".toList) =
      ["data".toList, "local".toList, "tmp".toList, "evil.apk".toList] := by decide
  rw [place] at hplace
  have second := congrArg (fun names => names[1]?) hplace
  revert second
  simp [dataApp]

end

end AdbControl
