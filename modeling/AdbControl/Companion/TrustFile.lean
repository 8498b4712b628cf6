import AdbControl.Companion.TrustHistory
import AdbControl.Framework.Json
import AdbControl.Framework.Outcome

namespace AdbControl.Companion

open Framework

def trustStoreSchemaVersion : Nat := 1

def TrustedDevice.toJson (device : TrustedDevice) : Value :=
  .object ([("deviceId", .string device.deviceId), ("deviceName", .string device.deviceName),
    ("certificateFingerprintSha256", .string device.certificateFingerprintSha256),
    ("trustedAtUnixMs", .number (.posInt device.trustedAtUnixMs.toNat)),
    ("expiresAtUnixMs", .number (.posInt device.expiresAtUnixMs.toNat))] ++
      (device.revokedAtUnixMs.map (fun revoked =>
        ("revokedAtUnixMs", Value.number (.posInt revoked.toNat)))).toList)

/-- An `Option<u64>` field: it may be missing from an object, or null. -/
def optionalTime (v : Value) : Option Value → Option (Option UInt64)
  | none => if v.isObject then some none else none
  | some .null => some none
  | some field => (field.asUnsigned 64).map (fun n => some (UInt64.ofNat n))

def TrustedDevice.ofJson (v : Value) : Option TrustedDevice := do
  let [deviceId, deviceName, fingerprint, trustedAt, expiresAt, revokedAt] ← v.structFields
    ["deviceId", "deviceName", "certificateFingerprintSha256", "trustedAtUnixMs", "expiresAtUnixMs",
      "revokedAtUnixMs"] | none
  let deviceId ← deviceId.bind Value.asStr
  let deviceName ← deviceName.bind Value.asStr
  let fingerprint ← fingerprint.bind Value.asStr
  let trustedAt ← trustedAt.bind (Value.asUnsigned 64)
  let expiresAt ← expiresAt.bind (Value.asUnsigned 64)
  let revokedAt ← optionalTime v revokedAt
  some ⟨deviceId, deviceName, fingerprint, UInt64.ofNat trustedAt, UInt64.ofNat expiresAt, revokedAt⟩

structure CompanionTrustStoreFile where
  schemaVersion : Nat
  trustedDevices : List TrustedDevice
  deriving DecidableEq

def CompanionTrustStoreFile.toJson (file : CompanionTrustStoreFile) : Value :=
  .object [("schemaVersion", .number (.posInt file.schemaVersion)),
    ("trustedDevices", .array (file.trustedDevices.map TrustedDevice.toJson))]

def CompanionTrustStoreFile.ofJson (v : Value) : Option CompanionTrustStoreFile := do
  let [schemaVersion, trustedDevices] ← v.structFields ["schemaVersion", "trustedDevices"] | none
  let schemaVersion ← schemaVersion.bind (Value.asUnsigned 32)
  let trustedDevices ← (← trustedDevices.bind Value.asArray).mapM TrustedDevice.ofJson
  some ⟨schemaVersion, trustedDevices⟩

/-- What `read_to_string` finds. -/
inductive TrustFileRead
  | notFound
  | failed
  | content (text : String)

/-- Where saving can fail. -/
inductive TrustSaveFault
  | createDir
  | write
  deriving DecidableEq

section

-- the text layer of `serde_json`, and `char::to_lowercase`
variable (print : Value → String) (parse : String → Option Value) (toLowercase : Char → List Char)

namespace CompanionTrustStore

/-- The device of a file goes into the store if it passes the checks. -/
def insertListed (s : CompanionTrustStore) (device : TrustedDevice) :
    Except AppError CompanionTrustStore := do
  validateDeviceId device.deviceId
  validateFingerprint toLowercase device.certificateFingerprintSha256
  pure { s with trustedDevices := s.trustedDevices.insert device.deviceId device }

def loadTrustedDevicesFromFile : TrustFileRead → Except AppError CompanionTrustStore
  | .notFound => .ok empty
  | .failed =>
    .error ⟨"COMPANION_TRUST_STORE_READ_FAILED", "Core failed to read companion trust store file.",
      "companion.trust", true, none⟩
  | .content text =>
    match (parse text).bind CompanionTrustStoreFile.ofJson with
    | none =>
      .error ⟨"COMPANION_TRUST_STORE_PARSE_FAILED",
        "Core failed to parse companion trust store JSON.", "companion.trust", false, none⟩
    | some file =>
      if file.schemaVersion ≠ trustStoreSchemaVersion then
        .error ⟨"COMPANION_TRUST_STORE_SCHEMA_UNSUPPORTED",
          "Companion trust store schema version is not supported.", "companion.trust", false,
          some ("Expected schemaVersion " ++ toString trustStoreSchemaVersion ++ ", got " ++
            toString file.schemaVersion ++ ".")⟩
      else file.trustedDevices.foldlM (insertListed toLowercase) empty

/-- `save_trusted_devices_to_file`: the text that is written. The devices come in the order in which
the `HashMap` lists them; the directory is made if the path has one. -/
def saveTrustedDevicesToFile (listing : List TrustedDevice) (hasParent : Bool)
    (fault : Option TrustSaveFault) : Except AppError String :=
  if hasParent = true ∧ fault = some .createDir then
    .error ⟨"COMPANION_TRUST_STORE_DIR_CREATE_FAILED",
      "Core failed to create companion trust store directory.", "companion.trust", true, none⟩
  else if fault = some .write then
    .error ⟨"COMPANION_TRUST_STORE_WRITE_FAILED", "Core failed to write companion trust store file.",
      "companion.trust", true, none⟩
  else .ok (print (CompanionTrustStoreFile.toJson ⟨trustStoreSchemaVersion, listing⟩))

/-- The stores the program can have: loaded from a file at its start, and then changed by any
calls. -/
def Reachable (s : CompanionTrustStore) : Prop :=
  ∃ read start ops, loadTrustedDevicesFromFile parse toLowercase read = .ok start ∧
    s = run (TrustOp.step toLowercase) start ops

end CompanionTrustStore

end

section Codec

theorem asUnsigned_toNat (n : UInt64) :
    (Value.number (.posInt n.toNat)).asUnsigned 64 = some n.toNat := if_pos n.toNat_lt

theorem TrustedDevice.ofJson_toJson (device : TrustedDevice) :
    TrustedDevice.ofJson device.toJson = some device := by
  obtain ⟨deviceId, deviceName, fingerprint, trustedAt, expiresAt, revokedAt⟩ := device
  cases revokedAt with
  | none =>
    have fields : (TrustedDevice.toJson ⟨deviceId, deviceName, fingerprint, trustedAt, expiresAt,
        none⟩).structFields ["deviceId", "deviceName", "certificateFingerprintSha256",
          "trustedAtUnixMs", "expiresAtUnixMs", "revokedAtUnixMs"] =
        some [some (.string deviceId), some (.string deviceName), some (.string fingerprint),
          some (.number (.posInt trustedAt.toNat)), some (.number (.posInt expiresAt.toNat)),
          none] := by rfl
    simp only [ofJson, fields]
    simp [Value.asStr, asUnsigned_toNat, optionalTime, toJson, Value.isObject]
  | some revoked =>
    have fields : (TrustedDevice.toJson ⟨deviceId, deviceName, fingerprint, trustedAt, expiresAt,
        some revoked⟩).structFields ["deviceId", "deviceName", "certificateFingerprintSha256",
          "trustedAtUnixMs", "expiresAtUnixMs", "revokedAtUnixMs"] =
        some [some (.string deviceId), some (.string deviceName), some (.string fingerprint),
          some (.number (.posInt trustedAt.toNat)), some (.number (.posInt expiresAt.toNat)),
          some (.number (.posInt revoked.toNat))] := by rfl
    simp only [ofJson, fields]
    simp [Value.asStr, asUnsigned_toNat, optionalTime]

theorem CompanionTrustStoreFile.ofJson_toJson (listing : List TrustedDevice) :
    CompanionTrustStoreFile.ofJson
        (CompanionTrustStoreFile.toJson ⟨trustStoreSchemaVersion, listing⟩) =
      some ⟨trustStoreSchemaVersion, listing⟩ := by
  have fields : (CompanionTrustStoreFile.toJson ⟨trustStoreSchemaVersion, listing⟩).structFields
      ["schemaVersion", "trustedDevices"] =
      some [some (.number (.posInt trustStoreSchemaVersion)),
        some (.array (listing.map TrustedDevice.toJson))] := by rfl
  have version : (Value.number (.posInt trustStoreSchemaVersion)).asUnsigned 32 =
      some trustStoreSchemaVersion := by rfl
  have devices : (listing.map TrustedDevice.toJson).mapM TrustedDevice.ofJson = some listing := by
    rw [mapM_eq_some, List.forall₂_map_left_iff]
    exact List.forall₂_same.mpr (fun device _ => device.ofJson_toJson)
  simp only [ofJson, fields]
  simp [version, devices, Value.asArray]

end Codec

section Fingerprints

theorem hexdigit_lt {c : Char} (h : isAsciiHexdigit c = true) : c.toNat < 128 := by
  simp only [isAsciiHexdigit, isAsciiDigit, Bool.or_eq_true, Bool.and_eq_true,
    decide_eq_true_eq] at h
  omega

theorem hexdigit_toLower {c : Char} (h : isAsciiHexdigit c = true) :
    isAsciiHexdigit c.toLower = true := by
  have table : ∀ n < 128, isAsciiHexdigit (Char.ofNat n) = true →
      isAsciiHexdigit (Char.ofNat n).toLower = true := by decide
  have hc := table c.toNat (hexdigit_lt h)
  rw [Char.ofNat_toNat] at hc
  exact hc h

variable {toLowercase : Char → List Char}

theorem validateFingerprint_ok {fingerprint : String} :
    validateFingerprint toLowercase fingerprint = .ok () ↔
      (normalizeFingerprint toLowercase fingerprint).utf8ByteSize = 64 ∧
        ∀ c ∈ (normalizeFingerprint toLowercase fingerprint).toList, isAsciiHexdigit c = true := by
  simp only [validateFingerprint]
  split_ifs with h
  · refine iff_of_false (by simp) ?_
    rintro ⟨hsize, hdigits⟩
    rcases h with h | h
    · exact h hsize
    · rw [List.all_eq_true.mpr hdigits] at h
      cases h
  · obtain ⟨hsize, hdigits⟩ := not_or.mp h
    exact iff_of_true rfl ⟨not_not.mp hsize,
      List.all_eq_true.mp (Bool.not_eq_false _ ▸ hdigits)⟩

/-- A text of hex digits is normalized to its lower-case one. -/
theorem normalizeFingerprint_hexdigits
    (lower : ∀ c, isAsciiHexdigit c = true → toLowercase c = [c.toLower]) {fingerprint : String}
    (h : ∀ c ∈ fingerprint.toList, isAsciiHexdigit c = true) :
    normalizeFingerprint toLowercase fingerprint =
      String.ofList (fingerprint.toList.map Char.toLower) := by
  have kept : fingerprint.toList.filter (fun c => c != ':' && !isAsciiWhitespace c) =
      fingerprint.toList := by
    rw [List.filter_eq_self]
    intro c hc
    have hlt := h c hc
    simp only [isAsciiHexdigit, isAsciiDigit, Bool.or_eq_true, Bool.and_eq_true,
      decide_eq_true_eq] at hlt
    simp only [isAsciiWhitespace, Bool.and_eq_true, bne_iff_ne, ne_eq, Bool.not_eq_true',
      Bool.or_eq_false_iff, beq_eq_false_iff_ne]
    refine ⟨?_, by omega⟩
    rintro rfl
    revert hlt
    decide
  rw [normalizeFingerprint, kept, List.flatMap_congr (fun c hc => lower c (h c hc))]
  congr 1
  induction fingerprint.toList with
  | nil => rfl
  | cons c cs ih => rw [List.flatMap_cons, List.map_cons, ih, List.singleton_append]

/-- A fingerprint that is accepted is accepted in its normal form. -/
theorem validateFingerprint_normalized
    (lower : ∀ c, isAsciiHexdigit c = true → toLowercase c = [c.toLower]) {fingerprint : String}
    (h : validateFingerprint toLowercase fingerprint = .ok ()) :
    validateFingerprint toLowercase (normalizeFingerprint toLowercase fingerprint) = .ok () := by
  obtain ⟨hsize, hdigits⟩ := validateFingerprint_ok.mp h
  generalize normalizeFingerprint toLowercase fingerprint = normal at hsize hdigits
  have lowered : ∀ c ∈ normal.toList.map Char.toLower, isAsciiHexdigit c = true := by
    intro c hc
    obtain ⟨d, hd, rfl⟩ := List.mem_map.mp hc
    exact hexdigit_toLower (hdigits d hd)
  have whole : normal.utf8ByteSize = normal.toList.length := by
    have ascii := utf8ByteSize_ascii (fun c hc => hexdigit_lt (hdigits c hc))
    rwa [String.ofList_toList] at ascii
  rw [validateFingerprint_ok, normalizeFingerprint_hexdigits lower hdigits, String.toList_ofList]
  refine ⟨?_, lowered⟩
  rw [utf8ByteSize_ascii (fun c hc => hexdigit_lt (lowered c hc)), List.length_map, ← whole, hsize]

end Fingerprints

namespace CompanionTrustStore

variable {toLowercase : Char → List Char} {parse : String → Option Value}

/-- A device id and a fingerprint that pass the checks. -/
structure Passes (toLowercase : Char → List Char) (deviceId fingerprint : String) : Prop where
  deviceId : validateDeviceId deviceId = .ok ()
  fingerprint : validateFingerprint toLowercase fingerprint = .ok ()

/-- What every store keeps: a record is kept under its device id, and the records and the challenges
pass the checks. -/
structure Sound (toLowercase : Char → List Char) (s : CompanionTrustStore) : Prop where
  keyed : ∀ (deviceId : String) (r : TrustedDevice),
    s.trustedDevices[deviceId]? = some r → r.deviceId = deviceId
  records : ∀ (deviceId : String) (r : TrustedDevice), s.trustedDevices[deviceId]? = some r →
    Passes toLowercase r.deviceId r.certificateFingerprintSha256
  challenges : ∀ (pairingId : String) (c : PairingChallenge),
    s.pendingPairings[pairingId]? = some c →
      Passes toLowercase c.deviceId c.certificateFingerprintSha256

theorem sound_empty : Sound toLowercase empty := by
  refine ⟨?_, ?_, ?_⟩ <;> intro key value h <;> simp [empty] at h

theorem Sound.insert {s : CompanionTrustStore} (h : Sound toLowercase s) {r : TrustedDevice}
    (hr : Passes toLowercase r.deviceId r.certificateFingerprintSha256) :
    Sound toLowercase { s with trustedDevices := s.trustedDevices.insert r.deviceId r } :=
  ⟨Keyed.forall_insert h.keyed rfl, Keyed.forall_insert h.records hr, h.challenges⟩

theorem Sound.beginPairing (lower : ∀ c, isAsciiHexdigit c = true → toLowercase c = [c.toLower])
    {s : CompanionTrustStore} (h : Sound toLowercase s) (request : PairingRequest) (now : UInt64)
    (draws : PairingDraws) : Sound toLowercase (s.beginPairing toLowercase request now draws).1 := by
  unfold CompanionTrustStore.beginPairing
  cases hdevice : validateDeviceId request.deviceId with
  | error e => exact h
  | ok u =>
    cases hfingerprint : validateFingerprint toLowercase request.certificateFingerprintSha256 with
    | error e => exact h
    | ok u =>
      have passes : Passes toLowercase request.deviceId
          (normalizeFingerprint toLowercase request.certificateFingerprintSha256) :=
        ⟨hdevice, validateFingerprint_normalized lower hfingerprint⟩
      exact ⟨h.keyed, h.records, Keyed.forall_insert h.challenges passes⟩

/-- The record of a confirmed pairing is one that its challenge passed the checks for. -/
theorem Sound.confirmPairing {s : CompanionTrustStore} (h : Sound toLowercase s)
    (pairingId shortCode : String) (now : UInt64) :
    Sound toLowercase (s.confirmPairing pairingId shortCode now).1 := by
  have challenges (id : String) (c : PairingChallenge)
      (hc : (s.confirmPairing pairingId shortCode now).1.pendingPairings[id]? = some c) :
      Passes toLowercase c.deviceId c.certificateFingerprintSha256 := by
    obtain ⟨c₀, hc₀, hsame⟩ := s.confirmPairing_pending pairingId shortCode now hc
    have passes := h.challenges id c₀ hc₀
    rw [hsame]
    exact passes
  rcases s.confirmPairing_trusted pairingId shortCode now with ⟨-, hsame⟩ | ⟨c, hc, he⟩
  · refine ⟨?_, ?_, challenges⟩
    · rw [hsame]
      exact h.keyed
    · rw [hsame]
      exact h.records
  · refine ⟨?_, ?_, challenges⟩
    · rw [he]
      exact Keyed.forall_insert h.keyed rfl
    · rw [he]
      exact Keyed.forall_insert h.records (h.challenges pairingId c hc)

theorem Sound.revokeDevice {s : CompanionTrustStore} (h : Sound toLowercase s) (deviceId : String)
    (now : UInt64) : Sound toLowercase (s.revokeDevice deviceId now).1 := by
  have revoked (d : String) (r : TrustedDevice)
      (hr : (s.revokeDevice deviceId now).1.trustedDevices[d]? = some r) :
      ∃ r₀, s.trustedDevices[d]? = some r₀ ∧ r.deviceId = r₀.deviceId ∧
        r.certificateFingerprintSha256 = r₀.certificateFingerprintSha256 := by
    rw [lookup_revokeDevice] at hr
    split_ifs at hr
    · obtain ⟨r₀, hr₀, rfl⟩ := Option.map_eq_some_iff.mp hr
      exact ⟨r₀, hr₀, rfl, rfl⟩
    · exact ⟨r, hr, rfl, rfl⟩
  refine ⟨?_, ?_, ?_⟩
  · intro d r hr
    obtain ⟨r₀, hr₀, hid, -⟩ := revoked d r hr
    rw [hid, h.keyed d r₀ hr₀]
  · intro d r hr
    obtain ⟨r₀, hr₀, hid, hfingerprint⟩ := revoked d r hr
    rw [hid, hfingerprint]
    exact h.records d r₀ hr₀
  · intro id c hc
    rw [revokeDevice_pendingPairings] at hc
    exact h.challenges id c hc

theorem sound_step (lower : ∀ c, isAsciiHexdigit c = true → toLowercase c = [c.toLower])
    {s : CompanionTrustStore} (h : Sound toLowercase s) (op : TrustOp) :
    Sound toLowercase (op.step toLowercase s) := by
  cases op with
  | beginPairing request now draws => exact h.beginPairing lower request now draws
  | confirmPairing pairingId shortCode now => exact h.confirmPairing pairingId shortCode now
  | revokeDevice deviceId now => exact h.revokeDevice deviceId now

theorem insertListed_ok {s s' : CompanionTrustStore} {device : TrustedDevice} :
    s.insertListed toLowercase device = .ok s' ↔
      Passes toLowercase device.deviceId device.certificateFingerprintSha256 ∧
        s' = { s with trustedDevices := s.trustedDevices.insert device.deviceId device } := by
  unfold insertListed
  rw [bind_eq_ok]
  constructor
  · rintro ⟨u, hdevice, hrest⟩
    obtain ⟨u', hfingerprint, hset⟩ := bind_eq_ok.mp hrest
    cases hset
    exact ⟨⟨hdevice, hfingerprint⟩, rfl⟩
  · rintro ⟨hpasses, rfl⟩
    exact ⟨(), hpasses.deviceId, bind_eq_ok.mpr ⟨(), hpasses.fingerprint, rfl⟩⟩

/-- Listed devices are loaded exactly when all of them pass the checks, each in its turn. -/
theorem foldlM_insertListed {devices : List TrustedDevice} {s s' : CompanionTrustStore} :
    devices.foldlM (insertListed toLowercase) s = .ok s' ↔
      (∀ device ∈ devices,
        Passes toLowercase device.deviceId device.certificateFingerprintSha256) ∧
      s' = devices.foldl (fun s device =>
        { s with trustedDevices := s.trustedDevices.insert device.deviceId device }) s := by
  induction devices generalizing s with
  | nil => simp [pure, Except.pure, eq_comm]
  | cons device devices ih =>
    rw [List.foldlM_cons, bind_eq_ok, List.forall_mem_cons, List.foldl_cons]
    constructor
    · rintro ⟨next, hnext, hrest⟩
      obtain ⟨hpasses, rfl⟩ := insertListed_ok.mp hnext
      obtain ⟨hall, hs'⟩ := ih.mp hrest
      exact ⟨⟨hpasses, hall⟩, hs'⟩
    · rintro ⟨⟨hpasses, hall⟩, hs'⟩
      exact ⟨_, insertListed_ok.mpr ⟨hpasses, rfl⟩, ih.mpr ⟨hall, hs'⟩⟩

/-- With distinct ids, every listed device is found under its id. -/
theorem lookup_listed {devices : List TrustedDevice}
    (distinct : (devices.map TrustedDevice.deviceId).Nodup) (s : CompanionTrustStore)
    (deviceId : String) (r : TrustedDevice) :
    (devices.foldl (fun s device => { s with
        trustedDevices := s.trustedDevices.insert device.deviceId device }) s).trustedDevices[
          deviceId]? = some r ↔
      r ∈ devices ∧ r.deviceId = deviceId ∨
        deviceId ∉ devices.map TrustedDevice.deviceId ∧ s.trustedDevices[deviceId]? = some r := by
  have devicesAfter : (devices.foldl (fun s device => { s with
      trustedDevices := s.trustedDevices.insert device.deviceId device }) s).trustedDevices =
      devices.foldl (fun m device => m.insert device.deviceId device) s.trustedDevices :=
    (List.foldl_hom CompanionTrustStore.trustedDevices (fun _ _ => rfl)).symm
  rw [devicesAfter, Keyed.lookup_insertAll distinct]

theorem Sound.insertListed {devices : List TrustedDevice} {s : CompanionTrustStore}
    (h : Sound toLowercase s) (hall : ∀ device ∈ devices,
      Passes toLowercase device.deviceId device.certificateFingerprintSha256) :
    Sound toLowercase (devices.foldl (fun s device =>
      { s with trustedDevices := s.trustedDevices.insert device.deviceId device }) s) := by
  induction devices generalizing s with
  | nil => exact h
  | cons device devices ih =>
    obtain ⟨hpasses, hall⟩ := List.forall_mem_cons.mp hall
    exact ih (h.insert hpasses) hall

theorem load_content {text : String} {s : CompanionTrustStore} :
    loadTrustedDevicesFromFile parse toLowercase (.content text) = .ok s ↔
      ∃ devices, (parse text).bind CompanionTrustStoreFile.ofJson =
          some ⟨trustStoreSchemaVersion, devices⟩ ∧
        devices.foldlM (CompanionTrustStore.insertListed toLowercase) empty = .ok s := by
  unfold loadTrustedDevicesFromFile
  cases hfile : (parse text).bind CompanionTrustStoreFile.ofJson with
  | none => simp [hfile]
  | some file =>
    obtain ⟨version, devices⟩ := file
    by_cases hversion : version = trustStoreSchemaVersion
    · subst hversion
      simp [hfile]
    · simp [hfile, hversion]

theorem sound_load {read : TrustFileRead} {s : CompanionTrustStore}
    (h : loadTrustedDevicesFromFile parse toLowercase read = .ok s) : Sound toLowercase s := by
  cases read with
  | notFound =>
    cases h
    exact sound_empty
  | failed => cases h
  | content text =>
    obtain ⟨devices, -, hload⟩ := load_content.mp h
    obtain ⟨hall, rfl⟩ := foldlM_insertListed.mp hload
    exact sound_empty.insertListed hall

theorem Reachable.sound (lower : ∀ c, isAsciiHexdigit c = true → toLowercase c = [c.toLower])
    {s : CompanionTrustStore} (h : Reachable parse toLowercase s) : Sound toLowercase s := by
  obtain ⟨read, start, ops, hload, rfl⟩ := h
  exact run_invariant_of_step (Sound toLowercase) (fun _ op hs => sound_step lower hs op) ops
    (sound_load hload)

/-- The records of a sound store have distinct device ids. -/
theorem Sound.distinct {s : CompanionTrustStore} (h : Sound toLowercase s) :
    (s.trustedDevices.values.map TrustedDevice.deviceId).Nodup := by
  have ids : s.trustedDevices.values.map TrustedDevice.deviceId = s.trustedDevices.keys := by
    rw [Keyed.values_eq_map_snd, List.map_map, ← Std.ExtTreeMap.map_fst_toList_eq_keys]
    apply List.map_congr_left
    rintro ⟨deviceId, r⟩ hmem
    exact h.keyed deviceId r (Std.ExtTreeMap.mem_toList_iff_getElem?_eq_some.mp hmem)
  rw [ids]
  exact Std.ExtTreeMap.nodup_keys

theorem saveTrustedDevicesToFile_text {print : Value → String} {listing : List TrustedDevice}
    {hasParent : Bool} {fault : Option TrustSaveFault} {text : String}
    (h : saveTrustedDevicesToFile print listing hasParent fault = .ok text) :
    text = print (CompanionTrustStoreFile.toJson ⟨trustStoreSchemaVersion, listing⟩) := by
  unfold saveTrustedDevicesToFile at h
  split_ifs at h
  exact (Except.ok.inj h).symm

/-- The file of a sound store, its records in any order, loads to these records. -/
theorem load_saved {s : CompanionTrustStore} (h : Sound toLowercase s)
    {listing : List TrustedDevice} (order : listing.Perm s.trustedDevices.values) {text : String}
    (codec : parse text = some (CompanionTrustStoreFile.toJson ⟨trustStoreSchemaVersion, listing⟩)) :
    ∃ s', loadTrustedDevicesFromFile parse toLowercase (.content text) = .ok s' ∧
      s'.trustedDevices = s.trustedDevices := by
  have listed (r : TrustedDevice) : r ∈ listing ↔ s.trustedDevices[r.deviceId]? = some r := by
    rw [order.mem_iff, Keyed.mem_values_iff]
    constructor
    · rintro ⟨deviceId, hr⟩
      rw [h.keyed deviceId r hr, hr]
    · intro hr
      exact ⟨_, hr⟩
  have distinct : (listing.map TrustedDevice.deviceId).Nodup :=
    (order.map TrustedDevice.deviceId).nodup_iff.mpr h.distinct
  have hall : ∀ device ∈ listing,
      Passes toLowercase device.deviceId device.certificateFingerprintSha256 :=
    fun device hmem => h.records _ device ((listed device).mp hmem)
  refine ⟨_, load_content.mpr ⟨listing, ?_, foldlM_insertListed.mpr ⟨hall, rfl⟩⟩, ?_⟩
  · rw [codec]
    exact CompanionTrustStoreFile.ofJson_toJson listing
  · apply Keyed.ext_lookup
    intro deviceId
    apply Option.ext
    intro r
    rw [lookup_listed distinct empty deviceId r, listed r]
    constructor
    · rintro (⟨hr, hid⟩ | ⟨-, hnone⟩)
      · rw [← hid, hr]
      · simp [empty] at hnone
    · intro hr
      have hid := h.keyed deviceId r hr
      exact Or.inl ⟨by rw [hid, hr], hid⟩

/-- The device of an accepted file that is found under its id decides as the file records it. -/
theorem isTrusted_listed {devices : List TrustedDevice} {s : CompanionTrustStore}
    (hload : devices.foldlM (CompanionTrustStore.insertListed toLowercase) empty = .ok s)
    (distinct : (devices.map TrustedDevice.deviceId).Nodup) {device : TrustedDevice}
    (hmem : device ∈ devices) (revoked : device.revokedAtUnixMs = none) {now : UInt64}
    (live : now ≤ device.expiresAtUnixMs) :
    s.isTrusted toLowercase device.deviceId device.certificateFingerprintSha256 now = true ↔
      normalizeFingerprint toLowercase device.certificateFingerprintSha256 =
        device.certificateFingerprintSha256 := by
  obtain ⟨-, rfl⟩ := foldlM_insertListed.mp hload
  have found := (lookup_listed distinct empty device.deviceId device).mpr (Or.inl ⟨hmem, rfl⟩)
  simp only [isTrusted, found, revoked, live, Option.isNone_none, decide_true, Bool.and_self,
    Bool.true_and, beq_iff_eq]
  exact eq_comm

end CompanionTrustStore

open CompanionTrustStore in
/-- A trust store that is saved and loaded again trusts as before, for every store the program can
have and every order in which it lists its records. And of a file that is accepted a device that is
neither revoked nor expired is trusted under the fingerprint the file records for it exactly when
that fingerprint is in normal form. -/
theorem trust_file_iff (print : Value → String) (parse : String → Option Value)
    (toLowercase : Char → List Char)
    (lower : ∀ c, isAsciiHexdigit c = true → toLowercase c = [c.toLower]) :
    (∀ (s : CompanionTrustStore) (listing : List TrustedDevice) (hasParent : Bool)
      (fault : Option TrustSaveFault) (text : String),
      Reachable parse toLowercase s → listing.Perm s.trustedDevices.values →
      saveTrustedDevicesToFile print listing hasParent fault = .ok text →
      parse (print (CompanionTrustStoreFile.toJson ⟨trustStoreSchemaVersion, listing⟩)) =
        some (CompanionTrustStoreFile.toJson ⟨trustStoreSchemaVersion, listing⟩) →
      ∃ s', loadTrustedDevicesFromFile parse toLowercase (.content text) = .ok s' ∧
        ∀ deviceId fingerprint now, s'.isTrusted toLowercase deviceId fingerprint now =
          s.isTrusted toLowercase deviceId fingerprint now) ∧
    (∀ (text : String) (file : CompanionTrustStoreFile) (s : CompanionTrustStore),
      (parse text).bind CompanionTrustStoreFile.ofJson = some file →
      loadTrustedDevicesFromFile parse toLowercase (.content text) = .ok s →
      (file.trustedDevices.map TrustedDevice.deviceId).Nodup →
      ∀ device ∈ file.trustedDevices, ∀ now, device.revokedAtUnixMs = none →
        now ≤ device.expiresAtUnixMs →
        (s.isTrusted toLowercase device.deviceId device.certificateFingerprintSha256 now = true ↔
          normalizeFingerprint toLowercase device.certificateFingerprintSha256 =
            device.certificateFingerprintSha256)) := by
  refine ⟨?_, ?_⟩
  · intro s listing hasParent fault text reachable order saved codec
    rw [← saveTrustedDevicesToFile_text saved] at codec
    obtain ⟨s', hload, hsame⟩ := load_saved (reachable.sound lower) order codec
    refine ⟨s', hload, ?_⟩
    intro deviceId fingerprint now
    simp only [isTrusted, hsame]
  · intro text file s hfile hload distinct device hmem now revoked live
    obtain ⟨devices, hdevices, hfold⟩ := load_content.mp hload
    rw [hdevices] at hfile
    cases hfile
    exact isTrusted_listed hfold distinct hmem revoked live

section

def alicePhone (certificateFingerprintSha256 : String) : TrustedDevice :=
  ⟨"alice-phone", "Alice's phone", certificateFingerprintSha256, 1000, 9000, none⟩

/-- A parser that knows the one file that lists Alice's phone. -/
def aliceFile (fingerprint : String) (_ : String) : Option Value :=
  some (CompanionTrustStoreFile.toJson ⟨trustStoreSchemaVersion, [alicePhone fingerprint]⟩)

def aliceStore (fingerprint : String) : CompanionTrustStore :=
  { CompanionTrustStore.empty with trustedDevices :=
    CompanionTrustStore.empty.trustedDevices.insert "alice-phone" (alicePhone fingerprint) }

open CompanionTrustStore in
theorem trust_file_iff_alice :
    (∃ s', loadTrustedDevicesFromFile (aliceFile lowerFingerprint) (fun c => [c.toLower])
        (.content "trusted") = .ok s' ∧
      ∀ deviceId fingerprint now, s'.isTrusted (fun c => [c.toLower]) deviceId fingerprint now =
        (aliceStore lowerFingerprint).isTrusted (fun c => [c.toLower]) deviceId fingerprint now) ∧
    (aliceStore lowerFingerprint).isTrusted (fun c => [c.toLower]) "alice-phone" lowerFingerprint
      9000 = true := by
  have law := trust_file_iff (fun _ => "trusted") (aliceFile lowerFingerprint)
    (fun c => [c.toLower]) (fun _ _ => rfl)
  have loaded : loadTrustedDevicesFromFile (aliceFile lowerFingerprint) (fun c => [c.toLower])
      (.content "trusted") = .ok (aliceStore lowerFingerprint) := by rfl
  have values : (aliceStore lowerFingerprint).trustedDevices.values =
      [alicePhone lowerFingerprint] := by rfl
  refine ⟨law.1 _ [alicePhone lowerFingerprint] true none "trusted" ⟨_, _, [], loaded, rfl⟩ ?_ rfl rfl,
    ?_⟩
  · rw [values]
  · refine (law.2 "trusted" ⟨trustStoreSchemaVersion, [alicePhone lowerFingerprint]⟩ _ ?_ loaded
      (List.nodup_singleton _) _ (List.mem_singleton.mpr rfl) 9000 rfl ?_).mpr ?_
    · exact CompanionTrustStoreFile.ofJson_toJson _
    · decide
    · decide

open CompanionTrustStore in
/-- A file that gives the fingerprint in upper case is accepted, and its device is not trusted under
that fingerprint. -/
theorem upper_case_distrusted :
    loadTrustedDevicesFromFile (aliceFile upperFingerprint) (fun c => [c.toLower])
        (.content "trusted") = .ok (aliceStore upperFingerprint) ∧
    ¬ ∀ device ∈ [alicePhone upperFingerprint], ∀ now, device.revokedAtUnixMs = none →
      now ≤ device.expiresAtUnixMs →
      (aliceStore upperFingerprint).isTrusted (fun c => [c.toLower]) device.deviceId
        device.certificateFingerprintSha256 now = true := by
  refine ⟨by rfl, ?_⟩
  intro h
  have trusted := h _ (List.mem_singleton.mpr rfl) 9000 rfl (by decide)
  revert trusted
  decide

end

end AdbControl.Companion
