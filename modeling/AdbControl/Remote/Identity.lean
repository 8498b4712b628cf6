import AdbControl.Framework.Text

namespace AdbControl.Remote

open Framework

/-- The mDNS suffix of a wireless ADB serial. -/
def mdnsSuffix : List Char := "._adb-tls-connect._tcp".toList

/-- The service name of a wireless serial, without the ` (n)` that mDNS appends when a name is
taken. A service name with ` (` in it that does not end in `)` has no identity. -/
def normalizedMdnsServiceIdentity (value : String) : Option (List Char) :=
  match value.toList.dropSuffix? mdnsSuffix with
  | none => none
  | some service =>
    let whole := if service.isEmpty then none else some service
    match rfind " (".toList service with
    | none => whole
    | some opening =>
      match service.dropSuffix? [')'] with
      | none => none
      | some closed =>
        if closed.length < opening + 2 then none
        else if (closed.drop (opening + 2)).isEmpty then whole
        else if (closed.drop (opening + 2)).all isAsciiDigit then some (service.take opening)
        else whole

/-- Two serials mean the same handset: equal, or wireless with the same service name. -/
def sameRemoteDeviceIdentity (left right : String) : Bool :=
  left == right ||
    match normalizedMdnsServiceIdentity left, normalizedMdnsServiceIdentity right with
    | some l, some r => l == r
    | _, _ => false

theorem sameRemoteDeviceIdentity_iff (left right : String) :
    sameRemoteDeviceIdentity left right = true ↔
      left = right ∨ ∃ service, normalizedMdnsServiceIdentity left = some service ∧
        normalizedMdnsServiceIdentity right = some service := by
  unfold sameRemoteDeviceIdentity
  rw [Bool.or_eq_true, beq_iff_eq]
  cases hl : normalizedMdnsServiceIdentity left with
  | none => simp
  | some l =>
    cases hr : normalizedMdnsServiceIdentity right with
    | none => simp
    | some r => simp [eq_comm (a := l)]

theorem sameRemoteDeviceIdentity_refl (d : String) : sameRemoteDeviceIdentity d d = true :=
  (sameRemoteDeviceIdentity_iff d d).mpr (Or.inl rfl)

theorem sameRemoteDeviceIdentity_symm {d e : String} (h : sameRemoteDeviceIdentity d e = true) :
    sameRemoteDeviceIdentity e d = true := by
  rw [sameRemoteDeviceIdentity_iff] at h ⊢
  rcases h with rfl | ⟨service, hd, he⟩
  · exact Or.inl rfl
  · exact Or.inr ⟨service, he, hd⟩

theorem sameRemoteDeviceIdentity_trans {d e f : String}
    (hde : sameRemoteDeviceIdentity d e = true) (hef : sameRemoteDeviceIdentity e f = true) :
    sameRemoteDeviceIdentity d f = true := by
  rw [sameRemoteDeviceIdentity_iff] at hde hef ⊢
  rcases hde with rfl | ⟨service, hd, he⟩
  · exact hef
  rcases hef with rfl | ⟨service', he', hf⟩
  · exact Or.inr ⟨service, hd, he⟩
  · rw [he] at he'
    cases he'
    exact Or.inr ⟨service, hd, hf⟩

/-- The serial of an online row of `adb devices -l`: the words before the first state word, when
that word is `device`. -/
def parseAdbDeviceId (line : List Char) : Option String :=
  let fields := splitWhitespace line
  let isState (field : List Char) : Bool :=
    field == "device".toList || field == "offline".toList || field == "unauthorized".toList
  match fields.findIdx? isState with
  | none => none
  | some stateIndex =>
    if 0 < stateIndex && fields[stateIndex]? == some "device".toList then
      some (String.ofList ([' '].intercalate (fields.take stateIndex)))
    else none

example : sameRemoteDeviceIdentity "adb-R3CR70SJHHR-2VyQ5v (2)._adb-tls-connect._tcp"
    "adb-R3CR70SJHHR-2VyQ5v._adb-tls-connect._tcp" = true := by decide

example : (lines "List of devices attached\ndevice-1 device product:x\nd2 offline\n".toList).filterMap
    parseAdbDeviceId = ["device-1"] := by decide

end AdbControl.Remote
