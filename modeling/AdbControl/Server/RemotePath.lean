import AdbControl.Framework.CleanPath
import AdbControl.Framework.Outcome

namespace AdbControl.Server

open Framework

def sdcard : List (List Char) := ["sdcard".toList]

def emulatedStorage : List (List Char) := ["storage".toList, "emulated".toList, "0".toList]

/-- The place is in the storage that all apps of the device share. -/
def InSharedStorage (names : List (List Char)) : Prop :=
  sdcard <+: names ∨ emulatedStorage <+: names

/-- The place is in the shared storage, and not one of its roots. -/
def BelowSharedStorage (names : List (List Char)) : Prop :=
  InSharedStorage names ∧ names ≠ sdcard ∧ names ≠ emulatedStorage

def validateRemotePath (path : String) : Except String Unit :=
  if path.toList.head? ≠ some '/' ∨ path.toList.any (fun c => c ∈ ['\r', '\n', '\x00']) then
    .error "remote path must be absolute"
  else .ok ()

def validateUploadDirectory (remotePath : String) : Except String Unit := do
  validateRemotePath remotePath
  let cleaned := cleanPath remotePath.toList
  let allowed := cleaned = "/sdcard".toList ∨
    "/sdcard/".toList <+: cleaned ∨
    cleaned = "/storage/emulated/0".toList ∨
    "/storage/emulated/0/".toList <+: cleaned
  if ¬allowed then .error "file upload is limited to shared storage"
  else .ok ()

def validateMutableRemotePath (remotePath : String) : Except String Unit := do
  validateUploadDirectory remotePath
  let cleaned := cleanPath remotePath.toList
  if cleaned = "/sdcard".toList ∨ cleaned = "/storage/emulated/0".toList then
    .error "refusing to modify shared storage root"
  else .ok ()

theorem validateRemotePath_ok_iff {path : String} : validateRemotePath path = .ok () ↔
    path.toList.head? = some '/' ∧ ∀ c ∈ path.toList, c ∉ ['\r', '\n', '\x00'] := by
  have line : path.toList.any (fun c => c ∈ ['\r', '\n', '\x00']) = true ↔
      ¬∀ c ∈ path.toList, c ∉ ['\r', '\n', '\x00'] := by
    rw [List.any_eq_true]
    push Not
    simp only [decide_eq_true_eq]
  unfold validateRemotePath
  simp only [line]
  split_ifs with h
  · constructor
    · rintro ⟨⟩
    · rintro ⟨absolute, oneLine⟩
      exact absurd h (not_or.mpr ⟨not_not.mpr absolute, not_not.mpr oneLine⟩)
  · rw [not_or, not_not, not_not] at h
    exact ⟨fun _ => h, fun _ => rfl⟩

theorem cleanPath_of_valid {path : String} (h : validateRemotePath path = .ok ()) :
    cleanPath path.toList = rooted (place path.toList) :=
  if_pos (validateRemotePath_ok_iff.mp h).1

theorem isName_roots : (∀ name ∈ sdcard, IsName name) ∧ ∀ name ∈ emulatedStorage, IsName name := by
  unfold IsName
  decide

theorem rooted_roots : rooted sdcard = "/sdcard".toList ∧
    rooted emulatedStorage = "/storage/emulated/0".toList := by decide

/-- What the path in normal form begins with tells whether it leads into the shared storage. -/
theorem allowed_iff {names : List (List Char)} (h : ∀ name ∈ names, IsName name) :
    (rooted names = "/sdcard".toList ∨ "/sdcard/".toList <+: rooted names ∨
      rooted names = "/storage/emulated/0".toList ∨
      "/storage/emulated/0/".toList <+: rooted names) ↔ InSharedStorage names := by
  have first := within_iff h isName_roots.1 (by decide)
  have second := within_iff h isName_roots.2 (by decide)
  rw [rooted_roots.1] at first
  rw [rooted_roots.2] at second
  have below : "/sdcard/".toList = "/sdcard".toList ++ ['/'] ∧
      "/storage/emulated/0/".toList = "/storage/emulated/0".toList ++ ['/'] := by decide
  rw [below.1, below.2, InSharedStorage, ← first, ← second, or_assoc]

/-- The check accepts the paths that lead into the shared storage. -/
theorem validateUploadDirectory_ok_iff {path : String} : validateUploadDirectory path = .ok () ↔
    validateRemotePath path = .ok () ∧ InSharedStorage (place path.toList) := by
  have within := allowed_iff fun name (h : name ∈ place path.toList) => isName_of_mem_place h
  rw [validateUploadDirectory, bind_eq_ok]
  constructor
  · rintro ⟨⟨⟩, hvalid, hallowed⟩
    rw [← cleanPath_of_valid hvalid] at within
    simp only at hallowed
    split_ifs at hallowed with h
    exact ⟨hvalid, within.mp h⟩
  · rintro ⟨hvalid, hshared⟩
    rw [← cleanPath_of_valid hvalid] at within
    exact ⟨(), hvalid, if_neg (not_not.mpr (within.mpr hshared))⟩

/-- What may be changed lies strictly below a root of the shared storage. -/
theorem validateMutableRemotePath_ok_iff {path : String} :
    validateMutableRemotePath path = .ok () ↔
      validateRemotePath path = .ok () ∧ BelowSharedStorage (place path.toList) := by
  have whole : validateRemotePath path = .ok () →
      ((cleanPath path.toList = "/sdcard".toList ∨
          cleanPath path.toList = "/storage/emulated/0".toList) ↔
        (place path.toList = sdcard ∨ place path.toList = emulatedStorage)) := by
    intro hvalid
    have names : ∀ name ∈ place path.toList, IsName name := fun name h => isName_of_mem_place h
    have first := rooted_injective names isName_roots.1
    have second := rooted_injective names isName_roots.2
    rw [← cleanPath_of_valid hvalid] at first second
    rw [← first, ← second, rooted_roots.1, rooted_roots.2]
  rw [validateMutableRemotePath, bind_eq_ok]
  constructor
  · rintro ⟨⟨⟩, hupload, hroot⟩
    obtain ⟨hvalid, hshared⟩ := validateUploadDirectory_ok_iff.mp hupload
    simp only at hroot
    split_ifs at hroot with h
    rw [whole hvalid, not_or] at h
    exact ⟨hvalid, hshared, h⟩
  · rintro ⟨hvalid, hshared, hroots⟩
    refine ⟨(), validateUploadDirectory_ok_iff.mpr ⟨hvalid, hshared⟩, if_neg ?_⟩
    rw [whole hvalid, not_or]
    exact hroots

end AdbControl.Server
