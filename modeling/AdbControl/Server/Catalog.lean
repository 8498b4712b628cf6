import AdbControl.Framework.Classes
import AdbControl.Framework.Matching
import AdbControl.Framework.Run
import AdbControl.Server.Device

namespace AdbControl.Server

open Framework

/-- `appendUnique`: the non-empty values, each where it comes first. -/
def appendUnique (values additions : List String) : List String :=
  (values ++ additions).foldl
    (fun result value => if value = "" ∨ value ∈ result then result else result ++ [value]) []

def aliasesWithoutPrimary (primary : String) (aliases : List String) : List String :=
  aliases.filter (fun other => other != primary)

/-- A device's id, then its aliases. -/
def Device.ids (device : Device) : List String := device.id :: device.aliases

def sameCatalogDevice (left right : Device) : Bool :=
  if left.hardwareID ≠ "" ∧ right.hardwareID ≠ "" ∧ left.hardwareID = right.hardwareID then true
  else left.ids.any (fun leftID => right.ids.any (fun rightID => equivalentDeviceID leftID rightID))

def Device.offline (device : Device) : Device := { device with state := "offline" }

/-- A remembered card, taken over by a live device. -/
def mergeDevice (remembered current : Device) : Device :=
  { current with
    name :=
      if (current.name = "" ∨ current.name = current.id) ∧ remembered.name ≠ "" ∧
          remembered.name ≠ remembered.id then remembered.name
      else current.name
    model := if current.model = "" then remembered.model else current.model
    product := if current.product = "" then remembered.product else current.product
    hardwareID := if current.hardwareID = "" then remembered.hardwareID else current.hardwareID
    remark := remembered.remark
    aliases := aliasesWithoutPrimary current.id
      (appendUnique (appendUnique current.aliases [remembered.id]) remembered.aliases) }

/-- The first live device that is not matched yet and is the same as the card, and the live
devices with it marked as matched. -/
def takeLive (remembered : Device) : List (Device × Bool) → Option (Device × List (Device × Bool))
  | [] => none
  | (current, matched) :: rest =>
    if matched || !sameCatalogDevice remembered current then
      (takeLive remembered rest).map (fun taken => (taken.1, (current, matched) :: taken.2))
    else some (current, (current, true) :: rest)

/-- The loop over the remembered cards. -/
def mergeCards : List Device → List (Device × Bool) → List Device × List (Device × Bool)
  | [], live => ([], live)
  | remembered :: rest, live =>
    match takeLive remembered live with
    | none =>
      let merged := mergeCards rest live
      (remembered.offline :: merged.1, merged.2)
    | some (current, live) =>
      let merged := mergeCards rest live
      (mergeDevice remembered current :: merged.1, merged.2)

/-- The merged list: the cards, then the live devices that none of them took. -/
def mergeDevices (remembered live : List Device) : List Device :=
  let merged := mergeCards remembered (live.map (fun current => (current, false)))
  merged.1 ++ (merged.2.filter (fun current => !current.2)).map Prod.fst

/-- The device directory. `allocated` says that the slice of devices is not nil, which
`reflect.DeepEqual` tells from an empty one; `file` is what the file at `path` holds. -/
structure Catalog where
  path : String
  devices : List Device
  allocated : Bool
  file : Option (List Device)
  deriving DecidableEq

/-- Which of its system calls succeed while a catalog is saved. -/
structure SaveOutcome where
  mkdirAll : Bool
  writeFile : Bool
  rename : Bool
  /-- the old file is removed, or was not there -/
  remove : Bool
  renameAgain : Bool
  deriving DecidableEq, Repr

/-- A save into the file at the path is carried out; without a path there is nothing to do. -/
def SaveOutcome.succeeds (io : SaveOutcome) (path : String) : Bool :=
  path == "" || io.mkdirAll && io.writeFile && (io.rename || io.remove && io.renameAgain)

inductive SaveFailed
  | saveFailed
  deriving DecidableEq, Repr

namespace Catalog

def newMemoryCatalog : Catalog := ⟨"", [], false, none⟩

/-- `OpenCatalog` on the file that holds the devices, if there is one. -/
def openCatalog (path : String) (file : Option (List Device)) : Catalog :=
  match file with
  | none => ⟨path, [], false, none⟩
  | some devices => ⟨path, devices.map Device.offline, true, some devices⟩

/-- `saveLocked`: what the file holds afterwards, and whether the devices are saved. -/
def saveLocked (c : Catalog) (io : SaveOutcome) (devices : List Device) :
    Option (List Device) × Bool :=
  if c.path = "" then (c.file, true)
  else if !io.mkdirAll || !io.writeFile then (c.file, false)
  else if io.rename then (some devices, true)
  else if !io.remove then (c.file, false)
  else if io.renameAgain then (some devices, true)
  else (none, false)

def merge (c : Catalog) (io : SaveOutcome) (live : List Device) :
    Catalog × Except SaveFailed (List Device) :=
  let result := mergeDevices c.devices live
  let stored := result.map Device.offline
  if c.allocated ∧ stored = c.devices then (c, .ok result)
  else
    match c.saveLocked io stored with
    | (file, false) => ({ c with file }, .error .saveFailed)
    | (file, true) => ({ c with devices := stored, allocated := true, file }, .ok result)

/-- The test by which `SetRemark` and `Remove` find a card. -/
def isCard (deviceID : String) (candidate : Device) : Bool :=
  candidate.id == deviceID || candidate.aliases.contains deviceID ||
    equivalentDeviceID candidate.id deviceID

/-- The first card found gets the remark. -/
def setRemark (c : Catalog) (io : SaveOutcome) (deviceID remark : String) :
    Catalog × Except SaveFailed (Option Device) :=
  match c.devices.findIdx? (isCard deviceID) with
  | none => (c, .ok none)
  | some index =>
    let updated := { c.devices.getD index {} with remark }
    let devices := c.devices.set index updated
    match c.saveLocked io devices with
    | (file, false) => ({ c with file }, .error .saveFailed)
    | (file, true) => ({ c with devices, file }, .ok (some updated))

/-- The first card found is removed. -/
def remove (c : Catalog) (io : SaveOutcome) (deviceID : String) :
    Catalog × Except SaveFailed (Option Device) :=
  match c.devices.find? (isCard deviceID) with
  | none => (c, .ok none)
  | some removed =>
    let remaining := c.devices.eraseP (isCard deviceID)
    match c.saveLocked io remaining with
    | (file, false) => ({ c with file }, .error .saveFailed)
    | (file, true) => ({ c with devices := remaining, file }, .ok (some removed))

end Catalog

/-- One call of the catalog. -/
inductive CatalogOp
  | merge (io : SaveOutcome) (live : List Device)
  | setRemark (io : SaveOutcome) (deviceID remark : String)
  | remove (io : SaveOutcome) (deviceID : String)

def CatalogOp.step (c : Catalog) : CatalogOp → Catalog
  | merge io live => (c.merge io live).1
  | setRemark io deviceID remark => (c.setRemark io deviceID remark).1
  | remove io deviceID => (c.remove io deviceID).1

theorem appendUnique_eq (values additions : List String) :
    appendUnique values additions =
      ((values ++ additions).filter (fun value => value != "")).eraseDups := by
  have added := @Classes.foldl_addNew String String (· == ·) (fun h => beq_iff_eq.mpr (beq_iff_eq.mp h).symm)
    id (· == ·) (fun _ _ => rfl) ((values ++ additions).filter (fun value => value != ""))
  rw [List.map_id, List.foldl_filter] at added
  rw [List.eraseDups, ← added, appendUnique]
  congr 1
  funext result value
  by_cases he : value = ""
  · simp [he]
  · simp [he, Classes.addNew]

theorem mem_appendUnique {values additions : List String} {x : String} :
    x ∈ appendUnique values additions ↔ x ≠ "" ∧ (x ∈ values ∨ x ∈ additions) := by
  rw [appendUnique_eq, List.mem_eraseDups, List.mem_filter, List.mem_append]
  simp [and_comm]

theorem mem_aliasesWithoutPrimary {primary : String} {aliases : List String} {x : String} :
    x ∈ aliasesWithoutPrimary primary aliases ↔ x ∈ aliases ∧ x ≠ primary := by
  simp [aliasesWithoutPrimary]

@[simp] theorem offline_ids (device : Device) : device.offline.ids = device.ids := rfl

/-- The ids of a card that a live device takes over: the live device's, and all but an empty one
of the card's. -/
theorem mem_mergeDevice_ids {remembered current : Device} {x : String} :
    x ∈ (mergeDevice remembered current).ids ↔
      x = current.id ∨ x ≠ "" ∧ (x ∈ current.aliases ∨ x ∈ remembered.ids) := by
  simp only [Device.ids, mergeDevice, List.mem_cons, mem_aliasesWithoutPrimary, mem_appendUnique]
  by_cases hx : x = current.id
  · simp [hx]
  · simp only [hx, false_or]
    by_cases he : x = ""
    · simp [he]
    · simp [hx, he, or_assoc]

/-- The live devices that are not matched yet. -/
def freeOf (live : List (Device × Bool)) : List Device :=
  (live.filter (fun current => !current.2)).map Prod.fst

/-- Taking a live device is taking the first free one that is the same. -/
theorem takeLive_spec (remembered : Device) (live : List (Device × Bool)) :
    match takeLive remembered live with
    | none => (freeOf live).find? (sameCatalogDevice remembered) = none
    | some taken => (freeOf live).find? (sameCatalogDevice remembered) = some taken.1 ∧
        freeOf taken.2 = (freeOf live).eraseP (sameCatalogDevice remembered) := by
  induction live with
  | nil => rfl
  | cons head rest ih =>
    obtain ⟨current, matched⟩ := head
    rw [takeLive]
    cases matched with
    | true =>
      simp only [Bool.true_or, if_true]
      cases htake : takeLive remembered rest with
      | none =>
        rw [htake] at ih
        simpa [freeOf] using ih
      | some taken =>
        rw [htake] at ih
        simpa [freeOf] using ih
    | false =>
      have hfree : freeOf ((current, false) :: rest) = current :: freeOf rest := rfl
      cases hsame : sameCatalogDevice remembered current with
      | true =>
        simp only [Bool.false_or, Bool.not_true, Bool.false_eq_true, if_false, hfree]
        rw [List.find?_cons_of_pos hsame, List.eraseP_cons_of_pos hsame]
        exact ⟨rfl, rfl⟩
      | false =>
        have hneg : ¬sameCatalogDevice remembered current = true := by simp [hsame]
        simp only [Bool.false_or, Bool.not_false, if_true, hfree]
        rw [List.find?_cons_of_neg hneg, List.eraseP_cons_of_neg hneg]
        cases htake : takeLive remembered rest with
        | none =>
          rw [htake] at ih
          exact ih
        | some taken =>
          rw [htake] at ih
          refine ⟨ih.1, ?_⟩
          show freeOf ((current, false) :: taken.2) = _
          rw [← ih.2]
          rfl

/-- A card as it is returned: with the live device that takes it over, or offline. -/
def cardOf : Device × Option Device → Device
  | (remembered, some current) => mergeDevice remembered current
  | (remembered, none) => remembered.offline

/-- Which live device takes which card over, and the live devices left. -/
def takeovers (remembered live : List Device) : List (Device × Option Device) × List Device :=
  greedy sameCatalogDevice remembered live

theorem mergeCards_eq (remembered : List Device) (live : List (Device × Bool)) :
    (mergeCards remembered live).1 = (takeovers remembered (freeOf live)).1.map cardOf ∧
      freeOf (mergeCards remembered live).2 = (takeovers remembered (freeOf live)).2 := by
  induction remembered generalizing live with
  | nil => exact ⟨rfl, rfl⟩
  | cons card rest ih =>
    have spec := takeLive_spec card live
    rw [mergeCards, takeovers, greedy]
    cases htake : takeLive card live with
    | none =>
      rw [htake] at spec
      simp only [spec, List.map_cons, cardOf]
      exact ⟨by rw [(ih live).1]; rfl, (ih live).2⟩
    | some taken =>
      rw [htake] at spec
      obtain ⟨found, left⟩ := spec
      simp only [found, List.map_cons, cardOf, ← left]
      exact ⟨by rw [(ih taken.2).1]; rfl, (ih taken.2).2⟩

/-- The merged list, by who takes over what. -/
theorem mergeDevices_eq (remembered live : List Device) :
    mergeDevices remembered live =
      (takeovers remembered live).1.map cardOf ++ (takeovers remembered live).2 := by
  have hfree : freeOf (live.map (fun current => (current, false))) = live := by
    simp [freeOf, List.filter_map, Function.comp_def]
  have h := mergeCards_eq remembered (live.map (fun current => (current, false)))
  rw [hfree] at h
  rw [mergeDevices, h.1, ← h.2]
  rfl

namespace Catalog

/-- A catalog with a file of its own is saved into it, or its save fails. -/
theorem saveLocked_saved {c : Catalog} {io : SaveOutcome} {devices : List Device}
    {file : Option (List Device)} (h : c.saveLocked io devices = (file, true))
    (hpath : c.path ≠ "") : file = some devices := by
  simp only [saveLocked, if_neg hpath] at h
  split_ifs at h <;> simp_all

theorem saveLocked_succeeds (c : Catalog) (io : SaveOutcome) (devices : List Device) :
    (c.saveLocked io devices).2 = io.succeeds c.path := by
  obtain ⟨mkdirAll, writeFile, rename, remove, renameAgain⟩ := io
  simp only [saveLocked, SaveOutcome.succeeds]
  by_cases hpath : c.path = ""
  · simp [hpath]
  · cases mkdirAll <;> cases writeFile <;> cases rename <;> cases remove <;> cases renameAgain <;>
      simp [hpath]

/-- What a merge does: nothing is new, or the merged devices are saved and remembered, or the save
fails and nothing is remembered. -/
theorem merge_cases (c : Catalog) (io : SaveOutcome) (live : List Device) :
    let result := mergeDevices c.devices live
    (c.allocated = true ∧ result.map Device.offline = c.devices ∧ c.merge io live = (c, .ok result)) ∨
    (∃ file, c.saveLocked io (result.map Device.offline) = (file, true) ∧ c.merge io live =
      ({ c with devices := result.map Device.offline, allocated := true, file }, .ok result)) ∨
    ∃ file, c.saveLocked io (result.map Device.offline) = (file, false) ∧
      c.merge io live = ({ c with file }, .error .saveFailed) := by
  simp only [merge]
  generalize mergeDevices c.devices live = result
  by_cases hnew : c.allocated = true ∧ result.map Device.offline = c.devices
  · exact Or.inl ⟨hnew.1, hnew.2, if_pos hnew⟩
  · rw [if_neg hnew]
    cases hsave : c.saveLocked io (result.map Device.offline) with
    | mk file saved =>
      cases saved with
      | true => exact Or.inr (Or.inl ⟨file, rfl, rfl⟩)
      | false => exact Or.inr (Or.inr ⟨file, rfl, rfl⟩)

/-- A remark is given to one card, or no card changes. -/
theorem setRemark_cases (c : Catalog) (io : SaveOutcome) (deviceID remark : String) :
    (c.setRemark io deviceID remark).1.devices = c.devices ∨
    ∃ (index : Nat) (h : index < c.devices.length), (c.setRemark io deviceID remark).1.devices =
      c.devices.set index { c.devices[index] with remark } := by
  simp only [setRemark]
  cases hfind : c.devices.findIdx? (isCard deviceID) with
  | none => exact Or.inl rfl
  | some index =>
    have hindex : index < c.devices.length := (List.findIdx?_eq_some_iff_findIdx_eq.mp hfind).1
    simp only [List.getD_eq_getElem _ _ hindex]
    cases hsave : c.saveLocked io (c.devices.set index { c.devices[index] with remark }) with
    | mk file saved =>
      cases saved with
      | true => exact Or.inr ⟨index, hindex, rfl⟩
      | false => exact Or.inl rfl

/-- One card is removed, or no card changes. -/
theorem remove_cases (c : Catalog) (io : SaveOutcome) (deviceID : String) :
    (c.remove io deviceID).1.devices = c.devices ∨
    (c.remove io deviceID).1.devices = c.devices.eraseP (isCard deviceID) := by
  simp only [remove]
  cases c.devices.find? (isCard deviceID) with
  | none => exact Or.inl rfl
  | some removed =>
    simp only []
    cases c.saveLocked io (c.devices.eraseP (isCard deviceID)) with
    | mk file saved =>
      cases saved with
      | true => exact Or.inr rfl
      | false => exact Or.inl rfl

end Catalog

end AdbControl.Server
