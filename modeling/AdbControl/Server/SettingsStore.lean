import AdbControl.Framework.Run

namespace AdbControl.Server

open Framework

structure AIModel where
  id : String
  name : String
  baseURL : String
  model : String
  apiKey : String
  vision : Bool
  deriving DecidableEq, Repr

structure Settings where
  theme : String
  language : String
  refreshSeconds : Int
  screenFPS : Int
  aiModels : List AIModel
  defaultModelID : String
  remoteEnabled : Bool
  remoteAddress : String
  remotePort : Int
  deriving DecidableEq, Repr

/-- The settings where there is no file. -/
def Settings.initial : Settings where
  theme := "system"
  language := "zh-CN"
  refreshSeconds := 5
  screenFPS := 2
  aiModels := []
  defaultModelID := ""
  remoteEnabled := false
  remoteAddress := "0.0.0.0"
  remotePort := 45921

def mask : String := "••••••••"

/-- The store, and the settings in its file. -/
structure SettingsStore where
  file : Option Settings
  data : Settings
  deriving DecidableEq

/-- Which of the calls to the file system succeed. -/
structure Disk where
  makes : Bool
  writes : Bool
  renames : Bool
  deriving DecidableEq, Repr

inductive SaveError
  | invalid (text : String)
  | makeDirectory
  | writeTemporary
  | rename
  deriving DecidableEq, Repr

def Settings.portValid (data : Settings) : Bool := 1024 ≤ data.remotePort && data.remotePort ≤ 65535

/-- What `Save` puts in the place of values that are out of range. -/
def Settings.completed (data : Settings) : Settings :=
  { data with
    refreshSeconds := if data.refreshSeconds < 1 then 5 else data.refreshSeconds
    screenFPS := if data.screenFPS < 1 ∨ data.screenFPS > 10 then 2 else data.screenFPS
    remoteAddress := if data.remoteAddress = "" then "0.0.0.0" else data.remoteAddress }

/-- A masked key is left to what is stored: every stored model with the id is taken in its turn. -/
def restoreKey (stored : List AIModel) (model : AIModel) : AIModel :=
  if model.apiKey ≠ mask then model
  else
    stored.foldl (fun model existing =>
      if existing.id = model.id then { model with apiKey := existing.apiKey } else model) model

namespace SettingsStore

/-- `Open`, with what the file holds. -/
def openStore (file : Option Settings) : SettingsStore := ⟨file, file.getD .initial⟩

def get (store : SettingsStore) (includeSecrets : Bool) : Settings :=
  { store.data with
    aiModels := store.data.aiModels.map fun model =>
      if !includeSecrets && model.apiKey != "" then { model with apiKey := mask } else model }

def save (store : SettingsStore) (disk : Disk) (data : Settings) :
    SettingsStore × Except SaveError Unit :=
  let data := data.completed
  if data.portValid = false then
    (store, .error (.invalid "remote port must be between 1024 and 65535"))
  else
    let data := { data with aiModels := data.aiModels.map (restoreKey store.data.aiModels) }
    if disk.makes = false then (store, .error .makeDirectory)
    else if disk.writes = false then (store, .error .writeTemporary)
    else if disk.renames = false then (store, .error .rename)
    else (⟨some data, data⟩, .ok ())

end SettingsStore

/-- A model as a client submits it, and the place of the model in what it was given that this is an
edited copy of, if it is one. -/
structure Entry where
  origin : Option Nat
  model : AIModel

/-- An edited copy of what `Get(false)` gives. -/
structure Edit where
  settings : Settings
  entries : List Entry

def Edit.data (edit : Edit) : Settings :=
  { edit.settings with aiModels := edit.entries.map Entry.model }

/-- The stored model that the entry is a copy of -/
def Entry.stored (stored : List AIModel) (entry : Entry) : Option AIModel :=
  entry.origin.bind fun i => stored[i]?

inductive SettingsAct
  | save (disk : Disk) (edit : Edit)
  | reopen

namespace SettingsStore

def step (store : SettingsStore) : SettingsAct → SettingsStore
  | .save disk edit => (store.save disk edit.data).1
  | .reopen => .openStore store.file

end SettingsStore

/-- What a save that succeeds is to make of an entry -/
structure Entry.Kept (stored : List AIModel) (entry : Entry) (saved : AIModel) : Prop where
  restored : entry.model.apiKey = mask → ∀ origin ∈ entry.stored stored, saved.apiKey = origin.apiKey
  unmasked : saved.apiKey ≠ mask
  submitted : entry.model.apiKey ≠ mask → saved = entry.model
  same : { saved with apiKey := entry.model.apiKey } = entry.model

/-- The keys survive a save, and a save that fails changes nothing. -/
def SettingsStore.Preserves (store : SettingsStore) : SettingsAct → Prop
  | .save disk edit =>
    match store.save disk edit.data with
    | (saved, .ok ()) =>
      List.Forall₂ (Entry.Kept store.data.aiModels) edit.entries saved.data.aiModels
    | (saved, .error _) => saved = store
  | .reopen => SettingsStore.openStore store.file = store

/-- The key of the last stored model with the id -/
def storedKey (stored : List AIModel) (id : String) : Option String :=
  ((stored.filter fun model => decide (model.id = id)).getLast?).map AIModel.apiKey

/-- A masked entry has the id of a stored model, and the last of those has the key of the model that
the entry is a copy of. -/
def Entry.Restorable (stored : List AIModel) (entry : Entry) : Prop :=
  entry.model.apiKey = mask → ∃ key, storedKey stored entry.model.id = some key ∧
    ∀ origin ∈ entry.stored stored, origin.apiKey = key

/-- All entries of a save that gets to the file are restorable. -/
def SettingsStore.Restores (store : SettingsStore) : SettingsAct → Prop
  | .save disk edit => edit.data.portValid = true → disk = ⟨true, true, true⟩ →
    ∀ entry ∈ edit.entries, entry.Restorable store.data.aiModels
  | .reopen => True

section

variable {stored : List AIModel} {store : SettingsStore}

/-- Of all stored models with the id the last gives its key. -/
theorem restoreKey_masked {model : AIModel} (h : model.apiKey = mask) :
    restoreKey stored model =
      { model with apiKey := (storedKey stored model.id).getD mask } := by
  have fold (stored : List AIModel) (model : AIModel) :
      stored.foldl (fun model existing =>
        if existing.id = model.id then { model with apiKey := existing.apiKey } else model) model =
      { model with apiKey := (storedKey stored model.id).getD model.apiKey } := by
    induction stored generalizing model with
    | nil => rfl
    | cons existing stored ih =>
      rw [List.foldl_cons, ih, storedKey, storedKey]
      by_cases hid : existing.id = model.id
      · rw [if_pos hid, List.filter_cons_of_pos (by simpa using hid), List.getLast?_cons]
        cases (stored.filter fun m => decide (m.id = model.id)).getLast? <;> rfl
      · rw [if_neg hid, List.filter_cons_of_neg (by simpa using hid)]
  rw [restoreKey, if_neg (not_not.mpr h), fold, h]

theorem restoreKey_other {model : AIModel} (h : model.apiKey ≠ mask) :
    restoreKey stored model = model := if_pos h

theorem storedKey_mem {id key : String} (h : storedKey stored id = some key) :
    ∃ model ∈ stored, model.apiKey = key := by
  obtain ⟨model, hlast, hkey⟩ := Option.map_eq_some_iff.mp h
  exact ⟨model, List.mem_of_mem_filter (List.mem_of_getLast? hlast), hkey⟩

/-- Where the ids are distinct, it is the model with the id. -/
theorem storedKey_of_mem {model : AIModel} (ids : (stored.map AIModel.id).Nodup)
    (h : model ∈ stored) : storedKey stored model.id = some model.apiKey := by
  have found : model ∈ stored.filter fun other => decide (other.id = model.id) :=
    List.mem_filter.mpr ⟨h, by simp⟩
  rw [storedKey]
  cases hlast : (stored.filter fun other => decide (other.id = model.id)).getLast? with
  | none =>
    rw [List.getLast?_eq_none_iff.mp hlast] at found
    cases found
  | some last =>
    obtain ⟨hmem, hid⟩ := List.mem_filter.mp (List.mem_of_getLast? hlast)
    have same := List.inj_on_of_nodup_map ids hmem h (of_decide_eq_true hid)
    rw [same]
    rfl

/-- Where no stored key is the mask, an entry comes out right exactly when it is restorable. -/
theorem kept_iff {entry : Entry} (h : ∀ model ∈ stored, model.apiKey ≠ mask) :
    entry.Kept stored (restoreKey stored entry.model) ↔ entry.Restorable stored := by
  by_cases hmask : entry.model.apiKey = mask
  · rw [restoreKey_masked hmask]
    constructor
    · intro hkept _
      cases hkey : storedKey stored entry.model.id with
      | none =>
        have := hkept.unmasked
        rw [hkey] at this
        exact (this rfl).elim
      | some key =>
        refine ⟨key, rfl, ?_⟩
        intro origin horigin
        have := hkept.restored hmask origin horigin
        rw [hkey] at this
        exact this.symm
    · intro hrestorable
      obtain ⟨key, hkey, horigins⟩ := hrestorable hmask
      obtain ⟨model, hmodel, hkey'⟩ := storedKey_mem hkey
      rw [hkey]
      refine ⟨?_, ?_, (absurd hmask ·), ?_⟩
      · intro _ origin horigin
        exact (horigins origin horigin).symm
      · rw [← hkey']
        exact h model hmodel
      · rfl
  · rw [restoreKey_other hmask]
    constructor
    · intro _ hmask'
      exact absurd hmask' hmask
    · intro _
      exact ⟨(absurd · hmask), hmask, fun _ => rfl, rfl⟩

/-- The entries of a save come out one by one. -/
theorem forall₂_kept_iff {edit : Edit} {models : List AIModel}
    (h : models = edit.data.aiModels.map (restoreKey stored)) :
    List.Forall₂ (Entry.Kept stored) edit.entries models ↔
      ∀ entry ∈ edit.entries, entry.Kept stored (restoreKey stored entry.model) := by
  rw [h, Edit.data, List.map_map, List.forall₂_map_right_iff, List.forall₂_same]
  rfl

namespace SettingsStore

/-- A save fails and changes nothing, or it puts the settings with the keys in the file and the
store. -/
theorem save_cases (store : SettingsStore) (disk : Disk) (data : Settings) :
    (¬(data.portValid = true ∧ disk = ⟨true, true, true⟩) ∧
      ∃ e, store.save disk data = (store, .error e)) ∨
    ((data.portValid = true ∧ disk = ⟨true, true, true⟩) ∧ ∃ saved : Settings,
      saved.aiModels = data.aiModels.map (restoreKey store.data.aiModels) ∧
        store.save disk data = (⟨some saved, saved⟩, .ok ())) := by
  obtain ⟨makes, writes, renames⟩ := disk
  have port : data.completed.portValid = data.portValid := rfl
  unfold save
  simp only [port]
  cases hport : data.portValid with
  | false => exact Or.inl ⟨nofun, _, rfl⟩
  | true =>
    cases makes with
    | false => exact Or.inl ⟨nofun, _, rfl⟩
    | true =>
      cases writes with
      | false => exact Or.inl ⟨nofun, _, rfl⟩
      | true =>
        cases renames with
        | false => exact Or.inl ⟨nofun, _, rfl⟩
        | true => exact Or.inr ⟨⟨rfl, rfl⟩, _, rfl, rfl⟩

/-- What holds of the store at any time that no key was lost: its settings are those of the file, and
no key is the mask. -/
structure Sound (store : SettingsStore) : Prop where
  file : openStore store.file = store
  unmasked : ∀ model ∈ store.data.aiModels, model.apiKey ≠ mask

theorem sound_step (h : store.Sound) {act : SettingsAct} (hpreserves : store.Preserves act) :
    (store.step act).Sound := by
  cases act with
  | reopen =>
    rw [step, h.file]
    exact h
  | save disk edit =>
    rw [step]
    simp only [Preserves] at hpreserves
    rcases save_cases store disk edit.data with ⟨-, e, he⟩ | ⟨-, saved, hmodels, he⟩
    · rw [he]
      exact h
    · simp only [he] at hpreserves ⊢
      refine ⟨rfl, ?_⟩
      intro model hmodel
      rw [hmodels, Edit.data, List.map_map] at hmodel
      obtain ⟨entry, hentry, rfl⟩ := List.mem_map.mp hmodel
      exact ((forall₂_kept_iff hmodels).mp hpreserves entry hentry).unmasked

/-- A step preserves the keys exactly when its entries are restorable. -/
theorem preserves_iff (h : store.Sound) (act : SettingsAct) :
    store.Preserves act ↔ store.Restores act := by
  cases act with
  | reopen => exact iff_of_true h.file trivial
  | save disk edit =>
    simp only [Preserves, Restores]
    rcases save_cases store disk edit.data with ⟨hfails, e, he⟩ | ⟨⟨hport, hdisk⟩, saved, hmodels, he⟩
    · simp only [he]
      exact iff_of_true trivial fun hport hdisk => (hfails ⟨hport, hdisk⟩).elim
    · simp only [he]
      refine (forall₂_kept_iff hmodels).trans ?_
      constructor
      · intro hkept _ _ entry hentry
        exact (kept_iff h.unmasked).mp (hkept entry hentry)
      · intro hrestores entry hentry
        exact (kept_iff h.unmasked).mpr (hrestores hport hdisk entry hentry)

/-- From the first start on, every save preserves the keys exactly when all entries of all saves are
restorable. -/
theorem keys_preserved_iff (acts : List SettingsAct) :
    Along step Preserves (openStore none) acts ↔ Along step Restores (openStore none) acts := by
  apply along_congr Sound
  · intro store act h hpreserves
    exact sound_step h hpreserves
  · intro store act h
    exact preserves_iff h act
  · exact ⟨rfl, nofun⟩

/-- Where the stored ids are distinct, what `Get(false)` gives has all keys back when it is saved as
it is. -/
theorem restoreKey_get (h : store.Sound) (ids : (store.data.aiModels.map AIModel.id).Nodup) :
    (store.get false).aiModels.map (restoreKey store.data.aiModels) = store.data.aiModels := by
  rw [get, List.map_map]
  conv_rhs => rw [← List.map_id store.data.aiModels]
  apply List.map_congr_left
  intro model hmodel
  simp only [Function.comp_apply, Bool.not_false, Bool.true_and, bne_iff_ne, ne_eq, id_eq]
  by_cases hempty : model.apiKey = ""
  · rw [if_neg (not_not.mpr hempty)]
    exact restoreKey_other (h.unmasked model hmodel)
  · rw [if_pos hempty, restoreKey_masked rfl, storedKey_of_mem ids hmodel]
    rfl

end SettingsStore

end

section Renamed

private def keyed (id apiKey : String) : AIModel where
  id := id
  name := "model"
  baseURL := "https://localhost/v1"
  model := "m"
  apiKey := apiKey
  vision := false

private def saveModels (entries : List Entry) : SettingsAct :=
  .save ⟨true, true, true⟩ ⟨.initial, entries⟩

/-- A model is saved with its key, and then its masked copy under another id: the mask becomes the
key. -/
theorem renamed_key_lost : ¬∀ acts : List SettingsAct,
    Along SettingsStore.step SettingsStore.Preserves (SettingsStore.openStore none) acts := by
  intro h
  have last := (h [saveModels [⟨none, keyed "a" "sk-1"⟩],
    saveModels [⟨some 0, keyed "b" mask⟩]]).2.1
  have saved := List.forall₂_cons.mp last
  exact saved.1.unmasked rfl

end Renamed

end AdbControl.Server
