import AdbControl.Framework.Classes
import AdbControl.Remote.Service

namespace AdbControl.Remote

open Framework

/-- A device entry of the core, as JSON has it: every member has a name of its own. -/
structure DeviceEntry where
  value : Value
  once : value.KeysOnce

namespace RemoteControlService

variable {registered : List Value} {ids : List String} {session : AuthenticatedSession}

/-- `registered_entry`: of the entries that are about the assigned device the last ready one, else
the last one. -/
def rememberedEntry (registered : List Value) (assignedId : String) : Option Value :=
  let known := registered.filter (fun device =>
    (deviceIdOf device).any (sameRemoteDeviceIdentity · assignedId))
  ((known.filter (fun device => connectionStateOf device == some "ready")).getLast?).or
    known.getLast?

/-- `display_id`: the first online serial of the device, else the one it is remembered by, else the
assigned one. -/
def displayId (registered : List Value) (ids : List String) (assignedId : String) : String :=
  ((ids.find? (sameRemoteDeviceIdentity assignedId)).or
    ((rememberedEntry registered assignedId).bind deviceIdOf)).getD assignedId

/-- The connection state of an entry is written over unless the entry has one of its own. -/
def reconnected (entry : Value) (online : Bool) : Value :=
  if (entry.get? "connectionState").isNone ∨
      connectionStateOf entry ∈ [some "adb", some "disconnected", some "offline"] then
    entry.set "connectionState" (.string (if online then "adb" else "offline"))
  else entry

/-- An entry as the user gets it. -/
def refreshed (entry : Value) (displayId : String) (online : Bool) : Value :=
  let previousId := (deviceIdOf entry).getD ""
  let replaceName := match (entry.get? "name").bind Value.asStr with
    | none => true
    | some name => name == "" || name == previousId
  let entry := entry.set "deviceId" (.string displayId)
  let entry := entry.set "adbState" (.string (if online then "device" else "offline"))
  let entry := reconnected entry online
  if replaceName then entry.set "name" (.string displayId) else entry

/-- The user's entry of an assigned device. -/
def entryFor (registered : List Value) (ids : List String) (assignedId : String) : Value :=
  refreshed ((rememberedEntry registered assignedId).getD (.object []))
    (displayId registered ids assignedId) (ids.find? (sameRemoteDeviceIdentity assignedId)).isSome

/-- The entry is about the device. -/
def About (deviceId : String) (entry : Value) : Bool :=
  (deviceIdOf entry).any (sameRemoteDeviceIdentity · deviceId)

theorem reconciledEntry_eq (registered : List Value) (ids : List String) :
    reconciledEntry registered ids = Classes.addNew (entryFor registered ids)
      (fun entry assignedId => About (displayId registered ids assignedId) entry) := rfl

theorem sameRemoteDeviceIdentity_comm (d e : String) :
    sameRemoteDeviceIdentity d e = sameRemoteDeviceIdentity e d :=
  Bool.eq_iff_iff.mpr ⟨sameRemoteDeviceIdentity_symm, sameRemoteDeviceIdentity_symm⟩

/-- Two serials of one handset mean the same as any third one. -/
theorem same_congr {d e : String} (h : sameRemoteDeviceIdentity d e = true) (f : String) :
    sameRemoteDeviceIdentity d f = sameRemoteDeviceIdentity e f :=
  Bool.eq_iff_iff.mpr ⟨sameRemoteDeviceIdentity_trans (sameRemoteDeviceIdentity_symm h),
    sameRemoteDeviceIdentity_trans h⟩

theorem mem_of_rememberedEntry {assignedId : String} {entry : Value}
    (h : rememberedEntry registered assignedId = some entry) :
    entry ∈ registered ∧ About assignedId entry = true := by
  have known : entry ∈ registered.filter (fun device =>
      (deviceIdOf device).any (sameRemoteDeviceIdentity · assignedId)) := by
    rcases Option.or_eq_some_iff.mp h with hready | ⟨-, hlast⟩
    · exact List.mem_of_mem_filter (List.mem_of_getLast? hready)
    · exact List.mem_of_getLast? hlast
  exact List.mem_filter.mp known

/-- Whatever serial an assigned device is shown by is one of its own. -/
theorem same_displayId (registered : List Value) (ids : List String) (assignedId : String) :
    sameRemoteDeviceIdentity assignedId (displayId registered ids assignedId) = true := by
  unfold displayId
  cases honline : ids.find? (sameRemoteDeviceIdentity assignedId) with
  | some current => exact List.find?_some honline
  | none =>
    cases hentry : rememberedEntry registered assignedId with
    | none => exact sameRemoteDeviceIdentity_refl assignedId
    | some entry =>
      have about := (mem_of_rememberedEntry hentry).2
      cases hid : deviceIdOf entry with
      | none => simp [About, hid] at about
      | some deviceId =>
        simp only [About, hid, Option.any_some] at about
        simpa [hid] using sameRemoteDeviceIdentity_symm about

theorem isObject_set {v : Value} (h : v.isObject = true) (key : String) (item : Value) :
    (v.set key item).isObject = true := by
  cases v with
  | object members =>
    simp only [Value.set]
    split_ifs <;> rfl
  | _ => cases h

section Refresh

variable {entry : Value} {online : Bool}

/-- The connection state stays as it is: it is there, and none of those that are written over. -/
def KeepsConnection (entry : Value) : Prop :=
  (entry.get? "connectionState").isSome = true ∧
    connectionStateOf entry ∉ [some "adb", some "disconnected", some "offline"]

theorem reconnected_cases (entry : Value) (online : Bool) :
    reconnected entry online =
        entry.set "connectionState" (.string (if online then "adb" else "offline")) ∨
      KeepsConnection entry ∧ reconnected entry online = entry := by
  by_cases h : (entry.get? "connectionState").isNone = true ∨
      connectionStateOf entry ∈ [some "adb", some "disconnected", some "offline"]
  · exact Or.inl (if_pos h)
  · obtain ⟨hsome, hstays⟩ := not_or.mp h
    exact Or.inr ⟨⟨by simpa [Option.isSome_iff_ne_none] using hsome, hstays⟩, if_neg h⟩

theorem get?_reconnected {key : String} (h : key ≠ "connectionState") :
    (reconnected entry online).get? key = entry.get? key := by
  rcases reconnected_cases entry online with hset | ⟨-, hkept⟩
  · rw [hset, Value.get?_set_other _ h]
  · rw [hkept]

theorem reconnected_connection (h : entry.isObject = true) :
    (reconnected entry online).get? "connectionState" =
        some (.string (if online then "adb" else "offline")) ∨
      KeepsConnection (reconnected entry online) := by
  rcases reconnected_cases entry online with hset | ⟨hstays, hkept⟩
  · rw [hset]
    exact Or.inl (Value.get?_set_self _ h)
  · rw [hkept]
    exact Or.inr hstays

theorem isObject_reconnected (h : entry.isObject = true) :
    (reconnected entry online).isObject = true := by
  rcases reconnected_cases entry online with hset | ⟨-, hkept⟩
  · rw [hset]
    exact isObject_set h _ _
  · rwa [hkept]

theorem keysOnce_reconnected (once : entry.KeysOnce) : (reconnected entry online).KeysOnce := by
  rcases reconnected_cases entry online with hset | ⟨-, hkept⟩
  · rw [hset]
    exact Value.keysOnce_set once _ _
  · rwa [hkept]

theorem reconnected_eq_self (once : entry.KeysOnce)
    (h : entry.get? "connectionState" = some (.string (if online then "adb" else "offline")) ∨
      KeepsConnection entry) : reconnected entry online = entry := by
  unfold reconnected
  rcases h with hwritten | ⟨hsome, hstays⟩
  · rw [Value.set_eq_self once hwritten, ite_self]
  · rw [if_neg]
    rw [not_or]
    exact ⟨by simpa [Option.isSome_iff_ne_none] using hsome, hstays⟩

/-- What a refreshed entry says of the device. -/
structure Shows (entry : Value) (displayId : String) (online : Bool) : Prop where
  deviceId : entry.get? "deviceId" = some (.string displayId)
  adbState : entry.get? "adbState" = some (.string (if online then "device" else "offline"))
  connectionState :
    entry.get? "connectionState" = some (.string (if online then "adb" else "offline")) ∨
      KeepsConnection entry
  name : entry.get? "name" = some (.string displayId) ∨
    ∃ name, entry.get? "name" = some (.string name) ∧ name ≠ ""

theorem refreshed_shows (h : entry.isObject = true) (displayId : String) (online : Bool) :
    Shows (refreshed entry displayId online) displayId online := by
  unfold refreshed
  extract_lets previousId replaceName named stated connected
  have hnamed : named.isObject = true := isObject_set h _ _
  have hstated : stated.isObject = true := isObject_set hnamed _ _
  have hobject : connected.isObject = true := isObject_reconnected hstated
  have deviceId : connected.get? "deviceId" = some (.string displayId) := by
    rw [get?_reconnected (by decide), Value.get?_set_other _ (by decide), Value.get?_set_self _ h]
  have adbState : connected.get? "adbState" =
      some (.string (if online then "device" else "offline")) := by
    rw [get?_reconnected (by decide), Value.get?_set_self _ hnamed]
  have name : connected.get? "name" = entry.get? "name" := by
    rw [get?_reconnected (by decide), Value.get?_set_other _ (by decide),
      Value.get?_set_other _ (by decide)]
  have connection := @reconnected_connection stated online hstated
  by_cases hreplace : replaceName = true
  · rw [if_pos hreplace]
    refine ⟨?_, ?_, ?_, Or.inl (Value.get?_set_self _ hobject)⟩
    · rw [Value.get?_set_other _ (by decide), deviceId]
    · rw [Value.get?_set_other _ (by decide), adbState]
    · rw [KeepsConnection, connectionStateOf, Value.get?_set_other _ (by decide)]
      exact connection
  · rw [if_neg hreplace]
    refine ⟨deviceId, adbState, connection, Or.inr ?_⟩
    rw [name]
    cases hold : entry.get? "name" with
    | none => simp [replaceName, hold] at hreplace
    | some old =>
      cases old with
      | string text =>
        refine ⟨text, rfl, ?_⟩
        intro hempty
        simp [replaceName, hold, hempty, Value.asStr] at hreplace
      | _ => simp [replaceName, hold, Value.asStr] at hreplace

theorem keysOnce_refreshed (once : entry.KeysOnce) (displayId : String) (online : Bool) :
    (refreshed entry displayId online).KeysOnce := by
  unfold refreshed
  extract_lets previousId replaceName named stated connected
  have hconnected : connected.KeysOnce :=
    keysOnce_reconnected (Value.keysOnce_set (Value.keysOnce_set once _ _) _ _)
  split_ifs
  · exact Value.keysOnce_set hconnected _ _
  · exact hconnected

/-- An entry that shows the device is refreshed to itself. -/
theorem refreshed_eq_self {displayId : String} (once : entry.KeysOnce)
    (h : Shows entry displayId online) : refreshed entry displayId online = entry := by
  unfold refreshed
  extract_lets previousId replaceName named stated connected
  have hnamed : named = entry := Value.set_eq_self once h.deviceId
  have hstated : stated = entry := by
    show named.set _ _ = entry
    rw [hnamed]
    exact Value.set_eq_self once h.adbState
  have hconnected : connected = entry := by
    show reconnected stated online = entry
    rw [hstated]
    exact reconnected_eq_self once h.connectionState
  rw [hconnected]
  by_cases hreplace : replaceName = true
  · rw [if_pos hreplace]
    apply Value.set_eq_self once
    rcases h.name with hname | ⟨name, hname, hne⟩
    · exact hname
    · -- a name that is not empty is replaced where it is the serial already
      have hprevious : previousId = displayId := by
        simp [previousId, deviceIdOf, h.deviceId, Value.asStr]
      simp only [replaceName, hname, Option.bind_some, Value.asStr, hprevious, Bool.or_eq_true,
        beq_iff_eq, hne, false_or] at hreplace
      rw [hname, hreplace]
  · rw [if_neg hreplace]

end Refresh

section Reconciled

theorem isObject_remembered (registered : List Value) (assignedId : String) :
    ((rememberedEntry registered assignedId).getD (.object [])).isObject = true := by
  cases h : rememberedEntry registered assignedId with
  | none => rfl
  | some entry =>
    have about := (mem_of_rememberedEntry h).2
    cases hid : entry.get? "deviceId" with
    | none => simp [About, deviceIdOf, hid] at about
    | some deviceId => exact Value.isObject_of_get? hid

theorem entryFor_shows (registered : List Value) (ids : List String) (assignedId : String) :
    Shows (entryFor registered ids assignedId) (displayId registered ids assignedId)
      (ids.find? (sameRemoteDeviceIdentity assignedId)).isSome :=
  refreshed_shows (isObject_remembered registered assignedId) _ _

theorem Shows.deviceIdOf_eq {entry : Value} {displayId : String} {online : Bool}
    (h : Shows entry displayId online) : deviceIdOf entry = some displayId := by
  rw [deviceIdOf, h.deviceId]
  rfl

/-- A user's entry is about the devices that are the assigned one. -/
theorem about_entryFor (registered : List Value) (ids : List String) (a b : String) :
    About b (entryFor registered ids a) = sameRemoteDeviceIdentity a b := by
  rw [About, (entryFor_shows registered ids a).deviceIdOf_eq, Option.any_some]
  exact (same_congr (same_displayId registered ids a) b).symm

/-- The list has an entry for the first assigned id of every handset. -/
theorem reconcileRemoteDeviceList_eq (session : AuthenticatedSession) (registered : List Value)
    (ids : List String) :
    reconcileRemoteDeviceList session registered ids =
      (session.devices.toList.eraseDupsBy sameRemoteDeviceIdentity).map (entryFor registered ids) := by
  rw [reconcileRemoteDeviceList, reconciledEntry_eq]
  apply Classes.foldl_addNew (fun h => sameRemoteDeviceIdentity_symm h)
  intro a b
  rw [about_entryFor, sameRemoteDeviceIdentity_comm a b, sameRemoteDeviceIdentity_comm a]
  exact (same_congr (same_displayId registered ids b) a).symm

/-- The first assigned id of a handset. -/
theorem exists_first {assigned : String} (h : assigned ∈ session.devices) :
    ∃ first, session.devices.toList.find? (sameRemoteDeviceIdentity assigned) = some first ∧
      first ∈ session.devices.toList.eraseDupsBy sameRemoteDeviceIdentity ∧
      sameRemoteDeviceIdentity assigned first = true := by
  have kept := @Classes.find?_eraseDupsBy _ sameRemoteDeviceIdentity
    (fun hab hbc => sameRemoteDeviceIdentity_trans hab hbc) session.devices.toList assigned
  cases hfirst : session.devices.toList.find? (sameRemoteDeviceIdentity assigned) with
  | none =>
    have hnot := List.find?_eq_none.mp hfirst assigned (Std.ExtTreeSet.mem_toList.mpr h)
    exact (hnot (sameRemoteDeviceIdentity_refl assigned)).elim
  | some first =>
    rw [hfirst] at kept
    exact ⟨first, rfl, List.mem_of_find?_eq_some kept, List.find?_some hfirst⟩

/-- One entry of the list is about an assigned device. -/
theorem filter_about (registered : List Value) (ids : List String) {first assigned : String}
    (hmem : first ∈ session.devices.toList.eraseDupsBy sameRemoteDeviceIdentity)
    (hsame : sameRemoteDeviceIdentity assigned first = true) :
    (reconcileRemoteDeviceList session registered ids).filter (About assigned) =
      [entryFor registered ids first] := by
  have apart := (@Classes.eraseDupsBy_spec _ sameRemoteDeviceIdentity session.devices.toList).2
  rw [reconcileRemoteDeviceList_eq, List.filter_map]
  have about : (About assigned ∘ entryFor registered ids) =
      fun other => sameRemoteDeviceIdentity other first := by
    funext other
    rw [Function.comp_apply, about_entryFor, sameRemoteDeviceIdentity_comm other assigned,
      sameRemoteDeviceIdentity_comm other first]
    exact same_congr hsame other
  rw [about, Classes.filter_of_apart sameRemoteDeviceIdentity_refl
    (fun h => sameRemoteDeviceIdentity_symm h) apart hmem]
  rfl

/-- The entries about two names of one handset are the same. -/
theorem about_congr {a b : String} (h : sameRemoteDeviceIdentity a b = true) :
    About a = About b := by
  funext entry
  unfold About
  congr 1
  funext known
  rw [sameRemoteDeviceIdentity_comm known a, sameRemoteDeviceIdentity_comm known b]
  exact same_congr h known

theorem rememberedEntry_congr (registered : List Value) {a b : String}
    (h : sameRemoteDeviceIdentity a b = true) :
    rememberedEntry registered a = rememberedEntry registered b := by
  have hsame := about_congr h
  unfold About at hsame
  simp only [rememberedEntry, hsame]

theorem keysOnce_entryFor {registered : List Value} (once : ∀ device ∈ registered, device.KeysOnce)
    (ids : List String) (assignedId : String) : (entryFor registered ids assignedId).KeysOnce := by
  apply keysOnce_refreshed
  cases h : rememberedEntry registered assignedId with
  | none => exact List.nodup_nil
  | some entry => exact once entry (mem_of_rememberedEntry h).1

/-- An entry of the list is made from the list as it was made. -/
theorem entryFor_again {registered : List Value} (once : ∀ device ∈ registered, device.KeysOnce)
    (ids : List String) {first : String}
    (hmem : first ∈ session.devices.toList.eraseDupsBy sameRemoteDeviceIdentity) :
    entryFor (reconcileRemoteDeviceList session registered ids) ids first =
      entryFor registered ids first := by
  have shows := entryFor_shows registered ids first
  have remembered : rememberedEntry (reconcileRemoteDeviceList session registered ids) first =
      some (entryFor registered ids first) := by
    have known := filter_about registered ids hmem (sameRemoteDeviceIdentity_refl first)
    unfold About at known
    simp only [rememberedEntry, known, List.filter_singleton]
    cases connectionStateOf (entryFor registered ids first) == some "ready" <;> rfl
  have shown : displayId (reconcileRemoteDeviceList session registered ids) ids first =
      displayId registered ids first := by
    rw [displayId, remembered, Option.bind_some, shows.deviceIdOf_eq]
    cases honline : ids.find? (sameRemoteDeviceIdentity first) with
    | none => rfl
    | some current => simp [displayId, honline]
  rw [entryFor, remembered, shown, Option.getD_some]
  exact refreshed_eq_self (keysOnce_entryFor once ids first) shows

/-- A user's device list has one entry for every handset the user is assigned, and no other. It
names the first serial under which the handset is online, else the one it is remembered by, else its
first assigned id; it says whether the handset is online; and it is reconciled to itself. -/
theorem reconciled_device_list (session : AuthenticatedSession) (devices : List DeviceEntry)
    (ids : List String) :
    let registered := devices.map DeviceEntry.value
    let listed := reconcileRemoteDeviceList session registered ids
    (∀ assigned ∈ session.devices, ∃ entry, listed.filter (About assigned) = [entry] ∧
      deviceIdOf entry = ((ids.find? (sameRemoteDeviceIdentity assigned)).or
        ((rememberedEntry registered assigned).bind deviceIdOf)).or
          (session.devices.toList.find? (sameRemoteDeviceIdentity assigned)) ∧
      ((entry.get? "adbState").bind Value.asStr = some "device" ↔
        ∃ current ∈ ids, sameRemoteDeviceIdentity assigned current = true)) ∧
    (∀ entry ∈ listed, ∃ assigned ∈ session.devices, About assigned entry = true) ∧
    reconcileRemoteDeviceList session listed ids = listed := by
  intro registered listed
  have once : ∀ device ∈ registered, device.KeysOnce := by
    intro device hdevice
    obtain ⟨entry, -, rfl⟩ := List.mem_map.mp hdevice
    exact entry.once
  refine ⟨?_, ?_, ?_⟩
  · intro assigned hassigned
    obtain ⟨first, hfirst, hmem, hsame⟩ := exists_first hassigned
    have shows := entryFor_shows registered ids first
    have online : ids.find? (sameRemoteDeviceIdentity assigned) =
        ids.find? (sameRemoteDeviceIdentity first) := by
      congr 1
      funext current
      exact same_congr hsame current
    refine ⟨entryFor registered ids first, filter_about registered ids hmem hsame, ?_, ?_⟩
    · rw [shows.deviceIdOf_eq, displayId, ← online, ← rememberedEntry_congr registered hsame, hfirst]
      cases (ids.find? (sameRemoteDeviceIdentity assigned)).or
        ((rememberedEntry registered assigned).bind deviceIdOf) <;> rfl
    · rw [shows.adbState, ← online, ← List.find?_isSome]
      cases (ids.find? (sameRemoteDeviceIdentity assigned)).isSome <;> simp [Value.asStr]
  · intro entry hentry
    rw [show listed = _ from reconcileRemoteDeviceList_eq session registered ids] at hentry
    obtain ⟨first, hfirst, rfl⟩ := List.mem_map.mp hentry
    have hmem := (@Classes.eraseDupsBy_spec _ sameRemoteDeviceIdentity
      session.devices.toList).1 first hfirst
    refine ⟨first, Std.ExtTreeSet.mem_toList.mp hmem, ?_⟩
    rw [about_entryFor]
    exact sameRemoteDeviceIdentity_refl first
  · calc reconcileRemoteDeviceList session listed ids
        = (session.devices.toList.eraseDupsBy sameRemoteDeviceIdentity).map
            (entryFor listed ids) := reconcileRemoteDeviceList_eq session listed ids
      _ = (session.devices.toList.eraseDupsBy sameRemoteDeviceIdentity).map
            (entryFor registered ids) :=
          List.map_congr_left (fun first hmem => entryFor_again once ids hmem)
      _ = listed := (reconcileRemoteDeviceList_eq session registered ids).symm

end Reconciled

end RemoteControlService

end AdbControl.Remote
