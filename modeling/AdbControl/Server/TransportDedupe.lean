import AdbControl.Framework.Grouping
import AdbControl.Server.LiveDevices

namespace AdbControl.Server

open Framework

/-- A transport as a row of `adb devices -l` tells of it. -/
structure IsRow (device : Device) : Prop where
  id : device.id ≠ ""
  aliases : device.aliases = []
  transport : device.transport = "usb" ∨ device.transport = "wireless"

/-- A row that is read is one, whatever hardware id is attached to it. -/
theorem parseDevice_isRow {fields : List (List Char)} {device : Device} (hardwareID : String)
    (h : parseDevice fields = some device) (hid : device.id ≠ "") :
    IsRow { device with hardwareID } := by
  have kept (words : List (List Char)) (d : Device) :
      (words.foldl readAttribute d).aliases = d.aliases ∧
        (words.foldl readAttribute d).transport = d.transport := by
    induction words generalizing d with
    | nil => exact ⟨rfl, rfl⟩
    | cons word words ih =>
      have one : (readAttribute d word).aliases = d.aliases ∧
          (readAttribute d word).transport = d.transport := by
        unfold readAttribute
        split
        · exact ⟨rfl, rfl⟩
        · split_ifs <;> exact ⟨rfl, rfl⟩
      rw [List.foldl_cons, (ih _).1, (ih _).2]
      exact one
  unfold parseDevice at h
  split_ifs at h
  split at h
  · cases h
  · split_ifs at h
    cases h
    refine ⟨hid, (kept _ _).1, ?_⟩
    show (List.foldl readAttribute _ _).transport = _ ∨ _
    rw [(kept _ _).2]
    dsimp only
    split_ifs
    · exact Or.inr rfl
    · exact Or.inl rfl

/-- Online comes before offline, and then USB before wireless. -/
def standing (device : Device) : Nat :=
  2 * (decide (device.state = "device")).toNat + (decide (device.transport = "usb")).toNat

/-- What the entry of a key becomes when another transport of the key is found. -/
def joinTransport (current candidate : Device) : Device :=
  let kept := { current with
    aliases := aliasesWithoutPrimary current.id
      (appendUnique (appendUnique current.aliases [candidate.id]) candidate.aliases) }
  let preferred := { candidate with
    aliases := aliasesWithoutPrimary candidate.id
      (appendUnique (candidate.aliases ++ [kept.id]) kept.aliases) }
  if shouldPreferDevice candidate kept then preferred else kept

/-- The loop keeps the groups of what it has seen, and where the group of each key is. -/
def Deduped.Holds (seen : List Device) (deduped : Deduped) : Prop :=
  deduped.result = grouped hardwareKey joinTransport {} seen ∧
    ∀ (key : String) (i : Nat), deduped.indexByHardwareID[key]? = some i ↔
      (seen.map hardwareKey).eraseDups[i]? = some key

theorem Deduped.Holds.add {seen : List Device} {deduped : Deduped} (h : deduped.Holds seen)
    (candidate : Device) : (deduped.add candidate).Holds (seen ++ [candidate]) := by
  obtain ⟨hresult, hindex⟩ := h
  cases hfound : deduped.indexByHardwareID[hardwareKey candidate]? with
  | none =>
    have new : hardwareKey candidate ∉ seen.map hardwareKey := by
      intro hmem
      obtain ⟨i, hi⟩ := List.mem_iff_getElem?.mp (List.mem_eraseDups.mpr hmem)
      rw [(hindex _ i).mpr hi] at hfound
      cases hfound
    have keys : ((seen ++ [candidate]).map hardwareKey).eraseDups =
        (seen.map hardwareKey).eraseDups ++ [hardwareKey candidate] := by
      rw [List.map_append, List.map_singleton, eraseDups_concat_new new]
    have length : deduped.result.length = (seen.map hardwareKey).eraseDups.length := by
      rw [hresult, grouped, List.length_map]
    simp only [Deduped.add, hfound]
    refine ⟨by rw [hresult, grouped_concat_new new], ?_⟩
    intro key i
    rw [keys, Keyed.lookup_insert, List.getElem?_append, length]
    by_cases hkey : key = hardwareKey candidate
    · have absent : (seen.map hardwareKey).eraseDups[i]? ≠ some key := by
        intro hi
        exact new (hkey ▸ List.mem_eraseDups.mp (List.mem_of_getElem? hi))
      rw [if_pos hkey]
      split_ifs with hlt
      · exact iff_of_false (by simpa using Ne.symm (Nat.ne_of_lt hlt)) absent
      · rw [List.getElem?_singleton]
        split_ifs with hi
        · simp [hkey]
          omega
        · simp
          omega
    · rw [if_neg hkey, hindex]
      split_ifs with hlt
      · rfl
      · rw [List.getElem?_eq_none (by omega), List.getElem?_singleton]
        split_ifs <;> simp [Ne.symm hkey]
  | some i =>
    have known := (hindex _ i).mp hfound
    simp only [Deduped.add, hfound]
    refine ⟨?_, ?_⟩
    · rw [grouped_concat_old known, hresult]
      rfl
    · have hmem : hardwareKey candidate ∈ seen.map hardwareKey :=
        List.mem_eraseDups.mp (List.mem_of_getElem? known)
      rw [List.map_append, List.map_singleton, eraseDups_concat_old hmem]
      exact hindex

theorem dedupe_eq_grouped (devices : List Device) :
    dedupeDevicesByHardwareID devices = grouped hardwareKey joinTransport {} devices := by
  have holds : (devices.foldl Deduped.add {}).Holds devices := by
    induction devices using List.reverseRecOn with
    | nil => exact ⟨rfl, by simp⟩
    | append_singleton seen candidate ih =>
      rw [List.foldl_append]
      exact ih.add candidate
  exact holds.1

theorem appendUnique_of_nodup {values additions : List String}
    (distinct : (values ++ additions).Nodup) (h : "" ∉ values ++ additions) :
    appendUnique values additions = values ++ additions := by
  have nonempty : (values ++ additions).filter (fun value => value != "") = values ++ additions := by
    rw [List.filter_eq_self]
    intro value hvalue
    simpa using ne_of_mem_of_not_mem hvalue h
  rw [appendUnique_eq, nonempty, eraseDups_of_nodup distinct]

theorem aliasesWithoutPrimary_of_not_mem {primary : String} {aliases : List String}
    (h : primary ∉ aliases) : aliasesWithoutPrimary primary aliases = aliases := by
  rw [aliasesWithoutPrimary, List.filter_eq_self]
  intro other hother
  simpa using ne_of_mem_of_not_mem hother h

theorem shouldPreferDevice_iff {candidate current : Device}
    (hcandidate : candidate.transport = "usb" ∨ candidate.transport = "wireless")
    (hcurrent : current.transport = "usb" ∨ current.transport = "wireless") :
    shouldPreferDevice candidate current = true ↔ standing current < standing candidate := by
  rw [shouldPreferDevice, standing, standing]
  by_cases hon : candidate.state = "device" <;> by_cases hon' : current.state = "device" <;>
    rcases hcandidate with hc | hc <;> rcases hcurrent with hc' | hc' <;>
      simp [hon, hon', hc, hc']

section Join

variable {current candidate : Device}

/-- A new id becomes an alias, or the primary id before all the others. -/
theorem joinTransport_fresh (distinct : current.ids.Nodup) (hempty : "" ∉ current.ids)
    (row : IsRow candidate) (fresh : candidate.id ∉ current.ids) :
    joinTransport current candidate =
      if shouldPreferDevice candidate current then { candidate with aliases := current.ids }
      else { current with aliases := current.aliases ++ [candidate.id] } := by
  have more : (current.id :: (current.aliases ++ [candidate.id])).Nodup := by
    show (current.ids ++ [candidate.id]).Nodup
    rw [List.nodup_append']
    exact ⟨distinct, List.nodup_singleton _, by simpa using fresh⟩
  have names : "" ∉ current.id :: (current.aliases ++ [candidate.id]) := by
    show "" ∉ current.ids ++ [candidate.id]
    rw [List.mem_append, List.mem_singleton, not_or]
    exact ⟨hempty, row.id.symm⟩
  obtain ⟨hprimary, shorter⟩ := List.nodup_cons.mp more
  have shorterNames : "" ∉ current.aliases ++ [candidate.id] := fun h =>
    names (List.mem_cons_of_mem _ h)
  have kept : aliasesWithoutPrimary current.id
      (appendUnique (appendUnique current.aliases [candidate.id]) candidate.aliases) =
        current.aliases ++ [candidate.id] := by
    rw [row.aliases, appendUnique_of_nodup shorter shorterNames,
      appendUnique_of_nodup (by rwa [List.append_nil]) (by rwa [List.append_nil]), List.append_nil,
      aliasesWithoutPrimary_of_not_mem hprimary]
  have preferred : aliasesWithoutPrimary candidate.id
      (appendUnique (candidate.aliases ++ [current.id]) (current.aliases ++ [candidate.id])) =
        current.ids := by
    rw [row.aliases, List.nil_append, appendUnique_of_nodup more names]
    have others := aliasesWithoutPrimary_of_not_mem fresh
    rw [aliasesWithoutPrimary] at others ⊢
    show (current.ids ++ [candidate.id]).filter _ = current.ids
    rw [List.filter_append, others]
    simp
  rw [joinTransport, kept, preferred]
  rfl

/-- The entry of a group has the ids of the group, each once, and is led by the first transport of
the group that none of them surpasses. -/
theorem joinAll_rows {rows : List Device} (hne : rows ≠ []) (distinct : (rows.map Device.id).Nodup)
    (hrows : ∀ row ∈ rows, IsRow row) :
    (joinAll joinTransport {} rows).ids.Perm (rows.map Device.id) ∧
      rows.argmax standing = some { joinAll joinTransport {} rows with aliases := [] } := by
  induction rows using List.reverseRecOn with
  | nil => exact absurd rfl hne
  | append_singleton rows candidate ih =>
    have row : IsRow candidate := hrows candidate (by simp)
    rcases eq_or_ne rows [] with rfl | hsome
    · refine ⟨?_, ?_⟩
      · simp [joinAll, Device.ids, row.aliases]
      · show some candidate = some { candidate with aliases := [] }
        rw [← row.aliases]
    · rw [List.map_append, List.nodup_append'] at distinct
      obtain ⟨hdistinct, -, hfresh⟩ := distinct
      obtain ⟨hids, hbest⟩ := ih hsome hdistinct (fun r hr => hrows r (by simp [hr]))
      rw [joinAll_concat hsome]
      set entry := joinAll joinTransport {} rows
      have entryDistinct : entry.ids.Nodup := hids.nodup_iff.mpr hdistinct
      have fresh : candidate.id ∉ entry.ids := by
        intro hmem
        exact hfresh (hids.mem_iff.mp hmem) (by simp)
      have names : "" ∉ entry.ids := by
        intro hmem
        obtain ⟨r, hr, hid⟩ := List.mem_map.mp (hids.mem_iff.mp hmem)
        exact (hrows r (by simp [hr])).id hid
      have transport : entry.transport = "usb" ∨ entry.transport = "wireless" :=
        (hrows _ (List.mem_append_left _ (List.argmax_mem hbest))).transport
      have prefers := shouldPreferDevice_iff row.transport transport
      rw [joinTransport_fresh entryDistinct names row fresh, List.argmax_concat, hbest,
        List.map_append, List.map_singleton]
      by_cases hbetter : standing entry < standing candidate
      · rw [if_pos (prefers.mpr hbetter)]
        refine ⟨?_, ?_⟩
        · exact ((hids.cons candidate.id).trans (List.perm_append_singleton _ _).symm)
        · show (if standing entry < standing candidate then _ else _) = _
          rw [if_pos hbetter]
          show some candidate = some { candidate with aliases := [] }
          rw [← row.aliases]
      · rw [if_neg (fun h => hbetter (prefers.mp h))]
        refine ⟨?_, ?_⟩
        · exact hids.append_right [candidate.id]
        · show (if standing entry < standing candidate then _ else _) = _
          rw [if_neg hbetter]

end Join

/-- One entry for each hardware key, in the order in which the keys come first; every id once, in
the entry of its own key, and each entry led by the first transport of its key that none of them
surpasses. -/
theorem dedupe_partition (devices : List Device) (distinct : (devices.map Device.id).Nodup)
    (rows : ∀ device ∈ devices, IsRow device) :
    (dedupeDevicesByHardwareID devices).map hardwareKey =
        (devices.map hardwareKey).eraseDups ∧
      ((dedupeDevicesByHardwareID devices).flatMap Device.ids).Perm (devices.map Device.id) ∧
      ∀ entry ∈ dedupeDevicesByHardwareID devices,
        entry.ids.Perm ((ofKey hardwareKey (hardwareKey entry) devices).map Device.id) ∧
        entry.id ∉ entry.aliases ∧
        (ofKey hardwareKey (hardwareKey entry) devices).argmax standing =
          some { entry with aliases := [] } := by
  set entryOf : String → Device := fun key =>
    joinAll joinTransport {} (ofKey hardwareKey key devices)
  have merged : dedupeDevicesByHardwareID devices =
      (devices.map hardwareKey).eraseDups.map entryOf := dedupe_eq_grouped devices
  have groupDistinct (key : String) : ((ofKey hardwareKey key devices).map Device.id).Nodup :=
    distinct.sublist (List.filter_sublist.map Device.id)
  have group {key : String} (hkey : key ∈ (devices.map hardwareKey).eraseDups) :
      (entryOf key).ids.Perm ((ofKey hardwareKey key devices).map Device.id) ∧
        (ofKey hardwareKey key devices).argmax standing =
          some { entryOf key with aliases := [] } := by
    obtain ⟨device, hdevice, hown⟩ := List.mem_map.mp (List.mem_eraseDups.mp hkey)
    apply joinAll_rows
    · exact List.ne_nil_of_mem (List.mem_filter.mpr ⟨hdevice, by simpa using hown⟩)
    · exact groupDistinct key
    · exact fun row hrow => rows row (List.mem_of_mem_filter hrow)
  have own {key : String} (hkey : key ∈ (devices.map hardwareKey).eraseDups) :
      hardwareKey (entryOf key) = key := by
    have leads := List.mem_filter.mp (List.argmax_mem (group hkey).2)
    exact of_decide_eq_true leads.2
  refine ⟨?_, ?_, ?_⟩
  · rw [merged, List.map_map]
    calc (devices.map hardwareKey).eraseDups.map (hardwareKey ∘ entryOf)
        = (devices.map hardwareKey).eraseDups.map id :=
          List.map_congr_left fun key hkey => own hkey
      _ = (devices.map hardwareKey).eraseDups := List.map_id _
  · have ids : (dedupeDevicesByHardwareID devices).flatMap Device.ids =
        (devices.map hardwareKey).eraseDups.flatMap fun key => (entryOf key).ids := by
      rw [merged, List.flatMap_map]
    rw [ids]
    refine (List.Perm.flatMap_left _ fun key hkey => (group hkey).1).trans ?_
    rw [← List.map_flatMap]
    refine (flatMap_ofKey_perm (nodup_eraseDups _) ?_).map Device.id
    exact fun device hdevice => List.mem_eraseDups.mpr (List.mem_map_of_mem hdevice)
  · intro entry hentry
    rw [merged] at hentry
    obtain ⟨key, hkey, rfl⟩ := List.mem_map.mp hentry
    obtain ⟨hids, hleads⟩ := group hkey
    rw [own hkey]
    refine ⟨hids, ?_, hleads⟩
    exact (List.nodup_cons.mp (hids.nodup_iff.mpr (groupDistinct key))).1

theorem dedupe_partition_handset :
    (dedupeDevicesByHardwareID
      [{ id := "192.168.0.2:5555", state := "device", transport := "wireless",
          hardwareID := "serial:A" },
        { id := "A", state := "device", transport := "usb", hardwareID := "serial:A" }]).map
      hardwareKey = ["serial:A"] :=
  (dedupe_partition _ (by decide) (by
    intro device hdevice
    simp only [List.mem_cons, List.not_mem_nil, or_false] at hdevice
    rcases hdevice with rfl | rfl
    · exact ⟨by decide, rfl, Or.inr rfl⟩
    · exact ⟨by decide, rfl, Or.inl rfl⟩)).1

end AdbControl.Server
