import AdbControl.Server.Catalog

namespace AdbControl.Server

open Framework

/-- The entry is the live device's: its id and connection, and no alias of it is lost. -/
structure MatchedBy (entry live : Device) : Prop where
  id : entry.id = live.id
  state : entry.state = live.state
  transport : entry.transport = live.transport
  aliases : ∀ x ∈ live.ids, x ≠ "" → x ∈ entry.ids

/-- What a merged list keeps of the cards and the live devices. -/
structure Remembers (remembered live result : List Device) : Prop where
  ids : ∀ device, device ∈ remembered ∨ device ∈ live → ∀ x ∈ device.ids, x ≠ "" →
    ∃ entry ∈ result, x ∈ entry.ids
  remarks : ∀ card ∈ remembered, card.id ≠ "" →
    ∃ entry ∈ result, card.id ∈ entry.ids ∧ entry.remark = card.remark
  unmatched : ∀ entry ∈ result, (∀ current ∈ live, ¬MatchedBy entry current) →
    entry.state = "offline"

variable {remembered live : List Device}

theorem matchedBy_mergeDevice (card current : Device) :
    MatchedBy (mergeDevice card current) current := by
  refine ⟨rfl, rfl, rfl, ?_⟩
  intro x hx hne
  rw [mem_mergeDevice_ids]
  rcases List.mem_cons.mp hx with hid | halias
  · exact Or.inl hid
  · exact Or.inr ⟨hne, Or.inl halias⟩

theorem mem_mergeDevices {entry : Device} : entry ∈ mergeDevices remembered live ↔
    (∃ p ∈ (takeovers remembered live).1, cardOf p = entry) ∨
      entry ∈ (takeovers remembered live).2 := by
  rw [mergeDevices_eq, List.mem_append, List.mem_map]

/-- Every card is in the merged list, with its ids and its remark. -/
theorem card_kept (live : List Device) {card : Device} (h : card ∈ remembered) :
    ∃ entry ∈ mergeDevices remembered live, entry.remark = card.remark ∧
      ∀ x ∈ card.ids, x ≠ "" → x ∈ entry.ids := by
  rw [← greedy_items sameCatalogDevice remembered live] at h
  obtain ⟨p, hp, hcard⟩ := List.mem_map.mp h
  refine ⟨cardOf p, mem_mergeDevices.mpr (Or.inl ⟨p, hp, rfl⟩), ?_⟩
  obtain ⟨remembered', taker⟩ := p
  cases hcard
  cases taker with
  | none => exact ⟨rfl, fun x hx _ => hx⟩
  | some current =>
    exact ⟨rfl, fun x hx hne => mem_mergeDevice_ids.mpr (Or.inr ⟨hne, Or.inr hx⟩)⟩

/-- Every live device is in the merged list. -/
theorem live_kept (remembered : List Device) {current : Device} (h : current ∈ live) :
    ∃ entry ∈ mergeDevices remembered live, MatchedBy entry current := by
  rw [← (greedy_perm sameCatalogDevice remembered live).mem_iff, List.mem_append] at h
  rcases h with htaken | hleft
  · obtain ⟨⟨card, taker⟩, hp, htaker⟩ := List.mem_filterMap.mp htaken
    cases htaker
    exact ⟨_, mem_mergeDevices.mpr (Or.inl ⟨_, hp, rfl⟩), matchedBy_mergeDevice card current⟩
  · exact ⟨current, mem_mergeDevices.mpr (Or.inr hleft), rfl, rfl, rfl, fun _ hx _ => hx⟩

/-- An entry is a live device's, or an offline card. -/
theorem matched_or_offline {entry : Device} (h : entry ∈ mergeDevices remembered live) :
    (∃ current ∈ live, MatchedBy entry current) ∨ entry.state = "offline" := by
  rcases mem_mergeDevices.mp h with ⟨⟨card, taker⟩, hp, rfl⟩ | hleft
  · cases taker with
    | none => exact Or.inr rfl
    | some current =>
      exact Or.inl ⟨current, greedy_mem_candidate hp, matchedBy_mergeDevice card current⟩
  · have hlive := (greedy_left_sublist sameCatalogDevice remembered live).subset hleft
    exact Or.inl ⟨entry, hlive, rfl, rfl, rfl, fun _ hx _ => hx⟩

theorem remembers_mergeDevices (remembered live : List Device) :
    Remembers remembered live (mergeDevices remembered live) := by
  refine ⟨?_, ?_, ?_⟩
  · intro device hdevice x hx hne
    rcases hdevice with hcard | hlive
    · obtain ⟨entry, hentry, -, hids⟩ := card_kept live hcard
      exact ⟨entry, hentry, hids x hx hne⟩
    · obtain ⟨entry, hentry, hmatched⟩ := live_kept remembered hlive
      exact ⟨entry, hentry, hmatched.aliases x hx hne⟩
  · intro card hcard hne
    obtain ⟨entry, hentry, hremark, hids⟩ := card_kept live hcard
    exact ⟨entry, hentry, hids card.id List.mem_cons_self hne, hremark⟩
  · intro entry hentry hnone
    rcases matched_or_offline hentry with ⟨current, hcurrent, hmatched⟩ | hoffline
    · exact (hnone current hcurrent hmatched).elim
    · exact hoffline

/-- A merge that succeeds loses no id, no alias and no remark, shows as offline what no live
device matches, and remembers what it returns, in its file too; a merge whose save fails leaves
the directory in memory as it was. -/
theorem merge_loses_nothing (c : Catalog) (io : SaveOutcome) (live : List Device) :
    (∀ result, (c.merge io live).2 = .ok result →
      Remembers c.devices live result ∧
      (c.merge io live).1.devices = result.map Device.offline ∧
      (c.path ≠ "" → c.file = some c.devices →
        (c.merge io live).1.file = some (c.merge io live).1.devices)) ∧
    ((c.merge io live).2 = .error .saveFailed →
      (c.merge io live).1.devices = c.devices ∧ (c.merge io live).1.allocated = c.allocated ∧
        (c.merge io live).1.path = c.path) := by
  rcases c.merge_cases io live with ⟨-, hsame, hmerge⟩ | ⟨file, hsaved, hmerge⟩ | ⟨file, -, hmerge⟩
  · rw [hmerge]
    refine ⟨?_, fun h => nomatch h⟩
    intro result hresult
    cases hresult
    exact ⟨remembers_mergeDevices c.devices live, hsame.symm, fun _ hfile => hfile⟩
  · rw [hmerge]
    refine ⟨?_, fun h => nomatch h⟩
    intro result hresult
    cases hresult
    exact ⟨remembers_mergeDevices c.devices live, rfl,
      fun hpath _ => Catalog.saveLocked_saved hsaved hpath⟩
  · rw [hmerge]
    exact ⟨fun _ h => (nomatch h), fun _ => ⟨rfl, rfl, rfl⟩⟩

/-- A card without an id of its own, with a remark. -/
def namelessCard : List CatalogOp :=
  [.merge ⟨true, true, true, true, true⟩ [{ hardwareID := "serial:R3" }],
    .setRemark ⟨true, true, true, true, true⟩ "" "spare"]

/-- The remark of a card without an id is not found under that id once the handset is seen. -/
theorem nameless_remark_lost : ¬∀ (ops : List CatalogOp) (io : SaveOutcome) (live result : List Device),
    ((run CatalogOp.step .newMemoryCatalog ops).merge io live).2 = .ok result →
    ∀ card ∈ (run CatalogOp.step .newMemoryCatalog ops).devices,
      ∃ entry ∈ result, card.id ∈ entry.ids ∧ entry.remark = card.remark := by
  intro h
  have lost := h namelessCard ⟨true, true, true, true, true⟩ [{ id := "a", hardwareID := "serial:R3" }]
    [{ id := "a", hardwareID := "serial:R3", remark := "spare" }] (by decide)
  revert lost
  decide

end AdbControl.Server
