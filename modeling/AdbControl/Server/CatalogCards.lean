import AdbControl.Server.Catalog

namespace AdbControl.Server

open Framework

/-- What two devices can have in common: a hardware id, a wireless service, any other serial. -/
inductive Mark
  | hardware (id : String)
  | service (name : List Char)
  | serial (id : String)
  deriving DecidableEq

/-- The mark of a device id. -/
def markOf (id : String) : Mark :=
  if normalizedMDNSServiceIdentity id = [] then .serial id
  else .service (normalizedMDNSServiceIdentity id)

theorem equivalentDeviceID_iff_markOf (left right : String) :
    equivalentDeviceID left right = true ↔ markOf left = markOf right := by
  simp only [equivalentDeviceID, markOf]
  by_cases he : left = right
  · simp [he]
  · by_cases hl : normalizedMDNSServiceIdentity left = []
    · by_cases hr : normalizedMDNSServiceIdentity right = [] <;> simp [he, hl, hr]
    · by_cases hr : normalizedMDNSServiceIdentity right = [] <;> simp [he, hl, hr]

theorem markOf_ne_hardware (id hardware : String) : markOf id ≠ .hardware hardware := by
  unfold markOf
  split_ifs <;> simp

theorem markOf_eq_empty {id : String} : markOf id = .serial "" ↔ id = "" := by
  constructor
  · intro h
    unfold markOf at h
    split_ifs at h
    simpa using h
  · intro h
    rw [h]
    rfl

/-- Everything a device can be known by. -/
def Device.marks (device : Device) : Set Mark :=
  { m | (device.hardwareID ≠ "" ∧ m = .hardware device.hardwareID) ∨ ∃ x ∈ device.ids, m = markOf x }

/-- Two devices are the same when they have a mark in common. -/
theorem sameCatalogDevice_iff (left right : Device) :
    sameCatalogDevice left right = true ↔ ¬Disjoint left.marks right.marks := by
  rw [Set.not_disjoint_iff]
  have byID : (left.ids.any (fun leftID => right.ids.any (fun rightID =>
      equivalentDeviceID leftID rightID)) = true) ↔
      ∃ x ∈ left.ids, ∃ y ∈ right.ids, markOf x = markOf y := by
    simp only [List.any_eq_true, equivalentDeviceID_iff_markOf]
  simp only [sameCatalogDevice]
  split_ifs with h
  · refine iff_of_true rfl ⟨.hardware left.hardwareID, Or.inl ⟨h.1, rfl⟩, Or.inl ⟨h.2.1, ?_⟩⟩
    rw [h.2.2]
  · rw [byID]
    constructor
    · intro hids
      obtain ⟨x, hx, y, hy, hxy⟩ := hids
      exact ⟨markOf x, Or.inr ⟨x, hx, rfl⟩, Or.inr ⟨y, hy, hxy⟩⟩
    · intro hmark
      obtain ⟨m, ⟨hl, hml⟩ | ⟨x, hx, hmx⟩, ⟨hr, hmr⟩ | ⟨y, hy, hmy⟩⟩ := hmark
      · rw [hml, Mark.hardware.injEq] at hmr
        exact (h ⟨hl, hr, hmr⟩).elim
      · rw [hml] at hmy
        exact (markOf_ne_hardware y _ hmy.symm).elim
      · rw [hmx] at hmr
        exact (markOf_ne_hardware x _ hmr).elim
      · exact ⟨x, hx, y, hy, hmx.symm.trans hmy⟩

theorem marks_nonempty (device : Device) : device.marks.Nonempty :=
  ⟨markOf device.id, Or.inr ⟨device.id, List.mem_cons_self, rfl⟩⟩

@[simp] theorem offline_marks (device : Device) : device.offline.marks = device.marks := rfl

/-- No two of the devices are the same. -/
def Apart (devices : List Device) : Prop :=
  devices.Pairwise (fun d e => sameCatalogDevice d e = false)

theorem apart_iff (devices : List Device) :
    Apart devices ↔ (devices.map Device.marks).Pairwise Disjoint := by
  rw [Apart, List.pairwise_map]
  refine List.Pairwise.iff ?_
  intro d e
  rw [← Bool.not_eq_true, sameCatalogDevice_iff, not_not]

theorem apart_offline {devices : List Device} : Apart (devices.map Device.offline) ↔ Apart devices := by
  rw [apart_iff, apart_iff, List.map_map]
  rfl

/-- What a live device still is known by after a merge: all but an empty alias. -/
def broughtMarks (current : Device) : Set Mark :=
  { m | (current.hardwareID ≠ "" ∧ m = .hardware current.hardwareID) ∨
    ∃ x, (x = current.id ∨ x ≠ "" ∧ x ∈ current.aliases) ∧ m = markOf x }

/-- What a card still is known by after a merge: an offline card by everything it was, a card
that a live device takes over by its ids that are not empty, and by its hardware id unless the
live device has one of its own. -/
def keptMarks (card : Device) : Option Device → Set Mark
  | none => card.marks
  | some current =>
    { m | (card.hardwareID ≠ "" ∧ current.hardwareID = "" ∧ m = .hardware card.hardwareID) ∨
      ∃ x, (x ≠ "" ∧ x ∈ card.ids) ∧ m = markOf x }

theorem keptMarks_subset (card : Device) (taker : Option Device) :
    keptMarks card taker ⊆ card.marks := by
  intro m hm
  cases taker with
  | none => exact hm
  | some current =>
    rcases hm with ⟨hne, -, hm⟩ | ⟨x, ⟨-, hx⟩, hm⟩
    · exact Or.inl ⟨hne, hm⟩
    · exact Or.inr ⟨x, hx, hm⟩

theorem broughtMarks_subset (current : Device) : broughtMarks current ⊆ current.marks := by
  intro m hm
  rcases hm with hm | ⟨x, hx | ⟨-, hx⟩, hm⟩
  · exact Or.inl hm
  · exact Or.inr ⟨x, by rw [hx]; exact List.mem_cons_self, hm⟩
  · exact Or.inr ⟨x, List.mem_cons_of_mem _ hx, hm⟩

theorem cardOf_marks (p : Device × Option Device) :
    (cardOf p).marks = mergedLabels keptMarks broughtMarks p := by
  obtain ⟨card, taker⟩ := p
  cases taker with
  | none => simp [cardOf, mergedLabels, keptMarks]
  | some current =>
    ext m
    have hardware : ((mergeDevice card current).hardwareID ≠ "" ∧
          m = .hardware (mergeDevice card current).hardwareID) ↔
        (card.hardwareID ≠ "" ∧ current.hardwareID = "" ∧ m = .hardware card.hardwareID) ∨
          (current.hardwareID ≠ "" ∧ m = .hardware current.hardwareID) := by
      by_cases hempty : current.hardwareID = "" <;> simp [mergeDevice, hempty]
    have ids : (∃ x ∈ (mergeDevice card current).ids, m = markOf x) ↔
        (∃ x, (x ≠ "" ∧ x ∈ card.ids) ∧ m = markOf x) ∨
          ∃ x, (x = current.id ∨ x ≠ "" ∧ x ∈ current.aliases) ∧ m = markOf x := by
      rw [← exists_or]
      refine exists_congr ?_
      intro x
      rw [mem_mergeDevice_ids, ← or_and_right, and_or_left, ← or_assoc, or_comm]
    exact (or_congr hardware ids).trans or_or_or_comm

/-- Every live device that a card has something left in common with is the one that takes it
over. -/
def Unbridged (remembered live : List Device) : Prop :=
  ∀ p ∈ (takeovers remembered live).1, ∀ current ∈ live, some current ≠ p.2 →
    Disjoint (keptMarks p.1 p.2) (broughtMarks current)

/-- Of cards that are apart and live devices that are apart, a merge makes a list of devices that
are apart exactly when no live device bridges two of them. -/
theorem apart_mergeDevices_iff {remembered live : List Device} (cards : Apart remembered)
    (devices : Apart live) :
    Apart (mergeDevices remembered live) ↔ Unbridged remembered live := by
  rw [apart_iff, List.pairwise_map] at cards devices
  rw [apart_iff, mergeDevices_eq, List.map_append, List.map_map]
  have marks : Device.marks ∘ cardOf = mergedLabels keptMarks broughtMarks := funext cardOf_marks
  rw [marks, Unbridged, takeovers]
  refine greedy_apart_iff sameCatalogDevice_iff keptMarks_subset broughtMarks_subset ?_ marks_nonempty
    cards devices
  intro card taker current m hm
  obtain ⟨hcard, hcurrent⟩ := hm
  rcases hcurrent with hhardware | ⟨x, hx, hmx⟩
  · exact Or.inl hhardware
  · refine Or.inr ⟨x, ?_, hmx⟩
    rcases List.mem_cons.mp hx with hid | halias
    · exact Or.inl hid
    -- what a card keeps is not the mark of an empty id
    have hne : x ≠ "" := by
      intro he
      have hempty : m = .serial "" := hmx.trans (markOf_eq_empty.mpr he)
      rcases hcard with ⟨-, -, hm⟩ | ⟨y, ⟨hy, -⟩, hm⟩
      · rw [hempty] at hm
        cases hm
      · exact hy (markOf_eq_empty.mp (hm.symm.trans hempty))
    exact Or.inr ⟨hne, halias⟩

namespace CatalogOp

/-- A merge of live devices that are apart returns entries that are apart. -/
def OneCard (c : Catalog) : CatalogOp → Prop
  | merge io live => Apart live → ∀ result, (c.merge io live).2 = .ok result → Apart result
  | _ => True

/-- A merge of live devices that are apart finds cards that are apart, none of which they bridge
if the merge can be saved. -/
def Clean (c : Catalog) : CatalogOp → Prop
  | merge io live => Apart live →
    Apart c.devices ∧ (io.succeeds c.path = true → Unbridged c.devices live)
  | _ => True

/-- The live devices of a merge are apart. -/
def ListsApart : CatalogOp → Prop
  | merge _ live => Apart live
  | _ => True

variable {c : Catalog}

theorem oneCard_of_clean (op : CatalogOp) (h : Clean c op) : OneCard c op := by
  cases op with
  | merge io live =>
    intro hlive result hresult
    obtain ⟨cards, unbridged⟩ := h hlive
    rcases c.merge_cases io live with ⟨-, hsame, hmerge⟩ | ⟨file, hsaved, hmerge⟩ |
      ⟨file, -, hmerge⟩
    · rw [hmerge] at hresult
      cases hresult
      rw [← hsame] at cards
      exact apart_offline.mp cards
    · rw [hmerge] at hresult
      cases hresult
      refine (apart_mergeDevices_iff cards hlive).mpr (unbridged ?_)
      rw [← c.saveLocked_succeeds io, hsaved]
    · rw [hmerge] at hresult
      cases hresult
  | setRemark => trivial
  | remove => trivial

/-- Of cards that are apart, a merge that returns entries that are apart was clean. -/
theorem clean_of_oneCard (cards : Apart c.devices) (op : CatalogOp) (h : OneCard c op) :
    Clean c op := by
  cases op with
  | merge io live =>
    intro hlive
    refine ⟨cards, ?_⟩
    intro hsucceeds
    rw [← apart_mergeDevices_iff cards hlive]
    refine h hlive _ ?_
    rcases c.merge_cases io live with ⟨-, -, hmerge⟩ | ⟨file, -, hmerge⟩ | ⟨file, hfailed, hmerge⟩
    · rw [hmerge]
    · rw [hmerge]
    · rw [← c.saveLocked_succeeds io, hfailed] at hsucceeds
      cases hsucceeds
  | setRemark => trivial
  | remove => trivial

/-- Cards that are apart stay so. -/
theorem apart_step (cards : Apart c.devices) (op : CatalogOp) (hlists : op.ListsApart)
    (h : OneCard c op) : Apart (step c op).devices := by
  cases op with
  | merge io live =>
    rcases c.merge_cases io live with ⟨-, -, hmerge⟩ | ⟨file, -, hmerge⟩ | ⟨file, -, hmerge⟩
    · rwa [step, hmerge]
    · have hresult : Apart (mergeDevices c.devices live) := h hlists _ (by rw [hmerge])
      rw [step, hmerge]
      exact apart_offline.mpr hresult
    · rwa [step, hmerge]
  | setRemark io deviceID remark =>
    rcases c.setRemark_cases io deviceID remark with hsame | ⟨index, hindex, hset⟩
    · rwa [step, hsame]
    · have hmarks : index < (c.devices.map Device.marks).length := by
        rwa [List.length_map]
      have marks : ({ c.devices[index] with remark } : Device).marks =
          (c.devices.map Device.marks)[index] := by
        rw [List.getElem_map]
        rfl
      rw [step, hset, apart_iff, List.map_set, marks, List.set_getElem_self]
      exact (apart_iff c.devices).mp cards
  | remove io deviceID =>
    rcases c.remove_cases io deviceID with hsame | hgone
    · rwa [step, hsame]
    · rw [step, hgone]
      exact cards.sublist List.eraseP_sublist

end CatalogOp

/-- From an empty directory on: every merge of live devices that are apart returns one entry for a
handset when every merge is clean, and only then if the live devices of every merge are apart. -/
theorem one_card_per_handset (path : String) (ops : List CatalogOp) :
    (Along CatalogOp.step CatalogOp.Clean (.openCatalog path none) ops →
      Along CatalogOp.step CatalogOp.OneCard (.openCatalog path none) ops) ∧
    ((∀ op ∈ ops, op.ListsApart) →
      Along CatalogOp.step CatalogOp.OneCard (.openCatalog path none) ops →
      Along CatalogOp.step CatalogOp.Clean (.openCatalog path none) ops) := by
  constructor
  · exact fun h => along_safe (fun _ => True) (fun _ _ _ _ => trivial)
      (fun _ op _ hclean => CatalogOp.oneCard_of_clean op hclean) trivial h
  · intro hlists h
    have hlisted : Along CatalogOp.step (fun _ op => op.ListsApart) (.openCatalog path none) ops :=
      along_of_at (fun pre op post he => hlists op (by simp [he]))
    have empty : Apart (Catalog.openCatalog path none).devices := List.Pairwise.nil
    have both : Along CatalogOp.step (fun c op => op.ListsApart ∧ CatalogOp.OneCard c op)
        (.openCatalog path none) ops := along_and.mpr ⟨hlisted, h⟩
    refine along_safe (fun c : Catalog => Apart c.devices) ?_ ?_ empty both
    · intro c op cards hop
      exact CatalogOp.apart_step cards op hop.1 hop.2
    · intro c op cards hop
      exact CatalogOp.clean_of_oneCard cards op hop.2

/-- A phone is seen over USB before it is authorised, then over Wi-Fi. -/
def usbThenWireless : List CatalogOp :=
  [.merge ⟨true, true, true, true, true⟩
      [{ id := "usb-7", state := "unauthorized", transport := "usb",
          hardwareID := "transport:usb-7" }],
    .merge ⟨true, true, true, true, true⟩
      [{ id := "10.0.0.2:5555", state := "device", transport := "wireless",
          hardwareID := "serial:R3" }]]

/-- Over both at once, as one live device. -/
def usbAndWireless : Device :=
  { id := "usb-7", state := "device", transport := "usb", hardwareID := "serial:R3",
    aliases := ["10.0.0.2:5555"] }

/-- Then the phone has two cards. -/
theorem handset_has_two_cards : ¬∀ (ops : List CatalogOp) (io : SaveOutcome)
    (live result : List Device), Apart live →
    ((run CatalogOp.step (.openCatalog "devices.json" none) ops).merge io live).2 = .ok result →
    Apart result := by
  intro h
  have both := h usbThenWireless ⟨true, true, true, true, true⟩ [usbAndWireless]
    [{ usbAndWireless with aliases := ["10.0.0.2:5555"] },
      { id := "10.0.0.2:5555", state := "offline", transport := "wireless",
        hardwareID := "serial:R3" }] (List.pairwise_singleton _ _) (by decide)
  revert both
  rw [Apart]
  decide

end AdbControl.Server
