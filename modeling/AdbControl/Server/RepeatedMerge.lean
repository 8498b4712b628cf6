import AdbControl.Framework.Grouping
import AdbControl.Server.CatalogCards

namespace AdbControl.Server

open Framework

attribute [ext] Device

/-- No alias is empty, and none of the ids of the device is there twice. -/
def Tidy (device : Device) : Prop := device.ids.Nodup ∧ "" ∉ device.aliases

instance (device : Device) : Decidable (Tidy device) := inferInstanceAs (Decidable (_ ∧ _))

/-- A live device without a name gets the name of a card that is called by the live device's id; in
the card that this makes, the name is no longer one. -/
def LosesName (card current : Device) : Prop :=
  current.name = "" ∧ card.name = current.id ∧ card.name ≠ "" ∧ card.name ≠ card.id

/-- The live devices that no card takes over are tidy, and no other loses the name it is given. -/
def Settled (remembered live : List Device) : Prop :=
  (∀ card current, (card, some current) ∈ (takeovers remembered live).1 →
    ¬LosesName card current) ∧
  ∀ current ∈ (takeovers remembered live).2, Tidy current

variable {card current : Device}

/-- An alias that a merged card can have. -/
def isAlias (primary : String) (value : String) : Bool := value != "" && value != primary

/-- The aliases of a merged card are the aliases and the ids that come together in it, each where it
is first, without empty ones and its primary id. -/
theorem mergeDevice_aliases (card current : Device) : (mergeDevice card current).aliases =
    ((current.aliases ++ card.ids).filter (isAlias current.id)).eraseDups := by
  have joined : appendUnique (appendUnique current.aliases [card.id]) card.aliases =
      ((current.aliases ++ card.ids).filter (fun value => value != "")).eraseDups := by
    have spelled : current.aliases ++ card.ids = (current.aliases ++ [card.id]) ++ card.aliases := by
      simp [Device.ids]
    rw [appendUnique_eq, appendUnique_eq, List.filter_append, filter_eraseDups, List.filter_filter,
      eraseDups_eraseDups_append, spelled, List.filter_append (current.aliases ++ [card.id])]
    simp only [Bool.and_self]
  show aliasesWithoutPrimary current.id _ = _
  rw [joined, aliasesWithoutPrimary, filter_eraseDups, List.filter_filter]
  congr 1
  apply List.filter_congr
  intro value _
  rw [isAlias, Bool.and_comm]

/-- Merging a live device into its own card again adds no alias. -/
theorem mergeDevice_aliases_again (card current : Device) :
    (mergeDevice (mergeDevice card current).offline current).aliases =
      (mergeDevice card current).aliases := by
  set values := (current.aliases ++ card.ids).filter (isAlias current.id) with hvalues
  have first : (mergeDevice card current).aliases = values.eraseDups := mergeDevice_aliases _ _
  have kept : values.eraseDups.filter (isAlias current.id) = values.eraseDups := by
    rw [filter_eraseDups, hvalues, List.filter_filter]
    simp
  have second : (mergeDevice (mergeDevice card current).offline current).aliases =
      (current.aliases.filter (isAlias current.id) ++ values.eraseDups).eraseDups := by
    rw [mergeDevice_aliases]
    show ((current.aliases ++ current.id :: (mergeDevice card current).aliases).filter
      (isAlias current.id)).eraseDups = _
    rw [first, List.filter_append, List.filter_cons_of_neg (by simp [isAlias]), kept]
  rw [second, first, hvalues, List.filter_append, eraseDups_append_eraseDups]

/-- A live device is its own card when it is tidy. -/
theorem mergeDevice_self_iff (current : Device) :
    mergeDevice current.offline current = current ↔ Tidy current := by
  have aliases : (mergeDevice current.offline current).aliases =
      (current.aliases.filter (isAlias current.id)).eraseDups := by
    rw [mergeDevice_aliases]
    show ((current.aliases ++ current.id :: current.aliases).filter (isAlias current.id)).eraseDups = _
    rw [List.filter_append, List.filter_cons_of_neg (by simp [isAlias]),
      eraseDups_append_of_subset (fun _ h => h)]
  have others : mergeDevice current.offline current = current ↔
      (mergeDevice current.offline current).aliases = current.aliases := by
    constructor
    · exact congrArg Device.aliases
    · intro h
      rw [Device.ext_iff]
      refine ⟨rfl, ?_, rfl, ?_, ?_, rfl, rfl, ?_, h⟩ <;> exact ite_self _
  rw [others, aliases, Tidy, Device.ids, List.nodup_cons]
  constructor
  · intro same
    have each (value : String) (hvalue : value ∈ current.aliases) :
        isAlias current.id value = true := by
      rw [← same, List.mem_eraseDups, List.mem_filter] at hvalue
      exact hvalue.2
    have distinct := nodup_eraseDups (current.aliases.filter (isAlias current.id))
    rw [same] at distinct
    refine ⟨⟨fun hmem => ?_, distinct⟩, fun hmem => ?_⟩
    · simpa [isAlias] using each _ hmem
    · simpa [isAlias] using each _ hmem
  · rintro ⟨⟨hprimary, distinct⟩, hempty⟩
    have all : current.aliases.filter (isAlias current.id) = current.aliases := by
      rw [List.filter_eq_self]
      intro value hvalue
      have named := ne_of_mem_of_not_mem hvalue hempty
      have other := ne_of_mem_of_not_mem hvalue hprimary
      simp [isAlias, named, other]
    rw [all, eraseDups_of_nodup distinct]

theorem mergeDevice_again_iff (card current : Device) :
    mergeDevice (mergeDevice card current).offline current = mergeDevice card current ↔
      ¬LosesName card current := by
  have name : mergeDevice (mergeDevice card current).offline current = mergeDevice card current ↔
      (mergeDevice (mergeDevice card current).offline current).name =
        (mergeDevice card current).name := by
    constructor
    · exact congrArg Device.name
    · intro h
      rw [Device.ext_iff]
      refine ⟨rfl, h, rfl, ?_, ?_, rfl, rfl, ?_, mergeDevice_aliases_again card current⟩ <;>
        simp only [mergeDevice, Device.offline] <;> split_ifs <;> rfl
  rw [name, LosesName]
  simp only [mergeDevice, Device.offline]
  grind

/-- Merged again, every card is matched as before, and every other live device with its own card. -/
theorem mergeDevices_again {remembered live : List Device} (apart : Apart live) :
    mergeDevices ((mergeDevices remembered live).map Device.offline) live =
      (takeovers remembered live).1.map (fun p => cardOf ((cardOf p).offline, p.2)) ++
        (takeovers remembered live).2.map fun current => mergeDevice current.offline current := by
  have hself (current : Device) : sameCatalogDevice current.offline current = true := by
    rw [sameCatalogDevice_iff, offline_marks, disjoint_self]
    exact (marks_nonempty current).ne_empty
  have halone (card current : Device) :
      sameCatalogDevice (cardOf (card, none)).offline current = sameCatalogDevice card current := rfl
  have htaken (card current : Device) (_ : sameCatalogDevice card current = true) :
      sameCatalogDevice (cardOf (card, some current)).offline current = true := by
    rw [sameCatalogDevice_iff, Set.not_disjoint_iff]
    have primary (ids : List String) : markOf current.id ∈
        { m | ∃ x ∈ current.id :: ids, m = markOf x } := ⟨_, List.mem_cons_self, rfl⟩
    exact ⟨markOf current.id, Or.inr (primary _), Or.inr (primary _)⟩
  have hother (card current other : Device) (_ : sameCatalogDevice card current = true)
      (hapart : sameCatalogDevice other current = false)
      (hcard : sameCatalogDevice card other = false) :
      sameCatalogDevice (cardOf (card, some current)).offline other = false := by
    rw [← Bool.not_eq_true, sameCatalogDevice_iff, not_not] at hapart hcard ⊢
    rw [offline_marks, cardOf_marks, mergedLabels, Set.disjoint_union_left]
    exact ⟨hcard.mono_left (keptMarks_subset card _),
      hapart.symm.mono_left (broughtMarks_subset current)⟩
  have again := @greedy_again _ _ sameCatalogDevice (fun p => (cardOf p).offline) Device.offline
    (fun d e => sameCatalogDevice d e = false) hself halone htaken hother remembered live apart
  have stored : (mergeDevices remembered live).map Device.offline =
      (takeovers remembered live).1.map (fun p => (cardOf p).offline) ++
        (takeovers remembered live).2.map Device.offline := by
    rw [mergeDevices_eq, List.map_append, List.map_map]
    rfl
  rw [stored, mergeDevices_eq]
  simp only [takeovers, again, List.map_append, List.map_map, List.append_nil]
  rfl

theorem mergeDevices_again_iff {remembered live : List Device} (apart : Apart live) :
    mergeDevices ((mergeDevices remembered live).map Device.offline) live =
      mergeDevices remembered live ↔ Settled remembered live := by
  rw [mergeDevices_again apart, mergeDevices_eq remembered live,
    List.append_eq_append_iff_of_size_eq_left (by simp)]
  have left : (takeovers remembered live).2.map
        (fun current => mergeDevice current.offline current) = (takeovers remembered live).2 ↔
      ∀ current ∈ (takeovers remembered live).2, Tidy current := by
    nth_rewrite 2 [← List.map_id (takeovers remembered live).2]
    rw [List.map_inj_left]
    exact forall₂_congr fun current _ => mergeDevice_self_iff current
  rw [List.map_inj_left, left, Settled]
  refine and_congr ?_ Iff.rfl
  constructor
  · intro h card current hmem
    exact (mergeDevice_again_iff card current).mp (h _ hmem)
  · rintro h ⟨card, taker⟩ hmem
    cases taker with
    | none => rfl
    | some current => exact (mergeDevice_again_iff card current).mpr (h card current hmem)

/-- Live devices with names that are tidy settle at once, whatever is remembered. -/
theorem settled_of_tidy (remembered : List Device) {live : List Device}
    (h : ∀ current ∈ live, current.name ≠ "" ∧ Tidy current) : Settled remembered live := by
  constructor
  · rintro card current hmem ⟨hname, -⟩
    exact (h current (greedy_mem_candidate hmem)).1 hname
  · intro current hmem
    exact (h current ((greedy_left_sublist sameCatalogDevice remembered live).subset hmem)).2

namespace Catalog

/-- Of live devices that are apart, a second merge returns the list again and leaves the catalog as it
is exactly when the first has settled them; named, tidy devices always are. -/
theorem merge_again (c : Catalog) (io io' : SaveOutcome) (live result : List Device)
    (apart : Apart live) (h : (c.merge io live).2 = .ok result) :
    ((c.merge io live).1.merge io' live = ((c.merge io live).1, .ok result) ↔
      Settled c.devices live) ∧
    ((∀ current ∈ live, current.name ≠ "" ∧ Tidy current) → Settled c.devices live) := by
  refine ⟨?_, settled_of_tidy c.devices⟩
  obtain ⟨hresult, hallocated, hdevices⟩ : result = mergeDevices c.devices live ∧
      (c.merge io live).1.allocated = true ∧
        (c.merge io live).1.devices = result.map Device.offline := by
    rcases c.merge_cases io live with ⟨hallocated, hsame, hmerge⟩ | ⟨file, -, hmerge⟩ |
      ⟨file, -, hmerge⟩
    · rw [hmerge] at h ⊢
      cases h
      exact ⟨rfl, hallocated, hsame.symm⟩
    · rw [hmerge] at h ⊢
      cases h
      exact ⟨rfl, rfl, rfl⟩
    · rw [hmerge] at h
      cases h
  generalize (c.merge io live).1 = merged at hallocated hdevices ⊢
  rw [← mergeDevices_again_iff apart, ← hresult, ← hdevices]
  constructor
  · intro hagain
    rcases merged.merge_cases io' live with ⟨-, -, hmerge⟩ | ⟨file, -, hmerge⟩ | ⟨file, -, hmerge⟩
    · rw [hmerge] at hagain
      exact Except.ok.inj (congrArg Prod.snd hagain)
    · rw [hmerge] at hagain
      exact Except.ok.inj (congrArg Prod.snd hagain)
    · rw [hmerge] at hagain
      cases congrArg Prod.snd hagain
  · intro hagain
    rw [merge, hagain, if_pos ⟨hallocated, hdevices.symm⟩]

/-- A phone that is listed with a tidy alias. -/
def pixel : Device :=
  { id := "R58M123456", name := "Pixel 7", state := "device", transport := "usb",
    hardwareID := "serial:R58M123456", aliases := ["192.168.0.9:5555"] }

theorem merge_again_pixel :
    (newMemoryCatalog.merge ⟨true, true, true, true, true⟩ [pixel]).1.merge
        ⟨false, false, false, false, false⟩ [pixel] =
      ((newMemoryCatalog.merge ⟨true, true, true, true, true⟩ [pixel]).1, .ok [pixel]) :=
  ((merge_again newMemoryCatalog ⟨true, true, true, true, true⟩ ⟨false, false, false, false, false⟩
    [pixel] [pixel] (List.pairwise_singleton _ _) (by decide)).1).mpr
      (settled_of_tidy [] (by decide))

/-- A live device that has an alias twice. -/
def doubled : Device := { id := "A", name := "A", aliases := ["B", "B"] }

/-- A live device without a name, and a card that has its id for a name. -/
def nameless : Device := { id := "R58M123456", hardwareID := "serial:A" }

def namesake : Catalog :=
  (newMemoryCatalog.merge ⟨true, true, true, true, true⟩
    [{ id := "usb-7", name := "R58M123456", hardwareID := "serial:A" }]).1

/-- At the second merge the second of the aliases goes, and so does the name. -/
theorem second_merge_differs :
    (¬∀ (c : Catalog) (io : SaveOutcome) (live result : List Device), Apart live →
      (∀ current ∈ live, current.name ≠ "") → (c.merge io live).2 = .ok result →
      ((c.merge io live).1.merge io live).2 = .ok result) ∧
    ¬∀ (c : Catalog) (io : SaveOutcome) (live result : List Device), Apart live →
      (∀ current ∈ live, Tidy current) → (c.merge io live).2 = .ok result →
      ((c.merge io live).1.merge io live).2 = .ok result := by
  constructor
  · intro h
    have again := h newMemoryCatalog ⟨true, true, true, true, true⟩ [doubled] [doubled]
      (List.pairwise_singleton _ _) (by decide) (by decide)
    exact absurd again (by decide)
  · intro h
    have again := h namesake ⟨true, true, true, true, true⟩ [nameless]
      [{ nameless with name := "R58M123456", aliases := ["usb-7"] }]
      (List.pairwise_singleton _ _) (by decide) (by decide)
    exact absurd again (by decide)

end Catalog

end AdbControl.Server
