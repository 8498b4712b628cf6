import AdbControl.Server.CatalogCards

namespace AdbControl.Server

open Framework

/-- The hardware id is a serial number that was read from the device. -/
def hasSerial (device : Device) : Bool := startsWith device.hardwareID "serial:"

/-- A live device that is another phone than the card, by the serial numbers of both. -/
def Foreign (card current : Device) : Prop :=
  hasSerial card = true ∧ hasSerial current = true ∧ card.hardwareID ≠ current.hardwareID

instance (card current : Device) : Decidable (Foreign card current) :=
  inferInstanceAs (Decidable (_ ∧ _ ∧ _))

/-- No card is returned as another phone. -/
def SerialsKept (remembered result : List Device) : Prop :=
  ∀ p ∈ remembered.zip result, ¬Foreign p.1 p.2

/-- When a card's turn comes, each other phone that is still free, and has an id or an alias in common
with the card, comes after a free live device that is the same as the card. -/
def Shadowed (remembered live : List Device) : Prop :=
  ∀ before card after, remembered = before ++ card :: after →
    ∀ earlier current later, (takeovers before live).2 = earlier ++ current :: later →
      Foreign card current →
      card.ids.any (fun x => current.ids.any (fun y => equivalentDeviceID x y)) = true →
      ∃ other ∈ earlier, sameCatalogDevice card other = true

variable {remembered live : List Device} {card current : Device}

/-- Another phone is taken for the same by the ids alone. -/
theorem sameCatalogDevice_of_foreign (h : Foreign card current) :
    sameCatalogDevice card current =
      card.ids.any (fun x => current.ids.any (fun y => equivalentDeviceID x y)) := by
  rw [sameCatalogDevice, if_neg]
  rintro ⟨-, -, hsame⟩
  exact h.2.2 hsame

/-- A card becomes another phone when a live device that is one takes it over. -/
theorem foreign_cardOf (card : Device) (taker : Option Device) :
    Foreign card (cardOf (card, taker)) ↔ ∃ current, taker = some current ∧ Foreign card current := by
  cases taker with
  | none =>
    refine iff_of_false ?_ (by simp)
    rintro ⟨-, -, hne⟩
    exact hne rfl
  | some current =>
    simp only [Option.some.injEq, exists_eq_left']
    by_cases hempty : current.hardwareID = ""
    · refine iff_of_false ?_ ?_
      · rintro ⟨-, -, hne⟩
        exact hne (by simp [cardOf, mergeDevice, hempty])
      · rintro ⟨-, hserial, -⟩
        rw [hasSerial, hempty] at hserial
        exact absurd hserial (by decide)
    · have own : (cardOf (card, some current)).hardwareID = current.hardwareID := by
        simp [cardOf, mergeDevice, hempty]
      rw [Foreign, Foreign, hasSerial, hasSerial, hasSerial, own]

theorem serialsKept_mergeDevices (remembered live : List Device) :
    SerialsKept remembered (mergeDevices remembered live) ↔
      ∀ card current, (card, some current) ∈ (takeovers remembered live).1 →
        ¬Foreign card current := by
  have pairs : remembered.zip (mergeDevices remembered live) =
      (takeovers remembered live).1.map fun p => (p.1, cardOf p) := by
    have cards : remembered = (takeovers remembered live).1.map Prod.fst ++ [] := by
      rw [List.append_nil]
      exact (greedy_items sameCatalogDevice remembered live).symm
    rw [mergeDevices_eq]
    generalize takeovers remembered live = merged at cards ⊢
    rw [cards, List.zip_append (by simp), List.zip_nil_left, List.append_nil, List.zip_map']
  rw [SerialsKept, pairs, List.forall_mem_map]
  constructor
  · intro h card current hmem hforeign
    exact h _ hmem ((foreign_cardOf card (some current)).mpr ⟨current, rfl, hforeign⟩)
  · rintro h ⟨card, taker⟩ hmem hforeign
    obtain ⟨current, rfl, hcurrent⟩ := (foreign_cardOf card taker).mp hforeign
    exact h card current hmem hcurrent

/-- The first free live device that is the same as a card is never another phone exactly when those
are shadowed. -/
theorem shadowed_iff (remembered live : List Device) :
    Shadowed remembered live ↔ ∀ card current,
      (card, some current) ∈ (takeovers remembered live).1 → ¬Foreign card current := by
  constructor
  · intro h card current hmem hforeign
    obtain ⟨before, after, hcards, hfind⟩ := greedy_taken_iff.mp hmem
    obtain ⟨hsame, earlier, later, hfree, hearlier⟩ := List.find?_eq_some_iff_append.mp hfind
    obtain ⟨other, hother, hsame'⟩ := h before card after hcards earlier current later hfree hforeign
      (by rw [← sameCatalogDevice_of_foreign hforeign]; exact hsame)
    have := hearlier other hother
    rw [hsame'] at this
    cases this
  · intro h before card after hcards earlier current later hfree hforeign hids
    by_contra hnone
    push Not at hnone
    refine h card current (greedy_taken_iff.mpr ⟨before, after, hcards, ?_⟩) hforeign
    rw [List.find?_eq_some_iff_append]
    refine ⟨?_, earlier, later, hfree, fun other hother => by simpa using hnone other hother⟩
    rw [sameCatalogDevice_of_foreign hforeign]
    exact hids

/-- Alice's phone is seen, and gets its remark. -/
def aliceRemembered : Catalog :=
  run CatalogOp.step .newMemoryCatalog
    [.merge ⟨true, true, true, true, true⟩
      [{ id := "192.168.0.9:5555", name := "Pixel 7", state := "device", transport := "wireless",
          hardwareID := "serial:A1" }],
    .setRemark ⟨true, true, true, true, true⟩ "192.168.0.9:5555" "Alice"]

/-- Then her address is given to Bob's phone. -/
def bobsPhone : Device :=
  { id := "192.168.0.9:5555", name := "Galaxy S9", state := "device", transport := "wireless",
    hardwareID := "serial:B2" }

end AdbControl.Server
