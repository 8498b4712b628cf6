import AdbControl.Framework.Classes
import AdbControl.Server.Handset

namespace AdbControl.Server

open Framework Remote

variable {left right id : String} {service service' : List Char}

/-- A serial belongs to one wireless service at most. -/
theorem Names.unique (h : Names service id) (h' : Names service' id) : service = service' := by
  obtain ⟨name, hid, hnumbered | ⟨hplain, hnot⟩⟩ := h
  · exact ((names_iff_of_numbered hid hnumbered).mp h').symm
  · rw [hplain]
    exact ((names_iff_of_plain hid hnot).mp h').symm

theorem sameHandset_equivalence : Equivalence SameHandset := by
  have keyed := @Classes.equivalence_eq_or_key String (List Char)
    (fun id service => service ≠ [] ∧ Names service id) (fun h h' => h.2.unique h'.2)
  have same : SameHandset = fun left right =>
      left = right ∨ ∃ service, (service ≠ [] ∧ Names service left) ∧
        service ≠ [] ∧ Names service right := by
    funext left right
    rw [SameHandset, eq_iff_iff]
    refine or_congr_right (exists_congr fun service => ?_)
    tauto
  rw [same]
  exact keyed

theorem equivalentDeviceID_equivalence :
    Equivalence fun left right => equivalentDeviceID left right = true := by
  simp only [server_same_iff]
  exact sameHandset_equivalence

theorem sameRemoteDeviceIdentity_equivalence :
    Equivalence fun left right => sameRemoteDeviceIdentity left right = true :=
  ⟨sameRemoteDeviceIdentity_refl, sameRemoteDeviceIdentity_symm, sameRemoteDeviceIdentity_trans⟩

/-- Different serials that the core takes for one handset are of one service. -/
theorem names_of_core_same (h : sameRemoteDeviceIdentity left right = true) (hne : left ≠ right) :
    ∃ service, Names service left ∧ Names service right := by
  obtain ⟨service, hl, hr⟩ := ((sameRemoteDeviceIdentity_iff left right).mp h).resolve_left hne
  obtain ⟨-, -, -, -, hleft⟩ := core_identity_iff.mp hl
  obtain ⟨-, -, -, -, hright⟩ := core_identity_iff.mp hr
  exact ⟨service, hleft, hright⟩

theorem names_of_server_same (h : equivalentDeviceID left right = true) (hne : left ≠ right) :
    ∃ service, Names service left ∧ Names service right := by
  obtain ⟨service, -, hleft, hright⟩ := (server_same_iff.mp h).resolve_left hne
  exact ⟨service, hleft, hright⟩

/-- The core's and the server's identity of serials are equivalences, neither takes two serials for
one handset that are not of one wireless service, and no serial is of two. -/
theorem device_identity_equivalence :
    Equivalence (fun left right => sameRemoteDeviceIdentity left right = true) ∧
    Equivalence (fun left right => equivalentDeviceID left right = true) ∧
    (∀ left right, sameRemoteDeviceIdentity left right = true ∨
      equivalentDeviceID left right = true → left ≠ right →
        ∃ service, Names service left ∧ Names service right) ∧
    ∀ left right service service', Names service left → Names service' right → service ≠ service' →
      sameRemoteDeviceIdentity left right = false ∧ equivalentDeviceID left right = false := by
  have named : ∀ left right, sameRemoteDeviceIdentity left right = true ∨
      equivalentDeviceID left right = true → left ≠ right →
        ∃ service, Names service left ∧ Names service right := by
    intro left right h hne
    rcases h with hcore | hserver
    · exact names_of_core_same hcore hne
    · exact names_of_server_same hserver hne
  refine ⟨sameRemoteDeviceIdentity_equivalence, equivalentDeviceID_equivalence, named, ?_⟩
  intro left right service service' hleft hright hdiffer
  have apart : ¬(sameRemoteDeviceIdentity left right = true ∨
      equivalentDeviceID left right = true) := by
    intro hsame
    by_cases he : left = right
    · exact hdiffer ((he ▸ hleft).unique hright)
    · obtain ⟨common, hl, hr⟩ := named left right hsame he
      exact hdiffer ((hleft.unique hl).trans (hr.unique hright))
  rw [not_or, Bool.not_eq_true, Bool.not_eq_true] at apart
  exact apart

end AdbControl.Server
