import AdbControl.Remote.Service
import AdbControl.Server.Device

namespace AdbControl.Server

open Framework Remote

/-- The ` (n)` that mDNS puts after a name that is taken. -/
def collision (number : List Char) : List Char := ' ' :: '(' :: (number ++ [')'])

/-- The name is the base with a collision number after it. -/
def Numbered (base name : List Char) : Prop :=
  ∃ number, number ≠ [] ∧ number.all isAsciiDigit = true ∧ name = base ++ collision number

/-- The serial belongs to a wireless service, up to a collision number. -/
def Names (service : List Char) (id : String) : Prop :=
  ∃ name, id.toList = name ++ mdnsSuffix ∧
    (Numbered service name ∨ service = name ∧ ∀ base, ¬Numbered base name)

/-- What an id means: the same serial, or a serial of the same wireless service. -/
def SameHandset (left right : String) : Prop :=
  left = right ∨ ∃ service, service ≠ [] ∧ Names service left ∧ Names service right

/-- A parenthesis is opened in the name, and the name does not end in a closing one. -/
def Unclosed (name : List Char) : Prop := " (".toList <:+: name ∧ ¬ [')'] <:+ name

section Names

variable {base name service : List Char} {id : String}

theorem Numbered.rfind (h : Numbered base name) : rfind " (".toList name = some base.length := by
  obtain ⟨number, -, hdigits, rfl⟩ := h
  have blank : ' ' ∉ number ++ [')'] := by
    intro hmem
    rcases List.mem_append.mp hmem with hnumber | hclose
    · have hdigit := List.all_eq_true.mp hdigits ' ' hnumber
      cases hdigit
    · simp at hclose
  exact @rfind_append ['('] ' ' (number ++ [')']) base (by decide) blank

theorem Numbered.closed (h : Numbered base name) : [')'] <:+ name := by
  obtain ⟨number, -, -, rfl⟩ := h
  exact ⟨base ++ ' ' :: '(' :: number, by simp [collision]⟩

/-- A name has at most one base. -/
theorem Numbered.unique {base' : List Char} (h : Numbered base name) (h' : Numbered base' name) :
    base = base' := by
  have hlength : base.length = base'.length := by
    have hsame := h.rfind.symm.trans h'.rfind
    exact Option.some.inj hsame
  obtain ⟨number, -, -, hname⟩ := h
  obtain ⟨number', -, -, hname'⟩ := h'
  exact List.append_inj_left (hname.symm.trans hname') hlength

theorem names_iff_of_numbered (hid : id.toList = name ++ mdnsSuffix) (h : Numbered base name) :
    Names service id ↔ service = base := by
  constructor
  · intro hn
    obtain ⟨name', hid', hcases⟩ := hn
    have hname : name' = name := List.append_cancel_right (hid'.symm.trans hid)
    rw [hname] at hcases
    rcases hcases with hnumbered | ⟨-, hnot⟩
    · exact hnumbered.unique h
    · exact absurd h (hnot base)
  · intro hs
    exact ⟨name, hid, Or.inl (hs ▸ h)⟩

theorem names_iff_of_plain (hid : id.toList = name ++ mdnsSuffix) (h : ∀ base, ¬Numbered base name) :
    Names service id ↔ service = name := by
  constructor
  · intro hn
    obtain ⟨name', hid', hcases⟩ := hn
    have hname : name' = name := List.append_cancel_right (hid'.symm.trans hid)
    rw [hname] at hcases
    rcases hcases with hnumbered | ⟨hs, -⟩
    · exact absurd hnumbered (h service)
    · exact hs
  · intro hs
    exact ⟨name, hid, Or.inr ⟨hs, h⟩⟩

/-- A service name opens no parenthesis, or leaves one open at its end, or ends in a pair. -/
theorem name_cases (name : List Char) :
    rfind " (".toList name = none ∨
    (∃ opening, rfind " (".toList name = some opening) ∧ ¬ [')'] <:+ name ∨
    ∃ base inner, name = base ++ collision inner ∧ rfind " (".toList name = some base.length := by
  cases hfound : rfind " (".toList name with
  | none => exact Or.inl rfl
  | some opening =>
    by_cases hclosed : [')'] <:+ name
    · obtain ⟨rest, hrest⟩ := rfind_occurs hfound
      obtain ⟨front, hfront⟩ := hclosed
      have hle : opening ≤ name.length := by
        by_contra hlt
        rw [List.drop_eq_nil_of_le (by omega)] at hrest
        cases hrest
      have hlength : (name.take opening).length = opening := List.length_take_of_le hle
      have parts : name = name.take opening ++ (" (".toList ++ rest) := by
        rw [hrest, List.take_append_drop]
      generalize name.take opening = lead at hlength parts
      rcases List.eq_nil_or_concat rest with hnil | ⟨inner, c, hconcat⟩
      · have ends : front ++ [')'] = (lead ++ [' ']) ++ ['('] := by
          rw [hfront, parts, hnil]
          simp
        have hlast := (List.append_inj' ends rfl).2
        cases hlast
      · have ends : front ++ [')'] = (lead ++ (" (".toList ++ inner)) ++ [c] := by
          rw [hfront, parts, hconcat]
          simp
        have hlast := (List.append_inj' ends rfl).2
        cases hlast
        refine Or.inr (Or.inr ⟨lead, inner, ?_, by rw [hlength]⟩)
        rw [parts, hconcat, List.concat_eq_append]
        rfl
    · exact Or.inr (Or.inl ⟨⟨opening, rfl⟩, hclosed⟩)

theorem unclosed_iff :
    Unclosed name ↔ (∃ opening, rfind " (".toList name = some opening) ∧ ¬ [')'] <:+ name := by
  rw [Unclosed, rfind_isSome_iff]

theorem not_numbered_of_none (h : rfind " (".toList name = none) : ¬Numbered base name := by
  intro hn
  rw [hn.rfind] at h
  cases h

theorem not_numbered_of_unclosed (h : Unclosed name) : ¬Numbered base name := by
  intro hn
  exact h.2 hn.closed

/-- A pair of parentheses without a number in it is no collision. -/
theorem numbered_collision_iff {base' inner : List Char} (hname : name = base ++ collision inner)
    (hfound : rfind " (".toList name = some base.length) :
    Numbered base' name ↔ base' = base ∧ inner ≠ [] ∧ inner.all isAsciiDigit = true := by
  constructor
  · intro hn
    have hlength : base'.length = base.length := by
      have hsame := hn.rfind.symm.trans hfound
      exact Option.some.inj hsame
    obtain ⟨number, hne, hdigits, hname'⟩ := hn
    obtain ⟨hbase, hrest⟩ := List.append_inj (hname'.symm.trans hname) hlength
    have hnumber : number = inner := by
      have htail := (List.cons.inj (List.cons.inj hrest).2).2
      exact List.append_cancel_right htail
    exact ⟨hbase, hnumber ▸ hne, hnumber ▸ hdigits⟩
  · intro h
    exact ⟨inner, h.2.1, h.2.2, h.1 ▸ hname⟩

end Names

section Core

variable {base inner name service : List Char} {id : String}

theorem dropSuffix_of_name (hid : id.toList = name ++ mdnsSuffix) :
    id.toList.dropSuffix? mdnsSuffix = some name :=
  List.dropSuffix?_eq_some_iff.mpr ⟨mdnsSuffix, hid, by simp⟩

/-- A serial is one of a wireless service, or of none. -/
theorem serial_cases (id : String) :
    (∃ name, id.toList = name ++ mdnsSuffix) ∨
      id.toList.dropSuffix? mdnsSuffix = none ∧ ∀ service, ¬Names service id := by
  cases h : id.toList.dropSuffix? mdnsSuffix with
  | none =>
    refine Or.inr ⟨rfl, ?_⟩
    intro service hn
    obtain ⟨name, hid, -⟩ := hn
    rw [dropSuffix_of_name hid] at h
    cases h
  | some name =>
    obtain ⟨tail, hid, htail⟩ := List.dropSuffix?_eq_some_iff.mp h
    rw [beq_iff_eq] at htail
    exact Or.inl ⟨name, htail ▸ hid⟩

theorem core_of_none (hid : id.toList = name ++ mdnsSuffix)
    (h : rfind " (".toList name = none) :
    normalizedMdnsServiceIdentity id = if name.isEmpty then none else some name := by
  simp only [normalizedMdnsServiceIdentity, dropSuffix_of_name hid, h]

theorem core_of_unclosed (hid : id.toList = name ++ mdnsSuffix) (h : Unclosed name) :
    normalizedMdnsServiceIdentity id = none := by
  obtain ⟨⟨opening, hfound⟩, hnot⟩ := unclosed_iff.mp h
  have hdrop : name.dropSuffix? [')'] = none := by
    cases hd : name.dropSuffix? [')'] with
    | none => rfl
    | some closed =>
      obtain ⟨tail, hname, htail⟩ := List.dropSuffix?_eq_some_iff.mp hd
      rw [beq_iff_eq] at htail
      exact absurd ⟨closed, by rw [hname, htail]⟩ hnot
  simp only [normalizedMdnsServiceIdentity, dropSuffix_of_name hid, hfound, hdrop]

theorem core_of_collision (hid : id.toList = name ++ mdnsSuffix)
    (hname : name = base ++ collision inner)
    (hfound : rfind " (".toList name = some base.length) :
    normalizedMdnsServiceIdentity id =
      if inner ≠ [] ∧ inner.all isAsciiDigit = true then some base else some name := by
  have hdrop : name.dropSuffix? [')'] = some (base ++ ' ' :: '(' :: inner) :=
    List.dropSuffix?_eq_some_iff.mpr ⟨[')'], by rw [hname, collision]; simp, by simp⟩
  have hinner : (base ++ ' ' :: '(' :: inner).drop (base.length + 2) = inner := by
    rw [List.drop_append, List.drop_eq_nil_of_le (by omega)]
    simp
  have hbase : name.take base.length = base := by rw [hname, List.take_left]
  have hne : name.isEmpty = false := by rw [hname, collision]; simp
  have hlong : ¬ (base ++ ' ' :: '(' :: inner).length < base.length + 2 := by simp
  simp only [normalizedMdnsServiceIdentity, dropSuffix_of_name hid, hfound, hdrop, if_neg hlong,
    hinner, hbase, hne]
  by_cases hi : inner = []
  · simp [hi]
  · simp [hi]

/-- What the core makes of a serial: the service it names, unless the service name is empty or
leaves a parenthesis open. -/
theorem core_identity_iff : normalizedMdnsServiceIdentity id = some service ↔
    ∃ name, id.toList = name ++ mdnsSuffix ∧ name ≠ [] ∧ ¬Unclosed name ∧ Names service id := by
  rcases serial_cases id with ⟨name, hid⟩ | ⟨hnone, hnot⟩
  · have only : (∃ name', id.toList = name' ++ mdnsSuffix ∧ name' ≠ [] ∧ ¬Unclosed name' ∧
        Names service id) ↔ name ≠ [] ∧ ¬Unclosed name ∧ Names service id := by
      constructor
      · intro h
        obtain ⟨name', hid', h⟩ := h
        rw [List.append_cancel_right (hid'.symm.trans hid)] at h
        exact h
      · intro h
        exact ⟨name, hid, h⟩
    rw [only]
    rcases name_cases name with hfound | hopen | ⟨base, inner, hname, hfound⟩
    · have closed : ¬Unclosed name := by
        intro h
        obtain ⟨⟨opening, hsome⟩, -⟩ := unclosed_iff.mp h
        rw [hfound] at hsome
        cases hsome
      rw [core_of_none hid hfound, names_iff_of_plain hid (fun base => not_numbered_of_none hfound)]
      by_cases hempty : name = []
      · simp [hempty]
      · rw [if_neg (by simpa using hempty), Option.some.injEq]
        exact ⟨fun h => ⟨hempty, closed, h.symm⟩, fun h => h.2.2.symm⟩
    · have hunclosed := unclosed_iff.mpr hopen
      rw [core_of_unclosed hid hunclosed]
      simp [hunclosed]
    · have closed : ¬Unclosed name := by
        intro h
        exact h.2 ⟨base ++ ' ' :: '(' :: inner, by rw [hname, collision]; simp⟩
      have hne : name ≠ [] := by rw [hname, collision]; simp
      rw [core_of_collision hid hname hfound]
      split_ifs with hnumber
      · have numbered := (numbered_collision_iff hname hfound).mpr ⟨rfl, hnumber⟩
        rw [names_iff_of_numbered hid numbered]
        simp [hne, closed, eq_comm]
      · have plain (base' : List Char) : ¬Numbered base' name := by
          intro h
          exact hnumber ((numbered_collision_iff hname hfound).mp h).2
        rw [names_iff_of_plain hid plain]
        simp [hne, closed, eq_comm]
  · have unnamed : normalizedMdnsServiceIdentity id = none := by
      simp only [normalizedMdnsServiceIdentity, hnone]
    rw [unnamed]
    simp [hnot]

/-- What the server makes of a serial: the service it names. -/
theorem server_identity_iff (hservice : service ≠ []) :
    normalizedMDNSServiceIdentity id = service ↔ Names service id := by
  rcases serial_cases id with ⟨name, hid⟩ | ⟨hnone, hnot⟩
  · have hdrop : id.toList.dropSuffix? "._adb-tls-connect._tcp".toList = some name :=
      dropSuffix_of_name hid
    simp only [normalizedMDNSServiceIdentity, hdrop]
    rcases name_cases name with hfound | ⟨⟨opening, hfound⟩, hopen⟩ | ⟨base, inner, hname, hfound⟩
    · rw [names_iff_of_plain hid (fun base => not_numbered_of_none hfound)]
      simp only [hfound]
      exact eq_comm
    · have hunclosed := unclosed_iff.mpr ⟨⟨opening, hfound⟩, hopen⟩
      rw [names_iff_of_plain hid (fun base => not_numbered_of_unclosed hunclosed)]
      simp only [hfound, if_neg hopen]
      exact eq_comm
    · have closed : [')'] <:+ name := ⟨base ++ ' ' :: '(' :: inner, by rw [hname, collision]; simp⟩
      have hfront : name = (base ++ [' ', '('] ++ inner) ++ [')'] := by
        rw [hname, collision]
        simp
      have hinner : (name.take (name.length - 1)).drop (base.length + 2) = inner := by
        rw [← List.dropLast_eq_take, hfront, List.dropLast_concat]
        exact List.drop_left' (by simp)
      have hbase : name.take base.length = base := by rw [hname, List.take_left]
      simp only [hfound, if_pos closed, hinner, hbase]
      split_ifs with hnumber
      · have numbered := (numbered_collision_iff hname hfound).mpr ⟨rfl, hnumber⟩
        rw [names_iff_of_numbered hid numbered]
        exact eq_comm
      · have plain (base' : List Char) : ¬Numbered base' name := by
          intro h
          exact hnumber ((numbered_collision_iff hname hfound).mp h).2
        rw [names_iff_of_plain hid plain]
        exact eq_comm
  · have hdrop : id.toList.dropSuffix? "._adb-tls-connect._tcp".toList = none := hnone
    simp only [normalizedMDNSServiceIdentity, hdrop]
    exact iff_of_false (Ne.symm hservice) (hnot service)

end Core

section Pairs

variable {left right : String}

/-- One service name leaves a parenthesis open, and the other one is its collision. -/
def OddPair (left right : String) : Prop :=
  ∃ name numbered, Unclosed name ∧ Numbered name numbered ∧
    (left.toList = name ++ mdnsSuffix ∧ right.toList = numbered ++ mdnsSuffix ∨
      right.toList = name ++ mdnsSuffix ∧ left.toList = numbered ++ mdnsSuffix)

/-- Two different collisions of the empty service name. -/
def EmptyPair (left right : String) : Prop :=
  left ≠ right ∧ ∃ name name', Numbered [] name ∧ Numbered [] name' ∧
    left.toList = name ++ mdnsSuffix ∧ right.toList = name' ++ mdnsSuffix

theorem OddPair.symm (h : OddPair left right) : OddPair right left := by
  obtain ⟨name, numbered, hopen, hnumbered, hsides⟩ := h
  exact ⟨name, numbered, hopen, hnumbered, hsides.symm⟩

theorem Numbered.not_unclosed {base name : List Char} (h : Numbered base name) :
    ¬Unclosed name := by
  intro hopen
  exact hopen.2 h.closed

theorem Numbered.ne_nil {base name : List Char} (h : Numbered base name) : name ≠ [] := by
  obtain ⟨number, -, -, rfl⟩ := h
  simp [collision]

theorem OddPair.ne (h : OddPair left right) : left ≠ right := by
  intro he
  obtain ⟨name, numbered, hopen, hnumbered, ⟨hl, hr⟩ | ⟨hr, hl⟩⟩ := h
  · rw [he] at hl
    have hname : name = numbered := List.append_cancel_right (hl.symm.trans hr)
    exact hnumbered.not_unclosed (hname ▸ hopen)
  · rw [he] at hl
    have hname : name = numbered := List.append_cancel_right (hr.symm.trans hl)
    exact hnumbered.not_unclosed (hname ▸ hopen)

/-- The two serials of an odd pair belong to one service. -/
theorem OddPair.sameHandset (h : OddPair left right) : SameHandset left right := by
  obtain ⟨name, numbered, hopen, hnumbered, hsides⟩ := h
  have hne : name ≠ [] := by
    intro hnil
    have hinfix := hopen.1
    rw [hnil] at hinfix
    cases List.infix_nil.mp hinfix
  have open_names {id : String} (hid : id.toList = name ++ mdnsSuffix) : Names name id :=
    (names_iff_of_plain hid (fun base => not_numbered_of_unclosed hopen)).mpr rfl
  have numbered_names {id : String} (hid : id.toList = numbered ++ mdnsSuffix) : Names name id :=
    (names_iff_of_numbered hid hnumbered).mpr rfl
  rcases hsides with ⟨hl, hr⟩ | ⟨hr, hl⟩
  · exact Or.inr ⟨name, hne, open_names hl, numbered_names hr⟩
  · exact Or.inr ⟨name, hne, numbered_names hl, open_names hr⟩

theorem EmptyPair.not_sameHandset (h : EmptyPair left right) : ¬SameHandset left right := by
  obtain ⟨hne, name, name', hn, hn', hl, hr⟩ := h
  intro hsame
  rcases hsame with he | ⟨service, hservice, hleft, -⟩
  · exact hne he
  · exact hservice ((names_iff_of_numbered hl hn).mp hleft)

/-- The server tells handsets apart as they are meant to be. -/
theorem server_same_iff : equivalentDeviceID left right = true ↔ SameHandset left right := by
  unfold equivalentDeviceID SameHandset
  split_ifs with he
  · simp [he]
  · rw [decide_eq_true_iff, or_iff_right he]
    constructor
    · intro h
      exact ⟨_, h.1, (server_identity_iff h.1).mp rfl, (server_identity_iff h.1).mp h.2.symm⟩
    · intro h
      obtain ⟨service, hservice, hl, hr⟩ := h
      have left_name := (server_identity_iff hservice).mpr hl
      have right_name := (server_identity_iff hservice).mpr hr
      rw [left_name, right_name]
      exact ⟨hservice, rfl⟩

/-- Of two different serials of one service that are no odd pair, neither leaves a parenthesis
open. -/
theorem closed_of_same {service name : List Char} (hne : left ≠ right) (hodd : ¬OddPair left right)
    (hl : Names service left) (hr : Names service right) (hid : left.toList = name ++ mdnsSuffix) :
    ¬Unclosed name := by
  intro hopen
  rw [(names_iff_of_plain hid (fun base => not_numbered_of_unclosed hopen)).mp hl] at hr
  obtain ⟨name', hid', hnumbered | ⟨hname, -⟩⟩ := hr
  · exact hodd ⟨name, name', hopen, hnumbered, Or.inl ⟨hid, hid'⟩⟩
  · rw [← hname] at hid'
    exact hne (String.toList_inj.mp (hid.trans hid'.symm))

/-- The core tells handsets apart as they are meant to be, but for the two kinds of pairs. -/
theorem core_same_iff : sameRemoteDeviceIdentity left right = true ↔
    SameHandset left right ∧ ¬OddPair left right ∨ EmptyPair left right := by
  rw [sameRemoteDeviceIdentity_iff]
  by_cases he : left = right
  · have same : SameHandset left right := Or.inl he
    have even : ¬OddPair left right := fun h => h.ne he
    exact iff_of_true (Or.inl he) (Or.inl ⟨same, even⟩)
  · rw [or_iff_right he]
    constructor
    · intro h
      obtain ⟨service, hl, hr⟩ := h
      obtain ⟨name, hid, hne, hclosed, hnames⟩ := core_identity_iff.mp hl
      obtain ⟨name', hid', hne', hclosed', hnames'⟩ := core_identity_iff.mp hr
      by_cases hservice : service = []
      · have base_nil {id : String} {n : List Char} (h : id.toList = n ++ mdnsSuffix) (hn : n ≠ [])
            (hnames : Names service id) : Numbered [] n := by
          obtain ⟨n', h', hnumbered | ⟨hs, -⟩⟩ := hnames
          · rw [List.append_cancel_right (h'.symm.trans h), hservice] at hnumbered
            exact hnumbered
          · rw [List.append_cancel_right (h'.symm.trans h), hservice] at hs
            exact absurd hs.symm hn
        exact Or.inr ⟨he, name, name', base_nil hid hne hnames, base_nil hid' hne' hnames', hid,
          hid'⟩
      · refine Or.inl ⟨Or.inr ⟨service, hservice, hnames, hnames'⟩, ?_⟩
        intro hodd
        obtain ⟨n, n', hopen, hnumbered, ⟨h, -⟩ | ⟨h, -⟩⟩ := hodd
        · exact hclosed (List.append_cancel_right (h.symm.trans hid) ▸ hopen)
        · exact hclosed' (List.append_cancel_right (h.symm.trans hid') ▸ hopen)
    · intro h
      rcases h with ⟨hsame, hodd⟩ | ⟨-, name, name', hn, hn', hid, hid'⟩
      · obtain ⟨service, hservice, hl, hr⟩ := hsame.resolve_left he
        have named {id : String} (hnames : Names service id)
            (hclosed : ∀ n, id.toList = n ++ mdnsSuffix → ¬Unclosed n) :
            normalizedMdnsServiceIdentity id = some service := by
          have hall := hnames
          obtain ⟨n, hid, hcases⟩ := hnames
          have hn : n ≠ [] := by
            rcases hcases with hnumbered | ⟨hs, -⟩
            · exact hnumbered.ne_nil
            · exact hs ▸ hservice
          exact core_identity_iff.mpr ⟨n, hid, hn, hclosed n hid, hall⟩
        exact ⟨service, named hl (fun n hid => closed_of_same he hodd hl hr hid),
          named hr (fun n hid => closed_of_same (Ne.symm he) (fun h => hodd h.symm) hr hl hid)⟩
      · exact ⟨[], core_identity_iff.mpr ⟨name, hid, hn.ne_nil, hn.not_unclosed,
            (names_iff_of_numbered hid hn).mpr rfl⟩,
          core_identity_iff.mpr ⟨name', hid', hn'.ne_nil, hn'.not_unclosed,
            (names_iff_of_numbered hid' hn').mpr rfl⟩⟩

/-- The core and the server answer alike but for the two kinds of pairs. -/
theorem same_identity_iff : sameRemoteDeviceIdentity left right = equivalentDeviceID left right ↔
    ¬OddPair left right ∧ ¬EmptyPair left right := by
  rw [Bool.eq_iff_iff, core_same_iff, server_same_iff]
  constructor
  · intro h
    refine ⟨?_, ?_⟩
    · intro hodd
      rcases h.mpr hodd.sameHandset with ⟨-, hnot⟩ | hempty
      · exact hnot hodd
      · exact hempty.not_sameHandset hodd.sameHandset
    · intro hempty
      exact hempty.not_sameHandset (h.mp (Or.inr hempty))
  · intro h
    constructor
    · intro hcore
      exact (hcore.resolve_right h.2).1
    · intro hsame
      exact Or.inl ⟨hsame, h.1⟩

end Pairs

end AdbControl.Server
