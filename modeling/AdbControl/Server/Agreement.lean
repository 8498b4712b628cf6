import AdbControl.Server.Handset

namespace AdbControl.Server

open Framework Remote

section Pick

variable {α β : Type*}

/-- Two searches that find no common key in different places give the same key exactly when the
first item that either of them takes is taken by both. -/
theorem find?_map_eq_iff (key : α → β) (p q : α → Bool) (xs : List α)
    (hp : ∀ x ∈ xs, ∀ y ∈ xs, p x = true → q x = false → q y = true → key x ≠ key y)
    (hq : ∀ x ∈ xs, ∀ y ∈ xs, q x = true → p x = false → p y = true → key x ≠ key y) :
    (xs.find? p).map key = (xs.find? q).map key ↔
      ∀ before x after, xs = before ++ x :: after → (∀ b ∈ before, p b = false ∧ q b = false) →
        (p x = true ∨ q x = true) → p x = true ∧ q x = true := by
  induction xs with
  | nil => simp
  | cons x xs ih =>
    have apart {f g : α → Bool} (hf : f x = true) (hg : g x = false)
        (hfg : ∀ y ∈ x :: xs, g y = true → key x ≠ key y) :
        ¬(some (key x) = (xs.find? g).map key) := by
      intro h
      obtain ⟨y, hy, hkey⟩ := Option.map_eq_some_iff.mp h.symm
      exact hfg y (List.mem_cons_of_mem x (List.mem_of_find?_eq_some hy)) (List.find?_some hy)
        hkey.symm
    cases hpx : p x with
    | true =>
      cases hqx : q x with
      | true =>
        rw [List.find?_cons_of_pos hpx, List.find?_cons_of_pos hqx]
        refine iff_of_true rfl ?_
        intro before y after hsplit hbefore htaken
        cases before with
        | nil =>
          cases hsplit
          exact ⟨hpx, hqx⟩
        | cons b before =>
          cases hsplit
          rw [(hbefore x List.mem_cons_self).1] at hpx
          cases hpx
      | false =>
        rw [List.find?_cons_of_pos hpx, List.find?_cons_of_neg (by simp [hqx])]
        refine iff_of_false (apart hpx hqx (fun y hy hqy => hp x List.mem_cons_self y hy hpx hqx hqy))
          ?_
        intro h
        have both := h [] x xs rfl (by simp) (Or.inl hpx)
        rw [hqx] at both
        cases both.2
    | false =>
      cases hqx : q x with
      | true =>
        rw [List.find?_cons_of_neg (by simp [hpx]), List.find?_cons_of_pos hqx]
        refine iff_of_false ?_ ?_
        · intro h
          exact apart hqx hpx (fun y hy hpy => hq x List.mem_cons_self y hy hqx hpx hpy) h.symm
        · intro h
          have both := h [] x xs rfl (by simp) (Or.inr hqx)
          rw [hpx] at both
          cases both.1
      | false =>
        rw [List.find?_cons_of_neg (by simp [hpx]), List.find?_cons_of_neg (by simp [hqx]),
          ih (fun a ha b hb => hp a (List.mem_cons_of_mem x ha) b (List.mem_cons_of_mem x hb))
            (fun a ha b hb => hq a (List.mem_cons_of_mem x ha) b (List.mem_cons_of_mem x hb))]
        constructor
        · intro h before y after hsplit hbefore htaken
          cases before with
          | nil =>
            cases hsplit
            simp [hpx, hqx] at htaken
          | cons b before =>
            obtain ⟨-, hrest⟩ := List.cons.inj hsplit
            exact h before y after hrest (fun b hb => hbefore b (List.mem_cons_of_mem _ hb)) htaken
        · intro h before y after hsplit hbefore htaken
          refine h (x :: before) y after (by rw [hsplit]; rfl) ?_ htaken
          intro b hb
          rcases List.mem_cons.mp hb with rfl | hb
          · exact ⟨hpx, hqx⟩
          · exact hbefore b hb

end Pick

section Rows

def isState (field : List Char) : Bool :=
  field == "device".toList || field == "offline".toList || field == "unauthorized".toList

/-- The words of the serial of an online row. -/
def serialWords (fields : List (List Char)) : Option (List (List Char)) :=
  match fields.findIdx? isState with
  | none => none
  | some stateIndex =>
    if 0 < stateIndex && fields[stateIndex]? == some "device".toList then
      some (fields.take stateIndex)
    else none

/-- A row that the server passes over: its first word is `List`, or it has no permissions. -/
def Hidden (words : List (List Char)) : Prop :=
  words.head? = some "List".toList ∨ ["no".toList, "permissions".toList] <:+: words

instance (words : List (List Char)) : Decidable (Hidden words) :=
  inferInstanceAs (Decidable (words.head? = some "List".toList ∨
    ["no".toList, "permissions".toList] <:+: words))

theorem parseAdbDeviceId_words (line : List Char) :
    parseAdbDeviceId line = (serialWords (splitWhitespace line)).map joined := by
  unfold parseAdbDeviceId serialWords
  show (match (splitWhitespace line).findIdx? isState with
    | none => none
    | some stateIndex =>
      if 0 < stateIndex && (splitWhitespace line)[stateIndex]? == some "device".toList then
        some (joined ((splitWhitespace line).take stateIndex))
      else none) = _
  cases (splitWhitespace line).findIdx? isState with
  | none => rfl
  | some stateIndex =>
    dsimp only
    split_ifs <;> rfl

/-- A row has no state word, or a first one. -/
theorem state_cases (fields : List (List Char)) :
    (∀ field ∈ fields, isState field = false) ∨
    ∃ words state rest, fields = words ++ state :: rest ∧ (∀ word ∈ words, isState word = false) ∧
      isState state = true := by
  induction fields with
  | nil => exact Or.inl (by simp)
  | cons field fields ih =>
    cases hfield : isState field with
    | true => exact Or.inr ⟨[], field, fields, rfl, by simp, hfield⟩
    | false =>
      rcases ih with hnone | ⟨words, state, rest, hfields, hwords, hstate⟩
      · exact Or.inl (List.forall_mem_cons.mpr ⟨hfield, hnone⟩)
      · exact Or.inr ⟨field :: words, state, rest, by rw [hfields]; rfl,
          List.forall_mem_cons.mpr ⟨hfield, hwords⟩, hstate⟩

theorem serialWords_none {fields : List (List Char)} (h : ∀ field ∈ fields, isState field = false) :
    serialWords fields = none := by
  rw [serialWords, List.findIdx?_eq_none_iff.mpr h]

theorem serialWords_at {words rest : List (List Char)} {state : List Char}
    (hwords : ∀ word ∈ words, isState word = false) (hstate : isState state = true) :
    serialWords (words ++ state :: rest) =
      if words ≠ [] ∧ state = "device".toList then some words else none := by
  have found : (words ++ state :: rest).findIdx? isState = some words.length := by
    rw [List.findIdx?_append, List.findIdx?_eq_none_iff.mpr hwords]
    simp [List.findIdx?_cons, hstate]
  have here : (words ++ state :: rest)[words.length]? = some state := by simp
  have front : (words ++ state :: rest).take words.length = words := List.take_left
  simp only [serialWords, found, here, front]
  congr 1
  simp [List.length_pos_iff]

theorem isState_iff (field : List Char) : isState field = true ↔
    field = "device".toList ∨ field = "offline".toList ∨ field = "unauthorized".toList := by
  simp [isState, or_assoc]

/-- Where the server finds the state of a row. -/
theorem stateIndex_cases (fields : List (List Char)) :
    ((∀ field ∈ fields, isState field = false) ∧ adbDeviceStateIndex fields = none) ∨
    (∃ words state rest, fields = words ++ state :: rest ∧
      (∀ word ∈ words, isState word = false) ∧ isState state = true ∧
      ¬["no".toList, "permissions".toList] <:+: words ∧
      adbDeviceStateIndex fields = some (words.length, 1)) ∨
    ∃ words rest, fields = words ++ "no".toList :: "permissions".toList :: rest ∧
      (∀ word ∈ words, isState word = false) ∧
      adbDeviceStateIndex fields = some (words.length, 2) := by
  induction fields with
  | nil => exact Or.inl ⟨by simp, rfl⟩
  | cons field fields ih =>
    cases hfield : isState field with
    | true =>
      refine Or.inr (Or.inl ⟨[], field, fields, rfl, by simp, hfield, by simp, ?_⟩)
      rw [adbDeviceStateIndex, if_pos ((isState_iff field).mp hfield)]
      rfl
    | false =>
      have hnot : ¬(field = "device".toList ∨ field = "offline".toList ∨
          field = "unauthorized".toList) := by
        rw [← isState_iff, hfield]
        simp
      by_cases hno : field = "no".toList ∧ fields.head? = some "permissions".toList
      · obtain ⟨rest, hrest⟩ := List.head?_eq_some_iff.mp hno.2
        refine Or.inr (Or.inr ⟨[], rest, by rw [hno.1, hrest]; rfl, by simp, ?_⟩)
        rw [adbDeviceStateIndex, if_neg hnot, if_pos hno]
        rfl
      · have next : adbDeviceStateIndex (field :: fields) =
            (adbDeviceStateIndex fields).map (fun found => (found.1 + 1, found.2)) := by
          rw [adbDeviceStateIndex, if_neg hnot, if_neg hno]
        rcases ih with ⟨hnone, hindex⟩ | ⟨words, state, rest, hfields, hwords, hstate, hperm, hindex⟩ |
          ⟨words, rest, hfields, hwords, hindex⟩
        · refine Or.inl ⟨List.forall_mem_cons.mpr ⟨hfield, hnone⟩, ?_⟩
          rw [next, hindex]
          rfl
        · refine Or.inr (Or.inl ⟨field :: words, state, rest, by rw [hfields]; rfl,
            List.forall_mem_cons.mpr ⟨hfield, hwords⟩, hstate, ?_, ?_⟩)
          · intro hinfix
            rcases List.infix_cons_iff.mp hinfix with hpre | hlater
            · obtain ⟨tail, htail⟩ := hpre
              obtain ⟨hf, hw⟩ := List.cons.inj htail
              refine hno ⟨hf.symm, ?_⟩
              rw [hfields, ← hw]
              rfl
            · exact hperm hlater
          · rw [next, hindex]
            rfl
        · refine Or.inr (Or.inr ⟨field :: words, rest, by rw [hfields]; rfl,
            List.forall_mem_cons.mpr ⟨hfield, hwords⟩, ?_⟩)
          rw [next, hindex]
          rfl

/-- The serial of a row that the server counts as online. -/
def onlineId (device : Device) : Option String :=
  if device.state = "device" then some device.id else none

/-- A row with its state at some place, as the server reads it. -/
theorem parseDevice_online {fields : List (List Char)} {stateIndex stateWidth : Nat}
    (hindex : adbDeviceStateIndex fields = some (stateIndex, stateWidth)) :
    (parseDevice fields).bind onlineId =
      if fields.length < 2 ∨ fields.head? = some "List".toList ∨ stateIndex = 0 then none
      else if joined ((fields.drop stateIndex).take stateWidth) = "device" then
        some (joined (fields.take stateIndex))
      else none := by
  unfold parseDevice
  simp only [hindex]
  by_cases hskip : fields.length < 2 ∨ fields.head? = some "List".toList
  · rw [if_pos hskip, if_pos (by rw [← or_assoc]; exact Or.inl hskip)]
    rfl
  · rw [if_neg hskip]
    by_cases hzero : stateIndex = 0
    · rw [if_pos hzero, if_pos (Or.inr (Or.inr hzero))]
      rfl
    · have hnot : ¬(fields.length < 2 ∨ fields.head? = some "List".toList ∨ stateIndex = 0) := by
        rw [← or_assoc]
        exact not_or.mpr ⟨hskip, hzero⟩
      rw [if_neg hzero, if_neg hnot, Option.bind_some, onlineId, (foldl_readAttribute _ _).1,
        (foldl_readAttribute _ _).2]

theorem joined_eq_device (field : List Char) : joined [field] = "device" ↔ field = "device".toList := by
  have single : joined [field] = String.ofList field := by simp [joined]
  rw [single]
  constructor
  · intro h
    rw [← h, String.toList_ofList]
  · intro h
    rw [h, String.ofList_toList]

theorem filter_hidden {words : List (List Char)} (h : Hidden words) :
    (some words).filter (fun words => !Hidden words) = none := by
  simp [Option.filter, h]

theorem filter_shown {words : List (List Char)} (h : ¬Hidden words) :
    (some words).filter (fun words => !Hidden words) = some words := by
  simp [Option.filter, h]

/-- A row with a state in one word is read by both, unless `List` comes first. -/
theorem parseDevice_state {words rest : List (List Char)} {state : List Char}
    (hwords : ∀ word ∈ words, isState word = false) (hstate : isState state = true)
    (hperm : ¬["no".toList, "permissions".toList] <:+: words)
    (hindex : adbDeviceStateIndex (words ++ state :: rest) = some (words.length, 1)) :
    (parseDevice (words ++ state :: rest)).bind onlineId =
      ((serialWords (words ++ state :: rest)).filter (fun words => !Hidden words)).map joined := by
  rw [parseDevice_online hindex, serialWords_at hwords hstate]
  have taken : ((words ++ state :: rest).drop words.length).take 1 = [state] := by simp
  have front : (words ++ state :: rest).take words.length = words := List.take_left
  rw [taken, front]
  by_cases hempty : words = []
  · simp [hempty]
  · have hhead : (words ++ state :: rest).head? = words.head? := by
      obtain ⟨word, words', hcons⟩ := List.exists_cons_of_ne_nil hempty
      rw [hcons]
      rfl
    have hlength : ¬(words ++ state :: rest).length < 2 := by
      have hpos := List.length_pos_iff.mpr hempty
      simp only [List.length_append, List.length_cons]
      omega
    have hhidden : Hidden words ↔ words.head? = some "List".toList := or_iff_left hperm
    rw [hhead]
    by_cases hdevice : state = "device".toList
    · by_cases hlist : words.head? = some "List".toList
      · rw [if_pos (Or.inr (Or.inl hlist)), if_pos ⟨hempty, hdevice⟩,
          filter_hidden (hhidden.mpr hlist)]
        rfl
      · have hread : ¬((words ++ state :: rest).length < 2 ∨
            words.head? = some "List".toList ∨ words.length = 0) :=
          not_or.mpr ⟨hlength, not_or.mpr ⟨hlist, fun h => hempty (List.length_eq_zero_iff.mp h)⟩⟩
        rw [if_neg hread, if_pos ((joined_eq_device state).mpr hdevice),
          if_pos ⟨hempty, hdevice⟩, filter_shown (fun h => hlist (hhidden.mp h))]
        rfl
    · rw [if_neg (fun h => hdevice ((joined_eq_device state).mp h)), ite_self,
        if_neg (fun h => hdevice h.2)]
      rfl

/-- A row without permissions is not read by the server, and what the core reads of it is hidden. -/
theorem serialWords_permissions {words : List (List Char)} (rest : List (List Char))
    (hwords : ∀ word ∈ words, isState word = false) :
    (serialWords (words ++ "no".toList :: "permissions".toList :: rest)).filter
      (fun words => !Hidden words) = none := by
  have hno : isState "no".toList = false := by decide
  have hpermissions : isState "permissions".toList = false := by decide
  have hall {later : List (List Char)} (hlater : ∀ word ∈ later, isState word = false) :
      ∀ word ∈ words ++ "no".toList :: "permissions".toList :: later, isState word = false := by
    intro word hword
    simp only [List.mem_append, List.mem_cons] at hword
    rcases hword with hword | rfl | rfl | hword
    · exact hwords word hword
    · exact hno
    · exact hpermissions
    · exact hlater word hword
  rcases state_cases rest with hnone | ⟨later, state, rest', hrest, hlater, hstate⟩
  · rw [serialWords_none (hall hnone)]
    rfl
  · have whole : words ++ "no".toList :: "permissions".toList :: rest =
        (words ++ "no".toList :: "permissions".toList :: later) ++ state :: rest' := by
      rw [hrest]
      simp
    have hhidden : Hidden (words ++ "no".toList :: "permissions".toList :: later) :=
      Or.inr ⟨words, later, by simp⟩
    rw [whole, serialWords_at (hall hlater) hstate]
    split_ifs
    · rw [filter_hidden hhidden]
    · rfl

/-- The server reads a row as the core does, unless the row is hidden. -/
theorem parseDevice_words (fields : List (List Char)) :
    (parseDevice fields).bind onlineId =
      ((serialWords fields).filter (fun words => !Hidden words)).map joined := by
  rcases stateIndex_cases fields with ⟨hnone, hindex⟩ |
    ⟨words, state, rest, hfields, hwords, hstate, hperm, hindex⟩ |
    ⟨words, rest, hfields, hwords, hindex⟩
  · rw [serialWords_none hnone, parseDevice]
    simp only [hindex]
    split_ifs <;> rfl
  · subst hfields
    exact parseDevice_state hwords hstate hperm hindex
  · have taken : ((words ++ "no".toList :: "permissions".toList :: rest).drop words.length).take 2 =
        ["no".toList, "permissions".toList] := by simp
    have other : joined ["no".toList, "permissions".toList] ≠ "device" := by decide
    rw [parseDevice_online hindex, hfields, serialWords_permissions rest hwords, taken,
      if_neg other, ite_self]
    rfl

/-- The serials of the online rows of a text, by their words. -/
def rows (text : String) : List (List (List Char)) :=
  (text.toList.splitOn '\n').filterMap (fun line => serialWords (splitWhitespace line))

/-- The words of a serial are no blank words, and there is one. -/
theorem rows_spec {text : String} {words : List (List Char)} (h : words ∈ rows text) :
    words ≠ [] ∧ ∀ word ∈ words, word ≠ [] ∧ ∀ c ∈ word, isWhitespace c = false := by
  obtain ⟨line, -, hwords⟩ := List.mem_filterMap.mp h
  rcases state_cases (splitWhitespace line) with hnone | ⟨words', state, rest, hfields, hall, hstate⟩
  · rw [serialWords_none hnone] at hwords
    cases hwords
  · rw [hfields, serialWords_at hall hstate] at hwords
    split_ifs at hwords with hsome
    cases hwords
    refine ⟨hsome.1, ?_⟩
    intro word hword
    apply word_spec (s := line)
    rw [hfields]
    exact List.mem_append_left _ hword

theorem joined_injective {text : String} {words words' : List (List Char)} (h : words ∈ rows text)
    (h' : words' ∈ rows text) (he : joined words = joined words') : words = words' := by
  have blank {ws : List (List Char)} (hws : ws ∈ rows text) : ∀ word ∈ ws, ' ' ∉ word := by
    intro word hword hmem
    have hfalse := ((rows_spec hws).2 word hword).2 ' ' hmem
    cases hfalse
  exact unwords_injective (blank h) (blank h') (rows_spec h).1 (rows_spec h').1
    (String.ofList_injective he)

/-- `current_adb_device_ids`, from the text of `adb devices -l`. -/
def adbDeviceIds (stdout : String) : List String := (lines stdout.toList).filterMap parseAdbDeviceId

theorem adbDeviceIds_rows (text : String) : adbDeviceIds text = (rows text).map joined := by
  have read := filterMap_lines (fun fields => (serialWords fields).map joined) rfl text.toList
  rw [adbDeviceIds, rows, List.map_filterMap, ← read]
  apply List.filterMap_congr
  intro line _
  exact parseAdbDeviceId_words line

/-- The serials that the server takes for online. -/
theorem parseDevices_rows (text : String) :
    (parseDevices text).filterMap onlineId =
      ((rows text).filter (fun words => !Hidden words)).map joined := by
  have read (line : List Char) : (parseDevice (splitWhitespace line)).bind onlineId =
      ((serialWords (splitWhitespace line)).filter (fun words => !Hidden words)).map joined :=
    parseDevice_words (splitWhitespace line)
  have same := congrArg (List.filterMap (fun fields =>
    ((serialWords fields).filter (fun words => !Hidden words)).map joined))
    (words_replaceCrlf text.toList)
  rw [List.filterMap_map, List.filterMap_map] at same
  rw [parseDevices, List.filterMap_filterMap, rows, List.filter_filterMap, List.map_filterMap]
  simp only [read]
  exact same

/-- The serial that the core puts in the place of a requested one. -/
def coreSerial (requested text : String) : Option String :=
  (adbDeviceIds text).find? (sameRemoteDeviceIdentity requested)

def serverSerial (requested text : String) : Option String :=
  (resolveOnlineDeviceID (.ok text) requested).toOption

theorem coreSerial_rows (requested text : String) : coreSerial requested text =
    ((rows text).find? (fun words => sameRemoteDeviceIdentity requested (joined words))).map
      joined := by
  rw [coreSerial, adbDeviceIds_rows, List.find?_map]
  rfl

/-- The server's candidate is the first online serial that means the requested handset. -/
theorem serverSerial_online (requested text : String) : serverSerial requested text =
    ((parseDevices text).filterMap onlineId).find? (equivalentDeviceID requested) := by
  have candidate : (fun device : Device => (onlineId device).any (equivalentDeviceID requested)) =
      fun candidate => decide (candidate.state = "device" ∧
        equivalentDeviceID requested candidate.id = true) := by
    funext device
    unfold onlineId
    split_ifs with hstate <;> simp [hstate]
  rw [List.find?_filterMap, candidate, serverSerial, resolveOnlineDeviceID]
  simp only [bind, Except.bind]
  cases hfind : (parseDevices text).find? (fun candidate =>
      decide (candidate.state = "device" ∧ equivalentDeviceID requested candidate.id = true)) with
  | none => rfl
  | some device =>
    have found := List.find?_some hfind
    rw [decide_eq_true_iff] at found
    rw [Option.bind_some, onlineId, if_pos found.1]
    rfl

theorem serverSerial_rows (requested text : String) : serverSerial requested text =
    ((rows text).find? (fun words =>
      !Hidden words && equivalentDeviceID requested (joined words))).map joined := by
  rw [serverSerial_online, parseDevices_rows, List.find?_map, List.find?_filter]
  simp

end Rows

section Agreement

open RemoteControlService

/-- One side or the other takes the row for the requested handset. -/
def Decides (requested : String) (words : List (List Char)) : Prop :=
  SameHandset requested (joined words) ∧ ¬(Hidden words ∧ OddPair requested (joined words))

/-- The first row that either side takes for the requested handset is not hidden from the server,
and its serial makes no odd pair with the requested one. -/
def Undisputed (requested text : String) : Prop :=
  ∀ before words after, rows text = before ++ words :: after →
    (∀ earlier ∈ before, ¬Decides requested earlier) → Decides requested words →
    ¬Hidden words ∧ ¬OddPair requested (joined words)

/-- A serial of `adb devices -l` does not begin with a blank. -/
theorem not_emptyPair_joined {text requested : String} {words : List (List Char)}
    (h : words ∈ rows text) : ¬EmptyPair requested (joined words) := by
  intro hempty
  obtain ⟨-, -, name, -, hname, -, hid⟩ := hempty
  obtain ⟨number, -, -, rfl⟩ := hname
  obtain ⟨word, later, hwords⟩ := List.exists_cons_of_ne_nil (rows_spec h).1
  have hword := (rows_spec h).2 word (by simp [hwords])
  obtain ⟨c, cs, hc⟩ := List.exists_cons_of_ne_nil hword.1
  have first : (joined words).toList.head? = some c := by
    rw [joined, String.toList_ofList, hwords, hc]
    cases later <;> simp [List.intercalate]
  rw [hid] at first
  have hblank : c = ' ' := (Option.some.inj first).symm
  have hfalse := hword.2 c (by simp [hc])
  rw [hblank] at hfalse
  cases hfalse

theorem serial_agree_iff (requested text : String) :
    coreSerial requested text = serverSerial requested text ↔ Undisputed requested text := by
  have core {words : List (List Char)} (h : words ∈ rows text) :
      sameRemoteDeviceIdentity requested (joined words) = true ↔
        SameHandset requested (joined words) ∧ ¬OddPair requested (joined words) := by
    rw [core_same_iff]
    exact or_iff_left (not_emptyPair_joined h)
  have server (words : List (List Char)) :
      (!Hidden words && equivalentDeviceID requested (joined words)) = true ↔
        ¬Hidden words ∧ SameHandset requested (joined words) := by
    rw [Bool.and_eq_true, server_same_iff]
    simp
  have either {words : List (List Char)} (h : words ∈ rows text) :
      (sameRemoteDeviceIdentity requested (joined words) = true ∨
        (!Hidden words && equivalentDeviceID requested (joined words)) = true) ↔
        Decides requested words := by
    rw [core h, server, Decides]
    tauto
  have neither {words : List (List Char)} (h : words ∈ rows text) :
      (sameRemoteDeviceIdentity requested (joined words) = false ∧
        (!Hidden words && equivalentDeviceID requested (joined words)) = false) ↔
        ¬Decides requested words := by
    rw [← either h, not_or, Bool.not_eq_true, Bool.not_eq_true]
  have both {words : List (List Char)} (h : words ∈ rows text) (hd : Decides requested words) :
      (sameRemoteDeviceIdentity requested (joined words) = true ∧
        (!Hidden words && equivalentDeviceID requested (joined words)) = true) ↔
        ¬Hidden words ∧ ¬OddPair requested (joined words) := by
    rw [core h, server]
    have hsame := hd.1
    tauto
  rw [coreSerial_rows, serverSerial_rows, find?_map_eq_iff]
  · constructor
    · intro h before words after hsplit hbefore hd
      have hmem : words ∈ rows text := by simp [hsplit]
      have hskip (earlier : List (List Char)) (hearlier : earlier ∈ before) :=
        (neither (by simp [hsplit, hearlier])).mpr (hbefore earlier hearlier)
      exact (both hmem hd).mp (h before words after hsplit hskip ((either hmem).mpr hd))
    · intro h before words after hsplit hbefore htaken
      have hmem : words ∈ rows text := by simp [hsplit]
      have hd := (either hmem).mp htaken
      have hskip (earlier : List (List Char)) (hearlier : earlier ∈ before) :=
        (neither (by simp [hsplit, hearlier])).mp (hbefore earlier hearlier)
      exact (both hmem hd).mpr (h before words after hsplit hskip hd)
  · intro words hwords words' hwords' hcore hserver hserver' hkey
    have same : words = words' := joined_injective hwords hwords' hkey
    rw [same, hserver'] at hserver
    cases hserver
  · intro words hwords words' hwords' hserver hcore hcore' hkey
    rw [hkey, hcore'] at hcore
    cases hcore

/-- `coreSerial` is what the core's alias resolution puts in a request's place. -/
theorem resolveRequestDeviceAlias_serial {σ : Type} (H : CoreRequestHandler σ) (w : World σ)
    (d : Draws) {request : RemoteRequest} {session : AuthenticatedSession} {requested text : String}
    (named : requestedDevice request = some requested)
    (access : sessionCanAccessDevice session requested = true)
    (printed : ((call H w d .adbDevices adbDevicesRequest).2.2.result.bind
      (·.get? "stdout")).bind Value.asStr = some text) :
    (resolveRequestDeviceAlias H w d request session).2.2 =
      ((coreSerial requested text).map (readdressed request)).getD request := by
  have ids : (currentAdbDeviceIds H w d).2.2 = adbDeviceIds text := by
    simp only [currentAdbDeviceIds, printed]
    rfl
  simp only [resolveRequestDeviceAlias, named, access, if_true, ids, coreSerial]
  cases (adbDeviceIds text).find? (sameRemoteDeviceIdentity requested) <;> rfl

/-- The core and the server mean the same handset by an id in a text of `adb devices -l` exactly
when the text is undisputed, and by two ids exactly when they are neither of the two kinds of
pairs. -/
theorem core_server_agree_iff (requested text left right : String) :
    (coreSerial requested text = serverSerial requested text ↔ Undisputed requested text) ∧
    (sameRemoteDeviceIdentity left right = equivalentDeviceID left right ↔
      ¬OddPair left right ∧ ¬EmptyPair left right) :=
  ⟨serial_agree_iff requested text, same_identity_iff⟩

/-- A phone whose service name leaves a parenthesis open, after a collision: the server finds it
again, and the core does not. -/
theorem serial_disputed :
    coreSerial "adb-16a424c7 (old._adb-tls-connect._tcp"
      "List of devices attached\nadb-16a424c7 (old (2)._adb-tls-connect._tcp device model:A\n" =
        none ∧
    serverSerial "adb-16a424c7 (old._adb-tls-connect._tcp"
      "List of devices attached\nadb-16a424c7 (old (2)._adb-tls-connect._tcp device model:A\n" =
        some "adb-16a424c7 (old (2)._adb-tls-connect._tcp" ∧
    sameRemoteDeviceIdentity "adb-16a424c7 (old._adb-tls-connect._tcp"
      "adb-16a424c7 (old (2)._adb-tls-connect._tcp" = false ∧
    equivalentDeviceID "adb-16a424c7 (old._adb-tls-connect._tcp"
      "adb-16a424c7 (old (2)._adb-tls-connect._tcp" = true := by
  decide

end Agreement

end AdbControl.Server
