import AdbControl.Framework.Utf8
import AdbControl.Observability.Event

namespace AdbControl.Observability

open Framework

/-- The bytes of a Go string -/
abbrev GoString := List UInt8

/-- A value of the details: a string, or one that `sanitizeDetails` passes on. -/
inductive RawDetail (α : Type)
  | text (typed : GoString)
  | other (typed : α)
  deriving DecidableEq

/-- An event as the bytes of its strings -/
structure RawEvent (α : Type) where
  id : GoString
  type : GoString
  level : GoString
  module : GoString
  action : GoString
  message : GoString
  traceID : GoString
  errorCode : GoString := []
  deviceID : GoString := []
  method : GoString := []
  path : GoString := []
  status : Int := 0
  durationMS : Int := 0
  actor : GoString := []
  ipAddress : GoString := []
  userAgent : GoString := []
  /-- the entries of the map, whose keys are different -/
  details : List (GoString × RawDetail α) := []
  createdAt : UtcTime := zeroTime

namespace RawEvent

def ellipsis : GoString := utf8Bytes "…"

def truncate (value : GoString) (limit : Nat) : GoString :=
  if value.length ≤ limit then value else value.take limit ++ ellipsis

def sanitizePath (path : GoString) : GoString := path.takeWhile fun b => b ≠ 0x3f

/-- `toLower` is `strings.ToLower`. -/
def isSensitive (toLower : GoString → GoString) (key : GoString) : Bool :=
  sensitiveWords.any fun word => decide (utf8Bytes word <:+: toLower key)

section

variable {α : Type} (toLower : GoString → GoString)

def sanitizeValue (key : GoString) (value : RawDetail α) : RawDetail α :=
  if isSensitive toLower key then .text (utf8Bytes "[redacted]")
  else match value with
    | .text typed => .text (truncate typed 1200)
    | .other typed => .other typed

def sanitizeDetails (details : List (GoString × RawDetail α)) : List (GoString × RawDetail α) :=
  details.map fun entry => (entry.1, sanitizeValue toLower entry.1 entry.2)

def hexDigit (n : UInt8) : UInt8 := if n < 10 then 48 + n else 87 + n

/-- The id of what has been drawn, or of the time if this has failed -/
def newID (random : Option (Vector UInt8 16)) (stamp : String) : GoString :=
  match random with
  | some buffer => buffer.toList.flatMap fun b => [hexDigit (b / 16), hexDigit (b % 16)]
  | none => utf8Bytes ("event-" ++ stamp)

def orElse (value default : GoString) : GoString := if value = [] then default else value

/-- `normalizeEvent` up to the first call of `truncate` -/
def withDefaults (random : Option (Vector UInt8 16)) (stamp : String) (now : UtcTime)
    (event : RawEvent α) : RawEvent α :=
  let type := orElse event.type (utf8Bytes "system")
  let action := orElse event.action type
  { event with
    id := orElse event.id (newID random stamp)
    type
    level := orElse event.level (utf8Bytes "info")
    module := orElse event.module (utf8Bytes "system")
    action
    message := orElse event.message action
    traceID := orElse event.traceID (utf8Bytes "trace-unavailable")
    createdAt := if event.createdAt = zeroTime then now else event.createdAt }

/-- The rest of `normalizeEvent` -/
def sanitize (event : RawEvent α) : RawEvent α :=
  { event with
    message := truncate event.message 1000
    path := sanitizePath event.path
    userAgent := truncate event.userAgent 300
    details := sanitizeDetails toLower event.details }

def normalizeEvent (random : Option (Vector UInt8 16)) (stamp : String) (now : UtcTime)
    (event : RawEvent α) : RawEvent α :=
  sanitize toLower (withDefaults random stamp now event)

end

section Truncate

variable {value : GoString} {limit : Nat}

/-- Cutting again cuts at the same byte. -/
theorem truncate_truncate (value : GoString) (limit : Nat) :
    truncate (truncate value limit) limit = truncate value limit := by
  by_cases hshort : value.length ≤ limit
  · rw [truncate, truncate, if_pos hshort, if_pos hshort]
  · have kept : (value.take limit).length = limit := by
      rw [List.length_take]
      omega
    have longer : ¬(value.take limit ++ ellipsis).length ≤ limit := by
      rw [List.length_append, kept]
      have : 0 < ellipsis.length := by decide
      omega
    have cut : truncate value limit = value.take limit ++ ellipsis := if_neg hshort
    rw [cut, truncate, if_neg longer, List.take_append_of_le_length kept.ge, List.take_take,
      Nat.min_self]

theorem length_truncate_le_iff (value : GoString) (limit : Nat) :
    (truncate value limit).length ≤ limit ↔ value.length ≤ limit := by
  unfold truncate
  split_ifs with hshort
  · rfl
  · have : 0 < ellipsis.length := by decide
    rw [List.length_append, List.length_take]
    omega

theorem length_truncate_le (value : GoString) (limit : Nat) :
    (truncate value limit).length ≤ limit + ellipsis.length := by
  unfold truncate
  split_ifs with hshort
  · omega
  · rw [List.length_append, List.length_take]
    omega

/-- A text that is too long stays one exactly when the cut is between two characters. -/
theorem validUtf8_truncate_iff (h : ValidUtf8 value) :
    ValidUtf8 (truncate value limit) ↔
      ∀ hlong : limit < value.length, value[limit].IsUTF8FirstByte := by
  unfold truncate
  split_ifs with hshort
  · exact iff_of_true h fun hlong => absurd hshort (by omega)
  · have hlong : limit < value.length := by omega
    have kept : (value.take limit).length = limit := by
      rw [List.length_take]
      omega
    have hwhole : limit < (value.take limit ++ ellipsis).length := by
      rw [List.length_append, kept]
      have : 0 < ellipsis.length := by decide
      omega
    rw [forall_prop_of_true hlong, ← validUtf8_take_iff h hlong]
    constructor
    · intro hcut
      have mark : ∀ hpos : 0 < ellipsis.length, ellipsis[0].IsUTF8FirstByte := by decide
      have front := (validUtf8_take_iff hcut hwhole).mpr (by
        rw [List.getElem_append_right kept.le]
        simp only [kept, Nat.sub_self]
        exact mark _)
      rwa [List.take_append_of_le_length kept.ge, List.take_take, Nat.min_self] at front
    · intro hfront
      exact hfront.append (validUtf8_utf8Bytes "…")

end Truncate

section Texts

variable {α : Type} (toLower : GoString → GoString)

/-- What is cut in the details, and where -/
def detailTexts (details : List (GoString × RawDetail α)) : List (GoString × Nat) :=
  details.filterMap fun entry =>
    match entry.2 with
    | .text typed => if isSensitive toLower entry.1 then none else some (typed, 1200)
    | .other _ => none

def texts (event : RawEvent α) : List (GoString × Nat) :=
  (event.message, 1000) :: (event.userAgent, 300) :: detailTexts toLower event.details

/-- The strings in the details; `nested` gives those in the values that are not strings. -/
def detailStrings (nested : α → List GoString) (details : List (GoString × RawDetail α)) :
    List GoString :=
  details.flatMap fun entry => entry.1 :: match entry.2 with
    | .text typed => [typed]
    | .other typed => nested typed

def strings (nested : α → List GoString) (event : RawEvent α) : List GoString :=
  [event.id, event.type, event.level, event.module, event.action, event.message, event.traceID,
    event.errorCode, event.deviceID, event.method, event.path, event.actor, event.ipAddress,
    event.userAgent] ++ detailStrings nested event.details

variable {toLower} {nested : α → List GoString} {event : RawEvent α}

theorem orElse_ne_nil {value default : GoString} (h : default ≠ []) : orElse value default ≠ [] := by
  unfold orElse
  split_ifs with hvalue
  · exact h
  · exact hvalue

theorem orElse_of_ne_nil {value default : GoString} (h : value ≠ []) : orElse value default = value :=
  if_neg h

theorem truncate_ne_nil {value : GoString} {limit : Nat} (h : value ≠ []) :
    truncate value limit ≠ [] := by
  unfold truncate
  split_ifs
  · exact h
  · have mark : ellipsis ≠ [] := by decide
    simp [mark]

theorem newID_ne_nil (random : Option (Vector UInt8 16)) (stamp : String) :
    newID random stamp ≠ [] := by
  cases random with
  | none =>
    have front : "event-".toByteArray.data ≠ #[] := by decide
    simp [newID, utf8Bytes, front]
  | some buffer =>
    intro hnil
    have hlength := congrArg List.length hnil
    rw [newID, List.length_flatMap] at hlength
    simp at hlength

theorem newID_valid (random : Option (Vector UInt8 16)) (stamp : String) :
    ValidUtf8 (newID random stamp) := by
  cases random with
  | none => exact validUtf8_utf8Bytes _
  | some buffer =>
    have digits : ∀ n : Fin 256, hexDigit (UInt8.ofNat n / 16) < 128 ∧
        hexDigit (UInt8.ofNat n % 16) < 128 := by decide +kernel
    apply validUtf8_ascii
    intro b hb
    obtain ⟨byte, -, hdigit⟩ := List.mem_flatMap.mp hb
    obtain ⟨hhigh, hlow⟩ := digits ⟨byte.toNat, byte.toNat_lt⟩
    simp only [UInt8.ofNat_toNat] at hhigh hlow
    rw [List.mem_cons, List.mem_singleton] at hdigit
    rcases hdigit with rfl | rfl
    · exact hhigh
    · exact hlow

/-- Nothing that has a default is missing. -/
structure Filled (event : RawEvent α) : Prop where
  id : event.id ≠ []
  type : event.type ≠ []
  level : event.level ≠ []
  module : event.module ≠ []
  action : event.action ≠ []
  message : event.message ≠ []
  traceID : event.traceID ≠ []
  createdAt : event.createdAt ≠ zeroTime

theorem filled_withDefaults {random : Option (Vector UInt8 16)} {stamp : String} {now : UtcTime}
    (hnow : now ≠ zeroTime) (event : RawEvent α) : Filled (withDefaults random stamp now event) where
  id := orElse_ne_nil (newID_ne_nil random stamp)
  type := orElse_ne_nil (by decide)
  level := orElse_ne_nil (by decide)
  module := orElse_ne_nil (by decide)
  action := orElse_ne_nil (orElse_ne_nil (by decide))
  message := orElse_ne_nil (orElse_ne_nil (orElse_ne_nil (by decide)))
  traceID := orElse_ne_nil (by decide)
  createdAt := by
    simp only [withDefaults]
    split_ifs with hzero
    · exact hnow
    · exact hzero

theorem Filled.sanitize (h : Filled event) : Filled (sanitize toLower event) :=
  { h with message := truncate_ne_nil h.message }

theorem Filled.withDefaults (h : Filled event) (random : Option (Vector UInt8 16)) (stamp : String)
    (now : UtcTime) : withDefaults random stamp now event = event := by
  simp only [RawEvent.withDefaults, orElse_of_ne_nil h.id, orElse_of_ne_nil h.type,
    orElse_of_ne_nil h.level, orElse_of_ne_nil h.module, orElse_of_ne_nil h.action,
    orElse_of_ne_nil h.message, orElse_of_ne_nil h.traceID, if_neg h.createdAt]

theorem sanitizeDetails_idem (details : List (GoString × RawDetail α)) :
    sanitizeDetails toLower (sanitizeDetails toLower details) = sanitizeDetails toLower details := by
  rw [sanitizeDetails, sanitizeDetails, List.map_map]
  refine List.map_congr_left ?_
  intro entry _
  simp only [Function.comp_apply, sanitizeValue, Prod.mk.injEq, true_and]
  split_ifs
  · rfl
  · cases entry.2 with
    | text typed => exact congrArg RawDetail.text (truncate_truncate typed 1200)
    | other typed => rfl

theorem sanitize_idem (event : RawEvent α) :
    sanitize toLower (sanitize toLower event) = sanitize toLower event := by
  have hpath : sanitizePath (sanitizePath event.path) = sanitizePath event.path := by
    rw [sanitizePath, sanitizePath, List.takeWhile_takeWhile]
    simp
  simp only [sanitize, truncate_truncate, hpath, sanitizeDetails_idem]

/-- Normalising an event again changes nothing, whatever has been cut. -/
theorem normalizeEvent_idem {random : Option (Vector UInt8 16)} {stamp : String} {now : UtcTime}
    (hnow : now ≠ zeroTime) (event : RawEvent α) (random' : Option (Vector UInt8 16))
    (stamp' : String) (now' : UtcTime) :
    normalizeEvent toLower random' stamp' now' (normalizeEvent toLower random stamp now event) =
      normalizeEvent toLower random stamp now event := by
  rw [normalizeEvent, normalizeEvent, (filled_withDefaults hnow event).sanitize.withDefaults,
    sanitize_idem]

theorem mem_strings_of_mem_texts {text : GoString × Nat} (h : text ∈ texts toLower event) :
    text.1 ∈ strings nested event := by
  rw [texts, List.mem_cons, List.mem_cons] at h
  rcases h with rfl | rfl | hdetail
  · simp [strings]
  · simp [strings]
  · obtain ⟨⟨key, value⟩, hentry, htext⟩ := List.mem_filterMap.mp hdetail
    refine List.mem_append_right _ (List.mem_flatMap.mpr ⟨(key, value), hentry, ?_⟩)
    cases value with
    | text typed =>
      simp only at htext
      split_ifs at htext
      rw [← Option.some.inj htext]
      simp
    | other typed => cases htext

/-- What is cut is the same after the cut. -/
theorem texts_sanitize (event : RawEvent α) :
    texts toLower (sanitize toLower event) =
      (texts toLower event).map fun text => (truncate text.1 text.2, text.2) := by
  simp only [texts, detailTexts, sanitize, sanitizeDetails, List.map_cons, List.filterMap_map,
    List.map_filterMap]
  refine congrArg _ (congrArg _ (List.filterMap_congr ?_))
  rintro ⟨key, value⟩ -
  simp only [Function.comp_apply, sanitizeValue]
  split_ifs with hkey
  · cases value with
    | text typed => rfl
    | other typed => rfl
  · cases value with
    | text typed => rfl
    | other typed => rfl

theorem orElse_valid {value default : GoString} (h : ValidUtf8 value) (hdefault : ValidUtf8 default) :
    ValidUtf8 (orElse value default) := by
  unfold orElse
  split_ifs
  · exact hdefault
  · exact h

theorem valid_withDefaults {random : Option (Vector UInt8 16)} {stamp : String} {now : UtcTime}
    (h : ∀ s ∈ strings nested event, ValidUtf8 s) :
    ∀ s ∈ strings nested (withDefaults random stamp now event), ValidUtf8 s := by
  simp only [strings, List.forall_mem_append, List.forall_mem_cons] at h ⊢
  obtain ⟨⟨hid, htype, hlevel, hmodule, haction, hmessage, htrace, hrest⟩, hdetails⟩ := h
  have htype' := orElse_valid htype (validUtf8_utf8Bytes "system")
  have haction' := orElse_valid haction htype'
  exact ⟨⟨orElse_valid hid (newID_valid random stamp), htype',
    orElse_valid hlevel (validUtf8_utf8Bytes "info"), orElse_valid hmodule (validUtf8_utf8Bytes "system"),
    haction', orElse_valid hmessage haction',
    orElse_valid htrace (validUtf8_utf8Bytes "trace-unavailable"), hrest⟩, hdetails⟩

theorem valid_details_iff {details : List (GoString × RawDetail α)}
    (h : ∀ s ∈ detailStrings nested details, ValidUtf8 s) :
    (∀ s ∈ detailStrings nested (sanitizeDetails toLower details), ValidUtf8 s) ↔
      ∀ text ∈ detailTexts toLower details, ValidUtf8 (truncate text.1 text.2) := by
  induction details with
  | nil => exact iff_of_true (fun _ => nofun) (fun _ => nofun)
  | cons entry details ih =>
    obtain ⟨key, value⟩ := entry
    have cons (value : RawDetail α) (rest : List (GoString × RawDetail α)) :
        detailStrings nested ((key, value) :: rest) = (key :: match value with
          | .text typed => [typed]
          | .other typed => nested typed) ++ detailStrings nested rest := List.flatMap_cons
    have step : sanitizeDetails toLower ((key, value) :: details) =
      (key, sanitizeValue toLower key value) :: sanitizeDetails toLower details := rfl
    rw [cons, List.forall_mem_append, List.forall_mem_cons] at h
    obtain ⟨⟨hkey, hvalue⟩, hdetails⟩ := h
    rw [step, cons, List.forall_mem_append, List.forall_mem_cons, ih hdetails]
    by_cases hsensitive : isSensitive toLower key = true
    · have skipped : detailTexts toLower ((key, value) :: details) = detailTexts toLower details := by
        cases value <;> simp [detailTexts, hsensitive]
      have kept : sanitizeValue toLower key value = .text (utf8Bytes "[redacted]") := if_pos hsensitive
      rw [skipped, kept]
      simp [hkey, validUtf8_utf8Bytes]
    · cases value with
      | text typed =>
        have cut : detailTexts toLower ((key, .text typed) :: details) =
          (typed, 1200) :: detailTexts toLower details := by simp [detailTexts, hsensitive]
        have kept : sanitizeValue toLower key (.text typed) = (.text (truncate typed 1200) :
          RawDetail α) := if_neg hsensitive
        rw [cut, kept, List.forall_mem_cons]
        simp [hkey]
      | other typed =>
        have skipped : detailTexts toLower ((key, .other typed) :: details) =
          detailTexts toLower details := rfl
        have kept : sanitizeValue toLower key (.other typed) = .other typed := if_neg hsensitive
        rw [skipped, kept]
        exact and_iff_right ⟨hkey, hvalue⟩

/-- The strings of a sanitised event are texts exactly when those that are cut stay texts. -/
theorem valid_sanitize_iff (h : ∀ s ∈ strings nested event, ValidUtf8 s) :
    (∀ s ∈ strings nested (sanitize toLower event), ValidUtf8 s) ↔
      ∀ text ∈ texts toLower event, ValidUtf8 (truncate text.1 text.2) := by
  simp only [strings, List.forall_mem_append, List.forall_mem_cons] at h
  obtain ⟨⟨hid, htype, hlevel, hmodule, haction, hmessage, htrace, hcode, hdevice, hmethod, hpath,
    hactor, haddress, hagent, hnil⟩, hdetails⟩ := h
  have hpath' : ValidUtf8 (sanitizePath event.path) := hpath.takeWhile (by decide)
  simp only [strings, texts, sanitize, List.forall_mem_append, List.forall_mem_cons,
    valid_details_iff hdetails]
  tauto

end Texts

section Stable

variable {α : Type} (toLower : GoString → GoString) (nested : α → List GoString)
  (random : Option (Vector UInt8 16)) (stamp : String) (now : UtcTime) (event : RawEvent α)

/-- What normalising promises, where a text may be longer than its limit by so many bytes. -/
structure Stable (mark : Nat) : Prop where
  valid : ∀ s ∈ strings nested (normalizeEvent toLower random stamp now event), ValidUtf8 s
  within : ∀ text ∈ texts toLower (normalizeEvent toLower random stamp now event),
    text.1.length ≤ text.2 + mark
  again : ∀ random' stamp' now', normalizeEvent toLower random' stamp' now'
    (normalizeEvent toLower random stamp now event) = normalizeEvent toLower random stamp now event

variable {toLower nested random stamp now event}

/-- The promise, when the mark of a cut does not count, is kept exactly when every cut is between two
characters; when it counts, exactly when nothing is cut. -/
theorem normalizeEvent_stable_iff (h : ∀ s ∈ strings nested event, ValidUtf8 s)
    (hnow : now ≠ zeroTime) :
    (Stable toLower nested random stamp now event ellipsis.length ↔
      ∀ text ∈ texts toLower (withDefaults random stamp now event),
        ∀ hlong : text.2 < text.1.length, text.1[text.2].IsUTF8FirstByte) ∧
    (Stable toLower nested random stamp now event 0 ↔
      ∀ text ∈ texts toLower (withDefaults random stamp now event), text.1.length ≤ text.2) := by
  have hdefaults : ∀ s ∈ strings nested (withDefaults random stamp now event), ValidUtf8 s :=
    valid_withDefaults h
  have hvalid : (∀ s ∈ strings nested (normalizeEvent toLower random stamp now event), ValidUtf8 s) ↔
      ∀ text ∈ texts toLower (withDefaults random stamp now event),
        ValidUtf8 (truncate text.1 text.2) := valid_sanitize_iff hdefaults
  have hwithin (mark : Nat) : (∀ text ∈ texts toLower (normalizeEvent toLower random stamp now event),
      text.1.length ≤ text.2 + mark) ↔ ∀ text ∈ texts toLower (withDefaults random stamp now event),
        (truncate text.1 text.2).length ≤ text.2 + mark := by
    rw [normalizeEvent, texts_sanitize, List.forall_mem_map]
  have cuts : (∀ text ∈ texts toLower (withDefaults random stamp now event),
      ValidUtf8 (truncate text.1 text.2)) ↔
      ∀ text ∈ texts toLower (withDefaults random stamp now event),
        ∀ hlong : text.2 < text.1.length, text.1[text.2].IsUTF8FirstByte :=
    forall₂_congr fun text htext => validUtf8_truncate_iff (hdefaults _ (mem_strings_of_mem_texts htext))
  have again : ∀ random' stamp' now', normalizeEvent toLower random' stamp' now'
      (normalizeEvent toLower random stamp now event) = normalizeEvent toLower random stamp now event :=
    normalizeEvent_idem hnow event
  constructor
  · constructor
    · intro stable
      exact cuts.mp (hvalid.mp stable.valid)
    · intro hcuts
      exact ⟨hvalid.mpr (cuts.mpr hcuts),
        (hwithin _).mpr fun text _ => length_truncate_le text.1 text.2, again⟩
  · constructor
    · intro stable text htext
      exact (length_truncate_le_iff _ _).mp ((hwithin 0).mp stable.within text htext)
    · intro hshort
      refine ⟨hvalid.mpr (cuts.mpr ?_), (hwithin 0).mpr ?_, again⟩
      · intro text htext hlong
        exact absurd (hshort text htext) (by omega)
      · intro text htext
        exact (length_truncate_le_iff _ _).mpr (hshort text htext)

theorem Stable.message {mark : Nat} (h : Stable toLower nested random stamp now event mark)
    (hmessage : event.message ≠ []) : ValidUtf8 (truncate event.message 1000) := by
  have hcut : (normalizeEvent toLower random stamp now event).message =
      truncate event.message 1000 :=
    congrArg (fun message => truncate message 1000) (orElse_of_ne_nil hmessage)
  rw [← hcut]
  refine h.valid _ (List.mem_append_left _ ?_)
  simp only [List.mem_cons, true_or, or_true]

/-- An event with this message -/
def messageEvent (message : String) : RawEvent Empty where
  id := utf8Bytes "e1"
  type := utf8Bytes "client_error"
  level := utf8Bytes "error"
  module := utf8Bytes "web.client"
  action := utf8Bytes "client.error"
  message := utf8Bytes message
  traceID := utf8Bytes "t1"

theorem messageEvent_message (message : String) :
    (messageEvent message).message = utf8Bytes message := rfl

theorem messageEvent_valid (message : String) :
    ∀ s ∈ strings (fun _ => []) (messageEvent message), ValidUtf8 s := by
  simp only [strings, messageEvent, detailStrings, List.flatMap_nil, List.append_nil,
    List.forall_mem_cons]
  have empty : ValidUtf8 [] := validUtf8_utf8Bytes ""
  simp [validUtf8_utf8Bytes, empty]

theorem normalizeEvent_stable_iff_ascii :
    Stable (fun key => key) (fun _ => []) none "" (.newYear 2026 (by omega))
      (messageEvent (String.ofList (List.replicate 1001 'a'))) ellipsis.length ∧
    ¬Stable (fun key => key) (fun _ => []) none "" (.newYear 2026 (by omega))
      (messageEvent (String.ofList (List.replicate 1001 'a'))) 0 := by
  have iffs := @normalizeEvent_stable_iff Empty (fun key => key) (fun _ => []) none ""
    (.newYear 2026 (by omega)) _ (messageEvent_valid (String.ofList (List.replicate 1001 'a')))
    (by decide)
  exact ⟨iffs.1.mpr (by decide +kernel), fun stable => absurd (iffs.2.mp stable) (by decide +kernel)⟩

def accentedMessage : String := String.ofList (List.replicate 999 'a' ++ ['é'])

/-- The cut goes through the last character of this message. -/
theorem normalizeEvent_cuts_character :
    (∀ s ∈ strings (fun _ => []) (messageEvent accentedMessage), ValidUtf8 s) ∧
    ∀ mark, ¬Stable (fun key => key) (fun _ => []) none "" (.newYear 2026 (by omega))
      (messageEvent accentedMessage) mark := by
  refine ⟨messageEvent_valid accentedMessage, ?_⟩
  intro mark stable
  have hmessage := stable.message (by decide +kernel)
  rw [messageEvent_message, validUtf8_truncate_iff (validUtf8_utf8Bytes accentedMessage)] at hmessage
  revert hmessage
  decide +kernel

end Stable

end RawEvent

def rawDetail : Value → RawDetail Value
  | .string typed => .text (utf8Bytes typed)
  | typed => .other typed

/-- The bytes of an event -/
def Event.raw (event : Event) : RawEvent Value where
  id := utf8Bytes event.id
  type := utf8Bytes event.type
  level := utf8Bytes event.level
  module := utf8Bytes event.module
  action := utf8Bytes event.action
  message := utf8Bytes event.message
  traceID := utf8Bytes event.traceID
  errorCode := utf8Bytes event.errorCode
  deviceID := utf8Bytes event.deviceID
  method := utf8Bytes event.method
  path := utf8Bytes event.path
  status := event.status
  durationMS := event.durationMS
  actor := utf8Bytes event.actor
  ipAddress := utf8Bytes event.ipAddress
  userAgent := utf8Bytes event.userAgent
  details := event.details.map fun entry => (utf8Bytes entry.1, rawDetail entry.2)
  createdAt := event.createdAt

section Raw

theorem utf8Bytes_eq (s : String) : utf8Bytes s = s.toList.flatMap String.utf8EncodeChar := by
  rw [← utf8Bytes_ofList, String.ofList_toList]

/-- What is kept of a text that is cut between two characters are its first bytes. -/
theorem flatMap_takeBytes (cs : List Char) {limit : Nat}
    (hcut : ∀ hlong : limit < (cs.flatMap String.utf8EncodeChar).length,
      (cs.flatMap String.utf8EncodeChar)[limit].IsUTF8FirstByte) :
    (takeBytes limit cs).flatMap String.utf8EncodeChar =
      (cs.flatMap String.utf8EncodeChar).take limit := by
  induction cs generalizing limit with
  | nil => simp [takeBytes]
  | cons c cs ih =>
    have hsize := String.length_utf8EncodeChar c
    rw [takeBytes]
    simp only [List.flatMap_cons] at hcut ⊢
    split_ifs with hfits
    · have rest : ∀ hlong : limit - c.utf8Size < (cs.flatMap String.utf8EncodeChar).length,
          (cs.flatMap String.utf8EncodeChar)[limit - c.utf8Size].IsUTF8FirstByte := by
        intro hlong
        have hfirst := hcut (by
          rw [List.length_append]
          omega)
        rw [List.getElem_append_right (by omega)] at hfirst
        simpa only [hsize] using hfirst
      rw [List.flatMap_cons, ih rest, List.take_append, hsize,
        List.take_of_length_le (hsize.trans_le hfits)]
    · have hfirst := hcut (by
        rw [List.length_append]
        omega)
      rw [List.getElem_append_left (by omega), UInt8.isUTF8FirstByte_getElem_utf8EncodeChar] at hfirst
      rw [hfirst]
      simp

theorem utf8Bytes_truncate (value : String) {limit : Nat}
    (hcut : ∀ hlong : limit < (utf8Bytes value).length, (utf8Bytes value)[limit].IsUTF8FirstByte) :
    utf8Bytes (truncate value limit) = RawEvent.truncate (utf8Bytes value) limit := by
  have hsize : (utf8Bytes value).length = value.utf8ByteSize := rfl
  unfold truncate RawEvent.truncate
  rw [hsize]
  split_ifs with hshort
  · rfl
  · have append (s t : String) : utf8Bytes (s ++ t) = utf8Bytes s ++ utf8Bytes t := by
      simp [utf8Bytes]
    rw [append, utf8Bytes_ofList, RawEvent.ellipsis, utf8Bytes_eq value, flatMap_takeBytes]
    rw [← utf8Bytes_eq]
    exact hcut

theorem utf8Bytes_sanitizePath (path : String) :
    utf8Bytes (sanitizePath path) = RawEvent.sanitizePath (utf8Bytes path) := by
  rw [sanitizePath, RawEvent.sanitizePath, utf8Bytes_ofList, utf8Bytes_eq]
  induction path.toList with
  | nil => rfl
  | cons c cs ih =>
    by_cases hc : c = '?'
    · rw [hc, List.takeWhile_cons_of_neg (by decide)]
      rfl
    · have plain : ∀ b ∈ String.utf8EncodeChar c, decide (b ≠ 0x3f) = true := by
        intro b hb
        rw [decide_eq_true_iff]
        rintro rfl
        have same : String.ofList [c] = String.ofList ['?'] := by
          have hone := ascii_of_mem_utf8EncodeChar hb (by decide)
          apply utf8Bytes_injective
          rw [utf8Bytes_ofList, utf8Bytes_ofList, List.flatMap_singleton, hone]
          decide
        rw [String.ofList_inj, List.singleton_inj] at same
        exact hc same
      rw [List.takeWhile_cons_of_pos (by simpa using hc), List.flatMap_cons, List.flatMap_cons,
        List.takeWhile_append_of_pos plain, ih]

theorem utf8Bytes_orElse (value default : String) :
    utf8Bytes (orElse value default) = RawEvent.orElse (utf8Bytes value) (utf8Bytes default) := by
  have hempty : value = "" ↔ utf8Bytes value = [] := utf8Bytes_injective.eq_iff.symm
  unfold orElse RawEvent.orElse
  simp only [hempty]
  split_ifs <;> rfl

variable {lower : GoString → GoString} {toLower : Char → Char}

theorem rawDetail_sanitizeValue (hkeys : ∀ key, RawEvent.isSensitive lower (utf8Bytes key) =
      isSensitive toLower key) {key : String} {value : Value}
    (hcut : ∀ text ∈ RawEvent.detailTexts lower [(utf8Bytes key, rawDetail value)],
      ∀ hlong : text.2 < text.1.length, text.1[text.2].IsUTF8FirstByte) :
    RawEvent.sanitizeValue lower (utf8Bytes key) (rawDetail value) =
      rawDetail (sanitizeValue toLower key value) := by
  unfold RawEvent.sanitizeValue sanitizeValue
  rw [hkeys]
  split_ifs with hsensitive
  · rfl
  · cases value with
    | string typed =>
      have hmem : (utf8Bytes typed, 1200) ∈
          RawEvent.detailTexts lower [(utf8Bytes key, rawDetail (.string typed))] := by
        simp [RawEvent.detailTexts, rawDetail, hkeys, hsensitive]
      exact congrArg RawDetail.text (utf8Bytes_truncate typed (hcut _ hmem)).symm
    | _ => rfl

/-- The normalisation of the bytes is the one of the texts where no cut goes through a character. -/
theorem raw_normalizeEvent {random : Option (Vector UInt8 16)} {stamp newID : String} {now : UtcTime}
    {event : Event} (hid : utf8Bytes newID = RawEvent.newID random stamp)
    (hkeys : ∀ key, RawEvent.isSensitive lower (utf8Bytes key) = isSensitive toLower key)
    (hcut : ∀ text ∈ RawEvent.texts lower (RawEvent.withDefaults random stamp now event.raw),
      ∀ hlong : text.2 < text.1.length, text.1[text.2].IsUTF8FirstByte) :
    RawEvent.normalizeEvent lower random stamp now event.raw =
      (normalizeEvent toLower newID now event).raw := by
  rw [RawEvent.texts, List.forall_mem_cons, List.forall_mem_cons] at hcut
  obtain ⟨hmessage, hagent, hdetails⟩ := hcut
  have message : RawEvent.truncate (RawEvent.withDefaults random stamp now event.raw).message 1000 =
      utf8Bytes (normalizeEvent toLower newID now event).message := by
    have default : (RawEvent.withDefaults random stamp now event.raw).message =
        utf8Bytes (orElse event.message (orElse event.action (orElse event.type "system"))) := by
      simp only [RawEvent.withDefaults, Event.raw, utf8Bytes_orElse]
    simp only [default] at hmessage ⊢
    exact (utf8Bytes_truncate _ hmessage).symm
  have agent : RawEvent.truncate event.raw.userAgent 300 =
      utf8Bytes (normalizeEvent toLower newID now event).userAgent :=
    (utf8Bytes_truncate event.userAgent hagent).symm
  have details : RawEvent.sanitizeDetails lower event.raw.details =
      (normalizeEvent toLower newID now event).raw.details := by
    simp only [RawEvent.sanitizeDetails, Event.raw, normalizeEvent, sanitizeDetails, List.map_map]
    refine List.map_congr_left ?_
    rintro ⟨key, value⟩ hentry
    refine congrArg (Prod.mk (utf8Bytes key)) (rawDetail_sanitizeValue hkeys ?_)
    intro text htext
    obtain ⟨entry, hsingle, hfound⟩ := List.mem_filterMap.mp htext
    rw [List.mem_singleton.mp hsingle] at hfound
    exact hdetails text (List.mem_filterMap.mpr ⟨_, List.mem_map_of_mem hentry, hfound⟩)
  rw [RawEvent.normalizeEvent, RawEvent.sanitize, message]
  simp only [RawEvent.withDefaults, agent, details]
  simp only [Event.raw, normalizeEvent, utf8Bytes_orElse, utf8Bytes_sanitizePath, hid]
  rfl

end Raw

end AdbControl.Observability
