import AdbControl.Observability.Event

namespace AdbControl.Observability

open Framework

/-- A member of an object anywhere in a value, through objects and arrays. -/
inductive Inside : Value → String → Value → Prop
  | member {members : List (String × Value)} {key : String} {value : Value}
    (h : (key, value) ∈ members) : Inside (.object members) key value
  | deeper {members : List (String × Value)} {outer key : String} {inner value : Value}
    (h : (outer, inner) ∈ members) (hinside : Inside inner key value) :
    Inside (.object members) key value
  | item {items : List Value} {inner value : Value} {key : String} (h : inner ∈ items)
    (hinside : Inside inner key value) : Inside (.array items) key value

variable (sensitive : String → Bool)

mutual

/-- What a redaction through all levels makes of a value: below a sensitive key the text that stands
for it, elsewhere the value, of which a text may be shortened. -/
def Redacts : Value → Value → Prop
  | .string s, stored => stored = .string s ∨ ∃ limit, stored = .string (truncate s limit)
  | .array items, .array items' => RedactsItems items items'
  | .object members, .object members' => RedactsMembers members members'
  | value, stored => stored = value

def RedactsItems : List Value → List Value → Prop
  | [], [] => True
  | item :: items, item' :: items' => Redacts item item' ∧ RedactsItems items items'
  | _, _ => False

def RedactsMembers : List (String × Value) → List (String × Value) → Prop
  | [], [] => True
  | (key, value) :: members, (key', value') :: members' =>
    key' = key ∧ (if sensitive key then value' = redacted else Redacts value value') ∧
      RedactsMembers members members'
  | _, _ => False

end

/-- Below this value no sensitive key holds anything but the text that stands for it. -/
def Clean (value : Value) : Prop :=
  ∀ key inner, Inside value key inner → sensitive key = true → inner = redacted

/-- Below the top level of the details, where its own keys are not sensitive, nothing is to be
redacted. -/
def CleanBelow (details : List (String × Value)) : Prop :=
  ∀ entry ∈ details, sensitive entry.1 = false → Clean sensitive entry.2

section

variable {sensitive}

theorem clean_array_iff {items : List Value} :
    Clean sensitive (.array items) ↔ ∀ item ∈ items, Clean sensitive item := by
  constructor
  · intro h item hitem key inner hinside
    exact h key inner (.item hitem hinside)
  · intro h key inner hinside
    cases hinside with
    | item hitem hinside => exact h _ hitem key inner hinside

theorem clean_object_iff {members : List (String × Value)} :
    Clean sensitive (.object members) ↔ ∀ entry ∈ members,
      (sensitive entry.1 = true → entry.2 = redacted) ∧ Clean sensitive entry.2 := by
  constructor
  · intro h entry hentry
    exact ⟨h entry.1 entry.2 (.member hentry), fun key inner hinside =>
      h key inner (.deeper hentry hinside)⟩
  · intro h key inner hinside
    cases hinside with
    | member hentry => exact (h _ hentry).1
    | deeper hentry hinside => exact (h _ hentry).2 key inner hinside

theorem clean_of_plain {value : Value} (harray : value.asArray = none)
    (hobject : value.isObject = false) : Clean sensitive value := by
  intro key inner hinside
  cases hinside with
  | member => cases hobject
  | deeper => cases hobject
  | item => cases harray

mutual

/-- A value is its own redaction exactly when it is clean. -/
theorem redacts_self_iff (value : Value) : Redacts sensitive value value ↔ Clean sensitive value := by
  cases value with
  | null => exact iff_of_true rfl (clean_of_plain rfl rfl)
  | bool b => exact iff_of_true rfl (clean_of_plain rfl rfl)
  | number n => exact iff_of_true rfl (clean_of_plain rfl rfl)
  | string s => exact iff_of_true (Or.inl rfl) (clean_of_plain rfl rfl)
  | array items =>
    rw [clean_array_iff]
    exact redactsItems_self_iff items
  | object members =>
    rw [clean_object_iff]
    exact redactsMembers_self_iff members

theorem redactsItems_self_iff (items : List Value) :
    RedactsItems sensitive items items ↔ ∀ item ∈ items, Clean sensitive item := by
  cases items with
  | nil => simp [RedactsItems]
  | cons item items =>
    rw [RedactsItems, redacts_self_iff item, redactsItems_self_iff items, List.forall_mem_cons]

theorem redactsMembers_self_iff (members : List (String × Value)) :
    RedactsMembers sensitive members members ↔ ∀ entry ∈ members,
      (sensitive entry.1 = true → entry.2 = redacted) ∧ Clean sensitive entry.2 := by
  cases members with
  | nil => simp [RedactsMembers]
  | cons entry members =>
    obtain ⟨key, value⟩ := entry
    rw [RedactsMembers, redactsMembers_self_iff members, List.forall_mem_cons,
      redacts_self_iff value]
    cases hkey : sensitive key with
    | false => simp
    | true =>
      have clean (h : value = redacted) : Clean sensitive value := by
        rw [h]
        exact clean_of_plain rfl rfl
      simp only [if_true, true_and, forall_const]
      exact and_congr_left fun _ => ⟨fun h => ⟨h, clean h⟩, And.left⟩

end

/-- What is kept under a key that is not sensitive is its redaction exactly when it is clean: only a
text of its own is shortened. -/
theorem redacts_sanitizeValue_iff {toLower : Char → Char} {key : String} {value : Value}
    (hkey : isSensitive toLower key = false) :
    Redacts (isSensitive toLower) value (sanitizeValue toLower key value) ↔
      Clean (isSensitive toLower) value := by
  unfold sanitizeValue
  rw [if_neg (by rw [hkey]; exact Bool.false_ne_true)]
  cases value with
  | string s => exact iff_of_true (Or.inr ⟨1200, rfl⟩) (clean_of_plain rfl rfl)
  | null | bool | number | array | object => exact redacts_self_iff _

theorem redactsMembers_sanitizeDetails_iff (toLower : Char → Char)
    (details : List (String × Value)) :
    RedactsMembers (isSensitive toLower) details (sanitizeDetails toLower details) ↔
      CleanBelow (isSensitive toLower) details := by
  induction details with
  | nil => simp [RedactsMembers, sanitizeDetails, CleanBelow]
  | cons entry details ih =>
    obtain ⟨key, value⟩ := entry
    rw [sanitizeDetails, List.map_cons, RedactsMembers, ← sanitizeDetails, ih, CleanBelow, CleanBelow,
      List.forall_mem_cons]
    cases hkey : isSensitive toLower key with
    | true => simp [sanitizeValue, hkey]
    | false => simp [redacts_sanitizeValue_iff hkey]

end

/-- The stored details are the posted ones, redacted through all levels, exactly when nothing is to
be redacted below the top level. -/
theorem redaction_deep_iff (toLower : Char → Char) (newID : String) (now : UtcTime)
    (event : Event) :
    Redacts (isSensitive toLower) (.object event.details)
        (.object (normalizeEvent toLower newID now event).details) ↔
      CleanBelow (isSensitive toLower) event.details :=
  redactsMembers_sanitizeDetails_iff toLower event.details

/-- An error of the browser with the request that failed. -/
def nestedPassword : ClientError where
  message := "failed"
  source := ""
  stack := ""
  component := ""
  route := ""
  errorCode := ""
  traceID := ""
  details := [("request", .object [("password", .string "hunter2")])]

/-- Its password is stored. -/
theorem nested_password_stored : ¬∀ (toLower : Char → Char) (newID : String) (now : UtcTime)
    (event : Event), Redacts (isSensitive toLower) (.object event.details)
      (.object (normalizeEvent toLower newID now event).details) := by
  intro h
  obtain ⟨event, posted, hdetails⟩ : ∃ event,
      clientError nestedPassword "" "" "" "" = .ok event ∧
        ("request", .object [("password", .string "hunter2")]) ∈ event.details :=
    ⟨_, rfl, by simp [nestedPassword, setDetail]⟩
  have clean := (redactsMembers_sanitizeDetails_iff Char.toLower event.details).mp
    (h Char.toLower "" zeroTime event)
  have inside : Inside (.object [("password", .string "hunter2")]) "password" (.string "hunter2") :=
    .member (by simp)
  have plain : isSensitive Char.toLower "request" = false := by decide
  have secret : isSensitive Char.toLower "password" = true := by decide
  have kept := clean _ hdetails plain _ _ inside secret
  simp [redacted] at kept

end AdbControl.Observability
