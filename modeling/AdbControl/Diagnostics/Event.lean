import AdbControl.Framework.JsonLine

namespace AdbControl.Diagnostics

open Framework

/-- `c.is_ascii_alphanumeric() || b"_.:-".contains(&c)`; no byte of a longer character is one. -/
def isTokenChar (c : Char) : Bool := isAsciiAlphanumeric c || "_.:-".toList.contains c

def IsToken (value : String) : Prop :=
  value ≠ "" ∧ value.utf8ByteSize ≤ 128 ∧ value.toList.all isTokenChar = true

instance decidableIsToken (value : String) : Decidable (IsToken value) :=
  inferInstanceAs (Decidable (_ ∧ _ ∧ _))

def token (value : String) : String := if IsToken value then value else "unknown"

theorem isToken_token (value : String) : IsToken (token value) := by
  rw [token]
  split_ifs with h
  · exact h
  · decide

/-- What the process knows of itself; `SESSION` is set once. -/
structure Process where
  sessionId : Option String
  processId : UInt32

/-- `SESSION.set(token(&session))` -/
def Process.initialized (session : String) (processId : UInt32) : Process :=
  ⟨some (token session), processId⟩

/-- The arguments of `record` -/
structure Record where
  stage : String
  method : String
  trace : String
  ok : Bool
  elapsed : UInt64
  code : Option String

/-- `event`, with the clock and the count of dropped events it reads; the members are in the order of
their keys. -/
def event (process : Process) (now dropped : UInt64) (r : Record) : Value :=
  .object [
    ("event", .string (token r.stage)),
    ("fields", .object [
      ("dropped", .number (.posInt dropped.toNat)),
      ("elapsedMs", .number (.posInt r.elapsed.toNat)),
      ("errorCode", (r.code.map fun code => Value.string (token code)).getD .null),
      ("operation", .string (token r.method)),
      ("outcome", .string (if r.ok then "success" else "failed"))]),
    ("level", .string (if r.ok then "info" else "error")),
    ("module", .string "core"),
    ("processId", .number (.posInt process.processId.toNat)),
    ("schemaVersion", .number (.posInt 1)),
    ("sessionId", (process.sessionId.map Value.string).getD .null),
    ("timestampUnixMs", .number (.posInt now.toNat)),
    ("traceId", .string (token r.trace))]

/-- The value holds numbers, flags and tokens only. -/
def MetadataOnly (v : Value) : Prop := v.Good Number.IsWritten ∧ ∀ t ∈ v.texts, IsToken t

variable {process : Process} {now dropped : UInt64} {r : Record}

theorem event_good : (event process now dropped r).Good Number.IsWritten := by
  have code : ((r.code.map fun code => Value.string (token code)).getD .null).Good
      Number.IsWritten := by cases r.code <;> trivial
  have session : ((process.sessionId.map Value.string).getD .null).Good Number.IsWritten := by
    cases process.sessionId <;> trivial
  refine ⟨by simp, trivial, ⟨by simp, trivial, trivial, code, trivial, trivial, trivial⟩, ?_⟩
  exact ⟨trivial, trivial, trivial, trivial, session, trivial, trivial, trivial⟩

/-- Whatever the caller names, the event has tokens for it. -/
theorem event_metadataOnly (h : ∀ session ∈ process.sessionId, IsToken session) :
    MetadataOnly (event process now dropped r) := by
  have code : ∀ t ∈ ((r.code.map fun code => Value.string (token code)).getD .null).texts,
      IsToken t := by
    cases r.code with
    | none => exact fun _ ht => (List.not_mem_nil ht).elim
    | some code => exact fun t ht => List.mem_singleton.mp ht ▸ isToken_token code
  have session : ∀ t ∈ ((process.sessionId.map Value.string).getD .null).texts, IsToken t := by
    cases hsession : process.sessionId with
    | none => exact fun _ ht => (List.not_mem_nil ht).elim
    | some session => exact fun t ht => List.mem_singleton.mp ht ▸ h session hsession
  have outcome : IsToken (if r.ok then "success" else "failed") := by cases r.ok <;> decide
  have level : IsToken (if r.ok then "info" else "error") := by cases r.ok <;> decide
  refine ⟨event_good, ?_⟩
  simp only [event, Value.texts, memberTexts, List.forall_mem_cons, List.forall_mem_append,
    List.cons_append, List.nil_append]
  exact ⟨by decide, isToken_token _, by decide, by decide, by decide, by decide,
    ⟨code, by decide, isToken_token _, by decide, outcome, by simp⟩, by decide, level, by decide,
    by decide, by decide, by decide, by decide, session, by decide, by decide, isToken_token _, by simp⟩

def lineOf (v : Value) : String := String.ofList v.compact

section Length

theorem isTokenChar_range {c : Char} (h : isTokenChar c = true) :
    45 ≤ c.toNat ∧ c.toNat < 128 ∧ c.toNat ≠ 92 := by
  rw [isTokenChar, Bool.or_eq_true] at h
  rcases h with h | h
  · simp only [isAsciiAlphanumeric, isAsciiDigit, Bool.or_eq_true, Bool.and_eq_true, decide_eq_true_eq] at h
    omega
  · simp only [List.contains_iff_mem, String.reduceToList, List.mem_cons, List.not_mem_nil, or_false] at h
    rcases h with rfl | rfl | rfl | rfl <;> decide

theorem token_ascii {t : String} (h : IsToken t) : ∀ c ∈ t.toList, c.toNat < 128 := by
  intro c hc
  exact (isTokenChar_range (List.all_eq_true.mp h.2.2 c hc)).2.1

/-- No character of a token is escaped. -/
theorem length_quoted {t : String} (h : IsToken t) : (Value.quoted t).length ≤ 130 := by
  have plain : ∀ c ∈ t.toList, escaped c = [c] := by
    intro c hc
    have hrange := isTokenChar_range (List.all_eq_true.mp h.2.2 c hc)
    have hquote : c ≠ '"' := by
      rintro rfl
      exact absurd hrange.1 (by decide)
    have hslash : c ≠ '\\' := by
      rintro rfl
      exact hrange.2.2 rfl
    simp only [escaped]
    split_ifs
    all_goals first | rfl | contradiction | omega
  have hsize := utf8ByteSize_ascii (token_ascii h)
  rw [String.ofList_toList] at hsize
  have hlength := h.2.1
  rw [quoted_eq, List.flatMap_congr plain, List.flatMap_singleton', List.length_cons,
    List.length_append, List.length_singleton]
  omega

theorem length_text {n : Nat} (h : n < 10 ^ 20) : (Number.posInt n).text.length ≤ 20 := by
  rw [Number.text, String.length_toList, Nat.length_repr_le_iff (by decide)]
  exact h

/-- An event and the end of its line take less than a kilobyte. -/
theorem length_jsonLine_event (h : ∀ session ∈ process.sessionId, IsToken session) :
    (jsonLine (event process now dropped r)).length ≤ 1024 := by
  have hmeta : MetadataOnly (event process now dropped r) := event_metadataOnly h
  have hascii := compact_ascii hmeta.1 fun t ht => token_ascii (hmeta.2 t ht)
  have code : ((r.code.map fun code => Value.string (token code)).getD .null).compact.length ≤ 130 := by
    cases r.code with
    | none => decide
    | some code => exact length_quoted (isToken_token code)
  have session : ((process.sessionId.map Value.string).getD .null).compact.length ≤ 130 := by
    cases hsession : process.sessionId with
    | none => decide
    | some session => exact length_quoted (h session hsession)
  have outcome : (Value.quoted (if r.ok then "success" else "failed")).length ≤ 9 := by
    cases r.ok <;> decide
  have level : (Value.quoted (if r.ok then "info" else "error")).length ≤ 7 := by cases r.ok <;> decide
  have stage := length_quoted (isToken_token r.stage)
  have method := length_quoted (isToken_token r.method)
  have trace := length_quoted (isToken_token r.trace)
  rw [jsonLine, utf8Bytes_ascii hascii, List.length_append, List.length_map]
  have core : (Value.quoted "core").length = 6 := by decide
  have keys : (["event", "fields", "dropped", "elapsedMs", "errorCode", "operation", "outcome", "level",
      "module", "processId", "schemaVersion", "sessionId", "timestampUnixMs", "traceId"].map
        fun key => (Value.quoted key).length) = [7, 8, 9, 11, 11, 11, 9, 7, 8, 11, 15, 11, 17, 9] := by
    decide
  simp only [List.map_cons, List.map_nil, List.cons.injEq, and_true] at keys
  have big (n : UInt64) := length_text (Nat.lt_trans n.toNat_lt (by decide : 2 ^ 64 < 10 ^ 20))
  have small := length_text (Nat.lt_trans process.processId.toNat_lt (by decide : 2 ^ 32 < 10 ^ 20))
  have one : (Number.posInt 1).text.length = 1 := by decide
  have numbers := And.intro (big now) (And.intro (big dropped) (big r.elapsed))
  simp only [event, Value.compact, compactMembers, List.length_append, List.length_cons, List.length_nil]
  omega

end Length

end AdbControl.Diagnostics
