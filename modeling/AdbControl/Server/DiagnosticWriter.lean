import AdbControl.Framework.Chunks
import AdbControl.Framework.Run

namespace AdbControl.Server.Diagnostics

open Framework

def newline : UInt8 := 10

/-- How much of a line is held between two writes. -/
def maxPending : Nat := 64 * 1024

def levelInfo : String := "info"

def levelWarn : String := "warn"

def levelError : String := "error"

/-- What a line of Core's stderr is read as; absent members leave the zero value. -/
structure Payload where
  event : String
  actor : String
  sessionId : String
  level : String
  phase : String
  module : String
  ok : Bool
  elapsedMs : Int
  errorCode : String
  detail : String
  deriving DecidableEq, Repr

/-- An event as it is recorded; outcome and detail are its details. -/
structure Event where
  type : String
  level : String
  module : String
  action : String
  message : String
  traceId : String
  errorCode : String
  durationMs : Int
  actor : String
  outcome : Bool
  detail : String
  deriving DecidableEq, Repr

def Payload.toEvent (payload : Payload) : Event where
  type := "client_error"
  level :=
    if payload.level ≠ levelInfo ∧ payload.level ≠ levelWarn ∧ payload.level ≠ levelError then
      levelInfo
    else payload.level
  module := "mobile." ++ payload.module
  action := payload.phase
  message := "移动端诊断：" ++ payload.phase
  traceId := "mobile-" ++ payload.sessionId
  errorCode := payload.errorCode
  durationMs := payload.elapsedMs
  actor := payload.actor
  outcome := payload.ok
  detail := payload.detail

variable (unmarshal : List UInt8 → Option Payload)

/-- The event that `importLine` records, if any. -/
def importLine (line : List UInt8) : List Event :=
  match unmarshal line with
  | none => []
  | some payload =>
    if payload.event ≠ "mobile_client_diagnostic" then [] else [payload.toEvent]

/-- The loop of `Write`: what the lines that are held come to, and what is left. -/
def drain (buffer : List UInt8) : List Event × List UInt8 :=
  if newline ∈ buffer then
    let line := buffer.take (buffer.idxOf newline)
    let rest := drain (buffer.drop (buffer.idxOf newline + 1))
    (importLine unmarshal line ++ rest.1, rest.2)
  else ([], buffer)
termination_by buffer.length
decreasing_by
  rename_i h
  have hlt := List.idxOf_lt_length_of_mem h
  rw [List.length_drop]
  omega

/-- `CoreDiagnosticWriter.Write`. -/
def write (buffer chunk : List UInt8) : List Event × List UInt8 :=
  let drained := drain unmarshal (buffer ++ chunk)
  (drained.1, if maxPending < drained.2.length then [] else drained.2)

/-- The events that a writer imports, of all that is written to it. -/
def imports (chunks : List (List UInt8)) : List Event :=
  eventsOf (fun buffer chunk => (write unmarshal buffer chunk).2)
    (fun buffer chunk => (write unmarshal buffer chunk).1) [] chunks

/-- One event for every complete line of at most 64 KiB that is one. -/
def intended (stream : List UInt8) : List Event :=
  (completeLines newline stream).flatMap fun line =>
    if line.length ≤ maxPending then importLine unmarshal line else []

/-- A complete line, with the offsets in it where a write has ended. -/
structure CutLine where
  text : List UInt8
  cuts : List Nat

def CutLine.ofMarks (marks : List (Option UInt8)) : CutLine :=
  ⟨marks.reduceOption, cutsFrom 0 marks⟩

def cutLines (chunks : List (List UInt8)) : List CutLine :=
  (completeLines (some newline) (marked chunks)).map CutLine.ofMarks

/-- How much of a line has been dropped: at every cut, what has come since if it is too much. -/
def droppedFrom (start : Nat) (cuts : List Nat) : Nat :=
  cuts.foldl (fun start cut => if maxPending < cut - start then cut else start) start

/-- What is left of a line when its end comes. -/
def CutLine.remnant (line : CutLine) : List UInt8 := line.text.drop (droppedFrom 0 line.cuts)

section Machine

/-- What is held of a line, byte by byte, with the end of a write as a mark. -/
def hold (held : List UInt8) : Option UInt8 → List UInt8
  | some b => held ++ [b]
  | none => if maxPending < held.length then [] else held

variable {unmarshal}

theorem drain_line {line rest : List UInt8} (h : newline ∉ line) :
    drain unmarshal (line ++ newline :: rest) =
      (importLine unmarshal line ++ (drain unmarshal rest).1, (drain unmarshal rest).2) := by
  have index : (line ++ newline :: rest).idxOf newline = line.length := by
    rw [List.idxOf_append_of_notMem h, List.idxOf_cons_self, Nat.add_zero]
  have gone : (line ++ newline :: rest).drop (line.length + 1) = rest := by simp
  rw [drain, if_pos (by simp), index, List.take_left, gone]

theorem drain_none {buffer : List UInt8} (h : newline ∉ buffer) :
    drain unmarshal buffer = ([], buffer) := by
  rw [drain, if_neg h]

/-- The loop emits as the machine does, and leaves what the machine holds. -/
theorem drain_accumulate {held : List UInt8} (hheld : newline ∉ held) (chunk : List UInt8)
    (more : List (Option UInt8)) :
    newline ∉ (drain unmarshal (held ++ chunk)).2 ∧
      accumulate (some newline) hold (importLine unmarshal) [] held (chunk.map some ++ more) =
        (drain unmarshal (held ++ chunk)).1 ++
          accumulate (some newline) hold (importLine unmarshal) []
            (drain unmarshal (held ++ chunk)).2 more := by
  induction chunk generalizing held with
  | nil =>
    rw [List.append_nil, drain_none hheld]
    exact ⟨hheld, rfl⟩
  | cons b chunk ih =>
    by_cases hb : b = newline
    · rw [hb]
      obtain ⟨hrest, hsame⟩ := @ih [] List.not_mem_nil
      rw [drain_line hheld]
      refine ⟨hrest, ?_⟩
      rw [List.map_cons, List.cons_append, accumulate, if_pos (by simp), hsame, List.append_assoc]
      rfl
    · have hheld' : newline ∉ held ++ [b] := by
        simp only [List.mem_append, List.mem_singleton, not_or]
        exact ⟨hheld, Ne.symm hb⟩
      have step := ih hheld'
      rw [List.append_assoc, List.singleton_append] at step
      refine ⟨step.1, ?_⟩
      rw [List.map_cons, List.cons_append, accumulate, if_neg (by simpa using hb)]
      exact step.2

/-- The writes are the machine on the marked stream. -/
theorem imports_accumulate {held : List UInt8} (hheld : newline ∉ held)
    (chunks : List (List UInt8)) :
    eventsOf (fun buffer chunk => (write unmarshal buffer chunk).2)
        (fun buffer chunk => (write unmarshal buffer chunk).1) held chunks =
      accumulate (some newline) hold (importLine unmarshal) [] held (marked chunks) := by
  induction chunks generalizing held with
  | nil => rfl
  | cons chunk chunks ih =>
    obtain ⟨hrest, hsame⟩ := @drain_accumulate unmarshal _ hheld chunk (none :: marked chunks)
    have hkept : newline ∉ (write unmarshal held chunk).2 := by
      unfold write
      dsimp only
      split_ifs
      · exact List.not_mem_nil
      · exact hrest
    rw [eventsOf_cons, marked_cons, hsame, ih hkept]
    rfl

end Machine

section Remnant

/-- What the machine holds of a line is what is left of it by its cuts. -/
theorem foldl_hold {text : List UInt8} {start : Nat} (hstart : start ≤ text.length)
    {marks : List (Option UInt8)} :
    marks.foldl hold (text.drop start) =
      (text ++ marks.reduceOption).drop (droppedFrom start (cutsFrom text.length marks)) := by
  induction marks generalizing text start with
  | nil => simp [droppedFrom, cutsFrom]
  | cons m marks ih =>
    cases m with
    | some b =>
      have longer : start ≤ (text ++ [b]).length := by
        rw [List.length_append, List.length_singleton]
        omega
      have held : hold (text.drop start) (some b) = (text ++ [b]).drop start := by
        rw [List.drop_append_of_le_length hstart]
        rfl
      have rest := @ih (text ++ [b]) start longer
      rw [List.length_append, List.length_singleton] at rest
      rw [List.foldl_cons, held, rest, List.reduceOption_cons_of_some, List.append_assoc]
      rfl
    | none =>
      have held : hold (text.drop start) none =
          text.drop (if maxPending < text.length - start then text.length else start) := by
        unfold hold
        rw [List.length_drop]
        split_ifs
        · rw [List.drop_length]
        · rfl
      have within : (if maxPending < text.length - start then text.length else start) ≤
          text.length := by
        split_ifs
        · exact le_refl _
        · exact hstart
      rw [List.foldl_cons, held, ih within, List.reduceOption_cons_of_none]
      rfl

theorem CutLine.remnant_ofMarks (marks : List (Option UInt8)) :
    (CutLine.ofMarks marks).remnant = marks.foldl hold [] := by
  have held := @foldl_hold [] 0 (le_refl 0) marks
  rw [List.drop_nil, List.nil_append] at held
  exact held.symm

theorem cutsFrom_le {marks : List (Option UInt8)} {n : Nat} :
    ∀ cut ∈ cutsFrom n marks, cut ≤ n + marks.reduceOption.length := by
  induction marks generalizing n with
  | nil => nofun
  | cons m marks ih =>
    cases m with
    | some b =>
      intro cut hcut
      have hle := @ih (n + 1) cut hcut
      rw [List.reduceOption_cons_of_some, List.length_cons]
      omega
    | none =>
      intro cut hcut
      rw [List.reduceOption_cons_of_none]
      rcases List.mem_cons.mp hcut with rfl | hcut
      · omega
      · exact ih cut hcut

theorem droppedFrom_zero {cuts : List Nat} (h : ∀ cut ∈ cuts, cut ≤ maxPending) :
    droppedFrom 0 cuts = 0 := by
  induction cuts with
  | nil => rfl
  | cons cut cuts ih =>
    obtain ⟨hcut, hrest⟩ := List.forall_mem_cons.mp h
    unfold droppedFrom
    rw [List.foldl_cons, if_neg (by omega)]
    exact ih hrest

/-- Nothing is dropped of a line that is short enough. -/
theorem CutLine.remnant_short {line : CutLine} {chunks : List (List UInt8)}
    (hline : line ∈ cutLines chunks) (h : line.text.length ≤ maxPending) :
    line.remnant = line.text := by
  obtain ⟨marks, -, rfl⟩ := List.mem_map.mp hline
  have within : ∀ cut ∈ (CutLine.ofMarks marks).cuts, cut ≤ maxPending := by
    intro cut hcut
    have hle : cut ≤ 0 + marks.reduceOption.length := cutsFrom_le cut hcut
    have htext : marks.reduceOption.length ≤ maxPending := h
    omega
  rw [CutLine.remnant, droppedFrom_zero within, List.drop_zero]

end Remnant

variable {unmarshal}

/-- Each complete line is imported by its remnant. -/
theorem imports_remnants (chunks : List (List UInt8)) :
    imports unmarshal chunks =
      (cutLines chunks).flatMap fun line => importLine unmarshal line.remnant := by
  rw [imports, imports_accumulate List.not_mem_nil, accumulate_lines, cutLines, List.flatMap_map]
  simp only [CutLine.remnant_ofMarks]

theorem cutLines_text (chunks : List (List UInt8)) :
    (cutLines chunks).map CutLine.text = completeLines newline chunks.flatten := by
  have same := @splitOn_reduceOption _ _ _ newline (marked chunks)
  rw [reduceOption_marked] at same
  rw [cutLines, List.map_map, completeLines, completeLines, ← same, List.map_dropLast]
  rfl

theorem intended_lines (chunks : List (List UInt8)) :
    intended unmarshal chunks.flatten = (cutLines chunks).flatMap fun line =>
      if line.text.length ≤ maxPending then importLine unmarshal line.text else [] := by
  rw [intended, ← cutLines_text, List.flatMap_map]

/-- However a stream is split into writes, one event is imported for each complete line of at most
64 KiB that is one, and none for any part of a longer line, exactly when no longer line has a
remnant that is one. -/
theorem imports_intended_iff (unmarshal : List UInt8 → Option Payload)
    (chunks : List (List UInt8)) :
    imports unmarshal chunks = intended unmarshal chunks.flatten ↔
      ∀ line ∈ cutLines chunks, maxPending < line.text.length →
        importLine unmarshal line.remnant = [] := by
  rw [imports_remnants, intended_lines, flatMap_eq_iff]
  · constructor
    · intro h line hline hlong
      have none := h line hline
      rw [if_neg (Nat.not_le.mpr hlong)] at none
      exact none
    · intro h line hline
      by_cases hshort : line.text.length ≤ maxPending
      · rw [if_pos hshort, CutLine.remnant_short hline hshort]
      · rw [if_neg hshort]
        exact h line hline (Nat.lt_of_not_le hshort)
  · intro line hline
    by_cases hshort : line.text.length ≤ maxPending
    · refine Or.inl ?_
      rw [if_pos hshort, CutLine.remnant_short hline hshort]
    · exact Or.inr (if_neg hshort)

/-- A diagnostic, and what it is read as. -/
def diagnostic : List UInt8 :=
  "\x7b\"event\":\"mobile_client_diagnostic\",\"phase\":\"quic.request\"\x7d".toList.flatMap
    String.utf8EncodeChar

def readDiagnostic (line : List UInt8) : Option Payload :=
  if line = diagnostic then
    some ⟨"mobile_client_diagnostic", "", "", "", "quic.request", "", false, 0, "", ""⟩
  else none

/-- More than 64 KiB of a line without its end. -/
def longHead : List UInt8 := List.replicate (maxPending + 1) 120

/-- The head of a line is dropped after the first write, and its tail is imported by the second. -/
theorem tail_imported : ¬∀ (unmarshal : List UInt8 → Option Payload) (chunks : List (List UInt8)),
    imports unmarshal chunks = intended unmarshal chunks.flatten := by
  intro h
  have same := h readDiagnostic [longHead, diagnostic ++ [newline]]
  have hhead : newline ∉ longHead := by
    intro hmem
    exact absurd (List.eq_of_mem_replicate hmem) (by decide)
  have htail : newline ∉ diagnostic := by decide
  have hlen : maxPending < longHead.length := by
    rw [longHead, List.length_replicate]
    exact Nat.lt_succ_self _
  have dropped : write readDiagnostic [] longHead = ([], []) := by
    unfold write
    rw [List.nil_append, drain_none hhead]
    dsimp only
    rw [if_pos hlen]
  have imported : write readDiagnostic [] (diagnostic ++ [newline]) =
      (importLine readDiagnostic diagnostic, []) := by
    unfold write
    rw [List.nil_append, drain_line htail, drain_none List.not_mem_nil]
    simp
  have once : imports readDiagnostic [longHead, diagnostic ++ [newline]] =
      importLine readDiagnostic diagnostic := by
    unfold imports
    rw [eventsOf_cons, dropped, eventsOf_cons, imported]
    simp
  have never : intended readDiagnostic [longHead, diagnostic ++ [newline]].flatten = [] := by
    have whole : [longHead, diagnostic ++ [newline]].flatten =
        (longHead ++ diagnostic) ++ newline :: [] := by simp
    have hline : newline ∉ longHead ++ diagnostic := by simp [hhead, htail]
    rw [intended, whole, completeLines_cons hline]
    simp only [completeLines, List.splitOn_nil, List.dropLast_singleton, List.flatMap_cons,
      List.flatMap_nil, List.append_nil]
    rw [if_neg (by rw [List.length_append]; omega)]
  rw [once, never] at same
  revert same
  decide

end AdbControl.Server.Diagnostics
