import AdbControl.Diagnostics.Recorder

namespace AdbControl.Diagnostics

open Framework

section Turns

/-- `olds` is what the files of the generations 1, 2 and 3 held at first, `full` what has been written
to files that are finished, and `text` all that was written. -/
structure Turning (olds full : List (List UInt8)) (w : Writer) (text : List UInt8) : Prop where
  generation : w.generation = full.length % 4
  slots : InTurn 4 olds w.files full
  large : ∀ part ∈ full, maxFileBytes + 1 ≤ part.length
  text : full.flatten ++ w.current = text
  size : w.bytes ≤ w.current.length

variable {olds full : List (List UInt8)} {w : Writer} {text line : List UInt8}

theorem Turning.roll (h : Turning olds full w text) : ∃ full', Turning olds full' w.roll text := by
  rw [Writer.roll]
  split_ifs with hlarge
  · have hopen : w.bytes ≠ 0 := Nat.ne_of_gt (Nat.zero_lt_of_lt hlarge)
    have hcurrent : w.current = w.files (full.length % 4) := by
      rw [Writer.current, if_neg hopen, h.generation]
    refine ⟨full ++ [w.current], ?_, ?_, ?_, ?_, Nat.zero_le _⟩
    · rw [List.length_append, List.length_singleton, h.generation]
      show (full.length % 4 + 1) % 4 = _
      omega
    · rw [hcurrent]
      exact h.slots.turn
    · rw [List.forall_mem_append, List.forall_mem_singleton]
      exact ⟨h.large, Nat.le_trans hlarge h.size⟩
    · have hempty : ({ w with generation := (w.generation + 1) % 4, bytes := 0 } : Writer).current = [] :=
        if_pos rfl
      rw [hempty, List.append_nil, List.flatten_append, List.flatten_singleton]
      exact h.text
  · exact ⟨full, h⟩

theorem put_current (h : w.bytes ≠ 0) : (w.put line).current = w.current ++ line := by
  rw [Writer.current, Writer.put, if_neg h]
  exact Function.update_self _ _ _

theorem Turning.put (h : Turning olds full w text) :
    InTurn 4 olds (w.put line).files full := by
  rw [Writer.put, h.generation]
  exact h.slots.write _

theorem Turning.store (h : Turning olds full w text) (ending : WriteEnd) (hline : line ≠ []) :
    Turning olds full (w.store line ending) (text ++ w.stores line ending) := by
  have same : Turning olds full w (text ++ []) := by rwa [List.append_nil]
  cases ending with
  | noDirectory => exact same
  | notOpened => exact same
  | torn n =>
    by_cases hb : w.bytes = 0
    · have hcurrent : (w.put (line.take n)).current = w.current := by
        rw [Writer.current, Writer.current, if_pos hb, if_pos (show (w.put (line.take n)).bytes = 0 from hb)]
      refine ⟨h.generation, h.put, h.large, ?_, ?_⟩
      · rw [Writer.store, hcurrent, Writer.stores, if_pos hb, List.append_nil]
        exact h.text
      · rw [Writer.store, hcurrent]
        exact h.size
    · have hcurrent : (w.put (line.take n)).current = w.current ++ line.take n := put_current hb
      refine ⟨h.generation, h.put, h.large, ?_, ?_⟩
      · rw [Writer.store, hcurrent, Writer.stores, if_neg hb, ← List.append_assoc, h.text]
      · rw [Writer.store, hcurrent, List.length_append]
        exact Nat.le_add_right_of_le h.size
  | written =>
    have hsome : w.bytes + line.length ≠ 0 := by
      have hpos := List.length_pos_of_ne_nil hline
      omega
    have hcurrent : (w.store line .written).current = w.current ++ line := by
      rw [Writer.current, Writer.store, if_neg hsome]
      exact Function.update_self _ _ _
    refine ⟨h.generation, h.put, h.large, ?_, ?_⟩
    · rw [hcurrent, ← List.append_assoc, h.text]
      rfl
    · rw [hcurrent, List.length_append]
      exact Nat.add_le_add_right h.size _

theorem resting_mod (k n : Nat) (slots : Nat → List UInt8) :
    resting k slots (n % k) = resting k slots n := by
  simp only [resting]
  refine List.flatMap_congr ?_
  intro i _
  rw [Nat.add_assoc, Nat.mod_add_mod, ← Nat.add_assoc]

theorem Turning.log_eq (h : Turning olds full w text) :
    w.log = resting 4 w.files full.length ++ w.current := by
  rw [Writer.log, h.generation, resting_mod]

/-- The log on disk is the end of what was written, after what an earlier process left there. -/
theorem Turning.log_suffix (h : Turning olds full w text) : w.log <:+ olds.flatten ++ text := by
  rw [h.log_eq, ← h.text, ← List.append_assoc]
  exact (List.suffix_append_inj_of_length_eq rfl).mpr ⟨h.slots.resting_suffix, rfl⟩

/-- What was written is on disk, all of it or more than three full files. -/
theorem Turning.log_kept (h : Turning olds full w text) :
    text <:+ w.log ∨ 3 * maxFileBytes < w.log.length := by
  rw [h.log_eq, ← h.text]
  rcases Nat.lt_or_ge full.length 4 with hfew | hmany
  · exact Or.inl ((List.suffix_append_inj_of_length_eq rfl).mpr ⟨h.slots.full_suffix hfew, rfl⟩)
  · right
    have hlength := h.slots.le_length_resting (by omega) h.large
    rw [List.length_append]
    omega

end Turns

namespace Recorder

variable {process : Process} {s : Recorder} {h : List Note}

/-- All that the worker has written -/
def stored (h : List Note) : List UInt8 := h.flatMap Note.storedText

theorem turning_step {olds full : List (List UInt8)} (ht : Turning olds full s.writer (stored h))
    (a : Act) : ∃ full', Turning olds full' (step process s a).writer (stored (h ++ notes s a)) := by
  have idle {more : List Note} (hmore : stored more = []) :
      ∃ full', Turning olds full' s.writer (stored (h ++ more)) := by
    refine ⟨full, ?_⟩
    rw [stored, List.flatMap_append, show more.flatMap Note.storedText = [] from hmore, List.append_nil]
    exact ht
  cases a with
  | record k r now => 
    simp only [Recorder.step, notes]
    split <;> exact idle rfl
  | send k =>
    simp only [Recorder.step, notes]
    split
    · split_ifs <;> exact idle rfl
    · exact idle rfl
  | count k =>
    simp only [Recorder.step, notes]
    split <;> exact idle rfl
  | flush done =>
    simp only [Recorder.step, notes]
    split_ifs <;> exact idle rfl
  | hangUp => exact idle rfl
  | work ending =>
    simp only [Recorder.step, notes]
    split
    next line queue _ =>
      obtain ⟨full', hroll⟩ := ht.roll
      refine ⟨full', ?_⟩
      have hline : utf8Bytes line ++ [10] ≠ [] := by simp
      have hstore := hroll.store ending hline
      have hadds : [Note.handled (.line line), .stored (s.writer.adds (utf8Bytes line) ending)].flatMap
          Note.storedText = s.writer.adds (utf8Bytes line) ending := by simp [Note.storedText]
      rw [stored, List.flatMap_append, hadds]
      exact hstore
    next => exact idle rfl
    next => exact idle rfl

/-- In every run the log on disk is the end of what an earlier process left and this one wrote, and what
it misses of the latter lies more than 6 MiB back. -/
theorem log_retained (session : String) (processId : UInt32) (callers : Nat)
    (files : Nat → List UInt8) (acts : List Act) :
    let process := Process.initialized session processId
    let log := (run (step process) (start callers files) acts).writer.log
    let text := stored (eventsOf (step process) notes (start callers files) acts)
    log <:+ files 1 ++ files 2 ++ files 3 ++ text ∧ (text <:+ log ∨ 3 * maxFileBytes < log.length) := by
  intro process log text
  have hstart : Turning [files 1, files 2, files 3] [] (start callers files).writer (stored []) :=
    ⟨rfl, inTurn_start 4 files (by decide), fun _ hpart => (List.not_mem_nil hpart).elim, rfl, Nat.zero_le _⟩
  obtain ⟨full, ht⟩ := run_history
    (fun (s : Recorder) h => ∃ full, Turning [files 1, files 2, files 3] full s.writer (stored h))
    (fun s h a ht => ht.elim fun _ ht => @turning_step process s h _ _ ht a) acts ⟨[], hstart⟩
  have hsuffix := ht.log_suffix
  simp only [List.flatten_cons, List.flatten_nil, List.append_nil] at hsuffix
  refine ⟨?_, ht.log_kept⟩
  rw [List.append_assoc (files 1)]
  exact hsuffix

end Recorder

section Legible

/-- The writing of a line ends half-way. -/
def Act.isTorn : Act → Bool
  | .work (.torn _) => true
  | _ => false

/-- A line of an event: it holds tokens only. -/
def EventLine (line : String) : Prop :=
  ∃ v, MetadataOnly v ∧ line = lineOf v ∧ (jsonLine v).length ≤ 1024

/-- A text of whole events, each on its line -/
def EventText (text : List UInt8) : Prop :=
  ∃ values : List Value, text = values.flatMap jsonLine ∧ ∀ v ∈ values, MetadataOnly v

theorem EventText.nil : EventText [] := ⟨[], rfl, fun _ hv => (List.not_mem_nil hv).elim⟩

theorem EventText.snoc {text : List UInt8} (h : EventText text) {v : Value} (hv : MetadataOnly v) :
    EventText (text ++ jsonLine v) := by
  obtain ⟨values, rfl, hvalues⟩ := h
  refine ⟨values ++ [v], by simp, ?_⟩
  rw [List.forall_mem_append, List.forall_mem_singleton]
  exact ⟨hvalues, hv⟩

/-- Every file is made of whole events, and of no more than it may. -/
structure Legible (w : Writer) : Prop where
  files : ∀ g, EventText (w.files g)
  counted : w.bytes = w.current.length
  sized : ∀ g, (w.files g).length ≤ maxFileBytes + 1024

variable {w : Writer}

theorem Legible.roll (h : Legible w) : Legible w.roll ∧ w.roll.bytes ≤ maxFileBytes := by
  rw [Writer.roll]
  split_ifs with hlarge
  · exact ⟨⟨h.files, rfl, h.sized⟩, Nat.zero_le _⟩
  · exact ⟨h, Nat.le_of_not_lt hlarge⟩

theorem Legible.current (h : Legible w) : EventText w.current := by
  rw [Writer.current]
  split_ifs
  · exact .nil
  · exact h.files _

theorem Legible.handle (h : Legible w) {line : String} (hline : EventLine line) {ending : WriteEnd}
    (hwhole : (Act.work ending).isTorn = false) : Legible (w.handle (utf8Bytes line) ending) := by
  obtain ⟨hroll, hbytes⟩ := h.roll
  cases ending with
  | noDirectory => exact hroll
  | notOpened => exact hroll
  | torn n => cases hwhole
  | written =>
    obtain ⟨v, hv, rfl, hlength⟩ := hline
    have hcurrent : (w.handle (utf8Bytes (lineOf v)) .written).current = w.roll.current ++ jsonLine v := by
      have hopen : w.roll.bytes + (utf8Bytes (lineOf v) ++ [10]).length ≠ 0 := by simp
      rw [Writer.current, Writer.handle, Writer.store, if_neg hopen]
      exact Function.update_self _ _ _
    have htext := hroll.current.snoc hv
    have hsize : (w.roll.current ++ jsonLine v).length ≤ maxFileBytes + 1024 := by
      rw [List.length_append, ← hroll.counted]
      exact Nat.add_le_add hbytes hlength
    refine ⟨?_, ?_, ?_⟩
    · refine Function.forall_update_iff _ (fun _ text => EventText text) |>.mpr ⟨htext, ?_⟩
      intro g _
      exact hroll.files g
    · rw [hcurrent, List.length_append, ← hroll.counted]
      rfl
    · refine Function.forall_update_iff _ (fun _ (text : List UInt8) => text.length ≤ maxFileBytes + 1024)
        |>.mpr ⟨hsize, ?_⟩
      intro g _
      exact hroll.sized g

end Legible

namespace Recorder

variable {process : Process} {s : Recorder}

/-- Every line on its way is one of an event, and so is every line on disk. -/
structure Readable (s : Recorder) : Prop where
  built : ∀ line, Caller.built line ∈ s.callers → EventLine line
  queued : ∀ line, Pending.line line ∈ s.queue → EventLine line
  written : Legible s.writer

theorem Readable.step (hr : s.Readable) (hsession : ∀ session ∈ process.sessionId, IsToken session)
    {a : Act} (hwhole : a.isTorn = false) : (step process s a).Readable := by
  have moved {k : Nat} {c : Caller} (hc : ∀ line, c = .built line → EventLine line) (line : String)
      (hmem : Caller.built line ∈ s.callers.set k c) : EventLine line := by
    rcases List.mem_or_eq_of_mem_set hmem with hold | hnew
    · exact hr.built line hold
    · exact hc line hnew.symm
  have pushed {p : Pending} (hp : ∀ line, p = .line line → EventLine line) (line : String)
      (hmem : Pending.line line ∈ s.queue ++ [p]) : EventLine line := by
    rcases List.mem_append.mp hmem with hold | hnew
    · exact hr.queued line hold
    · exact hp line (List.mem_singleton.mp hnew).symm
  cases a with
  | record k r now =>
    simp only [Recorder.step]
    split
    next hk =>
      refine ⟨moved ?_, hr.queued, hr.written⟩
      intro line hline
      rw [← Caller.built.inj hline]
      exact ⟨_, event_metadataOnly hsession, rfl, length_jsonLine_event hsession⟩
    next => exact hr
  | send k =>
    simp only [Recorder.step]
    split
    next line hk =>
      have hline := hr.built line (List.mem_of_getElem? hk)
      split_ifs with hroom
      · refine ⟨moved (by simp), pushed ?_, hr.written⟩
        intro other hother
        rw [← Pending.line.inj hother]
        exact hline
      · exact ⟨moved (by simp), hr.queued, hr.written⟩
    next => exact hr
  | count k =>
    simp only [Recorder.step]
    split
    next hk => exact ⟨moved (by simp), hr.queued, hr.written⟩
    next => exact hr
  | flush done =>
    simp only [Recorder.step]
    split_ifs with hroom
    · exact ⟨hr.built, pushed (by simp), hr.written⟩
    · exact hr
  | hangUp => exact ⟨hr.built, fun _ hmem => (List.not_mem_nil hmem).elim, hr.written⟩
  | work ending =>
    simp only [Recorder.step]
    split
    next line queue hqueue =>
      have hline := hr.queued line (hqueue ▸ List.mem_cons_self)
      refine ⟨hr.built, ?_, hr.written.handle hline hwhole⟩
      intro other hother
      exact hr.queued other (hqueue ▸ List.mem_cons_of_mem _ hother)
    next done queue hqueue =>
      refine ⟨hr.built, ?_, hr.written⟩
      intro other hother
      exact hr.queued other (hqueue ▸ List.mem_cons_of_mem _ hother)
    next => exact hr

/-- A call whose method is an address with a secret in it -/
def failedRequest : List Act :=
  [.record 0 ⟨"request.end", "https://host?key=secret", "trace-1", false, 12, some "BAD ERROR"⟩ 1000,
    .send 0, .work .written]

end Recorder

end AdbControl.Diagnostics
