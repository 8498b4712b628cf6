import Mathlib

namespace AdbControl.Framework

/-- A buffered scanner of lines over a reader that stays open: what it has read and not yet returned
is `held`, from `start` on in a buffer of `size`, and the one error it can have is for good. -/
structure Scanner (α : Type*) where
  held : List α
  start : Nat
  size : Nat
  tooLong : Bool
  deriving DecidableEq, Repr

namespace Scanner

variable {α : Type*}

/-- What the scanner comes to with what it holds: a line, its end, or a read of at most `room`. -/
inductive Poll (α : Type*)
  | token (line : List α)
  | stop
  | wants (room : Nat)
  deriving DecidableEq, Repr

def new (size : Nat) : Scanner α := ⟨[], 0, size, false⟩

/-- What a read has delivered. -/
def feed (s : Scanner α) (data : List α) : Scanner α := { s with held := s.held ++ data }

/-- What is held moves to the beginning of the buffer, where there is lots of empty space before it
or none after it. -/
def shift (s : Scanner α) : Scanner α :=
  if 0 < s.start ∧ (s.start + s.held.length = s.size ∨ s.size / 2 < s.start) then { s with start := 0 }
  else s

def startBufSize : Nat := 4096

/-- The size of the buffer after a full one. -/
def grownSize (maxTokenSize size : Nat) : Nat :=
  min (if size * 2 = 0 then startBufSize else size * 2) maxTokenSize

variable (maxTokenSize : Nat)

/-- The buffer is made ready for a read, unless it is full and as large as it may become. -/
def fill (s : Scanner α) : Poll α × Scanner α :=
  if s.shift.start + s.held.length = s.size then
    if maxTokenSize ≤ s.size then (.stop, { s.shift with tooLong := true })
    else
      let size := grownSize maxTokenSize s.size
      (.wants (size - s.held.length), { s.shift with start := 0, size := size })
  else (.wants (s.size - (s.shift.start + s.held.length)), s.shift)

/-- A scanner that has met no error, with what it holds inside its buffer. -/
structure Live (s : Scanner α) : Prop where
  tooLong : s.tooLong = false
  fits : s.start + s.held.length ≤ s.size
  size : s.size ≤ maxTokenSize

section Fill

variable {maxTokenSize} {s : Scanner α}

theorem live_new {size : Nat} (h : size ≤ maxTokenSize) : (new size : Scanner α).Live maxTokenSize :=
  ⟨rfl, Nat.zero_le _, h⟩

theorem Live.shift (h : s.Live maxTokenSize) : s.shift.Live maxTokenSize := by
  unfold Scanner.shift
  split_ifs
  · refine ⟨h.tooLong, ?_, h.size⟩
    have fits := h.fits
    show 0 + s.held.length ≤ s.size
    omega
  · exact h

theorem shift_held : s.shift.held = s.held := by
  unfold shift
  split_ifs
  · rfl
  · rfl

theorem shift_size : s.shift.size = s.size := by
  unfold shift
  split_ifs
  · rfl
  · rfl

/-- A buffer that is full after the shift holds nothing else. -/
theorem shift_full (h : s.shift.start + s.held.length = s.size) : s.shift.start = 0 := by
  unfold shift at h ⊢
  split_ifs at h ⊢ with hshift
  · rfl
  · by_contra hne
    exact hshift ⟨Nat.pos_of_ne_zero hne, Or.inl h⟩

theorem lt_grownSize {size : Nat} (h : size < maxTokenSize) : size < grownSize maxTokenSize size := by
  unfold grownSize startBufSize
  split_ifs
  · omega
  · omega

/-- Where there is room for more, the scanner reads. -/
theorem fill_wants (h : s.Live maxTokenSize) (hroom : s.held.length < maxTokenSize) :
    ∃ room s', s.fill maxTokenSize = (.wants room, s') ∧ 0 < room ∧ s'.held = s.held ∧
      ∀ data : List α, data.length ≤ room → (s'.feed data).Live maxTokenSize := by
  have live := h.shift
  have fits := live.fits
  rw [shift_held, shift_size] at fits
  unfold fill
  split_ifs with hfull hmax
  · have hzero := shift_full hfull
    omega
  · have hgrown := lt_grownSize (Nat.lt_of_not_le hmax)
    have hzero := shift_full hfull
    refine ⟨_, _, rfl, by omega, shift_held, ?_⟩
    intro data hdata
    refine ⟨live.tooLong, ?_, min_le_right _ _⟩
    show 0 + (s.shift.held ++ data).length ≤ grownSize maxTokenSize s.size
    rw [shift_held, List.length_append]
    omega
  · refine ⟨_, _, rfl, by omega, shift_held, ?_⟩
    intro data hdata
    refine ⟨live.tooLong, ?_, live.size⟩
    show s.shift.start + (s.shift.held ++ data).length ≤ s.shift.size
    rw [shift_held, shift_size, List.length_append]
    omega

/-- A buffer of the greatest size that is full is the error. -/
theorem fill_full (h : s.Live maxTokenSize) (hfull : s.held.length = maxTokenSize) :
    s.fill maxTokenSize = (.stop, { s with tooLong := true }) := by
  have fits := h.fits
  have hsize := h.size
  have stays : s.shift = s := by
    unfold shift
    rw [if_neg (by omega)]
  unfold fill
  rw [stays, if_pos (by omega), if_pos (by omega)]

end Fill

variable [DecidableEq α] (newline carriage : α)

/-- A line without the carriage return at its end. -/
def dropCr (line : List α) : List α :=
  if line.getLast? = some carriage then line.dropLast else line

/-- The split function of lines: how far to advance, and the line, if there is one. -/
def scanLines (atEnd : Bool) (data : List α) : Nat × Option (List α) :=
  if atEnd ∧ data = [] then (0, none)
  else if newline ∈ data then
    (data.idxOf newline + 1, some (dropCr carriage (data.take (data.idxOf newline))))
  else if atEnd then (data.length, some (dropCr carriage data))
  else (0, none)

/-- One round of the loop of a scan, up to its read. -/
def poll (s : Scanner α) : Poll α × Scanner α :=
  let split := if s.held ≠ [] ∨ s.tooLong then scanLines newline carriage s.tooLong s.held else (0, none)
  match split.2 with
  | some line =>
    (.token line, { s with held := s.held.drop split.1, start := s.start + split.1 })
  | none => if s.tooLong then (.stop, { s with held := [], start := 0 }) else s.fill maxTokenSize

variable {newline carriage maxTokenSize} {s : Scanner α}

theorem scanLines_line {line rest : List α} (hline : newline ∉ line) (atEnd : Bool) :
    scanLines newline carriage atEnd (line ++ newline :: rest) =
      (line.length + 1, some (dropCr carriage line)) := by
  have index : (line ++ newline :: rest).idxOf newline = line.length := by
    rw [List.idxOf_append_of_notMem hline, List.idxOf_cons_self, Nat.add_zero]
  unfold scanLines
  rw [if_neg (by simp), if_pos (by simp), index, List.take_left]

/-- A line that is held is returned. -/
theorem poll_line {line rest : List α} (hheld : s.held = line ++ newline :: rest)
    (hline : newline ∉ line) : s.poll maxTokenSize newline carriage =
      (.token (dropCr carriage line), { s with held := rest, start := s.start + (line.length + 1) }) := by
  have hne : s.held ≠ [] ∨ s.tooLong = true := by
    refine Or.inl ?_
    rw [hheld]
    simp
  unfold poll
  rw [if_pos hne, hheld, scanLines_line hline]
  simp

/-- While no line is held, the buffer is filled. -/
theorem poll_fill (h : s.Live maxTokenSize) (hheld : newline ∉ s.held) :
    s.poll maxTokenSize newline carriage = s.fill maxTokenSize := by
  have split : (if s.held ≠ [] ∨ s.tooLong then scanLines newline carriage s.tooLong s.held
      else (0, none)) = (0, none) := by
    simp [scanLines, h.tooLong, hheld]
  unfold poll
  simp only [split]
  rw [h.tooLong, if_neg (by decide)]

/-- After the error what is held is returned as a line that it is not. -/
theorem poll_fragment (h : s.tooLong = true) (hne : s.held ≠ []) (hheld : newline ∉ s.held) :
    s.poll maxTokenSize newline carriage = (.token (dropCr carriage s.held),
      { s with held := [], start := s.start + s.held.length }) := by
  unfold poll
  simp [h, hne, scanLines, hheld]

/-- What one round comes to, when what is held and what is still in the pipe begin with a line: the
line, where it is held; a read, where it is not; or the error, where it cannot be. -/
theorem poll_stream (h : s.Live maxTokenSize) {pipe line rest : List α}
    (hstream : s.held ++ pipe = line ++ newline :: rest) (hline : newline ∉ line) :
    (∃ s', s.poll maxTokenSize newline carriage = (.token (dropCr carriage line), s') ∧
      line.length < maxTokenSize ∧ s'.Live maxTokenSize ∧ s'.held ++ pipe = rest) ∨
    (∃ room s', s.poll maxTokenSize newline carriage = (.wants room, s') ∧
      0 < room ∧ s'.held = s.held ∧ pipe ≠ [] ∧
      ∀ data : List α, data.length ≤ room → (s'.feed data).Live maxTokenSize) ∨
    (∃ s', s.poll maxTokenSize newline carriage = (.stop, s') ∧
      maxTokenSize ≤ line.length ∧ s'.tooLong = true ∧ s'.held = line.take maxTokenSize ∧
      s'.held ++ pipe = line ++ newline :: rest) := by
  have fits := h.fits
  have hsize := h.size
  by_cases hheld : newline ∈ s.held
  · -- the line is held, and a part of what comes after it
    have hle : line.length + 1 ≤ s.held.length := by
      by_contra hlt
      have hpre : s.held <+: line := by
        have hp : s.held <+: line ++ newline :: rest := ⟨pipe, hstream⟩
        exact List.prefix_of_prefix_length_le hp (List.prefix_append _ _) (by omega)
      exact hline (hpre.subset hheld)
    have hpre : line ++ [newline] <+: s.held := by
      refine List.prefix_of_prefix_length_le ?_ ⟨pipe, hstream⟩ (by simpa using hle)
      exact ⟨rest, by simp⟩
    obtain ⟨more, hmore⟩ := hpre
    have hsplit : s.held = line ++ newline :: more := by simp [← hmore]
    refine Or.inl ⟨_, poll_line hsplit hline, by omega, ⟨h.tooLong, ?_, h.size⟩, ?_⟩
    · show s.start + (line.length + 1) + more.length ≤ s.size
      rw [hsplit] at fits
      simp only [List.length_append, List.length_cons] at fits
      omega
    · show more ++ pipe = rest
      rw [hsplit] at hstream
      simpa using hstream
  · have hpre : s.held <+: line := by
      have hp : s.held <+: line ++ newline :: rest := ⟨pipe, hstream⟩
      refine List.prefix_of_prefix_length_le hp (List.prefix_append _ _) ?_
      by_contra hlt
      have hp' : line ++ [newline] <+: s.held := by
        refine List.prefix_of_prefix_length_le ⟨rest, by simp⟩ hp ?_
        simp only [List.length_append, List.length_singleton]
        omega
      exact hheld (hp'.subset (by simp))
    by_cases hroom : s.held.length < maxTokenSize
    · obtain ⟨room, s', hfill, hpos, hsame, hlive⟩ := fill_wants h hroom
      refine Or.inr (Or.inl ⟨room, s', (poll_fill h hheld).trans hfill, hpos, hsame, ?_, hlive⟩)
      intro hempty
      rw [hempty, List.append_nil] at hstream
      rw [hstream] at hheld
      exact hheld (by simp)
    · have hfull : s.held.length = maxTokenSize := by omega
      have hstop : s.poll maxTokenSize newline carriage = (.stop, { s with tooLong := true }) :=
        (poll_fill h hheld).trans (fill_full h hfull)
      refine Or.inr (Or.inr ⟨_, hstop, ?_, rfl, ?_, hstream⟩)
      · rw [← hfull]
        exact hpre.length_le
      · rw [← hfull]
        exact List.prefix_iff_eq_take.mp hpre

end Scanner

end AdbControl.Framework
