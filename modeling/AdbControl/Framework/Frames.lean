import Mathlib

namespace AdbControl.Framework

/-- The four bytes of a length, most significant first. -/
def be32 (n : Nat) : List UInt8 :=
  [UInt8.ofNat (n / 2^24), UInt8.ofNat (n / 2^16), UInt8.ofNat (n / 2^8), UInt8.ofNat n]

def ofBe32 (bytes : List UInt8) : Nat := bytes.foldl (fun n b => n * 256 + b.toNat) 0

@[simp] theorem be32_length (n : Nat) : (be32 n).length = 4 := rfl

theorem ofBe32_be32 {n : Nat} (h : n < 2^32) : ofBe32 (be32 n) = n := by
  simp only [be32, ofBe32, List.foldl_cons, List.foldl_nil, UInt8.toNat_ofNat']
  omega

/-- A payload behind its length. -/
def frame (payload : List UInt8) : List UInt8 := be32 payload.length ++ payload

@[simp] theorem frame_length (payload : List UInt8) :
    (frame payload).length = payload.length + 4 := by
  simp [frame, add_comm]

/-- What a reader knows from the bytes that it has taken of one frame. -/
inductive Verdict
  | more
  | frame (payload : List UInt8)
  | badLength
  deriving DecidableEq

def verdict (limit : Nat) (taken : List UInt8) : Verdict :=
  if taken.length < 4 then .more
  else
    let length := ofBe32 (taken.take 4)
    if length = 0 ∨ limit < length then .badLength
    else if taken.length < 4 + length then .more
    else .frame (taken.drop 4)

/-- The lengths that a reader with this limit takes. -/
def Admissible (limit : Nat) (payload : List UInt8) : Prop :=
  0 < payload.length ∧ payload.length ≤ limit

instance (limit : Nat) (payload : List UInt8) : Decidable (Admissible limit payload) :=
  inferInstanceAs (Decidable (_ ∧ _))

section

variable {limit : Nat} {payload taken : List UInt8}

theorem verdict_length (h : verdict limit taken = .frame payload) :
    taken.length = payload.length + 4 := by
  simp only [verdict] at h
  split_ifs at h with hshort
  cases h
  simp only [List.length_drop]
  omega

/-- Past its length field, a beginning of a frame shows the length of the whole. -/
theorem verdict_of_begins (hlimit : limit < 2^32) (hp : Admissible limit payload)
    (h : taken <+: frame payload) :
    verdict limit taken =
      if taken.length < payload.length + 4 then .more else .frame payload := by
  obtain ⟨rest, hrest⟩ := h
  have hlength := congrArg List.length hrest
  simp only [List.length_append, frame_length] at hlength
  obtain ⟨hpos, hle⟩ := hp
  by_cases hshort : taken.length < 4
  · rw [verdict, if_pos hshort, if_pos (by omega)]
  have htake : taken.take 4 = be32 payload.length := by
    have h4 := congrArg (List.take 4) hrest
    rwa [List.take_append_of_le_length (by omega), frame,
      List.take_left' (be32_length _)] at h4
  rw [verdict, if_neg hshort]
  simp only [htake, ofBe32_be32 (lt_of_le_of_lt hle hlimit)]
  rw [if_neg (by omega)]
  by_cases hwhole : taken.length < payload.length + 4
  · rw [if_pos hwhole, if_pos (by omega)]
  · have hnil : rest = [] := List.eq_nil_of_length_eq_zero (by omega)
    rw [if_neg hwhole, if_neg (by omega)]
    rw [hnil, List.append_nil] at hrest
    rw [hrest, frame, List.drop_left' (be32_length _)]

end

/-- A reader of frames: the bytes taken of the current frame, what the frames so far have made of
its state, and why it has stopped. -/
structure Scan (σ ε : Type) where
  taken : List UInt8
  state : σ
  stop : Option ε

namespace Scan

variable {σ ε : Type} (limit : Nat) (bad : ε) (onFrame : σ → List UInt8 → σ × Option ε)

/-- One byte more; a complete frame is handled, and the next one begins. -/
def feed (s : Scan σ ε) (b : UInt8) : Scan σ ε :=
  match s.stop with
  | some _ => s
  | none =>
    match verdict limit (s.taken ++ [b]) with
    | .more => { s with taken := s.taken ++ [b] }
    | .badLength => { s with taken := s.taken ++ [b], stop := some bad }
    | .frame payload =>
      ⟨[], (onFrame s.state payload).1, (onFrame s.state payload).2⟩

/-- The reader stands inside or at the beginning of the frames still to come, of which `rest` has
not arrived. -/
structure Awaits (s : Scan σ ε) (rest : List UInt8) (todo : List (List UInt8)) : Prop where
  running : s.stop = none
  bytes : s.taken ++ rest = todo.flatMap frame
  inside : ∀ payload ∈ todo.head?, s.taken.length < payload.length + 4
  ended : todo = [] → s.taken = []

variable {limit bad onFrame} {s : Scan σ ε} {b : UInt8} {rest : List UInt8}
  {todo : List (List UInt8)}

theorem awaits_of_boundary (hstop : s.stop = none) (htaken : s.taken = [])
    (hrest : rest = todo.flatMap frame) : s.Awaits rest todo := by
  refine ⟨hstop, by rw [htaken, hrest, List.nil_append], ?_, fun _ => htaken⟩
  intro payload _
  rw [htaken]
  exact Nat.succ_pos _

/-- At the end of the bytes nothing is left to come. -/
theorem Awaits.complete (h : s.Awaits [] todo) : todo = [] := by
  cases todo with
  | nil => rfl
  | cons payload todo =>
    have hlength := congrArg List.length h.bytes
    have hinside := h.inside payload rfl
    simp at hlength
    omega

/-- Step rule: a byte continues the frame, or completes it and hands it over. -/
theorem Awaits.feed (hlimit : limit < 2^32) (hp : ∀ payload ∈ todo, Admissible limit payload)
    (h : s.Awaits (b :: rest) todo) :
    (s.feed limit bad onFrame b).Awaits rest todo ∧
      (s.feed limit bad onFrame b).state = s.state ∨
    ∃ payload todo', todo = payload :: todo' ∧ rest = todo'.flatMap frame ∧
      s.feed limit bad onFrame b =
        ⟨[], (onFrame s.state payload).1, (onFrame s.state payload).2⟩ := by
  cases todo with
  | nil =>
    have hbytes := h.bytes
    simp at hbytes
  | cons payload todo' =>
    have hinside := h.inside payload rfl
    have hbytes : (s.taken ++ [b]) ++ rest = frame payload ++ todo'.flatMap frame := by
      simpa using h.bytes
    have hbegins : s.taken ++ [b] <+: frame payload := by
      refine List.prefix_of_prefix_length_le ⟨rest, hbytes⟩ (List.prefix_append _ _) ?_
      simp
      omega
    have hverdict := verdict_of_begins hlimit (hp payload (by simp)) hbegins
    simp only [Scan.feed, h.running, hverdict]
    by_cases hwhole : (s.taken ++ [b]).length < payload.length + 4
    · rw [if_pos hwhole]
      refine Or.inl ⟨⟨rfl, by simpa using h.bytes, ?_, fun hnil => by cases hnil⟩, rfl⟩
      intro p hmem
      cases hmem
      exact hwhole
    · rw [if_neg hwhole]
      refine Or.inr ⟨payload, todo', rfl, ?_, rfl⟩
      have heq : s.taken ++ [b] = frame payload :=
        hbegins.eq_of_length_le (by simp at hwhole ⊢; omega)
      rw [heq] at hbytes
      exact List.append_cancel_left hbytes

/-- Run rule: with a handler that never stops the reader, all the frames are handled in order. -/
theorem Awaits.feedAll (hlimit : limit < 2^32) (go : ∀ state payload, (onFrame state payload).2 = none)
    (hp : ∀ payload ∈ todo, Admissible limit payload) (h : s.Awaits rest todo) :
    (rest.foldl (Scan.feed limit bad onFrame) s).state =
      todo.foldl (fun state payload => (onFrame state payload).1) s.state := by
  induction rest generalizing s todo with
  | nil => rw [h.complete, List.foldl_nil, List.foldl_nil]
  | cons b rest ih =>
    rw [List.foldl_cons]
    have hstep := @Awaits.feed σ ε limit bad onFrame s b rest todo hlimit hp h
    rcases hstep with
      ⟨hnext, hstate⟩ | ⟨payload, todo', htodo, hrest, hfed⟩
    · rw [ih hp hnext, hstate]
    · have hnext : (s.feed limit bad onFrame b).Awaits rest todo' := by
        rw [hfed]
        exact awaits_of_boundary (go s.state payload) rfl hrest
      rw [ih (fun p hmem => hp p (by simp [htodo, hmem])) hnext, hfed, htodo, List.foldl_cons]

/-- A handled frame is paid for with its own bytes, and nothing else is counted. -/
theorem feed_size (size : σ → Nat)
    (hframe : ∀ state payload, size (onFrame state payload).1 ≤ size state + payload.length + 4)
    (s : Scan σ ε) (b : UInt8) :
    size (s.feed limit bad onFrame b).state + (s.feed limit bad onFrame b).taken.length ≤
      size s.state + s.taken.length + 1 := by
  simp only [feed]
  cases s.stop with
  | some e => simp
  | none =>
    cases hv : verdict limit (s.taken ++ [b]) with
    | more | badLength =>
      simp
      omega
    | frame payload =>
      have hlength := verdict_length hv
      have hsize := hframe s.state payload
      simp at hlength ⊢
      omega

end Scan

/-- A sender that stops at the first item it refuses sends all that it does not refuse exactly when
nothing it takes stands behind something it refuses. -/
theorem takeWhile_eq_filter_iff {α : Type*} (p : α → Bool) (l : List α) :
    l.takeWhile p = l.filter p ↔ l.Pairwise (fun a b => p b = true → p a = true) := by
  induction l with
  | nil => simp
  | cons a l ih =>
    rw [List.pairwise_cons]
    cases ha : p a with
    | true =>
      rw [List.takeWhile_cons_of_pos ha, List.filter_cons_of_pos ha, List.cons_inj_right, ih]
      simp
    | false =>
      have hrest : (∀ b ∈ l, p b = true → false = true) → l.Pairwise
          (fun a b => p b = true → p a = true) := by
        intro h
        refine List.pairwise_of_forall_mem_list ?_
        intro b _ c hc hpc
        exact absurd (h c hc hpc) Bool.false_ne_true
      rw [List.takeWhile_cons_of_neg (by simp [ha]), List.filter_cons_of_neg (by simp [ha]),
        eq_comm, List.filter_eq_nil_iff]
      constructor
      · intro h
        have hnone : ∀ b ∈ l, p b = true → false = true := fun b hb hpb => absurd hpb (h b hb)
        exact ⟨hnone, hrest hnone⟩
      · intro h b hb hpb
        exact absurd (h.1 b hb hpb) Bool.false_ne_true

end AdbControl.Framework
