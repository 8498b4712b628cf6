import AdbControl.Framework.Text

namespace AdbControl.Framework

/-- Every occurrence of `old` replaced, left to right; `skip` characters of one are still to be
left out. -/
def replaceFrom (old new : List Char) : Nat → List Char → List Char
  | _, [] => []
  | skip + 1, _ :: cs => replaceFrom old new skip cs
  | 0, c :: cs =>
    if old.isPrefixOf (c :: cs) then new ++ replaceFrom old new (old.length - 1) cs
    else c :: replaceFrom old new 0 cs

/-- Go's `strings.ReplaceAll`, for a text that is not empty. -/
def replaceAll (old new s : List Char) : List Char := replaceFrom old new 0 s

/-- A single character replaced. -/
theorem replaceAll_singleton (a : Char) (new s : List Char) :
    replaceAll [a] new s = s.flatMap (fun c => if c = a then new else [c]) := by
  induction s with
  | nil => rfl
  | cons c s ih =>
    rw [List.flatMap_cons, ← ih]
    show (if [a].isPrefixOf (c :: s) then new ++ replaceAll [a] new s
      else c :: replaceAll [a] new s) = _
    by_cases hc : c = a
    · rw [if_pos (by simp [hc]), if_pos hc]
    · rw [if_neg (by simpa using Ne.symm hc), if_neg hc]
      rfl

section Replace

variable {old new : List Char}

theorem replaceFrom_drop (old new : List Char) (skip : Nat) (s : List Char) :
    replaceFrom old new skip s = replaceAll old new (s.drop skip) := by
  induction s generalizing skip with
  | nil => cases skip <;> rfl
  | cons c s ih =>
    cases skip with
    | zero => rfl
    | succ skip => exact ih skip

theorem replaceAll_found (hold : old ≠ []) (s : List Char) :
    replaceAll old new (old ++ s) = new ++ replaceAll old new s := by
  obtain ⟨c, rest, rfl⟩ := List.exists_cons_of_ne_nil hold
  have here : (c :: rest).isPrefixOf (c :: (rest ++ s)) = true :=
    List.isPrefixOf_iff_prefix.mpr (List.prefix_append (c :: rest) s)
  rw [List.cons_append, replaceAll, replaceFrom, if_pos here, replaceFrom_drop]
  simp

theorem replaceAll_cons {c : Char} {s : List Char} (h : ¬old <+: c :: s) :
    replaceAll old new (c :: s) = c :: replaceAll old new s := by
  rw [replaceAll, replaceFrom, if_neg (by simpa [List.isPrefixOf_iff_prefix] using h)]
  rfl

/-- A text is read from one occurrence to the next. -/
theorem replaceAll_induction {motive : List Char → Prop} (hold : old ≠ []) (nil : motive [])
    (found : ∀ s, motive s → motive (old ++ s))
    (cons : ∀ c s, ¬old <+: c :: s → motive s → motive (c :: s)) (s : List Char) : motive s := by
  induction hn : s.length using Nat.strong_induction_on generalizing s with
  | _ n ih =>
    cases s with
    | nil => exact nil
    | cons c s =>
      by_cases hfound : old <+: c :: s
      · obtain ⟨rest, hrest⟩ := hfound
        have shorter : rest.length < n := by
          have hlength := congrArg List.length hrest
          have some := List.length_pos_iff.mpr hold
          rw [List.length_append, hn] at hlength
          omega
        rw [← hrest]
        exact found rest (ih rest.length shorter rest rfl)
      · exact cons c s hfound (ih s.length (by rw [← hn]; simp) s rfl)

theorem length_replaceAll_le (hold : old ≠ []) (h : new.length ≤ old.length) (s : List Char) :
    (replaceAll old new s).length ≤ s.length := by
  induction s using replaceAll_induction hold with
  | nil => exact Nat.le_refl 0
  | found s ih =>
    rw [replaceAll_found hold, List.length_append, List.length_append]
    omega
  | cons c s hs ih =>
    rw [replaceAll_cons hs, List.length_cons, List.length_cons]
    omega

/-- Where what is put in is shorter, a text stays as it is only if there is nothing to replace. -/
theorem replaceAll_eq_self_iff (h : new.length < old.length) {s : List Char} :
    replaceAll old new s = s ↔ ¬old <:+: s := by
  have hold : old ≠ [] := by
    rintro rfl
    simp at h
  induction s using replaceAll_induction hold with
  | nil =>
    rw [List.infix_nil]
    exact ⟨fun _ => hold, fun _ => rfl⟩
  | found s ih =>
    rw [replaceAll_found hold]
    constructor
    · intro hsame
      have hlength := congrArg List.length hsame
      have shorter := length_replaceAll_le hold h.le s
      rw [List.length_append, List.length_append] at hlength
      omega
    · intro hinfix
      exact absurd (List.prefix_append old s).isInfix hinfix
  | cons c s hs ih =>
    have others : replaceAll old new s = s ↔ ¬old <:+: s := ih
    rw [replaceAll_cons hs, List.infix_cons_iff, not_or, List.cons.injEq, others]
    exact ⟨fun hsame => ⟨hs, hsame.2⟩, fun hinfix => ⟨rfl, hinfix.2⟩⟩

end Replace

section Words

variable {s word : List Char}

theorem splitWhitespace_snoc {c : Char} (hc : isWhitespace c = true) :
    splitWhitespace (s ++ [c]) = splitWhitespace s := by
  have pieces : (s ++ [c]).splitOnP isWhitespace = s.splitOnP isWhitespace ++ [[]] :=
    List.splitOnP_append_cons s [] hc
  rw [splitWhitespace, pieces, List.filter_append]
  simp [splitWhitespace]

theorem not_of_mem_splitOnP {p : Char → Bool} (h : word ∈ s.splitOnP p) :
    ∀ c ∈ word, p c = false := by
  induction s generalizing word with
  | nil =>
    rw [List.splitOnP_nil, List.mem_singleton] at h
    simp [h]
  | cons d s ih =>
    rw [List.splitOnP_cons_eq_if_modifyHead] at h
    split_ifs at h with hd
    · rcases List.mem_cons.mp h with hnil | hrest
      · simp [hnil]
      · exact ih hrest
    · obtain ⟨first, rest, hpieces⟩ := List.exists_cons_of_ne_nil (List.splitOnP_ne_nil p s)
      rw [hpieces] at h ih
      rcases List.mem_cons.mp h with hfirst | hrest
      · intro c hc
        rw [hfirst] at hc
        rcases List.mem_cons.mp hc with rfl | hc
        · simpa using hd
        · exact ih List.mem_cons_self c hc
      · exact ih (List.mem_cons_of_mem first hrest)

/-- A word is not empty and has no white space in it. -/
theorem word_spec (h : word ∈ splitWhitespace s) :
    word ≠ [] ∧ ∀ c ∈ word, isWhitespace c = false := by
  obtain ⟨hmem, hne⟩ := List.mem_filter.mp h
  exact ⟨by simpa using hne, not_of_mem_splitOnP hmem⟩

/-- Words are read back from their text with single spaces between them. -/
theorem unwords_injective {ws vs : List (List Char)} (hws : ∀ w ∈ ws, ' ' ∉ w)
    (hvs : ∀ w ∈ vs, ' ' ∉ w) (hw : ws ≠ []) (hv : vs ≠ [])
    (h : [' '].intercalate ws = [' '].intercalate vs) : ws = vs := by
  rw [← List.splitOn_intercalate ' ' hws hw, h, List.splitOn_intercalate ' ' hvs hv]

end Words

section Lines

variable {β : Type*}

/-- Dropping a carriage return at the end of a line leaves its words. -/
theorem splitWhitespace_dropCr (line : List Char) :
    splitWhitespace ((line.dropSuffix? ['\r']).getD line) = splitWhitespace line := by
  cases h : line.dropSuffix? ['\r'] with
  | none => rfl
  | some rest =>
    obtain ⟨tail, hline, htail⟩ := List.dropSuffix?_eq_some_iff.mp h
    rw [beq_iff_eq] at htail
    rw [hline, htail]
    exact (splitWhitespace_snoc (by decide)).symm

/-- What is read of the words of the lines is read of the words of the pieces between line feeds,
when nothing is read of an empty line. -/
theorem filterMap_lines (read : List (List Char) → Option β) (hread : read [] = none)
    (s : List Char) :
    (lines s).filterMap (fun line => read (splitWhitespace line)) =
      (s.splitOn '\n').filterMap (fun line => read (splitWhitespace line)) := by
  have hlast := List.dropLast_append_getLast? (l := s.splitOn '\n')
  obtain ⟨last, hsome⟩ : ∃ last, (s.splitOn '\n').getLast? = some last :=
    ⟨_, List.getLast?_eq_some_getLast (List.splitOn_ne_nil '\n' s)⟩
  have parts : (s.splitOn '\n').dropLast ++ [last] = s.splitOn '\n' := hlast last hsome
  conv_rhs => rw [← parts]
  rw [lines, List.filterMap_append, List.filterMap_append, List.filterMap_map, hsome]
  congr 1
  · apply List.filterMap_congr
    intro line _
    rw [Function.comp_apply, splitWhitespace_dropCr]
  · cases last with
    | nil => simp [splitWhitespace, hread]
    | cons c cs => rfl

/-- Two pieces are the same but for a carriage return at the end of the first. -/
def SameButCr (line line' : List Char) : Prop := line = line' ∨ line = line' ++ ['\r']

theorem SameButCr.words {line line' : List Char} (h : SameButCr line line') :
    splitWhitespace line = splitWhitespace line' := by
  rcases h with rfl | rfl
  · rfl
  · exact splitWhitespace_snoc (by decide)

theorem SameButCr.cons {line line' : List Char} (h : SameButCr line line') (c : Char) :
    SameButCr (c :: line) (c :: line') := by
  rcases h with rfl | rfl
  · exact Or.inl rfl
  · exact Or.inr rfl

theorem splitOn_replaceCrlf (s : List Char) :
    List.Forall₂ SameButCr (s.splitOn '\n') ((replaceAll ['\r', '\n'] ['\n'] s).splitOn '\n') := by
  induction hn : s.length using Nat.strong_induction_on generalizing s with
  | _ n ih =>
    cases s with
    | nil => exact List.Forall₂.cons (Or.inl rfl) List.Forall₂.nil
    | cons c rest =>
      by_cases hcrlf : ['\r', '\n'].isPrefixOf (c :: rest)
      · obtain ⟨tail, htail⟩ := List.isPrefixOf_iff_prefix.mp hcrlf
        have before := ih tail.length (by rw [← hn, ← htail]; simp) tail rfl
        rw [← htail]
        have replaced : replaceAll ['\r', '\n'] ['\n'] (['\r', '\n'] ++ tail) =
            '\n' :: replaceAll ['\r', '\n'] ['\n'] tail := rfl
        rw [replaced]
        simp only [List.cons_append, List.nil_append, List.splitOn_cons_eq_if_modifyHead]
        exact List.Forall₂.cons (Or.inr rfl) before
      · have before := ih rest.length (by rw [← hn]; simp) rest rfl
        have replaced : replaceAll ['\r', '\n'] ['\n'] (c :: rest) =
            c :: replaceAll ['\r', '\n'] ['\n'] rest := by
          rw [replaceAll, replaceFrom, if_neg hcrlf]
          rfl
        rw [replaced, List.splitOn_cons_eq_if_modifyHead, List.splitOn_cons_eq_if_modifyHead]
        split_ifs with hlf
        · exact List.Forall₂.cons (Or.inl rfl) before
        · cases hpieces : rest.splitOn '\n' with
          | nil => exact absurd hpieces (List.splitOn_ne_nil _ _)
          | cons piece pieces =>
            rw [hpieces] at before
            obtain ⟨piece', pieces', hpiece, hrest, hreplaced⟩ :=
              List.forall₂_cons_left_iff.mp before
            rw [hreplaced]
            exact List.Forall₂.cons (hpiece.cons c) hrest

/-- Replacing the line ends leaves the words of every line. -/
theorem words_replaceCrlf (s : List Char) :
    ((replaceAll ['\r', '\n'] ['\n'] s).splitOn '\n').map splitWhitespace =
      (s.splitOn '\n').map splitWhitespace := by
  rw [eq_comm, ← List.forall₂_eq_eq_eq, List.forall₂_map_left_iff, List.forall₂_map_right_iff]
  exact (splitOn_replaceCrlf s).imp (fun _ _ h => h.words)

/-- Printed lines are the pieces between line feeds, with nothing behind the last. -/
theorem splitOn_printed {ls : List (List Char)} (h : ∀ l ∈ ls, '\n' ∉ l) :
    (ls.flatMap (fun l => l ++ ['\n'])).splitOn '\n' = ls ++ [[]] := by
  induction ls with
  | nil => rfl
  | cons l ls ih =>
    obtain ⟨hl, hls⟩ := List.forall_mem_cons.mp h
    rw [List.flatMap_cons, List.append_assoc, List.singleton_append,
      List.splitOn_append_cons_self_of_not_mem hl, ih hls, List.cons_append]

theorem SameButCr.eq_of_ends {line line' : List Char} (h : SameButCr line line')
    (hends : line.getLast? ≠ some '\r') : line = line' := by
  rcases h with rfl | rfl
  · rfl
  · exact absurd List.getLast?_concat hends

/-- Replacing the line ends leaves printed lines that do not end in a carriage return. -/
theorem splitOn_replaceCrlf_printed {ls : List (List Char)} (h : ∀ l ∈ ls, '\n' ∉ l)
    (hends : ∀ l ∈ ls, l.getLast? ≠ some '\r') :
    (replaceAll ['\r', '\n'] ['\n'] (ls.flatMap (fun l => l ++ ['\n']))).splitOn '\n' =
      ls ++ [[]] := by
  have same := splitOn_replaceCrlf (ls.flatMap (fun l => l ++ ['\n']))
  rw [splitOn_printed h] at same
  have ends : ∀ l ∈ ls ++ [[]], l.getLast? ≠ some '\r' := by
    intro l hl
    rcases List.mem_append.mp hl with hl | hl
    · exact hends l hl
    · simp [List.mem_singleton.mp hl]
  rw [eq_comm, ← List.forall₂_eq_eq_eq]
  exact ((List.forall₂_and_left _ _).mpr ⟨ends, same⟩).imp fun _ _ h => h.2.eq_of_ends h.1

/-- What is read is related to what it is read of, one by one, exactly when each is read so. -/
theorem forall₂_filterMap_iff {α γ : Type*} {f : α → Option β} {g : α → γ} {R : β → γ → Prop}
    {l : List α} :
    List.Forall₂ R (l.filterMap f) (l.map g) ↔ ∀ a ∈ l, ∃ b, f a = some b ∧ R b (g a) := by
  induction l with
  | nil => simp
  | cons a l ih =>
    rw [List.filterMap_cons, List.map_cons, List.forall_mem_cons, ← ih]
    cases ha : f a with
    | none =>
      -- then there are too few results
      have few := List.length_filterMap_le f l
      constructor
      · intro h
        have lengths : (l.filterMap f).length = (g a :: l.map g).length := h.length_eq
        rw [List.length_cons, List.length_map] at lengths
        omega
      · rintro ⟨⟨b, hb, -⟩, -⟩
        cases hb
    | some b => simp

theorem filterMap_eq_map_iff {α : Type*} {f : α → Option β} {g : α → β} {l : List α} :
    l.filterMap f = l.map g ↔ ∀ a ∈ l, f a = some (g a) := by
  rw [← List.forall₂_eq_eq_eq, forall₂_filterMap_iff]
  simp

end Lines

section Stops

variable {p : Char → Bool} {c : Char}

/-- A character that is not wanted ends what is taken before it. -/
theorem takeWhile_stop (h : p c = false) (xs ys : List Char) :
    (xs ++ c :: ys).takeWhile p = xs.takeWhile p := by
  induction xs with
  | nil => rw [List.nil_append, List.takeWhile_cons_of_neg (by simp [h]), List.takeWhile_nil]
  | cons x xs ih =>
    rw [List.cons_append, List.takeWhile_cons, List.takeWhile_cons, ih]

theorem dropWhile_stop (h : p c = false) (xs ys : List Char) :
    (xs ++ c :: ys).dropWhile p = xs.dropWhile p ++ c :: ys := by
  induction xs with
  | nil => rw [List.nil_append, List.dropWhile_cons_of_neg (by simp [h]), List.dropWhile_nil,
      List.nil_append]
  | cons x xs ih =>
    rw [List.cons_append, List.dropWhile_cons, List.dropWhile_cons, ih]
    split_ifs
    · rfl
    · rfl

theorem dropPrefix?_stop {start : List Char} (h : c ∉ start) (xs ys : List Char) :
    (xs ++ c :: ys).dropPrefix? start = (xs.dropPrefix? start).map (· ++ c :: ys) := by
  induction start generalizing xs with
  | nil => simp
  | cons d start ih =>
    rw [List.mem_cons, not_or] at h
    cases xs with
    | nil => simp [List.dropPrefix?, h.1]
    | cons x xs =>
      rw [List.cons_append, List.dropPrefix?, List.dropPrefix?]
      split_ifs
      · exact ih h.2 xs
      · rfl

theorem dropPrefix?_self (start rest : List Char) :
    (start ++ rest).dropPrefix? start = some rest :=
  List.dropPrefix?_append_of_beq _ (beq_self_eq_true start)

end Stops

section Trim

/-- A text that begins and ends with something else than white space stays as it is. -/
theorem trim_eq_self {s : List Char} (hfirst : ∀ c ∈ s.head?, isWhitespace c = false)
    (hlast : ∀ c ∈ s.getLast?, isWhitespace c = false) : trim s = s := by
  have first : s.dropWhile isWhitespace = s := by
    cases s with
    | nil => rfl
    | cons c s =>
      rw [List.dropWhile_cons_of_neg]
      simp [hfirst c rfl]
  rw [trim, first, List.rdropWhile_eq_self_iff]
  intro hne
  simp [hlast _ (List.getLast?_eq_some_getLast hne)]

theorem length_trim_le (s : List Char) : (trim s).length ≤ s.length :=
  (List.rdropWhile_prefix _ _).length_le.trans (List.dropWhile_suffix _).length_le

end Trim

section Rfind

variable {pat s : List Char}

theorem rfind_occurs {i : Nat} (h : rfind pat s = some i) : pat <+: s.drop i := by
  induction s generalizing i with
  | nil =>
    simp only [rfind] at h
    split_ifs at h with hpat
    rw [List.isEmpty_iff] at hpat
    simp [hpat]
  | cons c cs ih =>
    simp only [rfind] at h
    split at h
    · next j hj =>
      cases h
      exact ih hj
    · split_ifs at h with hpre
      cases h
      exact List.isPrefixOf_iff_prefix.mp hpre

theorem rfind_isSome_iff : (∃ i, rfind pat s = some i) ↔ pat <:+: s := by
  constructor
  · intro h
    obtain ⟨i, hi⟩ := h
    exact (rfind_occurs hi).isInfix.trans (List.drop_suffix i s).isInfix
  · intro h
    induction s with
    | nil =>
      rw [List.infix_nil] at h
      exact ⟨0, by simp [rfind, h]⟩
    | cons c cs ih =>
      simp only [rfind]
      rcases List.infix_cons_iff.mp h with hpre | hrest
      · cases hfound : rfind pat cs with
        | some i => exact ⟨i + 1, rfl⟩
        | none => exact ⟨0, if_pos (List.isPrefixOf_iff_prefix.mpr hpre)⟩
      · obtain ⟨i, hi⟩ := ih hrest
        rw [hi]
        exact ⟨i + 1, rfl⟩

/-- A pattern is not found in a text without its first character. -/
theorem rfind_eq_none {c : Char} (hc : c ∉ s) : rfind (c :: pat) s = none := by
  induction s with
  | nil => rfl
  | cons d s ih =>
    rw [List.mem_cons, not_or] at hc
    simp [rfind, ih hc.2, hc.1]

/-- The last occurrence is found where no later one can begin. -/
theorem rfind_append {c : Char} {tail : List Char} (base : List Char) (hpat : c ∉ pat)
    (htail : c ∉ tail) : rfind (c :: pat) (base ++ c :: (pat ++ tail)) = some base.length := by
  induction base with
  | nil =>
    have later : rfind (c :: pat) (pat ++ tail) = none := rfind_eq_none (by simp [hpat, htail])
    have here : (c :: pat).isPrefixOf (c :: (pat ++ tail)) = true :=
      List.isPrefixOf_iff_prefix.mpr ⟨tail, rfl⟩
    simp only [List.nil_append, rfind, later, here]
    rfl
  | cons d base ih =>
    simp only [List.cons_append, rfind, ih]
    rfl

end Rfind

end AdbControl.Framework
