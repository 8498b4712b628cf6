import AdbControl.Framework.Lines

namespace AdbControl.Framework

/-- `strings.Cut`. -/
def cutAt (pat : List Char) : List Char → Option (List Char × List Char)
  | [] => if pat = [] then some ([], []) else none
  | c :: cs =>
    if pat.isPrefixOf (c :: cs) then some ([], (c :: cs).drop pat.length)
    else (cutAt pat cs).map fun found => (c :: found.1, found.2)

/-- `strings.Join(words, " ")`. -/
def unwords (words : List (List Char)) : List Char := [' '].intercalate words

/-- Between its blanks, and before and after them, a text has something, with no other white space. -/
def Tidy (text : List Char) : Prop :=
  ∀ word ∈ text.splitOn ' ', word ≠ [] ∧ ∀ c ∈ word, isWhitespace c = false

/-- Words are not empty, and there is no white space in them. -/
def AreWords (words : List (List Char)) : Prop :=
  ∀ word ∈ words, word ≠ [] ∧ ∀ c ∈ word, isWhitespace c = false

section Cut

variable {pat s : List Char}

theorem cutAt_eq_none_iff (hpat : pat ≠ []) : cutAt pat s = none ↔ ¬pat <:+: s := by
  induction s with
  | nil => simp [cutAt, hpat]
  | cons c s ih =>
    rw [cutAt, List.infix_cons_iff, not_or]
    split_ifs with hfound
    · simp [List.isPrefixOf_iff_prefix.mp hfound]
    · rw [Option.map_eq_none_iff, ih]
      exact ⟨fun h => ⟨fun hpre => hfound (List.isPrefixOf_iff_prefix.mpr hpre), h⟩, fun h => h.2⟩

/-- A text is cut where the pattern is first. -/
theorem cutAt_eq_some_iff (hpat : pat ≠ []) {a b : List Char} :
    cutAt pat s = some (a, b) ↔ s = a ++ (pat ++ b) ∧ ¬pat <:+: a ++ pat.dropLast := by
  have shorter : pat.dropLast.length + 1 = pat.length := by
    rw [List.length_dropLast]
    have := List.length_pos_iff.mpr hpat
    omega
  induction s generalizing a with
  | nil => simp [cutAt, hpat]
  | cons c s ih =>
    rw [cutAt]
    split_ifs with hfound
    · obtain ⟨rest, hrest⟩ := List.isPrefixOf_iff_prefix.mp hfound
      rw [← hrest, List.drop_left, Option.some.injEq, Prod.mk.injEq]
      constructor
      · rintro ⟨rfl, rfl⟩
        refine ⟨rfl, fun hinfix => ?_⟩
        have := hinfix.length_le
        rw [List.nil_append] at this
        omega
      · rintro ⟨hsame, hfirst⟩
        cases a with
        | nil => exact ⟨rfl, by simpa using hsame⟩
        | cons e a =>
          -- the pattern is at the beginning, and by that in what should come before it
          have here : pat <+: (e :: a) ++ pat.dropLast := by
            refine List.prefix_of_prefix_length_le (List.prefix_append pat rest) ?_ ?_
            · rw [hsame]
              exact (List.prefix_append_right_inj _).mpr
                ((List.dropLast_prefix pat).trans (List.prefix_append pat b))
            · rw [List.length_append, List.length_cons]
              omega
          exact absurd here.isInfix hfirst
    · rw [Option.map_eq_some_iff]
      constructor
      · rintro ⟨⟨a', b'⟩, hcut, heq⟩
        cases heq
        obtain ⟨hs, hfirst⟩ := ih.mp hcut
        refine ⟨by rw [hs]; rfl, ?_⟩
        have within : c :: (a' ++ pat.dropLast) <+: c :: s := by
          rw [hs, List.cons_prefix_cons]
          exact ⟨rfl, (List.prefix_append_right_inj _).mpr
            ((List.dropLast_prefix pat).trans (List.prefix_append pat b'))⟩
        rw [List.cons_append, List.infix_cons_iff, not_or]
        exact ⟨fun hpre => hfound (List.isPrefixOf_iff_prefix.mpr (hpre.trans within)), hfirst⟩
      · rintro ⟨hs, hfirst⟩
        cases a with
        | nil =>
          rw [hs] at hfound
          exact absurd (List.isPrefixOf_iff_prefix.mpr (List.prefix_append pat b)) hfound
        | cons e a =>
          rw [List.cons_append, List.cons.injEq] at hs
          rw [List.cons_append, List.infix_cons_iff, not_or] at hfirst
          exact ⟨(a, b), ih.mpr ⟨hs.2, hfirst.2⟩, by rw [hs.1]⟩

end Cut

section Unwords

variable {words : List (List Char)}

theorem unwords_cons (word next : List Char) (words : List (List Char)) :
    unwords (word :: next :: words) = word ++ ' ' :: unwords (next :: words) := by
  simp [unwords, List.intercalate]

theorem unwords_singleton (word : List Char) : unwords [word] = word := by
  simp [unwords, List.intercalate]

theorem unwords_append {front back : List (List Char)} (hfront : front ≠ []) (hback : back ≠ []) :
    unwords (front ++ back) = unwords front ++ ' ' :: unwords back := by
  induction front with
  | nil => exact absurd rfl hfront
  | cons word front ih =>
    cases front with
    | nil =>
      obtain ⟨next, back, rfl⟩ := List.exists_cons_of_ne_nil hback
      rw [List.singleton_append, unwords_cons, unwords_singleton]
    | cons next front =>
      have rest := ih (by simp)
      rw [List.cons_append, List.cons_append, unwords_cons, unwords_cons, ← List.cons_append, rest,
        List.append_assoc, List.cons_append]

theorem splitWhitespace_append {c : Char} (hc : isWhitespace c = true) (xs ys : List Char) :
    splitWhitespace (xs ++ c :: ys) = splitWhitespace xs ++ splitWhitespace ys := by
  have pieces := List.splitOnP_append_cons xs ys hc
  rw [splitWhitespace, pieces, List.filter_append]
  rfl

/-- A word is its own only word. -/
theorem splitWhitespace_single {word : List Char} (hne : word ≠ [])
    (hword : ∀ c ∈ word, isWhitespace c = false) : splitWhitespace word = [word] := by
  have single : word.splitOnP isWhitespace = [word] := by
    rw [List.splitOnP_eq_singleton]
    intro c hc
    simp [hword c hc]
  obtain ⟨c, word, rfl⟩ := List.exists_cons_of_ne_nil hne
  rw [splitWhitespace, single]
  rfl

theorem splitWhitespace_space {c : Char} (hc : isWhitespace c = true) (s : List Char) :
    splitWhitespace (c :: s) = splitWhitespace s :=
  splitWhitespace_append hc [] s

theorem splitWhitespace_eq_nil_iff {s : List Char} :
    splitWhitespace s = [] ↔ ∀ c ∈ s, isWhitespace c = true := by
  induction s with
  | nil => simp [splitWhitespace]
  | cons c s ih =>
    by_cases hc : isWhitespace c = true
    · rw [splitWhitespace_space hc, ih]
      simp [hc]
    · constructor
      · intro hnil
        rw [splitWhitespace, List.filter_eq_nil_iff, List.splitOnP_cons_eq_if_modifyHead,
          if_neg hc] at hnil
        obtain ⟨first, rest, hpieces⟩ := List.exists_cons_of_ne_nil (List.splitOnP_ne_nil isWhitespace s)
        rw [hpieces] at hnil
        exact absurd rfl (hnil (c :: first) List.mem_cons_self)
      · intro hall
        exact absurd (hall c List.mem_cons_self) hc

theorem splitWhitespace_trim (s : List Char) : splitWhitespace (trim s) = splitWhitespace s := by
  have front (s : List Char) : splitWhitespace (s.dropWhile isWhitespace) = splitWhitespace s := by
    induction s with
    | nil => rfl
    | cons c s ih =>
      by_cases hc : isWhitespace c = true
      · rw [List.dropWhile_cons_of_pos hc, ih, splitWhitespace_space hc]
      · rw [List.dropWhile_cons_of_neg hc]
  have back (s : List Char) : splitWhitespace (s.rdropWhile isWhitespace) = splitWhitespace s := by
    induction s using List.reverseRecOn with
    | nil => rfl
    | append_singleton s c ih =>
      by_cases hc : isWhitespace c = true
      · rw [List.rdropWhile_concat_pos _ _ _ hc, ih, splitWhitespace_snoc hc]
      · rw [List.rdropWhile_concat_neg _ _ _ hc]
  rw [trim, back, front]

/-- White space behind a text is trimmed with it. -/
theorem trim_snoc {c : Char} (hc : isWhitespace c = true) (s : List Char) :
    trim (s ++ [c]) = trim s := by
  rw [trim, trim]
  induction s with
  | nil => simp [hc]
  | cons e s ih =>
    by_cases he : isWhitespace e = true
    · rw [List.cons_append, List.dropWhile_cons_of_pos he, List.dropWhile_cons_of_pos he, ih]
    · rw [List.cons_append, List.dropWhile_cons_of_neg he, List.dropWhile_cons_of_neg he,
        ← List.cons_append, List.rdropWhile_concat_pos _ _ _ hc]

theorem SameButCr.trim {line line' : List Char} (h : SameButCr line line') :
    Framework.trim line = Framework.trim line' := by
  rcases h with rfl | rfl
  · rfl
  · exact trim_snoc (by decide) _

/-- Words are read back from where they are joined. -/
theorem splitWhitespace_unwords (h : AreWords words) : splitWhitespace (unwords words) = words := by
  induction words with
  | nil => rfl
  | cons word words ih =>
    obtain ⟨⟨hne, hword⟩, hwords⟩ := List.forall_mem_cons.mp h
    cases words with
    | nil => rw [unwords_singleton, splitWhitespace_single hne hword]
    | cons next words =>
      rw [unwords_cons, splitWhitespace_append (by decide), splitWhitespace_single hne hword,
        ih hwords, List.singleton_append]

theorem areWords_splitWhitespace (s : List Char) : AreWords (splitWhitespace s) :=
  fun _ h => word_spec h

/-- Joined words begin and end with something else than white space. -/
theorem unwords_begins (h : AreWords words) (hne : words ≠ []) :
    ∃ c rest, unwords words = c :: rest ∧ isWhitespace c = false := by
  obtain ⟨word, words, rfl⟩ := List.exists_cons_of_ne_nil hne
  obtain ⟨hword, hspace⟩ := h word List.mem_cons_self
  obtain ⟨c, rest, rfl⟩ := List.exists_cons_of_ne_nil hword
  have first := hspace c List.mem_cons_self
  cases words with
  | nil => exact ⟨c, rest, unwords_singleton _, first⟩
  | cons next words => exact ⟨c, _, unwords_cons _ next words, first⟩

theorem unwords_ends (h : AreWords words) (hne : words ≠ []) :
    ∃ body c, unwords words = body ++ [c] ∧ isWhitespace c = false := by
  obtain ⟨front, word, rfl⟩ := (List.eq_nil_or_concat words).resolve_left hne
  rw [List.concat_eq_append] at h ⊢
  obtain ⟨hword, hspace⟩ := h word (by simp)
  obtain ⟨body, c, rfl⟩ := (List.eq_nil_or_concat word).resolve_left hword
  rw [List.concat_eq_append] at hspace ⊢
  have last := hspace c (by simp)
  by_cases hfront : front = []
  · rw [hfront, List.nil_append, unwords_singleton]
    exact ⟨body, c, rfl, last⟩
  · rw [unwords_append hfront (by simp), unwords_singleton]
    exact ⟨unwords front ++ ' ' :: body, c, by simp, last⟩

theorem length_unwords (hne : words ≠ []) :
    (unwords words).length + 1 = (words.map (fun w => w.length + 1)).sum := by
  induction words with
  | nil => exact absurd rfl hne
  | cons word words ih =>
    cases words with
    | nil => simp [unwords_singleton]
    | cons next words =>
      have rest := ih (by simp)
      rw [unwords_cons, List.length_append, List.length_cons, List.map_cons, List.sum_cons, ← rest]
      omega

theorem length_pieces (p : Char → Bool) (s : List Char) :
    ((s.splitOnP p).map (fun w => w.length + 1)).sum = s.length + 1 := by
  induction s with
  | nil => simp
  | cons c s ih =>
    rw [List.splitOnP_cons_eq_if_modifyHead]
    split_ifs
    · rw [List.map_cons, List.sum_cons, ih, List.length_nil, List.length_cons]
      omega
    · obtain ⟨first, rest, hpieces⟩ := List.exists_cons_of_ne_nil (List.splitOnP_ne_nil p s)
      rw [hpieces] at ih ⊢
      simp only [List.modifyHead_cons, List.map_cons, List.sum_cons, List.length_cons] at ih ⊢
      omega

/-- Joining the words of a text makes it no longer. -/
theorem length_unwords_le (s : List Char) : (unwords (splitWhitespace s)).length ≤ s.length := by
  by_cases hne : splitWhitespace s = []
  · rw [hne]
    exact Nat.zero_le _
  · have joined := length_unwords hne
    have whole := length_pieces isWhitespace s
    have kept : ((splitWhitespace s).map (fun w => w.length + 1)).sum ≤
        ((s.splitOnP isWhitespace).map (fun w => w.length + 1)).sum :=
      (List.filter_sublist.map _).sum_le_sum (by simp)
    omega

theorem tidy_iff {text : List Char} (hne : text ≠ []) :
    unwords (splitWhitespace text) = text ↔ Tidy text := by
  constructor
  · intro hsame
    have words := areWords_splitWhitespace text
    have some : splitWhitespace text ≠ [] := by
      intro hnil
      rw [hnil] at hsame
      exact hne hsame.symm
    have blanks : ∀ word ∈ splitWhitespace text, ' ' ∉ word := by
      intro word hword hblank
      exact absurd ((words word hword).2 ' ' hblank) (by decide)
    have pieces : text.splitOn ' ' = splitWhitespace text := by
      conv_lhs => rw [← hsame]
      exact List.splitOn_intercalate ' ' blanks some
    rw [Tidy, pieces]
    exact words
  · intro htidy
    have joined : unwords (text.splitOn ' ') = text := List.intercalate_splitOn ' '
    have read := splitWhitespace_unwords htidy
    rw [joined] at read
    rw [read, joined]

end Unwords

end AdbControl.Framework
