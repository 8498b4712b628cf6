import AdbControl.Framework.Lines

namespace AdbControl.Framework.Shell

/-- The characters that stand for themselves in a word that is not quoted. -/
def isPlain (c : Char) : Bool :=
  isAsciiAlphanumeric c || c ∈ ['_', '-', '.', '/', '%', ':', ',', '@', '+']

/-- A word that needs no quotes. -/
def isPlainWord (word : List Char) : Bool := !word.isEmpty && word.all isPlain

def isBlankChar (c : Char) : Bool := c = ' ' || c = '\t'

inductive Token
  | word (w : List Char)
  | separator
  deriving DecidableEq

/-- Where in a line the scanner is: the word begun so far is held. -/
inductive Mode
  | plain (held : Option (List Char))
  | quote (held : List Char)
  | escape (held : List Char)

def emit (held : Option (List Char)) : List Token := held.toList.map Token.word

/-- The tokens of a line of the POSIX shell that has only words, single quotes, backslashes and
separators; any other line (one that expands, redirects or nests) is left open. -/
def scan : Mode → List Char → Option (List Token)
  | .plain held, [] => some (emit held)
  | .quote _, [] => none
  | .escape _, [] => none
  | .quote held, c :: cs => if c = '\'' then scan (.plain (some held)) cs else scan (.quote (held ++ [c])) cs
  | .escape held, c :: cs => if c = '\n' then none else scan (.plain (some (held ++ [c]))) cs
  | .plain held, c :: cs =>
    if isBlankChar c then (scan (.plain none) cs).map (fun rest => emit held ++ rest)
    else if c = ';' ∨ c = '\n' then
      (scan (.plain none) cs).map (fun rest => emit held ++ .separator :: rest)
    else if c = '\'' then scan (.quote (held.getD [])) cs
    else if c = '\\' then scan (.escape (held.getD [])) cs
    else if isPlain c then scan (.plain (some (held.getD [] ++ [c]))) cs
    else none

/-- The words with which the shell begins a construct of its own. -/
def reserved : List (List Char) :=
  ["case", "do", "done", "elif", "else", "esac", "fi", "for", "function", "if", "in", "select",
    "then", "time", "until", "while"].map String.toList

-- the one proof that every test for a word refers to
instance lawfulBEqWord : LawfulBEq (List Char) := inferInstance

/-- The words of each command. -/
def group (tokens : List Token) : List (List (List Char)) :=
  (tokens.splitOn .separator).map (fun ts => ts.filterMap (fun t =>
    match t with
    | .word w => some w
    | .separator => none))

/-- A command has a name, and it is not a word of the shell's own. -/
def isCommand : List (List Char) → Bool
  | [] => false
  | name :: _ => name ∉ reserved

/-- The commands of a line, each as its words. -/
def commands (line : List Char) : Option (List (List (List Char))) := do
  let tokens ← scan (.plain none) line
  if (group tokens).all isCommand then some (group tokens) else none

/-- Wherever the text stands in a line, it adds the word to what is held. -/
def Renders (text word : List Char) : Prop :=
  ∀ (held : Option (List Char)) (rest : List Char),
    scan (.plain held) (text ++ rest) = scan (.plain (some (held.getD [] ++ word))) rest

theorem isPlain_digitChar {n : Nat} (h : n < 16) : isPlain n.digitChar = true := by
  have all : ∀ m : Fin 16, isPlain m.val.digitChar = true := by decide
  exact all ⟨n, h⟩

/-- A number is plain to any base up to 16. -/
theorem isPlain_toDigits {b : Nat} (hb : 1 < b) (hb' : b ≤ 16) (n : Nat) :
    ∀ c ∈ Nat.toDigits b n, isPlain c = true := by
  induction n using Nat.strongRecOn with
  | ind n ih =>
    intro c hc
    rw [Nat.toDigits_eq_if hb] at hc
    split_ifs at hc with hlt
    · rw [List.mem_singleton.mp hc]
      exact isPlain_digitChar (by omega)
    · rcases List.mem_append.mp hc with hc | hc
      · exact ih (n / b) (Nat.div_lt_self (by omega) hb) c hc
      · have hmod := Nat.mod_lt n (by omega : b > 0)
        rw [List.mem_singleton.mp hc]
        exact isPlain_digitChar (by omega)

theorem isPlain_repr (n : Nat) : ∀ c ∈ n.repr.toList, isPlain c = true := by
  rw [Nat.toList_repr]
  exact isPlain_toDigits (by omega) (by omega) n

theorem isPlain_not_special {c : Char} (h : isPlain c = true) :
    isBlankChar c = false ∧ ¬(c = ';' ∨ c = '\n') ∧ c ≠ '\'' ∧ c ≠ '\\' := by
  refine ⟨?_, ?_, ?_, ?_⟩
  · by_contra hc
    simp only [isBlankChar, Bool.or_eq_true, decide_eq_true_eq, Bool.not_eq_false] at hc
    rcases hc with rfl | rfl <;> exact absurd h (by decide)
  · rintro (rfl | rfl) <;> exact absurd h (by decide)
  · rintro rfl
    exact absurd h (by decide)
  · rintro rfl
    exact absurd h (by decide)

theorem scan_plain {c : Char} (h : isPlain c = true) (held : Option (List Char))
    (rest : List Char) :
    scan (.plain held) (c :: rest) = scan (.plain (some (held.getD [] ++ [c]))) rest := by
  obtain ⟨hblank, hsep, hquote, hescape⟩ := isPlain_not_special h
  rw [scan, if_neg (by simp [hblank]), if_neg hsep, if_neg hquote, if_neg hescape, if_pos h]

theorem scan_blank {c : Char} (h : isBlankChar c = true) (held : Option (List Char))
    (rest : List Char) : scan (.plain held) (c :: rest) =
      (scan (.plain none) rest).map (fun tokens => emit held ++ tokens) := by
  rw [scan, if_pos h]

theorem isPlainWord_iff {word : List Char} :
    isPlainWord word = true ↔ word ≠ [] ∧ ∀ c ∈ word, isPlain c = true := by
  simp [isPlainWord]

/-- A word that needs no quotes stands for itself. -/
theorem renders_plain {word : List Char} (h : isPlainWord word = true) : Renders word word := by
  obtain ⟨hne, hplain⟩ := isPlainWord_iff.mp h
  induction word with
  | nil => exact absurd rfl hne
  | cons c word ih =>
    intro held rest
    rw [List.cons_append, scan_plain (hplain c List.mem_cons_self)]
    cases word with
    | nil => rfl
    | cons d word =>
      have htail : ∀ e ∈ d :: word, isPlain e = true :=
        fun e he => hplain e (List.mem_cons_of_mem c he)
      have hnonempty : d :: word ≠ [] := by simp
      rw [ih (isPlainWord_iff.mpr ⟨hnonempty, htail⟩) hnonempty htail]
      simp

/-- A text in single quotes, with each quote in it left, escaped and entered again. -/
def quoted (text : List Char) : List Char :=
  '\'' :: text.flatMap (fun c => if c = '\'' then ['\'', '\\', '\'', '\''] else [c]) ++ ['\'']

theorem scan_quoted_body (text : List Char) (held rest : List Char) :
    scan (.quote held)
        (text.flatMap (fun c => if c = '\'' then ['\'', '\\', '\'', '\''] else [c]) ++ '\'' :: rest) =
      scan (.plain (some (held ++ text))) rest := by
  induction text generalizing held with
  | nil =>
    rw [List.flatMap_nil, List.nil_append, scan, if_pos rfl, List.append_nil]
  | cons c text ih =>
    rw [List.flatMap_cons, List.append_assoc]
    by_cases hc : c = '\''
    · subst hc
      rw [if_pos rfl]
      have leaves (cs : List Char) : scan (.quote held) (['\'', '\\', '\'', '\''] ++ cs) =
          scan (.quote (held ++ ['\''])) cs := by
        simp [scan, isBlankChar]
      rw [leaves, ih]
      simp
    · rw [if_neg hc, List.cons_append, List.nil_append, scan, if_neg hc, ih]
      simp

/-- A quoted text stands for itself, whatever is in it. -/
theorem renders_quoted (text : List Char) : Renders (quoted text) text := by
  intro held rest
  have enters (cs : List Char) : scan (.plain held) ('\'' :: cs) =
      scan (.quote (held.getD [])) cs := by
    simp [scan, isBlankChar]
  rw [quoted, List.append_assoc, List.cons_append, enters, List.singleton_append, scan_quoted_body]

/-- Texts with single spaces between them are the words they stand for. -/
theorem scan_intercalate {texts words : List (List Char)} (h : List.Forall₂ Renders texts words) :
    scan (.plain none) ([' '].intercalate texts) = some (words.map Token.word) := by
  induction h with
  | nil => rfl
  | @cons text word texts words hw hrest ih =>
    cases hrest with
    | nil =>
      have hword := hw none []
      rw [List.append_nil] at hword
      rw [show [' '].intercalate [text] = text by simp [List.intercalate], hword]
      rfl
    | @cons text' word' texts words hw' hrest =>
      have hsplit : [' '].intercalate (text :: text' :: texts) =
          text ++ ' ' :: [' '].intercalate (text' :: texts) := by
        simp [List.intercalate]
      rw [hsplit, hw, scan_blank rfl, ih]
      rfl

/-- What stands in a joined line stands in one of its words, or between two. -/
theorem mem_intercalate {words : List (List Char)} {c : Char}
    (h : c ∈ [' '].intercalate words) : c = ' ' ∨ ∃ word ∈ words, c ∈ word := by
  induction words with
  | nil => simp [List.intercalate] at h
  | cons word words ih =>
    cases words with
    | nil =>
      refine Or.inr ⟨word, List.mem_singleton_self _, ?_⟩
      simpa [List.intercalate] using h
    | cons word' words =>
      have hsplit : [' '].intercalate (word :: word' :: words) =
          word ++ ' ' :: [' '].intercalate (word' :: words) := by
        simp [List.intercalate]
      rw [hsplit, List.mem_append, List.mem_cons] at h
      rcases h with hword | hspace | hrest
      · exact Or.inr ⟨word, List.mem_cons_self, hword⟩
      · exact Or.inl hspace
      · rcases ih hrest with hspace | ⟨other, hother, hc⟩
        · exact Or.inl hspace
        · exact Or.inr ⟨other, List.mem_cons_of_mem word hother, hc⟩

theorem group_words (words : List (List Char)) : group (words.map Token.word) = [words] := by
  have hsep : Token.separator ∉ words.map Token.word := by simp
  rw [group, List.splitOn_eq_singleton hsep]
  simp [List.filterMap_map]

/-- A line that scans to words is one command of these words. -/
theorem commands_of_words {line : List Char} {words : List (List Char)}
    (h : scan (.plain none) line = some (words.map Token.word)) (hc : isCommand words = true) :
    commands line = some [words] := by
  rw [commands, h]
  show (if (group (words.map Token.word)).all isCommand then
    some (group (words.map Token.word)) else none) = some [words]
  rw [group_words, if_pos (by simp [hc])]

theorem commands_intercalate {texts words : List (List Char)} (h : List.Forall₂ Renders texts words)
    (hc : isCommand words = true) : commands ([' '].intercalate texts) = some [words] :=
  commands_of_words (scan_intercalate h) hc

/-- A line of plain characters and blanks has words alone. -/
theorem scan_plain_line {line : List Char} (h : ∀ c ∈ line, isPlain c || isBlankChar c)
    (held : Option (List Char)) :
    ∃ words : List (List Char), scan (.plain held) line = some (words.map Token.word) := by
  induction line generalizing held with
  | nil => exact ⟨held.toList, rfl⟩
  | cons c line ih =>
    have hline : ∀ d ∈ line, isPlain d || isBlankChar d :=
      fun d hd => h d (List.mem_cons_of_mem c hd)
    rcases (Bool.or_eq_true _ _).mp (h c List.mem_cons_self) with hplain | hblank
    · rw [scan_plain hplain]
      exact ih hline _
    · obtain ⟨words, hwords⟩ := ih hline none
      refine ⟨held.toList ++ words, ?_⟩
      rw [scan_blank hblank, hwords, List.map_append]
      rfl

/-- A line that begins with the name of a command, and goes on with plain characters and blanks, is
one command of this name. -/
theorem commands_plain_line {name rest : List Char} (hname : Renders name name)
    (hc : name ∉ reserved) (h : ∀ c ∈ rest, isPlain c || isBlankChar c) :
    ∃ words, commands (name ++ ' ' :: rest) = some [name :: words] := by
  obtain ⟨words, hwords⟩ := scan_plain_line h none
  refine ⟨words, commands_of_words ?_ (by simpa [isCommand] using hc)⟩
  rw [hname, scan_blank rfl, hwords]
  rfl

/-- After these characters of a word a tilde is expanded: at its beginning, after its first `=`, and
after each colon. -/
def expandsTilde (before : List Char) : Bool :=
  before.isEmpty || before.getLast? = some ':' ||
    (before.getLast? = some '=' && before.count '=' = 1)

/-- After these characters of a word, the character stands for itself without any quotes. -/
def isLiteral (before : List Char) (c : Char) : Bool :=
  isPlain c || c = '=' || (c = '~' && !expandsTilde before)

def literalFrom (before : List Char) : List Char → Bool
  | [] => true
  | c :: cs => isLiteral before c && literalFrom (before ++ [c]) cs

/-- A word that has no character in it that the shell treats specially where it stands. -/
def isLiteralWord (word : List Char) : Bool := !word.isEmpty && literalFrom [] word

/-- The words of a line in which every character but the blanks stands for itself, with the word
that is begun; any other line is left open. -/
def words (begun : List Char) : List Char → Option (List (List Char))
  | [] => some (if begun = [] then [] else [begun])
  | c :: cs =>
    if isBlankChar c then
      (words [] cs).map (fun rest => if begun = [] then rest else begun :: rest)
    else if isLiteral begun c then words (begun ++ [c]) cs
    else none

theorem isLiteral_plain {c : Char} (h : isPlain c = true) (before : List Char) :
    isLiteral before c = true := by simp [isLiteral, h]

/-- Once a word has its first `=`, and something else after it, only a colon has a tilde expanded. -/
theorem not_expandsTilde {front : List Char} {last : Char} (equals : '=' ∈ front)
    (h : last ≠ ':') : expandsTilde (front ++ [last]) = false := by
  have begun : (front ++ [last]).isEmpty = false := by cases front <;> rfl
  rw [expandsTilde, begun, List.getLast?_concat]
  by_cases hlast : last = '='
  · -- this is the second equals sign of the word at least
    simp [hlast, List.count_eq_zero, equals]
  · simp [h, hlast]

theorem literalFrom_append (before front back : List Char) :
    literalFrom before (front ++ back) =
      (literalFrom before front && literalFrom (before ++ front) back) := by
  induction front generalizing before with
  | nil => simp [literalFrom]
  | cons c front ih => simp [literalFrom, ih, Bool.and_assoc]

theorem literalFrom_plain {word : List Char} (h : ∀ c ∈ word, isPlain c = true)
    (before : List Char) : literalFrom before word = true := by
  induction word generalizing before with
  | nil => rfl
  | cons c word ih =>
    obtain ⟨hc, hword⟩ := List.forall_mem_cons.mp h
    rw [literalFrom, isLiteral_plain hc, ih hword, Bool.and_self]

/-- A word goes on without special characters. -/
theorem isLiteralWord_append {word more : List Char} (h : isLiteralWord word = true)
    (hmore : literalFrom word more = true) : isLiteralWord (word ++ more) = true := by
  obtain ⟨hword, hliteral⟩ := (Bool.and_eq_true _ _).mp h
  have nonempty : (word ++ more).isEmpty = false := by
    cases word with
    | nil => cases hword
    | cons c word => rfl
  rw [isLiteralWord, nonempty, literalFrom_append, hliteral, List.nil_append, hmore]
  rfl

theorem isLiteral_not_blank {before : List Char} {c : Char} (h : isLiteral before c = true) :
    isBlankChar c = false := by
  by_contra hc
  simp only [isBlankChar, Bool.or_eq_true, decide_eq_true_eq, Bool.not_eq_false] at hc
  rcases hc with rfl | rfl <;> simp [isLiteral] at h <;> exact absurd h (by decide)

/-- What stands for itself is added to the word that is begun. -/
theorem words_literal {begun word : List Char} (h : literalFrom begun word = true)
    (rest : List Char) : words begun (word ++ rest) = words (begun ++ word) rest := by
  induction word generalizing begun with
  | nil => rw [List.nil_append, List.append_nil]
  | cons c word ih =>
    obtain ⟨hc, hword⟩ := (Bool.and_eq_true _ _).mp h
    have hblank := isLiteral_not_blank hc
    rw [List.cons_append, words, if_neg (by simp [hblank]), if_pos hc, ih hword, List.append_assoc,
      List.singleton_append]

/-- Words without special characters are read back from the line they are joined to. -/
theorem words_intercalate {line : List (List Char)} (h : ∀ word ∈ line, isLiteralWord word = true) :
    words [] ([' '].intercalate line) = some line := by
  induction line with
  | nil => rfl
  | cons word line ih =>
    obtain ⟨hword, hline⟩ := List.forall_mem_cons.mp h
    obtain ⟨hbegun, hliteral⟩ := (Bool.and_eq_true _ _).mp hword
    have nonempty : word ≠ [] := by simpa using hbegun
    cases line with
    | nil =>
      have alone := words_literal hliteral []
      rw [List.append_nil] at alone
      rw [show [' '].intercalate [word] = word by simp [List.intercalate], alone, List.nil_append,
        words, if_neg nonempty]
    | cons word' line =>
      have hsplit : [' '].intercalate (word :: word' :: line) =
          word ++ ' ' :: [' '].intercalate (word' :: line) := by
        simp [List.intercalate]
      rw [hsplit, words_literal hliteral, List.nil_append, words, if_pos (by decide), ih hline,
        Option.map_some, if_neg nonempty]

end AdbControl.Framework.Shell
