import AdbControl.Framework.Outcome
import AdbControl.Framework.Shell

namespace AdbControl.Framework.CommandLine

open Shell (isPlain isPlainWord isBlankChar reserved)

/-- A character of a word, and whether quotes keep the shell from treating it specially. -/
structure Letter where
  char : Char
  quoted : Bool
  deriving DecidableEq

def unquoted (word : List Char) : List Letter := word.map (fun c => ⟨c, false⟩)

/-- What the standard of the POSIX shell leaves to each shell: whether a dollar sign, in double quotes
or not, begins an expansion before a character, and which words an expansion of its own changes. -/
structure Dialect where
  dollar : Bool → Option Char → Bool
  expands : List Letter → Bool
  plain : ∀ word : List Letter, (∀ l ∈ word, isPlain l.char = true) → expands word = false

/-- A parameter, a number, a command or an arithmetic expression follows; nothing else expands. -/
def Dialect.posix : Dialect where
  dollar _ next := next.any fun c =>
    isAsciiAlphanumeric c || c ∈ ['_', '@', '*', '#', '?', '-', '$', '!', '{', '(']
  expands _ := false
  plain _ _ := rfl

inductive Token
  | word (w : List Letter)
  | semicolon
  | newline
  deriving DecidableEq

/-- Where in a line the scanner is: the word begun so far is held. -/
inductive Mode
  | plain (held : Option (List Letter))
  | single (held : List Letter)
  | double (held : List Letter)
  | escape (held : Option (List Letter))
  | doubleEscape (held : List Letter)
  | comment

def emit (held : Option (List Letter)) : List Token := held.toList.map Token.word

/-- What begins an operator or a command within the line. -/
def isOperator (c : Char) : Bool := c ∈ ['|', '&', '<', '>', '(', ')', '`']

section Scan

variable (d : Dialect)

/-- One character of the line, with the next; a line that expands, redirects or nests is left open. -/
def step (mode : Mode) (c : Char) (next : Option Char) : Option (List Token × Mode) :=
  match mode with
  | .plain held =>
    if isBlankChar c then some (emit held, .plain none)
    else if c = ';' then some (emit held ++ [.semicolon], .plain none)
    else if c = '\n' then some (emit held ++ [.newline], .plain none)
    else if c = '\'' then some ([], .single (held.getD []))
    else if c = '"' then some ([], .double (held.getD []))
    else if c = '\\' then some ([], .escape held)
    else if c = '#' ∧ held = none then some ([], .comment)
    else if isOperator c ∨ (c = '$' ∧ d.dollar false next) then none
    else some ([], .plain (some (held.getD [] ++ [⟨c, false⟩])))
  | .single held =>
    if c = '\'' then some ([], .plain (some held)) else some ([], .single (held ++ [⟨c, true⟩]))
  | .double held =>
    if c = '"' then some ([], .plain (some held))
    else if c = '\\' then some ([], .doubleEscape held)
    else if c = '`' ∨ (c = '$' ∧ d.dollar true next) then none
    else some ([], .double (held ++ [⟨c, true⟩]))
  | .escape held =>
    -- an escaped end of the line joins it with the next
    if c = '\n' then some ([], .plain held)
    else some ([], .plain (some (held.getD [] ++ [⟨c, true⟩])))
  | .doubleEscape held =>
    if c = '\n' then some ([], .double held)
    else if c ∈ ['$', '`', '"', '\\'] then some ([], .double (held ++ [⟨c, true⟩]))
    else some ([], .double (held ++ [⟨'\\', true⟩, ⟨c, true⟩]))
  | .comment => if c = '\n' then some ([.newline], .plain none) else some ([], .comment)

def finish : Mode → Option (List Token)
  | .plain held => some (emit held)
  | .comment => some []
  | .single _ | .double _ | .escape _ | .doubleEscape _ => none

def scan (mode : Mode) : List Char → Option (List Token)
  | [] => finish mode
  | c :: cs => do
    let (out, mode) ← step d mode c cs.head?
    let rest ← scan mode cs
    some (out ++ rest)

end Scan

section Commands

variable (d : Dialect)

/-- Behind a bracket, a bracket expression is closed: there is a character in it, and no slash. -/
def closesBracket (rest : List Letter) : Bool :=
  match if rest.head? = some ⟨'!', false⟩ then rest.tail else rest with
  | [] => false
  | first :: more =>
    first.char ≠ '/' && (more.takeWhile (fun l => l.char ≠ '/')).any (fun l => l = ⟨']', false⟩)

/-- The word stands for the files that it matches, if there are any. -/
def isPattern : List Letter → Bool
  | [] => false
  | l :: rest =>
    l = ⟨'*', false⟩ || l = ⟨'?', false⟩ || (l = ⟨'[', false⟩ && closesBracket rest) || isPattern rest

/-- What the word stands for does not depend on the word alone. -/
def isOpen (word : List Letter) : Bool :=
  word.head? = some ⟨'~', false⟩ || isPattern word || d.expands word

/-- The words of each command; a semicolon stands behind one. -/
def gather (words : List (List Letter)) : List Token → Option (List (List (List Letter)))
  | [] => some (if words = [] then [] else [words])
  | .word w :: tokens => gather (words ++ [w]) tokens
  | .newline :: tokens =>
    (gather [] tokens).map (fun rest => if words = [] then rest else words :: rest)
  | .semicolon :: tokens =>
    if words = [] then none else (gather [] tokens).map (fun rest => words :: rest)

/-- The name of a command: not a word of the shell's own, and not an assignment. -/
def isCommandName (name : List Char) : Bool := isPlainWord name && name ∉ reserved

def readWords (words : List (List Letter)) : Option (List (List Char)) :=
  let read := words.map (fun word => word.map Letter.char)
  if words.any (isOpen d) then none
  else if (read.head?.map isCommandName).getD false then some read
  else none

/-- The commands that a line runs, each as its words, whatever the variables, the files and the users
of the device; a line that does not tell them is left open. -/
def commands (line : List Char) : Option (List (List (List Char))) := do
  let tokens ← scan d (.plain none) line
  let found ← gather [] tokens
  found.mapM (readWords d)

end Commands

example : commands .posix "rm -rf /sdcard/a b; reboot".toList =
    some [["rm".toList, "-rf".toList, "/sdcard/a".toList, "b".toList], ["reboot".toList]] := by
  decide

example : commands .posix "input text 'a b'\"c\\$\"\\;".toList =
    some [["input".toList, "text".toList, "a bc$;".toList]] := by
  decide

section Size

variable {d : Dialect}

def Mode.size : Mode → Nat
  | plain held => (held.getD []).length
  | single held => held.length
  | double held => held.length
  | escape held => (held.getD []).length
  | doubleEscape held => held.length + 1
  | comment => 0

/-- How many characters the words have. -/
def letters : List Token → Nat
  | [] => 0
  | .word w :: tokens => w.length + letters tokens
  | .semicolon :: tokens => letters tokens
  | .newline :: tokens => letters tokens

theorem letters_append (xs ys : List Token) : letters (xs ++ ys) = letters xs + letters ys := by
  induction xs with
  | nil => simp [letters]
  | cons t xs ih =>
    cases t with
    | word w => simp [letters, ih, Nat.add_assoc]
    | semicolon => simpa [letters] using ih
    | newline => simpa [letters] using ih

theorem letters_emit (held : Option (List Letter)) : letters (emit held) = (held.getD []).length := by
  cases held <;> rfl

/-- The character stands for itself where it is, without any quotes. -/
def stands (d : Dialect) (begun : Bool) (c : Char) (next : Option Char) : Bool :=
  !(isBlankChar c || isOperator c || c ∈ [';', '\n', '\'', '"', '\\']) && (begun || c ≠ '#') &&
    !(c = '$' && d.dollar false next)

theorem stands_iff {begun : Bool} {c : Char} {next : Option Char} :
    stands d begun c next = true ↔ isBlankChar c = false ∧ c ≠ ';' ∧ c ≠ '\n' ∧ c ≠ '\'' ∧ c ≠ '"' ∧
      c ≠ '\\' ∧ ¬(c = '#' ∧ begun = false) ∧ ¬(isOperator c = true ∨ (c = '$' ∧ d.dollar false next)) := by
  simp only [stands, Bool.and_eq_true, Bool.not_eq_true', Bool.or_eq_false_iff, Bool.or_eq_true,
    decide_eq_false_iff_not, decide_eq_true_eq, Bool.and_eq_false_iff, List.mem_cons,
    List.not_mem_nil, or_false, not_or, not_and, Bool.not_eq_true, Bool.not_eq_false, ne_eq]
  tauto

theorem step_stands {held : Option (List Letter)} {c : Char} {next : Option Char}
    (h : stands d held.isSome c next = true) :
    step d (.plain held) c next = some ([], .plain (some (held.getD [] ++ [⟨c, false⟩]))) := by
  obtain ⟨hblank, hsemi, hline, hsingle, hdouble, hescape, hcomment, hopen⟩ := stands_iff.mp h
  have begun : ¬(c = '#' ∧ held = none) := by
    rintro ⟨hc, rfl⟩
    exact hcomment ⟨hc, rfl⟩
  simp only [step]
  rw [if_neg (by simp [hblank]), if_neg hsemi, if_neg hline, if_neg hsingle, if_neg hdouble,
    if_neg hescape, if_neg begun, if_neg hopen]

/-- No step makes more letters than it reads characters; outside of quotes it makes as many only of a
character that stands for itself. -/
theorem step_plain {held : Option (List Letter)} {c : Char} {next : Option Char} {out : List Token}
    {mode : Mode} (h : step d (.plain held) c next = some (out, mode)) :
    letters out + mode.size ≤ (held.getD []).length + 1 ∧
      ((held.getD []).length + 1 ≤ letters out + mode.size → stands d held.isSome c next = true) := by
  unfold step at h
  simp only at h
  split_ifs at h with hblank hsemi hline hsingle hdouble hescape hcomment hopen
  all_goals cases h
  all_goals simp only [letters_append, letters_emit, Mode.size, letters, Option.getD_none,
    Option.getD_some, List.length_nil, List.length_append, List.length_cons]
  case neg =>
    refine ⟨by omega, fun _ => stands_iff.mpr ?_⟩
    refine ⟨by simpa using hblank, hsemi, hline, hsingle, hdouble, hescape, ?_, hopen⟩
    rintro ⟨hc, hheld⟩
    exact hcomment ⟨hc, by simpa using hheld⟩
  all_goals omega

theorem step_size {mode mode' : Mode} {c : Char} {next : Option Char} {out : List Token}
    (h : step d mode c next = some (out, mode')) : letters out + mode'.size ≤ mode.size + 1 := by
  cases mode with
  | plain held => exact (step_plain h).1
  | _ =>
    unfold step at h
    simp only at h
    split_ifs at h
    all_goals cases h
    all_goals simp only [letters, Mode.size, Option.getD_none, Option.getD_some, List.length_nil,
      List.length_append, List.length_cons]
    all_goals omega

theorem scan_cons {mode : Mode} {c : Char} {cs : List Char} {tokens : List Token} :
    scan d mode (c :: cs) = some tokens ↔ ∃ out mode' rest,
      step d mode c cs.head? = some (out, mode') ∧ scan d mode' cs = some rest ∧
        tokens = out ++ rest := by
  rw [scan]
  simp only [Option.bind_eq_bind, Option.bind_eq_some_iff, Prod.exists, Option.some.injEq,
    eq_comm (a := tokens)]
  constructor
  · rintro ⟨out, mode', hstep, rest, hrest, rfl⟩
    exact ⟨out, mode', rest, hstep, hrest, rfl⟩
  · rintro ⟨out, mode', rest, hstep, hrest, rfl⟩
    exact ⟨out, mode', hstep, rest, hrest, rfl⟩

theorem scan_size {mode : Mode} {cs : List Char} {tokens : List Token}
    (h : scan d mode cs = some tokens) : letters tokens ≤ mode.size + cs.length := by
  induction cs generalizing mode tokens with
  | nil =>
    cases mode with
    | plain held =>
      cases h
      exact (letters_emit held).le
    | comment =>
      cases h
      exact Nat.zero_le _
    | _ => cases h
  | cons c cs ih =>
    obtain ⟨out, mode', rest, hstep, hrest, rfl⟩ := scan_cons.mp h
    have first := step_size hstep
    have others := ih hrest
    rw [letters_append, List.length_cons]
    omega

/-- Every character stands for itself where it is. -/
def literalFrom (d : Dialect) (begun : Bool) : List Char → Bool
  | [] => true
  | c :: cs => stands d begun c cs.head? && literalFrom d true cs

/-- A word that is not quoted, added to what is held. -/
def extend (held : Option (List Letter)) (word : List Char) : Option (List Letter) :=
  if word = [] then held else some (held.getD [] ++ unquoted word)

theorem extend_cons (held : Option (List Letter)) (c : Char) (word : List Char) :
    extend (some (held.getD [] ++ [⟨c, false⟩])) word = extend held (c :: word) := by
  cases word with
  | nil => rfl
  | cons e word => simp [extend, unquoted]

theorem scan_literal {held : Option (List Letter)} {word : List Char}
    (h : literalFrom d held.isSome word = true) :
    scan d (.plain held) word = some (emit (extend held word)) := by
  induction word generalizing held with
  | nil => rfl
  | cons c word ih =>
    obtain ⟨hc, hword⟩ := (Bool.and_eq_true _ _).mp h
    have rest := @ih (some (held.getD [] ++ [⟨c, false⟩])) hword
    rw [extend_cons] at rest
    exact scan_cons.mpr ⟨[], _, _, step_stands hc, rest, rfl⟩

/-- A text of which no character is lost to the words stands for itself. -/
theorem literal_of_letters {held : Option (List Letter)} {text : List Char} {tokens : List Token}
    (h : scan d (.plain held) text = some tokens)
    (hletters : (held.getD []).length + text.length ≤ letters tokens) :
    literalFrom d held.isSome text = true := by
  induction text generalizing held tokens with
  | nil => rfl
  | cons c text ih =>
    obtain ⟨out, mode, rest, hstep, hrest, rfl⟩ := scan_cons.mp h
    obtain ⟨hle, hfull⟩ := step_plain hstep
    have others := scan_size hrest
    rw [letters_append, List.length_cons] at hletters
    have hc := hfull (by omega)
    rw [step_stands hc] at hstep
    cases hstep
    have hword := ih hrest (by
      simp only [letters, Option.getD_some, List.length_append, List.length_singleton] at hletters ⊢
      omega)
    exact (Bool.and_eq_true _ _).mpr ⟨hc, hword⟩

end Size

section Chars

variable {d : Dialect} {p : Char → Prop}

def Mode.held : Mode → List Letter
  | plain held => held.getD []
  | single held => held
  | double held => held
  | escape held => held.getD []
  | doubleEscape held => held
  | comment => []

theorem emit_chars {held : Option (List Letter)} (h : ∀ l ∈ held.getD [], p l.char) :
    ∀ w, Token.word w ∈ emit held → ∀ l ∈ w, p l.char := by
  intro w hw
  cases held with
  | none => simp [emit] at hw
  | some held =>
    have same : w = held := by simpa [emit] using hw
    rw [same]
    exact h

/-- The letters are characters of the line, or backslashes. -/
theorem step_chars {mode mode' : Mode} {c : Char} {next : Option Char} {out : List Token}
    (escape : p '\\') (hc : p c) (hheld : ∀ l ∈ mode.held, p l.char)
    (h : step d mode c next = some (out, mode')) :
    (∀ w, Token.word w ∈ out → ∀ l ∈ w, p l.char) ∧ ∀ l ∈ mode'.held, p l.char := by
  have added (held : List Letter) (quoted : Bool) (hwords : ∀ l ∈ held, p l.char) :
      ∀ l ∈ held ++ [⟨c, quoted⟩], p l.char := by
    simpa [or_imp, forall_and, hc] using hwords
  have none (out : List Token) (hout : out = []) : ∀ w, Token.word w ∈ out → ∀ l ∈ w, p l.char := by
    simp [hout]
  cases mode with
  | plain held =>
    have ends := emit_chars hheld
    unfold step at h
    simp only at h
    split_ifs at h
    all_goals cases h
    · exact ⟨ends, by simp [Mode.held]⟩
    · exact ⟨fun w hw => ends w (by simpa using hw), by simp [Mode.held]⟩
    · exact ⟨fun w hw => ends w (by simpa using hw), by simp [Mode.held]⟩
    · exact ⟨none _ rfl, hheld⟩
    · exact ⟨none _ rfl, hheld⟩
    · exact ⟨none _ rfl, hheld⟩
    · exact ⟨none _ rfl, by simp [Mode.held]⟩
    · exact ⟨none _ rfl, added _ _ hheld⟩
  | single held =>
    unfold step at h
    simp only at h
    split_ifs at h
    all_goals cases h
    · exact ⟨none _ rfl, hheld⟩
    · exact ⟨none _ rfl, added _ _ hheld⟩
  | double held =>
    unfold step at h
    simp only at h
    split_ifs at h
    all_goals cases h
    · exact ⟨none _ rfl, hheld⟩
    · exact ⟨none _ rfl, hheld⟩
    · exact ⟨none _ rfl, added _ _ hheld⟩
  | escape held =>
    unfold step at h
    simp only at h
    split_ifs at h
    all_goals cases h
    · exact ⟨none _ rfl, hheld⟩
    · exact ⟨none _ rfl, added _ _ hheld⟩
  | doubleEscape held =>
    unfold step at h
    simp only at h
    split_ifs at h
    all_goals cases h
    · exact ⟨none _ rfl, hheld⟩
    · exact ⟨none _ rfl, added _ _ hheld⟩
    · refine ⟨none _ rfl, ?_⟩
      simpa [Mode.held, or_imp, forall_and, hc, escape] using hheld
  | comment =>
    unfold step at h
    simp only at h
    split_ifs at h
    all_goals cases h
    · exact ⟨by simp, by simp [Mode.held]⟩
    · exact ⟨none _ rfl, hheld⟩

theorem scan_chars {mode : Mode} {cs : List Char} {tokens : List Token} (escape : p '\\')
    (hcs : ∀ c ∈ cs, p c) (hheld : ∀ l ∈ mode.held, p l.char) (h : scan d mode cs = some tokens) :
    ∀ w, Token.word w ∈ tokens → ∀ l ∈ w, p l.char := by
  induction cs generalizing mode tokens with
  | nil =>
    cases mode with
    | plain held =>
      cases h
      exact emit_chars hheld
    | comment =>
      cases h
      simp
    | _ => cases h
  | cons c cs ih =>
    obtain ⟨hc, hrest⟩ := List.forall_mem_cons.mp hcs
    obtain ⟨out, mode', rest, hstep, hscan, rfl⟩ := scan_cons.mp h
    obtain ⟨first, held⟩ := step_chars escape hc hheld hstep
    intro w hw
    rcases List.mem_append.mp hw with hw | hw
    · exact first w hw
    · exact ih hrest held hscan w hw

end Chars

section Lines

variable {d : Dialect}

theorem gather_words (words more : List (List Letter)) (tokens : List Token) :
    gather words (more.map Token.word ++ tokens) = gather (words ++ more) tokens := by
  induction more generalizing words with
  | nil => simp
  | cons w more ih => simp [gather, ih]

/-- Gathering loses no letters. -/
theorem letters_gather {words : List (List Letter)} {tokens : List Token}
    {found : List (List (List Letter))} (h : gather words tokens = some found) :
    (found.flatten.map List.length).sum = (words.map List.length).sum + letters tokens := by
  induction tokens generalizing words found with
  | nil =>
    cases h
    split_ifs with hwords
    · simp [hwords, letters]
    · simp [letters]
  | cons t tokens ih =>
    cases t with
    | word w =>
      rw [ih h]
      simp [letters, Nat.add_assoc]
    | newline =>
      obtain ⟨rest, hrest, hfound⟩ := Option.map_eq_some_iff.mp h
      have others := ih hrest
      rw [← hfound]
      split_ifs with hwords
      · simpa [hwords, letters] using others
      · rw [List.flatten_cons, List.map_append, List.sum_append, others]
        simp [letters]
    | semicolon =>
      rw [gather] at h
      split_ifs at h
      obtain ⟨rest, hrest, rfl⟩ := Option.map_eq_some_iff.mp h
      rw [List.flatten_cons, List.map_append, List.sum_append, ih hrest]
      simp [letters]

/-- Gathering makes no words. -/
theorem mem_gather {words : List (List Letter)} {tokens : List Token}
    {found : List (List (List Letter))} (h : gather words tokens = some found) :
    ∀ ws ∈ found, ∀ w ∈ ws, w ∈ words ∨ Token.word w ∈ tokens := by
  induction tokens generalizing words found with
  | nil =>
    cases h
    split_ifs with hwords
    · simp
    · simp
  | cons t tokens ih =>
    intro ws hws w hw
    cases t with
    | word v =>
      rcases ih h ws hws w hw with hmem | hmem
      · rcases List.mem_append.mp hmem with hmem | hmem
        · exact Or.inl hmem
        · rw [List.mem_singleton.mp hmem]
          exact Or.inr List.mem_cons_self
      · exact Or.inr (List.mem_cons_of_mem _ hmem)
    | newline =>
      obtain ⟨rest, hrest, hfound⟩ := Option.map_eq_some_iff.mp h
      have others (hmem : ws ∈ rest) : Token.word w ∈ tokens := by
        simpa using ih hrest ws hmem w hw
      rw [← hfound] at hws
      split_ifs at hws with hwords
      · exact Or.inr (List.mem_cons_of_mem _ (others hws))
      · rcases List.mem_cons.mp hws with rfl | hws
        · exact Or.inl hw
        · exact Or.inr (List.mem_cons_of_mem _ (others hws))
    | semicolon =>
      rw [gather] at h
      split_ifs at h
      obtain ⟨rest, hrest, rfl⟩ := Option.map_eq_some_iff.mp h
      rcases List.mem_cons.mp hws with rfl | hws
      · exact Or.inl hw
      · refine Or.inr (List.mem_cons_of_mem _ ?_)
        simpa using ih hrest ws hws w hw

theorem stands_plain {begun : Bool} {c : Char} {next : Option Char} (h : isPlain c = true) :
    stands d begun c next = true := by
  have other (cs : List Char) (hcs : cs.all (fun e => !isPlain e) = true) : c ∉ cs := by
    intro hmem
    have := List.all_eq_true.mp hcs c hmem
    rw [h] at this
    cases this
  have blank := (Shell.isPlain_not_special h).1
  have operator : isOperator c = false :=
    decide_eq_false (other ['|', '&', '<', '>', '(', ')', '`'] (by decide))
  have special := other [';', '\n', '\'', '"', '\\', '#', '$'] (by decide)
  simp only [List.mem_cons, List.not_mem_nil, or_false, not_or] at special
  obtain ⟨hsemi, hline, hsingle, hdouble, hescape, hcomment, hdollar⟩ := special
  refine stands_iff.mpr ⟨blank, hsemi, hline, hsingle, hdouble, hescape, ?_, ?_⟩
  · exact fun hc => hcomment hc.1
  · rw [operator]
    exact not_or.mpr ⟨by decide, fun hc => hdollar hc.1⟩

/-- Plain characters are added to what is held. -/
theorem scan_plain {word : List Char} (h : ∀ c ∈ word, isPlain c = true)
    (held : Option (List Letter)) (rest : List Char) :
    scan d (.plain held) (word ++ rest) = scan d (.plain (extend held word)) rest := by
  induction word generalizing held with
  | nil => rfl
  | cons c word ih =>
    obtain ⟨hc, hword⟩ := List.forall_mem_cons.mp h
    have first := @step_stands d held c (word ++ rest).head? (stands_plain hc)
    rw [List.cons_append, scan, first, ← extend_cons, ← ih hword]
    simp

/-- Plain words with blanks behind them are read as they are. -/
theorem scan_front {front : List (List Char)} (h : ∀ w ∈ front, isPlainWord w = true)
    {text : List Char} : scan d (.plain none) (front.flatMap (fun w => w ++ [' ']) ++ text) =
      (scan d (.plain none) text).map
        (fun tokens => (front.map unquoted).map Token.word ++ tokens) := by
  induction front with
  | nil => simp
  | cons w front ih =>
    obtain ⟨hw, hfront⟩ := List.forall_mem_cons.mp h
    obtain ⟨hne, hplain⟩ := Shell.isPlainWord_iff.mp hw
    have blank : step d (.plain (extend none w)) ' ' (front.flatMap (fun w => w ++ [' ']) ++ text).head? =
        some (emit (extend none w), .plain none) := rfl
    rw [List.flatMap_cons, List.append_assoc, List.append_assoc, scan_plain hplain,
      List.singleton_append, scan, blank]
    have read := ih hfront
    simp only [Option.bind_eq_bind, Option.bind_some, read, Option.bind_map]
    cases scan d (.plain none) text with
    | none => rfl
    | some tokens => simp [extend, hne, emit]

/-- A word with no character in it that the shell treats specially where it stands. -/
def isLiteralWord (d : Dialect) (word : List Char) : Bool :=
  !word.isEmpty && literalFrom d false word && !isOpen d (unquoted word)

theorem char_unquoted (word : List Char) : (unquoted word).map Letter.char = word := by
  rw [unquoted, List.map_map]
  exact List.map_id word

theorem isOpen_plain {word : List Char} (h : ∀ c ∈ word, isPlain c = true) :
    isOpen d (unquoted word) = false := by
  have letter : ∀ l ∈ unquoted word, isPlain l.char = true := by
    intro l hl
    obtain ⟨c, hc, rfl⟩ := List.mem_map.mp hl
    exact h c hc
  have other (l : Letter) (hl : l ∈ unquoted word) (c : Char) (hc : isPlain c = false) :
      l ≠ ⟨c, false⟩ := by
    rintro rfl
    exact absurd (letter _ hl) (by simp [hc])
  have pattern (rest : List Letter) (hrest : ∀ l ∈ rest, l ∈ unquoted word) :
      isPattern rest = false := by
    induction rest with
    | nil => rfl
    | cons l rest ih =>
      obtain ⟨hl, hrest⟩ := List.forall_mem_cons.mp hrest
      have special := And.intro (other l hl '*' (by decide))
        (And.intro (other l hl '?' (by decide)) (other l hl '[' (by decide)))
      simp [isPattern, ih hrest, special]
  have tilde : (unquoted word).head? ≠ some ⟨'~', false⟩ :=
    fun hhead => other _ (List.mem_of_mem_head? hhead) '~' (by decide) rfl
  simp [isOpen, tilde, pattern _ (fun _ hl => hl), d.plain _ letter]

/-- A word that stands for itself is read behind the plain words of a command. -/
theorem commands_literal {front : List (List Char)} {text : List Char}
    (hfront : ∀ w ∈ front, isPlainWord w = true) (hname : (front.head?.map isCommandName).getD false)
    (h : isLiteralWord d text = true) :
    commands d (front.flatMap (fun w => w ++ [' ']) ++ text) = some [front ++ [text]] := by
  obtain ⟨hliteral, hclosed⟩ := (Bool.and_eq_true _ _).mp h
  obtain ⟨hne, hliteral⟩ := (Bool.and_eq_true _ _).mp hliteral
  have nonempty : text ≠ [] := by simpa using hne
  have tokens : scan d (.plain none) text = some [.word (unquoted text)] := by
    rw [scan_literal hliteral, extend, if_neg nonempty]
    rfl
  have gathered : gather [] ((front.map unquoted).map Token.word ++ [.word (unquoted text)]) =
      some [front.map unquoted ++ [unquoted text]] := by
    rw [gather_words]
    simp [gather]
  have closed : (front.map unquoted ++ [unquoted text]).any (isOpen d) = false := by
    rw [List.any_eq_false]
    intro w hw
    rcases List.mem_append.mp hw with hw | hw
    · obtain ⟨word, hword, rfl⟩ := List.mem_map.mp hw
      simpa using isOpen_plain (Shell.isPlainWord_iff.mp (hfront word hword)).2
    · rw [List.mem_singleton.mp hw]
      simpa using hclosed
  have chars : (front.map unquoted ++ [unquoted text]).map (fun w => w.map Letter.char) =
      front ++ [text] := by
    simp [char_unquoted, Function.comp_def]
  have named : ((front ++ [text]).head?.map isCommandName).getD false = true := by
    cases front with
    | nil => cases hname
    | cons name front => exact hname
  have read : readWords d (front.map unquoted ++ [unquoted text]) = some (front ++ [text]) := by
    unfold readWords
    simp only [closed, chars, named, Bool.false_eq_true, if_false, if_true]
  rw [commands, scan_front hfront, tokens]
  simp only [Option.bind_eq_bind, Option.map_some, Option.bind_some, gathered]
  exact mapM_eq_some.mpr (List.Forall₂.cons read List.Forall₂.nil)

/-- Where the words of a line with one command come from. -/
theorem read_of_commands {front found : List (List Char)} {text : List Char}
    (hfront : ∀ w ∈ front, isPlainWord w = true)
    (h : commands d (front.flatMap (fun w => w ++ [' ']) ++ text) = some [found]) :
    ∃ tokens words, scan d (.plain none) text = some tokens ∧
      gather (front.map unquoted) tokens = some [words] ∧ words.any (isOpen d) = false ∧
      words.map (fun word => word.map Letter.char) = found := by
  rw [commands, scan_front hfront] at h
  cases hscan : scan d (.plain none) text with
  | none =>
    rw [hscan] at h
    cases h
  | some tokens =>
    rw [hscan] at h
    simp only [Option.bind_eq_bind, Option.map_some, Option.bind_some, gather_words,
      List.nil_append] at h
    obtain ⟨gathered, hgather, hread⟩ := Option.bind_eq_some_iff.mp h
    obtain ⟨words, rest, hwords, hrest, rfl⟩ :=
      List.forall₂_cons_right_iff.mp (mapM_eq_some.mp hread)
    rw [List.forall₂_nil_right_iff] at hrest
    rw [hrest] at hgather
    unfold readWords at hwords
    simp only at hwords
    split_ifs at hwords with hopen hcommand
    exact ⟨tokens, words, rfl, hgather, by simpa using hopen, Option.some.inj hwords⟩

/-- No character is lost to the last word only if each of them stands for itself. -/
theorem literal_of_commands {front : List (List Char)} {text word : List Char}
    (hfront : ∀ w ∈ front, isPlainWord w = true) (hlength : text.length ≤ word.length)
    (h : commands d (front.flatMap (fun w => w ++ [' ']) ++ text) = some [front ++ [word]]) :
    isLiteralWord d text = true ∧ word = text := by
  obtain ⟨tokens, words, hscan, hgather, hopen, read⟩ := read_of_commands hfront h
  have counted : (words.map (fun w => w.length)).sum =
      (front.map (fun w => w.length)).sum + letters tokens := by
    have gathered := letters_gather hgather
    simp only [List.map_map, unquoted, Function.comp_def, List.length_map, List.flatten_cons,
      List.flatten_nil, List.append_nil] at gathered
    exact gathered
  have lengths : (words.map (fun w => w.length)).sum =
      (front.map (fun w => w.length)).sum + word.length := by
    have measured := congrArg (fun ws => (ws.map (fun w => w.length)).sum) read
    simpa [Function.comp_def] using measured
  have literal := literal_of_letters hscan (by simp only [Option.getD_none, List.length_nil]; omega)
  rw [scan_literal literal, Option.some.injEq] at hscan
  rw [← hscan] at hgather
  cases text with
  | nil =>
    -- there are then not enough words
    have few : gather (front.map unquoted) [] = some [words] := hgather
    rw [gather] at few
    split_ifs at few with hempty
    · cases few
    have same : front.map unquoted = words := List.singleton_inj.mp (Option.some.inj few)
    have missing := congrArg List.length read
    rw [← same] at missing
    simp at missing
  | cons c text =>
    have found : front.map unquoted ++ [unquoted (c :: text)] = words := by
      simpa [extend, emit, gather] using hgather
    have chars : front ++ [c :: text] = front ++ [word] := by
      rw [← read, ← found]
      simp [char_unquoted, Function.comp_def]
    have same : word = c :: text := by simpa using chars.symm
    have closed : isOpen d (unquoted (c :: text)) = false := by
      have all := List.any_eq_false.mp hopen (unquoted (c :: text)) (by simp [← found])
      simpa using all
    have stands : literalFrom d false (c :: text) = true := literal
    refine ⟨?_, same⟩
    rw [isLiteralWord, stands, closed]
    rfl

/-- The words of a line have no characters but those of the line, and backslashes. -/
theorem chars_of_commands {p : Char → Prop} {front : List (List Char)} {text word : List Char}
    (hfront : ∀ w ∈ front, isPlainWord w = true) (hplain : ∀ c, isPlain c = true → p c)
    (escape : p '\\') (htext : ∀ c ∈ text, p c)
    (h : commands d (front.flatMap (fun w => w ++ [' ']) ++ text) = some [front ++ [word]]) :
    ∀ c ∈ word, p c := by
  obtain ⟨tokens, words, hscan, hgather, -, read⟩ := read_of_commands hfront h
  have scanned := scan_chars escape htext (by simp [Mode.held]) hscan
  have last : word ∈ words.map (fun word => word.map Letter.char) := by
    rw [read]
    simp
  obtain ⟨letters, hletters, rfl⟩ := List.mem_map.mp last
  intro c hc
  obtain ⟨l, hl, rfl⟩ := List.mem_map.mp hc
  rcases mem_gather hgather words (List.mem_singleton_self _) letters hletters with hmem | hmem
  · obtain ⟨w, hw, rfl⟩ := List.mem_map.mp hmem
    obtain ⟨c, hletter, rfl⟩ := List.mem_map.mp hl
    exact hplain c ((Shell.isPlainWord_iff.mp (hfront w hw)).2 c hletter)
  · exact scanned letters hmem l hl

end Lines

end AdbControl.Framework.CommandLine
