import AdbControl.Server.FileListing

namespace AdbControl.Server

open Framework

/-- What a file is; a link with the path it leads to, a device with its numbers. -/
inductive FileKind
  | regular
  | directory
  | link (target : List Char)
  | device (block : Bool) (major minor : Nat)
  | fifo
  | socket

/-- When a file was changed: `YYYY-MM-DD HH:MM` as toybox prints it, or the month, the day, and the time
or the year as GNU does. -/
inductive Stamp
  | toybox (date time : List Char)
  | gnu (month day clock : List Char)

structure ListedFile where
  kind : FileKind
  mode : List Char
  links : Nat
  owner : List Char
  group : List Char
  size : Nat
  stamp : Stamp
  name : List Char

def FileKind.letter : FileKind → Char
  | regular => '-'
  | directory => 'd'
  | link _ => 'l'
  | device true _ _ => 'b'
  | device false _ _ => 'c'
  | fifo => 'p'
  | socket => 's'

/-- What an entry tells of the kind. -/
def FileKind.type : FileKind → EntryType
  | directory => .directory
  | link _ => .link
  | _ => .file

def Stamp.columns : Stamp → List (List Char)
  | toybox date time => [date, time]
  | gnu month day clock => [month, day, clock]

namespace ListedFile

variable (f : ListedFile)

def permissions : List Char := f.kind.letter :: f.mode

/-- A device has its numbers where others have their size. -/
def sizeColumns : List (List Char) :=
  match f.kind with
  | .device _ major minor => [major.repr.toList ++ [','], minor.repr.toList]
  | _ => [f.size.repr.toList]

def columns : List (List Char) :=
  [f.permissions, f.links.repr.toList, f.owner, f.group] ++ (f.sizeColumns ++ f.stamp.columns)

/-- What is printed behind the columns. -/
def shown : List Char :=
  match f.kind with
  | .link target => f.name ++ (arrow ++ target)
  | _ => f.name

def isDots : Bool := f.name = ['.'] || f.name = ['.', '.']

end ListedFile

section Valid

def AreDigits (n : Nat) (text : List Char) : Prop :=
  text.length = n ∧ ∀ c ∈ text, isAsciiDigit c = true

def IsDate (date : List Char) : Prop :=
  ∃ year month day, AreDigits 4 year ∧ AreDigits 2 month ∧ AreDigits 2 day ∧
    date = year ++ '-' :: (month ++ '-' :: day)

def IsTime (time : List Char) : Prop :=
  ∃ hour minute, AreDigits 2 hour ∧ AreDigits 2 minute ∧ time = hour ++ ':' :: minute

def Stamp.Valid : Stamp → Prop
  | toybox date time => IsDate date ∧ IsTime time
  | gnu month day clock =>
    (month.length = 3 ∧ ∀ c ∈ month, c.isAlpha = true) ∧ (AreDigits 1 day ∨ AreDigits 2 day) ∧
      (IsTime clock ∨ AreDigits 4 clock)

/-- A file as a directory can have it. Its name, and those in the target of a link, are on one line. -/
structure ListedFile.Valid (f : ListedFile) : Prop where
  mode : ∀ c ∈ f.mode, isWhitespace c = false
  links : f.links < 2^63
  owner : f.owner ≠ [] ∧ ∀ c ∈ f.owner, isWhitespace c = false
  group : f.group ≠ [] ∧ ∀ c ∈ f.group, isWhitespace c = false
  size : f.size < 2^63
  device : ∀ block major minor, f.kind = .device block major minor → f.size = 0
  stamp : f.stamp.Valid
  name : f.name ≠ []
  oneLine : '\n' ∉ f.shown
  dots : f.isDots = true → f.kind = .directory

/-- A line of the listing: the columns, however they are aligned, a blank, and the name. -/
structure ListedLine where
  file : ListedFile
  front : List Char
  valid : file.Valid
  aligned : splitWhitespace front = file.columns
  oneLine : '\n' ∉ front

def ListedLine.text (line : ListedLine) : List Char := line.front ++ ' ' :: line.file.shown

def blocksLine (n : Nat) : List Char := "total ".toList ++ n.repr.toList

/-- The output of `ls -la`, with what it says of the blocks, if it does. -/
def listingOutput (total : Option Nat) (listing : List ListedLine) : String :=
  String.ofList ((total.toList.map blocksLine ++ listing.map ListedLine.text).flatMap
    (fun line => line ++ ['\n']))

end Valid

/-- An entry tells of a file, and has a target only if it is a link. -/
structure Shows (entry : FileEntry) (f : ListedFile) : Prop where
  name : entry.name.toList = f.name
  type : entry.type = f.kind.type
  size : entry.size = f.size
  owner : entry.owner.toList = f.owner
  group : entry.group.toList = f.group
  target : entry.target ≠ "" → ∃ target, f.kind = .link target

/-- The text from which an arrow of the name's own would be read before that of the link. -/
def ListedFile.beforeTarget (f : ListedFile) : List Char :=
  match f.kind with
  | .link _ => f.name ++ arrow.dropLast
  | _ => f.name

/-- A file of which nothing keeps the entry from being read: white space in its name is single blanks
between other characters, there is no arrow in it, the target of a link is not blank, and no device has
its time in the GNU form. -/
structure ListedFile.Plain (f : ListedFile) : Prop where
  tidy : Tidy f.name
  arrow : ¬arrow <:+: f.beforeTarget
  target : ∀ target, f.kind = .link target → ∃ c ∈ target, isWhitespace c = false
  device : ∀ block major minor month day clock, f.kind = .device block major minor →
    f.stamp ≠ .gnu month day clock

section Columns

theorem isAsciiDigit_spec {c : Char} (h : isAsciiDigit c = true) :
    isWhitespace c = false ∧ c.toNat < 128 ∧ c ≠ '-' ∧ c ≠ '+' := by
  have hc : 48 ≤ c.toNat ∧ c.toNat ≤ 57 := by simpa [isAsciiDigit] using h
  refine ⟨isWhitespace_ascii (by omega) (by omega), by omega, ?_, ?_⟩
  · rintro rfl
    exact absurd hc (by decide)
  · rintro rfl
    exact absurd hc (by decide)

theorem isAlpha_spec {c : Char} (h : c.isAlpha = true) : isWhitespace c = false ∧ c.toNat < 128 := by
  have hc : (65 ≤ c.toNat ∧ c.toNat ≤ 90) ∨ (97 ≤ c.toNat ∧ c.toNat ≤ 122) := by
    simpa [Char.isAlpha, Char.isUpper, Char.isLower, UInt32.le_iff_toNat_le] using h
  exact ⟨isWhitespace_ascii (by omega) (by omega), by omega⟩

theorem repr_spec (n : Nat) : ∃ c rest, n.repr.toList = c :: rest ∧ c ≠ '-' ∧ c ≠ '+' ∧
    (c :: rest).all isAsciiDigit = true := by
  obtain ⟨c, rest, hrepr⟩ := List.exists_cons_of_ne_nil (toList_repr_ne_nil n)
  have digits : ∀ e ∈ c :: rest, isAsciiDigit e = true := by
    rw [← hrepr]
    exact fun e he => isAsciiDigit_repr he
  have first := isAsciiDigit_spec (digits c List.mem_cons_self)
  exact ⟨c, rest, hrepr, first.2.2.1, first.2.2.2, List.all_eq_true.mpr digits⟩

theorem atoi_repr {n : Nat} (hn : n < 2^63) : Automation.atoi n.repr.toList = some (n : Int) := by
  obtain ⟨c, rest, hrepr, hminus, hplus, digits⟩ := repr_spec n
  have value := foldl_repr n
  rw [hrepr] at value ⊢
  have within : -(2^63) ≤ (n : Int) ∧ (n : Int) < 2^63 := by omega
  simp only [Automation.atoi]
  split
  · next heq => exact absurd (List.cons.inj heq).1 hminus
  · next heq => exact absurd (List.cons.inj heq).1 hplus
  · rw [if_pos ⟨by simp, digits⟩, value]
    simp only [Option.map_some, Option.filter, Int.ofNat_eq_natCast, within, and_self, decide_true,
      if_true]

theorem parseInt_repr {n : Nat} (hn : n < 2^63) : parseInt n.repr.toList = n := by
  obtain ⟨c, rest, hrepr, hminus, hplus, digits⟩ := repr_spec n
  have value := foldl_repr n
  rw [hrepr] at value ⊢
  simp only [parseInt]
  split
  · next heq => exact absurd (List.cons.inj heq).1 hminus
  · next heq => exact absurd (List.cons.inj heq).1 hplus
  · rw [if_pos ⟨by simp, digits⟩, value]
    simp only [Option.map_some, Option.getD_some, Int.ofNat_eq_natCast]
    omega

/-- The number of a device with the comma behind it is no number. -/
theorem parseInt_major (n : Nat) : parseInt (n.repr.toList ++ [',']) = 0 := by
  obtain ⟨c, rest, hrepr, hminus, hplus, digits⟩ := repr_spec n
  have comma : (c :: (rest ++ [','])).all isAsciiDigit = false := by
    simp [isAsciiDigit]
  rw [hrepr, List.cons_append]
  simp only [parseInt]
  split
  · next heq => exact absurd (List.cons.inj heq).1 hminus
  · next heq => exact absurd (List.cons.inj heq).1 hplus
  · rw [if_neg (by simp [comma])]
    rfl

theorem AreDigits.ascii {n : Nat} {text : List Char} (h : AreDigits n text) :
    ∀ c ∈ text, isWhitespace c = false ∧ c.toNat < 128 :=
  fun c hc => ⟨(isAsciiDigit_spec (h.2 c hc)).1, (isAsciiDigit_spec (h.2 c hc)).2.1⟩

theorem IsDate.ascii {date : List Char} (h : IsDate date) :
    ∀ c ∈ date, isWhitespace c = false ∧ c.toNat < 128 := by
  obtain ⟨year, month, day, hyear, hmonth, hday, rfl⟩ := h
  intro c hc
  rcases List.mem_append.mp hc with hc | hc
  · exact hyear.ascii c hc
  · rcases List.mem_cons.mp hc with rfl | hc
    · decide
    · rcases List.mem_append.mp hc with hc | hc
      · exact hmonth.ascii c hc
      · rcases List.mem_cons.mp hc with rfl | hc
        · decide
        · exact hday.ascii c hc

theorem IsTime.ascii {time : List Char} (h : IsTime time) :
    ∀ c ∈ time, isWhitespace c = false ∧ c.toNat < 128 := by
  obtain ⟨hour, minute, hhour, hminute, rfl⟩ := h
  intro c hc
  rcases List.mem_append.mp hc with hc | hc
  · exact hhour.ascii c hc
  · rcases List.mem_cons.mp hc with rfl | hc
    · decide
    · exact hminute.ascii c hc

theorem isISODate_date {date : List Char} (h : IsDate date) : isISODate date = true := by
  have bytes := utf8Bytes_ascii fun c hc => (h.ascii c hc).2
  obtain ⟨year, month, day, hyear, hmonth, hday, rfl⟩ := h
  have length : (year ++ '-' :: (month ++ '-' :: day)).length = 10 := by
    simp [hyear.1, hmonth.1, hday.1]
  have fourth : (year ++ '-' :: (month ++ '-' :: day))[4]? = some '-' := by
    rw [List.getElem?_append_right (by rw [hyear.1]), hyear.1]
    rfl
  have seventh : (year ++ '-' :: (month ++ '-' :: day))[7]? = some '-' := by
    rw [List.getElem?_append_right (by rw [hyear.1]; omega), hyear.1, List.getElem?_cons_succ,
      List.getElem?_append_right (by rw [hmonth.1]), hmonth.1]
    rfl
  rw [isISODate, fieldBytes, bytes, List.length_map, length, List.getElem?_map, fourth,
    List.getElem?_map, seventh]
  rfl

theorem looksLikeTimeOrYear_time {time : List Char} (h : IsTime time) :
    looksLikeTimeOrYear time = true := by
  have bytes := utf8Bytes_ascii fun c hc => (h.ascii c hc).2
  obtain ⟨hour, minute, hhour, hminute, rfl⟩ := h
  have length : (hour ++ ':' :: minute).length = 5 := by simp [hhour.1, hminute.1]
  rw [looksLikeTimeOrYear, fieldBytes, bytes, List.length_map, length, if_neg (by decide)]
  simp

theorem isISODate_month {month : List Char} (hlength : month.length = 3)
    (h : ∀ c ∈ month, c.toNat < 128) : isISODate month = false := by
  rw [isISODate, fieldBytes, utf8Bytes_ascii h, List.length_map, hlength]
  rfl

theorem isISODate_repr (n : Nat) : isISODate n.repr.toList = false := by
  have ascii : ∀ c ∈ n.repr.toList, c.toNat < 128 :=
    fun c hc => (isAsciiDigit_spec (isAsciiDigit_repr hc)).2.1
  have dash : (n.repr.toList.map (fun c => c.val.toUInt8))[4]? ≠ some 45 := by
    rw [List.getElem?_map]
    intro hsome
    obtain ⟨c, hget, hbyte⟩ := Option.map_eq_some_iff.mp hsome
    have digit := isAsciiDigit_repr (List.mem_of_getElem? hget)
    have hc : 48 ≤ c.toNat ∧ c.toNat ≤ 57 := by simpa [isAsciiDigit] using digit
    have value := congrArg UInt8.toNat hbyte
    have small : c.val.toUInt8.toNat = c.toNat % 256 := rfl
    rw [small] at value
    have : (45 : UInt8).toNat = 45 := rfl
    omega
  rw [isISODate, fieldBytes, utf8Bytes_ascii ascii, decide_eq_false dash]
  simp

end Columns

section Entry

variable {p l o g s : List Char}

/-- Where the time is a date and a time, two fields are behind the size. -/
theorem entryOfFields_date {d t : List Char} {rest : List (List Char)} (hp : p ≠ [])
    (hl : (Automation.atoi l).isSome = true) (hd : isISODate d = true)
    (ht : looksLikeTimeOrYear t = true) (hrest : rest ≠ []) (basePath : List Char) :
    entryOfFields (p :: l :: o :: g :: s :: d :: t :: rest) basePath =
      namedEntry basePath p o g s (unwords [d, t]) (unwords rest) := by
  obtain ⟨name, rest, rfl⟩ := List.exists_cons_of_ne_nil hrest
  simp [entryOfFields, nameStart, field, hp, hl, hd, ht]
  rw [if_neg (by omega), if_neg (by omega)]

/-- Where it is not, three are. -/
theorem entryOfFields_month {m d c : List Char} {rest : List (List Char)} (hp : p ≠ [])
    (hl : (Automation.atoi l).isSome = true) (hm : isISODate m = false) (hrest : rest ≠ [])
    (basePath : List Char) : entryOfFields (p :: l :: o :: g :: s :: m :: d :: c :: rest) basePath =
      namedEntry basePath p o g s (unwords [m, d, c]) (unwords rest) := by
  obtain ⟨name, rest, rfl⟩ := List.exists_cons_of_ne_nil hrest
  simp [entryOfFields, nameStart, field, hp, hl, hm]
  rw [if_neg (by omega), if_neg (by omega)]

/-- The fields that the name is joined from: those behind the columns, but where a device has its time in
the GNU form, the last column before them. -/
def ListedFile.nameFields (f : ListedFile) (behind : List (List Char)) : List (List Char) :=
  match f.kind, f.stamp with
  | .device _ _ _, .gnu _ _ clock => clock :: behind
  | _, _ => behind

def ListedFile.sizeText (f : ListedFile) : List Char :=
  match f.kind with
  | .device _ major _ => major.repr.toList ++ [',']
  | _ => f.size.repr.toList

theorem entry_of_file {f : ListedFile} (h : f.Valid) {behind : List (List Char)}
    (hbehind : behind ≠ []) (basePath : List Char) :
    ∃ modified, entryOfFields (f.columns ++ behind) basePath =
      namedEntry basePath f.permissions f.owner f.group f.sizeText modified
        (unwords (f.nameFields behind)) := by
  have permissions : f.permissions ≠ [] := by simp [ListedFile.permissions]
  have links : (Automation.atoi f.links.repr.toList).isSome = true := by
    rw [atoi_repr h.links]
    rfl
  have stamp := h.stamp
  have sized (hsize : f.sizeColumns = [f.sizeText]) (hname : f.nameFields behind = behind) :
      ∃ modified, entryOfFields (f.columns ++ behind) basePath =
        namedEntry basePath f.permissions f.owner f.group f.sizeText modified
          (unwords (f.nameFields behind)) := by
    rw [ListedFile.columns, hsize, hname]
    cases hstamp : f.stamp with
    | toybox date time =>
      rw [hstamp] at stamp
      exact ⟨_, entryOfFields_date permissions links (isISODate_date stamp.1)
        (looksLikeTimeOrYear_time stamp.2) hbehind basePath⟩
    | gnu month day clock =>
      rw [hstamp] at stamp
      exact ⟨_, entryOfFields_month permissions links (isISODate_month stamp.1.1
        fun c hc => (isAlpha_spec (stamp.1.2 c hc)).2) hbehind basePath⟩
  cases hkind : f.kind with
  | device block major minor =>
    have hsize : f.sizeColumns = [f.sizeText, minor.repr.toList] := by
      simp [ListedFile.sizeColumns, ListedFile.sizeText, hkind]
    rw [ListedFile.columns, hsize]
    have date := isISODate_repr minor
    cases hstamp : f.stamp with
    | toybox date' time =>
      have hname : f.nameFields behind = behind := by simp [ListedFile.nameFields, hkind, hstamp]
      rw [hname]
      exact ⟨_, entryOfFields_month permissions links date hbehind basePath⟩
    | gnu month day clock =>
      have hname : f.nameFields behind = clock :: behind := by
        simp [ListedFile.nameFields, hkind, hstamp]
      rw [hname]
      exact ⟨_, entryOfFields_month permissions links date (List.cons_ne_nil _ _) basePath⟩
  | _ =>
    refine sized ?_ ?_
    · simp [ListedFile.sizeColumns, ListedFile.sizeText, hkind]
    · simp [ListedFile.nameFields, hkind]

end Entry

section Names

variable {words : List (List Char)} {name target a b : List Char}

theorem splitWhitespace_arrow (a b : List Char) : splitWhitespace (a ++ (arrow ++ b)) =
    splitWhitespace a ++ ['-', '>'] :: splitWhitespace b := by
  have single : splitWhitespace ['-', '>'] = [['-', '>']] :=
    splitWhitespace_single (by decide) (by simp [isWhitespace])
  have behind : splitWhitespace ('-' :: '>' :: ' ' :: b) = ['-', '>'] :: splitWhitespace b := by
    have parts := splitWhitespace_append (show isWhitespace ' ' = true by decide) ['-', '>'] b
    rw [single] at parts
    exact parts
  have blank := splitWhitespace_append (show isWhitespace ' ' = true by decide) a ('-' :: '>' :: ' ' :: b)
  rw [behind] at blank
  exact blank

/-- Where joined words are cut, there are words behind the arrow. -/
theorem cut_words (hwords : AreWords words) (hcut : unwords words = a ++ (arrow ++ b)) :
    words = splitWhitespace a ++ ['-', '>'] :: splitWhitespace b ∧ splitWhitespace b ≠ [] := by
  have read := splitWhitespace_unwords hwords
  rw [hcut, splitWhitespace_arrow] at read
  refine ⟨read.symm, fun hnil => ?_⟩
  have some : words ≠ [] := by
    rw [← read]
    simp
  -- the blank of the arrow, or one behind it, is the last character
  obtain ⟨body, c, hends, hc⟩ := unwords_ends hwords some
  have last : c ∈ ' ' :: b := by
    have hlast := congrArg List.getLast? (hends.symm.trans hcut)
    have spelled : a ++ (arrow ++ b) = (a ++ [' ', '-', '>']) ++ ' ' :: b := by simp [arrow]
    rw [List.getLast?_concat, spelled, List.getLast?_append_of_ne_nil _ (List.cons_ne_nil _ _)] at hlast
    exact List.mem_of_getLast? hlast.symm
  rcases List.mem_cons.mp last with rfl | hmem
  · exact absurd hc (by decide)
  · exact absurd (splitWhitespace_eq_nil_iff.mp hnil c hmem) (by simp [hc])

theorem unwords_arrow {front back : List (List Char)} (hfront : front ≠ []) (hback : back ≠ []) :
    unwords (front ++ ['-', '>'] :: back) = unwords front ++ (arrow ++ unwords back) := by
  obtain ⟨word, back, rfl⟩ := List.exists_cons_of_ne_nil hback
  rw [unwords_append hfront (List.cons_ne_nil _ _), unwords_cons]
  rfl

/-- A joined name is whole, or it is cut at its first arrow. -/
theorem cutName_cases (name : List Char) :
    (cutName name = (name, []) ∧ ¬arrow <:+: name) ∨
      ∃ b, name = (cutName name).1 ++ (arrow ++ b) ∧
        ¬arrow <:+: (cutName name).1 ++ arrow.dropLast := by
  have arrow_ne : arrow ≠ [] := by decide
  cases hcut : cutAt arrow name with
  | none =>
    refine Or.inl ⟨?_, (cutAt_eq_none_iff arrow_ne).mp hcut⟩
    rw [cutName, hcut]
    rfl
  | some found =>
    obtain ⟨a, b⟩ := found
    have parts : cutName name = (a, b) := by
      rw [cutName, hcut]
      rfl
    rw [parts]
    exact Or.inr ⟨b, (cutAt_eq_some_iff arrow_ne).mp hcut⟩

/-- The name is read as it is, and nothing is cut from it. -/
theorem cutName_plain_iff (hne : name ≠ []) :
    (cutName (unwords (splitWhitespace name))).1 = name ∧
        (cutName (unwords (splitWhitespace name))).2 = [] ↔
      Tidy name ∧ ¬arrow <:+: name := by
  have shorter := length_unwords_le name
  rw [← tidy_iff hne]
  rcases cutName_cases (unwords (splitWhitespace name)) with ⟨whole, uncut⟩ | ⟨b, hs, -⟩
  · rw [whole]
    constructor
    · rintro ⟨hsame, -⟩
      simp only at hsame
      rw [hsame] at uncut
      exact ⟨hsame, uncut⟩
    · rintro ⟨hsame, -⟩
      exact ⟨hsame, rfl⟩
  · constructor
    · rintro ⟨hsame, -⟩
      rw [hs, hsame, List.length_append, List.length_append] at shorter
      simp [arrow] at shorter
    · rintro ⟨hsame, hfree⟩
      rw [← hsame, hs] at hfree
      exact absurd ⟨_, b, by rw [List.append_assoc]⟩ hfree

/-- The name of a link is read as it is. -/
theorem cutName_link_iff (hne : name ≠ []) :
    (cutName (unwords (splitWhitespace (name ++ (arrow ++ target))))).1 = name ↔
      Tidy name ∧ ¬arrow <:+: name ++ arrow.dropLast ∧ ∃ c ∈ target, isWhitespace c = false := by
  have fields := splitWhitespace_arrow name target
  have hwords := areWords_splitWhitespace (name ++ (arrow ++ target))
  have blank : splitWhitespace target ≠ [] ↔ ∃ c ∈ target, isWhitespace c = false := by
    rw [ne_eq, splitWhitespace_eq_nil_iff]
    push Not
    simp
  rw [← tidy_iff hne, ← blank]
  constructor
  · intro hname
    rcases cutName_cases (unwords (splitWhitespace (name ++ (arrow ++ target)))) with
      ⟨whole, -⟩ | ⟨b, hs, hfree⟩
    · rw [whole] at hname
      have read := splitWhitespace_unwords hwords
      simp only at hname
      rw [hname, fields] at read
      have lengths := congrArg List.length read
      rw [List.length_append, List.length_cons] at lengths
      omega
    · rw [hname] at hs hfree
      obtain ⟨hsame, hbehind⟩ := cut_words hwords hs
      rw [fields] at hsame hs
      have targets : splitWhitespace target = splitWhitespace b :=
        (List.cons.inj (List.append_cancel_left hsame)).2
      rw [← targets] at hbehind
      obtain ⟨c, rest, hbegins, hc⟩ := unwords_begins hwords (by rw [fields]; simp)
      rw [fields, hs] at hbegins
      have named : splitWhitespace name ≠ [] := by
        intro hnil
        obtain ⟨e, tail, rfl⟩ := List.exists_cons_of_ne_nil hne
        have blank := splitWhitespace_eq_nil_iff.mp hnil e List.mem_cons_self
        rw [(List.cons.inj hbegins).1, hc] at blank
        cases blank
      rw [unwords_arrow named hbehind] at hs
      refine ⟨?_, hfree, hbehind⟩
      have first := length_unwords_le name
      have second := length_unwords_le b
      rw [← targets] at second
      have lengths := congrArg List.length hs
      simp only [List.length_append] at lengths
      exact (List.append_inj hs (by omega)).1
  · rintro ⟨hsame, hfree, hbehind⟩
    have named : splitWhitespace name ≠ [] := by
      intro hnil
      rw [hnil] at hsame
      exact hne hsame.symm
    have cut : cutAt arrow (name ++ (arrow ++ unwords (splitWhitespace target))) =
        some (name, unwords (splitWhitespace target)) :=
      (cutAt_eq_some_iff (by decide)).mpr ⟨rfl, hfree⟩
    rw [fields, unwords_arrow named hbehind, hsame, cutName, cut]
    rfl

/-- The column before the name is never left out of it. -/
theorem cutName_clock {clock : List Char} (hclock : clock ≠ [])
    (hspace : ∀ c ∈ clock, isWhitespace c = false) :
    (cutName (unwords (clock :: splitWhitespace name))).1 ≠ name := by
  have hwords : AreWords (clock :: splitWhitespace name) :=
    List.forall_mem_cons.mpr ⟨⟨hclock, hspace⟩, areWords_splitWhitespace name⟩
  intro hname
  rcases cutName_cases (unwords (clock :: splitWhitespace name)) with ⟨whole, -⟩ | ⟨b, hs, -⟩
  · rw [whole] at hname
    simp only at hname
    have read := splitWhitespace_unwords hwords
    rw [hname] at read
    simpa using congrArg List.length read
  · rw [hname] at hs
    obtain ⟨hsame, hbehind⟩ := cut_words hwords hs
    have lengths := congrArg List.length hsame
    rw [List.length_append, List.length_cons, List.length_cons] at lengths
    exact hbehind (List.length_eq_zero_iff.mp (by omega))

end Names

section Faithful

theorem entryType_permissions (f : ListedFile) : entryType f.permissions = f.kind.type := by
  cases hkind : f.kind with
  | device block major minor =>
    cases block <;> simp [entryType, ListedFile.permissions, FileKind.letter, FileKind.type, hkind]
  | _ => simp [entryType, ListedFile.permissions, FileKind.letter, FileKind.type, hkind]

theorem parseInt_sizeText {f : ListedFile} (h : f.Valid) : parseInt f.sizeText = f.size := by
  unfold ListedFile.sizeText
  split
  · next block major minor hkind =>
    rw [parseInt_major, h.device block major minor hkind]
    rfl
  · exact parseInt_repr h.size

/-- What an entry tells of a file but its name is right. -/
theorem shows_iff {f : ListedFile} (h : f.Valid) (hdots : f.isDots = false)
    (basePath modified name : List Char) :
    (∃ e, namedEntry basePath f.permissions f.owner f.group f.sizeText modified name = some e ∧
        Shows e f) ↔
      (cutName name).1 = f.name ∧ ((cutName name).2 ≠ [] → ∃ target, f.kind = .link target) := by
  have dots : f.name ≠ ['.'] ∧ f.name ≠ ['.', '.'] := by
    simpa [ListedFile.isDots] using hdots
  unfold namedEntry
  constructor
  · rintro ⟨e, he, hshows⟩
    split_ifs at he
    cases he
    have name := hshows.name
    have target := hshows.target
    simp only [String.toList_ofList, ne_eq] at name target
    refine ⟨name, fun hne => target ?_⟩
    intro hempty
    exact hne (by simpa using congrArg String.toList hempty)
  · rintro ⟨hname, htarget⟩
    have other : ¬(name = ['.'] ∨ name = ['.', '.']) := by
      rintro (rfl | rfl)
      · exact dots.1 hname.symm
      · exact dots.2 hname.symm
    rw [if_neg other]
    refine ⟨_, rfl, ?_, entryType_permissions f, parseInt_sizeText h, ?_, ?_, ?_⟩
    · rw [String.toList_ofList, hname]
    · rw [String.toList_ofList]
    · rw [String.toList_ofList]
    · intro hne
      refine htarget fun hnil => hne ?_
      simp only [hnil]

/-- No entry has a name that begins with white space. -/
theorem entry_begins {fields : List (List Char)} {basePath : List Char} {e : FileEntry}
    (hwords : AreWords fields) (h : entryOfFields fields basePath = some e) :
    ∃ c rest, e.name.toList = c :: rest ∧ isWhitespace c = false := by
  obtain ⟨start, hstart, permissions, owner, group, size, modified, hnamed⟩ :
      ∃ start, start < fields.length ∧ ∃ permissions owner group size modified,
        namedEntry basePath permissions owner group size modified (unwords (fields.drop start)) =
          some e := by
    by_cases hfew : fields.length < 7 ∨ field fields 0 = []
    · rw [entryOfFields, if_pos hfew] at h
      cases h
    rw [entryOfFields, if_neg hfew] at h
    simp only at h
    generalize (if (Automation.atoi (field fields 1)).isSome = true then 2 else 1) = owner at h
    split_ifs at h with hstart
    exact ⟨_, Nat.not_le.mp hstart, _, _, _, _, _, h⟩
  have some : fields.drop start ≠ [] := by
    rw [ne_eq, List.drop_eq_nil_iff]
    omega
  obtain ⟨c, rest, hbegins, hc⟩ :=
    unwords_begins (fun w hw => hwords w (List.mem_of_mem_drop hw)) some
  unfold namedEntry at hnamed
  split_ifs at hnamed
  cases hnamed
  simp only [String.toList_ofList]
  rcases cutName_cases (unwords (fields.drop start)) with ⟨whole, -⟩ | ⟨b, hs, -⟩
  · rw [whole]
    exact ⟨c, rest, hbegins, hc⟩
  · cases hname : (cutName (unwords (fields.drop start))).1 with
    | nil =>
      -- the first character would be the blank of the arrow
      rw [hname, hbegins] at hs
      rw [(List.cons.inj hs).1] at hc
      exact absurd hc (by decide)
    | cons e name =>
      rw [hname, hbegins] at hs
      rw [(List.cons.inj hs).1] at hc
      exact ⟨e, name, rfl, hc⟩

section Kinds

variable {f : ListedFile}

theorem link_plain_iff {target : List Char} (h : f.name ≠ []) (hkind : f.kind = .link target) :
    (cutName (unwords (f.nameFields (splitWhitespace f.shown)))).1 = f.name ↔ f.Plain := by
  have shown : f.shown = f.name ++ (arrow ++ target) := by simp [ListedFile.shown, hkind]
  have fields (ws : List (List Char)) : f.nameFields ws = ws := by
    simp [ListedFile.nameFields, hkind]
  have before : f.beforeTarget = f.name ++ arrow.dropLast := by
    simp [ListedFile.beforeTarget, hkind]
  have cut := @cutName_link_iff f.name target h
  rw [shown, fields, cut]
  constructor
  · rintro ⟨htidy, hfree, htarget⟩
    refine ⟨htidy, by rw [before]; exact hfree, ?_, ?_⟩
    · intro target' hkind'
      rw [hkind] at hkind'
      cases hkind'
      exact htarget
    · intro block major minor month day clock hkind'
      rw [hkind] at hkind'
      cases hkind'
  · intro hplain
    have hfree := hplain.arrow
    rw [before] at hfree
    exact ⟨hplain.tidy, hfree, hplain.target target hkind⟩

/-- What is not a link is shown by its name alone. -/
theorem shown_of_not_link (hlink : ¬∃ target, f.kind = .link target) :
    f.shown = f.name ∧ f.beforeTarget = f.name := by
  unfold ListedFile.shown ListedFile.beforeTarget
  cases hkind : f.kind with
  | link target => exact absurd ⟨target, hkind⟩ hlink
  | _ => exact ⟨rfl, rfl⟩

/-- The name of a device with its time in the GNU form is never read. -/
theorem device_unread {block : Bool} {major minor : Nat} {month day clock : List Char}
    (hcolumns : AreWords f.columns) (hkind : f.kind = .device block major minor)
    (hstamp : f.stamp = .gnu month day clock) :
    (cutName (unwords (f.nameFields (splitWhitespace f.shown)))).1 ≠ f.name ∧ ¬f.Plain := by
  have shown : f.shown = f.name := by simp [ListedFile.shown, hkind]
  have fields (ws : List (List Char)) : f.nameFields ws = clock :: ws := by
    simp [ListedFile.nameFields, hkind, hstamp]
  have column : clock ∈ f.columns := by simp [ListedFile.columns, hstamp, Stamp.columns]
  obtain ⟨hne, hspace⟩ := hcolumns clock column
  rw [shown, fields]
  exact ⟨cutName_clock hne hspace,
    fun hplain => hplain.device block major minor month day clock hkind hstamp⟩

theorem unlinked_plain_iff (h : f.name ≠ []) (hlink : ¬∃ target, f.kind = .link target)
    (hdevice : ¬∃ block major minor month day clock,
      f.kind = .device block major minor ∧ f.stamp = .gnu month day clock) :
    (cutName (unwords (f.nameFields (splitWhitespace f.shown)))).1 = f.name ∧
        (cutName (unwords (f.nameFields (splitWhitespace f.shown)))).2 = [] ↔ f.Plain := by
  obtain ⟨shown, before⟩ := shown_of_not_link hlink
  have fields (ws : List (List Char)) : f.nameFields ws = ws := by
    unfold ListedFile.nameFields
    split
    · next block major minor month day clock hkind hstamp =>
      exact absurd ⟨block, major, minor, month, day, clock, hkind, hstamp⟩ hdevice
    · rfl
  rw [shown, fields, cutName_plain_iff h]
  constructor
  · rintro ⟨htidy, hfree⟩
    refine ⟨htidy, by rw [before]; exact hfree, ?_, ?_⟩
    · intro target hkind
      exact absurd ⟨target, hkind⟩ hlink
    · intro block major minor month day clock hkind hstamp
      exact hdevice ⟨block, major, minor, month, day, clock, hkind, hstamp⟩
  · intro hplain
    have hfree := hplain.arrow
    rw [before] at hfree
    exact ⟨hplain.tidy, hfree⟩

end Kinds

/-- The entry of a line shows its file exactly when nothing keeps it from being read. -/
theorem entry_iff {f : ListedFile} (h : f.Valid) (hdots : f.isDots = false)
    (hcolumns : AreWords f.columns) (basePath : List Char) :
    (∃ e, entryOfFields (f.columns ++ splitWhitespace f.shown) basePath = some e ∧ Shows e f) ↔
      f.Plain := by
  by_cases hblank : splitWhitespace f.shown = []
  · -- the name is blank, and no entry has such a name
    have hlink : ¬∃ target, f.kind = .link target := by
      rintro ⟨target, hkind⟩
      have shown : f.shown = f.name ++ (arrow ++ target) := by simp [ListedFile.shown, hkind]
      rw [shown, splitWhitespace_arrow] at hblank
      simp at hblank
    rw [(shown_of_not_link hlink).1] at hblank ⊢
    constructor
    · rintro ⟨e, he, hshows⟩
      rw [hblank, List.append_nil] at he
      obtain ⟨c, rest, hname, hc⟩ := entry_begins hcolumns he
      rw [hshows.name] at hname
      have space := splitWhitespace_eq_nil_iff.mp hblank c (by rw [hname]; exact List.mem_cons_self)
      rw [hc] at space
      cases space
    · intro hplain
      have joined := (tidy_iff h.name).mpr hplain.tidy
      rw [hblank] at joined
      exact absurd joined.symm h.name
  · obtain ⟨modified, hentry⟩ := entry_of_file h hblank basePath
    rw [hentry, shows_iff h hdots]
    by_cases hlink : ∃ target, f.kind = .link target
    · obtain ⟨target, hkind⟩ := hlink
      rw [← link_plain_iff h.name hkind]
      exact ⟨fun hname => hname.1, fun hname => ⟨hname, fun _ => ⟨target, hkind⟩⟩⟩
    · by_cases hdevice : ∃ block major minor month day clock,
          f.kind = .device block major minor ∧ f.stamp = .gnu month day clock
      · obtain ⟨block, major, minor, month, day, clock, hkind, hstamp⟩ := hdevice
        obtain ⟨unread, unplain⟩ := device_unread hcolumns hkind hstamp
        exact ⟨fun h => absurd h.1 unread, fun hplain => absurd hplain unplain⟩
      · rw [← unlinked_plain_iff h.name hlink hdevice]
        constructor
        · rintro ⟨hname, htarget⟩
          refine ⟨hname, ?_⟩
          by_contra hne
          exact hlink (htarget hne)
        · rintro ⟨hname, uncut⟩
          exact ⟨hname, fun hne => absurd uncut hne⟩

/-- The directory itself and its parent have no entries. -/
theorem entry_dots {f : ListedFile} (h : f.Valid) (hdots : f.isDots = true)
    (basePath : List Char) :
    entryOfFields (f.columns ++ splitWhitespace f.shown) basePath = none := by
  have hkind := h.dots hdots
  have shown : f.shown = f.name := by simp [ListedFile.shown, hkind]
  have fields (ws : List (List Char)) : f.nameFields ws = ws := by
    simp [ListedFile.nameFields, hkind]
  have dots : f.name = ['.'] ∨ f.name = ['.', '.'] := by simpa [ListedFile.isDots] using hdots
  have word : splitWhitespace f.name = [f.name] := by
    refine splitWhitespace_single h.name ?_
    rcases dots with hname | hname <;> rw [hname] <;> simp [isWhitespace]
  obtain ⟨modified, hentry⟩ := @entry_of_file f h [f.name] (List.cons_ne_nil _ _) basePath
  rw [shown, word, hentry, fields, unwords_singleton, namedEntry, if_pos dots]

end Faithful

section Listing

variable (basePath : List Char)

/-- A line tells its file by its columns and the words behind them. -/
theorem readLine_text (line : ListedLine) : readLine basePath line.text =
    entryOfFields (line.file.columns ++ splitWhitespace line.file.shown) basePath := by
  have fields : splitWhitespace (trim line.text) =
      line.file.columns ++ splitWhitespace line.file.shown := by
    rw [splitWhitespace_trim, ListedLine.text, splitWhitespace_append (by decide), line.aligned]
  have other : ¬(trim line.text = [] ∨ "total ".toList <+: trim line.text) := by
    rintro (hempty | ⟨rest, htotal⟩)
    · have few := congrArg List.length fields
      rw [hempty] at few
      simp [ListedFile.columns, splitWhitespace] at few
    · -- the first column would be the word
      have spelled : trim line.text = "total".toList ++ ' ' :: rest := by
        rw [← htotal]
        rfl
      have word : splitWhitespace "total".toList = ["total".toList] := by decide
      rw [spelled, splitWhitespace_append (by decide), word] at fields
      have first : "total".toList = line.file.permissions := (List.cons.inj fields).1
      have letter : 't' = line.file.kind.letter := (List.cons.inj first).1
      cases hkind : line.file.kind with
      | device block major minor =>
        rw [hkind] at letter
        cases block <;> simp [FileKind.letter] at letter
      | _ =>
        rw [hkind] at letter
        exact absurd letter (by simp [FileKind.letter])
  rw [readLine]
  simp only [if_neg other]
  rw [parseFileEntry, fields]

theorem readLine_blocks (n : Nat) : readLine basePath (blocksLine n) = none := by
  have whole : trim (blocksLine n) = blocksLine n := by
    refine trim_eq_self ?_ ?_
    · have first : (blocksLine n).head? = some 't' := rfl
      rw [first]
      rintro c ⟨⟩
      decide
    · unfold blocksLine
      rw [List.getLast?_append_of_ne_nil _ (toList_repr_ne_nil n)]
      intro c hc
      exact (isAsciiDigit_spec (isAsciiDigit_repr (List.mem_of_getLast? hc))).1
  rw [readLine]
  simp only [whole]
  exact if_pos (Or.inr ⟨_, rfl⟩)

/-- How a line ends does not count. -/
theorem filterMap_readLine {ls ls' : List (List Char)} (h : List.Forall₂ SameButCr ls ls') :
    ls.filterMap (readLine basePath) = ls'.filterMap (readLine basePath) := by
  induction h with
  | nil => rfl
  | @cons line line' ls ls' hline _ ih =>
    have same : readLine basePath line = readLine basePath line' := by
      rw [readLine, readLine, hline.trim]
    rw [List.filterMap_cons, List.filterMap_cons, same, ih]

theorem parseFileListing_output (basePath : String) (total : Option Nat)
    (listing : List ListedLine) : parseFileListing basePath (listingOutput total listing) =
      listing.filterMap fun line =>
        entryOfFields (line.file.columns ++ splitWhitespace line.file.shown) basePath.toList := by
  have oneLine : ∀ line ∈ total.toList.map blocksLine ++ listing.map ListedLine.text,
      '\n' ∉ line := by
    intro line hline
    rcases List.mem_append.mp hline with hline | hline
    · obtain ⟨n, -, rfl⟩ := List.mem_map.mp hline
      unfold blocksLine
      rw [List.mem_append, not_or]
      refine ⟨by decide, fun hmem => ?_⟩
      exact absurd (isAsciiDigit_repr hmem) (by decide)
    · obtain ⟨line, -, rfl⟩ := List.mem_map.mp hline
      rw [ListedLine.text, List.mem_append, List.mem_cons, not_or, not_or]
      exact ⟨line.oneLine, by decide, line.valid.oneLine⟩
  have header : (total.toList.map blocksLine).filterMap (readLine basePath.toList) = [] := by
    rw [List.filterMap_map, List.filterMap_eq_nil_iff]
    exact fun n _ => readLine_blocks basePath.toList n
  have last : ([[]] : List (List Char)).filterMap (readLine basePath.toList) = [] := rfl
  have same := splitOn_replaceCrlf (listingOutput total listing).toList
  have printed : (listingOutput total listing).toList.splitOn '\n' =
      (total.toList.map blocksLine ++ listing.map ListedLine.text) ++ [[]] := by
    rw [listingOutput, String.toList_ofList, splitOn_printed oneLine]
  rw [printed] at same
  rw [parseFileListing, ← filterMap_readLine basePath.toList same, List.filterMap_append,
    List.filterMap_append, header, last, List.nil_append, List.append_nil, List.filterMap_map]
  exact List.filterMap_congr fun line _ => readLine_text basePath.toList line

/-- The listing is read back whole, in order, without the directory itself and its parent, exactly when
nothing keeps the entry of any other file from being read. -/
theorem listing_faithful_iff (basePath : String) (total : Option Nat) (listing : List ListedLine) :
    List.Forall₂ Shows (parseFileListing basePath (listingOutput total listing))
        ((listing.filter (fun line => !line.file.isDots)).map ListedLine.file) ↔
      ∀ line ∈ listing, line.file.isDots = false → line.file.Plain := by
  have read : parseFileListing basePath (listingOutput total listing) =
      (listing.filter (fun line => !line.file.isDots)).filterMap fun line =>
        entryOfFields (line.file.columns ++ splitWhitespace line.file.shown) basePath.toList := by
    rw [parseFileListing_output, List.filterMap_filter]
    apply List.filterMap_congr
    intro line _
    cases hdots : line.file.isDots with
    | true => simpa using entry_dots line.valid hdots basePath.toList
    | false => simp
  rw [read, forall₂_filterMap_iff]
  constructor
  · intro hall line hline hdots
    have columns : AreWords line.file.columns := line.aligned ▸ areWords_splitWhitespace line.front
    exact (entry_iff line.valid hdots columns basePath.toList).mp
      (hall line (List.mem_filter.mpr ⟨hline, by simp [hdots]⟩))
  · intro hall line hline
    obtain ⟨hmem, hfilter⟩ := List.mem_filter.mp hline
    have hdots : line.file.isDots = false := by simpa using hfilter
    have columns : AreWords line.file.columns := line.aligned ▸ areWords_splitWhitespace line.front
    exact (entry_iff line.valid hdots columns basePath.toList).mpr (hall line hmem hdots)

def spacedFile : ListedFile where
  kind := .regular
  mode := "rw-rw----".toList
  links := 1
  owner := "root".toList
  group := "sdcard_rw".toList
  size := 128
  stamp := .toybox "2026-08-23".toList "15:01".toList
  name := "a  b".toList

theorem valid_spacedFile : spacedFile.Valid where
  mode := by simp [spacedFile, isWhitespace]
  links := by simp [spacedFile]
  owner := by simp [spacedFile, isWhitespace]
  group := by simp [spacedFile, isWhitespace]
  size := by simp [spacedFile]
  device _ _ _ hkind := by cases hkind
  stamp := by
    refine ⟨⟨"2026".toList, "08".toList, "23".toList, ?_, ?_, ?_, rfl⟩,
      ⟨"15".toList, "01".toList, ?_, ?_, rfl⟩⟩
    all_goals simp [AreDigits, isAsciiDigit]
  name := by simp [spacedFile]
  oneLine := by decide
  dots h := absurd h (by decide)

/-- Two blanks in a name are one in its entry. -/
def spacedLine : ListedLine where
  file := spacedFile
  front := "-rw-rw---- 1 root sdcard_rw 128 2026-08-23 15:01".toList
  valid := valid_spacedFile
  aligned := by decide
  oneLine := by decide

theorem spaced_name_altered :
    (parseFileListing "/sdcard" (listingOutput none [spacedLine])).map FileEntry.name = ["a b"] ∧
      ¬List.Forall₂ Shows (parseFileListing "/sdcard" (listingOutput none [spacedLine]))
        [spacedFile] := by
  have names : (parseFileListing "/sdcard" (listingOutput none [spacedLine])).map FileEntry.name =
      ["a b"] := by decide
  refine ⟨names, fun h => ?_⟩
  obtain ⟨e, rest, hshows, hrest, hlisting⟩ := List.forall₂_cons_right_iff.mp h
  rw [hlisting, List.map_cons] at names
  have name := hshows.name
  rw [(List.cons.inj names).1] at name
  exact absurd name (by decide)

end Listing

end AdbControl.Server
