import AdbControl.Framework.Words
import AdbControl.Server.Packages

namespace AdbControl.Server

open Framework

/-- The line in which the device tells of a package. -/
def packageLine (info : PackageInfo) : List Char :=
  "package:".toList ++ (info.apkPath.toList ++ '=' :: (info.package.toList ++
    " versionCode:".toList ++ info.versionCode.repr.toList))

def packageOutput (packages : List PackageInfo) : String :=
  String.ofList (packages.flatMap fun info => packageLine info ++ ['\n'])

/-- A package as the device tells of it: its path is absolute and stands on one line, and there are
only letters, digits, underscores and dots in its name. -/
structure Installed (info : PackageInfo) : Prop where
  absolute : info.apkPath.toList.head? = some '/'
  oneLine : '\n' ∉ info.apkPath.toList
  name : ∀ c ∈ info.package.toList, isWordChar c = true ∨ c = '.'
  version : info.versionCode < 2^63

/-- A path that nothing in it keeps from being read: there is no equals sign in it, no white space at
its end, and nothing that looks like a version. -/
structure PlainPath (path : List Char) : Prop where
  equals : '=' ∉ path
  ending : ∀ c ∈ path.getLast?, isWhitespace c = false
  version : findVersion path = none

example : versionAt [] = none ∧ findVersion [] = none ∧ removeVersions 0 [] = [] := by
  rw [versionAt, findVersion, removeVersions]
  decide

section Version

/-- An equals sign is in no version, so that one that begins before it ends before it. -/
theorem versionAt_equals (xs ys : List Char) : versionAt (xs ++ '=' :: ys) =
    (versionAt xs).map fun found => (found.1, found.2 ++ '=' :: ys) := by
  have head : ((xs ++ '=' :: ys).head?.map isPatternSpace).getD false =
      (xs.head?.map isPatternSpace).getD false := by
    cases xs with
    | nil => rfl
    | cons x xs => rfl
  have digits (rest : List Char) :
      (rest ++ '=' :: ys).takeWhile isAsciiDigit = rest.takeWhile isAsciiDigit :=
    takeWhile_stop (by decide) rest ys
  rw [versionAt, versionAt, head, dropWhile_stop rfl, dropPrefix?_stop (by decide)]
  split_ifs
  · cases (xs.dropWhile isPatternSpace).dropPrefix? "versionCode:".toList with
    | none => rfl
    | some rest =>
      simp only [Option.map_some, digits]
      split_ifs
      · rfl
      · rw [List.drop_append_of_le_length (List.takeWhile_prefix _).length_le]
        rfl
  · rfl

theorem versionAt_of_not_space {c : Char} (h : isPatternSpace c = false) (rest : List Char) :
    versionAt (c :: rest) = none := by
  simp [versionAt, h]

/-- What is behind a version is shorter than the text that begins with it. -/
theorem versionAt_length {c : Char} {rest digits behind : List Char}
    (h : versionAt (c :: rest) = some (digits, behind)) : behind.length ≤ rest.length := by
  have space : isPatternSpace c = true := by
    by_contra hc
    rw [versionAt_of_not_space (by simpa using hc)] at h
    cases h
  rw [versionAt, if_pos (by simpa using space), List.dropWhile_cons_of_pos space] at h
  cases hdrop : (rest.dropWhile isPatternSpace).dropPrefix? "versionCode:".toList with
  | none =>
    rw [hdrop] at h
    cases h
  | some left =>
    rw [hdrop] at h
    simp only at h
    split_ifs at h
    cases h
    obtain ⟨label, hlabel, -⟩ := List.dropPrefix?_eq_some_iff.mp hdrop
    have shorter := (List.dropWhile_suffix (l := rest) isPatternSpace).length_le
    rw [hlabel, List.length_append] at shorter
    rw [List.length_drop]
    omega

theorem findVersion_equals (xs ys : List Char) :
    findVersion (xs ++ '=' :: ys) = (findVersion xs).or (findVersion ys) := by
  induction xs with
  | nil =>
    have here := versionAt_of_not_space (show isPatternSpace '=' = false from rfl) ys
    simp only [List.nil_append, findVersion, here, Option.none_or]
  | cons c xs ih =>
    have here := versionAt_equals (c :: xs) ys
    rw [List.cons_append] at here ⊢
    rw [findVersion, findVersion, here]
    cases versionAt (c :: xs) with
    | none => exact ih
    | some found => rfl

theorem removeVersions_equals {inside : Nat} (xs ys : List Char) (h : inside ≤ xs.length) :
    removeVersions inside (xs ++ '=' :: ys) = removeVersions inside xs ++ '=' :: removeVersions 0 ys := by
  induction xs generalizing inside with
  | nil =>
    rw [List.length_nil, Nat.le_zero] at h
    have here := versionAt_of_not_space (show isPatternSpace '=' = false from rfl) ys
    simp only [h, List.nil_append, removeVersions, here]
  | cons c xs ih =>
    cases inside with
    | succ inside => exact ih (by simpa using h)
    | zero =>
      have here := versionAt_equals (c :: xs) ys
      rw [List.cons_append] at here ⊢
      rw [removeVersions, removeVersions, here]
      cases hfound : versionAt (c :: xs) with
      | none => simp only [Option.map_none, ih (Nat.zero_le _), List.cons_append]
      | some found =>
        obtain ⟨digits, behind⟩ := found
        have shorter := versionAt_length hfound
        have skipped : (xs ++ '=' :: ys).length - (behind ++ '=' :: ys).length =
            xs.length - behind.length := by
          rw [List.length_append, List.length_append]
          omega
        simp only [Option.map_some, skipped]
        exact ih (Nat.sub_le _ _)

theorem length_removeVersions_le (inside : Nat) (xs : List Char) :
    (removeVersions inside xs).length ≤ xs.length := by
  induction xs generalizing inside with
  | nil => cases inside <;> exact Nat.le_refl 0
  | cons c xs ih =>
    cases inside with
    | succ inside => exact (ih inside).trans (Nat.le_succ _)
    | zero =>
      rw [removeVersions]
      split
      · exact (ih _).trans (Nat.le_succ _)
      · exact Nat.succ_le_succ (ih 0)

/-- Removing the versions leaves a text as long as it was only if there is none in it. -/
theorem findVersion_of_length {xs : List Char} (h : xs.length ≤ (removeVersions 0 xs).length) :
    findVersion xs = none ∧ removeVersions 0 xs = xs := by
  induction xs with
  | nil => exact ⟨rfl, rfl⟩
  | cons c xs ih =>
    rw [removeVersions] at h ⊢
    rw [findVersion]
    cases hfound : versionAt (c :: xs) with
    | none =>
      rw [hfound] at h
      obtain ⟨hnone, hsame⟩ := ih (by simpa using h)
      exact ⟨hnone, by simp only [hsame]⟩
    | some found =>
      rw [hfound] at h
      have shorter := length_removeVersions_le (xs.length - found.2.length) xs
      rw [List.length_cons] at h
      exact absurd (h.trans shorter) (by omega)

theorem removeVersions_of_none {xs : List Char} (h : findVersion xs = none) :
    removeVersions 0 xs = xs := by
  induction xs with
  | nil => rfl
  | cons c xs ih =>
    rw [findVersion] at h
    rw [removeVersions]
    cases hfound : versionAt (c :: xs) with
    | none =>
      rw [hfound] at h
      simp only [ih h]
    | some found =>
      rw [hfound] at h
      cases h

/-- A text without white space is in front of any version. -/
theorem versions_behind {name : List Char} (h : ∀ c ∈ name, isPatternSpace c = false)
    (rest : List Char) : findVersion (name ++ rest) = findVersion rest ∧
      removeVersions 0 (name ++ rest) = name ++ removeVersions 0 rest := by
  induction name with
  | nil => exact ⟨rfl, rfl⟩
  | cons c name ih =>
    obtain ⟨hc, hname⟩ := List.forall_mem_cons.mp h
    have here := versionAt_of_not_space hc (name ++ rest)
    rw [List.cons_append, findVersion, removeVersions, here]
    exact ⟨(ih hname).1, by simp only [(ih hname).2, List.cons_append]⟩

theorem removeVersions_inside (xs : List Char) : removeVersions xs.length xs = [] := by
  induction xs with
  | nil => rfl
  | cons c xs ih => exact ih

/-- The version that the device prints last is found, and taken away. -/
theorem versions_printed (n : Nat) :
    findVersion (" versionCode:".toList ++ n.repr.toList) = some n.repr.toList ∧
      removeVersions 0 (" versionCode:".toList ++ n.repr.toList) = [] := by
  have digits : n.repr.toList.takeWhile isAsciiDigit = n.repr.toList :=
    List.takeWhile_eq_self_iff.mpr fun c hc => isAsciiDigit_repr hc
  have here : versionAt (' ' :: ("versionCode:".toList ++ n.repr.toList)) =
      some (n.repr.toList, []) := by
    have label : (' ' :: ("versionCode:".toList ++ n.repr.toList)).dropWhile isPatternSpace =
        "versionCode:".toList ++ n.repr.toList := rfl
    have rest : ("versionCode:".toList ++ n.repr.toList).dropPrefix? "versionCode:".toList =
        some n.repr.toList := dropPrefix?_self _ _
    have space : ((' ' :: ("versionCode:".toList ++ n.repr.toList)).head?.map isPatternSpace).getD
        false = true := rfl
    rw [versionAt, if_pos space, label, rest]
    simp only [digits, if_neg (toList_repr_ne_nil n), List.drop_length]
  have spelled : " versionCode:".toList ++ n.repr.toList =
      ' ' :: ("versionCode:".toList ++ n.repr.toList) := rfl
  rw [spelled, findVersion, removeVersions, here]
  exact ⟨rfl, removeVersions_inside _⟩

end Version

section Line

theorem isNameChar_spec {c : Char} (h : isWordChar c = true ∨ c = '.') :
    isWhitespace c = false ∧ isPatternSpace c = false ∧ c ≠ '=' ∧ c ≠ '\n' := by
  have hc : (65 ≤ c.toNat ∧ c.toNat ≤ 90) ∨ (97 ≤ c.toNat ∧ c.toNat ≤ 122) ∨
      (48 ≤ c.toNat ∧ c.toNat ≤ 57) ∨ c.toNat = 95 ∨ c.toNat = 46 := by
    rcases h with h | rfl
    · simp only [isWordChar, isAsciiDigit, Char.isAlpha, Char.isUpper, Char.isLower,
        Bool.or_eq_true, Bool.and_eq_true, decide_eq_true_eq,
        UInt32.le_iff_toNat_le] at h
      rcases h with ((h | h) | h) | rfl
      · exact Or.inl h
      · exact Or.inr (Or.inl h)
      · exact Or.inr (Or.inr (Or.inl h))
      · decide
    · decide
  refine ⟨isWhitespace_ascii (by omega) (by omega), ?_, ?_, ?_⟩
  · simp only [isPatternSpace, Bool.or_eq_false_iff, decide_eq_false_iff_not]
    refine ⟨⟨⟨⟨?_, ?_⟩, ?_⟩, ?_⟩, ?_⟩
    all_goals
      rintro rfl
      revert hc
      decide
  · rintro rfl
    revert hc
    decide
  · rintro rfl
    revert hc
    decide

/-- The digits at the end of the line are not white space. -/
theorem packageLine_ends (info : PackageInfo) :
    ∃ body c, packageLine info = body ++ [c] ∧ isWhitespace c = false := by
  obtain ⟨digits, last, hdigits⟩ :=
    (List.eq_nil_or_concat info.versionCode.repr.toList).resolve_left (toList_repr_ne_nil _)
  have hlast : isAsciiDigit last = true :=
    isAsciiDigit_repr (n := info.versionCode) (by rw [hdigits]; simp)
  refine ⟨"package:".toList ++ (info.apkPath.toList ++ '=' :: (info.package.toList ++
    " versionCode:".toList ++ digits)), last, ?_, ?_⟩
  · unfold packageLine
    simp only [hdigits, List.concat_eq_append, List.append_assoc, List.cons_append]
  · exact (isNameChar_spec (Or.inl (by simp [isWordChar, hlast]))).1

theorem parseVersion_repr {n : Nat} (hn : n < 2^63) : parseVersion n.repr.toList = n := by
  rw [parseVersion, foldl_repr]
  omega

/-- A text without white space is its only word. -/
theorem splitWhitespace_word {word : List Char} (hword : ∀ c ∈ word, isWhitespace c = false) :
    (splitWhitespace word).head?.getD word = word := by
  cases word with
  | nil => rfl
  | cons c word =>
    rw [splitWhitespace_single (List.cons_ne_nil _ _) hword]
    rfl

/-- What is kept of a path is as long as the path only if the path is plain. -/
theorem plainPath_of_length {path : List Char} (hlength : path.length ≤
    (trim ((removeVersions 0 path).takeWhile (fun c => c != '='))).length) : PlainPath path := by
  have trimmed := length_trim_le ((removeVersions 0 path).takeWhile (fun c => c != '='))
  have taken := (List.takeWhile_prefix (l := removeVersions 0 path) (fun c => c != '=')).length_le
  obtain ⟨version, same⟩ := findVersion_of_length (hlength.trans (trimmed.trans taken))
  rw [same] at hlength trimmed
  have whole : path.takeWhile (fun c => c != '=') = path :=
    (List.takeWhile_prefix _).eq_of_length_le (hlength.trans trimmed)
  rw [whole, trim] at hlength
  have last := List.rdropWhile_prefix isWhitespace (path.dropWhile isWhitespace)
  have first : path.dropWhile isWhitespace = path :=
    (List.dropWhile_suffix _).eq_of_length_le (hlength.trans last.length_le)
  rw [first] at hlength last
  have ending := List.rdropWhile_eq_self_iff.mp (last.eq_of_length_le hlength)
  refine ⟨?_, ?_, version⟩
  · intro hmem
    simpa using List.takeWhile_eq_self_iff.mp whole '=' hmem
  · intro c hc
    obtain ⟨hne, rfl⟩ := List.mem_getLast?_eq_getLast hc
    simpa using ending hne

theorem trim_packageLine (info : PackageInfo) :
    trim (packageLine info) = packageLine info ∧ packageLine info ≠ [] := by
  obtain ⟨body, c, hends, hc⟩ := packageLine_ends info
  have first : (packageLine info).head? = some 'p' := rfl
  refine ⟨trim_eq_self ?_ ?_, ?_⟩
  · rw [first]
    rintro c ⟨⟩
    decide
  · rw [hends, List.getLast?_concat]
    rintro c ⟨⟩
    exact hc
  · rw [hends]
    simp

variable {info : PackageInfo} (h : Installed info)
include h

theorem Installed.name_spaces :
    (∀ c ∈ info.package.toList, isPatternSpace c = false) ∧
      ∀ c ∈ info.package.toList, isWhitespace c = false :=
  ⟨fun c hc => (isNameChar_spec (h.name c hc)).2.1, fun c hc => (isNameChar_spec (h.name c hc)).1⟩

theorem packageLine_oneLine : '\n' ∉ packageLine info := by
  have digits : '\n' ∉ info.versionCode.repr.toList := by
    intro hmem
    exact absurd (isAsciiDigit_repr hmem) (by decide)
  have name : '\n' ∉ info.package.toList := by
    intro hmem
    exact (isNameChar_spec (h.name _ hmem)).2.2.2 rfl
  unfold packageLine
  simp only [List.mem_append, List.mem_cons, not_or]
  exact ⟨by decide, h.oneLine, by decide, ⟨name, by decide⟩, digits⟩

/-- What is read of the line before the name is looked at. -/
theorem parsePackageLine_printed : parsePackageLine (packageLine info) =
    let left := removeVersions 0 info.apkPath.toList
    let version := (findVersion info.apkPath.toList).getD info.versionCode.repr.toList
    let found := (cutEquals (left ++ '=' :: info.package.toList)).getD ([], left)
    let packageName := (splitWhitespace (trim found.2)).head?.getD (trim found.2)
    if isPackageName packageName then
      some ⟨String.ofList packageName, String.ofList (trim found.1), parseVersion version⟩
    else none := by
  have behind := versions_behind h.name_spaces.1
    (" versionCode:".toList ++ info.versionCode.repr.toList)
  have printed := versions_printed info.versionCode
  rw [printed.1, printed.2, List.append_nil] at behind
  have dropped : (packageLine info).dropPrefix? "package:".toList =
      some (info.apkPath.toList ++ '=' :: (info.package.toList ++
        (" versionCode:".toList ++ info.versionCode.repr.toList))) := by
    unfold packageLine
    rw [List.append_assoc info.package.toList]
    exact dropPrefix?_self _ _
  have version := findVersion_equals info.apkPath.toList
    (info.package.toList ++ (" versionCode:".toList ++ info.versionCode.repr.toList))
  have left := removeVersions_equals info.apkPath.toList
    (info.package.toList ++ (" versionCode:".toList ++ info.versionCode.repr.toList)) (Nat.zero_le _)
  rw [behind.1] at version
  rw [behind.2] at left
  have found : (findVersion info.apkPath.toList).or (some info.versionCode.repr.toList) =
      some ((findVersion info.apkPath.toList).getD info.versionCode.repr.toList) := by
    cases findVersion info.apkPath.toList with
    | none => rfl
    | some digits => rfl
  have cut : '=' ∈ removeVersions 0 info.apkPath.toList ++ '=' :: info.package.toList := by simp
  simp only [parsePackageLine, dropped, Option.getD_some, version, left, found, Option.isSome_some,
    if_true, Option.map_some, cutEquals, if_pos cut]

theorem parsePackageLine_iff :
    parsePackageLine (packageLine info) = some info ↔
      PlainPath info.apkPath.toList ∧ isPackageName info.package.toList = true := by
  have absolute : ∀ c ∈ info.apkPath.toList.head?, isWhitespace c = false := by
    rw [h.absolute]
    rintro c ⟨⟩
    decide
  have name : trim info.package.toList = info.package.toList :=
    trim_eq_self (fun c hc => h.name_spaces.2 c (List.mem_of_mem_head? hc))
      (fun c hc => h.name_spaces.2 c (List.mem_of_mem_getLast? hc))
  have word := splitWhitespace_word h.name_spaces.2
  have cut : '=' ∈ removeVersions 0 info.apkPath.toList ++ '=' :: info.package.toList := by simp
  rw [parsePackageLine_printed h]
  simp only [cutEquals, if_pos cut, Option.getD_some]
  rw [takeWhile_stop (by rfl)]
  constructor
  · intro hparsed
    split_ifs at hparsed with hname
    have parsed := Option.some.inj hparsed
    have path : trim ((removeVersions 0 info.apkPath.toList).takeWhile (fun c => c != '=')) =
        info.apkPath.toList := by
      simpa using congrArg (fun i => i.apkPath.toList) parsed
    have plain : PlainPath info.apkPath.toList := plainPath_of_length (by rw [path])
    have packageName := congrArg (fun i => i.package.toList) parsed
    simp only [String.toList_ofList] at packageName
    rw [packageName] at hname
    exact ⟨plain, hname⟩
  · rintro ⟨plain, hname⟩
    have whole : info.apkPath.toList.takeWhile (fun c => c != '=') = info.apkPath.toList := by
      rw [List.takeWhile_eq_self_iff]
      intro c hc
      simpa using fun heq : c = '=' => plain.equals (heq ▸ hc)
    have rest : info.apkPath.toList.dropWhile (fun c => c != '=') = [] := by
      rw [List.dropWhile_eq_nil_iff]
      exact List.takeWhile_eq_self_iff.mp whole
    have path : trim info.apkPath.toList = info.apkPath.toList := trim_eq_self absolute plain.ending
    rw [removeVersions_of_none plain.version, plain.version, Option.getD_none, dropWhile_stop (by rfl),
      whole, rest, path, List.nil_append, List.tail_cons, name, word, if_pos hname,
      parseVersion_repr h.version, String.ofList_toList, String.ofList_toList]

end Line

section Listing

/-- The listing is read back whole exactly when nothing in any path keeps it from being read, and every
name has a dot between its parts. -/
theorem package_listing_iff {packages : List PackageInfo}
    (h : ∀ info ∈ packages, Installed info) :
    parsePackageList (packageOutput packages) = packages ↔
      ∀ info ∈ packages, PlainPath info.apkPath.toList ∧ isPackageName info.package.toList = true := by
  have printed : (packageOutput packages).toList =
      (packages.map packageLine).flatMap (fun line => line ++ ['\n']) := by
    rw [packageOutput, String.toList_ofList, List.flatMap_map]
  have oneLine : ∀ line ∈ packages.map packageLine, '\n' ∉ line := by
    intro line hline
    obtain ⟨info, hinfo, rfl⟩ := List.mem_map.mp hline
    exact packageLine_oneLine (h info hinfo)
  have ends : ∀ line ∈ packages.map packageLine, line.getLast? ≠ some '\r' := by
    intro line hline
    obtain ⟨info, -, rfl⟩ := List.mem_map.mp hline
    obtain ⟨body, c, hends, hc⟩ := packageLine_ends info
    rw [hends, List.getLast?_concat]
    rintro ⟨⟩
    exact absurd hc (by decide)
  have read : parsePackageList (packageOutput packages) =
      packages.filterMap (fun info => parsePackageLine (packageLine info)) := by
    rw [parsePackageList, printed, splitOn_replaceCrlf_printed oneLine ends, List.filterMap_append,
      List.filterMap_map]
    have last : ([[]] : List (List Char)).filterMap (fun line =>
        let line := trim line
        if line = [] then none else parsePackageLine line) = [] := rfl
    rw [last, List.append_nil]
    apply List.filterMap_congr
    intro info _
    obtain ⟨trimmed, hne⟩ := trim_packageLine info
    simp only [Function.comp_apply, trimmed, if_neg hne]
  have whole := filterMap_eq_map_iff (f := fun info => parsePackageLine (packageLine info))
    (g := fun info => info) (l := packages)
  rw [List.map_id'] at whole
  rw [read, whole]
  constructor
  · intro hall info hinfo
    exact (parsePackageLine_iff (h info hinfo)).mp (hall info hinfo)
  · intro hall info hinfo
    exact (parsePackageLine_iff (h info hinfo)).mpr (hall info hinfo)

/-- A package as Android 8 lists it, its path without an equals sign. -/
def listedBefore : PackageInfo := ⟨"org.example.app", "/data/app/org.example.app-1/base.apk", 12⟩

/-- The same package as Android 11 and later list it. -/
def listedSince : PackageInfo :=
  ⟨"org.example.app", "/data/app/~~Qm9i==/org.example.app-QWxp==/base.apk", 12⟩

theorem installed_listedBefore : Installed listedBefore where
  absolute := by decide
  oneLine := by simp [listedBefore]
  name := by simp [listedBefore, isWordChar]
  version := by simp [listedBefore]

theorem installed_listedSince : Installed listedSince where
  absolute := by decide
  oneLine := by simp [listedSince]
  name := by simp [listedSince, isWordChar]
  version := by simp [listedSince]

theorem package_listing_before : parsePackageList (packageOutput [listedBefore]) = [listedBefore] ↔
    ∀ info ∈ [listedBefore],
      PlainPath info.apkPath.toList ∧ isPackageName info.package.toList = true :=
  package_listing_iff (by simpa using installed_listedBefore)

/-- The path is cut at the padding of its first directory, and the package is not in the list. -/
theorem package_listing_since : Installed listedSince ∧
    isPackageName listedSince.package.toList = true ∧
    parsePackageList (packageOutput [listedSince]) = [] :=
  ⟨installed_listedSince, by decide, by decide⟩

end Listing

end AdbControl.Server
