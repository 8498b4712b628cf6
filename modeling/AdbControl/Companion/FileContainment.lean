import AdbControl.Companion.FileSandbox

namespace AdbControl.Companion

open Framework

/-- `canonicalFile`, where it returns, is the path below the root in normal form. -/
structure SandboxPaths.Lexical (paths : SandboxPaths) (root : List (List Char)) : Prop where
  names : ∀ name ∈ root, IsName name
  rootPath : paths.root = String.ofList (rooted root)
  canonical : ∀ rawPath file, paths.canonical rawPath = .ok file →
    file = String.ofList (rooted (resolve root (pathNames rawPath.toList)))

/-- The file is the root or below it, name by name. -/
def Below (root : List (List Char)) (file : String) : Prop :=
  ∃ names, (∀ name ∈ names, IsName name) ∧ root <+: names ∧ file = String.ofList (rooted names)

/-- The root and what it is in are directories. -/
def RootExists (files : SandboxFiles) (root : List (List Char)) : Prop :=
  ∀ directory, directory <+: root → files (String.ofList (rooted directory)) = some .directory

namespace FileSandboxFeatureHandler

/-- What a path cannot do to the files outside the root. -/
structure Confined (paths : SandboxPaths) (root : List (List Char))
    (context : CompanionCommandContext) (files : SandboxFiles) : Prop where
  accepted : ∀ file, resolveSandboxFile paths context = .ok (some file) → Below root file
  reads : ∀ others : SandboxFiles, (∀ file, Below root file → others file = files file) →
    readText paths context others = readText paths context files
  changes : ∀ file, (handle paths context files).2 file ≠ files file → Below root file
  refused : (∀ file, resolveSandboxFile paths context ≠ .ok (some file)) →
    handle paths context files = (.ok (invalidPath context.requestId), files)

variable {paths : SandboxPaths} {root names : List (List Char)} {context : CompanionCommandContext}
  {files : SandboxFiles} {file rawPath : String}

theorem isName_of_mem_resolve (hroot : ∀ name ∈ root, IsName name) {path : List Char} :
    ∀ name ∈ resolve root (pathNames path), IsName name := by
  intro name hname
  rcases mem_resolve hname with hmem | ⟨hmem, hparent⟩
  · exact hroot name hmem
  · obtain ⟨slash, hne, hdot⟩ := mem_pathNames hmem
    exact ⟨slash, hne, hdot, hparent⟩

/-- An accepted path leads into the root, or into an entry beside it whose name goes on. -/
theorem resolveSandboxFile_iff (lexical : paths.Lexical root)
    (hpath : context.stringArg "path" = some rawPath) (hfile : paths.canonical rawPath = .ok file) :
    resolveSandboxFile paths context = .ok (some file) ↔
      root <+: resolve root (pathNames rawPath.toList) ∨
        Continues root (resolve root (pathNames rawPath.toList)) := by
  have starts : startsWith file paths.root = true ↔
      rooted root <+: rooted (resolve root (pathNames rawPath.toList)) := by
    rw [startsWith, List.isPrefixOf_iff_prefix, lexical.rootPath,
      lexical.canonical rawPath file hfile, String.toList_ofList, String.toList_ofList]
  rw [← rooted_prefix_iff (isName_of_mem_resolve lexical.names) lexical.names, ← starts]
  simp only [resolveSandboxFile, hpath, hfile, bind, Except.bind, pure, Except.pure]
  split_ifs with hstarts <;> simp [hstarts]

/-- The file that is accepted is the canonical one of the path. -/
theorem canonical_of_accepted (h : resolveSandboxFile paths context = .ok (some file)) :
    ∃ rawPath, context.stringArg "path" = some rawPath ∧ paths.canonical rawPath = .ok file := by
  unfold resolveSandboxFile at h
  cases hpath : context.stringArg "path" with
  | none =>
    rw [hpath] at h
    cases h
  | some rawPath =>
    cases hfile : paths.canonical rawPath with
    | error t =>
      simp only [hpath, hfile, bind, Except.bind] at h
      cases h
    | ok candidate =>
      simp only [hpath, hfile, bind, Except.bind, pure, Except.pure] at h
      split_ifs at h
      · cases h
        exact ⟨rawPath, rfl, hfile⟩
      · cases h

/-- Directories are made below the root only: what the root is in exists. -/
theorem mkdirs_changes (present : RootExists files root) (hnames : ∀ name ∈ names, IsName name)
    (along : names.reverse <+: root ∨ root <+: names.reverse)
    (h : mkdirs paths files names file ≠ files file) : Below root file := by
  induction names with
  | nil => exact (h rfl).elim
  | cons name above ih =>
    simp only [mkdirs] at h
    split_ifs at h with hexists hmade
    · exact (h rfl).elim
    all_goals
      have hinside : root <+: above.reverse := by
        rw [List.reverse_cons] at along hexists
        rcases along with hout | hin
        · rw [present _ hout] at hexists
          exact (hexists (Option.some_ne_none _)).elim
        · rcases List.prefix_concat_iff.mp hin with rfl | hin
          · rw [present _ List.prefix_rfl] at hexists
            exact (hexists (Option.some_ne_none _)).elim
          · exact hin
      have habove := ih (List.forall_mem_cons.mp hnames).2 (Or.inr hinside)
    · by_cases hfile : file = String.ofList (rooted (name :: above).reverse)
      · refine ⟨(name :: above).reverse, ?_, ?_, hfile⟩
        · intro other hother
          exact hnames other (List.mem_reverse.mp hother)
        · rw [List.reverse_cons]
          exact hinside.trans (List.prefix_append _ _)
      · rw [Function.update_of_ne hfile] at h
        exact habove h
    · exact habove h

theorem makeParents_changes {changed : String} (present : RootExists files root)
    (hfile : Below root file) (h : makeParents paths files file changed ≠ files changed) :
    Below root changed := by
  obtain ⟨names, hnames, hinside, rfl⟩ := hfile
  rw [makeParents, String.toList_ofList, pathNames_rooted hnames, List.tail_reverse] at h
  refine mkdirs_changes present ?_ ?_ h
  · intro name hname
    exact hnames name (List.mem_of_mem_dropLast (List.mem_reverse.mp hname))
  · rw [List.reverse_reverse]
    rcases List.eq_nil_or_concat' names with rfl | ⟨parent, last, rfl⟩
    · exact Or.inl List.nil_prefix
    · rw [List.dropLast_concat]
      rcases List.prefix_concat_iff.mp hinside with rfl | hin
      · exact Or.inl (List.prefix_append _ _)
      · exact Or.inr hin

theorem handle_changes {changed : String} (present : RootExists files root)
    (accepted : ∀ file, resolveSandboxFile paths context = .ok (some file) → Below root file)
    (h : (handle paths context files).2 changed ≠ files changed) : Below root changed := by
  unfold handle at h
  split_ifs at h
  · exact (h rfl).elim
  · unfold writeText at h
    cases hresolve : resolveSandboxFile paths context with
    | error t =>
      rw [hresolve] at h
      exact (h rfl).elim
    | ok found =>
      rw [hresolve] at h
      cases found with
      | none => exact (h rfl).elim
      | some file =>
        have hfile := accepted file hresolve
        have made : makeParents paths files file changed ≠ files changed → Below root changed :=
          makeParents_changes present hfile
        simp only at h
        split at h
        · exact (h rfl).elim
        · split_ifs at h
          · exact made h
          · split at h
            · exact made h
            · by_cases hchanged : changed = file
              · rw [hchanged]
                exact hfile
              · simp only [Function.update_of_ne hchanged] at h
                exact made h
  · exact (h rfl).elim

/-- The text of an accepted file is read, and no other entry is looked at. -/
theorem readText_congr {others : SandboxFiles}
    (h : ∀ file, resolveSandboxFile paths context = .ok (some file) → others file = files file) :
    readText paths context others = readText paths context files := by
  unfold readText
  cases hresolve : resolveSandboxFile paths context with
  | error t => rfl
  | ok found =>
    cases found with
    | none => rfl
    | some file =>
      simp only [bind, Except.bind]
      rw [h file hresolve]

/-- What `handle` answers when no file is accepted -/
theorem handle_unaccepted (operation : context.operation = "file.read" ∨ context.operation = "file.write")
    (h : ∀ file, resolveSandboxFile paths context ≠ .ok (some file)) :
    handle paths context files = (match resolveSandboxFile paths context with
      | .error t => .error t
      | .ok _ => .ok (invalidPath context.requestId), files) := by
  have apart : ("file.write" : String) ≠ "file.read" := by decide
  cases hresolve : resolveSandboxFile paths context with
  | error t =>
    rcases operation with hread | hwrite
    · rw [handle, if_pos hread, readText, hresolve]
      rfl
    · rw [handle, hwrite, if_neg apart, if_pos rfl, writeText, hresolve]
  | ok found =>
    cases found with
    | some file => exact (h file hresolve).elim
    | none =>
      rcases operation with hread | hwrite
      · rw [handle, if_pos hread, readText, hresolve]
        rfl
      · rw [handle, hwrite, if_neg apart, if_pos rfl, writeText, hresolve]

theorem resolveSandboxFile_error {t : Throwable} :
    resolveSandboxFile paths context = .error t ↔
      ∃ rawPath, context.stringArg "path" = some rawPath ∧ paths.canonical rawPath = .error t := by
  unfold resolveSandboxFile
  cases hpath : context.stringArg "path" with
  | none => simp
  | some rawPath =>
    cases hfile : paths.canonical rawPath <;>
      simp [bind, Except.bind, pure, Except.pure, hfile]

/-- A path is confined to the sandbox exactly when `canonicalFile` returns and the path does not
lead into an entry beside the root whose name begins with the root's and goes on. -/
theorem confined_iff (lexical : paths.Lexical root) (present : RootExists files root)
    (operation : context.operation = "file.read" ∨ context.operation = "file.write") :
    Confined paths root context files ↔ ∀ rawPath, context.stringArg "path" = some rawPath →
      (∃ file, paths.canonical rawPath = .ok file) ∧
        ¬Continues root (resolve root (pathNames rawPath.toList)) := by
  constructor
  · intro confined rawPath hpath
    cases hfile : paths.canonical rawPath with
    | error t =>
      have hthrows := resolveSandboxFile_error.mpr ⟨rawPath, hpath, hfile⟩
      have hnone : ∀ file, resolveSandboxFile paths context ≠ .ok (some file) := by
        rw [hthrows]
        nofun
      have hanswer := confined.refused hnone
      rw [handle_unaccepted operation hnone, hthrows] at hanswer
      cases hanswer
    | ok file =>
      refine ⟨⟨file, rfl⟩, ?_⟩
      intro hcontinues
      obtain ⟨names, hnames, hinside, hbelow⟩ := confined.accepted file
        ((resolveSandboxFile_iff lexical hpath hfile).mpr (Or.inr hcontinues))
      have same := (lexical.canonical rawPath file hfile).symm.trans hbelow
      rw [String.ofList_inj, rooted_injective (isName_of_mem_resolve lexical.names) hnames] at same
      exact hcontinues.not_prefix (same ▸ hinside)
  · intro h
    have accepted : ∀ file, resolveSandboxFile paths context = .ok (some file) → Below root file := by
      intro file hresolve
      obtain ⟨rawPath, hpath, hfile⟩ := canonical_of_accepted hresolve
      refine ⟨_, isName_of_mem_resolve lexical.names, ?_, lexical.canonical rawPath file hfile⟩
      exact ((resolveSandboxFile_iff lexical hpath hfile).mp hresolve).resolve_right
        (h rawPath hpath).2
    refine ⟨accepted, ?_, ?_, ?_⟩
    · intro others hsame
      exact readText_congr fun file hresolve => hsame file (accepted file hresolve)
    · intro changed hchanged
      exact handle_changes present accepted hchanged
    · intro hnone
      rw [handle_unaccepted operation hnone]
      cases hresolve : resolveSandboxFile paths context with
      | error t =>
        obtain ⟨rawPath, hpath, hthrows⟩ := resolveSandboxFile_error.mp hresolve
        obtain ⟨⟨file, hfile⟩, -⟩ := h rawPath hpath
        rw [hthrows] at hfile
        cases hfile
      | ok found => rfl

section

def filesDir : List (List Char) :=
  ["data", "user", "0", "com.adbcontrol.companion", "files"].map String.toList

/-- The files of the app on a device without symbolic links -/
def deviceSandbox : SandboxPaths where
  root := "/data/user/0/com.adbcontrol.companion/files"
  canonical := fun rawPath =>
    if Char.ofNat 0 ∈ rawPath.toList then
      .error ⟨.checked, "IOException", some "Invalid file path"⟩
    else .ok (String.ofList (rooted (resolve filesDir (pathNames rawPath.toList))))
  name := fun file => String.ofList (baseName file.toList)
  relative := id
  decode := fun _ => ""
  readFails := fun _ => none
  writeFails := fun _ => none
  mkdirFails := fun _ => false

def deviceFiles : SandboxFiles := fun file =>
  if file ∈ filesDir.inits.map (fun directory => String.ofList (rooted directory)) then
    some .directory
  else none

def writeContext (path : String) : CompanionCommandContext :=
  ⟨"r1", "android.file.write", "file.write", [("path", .text path), ("text", .text "hello")]⟩

theorem deviceSandbox_lexical : deviceSandbox.Lexical filesDir := by
  refine ⟨?_, by decide +kernel, ?_⟩
  · unfold IsName
    decide +kernel
  intro rawPath file h
  simp only [deviceSandbox] at h
  split_ifs at h
  exact (Except.ok.inj h).symm

theorem deviceFiles_root : RootExists deviceFiles filesDir := by
  intro directory hdirectory
  exact if_pos (List.mem_map_of_mem ((List.mem_inits _ _).mpr hdirectory))

theorem confined_iff_write :
    Confined deviceSandbox filesDir (writeContext "notes/../a.txt") deviceFiles := by
  refine (confined_iff deviceSandbox_lexical deviceFiles_root (Or.inr rfl)).mpr ?_
  intro rawPath hpath
  obtain rfl : "notes/../a.txt" = rawPath := Option.some.inj hpath
  refine ⟨⟨"/data/user/0/com.adbcontrol.companion/files/a.txt", by decide +kernel⟩, ?_⟩
  intro hcontinues
  exact hcontinues.not_prefix (by decide +kernel)

/-- The directory beside the sandbox is made, and the text is written into it. -/
theorem write_beside :
    (handle deviceSandbox (writeContext "../files-backup/a.txt") deviceFiles).2
        "/data/user/0/com.adbcontrol.companion/files-backup/a.txt" =
      some (.file (utf8Bytes "hello")) ∧
    ¬Confined deviceSandbox filesDir (writeContext "../files-backup/a.txt") deviceFiles := by
  have written : (handle deviceSandbox (writeContext "../files-backup/a.txt") deviceFiles).2
      "/data/user/0/com.adbcontrol.companion/files-backup/a.txt" =
        some (.file (utf8Bytes "hello")) := by decide +kernel
  refine ⟨written, ?_⟩
  intro confined
  obtain ⟨names, hnames, hinside, hbelow⟩ :=
    confined.changes "/data/user/0/com.adbcontrol.companion/files-backup/a.txt" (by
      rw [written]
      decide +kernel)
  have hpath := congrArg (fun file => pathNames file.toList) hbelow
  simp only [String.toList_ofList, pathNames_rooted hnames] at hpath
  rw [← hpath] at hinside
  revert hinside
  decide +kernel

end

end FileSandboxFeatureHandler

end AdbControl.Companion
