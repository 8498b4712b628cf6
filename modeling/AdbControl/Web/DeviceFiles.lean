import AdbControl.Server.FileListing
import AdbControl.Server.RemotePath

namespace AdbControl.Web

open Framework
open AdbControl.Server (EntryType FileEntry InSharedStorage emulatedStorage sdcard)

def storageRoots : List String := ["/sdcard", "/storage/emulated/0"]

/-- The parts of a path between its slashes, without the empty ones -/
def splitParts (path : String) : List (List Char) :=
  (path.toList.splitOn '/').filter fun part => part ≠ []

/-- `Array.join`, with a slash -/
def slashJoined (parts : List (List Char)) : String := String.ofList (['/'].intercalate parts)

def normalizeRemotePath (path : String) : String :=
  let normalized := "/" ++ slashJoined (splitParts path)
  if normalized = "/" then "/sdcard" else normalized

def joinRemotePath (basePath name : String) : String :=
  let basePath := if basePath.toList.getLast? = some '/' then String.ofList basePath.toList.dropLast
    else basePath
  normalizeRemotePath (basePath ++ "/" ++ name)

def parentRemotePath (path : String) : String :=
  let normalized := normalizeRemotePath path
  if normalized ∈ storageRoots then normalized
  else normalizeRemotePath (slashJoined (normalized.toList.splitOn '/').dropLast)

structure Segment where
  label : String
  path : String
  deriving DecidableEq

def pathSegments (path : String) : List Segment :=
  let parts := splitParts (normalizeRemotePath path)
  parts.mapIdx fun index part =>
    { label := if index = 0 then "/" ++ String.ofList part else String.ofList part
      path := "/" ++ slashJoined (parts.take (index + 1)) }

/-- Where an entry comes in the order: directories first, then links. -/
def entryRank : EntryType → Nat
  | .directory => 0
  | .link => 1
  | .file => 2

def sortFileEntries (localeCompare : String → String → Int) (entries : List FileEntry) :
    List FileEntry :=
  entries.mergeSort fun left right =>
    if entryRank left.type ≠ entryRank right.type then entryRank left.type ≤ entryRank right.type
    else localeCompare left.name right.name ≤ 0

def canOpenEntry (entry : FileEntry) : Bool := entry.type = .directory

def resolveOpenPath (currentPath : String) (entry : FileEntry) : String :=
  if !canOpenEntry entry then normalizeRemotePath currentPath
  else normalizeRemotePath
    (if entry.path ≠ "" then entry.path else joinRemotePath currentPath entry.name)

example : parentRemotePath "/storage//emulated/" = "/storage" ∧ parentRemotePath "/storage" = "/sdcard" ∧
    parentRemotePath "/storage/emulated/0/" = "/storage/emulated/0" := by decide

section Parts

variable {parts : List (List Char)} {part : List Char}

/-- What a path has between its slashes -/
def IsPart (part : List Char) : Prop := '/' ∉ part ∧ part ≠ []

theorem isPart_of_isName (h : IsName part) : IsPart part := ⟨h.1, h.2.1⟩

theorem isPart_of_mem_splitParts {path : String} (h : part ∈ splitParts path) : IsPart part := by
  obtain ⟨hmem, hne⟩ := List.mem_filter.mp h
  refine ⟨?_, of_decide_eq_true hne⟩
  intro hslash
  simpa using not_of_mem_splitOnP hmem '/' hslash

theorem splitParts_slashJoined (h : ∀ part ∈ parts, '/' ∉ part) :
    splitParts (slashJoined parts) = parts.filter fun part => part ≠ [] := by
  rw [splitParts, slashJoined, String.toList_ofList]
  cases parts with
  | nil => rfl
  | cons first parts => rw [List.splitOn_intercalate '/' h (List.cons_ne_nil first parts)]

theorem filter_parts (h : ∀ part ∈ parts, IsPart part) :
    parts.filter (fun part => part ≠ []) = parts :=
  List.filter_eq_self.mpr fun part hpart => decide_eq_true (h part hpart).2

/-- The absolute path of these parts -/
def pathOf (parts : List (List Char)) : String := "/" ++ slashJoined parts

theorem toList_pathOf (parts : List (List Char)) :
    (pathOf parts).toList = '/' :: ['/'].intercalate parts := by
  simp [pathOf, slashJoined, String.toList_append]

theorem splitOn_pathOf (h : ∀ part ∈ parts, IsPart part) (hne : parts ≠ []) :
    (pathOf parts).toList.splitOn '/' = [] :: parts := by
  have spelled : '/' :: ['/'].intercalate parts = ['/'].intercalate ([] :: parts) := by
    rw [List.intercalate_cons_of_ne_nil hne]
    rfl
  rw [toList_pathOf, spelled]
  apply List.splitOn_intercalate
  · intro part hpart
    rcases List.mem_cons.mp hpart with rfl | hmem
    · exact List.not_mem_nil
    · exact (h part hmem).1
  · exact List.cons_ne_nil _ _

theorem splitParts_pathOf (h : ∀ part ∈ parts, IsPart part) : splitParts (pathOf parts) = parts := by
  by_cases hne : parts = []
  · rw [hne]
    rfl
  · rw [splitParts, splitOn_pathOf h hne, List.filter_cons_of_neg (by simp), filter_parts h]

theorem pathOf_eq_rooted (parts : List (List Char)) : pathOf parts = String.ofList (rooted parts) := by
  have spelled (first : List Char) (more : List (List Char)) :
      '/' :: ['/'].intercalate (first :: more) =
        (first :: more).flatMap fun part => '/' :: part := by
    induction more generalizing first with
    | nil => simp
    | cons next more ih =>
      rw [List.intercalate_cons_cons, List.flatMap_cons, ← ih next]
      simp
  apply String.toList_injective
  rw [toList_pathOf, String.toList_ofList, rooted]
  cases parts with
  | nil => rfl
  | cons first more => rw [if_neg (List.cons_ne_nil first more), spelled]

theorem splitParts_part {name : String} (h : IsPart name.toList) : splitParts name = [name.toList] := by
  rw [splitParts, List.splitOn_eq_singleton h.1, filter_parts (List.forall_mem_singleton.mpr h)]

theorem splitParts_slash (front back : String) :
    splitParts (front ++ "/" ++ back) = splitParts front ++ splitParts back := by
  have spelled : (front ++ "/" ++ back).toList = front.toList ++ '/' :: back.toList := by
    simp [String.toList_append]
  rw [splitParts, spelled, List.splitOn_append_cons_self, List.filter_append]
  rfl

end Parts

section Places

variable {here : List (List Char)}

/-- Where no parts lead is the shared storage. -/
def homed (parts : List (List Char)) : List (List Char) := if parts = [] then sdcard else parts

/-- One place up, from the roots of the shared storage nowhere -/
def above (here : List (List Char)) : List (List Char) :=
  if here = sdcard ∨ here = emulatedStorage then here else homed here.dropLast

theorem isName_sdcard : ∀ name ∈ sdcard, IsName name := Server.isName_roots.1

theorem isPart_homed (h : ∀ part ∈ here, IsPart part) : ∀ part ∈ homed here, IsPart part := by
  unfold homed
  split_ifs
  · exact fun part hpart => isPart_of_isName (isName_sdcard part hpart)
  · exact h

theorem homed_ne_nil (parts : List (List Char)) : homed parts ≠ [] := by
  unfold homed
  split_ifs with h
  · decide
  · exact h

theorem homed_of_ne_nil (h : here ≠ []) : homed here = here := if_neg h

theorem normalizeRemotePath_eq (path : String) :
    normalizeRemotePath path = pathOf (homed (splitParts path)) := by
  have root : pathOf (splitParts path) = "/" ↔ splitParts path = [] := by
    constructor
    · intro h
      rw [← @splitParts_pathOf (splitParts path) fun part => isPart_of_mem_splitParts, h]
      rfl
    · intro h
      rw [h]
      rfl
  unfold normalizeRemotePath homed
  rw [← pathOf]
  simp only [root]
  split_ifs
  · decide
  · rfl

theorem normalizeRemotePath_pathOf (h : ∀ part ∈ here, IsPart part) (hne : here ≠ []) :
    normalizeRemotePath (pathOf here) = pathOf here := by
  rw [normalizeRemotePath_eq, splitParts_pathOf h, homed_of_ne_nil hne]

theorem normalizeRemotePath_idem (path : String) :
    normalizeRemotePath (normalizeRemotePath path) = normalizeRemotePath path := by
  rw [normalizeRemotePath_eq path]
  exact normalizeRemotePath_pathOf (isPart_homed fun part => isPart_of_mem_splitParts) (homed_ne_nil _)

theorem pathOf_inj {there : List (List Char)} (h : ∀ part ∈ here, IsPart part)
    (h' : ∀ part ∈ there, IsPart part) : pathOf here = pathOf there ↔ here = there := by
  constructor
  · intro heq
    rw [← splitParts_pathOf h, heq, splitParts_pathOf h']
  · intro heq
    rw [heq]

theorem isPart_roots : (∀ part ∈ sdcard, IsPart part) ∧ ∀ part ∈ emulatedStorage, IsPart part :=
  ⟨fun part h => isPart_of_isName (Server.isName_roots.1 part h),
    fun part h => isPart_of_isName (Server.isName_roots.2 part h)⟩

theorem mem_storageRoots (h : ∀ part ∈ here, IsPart part) :
    pathOf here ∈ storageRoots ↔ here = sdcard ∨ here = emulatedStorage := by
  have roots : storageRoots = [pathOf sdcard, pathOf emulatedStorage] := by decide
  rw [roots, List.mem_cons, List.mem_singleton, pathOf_inj h isPart_roots.1, pathOf_inj h isPart_roots.2]

theorem parentRemotePath_pathOf (h : ∀ part ∈ here, IsPart part) (hne : here ≠ []) :
    parentRemotePath (pathOf here) = pathOf (above here) := by
  have front : ∀ part ∈ [] :: here.dropLast, '/' ∉ part := by
    intro part hpart
    rcases List.mem_cons.mp hpart with rfl | hmem
    · exact List.not_mem_nil
    · exact (h part (List.mem_of_mem_dropLast hmem)).1
  unfold parentRemotePath above
  rw [normalizeRemotePath_pathOf h hne]
  simp only [mem_storageRoots h]
  split_ifs
  · rfl
  · rw [splitOn_pathOf h hne, List.dropLast_cons_of_ne_nil hne, normalizeRemotePath_eq,
      splitParts_slashJoined front, List.filter_cons_of_neg (by simp),
      filter_parts fun part hpart => h part (List.mem_of_mem_dropLast hpart)]

theorem joinRemotePath_eq (basePath name : String) :
    joinRemotePath basePath name = pathOf (homed (splitParts basePath ++ splitParts name)) := by
  have same : splitParts (if basePath.toList.getLast? = some '/' then String.ofList basePath.toList.dropLast
      else basePath) = splitParts basePath := by
    split_ifs with hslash
    · obtain ⟨front, hfront⟩ := List.getLast?_eq_some_iff.mp hslash
      have spelled : basePath = String.ofList front ++ "/" ++ "" := by
        apply String.toList_injective
        simp [hfront]
      rw [hfront, List.dropLast_concat, spelled, splitParts_slash]
      exact (List.append_nil _).symm
    · rfl
  rw [joinRemotePath, normalizeRemotePath_eq, splitParts_slash, same]

theorem pathSegments_pathOf (h : ∀ part ∈ here, IsPart part) (hne : here ≠ []) (k : Nat) :
    (pathSegments (pathOf here))[k]?.map Segment.path =
      if k < here.length then some (pathOf (here.take (k + 1))) else none := by
  rw [pathSegments, normalizeRemotePath_pathOf h hne, splitParts_pathOf h, List.getElem?_mapIdx,
    Option.map_map]
  by_cases hk : k < here.length
  · rw [if_pos hk, List.getElem?_eq_getElem hk]
    rfl
  · rw [if_neg hk, List.getElem?_eq_none (Nat.le_of_not_lt hk)]
    rfl

theorem isPart_above (h : ∀ part ∈ here, IsPart part) : ∀ part ∈ above here, IsPart part := by
  unfold above
  split_ifs
  · exact h
  · exact isPart_homed fun part hpart => h part (List.mem_of_mem_dropLast hpart)

theorem above_ne_nil (hne : here ≠ []) : above here ≠ [] := by
  unfold above
  split_ifs
  · exact hne
  · exact homed_ne_nil _

theorem parentRemotePath_eq (path : String) :
    parentRemotePath path = pathOf (above (homed (splitParts path))) := by
  have parts : ∀ part ∈ homed (splitParts path), IsPart part :=
    isPart_homed fun part => isPart_of_mem_splitParts
  rw [← parentRemotePath_pathOf parts (homed_ne_nil _), ← normalizeRemotePath_eq]
  unfold parentRemotePath
  rw [normalizeRemotePath_idem]

theorem parent_iterate (path : String) (k : Nat) :
    parentRemotePath^[k + 1] path = pathOf (above^[k + 1] (homed (splitParts path))) := by
  have climb : ∀ {here : List (List Char)}, (∀ part ∈ here, IsPart part) → here ≠ [] → ∀ k,
      parentRemotePath^[k] (pathOf here) = pathOf (above^[k] here) := by
    intro here h hne k
    induction k generalizing here with
    | zero => rfl
    | succ k ih =>
      rw [Function.iterate_succ_apply, Function.iterate_succ_apply, parentRemotePath_pathOf h hne,
        ih (isPart_above h) (above_ne_nil hne)]
  have parts : ∀ part ∈ homed (splitParts path), IsPart part :=
    isPart_homed fun part => isPart_of_mem_splitParts
  rw [Function.iterate_succ_apply, Function.iterate_succ_apply, parentRemotePath_eq,
    climb (isPart_above parts) (above_ne_nil (homed_ne_nil _))]

/-- What is above a place of the shared storage is in it too. -/
theorem above_shared (h : InSharedStorage here) : InSharedStorage (above here) := by
  have shorter {root : List (List Char)} (hroot : root <+: here) (hne : here ≠ root) :
      root <+: here.dropLast := by
    obtain ⟨more, rfl⟩ := hroot
    have hmore : more ≠ [] := by
      rintro rfl
      exact hne (List.append_nil root)
    rw [List.dropLast_append_of_ne_nil hmore]
    exact List.prefix_append _ _
  have longer {root : List (List Char)} (hroot : root <+: here.dropLast) (hne : root ≠ []) :
      homed here.dropLast = here.dropLast := by
    apply homed_of_ne_nil
    intro hnil
    rw [hnil, List.prefix_nil] at hroot
    exact hne hroot
  unfold above
  split_ifs with hroots
  · exact h
  · rw [not_or] at hroots
    rcases h with hroot | hroot
    · have hup := shorter hroot hroots.1
      rw [longer hup (by decide)]
      exact Or.inl hup
    · have hup := shorter hroot hroots.2
      rw [longer hup (by decide)]
      exact Or.inr hup

/-- Above a place is a root of the shared storage after as many steps as the place is deep. -/
theorem above_iterate_root (k : Nat) (hk : here.length ≤ k + 1) :
    above^[k + 1] here = sdcard ∨ above^[k + 1] here = emulatedStorage := by
  induction k generalizing here with
  | zero =>
    rw [Function.iterate_one]
    unfold above
    split_ifs with hroots
    · exact hroots
    · have hnil : here.dropLast = [] := by
        rw [← List.length_eq_zero_iff, List.length_dropLast]
        omega
      rw [hnil]
      exact Or.inl rfl
  | succ k ih =>
    by_cases hroots : here = sdcard ∨ here = emulatedStorage
    · have hfixed : above here = here := if_pos hroots
      rwa [Function.iterate_fixed hfixed]
    · have hup : above here = homed here.dropLast := if_neg hroots
      rw [Function.iterate_succ_apply, hup]
      apply ih
      unfold homed
      split_ifs
      · exact Nat.succ_le_succ (Nat.zero_le k)
      · rw [List.length_dropLast]
        omega

/-- Going up undoes going down, except from a root of the shared storage, where it stays; from anywhere it
comes to such a root, in as many steps as the path is deep; and it never leaves the shared storage. -/
theorem remote_paths_navigate (path : String) :
    (∀ name : String, IsPart name.toList → parentRemotePath (joinRemotePath path name) =
      if joinRemotePath path name ∈ storageRoots then joinRemotePath path name
      else normalizeRemotePath path) ∧
    (∀ k, (splitParts path).length ≤ k → 0 < k → parentRemotePath^[k] path ∈ storageRoots) ∧
    (InSharedStorage (splitParts path) → ∀ k, InSharedStorage (splitParts (parentRemotePath^[k] path))) := by
  have parts : ∀ part ∈ splitParts path, IsPart part := fun part => isPart_of_mem_splitParts
  have climbed (k : Nat) : ∀ part ∈ above^[k] (homed (splitParts path)), IsPart part := by
    induction k with
    | zero => exact isPart_homed parts
    | succ k ih =>
      rw [Function.iterate_succ_apply']
      exact isPart_above ih
  refine ⟨?_, ?_, ?_⟩
  · intro name hname
    have hjoined : ∀ part ∈ splitParts path ++ [name.toList], IsPart part := by
      intro part hpart
      rcases List.mem_append.mp hpart with hold | hnew
      · exact parts part hold
      · rwa [List.mem_singleton.mp hnew]
    have hne : splitParts path ++ [name.toList] ≠ [] := by simp
    rw [joinRemotePath_eq, splitParts_part hname, homed_of_ne_nil hne, parentRemotePath_pathOf hjoined hne,
      normalizeRemotePath_eq]
    simp only [mem_storageRoots hjoined, above]
    split_ifs
    · rfl
    · rw [List.dropLast_concat]
  · intro k hk hpos
    obtain ⟨k, rfl⟩ := Nat.exists_eq_succ_of_ne_zero hpos.ne'
    rw [parent_iterate, mem_storageRoots (climbed (k + 1))]
    apply above_iterate_root
    unfold homed
    split_ifs
    · exact Nat.succ_le_succ (Nat.zero_le k)
    · exact hk
  · intro hshared k
    cases k with
    | zero => exact hshared
    | succ k =>
      have hne : splitParts path ≠ [] := by
        intro hnil
        rw [hnil] at hshared
        rcases hshared with h | h <;> cases List.prefix_nil.mp h
      rw [parent_iterate, splitParts_pathOf (climbed (k + 1)), homed_of_ne_nil hne]
      induction k with
      | zero => exact above_shared hshared
      | succ k ih =>
        rw [Function.iterate_succ_apply']
        exact above_shared ih

end Places

end AdbControl.Web
