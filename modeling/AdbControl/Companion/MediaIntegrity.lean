import AdbControl.Companion.MediaStore
import AdbControl.Framework.Run

namespace AdbControl.Companion

open Framework

theorem isName_safePathSegment {value : String} (h : value ≠ "") :
    IsName (safePathSegment value).toList := by
  have chars (c : Char) (hc : c ∈ (safePathSegment value).toList) : c ≠ '/' ∧ c ≠ '.' := by
    simp only [safePathSegment, String.toList_ofList, List.mem_map] at hc
    obtain ⟨a, -, ha⟩ := hc
    split_ifs at ha with hsafe
    · subst ha
      refine ⟨?_, ?_⟩
      · intro he
        subst he
        exact absurd hsafe (by decide)
      · intro he
        subst he
        exact absurd hsafe (by decide)
    · subst ha
      exact ⟨by decide, by decide⟩
  refine ⟨fun hc => (chars _ hc).1 rfl, ?_, ?_, ?_⟩
  · intro he
    simp only [safePathSegment, String.toList_ofList, List.map_eq_nil_iff] at he
    exact h (String.toList_eq_nil_iff.mp he)
  · intro he
    exact (chars '.' (by simp [he])).2 rfl
  · intro he
    exact (chars '.' (by simp [he])).2 rfl

theorem safePathSegment_eq_empty {value : String} : safePathSegment value = "" ↔ value = "" := by
  constructor
  · intro h
    by_contra hne
    exact (isName_safePathSegment hne).2.1 (by rw [h]; rfl)
  · intro h
    rw [h]
    rfl

theorem chunkFileName_toList (index : Nat) :
    (chunkFileName index).toList =
      "chunk-".toList ++ (Nat.toDigits 10 index).leftpad 20 '0' ++ ".bin".toList :=
  String.toList_ofList

theorem chunkFileName_injective {i j : Nat} (h : chunkFileName i = chunkFileName j) : i = j := by
  have value (n : Nat) : Nat.ofDigitChars 10 ((Nat.toDigits 10 n).leftpad 20 '0') 0 = n := by
    rw [List.leftpad, Nat.ofDigitChars_append, Nat.ofDigitChars_replicate_zero, Nat.mul_zero,
      Nat.ofDigitChars_ten_toDigits]
  have hlist := congrArg String.toList h
  rw [chunkFileName_toList, chunkFileName_toList] at hlist
  have digits := List.append_cancel_left (List.append_cancel_right hlist)
  rw [← value i, ← value j, digits]

theorem isName_chunkFileName (index : Nat) : IsName (chunkFileName index).toList := by
  have first : (chunkFileName index).toList.head? = some 'c' := by
    rw [chunkFileName_toList]
    rfl
  refine ⟨?_, ?_, ?_, ?_⟩
  · intro hc
    rw [chunkFileName_toList, List.mem_append, List.mem_append] at hc
    rcases hc with (hc | hc) | hc
    · exact absurd hc (by decide)
    · rcases List.mem_append.mp hc with hpad | hdigit
      · exact absurd (List.eq_of_mem_replicate hpad) (by decide)
      · exact absurd (Nat.isDigit_of_mem_toDigits (by omega) (by omega) hdigit) (by decide)
    · exact absurd hc (by decide)
  · intro he
    rw [he] at first
    cases first
  · intro he
    rw [he] at first
    cases first
  · intro he
    rw [he] at first
    cases first

theorem startsWith_chunkFileName (index : Nat) :
    startsWith (chunkFileName index) "chunk-" = true := by
  rw [startsWith, chunkFileName_toList, List.append_assoc, List.isPrefixOf_iff_prefix]
  exact List.prefix_append _ _

/-- A directory has no dot in its name, a chunk file has one. -/
theorem safePathSegment_ne_chunkFileName (value : String) (index : Nat) :
    safePathSegment value ≠ chunkFileName index := by
  intro h
  have hdot : '.' ∈ (safePathSegment value).toList := by
    rw [h, chunkFileName_toList]
    exact List.mem_append_right _ (by decide)
  simp only [safePathSegment, String.toList_ofList, List.mem_map] at hdot
  obtain ⟨a, -, ha⟩ := hdot
  split_ifs at ha with hsafe
  · subst ha
    exact absurd hsafe (by decide)
  · exact absurd ha (by decide)

namespace MediaFs

/-- The entries of a directory that count as chunks. -/
def chunkCount (fs : MediaFs) (dir : String) : Nat :=
  (fs.entries dir).countP (fun name => startsWith name "chunk-")

/-- Directories of sessions that the root lists as chunks. -/
def strays (fs : MediaFs) (dir : String) : List String :=
  if dir = "" then (fs.dirs.keys.filter (fun d => d ≠ "")).filter (fun d => startsWith d "chunk-")
  else []

theorem write_createDirAll (fs : MediaFs) (dir file : String) (bytes : List UInt8) :
    (fs.createDirAll dir).write dir file bytes = fs.write dir file bytes := by
  have same : (fs.createDirAll dir).files dir = fs.files dir := by
    simp [files, createDirAll]
  rw [write, same, write, MediaFs.mk.injEq]
  apply Keyed.ext_lookup
  intro d
  by_cases hd : d = dir <;> simp [createDirAll, hd]

theorem files_write (fs : MediaFs) (dir file : String) (bytes : List UInt8) (d : String) :
    (fs.write dir file bytes).files d =
      if d = dir then (fs.files dir).insert file bytes else fs.files d := by
  by_cases hd : d = dir <;> simp [files, write, hd]

theorem mem_dirs_write (fs : MediaFs) (dir file : String) (bytes : List UInt8) (d : String) :
    d ∈ (fs.write dir file bytes).dirs ↔ d = dir ∨ d ∈ fs.dirs :=
  Keyed.mem_insert_iff fs.dirs dir d _

end MediaFs

theorem nextChunkIndex_eq (fs : MediaFs) (sessionId : String) :
    nextChunkIndex fs sessionId = fs.chunkCount (safePathSegment sessionId) := by
  simp only [nextChunkIndex]
  split_ifs with hexists
  · rfl
  · -- a directory that does not exist lists nothing
    simp only [MediaFs.exists?, Bool.or_eq_true, beq_iff_eq, not_or, Bool.not_eq_true] at hexists
    obtain ⟨hroot, hmissing⟩ := hexists
    have nothing : fs.files (safePathSegment sessionId) = ∅ := by
      rw [MediaFs.files, Std.ExtTreeMap.getElem?_eq_none_of_contains_eq_false hmissing]
      rfl
    rw [MediaFs.chunkCount, MediaFs.entries, if_neg hroot, nothing]
    rfl

/-- A chunk as it was accepted, with its bytes. -/
structure AcceptedChunk where
  chunk : StoredMediaChunk
  bytes : List UInt8
  deriving DecidableEq

namespace AcceptedChunk

def sessionId (a : AcceptedChunk) : String := a.chunk.sessionId
def dir (a : AcceptedChunk) : String := safePathSegment a.chunk.sessionId
def file (a : AcceptedChunk) : String := chunkFileName a.chunk.chunkIndex

/-- The names from the root down to the file of the chunk. -/
def names (a : AcceptedChunk) : List (List Char) :=
  (if a.dir = "" then [] else [a.dir.toList]) ++ [a.file.toList]

/-- Two chunks of one place have one directory and one index. -/
theorem names_injective {a b : AcceptedChunk} (h : a.names = b.names) :
    a.dir = b.dir ∧ a.chunk.chunkIndex = b.chunk.chunkIndex := by
  rw [names, names] at h
  have lengths : [a.file.toList].length = [b.file.toList].length := by
    rw [List.length_singleton, List.length_singleton]
  obtain ⟨hdirs, hfiles⟩ := List.append_inj' h lengths
  have hfile : a.file = b.file := String.toList_injective (List.singleton_inj.mp hfiles)
  refine ⟨?_, chunkFileName_injective hfile⟩
  split_ifs at hdirs with ha hb hb
  · rw [ha, hb]
  · exact String.toList_injective (List.singleton_inj.mp hdirs)

end AcceptedChunk

section

variable (decodeBase64 : String → Option (List UInt8)) (store : CompanionMediaStore)

/-- The session that a well-formed stream chunk names. -/
def chunkSession (envelope : QuicEnvelope) : Option String :=
  match mediaChunk decodeBase64 envelope with
  | .ok (some (sessionId, _)) => some sessionId
  | _ => none

def mediaStep (fs : MediaFs) (envelope : QuicEnvelope) : MediaFs :=
  (store.storeEnvelope decodeBase64 fs envelope).1

def mediaAccepts (fs : MediaFs) (envelope : QuicEnvelope) : List AcceptedChunk :=
  match (store.storeEnvelope decodeBase64 fs envelope).2, mediaChunk decodeBase64 envelope with
  | .ok (some chunk), .ok (some (_, bytes)) => [⟨chunk, bytes⟩]
  | _, _ => []

/-- The chunk that a session stores next. -/
def nextChunk (fs : MediaFs) (sessionId : String) (bytes : List UInt8) : AcceptedChunk :=
  let chunkIndex := fs.chunkCount (safePathSegment sessionId)
  ⟨⟨sessionId, chunkIndex, joinPath (joinPath store.rootDir (safePathSegment sessionId))
    (chunkFileName chunkIndex), bytes.length⟩, bytes⟩

/-- A call stores nothing and changes nothing, or writes the next chunk of the session it names. -/
theorem storeEnvelope_cases (fs : MediaFs) (envelope : QuicEnvelope) :
    (chunkSession decodeBase64 envelope = none ∧ mediaStep decodeBase64 store fs envelope = fs ∧
      mediaAccepts decodeBase64 store fs envelope = []) ∨
    ∃ sessionId bytes, chunkSession decodeBase64 envelope = some sessionId ∧
      mediaStep decodeBase64 store fs envelope =
        fs.write (nextChunk store fs sessionId bytes).dir (nextChunk store fs sessionId bytes).file
          bytes ∧
      mediaAccepts decodeBase64 store fs envelope = [nextChunk store fs sessionId bytes] := by
  unfold chunkSession mediaStep mediaAccepts CompanionMediaStore.storeEnvelope
  cases hchunk : mediaChunk decodeBase64 envelope with
  | error e => exact Or.inl ⟨rfl, rfl, rfl⟩
  | ok found =>
    cases found with
    | none => exact Or.inl ⟨rfl, rfl, rfl⟩
    | some pair =>
      obtain ⟨sessionId, bytes⟩ := pair
      refine Or.inr ⟨sessionId, bytes, rfl, ?_, ?_⟩
      · simp only [MediaFs.write_createDirAll, nextChunkIndex_eq]
        rfl
      · simp only [nextChunkIndex_eq]
        rfl

end

/-- What the directories hold is what was accepted: every chunk at its own place under the root,
with an index that the count of its directory has passed. -/
structure MediaFs.Holds (root : String) (fs : MediaFs) (h : List AcceptedChunk) : Prop where
  filed : ∀ (dir file : String) (bytes : List UInt8), (fs.files dir)[file]? = some bytes ↔
    ∃ a ∈ h, a.dir = dir ∧ a.file = file ∧ a.bytes = bytes
  made : ∀ dir, dir ∈ fs.dirs ↔ ∃ a ∈ h, a.dir = dir
  leads : ∀ a ∈ h, Leads root a.chunk.path a.names
  passed : ∀ a ∈ h, a.chunk.chunkIndex < fs.chunkCount a.dir
  counted : ∀ dir, (fs.files dir).size = h.countP (fun a => a.dir = dir)
  distinct : (h.map AcceptedChunk.names).Nodup

namespace MediaFs

theorem holds_empty (root : String) : Holds root empty [] := by
  refine ⟨?_, ?_, ?_, ?_, ?_, List.nodup_nil⟩
  · intro dir file bytes
    simp [empty, files]
  · intro dir
    simp [empty]
  · intro a ha
    cases ha
  · intro a ha
    cases ha
  · intro dir
    simp [empty, files]

/-- In a directory of chunk files the count is the number of files and stray directories. -/
theorem chunkCount_eq {fs : MediaFs} {dir : String}
    (h : ∀ file ∈ fs.files dir, startsWith file "chunk-" = true) :
    fs.chunkCount dir = (fs.files dir).size + (fs.strays dir).length := by
  have files : (fs.files dir).keys.countP (fun name => startsWith name "chunk-") =
      (fs.files dir).size := by
    rw [← Std.ExtTreeMap.length_keys, List.countP_eq_length]
    intro file hfile
    exact h file (Std.ExtTreeMap.mem_keys.mp hfile)
  rw [chunkCount, entries, List.countP_append, files, strays]
  split_ifs
  · rw [List.countP_eq_length_filter]
  · rfl

theorem Holds.chunkFiles {root : String} {fs : MediaFs} {h : List AcceptedChunk}
    (hh : Holds root fs h) (dir : String) :
    ∀ file ∈ fs.files dir, startsWith file "chunk-" = true := by
  intro file hfile
  obtain ⟨bytes, hbytes⟩ := (Keyed.mem_iff_lookup _ _).mp hfile
  obtain ⟨a, -, -, ha, -⟩ := (hh.filed dir file bytes).mp hbytes
  rw [← ha]
  exact startsWith_chunkFileName _

theorem strays_write (fs : MediaFs) (dir file : String) (bytes : List UInt8) (d : String) :
    (fs.strays d).length ≤ ((fs.write dir file bytes).strays d).length := by
  unfold strays
  split_ifs
  · have nodup : ((fs.dirs.keys.filter (fun d => d ≠ "")).filter
        (fun d => startsWith d "chunk-")).Nodup :=
      (Std.ExtTreeMap.nodup_keys.filter _).filter _
    apply (List.subperm_of_subset nodup _).length_le
    intro name hname
    simp only [List.mem_filter, Std.ExtTreeMap.mem_keys] at hname ⊢
    exact ⟨⟨(mem_dirs_write fs dir file bytes name).mpr (Or.inr hname.1.1), hname.1.2⟩, hname.2⟩
  · exact le_rfl

/-- The next chunk of a session is a new file. -/
theorem Holds.fresh {store : CompanionMediaStore} {fs : MediaFs} {h : List AcceptedChunk}
    (hh : Holds store.rootDir fs h) (sessionId : String) (bytes : List UInt8) {b : AcceptedChunk}
    (hb : b ∈ h) (hdir : b.dir = (nextChunk store fs sessionId bytes).dir) :
    b.chunk.chunkIndex ≠ (nextChunk store fs sessionId bytes).chunk.chunkIndex := by
  have passed := hh.passed b hb
  rw [hdir] at passed
  exact Nat.ne_of_lt passed

theorem leads_nextChunk (store : CompanionMediaStore) (fs : MediaFs) (sessionId : String)
    (bytes : List UInt8) :
    Leads store.rootDir (nextChunk store fs sessionId bytes).chunk.path
      (nextChunk store fs sessionId bytes).names := by
  have root := Leads.refl store.rootDir
  by_cases hempty : sessionId = ""
  · have empty := safePathSegment_eq_empty.mpr hempty
    have dir : (nextChunk store fs sessionId bytes).dir = "" := empty
    rw [AcceptedChunk.names, if_pos dir]
    simp only [nextChunk, AcceptedChunk.file, empty]
    exact root.joinEmpty.joinName (isName_chunkFileName _)
  · have named := isName_safePathSegment hempty
    have dir : (nextChunk store fs sessionId bytes).dir ≠ "" := by
      intro he
      exact hempty (safePathSegment_eq_empty.mp he)
    rw [AcceptedChunk.names, if_neg dir]
    simp only [nextChunk, AcceptedChunk.file, AcceptedChunk.dir]
    exact (root.joinName named).joinName (isName_chunkFileName _)

/-- A new file is one more in its directory. -/
theorem size_write {fs : MediaFs} {dir file : String} (unused : file ∉ fs.files dir)
    (bytes : List UInt8) (d : String) :
    ((fs.write dir file bytes).files d).size = (fs.files d).size + if dir = d then 1 else 0 := by
  rw [files_write]
  by_cases hdir : d = dir
  · subst hdir
    rw [if_pos rfl, if_pos rfl, Std.ExtTreeMap.size_insert, if_neg]
    rw [Std.ExtTreeMap.contains_iff_mem]
    exact unused
  · rw [if_neg hdir, if_neg (Ne.symm hdir), Nat.add_zero]

theorem chunkCount_write {fs : MediaFs} {dir file : String} (unused : file ∉ fs.files dir)
    (bytes : List UInt8) {d : String}
    (chunks : ∀ file ∈ fs.files d, startsWith file "chunk-" = true)
    (chunks' : ∀ file' ∈ (fs.write dir file bytes).files d, startsWith file' "chunk-" = true) :
    fs.chunkCount d + (if dir = d then 1 else 0) ≤ (fs.write dir file bytes).chunkCount d := by
  have strays := strays_write fs dir file bytes d
  rw [chunkCount_eq chunks, chunkCount_eq chunks', size_write unused]
  omega

/-- A chunk whose index no chunk of its directory has is in a file of its own. -/
theorem Holds.unused {rootDir : String} {fs : MediaFs} {h : List AcceptedChunk}
    (hh : Holds rootDir fs h) {a : AcceptedChunk}
    (fresh : ∀ b ∈ h, b.dir = a.dir → b.chunk.chunkIndex ≠ a.chunk.chunkIndex) :
    a.file ∉ fs.files a.dir := by
  intro hmem
  obtain ⟨old, hold⟩ := (Keyed.mem_iff_lookup _ _).mp hmem
  obtain ⟨b, hb, hdir, hfile, -⟩ := (hh.filed a.dir a.file old).mp hold
  exact fresh b hb hdir (chunkFileName_injective hfile)

theorem Holds.filed_write {rootDir : String} {fs : MediaFs} {h : List AcceptedChunk}
    (hh : Holds rootDir fs h) {a : AcceptedChunk} (unused : a.file ∉ fs.files a.dir)
    (dir file : String) (bytes : List UInt8) :
    ((fs.write a.dir a.file a.bytes).files dir)[file]? = some bytes ↔
      ∃ b ∈ h ++ [a], b.dir = dir ∧ b.file = file ∧ b.bytes = bytes := by
  have split : (∃ b ∈ h ++ [a], b.dir = dir ∧ b.file = file ∧ b.bytes = bytes) ↔
      (fs.files dir)[file]? = some bytes ∨ a.dir = dir ∧ a.file = file ∧ a.bytes = bytes := by
    rw [hh.filed]
    simp only [List.mem_append, List.mem_singleton, or_and_right, exists_or, exists_eq_left]
  rw [split, files_write]
  by_cases hdir : dir = a.dir
  · subst hdir
    rw [if_pos rfl, Keyed.lookup_insert]
    by_cases hfile : file = a.file
    · subst hfile
      have none : (fs.files a.dir)[a.file]? = none :=
        Std.ExtTreeMap.getElem?_eq_none unused
      simp [none]
    · simp [hfile, Ne.symm hfile]
  · simp [hdir, Ne.symm hdir]

/-- Storing the next chunk keeps everything that was accepted and adds the chunk. -/
theorem Holds.store {store : CompanionMediaStore} {fs : MediaFs} {h : List AcceptedChunk}
    (hh : Holds store.rootDir fs h) (sessionId : String) (bytes : List UInt8) :
    Holds store.rootDir (fs.write (nextChunk store fs sessionId bytes).dir
        (nextChunk store fs sessionId bytes).file bytes)
      (h ++ [nextChunk store fs sessionId bytes]) := by
  have index : (nextChunk store fs sessionId bytes).chunk.chunkIndex =
      fs.chunkCount (nextChunk store fs sessionId bytes).dir := rfl
  have hbytes : (nextChunk store fs sessionId bytes).bytes = bytes := rfl
  have fresh (b : AcceptedChunk) (hb : b ∈ h) := @Holds.fresh store fs h hh sessionId bytes b hb
  have leads := leads_nextChunk store fs sessionId bytes
  generalize nextChunk store fs sessionId bytes = a at index hbytes fresh leads ⊢
  subst hbytes
  have unused := hh.unused fresh
  have filed := hh.filed_write unused
  have chunkFiles (dir : String) : ∀ file ∈ (fs.write a.dir a.file a.bytes).files dir,
      startsWith file "chunk-" = true := by
    intro file hfile
    obtain ⟨bytes, hbytes⟩ := (Keyed.mem_iff_lookup _ _).mp hfile
    obtain ⟨b, -, -, hb, -⟩ := (filed dir file bytes).mp hbytes
    rw [← hb]
    exact startsWith_chunkFileName _
  have count (dir : String) : fs.chunkCount dir + (if a.dir = dir then 1 else 0) ≤
      (fs.write a.dir a.file a.bytes).chunkCount dir :=
    chunkCount_write unused a.bytes (hh.chunkFiles dir) (chunkFiles dir)
  refine ⟨filed, ?_, ?_, ?_, ?_, ?_⟩
  · intro dir
    rw [mem_dirs_write, hh.made]
    simp only [List.mem_append, List.mem_singleton, or_and_right, exists_or, exists_eq_left]
    rw [or_comm, eq_comm]
  · intro b hb
    rcases List.mem_append.mp hb with hold | hnew
    · exact hh.leads b hold
    · rw [List.mem_singleton.mp hnew]
      exact leads
  · intro b hb
    rcases List.mem_append.mp hb with hold | hnew
    · have passed := hh.passed b hold
      have grows := count b.dir
      omega
    · rw [List.mem_singleton.mp hnew, index]
      have grows := count a.dir
      rw [if_pos rfl] at grows
      omega
  · intro dir
    rw [size_write unused, hh.counted, List.countP_append, List.countP_singleton]
    simp only [decide_eq_true_eq]
  · rw [List.map_append, List.nodup_append]
    refine ⟨hh.distinct, List.nodup_singleton _, ?_⟩
    intro names hnames names' hnames' he
    obtain ⟨b, hb, hbn⟩ := List.mem_map.mp hnames
    rw [List.map_singleton, List.mem_singleton] at hnames'
    obtain ⟨hdir, hindex⟩ := AcceptedChunk.names_injective (hbn.trans (he.trans hnames'))
    exact fresh b hb hdir hindex

end MediaFs

/-- The chunks accepted for one session, in order. -/
def chunksOf (sessionId : String) (h : List AcceptedChunk) : List AcceptedChunk :=
  h.filter (fun a => a.sessionId = sessionId)

/-- No two sessions share a directory, and none has its own inside another's. -/
def Apart (ids : List String) : Prop :=
  ∀ a ∈ ids, ∀ b ∈ ids, a ≠ b → safePathSegment a ≠ safePathSegment b ∧ a ≠ ""

def Indexed (h : List AcceptedChunk) : Prop :=
  ∀ sessionId, (chunksOf sessionId h).map (fun a => a.chunk.chunkIndex) =
    List.range (chunksOf sessionId h).length

theorem Apart.of_append {ids ids' : List String} (h : Apart (ids ++ ids')) : Apart ids := by
  intro a ha b hb
  exact h a (List.mem_append_left _ ha) b (List.mem_append_left _ hb)

/-- Among sessions that are apart, the count of a directory is the number of its session's
chunks. -/
theorem chunkCount_of_apart {root : String} {fs : MediaFs} {h : List AcceptedChunk}
    (hh : fs.Holds root h) {sessionId : String}
    (apart : Apart (h.map AcceptedChunk.sessionId ++ [sessionId])) :
    fs.chunkCount (safePathSegment sessionId) = (chunksOf sessionId h).length := by
  have same (a : AcceptedChunk) (ha : a ∈ h) :
      a.dir = safePathSegment sessionId ↔ a.sessionId = sessionId := by
    constructor
    · intro hdir
      by_contra hne
      exact (apart a.sessionId (by simp; exact Or.inl ⟨a, ha, rfl⟩) sessionId (by simp) hne).1 hdir
    · intro hid
      rw [← hid]
      rfl
  have files : h.countP (fun a => a.dir = safePathSegment sessionId) =
      (chunksOf sessionId h).length := by
    rw [chunksOf, ← List.countP_eq_length_filter]
    apply List.countP_congr
    intro a ha
    rw [decide_eq_true_eq, decide_eq_true_eq]
    exact same a ha
  have strays : fs.strays (safePathSegment sessionId) = [] := by
    unfold MediaFs.strays
    split_ifs with hempty
    · -- the directory is the root, so every chunk was of this session
      rw [safePathSegment_eq_empty] at hempty
      have alone : fs.dirs.keys.filter (fun d => d ≠ "") = [] := by
        rw [List.filter_eq_nil_iff]
        intro d hd
        obtain ⟨a, ha, hdir⟩ := (hh.made d).mp (Std.ExtTreeMap.mem_keys.mp hd)
        have hid : a.sessionId = "" := by
          by_contra hne
          exact (apart sessionId (by simp) a.sessionId (by simp; exact Or.inl ⟨a, ha, rfl⟩)
            (by rw [hempty]; exact Ne.symm hne)).2 hempty
        have hroot : a.dir = "" := safePathSegment_eq_empty.mpr hid
        simp [← hdir, hroot]
      rw [alone]
      rfl
    · rfl
  rw [MediaFs.chunkCount_eq (hh.chunkFiles _), hh.counted, strays, files]
  rfl

theorem Indexed.store {store : CompanionMediaStore} {fs : MediaFs} {h : List AcceptedChunk}
    (hi : Indexed h) (hh : fs.Holds store.rootDir h) {sessionId : String} (bytes : List UInt8)
    (apart : Apart (h.map AcceptedChunk.sessionId ++ [sessionId])) :
    Indexed (h ++ [nextChunk store fs sessionId bytes]) := by
  have index : (nextChunk store fs sessionId bytes).chunk.chunkIndex =
      (chunksOf sessionId h).length := chunkCount_of_apart hh apart
  have named : (nextChunk store fs sessionId bytes).sessionId = sessionId := rfl
  intro id
  rw [chunksOf, List.filter_append]
  by_cases hid : sessionId = id
  · subst hid
    have one : [nextChunk store fs sessionId bytes].filter (fun a => a.sessionId = sessionId) =
        [nextChunk store fs sessionId bytes] := by simp [named]
    have before := hi sessionId
    rw [chunksOf] at before index
    rw [one, List.map_append, before, List.map_singleton, index, List.length_append,
      List.length_singleton, List.range_succ]
  · have none : [nextChunk store fs sessionId bytes].filter (fun a => a.sessionId = id) = [] := by
      simp [named, hid]
    rw [none, List.append_nil]
    exact hi id

section

variable (decodeBase64 : String → Option (List UInt8)) (store : CompanionMediaStore)

/-- The file system and the accepted chunks after calls on an empty root. -/
def storedFs (envelopes : List QuicEnvelope) : MediaFs :=
  run (mediaStep decodeBase64 store) MediaFs.empty envelopes

def acceptedChunks (envelopes : List QuicEnvelope) : List AcceptedChunk :=
  eventsOf (mediaStep decodeBase64 store) (mediaAccepts decodeBase64 store) MediaFs.empty envelopes

/-- One call keeps the record of accepted chunks, and their indices as long as the sessions are
apart. -/
theorem holds_step (fs : MediaFs) (h : List AcceptedChunk) (envelope : QuicEnvelope)
    (hh : fs.Holds store.rootDir h ∧ (Apart (h.map AcceptedChunk.sessionId) → Indexed h)) :
    (mediaStep decodeBase64 store fs envelope).Holds store.rootDir
        (h ++ mediaAccepts decodeBase64 store fs envelope) ∧
      (Apart ((h ++ mediaAccepts decodeBase64 store fs envelope).map AcceptedChunk.sessionId) →
        Indexed (h ++ mediaAccepts decodeBase64 store fs envelope)) := by
  obtain ⟨holds, indexed⟩ := hh
  rcases storeEnvelope_cases decodeBase64 store fs envelope with ⟨-, hstep, haccepts⟩ |
    ⟨sessionId, bytes, -, hstep, haccepts⟩
  · rw [hstep, haccepts, List.append_nil]
    exact ⟨holds, indexed⟩
  · rw [hstep, haccepts]
    refine ⟨holds.store sessionId bytes, ?_⟩
    rw [List.map_append]
    intro apart
    exact (indexed apart.of_append).store holds bytes apart

theorem holds_run (envelopes : List QuicEnvelope) :
    (storedFs decodeBase64 store envelopes).Holds store.rootDir
        (acceptedChunks decodeBase64 store envelopes) ∧
      (Apart ((acceptedChunks decodeBase64 store envelopes).map AcceptedChunk.sessionId) →
        Indexed (acceptedChunks decodeBase64 store envelopes)) := by
  have start : MediaFs.empty.Holds store.rootDir [] ∧
      (Apart (([] : List AcceptedChunk).map AcceptedChunk.sessionId) → Indexed []) :=
    ⟨MediaFs.holds_empty store.rootDir, fun _ _ => rfl⟩
  have h := run_history (fun fs h => MediaFs.Holds store.rootDir fs h ∧
    (Apart (h.map AcceptedChunk.sessionId) → Indexed h)) (holds_step decodeBase64 store) envelopes
    start
  rw [List.nil_append] at h
  exact h

/-- The accepted chunks are the well-formed ones, whatever the state. -/
theorem acceptedChunks_sessions (envelopes : List QuicEnvelope) :
    (acceptedChunks decodeBase64 store envelopes).map AcceptedChunk.sessionId =
      envelopes.filterMap (chunkSession decodeBase64) := by
  have from_any (fs : MediaFs) : (eventsOf (mediaStep decodeBase64 store)
      (mediaAccepts decodeBase64 store) fs envelopes).map AcceptedChunk.sessionId =
      envelopes.filterMap (chunkSession decodeBase64) := by
    induction envelopes generalizing fs with
    | nil => rfl
    | cons envelope envelopes ih =>
      rw [eventsOf_cons, List.map_append, ih, List.filterMap_cons]
      rcases storeEnvelope_cases decodeBase64 store fs envelope with ⟨hnone, -, haccepts⟩ |
        ⟨sessionId, bytes, hsome, -, haccepts⟩
      · rw [hnone, haccepts]
        rfl
      · rw [hsome, haccepts]
        rfl
  exact from_any MediaFs.empty

end

/-- What the store promises about the chunks it accepted. -/
structure MediaIntegrity (root : String) (fs : MediaFs) (h : List AcceptedChunk) : Prop where
  /-- Every chunk is at its path, below the root, in the directory of its session. -/
  placed : ∀ a ∈ h, Leads root a.chunk.path a.names
  /-- No chunk went to the path of another, and each still has its bytes. -/
  fresh : (h.map (fun a => a.chunk.path)).Nodup
  kept : ∀ a ∈ h, (fs.files a.dir)[a.file]? = some a.bytes
  indexed : Indexed h
  /-- The directory of a session lists the chunks of that session and nothing else. -/
  listed : ∀ a ∈ h, ∀ name, name ∈ fs.entries a.dir ↔
    ∃ b ∈ chunksOf a.sessionId h, b.file = name

namespace MediaFs.Holds

variable {root : String} {fs : MediaFs} {h : List AcceptedChunk}

theorem kept (hh : fs.Holds root h) {a : AcceptedChunk} (ha : a ∈ h) :
    (fs.files a.dir)[a.file]? = some a.bytes :=
  (hh.filed a.dir a.file a.bytes).mpr ⟨a, ha, rfl, rfl, rfl⟩

/-- Different places are different paths. -/
theorem fresh_paths (hh : fs.Holds root h) : (h.map (fun a => a.chunk.path)).Nodup := by
  have distinct := List.pairwise_map.mp hh.distinct
  apply List.pairwise_map.mpr
  refine distinct.imp_of_mem ?_
  intro a b ha hb hne hpath
  have hb' := hh.leads b hb
  rw [← hpath] at hb'
  exact hne ((hh.leads a ha).unique hb')

/-- What a directory lists, in the whole. -/
theorem mem_entries (hh : fs.Holds root h) (dir name : String) :
    name ∈ fs.entries dir ↔ (∃ a ∈ h, a.dir = dir ∧ a.file = name) ∨
      dir = "" ∧ name ≠ "" ∧ ∃ a ∈ h, a.dir = name := by
  have files : name ∈ (fs.files dir).keys ↔ ∃ a ∈ h, a.dir = dir ∧ a.file = name := by
    rw [Std.ExtTreeMap.mem_keys, Keyed.mem_iff_lookup]
    constructor
    · intro hfile
      obtain ⟨bytes, hbytes⟩ := hfile
      obtain ⟨a, ha, hdir, hname, -⟩ := (hh.filed dir name bytes).mp hbytes
      exact ⟨a, ha, hdir, hname⟩
    · intro hfile
      obtain ⟨a, ha, hdir, hname⟩ := hfile
      exact ⟨a.bytes, (hh.filed dir name a.bytes).mpr ⟨a, ha, hdir, hname, rfl⟩⟩
  rw [entries, List.mem_append, files]
  split_ifs with hdir
  · simp only [List.mem_filter, Std.ExtTreeMap.mem_keys, hh.made, decide_eq_true_eq, hdir,
      true_and]
    rw [and_comm]
  · simp [hdir]

/-- Where every directory lists its own session only, the sessions are apart. -/
theorem apart_of_listed (hh : fs.Holds root h)
    (listed : ∀ a ∈ h, ∀ name, name ∈ fs.entries a.dir ↔
      ∃ b ∈ chunksOf a.sessionId h, b.file = name) :
    Apart (h.map AcceptedChunk.sessionId) := by
  intro id hid id' hid' hne
  obtain ⟨a, ha, rfl⟩ := List.mem_map.mp hid
  obtain ⟨b, hb, rfl⟩ := List.mem_map.mp hid'
  refine ⟨?_, ?_⟩
  · -- a chunk of the one session stands in the shared directory, so in the other session's list
    intro hdir
    have hdir : a.dir = b.dir := hdir
    have mine : a.file ∈ fs.entries b.dir :=
      (hh.mem_entries b.dir a.file).mpr (Or.inl ⟨a, ha, hdir, rfl⟩)
    obtain ⟨c, hc, hfile⟩ := (listed b hb a.file).mp mine
    obtain ⟨hc, hsession⟩ := List.mem_filter.mp hc
    have hsession : c.sessionId = b.sessionId := of_decide_eq_true hsession
    have hcdir : c.dir = a.dir := by
      rw [hdir]
      exact congrArg safePathSegment hsession
    have same : c.names = a.names := by rw [AcceptedChunk.names, AcceptedChunk.names, hcdir, hfile]
    have hca : c = a := List.inj_on_of_nodup_map hh.distinct hc ha same
    exact hne (hca ▸ hsession)
  · -- the root lists the directory of the other session
    intro hempty
    have hroot : a.dir = "" := safePathSegment_eq_empty.mpr hempty
    have hother : b.dir ≠ "" := fun he => hne (hempty.trans (safePathSegment_eq_empty.mp he).symm)
    have mine : b.dir ∈ fs.entries a.dir :=
      (hh.mem_entries a.dir b.dir).mpr (Or.inr ⟨hroot, hother, b, hb, rfl⟩)
    obtain ⟨c, -, hfile⟩ := (listed a ha b.dir).mp mine
    exact safePathSegment_ne_chunkFileName b.sessionId c.chunk.chunkIndex hfile.symm

theorem listed_of_apart (hh : fs.Holds root h) (apart : Apart (h.map AcceptedChunk.sessionId))
    {a : AcceptedChunk} (ha : a ∈ h) (name : String) :
    name ∈ fs.entries a.dir ↔ ∃ b ∈ chunksOf a.sessionId h, b.file = name := by
  have session {b : AcceptedChunk} (hb : b ∈ h) (hne : b.sessionId ≠ a.sessionId) :=
    apart b.sessionId (List.mem_map_of_mem hb) a.sessionId (List.mem_map_of_mem ha) hne
  rw [hh.mem_entries]
  constructor
  · intro hentry
    rcases hentry with ⟨b, hb, hdir, hfile⟩ | ⟨hroot, hname, b, hb, hdir⟩
    · have hid : b.sessionId = a.sessionId := by
        by_contra hne
        exact (session hb hne).1 hdir
      exact ⟨b, List.mem_filter.mpr ⟨hb, decide_eq_true hid⟩, hfile⟩
    · -- another session's directory in the root: the sessions would not be apart
      have hempty : a.sessionId = "" := safePathSegment_eq_empty.mp hroot
      have hne : a.sessionId ≠ b.sessionId := by
        intro he
        rw [hempty] at he
        exact hname (hdir.symm.trans (safePathSegment_eq_empty.mpr he.symm))
      exact absurd hempty (apart a.sessionId (List.mem_map_of_mem ha) b.sessionId
        (List.mem_map_of_mem hb) hne).2
  · intro hfile
    obtain ⟨b, hb, hname⟩ := hfile
    obtain ⟨hb, hid⟩ := List.mem_filter.mp hb
    have hid : b.sessionId = a.sessionId := of_decide_eq_true hid
    exact Or.inl ⟨b, hb, congrArg safePathSegment hid, hname⟩

end MediaFs.Holds

/-- For every run of calls on an empty root: the store keeps its promises exactly when the sessions
that the well-formed chunks name are apart. -/
theorem media_integrity_iff (decodeBase64 : String → Option (List UInt8))
    (store : CompanionMediaStore) (envelopes : List QuicEnvelope) :
    MediaIntegrity store.rootDir (storedFs decodeBase64 store envelopes)
        (acceptedChunks decodeBase64 store envelopes) ↔
      Apart (envelopes.filterMap (chunkSession decodeBase64)) := by
  obtain ⟨holds, indexed⟩ := holds_run decodeBase64 store envelopes
  rw [← acceptedChunks_sessions decodeBase64 store envelopes]
  constructor
  · intro h
    exact holds.apart_of_listed h.listed
  · intro apart
    exact ⟨holds.leads, holds.fresh_paths, fun a ha => holds.kept ha, indexed apart,
      fun a ha => holds.listed_of_apart apart ha⟩

/-- A chunk of a session, without bytes. -/
def emptyChunk (sessionId : String) : QuicEnvelope :=
  { coreEnvelope "chunk" none (some "phone") .streamChunk (.object
      [("sessionId", .string sessionId), ("encoding", .string "base64"), ("data", .string "")]) with
    channel := .media }

/-- The decoder on the empty text. -/
def decodeNothing (data : String) : Option (List UInt8) := if data = "" then some [] else none

/-- The sessions `a/b` and `a_b` share a directory: the first chunk of the second one gets index 1
there. -/
theorem media_sessions_collide :
    ¬∀ (store : CompanionMediaStore) (envelopes : List QuicEnvelope),
      MediaIntegrity store.rootDir (storedFs decodeNothing store envelopes)
        (acceptedChunks decodeNothing store envelopes) := by
  intro h
  have indexed := (h ⟨"media"⟩ [emptyChunk "a/b", emptyChunk "a_b"]).indexed "a_b"
  have second : (chunksOf "a_b" (acceptedChunks decodeNothing ⟨"media"⟩
      [emptyChunk "a/b", emptyChunk "a_b"])).map (fun a => a.chunk.chunkIndex) = [1] := by decide
  rw [second] at indexed
  have first := congrArg List.head? indexed
  rw [List.head?_range] at first
  split_ifs at first
  · exact absurd first (by decide)
  · exact absurd first (by decide)

end AdbControl.Companion
