import AdbControl.Web.FilePanel

namespace AdbControl.Web

open Framework
open AdbControl.Server (FileAnswer FileEntry FileEnv FileRequest InSharedStorage parseFileListing)

/-- Names that lead down to a directory other than the root -/
structure IsPlace (here : List (List Char)) : Prop where
  names : ∀ name ∈ here, IsName name
  ne_nil : here ≠ []

section Places

variable {here parts : List (List Char)}

theorem IsPlace.isPart (h : IsPlace here) : ∀ part ∈ here, IsPart part :=
  fun part hpart => isPart_of_isName (h.names part hpart)

theorem isPlace_sdcard : IsPlace Server.sdcard := ⟨isName_sdcard, by decide⟩

theorem isPlace_homed (h : ∀ name ∈ parts, IsName name) : IsPlace (homed parts) := by
  unfold homed
  split_ifs with hnil
  · exact isPlace_sdcard
  · exact ⟨h, hnil⟩

theorem IsPlace.above (h : IsPlace here) : IsPlace (above here) := by
  unfold Web.above
  split_ifs
  · exact h
  · exact isPlace_homed fun name hname => h.names name (List.mem_of_mem_dropLast hname)

theorem IsPlace.take (h : IsPlace here) (k : Nat) : IsPlace (here.take (k + 1)) := by
  refine ⟨fun name hname => h.names name (List.mem_of_mem_take hname), ?_⟩
  rw [ne_eq, List.take_eq_nil_iff, not_or]
  exact ⟨Nat.succ_ne_zero k, h.ne_nil⟩

theorem IsPlace.resolve (h : IsPlace here) (path : List Char) :
    ∀ name ∈ resolve here (pathNames path), IsName name := by
  intro name hname
  rcases mem_resolve hname with hhere | ⟨hmem, hparent⟩
  · exact h.names name hhere
  · obtain ⟨slash, hne, hdot⟩ := mem_pathNames hmem
    exact ⟨slash, hne, hdot, hparent⟩

theorem resolve_nil (h : ∀ name ∈ here, IsName name) : Framework.resolve [] here = here := by
  have down (start : List (List Char)) : Framework.resolve start here = start ++ here := by
    induction here generalizing start with
    | nil => exact (List.append_nil start).symm
    | cons name here ih =>
      obtain ⟨hname, hhere⟩ := List.forall_mem_cons.mp h
      have hdown : enter start name = start ++ [name] := if_neg hname.2.2.2
      show Framework.resolve (enter start name) here = _
      rw [hdown, ih hhere, List.append_assoc, List.singleton_append]
  exact down []

/-- An entry of a listing is where its name leads from the directory. -/
theorem entry_pathOf (h : IsPlace here) {output : String} {entry : FileEntry}
    (hentry : entry ∈ parseFileListing (pathOf here) output) :
    entry.path = pathOf (Framework.resolve here (pathNames entry.name.toList)) := by
  have hbase : (pathOf here).toList = rooted here := by
    rw [pathOf_eq_rooted, String.toList_ofList]
  have hslash : (rooted here).head? = some '/' := by
    rw [← hbase, toList_pathOf]
    rfl
  obtain ⟨rest, hrest⟩ : ∃ rest, rooted here = '/' :: rest := by
    cases hchars : rooted here with
    | nil => simp [hchars] at hslash
    | cons c rest =>
      rw [hchars, List.head?_cons, Option.some.injEq] at hslash
      exact ⟨rest, by rw [hslash]⟩
  have hjoined : joinClean (rooted here) entry.name.toList =
      rooted (Framework.resolve here (pathNames entry.name.toList)) := by
    have hne : rooted here ≠ [] := by simp [hrest]
    have hhead : (rooted here ++ '/' :: entry.name.toList).head? = some '/' := by simp [hrest]
    rw [joinClean, if_neg (fun hboth => hne hboth.1), if_neg hne, cleanPath, if_pos hhead, place,
      pathNames_append, pathNames_rooted h.names, resolve_append, resolve_nil h.names]
  rw [Server.entry_path hentry, hbase, hjoined, pathOf_eq_rooted]

theorem pathOf_ne_empty (parts : List (List Char)) : pathOf parts ≠ "" := by
  intro h
  have hchars := toList_pathOf parts
  rw [h] at hchars
  cases hchars

/-- Opening an entry of the listing of a directory -/
theorem resolveOpenPath_listed (h : IsPlace here) {output : String} {entry : FileEntry}
    (hentry : entry ∈ parseFileListing (pathOf here) output) (hopen : canOpenEntry entry = true) :
    resolveOpenPath (pathOf here) entry =
      pathOf (homed (Framework.resolve here (pathNames entry.name.toList))) := by
  have hpath := entry_pathOf h hentry
  have hne : entry.path ≠ "" := by
    rw [hpath]
    exact pathOf_ne_empty _
  have parts : ∀ part ∈ Framework.resolve here (pathNames entry.name.toList), IsPart part :=
    fun part hpart => isPart_of_isName (h.resolve _ part hpart)
  rw [resolveOpenPath, hopen, Bool.not_true, if_neg Bool.false_ne_true, if_pos hne,
    normalizeRemotePath_eq, hpath, splitParts_pathOf parts]

/-- The directory itself, the one above it, one on the way down to it, or one that is listed in it. -/
inductive OneMove (here : List (List Char)) (entries : List FileEntry) : List (List Char) → Prop
  | stay : OneMove here entries here
  | up : OneMove here entries (above here)
  | back {k : Nat} (hk : k < here.length) : OneMove here entries (here.take (k + 1))
  | down {entry : FileEntry} (hentry : entry ∈ entries) (directory : canOpenEntry entry = true) :
      OneMove here entries (homed (Framework.resolve here (pathNames entry.name.toList)))

theorem IsPlace.move {entries : List FileEntry} {there : List (List Char)} (h : IsPlace here)
    (hmove : OneMove here entries there) : IsPlace there := by
  cases hmove with
  | stay => exact h
  | up => exact h.above
  | back hk => exact h.take _
  | down hentry hdirectory => exact isPlace_homed (h.resolve _)

end Places

namespace FilePanel

variable {deviceID : String} {localeCompare : String → String → Int} {s s' : FilePanel} {a : PanelAct}
variable {h more : List PanelNote}

section Requests

variable {base : FilePanel} {request : FileRequest} {ends : Bool}

theorem requests_call (hstep : s.step deviceID localeCompare a = base.call request ends)
    (hlength : base.calls.length = s.calls.length) : s.requests deviceID localeCompare a = [request] := by
  rw [requests, hstep, call, ← hlength, List.drop_left]
  rfl

theorem requests_nil (hlength : (s.step deviceID localeCompare a).calls.length = s.calls.length) :
    s.requests deviceID localeCompare a = [] := by
  rw [requests, ← hlength, List.drop_length]
  rfl

end Requests

theorem mem_sortedEntries {entry : FileEntry} : entry ∈ s.sortedEntries localeCompare ↔ entry ∈ s.entries :=
  List.mem_mergeSort

theorem lastListed_append_quiet (hquiet : ∀ note ∈ more, note.listing? = none) :
    lastListed (h ++ more) = lastListed h := by
  rw [lastListed, List.filterMap_append, List.filterMap_eq_nil_iff.mpr hquiet, List.append_nil]
  rfl

theorem lastListed_listed (path : String) (entries : List FileEntry) :
    lastListed (h ++ [.listed path entries]) = (path, entries) := by
  simp [lastListed, PanelNote.listing?]

/-- What is shown has been listed. -/
theorem listed_of_mem {entry : FileEntry} (hentry : entry ∈ (lastListed h).2) :
    .listed (lastListed h).1 (lastListed h).2 ∈ h := by
  unfold lastListed at hentry ⊢
  cases hlast : (h.filterMap PanelNote.listing?).getLast? with
  | none =>
    rw [hlast] at hentry
    cases hentry
  | some shown =>
    obtain ⟨note, hnote, hshown⟩ := List.mem_filterMap.mp (List.mem_of_getLast? hlast)
    cases note with
    | listed path entries =>
      obtain rfl := Option.some.inj hshown
      exact hnote
    | _ => cases hshown

/-- The panel is at a place, shows the listing that arrived last, and has been asked to delete what was
listed. -/
structure Kept (s : FilePanel) (h : List PanelNote) : Prop where
  place : ∃ here, IsPlace here ∧ s.currentPath = pathOf here
  shown : (s.currentPath, s.entries) = lastListed h
  read : s.entries = [] ∨ ∃ output, s.entries = parseFileListing s.currentPath output
  called : ∀ call ∈ s.calls, .requested call.request ∈ h
  asked : ∀ path, .requested (.files path) ∈ h → ∃ here, IsPlace here ∧ path = pathOf here
  pending : ∀ entry ∈ s.pendingDelete, .asked entry ∈ h ∧
    ∃ path entries, .listed path entries ∈ h ∧ entry ∈ entries

/-- What is shown stays, and nothing more is called or about to be deleted. -/
structure Frame (s s' : FilePanel) : Prop where
  path : s'.currentPath = s.currentPath
  entries : s'.entries = s.entries
  calls : s'.calls.map PanelCall.request = s.calls.map PanelCall.request
  pending : s'.pendingDelete = s.pendingDelete ∨ s'.pendingDelete = none

theorem Frame.refl (s : FilePanel) : Frame s s := ⟨rfl, rfl, rfl, Or.inl rfl⟩

/-- What adb is given is for a call, and changes only what may be changed. -/
def Ran (s : FilePanel) (notes : List PanelNote) : Prop :=
  ∀ note ∈ notes, ∃ call ∈ s.calls, (∃ args, note = .ran call.request args) ∧
    ((∀ path, call.request ≠ .files path) → call.request.Changes)

theorem ran_nil : Ran s [] := fun _ hnote => absurd hnote List.not_mem_nil

/-- The path is of a place that is one move away. -/
def Reaches (current : String) (entries : List FileEntry) (path : String) : Prop :=
  ∃ here there, IsPlace here ∧ current = pathOf here ∧ OneMove here entries there ∧ path = pathOf there

/-- What the panel may request: a listing one move away, and a change of what it shows or has shown. -/
def Asks (s s' : FilePanel) : FileRequest → Prop
  | .files path => Reaches s.currentPath s.entries path
  | .createDirectory path => ∃ here name, IsPlace here ∧ s.currentPath = pathOf here ∧ IsPart name ∧
      path = pathOf (here ++ [name])
  | .deleteFile path => (∃ entry ∈ s.pendingDelete, path = entry.path) ∧ s'.pendingDelete = none
  | .uploadFile path _ => path = s.currentPath

/-- What a step can do, and what is noted of it. -/
inductive Moves (s : FilePanel) : FilePanel → List PanelNote → Prop
  | stays {s' : FilePanel} {ran : List PanelNote} (frame : Frame s s') (hran : Ran s ran) : Moves s s' ran
  | marks {entry : FileEntry} (shown : entry ∈ s.entries) :
      Moves s { s with pendingDelete := some entry } [.asked entry]
  | requests {base : FilePanel} {ran : List PanelNote} {request : FileRequest} {ends : Bool}
      (frame : Frame s base) (hran : Ran s ran) (asks : Asks s base request) :
      Moves s (base.call request ends) (ran ++ [.requested request])
  | lists {base : FilePanel} {ran : List PanelNote} {call : PanelCall} {path output : String}
      (frame : Frame s base) (hran : Ran s ran) (hcall : call ∈ s.calls)
      (hrequest : call.request = .files path) :
      Moves s { base with currentPath := path, entries := parseFileListing path output }
        (ran ++ [.listed path (parseFileListing path output)])

theorem Ran.settled {call : PanelCall} (hcall : call ∈ s.calls) (env : Option FileEnv) :
    Ran s ((env.elim (FileAnswer.failed 0 none, []) fun env => call.request.serve deviceID env).2.map
      (PanelNote.ran call.request)) := by
  intro note hnote
  obtain ⟨args, hargs, rfl⟩ := List.mem_map.mp hnote
  refine ⟨call, hcall, ⟨args, rfl⟩, ?_⟩
  intro hchange
  cases env with
  | none => cases hargs
  | some env => exact Server.serve_changes hchange hargs

theorem frame_answered {k : Nat} {call : PanelCall} (hcall : s.calls[k]? = some call) :
    Frame s { s with calls := s.calls.set k { call with awaited := false } } := by
  refine ⟨rfl, rfl, ?_, Or.inl rfl⟩
  obtain ⟨hk, rfl⟩ := List.getElem?_eq_some_iff.mp hcall
  have hlength : k < (s.calls.map PanelCall.request).length := by rwa [List.length_map]
  have hsame : s.calls[k].request = (s.calls.map PanelCall.request)[k] := (List.getElem_map _).symm
  show (s.calls.set k _).map PanelCall.request = _
  rw [List.map_set]
  show (s.calls.map PanelCall.request).set k s.calls[k].request = _
  rw [hsame, List.set_getElem_self]

/-- A call settles with its listing, with the rest of its work, or without anything. -/
theorem settles_cases {k : Nat} {env : Option FileEnv} {received : Bool} {call : PanelCall}
    {answer : FileAnswer} {commands : List (List String)}
    (hsettles : s.settles deviceID k env received = some (call, answer, commands)) :
    s.calls[k]? = some call ∧ Ran s (commands.map (PanelNote.ran call.request)) ∧
      ((∀ asked, call.request = .files asked → asked ≠ "") → ∀ path entries,
        answer = .listing path entries →
          call.request = .files path ∧ ∃ output, entries = parseFileListing path output) := by
  unfold settles at hsettles
  cases hcall : s.calls[k]? with
  | none =>
    rw [hcall] at hsettles
    cases hsettles
  | some found =>
    rw [hcall] at hsettles
    simp only at hsettles
    split_ifs at hsettles
    all_goals
      simp only [Option.some.injEq, Prod.mk.injEq] at hsettles
      obtain ⟨rfl, rfl, rfl⟩ := hsettles
      refine ⟨rfl, Ran.settled (List.mem_of_getElem? hcall) env, ?_⟩
      intro hnamed path entries hanswer
    · cases env with
      | none => cases hanswer
      | some env =>
        simp only [Option.elim_some] at hanswer
        by_cases hfiles : ∃ asked, found.request = .files asked
        · obtain ⟨asked, hasked⟩ := hfiles
          rw [hasked] at hanswer
          rcases @Server.serve_files deviceID env asked (hnamed asked hasked) with hbad | hbad | ⟨output, hgood⟩
          · rw [hbad] at hanswer
            cases hanswer
          · rw [hbad] at hanswer
            cases hanswer
          · rw [hgood, FileAnswer.listing.injEq] at hanswer
            obtain ⟨rfl, rfl⟩ := hanswer
            exact ⟨hasked, output, rfl⟩
        · push Not at hfiles
          exact absurd hanswer (Server.serve_change hfiles path entries)
    · cases hanswer

theorem Kept.reload (hk : Kept s h) :
    Reaches s.currentPath s.entries (normalizeRemotePath s.currentPath) := by
  obtain ⟨here, hhere, hpath⟩ := hk.place
  refine ⟨here, here, hhere, hpath, .stay, ?_⟩
  rw [hpath, normalizeRemotePath_pathOf hhere.isPart hhere.ne_nil]

theorem Frame.length {base : FilePanel} (frame : Frame s base) : base.calls.length = s.calls.length := by
  rw [← List.length_map PanelCall.request, frame.calls, List.length_map]

theorem Frame.moves_stay (frame : Frame s s') (hstep : s.step deviceID localeCompare a = s')
    (hran : Ran s (s.effects deviceID localeCompare a)) :
    Moves s (s.step deviceID localeCompare a) (s.notes deviceID localeCompare a) := by
  have hnone : s.requests deviceID localeCompare a = [] := requests_nil (by rw [hstep, frame.length])
  rw [notes, hnone, hstep, List.map_nil, List.append_nil]
  exact .stays frame hran

theorem Frame.moves_call {base : FilePanel} {request : FileRequest} {ends : Bool} (frame : Frame s base)
    (hstep : s.step deviceID localeCompare a = base.call request ends)
    (hran : Ran s (s.effects deviceID localeCompare a)) (asks : Asks s base request) :
    Moves s (s.step deviceID localeCompare a) (s.notes deviceID localeCompare a) := by
  have hone : s.requests deviceID localeCompare a = [request] := requests_call hstep frame.length
  rw [notes, hone, hstep]
  exact .requests frame hran asks

theorem Frame.moves_load {base : FilePanel} {path : String} {ends : Bool} (frame : Frame s base)
    (hstep : s.step deviceID localeCompare a = base.load path ends)
    (hran : Ran s (s.effects deviceID localeCompare a))
    (hplace : Reaches s.currentPath s.entries (normalizeRemotePath path)) :
    Moves s (s.step deviceID localeCompare a) (s.notes deviceID localeCompare a) := by
  have loading : Frame s { base with loading := true } :=
    ⟨frame.path, frame.entries, frame.calls, frame.pending⟩
  exact loading.moves_call hstep hran hplace

/-- A call settles with a listing, with a reload, or with nothing more. -/
theorem Kept.settle_moves (hk : Kept s h) (k : Nat) (env : Option FileEnv) (received : Bool) :
    Moves s (s.step deviceID localeCompare (.answer k env received))
      (s.notes deviceID localeCompare (.answer k env received)) := by
  cases hsettles : s.settles deviceID k env received with
  | none =>
    apply (Frame.refl s).moves_stay
    · simp only [step, hsettles]
    · simp only [effects, hsettles]
      exact ran_nil
  | some settled =>
    obtain ⟨call, answer, commands⟩ := settled
    obtain ⟨hcall, hran, hread⟩ := settles_cases hsettles
    have hasked (path : String) (hrequest : call.request = .files path) :
        ∃ here, IsPlace here ∧ path = pathOf here :=
      hk.asked path (hrequest ▸ hk.called call (List.mem_of_getElem? hcall))
    have frame := frame_answered hcall
    have hstep : s.step deviceID localeCompare (.answer k env received) =
        FilePanel.settle { s with calls := s.calls.set k { call with awaited := false } } call answer := by
      simp only [step, hsettles]
    generalize ({ s with calls := s.calls.set k { call with awaited := false } } : FilePanel) = base
      at frame hstep
    have hreload : Reaches s.currentPath s.entries (normalizeRemotePath base.currentPath) := by
      rw [frame.path]
      exact hk.reload
    have heffects (hunlisted : ∀ path entries, answer ≠ .listing path entries) :
        Ran s (s.effects deviceID localeCompare (.answer k env received)) := by
      simp only [effects, hsettles]
      rwa [List.append_nil]
    cases answer with
    | listing path entries =>
      have hnamed (asked : String) (hrequest : call.request = .files asked) : asked ≠ "" := by
        obtain ⟨here, -, rfl⟩ := hasked asked hrequest
        exact pathOf_ne_empty here
      obtain ⟨hrequest, output, rfl⟩ := hread hnamed path entries rfl
      obtain ⟨here, hhere, rfl⟩ := hasked path hrequest
      have hnone : s.requests deviceID localeCompare (.answer k env received) = [] := by
        apply requests_nil
        rw [hstep, settle]
        exact frame.length
      have settled : Frame s { base with loading := false, creating := base.creating && !call.ends } :=
        ⟨frame.path, frame.entries, frame.calls, frame.pending⟩
      have hmoves := @Moves.lists s _ _ call (pathOf here) output settled hran (List.mem_of_getElem? hcall)
        hrequest
      rw [notes, hnone, hstep, List.map_nil, List.append_nil]
      simp only [effects, hsettles, settle, normalizeRemotePath_pathOf hhere.isPart hhere.ne_nil]
      exact hmoves
    | done =>
      have hunlisted := heffects (by simp)
      cases hrequest : call.request with
      | createDirectory path =>
        have cleared : Frame s { base with newFolderName := "" } :=
          ⟨frame.path, frame.entries, frame.calls, frame.pending⟩
        exact cleared.moves_load (hstep.trans (by simp only [settle, hrequest]; rfl)) hunlisted hreload
      | files path =>
        exact frame.moves_load (hstep.trans (by simp only [settle, hrequest]; rfl)) hunlisted hreload
      | deleteFile path =>
        exact frame.moves_load (hstep.trans (by simp only [settle, hrequest]; rfl)) hunlisted hreload
      | uploadFile path fileName =>
        exact frame.moves_load (hstep.trans (by simp only [settle, hrequest]; rfl)) hunlisted hreload
    | failed status e =>
      have hunlisted := heffects (by simp)
      refine Frame.moves_stay ?_ hstep hunlisted
      simp only [settle]
      split <;> exact ⟨frame.path, frame.entries, frame.calls, frame.pending⟩

theorem Kept.step_moves (hk : Kept s h) (a : PanelAct) :
    Moves s (s.step deviceID localeCompare a) (s.notes deviceID localeCompare a) := by
  have hreload := hk.reload
  obtain ⟨here, hhere, hpath⟩ := hk.place
  have hquiet (heffects : s.effects deviceID localeCompare a = []) :
      Ran s (s.effects deviceID localeCompare a) := by
    rw [heffects]
    exact ran_nil
  have hload (path : String) (ends : Bool) (hstep : s.step deviceID localeCompare a = s.load path ends)
      (heffects : s.effects deviceID localeCompare a = [])
      (hplace : Reaches s.currentPath s.entries (normalizeRemotePath path)) :
      Moves s (s.step deviceID localeCompare a) (s.notes deviceID localeCompare a) :=
    (Frame.refl s).moves_load hstep (hquiet heffects) hplace
  have hstay (hstep : s.step deviceID localeCompare a = s)
      (heffects : s.effects deviceID localeCompare a = []) :
      Moves s (s.step deviceID localeCompare a) (s.notes deviceID localeCompare a) :=
    (Frame.refl s).moves_stay hstep (hquiet heffects)
  cases a with
  | refresh =>
    by_cases hloading : s.loading
    · exact hstay (if_pos hloading) rfl
    · exact hload s.currentPath false (if_neg hloading) rfl hreload
  | up =>
    by_cases hloading : s.loading
    · exact hstay (if_pos hloading) rfl
    · refine hload (parentRemotePath s.currentPath) false (if_neg hloading) rfl
        ⟨here, above here, hhere, hpath, .up, ?_⟩
      rw [hpath, parentRemotePath_pathOf hhere.isPart hhere.ne_nil,
        normalizeRemotePath_pathOf hhere.above.isPart hhere.above.ne_nil]
  | segment index =>
    have hsegment := pathSegments_pathOf hhere.isPart hhere.ne_nil index
    rw [← hpath] at hsegment
    cases hfound : (pathSegments s.currentPath)[index]? with
    | none => exact hstay (by simp only [step, hfound]) rfl
    | some segment =>
      rw [hfound, Option.map_some] at hsegment
      split_ifs at hsegment with hindex
      refine hload segment.path false (by simp only [step, hfound]) rfl
        ⟨here, here.take (index + 1), hhere, hpath, .back hindex, ?_⟩
      rw [Option.some.inj hsegment,
        normalizeRemotePath_pathOf (hhere.take index).isPart (hhere.take index).ne_nil]
  | openEntry index =>
    cases hfound : (s.sortedEntries localeCompare)[index]? with
    | none => exact hstay (by simp only [step, hfound]) rfl
    | some entry =>
      by_cases hopen : (canOpenEntry entry && !s.loading) = true
      · refine hload (resolveOpenPath s.currentPath entry) false (by simp only [step, hfound, if_pos hopen])
          rfl ?_
        have hmem : entry ∈ s.entries := mem_sortedEntries.mp (List.mem_of_getElem? hfound)
        rcases hk.read with hnil | ⟨output, houtput⟩
        · rw [hnil] at hmem
          cases hmem
        · rw [Bool.and_eq_true] at hopen
          have hlisted : entry ∈ parseFileListing (pathOf here) output := by rwa [houtput, hpath] at hmem
          have htarget := isPlace_homed (hhere.resolve entry.name.toList)
          refine ⟨here, _, hhere, hpath, .down hmem hopen.1, ?_⟩
          rw [hpath, resolveOpenPath_listed hhere hlisted hopen.1,
            normalizeRemotePath_pathOf htarget.isPart htarget.ne_nil]
      · exact hstay (by simp only [step, hfound, if_neg hopen]) rfl
  | upload fileName =>
    have hstep : s.step deviceID localeCompare (.upload fileName) =
        s.call (.uploadFile s.currentPath fileName) false := rfl
    exact (Frame.refl s).moves_call hstep (hquiet rfl) rfl
  | typeName text =>
    have frame : Frame s { s with newFolderName := text } := ⟨rfl, rfl, rfl, Or.inl rfl⟩
    exact frame.moves_stay rfl (hquiet rfl)
  | createFolder =>
    by_cases hinvalid : s.creating ∨ trimScript s.newFolderName = "" ∨
        '/' ∈ (trimScript s.newFolderName).toList ∨ '\\' ∈ (trimScript s.newFolderName).toList
    · exact hstay (if_pos hinvalid) rfl
    · have frame : Frame s { s with creating := true } := ⟨rfl, rfl, rfl, Or.inl rfl⟩
      have named : IsPart (trimScript s.newFolderName).toList := by
        push Not at hinvalid
        refine ⟨hinvalid.2.2.1, ?_⟩
        intro hempty
        exact hinvalid.2.1 (String.toList_injective hempty)
      have hstep : s.step deviceID localeCompare .createFolder = FilePanel.call { s with creating := true }
          (.createDirectory (joinRemotePath s.currentPath (trimScript s.newFolderName))) false :=
        if_neg hinvalid
      refine frame.moves_call hstep (hquiet rfl) ⟨here, _, hhere, hpath, named, ?_⟩
      rw [joinRemotePath_eq, hpath, splitParts_pathOf hhere.isPart, splitParts_part named,
        homed_of_ne_nil (by simp)]
  | askDelete index =>
    cases hfound : (s.sortedEntries localeCompare)[index]? with
    | none => exact hstay (by simp only [step, hfound]) (by simp only [effects, hfound]; rfl)
    | some entry =>
      have hnone : s.requests deviceID localeCompare (.askDelete index) = [] := by
        apply requests_nil
        simp only [step, hfound]
      rw [notes, hnone]
      simp only [effects, step, hfound]
      exact .marks (mem_sortedEntries.mp (List.mem_of_getElem? hfound))
  | cancelDelete =>
    have frame : Frame s { s with pendingDelete := none } := ⟨rfl, rfl, rfl, Or.inr rfl⟩
    exact frame.moves_stay rfl (hquiet rfl)
  | removePending =>
    cases hpending : s.pendingDelete with
    | none => exact hstay (by simp only [step, hpending]) rfl
    | some entry =>
      have frame : Frame s { s with pendingDelete := none } := ⟨rfl, rfl, rfl, Or.inr rfl⟩
      have hstep : s.step deviceID localeCompare .removePending =
          FilePanel.call { s with pendingDelete := none } (.deleteFile entry.path) false := by
        simp only [step, hpending]
      exact frame.moves_call hstep (hquiet rfl) ⟨⟨entry, hpending, rfl⟩, rfl⟩
  | answer k env received => exact hk.settle_moves k env received

theorem Ran.quiet {ran : List PanelNote} (hran : Ran s ran) : ∀ note ∈ ran, note.listing? = none := by
  intro note hnote
  obtain ⟨call, -, ⟨args, rfl⟩, -⟩ := hran note hnote
  rfl

theorem Ran.unasked {ran : List PanelNote} (hran : Ran s ran) {request : FileRequest} :
    .requested request ∉ ran := by
  intro hmem
  obtain ⟨call, -, ⟨args, hnote⟩, -⟩ := hran _ hmem
  cases hnote

theorem Frame.called {base : FilePanel} (frame : Frame s base) {call : PanelCall} (hcall : call ∈ base.calls) :
    ∃ old ∈ s.calls, old.request = call.request := by
  have hmem : call.request ∈ s.calls.map PanelCall.request := by
    rw [← frame.calls]
    exact List.mem_map_of_mem hcall
  exact List.mem_map.mp hmem

theorem Frame.still {base : FilePanel} (frame : Frame s base) {entry : FileEntry}
    (hentry : entry ∈ base.pendingDelete) : entry ∈ s.pendingDelete := by
  rcases frame.pending with hsame | hnone
  · rwa [hsame] at hentry
  · rw [hnone] at hentry
    cases hentry

/-- A step keeps what has been listed, called and asked for. -/
theorem Kept.frame (hk : Kept s h) {base : FilePanel} (frame : Frame s base)
    (hquiet : ∀ note ∈ more, note.listing? = none)
    (hfiles : ∀ path, .requested (.files path) ∈ more → ∃ here, IsPlace here ∧ path = pathOf here) :
    Kept base (h ++ more) := by
  constructor
  · rw [frame.path]
    exact hk.place
  · rw [frame.path, frame.entries, lastListed_append_quiet hquiet]
    exact hk.shown
  · rw [frame.path, frame.entries]
    exact hk.read
  · intro call hcall
    obtain ⟨old, hold, hsame⟩ := frame.called hcall
    exact List.mem_append_left more (hsame ▸ hk.called old hold)
  · intro path hmem
    rcases List.mem_append.mp hmem with hold | hnew
    · exact hk.asked path hold
    · exact hfiles path hnew
  · intro entry hentry
    obtain ⟨hasked, path, entries, hlisted, hmem⟩ := hk.pending entry (frame.still hentry)
    exact ⟨List.mem_append_left more hasked, path, entries, List.mem_append_left more hlisted, hmem⟩

theorem Kept.step (hk : Kept s h) (hmoves : Moves s s' more) : Kept s' (h ++ more) := by
  cases hmoves with
  | stays frame hran => exact hk.frame frame hran.quiet fun path hmem => absurd hmem hran.unasked
  | @marks entry hshown =>
    have hsame : Kept s (h ++ [.asked entry]) :=
      hk.frame (Frame.refl s) (by simp [PanelNote.listing?]) (by simp)
    refine ⟨hsame.place, hsame.shown, hsame.read, hsame.called, hsame.asked, ?_⟩
    rintro other hother
    obtain rfl := Option.some.inj hother
    have hlast : entry ∈ (lastListed h).2 := by rwa [← hk.shown]
    exact ⟨List.mem_append_right h (List.mem_singleton_self _), _, _,
      List.mem_append_left _ (listed_of_mem hlast), hlast⟩
  | @requests base ran request ends frame hran hasks =>
    have hsame : Kept base (h ++ (ran ++ [.requested request])) := by
      apply hk.frame frame
      · intro note hnote
        rcases List.mem_append.mp hnote with hold | hnew
        · exact hran.quiet note hold
        · rw [List.mem_singleton.mp hnew]
          rfl
      · intro path hmem
        rcases List.mem_append.mp hmem with hold | hnew
        · exact absurd hold hran.unasked
        · rw [List.mem_singleton, PanelNote.requested.injEq] at hnew
          subst hnew
          obtain ⟨here, there, hhere, -, hmove, rfl⟩ := hasks
          exact ⟨there, hhere.move hmove, rfl⟩
    refine ⟨hsame.place, hsame.shown, hsame.read, ?_, hsame.asked, hsame.pending⟩
    intro call hcall
    rcases List.mem_append.mp hcall with hold | hnew
    · exact hsame.called call hold
    · rw [List.mem_singleton.mp hnew]
      simp
  | @lists base ran call path output frame hran hcall hrequest =>
    have hlisted : .requested (.files path) ∈ h := hrequest ▸ hk.called call hcall
    have hsame := hk.frame frame hran.quiet fun path hmem => absurd hmem hran.unasked
    rw [← List.append_assoc]
    refine ⟨hk.asked path hlisted, (lastListed_listed path _).symm, Or.inr ⟨output, rfl⟩, ?_, ?_, ?_⟩
    · intro other hother
      exact List.mem_append_left _ (hsame.called other hother)
    · intro other hmem
      rcases List.mem_append.mp hmem with hold | hnew
      · exact hsame.asked other hold
      · simp at hnew
    · intro entry hentry
      obtain ⟨hasked, dir, entries, hin, hmem⟩ := hsame.pending entry hentry
      exact ⟨List.mem_append_left _ hasked, dir, entries, List.mem_append_left _ hin, hmem⟩

/-- What a listing, a command and a change stand on, after what was noted before. -/
def Justified (pre : List PanelNote) : PanelNote → Prop
  | .asked entry => ∃ dir entries, .listed dir entries ∈ pre ∧ entry ∈ entries
  | .ran request _ => .requested request ∈ pre ∧ ((∀ path, request ≠ .files path) → request.Changes)
  | .listed path entries => .requested (.files path) ∈ pre ∧ ∃ output, entries = parseFileListing path output
  | .requested (.files path) => Reaches (lastListed pre).1 (lastListed pre).2 path
  | .requested (.createDirectory path) => ∃ here name, IsPlace here ∧ (lastListed pre).1 = pathOf here ∧
      IsPart name ∧ path = pathOf (here ++ [name])
  | .requested (.deleteFile path) => ∃ entry, .asked entry ∈ pre ∧ path = entry.path
  | .requested (.uploadFile path _) => path = (lastListed pre).1

theorem Kept.justified (hk : Kept s h) (hmoves : Moves s s' more) :
    EachAfter (fun pre e => Justified (h ++ pre) e) more := by
  have hpath : (lastListed h).1 = s.currentPath := by rw [← hk.shown]
  have hshown : (lastListed h).2 = s.entries := by rw [← hk.shown]
  have settled {ran : List PanelNote} (hran : Ran s ran) :
      EachAfter (fun pre e => Justified (h ++ pre) e) ran := by
    apply eachAfter_of_forall
    intro note hnote pre
    obtain ⟨call, hcall, ⟨args, rfl⟩, hchanges⟩ := hran note hnote
    exact ⟨List.mem_append_left pre (hk.called call hcall), hchanges⟩
  cases hmoves with
  | stays frame hran => exact settled hran
  | @marks entry hentry =>
    rw [← hshown] at hentry
    exact eachAfter_singleton.mpr ⟨_, _, List.mem_append_left [] (listed_of_mem hentry), hentry⟩
  | @requests base ran request ends frame hran hasks =>
    refine eachAfter_snoc.mpr ⟨settled hran, ?_⟩
    have hlast : (lastListed (h ++ ran)).1 = s.currentPath := by
      rw [lastListed_append_quiet hran.quiet, hpath]
    cases request with
    | files path =>
      show Reaches _ (lastListed (h ++ ran)).2 path
      rw [hlast, lastListed_append_quiet hran.quiet, hshown]
      exact hasks
    | createDirectory path =>
      obtain ⟨here, name, hhere, hcurrent, hname, hmade⟩ := hasks
      exact ⟨here, name, hhere, hlast.trans hcurrent, hname, hmade⟩
    | deleteFile path =>
      obtain ⟨⟨entry, hentry, rfl⟩, -⟩ := hasks
      exact ⟨entry, List.mem_append_left ran (hk.pending entry hentry).1, rfl⟩
    | uploadFile path fileName => exact hasks.trans hlast.symm
  | @lists base ran call path output frame hran hcall hrequest =>
    refine eachAfter_snoc.mpr ⟨settled hran, ?_, output, rfl⟩
    exact List.mem_append_left ran (hrequest ▸ hk.called call hcall)

end FilePanel

def PanelNote.isAsked : PanelNote → Bool
  | asked _ => true
  | _ => false

def PanelNote.isRemoval : PanelNote → Bool
  | requested (.deleteFile _) => true
  | _ => false

namespace FilePanel

/-- Each removal has used up what was asked for. -/
def Paced (s : FilePanel) (h : List PanelNote) : Prop :=
  h.countP PanelNote.isRemoval + s.pendingDelete.toList.length ≤ h.countP PanelNote.isAsked

theorem Ran.uncounted {ran : List PanelNote} (hran : Ran s ran) :
    ran.countP PanelNote.isRemoval = 0 ∧ ran.countP PanelNote.isAsked = 0 := by
  rw [List.countP_eq_zero, List.countP_eq_zero]
  constructor
  · intro note hnote
    obtain ⟨call, -, ⟨args, rfl⟩, -⟩ := hran note hnote
    exact Bool.false_ne_true
  · intro note hnote
    obtain ⟨call, -, ⟨args, rfl⟩, -⟩ := hran note hnote
    exact Bool.false_ne_true

theorem Frame.pending_le {base : FilePanel} (frame : Frame s base) :
    base.pendingDelete.toList.length ≤ s.pendingDelete.toList.length := by
  rcases frame.pending with hsame | hnone
  · rw [hsame]
  · rw [hnone]
    exact Nat.zero_le _

theorem Paced.step (hp : Paced s h) (hmoves : Moves s s' more) : Paced s' (h ++ more) := by
  unfold Paced at hp ⊢
  cases hmoves with
  | stays frame hran =>
    have hle := frame.pending_le
    rw [List.countP_append, List.countP_append, hran.uncounted.1, hran.uncounted.2]
    omega
  | @marks entry hentry =>
    rw [List.countP_append, List.countP_append]
    simp only [List.countP_singleton, PanelNote.isRemoval, PanelNote.isAsked, Option.toList_some,
      List.length_singleton, Bool.false_eq_true, if_true, if_false]
    omega
  | @requests base ran request ends frame hran hasks =>
    have hle := frame.pending_le
    simp only [List.countP_append, hran.uncounted.1, hran.uncounted.2, List.countP_singleton, call]
    cases request with
    | deleteFile path =>
      obtain ⟨⟨entry, hentry, -⟩, hnone⟩ := hasks
      rw [hentry] at hp
      rw [hnone]
      simp only [PanelNote.isRemoval, PanelNote.isAsked, Option.toList_some, Option.toList_none,
        List.length_singleton, List.length_nil, if_true] at hp ⊢
      omega
    | _ =>
      simp only [PanelNote.isRemoval, PanelNote.isAsked, Bool.false_eq_true, if_false]
      omega
  | @lists base ran call path output frame hran hcall hrequest =>
    have hle := frame.pending_le
    simp only [List.countP_append, hran.uncounted.1, hran.uncounted.2, List.countP_singleton,
      PanelNote.isRemoval, PanelNote.isAsked, Bool.false_eq_true, if_false]
    omega

theorem kept_mounted : Kept mounted [.requested (.files "/sdcard")] := by
  have hhome : IsPlace Server.sdcard ∧ "/sdcard" = pathOf Server.sdcard :=
    ⟨isPlace_sdcard, by decide⟩
  have hnormal : normalizeRemotePath "/sdcard" = "/sdcard" := by decide
  refine ⟨⟨_, hhome⟩, rfl, Or.inl rfl, ?_, ?_, ?_⟩
  · intro call hcall
    rw [List.mem_singleton.mp hcall, hnormal]
    exact List.mem_singleton_self _
  · intro path hmem
    rw [List.mem_singleton, PanelNote.requested.injEq, FileRequest.files.injEq] at hmem
    rw [hmem]
    exact ⟨_, hhome⟩
  · intro entry hentry
    cases hentry

/-- In every run, whatever calls overlap and whatever is answered, the panel is at a directory, shows the
listing of it that arrived last, and has asked for listings one move away from what it showed; each change
is of what it has shown, of an entry that was listed and asked to be deleted, at most once for each time,
and what adb is given changes files of the shared storage only. -/
theorem panel_walks (acts : List PanelAct) :
    let s := run (step deviceID localeCompare) mounted acts
    let h := .requested (.files "/sdcard") ::
      eventsOf (step deviceID localeCompare) (notes deviceID localeCompare) mounted acts
    (∃ here, IsPlace here ∧ s.currentPath = pathOf here) ∧ (s.currentPath, s.entries) = lastListed h ∧
      EachAfter Justified h ∧ h.countP PanelNote.isRemoval ≤ h.countP PanelNote.isAsked := by
  intro s h
  have hstart : EachAfter Justified [.requested (.files "/sdcard")] :=
    eachAfter_singleton.mpr ⟨_, _, isPlace_sdcard, by decide, .stay, by decide⟩
  obtain ⟨hk, hp, hj⟩ : Kept s h ∧ Paced s h ∧ EachAfter Justified h :=
    run_history (fun s h => Kept s h ∧ Paced s h ∧ EachAfter Justified h)
      (fun s h a hs => ⟨hs.1.step (hs.1.step_moves a), hs.2.1.step (hs.1.step_moves a),
        eachAfter_append.mpr ⟨hs.2.2, hs.1.justified (hs.1.step_moves a)⟩⟩) acts
      ⟨kept_mounted, Nat.zero_le _, hstart⟩
  exact ⟨hk.place, hk.shown, hj, le_trans (Nat.le_add_right _ _) hp⟩

end FilePanel

end AdbControl.Web
