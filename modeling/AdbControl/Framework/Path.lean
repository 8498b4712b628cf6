import Mathlib

namespace AdbControl.Framework

/-- `Path::join`: an absolute part replaces the base, any other one is put below it. -/
def joinPath (base part : String) : String :=
  if part.toList.head? = some '/' then part
  else if base.toList = [] ∨ base.toList.getLast? = some '/' then base ++ part
  else base ++ "/" ++ part

/-- `Path::components`, the normal ones: empty parts and `.` do not count. -/
def pathNames (path : List Char) : List (List Char) :=
  (path.splitOn '/').filter (fun name => name != [] && name != ['.'])

/-- The path leads from the root down through these names, none of which leads up again. -/
structure Leads (root path : String) (names : List (List Char)) : Prop where
  down : pathNames path.toList = pathNames root.toList ++ names
  never_up : ['.', '.'] ∉ names

/-- One name of a directory or file. -/
def IsName (part : List Char) : Prop :=
  '/' ∉ part ∧ part ≠ [] ∧ part ≠ ['.'] ∧ part ≠ ['.', '.']

theorem pathNames_append (xs ys : List Char) :
    pathNames (xs ++ '/' :: ys) = pathNames xs ++ pathNames ys := by
  have split : (xs ++ '/' :: ys).splitOn '/' = xs.splitOn '/' ++ ys.splitOn '/' :=
    List.splitOnP_append_cons xs ys (by simp)
  rw [pathNames, split, List.filter_append]
  rfl

theorem pathNames_plain {part : List Char} (h : '/' ∉ part) :
    pathNames part = [part].filter (fun name => name != [] && name != ['.']) := by
  have split : part.splitOn '/' = [part] := by
    apply List.splitOnP_eq_singleton
    intro c hc
    rw [beq_eq_false_iff_ne]
    intro he
    exact h (he ▸ hc)
  rw [pathNames, split]

theorem pathNames_name {part : List Char} (h : IsName part) : pathNames part = [part] := by
  rw [pathNames_plain h.1]
  simp [h.2.1, h.2.2.1]

/-- Joining a part without slashes adds its names to those of the base. -/
theorem pathNames_joinPath (base : String) {part : String} (h : '/' ∉ part.toList) :
    pathNames (joinPath base part).toList = pathNames base.toList ++ pathNames part.toList := by
  have relative : part.toList.head? ≠ some '/' := by
    intro he
    exact h (List.mem_of_head? he)
  unfold joinPath
  rw [if_neg relative]
  split_ifs with hbase
  · rcases hbase with hempty | hslash
    · rw [String.toList_append, hempty]
      rfl
    · obtain ⟨front, hfront⟩ := List.getLast?_eq_some_iff.mp hslash
      have trailing := pathNames_append front []
      rw [String.toList_append, hfront, List.append_assoc, List.singleton_append, pathNames_append,
        trailing]
      simp [pathNames]
  · have spelled : (base ++ "/" ++ part).toList = base.toList ++ '/' :: part.toList := by
      simp [String.toList_append]
    rw [spelled, pathNames_append]

theorem Leads.refl (root : String) : Leads root root [] := ⟨by simp, by simp⟩

/-- Joining nothing leads nowhere else. -/
theorem Leads.joinEmpty {root base : String} {names : List (List Char)}
    (h : Leads root base names) : Leads root (joinPath base "") names := by
  have same := @pathNames_joinPath base "" (by simp)
  refine ⟨?_, h.never_up⟩
  rw [same, h.down]
  simp [pathNames]

theorem Leads.joinName {root base name : String} {names : List (List Char)}
    (h : Leads root base names) (hname : IsName name.toList) :
    Leads root (joinPath base name) (names ++ [name.toList]) := by
  have longer := pathNames_joinPath base hname.1
  rw [pathNames_name hname] at longer
  refine ⟨?_, ?_⟩
  · rw [longer, h.down, List.append_assoc]
  · rw [List.mem_append, List.mem_singleton, not_or]
    exact ⟨h.never_up, Ne.symm hname.2.2.2⟩

/-- A path leads from a root in one way only. -/
theorem Leads.unique {root path : String} {names names' : List (List Char)}
    (h : Leads root path names) (h' : Leads root path names') : names = names' :=
  List.append_cancel_left (h.down.symm.trans h'.down)

end AdbControl.Framework
