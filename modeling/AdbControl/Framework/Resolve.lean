import AdbControl.Framework.Path

namespace AdbControl.Framework

def parentName : List Char := ['.', '.']

/-- One name further down; `..` leads up again, and from the root nowhere. -/
def enter (here : List (List Char)) (name : List Char) : List (List Char) :=
  if name = parentName then here.dropLast else here ++ [name]

/-- Where the names lead from here, without a look at the file system. -/
def resolve (here names : List (List Char)) : List (List Char) := names.foldl enter here

/-- How far up relative names have led, and what they have then entered. -/
structure Climb where
  levels : Nat
  below : List (List Char)
  deriving DecidableEq

def Climb.enter (c : Climb) (name : List Char) : Climb :=
  if name ≠ parentName then { c with below := c.below ++ [name] }
  else if c.below = [] then { c with levels := c.levels + 1 }
  else { c with below := c.below.dropLast }

def climb (names : List (List Char)) : Climb := names.foldl Climb.enter ⟨0, []⟩

/-- The place that a climb reaches from here. -/
def Climb.apply (c : Climb) (here : List (List Char)) : List (List Char) :=
  here.take (here.length - c.levels) ++ c.below

theorem enter_apply (c : Climb) (here : List (List Char)) (name : List Char) :
    enter (c.apply here) name = (c.enter name).apply here := by
  unfold enter Climb.enter
  by_cases hname : name = parentName
  · rw [if_pos hname, if_neg (not_not.mpr hname)]
    by_cases hbelow : c.below = []
    · rw [if_pos hbelow, Climb.apply, Climb.apply, hbelow, List.append_nil, List.append_nil,
        List.dropLast_eq_take, List.take_take, List.length_take]
      congr 1
      show min _ _ = here.length - (c.levels + 1)
      omega
    · rw [if_neg hbelow, Climb.apply, Climb.apply, List.dropLast_append_of_ne_nil hbelow]
  · rw [if_neg hname, if_pos hname, Climb.apply, Climb.apply, List.append_assoc]

theorem resolve_eq_climb (here names : List (List Char)) :
    resolve here names = (climb names).apply here := by
  have fold (c : Climb) :
      names.foldl enter (c.apply here) = (names.foldl Climb.enter c).apply here := by
    induction names generalizing c with
    | nil => rfl
    | cons name names ih => rw [List.foldl_cons, List.foldl_cons, enter_apply, ih]
  have start : Climb.apply ⟨0, []⟩ here = here := by simp [Climb.apply]
  rw [resolve, climb, ← fold, start]

/-- Relative names stay below a place exactly when what they have climbed out of is what they first
enter again. -/
theorem below_resolve_iff (here names : List (List Char)) :
    here <+: resolve here names ↔
      here.drop (here.length - (climb names).levels) <+: (climb names).below := by
  rw [resolve_eq_climb, Climb.apply]
  conv_lhs => lhs; rw [← List.take_append_drop (here.length - (climb names).levels) here]
  exact List.prefix_append_right_inj _

theorem resolve_append (here names more : List (List Char)) :
    resolve here (names ++ more) = resolve (resolve here names) more := List.foldl_append

theorem climb_name (names : List (List Char)) {name : List Char} (h : name ≠ parentName) :
    climb (names ++ [name]) =
      ⟨(climb names).levels, (climb names).below ++ [name]⟩ := by
  rw [climb, List.foldl_append, List.foldl_cons, List.foldl_nil, Climb.enter, if_pos h]
  rfl

/-- A path that ends in an extension leads to a file with this extension. -/
theorem pathNames_extension (body : List Char) {extension : List Char} (h : '/' ∉ extension)
    (long : 2 ≤ extension.length) :
    ∃ directories stem, pathNames (body ++ extension) = directories ++ [stem ++ extension] := by
  have single (stem : List Char) (hstem : '/' ∉ stem) :
      pathNames (stem ++ extension) = [stem ++ extension] := by
    have length : 2 ≤ (stem ++ extension).length := by
      rw [List.length_append]
      omega
    have named : stem ++ extension ≠ [] ∧ stem ++ extension ≠ ['.'] := by
      refine ⟨?_, ?_⟩ <;> intro hname <;> rw [hname] at length <;> simp at length
    rw [pathNames_plain (by simp [hstem, h])]
    simp only [List.filter_cons, List.filter_nil]
    rw [if_pos (by simpa using named)]
  by_cases hbody : '/' ∈ body
  · obtain ⟨back, front, hsplit, hback⟩ :=
      List.eq_append_cons_of_mem (List.mem_reverse.mpr hbody)
    have spelled : body = front.reverse ++ '/' :: back.reverse := by
      rw [← List.reverse_reverse body, hsplit]
      simp
    refine ⟨pathNames front.reverse, back.reverse, ?_⟩
    rw [spelled, List.append_assoc, List.cons_append, pathNames_append,
      single _ (by simpa using hback)]
  · exact ⟨[], body, single body hbody⟩

end AdbControl.Framework
