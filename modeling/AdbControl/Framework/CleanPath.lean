import AdbControl.Framework.Lines
import AdbControl.Framework.Resolve

namespace AdbControl.Framework

/-- Where a path leads from the root. -/
def place (path : List Char) : List (List Char) := resolve [] (pathNames path)

/-- The absolute path in normal form of a place. -/
def rooted (names : List (List Char)) : List Char :=
  if names = [] then ['/'] else names.flatMap (fun name => '/' :: name)

/-- Go's `path.Clean`. -/
def cleanPath (path : List Char) : List Char :=
  if path.head? = some '/' then rooted (place path)
  else
    let c := climb (pathNames path)
    let names := List.replicate c.levels parentName ++ c.below
    if names = [] then ['.'] else ['/'].intercalate names

/-- Go's `path.Join` of two parts. -/
def joinClean (base part : List Char) : List Char :=
  if base = [] ∧ part = [] then []
  else cleanPath (if base = [] then part else base ++ '/' :: part)

/-- Go's `filepath.Base`, where the separator is a slash. -/
def baseName (path : List Char) : List Char :=
  if path = [] then ['.']
  else
    let last := (path.rdropWhile (fun c => c = '/')).rtakeWhile (fun c => c ≠ '/')
    if last = [] then ['/'] else last

example : cleanPath "/sdcard/./a//../b/".toList = "/sdcard/b".toList := by decide
example : baseName "/sdcard/b//".toList = "b".toList := by decide

section Names

theorem mem_pathNames {path name : List Char} (h : name ∈ pathNames path) :
    '/' ∉ name ∧ name ≠ [] ∧ name ≠ ['.'] := by
  obtain ⟨hmem, hname⟩ := List.mem_filter.mp h
  have slash : '/' ∉ name := by
    intro hslash
    simpa using not_of_mem_splitOnP hmem '/' hslash
  rw [Bool.and_eq_true, bne_iff_ne, bne_iff_ne] at hname
  exact ⟨slash, hname⟩

theorem mem_resolve {here names : List (List Char)} {name : List Char}
    (h : name ∈ resolve here names) : name ∈ here ∨ (name ∈ names ∧ name ≠ parentName) := by
  induction names generalizing here with
  | nil => exact Or.inl h
  | cons first names ih =>
    rcases ih h with hhere | ⟨hrest, hne⟩
    · unfold enter at hhere
      split_ifs at hhere with hparent
      · exact Or.inl (List.mem_of_mem_dropLast hhere)
      · rcases List.mem_append.mp hhere with hhere | hfirst
        · exact Or.inl hhere
        · rw [List.mem_singleton.mp hfirst]
          exact Or.inr ⟨List.mem_cons_self, hparent⟩
    · exact Or.inr ⟨List.mem_cons_of_mem first hrest, hne⟩

theorem isName_of_mem_place {path name : List Char} (h : name ∈ place path) : IsName name := by
  rcases mem_resolve h with hnil | ⟨hmem, hparent⟩
  · cases hnil
  · obtain ⟨slash, hne, hdot⟩ := mem_pathNames hmem
    exact ⟨slash, hne, hdot, hparent⟩

end Names

section Rooted

variable {names root : List (List Char)}

theorem pathNames_slash (rest : List Char) : pathNames ('/' :: rest) = pathNames rest :=
  pathNames_append [] rest

theorem pathNames_flatMap (h : ∀ name ∈ names, IsName name) :
    pathNames (names.flatMap (fun name => '/' :: name)) = names := by
  induction names with
  | nil => rfl
  | cons name names ih =>
    obtain ⟨hname, hnames⟩ := List.forall_mem_cons.mp h
    have hrest := ih hnames
    rw [List.flatMap_cons, List.cons_append, pathNames_slash]
    cases names with
    | nil => rw [List.flatMap_nil, List.append_nil, pathNames_name hname]
    | cons next names =>
      rw [List.flatMap_cons, List.cons_append, pathNames_slash] at hrest
      rw [List.flatMap_cons, List.cons_append, pathNames_append, pathNames_name hname, hrest]
      rfl

theorem pathNames_rooted (h : ∀ name ∈ names, IsName name) : pathNames (rooted names) = names := by
  unfold rooted
  split_ifs with hnil
  · rw [hnil]
    rfl
  · exact pathNames_flatMap h

/-- What a path in normal form begins with tells where its place is. -/
theorem within_iff (hnames : ∀ name ∈ names, IsName name) (hroot : ∀ name ∈ root, IsName name)
    (hne : root ≠ []) :
    rooted names = rooted root ∨ rooted root ++ ['/'] <+: rooted names ↔ root <+: names := by
  constructor
  · rintro (heq | ⟨rest, hrest⟩)
    · rw [← pathNames_rooted hnames, heq, pathNames_rooted hroot]
    · rw [← pathNames_rooted hnames, ← hrest, List.append_assoc, List.singleton_append,
        pathNames_append, pathNames_rooted hroot]
      exact List.prefix_append _ _
  · rintro ⟨more, rfl⟩
    cases more with
    | nil => exact Or.inl (by rw [List.append_nil])
    | cons name more =>
      refine Or.inr ⟨name ++ more.flatMap (fun name => '/' :: name), ?_⟩
      rw [rooted, rooted, if_neg hne, if_neg (by simp), List.flatMap_append, List.flatMap_cons]
      simp

theorem rooted_injective (hnames : ∀ name ∈ names, IsName name)
    (hroot : ∀ name ∈ root, IsName name) : rooted names = rooted root ↔ names = root := by
  constructor
  · intro heq
    rw [← pathNames_rooted hnames, heq, pathNames_rooted hroot]
  · intro heq
    rw [heq]

/-- Beside the root, in an entry whose name begins with the root's and goes on. -/
def Continues (root names : List (List Char)) : Prop :=
  ∃ parent last extra more, root = parent ++ [last] ∧ names = parent ++ (last ++ extra) :: more ∧
    extra ≠ []

theorem Continues.not_prefix (h : Continues root names) : ¬root <+: names := by
  obtain ⟨parent, last, extra, more, rfl, rfl, hextra⟩ := h
  rw [List.prefix_append_right_inj, List.cons_prefix_cons]
  rintro ⟨hlast, -⟩
  exact hextra (List.self_eq_append_right.mp hlast)

theorem rooted_append (parent : List (List Char)) (name : List Char) (more : List (List Char)) :
    rooted (parent ++ name :: more) =
      parent.flatMap (fun name => '/' :: name) ++ '/' :: name ++
        more.flatMap (fun name => '/' :: name) := by
  rw [rooted, if_neg (by simp), List.flatMap_append, List.flatMap_cons, List.append_assoc]

/-- A name that goes on, without a slash, is a name. -/
theorem IsName.extend {last extra : List Char} (hlast : IsName last) (hextra : '/' ∉ extra) :
    IsName (last ++ extra) := by
  obtain ⟨slash, hne, hdot, hparent⟩ := hlast
  obtain ⟨c, last, rfl⟩ := List.exists_cons_of_ne_nil hne
  refine ⟨by simp_all, by simp, ?_, ?_⟩
  · intro heq
    rw [List.cons_append, List.cons.injEq, List.append_eq_nil_iff] at heq
    exact hdot (by rw [heq.1, heq.2.1])
  · intro heq
    rw [List.cons_append, List.cons.injEq, List.append_eq_singleton_iff] at heq
    rcases heq with ⟨rfl, ⟨rfl, -⟩ | ⟨rfl, -⟩⟩
    · exact hdot rfl
    · exact hparent rfl

/-- The next name of a path reaches to the next slash. -/
theorem pathNames_next {name : List Char} (hname : IsName name) (rest : List Char) :
    ∃ extra more, pathNames (name ++ rest) = (name ++ extra) :: more := by
  have plain : '/' ∉ rest.takeWhile (fun c => c ≠ '/') := by
    intro hmem
    simpa using List.mem_takeWhile_imp hmem
  have whole := hname.extend plain
  have split : name ++ rest = name ++ rest.takeWhile (fun c => c ≠ '/') ++
      rest.dropWhile (fun c => c ≠ '/') := by
    rw [List.append_assoc, List.takeWhile_append_dropWhile]
  refine ⟨rest.takeWhile (fun c => c ≠ '/'), pathNames (rest.dropWhile (fun c => c ≠ '/')), ?_⟩
  rw [split]
  cases htail : rest.dropWhile (fun c => c ≠ '/') with
  | nil =>
    rw [List.append_nil, pathNames_name whole]
    rfl
  | cons c tail =>
    have hc : c = '/' := by
      have := List.head?_dropWhile_not (fun c : Char => decide (c ≠ '/')) rest
      rw [htail] at this
      simpa using this
    rw [hc, pathNames_append, pathNames_name whole, pathNames_slash]
    rfl

/-- A path in normal form begins as the root's does exactly when it leads to the root, below it or
into an entry beside it whose name goes on. -/
theorem rooted_prefix_iff (hnames : ∀ name ∈ names, IsName name) (hroot : ∀ name ∈ root, IsName name) :
    rooted root <+: rooted names ↔ root <+: names ∨ Continues root names := by
  rcases List.eq_nil_or_concat' root with rfl | ⟨parent, last, rfl⟩
  · have slash : rooted [] <+: rooted names := by
      cases names with
      | nil => exact List.prefix_rfl
      | cons name more => exact ⟨name ++ more.flatMap (fun name => '/' :: name), rfl⟩
    exact iff_of_true slash (Or.inl List.nil_prefix)
  · have hne : parent ++ [last] ≠ [] := by simp
    constructor
    · rintro ⟨rest, hrest⟩
      rw [rooted_append, List.flatMap_nil, List.append_nil, List.append_assoc,
        List.cons_append] at hrest
      obtain ⟨extra, more, hnext⟩ :=
        pathNames_next (hroot last (List.mem_append_right parent List.mem_cons_self)) rest
      have names_eq : names = parent ++ (last ++ extra) :: more := by
        rw [← pathNames_rooted hnames, ← hrest, pathNames_append, hnext,
          pathNames_flatMap fun name hname => hroot name (List.mem_append_left _ hname)]
      by_cases hnil : extra = []
      · left
        rw [names_eq, hnil, List.append_nil, List.prefix_append_right_inj]
        exact ⟨more, rfl⟩
      · exact Or.inr ⟨parent, last, extra, more, rfl, names_eq, hnil⟩
    · rintro (hinside | ⟨parent', last', extra, more, heq, rfl, hextra⟩)
      · rcases (within_iff hnames hroot hne).mpr hinside with heq | hbelow
        · rw [heq]
        · exact (List.prefix_append _ _).trans hbelow
      · obtain ⟨rfl, hlast⟩ := List.append_inj' heq rfl
        obtain rfl := List.singleton_inj.mp hlast
        rw [rooted_append, rooted_append]
        exact ⟨extra ++ more.flatMap (fun name => '/' :: name), by simp⟩

end Rooted

section Base

/-- Slashes at the end lead nowhere else. -/
theorem pathNames_rdropWhile (path : List Char) :
    pathNames (path.rdropWhile (fun c => c = '/')) = pathNames path := by
  induction path using List.reverseRecOn with
  | nil => rfl
  | append_singleton path c ih =>
    by_cases hc : c = '/'
    · rw [List.rdropWhile_concat_pos _ _ _ (by simpa using hc), ih, hc, pathNames_append]
      simp [pathNames]
    · rw [List.rdropWhile_concat_neg _ _ _ (by simpa using hc)]

/-- The last name of a path has no slash in it, unless the path has no names. -/
theorem baseName_spec (path : List Char) :
    baseName path = ['/'] ∨ ('/' ∉ baseName path ∧ baseName path ≠ []) := by
  unfold baseName
  by_cases hnil : path = []
  · rw [if_pos hnil]
    exact Or.inr (by decide)
  · rw [if_neg hnil]
    simp only
    split_ifs with hlast
    · exact Or.inl rfl
    · refine Or.inr ⟨?_, hlast⟩
      intro hmem
      simpa using List.mem_rtakeWhile_imp hmem

/-- The last name, put below a place, leads to a name there unless it is one of the three that are not
names of files. -/
theorem child_baseName_iff (here : List (List Char)) (path : List Char) :
    (∃ name, resolve here (pathNames (baseName path)) = here ++ [name]) ↔
      baseName path ∉ [['.'], parentName, ['/']] := by
  have same (name : List Char) : here ≠ here ++ [name] := by simp
  have shorter (name : List Char) : here.dropLast ≠ here ++ [name] := by
    intro heq
    have hlength := congrArg List.length heq
    rw [List.length_dropLast, List.length_append, List.length_singleton] at hlength
    omega
  by_cases hslash : baseName path = ['/']
  · have stays : resolve here (pathNames ['/']) = here := rfl
    rw [hslash, stays]
    simp [same]
  · obtain ⟨hplain, hne⟩ := (baseName_spec path).resolve_left hslash
    by_cases hdot : baseName path = ['.']
    · have stays : resolve here (pathNames ['.']) = here := rfl
      rw [hdot, stays]
      simp [same]
    · by_cases hparent : baseName path = parentName
      · have leaves : resolve here (pathNames parentName) = here.dropLast := rfl
        rw [hparent, leaves]
        simp [shorter]
      · rw [pathNames_name ⟨hplain, hne, hdot, hparent⟩]
        have enters : resolve here [baseName path] = here ++ [baseName path] := if_neg hparent
        rw [enters]
        simp [hslash, hdot, hparent]

end Base

end AdbControl.Framework
