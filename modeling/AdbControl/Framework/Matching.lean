import Mathlib

namespace AdbControl.Framework

variable {α β μ : Type*} {same : α → β → Bool}

/-- Each item takes the first free candidate that is the same as it: the items with what they
take, and the candidates left over. -/
def greedy (same : α → β → Bool) : List α → List β → List (α × Option β) × List β
  | [], free => ([], free)
  | a :: as, free =>
    match free.find? (same a) with
    | none => ((a, none) :: (greedy same as free).1, (greedy same as free).2)
    | some b =>
      ((a, some b) :: (greedy same as (free.eraseP (same a))).1,
        (greedy same as (free.eraseP (same a))).2)

theorem perm_cons_eraseP {p : β → Bool} {l : List β} {b : β} (h : l.find? p = some b) :
    (b :: l.eraseP p).Perm l := by
  induction l with
  | nil => simp at h
  | cons c l ih =>
    rw [List.find?_cons] at h
    cases hc : p c with
    | true =>
      rw [hc] at h
      cases h
      rw [List.eraseP_cons_of_pos hc]
    | false =>
      rw [hc] at h
      rw [List.eraseP_cons_of_neg (by simp [hc])]
      exact (List.Perm.swap c b (l.eraseP p)).trans ((ih h).cons c)

/-- Induction over a greedy matching: an item stays alone when nothing free is the same as it,
or takes a candidate. -/
theorem greedy_induction (same : α → β → Bool)
    {motive : List α → List β → List (α × Option β) → List β → Prop}
    (nil : ∀ free, motive [] free [] free)
    (alone : ∀ a as free pairs left, (∀ b ∈ free, same a b = false) →
      motive as free pairs left → motive (a :: as) free ((a, none) :: pairs) left)
    (takes : ∀ a b as free rest pairs left, same a b = true → (b :: rest).Perm free →
      rest.Sublist free → motive as rest pairs left →
      motive (a :: as) free ((a, some b) :: pairs) left)
    (as : List α) (free : List β) :
    motive as free (greedy same as free).1 (greedy same as free).2 := by
  induction as generalizing free with
  | nil => exact nil free
  | cons a as ih =>
    rw [greedy]
    cases hfind : free.find? (same a) with
    | none =>
      refine alone a as free _ _ ?_ (ih free)
      simpa using hfind
    | some b =>
      exact takes a b as free _ _ _ (List.find?_some hfind) (perm_cons_eraseP hfind)
        List.eraseP_sublist (ih _)

theorem greedy_items (same : α → β → Bool) (as : List α) (free : List β) :
    (greedy same as free).1.map Prod.fst = as :=
  greedy_induction same (motive := fun as _ pairs _ => pairs.map Prod.fst = as)
    (fun _ => rfl) (fun a as _ _ _ _ ih => by rw [List.map_cons, ih])
    (fun a _ as _ _ _ _ _ _ _ ih => by rw [List.map_cons, ih]) as free

/-- Every candidate is taken once or left over. -/
theorem greedy_perm (same : α → β → Bool) (as : List α) (free : List β) :
    ((greedy same as free).1.filterMap Prod.snd ++ (greedy same as free).2).Perm free := by
  refine greedy_induction same
    (motive := fun _ free pairs left => (pairs.filterMap Prod.snd ++ left).Perm free) ?_ ?_ ?_ as
    free
  · intro free
    exact List.Perm.refl free
  · intro a as free pairs left _ ih
    exact ih
  · intro a b as free rest pairs left _ perm _ ih
    exact (ih.cons b).trans perm

theorem greedy_left_sublist (same : α → β → Bool) (as : List α) (free : List β) :
    (greedy same as free).2.Sublist free := by
  refine greedy_induction same (motive := fun _ free _ left => left.Sublist free) ?_ ?_
    ?_ as free
  · intro free
    exact List.Sublist.refl free
  · intro a as free pairs left _ ih
    exact ih
  · intro a b as free rest pairs left _ _ sub ih
    exact ih.trans sub

/-- An item that takes nothing is the same as nothing that is left over. -/
theorem greedy_alone {as : List α} {free : List β} {a : α}
    (h : (a, none) ∈ (greedy same as free).1) :
    ∀ b ∈ (greedy same as free).2, same a b = false := by
  revert h
  have covered := greedy_induction same
    (motive := fun _ free pairs left => left.Sublist free ∧
      ((a, none) ∈ pairs → ∀ b ∈ left, same a b = false)) ?_ ?_ ?_ as free
  · exact covered.2
  · intro free
    exact ⟨List.Sublist.refl free, fun h => nomatch h⟩
  · intro a' as free pairs left none' ih
    refine ⟨ih.1, ?_⟩
    intro h b hb
    rcases List.mem_cons.mp h with he | h
    · cases he
      exact none' b (ih.1.subset hb)
    · exact ih.2 h b hb
  · intro a' b' as free rest pairs left _ _ sub ih
    exact ⟨ih.1.trans sub, fun h => ih.2 (by simpa using h)⟩

theorem greedy_mem_item {as : List α} {free : List β} {p : α × Option β}
    (h : p ∈ (greedy same as free).1) : p.1 ∈ as := by
  rw [← greedy_items same as free]
  exact List.mem_map_of_mem h

theorem greedy_mem_candidate {as : List α} {free : List β} {a : α} {b : β}
    (h : (a, some b) ∈ (greedy same as free).1) : b ∈ free := by
  refine (greedy_perm same as free).subset (List.mem_append_left _ ?_)
  exact List.mem_filterMap.mpr ⟨(a, some b), h, rfl⟩

theorem greedy_append (as more : List α) (free : List β) :
    greedy same (as ++ more) free =
      ((greedy same as free).1 ++ (greedy same more (greedy same as free).2).1,
        (greedy same more (greedy same as free).2).2) := by
  induction as generalizing free with
  | nil => rfl
  | cons a as ih =>
    rw [List.cons_append, greedy, greedy]
    cases free.find? (same a) with
    | none => simp only [ih, List.cons_append]
    | some b => simp only [ih, List.cons_append]

/-- What is taken is, at the turn of an item, the first free candidate that is the same as it. -/
theorem greedy_taken_iff {as : List α} {free : List β} {a : α} {b : β} :
    (a, some b) ∈ (greedy same as free).1 ↔ ∃ before after, as = before ++ a :: after ∧
      (greedy same before free).2.find? (same a) = some b := by
  constructor
  · intro h
    induction as generalizing free with
    | nil => cases h
    | cons a' as ih =>
      rw [greedy] at h
      cases hfind : free.find? (same a') with
      | none =>
        rw [hfind] at h
        obtain ⟨before, after, has, hb⟩ := ih (by simpa using h)
        exact ⟨a' :: before, after, by rw [has, List.cons_append], by rw [greedy, hfind]; exact hb⟩
      | some c =>
        rw [hfind] at h
        rcases List.mem_cons.mp h with he | h
        · cases he
          exact ⟨[], as, rfl, hfind⟩
        · obtain ⟨before, after, has, hb⟩ := ih h
          exact ⟨a' :: before, after, by rw [has, List.cons_append], by rw [greedy, hfind]; exact hb⟩
  · rintro ⟨before, after, rfl, hfind⟩
    rw [greedy_append]
    refine List.mem_append_right _ ?_
    rw [greedy, hfind]
    exact List.mem_cons_self

/-- Candidates that are each the first that is the same as the item made of them are all taken. -/
theorem greedy_fresh {fresh : β → α} (hself : ∀ b, same (fresh b) b = true) (free : List β) :
    greedy same (free.map fresh) free = (free.map fun b => (fresh b, some b), []) := by
  induction free with
  | nil => rfl
  | cons b free ih =>
    rw [List.map_cons, greedy, List.find?_cons_of_pos (hself b)]
    simp only [List.eraseP_cons_of_pos (hself b), ih, List.map_cons]

/-- Of what a matching makes of its items, and of the candidates it leaves, everything takes the same
again, if an item that has taken a candidate is the same as this one, and as no other that it was not
the same as before. -/
theorem greedy_again {again : α × Option β → α} {fresh : β → α} {apart : β → β → Prop}
    (hself : ∀ b, same (fresh b) b = true) (halone : ∀ a b, same (again (a, none)) b = same a b)
    (htaken : ∀ a b, same a b = true → same (again (a, some b)) b = true)
    (hother : ∀ a b c, same a b = true → apart c b → same a c = false →
      same (again (a, some b)) c = false)
    (as : List α) {free : List β} (distinct : free.Pairwise apart) :
    greedy same ((greedy same as free).1.map again ++ (greedy same as free).2.map fresh) free =
      ((greedy same as free).1.map (fun p => (again p, p.2)) ++
        (greedy same as free).2.map (fun b => (fresh b, some b)), []) := by
  induction as generalizing free with
  | nil => exact greedy_fresh hself free
  | cons a as ih =>
    rw [greedy]
    cases hfind : free.find? (same a) with
    | none =>
      have none' : free.find? (same (again (a, none))) = none :=
        (List.find?_congr fun b _ => halone a b).trans hfind
      simp only [List.map_cons, List.cons_append]
      rw [greedy, none', ih distinct]
    | some b =>
      obtain ⟨hb, before, after, hfree, hbefore⟩ := List.find?_eq_some_iff_append.mp hfind
      have earlier : ∀ c ∈ before, same (again (a, some b)) c = false := by
        intro c hc
        rw [hfree] at distinct
        have far := (List.pairwise_append.mp distinct).2.2 c hc b List.mem_cons_self
        exact hother a b c hb far (by simpa using hbefore c hc)
      have found : free.find? (same (again (a, some b))) = some b := by
        rw [List.find?_eq_some_iff_append]
        exact ⟨htaken a b hb, before, after, hfree, fun c hc => by simp [earlier c hc]⟩
      have left : free.eraseP (same (again (a, some b))) = free.eraseP (same a) := by
        have hbefore' : ∀ c ∈ before, ¬same a c = true := fun c hc => by simpa using hbefore c hc
        have earlier' : ∀ c ∈ before, ¬same (again (a, some b)) c = true :=
          fun c hc => by simp [earlier c hc]
        rw [hfree, List.eraseP_append_right _ earlier', List.eraseP_append_right _ hbefore',
          List.eraseP_cons_of_pos (htaken a b hb), List.eraseP_cons_of_pos hb]
      simp only [List.map_cons, List.cons_append]
      rw [greedy, found, left, ih (distinct.sublist List.eraseP_sublist)]

section Labels

variable {A : α → Set μ} {B : β → Set μ} {kept : α → Option β → Set μ} {brought : β → Set μ}

/-- The labels of an item with what it takes: those it keeps and those the other brings. -/
def mergedLabels (kept : α → Option β → Set μ) (brought : β → Set μ) (p : α × Option β) : Set μ :=
  kept p.1 p.2 ∪ p.2.elim ∅ brought

/-- The candidates taken and left over are apart when the candidates are. -/
theorem greedy_candidates_apart {as : List α} {free : List β}
    (apart : free.Pairwise (fun b c => Disjoint (B b) (B c))) :
    (greedy same as free).1.Pairwise (fun p q => ∀ b ∈ p.2, ∀ c ∈ q.2, Disjoint (B b) (B c)) ∧
    (∀ p ∈ (greedy same as free).1, ∀ b ∈ p.2, ∀ c ∈ (greedy same as free).2,
      Disjoint (B b) (B c)) := by
  have both := ((greedy_perm same as free).pairwise_iff (R := fun b c => Disjoint (B b) (B c))
    (fun h => h.symm)).mpr apart
  obtain ⟨taken, -, cross⟩ := List.pairwise_append.mp both
  refine ⟨List.pairwise_filterMap.mp taken, ?_⟩
  intro p hp b hb c hc
  exact cross b (List.mem_filterMap.mpr ⟨p, hp, hb⟩) c hc

/-- What an item keeps is apart from what the candidate of another brings. -/
theorem greedy_kept_apart (hnonempty : ∀ b, (B b).Nonempty) {as : List α} {free : List β}
    (h : ∀ p ∈ (greedy same as free).1, ∀ b ∈ free, some b ≠ p.2 →
      Disjoint (kept p.1 p.2) (brought b)) {p q : α × Option β}
    (hp : p ∈ (greedy same as free).1) (hq : q ∈ (greedy same as free).1)
    (htaken : ∀ b ∈ q.2, ∀ c ∈ p.2, Disjoint (B b) (B c)) :
    Disjoint (kept p.1 p.2) (q.2.elim ∅ brought) := by
  cases hqb : q.2 with
  | none => simp
  | some b =>
    have hb : b ∈ free := greedy_mem_candidate (a := q.1) (by rw [← hqb]; exact hq)
    refine h p hp b hb ?_
    intro he
    have self := htaken b hqb b he.symm
    exact (hnonempty b).ne_empty (disjoint_self.mp self)

/-- An item with what it takes is apart from a candidate that is left over. -/
theorem greedy_left_apart (hsame : ∀ a b, same a b = true ↔ ¬Disjoint (A a) (B b))
    (hkept : ∀ a t, kept a t ⊆ A a) (hbrought : ∀ b, brought b ⊆ B b)
    (hback : ∀ a t b, kept a (some t) ∩ B b ⊆ brought b) (hnonempty : ∀ b, (B b).Nonempty)
    {as : List α} {free : List β} (candidates : free.Pairwise (fun b c => Disjoint (B b) (B c)))
    (h : ∀ p ∈ (greedy same as free).1, ∀ b ∈ free, some b ≠ p.2 →
      Disjoint (kept p.1 p.2) (brought b)) {p : α × Option β} {b : β}
    (hp : p ∈ (greedy same as free).1) (hb : b ∈ (greedy same as free).2) :
    Disjoint (mergedLabels kept brought p) (B b) := by
  obtain ⟨-, cross⟩ := @greedy_candidates_apart α β μ same B as free candidates
  obtain ⟨a, taker⟩ := p
  cases taker with
  | none =>
    have alone : Disjoint (A a) (B b) := by
      by_contra hmeet
      have := (hsame a b).mpr hmeet
      rw [greedy_alone hp b hb] at this
      cases this
    simpa [mergedLabels] using alone.mono_left (hkept a none)
  | some c =>
    have far := cross (a, some c) hp c rfl b hb
    have hne : some b ≠ some c := by
      intro he
      cases he
      exact (hnonempty b).ne_empty (disjoint_self.mp far)
    have keep := h (a, some c) hp b ((greedy_left_sublist same as free).subset hb) hne
    simp only [mergedLabels, Option.elim_some, Set.disjoint_union_left]
    refine ⟨?_, far.mono_left (hbrought c)⟩
    rw [Set.disjoint_left] at keep ⊢
    intro m hm hmb
    exact keep hm (hback a c b ⟨hm, hmb⟩)

/-- Merging keeps apart what was apart on both sides exactly when no item keeps a label that some
candidate brings which the item does not take. -/
theorem greedy_apart_iff (hsame : ∀ a b, same a b = true ↔ ¬Disjoint (A a) (B b))
    (hkept : ∀ a t, kept a t ⊆ A a) (hbrought : ∀ b, brought b ⊆ B b)
    (hback : ∀ a t b, kept a (some t) ∩ B b ⊆ brought b) (hnonempty : ∀ b, (B b).Nonempty)
    {as : List α} {free : List β} (items : as.Pairwise (fun a c => Disjoint (A a) (A c)))
    (candidates : free.Pairwise (fun b c => Disjoint (B b) (B c))) :
    ((greedy same as free).1.map (mergedLabels kept brought) ++
        (greedy same as free).2.map B).Pairwise Disjoint ↔
      ∀ p ∈ (greedy same as free).1, ∀ b ∈ free, some b ≠ p.2 →
        Disjoint (kept p.1 p.2) (brought b) := by
  obtain ⟨taken, -⟩ := @greedy_candidates_apart α β μ same B as free candidates
  have itemsApart : (greedy same as free).1.Pairwise (fun p q => Disjoint (A p.1) (A q.1)) := by
    rw [← greedy_items same as free, List.pairwise_map] at items
    exact items
  rw [List.pairwise_append, List.pairwise_map, List.pairwise_map]
  constructor
  · intro h p hp b hb hne
    obtain ⟨pairs, -, mixed⟩ := h
    rcases List.mem_append.mp ((greedy_perm same as free).mem_iff.mpr hb) with htaken | hleft
    · -- another item takes the candidate
      obtain ⟨q, hq, hqb⟩ := List.mem_filterMap.mp htaken
      have apart : Disjoint (mergedLabels kept brought p) (mergedLabels kept brought q) := by
        have symmetric : Std.Symm (fun p q : α × Option β =>
            Disjoint (mergedLabels kept brought p) (mergedLabels kept brought q)) :=
          ⟨fun _ _ h => h.symm⟩
        exact pairs.forall hp hq (fun he => hne (by rw [he, hqb]))
      refine apart.mono Set.subset_union_left ?_
      simp [mergedLabels, hqb]
    · have apart := mixed _ (List.mem_map_of_mem hp) _ (List.mem_map_of_mem hleft)
      exact apart.mono Set.subset_union_left (hbrought b)
  · intro h
    refine ⟨?_, ?_, ?_⟩
    · refine (itemsApart.and taken).imp_of_mem ?_
      intro p q hp hq hpq
      obtain ⟨hitems, htaken⟩ := hpq
      simp only [mergedLabels, Set.disjoint_union_left, Set.disjoint_union_right]
      refine ⟨⟨hitems.mono (hkept _ _) (hkept _ _), ?_⟩, ?_, ?_⟩
      · exact (greedy_kept_apart hnonempty h hq hp htaken).symm
      · exact greedy_kept_apart hnonempty h hp hq (fun b hb c hc => (htaken c hc b hb).symm)
      · cases hpb : p.2 with
        | none => simp
        | some b =>
          cases hqc : q.2 with
          | none => simp
          | some c => exact (htaken b hpb c hqc).mono (hbrought b) (hbrought c)
    · exact candidates.sublist (greedy_left_sublist same as free)
    · intro s hs t ht
      obtain ⟨p, hp, rfl⟩ := List.mem_map.mp hs
      obtain ⟨b, hb, rfl⟩ := List.mem_map.mp ht
      exact greedy_left_apart hsame hkept hbrought hback hnonempty candidates h hp hb

end Labels

end AdbControl.Framework
