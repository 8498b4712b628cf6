import AdbControl.Framework.Run

namespace AdbControl.Framework

variable {ε σ ι : Type*} {P Q : List ε → ε → Prop} {h more : List ε} {e : ε}

/-- Every event of the history is one that `P` allows after the events before it. -/
def EachAfter (P : List ε → ε → Prop) (h : List ε) : Prop :=
  ∀ pre e post, h = pre ++ e :: post → P pre e

theorem eachAfter_nil : EachAfter P [] := by
  intro pre e post h
  cases pre <;> cases h

theorem eachAfter_append : EachAfter P (h ++ more) ↔
    EachAfter P h ∧ EachAfter (fun pre e => P (h ++ pre) e) more := by
  constructor
  · intro hall
    refine ⟨?_, ?_⟩
    · rintro pre e post rfl
      exact hall pre e (post ++ more) (by simp)
    · rintro pre e post rfl
      exact hall (h ++ pre) e post (by simp)
  · rintro ⟨hold, hnew⟩ pre e post hsplit
    rcases List.append_eq_append_iff.mp hsplit with ⟨as, rfl, hmore⟩ | ⟨as, rfl, hpost⟩
    · exact hnew as e post hmore
    · cases as with
      | nil =>
        have hfirst : P (pre ++ [] ++ []) e := hnew [] e post hpost.symm
        rwa [List.append_nil, List.append_nil] at hfirst
      | cons first as =>
        obtain ⟨rfl, rfl⟩ := List.cons.inj hpost
        exact hold pre e as rfl

theorem eachAfter_snoc : EachAfter P (h ++ [e]) ↔ EachAfter P h ∧ P h e := by
  rw [eachAfter_append]
  refine and_congr_right fun _ => ⟨fun hlast => ?_, ?_⟩
  · have hfirst : P (h ++ []) e := hlast [] e [] rfl
    rwa [List.append_nil] at hfirst
  · intro hP pre e' post hsplit
    rcases List.singleton_eq_append_iff.mp hsplit with ⟨rfl, hrest⟩ | ⟨-, hrest⟩
    · obtain ⟨rfl, -⟩ := List.cons.inj hrest
      show P (h ++ []) e'
      rwa [List.append_nil]
    · cases hrest

theorem eachAfter_singleton : EachAfter P [e] ↔ P [] e := by
  rw [← List.nil_append [e], eachAfter_snoc]
  exact and_iff_right eachAfter_nil

theorem eachAfter_of_forall (hall : ∀ e ∈ h, ∀ pre, P pre e) : EachAfter P h := by
  rintro pre e post rfl
  exact hall e (by simp) pre

theorem EachAfter.mono (hPQ : ∀ pre e, P pre e → Q pre e) (hall : EachAfter P h) : EachAfter Q h :=
  fun pre e post hsplit => hPQ pre e (hall pre e post hsplit)

end AdbControl.Framework
