/-
Runs of a step function `step : σ → ε → σ`: the state after the events `es` is `es.foldl step s`.
Conditions on a run are read at the state in which each step is taken.
-/
import Mathlib

namespace BrambleMesh.Run

variable {σ ε : Type*} {step : σ → ε → σ} {C : σ → ε → Prop} {I : σ → Prop}

def Meets (step : σ → ε → σ) (C : σ → ε → Prop) : σ → List ε → Prop
  | _, [] => True
  | s, e :: es => C s e ∧ Meets step C (step s e) es

instance decidableMeets [∀ s e, Decidable (C s e)] :
    (s : σ) → (es : List ε) → Decidable (Meets step C s es)
  | _, [] => .isTrue trivial
  | s, e :: es =>
    have := decidableMeets (step s e) es
    inferInstanceAs (Decidable (C s e ∧ Meets step C (step s e) es))

lemma meets_append (s : σ) (es fs : List ε) :
    Meets step C s (es ++ fs) ↔ Meets step C s es ∧ Meets step C (es.foldl step s) fs := by
  induction es generalizing s with
  | nil => simp [Meets]
  | cons e es ih => simp only [List.cons_append, Meets, List.foldl_cons, ih, and_assoc]

variable {D : σ → ε → Prop} {es : List ε}

lemma meets_and {s : σ} :
    Meets step (fun s e => C s e ∧ D s e) s es ↔ Meets step C s es ∧ Meets step D s es := by
  induction es generalizing s with
  | nil => simp [Meets]
  | cons e es ih =>
    simp only [Meets, ih]
    tauto

lemma meets_of_forall (h : ∀ s, ∀ e ∈ es, C s e) (s : σ) :
    Meets step C s es := by
  induction es generalizing s with
  | nil => trivial
  | cons e es ih =>
    have hrest := ih (fun s e' he' => h s e' (List.mem_cons_of_mem _ he')) (step s e)
    exact ⟨h s e List.mem_cons_self, hrest⟩

/-- **The invariant rule.**  What holds at the start and is kept by every step that
meets `C` holds after every run whose steps all meet `C`. -/
theorem foldl_invariant {s : σ} (hstep : ∀ s e, I s → C s e → I (step s e))
    (hrun : Meets step C s es) (h0 : I s) :
    I (es.foldl step s) := by
  induction es generalizing s with
  | nil => exact h0
  | cons e es ih => exact ih hrun.2 (hstep s e h0 hrun.1)

lemma foldlM_invariant {f : σ → ε → Option σ} {s s' : σ}
    (hstep : ∀ s e s', I s → f s e = some s' → I s') (h0 : I s)
    (hrun : es.foldlM f s = some s') : I s' := by
  induction es generalizing s with
  | nil =>
    cases hrun
    exact h0
  | cons e es ih =>
    rw [List.foldlM_cons] at hrun
    obtain ⟨next, hnext, hrun⟩ := Option.bind_eq_some_iff.1 hrun
    exact ih (hstep s e next h0 hnext) hrun

lemma meets_imp {s : σ} (himp : ∀ s e, I s → C s e → D s e)
    (hstep : ∀ s e, I s → C s e → I (step s e)) (h0 : I s) (hrun : Meets step C s es) :
    Meets step D s es := by
  induction es generalizing s with
  | nil => trivial
  | cons e es ih => exact ⟨himp s e h0 hrun.1, ih (hstep s e h0 hrun.1) hrun.2⟩

lemma meets_congr {s : σ} (hiff : ∀ s e, I s → (C s e ↔ D s e))
    (hstep : ∀ s e, I s → D s e → I (step s e)) (h0 : I s) :
    Meets step C s es ↔ Meets step D s es :=
  ⟨meets_imp (fun s e hs => (hiff s e hs).mp) (fun s e hs hc => hstep s e hs ((hiff s e hs).mp hc))
      h0,
    meets_imp (fun s e hs => (hiff s e hs).mpr) hstep h0⟩

/-! ## Time

An event may carry the time it happens at, a natural number of milliseconds.  The code reads it
from a 32-bit counter. -/

lemma elapsed_le {k t : ℕ} (h : k ≤ t) :
    (UInt32.ofNat t - UInt32.ofNat k).toNat ≤ t - k := by
  rw [UInt32.toNat_sub, UInt32.toNat_ofNat', UInt32.toNat_ofNat']
  omega

lemma elapsed_eq {k t : ℕ} (h : k ≤ t) (hlt : t < k + 2 ^ 32) :
    (UInt32.ofNat t - UInt32.ofNat k).toNat = t - k := by
  rw [UInt32.toNat_sub, UInt32.toNat_ofNat', UInt32.toNat_ofNat']
  omega

end BrambleMesh.Run
