/-
Relations without cycles.
-/
import Mathlib.Logic.Relation

namespace BrambleMesh.Graph

open Relation

variable {α : Type*} {R S : α → α → Prop}

def Acyclic (R : α → α → Prop) : Prop := ∀ a, ¬ TransGen R a a

lemma acyclic_of_empty (h : ∀ a b, ¬ R a b) : Acyclic R := by
  intro a hcycle
  obtain ⟨b, hab, -⟩ := TransGen.head'_iff.1 hcycle
  exact h a b hab

lemma acyclic_mono (hR : Acyclic R) (h : ∀ a b, S a b → R a b) : Acyclic S :=
  fun a hcycle => hR a (TransGen.mono h a a hcycle)

lemma path_avoids {a : α} (hsource : ∀ x, ¬ S x a) (hsub : ∀ x y, S x y → R x y ∨ x = a)
    {x y : α} (hpath : TransGen S x y) (hpred : ∃ w, S w x) : TransGen R x y := by
  have hedge : ∀ u v, (∃ w, S w u) → S u v → R u v := by
    rintro u v ⟨w, hw⟩ huv
    apply (hsub u v huv).resolve_right
    rintro rfl
    exact hsource w hw
  induction hpath with
  | single hxy => exact .single (hedge _ _ hpred hxy)
  | tail hxz hzy ih =>
    obtain ⟨w, -, hw⟩ := TransGen.tail'_iff.1 hxz
    exact ih.tail (hedge _ _ ⟨w, hw⟩ hzy)

/-- **Edges added at a source.**  When all new edges leave one node and none leads into it, no
cycle arises. -/
theorem acyclic_of_source (hR : Acyclic R) {a : α} (hsource : ∀ x, ¬ S x a)
    (hsub : ∀ x y, S x y → R x y ∨ x = a) : Acyclic S := by
  intro b hcycle
  obtain ⟨w, -, hw⟩ := TransGen.tail'_iff.1 hcycle
  exact hR b (path_avoids hsource hsub hcycle ⟨w, hw⟩)

end BrambleMesh.Graph
