/-
Loops in the discovered routes to one destination. A node never asks who routes over itself when
it records a reply, so a new route can close a cycle.
-/
import BrambleMesh.MeshRoutes
import BrambleMesh.Lib.Graph

namespace BrambleMesh.LoopFree

open Discovery MeshNet MeshRoutes
open BrambleMesh.Graph

def RoutesOver (s : Net) (dest a b : UInt32) : Prop :=
  ∃ e ∈ (s.nodes a).routes, e.dest_addr = dest ∧ e.source = .DISCOVERED ∧ e.state = .ACTIVE ∧
    e.next_hop = b
deriving Decidable

def Untangled (mac : NetworkMac) (adj : UInt32 → UInt32 → Bool) (s : Net) (ev : Event) : Prop :=
  ∀ r t rx p, hearing adj s ev = some (r, t, rx) → t.frame = .rrep p →
    passes mac r (s.nodes r) t.frame rx.now → TakesPart (s.nodes r) p.query_id →
    RoutesOver s p.src_addr r p.next_hop ∨
      (p.next_hop ≠ r ∧ ∀ n, ¬ RoutesOver s p.src_addr n r)

variable {mac : NetworkMac} {adj : UInt32 → UInt32 → Bool} {s : Net} {ev : Event}

lemma routesOver_step {dest a b : UInt32} (h : RoutesOver (step mac adj s ev) dest a b) :
    RoutesOver s dest a b ∨
      ∃ t rx p, hearing adj s ev = some (a, t, rx) ∧ t.frame = .rrep p ∧
        passes mac a (s.nodes a) t.frame rx.now ∧ TakesPart (s.nodes a) p.query_id ∧
        p.src_addr = dest ∧ p.next_hop = b := by
  obtain ⟨e, he, hdest, hsource, hstate, hnext⟩ := h
  match step_routes he with
  | .kept e₀ he₀ haged =>
    left
    exact ⟨e₀, he₀, haged.dest_addr ▸ hdest, haged.source ▸ hsource, haged.state hstate,
      haged.next_hop ▸ hnext⟩
  | .hint hhint =>
    rw [hhint] at hsource
    cases hsource
  | .reply t p rx hheard hframe hpasses hpart hnew =>
    right
    rw [hnew] at hdest hnext
    exact ⟨t, rx, p, hheard, hframe, hframe ▸ hpasses, hpart, hdest, hnext⟩

lemma acyclic_step {dest : UInt32} (h : Acyclic (RoutesOver s dest))
    (hev : Untangled mac adj s ev) :
    Acyclic (RoutesOver (step mac adj s ev) dest) := by
  by_cases hnew : ∃ a b, RoutesOver (step mac adj s ev) dest a b ∧ ¬ RoutesOver s dest a b
  · -- the new edge leaves a node that no edge leads into
    obtain ⟨a, b, hab, hnot⟩ := hnew
    obtain ⟨t, rx, p, hheard, hframe, hpasses, hpart, rfl, rfl⟩ :=
      (routesOver_step hab).resolve_left hnot
    obtain ⟨hne, hunused⟩ := (hev a t rx p hheard hframe hpasses hpart).resolve_left hnot
    have hedge : ∀ x y, RoutesOver (step mac adj s ev) p.src_addr x y →
        RoutesOver s p.src_addr x y ∨ x = a ∧ y = p.next_hop := by
      intro x y hxy
      rcases routesOver_step hxy with hold | ⟨t', rx', p', hheard', hframe', -, -, -, hnext'⟩
      · exact .inl hold
      · right
        rw [hheard] at hheard'
        obtain ⟨rfl, rfl, rfl⟩ : a = x ∧ t = t' ∧ rx = rx' := by simpa using hheard'
        rw [hframe] at hframe'
        cases hframe'
        exact ⟨rfl, hnext'.symm⟩
    apply acyclic_of_source h (a := a)
    · intro x hxa
      rcases hedge x a hxa with hold | ⟨-, hself⟩
      · exact hunused x hold
      · exact hne hself.symm
    · intro x y hxy
      exact (hedge x y hxy).imp id And.left
  · -- without a new edge there is nothing to close
    push Not at hnew
    exact acyclic_mono h hnew

/-- **Untangled runs have no loops**: where every recorded reply names another node as the next
hop and reaches a node that no other routes over, or repeats the next hop that is there, the
active discovered routes to any destination form no cycle. -/
theorem discovered_routes_acyclic (mac : NetworkMac) (adj : UInt32 → UInt32 → Bool)
    (es : List Event) (hrun : Run.Meets (step mac adj) (Untangled mac adj) .start es)
    (dest : UInt32) : Acyclic (RoutesOver (es.foldl (step mac adj) .start) dest) := by
  apply Run.foldl_invariant (I := fun s => Acyclic (RoutesOver s dest)) _ hrun
  · apply acyclic_of_empty
    rintro a b ⟨e, he, -⟩
    cases he
  · exact fun s ev hs hev => acyclic_step hs hev

/-! ## A ring of four -/

def NamesAnother (s : Net) (r : UInt32) : Frame → Prop
  | .rrep p => p.next_hop ≠ r ∧ ∀ h ∈ s.heard, ¬ RoutesOver s p.src_addr h.receiver r
  | _ => True

instance (s : Net) (r : UInt32) : (f : Frame) → Decidable (NamesAnother s r f)
  | .rrep _ => inferInstanceAs (Decidable (_ ≠ _ ∧ ∀ h ∈ s.heard, ¬ _))
  | .rreq _ | .control _ => .isTrue trivial

lemma untangled_of_namesAnother (hs : AllHeard s)
    (h : ∀ x ∈ hearing adj s ev, NamesAnother s x.1 x.2.1.frame) : Untangled mac adj s ev := by
  intro r t rx p hheard hframe _ _
  have hnames := h _ hheard
  rw [hframe] at hnames
  refine .inr ⟨hnames.1, ?_⟩
  rintro n ⟨e, he, hrest⟩
  obtain ⟨x, hx, rfl, -⟩ := hs n e he hrest.2.1
  exact hnames.2 x hx ⟨e, he, hrest⟩

def overheard : List Event :=
  [.discover 1 3 7 0 0, .deliver 0 2 (clear 0), .deliver 0 4 (clear 0), .flush 2 0,
    .deliver 1 3 (clear 5), .deliver 2 4 (clear 0), .deliver 3 1 (clear 0)]

theorem discovered_routes_acyclic_overheard :
    RoutesOver (overheard.foldl (step zeroMac ring) .start) 3 1 4 ∧
      RoutesOver (overheard.foldl (step zeroMac ring) .start) 3 4 2 ∧
      Acyclic (RoutesOver (overheard.foldl (step zeroMac ring) .start) 3) := by
  refine ⟨by decide, by decide, ?_⟩
  apply discovered_routes_acyclic zeroMac ring overheard
  apply Run.meets_imp (I := AllHeard)
    (C := fun s ev => ∀ x ∈ hearing ring s ev, NamesAnother s x.1 x.2.1.frame)
  · exact fun s ev hs h => untangled_of_namesAnother hs h
  · exact fun s ev hs _ => allHeard_step zeroMac ring hs ev
  · exact allHeard_start
  · decide

/-- When node 2 hears the answer that is aimed at it, it routes to node 3 over itself. -/
theorem answered_node_loops :
    ¬ Acyclic (RoutesOver
      ([.discover 1 3 7 0 0, .deliver 0 2 (clear 0), .flush 2 0, .deliver 1 3 (clear 5),
        .deliver 2 2 (clear 0)].foldl (step zeroMac ring) .start) 3) := by
  intro hacyclic
  apply hacyclic 2
  apply Relation.TransGen.single
  decide

end BrambleMesh.LoopFree
