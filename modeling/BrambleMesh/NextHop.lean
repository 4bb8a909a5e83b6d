/-
The next hop that a route reply gives its receiver. `handle_rreq` writes the previous hop of the
request over the next hop of the destination's own answer.
-/
import BrambleMesh.MeshNet

namespace BrambleMesh.NextHop

open Routing Discovery MeshNet

/-! ## Where the addresses in frames come from -/

def OwnAnswer (t : Transmission) (p : Rrep) : Prop := t.relayed = false ∧ t.drawer = p.src_addr
deriving Decidable

def FrameSound (t : Transmission) : Prop :=
  match t.frame with
  | .rreq q => q.prev_hop = t.sender
  | .rrep p => p.next_hop = t.sender ↔ ¬ OwnAnswer t p
  | .control _ => True

structure NodeSound (me : UInt32) (n : Node) : Prop where
  reverse_hop : ∀ e ∈ n.reverse_routes, e.prev_hop ≠ me
  queued_hop : ∀ q ∈ n.rreq_fwd_queue, q.prev_hop = me

lemma nodeSound_fresh (me : UInt32) : NodeSound me .fresh :=
  ⟨fun _ he => absurd he List.not_mem_nil, fun _ hq => absurd hq List.not_mem_nil⟩

lemma nodeSound_act {me : UInt32} {n n' : Node} {outs : List Sent} (h : NodeSound me n)
    (hacts : Acts me n n' outs) :
    NodeSound me n' ∧ ∀ o ∈ outs, FrameSound ⟨me, me, o.relayed, o.frame⟩ := by
  refine ⟨⟨?_, fun q hq => h.queued_hop q (hacts.queue q hq)⟩, ?_⟩
  · rw [hacts.reverse]
    exact h.reverse_hop
  · intro o ho
    match o, hacts.originates o ho with
    | _, .request q hprev => exact hprev
    | _, .queued q hq => exact h.queued_hop q hq
    | _, .control kind seq => trivial

lemma nodeSound_hear {mac : NetworkMac} {me : UInt32} {n n' : Node} {t : Transmission}
    {now : UInt32} {outs : List Sent} (h : NodeSound me n) (ht : FrameSound t)
    (hne : t.sender ≠ me) (hchg : Changes mac me t.frame now n n')
    (hemit : ∀ o ∈ outs, Emits me n' t.frame o) :
    NodeSound me n' ∧
      ∀ o ∈ outs, FrameSound ⟨me, if o.relayed then t.drawer else me, o.relayed, o.frame⟩ := by
  have hrev : ∀ e ∈ n'.reverse_routes, e.prev_hop ≠ me := by
    intro e he
    rcases hchg.reverse e he with hold | ⟨q, hq, hprev⟩
    · exact h.reverse_hop e hold
    · -- the request names its transmitter, which is a neighbour
      unfold FrameSound at ht
      rw [hq] at ht
      rw [hprev, ht]
      exact hne
  refine ⟨⟨hrev, ?_⟩, ?_⟩
  · intro q hq
    rcases hchg.queue q hq with hold | hnew
    · exact h.queued_hop q hold
    · exact hnew
  · intro o ho
    match o, hemit o ho with
    | _, .request q hprev => exact hprev
    | _, .pass_control c _ => trivial
    | _, .answer p hsrc ⟨e, he, hback⟩ =>
      -- the one place where the field does not name the transmitter
      refine iff_of_false ?_ (not_not_intro ⟨rfl, hsrc.symm⟩)
      rw [← hback]
      exact hrev e he
    | _, .on_behalf p hsrc hnext => exact iff_of_true hnext fun hown => hsrc hown.2.symm
    | _, .pass_reply p p' _ _ hnext =>
      exact iff_of_true hnext fun hown => Bool.noConfusion hown.1

lemma sound_always (mac : NetworkMac) (adj : UInt32 → UInt32 → Bool) (es : List Event) :
    Sound NodeSound FrameSound (es.foldl (step mac adj) .start) :=
  sound_run nodeSound_fresh (fun _ _ _ _ h hacts => nodeSound_act h hacts)
    (fun _ _ _ _ _ _ h ht hne hchg hemit => nodeSound_hear h ht hne hchg hemit) es

/-! ## The route recorded -/

lemma decision_records {table table' : RoutingTable} {p : Rrep} {metric : UInt8}
    {pd : List PendingDiscovery} {rev : List ReverseRoute} {now : UInt32}
    (h : (let d := rrep_rx_decide p metric pd rev
      if d.install_route then
        route_install table d.route_dest d.route_next_hop d.route_hops d.route_metric .ACTIVE
          .DISCOVERED now
      else (table, false)) = (table', true)) :
    ∃ e, route_lookup table' p.src_addr = some e ∧ e.next_hop = p.next_hop := by
  obtain ⟨hdest, hnext⟩ := rrep_rx_decide_route p metric pd rev
  dsimp only at h
  split_ifs at h with hinst
  · have hlook := route_lookup_install h
    rw [hdest] at hlook
    exact ⟨_, hlook, hnext⟩
  · cases h

lemma handle_rrep_records {mac : NetworkMac} {me : UInt32} {n : Node} {p : Rrep} {rx : Rx}
    (h : (handle_rrep mac me n p rx).2.2) :
    ∃ e, route_lookup (handle_rrep mac me n p rx).1.routes p.src_addr = some e ∧
      e.next_hop = p.next_hop := by
  generalize hout : handle_rrep mac me n p rx = out at h ⊢
  unfold handle_rrep at hout
  dsimp only at hout
  split at hout
  · rw [← hout] at h
    cases h
  · split at hout
    · rw [← hout] at h
      cases h
    · -- whatever is done with the reply, the table and the flag are those of the installation
      split at hout <;> rw [← hout] at h ⊢ <;> exact decision_records (Prod.ext rfl h)

def LeadsToSender (s : Net) (r : UInt32) (t : Transmission) (p : Rrep) : Prop :=
  ∃ e, route_lookup (s.nodes r).routes p.src_addr = some e ∧ e.next_hop = t.sender ∧
    e.next_hop ≠ r

/-- **The next hop recorded from a reply** is the neighbour it was heard from, unless the reply is
the destination's own answer heard at first hand; in that case it never is. -/
theorem recorded_next_hop_iff (mac : NetworkMac) (adj : UInt32 → UInt32 → Bool)
    (es : List Event) (k : ℕ) (r : UInt32) (rx : Rx) (t : Transmission) (p : Rrep)
    (hair : (es.foldl (step mac adj) .start).air[k]? = some t) (hreply : t.frame = .rrep p)
    (hadj : adj t.sender r = true) (hne : t.sender ≠ r)
    (hrec : (handle_rrep mac r ((es.foldl (step mac adj) .start).nodes r) p rx).2.2 = true) :
    LeadsToSender (step mac adj (es.foldl (step mac adj) .start) (.deliver k r rx)) r t p ↔
      ¬ OwnAnswer t p := by
  generalize hs : es.foldl (step mac adj) .start = s at hair hrec ⊢
  have hsound : FrameSound t := by
    have := (sound_always mac adj es).air t
    rw [hs] at this
    exact this (List.mem_of_getElem? hair)
  unfold FrameSound at hsound
  rw [hreply] at hsound
  have hhop : p.next_hop = t.sender ↔ ¬ OwnAnswer t p := hsound
  have hnode : (step mac adj s (.deliver k r rx)).nodes r =
      (handle_rrep mac r (s.nodes r) p rx).1 := by
    unfold step
    dsimp only
    rw [hair]
    dsimp only
    rw [if_pos (by rw [hadj, bne_iff_ne.2 hne]; rfl), Net.hear_nodes, Net.set_node_self, hreply]
    rfl
  -- what is recorded is the next hop that the reply names
  obtain ⟨e, he, hnext⟩ := handle_rrep_records hrec
  rw [← hhop]
  unfold LeadsToSender
  rw [hnode]
  constructor
  · rintro ⟨e', he', hsender, -⟩
    rw [he] at he'
    rw [← hnext, Option.some.inj he']
    exact hsender
  · intro hsender
    rw [← hsender] at hne ⊢
    exact ⟨e, he, hnext, hnext ▸ hne⟩

/-! ## Two small networks -/

def line (a b : UInt32) : Bool := a + 1 == b || b + 1 == a

def two_hop_discovery : List Event :=
  [.discover 1 3 7 0 0, .deliver 0 2 (clear 0), .flush 2 0, .deliver 1 3 (clear 5),
    .deliver 2 2 (clear 0)]

def passed_on : Rrep := ⟨1, 7, 7, 3, 2, 2, 255, Vector.replicate 8 0, 5⟩

theorem recorded_next_hop_iff_relayed :
    (two_hop_discovery.foldl (step zeroMac line) .start).air[3]? =
        some ⟨2, 3, true, .rrep passed_on⟩ ∧
      LeadsToSender (step zeroMac line (two_hop_discovery.foldl (step zeroMac line) .start)
        (.deliver 3 1 (clear 0))) 1 ⟨2, 3, true, .rrep passed_on⟩ passed_on :=
  ⟨by decide +kernel,
    (recorded_next_hop_iff zeroMac line two_hop_discovery 3 1 (clear 0)
      ⟨2, 3, true, .rrep passed_on⟩ passed_on (by decide +kernel) rfl rfl (by decide)
      (by decide +kernel)).mpr (by decide)⟩

/-- Node 2 answers node 1 at first hand, and the next hop that node 1 records is node 1. -/
theorem neighbour_records_itself :
    let s := [Event.discover 1 2 7 0 0, .deliver 0 2 (clear 5)].foldl (step zeroMac line) .start
    ∃ p : Rrep, s.air[1]? = some ⟨2, 2, false, .rrep p⟩ ∧ p.src_addr = 2 ∧
      (handle_rrep zeroMac 1 (s.nodes 1) p (clear 0)).2.2 = true ∧
      ((route_lookup ((step zeroMac line s (.deliver 1 1 (clear 0))).nodes 1).routes 2).map
        fun e => e.next_hop) = some 1 := by
  refine ⟨⟨1, 7, 7, 2, 1, 1, 255, Vector.replicate 8 0, 5⟩, ?_, rfl, ?_, ?_⟩
  · decide
  · decide
  · decide

end BrambleMesh.NextHop
