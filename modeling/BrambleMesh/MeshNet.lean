/-
A network of honest nodes exchanging control frames: main/mesh_routing.c, main/mesh_beacon.c, over
an air that may lose, delay, reorder and duplicate. The topology is a parameter. A transmission
also records who drew its sequence number and whether it is a relayed copy; no handler reads that.
-/
import BrambleMesh.Discovery
import BrambleMesh.ReplayWindow

namespace BrambleMesh.MeshNet

open Routing Discovery ReplayWindow Function List

/-! ## Nodes -/

structure Node where
  routes : RoutingTable
  rreq_dedup : List RreqSeen
  reverse_routes : List ReverseRoute
  pending_disc : List PendingDiscovery
  rreq_fwd_queue : List Rreq
  control_replay : ReplayTable
  seq_floor : UInt64

def Node.fresh : Node := ⟨[], [], [], [], [], replay_table_init, 0⟩

abbrev RREQ_FWD_QUEUE_CAPACITY : ℕ := 8

def control_seq_next (n : Node) (draw : UInt64) : Option (UInt64 × Node) :=
  if n.seq_floor ≤ draw ∧ draw < 0x1000000000000 then
    some (draw, { n with seq_floor := draw + 1 })
  else none

def control_replay_ok (n : Node) (signer_addr : UInt32) (seq : UInt64) (now : UInt32) :
    Bool × Node :=
  let r := replay_check_and_add n.control_replay signer_addr seq now
  (r.2 == .ACCEPT, { n with control_replay := r.1 })

/-! ## Frames -/

inductive ControlKind
  | BEACON
  | IDENTITY_ATTESTATION
  | RERR
  | ACK
  | DELIVERY_RECEIPT
deriving DecidableEq, Repr

def ControlKind.relayable : ControlKind → Bool
  | BEACON => false
  | RERR => false
  | _ => true

structure Control where
  kind : ControlKind
  src_addr : UInt32
  seq : UInt64
deriving DecidableEq, Repr

inductive Frame
  | rreq (q : Rreq)
  | rrep (p : Rrep)
  | control (c : Control)
deriving DecidableEq, Repr

structure Sent where
  frame : Frame
  relayed : Bool
deriving DecidableEq, Repr

structure Rx where
  rssi : Int8
  snr : Int8
  now : UInt32
  draw : UInt64
  fwd_allow : Bool
  relay : Bool
deriving DecidableEq, Repr

/-! ## Inputs of the examples -/

def zeroMac : NetworkMac := fun _ _ => Vector.replicate 8 0

def clear (draw : UInt64) : Rx := ⟨-50, 12, 0, draw, true, false⟩

def ring (a b : UInt32) : Bool :=
  [(1, 2), (2, 1), (2, 3), (3, 2), (3, 4), (4, 3), (4, 1), (1, 4)].contains (a, b)

/-! ## Handlers -/

def install_source_route (n : Node) (rreq : Rreq) (rx : Rx) : Node :=
  { n with
    routes := (route_install n.routes rreq.prev_hop rreq.prev_hop rreq.hop_count
      (metric_apply_link_penalty rreq.metric rx.rssi rx.snr) .ACTIVE .BREADCRUMB rx.now).1 }

variable (mac : NetworkMac)

def reply_as_destination (me : UInt32) (n : Node) (rreq : Rreq) (rx : Rx) :
    Node × List Sent :=
  let rrep := rrep_build_destination mac rreq me
  match control_seq_next n rx.draw with
  | none => (n, [])
  | some (seq, n) =>
    let rrep := rrep_sign mac { rrep with seq := seq }
    -- the tag does not cover the next hop, so it is overwritten after signing
    let rrep :=
      match reverse_route_lookup n.reverse_routes rreq.query_id with
      | some rev => { rrep with next_hop := rev.prev_hop }
      | none => rrep
    (install_source_route n rreq rx, [⟨.rrep rrep, false⟩])

def reply_as_intermediate (me : UInt32) (n : Node) (rreq : Rreq)
    (cached_route : RouteEntry) (rx : Rx) : Node × List Sent :=
  -- the reply carries the address of the destination, the number is this node's
  let rrep := rrep_build_intermediate mac rreq cached_route me rx.rssi rx.snr
  match control_seq_next n rx.draw with
  | none => (n, [])
  | some (seq, n) =>
    let rrep := rrep_sign mac { rrep with seq := seq }
    (install_source_route n rreq rx, [⟨.rrep rrep, false⟩])

def schedule_rreq_forward (n : Node) (fwd : Rreq) : Node × List Sent :=
  if n.rreq_fwd_queue.length < RREQ_FWD_QUEUE_CAPACITY then
    ({ n with rreq_fwd_queue := n.rreq_fwd_queue ++ [fwd] }, [])
  else (n, [⟨.rreq fwd, true⟩])

def forward_rreq (me : UInt32) (n : Node) (rreq : Rreq) (rx : Rx) : Node × List Sent :=
  if rreq.hop_limit > 1 then
    if !rx.fwd_allow then (n, [])
    else schedule_rreq_forward n (rreq_forward rreq me rx.rssi rx.snr)
  else (n, [])

def handle_rreq (me : UInt32) (n : Node) (rreq : Rreq) (rx : Rx) :
    Node × List Sent :=
  let (seen, cache) := rreq_dedup_check_and_add n.rreq_dedup rreq.query_id rx.now
  let n := { n with rreq_dedup := cache }
  if seen then (n, [])
  else
    -- the way back is noted before it is known whether the request is answered here
    let n := { n with
      reverse_routes := reverse_route_add n.reverse_routes rreq.query_id rreq.prev_hop rx.now }
    if rreq.dest_addr == me then reply_as_destination mac me n rreq rx
    else
      match route_lookup n.routes rreq.dest_addr with
      | some cached_route =>
        if intermediate_rrep_route_usable cached_route rx.now then
          reply_as_intermediate mac me n rreq cached_route rx
        else forward_rreq me n rreq rx
      | none => forward_rreq me n rreq rx

def handle_rrep (me : UInt32) (n : Node) (rrep : Rrep) (rx : Rx) :
    Node × List Sent × Bool :=
  if !rrep_verify mac rrep then (n, [], false)
  else
    -- the check is keyed by the address the reply is about, whoever drew its number
    let (ok, n) := control_replay_ok n rrep.src_addr rrep.seq rx.now
    if !ok then (n, [], false)
    else
      let metric := metric_apply_link_penalty rrep.route_metric rx.rssi rx.snr
      let d := rrep_rx_decide rrep metric n.pending_disc n.reverse_routes
      -- `route_install` may still refuse, when the route it holds is better
      let (routes, recorded) :=
        if d.install_route then
          route_install n.routes d.route_dest d.route_next_hop d.route_hops d.route_metric .ACTIVE
            .DISCOVERED rx.now
        else (n.routes, false)
      let n := { n with routes := routes }
      match d.action with
      | .DELIVER dest =>
        ({ n with pending_disc := discovery_remove n.pending_disc dest }, [], recorded)
      | .FORWARD forward_to =>
        (n, [⟨.rrep (rrep_forward rrep forward_to me), true⟩], recorded)
      | .DROP => (n, [], recorded)

def handle_control (me : UInt32) (n : Node) (c : Control) (rx : Rx) : Node × List Sent :=
  if c.kind == .BEACON && c.src_addr == me then (n, [])
  else
    let (ok, n) := control_replay_ok n c.src_addr c.seq rx.now
    if ok && rx.relay && c.kind.relayable then (n, [⟨.control c, true⟩]) else (n, [])

def handle (me : UInt32) (n : Node) (f : Frame) (rx : Rx) :
    Node × List Sent :=
  match f with
  | .rreq q => handle_rreq mac me n q rx
  | .rrep p => ((handle_rrep mac me n p rx).1, (handle_rrep mac me n p rx).2.1)
  | .control c => handle_control me n c rx

/-! ## The network -/

structure Transmission where
  sender : UInt32
  drawer : UInt32
  relayed : Bool
  frame : Frame
deriving DecidableEq, Repr

structure Heard where
  receiver : UInt32
  transmission : Transmission
  accepted : Bool
deriving DecidableEq, Repr

structure Net where
  nodes : UInt32 → Node
  air : List Transmission
  heard : List Heard

def Net.start : Net := ⟨fun _ => .fresh, [], []⟩

def checked (me : UInt32) : Frame → Option (UInt32 × UInt64)
  | .rreq _ => none
  | .rrep p => if rrep_verify mac p then some (p.src_addr, p.seq) else none
  | .control c =>
    if c.kind == .BEACON && c.src_addr == me then none else some (c.src_addr, c.seq)

def passes (me : UInt32) (n : Node) (f : Frame) (now : UInt32) : Bool :=
  match checked mac me f with
  | none => false
  | some (signer_addr, seq) => (control_replay_ok n signer_addr seq now).1

inductive Event
  | discover (n dest query encrypted_source now : UInt32)
  | retry (n : UInt32) (i : ℕ) (query encrypted_source now : UInt32)
  | flush (n : UInt32) (i : ℕ)
  | originate (n : UInt32) (kind : ControlKind) (draw : UInt64)
  | breadcrumb (n dest next_hop : UInt32) (hop_count metric : UInt8) (now : UInt32)
  | maintain (n now : UInt32)
  | broken (n broken_dest broken_next_hop : UInt32)
  | deliver (k : ℕ) (receiver : UInt32) (rx : Rx)
deriving DecidableEq, Repr

def Net.set_node (s : Net) (n : UInt32) (node : Node) : Net :=
  { s with nodes := update s.nodes n node }

def Net.send (s : Net) (me drawer : UInt32) (outs : List Sent) : Net :=
  { s with
    air := s.air ++ outs.map fun o => ⟨me, if o.relayed then drawer else me, o.relayed, o.frame⟩ }

def Net.hear (s : Net) (t : Transmission) (receiver : UInt32) (rx : Rx) :
    Net :=
  let n := s.nodes receiver
  let out := handle mac receiver n t.frame rx
  let s' := (s.set_node receiver out.1).send receiver t.drawer out.2
  { s' with heard := ⟨receiver, t, passes mac receiver n t.frame rx.now⟩ :: s.heard }

def step (adj : UInt32 → UInt32 → Bool) (s : Net) : Event → Net
  | .discover n dest query encrypted_source now =>
    let node := s.nodes n
    let node := { node with pending_disc := discovery_start node.pending_disc dest query now }
    let rreq := rreq_build_originator n dest query encrypted_source
      (discovery_hop_limit_for_attempt 1)
    (s.set_node n node).send n n [⟨.rreq rreq, false⟩]
  | .retry n i query encrypted_source now =>
    let node := s.nodes n
    match node.pending_disc[i]? with
    | none => s
    | some pd =>
      let pd := discovery_record_attempt pd query now
      let rreq := rreq_build_originator n pd.dest_addr query encrypted_source
        (discovery_hop_limit_for_attempt pd.attempts)
      (s.set_node n { node with pending_disc := node.pending_disc.set i pd }).send n n
        [⟨.rreq rreq, false⟩]
  | .flush n i =>
    let node := s.nodes n
    match node.rreq_fwd_queue[i]? with
    | none => s
    | some rreq =>
      (s.set_node n { node with rreq_fwd_queue := node.rreq_fwd_queue.eraseIdx i }).send n n
        [⟨.rreq rreq, true⟩]
  | .originate n kind draw =>
    match control_seq_next (s.nodes n) draw with
    | none => s
    | some (seq, node) => (s.set_node n node).send n n [⟨.control ⟨kind, n, seq⟩, false⟩]
  | .breadcrumb n dest next_hop hop_count metric now =>
    let node := s.nodes n
    s.set_node n { node with
      routes := (route_install node.routes dest next_hop hop_count metric .ACTIVE .BREADCRUMB
        now).1 }
  | .maintain n now =>
    let node := s.nodes n
    s.set_node n { node with routes := route_maintenance node.routes now }
  | .broken n broken_dest broken_next_hop =>
    let node := s.nodes n
    s.set_node n { node with routes := rerr_handle node.routes broken_dest broken_next_hop }
  | .deliver k receiver rx =>
    match s.air[k]? with
    | none => s
    | some t =>
      if adj t.sender receiver && t.sender != receiver then s.hear mac t receiver rx else s

/-! ## What one step can do

The rest of the module says once what the handlers, and the events, can put into a node and on
the air.  Every invariant of the network is read off from `handle_spec` and `step_cases`. -/

inductive Emits (me : UInt32) (n' : Node) (f : Frame) : Sent → Prop
  | request (q : Rreq) (hprev : q.prev_hop = me) : Emits me n' f ⟨.rreq q, true⟩
  | answer (p : Rrep) (hsrc : p.src_addr = me)
      (hback : ∃ e ∈ n'.reverse_routes, e.prev_hop = p.next_hop) : Emits me n' f ⟨.rrep p, false⟩
  | on_behalf (p : Rrep) (hsrc : p.src_addr ≠ me) (hnext : p.next_hop = me) :
      Emits me n' f ⟨.rrep p, false⟩
  | pass_reply (p p' : Rrep) (hf : f = .rrep p) (hsrc : p'.src_addr = p.src_addr)
      (hnext : p'.next_hop = me) : Emits me n' f ⟨.rrep p', true⟩
  | pass_control (c : Control) (hf : f = .control c) : Emits me n' f ⟨.control c, true⟩

structure Changes (me : UInt32) (f : Frame) (now : UInt32) (n n' : Node) :
    Prop where
  reverse : ∀ e ∈ n'.reverse_routes, e ∈ n.reverse_routes ∨
    ∃ q, f = .rreq q ∧ e.prev_hop = q.prev_hop
  queue : ∀ q ∈ n'.rreq_fwd_queue, q ∈ n.rreq_fwd_queue ∨ q.prev_hop = me
  replay : n'.control_replay =
    match checked mac me f with
    | none => n.control_replay
    | some (signer_addr, seq) => after n.control_replay ⟨signer_addr, seq, now⟩

variable {n n' : Node} {me : UInt32}

lemma control_seq_next_draws {draw seq : UInt64} (h : control_seq_next n draw = some (seq, n')) :
    n' = { n with seq_floor := draw + 1 } := by
  unfold control_seq_next at h
  split_ifs at h
  exact (Prod.mk.inj (Option.some.inj h)).2.symm

structure Treats (me : UInt32) (n : Node) (rreq : Rreq) (out : Node × List Sent) : Prop where
  reverse : out.1.reverse_routes = n.reverse_routes
  replay : out.1.control_replay = n.control_replay
  queue : ∀ q ∈ out.1.rreq_fwd_queue, q ∈ n.rreq_fwd_queue ∨ q.prev_hop = me
  emits : ∀ o ∈ out.2, Emits me out.1 (.rreq rreq) o

def noted (n : Node) (rreq : Rreq) (now : UInt32) : Node :=
  { n with
    rreq_dedup := (rreq_dedup_check_and_add n.rreq_dedup rreq.query_id now).2
    reverse_routes := reverse_route_add n.reverse_routes rreq.query_id rreq.prev_hop now }

inductive Replies (me : UInt32) (n : Node) (rreq : Rreq) (p : Rrep) : Prop
  | destination (hquery : p.query_id = rreq.query_id) (hsrc : p.src_addr = me)
      (hhops : p.hop_count = hop_inc_sat rreq.hop_count)
      (hback : ∃ e ∈ n.reverse_routes, e.prev_hop = p.next_hop)
  | intermediate (cached_route : RouteEntry) (hquery : p.query_id = rreq.query_id)
      (hsrc : p.src_addr = cached_route.dest_addr) (hother : p.src_addr ≠ me)
      (hnext : p.next_hop = me)
      (hcached : route_lookup n.routes rreq.dest_addr = some cached_route)
      (hsource : cached_route.source = .DISCOVERED)
      (hhops : p.hop_count = hop_add_sat (hop_inc_sat rreq.hop_count) cached_route.hop_count)

inductive Outcome (me : UInt32) (n : Node) (rreq : Rreq) (rx : Rx) : Node × List Sent → Prop
  | seen (hseen : (rreq_dedup_check_and_add n.rreq_dedup rreq.query_id rx.now).1) :
      Outcome me n rreq rx ({ n with
        rreq_dedup := (rreq_dedup_check_and_add n.rreq_dedup rreq.query_id rx.now).2 }, [])
  | dropped (hnew : (rreq_dedup_check_and_add n.rreq_dedup rreq.query_id rx.now).1 = false) :
      Outcome me n rreq rx (noted n rreq rx.now, [])
  | replied (hnew : (rreq_dedup_check_and_add n.rreq_dedup rreq.query_id rx.now).1 = false)
      (p : Rrep) (hp : Replies me (noted n rreq rx.now) rreq p) :
      Outcome me n rreq rx (install_source_route
        { noted n rreq rx.now with seq_floor := rx.draw + 1 } rreq rx, [⟨.rrep p, false⟩])
  | queued (hnew : (rreq_dedup_check_and_add n.rreq_dedup rreq.query_id rx.now).1 = false)
      (hlimit : rreq.hop_limit > 1) :
      Outcome me n rreq rx ({ noted n rreq rx.now with
        rreq_fwd_queue := n.rreq_fwd_queue ++ [rreq_forward rreq me rx.rssi rx.snr] }, [])
  | passed (hnew : (rreq_dedup_check_and_add n.rreq_dedup rreq.query_id rx.now).1 = false)
      (hlimit : rreq.hop_limit > 1) :
      Outcome me n rreq rx
        (noted n rreq rx.now, [⟨.rreq (rreq_forward rreq me rx.rssi rx.snr), true⟩])

section

variable {me : UInt32} {n : Node} {rreq : Rreq} {rx : Rx}
  (hnew : (rreq_dedup_check_and_add n.rreq_dedup rreq.query_id rx.now).1 = false)

include hnew

lemma reply_as_destination_outcome (mac : NetworkMac) :
    Outcome me n rreq rx (reply_as_destination mac me (noted n rreq rx.now) rreq rx) := by
  obtain ⟨rev, hrev, hmem⟩ := reverse_route_lookup_add n.reverse_routes rreq.query_id
    rreq.prev_hop rx.now
  have hnoted : reverse_route_lookup (noted n rreq rx.now).reverse_routes rreq.query_id =
      some rev := hrev
  unfold reply_as_destination
  split
  · exact .dropped hnew
  · next seq n' hdraw =>
    rw [control_seq_next_draws hdraw, hnoted]
    exact .replied hnew _ (.destination rfl rfl rfl ⟨rev, hmem, rfl⟩)

lemma reply_as_intermediate_outcome (mac : NetworkMac) {cached_route : RouteEntry}
    (hother : rreq.dest_addr ≠ me)
    (hcached : route_lookup n.routes rreq.dest_addr = some cached_route)
    (husable : intermediate_rrep_route_usable cached_route rx.now) :
    Outcome me n rreq rx
      (reply_as_intermediate mac me (noted n rreq rx.now) rreq cached_route rx) := by
  have hsource : cached_route.source = .DISCOVERED := by
    simp only [intermediate_rrep_route_usable, Bool.and_eq_true, beq_iff_eq] at husable
    exact husable.1.1
  have hdest : cached_route.dest_addr ≠ me := by
    have hfound := find?_some (p := fun e : RouteEntry => e.dest_addr == rreq.dest_addr)
      hcached
    rw [eq_of_beq hfound]
    exact hother
  unfold reply_as_intermediate
  split
  · exact .dropped hnew
  · next seq n' hdraw =>
    rw [control_seq_next_draws hdraw]
    exact .replied hnew _ (.intermediate cached_route rfl rfl hdest rfl hcached hsource rfl)

lemma forward_rreq_outcome :
    Outcome me n rreq rx (forward_rreq me (noted n rreq rx.now) rreq rx) := by
  unfold forward_rreq schedule_rreq_forward
  split_ifs with hlimit
  · exact .dropped hnew
  · exact .queued hnew hlimit
  · exact .passed hnew hlimit
  · exact .dropped hnew

end

lemma handle_rreq_seen {mac : NetworkMac} {rreq : Rreq} {rx : Rx}
    (h : (rreq_dedup_check_and_add n.rreq_dedup rreq.query_id rx.now).1) :
    handle_rreq mac me n rreq rx = ({ n with
      rreq_dedup := (rreq_dedup_check_and_add n.rreq_dedup rreq.query_id rx.now).2 }, []) := by
  simp [handle_rreq, h]

variable (mac : NetworkMac)

/-- **What handling a request can come to.** -/
theorem handle_rreq_outcome (me : UInt32) (n : Node) (rreq : Rreq) (rx : Rx) :
    Outcome me n rreq rx (handle_rreq mac me n rreq rx) := by
  rcases hseen : (rreq_dedup_check_and_add n.rreq_dedup rreq.query_id rx.now).1 with _ | _
  · unfold handle_rreq
    dsimp only
    rw [if_neg (by simp [hseen])]
    split_ifs with hmine
    · exact reply_as_destination_outcome hseen mac
    · split
      · next cached_route hcached =>
        split_ifs with husable
        · exact reply_as_intermediate_outcome hseen mac (fun h => hmine (beq_iff_eq.2 h)) hcached
            husable
        · exact forward_rreq_outcome hseen
      · exact forward_rreq_outcome hseen
  · rw [handle_rreq_seen hseen]
    exact .seen hseen

lemma handle_rreq_cases (me : UInt32) (n : Node) (rreq : Rreq) (rx : Rx) :
    (∃ cache, handle_rreq mac me n rreq rx = ({ n with rreq_dedup := cache }, [])) ∨
      Treats me (noted n rreq rx.now) rreq (handle_rreq mac me n rreq rx) := by
  have hprev : (rreq_forward rreq me rx.rssi rx.snr).prev_hop = me := rfl
  generalize hout : handle_rreq mac me n rreq rx = out
  have houtcome := handle_rreq_outcome mac me n rreq rx
  rw [hout] at houtcome
  match houtcome with
  | .seen _ => exact .inl ⟨_, rfl⟩
  | .dropped _ => exact .inr ⟨rfl, rfl, fun _ hq => .inl hq, by simp⟩
  | .replied _ p hp =>
    refine .inr ⟨rfl, rfl, fun _ hq => .inl hq, ?_⟩
    intro o ho
    rw [mem_singleton.1 ho]
    match hp with
    | .destination _ hsrc _ hback => exact .answer p hsrc hback
    | .intermediate _ _ _ hother hnext _ _ _ => exact .on_behalf p hother hnext
  | .queued _ _ =>
    refine .inr ⟨rfl, rfl, ?_, by simp⟩
    intro q hq
    rcases mem_append.1 hq with hold | hqueued
    · exact .inl hold
    · rw [mem_singleton.1 hqueued]
      exact .inr hprev
  | .passed _ _ =>
    refine .inr ⟨rfl, rfl, fun _ hq => .inl hq, ?_⟩
    intro o ho
    rw [mem_singleton.1 ho]
    exact .request _ hprev

lemma handle_rrep_spec (mac : NetworkMac) (me : UInt32) (n : Node) (rrep : Rrep) (rx : Rx) :
    let out := handle_rrep mac me n rrep rx
    Changes mac me (.rrep rrep) rx.now n out.1 ∧
      ∀ o ∈ out.2.1, Emits me out.1 (.rrep rrep) o := by
  have hnone : ∀ n', ∀ o ∈ ([] : List Sent), Emits me n' (.rrep rrep) o :=
    fun _ _ ho => absurd ho not_mem_nil
  intro out
  by_cases hv : rrep_verify mac rrep
  · have hreplay : ∀ n' : Node,
        n'.control_replay = after n.control_replay ⟨rrep.src_addr, rrep.seq, rx.now⟩ →
        n'.reverse_routes = n.reverse_routes → n'.rreq_fwd_queue = n.rreq_fwd_queue →
        Changes mac me (.rrep rrep) rx.now n n' := by
      intro n' hc hr hq
      refine ⟨fun e he => .inl (hr ▸ he), fun q h => .inl (hq ▸ h), ?_⟩
      rw [hc, checked, if_pos hv]
    -- past the tag, all branches leave the same replay table; one of them sends
    have hout : out = handle_rrep mac me n rrep rx := rfl
    unfold handle_rrep at hout
    rw [if_neg (by rw [hv]; exact Bool.false_ne_true)] at hout
    dsimp only [control_replay_ok] at hout
    split at hout
    · rw [hout]
      exact ⟨hreplay _ rfl rfl rfl, hnone _⟩
    · split at hout
      · rw [hout]
        exact ⟨hreplay _ rfl rfl rfl, hnone _⟩
      · rw [hout]
        refine ⟨hreplay _ rfl rfl rfl, ?_⟩
        intro o ho
        rw [mem_singleton.1 ho]
        exact .pass_reply rrep _ rfl rfl rfl
      · rw [hout]
        exact ⟨hreplay _ rfl rfl rfl, hnone _⟩
  · have hout : out = (n, [], false) := by
      apply if_pos
      rw [Bool.eq_false_iff.2 hv]
      rfl
    rw [hout]
    refine ⟨⟨fun e he => .inl he, fun q h => .inl h, ?_⟩, hnone n⟩
    rw [checked, if_neg hv]

lemma handle_control_spec (mac : NetworkMac) (me : UInt32) (n : Node) (c : Control) (rx : Rx) :
    let out := handle_control me n c rx
    Changes mac me (.control c) rx.now n out.1 ∧ ∀ o ∈ out.2, Emits me out.1 (.control c) o := by
  unfold handle_control
  dsimp only [control_replay_ok]
  split_ifs with hown hrelay
  · refine ⟨⟨fun e he => .inl he, fun q h => .inl h, ?_⟩,
      fun _ ho => absurd ho not_mem_nil⟩
    rw [checked, if_pos hown]
  · refine ⟨⟨fun e he => .inl he, fun q h => .inl h, ?_⟩, ?_⟩
    · rw [checked, if_neg hown]
      rfl
    · intro o ho
      rw [mem_singleton.1 ho]
      exact .pass_control c rfl
  · refine ⟨⟨fun e he => .inl he, fun q h => .inl h, ?_⟩,
      fun _ ho => absurd ho not_mem_nil⟩
    rw [checked, if_neg hown]
    rfl

/-- **What handling a frame can do**, to the node and on the air. -/
theorem handle_spec (me : UInt32) (n : Node) (f : Frame) (rx : Rx) :
    Changes mac me f rx.now n (handle mac me n f rx).1 ∧
      ∀ o ∈ (handle mac me n f rx).2, Emits me (handle mac me n f rx).1 f o := by
  match f with
  | .rrep p => exact handle_rrep_spec mac me n p rx
  | .control c => exact handle_control_spec mac me n c rx
  | .rreq q =>
    rcases handle_rreq_cases mac me n q rx with ⟨cache, h⟩ | h
    · rw [handle, h]
      exact ⟨⟨fun e he => .inl he, fun q h => .inl h, rfl⟩,
        fun _ ho => absurd ho not_mem_nil⟩
    · refine ⟨⟨?_, h.queue, h.replay⟩, h.emits⟩
      intro e he
      rw [handle, h.reverse] at he
      rcases mem_reverse_route_add he with hold | rfl
      · exact .inl hold
      · exact .inr ⟨q, rfl, rfl⟩

inductive Originates (me : UInt32) (n : Node) : Sent → Prop
  | request (q : Rreq) (hprev : q.prev_hop = me) : Originates me n ⟨.rreq q, false⟩
  | queued (q : Rreq) (hq : q ∈ n.rreq_fwd_queue) : Originates me n ⟨.rreq q, true⟩
  | control (kind : ControlKind) (seq : UInt64) : Originates me n ⟨.control ⟨kind, me, seq⟩, false⟩

structure Acts (me : UInt32) (n n' : Node) (outs : List Sent) : Prop where
  reverse : n'.reverse_routes = n.reverse_routes
  replay : n'.control_replay = n.control_replay
  queue : ∀ q ∈ n'.rreq_fwd_queue, q ∈ n.rreq_fwd_queue
  originates : ∀ o ∈ outs, Originates me n o

lemma acts_silent (hr : n'.reverse_routes = n.reverse_routes)
    (hc : n'.control_replay = n.control_replay) (hq : n'.rreq_fwd_queue = n.rreq_fwd_queue) :
    Acts me n n' [] :=
  ⟨hr, hc, fun _ h => hq ▸ h, fun _ ho => absurd ho not_mem_nil⟩

lemma acts_sending {o : Sent} (hr : n'.reverse_routes = n.reverse_routes)
    (hc : n'.control_replay = n.control_replay)
    (hq : ∀ q ∈ n'.rreq_fwd_queue, q ∈ n.rreq_fwd_queue) (ho : Originates me n o) :
    Acts me n n' [o] := by
  refine ⟨hr, hc, hq, ?_⟩
  intro o' ho'
  rw [mem_singleton.1 ho']
  exact ho

/-- **What one step of the network can do**: a node acts of its own accord, or hears what a
neighbour has transmitted. -/
theorem step_cases (adj : UInt32 → UInt32 → Bool) (s : Net) (e : Event) :
    (∃ n n' outs, Acts n (s.nodes n) n' outs ∧
      step mac adj s e = (s.set_node n n').send n n outs) ∨
    (∃ k t r rx, e = .deliver k r rx ∧ s.air[k]? = some t ∧ adj t.sender r ∧
      t.sender ≠ r ∧ step mac adj s e = s.hear mac t r rx) := by
  have hidle : ∃ n n' outs, Acts n (s.nodes n) n' outs ∧ s = (s.set_node n n').send n n outs :=
    ⟨0, s.nodes 0, [], acts_silent rfl rfl rfl, by
      rw [Net.send, Net.set_node, update_eq_self, map_nil, append_nil]⟩
  -- an event without a transmission still has the shape of a sending of nothing
  have hset : ∀ n n', s.set_node n n' = (s.set_node n n').send n n [] := by
    intro n n'
    rw [Net.send, map_nil, append_nil]
  match e with
  | .discover n dest query encrypted_source now =>
    refine .inl ⟨n, _, _, ?_, rfl⟩
    exact acts_sending rfl rfl (fun _ h => h) (.request _ rfl)
  | .retry n i query encrypted_source now =>
    left
    unfold step
    dsimp only
    split
    · exact hidle
    · refine ⟨n, _, _, ?_, rfl⟩
      exact acts_sending rfl rfl (fun _ h => h) (.request _ rfl)
  | .flush n i =>
    left
    unfold step
    dsimp only
    split
    · exact hidle
    · next q hq =>
      refine ⟨n, _, _, ?_, rfl⟩
      exact acts_sending rfl rfl (fun _ h => mem_of_mem_eraseIdx h)
        (.queued q (mem_of_getElem? hq))
  | .originate n kind draw =>
    left
    unfold step
    dsimp only
    split
    · exact hidle
    · next seq n' hdraw =>
      rw [control_seq_next_draws hdraw]
      refine ⟨n, _, _, ?_, rfl⟩
      exact acts_sending rfl rfl (fun _ h => h) (.control kind seq)
  | .breadcrumb n .. | .maintain n _ | .broken n .. =>
    refine .inl ⟨n, _, _, ?_, hset n _⟩
    exact acts_silent rfl rfl rfl
  | .deliver k r rx =>
    unfold step
    dsimp only
    split
    · exact .inl hidle
    · next t ht =>
      split_ifs with hadj
      · right
        rw [Bool.and_eq_true, bne_iff_ne] at hadj
        exact ⟨k, t, r, rx, rfl, ht, hadj.1, hadj.2, rfl⟩
      · exact .inl hidle

/-! ## Invariants of the network -/

@[simp] lemma Net.send_nodes (s : Net) (me drawer : UInt32) (outs : List Sent) :
    (s.send me drawer outs).nodes = s.nodes := rfl

@[simp] lemma Net.set_node_self (s : Net) (me : UInt32) (n : Node) :
    (s.set_node me n).nodes me = n := update_self ..

@[simp] lemma Net.set_node_ne (s : Net) {me i : UInt32} (n : Node) (h : i ≠ me) :
    (s.set_node me n).nodes i = s.nodes i := update_of_ne h ..

@[simp] lemma Net.hear_nodes (mac : NetworkMac) (s : Net) (t : Transmission) (r : UInt32)
    (rx : Rx) :
    (s.hear mac t r rx).nodes =
      (s.set_node r (handle mac r (s.nodes r) t.frame rx).1).nodes := rfl

lemma mem_air_send {s : Net} {drawer : UInt32} {outs : List Sent} {t : Transmission}
    (h : t ∈ (s.send me drawer outs).air) :
    t ∈ s.air ∨
      ∃ o ∈ outs, t = ⟨me, if o.relayed then drawer else me, o.relayed, o.frame⟩ := by
  rcases mem_append.1 h with hold | hnew
  · exact .inl hold
  · obtain ⟨o, ho, rfl⟩ := mem_map.1 hnew
    exact .inr ⟨o, ho, rfl⟩

structure Sound (P : UInt32 → Node → Prop) (F : Transmission → Prop) (s : Net) : Prop where
  nodes : ∀ n, P n (s.nodes n)
  air : ∀ t ∈ s.air, F t

/-- **Invariants of the network**, from what a node does of its own accord and on hearing a
neighbour. -/
theorem sound_run {mac : NetworkMac} {adj : UInt32 → UInt32 → Bool}
    {P : UInt32 → Node → Prop} {F : Transmission → Prop} (hfresh : ∀ n, P n .fresh)
    (hact : ∀ me n n' outs, P me n → Acts me n n' outs →
      P me n' ∧ ∀ o ∈ outs, F ⟨me, me, o.relayed, o.frame⟩)
    (hhear : ∀ me n n' t now (outs : List Sent), P me n → F t → t.sender ≠ me →
      Changes mac me t.frame now n n' → (∀ o ∈ outs, Emits me n' t.frame o) →
      P me n' ∧ ∀ o ∈ outs, F ⟨me, if o.relayed then t.drawer else me, o.relayed, o.frame⟩)
    (es : List Event) : Sound P F (es.foldl (step mac adj) .start) := by
  -- one node is replaced and some frames go on the air
  have hsend : ∀ s me drawer n' outs, Sound P F s → P me n' →
      (∀ o ∈ outs, F ⟨me, if o.relayed then drawer else me, o.relayed, o.frame⟩) →
      Sound P F ((s.set_node me n').send me drawer outs) := by
    intro s me drawer n' outs hs hP hF
    refine ⟨?_, ?_⟩
    · intro n
      by_cases hn : n = me
      · rw [hn, Net.send_nodes, Net.set_node_self]
        exact hP
      · rw [Net.send_nodes, Net.set_node_ne s n' hn]
        exact hs.nodes n
    · intro t ht
      rcases mem_air_send ht with hold | ⟨o, ho, rfl⟩
      · exact hs.air t hold
      · exact hF o ho
  apply Run.foldl_invariant (I := Sound P F) (C := fun _ _ => True)
  · intro s e hs _
    rcases step_cases mac adj s e with ⟨n, n', outs, hacts, hstep⟩ |
      ⟨k, t, r, rx, -, ht, -, hne, hstep⟩
    · rw [hstep]
      obtain ⟨hP, hF⟩ := hact n (s.nodes n) n' outs (hs.nodes n) hacts
      apply hsend s n n n' outs hs hP
      intro o ho
      rw [ite_self]
      exact hF o ho
    · rw [hstep]
      obtain ⟨hchg, hemit⟩ := handle_spec mac r (s.nodes r) t.frame rx
      obtain ⟨hP, hF⟩ := hhear r (s.nodes r) _ t rx.now _ (hs.nodes r)
        (hs.air t (mem_of_getElem? ht)) hne hchg hemit
      have hsound := hsend s r t.drawer _ _ hs hP hF
      exact ⟨hsound.nodes, hsound.air⟩
  · exact Run.meets_of_forall (fun _ _ _ => trivial) _
  · exact ⟨hfresh, fun _ ht => absurd ht not_mem_nil⟩

end BrambleMesh.MeshNet
