/-
Route errors: components/routing/forwarding.c, components/routing_auth/routing_auth.c,
main/mesh_routing.c. A node reports the broken hop it was told, and not itself.
-/
import BrambleMesh.MeshNet

namespace BrambleMesh.RouteError

open Bytes Routing Discovery Function
open MeshNet (Node control_seq_next control_replay_ok zeroMac)

/-! ## Passing data on -/

structure ForwardResult where
  next_hop : UInt32
  should_send : Bool
  route_error : Bool
deriving DecidableEq, Repr

def forward_data (table : RoutingTable) (dest_addr : UInt32) (hop_limit : UInt8)
    (now_ms : UInt32) : RoutingTable × UInt8 × ForwardResult :=
  if hop_limit ≤ 1 then (table, hop_limit, ⟨0, false, false⟩)
  else
    match table.findIdx? fun e => e.dest_addr == dest_addr, route_lookup table dest_addr with
    | some i, some r =>
      if r.state == .BROKEN then (table, hop_limit, ⟨0, false, true⟩)
      else
        let r' :=
          if r.state == .STALE then { r with state := .ACTIVE, last_confirmed := now_ms } else r
        (table.set i { r' with last_used := now_ms }, hop_limit - 1, ⟨r.next_hop, true, false⟩)
    | _, _ => (table, hop_limit, ⟨0, false, true⟩)

/-! ## Route errors -/

abbrev ROUTE_HOP_LIMIT_MAX : UInt8 := 8

structure Rerr where
  hop_limit : UInt8
  reporter_addr : UInt32
  broken_dest : UInt32
  broken_next_hop : UInt32
  auth_hmac : Vector UInt8 8
  seq : UInt64
deriving DecidableEq, Repr

def rerr_build (my_addr broken_dest broken_next_hop : UInt32) : Rerr :=
  ⟨ROUTE_HOP_LIMIT_MAX, my_addr, broken_dest, broken_next_hop, Vector.replicate 8 0, 0⟩

def rerr_build_auth_buf (r : Rerr) : List UInt8 :=
  be32 r.reporter_addr ++ be32 r.broken_dest ++ be32 r.broken_next_hop ++ (be64 r.seq).drop 2

variable (mac : NetworkMac)

def rerr_sign (r : Rerr) : Rerr :=
  { r with auth_hmac := mac "bramble-rerr-v2".toUTF8.toList (rerr_build_auth_buf r) }

def rerr_verify (r : Rerr) : Bool :=
  mac "bramble-rerr-v2".toUTF8.toList (rerr_build_auth_buf r) == r.auth_hmac

def send_rerr (me : UInt32) (n : Node) (broken_dest broken_next_hop : UInt32)
    (draw : UInt64) : Node × List Rerr :=
  match control_seq_next n draw with
  | none => (n, [])
  | some (seq, n) =>
    (n, [rerr_sign mac { rerr_build me broken_dest broken_next_hop with seq := seq }])

def forward_data_packet (me : UInt32) (n : Node) (dest_addr : UInt32)
    (hop_limit : UInt8) (stored : Bool) (now : UInt32) (draw : UInt64) : Node × List Rerr :=
  let (routes, _, fwd) := forward_data n.routes dest_addr hop_limit now
  let n := { n with routes := routes }
  if fwd.should_send || !fwd.route_error || stored then (n, [])
  else send_rerr mac me n dest_addr me draw

def handle_rerr (me : UInt32) (n : Node) (rerr : Rerr) (now : UInt32)
    (draw : UInt64) : Node × List Rerr × Bool :=
  if !rerr_verify mac rerr then (n, [], false)
  else
    let (ok, n) := control_replay_ok n rerr.reporter_addr rerr.seq now
    if !ok then (n, [], false)
    else
      let route_marked_broken := (route_lookup n.routes rerr.broken_dest).any fun e =>
        e.next_hop == rerr.broken_next_hop
      let n := { n with routes := rerr_handle n.routes rerr.broken_dest rerr.broken_next_hop }
      if route_marked_broken && rerr.hop_limit > 1 then
        -- the report goes out again with the broken hop as it came in
        let out := send_rerr mac me n rerr.broken_dest rerr.broken_next_hop draw
        (out.1, out.2, true)
      else (n, [], true)

lemma send_rerr_spec (me : UInt32) (n : Node)
    (broken_dest broken_next_hop : UInt32) (draw : UInt64) :
    let out := send_rerr mac me n broken_dest broken_next_hop draw
    out.1.routes = n.routes ∧
      ∀ r ∈ out.2, r.reporter_addr = me ∧ r.broken_dest = broken_dest ∧
        r.broken_next_hop = broken_next_hop := by
  unfold send_rerr control_seq_next
  split_ifs
  · refine ⟨rfl, ?_⟩
    intro r hr
    rw [List.mem_singleton.1 hr]
    exact ⟨rfl, rfl, rfl⟩
  · exact ⟨rfl, fun _ hr => absurd hr List.not_mem_nil⟩

structure Handles (n : Node) (rerr : Rerr) (out : Node × List Rerr × Bool) : Prop where
  routes : out.1.routes =
    if out.2.2 then rerr_handle n.routes rerr.broken_dest rerr.broken_next_hop else n.routes
  repeats : ∀ r ∈ out.2.1,
    r.broken_dest = rerr.broken_dest ∧ r.broken_next_hop = rerr.broken_next_hop

lemma handle_rerr_handles (me : UInt32) (n : Node) (rerr : Rerr)
    (now : UInt32) (draw : UInt64) : Handles n rerr (handle_rerr mac me n rerr now draw) := by
  have hnone : ∀ r ∈ ([] : List Rerr),
      r.broken_dest = rerr.broken_dest ∧ r.broken_next_hop = rerr.broken_next_hop :=
    fun _ hr => absurd hr List.not_mem_nil
  unfold handle_rerr
  dsimp only [control_replay_ok]
  split_ifs
  · exact ⟨rfl, hnone⟩
  · exact ⟨rfl, hnone⟩
  · obtain ⟨hroutes, hsent⟩ := send_rerr_spec mac me
      { n with
        control_replay := (ReplayWindow.replay_check_and_add n.control_replay rerr.reporter_addr
          rerr.seq now).1
        routes := rerr_handle n.routes rerr.broken_dest rerr.broken_next_hop }
      rerr.broken_dest rerr.broken_next_hop draw
    exact ⟨hroutes, fun r hr => (hsent r hr).2⟩
  · exact ⟨rfl, hnone⟩

/-! ## A network in which a route breaks -/

structure ErrorNet where
  nodes : UInt32 → Node
  air : List Rerr
  taken : List (ℕ × UInt32)

inductive Event
  | forward (n dest_addr : UInt32) (hop_limit : UInt8) (stored : Bool) (now : UInt32)
      (draw : UInt64)
  | deliver (k : ℕ) (receiver now : UInt32) (draw : UInt64)
deriving DecidableEq, Repr

def ErrorNet.hear (s : ErrorNet) (k : ℕ) (rerr : Rerr) (receiver now : UInt32)
    (draw : UInt64) : ErrorNet :=
  let out := handle_rerr mac receiver (s.nodes receiver) rerr now draw
  { nodes := update s.nodes receiver out.1
    air := s.air ++ out.2.1
    taken := if out.2.2 then (k, receiver) :: s.taken else s.taken }

variable (adj : UInt32 → UInt32 → Bool)

def step (s : ErrorNet) : Event → ErrorNet
  | .forward n dest_addr hop_limit stored now draw =>
    let out := forward_data_packet mac n (s.nodes n) dest_addr hop_limit stored now draw
    { s with nodes := update s.nodes n out.1, air := s.air ++ out.2 }
  | .deliver k receiver now draw =>
    match s.air[k]? with
    | none => s
    | some rerr =>
      if adj rerr.reporter_addr receiver && rerr.reporter_addr != receiver then
        s.hear mac k rerr receiver now draw
      else s

def Event.Delivery : Event → Prop
  | .forward .. => False
  | .deliver .. => True

def AllTaken (s : ErrorNet) : Prop :=
  ∀ k rerr, s.air[k]? = some rerr → ∀ r, adj rerr.reporter_addr r →
    rerr.reporter_addr ≠ r → (k, r) ∈ s.taken

def RoutesOver (nodes : UInt32 → Node) (dest a b : UInt32) :
    Prop :=
  adj b a ∧
    ∃ e, route_lookup (nodes a).routes dest = some e ∧ e.next_hop = b ∧ e.state ≠ .BROKEN

def NoUsableRoute (n : Node) (dest : UInt32) : Prop :=
  ∀ e, route_lookup n.routes dest = some e → e.state = .BROKEN

def MarkedBroken (n : Node) (dest : UInt32) : Prop :=
  ∃ e, route_lookup n.routes dest = some e ∧ e.state = .BROKEN

/-! ## What the reports of a run do -/

variable {n : Node} {dest now last : UInt32} {hop_limit : UInt8} {mac : NetworkMac}
  {adj : UInt32 → UInt32 → Bool} {nodes₀ : UInt32 → Node} {s : ErrorNet}

lemma forward_data_no_route (hroute : NoUsableRoute n dest) (hhops : 1 < hop_limit) :
    forward_data n.routes dest hop_limit now = (n.routes, hop_limit, ⟨0, false, true⟩) := by
  unfold forward_data
  rw [if_neg (by simpa using hhops)]
  split
  · next i r _ hr => simp [hroute r hr]
  · simp

def Follows (dest last : UInt32) (n₀ n : Node) (told : Prop) : Prop :=
  ∀ e₀, route_lookup n₀.routes dest = some e₀ →
    ∃ e, route_lookup n.routes dest = some e ∧ e.next_hop = e₀.next_hop ∧
      (e.state = .BROKEN → e₀.state = .BROKEN ∨ e₀.next_hop = last) ∧
      (told → e₀.next_hop = last → e.state = .BROKEN)

lemma follows_start (dest last : UInt32) {n₀ : Node} (hroutes : n.routes = n₀.routes)
    {told : Prop} (htold : ¬ told) : Follows dest last n₀ n told := by
  intro e₀ he₀
  rw [hroutes]
  exact ⟨e₀, he₀, rfl, .inl, fun h => absurd h htold⟩

lemma follows_told {n₀ n' : Node} {told : Prop} (h : Follows dest last n₀ n told)
    (hroutes : n'.routes = rerr_handle n.routes dest last) :
    Follows dest last n₀ n' True := by
  intro e₀ he₀
  obtain ⟨e, he, hnext, hbroken, -⟩ := h e₀ he₀
  rw [hroutes, route_lookup_rerr_handle, he]
  refine ⟨_, rfl, ?_⟩
  by_cases hlast : e₀.next_hop = last
  · simp [hnext, hlast]
  · simpa [hnext, hlast] using hbroken

structure Inv (dest last : UInt32) (nodes₀ : UInt32 → Node) (s : ErrorNet) : Prop where
  first : ∃ r, s.air[0]? = some r ∧ r.reporter_addr = last
  same : ∀ r ∈ s.air, r.broken_dest = dest ∧ r.broken_next_hop = last
  follows : ∀ n, Follows dest last (nodes₀ n) (s.nodes n) (∃ k, (k, n) ∈ s.taken)

lemma inv_report {draw : UInt64} (hroute : NoUsableRoute (nodes₀ last) dest)
    (hhops : 1 < hop_limit) (hseq : (control_seq_next (nodes₀ last) draw).isSome) :
    Inv dest last nodes₀
      (step mac adj ⟨nodes₀, [], []⟩ (.forward last dest hop_limit false now draw)) := by
  obtain ⟨⟨seq, n'⟩, hdraw⟩ := Option.isSome_iff_exists.1 hseq
  obtain ⟨hroutes, hsent⟩ := send_rerr_spec mac last (nodes₀ last) dest last draw
  unfold step
  dsimp only
  simp only [forward_data_packet, forward_data_no_route hroute hhops]
  refine ⟨?_, ?_, ?_⟩
  · simp [send_rerr, hdraw, rerr_sign, rerr_build]
  · intro r hr
    exact (hsent r (by simpa using hr)).2
  · intro n
    refine follows_start dest last ?_ (by simp)
    dsimp only
    by_cases hn : n = last
    · rw [hn, update_self]
      exact hroutes
    · rw [update_of_ne hn]

lemma inv_hear (h : Inv dest last nodes₀ s) {k : ℕ} {rerr : Rerr}
    (hrerr : s.air[k]? = some rerr) (r now : UInt32) (draw : UInt64) :
    Inv dest last nodes₀ (s.hear mac k rerr r now draw) := by
  obtain ⟨hdest, hhop⟩ := h.same rerr (List.mem_of_getElem? hrerr)
  obtain ⟨hroutes, hrepeats⟩ := handle_rerr_handles mac r (s.nodes r) rerr now draw
  rw [hdest, hhop] at hroutes hrepeats
  unfold ErrorNet.hear
  generalize handle_rerr mac r (s.nodes r) rerr now draw = out at hroutes hrepeats ⊢
  refine ⟨?_, ?_, ?_⟩
  · obtain ⟨r₀, hr₀, hrep⟩ := h.first
    refine ⟨r₀, ?_, hrep⟩
    rw [List.getElem?_append_left (List.getElem?_eq_some_iff.1 hr₀).1]
    exact hr₀
  · intro r' hr'
    rcases List.mem_append.1 hr' with hold | hnew
    · exact h.same r' hold
    · exact hrepeats r' hnew
  · intro n
    have hn₀ := h.follows n
    dsimp only
    by_cases hn : n = r
    · subst hn
      rw [update_self]
      by_cases htaken : out.2.2
      · rw [if_pos htaken] at hroutes
        intro e₀ he₀
        obtain ⟨e, hlook, hnext, hbroken, htold⟩ := follows_told hn₀ hroutes e₀ he₀
        exact ⟨e, hlook, hnext, hbroken, fun _ => htold trivial⟩
      · rw [if_neg htaken] at hroutes ⊢
        unfold Follows
        rw [hroutes]
        exact hn₀
    · -- nobody else has been told anything new
      rw [update_of_ne hn]
      split_ifs
      · simpa [hn] using hn₀
      · exact hn₀

lemma inv_deliver (h : Inv dest last nodes₀ s) {e : Event} (he : e.Delivery) :
    Inv dest last nodes₀ (step mac adj s e) := by
  match e with
  | .forward .. => exact he.elim
  | .deliver k r now draw =>
    unfold step
    dsimp only
    split
    · exact h
    · next rerr hrerr =>
      split_ifs
      · exact inv_hear h hrerr r now draw
      · exact h

lemma inv_run (h : Inv dest last nodes₀ s) {es : List Event} (hes : ∀ e ∈ es, e.Delivery) :
    Inv dest last nodes₀ (es.foldl (step mac adj) s) :=
  Run.foldl_invariant (C := fun _ e => e.Delivery) (fun _ _ hs he => inv_deliver hs he)
    (Run.meets_of_forall (fun _ => hes) s) h

/-! ## How far a teardown reaches -/

def torn_down (mac : NetworkMac) (adj : UInt32 → UInt32 → Bool) (nodes : UInt32 → Node)
    (last dest : UInt32) (hop_limit : UInt8) (now : UInt32) (draw : UInt64) (es : List Event) :
    ErrorNet :=
  es.foldl (step mac adj)
    (step mac adj ⟨nodes, [], []⟩ (.forward last dest hop_limit false now draw))

/-- **A route error tears down one hop.** When the last node of a chain of routes reports that it
has none, and all reports that follow have been taken in, the nodes above it have all marked their
routes broken if and only if there is at most one of them. -/
theorem teardown_complete_iff (mac : NetworkMac) (adj : UInt32 → UInt32 → Bool)
    (nodes : UInt32 → Node) (chain : List UInt32) (last dest : UInt32) (hop_limit : UInt8)
    (now : UInt32) (draw : UInt64) (es : List Event)
    (hchain : (chain ++ [last]).IsChain (RoutesOver adj nodes dest))
    (hdistinct : (chain ++ [last]).Nodup) (hlast : NoUsableRoute (nodes last) dest)
    (hhops : 1 < hop_limit) (hseq : (control_seq_next (nodes last) draw).isSome = true)
    (hes : ∀ e ∈ es, e.Delivery)
    (hall : AllTaken adj (torn_down mac adj nodes last dest hop_limit now draw es)) :
    (∀ n ∈ chain,
        MarkedBroken ((torn_down mac adj nodes last dest hop_limit now draw es).nodes n) dest) ↔
      chain.length ≤ 1 := by
  have hinv : Inv dest last nodes (torn_down mac adj nodes last dest hop_limit now draw es) :=
    inv_run (inv_report hlast hhops hseq) hes
  generalize torn_down mac adj nodes last dest hop_limit now draw es = s at hall hinv ⊢
  match chain with
  | [] => simp
  | [a] =>
    -- its next hop is the last node, whose report it has taken in
    obtain ⟨⟨hadj, e₀, he₀, hnext, -⟩, -⟩ := List.isChain_cons_cons.1 hchain
    have hne : last ≠ a := by
      rintro rfl
      simp at hdistinct
    obtain ⟨r, hr, hrep⟩ := hinv.first
    have htaken : (0, a) ∈ s.taken := hall 0 r hr a (hrep ▸ hadj) (hrep ▸ hne)
    obtain ⟨e, he, -, -, htold⟩ := hinv.follows a e₀ he₀
    have hmarked : MarkedBroken (s.nodes a) dest := ⟨e, he, htold ⟨0, htaken⟩ hnext⟩
    simpa using hmarked
  | a :: b :: rest =>
    -- the next hop of `a` is `b`, and no report names `b`
    obtain ⟨⟨-, e₀, he₀, hnext, hstate⟩, -⟩ := List.isChain_cons_cons.1 hchain
    have hne : b ≠ last := by
      rintro rfl
      simp at hdistinct
    refine iff_of_false ?_ (by simp)
    intro hmarked
    obtain ⟨e, he, hbroken⟩ := hmarked a List.mem_cons_self
    obtain ⟨e', he', -, honly, -⟩ := hinv.follows a e₀ he₀
    rw [he'] at he
    rcases honly (Option.some.inj he ▸ hbroken) with h | h
    · exact hstate h
    · exact hne (hnext ▸ h)

/-! ## Three nodes in a row -/

def links (a b : UInt32) : Bool := [(1, 2), (2, 1), (2, 3), (3, 2)].contains (a, b)

def row (n : UInt32) : Node :=
  if n == 1 then { Node.fresh with routes := [⟨9, 2, 3, 200, .ACTIVE, 0, 0, 0, .DISCOVERED⟩] }
  else if n == 2 then
    { Node.fresh with routes := [⟨9, 3, 2, 220, .ACTIVE, 0, 0, 0, .DISCOVERED⟩] }
  else .fresh

lemma row_chain : ([1, 2] ++ [3] : List UInt32).IsChain (RoutesOver links row 9) := by
  rw [List.cons_append, List.cons_append, List.nil_append, List.isChain_cons_cons,
    List.isChain_cons_cons]
  exact ⟨⟨rfl, _, rfl, rfl, by decide⟩, ⟨rfl, _, rfl, rfl, by decide⟩, List.isChain_singleton 3⟩

lemma row_stuck : NoUsableRoute (row 3) 9 := by
  intro e he
  cases he

def row_torn : ErrorNet :=
  torn_down zeroMac links row 3 9 8 0 5 [.deliver 0 2 0 6, .deliver 1 1 0 7, .deliver 1 3 0 8]

lemma row_all_taken : AllTaken links row_torn := by
  have hair : row_torn.air.map (fun r => r.reporter_addr) = [3, 2] := by decide
  have htaken : row_torn.taken = [(1, 3), (1, 1), (0, 2)] := by decide
  intro k rerr hk r hadj hne
  have hrep : ([3, 2] : List UInt32)[k]? = some rerr.reporter_addr := by
    rw [← hair, List.getElem?_map, hk]
    rfl
  rw [htaken]
  match k with
  | 0 =>
    rw [← Option.some.inj hrep] at hadj
    have hr : r = 2 := by simpa [links] using hadj
    simp [hr]
  | 1 =>
    rw [← Option.some.inj hrep] at hadj
    have hr : r = 1 ∨ r = 3 := by simpa [links] using hadj
    rcases hr with rfl | rfl <;> simp
  | k + 2 => cases hrep

theorem teardown_complete_iff_one :
    ([2] ++ [3] : List UInt32).IsChain (RoutesOver links row 9) ∧
      MarkedBroken (row_torn.nodes 2) 9 := by
  have hchain := (List.isChain_cons_cons.1 row_chain).2
  refine ⟨hchain, ?_⟩
  exact (teardown_complete_iff zeroMac links row [2] 3 9 8 0 5
    [.deliver 0 2 0 6, .deliver 1 1 0 7, .deliver 1 3 0 8] hchain (by decide) row_stuck
    (by decide) (by decide) (by simp [Event.Delivery]) row_all_taken).2 le_rfl 2 (by simp)

/-- The node above it does not, although everything has been delivered. -/
theorem second_node_keeps_route :
    ([1, 2] ++ [3] : List UInt32).IsChain (RoutesOver links row 9) ∧ NoUsableRoute (row 3) 9 ∧
      AllTaken links row_torn ∧ ¬ MarkedBroken (row_torn.nodes 1) 9 := by
  refine ⟨row_chain, row_stuck, row_all_taken, ?_⟩
  rintro ⟨e, he, hstate⟩
  have hactive : (route_lookup (row_torn.nodes 1).routes 9).map (fun e => e.state) =
      some .ACTIVE := by decide
  rw [he, Option.map_some, hstate] at hactive
  cases hactive

end BrambleMesh.RouteError
