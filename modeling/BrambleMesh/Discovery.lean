/-
Route discovery: components/routing/discovery.c.
-/
import BrambleMesh.Routing

namespace BrambleMesh.Discovery

open Bytes Packed Routing

/-! ## Hop counts -/

def hop_inc_sat (hop_count : UInt8) : UInt8 := if hop_count ≥ 255 then 255 else hop_count + 1

def hop_add_sat (a b : UInt8) : UInt8 :=
  let sum := a.toUInt16 + b.toUInt16
  if sum > 255 then 255 else sum.toUInt8

/-! ## Outstanding discoveries -/

abbrev MAX_PENDING_DISCOVERIES : ℕ := 8

abbrev MAX_RREQ_ATTEMPTS : ℕ := 3

structure PendingDiscovery where
  dest_addr : UInt32
  query_ids : List UInt32
  timestamp : UInt32
  attempts : UInt8
deriving DecidableEq, Repr

def discovery_start (table : List PendingDiscovery) (dest_addr query_id now_ms : UInt32) :
    List PendingDiscovery :=
  if table.length ≥ MAX_PENDING_DISCOVERIES then table
  else table ++ [⟨dest_addr, [query_id], now_ms, 1⟩]

def discovery_lookup_by_query (table : List PendingDiscovery) (query_id : UInt32) :
    Option PendingDiscovery :=
  table.find? fun e => e.query_ids.any fun q => q == query_id

def discovery_record_attempt (d : PendingDiscovery) (query_id now_ms : UInt32) :
    PendingDiscovery :=
  { d with
    query_ids :=
      if d.attempts.toNat < MAX_RREQ_ATTEMPTS then d.query_ids ++ [query_id] else d.query_ids
    attempts := d.attempts + 1
    timestamp := now_ms }

def discovery_remove (table : List PendingDiscovery) (dest_addr : UInt32) :
    List PendingDiscovery :=
  match table.findIdx? fun e => e.dest_addr == dest_addr with
  | none => table
  | some i => swap_remove table i

def discovery_hop_limit_for_attempt (attempt : UInt8) : UInt8 := if attempt ≤ 1 then 4 else 8

/-! ## Requests -/

structure Rreq where
  hop_limit : UInt8
  dest_addr : UInt32
  query_id : UInt32
  encrypted_source : UInt32
  hop_count : UInt8
  metric : UInt8
  prev_hop : UInt32
deriving DecidableEq, Repr

def rreq_build_originator (my_addr dest_addr query_id encrypted_source : UInt32)
    (hop_limit : UInt8) : Rreq :=
  ⟨hop_limit, dest_addr, query_id, encrypted_source, 0, 255, my_addr⟩

def rreq_forward (incoming : Rreq) (my_addr : UInt32) (rx_rssi rx_snr : Int8) : Rreq :=
  { incoming with
    hop_count := hop_inc_sat incoming.hop_count
    metric := metric_apply_link_penalty incoming.metric rx_rssi rx_snr
    hop_limit := incoming.hop_limit - 1
    prev_hop := my_addr }

/-! ## Replies -/

structure Rrep where
  dest_addr : UInt32
  packet_id : UInt32
  query_id : UInt32
  src_addr : UInt32
  next_hop : UInt32
  hop_count : UInt8
  route_metric : UInt8
  auth_hmac : Vector UInt8 8
  seq : UInt64
deriving DecidableEq, Repr

abbrev NetworkMac := List UInt8 → List UInt8 → Vector UInt8 8

def rrep_build_auth_buf (r : Rrep) : List UInt8 :=
  be32 r.query_id ++ be32 r.src_addr ++ [r.hop_count, r.route_metric] ++ (be64 r.seq).drop 2

def rrep_sign (mac : NetworkMac) (r : Rrep) : Rrep :=
  { r with auth_hmac := mac "bramble-rrep-v2".toUTF8.toList (rrep_build_auth_buf r) }

def rrep_verify (mac : NetworkMac) (r : Rrep) : Bool :=
  mac "bramble-rrep-v2".toUTF8.toList (rrep_build_auth_buf r) == r.auth_hmac

def rrep_build_destination (mac : NetworkMac) (rreq : Rreq) (my_addr : UInt32) : Rrep :=
  rrep_sign mac
    { dest_addr := rreq.prev_hop
      packet_id := rreq.query_id
      query_id := rreq.query_id
      src_addr := my_addr
      next_hop := my_addr
      hop_count := hop_inc_sat rreq.hop_count
      route_metric := rreq.metric
      auth_hmac := Vector.replicate 8 0
      seq := 0 }

def intermediate_rrep_route_usable (route : RouteEntry) (now_ms : UInt32) : Bool :=
  route.source == .DISCOVERED && route.state == .ACTIVE &&
    !(now_ms - route.last_confirmed > 60000)

def rrep_build_intermediate (mac : NetworkMac) (rreq : Rreq) (route_to_dest : RouteEntry)
    (my_addr : UInt32) (rx_rssi rx_snr : Int8) : Rrep :=
  let hops_to_me := hop_inc_sat rreq.hop_count
  let metric_to_me := metric_apply_link_penalty rreq.metric rx_rssi rx_snr
  let dest_penalty := 255 - route_to_dest.metric
  rrep_sign mac
    { dest_addr := rreq.prev_hop
      packet_id := 0
      query_id := rreq.query_id
      src_addr := route_to_dest.dest_addr
      next_hop := my_addr
      hop_count := hop_add_sat hops_to_me route_to_dest.hop_count
      route_metric := if dest_penalty ≥ metric_to_me then 0 else metric_to_me - dest_penalty
      auth_hmac := Vector.replicate 8 0
      seq := 0 }

def rrep_forward (incoming : Rrep) (next_hop_back my_addr : UInt32) : Rrep :=
  { incoming with next_hop := my_addr, dest_addr := next_hop_back }

/-! ## What a received reply is good for -/

inductive RrepAction
  | DROP
  | DELIVER (deliver_dest : UInt32)
  | FORWARD (forward_to : UInt32)
deriving DecidableEq, Repr

structure RrepDecision where
  action : RrepAction
  install_route : Bool
  route_dest : UInt32
  route_next_hop : UInt32
  route_hops : UInt8
  route_metric : UInt8
deriving DecidableEq, Repr

def rrep_rx_decide (rrep : Rrep) (link_metric : UInt8) (pd : List PendingDiscovery)
    (rev : List ReverseRoute) : RrepDecision :=
  let d : RrepDecision :=
    ⟨.DROP, false, rrep.src_addr, rrep.next_hop, rrep.hop_count, link_metric⟩
  match discovery_lookup_by_query pd rrep.query_id with
  | some pd_entry => { d with install_route := true, action := .DELIVER pd_entry.dest_addr }
  | none =>
    match reverse_route_lookup rev rrep.query_id with
    | some rev_entry => { d with install_route := true, action := .FORWARD rev_entry.prev_hop }
    | none => d

lemma rrep_rx_decide_route (rrep : Rrep) (link_metric : UInt8) (pd : List PendingDiscovery)
    (rev : List ReverseRoute) :
    (rrep_rx_decide rrep link_metric pd rev).route_dest = rrep.src_addr ∧
      (rrep_rx_decide rrep link_metric pd rev).route_next_hop = rrep.next_hop := by
  unfold rrep_rx_decide
  split
  · exact ⟨rfl, rfl⟩
  · split <;> exact ⟨rfl, rfl⟩

end BrambleMesh.Discovery
