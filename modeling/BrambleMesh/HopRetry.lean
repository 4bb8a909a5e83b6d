/-
Retries over several hops. A retransmission is the same bytes, and stops at the first relay that
remembers an earlier copy.
-/
import BrambleMesh.DataAck

namespace BrambleMesh.HopRetry

open Dispatch Reliability Routing Discovery
open DmDelivery (copyCrypto)
open HandleData (BROADCAST_ADDR)
open MeshNet (control_replay_ok zeroMac)
open RouteError (forward_data)

/-! ## Passing a frame on -/

def relayed_by (me : UInt32) : Packet → Packet
  | .data p => .data (p.relayed (p.header.hop_limit - 1) me)
  | .receipt r => .receipt (r.relayed (r.header.hop_limit - 1) me)
  | .other k => .other k

def passed_on (sent : List Sent) : Option Packet :=
  sent.findSome? fun
    | .data p => some (.data p)
    | .receipt r => some (.receipt r)
    | _ => none

def hop_limit : Packet → UInt8
  | .data p => p.header.hop_limit
  | .receipt r => r.header.hop_limit
  | .other _ => 0

def routes_for (n : Node) (rx : Dispatch.Rx) : Packet → RoutingTable
  | .data p => (learn_reverse_route n p rx).control.routes
  | _ => n.control.routes

def HasRoute (table : RoutingTable) (dest_addr : UInt32) : Prop :=
  ∃ route ∈ route_lookup table dest_addr, route.state ≠ .BROKEN
deriving Decidable

def Serves (n : Node) (rx : Dispatch.Rx) : Packet → Prop
  | .data p => p.header.dest_addr ≠ n.receiver.address ∧ p.header.dest_addr ≠ BROADCAST_ADDR ∧
      HasRoute (routes_for n rx (.data p)) p.header.dest_addr ∧ rx.tx_ok
  | .receipt r => r.header.dest_addr ≠ n.receiver.address ∧
      HasRoute (routes_for n rx (.receipt r)) r.header.dest_addr ∧ rx.tx_ok
  | .other _ => False

instance (n : Node) (rx : Dispatch.Rx) (pkt : Packet) : Decidable (Serves n rx pkt) := by
  cases pkt <;> unfold Serves <;> infer_instance

def takes_number (n : Node) (rx : Dispatch.Rx) : Packet → Bool
  | .receipt r => (control_replay_ok n.control r.src_addr r.seq rx.now_ms).1
  | _ => true

def is_new (n : Node) (rx : Dispatch.Rx) (pkt : Packet) : Bool :=
  !dedup_contains n.s_dedup pkt.dedup_key rx.now_ms && takes_number n rx pkt

section

variable {C : DmCrypto} {mac : NetworkMac} {n : Node} {pkt : Packet} {rx : Dispatch.Rx}

@[simp] lemma relayed_by_authentic (mac : NetworkMac) (me : UInt32) (pkt : Packet) :
    (relayed_by me pkt).authentic mac = pkt.authentic mac := by
  cases pkt <;> rfl

lemma relayed_by_hop_limit {me : UInt32} (h : 0 < (hop_limit pkt).toNat) :
    (hop_limit (relayed_by me pkt)).toNat = (hop_limit pkt).toNat - 1 := by
  have hsub (x : UInt8) (hx : 0 < x.toNat) : (x - 1).toNat = x.toNat - 1 :=
    UInt8.toNat_sub_of_le _ _ (UInt8.le_iff_toNat_le.2 hx)
  cases pkt with
  | data p => exact hsub _ h
  | receipt r => exact hsub _ h
  | other k => exact absurd h (Nat.lt_irrefl 0)

lemma forward_data_of_route {table : RoutingTable} {dest_addr : UInt32} {hops : UInt8}
    (now_ms : UInt32) (hroute : HasRoute table dest_addr) (hhops : 1 < hops) :
    ∃ routes next_hop,
      forward_data table dest_addr hops now_ms = (routes, hops - 1, ⟨next_hop, true, false⟩) := by
  obtain ⟨route, hlookup, hstate⟩ := hroute
  rcases hidx : table.findIdx? fun e => e.dest_addr == dest_addr with _ | i
  · -- the lookup goes through the same entries
    rw [List.findIdx?_eq_none_iff] at hidx
    have hnone : route_lookup table dest_addr = none :=
      List.find?_eq_none.2 fun e he => by rw [hidx e he]; exact Bool.false_ne_true
    exact absurd (hlookup.symm.trans hnone) (Option.some_ne_none _)
  · unfold forward_data
    rw [if_neg (UInt8.not_le.2 hhops), hidx, hlookup]
    dsimp only
    rw [if_neg (by simpa using hstate)]
    exact ⟨_, _, rfl⟩

lemma forward_data_packet_of_route {p : DataPacket}
    (hroute : HasRoute n.control.routes p.header.dest_addr) (hhops : 1 < p.header.hop_limit)
    (htx : rx.tx_ok) :
    (forward_data_packet mac n p rx).2 =
      [.data (p.relayed (p.header.hop_limit - 1) n.receiver.address)] := by
  obtain ⟨routes, next_hop, hfwd⟩ := forward_data_of_route rx.now_ms hroute hhops
  simp only [forward_data_packet, RouteError.forward_data_packet, hfwd, htx, Bool.true_or,
    if_true, List.map_nil, List.nil_append, Bool.and_self]

lemma handle_delivery_receipt_of_route {r : Receipt} (hauth : receipt_verify mac r)
    (hserves : Serves n rx (.receipt r)) (hhops : 1 < r.header.hop_limit) :
    (handle_delivery_receipt mac n r rx).2 =
      if takes_number n rx (.receipt r) then
        [.receipt (r.relayed (r.header.hop_limit - 1) n.receiver.address)]
      else [] := by
  obtain ⟨hself, ⟨route, hlookup, hstate⟩, htx⟩ := hserves
  have hfwd (control : MeshNet.Node) (hroutes : control.routes = n.control.routes) :
      forward_delivery_receipt { n with control := control } r rx =
        [.receipt (r.relayed (r.header.hop_limit - 1) n.receiver.address)] := by
    rw [forward_delivery_receipt, if_neg (UInt8.not_le.2 hhops)]
    rw [hroutes, show route_lookup n.control.routes r.header.dest_addr = some route from hlookup]
    dsimp only
    rw [if_neg hstate, if_pos htx]
  unfold handle_delivery_receipt takes_number
  rw [hauth, if_neg (by decide)]
  dsimp only
  by_cases hok : (control_replay_ok n.control r.src_addr r.seq rx.now_ms).1
  · rw [if_neg (by rw [hok]; decide), if_neg hself, if_pos hok]
    exact hfwd (control_replay_ok n.control r.src_addr r.seq rx.now_ms).2 rfl
  · rw [if_pos (by rw [Bool.eq_false_of_not_eq_true hok]; rfl), if_neg hok]

/-- **What a relay does with a frame** for which it has a route and budget: it passes the frame on
exactly if the frame is new to it. -/
theorem relay_passes_on (hauth : pkt.authentic mac) (hhops : 1 < hop_limit pkt)
    (hserves : Serves n rx pkt) :
    passed_on (mesh_process_rx_packet C mac n pkt rx).sent =
      if is_new n rx pkt then some (relayed_by n.receiver.address pkt) else none := by
  by_cases hdup : dedup_contains n.s_dedup pkt.dedup_key rx.now_ms
  · -- a duplicate is at most acknowledged, and this one is for somebody else
    have hsent : (reack mac (filtered n pkt rx) rx pkt).2 = [] := by
      cases pkt with
      | data p => exact congrArg Prod.snd (if_neg fun h => hserves.1 h.1)
      | receipt r => rfl
      | other k => rfl
    rw [process_of_dup hdup, hsent, is_new, hdup]
    rfl
  have hnew := Bool.eq_false_of_not_eq_true hdup
  cases pkt with
  | data p =>
    obtain ⟨hself, hcast, hroute, htx⟩ := hserves
    -- the filter has no part in what the frame teaches
    have hlearn : learn_reverse_route (filtered n (.data p) rx) p rx =
        filtered (learn_reverse_route n p rx) (.data p) rx := by
      have hsame : decision (filtered n (.data p) rx) p rx = decision n p rx := rfl
      unfold learn_reverse_route
      dsimp only
      rw [hsame]
      split_ifs <;> rfl
    have haddr : (learn_reverse_route n p rx).receiver.address = n.receiver.address := by
      obtain ⟨routes, hframe⟩ := learn_reverse_route_frame n p rx
      rw [hframe]
    rw [process_of_new hnew, process_data_forward (n := filtered n (.data p) rx) hauth hself hcast,
      hlearn]
    rw [forward_data_packet_of_route (n := filtered _ (.data p) rx) hroute hhops htx, is_new, hnew]
    exact congrArg (fun me => some (relayed_by me (.data p))) haddr
  | receipt r =>
    have hsent := handle_delivery_receipt_of_route (n := filtered n (.receipt r) rx) hauth hserves
      hhops
    have htakes : takes_number (filtered n (.receipt r) rx) rx (.receipt r) =
        takes_number n rx (.receipt r) := rfl
    rw [process_receipt_of_new hnew, hsent, is_new, hnew, htakes]
    cases takes_number n rx (.receipt r) <;> rfl
  | other k => exact absurd hserves id

end

/-! ## Chains of relays -/

structure Relay where
  start : Node
  history : List Dispatch.Event
  rx : Dispatch.Rx

section

variable (C : DmCrypto) (mac : NetworkMac)

def Relay.node (r : Relay) : Node := r.history.foldl (Dispatch.step C mac) r.start

def travels : List Relay → Packet → Option Packet
  | [], pkt => some pkt
  | r :: rs, pkt =>
    (passed_on (mesh_process_rx_packet C mac (r.node C mac) pkt r.rx).sent).bind (travels rs)

def relayed_along : List Relay → Packet → Packet
  | [], pkt => pkt
  | r :: rs, pkt => relayed_along rs (relayed_by r.start.receiver.address pkt)

def Along (P : Relay → Packet → Prop) : List Relay → Packet → Prop
  | [], _ => True
  | r :: rs, pkt => P r pkt ∧ Along P rs (relayed_by r.start.receiver.address pkt)

instance decidableAlong (P : Relay → Packet → Prop) [∀ r pkt, Decidable (P r pkt)] :
    ∀ rs pkt, Decidable (Along P rs pkt)
  | [], _ => .isTrue trivial
  | _ :: rs, _ =>
    haveI := decidableAlong P rs
    inferInstanceAs (Decidable (_ ∧ _))

def Working (r : Relay) (pkt : Packet) : Prop := Serves (r.node C mac) r.rx pkt

def New (r : Relay) (pkt : Packet) : Prop := is_new (r.node C mac) r.rx pkt
deriving Decidable

instance (r : Relay) (pkt : Packet) : Decidable (Working C mac r pkt) :=
  inferInstanceAs (Decidable (Serves ..))

def Forgotten (r : Relay) (pkt : Packet) : Prop :=
  dedup_contains r.start.s_dedup pkt.dedup_key r.rx.now_ms = false ∧
    (∀ pkt' rx', Event.received pkt' rx' ∈ r.history → pkt'.dedup_key = pkt.dedup_key →
      DEDUP_EXPIRY_MS ≤ r.rx.now_ms - rx'.now_ms) ∧
    takes_number (r.node C mac) r.rx pkt

variable {C mac}

lemma Along.imp {P Q : Relay → Packet → Prop} (hPQ : ∀ r pkt, P r pkt → Q r pkt) :
    ∀ {rs : List Relay} {pkt : Packet}, Along P rs pkt → Along Q rs pkt
  | [], _, _ => trivial
  | _ :: _, _, h => ⟨hPQ _ _ h.1, h.2.imp hPQ⟩

lemma Forgotten.is_new {r : Relay} {pkt : Packet} (h : Forgotten C mac r pkt) :
    New C mac r pkt := by
  obtain ⟨hstart, hhistory, htakes⟩ := h
  have hgone : dedup_contains (r.node C mac).s_dedup pkt.dedup_key r.rx.now_ms = false :=
    forgotten hstart hhistory
  rw [New, HopRetry.is_new, hgone, htakes]
  rfl

/-- **How far a frame gets.**  The frame comes out of a chain whose relays have routes and budget
exactly if it is new to every one of them. -/
theorem travels_iff {rs : List Relay} {pkt : Packet} (hauth : pkt.authentic mac)
    (hhops : rs.length < (hop_limit pkt).toNat) (hworking : Along (Working C mac) rs pkt) :
    travels C mac rs pkt = some (relayed_along rs pkt) ↔ Along (New C mac) rs pkt := by
  -- induction over the chain; each relay hands the frame on with one hop less
  induction rs generalizing pkt with
  | nil => exact iff_of_true rfl trivial
  | cons r rs ih =>
    rw [List.length_cons] at hhops
    have hmore : 1 < hop_limit pkt := UInt8.lt_iff_toNat_lt.2 (lt_of_le_of_lt (by simp) hhops)
    have hpass := relay_passes_on (C := C) hauth hmore hworking.1
    have haddr : (r.node C mac).receiver.address = _ := run_address C mac r.start r.history
    rw [haddr] at hpass
    rw [travels, hpass, Along, New]
    by_cases hnew : HopRetry.is_new (r.node C mac) r.rx pkt
    · rw [if_pos hnew, Option.bind_some, relayed_along, and_iff_right hnew]
      refine ih ((relayed_by_authentic ..).trans hauth) ?_ hworking.2
      rw [relayed_by_hop_limit (by omega)]
      omega
    · rw [if_neg hnew, Option.bind_none]
      exact iff_of_false (Option.some_ne_none _).symm fun h => hnew h.1

/-! ## Retransmissions -/

inductive Resent : Packet → Packet → Prop
  | data {tier : MsgTier} {t₀ t : UInt32} {p q : DataPacket} (h : Resending tier t₀ p t q) :
      Resent (.data p) (.data q)
  | receipt {r q : Receipt} (h : ReceiptResending r q) : Resent (.receipt r) (.receipt q)

lemma Resent.same {pkt pkt' : Packet} : Resent pkt pkt' → pkt' = pkt
  | .data h => congrArg Packet.data h.same
  | .receipt h => congrArg Packet.receipt h.same

/-- **Retries repair a loss that the relays before it have forgotten.** A chain of relays with
routes and budget passes a retransmission on exactly if it is new to every one of them. -/
theorem retry_passed_on {original resent : Packet} {rs : List Relay}
    (again : Resent original resent) (hauth : original.authentic mac = true)
    (hhops : rs.length < (hop_limit original).toNat)
    (hworking : Along (Working C mac) rs original) :
    (travels C mac rs resent = some (relayed_along rs original) ↔
        Along (New C mac) rs original) ∧
      (Along (Forgotten C mac) rs original →
        travels C mac rs resent = some (relayed_along rs original)) := by
  obtain rfl := again.same
  have hiff := travels_iff hauth hhops hworking
  exact ⟨hiff, fun h => hiff.2 (h.imp fun _ _ => Forgotten.is_new)⟩

end

/-! ## Two relays -/

def relayNode (address next_hop : UInt32) : Node :=
  { DataAck.quietNode with
    receiver := { DataAck.quietNode.receiver with address := address }
    control := { MeshNet.Node.fresh with
      routes := [route_written 9 next_hop 2 200 .ACTIVE .DISCOVERED 0] } }

def farPacket : DataPacket :=
  { DataAck.hiPacket with
    header := ⟨5, 0x0A, 0x08, 7, 9, 77⟩
    src_addr := 1
    prev_hop := 1
    length_le := DataAck.length_hi_le
    is_data := rfl }

def farTracker : Tracker DataPacket :=
  ⟨(pending_ack_add (fun _ => { pending_ack 0 0 .BROADCAST farPacket 0 with active := false }) 77 9
    .CRITICAL farPacket 0).1, 0⟩

lemma farSlot_lt : 0 < MAX_PENDING_ACKS := by decide

lemma keepsId_nil : ∀ ev ∈ ([] : List (Reliability.Event DataPacket)), KeepsId 77 ev :=
  fun _ h => absurd h List.not_mem_nil

def farResending : Resending .CRITICAL 0 farPacket 3000 farPacket where
  table := fun _ => { pending_ack 0 0 .BROADCAST farPacket 0 with active := false }
  id := 77
  dest_addr := 9
  i := ⟨0, farSlot_lt⟩
  s := farTracker
  es := []
  random := fun _ => 0
  added := by decide +kernel
  keeps_id := keepsId_nil
  still := by decide +kernel
  sent := by decide +kernel

def farLastResending : Resending .CRITICAL 0 farPacket 70500 farPacket where
  table := farResending.table
  id := 77
  dest_addr := 9
  i := farResending.i
  s := farTracker
  es := [.tick 3000 fun _ => 0, .tick 7500 fun _ => 0, .tick 16500 fun _ => 0,
    .tick 34500 fun _ => 0]
  random := fun _ => 0
  added := farResending.added
  keeps_id := by
    intro ev hev
    simp only [List.mem_cons, List.not_mem_nil, or_false] at hev
    rcases hev with rfl | rfl | rfl | rfl <;> trivial
  still := by decide +kernel
  sent := by decide +kernel

def twoRelays (first : Packet) (now_ms : UInt32) : List Relay :=
  [⟨relayNode 2 3, [.received first (DataAck.heardAt 100 1)], DataAck.heardAt now_ms 2⟩,
    ⟨relayNode 3 9, [], DataAck.heardAt now_ms 2⟩]

theorem retry_passed_on_late :
    travels copyCrypto zeroMac (twoRelays (.data farPacket) 70600)
        (.data farPacket) =
      some (relayed_along (twoRelays (.data farPacket) 70600) (.data farPacket)) := by
  have hworking : Along (Working copyCrypto zeroMac)
      (twoRelays (.data farPacket) 70600) (.data farPacket) := by decide
  obtain ⟨hiff, -⟩ := retry_passed_on (.data farLastResending) (by decide) (by decide)
    hworking
  exact hiff.2 (by decide)

def farReceipt : Receipt :=
  ⟨⟨5, 0x07, 0, 7, 9, 78⟩, 1, 5, [], Vector.replicate 8 0, 40, rfl⟩

def receiptResending : ReceiptResending farReceipt farReceipt where
  queue := fun _ => ⟨false, farReceipt, 0, 0, 0, 0⟩
  i := ⟨0, by decide⟩
  queued := (queue_broadcast_delivery_receipt (fun _ => ⟨false, farReceipt, 0, 0, 0, 0⟩)
    farReceipt 0).1
  due_at_ms := 0
  es := [.tx 0 .OK 5000]
  t_now := 5000
  rc := .OK
  next_due_ms := 10000
  added := by decide +kernel
  waits := by decide +kernel
  sent := by decide +kernel
  bytes := by decide +kernel

/-- The second copies reach node 2, which has its route and budget, and go no further. -/
theorem retry_stops :
    Resent (.data farPacket) (.data farPacket) ∧
      Resent (.receipt farReceipt) (.receipt farReceipt) ∧
      Along (Working copyCrypto zeroMac)
        (twoRelays (.data farPacket) 3100) (.data farPacket) ∧
      Along (Working copyCrypto zeroMac)
        (twoRelays (.receipt farReceipt) 5100) (.receipt farReceipt) ∧
      travels copyCrypto zeroMac
        ((twoRelays (.data farPacket) 3100).take 1) (.data farPacket) = none ∧
      travels copyCrypto zeroMac
        ((twoRelays (.receipt farReceipt) 5100).take 1) (.receipt farReceipt) = none :=
  ⟨.data farResending, .receipt receiptResending, by decide +kernel, by decide +kernel,
    by decide +kernel, by decide +kernel⟩

end BrambleMesh.HopRetry
