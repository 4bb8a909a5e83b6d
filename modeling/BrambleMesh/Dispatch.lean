/-
The dispatch of received frames: `mesh_process_rx_packet` of main/mesh_task.c and the duplicate
filter of components/dedup/dedup.c, which takes a frame in before anything about it has been
authenticated. The flood transport is left out.
-/
import BrambleMesh.Lib.TimedCache
import BrambleMesh.HandleData
import BrambleMesh.RouteError

namespace BrambleMesh.Dispatch

open Bytes Run TimedCache DmRatchet
open DmDriver Fragment Channels ChannelMsg
open HandleData Routing Discovery
open MeshNet (control_seq_next control_replay_ok)
open RouteError (Rerr forward_data)

/-! ## The duplicate filter -/

abbrev DEDUP_MAX_ENTRIES : ℕ := 256
abbrev DEDUP_EXPIRY_MS : UInt32 := 60000

abbrev DedupBuffer := Cache UInt32

def dedup_purge (buf : DedupBuffer) (now_ms : UInt32) : DedupBuffer :=
  purge DEDUP_EXPIRY_MS now_ms buf

def dedup_check_and_add (buf : DedupBuffer) (packet_id now_ms : UInt32) : Bool × DedupBuffer :=
  offer DEDUP_EXPIRY_MS DEDUP_MAX_ENTRIES buf packet_id now_ms

def dedup_contains (buf : DedupBuffer) (packet_id now_ms : UInt32) : Bool :=
  holds DEDUP_EXPIRY_MS buf packet_id now_ms

def HasRoom (buf : DedupBuffer) (now_ms : UInt32) : Prop :=
  (dedup_purge buf now_ms).length < DEDUP_MAX_ENTRIES
deriving Decidable

/-! ## Frames -/

abbrev PKT_TYPE_DELIVERY_RECEIPT : UInt8 := 0x07
abbrev PKT_TYPE_DATA : UInt8 := 0x0A
abbrev DELIVERY_RECEIPT_MAX_HOPS : ℕ := 8

structure DataPacket extends DataFrame where
  prev_hop : UInt32
  auth_hmac : Vector UInt8 8
  is_data : header.type = PKT_TYPE_DATA
deriving DecidableEq

variable (mac : NetworkMac)

def data_auth_verify (p : DataPacket) : Bool :=
  mac "bramble-data-v1".toUTF8.toList (bramble_build_aead_aad p.header p.src_addr) == p.auth_hmac

structure Receipt where
  header : Header
  src_addr : UInt32
  orig_packet_id : UInt32
  relay_path : List UInt32
  auth_hmac : Vector UInt8 8
  seq : UInt64
  is_receipt : header.type = PKT_TYPE_DELIVERY_RECEIPT
deriving DecidableEq

def receipt_verify (r : Receipt) : Bool :=
  mac "bramble-receipt-v2".toUTF8.toList
    (be32 r.src_addr ++ be32 r.orig_packet_id ++ (be64 r.seq).drop 2) == r.auth_hmac

inductive Packet
  | data (p : DataPacket)
  | receipt (r : Receipt)
  | other (dedup_key : UInt32)
deriving DecidableEq

def header_key (h : Header) : UInt32 := h.packet_id ^^^ (h.type.toUInt32 <<< 24)

def Packet.dedup_key : Packet → UInt32
  | .data p => header_key p.header
  | .receipt r => header_key r.header
  | .other dedup_key => dedup_key

def Packet.authentic : Packet → Bool
  | .data p => data_auth_verify mac p
  | .receipt r => receipt_verify mac r
  | .other _ => false

structure Ack where
  dest_addr : UInt32
  src_addr : UInt32
  ack_packet_id : UInt32
  seq : UInt64
deriving DecidableEq

inductive Sent
  | ack (a : Ack)
  | data (p : DataPacket)
  | receipt (r : Receipt)
  | rerr (r : Rerr)
deriving DecidableEq

/-! ## Nodes -/

structure Node where
  receiver : Receiver
  s_dedup : DedupBuffer
  s_delivered_dedup : DedupBuffer
  control : MeshNet.Node

structure Rx extends HandleData.Rx where
  draw : UInt64
  tx_ok : Bool
  stored : Bool

structure Effect where
  node : Node
  sent : List Sent
  outcome : Option Outcome

/-! ## Acknowledging -/

def send_ack (n : Node) (dest_addr ack_packet_id : UInt32) (rx : Rx) : Node × List Sent :=
  match control_seq_next n.control rx.draw with
  | none => (n, [])
  | some (seq, control) =>
    ({ n with control := control },
      if rx.tx_ok then [.ack ⟨dest_addr, n.receiver.address, ack_packet_id, seq⟩] else [])

def delivered_key (p : DataPacket) : UInt32 := p.header.packet_id ^^^ p.src_addr

def confirm_incoming (n : Node) (p : DataPacket) (peer_addr : UInt32) (rx : Rx) :
    Node × List Sent :=
  let out := send_ack n peer_addr p.header.packet_id rx
  ({ out.1 with
      s_delivered_dedup :=
        (dedup_check_and_add n.s_delivered_dedup (delivered_key p) rx.now_ms).2 },
    out.2)

def confirm_data_delivery (n : Node) (p : DataPacket) (rx : Rx) : Outcome → Node × List Sent
  | .filed what =>
    if what.direction = .INCOMING then confirm_incoming n p what.peer_addr rx else (n, [])
  | .rollcall_reply src_addr _ => confirm_incoming n p src_addr rx
  | _ => (n, [])

def reack (n : Node) (rx : Rx) : Packet → Node × List Sent
  | .data p =>
    if p.header.dest_addr = n.receiver.address ∧
        dedup_contains n.s_delivered_dedup (delivered_key p) rx.now_ms ∧ data_auth_verify mac p then
      send_ack n p.src_addr p.header.packet_id rx
    else (n, [])
  | _ => (n, [])

/-! ## Passing on -/

inductive DataRxAction
  | DELIVER
  | FORWARD
deriving DecidableEq, Repr

structure DataRxDecision where
  action : DataRxAction
  install_reverse_route : Bool
  reverse_dest : UInt32
  reverse_next_hop : UInt32
  reverse_hop_count : UInt8
  reverse_metric : UInt8
deriving DecidableEq, Repr

def data_rx_decide (dest_addr self_addr src_addr prev_hop : UInt32)
    (received_hop_limit link_metric : UInt8) : DataRxDecision :=
  let action :=
    if dest_addr = self_addr ∨ dest_addr = BROADCAST_ADDR then .DELIVER else .FORWARD
  if src_addr ≠ self_addr ∧ prev_hop ≠ self_addr ∧ dest_addr ≠ BROADCAST_ADDR then
    let hops : ℤ := RouteError.ROUTE_HOP_LIMIT_MAX.toNat - received_hop_limit.toNat + 1
    ⟨action, true, src_addr, prev_hop, UInt8.ofNat (min 255 (max 1 hops)).toNat, link_metric⟩
  else ⟨action, false, 0, 0, 0, 0⟩

def decision (n : Node) (p : DataPacket) (rx : Rx) : DataRxDecision :=
  data_rx_decide p.header.dest_addr n.receiver.address p.src_addr p.prev_hop p.header.hop_limit
    (metric_apply_link_penalty 255 rx.reception.rssi rx.reception.snr)

def learn_reverse_route (n : Node) (p : DataPacket) (rx : Rx) : Node :=
  let d := decision n p rx
  if d.install_reverse_route then
    { n with control := { n.control with
        routes := (route_install n.control.routes d.reverse_dest d.reverse_next_hop
          d.reverse_hop_count d.reverse_metric .ACTIVE .BREADCRUMB rx.now_ms).1 } }
  else n

def DataPacket.relayed (p : DataPacket) (hop_limit : UInt8) (me : UInt32) : DataPacket :=
  { p with
    header := { p.header with hop_limit := hop_limit }
    prev_hop := me
    is_data := p.is_data }

def forward_data_packet (n : Node) (p : DataPacket) (rx : Rx) :
    Node × List Sent :=
  let me := n.receiver.address
  let (_, hop_limit, fwd) :=
    forward_data n.control.routes p.header.dest_addr p.header.hop_limit rx.now_ms
  let out := RouteError.forward_data_packet mac me n.control p.header.dest_addr p.header.hop_limit
    rx.stored rx.now_ms rx.draw
  ({ n with control := out.1 },
    out.2.map .rerr ++ if fwd.should_send && rx.tx_ok then [.data (p.relayed hop_limit me)] else [])

def Receipt.relayed (r : Receipt) (hop_limit : UInt8) (me : UInt32) : Receipt :=
  { r with
    header := { r.header with hop_limit := hop_limit }
    relay_path :=
      if r.relay_path.length < DELIVERY_RECEIPT_MAX_HOPS then r.relay_path ++ [me]
      else r.relay_path
    is_receipt := r.is_receipt }

def forward_delivery_receipt (n : Node) (r : Receipt) (rx : Rx) : List Sent :=
  if r.header.hop_limit ≤ 1 then []
  else
    match route_lookup n.control.routes r.header.dest_addr with
    | none => []
    | some route =>
      if route.state = .BROKEN then []
      else if rx.tx_ok then [.receipt (r.relayed (r.header.hop_limit - 1) n.receiver.address)]
      else []

def handle_delivery_receipt (n : Node) (r : Receipt) (rx : Rx) :
    Node × List Sent :=
  if !receipt_verify mac r then (n, [])
  else
    let (ok, control) := control_replay_ok n.control r.src_addr r.seq rx.now_ms
    let n := { n with control := control }
    if !ok then (n, [])
    else if r.header.dest_addr = n.receiver.address then (n, [])
    else (n, forward_delivery_receipt n r rx)

/-! ## The dispatch -/

variable (C : DmCrypto)

def process_data (mac : NetworkMac) (n : Node) (p : DataPacket) (rx : Rx) :
    Effect :=
  if !data_auth_verify mac p then ⟨n, [], none⟩
  else
    let n := learn_reverse_route n p rx
    match (decision n p rx).action with
    | .FORWARD =>
      let out := forward_data_packet mac n p rx
      ⟨out.1, out.2, none⟩
    | .DELIVER =>
      let (receiver, outcome) := handle_data C n.receiver p.toDataFrame rx.toRx
      let out := confirm_data_delivery { n with receiver := receiver } p rx outcome
      ⟨out.1, out.2, some outcome⟩

def mesh_process_rx_packet (mac : NetworkMac) (n : Node) (pkt : Packet) (rx : Rx) :
    Effect :=
  -- the key is taken in here, whatever the frame turns out to be
  let (dup, s_dedup) := dedup_check_and_add n.s_dedup pkt.dedup_key rx.now_ms
  let n := { n with s_dedup := s_dedup }
  if dup then
    let out := reack mac n rx pkt
    ⟨out.1, out.2, none⟩
  else
    match pkt with
    | .data p => process_data C mac n p rx
    | .receipt r =>
      let out := handle_delivery_receipt mac n r rx
      ⟨out.1, out.2, none⟩
    | .other _ => ⟨n, [], none⟩

/-! ## Runs of a node -/

inductive Event
  | received (pkt : Packet) (rx : Rx)
  | maintenance (t : UInt32)
  | elsewhere (s_channels : ChannelTable) (s_dm_table : DmTable) (s_timesync : Timesync)
      (control : MeshNet.Node)

def step (mac : NetworkMac) (n : Node) : Event → Node
  | .received pkt rx => (mesh_process_rx_packet C mac n pkt rx).node
  | .maintenance t =>
    { n with
      s_dedup := dedup_purge n.s_dedup t
      s_delivered_dedup := dedup_purge n.s_delivered_dedup t
      receiver := { n.receiver with s_reassembly := reassembly_purge n.receiver.s_reassembly t }
      control := { n.control with routes := route_maintenance n.control.routes t } }
  | .elsewhere s_channels s_dm_table s_timesync control =>
    { n with
      receiver := { n.receiver with
        s_channels := s_channels, s_dm_table := s_dm_table, s_timesync := s_timesync }
      control := control }

/-! ## What a frame does to a node -/

section

variable {C : DmCrypto} {mac : NetworkMac} {n : Node} {pkt : Packet} {p : DataPacket} {rx : Rx}

lemma send_ack_frame (n : Node) (dest_addr ack_packet_id : UInt32) (rx : Rx) :
    ∃ control, (send_ack n dest_addr ack_packet_id rx).1 = { n with control := control } := by
  unfold send_ack
  split <;> exact ⟨_, rfl⟩

lemma reack_frame (mac : NetworkMac) (n : Node) (rx : Rx) (pkt : Packet) :
    ∃ control, (reack mac n rx pkt).1 = { n with control := control } := by
  unfold reack
  split
  · split_ifs
    · exact send_ack_frame ..
    · exact ⟨_, rfl⟩
  · exact ⟨_, rfl⟩

lemma confirm_incoming_frame (n : Node) (p : DataPacket) (peer_addr : UInt32) (rx : Rx) :
    ∃ control, (confirm_incoming n p peer_addr rx).1 =
      { n with
        control := control
        s_delivered_dedup :=
          (dedup_check_and_add n.s_delivered_dedup (delivered_key p) rx.now_ms).2 } := by
  obtain ⟨control, hack⟩ := send_ack_frame n peer_addr p.header.packet_id rx
  refine ⟨control, ?_⟩
  unfold confirm_incoming
  dsimp only
  rw [hack]

lemma confirm_data_delivery_frame (n : Node) (p : DataPacket) (rx : Rx) (outcome : Outcome) :
    ∃ control s_delivered_dedup, (confirm_data_delivery n p rx outcome).1 =
        { n with control := control, s_delivered_dedup := s_delivered_dedup } ∧
      (s_delivered_dedup = n.s_delivered_dedup ∨ s_delivered_dedup =
        (dedup_check_and_add n.s_delivered_dedup (delivered_key p) rx.now_ms).2) := by
  unfold confirm_data_delivery
  split
  · split_ifs
    · obtain ⟨control, h⟩ := confirm_incoming_frame n p _ rx
      exact ⟨_, _, h, .inr rfl⟩
    · exact ⟨_, _, rfl, .inl rfl⟩
  · obtain ⟨control, h⟩ := confirm_incoming_frame n p _ rx
    exact ⟨_, _, h, .inr rfl⟩
  · exact ⟨_, _, rfl, .inl rfl⟩

lemma learn_reverse_route_frame (n : Node) (p : DataPacket) (rx : Rx) :
    ∃ routes, learn_reverse_route n p rx =
      { n with control := { n.control with routes := routes } } := by
  unfold learn_reverse_route
  dsimp only
  split_ifs <;> exact ⟨_, rfl⟩

lemma handle_delivery_receipt_frame (mac : NetworkMac) (n : Node) (r : Receipt) (rx : Rx) :
    ∃ control, (handle_delivery_receipt mac n r rx).1 = { n with control := control } := by
  unfold handle_delivery_receipt
  dsimp only
  split_ifs <;> exact ⟨_, rfl⟩

lemma decision_action (n : Node) (p : DataPacket) (rx : Rx) :
    (decision n p rx).action =
      if p.header.dest_addr = n.receiver.address ∨ p.header.dest_addr = BROADCAST_ADDR then .DELIVER
      else .FORWARD := by
  unfold decision data_rx_decide
  split_ifs <;> rfl

def reaches (mac : NetworkMac) (n : Node) (pkt : Packet) (rx : Rx) : Option DataPacket :=
  match pkt with
  | .data p =>
    if dedup_contains n.s_dedup (header_key p.header) rx.now_ms = false ∧ data_auth_verify mac p ∧
        (p.header.dest_addr = n.receiver.address ∨ p.header.dest_addr = BROADCAST_ADDR) then some p
    else none
  | _ => none

structure Does (C : DmCrypto) (mac : NetworkMac) (n : Node) (pkt : Packet) (rx : Rx)
    (eff : Effect) : Prop where
  s_dedup : eff.node.s_dedup = (dedup_check_and_add n.s_dedup pkt.dedup_key rx.now_ms).2
  receiver : eff.node.receiver =
    match reaches mac n pkt rx with
    | some p => (handle_data C n.receiver p.toDataFrame rx.toRx).1
    | none => n.receiver
  outcome : eff.outcome =
    (reaches mac n pkt rx).map fun p => (handle_data C n.receiver p.toDataFrame rx.toRx).2
  s_delivered_dedup : eff.node.s_delivered_dedup = n.s_delivered_dedup ∨
    ∃ k, eff.node.s_delivered_dedup = (dedup_check_and_add n.s_delivered_dedup k rx.now_ms).2

lemma dedup_check_and_add_fst (buf : DedupBuffer) (k now_ms : UInt32) :
    (dedup_check_and_add buf k now_ms).1 = dedup_contains buf k now_ms :=
  offer_fst

def filtered (n : Node) (pkt : Packet) (rx : Rx) : Node :=
  { n with s_dedup := (dedup_check_and_add n.s_dedup pkt.dedup_key rx.now_ms).2 }

lemma process_of_dup (h : dedup_contains n.s_dedup pkt.dedup_key rx.now_ms) :
    mesh_process_rx_packet C mac n pkt rx =
      ⟨(reack mac (filtered n pkt rx) rx pkt).1, (reack mac (filtered n pkt rx) rx pkt).2,
        none⟩ := by
  rw [← dedup_check_and_add_fst] at h
  unfold mesh_process_rx_packet
  dsimp only
  rw [h]
  rfl

lemma process_of_new (h : dedup_contains n.s_dedup (header_key p.header) rx.now_ms = false) :
    mesh_process_rx_packet C mac n (.data p) rx =
      process_data C mac (filtered n (.data p) rx) p rx := by
  rw [← dedup_check_and_add_fst] at h
  unfold mesh_process_rx_packet Packet.dedup_key
  dsimp only
  rw [h]
  rfl

lemma process_receipt_of_new {r : Receipt}
    (h : dedup_contains n.s_dedup (header_key r.header) rx.now_ms = false) :
    mesh_process_rx_packet C mac n (.receipt r) rx =
      ⟨(handle_delivery_receipt mac (filtered n (.receipt r) rx) r rx).1,
        (handle_delivery_receipt mac (filtered n (.receipt r) rx) r rx).2, none⟩ := by
  rw [← dedup_check_and_add_fst] at h
  unfold mesh_process_rx_packet Packet.dedup_key
  dsimp only
  rw [h]
  rfl

variable (C rx) in
lemma process_data_deliver (hmac : data_auth_verify mac p)
    (hdest : p.header.dest_addr = n.receiver.address ∨ p.header.dest_addr = BROADCAST_ADDR) :
    ∃ routes, process_data C mac n p rx =
      let r := handle_data C n.receiver p.toDataFrame rx.toRx
      let out := confirm_data_delivery
        { n with control := { n.control with routes := routes }, receiver := r.1 } p rx r.2
      ⟨out.1, out.2, some r.2⟩ := by
  obtain ⟨routes, hlearn⟩ := learn_reverse_route_frame n p rx
  refine ⟨routes, ?_⟩
  unfold process_data
  rw [hmac, if_neg (by decide), hlearn]
  dsimp only
  rw [decision_action, if_pos hdest]

lemma process_data_forward (hmac : data_auth_verify mac p)
    (hself : p.header.dest_addr ≠ n.receiver.address)
    (hcast : p.header.dest_addr ≠ BROADCAST_ADDR) :
    process_data C mac n p rx =
      ⟨(forward_data_packet mac (learn_reverse_route n p rx) p rx).1,
        (forward_data_packet mac (learn_reverse_route n p rx) p rx).2, none⟩ := by
  obtain ⟨routes, hlearn⟩ := learn_reverse_route_frame n p rx
  unfold process_data
  rw [hmac, if_neg (by decide)]
  dsimp only
  rw [decision_action, hlearn, if_neg (not_or.2 ⟨hself, hcast⟩)]

lemma process_data_does (C : DmCrypto) (mac : NetworkMac) (n : Node) (p : DataPacket) (rx : Rx) :
    let eff := process_data C mac n p rx
    let here := data_auth_verify mac p ∧
      (p.header.dest_addr = n.receiver.address ∨ p.header.dest_addr = BROADCAST_ADDR)
    let r := handle_data C n.receiver p.toDataFrame rx.toRx
    eff.node.s_dedup = n.s_dedup ∧
      (here ∧ eff.node.receiver = r.1 ∧ eff.outcome = some r.2 ∨
        ¬ here ∧ eff.node.receiver = n.receiver ∧ eff.outcome = none) ∧
      (eff.node.s_delivered_dedup = n.s_delivered_dedup ∨
        ∃ k, eff.node.s_delivered_dedup =
          (dedup_check_and_add n.s_delivered_dedup k rx.now_ms).2) := by
  by_cases hmac : data_auth_verify mac p
  · by_cases hdest : p.header.dest_addr = n.receiver.address ∨
        p.header.dest_addr = BROADCAST_ADDR
    · obtain ⟨routes, heq⟩ := process_data_deliver C rx hmac hdest
      rw [heq]
      dsimp only
      obtain ⟨control, s_delivered_dedup, hnode, hrec⟩ := confirm_data_delivery_frame
        { n with
          control := { n.control with routes := routes }
          receiver := (handle_data C n.receiver p.toDataFrame rx.toRx).1 } p rx
        (handle_data C n.receiver p.toDataFrame rx.toRx).2
      rw [hnode]
      exact ⟨rfl, .inl ⟨⟨hmac, hdest⟩, rfl, rfl⟩, hrec.imp id fun h => ⟨_, h⟩⟩
    · rw [process_data_forward hmac (not_or.1 hdest).1 (not_or.1 hdest).2]
      obtain ⟨routes, hlearn⟩ := learn_reverse_route_frame n p rx
      rw [hlearn]
      exact ⟨rfl, .inr ⟨fun h => hdest h.2, rfl, rfl⟩, .inl rfl⟩
  · have heq : process_data C mac n p rx = ⟨n, [], none⟩ := by
      unfold process_data
      rw [Bool.eq_false_of_not_eq_true hmac]
      rfl
    rw [heq]
    exact ⟨rfl, .inr ⟨fun h => hmac h.1, rfl, rfl⟩, .inl rfl⟩

lemma mesh_process_rx_packet_does (C : DmCrypto) (mac : NetworkMac) (n : Node) (pkt : Packet)
    (rx : Rx) : Does C mac n pkt rx (mesh_process_rx_packet C mac n pkt rx) := by
  by_cases hdup : dedup_contains n.s_dedup pkt.dedup_key rx.now_ms
  · -- nothing reaches `handle_data`
    have hnone : reaches mac n pkt rx = none := by
      cases pkt with
      | data p => exact if_neg fun h => Bool.false_ne_true (h.1.symm.trans hdup)
      | receipt r => rfl
      | other k => rfl
    obtain ⟨control, hreack⟩ := reack_frame mac (filtered n pkt rx) rx pkt
    rw [process_of_dup hdup]
    refine ⟨?_, ?_, ?_, .inl ?_⟩
    · rw [hreack]
      rfl
    · rw [hreack, hnone]
      rfl
    · rw [hnone]
      rfl
    · rw [hreack]
      rfl
  have hnew := Bool.eq_false_of_not_eq_true hdup
  cases pkt with
  | data p =>
    obtain ⟨hdedup, hrec, hdelivered⟩ := process_data_does C mac (filtered n (.data p) rx) p rx
    rw [process_of_new hnew]
    rcases hrec with ⟨⟨hmac, hdest⟩, hreceiver, houtcome⟩ | ⟨hnot, hreceiver, houtcome⟩
    · have hreach : reaches mac n (.data p) rx = some p := if_pos ⟨hnew, hmac, hdest⟩
      refine ⟨hdedup, ?_, ?_, hdelivered⟩
      · rw [hreach]
        exact hreceiver
      · rw [hreach]
        exact houtcome
    · have hreach : reaches mac n (.data p) rx = none := if_neg fun h => hnot h.2
      refine ⟨hdedup, ?_, ?_, hdelivered⟩
      · rw [hreach]
        exact hreceiver
      · rw [hreach]
        exact houtcome
  | receipt r =>
    obtain ⟨control, hnode⟩ :=
      handle_delivery_receipt_frame mac (filtered n (.receipt r) rx) r rx
    rw [process_receipt_of_new hnew]
    refine ⟨?_, ?_, rfl, .inl ?_⟩ <;>
    · rw [hnode]
      rfl
  | other k =>
    have heq : mesh_process_rx_packet C mac n (.other k) rx =
        ⟨filtered n (.other k) rx, [], none⟩ := by
      rw [← dedup_check_and_add_fst] at hnew
      unfold mesh_process_rx_packet
      dsimp only
      rw [hnew]
      rfl
    rw [heq]
    exact ⟨rfl, rfl, rfl, .inl rfl⟩

end

/-! ## What a run does to the duplicate records -/

section

variable {C : DmCrypto} {mac : NetworkMac} {n : Node} {ev : Event} {e : Entry UInt32}

def Event.now : Event → Option UInt32
  | .received _ rx => some rx.now_ms
  | .maintenance t => some t
  | .elsewhere .. => none

def Roomy (n : Node) : Event → Prop
  | .received _ rx => HasRoom n.s_dedup rx.now_ms ∧ HasRoom n.s_delivered_dedup rx.now_ms
  | _ => True

instance (n : Node) (ev : Event) : Decidable (Roomy n ev) := by
  cases ev <;> unfold Roomy <;> infer_instance

lemma mem_of_mem_s_dedup (h : e ∈ (step C mac n ev).s_dedup) :
    e ∈ n.s_dedup ∨ ∃ pkt rx, ev = .received pkt rx ∧ e = ⟨pkt.dedup_key, rx.now_ms⟩ := by
  match ev with
  | .received pkt rx =>
    have hdoes := mesh_process_rx_packet_does C mac n pkt rx
    rw [step, hdoes.s_dedup] at h
    exact (mem_of_mem_offer h).imp id fun heq => ⟨pkt, rx, rfl, heq⟩
  | .maintenance t => exact .inl (mem_purge.1 h).1
  | .elsewhere .. => exact .inl h

/-- **Where the entries of the filter come from.**  Every one was there at the start, or is that of
a frame received since, with the time of its reception. -/
theorem mem_s_dedup_run {es : List Event} (h : e ∈ (es.foldl (step C mac) n).s_dedup) :
    e ∈ n.s_dedup ∨ ∃ pkt rx, Event.received pkt rx ∈ es ∧ e = ⟨pkt.dedup_key, rx.now_ms⟩ := by
  induction es generalizing n with
  | nil => exact .inl h
  | cons ev es ih =>
    rcases ih h with hmem | ⟨pkt, rx, hin, heq⟩
    · rcases mem_of_mem_s_dedup hmem with hold | ⟨pkt, rx, rfl, heq⟩
      · exact .inl hold
      · exact .inr ⟨pkt, rx, List.mem_cons_self, heq⟩
    · exact .inr ⟨pkt, rx, List.mem_cons_of_mem _ hin, heq⟩

lemma forgotten {es : List Event} {k now_ms : UInt32}
    (hstart : dedup_contains n.s_dedup k now_ms = false)
    (hes : ∀ pkt rx, Event.received pkt rx ∈ es → pkt.dedup_key = k →
      DEDUP_EXPIRY_MS ≤ now_ms - rx.now_ms) :
    dedup_contains (es.foldl (step C mac) n).s_dedup k now_ms = false := by
  refine holds_eq_false_iff.2 ?_
  intro e he hkey
  rcases mem_s_dedup_run he with hold | ⟨pkt, rx, hin, rfl⟩
  · exact holds_eq_false_iff.1 hstart e hold hkey
  · exact decide_eq_false (UInt32.not_lt.2 (hes pkt rx hin hkey))

lemma mem_s_dedup_step (hroom : Roomy n ev)
    (hlive : ∀ t, ev.now = some t → e.live DEDUP_EXPIRY_MS t) (he : e ∈ n.s_dedup) :
    e ∈ (step C mac n ev).s_dedup := by
  match ev with
  | .received pkt rx =>
    have hdoes := mesh_process_rx_packet_does C mac n pkt rx
    rw [step, hdoes.s_dedup]
    exact mem_offer_of_mem hroom.1 he (hlive _ rfl)
  | .maintenance t => exact mem_purge.2 ⟨he, hlive t rfl⟩
  | .elsewhere .. => exact he

lemma mem_s_delivered_step (hroom : Roomy n ev)
    (hlive : ∀ t, ev.now = some t → e.live DEDUP_EXPIRY_MS t)
    (he : e ∈ n.s_delivered_dedup) : e ∈ (step C mac n ev).s_delivered_dedup := by
  match ev with
  | .received pkt rx =>
    have hdoes := mesh_process_rx_packet_does C mac n pkt rx
    rcases hdoes.s_delivered_dedup with hsame | ⟨k, hoffer⟩
    · rw [step, hsame]
      exact he
    · rw [step, hoffer]
      exact mem_offer_of_mem hroom.2 he (hlive _ rfl)
  | .maintenance t => exact mem_purge.2 ⟨he, hlive t rfl⟩
  | .elsewhere .. => exact he

end

/-! ## Frames that are accepted -/

section

variable {C : DmCrypto} {mac : NetworkMac} {r r' : Receiver} {f : DataFrame}
  {info : ChannelMsgInfo} {rx : HandleData.Rx}

def admitted (C : DmCrypto) (r : Receiver) (f : DataFrame) (now_ms : UInt32) :
    Option (Receiver × ChannelMsgInfo) :=
  if f.ciphertext = [] ∨ f.src_addr = r.address ∨
      f.header.dest_addr ≠ BROADCAST_ADDR ∧ f.header.dest_addr ≠ r.address then none
  else
    match open_frame C r f now_ms with
    | (r, .ok info) =>
      match replay_gate r f info now_ms with
      | (r, true) => some (r, info)
      | (_, false) => none
    | _ => none

lemma handle_data_of_admitted (h : admitted C r f rx.now_ms = some (r', info)) :
    handle_data C r f rx = dispatch r' f info rx := by
  unfold admitted at h
  split at h
  · cases h
  next hpre =>
  obtain ⟨hct, hsrc, hdest⟩ := not_or.1 hpre |>.imp id not_or.1
  rw [handle_data, if_neg hct, if_neg hsrc, if_neg hdest]
  rcases hopen : open_frame C r f rx.now_ms with ⟨r₁, _ | _ | info₁⟩
  · rw [hopen] at h
    cases h
  · rw [hopen] at h
    cases h
  · rw [hopen] at h
    dsimp only at h ⊢
    rcases hgate : replay_gate r₁ f info₁ rx.now_ms with ⟨r₂, _ | _⟩
    · rw [hgate] at h
      cases h
    · rw [hgate] at h
      cases h
      rfl

lemma deliver_text_address (r : Receiver) (f : DataFrame) (info : ChannelMsgInfo)
    (rx : HandleData.Rx) : (deliver_text r f info rx).1.address = r.address := by
  unfold deliver_text
  split_ifs
  · rfl
  · unfold deliver_fragment
    rcases reassembly_add r.s_reassembly (frag_header info.data) (info.data.drop FRAG_HEADER_SIZE)
      rx.now_ms f.header.packet_id with ⟨ctx, _ | _ | _⟩
    · rfl
    · rfl
    · dsimp only
      rcases reassembly_collect ctx (frag_header info.data).message_id
        ((frag_header info.data).frag_total.toNat * FRAG_MAX_PLAINTEXT) with ⟨ctx', _ | text⟩
      · rfl
      · dsimp only
        split_ifs <;> rfl
  · rfl

lemma dispatch_address (r : Receiver) (f : DataFrame) (info : ChannelMsgInfo)
    (rx : HandleData.Rx) : (dispatch r f info rx).1.address = r.address := by
  rcases dispatch_cases r f info rx with ⟨hsame, -⟩ | ⟨-, htext⟩
  · rw [hsame]
  · rw [htext, deliver_text_address]

lemma handle_data_address (C : DmCrypto) (r : Receiver) (f : DataFrame) (rx : HandleData.Rx) :
    (handle_data C r f rx).1.address = r.address := by
  have hopened : (open_frame C r f rx.now_ms).1.address = r.address := by
    obtain ⟨t, b, d, h⟩ := open_frame_changes C r f rx.now_ms
    rw [h]
  unfold handle_data
  split_ifs
  · rfl
  · rfl
  · rfl
  rcases hopen : open_frame C r f rx.now_ms with ⟨r₁, _ | _ | info⟩ <;> rw [hopen] at hopened
  · exact hopened
  · exact hopened
  · have hgated : (replay_gate r₁ f info rx.now_ms).1.address = r.address := by
      obtain ⟨w, h⟩ := replay_gate_changes r₁ f info rx.now_ms
      rw [h]
      exact hopened
    dsimp only
    rcases hgate : replay_gate r₁ f info rx.now_ms with ⟨r₂, _ | _⟩ <;> rw [hgate] at hgated
    · exact hgated
    · exact (dispatch_address r₂ f info rx).trans hgated

lemma step_address (C : DmCrypto) (mac : NetworkMac) (n : Node) (ev : Event) :
    (step C mac n ev).receiver.address = n.receiver.address := by
  match ev with
  | .received pkt rx =>
    rw [step, (mesh_process_rx_packet_does C mac n pkt rx).receiver]
    rcases reaches mac n pkt rx with _ | p
    · rfl
    · exact handle_data_address ..
  | .maintenance t => rfl
  | .elsewhere .. => rfl

lemma run_address (C : DmCrypto) (mac : NetworkMac) (n : Node) (es : List Event) :
    (es.foldl (step C mac) n).receiver.address = n.receiver.address :=
  foldl_invariant (C := fun _ _ => True) (I := fun m => m.receiver.address = n.receiver.address)
    (fun m ev hm _ => (step_address C mac m ev).trans hm) (meets_of_forall (fun _ _ _ => trivial) n)
    rfl

end

end BrambleMesh.Dispatch
