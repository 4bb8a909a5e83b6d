/-
Who a broadcast is said to have reached: main/mesh_reliability.c, main/delivery_event_ring.c and
two paths of `mesh_process_rx_packet`. One path verifies a receipt; the other runs at the
duplicate gate, before any authentication.
-/
import BrambleMesh.RelayAuth
import BrambleMesh.TextSend

namespace BrambleMesh.DeliveryEvents

open Run Bytes Wire TextSend List
open DmRatchet (Header)
open HandleData (BROADCAST_ADDR)
open MeshNet (control_replay_ok)
open Dispatch (DedupBuffer dedup_check_and_add dedup_purge)
open RelayAuth (Hmac receipt_verify ack_verify data_auth_verify data_auth_sign)

/-! ## The ring -/

inductive EventType
  | ACK
  | BROADCAST_DELIVERY
deriving DecidableEq, Repr

structure DeliveryEvent where
  event_seq : UInt32
  message_id : UInt32
  timestamp_s : UInt32
  recipient_addr : UInt32
  event_type : EventType
  route_hops : List UInt32
deriving DecidableEq

structure EventRing where
  records : List DeliveryEvent
  next_seq : UInt32
deriving DecidableEq

def delivery_event_ring_init : EventRing := ⟨[], 1⟩

abbrev DELIVERY_EVENT_ROUTE_MAX_HOPS : ℕ := 8

def delivery_event_set_route (hop_count : UInt8) (relay_path : List UInt32) : List UInt32 :=
  relay_path.take (min hop_count.toNat DELIVERY_EVENT_ROUTE_MAX_HOPS)

def delivery_event_ring_append (capacity : ℕ) (ring : EventRing) (event : DeliveryEvent) :
    EventRing :=
  ⟨({ event with event_seq := ring.next_seq } :: ring.records).take capacity, ring.next_seq + 1⟩

/-! ## Recording -/

inductive TelemetryMode
  | OFF
  | RECIPIENT_ONLY
  | PATH_SAMPLED
deriving DecidableEq, Repr

structure Config where
  address : UInt32
  hmac : Hmac
  key : Option Key32
  capacity : ℕ

structure Node where
  s_dedup : DedupBuffer
  control : MeshNet.Node
  recent : Recent
  s_broadcast_telemetry_mode : TelemetryMode
  ring : EventRing

section

variable (cfg : Config)

def record_ack_delivery_event (n : Node) (ack : Ack) (now_ms : UInt32) : Node :=
  { n with
    ring := delivery_event_ring_append cfg.capacity n.ring
      ⟨0, ack.ack_packet_id, now_ms / 1000, ack.src_addr, .ACK,
        delivery_event_set_route ack.hop_count ack.relay_path.toList⟩ }

def record_broadcast_delivery_event (n : Node) (recipient_addr broadcast_id : UInt32)
    (hop_count : UInt8) (relay_path : List UInt32) (now_ms : UInt32) : Node :=
  { n with
    ring := delivery_event_ring_append cfg.capacity n.ring
      ⟨0, broadcast_id, now_ms / 1000, recipient_addr, .BROADCAST_DELIVERY,
        delivery_event_set_route hop_count relay_path⟩ }

def mesh_emit_broadcast_delivery_notification (n : Node) (src_addr broadcast_id : UInt32)
    (hop_count : UInt8) (relay_path : List UInt32) (now_ms : UInt32) : Node :=
  if n.s_broadcast_telemetry_mode = .OFF then n
  else record_broadcast_delivery_event cfg n src_addr broadcast_id hop_count relay_path now_ms

def relayer_addr (n : Node) (header : Header) (data : List UInt8) : Option UInt32 :=
  if header.type ≠ PKT_TYPE_DATA then none
  else if header.dest_addr ≠ BROADCAST_ADDR then none
  else if !recent_broadcast_contains n.recent header.packet_id then none
  else if data.length < HEADER_SIZE + 4 then none
  else if get_le32 (data.drop HEADER_SIZE) = 0 then none
  else some (get_le32 (data.drop HEADER_SIZE))

def maybe_emit_implicit_broadcast_delivery (n : Node) (header : Header) (data : List UInt8)
    (now_ms : UInt32) : Node :=
  match relayer_addr n header data with
  | none => n
  | some relayer =>
    record_broadcast_delivery_event cfg
      (mesh_emit_broadcast_delivery_notification cfg n relayer header.packet_id 1 [relayer] now_ms)
      relayer header.packet_id 1 [relayer] now_ms

def handle_delivery_receipt (n : Node) (data : List UInt8) (now_ms : UInt32) : Node :=
  match bramble_delivery_receipt_deserialize data with
  | none => n
  | some receipt =>
    if !receipt_verify cfg.hmac cfg.key receipt then n
    else
      let (ok, control) := control_replay_ok n.control receipt.src_addr
        (bramble_seq48_unpack receipt.seq) now_ms
      if !ok then { n with control := control }
      else if receipt.header.dest_addr ≠ cfg.address then { n with control := control }
      else
        mesh_emit_broadcast_delivery_notification cfg { n with control := control }
          receipt.src_addr receipt.orig_packet_id receipt.hop_count receipt.relay_path.toList
          now_ms

def handle_ack (n : Node) (data : List UInt8) (row_found : Bool) (now_ms : UInt32) : Node :=
  match bramble_ack_deserialize data with
  | none => n
  | some ack =>
    if !ack_verify cfg.hmac cfg.key ack then n
    else
      let (ok, control) := control_replay_ok n.control ack.src_addr
        (bramble_seq48_unpack ack.seq) now_ms
      if !ok then { n with control := control }
      else if ack.header.dest_addr ≠ cfg.address then { n with control := control }
      else if row_found then record_ack_delivery_event cfg { n with control := control } ack now_ms
      else { n with control := control }

/-! ## The dispatch -/

abbrev PKT_TYPE_PROBE_ACK : UInt8 := 0x13

def dedup_key (header : Header) (data : List UInt8) : UInt32 :=
  let base := header.packet_id ^^^ (header.type.toUInt32 <<< 24)
  if header.type = PKT_TYPE_PROBE_ACK ∧ HEADER_SIZE + 4 ≤ data.length then
    let base := base ^^^ get_le32 (data.drop HEADER_SIZE)
    if HEADER_SIZE + 6 ≤ data.length then
      base ^^^ ((get_byte (data.drop (HEADER_SIZE + 5))).toUInt32 <<< 16)
    else base
  else base

def mesh_process_rx_packet (n : Node) (data : List UInt8) (row_found : Bool) (now_ms : UInt32) :
    Node :=
  match bramble_header_deserialize data with
  | none => n
  | some header =>
    if header.version ≠ BRAMBLE_VERSION then n
    else
      let (dup, s_dedup) := dedup_check_and_add n.s_dedup (dedup_key header data) now_ms
      let n := { n with s_dedup := s_dedup }
      -- nothing has been authenticated yet
      if dup then maybe_emit_implicit_broadcast_delivery cfg n header data now_ms
      else if header.type = PKT_TYPE_ACK then handle_ack cfg n data row_found now_ms
      else if header.type = PKT_TYPE_DELIVERY_RECEIPT then
        handle_delivery_receipt cfg n data now_ms
      else n

/-! ## Runs -/

structure World where
  node : Node
  sent : List UInt32
  signed : List UInt32
  heard : List (List UInt8)

inductive Event
  | received (data : List UInt8) (row_found : Bool) (now_ms : UInt32)
  | broadcast (packet_id : UInt32)
  | receipted (orig_packet_id : UInt32)
  | maintenance (now_ms : UInt32)
  | telemetry (mode : TelemetryMode)
  | elsewhere (control : MeshNet.Node)

def step (w : World) : Event → World
  | .received data row_found now_ms =>
    { w with
      node := mesh_process_rx_packet cfg w.node data row_found now_ms
      heard := data :: w.heard }
  | .broadcast packet_id =>
    { w with
      node := { w.node with recent := record_sent w.node.recent packet_id }
      sent := packet_id :: w.sent }
  | .receipted orig_packet_id => { w with signed := orig_packet_id :: w.signed }
  | .maintenance now_ms =>
    { w with node := { w.node with s_dedup := dedup_purge w.node.s_dedup now_ms } }
  | .telemetry mode => { w with node := { w.node with s_broadcast_telemetry_mode := mode } }
  | .elsewhere control => { w with node := { w.node with control := control } }

def HasReceipt (heard : List (List UInt8)) (recipient_addr broadcast_id : UInt32) : Prop :=
  ∃ data ∈ heard, ∃ r, bramble_delivery_receipt_deserialize data = some r ∧
    receipt_verify cfg.hmac cfg.key r ∧ r.src_addr = recipient_addr ∧
    r.orig_packet_id = broadcast_id
deriving Decidable

def HasRelay (heard : List (List UInt8)) (recipient_addr broadcast_id : UInt32) : Prop :=
  ∃ data ∈ heard, ∃ d, data_read data = some d ∧ d.header.type = PKT_TYPE_DATA ∧
    d.header.packet_id = broadcast_id ∧
    data_auth_verify cfg.hmac cfg.key d.header d.src_addr d.auth_hmac ∧
    d.prev_hop = recipient_addr
deriving Decidable

def Evident (w : World) (e : DeliveryEvent) : Prop :=
  e.recipient_addr ≠ cfg.address ∧
    (HasReceipt cfg w.heard e.recipient_addr e.message_id ∨
      HasRelay cfg w.heard e.recipient_addr e.message_id)
deriving Decidable

def ThreatModel (w : World) : Event → Prop
  | .received data _ _ => ∀ r, bramble_delivery_receipt_deserialize data = some r →
      receipt_verify cfg.hmac cfg.key r → r.src_addr = cfg.address →
        r.orig_packet_id ∈ w.signed
  | _ => True

instance (w : World) (ev : Event) : Decidable (ThreatModel cfg w ev) := by
  cases ev <;> unfold ThreatModel <;> infer_instance

def Distinct (w : World) : Event → Prop
  | .broadcast packet_id => packet_id ∉ w.signed
  | .receipted orig_packet_id => orig_packet_id ∉ w.sent
  | _ => True

instance (w : World) (ev : Event) : Decidable (Distinct w ev) := by
  cases ev <;> unfold Distinct <;> infer_instance

def NoImplicit (w : World) : Event → Prop
  | .received data _ now_ms => ∀ header, bramble_header_deserialize data = some header →
      header.version = BRAMBLE_VERSION →
      (dedup_check_and_add w.node.s_dedup (dedup_key header data) now_ms).1 →
        relayer_addr w.node header data = none
  | _ => True

instance (w : World) (ev : Event) : Decidable (NoImplicit w ev) := by
  cases ev <;> unfold NoImplicit <;> infer_instance

end

/-! ## What a frame records -/

section

variable {cfg : Config} {n : Node} {data : List UInt8} {row_found : Bool} {now_ms : UInt32}

inductive Records (cfg : Config) (data : List UInt8) (ring ring' : EventRing) : Prop
  | none (same : ring' = ring)
  | one (e : DeliveryEvent) (added : ring' = delivery_event_ring_append cfg.capacity ring e)
      (receipt : e.event_type = .BROADCAST_DELIVERY →
        ∃ r, bramble_delivery_receipt_deserialize data = some r ∧
          receipt_verify cfg.hmac cfg.key r ∧ r.src_addr = e.recipient_addr ∧
          r.orig_packet_id = e.message_id)

lemma records_handle_ack :
    Records cfg data n.ring (handle_ack cfg n data row_found now_ms).ring := by
  unfold handle_ack
  rcases bramble_ack_deserialize data with _ | ack
  · exact .none rfl
  dsimp only
  split_ifs
  · exact .none rfl
  · exact .none rfl
  · exact .none rfl
  · exact .one _ rfl fun h => EventType.noConfusion h
  · exact .none rfl

lemma records_handle_delivery_receipt :
    Records cfg data n.ring (handle_delivery_receipt cfg n data now_ms).ring := by
  unfold handle_delivery_receipt
  rcases hr : bramble_delivery_receipt_deserialize data with _ | r
  · exact .none rfl
  dsimp only
  by_cases hverify : receipt_verify cfg.hmac cfg.key r
  swap
  · rw [if_pos (by simpa using hverify)]
    exact .none rfl
  rw [if_neg (by simpa using hverify)]
  split_ifs
  · exact .none rfl
  · exact .none rfl
  unfold mesh_emit_broadcast_delivery_notification
  split_ifs
  · exact .none rfl
  · exact .one _ rfl fun _ => ⟨r, hr, hverify, rfl, rfl⟩

/-- **What a frame records.**  Unless it is taken for a rebroadcast, one event at most, and a
broadcast delivery only for a verified receipt. -/
theorem records_received
    (hquiet : ∀ header, bramble_header_deserialize data = some header →
      header.version = BRAMBLE_VERSION →
      (dedup_check_and_add n.s_dedup (dedup_key header data) now_ms).1 →
        relayer_addr n header data = none) :
    Records cfg data n.ring (mesh_process_rx_packet cfg n data row_found now_ms).ring := by
  unfold mesh_process_rx_packet
  rcases hheader : bramble_header_deserialize data with _ | header
  · exact .none rfl
  dsimp only
  by_cases hversion : header.version = BRAMBLE_VERSION
  swap
  · rw [if_pos hversion]
    exact .none rfl
  rw [if_neg (not_not.2 hversion)]
  by_cases hdup : (dedup_check_and_add n.s_dedup (dedup_key header data) now_ms).1
  · -- the duplicate gate
    have hnone : relayer_addr { n with
        s_dedup := (dedup_check_and_add n.s_dedup (dedup_key header data) now_ms).2 } header data =
        none := hquiet header hheader hversion hdup
    rw [if_pos hdup, maybe_emit_implicit_broadcast_delivery, hnone]
    exact .none rfl
  split_ifs
  · exact records_handle_ack (n := { n with
      s_dedup := (dedup_check_and_add n.s_dedup (dedup_key header data) now_ms).2 })
  · exact records_handle_delivery_receipt (n := { n with
      s_dedup := (dedup_check_and_add n.s_dedup (dedup_key header data) now_ms).2 })
  · exact .none rfl

lemma Records.next_seq {ring ring' : EventRing} (h : Records cfg data ring ring') :
    ring'.next_seq = ring.next_seq ∨ ring'.next_seq = ring.next_seq + 1 := by
  cases h with
  | none same => exact .inl (by rw [same])
  | one e added _ => exact .inr (by rw [added]; rfl)

end

/-! ## Every recorded delivery -/

structure Inv (cfg : Config) (w : World) : Prop where
  receipt : ∀ e ∈ w.node.ring.records, e.event_type = .BROADCAST_DELIVERY →
    HasReceipt cfg w.heard e.recipient_addr e.message_id ∧
      (e.recipient_addr = cfg.address → e.message_id ∈ w.signed)
  distinct : ∀ id ∈ w.sent, id ∉ w.signed

section

variable {cfg : Config} {w : World}

lemma HasReceipt.cons {heard : List (List UInt8)} {recipient_addr broadcast_id : UInt32}
    (h : HasReceipt cfg heard recipient_addr broadcast_id) (data : List UInt8) :
    HasReceipt cfg (data :: heard) recipient_addr broadcast_id := by
  obtain ⟨d, hd, hr⟩ := h
  exact ⟨d, mem_cons_of_mem _ hd, hr⟩

lemma Inv.received (h : Inv cfg w) {data : List UInt8} {row_found : Bool} {now_ms : UInt32}
    (hmodel : ThreatModel cfg w (.received data row_found now_ms))
    (hquiet : NoImplicit w (.received data row_found now_ms)) :
    Inv cfg (step cfg w (.received data row_found now_ms)) := by
  refine ⟨fun e he htype => ?_, h.distinct⟩
  have hold : e ∈ w.node.ring.records →
      HasReceipt cfg (data :: w.heard) e.recipient_addr e.message_id ∧
        (e.recipient_addr = cfg.address → e.message_id ∈ w.signed) :=
    fun he => (h.receipt e he htype).imp (HasReceipt.cons · data) id
  have hrec : Records cfg data w.node.ring
      (mesh_process_rx_packet cfg w.node data row_found now_ms).ring := records_received hquiet
  dsimp only [step] at he ⊢
  cases hrec with
  | none same => exact hold (same ▸ he)
  | one e' added hreceipt =>
    rw [added] at he
    rcases mem_cons.1 (mem_of_mem_take he) with rfl | he'
    · obtain ⟨r, hr, hverify, hsrc, horig⟩ := hreceipt htype
      refine ⟨⟨data, mem_cons_self, r, hr, hverify, hsrc, horig⟩, fun hself => ?_⟩
      exact horig ▸ hmodel r hr hverify (hsrc.trans hself)
    · exact hold he'

lemma inv_step {ev : Event} (h : Inv cfg w)
    (hev : ThreatModel cfg w ev ∧ Distinct w ev ∧ NoImplicit w ev) : Inv cfg (step cfg w ev) := by
  obtain ⟨hmodel, hdistinct, hquiet⟩ := hev
  cases ev with
  | received data row_found now_ms => exact h.received hmodel hquiet
  | broadcast packet_id =>
    refine ⟨h.receipt, fun id hid => ?_⟩
    rcases mem_cons.1 hid with rfl | hid'
    · exact hdistinct
    · exact h.distinct id hid'
  | receipted orig_packet_id =>
    refine ⟨fun e he htype => ?_, fun id hid hsigned => ?_⟩
    · exact (h.receipt e he htype).imp (fun hr => hr)
        fun hs hself => mem_cons_of_mem _ (hs hself)
    · rcases mem_cons.1 hsigned with rfl | hsigned'
      · exact hdistinct hid
      · exact h.distinct id hid hsigned'
  | maintenance | telemetry | elsewhere => exact ⟨h.receipt, h.distinct⟩

def booted (n : Node) : World := ⟨{ n with ring := delivery_event_ring_init }, [], [], []⟩

/-- **Broadcast deliveries are evidence.** Where no frame is taken for a rebroadcast, a recorded
delivery names another node that has signed a verified receipt or relayed the broadcast with a
valid MAC, and every frame causes at most one event. -/
theorem events_are_evidence (cfg : Config) (n : Node) (es : List Event)
    (hmodel : Meets (step cfg) (ThreatModel cfg) (booted n) es)
    (hdistinct : Meets (step cfg) Distinct (booted n) es)
    (hquiet : Meets (step cfg) NoImplicit (booted n) es) :
    (∀ e ∈ (es.foldl (step cfg) (booted n)).node.ring.records,
      e.event_type = .BROADCAST_DELIVERY →
        e.message_id ∈ (es.foldl (step cfg) (booted n)).sent →
          Evident cfg (es.foldl (step cfg) (booted n)) e) ∧
    ∀ pre data row_found now_ms post, es = pre ++ .received data row_found now_ms :: post →
      let w := pre.foldl (step cfg) (booted n)
      (step cfg w (.received data row_found now_ms)).node.ring.next_seq =
          w.node.ring.next_seq ∨
        (step cfg w (.received data row_found now_ms)).node.ring.next_seq =
          w.node.ring.next_seq + 1 := by
  constructor
  · have hkeep : ∀ w ev, Inv cfg w → ThreatModel cfg w ev ∧ Distinct w ev ∧ NoImplicit w ev →
        Inv cfg (step cfg w ev) := fun _ _ h hev => inv_step h hev
    have hstart : Inv cfg (booted n) :=
      ⟨fun e he => absurd he not_mem_nil, fun id hid => absurd hid not_mem_nil⟩
    have hinv := foldl_invariant hkeep (meets_and.2 ⟨hmodel, meets_and.2 ⟨hdistinct, hquiet⟩⟩)
      hstart
    intro e he htype hsent
    obtain ⟨hreceipt, hsigned⟩ := hinv.receipt e he htype
    exact ⟨fun hself => hinv.distinct _ hsent (hsigned hself), .inl hreceipt⟩
  · intro pre data row_found now_ms post hes
    rw [hes, meets_append] at hquiet
    exact (records_received hquiet.2.1).next_seq

end

/-! ## A rebroadcast -/

def seven : Config := ⟨7, RelayAuth.sum_hmac, some Key32.zero, 512⟩

def sevenNode : Node := ⟨[], .fresh, .init, .RECIPIENT_ONLY, delivery_event_ring_init⟩

def header77 : Header := ⟨BRAMBLE_VERSION, PKT_TYPE_DATA, 0x0C, 6, BROADCAST_ADDR, 77⟩

def relayedBy (prev_hop : UInt32) : List UInt8 :=
  (Data.bytes ⟨header77, 7, prev_hop, data_auth_sign seven.hmac seven.key header77 7,
    List.replicate 40 0⟩)

def forged : List UInt8 := bramble_header_serialize header77 ++ le32 9

def receipt77 : Receipt :=
  RelayAuth.receipt_sign seven.hmac seven.key
    ⟨⟨BRAMBLE_VERSION, PKT_TYPE_DELIVERY_RECEIPT, 0, 8, 7, 5⟩, 3, 77, 0, 0, Vector.replicate 8 0,
      Vector.replicate 6 3, Vector.replicate 8 0⟩

def sevenAfter (es : List Event) : World := es.foldl (step seven) (booted sevenNode)

def recipients (es : List Event) : List UInt32 :=
  (sevenAfter es).node.ring.records.map (·.recipient_addr)

theorem events_are_evidence_receipt :
    let es : List Event := [.broadcast 77, .received (relayedBy 2) false 1000,
      .received receipt77.bytes false 2000]
    recipients es = [3] ∧
    ∀ e ∈ (sevenAfter es).node.ring.records, e.event_type = .BROADCAST_DELIVERY →
      e.message_id ∈ (sevenAfter es).sent → Evident seven (sevenAfter es) e := by
  intro es
  exact ⟨by decide +kernel, (events_are_evidence seven sevenNode es (by decide +kernel)
    (by decide +kernel) (by decide +kernel)).1⟩

/-- The second of two relayed copies is recorded twice, as a delivery to this node itself. A
duplicate made up without the key is recorded for whatever address it has. -/
theorem rebroadcast_names_self :
    let honest : List Event := [.broadcast 77, .received (relayedBy 2) false 1000,
      .received (relayedBy 3) false 1100]
    let attacked : List Event := [.broadcast 77, .received (relayedBy 2) false 1000,
      .received forged false 1100]
    (Meets (step seven) (ThreatModel seven) (booted sevenNode) honest ∧
      recipients honest = [7, 7] ∧
      (sevenAfter honest).node.ring.next_seq =
        (sevenAfter (honest.take 2)).node.ring.next_seq + 2 ∧
      ∀ e ∈ (sevenAfter honest).node.ring.records, e.event_type = .BROADCAST_DELIVERY ∧
        e.message_id ∈ (sevenAfter honest).sent ∧ ¬ Evident seven (sevenAfter honest) e) ∧
    Meets (step seven) (ThreatModel seven) (booted sevenNode) attacked ∧
      recipients attacked = [9, 9] ∧
      ∀ e ∈ (sevenAfter attacked).node.ring.records, e.event_type = .BROADCAST_DELIVERY ∧
        e.message_id ∈ (sevenAfter attacked).sent ∧ ¬ Evident seven (sevenAfter attacked) e := by
  decide +kernel

end BrambleMesh.DeliveryEvents
