/-
Frames and their relays: the network-key MAC (components/network_key, components/routing_auth),
and what a node does with an authenticated frame. A tag covers what the originator alone sets, and
the labels keep the six kinds apart.
-/
import BrambleMesh.Dispatch
import BrambleMesh.Wire

namespace BrambleMesh.RelayAuth

open Bytes Wire Option
open DmRatchet (Header bramble_build_aead_aad)
open Routing (RoutingTable ReverseRoute route_lookup)
open Discovery (PendingDiscovery rrep_rx_decide)
open RouteError (forward_data)
open HandleData (BROADCAST_ADDR)

/-! ## The network-key MAC -/

abbrev Hmac := Key32 → List UInt8 → Key32

abbrev Tag8 := Vector UInt8 8

def network_key_mac (hmac : Hmac) (key : Option Key32) (label data : List UInt8) : Option Tag8 :=
  if data.length > 255 ∨ label.length > 32 then none
  else key.map fun k => get_bytes 8 (hmac k (label ++ data)).toList

def network_key_tag (hmac : Hmac) (key : Option Key32) (label data : List UInt8) : Tag8 :=
  (network_key_mac hmac key label data).getD (Vector.replicate 8 0)

def network_key_mac_verify (hmac : Hmac) (key : Option Key32) (label data : List UInt8)
    (mac : Tag8) : Bool :=
  network_key_mac hmac key label data == some mac

/-! ## Signing and verifying -/

inductive Kind
  | RREP
  | RERR
  | ACK
  | DELIVERY_RECEIPT
  | DATA
  | IDENTITY_ATTESTATION
deriving DecidableEq, Repr

def Kind.type : Kind → UInt8
  | .RREP => PKT_TYPE_RREP
  | .RERR => PKT_TYPE_RERR
  | .ACK => PKT_TYPE_ACK
  | .DELIVERY_RECEIPT => PKT_TYPE_DELIVERY_RECEIPT
  | .DATA => PKT_TYPE_DATA
  | .IDENTITY_ATTESTATION => PKT_TYPE_IDENTITY_ATTESTATION

def Kind.label : Kind → List UInt8
  | .RREP => "bramble-rrep-v2".toUTF8.toList
  | .RERR => "bramble-rerr-v2".toUTF8.toList
  | .ACK => "bramble-ack-v2".toUTF8.toList
  | .DELIVERY_RECEIPT => "bramble-receipt-v2".toUTF8.toList
  | .DATA => "bramble-data-v1".toUTF8.toList
  | .IDENTITY_ATTESTATION => "bramble-ident-relay-v1".toUTF8.toList

def rrep_build_auth_buf (r : Rrep) : List UInt8 :=
  be32 r.query_id ++ be32 r.src_addr ++ [r.hop_count, r.route_metric] ++ r.seq.toList

def rerr_build_auth_buf (r : Rerr) : List UInt8 :=
  be32 r.reporter_addr ++ be32 r.broken_dest ++ be32 r.broken_next_hop ++ r.seq.toList

def ack_build_auth_buf (a : Ack) : List UInt8 :=
  be32 a.src_addr ++ be32 a.ack_packet_id ++ a.seq.toList

def receipt_build_auth_buf (r : Receipt) : List UInt8 :=
  be32 r.src_addr ++ be32 r.orig_packet_id ++ r.seq.toList

def data_build_auth_buf (h : Header) (src_addr : UInt32) : List UInt8 :=
  bramble_build_aead_aad h src_addr

def ident_relay_build_auth_buf (a : Attestation) : List UInt8 :=
  be32 a.src_addr ++ a.x25519_pub.toList ++ a.ed25519_pub.toList ++ a.sig.toList ++
    be64 a.not_after ++ a.endorsement_sig.toList ++ a.seq.toList

section

variable (hmac : Hmac) (key : Option Key32)

def rrep_sign (r : Rrep) : Rrep :=
  { r with auth_hmac := network_key_tag hmac key Kind.RREP.label (rrep_build_auth_buf r) }

def rrep_verify (r : Rrep) : Bool :=
  network_key_mac_verify hmac key Kind.RREP.label (rrep_build_auth_buf r) r.auth_hmac

def rerr_sign (r : Rerr) : Rerr :=
  { r with auth_hmac := network_key_tag hmac key Kind.RERR.label (rerr_build_auth_buf r) }

def rerr_verify (r : Rerr) : Bool :=
  network_key_mac_verify hmac key Kind.RERR.label (rerr_build_auth_buf r) r.auth_hmac

def ack_sign (a : Ack) : Ack :=
  { a with auth_hmac := network_key_tag hmac key Kind.ACK.label (ack_build_auth_buf a) }

def ack_verify (a : Ack) : Bool :=
  network_key_mac_verify hmac key Kind.ACK.label (ack_build_auth_buf a) a.auth_hmac

def receipt_sign (r : Receipt) : Receipt :=
  { r with
    auth_hmac := network_key_tag hmac key Kind.DELIVERY_RECEIPT.label (receipt_build_auth_buf r) }

def receipt_verify (r : Receipt) : Bool :=
  network_key_mac_verify hmac key Kind.DELIVERY_RECEIPT.label (receipt_build_auth_buf r)
    r.auth_hmac

def data_auth_sign (h : Header) (src_addr : UInt32) : Tag8 :=
  network_key_tag hmac key Kind.DATA.label (data_build_auth_buf h src_addr)

def data_auth_verify (h : Header) (src_addr : UInt32) (mac : Tag8) : Bool :=
  network_key_mac_verify hmac key Kind.DATA.label (data_build_auth_buf h src_addr) mac

def ident_relay_sign (a : Attestation) : Attestation :=
  { a with
    auth_hmac :=
      network_key_tag hmac key Kind.IDENTITY_ATTESTATION.label (ident_relay_build_auth_buf a) }

def ident_relay_verify (a : Attestation) : Bool :=
  network_key_mac_verify hmac key Kind.IDENTITY_ATTESTATION.label (ident_relay_build_auth_buf a)
    a.auth_hmac

end

/-! ## Frames of any kind -/

inductive Frame
  | rrep (r : Rrep)
  | rerr (r : Rerr)
  | ack (a : Ack)
  | receipt (r : Receipt)
  | data (d : Data)
  | attestation (a : Attestation)
deriving DecidableEq

namespace Frame

def kind : Frame → Kind
  | rrep _ => .RREP
  | rerr _ => .RERR
  | ack _ => .ACK
  | receipt _ => .DELIVERY_RECEIPT
  | data _ => .DATA
  | attestation _ => .IDENTITY_ATTESTATION

def header : Frame → Header
  | rrep r => r.header
  | rerr r => r.header
  | ack a => a.header
  | receipt r => r.header
  | data d => d.header
  | attestation a => a.header

def auth_hmac : Frame → Tag8
  | rrep r => r.auth_hmac
  | rerr r => r.auth_hmac
  | ack a => a.auth_hmac
  | receipt r => r.auth_hmac
  | data d => d.auth_hmac
  | attestation a => a.auth_hmac

def auth_buf : Frame → List UInt8
  | rrep r => rrep_build_auth_buf r
  | rerr r => rerr_build_auth_buf r
  | ack a => ack_build_auth_buf a
  | receipt r => receipt_build_auth_buf r
  | data d => data_build_auth_buf d.header d.src_addr
  | attestation a => ident_relay_build_auth_buf a

def mac_input (f : Frame) : List UInt8 := f.kind.label ++ f.auth_buf

def sign (hmac : Hmac) (key : Option Key32) : Frame → Frame
  | rrep r => rrep (rrep_sign hmac key r)
  | rerr r => rerr (rerr_sign hmac key r)
  | ack a => ack (ack_sign hmac key a)
  | receipt r => receipt (receipt_sign hmac key r)
  | data d => data { d with auth_hmac := data_auth_sign hmac key d.header d.src_addr }
  | attestation a => attestation (ident_relay_sign hmac key a)

def verify (hmac : Hmac) (key : Option Key32) : Frame → Bool
  | rrep r => rrep_verify hmac key r
  | rerr r => rerr_verify hmac key r
  | ack a => ack_verify hmac key a
  | receipt r => receipt_verify hmac key r
  | data d => data_auth_verify hmac key d.header d.src_addr d.auth_hmac
  | attestation a => ident_relay_verify hmac key a

def Built (f : Frame) : Prop :=
  f.header.version = BRAMBLE_VERSION ∧ f.header.type = f.kind.type

instance (f : Frame) : Decidable f.Built := inferInstanceAs (Decidable (_ ∧ _))

def serialize : Frame → Option (List UInt8)
  | rrep r => bramble_rrep_serialize r RREP_SIZE
  | rerr r => bramble_rerr_serialize r RERR_SIZE
  | ack a => bramble_ack_serialize a ACK_MAX_SIZE
  | receipt r => bramble_delivery_receipt_serialize r DELIVERY_RECEIPT_MAX_SIZE
  | data d => some d.bytes
  | attestation a => bramble_identity_attestation_serialize a IDENTITY_ATTESTATION_SIZE

def tidy : Frame → Frame
  | ack a => ack a.tidy
  | receipt r => receipt r.tidy
  | f => f

end Frame

def Kind.of_type (type : UInt8) : Option Kind :=
  if type = PKT_TYPE_ACK then some .ACK
  else if type = PKT_TYPE_DELIVERY_RECEIPT then some .DELIVERY_RECEIPT
  else if type = PKT_TYPE_RREP then some .RREP
  else if type = PKT_TYPE_RERR then some .RERR
  else if type = PKT_TYPE_DATA then some .DATA
  else if type = PKT_TYPE_IDENTITY_ATTESTATION then some .IDENTITY_ATTESTATION
  else none

def Kind.read (bytes : List UInt8) : Kind → Option Frame
  | .RREP => (bramble_rrep_deserialize bytes).map .rrep
  | .RERR => (bramble_rerr_deserialize bytes).map .rerr
  | .ACK => (bramble_ack_deserialize bytes).map .ack
  | .DELIVERY_RECEIPT => (bramble_delivery_receipt_deserialize bytes).map .receipt
  | .DATA => (data_read bytes).map .data
  | .IDENTITY_ATTESTATION => (bramble_identity_attestation_deserialize bytes).map .attestation

def parse (bytes : List UInt8) : Option Frame :=
  match bramble_header_deserialize bytes with
  | none => none
  | some h =>
    if h.version ≠ BRAMBLE_VERSION then none
    else (Kind.of_type h.type).bind (Kind.read bytes)

/-! ## What a node does with a frame -/

structure Hop where
  address : UInt32
  s_flood_transport : Bool
  s_routes : RoutingTable
  s_pending_disc : List PendingDiscovery
  s_reverse_routes : List ReverseRoute
  s_dedup_hit : Bool
  flood_dup : Bool
  replay_ok : Bool
  budget_permits : Bool
  s_mailbox_enabled : Bool
  link_metric : UInt8
  now_ms : UInt32

structure Effect where
  consumed : Bool
  sent : Option (List UInt8)
deriving DecidableEq

def Effect.drop : Effect := ⟨false, none⟩

def channel_flood_decide (hop_limit : UInt8) (is_duplicate budget_permits : Bool) :
    Option UInt8 :=
  if hop_limit ≤ 1 ∨ is_duplicate ∨ !budget_permits then none else some (hop_limit - 1)

def rrep_forward (incoming : Rrep) (next_hop_back my_addr : UInt32) : Rrep :=
  { incoming with
    next_hop := my_addr
    header := { incoming.header with dest_addr := next_hop_back } }

def routed (r : Rrep) : Discovery.Rrep :=
  ⟨r.header.dest_addr, r.header.packet_id, r.query_id, r.src_addr, r.next_hop, r.hop_count,
    r.route_metric, r.auth_hmac, bramble_seq48_unpack r.seq⟩

def path_append (path : RelayPath) (hop_count : UInt8) (me : UInt32) : RelayPath :=
  if hop_count < ACK_MAX_HOPS then path.setIfInBounds hop_count.toNat me else path

def hop_append (hop_count : UInt8) : UInt8 :=
  if hop_count < ACK_MAX_HOPS then hop_count + 1 else hop_count

def ack_relayed (a : Ack) (hop_limit : UInt8) (me : UInt32) : Ack :=
  { a with
    relay_path := path_append a.relay_path a.hop_count me
    hop_count := hop_append a.hop_count
    header := { a.header with hop_limit := hop_limit } }

def receipt_relayed (r : Receipt) (hop_limit : UInt8) (me : UInt32) : Receipt :=
  { r with
    relay_path := path_append r.relay_path r.hop_count me
    hop_count := hop_append r.hop_count
    header := { r.header with hop_limit := hop_limit } }

def usable_route (h : Hop) (dest_addr : UInt32) : Bool :=
  match route_lookup h.s_routes dest_addr with
  | none => false
  | some route => route.state != .BROKEN

def forward_ack (h : Hop) (a : Ack) : Option (List UInt8) :=
  if a.header.hop_limit ≤ 1 then none
  else if !usable_route h a.header.dest_addr then none
  else bramble_ack_serialize (ack_relayed a (a.header.hop_limit - 1) h.address) ACK_MAX_SIZE

def flood_ack (h : Hop) (a : Ack) : Option (List UInt8) :=
  (channel_flood_decide a.header.hop_limit (a.src_addr == h.address) h.budget_permits).bind
    fun hop_limit => bramble_ack_serialize (ack_relayed a hop_limit h.address) ACK_MAX_SIZE

def forward_delivery_receipt (h : Hop) (r : Receipt) : Option (List UInt8) :=
  if r.header.hop_limit ≤ 1 then none
  else if !usable_route h r.header.dest_addr then none
  else bramble_delivery_receipt_serialize
    (receipt_relayed r (r.header.hop_limit - 1) h.address) DELIVERY_RECEIPT_MAX_SIZE

def relay_buf (bytes : List UInt8) (header : Header) (hop_limit : UInt8) (me : UInt32) :
    List UInt8 :=
  rewrite_prev_hop (rewrite_header bytes { header with hop_limit := hop_limit }) me

def forward_data_packet (h : Hop) (bytes : List UInt8) (header : Header) : Option (List UInt8) :=
  let (_, hop_limit, fwd) := forward_data h.s_routes header.dest_addr header.hop_limit h.now_ms
  if fwd.should_send then some (relay_buf bytes header hop_limit h.address)
  else if fwd.route_error ∧ h.s_mailbox_enabled ∧ bytes.length ≤ 200 then
    some (rewrite_prev_hop bytes h.address)
  else none

def handle_data (h : Hop) (bytes : List UInt8) (d : Data) : Effect :=
  let broadcast := d.header.dest_addr = BROADCAST_ADDR
  let own := d.header.dest_addr = h.address
  if bytes.length < BRAMBLE_DATA_NONCE_OFFSET + 12 + 16 + 1 ∨ d.src_addr = h.address then .drop
  else
    { consumed := broadcast ∨ own
      sent :=
        if broadcast ∨ h.s_flood_transport ∧ ¬ own then
          (channel_flood_decide d.header.hop_limit h.flood_dup h.budget_permits).map
            fun hop_limit => relay_buf bytes d.header hop_limit h.address
        else none }

section

variable (hmac : Hmac) (key : Option Key32)

def handle_rrep (h : Hop) (r : Rrep) : Effect :=
  if !rrep_verify hmac key r || !h.replay_ok then .drop
  else
    match (rrep_rx_decide (routed r) h.link_metric h.s_pending_disc h.s_reverse_routes).action with
    | .DELIVER _ => ⟨true, none⟩
    | .FORWARD forward_to =>
      ⟨false, if key.isSome then
        bramble_rrep_serialize (rrep_forward r forward_to h.address) RREP_SIZE else none⟩
    | .DROP => .drop

def handle_rerr (h : Hop) (r : Rerr) : Effect :=
  if !rerr_verify hmac key r || !h.replay_ok then .drop else ⟨true, none⟩

def handle_ack (h : Hop) (a : Ack) : Effect :=
  if !ack_verify hmac key a || !h.replay_ok then .drop
  else if a.header.dest_addr ≠ h.address then
    ⟨false, if h.s_flood_transport then flood_ack h a else forward_ack h a⟩
  else ⟨true, none⟩

def handle_delivery_receipt (h : Hop) (r : Receipt) : Effect :=
  if !receipt_verify hmac key r || !h.replay_ok then .drop
  else if r.header.dest_addr ≠ h.address then ⟨false, forward_delivery_receipt h r⟩
  else ⟨true, none⟩

def process_data (h : Hop) (bytes : List UInt8) (d : Data) : Effect :=
  if !data_auth_verify hmac key d.header d.src_addr d.auth_hmac then .drop
  else
    match (Dispatch.data_rx_decide d.header.dest_addr h.address d.src_addr d.prev_hop
      d.header.hop_limit h.link_metric).action with
    | .DELIVER => handle_data h bytes d
    | .FORWARD =>
      if h.s_flood_transport then handle_data h bytes d
      else ⟨false, forward_data_packet h bytes d.header⟩

def handle_identity_attestation (h : Hop) (bytes : List UInt8) (a : Attestation) : Effect :=
  if !ident_relay_verify hmac key a || !h.replay_ok then .drop
  else
    ⟨true, (channel_flood_decide a.header.hop_limit (h.flood_dup || a.src_addr == h.address)
      h.budget_permits).map fun hop_limit =>
        rewrite_header bytes { a.header with hop_limit := hop_limit }⟩

def receive (h : Hop) (bytes : List UInt8) : Effect :=
  if h.s_dedup_hit then .drop
  else
    match parse bytes with
    | none => .drop
    | some (.rrep r) => handle_rrep hmac key h r
    | some (.rerr r) => handle_rerr hmac key h r
    | some (.ack a) => handle_ack hmac key h a
    | some (.receipt r) => handle_delivery_receipt hmac key h r
    | some (.data d) => process_data hmac key h bytes d
    | some (.attestation a) => handle_identity_attestation hmac key h bytes a

def relay (bytes : List UInt8) (h : Hop) : Option (List UInt8) := (receive hmac key h bytes).sent

end

/-! ## The kinds are kept apart -/

def Kind.auth_len : Kind → ℕ
  | .RREP => 16
  | .RERR => 18
  | .ACK => 14
  | .DELIVERY_RECEIPT => 14
  | .DATA => 16
  | .IDENTITY_ATTESTATION => 210

lemma Frame.length_auth_buf (f : Frame) : f.auth_buf.length = f.kind.auth_len := by
  cases f with
  | data d => rfl
  | _ =>
    simp [Frame.auth_buf, Frame.kind, Kind.auth_len, rrep_build_auth_buf, rerr_build_auth_buf,
      ack_build_auth_buf, receipt_build_auth_buf, ident_relay_build_auth_buf]

variable {k : Kind} {f g : Frame} {bytes out : List UInt8} {h : Hop}

lemma Kind.label_ne {k' : Kind} (h : k ≠ k')
    (hlen : k.label.length + k.auth_len = k'.label.length + k'.auth_len) :
    k.label.length = k'.label.length ∧ k.label ≠ k'.label := by
  revert h hlen
  cases k <;> cases k' <;> decide +kernel

lemma Frame.mac_input_ne (h : f.kind ≠ g.kind) : f.mac_input ≠ g.mac_input := by
  intro heq
  have hlen := congrArg List.length heq
  simp only [Frame.mac_input, List.length_append, Frame.length_auth_buf] at hlen
  obtain ⟨hlabel, hne⟩ := Kind.label_ne h hlen
  exact hne (List.append_inj_left heq hlabel)

/-! ## A signed frame verifies -/

lemma Kind.label_fits (k : Kind) : k.label.length ≤ 32 ∧ k.auth_len ≤ 255 := by
  cases k <;> decide +kernel

lemma network_key_mac_of_fits {label data : List UInt8} (hmac : Hmac) (k : Key32)
    (hlabel : label.length ≤ 32) (hdata : data.length ≤ 255) :
    network_key_mac hmac (some k) label data =
      some (get_bytes 8 (hmac k (label ++ data)).toList) := by
  rw [network_key_mac, if_neg (by omega), map_some]

lemma Frame.verify_eq (hmac : Hmac) (key : Option Key32) (f : Frame) :
    f.verify hmac key = network_key_mac_verify hmac key f.kind.label f.auth_buf f.auth_hmac := by
  cases f <;> rfl

lemma Frame.verify_iff (hmac : Hmac) (k : Key32) (f : Frame) :
    f.verify hmac (some k) ↔ f.auth_hmac = get_bytes 8 (hmac k f.mac_input).toList := by
  obtain ⟨hlabel, hlen⟩ := f.kind.label_fits
  rw [f.verify_eq, network_key_mac_verify, network_key_mac_of_fits hmac k hlabel
    (f.length_auth_buf.trans_le hlen), beq_iff_eq, some.injEq, Frame.mac_input]
  exact eq_comm

lemma Frame.sign_tag (hmac : Hmac) (k : Key32) (f : Frame) :
    (f.sign hmac (some k)).auth_hmac = get_bytes 8 (hmac k f.mac_input).toList := by
  obtain ⟨hlabel, hlen⟩ := f.kind.label_fits
  have htag : (f.sign hmac (some k)).auth_hmac =
      network_key_tag hmac (some k) f.kind.label f.auth_buf := by
    cases f <;> rfl
  rw [htag, network_key_tag, network_key_mac_of_fits hmac k hlabel
    (f.length_auth_buf.trans_le hlen), getD_some, Frame.mac_input]

/-! ## Reading what was written -/

lemma Kind.of_type_type (k : Kind) : Kind.of_type k.type = some k := by
  cases k <;> decide

lemma Frame.read_serialize (h : f.serialize = some bytes) :
    bramble_header_deserialize bytes = some f.header ∧ f.kind.read bytes = some f.tidy := by
  cases f with
  | rrep r =>
    obtain rfl : r.bytes = bytes := some.inj h
    refine ⟨?_, by rw [Frame.kind, Kind.read, rrep_deserialize_bytes]; rfl⟩
    simp only [Rrep.bytes, List.append_assoc, header_deserialize_serialize, Frame.header]
  | rerr r =>
    obtain rfl : r.bytes = bytes := some.inj h
    refine ⟨?_, by rw [Frame.kind, Kind.read, rerr_deserialize_bytes]; rfl⟩
    simp only [Rerr.bytes, List.append_assoc, header_deserialize_serialize, Frame.header]
  | ack a =>
    obtain ⟨-, hbytes⟩ := ite_none_left_eq_some.1 h
    cases hbytes
    refine ⟨?_, by rw [Frame.kind, Kind.read, ack_deserialize_bytes]; rfl⟩
    simp only [Ack.bytes, List.append_assoc, header_deserialize_serialize, Frame.header]
  | receipt r =>
    obtain ⟨-, hbytes⟩ := ite_none_left_eq_some.1 h
    obtain ⟨hle, hbytes⟩ := ite_none_left_eq_some.1 hbytes
    cases hbytes
    refine ⟨?_, by
      rw [Frame.kind, Kind.read, receipt_deserialize_bytes (UInt8.not_lt.1 hle)]; rfl⟩
    simp only [Receipt.bytes, List.append_assoc, header_deserialize_serialize, Frame.header]
  | data d =>
    obtain rfl : d.bytes = bytes := some.inj h
    refine ⟨?_, by rw [Frame.kind, Kind.read, data_read_bytes]; rfl⟩
    simp only [Data.bytes, List.append_assoc, header_deserialize_serialize, Frame.header]
  | attestation a =>
    obtain rfl : a.bytes = bytes := some.inj h
    refine ⟨?_, by rw [Frame.kind, Kind.read, attestation_deserialize_bytes]; rfl⟩
    simp only [Attestation.bytes, List.append_assoc, header_deserialize_serialize, Frame.header]

lemma parse_serialize (hb : f.Built) (h : f.serialize = some bytes) :
    parse bytes = some f.tidy := by
  obtain ⟨hheader, hread⟩ := f.read_serialize h
  rw [parse, hheader]
  dsimp only
  rw [if_neg (not_not_intro hb.1), hb.2, Kind.of_type_type, bind_some, hread]

lemma Kind.of_type_eq {type : UInt8} (h : Kind.of_type type = some k) :
    type = k.type := by
  unfold Kind.of_type at h
  repeat'
    split at h
    · cases h
      assumption
  cases h

lemma Kind.read_spec (h : k.read bytes = some g) :
    g.kind = k ∧ bramble_header_deserialize bytes = some g.header := by
  cases k with
  | DELIVERY_RECEIPT =>
    obtain ⟨r, hr, rfl⟩ := map_eq_some_iff.1 h
    obtain ⟨-, hr⟩ := ite_none_left_eq_some.1 hr
    obtain ⟨-, hr⟩ := ite_none_left_eq_some.1 hr
    obtain ⟨-, hr⟩ := ite_none_left_eq_some.1 hr
    obtain ⟨header, hheader, rfl⟩ := map_eq_some_iff.1 hr
    exact ⟨rfl, hheader⟩
  | _ =>
    obtain ⟨r, hr, rfl⟩ := map_eq_some_iff.1 h
    obtain ⟨-, hr⟩ := ite_none_left_eq_some.1 hr
    obtain ⟨header, hheader, rfl⟩ := map_eq_some_iff.1 hr
    exact ⟨rfl, hheader⟩

lemma parse_spec (h : parse bytes = some g) :
    bramble_header_deserialize bytes = some g.header ∧ g.Built ∧ g.kind.read bytes = some g := by
  rw [parse] at h
  rcases hheader : bramble_header_deserialize bytes with _ | header
  · rw [hheader] at h
    cases h
  · rw [hheader] at h
    obtain ⟨hversion, h⟩ := ite_none_left_eq_some.1 h
    obtain ⟨k, hk, hread⟩ := bind_eq_some_iff.1 h
    obtain ⟨rfl, hg⟩ := Kind.read_spec hread
    obtain rfl : header = g.header := some.inj (hheader.symm.trans hg)
    exact ⟨rfl, ⟨not_not.1 hversion, Kind.of_type_eq hk⟩, hread⟩

/-! ## What relays leave alone -/

structure Carries (f g : Frame) : Prop where
  kind : g.kind = f.kind
  covered : g.auth_buf = f.auth_buf
  tag : g.auth_hmac = f.auth_hmac
  built : g.Built

lemma Carries.trans {h : Frame} (hfg : Carries f g) (hgh : Carries g h) : Carries f h where
  kind := hgh.kind.trans hfg.kind
  covered := hgh.covered.trans hfg.covered
  tag := hgh.tag.trans hfg.tag
  built := hgh.built

lemma Carries.mac_input (h : Carries f g) : g.mac_input = f.mac_input := by
  rw [Frame.mac_input, Frame.mac_input, h.kind, h.covered]

lemma Frame.carries_tidy (hb : f.Built) : Carries f f.tidy := by
  cases f <;> exact ⟨rfl, rfl, rfl, hb⟩

def OnAir (f : Frame) (bytes : List UInt8) : Prop :=
  ∃ g, g.serialize = some bytes ∧ Carries f g

lemma ack_sent {a : Ack}
    (hout : (if h.s_flood_transport then flood_ack h a else forward_ack h a) = some out) :
    ∃ hop_limit, (Frame.ack (ack_relayed a hop_limit h.address)).serialize = some out := by
  split at hout
  case isTrue =>
    obtain ⟨hop_limit, -, hser⟩ := bind_eq_some_iff.1 hout
    exact ⟨hop_limit, hser⟩
  case isFalse =>
    obtain ⟨-, hout⟩ := ite_none_left_eq_some.1 hout
    obtain ⟨-, hser⟩ := ite_none_left_eq_some.1 hout
    exact ⟨_, hser⟩

def data_relayed (d : Data) (hop_limit : UInt8) (me : UInt32) : Data :=
  { d with header := { d.header with hop_limit := hop_limit }, prev_hop := me }

lemma relay_buf_bytes (d : Data) (hop_limit : UInt8) (me : UInt32) :
    relay_buf d.bytes d.header hop_limit me = (data_relayed d hop_limit me).bytes := by
  rw [relay_buf, rewrite_header_data, rewrite_prev_hop_data]
  rfl

lemma data_forwarded {d : Data} (hout : forward_data_packet h d.bytes d.header = some out) :
    ∃ hop_limit, out = (data_relayed d hop_limit h.address).bytes := by
  rw [forward_data_packet] at hout
  dsimp only at hout
  split at hout
  case isTrue =>
    exact ⟨_, (some.inj hout).symm.trans (relay_buf_bytes d _ _)⟩
  case isFalse =>
    obtain ⟨-, hout⟩ := ite_none_right_eq_some.1 hout
    exact ⟨d.header.hop_limit, (some.inj hout).symm.trans (rewrite_prev_hop_data d _)⟩

lemma data_flooded {d : Data} (hout : (handle_data h d.bytes d).sent = some out) :
    ∃ hop_limit, out = (data_relayed d hop_limit h.address).bytes := by
  rw [handle_data] at hout
  split at hout
  case isTrue => cases hout
  case isFalse =>
    obtain ⟨-, hout⟩ := ite_none_right_eq_some.1 hout
    obtain ⟨hop_limit, -, rfl⟩ := map_eq_some_iff.1 hout
    exact ⟨hop_limit, relay_buf_bytes d _ _⟩

section

variable {hmac : Hmac} {key : Option Key32} {h : Hop} {out : List UInt8}

lemma handle_rrep_sent {r : Rrep} (hout : (handle_rrep hmac key h r).sent = some out) :
    ∃ next_hop_back,
      (Frame.rrep (rrep_forward r next_hop_back h.address)).serialize = some out := by
  rw [handle_rrep] at hout
  split at hout
  case isTrue => cases hout
  case isFalse =>
    generalize (rrep_rx_decide _ _ _ _).action = action at hout
    cases action with
    | DROP => cases hout
    | DELIVER => cases hout
    | FORWARD forward_to => exact ⟨forward_to, (ite_none_right_eq_some.1 hout).2⟩

lemma handle_ack_sent {a : Ack} (hout : (handle_ack hmac key h a).sent = some out) :
    a.header.dest_addr ≠ h.address ∧
      ∃ hop_limit, (Frame.ack (ack_relayed a hop_limit h.address)).serialize = some out := by
  rw [handle_ack] at hout
  split at hout
  case isTrue => cases hout
  case isFalse =>
    split at hout
    case isTrue hne => exact ⟨hne, ack_sent hout⟩
    case isFalse => cases hout

lemma handle_ack_consumed {a : Ack} (hc : (handle_ack hmac key h a).consumed) :
    a.header.dest_addr = h.address := by
  rw [handle_ack] at hc
  split at hc
  case isTrue => cases hc
  case isFalse =>
    split at hc
    case isTrue => cases hc
    case isFalse heq => exact not_not.1 heq

lemma handle_receipt_consumed {r : Receipt}
    (hc : (handle_delivery_receipt hmac key h r).consumed) :
    r.header.dest_addr = h.address := by
  rw [handle_delivery_receipt] at hc
  split at hc
  case isTrue => cases hc
  case isFalse =>
    split at hc
    case isTrue => cases hc
    case isFalse heq => exact not_not.1 heq

lemma handle_receipt_sent {r : Receipt}
    (hout : (handle_delivery_receipt hmac key h r).sent = some out) :
    r.header.dest_addr ≠ h.address ∧
      ∃ hop_limit, (Frame.receipt (receipt_relayed r hop_limit h.address)).serialize =
        some out := by
  rw [handle_delivery_receipt] at hout
  split at hout
  case isTrue => cases hout
  case isFalse =>
    split at hout
    case isTrue hne =>
      obtain ⟨-, hout⟩ := ite_none_left_eq_some.1 hout
      obtain ⟨-, hser⟩ := ite_none_left_eq_some.1 hout
      exact ⟨hne, _, hser⟩
    case isFalse => cases hout

lemma process_data_sent {d : Data} (hout : (process_data hmac key h d.bytes d).sent = some out) :
    ∃ hop_limit, out = (data_relayed d hop_limit h.address).bytes := by
  rw [process_data] at hout
  split at hout
  case isTrue => cases hout
  case isFalse =>
    generalize (Dispatch.data_rx_decide _ _ _ _ _ _).action = action at hout
    cases action with
    | DELIVER => exact data_flooded hout
    | FORWARD =>
      dsimp only at hout
      split at hout
      case isTrue => exact data_flooded hout
      case isFalse => exact data_forwarded hout

lemma handle_attestation_sent {a : Attestation}
    (hout : (handle_identity_attestation hmac key h a.bytes a).sent = some out) :
    ∃ hop_limit, out = { a with header := { a.header with hop_limit := hop_limit } }.bytes := by
  rw [handle_identity_attestation] at hout
  split at hout
  case isTrue => cases hout
  case isFalse =>
    obtain ⟨hop_limit, -, rfl⟩ := map_eq_some_iff.1 hout
    exact ⟨hop_limit, by simp [rewrite_header, HEADER_SIZE, Attestation.bytes]⟩

/-- **One relay step.** Whatever a node makes of a frame, the bytes that it sends are those of
a frame of the same kind with the same tag over the same bytes. -/
theorem relay_carries {g : Frame} {bytes : List UInt8} (hb : g.Built)
    (hg : g.serialize = some bytes) (hout : relay hmac key bytes h = some out) :
    ∃ g', g'.serialize = some out ∧ Carries g g' := by
  rw [relay, receive, parse_serialize hb hg] at hout
  split at hout
  case isTrue => cases hout
  case isFalse =>
    cases g with
    | rrep r =>
      obtain ⟨_, hser⟩ := handle_rrep_sent hout
      exact ⟨_, hser, rfl, rfl, rfl, hb⟩
    | rerr r =>
      simp only [Frame.tidy, handle_rerr] at hout
      split at hout <;> cases hout
    | ack a =>
      obtain ⟨-, _, hser⟩ := handle_ack_sent hout
      exact ⟨_, hser, rfl, rfl, rfl, hb⟩
    | receipt r =>
      obtain ⟨-, _, hser⟩ := handle_receipt_sent hout
      exact ⟨_, hser, rfl, rfl, rfl, hb⟩
    | data d =>
      obtain rfl : d.bytes = bytes := some.inj hg
      obtain ⟨hop_limit, rfl⟩ := process_data_sent hout
      exact ⟨.data (data_relayed d hop_limit h.address), rfl, rfl, rfl, rfl, hb⟩
    | attestation a =>
      obtain rfl : a.bytes = bytes := some.inj hg
      obtain ⟨hop_limit, rfl⟩ := handle_attestation_sent hout
      exact ⟨.attestation { a with header := { a.header with hop_limit := hop_limit } }, rfl, rfl,
        rfl, rfl, hb⟩

lemma OnAir.relay {f : Frame} {bytes : List UInt8} (hf : OnAir f bytes)
    (hout : RelayAuth.relay hmac key bytes h = some out) : OnAir f out := by
  obtain ⟨g, hg, hfg⟩ := hf
  obtain ⟨g', hg', hgg'⟩ := relay_carries hfg.built hg hout
  exact ⟨g', hg', hfg.trans hgg'⟩

lemma OnAir.relays {f : Frame} {bytes : List UInt8} (hf : OnAir f bytes) (hops : List Hop)
    (hout : hops.foldlM (RelayAuth.relay hmac key) bytes = some out) : OnAir f out := by
  exact Run.foldlM_invariant (fun _ _ _ hf hnext => hf.relay hnext) hf hout

end

/-! ## Relay-stable authentication -/

lemma Frame.carries_sign (hb : f.Built) (hmac : Hmac) (key : Option Key32) :
    (f.sign hmac key).Built ∧ (f.sign hmac key).kind = f.kind ∧
      (f.sign hmac key).mac_input = f.mac_input := by
  cases f <;> exact ⟨hb, rfl, rfl⟩

lemma Carries.verify {hmac : Hmac} {k : Key32} (hb : f.Built)
    (hfg : Carries (f.sign hmac (some k)) g) : g.verify hmac (some k) := by
  obtain ⟨-, -, hinput⟩ := f.carries_sign hb hmac (some k)
  rw [Frame.verify_iff, hfg.mac_input, hfg.tag, Frame.sign_tag, hinput]

/-- **Relay-stable authentication.** A signed frame verifies after any number of relay steps,
parsed and serialized again at each; and two frames of different kinds never feed the same bytes
to the MAC. -/
theorem relayed_frames_verify (hmac : Hmac) (k : Key32) :
    (∀ f : Frame, f.Built → ∀ bytes, (f.sign hmac (some k)).serialize = some bytes →
      ∀ (hops : List Hop) (out : List UInt8),
        hops.foldlM (relay hmac (some k)) bytes = some out →
          ∃ g, parse out = some g ∧ g.kind = f.kind ∧ g.verify hmac (some k) = true) ∧
      ∀ f g : Frame, f.kind ≠ g.kind → f.mac_input ≠ g.mac_input := by
  refine ⟨?_, fun f g h => Frame.mac_input_ne h⟩
  intro f hb bytes hbytes hops out hout
  obtain ⟨hsb, hkind, -⟩ := f.carries_sign hb hmac (some k)
  have hstart : OnAir (f.sign hmac (some k)) bytes := ⟨_, hbytes, rfl, rfl, rfl, hsb⟩
  obtain ⟨g, hg, hfg⟩ := hstart.relays hops hout
  have hcar := hfg.trans (Frame.carries_tidy hfg.built)
  exact ⟨g.tidy, parse_serialize hfg.built hg, hcar.kind.trans hkind, hcar.verify hb⟩

def flooding (address : UInt32) : Hop where
  address := address
  s_flood_transport := true
  s_routes := []
  s_pending_disc := []
  s_reverse_routes := []
  s_dedup_hit := false
  flood_dup := false
  replay_ok := true
  budget_permits := true
  s_mailbox_enabled := false
  link_metric := 255
  now_ms := 1000

def sum_hmac : Hmac := fun k data =>
  Vector.replicate 32 (data.foldl (fun acc b => acc * 31 + b) (k.toList.headD 0))

def ack_of_nine : Ack where
  header := ⟨BRAMBLE_VERSION, PKT_TYPE_ACK, 0, 8, 1, 77⟩
  src_addr := 5
  ack_packet_id := 9
  ack_flags := 0
  rssi_at_dest := -60
  hop_count := 1
  auth_hmac := Vector.replicate 8 0
  seq := Vector.replicate 6 3
  relay_path := (Vector.replicate 8 0).setIfInBounds 0 5

def ack_of_nine_bytes : List UInt8 := (ack_sign sum_hmac (some Key32.zero) ack_of_nine).bytes

theorem relayed_frames_verify_two_hops :
    ∃ out, [flooding 3, flooding 4].foldlM (relay sum_hmac (some Key32.zero)) ack_of_nine_bytes =
        some out ∧
      ∃ g, parse out = some g ∧ g.kind = .ACK ∧ g.verify sum_hmac (some Key32.zero) = true := by
  obtain ⟨out, hout⟩ : ∃ out, [flooding 3, flooding 4].foldlM
      (relay sum_hmac (some Key32.zero)) ack_of_nine_bytes = some out :=
    isSome_iff_exists.1 (by decide +kernel)
  exact ⟨out, hout, (relayed_frames_verify sum_hmac Key32.zero).1 (.ack ack_of_nine) (by decide)
    ack_of_nine_bytes (by decide +kernel) _ out hout⟩

end BrambleMesh.RelayAuth
