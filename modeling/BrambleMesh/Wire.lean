/-
Frames on the air: the codecs of components/packet/packet.c for the frames that carry a
network-key MAC, and the envelope of DATA frames. A relay path is read back as far as it is in
use, the rest of the array being zeroed.
-/
import BrambleMesh.DmRatchet

namespace BrambleMesh.Wire

open Bytes
open DmRatchet (Header)

/-! ## The header -/

abbrev BRAMBLE_VERSION : UInt8 := 5
abbrev HEADER_SIZE : ℕ := 12

abbrev PKT_TYPE_ACK : UInt8 := 0x01
abbrev PKT_TYPE_RREP : UInt8 := 0x03
abbrev PKT_TYPE_RERR : UInt8 := 0x04
abbrev PKT_TYPE_DELIVERY_RECEIPT : UInt8 := 0x07
abbrev PKT_TYPE_DATA : UInt8 := 0x0A
abbrev PKT_TYPE_IDENTITY_ATTESTATION : UInt8 := 0x15

def bramble_header_serialize (h : Header) : List UInt8 :=
  [h.version, h.type, h.flags, h.hop_limit] ++ be32 h.dest_addr ++ be32 h.packet_id

def bramble_header_deserialize (buf : List UInt8) : Option Header :=
  if buf.length < HEADER_SIZE then none
  else some ⟨get_byte buf, get_byte (buf.drop 1), get_byte (buf.drop 2), get_byte (buf.drop 3),
    get_be32 (buf.drop 4), get_be32 (buf.drop 8)⟩

@[simp]
lemma length_header (h : Header) : (bramble_header_serialize h).length = HEADER_SIZE := by
  simp [bramble_header_serialize]

@[simp]
lemma header_deserialize_serialize (h : Header) (rest : List UInt8) :
    bramble_header_deserialize (bramble_header_serialize h ++ rest) = some h := by
  have hdest := get_be32_be32 h.dest_addr (be32 h.packet_id ++ rest)
  have hid := get_be32_be32 h.packet_id rest
  exact congrArg some (congr (congrArg _ hdest) hid)

def bramble_seq48_unpack (seq : Vector UInt8 6) : UInt64 := get_be64 ([0, 0] ++ seq.toList)

/-! ## Route replies -/

abbrev RREP_SIZE : ℕ := 40

structure Rrep where
  header : Header
  query_id : UInt32
  src_addr : UInt32
  next_hop : UInt32
  hop_count : UInt8
  route_metric : UInt8
  auth_hmac : Vector UInt8 8
  seq : Vector UInt8 6
deriving DecidableEq

def Rrep.bytes (p : Rrep) : List UInt8 :=
  bramble_header_serialize p.header ++ be32 p.query_id ++ be32 p.src_addr ++ be32 p.next_hop ++
    [p.hop_count] ++ [p.route_metric] ++ p.auth_hmac.toList ++ p.seq.toList

def bramble_rrep_serialize (p : Rrep) (len : ℕ) : Option (List UInt8) :=
  if len < RREP_SIZE then none else some p.bytes

def bramble_rrep_deserialize (buf : List UInt8) : Option Rrep :=
  if buf.length < RREP_SIZE then none
  else (bramble_header_deserialize buf).map fun header =>
    { header := header
      query_id := get_be32 (buf.drop HEADER_SIZE)
      src_addr := get_be32 (buf.drop (HEADER_SIZE + 4))
      next_hop := get_be32 (buf.drop (HEADER_SIZE + 8))
      hop_count := get_byte (buf.drop (HEADER_SIZE + 12))
      route_metric := get_byte (buf.drop (HEADER_SIZE + 13))
      auth_hmac := get_bytes 8 (buf.drop (HEADER_SIZE + 14))
      seq := get_bytes 6 (buf.drop (HEADER_SIZE + 22)) }

lemma rrep_deserialize_bytes (p : Rrep) : bramble_rrep_deserialize p.bytes = some p := by
  have hlen : ¬ p.bytes.length < RREP_SIZE := by
    simp [Rrep.bytes]
  rw [bramble_rrep_deserialize, if_neg hlen]
  simp [Rrep.bytes, HEADER_SIZE]

/-! ## Route errors -/

abbrev RERR_SIZE : ℕ := 38

structure Rerr where
  header : Header
  reporter_addr : UInt32
  broken_dest : UInt32
  broken_next_hop : UInt32
  auth_hmac : Vector UInt8 8
  seq : Vector UInt8 6
deriving DecidableEq

def Rerr.bytes (p : Rerr) : List UInt8 :=
  bramble_header_serialize p.header ++ be32 p.reporter_addr ++ be32 p.broken_dest ++
    be32 p.broken_next_hop ++ p.auth_hmac.toList ++ p.seq.toList

def bramble_rerr_serialize (p : Rerr) (len : ℕ) : Option (List UInt8) :=
  if len < RERR_SIZE then none else some p.bytes

def bramble_rerr_deserialize (buf : List UInt8) : Option Rerr :=
  if buf.length < RERR_SIZE then none
  else (bramble_header_deserialize buf).map fun header =>
    { header := header
      reporter_addr := get_be32 (buf.drop HEADER_SIZE)
      broken_dest := get_be32 (buf.drop (HEADER_SIZE + 4))
      broken_next_hop := get_be32 (buf.drop (HEADER_SIZE + 8))
      auth_hmac := get_bytes 8 (buf.drop (HEADER_SIZE + 12))
      seq := get_bytes 6 (buf.drop (HEADER_SIZE + 20)) }

lemma rerr_deserialize_bytes (p : Rerr) : bramble_rerr_deserialize p.bytes = some p := by
  have hlen : ¬ p.bytes.length < RERR_SIZE := by
    simp [Rerr.bytes]
  rw [bramble_rerr_deserialize, if_neg hlen]
  simp [Rerr.bytes, HEADER_SIZE]

/-! ## Relay paths -/

abbrev ACK_MAX_HOPS : UInt8 := 8

abbrev RelayPath := Vector UInt32 8

def path_bytes (path : RelayPath) (hops : UInt8) : List UInt8 :=
  (path.toList.take hops.toNat).flatMap be32

def read_path (buf : List UInt8) (hops : UInt8) : RelayPath :=
  Vector.ofFn fun i => if i.val < hops.toNat then get_be32 (buf.drop (i.val * 4)) else 0

def tidy_path (path : RelayPath) (hops : UInt8) : RelayPath :=
  Vector.ofFn fun i => if i.val < hops.toNat then path[i] else 0

lemma length_path_bytes (path : RelayPath) {hops : UInt8} (h : hops ≤ ACK_MAX_HOPS) :
    (path_bytes path hops).length = hops.toNat * 4 := by
  have h8 : hops.toNat ≤ 8 := h
  rw [path_bytes, List.length_flatMap, List.map_congr_left fun x _ => length_be32 x,
    List.map_const', List.sum_replicate, List.length_take, Vector.length_toList, smul_eq_mul]
  omega

lemma read_path_bytes (path : RelayPath) {hops : UInt8} (h : hops ≤ ACK_MAX_HOPS)
    (rest : List UInt8) : read_path (path_bytes path hops ++ rest) hops = tidy_path path hops := by
  apply Vector.ext
  intro i hi
  rw [read_path, tidy_path, Vector.getElem_ofFn, Vector.getElem_ofFn]
  split
  case isFalse => rfl
  case isTrue hlt =>
    replace hlt : i < hops.toNat := hlt
    have hin : i < (path.toList.take hops.toNat).length := by
      rw [List.length_take, Vector.length_toList]
      omega
    have hpre : i * 4 ≤ (path_bytes path hops).length := by
      rw [length_path_bytes path h]
      omega
    rw [List.drop_append_of_le_length hpre, path_bytes, Nat.mul_comm,
      drop_flatMap length_be32, List.drop_eq_getElem_cons hin, List.flatMap_cons,
      List.append_assoc, get_be32_be32, List.getElem_take, Vector.getElem_toList]
    rfl

/-! ## Acknowledgements -/

abbrev ACK_BASE_SIZE : ℕ := 37
abbrev ACK_MAX_SIZE : ℕ := 69

structure Ack where
  header : Header
  src_addr : UInt32
  ack_packet_id : UInt32
  ack_flags : UInt8
  rssi_at_dest : Int8
  hop_count : UInt8
  auth_hmac : Vector UInt8 8
  seq : Vector UInt8 6
  relay_path : RelayPath
deriving DecidableEq

def clamp_hops (hop_count : UInt8) : UInt8 :=
  if hop_count > ACK_MAX_HOPS then ACK_MAX_HOPS else hop_count

lemma clamp_hops_le (hop_count : UInt8) : clamp_hops hop_count ≤ ACK_MAX_HOPS := by
  rw [clamp_hops]
  split
  case isTrue => exact UInt8.le_refl _
  case isFalse h => exact UInt8.not_lt.1 h

lemma clamp_hops_of_le {hop_count : UInt8} (h : hop_count ≤ ACK_MAX_HOPS) :
    clamp_hops hop_count = hop_count := if_neg (UInt8.not_lt.2 h)

def bramble_ack_wire_size (p : Ack) : ℕ := ACK_BASE_SIZE + (clamp_hops p.hop_count).toNat * 4

def Ack.bytes (p : Ack) : List UInt8 :=
  bramble_header_serialize p.header ++ be32 p.src_addr ++ be32 p.ack_packet_id ++ [p.ack_flags] ++
    [p.rssi_at_dest.toUInt8] ++ [clamp_hops p.hop_count] ++ p.auth_hmac.toList ++ p.seq.toList ++
    path_bytes p.relay_path (clamp_hops p.hop_count)

def bramble_ack_serialize (p : Ack) (len : ℕ) : Option (List UInt8) :=
  if len < bramble_ack_wire_size p then none else some p.bytes

def bramble_ack_deserialize (buf : List UInt8) : Option Ack :=
  if buf.length < ACK_BASE_SIZE then none
  else (bramble_header_deserialize buf).map fun header =>
    let claimed := clamp_hops (get_byte (buf.drop (HEADER_SIZE + 10)))
    let avail_hops :=
      if buf.length > HEADER_SIZE + 25 then (buf.length - (HEADER_SIZE + 25)) / 4 else 0
    let hop_count := if claimed.toNat > avail_hops then UInt8.ofNat avail_hops else claimed
    { header := header
      src_addr := get_be32 (buf.drop HEADER_SIZE)
      ack_packet_id := get_be32 (buf.drop (HEADER_SIZE + 4))
      ack_flags := get_byte (buf.drop (HEADER_SIZE + 8))
      rssi_at_dest := (get_byte (buf.drop (HEADER_SIZE + 9))).toInt8
      hop_count := hop_count
      auth_hmac := get_bytes 8 (buf.drop (HEADER_SIZE + 11))
      seq := get_bytes 6 (buf.drop (HEADER_SIZE + 19))
      relay_path := read_path (buf.drop (HEADER_SIZE + 25)) hop_count }

def Ack.tidy (p : Ack) : Ack :=
  { p with
    hop_count := clamp_hops p.hop_count
    relay_path := tidy_path p.relay_path (clamp_hops p.hop_count) }

lemma Ack.length_bytes (p : Ack) :
    p.bytes.length = 37 + (clamp_hops p.hop_count).toNat * 4 := by
  simp [Ack.bytes, HEADER_SIZE, length_path_bytes _ (clamp_hops_le _)]
  omega

lemma ack_deserialize_bytes (p : Ack) : bramble_ack_deserialize p.bytes = some p.tidy := by
  have hle := clamp_hops_le p.hop_count
  have hlen := p.length_bytes
  have hpath := read_path_bytes p.relay_path hle []
  rw [List.append_nil] at hpath
  -- the buffer carries exactly the addresses that are claimed
  have havail : (if p.bytes.length > HEADER_SIZE + 25 then
      (p.bytes.length - (HEADER_SIZE + 25)) / 4 else 0) = (clamp_hops p.hop_count).toNat := by
    simp only [HEADER_SIZE, hlen]
    split <;> omega
  have hsize : ¬ p.bytes.length < ACK_BASE_SIZE := by
    simp only [ACK_BASE_SIZE, hlen]
    omega
  rw [bramble_ack_deserialize, if_neg hsize, havail]
  simp [Ack.bytes, HEADER_SIZE, Ack.tidy, clamp_hops_of_le hle, hpath]

/-! ## Delivery receipts -/

abbrev DELIVERY_RECEIPT_MIN_SIZE : ℕ := 36
abbrev DELIVERY_RECEIPT_MAX_SIZE : ℕ := 68
abbrev DELIVERY_RECEIPT_MAX_HOPS : UInt8 := 8

structure Receipt where
  header : Header
  src_addr : UInt32
  orig_packet_id : UInt32
  hop_count : UInt8
  total_latency : UInt8
  auth_hmac : Vector UInt8 8
  seq : Vector UInt8 6
  relay_path : RelayPath
deriving DecidableEq

def Receipt.bytes (p : Receipt) : List UInt8 :=
  bramble_header_serialize p.header ++ be32 p.src_addr ++ be32 p.orig_packet_id ++
    [p.hop_count] ++ [p.total_latency] ++ p.auth_hmac.toList ++ p.seq.toList ++
    path_bytes p.relay_path p.hop_count

def bramble_delivery_receipt_serialize (p : Receipt) (len : ℕ) : Option (List UInt8) :=
  if len < DELIVERY_RECEIPT_MIN_SIZE + p.hop_count.toNat * 4 then none
  else if p.hop_count > DELIVERY_RECEIPT_MAX_HOPS then none
  else some p.bytes

def bramble_delivery_receipt_deserialize (buf : List UInt8) : Option Receipt :=
  let hop_count := get_byte (buf.drop (HEADER_SIZE + 8))
  if buf.length < DELIVERY_RECEIPT_MIN_SIZE then none
  else if hop_count > DELIVERY_RECEIPT_MAX_HOPS then none
  else if buf.length < DELIVERY_RECEIPT_MIN_SIZE + hop_count.toNat * 4 then none
  else (bramble_header_deserialize buf).map fun header =>
    { header := header
      src_addr := get_be32 (buf.drop HEADER_SIZE)
      orig_packet_id := get_be32 (buf.drop (HEADER_SIZE + 4))
      hop_count := hop_count
      total_latency := get_byte (buf.drop (HEADER_SIZE + 9))
      auth_hmac := get_bytes 8 (buf.drop (HEADER_SIZE + 10))
      seq := get_bytes 6 (buf.drop (HEADER_SIZE + 18))
      relay_path := read_path (buf.drop (HEADER_SIZE + 24)) hop_count }

def Receipt.tidy (p : Receipt) : Receipt :=
  { p with relay_path := tidy_path p.relay_path p.hop_count }

lemma receipt_deserialize_bytes {p : Receipt} (hle : p.hop_count ≤ DELIVERY_RECEIPT_MAX_HOPS) :
    bramble_delivery_receipt_deserialize p.bytes = some p.tidy := by
  have hlen : p.bytes.length = 36 + p.hop_count.toNat * 4 := by
    simp [Receipt.bytes, HEADER_SIZE, length_path_bytes _ hle]
    omega
  have hpath := read_path_bytes p.relay_path hle []
  rw [List.append_nil] at hpath
  have hcount : get_byte (p.bytes.drop (HEADER_SIZE + 8)) = p.hop_count := by
    simp [Receipt.bytes, HEADER_SIZE]
  have hmin : ¬ p.bytes.length < DELIVERY_RECEIPT_MIN_SIZE := by
    simp only [DELIVERY_RECEIPT_MIN_SIZE, hlen]
    omega
  have hall : ¬ p.bytes.length < DELIVERY_RECEIPT_MIN_SIZE + p.hop_count.toNat * 4 := by
    simp only [DELIVERY_RECEIPT_MIN_SIZE, hlen]
    omega
  rw [bramble_delivery_receipt_deserialize, hcount, if_neg hmin, if_neg (UInt8.not_lt.2 hle),
    if_neg hall]
  simp [Receipt.bytes, HEADER_SIZE, Receipt.tidy, hpath]

/-! ## Identity attestations -/

abbrev IDENTITY_ATTESTATION_SIZE : ℕ := 230

structure Attestation where
  header : Header
  src_addr : UInt32
  x25519_pub : Vector UInt8 32
  ed25519_pub : Vector UInt8 32
  sig : Vector UInt8 64
  not_after : UInt64
  endorsement_sig : Vector UInt8 64
  auth_hmac : Vector UInt8 8
  seq : Vector UInt8 6
deriving DecidableEq

def Attestation.bytes (p : Attestation) : List UInt8 :=
  bramble_header_serialize p.header ++ be32 p.src_addr ++ p.x25519_pub.toList ++
    p.ed25519_pub.toList ++ p.sig.toList ++ be64 p.not_after ++ p.endorsement_sig.toList ++
    p.auth_hmac.toList ++ p.seq.toList

def bramble_identity_attestation_serialize (p : Attestation) (len : ℕ) : Option (List UInt8) :=
  if len < IDENTITY_ATTESTATION_SIZE then none else some p.bytes

def bramble_identity_attestation_deserialize (buf : List UInt8) : Option Attestation :=
  if buf.length ≠ IDENTITY_ATTESTATION_SIZE then none
  else (bramble_header_deserialize buf).map fun header =>
    { header := header
      src_addr := get_be32 (buf.drop HEADER_SIZE)
      x25519_pub := get_bytes 32 (buf.drop (HEADER_SIZE + 4))
      ed25519_pub := get_bytes 32 (buf.drop (HEADER_SIZE + 36))
      sig := get_bytes 64 (buf.drop (HEADER_SIZE + 68))
      not_after := get_be64 (buf.drop (HEADER_SIZE + 132))
      endorsement_sig := get_bytes 64 (buf.drop (HEADER_SIZE + 140))
      auth_hmac := get_bytes 8 (buf.drop (HEADER_SIZE + 204))
      seq := get_bytes 6 (buf.drop (HEADER_SIZE + 212)) }

lemma attestation_deserialize_bytes (p : Attestation) :
    bramble_identity_attestation_deserialize p.bytes = some p := by
  have hlen : p.bytes.length = IDENTITY_ATTESTATION_SIZE := by
    simp [Attestation.bytes]
  rw [bramble_identity_attestation_deserialize, if_neg (not_not_intro hlen)]
  simp [Attestation.bytes, HEADER_SIZE]

/-! ## Data -/

abbrev BRAMBLE_DATA_SRC_ADDR_OFFSET : ℕ := HEADER_SIZE
abbrev BRAMBLE_DATA_PREV_HOP_OFFSET : ℕ := HEADER_SIZE + 4
abbrev BRAMBLE_DATA_AUTH_HMAC_OFFSET : ℕ := HEADER_SIZE + 8
abbrev BRAMBLE_DATA_NONCE_OFFSET : ℕ := HEADER_SIZE + 16

structure Data where
  header : Header
  src_addr : UInt32
  prev_hop : UInt32
  auth_hmac : Vector UInt8 8
  sealed : List UInt8
deriving DecidableEq

def Data.bytes (p : Data) : List UInt8 :=
  bramble_header_serialize p.header ++ le32 p.src_addr ++ le32 p.prev_hop ++
    p.auth_hmac.toList ++ p.sealed

def data_read (buf : List UInt8) : Option Data :=
  if buf.length < BRAMBLE_DATA_NONCE_OFFSET then none
  else (bramble_header_deserialize buf).map fun header =>
    { header := header
      src_addr := get_le32 (buf.drop BRAMBLE_DATA_SRC_ADDR_OFFSET)
      prev_hop := get_le32 (buf.drop BRAMBLE_DATA_PREV_HOP_OFFSET)
      auth_hmac := get_bytes 8 (buf.drop BRAMBLE_DATA_AUTH_HMAC_OFFSET)
      sealed := buf.drop BRAMBLE_DATA_NONCE_OFFSET }

lemma data_read_bytes (p : Data) : data_read p.bytes = some p := by
  have hlen : ¬ p.bytes.length < BRAMBLE_DATA_NONCE_OFFSET := by
    simp [Data.bytes]
    omega
  rw [data_read, if_neg hlen]
  simp [Data.bytes, BRAMBLE_DATA_SRC_ADDR_OFFSET, BRAMBLE_DATA_PREV_HOP_OFFSET,
    BRAMBLE_DATA_AUTH_HMAC_OFFSET, BRAMBLE_DATA_NONCE_OFFSET, HEADER_SIZE]

/-! ## Frames rewritten in place -/

def rewrite_header (buf : List UInt8) (h : Header) : List UInt8 :=
  bramble_header_serialize h ++ buf.drop HEADER_SIZE

def rewrite_prev_hop (buf : List UInt8) (address : UInt32) : List UInt8 :=
  if buf.length ≥ BRAMBLE_DATA_PREV_HOP_OFFSET + 4 then
    buf.take BRAMBLE_DATA_PREV_HOP_OFFSET ++ le32 address ++
      buf.drop (BRAMBLE_DATA_PREV_HOP_OFFSET + 4)
  else buf

lemma rewrite_header_data (p : Data) (h : Header) :
    rewrite_header p.bytes h = { p with header := h }.bytes := by
  simp [rewrite_header, HEADER_SIZE, Data.bytes]

lemma rewrite_prev_hop_data (p : Data) (address : UInt32) :
    rewrite_prev_hop p.bytes address = { p with prev_hop := address }.bytes := by
  have hlen : p.bytes.length ≥ BRAMBLE_DATA_PREV_HOP_OFFSET + 4 := by
    simp [Data.bytes, HEADER_SIZE, BRAMBLE_DATA_PREV_HOP_OFFSET]
    omega
  have hfront : p.bytes.take BRAMBLE_DATA_PREV_HOP_OFFSET =
      bramble_header_serialize p.header ++ le32 p.src_addr := by
    rw [Data.bytes, List.append_assoc, List.append_assoc]
    exact List.take_left' (by rw [List.length_append, length_header, length_le32])
  rw [rewrite_prev_hop, if_pos hlen, hfront]
  simp [Data.bytes, BRAMBLE_DATA_PREV_HOP_OFFSET, HEADER_SIZE]

end BrambleMesh.Wire
