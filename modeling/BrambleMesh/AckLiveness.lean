/-
ACKs as signs of life: `send_ack` and `handle_ack` (main/mesh_reliability.c),
`mesh_note_peer_heard` (main/mesh_task.c). A hop count of 0 is taken for "straight from the
signer", but `send_ack` starts at 1.
-/
import BrambleMesh.ClockWrap
import BrambleMesh.RelayAuth

namespace BrambleMesh.AckLiveness

open Wire RelayAuth Option
open ClockWrap (Neighbor neighbor_touch)
open RouteError (ROUTE_HOP_LIMIT_MAX)

/-! ## Origination -/

abbrev FLOOD_HOP_LIMIT_MIN : UInt32 := 1
abbrev FLOOD_HOP_LIMIT_CEIL : UInt32 := 32

def flood_hop_limit_clamp (hops : UInt32) : UInt8 :=
  if hops < FLOOD_HOP_LIMIT_MIN then FLOOD_HOP_LIMIT_MIN.toUInt8
  else if hops > FLOOD_HOP_LIMIT_CEIL then FLOOD_HOP_LIMIT_CEIL.toUInt8
  else hops.toUInt8

def flood_origination_hop_limit (flood_transport : Bool) (flood_hop_limit : UInt32) : UInt8 :=
  if flood_transport then flood_hop_limit_clamp flood_hop_limit else ROUTE_HOP_LIMIT_MAX

structure Origin where
  address : UInt32
  s_flood_transport : Bool
  s_flood_hop_limit : UInt32
  next_packet_id : UInt32
  seq : Option (Vector UInt8 6)

def own_ack (o : Origin) (seq : Vector UInt8 6) (dest_addr ack_packet_id : UInt32) (rssi : Int8) :
    Ack where
  header := ⟨BRAMBLE_VERSION, PKT_TYPE_ACK, 0,
    flood_origination_hop_limit o.s_flood_transport o.s_flood_hop_limit, dest_addr,
    o.next_packet_id⟩
  src_addr := o.address
  ack_packet_id := ack_packet_id
  ack_flags := 0
  rssi_at_dest := rssi
  hop_count := 1
  auth_hmac := Vector.replicate 8 0
  seq := seq
  relay_path := (Vector.replicate 8 0).setIfInBounds 0 o.address

section

variable (hmac : Hmac) (key : Option Key32)

def send_ack (o : Origin) (dest_addr ack_packet_id : UInt32) (rssi : Int8) :
    Option (List UInt8) :=
  if key.isNone then none
  else o.seq.bind fun seq =>
    bramble_ack_serialize (ack_sign hmac key (own_ack o seq dest_addr ack_packet_id rssi))
      ACK_MAX_SIZE

/-! ## Reception -/

def mesh_note_peer_heard (s_neighbors : List Neighbor) (me addr : UInt32) (rssi : Int16)
    (snr : Int8) (now_ms : UInt32) : List Neighbor :=
  if addr = 0 ∨ addr = me then s_neighbors
  else (neighbor_touch s_neighbors addr rssi.toInt8 snr now_ms).2

def handle_ack_heard (h : Hop) (s_neighbors : List Neighbor) (a : Ack) (rssi : Int16)
    (snr : Int8) : List Neighbor :=
  if !ack_verify hmac key a || !h.replay_ok then s_neighbors
  else if a.hop_count = 0 then
    mesh_note_peer_heard s_neighbors h.address a.src_addr rssi snr h.now_ms
  else s_neighbors

def receive_ack_heard (h : Hop) (s_neighbors : List Neighbor) (bytes : List UInt8) (rssi : Int16)
    (snr : Int8) : List Neighbor :=
  if h.s_dedup_hit then s_neighbors
  else
    match parse bytes with
    | some (.ack a) => handle_ack_heard hmac key h s_neighbors a rssi snr
    | _ => s_neighbors

end

/-! ## The hop count on the way -/

def Passed (bytes : List UInt8) : Prop :=
  ∃ a : Ack, (Frame.ack a).Built ∧ (Frame.ack a).serialize = some bytes ∧ a.hop_count ≠ 0

lemma hop_append_ne_zero (hop_count : UInt8) : hop_append hop_count ≠ 0 := by
  rw [hop_append]
  split <;> grind

lemma clamp_hops_eq_zero {hop_count : UInt8} (h : clamp_hops hop_count = 0) :
    hop_count = 0 := by
  rw [clamp_hops] at h
  split at h
  case isTrue => cases h
  case isFalse => exact h

section

variable {hmac : Hmac} {key : Option Key32} {h : Hop} {bytes out : List UInt8}

lemma relay_passed {a : Ack} (hb : (Frame.ack a).Built)
    (hser : (Frame.ack a).serialize = some bytes) (hout : relay hmac key bytes h = some out) :
    Passed out := by
  rw [relay, receive, parse_serialize hb hser] at hout
  split at hout
  case isTrue => cases hout
  case isFalse =>
    obtain ⟨-, hop_limit, hsent⟩ := handle_ack_sent hout
    exact ⟨ack_relayed a.tidy hop_limit h.address, hb, hsent, hop_append_ne_zero _⟩

lemma Passed.relays (hp : Passed bytes) (hops : List Hop)
    (hout : hops.foldlM (relay hmac key) bytes = some out) : Passed out := by
  refine Run.foldlM_invariant ?_ hp hout
  rintro bytes h out ⟨a, hb, hser, -⟩ hout
  exact relay_passed hb hser hout

lemma Passed.unheard (hp : Passed bytes) (s_neighbors : List Neighbor) (rssi : Int16)
    (snr : Int8) : receive_ack_heard hmac key h s_neighbors bytes rssi snr = s_neighbors := by
  obtain ⟨a, hb, hser, hne⟩ := hp
  have hcount : a.tidy.hop_count ≠ 0 := fun h0 => hne (clamp_hops_eq_zero h0)
  rw [receive_ack_heard, parse_serialize hb hser]
  dsimp only [Frame.tidy]
  rw [handle_ack_heard, if_neg hcount, ite_self, ite_self]

lemma send_ack_passed {o : Origin} {dest_addr ack_packet_id : UInt32} {rssi : Int8}
    (hsent : send_ack hmac key o dest_addr ack_packet_id rssi = some bytes) : Passed bytes := by
  obtain ⟨-, hsent⟩ := ite_none_left_eq_some.1 hsent
  obtain ⟨seq, -, hser⟩ := bind_eq_some_iff.1 hsent
  exact ⟨_, ⟨rfl, rfl⟩, hser, (by decide : (1 : UInt8) ≠ 0)⟩

end

/-! ## Signs of life -/

lemma neighbor_touch_heard {table : List Neighbor} {addr now_ms : UInt32} {e : Neighbor}
    (rssi snr : Int8) (he : table.find? (fun e => e.addr == addr) = some e)
    (hnew : e.last_heard < now_ms) :
    (neighbor_touch table addr rssi snr now_ms).2.find? (fun e => e.addr == addr) =
      some { e with last_heard := now_ms, rssi := rssi, snr := snr } := by
  rw [List.find?_eq_bind_findIdx?_getElem?] at he
  obtain ⟨i, hi, hat⟩ := bind_eq_some_iff.1 he
  have hold : ¬ (table[i]?.map fun e => decide (now_ms ≤ e.last_heard)) = some true := by
    rw [hat, map_some, some_inj]
    exact fun hle => UInt32.not_le.2 hnew (of_decide_eq_true hle)
  have hmod := Packed.find?_modify (p := fun e : Neighbor => e.addr == addr)
    (f := fun e => { e with last_heard := now_ms, rssi := rssi, snr := snr }) (fun _ => rfl)
    table i hi
  rw [neighbor_touch, hi]
  dsimp only
  rw [if_neg hold, hmod, List.find?_eq_bind_findIdx?_getElem?, he, map_some]

/-- **What an ACK proves.** An ACK that its signer sends with a hop count of 0 refreshes the
signer's entry at whoever hears it directly.  An ACK that any node has passed on refreshes
nothing, and so does every ACK that comes straight from `send_ack`. -/
theorem ack_liveness (hmac : Hmac) (k : Key32) (a : Ack) (hb : (Frame.ack a).Built)
    (bytes : List UInt8) (hbytes : ((Frame.ack a).sign hmac (some k)).serialize = some bytes) :
    (a.hop_count = 0 → ∀ (h : Hop) (s_neighbors : List Neighbor) (e : Neighbor) (rssi : Int16)
      (snr : Int8), h.s_dedup_hit = false → h.replay_ok = true → a.src_addr ≠ 0 →
        a.src_addr ≠ h.address →
        s_neighbors.find? (fun e => e.addr == a.src_addr) = some e → e.last_heard < h.now_ms →
          (receive_ack_heard hmac (some k) h s_neighbors bytes rssi snr).find?
            (fun e => e.addr == a.src_addr) =
              some { e with last_heard := h.now_ms, rssi := rssi.toInt8, snr := snr }) ∧
    (∀ (hops : List Hop) (out : List UInt8), hops ≠ [] →
        hops.foldlM (relay hmac (some k)) bytes = some out →
          ∀ (h : Hop) (s_neighbors : List Neighbor) (rssi : Int16) (snr : Int8),
            receive_ack_heard hmac (some k) h s_neighbors out rssi snr = s_neighbors) ∧
    ∀ (o : Origin) (dest_addr ack_packet_id : UInt32) (rssi_at_dest : Int8) (own : List UInt8),
      send_ack hmac (some k) o dest_addr ack_packet_id rssi_at_dest = some own →
        ∀ (h : Hop) (s_neighbors : List Neighbor) (rssi : Int16) (snr : Int8),
          receive_ack_heard hmac (some k) h s_neighbors own rssi snr = s_neighbors := by
  obtain ⟨hsb, -, -⟩ := (Frame.ack a).carries_sign hb hmac (some k)
  refine ⟨?_, ?_, fun _ _ _ _ _ hown _ => (send_ack_passed hown).unheard⟩
  · intro hzero h s_neighbors e rssi snr hdedup hreplay hne hself he hnew
    have hverify : ack_verify hmac (some k) (ack_sign hmac (some k) a).tidy = true :=
      (Frame.carries_tidy hsb).verify hb
    have hcount : (ack_sign hmac (some k) a).tidy.hop_count = 0 := by
      change clamp_hops a.hop_count = 0
      rw [hzero]
      rfl
    have hpeer : ¬ (a.src_addr = 0 ∨ a.src_addr = h.address) := not_or.2 ⟨hne, hself⟩
    rw [receive_ack_heard, hdedup, parse_serialize hsb hbytes]
    change (handle_ack_heard hmac (some k) h s_neighbors (ack_sign hmac (some k) a).tidy rssi
      snr).find? _ = _
    rw [handle_ack_heard, hverify, hreplay, if_pos hcount]
    change (mesh_note_peer_heard s_neighbors h.address a.src_addr rssi snr h.now_ms).find? _ = _
    rw [mesh_note_peer_heard, if_neg hpeer]
    exact neighbor_touch_heard rssi.toInt8 snr he hnew
  · intro hops out hne hout h s_neighbors rssi snr
    obtain ⟨hop, hops, rfl⟩ := List.exists_cons_of_ne_nil hne
    obtain ⟨next, hnext, hout⟩ := bind_eq_some_iff.1 hout
    exact ((relay_passed hsb hbytes hnext).relays hops hout).unheard s_neighbors rssi snr

def nine : Neighbor := ⟨9, -70, 5, 1, 100, 50, 3⟩

def bare_ack : Ack := { ack_of_nine with src_addr := 9, hop_count := 0 }

theorem ack_liveness_unentered :
    ∃ bytes, ((Frame.ack bare_ack).sign sum_hmac (some Key32.zero)).serialize = some bytes ∧
      (receive_ack_heard sum_hmac (some Key32.zero) (flooding 3) [nine] bytes (-80) 4).find?
        (fun e => e.addr == 9) = some ⟨9, -80, 4, 1, 1000, 50, 3⟩ ∧
      ∃ out, [flooding 4].foldlM (relay sum_hmac (some Key32.zero)) bytes = some out ∧
        receive_ack_heard sum_hmac (some Key32.zero) (flooding 3) [nine] out (-80) 4 = [nine] := by
  obtain ⟨bytes, hbytes⟩ : ∃ bytes,
      ((Frame.ack bare_ack).sign sum_hmac (some Key32.zero)).serialize = some bytes :=
    isSome_iff_exists.1 (by decide +kernel)
  obtain ⟨hdirect, hrelayed, -⟩ :=
    ack_liveness sum_hmac Key32.zero bare_ack (by decide) bytes hbytes
  obtain ⟨out, hout⟩ : ∃ out, [flooding 4].foldlM (relay sum_hmac (some Key32.zero)) bytes =
      some out := by
    obtain rfl := some.inj hbytes
    exact isSome_iff_exists.1 (by decide +kernel)
  exact ⟨bytes, hbytes, hdirect rfl (flooding 3) [nine] nine (-80) 4 rfl rfl (by decide) (by decide)
    rfl (by decide), out, hout, hrelayed _ out (List.cons_ne_nil _ _) hout _ _ _ _⟩

/-- Node 3 has node 9 as a neighbour, last heard at 100, and at 1000 hears from it, for the first
time, an ACK that verifies.  The entry stays as it was. -/
theorem direct_ack_unheard :
    ∃ bytes, send_ack sum_hmac (some Key32.zero)
        ⟨9, true, 8, 77, some (Vector.replicate 6 3)⟩ 3 9 (-60) = some bytes ∧
      (receive sum_hmac (some Key32.zero) (flooding 3) bytes).consumed = true ∧
      receive_ack_heard sum_hmac (some Key32.zero) (flooding 3) [nine] bytes (-80) 4 = [nine] := by
  obtain ⟨bytes, hbytes⟩ : ∃ bytes, send_ack sum_hmac (some Key32.zero)
      ⟨9, true, 8, 77, some (Vector.replicate 6 3)⟩ 3 9 (-60) = some bytes :=
    isSome_iff_exists.1 (by decide +kernel)
  refine ⟨bytes, hbytes, ?_, (send_ack_passed hbytes).unheard _ _ _⟩
  obtain rfl := some.inj hbytes
  decide +kernel

end BrambleMesh.AckLiveness
