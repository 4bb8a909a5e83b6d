/-
The symmetric ratchet of a direct-message session: components/dm_session/dm_session.c,
components/packet/packet.c (associated data). The receiver walks at most 16 steps ahead and parks
the keys it passes over in a direct-mapped cache of 16 slots.
-/
import BrambleMesh.Crypto
import BrambleMesh.Lib.Bytes
import BrambleMesh.Lib.Table

open BrambleMesh.Bytes Function Option UInt16

namespace BrambleMesh.DmRatchet

/-! ## Data -/

abbrev DM_MAX_SKIP : ℕ := 16

abbrev DM_EPOCH_GRACE_MSGS : UInt16 := 16

structure Chain where
  ck : Key32
  index : UInt16
  epoch : UInt8
  valid : Bool
deriving DecidableEq, Repr

structure SkipEntry where
  entry ::
  index : UInt16
  mk : Key32
  used : Bool
deriving DecidableEq, Repr

def Chain.zero : Chain := ⟨.zero, 0, 0, false⟩

def SkipEntry.zero : SkipEntry := ⟨0, .zero, false⟩

abbrev Skip := Fin DM_MAX_SKIP → SkipEntry

structure Ratchet where
  rk : Key32
  send : Chain
  recv : Chain
  skip : Skip
  prev_recv : Chain
  prev_skip : Skip
  new_epoch_msgs : UInt16

def Ratchet.zero : Ratchet :=
  ⟨.zero, .zero, .zero, fun _ => .zero, .zero, fun _ => .zero, 0⟩

inductive SessionState
  | NONE
  | HANDSHAKING
  | ACTIVE
deriving DecidableEq, Repr

structure Session where
  peer_addr : UInt32
  session_key : Key32
  peer_id_pub : Key32
  ke_epoch : UInt16
  state : SessionState
  verified : Bool
  ratchet : Ratchet

def Session.zero : Session := ⟨0, .zero, .zero, 0, .NONE, false, .zero⟩

structure Header where
  version : UInt8
  type : UInt8
  flags : UInt8
  hop_limit : UInt8
  dest_addr : UInt32
  packet_id : UInt32
deriving DecidableEq, Repr

abbrev Ikm := Vector UInt8 128

/-! ## Key derivation -/

def dm_build_info (addr_a addr_b : UInt32) (ke_epoch : UInt16) : List UInt8 :=
  let lo := if addr_a < addr_b then addr_a else addr_b
  let hi := if addr_a < addr_b then addr_b else addr_a
  be32 lo ++ be32 hi ++ [(ke_epoch &&& 0xFF).toUInt8, ((ke_epoch >>> 8) &&& 0xFF).toUInt8]

variable (C : DmCrypto)

def dm_session_key_from_ikm (ikm : Ikm) (addr_a addr_b : UInt32)
    (ke_epoch : UInt16) : Option Key32 :=
  C.hkdf_sha256 "bramble-dm-v2".toUTF8.toList ikm.toList (dm_build_info addr_a addr_b ke_epoch)

def dm_derive_chain_pair (rk : Key32) : Option (Key32 × Key32) := do
  let ck_lohi ← C.hkdf_sha256 rk.toList [] "bramble-dm-chain-lohi".toUTF8.toList
  let ck_hilo ← C.hkdf_sha256 rk.toList [] "bramble-dm-chain-hilo".toUTF8.toList
  return (ck_lohi, ck_hilo)

def dm_ratchet_init (ikm : Ikm) (addr_a addr_b : UInt32) :
    Option (Key32 × Key32 × Key32) := do
  let rk ← dm_session_key_from_ikm C ikm addr_a addr_b 0
  let (ck_lohi, ck_hilo) ← dm_derive_chain_pair C rk
  return (rk, ck_lohi, ck_hilo)

def mk_info (index_n : UInt16) : List UInt8 :=
  "bramble-dm-mk".toUTF8.toList ++ [(index_n >>> 8).toUInt8, (index_n &&& 0xFF).toUInt8]

def dm_ratchet_step (ck_in : Key32) (index_n : UInt16) :
    Option (Key32 × Key32) := do
  let mk ← C.hkdf_sha256 ck_in.toList [] (mk_info index_n)
  let ck_next ← C.hkdf_sha256 ck_in.toList [] "bramble-dm-ck".toUTF8.toList
  return (mk, ck_next)

def dm_ratchet_dh (rk_e dh : Key32) (addr_a addr_b : UInt32)
    (new_epoch : UInt16) : Option Key32 :=
  C.hkdf_sha256 rk_e.toList dh.toList (dm_build_info addr_a addr_b new_epoch)

/-! ## Installing chains -/

def dm_ratchet_install_chains (r : Ratchet) (ck_lohi ck_hilo : Key32) (self_is_lo : Bool)
    (epoch : UInt16) : Ratchet :=
  { r with
    send := ⟨if self_is_lo then ck_lohi else ck_hilo, 0, (epoch &&& 0xFF).toUInt8, true⟩
    recv := ⟨if self_is_lo then ck_hilo else ck_lohi, 0, (epoch &&& 0xFF).toUInt8, true⟩ }

def wipe_ratchet (s : Session) : Session :=
  { s with ratchet := .zero, session_key := .zero }

def dm_session_ratchet_init_state (s : Session) (ikm : Ikm)
    (addr_self addr_peer : UInt32) : Bool × Session :=
  let addr_a := if addr_self < addr_peer then addr_self else addr_peer
  let addr_b := if addr_self < addr_peer then addr_peer else addr_self
  match dm_ratchet_init C ikm addr_a addr_b with
  | none => (false, wipe_ratchet s)
  | some (rk, ck_lohi, ck_hilo) =>
    -- which chain is for sending depends on the addresses only, not on who initiated
    let self_is_lo := addr_self == addr_a
    let r := dm_ratchet_install_chains { s.ratchet with rk := rk } ck_lohi ck_hilo self_is_lo
      s.ke_epoch
    (true, { s with
      ratchet := { r with
        skip := fun _ => .zero, prev_recv := .zero, prev_skip := fun _ => .zero,
        new_epoch_msgs := 0 }
      session_key := rk })

def dm_session_epoch_bump (s : Session) (new_dh : Key32)
    (addr_self addr_peer : UInt32) (new_epoch : UInt16) : Bool × Session :=
  let addr_a := if addr_self < addr_peer then addr_self else addr_peer
  let addr_b := if addr_self < addr_peer then addr_peer else addr_self
  let derived := do
    let rk_next ← dm_ratchet_dh C s.ratchet.rk new_dh addr_a addr_b new_epoch
    let (ck_lohi, ck_hilo) ← dm_derive_chain_pair C rk_next
    return (rk_next, ck_lohi, ck_hilo)
  match derived with
  | none => (false, wipe_ratchet s)
  | some (rk_next, ck_lohi, ck_hilo) =>
    let self_is_lo := addr_self == addr_a
    -- frames of the old epoch that are still under way are opened with the chain kept here
    let r := dm_ratchet_install_chains
      { s.ratchet with
        prev_recv := s.ratchet.recv, prev_skip := s.ratchet.skip, new_epoch_msgs := 0,
        rk := rk_next }
      ck_lohi ck_hilo self_is_lo new_epoch
    (true, { s with
      ratchet := { r with skip := fun _ => .zero }
      ke_epoch := new_epoch
      session_key := rk_next })

/-! ## Associated data -/

def bramble_header_build_aad (h : Header) : List UInt8 :=
  [h.version, h.type, h.flags, 0] ++ be32 h.dest_addr ++ be32 h.packet_id

def bramble_build_aead_aad (h : Header) (src_addr : UInt32) : List UInt8 :=
  bramble_header_build_aad h ++
    [(src_addr &&& 0xFF).toUInt8, ((src_addr >>> 8) &&& 0xFF).toUInt8,
      ((src_addr >>> 16) &&& 0xFF).toUInt8, ((src_addr >>> 24) &&& 0xFF).toUInt8]

def ratchet_header (epoch : UInt8) (index : UInt16) : List UInt8 :=
  [epoch, (index >>> 8).toUInt8, (index &&& 0xFF).toUInt8]

/-! ## Encryption -/

def dm_session_ratchet_encrypt (s : Session) (h : Header) (src_addr : UInt32)
    (pt : List UInt8) (nonce : Nonce) : Option (List UInt8 × Tag16 × Session) :=
  let send := s.ratchet.send
  if !send.valid then none
  else if pt.length > 255 then none
  else
    match dm_ratchet_step C send.ck send.index with
    | none => none
    | some (mk, ck_next) =>
      -- the header goes in clear and is authenticated with the rest
      let hdr := ratchet_header send.epoch send.index
      match C.aes256gcm_encrypt mk nonce pt (bramble_build_aead_aad h src_addr ++ hdr) with
      | none => none
      | some (ct, tag) =>
        let advanced := { send with ck := ck_next, index := send.index + 1 }
        some (hdr ++ ct, tag, { s with ratchet := { s.ratchet with send := advanced } })

/-! ## Decryption -/

inductive DecryptResult
  | OK (pt : List UInt8)
  | FAIL
  | TOO_FAR
deriving DecidableEq, Repr

def DecryptResult.accepted : DecryptResult → Bool
  | OK _ => true
  | _ => false

def skip_slot (index : UInt16) : Fin DM_MAX_SKIP :=
  ⟨index.toNat % DM_MAX_SKIP, Nat.mod_lt _ (by decide)⟩

def walk_loop (C : DmCrypto) : ℕ → Key32 → UInt16 → List SkipEntry →
    Option (Key32 × List SkipEntry)
  | 0, ck, _, pending => some (ck, pending)
  | n + 1, ck, walk, pending =>
    match dm_ratchet_step C ck walk with
    | none => none
    | some (mk, ck_next) =>
      walk_loop C n ck_next (walk + 1)
        (if pending.length < DM_MAX_SKIP then pending ++ [⟨walk, mk, true⟩] else pending)

def cache_skipped (skip : Skip) (pending : List SkipEntry) : Skip :=
  pending.foldl (fun t p => update t (skip_slot p.index) { p with used := true }) skip

def dm_recv_walk (chain : Chain) (skip : Skip) (index : UInt16)
    (aad : List UInt8) (nonce : Nonce) (ct : List UInt8) (tag : Tag16) :
    DecryptResult × Chain × Skip :=
  if index < chain.index then
    -- a straggler behind the cursor: only the cache can hold its key
    match Table.find (fun e => e.used && e.index == index) skip with
    | none => (.TOO_FAR, chain, skip)
    | some i =>
      match C.aes256gcm_decrypt (skip i).mk nonce ct aad tag with
      | none => (.FAIL, chain, skip)
      | some pt => (.OK pt, chain, update skip i .zero)
  else if index > chain.index + 16 then
    -- the sum is truncated to 16 bits, as the source's cast does
    (.TOO_FAR, chain, skip)
  else
    -- nothing is committed until the frame has authenticated: a forged index costs nothing
    match walk_loop C (index.toNat - chain.index.toNat) chain.ck chain.index [] with
    | none => (.FAIL, chain, skip)
    | some (ck, pending) =>
      match dm_ratchet_step C ck index with
      | none => (.FAIL, chain, skip)
      | some (mk, ck_next) =>
        match C.aes256gcm_decrypt mk nonce ct aad tag with
        | none => (.FAIL, chain, skip)
        | some pt =>
          (.OK pt, { chain with ck := ck_next, index := index + 1 }, cache_skipped skip pending)

def count_grace (r : Ratchet) : Ratchet :=
  if r.prev_recv.valid then
    let msgs := if r.new_epoch_msgs < 0xFFFF then r.new_epoch_msgs + 1 else r.new_epoch_msgs
    if msgs ≥ DM_EPOCH_GRACE_MSGS then
      { r with new_epoch_msgs := msgs, prev_recv := .zero, prev_skip := fun _ => .zero }
    else { r with new_epoch_msgs := msgs }
  else r

def try_previous (r : Ratchet) (rc : DecryptResult) (index : UInt16)
    (aad : List UInt8) (nonce : Nonce) (ct : List UInt8) (tag : Tag16) :
    DecryptResult × Ratchet :=
  if r.prev_recv.valid then
    match dm_recv_walk C r.prev_recv r.prev_skip index aad nonce ct tag with
    | (.OK pt, chain, skip) => (.OK pt, { r with prev_recv := chain, prev_skip := skip })
    | (_, chain, skip) => (rc, { r with prev_recv := chain, prev_skip := skip })
  else (rc, r)

def dm_session_ratchet_decrypt (s : Session) (h : Header) (src_addr : UInt32)
    (nonce : Nonce) (framed_ct : List UInt8) (tag : Tag16) : DecryptResult × Session :=
  if !s.ratchet.recv.valid then (.FAIL, s)
  else
    match framed_ct with
    | b0 :: b1 :: b2 :: ct =>
      let index := be16 b1 b2
      let aad := bramble_build_aead_aad h src_addr ++ [b0, b1, b2]
      let (rc, chain, skip) :=
        dm_recv_walk C s.ratchet.recv s.ratchet.skip index aad nonce ct tag
      let r := { s.ratchet with recv := chain, skip := skip }
      -- the epoch byte is authenticated but selects nothing: both chains are tried in turn
      match rc with
      | .OK pt => (.OK pt, { s with ratchet := count_grace r })
      | _ =>
        let (rc', r') := try_previous C r rc index aad nonce ct tag
        (rc', { s with ratchet := r' })
    -- shorter than the ratchet header
    | _ => (.FAIL, s)

/-! ## Derivations that cannot fail

Under a total HKDF a chain is a sequence of chain keys, and each of them gives one message
key. -/

def next_ck (ck : Key32) : Key32 :=
  (C.hkdf_sha256 ck.toList [] "bramble-dm-ck".toUTF8.toList).getD .zero

def message_key (ck : Key32) (index : UInt16) : Key32 :=
  (C.hkdf_sha256 ck.toList [] (mk_info index)).getD .zero

def key_ahead (chain : Chain) (j : ℕ) : Key32 :=
  message_key C ((next_ck C)^[j] chain.ck) (chain.index + UInt16.ofNat j)

variable {C : DmCrypto}

lemma dm_ratchet_step_eq (hC : C.HkdfTotal) (ck : Key32) (index : UInt16) :
    dm_ratchet_step C ck index = some (message_key C ck index, next_ck C ck) := by
  obtain ⟨mk, hmk⟩ := isSome_iff_exists.1 (hC ck.toList [] (mk_info index))
  obtain ⟨ck', hck⟩ :=
    isSome_iff_exists.1 (hC ck.toList [] "bramble-dm-ck".toUTF8.toList)
  rw [dm_ratchet_step, message_key, next_ck, hmk, hck]
  rfl

def entries_ahead (C : DmCrypto) (chain : Chain) (n : ℕ) : List SkipEntry :=
  (List.range n).map fun j => ⟨chain.index + UInt16.ofNat j, key_ahead C chain j, true⟩

lemma walk_loop_eq (hC : C.HkdfTotal) (chain : Chain) :
    ∀ n j, j + n ≤ DM_MAX_SKIP →
      walk_loop C n ((next_ck C)^[j] chain.ck) (chain.index + ofNat j)
        (entries_ahead C chain j) =
      some ((next_ck C)^[j + n] chain.ck, entries_ahead C chain (j + n)) := by
  intro n
  induction n with
  | zero => intro j _; rfl
  | succ n ih =>
    intro j hj
    have hroom : (entries_ahead C chain j).length < DM_MAX_SKIP := by
      rw [entries_ahead, List.length_map, List.length_range]
      omega
    have hnext : chain.index + ofNat j + 1 = chain.index + ofNat (j + 1) := by
      rw [add_assoc, ofNat_add]
      rfl
    have hpend : entries_ahead C chain j ++
        [⟨chain.index + ofNat j, key_ahead C chain j, true⟩] =
        entries_ahead C chain (j + 1) := by
      rw [entries_ahead, entries_ahead, List.range_succ, List.map_append]
      rfl
    -- one step of the loop is the loop started one place further on
    rw [walk_loop, dm_ratchet_step_eq hC]
    dsimp only
    rw [if_pos hroom, hnext, ← iterate_succ_apply' (next_ck C) j]
    have := ih (j + 1) (by omega)
    rw [← hpend] at this
    rw [show j + (n + 1) = j + 1 + n from by omega]
    exact this

/-! ## What a walk can do -/

section

variable {chain : Chain} {skip : Skip} {index : UInt16} {aad : List UInt8} {nonce : Nonce}
  {ct : List UInt8} {tag : Tag16}

/-- The bounds leave at most 16 places between cursor and index: an upper bound that wraps lies
below every index not behind the cursor. -/
lemma distance_le (hlo : ¬ index < chain.index) (hhi : ¬ index > chain.index + 16) :
    chain.index.toNat ≤ index.toNat ∧ index.toNat - chain.index.toNat ≤ DM_MAX_SKIP := by
  rw [UInt16.lt_iff_toNat_lt] at hlo
  rw [gt_iff_lt, UInt16.lt_iff_toNat_lt, UInt16.toNat_add] at hhi
  have h16 : (16 : UInt16).toNat = 16 := by decide
  have hmax : DM_MAX_SKIP = 16 := rfl
  omega

lemma recv_walk_ahead (hC : C.HkdfTotal) (hlo : ¬ index < chain.index)
    (hhi : ¬ index > chain.index + 16) :
    dm_recv_walk C chain skip index aad nonce ct tag =
      match C.aes256gcm_decrypt (key_ahead C chain (index.toNat - chain.index.toNat)) nonce ct
          aad tag with
      | none => (.FAIL, chain, skip)
      | some pt =>
        (.OK pt,
          { chain with
            ck := (next_ck C)^[index.toNat - chain.index.toNat + 1] chain.ck
            index := index + 1 },
          cache_skipped skip (entries_ahead C chain (index.toNat - chain.index.toNat))) := by
  obtain ⟨hle, hd⟩ := distance_le hlo hhi
  have hindex : chain.index + UInt16.ofNat (index.toNat - chain.index.toNat) = index := by
    have hlt := index.toNat_lt
    rw [← UInt16.toNat_inj, UInt16.toNat_add, UInt16.toNat_ofNat']
    omega
  -- the loop has no pending entries at the start, and too few steps to fill the array
  have hloop := walk_loop_eq hC chain (index.toNat - chain.index.toNat) 0 (by omega)
  rw [Nat.zero_add] at hloop
  have hstart : walk_loop C (index.toNat - chain.index.toNat) chain.ck chain.index [] =
      some ((next_ck C)^[index.toNat - chain.index.toNat] chain.ck,
        entries_ahead C chain (index.toNat - chain.index.toNat)) := by
    rw [← hloop, show UInt16.ofNat 0 = 0 from rfl, UInt16.add_zero]
    rfl
  unfold dm_recv_walk
  rw [if_neg hlo, if_neg hhi, hstart]
  dsimp only
  rw [dm_ratchet_step_eq hC, key_ahead, hindex, iterate_succ_apply']

lemma recv_walk_behind (hlt : index < chain.index) :
    dm_recv_walk C chain skip index aad nonce ct tag =
      match Table.find (fun e => e.used && e.index == index) skip with
      | none => (.TOO_FAR, chain, skip)
      | some i =>
        match C.aes256gcm_decrypt (skip i).mk nonce ct aad tag with
        | none => (.FAIL, chain, skip)
        | some pt => (.OK pt, chain, update skip i .zero) := by
  unfold dm_recv_walk
  rw [if_pos hlt]

lemma recv_walk_beyond (hlo : ¬ index < chain.index) (hhi : index > chain.index + 16) :
    dm_recv_walk C chain skip index aad nonce ct tag = (.TOO_FAR, chain, skip) := by
  unfold dm_recv_walk
  rw [if_neg hlo, if_pos hhi]

variable (chain skip index aad nonce ct tag) in
lemma recv_walk_cases (hC : C.HkdfTotal) :
    ((dm_recv_walk C chain skip index aad nonce ct tag).1.accepted = false ∧
      (dm_recv_walk C chain skip index aad nonce ct tag).2 = (chain, skip)) ∨
    (∃ i pt, index < chain.index ∧ (skip i).used ∧ (skip i).index = index ∧
      C.aes256gcm_decrypt (skip i).mk nonce ct aad tag = some pt ∧
      dm_recv_walk C chain skip index aad nonce ct tag =
        (.OK pt, chain, update skip i .zero)) ∨
    (∃ d pt, chain.index.toNat + d = index.toNat ∧ d ≤ DM_MAX_SKIP ∧
      C.aes256gcm_decrypt (key_ahead C chain d) nonce ct aad tag = some pt ∧
      dm_recv_walk C chain skip index aad nonce ct tag =
        (.OK pt, { chain with ck := (next_ck C)^[d + 1] chain.ck, index := index + 1 },
          cache_skipped skip (entries_ahead C chain d))) := by
  by_cases hlo : index < chain.index
  · rw [recv_walk_behind hlo]
    cases hfind : Table.find (fun e : SkipEntry => e.used && e.index == index) skip with
    | none => exact .inl ⟨rfl, rfl⟩
    | some i =>
      have hi := Table.find_some hfind
      rw [Bool.and_eq_true, beq_iff_eq] at hi
      dsimp only
      cases hdec : C.aes256gcm_decrypt (skip i).mk nonce ct aad tag with
      | none => exact .inl ⟨rfl, rfl⟩
      | some pt => exact .inr (.inl ⟨i, pt, hlo, hi.1, hi.2, hdec, rfl⟩)
  · by_cases hhi : index > chain.index + 16
    · rw [recv_walk_beyond hlo hhi]
      exact .inl ⟨rfl, rfl⟩
    · obtain ⟨hle, hd⟩ := distance_le hlo hhi
      rw [recv_walk_ahead hC hlo hhi]
      cases hdec : C.aes256gcm_decrypt (key_ahead C chain (index.toNat - chain.index.toNat)) nonce
          ct aad tag with
      | none => exact .inl ⟨rfl, rfl⟩
      | some pt => exact .inr (.inr ⟨_, pt, by omega, hd, hdec, rfl⟩)

end

/-! ## What the calls do -/

def sealed (C : DmCrypto) (s : Session) : Session :=
  { s with
    ratchet := { s.ratchet with
      send := { s.ratchet.send with
        ck := next_ck C s.ratchet.send.ck, index := s.ratchet.send.index + 1 } } }

lemma encrypt_spec (hC : C.HkdfTotal) (hG : C.GcmCorrect) (s : Session) (h : Header)
    (src_addr : UInt32) (pt : List UInt8) (nonce : Nonce)
    (hvalid : s.ratchet.send.valid) (hlen : pt.length ≤ 255) :
    ∃ ct tag, dm_session_ratchet_encrypt C s h src_addr pt nonce =
        some (ratchet_header s.ratchet.send.epoch s.ratchet.send.index ++ ct, tag, sealed C s) ∧
      C.aes256gcm_decrypt (message_key C s.ratchet.send.ck s.ratchet.send.index) nonce ct
        (bramble_build_aead_aad h src_addr ++
          ratchet_header s.ratchet.send.epoch s.ratchet.send.index) tag = some pt := by
  obtain ⟨ct, tag, henc, -, hdec⟩ := hG
    (message_key C s.ratchet.send.ck s.ratchet.send.index) nonce pt
    (bramble_build_aead_aad h src_addr ++
      ratchet_header s.ratchet.send.epoch s.ratchet.send.index)
  have hguard : ¬ (!s.ratchet.send.valid) := by rw [hvalid]; exact Bool.false_ne_true
  refine ⟨ct, tag, ?_, hdec⟩
  unfold dm_session_ratchet_encrypt
  rw [if_neg hguard, if_neg (by omega), dm_ratchet_step_eq hC]
  dsimp only
  rw [henc]
  rfl

lemma count_grace_frame (r : Ratchet) :
    (count_grace r).recv = r.recv ∧ (count_grace r).skip = r.skip ∧
      ((count_grace r).prev_recv = r.prev_recv ∧ (count_grace r).prev_skip = r.prev_skip ∨
        (count_grace r).prev_recv = .zero ∧ (count_grace r).prev_skip = fun _ => .zero) := by
  unfold count_grace
  dsimp only
  split_ifs
  all_goals simp

lemma count_grace_send (r : Ratchet) : (count_grace r).send = r.send := by
  unfold count_grace
  dsimp only
  split_ifs
  all_goals rfl

variable {index : UInt16} {aad ct pt : List UInt8} {nonce : Nonce} {tag : Tag16}
  {rk ck_lohi ck_hilo : Key32} {addr_self addr_peer : UInt32} {s : Session} {C : DmCrypto}

lemma try_previous_of_none {r : Ratchet} {rc : DecryptResult}
    (hprev : r.prev_recv.valid = false) :
    try_previous C r rc index aad nonce ct tag = (rc, r) := by
  unfold try_previous
  rw [hprev, if_neg Bool.false_ne_true]

section

variable {s : Session} {h : Header} {src_addr : UInt32} {nonce : Nonce} {b0 b1 b2 : UInt8}
  {ct : List UInt8} {tag : Tag16}

lemma decrypt_of_walk_ok {pt : List UInt8} {chain : Chain} {skip : Skip}
    (hvalid : s.ratchet.recv.valid)
    (hwalk : dm_recv_walk C s.ratchet.recv s.ratchet.skip (be16 b1 b2)
      (bramble_build_aead_aad h src_addr ++ [b0, b1, b2]) nonce ct tag = (.OK pt, chain, skip)) :
    dm_session_ratchet_decrypt C s h src_addr nonce (b0 :: b1 :: b2 :: ct) tag =
      (.OK pt, { s with
        ratchet := count_grace { s.ratchet with recv := chain, skip := skip } }) := by
  have hguard : ¬ (!s.ratchet.recv.valid) := by rw [hvalid]; exact Bool.false_ne_true
  unfold dm_session_ratchet_decrypt
  rw [if_neg hguard]
  dsimp only
  rw [hwalk]

lemma decrypt_of_walk_miss (hvalid : s.ratchet.recv.valid)
    (hmiss : (dm_recv_walk C s.ratchet.recv s.ratchet.skip (be16 b1 b2)
      (bramble_build_aead_aad h src_addr ++ [b0, b1, b2]) nonce ct tag).1.accepted = false)
    (hsame : (dm_recv_walk C s.ratchet.recv s.ratchet.skip (be16 b1 b2)
      (bramble_build_aead_aad h src_addr ++ [b0, b1, b2]) nonce ct tag).2 =
        (s.ratchet.recv, s.ratchet.skip)) :
    ∃ rc, DecryptResult.accepted rc = false ∧
      dm_session_ratchet_decrypt C s h src_addr nonce (b0 :: b1 :: b2 :: ct) tag =
        ((try_previous C s.ratchet rc (be16 b1 b2)
            (bramble_build_aead_aad h src_addr ++ [b0, b1, b2]) nonce ct tag).1,
          { s with
            ratchet := (try_previous C s.ratchet rc (be16 b1 b2)
              (bramble_build_aead_aad h src_addr ++ [b0, b1, b2]) nonce ct tag).2 }) := by
  have hguard : ¬ (!s.ratchet.recv.valid) := by rw [hvalid]; exact Bool.false_ne_true
  unfold dm_session_ratchet_decrypt
  rw [if_neg hguard]
  dsimp only
  generalize dm_recv_walk C s.ratchet.recv s.ratchet.skip (be16 b1 b2)
    (bramble_build_aead_aad h src_addr ++ [b0, b1, b2]) nonce ct tag = w at hmiss hsame ⊢
  obtain ⟨rc, chain, skip⟩ := w
  cases hsame
  refine ⟨rc, hmiss, ?_⟩
  match rc, hmiss with
  | .FAIL, _ => rfl
  | .TOO_FAR, _ => rfl

end

lemma chain_pair_isSome (hC : C.HkdfTotal) (rk : Key32) :
    ∃ ck_lohi ck_hilo, dm_derive_chain_pair C rk = some (ck_lohi, ck_hilo) := by
  obtain ⟨lohi, hlohi⟩ := isSome_iff_exists.1
    (hC rk.toList [] "bramble-dm-chain-lohi".toUTF8.toList)
  obtain ⟨hilo, hhilo⟩ := isSome_iff_exists.1
    (hC rk.toList [] "bramble-dm-chain-hilo".toUTF8.toList)
  refine ⟨lohi, hilo, ?_⟩
  rw [dm_derive_chain_pair, hlohi, hhilo]
  rfl

lemma dm_ratchet_init_isSome (hC : C.HkdfTotal) (ikm : Ikm) (addr_a addr_b : UInt32) :
    ∃ rk ck_lohi ck_hilo, dm_ratchet_init C ikm addr_a addr_b = some (rk, ck_lohi, ck_hilo) := by
  obtain ⟨rk, hrk⟩ := isSome_iff_exists.1
    (hC "bramble-dm-v2".toUTF8.toList ikm.toList (dm_build_info addr_a addr_b 0))
  obtain ⟨lohi, hilo, hpair⟩ := chain_pair_isSome hC rk
  refine ⟨rk, lohi, hilo, ?_⟩
  rw [dm_ratchet_init, dm_session_key_from_ikm, hrk]
  dsimp only [bind_eq_bind, bind_some]
  rw [hpair]
  rfl

lemma epoch_derived (hC : C.HkdfTotal) (rk_e dh : Key32) (addr_a addr_b : UInt32)
    (new_epoch : UInt16) :
    ∃ rk ck_lohi ck_hilo, dm_ratchet_dh C rk_e dh addr_a addr_b new_epoch = some rk ∧
      dm_derive_chain_pair C rk = some (ck_lohi, ck_hilo) := by
  obtain ⟨rk, hrk⟩ := isSome_iff_exists.1
    (hC rk_e.toList dh.toList (dm_build_info addr_a addr_b new_epoch))
  obtain ⟨lohi, hilo, hpair⟩ := chain_pair_isSome hC rk
  exact ⟨rk, lohi, hilo, hrk, hpair⟩

def installed (s : Session) (rk ck_lohi ck_hilo : Key32) (self_is_lo : Bool) : Session :=
  { s with
    ratchet :=
      { dm_ratchet_install_chains .zero ck_lohi ck_hilo self_is_lo s.ke_epoch with rk := rk }
    session_key := rk }

lemma init_state_both (hC : C.HkdfTotal) (ikm : Ikm) (hne : addr_self ≠ addr_peer) :
    ∃ rk ck_lohi ck_hilo lo,
      (∀ s, dm_session_ratchet_init_state C s ikm addr_self addr_peer =
        (true, installed s rk ck_lohi ck_hilo lo)) ∧
      ∀ s, dm_session_ratchet_init_state C s ikm addr_peer addr_self =
        (true, installed s rk ck_lohi ck_hilo !lo) := by
  wlog hlt : addr_self < addr_peer generalizing addr_self addr_peer
  · have hgt := (UInt32.lt_or_lt_of_ne hne).resolve_left hlt
    obtain ⟨rk, lohi, hilo, lo, hself, hpeer⟩ := this hne.symm hgt
    exact ⟨rk, lohi, hilo, !lo, hpeer, by rwa [Bool.not_not]⟩
  have hhi : (addr_peer == addr_self) = false := beq_eq_false_iff_ne.2 hne.symm
  obtain ⟨rk, lohi, hilo, hinit⟩ := dm_ratchet_init_isSome hC ikm addr_self addr_peer
  refine ⟨rk, lohi, hilo, true, fun s => ?_, fun s => ?_⟩
  · unfold dm_session_ratchet_init_state
    dsimp only
    rw [if_pos hlt, if_pos hlt, hinit, beq_self_eq_true]
    rfl
  · unfold dm_session_ratchet_init_state
    dsimp only
    rw [if_neg (UInt32.lt_asymm hlt), if_neg (UInt32.lt_asymm hlt), hinit, hhi]
    rfl

def rekeyed (s : Session) (rk ck_lohi ck_hilo : Key32) (self_is_lo : Bool)
    (new_epoch : UInt16) : Session :=
  { s with
    ratchet :=
      { dm_ratchet_install_chains .zero ck_lohi ck_hilo self_is_lo new_epoch with
        rk := rk, prev_recv := s.ratchet.recv, prev_skip := s.ratchet.skip }
    ke_epoch := new_epoch
    session_key := rk }

lemma epoch_bump_both (hC : C.HkdfTotal) (root dh : Key32) (new_epoch : UInt16)
    (hne : addr_self ≠ addr_peer) :
    ∃ rk ck_lohi ck_hilo lo,
      (∀ s, s.ratchet.rk = root → dm_session_epoch_bump C s dh addr_self addr_peer new_epoch =
        (true, rekeyed s rk ck_lohi ck_hilo lo new_epoch)) ∧
      ∀ s, s.ratchet.rk = root → dm_session_epoch_bump C s dh addr_peer addr_self new_epoch =
        (true, rekeyed s rk ck_lohi ck_hilo (!lo) new_epoch) := by
  wlog hlt : addr_self < addr_peer generalizing addr_self addr_peer
  · have hgt := (UInt32.lt_or_lt_of_ne hne).resolve_left hlt
    obtain ⟨rk, lohi, hilo, lo, hself, hpeer⟩ := this hne.symm hgt
    exact ⟨rk, lohi, hilo, !lo, hpeer, by rwa [Bool.not_not]⟩
  have hhi : (addr_peer == addr_self) = false := beq_eq_false_iff_ne.2 hne.symm
  obtain ⟨rk, lohi, hilo, hrk, hpair⟩ := epoch_derived hC root dh addr_self addr_peer new_epoch
  refine ⟨rk, lohi, hilo, true, fun s hroot => ?_, fun s hroot => ?_⟩
  · unfold dm_session_epoch_bump
    dsimp only
    rw [if_pos hlt, if_pos hlt, hroot, hrk, beq_self_eq_true]
    dsimp only [bind_eq_bind, bind_some]
    rw [hpair]
    rfl
  · unfold dm_session_epoch_bump
    dsimp only
    rw [if_neg (UInt32.lt_asymm hlt), if_neg (UInt32.lt_asymm hlt), hroot, hrk, hhi]
    dsimp only [bind_eq_bind, bind_some]
    rw [hpair]
    rfl

/-! ## Which key opened a frame -/

def ChainKey (C : DmCrypto) (chain : Chain) (skip : Skip) (mk : Key32) : Prop :=
  (∃ i, (skip i).used ∧ (skip i).mk = mk) ∨
    ∃ n ck pending index ck_next, walk_loop C n chain.ck chain.index [] = some (ck, pending) ∧
      dm_ratchet_step C ck index = some (mk, ck_next)

def SessionKey (C : DmCrypto) (s : Session) (mk : Key32) : Prop :=
  ChainKey C s.ratchet.recv s.ratchet.skip mk ∨
    ChainKey C s.ratchet.prev_recv s.ratchet.prev_skip mk

lemma dm_recv_walk_ok {chain : Chain} {skip : Skip}
    (h : (dm_recv_walk C chain skip index aad nonce ct tag).1 = .OK pt) :
    ∃ mk, ChainKey C chain skip mk ∧ C.aes256gcm_decrypt mk nonce ct aad tag = some pt := by
  unfold dm_recv_walk at h
  split at h
  · split at h
    · nomatch h
    · next i hfind =>
      split at h
      · nomatch h
      · next pt' hopen =>
        obtain rfl := DecryptResult.OK.inj h
        have hfound := Table.find_some hfind
        exact ⟨_, .inl ⟨i, (Bool.and_eq_true_iff.1 hfound).1, rfl⟩, hopen⟩
  · split at h
    · nomatch h
    · split at h
      · nomatch h
      · next ck pending hwalk =>
        split at h
        · nomatch h
        · next mk ck_next hstep =>
          split at h
          · nomatch h
          · next pt' hopen =>
            obtain rfl := DecryptResult.OK.inj h
            exact ⟨mk, .inr ⟨_, ck, pending, index, ck_next, hwalk, hstep⟩, hopen⟩

lemma try_previous_ok {r : Ratchet} {rc : DecryptResult} (hrc : ∀ pt, rc ≠ .OK pt)
    (h : (try_previous C r rc index aad nonce ct tag).1 = .OK pt) :
    ∃ mk, ChainKey C r.prev_recv r.prev_skip mk ∧
      C.aes256gcm_decrypt mk nonce ct aad tag = some pt := by
  unfold try_previous at h
  split at h
  · split at h
    · next pt' chain skip hwalk =>
      obtain rfl := DecryptResult.OK.inj h
      exact dm_recv_walk_ok (congrArg Prod.fst hwalk)
    · exact absurd h (hrc pt)
  · exact absurd h (hrc pt)

/-- **A frame that a session opens.**  It has a ratchet header, and one of the session's message
keys opens what is behind it. -/
theorem dm_session_ratchet_decrypt_ok {h : Header} {src_addr : UInt32} {framed_ct : List UInt8}
    (hok : (dm_session_ratchet_decrypt C s h src_addr nonce framed_ct tag).1 = .OK pt) :
    ∃ b0 b1 b2 ct mk, framed_ct = b0 :: b1 :: b2 :: ct ∧ SessionKey C s mk ∧
      C.aes256gcm_decrypt mk nonce ct (bramble_build_aead_aad h src_addr ++ [b0, b1, b2]) tag =
        some pt := by
  unfold dm_session_ratchet_decrypt at hok
  split at hok
  · nomatch hok
  · split at hok
    · next b0 b1 b2 ct =>
      dsimp only at hok
      split at hok
      · next pt' hwalk =>
        obtain rfl := DecryptResult.OK.inj hok
        obtain ⟨mk, hmk, hopen⟩ := dm_recv_walk_ok hwalk
        exact ⟨b0, b1, b2, ct, mk, rfl, .inl hmk, hopen⟩
      · next hrc =>
        obtain ⟨mk, hmk, hopen⟩ := try_previous_ok hrc hok
        exact ⟨b0, b1, b2, ct, mk, rfl, .inr hmk, hopen⟩
    · nomatch hok

end BrambleMesh.DmRatchet
