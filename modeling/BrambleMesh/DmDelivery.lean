/-
In-order delivery on a ratchet session. The two chains move in lockstep up to index 65519; at
65520 the bound of the receive window, cursor + 16, wraps to 0.
-/
import BrambleMesh.DmRatchet

namespace BrambleMesh.DmDelivery

open Bytes DmRatchet List

/-! ## The exchange -/

structure Message where
  header : Header
  src_addr : UInt32
  arrival_hop_limit : UInt8
  nonce : Nonce
  pt : List UInt8

def Message.arrived (m : Message) : Header := { m.header with hop_limit := m.arrival_hop_limit }

def exchange (C : DmCrypto) : Session → Session → List Message → List (Option DecryptResult)
  | _, _, [] => []
  | a, b, m :: ms =>
    match dm_session_ratchet_encrypt C a m.header m.src_addr m.pt m.nonce with
    | none => none :: exchange C a b ms
    | some (framed, tag, a') =>
      let (rc, b') := dm_session_ratchet_decrypt C b m.arrived m.src_addr m.nonce framed tag
      some rc :: exchange C a' b' ms

def delivered (ms : List Message) : List (Option DecryptResult) :=
  ms.map fun m => some (.OK m.pt)

/-! ## Lockstep -/

structure Lockstep (a b : Session) (k : ℕ) : Prop where
  send_valid : a.ratchet.send.valid
  recv_valid : b.ratchet.recv.valid
  ck : a.ratchet.send.ck = b.ratchet.recv.ck
  index : a.ratchet.send.index = b.ratchet.recv.index
  cursor : b.ratchet.recv.index.toNat = k
  no_previous : b.ratchet.prev_recv.valid = false

abbrev LIMIT : ℕ := 65520

variable {C : DmCrypto}

lemma Lockstep.init (hC : C.HkdfTotal) (sA sB : Session) (ikm : Ikm) {addrA addrB : UInt32}
    (hne : addrA ≠ addrB) :
    Lockstep (dm_session_ratchet_init_state C sA ikm addrA addrB).2
      (dm_session_ratchet_init_state C sB ikm addrB addrA).2 0 := by
  obtain ⟨rk, lohi, hilo, lo, hself, hpeer⟩ := init_state_both hC ikm hne
  rw [hself, hpeer]
  cases lo <;> exact ⟨rfl, rfl, rfl, rfl, rfl, rfl⟩

def SealedAt (C : DmCrypto) (ck : Key32) (index : UInt16) (m : Message) (framed : List UInt8)
    (tag : Tag16) : Prop :=
  ∃ epoch ct, framed = ratchet_header epoch index ++ ct ∧
    C.aes256gcm_decrypt (message_key C ck index) m.nonce ct
      (bramble_build_aead_aad m.header m.src_addr ++ ratchet_header epoch index) tag = some m.pt

variable {a b : Session}

lemma encrypt_sealedAt (hC : C.HkdfTotal) (hG : C.GcmCorrect)
    (hvalid : a.ratchet.send.valid) (m : Message) (hlen : m.pt.length ≤ 255) :
    ∃ framed tag, dm_session_ratchet_encrypt C a m.header m.src_addr m.pt m.nonce =
        some (framed, tag, sealed C a) ∧
      SealedAt C a.ratchet.send.ck a.ratchet.send.index m framed tag := by
  obtain ⟨ct, tag, henc, hdec⟩ := encrypt_spec hC hG a m.header m.src_addr m.pt m.nonce hvalid hlen
  exact ⟨_, tag, henc, _, ct, rfl, hdec⟩

/-- **A frame at most sixteen places ahead of the cursor is opened**, below the limit, and the
receive chain moves past it. -/
theorem decrypt_ahead (hC : C.HkdfTotal) (hvalid : b.ratchet.recv.valid) {d : ℕ}
    (hd : d ≤ DM_MAX_SKIP) (hk : b.ratchet.recv.index.toNat < LIMIT) {m : Message}
    {framed : List UInt8} {tag : Tag16}
    (hs : SealedAt C ((next_ck C)^[d] b.ratchet.recv.ck)
      (b.ratchet.recv.index + UInt16.ofNat d) m framed tag) :
    ∃ b', dm_session_ratchet_decrypt C b m.arrived m.src_addr m.nonce framed tag =
        (.OK m.pt, b') ∧
      b'.ratchet.recv = { b.ratchet.recv with
        ck := (next_ck C)^[d + 1] b.ratchet.recv.ck
        index := b.ratchet.recv.index + UInt16.ofNat d + 1 } ∧
      b'.ratchet.send = b.ratchet.send ∧
      (b'.ratchet.prev_recv = b.ratchet.prev_recv ∨ b'.ratchet.prev_recv = .zero) := by
  obtain ⟨epoch, ct, rfl, hdec⟩ := hs
  -- below the limit the window above the cursor does not wrap
  have hindex : (b.ratchet.recv.index + UInt16.ofNat d).toNat =
      b.ratchet.recv.index.toNat + d := by
    rw [UInt16.toNat_add, UInt16.toNat_ofNat']
    have hlimit : LIMIT = 65520 := rfl
    have hmax : DM_MAX_SKIP = 16 := rfl
    omega
  have hlo : ¬ b.ratchet.recv.index + UInt16.ofNat d < b.ratchet.recv.index := by
    rw [UInt16.lt_iff_toNat_lt, hindex]
    omega
  have hhi : ¬ b.ratchet.recv.index + UInt16.ofNat d > b.ratchet.recv.index + 16 := by
    rw [gt_iff_lt, UInt16.lt_iff_toNat_lt, hindex, UInt16.toNat_add]
    have h16 : (16 : UInt16).toNat = 16 := by decide
    have hlimit : LIMIT = 65520 := rfl
    have hmax : DM_MAX_SKIP = 16 := rfl
    omega
  have hdist : (b.ratchet.recv.index + UInt16.ofNat d).toNat - b.ratchet.recv.index.toNat = d := by
    omega
  -- the hop limit is not part of the associated data
  have haad : bramble_build_aead_aad m.arrived m.src_addr =
      bramble_build_aead_aad m.header m.src_addr := rfl
  have hwalk : ∃ skip, dm_recv_walk C b.ratchet.recv b.ratchet.skip
      (be16 ((b.ratchet.recv.index + UInt16.ofNat d) >>> 8).toUInt8
        ((b.ratchet.recv.index + UInt16.ofNat d) &&& 0xFF).toUInt8)
      (bramble_build_aead_aad m.arrived m.src_addr ++
        [epoch, ((b.ratchet.recv.index + UInt16.ofNat d) >>> 8).toUInt8,
          ((b.ratchet.recv.index + UInt16.ofNat d) &&& 0xFF).toUInt8])
      m.nonce ct tag =
      (.OK m.pt,
        { b.ratchet.recv with
          ck := (next_ck C)^[d + 1] b.ratchet.recv.ck
          index := b.ratchet.recv.index + UInt16.ofNat d + 1 },
        skip) := by
    rw [ratchet_header] at hdec
    rw [be16_bytes, recv_walk_ahead hC hlo hhi, hdist, key_ahead, haad, hdec]
    exact ⟨_, rfl⟩
  obtain ⟨skip, hwalk⟩ := hwalk
  obtain ⟨hrecv, -, hprev⟩ := count_grace_frame
    { b.ratchet with
      recv := { b.ratchet.recv with
        ck := (next_ck C)^[d + 1] b.ratchet.recv.ck
        index := b.ratchet.recv.index + UInt16.ofNat d + 1 }
      skip := skip }
  refine ⟨_, decrypt_of_walk_ok hvalid hwalk, hrecv, count_grace_send _, ?_⟩
  exact hprev.imp And.left And.left

lemma decrypt_at_cursor (hC : C.HkdfTotal) (hvalid : b.ratchet.recv.valid)
    (hk : b.ratchet.recv.index.toNat < LIMIT) {m : Message} {framed : List UInt8} {tag : Tag16}
    (hs : SealedAt C b.ratchet.recv.ck b.ratchet.recv.index m framed tag) :
    ∃ b', dm_session_ratchet_decrypt C b m.arrived m.src_addr m.nonce framed tag =
        (.OK m.pt, b') ∧
      b'.ratchet.recv = { b.ratchet.recv with
        ck := next_ck C b.ratchet.recv.ck, index := b.ratchet.recv.index + 1 } ∧
      b'.ratchet.send = b.ratchet.send ∧
      (b'.ratchet.prev_recv = b.ratchet.prev_recv ∨ b'.ratchet.prev_recv = .zero) := by
  have hzero : b.ratchet.recv.index + UInt16.ofNat 0 = b.ratchet.recv.index := UInt16.add_zero _
  have hs' : SealedAt C ((next_ck C)^[0] b.ratchet.recv.ck)
      (b.ratchet.recv.index + UInt16.ofNat 0) m framed tag := by
    rw [hzero]
    exact hs
  have hopen := decrypt_ahead hC hvalid (Nat.zero_le _) hk hs'
  rw [hzero] at hopen
  exact hopen

lemma Lockstep.step (hC : C.HkdfTotal) (hG : C.GcmCorrect) {k : ℕ} (hl : Lockstep a b k)
    (hk : k < LIMIT) (m : Message) (hlen : m.pt.length ≤ 255) :
    ∃ framed tag b',
      dm_session_ratchet_encrypt C a m.header m.src_addr m.pt m.nonce =
        some (framed, tag, sealed C a) ∧
      dm_session_ratchet_decrypt C b m.arrived m.src_addr m.nonce framed tag = (.OK m.pt, b') ∧
      Lockstep (sealed C a) b' (k + 1) := by
  obtain ⟨framed, tag, henc, hsealed⟩ := encrypt_sealedAt hC hG hl.send_valid m hlen
  rw [hl.ck, hl.index] at hsealed
  obtain ⟨b', hopen, hrecv, -, hprev⟩ :=
    decrypt_at_cursor hC hl.recv_valid (by rw [hl.cursor]; exact hk) hsealed
  refine ⟨framed, tag, b', henc, hopen, ?_⟩
  constructor
  · exact hl.send_valid
  · rw [hrecv]
    exact hl.recv_valid
  · rw [hrecv]
    exact congrArg (next_ck C) hl.ck
  · rw [hrecv]
    exact congrArg (· + 1) hl.index
  · rw [hrecv, UInt16.toNat_add, hl.cursor]
    have h1 : (1 : UInt16).toNat = 1 := by decide
    have hlimit : LIMIT = 65520 := rfl
    omega
  · rcases hprev with hprev | hprev
    · rw [hprev]
      exact hl.no_previous
    · rw [hprev]
      rfl

lemma decrypt_beyond (hvalid : b.ratchet.recv.valid)
    (hprev : b.ratchet.prev_recv.valid = false)
    (hlo : ¬ a.ratchet.send.index < b.ratchet.recv.index)
    (hhi : a.ratchet.send.index > b.ratchet.recv.index + 16) (h : Header) (src_addr : UInt32)
    (nonce : Nonce) (ct : List UInt8) (tag : Tag16) :
    ∃ rc, rc.accepted = false ∧
      dm_session_ratchet_decrypt C b h src_addr nonce
        (ratchet_header a.ratchet.send.epoch a.ratchet.send.index ++ ct) tag = (rc, b) := by
  have hwalk : dm_recv_walk C b.ratchet.recv b.ratchet.skip
      (be16 (a.ratchet.send.index >>> 8).toUInt8 (a.ratchet.send.index &&& 0xFF).toUInt8)
      (bramble_build_aead_aad h src_addr ++
        [a.ratchet.send.epoch, (a.ratchet.send.index >>> 8).toUInt8,
          (a.ratchet.send.index &&& 0xFF).toUInt8]) nonce ct tag =
      (.TOO_FAR, b.ratchet.recv, b.ratchet.skip) := by
    rw [be16_bytes, recv_walk_beyond hlo hhi]
  obtain ⟨rc, hrc, hmiss⟩ := decrypt_of_walk_miss hvalid (by rw [hwalk]; rfl) (by rw [hwalk])
  rw [try_previous_of_none hprev] at hmiss
  exact ⟨rc, hrc, hmiss⟩

lemma Lockstep.refused (hC : C.HkdfTotal) (hG : C.GcmCorrect) (hl : Lockstep a b LIMIT)
    (m : Message) (hlen : m.pt.length ≤ 255) :
    ∃ framed tag a' b' rc,
      dm_session_ratchet_encrypt C a m.header m.src_addr m.pt m.nonce =
        some (framed, tag, a') ∧
      dm_session_ratchet_decrypt C b m.arrived m.src_addr m.nonce framed tag = (rc, b') ∧
      rc.accepted = false := by
  obtain ⟨ct, tag, henc, -⟩ :=
    encrypt_spec hC hG a m.header m.src_addr m.pt m.nonce hl.send_valid hlen
  have hlo : ¬ a.ratchet.send.index < b.ratchet.recv.index := by
    rw [hl.index]
    exact UInt16.lt_irrefl _
  -- 65520 + 16 is 0 in 16 bits
  have hhi : a.ratchet.send.index > b.ratchet.recv.index + 16 := by
    rw [hl.index, gt_iff_lt, UInt16.lt_iff_toNat_lt, UInt16.toNat_add, hl.cursor]
    decide
  obtain ⟨rc, hrc, hmiss⟩ := decrypt_beyond (C := C) hl.recv_valid hl.no_previous hlo hhi m.arrived
    m.src_addr m.nonce ct tag
  exact ⟨_, tag, _, _, rc, henc, hmiss, hrc⟩

/-! ## Whole runs -/

lemma exchange_eq_delivered (hC : C.HkdfTotal) (hG : C.GcmCorrect) (ms : List Message) :
    ∀ (a b : Session) (k : ℕ), Lockstep a b k → k + ms.length ≤ LIMIT →
      (∀ m ∈ ms, m.pt.length ≤ 255) → exchange C a b ms = delivered ms := by
  induction ms with
  | nil =>
    intro a b k _ _ _
    rfl
  | cons m ms ih =>
    intro a b k hl hk hlen
    rw [length_cons] at hk
    obtain ⟨framed, tag, b', henc, hdec, hl'⟩ :=
      hl.step hC hG (by omega) m (hlen m mem_cons_self)
    have hrest := ih (sealed C a) b' (k + 1) hl' (by omega)
      fun m' hm' => hlen m' (mem_cons_of_mem _ hm')
    rw [exchange, henc]
    dsimp only
    rw [hdec, hrest]
    rfl

lemma exchange_ne_delivered (hC : C.HkdfTotal) (hG : C.GcmCorrect) (ms : List Message) :
    ∀ (a b : Session) (k : ℕ), Lockstep a b k → k ≤ LIMIT → LIMIT < k + ms.length →
      (∀ m ∈ ms, m.pt.length ≤ 255) → exchange C a b ms ≠ delivered ms := by
  induction ms with
  | nil =>
    intro a b k _ hk hlt _
    rw [length_nil] at hlt
    omega
  | cons m ms ih =>
    intro a b k hl hk hlt hlen heq
    rw [length_cons] at hlt
    have hm := hlen m mem_cons_self
    by_cases hlimit : k = LIMIT
    · -- the frame at the limit is refused, so the first result is no success
      rw [hlimit] at hl
      obtain ⟨framed, tag, a', b', rc, henc, hdec, hrc⟩ := hl.refused hC hG m hm
      rw [exchange, henc] at heq
      dsimp only at heq
      rw [hdec, delivered, map_cons] at heq
      have hhead : rc = .OK m.pt := Option.some.inj (cons.inj heq).1
      rw [hhead] at hrc
      cases hrc
    · obtain ⟨framed, tag, b', henc, hdec, hl'⟩ := hl.step hC hG (by omega) m hm
      rw [exchange, henc] at heq
      dsimp only at heq
      rw [hdec, delivered, map_cons] at heq
      exact ih (sealed C a) b' (k + 1) hl' (by omega) (by omega)
        (fun m' hm' => hlen m' (mem_cons_of_mem _ hm')) (cons.inj heq).2

/-- **In-order delivery reaches exactly 65520 messages**: at index 65520 the receiver's window
bound wraps to 0 and the frame at its cursor is refused as too far ahead. -/
theorem ratchet_delivers_iff (C : DmCrypto) (hC : C.HkdfTotal) (hG : C.GcmCorrect)
    (sA sB : Session) (ikm : Ikm) (addrA addrB : UInt32) (hne : addrA ≠ addrB)
    (ms : List Message) (hlen : ∀ m ∈ ms, m.pt.length ≤ 252) :
    exchange C (dm_session_ratchet_init_state C sA ikm addrA addrB).2
        (dm_session_ratchet_init_state C sB ikm addrB addrA).2 ms = delivered ms ↔
      ms.length ≤ LIMIT := by
  have hl := Lockstep.init hC sA sB ikm hne
  have hlen' : ∀ m ∈ ms, m.pt.length ≤ 255 := fun m hm => (hlen m hm).trans (by omega)
  constructor
  · intro heq
    by_contra hlong
    exact exchange_ne_delivered hC hG ms _ _ 0 hl (by omega) (by omega) hlen' heq
  · intro hshort
    exact exchange_eq_delivered hC hG ms _ _ 0 hl (by omega) hlen'

/-! ## Concrete sessions -/

def copyCrypto : DmCrypto where
  hkdf_sha256 := fun _ _ _ => some .zero
  hmac_sha256 := fun _ _ => some .zero
  x25519_dh := fun _ _ => some .zero
  aes256gcm_encrypt := fun _ _ pt _ => some (pt, Vector.replicate 16 0)
  aes256gcm_decrypt := fun _ _ ct _ _ => some ct

lemma copyCrypto_hkdfTotal : copyCrypto.HkdfTotal := fun _ _ _ => rfl

lemma copyCrypto_gcmCorrect : copyCrypto.GcmCorrect := fun _ _ pt _ => ⟨pt, _, rfl, rfl, rfl⟩

def oneByte : Message := ⟨⟨4, 1, 0, 7, 2, 1⟩, 1, 6, Vector.replicate 12 0, [42]⟩

theorem ratchet_delivers_iff_two_bytes :
    exchange copyCrypto
        (dm_session_ratchet_init_state copyCrypto .zero (Vector.replicate 128 0) 1 2).2
        (dm_session_ratchet_init_state copyCrypto .zero (Vector.replicate 128 0) 2 1).2
        [oneByte, oneByte] = delivered [oneByte, oneByte] ↔
      [oneByte, oneByte].length ≤ LIMIT :=
  ratchet_delivers_iff copyCrypto copyCrypto_hkdfTotal copyCrypto_gcmCorrect .zero .zero
    (Vector.replicate 128 0) 1 2 (by decide) [oneByte, oneByte] (by simp [oneByte])

theorem message_65521_refused :
    copyCrypto.HkdfTotal ∧ copyCrypto.GcmCorrect ∧
    (∀ m ∈ List.replicate 65521 oneByte, m.pt.length ≤ 252) ∧
    exchange copyCrypto
        (dm_session_ratchet_init_state copyCrypto .zero (Vector.replicate 128 0) 1 2).2
        (dm_session_ratchet_init_state copyCrypto .zero (Vector.replicate 128 0) 2 1).2
        (List.replicate 65521 oneByte) ≠ delivered (List.replicate 65521 oneByte) := by
  have hlen : ∀ m ∈ replicate 65521 oneByte, m.pt.length = 1 := by
    intro m hm
    rw [eq_of_mem_replicate hm]
    rfl
  refine ⟨copyCrypto_hkdfTotal, copyCrypto_gcmCorrect, ?_, ?_⟩
  · intro m hm
    rw [hlen m hm]
    omega
  · apply exchange_ne_delivered copyCrypto_hkdfTotal copyCrypto_gcmCorrect _ _ _ 0
      (Lockstep.init copyCrypto_hkdfTotal _ _ _ (by decide)) (Nat.zero_le _)
    · rw [length_replicate]
      decide
    · intro m hm
      rw [hlen m hm]
      omega

end BrambleMesh.DmDelivery
