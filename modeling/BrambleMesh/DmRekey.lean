/-
The proactive rekey of a session between two nodes. The epoch has 16 bits and travels in a key id
of 8; and between the INIT and the RESP only one end has moved.
-/
import BrambleMesh.DmWork
import BrambleMesh.DmConversation

namespace BrambleMesh.DmRekey

open Run DmRatchet DmHandshake DmDriver
open DmPeers DmWork DmDelivery DmConversation
open DmAgreement (Side Pair build_init_header keyOf sumPair)
open DmDriver (handle_ke_envelope)

/-! ## The two ends -/

structure Ends (P : Pair) (x : Side) (a b : Node) (sa sb : Session) : Prop where
  at_a : session_of a.dm_table (P.addr x.other) = some sa
  at_b : session_of b.dm_table (P.addr x) = some sb
  active : sa.state = .ACTIVE ∧ sb.state = .ACTIVE
  peer : sa.peer_id_pub = (P.id x.other).public_key ∧ sb.peer_id_pub = (P.id x).public_key
  valid : sa.ratchet.recv.valid ∧ sb.ratchet.recv.valid
  rk : sa.ratchet.rk = sb.ratchet.rk
  ke_epoch : sa.ke_epoch = sb.ke_epoch

variable {P : Pair} {x : Side} {a b : Node} {sa sb : Session}

variable {epoch : UInt16} {init : KeyExchange} {e : Ephemeral}

lemma Ends.is_rekey (h : Ends P x a b sa sb) (hlt : sa.ke_epoch < epoch) :
    is_rekey sa epoch ∧ is_rekey sb epoch := by
  unfold DmDriver.is_rekey
  rw [h.active.1, h.active.2, h.valid.1, h.valid.2, ← h.ke_epoch]
  simp [hlt]

lemma establish_chains {C : KeCrypto} (hC : C.HkdfTotal) {addr_a addr_b : UInt32}
    (hne : addr_a ≠ addr_b) {s : Session} {k : UInt16} (pub : Key32) (ikm : Ikm) (key : Key32)
    (v : Bool) (hr : is_rekey s k) :
    let r := (establish C addr_a addr_b s pub k (some ikm) key v).2.ratchet
    r.prev_recv = s.ratchet.recv ∧ r.send.valid ∧ r.send.index = 0 ∧ r.recv.index = 0 := by
  rw [establish_rekey hr]
  obtain ⟨rk, lohi, hilo, lo, hself, -⟩ :=
    epoch_bump_both hC s.ratchet.rk (ikm_dh ikm) k hne
  rw [hself (mark_active s pub v) rfl]
  exact ⟨rfl, rfl, rfl, rfl⟩

/-! ## The INIT -/

abbrev rekey_init (P : Pair) (x : Side) (e : Ephemeral) (epoch : UInt16) : Option KeyExchange :=
  dm_build_init P.crypto (P.id x) (P.crypto.public_key e) e (P.addr x.other) epoch
    (some (P.id x.other).public_key)

abbrev seen (P : Pair) (x : Side) (b : Node) (pub : Key32) (epoch : UInt16) (now : UInt32) : Bool :=
  (hs_dedup_check_and_record P.crypto b.hs_dedup (P.addr x) pub epoch now).1

lemma build_init_isSome (P : Pair) (x : Side) (e : Ephemeral) (epoch : UInt16) :
    ∃ init, rekey_init P x e epoch = some init := by
  obtain ⟨dh2, h2, -⟩ := P.dh_symmetric (P.id x).private_key (P.id x.other).private_key
  obtain ⟨dh3, h3, -⟩ := P.dh_symmetric e (P.id x.other).private_key
  rw [← P.id_wf x.other] at h2 h3
  obtain ⟨tag, htag⟩ := derive_ke_tag_isSome P.hkdf_total P.hmac_total
    "bramble-ke-init".toUTF8.toList (by decide +kernel) (dh2.toList ++ dh3.toList) (P.id x).address
    (P.addr x.other) epoch (transcript_1 (P.id x).address (P.addr x.other) (P.crypto.public_key e)
      (P.id x).public_key)
  unfold rekey_init dm_build_init init_tag
  dsimp only
  rw [h2, h3]
  dsimp only [Option.bind_eq_bind, Option.bind_some]
  rw [htag]
  exact ⟨_, rfl⟩

lemma initiate_rekey (h : Ends P x a b sa sb) (e : Ephemeral) (hpos : 0 < epoch) :
    ∃ a₁ init, initiate_dm_handshake P.crypto (P.id x) a (P.addr x.other) epoch (some e) =
        (a₁, some init) ∧
      rekey_init P x e epoch = some init ∧
      a₁.dm_table = a.dm_table ∧
      pending_eph_lookup a₁.pending_eph (P.addr x.other) =
        if HasRoom a.pending_eph (P.addr x.other) then
          some ⟨P.addr x.other, e, P.crypto.public_key e, true⟩
        else none := by
  obtain ⟨init, hbuild⟩ := build_init_isSome P x e epoch
  have hactive : active_peer_id (session_of a.dm_table (P.addr x.other)) =
      some (P.id x.other).public_key := by
    rw [h.at_a, active_peer_id, Option.bind_some, if_pos h.active.1, h.peer.1]
  unfold initiate_dm_handshake rekey_init
  unfold rekey_init at hbuild
  dsimp only
  rw [if_pos hpos, hactive, Option.isNone_some, if_neg Bool.false_ne_true, hbuild]
  refine ⟨_, init, rfl, rfl, rfl, ?_⟩
  dsimp only
  split_ifs with hroom
  · exact pending_eph_store_held hroom _ _
  · obtain ⟨hsame, hnone⟩ := pending_eph_store_lost hroom e (P.crypto.public_key e)
    rw [hsame, hnone]

lemma verify_without_key {peer : Option Key32} {pinned : Option Key32}
    (hbuild : dm_build_init P.crypto (P.id x) (P.crypto.public_key e) e (P.addr x.other) epoch
      peer = some init) (hpin : PinOf (P.id x) pinned) :
    dm_verify_init P.crypto init (P.id x.other) none pinned = .ok () := by
  obtain ⟨-, -, hlong, -, htype⟩ := build_init_header hbuild
  unfold dm_verify_init
  rw [if_neg (not_not_intro htype), hlong]
  exact if_neg hpin.matches

/-- **A rekey INIT whose epoch fits in the key id verifies** against the session of the peer. -/
theorem verify_rekey (h : Ends P x a b sa sb) {pinned : Option Key32}
    (hbuild : rekey_init P x e epoch = some init)
    (hfits : (epoch &&& 0xFF).toUInt8.toUInt16 = epoch) (hpin : PinOf (P.id x) pinned) :
    dm_verify_init P.crypto init (P.id x.other)
      (dm_session_peer_id (session_of b.dm_table (P.addr x))) pinned = .ok () := by
  rw [h.at_b, dm_session_peer_id, Option.bind_some]
  split_ifs with hzero
  · exact verify_without_key hbuild hpin
  · rw [h.peer.2]
    exact verify_built_init P.dh_symmetric (P.id_wf x) (P.id_wf x.other) hbuild hfits hpin

/-! ## The exchange -/

structure Rekeyed (P : Pair) (x : Side) (a b : Node) (sa sb : Session) (epoch : UInt16)
    (sa' sb' : Session) : Prop where
  at_a : session_of a.dm_table (P.addr x.other) = some sa'
  at_b : session_of b.dm_table (P.addr x) = some sb'
  agree : Agree sa' sb'
  ke_epoch : sa'.ke_epoch = epoch
  kept : sa'.ratchet.prev_recv = sa.ratchet.recv ∧ sb'.ratchet.prev_recv = sb.ratchet.recv
  send_valid : sa'.ratchet.send.valid ∧ sb'.ratchet.send.valid
  send_index : sa'.ratchet.send.index = 0 ∧ sb'.ratchet.send.index = 0
  recv_index : sa'.ratchet.recv.index = 0 ∧ sb'.ratchet.recv.index = 0

lemma init_answered (h : Ends P x a b sa sb) {f : Ephemeral} {rx_b : Rx}
    (hbuild : rekey_init P x e epoch = some init)
    (hverify : dm_verify_init P.crypto init (P.id x.other)
      (dm_session_peer_id (session_of b.dm_table (P.addr x))) rx_b.pinned = .ok ())
    (heph : rx_b.eph = some f)
    (hnew : seen P x b init.ephemeral_pubkey init.key_id.toUInt16 rx_b.now = false) :
    ∃ resp b₁ key ikm,
      handle_ke_envelope P.crypto (P.id x.other) b (P.addr x) init rx_b = (b₁, some resp) ∧
      session_of b₁.dm_table (P.addr x) = some (establish P.crypto (P.addr x.other) (P.addr x) sb
        init.long_term_pubkey init.key_id.toUInt16 (some ikm) key rx_b.verified).2 ∧
      resp.src_addr = P.addr x.other ∧ resp.ke_type = .RESP ∧
      ∀ rx_a : Rx, PinOf (P.id x.other) rx_a.pinned →
        dm_verify_resp P.crypto resp (P.id x) e (P.crypto.public_key e) resp.key_id.toUInt16
          rx_a.pinned = .ok key ∧
        ∀ a₁ : Node, a₁.dm_table = a.dm_table →
          pending_eph_lookup a₁.pending_eph (P.addr x.other) =
            some ⟨P.addr x.other, e, P.crypto.public_key e, true⟩ →
          ∃ a₂, handle_ke_envelope P.crypto (P.id x) a₁ (P.addr x.other) resp rx_a = (a₂, none) ∧
            session_of a₂.dm_table (P.addr x.other) = some (establish P.crypto (P.addr x)
              (P.addr x.other) sa resp.long_term_pubkey init.key_id.toUInt16 (some ikm) key
              rx_a.verified).2 := by
  obtain ⟨hsrc, hephpub, hlong, hid, htype⟩ := build_init_header hbuild
  obtain ⟨resp, key, ikm, hresp, ⟨hrsrc, hrlong, hrid, hrtype⟩, hikm_b, hikm_a, hconfirm⟩ :=
    verify_built_resp P.hkdf_total P.hmac_total P.dh_symmetric (P.id_wf x) (P.id_wf x.other) e f
      hsrc hephpub hlong
  have hne : (P.id x).address ≠ P.addr x.other := P.addr_ne_other x
  have hadm : admit_init P.crypto (P.id x.other) b.dm_table (P.addr x) init rx_b =
      (true, b.dm_table) := by
    unfold admit_init
    dsimp only
    rw [hverify]
  -- the responder installs its session, whatever becomes of the RESP
  obtain ⟨b₁, hb₁, hsb⟩ := handle_init_own P.hkdf_total hne.symm h.at_b hsrc htype hnew hadm
    ⟨heph, hresp, hikm_b⟩
  refine ⟨resp, b₁, key, ikm, hb₁, hsb, hrsrc, hrtype, fun rx_a hpin_a =>
    ⟨hconfirm _ hpin_a, fun a₁ htable hpend => ?_⟩⟩
  have hown := handle_resp_own P.hkdf_total hne (htable ▸ h.at_a) hrsrc hrtype
    ⟨hpend, hconfirm _ hpin_a, hikm_a⟩
  rwa [hrid] at hown

lemma rekey_exchange (h : Ends P x a b sa sb) {f : Ephemeral} {a₁ : Node} {rx_b : Rx}
    (hbuild : rekey_init P x e epoch = some init)
    (hfits : (epoch &&& 0xFF).toUInt8.toUInt16 = epoch) (hlt : sa.ke_epoch < epoch)
    (htable : a₁.dm_table = a.dm_table)
    (hpend : pending_eph_lookup a₁.pending_eph (P.addr x.other) = some ⟨P.addr x.other, e,
      P.crypto.public_key e, true⟩) (hpin_b : PinOf (P.id x) rx_b.pinned)
    (heph : rx_b.eph = some f)
    (hnew : seen P x b init.ephemeral_pubkey init.key_id.toUInt16 rx_b.now = false) :
    ∃ resp b₁ key,
      handle_ke_envelope P.crypto (P.id x.other) b (P.addr x) init rx_b = (b₁, some resp) ∧
      ∀ rx_a : Rx, PinOf (P.id x.other) rx_a.pinned →
        dm_verify_resp P.crypto resp (P.id x) e (P.crypto.public_key e) resp.key_id.toUInt16
          rx_a.pinned = .ok key ∧
        ∃ a₂ sa' sb',
          handle_ke_envelope P.crypto (P.id x) a₁ (P.addr x.other) resp rx_a = (a₂, none) ∧
          Rekeyed P x a₂ b₁ sa sb epoch sa' sb' := by
  obtain ⟨-, -, -, hid, -⟩ := build_init_header hbuild
  have hepoch : init.key_id.toUInt16 = epoch := by rw [hid, hfits]
  have hne : (P.id x).address ≠ P.addr x.other := P.addr_ne_other x
  obtain ⟨resp, b₁, key, ikm, hb₁, hsb, -, -, hanswer⟩ :=
    init_answered h hbuild (verify_rekey h hbuild hfits hpin_b) heph hnew
  refine ⟨resp, b₁, key, hb₁, fun rx_a hpin_a => ?_⟩
  obtain ⟨hverify, hconfirm⟩ := hanswer rx_a hpin_a
  obtain ⟨a₂, ha₂, hsa⟩ := hconfirm a₁ htable hpend
  rw [hepoch] at hsa hsb
  -- both roll the same root forward
  obtain ⟨hra, hrb⟩ := h.is_rekey hlt
  have hagree := establish_agree P.hkdf_total hne (hra.trans hrb.symm) (fun _ => h.rk)
    resp.long_term_pubkey init.long_term_pubkey ikm key key rx_a.verified rx_b.verified
  obtain ⟨hka, hva, hia, hja⟩ := establish_chains P.hkdf_total hne resp.long_term_pubkey ikm key
    rx_a.verified hra
  obtain ⟨hkb, hvb, hib, hjb⟩ := establish_chains P.hkdf_total hne.symm init.long_term_pubkey ikm
    key rx_b.verified hrb
  obtain ⟨-, -, -, -, hep⟩ := establish_frame (a := sa) (k := epoch) P.hkdf_total hne
    resp.long_term_pubkey ikm key rx_a.verified
  exact ⟨hverify, a₂, _, _, ha₂, hsa, hsb, hagree, hep, ⟨hka, hkb⟩, ⟨hva, hvb⟩, ⟨hia, hib⟩,
    ⟨hja, hjb⟩⟩

lemma next_epoch {e : UInt16} (h : e < 0xFFFF) :
    (e + 1).toNat = e.toNat + 1 ∧ e < e + 1 ∧ 0 < e + 1 := by
  rw [UInt16.lt_iff_toNat_lt, show (0xFFFF : UInt16).toNat = 65535 from rfl] at h
  have hnext : (e + 1).toNat = e.toNat + 1 := by
    rw [UInt16.toNat_add, show (1 : UInt16).toNat = 1 from rfl]
    omega
  refine ⟨hnext, ?_, ?_⟩
  · rw [UInt16.lt_iff_toNat_lt]
    omega
  · rw [UInt16.lt_iff_toNat_lt, hnext]
    exact Nat.succ_pos _

lemma next_epoch_fits {e : UInt16} (h : e < 0xFFFF) :
    ((e + 1) &&& 0xFF).toUInt8.toUInt16 = e + 1 ↔ e.toNat ≤ 254 := by
  obtain ⟨hnext, -, -⟩ := next_epoch h
  rw [← UInt16.toNat_inj, UInt8.toNat_toUInt16, UInt16.toNat_toUInt8, UInt16.toNat_and,
    show (0xFF : UInt16).toNat = 2 ^ 8 - 1 from rfl, Nat.and_two_pow_sub_one_eq_mod]
  omega

lemma scheduled_epoch (h : Ends P x a b sa sb) (hone : OneSlotEach a.dm_table)
    {neighbor : UInt32 → Bool} {use : Fin DM_MAX_SESSIONS → SlotUse} {s : Sched} {t : UInt32}
    (hnew : .initiate (P.addr x.other) epoch ∉ s.work_q)
    (hitem : .initiate (P.addr x.other) epoch ∈ (maybe_schedule_dm_epoch_rekey (P.addr x) neighbor
      a.dm_table use s t).work_q) : sa.ke_epoch < 0xFFFF ∧ epoch = sa.ke_epoch + 1 := by
  rcases scheduled_item hitem with hold | ⟨peer, epoch', i, heq, hdue⟩
  · exact absurd hold hnew
  · obtain ⟨rfl, rfl⟩ := WorkItem.initiate.inj heq
    have hlook := hone.lookup (i := i) (by rw [hdue.active]; exact SessionState.noConfusion)
    rw [hdue.peer_addr] at hlook
    have hsa := h.at_a
    rw [session_of_lookup hlook] at hsa
    rw [← Option.some.inj hsa]
    exact ⟨hdue.not_last, hdue.next⟩

def RekeyWorks (P : Pair) (x : Side) (a b : Node) (sa sb : Session) (epoch : UInt16)
    (e : Ephemeral) (rx_a rx_b : Rx) : Prop :=
  ∃ a₁ init b₁ resp key a₂ sa' sb',
    initiate_dm_handshake P.crypto (P.id x) a (P.addr x.other) epoch (some e) = (a₁, some init) ∧
    dm_verify_init P.crypto init (P.id x.other)
      (dm_session_peer_id (session_of b.dm_table (P.addr x))) rx_b.pinned = .ok () ∧
    handle_ke_envelope P.crypto (P.id x.other) b (P.addr x) init rx_b = (b₁, some resp) ∧
    dm_verify_resp P.crypto resp (P.id x) e (P.crypto.public_key e) resp.key_id.toUInt16
      rx_a.pinned = .ok key ∧
    handle_ke_envelope P.crypto (P.id x) a₁ (P.addr x.other) resp rx_a = (a₂, none) ∧
    Rekeyed P x a₂ b₁ sa sb epoch sa' sb'

lemma rekey_works_iff (h : Ends P x a b sa sb) {f : Ephemeral} {rx_a rx_b : Rx}
    (heph : rx_b.eph = some f) (hpin_a : PinOf (P.id x.other) rx_a.pinned)
    (hpin_b : PinOf (P.id x) rx_b.pinned) (hlast : sa.ke_epoch < 0xFFFF) :
    RekeyWorks P x a b sa sb (sa.ke_epoch + 1) e rx_a rx_b ↔
      sa.ke_epoch.toNat ≤ 254 ∧ HasRoom a.pending_eph (P.addr x.other) ∧
        seen P x b (P.crypto.public_key e) (sa.ke_epoch + 1) rx_b.now = false := by
  obtain ⟨-, hlt, hpos⟩ := next_epoch hlast
  obtain ⟨a₁, init, hinit, hbuild, htable, hheld⟩ := initiate_rekey h e hpos
  obtain ⟨-, hephpub, -, hid, htype⟩ := build_init_header hbuild
  constructor
  · rintro ⟨a₁', init', b₁, resp, key, a₂, sa', sb', hinit', hverify, hb₁, -, ha₂, hrekeyed⟩
    obtain ⟨rfl, hsome⟩ := Prod.ext_iff.1 (hinit.symm.trans hinit')
    obtain rfl := Option.some.inj hsome
    have hnew : seen P x b init.ephemeral_pubkey init.key_id.toUInt16 rx_b.now = false := by
      by_contra hdup
      have hignored : takes_up P.crypto (P.id x.other) b (P.addr x) init rx_b = false := by
        simp [takes_up, hdup]
      obtain ⟨b', hb', -⟩ := handle_init_ignored htype (verify_without_key hbuild hpin_b) hignored
      rw [hb'] at hb₁
      cases hb₁
    obtain ⟨resp', b', key', ikm, hb', -, hrsrc, hrtype, hanswer⟩ :=
      init_answered h hbuild hverify heph hnew
    obtain ⟨rfl, hsome⟩ := Prod.ext_iff.1 (hb'.symm.trans hb₁)
    obtain rfl := Option.some.inj hsome
    by_cases hroom : HasRoom a.pending_eph (P.addr x.other)
    · -- the session that the RESP makes has the epoch of eight bits
      obtain ⟨a'', ha'', hsess⟩ := (hanswer rx_a hpin_a).2 _ htable (hheld.trans (if_pos hroom))
      rw [ha''] at ha₂
      obtain rfl := (Prod.ext_iff.1 ha₂).1
      have hlow : ((sa.ke_epoch + 1) &&& 0xFF).toUInt8.toUInt16 = sa.ke_epoch + 1 := by
        rw [← hid, ← hrekeyed.ke_epoch, ← Option.some.inj (hsess.symm.trans hrekeyed.at_a)]
        exact (establish_frame P.hkdf_total (P.addr_ne_other x) _ _ _ _).2.2.2.2.symm
      rw [hephpub, hid, hlow] at hnew
      exact ⟨(next_epoch_fits hlast).1 hlow, hroom, hnew⟩
    · -- the RESP finds no ephemeral and changes nothing
      rw [handle_resp_refused (P.addr_ne_other x) hrsrc hrtype fun pe _ hpe => absurd
        ((hheld.trans (if_neg hroom)).symm.trans hpe) (by simp)] at ha₂
      obtain rfl := (Prod.ext_iff.1 ha₂).1
      have hsame := hrekeyed.at_a
      rw [htable, h.at_a] at hsame
      exact absurd (Option.some.inj hsame ▸ hrekeyed.ke_epoch) (UInt16.ne_of_lt hlt)
  · rintro ⟨hfits, hroom, hnew⟩
    have hlow := (next_epoch_fits hlast).2 hfits
    obtain ⟨resp, b₁, key, hb₁, hresp⟩ := rekey_exchange h hbuild hlow hlt htable
      (hheld.trans (if_pos hroom)) hpin_b heph (by rw [hephpub, hid, hlow]; exact hnew)
    obtain ⟨hverify, a₂, sa', sb', ha₂, hrekeyed⟩ := hresp rx_a hpin_a
    exact ⟨a₁, init, b₁, resp, key, a₂, sa', sb', hinit, verify_rekey h hbuild hlow hpin_b, hb₁,
      hverify, ha₂, hrekeyed⟩

/-- **When a scheduled rekey works**: exactly if the next epoch fits in the key id, the sender has
room for its ephemeral, and the receiver does not mistake the INIT for one it has seen. Then the
INIT and the RESP to it verify, and both sessions are rekeyed where they are and agree. -/
theorem rekey_at_next_epoch (P : Pair) (x : Side) (a b : Node) (sa sb : Session)
    (h : Ends P x a b sa sb) (hone : OneSlotEach a.dm_table) (neighbor : UInt32 → Bool)
    (use : Fin DM_MAX_SESSIONS → SlotUse) (s : Sched) (t : UInt32) (epoch : UInt16)
    (hnew : .initiate (P.addr x.other) epoch ∉ s.work_q)
    (hitem : .initiate (P.addr x.other) epoch ∈ (maybe_schedule_dm_epoch_rekey (P.addr x) neighbor
      a.dm_table use s t).work_q)
    (e f : Ephemeral) (rx_a rx_b : Rx) (heph : rx_b.eph = some f)
    (hpin_a : PinOf (P.id x.other) rx_a.pinned) (hpin_b : PinOf (P.id x) rx_b.pinned) :
    epoch = sa.ke_epoch + 1 ∧ (RekeyWorks P x a b sa sb epoch e rx_a rx_b ↔
      sa.ke_epoch.toNat ≤ 254 ∧ HasRoom a.pending_eph (P.addr x.other) ∧
        seen P x b (P.crypto.public_key e) epoch rx_b.now = false) := by
  obtain ⟨hlast, rfl⟩ := scheduled_epoch h hone hnew hitem
  exact ⟨rfl, rekey_works_iff h heph hpin_a hpin_b hlast⟩

/-! ## Two nodes -/

def first (a : Key32) : UInt8 := a.toList.headD 0

def firstByteCrypto : KeCrypto where
  hkdf_sha256 salt ikm info := some (keyOf (salt.headD 0 + ikm.headD 0 + info.foldl (· + ·) 0))
  hmac_sha256 key _ := some key
  x25519_dh a p := some (keyOf (first a + first p))
  aes256gcm_encrypt key _ pt _ := some (pt, Vector.replicate 16 (first key))
  aes256gcm_decrypt key _ ct _ tag :=
    if tag = Vector.replicate 16 (first key) then some ct else none
  public_key a := a
  sha256_head a := (first a).toUInt32

def twoNodes : Pair where
  crypto := firstByteCrypto
  id := sumPair.id
  addr_ne := sumPair.addr_ne
  id_wf := sumPair.id_wf
  hkdf_total _ _ _ := rfl
  hmac_total _ _ := rfl
  dh_symmetric a b := by
    refine ⟨_, rfl, ?_⟩
    dsimp only [firstByteCrypto]
    rw [UInt8.add_comm]

lemma twoNodes_gcm : twoNodes.crypto.GcmCorrect := by
  intro key nonce pt aad
  refine ⟨pt, _, rfl, rfl, ?_⟩
  dsimp only [twoNodes, firstByteCrypto]
  rw [if_pos rfl]

def session_at (x : Side) (epoch : UInt16) : Session :=
  { (establish twoNodes.crypto (twoNodes.addr x) (twoNodes.addr x.other)
      (fresh_session (twoNodes.addr x.other)) (twoNodes.id x.other).public_key 0
      (some (Vector.replicate 128 7)) (keyOf 0) false).2 with
    ke_epoch := epoch }

def node_at (x : Side) (epoch : UInt16) : Node :=
  { Node.start with
    dm_table := fun i => if i.val = 0 then ⟨session_at x epoch, 0⟩ else Node.start.dm_table i }

def rx_plain : Rx := ⟨100, none, false, true, some (keyOf 9)⟩

def schedule_at (epoch : UInt16) : Sched :=
  maybe_schedule_dm_epoch_rekey 1 (fun _ => true) (node_at .A epoch).dm_table (fun _ => ⟨0, 256⟩)
    ⟨fun _ => ⟨0, 0⟩, []⟩ 50

lemma ends_at (epoch : UInt16) : Ends twoNodes .A (node_at .A epoch) (node_at .B epoch)
    (session_at .A epoch) (session_at .B epoch) := by
  have hlook : ∀ x : Side, session_of (node_at x epoch).dm_table (twoNodes.addr x.other) =
      some (session_at x epoch) := by
    intro x
    have hfor : ((node_at x epoch).dm_table 0).isFor (twoNodes.addr x.other) := by
      obtain ⟨-, hstate, hpeer, -⟩ := establish_frame (C := twoNodes.crypto)
        (a := fresh_session (twoNodes.addr x.other)) (k := 0) twoNodes.hkdf_total
        (twoNodes.addr_ne_other x) (twoNodes.id x.other).public_key (Vector.replicate 128 7)
        (keyOf 0) false
      exact isFor_iff.2 ⟨fun hnone => absurd (hstate.symm.trans hnone) (by decide), hpeer⟩
    exact session_of_lookup (Table.find_eq_some_of_first hfor fun j hj => absurd hj (by simp))
  have hagree := establish_agree (C := twoNodes.crypto) (a := fresh_session 2)
    (b := fresh_session 1) (k := 0) twoNodes.hkdf_total twoNodes.addr_ne rfl
    (fun h => absurd h Bool.false_ne_true) (keyOf 2) (keyOf 1) (Vector.replicate 128 7) (keyOf 0)
    (keyOf 0) false false
  have hpeer : ∀ x : Side, (session_at x epoch).peer_id_pub = (twoNodes.id x.other).public_key :=
    fun x => (establish_frame (C := twoNodes.crypto) (a := fresh_session (twoNodes.addr x.other))
      (k := 0) twoNodes.hkdf_total (twoNodes.addr_ne_other x) (twoNodes.id x.other).public_key
      (Vector.replicate 128 7) (keyOf 0) false).2.2.2.1
  exact ⟨hlook .A, hlook .B, hagree.active, ⟨hpeer .A, hpeer .B⟩, hagree.valid, hagree.rk, rfl⟩

theorem rekey_at_next_epoch_first :
    RekeyWorks twoNodes .A (node_at .A 0) (node_at .B 0) (session_at .A 0) (session_at .B 0) 1
      (keyOf 5) rx_plain rx_plain :=
  (rekey_at_next_epoch twoNodes .A (node_at .A 0) (node_at .B 0) (session_at .A 0)
    (session_at .B 0) (ends_at 0) (by decide +kernel) (fun _ => true) (fun _ => ⟨0, 256⟩)
    ⟨fun _ => ⟨0, 0⟩, []⟩ 50 1 (by decide) (by decide +kernel) (keyOf 5) (keyOf 9) rx_plain
    rx_plain rfl (by simp [PinOf, rx_plain]) (by simp [PinOf, rx_plain])).2.2
    (by decide +kernel)

/-- **At epoch 255 the rekey fails**: it is scheduled for epoch 256, the INIT does not verify, and
both sessions stay where they are. -/
theorem rekey_at_255_fails :
    Ends twoNodes .A (node_at .A 255) (node_at .B 255) (session_at .A 255) (session_at .B 255) ∧
      (OneSlotEach (node_at .A 255).dm_table ∧ (schedule_at 255).work_q = [.initiate 2 256] ∧
        HasRoom (node_at .A 255).pending_eph 2 ∧
        seen twoNodes .A (node_at .B 255) (keyOf 5) 256 100 = false) ∧
      ¬ RekeyWorks twoNodes .A (node_at .A 255) (node_at .B 255) (session_at .A 255)
        (session_at .B 255) 256 (keyOf 5) rx_plain rx_plain := by
  refine ⟨ends_at 255, by decide +kernel, ?_⟩
  rintro ⟨a₁, init, b₁, resp, key, a₂, sa', sb', hinit, hverify, -⟩
  have hrefused : (initiate_dm_handshake twoNodes.crypto (twoNodes.id .A) (node_at .A 255) 2 256
      (some (keyOf 5))).2.all (fun init => !(dm_verify_init twoNodes.crypto init (twoNodes.id .B)
        (dm_session_peer_id (session_of (node_at .B 255).dm_table 1)) none).isOk) = true := by
    decide +kernel
  have hverify' : dm_verify_init twoNodes.crypto init (twoNodes.id .B)
      (dm_session_peer_id (session_of (node_at .B 255).dm_table 1)) none = .ok () := hverify
  have hinit' : initiate_dm_handshake twoNodes.crypto (twoNodes.id .A) (node_at .A 255) 2 256
      (some (keyOf 5)) = (a₁, some init) := hinit
  rw [hinit', Option.all_some, hverify'] at hrefused
  exact absurd hrefused (by decide)

/-! ## Messages lost -/

structure Loss where
  init : Bool
  resp : Bool
deriving DecidableEq, Repr

def rekey_attempt (P : Pair) (x : Side) (a b : Node) (epoch : UInt16) (eph : Option Ephemeral)
    (rx_a rx_b : Rx) (loss : Loss) : Node × Node :=
  match initiate_dm_handshake P.crypto (P.id x) a (P.addr x.other) epoch eph with
  | (a, none) => (a, b)
  | (a, some init) =>
    if loss.init then (a, b)
    else
      match handle_ke_envelope P.crypto (P.id x.other) b (P.addr x) init rx_b with
      | (b, none) => (a, b)
      | (b, some resp) =>
        if loss.resp then (a, b)
        else ((handle_ke_envelope P.crypto (P.id x) a (P.addr x.other) resp rx_a).1, b)

structure Quiet (sa sb : Session) : Prop where
  valid : (sa.ratchet.send.valid ∧ sb.ratchet.send.valid) ∧
    sa.ratchet.recv.valid ∧ sb.ratchet.recv.valid
  from_a : sa.ratchet.send.ck = sb.ratchet.recv.ck ∧
    sa.ratchet.send.index = sb.ratchet.recv.index
  from_b : sb.ratchet.send.ck = sa.ratchet.recv.ck ∧
    sb.ratchet.send.index = sa.ratchet.recv.index

lemma Rekeyed.quiet {sa' sb' : Session} (h : Rekeyed P x a b sa sb epoch sa' sb') :
    Quiet sa' sb' :=
  ⟨⟨h.send_valid, h.agree.valid⟩,
    ⟨h.agree.send_ck, h.send_index.1.trans h.recv_index.2.symm⟩,
    ⟨h.agree.recv_ck.symm, h.send_index.2.trans h.recv_index.1.symm⟩⟩

def RespArrives (P : Pair) (x : Side) (a b : Node) (epoch : UInt16) (eph : Option Ephemeral)
    (rx_b : Rx) (loss : Loss) : Prop :=
  ∀ a₁ init, initiate_dm_handshake P.crypto (P.id x) a (P.addr x.other) epoch eph =
      (a₁, some init) → loss.init = false →
    takes_up P.crypto (P.id x.other) b (P.addr x) init rx_b →
      (epoch &&& 0xFF).toUInt8.toUInt16 = epoch ∧
        (rx_b.eph.isSome → HasRoom a.pending_eph (P.addr x.other) ∧ loss.resp = false)

lemma attempt_quiet (h : Ends P x a b sa sb) (hquiet : Quiet sa sb)
    (hlast : sa.ke_epoch < 0xFFFF) {eph : Option Ephemeral} {rx_a rx_b : Rx} {loss : Loss}
    (hpin_a : PinOf (P.id x.other) rx_a.pinned) (hpin_b : PinOf (P.id x) rx_b.pinned)
    (hresp : RespArrives P x a b (sa.ke_epoch + 1) eph rx_b loss) :
    let out := rekey_attempt P x a b (sa.ke_epoch + 1) eph rx_a rx_b loss
    ∃ sa' sb', session_of out.1.dm_table (P.addr x.other) = some sa' ∧
      session_of out.2.dm_table (P.addr x) = some sb' ∧ Quiet sa' sb' := by
  obtain ⟨-, hlt, hpos⟩ := next_epoch hlast
  match eph with
  | none => exact ⟨sa, sb, h.at_a, h.at_b, hquiet⟩
  | some e =>
    obtain ⟨a₁, init, hinit, hbuild, htable, hheld⟩ := initiate_rekey h e hpos
    obtain ⟨-, -, -, -, htype⟩ := build_init_header hbuild
    have hsa : session_of a₁.dm_table (P.addr x.other) = some sa := by rw [htable, h.at_a]
    unfold rekey_attempt
    rw [hinit]
    dsimp only
    match hloss : loss.init with
    | true => exact ⟨sa, sb, hsa, h.at_b, hquiet⟩
    | false =>
      rw [if_neg Bool.false_ne_true]
      match htake : takes_up P.crypto (P.id x.other) b (P.addr x) init rx_b with
      | false =>
        obtain ⟨b₁, hb₁, hb₁t⟩ := handle_init_ignored htype (verify_without_key hbuild hpin_b) htake
        rw [hb₁]
        refine ⟨sa, sb, hsa, ?_, hquiet⟩
        rw [hb₁t, h.at_b]
      | true =>
        obtain ⟨hfits, hanswer⟩ := hresp a₁ init hinit hloss htake
        match heph : rx_b.eph with
        | none =>
          have hadm : admit_init P.crypto (P.id x.other) b.dm_table (P.addr x) init rx_b =
              (true, b.dm_table) := by
            unfold admit_init
            dsimp only
            rw [verify_rekey h hbuild hfits hpin_b]
          obtain ⟨b₁, hb₁, hb₁t⟩ := handle_init_keyless htype hadm heph
          rw [hb₁]
          refine ⟨sa, sb, hsa, ?_, hquiet⟩
          rw [hb₁t, h.at_b]
        | some f =>
          obtain ⟨hroom, hdelivered⟩ := hanswer (by rw [heph]; rfl)
          have hnew : seen P x b init.ephemeral_pubkey init.key_id.toUInt16 rx_b.now = false := by
            unfold takes_up at htake
            rw [Bool.and_eq_true, Bool.and_eq_true, Bool.not_eq_true'] at htake
            exact htake.1.2
          obtain ⟨resp, b₁, key, hb₁, hdone⟩ := rekey_exchange h hbuild hfits hlt htable
            (hheld.trans (if_pos hroom)) hpin_b heph hnew
          obtain ⟨-, a₂, sa', sb', ha₂, hrekeyed⟩ := hdone rx_a hpin_a
          rw [hb₁]
          dsimp only
          rw [hdelivered, ha₂]
          exact ⟨sa', sb', hrekeyed.at_a, hrekeyed.at_b, hrekeyed.quiet⟩

/-- **A rekey strands nobody if its RESP gets through.**  After an attempt with any other loss,
whatever either end seals from then on, in range, is opened by the other as it arrives. -/
theorem rekey_strands_nobody (P : Pair) (hG : P.crypto.GcmCorrect) (x : Side) (a b : Node)
    (sa sb : Session) (h : Ends P x a b sa sb) (hquiet : Quiet sa sb)
    (hlast : sa.ke_epoch < 0xFFFF) (eph : Option Ephemeral) (rx_a rx_b : Rx) (loss : Loss)
    (hpin_a : PinOf (P.id x.other) rx_a.pinned) (hpin_b : PinOf (P.id x) rx_b.pinned)
    (hresp : RespArrives P x a b (sa.ke_epoch + 1) eph rx_b loss) :
    let out := rekey_attempt P x a b (sa.ke_epoch + 1) eph rx_a rx_b loss
    ∃ sa' sb', session_of out.1.dm_table (P.addr x.other) = some sa' ∧
      session_of out.2.dm_table (P.addr x) = some sb' ∧
      ∀ es : List DmConversation.Event,
        Meets (DmConversation.step P.crypto.toDmCrypto) InRange (.start sa' sb') es →
        ∀ r ∈ (es.foldl (DmConversation.step P.crypto.toDmCrypto) (.start sa' sb')).results,
          r = true := by
  obtain ⟨sa', sb', ha, hb, hq⟩ := attempt_quiet h hquiet hlast hpin_a hpin_b hresp
  refine ⟨sa', sb', ha, hb, fun es hes => ?_⟩
  exact (conversation_flows P.hkdf_total hG (flows_start hq.valid hq.from_a hq.from_b) hes).good

lemma quiet_first : Quiet (session_at .A 0) (session_at .B 0) := by
  refine ⟨?_, ?_, ?_⟩
  all_goals decide +kernel

theorem rekey_strands_nobody_lost_init :
    let safe (loss : Loss) : Prop :=
      let out := rekey_attempt twoNodes .A (node_at .A 0) (node_at .B 0) 1 (some (keyOf 5)) rx_plain
        rx_plain loss
      ∃ sa' sb', session_of out.1.dm_table 2 = some sa' ∧ session_of out.2.dm_table 1 = some sb' ∧
        ∀ es, Meets (DmConversation.step twoNodes.crypto.toDmCrypto) InRange (.start sa' sb') es →
          ∀ r ∈ (es.foldl (DmConversation.step twoNodes.crypto.toDmCrypto)
            (.start sa' sb')).results, r = true
    safe ⟨true, false⟩ ∧ safe ⟨false, false⟩ := by
  have hsafe := fun loss => rekey_strands_nobody twoNodes twoNodes_gcm .A (node_at .A 0)
    (node_at .B 0) (session_at .A 0) (session_at .B 0) (ends_at 0) quiet_first (by decide)
    (some (keyOf 5)) rx_plain rx_plain loss (by simp [PinOf, rx_plain]) (by simp [PinOf, rx_plain])
  exact ⟨hsafe _ fun _ _ _ hlost _ => absurd hlost (by decide),
    hsafe _ fun _ _ _ _ _ => ⟨by decide, fun _ => ⟨by decide +kernel, rfl⟩⟩⟩

def talk_after (out : Node × Node) (es : List DmConversation.Event) : List Bool :=
  match session_of out.1.dm_table 2, session_of out.2.dm_table 1 with
  | some sa, some sb =>
    (es.foldl (DmConversation.step twoNodes.crypto.toDmCrypto) (.start sa sb)).results
  | _, _ => []

/-- **When only the RESP is lost, one end is stranded**: the next message of the end that has
moved to the new epoch cannot be opened. -/
theorem lost_resp_strands :
    Ends twoNodes .A (node_at .A 0) (node_at .B 0) (session_at .A 0) (session_at .B 0) ∧
      Quiet (session_at .A 0) (session_at .B 0) ∧ twoNodes.crypto.GcmCorrect ∧
      talk_after (rekey_attempt twoNodes .A (node_at .A 0) (node_at .B 0) 1 (some (keyOf 5))
        rx_plain rx_plain ⟨false, true⟩) [.send .B oneByte, .arrive .A] = [false] :=
  ⟨ends_at 0, quiet_first, twoNodes_gcm, by decide +kernel⟩

end BrambleMesh.DmRekey
