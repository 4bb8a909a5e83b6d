/-
Sending a direct message: `mesh_send_dm` and the queue of main/mesh_dm.c. What is set aside for a
peer without a session is not given back when the RESP never comes.
-/
import BrambleMesh.DmAgreement
import BrambleMesh.DmPeers
import BrambleMesh.Fragment

namespace BrambleMesh.DmSend

open DmRatchet DmHandshake DmDriver DmPeers
open DmAgreement (keyOf sumCrypto sumPair)
open Fragment (FRAG_MAX_PLAINTEXT)

/-! ## The queue -/

abbrev MAX_QUEUED_MSGS : ℕ := 8

inductive QueueReason
  | ROUTE
  | SESSION
deriving DecidableEq, Repr

structure QueuedMsg where
  dest_addr : UInt32
  data : List UInt8
  timestamp : UInt32
  used : Bool
  reason : QueueReason
  pkt_id : UInt32
  uid : UInt32
deriving DecidableEq, Repr

abbrev MsgQueue := Fin MAX_QUEUED_MSGS → QueuedMsg

def queue_session_message (q : MsgQueue) (dest_addr : UInt32) (data : List UInt8) (uid : UInt32)
    (now next_packet_id : UInt32) : MsgQueue × UInt32 :=
  match Table.find (fun m => m.used && m.uid == uid && uid != 0) q with
  | some i => (q, (q i).pkt_id)
  | none =>
    match (Table.find (fun m => !m.used) q).or
        (Table.argmaxOn (fun m => m.used && m.reason == .SESSION)
          (fun m => 0xFFFFFFFF - m.timestamp.toNat) q) with
    | none => (q, 0)
    | some i =>
      (Function.update q i ⟨dest_addr, data, now, true, .SESSION, next_packet_id, uid⟩,
        next_packet_id)

/-! ## The send -/

inductive SendResult
  | failed
  | on_session
  | queued (pkt_id : UInt32)
deriving DecidableEq, Repr

structure Tx where
  now : UInt32
  row_uid : UInt32
  next_packet_id : UInt32
  eph : Option Ephemeral
deriving DecidableEq, Repr

def mesh_send_dm (C : KeCrypto) (me : Identity) (n : Node) (q : MsgQueue) (dest_addr : UInt32)
    (data : List UInt8) (tx : Tx) : Node × MsgQueue × Option KeyExchange × SendResult :=
  if data.length > FRAG_MAX_PLAINTEXT then (n, q, none, .failed)
  else
    let sess := dm_lookup n.dm_table dest_addr
    if sess.any fun i => (n.dm_table i).state == .ACTIVE then (n, q, none, .on_session)
    else
      let handshake_in_progress :=
        sess.any fun i => !dm_handshake_is_stale (n.dm_table i) tx.now
      let n := prepare_session n dest_addr tx.now
      -- the handshaking cap: the send fails, and nothing goes out under the channel key instead
      if (dm_lookup n.dm_table dest_addr).isNone then (n, q, none, .failed)
      else
        match queue_session_message q dest_addr data tx.row_uid tx.now tx.next_packet_id with
        | (q, pkt_id) =>
          if pkt_id = 0 then (n, q, none, .failed)
          else if handshake_in_progress then (n, q, none, .queued pkt_id)
          else
            match initiate_dm_handshake C me n dest_addr 0 tx.eph with
            | (n, init) => (n, q, init, .queued pkt_id)

/-! ## Slots for new peers -/

def handshaking (t : DmTable) : ℕ := Table.count (fun s => s.state == .HANDSHAKING) t

variable {p now : UInt32} {t : DmTable}

variable (now) in
lemma dm_alloc_at_cap (hnone : dm_lookup t p = none)
    (hcap : DM_MAX_HANDSHAKING ≤ handshaking t) :
    dm_alloc t p now = (t, none) := by
  unfold dm_alloc
  rw [hnone]
  exact if_pos hcap

variable (now) in
/-- **Below the cap a peer without a session is given a slot**, if not all hold verified
sessions. -/
theorem dm_alloc_below_cap (hnone : dm_lookup t p = none)
    (hcap : handshaking t < DM_MAX_HANDSHAKING)
    (hslot : ∃ i, ¬ ((t i).state = .ACTIVE ∧ (t i).verified)) :
    ∃ t' i, dm_alloc t p now = (t', some i) := by
  unfold dm_alloc
  rw [hnone]
  have hbelow : ¬ Table.count (fun s : Slot => s.state == .HANDSHAKING) t ≥ DM_MAX_HANDSHAKING :=
    Nat.not_le.2 hcap
  rw [if_neg hbelow]
  match hfree : Table.find Slot.free t with
  | some i => exact ⟨_, i, rfl⟩
  | none =>
    obtain ⟨i, hi⟩ := hslot
    have hpred : (!((t i).state == .ACTIVE && (t i).verified)) := by
      rw [Bool.not_eq_true', Bool.and_eq_false_imp, beq_iff_eq]
      exact fun hact => Bool.eq_false_iff.2 fun hver => hi ⟨hact, hver⟩
    obtain ⟨j, hj⟩ := Table.argmaxOn_isSome
      (p := fun s : Slot => !(s.state == .ACTIVE && s.verified))
      (fun s => 0xFFFFFFFF - s.last_active_ms.toNat) hpred
    rw [hj]
    exact ⟨_, j, rfl⟩

lemma prepare_session_new {n : Node} (hnone : dm_lookup n.dm_table p = none)
    {t' : DmTable} {i : Fin DM_MAX_SESSIONS} (halloc : dm_alloc n.dm_table p now = (t', some i)) :
    (prepare_session n p now).pending_eph = n.pending_eph ∧
      ∃ s, session_of (prepare_session n p now).dm_table p = some s ∧ s.state = .HANDSHAKING := by
  unfold prepare_session
  rw [hnone]
  rw [halloc]
  refine ⟨rfl, _, (session_of_put halloc ?_).2, rfl⟩
  exact isFor_iff.2 ⟨SessionState.noConfusion, dm_alloc_peer halloc⟩

/-! ## New peers -/

section

variable {C : KeCrypto} {me : Identity} {n : Node} {q : MsgQueue} {data : List UInt8} {tx : Tx}

def first_contact (C : KeCrypto) (me : Identity) (e : Ephemeral) : KeyExchange :=
  ⟨me.address, C.public_key e, me.public_key, 0, .INIT, Tag16.zero⟩

lemma initiate_first_contact (n : Node) (p : UInt32) (e : Ephemeral) :
    initiate_dm_handshake C me n p 0 (some e) =
      ({ n with pending_eph := pending_eph_store n.pending_eph p e (C.public_key e) },
        some (first_contact C me e)) := by
  have hzero : ¬ (0 : UInt16) > 0 := UInt16.lt_irrefl 0
  unfold initiate_dm_handshake
  rw [if_neg hzero]
  rfl

variable (C me) in
lemma send_dm_starts {e : Ephemeral} (hnone : dm_lookup n.dm_table p = none)
    {t' : DmTable} {i : Fin DM_MAX_SESSIONS}
    (halloc : dm_alloc n.dm_table p tx.now = (t', some i))
    (hdata : data.length ≤ FRAG_MAX_PLAINTEXT) (heph : tx.eph = some e)
    (hqueue : (queue_session_message q p data tx.row_uid tx.now tx.next_packet_id).2 ≠ 0) :
    ∃ n' q' pkt_id, mesh_send_dm C me n q p data tx =
        (n', q', some (first_contact C me e), .queued pkt_id) ∧
      n'.pending_eph = pending_eph_store n.pending_eph p e (C.public_key e) ∧
      ∃ s, session_of n'.dm_table p = some s ∧ s.state = .HANDSHAKING := by
  obtain ⟨hpend, s, hsess, hstate⟩ := prepare_session_new hnone halloc
  obtain ⟨j, hj, -⟩ := lookup_of_session_of hsess
  unfold mesh_send_dm
  rw [if_neg (Nat.not_lt.2 hdata), hnone]
  dsimp only [Option.any_none]
  rw [hj,
    if_neg hqueue, heph, initiate_first_contact, hpend]
  exact ⟨_, _, _, rfl, rfl, s, hsess, hstate⟩

variable (C me q data) in
def SendWorks (C : KeCrypto) (me : Identity) (n : Node) (q : MsgQueue) (p : UInt32)
    (data : List UInt8) (tx : Tx) : Prop :=
  ∃ n' q' init pkt_id e, mesh_send_dm C me n q p data tx = (n', q', some init, .queued pkt_id) ∧
    pending_eph_lookup n'.pending_eph p = some ⟨p, e, C.public_key e, true⟩ ∧
    init.ephemeral_pubkey = C.public_key e ∧
    ∀ (y : Identity) (f : Ephemeral) (rx : Rx), y.address = p → y.Wf C → PinOf y rx.pinned →
      ∃ resp key n'' s,
        dm_build_resp C y (C.public_key f) f init init.key_id.toUInt16 = some (resp, key) ∧
        handle_ke_envelope C me n' p resp rx = (n'', none) ∧
        session_of n''.dm_table p = some s ∧ s.state = .ACTIVE ∧ s.peer_id_pub = y.public_key

def InitAccepted (C : KeCrypto) (me : Identity) (n : Node) (p : UInt32) (init : KeyExchange)
    (rx : Rx) : Prop :=
  ∃ n' resp s, handle_ke_envelope C me n p init rx = (n', some resp) ∧
    session_of n'.dm_table p = some s ∧ s.state = .ACTIVE ∧
    s.peer_id_pub = init.long_term_pubkey

lemma resp_completes (hC : C.HkdfTotal) (hM : C.HmacTotal) (hD : C.DhSymmetric)
    (hme : me.Wf C) (hne : me.address ≠ p) {e : Ephemeral} {s : Session}
    (hsess : session_of n.dm_table p = some s)
    (hheld : pending_eph_lookup n.pending_eph p = some ⟨p, e, C.public_key e, true⟩)
    {y : Identity} (f : Ephemeral) {rx : Rx} (haddr : y.address = p) (hy : y.Wf C)
    (hpin : PinOf y rx.pinned) :
    let init := first_contact C me e
    ∃ resp key n' s',
      dm_build_resp C y (C.public_key f) f init init.key_id.toUInt16 = some (resp, key) ∧
      handle_ke_envelope C me n p resp rx = (n', none) ∧
      session_of n'.dm_table p = some s' ∧ s'.state = .ACTIVE ∧ s'.peer_id_pub = y.public_key := by
  intro init
  obtain ⟨resp, key, ikm, hbuild, ⟨hsrc, hlong, hid, htype⟩, -, hikm, hverify⟩ :=
    verify_built_resp hC hM hD hme hy e f (rfl : init.src_addr = me.address) rfl rfl
  obtain ⟨n', hn', hsess'⟩ := handle_resp_own hC hne hsess (hsrc.trans haddr) htype
    ⟨hheld, hverify _ hpin, hikm⟩
  obtain ⟨-, hstate, -, hpub, -⟩ := establish_frame (a := s) (k := resp.key_id.toUInt16) hC hne
    resp.long_term_pubkey ikm key rx.verified
  exact ⟨resp, key, n', _, hbuild, hn', hsess', hstate, hpub.trans hlong⟩

/-- **A send to a new peer works exactly below the cap and with room for its ephemeral.** -/
theorem sendWorks_iff (hC : C.HkdfTotal) (hM : C.HmacTotal) (hD : C.DhSymmetric) (hme : me.Wf C)
    (hne : me.address ≠ p) (hnone : dm_lookup n.dm_table p = none)
    (hslot : ∃ i, ¬ ((n.dm_table i).state = .ACTIVE ∧ (n.dm_table i).verified))
    (hdata : data.length ≤ FRAG_MAX_PLAINTEXT) (heph : tx.eph.isSome)
    (hqueue : (queue_session_message q p data tx.row_uid tx.now tx.next_packet_id).2 ≠ 0) :
    SendWorks C me n q p data tx ↔
      handshaking n.dm_table < DM_MAX_HANDSHAKING ∧ HasRoom n.pending_eph p := by
  obtain ⟨e, he⟩ := Option.isSome_iff_exists.1 heph
  by_cases hcap : handshaking n.dm_table < DM_MAX_HANDSHAKING
  · obtain ⟨t', i, halloc⟩ := dm_alloc_below_cap tx.now hnone hcap hslot
    obtain ⟨n', q', pkt_id, hsend, hpend, s, hsess, -⟩ := send_dm_starts C me hnone halloc
      hdata he hqueue
    constructor
    · rintro ⟨n'', q'', init, pkt_id', e', hsend', hheld, -⟩
      refine ⟨hcap, ?_⟩
      by_contra hroom
      -- without room the entry of the peer is not there
      obtain ⟨hlost, hgone⟩ := pending_eph_store_lost hroom e (C.public_key e)
      obtain ⟨rfl, -⟩ := Prod.mk.inj (hsend.symm.trans hsend')
      rw [hpend, hlost, hgone] at hheld
      cases hheld
    · rintro ⟨-, hroom⟩
      have hheld : pending_eph_lookup n'.pending_eph p = some ⟨p, e, C.public_key e, true⟩ := by
        rw [hpend]
        exact pending_eph_store_held hroom _ _
      exact ⟨n', q', _, pkt_id, e, hsend, hheld, rfl, fun y f rx haddr hy hpin =>
        resp_completes hC hM hD hme hne hsess hheld f haddr hy hpin⟩
  · have hrefused : mesh_send_dm C me n q p data tx = (n, q, none, .failed) := by
      unfold mesh_send_dm
      dsimp only
      rw [prepare_session, hnone]
      dsimp only
      rw [dm_alloc_at_cap tx.now hnone (Nat.not_lt.1 hcap), hnone]
      exact ite_self _
    constructor
    · rintro ⟨n'', q'', init, pkt_id', e', hsend', -⟩
      rw [hrefused] at hsend'
      exact absurd (congrArg (·.2.2.1) hsend') (Option.some_ne_none init).symm
    · exact fun h => absurd h.1 hcap

/-- **A first contact from a new peer is accepted exactly below the cap.** -/
theorem initAccepted_iff (hC : C.HkdfTotal) (hM : C.HmacTotal) (hD : C.DhSymmetric) (hme : me.Wf C)
    (hne : me.address ≠ p) (hnone : dm_lookup n.dm_table p = none)
    (hslot : ∃ i, ¬ ((n.dm_table i).state = .ACTIVE ∧ (n.dm_table i).verified))
    {y : Identity} {f : Ephemeral} {init : KeyExchange} {rx : Rx} (haddr : y.address = p)
    (hy : y.Wf C)
    (hbuild : dm_build_init C y (C.public_key f) f me.address 0 none = some init)
    (hpin : PinOf y rx.pinned) (heph : rx.eph.isSome)
    (hnew : (hs_dedup_check_and_record C n.hs_dedup p init.ephemeral_pubkey init.key_id.toUInt16
      rx.now).1 = false) :
    InitAccepted C me n p init rx ↔ handshaking n.dm_table < DM_MAX_HANDSHAKING := by
  obtain ⟨g, hg⟩ := Option.isSome_iff_exists.1 heph
  obtain ⟨hsrc, hephpub, hlong, hid, htype⟩ := DmAgreement.build_init_header hbuild
  obtain ⟨d, hhandle⟩ := handle_init_new hne (hsrc.trans haddr) htype hnew
  -- a peer without a session has no key to be checked against
  have hverify : dm_verify_init C init me none rx.pinned = .ok () := by
    unfold dm_verify_init
    rw [if_neg (not_not_intro htype), hlong]
    exact if_neg hpin.matches
  have hadm : admit_init C me n.dm_table p init rx = (true, n.dm_table) := by
    unfold admit_init
    rw [session_of_eq_none.2 hnone]
    dsimp only [dm_session_peer_id, Option.bind_none]
    rw [hverify]
  obtain ⟨resp, key, ikm, hresp, -, hikm, -⟩ :=
    verify_built_resp hC hM hD hy hme f g hsrc hephpub hlong
  by_cases hcap : handshaking n.dm_table < DM_MAX_HANDSHAKING
  · obtain ⟨t', i, halloc⟩ := dm_alloc_below_cap rx.now hnone hcap hslot
    obtain ⟨hproc, -, hput⟩ := process_ke_init_installs (n := { n with hs_dedup := d }) hC hne hadm
      halloc ⟨hg, hresp, hikm⟩
    obtain ⟨-, hstate, -, hpub, -⟩ := establish_frame (C := C)
      (a := (session_of n.dm_table p).getD (fresh_session p)) (k := init.key_id.toUInt16) hC hne
      init.long_term_pubkey ikm key rx.verified
    exact ⟨fun _ => hcap, fun _ => ⟨_, resp, _, hhandle.trans hproc, hput, hstate, hpub⟩⟩
  · refine ⟨?_, fun h => absurd h hcap⟩
    rintro ⟨n', resp', s, haccept, -⟩
    rw [hhandle] at haccept
    unfold process_ke_init at haccept
    rw [hadm] at haccept
    dsimp only at haccept
    rw [hg] at haccept
    dsimp only at haccept
    rw [hresp] at haccept
    rw [dm_alloc_at_cap _ hnone (Nat.not_lt.1 hcap)] at haccept
    exact absurd (congrArg Prod.snd haccept) (Option.some_ne_none resp').symm

end

/-- **Which new peers are served.** If a slot is free or holds no verified session, a message to a
peer without a session starts a handshake that the peer can complete exactly if fewer than eight
are in progress and an ephemeral can be kept; a first contact is accepted exactly if fewer than
eight are. -/
theorem new_peer_served_iff (C : KeCrypto) (hC : C.HkdfTotal) (hM : C.HmacTotal)
    (hD : C.DhSymmetric) (me : Identity) (hme : me.Wf C) (n : Node) (p : UInt32)
    (hne : me.address ≠ p) (hnone : dm_lookup n.dm_table p = none)
    (hslot : ∃ i, ¬ ((n.dm_table i).state = .ACTIVE ∧ (n.dm_table i).verified = true)) :
    (∀ (q : MsgQueue) (data : List UInt8) (tx : Tx), data.length ≤ FRAG_MAX_PLAINTEXT →
      tx.eph.isSome →
      (queue_session_message q p data tx.row_uid tx.now tx.next_packet_id).2 ≠ 0 →
      (SendWorks C me n q p data tx ↔
        handshaking n.dm_table < DM_MAX_HANDSHAKING ∧ HasRoom n.pending_eph p)) ∧
    ∀ (y : Identity) (f : Ephemeral) (init : KeyExchange) (rx : Rx), y.address = p → y.Wf C →
      dm_build_init C y (C.public_key f) f me.address 0 none = some init →
      PinOf y rx.pinned → rx.eph.isSome →
      (hs_dedup_check_and_record C n.hs_dedup p init.ephemeral_pubkey init.key_id.toUInt16
        rx.now).1 = false →
      (InitAccepted C me n p init rx ↔ handshaking n.dm_table < DM_MAX_HANDSHAKING) := by
  constructor
  · intro q data tx hdata heph hqueue
    exact sendWorks_iff hC hM hD hme hne hnone hslot hdata heph hqueue
  · intro y f init rx haddr hy hbuild hpin heph hnew
    exact initAccepted_iff hC hM hD hme hne hnone hslot haddr hy hbuild hpin heph hnew

/-! ## Eight peers that never answer -/

def no_messages : MsgQueue := fun _ => ⟨0, [], 0, false, .ROUTE, 0, 0⟩

def me : Identity := sumPair.id .A

def send_at (now : UInt32) : Tx := ⟨now, now, now, some (keyOf now.toUInt8)⟩

def after_sends (peers : List UInt32) : Node × MsgQueue :=
  peers.foldl (fun s p =>
    let out := mesh_send_dm sumCrypto me s.1 s.2 p [72, 105] (send_at p)
    (out.1, out.2.1)) (.start, no_messages)

def after_self_heals (peers : List UInt32) : Node :=
  peers.foldl (fun n p => (initiate_dm_handshake sumCrypto me n p 0
    (some (keyOf p.toUInt8))).1) .start

def eight_peers : List UInt32 := [10, 11, 12, 13, 14, 15, 16, 17]

def seven : Node × MsgQueue := after_sends (eight_peers.take 7)

theorem new_peer_served_iff_eighth :
    SendWorks sumCrypto me seven.1 seven.2 18 [72, 105] (send_at 18) ∧
      InitAccepted sumCrypto me seven.1 18
        (first_contact sumCrypto ⟨18, keyOf 3, keyOf 3⟩ (keyOf 5)) ⟨100, none, false, true, some (keyOf 6)⟩ := by
  obtain ⟨hsend, hinit⟩ := new_peer_served_iff sumCrypto sumPair.hkdf_total sumPair.hmac_total
    sumPair.dh_symmetric me (sumPair.id_wf .A) seven.1 18 (by decide) (by decide +kernel)
    (by decide +kernel)
  exact ⟨(hsend seven.2 [72, 105] (send_at 18) (by decide) rfl (by decide +kernel)).2
      (by decide +kernel),
    (hinit ⟨18, keyOf 3, keyOf 3⟩ (keyOf 5) _ _ rfl rfl rfl (by simp [PinOf]) rfl
      (by decide +kernel)).2 (by decide +kernel)⟩

/-- **Eight peers that never answer block every other one**: a send to a ninth fails and its own
first contact is not answered. After eight self-heals the session table is empty, but the
ephemeral of an INIT to a ninth peer is not kept. -/
theorem eight_unanswered_block :
    let n := (after_sends eight_peers).1
    let q := (after_sends eight_peers).2
    let m := mesh_send_dm sumCrypto me (after_self_heals eight_peers) no_messages 18
      [72, 105] (send_at 100000)
    ((∀ i, (n.dm_table i).state = .HANDSHAKING →
        dm_handshake_is_stale (n.dm_table i) 100000 = true) ∧
      (∃ i, (n.dm_table i).free = true) ∧ dm_lookup n.dm_table 18 = none ∧
      (queue_session_message q 18 [72, 105] 100000 100000 100000).2 ≠ 0) ∧
    (mesh_send_dm sumCrypto me n q 18 [72, 105] (send_at 100000)).2.2 =
      (none, .failed) ∧
    (handle_ke_envelope sumCrypto me n 18
      (first_contact sumCrypto ⟨18, keyOf 3, keyOf 3⟩ (keyOf 5))
      ⟨100000, none, false, true, some (keyOf 6)⟩).2 = none ∧
    (∀ i, ((after_self_heals eight_peers).dm_table i).free = true) ∧
    m.2.2 = (some (first_contact sumCrypto me (keyOf 160)),
      .queued 100000) ∧
    pending_eph_lookup m.1.pending_eph 18 = none := by
  decide +kernel

end BrambleMesh.DmSend
