/-
The driver of the direct-message handshake: components/dm_session/dm_session.c (tables) and
main/mesh_dm.c (state machine). Key generation, the pin store's answers and the rate limit of the
recovery come in from outside.
-/
import BrambleMesh.DmHandshake

namespace BrambleMesh.DmDriver

open DmRatchet DmHandshake Function Option Table

/-! ## The session table -/

abbrev DM_MAX_SESSIONS : ℕ := 32

abbrev DM_MAX_HANDSHAKING : ℕ := 8

structure Slot extends Session where
  last_active_ms : UInt32

def Slot.put (slot : Slot) (s : Session) : Slot := ⟨s, slot.last_active_ms⟩

abbrev DmTable := Fin DM_MAX_SESSIONS → Slot

def Slot.isFor (peer_addr : UInt32) (s : Slot) : Bool :=
  s.state != .NONE && s.peer_addr == peer_addr

def Slot.free (s : Slot) : Bool := s.state == .NONE

def dm_lookup (t : DmTable) (peer_addr : UInt32) : Option (Fin DM_MAX_SESSIONS) :=
  Table.find (Slot.isFor peer_addr) t

def session_of (t : DmTable) (peer_addr : UInt32) : Option Session :=
  (dm_lookup t peer_addr).map fun i => (t i).toSession

def Slot.fresh (peer_addr now_ms : UInt32) : Slot :=
  { Session.zero with peer_addr := peer_addr, last_active_ms := now_ms }

def dm_session_teardown (t : DmTable) (peer_addr : UInt32) : DmTable :=
  match dm_lookup t peer_addr with
  | none => t
  | some i => update t i { Session.zero with last_active_ms := 0 }

def dm_alloc (t : DmTable) (peer_addr now_ms : UInt32) : DmTable × Option (Fin DM_MAX_SESSIONS) :=
  match dm_lookup t peer_addr with
  | some i => (t, some i)
  | none =>
    -- a flood of handshakes cannot take more than its share of the table
    if Table.count (fun s => s.state == .HANDSHAKING) t ≥ DM_MAX_HANDSHAKING then (t, none)
    else
      match Table.find Slot.free t with
      | some i => (update t i (.fresh peer_addr now_ms), some i)
      | none =>
        -- the smallest time stamp, wrap of the clock not considered, as in the source
        match Table.argmaxOn (fun s => !(s.state == .ACTIVE && s.verified))
            (fun s => 0xFFFFFFFF - s.last_active_ms.toNat) t with
        | some i => (update t i (.fresh peer_addr now_ms), some i)
        | none => (t, none)

def active_peer_id (s : Option Session) : Option Key32 :=
  s.bind fun s => if s.state = .ACTIVE then some s.peer_id_pub else none

def dm_session_peer_id (s : Option Session) : Option Key32 :=
  s.bind fun s => if s.peer_id_pub = .zero then none else some s.peer_id_pub

/-! ## Outstanding ephemerals -/

structure PendingEph where
  peer_addr : UInt32
  eph_priv : Key32
  eph_pub : Key32
  used : Bool
deriving DecidableEq, Repr

abbrev PendingTable := Fin DM_MAX_HANDSHAKING → PendingEph

def PendingEph.isFor (peer_addr : UInt32) (e : PendingEph) : Bool :=
  e.used && e.peer_addr == peer_addr

def PendingEph.free (e : PendingEph) : Bool := !e.used

def PendingEph.zero : PendingEph := ⟨0, .zero, .zero, false⟩

def pending_eph_store (t : PendingTable) (peer_addr : UInt32) (eph_priv eph_pub : Key32) :
    PendingTable :=
  match (Table.find (PendingEph.isFor peer_addr) t).or (Table.find PendingEph.free t) with
  | none => t
  | some i => update t i ⟨peer_addr, eph_priv, eph_pub, true⟩

def pending_eph_lookup (t : PendingTable) (peer_addr : UInt32) : Option PendingEph :=
  (Table.find (PendingEph.isFor peer_addr) t).map t

def pending_eph_clear (t : PendingTable) (peer_addr : UInt32) : PendingTable :=
  match Table.find (PendingEph.isFor peer_addr) t with
  | none => t
  | some i => update t i .zero

/-! ## INITs taken up -/

abbrev DM_HS_DEDUP_MAX : ℕ := 16

structure DedupEntry where
  src_addr : UInt32
  eph_pub_hash : UInt32
  ke_epoch : UInt16
  seen_ms : UInt32
  used : Bool
deriving DecidableEq, Repr

abbrev DedupTable := Fin DM_HS_DEDUP_MAX → DedupEntry

local instance dedup_max_neZero : NeZero DM_HS_DEDUP_MAX := ⟨by decide⟩

variable (C : KeCrypto)

def hs_dedup_check_and_record (t : DedupTable) (src_addr : UInt32) (eph_pub : Key32)
    (ke_epoch : UInt16) (now : UInt32) : Bool × DedupTable :=
  let hash := C.sha256_head eph_pub
  let entry : DedupEntry := ⟨src_addr, hash, ke_epoch, now, true⟩
  match Table.find (fun e => (e.used && e.src_addr == src_addr && e.eph_pub_hash == hash &&
      e.ke_epoch == ke_epoch) || !e.used) t with
  | some i => if (t i).used then (true, t) else (false, update t i entry)
  | none =>
    let lru := Table.argmax (fun e => 0xFFFFFFFF - e.seen_ms.toNat) t
    (false, update t lru entry)

/-! ## The node -/

structure Node where
  dm_table : DmTable
  pending_eph : PendingTable
  hs_dedup : DedupTable

def Node.start : Node :=
  ⟨fun _ => { Session.zero with last_active_ms := 0 }, fun _ => .zero,
    fun _ => ⟨0, 0, 0, 0, false⟩⟩

abbrev Ephemeral := Key32

def initiate_dm_handshake (me : Identity) (n : Node) (dest_addr : UInt32)
    (rekey_epoch : UInt16) (eph : Option Ephemeral) : Node × Option KeyExchange :=
  match eph with
  | none => (n, none)
  | some eph =>
    let peer_id_pub :=
      if rekey_epoch > 0 then active_peer_id (session_of n.dm_table dest_addr) else none
    -- without a cached peer key a rekey degrades to a first contact
    let rekey_epoch := if peer_id_pub.isNone then 0 else rekey_epoch
    -- an INIT that is still outstanding is forgotten: one ephemeral is kept for each peer
    match dm_build_init C me (C.public_key eph) eph dest_addr rekey_epoch peer_id_pub with
    | none => (n, none)
    | some init =>
      ({ n with pending_eph := pending_eph_store n.pending_eph dest_addr eph (C.public_key eph) },
        some init)

structure Rx where
  now : UInt32
  pinned : Option Key32
  verified : Bool
  rate_ok : Bool
  eph : Option Ephemeral
deriving DecidableEq, Repr

def is_rekey (sess : Session) (ke_epoch : UInt16) : Bool :=
  sess.state == .ACTIVE && sess.ratchet.recv.valid && decide (ke_epoch > sess.ke_epoch)

def mark_active (sess : Session) (peer_id_pub : Key32) (verified : Bool) : Session :=
  { sess with peer_id_pub := peer_id_pub, state := .ACTIVE, verified := verified }

def establish (addr_self addr_peer : UInt32) (sess : Session) (peer_id_pub : Key32)
    (ke_epoch : UInt16) (ikm : Option Ikm) (session_key : Key32) (verified : Bool) :
    Bool × Session :=
  let rekey := ikm.isSome && is_rekey sess ke_epoch
  let sess := mark_active sess peer_id_pub verified
  match ikm with
  | none => (false, { sess with session_key := session_key, ke_epoch := ke_epoch })
  | some ikm =>
    if rekey then
      dm_session_epoch_bump C.toDmCrypto sess (ikm_dh ikm) addr_self addr_peer ke_epoch
    else
      dm_session_ratchet_init_state C.toDmCrypto
        { sess with session_key := session_key, ke_epoch := ke_epoch } ikm addr_self addr_peer

def admit_init (me : Identity) (t : DmTable) (src_addr : UInt32)
    (init : KeyExchange) (rx : Rx) : Bool × DmTable :=
  let peer_id := dm_session_peer_id (session_of t src_addr)
  match dm_verify_init C init me peer_id rx.pinned with
  | .ok () => (true, t)
  | .error .PIN_MISMATCH => (false, t)
  | .error .FAIL =>
    -- recovery of a peer that lost its session: the pin vouches for it in place of the tag
    if peer_id.isSome && rx.pinned.isSome && rx.rate_ok then
      let t := dm_session_teardown t src_addr
      match dm_verify_init C init me none rx.pinned with
      | .ok () => (true, t)
      | .error _ => (false, t)
    else (false, t)

def process_ke_init (me : Identity) (n : Node) (src_addr : UInt32)
    (init : KeyExchange) (rx : Rx) : Node × Option KeyExchange :=
  let (admitted, t) := admit_init C me n.dm_table src_addr init rx
  let n := { n with dm_table := t }
  if !admitted then (n, none)
  else
    match rx.eph with
    | none => (n, none)
    | some eph =>
      let ke_epoch := init.key_id.toUInt16
      match dm_build_resp C me (C.public_key eph) eph init ke_epoch with
      | none => (n, none)
      | some (resp, session_key) =>
        let ikm := dm_compute_ikm C me.private_key eph init.long_term_pubkey init.ephemeral_pubkey
        -- the session is installed although an INIT of this node may be outstanding
        match dm_alloc n.dm_table src_addr rx.now with
        | (t, none) => ({ n with dm_table := t }, none)
        | (t, some i) =>
          let (ok, sess) := establish C me.address src_addr (t i).toSession init.long_term_pubkey
            ke_epoch ikm session_key rx.verified
          ({ n with dm_table := update t i ((t i).put sess) },
            if ok then some resp else none)

def process_ke_resp (me : Identity) (n : Node) (src_addr : UInt32)
    (resp : KeyExchange) (rx : Rx) : Node :=
  match pending_eph_lookup n.pending_eph src_addr with
  | none => n
  | some pe =>
    let ke_epoch := resp.key_id.toUInt16
    match dm_verify_resp C resp me pe.eph_priv pe.eph_pub ke_epoch rx.pinned with
    | .error _ => n
    | .ok session_key =>
      let ikm := dm_compute_ikm C me.private_key pe.eph_priv resp.long_term_pubkey
        resp.ephemeral_pubkey
      -- whatever session there is by now is established anew or rekeyed
      let pending := pending_eph_clear n.pending_eph src_addr
      match dm_alloc n.dm_table src_addr rx.now with
      | (t, none) => { n with dm_table := t, pending_eph := pending }
      | (t, some i) =>
        let (_, sess) := establish C me.address src_addr (t i).toSession resp.long_term_pubkey
          ke_epoch ikm session_key rx.verified
        { n with
          dm_table := update t i ((t i).put sess)
          pending_eph := pending }

def handle_ke_envelope (me : Identity) (n : Node) (src_addr : UInt32)
    (msg : KeyExchange) (rx : Rx) : Node × Option KeyExchange :=
  if msg.src_addr ≠ src_addr then (n, none)
  else if src_addr = me.address then (n, none)
  else
    match msg.ke_type with
    | .INIT =>
      let (dup, t) := hs_dedup_check_and_record C n.hs_dedup src_addr msg.ephemeral_pubkey
        msg.key_id.toUInt16 rx.now
      let n := { n with hs_dedup := t }
      if dup then (n, none) else process_ke_init C me n src_addr msg rx
    | .RESP => (process_ke_resp C me n src_addr msg rx, none)

def dm_handshake_is_stale (s : Slot) (now_ms : UInt32) : Bool :=
  s.state == .HANDSHAKING && now_ms - s.last_active_ms ≥ 30000

def prepare_session (n : Node) (dest_addr now : UInt32) : Node :=
  match dm_lookup n.dm_table dest_addr with
  | some i =>
    if dm_handshake_is_stale (n.dm_table i) now then
      { n with
        dm_table := update n.dm_table i { n.dm_table i with last_active_ms := now } }
    else n
  | none =>
    match dm_alloc n.dm_table dest_addr now with
    | (t, none) => { n with dm_table := t }
    | (t, some i) =>
      { n with
        dm_table := update t i ((t i).put { (t i).toSession with state := .HANDSHAKING }) }

/-! ## A node with a single peer

The tables hold many peers; between two nodes only one entry of each is in use.  The results
below say what the functions do to that entry. -/

def fresh_session (peer_addr : UInt32) : Session := { Session.zero with peer_addr := peer_addr }

structure OnlyPeer (p : UInt32) (n : Node) : Prop where
  sessions : Table.Sole (Slot.isFor p) Slot.free n.dm_table
  pending : Table.Sole (PendingEph.isFor p) PendingEph.free n.pending_eph

variable {p now : UInt32} {t t' : DmTable} {n : Node} {i : Fin DM_MAX_SESSIONS} {slot : Slot}

lemma isFor_of_free (s : Slot) (h : s.free = true) : s.isFor p = false := by
  unfold Slot.isFor
  rw [eq_of_beq h]
  rfl

lemma pending_isFor_of_free (e : PendingEph) (h : e.free = true) : e.isFor p = false := by
  unfold PendingEph.free at h
  unfold PendingEph.isFor
  rw [Bool.not_eq_true'] at h
  rw [h, Bool.false_and]

lemma isFor_iff : slot.isFor p ↔ slot.state ≠ .NONE ∧ slot.peer_addr = p := by
  unfold Slot.isFor
  rw [Bool.and_eq_true, bne_iff_ne, beq_iff_eq]

lemma peer_addr_of_session_of {s : Session} (h : session_of t p = some s) :
    s.peer_addr = p ∧ s.state ≠ .NONE := by
  obtain ⟨i, hi, rfl⟩ := map_eq_some_iff.1 h
  exact (isFor_iff.1 (find_some hi)).symm

lemma session_of_lookup (h : dm_lookup t p = some i) :
    session_of t p = some (t i).toSession := by
  rw [session_of, h, map_some]

lemma session_of_eq_none : session_of t p = none ↔ dm_lookup t p = none :=
  map_eq_none_iff

lemma dm_alloc_own (h : dm_lookup t p = some i) (now : UInt32) :
    dm_alloc t p now = (t, some i) := by
  unfold dm_alloc
  rw [h]

def Slot.VerifiedActive (s : Slot) : Prop := s.state = .ACTIVE ∧ s.verified

inductive AllocOutcome (t : DmTable) (p now : UInt32) :
    DmTable × Option (Fin DM_MAX_SESSIONS) → Prop
  | refused (hnone : dm_lookup t p = none) : AllocOutcome t p now (t, none)
  | own {i : Fin DM_MAX_SESSIONS} (hl : dm_lookup t p = some i) : AllocOutcome t p now (t, some i)
  | fresh {i : Fin DM_MAX_SESSIONS} (hnone : dm_lookup t p = none)
      (hcap : Table.count (fun s => s.state == .HANDSHAKING) t < DM_MAX_HANDSHAKING)
      (hprot : ¬ (t i).VerifiedActive)
      (hlru : (t i).state ≠ .NONE → (∀ j, (t j).state ≠ .NONE) ∧
        ∀ j, ¬ (t j).VerifiedActive → (t i).last_active_ms ≤ (t j).last_active_ms) :
      AllocOutcome t p now (update t i (.fresh p now), some i)

lemma evictable_iff (s : Slot) :
    (!(s.state == .ACTIVE && s.verified)) ↔ ¬ s.VerifiedActive := by
  rw [Bool.not_eq_true', ← Bool.not_eq_true, Bool.and_eq_true, beq_iff_eq]
  rfl

lemma dm_alloc_outcome (t : DmTable) (p now : UInt32) :
    AllocOutcome t p now (dm_alloc t p now) := by
  unfold dm_alloc
  match hl : dm_lookup t p with
  | some i => exact .own hl
  | none =>
    split_ifs with hcap
    · exact .refused hl
    · have hcap := Nat.lt_of_not_le hcap
      match hfree : find Slot.free t with
      | some i =>
        have hnone : (t i).state = .NONE := eq_of_beq (find_some hfree : (t i).free)
        refine .fresh hl hcap (fun hact => ?_) (absurd hnone)
        exact absurd (hact.1.symm.trans hnone) (by decide)
      | none =>
        match hlru : argmaxOn (fun s : Slot => !(s.state == .ACTIVE && s.verified))
            (fun s => 0xFFFFFFFF - s.last_active_ms.toNat) t with
        | none => exact .refused hl
        | some i =>
          refine .fresh hl hcap ((evictable_iff _).1 (argmaxOn_some hlru)) fun _ => ⟨?_, ?_⟩
          · intro j hj
            have hused := find_eq_none.1 hfree j
            rw [Slot.free, hj] at hused
            cases hused
          · intro j hj
            have hle := le_argmaxOn hlru ((evictable_iff (t j)).2 hj)
            have hi := (t i).last_active_ms.toNat_lt
            rw [UInt32.le_iff_toNat_le]
            omega

lemma dm_alloc_cases (h : dm_alloc t p now = (t', some i)) :
    dm_lookup t p = some i ∧ t' = t ∨
      dm_lookup t p = none ∧ t' = update t i (.fresh p now) ∧
        ¬ ((t i).state = .ACTIVE ∧ (t i).verified) := by
  have hout := dm_alloc_outcome t p now
  rw [h] at hout
  cases hout with
  | own hl => exact .inl ⟨hl, rfl⟩
  | fresh hl _ hprot => exact .inr ⟨hl, rfl, hprot⟩

lemma dm_alloc_session (h : dm_alloc t p now = (t', some i)) :
    (t' i).toSession = (session_of t p).getD (fresh_session p) := by
  rcases dm_alloc_cases h with ⟨hl, rfl⟩ | ⟨hl, rfl, -⟩
  · rw [session_of_lookup hl, getD_some]
  · rw [session_of_eq_none.2 hl, update_self]
    rfl

lemma session_of_put (h : dm_alloc t p now = (t', some i)) (hfor : slot.isFor p) :
    dm_lookup (update t' i slot) p = some i ∧
      session_of (update t' i slot) p = some slot.toSession := by
  have hlook : dm_lookup (update t' i slot) p = some i := by
    rcases dm_alloc_cases h with ⟨hl, rfl⟩ | ⟨hl, rfl, -⟩
    · exact find_update_found hl hfor
    · rw [update_idem]
      exact find_update_new hl hfor
  refine ⟨hlook, ?_⟩
  rw [session_of_lookup hlook, update_self]

lemma dm_alloc_spec (h : Sole (Slot.isFor p) Slot.free t) (now : UInt32) :
    ∃ t' i, dm_alloc t p now = (t', some i) ∧ ∀ j, j ≠ i → (t' j).free := by
  unfold dm_alloc
  match hl : dm_lookup t p with
  | some i => exact ⟨t, i, rfl, h.free_of_find_some isFor_of_free hl⟩
  | none =>
    have hfree := h.free_of_find_none hl
    -- with no entry at all the cap on handshakes is not in the way
    have hcount : count (fun s : Slot => s.state == .HANDSHAKING) t = 0 := by
      unfold count
      rw [List.countP_eq_zero]
      intro i _
      dsimp only
      rw [eq_of_beq (hfree i)]
      exact Bool.false_ne_true
    obtain ⟨i, hi⟩ := exists_find (p := Slot.free) (t := t) (hfree 0)
    refine ⟨update t i (.fresh p now), i, ?_, fun j hj => ?_⟩
    · rw [hcount, if_neg (by decide), hi]
    · rw [update_of_ne hj]
      exact hfree j

lemma session_of_teardown (h : Sole (Slot.isFor p) Slot.free t) :
    session_of (dm_session_teardown t p) p = none ∧
      Sole (Slot.isFor p) Slot.free (dm_session_teardown t p) := by
  unfold dm_session_teardown
  match hl : dm_lookup t p with
  | none =>
    refine ⟨?_, h⟩
    rw [session_of, hl, map_none]
  | some i =>
    have hfree := h.free_of_find_some isFor_of_free hl
    refine ⟨?_, sole_update hfree (.inr rfl)⟩
    unfold session_of dm_lookup
    rw [find_update_free isFor_of_free hfree rfl, map_none]

lemma pending_eph_store_spec {t : PendingTable}
    (h : Sole (PendingEph.isFor p) PendingEph.free t) (priv pub : Key32) :
    pending_eph_lookup (pending_eph_store t p priv pub) p = some ⟨p, priv, pub, true⟩ ∧
      Sole (PendingEph.isFor p) PendingEph.free (pending_eph_store t p priv pub) := by
  have hfor : PendingEph.isFor p ⟨p, priv, pub, true⟩ := by
    unfold PendingEph.isFor
    rw [beq_self_eq_true]
    rfl
  obtain ⟨i, hi, hfree⟩ : ∃ i, (find (PendingEph.isFor p) t).or
      (find PendingEph.free t) = some i ∧ ∀ j, j ≠ i → (t j).free := by
    match hf : find (PendingEph.isFor p) t with
    | some i => exact ⟨i, rfl, h.free_of_find_some pending_isFor_of_free hf⟩
    | none =>
      have hall := h.free_of_find_none hf
      obtain ⟨i, hi⟩ := exists_find (p := PendingEph.free) (t := t) (hall 0)
      exact ⟨i, hi, fun j _ => hall j⟩
  unfold pending_eph_store
  rw [hi]
  refine ⟨?_, sole_update hfree (.inl hfor)⟩
  dsimp only [pending_eph_lookup]
  rw [find_update_entry pending_isFor_of_free hfree hfor, map_some,
    update_self]

lemma pending_eph_clear_spec {t : PendingTable}
    (h : Sole (PendingEph.isFor p) PendingEph.free t) :
    pending_eph_lookup (pending_eph_clear t p) p = none ∧
      Sole (PendingEph.isFor p) PendingEph.free (pending_eph_clear t p) := by
  unfold pending_eph_clear
  match hf : find (PendingEph.isFor p) t with
  | none =>
    refine ⟨?_, h⟩
    rw [pending_eph_lookup, hf, map_none]
  | some i =>
    have hfree := h.free_of_find_some pending_isFor_of_free hf
    refine ⟨?_, sole_update hfree (.inr rfl)⟩
    dsimp only [pending_eph_lookup]
    rw [find_update_free pending_isFor_of_free hfree rfl, map_none]

/-! ## Establishing a session at both ends -/

structure Agree (a b : Session) : Prop where
  active : a.state = .ACTIVE ∧ b.state = .ACTIVE
  rk : a.ratchet.rk = b.ratchet.rk
  send_ck : a.ratchet.send.ck = b.ratchet.recv.ck
  recv_ck : a.ratchet.recv.ck = b.ratchet.send.ck
  ke_epoch : a.ke_epoch = b.ke_epoch
  valid : a.ratchet.recv.valid ∧ b.ratchet.recv.valid

lemma Agree.symm {a b : Session} (h : Agree a b) : Agree b a :=
  ⟨h.active.symm, h.rk.symm, h.recv_ck.symm, h.send_ck.symm, h.ke_epoch.symm, h.valid.symm⟩

lemma Agree.is_rekey {a b : Session} (h : Agree a b) (k : UInt16) :
    is_rekey a k = is_rekey b k := by
  unfold DmDriver.is_rekey
  rw [h.active.1, h.active.2, h.valid.1, h.valid.2, h.ke_epoch]

section

variable {C : KeCrypto} {addr_a addr_b : UInt32} {a b : Session} {k : UInt16}

lemma establish_fresh (h : is_rekey a k = false) (pub : Key32) (ikm : Ikm) (key : Key32)
    (v : Bool) :
    establish C addr_a addr_b a pub k (some ikm) key v =
      dm_session_ratchet_init_state C.toDmCrypto
        { mark_active a pub v with session_key := key, ke_epoch := k } ikm addr_a addr_b := by
  unfold establish
  rw [h]
  rfl

lemma establish_rekey (h : is_rekey a k) (pub : Key32) (ikm : Ikm) (key : Key32)
    (v : Bool) :
    establish C addr_a addr_b a pub k (some ikm) key v =
      dm_session_epoch_bump C.toDmCrypto (mark_active a pub v) (ikm_dh ikm) addr_a addr_b k := by
  unfold establish
  rw [h]
  rfl

/-- **Both ends of a handshake come out in agreement**, if they take it alike: as a rekey of
equal roots, or as a fresh start. -/
theorem establish_agree (hC : C.HkdfTotal) (hne : addr_a ≠ addr_b)
    (hsame : is_rekey a k = is_rekey b k)
    (hroot : is_rekey a k → a.ratchet.rk = b.ratchet.rk) (pa pb : Key32) (ikm : Ikm)
    (ka kb : Key32) (va vb : Bool) :
    Agree (establish C addr_a addr_b a pa k (some ikm) ka va).2
      (establish C addr_b addr_a b pb k (some ikm) kb vb).2 := by
  match hr : is_rekey a k with
  | true =>
    obtain ⟨rk, lohi, hilo, lo, hself, hpeer⟩ :=
      epoch_bump_both hC a.ratchet.rk (ikm_dh ikm) k hne
    rw [establish_rekey hr, establish_rekey (hsame ▸ hr), hself (mark_active a pa va) rfl,
      hpeer (mark_active b pb vb) (hroot hr).symm]
    cases lo <;> exact ⟨⟨rfl, rfl⟩, rfl, rfl, rfl, rfl, ⟨rfl, rfl⟩⟩
  | false =>
    obtain ⟨rk, lohi, hilo, lo, hself, hpeer⟩ := init_state_both hC ikm hne
    rw [establish_fresh hr, establish_fresh (hsame ▸ hr), hself, hpeer]
    cases lo <;> exact ⟨⟨rfl, rfl⟩, rfl, rfl, rfl, rfl, ⟨rfl, rfl⟩⟩

lemma establish_frame (hC : C.HkdfTotal) (hne : addr_a ≠ addr_b) (pub : Key32) (ikm : Ikm)
    (key : Key32) (v : Bool) :
    let out := establish C addr_a addr_b a pub k (some ikm) key v
    out.1 ∧ out.2.state = .ACTIVE ∧ out.2.peer_addr = a.peer_addr ∧
      out.2.peer_id_pub = pub ∧ out.2.ke_epoch = k := by
  match hr : is_rekey a k with
  | true =>
    obtain ⟨rk, lohi, hilo, lo, hself, -⟩ :=
      epoch_bump_both hC a.ratchet.rk (ikm_dh ikm) k hne
    rw [establish_rekey hr, hself (mark_active a pub v) rfl]
    exact ⟨rfl, rfl, rfl, rfl, rfl⟩
  | false =>
    obtain ⟨rk, lohi, hilo, lo, hself, -⟩ := init_state_both hC ikm hne
    rw [establish_fresh hr, hself]
    exact ⟨rfl, rfl, rfl, rfl, rfl⟩

end

/-! ## What the functions do to the one entry -/

section

variable {C : KeCrypto} {me : Identity}

variable (C me) in
lemma initiate_spec (h : OnlyPeer p n) (rekey_epoch : UInt16) (e : Ephemeral) :
    initiate_dm_handshake C me n p rekey_epoch (some e) = (n, none) ∨
    ∃ n' init epoch peer,
      initiate_dm_handshake C me n p rekey_epoch (some e) = (n', some init) ∧ OnlyPeer p n' ∧
      n'.dm_table = n.dm_table ∧
      pending_eph_lookup n'.pending_eph p = some ⟨p, e, C.public_key e, true⟩ ∧
      dm_build_init C me (C.public_key e) e p epoch peer = some init ∧
      (peer = none ∧ epoch = 0 ∨ epoch = rekey_epoch ∧
        ∃ s, session_of n.dm_table p = some s ∧ s.state = .ACTIVE ∧ peer = some s.peer_id_pub) := by
  unfold initiate_dm_handshake
  dsimp only
  split
  · exact .inl rfl
  · next init hbuild =>
    right
    obtain ⟨hlook, hsole⟩ := pending_eph_store_spec h.pending e (C.public_key e)
    refine ⟨_, init, _, _, rfl, ⟨h.sessions, hsole⟩, rfl, hlook, hbuild, ?_⟩
    -- a key is at hand only for a rekey of an active session
    match hp : if rekey_epoch > 0 then active_peer_id (session_of n.dm_table p) else none with
    | none => exact .inl ⟨rfl, rfl⟩
    | some peer =>
      right
      refine ⟨rfl, ?_⟩
      split_ifs at hp with hpos
      obtain ⟨s, hs, hpeer⟩ := bind_eq_some_iff.1 hp
      split_ifs at hpeer with hact
      exact ⟨s, hs, hact, hpeer.symm⟩

def takes_up (C : KeCrypto) (me : Identity) (n : Node) (src_addr : UInt32) (msg : KeyExchange)
    (rx : Rx) : Bool :=
  msg.ke_type == .INIT &&
    !(hs_dedup_check_and_record C n.hs_dedup src_addr msg.ephemeral_pubkey msg.key_id.toUInt16
      rx.now).1 &&
    (admit_init C me n.dm_table src_addr msg rx).1

variable {init resp : KeyExchange} {rx : Rx} {f : Ephemeral} {key : Key32} {ikm : Ikm}

lemma admit_init_cases (t : DmTable) (hfirst : dm_verify_init C init me none rx.pinned = .ok ()) :
    admit_init C me t p init rx = (false, t) ∨ admit_init C me t p init rx = (true, t) ∨
    admit_init C me t p init rx = (true, dm_session_teardown t p) ∧
      ∃ s, session_of t p = some s ∧
        dm_verify_init C init me (some s.peer_id_pub) rx.pinned = .error .FAIL := by
  unfold admit_init
  dsimp only
  split
  · exact .inr (.inl rfl)
  · exact .inl rfl
  · next hfail =>
    split_ifs with hheal
    · right
      right
      rw [hfirst]
      refine ⟨rfl, ?_⟩
      -- the tag was checked, so there was a cached key
      match hs : session_of t p with
      | none =>
        rw [hs] at hfail
        exact absurd (hfail.symm.trans hfirst) (by simp)
      | some s =>
        rw [hs, dm_session_peer_id, bind_some] at hfail
        refine ⟨s, rfl, ?_⟩
        split_ifs at hfail with hzero
        · exact absurd (hfail.symm.trans hfirst) (by simp)
        · exact hfail
    · exact .inl rfl

abbrev established (C : KeCrypto) (me : Identity) (p : UInt32) (t : DmTable) (pub : Key32)
    (k : UInt16) (ikm : Ikm) (key : Key32) (v : Bool) : Session :=
  (establish C me.address p ((session_of t p).getD (fresh_session p)) pub k (some ikm) key v).2

lemma establish_allocated (hC : C.HkdfTotal) (hne : me.address ≠ p) {now : UInt32}
    (halloc : dm_alloc t p now = (t', some i)) (pub : Key32) (k : UInt16) (ikm : Ikm) (key : Key32)
    (v : Bool) :
    let est := established C me p t pub k ikm key v
    establish C me.address p (t' i).toSession pub k (some ikm) key v = (true, est) ∧
      ((t' i).put est).isFor p ∧
      session_of (update t' i ((t' i).put est)) p = some est := by
  rw [dm_alloc_session halloc]
  obtain ⟨hok, hstate, hpeer, -, -⟩ := establish_frame (C := C)
    (a := (session_of t p).getD (fresh_session p)) (k := k) hC hne pub ikm key v
  have haddr : ((session_of t p).getD (fresh_session p)).peer_addr = p := by
    match hso : session_of t p with
    | none => rfl
    | some s => exact (peer_addr_of_session_of hso).1
  have hfor : ((t' i).put (established C me p t pub k ikm key v)).isFor p :=
    isFor_iff.2 ⟨fun hnone => absurd (hstate.symm.trans hnone) (by decide), hpeer.trans haddr⟩
  exact ⟨Prod.ext hok rfl, hfor, (session_of_put halloc hfor).2⟩

structure Answers (C : KeCrypto) (me : Identity) (init : KeyExchange) (rx : Rx) (f : Ephemeral)
    (resp : KeyExchange) (key : Key32) (ikm : Ikm) : Prop where
  eph : rx.eph = some f
  build : dm_build_resp C me (C.public_key f) f init init.key_id.toUInt16 = some (resp, key)
  ikm : dm_compute_ikm C me.private_key f init.long_term_pubkey init.ephemeral_pubkey = some ikm

structure Confirms (C : KeCrypto) (me : Identity) (n : Node) (p : UInt32) (resp : KeyExchange)
    (rx : Rx) (pe : PendingEph) (key : Key32) (ikm : Ikm) : Prop where
  pending : pending_eph_lookup n.pending_eph p = some pe
  verify : dm_verify_resp C resp me pe.eph_priv pe.eph_pub resp.key_id.toUInt16 rx.pinned = .ok key
  ikm : dm_compute_ikm C me.private_key pe.eph_priv resp.long_term_pubkey resp.ephemeral_pubkey =
    some ikm

variable {pe : PendingEph}

lemma process_ke_init_installs (hC : C.HkdfTotal) (hne : me.address ≠ p)
    (hadm : admit_init C me n.dm_table p init rx = (true, t))
    (halloc : dm_alloc t p rx.now = (t', some i)) (hans : Answers C me init rx f resp key ikm) :
    let est := established C me p t init.long_term_pubkey init.key_id.toUInt16 ikm key rx.verified
    process_ke_init C me n p init rx =
        ({ n with dm_table := update t' i ((t' i).put est) }, some resp) ∧
      ((t' i).put est).isFor p ∧
      session_of (update t' i ((t' i).put est)) p = some est := by
  obtain ⟨hest, hput⟩ := establish_allocated hC hne halloc init.long_term_pubkey
    init.key_id.toUInt16 ikm key rx.verified
  refine ⟨?_, hput⟩
  unfold process_ke_init
  rw [hadm]
  dsimp only
  rw [hans.eph]
  dsimp only
  rw [hans.build, hans.ikm]
  rw [halloc]
  dsimp only
  rw [hest]
  rfl

lemma process_ke_resp_installs (hC : C.HkdfTotal) (hne : me.address ≠ p)
    (halloc : dm_alloc n.dm_table p rx.now = (t', some i))
    (hconf : Confirms C me n p resp rx pe key ikm) :
    let est := established C me p n.dm_table resp.long_term_pubkey resp.key_id.toUInt16 ikm key
      rx.verified
    process_ke_resp C me n p resp rx =
        { n with
          dm_table := update t' i ((t' i).put est)
          pending_eph := pending_eph_clear n.pending_eph p } ∧
      ((t' i).put est).isFor p ∧
      session_of (update t' i ((t' i).put est)) p = some est := by
  obtain ⟨hest, hput⟩ := establish_allocated hC hne halloc resp.long_term_pubkey
    resp.key_id.toUInt16 ikm key rx.verified
  refine ⟨?_, hput⟩
  unfold process_ke_resp
  rw [hconf.pending]
  dsimp only
  rw [hconf.verify, hconf.ikm]
  rw [halloc]
  dsimp only
  rw [hest]

lemma process_ke_init_admitted (hC : C.HkdfTotal) (h : OnlyPeer p n) (hne : me.address ≠ p)
    {t' : DmTable} (hadm : admit_init C me n.dm_table p init rx = (true, t'))
    (hsole : Sole (Slot.isFor p) Slot.free t') (hans : Answers C me init rx f resp key ikm) :
    ∃ n', process_ke_init C me n p init rx = (n', some resp) ∧ OnlyPeer p n' ∧
      n'.pending_eph = n.pending_eph ∧
      session_of n'.dm_table p = some (established C me p t' init.long_term_pubkey
        init.key_id.toUInt16 ikm key rx.verified) := by
  obtain ⟨t'', i, halloc, hfree⟩ := dm_alloc_spec hsole rx.now
  obtain ⟨hproc, hfor, hsess⟩ := process_ke_init_installs hC hne hadm halloc hans
  exact ⟨_, hproc, ⟨sole_update hfree (.inl hfor), h.pending⟩, rfl, hsess⟩

/-- An INIT that is not taken up changes no session; one that is taken up is answered and the
session established from what there was, or from nothing when the tag has failed against the
cached key. -/
lemma handle_init_spec (hC : C.HkdfTotal) (h : OnlyPeer p n) (hne : me.address ≠ p)
    (hsrc : init.src_addr = p) (htype : init.ke_type = .INIT)
    (hfirst : dm_verify_init C init me none rx.pinned = .ok ())
    (hans : Answers C me init rx f resp key ikm) :
    ∃ n' out, handle_ke_envelope C me n p init rx = (n', out) ∧ OnlyPeer p n' ∧
      n'.pending_eph = n.pending_eph ∧
      (takes_up C me n p init rx = false ∧ out = none ∧ n'.dm_table = n.dm_table ∨
        takes_up C me n p init rx ∧ out = some resp ∧
        ∃ base : Option Session,
          (base = session_of n.dm_table p ∨ base = none ∧ ∃ s, session_of n.dm_table p = some s ∧
            dm_verify_init C init me (some s.peer_id_pub) rx.pinned = .error .FAIL) ∧
          session_of n'.dm_table p = some (establish C me.address p
            (base.getD (fresh_session p)) init.long_term_pubkey init.key_id.toUInt16 (some ikm) key
            rx.verified).2) := by
  unfold handle_ke_envelope takes_up
  rw [if_neg (not_not_intro hsrc), if_neg (Ne.symm hne), htype]
  dsimp only
  match hs_dedup_check_and_record C n.hs_dedup p init.ephemeral_pubkey init.key_id.toUInt16
      rx.now with
  | (true, d) => exact ⟨_, _, rfl, ⟨h.sessions, h.pending⟩, rfl, .inl ⟨rfl, rfl, rfl⟩⟩
  | (false, d) =>
    -- the entry in the cache of INITs makes no difference from here on
    have h' : OnlyPeer p { n with hs_dedup := d } := ⟨h.sessions, h.pending⟩
    rcases admit_init_cases n.dm_table (p := p) hfirst with hadm | hadm | ⟨hadm, hold⟩
    · refine ⟨{ n with hs_dedup := d }, none, ?_, h', rfl, .inl ⟨?_, rfl, rfl⟩⟩
      · unfold process_ke_init
        rw [hadm]
        rfl
      · rw [hadm]
        rfl
    · obtain ⟨n', hproc, honly, hpend, hsess⟩ :=
        process_ke_init_admitted hC h' hne hadm h.sessions hans
      refine ⟨n', _, hproc, honly, hpend, .inr ⟨?_, rfl, _, .inl rfl, hsess⟩⟩
      rw [hadm]
      rfl
    · obtain ⟨hgone, hsole⟩ := session_of_teardown h.sessions
      obtain ⟨n', hproc, honly, hpend, hsess⟩ :=
        process_ke_init_admitted hC h' hne hadm hsole hans
      refine ⟨n', _, hproc, honly, hpend, .inr ⟨?_, rfl, none, .inr ⟨rfl, hold⟩, ?_⟩⟩
      · rw [hadm]
        rfl
      · rw [hsess, established, hgone]

lemma handle_resp_eq (hne : me.address ≠ p) (hsrc : resp.src_addr = p)
    (htype : resp.ke_type = .RESP) :
    handle_ke_envelope C me n p resp rx = (process_ke_resp C me n p resp rx, none) := by
  unfold handle_ke_envelope
  rw [if_neg (not_not_intro hsrc), if_neg (Ne.symm hne), htype]

lemma handle_resp_refused (hne : me.address ≠ p) (hsrc : resp.src_addr = p)
    (htype : resp.ke_type = .RESP)
    (hrefused : ∀ pe key, pending_eph_lookup n.pending_eph p = some pe →
      dm_verify_resp C resp me pe.eph_priv pe.eph_pub resp.key_id.toUInt16 rx.pinned ≠ .ok key) :
    handle_ke_envelope C me n p resp rx = (n, none) := by
  rw [handle_resp_eq hne hsrc htype]
  unfold process_ke_resp
  match hpe : pending_eph_lookup n.pending_eph p with
  | none => rfl
  | some pe =>
    dsimp only
    match hv : dm_verify_resp C resp me pe.eph_priv pe.eph_pub resp.key_id.toUInt16 rx.pinned with
    | .error _ => rfl
    | .ok key => exact absurd hv (hrefused pe key hpe)

lemma handle_resp_spec (hC : C.HkdfTotal) (h : OnlyPeer p n) (hne : me.address ≠ p)
    (hsrc : resp.src_addr = p) (htype : resp.ke_type = .RESP)
    (hconf : Confirms C me n p resp rx pe key ikm) :
    ∃ n', handle_ke_envelope C me n p resp rx = (n', none) ∧ OnlyPeer p n' ∧
      pending_eph_lookup n'.pending_eph p = none ∧
      session_of n'.dm_table p = some (establish C me.address p
        ((session_of n.dm_table p).getD (fresh_session p)) resp.long_term_pubkey
        resp.key_id.toUInt16 (some ikm) key rx.verified).2 := by
  obtain ⟨t', i, halloc, hfree⟩ := dm_alloc_spec h.sessions rx.now
  obtain ⟨hproc, hfor, hsess⟩ := process_ke_resp_installs hC hne halloc hconf
  obtain ⟨hclear, hpsole⟩ := pending_eph_clear_spec h.pending
  exact ⟨_, (handle_resp_eq hne hsrc htype).trans (congrArg (·, none) hproc),
    ⟨sole_update hfree (.inl hfor), hpsole⟩, hclear, hsess⟩

lemma prepare_session_spec (h : OnlyPeer p n) (now : UInt32) :
    OnlyPeer p (prepare_session n p now) ∧
      (prepare_session n p now).pending_eph = n.pending_eph ∧
      (session_of (prepare_session n p now).dm_table p = session_of n.dm_table p ∨
        session_of n.dm_table p = none ∧ session_of (prepare_session n p now).dm_table p =
          some { fresh_session p with state := .HANDSHAKING }) := by
  unfold prepare_session
  match hl : dm_lookup n.dm_table p with
  | some i =>
    dsimp only
    split_ifs with hstale
    · have halloc := dm_alloc_own hl now
      have hfor : Slot.isFor p { n.dm_table i with last_active_ms := now } :=
        find_some hl
      have hfree := h.sessions.free_of_find_some isFor_of_free hl
      refine ⟨⟨sole_update hfree (.inl hfor), h.pending⟩, rfl, .inl ?_⟩
      rw [(session_of_put halloc hfor).2, session_of_lookup hl]
    · exact ⟨h, rfl, .inl rfl⟩
  | none =>
    obtain ⟨t', i, halloc, hfree⟩ := dm_alloc_spec h.sessions now
    have hnone := session_of_eq_none.2 hl
    have hsess := dm_alloc_session halloc
    rw [hnone, getD_none] at hsess
    have hfor : ((t' i).put { (t' i).toSession with state := .HANDSHAKING }).isFor p :=
      isFor_iff.2 ⟨(SessionState.noConfusion ·), by rw [hsess]; rfl⟩
    rw [halloc]
    refine ⟨⟨sole_update hfree (.inl hfor), h.pending⟩, rfl, .inr ⟨hnone, ?_⟩⟩
    rw [(session_of_put halloc hfor).2, ← hsess]
    rfl

end

end BrambleMesh.DmDriver
