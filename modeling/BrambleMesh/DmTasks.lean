/-
The tasks that work on the direct-message sessions: main/mesh_dm.c, main/mesh_task.c
(`handle_data`), main/mesh_beacon.c (`handle_identity_attestation`). Every stretch that other
tasks cannot get into is one event; `step_moves` lists what it can do to the session table.
-/
import BrambleMesh.DmWork
import BrambleMesh.HandleData

namespace BrambleMesh.DmTasks

open DmRatchet DmHandshake DmDriver DmPeers Function
open DmWork IdentityStore

/-! ## The machine -/

def dm_pin_disagrees (s : Session) (pinned_x25519 : Key32) : Bool :=
  s.state == .ACTIVE && s.peer_id_pub != pinned_x25519

def dm_verified_should_clear (s : Session) (pinned_x25519 : Key32) : Bool :=
  s.verified && dm_pin_disagrees s pinned_x25519

structure Sys where
  node : Node
  pins : Store
  work_q : List WorkItem
  worker : Worker
  teardown_due : Option UInt32

def Sys.start (pins : Store) : Sys := ⟨.start, pins, [], .idle, none⟩

def send_dm_packet (C : KeCrypto) (my_addr : UInt32) (t : DmTable) (dest_addr : UInt32)
    (h : Header) (payload : List UInt8) (nonce : Nonce) (sent : Option UInt32) : DmTable :=
  match dm_lookup t dest_addr with
  | none => t
  | some i =>
    if (t i).state = .ACTIVE then
      match dm_session_ratchet_encrypt C.toDmCrypto (t i).toSession h my_addr payload nonce with
      | none => t
      | some (_, _, s) => update t i ⟨s, sent.getD (t i).last_active_ms⟩
    else t

def open_dm (C : KeCrypto) (t : DmTable) (src_addr : UInt32) (h : Header) (nonce : Nonce)
    (ciphertext : List UInt8) (tag : Tag16) (now : UInt32) : DmTable × Bool :=
  match dm_lookup t src_addr with
  | none => (t, false)
  | some i =>
    if (t i).state = .ACTIVE then
      match dm_session_ratchet_decrypt C.toDmCrypto (t i).toSession h src_addr nonce ciphertext
          tag with
      | (.OK _, s) => (update t i ⟨s, now⟩, true)
      | (_, s) => (update t i ((t i).put s), false)
    else (t, false)

inductive Event
  | ke_envelope (src_addr : UInt32) (msg : KeyExchange) (now : UInt32)
  | data_packet (src_addr : UInt32) (h : Header) (nonce : Nonce) (ciphertext : List UInt8)
      (tag : Tag16) (now : UInt32) (heal : Bool)
  | attestation (att : Attestation) (now_ms : UInt32) (epoch_ms : UInt64)
  | teardown
  | post_initiate (peer : UInt32) (rekey_epoch : UInt16)
  | set_anchor (anchor_pub : Key32)
  | set_verified (address : UInt32) (sas : List UInt8)
  | clear_verified (address : UInt32)
  | fetch (eph : Option Ephemeral)
  | verify (rate_ok : Bool) (eph : Option Ephemeral)
  | install (now : UInt32)
  | prepare (dest_addr now : UInt32)
  | initiate (dest_addr : UInt32) (eph : Option Ephemeral)
  | send_packet (dest_addr : UInt32) (h : Header) (payload : List UInt8) (nonce : Nonce)
      (sent : Option UInt32)

def Sys.mesh (s s' : Sys) : Sys := if s.teardown_due.isNone then s' else s

def compare_with_pin (s : Sys) (a : UInt32) : Sys :=
  match identity_store_lookup s.pins a, session_of s.node.dm_table a with
  | some pin, some sess =>
    if dm_pin_disagrees sess pin.x25519_pub then
      { s with
        node := { s.node with dm_table := dm_session_teardown s.node.dm_table a }
        pins :=
          if dm_verified_should_clear sess pin.x25519_pub then
            (identity_store_mark_key_changed (identity_store_clear_verified s.pins a).1 a).1
          else s.pins
        teardown_due := none }
    else { s with teardown_due := none }
  | _, _ => { s with teardown_due := none }

def step (C : KeCrypto) (I : IdentityCrypto) (me : Identity) (s : Sys) : Event → Sys
  | .ke_envelope src_addr msg now =>
    let out := DmWork.handle_ke_envelope C me.address s.pins s.node.hs_dedup s.work_q src_addr msg
      now
    s.mesh { s with node := { s.node with hs_dedup := out.1 }, work_q := out.2 }
  | .data_packet src_addr h nonce ciphertext tag now heal =>
    let out := open_dm C s.node.dm_table src_addr h nonce ciphertext tag now
    s.mesh { s with
      node := { s.node with dm_table := out.1 }
      work_q := if !out.2 && heal then xQueueSend s.work_q (.initiate src_addr 0) else s.work_q }
  | .attestation att now_ms epoch_ms =>
    let out := identity_store_handle_attestation I s.pins att me.address now_ms epoch_ms
    s.mesh { s with
      pins := out.1
      teardown_due :=
        if out.2 = .NEW ∨ out.2 = .REFRESHED ∨ out.2 = .CONFLICT then some att.src_addr else none }
  | .teardown =>
    match s.teardown_due with
    | none => s
    | some a => compare_with_pin s a
  | .post_initiate peer rekey_epoch =>
    s.mesh { s with work_q := xQueueSend s.work_q (.initiate peer rekey_epoch) }
  | .set_anchor anchor_pub => s.mesh { s with pins := identity_store_set_anchor s.pins anchor_pub }
  | .set_verified address sas =>
    s.mesh { s with pins := (identity_store_set_verified s.pins address sas).1 }
  | .clear_verified address =>
    s.mesh { s with pins := (identity_store_clear_verified s.pins address).1 }
  | .fetch eph =>
    match s.worker, s.work_q with
    | .idle, item :: rest =>
      let out := DmWork.fetch C me s.node eph item
      { s with node := out.1, worker := out.2, work_q := rest }
    | _, _ => s
  | .verify rate_ok eph =>
    match s.worker with
    | .looked_up src_addr init pinned peer_id =>
      let out := verify_init C me s.node.dm_table src_addr init pinned peer_id rate_ok eph
      { s with node := { s.node with dm_table := out.1 }, worker := out.2 }
    | _ => s
  | .install now =>
    match s.worker with
    | .ready w =>
      { s with
        node := (DmWork.install C me s.node w now
          (identity_store_is_verified s.pins w.src_addr)).1
        worker := .idle }
    | _ => s
  | .prepare dest_addr now => { s with node := prepare_session s.node dest_addr now }
  | .initiate dest_addr eph =>
    { s with node := (initiate_dm_handshake C me s.node dest_addr 0 eph).1 }
  | .send_packet dest_addr h payload nonce sent =>
    { s with node := { s.node with
        dm_table := send_dm_packet C me.address s.node.dm_table dest_addr h payload nonce sent } }

/-! ## What a step does to the sessions -/

section

variable {C : KeCrypto} {I : IdentityCrypto} {me : Identity}

inductive Carries (C : DmCrypto) (s : Session) : Session → Prop
  | sealed {h : Header} {src_addr : UInt32} {pt framed : List UInt8} {nonce : Nonce} {tag : Tag16}
      {s' : Session}
      (hs : dm_session_ratchet_encrypt C s h src_addr pt nonce = some (framed, tag, s')) :
      Carries C s s'
  | opened (h : Header) (src_addr : UInt32) (nonce : Nonce) (framed : List UInt8) (tag : Tag16) :
      Carries C s (dm_session_ratchet_decrypt C s h src_addr nonce framed tag).2

lemma Carries.hands {C : DmCrypto} {s s' : Session} (h : Carries C s s') :
    s'.state = s.state ∧ s'.peer_addr = s.peer_addr ∧ s'.peer_id_pub = s.peer_id_pub := by
  cases h with
  | sealed hs =>
    unfold dm_session_ratchet_encrypt at hs
    dsimp only at hs
    split_ifs at hs
    split at hs
    · cases hs
    · split at hs
      · cases hs
      · obtain ⟨-, -, rfl⟩ := Option.some.inj hs
        exact ⟨rfl, rfl, rfl⟩
  | opened h src_addr nonce framed tag =>
    unfold dm_session_ratchet_decrypt
    split_ifs
    · exact ⟨rfl, rfl, rfl⟩
    · split
      · dsimp only
        split <;> exact ⟨rfl, rfl, rfl⟩
      · exact ⟨rfl, rfl, rfl⟩

inductive Moves (C : KeCrypto) (me : Identity) (s : Sys) (e : Event) (t : DmTable) : Prop
  | same (ht : t = s.node.dm_table)
  | dropped (a : UInt32) (ht : t = dm_session_teardown s.node.dm_table a)
  | handshaking {p now : UInt32} {t' : DmTable} {i : Fin DM_MAX_SESSIONS} {slot : Slot}
      (halloc : dm_alloc s.node.dm_table p now = (t', some i)) (ht : t = update t' i slot)
      (hstate : slot.state = .HANDSHAKING) (hpeer : slot.peer_addr = p)
      (hold : ∀ a ∈ session_of s.node.dm_table p, a.state = .HANDSHAKING)
  | carried {p stamp : UInt32} {i : Fin DM_MAX_SESSIONS} {sess : Session}
      (hl : dm_lookup s.node.dm_table p = some i) (hact : (s.node.dm_table i).state = .ACTIVE)
      (hsess : Carries C.toDmCrypto (s.node.dm_table i).toSession sess)
      (ht : t = update s.node.dm_table i ⟨sess, stamp⟩)
  | installed {w : Install} {now : UInt32} {verified : Bool} {t' : DmTable}
      {i : Fin DM_MAX_SESSIONS} (he : e = .install now) (hw : s.worker = .ready w)
      (halloc : dm_alloc s.node.dm_table w.src_addr now = (t', some i))
      (ht : t = update t' i ((t' i).put (establish C me.address w.src_addr
        (t' i).toSession w.long_term_pubkey w.ke_epoch w.ikm w.session_key verified).2))

variable {s : Sys} {e : Event}

lemma moves_open (src_addr : UInt32) (h : Header) (nonce : Nonce) (ciphertext : List UInt8)
    (tag : Tag16) (now : UInt32) :
    Moves C me s e (open_dm C s.node.dm_table src_addr h nonce ciphertext tag now).1 := by
  unfold open_dm
  match hl : dm_lookup s.node.dm_table src_addr with
  | none => exact .same rfl
  | some i =>
    dsimp only
    split_ifs with hact
    · have hopened := Carries.opened (C := C.toDmCrypto) (s := (s.node.dm_table i).toSession) h
        src_addr nonce ciphertext tag
      split
      · next pt s' hd =>
        rw [hd] at hopened
        exact .carried hl hact hopened rfl
      · next s' _ hd =>
        rw [hd] at hopened
        exact .carried hl hact hopened rfl
    · exact .same rfl

lemma moves_send (dest_addr : UInt32) (h : Header) (payload : List UInt8) (nonce : Nonce)
    (sent : Option UInt32) :
    Moves C me s e
      (send_dm_packet C me.address s.node.dm_table dest_addr h payload nonce sent) := by
  unfold send_dm_packet
  match hl : dm_lookup s.node.dm_table dest_addr with
  | none => exact .same rfl
  | some i =>
    dsimp only
    split_ifs with hact
    · match hs : dm_session_ratchet_encrypt C.toDmCrypto (s.node.dm_table i).toSession h me.address
          payload nonce with
      | none => exact .same rfl
      | some (framed, tag, sess) => exact .carried hl hact (.sealed hs) rfl
    · exact .same rfl

lemma moves_install {w : Install} (hw : s.worker = .ready w) (now : UInt32) (verified : Bool) :
    Moves C me s (.install now) (DmWork.install C me s.node w now verified).1.dm_table := by
  unfold DmWork.install
  match halloc : dm_alloc s.node.dm_table w.src_addr now with
  | (t', none) => exact .same (dm_alloc_none halloc).2
  | (t', some i) => exact .installed rfl hw halloc rfl

lemma Moves.mesh {s' : Sys} (h : Moves C me s e s'.node.dm_table) :
    Moves C me s e (s.mesh s').node.dm_table := by
  unfold Sys.mesh
  split_ifs
  · exact h
  · exact .same rfl

/-- **A step moves the sessions in one of these ways.** -/
theorem step_moves (s : Sys) (e : Event) : Moves C me s e (step C I me s e).node.dm_table := by
  match e with
  | .ke_envelope _ _ _ | .attestation _ _ _ | .post_initiate _ _ | .set_anchor _
  | .set_verified _ _ | .clear_verified _ => exact Moves.mesh (.same rfl)
  | .data_packet src_addr h nonce ciphertext tag now heal =>
    exact Moves.mesh (moves_open src_addr h nonce ciphertext tag now)
  | .teardown =>
    unfold step
    match s.teardown_due with
    | none => exact .same rfl
    | some a =>
      dsimp only
      unfold compare_with_pin
      split
      · split_ifs
        · exact .dropped a rfl
        · exact .dropped a rfl
        · exact .same rfl
      · exact .same rfl
  | .fetch eph =>
    unfold step
    dsimp only
    split
    · next item rest _ _ =>
      match item with
      | .initiate a epoch => exact .same (initiate_table _ _ _ _)
      | .message a msg ps =>
        unfold DmWork.fetch
        dsimp only
        split <;> exact .same rfl
    · exact .same rfl
  | .verify rate_ok eph =>
    unfold step
    dsimp only
    split
    · next a init ps peer_id _ =>
      rcases (verify_init_cases C me s.node.dm_table a init ps peer_id rate_ok eph).1 with h | h
      · exact .same h
      · exact .dropped a h
    · exact .same rfl
  | .install now =>
    unfold step
    dsimp only
    split
    · next w hw => exact moves_install hw now _
    · exact .same rfl
  | .prepare p now =>
    rcases prepare_session_table s.node p now with
      heq | ⟨t', i, slot, halloc, hn, hstate, hpeer, hold⟩
    · exact .same heq
    · exact .handshaking halloc hn hstate hpeer hold
  | .initiate p eph => exact .same (initiate_table s.node p 0 eph)
  | .send_packet dest_addr h payload nonce sent =>
    exact moves_send dest_addr h payload nonce sent

lemma Moves.one {t : DmTable} (h : Moves C me s e t) (hone : OneSlotEach s.node.dm_table) :
    OneSlotEach t := by
  cases h with
  | same ht => exact ht ▸ hone
  | dropped a ht => exact ht ▸ hone.teardown a
  | handshaking halloc ht hstate hpeer hold => exact ht ▸ hone.put halloc hpeer
  | carried hl hact hsess ht =>
    rw [ht]
    refine hone.put (dm_alloc_own hl 0) ?_
    exact hsess.hands.2.1.trans (isFor_iff.1 (Table.find_some hl)).2
  | installed he hw halloc ht =>
    rw [ht]
    refine hone.put halloc ?_
    exact (establish_marks _ _ _ _ _ _ _ _).2.1.trans (dm_alloc_peer halloc)

def SameHands (old new : Slot) : Prop :=
  old.state = .ACTIVE ∧ new.peer_addr = old.peer_addr ∧ new.peer_id_pub = old.peer_id_pub

inductive SlotMoves (C : KeCrypto) (me : Identity) (s : Sys) (e : Event)
    (i : Fin DM_MAX_SESSIONS) (new : Slot) : Prop
  | kept (h : new = s.node.dm_table i)
  | freed (h : new.state = .NONE)
  | handshaking (h : new.state = .HANDSHAKING)
      (hold : ∀ a ∈ session_of s.node.dm_table new.peer_addr, a.state = .HANDSHAKING)
  | carried (hact : (s.node.dm_table i).state = .ACTIVE)
      (hsess : Carries C.toDmCrypto (s.node.dm_table i).toSession new.toSession)
  | installed {w : Install} {now : UInt32} {verified : Bool} {t' : DmTable}
      (he : e = .install now) (hw : s.worker = .ready w)
      (halloc : dm_alloc s.node.dm_table w.src_addr now = (t', some i))
      (hnew : new.toSession = (establish C me.address w.src_addr (t' i).toSession
        w.long_term_pubkey w.ke_epoch w.ikm w.session_key verified).2)

variable {t : DmTable}

lemma Moves.slot (h : Moves C me s e t) (i : Fin DM_MAX_SESSIONS) :
    SlotMoves C me s e i (t i) := by
  cases h with
  | same ht => exact .kept (congrFun ht i)
  | dropped a ht =>
    rw [ht]
    exact (teardown_slot s.node.dm_table a i).elim .kept .freed
  | @handshaking p now t' j slot halloc ht hstate hpeer hold =>
    rw [ht]
    by_cases hij : i = j
    · subst hij
      rw [update_self]
      exact .handshaking hstate (hpeer ▸ hold)
    · exact .kept (put_other halloc slot hij)
  | @carried p stamp j sess hl hact hsess ht =>
    rw [ht]
    by_cases hij : i = j
    · subst hij
      rw [update_self]
      exact .carried hact hsess
    · exact .kept (update_of_ne hij _ _)
  | @installed w now verified t' j he hw halloc ht =>
    rw [ht]
    by_cases hij : i = j
    · subst hij
      rw [update_self]
      exact .installed he hw halloc rfl
    · exact .kept (put_other halloc _ hij)

lemma Moves.hands (h : Moves C me s e t) {i : Fin DM_MAX_SESSIONS}
    (hact : (t i).state = .ACTIVE) :
    SameHands (s.node.dm_table i) (t i) ∨ ∃ w, s.worker = .ready w ∧
      (t i).peer_addr = w.src_addr ∧ (t i).peer_id_pub = w.long_term_pubkey := by
  cases h.slot i with
  | kept heq =>
    rw [heq] at hact ⊢
    exact Or.inl ⟨hact, rfl, rfl⟩
  | freed hnone => exact SessionState.noConfusion (hact.symm.trans hnone)
  | handshaking hstate => exact SessionState.noConfusion (hstate.symm.trans hact)
  | carried hold hsess => exact Or.inl ⟨hold, hsess.hands.2⟩
  | @installed w now verified t' he hw halloc hnew =>
    obtain ⟨-, hpeer, hpub⟩ := establish_marks (C := C) me.address w.src_addr
      (t' i).toSession w.long_term_pubkey w.ke_epoch w.ikm w.session_key verified
    rw [← hnew] at hpeer hpub
    exact Or.inr ⟨w, hw, hpeer.trans (dm_alloc_peer halloc), hpub⟩

end

end BrambleMesh.DmTasks
