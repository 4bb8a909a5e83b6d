/-
The handshake work queue: main/mesh_dm.c. The worker holds the mutex only while it reads or writes
a slot, so its work is cut there; uninterrupted the parts add up to `DmDriver`.
-/
import BrambleMesh.DmPeers
import BrambleMesh.IdentityStore

namespace BrambleMesh.DmWork

open DmRatchet DmHandshake DmDriver DmPeers Function

/-! ## The rate limit -/

abbrev DM_REHANDSHAKE_TRACK : ℕ := 8

abbrev DM_REHANDSHAKE_MIN_INTERVAL_MS : UInt32 := 15000

structure RehsEntry where
  addr : UInt32
  last_ms : UInt32
deriving DecidableEq, Repr

abbrev RehsTable := Fin DM_REHANDSHAKE_TRACK → RehsEntry

local instance rehs_track_neZero : NeZero DM_REHANDSHAKE_TRACK := ⟨by decide⟩

def dm_rehandshake_rate_ok (t : RehsTable) (peer now : UInt32) : Bool × RehsTable :=
  match Table.find (fun e => e.addr == peer) t with
  | some i =>
    if now - (t i).last_ms < DM_REHANDSHAKE_MIN_INTERVAL_MS then (false, t)
    else (true, update t i { t i with last_ms := now })
  | none =>
    let oldest := Table.argmax (fun e => 0xFFFFFFFF - e.last_ms.toNat) t
    let slot := (Table.find (fun e => e.addr == 0) t).getD oldest
    (true, update t slot ⟨peer, now⟩)

/-! ## The queue -/

abbrev HANDSHAKE_WORK_QUEUE_LEN : ℕ := 8

inductive WorkItem
  | initiate (src_addr : UInt32) (rekey_epoch : UInt16)
  | message (src_addr : UInt32) (msg : KeyExchange) (pinned : Option Key32)
deriving DecidableEq

def xQueueSend (q : List WorkItem) (item : WorkItem) : List WorkItem :=
  if q.length < HANDSHAKE_WORK_QUEUE_LEN then q ++ [item] else q

structure Sched where
  rehs : RehsTable
  work_q : List WorkItem

abbrev DM_EPOCH_REKEY_MSGS : UInt32 := 256

abbrev DM_EPOCH_REKEY_INTERVAL_MS : UInt32 := 30 * 60 * 1000

structure SlotUse where
  established_ms : UInt32
  msg_count : UInt32
deriving DecidableEq, Repr

def rekey_due (my_addr : UInt32) (s : Slot) (use : SlotUse) (t : UInt32) :
    Option (UInt32 × UInt16) :=
  if s.state = .ACTIVE ∧ s.ratchet.send.valid ∧ s.ke_epoch < 0xFFFF ∧
      my_addr < s.peer_addr then
    if use.msg_count ≥ DM_EPOCH_REKEY_MSGS ∨
        t - use.established_ms ≥ DM_EPOCH_REKEY_INTERVAL_MS then
      some (s.peer_addr, s.ke_epoch + 1)
    else none
  else none

def schedule_slot (my_addr : UInt32) (neighbor : UInt32 → Bool) (table : DmTable)
    (use : Fin DM_MAX_SESSIONS → SlotUse) (t : UInt32) (s : Sched) (i : Fin DM_MAX_SESSIONS) :
    Sched :=
  match rekey_due my_addr (table i) (use i) t with
  | none => s
  | some (peer, next_epoch) =>
    if !neighbor peer then s
    else
      match dm_rehandshake_rate_ok s.rehs peer t with
      | (false, rehs) => { s with rehs }
      | (true, rehs) => ⟨rehs, xQueueSend s.work_q (.initiate peer next_epoch)⟩

def maybe_schedule_dm_epoch_rekey (my_addr : UInt32) (neighbor : UInt32 → Bool) (table : DmTable)
    (use : Fin DM_MAX_SESSIONS → SlotUse) (s : Sched) (t : UInt32) : Sched :=
  (List.finRange DM_MAX_SESSIONS).foldl (schedule_slot my_addr neighbor table use t) s

lemma mem_xQueueSend {q : List WorkItem} {item item' : WorkItem}
    (h : item' ∈ xQueueSend q item) : item' ∈ q ∨ item' = item := by
  unfold xQueueSend at h
  split_ifs at h
  · rw [List.mem_append, List.mem_singleton] at h
    exact h
  · exact .inl h

structure Due (my_addr : UInt32) (s : Slot) (peer : UInt32) (epoch : UInt16) : Prop where
  active : s.state = .ACTIVE
  peer_addr : s.peer_addr = peer
  higher : my_addr < peer
  not_last : s.ke_epoch < 0xFFFF
  next : epoch = s.ke_epoch + 1

variable {my_addr t peer : UInt32} {s : Slot} {use : SlotUse} {epoch : UInt16}

lemma rekey_due_spec (h : rekey_due my_addr s use t = some (peer, epoch)) :
    Due my_addr s peer epoch := by
  unfold rekey_due at h
  split_ifs at h with hact hdue
  cases h
  exact ⟨hact.1, rfl, hact.2.2.2, hact.2.2.1, rfl⟩

/-- **The schedule posts rekeys that are due**, and nothing else. -/
theorem scheduled_item {neighbor : UInt32 → Bool} {table : DmTable}
    {use : Fin DM_MAX_SESSIONS → SlotUse} {s : Sched} {item : WorkItem}
    (h : item ∈ (maybe_schedule_dm_epoch_rekey my_addr neighbor table use s t).work_q) :
    item ∈ s.work_q ∨ ∃ peer epoch i, item = .initiate peer epoch ∧
      Due my_addr (table i) peer epoch := by
  unfold maybe_schedule_dm_epoch_rekey at h
  generalize List.finRange DM_MAX_SESSIONS = slots at h
  induction slots generalizing s with
  | nil => exact .inl h
  | cons i slots ih =>
    rcases ih h with hmem | hnew
    · unfold schedule_slot at hmem
      split at hmem
      · exact .inl hmem
      · next peer epoch hdue =>
        split_ifs at hmem with hnb
        · exact .inl hmem
        · split at hmem
          · exact .inl hmem
          · rcases mem_xQueueSend hmem with hmem | rfl
            · exact .inl hmem
            · exact .inr ⟨peer, epoch, i, rfl, rekey_due_spec hdue⟩
    · exact .inr hnew

variable (C : KeCrypto)

def handle_ke_envelope (my_addr : UInt32) (pins : IdentityStore.Store)
    (hs_dedup : DedupTable) (q : List WorkItem) (src_addr : UInt32) (msg : KeyExchange)
    (now : UInt32) : DedupTable × List WorkItem :=
  let item := .message src_addr msg
    ((IdentityStore.identity_store_lookup pins src_addr).map (·.x25519_pub))
  if msg.src_addr ≠ src_addr then (hs_dedup, q)
  else if src_addr = my_addr then (hs_dedup, q)
  else
    match msg.ke_type with
    | .INIT =>
      match hs_dedup_check_and_record C hs_dedup src_addr msg.ephemeral_pubkey
          msg.key_id.toUInt16 now with
      | (true, t) => (t, q)
      | (false, t) => (t, xQueueSend q item)
    | .RESP => (hs_dedup, xQueueSend q item)

/-! ## The worker -/

structure Install where
  src_addr : UInt32
  pinned : Option Key32
  long_term_pubkey : Key32
  ke_epoch : UInt16
  ikm : Option Ikm
  session_key : Key32
  answer : Option KeyExchange
deriving DecidableEq

inductive Worker
  | idle
  | looked_up (src_addr : UInt32) (init : KeyExchange) (pinned peer_id : Option Key32)
  | ready (w : Install)
deriving DecidableEq

def confirm_resp (me : Identity) (n : Node) (src_addr : UInt32)
    (resp : KeyExchange) (pinned : Option Key32) : Worker :=
  match pending_eph_lookup n.pending_eph src_addr with
  | none => .idle
  | some pe =>
    let ke_epoch := resp.key_id.toUInt16
    match dm_verify_resp C resp me pe.eph_priv pe.eph_pub ke_epoch pinned with
    | .error _ => .idle
    | .ok session_key =>
      .ready ⟨src_addr, pinned, resp.long_term_pubkey, ke_epoch,
        dm_compute_ikm C me.private_key pe.eph_priv resp.long_term_pubkey resp.ephemeral_pubkey,
        session_key, none⟩

def fetch (me : Identity) (n : Node) (eph : Option Ephemeral) :
    WorkItem → Node × Worker
  | .initiate src_addr rekey_epoch =>
    ((initiate_dm_handshake C me n src_addr rekey_epoch eph).1, .idle)
  | .message src_addr msg pinned =>
    match msg.ke_type with
    | .INIT =>
      (n, .looked_up src_addr msg pinned (dm_session_peer_id (session_of n.dm_table src_addr)))
    | .RESP => (n, confirm_resp C me n src_addr msg pinned)

def admit_with (me : Identity) (t : DmTable) (src_addr : UInt32)
    (init : KeyExchange) (pinned peer_id : Option Key32) (rate_ok : Bool) : Bool × DmTable :=
  match dm_verify_init C init me peer_id pinned with
  | .ok () => (true, t)
  | .error .PIN_MISMATCH => (false, t)
  | .error .FAIL =>
    if peer_id.isSome && pinned.isSome && rate_ok then
      let t := dm_session_teardown t src_addr
      match dm_verify_init C init me none pinned with
      | .ok () => (true, t)
      | .error _ => (false, t)
    else (false, t)

def answer_init (me : Identity) (src_addr : UInt32) (init : KeyExchange)
    (pinned : Option Key32) (eph : Option Ephemeral) : Worker :=
  match eph with
  | none => .idle
  | some eph =>
    let ke_epoch := init.key_id.toUInt16
    match dm_build_resp C me (C.public_key eph) eph init ke_epoch with
    | none => .idle
    | some (resp, session_key) =>
      .ready ⟨src_addr, pinned, init.long_term_pubkey, ke_epoch,
        dm_compute_ikm C me.private_key eph init.long_term_pubkey init.ephemeral_pubkey,
        session_key, some resp⟩

def verify_init (me : Identity) (t : DmTable) (src_addr : UInt32)
    (init : KeyExchange) (pinned peer_id : Option Key32) (rate_ok : Bool)
    (eph : Option Ephemeral) : DmTable × Worker :=
  match admit_with C me t src_addr init pinned peer_id rate_ok with
  | (true, t) => (t, answer_init C me src_addr init pinned eph)
  | (false, t) => (t, .idle)

def install (me : Identity) (n : Node) (w : Install) (now : UInt32)
    (verified : Bool) : Node × Option KeyExchange :=
  let pending :=
    if w.answer.isSome then n.pending_eph else pending_eph_clear n.pending_eph w.src_addr
  match dm_alloc n.dm_table w.src_addr now with
  | (t, none) => ({ n with dm_table := t, pending_eph := pending }, none)
  | (t, some i) =>
    let (ok, sess) := establish C me.address w.src_addr (t i).toSession w.long_term_pubkey
      w.ke_epoch w.ikm w.session_key verified
    ({ n with dm_table := update t i ((t i).put sess), pending_eph := pending },
      if ok then w.answer else none)

def Worker.finish (me : Identity) (rx : Rx) (n : Node) :
    Worker → Node × Option KeyExchange
  | .idle => (n, none)
  | .looked_up src_addr init pinned peer_id =>
    match verify_init C me n.dm_table src_addr init pinned peer_id rx.rate_ok rx.eph with
    | (t, .ready w) => install C me { n with dm_table := t } w rx.now rx.verified
    | (t, _) => ({ n with dm_table := t }, none)
  | .ready w => install C me n w rx.now rx.verified

variable {C : KeCrypto} {me : Identity}

variable (n : Node) (src_addr : UInt32)

/-- **The parts of the worker add up to `process_ke_init`.** -/
theorem process_ke_init_uninterrupted {init : KeyExchange} (rx : Rx) (h : init.ke_type = .INIT) :
    (fetch C me n rx.eph (.message src_addr init rx.pinned)).2.finish C me rx n =
      process_ke_init C me n src_addr init rx := by
  have hadm : admit_with C me n.dm_table src_addr init rx.pinned
      (dm_session_peer_id (session_of n.dm_table src_addr)) rx.rate_ok =
      admit_init C me n.dm_table src_addr init rx := rfl
  unfold fetch
  dsimp only
  rw [h]
  dsimp only [Worker.finish]
  unfold verify_init process_ke_init
  rw [hadm]
  match admit_init C me n.dm_table src_addr init rx with
  | (false, t) => rfl
  | (true, t) =>
    unfold answer_init
    match rx.eph with
    | none => rfl
    | some eph =>
      dsimp only
      match dm_build_resp C me (C.public_key eph) eph init init.key_id.toUInt16 with
      | none => rfl
      | some (resp, session_key) => rfl

/-- **The parts of the worker add up to `process_ke_resp`.** -/
theorem process_ke_resp_uninterrupted {resp : KeyExchange} (rx : Rx) (h : resp.ke_type = .RESP) :
    (fetch C me n rx.eph (.message src_addr resp rx.pinned)).2.finish C me rx n =
      (process_ke_resp C me n src_addr resp rx, none) := by
  unfold fetch
  dsimp only
  rw [h]
  unfold confirm_resp process_ke_resp
  match pending_eph_lookup n.pending_eph src_addr with
  | none => rfl
  | some pe =>
    dsimp only
    match dm_verify_resp C resp me pe.eph_priv pe.eph_pub resp.key_id.toUInt16 rx.pinned with
    | .error _ => rfl
    | .ok session_key =>
      dsimp only [Worker.finish, install]
      match dm_alloc n.dm_table src_addr rx.now with
      | (t, none) => rfl
      | (t, some i) =>
        dsimp only
        rw [ite_self]
        rfl

/-! ## What the parts do -/

lemma verify_init_pinned {init : KeyExchange} {peer_id pinned : Option Key32}
    (h : dm_verify_init C init me peer_id pinned = .ok ()) :
    ∀ k ∈ pinned, init.long_term_pubkey = k := by
  unfold dm_verify_init at h
  split_ifs at h with htype hpin
  intro k hk
  by_contra hne
  exact hpin ⟨k, hk, hne⟩

def Install.Checked (w : Install) (src_addr : UInt32) (pinned : Option Key32) : Prop :=
  w.src_addr = src_addr ∧ w.pinned = pinned ∧ ∀ k ∈ pinned, w.long_term_pubkey = k

variable (C me) in
lemma confirm_resp_cases (resp : KeyExchange) (pinned : Option Key32) :
    confirm_resp C me n src_addr resp pinned = .idle ∨
      ∃ w, confirm_resp C me n src_addr resp pinned = .ready w ∧ w.Checked src_addr pinned := by
  unfold confirm_resp
  match pending_eph_lookup n.pending_eph src_addr with
  | none => exact .inl rfl
  | some pe =>
    dsimp only
    match hv : dm_verify_resp C resp me pe.eph_priv pe.eph_pub resp.key_id.toUInt16 pinned with
    | .error _ => exact .inl rfl
    | .ok key =>
      refine .inr ⟨_, rfl, rfl, rfl, fun k hk => ?_⟩
      unfold dm_verify_resp at hv
      split_ifs at hv with _ hpin
      by_contra hne
      exact hpin ⟨k, hk, hne⟩

variable (C me) in
lemma verify_init_cases (t : DmTable) (src_addr : UInt32) (init : KeyExchange)
    (pinned peer_id : Option Key32) (rate_ok : Bool) (eph : Option Ephemeral) :
    let out := verify_init C me t src_addr init pinned peer_id rate_ok eph
    (out.1 = t ∨ out.1 = dm_session_teardown t src_addr) ∧
      (out.2 = .idle ∨ ∃ w, out.2 = .ready w ∧ w.Checked src_addr pinned) := by
  have hanswer : (∀ k ∈ pinned, init.long_term_pubkey = k) →
      (answer_init C me src_addr init pinned eph = .idle ∨
        ∃ w, answer_init C me src_addr init pinned eph = .ready w ∧ w.Checked src_addr pinned) := by
    intro hpin
    unfold answer_init
    match eph with
    | none => exact .inl rfl
    | some e =>
      dsimp only
      match dm_build_resp C me (C.public_key e) e init init.key_id.toUInt16 with
      | none => exact .inl rfl
      | some (resp, key) => exact .inr ⟨_, rfl, rfl, rfl, hpin⟩
  unfold verify_init admit_with
  match hv : dm_verify_init C init me peer_id pinned with
  | .ok () => exact ⟨.inl rfl, hanswer (verify_init_pinned hv)⟩
  | .error .PIN_MISMATCH => exact ⟨.inl rfl, .inl rfl⟩
  | .error .FAIL =>
    split_ifs
    · match hv' : dm_verify_init C init me none pinned with
      | .ok () => exact ⟨.inr rfl, hanswer (verify_init_pinned hv')⟩
      | .error _ => exact ⟨.inr rfl, .inl rfl⟩
    · exact ⟨.inl rfl, .inl rfl⟩

end BrambleMesh.DmWork
