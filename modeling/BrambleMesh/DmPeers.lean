/-
The handshake driver of a node with many peers: `DmDriver`, with any number of others in the
tables.
-/
import BrambleMesh.DmDriver

namespace BrambleMesh.DmPeers

open DmRatchet DmHandshake DmDriver Function Option

/-! ## The session table -/

section

variable {p now : UInt32} {t t' : DmTable} {i : Fin DM_MAX_SESSIONS} {slot : Slot}

lemma lookup_of_session_of {s : Session} (h : session_of t p = some s) :
    ∃ i, dm_lookup t p = some i ∧ (t i).toSession = s :=
  map_eq_some_iff.1 h

lemma dm_alloc_none (h : dm_alloc t p now = (t', none)) : dm_lookup t p = none ∧ t' = t := by
  have hout := dm_alloc_outcome t p now
  rw [h] at hout
  cases hout with
  | refused hnone => exact ⟨hnone, rfl⟩

lemma dm_alloc_peer (h : dm_alloc t p now = (t', some i)) : (t' i).peer_addr = p := by
  have hsess := dm_alloc_session h
  match hso : session_of t p with
  | none =>
    rw [hso, getD_none] at hsess
    exact congrArg Session.peer_addr hsess
  | some s =>
    rw [hso, getD_some] at hsess
    rw [hsess]
    exact (peer_addr_of_session_of hso).1

def OneSlotEach (t : DmTable) : Prop :=
  ∀ i j, (t i).state ≠ .NONE → (t j).state ≠ .NONE → (t i).peer_addr = (t j).peer_addr → i = j
deriving Decidable

lemma OneSlotEach.lookup (h : OneSlotEach t) (hi : (t i).state ≠ .NONE) :
    dm_lookup t (t i).peer_addr = some i := by
  apply Table.find_eq_some_of_unique
  · exact isFor_iff.2 ⟨hi, rfl⟩
  · intro j hj
    obtain ⟨hstate, hpeer⟩ := isFor_iff.1 hj
    exact h j i hstate hi hpeer

lemma put_other (h : dm_alloc t p now = (t', some i)) (slot : Slot) {j : Fin DM_MAX_SESSIONS}
    (hj : j ≠ i) : update t' i slot j = t j := by
  rw [update_of_ne hj]
  rcases dm_alloc_cases h with ⟨-, rfl⟩ | ⟨-, rfl, -⟩
  · rfl
  · rw [update_of_ne hj]

lemma OneSlotEach.put (hone : OneSlotEach t) (h : dm_alloc t p now = (t', some i))
    (hpeer : slot.peer_addr = p) : OneSlotEach (update t' i slot) := by
  -- no other slot is in use for the peer
  have hother : ∀ j, j ≠ i → (t j).state ≠ .NONE → (t j).peer_addr ≠ p := by
    intro j hj hstate heq
    rcases dm_alloc_cases h with ⟨hl, -⟩ | ⟨hl, -⟩
    · have hlook := hone.lookup hstate
      rw [heq, hl] at hlook
      exact hj (some.inj hlook).symm
    · have hfor := Table.find_eq_none.1 hl j
      rw [isFor_iff.2 ⟨hstate, heq⟩] at hfor
      cases hfor
  intro j k hj hk heq
  by_cases hji : j = i
  · by_cases hki : k = i
    · rw [hji, hki]
    · subst hji
      rw [put_other h slot hki] at hk heq
      rw [update_self, hpeer] at heq
      exact absurd heq.symm (hother k hki hk)
  · rw [put_other h slot hji] at hj heq
    by_cases hki : k = i
    · subst hki
      rw [update_self, hpeer] at heq
      exact absurd heq (hother j hji hj)
    · rw [put_other h slot hki] at hk heq
      exact hone j k hj hk heq

lemma teardown_slot (t : DmTable) (p : UInt32) (j : Fin DM_MAX_SESSIONS) :
    dm_session_teardown t p j = t j ∨ (dm_session_teardown t p j).state = .NONE := by
  unfold dm_session_teardown
  match dm_lookup t p with
  | none => exact .inl rfl
  | some i =>
    dsimp only
    by_cases hj : j = i
    · subst hj
      rw [update_self]
      exact .inr rfl
    · rw [update_of_ne hj]
      exact .inl rfl

lemma OneSlotEach.teardown (hone : OneSlotEach t) (p : UInt32) :
    OneSlotEach (dm_session_teardown t p) := by
  intro j k hj hk heq
  rcases teardown_slot t p j with hj' | hj'
  · rcases teardown_slot t p k with hk' | hk'
    · rw [hj'] at hj heq
      rw [hk'] at hk heq
      exact hone j k hj hk heq
    · exact absurd hk' hk
  · exact absurd hj' hj

lemma OneSlotEach.gone (hone : OneSlotEach t) {j : Fin DM_MAX_SESSIONS}
    (hj : (dm_session_teardown t p j).state ≠ .NONE) :
    (dm_session_teardown t p j).peer_addr ≠ p := by
  rcases teardown_slot t p j with hj' | hj'
  · rw [hj'] at hj ⊢
    intro heq
    have hlook := hone.lookup hj
    rw [heq] at hlook
    -- the slot would be the one that was wiped
    unfold dm_session_teardown at hj'
    rw [hlook] at hj'
    dsimp only at hj'
    rw [update_self] at hj'
    exact hj (congrArg (·.state) hj').symm
  · exact absurd hj' hj

/-! ### Runs of the table -/

inductive TableOp
  | alloc (peer_addr now_ms : UInt32) (state : SessionState)
  | rewrite (peer_addr : UInt32) (slot : Slot)
  | teardown (peer_addr : UInt32)

def table_step (t : DmTable) : TableOp → DmTable
  | .alloc p now st =>
    match dm_alloc t p now with
    | (t', none) => t'
    | (t', some i) =>
      if (t' i).state = .NONE then
        update t' i ((t' i).put { (t' i).toSession with state := st })
      else t'
  | .rewrite p slot =>
    match dm_lookup t p with
    | none => t
    | some i => update t i { slot with peer_addr := p }
  | .teardown p => dm_session_teardown t p

lemma OneSlotEach.table_step (hone : OneSlotEach t) (op : TableOp) :
    OneSlotEach (table_step t op) := by
  match op with
  | .alloc p now st =>
    rw [DmPeers.table_step]
    match halloc : dm_alloc t p now with
    | (t', none) =>
      rw [(dm_alloc_none halloc).2]
      exact hone
    | (t', some i) =>
      have hput (slot : Slot) (hp : slot.peer_addr = p) := hone.put halloc hp
      dsimp only
      split_ifs
      · exact hput _ (dm_alloc_peer halloc)
      · rw [← update_eq_self i t']
        exact hput _ (dm_alloc_peer halloc)
  | .rewrite p slot =>
    rw [DmPeers.table_step]
    match hl : dm_lookup t p with
    | none => exact hone
    | some i => exact hone.put (dm_alloc_own hl 0) rfl
  | .teardown p => exact hone.teardown p

lemma table_step_verified (t : DmTable) (p now : UInt32) (st : SessionState)
    {j : Fin DM_MAX_SESSIONS} (hj : (t j).VerifiedActive) :
    table_step t (.alloc p now st) j = t j := by
  rw [table_step]
  match halloc : dm_alloc t p now with
  | (t', none) => rw [(dm_alloc_none halloc).2]
  | (t', some i) =>
    dsimp only
    rcases dm_alloc_cases halloc with ⟨hl, rfl⟩ | ⟨-, rfl, hprot⟩
    · rw [if_neg (isFor_iff.1 (Table.find_some hl)).1]
    · have hne : j ≠ i := fun h => hprot (h ▸ hj)
      split_ifs
      · rw [update_of_ne hne, update_of_ne hne]
      · rw [update_of_ne hne]

/-- **The session table keeps its discipline.** No peer has two slots, and a call for a slot
refuses and changes nothing, or hands out the peer's own slot, or wipes one: below the handshaking
cap, never a verified session, and one in use only when none is empty and no evictable one was
idle longer. -/
theorem session_table_discipline (ops : List TableOp) (p now : UInt32) (st : SessionState) :
    let t := ops.foldl table_step Node.start.dm_table
    OneSlotEach t ∧ AllocOutcome t p now (dm_alloc t p now) ∧
      ∀ j, (t j).VerifiedActive → table_step t (.alloc p now st) j = t j := by
  refine ⟨?_, dm_alloc_outcome _ p now, fun j => table_step_verified _ p now st⟩
  apply List.foldlRecOn
  · intro i j hi
    exact absurd rfl hi
  · intro t hone op _
    exact hone.table_step op

end

/-! ## Outstanding ephemerals -/

section

variable {p : UInt32} {t : PendingTable}

def HasRoom (t : PendingTable) (p : UInt32) : Prop :=
  ∃ i, (t i).isFor p ∨ (t i).free
deriving Decidable

lemma pending_eph_store_held (h : HasRoom t p) (priv pub : Key32) :
    pending_eph_lookup (pending_eph_store t p priv pub) p = some ⟨p, priv, pub, true⟩ := by
  have hfor : PendingEph.isFor p ⟨p, priv, pub, true⟩ := by
    rw [PendingEph.isFor, beq_self_eq_true]
    rfl
  unfold pending_eph_store pending_eph_lookup
  match hown : Table.find (PendingEph.isFor p) t with
  | some i =>
    rw [some_or]
    dsimp only
    rw [Table.find_update_found hown hfor, map_some, update_self]
  | none =>
    rw [none_or]
    obtain ⟨i, hi⟩ := h
    have hfree : (t i).free := by
      rcases hi with hi | hi
      · rw [Table.find_eq_none.1 hown i] at hi
        cases hi
      · exact hi
    obtain ⟨j, hj⟩ := Table.exists_find (p := PendingEph.free) hfree
    rw [hj]
    dsimp only
    rw [Table.find_update_new hown hfor, map_some, update_self]

lemma pending_eph_store_lost (h : ¬ HasRoom t p) (priv pub : Key32) :
    pending_eph_store t p priv pub = t ∧ pending_eph_lookup t p = none := by
  have hown : Table.find (PendingEph.isFor p) t = none := by
    rw [Table.find_eq_none]
    intro i
    rw [← Bool.not_eq_true]
    exact fun hi => h ⟨i, .inl hi⟩
  have hfree : Table.find PendingEph.free t = none := by
    rw [Table.find_eq_none]
    intro i
    rw [← Bool.not_eq_true]
    exact fun hi => h ⟨i, .inr hi⟩
  constructor
  · unfold pending_eph_store
    rw [hown, hfree]
    rfl
  · unfold pending_eph_lookup
    rw [hown]
    rfl

end

/-! ## The functions -/

section

variable {C : KeCrypto} {me : Identity} {n : Node} {p : UInt32} {t t' : DmTable}
  {i : Fin DM_MAX_SESSIONS}

lemma establish_marks (addr_self addr_peer : UInt32) (sess : Session) (pub : Key32) (k : UInt16)
    (ikm : Option Ikm) (key : Key32) (v : Bool) :
    let s := (establish C addr_self addr_peer sess pub k ikm key v).2
    s.state = .ACTIVE ∧ s.peer_addr = sess.peer_addr ∧ s.peer_id_pub = pub := by
  unfold establish
  match ikm with
  | none => exact ⟨rfl, rfl, rfl⟩
  | some ikm =>
    dsimp only
    split_ifs
    · unfold dm_session_epoch_bump
      dsimp only
      split <;> exact ⟨rfl, rfl, rfl⟩
    · unfold dm_session_ratchet_init_state
      dsimp only
      split <;> exact ⟨rfl, rfl, rfl⟩

variable {init : KeyExchange} {rx : Rx}

lemma handle_init_new (hne : me.address ≠ p) (hsrc : init.src_addr = p)
    (htype : init.ke_type = .INIT)
    (hnew : (hs_dedup_check_and_record C n.hs_dedup p init.ephemeral_pubkey init.key_id.toUInt16
      rx.now).1 = false) :
    ∃ d, handle_ke_envelope C me n p init rx =
      process_ke_init C me { n with hs_dedup := d } p init rx := by
  match hd : hs_dedup_check_and_record C n.hs_dedup p init.ephemeral_pubkey init.key_id.toUInt16
      rx.now with
  | (true, d) =>
    rw [hd] at hnew
    cases hnew
  | (false, d) =>
    refine ⟨d, ?_⟩
    unfold handle_ke_envelope
    rw [if_neg (not_not_intro hsrc), if_neg (Ne.symm hne), htype]
    rw [hd]
    rfl

variable {resp : KeyExchange} {key : Key32} {ikm : Ikm} {s : Session}

lemma handle_init_own (hC : C.HkdfTotal) (hne : me.address ≠ p) {f : Ephemeral}
    (hsess : session_of n.dm_table p = some s) (hsrc : init.src_addr = p)
    (htype : init.ke_type = .INIT)
    (hnew : (hs_dedup_check_and_record C n.hs_dedup p init.ephemeral_pubkey init.key_id.toUInt16
      rx.now).1 = false) (hadm : admit_init C me n.dm_table p init rx = (true, n.dm_table))
    (hans : Answers C me init rx f resp key ikm) :
    ∃ n', handle_ke_envelope C me n p init rx = (n', some resp) ∧
      session_of n'.dm_table p = some (establish C me.address p s init.long_term_pubkey
        init.key_id.toUInt16 (some ikm) key rx.verified).2 := by
  obtain ⟨i, hi, -⟩ := lookup_of_session_of hsess
  have halloc := dm_alloc_own hi rx.now
  obtain ⟨d, hhandle⟩ := handle_init_new hne hsrc htype hnew
  obtain ⟨hproc, -, hput⟩ :=
    process_ke_init_installs (n := { n with hs_dedup := d }) hC hne hadm halloc hans
  rw [established, hsess, getD_some] at hproc hput
  exact ⟨_, hhandle.trans hproc, hput⟩

lemma handle_init_ignored (htype : init.ke_type = .INIT)
    (hfirst : dm_verify_init C init me none rx.pinned = .ok ())
    (htake : takes_up C me n p init rx = false) :
    ∃ n', handle_ke_envelope C me n p init rx = (n', none) ∧ n'.dm_table = n.dm_table := by
  unfold handle_ke_envelope
  unfold takes_up at htake
  split_ifs
  · exact ⟨n, rfl, rfl⟩
  · exact ⟨n, rfl, rfl⟩
  · rw [htype] at htake ⊢
    dsimp only
    match hd : hs_dedup_check_and_record C n.hs_dedup p init.ephemeral_pubkey
        init.key_id.toUInt16 rx.now with
    | (true, d) => exact ⟨_, rfl, rfl⟩
    | (false, d) =>
      rw [hd] at htake
      unfold process_ke_init
      rcases admit_init_cases n.dm_table (p := p) hfirst with hadm | hadm | ⟨hadm, -⟩
      · rw [hadm]
        exact ⟨_, rfl, rfl⟩
      · rw [hadm] at htake
        cases htake
      · rw [hadm] at htake
        cases htake

lemma handle_init_keyless (htype : init.ke_type = .INIT)
    (hadm : admit_init C me n.dm_table p init rx = (true, n.dm_table)) (heph : rx.eph = none) :
    ∃ n', handle_ke_envelope C me n p init rx = (n', none) ∧ n'.dm_table = n.dm_table := by
  unfold handle_ke_envelope
  split_ifs
  · exact ⟨n, rfl, rfl⟩
  · exact ⟨n, rfl, rfl⟩
  · rw [htype]
    dsimp only
    match hs_dedup_check_and_record C n.hs_dedup p init.ephemeral_pubkey init.key_id.toUInt16
        rx.now with
    | (true, d) => exact ⟨_, rfl, rfl⟩
    | (false, d) =>
      unfold process_ke_init
      rw [hadm, heph]
      exact ⟨_, rfl, rfl⟩

lemma handle_resp_own (hC : C.HkdfTotal) (hne : me.address ≠ p) {pe : PendingEph}
    (hsess : session_of n.dm_table p = some s) (hsrc : resp.src_addr = p)
    (htype : resp.ke_type = .RESP) (hconf : Confirms C me n p resp rx pe key ikm) :
    ∃ n', handle_ke_envelope C me n p resp rx = (n', none) ∧
      session_of n'.dm_table p = some (establish C me.address p s resp.long_term_pubkey
        resp.key_id.toUInt16 (some ikm) key rx.verified).2 := by
  obtain ⟨i, hi, -⟩ := lookup_of_session_of hsess
  have halloc := dm_alloc_own hi rx.now
  obtain ⟨hproc, -, hput⟩ := process_ke_resp_installs hC hne halloc hconf
  rw [established, hsess, getD_some] at hput hproc
  exact ⟨_, (handle_resp_eq hne hsrc htype).trans (congrArg (·, none) hproc), hput⟩

lemma prepare_session_table (n : Node) (p now : UInt32) :
    (prepare_session n p now).dm_table = n.dm_table ∨
      ∃ t' i slot, dm_alloc n.dm_table p now = (t', some i) ∧
        (prepare_session n p now).dm_table = update t' i slot ∧
        slot.state = .HANDSHAKING ∧ slot.peer_addr = p ∧
        ∀ s ∈ session_of n.dm_table p, s.state = .HANDSHAKING := by
  unfold prepare_session
  match hl : dm_lookup n.dm_table p with
  | some i =>
    dsimp only
    split_ifs with hstale
    · unfold dm_handshake_is_stale at hstale
      rw [Bool.and_eq_true, beq_iff_eq] at hstale
      refine .inr ⟨_, i, _, dm_alloc_own hl now, rfl, hstale.1,
        (isFor_iff.1 (Table.find_some hl)).2, fun s hs => ?_⟩
      rw [mem_def, session_of_lookup hl, some.injEq] at hs
      rw [← hs]
      exact hstale.1
    · exact .inl rfl
  | none =>
    match halloc : dm_alloc n.dm_table p now with
    | (t', none) => exact .inl (dm_alloc_none halloc).2
    | (t', some i) =>
      refine .inr ⟨t', i, _, rfl, rfl, rfl, dm_alloc_peer halloc, fun s hs => ?_⟩
      rw [session_of_eq_none.2 hl] at hs
      exact absurd hs (not_mem_none s)

lemma initiate_table (n : Node) (p : UInt32) (epoch : UInt16) (eph : Option Ephemeral) :
    (initiate_dm_handshake C me n p epoch eph).1.dm_table = n.dm_table := by
  unfold initiate_dm_handshake
  match eph with
  | none => rfl
  | some e =>
    dsimp only
    split <;> rfl

end

end BrambleMesh.DmPeers
