/-
Continuity of the identity behind a session. The attacker may put any message into the channel,
but does not hold the private half of a long-term key `K`; what it can compute is closed under the
assumptions of `Attacker`.
-/
import BrambleMesh.DmTasks
import BrambleMesh.DmAgreement

namespace BrambleMesh.DmContinuity

open Run Bytes DmRatchet DmHandshake Option
open DmAgreement (keyOf)
open DmDriver DmPeers DmWork DmTasks
open IdentityStore

/-! ## The attacker -/

structure Attacker (C : KeCrypto) (me peer : Identity) where
  knows : List UInt8 → Prop
  parts : ∀ a b, knows (a ++ b) → knows a ∧ knows b
  hkdf : ∀ salt ikm info key, C.hkdf_sha256 salt ikm info = some key → knows key.toList →
    knows salt ∧ knows ikm
  product : ∀ dh, C.x25519_dh me.private_key peer.public_key = some dh → ¬ knows dh.toList
  nonzero : peer.public_key ≠ .zero

variable {C : KeCrypto} {I : IdentityCrypto} {me peer : Identity} (A : Attacker C me peer)

structure Secret (r : Ratchet) : Prop where
  send : r.send.valid → ¬ A.knows r.send.ck.toList
  recv : r.recv.valid → ¬ A.knows r.recv.ck.toList ∧ ¬ A.knows r.rk.toList
  prev_recv : r.prev_recv.valid → ¬ A.knows r.prev_recv.ck.toList

variable {A}

lemma secret_wiped : Secret A .zero :=
  ⟨fun h => absurd h Bool.false_ne_true, fun h => absurd h Bool.false_ne_true,
    fun h => absurd h Bool.false_ne_true⟩

/-! ## Secrets stay secrets -/

lemma step_secret {ck mk ck_next : Key32} {index : UInt16}
    (h : dm_ratchet_step C.toDmCrypto ck index = some (mk, ck_next))
    (hck : ¬ A.knows ck.toList) : ¬ A.knows ck_next.toList := by
  obtain ⟨mk', -, h⟩ := bind_eq_some_iff.1 h
  obtain ⟨ck', hnext, h⟩ := bind_eq_some_iff.1 h
  obtain ⟨-, rfl⟩ := Prod.mk.inj (some.inj h)
  exact fun hknows => hck (A.hkdf _ _ _ _ hnext hknows).1

lemma walk_secret {n : ℕ} : ∀ {ck ck' : Key32} {walk : UInt16} {pending entries : List SkipEntry},
    walk_loop C.toDmCrypto n ck walk pending = some (ck', entries) → ¬ A.knows ck.toList →
      ¬ A.knows ck'.toList := by
  induction n with
  | zero =>
    intro ck ck' walk pending entries h hck
    obtain ⟨rfl, -⟩ := Prod.mk.inj (some.inj h)
    exact hck
  | succ n ih =>
    intro ck ck' walk pending entries h hck
    unfold walk_loop at h
    rcases hstep : dm_ratchet_step C.toDmCrypto ck walk with _ | ⟨mk, ck_next⟩
    · rw [hstep] at h
      cases h
    · rw [hstep] at h
      exact ih h (step_secret hstep hck)

lemma recv_walk_secret (chain : Chain) (skip : Skip) (index : UInt16) (aad : List UInt8)
    (nonce : Nonce) (ct : List UInt8) (tag : Tag16) :
    let chain' := (dm_recv_walk C.toDmCrypto chain skip index aad nonce ct tag).2.1
    chain'.valid = chain.valid ∧ (¬ A.knows chain.ck.toList → ¬ A.knows chain'.ck.toList) := by
  unfold dm_recv_walk
  split_ifs
  · split
    · exact ⟨rfl, id⟩
    · split <;> exact ⟨rfl, id⟩
  · exact ⟨rfl, id⟩
  · split
    · exact ⟨rfl, id⟩
    · next ck pending hwalk =>
      split
      · exact ⟨rfl, id⟩
      · next mk ck_next hstep =>
        split
        · exact ⟨rfl, id⟩
        · exact ⟨rfl, fun hck => step_secret hstep (walk_secret hwalk hck)⟩

variable {r : Ratchet} {s : Session} {ikm : Ikm} {a p : UInt32} {init msg : KeyExchange}
  {ps : Option Key32} {item : WorkItem}

lemma count_grace_secret (h : Secret A r) : Secret A (count_grace r) := by
  unfold count_grace
  by_cases hprev : r.prev_recv.valid
  · rw [if_pos hprev]
    dsimp only
    generalize (if r.new_epoch_msgs < 0xFFFF then r.new_epoch_msgs + 1 else r.new_epoch_msgs) = msgs
    split
    · exact ⟨h.send, h.recv, fun hv => absurd hv Bool.false_ne_true⟩
    · exact ⟨h.send, h.recv, h.prev_recv⟩
  · rw [if_neg hprev]
    exact h

lemma try_previous_secret (h : Secret A r) (rc : DecryptResult) (index : UInt16)
    (aad : List UInt8) (nonce : Nonce) (ct : List UInt8) (tag : Tag16) :
    Secret A (try_previous C.toDmCrypto r rc index aad nonce ct tag).2 := by
  obtain ⟨hvalid, hck⟩ := recv_walk_secret (A := A) r.prev_recv r.prev_skip index aad nonce ct tag
  have hprev : Secret A { r with
      prev_recv := (dm_recv_walk C.toDmCrypto r.prev_recv r.prev_skip index aad nonce ct tag).2.1
      prev_skip := (dm_recv_walk C.toDmCrypto r.prev_recv r.prev_skip index aad nonce ct
        tag).2.2 } :=
    ⟨h.send, h.recv, fun hv => hck (h.prev_recv (hvalid.symm.trans hv))⟩
  unfold try_previous
  split_ifs
  · split
    · next pt chain skip hw =>
      rw [hw] at hprev
      exact hprev
    · next rc' chain skip _ hw =>
      rw [hw] at hprev
      exact hprev
  · exact h

/-- **Messages do not give chains away.** -/
theorem carries_secret {s' : Session} (hc : Carries C.toDmCrypto s s') (h : Secret A s.ratchet) :
    Secret A s'.ratchet := by
  cases hc with
  | sealed hs =>
    unfold dm_session_ratchet_encrypt at hs
    dsimp only at hs
    split_ifs at hs with hvalid
    split at hs
    · cases hs
    · next mk ck_next hstep =>
      split at hs
      · cases hs
      · obtain ⟨-, -, rfl⟩ := some.inj hs
        exact ⟨fun hv => step_secret hstep (h.send hv), h.recv, h.prev_recv⟩
  | opened hd src_addr nonce framed tag =>
    unfold dm_session_ratchet_decrypt
    split_ifs
    · exact h
    · split
      · next b0 b1 b2 ct =>
        obtain ⟨hvalid, hck⟩ := recv_walk_secret (A := A) s.ratchet.recv s.ratchet.skip
          (be16 b1 b2) (bramble_build_aead_aad hd src_addr ++ [b0, b1, b2]) nonce ct tag
        have hrecv : Secret A { s.ratchet with
            recv := (dm_recv_walk C.toDmCrypto s.ratchet.recv s.ratchet.skip (be16 b1 b2)
              (bramble_build_aead_aad hd src_addr ++ [b0, b1, b2]) nonce ct tag).2.1
            skip := (dm_recv_walk C.toDmCrypto s.ratchet.recv s.ratchet.skip (be16 b1 b2)
              (bramble_build_aead_aad hd src_addr ++ [b0, b1, b2]) nonce ct tag).2.2 } := by
          refine ⟨h.send, fun hv => ?_, h.prev_recv⟩
          obtain ⟨hck', hrk⟩ := h.recv (hvalid.symm.trans hv)
          exact ⟨hck hck', hrk⟩
        dsimp only
        split
        · exact count_grace_secret hrecv
        · exact try_previous_secret hrecv _ _ _ _ _ _
      · exact h

lemma chain_pair_secret {rk lohi hilo : Key32}
    (h : dm_derive_chain_pair C.toDmCrypto rk = some (lohi, hilo)) (hrk : ¬ A.knows rk.toList) :
    ¬ A.knows lohi.toList ∧ ¬ A.knows hilo.toList := by
  obtain ⟨lohi', hlohi, h⟩ := bind_eq_some_iff.1 h
  obtain ⟨hilo', hhilo, h⟩ := bind_eq_some_iff.1 h
  cases h
  exact ⟨fun hk => hrk (A.hkdf _ _ _ _ hlohi hk).1, fun hk => hrk (A.hkdf _ _ _ _ hhilo hk).1⟩

lemma install_chains_secret {lohi hilo : Key32} (self_is_lo : Bool) (epoch : UInt16)
    (hrk : ¬ A.knows r.rk.toList) (hck : ¬ A.knows lohi.toList ∧ ¬ A.knows hilo.toList)
    (hprev : r.prev_recv.valid → ¬ A.knows r.prev_recv.ck.toList) :
    Secret A (dm_ratchet_install_chains r lohi hilo self_is_lo epoch) := by
  match self_is_lo with
  | true => exact ⟨fun _ => hck.1, fun _ => ⟨hck.2, hrk⟩, hprev⟩
  | false => exact ⟨fun _ => hck.2, fun _ => ⟨hck.1, hrk⟩, hprev⟩

lemma init_state_secret (hikm : ¬ A.knows ikm.toList) (s : Session)
    (addr_self addr_peer : UInt32) :
    Secret A (dm_session_ratchet_init_state C.toDmCrypto s ikm addr_self addr_peer).2.ratchet := by
  unfold dm_session_ratchet_init_state
  dsimp only
  split
  · exact secret_wiped
  · next rk lohi hilo hinit =>
    obtain ⟨rk', hrk, hinit⟩ := bind_eq_some_iff.1 hinit
    obtain ⟨⟨lohi', hilo'⟩, hpair, hinit⟩ := bind_eq_some_iff.1 hinit
    obtain ⟨rfl, rfl, rfl⟩ := some.inj hinit
    have hroot : ¬ A.knows rk.toList := fun hk => hikm (A.hkdf _ _ _ _ hrk hk).2
    obtain ⟨hs, hr, -⟩ := install_chains_secret (A := A)
      (r := { s.ratchet with rk := rk, prev_recv := .zero })
      (addr_self == if addr_self < addr_peer then addr_self else addr_peer) s.ke_epoch hroot
      (chain_pair_secret hpair hroot) (fun hv => absurd hv Bool.false_ne_true)
    exact ⟨hs, hr, fun hv => absurd hv Bool.false_ne_true⟩

lemma epoch_bump_secret (h : Secret A s.ratchet) (hvalid : s.ratchet.recv.valid)
    (dh : Key32) (addr_self addr_peer : UInt32) (epoch : UInt16) :
    Secret A (dm_session_epoch_bump C.toDmCrypto s dh addr_self addr_peer epoch).2.ratchet := by
  obtain ⟨hck, hrk⟩ := h.recv hvalid
  unfold dm_session_epoch_bump
  dsimp only
  split
  · exact secret_wiped
  · next rk lohi hilo hderived =>
    obtain ⟨rk', hnext, hderived⟩ := bind_eq_some_iff.1 hderived
    obtain ⟨⟨lohi', hilo'⟩, hpair, hderived⟩ := bind_eq_some_iff.1 hderived
    obtain ⟨rfl, rfl, rfl⟩ := some.inj hderived
    have hroot : ¬ A.knows rk.toList := fun hk => hrk (A.hkdf _ _ _ _ hnext hk).1
    obtain ⟨hs, hr, hp⟩ := install_chains_secret (A := A)
      (r := { s.ratchet with
        prev_recv := s.ratchet.recv, prev_skip := s.ratchet.skip, new_epoch_msgs := 0, rk := rk })
      (addr_self == if addr_self < addr_peer then addr_self else addr_peer) epoch hroot
      (chain_pair_secret hpair hroot) (fun _ => hck)
    exact ⟨hs, hr, hp⟩

lemma ikm_secret {eph peer_eph : Key32}
    (h : dm_compute_ikm C me.private_key eph peer.public_key peer_eph = some ikm) :
    ¬ A.knows ikm.toList := by
  obtain ⟨dh1, -, h⟩ := bind_eq_some_iff.1 h
  obtain ⟨dh2, hdh2, h⟩ := bind_eq_some_iff.1 h
  obtain ⟨cross_a, -, h⟩ := bind_eq_some_iff.1 h
  obtain ⟨cross_b, -, h⟩ := bind_eq_some_iff.1 h
  cases h
  intro hknows
  rw [Vector.toList_append, Vector.toList_append, Vector.toList_append] at hknows
  exact A.product dh2 hdh2 (A.parts _ _ (A.parts _ _ (A.parts _ _ hknows).1).1).2

/-- **A session established under the key has secret chains**, if it was under the key before in
case it is only rekeyed. -/
theorem establish_secret (hikm : ¬ A.knows ikm.toList) (epoch : UInt16)
    (hold : is_rekey s epoch → Secret A s.ratchet) (addr_self addr_peer : UInt32)
    (pub key : Key32) (v : Bool) :
    Secret A
      (establish C addr_self addr_peer s pub epoch (some ikm) key v).2.ratchet := by
  unfold establish
  dsimp only
  split_ifs with hrekey
  · rw [isSome_some, Bool.true_and] at hrekey
    have hvalid : s.ratchet.recv.valid := by
      unfold is_rekey at hrekey
      rw [Bool.and_eq_true, Bool.and_eq_true] at hrekey
      exact hrekey.1.2
    exact epoch_bump_secret (s := mark_active s pub v) (hold hrekey) hvalid _ _ _ _
  · exact init_state_secret hikm _ _ _

/-! ## Tags -/

def tag_key (C : KeCrypto) (me : Identity) (peer_id_pub : Key32) (init : KeyExchange) :
    Option Key32 := do
  let dh2 ← C.x25519_dh me.private_key peer_id_pub
  let dh3 ← C.x25519_dh me.private_key init.ephemeral_pubkey
  C.hkdf_sha256 "bramble-dm-v2".toUTF8.toList (dh2.toList ++ dh3.toList)
    ("bramble-ke-init".toUTF8.toList ++
      dm_build_info init.src_addr me.address init.key_id.toUInt16)

def Tags (x : Identity) (transcript : List UInt8) : Prop :=
  (∃ dest eph, transcript = transcript_1 x.address dest eph x.public_key) ∨
    ∃ src eph_init id_init eph,
      transcript = transcript_2 src x.address eph_init id_init eph x.public_key

lemma length_transcript_1 (a b : UInt32) (e l : Key32) :
    (transcript_1 a b e l).length = 72 := by
  simp [transcript_1]

lemma transcript_1_inj {b a' b' : UInt32} {e l e' l' : Key32}
    (h : transcript_1 a b e l = transcript_1 a' b' e' l') : a = a' ∧ l = l' := by
  have hfront : a = a' := by simpa [transcript_1] using congrArg get_be32 h
  refine ⟨hfront, ?_⟩
  have hlen : l.toList.length = l'.toList.length := by
    rw [Vector.length_toList, Vector.length_toList]
  exact Vector.toList_inj.1 (List.append_inj_right' h hlen)

lemma init_of_tags (hsrc : init.src_addr ≠ me.address)
    (h : Tags me (transcript_1 init.src_addr me.address init.ephemeral_pubkey
      init.long_term_pubkey) ∨ Tags peer (transcript_1 init.src_addr me.address
      init.ephemeral_pubkey init.long_term_pubkey)) :
    init.long_term_pubkey = peer.public_key := by
  have hresp : ∀ {a b : UInt32} {e l : Key32} {src addr : UInt32} {e₁ i₁ e₂ i₂ : Key32},
      transcript_1 a b e l ≠ transcript_2 src addr e₁ i₁ e₂ i₂ := by
    intro a b e l src addr e₁ i₁ e₂ i₂ heq
    have hlen := congrArg List.length heq
    unfold transcript_2 at hlen
    rw [length_transcript_1, List.length_append, List.length_append, length_transcript_1,
      Vector.length_toList] at hlen
    omega
  rcases h with (⟨dest, eph, h⟩ | ⟨src, e₁, i₁, eph, h⟩) | ⟨dest, eph, h⟩ | ⟨src, e₁, i₁, eph, h⟩
  · exact absurd (transcript_1_inj h).1 hsrc
  · exact absurd h hresp
  · exact (transcript_1_inj h).2
  · exact absurd h hresp

lemma verified_tag_key (h : dm_verify_init C init me (some peer.public_key) ps = .ok ()) :
    ∃ key, tag_key C me peer.public_key init = some key ∧ ¬ A.knows key.toList := by
  unfold dm_verify_init at h
  split_ifs at h with htype hpin
  dsimp only at h
  split_ifs at h with htag
  obtain ⟨dh2, hdh2, htag⟩ := bind_eq_some_iff.1 htag
  obtain ⟨dh3, hdh3, htag⟩ := bind_eq_some_iff.1 htag
  unfold init_tag dm_derive_ke_tag at htag
  dsimp only at htag
  split_ifs at htag with hlen
  obtain ⟨key, hkey, -⟩ := bind_eq_some_iff.1 htag
  refine ⟨key, ?_, fun hknows => ?_⟩
  · unfold tag_key
    rw [hdh2, hdh3]
    exact hkey
  · exact A.product dh2 hdh2 (A.parts _ _ (A.hkdf _ _ _ _ hkey hknows).2).1

/-! ## The conditions -/

variable (A) in
def TagsIdeal (s : Sys) : Event → Prop
  | .verify _ _ => ∀ a init ps k key, s.worker = .looked_up a init ps (some k) →
      dm_verify_init C init me (some k) ps = .ok () → tag_key C me k init = some key →
      ¬ A.knows key.toList →
      Tags me (transcript_1 init.src_addr me.address init.ephemeral_pubkey
          init.long_term_pubkey) ∨
        Tags peer (transcript_1 init.src_addr me.address init.ephemeral_pubkey
          init.long_term_pubkey)
  | _ => True

def InstallKeeps (k : Key32) (t : DmTable) : Worker → Prop
  | .ready w => ∀ a ∈ session_of t w.src_addr, a.state = .ACTIVE →
      (w.answer = none → a.peer_id_pub = k → w.long_term_pubkey = k) ∧
        (w.long_term_pubkey = k → a.peer_id_pub = k)
  | _ => True

def KeepsKey (k : Key32) (s : Sys) : Event → Prop
  | .install _ => InstallKeeps k s.node.dm_table s.worker
  | _ => True

instance (k : Key32) (t : DmTable) (w : Worker) : Decidable (InstallKeeps k t w) := by
  cases w <;> unfold InstallKeeps <;> infer_instance

instance (k : Key32) (s : Sys) (e : Event) : Decidable (KeepsKey k s e) := by
  cases e <;> unfold KeepsKey <;> infer_instance

/-! ## The invariant -/

def Under (k : Key32) (t : DmTable) (i : Fin DM_MAX_SESSIONS) (a : UInt32) : Prop :=
  (t i).state = .ACTIVE ∧ (t i).peer_addr = a ∧ (t i).peer_id_pub = k

def Named (me : Identity) (a : UInt32) (msg : KeyExchange) : Prop :=
  msg.src_addr = a ∧ a ≠ me.address

def WorkerSafe (C : KeCrypto) (me peer : Identity) (t : DmTable) : Worker → Prop
  | .idle => True
  | .looked_up a init _ peer_id =>
    Named me a init ∧ ∀ i, Under peer.public_key t i a → peer_id = some peer.public_key
  | .ready w =>
    (∃ eph peer_eph ikm, w.ikm = some ikm ∧
      dm_compute_ikm C me.private_key eph w.long_term_pubkey peer_eph = some ikm) ∧
      (w.answer ≠ none → ∀ i, Under peer.public_key t i w.src_addr →
        w.long_term_pubkey = peer.public_key)

variable (A) in
structure Safe (s : Sys) : Prop where
  one : OneSlotEach s.node.dm_table
  secret : ∀ i a, Under peer.public_key s.node.dm_table i a →
    Secret A (s.node.dm_table i).ratchet
  queued : ∀ a msg ps, .message a msg ps ∈ s.work_q → Named me a msg
  worker : WorkerSafe C me peer s.node.dm_table s.worker

lemma safe_start (pins : Store) : Safe A (.start pins) := by
  refine ⟨fun i _ hi _ _ => absurd rfl hi, ?_, ?_, trivial⟩
  · rintro i a ⟨hact, -⟩
    cases hact
  · exact fun a msg ps hmem => absurd hmem List.not_mem_nil

variable {s : Sys} {e : Event} {t : DmTable}

/-- **Chains under the key stay secret, and new ones are.** -/
theorem Safe.secret_moves (h : Safe A s) (hm : Moves C me s e t)
    (hkeep : KeepsKey peer.public_key s e) (i : Fin DM_MAX_SESSIONS) (a : UInt32)
    (hu : Under peer.public_key t i a) : Secret A (t i).ratchet := by
  cases hm.slot i with
  | kept heq =>
    unfold Under at hu
    rw [heq] at hu ⊢
    exact h.secret i a hu
  | freed hnone => exact SessionState.noConfusion (hu.1.symm.trans hnone)
  | handshaking hstate => exact SessionState.noConfusion (hstate.symm.trans hu.1)
  | carried hact hsess =>
    exact carries_secret hsess (h.secret i _ ⟨hact, rfl, hsess.hands.2.2.symm.trans hu.2.2⟩)
  | @installed w now verified t' he hw halloc hnew =>
    subst he
    unfold KeepsKey at hkeep
    rw [hw] at hkeep
    have hworker := h.worker
    rw [hw] at hworker
    obtain ⟨⟨eph, peer_eph, ikm, hikm, hcompute⟩, -⟩ := hworker
    have hkey : w.long_term_pubkey = peer.public_key := by
      rw [← hu.2.2, hnew]
      exact (establish_marks _ _ _ _ _ _ _ _).2.2.symm
    rw [hkey] at hcompute
    rw [hnew, hikm]
    apply establish_secret (ikm_secret hcompute)
    intro hrekey
    -- a session that is rekeyed was active, so it is the sender's own and under the key
    have hact : (t' i).state = .ACTIVE := by
      unfold is_rekey at hrekey
      rw [Bool.and_eq_true, Bool.and_eq_true, beq_iff_eq] at hrekey
      exact hrekey.1.1
    rcases dm_alloc_cases halloc with ⟨hl, rfl⟩ | ⟨-, rfl, -⟩
    · exact h.secret i _ ⟨hact, rfl, (hkeep _ (session_of_lookup hl) hact).2 hkey⟩
    · rw [Function.update_self] at hact
      cases hact

lemma Safe.worker_moves (h : Safe A s) (hm : Moves C me s e t) :
    WorkerSafe C me peer t s.worker := by
  have hworker := h.worker
  match hat : s.worker with
  | .idle => trivial
  | .looked_up a init ps peer_id =>
    rw [hat] at hworker
    refine ⟨hworker.1, fun i hu => ?_⟩
    rcases hm.hands hu.1 with ⟨hold, hpeer, hpub⟩ | ⟨w, hw, -⟩
    · exact hworker.2 i ⟨hold, hpeer.symm.trans hu.2.1, hpub.symm.trans hu.2.2⟩
    · exact Worker.noConfusion (hat.symm.trans hw)
  | .ready w =>
    rw [hat] at hworker
    refine ⟨hworker.1, fun hans i hu => ?_⟩
    rcases hm.hands hu.1 with ⟨hold, hpeer, hpub⟩ | ⟨w', hw', -, hpub⟩
    · exact hworker.2 hans i ⟨hold, hpeer.symm.trans hu.2.1, hpub.symm.trans hu.2.2⟩
    · rw [hat] at hw'
      rw [Worker.ready.inj hw']
      exact hpub.symm.trans hu.2.2

/-! ## The queue -/

lemma dispatch_named {pins : Store} {dedup : DedupTable} {q : List WorkItem} {src_addr : UInt32}
    {now : UInt32}
    (h : item ∈ (DmWork.handle_ke_envelope C me.address pins dedup q src_addr msg now).2) :
    item ∈ q ∨ Named me src_addr msg ∧ ∃ ps, item = .message src_addr msg ps := by
  unfold DmWork.handle_ke_envelope at h
  split_ifs at h with hsrc hself
  · exact .inl h
  · exact .inl h
  · have hnamed : Named me src_addr msg := ⟨not_not.1 hsrc, hself⟩
    have hsent : item ∈ xQueueSend q (.message src_addr msg
        ((identity_store_lookup pins src_addr).map (·.x25519_pub))) →
        item ∈ q ∨ Named me src_addr msg ∧ ∃ ps, item = .message src_addr msg ps := by
      intro hmem
      rcases mem_xQueueSend hmem with hold | rfl
      · exact .inl hold
      · exact .inr ⟨hnamed, _, rfl⟩
    split at h
    · split at h
      · exact .inl h
      · exact hsent h
    · exact hsent h

lemma mesh_cases (s s' : Sys) : s.mesh s' = s' ∨ s.mesh s' = s := by
  unfold Sys.mesh
  split_ifs
  · exact .inl rfl
  · exact .inr rfl

lemma mem_mesh {s s' : Sys} (h : item ∈ (s.mesh s').work_q) :
    item ∈ s.work_q ∨ item ∈ s'.work_q := by
  rcases mesh_cases s s' with heq | heq
  · exact .inr (heq ▸ h)
  · exact .inl (heq ▸ h)

lemma message_mem_post {q : List WorkItem} {epoch : UInt16}
    (h : .message a msg ps ∈ xQueueSend q (.initiate p epoch)) :
    .message a msg ps ∈ q := by
  rcases mem_xQueueSend h with hold | hnew
  · exact hold
  · cases hnew

lemma teardown_frame (s : Sys) : (step C I me s .teardown).work_q = s.work_q ∧
    (step C I me s .teardown).worker = s.worker := by
  unfold step
  match s.teardown_due with
  | none => exact ⟨rfl, rfl⟩
  | some a =>
    dsimp only
    unfold compare_with_pin
    split
    · split_ifs <;> exact ⟨rfl, rfl⟩
    · exact ⟨rfl, rfl⟩

lemma step_queue (s : Sys) (e : Event) (h : .message a msg ps ∈ (step C I me s e).work_q) :
    .message a msg ps ∈ s.work_q ∨ Named me a msg := by
  match e with
  | .ke_envelope src_addr msg' now =>
    rcases mem_mesh h with hold | hnew
    · exact .inl hold
    · rcases dispatch_named hnew with hold | ⟨hnamed, ps', hitem⟩
      · exact .inl hold
      · obtain ⟨rfl, rfl, -⟩ := WorkItem.message.inj hitem
        exact .inr hnamed
  | .data_packet src_addr hd nonce ciphertext tag now heal =>
    rcases mem_mesh h with hold | hnew
    · exact .inl hold
    · split_ifs at hnew
      · exact .inl (message_mem_post hnew)
      · exact .inl hnew
  | .post_initiate peer epoch =>
    rcases mem_mesh h with hold | hnew
    · exact .inl hold
    · exact .inl (message_mem_post hnew)
  | .attestation _ _ _ | .set_anchor _ | .set_verified _ _ | .clear_verified _ =>
    rcases mem_mesh h with hold | hnew
    · exact .inl hold
    · exact .inl hnew
  | .teardown =>
    rw [(teardown_frame s).1] at h
    exact .inl h
  | .fetch eph =>
    unfold step at h
    dsimp only at h
    split at h
    · next item rest _ hqueue =>
      rw [hqueue]
      exact .inl (List.mem_cons_of_mem _ h)
    · exact .inl h
  | .verify .. | .install .. =>
    unfold step at h
    dsimp only at h
    split at h <;> exact .inl h
  | .prepare _ _ | .initiate _ _ | .send_packet _ _ _ _ _ => exact .inl h

/-! ## The worker -/

lemma confirm_resp_ready {n : Node} {resp : KeyExchange} {w : Install}
    (h : confirm_resp C me n a resp ps = .ready w) :
    (∃ eph peer_eph ikm, w.ikm = some ikm ∧
      dm_compute_ikm C me.private_key eph w.long_term_pubkey peer_eph = some ikm) ∧
      w.answer = none := by
  unfold confirm_resp at h
  split at h
  · cases h
  · next pe hpe =>
    dsimp only at h
    split at h
    · cases h
    · next key hverify =>
      obtain rfl := Worker.ready.inj h
      refine ⟨?_, rfl⟩
      unfold dm_verify_resp at hverify
      split_ifs at hverify with htype hpin
      dsimp only at hverify
      split at hverify
      · cases hverify
      · next key' tag hexp =>
        obtain ⟨ikm, hikm, -⟩ := bind_eq_some_iff.1 hexp
        exact ⟨pe.eph_priv, resp.ephemeral_pubkey, ikm, hikm, hikm⟩

lemma answer_init_ready {eph : Option Ephemeral} {w : Install}
    (h : answer_init C me a init ps eph = .ready w) :
    (∃ eph peer_eph ikm, w.ikm = some ikm ∧
      dm_compute_ikm C me.private_key eph w.long_term_pubkey peer_eph = some ikm) ∧
      w.src_addr = a ∧ w.long_term_pubkey = init.long_term_pubkey := by
  unfold answer_init at h
  split at h
  · cases h
  · next e =>
    dsimp only at h
    split at h
    · cases h
    · next resp key hbuild =>
      obtain rfl := Worker.ready.inj h
      obtain ⟨ikm, hikm, -⟩ := bind_eq_some_iff.1 hbuild
      exact ⟨⟨e, init.ephemeral_pubkey, ikm, hikm, hikm⟩, rfl, rfl⟩

lemma fetched_safe (h : Safe A s) (eph : Option Ephemeral) (hitem : item ∈ s.work_q) :
    WorkerSafe C me peer s.node.dm_table (DmWork.fetch C me s.node eph item).2 := by
  match item with
  | .initiate a epoch => trivial
  | .message a msg ps =>
    unfold DmWork.fetch
    dsimp only
    split
    · refine ⟨h.queued a msg ps hitem, ?_⟩
      rintro i ⟨hact, rfl, hpub⟩
      have hlook := h.one.lookup (i := i) (by rw [hact]; exact SessionState.noConfusion)
      rw [session_of_lookup hlook]
      dsimp only [dm_session_peer_id, bind_some]
      rw [hpub, if_neg A.nonzero]
    · match hat : confirm_resp C me s.node a msg ps with
      | .idle => trivial
      | .looked_up _ _ _ _ =>
        unfold confirm_resp at hat
        split at hat
        · cases hat
        · dsimp only at hat
          split at hat <;> exact Worker.noConfusion hat
      | .ready w =>
        obtain ⟨hikm, hans⟩ := confirm_resp_ready hat
        exact ⟨hikm, fun hne => absurd hans hne⟩

/-- **An INIT that verifies against a session under the key carries the key**: its tag can only be
the peer's. -/
theorem verified_safe (h : Safe A s) {rate_ok : Bool} {eph : Option Ephemeral}
    (htags : TagsIdeal A s (.verify rate_ok eph)) {peer_id : Option Key32}
    (hat : s.worker = .looked_up a init ps peer_id) :
    WorkerSafe C me peer (verify_init C me s.node.dm_table a init ps peer_id rate_ok eph).1
      (verify_init C me s.node.dm_table a init ps peer_id rate_ok eph).2 := by
  have hworker := h.worker
  rw [hat] at hworker
  obtain ⟨⟨hsrc, hself⟩, hunder⟩ := hworker
  -- what an answer takes, once the table says nothing against it
  have hanswer : ∀ {t : DmTable}, (∀ i, Under peer.public_key t i a →
      init.long_term_pubkey = peer.public_key) →
      WorkerSafe C me peer t (answer_init C me a init ps eph) := by
    intro t hkey
    match hans : answer_init C me a init ps eph with
    | .idle => trivial
    | .looked_up _ _ _ _ =>
      unfold answer_init at hans
      split at hans
      · cases hans
      · dsimp only at hans
        split at hans <;> exact Worker.noConfusion hans
    | .ready w =>
      obtain ⟨hikm, hwa, hwl⟩ := answer_init_ready hans
      refine ⟨hikm, fun _ i hu => ?_⟩
      rw [hwa] at hu
      rw [hwl]
      exact hkey i hu
  unfold verify_init admit_with
  match hv : dm_verify_init C init me peer_id ps with
  | .ok () =>
    refine hanswer fun i hu => ?_
    obtain rfl := hunder i hu
    obtain ⟨key, hkey, hsecret⟩ := verified_tag_key (A := A) hv
    exact init_of_tags (by rw [hsrc]; exact hself) (htags a init ps _ key hat hv hkey hsecret)
  | .error .PIN_MISMATCH => trivial
  | .error .FAIL =>
    split_ifs
    · match dm_verify_init C init me none ps with
      | .ok () =>
        -- the session is gone, so there is none to keep
        refine hanswer fun i hu => absurd hu.2.1 (h.one.gone ?_)
        rw [hu.1]
        exact SessionState.noConfusion
      | .error _ => trivial
    · trivial

lemma step_worker (h : Safe A s) (htags : TagsIdeal A s e) :
    WorkerSafe C me peer (step C I me s e).node.dm_table (step C I me s e).worker := by
  have hmoves := h.worker_moves (step_moves (I := I) s e)
  have hmesh : ∀ {s' : Sys}, s'.worker = s.worker →
      WorkerSafe C me peer (s.mesh s').node.dm_table s.worker →
      WorkerSafe C me peer (s.mesh s').node.dm_table (s.mesh s').worker := by
    intro s' hw hsafe
    rcases mesh_cases s s' with heq | heq
    · rw [heq] at hsafe ⊢
      rw [hw]
      exact hsafe
    · rw [heq] at hsafe ⊢
      exact hsafe
  match e with
  | .ke_envelope _ _ _ | .data_packet _ _ _ _ _ _ _ | .attestation _ _ _ | .post_initiate _ _
  | .set_anchor _ | .set_verified _ _ | .clear_verified _ => exact hmesh rfl hmoves
  | .teardown =>
    rw [(teardown_frame s).2]
    exact hmoves
  | .fetch eph =>
    unfold step at hmoves ⊢
    dsimp only at hmoves ⊢
    split
    · next item rest hidle hqueue =>
      have hitem : item ∈ s.work_q := hqueue ▸ List.mem_cons_self
      have hsafe := fetched_safe h eph hitem
      match item with
      | .initiate a epoch => trivial
      | .message a msg ps =>
        unfold DmWork.fetch at hsafe ⊢
        dsimp only at hsafe ⊢
        split
        · next hinit =>
          rw [hinit] at hsafe
          exact hsafe
        · next hresp =>
          rw [hresp] at hsafe
          exact hsafe
    · exact h.worker
  | .verify rate_ok eph =>
    unfold step
    dsimp only
    split
    · next a init ps peer_id hat => exact verified_safe h htags hat
    · exact h.worker
  | .install now =>
    unfold step
    dsimp only
    split
    · trivial
    · exact h.worker
  | .prepare _ _ | .initiate _ _ | .send_packet _ _ _ _ _ => exact hmoves

/-! ## Whole runs -/

lemma safe_step (s : Sys) (e : Event) (h : Safe A s)
    (hc : TagsIdeal A s e ∧ KeepsKey peer.public_key s e) : Safe A (step C I me s e) := by
  have hm : Moves C me s e (step C I me s e).node.dm_table := step_moves s e
  refine ⟨hm.one h.one, h.secret_moves hm hc.2, fun a msg ps hmem => ?_, step_worker h hc.1⟩
  rcases step_queue s e hmem with hold | hnamed
  · exact h.queued a msg ps hold
  · exact hnamed

def Held (k : Key32) (p : UInt32) (t : DmTable) : Prop :=
  ∀ i, (t i).isFor p → Under k t i p

/-- **A session that is not removed stays under the key.** -/
theorem Safe.held_moves (h : Safe A s) (hm : Moves C me s e t)
    (hkeep : KeepsKey peer.public_key s e) (hheld : Held peer.public_key p s.node.dm_table)
    (hthere : session_of s.node.dm_table p ≠ none) : Held peer.public_key p t := by
  obtain ⟨sess, hsess⟩ := ne_none_iff_exists'.1 hthere
  obtain ⟨k, hk, hslot⟩ := lookup_of_session_of hsess
  have hunder := hheld k (Table.find_some hk)
  intro i hfor
  obtain ⟨hused, haddr⟩ := isFor_iff.1 hfor
  cases hm.slot i with
  | kept heq =>
    unfold Under
    rw [heq] at hfor ⊢
    exact hheld i hfor
  | freed hnone => exact absurd hnone hused
  | handshaking hstate hold =>
    -- the slot would be that of an active session
    rw [haddr] at hold
    exact SessionState.noConfusion ((hold _ (session_of_lookup hk)).symm.trans hunder.1)
  | carried hact hsess =>
    have hold := hheld i (isFor_iff.2 ⟨by rw [hact]; exact SessionState.noConfusion,
      hsess.hands.2.1.symm.trans haddr⟩)
    exact ⟨hsess.hands.1.trans hact, haddr, hsess.hands.2.2.trans hold.2.2⟩
  | @installed w now verified t' he hw halloc hnew =>
    subst he
    obtain ⟨hstate, hpeer, hpub⟩ := establish_marks (C := C) me.address w.src_addr
      (t' i).toSession w.long_term_pubkey w.ke_epoch w.ikm w.session_key verified
    rw [← hnew] at hstate hpeer hpub
    obtain rfl : w.src_addr = p := (hpeer.trans (dm_alloc_peer halloc)).symm.trans haddr
    refine ⟨hstate, haddr, hpub.trans ?_⟩
    -- a RESP keeps the key by assumption, an INIT by its tag
    unfold KeepsKey at hkeep
    rw [hw] at hkeep
    have hworker := h.worker
    rw [hw] at hworker
    by_cases hans : w.answer = none
    · exact (hkeep _ (session_of_lookup hk) hunder.1).1 hans hunder.2.2
    · exact hworker.2 hans k hunder

/-- **The identity behind a session continues.** Once a node has an active session under a key
whose private half the attacker does not hold, it is active under that key until it is removed, if
HMAC is ideal and no installation changes the key where the code does not look. -/
theorem identity_continuity (A : Attacker C me peer) (I : IdentityCrypto) (pins : Store)
    (p : UInt32) (es es' : List Event)
    (hrun : Meets (step C I me) (fun s e => TagsIdeal A s e ∧ KeepsKey peer.public_key s e)
      (.start pins) (es ++ es')) :
    let s := es.foldl (step C I me) (.start pins)
    let s' := es'.foldl (step C I me) s
    (∃ a ∈ session_of s.node.dm_table p, a.state = .ACTIVE ∧ a.peer_id_pub = peer.public_key) →
    Meets (step C I me) (fun s _ => session_of s.node.dm_table p ≠ none) s es' →
    ∀ a ∈ session_of s'.node.dm_table p,
      a.state = .ACTIVE ∧ a.peer_id_pub = peer.public_key ∧ Secret A a.ratchet := by
  intro s s' hactive hthere
  obtain ⟨hrun, hrun'⟩ := (meets_append _ _ _).1 hrun
  have hsafe : Safe A s := foldl_invariant safe_step hrun (safe_start pins)
  have hheld : Held peer.public_key p s.node.dm_table := by
    obtain ⟨a, ha, hact, hpub⟩ := hactive
    obtain ⟨k, hk, rfl⟩ := lookup_of_session_of ha
    intro i hfor
    obtain ⟨hused, rfl⟩ := isFor_iff.1 hfor
    rw [hsafe.one.lookup hused] at hk
    cases hk
    exact ⟨hact, rfl, hpub⟩
  have hend : Safe A s' ∧ Held peer.public_key p s'.node.dm_table :=
    foldl_invariant (I := fun s => Safe A s ∧ Held peer.public_key p s.node.dm_table)
      (fun s e h hc => ⟨safe_step s e h.1 hc.1,
        h.1.held_moves (step_moves s e) hc.1.2 h.2 hc.2⟩)
      (meets_and.2 ⟨hrun', hthere⟩) ⟨hsafe, hheld⟩
  intro a ha
  obtain ⟨k, hk, rfl⟩ := lookup_of_session_of ha
  have hunder := hend.2 k (Table.find_some hk)
  exact ⟨hunder.1, hunder.2.2, hend.1.secret k p hunder⟩

/-! ## A session taken over -/

def kept_key (b : UInt8) : Key32 := (Vector.replicate 32 b).set 0 1

def markCrypto : KeCrypto where
  hkdf_sha256 salt ikm _ := some (keyOf (if 1 ∈ salt ∨ 1 ∈ ikm then 1 else 0))
  hmac_sha256 key _ := some key
  x25519_dh a p :=
    some (keyOf (if 1 ∈ a.toList ∧ 1 ∈ p.toList then 1 else 0))
  aes256gcm_encrypt key _ pt _ := some (pt, mac_head key)
  aes256gcm_decrypt key _ ct _ tag := if tag = mac_head key then some ct else none
  public_key a := a
  sha256_head a := (a.toList.headD 0).toUInt32

def node_1 : Identity := ⟨1, kept_key 2, kept_key 2⟩

def node_2 : Identity := ⟨2, kept_key 3, kept_key 3⟩

def marker : Attacker markCrypto node_1 node_2 where
  knows bytes := 1 ∉ bytes
  parts a b h := ⟨fun ha => h (List.mem_append_left b ha), fun hb => h (List.mem_append_right a hb)⟩
  hkdf salt ikm info key h hknows := by
    obtain rfl := Option.some.inj h
    rw [← not_or]
    intro hmem
    rw [if_pos hmem] at hknows
    exact hknows (by decide)
  product dh h := by
    obtain rfl := Option.some.inj h
    decide
  nonzero := by decide

def anyone : IdentityCrypto := ⟨fun _ => 0, fun _ _ _ => true⟩

def contact : List Event :=
  [.ke_envelope 2 ⟨2, kept_key 5, kept_key 3, 0, .INIT, Tag16.zero⟩ 10, .fetch none,
    .verify true (some (kept_key 6)), .install 20]

def rekey : List Event :=
  [.ke_envelope 2 ⟨2, kept_key 7, kept_key 3, 1, .INIT, mac_head (keyOf 1)⟩ 30,
    .fetch none, .verify true (some (kept_key 8)), .install 40]

def takeover : List Event :=
  [.data_packet 2 ⟨4, 1, 0, 3, 1, 100⟩ (Vector.replicate 12 0) [0, 0, 0, 0] Tag16.zero 30 true,
    .fetch (some (kept_key 9)),
    .ke_envelope 2 ⟨2, keyOf 50, keyOf 60, 0, .RESP, Tag16.zero⟩ 40,
    .fetch none, .install 50]

abbrev boot : Sys := .start (identity_store_init 0)

lemma tags_contact :
    Meets (step markCrypto anyone node_1) (TagsIdeal marker) boot contact := by
  refine ⟨trivial, trivial, ?_, trivial, trivial⟩
  intro a init ps k key hat
  -- there was no session, so there is no cached key
  have hnone : ((contact.take 2).foldl (step markCrypto anyone node_1) boot).worker =
      .looked_up 2 ⟨2, kept_key 5, kept_key 3, 0, .INIT, Tag16.zero⟩ none none := by
    decide
  obtain ⟨-, -, -, h⟩ := Worker.looked_up.inj (hnone.symm.trans hat)
  exact absurd h.symm (some_ne_none k)

lemma tags_rekey : Meets (step markCrypto anyone node_1) (TagsIdeal marker)
    (contact.foldl (step markCrypto anyone node_1) boot) rekey := by
  refine ⟨trivial, trivial, ?_, trivial, trivial⟩
  intro a init ps k key hat _ _ _
  have hinit : ((contact ++ rekey.take 2).foldl (step markCrypto anyone node_1) boot).worker =
      .looked_up 2 ⟨2, kept_key 7, kept_key 3, 1, .INIT, mac_head (keyOf 1)⟩ none
        (some (kept_key 3)) := by
    decide +kernel
  obtain ⟨-, rfl, -, -⟩ := Worker.looked_up.inj (hinit.symm.trans hat)
  exact .inr (Or.inl ⟨1, kept_key 7, rfl⟩)

theorem identity_continuity_rekey :
    let s := (contact ++ rekey).foldl (step markCrypto anyone node_1) boot
    (∃ a ∈ session_of s.node.dm_table 2, a.ke_epoch = 1) ∧
      ∀ a ∈ session_of s.node.dm_table 2,
        a.state = .ACTIVE ∧ a.peer_id_pub = node_2.public_key ∧ Secret marker a.ratchet := by
  refine ⟨by decide +kernel, ?_⟩
  rw [List.foldl_append]
  refine identity_continuity marker anyone (identity_store_init 0) 2 contact rekey ?_
    (by decide +kernel) (by decide +kernel)
  exact meets_and.2 ⟨(meets_append _ _ _).2 ⟨tags_contact, tags_rekey⟩, by decide +kernel⟩

/-- **A RESP takes a session over**: after contact with node 2, and without a teardown, the attacker
has the session under its own key and knows the chains. -/
theorem resp_takes_session_over :
    let s := contact.foldl (step markCrypto anyone node_1) boot
    let s' := takeover.foldl (step markCrypto anyone node_1) s
    Meets (step markCrypto anyone node_1) (TagsIdeal marker) boot (contact ++ takeover) ∧
      (∃ a ∈ session_of s.node.dm_table 2, a.state = .ACTIVE ∧
        a.peer_id_pub = node_2.public_key) ∧
      Meets (step markCrypto anyone node_1) (fun s _ => session_of s.node.dm_table 2 ≠ none) s
        takeover ∧
      ∃ a ∈ session_of s'.node.dm_table 2, a.state = .ACTIVE ∧
        a.peer_id_pub = keyOf 60 ∧ marker.knows a.ratchet.send.ck.toList ∧
        marker.knows a.ratchet.recv.ck.toList := by
  refine ⟨(meets_append _ _ _).2 ⟨tags_contact, ?_⟩, by decide +kernel, by decide +kernel, ?_⟩
  · exact ⟨trivial, trivial, trivial, trivial, trivial, trivial⟩
  · change ∃ a ∈ session_of _ 2, a.state = .ACTIVE ∧ a.peer_id_pub = keyOf 60 ∧
      1 ∉ a.ratchet.send.ck.toList ∧ 1 ∉ a.ratchet.recv.ck.toList
    decide +kernel

end BrambleMesh.DmContinuity
