/-
Sessions and pins. The mesh task drops a session under another key when it makes a pin; the worker
checks a message against the pin copied on arrival. A pin made in between is missed by both.
-/
import BrambleMesh.DmAgreement
import BrambleMesh.DmTasks
import BrambleMesh.IdentityProvenance

namespace BrambleMesh.DmPins

open Run DmRatchet DmHandshake DmDriver Function Option
open DmAgreement (keyOf sumCrypto)
open DmPeers DmWork DmTasks IdentityStore

/-! ## Pinned keys -/

def pinned (s : Store) (a : UInt32) : Option Key32 :=
  (identity_store_lookup s a).map (·.x25519_pub)

variable {s s' : Store} {a : UInt32}

lemma pinned_eq_some (hu : Unique s) {k : Key32} :
    pinned s a = some k ↔ ∃ i, Pins s i a ∧ (s.entries i).x25519_pub = k := by
  unfold pinned identity_store_lookup
  constructor
  · intro h
    obtain ⟨pin, hpin, hk⟩ := map_eq_some_iff.1 h
    obtain ⟨i, hi, rfl⟩ := map_eq_some_iff.1 hpin
    exact ⟨i, find_entry_some hi, hk⟩
  · rintro ⟨i, hi, rfl⟩
    rw [find_entry_of_pins hu hi]
    rfl

def KeepsKeys (s s' : Store) : Prop :=
  ∀ i a, Pins s' i a → Pins s i a ∧ (s'.entries i).x25519_pub = (s.entries i).x25519_pub

lemma KeepsKeys.unique (h : KeepsKeys s s') (hu : Unique s) : Unique s' :=
  fun i j a hi hj => hu i j a (h i a hi).1 (h j a hj).1

lemma KeepsKeys.pinned (h : KeepsKeys s s') (hu : Unique s) {k : Key32}
    (hk : pinned s' a = some k) : pinned s a = some k := by
  obtain ⟨i, hi, rfl⟩ := (pinned_eq_some (h.unique hu)).1 hk
  exact (pinned_eq_some hu).2 ⟨i, (h i a hi).1, (h i a hi).2.symm⟩

lemma KeepsKeys.trans {s'' : Store} (h' : KeepsKeys s' s'') (h : KeepsKeys s s') :
    KeepsKeys s s'' := by
  intro i a hi
  obtain ⟨hi', hx⟩ := h' i a hi
  obtain ⟨hi'', hx'⟩ := h i a hi'
  exact ⟨hi'', hx.trans hx'⟩

lemma keepsKeys_of_entries (h : s'.entries = s.entries) : KeepsKeys s s' := by
  intro i a hi
  unfold Pins at hi ⊢
  rw [h] at hi ⊢
  exact ⟨hi, rfl⟩

lemma keepsKeys_of_update {i : Fin IDENTITY_STORE_CAPACITY} {p : IdentityPin}
    (h : s'.entries = update s.entries i p)
    (hp : p.used = (s.entries i).used ∧ p.address = (s.entries i).address ∧ p.x25519_pub =
      (s.entries i).x25519_pub) : KeepsKeys s s' := by
  intro j a hj
  unfold Pins at hj ⊢
  rw [h] at hj ⊢
  by_cases hji : j = i
  · subst hji
    rw [update_self] at hj ⊢
    rw [hp.1, hp.2.1] at hj
    exact ⟨hj, hp.2.2⟩
  · rw [update_of_ne hji] at hj ⊢
    exact ⟨hj, rfl⟩

lemma keepsKeys_of_edits {f : IdentityPin → IdentityPin} (h : Edits s s' a f)
    (hf : ∀ e, (f e).used = e.used ∧ (f e).address = e.address ∧ (f e).x25519_pub = e.x25519_pub) :
    KeepsKeys s s' := by
  obtain ⟨-, ⟨-, hentries⟩ | ⟨i, -, hentries⟩⟩ := h
  · exact keepsKeys_of_entries hentries
  · exact keepsKeys_of_update hentries (hf _)

lemma keepsKeys_set_anchor (s : Store) (k : Key32) :
    KeepsKeys s (identity_store_set_anchor s k) := by
  obtain ⟨-, -, ⟨-, -, hentries⟩ | hentries⟩ := set_anchor_cases s k
  · exact keepsKeys_of_entries hentries
  · intro i a hi
    unfold Pins at hi
    rw [hentries] at hi
    cases hi.1

variable (I : IdentityCrypto)

/-- **What an attestation does to the pins**: it makes one for its own address, under its key, and
says so, or it makes none. -/
theorem attestation_pins (hu : Unique s) (att : Attestation)
    (self_addr now_ms : UInt32) (epoch_ms : UInt64) :
    let out := identity_store_handle_attestation I s att self_addr now_ms epoch_ms
    Unique out.1 ∧ ∀ a k, pinned out.1 a = some k →
      pinned s a = some k ∨ out.2 = .NEW ∧ a = att.src_addr ∧ k = att.x25519_pub := by
  have hu' := IdentityProvenance.unique_step I hu
    (.handle_attestation att self_addr now_ms epoch_ms)
  refine ⟨hu', fun a k hk => ?_⟩
  rcases attestation_cases I s att self_addr now_ms epoch_ms with ⟨-, hsame⟩ | ⟨hpin, -⟩
  · exact .inl ((keepsKeys_of_entries hsame.entries).pinned hu hk)
  · rw [IdentityProvenance.apply_event, hpin] at hu'
    rw [hpin] at hk ⊢
    obtain ⟨-, ⟨hres, hbinds⟩ | ⟨-, i, -, -, hentries⟩ | ⟨-, hsame⟩⟩ :=
      pin_cases s att.src_addr att.ed25519_pub att.x25519_pub now_ms
    · obtain ⟨i, hi, rfl⟩ := (pinned_eq_some hu').1 hk
      rw [hbinds.2]
      rw [IdentityProvenance.pins_of_binds hbinds] at hi
      rcases hi with ⟨rfl, rfl⟩ | ⟨hne, hi⟩
      · rw [update_self]
        exact .inr ⟨hres, rfl, rfl⟩
      · rw [update_of_ne hne]
        exact .inl ((pinned_eq_some hu).2 ⟨i, hi, rfl⟩)
    · exact .inl ((keepsKeys_of_update hentries ⟨rfl, rfl, rfl⟩).pinned hu hk)
    · exact .inl ((keepsKeys_of_entries hsame.entries).pinned hu hk)

/-! ## The invariant -/

def item_pin : WorkItem → Option (UInt32 × Option Key32)
  | .initiate _ _ => none
  | .message src_addr _ pinned => some (src_addr, pinned)

def worker_pin : Worker → Option (UInt32 × Option Key32)
  | .idle => none
  | .looked_up src_addr _ pinned _ => some (src_addr, pinned)
  | .ready w => some (w.src_addr, w.pinned)

def copies (s : Sys) : List (UInt32 × Option Key32) :=
  (worker_pin s.worker).toList ++ s.work_q.filterMap item_pin

def NoPinBetween (me : Identity) (s : Sys) : Event → Prop
  | .attestation att now_ms epoch_ms =>
    (identity_store_handle_attestation I s.pins att me.address now_ms epoch_ms).2 = .NEW →
      ∀ c ∈ copies s, c.1 = att.src_addr → c.2 = some att.x25519_pub
  | _ => True

instance (me : Identity) (s : Sys) : (e : Event) → Decidable (NoPinBetween I me s e)
  | .attestation .. => inferInstanceAs (Decidable (_ → _))
  | .ke_envelope .. | .data_packet .. | .teardown | .post_initiate .. | .set_anchor _
  | .set_verified .. | .clear_verified _ | .fetch _ | .verify .. | .install _ | .prepare ..
  | .initiate .. | .send_packet .. => .isTrue trivial

def Agrees (s : Sys) : Prop :=
  ∀ i, (s.node.dm_table i).state = .ACTIVE →
    ∀ pin ∈ identity_store_lookup s.pins (s.node.dm_table i).peer_addr,
      (s.node.dm_table i).peer_id_pub = pin.x25519_pub
deriving Decidable

def Copied (s : Sys) (a : UInt32) (ps : Option Key32) : Prop :=
  worker_pin s.worker = some (a, ps) ∨ ∃ item ∈ s.work_q, item_pin item = some (a, ps)

lemma mem_copies {s : Sys} {ps : Option Key32} (h : Copied s a ps) :
    (a, ps) ∈ copies s := by
  unfold copies
  rw [List.mem_append, mem_toList, List.mem_filterMap]
  exact h

structure Sound (s : Sys) : Prop where
  one : OneSlotEach s.node.dm_table
  unique : Unique s.pins
  agree : ∀ i k, (s.node.dm_table i).state = .ACTIVE →
    pinned s.pins (s.node.dm_table i).peer_addr = some k →
    s.teardown_due ≠ some (s.node.dm_table i).peer_addr → (s.node.dm_table i).peer_id_pub = k
  copied : ∀ a ps k, Copied s a ps → pinned s.pins a = some k → ps = some k
  checked : ∀ w, s.worker = .ready w → ∀ k ∈ w.pinned, w.long_term_pubkey = k

lemma sound_start {pins : Store} (hu : Unique pins) : Sound (.start pins) := by
  refine ⟨?_, hu, ?_, ?_, ?_⟩
  · exact fun i _ hi _ _ => absurd rfl hi
  · exact fun i k hact _ _ => SessionState.noConfusion hact
  · rintro a ps k (h | ⟨item, hmem, -⟩) _
    · cases h
    · cases hmem
  · exact fun w hw => Worker.noConfusion hw

variable {C : KeCrypto} {I : IdentityCrypto} {me : Identity} {s : Sys}

lemma Sound.agrees (h : Sound s) (hdue : s.teardown_due = none) : Agrees s := by
  intro i hact pin hpin
  apply h.agree i pin.x25519_pub hact
  · rw [pinned, mem_def.1 hpin]
    rfl
  · rw [hdue]
    exact (some_ne_none _).symm

lemma Sound.mesh (h : Sound s) {s' : Sys} (h' : s.teardown_due = none → Sound s') :
    Sound (s.mesh s') := by
  unfold Sys.mesh
  split_ifs with hdue
  · exact h' (isNone_iff_eq_none.1 hdue)
  · exact h

lemma Sound.keepsKeys (h : Sound s) {pins : Store} (hkeep : KeepsKeys s.pins pins) :
    Sound { s with pins } :=
  ⟨h.one, hkeep.unique h.unique,
    fun i k hact hk hdue => h.agree i k hact (hkeep.pinned h.unique hk) hdue,
    fun a ps k hcopy hk => h.copied a ps k hcopy (hkeep.pinned h.unique hk), h.checked⟩

variable (C me) in
lemma Sound.node (h : Sound s) (e : Event) {n : Node} (hm : Moves C me s e n.dm_table) :
    Sound { s with node := n } := by
  refine ⟨hm.one h.one, h.unique, fun i k hact hk hdue => ?_, h.copied, h.checked⟩
  rcases hm.hands hact with ⟨hold, hpeer, hpub⟩ | ⟨w, hw, hpeer, hpub⟩
  · rw [hpeer] at hk hdue
    rw [hpub]
    exact h.agree i k hold hk hdue
  · rw [hpeer] at hk
    rw [hpub]
    exact h.checked w hw k (h.copied _ _ k (.inl (by rw [hw]; rfl)) hk)

lemma Sound.post (h : Sound s) (p : UInt32) (epoch : UInt16) :
    Sound { s with work_q := xQueueSend s.work_q (.initiate p epoch) } := by
  refine ⟨h.one, h.unique, h.agree, ?_, h.checked⟩
  rintro a ps k (hworker | ⟨item, hmem, hitem⟩) hk
  · exact h.copied a ps k (.inl hworker) hk
  · rcases mem_xQueueSend hmem with hold | rfl
    · exact h.copied a ps k (.inr ⟨item, hold, hitem⟩) hk
    · cases hitem

/-! ## The mesh task -/

lemma sound_ke_envelope (h : Sound s) (src_addr : UInt32) (msg : KeyExchange) (now : UInt32) :
    Sound (step C I me s (.ke_envelope src_addr msg now)) := by
  apply h.mesh
  intro _
  have hqueue : ∀ item ∈ (DmWork.handle_ke_envelope C me.address s.pins s.node.hs_dedup s.work_q
      src_addr msg now).2, item ∈ s.work_q ∨
        item = .message src_addr msg (pinned s.pins src_addr) := by
    intro item hmem
    unfold DmWork.handle_ke_envelope at hmem
    split_ifs at hmem
    · exact .inl hmem
    · exact .inl hmem
    · split at hmem
      · split at hmem
        · exact .inl hmem
        · exact mem_xQueueSend hmem
      · exact mem_xQueueSend hmem
  refine ⟨h.one, h.unique, h.agree, ?_, h.checked⟩
  rintro a ps k (hworker | ⟨item, hmem, hitem⟩) hk
  · exact h.copied a ps k (.inl hworker) hk
  · rcases hqueue item hmem with hold | rfl
    · exact h.copied a ps k (.inr ⟨item, hold, hitem⟩) hk
    · cases hitem
      exact hk

lemma sound_attestation (h : Sound s) (att : Attestation) (now_ms : UInt32) (epoch_ms : UInt64)
    (hrace : NoPinBetween I me s (.attestation att now_ms epoch_ms)) :
    Sound (step C I me s (.attestation att now_ms epoch_ms)) := by
  apply h.mesh
  intro hdue
  obtain ⟨hu, hpins⟩ := attestation_pins I h.unique att me.address now_ms epoch_ms
  refine ⟨h.one, hu, fun i k hact hk hdue' => ?_, fun a ps k hcopy hk => ?_, h.checked⟩
  · rcases hpins _ k hk with hold | ⟨hnew, haddr, -⟩
    · exact h.agree i k hact hold (by rw [hdue]; exact (some_ne_none _).symm)
    · -- a pin was made, so the teardown of this address is due
      rw [if_pos (.inl hnew), haddr] at hdue'
      exact absurd rfl hdue'
  · rcases hpins a k hk with hold | ⟨hnew, rfl, rfl⟩
    · exact h.copied a ps k hcopy hold
    · exact hrace hnew _ (mem_copies hcopy) rfl

lemma sound_compare (h : Sound s) (hdue : s.teardown_due = some a) :
    Sound (compare_with_pin s a) := by
  -- once no session of the address disagrees with the pin, nothing is due any more
  have hsettled : ∀ {n : Node} {pins : Store}, OneSlotEach n.dm_table → KeepsKeys s.pins pins →
      (∀ i, (n.dm_table i).state = .ACTIVE → n.dm_table i = s.node.dm_table i ∧
        ((n.dm_table i).peer_addr = a → ∀ k, pinned s.pins a = some k →
          (n.dm_table i).peer_id_pub = k)) →
      Sound { s with node := n, pins, teardown_due := none } := by
    intro n pins hone hkeep hslots
    refine ⟨hone, hkeep.unique h.unique, fun i k hact hk _ => ?_,
      fun a ps k hcopy hk => h.copied a ps k hcopy (hkeep.pinned h.unique hk), h.checked⟩
    have hk' := hkeep.pinned h.unique hk
    obtain ⟨heq, hown⟩ := hslots i hact
    by_cases haddr : (n.dm_table i).peer_addr = a
    · exact hown haddr k (haddr ▸ hk')
    · rw [heq] at hact hk' haddr ⊢
      refine h.agree i k hact hk' ?_
      rw [hdue]
      exact fun h' => haddr (some.inj h').symm
  have hgone : ∀ i, (dm_session_teardown s.node.dm_table a i).state = .ACTIVE →
      dm_session_teardown s.node.dm_table a i = s.node.dm_table i ∧
        ((dm_session_teardown s.node.dm_table a i).peer_addr = a → ∀ k, pinned s.pins a = some k →
          (dm_session_teardown s.node.dm_table a i).peer_id_pub = k) := by
    intro i hact
    have hused : (dm_session_teardown s.node.dm_table a i).state ≠ .NONE := by
      rw [hact]
      exact SessionState.noConfusion
    exact ⟨(teardown_slot s.node.dm_table a i).resolve_right hused,
      fun haddr => absurd haddr (h.one.gone hused)⟩
  have hsession : ∀ i, (s.node.dm_table i).state = .ACTIVE → (s.node.dm_table i).peer_addr = a →
      session_of s.node.dm_table a = some (s.node.dm_table i).toSession := by
    rintro i hact rfl
    exact session_of_lookup (h.one.lookup (by rw [hact]; exact SessionState.noConfusion))
  unfold compare_with_pin
  split
  · next pin sess hpin hsess =>
    split_ifs with hdis hclear
    · refine hsettled (h.one.teardown a) ?_ hgone
      have hclear' := keepsKeys_of_edits (clear_verified_edits s.pins a) fun _ => ⟨rfl, rfl, rfl⟩
      have hmark := keepsKeys_of_edits (mark_key_changed_edits
        (identity_store_clear_verified s.pins a).1 a) fun _ => ⟨rfl, rfl, rfl⟩
      exact hmark.trans hclear'
    · exact hsettled (h.one.teardown a) (keepsKeys_of_entries rfl) hgone
    · refine hsettled h.one (keepsKeys_of_entries rfl) fun i hact => ⟨rfl, fun haddr k hk => ?_⟩
      have heq := hsession i hact haddr
      rw [hsess, some.injEq] at heq
      rw [pinned, hpin] at hk
      rw [heq] at hdis
      unfold dm_pin_disagrees at hdis
      rw [hact, beq_self_eq_true, Bool.true_and, bne_iff_ne, not_not] at hdis
      exact hdis.trans (some.inj hk)
  · next hnone =>
    refine hsettled h.one (keepsKeys_of_entries rfl) fun i hact => ⟨rfl, fun haddr k hk => ?_⟩
    obtain ⟨pin, hpin, -⟩ := map_eq_some_iff.1 hk
    exact absurd (hsession i hact haddr) (hnone pin _ hpin)

/-! ## The worker -/

lemma Sound.advance (h : Sound s) {worker : Worker} {q : List WorkItem}
    (hq : ∀ item ∈ q, item ∈ s.work_q)
    (hworker : worker = .idle ∨ ∃ a ps, Copied s a ps ∧ worker_pin worker = some (a, ps) ∧
      ∀ w, worker = .ready w → w.Checked a ps) :
    Sound { s with worker, work_q := q } := by
  refine ⟨h.one, h.unique, h.agree, ?_, ?_⟩
  · rintro a ps k (hnow | ⟨item, hmem, hitem⟩) hk
    · rcases hworker with rfl | ⟨a', ps', hcopy, hpin, -⟩
      · cases hnow
      · rw [hpin] at hnow
        cases hnow
        exact h.copied _ _ k hcopy hk
    · exact h.copied a ps k (.inr ⟨item, hq item hmem, hitem⟩) hk
  · intro w hw
    rcases hworker with rfl | ⟨a, ps, -, -, hchecked⟩
    · cases hw
    · obtain ⟨-, hps, hkey⟩ := hchecked w hw
      rw [hps]
      exact hkey

lemma sound_fetch (h : Sound s) (eph : Option Ephemeral) :
    Sound (step C I me s (.fetch eph)) := by
  unfold step
  dsimp only
  split
  · next item rest hidle hqueue =>
    have hrest : ∀ it ∈ rest, it ∈ s.work_q := fun it hit => hqueue ▸ List.mem_cons_of_mem _ hit
    have hitem : item ∈ s.work_q := hqueue ▸ List.mem_cons_self
    match item with
    | .initiate a epoch =>
      exact (h.node C me (.fetch eph) (.same (initiate_table _ _ _ _))).advance hrest (.inl rfl)
    | .message a msg ps =>
      have hcopy : Copied s a ps := .inr ⟨_, hitem, rfl⟩
      unfold DmWork.fetch
      dsimp only
      match msg.ke_type with
      | .INIT =>
        exact h.advance hrest (.inr ⟨a, ps, hcopy, rfl, fun w hw => Worker.noConfusion hw⟩)
      | .RESP =>
        apply h.advance hrest
        rcases confirm_resp_cases C me s.node a msg ps with hidle | ⟨w, hw, hck⟩
        · exact .inl hidle
        · refine .inr ⟨a, ps, hcopy, ?_, ?_⟩
          · rw [hw, worker_pin, hck.1, hck.2.1]
          · intro w' hw'
            rw [hw] at hw'
            rw [← Worker.ready.inj hw']
            exact hck
  · exact h

lemma sound_verify (h : Sound s) (rate_ok : Bool) (eph : Option Ephemeral) :
    Sound (step C I me s (.verify rate_ok eph)) := by
  unfold step
  dsimp only
  split
  · next a init ps peer_id hat =>
    obtain ⟨htable, hout⟩ := verify_init_cases C me s.node.dm_table a init ps peer_id
      rate_ok eph
    have hcopy : Copied s a ps := .inl (by rw [hat]; rfl)
    have h' : Sound { s with node := { s.node with dm_table := (verify_init C me s.node.dm_table a
        init ps peer_id rate_ok eph).1 } } := by
      rcases htable with heq | heq
      · exact h.node C me (.verify rate_ok eph) (.same heq)
      · exact h.node C me (.verify rate_ok eph) (.dropped a heq)
    apply h'.advance (fun _ hmem => hmem)
    rcases hout with hidle | ⟨w, hw, hck⟩
    · exact .inl hidle
    · refine .inr ⟨a, ps, hcopy, ?_, ?_⟩
      · rw [hw, worker_pin, hck.1, hck.2.1]
      · intro w' hw'
        rw [hw] at hw'
        rw [← Worker.ready.inj hw']
        exact hck
  · exact h

lemma sound_install (h : Sound s) (now : UInt32) : Sound (step C I me s (.install now)) := by
  unfold step
  dsimp only
  split
  · next w hw =>
    have h' := h.node C me (.install now)
      (moves_install hw now (identity_store_is_verified s.pins w.src_addr))
    exact h'.advance (fun _ hmem => hmem) (.inl rfl)
  · exact h

/-! ## Whole runs -/

lemma sound_step (s : Sys) (e : Event) (h : Sound s) (hrace : NoPinBetween I me s e) :
    Sound (step C I me s e) := by
  match e with
  | .ke_envelope src_addr msg now => exact sound_ke_envelope h src_addr msg now
  | .attestation att now_ms epoch_ms => exact sound_attestation h att now_ms epoch_ms hrace
  | .teardown =>
    unfold step
    match hdue : s.teardown_due with
    | none => exact h
    | some a => exact sound_compare h hdue
  | .data_packet src_addr hd nonce ciphertext tag now heal =>
    apply h.mesh
    intro _
    have h' : Sound { s with node := { s.node with
        dm_table := (open_dm C s.node.dm_table src_addr hd nonce ciphertext tag now).1 } } :=
      h.node C me (.data_packet src_addr hd nonce ciphertext tag now heal)
        (moves_open src_addr hd nonce ciphertext tag now)
    split_ifs
    · exact h'.post src_addr 0
    · exact h'
  | .post_initiate peer epoch => exact h.mesh fun _ => h.post peer epoch
  | .set_anchor k => exact h.mesh fun _ => h.keepsKeys (keepsKeys_set_anchor s.pins k)
  | .set_verified a sas =>
    exact h.mesh fun _ => h.keepsKeys
      (keepsKeys_of_edits (set_verified_edits s.pins a sas) fun _ => ⟨rfl, rfl, rfl⟩)
  | .clear_verified a =>
    exact h.mesh fun _ => h.keepsKeys
      (keepsKeys_of_edits (clear_verified_edits s.pins a) fun _ => ⟨rfl, rfl, rfl⟩)
  | .fetch eph => exact sound_fetch h eph
  | .verify rate_ok eph => exact sound_verify h rate_ok eph
  | .install now => exact sound_install h now
  | .prepare p now => exact h.node C me _ (step_moves (I := I) s (.prepare p now))
  | .initiate p eph => exact h.node C me _ (step_moves (I := I) s (.initiate p eph))
  | .send_packet dest_addr hd payload nonce sent =>
    exact h.node C me _ (step_moves (I := I) s (.send_packet dest_addr hd payload nonce sent))

/-- **Sessions agree with pins.** Over any interleaving of the tasks in which no pin is made for
an address while a message from it waits with another answer of the pin store: whenever no
teardown is due, every active session of a pinned address is under the pinned key. -/
theorem sessions_agree_with_pins (C : KeCrypto) (I : IdentityCrypto) (me : Identity) (pins : Store)
    (hu : Unique pins) (es : List Event)
    (hrace : Meets (step C I me) (NoPinBetween I me) (.start pins) es) :
    let s := es.foldl (step C I me) (.start pins)
    s.teardown_due = none → Agrees s :=
  (foldl_invariant (I := Sound) sound_step hrace (sound_start hu)).agrees

/-! ## A pin made in between -/

def trusting : IdentityCrypto := ⟨fun _ => 2, fun _ _ _ => true⟩

def node_one : Identity := DmAgreement.sumPair.id .A

def forged : KeyExchange :=
  ⟨2, keyOf 77, keyOf 66, 0, .INIT, Vector.replicate 16 0⟩

def genuine : Attestation :=
  ⟨2, keyOf 2, keyOf 3, Vector.replicate 64 0, 0, Vector.replicate 64 0⟩

def processed : List Event :=
  [.fetch none, .verify true (some (keyOf 9)), .install 30]

theorem sessions_agree_with_pins_forged_first :
    let s := (Event.ke_envelope 2 forged 10 :: processed ++
      [Event.attestation genuine 40 0, Event.teardown]).foldl
        (step sumCrypto trusting node_one) (.start (identity_store_init 0))
    s.teardown_due = none ∧ Agrees s :=
  ⟨by decide +kernel, sessions_agree_with_pins sumCrypto trusting node_one
    (identity_store_init 0) (fun _ _ _ hi => by cases hi.1) _ (by decide +kernel)
    (by decide +kernel)⟩

/-- **A pin made between the arrival of a message and its session is missed**: the teardown finds
no session, and the worker installs one under the forged key. -/
theorem pin_between_dispatch_and_install :
    let s := ([Event.ke_envelope 2 forged 10, Event.attestation genuine 20 0, Event.teardown] ++
      processed).foldl
        (step sumCrypto trusting node_one) (.start (identity_store_init 0))
    (s.work_q = [] ∧ s.worker = .idle ∧ s.teardown_due = none) ∧ ¬ Agrees s := by
  decide +kernel

end BrambleMesh.DmPins
