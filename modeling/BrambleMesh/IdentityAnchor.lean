/-
Anchored means endorsed, across reboots. The blob in flash is not rewritten when the anchor
changes, and the loader trusts what it finds.
-/
import BrambleMesh.IdentityBlob

open BrambleMesh.Run BrambleMesh.IdentityStore BrambleMesh.IdentityBlob Function List

namespace BrambleMesh.IdentityAnchor

/-! ## The node -/

structure Node where
  s_identity_pins : Store
  nvs_anchor : Option Key32
  nvs_pins : Option (List UInt8)
  accepted : List (Key32 × Attestation)
  saved_under : Option Key32

def Node.fresh (now_ms : UInt32) : Node := ⟨identity_store_init now_ms, none, none, [], none⟩

def anchor_of (s : Store) : Option Key32 := if s.has_anchor then some s.anchor_pub else none

def mesh_pin_store_save (n : Node) (nvs_ok : Bool) : Node :=
  match identity_store_serialize n.s_identity_pins IDENTITY_STORE_BLOB_MAX with
  | none => n
  | some buf =>
    if nvs_ok then
      { n with nvs_pins := some buf, saved_under := anchor_of n.s_identity_pins }
    else n

def mesh_set_pin_anchor (n : Node) (anchor_pub : Key32) : Node :=
  { n with s_identity_pins := identity_store_set_anchor n.s_identity_pins anchor_pub }

def rpc_set_anchor (n : Node) (anchor_pub : Key32) (nvs_ok : Bool) : Node :=
  mesh_set_pin_anchor { n with nvs_anchor := if nvs_ok then some anchor_pub else n.nvs_anchor }
    anchor_pub

def record_new (n : Node) (att : Attestation) (r : PinResult) : List (Key32 × Attestation) :=
  match r, anchor_of n.s_identity_pins with
  | .NEW, some k => (k, att) :: n.accepted
  | _, _ => n.accepted

variable (C : IdentityCrypto)

def deliver_attestation (n : Node) (att : Attestation)
    (self_addr now_ms : UInt32) (epoch_ms : UInt64) : Node × PinResult :=
  let r := identity_store_handle_attestation C n.s_identity_pins att self_addr now_ms epoch_ms
  ({ n with s_identity_pins := r.1, accepted := record_new n att r.2 }, r.2)

def revoke_verified (n : Node) (addr : UInt32) : Node :=
  let s := (identity_store_clear_verified n.s_identity_pins addr).1
  { n with s_identity_pins := (identity_store_mark_key_changed s addr).1 }

def handle_identity_attestation (n : Node) (att : Attestation)
    (self_addr now_ms : UInt32) (epoch_ms : UInt64) (verified_cleared nvs_ok : Bool) : Node :=
  let d := deliver_attestation C n att self_addr now_ms epoch_ms
  let n' := if d.2 = .NEW then mesh_pin_store_save d.1 nvs_ok else d.1
  if (d.2 = .NEW ∨ d.2 = .REFRESHED ∨ d.2 = .CONFLICT) ∧ verified_cleared then
    mesh_pin_store_save (revoke_verified n' att.src_addr) nvs_ok
  else n'

def mesh_set_peer_verified (n : Node) (addr : UInt32) (verified : Bool)
    (sas : Option (List UInt8)) (nvs_ok : Bool) : Node :=
  match identity_store_lookup n.s_identity_pins addr with
  | none => n
  | some _ =>
    if verified then
      match sas with
      | none => n
      | some sas =>
        mesh_pin_store_save
          { n with s_identity_pins := (identity_store_set_verified n.s_identity_pins addr sas).1 }
          nvs_ok
    else
      mesh_pin_store_save
        { n with s_identity_pins := (identity_store_clear_verified n.s_identity_pins addr).1 }
        nvs_ok

def mesh_pin_store_load (s : Store) (pins : Option (List UInt8)) (now_ms : UInt32) : Store :=
  match pins with
  | none => s
  | some buf => (identity_store_deserialize s buf now_ms).1

def mesh_task_start (anchor : Option Key32) (pins : Option (List UInt8)) (now_ms : UInt32) :
    Store :=
  let s := identity_store_init now_ms
  let s :=
    match anchor with
    | none => s
    | some k => identity_store_set_anchor s k
  mesh_pin_store_load s pins now_ms

inductive NodeEvent
  | attestation (att : Attestation) (self_addr now_ms : UInt32) (epoch_ms : UInt64)
      (verified_cleared nvs_ok : Bool)
  | set_anchor (anchor_pub : Key32) (nvs_ok : Bool)
  | set_peer_verified (addr : UInt32) (verified : Bool) (sas : Option (List UInt8))
      (nvs_ok : Bool)
  | save (nvs_ok : Bool)
  | reboot (now_ms : UInt32) (anchor_ok pins_ok : Bool)
deriving DecidableEq

def boot_anchor (n : Node) (anchor_ok : Bool) : Option Key32 :=
  if anchor_ok then n.nvs_anchor else none

def boot_pins (n : Node) (pins_ok : Bool) : Option (List UInt8) :=
  if pins_ok then n.nvs_pins else none

def step (n : Node) : NodeEvent → Node
  | .attestation att self_addr now_ms epoch_ms verified_cleared nvs_ok =>
    handle_identity_attestation C n att self_addr now_ms epoch_ms verified_cleared nvs_ok
  | .set_anchor anchor_pub nvs_ok => rpc_set_anchor n anchor_pub nvs_ok
  | .set_peer_verified addr verified sas nvs_ok => mesh_set_peer_verified n addr verified sas nvs_ok
  | .save nvs_ok => mesh_pin_store_save n nvs_ok
  | .reboot now_ms anchor_ok pins_ok =>
    { n with s_identity_pins :=
        mesh_task_start (boot_anchor n anchor_ok) (boot_pins n pins_ok) now_ms }

/-! ## What is asked, and when it holds -/

def EndorsedBy (accepted : List (Key32 × Attestation)) (k : Key32)
    (b : UInt32 × Key32 × Key32) : Prop :=
  ∃ att, (k, att) ∈ accepted ∧ (att.src_addr, att.ed25519_pub, att.x25519_pub) = b ∧
    identity_endorsement_verify C k att.ed25519_pub att.not_after att.endorsement_sig

def AnchoredEndorsed (n : Node) : Prop :=
  ∀ k, anchor_of n.s_identity_pins = some k → ∀ i, (n.s_identity_pins.entries i).used →
    EndorsedBy C n.accepted k (binding (n.s_identity_pins.entries i))

def BootsUnderItsBlob (n : Node) : NodeEvent → Prop
  | .reboot _ anchor_ok pins_ok =>
    boot_anchor n anchor_ok = none ∨ boot_pins n pins_ok = none ∨
      n.saved_under = boot_anchor n anchor_ok
  | _ => True

instance (n : Node) (e : NodeEvent) : Decidable (BootsUnderItsBlob n e) := by
  cases e <;> unfold BootsUnderItsBlob <;> infer_instance

/-! ## The live store -/

def bindings (s : Store) : List (UInt32 × Key32 × Key32) := (used_entries s).map binding

variable {s : Store} {b : UInt32 × Key32 × Key32}

lemma mem_bindings :
    b ∈ bindings s ↔ ∃ i, (s.entries i).used ∧ binding (s.entries i) = b := by
  simp [bindings, used_entries]

variable {C : IdentityCrypto} {n : Node} {s' : Store}

variable {acc acc' : List (Key32 × Attestation)}

lemma EndorsedBy.mono {k : Key32} (h : EndorsedBy C acc k b) (hsub : acc ⊆ acc') :
    EndorsedBy C acc' k b := by
  obtain ⟨att, hmem, hb, hver⟩ := h
  exact ⟨att, hsub hmem, hb, hver⟩

lemma live_of_boundIn (h : AnchoredEndorsed C n)
    (hanch : anchor_of s' = anchor_of n.s_identity_pins)
    (hb : BoundIn (bindings n.s_identity_pins) s') (hsub : n.accepted ⊆ acc') :
    AnchoredEndorsed C { n with s_identity_pins := s', accepted := acc' } := by
  intro k hk i hi
  obtain ⟨j, hj, hbind⟩ := mem_bindings.1 (hb i hi)
  rw [← hbind]
  exact (h k (hanch ▸ hk) j hj).mono hsub

lemma boundIn_self (s : Store) : BoundIn (bindings s) s := by
  intro i hi
  exact mem_bindings.2 ⟨i, hi, rfl⟩

lemma anchor_of_eq (h1 : s'.has_anchor = s.has_anchor) (h2 : s'.anchor_pub = s.anchor_pub) :
    anchor_of s' = anchor_of s := by
  unfold anchor_of
  rw [h1, h2]

lemma record_new_subset (n : Node) (att : Attestation) (r : PinResult) :
    n.accepted ⊆ record_new n att r := by
  unfold record_new
  split
  · exact subset_cons_self _ _
  · exact Subset.refl _

lemma live_attestation (h : AnchoredEndorsed C n) (att : Attestation)
    (self_addr now_ms : UInt32) (epoch_ms : UInt64) :
    AnchoredEndorsed C (deliver_attestation C n att self_addr now_ms epoch_ms).1 := by
  unfold deliver_attestation
  dsimp only
  generalize hr : identity_store_handle_attestation C n.s_identity_pins att self_addr now_ms
    epoch_ms = r
  have hsub := record_new_subset n att r.2
  obtain ⟨-, hsame⟩ | ⟨heq, -, hver⟩ :=
    hr ▸ attestation_cases C n.s_identity_pins att self_addr now_ms epoch_ms
  · apply live_of_boundIn h (anchor_of_eq hsame.has_anchor hsame.anchor_pub) _ hsub
    intro i hi
    rw [hsame.entries] at hi ⊢
    exact boundIn_self _ i hi
  -- all checks passed: what remains is the call of `identity_store_pin`
  obtain ⟨⟨hanch, hkey⟩, hcases⟩ := pin_cases n.s_identity_pins att.src_addr att.ed25519_pub
    att.x25519_pub now_ms
  rw [← heq] at hanch hkey hcases
  have hanchor : anchor_of r.1 = anchor_of n.s_identity_pins := anchor_of_eq hanch hkey
  by_cases hnew : r.2 = .NEW
  · -- the new pin is the attestation's, and an anchored store has verified its endorsement
    intro k hk i hi
    rw [hanchor] at hk
    have hbinds := (hcases.resolve_right (by
      rintro (⟨hr, -⟩ | ⟨hr, -⟩) <;> rw [hnew] at hr <;> exact absurd hr (by decide))).2
    rw [hbinds.2] at hi ⊢
    have hacc : record_new n att r.2 = (k, att) :: n.accepted := by
      simp only [record_new, hnew, hk]
    rw [hacc]
    by_cases hslot : i = alloc_slot n.s_identity_pins now_ms
    · rw [hslot, update_self]
      have hk' : n.s_identity_pins.has_anchor ∧ n.s_identity_pins.anchor_pub = k := by
        unfold anchor_of at hk
        split at hk
        · next ha => exact ⟨ha, Option.some.inj hk⟩
        · cases hk
      refine ⟨att, mem_cons_self, rfl, ?_⟩
      rw [← hk'.2]
      exact hver hk'.1
    · rw [update_of_ne hslot] at hi ⊢
      exact (h k hk i hi).mono (subset_cons_self _ _)
  · apply live_of_boundIn h hanchor _ hsub
    intro i hi
    obtain ⟨hr, -⟩ | ⟨-, j, -, -, hentries⟩ | ⟨-, hsame⟩ := hcases
    · exact absurd hr hnew
    · rw [hentries] at hi ⊢
      by_cases hij : i = j
      · subst hij
        rw [update_self] at hi ⊢
        exact boundIn_self _ i hi
      · rw [update_of_ne hij] at hi ⊢
        exact boundIn_self _ i hi
    · rw [hsame.entries] at hi ⊢
      exact boundIn_self _ i hi

lemma live_edits (h : AnchoredEndorsed C n) {a : UInt32} {f : IdentityPin → IdentityPin}
    (he : Edits n.s_identity_pins s' a f)
    (hf : ∀ e, (f e).used = e.used ∧ binding (f e) = binding e) :
    AnchoredEndorsed C { n with s_identity_pins := s' } := by
  apply live_of_boundIn h (anchor_of_eq he.1.1 he.1.2) _ (Subset.refl _)
  exact boundIn_edits (boundIn_self _) he hf

lemma live_set_anchor (h : AnchoredEndorsed C n) (k : Key32) :
    AnchoredEndorsed C (mesh_set_pin_anchor n k) := by
  intro k' hk' i hi
  obtain ⟨hanch, hkey, ⟨hwas, hsame, hentries⟩ | hentries⟩ := set_anchor_cases n.s_identity_pins k
  · -- the key that was in force already
    simp only [mesh_set_pin_anchor] at hk' hi ⊢
    rw [hentries] at hi ⊢
    apply h k' _ i hi
    rw [← hk']
    exact (anchor_of_eq (hanch.trans hwas.symm) (hkey.trans hsame.symm)).symm
  · simp only [mesh_set_pin_anchor] at hi
    rw [hentries] at hi
    cases hi

/-! ## The store in flash -/

structure Inv (C : IdentityCrypto) (n : Node) : Prop where
  live : AnchoredEndorsed C n
  blob : ∀ buf, n.nvs_pins = some buf →
    ∃ s', identity_store_serialize s' IDENTITY_STORE_BLOB_MAX = some buf ∧
      ∀ k, n.saved_under = some k → ∀ b ∈ bindings s', EndorsedBy C n.accepted k b

lemma inv_fresh (C : IdentityCrypto) (now_ms : UInt32) : Inv C (.fresh now_ms) where
  live := by
    intro k hk
    exact absurd hk (by simp [anchor_of, Node.fresh, identity_store_init])
  blob := by
    intro buf hbuf
    exact absurd hbuf (by simp [Node.fresh])

lemma Inv.of_live {n' : Node} (h : Inv C n) (hlive : AnchoredEndorsed C n')
    (hpins : n'.nvs_pins = n.nvs_pins) (hunder : n'.saved_under = n.saved_under)
    (hsub : n.accepted ⊆ n'.accepted) : Inv C n' where
  live := hlive
  blob := by
    intro buf hbuf
    rw [hpins] at hbuf
    obtain ⟨s', hser, hend⟩ := h.blob buf hbuf
    refine ⟨s', hser, fun k hk b hb => ?_⟩
    rw [hunder] at hk
    exact (hend k hk b hb).mono hsub

lemma Inv.save (h : Inv C n) (nvs_ok : Bool) :
    Inv C (mesh_pin_store_save n nvs_ok) := by
  unfold mesh_pin_store_save
  cases hser : identity_store_serialize n.s_identity_pins IDENTITY_STORE_BLOB_MAX with
  | none => exact h
  | some buf =>
    dsimp only
    split
    · refine ⟨h.live, fun buf' hbuf' => ?_⟩
      obtain rfl : buf = buf' := Option.some.inj hbuf'
      refine ⟨n.s_identity_pins, hser, fun k hk b hb => ?_⟩
      obtain ⟨i, hi, hbind⟩ := mem_bindings.1 hb
      rw [← hbind]
      exact h.live k hk i hi
    · exact h

lemma live_reboot (h : Inv C n) (now_ms : UInt32) {anchor_ok pins_ok : Bool}
    (hboot : BootsUnderItsBlob n (.reboot now_ms anchor_ok pins_ok)) :
    AnchoredEndorsed C (step C n (.reboot now_ms anchor_ok pins_ok)) := by
  intro k hk i hi
  unfold step at hk hi ⊢
  dsimp only at hk hi ⊢
  generalize hs : (match boot_anchor n anchor_ok with
    | none => identity_store_init now_ms
    | some k => identity_store_set_anchor (identity_store_init now_ms) k) = s
  have hstart : mesh_task_start (boot_anchor n anchor_ok) (boot_pins n pins_ok) now_ms =
      mesh_pin_store_load s (boot_pins n pins_ok) now_ms := by
    rw [← hs]
    rfl
  rw [hstart] at hk hi ⊢
  -- before the load the store is empty, and its anchor is the one that was loaded
  have hempty : ∀ j, (s.entries j).used = false := by
    intro j
    rw [← hs]
    cases boot_anchor n anchor_ok with
    | none => rfl
    | some k' =>
      obtain ⟨-, -, ⟨-, -, hentries⟩ | hentries⟩ :=
        set_anchor_cases (identity_store_init now_ms) k'
      · rfl
      · rw [hentries]
  have hanchor : anchor_of s = boot_anchor n anchor_ok := by
    rw [← hs]
    cases boot_anchor n anchor_ok with
    | none => rfl
    | some k' =>
      obtain ⟨hanch, hkey, -⟩ := set_anchor_cases (identity_store_init now_ms) k'
      simp only [anchor_of, hanch, hkey, if_true]
  cases hpins : boot_pins n pins_ok with
  | none =>
    rw [hpins, mesh_pin_store_load, hempty i] at hi
    cases hi
  | some buf =>
    rw [hpins] at hk hi
    rw [mesh_pin_store_load] at hk hi ⊢
    -- loading pins does not touch the anchor, and the blob was written under the same one
    obtain ⟨hanch, hkey⟩ := deserialize_anchor s buf now_ms
    rw [anchor_of_eq hanch hkey, hanchor] at hk
    have hunder : n.saved_under = some k := by
      obtain hnone | hnone | hsame := hboot
      · rw [hnone] at hk
        cases hk
      · rw [hnone] at hpins
        cases hpins
      · exact hsame.trans hk
    have hnvs : n.nvs_pins = some buf := by
      unfold boot_pins at hpins
      split at hpins
      · exact hpins
      · cases hpins
    obtain ⟨s', hser, hend⟩ := h.blob buf hnvs
    exact hend k hunder _ (load_pins now_ms hser i hi)

lemma inv_step (C : IdentityCrypto) (n : Node) (e : NodeEvent) (h : Inv C n)
    (hboot : BootsUnderItsBlob n e) : Inv C (step C n e) := by
  cases e with
  | attestation att self_addr now_ms epoch_ms verified_cleared nvs_ok =>
    have hnew : Inv C (deliver_attestation C n att self_addr now_ms epoch_ms).1 :=
      h.of_live (live_attestation h.live att self_addr now_ms epoch_ms) rfl rfl
        (record_new_subset n att _)
    unfold step handle_identity_attestation
    dsimp only
    generalize deliver_attestation C n att self_addr now_ms epoch_ms = d at hnew ⊢
    have hsaved : Inv C (if d.2 = .NEW then mesh_pin_store_save d.1 nvs_ok else d.1) := by
      split
      · exact hnew.save nvs_ok
      · exact hnew
    generalize (if d.2 = .NEW then mesh_pin_store_save d.1 nvs_ok else d.1) = n' at hsaved ⊢
    split
    · apply Inv.save
      -- the two edits concern flags of one pin, not whom it binds
      have hclear := live_edits hsaved.live (clear_verified_edits n'.s_identity_pins att.src_addr)
        fun _ => ⟨rfl, rfl⟩
      have hmark := live_edits hclear (mark_key_changed_edits _ att.src_addr)
        fun _ => ⟨rfl, rfl⟩
      exact hsaved.of_live hmark rfl rfl (Subset.refl _)
    · exact hsaved
  | set_anchor k nvs_ok =>
    have hlive := live_set_anchor h.live k
    have hinv : Inv C (rpc_set_anchor n k nvs_ok) :=
      h.of_live hlive rfl rfl (Subset.refl _)
    exact hinv
  | set_peer_verified addr verified sas nvs_ok =>
    unfold step mesh_set_peer_verified
    dsimp only
    split
    · exact h
    split
    · split
      · exact h
      · next sas =>
        apply Inv.save
        have hlive := live_edits h.live (set_verified_edits n.s_identity_pins addr sas)
          fun _ => ⟨rfl, rfl⟩
        exact h.of_live hlive rfl rfl (Subset.refl _)
    · apply Inv.save
      have hlive := live_edits h.live (clear_verified_edits n.s_identity_pins addr)
        fun _ => ⟨rfl, rfl⟩
      exact h.of_live hlive rfl rfl (Subset.refl _)
  | save nvs_ok => exact h.save nvs_ok
  | reboot now_ms anchor_ok pins_ok =>
    exact h.of_live (live_reboot h now_ms hboot) rfl rfl (Subset.refl _)

/-! ## The result -/

/-- **Anchored means endorsed.** In every run from a fresh device, storage failing at will: if
each reboot under an anchor reads a blob that was last written under that anchor, every pin held
under an anchor was accepted with a valid endorsement of its key by that anchor. -/
theorem anchored_pins_endorsed (C : IdentityCrypto) (now_ms : UInt32) (es : List NodeEvent)
    (h : Meets (step C) BootsUnderItsBlob (.fresh now_ms) es) :
    AnchoredEndorsed C (es.foldl (step C) (.fresh now_ms)) :=
  (foldl_invariant (inv_step C) h (inv_fresh C now_ms)).live

def toy_crypto : IdentityCrypto where
  derive_address := fun k => (k.toList.headD 0).toUInt32
  ed25519_verify := fun k _ sig => sig.toList.headD 0 == k.toList.headD 0

def toy_attestation (b k : UInt8) (not_after : UInt64) : Attestation where
  src_addr := b.toUInt32
  x25519_pub := Vector.replicate 32 b
  ed25519_pub := Vector.replicate 32 b
  sig := Vector.replicate 64 b
  not_after := not_after
  endorsement_sig := Vector.replicate 64 k

theorem anchored_pins_endorsed_after_reboot :
    let es : List NodeEvent := [.set_anchor (Vector.replicate 32 9) true,
      .attestation (toy_attestation 5 9 77) 1 10 0 false true, .reboot 20 true true]
    identity_store_count (es.foldl (step toy_crypto) (.fresh 0)).s_identity_pins = 1 ∧
      AnchoredEndorsed toy_crypto (es.foldl (step toy_crypto) (.fresh 0)) :=
  ⟨by decide +kernel, anchored_pins_endorsed toy_crypto 0 _ (by decide +kernel)⟩

/-- A pin without an endorsement is saved while the node has no anchor; provisioning drops it from
the live store, and the next reboot brings it back under the anchor. -/
theorem reboot_restores_unendorsed :
    ¬ ∀ (C : IdentityCrypto) (now_ms : UInt32) (es : List NodeEvent),
      AnchoredEndorsed C (es.foldl (step C) (.fresh now_ms)) := by
  intro h
  have hrun := h toy_crypto 0 [.attestation (toy_attestation 5 0 0) 1 10 0 false true,
    .set_anchor (Vector.replicate 32 9) true, .reboot 20 true true]
  obtain ⟨att, hmem, -⟩ := hrun (Vector.replicate 32 9) (by decide) 0 (by decide)
  -- no attestation was ever accepted under an anchor
  have hnone : (foldl (step toy_crypto) (.fresh 0)
      [.attestation (toy_attestation 5 0 0) 1 10 0 false true,
        .set_anchor (Vector.replicate 32 9) true, .reboot 20 true true]).accepted = [] := by
    decide
  rw [hnone] at hmem
  cases hmem

end BrambleMesh.IdentityAnchor
