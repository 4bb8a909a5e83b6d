/-
Trust on first use: the first binding of an address stays until it is evicted, which goes by the
verified mark, or dropped with the anchor.
-/
import BrambleMesh.IdentityBlob
import BrambleMesh.IdentityProvenance

open BrambleMesh.Run BrambleMesh.IdentityStore BrambleMesh.IdentityBlob
open BrambleMesh.IdentityProvenance

namespace BrambleMesh.IdentityTofu

/-! ## Accepted bindings -/

def Attested : StoreEvent → Prop
  | .pin _ _ _ _ => False
  | _ => True

instance : DecidablePred Attested
  | .pin _ _ _ _ => isFalse id
  | .handle_attestation _ _ _ _ | .set_anchor _ | .set_verified _ _ | .clear_verified _
  | .mark_key_changed _ => isTrue trivial

variable (C : IdentityCrypto)

def SelfSigned (att : Attestation) : Prop :=
  C.derive_address att.ed25519_pub = att.src_addr ∧
    C.ed25519_verify att.ed25519_pub (attestation_signed_msg att) att.sig
deriving Decidable

def offered : StoreEvent → Option (UInt32 × Key32 × Key32)
  | .handle_attestation att _ _ _ =>
    if SelfSigned C att then some (att.src_addr, att.ed25519_pub, att.x25519_pub) else none
  | _ => none

def signed_bindings (es : List StoreEvent) : List (UInt32 × Key32 × Key32) :=
  es.filterMap (offered C)

variable {C : IdentityCrypto} {es : List StoreEvent}

lemma mem_signed_bindings {b : UInt32 × Key32 × Key32} :
    b ∈ signed_bindings C es ↔
      ∃ att self_addr now_ms epoch_ms,
        .handle_attestation att self_addr now_ms epoch_ms ∈ es ∧ SelfSigned C att ∧
          (att.src_addr, att.ed25519_pub, att.x25519_pub) = b := by
  rw [signed_bindings, List.mem_filterMap]
  constructor
  · rintro ⟨e, he, hoffer⟩
    cases e with
    | handle_attestation att self_addr now_ms epoch_ms =>
      rw [offered] at hoffer
      split at hoffer
      case isTrue hsigned => exact ⟨att, _, _, _, he, hsigned, Option.some.inj hoffer⟩
      case isFalse => exact absurd hoffer (by simp)
    | _ => exact absurd hoffer (by simp [offered])
  · rintro ⟨att, self_addr, now_ms, epoch_ms, he, hsigned, rfl⟩
    exact ⟨_, he, if_pos hsigned⟩

lemma boundIn_apply {B : List (UInt32 × Key32 × Key32)} {s : Store} {e : StoreEvent}
    (h : BoundIn B s) (he : Attested e) (hB : ∀ b, offered C e = some b → b ∈ B) :
    BoundIn B (apply_event C s e) := by
  cases e with
  | handle_attestation att self_addr now_ms epoch_ms =>
    rw [apply_event]
    obtain ⟨-, hsame⟩ | ⟨heq, hsigned, -⟩ :=
      attestation_cases C s att self_addr now_ms epoch_ms
    · intro i hi
      rw [hsame.entries] at hi ⊢
      exact h i hi
    · rw [heq]
      exact boundIn_pin h _ _ _ _ (hB _ (if_pos hsigned))
  | pin => exact he.elim
  | set_anchor k =>
    intro i hi
    obtain ⟨-, -, ⟨-, -, hentries⟩ | hentries⟩ := set_anchor_cases s k
    · rw [apply_event, hentries] at hi ⊢
      exact h i hi
    · rw [apply_event, hentries] at hi
      cases hi
  | set_verified a sas => exact boundIn_edits h (set_verified_edits s a sas) fun _ => ⟨rfl, rfl⟩
  | clear_verified a => exact boundIn_edits h (clear_verified_edits s a) fun _ => ⟨rfl, rfl⟩
  | mark_key_changed a => exact boundIn_edits h (mark_key_changed_edits s a) fun _ => ⟨rfl, rfl⟩

def after (C : IdentityCrypto) (now_ms : UInt32) (es : List StoreEvent) : Store :=
  es.foldl (apply_event C) (identity_store_init now_ms)

variable (C : IdentityCrypto)

lemma boundIn_after (now_ms : UInt32) (hes : ∀ e ∈ es, Attested e) :
    BoundIn (signed_bindings C es) (after C now_ms es) := by
  have hstart : BoundIn (signed_bindings C es) (identity_store_init now_ms) :=
    fun i hi => absurd hi Bool.false_ne_true
  refine foldl_invariant (I := BoundIn (signed_bindings C es)) (C := fun _ e => e ∈ es)
    (fun s e h he => boundIn_apply h (hes e he) fun b hb => ?_)
    (meets_of_forall (fun _ _ he => he) _) hstart
  exact List.mem_filterMap.2 ⟨e, he, hb⟩

lemma unique_after (now_ms : UInt32) (es : List StoreEvent) : Unique (after C now_ms es) :=
  foldl_invariant (I := Unique) (C := fun _ _ => True) (fun _ e h _ => unique_step C h e)
    (meets_of_forall (fun _ _ _ => trivial) _) fun _ _ _ hi => absurd hi.1 Bool.false_ne_true

/-! ## Evictions -/

def age (now_ms : UInt32) (p : IdentityPin) : ℕ := (now_ms - p.last_confirmed_ms).toNat

def Victim (s : Store) (now_ms : UInt32) (i : Fin IDENTITY_STORE_CAPACITY) : Prop :=
  (∀ j, (s.entries j).verified) ∨
    (s.entries i).verified = false ∧
      ∀ j, (s.entries j).verified = false → age now_ms (s.entries j) ≤ age now_ms (s.entries i)

lemma alloc_slot_cases (s : Store) (now_ms : UInt32) :
    (s.entries (alloc_slot s now_ms)).used = false ∨
      (∀ j, (s.entries j).used) ∧ Victim s now_ms (alloc_slot s now_ms) := by
  rcases hfree : Table.find (fun e => !e.used) s.entries with _ | i
  · right
    have hfull : ∀ j, (s.entries j).used := fun j => by
      simpa using Table.find_eq_none.1 hfree j
    refine ⟨hfull, ?_⟩
    rcases hvictim : Table.argmaxOn (fun e => !e.verified) (age now_ms) s.entries with _ | i
    · left
      intro j
      simpa using Table.argmaxOn_none hvictim j
    · right
      have hslot : alloc_slot s now_ms = i := by
        rw [alloc_slot, alloc_entry, hfree]
        unfold age at hvictim
        dsimp only
        rw [hvictim]
      rw [hslot]
      refine ⟨by simpa using Table.argmaxOn_some hvictim, fun j hj => ?_⟩
      exact Table.le_argmaxOn hvictim (by simpa using hj)
  · left
    have hslot : alloc_slot s now_ms = i := by rw [alloc_slot, alloc_entry, hfree]
    rw [hslot]
    simpa using Table.find_some hfree

def Evicted (s s' : Store) (i : Fin IDENTITY_STORE_CAPACITY) : Prop :=
  (s.entries i).used ∧ ¬ Pins s' i (s.entries i).address

lemma evicted_of_entries_eq {s s' : Store} (h : s'.entries = s.entries)
    (i : Fin IDENTITY_STORE_CAPACITY) : ¬ Evicted s s' i := by
  rintro ⟨hused, hgone⟩
  rw [Pins, h] at hgone
  exact hgone ⟨hused, rfl⟩

lemma victim_of_pin {s : Store} {a : UInt32} {ed x : Key32} {now_ms : UInt32}
    {i : Fin IDENTITY_STORE_CAPACITY}
    (h : Evicted s (identity_store_pin s a ed x now_ms).1 i) :
    (∀ j, (s.entries j).used) ∧ Victim s now_ms i := by
  obtain ⟨hused, hgone⟩ := h
  obtain ⟨-, ⟨-, hbinds⟩ | ⟨-, j, -, -, hentries⟩ | ⟨-, hsame⟩⟩ := pin_cases s a ed x now_ms
  · rw [pins_of_binds hbinds, not_or, not_and, not_and] at hgone
    have hi : i = alloc_slot s now_ms := by
      by_contra hne
      exact hgone.2 hne ⟨hused, rfl⟩
    rw [hi] at hused ⊢
    rcases alloc_slot_cases s now_ms with hfree | hfull
    · exact absurd hused (hfree ▸ Bool.false_ne_true)
    · exact hfull
  · rw [Pins, hentries] at hgone
    by_cases hij : i = j
    · subst hij
      rw [Function.update_self] at hgone
      exact absurd ⟨hused, rfl⟩ hgone
    · rw [Function.update_of_ne hij] at hgone
      exact absurd ⟨hused, rfl⟩ hgone
  · exact absurd ⟨hused, hgone⟩ (evicted_of_entries_eq hsame.entries i)

/-! ## The result -/

structure Tofu (C : IdentityCrypto) (s : Store) (att : Attestation) (self_addr now_ms : UInt32)
    (epoch_ms : UInt64) : Prop where
  first_wins : ∀ i, Pins s i att.src_addr → ¬ HoldsKeys s i att.ed25519_pub att.x25519_pub →
    (identity_store_handle_attestation C s att self_addr now_ms epoch_ms).1.entries = s.entries
  evicts : ∀ i,
    Evicted s (identity_store_handle_attestation C s att self_addr now_ms epoch_ms).1 i →
      (∀ j, (s.entries j).used) ∧ Victim s now_ms i
  refused : (identity_store_handle_attestation C s att self_addr now_ms epoch_ms).2 ≠ .NEW →
    (identity_store_handle_attestation C s att self_addr now_ms epoch_ms).2 ≠ .REFRESHED →
      SameButCounters s (identity_store_handle_attestation C s att self_addr now_ms epoch_ms).1

lemma tofu_of_unique {s : Store} (hu : Unique s) (att : Attestation) (self_addr now_ms : UInt32)
    (epoch_ms : UInt64) : Tofu C s att self_addr now_ms epoch_ms := by
  obtain ⟨-, hsame⟩ | ⟨heq, -, -⟩ := attestation_cases C s att self_addr now_ms epoch_ms
  · exact ⟨fun _ _ _ => hsame.entries,
      fun i h => absurd h (evicted_of_entries_eq hsame.entries i), fun _ _ => hsame⟩
  · refine ⟨fun i hi hkeys => ?_, fun i h => victim_of_pin (heq ▸ h), fun hnew hrefreshed => ?_⟩
    · rw [heq]
      obtain ⟨-, ⟨-, hbinds⟩ | ⟨-, j, hj, hsame, -⟩ | ⟨-, hsame⟩⟩ :=
        pin_cases s att.src_addr att.ed25519_pub att.x25519_pub now_ms
      · exact absurd hi (hbinds.1 i)
      · exact absurd (hu i j _ hi hj ▸ hsame) hkeys
      · exact hsame.entries
    · rw [heq] at hnew hrefreshed ⊢
      obtain ⟨-, ⟨hres, -⟩ | ⟨hres, -⟩ | ⟨-, hsame⟩⟩ :=
        pin_cases s att.src_addr att.ed25519_pub att.x25519_pub now_ms
      · exact absurd hres hnew
      · exact absurd hres hrefreshed
      · exact hsame

/-- **Trust on first use is stable.** No address has two pins; every pin was accepted from a
validly signed attestation of the history, and its address derives from its key. An attestation
leaves an existing pin under other keys as it is, evicts only from a full store, a verified pin
only if all are, otherwise the oldest, and changes nothing but counters if it is neither pinned
nor refreshed. -/
theorem trust_on_first_use (C : IdentityCrypto) (start_ms : UInt32) (es : List StoreEvent)
    (hes : ∀ e ∈ es, Attested e) :
    Unique (after C start_ms es) ∧
      (∀ i, ((after C start_ms es).entries i).used = true →
        C.derive_address ((after C start_ms es).entries i).ed25519_pub =
            ((after C start_ms es).entries i).address ∧
          ∃ att self_addr now_ms epoch_ms,
            .handle_attestation att self_addr now_ms epoch_ms ∈ es ∧ SelfSigned C att ∧
              (att.src_addr, att.ed25519_pub, att.x25519_pub) =
                binding ((after C start_ms es).entries i)) ∧
      ∀ att self_addr now_ms epoch_ms,
        Tofu C (after C start_ms es) att self_addr now_ms epoch_ms := by
  have hu := unique_after C start_ms es
  refine ⟨hu, fun i hi => ?_, tofu_of_unique C hu⟩
  have hmem := mem_signed_bindings.1 (boundIn_after C start_ms hes i hi)
  obtain ⟨att, self_addr, now_ms, epoch_ms, he, hsigned, hbind⟩ := hmem
  refine ⟨?_, att, self_addr, now_ms, epoch_ms, he, hsigned, hbind⟩
  rw [binding, Prod.mk.injEq, Prod.mk.injEq] at hbind
  rw [← hbind.1, ← hbind.2.1]
  exact hsigned.1

def attestation_of (b : UInt8) : Attestation :=
  ⟨0, key_of b, key_of b, Vector.replicate 64 0, 0, Vector.replicate 64 0⟩

def first_seen : List StoreEvent :=
  [.handle_attestation (attestation_of 1) 7 10 0, .set_verified 0 [49, 50, 51]]

theorem trust_on_first_use_conflict :
    identity_store_count (after any_crypto 0 first_seen) = 1 ∧
      (identity_store_handle_attestation any_crypto (after any_crypto 0 first_seen)
        (attestation_of 2) 7 20 0).1.entries = (after any_crypto 0 first_seen).entries := by
  have h := trust_on_first_use any_crypto 0 first_seen (by decide)
  refine ⟨by decide, (h.2.2 (attestation_of 2) 7 20 0).first_wins 0 ?_ ?_⟩
  · exact ⟨by decide, by decide⟩
  · rintro ⟨hed, -⟩
    exact absurd hed (by decide)

end BrambleMesh.IdentityTofu
