/-
Where a verified bit comes from. `identity_store_pin` fills a recycled entry without resetting the
verified bit, the SAS and the key-change flag.
-/
import BrambleMesh.IdentityStore

open BrambleMesh.Run BrambleMesh.IdentityStore Function

namespace BrambleMesh.IdentityProvenance

/-! ## Histories of the store -/

inductive StoreEvent
  | handle_attestation (att : Attestation) (self_addr now_ms : UInt32) (epoch_ms : UInt64)
  | pin (address : UInt32) (ed25519_pub x25519_pub : Key32) (now_ms : UInt32)
  | set_anchor (anchor_pub : Key32)
  | set_verified (address : UInt32) (sas : List UInt8)
  | clear_verified (address : UInt32)
  | mark_key_changed (address : UInt32)
deriving DecidableEq

variable (C : IdentityCrypto)

def apply_event (s : Store) : StoreEvent → Store
  | .handle_attestation att self_addr now_ms epoch_ms =>
    (identity_store_handle_attestation C s att self_addr now_ms epoch_ms).1
  | .pin address ed x now_ms => (identity_store_pin s address ed x now_ms).1
  | .set_anchor anchor_pub => identity_store_set_anchor s anchor_pub
  | .set_verified address sas => (identity_store_set_verified s address sas).1
  | .clear_verified address => (identity_store_clear_verified s address).1
  | .mark_key_changed address => (identity_store_mark_key_changed s address).1

def pinned_by (s : Store) : StoreEvent → Option (UInt32 × UInt32)
  | .handle_attestation att self_addr now_ms epoch_ms =>
    if (identity_store_handle_attestation C s att self_addr now_ms epoch_ms).2 = .NEW
    then some (att.src_addr, now_ms) else none
  | .pin address ed x now_ms =>
    if (identity_store_pin s address ed x now_ms).2 = .NEW then some (address, now_ms) else none
  | _ => none

structure Ledger where
  store : Store
  vouched : UInt32 → Bool

def Ledger.start (now_ms : UInt32) : Ledger := ⟨identity_store_init now_ms, fun _ => false⟩

def step (l : Ledger) (e : StoreEvent) : Ledger where
  store := apply_event C l.store e
  vouched :=
    match pinned_by C l.store e, e with
    | some (a, _), _ => update l.vouched a false
    | none, .set_verified a _ => update l.vouched a true
    | none, .clear_verified a => update l.vouched a false
    | none, _ => l.vouched

def Clean (e : IdentityPin) : Prop :=
  e.verified = false ∧ e.verified_sas.get 0 = 0 ∧ e.key_changed = false
deriving Decidable

def Provenance (l : Ledger) (e : StoreEvent) : Prop :=
  (∀ a, identity_store_is_verified (step C l e).store a → (step C l e).vouched a) ∧
    ∀ a now, pinned_by C l.store e = some (a, now) →
      ∃ p, identity_store_lookup (step C l e).store a = some p ∧ Clean p

def RecyclesClean (l : Ledger) (e : StoreEvent) : Prop :=
  ∀ a now, pinned_by C l.store e = some (a, now) →
    Clean (l.store.entries (alloc_slot l.store now))

/-! ## One call -/

def Neutral (s s' : Store) : Prop :=
  ∀ i, (s'.entries i).used → (s.entries i).used ∧
    (s'.entries i).address = (s.entries i).address ∧
    (s'.entries i).verified = (s.entries i).verified

variable {s s' : Store} {i : Fin IDENTITY_STORE_CAPACITY} {a now b : UInt32} {l : Ledger}

lemma neutral_of_update {p : IdentityPin} (h : s'.entries = update s.entries i p)
    (hp : p.used = (s.entries i).used ∧ p.address = (s.entries i).address ∧ p.verified =
      (s.entries i).verified) : Neutral s s' := by
  intro j hj
  rw [h] at hj ⊢
  by_cases hji : j = i
  · subst hji
    rw [update_self] at hj ⊢
    exact ⟨hp.1 ▸ hj, hp.2.1, hp.2.2⟩
  · rw [update_of_ne hji] at hj ⊢
    exact ⟨hj, rfl, rfl⟩

lemma pin_neutral (s : Store) (a : UInt32) (ed x : Key32) (now : UInt32) :
    ((identity_store_pin s a ed x now).2 = .NEW ∧
      Binds s (identity_store_pin s a ed x now).1 a ed x now) ∨
    ((identity_store_pin s a ed x now).2 ≠ .NEW ∧
      Neutral s (identity_store_pin s a ed x now).1) := by
  obtain ⟨-, ⟨hres, hbinds⟩ | ⟨hres, i, -, -, hentries⟩ | ⟨hres, hsame⟩⟩ := pin_cases s a ed x now
  · exact .inl ⟨hres, hbinds⟩
  · refine .inr ⟨?_, neutral_of_update hentries ⟨rfl, rfl, rfl⟩⟩
    rw [hres]
    decide
  · refine .inr ⟨?_, ?_⟩
    · rw [hres]
      decide
    · intro j hj
      rw [hsame.entries] at hj ⊢
      exact ⟨hj, rfl, rfl⟩

variable (C : IdentityCrypto)

lemma event_cases (s : Store) (e : StoreEvent) :
    (∃ a ed x now, pinned_by C s e = some (a, now) ∧ Binds s (apply_event C s e) a ed x now) ∨
    (pinned_by C s e = none ∧ ∃ a sas, e = .set_verified a sas) ∨
    (pinned_by C s e = none ∧ ∃ a, e = .clear_verified a) ∨
    (pinned_by C s e = none ∧ (∀ a sas, e ≠ .set_verified a sas) ∧ (∀ a, e ≠ .clear_verified a) ∧
      Neutral s (apply_event C s e)) := by
  cases e with
  | set_verified a sas => exact .inr (.inl ⟨rfl, a, sas, rfl⟩)
  | clear_verified a => exact .inr (.inr (.inl ⟨rfl, a, rfl⟩))
  | pin a ed x now =>
    obtain ⟨hres, hbinds⟩ | ⟨hres, hneutral⟩ := pin_neutral s a ed x now
    · exact .inl ⟨a, ed, x, now, if_pos hres, hbinds⟩
    · exact .inr (.inr (.inr ⟨if_neg hres, by simp, by simp, hneutral⟩))
  | handle_attestation att self now epoch =>
    obtain ⟨⟨hres, -⟩, hsame⟩ | ⟨heq, -⟩ := attestation_cases C s att self now epoch
    · refine .inr (.inr (.inr ⟨if_neg hres, by simp, by simp, ?_⟩))
      intro j hj
      rw [apply_event, hsame.entries] at hj ⊢
      exact ⟨hj, rfl, rfl⟩
    · -- an attestation that passes every check is a plain pin of its binding
      rw [apply_event, pinned_by, heq]
      obtain ⟨hres, hbinds⟩ | ⟨hres, hneutral⟩ :=
        pin_neutral s att.src_addr att.ed25519_pub att.x25519_pub now
      · exact .inl ⟨_, _, _, now, if_pos hres, hbinds⟩
      · exact .inr (.inr (.inr ⟨if_neg hres, by simp, by simp, hneutral⟩))
  | set_anchor k =>
    refine .inr (.inr (.inr ⟨rfl, by simp, by simp, ?_⟩))
    intro j hj
    obtain ⟨-, -, ⟨-, -, hentries⟩ | hentries⟩ := set_anchor_cases s k
    · rw [apply_event, hentries] at hj ⊢
      exact ⟨hj, rfl, rfl⟩
    · -- every pin is dropped
      rw [apply_event, hentries] at hj
      cases hj
  | mark_key_changed a =>
    refine .inr (.inr (.inr ⟨rfl, by simp, by simp, ?_⟩))
    obtain ⟨-, ⟨-, hentries⟩ | ⟨i, -, hentries⟩⟩ := mark_key_changed_edits s a
    · intro j hj
      rw [apply_event, hentries] at hj ⊢
      exact ⟨hj, rfl, rfl⟩
    · exact neutral_of_update hentries ⟨rfl, rfl, rfl⟩

lemma Neutral.pins (h : Neutral s s') (hp : Pins s' i a) : Pins s i a := by
  obtain ⟨hused, haddr, -⟩ := h i hp.1
  exact ⟨hused, haddr ▸ hp.2⟩

lemma pins_of_binds {ed x : Key32} (h : Binds s s' a ed x now) (j : Fin IDENTITY_STORE_CAPACITY)
    (b : UInt32) :
    Pins s' j b ↔ (j = alloc_slot s now ∧ b = a) ∨ (j ≠ alloc_slot s now ∧ Pins s j b) := by
  unfold Pins
  rw [h.2]
  by_cases hj : j = alloc_slot s now
  · subst hj
    rw [update_self]
    constructor
    · rintro ⟨-, haddr⟩
      exact .inl ⟨rfl, haddr.symm⟩
    · rintro (⟨-, rfl⟩ | ⟨hne, -⟩)
      · exact ⟨rfl, rfl⟩
      · exact absurd rfl hne
  · simp [hj]

lemma pins_of_edits {f : IdentityPin → IdentityPin} (h : Edits s s' a f)
    (hf : ∀ e, (f e).used = e.used ∧ (f e).address = e.address) (j : Fin IDENTITY_STORE_CAPACITY)
    (b : UInt32) : Pins s' j b ↔ Pins s j b := by
  unfold Pins
  obtain ⟨-, ⟨-, hentries⟩ | ⟨i, -, hentries⟩⟩ := h
  · rw [hentries]
  · rw [hentries]
    by_cases hj : j = i
    · subst hj
      rw [update_self, (hf _).1, (hf _).2]
    · rw [update_of_ne hj]

lemma unique_step (hu : Unique s) (e : StoreEvent) : Unique (apply_event C s e) := by
  intro i j a hi hj
  obtain ⟨b, ed, x, now, -, hbinds⟩ | ⟨-, b, sas, rfl⟩ | ⟨-, b, rfl⟩ | ⟨-, -, -, hneutral⟩ :=
    event_cases C s e
  · rw [pins_of_binds hbinds] at hi hj
    obtain ⟨rfl, rfl⟩ | ⟨-, hi⟩ := hi
    · obtain ⟨rfl, -⟩ | ⟨-, hj⟩ := hj
      · rfl
      · exact absurd hj (hbinds.1 j)
    · obtain ⟨-, rfl⟩ | ⟨-, hj⟩ := hj
      · exact absurd hi (hbinds.1 i)
      · exact hu i j a hi hj
  · rw [apply_event, pins_of_edits (set_verified_edits s b sas) fun _ => ⟨rfl, rfl⟩] at hi hj
    exact hu i j a hi hj
  · rw [apply_event, pins_of_edits (clear_verified_edits s b) fun _ => ⟨rfl, rfl⟩] at hi hj
    exact hu i j a hi hj
  · exact hu i j a (hneutral.pins hi) (hneutral.pins hj)

structure Inv (l : Ledger) : Prop where
  unique : Unique l.store
  vouched : ∀ i a, Pins l.store i a → (l.store.entries i).verified → l.vouched a

lemma inv_start (now : UInt32) : Inv (.start now) where
  unique := by
    intro i j a hi
    cases hi.1
  vouched := by
    intro i a hi
    cases hi.1

lemma vouched_of_binds (h : Inv l) {ed x : Key32} (hbinds : Binds l.store s' b ed x now)
    (hclean : (l.store.entries (alloc_slot l.store now)).verified = false) (hi : Pins s' i a)
    (hv : (s'.entries i).verified) : a ≠ b ∧ l.vouched a := by
  rw [pins_of_binds hbinds] at hi
  rw [hbinds.2] at hv
  obtain ⟨rfl, -⟩ | ⟨hne, hi⟩ := hi
  · rw [update_self] at hv
    have hslot : (l.store.entries (alloc_slot l.store now)).verified := hv
    rw [hclean] at hslot
    cases hslot
  · rw [update_of_ne hne] at hv
    refine ⟨?_, h.vouched i a hi hv⟩
    rintro rfl
    exact hbinds.1 i hi

lemma vouched_of_set_verified (h : Inv l) {sas : List UInt8} (hab : a ≠ b)
    (hi : Pins (apply_event C l.store (.set_verified b sas)) i a)
    (hv : ((apply_event C l.store (.set_verified b sas)).entries i).verified) :
    l.vouched a := by
  have hedits := set_verified_edits l.store b sas
  rw [apply_event, pins_of_edits hedits fun _ => ⟨rfl, rfl⟩] at hi
  apply h.vouched i a hi
  obtain ⟨-, ⟨-, hentries⟩ | ⟨j, hj, hentries⟩⟩ := hedits
  · rwa [apply_event, hentries] at hv
  · have hij : i ≠ j := by
      rintro rfl
      exact hab (hi.2.symm.trans hj.2)
    rwa [apply_event, hentries, update_of_ne hij] at hv

lemma vouched_of_clear_verified (h : Inv l)
    (hi : Pins (apply_event C l.store (.clear_verified b)) i a)
    (hv : ((apply_event C l.store (.clear_verified b)).entries i).verified) :
    a ≠ b ∧ l.vouched a := by
  have hedits := clear_verified_edits l.store b
  rw [apply_event, pins_of_edits hedits fun _ => ⟨rfl, rfl⟩] at hi
  rw [apply_event] at hv
  obtain ⟨-, ⟨hnone, hentries⟩ | ⟨j, hj, hentries⟩⟩ := hedits
  · rw [hentries] at hv
    refine ⟨?_, h.vouched i a hi hv⟩
    rintro rfl
    exact hnone i hi
  · rw [hentries] at hv
    by_cases hij : i = j
    · subst hij
      rw [update_self] at hv
      cases hv
    · rw [update_of_ne hij] at hv
      refine ⟨?_, h.vouched i a hi hv⟩
      -- the pin of `b` is entry `j` and no other
      rintro rfl
      exact hij (h.unique i j a hi hj)

lemma vouched_step (h : Inv l) {e : StoreEvent} (hclean : RecyclesClean C l e)
    (i : Fin IDENTITY_STORE_CAPACITY) (a : UInt32) (hi : Pins (step C l e).store i a)
    (hv : ((step C l e).store.entries i).verified) : (step C l e).vouched a := by
  obtain ⟨b, ed, x, now, hby, hbinds⟩ | ⟨hby, b, sas, rfl⟩ | ⟨hby, b, rfl⟩ |
    ⟨hby, hnv, hnc, hneutral⟩ := event_cases C l.store e
  · simp only [step, hby]
    obtain ⟨hab, hvouched⟩ := vouched_of_binds h hbinds (hclean b now hby).1 hi hv
    rw [update_of_ne hab]
    exact hvouched
  · simp only [step, hby]
    by_cases hab : a = b
    · rw [hab, update_self]
    · rw [update_of_ne hab]
      exact vouched_of_set_verified C h hab hi hv
  · simp only [step, hby]
    obtain ⟨hab, hvouched⟩ := vouched_of_clear_verified C h hi hv
    rw [update_of_ne hab]
    exact hvouched
  · have hbooks : (step C l e).vouched = l.vouched := by
      unfold step
      rw [hby]
      cases e with
      | set_verified b sas => exact absurd rfl (hnv b sas)
      | clear_verified b => exact absurd rfl (hnc b)
      | _ => rfl
    rw [hbooks]
    obtain ⟨-, -, hsame⟩ := hneutral i hi.1
    exact h.vouched i a (hneutral.pins hi) (hsame ▸ hv)

lemma inv_step (l : Ledger) (e : StoreEvent) (h : Inv l) (hclean : RecyclesClean C l e) :
    Inv (step C l e) :=
  ⟨unique_step C h.unique e, fun i a hi hv => vouched_step C h hclean i a hi hv⟩

lemma lookup_new (h : Inv l) {e : StoreEvent} (hby : pinned_by C l.store e = some (a, now)) :
    ∃ p, identity_store_lookup (step C l e).store a = some p ∧
      (Clean p ↔ Clean (l.store.entries (alloc_slot l.store now))) := by
  obtain ⟨b, ed, x, t, hby', hbinds⟩ | ⟨hby', -⟩ | ⟨hby', -⟩ | ⟨hby', -⟩ :=
    event_cases C l.store e
  · obtain ⟨rfl, rfl⟩ : a = b ∧ now = t := by
      rw [hby] at hby'
      simpa using hby'
    have hpins : Pins (step C l e).store (alloc_slot l.store now) a := by
      apply (pins_of_binds hbinds _ _).2
      exact .inl ⟨rfl, rfl⟩
    have hfind := find_entry_of_pins (unique_step C h.unique e) hpins
    refine ⟨_, by rw [identity_store_lookup]; exact congrArg _ hfind, ?_⟩
    simp only [step]
    rw [hbinds.2, update_self]
    exact Iff.rfl
  all_goals
    rw [hby] at hby'
    cases hby'

lemma provenance_iff (l : Ledger) (e : StoreEvent) (h : Inv l) :
    Provenance C l e ↔ RecyclesClean C l e := by
  constructor
  · intro hprov a now hby
    obtain ⟨p, hp, hiff⟩ := lookup_new C h hby
    obtain ⟨q, hq, hclean⟩ := hprov.2 a now hby
    obtain rfl : p = q := Option.some.inj (hp.symm.trans hq)
    exact hiff.1 hclean
  · intro hclean
    refine ⟨fun a hver => ?_, fun a now hby => ?_⟩
    · unfold identity_store_is_verified identity_store_lookup at hver
      cases hfind : find_entry (step C l e).store a with
      | none => simp [hfind] at hver
      | some i =>
        apply vouched_step C h hclean i a (find_entry_some hfind)
        simpa [hfind] using hver
    · obtain ⟨p, hp, hiff⟩ := lookup_new C h hby
      exact ⟨p, hp, hiff.2 (hclean a now hby)⟩

/-! ## The result -/

/-- **Verified-bit provenance.** After every call each verified pin is vouched for and each new
pin is clean, if and only if every call that creates a pin does so in an entry with no verified
bit, an empty SAS and no key-change warning. -/
theorem provenance_iff_recycles_clean (C : IdentityCrypto) (now : UInt32)
    (es : List StoreEvent) :
    Meets (step C) (Provenance C) (.start now) es ↔
      Meets (step C) (RecyclesClean C) (.start now) es :=
  meets_congr (provenance_iff C) (inv_step C) (inv_start now)

def any_crypto : IdentityCrypto := ⟨fun _ => 0, fun _ _ _ => true⟩

def key_of (b : UInt8) : Key32 := Vector.replicate 32 b

/-- The anchor drops the verified pin of address 1; the first pin made after that, of address 2,
is born verified. -/
theorem anchor_change_leaks_verified :
    ¬ ∀ (C : IdentityCrypto) (now : UInt32) (es : List StoreEvent),
      Meets (step C) (Provenance C) (.start now) es := by
  intro h
  have hrun := h any_crypto 0 [.pin 1 (key_of 1) (key_of 2) 10, .set_verified 1 [49, 50, 51],
    .set_anchor (key_of 9), .pin 2 (key_of 3) (key_of 4) 20]
  obtain ⟨-, -, -, hlast, -⟩ := hrun
  have hvouched := hlast.1 2 (by decide)
  exact absurd hvouched (by decide)

end BrambleMesh.IdentityProvenance
