/-
The identity pin store: components/identity/identity_store.c, components/identity/identity.c. One
lemma for each function says everything it can do to the entries.
-/
import BrambleMesh.Crypto
import BrambleMesh.Lib.Run
import BrambleMesh.Lib.Table
import BrambleMesh.Lib.Bytes

open BrambleMesh.Bytes Function

namespace BrambleMesh.IdentityStore

/-! ## Data -/

abbrev Sig64 := Vector UInt8 64

structure IdentityCrypto where
  derive_address : Key32 → UInt32
  ed25519_verify : Key32 → List UInt8 → Sig64 → Bool

abbrev IDENTITY_STORE_CAPACITY : ℕ := 32

structure IdentityPin where
  used : Bool
  address : UInt32
  ed25519_pub : Key32
  x25519_pub : Key32
  last_confirmed_ms : UInt32
  verified : Bool
  verified_sas : Vector UInt8 8
  key_changed : Bool
deriving DecidableEq, Repr

def IdentityPin.zero : IdentityPin :=
  ⟨false, 0, Vector.replicate 32 0, Vector.replicate 32 0, 0, false, Vector.replicate 8 0, false⟩

structure Store where
  entries : Fin IDENTITY_STORE_CAPACITY → IdentityPin
  boot_ms : UInt32
  conflicts : UInt32
  sig_failures : UInt32
  addr_mismatches : UInt32
  has_anchor : Bool
  anchor_pub : Key32
  unendorsed : UInt32
  expired : UInt32
  evictions : UInt32
  evictions_verified : UInt32
  grace_forced_closed : Bool

inductive PinResult
  | NEW
  | REFRESHED
  | CONFLICT
  | SELF
  | BAD_SIG
  | ADDR_MISMATCH
  | UNENDORSED
  | EXPIRED
deriving DecidableEq, Repr

structure Attestation where
  src_addr : UInt32
  x25519_pub : Key32
  ed25519_pub : Key32
  sig : Sig64
  not_after : UInt64
  endorsement_sig : Sig64
deriving DecidableEq, Repr

def IDENTITY_ENDORSEMENT_NOT_AFTER_PERMANENT : UInt64 := 0xFFFFFFFFFFFFFFFF

def IDENTITY_ENDORSEMENT_NOT_AFTER_NONE : UInt64 := 0

def IDENTITY_ATTESTATION_MSG_CONTEXT : List UInt8 := "bramble-ident-v1".toUTF8.toList

def IDENTITY_ENDORSEMENT_MSG_CONTEXT : List UInt8 := "bramble-endorse-v1".toUTF8.toList

/-! ## Signed messages -/

def attestation_signed_msg (att : Attestation) : List UInt8 :=
  IDENTITY_ATTESTATION_MSG_CONTEXT ++ be32 att.src_addr ++ att.x25519_pub.toList ++
    att.ed25519_pub.toList

def identity_endorsement_msg (ed25519_pub : Key32) (not_after : UInt64) : List UInt8 :=
  IDENTITY_ENDORSEMENT_MSG_CONTEXT ++ ed25519_pub.toList ++ be64 not_after

def identity_endorsement_verify (C : IdentityCrypto) (anchor_pub ed25519_pub : Key32)
    (not_after : UInt64) (sig : Sig64) : Bool :=
  C.ed25519_verify anchor_pub (identity_endorsement_msg ed25519_pub not_after) sig

/-! ## The store's functions -/

def identity_store_init (now_ms : UInt32) : Store where
  entries := fun _ => .zero
  boot_ms := now_ms
  conflicts := 0
  sig_failures := 0
  addr_mismatches := 0
  has_anchor := false
  anchor_pub := Vector.replicate 32 0
  unendorsed := 0
  expired := 0
  evictions := 0
  evictions_verified := 0
  grace_forced_closed := false

def identity_store_count (s : Store) : ℕ := Table.count (fun e => e.used) s.entries

def identity_store_set_anchor (s : Store) (anchor_pub : Key32) : Store :=
  let changed := !s.has_anchor || s.anchor_pub != anchor_pub
  let had_pins := decide (identity_store_count s > 0)
  let s := { s with anchor_pub, has_anchor := true }
  if changed then
    { s with entries := fun i => { s.entries i with used := false },
             grace_forced_closed := s.grace_forced_closed || had_pins }
  else s

def find_entry (s : Store) (address : UInt32) : Option (Fin IDENTITY_STORE_CAPACITY) :=
  Table.find (fun e => e.used && e.address == address) s.entries

def identity_store_lookup (s : Store) (address : UInt32) : Option IdentityPin :=
  (find_entry s address).map s.entries

local instance capacity_neZero : NeZero IDENTITY_STORE_CAPACITY := ⟨by decide⟩

def alloc_entry (s : Store) (now_ms : UInt32) : Store × Fin IDENTITY_STORE_CAPACITY :=
  match Table.find (fun e => !e.used) s.entries with
  | some i => (s, i)
  | none =>
    let age := fun e : IdentityPin => (now_ms - e.last_confirmed_ms).toNat
    match Table.argmaxOn (fun e => !e.verified) age s.entries with
    | some victim => ({ s with evictions := s.evictions + 1 }, victim)
    | none =>
      ({ s with evictions := s.evictions + 1, evictions_verified := s.evictions_verified + 1 },
        (Table.argmaxOn (fun e => e.verified) age s.entries).getD 0)

def set_entry (s : Store) (i : Fin IDENTITY_STORE_CAPACITY) (e : IdentityPin) : Store :=
  { s with entries := update s.entries i e }

def bind_entry (e : IdentityPin) (address : UInt32) (ed25519_pub x25519_pub : Key32)
    (now_ms : UInt32) : IdentityPin :=
  { e with used := true, address, ed25519_pub, x25519_pub, last_confirmed_ms := now_ms }

def identity_store_pin (s : Store) (address : UInt32) (ed25519_pub x25519_pub : Key32)
    (now_ms : UInt32) : Store × PinResult :=
  match find_entry s address with
  | some i =>
    if (s.entries i).ed25519_pub = ed25519_pub ∧ (s.entries i).x25519_pub = x25519_pub then
      (set_entry s i { s.entries i with last_confirmed_ms := now_ms }, .REFRESHED)
    else ({ s with conflicts := s.conflicts + 1 }, .CONFLICT)
  | none =>
    let a := alloc_entry s now_ms
    (set_entry a.1 a.2 (bind_entry (a.1.entries a.2) address ed25519_pub x25519_pub now_ms), .NEW)

def identity_store_handle_attestation (C : IdentityCrypto) (s : Store) (att : Attestation)
    (self_addr now_ms : UInt32) (epoch_ms : UInt64) : Store × PinResult :=
  if att.src_addr = self_addr then (s, .SELF)
  else if C.derive_address att.ed25519_pub ≠ att.src_addr then
    ({ s with addr_mismatches := s.addr_mismatches + 1 }, .ADDR_MISMATCH)
  else if !C.ed25519_verify att.ed25519_pub (attestation_signed_msg att) att.sig then
    ({ s with sig_failures := s.sig_failures + 1 }, .BAD_SIG)
  else if s.has_anchor && att.not_after == IDENTITY_ENDORSEMENT_NOT_AFTER_NONE then
    ({ s with unendorsed := s.unendorsed + 1 }, .UNENDORSED)
  else if s.has_anchor && !identity_endorsement_verify C s.anchor_pub att.ed25519_pub
      att.not_after att.endorsement_sig then
    ({ s with unendorsed := s.unendorsed + 1 }, .UNENDORSED)
  else if s.has_anchor && att.not_after != IDENTITY_ENDORSEMENT_NOT_AFTER_PERMANENT &&
      epoch_ms != 0 && epoch_ms > att.not_after then
    ({ s with expired := s.expired + 1 }, .EXPIRED)
  else identity_store_pin s att.src_addr att.ed25519_pub att.x25519_pub now_ms

def snprintf_sas (buf : Vector UInt8 8) (sas : List UInt8) : Vector UInt8 8 :=
  let str := (sas.takeWhile (· ≠ 0)).take 7
  Vector.ofFn fun i =>
    if i.val < str.length then str.getD i.val 0 else if i.val = str.length then 0 else buf.get i

def identity_store_set_verified (s : Store) (address : UInt32) (sas : List UInt8) :
    Store × Bool :=
  match find_entry s address with
  | none => (s, false)
  | some i =>
    (set_entry s i
      { s.entries i with verified := true,
                         verified_sas := snprintf_sas (s.entries i).verified_sas sas,
                         key_changed := false },
      true)

def identity_store_clear_verified (s : Store) (address : UInt32) : Store × Bool :=
  match find_entry s address with
  | none => (s, false)
  | some i =>
    (set_entry s i
      { s.entries i with verified := false, verified_sas := Vector.replicate 8 0 }, true)

def identity_store_is_verified (s : Store) (address : UInt32) : Bool :=
  match identity_store_lookup s address with
  | none => false
  | some e => e.verified

def identity_store_mark_key_changed (s : Store) (address : UInt32) : Store × Bool :=
  match find_entry s address with
  | none => (s, false)
  | some i =>
    (set_entry s i { s.entries i with key_changed := true }, true)

/-! ## What each function does to the entries -/

def Pins (s : Store) (i : Fin IDENTITY_STORE_CAPACITY) (a : UInt32) : Prop :=
  (s.entries i).used ∧ (s.entries i).address = a

def Unique (s : Store) : Prop := ∀ i j a, Pins s i a → Pins s j a → i = j

variable {s : Store} {a : UInt32} {i : Fin IDENTITY_STORE_CAPACITY}

lemma find_entry_some (h : find_entry s a = some i) : Pins s i a := by
  have hp := Table.find_some h
  simp only [Bool.and_eq_true, beq_iff_eq] at hp
  exact hp

lemma find_entry_none (h : find_entry s a = none) (i : Fin IDENTITY_STORE_CAPACITY) :
    ¬ Pins s i a := by
  rintro ⟨hused, haddr⟩
  have hp := Table.find_eq_none.1 h i
  simp [hused, haddr] at hp

lemma find_entry_of_pins (hu : Unique s) (h : Pins s i a) : find_entry s a = some i := by
  apply Table.find_eq_some_of_unique
  · simp [h.1, h.2]
  · intro j hj
    simp only [Bool.and_eq_true, beq_iff_eq] at hj
    exact hu j i a hj h

variable (s : Store)

lemma alloc_entry_entries (now_ms : UInt32) :
    (alloc_entry s now_ms).1.entries = s.entries ∧
      (alloc_entry s now_ms).1.has_anchor = s.has_anchor ∧
      (alloc_entry s now_ms).1.anchor_pub = s.anchor_pub := by
  unfold alloc_entry
  split
  · exact ⟨rfl, rfl, rfl⟩
  · dsimp only
    split <;> exact ⟨rfl, rfl, rfl⟩

def alloc_slot (s : Store) (now_ms : UInt32) : Fin IDENTITY_STORE_CAPACITY :=
  (alloc_entry s now_ms).2

def Binds (s s' : Store) (a : UInt32) (ed x : Key32) (now_ms : UInt32) : Prop :=
  (∀ i, ¬ Pins s i a) ∧
    s'.entries = update s.entries (alloc_slot s now_ms)
      (bind_entry (s.entries (alloc_slot s now_ms)) a ed x now_ms)

structure SameButCounters (s s' : Store) : Prop where
  entries : s'.entries = s.entries
  has_anchor : s'.has_anchor = s.has_anchor
  anchor_pub : s'.anchor_pub = s.anchor_pub
  boot_ms : s'.boot_ms = s.boot_ms
  grace_forced_closed : s'.grace_forced_closed = s.grace_forced_closed

def HoldsKeys (s : Store) (i : Fin IDENTITY_STORE_CAPACITY) (ed x : Key32) : Prop :=
  (s.entries i).ed25519_pub = ed ∧ (s.entries i).x25519_pub = x

lemma pin_cases (s : Store) (a : UInt32) (ed x : Key32) (now_ms : UInt32) :
    let r := identity_store_pin s a ed x now_ms
    (r.1.has_anchor = s.has_anchor ∧ r.1.anchor_pub = s.anchor_pub) ∧
    ((r.2 = .NEW ∧ Binds s r.1 a ed x now_ms) ∨
      (r.2 = .REFRESHED ∧ ∃ i, Pins s i a ∧ HoldsKeys s i ed x ∧
        r.1.entries = update s.entries i
          { s.entries i with last_confirmed_ms := now_ms }) ∨
      (r.2 = .CONFLICT ∧ SameButCounters s r.1)) := by
  obtain ⟨hentries, hanchor, hkey⟩ := alloc_entry_entries s now_ms
  unfold identity_store_pin
  cases hfind : find_entry s a with
  | some i =>
    dsimp only
    split
    case isTrue hkeys =>
      exact ⟨⟨rfl, rfl⟩, .inr (.inl ⟨rfl, i, find_entry_some hfind, hkeys, rfl⟩)⟩
    case isFalse =>
      exact ⟨⟨rfl, rfl⟩, .inr (.inr ⟨rfl, ⟨rfl, rfl, rfl, rfl, rfl⟩⟩)⟩
  | none =>
    refine ⟨⟨hanchor, hkey⟩, .inl ⟨rfl, find_entry_none hfind, ?_⟩⟩
    simp only [set_entry, alloc_slot, hentries]

lemma attestation_cases (C : IdentityCrypto) (s : Store) (att : Attestation)
    (self_addr now_ms : UInt32) (epoch_ms : UInt64) :
    let r := identity_store_handle_attestation C s att self_addr now_ms epoch_ms
    ((r.2 ≠ .NEW ∧ r.2 ≠ .REFRESHED) ∧ SameButCounters s r.1) ∨
    (r = identity_store_pin s att.src_addr att.ed25519_pub att.x25519_pub now_ms ∧
      (C.derive_address att.ed25519_pub = att.src_addr ∧
        C.ed25519_verify att.ed25519_pub (attestation_signed_msg att) att.sig) ∧
      (s.has_anchor → identity_endorsement_verify C s.anchor_pub att.ed25519_pub
        att.not_after att.endorsement_sig)) := by
  unfold identity_store_handle_attestation
  split_ifs with hself haddr hsig hstale hend hgrace
  case neg =>
    refine .inr ⟨rfl, ⟨not_not.1 haddr, ?_⟩, fun hanch => ?_⟩
    · simpa using hsig
    · simpa [hanch] using hend
  all_goals exact .inl ⟨by simp, ⟨rfl, rfl, rfl, rfl, rfl⟩⟩

def Edits (s s' : Store) (a : UInt32) (f : IdentityPin → IdentityPin) : Prop :=
  (s'.has_anchor = s.has_anchor ∧ s'.anchor_pub = s.anchor_pub) ∧
    (((∀ i, ¬ Pins s i a) ∧ s'.entries = s.entries) ∨
      ∃ i, Pins s i a ∧ s'.entries = update s.entries i (f (s.entries i)))

lemma set_verified_edits (a : UInt32) (sas : List UInt8) :
    Edits s (identity_store_set_verified s a sas).1 a fun e =>
      { e with verified := true, verified_sas := snprintf_sas e.verified_sas sas,
               key_changed := false } := by
  unfold identity_store_set_verified
  cases hfind : find_entry s a with
  | none => exact ⟨⟨rfl, rfl⟩, .inl ⟨find_entry_none hfind, rfl⟩⟩
  | some i => exact ⟨⟨rfl, rfl⟩, .inr ⟨i, find_entry_some hfind, rfl⟩⟩

lemma clear_verified_edits (a : UInt32) :
    Edits s (identity_store_clear_verified s a).1 a fun e =>
      { e with verified := false, verified_sas := Vector.replicate 8 0 } := by
  unfold identity_store_clear_verified
  cases hfind : find_entry s a with
  | none => exact ⟨⟨rfl, rfl⟩, .inl ⟨find_entry_none hfind, rfl⟩⟩
  | some i => exact ⟨⟨rfl, rfl⟩, .inr ⟨i, find_entry_some hfind, rfl⟩⟩

lemma mark_key_changed_edits (a : UInt32) :
    Edits s (identity_store_mark_key_changed s a).1 a fun e => { e with key_changed := true } := by
  unfold identity_store_mark_key_changed
  cases hfind : find_entry s a with
  | none => exact ⟨⟨rfl, rfl⟩, .inl ⟨find_entry_none hfind, rfl⟩⟩
  | some i => exact ⟨⟨rfl, rfl⟩, .inr ⟨i, find_entry_some hfind, rfl⟩⟩

lemma set_anchor_cases (s : Store) (k : Key32) :
    let s' := identity_store_set_anchor s k
    s'.has_anchor ∧ s'.anchor_pub = k ∧
      ((s.has_anchor ∧ s.anchor_pub = k ∧ s'.entries = s.entries) ∨
        s'.entries = fun i => { s.entries i with used := false }) := by
  unfold identity_store_set_anchor
  dsimp only
  split
  · exact ⟨rfl, rfl, .inr rfl⟩
  · next hsame =>
    simp only [Bool.or_eq_true, Bool.not_eq_true', bne_iff_ne, ne_eq, not_or, Bool.not_eq_false,
      not_not] at hsame
    exact ⟨rfl, rfl, .inl ⟨hsame.1, hsame.2, rfl⟩⟩

end BrambleMesh.IdentityStore
