/-
Two nodes and the handshake between them, over frames that may be delayed, reordered and
duplicated. The responder installs its session when it takes an INIT up, the initiator when it
gets the RESP, whatever either has done in between.
-/
import BrambleMesh.DmDriver
import BrambleMesh.Lib.Run

namespace BrambleMesh.DmAgreement

open Run DmRatchet DmHandshake DmDriver Function List Option

/-! ## The two nodes -/

inductive Side
  | A
  | B
deriving DecidableEq, Repr

def Side.other : Side → Side
  | A => B
  | B => A

@[simp] lemma Side.other_other (x : Side) : x.other.other = x := by
  cases x <;> rfl

lemma Side.other_ne (x : Side) : x.other ≠ x := by
  cases x <;> decide

lemma Side.eq_or_eq_other (x y : Side) : y = x ∨ y = x.other := by
  cases x <;> cases y <;> decide

structure Pair where
  crypto : KeCrypto
  id : Side → Identity
  addr_ne : (id .A).address ≠ (id .B).address
  id_wf : ∀ x, (id x).Wf crypto
  hkdf_total : crypto.HkdfTotal
  hmac_total : crypto.HmacTotal
  dh_symmetric : crypto.DhSymmetric

def Pair.addr (P : Pair) (x : Side) : UInt32 := (P.id x).address

lemma Pair.addr_ne_other (P : Pair) (x : Side) : P.addr x ≠ P.addr x.other := by
  match x with
  | .A => exact P.addr_ne
  | .B => exact P.addr_ne.symm

/-! ## Runs -/

structure Flight where
  dest : Side
  msg : KeyExchange
  answers : Option Key32
deriving DecidableEq, Repr

structure Sys where
  nodes : Side → Node
  rekeys : Side → List UInt16
  air : List Flight
  drawn : List Key32

def Sys.start : Sys := ⟨fun _ => .start, fun _ => [], [], []⟩

inductive Event
  | prepare (x : Side) (now : UInt32)
  | schedule (x : Side)
  | initiate (x : Side) (eph : Option Ephemeral)
  | rekey (x : Side) (i : ℕ) (eph : Option Ephemeral)
  | duplicate (k : ℕ)
  | deliver (k : ℕ) (rx : Rx)
deriving DecidableEq, Repr

variable (P : Pair)

def session (s : Sys) (x : Side) : Option Session :=
  session_of (s.nodes x).dm_table (P.addr x.other)

def pending (s : Sys) (x : Side) : Option PendingEph :=
  pending_eph_lookup (s.nodes x).pending_eph (P.addr x.other)

def scheduled (s : Sys) (x : Side) : List UInt16 :=
  match session P s x with
  | none => []
  | some sess =>
    if sess.state = .ACTIVE ∧ sess.ratchet.send.valid ∧ sess.ke_epoch < 0xFFFF ∧
        P.addr x < sess.peer_addr then [sess.ke_epoch + 1]
    else []

def initiated (s : Sys) (x : Side) (rekey_epoch : UInt16) (eph : Option Ephemeral) : Sys :=
  let (n, out) := initiate_dm_handshake P.crypto (P.id x) (s.nodes x) (P.addr x.other) rekey_epoch
    eph
  { s with
    nodes := update s.nodes x n
    air := s.air ++ (out.map fun m => Flight.mk x.other m none).toList
    drawn := (eph.map P.crypto.public_key).toList ++ s.drawn }

def arrived (s : Sys) (k : ℕ) (f : Flight) (rx : Rx) : Sys :=
  let (n, out) := handle_ke_envelope P.crypto (P.id f.dest) (s.nodes f.dest) (P.addr f.dest.other)
    f.msg rx
  { s with
    nodes := update s.nodes f.dest n
    air := s.air.eraseIdx k ++
      (out.map fun m => Flight.mk f.dest.other m (some f.msg.ephemeral_pubkey)).toList }

def step (s : Sys) : Event → Sys
  | .prepare x now =>
    { s with nodes := update s.nodes x (prepare_session (s.nodes x) (P.addr x.other) now) }
  | .schedule x =>
    { s with rekeys := update s.rekeys x (s.rekeys x ++ scheduled P s x) }
  | .initiate x eph => initiated P s x 0 eph
  | .rekey x i eph =>
    match (s.rekeys x)[i]? with
    | none => s
    | some rekey_epoch =>
      initiated P { s with rekeys := update s.rekeys x ((s.rekeys x).eraseIdx i) } x
        rekey_epoch eph
  | .duplicate k => { s with air := s.air ++ s.air[k]?.toList }
  | .deliver k rx =>
    match s.air[k]? with
    | none => s
    | some f => arrived P s k f rx

/-! ## Conditions on a run -/

def awaited (s : Sys) (f : Flight) : Prop :=
  ∃ pe ∈ pending P s f.dest, f.answers = some pe.eph_pub
deriving Decidable

def Ideal (s : Sys) : Event → Prop
  | .initiate _ eph => ∀ e ∈ eph, P.crypto.public_key e ∉ s.drawn
  | .rekey _ _ eph => ∀ e ∈ eph, P.crypto.public_key e ∉ s.drawn
  | .deliver k rx =>
    ∀ f ∈ s.air[k]?, rx.eph.isSome ∧
      (∀ p ∈ rx.pinned, p = (P.id f.dest.other).public_key) ∧
      (∀ pe ∈ pending P s f.dest, (dm_verify_resp P.crypto f.msg (P.id f.dest) pe.eph_priv
        pe.eph_pub f.msg.key_id.toUInt16 rx.pinned).isOk → f.answers = some pe.eph_pub)
  | _ => True

def Undisturbed (s : Sys) : Event → Prop
  | .initiate x _ => ∀ f ∈ s.air, f.dest = x → ¬ awaited P s f
  | .rekey x _ _ => ∀ f ∈ s.air, f.dest = x → ¬ awaited P s f
  | .deliver k rx =>
    ∀ f ∈ s.air[k]?,
      takes_up P.crypto (P.id f.dest) (s.nodes f.dest) (P.addr f.dest.other) f.msg rx →
      (∀ g ∈ s.air, ¬ awaited P s g) ∧
        ∃ pe ∈ pending P s f.dest.other, pe.eph_pub = f.msg.ephemeral_pubkey
  | _ => True

instance (s : Sys) (e : Event) : Decidable (Ideal P s e) := by
  cases e <;> unfold Ideal <;> infer_instance

instance (s : Sys) (e : Event) : Decidable (Undisturbed P s e) := by
  cases e <;> unfold Undisturbed <;> infer_instance

/-! ## The invariant -/

structure FlightSound (drawn : List Key32) (f : Flight) : Prop where
  src : f.msg.src_addr = P.addr f.dest.other
  long_term : f.msg.long_term_pubkey = (P.id f.dest.other).public_key
  kind : f.msg.ke_type = .INIT ∧ f.answers = none ∧
      (∃ e, f.msg.ephemeral_pubkey = P.crypto.public_key e) ∧
      (f.msg.key_id = 0 ∨ ∀ pinned, PinOf (P.id f.dest.other) pinned →
        dm_verify_init P.crypto f.msg (P.id f.dest) (some (P.id f.dest.other).public_key) pinned =
          .ok ()) ∨
    f.msg.ke_type = .RESP ∧ ∃ a ∈ drawn, f.answers = some a

structure Sound (s : Sys) : Prop where
  only : ∀ x, OnlyPeer (P.addr x.other) (s.nodes x)
  active : ∀ x, ∀ sess ∈ session P s x, sess.state = .ACTIVE →
    sess.peer_id_pub = (P.id x.other).public_key ∧ sess.ke_epoch.toNat < 256
  ephemeral : ∀ x, ∀ pe ∈ pending P s x,
    pe.eph_pub = P.crypto.public_key pe.eph_priv ∧ pe.eph_pub ∈ s.drawn
  rekeys : ∀ x, ∀ k ∈ s.rekeys x, k.toNat ≤ 256
  flights : ∀ f ∈ s.air, FlightSound P s.drawn f

def Matched (s : Sys) : Prop :=
  (∀ x, ∀ sess ∈ session P s x, sess.state ≠ .ACTIVE) ∨
    ∃ a ∈ session P s .A, ∃ b ∈ session P s .B, Agree a b

def Settled (s : Sys) : Prop := (∀ f ∈ s.air, ¬ awaited P s f) ∧ Matched P s

def Completes (s : Sys) (x : Side) (pe : PendingEph) (f : Flight) : Prop :=
  ∃ ikm key, ∃ sess ∈ session P s x.other,
    dm_compute_ikm P.crypto (P.id x).private_key pe.eph_priv f.msg.long_term_pubkey
      f.msg.ephemeral_pubkey = some ikm ∧
    (∀ pinned, PinOf (P.id x.other) pinned →
      dm_verify_resp P.crypto f.msg (P.id x) pe.eph_priv pe.eph_pub f.msg.key_id.toUInt16 pinned =
        .ok key) ∧
    ∀ v, Agree (establish P.crypto (P.addr x) (P.addr x.other)
      ((session P s x).getD (fresh_session (P.addr x.other))) f.msg.long_term_pubkey
      f.msg.key_id.toUInt16 (some ikm) key v).2 sess

def Open (s : Sys) (x : Side) : Prop :=
  ∃ pe ∈ pending P s x,
    (∃ f ∈ s.air, f.dest = x ∧ f.answers = some pe.eph_pub) ∧
    (∀ f ∈ s.air, f.dest = x → f.answers = some pe.eph_pub → Completes P s x pe f) ∧
    ∀ f ∈ s.air, f.dest = x.other → ¬ awaited P s f

def Phase (s : Sys) : Prop := Settled P s ∨ ∃ x, Open P s x

variable {P} {s s' : Sys}

def KeepsSession (P : Pair) (s s' : Sys) (x : Side) : Prop :=
  session P s' x = session P s x ∨ session P s x = none ∧
    session P s' x = some { fresh_session (P.addr x.other) with state := .HANDSHAKING }

variable {x : Side} {k : UInt16}

lemma KeepsSession.eq_of_mem (h : KeepsSession P s s' x) {sess : Session}
    (hs : sess ∈ session P s x) : sess ∈ session P s' x := by
  rcases h with hsame | ⟨hnone, -⟩
  · rw [hsame]
    exact hs
  · rw [hnone] at hs
    cases hs

lemma KeepsSession.of_active (h : KeepsSession P s s' x) {sess : Session}
    (hs : sess ∈ session P s' x) (hact : sess.state = .ACTIVE) : sess ∈ session P s x := by
  rcases h with hsame | ⟨-, hmark⟩
  · rw [← hsame]
    exact hs
  · rw [hmark] at hs
    rw [← some.inj hs] at hact
    cases hact

lemma Matched.keep (h : Matched P s) (hsess : ∀ x, KeepsSession P s s' x) : Matched P s' := by
  rcases h with hidle | ⟨a, ha, b, hb, hagree⟩
  · exact .inl fun x sess hs hact => hidle x sess ((hsess x).of_active hs hact) hact
  · exact .inr ⟨a, (hsess .A).eq_of_mem ha, b, (hsess .B).eq_of_mem hb, hagree⟩

lemma matched_iff (x : Side) : Matched P s ↔
    (∀ y, ∀ sess ∈ session P s y, sess.state ≠ .ACTIVE) ∨
      ∃ a ∈ session P s x, ∃ b ∈ session P s x.other, Agree a b := by
  match x with
  | .A => exact Iff.rfl
  | .B =>
    apply or_congr_right
    constructor
    · rintro ⟨a, ha, b, hb, hagree⟩
      exact ⟨b, hb, a, ha, hagree.symm⟩
    · rintro ⟨b, hb, a, ha, hagree⟩
      exact ⟨a, ha, b, hb, hagree.symm⟩

lemma Completes.keep {pe : PendingEph} {f : Flight} (h : Completes P s x pe f)
    (hsess : ∀ x, KeepsSession P s s' x) : Completes P s' x pe f := by
  obtain ⟨ikm, key, sess, hs, hikm, hverify, hagree⟩ := h
  refine ⟨ikm, key, sess, (hsess x.other).eq_of_mem hs, hikm, hverify, ?_⟩
  rcases hsess x with hsame | ⟨hnone, hmark⟩
  · rw [hsame]
    exact hagree
  · rw [hnone] at hagree
    rw [hmark]
    exact hagree

lemma Phase.mono (h : Phase P s) (hsess : ∀ x, KeepsSession P s s' x)
    (hpend : ∀ x, pending P s' x = pending P s x)
    (hnew : ∀ f ∈ s'.air, f ∈ s.air ∨ f.answers = none)
    (hkept : ∀ f ∈ s.air, awaited P s f → f ∈ s'.air) : Phase P s' := by
  -- a message that was not awaited is not awaited now, and a new one answers nothing
  have hno : ∀ f ∈ s'.air, (f ∈ s.air → ¬ awaited P s f) → ¬ awaited P s' f := by
    intro f hf hold hawait
    unfold awaited at hawait
    rw [hpend] at hawait
    rcases hnew f hf with hmem | hnone
    · exact hold hmem hawait
    · obtain ⟨pe, -, hans⟩ := hawait
      rw [hnone] at hans
      cases hans
  rcases h with ⟨hquiet, hsessions⟩ | ⟨x, pe, hpe, ⟨f, hf, hdest, hans⟩, hcomp, hother⟩
  · left
    exact ⟨fun f hf => hno f hf fun hmem => hquiet f hmem, hsessions.keep hsess⟩
  · right
    refine ⟨x, pe, (hpend x).symm ▸ hpe, ⟨f, ?_, hdest, hans⟩, ?_, ?_⟩
    · exact hkept f hf ⟨pe, hdest.symm ▸ hpe, hans⟩
    · intro g hg hgd hga
      rcases hnew g hg with hmem | hnone
      · exact (hcomp g hmem hgd hga).keep hsess
      · rw [hnone] at hga
        cases hga
    · intro g hg hgd
      exact hno g hg fun hmem => hother g hmem hgd

lemma sound_start (P : Pair) : Sound P .start where
  only := fun x => ⟨fun _ => .inl rfl, fun _ => .inl rfl⟩
  active := by
    intro x sess hs
    cases hs
  ephemeral := by
    intro x pe hpe
    cases hpe
  rekeys := fun _ _ hk => absurd hk not_mem_nil
  flights := fun _ hf => absurd hf not_mem_nil

lemma phase_start (P : Pair) : Phase P .start := by
  left
  refine ⟨fun _ hf => absurd hf not_mem_nil, .inl ?_⟩
  intro x sess hs
  cases hs

/-! ## Replacing a node -/

section

variable {x : Side} {n : Node}

lemma session_self (hnodes : s'.nodes = update s.nodes x n) :
    session P s' x = session_of n.dm_table (P.addr x.other) := by
  unfold session
  rw [hnodes, update_self]

lemma session_ne (hnodes : s'.nodes = update s.nodes x n) {y : Side} (hy : y ≠ x) :
    session P s' y = session P s y := by
  unfold session
  rw [hnodes, update_of_ne hy]

lemma pending_self (hnodes : s'.nodes = update s.nodes x n) :
    pending P s' x = pending_eph_lookup n.pending_eph (P.addr x.other) := by
  unfold pending
  rw [hnodes, update_self]

lemma pending_ne (hnodes : s'.nodes = update s.nodes x n) {y : Side} (hy : y ≠ x) :
    pending P s' y = pending P s y := by
  unfold pending
  rw [hnodes, update_of_ne hy]

lemma keepsSession_replace (hnodes : s'.nodes = update s.nodes x n)
    (h : session_of n.dm_table (P.addr x.other) = session P s x ∨ session P s x = none ∧
      session_of n.dm_table (P.addr x.other) =
        some { fresh_session (P.addr x.other) with state := .HANDSHAKING }) (y : Side) :
    KeepsSession P s s' y := by
  by_cases hy : y = x
  · rw [hy]
    unfold KeepsSession
    rw [session_self hnodes]
    exact h
  · exact .inl (session_ne hnodes hy)

lemma pending_same (hnodes : s'.nodes = update s.nodes x n)
    (h : pending_eph_lookup n.pending_eph (P.addr x.other) = pending P s x) (y : Side) :
    pending P s' y = pending P s y := by
  by_cases hy : y = x
  · rw [hy, pending_self hnodes, h]
  · exact pending_ne hnodes hy

lemma FlightSound.mono {drawn drawn' : List Key32} {f : Flight} (h : FlightSound P drawn f)
    (hsub : drawn ⊆ drawn') : FlightSound P drawn' f := by
  refine ⟨h.src, h.long_term, h.kind.imp_right ?_⟩
  rintro ⟨htype, a, ha, hans⟩
  exact ⟨htype, a, hsub ha, hans⟩

lemma Sound.replace (h : Sound P s) (hnodes : s'.nodes = update s.nodes x n)
    (honly : OnlyPeer (P.addr x.other) n)
    (hactive : ∀ sess ∈ session_of n.dm_table (P.addr x.other), sess.state = .ACTIVE →
      sess.peer_id_pub = (P.id x.other).public_key ∧ sess.ke_epoch.toNat < 256)
    (heph : ∀ pe ∈ pending_eph_lookup n.pending_eph (P.addr x.other),
      pe.eph_pub = P.crypto.public_key pe.eph_priv ∧ pe.eph_pub ∈ s'.drawn)
    (hdrawn : s.drawn ⊆ s'.drawn) (hrekeys : ∀ y, ∀ k ∈ s'.rekeys y, k.toNat ≤ 256)
    (hflights : ∀ f ∈ s'.air, f ∈ s.air ∨ FlightSound P s'.drawn f) : Sound P s' where
  only := by
    intro y
    rw [hnodes]
    by_cases hy : y = x
    · rw [hy, update_self]
      exact honly
    · rw [update_of_ne hy]
      exact h.only y
  active := by
    intro y
    by_cases hy : y = x
    · rw [hy, session_self hnodes]
      exact hactive
    · rw [session_ne hnodes hy]
      exact h.active y
  ephemeral := by
    intro y
    by_cases hy : y = x
    · rw [hy, pending_self hnodes]
      exact heph
    · rw [pending_ne hnodes hy]
      intro pe hpe
      exact ⟨(h.ephemeral y pe hpe).1, hdrawn (h.ephemeral y pe hpe).2⟩
  rekeys := hrekeys
  flights := by
    intro f hf
    rcases hflights f hf with hold | hnew
    · exact (h.flights f hold).mono hdrawn
    · exact hnew

end

/-! ## Preparing, scheduling, duplicating -/

lemma prepare_keeps (h : Sound P s) (hph : Phase P s) (x : Side) (now : UInt32) :
    Sound P (step P s (.prepare x now)) ∧ Phase P (step P s (.prepare x now)) := by
  obtain ⟨honly, hpend, hsess⟩ := prepare_session_spec (h.only x) now
  have hnodes : (step P s (.prepare x now)).nodes = update s.nodes x
      (prepare_session (s.nodes x) (P.addr x.other) now) := rfl
  have hkeeps := keepsSession_replace (P := P) hnodes hsess
  have hpending : ∀ y, pending P (step P s (.prepare x now)) y = pending P s y :=
    pending_same hnodes (congrArg (pending_eph_lookup · _) hpend)
  constructor
  · refine h.replace hnodes honly ?_ ?_ (fun _ hk => hk) h.rekeys fun f hf => .inl hf
    · intro sess hs hact
      rw [← session_self (P := P) hnodes] at hs
      exact h.active x sess ((hkeeps x).of_active hs hact) hact
    · rw [hpend]
      exact h.ephemeral x
  · exact hph.mono hkeeps hpending (fun f hf => .inl hf) fun f hf _ => hf

lemma scheduled_le (h : Sound P s) (x : Side) : ∀ k ∈ scheduled P s x, k.toNat ≤ 256 := by
  intro k hk
  unfold scheduled at hk
  split at hk
  · cases hk
  · next sess hs =>
    split_ifs at hk with hdue
    · have hepoch := (h.active x sess hs hdue.1).2
      rw [mem_singleton.1 hk, UInt16.toNat_add, show (1 : UInt16).toNat = 1 from rfl]
      omega
    · cases hk

lemma schedule_keeps (h : Sound P s) (hph : Phase P s) (x : Side) :
    Sound P (step P s (.schedule x)) ∧ Phase P (step P s (.schedule x)) := by
  constructor
  · refine ⟨h.only, h.active, h.ephemeral, ?_, h.flights⟩
    intro y k hk
    dsimp only [step] at hk
    by_cases hy : y = x
    · rw [hy, update_self] at hk
      rcases mem_append.1 hk with hold | hnew
      · exact h.rekeys x k hold
      · exact scheduled_le h x k hnew
    · rw [update_of_ne hy] at hk
      exact h.rekeys y k hk
  · exact hph.mono (fun _ => .inl rfl) (fun _ => rfl) (fun f hf => .inl hf) fun f hf _ => hf

lemma dequeue_keeps (h : Sound P s) (hph : Phase P s) (x : Side) (i : ℕ) :
    let s' : Sys := { s with rekeys := update s.rekeys x ((s.rekeys x).eraseIdx i) }
    Sound P s' ∧ Phase P s' := by
  constructor
  · refine ⟨h.only, h.active, h.ephemeral, ?_, h.flights⟩
    intro y k hk
    dsimp only at hk
    by_cases hy : y = x
    · rw [hy, update_self] at hk
      exact h.rekeys x k (mem_of_mem_eraseIdx hk)
    · rw [update_of_ne hy] at hk
      exact h.rekeys y k hk
  · exact hph.mono (fun _ => .inl rfl) (fun _ => rfl) (fun f hf => .inl hf) fun f hf _ => hf

lemma duplicate_keeps (h : Sound P s) (hph : Phase P s) (k : ℕ) :
    Sound P (step P s (.duplicate k)) ∧ Phase P (step P s (.duplicate k)) := by
  -- a copy of a message in flight is a message that was in flight
  have hmem : ∀ f ∈ (step P s (.duplicate k)).air, f ∈ s.air := by
    intro f hf
    rcases mem_append.1 hf with hold | hnew
    · exact hold
    · exact mem_of_getElem? (mem_toList.1 hnew)
  constructor
  · exact ⟨h.only, h.active, h.ephemeral, h.rekeys, fun f hf => h.flights f (hmem f hf)⟩
  · exact hph.mono (fun _ => .inl rfl) (fun _ => rfl) (fun f hf => .inl (hmem f hf))
      fun f hf _ => mem_append_left _ hf

/-! ## Initiating -/

lemma key_id_fits (hk : k.toNat ≤ 256) :
    (k &&& 0xFF).toUInt8 = 0 ∨ (k &&& 0xFF).toUInt8.toUInt16 = k := by
  have hlow : (k &&& 0xFF).toUInt8.toNat = k.toNat % 256 := by
    rw [UInt16.toNat_toUInt8, UInt16.toNat_and, show (0xFF : UInt16).toNat = 2 ^ 8 - 1 from rfl,
      Nat.and_two_pow_sub_one_eq_mod]
    omega
  by_cases h : k.toNat = 256
  · left
    rw [← UInt8.toNat_inj, hlow, h]
    rfl
  · right
    rw [← UInt16.toNat_inj, UInt8.toNat_toUInt16, hlow]
    omega

lemma build_init_header {C : KeCrypto} {me : Identity} {e : Ephemeral} {p : UInt32}
    {epoch : UInt16} {peer : Option Key32} {init : KeyExchange}
    (h : dm_build_init C me (C.public_key e) e p epoch peer = some init) :
    init.src_addr = me.address ∧ init.ephemeral_pubkey = C.public_key e ∧
      init.long_term_pubkey = me.public_key ∧ init.key_id = (epoch &&& 0xFF).toUInt8 ∧
      init.ke_type = .INIT := by
  unfold dm_build_init at h
  split at h
  · rw [← some.inj h]
    exact ⟨rfl, rfl, rfl, rfl, rfl⟩
  · obtain ⟨dh2, -, h⟩ := bind_eq_some_iff.1 h
    obtain ⟨dh3, -, h⟩ := bind_eq_some_iff.1 h
    obtain ⟨tag, -, h⟩ := bind_eq_some_iff.1 h
    rw [← some.inj h]
    exact ⟨rfl, rfl, rfl, rfl, rfl⟩

lemma init_flight_sound (h : Sound P s) {epoch : UInt16} (hk : k.toNat ≤ 256) {e : Ephemeral}
    {peer : Option Key32} {init : KeyExchange} {drawn : List Key32}
    (hbuild : dm_build_init P.crypto (P.id x) (P.crypto.public_key e) e (P.addr x.other) epoch
      peer = some init)
    (hpeer : peer = none ∧ epoch = 0 ∨ epoch = k ∧ ∃ sess, session_of (s.nodes x).dm_table (P.addr
      x.other) = some sess ∧ sess.state = .ACTIVE ∧ peer = some sess.peer_id_pub) :
    FlightSound P drawn ⟨x.other, init, none⟩ := by
  obtain ⟨hsrc, heph, hlong, hid, htype⟩ := build_init_header hbuild
  have hother : x.other.other = x := Side.other_other x
  refine ⟨?_, ?_, .inl ⟨htype, rfl, ⟨e, heph⟩, ?_⟩⟩
  · rw [hsrc]
    rw [hother]
    rfl
  · rw [hlong]
    rw [hother]
  · rw [hother]
    rcases hpeer with ⟨-, rfl⟩ | ⟨rfl, sess, hs, hact, rfl⟩
    · left
      rw [hid]
      rfl
    · rcases key_id_fits hk with hzero | hfits
      · exact .inl (hid.trans hzero)
      · right
        intro pinned hpin
        rw [(h.active x sess hs hact).1] at hbuild
        exact verify_built_init P.dh_symmetric (P.id_wf x) (P.id_wf x.other) hbuild hfits hpin

lemma Sound.not_awaited (h : Sound P s) (hnew : ∀ pe ∈ pending P s' x, pe.eph_pub ∉ s.drawn)
    {f : Flight} (hair : f ∈ s.air ∨ f.answers = none) (hdest : f.dest = x) : ¬ awaited P s' f := by
  rintro ⟨pe, hpe, hans⟩
  rw [hdest] at hpe
  rcases hair with hmem | hnone
  · rcases (h.flights f hmem).kind with ⟨-, hnone, -⟩ | ⟨-, a, ha, hans'⟩
    · exact some_ne_none _ (hans.symm.trans hnone)
    · rw [hans, some.injEq] at hans'
      exact hnew pe hpe (hans' ▸ ha)
  · exact some_ne_none _ (hans.symm.trans hnone)

lemma Phase.renew (hph : Phase P s) (h : Sound P s)
    (hquiet : ∀ f ∈ s.air, f.dest = x → ¬ awaited P s f) (hsess : ∀ y, KeepsSession P s s' y)
    (hpend : pending P s' x.other = pending P s x.other)
    (hnew : ∀ pe ∈ pending P s' x, pe.eph_pub ∉ s.drawn)
    (hair : ∀ f ∈ s'.air, f ∈ s.air ∨ f.answers = none) (hkept : s.air ⊆ s'.air) : Phase P s' := by
  -- whatever was on its way to `x` answers an older ephemeral
  have hself : ∀ f ∈ s'.air, f.dest = x → ¬ awaited P s' f :=
    fun f hf hdest => h.not_awaited hnew (hair f hf) hdest
  rcases hph with ⟨hnone, hsessions⟩ | ⟨z, pe, hpe, ⟨f, hf, hdest, hans⟩, hcomp, hother⟩
  · left
    constructor
    · intro f hf
      rcases Side.eq_or_eq_other x f.dest with hdest | hdest
      · exact hself f hf hdest
      · rintro ⟨pe, hpe, hans⟩
        rw [hdest, hpend] at hpe
        rcases hair f hf with hmem | hno
        · exact hnone f hmem ⟨pe, hdest.symm ▸ hpe, hans⟩
        · exact some_ne_none _ (hans.symm.trans hno)
    · exact hsessions.keep hsess
  · -- the RESP on its way is for the other node
    have hz : z = x.other := by
      rcases Side.eq_or_eq_other x z with rfl | hz
      · exact absurd ⟨pe, hdest.symm ▸ hpe, hans⟩ (hquiet f hf hdest)
      · exact hz
    subst hz
    right
    refine ⟨x.other, pe, hpend.symm ▸ hpe, ⟨f, hkept hf, hdest, hans⟩, ?_, ?_⟩
    · intro g hg hgd hga
      rcases hair g hg with hmem | hnone
      · exact (hcomp g hmem hgd hga).keep hsess
      · exact absurd (hga.symm.trans hnone) (some_ne_none _)
    · rw [Side.other_other]
      exact hself

lemma nothing_initiated_keeps (h : Sound P s) (hph : Phase P s) {eph : Option Ephemeral}
    (hnone : initiate_dm_handshake P.crypto (P.id x) (s.nodes x) (P.addr x.other) k eph = (s.nodes
      x, none)) :
    Sound P (initiated P s x k eph) ∧ Phase P (initiated P s x k eph) := by
  have hdrawn : s.drawn ⊆ (initiated P s x k eph).drawn := fun _ hd => mem_append_right _ hd
  have hnodes : (initiated P s x k eph).nodes = update s.nodes x (s.nodes x) := by
    unfold initiated
    rw [hnone]
  have hair : (initiated P s x k eph).air = s.air := by
    unfold initiated
    rw [hnone]
    exact append_nil _
  refine ⟨h.replace hnodes (h.only x) (h.active x) ?_ hdrawn h.rekeys ?_, ?_⟩
  · intro pe hpe
    exact ⟨(h.ephemeral x pe hpe).1, hdrawn (h.ephemeral x pe hpe).2⟩
  · rw [hair]
    exact fun f hf => .inl hf
  · refine hph.mono (keepsSession_replace hnodes (.inl rfl)) (pending_same hnodes rfl) ?_ ?_
    · rw [hair]
      exact fun f hf => .inl hf
    · rw [hair]
      exact fun f hf _ => hf

lemma initiated_keeps (h : Sound P s) (hph : Phase P s) (x : Side) (hk : k.toNat ≤ 256)
    (eph : Option Ephemeral) (hfresh : ∀ e ∈ eph, P.crypto.public_key e ∉ s.drawn)
    (hquiet : ∀ f ∈ s.air, f.dest = x → ¬ awaited P s f) :
    Sound P (initiated P s x k eph) ∧ Phase P (initiated P s x k eph) := by
  match eph with
  | none => exact nothing_initiated_keeps h hph rfl
  | some e =>
    have hdrawn : s.drawn ⊆ (initiated P s x k (some e)).drawn :=
      fun _ hd => mem_append_right _ hd
    rcases initiate_spec P.crypto (P.id x) (h.only x) k e with hnone |
      ⟨n', init, epoch, peer, hinit, honly, htable, hlook, hbuild, hpeer⟩
    · exact nothing_initiated_keeps h hph hnone
    · have hnodes : (initiated P s x k (some e)).nodes = update s.nodes x n' := by
        unfold initiated
        rw [hinit]
      have hair : (initiated P s x k (some e)).air = s.air ++ [⟨x.other, init, none⟩] := by
        unfold initiated
        rw [hinit]
        rfl
      have hself : P.crypto.public_key e ∈ (initiated P s x k (some e)).drawn :=
        mem_append_left _ (mem_singleton.2 rfl)
      have hold : ∀ f ∈ (initiated P s x k (some e)).air,
          f ∈ s.air ∨ f = ⟨x.other, init, none⟩ := by
        rw [hair]
        intro f hf
        exact (mem_append.1 hf).imp_right mem_singleton.1
      -- an initiation stores the ephemeral and leaves the sessions alone
      have hsess : session_of n'.dm_table (P.addr x.other) = session P s x := by
        rw [htable]
        rfl
      refine ⟨h.replace hnodes honly ?_ ?_ hdrawn h.rekeys ?_, ?_⟩
      · rw [hsess]
        exact h.active x
      · intro pe hpe
        rw [hlook] at hpe
        rw [← some.inj hpe]
        exact ⟨rfl, hself⟩
      · intro f hf
        refine (hold f hf).imp_right ?_
        rintro rfl
        exact init_flight_sound h hk hbuild hpeer
      · refine hph.renew h hquiet (keepsSession_replace hnodes (.inl hsess))
          (pending_ne hnodes (Side.other_ne x)) ?_ ?_ ?_
        · intro pe hpe
          rw [pending_self hnodes, hlook] at hpe
          rw [← some.inj hpe]
          exact hfresh e rfl
        · intro f hf
          refine (hold f hf).imp_right ?_
          rintro rfl
          rfl
        · exact subset_append_left _ _

/-! ## Arriving -/

section

variable {k : ℕ} {f : Flight} {rx : Rx} {n : Node} {out : Option KeyExchange}

lemma arrived_nodes (hhandle : handle_ke_envelope P.crypto (P.id f.dest) (s.nodes f.dest)
    (P.addr f.dest.other) f.msg rx = (n, out)) :
    (arrived P s k f rx).nodes = update s.nodes f.dest n := by
  unfold arrived
  rw [hhandle]

lemma arrived_air (hhandle : handle_ke_envelope P.crypto (P.id f.dest) (s.nodes f.dest)
    (P.addr f.dest.other) f.msg rx = (n, out)) :
    (arrived P s k f rx).air = s.air.eraseIdx k ++
      (out.map fun m => Flight.mk f.dest.other m (some f.msg.ephemeral_pubkey)).toList := by
  unfold arrived
  rw [hhandle]

lemma ignored_keeps (h : Sound P s) (hph : Phase P s) (hf : s.air[k]? = some f)
    (hhandle : handle_ke_envelope P.crypto (P.id f.dest) (s.nodes f.dest) (P.addr f.dest.other)
      f.msg rx = (n, none))
    (honly : OnlyPeer (P.addr f.dest.other) n) (htable : n.dm_table = (s.nodes f.dest).dm_table)
    (hpend : n.pending_eph = (s.nodes f.dest).pending_eph) (hno : ¬ awaited P s f) :
    Sound P (arrived P s k f rx) ∧ Phase P (arrived P s k f rx) := by
  have hnodes := arrived_nodes (P := P) (k := k) hhandle
  have hair : (arrived P s k f rx).air = s.air.eraseIdx k := by
    rw [arrived_air hhandle]
    exact append_nil _
  have hold : ∀ g ∈ (arrived P s k f rx).air, g ∈ s.air := by
    rw [hair]
    exact fun g hg => mem_of_mem_eraseIdx hg
  constructor
  · refine h.replace hnodes honly ?_ ?_ (fun _ hd => hd) h.rekeys fun g hg => .inl (hold g hg)
    · rw [htable]
      exact h.active f.dest
    · rw [hpend]
      exact h.ephemeral f.dest
  · refine hph.mono (keepsSession_replace hnodes (.inl ?_)) (pending_same hnodes ?_)
      (fun g hg => .inl (hold g hg)) ?_
    · rw [htable]
      rfl
    · rw [hpend]
      rfl
    · -- the message that is gone is not the one awaited
      intro g hg hawait
      rw [hair, mem_eraseIdx_iff_getElem?]
      obtain ⟨i, hi⟩ := mem_iff_getElem?.1 hg
      refine ⟨i, ?_, hi⟩
      rintro rfl
      rw [hf, some.injEq] at hi
      exact hno (hi ▸ hawait)

lemma Sound.established (h : Sound P s) (hsound : FlightSound P s.drawn f)
    (hhandle : handle_ke_envelope P.crypto (P.id f.dest) (s.nodes f.dest) (P.addr f.dest.other)
      f.msg rx = (n, out))
    (honly : OnlyPeer (P.addr f.dest.other) n)
    (hpend : ∀ pe ∈ pending_eph_lookup n.pending_eph (P.addr f.dest.other),
      pe ∈ pending P s f.dest)
    {base : Session} {ikm : Ikm} {key : Key32} {v : Bool}
    (hsess : session_of n.dm_table (P.addr f.dest.other) = some (establish P.crypto (P.addr f.dest)
      (P.addr f.dest.other) base f.msg.long_term_pubkey f.msg.key_id.toUInt16 (some ikm) key v).2)
    (hout : ∀ m ∈ out,
      FlightSound P s.drawn ⟨f.dest.other, m, some f.msg.ephemeral_pubkey⟩) :
    Sound P (arrived P s k f rx) := by
  refine h.replace (arrived_nodes hhandle) honly ?_ ?_ (fun _ hd => hd) h.rekeys ?_
  · intro sess hs _
    -- the epoch of an established session comes from a message, so it fits in a byte
    obtain ⟨-, -, -, hpub, hepoch⟩ := establish_frame (C := P.crypto) (a := base)
      (k := f.msg.key_id.toUInt16) P.hkdf_total (P.addr_ne_other f.dest) f.msg.long_term_pubkey ikm
      key v
    rw [hsess] at hs
    rw [← some.inj hs, hpub, hepoch, hsound.long_term]
    exact ⟨rfl, f.msg.key_id.toNat_lt⟩
  · intro pe hpe
    exact h.ephemeral f.dest pe (hpend pe hpe)
  · intro g hg
    rw [arrived_air hhandle] at hg
    rcases mem_append.1 hg with hold | hnew
    · exact .inl (mem_of_mem_eraseIdx hold)
    · obtain ⟨m, hm, rfl⟩ := map_eq_some_iff.1 (mem_toList.1 hnew)
      exact .inr (hout m hm)

lemma resp_awaited_keeps (h : Sound P s) (hph : Phase P s) (hf : s.air[k]? = some f)
    (hpin : PinOf (P.id f.dest.other) rx.pinned) (htype : f.msg.ke_type = .RESP)
    (hawait : awaited P s f) :
    Sound P (arrived P s k f rx) ∧ Phase P (arrived P s k f rx) := by
  have hmem := mem_of_getElem? hf
  have hsound := h.flights f hmem
  -- the handshake that is open is the receiver's
  rcases hph with ⟨hquiet, -⟩ | ⟨x, pe, hpe, -, hcomp, hother⟩
  · exact absurd hawait (hquiet f hmem)
  have hx : x = f.dest := by
    rcases Side.eq_or_eq_other x f.dest with hx | hx
    · exact hx.symm
    · exact absurd hawait (hother f hmem hx)
  subst hx
  -- the RESP answers the one ephemeral that the receiver has outstanding
  obtain ⟨pe', hpe', hans⟩ := hawait
  rw [mem_unique hpe' hpe] at hans
  obtain ⟨ikm, key, sess, hs, hikm, hverify, hagree⟩ := hcomp f hmem rfl hans
  obtain ⟨n, hhandle, honly, hpend, hsess⟩ := handle_resp_spec P.hkdf_total (h.only f.dest)
    (P.addr_ne_other f.dest) hsound.src htype ⟨hpe, hverify rx.pinned hpin, hikm⟩
  have hnodes := arrived_nodes (P := P) (k := k) hhandle
  have hself := pending_self (P := P) hnodes
  rw [hpend] at hself
  constructor
  · refine h.established hsound hhandle honly ?_ hsess fun m hm => absurd hm (not_mem_none m)
    rw [hpend]
    exact fun pe hpe => absurd hpe (not_mem_none pe)
  · left
    constructor
    · intro g hg
      rw [arrived_air hhandle] at hg
      have hold := mem_of_mem_eraseIdx (append_nil _ ▸ hg)
      rintro ⟨pe, hpe, hans⟩
      rcases Side.eq_or_eq_other f.dest g.dest with hdest | hdest
      · rw [hdest, hself] at hpe
        exact absurd hpe (not_mem_none pe)
      · rw [hdest, pending_ne hnodes (Side.other_ne _)] at hpe
        exact hother g hold hdest ⟨pe, hdest.symm ▸ hpe, hans⟩
    · rw [matched_iff f.dest]
      right
      refine ⟨_, (session_self hnodes).trans hsess, sess, ?_, hagree rx.verified⟩
      rw [session_ne hnodes (Side.other_ne _)]
      exact hs

lemma is_rekey_idle {o : Option Session} (h : ∀ sess ∈ o, sess.state ≠ .ACTIVE) (p : UInt32)
    (epoch : UInt16) : is_rekey (o.getD (fresh_session p)) epoch = false := by
  match o with
  | none => rfl
  | some sess =>
    unfold is_rekey
    rw [getD_some, beq_eq_false_iff_ne.2 (h sess rfl), Bool.false_and, Bool.false_and]

lemma is_rekey_zero (sess : Session) : is_rekey sess 0 = false := by
  unfold is_rekey
  rw [decide_eq_false UInt16.not_lt_zero, Bool.and_false]

lemma taken_alike (h : Sound P s) (hmatch : Matched P s) {epoch : UInt8}
    (hkind : epoch = 0 ∨ ∀ pinned, PinOf (P.id f.dest.other) pinned →
      dm_verify_init P.crypto f.msg (P.id f.dest) (some (P.id f.dest.other).public_key) pinned =
        .ok ())
    (hpin : PinOf (P.id f.dest.other) rx.pinned) {base : Option Session}
    (hbase : base = session P s f.dest ∨ base = none ∧ ∃ sess, session P s f.dest = some sess ∧
      dm_verify_init P.crypto f.msg (P.id f.dest) (some sess.peer_id_pub) rx.pinned =
        .error .FAIL) (p q : UInt32) :
    let a := (session P s f.dest.other).getD (fresh_session p)
    let b := base.getD (fresh_session q)
    is_rekey a epoch.toUInt16 = is_rekey b epoch.toUInt16 ∧
      (is_rekey a epoch.toUInt16 → a.ratchet.rk = b.ratchet.rk) := by
  dsimp only
  rcases (matched_iff f.dest).1 hmatch with hidle | ⟨b, hb, a, ha, hagree⟩
  · have hbidle : ∀ sess ∈ base, sess.state ≠ .ACTIVE := by
      rcases hbase with rfl | ⟨rfl, -⟩
      · exact hidle f.dest
      · exact fun sess hs => absurd hs (not_mem_none sess)
    rw [is_rekey_idle (hidle f.dest.other), is_rekey_idle hbidle]
    exact ⟨rfl, fun hfalse => absurd hfalse Bool.false_ne_true⟩
  · rw [ha, getD_some]
    rcases hbase with rfl | ⟨rfl, sess, hs, hfail⟩
    · rw [hb, getD_some]
      exact ⟨hagree.symm.is_rekey _, fun _ => hagree.rk.symm⟩
    · -- the tag failed against the sender's own key, so the INIT was a first contact
      obtain rfl : b = sess := some.inj (hb.symm.trans hs)
      rw [(h.active f.dest b hb hagree.active.1).1] at hfail
      have hzero : epoch = 0 := by
        rcases hkind with hzero | hok
        · exact hzero
        · rw [hok rx.pinned hpin] at hfail
          exact nomatch hfail
      rw [hzero, show (0 : UInt8).toUInt16 = 0 from rfl, is_rekey_zero, is_rekey_zero]
      exact ⟨rfl, fun hfalse => absurd hfalse Bool.false_ne_true⟩

lemma answer_completes (h : Sound P s) (hmatch : Matched P s)
    (hkind : f.msg.key_id = 0 ∨ ∀ pinned, PinOf (P.id f.dest.other) pinned →
      dm_verify_init P.crypto f.msg (P.id f.dest) (some (P.id f.dest.other).public_key) pinned =
        .ok ())
    (hpin : PinOf (P.id f.dest.other) rx.pinned) {pe : PendingEph} {resp : KeyExchange}
    {key : Key32} {ikm : Ikm} {base : Option Session} {v : Bool}
    (hid : resp.key_id = f.msg.key_id)
    (hikm : dm_compute_ikm P.crypto (P.id f.dest.other).private_key pe.eph_priv
      resp.long_term_pubkey resp.ephemeral_pubkey = some ikm)
    (hverify : ∀ pinned, PinOf (P.id f.dest) pinned → dm_verify_resp P.crypto resp
      (P.id f.dest.other) pe.eph_priv pe.eph_pub resp.key_id.toUInt16 pinned = .ok key)
    (hbase : base = session P s f.dest ∨ base = none ∧ ∃ sess, session P s f.dest = some sess ∧
      dm_verify_init P.crypto f.msg (P.id f.dest) (some sess.peer_id_pub) rx.pinned = .error .FAIL)
    (hself : session P s' f.dest = some (establish P.crypto (P.addr f.dest)
      (P.addr f.dest.other) (base.getD (fresh_session (P.addr f.dest.other)))
      f.msg.long_term_pubkey f.msg.key_id.toUInt16 (some ikm) key v).2)
    (hsender : session P s' f.dest.other = session P s f.dest.other) (answers : Option Key32) :
    Completes P s' f.dest.other pe ⟨f.dest.other, resp, answers⟩ := by
  unfold Completes
  rw [Side.other_other, hself, hsender, hid]
  refine ⟨ikm, key, _, rfl, hikm, hid ▸ hverify, fun v' => ?_⟩
  -- the sender has not touched its session since, so both ends start from matching ones
  obtain ⟨halike, hroot⟩ := taken_alike h hmatch hkind hpin hbase (P.addr f.dest)
    (P.addr f.dest.other)
  exact establish_agree P.hkdf_total (P.addr_ne_other f.dest).symm halike hroot _ _ _ _ _ _ _

lemma answer_opens (hquiet : ∀ g ∈ s.air, ¬ awaited P s g) {pe : PendingEph}
    (hpe : pe ∈ pending P s f.dest.other) (heph : pe.eph_pub = f.msg.ephemeral_pubkey)
    {resp : KeyExchange}
    (hhandle : handle_ke_envelope P.crypto (P.id f.dest) (s.nodes f.dest) (P.addr f.dest.other)
      f.msg rx = (n, some resp))
    (hpend : n.pending_eph = (s.nodes f.dest).pending_eph)
    (hcomp : Completes P (arrived P s k f rx) f.dest.other pe
      ⟨f.dest.other, resp, some f.msg.ephemeral_pubkey⟩) :
    Open P (arrived P s k f rx) f.dest.other := by
  have hsame := pending_same (P := P) (arrived_nodes (k := k) hhandle)
    (congrArg (pending_eph_lookup · _) hpend)
  have hair := arrived_air (P := P) (k := k) hhandle
  have hnew : ∀ g ∈ (arrived P s k f rx).air,
      g ∈ s.air ∨ g = ⟨f.dest.other, resp, some f.msg.ephemeral_pubkey⟩ := by
    rw [hair]
    intro g hg
    exact (mem_append.1 hg).imp mem_of_mem_eraseIdx mem_singleton.1
  refine ⟨pe, (hsame _).symm ▸ hpe, ⟨⟨_, resp, _⟩, ?_, rfl, congrArg some heph.symm⟩, ?_, ?_⟩
  · rw [hair]
    exact mem_append_right _ (mem_singleton.2 rfl)
  · intro g hg hdest hans
    rcases hnew g hg with hold | rfl
    · exact absurd ⟨pe, hdest.symm ▸ hpe, hans⟩ (hquiet g hold)
    · exact hcomp
  · rw [Side.other_other]
    rintro g hg hdest ⟨pe', hpe', hans⟩
    rw [hsame] at hpe'
    rcases hnew g hg with hold | rfl
    · exact hquiet g hold ⟨pe', hpe', hans⟩
    · exact Side.other_ne f.dest hdest

lemma init_keeps (h : Sound P s) (hph : Phase P s) (hf : s.air[k]? = some f)
    (heph : rx.eph.isSome) (hpin : PinOf (P.id f.dest.other) rx.pinned)
    (hund : Undisturbed P s (.deliver k rx)) (htype : f.msg.ke_type = .INIT)
    (hnone : f.answers = none) (hdrawn : ∃ e, f.msg.ephemeral_pubkey = P.crypto.public_key e)
    (hkind : f.msg.key_id = 0 ∨ ∀ pinned, PinOf (P.id f.dest.other) pinned →
      dm_verify_init P.crypto f.msg (P.id f.dest) (some (P.id f.dest.other).public_key) pinned =
        .ok ()) :
    Sound P (arrived P s k f rx) ∧ Phase P (arrived P s k f rx) := by
  have hsound := h.flights f (mem_of_getElem? hf)
  obtain ⟨r, hr⟩ := isSome_iff_exists.1 heph
  -- the sender's private key is the pending one, if the INIT is taken up
  obtain ⟨e, he, hsender⟩ : ∃ e, f.msg.ephemeral_pubkey = P.crypto.public_key e ∧
      (takes_up P.crypto (P.id f.dest) (s.nodes f.dest) (P.addr f.dest.other) f.msg rx →
        ∃ pe ∈ pending P s f.dest.other,
          pe.eph_pub = f.msg.ephemeral_pubkey ∧ pe.eph_priv = e) := by
    by_cases htake : takes_up P.crypto (P.id f.dest) (s.nodes f.dest) (P.addr f.dest.other) f.msg
        rx
    · obtain ⟨pe, hpe, hpub⟩ := (hund f hf htake).2
      exact ⟨pe.eph_priv, hpub ▸ (h.ephemeral _ pe hpe).1, fun _ => ⟨pe, hpe, hpub, rfl⟩⟩
    · obtain ⟨e, he⟩ := hdrawn
      exact ⟨e, he, fun htrue => absurd htrue htake⟩
  obtain ⟨resp, key, ikm, hbuild, ⟨hrsrc, hrlong, hrid, hrtype⟩, hikm, hikm', hverify⟩ :=
    verify_built_resp P.hkdf_total P.hmac_total P.dh_symmetric (P.id_wf f.dest.other)
      (P.id_wf f.dest) e r hsound.src he hsound.long_term
  have hfirst : dm_verify_init P.crypto f.msg (P.id f.dest) none rx.pinned = .ok () := by
    unfold dm_verify_init
    rw [if_neg (not_not_intro htype), hsound.long_term]
    exact if_neg hpin.matches
  obtain ⟨n, out, hhandle, honly, hpend, hcase⟩ := handle_init_spec P.hkdf_total (h.only f.dest)
    (P.addr_ne_other f.dest) hsound.src htype hfirst ⟨hr, hbuild, hikm⟩
  rcases hcase with ⟨-, rfl, htable⟩ | ⟨htake, rfl, base, hbase, hsess⟩
  · apply ignored_keeps h hph hf hhandle honly htable hpend
    rintro ⟨pe, -, hans⟩
    exact some_ne_none _ (hans.symm.trans hnone)
  · obtain ⟨hquiet, -⟩ := hund f hf htake
    obtain ⟨pe, hpe, hpub, rfl⟩ := hsender htake
    -- no RESP is awaited, so no handshake is open
    have hmatch : Matched P s := by
      rcases hph with ⟨-, hmatch⟩ | ⟨x, pe, hpe, ⟨g, hg, hdest, hans⟩, -⟩
      · exact hmatch
      · exact absurd ⟨pe, hdest.symm ▸ hpe, hans⟩ (hquiet g hg)
    constructor
    · refine h.established hsound hhandle honly ?_ hsess ?_
      · rw [hpend]
        exact fun pe hpe => hpe
      · intro m hm
        rw [← some.inj hm]
        refine ⟨?_, ?_, .inr ⟨hrtype, pe.eph_pub, (h.ephemeral _ pe hpe).2, ?_⟩⟩
        · rw [hrsrc, Side.other_other]
          rfl
        · rw [hrlong, Side.other_other]
        · rw [hpub]
    · right
      have hnodes := arrived_nodes (P := P) (k := k) hhandle
      rw [← (h.ephemeral _ pe hpe).1] at hverify
      exact ⟨f.dest.other, answer_opens hquiet hpe hpub hhandle hpend <|
        answer_completes h hmatch hkind hpin hrid hikm' hverify hbase
          ((session_self hnodes).trans hsess) (session_ne hnodes (Side.other_ne _)) _⟩

end

/-! ## Agreement -/

lemma step_keeps (s : Sys) (e : Event) (h : Sound P s ∧ Phase P s)
    (hstep : Ideal P s e ∧ Undisturbed P s e) : Sound P (step P s e) ∧ Phase P (step P s e) := by
  obtain ⟨hideal, hund⟩ := hstep
  match e with
  | .prepare x now => exact prepare_keeps h.1 h.2 x now
  | .schedule x => exact schedule_keeps h.1 h.2 x
  | .duplicate k => exact duplicate_keeps h.1 h.2 k
  | .initiate x eph => exact initiated_keeps h.1 h.2 x (k := 0) (by decide) eph hideal hund
  | .rekey x i eph =>
    dsimp only [step]
    split
    · exact h
    · next rekey_epoch hi =>
      obtain ⟨hsound, hphase⟩ := dequeue_keeps h.1 h.2 x i
      have hle := h.1.rekeys x rekey_epoch (mem_of_getElem? hi)
      exact initiated_keeps hsound hphase x hle eph hideal hund
  | .deliver k rx =>
    dsimp only [step]
    split
    · exact h
    · next f hf =>
      obtain ⟨heph, hpin, hanswers⟩ := hideal f hf
      rcases (h.1.flights f (mem_of_getElem? hf)).kind with
        ⟨htype, hnone, hdrawn, hkind⟩ | ⟨htype, -⟩
      · exact init_keeps h.1 h.2 hf heph hpin hund htype hnone hdrawn hkind
      · by_cases hawait : awaited P s f
        · exact resp_awaited_keeps h.1 h.2 hf hpin htype hawait
        · have hsrc := (h.1.flights f (mem_of_getElem? hf)).src
          apply ignored_keeps h.1 h.2 hf _ (h.1.only f.dest) rfl rfl hawait
          apply handle_resp_refused (P.addr_ne_other f.dest) hsrc htype
          intro pe key hpe hok
          exact hawait ⟨pe, hpe, hanswers pe hpe (by rw [hok]; rfl)⟩

def Agreed (P : Pair) (s : Sys) : Prop :=
  ∀ a ∈ session P s .A, ∀ b ∈ session P s .B, a.state = .ACTIVE → b.state = .ACTIVE → s.air = [] →
    a.ratchet.rk = b.ratchet.rk ∧ a.ratchet.send.ck = b.ratchet.recv.ck ∧
      b.ratchet.send.ck = a.ratchet.recv.ck
deriving Decidable

lemma Phase.agreed (h : Phase P s) : Agreed P s := by
  intro a ha b hb hact _ hair
  rcases h with ⟨-, hidle | ⟨a', ha', b', hb', hagree⟩⟩ | ⟨x, pe, -, ⟨f, hf, -⟩, -⟩
  · exact absurd hact (hidle .A a ha)
  · rw [mem_unique ha ha', mem_unique hb hb']
    exact ⟨hagree.rk, hagree.send_ck, hagree.recv_ck.symm⟩
  · rw [hair] at hf
    cases hf

/-- **Handshake agreement.** In every run of two honest nodes in which no handshake cuts into
another, the two ends agree whenever both are active and nothing is in flight. -/
theorem handshake_agreement (P : Pair) (es : List Event)
    (hideal : Meets (step P) (Ideal P) .start es)
    (hund : Meets (step P) (Undisturbed P) .start es) : Agreed P (es.foldl (step P) .start) := by
  have hinv := foldl_invariant (I := fun s => Sound P s ∧ Phase P s) (fun s e => step_keeps s e)
    (meets_and.2 ⟨hideal, hund⟩) ⟨sound_start P, phase_start P⟩
  exact hinv.2.agreed

/-! ## Two runs -/

def keyOf (b : UInt8) : Key32 := Vector.replicate 32 b

def sumCrypto : KeCrypto where
  hkdf_sha256 _ ikm _ := some (keyOf (ikm.headD 0))
  hmac_sha256 _ _ := some (keyOf 0)
  x25519_dh a p := some (keyOf (a.get 0 + p.get 0))
  aes256gcm_encrypt _ _ pt _ := some (pt, .zero)
  aes256gcm_decrypt _ _ ct _ _ := some ct
  public_key a := a
  sha256_head a := (a.get 0).toUInt32

def sumPair : Pair where
  crypto := sumCrypto
  id
    | .A => ⟨1, keyOf 1, keyOf 1⟩
    | .B => ⟨2, keyOf 2, keyOf 2⟩
  addr_ne := by decide
  id_wf x := by cases x <;> rfl
  hkdf_total _ _ _ := rfl
  hmac_total _ _ := rfl
  dh_symmetric a b := by
    refine ⟨_, rfl, ?_⟩
    dsimp only [sumCrypto]
    rw [UInt8.add_comm]

def arrives (k : ℕ) (b : UInt8) : Event := .deliver k ⟨100, none, false, true, some (keyOf b)⟩

def first_contact : List Event :=
  [.prepare .A 50, .initiate .A (some (keyOf 10)), .duplicate 0, arrives 0 20, arrives 0 30,
    arrives 0 40]

theorem handshake_agreement_first_contact :
    let s := first_contact.foldl (step sumPair) .start
    (s.air = [] ∧ (session sumPair s .A).map Session.state = some .ACTIVE ∧
      (session sumPair s .B).map Session.state = some .ACTIVE) ∧ Agreed sumPair s :=
  ⟨by decide +kernel, handshake_agreement sumPair first_contact (by decide +kernel)
    (by decide +kernel)⟩

def crossing : List Event :=
  [.initiate .A (some (keyOf 10)), .initiate .B (some (keyOf 20)), arrives 0 30, arrives 0 50,
    arrives 0 0, arrives 0 0]

/-- **Two first contacts that cross leave the nodes with different roots.** -/
theorem crossing_inits_disagree :
    Meets (step sumPair) (Ideal sumPair) .start crossing ∧
      ¬ Agreed sumPair (crossing.foldl (step sumPair) .start) :=
  ⟨by decide +kernel, by decide +kernel⟩

end BrambleMesh.DmAgreement
