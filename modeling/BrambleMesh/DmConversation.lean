/-
A conversation on a session: both ends seal at any time, and each direction arrives in order and
whole.
-/
import BrambleMesh.DmDelivery
import BrambleMesh.DmAgreement

namespace BrambleMesh.DmConversation

open Run DmRatchet DmDelivery Function
open DmAgreement (Side)

/-! ## The machine -/

structure Frame where
  msg : Message
  framed : List UInt8
  tag : Tag16

structure Talk where
  session : Side → Session
  inbox : Side → List Frame
  results : List Bool

def Talk.start (a b : Session) : Talk where
  session
    | .A => a
    | .B => b
  inbox _ := []
  results := []

inductive Event
  | send (x : Side) (m : Message)
  | arrive (x : Side)

def step (C : DmCrypto) (s : Talk) : Event → Talk
  | .send x m =>
    match dm_session_ratchet_encrypt C (s.session x) m.header m.src_addr m.pt m.nonce with
    | none => { s with results := s.results ++ [false] }
    | some (framed, tag, sess) =>
      { s with
        session := update s.session x sess
        inbox := update s.inbox x.other (s.inbox x.other ++ [⟨m, framed, tag⟩]) }
  | .arrive x =>
    match s.inbox x with
    | [] => s
    | f :: rest =>
      let (rc, sess) := dm_session_ratchet_decrypt C (s.session x) f.msg.arrived f.msg.src_addr
        f.msg.nonce f.framed f.tag
      { session := update s.session x sess
        inbox := update s.inbox x rest
        results := s.results ++ [decide (rc = .OK f.msg.pt)] }

def InRange (s : Talk) : Event → Prop
  | .send x m => m.pt.length ≤ 255 ∧ (s.session x).ratchet.send.index.toNat < LIMIT
  | .arrive _ => True

instance (s : Talk) (e : Event) : Decidable (InRange s e) := by
  cases e <;> unfold InRange <;> infer_instance

/-! ## One direction -/

variable {C : DmCrypto}

def Leads (C : DmCrypto) (ck : Key32) (index : UInt16) : List Frame → Key32 → UInt16 → Prop
  | [], ck', index' => ck = ck' ∧ index = index'
  | f :: q, ck', index' =>
    SealedAt C ck index f.msg f.framed f.tag ∧ Leads C (next_ck C ck) (index + 1) q ck' index'

variable {f : Frame} {q : List Frame}

lemma Leads.snoc {ck ck' : Key32} {index index' : UInt16} (h : Leads C ck index q ck' index')
    (hf : SealedAt C ck' index' f.msg f.framed f.tag) :
    Leads C ck index (q ++ [f]) (next_ck C ck') (index' + 1) := by
  induction q generalizing ck index with
  | nil =>
    obtain ⟨rfl, rfl⟩ := h
    exact ⟨hf, rfl, rfl⟩
  | cons g q ih => exact ⟨h.1, ih h.2⟩

def advanced (C : DmCrypto) (c : Chain) : Chain :=
  { c with ck := next_ck C c.ck, index := c.index + 1 }

structure Stream (C : DmCrypto) (recv send : Chain) (q : List Frame) : Prop where
  valid : recv.valid ∧ send.valid
  leads : Leads C recv.ck recv.index q send.ck send.index
  count : recv.index.toNat + q.length = send.index.toNat
  limit : q ≠ [] → send.index.toNat ≤ LIMIT

lemma next_index {c : Chain} (h : c.index.toNat < LIMIT) :
    (advanced C c).index.toNat = c.index.toNat + 1 := by
  unfold advanced
  rw [UInt16.toNat_add]
  have h1 : (1 : UInt16).toNat = 1 := by decide
  have hlimit : LIMIT = 65520 := rfl
  omega

lemma Stream.sent {recv send : Chain} (h : Stream C recv send q)
    (hf : SealedAt C send.ck send.index f.msg f.framed f.tag) (hk : send.index.toNat < LIMIT) :
    Stream C recv (advanced C send) (q ++ [f]) := by
  have hindex := next_index (C := C) hk
  refine ⟨h.valid, h.leads.snoc hf, ?_, ?_⟩
  · have hcount := h.count
    rw [List.length_append, List.length_singleton]
    omega
  · intro _
    omega

lemma Stream.arrived {recv send : Chain} (h : Stream C recv send (f :: q)) :
    recv.index.toNat < LIMIT ∧ SealedAt C recv.ck recv.index f.msg f.framed f.tag ∧
      Stream C (advanced C recv) send q := by
  have hcount := h.count
  have hlimit := h.limit (List.cons_ne_nil f q)
  rw [List.length_cons] at hcount
  have hk : recv.index.toNat < LIMIT := by omega
  have hindex := next_index (C := C) hk
  refine ⟨hk, h.leads.1, h.valid, h.leads.2, ?_, fun _ => hlimit⟩
  omega

/-! ## Both directions -/

structure Flows (C : DmCrypto) (s : Talk) : Prop where
  stream : ∀ x : Side, Stream C (s.session x).ratchet.recv (s.session x.other).ratchet.send
    (s.inbox x)
  good : ∀ r ∈ s.results, r

lemma flows_start {a b : Session}
    (hvalid : (a.ratchet.send.valid ∧ b.ratchet.send.valid) ∧
      a.ratchet.recv.valid ∧ b.ratchet.recv.valid)
    (hab : a.ratchet.send.ck = b.ratchet.recv.ck ∧ a.ratchet.send.index = b.ratchet.recv.index)
    (hba : b.ratchet.send.ck = a.ratchet.recv.ck ∧ b.ratchet.send.index = a.ratchet.recv.index) :
    Flows C (.start a b) := by
  refine ⟨fun x => ?_, fun r hr => absurd hr List.not_mem_nil⟩
  match x with
  | .A =>
    exact ⟨⟨hvalid.2.1, hvalid.1.2⟩, ⟨hba.1.symm, hba.2.symm⟩,
      congrArg UInt16.toNat hba.2.symm, fun h => absurd rfl h⟩
  | .B =>
    exact ⟨⟨hvalid.2.2, hvalid.1.1⟩, ⟨hab.1.symm, hab.2.symm⟩,
      congrArg UInt16.toNat hab.2.symm, fun h => absurd rfl h⟩

lemma flows_send (hC : C.HkdfTotal) (hG : C.GcmCorrect) {s : Talk} (h : Flows C s) {x : Side}
    {m : Message} (hm : InRange s (.send x m)) : Flows C (step C s (.send x m)) := by
  have hstream := h.stream x.other
  rw [Side.other_other] at hstream
  obtain ⟨framed, tag, henc, hsealed⟩ := encrypt_sealedAt hC hG hstream.valid.2 m hm.1
  unfold step
  dsimp only
  rw [henc]
  refine ⟨fun y => ?_, h.good⟩
  dsimp only
  rcases Side.eq_or_eq_other x y with rfl | rfl
  · -- the other direction: sealing does not touch the receive chain
    rw [update_self, update_of_ne (Side.other_ne y),
      update_of_ne (Side.other_ne y).symm]
    exact h.stream y
  · rw [Side.other_other, update_self, update_of_ne (Side.other_ne x),
      update_self]
    exact hstream.sent hsealed hm.2

lemma flows_arrive (hC : C.HkdfTotal) {s : Talk} (h : Flows C s) (x : Side) :
    Flows C (step C s (.arrive x)) := by
  unfold step
  dsimp only
  match hin : s.inbox x with
  | [] => exact h
  | f :: rest =>
    have hstream := h.stream x
    rw [hin] at hstream
    obtain ⟨hk, hsealed, hrest⟩ := hstream.arrived
    obtain ⟨sess, hopen, hrecv, hsend, -⟩ := decrypt_at_cursor hC hstream.valid.1 hk hsealed
    dsimp only
    rw [hopen]
    refine ⟨fun y => ?_, ?_⟩
    · dsimp only
      rcases Side.eq_or_eq_other x y with rfl | rfl
      · rw [update_self, update_self, update_of_ne (Side.other_ne y),
          hrecv]
        exact hrest
      · -- the other direction: opening does not touch the send chain
        rw [Side.other_other, update_self, update_of_ne (Side.other_ne x),
          update_of_ne (Side.other_ne x), hsend]
        have hother := h.stream x.other
        rw [Side.other_other] at hother
        exact hother
    · intro r hr
      rcases List.mem_append.1 hr with hr | hr
      · exact h.good r hr
      · rw [List.mem_singleton.1 hr, decide_eq_true_eq]

/-- **Every message of a conversation is opened as it arrives**, as long as their indices stay
in range. -/
theorem conversation_flows (hC : C.HkdfTotal) (hG : C.GcmCorrect) {s : Talk} (h : Flows C s)
    {es : List Event} (hes : Meets (step C) InRange s es) : Flows C (es.foldl (step C) s) := by
  apply foldl_invariant (I := Flows C) _ hes h
  intro s e hs he
  match e with
  | .send x m => exact flows_send hC hG hs he
  | .arrive x => exact flows_arrive hC hs x

/-- **A conversation loses nothing.** However sending and arrival alternate at the two ends, each
frame that arrives opens to its message, and the receiver's cursor and the frames still in flight
add up to the sender's. -/
theorem fresh_conversation (C : DmCrypto) (hC : C.HkdfTotal) (hG : C.GcmCorrect) (sA sB : Session)
    (ikm : Ikm) (addrA addrB : UInt32) (hne : addrA ≠ addrB) (es : List Event) :
    let s := Talk.start (dm_session_ratchet_init_state C sA ikm addrA addrB).2
      (dm_session_ratchet_init_state C sB ikm addrB addrA).2
    let s' := es.foldl (step C) s
    Meets (step C) InRange s es → (∀ r ∈ s'.results, r) ∧
      ∀ x : Side, (s'.session x).ratchet.recv.index.toNat + (s'.inbox x).length =
        (s'.session x.other).ratchet.send.index.toNat := by
  intro s s' hes
  have hab := Lockstep.init hC sA sB ikm hne
  have hba := Lockstep.init hC sB sA ikm hne.symm
  have hstart : Flows C s := flows_start ⟨⟨hab.send_valid, hba.send_valid⟩, hba.recv_valid,
    hab.recv_valid⟩ ⟨hab.ck, hab.index⟩ ⟨hba.ck, hba.index⟩
  have hflows := conversation_flows hC hG hstart hes
  exact ⟨hflows.good, fun x => (hflows.stream x).count⟩

theorem fresh_conversation_crossing :
    let es := [.send .A oneByte, .send .B oneByte, .arrive .A, .send .A oneByte, .arrive .B]
    let ikm := Vector.replicate 128 0
    let s := Talk.start (dm_session_ratchet_init_state copyCrypto .zero ikm 1 2).2
      (dm_session_ratchet_init_state copyCrypto .zero ikm 2 1).2
    ∀ r ∈ (es.foldl (step copyCrypto) s).results, r :=
  (fresh_conversation copyCrypto copyCrypto_hkdfTotal copyCrypto_gcmCorrect .zero .zero
    (Vector.replicate 128 0) 1 2 (by decide) _ (by decide +kernel)).1

end BrambleMesh.DmConversation
