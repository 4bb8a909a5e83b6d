/-
Direct messages that fail on the sender's side: `send_dm_packet` of main/mesh_dm.c. Every failure
after the sealing leaves a gap of one in the indices that the peer sees.
-/
import BrambleMesh.DmDelivery

namespace BrambleMesh.DmSendFailures

open DmRatchet DmDelivery Function List

/-! ## Sending -/

abbrev BRAMBLE_DATA_ENVELOPE_PREFIX_SIZE : ℕ := 28

def total_size (payload_len : ℕ) : ℕ :=
  BRAMBLE_DATA_ENVELOPE_PREFIX_SIZE + 12 + 3 + payload_len + 16

structure Attempt where
  msg : Message
  nonce_ok : Bool
  sign_ok : Bool
  tx_ok : Bool

def send_dm_packet (C : DmCrypto) (sess : Session) (x : Attempt) :
    Session × Option (List UInt8 × Tag16) :=
  if total_size x.msg.pt.length > 255 then (sess, none)
  else if !x.nonce_ok then (sess, none)
  else
    match dm_session_ratchet_encrypt C sess x.msg.header x.msg.src_addr x.msg.pt x.msg.nonce with
    | none => (sess, none)
    | some (framed, tag, sess') =>
      -- the chain has moved on; nothing below takes that back
      if !x.sign_ok then (sess', none)
      else if x.tx_ok then (sess', some (framed, tag))
      else (sess', none)

def talk (C : DmCrypto) : Session → Session → List Attempt → List (Option DecryptResult)
  | _, _, [] => []
  | a, b, x :: xs =>
    match send_dm_packet C a x with
    | (a', none) => none :: talk C a' b xs
    | (a', some (framed, tag)) =>
      let (rc, b') :=
        dm_session_ratchet_decrypt C b x.msg.arrived x.msg.src_addr x.msg.nonce framed tag
      some rc :: talk C a' b' xs

/-! ## What is wanted -/

def Attempt.seals (x : Attempt) : Bool := decide (total_size x.msg.pt.length ≤ 255) && x.nonce_ok

def Attempt.transmitted (x : Attempt) : Bool := x.seals && (x.sign_ok && x.tx_ok)

def opened (xs : List Attempt) : List (Option DecryptResult) :=
  xs.map fun x => if x.transmitted then some (.OK x.msg.pt) else none

structure Agree (a b : Session) : Prop where
  active : a.state = .ACTIVE ∧ b.state = .ACTIVE
  valid : a.ratchet.send.valid ∧ b.ratchet.recv.valid
  ck : a.ratchet.send.ck = b.ratchet.recv.ck
  index : a.ratchet.send.index = b.ratchet.recv.index

def Close : ℕ → List Attempt → Prop
  | _, [] => True
  | d, x :: xs =>
    if x.transmitted then d ≤ DM_MAX_SKIP ∧ Close 0 xs
    else if x.seals then Close (d + 1) xs
    else Close d xs

instance decidableClose : (d : ℕ) → (xs : List Attempt) → Decidable (Close d xs)
  | _, [] => .isTrue trivial
  | d, x :: xs =>
    have := decidableClose 0 xs
    have := decidableClose (d + 1) xs
    have := decidableClose d xs
    inferInstanceAs (Decidable (if x.transmitted then d ≤ DM_MAX_SKIP ∧ Close 0 xs
      else if x.seals then Close (d + 1) xs else Close d xs))

/-! ## The gap between the chains -/

structure Ahead (C : DmCrypto) (a b : Session) (d k : ℕ) : Prop where
  valid : a.ratchet.send.valid ∧ b.ratchet.recv.valid
  ck : a.ratchet.send.ck = (next_ck C)^[d] b.ratchet.recv.ck
  index : a.ratchet.send.index = b.ratchet.recv.index + UInt16.ofNat d
  cursor : b.ratchet.recv.index.toNat = k

variable {C : DmCrypto} {a b : Session} {d k : ℕ} {x : Attempt}

lemma Agree.ahead (h : Agree a b) : Ahead C a b 0 b.ratchet.recv.index.toNat :=
  ⟨h.valid, h.ck, h.index.trans (UInt16.add_zero _).symm, rfl⟩

lemma send_dm_packet_unsealed (a : Session) (h : x.seals = false) :
    send_dm_packet C a x = (a, none) := by
  unfold send_dm_packet
  by_cases hsize : total_size x.msg.pt.length > 255
  · rw [if_pos hsize]
  · have hnonce : x.nonce_ok = false := by
      simpa [Attempt.seals, Nat.not_lt.1 hsize] using h
    rw [if_neg hsize, hnonce]
    rfl

lemma send_dm_packet_sealed (hC : C.HkdfTotal) (hG : C.GcmCorrect)
    (hvalid : a.ratchet.send.valid) (h : x.seals) :
    ∃ ct tag, send_dm_packet C a x =
        (sealed C a, if x.transmitted then
          some (ratchet_header a.ratchet.send.epoch a.ratchet.send.index ++ ct, tag) else none) ∧
      SealedAt C a.ratchet.send.ck a.ratchet.send.index x.msg
        (ratchet_header a.ratchet.send.epoch a.ratchet.send.index ++ ct) tag := by
  obtain ⟨hsize, hnonce⟩ : total_size x.msg.pt.length ≤ 255 ∧ x.nonce_ok := by
    simpa [Attempt.seals] using h
  have hlen : x.msg.pt.length ≤ 255 := by
    unfold total_size at hsize
    omega
  obtain ⟨ct, tag, henc, hdec⟩ :=
    encrypt_spec hC hG a x.msg.header x.msg.src_addr x.msg.pt x.msg.nonce hvalid hlen
  refine ⟨ct, tag, ?_, _, ct, rfl, hdec⟩
  unfold send_dm_packet
  rw [if_neg (Nat.not_lt.2 hsize), hnonce, if_neg (by decide), henc]
  rw [Attempt.transmitted, h, Bool.true_and]
  rcases x.sign_ok with _ | _ <;> rcases x.tx_ok with _ | _ <;> rfl

lemma Ahead.lost (h : Ahead C a b d k) : Ahead C (sealed C a) b (d + 1) k where
  valid := h.valid
  ck := by
    rw [iterate_succ_apply', ← h.ck]
    rfl
  index := by
    have hnext : UInt16.ofNat (d + 1) = UInt16.ofNat d + 1 := UInt16.ofNat_add d 1
    rw [hnext, ← UInt16.add_assoc, ← h.index]
    rfl
  cursor := h.cursor

lemma Ahead.arrives (hC : C.HkdfTotal) (h : Ahead C a b d k) (hd : d ≤ DM_MAX_SKIP)
    (hk : k + d < LIMIT) {framed : List UInt8} {tag : Tag16} {m : Message}
    (hs : SealedAt C a.ratchet.send.ck a.ratchet.send.index m framed tag) :
    ∃ b', dm_session_ratchet_decrypt C b m.arrived m.src_addr m.nonce framed tag =
        (.OK m.pt, b') ∧ Ahead C (sealed C a) b' 0 (k + d + 1) ∧
      (b.ratchet.prev_recv.valid = false → b'.ratchet.prev_recv.valid = false) := by
  rw [h.ck, h.index] at hs
  obtain ⟨b', hopen, hrecv, -, hprev⟩ :=
    decrypt_ahead hC h.valid.2 hd (by rw [h.cursor]; omega) hs
  refine ⟨b', hopen, ⟨?_, ?_, ?_, ?_⟩, ?_⟩
  · rw [hrecv]
    exact h.valid
  · rw [hrecv, iterate_zero_apply]
    rw [iterate_succ_apply', ← h.ck]
    rfl
  · rw [hrecv]
    rw [← h.index]
    exact (UInt16.add_zero _).symm
  · rw [hrecv]
    rw [UInt16.toNat_add, UInt16.toNat_add, h.cursor, UInt16.toNat_ofNat']
    have h1 : (1 : UInt16).toNat = 1 := by decide
    have hlimit : LIMIT = 65520 := rfl
    omega
  · intro hnone
    rcases hprev with hprev | hprev
    · rw [hprev]
      exact hnone
    · rw [hprev]
      rfl

lemma Ahead.refused (h : Ahead C a b d k) (hd : DM_MAX_SKIP < d) (hk : k + d < LIMIT)
    (hprev : b.ratchet.prev_recv.valid = false) (header : Header) (src_addr : UInt32)
    (nonce : Nonce) (ct : List UInt8) (tag : Tag16) :
    ∃ rc, rc.accepted = false ∧
      dm_session_ratchet_decrypt C b header src_addr nonce
        (ratchet_header a.ratchet.send.epoch a.ratchet.send.index ++ ct) tag = (rc, b) := by
  have hlimit : LIMIT = 65520 := rfl
  have hmax : DM_MAX_SKIP = 16 := rfl
  have hindex : a.ratchet.send.index.toNat = k + d := by
    rw [h.index, UInt16.toNat_add, h.cursor, UInt16.toNat_ofNat']
    omega
  apply decrypt_beyond h.valid.2 hprev
  · rw [UInt16.lt_iff_toNat_lt, hindex, h.cursor]
    omega
  · rw [gt_iff_lt, UInt16.lt_iff_toNat_lt, hindex, UInt16.toNat_add, h.cursor]
    have h16 : (16 : UInt16).toNat = 16 := by decide
    omega

/-! ## Whole runs -/

def sealedCount (xs : List Attempt) : ℕ := (xs.filter Attempt.seals).length

lemma sealedCount_cons (x : Attempt) (xs : List Attempt) :
    sealedCount (x :: xs) = (if x.seals then 1 else 0) + sealedCount xs := by
  unfold sealedCount
  rw [filter_cons]
  split_ifs
  · rw [length_cons, Nat.add_comm]
  · rw [Nat.zero_add]

lemma talk_opened_iff (hC : C.HkdfTotal) (hG : C.GcmCorrect) (xs : List Attempt) :
    ∀ (a b : Session) (d k : ℕ), Ahead C a b d k → k + d + sealedCount xs ≤ LIMIT →
      (Close d xs → talk C a b xs = opened xs) ∧
        (b.ratchet.prev_recv.valid = false → talk C a b xs = opened xs → Close d xs) := by
  induction xs with
  | nil => exact fun a b d k _ _ => ⟨fun _ => rfl, fun _ _ => trivial⟩
  | cons x xs ih =>
    intro a b d k h hk
    rw [sealedCount_cons] at hk
    by_cases hseals : x.seals
    · rw [if_pos hseals] at hk
      obtain ⟨ct, tag, hsend, hsealed⟩ := send_dm_packet_sealed hC hG h.valid.1 hseals
      by_cases hout : x.transmitted
      · -- the frame goes out: it is opened within the limit and refused beyond it
        rw [if_pos hout] at hsend
        rw [Close, if_pos hout, talk, hsend, opened, map_cons, if_pos hout]
        dsimp only
        by_cases hd : d ≤ DM_MAX_SKIP
        · obtain ⟨b', hopen, hnext, hnone⟩ := h.arrives hC hd (by omega) hsealed
          obtain ⟨hgood, hbad⟩ := ih (sealed C a) b' 0 (k + d + 1) hnext (by omega)
          rw [hopen]
          exact ⟨fun hclose => congrArg _ (hgood hclose.2),
            fun hprev heq => ⟨hd, hbad (hnone hprev) (cons.inj heq).2⟩⟩
        · refine ⟨fun hclose => absurd hclose.1 hd, fun hprev heq => ?_⟩
          obtain ⟨rc, hrc, hmiss⟩ := h.refused (Nat.lt_of_not_le hd) (by omega) hprev x.msg.arrived
            x.msg.src_addr x.msg.nonce ct tag
          rw [hmiss] at heq
          obtain rfl : rc = .OK x.msg.pt := Option.some.inj (cons.inj heq).1
          cases hrc
      · rw [if_neg hout] at hsend
        rw [Close, if_neg hout, if_pos hseals, talk, hsend, opened, map_cons, if_neg hout]
        obtain ⟨hgood, hbad⟩ := ih (sealed C a) b (d + 1) k h.lost (by omega)
        exact ⟨fun hclose => congrArg _ (hgood hclose),
          fun hprev heq => hbad hprev (cons.inj heq).2⟩
    · have hout : ¬ x.transmitted := by
        rw [Attempt.transmitted, Bool.eq_false_iff.2 hseals, Bool.false_and]
        exact Bool.false_ne_true
      rw [if_neg hseals, Nat.zero_add] at hk
      rw [Close, if_neg hout, if_neg hseals, talk,
        send_dm_packet_unsealed a (Bool.eq_false_iff.2 hseals), opened, map_cons, if_neg hout]
      obtain ⟨hgood, hbad⟩ := ih a b d k h hk
      exact ⟨fun hclose => congrArg _ (hgood hclose),
        fun hprev heq => hbad hprev (cons.inj heq).2⟩

/-- **Up to sixteen failures in a row are made up for.** Every frame that goes out is opened if
none goes out after more than sixteen sends in a row that failed after their encryption, and only
then where the receiver keeps no previous epoch. -/
theorem transmitted_opened (C : DmCrypto) (hC : C.HkdfTotal) (hG : C.GcmCorrect) (a b : Session)
    (hagree : Agree a b) (xs : List Attempt)
    (hlimit : a.ratchet.send.index.toNat + sealedCount xs ≤ LIMIT) :
    (Close 0 xs → talk C a b xs = opened xs) ∧
      (b.ratchet.prev_recv.valid = false → talk C a b xs = opened xs → Close 0 xs) := by
  rw [hagree.index] at hlimit
  exact talk_opened_iff hC hG xs a b 0 _ hagree.ahead hlimit

/-! ## Concrete sessions -/

def active (addr_self addr_peer : UInt32) : Session :=
  { (dm_session_ratchet_init_state copyCrypto .zero (Vector.replicate 128 0) addr_self
      addr_peer).2 with
    state := .ACTIVE }

def goesOut : Attempt := ⟨oneByte, true, true, true⟩

def denied : Attempt := ⟨oneByte, true, true, false⟩

lemma active_agree : Agree (active 1 2) (active 2 1) := by
  constructor <;> decide

theorem transmitted_opened_sixteen :
    talk copyCrypto (active 1 2) (active 2 1) (List.replicate 16 denied ++ [goesOut]) =
      opened (List.replicate 16 denied ++ [goesOut]) := by
  have hlimit : (active 1 2).ratchet.send.index.toNat +
      sealedCount (replicate 16 denied ++ [goesOut]) ≤ LIMIT := by decide
  have hclose : Close 0 (replicate 16 denied ++ [goesOut]) := by decide
  exact (transmitted_opened copyCrypto copyCrypto_hkdfTotal copyCrypto_gcmCorrect _ _ active_agree
    _ hlimit).1 hclose

/-- **Seventeen denied sends desynchronise the session**: the frames that go out after them are
refused as too far ahead, one like the other. -/
theorem seventeen_failures_desynchronise :
    copyCrypto.HkdfTotal ∧ copyCrypto.GcmCorrect ∧ Agree (active 1 2) (active 2 1) ∧
      talk copyCrypto (active 1 2) (active 2 1)
          (List.replicate 17 denied ++ [goesOut, goesOut]) =
        List.replicate 17 none ++ [some .TOO_FAR, some .TOO_FAR] :=
  ⟨copyCrypto_hkdfTotal, copyCrypto_gcmCorrect, active_agree, by decide +kernel⟩

end BrambleMesh.DmSendFailures
