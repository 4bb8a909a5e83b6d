/-
A rekey with frames of both epochs under way. The measure is the receiver that never bumped and is
offered the same frames: until 16 frames of the new epoch are accepted, the retained chain and
cache are that receiver's (`Grace`).
-/
import BrambleMesh.DmOutOfOrder

namespace BrambleMesh.DmEpochGrace

open Bytes DmRatchet DmReceive DmOutOfOrder DirectCache List

/-! ## The grace counter -/

section

variable {r : Ratchet} {n : ℕ}

lemma count_grace_kept (hvalid : r.prev_recv.valid)
    (hmsgs : r.new_epoch_msgs.toNat = n) (hn : n + 1 < 16) :
    (count_grace r).prev_recv = r.prev_recv ∧ (count_grace r).prev_skip = r.prev_skip ∧
      (count_grace r).new_epoch_msgs.toNat = n + 1 := by
  have hnext : (r.new_epoch_msgs + 1).toNat = n + 1 := by
    rw [UInt16.toNat_add, show (1 : UInt16).toNat = 1 from rfl]
    omega
  have hfull : r.new_epoch_msgs < 0xFFFF := by
    rw [UInt16.lt_iff_toNat_lt, show (0xFFFF : UInt16).toNat = 65535 from rfl]
    omega
  have hopen : ¬ r.new_epoch_msgs + 1 ≥ DM_EPOCH_GRACE_MSGS := by
    rw [ge_iff_le, UInt16.le_iff_toNat_le, show DM_EPOCH_GRACE_MSGS.toNat = 16 from rfl]
    omega
  unfold count_grace
  rw [if_pos hvalid, if_pos hfull, if_neg hopen]
  exact ⟨rfl, rfl, hnext⟩

lemma count_grace_closed (hvalid : r.prev_recv.valid = false) : count_grace r = r := by
  unfold count_grace
  rw [if_neg (by rw [hvalid]; exact Bool.false_ne_true)]

end

/-! ## The two receivers -/

def taken_count (es : List Event) : ℕ :=
  es.countP fun | .taken _ => true | .parked _ => false

section

variable {C : DmCrypto} {sent sent' : List (Frame × List UInt8)} {b b' : Session}
  {l old new : History} {d : Frame}

lemma taken_count_step :
    taken_count (History.step C sent l d).events = taken_count l.events +
      if (receive C l.session d).1.accepted && genuine sent d.index d then 1 else 0 := by
  have hparked : ∀ c m, taken_count (park_from c m) = 0 := by
    intro c m
    rw [taken_count, countP_eq_zero]
    intro e he
    cases e with
    | parked i => exact Bool.false_ne_true
    | taken i => exact absurd he (taken_not_mem_park_from i c m)
  unfold History.step
  have hsum : ∀ es es', taken_count (es ++ es') = taken_count es + taken_count es' :=
    fun _ _ => countP_append
  rw [hsum, hsum, hparked, Nat.zero_add, Nat.add_comm]
  split_ifs <;> rfl

lemma walk_genuine (hC : C.HkdfTotal) (h : Inv C sent b l) (hlt : sent.length < 65500)
    (hd : IdealGcm C sent b d)
    (hacc : (walk C l.session.ratchet.recv l.session.ratchet.skip d).1.accepted) :
    genuine sent d.index d := by
  obtain ⟨hmiss, -⟩ | ⟨i, pt, -, hused, hindex, hopen, -⟩ |
      ⟨m, pt, index, hindex, hm, -, hopen, -⟩ :=
    walk_cases hC l.session.ratchet.recv l.session.ratchet.skip d
  · rw [hmiss] at hacc
    cases hacc
  · exact (h.straggler_genuine hlt hd hused hindex hopen).1
  · exact (h.ahead_genuine hd hindex hm hopen).1

lemma walk_missed (hC : C.HkdfTotal) {chain : Chain} {skip : Skip}
    (hmiss : (walk C chain skip d).1.accepted = false) :
    (walk C chain skip d).2 = (chain, skip) := by
  obtain ⟨-, hsame⟩ | ⟨i, pt, -, -, -, -, hwalk⟩ | ⟨m, pt, index, -, -, -, -, hwalk⟩ :=
    walk_cases hC chain skip d
  · exact hsame
  all_goals
    rw [hwalk] at hmiss
    cases hmiss

lemma received_chain (hC : C.HkdfTotal) (s : Session) (hvalid : s.ratchet.recv.valid)
    (d : Frame) :
    ((receive C s d).2.ratchet.recv, (receive C s d).2.ratchet.skip) =
      (walk C s.ratchet.recv s.ratchet.skip d).2 := by
  have htried := receive_tried hC s hvalid d
  generalize receive C s d = out at htried
  obtain ⟨rc, s'⟩ := out
  cases htried with
  | current pt chain skip hwalk =>
    obtain ⟨hrecv, hskip, -⟩ := count_grace_frame { s.ratchet with recv := chain, skip := skip }
    rw [hwalk, hrecv, hskip]
  | previous _ _ _ hmiss _ _ | refused _ _ hmiss _ => rw [walk_missed hC hmiss]

structure IdealTwice (C : DmCrypto) (sent sent' : List (Frame × List UInt8)) (b b' : Session)
    (d : Frame) : Prop where
  old : IdealGcm C sent b d
  new : IdealGcm C sent' b' d
  apart : ∀ i j, genuine sent i d = true → genuine sent' j d = false

structure Grace (C : DmCrypto) (sent sent' : List (Frame × List UInt8)) (b b' : Session)
    (old new : History) : Prop where
  old_inv : Inv C sent b old
  new_inv : Inv C sent' b' new
  kept : taken_count new.events < 16 →
    new.session.ratchet.prev_recv = old.session.ratchet.recv ∧
      new.session.ratchet.prev_skip = old.session.ratchet.skip ∧
      new.session.ratchet.new_epoch_msgs.toNat = taken_count new.events
  wiped : 16 ≤ taken_count new.events →
    new.session.ratchet.prev_recv = .zero ∧ new.session.ratchet.prev_skip = fun _ => .zero

section

variable (hC : C.HkdfTotal) (h : Grace C sent sent' b b' old new)
  (hlt' : sent'.length < 65500) (hlt : sent.length < 65500)
  (hd : IdealTwice C sent sent' b b' d)
include h

lemma Grace.valid_iff :
    new.session.ratchet.prev_recv.valid ↔ taken_count new.events < 16 := by
  constructor
  · intro hvalid
    by_contra hge
    rw [(h.wiped (Nat.not_lt.1 hge)).1] at hvalid
    cases hvalid
  · intro hn
    rw [(h.kept hn).1]
    exact h.old_inv.valid

lemma Grace.retained (hvalid : new.session.ratchet.prev_recv.valid) (d : Frame) :
    walk C new.session.ratchet.prev_recv new.session.ratchet.prev_skip d =
      walk C old.session.ratchet.recv old.session.ratchet.skip d := by
  obtain ⟨hrecv, hskip, -⟩ := h.kept (h.valid_iff.1 hvalid)
  rw [hrecv, hskip]

include hC hlt' hd

lemma Grace.forgotten (hn : 16 ≤ taken_count new.events) {i : ℕ}
    (hgen : genuine sent i d = true) : (receive C new.session d).1.accepted = false := by
  have htried := receive_tried hC new.session h.new_inv.valid d
  generalize receive C new.session d = out at htried ⊢
  obtain ⟨rc, s'⟩ := out
  cases htried with
  | current _ _ _ hwalk =>
    have hgen' := walk_genuine hC h.new_inv hlt' hd.new (by rw [hwalk]; rfl)
    rw [hd.apart i _ hgen] at hgen'
    cases hgen'
  | previous _ _ _ _ hvalid _ => exact absurd (h.valid_iff.1 hvalid) (Nat.not_lt.2 hn)
  | refused _ hrc _ _ => exact hrc

include hlt

lemma Grace.old_missed
    (hacc : (walk C new.session.ratchet.recv new.session.ratchet.skip d).1.accepted) :
    (walk C old.session.ratchet.recv old.session.ratchet.skip d).1.accepted = false := by
  by_contra hold
  have hgen := walk_genuine hC h.old_inv hlt hd.old (Bool.not_eq_false _ ▸ hold)
  have hgen' := walk_genuine hC h.new_inv hlt' hd.new hacc
  rw [hd.apart _ _ hgen] at hgen'
  cases hgen'

lemma Grace.step :
    Grace C sent sent' b b' (History.step C sent old d) (History.step C sent' new d) := by
  have hchain := received_chain hC old.session h.old_inv.valid d
  have htried := receive_tried hC new.session h.new_inv.valid d
  have hcount := @taken_count_step C sent' new d
  have hsession : (History.step C sent' new d).session = (receive C new.session d).2 := rfl
  have hold : (History.step C sent old d).session = (receive C old.session d).2 := rfl
  suffices hgrace : (taken_count (History.step C sent' new d).events < 16 → _) ∧ (_ → _) from
    ⟨h.old_inv.step hC hlt hd.old, h.new_inv.step hC hlt' hd.new, hgrace.1, hgrace.2⟩
  rw [hcount, hsession, hold]
  generalize receive C new.session d = out' at htried ⊢
  obtain ⟨rc, s'⟩ := out'
  cases htried with
  | current pt chain skip hwalk =>
    have hacc : (walk C new.session.ratchet.recv new.session.ratchet.skip d).1.accepted := by
      rw [hwalk]
      rfl
    have hgen := walk_genuine hC h.new_inv hlt' hd.new hacc
    rw [walk_missed hC (h.old_missed hC hlt' hlt hd hacc)] at hchain
    obtain ⟨hrecv, hskip⟩ := Prod.mk.inj hchain
    rw [hgen, hrecv, hskip]
    constructor
    · intro hn
      obtain ⟨hrecv', hskip', hmsgs⟩ := h.kept (Nat.lt_of_succ_lt hn)
      obtain ⟨hr, hs, hm⟩ := count_grace_kept
        (r := { new.session.ratchet with recv := chain, skip := skip })
        (h.valid_iff.2 (Nat.lt_of_succ_lt hn)) hmsgs hn
      exact ⟨hr.trans hrecv', hs.trans hskip', hm⟩
    · intro hn
      rcases Nat.lt_or_ge (taken_count new.events) 16 with hopen | hclosed
      · -- the sixteenth frame of the new epoch
        have hmsgs : new.session.ratchet.new_epoch_msgs.toNat = 15 :=
          (h.kept hopen).2.2.trans (by
            have hge : 15 ≤ taken_count new.events := Nat.le_of_succ_le_succ hn
            omega)
        have h15 : new.session.ratchet.new_epoch_msgs = 15 := UInt16.toNat_inj.1 hmsgs
        rw [count_grace, if_pos (h.valid_iff.2 hopen), h15]
        exact ⟨rfl, rfl⟩
      · have hclose : new.session.ratchet.prev_recv.valid = false :=
          Bool.eq_false_iff.2 fun hvalid => absurd (h.valid_iff.1 hvalid) (Nat.not_lt.2 hclosed)
        rw [count_grace_closed
          (r := { new.session.ratchet with recv := chain, skip := skip }) hclose]
        exact h.wiped hclosed
  | previous pt chain skip hmiss hvalid hwalk =>
    rw [h.retained hvalid] at hwalk
    have hgen := walk_genuine hC h.old_inv hlt hd.old (by rw [hwalk]; rfl)
    rw [hwalk] at hchain
    obtain ⟨hrecv, hskip⟩ := Prod.mk.inj hchain
    rw [hd.apart _ _ hgen, hrecv, hskip]
    have hn := h.valid_iff.1 hvalid
    exact ⟨fun _ => ⟨rfl, rfl, (h.kept hn).2.2⟩, fun hge => absurd hn (Nat.not_lt.2 hge)⟩
  | refused _ hrc hmiss hprev =>
    rw [hrc]
    refine ⟨fun hn => ?_, h.wiped⟩
    have hvalid := h.valid_iff.2 hn
    rw [h.retained hvalid] at hprev
    rw [walk_missed hC (hprev hvalid)] at hchain
    obtain ⟨hrecv, hskip⟩ := Prod.mk.inj hchain
    rw [hrecv, hskip]
    exact h.kept hn

lemma Grace.old_verdict (hn : taken_count new.events < 16) {i : ℕ}
    (hgen : genuine sent i d) (hindex : d.index = i) {pt : List UInt8}
    (hopen : opens C (epoch_key C b.ratchet.recv.ck i) d = some pt) :
    ((receive C new.session d).1.accepted → (receive C new.session d).1 = .OK pt) ∧
    ((receive C new.session d).1.accepted ↔
      cursor old.session ≤ i ∧ i ≤ cursor old.session + 16 ∨
        i < cursor old.session ∧ Waiting DM_MAX_SKIP old.events i) := by
  have hvalid := h.valid_iff.2 hn
  have htried := receive_tried hC new.session h.new_inv.valid d
  generalize receive C new.session d = out at htried ⊢
  obtain ⟨rc, s'⟩ := out
  cases htried with
  | current pt' _ _ hwalk =>
    -- a frame of the old epoch is not opened on the new chain
    have hgen' := walk_genuine hC h.new_inv hlt' hd.new (by rw [hwalk]; rfl)
    rw [hd.apart i _ hgen] at hgen'
    cases hgen'
  | previous pt' _ _ _ _ hwalk =>
    rw [h.retained hvalid] at hwalk
    have hold := receive_of_walk hC h.old_inv.valid (congrArg Prod.fst hwalk)
    obtain ⟨⟨pt₀, hpt₀, hopen₀⟩, hreach⟩ :=
      reach_of_accepted hC h.old_inv hlt hd.old hgen hindex (by rw [hold]; rfl)
    rw [hold] at hpt₀
    rw [hopen, ← DecryptResult.OK.inj hpt₀] at hopen₀
    exact ⟨fun _ => by rw [Option.some.inj hopen₀], ⟨fun _ => hreach, fun _ => rfl⟩⟩
  | refused _ hrc _ hprev =>
    refine ⟨fun hacc => ?_, ⟨fun hacc => ?_, fun hreach => ?_⟩⟩
    · rw [hrc] at hacc
      cases hacc
    · rw [hrc] at hacc
      cases hacc
    · -- what the receiver that never bumped takes, the second attempt takes
      have hmiss := hprev hvalid
      rw [h.retained hvalid, walk_of_reach hC h.old_inv hlt hindex hopen hreach] at hmiss
      cases hmiss

end

lemma refused_unchanged (hC : C.HkdfTotal) {s : Session} (hvalid : s.ratchet.recv.valid)
    (hrej : (receive C s d).1.accepted = false) : (receive C s d).2 = s := by
  have htried := receive_tried hC s hvalid d
  generalize receive C s d = out at htried hrej ⊢
  obtain ⟨rc, s'⟩ := out
  cases htried with
  | refused _ _ _ _ => rfl
  | current | previous => cases hrej

end

/-! ## The bump -/

variable {C : DmCrypto}

section

variable (s : Session) (dh : Key32) (addr_self addr_peer : UInt32) (new_epoch : UInt16)

lemma bump_retains (hC : C.HkdfTotal) :
    let s' := (dm_session_epoch_bump C s dh addr_self addr_peer new_epoch).2
    s'.ratchet.prev_recv = s.ratchet.recv ∧ s'.ratchet.prev_skip = s.ratchet.skip ∧
      s'.ratchet.new_epoch_msgs = 0 := by
  unfold dm_session_epoch_bump
  dsimp only
  generalize (if addr_self < addr_peer then addr_self else addr_peer) = addr_a
  generalize (if addr_self < addr_peer then addr_peer else addr_self) = addr_b
  obtain ⟨rk, lohi, hilo, hrk, hpair⟩ := epoch_derived hC s.ratchet.rk dh addr_a addr_b new_epoch
  rw [hrk]
  dsimp only [Option.bind_eq_bind, Option.bind_some]
  rw [hpair]
  exact ⟨rfl, rfl, rfl⟩

lemma bump_failed
    (hfail : (dm_session_epoch_bump C s dh addr_self addr_peer new_epoch).1 = false) :
    (dm_session_epoch_bump C s dh addr_self addr_peer new_epoch).2 = wipe_ratchet s := by
  rcases hroot : dm_ratchet_dh C s.ratchet.rk dh
    (if addr_self < addr_peer then addr_self else addr_peer)
    (if addr_self < addr_peer then addr_peer else addr_self) new_epoch with _ | rk_next
  · simp [dm_session_epoch_bump, hroot]
  · rcases hpair : dm_derive_chain_pair C rk_next with _ | ⟨ck_lohi, ck_hilo⟩
    · simp [dm_session_epoch_bump, hroot, hpair]
    · simp [dm_session_epoch_bump, hroot, hpair] at hfail

end

structure Rekey (C : DmCrypto) where
  a : Session
  b : Session
  start : EpochStart C a b
  payloads : List Payload
  received : List Frame
  sender : Session
  root : sender.ratchet.rk = (history C (emit C a payloads) b received).session.ratchet.rk
  dh : Key32
  addr_a : UInt32
  addr_b : UInt32
  ne : addr_a ≠ addr_b
  new_epoch : UInt16
  next_payloads : List Payload

def Rekey.sent (R : Rekey C) : List (Frame × List UInt8) := emit C R.a R.payloads

def Rekey.old (R : Rekey C) (ds : List Frame) : History := history C R.sent R.b (R.received ++ ds)

def Rekey.bumped (R : Rekey C) : Session :=
  (dm_session_epoch_bump C (R.old []).session R.dh R.addr_b R.addr_a R.new_epoch).2

def Rekey.next_sent (R : Rekey C) : List (Frame × List UInt8) :=
  emit C (dm_session_epoch_bump C R.sender R.dh R.addr_a R.addr_b R.new_epoch).2 R.next_payloads

def Rekey.new (R : Rekey C) (ds : List Frame) : History := history C R.next_sent R.bumped ds

lemma grace_run (hC : C.HkdfTotal) (R : Rekey C) (hlt : R.sent.length < 65500)
    (hlt' : R.next_sent.length < 65500)
    (hbefore : ∀ d ∈ R.received, IdealGcm C R.sent R.b d) (ds : List Frame)
    (hideal : ∀ d ∈ ds, IdealTwice C R.sent R.next_sent R.b R.bumped d) :
    Grace C R.sent R.next_sent R.b R.bumped (R.old ds) (R.new ds) := by
  induction ds using List.reverseRecOn with
  | nil =>
    have hroot : R.sender.ratchet.rk = (R.old []).session.ratchet.rk := by
      rw [Rekey.old, append_nil]
      exact R.root
    have hfresh := (EpochStart.rekey R.sender (R.old []).session R.dh R.addr_a R.addr_b
      R.new_epoch R.ne hroot).fresh hC
    obtain ⟨hrecv, hskip, hmsgs⟩ :=
      bump_retains (R.old []).session R.dh R.addr_b R.addr_a R.new_epoch hC
    refine ⟨inv_history hC (R.start.fresh hC) hlt _ ?_, inv_start hfresh, fun _ => ?_, ?_⟩
    · rw [append_nil]
      exact hbefore
    · exact ⟨hrecv, hskip, congrArg UInt16.toNat hmsgs⟩
    · exact fun hge => absurd hge (show ¬ 16 ≤ taken_count [] from by decide)
  | append_singleton ds d ih =>
    have hgrace := ih fun d' hd' => hideal d' (mem_append_left _ hd')
    have hold : R.old (ds ++ [d]) = History.step C R.sent (R.old ds) d := by
      rw [Rekey.old, ← append_assoc, history, foldl_append]
      rfl
    have hnew : R.new (ds ++ [d]) = History.step C R.next_sent (R.new ds) d := by
      rw [Rekey.new, history, foldl_append]
      rfl
    rw [hold, hnew]
    exact hgrace.step hC hlt' hlt
      (hideal d (mem_append_right _ (mem_singleton_self d)))

/-- **A rekey keeps what is under way and then forgets the old epoch.** Until 16 frames of the new
epoch have been accepted, a frame of the old one is accepted exactly when it is within reach of
the old receive chain, with its own plaintext; from then on the retained chain and cache are zero
and none is. A frame that is not accepted leaves the session as it was, and a bump whose key
derivation fails leaves one that neither encrypts nor decrypts. -/
theorem epoch_grace (C : DmCrypto) (hC : C.HkdfTotal) (hG : C.GcmCorrect) (R : Rekey C)
    (hlt : R.sent.length < 65500) (hlt' : R.next_sent.length < 65500)
    (hbefore : ∀ d ∈ R.received, IdealGcm C R.sent R.b d) (ds : List Frame)
    (hideal : ∀ d ∈ ds, IdealTwice C R.sent R.next_sent R.b R.bumped d) :
    (∀ (pre : List Frame) (d : Frame) (post : List Frame), ds = pre ++ d :: post →
      let old := R.old pre
      let new := R.new pre
      let out := receive C new.session d
      (taken_count new.events < 16 →
        new.session.ratchet.prev_recv = old.session.ratchet.recv ∧
        new.session.ratchet.prev_skip = old.session.ratchet.skip ∧
        ∀ i, genuine R.sent i d = true →
          (out.1.accepted = true → ∃ f pt, R.sent[i]? = some (f, pt) ∧ out.1 = .OK pt) ∧
          (out.1.accepted = true ↔
            cursor old.session ≤ i ∧ i ≤ cursor old.session + 16 ∨
              i < cursor old.session ∧ Waiting DM_MAX_SKIP old.events i)) ∧
      (16 ≤ taken_count new.events →
        new.session.ratchet.prev_recv = .zero ∧
        (∀ k, new.session.ratchet.prev_skip k = .zero) ∧
        ∀ i, genuine R.sent i d = true → out.1.accepted = false) ∧
      (out.1.accepted = false → out.2 = new.session)) ∧
    ∀ (C' : DmCrypto) (s : Session) (dh : Key32) (addr_self addr_peer : UInt32)
      (new_epoch : UInt16),
      (dm_session_epoch_bump C' s dh addr_self addr_peer new_epoch).1 = false →
      let s' := (dm_session_epoch_bump C' s dh addr_self addr_peer new_epoch).2
      (∀ h src_addr pt nonce, dm_session_ratchet_encrypt C' s' h src_addr pt nonce = none) ∧
        ∀ d, receive C' s' d = (.FAIL, s') := by
  constructor
  · intro pre d post hds old new out
    have hd := hideal d (by rw [hds]; exact mem_append_right _ mem_cons_self)
    have hpre : ∀ d' ∈ pre, IdealTwice C R.sent R.next_sent R.b R.bumped d' := by
      intro d' hd'
      apply hideal
      rw [hds]
      exact mem_append_left _ hd'
    have h : Grace C R.sent R.next_sent R.b R.bumped old new :=
      grace_run hC R hlt hlt' hbefore pre hpre
    refine ⟨fun hn => ?_, fun hn => ?_, refused_unchanged hC h.new_inv.valid⟩
    · obtain ⟨hrecv, hskip, -⟩ := h.kept hn
      refine ⟨hrecv, hskip, fun i hgen => ?_⟩
      obtain ⟨hindex, f, pt, hget, hopen⟩ :=
        genuine_spec hC hG (R.start.fresh hC) R.payloads hlt hgen
      obtain ⟨hpt, hreach⟩ := h.old_verdict hC hlt' hlt hd hn hgen hindex hopen
      exact ⟨fun hacc => ⟨f, pt, hget, hpt hacc⟩, hreach⟩
    · obtain ⟨hrecv, hskip⟩ := h.wiped hn
      exact ⟨hrecv, fun k => congrFun hskip k, fun i hgen =>
        h.forgotten hC hlt' hd hn hgen⟩
  · intro C' s dh addr_self addr_peer new_epoch hfail s'
    have hwiped : s' = wipe_ratchet s := bump_failed s dh addr_self addr_peer new_epoch hfail
    rw [hwiped]
    exact ⟨fun _ _ _ _ => rfl, fun _ => rfl⟩

/-! ## Two concrete epochs -/

def markedKey (mark hi lo : UInt8) : Key32 :=
  Vector.ofFn fun j =>
    if j.val = 0 then hi else if j.val = 1 then lo else if j.val = 2 then mark else 0

def keyMark (key : Key32) : UInt8 := key[2]

def markedCrypto : DmCrypto where
  hkdf_sha256 := fun salt ikm info =>
    let mark := if ikm = [] then salt.getD 2 0 else if ikm.length = 32 then salt.getD 2 0 + 1 else 0
    some (markedKey mark (info.reverse.getD 1 0) (info.reverse.getD 0 0))
  hmac_sha256 := fun _ _ => some .zero
  x25519_dh := fun _ _ => some .zero
  aes256gcm_encrypt := fun key _ pt _ => some (pt, keyTag key)
  aes256gcm_decrypt := fun key _ ct _ tag => if tag = keyTag key then some ct else none

lemma markedCrypto_gcmCorrect : markedCrypto.GcmCorrect := by
  intro key nonce pt aad
  refine ⟨pt, keyTag key, rfl, rfl, ?_⟩
  dsimp only [markedCrypto]
  rw [if_pos rfl]

lemma message_key_marked (ck : Key32) (index : UInt16) :
    message_key markedCrypto ck index =
      markedKey (keyMark ck) (index >>> 8).toUInt8 (index &&& 0xFF).toUInt8 := by
  unfold message_key mk_info markedCrypto keyMark
  simp

lemma keyMark_next (ck : Key32) (i : ℕ) :
    keyMark ((next_ck markedCrypto)^[i] ck) = keyMark ck := by
  induction i with
  | zero => rfl
  | succ i ih =>
    rw [Function.iterate_succ_apply', ← ih]
    unfold next_ck markedCrypto keyMark
    simp [markedKey]

lemma keyTag_markedKey_inj {mark hi lo mark' hi' lo' : UInt8}
    (heq : keyTag (markedKey mark hi lo) = keyTag (markedKey mark' hi' lo')) :
    mark = mark' ∧ hi = hi' ∧ lo = lo' := by
  have h0 := congrArg (fun t : Tag16 => t[0]) heq
  have h1 := congrArg (fun t : Tag16 => t[1]) heq
  have h2 := congrArg (fun t : Tag16 => t[2]) heq
  refine ⟨?_, ?_, ?_⟩
  · simpa [keyTag, markedKey] using h2
  · simpa [keyTag, markedKey] using h0
  · simpa [keyTag, markedKey] using h1

def markedFrame (mark : UInt8) (i : UInt16) : Frame :=
  ⟨⟨4, 1, 0, 7, 2, 1⟩, 1, Vector.replicate 12 0, ratchet_header mark i ++ [42],
    keyTag (markedKey mark (i >>> 8).toUInt8 (i &&& 0xFF).toUInt8)⟩

lemma opened_marked {ck : Key32} {index j : UInt16} {mark : UInt8}
    (hopen : (opens markedCrypto (message_key markedCrypto ck index) (markedFrame mark j)).isSome =
      true) : keyMark ck = mark ∧ index = j := by
  rw [message_key_marked] at hopen
  by_cases htag : keyTag (markedKey mark (j >>> 8).toUInt8 (j &&& 0xFF).toUInt8) =
      keyTag (markedKey (keyMark ck) (index >>> 8).toUInt8 (index &&& 0xFF).toUInt8)
  · obtain ⟨hmark, hhi, hlo⟩ := keyTag_markedKey_inj htag
    exact ⟨hmark.symm, by rw [← be16_bytes index, ← hhi, ← hlo, be16_bytes]⟩
  · dsimp only [opens, markedFrame, ratchet_header, cons_append,
      markedCrypto] at hopen
    rw [if_neg htag] at hopen
    cases hopen

lemma ideal_marked {sent : List (Frame × List UInt8)} {b : Session} {mark : UInt8} {j : UInt16}
    (hgen : keyMark b.ratchet.recv.ck = mark → genuine sent j.toNat (markedFrame mark j))
    (hprev : b.ratchet.prev_recv.valid → ∀ i, genuine sent i (markedFrame mark j) →
      keyMark b.ratchet.prev_recv.ck ≠ mark ∧ ∀ k, (b.ratchet.prev_skip k).used = false) :
    IdealGcm markedCrypto sent b (markedFrame mark j) where
  only_genuine := by
    intro i hi hopen
    obtain ⟨hmark, hindex⟩ := opened_marked hopen
    rw [keyMark_next] at hmark
    have hnat : j.toNat = i := by rw [← hindex, UInt16.toNat_ofNat', Nat.mod_eq_of_lt hi]
    exact hnat ▸ hgen hmark
  own_key_only := by
    rintro i hi key ⟨hvalid, ⟨k, hused, -⟩ | ⟨m, rfl⟩⟩
    · rw [(hprev hvalid i hi).2 k] at hused
      cases hused
    · rw [← Option.not_isSome_iff_eq_none]
      intro hopen
      have hmark := (opened_marked hopen).1
      rw [keyMark_next] at hmark
      exact (hprev hvalid i hi).1 hmark

def markedEnd (addr_self addr_peer : UInt32) : Session :=
  (dm_session_ratchet_init_state markedCrypto .zero (Vector.replicate 128 0) addr_self addr_peer).2

lemma one_ne_two : (1 : UInt32) ≠ 2 := by decide

lemma marked_root : (markedEnd 1 2).ratchet.rk =
    (history markedCrypto (emit markedCrypto (markedEnd 1 2) [oneByte, oneByte]) (markedEnd 2 1)
      []).session.ratchet.rk := by
  decide +kernel

def markedRekey : Rekey markedCrypto where
  a := markedEnd 1 2
  b := markedEnd 2 1
  start := .handshake .zero .zero (Vector.replicate 128 0) 1 2 one_ne_two
  payloads := [oneByte, oneByte]
  received := []
  sender := markedEnd 1 2
  root := marked_root
  dh := .zero
  addr_a := 1
  addr_b := 2
  ne := one_ne_two
  new_epoch := 1
  next_payloads := [oneByte]

lemma sent_marked :
    markedRekey.sent = [(markedFrame 0 0, [42]), (markedFrame 0 1, [42])] := by
  decide +kernel

lemma next_sent_marked : markedRekey.next_sent = [(markedFrame 1 0, [42])] := by
  decide +kernel

lemma ideal_late : ∀ d ∈ [markedFrame 1 0, markedFrame 0 1],
    IdealTwice markedCrypto markedRekey.sent markedRekey.next_sent markedRekey.b
      markedRekey.bumped d := by
  have hb : markedRekey.b.ratchet.prev_recv.valid = false ∧
      keyMark markedRekey.b.ratchet.recv.ck = 0 := by decide +kernel
  have hbumped : keyMark markedRekey.bumped.ratchet.recv.ck = 1 ∧
      keyMark markedRekey.bumped.ratchet.prev_recv.ck = 0 ∧
      ∀ k, (markedRekey.bumped.ratchet.prev_skip k).used = false := by decide +kernel
  have hnone : markedRekey.b.ratchet.prev_recv.valid → False := by
    exact Bool.false_ne_true
  rw [sent_marked, next_sent_marked]
  intro d hd
  simp only [mem_cons, not_mem_nil, or_false] at hd
  rcases hd with rfl | rfl
  · refine ⟨ideal_marked (fun hmark => ?_) fun h => (hnone h).elim,
      ideal_marked (fun _ => by decide +kernel) fun _ _ _ => ⟨?_, hbumped.2.2⟩, ?_⟩
    · rw [hb.2] at hmark
      cases hmark
    · rw [hbumped.2.1]
      decide
    · intro i j hi
      have hlt := genuine_lt hi
      match i, hlt with
      | 0, _ | 1, _ => exact absurd hi (by decide +kernel)
  · have hapart : ∀ j, genuine [(markedFrame 1 0, [42])] j (markedFrame 0 1) = false := by
      intro j
      match j with
      | 0 => decide +kernel
      | j + 1 => rfl
    refine ⟨ideal_marked (fun _ => by decide +kernel) fun h => (hnone h).elim,
      ideal_marked (fun hmark => ?_) fun _ i hi => ?_, fun _ j _ => hapart j⟩
    · cases hmark
    · rw [hapart i] at hi
      cases hi

theorem epoch_grace_late :
    (receive markedCrypto (markedRekey.new [markedFrame 1 0]).session
      (markedFrame 0 1)).1.accepted = true := by
  have hgrace := (epoch_grace markedCrypto (fun _ _ _ => rfl) markedCrypto_gcmCorrect
    markedRekey (by rw [sent_marked]; decide) (by rw [next_sent_marked]; decide)
    (fun d hd => absurd hd not_mem_nil) [markedFrame 1 0, markedFrame 0 1] ideal_late).1
    [markedFrame 1 0] (markedFrame 0 1) [] rfl
  have hgen : genuine markedRekey.sent 1 (markedFrame 0 1) = true := by
    rw [sent_marked]
    decide +kernel
  have hcursor : cursor (markedRekey.old [markedFrame 1 0]).session = 0 := by decide +kernel
  refine ((hgrace.1 (by decide +kernel)).2.2 1 hgen).2.2 (Or.inl ⟨?_, ?_⟩) <;>
    rw [hcursor] <;> decide

def lateEnd (addr_self addr_peer : UInt32) : Session :=
  let s := endOf addr_self addr_peer
  { s with
    ratchet := { s.ratchet with
      send := { s.ratchet.send with index := 65520 }
      recv := { s.ratchet.recv with index := 65520 } } }

theorem next_frame_too_far :
    let s := (dm_session_epoch_bump indexCrypto (lateEnd 2 1) .zero 2 1 1).2
    s.ratchet.prev_recv.ck = (lateEnd 1 2).ratchet.send.ck ∧ s.ratchet.prev_recv.index = 65520 ∧
      emit indexCrypto (lateEnd 1 2) [oneByte] = [(frameAt 65520, [42])] ∧
      (receive indexCrypto s (frameAt 65520)).1 = .TOO_FAR := by
  decide +kernel

end BrambleMesh.DmEpochGrace
