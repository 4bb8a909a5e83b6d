/-
Lossy, reordered and forged traffic on a ratchet session, within one epoch. With an ideal AES-GCM
the receiver's chain and skip cache are a function of its history (`DirectCache.held`).
-/
import BrambleMesh.DmReceive
import BrambleMesh.Lib.DirectCache
import BrambleMesh.Lib.Run

namespace BrambleMesh.DmOutOfOrder

open Bytes DmRatchet DmReceive DirectCache Function List UInt16

/-! ## The receiver's history -/

structure History where
  session : Session
  events : List Event

def cursor (s : Session) : ℕ := s.ratchet.recv.index.toNat

variable (C : DmCrypto)

def History.step (sent : List (Frame × List UInt8)) (l : History) (d : Frame) :
    History :=
  let (rc, s') := receive C l.session d
  let passed := park_from (cursor l.session) (cursor s' - 1 - cursor l.session)
  { session := s'
    events := (if rc.accepted && genuine sent d.index d then [.taken d.index] else []) ++
      (passed ++ l.events) }

def history (sent : List (Frame × List UInt8)) (b : Session) (ds : List Frame) :
    History :=
  ds.foldl (History.step C sent) ⟨b, []⟩

structure IdealGcm (sent : List (Frame × List UInt8)) (b : Session) (d : Frame) :
    Prop where
  only_genuine : ∀ i < 2 ^ 16, (opens C (epoch_key C b.ratchet.recv.ck i) d).isSome →
    genuine sent i d
  own_key_only : ∀ i, genuine sent i d → ∀ key, PrevKey C b.ratchet key →
    opens C key d = none

def slot_entry (ck : Key32) : Option ℕ → SkipEntry
  | none => .zero
  | some i => ⟨UInt16.ofNat i, epoch_key C ck i, true⟩

structure Inv (sent : List (Frame × List UInt8)) (b : Session) (l : History) :
    Prop where
  valid : l.session.ratchet.recv.valid
  cursor_le : cursor l.session ≤ sent.length
  ck : l.session.ratchet.recv.ck = (next_ck C)^[cursor l.session] b.ratchet.recv.ck
  slots : ∀ k : Fin DM_MAX_SKIP,
    l.session.ratchet.skip k = slot_entry C b.ratchet.recv.ck (held DM_MAX_SKIP l.events k)
  taken_lt : ∀ i, .taken i ∈ l.events → i < cursor l.session
  parked_lt : ∀ i, .parked i ∈ l.events → i < cursor l.session
  held_fresh : ∀ k i, held DM_MAX_SKIP l.events k = some i → .taken i ∉ l.events
  once : ∀ i, l.events.count (.taken i) ≤ 1
  prev : ∀ key, PrevKey C l.session.ratchet key → PrevKey C b.ratchet key

variable {C : DmCrypto} {sent : List (Frame × List UInt8)} {b : Session} {l : History} {d : Frame}

lemma inv_start {a : Session} (hf : Fresh a b) : Inv C sent b ⟨b, []⟩ := by
  have hcursor : cursor b = 0 := congrArg toNat hf.recv_index
  constructor
  · exact hf.recv_valid
  · exact hcursor ▸ Nat.zero_le _
  · rw [hcursor]
    rfl
  · exact hf.skip
  · exact fun _ h => absurd h not_mem_nil
  · exact fun _ h => absurd h not_mem_nil
  · exact fun _ _ _ => not_mem_nil
  · exact fun _ => Nat.zero_le _
  · exact fun _ h => h

lemma Inv.key_ahead_eq (h : Inv C sent b l) (m : ℕ) :
    key_ahead C l.session.ratchet.recv m =
      epoch_key C b.ratchet.recv.ck (cursor l.session + m) := by
  have hindex : l.session.ratchet.recv.index = UInt16.ofNat (cursor l.session) :=
    (UInt16.ofNat_toNat).symm
  rw [key_ahead, epoch_key, h.ck, ← iterate_add_apply, Nat.add_comm m, UInt16.ofNat_add,
    ← hindex]

variable {k : Fin DM_MAX_SKIP} {pt : List UInt8} {s' : Session} {x : ℕ}

lemma Inv.cached (h : Inv C sent b l) (hlt : sent.length < 65500)
    (hused : (l.session.ratchet.skip k).used) {i : ℕ}
    (hindex : (l.session.ratchet.skip k).index.toNat = i) :
    (l.session.ratchet.skip k).mk = epoch_key C b.ratchet.recv.ck i ∧
      held DM_MAX_SKIP l.events k = some i := by
  rw [h.slots k] at hused hindex ⊢
  cases hheld : held DM_MAX_SKIP l.events k with
  | none =>
    rw [hheld] at hused
    cases hused
  | some j =>
    rw [hheld] at hindex
    -- the index was parked, so it is small enough to survive the 16-bit field
    have hj := h.parked_lt j (parked_of_held hheld)
    have hle := h.cursor_le
    have hji : j = i := by
      rw [← hindex]
      dsimp only [slot_entry]
      rw [toNat_ofNat', Nat.mod_eq_of_lt (by omega)]
    rw [hji]
    exact ⟨rfl, rfl⟩

lemma cache_skipped_eq {skip : Skip} {es : List Event} {ck : Key32} {chain : Chain} {c : ℕ}
    (hslots : ∀ k : Fin DM_MAX_SKIP, skip k = slot_entry C ck (held DM_MAX_SKIP es k))
    (hkeys : ∀ j, key_ahead C chain j = epoch_key C ck (c + j))
    (hindex : chain.index = ofNat c) (m : ℕ) (hm : c + m ≤ 2 ^ 16) (k : Fin DM_MAX_SKIP) :
    cache_skipped skip (entries_ahead C chain m) k =
      slot_entry C ck (held DM_MAX_SKIP (park_from c m ++ es) k) := by
  induction m generalizing k with
  | zero => exact hslots k
  | succ m ih =>
    have hnext : chain.index + ofNat m = ofNat (c + m) := by
      rw [hindex, ofNat_add]
    -- the slot is computed from the 16-bit index, which has not wrapped
    have hslot : skip_slot (ofNat (c + m)) = k ↔ (c + m) % DM_MAX_SKIP = k := by
      rw [Fin.ext_iff, skip_slot]
      dsimp only
      rw [toNat_ofNat', Nat.mod_eq_of_lt (show c + m < 2 ^ 16 by omega)]
    have hlast : cache_skipped skip (entries_ahead C chain (m + 1)) =
        update (cache_skipped skip (entries_ahead C chain m))
          (skip_slot (ofNat (c + m)))
          ⟨ofNat (c + m), epoch_key C ck (c + m), true⟩ := by
      rw [← hkeys, ← hnext, entries_ahead, range_succ, map_append, cache_skipped,
        foldl_append]
      rfl
    rw [hlast, park_from, cons_append, held]
    by_cases hk : (c + m) % DM_MAX_SKIP = k
    · rw [if_pos hk, hslot.2 hk, update_self]
      rfl
    · rw [if_neg hk, update_of_ne fun heq => hk (hslot.1 heq.symm)]
      exact ih (by omega) k

lemma Inv.straggler_genuine (h : Inv C sent b l) (hlt : sent.length < 65500)
    (hd : IdealGcm C sent b d) (hused : (l.session.ratchet.skip k).used)
    (hindex : (l.session.ratchet.skip k).index.toNat = d.index)
    (hopen : opens C (l.session.ratchet.skip k).mk d = some pt) :
    genuine sent d.index d ∧ held DM_MAX_SKIP l.events k = some d.index ∧
      opens C (epoch_key C b.ratchet.recv.ck d.index) d = some pt := by
  obtain ⟨hmk, hheld⟩ := h.cached hlt hused hindex
  rw [hmk] at hopen
  have hsmall : d.index < 2 ^ 16 := hindex ▸ toNat_lt _
  exact ⟨hd.only_genuine _ hsmall (hopen ▸ rfl), hheld, hopen⟩

lemma Inv.ahead_genuine (h : Inv C sent b l) (hd : IdealGcm C sent b d) {m : ℕ} {index : UInt16}
    (hindex : index.toNat = d.index) (hm : cursor l.session + m = d.index)
    (hopen : opens C (key_ahead C l.session.ratchet.recv m) d = some pt) :
    genuine sent d.index d ∧
      opens C (epoch_key C b.ratchet.recv.ck d.index) d = some pt := by
  rw [h.key_ahead_eq, hm] at hopen
  have hsmall : d.index < 2 ^ 16 := hindex ▸ toNat_lt _
  exact ⟨hd.only_genuine _ hsmall (hopen ▸ rfl), hopen⟩

lemma step_events_same {rc : DecryptResult} (heq : receive C l.session d = (rc, s'))
    (hcursor : cursor s' = cursor l.session)
    (hnot : (rc.accepted && genuine sent d.index d) = false) :
    History.step C sent l d = ⟨s', l.events⟩ := by
  unfold History.step
  rw [heq]
  dsimp only
  rw [hcursor, hnot, show cursor l.session - 1 - cursor l.session = 0 from by omega]
  rfl

lemma step_events_taken (heq : receive C l.session d = (.OK pt, s'))
    (hgen : genuine sent d.index d) :
    History.step C sent l d = ⟨s', .taken d.index ::
      (park_from (cursor l.session) (cursor s' - 1 - cursor l.session) ++ l.events)⟩ := by
  unfold History.step
  rw [heq]
  rw [hgen]
  rfl

lemma count_taken_le {es : List Event} (honce : ∀ i, es.count (.taken i) ≤ 1)
    (hnew : .taken x ∉ es) (i : ℕ) : (Event.taken x :: es).count (.taken i) ≤ 1 := by
  by_cases hx : x = i
  · rw [← hx, count_cons_self, count_eq_zero_of_not_mem hnew]
  · rw [count_cons_of_ne fun heq => hx (Event.taken.inj heq)]
    exact honce i

lemma Inv.take (h : Inv C sent b l) (hheld : held DM_MAX_SKIP l.events k = some x)
    (hrecv : s'.ratchet.recv = l.session.ratchet.recv)
    (hskip : s'.ratchet.skip = update l.session.ratchet.skip k .zero)
    (hprev : ∀ key, PrevKey C s'.ratchet key → PrevKey C l.session.ratchet key) :
    Inv C sent b ⟨s', .taken x :: l.events⟩ := by
  have hcursor : cursor s' = cursor l.session := by rw [cursor, cursor, hrecv]
  -- only the slot that held `x` changes; the chain and the cursor stay
  have hx : x < cursor l.session := h.parked_lt x (parked_of_held hheld)
  constructor
  · rw [hrecv]
    exact h.valid
  · rw [hcursor]
    exact h.cursor_le
  · rw [hrecv, hcursor]
    exact h.ck
  · intro k'
    rw [hskip, held]
    by_cases hk : k' = k
    · rw [hk, update_self, if_pos hheld]
      rfl
    · -- another slot does not hold `x`, whose residue is `k`
      have hother : held DM_MAX_SKIP l.events k' ≠ some x := by
        intro hheld'
        exact hk (Fin.ext ((mod_of_held hheld').symm.trans (mod_of_held hheld)))
      rw [update_of_ne hk, if_neg hother]
      exact h.slots k'
  · intro i hi
    rw [hcursor]
    rcases mem_cons.1 hi with heq | hi
    · rw [Event.taken.inj heq]
      exact hx
    · exact h.taken_lt i hi
  · intro i hi
    rw [hcursor]
    exact h.parked_lt i ((mem_cons.1 hi).resolve_left Event.noConfusion)
  · intro k' i hi hmem
    rw [held] at hi
    split_ifs at hi with hne
    rcases mem_cons.1 hmem with heq | hmem
    · rw [Event.taken.inj heq] at hi
      exact hne hi
    · exact h.held_fresh k' i hi hmem
  · exact count_taken_le h.once (h.held_fresh k x hheld)
  · exact fun key hkey => h.prev key (hprev key hkey)

lemma Inv.advance (h : Inv C sent b l) (hlt : sent.length < 65500) {m : ℕ} {index : UInt16}
    (hindex : index.toNat = x) (hm : cursor l.session + m = x) (hx : x < sent.length)
    (hrecv : s'.ratchet.recv = { l.session.ratchet.recv with
      ck := (next_ck C)^[m + 1] l.session.ratchet.recv.ck, index := index + 1 })
    (hskip : s'.ratchet.skip =
      cache_skipped l.session.ratchet.skip (entries_ahead C l.session.ratchet.recv m))
    (hprev : ∀ key, PrevKey C s'.ratchet key → PrevKey C l.session.ratchet key) :
    cursor s' = x + 1 ∧
      Inv C sent b ⟨s', .taken x :: (park_from (cursor l.session) m ++ l.events)⟩ := by
  have hcursor : cursor s' = x + 1 := by
    rw [cursor, hrecv]
    rw [UInt16.toNat_add]
    have h1 : (1 : UInt16).toNat = 1 := by decide
    omega
  have hslots : ∀ k : Fin DM_MAX_SKIP, s'.ratchet.skip k = slot_entry C b.ratchet.recv.ck
      (held DM_MAX_SKIP (park_from (cursor l.session) m ++ l.events) k) := by
    intro k
    rw [hskip]
    exact cache_skipped_eq h.slots h.key_ahead_eq (UInt16.ofNat_toNat).symm m (by omega) k
  -- everything taken so far is behind the old cursor, everything parked now is before `x`
  have hnot : .taken x ∉ park_from (cursor l.session) m ++ l.events := by
    rw [taken_mem_park_append]
    intro hmem
    have := h.taken_lt x hmem
    omega
  have hparked : ∀ i, .parked i ∈ park_from (cursor l.session) m ++ l.events → i < x :=
    fun i hi => hm ▸ lt_of_parked_mem_append h.parked_lt hi
  have hnotheld : ∀ k,
      held DM_MAX_SKIP (park_from (cursor l.session) m ++ l.events) k ≠ some x :=
    fun k hheld => absurd (hparked x (parked_of_held hheld)) (Nat.lt_irrefl x)
  refine ⟨hcursor, ?_⟩
  constructor
  · rw [hrecv]
    exact h.valid
  · rw [hcursor]
    exact hx
  · rw [hcursor, hrecv]
    rw [h.ck, ← iterate_add_apply, ← hm, Nat.add_comm (m + 1), Nat.add_assoc]
  · intro k
    rw [held, if_neg (hnotheld k)]
    exact hslots k
  · intro i hi
    rw [hcursor]
    rcases mem_cons.1 hi with heq | hi
    · rw [Event.taken.inj heq]
      exact Nat.lt_succ_self x
    · have := h.taken_lt i (taken_mem_park_append.1 hi)
      omega
  · intro i hi
    dsimp only
    have := hparked i ((mem_cons.1 hi).resolve_left Event.noConfusion)
    omega
  · intro k i hi hmem
    rw [held, if_neg (hnotheld k)] at hi
    rcases mem_cons.1 hmem with heq | hmem
    · rw [Event.taken.inj heq] at hi
      exact hnotheld k hi
    · rw [taken_mem_park_append] at hmem
      -- what is held was parked just now, ahead of all that was taken, or was held before
      rcases held_park_from m hi with hge | hold
      · have := h.taken_lt i hmem
        omega
      · exact h.held_fresh k i hold hmem
  · apply count_taken_le _ hnot
    intro i
    rw [count_append, count_eq_zero_of_not_mem (taken_not_mem_park_from i _ _),
      Nat.zero_add]
    exact h.once i
  · exact fun key hkey => h.prev key (hprev key hkey)

lemma Inv.step (hC : C.HkdfTotal) (h : Inv C sent b l) (hlt : sent.length < 65500)
    (hd : IdealGcm C sent b d) : Inv C sent b (History.step C sent l d) := by
  have hout := receive_outcome hC l.session h.valid d
  generalize hreceive : receive C l.session d = out at hout
  obtain ⟨rc, s'⟩ := out
  cases hout with
  | refused _ hrc =>
    rw [step_events_same hreceive rfl (by rw [hrc, Bool.false_and])]
    exact h
  | previous pt _ key hkey hopen hrecv hskip hprev =>
    -- an old key opens no genuine frame
    have hnot : genuine sent d.index d = false := by
      by_contra hgen
      have hnone := hd.own_key_only _ (Bool.not_eq_false _ ▸ hgen) key (h.prev key hkey)
      rw [hopen] at hnone
      cases hnone
    have hcursor : cursor s' = cursor l.session := by rw [cursor, cursor, hrecv]
    rw [step_events_same hreceive hcursor (by rw [hnot, Bool.and_false])]
    constructor
    · rw [hrecv]
      exact h.valid
    · rw [hcursor]
      exact h.cursor_le
    · rw [hrecv, hcursor]
      exact h.ck
    · intro k
      rw [hskip]
      exact h.slots k
    · rw [hcursor]
      exact h.taken_lt
    · rw [hcursor]
      exact h.parked_lt
    · exact h.held_fresh
    · exact h.once
    · exact fun k hk => h.prev k (hprev k hk)
  | straggler pt _ k hbehind hused hindex hopen hrecv hskip hprev =>
    obtain ⟨hgen, hheld, -⟩ := h.straggler_genuine hlt hd hused hindex hopen
    have hcursor : cursor s' = cursor l.session := by rw [cursor, cursor, hrecv]
    rw [step_events_taken hreceive hgen, hcursor,
      show cursor l.session - 1 - cursor l.session = 0 from by omega]
    exact h.take hheld hrecv hskip hprev
  | ahead pt _ m index hindex hm hle hopen hrecv hskip hprev =>
    obtain ⟨hgen, -⟩ := h.ahead_genuine hd hindex hm hopen
    obtain ⟨hcursor, hinv⟩ :=
      h.advance hlt hindex hm (genuine_lt hgen) hrecv hskip hprev
    have hm' : cursor l.session + m = d.index := hm
    rw [step_events_taken hreceive hgen, hcursor,
      show d.index + 1 - 1 - cursor l.session = m from by omega]
    exact hinv

lemma inv_history (hC : C.HkdfTotal) {a : Session} (hf : Fresh a b) (hlt : sent.length < 65500)
    (ds : List Frame) (hideal : ∀ d ∈ ds, IdealGcm C sent b d) :
    Inv C sent b (history C sent b ds) := by
  have hmeets : Run.Meets (History.step C sent) (fun _ d => IdealGcm C sent b d) ⟨b, []⟩ ds :=
    Run.meets_of_forall (fun _ d hd => hideal d hd) _
  apply Run.foldl_invariant _ hmeets (inv_start hf)
  intro l d h hd
  exact h.step hC hlt hd

/-! ## The window -/

section

variable (hC : C.HkdfTotal) (h : Inv C sent b l) (hlt : sent.length < 65500)
  (hd : IdealGcm C sent b d) {i : ℕ} (hgen : genuine sent i d = true) (hindex : d.index = i)
include hC h hlt hd hgen hindex

lemma reach_of_accepted (hacc : (receive C l.session d).1.accepted) :
    (∃ pt, (receive C l.session d).1 = .OK pt ∧
      opens C (epoch_key C b.ratchet.recv.ck i) d = some pt) ∧
    (cursor l.session ≤ i ∧ i ≤ cursor l.session + 16 ∨
      i < cursor l.session ∧ Waiting DM_MAX_SKIP l.events i) := by
  have hout := receive_outcome hC l.session h.valid d
  generalize receive C l.session d = out at hout hacc
  obtain ⟨rc, s'⟩ := out
  cases hout with
  | refused _ hrc =>
    rw [hrc] at hacc
    cases hacc
  | previous pt _ key hkey hopen _ _ _ =>
    -- a genuine frame does not open under a key of the previous epoch
    have hnone := hd.own_key_only i hgen key (h.prev key hkey)
    rw [hopen] at hnone
    cases hnone
  | straggler pt _ k hbehind hused hslot hopen _ _ _ =>
    obtain ⟨-, hheld, hopen'⟩ := h.straggler_genuine hlt hd hused hslot hopen
    rw [hindex] at hheld hopen' hbehind
    refine ⟨⟨pt, rfl, hopen'⟩, .inr ⟨hbehind, held_iff.1 ?_⟩⟩
    rw [mod_of_held hheld]
    exact hheld
  | ahead pt _ m index hnat hm hle hopen _ _ _ =>
    obtain ⟨-, hopen'⟩ := h.ahead_genuine hd hnat hm hopen
    rw [hindex] at hopen' hm
    have hm' : cursor l.session + m = i := hm
    have hle' : m ≤ 16 := hle
    exact ⟨⟨pt, rfl, hopen'⟩, .inl ⟨by omega, by omega⟩⟩

end

lemma walk_of_reach (hC : C.HkdfTotal) (h : Inv C sent b l) (hlt : sent.length < 65500)
    {i : ℕ} (hindex : d.index = i) (hopen : opens C (epoch_key C b.ratchet.recv.ck i) d = some pt)
    (hreach : cursor l.session ≤ i ∧ i ≤ cursor l.session + 16 ∨ i < cursor l.session ∧ Waiting
      DM_MAX_SKIP l.events i) :
    (walk C l.session.ratchet.recv l.session.ratchet.skip d).1 = .OK pt := by
  have hle := h.cursor_le
  rcases hreach with ⟨hge, hwin⟩ | ⟨hbehind, hwait⟩
  · obtain ⟨m, rfl⟩ := Nat.exists_eq_add_of_le hge
    rw [← h.key_ahead_eq] at hopen
    have hm : m ≤ 16 := by omega
    -- with fewer than 65500 frames the window bound does not wrap
    have hwrap : cursor l.session + 16 < 2 ^ 16 := by omega
    exact walk_ahead hC hindex.symm hm hwrap hopen
  · -- the slot of `i` holds its key, and no slot holds another key under its index
    have hheld := held_iff.2 hwait
    have hslot := h.slots ⟨i % DM_MAX_SKIP, Nat.mod_lt _ (by decide)⟩
    rw [hheld] at hslot
    apply walk_straggler (by rw [hindex]; exact hbehind)
      ⟨i % DM_MAX_SKIP, Nat.mod_lt _ (by decide)⟩
    · rw [hslot]
      rfl
    · rw [hslot, hindex]
      dsimp only [slot_entry]
      rw [toNat_ofNat', Nat.mod_eq_of_lt (by omega)]
    · intro k hused hk
      rw [(h.cached hlt hused hk).1, hindex]
      exact hopen

/-- **A ratchet session under loss, duplication, reordering and forgery.** Each genuine frame is
accepted at most once, with its own plaintext: at or ahead of the cursor exactly when its index is
at most the cursor plus 16, behind it exactly when it was passed over, not accepted since, and no
later index of its residue modulo 16 was passed over. A frame that is not accepted leaves the
session as it was. -/
theorem out_of_order_ratchet (C : DmCrypto) (hC : C.HkdfTotal) (hG : C.GcmCorrect)
    (a b : Session) (hstart : EpochStart C a b) (ps : List Payload)
    (hlt : (emit C a ps).length < 65500) (ds : List Frame)
    (hideal : ∀ d ∈ ds, IdealGcm C (emit C a ps) b d) :
    (∀ i, (history C (emit C a ps) b ds).events.count (.taken i) ≤ 1) ∧
    ∀ (pre : List Frame) (d : Frame) (post : List Frame), ds = pre ++ d :: post →
      let l := history C (emit C a ps) b pre
      let out := receive C l.session d
      (∀ i, genuine (emit C a ps) i d = true →
        (out.1.accepted = true → ∃ f pt, (emit C a ps)[i]? = some (f, pt) ∧ out.1 = .OK pt) ∧
        (cursor l.session ≤ i → (out.1.accepted = true ↔ i ≤ cursor l.session + 16)) ∧
        (i < cursor l.session → (out.1.accepted = true ↔ Waiting DM_MAX_SKIP l.events i))) ∧
      (out.1.accepted = false → out.2 = l.session) := by
  have hf := hstart.fresh hC
  refine ⟨(inv_history hC hf hlt ds hideal).once, ?_⟩
  intro pre d post hds l out
  have hpre : ∀ d' ∈ pre, IdealGcm C (emit C a ps) b d' := by
    intro d' hd'
    apply hideal
    rw [hds]
    exact mem_append_left _ hd'
  have hd : IdealGcm C (emit C a ps) b d := by
    apply hideal
    rw [hds]
    exact mem_append_right _ mem_cons_self
  -- every prefix of the offered frames has ended in a state with the invariant
  have h : Inv C (emit C a ps) b l := inv_history hC hf hlt pre hpre
  constructor
  · intro i hgen
    obtain ⟨hindex, f, pt, hget, hopen⟩ := genuine_spec hC hG hf ps hlt hgen
    -- accepted means within reach; ahead of the cursor and behind it are its two cases
    have hreach : out.1.accepted = true ↔
        (cursor l.session ≤ i ∧ i ≤ cursor l.session + 16 ∨
          i < cursor l.session ∧ Waiting DM_MAX_SKIP l.events i) := by
      constructor
      · intro hacc
        exact (reach_of_accepted hC h hlt hd hgen hindex hacc).2
      · intro hr
        have hok : out.1 = .OK pt :=
          receive_of_walk hC h.valid (walk_of_reach hC h hlt hindex hopen hr)
        rw [hok]
        rfl
    refine ⟨?_, ?_, ?_⟩
    · intro hacc
      exact ⟨f, pt, hget,
        receive_of_walk hC h.valid (walk_of_reach hC h hlt hindex hopen (hreach.1 hacc))⟩
    · intro hge
      rw [hreach]
      constructor
      · rintro (hwin | hback)
        · exact hwin.2
        · omega
      · exact fun hwin => .inl ⟨hge, hwin⟩
    · intro hbehind
      rw [hreach]
      constructor
      · rintro (hwin | hback)
        · omega
        · exact hback.2
      · exact fun hwait => .inr ⟨hbehind, hwait⟩
  · intro hrej
    have hout := receive_outcome hC l.session h.valid d
    change Outcome C l.session d out.1 out.2 at hout
    generalize out = o at hrej hout
    obtain ⟨rc, s'⟩ := o
    cases hout with
    | refused _ _ => rfl
    | previous | straggler | ahead => cases hrej

/-! ## A concrete epoch -/

def indexKey (hi lo : UInt8) : Key32 :=
  Vector.ofFn fun j => if j.val = 0 then hi else if j.val = 1 then lo else 0

def keyTag (key : Key32) : Tag16 := Vector.ofFn fun j => key[j.val]

def indexCrypto : DmCrypto where
  hkdf_sha256 := fun _ _ info => some (indexKey (info.reverse.getD 1 0) (info.reverse.getD 0 0))
  hmac_sha256 := fun _ _ => some .zero
  x25519_dh := fun _ _ => some .zero
  aes256gcm_encrypt := fun key _ pt _ => some (pt, keyTag key)
  aes256gcm_decrypt := fun key _ ct _ tag => if tag = keyTag key then some ct else none

lemma indexCrypto_gcmCorrect : indexCrypto.GcmCorrect := by
  intro key nonce pt aad
  refine ⟨pt, keyTag key, rfl, rfl, ?_⟩
  dsimp only [indexCrypto]
  rw [if_pos rfl]

lemma epoch_key_indexCrypto (ck : Key32) (i : ℕ) :
    epoch_key indexCrypto ck i =
      indexKey (ofNat i >>> 8).toUInt8 (ofNat i &&& 0xFF).toUInt8 := by
  unfold epoch_key message_key mk_info indexCrypto
  simp only [reverse_append, reverse_cons, reverse_nil, nil_append,
    cons_append, getD_cons_zero, getD_cons_succ, Option.getD_some]

lemma keyTag_indexKey_inj {hi lo hi' lo' : UInt8}
    (heq : keyTag (indexKey hi lo) = keyTag (indexKey hi' lo')) : hi = hi' ∧ lo = lo' := by
  constructor
  · have h0 := congrArg (fun t : Tag16 => t[0]) heq
    simpa [keyTag, indexKey] using h0
  · have h1 := congrArg (fun t : Tag16 => t[1]) heq
    simpa [keyTag, indexKey] using h1

def endOf (addr_self addr_peer : UInt32) : Session :=
  (dm_session_ratchet_init_state indexCrypto .zero (Vector.replicate 128 0) addr_self addr_peer).2

def oneByte : Payload := ⟨⟨4, 1, 0, 7, 2, 1⟩, 1, Vector.replicate 12 0, [42]⟩

def frameAt (i : UInt16) : Frame :=
  ⟨⟨4, 1, 0, 7, 2, 1⟩, 1, Vector.replicate 12 0, ratchet_header 0 i ++ [42],
    keyTag (indexKey (i >>> 8).toUInt8 (i &&& 0xFF).toUInt8)⟩

lemma emit_two : emit indexCrypto (endOf 1 2) [oneByte, oneByte] =
    [(frameAt 0, [42]), (frameAt 1, [42])] := by
  decide +kernel

lemma no_previous : (endOf 2 1).ratchet.prev_recv.valid = false := by decide +kernel

lemma ideal_frameAt (i : UInt16)
    (hgen : genuine [(frameAt 0, [42]), (frameAt 1, [42])] i.toNat (frameAt i)) :
    IdealGcm indexCrypto [(frameAt 0, [42]), (frameAt 1, [42])] (endOf 2 1) (frameAt i) where
  only_genuine := by
    intro j hj hopen
    -- the key of `j` opens the frame only when it shows the frame's own index bytes
    rw [epoch_key_indexCrypto] at hopen
    have htag : (frameAt i).tag = keyTag (indexKey (ofNat j >>> 8).toUInt8
        (ofNat j &&& 0xFF).toUInt8) := by
      by_contra hne
      have hnone : opens indexCrypto (indexKey (ofNat j >>> 8).toUInt8
          (ofNat j &&& 0xFF).toUInt8) (frameAt i) = none := by
        dsimp only [opens, frameAt, ratchet_header, cons_append, nil_append, indexCrypto]
        exact if_neg hne
      rw [hnone] at hopen
      cases hopen
    obtain ⟨hhi, hlo⟩ := keyTag_indexKey_inj htag
    have hij : i = ofNat j := by
      rw [← be16_bytes i, hhi, hlo, be16_bytes]
    have hnat : i.toNat = j := by
      rw [hij, toNat_ofNat', Nat.mod_eq_of_lt hj]
    rw [← hnat]
    exact hgen
  own_key_only := by
    intro j _ key hkey
    rw [PrevKey, no_previous] at hkey
    cases hkey.1

theorem out_of_order_ratchet_swapped :
    .taken 0 ∈ (history indexCrypto (emit indexCrypto (endOf 1 2) [oneByte, oneByte]) (endOf 2 1)
        [frameAt 1, frameAt 0, frameAt 0]).events ∧
      (history indexCrypto (emit indexCrypto (endOf 1 2) [oneByte, oneByte]) (endOf 2 1)
        [frameAt 1, frameAt 0, frameAt 0]).events.count (.taken 0) ≤ 1 := by
  have hideal : ∀ d ∈ [frameAt 1, frameAt 0, frameAt 0],
      IdealGcm indexCrypto (emit indexCrypto (endOf 1 2) [oneByte, oneByte]) (endOf 2 1) d := by
    rw [emit_two]
    intro d hd
    simp only [mem_cons, not_mem_nil, or_false] at hd
    rcases hd with rfl | rfl | rfl
    · exact ideal_frameAt 1 (by decide +kernel)
    · exact ideal_frameAt 0 (by decide +kernel)
    · exact ideal_frameAt 0 (by decide +kernel)
  refine ⟨by decide +kernel, ?_⟩
  exact (out_of_order_ratchet indexCrypto (fun _ _ _ => rfl) indexCrypto_gcmCorrect
    (endOf 1 2) (endOf 2 1)
    (.handshake .zero .zero (Vector.replicate 128 0) 1 2 (by decide)) [oneByte, oneByte]
    (by rw [emit_two]; decide) [frameAt 1, frameAt 0, frameAt 0] hideal).1 0

end BrambleMesh.DmOutOfOrder
