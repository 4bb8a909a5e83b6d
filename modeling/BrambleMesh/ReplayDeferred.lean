/-
The second replay tier: components/replay_window/replay_deferred.c, and how `handle_data` strings
the two tiers together. The window slot of a sender silent for 15 minutes may be given away, and
then its history is forgotten.
-/
import BrambleMesh.ReplayWindow

open BrambleMesh.Run BrambleMesh.SlidingWindow BrambleMesh.ReplayWindow Function

namespace BrambleMesh.ReplayDeferred

/-! ## The source -/

abbrev REPLAY_DEFERRED_MAX : ℕ := 128

def DEFERRED_SKEW_S : UInt32 := 300

def DEFERRED_TTL_S : UInt32 := 86400

structure ReplayDslot where
  src : UInt32
  counter : UInt64
  seen_s : UInt32
  used : Bool
deriving DecidableEq, Repr

structure Deferred where
  slots : Fin REPLAY_DEFERRED_MAX → ReplayDslot
  evictions : UInt32
  evict_denied : UInt32

def replay_deferred_init : Deferred := ⟨fun _ => ⟨0, 0, 0, false⟩, 0, 0⟩

def age_s (now_s : UInt32) (s : ReplayDslot) : UInt32 := now_s - s.seen_s

def dslot_alloc (d : Deferred) (now_s : UInt32) :
    Deferred × Option (Fin REPLAY_DEFERRED_MAX) :=
  match Table.find (fun s => !s.used) d.slots with
  | some i => (d, some i)
  | none =>
    let oldest := Table.argmax (fun s => (age_s now_s s).toNat) d.slots
    -- a record that could still stop a replay is never given up
    if age_s now_s (d.slots oldest) ≤ DEFERRED_TTL_S then
      ({ d with evict_denied := d.evict_denied + 1 }, none)
    else ({ d with evictions := d.evictions + 1 }, some oldest)

def find_record (d : Deferred) (src : UInt32) (counter : UInt64) :
    Option (Fin REPLAY_DEFERRED_MAX) :=
  Table.find (fun s => s.used && s.src == src && s.counter == counter) d.slots

def put_record (d : Deferred) (i : Fin REPLAY_DEFERRED_MAX) (src : UInt32)
    (counter : UInt64) (now_s : UInt32) : Deferred :=
  { d with slots := update d.slots i ⟨src, counter, now_s, true⟩ }

def out_of_bound (sent_at_s now_s : UInt32) : Bool :=
  sent_at_s > now_s + DEFERRED_SKEW_S ||
    (now_s > sent_at_s && now_s - sent_at_s > DEFERRED_TTL_S)

def replay_deferred_accept (d : Deferred) (src : UInt32) (counter : UInt64)
    (sent_at_s now_s : UInt32) (timesync_ok : Bool) : Deferred × ReplayResult :=
  -- without a trusted clock the date of a frame proves nothing
  if !timesync_ok then (d, .BELOW_WINDOW)
  else if out_of_bound sent_at_s now_s then (d, .BELOW_WINDOW)
  else
    match find_record d src counter with
    | some _ => (d, .REJECT_DUP)
    | none =>
      match dslot_alloc d now_s with
      | (d, none) => (d, .BELOW_WINDOW)
      | (d, some i) => (put_record d i src counter now_s, .ACCEPT)

def replay_deferred_mark_seen (d : Deferred) (src : UInt32) (counter : UInt64)
    (now_s : UInt32) : Deferred :=
  match find_record d src counter with
  | some i => { d with slots := update d.slots i { d.slots i with seen_s := now_s } }
  | none =>
    match dslot_alloc d now_s with
    | (d, none) => d
    | (d, some i) => put_record d i src counter now_s

/-! ## The two tiers in line -/

structure Frame where
  src : UInt32
  counter : UInt64
  sent_at : UInt32
  now_ms : UInt32
  now_s : UInt32
  timesync_ok : Bool
deriving DecidableEq, Repr

def Frame.call (f : Frame) : Call := ⟨f.src, f.counter, f.now_ms⟩

structure TwoTier where
  window : ReplayTable
  deferred : Deferred
  clock : UInt32

def TwoTier.init : TwoTier := ⟨replay_table_init, replay_deferred_init, 0⟩

def offer (bound : Bool) (s : TwoTier) (f : Frame) : TwoTier × Bool :=
  let window := after s.window f.call
  match answer s.window f.call with
  | .ACCEPT =>
    -- the window has taken the counter although the frame is dropped here
    if bound && f.timesync_ok && out_of_bound f.sent_at f.now_s then
      ({ s with window, clock := f.now_s }, false)
    else
      ({ window, deferred := replay_deferred_mark_seen s.deferred f.src f.counter f.now_s,
         clock := f.now_s }, true)
  | .BELOW_WINDOW =>
    let r := replay_deferred_accept s.deferred f.src f.counter f.sent_at f.now_s f.timesync_ok
    ({ window, deferred := r.1, clock := f.now_s }, r.2 == .ACCEPT)
  | _ => ({ s with window, clock := f.now_s }, false)

def step (bound : Bool) (s : TwoTier) (f : Frame) : TwoTier := (offer bound s f).1

def accepted (bound : Bool) (s : TwoTier) (f : Frame) : Bool := (offer bound s f).2

def Forward (s : TwoTier) (f : Frame) : Prop := s.clock ≤ f.now_s
deriving Decidable

/-! ## The records -/

def Records (d : Deferred) (i : Fin REPLAY_DEFERRED_MAX) (src : UInt32)
    (counter : UInt64) : Prop :=
  (d.slots i).used ∧ (d.slots i).src = src ∧ (d.slots i).counter = counter

variable {d : Deferred} {src t : UInt32} {counter : UInt64} {bound : Bool} {s : TwoTier}
  {f : Frame}

def Reusable (d : Deferred) (now_s : UInt32) (i : Fin REPLAY_DEFERRED_MAX) : Prop :=
  (d.slots i).used = false ∨ DEFERRED_TTL_S < age_s now_s (d.slots i)

lemma dslot_alloc_spec (d : Deferred) (now_s : UInt32) :
    (dslot_alloc d now_s).1.slots = d.slots ∧
      ∀ i, (dslot_alloc d now_s).2 = some i → Reusable d now_s i := by
  unfold dslot_alloc
  split
  · next i hfind =>
    refine ⟨rfl, fun j hj => ?_⟩
    obtain rfl : i = j := by simpa using hj
    left
    simpa using Table.find_some hfind
  · dsimp only
    split
    · exact ⟨rfl, fun j hj => absurd hj (by simp)⟩
    · next hold =>
      refine ⟨rfl, fun j hj => ?_⟩
      right
      rw [← Option.some.inj hj]
      exact UInt32.not_le.1 hold

def Writes (d d' : Deferred) (i : Fin REPLAY_DEFERRED_MAX) (src : UInt32)
    (counter : UInt64) (now_s : UInt32) : Prop :=
  d'.slots = update d.slots i ⟨src, counter, now_s, true⟩ ∧
    (Records d i src counter ∨ Reusable d now_s i)

lemma writes_put_record {d' : Deferred} {now_s : UInt32} {i : Fin REPLAY_DEFERRED_MAX}
    (halloc : dslot_alloc d now_s = (d', some i)) (src : UInt32) (counter : UInt64) :
    Writes d (put_record d' i src counter now_s) i src counter now_s := by
  obtain ⟨hslots, hreuse⟩ := dslot_alloc_spec d now_s
  rw [halloc] at hslots hreuse
  exact ⟨by rw [put_record, ← hslots], .inr (hreuse i rfl)⟩

lemma mark_seen_spec (d : Deferred) (src : UInt32) (counter : UInt64) (now_s : UInt32) :
    (∃ i, Writes d (replay_deferred_mark_seen d src counter now_s) i src counter now_s) ∨
      ((dslot_alloc d now_s).2 = none ∧
        (replay_deferred_mark_seen d src counter now_s).slots = d.slots) := by
  have hslots := (dslot_alloc_spec d now_s).1
  unfold replay_deferred_mark_seen
  cases hfind : find_record d src counter with
  | some i =>
    left
    have hp := Table.find_some hfind
    simp only [Bool.and_eq_true, beq_iff_eq] at hp
    obtain ⟨⟨hused, hsrc⟩, hctr⟩ := hp
    refine ⟨i, ?_, .inl ⟨hused, hsrc, hctr⟩⟩
    simp only [← hsrc, ← hctr, ← hused]
  | none =>
    simp only
    split
    · next d' halloc =>
      right
      rw [halloc] at hslots
      exact ⟨by rw [halloc], hslots⟩
    · next d' i halloc =>
      exact .inl ⟨i, writes_put_record halloc src counter⟩

lemma deferred_accept_spec (d : Deferred) (src : UInt32) (counter : UInt64)
    (sent_at now_s : UInt32) (ok : Bool) :
    ((replay_deferred_accept d src counter sent_at now_s ok).2 = .ACCEPT ∧
      out_of_bound sent_at now_s = false ∧ (∀ i, ¬ Records d i src counter) ∧
      ∃ i, Writes d (replay_deferred_accept d src counter sent_at now_s ok).1 i src counter
        now_s) ∨
    ((replay_deferred_accept d src counter sent_at now_s ok).2 ≠ .ACCEPT ∧
      (replay_deferred_accept d src counter sent_at now_s ok).1.slots = d.slots) := by
  have hslots := (dslot_alloc_spec d now_s).1
  unfold replay_deferred_accept
  by_cases hok : ok
  swap
  · right
    simp [hok]
  by_cases hbound : out_of_bound sent_at now_s
  · right
    simp [hbound]
  simp only [hok, hbound, Bool.not_true, Bool.false_eq_true, if_false]
  cases hfind : find_record d src counter with
  | some i =>
    right
    exact ⟨by simp, rfl⟩
  | none =>
    simp only
    split
    · next d' halloc =>
      right
      rw [halloc] at hslots
      exact ⟨by simp, hslots⟩
    · next d' i halloc =>
      left
      refine ⟨rfl, trivial, ?_, i, writes_put_record halloc src counter⟩
      rintro j ⟨hused, hsrc, hctr⟩
      have hp := Table.find_eq_none.1 hfind j
      simp [hused, hsrc, hctr] at hp

lemma deferred_cases (bound : Bool) (s : TwoTier) (f : Frame) :
    (step bound s f).deferred.slots = s.deferred.slots ∨
      ∃ i, Writes s.deferred (step bound s f).deferred i f.src f.counter f.now_s := by
  unfold step offer
  cases hans : answer s.window f.call with
  | ACCEPT =>
    simp only
    split
    · exact .inl rfl
    · rcases mark_seen_spec s.deferred f.src f.counter f.now_s with hw | ⟨-, hsame⟩
      · exact .inr hw
      · exact .inl hsame
  | BELOW_WINDOW =>
    rcases deferred_accept_spec s.deferred f.src f.counter f.sent_at f.now_s f.timesync_ok with
      ⟨-, -, -, hw⟩ | ⟨-, hsame⟩
    · exact .inr hw
    · exact .inl hsame
  | REJECT_DUP => exact .inl rfl
  | REJECT_NO_SLOT => exact .inl rfl

lemma step_window (bound : Bool) (s : TwoTier) (f : Frame) :
    (step bound s f).window = after s.window f.call := by
  unfold step offer
  cases answer s.window f.call with
  | ACCEPT =>
    simp only
    split <;> rfl
  | _ => rfl

lemma step_clock (bound : Bool) (s : TwoTier) (f : Frame) :
    (step bound s f).clock = f.now_s := by
  unfold step offer
  cases answer s.window f.call with
  | ACCEPT =>
    simp only
    split <;> rfl
  | _ => rfl

lemma accepted_cases (hacc : accepted bound s f) :
    (answer s.window f.call = .ACCEPT ∧ (step bound s f).deferred =
      replay_deferred_mark_seen s.deferred f.src f.counter f.now_s) ∨
    (answer s.window f.call = .BELOW_WINDOW ∧
      (replay_deferred_accept s.deferred f.src f.counter f.sent_at f.now_s
        f.timesync_ok).2 = .ACCEPT ∧
      (step bound s f).deferred = (replay_deferred_accept s.deferred f.src f.counter f.sent_at
        f.now_s f.timesync_ok).1) := by
  unfold accepted offer at hacc
  unfold step offer
  cases hans : answer s.window f.call with
  | ACCEPT =>
    left
    rw [hans] at hacc
    by_cases hb : (bound && f.timesync_ok && out_of_bound f.sent_at f.now_s)
    · simp [hb] at hacc
    · simp [hb]
  | BELOW_WINDOW =>
    right
    rw [hans] at hacc
    exact ⟨rfl, by simpa using hacc, rfl⟩
  | REJECT_DUP => simp [hans] at hacc
  | REJECT_NO_SLOT => simp [hans] at hacc

/-! ## Every run -/

structure Inv (s : TwoTier) : Prop where
  wf : Wf s.window
  tracks : ∀ a, ∃ H, Tracks s.window a H
  past : ∀ i, (s.deferred.slots i).used → (s.deferred.slots i).seen_s ≤ s.clock

lemma inv_init : Inv .init where
  wf := wf_init
  tracks := fun a => ⟨∅, by simp [TwoTier.init, replay_table_init, Owns], fun _ => rfl⟩
  past := by simp [TwoTier.init, replay_deferred_init]

lemma inv_step (bound : Bool) (s : TwoTier) (f : Frame) (h : Inv s) (hf : Forward s f) :
    Inv (step bound s f) where
  wf := by
    rw [step_window]
    exact wf_after h.wf f.call
  tracks := by
    intro a
    rw [step_window]
    obtain ⟨H, hT⟩ := h.tracks a
    by_cases hev : Evicts s.window f.call a
    · exact ⟨∅, fun i hi => absurd ⟨i, hi⟩ hev.2, fun _ => rfl⟩
    · refine ⟨_, hT.after h.wf fun hh => ?_⟩
      by_contra hno
      exact hev ⟨hh, hno⟩
  past := by
    intro i hused
    rw [step_clock]
    rcases deferred_cases bound s f with hsame | ⟨j, hslots, -⟩
    · rw [hsame] at hused ⊢
      exact UInt32.le_trans (h.past i hused) hf
    · rw [hslots] at hused ⊢
      by_cases hij : i = j
      · subst hij
        rw [update_self]
        exact UInt32.le_refl _
      · rw [update_of_ne hij] at hused ⊢
        exact UInt32.le_trans (h.past i hused) hf

structure Guarded (s : TwoTier) (src : UInt32) (counter : UInt64) (t : UInt32) : Prop where
  blocked : ∃ H, Tracks s.window src H ∧ Holds s.window src ∧ ¬ Admits 64 H counter.toNat
  recorded : (∃ i, Records s.deferred i src counter ∧ t ≤ (s.deferred.slots i).seen_s) ∨
    t.toNat + 86400 < s.clock.toNat

lemma blocked_after {w : ReplayTable} (hwf : Wf w) {c : Call} {n : ℕ}
    (hb : ∃ H, Tracks w src H ∧ Holds w src ∧ ¬ Admits 64 H n) (hkept : ¬ Evicts w c src) :
    ∃ H, Tracks (after w c) src H ∧ Holds (after w c) src ∧ ¬ Admits 64 H n := by
  obtain ⟨H, hT, hheld, hno⟩ := hb
  have hheld' : Holds (after w c) src := by
    by_contra hgone
    exact hkept ⟨hheld, hgone⟩
  obtain ⟨i, hi⟩ := hheld
  refine ⟨_, hT.after hwf fun _ => hheld', hheld', ?_⟩
  apply (hT.slot i hi).2.not_admits_mono ?_ hno
  -- the accepted counters only grow
  split
  · exact Set.subset_insert _ _
  · exact subset_rfl

lemma recorded_after (h : Inv s) (hf : Forward s f)
    (hr : (∃ i, Records s.deferred i src counter ∧ t ≤ (s.deferred.slots i).seen_s) ∨ t.toNat +
      86400 < s.clock.toNat) :
    (∃ i, Records (step bound s f).deferred i src counter ∧
        t ≤ ((step bound s f).deferred.slots i).seen_s) ∨
      t.toNat + 86400 < (step bound s f).clock.toNat := by
  have hclock : s.clock.toNat ≤ f.now_s.toNat := hf
  rw [step_clock]
  rcases hr with ⟨i, hrec, ht⟩ | hover
  swap
  · right
    omega
  -- a frame writes at most one record, so only that one has to be looked at
  rcases deferred_cases bound s f with hsame | ⟨j, hslots, hwhy⟩
  · left
    refine ⟨i, ?_, ?_⟩
    · simpa only [Records, hsame] using hrec
    · rw [hsame]
      exact ht
  by_cases hij : i = j
  swap
  · left
    refine ⟨i, ?_, ?_⟩
    · simpa only [Records, hslots, update_of_ne hij] using hrec
    · rw [hslots, update_of_ne hij]
      exact ht
  subst hij
  rcases hwhy with ⟨-, hsrc, hctr⟩ | hfree | hold
  · -- the pair itself came again: its record is refreshed
    left
    refine ⟨i, ?_, ?_⟩
    · rw [Records, hslots, update_self]
      exact ⟨rfl, hsrc.symm.trans hrec.2.1, hctr.symm.trans hrec.2.2⟩
    · rw [hslots, update_self]
      exact UInt32.le_trans ht (UInt32.le_trans (h.past i hrec.1) hf)
  · rw [hrec.1] at hfree
    cases hfree
  · right
    -- the record was given up for its age, which is then the pair's age too
    have hage : (f.now_s - (s.deferred.slots i).seen_s).toNat =
        f.now_s.toNat - (s.deferred.slots i).seen_s.toNat :=
      UInt32.toNat_sub_of_le _ _ (UInt32.le_trans (h.past i hrec.1) hf)
    have hold' : 86400 < (f.now_s - (s.deferred.slots i).seen_s).toNat := hold
    have ht' : t.toNat ≤ (s.deferred.slots i).seen_s.toNat := ht
    omega

lemma guarded_of_accepted (h : Inv s) (hacc : accepted bound s f)
    (hroom : answer s.window f.call = .ACCEPT → (dslot_alloc s.deferred f.now_s).2 ≠ none) :
    Guarded (step bound s f) f.src f.counter f.now_s := by
  obtain ⟨H, hT⟩ := h.tracks f.src
  have hrec : ∀ d', (∃ i, Writes s.deferred d' i f.src f.counter f.now_s) →
      ∃ i, Records d' i f.src f.counter ∧ f.now_s ≤ (d'.slots i).seen_s := by
    rintro d' ⟨i, hslots, -⟩
    refine ⟨i, ?_, ?_⟩
    · rw [Records, hslots, update_self]
      exact ⟨rfl, rfl, rfl⟩
    · rw [hslots, update_self]
      exact UInt32.le_refl _
  have hanswer : answer s.window f.call ≠ .REJECT_NO_SLOT := by
    rcases accepted_cases hacc with ⟨hans, -⟩ | ⟨hans, -, -⟩ <;> rw [hans] <;> decide
  -- whichever tier accepted it, the window had a slot for the sender
  have hheld : Holds (after s.window f.call) f.src := holds_caller h.wf f.call hanswer
  have hT' := hT.after h.wf (c := f.call) fun _ => hheld
  constructor
  · rw [step_window]
    refine ⟨_, hT', hheld, ?_⟩
    rcases accepted_cases hacc with ⟨hans, -⟩ | ⟨hans, -, -⟩
    · rw [if_pos ⟨rfl, hans⟩]
      exact fun hadm => hadm.1 (Set.mem_insert _ _)
    · have hne : answer s.window f.call ≠ .ACCEPT := by
        rw [hans]
        decide
      rw [if_neg fun hand => hne hand.2]
      exact not_admits_of_rejected h.wf hT hne hanswer
  · left
    rcases accepted_cases hacc with ⟨hans, hdef⟩ | ⟨-, hdacc, hdef⟩
    · rw [hdef]
      rcases mark_seen_spec s.deferred f.src f.counter f.now_s with hw | ⟨hnone, -⟩
      · exact hrec _ hw
      · exact absurd hnone (hroom hans)
    · rw [hdef]
      rcases deferred_accept_spec s.deferred f.src f.counter f.sent_at f.now_s f.timesync_ok with
        ⟨-, -, -, hw⟩ | ⟨hno, -⟩
      · exact hrec _ hw
      · exact absurd hdacc hno

lemma not_accepted_of_guarded (h : Inv s) (hg : Guarded s f.src f.counter t) (hf : Forward s f)
    (hsent : f.sent_at ≤ t) :
    accepted bound s f = false := by
  obtain ⟨H, hT, -, hno⟩ := hg.blocked
  have hans : answer s.window f.call ≠ .ACCEPT := fun hacc =>
    hno ((answer_iff h.wf hT).1 hacc).2
  unfold accepted offer
  cases hcase : answer s.window f.call with
  | ACCEPT => exact absurd hcase hans
  | REJECT_DUP => rfl
  | REJECT_NO_SLOT => rfl
  | BELOW_WINDOW =>
    rcases deferred_accept_spec s.deferred f.src f.counter f.sent_at f.now_s f.timesync_ok with
      ⟨-, hbound, hfresh, -⟩ | ⟨hno, -⟩
    · exfalso
      rcases hg.recorded with ⟨i, hrec, -⟩ | hover
      · exact hfresh i hrec
      · -- the record may be gone, but by now the frame is more than 24 hours old
        have hclock : s.clock.toNat ≤ f.now_s.toNat := hf
        have hsent' : f.sent_at.toNat ≤ t.toNat := hsent
        have hlt : f.sent_at < f.now_s := UInt32.lt_iff_toNat_lt.2 (by omega)
        have hage : (f.now_s - f.sent_at).toNat = f.now_s.toNat - f.sent_at.toNat :=
          UInt32.toNat_sub_of_le _ _ (UInt32.le_of_lt hlt)
        have hold : DEFERRED_TTL_S < f.now_s - f.sent_at :=
          UInt32.lt_iff_toNat_lt.2 (by
            rw [show DEFERRED_TTL_S.toNat = 86400 from rfl]; omega)
        simp [out_of_bound, hlt, hold] at hbound
    · exact beq_eq_false_iff_ne.2 hno

/-- **At most once.** A (source, counter) pair accepted with frame `f` is not accepted again with
a later `g`, provided that the source kept its window slot, that the second tier had room for the
pair, and that `g` is not dated after the moment `f` was accepted. -/
theorem no_pair_accepted_twice (bound : Bool) (pre mid : List Frame) (f g : Frame)
    (hsrc : g.src = f.src) (hctr : g.counter = f.counter)
    (htime : Meets (step bound) Forward .init (pre ++ f :: (mid ++ [g])))
    (hkept : Meets (step bound) (fun s e => ¬ Evicts s.window e.call f.src)
      (step bound (pre.foldl (step bound) .init) f) mid)
    (hroom : answer (pre.foldl (step bound) .init).window f.call = .ACCEPT →
      (dslot_alloc (pre.foldl (step bound) .init).deferred f.now_s).2 ≠ none)
    (hsent : g.sent_at ≤ f.now_s)
    (hacc : accepted bound (pre.foldl (step bound) .init) f = true) :
    accepted bound (mid.foldl (step bound) (step bound (pre.foldl (step bound) .init) f)) g =
      false := by
  generalize hs : pre.foldl (step bound) .init = s at *
  obtain ⟨hpre, hrest⟩ := (meets_append _ _ _).1 htime
  rw [hs] at hrest
  obtain ⟨hf, hrest⟩ := hrest
  obtain ⟨hmid, hg, -⟩ := (meets_append _ _ _).1 hrest
  have hinv : Inv s := hs ▸ foldl_invariant (inv_step bound) hpre inv_init
  -- the invariant along `mid`: the pair stays guarded
  have hrun := foldl_invariant (I := fun s => Inv s ∧ Guarded s f.src f.counter f.now_s)
    (C := fun s e => Forward s e ∧ ¬ Evicts s.window e.call f.src)
    (fun s e hI hC => ⟨inv_step bound s e hI.1 hC.1,
      by rw [step_window]; exact blocked_after hI.1.wf hI.2.blocked hC.2,
      recorded_after hI.1 hC.1 hI.2.recorded⟩)
    (meets_and.2 ⟨hmid, hkept⟩)
    ⟨inv_step bound s f hinv hf, guarded_of_accepted hinv hacc hroom⟩
  rw [← hsrc, ← hctr] at hrun
  exact not_accepted_of_guarded hrun.1 hrun.2 hg hsent

theorem no_pair_accepted_twice_below_window :
    let f : Frame := ⟨7, 5, 10, 10000, 10, true⟩
    let h : Frame := ⟨7, 200, 11, 11000, 11, true⟩
    let g : Frame := ⟨7, 5, 10, 12000, 12, true⟩
    accepted true .init f = true ∧ accepted true (step true (step true .init f) h) g = false := by
  refine ⟨by decide +kernel, ?_⟩
  exact no_pair_accepted_twice true [] [⟨7, 200, 11, 11000, 11, true⟩] ⟨7, 5, 10, 10000, 10, true⟩
    ⟨7, 5, 10, 12000, 12, true⟩ rfl rfl (by decide +kernel) (by decide +kernel)
    (by decide +kernel) (by decide +kernel) (by decide +kernel)

/-! ## Where each condition fails -/

def frame (src : UInt32) (counter : ℕ) (sent_at now_s : UInt32) : Frame :=
  ⟨src, UInt64.ofNat counter, sent_at, now_s * 1000, now_s, true⟩

def AcceptedTwice (pre mid : List Frame) (f g : Frame) : Prop :=
  g.src = f.src ∧ g.counter = f.counter ∧
    Meets (step false) Forward .init (pre ++ f :: (mid ++ [g])) ∧
    accepted false (pre.foldl (step false) .init) f ∧
    accepted false (mid.foldl (step false) (step false (pre.foldl (step false) .init) f)) g
deriving Decidable

/-- A frame comes twice and is accepted twice. First, 128 live records fill the second tier, so the
frame of sender 2 is accepted without one. Second, the frame is dated 200 s ahead, and its record
is given up before the date runs out. Third, its sender has lost the window slot. -/
theorem pair_accepted_twice :
    AcceptedTwice ((List.range 128).map (frame 1 · 0 0)) [frame 2 200 80001 80001]
      (frame 2 5 80000 80000) (frame 2 5 80000 86402) ∧
    AcceptedTwice []
      ((List.range 127).map (fun n => frame 1 (100 + n) 0 0) ++ [frame 1 300 86401 86401])
      (frame 1 5 200 0) (frame 1 5 200 86450) ∧
    AcceptedTwice [] ((List.range 63).map (fun a => frame (UInt32.ofNat (a + 1)) 0 0 0) ++
      [frame 64 0 0 900]) (frame 0 0 0 0) (frame 0 0 0 900) := by
  refine ⟨?_, ?_, ?_⟩ <;> decide +kernel

end BrambleMesh.ReplayDeferred
