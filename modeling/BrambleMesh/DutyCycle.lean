/-
The duty cycle of a node: what the airtime budget lets it put on the air in any hour
(components/radio/tx_gate.c). A lane holds at most half the cap and earns at most half of it; but
a change of the peer count fills every lane.
-/
import BrambleMesh.AirtimeBudget
import BrambleMesh.Lib.Run

namespace BrambleMesh.DutyCycle

open TokenBucket AirtimeBudget Run

/-! ## The run of the gate -/

structure Debit where
  time : ℕ
  airtime_ms : ℕ
deriving DecidableEq, Repr

structure Meter where
  budget : Budget
  now : ℕ
  log : List Debit

inductive Op
  | refill
  | send (tier : UInt8) (airtime_ms : ℕ)
  | set_mesh_size (peer_count : UInt8)
deriving DecidableEq, Repr

structure Event where
  time : ℕ
  op : Op
deriving DecidableEq, Repr

def step (m : Meter) (e : Event) : Meter :=
  match e.op with
  | .refill => ⟨airtime_budget_refill m.budget (UInt32.ofNat e.time), e.time, m.log⟩
  | .send tier airtime_ms =>
    if airtime_budget_can_transmit (airtime_budget_refill m.budget (UInt32.ofNat e.time)) tier
        airtime_ms then
      ⟨airtime_budget_debit (airtime_budget_refill m.budget (UInt32.ofNat e.time)) tier
        airtime_ms, e.time, ⟨e.time, airtime_ms⟩ :: m.log⟩
    else ⟨airtime_budget_refill m.budget (UInt32.ofNat e.time), e.time, m.log⟩
  | .set_mesh_size peer_count =>
    ⟨airtime_budget_set_mesh_size m.budget peer_count, e.time, m.log⟩

def start (now : ℕ) (max_duty_cycle_pct : UInt8) : Meter :=
  ⟨airtime_budget_set_duty_cap (airtime_budget_init (UInt32.ofNat now)) max_duty_cycle_pct true,
    now, []⟩

def sent_since (log : List Debit) (a : ℕ) : ℕ :=
  ((log.filter fun d => a ≤ d.time).map (·.airtime_ms)).sum

def sent_in_hour (log : List Debit) (a : ℕ) : ℕ :=
  ((log.filter fun d => a ≤ d.time ∧ d.time ≤ a + AIRTIME_REFILL_INTERVAL_MS).map
    (·.airtime_ms)).sum

def Timely (m : Meter) (e : Event) : Prop := m.now ≤ e.time
deriving Decidable

def GrantsNothing (m : Meter) (e : Event) : Prop :=
  match e.op with
  | .set_mesh_size peer_count =>
    m.budget.profile_peer_count = peer_count ∨
      (∀ d ∈ m.log, d.time + AIRTIME_REFILL_INTERVAL_MS < e.time) ∨
      ∀ i, m.budget.profile_max_ms peer_count i ≤ m.budget.tokens_ms i
  | _ => True

instance (m : Meter) : (e : Event) → Decidable (GrantsNothing m e)
  | ⟨_, .refill⟩ | ⟨_, .send ..⟩ => .isTrue trivial
  | ⟨_, .set_mesh_size _⟩ => inferInstanceAs (Decidable (_ ∨ (∀ d ∈ m.log, _) ∨ ∀ _, _ ≤ _))

/-! ## Windows of the log -/

lemma sent_in_hour_le (log : List Debit) (a : ℕ) : sent_in_hour log a ≤ sent_since log a := by
  induction log with
  | nil => exact le_rfl
  | cons d log ih =>
    simp only [sent_in_hour, sent_since, List.filter_cons] at ih ⊢
    split_ifs with hin hsince hsince <;> simp_all
    omega

lemma sent_since_cons (d : Debit) (log : List Debit) (a : ℕ) :
    sent_since (d :: log) a = (if a ≤ d.time then d.airtime_ms else 0) + sent_since log a := by
  unfold sent_since
  split_ifs with h <;> simp_all

lemma sent_since_eq_zero {log : List Debit} {a : ℕ} (h : ∀ d ∈ log, d.time < a) :
    sent_since log a = 0 := by
  unfold sent_since
  rw [List.filter_eq_nil_iff.2]
  · rfl
  · intro d hd
    simpa using h d hd

/-! ## The ledger of the open windows -/

structure Capped (q : ℕ) (ab : Budget) : Prop where
  base : ab.base_max_ms = base_ms
  cap : ab.duty_cap_ms = 36000 * q
  enforced : ab.duty_enforced
  fits : ∑ i, ab.max_ms i ≤ 18000 * q
  sound : ab.Sound

def Ledger (q d sent : ℕ) (ab : Budget) : Prop :=
  ∃ m spent : Lane → ℕ, ∑ i, m i ≤ 18000 * q ∧ ∑ i, spent i = sent ∧
    ∀ i, Covered AIRTIME_REFILL_INTERVAL_MS (m i) d (spent i) (ab.lane i)

variable {q d sent : ℕ} {ab : Budget}

/-- **An hour's worth of a ledger is within the cap.** -/
theorem Ledger.sent_le (h : Ledger q d sent ab) (hd : d ≤ AIRTIME_REFILL_INTERVAL_MS) :
    sent ≤ 36000 * q := by
  obtain ⟨m, spent, hm, rfl, hcov⟩ := h
  calc ∑ i, spent i ≤ ∑ i, 2 * m i := Finset.sum_le_sum fun i _ => (hcov i).spent_le hd
    _ = 2 * ∑ i, m i := (Finset.mul_sum ..).symm
    _ ≤ 36000 * q := by omega

lemma Capped.ledger (h : Capped q ab) : Ledger q 0 0 ab :=
  ⟨ab.max_ms, fun _ => 0, h.fits, Finset.sum_const_zero, fun i => (h.sound i).covered⟩

lemma Ledger.refill {d' : ℕ} {now_ms : UInt32} (h : Ledger q d sent ab) (hab : ab.Sound)
    (hd : d + (now_ms - ab.last_refill_ms).toNat ≤ d') :
    Ledger q d' sent (airtime_budget_refill ab now_ms) := by
  obtain ⟨m, spent, hm, hsent, hcov⟩ := h
  refine ⟨m, spent, hm, hsent, fun i => ?_⟩
  rw [lane_refill (hab i)]
  exact ((hcov i).refill _).mono hd

variable {tier : UInt8} {airtime_ms t : ℕ}

lemma Ledger.debit (h : Ledger q d sent ab)
    (hcan : airtime_budget_can_transmit ab tier airtime_ms) :
    Ledger q d (airtime_ms + sent) (airtime_budget_debit ab tier airtime_ms) := by
  obtain ⟨c, hsum, hle, hlane⟩ := debit_of_can_transmit hcan
  obtain ⟨m, spent, hm, hsent, hcov⟩ := h
  refine ⟨m, fun i => spent i + c i, hm, ?_, fun i => ?_⟩
  · rw [Finset.sum_add_distrib, hsent, hsum, Nat.add_comm]
  · rw [hlane i]
    exact (hcov i).spend (hle i)

lemma Ledger.apply_profile {peer_count : UInt8} (h : Ledger q d sent ab) (hab : ab.Sound)
    (hle : ∀ i, ab.profile_max_ms peer_count i ≤ ab.tokens_ms i) :
    Ledger q d sent (apply_profile ab peer_count) := by
  obtain ⟨m, spent, hm, hsent, hcov⟩ := h
  exact ⟨m, spent, hm, hsent, fun i => (hcov i).replace (hab i) (hle i)⟩

/-! ## The configuration -/

lemma Capped.refill (h : Capped q ab) (now_ms : UInt32) :
    Capped q (airtime_budget_refill ab now_ms) := by
  obtain ⟨hbase, hcap, henf⟩ := refill_config ab now_ms
  refine ⟨hbase.trans h.base, hcap.trans h.cap, henf.trans h.enforced, ?_, h.sound.refill now_ms⟩
  unfold airtime_budget_refill
  split <;> exact h.fits

lemma Capped.debit (h : Capped q ab)
    (hcan : airtime_budget_can_transmit ab tier airtime_ms) :
    Capped q (airtime_budget_debit ab tier airtime_ms) := by
  obtain ⟨hbase, hcap, henf, -⟩ := debit_config ab tier airtime_ms
  obtain ⟨c, -, -, hlane⟩ := debit_of_can_transmit hcan
  have hmax : ∀ i, (airtime_budget_debit ab tier airtime_ms).max_ms i = ab.max_ms i :=
    fun i => congrArg Bucket.capacity (hlane i)
  refine ⟨hbase.trans h.base, hcap.trans h.cap, henf.trans h.enforced, ?_, fun i => ?_⟩
  · simp only [hmax]
    exact h.fits
  · rw [hlane i]
    exact ⟨(Nat.sub_le _ _).trans (h.sound i).level_le, (h.sound i).carry_lt⟩

lemma capped_apply_profile (hq : 1 ≤ q) (hbase : ab.base_max_ms = base_ms)
    (hcap : ab.duty_cap_ms = 36000 * q) (henf : ab.duty_enforced) (peer_count : UInt8) :
    Capped q (apply_profile ab peer_count) :=
  ⟨hbase, hcap, henf, sum_profile_max_ms_le hbase hcap henf hq peer_count,
    sound_apply_profile ab peer_count⟩

/-! ## Every step keeps the windows within the cap -/

structure Clocked (q k : ℕ) (m : Meter) : Prop where
  last : m.budget.last_refill_ms = UInt32.ofNat k
  past : ∀ d ∈ m.log, d.time ≤ k
  windows : ∀ a, (∃ d ∈ m.log, a ≤ d.time) → m.now ≤ a + AIRTIME_REFILL_INTERVAL_MS →
    Ledger q (k - a) (sent_since m.log a) m.budget

structure Inv (q : ℕ) (m : Meter) : Prop where
  capped : Capped q m.budget
  clocked : ∃ k ≤ m.now, Clocked q k m
  hours : ∀ a, sent_in_hour m.log a ≤ 36000 * q

variable {m : Meter}

lemma Inv.refill (h : Inv q m) (ht : m.now ≤ t) :
    Clocked q t ⟨airtime_budget_refill m.budget (UInt32.ofNat t), t, m.log⟩ := by
  obtain ⟨k, hk, hclock⟩ := h.clocked
  refine ⟨refill_last_refill_ms _ _, fun d hd => ?_, fun a hlive hopen => ?_⟩
  · exact (hclock.past d hd).trans (hk.trans ht)
  · obtain ⟨d, hd, had⟩ := hlive
    have hak : a ≤ k := had.trans (hclock.past d hd)
    refine (hclock.windows a ⟨d, hd, had⟩ (ht.trans hopen)).refill h.capped.sound ?_
    have helapsed := elapsed_le (hk.trans ht)
    rw [hclock.last]
    omega

lemma Clocked.debit (hcap : Capped q ab) (h : Clocked q t ⟨ab, t, m.log⟩)
    (hcan : airtime_budget_can_transmit ab tier airtime_ms) :
    Clocked q t
      ⟨airtime_budget_debit ab tier airtime_ms, t, ⟨t, airtime_ms⟩ :: m.log⟩ := by
  refine ⟨(debit_config ab tier airtime_ms).2.2.2.trans h.last, ?_, fun a hlive hopen => ?_⟩
  · rw [List.forall_mem_cons]
    exact ⟨le_rfl, h.past⟩
  · have hat : a ≤ t := by
      obtain ⟨d, hd, had⟩ := hlive
      rcases List.mem_cons.1 hd with rfl | hd
      · exact had
      · exact had.trans (h.past d hd)
    rw [sent_since_cons, if_pos hat]
    refine Ledger.debit ?_ hcan
    by_cases hold : ∃ d ∈ m.log, a ≤ d.time
    · exact h.windows a hold hopen
    · -- the first debit of the window: what the lanes hold now is all there is
      push Not at hold
      rw [sent_since_eq_zero hold]
      obtain ⟨c, spent, hc, hspent, hcov⟩ := hcap.ledger
      exact ⟨c, spent, hc, hspent, fun i => (hcov i).mono (Nat.zero_le _)⟩

lemma Inv.send (h : Inv q m) (ht : m.now ≤ t)
    (hcan : airtime_budget_can_transmit (airtime_budget_refill m.budget (UInt32.ofNat t)) tier
      airtime_ms) :
    Inv q ⟨airtime_budget_debit (airtime_budget_refill m.budget (UInt32.ofNat t)) tier airtime_ms,
      t, ⟨t, airtime_ms⟩ :: m.log⟩ := by
  have hcap := h.capped.refill (UInt32.ofNat t)
  have hclock := (h.refill ht).debit hcap hcan
  refine ⟨hcap.debit hcan, ⟨t, le_rfl, hclock⟩, fun a => ?_⟩
  by_cases hin : a ≤ t ∧ t ≤ a + AIRTIME_REFILL_INTERVAL_MS
  · calc sent_in_hour (⟨t, airtime_ms⟩ :: m.log) a
        ≤ sent_since (⟨t, airtime_ms⟩ :: m.log) a := sent_in_hour_le _ _
      _ ≤ 36000 * q :=
        (hclock.windows a ⟨_, List.mem_cons_self, hin.1⟩ hin.2).sent_le
          (Nat.sub_le_iff_le_add'.2 hin.2)
  · rw [sent_in_hour, List.filter_cons_of_neg (by simpa using hin)]
    exact h.hours a

lemma Inv.set_mesh_size {peer_count : UInt8} (hq : 1 ≤ q) (h : Inv q m) (ht : m.now ≤ t)
    (hgrant : GrantsNothing m ⟨t, .set_mesh_size peer_count⟩) :
    Inv q ⟨airtime_budget_set_mesh_size m.budget peer_count, t, m.log⟩ := by
  obtain ⟨k, hk, hclock⟩ := h.clocked
  unfold airtime_budget_set_mesh_size
  split
  · exact ⟨h.capped, ⟨k, hk.trans ht, hclock.last, hclock.past,
      fun a hlive hopen => hclock.windows a hlive (ht.trans hopen)⟩, h.hours⟩
  · next hne =>
    refine ⟨capped_apply_profile hq h.capped.base h.capped.cap h.capped.enforced _,
      ⟨k, hk.trans ht, hclock.last, hclock.past, fun a hlive hopen => ?_⟩, h.hours⟩
    rcases hgrant with heq | hidle | hfull
    · exact absurd heq hne
    · -- after an idle hour no window with a debit in it is still open
      obtain ⟨d, hd, had⟩ := hlive
      exact absurd (lt_of_le_of_lt (Nat.add_le_add_right had _) (hidle d hd)) (not_lt.2 hopen)
    · exact (hclock.windows a hlive (ht.trans hopen)).apply_profile h.capped.sound hfull

lemma inv_step {e : Event} (hq : 1 ≤ q) (h : Inv q m) (ht : Timely m e)
    (hgrant : GrantsNothing m e) : Inv q (step m e) := by
  obtain ⟨t, op⟩ := e
  have hrefilled : Inv q ⟨airtime_budget_refill m.budget (UInt32.ofNat t), t, m.log⟩ :=
    ⟨h.capped.refill _, ⟨t, le_rfl, h.refill ht⟩, h.hours⟩
  cases op with
  | refill => exact hrefilled
  | send tier airtime_ms =>
    dsimp only [step]
    split
    · next hcan => exact h.send ht hcan
    · exact hrefilled
  | set_mesh_size peer_count => exact h.set_mesh_size hq ht hgrant

lemma inv_start {pct : UInt8} (now : ℕ) (hpct : 1 ≤ clamped_pct pct) :
    Inv (clamped_pct pct) (start now pct) := by
  refine ⟨capped_apply_profile hpct rfl rfl rfl _, ⟨now, le_rfl, rfl, ?_, ?_⟩, fun a => ?_⟩
  · intro d hd
    cases hd
  · rintro a ⟨d, hd, -⟩
    cases hd
  · exact Nat.zero_le _

lemma clamped_pct_bounds {pct : UInt8} (hpct : 1 ≤ pct) :
    1 ≤ clamped_pct pct ∧ clamped_pct pct ≤ pct.toNat := by
  unfold clamped_pct
  split
  · next h => exact ⟨by decide, (UInt8.lt_iff_toNat_lt.1 h).le⟩
  · exact ⟨UInt8.le_iff_toNat_le.1 hpct, le_rfl⟩

/-- **The duty cycle.** Under an enforced cap of at least one percent, where changes of the peer
count hand out no airtime, the airtime debited in any hour is at most that percentage of it. -/
theorem hour_within_duty_cap (now : ℕ) (pct : UInt8) (hpct : 1 ≤ pct) (es : List Event)
    (htime : Meets step Timely (start now pct) es)
    (hgrant : Meets step GrantsNothing (start now pct) es) (a : ℕ) :
    sent_in_hour (es.foldl step (start now pct)).log a ≤
      AIRTIME_REFILL_INTERVAL_MS / 100 * pct.toNat := by
  obtain ⟨hq, hle⟩ := clamped_pct_bounds hpct
  have hinv : Inv (clamped_pct pct) (es.foldl step (start now pct)) :=
    foldl_invariant (fun m e hm hC => inv_step hq hm hC.1 hC.2)
      (meets_and.2 ⟨htime, hgrant⟩) (inv_start now hq)
  exact (hinv.hours a).trans (Nat.mul_le_mul_left 36000 hle)

def quietResize : List Event :=
  [⟨1000, .send 1 4000⟩, ⟨2000, .send 2 2500⟩, ⟨3700000, .set_mesh_size 9⟩,
    ⟨3700001, .send 3 5000⟩]

theorem hour_within_duty_cap_quietResize :
    sent_in_hour (quietResize.foldl step (start 0 1)).log 1000 = 6500 ∧
      sent_in_hour (quietResize.foldl step (start 0 1)).log 1000 ≤ 36000 :=
  ⟨by decide +kernel,
    hour_within_duty_cap 0 1 (by decide) quietResize (by decide +kernel) (by decide +kernel) 1000⟩

def flappingPeer : List Event :=
  (List.range 10).flatMap fun i =>
    [⟨2000 * i, .send 1 4000⟩, ⟨2000 * i + 1000, .set_mesh_size (UInt8.ofNat (1 - i % 2))⟩]

/-- Each change of the peer count fills the lanes again: 40 seconds within the hour, where one
percent is 36. -/
theorem flappingPeer_exceeds_duty_cap :
    Meets step Timely (start 0 1) flappingPeer ∧
      AIRTIME_REFILL_INTERVAL_MS / 100 * 1 <
        sent_in_hour (flappingPeer.foldl step (start 0 1)).log 0 := by
  decide

end BrambleMesh.DutyCycle
