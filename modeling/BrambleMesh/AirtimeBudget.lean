/-
The airtime budget of a node: components/airtime/airtime_budget.c. Four lanes, each a token bucket
of milliseconds on the air, and a fifth that bounds what CRITICAL may borrow from NORMAL.
-/
import BrambleMesh.Lib.TokenBucket

namespace BrambleMesh.AirtimeBudget

open TokenBucket Function

/-! ## Lanes and profiles -/

abbrev AIRTIME_BUDGET_CRITICAL_MS : ℕ := 36000
abbrev AIRTIME_BUDGET_NORMAL_MS : ℕ := 18000
abbrev AIRTIME_BUDGET_BROADCAST_MS : ℕ := 18000
abbrev AIRTIME_BUDGET_RECEIPT_MS : ℕ := 12000
abbrev AIRTIME_REFILL_INTERVAL_MS : ℕ := 3600000
abbrev AIRTIME_BORROW_CAP_PCT : ℕ := 25

abbrev AIRTIME_TIER_CRITICAL : UInt8 := 0x02
abbrev AIRTIME_TIER_BROADCAST : UInt8 := 0x03
abbrev AIRTIME_TIER_RECEIPT : UInt8 := 0x04

abbrev Lane := Fin 4

abbrev AIRTIME_IDX_NORMAL : Lane := 0
abbrev AIRTIME_IDX_CRITICAL : Lane := 1
abbrev AIRTIME_IDX_BROADCAST : Lane := 2
abbrev AIRTIME_IDX_RECEIPT : Lane := 3

def tier_idx (tier : UInt8) : Lane :=
  if tier = AIRTIME_TIER_CRITICAL then AIRTIME_IDX_CRITICAL
  else if tier = AIRTIME_TIER_BROADCAST then AIRTIME_IDX_BROADCAST
  else if tier = AIRTIME_TIER_RECEIPT then AIRTIME_IDX_RECEIPT
  else AIRTIME_IDX_NORMAL

def profile_scale_pct (peer_count : UInt8) (idx : Lane) : ℕ :=
  if peer_count ≤ 8 then
    if idx = AIRTIME_IDX_BROADCAST then 400
    else if idx = AIRTIME_IDX_RECEIPT then 500
    else if idx = AIRTIME_IDX_NORMAL then 300
    else 100
  else if peer_count ≤ 15 then
    if idx = AIRTIME_IDX_BROADCAST ∨ idx = AIRTIME_IDX_RECEIPT then 250
    else if idx = AIRTIME_IDX_NORMAL then 150
    else 100
  else if 40 < peer_count then
    if idx = AIRTIME_IDX_BROADCAST then 60
    else if idx = AIRTIME_IDX_RECEIPT then 50
    else if idx = AIRTIME_IDX_NORMAL then 75
    else 100
  else 100

/-! ## The budget -/

structure Budget where
  tokens_ms : Lane → ℕ
  max_ms : Lane → ℕ
  base_max_ms : Lane → ℕ
  refill_remainder : Lane → ℕ
  last_refill_ms : UInt32
  profile_peer_count : UInt8
  duty_cap_ms : ℕ
  duty_enforced : Bool
  borrow_tokens_ms : ℕ
  borrow_max_ms : ℕ
  borrow_remainder : ℕ

def Budget.lane (ab : Budget) (i : Lane) : Bucket :=
  ⟨ab.max_ms i, ab.tokens_ms i, ab.refill_remainder i⟩

def Budget.borrow (ab : Budget) : Bucket :=
  ⟨ab.borrow_max_ms, ab.borrow_tokens_ms, ab.borrow_remainder⟩

def Budget.scaled_ms (ab : Budget) (peer_count : UInt8) (i : Lane) : ℕ :=
  if ab.base_max_ms i * profile_scale_pct peer_count i / 100 = 0 then 1
  else ab.base_max_ms i * profile_scale_pct peer_count i / 100

def Budget.profile_max_ms (ab : Budget) (peer_count : UInt8) (i : Lane) : ℕ :=
  let total := ∑ j, ab.scaled_ms peer_count j
  let window_target := ab.duty_cap_ms / 2
  if ab.duty_enforced ∧ 0 < window_target ∧ window_target < total then
    if ab.scaled_ms peer_count i * window_target / total = 0 then 1
    else ab.scaled_ms peer_count i * window_target / total
  else ab.scaled_ms peer_count i

def apply_profile (ab : Budget) (peer_count : UInt8) : Budget :=
  { ab with
    profile_peer_count := peer_count
    max_ms := ab.profile_max_ms peer_count
    tokens_ms := ab.profile_max_ms peer_count
    refill_remainder := fun _ => 0
    borrow_max_ms := ab.profile_max_ms peer_count AIRTIME_IDX_NORMAL * AIRTIME_BORROW_CAP_PCT / 100
    borrow_tokens_ms :=
      ab.profile_max_ms peer_count AIRTIME_IDX_NORMAL * AIRTIME_BORROW_CAP_PCT / 100
    borrow_remainder := 0 }

def base_ms : Lane → ℕ :=
  ![AIRTIME_BUDGET_NORMAL_MS, AIRTIME_BUDGET_CRITICAL_MS, AIRTIME_BUDGET_BROADCAST_MS,
    AIRTIME_BUDGET_RECEIPT_MS]

def airtime_budget_init (now_ms : UInt32) : Budget :=
  apply_profile
    { tokens_ms := base_ms, max_ms := base_ms, base_max_ms := base_ms,
      refill_remainder := fun _ => 0, last_refill_ms := now_ms, profile_peer_count := 0,
      duty_cap_ms := 0, duty_enforced := false, borrow_tokens_ms := 0, borrow_max_ms := 0,
      borrow_remainder := 0 } 0

def airtime_budget_set_mesh_size (ab : Budget) (peer_count : UInt8) : Budget :=
  if ab.profile_peer_count = peer_count then ab else apply_profile ab peer_count

def clamped_pct (max_duty_cycle_pct : UInt8) : ℕ :=
  if 100 < max_duty_cycle_pct then 100 else max_duty_cycle_pct.toNat

def airtime_budget_set_duty_cap (ab : Budget) (max_duty_cycle_pct : UInt8) (enforced : Bool) :
    Budget :=
  apply_profile
    { ab with
      duty_cap_ms := AIRTIME_REFILL_INTERVAL_MS / 100 * clamped_pct max_duty_cycle_pct
      duty_enforced := enforced } ab.profile_peer_count

def Budget.refilled (ab : Budget) (elapsed : ℕ) (now_ms : UInt32) : Budget :=
  { ab with
    tokens_ms := fun i => ((ab.lane i).refill AIRTIME_REFILL_INTERVAL_MS elapsed).level
    refill_remainder := fun i => ((ab.lane i).refill AIRTIME_REFILL_INTERVAL_MS elapsed).carry
    borrow_tokens_ms := (ab.borrow.refill AIRTIME_REFILL_INTERVAL_MS elapsed).level
    borrow_remainder := (ab.borrow.refill AIRTIME_REFILL_INTERVAL_MS elapsed).carry
    last_refill_ms := now_ms }

def airtime_budget_refill (ab : Budget) (now_ms : UInt32) : Budget :=
  if now_ms - ab.last_refill_ms = 0 then ab
  else ab.refilled (now_ms - ab.last_refill_ms).toNat now_ms

def Budget.deficit_ms (ab : Budget) (airtime_ms : ℕ) : ℕ :=
  airtime_ms - ab.tokens_ms AIRTIME_IDX_CRITICAL

def airtime_budget_can_transmit (ab : Budget) (tier : UInt8) (airtime_ms : ℕ) : Bool :=
  if airtime_ms ≤ ab.tokens_ms (tier_idx tier) then true
  else if tier_idx tier = AIRTIME_IDX_CRITICAL then
    ab.deficit_ms airtime_ms ≤ ab.tokens_ms AIRTIME_IDX_NORMAL &&
      ab.deficit_ms airtime_ms ≤ ab.borrow_tokens_ms
  else false

def Budget.borrowed_tokens_ms (ab : Budget) (airtime_ms : ℕ) : Lane → ℕ :=
  update (update ab.tokens_ms AIRTIME_IDX_CRITICAL 0) AIRTIME_IDX_NORMAL
    (if ab.deficit_ms airtime_ms ≤ ab.tokens_ms AIRTIME_IDX_NORMAL then
      ab.tokens_ms AIRTIME_IDX_NORMAL - ab.deficit_ms airtime_ms else 0)

def airtime_budget_debit (ab : Budget) (tier : UInt8) (airtime_ms : ℕ) : Budget :=
  if airtime_ms ≤ ab.tokens_ms (tier_idx tier) then
    { ab with
      tokens_ms := update ab.tokens_ms (tier_idx tier)
        (ab.tokens_ms (tier_idx tier) - airtime_ms) }
  else if tier_idx tier = AIRTIME_IDX_CRITICAL then
    { ab with
      tokens_ms := ab.borrowed_tokens_ms airtime_ms
      borrow_tokens_ms :=
        if ab.deficit_ms airtime_ms ≤ ab.borrow_tokens_ms then
          ab.borrow_tokens_ms - ab.deficit_ms airtime_ms else 0 }
  else { ab with tokens_ms := update ab.tokens_ms (tier_idx tier) 0 }

/-! ## What the operations do to a lane -/

def Budget.Sound (ab : Budget) : Prop := ∀ i, (ab.lane i).Sound AIRTIME_REFILL_INTERVAL_MS

lemma sound_apply_profile (ab : Budget) (peer_count : UInt8) :
    (apply_profile ab peer_count).Sound :=
  fun _ => ⟨le_rfl, Nat.zero_lt_succ _⟩

variable {ab : Budget}

lemma lane_refill {i : Lane} (hi : (ab.lane i).Sound AIRTIME_REFILL_INTERVAL_MS)
    (now_ms : UInt32) :
    (airtime_budget_refill ab now_ms).lane i =
      (ab.lane i).refill AIRTIME_REFILL_INTERVAL_MS (now_ms - ab.last_refill_ms).toNat := by
  unfold airtime_budget_refill
  split
  · next h => rw [h, UInt32.toNat_zero, refill_zero hi]
  · rfl

lemma Budget.Sound.refill (hab : ab.Sound) (now_ms : UInt32) :
    (airtime_budget_refill ab now_ms).Sound := by
  intro i
  rw [lane_refill (hab i)]
  exact (hab i).refill (by decide) _

lemma refill_config (ab : Budget) (now_ms : UInt32) :
    let ab' := airtime_budget_refill ab now_ms
    ab'.base_max_ms = ab.base_max_ms ∧ ab'.duty_cap_ms = ab.duty_cap_ms ∧
      ab'.duty_enforced = ab.duty_enforced := by
  unfold airtime_budget_refill
  split <;> exact ⟨rfl, rfl, rfl⟩

lemma refill_last_refill_ms (ab : Budget) (now_ms : UInt32) :
    (airtime_budget_refill ab now_ms).last_refill_ms = now_ms := by
  unfold airtime_budget_refill
  split
  · next h => exact (sub_eq_zero.mp h).symm
  · rfl

def Budget.borrow_shares (ab : Budget) (airtime_ms : ℕ) : Lane → ℕ :=
  ![ab.deficit_ms airtime_ms, ab.tokens_ms AIRTIME_IDX_CRITICAL, 0, 0]

lemma borrowed_tokens_ms_eq {airtime_ms : ℕ}
    (h : ab.deficit_ms airtime_ms ≤ ab.tokens_ms AIRTIME_IDX_NORMAL) (i : Lane) :
    ab.borrowed_tokens_ms airtime_ms i = ab.tokens_ms i - ab.borrow_shares airtime_ms i := by
  unfold Budget.borrowed_tokens_ms
  rw [if_pos h]
  fin_cases i
  · rfl
  · exact (Nat.sub_self _).symm
  · rfl
  · rfl

lemma debit_of_can_transmit {tier : UInt8} {airtime_ms : ℕ}
    (h : airtime_budget_can_transmit ab tier airtime_ms = true) :
    ∃ c : Lane → ℕ, ∑ i, c i = airtime_ms ∧ (∀ i, c i ≤ ab.tokens_ms i) ∧
      ∀ i, (airtime_budget_debit ab tier airtime_ms).lane i =
        ⟨ab.max_ms i, ab.tokens_ms i - c i, ab.refill_remainder i⟩ := by
  unfold airtime_budget_can_transmit at h
  unfold airtime_budget_debit
  split at h
  · next henough =>
    refine ⟨Pi.single (tier_idx tier) airtime_ms, ?_, fun i => ?_, fun i => ?_⟩
    · exact (Finset.sum_pi_single' _ _ _).trans (if_pos (Finset.mem_univ _))
    · by_cases hi : i = tier_idx tier
      · rw [hi, Pi.single_eq_same]
        exact henough
      · rw [Pi.single_eq_of_ne hi]
        exact Nat.zero_le _
    · rw [if_pos henough, Budget.lane]
      by_cases hi : i = tier_idx tier
      · simp only [hi, update_self, Pi.single_eq_same]
      · simp only [update_of_ne hi, Pi.single_eq_of_ne hi, Nat.sub_zero]
  · next hshort =>
    split at h
    · next hcrit =>
      have hnormal := of_decide_eq_true (Bool.and_eq_true_iff.mp h).1
      rw [if_neg hshort, if_pos hcrit]
      rw [hcrit] at hshort
      refine ⟨ab.borrow_shares airtime_ms, ?_, fun i => ?_, fun i => ?_⟩
      · change ab.deficit_ms airtime_ms + ab.tokens_ms AIRTIME_IDX_CRITICAL + 0 + 0 = _
        unfold Budget.deficit_ms
        omega
      · fin_cases i
        · exact hnormal
        · exact le_rfl
        · exact Nat.zero_le _
        · exact Nat.zero_le _
      · rw [← borrowed_tokens_ms_eq hnormal]
        rfl
    · cases h

lemma debit_config (ab : Budget) (tier : UInt8) (airtime_ms : ℕ) :
    let ab' := airtime_budget_debit ab tier airtime_ms
    ab'.base_max_ms = ab.base_max_ms ∧ ab'.duty_cap_ms = ab.duty_cap_ms ∧
      ab'.duty_enforced = ab.duty_enforced ∧ ab'.last_refill_ms = ab.last_refill_ms := by
  dsimp only [airtime_budget_debit]
  split_ifs <;> exact ⟨rfl, rfl, rfl, rfl⟩

lemma debit_broadcast_lane {tier : UInt8} (htier : tier_idx tier ≠ AIRTIME_IDX_BROADCAST)
    (ab : Budget) (airtime_ms : ℕ) :
    (airtime_budget_debit ab tier airtime_ms).lane AIRTIME_IDX_BROADCAST =
      ab.lane AIRTIME_IDX_BROADCAST := by
  have hcrit : AIRTIME_IDX_BROADCAST ≠ AIRTIME_IDX_CRITICAL := by decide
  have hnormal : AIRTIME_IDX_BROADCAST ≠ AIRTIME_IDX_NORMAL := by decide
  have hborrow : ab.borrowed_tokens_ms airtime_ms AIRTIME_IDX_BROADCAST =
      ab.tokens_ms AIRTIME_IDX_BROADCAST := by
    rw [Budget.borrowed_tokens_ms, update_of_ne hnormal, update_of_ne hcrit]
  unfold airtime_budget_debit
  by_cases henough : airtime_ms ≤ ab.tokens_ms (tier_idx tier)
  · rw [if_pos henough]
    simp only [Budget.lane, update_of_ne htier.symm]
  · rw [if_neg henough]
    by_cases hborrows : tier_idx tier = AIRTIME_IDX_CRITICAL
    · rw [if_pos hborrows]
      simp only [Budget.lane, hborrow]
    · rw [if_neg hborrows]
      simp only [Budget.lane, update_of_ne htier.symm]

/-! ## What a profile gives out

Under an enforced cap of `q` percent of an hour, 36000·q ms, the capacities of every profile
add up to at most half of it.  No lane is rounded up to 1 there: the smallest share, of the
receipts of a large mesh at one percent, is over a second. -/

lemma sum_shares_le {n : ℕ} (w : Fin n → ℕ) (target : ℕ) :
    ∑ i, w i * target / ∑ j, w j ≤ target := by
  rcases Nat.eq_zero_or_pos (∑ j, w j) with h0 | hpos
  · simp [h0]
  · refine Nat.le_of_mul_le_mul_right ?_ hpos
    calc (∑ i, w i * target / ∑ j, w j) * ∑ j, w j
        = ∑ i, w i * target / (∑ j, w j) * ∑ j, w j := Finset.sum_mul ..
      _ ≤ ∑ i, w i * target := Finset.sum_le_sum fun i _ => Nat.div_mul_le_self _ _
      _ = target * ∑ j, w j := by rw [← Finset.sum_mul, Nat.mul_comm]

lemma scaled_ms_bounds (hbase : ab.base_max_ms = base_ms) (peer_count : UInt8) (i : Lane) :
    6000 ≤ ab.scaled_ms peer_count i ∧ ab.scaled_ms peer_count i ≤ 72000 := by
  unfold Budget.scaled_ms profile_scale_pct
  rw [hbase]
  revert i
  by_cases h8 : peer_count ≤ 8
  · simp only [if_pos h8]
    decide
  by_cases h15 : peer_count ≤ 15
  · simp only [if_neg h8, if_pos h15]
    decide
  by_cases h40 : 40 < peer_count
  · simp only [if_neg h8, if_neg h15, if_pos h40]
    decide
  · simp only [if_neg h8, if_neg h15, if_neg h40]
    decide

/-- **The capacities of a profile fit half the cap.** -/
theorem sum_profile_max_ms_le {q : ℕ} (hbase : ab.base_max_ms = base_ms)
    (hcap : ab.duty_cap_ms = 36000 * q) (henf : ab.duty_enforced = true) (hq : 1 ≤ q)
    (peer_count : UInt8) : ∑ i, ab.profile_max_ms peer_count i ≤ 18000 * q := by
  have htarget : ab.duty_cap_ms / 2 = 18000 * q := by omega
  have htotal : ∑ j, ab.scaled_ms peer_count j ≤ 288000 :=
    (Finset.sum_le_card_nsmul _ _ 72000
      fun j _ => (scaled_ms_bounds hbase peer_count j).2).trans (by simp)
  simp only [Budget.profile_max_ms, htarget, henf, true_and]
  split_ifs with hover
  · -- no share is rounded to nothing
    have hshare : ∀ i, ab.scaled_ms peer_count i * (18000 * q) /
        ∑ j, ab.scaled_ms peer_count j ≠ 0 := by
      intro i
      have hpos : 0 < ∑ j, ab.scaled_ms peer_count j := by omega
      have hi := (scaled_ms_bounds hbase peer_count i).1
      have hmul : 6000 * (18000 * 1) ≤ ab.scaled_ms peer_count i * (18000 * q) :=
        Nat.mul_le_mul hi (Nat.mul_le_mul_left _ hq)
      exact (Nat.div_pos (by omega) hpos).ne'
    simp only [hshare, if_false]
    exact sum_shares_le _ _
  · omega

end BrambleMesh.AirtimeBudget
