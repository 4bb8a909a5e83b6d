/-
Beacons and the airtime budget: components/radio/tx_gate.c, the beacon part of
`mesh_periodic_maintenance` in main/mesh_task.c, main/beacon_policy_calc.c. The interval is
stretched until the lane earns a beacon in it, but the jitter comes after the stretching.
-/
import BrambleMesh.AirtimeBudget
import BrambleMesh.Lib.Run

namespace BrambleMesh.BeaconBudget

open AirtimeBudget Run TokenBucket

/-! ## Time on air -/

structure Radio where
  sf : UInt8
  bw_hz : UInt32
  cr : UInt8
deriving DecidableEq, Repr

def bramble_calculate_airtime_us (payload_bytes sf bw_hz cr : ℕ) : ℕ :=
  let n_preamble := if 9 ≤ sf then 12 else 8
  -- low data rate optimisation
  let de := if 11 ≤ sf ∧ bw_hz ≤ 125000 then 1 else 0
  let num := 8 * payload_bytes + 28 + 16 - 4 * sf
  let den := 4 * (sf - 2 * de)
  let n_payload := 8 + (num + den - 1) / den * (cr + 4)
  let quarters := 4 * (n_preamble + n_payload) + 17
  (2 * quarters * 2 ^ sf * 1000000 + 4 * bw_hz) / (8 * bw_hz)

def toa_params (r : Radio) : ℕ × ℕ × ℕ :=
  let p : ℕ × ℕ × ℕ :=
    if r.sf < 5 ∨ r.sf > 12 ∨ r.bw_hz = 0 then (9, 125000, 1)
    else (r.sf.toNat, r.bw_hz.toNat, r.cr.toNat)
  if p.2.2 < 1 ∨ p.2.2 > 4 then (p.1, p.2.1, 1) else p

def tx_gate_cost_ms (r : Radio) (wire_len : UInt8) : ℕ :=
  let p := toa_params r
  (bramble_calculate_airtime_us wire_len.toNat p.1 p.2.1 p.2.2 + 999) / 1000

/-! ## The gate -/

inductive TxKind
  | DATA
  | DATA_BROADCAST
  | DATA_RETRY
  | FORWARD
  | MAILBOX
  | BEACON
  | ROUTING
  | ACK
  | RECEIPT
  | RECEIPT_FORWARD
  | PROBE
  | PROBE_REPLY
deriving DecidableEq, Repr

def tx_gate_kind_tier : TxKind → UInt8
  | .ROUTING | .ACK => AIRTIME_TIER_CRITICAL
  | .BEACON | .DATA_BROADCAST | .PROBE => AIRTIME_TIER_BROADCAST
  | .RECEIPT | .RECEIPT_FORWARD => AIRTIME_TIER_RECEIPT
  | .DATA | .DATA_RETRY | .FORWARD | .MAILBOX | .PROBE_REPLY => 0x01

structure Gate where
  budget : Budget
  radio : Radio
  beacon_wire_len : UInt8
  beacon_budget_exempt : Bool

inductive TxResult
  | OK
  | ERR_BUDGET
  | ERR_CHANNEL_BUSY
  | RADIO_ERR
deriving DecidableEq, Repr

def tx_gate_init (radio : Radio) (max_duty_cycle_pct : UInt8) (duty_cycle_enforced : Bool)
    (now : UInt32) : Gate :=
  ⟨airtime_budget_set_duty_cap (airtime_budget_init now) max_duty_cycle_pct duty_cycle_enforced,
    radio, 0, false⟩

def beacon_reserve_ms (g : Gate) (kind : TxKind) : ℕ :=
  if tx_gate_kind_tier kind ≠ AIRTIME_TIER_BROADCAST ∨ kind = .BEACON ∨ g.beacon_wire_len = 0 then 0
  else tx_gate_cost_ms g.radio g.beacon_wire_len

def beacon_exempt (g : Gate) (kind : TxKind) : Bool := g.beacon_budget_exempt && kind == .BEACON

def lbt_defers (kind : TxKind) : Bool := kind == .RECEIPT

structure Air where
  quiet : Bool
  radio_ok : Bool
deriving DecidableEq, Repr

def tx_gate_transmit (g : Gate) (len : UInt8) (kind : TxKind) (now : UInt32) (air : Air) :
    Gate × TxResult :=
  let tier := tx_gate_kind_tier kind
  let cost_ms := tx_gate_cost_ms g.radio len
  let budget := airtime_budget_refill g.budget now
  if !beacon_exempt g kind &&
      !airtime_budget_can_transmit budget tier (cost_ms + beacon_reserve_ms g kind) then
    ({ g with budget := budget }, .ERR_BUDGET)
  else if !air.quiet && lbt_defers kind then ({ g with budget := budget }, .ERR_CHANNEL_BUSY)
  else if !air.radio_ok then ({ g with budget := budget }, .RADIO_ERR)
  else if beacon_exempt g kind then ({ g with budget := budget }, .OK)
  else ({ g with budget := airtime_budget_debit budget tier cost_ms }, .OK)

def tx_gate_set_mesh_size (g : Gate) (peer_count : UInt8) : Gate :=
  { g with budget := airtime_budget_set_mesh_size g.budget peer_count }

abbrev TX_GATE_BEACON_LANE_PCT : ℕ := 60

abbrev TX_GATE_BEACON_LIVENESS_CEILING_MS : ℕ := 480000

def earning_time (cost_ms per_hr : ℕ) : ℕ :=
  (cost_ms * AIRTIME_REFILL_INTERVAL_MS + per_hr - 1) / per_hr

def tx_gate_min_beacon_interval_ms (g : Gate) : ℕ :=
  if g.beacon_budget_exempt then 0
  else if g.beacon_wire_len = 0 then 0
  else
    let cost_ms := tx_gate_cost_ms g.radio g.beacon_wire_len
    let lane_per_hr := g.budget.max_ms AIRTIME_IDX_BROADCAST
    let beacon_budget_per_hr := lane_per_hr * TX_GATE_BEACON_LANE_PCT / 100
    if beacon_budget_per_hr = 0 then AIRTIME_REFILL_INTERVAL_MS
    else
      let interval := earning_time cost_ms beacon_budget_per_hr
      -- rather than vanish from neighbour tables, beacons may take the whole lane
      let interval :=
        if interval > TX_GATE_BEACON_LIVENESS_CEILING_MS ∧ 0 < lane_per_hr then
          if earning_time cost_ms lane_per_hr > TX_GATE_BEACON_LIVENESS_CEILING_MS then
            earning_time cost_ms lane_per_hr
          else TX_GATE_BEACON_LIVENESS_CEILING_MS
        else interval
      if interval > AIRTIME_REFILL_INTERVAL_MS then AIRTIME_REFILL_INTERVAL_MS else interval

/-! ## The maintenance loop -/

abbrev BEACON_JITTER_MS : UInt32 := 5000

def jitter_span (base_interval_ms : UInt32) : UInt32 :=
  if BEACON_JITTER_MS > base_interval_ms / 2 then base_interval_ms / 2 else BEACON_JITTER_MS

def beacon_next_interval_ms (base_interval_ms : UInt32) (rand16 : UInt16) : UInt32 :=
  let span := jitter_span base_interval_ms
  if span = 0 then base_interval_ms
  else base_interval_ms + (rand16.toUInt32 % (2 * span) - span)

def mesh_tx (g : Gate) (peers len : UInt8) (kind : TxKind) (now : UInt32) (air : Air) :
    Gate × TxResult :=
  tx_gate_transmit (tx_gate_set_mesh_size g peers) len kind now air

variable (wire_len : UInt8)

def send_beacon (g : Gate) (peers : UInt8) (now : UInt32) (air : Air) :
    Gate × TxResult :=
  mesh_tx { g with beacon_wire_len := wire_len } peers wire_len .BEACON now air

structure Beaconing where
  gate : Gate
  last_beacon_ms : UInt32
  beacon_interval : UInt32
  sent_ms : UInt32
  drawn : Bool

def base_interval (g : Gate) (policy : UInt32) : UInt32 :=
  let budget_floor := UInt32.ofNat (tx_gate_min_beacon_interval_ms g)
  if budget_floor > policy then budget_floor else policy

variable (s : Beaconing)

def Due (t : UInt32) : Prop := t - s.last_beacon_ms ≥ s.beacon_interval
deriving Decidable

def mesh_periodic_maintenance (t now policy : UInt32)
    (peers : UInt8) (rand16 : UInt16) (air : Air) : Beaconing × Option TxResult :=
  if Due s t then
    let sent := send_beacon wire_len s.gate peers now air
    (⟨sent.1, t, beacon_next_interval_ms (base_interval s.gate policy) rand16, now, true⟩,
      some sent.2)
  else (s, none)

def boot (radio : Radio) (max_duty_cycle_pct : UInt8)
    (duty_cycle_enforced : Bool) (peers : UInt8) (now : UInt32) (air : Air) : Beaconing :=
  ⟨(send_beacon wire_len (tx_gate_init radio max_duty_cycle_pct duty_cycle_enforced now) peers now
      air).1, now, 60000, now, false⟩

inductive Event
  | tick (t now policy : UInt32) (peers : UInt8) (rand16 : UInt16) (air : Air)
  | other (peers len : UInt8) (kind : TxKind) (now : UInt32) (air : Air)
  | check (now : UInt32)
deriving DecidableEq, Repr

def step : Event → Beaconing
  | .tick t now policy peers rand16 air =>
    (mesh_periodic_maintenance wire_len s t now policy peers rand16 air).1
  | .other peers len kind now air =>
    if kind = .BEACON then s else { s with gate := (mesh_tx s.gate peers len kind now air).1 }
  | .check now =>
    { s with gate := { s.gate with budget := airtime_budget_refill s.gate.budget now } }

/-! ## What is wanted -/

def Gate.lane (g : Gate) : Bucket := g.budget.lane AIRTIME_IDX_BROADCAST

def Holds (g : Gate) : Prop :=
  tx_gate_cost_ms g.radio wire_len ≤ g.lane.capacity
deriving Decidable

def Earns (g : Gate) (interval : ℕ) : Prop :=
  tx_gate_cost_ms g.radio wire_len * AIRTIME_REFILL_INTERVAL_MS ≤ g.lane.capacity * interval
deriving Decidable

def EarnsNext (s s' : Beaconing) (t : UInt32) : Prop :=
  Due s t → Earns wire_len s'.gate s'.beacon_interval.toNat
deriving Decidable

def Passed (t now : UInt32) : Prop :=
  Due s t → s.drawn → now - s.sent_ms ≥ s.beacon_interval
deriving Decidable

def Funded (ev : Event) : Prop :=
  Holds wire_len (step wire_len s ev).gate ∧
    match ev with
    | .tick t now .. => EarnsNext wire_len s (step wire_len s ev) t ∧ Passed s t now
    | _ => True

instance (ev : Event) : Decidable (Funded wire_len s ev) := by
  cases ev <;> unfold Funded <;> infer_instance

def Granted : Event → Prop
  | .tick t now policy peers rand16 air =>
    s.drawn →
      (mesh_periodic_maintenance wire_len s t now policy peers rand16 air).2 ≠ some .ERR_BUDGET
  | _ => True

instance (ev : Event) : Decidable (Granted wire_len s ev) := by
  cases ev <;> unfold Granted <;> infer_instance

/-! ## What the gate does to the lane -/

section

variable {wire_len : UInt8} {g : Gate} {sent interval now : UInt32}

def Gate.cost (g : Gate) (wire_len : UInt8) : ℕ := tx_gate_cost_ms g.radio wire_len

def Gate.refilled (g : Gate) (now : UInt32) : Bucket :=
  g.lane.refill AIRTIME_REFILL_INTERVAL_MS (now - g.budget.last_refill_ms).toNat

def taken (b : Bucket) (x : ℕ) : Bucket := ⟨b.capacity, b.level - x, b.carry⟩

structure Spends (g g' : Gate) (now : UInt32) (x : ℕ) : Prop where
  radio : g'.radio = g.radio
  len : g'.beacon_wire_len = g.beacon_wire_len
  exempt : g'.beacon_budget_exempt = g.beacon_budget_exempt
  clock : g'.budget.last_refill_ms = now
  lane : g'.lane = taken (g.refilled now) x

lemma Spends.refill (hsound : g.lane.Sound AIRTIME_REFILL_INTERVAL_MS) (now : UInt32) :
    Spends g { g with budget := airtime_budget_refill g.budget now } now 0 :=
  ⟨rfl, rfl, rfl, refill_last_refill_ms .., lane_refill hsound now⟩

lemma Spends.debit (hsound : g.lane.Sound AIRTIME_REFILL_INTERVAL_MS) (now : UInt32)
    (tier : UInt8) (cost_ms : ℕ)
    (henough : tier_idx tier = AIRTIME_IDX_BROADCAST → cost_ms ≤ (g.refilled now).level) :
    Spends g
      { g with budget := airtime_budget_debit (airtime_budget_refill g.budget now) tier cost_ms }
      now (if tier_idx tier = AIRTIME_IDX_BROADCAST then cost_ms else 0) := by
  have hlane : (airtime_budget_refill g.budget now).lane AIRTIME_IDX_BROADCAST = g.refilled now :=
    lane_refill hsound now
  refine ⟨rfl, rfl, rfl, ?_, ?_⟩
  · exact (debit_config _ tier cost_ms).2.2.2.trans (refill_last_refill_ms ..)
  · by_cases htier : tier_idx tier = AIRTIME_IDX_BROADCAST
    · have hle : cost_ms ≤
          (airtime_budget_refill g.budget now).tokens_ms AIRTIME_IDX_BROADCAST := by
        have hle := henough htier
        rw [← hlane] at hle
        exact hle
      rw [if_pos htier, ← hlane]
      unfold Gate.lane airtime_budget_debit
      rw [htier, if_pos hle]
      simp only [Budget.lane, taken, Function.update_self]
    · rw [if_neg htier, ← hlane]
      exact debit_broadcast_lane htier _ cost_ms

lemma can_transmit_broadcast (hsound : g.lane.Sound AIRTIME_REFILL_INTERVAL_MS) {tier : UInt8}
    (htier : tier_idx tier = AIRTIME_IDX_BROADCAST) (now : UInt32) (x : ℕ) :
    airtime_budget_can_transmit (airtime_budget_refill g.budget now) tier x ↔
      x ≤ (g.refilled now).level := by
  have hlane : (airtime_budget_refill g.budget now).lane AIRTIME_IDX_BROADCAST = g.refilled now :=
    lane_refill hsound now
  have hlevel : (airtime_budget_refill g.budget now).tokens_ms AIRTIME_IDX_BROADCAST =
      (g.refilled now).level := congrArg Bucket.level hlane
  have hcrit : ¬ AIRTIME_IDX_BROADCAST = AIRTIME_IDX_CRITICAL := by decide
  unfold airtime_budget_can_transmit
  rw [htier, hlevel, if_neg hcrit]
  simp

/-- **Other traffic leaves the cost of one beacon in the lane**, or takes nothing from it. -/
theorem transmit_other {kind : TxKind} (hsound : g.lane.Sound AIRTIME_REFILL_INTERVAL_MS)
    (hlen : g.beacon_wire_len ≠ 0) (hkind : kind ≠ .BEACON) (len : UInt8) (now : UInt32)
    (air : Air) :
    ∃ x, Spends g (tx_gate_transmit g len kind now air).1 now x ∧
      (x = 0 ∨ x + g.cost g.beacon_wire_len ≤ (g.refilled now).level) := by
  have hexempt : beacon_exempt g kind = false := by
    rw [beacon_exempt, beq_false_of_ne hkind, Bool.and_false]
  unfold tx_gate_transmit
  dsimp only
  rw [hexempt]
  by_cases hcan : airtime_budget_can_transmit (airtime_budget_refill g.budget now)
      (tx_gate_kind_tier kind) (tx_gate_cost_ms g.radio len + beacon_reserve_ms g kind)
  · rw [hcan]
    by_cases hbusy : (!air.quiet && lbt_defers kind)
    · rw [if_pos hbusy]
      exact ⟨0, Spends.refill hsound now, .inl rfl⟩
    · rw [if_neg hbusy]
      by_cases hradio : (!air.radio_ok)
      · rw [if_pos hradio]
        exact ⟨0, Spends.refill hsound now, .inl rfl⟩
      · rw [if_neg hradio]
        by_cases htier : tier_idx (tx_gate_kind_tier kind) = AIRTIME_IDX_BROADCAST
        · -- a broadcast kind has to leave the reserve
          have hreserve : beacon_reserve_ms g kind = g.cost g.beacon_wire_len := by
            have htier' : tx_gate_kind_tier kind = AIRTIME_TIER_BROADCAST := by
              revert htier
              cases kind <;> decide
            unfold beacon_reserve_ms
            rw [if_neg]
            · rfl
            · rintro (h | h | h)
              · exact h htier'
              · exact hkind h
              · exact hlen h
          rw [can_transmit_broadcast hsound htier, hreserve] at hcan
          have hspend := Spends.debit hsound now (tx_gate_kind_tier kind)
            (tx_gate_cost_ms g.radio len) fun _ => Nat.le_trans (Nat.le_add_right ..) hcan
          rw [if_pos htier] at hspend
          exact ⟨_, hspend, .inr hcan⟩
        · have hspend := Spends.debit hsound now (tx_gate_kind_tier kind)
            (tx_gate_cost_ms g.radio len) fun h => absurd h htier
          rw [if_neg htier] at hspend
          exact ⟨0, hspend, .inl rfl⟩
  · rw [Bool.eq_false_iff.2 hcan]
    exact ⟨0, Spends.refill hsound now, .inl rfl⟩

lemma transmit_beacon (hsound : g.lane.Sound AIRTIME_REFILL_INTERVAL_MS)
    (hexempt : g.beacon_budget_exempt = false) (len : UInt8) (now : UInt32) (air : Air) :
    (∃ x, Spends g (tx_gate_transmit g len .BEACON now air).1 now x) ∧
      ((tx_gate_transmit g len .BEACON now air).2 = .ERR_BUDGET ↔
        (g.refilled now).level < g.cost len) := by
  have hno : beacon_exempt g .BEACON = false := by rw [beacon_exempt, hexempt, Bool.false_and]
  have hreserve : beacon_reserve_ms g .BEACON = 0 := if_pos (.inr (.inl rfl))
  have htier : tier_idx (tx_gate_kind_tier .BEACON) = AIRTIME_IDX_BROADCAST := by decide
  unfold tx_gate_transmit
  dsimp only
  rw [hno, hreserve, Nat.add_zero]
  by_cases hcan : airtime_budget_can_transmit (airtime_budget_refill g.budget now)
      (tx_gate_kind_tier .BEACON) (tx_gate_cost_ms g.radio len)
  · rw [hcan]
    rw [can_transmit_broadcast hsound htier] at hcan
    have hnot : ¬ (g.refilled now).level < g.cost len := Nat.not_lt.2 hcan
    have hquiet : ¬ (!air.quiet && lbt_defers .BEACON) := by
      rw [show lbt_defers .BEACON = false from rfl, Bool.and_false]
      exact Bool.false_ne_true
    rw [if_neg hquiet]
    by_cases hradio : (!air.radio_ok)
    · rw [if_pos hradio]
      exact ⟨⟨0, Spends.refill hsound now⟩, iff_of_false TxResult.noConfusion hnot⟩
    · rw [if_neg hradio]
      exact ⟨⟨_, Spends.debit hsound now _ _ fun _ => hcan⟩,
        iff_of_false TxResult.noConfusion hnot⟩
  · have hlt := hcan
    rw [can_transmit_broadcast hsound htier] at hlt
    rw [Bool.eq_false_iff.2 hcan]
    exact ⟨⟨0, Spends.refill hsound now⟩, iff_of_true rfl (Nat.lt_of_not_le hlt)⟩

/-! ## What is kept for the next beacon -/

structure Ready (wire_len : UInt8) (g : Gate) : Prop where
  len : g.beacon_wire_len = wire_len
  exempt : g.beacon_budget_exempt = false
  sound : g.lane.Sound AIRTIME_REFILL_INTERVAL_MS

def Paid (wire_len : UInt8) (g : Gate) (sent interval : UInt32) : Prop :=
  g.cost wire_len ≤ g.lane.level ∨
    Earns wire_len g interval.toNat ∧
      ∃ d, UInt32.ofNat d = g.budget.last_refill_ms - sent ∧
        g.lane.capacity * d ≤ g.lane.level * AIRTIME_REFILL_INTERVAL_MS + g.lane.carry

lemma Ready.refilled_sound (h : Ready wire_len g) (now : UInt32) :
    (g.refilled now).Sound AIRTIME_REFILL_INTERVAL_MS :=
  h.sound.refill (by decide) _

lemma Ready.spends {g' : Gate} {x : ℕ} (h : Ready wire_len g) (hs : Spends g g' now x) :
    Ready wire_len g' := by
  refine ⟨hs.len.trans h.len, hs.exempt.trans h.exempt, ?_⟩
  rw [hs.lane]
  have hsound := h.refilled_sound now
  exact ⟨Nat.le_trans (Nat.sub_le ..) hsound.level_le, hsound.carry_lt⟩

lemma Spends.holds_iff {g' : Gate} {x : ℕ} (hs : Spends g g' now x) :
    Holds wire_len g' ↔ Holds wire_len g := by
  unfold Holds
  rw [hs.radio, hs.lane]
  rfl

lemma Paid.refilled (h : Paid wire_len g sent interval) (hready : Ready wire_len g)
    (hholds : Holds wire_len g) (now : UInt32) :
    g.cost wire_len ≤ (g.refilled now).level ∨
      Earns wire_len g interval.toNat ∧
        ∃ d, UInt32.ofNat d = now - sent ∧
          g.lane.capacity * d ≤
            (g.refilled now).level * AIRTIME_REFILL_INTERVAL_MS + (g.refilled now).carry := by
  rcases h with h | ⟨hearns, d, hd, hfunds⟩
  · exact .inl (Nat.le_trans h (hready.sound.level_le_refill _))
  · have hrefill : Funds AIRTIME_REFILL_INTERVAL_MS (g.cost wire_len)
        (d + (now - g.budget.last_refill_ms).toNat) (g.refilled now) :=
      Funds.refill (.inr hfunds) hholds _
    rcases hrefill with hrefill | hrefill
    · exact .inl hrefill
    · refine .inr ⟨hearns, _, ?_, hrefill⟩
      rw [UInt32.ofNat_add, UInt32.ofNat_toNat]
      grind

lemma Paid.refill (h : Paid wire_len g sent interval) (hready : Ready wire_len g)
    (hholds : Holds wire_len g) {g' : Gate} (hs : Spends g g' now 0) :
    Paid wire_len g' sent interval := by
  unfold Paid Gate.cost Earns
  rw [hs.radio, hs.clock, hs.lane]
  exact h.refilled hready hholds now

lemma Paid.other {kind : TxKind} (h : Paid wire_len g sent interval) (hready : Ready wire_len g)
    (hholds : Holds wire_len g) (hlen : wire_len ≠ 0) (hkind : kind ≠ .BEACON) (len : UInt8)
    (now : UInt32) (air : Air) :
    Paid wire_len (tx_gate_transmit g len kind now air).1 sent interval := by
  obtain ⟨x, hs, rfl | hx⟩ := transmit_other hready.sound (by rw [hready.len]; exact hlen) hkind len
    now air
  · exact h.refill hready hholds hs
  · left
    unfold Gate.cost at hx ⊢
    rw [hready.len] at hx
    rw [hs.radio, hs.lane]
    exact Nat.le_sub_of_add_le (by omega)

lemma Paid.due (h : Paid wire_len g sent interval) (hready : Ready wire_len g)
    (hholds : Holds wire_len g) (hdue : now - sent ≥ interval) :
    g.cost wire_len ≤ (g.refilled now).level := by
  rcases h.refilled hready hholds now with h | ⟨hearns, d, hd, hfunds⟩
  · exact h
  · have hle : interval.toNat ≤ d := by
      rw [← hd] at hdue
      exact Nat.le_trans hdue (Nat.mod_le ..)
    have hfund : Funds AIRTIME_REFILL_INTERVAL_MS (g.cost wire_len) d (g.refilled now) :=
      .inr hfunds
    exact hfund.le_level (hready.refilled_sound now)
      (Nat.le_trans hearns (Nat.mul_le_mul_left _ hle))

lemma set_mesh_size_cases (g : Gate) (peers : UInt8) :
    tx_gate_set_mesh_size g peers = g ∨
      (tx_gate_set_mesh_size g peers).lane.level =
        (tx_gate_set_mesh_size g peers).lane.capacity := by
  unfold tx_gate_set_mesh_size airtime_budget_set_mesh_size
  split_ifs
  · exact .inl rfl
  · exact .inr rfl

lemma Ready.set_mesh_size (h : Ready wire_len g) (peers : UInt8) :
    Ready wire_len (tx_gate_set_mesh_size g peers) := by
  refine ⟨h.len, h.exempt, ?_⟩
  unfold tx_gate_set_mesh_size airtime_budget_set_mesh_size
  split_ifs
  · exact h.sound
  · exact sound_apply_profile g.budget peers AIRTIME_IDX_BROADCAST

lemma Paid.set_mesh_size (h : Paid wire_len g sent interval) {peers : UInt8}
    (hholds : Holds wire_len (tx_gate_set_mesh_size g peers)) :
    Paid wire_len (tx_gate_set_mesh_size g peers) sent interval := by
  rcases set_mesh_size_cases g peers with heq | hfull
  · rw [heq]
    exact h
  · left
    rw [hfull]
    exact hholds

end

/-! ## The run -/

section

variable {wire_len : UInt8} {s : Beaconing}

structure Inv (wire_len : UInt8) (s : Beaconing) : Prop where
  ready : Ready wire_len s.gate
  holds : Holds wire_len s.gate
  paid : s.drawn → Paid wire_len s.gate s.sent_ms s.beacon_interval

lemma send_beacon_spec (wire_len : UInt8) {g : Gate} (hexempt : g.beacon_budget_exempt = false)
    (hsound : g.lane.Sound AIRTIME_REFILL_INTERVAL_MS) (peers : UInt8) (now : UInt32) (air : Air) :
    let g₁ := tx_gate_set_mesh_size { g with beacon_wire_len := wire_len } peers
    Ready wire_len g₁ ∧
      (∃ x, Spends g₁ (send_beacon wire_len g peers now air).1 now x) ∧
      ((send_beacon wire_len g peers now air).2 = .ERR_BUDGET ↔
        (g₁.refilled now).level < g₁.cost wire_len) := by
  intro g₁
  have hlen : Ready wire_len { g with beacon_wire_len := wire_len } := ⟨rfl, hexempt, hsound⟩
  have hready : Ready wire_len g₁ := hlen.set_mesh_size peers
  exact ⟨hready, transmit_beacon hready.sound hready.exempt wire_len now air⟩

lemma step_due {t : UInt32} (hdue : Due s t) (wire_len : UInt8) (now policy : UInt32)
    (peers : UInt8) (rand16 : UInt16) (air : Air) :
    step wire_len s (.tick t now policy peers rand16 air) =
      ⟨(send_beacon wire_len s.gate peers now air).1, t,
        beacon_next_interval_ms (base_interval s.gate policy) rand16, now, true⟩ := by
  simp only [step, mesh_periodic_maintenance, if_pos hdue]

lemma Inv.step (hlen : wire_len ≠ 0) (h : Inv wire_len s) {ev : Event}
    (hev : Funded wire_len s ev) : Inv wire_len (step wire_len s ev) := by
  obtain ⟨hholds, hearns⟩ := hev
  cases ev with
  | tick t now policy peers rand16 air =>
    by_cases hdue : Due s t
    · obtain ⟨hready, ⟨x, hs⟩, -⟩ := send_beacon_spec wire_len h.ready.exempt
        h.ready.sound peers now air
      have hnext := hearns.1 hdue
      rw [step_due hdue] at hholds hnext ⊢
      refine ⟨hready.spends hs, hholds, fun _ => .inr ⟨hnext, 0, ?_, Nat.zero_le _⟩⟩
      rw [hs.clock, UInt32.sub_self]
      rfl
    · simp only [BeaconBudget.step, mesh_periodic_maintenance, if_neg hdue]
      exact h
  | other peers len kind now air =>
    by_cases hkind : kind = .BEACON
    · have heq : BeaconBudget.step wire_len s (.other peers len kind now air) = s := if_pos hkind
      rw [heq]
      exact h
    · have heq : BeaconBudget.step wire_len s (.other peers len kind now air) =
          { s with gate := (mesh_tx s.gate peers len kind now air).1 } := if_neg hkind
      rw [heq] at hholds ⊢
      have hready := h.ready.set_mesh_size peers
      obtain ⟨x, hs, -⟩ := transmit_other hready.sound (by rw [hready.len]; exact hlen) hkind len
        now air
      have hholds' : Holds wire_len (tx_gate_set_mesh_size s.gate peers) := hs.holds_iff.1 hholds
      exact ⟨hready.spends hs, hholds, fun hdrawn =>
        ((h.paid hdrawn).set_mesh_size hholds').other hready hholds' hlen hkind len now air⟩
  | check now =>
    have hs := Spends.refill h.ready.sound now
    exact ⟨h.ready.spends hs, hholds, fun hdrawn =>
      (h.paid hdrawn).refill h.ready h.holds hs⟩

lemma Inv.granted (h : Inv wire_len s) {ev : Event} (hev : Funded wire_len s ev) :
    Granted wire_len s ev := by
  cases ev with
  | tick t now policy peers rand16 air =>
    intro hdrawn
    by_cases hdue : Due s t
    · obtain ⟨hready, ⟨x, hs⟩, hdenied⟩ := send_beacon_spec wire_len h.ready.exempt
        h.ready.sound peers now air
      have hholds : Holds wire_len (send_beacon wire_len s.gate peers now air).1 := by
        have hholds := hev.1
        rw [step_due hdue] at hholds
        exact hholds
      have hholds' := hs.holds_iff.1 hholds
      -- registering the size of the beacon changes nothing
      have hsame : { s.gate with beacon_wire_len := wire_len } = s.gate := by
        rw [← h.ready.len]
      have hpaid := h.paid hdrawn
      rw [← hsame] at hpaid
      have hlevel := (hpaid.set_mesh_size hholds').due hready hholds' (hev.2.2 hdue hdrawn)
      rw [mesh_periodic_maintenance, if_pos hdue]
      intro heq
      exact absurd (hdenied.1 (Option.some.inj heq)) (Nat.not_lt.2 hlevel)
    · rw [mesh_periodic_maintenance, if_neg hdue]
      simp
  | other => trivial
  | check => trivial

variable (radio : Radio) (max_duty_cycle_pct : UInt8) (duty_cycle_enforced : Bool)

/-- **Beacons are granted**: whatever else is sent and however the clock wraps, no beacon whose
interval was drawn by the loop is denied, as long as the profiles hold one beacon and each drawn
interval earns one. -/
theorem beacons_granted (wire_len : UInt8) (hlen : wire_len ≠ 0) (radio : Radio)
    (max_duty_cycle_pct : UInt8) (duty_cycle_enforced : Bool) (peers : UInt8) (now : UInt32)
    (air : Air) (es : List Event)
    (hholds : Holds wire_len
      (boot wire_len radio max_duty_cycle_pct duty_cycle_enforced peers now air).gate)
    (hfunded : Meets (step wire_len) (Funded wire_len)
      (boot wire_len radio max_duty_cycle_pct duty_cycle_enforced peers now air) es) :
    Meets (step wire_len) (Granted wire_len)
      (boot wire_len radio max_duty_cycle_pct duty_cycle_enforced peers now air) es := by
  have hboot : Inv wire_len
      (boot wire_len radio max_duty_cycle_pct duty_cycle_enforced peers now air) := by
    obtain ⟨hready, ⟨x, hs⟩, -⟩ := send_beacon_spec wire_len
      (g := tx_gate_init radio max_duty_cycle_pct duty_cycle_enforced now) rfl
      (sound_apply_profile _ _ _) peers now air
    exact ⟨hready.spends hs, hholds, fun hdrawn => absurd hdrawn Bool.false_ne_true⟩
  exact meets_imp (fun _ _ hs hev => hs.granted hev) (fun _ _ hs hev => hs.step hlen hev) hboot
    hfunded

theorem beacons_granted_quiet_mesh :
    let s := boot 63 ⟨9, 125000, 1⟩ 100 false 3 0 ⟨true, true⟩
    let es : List Event :=
      [.other 3 171 .DATA_BROADCAST 0 ⟨true, true⟩, .tick 60000 60010 60000 3 0 ⟨true, true⟩,
        .other 3 252 .DATA_BROADCAST 80000 ⟨true, true⟩, .check 90000,
        .tick 115000 115010 60000 3 0 ⟨true, true⟩]
    (Holds 63 s.gate ∧ Meets (step 63) (Funded 63) s es ∧
        (es.foldl (step 63) s).last_beacon_ms = 115000) ∧
      Meets (step 63) (Granted 63) s es :=
  ⟨by decide +kernel, beacons_granted 63 (by decide) _ _ _ _ _ _ _ (by decide +kernel)
    (by decide +kernel)⟩

/-- In a mesh of 50 under a limit of one per cent the jitter takes 5000 ms off the floor of 499728
ms, and the lane has earned 403 of the 407 ms. -/
theorem jittered_beacon_denied :
    let s := boot 63 ⟨9, 125000, 1⟩ 1 true 50 0 ⟨true, true⟩
    let es : List Event :=
      [.other 50 171 .DATA_BROADCAST 0 ⟨true, true⟩,
        .other 50 252 .DATA_BROADCAST 60000 ⟨true, true⟩,
        .tick 60000 60000 60000 50 0 ⟨true, true⟩]
    let s' := es.foldl (step 63) s
    Holds 63 s.gate ∧ s'.drawn = true ∧ tx_gate_min_beacon_interval_ms s'.gate = 499728 ∧
      s'.beacon_interval = 494728 ∧
      (mesh_periodic_maintenance 63 s' 554728 554728 60000 50 0 ⟨true, true⟩).2 = some .ERR_BUDGET ∧
      ¬ Meets (step 63) (Granted 63) s (es ++ [.tick 554728 554728 60000 50 0 ⟨true, true⟩]) := by
  decide

end

end BrambleMesh.BeaconBudget
