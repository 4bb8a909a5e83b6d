/-
Retransmission: components/reliability/reliability.c, the acknowledgement tick in
main/mesh_task.c, and the receipt queue of main/mesh_reliability.c. It is the same bytes that go
out again.
-/
import BrambleMesh.Lib.Run
import BrambleMesh.Lib.Table

namespace BrambleMesh.Reliability

open Run Function
open Table (find find_some)

/-! ## Tiers -/

inductive MsgTier
  | BROADCAST
  | NORMAL
  | CRITICAL
deriving DecidableEq, Repr

def tier_max_retries : MsgTier → ℕ
  | .BROADCAST => 0
  | .NORMAL => 3
  | .CRITICAL => 8

def tier_base_delay_ms : MsgTier → UInt32
  | .BROADCAST => 0
  | .NORMAL => 2000
  | .CRITICAL => 3000

/-! ## Frames that wait for an acknowledgement -/

abbrev MAX_PENDING_ACKS : ℕ := 8

section

variable {α : Type*}

structure PendingAck (α : Type*) where
  packet_id : UInt32
  dest_addr : UInt32
  tier : MsgTier
  attempt : ℕ
  max_attempts : ℕ
  next_retry_ms : UInt32
  packet : α
  active : Bool
deriving DecidableEq, Repr

abbrev PendingAckTable (α : Type*) := Fin MAX_PENDING_ACKS → PendingAck α

def pending_ack (packet_id dest_addr : UInt32) (tier : MsgTier) (packet : α) (now_ms : UInt32) :
    PendingAck α :=
  ⟨packet_id, dest_addr, tier, 0, tier_max_retries tier, now_ms + tier_base_delay_ms tier, packet,
    true⟩

def pending_ack_add (table : PendingAckTable α) (packet_id dest_addr : UInt32) (tier : MsgTier)
    (packet : α) (now_ms : UInt32) : PendingAckTable α × Option (Fin MAX_PENDING_ACKS) :=
  match find (fun e => !e.active) table with
  | some i =>
    (update table i (pending_ack packet_id dest_addr tier packet now_ms), some i)
  | none => (table, none)

def pending_ack_remove (table : PendingAckTable α) (packet_id : UInt32) : PendingAckTable α :=
  match find (fun e => e.active && e.packet_id == packet_id) table with
  | some i => update table i { table i with active := false }
  | none => table

def pending_ack_is_active (table : PendingAckTable α) (packet_id : UInt32) : Bool :=
  packet_id != 0 && (find (fun e => e.active && e.packet_id == packet_id) table).isSome

variable {table : PendingAckTable α} {packet_id : UInt32}

lemma pending_ack_is_active_iff :
    pending_ack_is_active table packet_id ↔
      packet_id ≠ 0 ∧ ∃ i, (table i).active ∧ (table i).packet_id = packet_id := by
  unfold pending_ack_is_active
  rw [Bool.and_eq_true, bne_iff_ne]
  refine and_congr_right fun _ => ⟨fun h => ?_, fun ⟨i, hactive, hid⟩ => ?_⟩
  · obtain ⟨i, hi⟩ := Option.isSome_iff_exists.1 h
    have hfound := find_some hi
    rw [Bool.and_eq_true, beq_iff_eq] at hfound
    exact ⟨i, hfound⟩
  · obtain ⟨j, hj⟩ := Table.exists_find (p := fun e : PendingAck α =>
      e.active && e.packet_id == packet_id) (t := table) (i := i)
      (by rw [hactive, hid, beq_self_eq_true, Bool.and_self])
    rw [hj]
    rfl

lemma pending_ack_is_active_add (h : pending_ack_is_active table packet_id)
    (id dest_addr : UInt32) (tier : MsgTier) (packet : α) (now_ms : UInt32) :
    pending_ack_is_active (pending_ack_add table id dest_addr tier packet now_ms).1 packet_id =
      true := by
  unfold pending_ack_add
  rcases hfree : find (fun e : PendingAck α => !e.active) table with _ | j
  · exact h
  · obtain ⟨hne, i, hactive, hid⟩ := pending_ack_is_active_iff.1 h
    have hij : i ≠ j := by
      rintro rfl
      have hinactive := find_some hfree
      rw [hactive] at hinactive
      cases hinactive
    refine pending_ack_is_active_iff.2 ⟨hne, i, ?_⟩
    dsimp only
    rw [update_of_ne hij]
    exact ⟨hactive, hid⟩

lemma pending_ack_is_active_remove {id : UInt32}
    (h : pending_ack_is_active table packet_id) (hne : packet_id ≠ id) :
    pending_ack_is_active (pending_ack_remove table id) packet_id := by
  unfold pending_ack_remove
  rcases hfound : find (fun e : PendingAck α => e.active && e.packet_id == id) table with
    _ | j
  · exact h
  · obtain ⟨hzero, i, hactive, hid⟩ := pending_ack_is_active_iff.1 h
    have hij : i ≠ j := by
      rintro rfl
      have hid' := find_some hfound
      rw [Bool.and_eq_true, beq_iff_eq] at hid'
      exact hne (hid.symm.trans hid'.2)
    refine pending_ack_is_active_iff.2 ⟨hzero, i, ?_⟩
    dsimp only
    rw [update_of_ne hij]
    exact ⟨hactive, hid⟩

def rerr_ack_failfast_for_dest (table : PendingAckTable α) (dest_addr : UInt32) :
    PendingAckTable α := fun i =>
  if (table i).active && (table i).dest_addr == dest_addr then { table i with active := false }
  else table i

def backoff (tier : MsgTier) (attempt : ℕ) (random : UInt32) : UInt32 :=
  let delay := tier_base_delay_ms tier <<< UInt32.ofNat attempt
  let quarter := delay / 4
  if 0 < quarter then delay - quarter + random % (2 * quarter + 1) else delay

def retry (t random : UInt32) (pa : PendingAck α) : PendingAck α × Option α :=
  if !pa.active then (pa, none)
  else if t ≥ pa.next_retry_ms then
    if pa.attempt ≥ pa.max_attempts then ({ pa with active := false }, none)
    else
      ({ pa with
          attempt := pa.attempt + 1
          next_retry_ms := t + backoff pa.tier (pa.attempt + 1) random },
        some pa.packet)
  else (pa, none)

structure Tracker (α : Type*) where
  table : PendingAckTable α
  last_ack_tick : UInt32

def ack_tick (s : Tracker α) (t : UInt32) (random : Fin MAX_PENDING_ACKS → UInt32) :
    Tracker α × (Fin MAX_PENDING_ACKS → Option α) :=
  if t - s.last_ack_tick ≥ 1000 then
    (⟨fun i => (retry t (random i) (s.table i)).1, t⟩,
      fun i => (retry t (random i) (s.table i)).2)
  else (s, fun _ => none)

inductive Event (α : Type*)
  | tick (t : UInt32) (random : Fin MAX_PENDING_ACKS → UInt32)
  | add (packet_id dest_addr : UInt32) (tier : MsgTier) (packet : α) (now_ms : UInt32)
  | acked (packet_id : UInt32)
  | broken (dest_addr : UInt32)

def step (s : Tracker α) : Event α → Tracker α
  | .tick t random => (ack_tick s t random).1
  | .add packet_id dest_addr tier packet now_ms =>
    { s with table := (pending_ack_add s.table packet_id dest_addr tier packet now_ms).1 }
  | .acked packet_id => { s with table := pending_ack_remove s.table packet_id }
  | .broken dest_addr => { s with table := rerr_ack_failfast_for_dest s.table dest_addr }

/-! ## The schedule -/

def KeepsId (id : UInt32) : Event α → Prop
  | .add packet_id .. => packet_id ≠ id
  | _ => True

structure Resending (tier : MsgTier) (t₀ : UInt32) (p : α) (t : UInt32) (q : α) where
  table : PendingAckTable α
  id : UInt32
  dest_addr : UInt32
  i : Fin MAX_PENDING_ACKS
  s : Tracker α
  es : List (Event α)
  random : Fin MAX_PENDING_ACKS → UInt32
  added : pending_ack_add table id dest_addr tier p t₀ = (s.table, some i)
  keeps_id : ∀ ev ∈ es, KeepsId id ev
  still : ((es.foldl step s).table i).packet_id = id
  sent : (ack_tick (es.foldl step s) t random).2 i = some q

def Punctual (lag : ℕ) (s : Tracker α) : Event α → Prop
  | .tick t _ => s.last_ack_tick ≤ t ∧ t.toNat ≤ s.last_ack_tick.toNat + lag
  | _ => True

def Resending.OnTime {tier : MsgTier} {t₀ t : UInt32} {p q : α} (h : Resending tier t₀ p t q)
    (lag : ℕ) : Prop :=
  h.s.last_ack_tick ≤ t₀ ∧ Meets step (Punctual lag) h.s (h.es ++ [.tick t h.random])

def span (tier : MsgTier) : ℕ → ℕ
  | 0 => (tier_base_delay_ms tier).toNat
  | a + 1 =>
    let delay := (tier_base_delay_ms tier).toNat * 2 ^ (a + 1)
    span tier a + (delay + delay / 4)

lemma toNat_jitter_le {delay : UInt32} (hdelay : delay.toNat ≤ 768000) (random : UInt32) :
    (delay - delay / 4 + random % (2 * (delay / 4) + 1)).toNat ≤
      delay.toNat + delay.toNat / 4 := by
  have hquarter : (delay / 4).toNat = delay.toNat / 4 := UInt32.toNat_div ..
  have hwidth : (2 * (delay / 4) + 1).toNat = 2 * (delay.toNat / 4) + 1 := by
    have h2 : (2 : UInt32).toNat = 2 := rfl
    have h1 : (1 : UInt32).toNat = 1 := rfl
    rw [UInt32.toNat_add, UInt32.toNat_mul, h2]
    omega
  have hrandom : (random % (2 * (delay / 4) + 1)).toNat ≤ 2 * (delay.toNat / 4) := by
    rw [UInt32.toNat_mod, hwidth]
    exact Nat.le_of_lt_succ (Nat.mod_lt _ (Nat.succ_pos _))
  have hrest : (delay - delay / 4).toNat = delay.toNat - delay.toNat / 4 := by
    have hle : delay / 4 ≤ delay := UInt32.le_iff_toNat_le.2 (by rw [hquarter]; omega)
    rw [UInt32.toNat_sub_of_le _ _ hle, hquarter]
  rw [UInt32.toNat_add]
  omega

lemma toNat_backoff_le (tier : MsgTier) {a : ℕ} (ha : a < tier_max_retries tier)
    (random : UInt32) :
    span tier a + (backoff tier (a + 1) random).toNat ≤ span tier (a + 1) := by
  have hshift : (tier_base_delay_ms tier <<< UInt32.ofNat (a + 1)).toNat =
      (tier_base_delay_ms tier).toNat * 2 ^ (a + 1) := by
    cases tier <;> simp only [tier_max_retries] at ha <;> interval_cases a <;> rfl
  have hsmall : (tier_base_delay_ms tier).toNat * 2 ^ (a + 1) ≤ 768000 := by
    cases tier <;> simp only [tier_max_retries] at ha <;> interval_cases a <;> decide
  rw [span, ← hshift]
  rw [← hshift] at hsmall
  unfold backoff
  dsimp only
  split_ifs
  · exact Nat.add_le_add_left (toNat_jitter_le hsmall random) _
  · omega

/-! ## One slot of the table -/

structure Tracks (tier : MsgTier) (lag : ℕ) (t₀ last_ack_tick : UInt32) (pa : PendingAck α) :
    Prop where
  tier_eq : pa.tier = tier
  max_attempts : pa.max_attempts = tier_max_retries tier
  attempt_le : pa.attempt ≤ tier_max_retries tier
  not_before : last_ack_tick ≤ pa.next_retry_ms
  due : pa.next_retry_ms.toNat ≤ t₀.toNat + span tier pa.attempt + pa.attempt * lag

def NoWrap (tier : MsgTier) (lag : ℕ) (t₀ : UInt32) : Prop :=
  t₀.toNat + span tier (tier_max_retries tier) + tier_max_retries tier * lag < 2 ^ 32
deriving Decidable

variable {tier : MsgTier} {lag : ℕ} {t₀ t random last_ack_tick : UInt32} {p q : α}
  {pa : PendingAck α}

lemma span_mono (tier : MsgTier) : Monotone (span tier) :=
  monotone_nat_of_le_succ fun a => Nat.le_add_right (span tier a) _

lemma retry_frame (t random : UInt32) (pa : PendingAck α) :
    (retry t random pa).1.packet = pa.packet ∧
      (retry t random pa).1.packet_id = pa.packet_id ∧
      ((retry t random pa).1.active → pa.active) := by
  unfold retry
  split_ifs <;> simp

lemma retry_sent (h : (retry t random pa).2 = some q) :
    q = pa.packet ∧ pa.active ∧ pa.next_retry_ms ≤ t ∧ pa.attempt < pa.max_attempts := by
  unfold retry at h
  split_ifs at h with hoff hdue hmax
  exact ⟨(Option.some.inj h).symm, by simpa using hoff, hdue, Nat.lt_of_not_le hmax⟩

lemma Tracks.sent (h : Tracks tier lag t₀ last_ack_tick pa)
    (hlag : t.toNat ≤ last_ack_tick.toNat + lag) (hmax : pa.attempt < pa.max_attempts) :
    pa.attempt < tier_max_retries tier ∧
      t.toNat ≤ t₀.toNat + span tier pa.attempt + (pa.attempt + 1) * lag := by
  have hbefore := UInt32.le_iff_toNat_le.1 h.not_before
  have hnext := h.due
  refine ⟨h.max_attempts ▸ hmax, ?_⟩
  rw [Nat.add_mul]
  omega

lemma Tracks.ticked (h : Tracks tier lag t₀ last_ack_tick pa) (hwrap : NoWrap tier lag t₀)
    (hlag : t.toNat ≤ last_ack_tick.toNat + lag) (hactive : (retry t random pa).1.active) :
    Tracks tier lag t₀ t (retry t random pa).1 := by
  unfold retry at hactive ⊢
  split_ifs at hactive ⊢ with hoff hdue hmax
  · exact absurd hactive (Bool.eq_false_iff.1 (Bool.not_eq_true' _ ▸ hoff))
  · -- sent again: the next attempt is due within the next span
    obtain ⟨hlt, hsent⟩ := h.sent hlag (Nat.lt_of_not_le hmax)
    have hback := toNat_backoff_le tier hlt random
    have hspan : span tier (pa.attempt + 1) ≤ span tier (tier_max_retries tier) :=
      span_mono tier hlt
    have hlags : (pa.attempt + 1) * lag ≤ tier_max_retries tier * lag :=
      Nat.mul_le_mul_right lag hlt
    have hnext : (t + backoff tier (pa.attempt + 1) random).toNat =
        t.toNat + (backoff tier (pa.attempt + 1) random).toNat := by
      unfold NoWrap at hwrap
      rw [UInt32.toNat_add]
      omega
    refine ⟨h.tier_eq, h.max_attempts, hlt, ?_, ?_⟩
    · rw [h.tier_eq]
      exact UInt32.le_iff_toNat_le.2 (hnext ▸ Nat.le_add_right ..)
    · dsimp only
      rw [h.tier_eq]
      omega
  · exact ⟨h.tier_eq, h.max_attempts, h.attempt_le, UInt32.le_of_lt (UInt32.not_le.1 hdue),
      h.due⟩

/-! ## Runs of the table -/

inductive Moves (s : Tracker α) (ev : Event α) (i : Fin MAX_PENDING_ACKS) : Prop
  | same (hslot : (step s ev).table i = s.table i)
      (hlast : (step s ev).last_ack_tick = s.last_ack_tick)
  | ticked (t : UInt32) (random : Fin MAX_PENDING_ACKS → UInt32) (hev : ev = .tick t random)
      (hslot : (step s ev).table i = (retry t (random i) (s.table i)).1)
      (hlast : (step s ev).last_ack_tick = t)
  | given_up (hslot : ((step s ev).table i).active = false)
  | handed_on (packet_id dest_addr : UInt32) (tier : MsgTier) (packet : α) (now_ms : UInt32)
      (hev : ev = .add packet_id dest_addr tier packet now_ms)
      (hslot : ((step s ev).table i).packet_id = packet_id)

lemma step_moves (s : Tracker α) (ev : Event α) (i : Fin MAX_PENDING_ACKS) : Moves s ev i := by
  match ev with
  | .tick t random =>
    by_cases hdue : t - s.last_ack_tick ≥ 1000
    · have heq : step s (.tick t random) =
          ⟨fun i => (retry t (random i) (s.table i)).1, t⟩ := by
        rw [step, ack_tick, if_pos hdue]
      exact .ticked t random rfl (by rw [heq]) (by rw [heq])
    · have heq : step s (.tick t random) = s := by
        rw [step, ack_tick, if_neg hdue]
      exact .same (by rw [heq]) (by rw [heq])
  | .add packet_id dest_addr tier packet now_ms =>
    rcases hfree : find (fun e => !e.active) s.table with _ | j
    · refine .same ?_ rfl
      simp only [step, pending_ack_add, hfree]
    · have heq : (step s (.add packet_id dest_addr tier packet now_ms)).table =
          update s.table j (pending_ack packet_id dest_addr tier packet now_ms) := by
        simp only [step, pending_ack_add, hfree]
      by_cases hj : i = j
      · subst hj
        exact .handed_on packet_id dest_addr tier packet now_ms rfl
          (by rw [heq, update_self]; rfl)
      · exact .same (by rw [heq, update_of_ne hj]) rfl
  | .acked packet_id =>
    rcases hfound : find (fun e => e.active && e.packet_id == packet_id) s.table with _ | j
    · refine .same ?_ rfl
      simp only [step, pending_ack_remove, hfound]
    · have heq : (step s (.acked packet_id)).table =
          update s.table j { s.table j with active := false } := by
        simp only [step, pending_ack_remove, hfound]
      by_cases hj : i = j
      · subst hj
        exact .given_up (by rw [heq, update_self])
      · exact .same (by rw [heq, update_of_ne hj]) rfl
  | .broken dest_addr =>
    by_cases hdest : ((s.table i).active && (s.table i).dest_addr == dest_addr)
    · exact .given_up (by simp only [step, rerr_ack_failfast_for_dest, if_pos hdest])
    · exact .same (by simp only [step, rerr_ack_failfast_for_dest, if_neg hdest]) rfl

variable {id dest_addr : UInt32} {i : Fin MAX_PENDING_ACKS} {s : Tracker α} {ev : Event α}
  {table : PendingAckTable α}

lemma slot_step {P : UInt32 → PendingAck α → Prop}
    (h : (s.table i).active → (s.table i).packet_id = id → P s.last_ack_tick (s.table i))
    (hid : KeepsId id ev)
    (htick : ∀ t random, ev = .tick t random → P s.last_ack_tick (s.table i) →
      (retry t (random i) (s.table i)).1.active →
      P t (retry t (random i) (s.table i)).1) :
    ((step s ev).table i).active → ((step s ev).table i).packet_id = id →
      P (step s ev).last_ack_tick ((step s ev).table i) := by
  intro hactive hsame
  cases step_moves s ev i with
  | same hslot hlast =>
    rw [hslot] at hactive hsame ⊢
    rw [hlast]
    exact h hactive hsame
  | ticked t random hev hslot hlast =>
    rw [hslot] at hactive hsame ⊢
    rw [hlast]
    obtain ⟨-, hkept, hwas⟩ := retry_frame t (random i) (s.table i)
    exact htick t random hev (h (hwas hactive) (hkept.symm.trans hsame)) hactive
  | given_up hslot => exact absurd hactive (Bool.eq_false_iff.1 hslot)
  | handed_on packet_id dest_addr tier' packet now_ms hev hslot =>
    subst hev
    exact absurd (hslot.symm.trans hsame) hid

lemma slot_run {P : UInt32 → PendingAck α → Prop} {D : Tracker α → Event α → Prop}
    {es : List (Event α)} (h : P s.last_ack_tick (s.table i))
    (hid : ∀ ev ∈ es, KeepsId id ev) (hrun : Meets step D s es)
    (htick : ∀ (s : Tracker α) t random, D s (.tick t random) → P s.last_ack_tick (s.table i) →
      (retry t (random i) (s.table i)).1.active →
      P t (retry t (random i) (s.table i)).1)
    (hactive : ((es.foldl step s).table i).active)
    (hsame : ((es.foldl step s).table i).packet_id = id) :
    P (es.foldl step s).last_ack_tick ((es.foldl step s).table i) := by
  refine foldl_invariant (C := fun s ev => KeepsId id ev ∧ D s ev)
    (I := fun s : Tracker α => (s.table i).active → (s.table i).packet_id = id →
      P s.last_ack_tick (s.table i)) ?_
    (meets_and.2 ⟨meets_of_forall (fun _ => hid) s, hrun⟩) (fun _ _ => h) hactive hsame
  intro s ev hs hev
  refine slot_step hs hev.1 ?_
  rintro t random rfl
  exact htick s t random hev.2

lemma pending_ack_add_some {table' : PendingAckTable α}
    (h : pending_ack_add table id dest_addr tier p t₀ = (table', some i)) :
    table' i = pending_ack id dest_addr tier p t₀ := by
  unfold pending_ack_add at h
  split at h
  · obtain ⟨rfl, hi⟩ := Prod.mk.inj h
    rw [Option.some.inj hi, update_self]
  · exact absurd (Prod.mk.inj h).2.symm (Option.some_ne_none _)

lemma tracks_pending_ack (hwrap : NoWrap tier lag t₀) (hlast : last_ack_tick ≤ t₀) :
    Tracks tier lag t₀ last_ack_tick (pending_ack id dest_addr tier p t₀) := by
  have hnext : (t₀ + tier_base_delay_ms tier).toNat =
      t₀.toNat + (tier_base_delay_ms tier).toNat := by
    have hspan := span_mono tier (Nat.zero_le (tier_max_retries tier))
    have hzero : span tier 0 = (tier_base_delay_ms tier).toNat := rfl
    unfold NoWrap at hwrap
    rw [UInt32.toNat_add]
    omega
  refine ⟨rfl, rfl, Nat.zero_le _, ?_, hnext.le.trans (Nat.le_add_right _ _)⟩
  exact UInt32.le_trans hlast (UInt32.le_iff_toNat_le.2 (hnext ▸ Nat.le_add_right ..))

lemma ack_tick_sent {random : Fin MAX_PENDING_ACKS → UInt32}
    (h : (ack_tick s t random).2 i = some q) : (retry t (random i) (s.table i)).2 = some q := by
  unfold ack_tick at h
  split_ifs at h
  exact h

/-- **What is sent again is the frame itself.** -/
theorem Resending.same (h : Resending tier t₀ p t q) : q = p := by
  obtain ⟨hq, hactive, -⟩ := retry_sent (ack_tick_sent h.sent)
  have hstart : (h.s.table h.i).packet = p := by rw [pending_ack_add_some h.added, pending_ack]
  refine hq.trans (slot_run (P := fun _ pa => pa.packet = p) (D := fun _ _ => True) hstart
    h.keeps_id (meets_of_forall (fun _ _ _ => trivial) _) ?_ hactive h.still)
  intro s t random _ hpacket _
  exact (retry_frame t (random h.i) (s.table h.i)).1.trans hpacket

/-- **When it is sent again at the latest.**  With ticks that are on time, within the span of the
last attempt and the lag of as many ticks as there are attempts. -/
theorem Resending.by_span (h : Resending tier t₀ p t q) (hwrap : NoWrap tier lag t₀)
    (htime : h.OnTime lag) :
    t.toNat ≤ t₀.toNat + span tier (tier_max_retries tier - 1) + tier_max_retries tier * lag := by
  obtain ⟨-, hactive, -, hmax⟩ := retry_sent (ack_tick_sent h.sent)
  obtain ⟨hbefore, htick, -⟩ := (meets_append h.s h.es _).1 htime.2
  have hstart : Tracks tier lag t₀ h.s.last_ack_tick (h.s.table h.i) := by
    rw [pending_ack_add_some h.added]
    exact tracks_pending_ack hwrap htime.1
  have htracks := slot_run (P := Tracks tier lag t₀) hstart h.keeps_id hbefore
    (fun _ _ _ hon htracks => htracks.ticked hwrap hon.2) hactive h.still
  obtain ⟨hlt, hby⟩ := htracks.sent htick.2 hmax
  have hspan := span_mono tier (Nat.le_sub_one_of_lt hlt)
  have hlags : (((h.es.foldl step h.s).table h.i).attempt + 1) * lag ≤
      tier_max_retries tier * lag := Nat.mul_le_mul_right lag hlt
  omega

end

/-! ## Delivery receipts -/

abbrev RECEIPT_QUEUE_CAPACITY : ℕ := 8
abbrev RECEIPT_MAX_DEFERS : ℕ := 8
abbrev BROADCAST_RECEIPT_RETRY_COUNT : ℕ := 3

section

variable {α : Type*}

structure PendingReceipt (α : Type*) where
  used : Bool
  buf : α
  attempts_total : ℕ
  attempts_sent : ℕ
  defers : ℕ
  due_at_ms : UInt32
deriving DecidableEq, Repr

abbrev ReceiptQueue (α : Type*) := Fin RECEIPT_QUEUE_CAPACITY → PendingReceipt α

inductive TxResult
  | OK
  | ERR_BUDGET
  | ERR_CHANNEL_BUSY
  | ERR_RADIO
deriving DecidableEq, Repr

def queue_broadcast_delivery_receipt (queue : ReceiptQueue α) (buf : α) (due_at_ms : UInt32) :
    ReceiptQueue α × Option (Fin RECEIPT_QUEUE_CAPACITY) :=
  match find (fun item => !item.used) queue with
  | some i =>
    (update queue i ⟨true, buf, BROADCAST_RECEIPT_RETRY_COUNT, 0, 0, due_at_ms⟩, some i)
  | none => (queue, none)

def spend_attempt (item : PendingReceipt α) (due_at_ms : UInt32) : PendingReceipt α :=
  if item.attempts_sent + 1 ≥ item.attempts_total then { item with used := false }
  else
    { item with attempts_sent := item.attempts_sent + 1, defers := 0, due_at_ms := due_at_ms }

def after_attempt (item : PendingReceipt α) (rc : TxResult) (due_at_ms : UInt32) :
    PendingReceipt α :=
  if rc = .ERR_CHANNEL_BUSY ∧ item.defers + 1 < RECEIPT_MAX_DEFERS then
    { item with defers := item.defers + 1, due_at_ms := due_at_ms }
  else spend_attempt item due_at_ms

def mesh_process_receipt_tx_event (queue : ReceiptQueue α) (t_now : UInt32) (rc : TxResult)
    (due_at_ms : UInt32) : ReceiptQueue α × Option (Fin RECEIPT_QUEUE_CAPACITY) :=
  match find (fun item => item.used && item.due_at_ms ≤ t_now) queue with
  | some i => (update queue i (after_attempt (queue i) rc due_at_ms), some i)
  | none => (queue, none)

inductive ReceiptEvent (α : Type*)
  | queue (buf : α) (due_at_ms : UInt32)
  | tx (t_now : UInt32) (rc : TxResult) (due_at_ms : UInt32)

def receipt_step (queue : ReceiptQueue α) : ReceiptEvent α → ReceiptQueue α
  | .queue buf due_at_ms => (queue_broadcast_delivery_receipt queue buf due_at_ms).1
  | .tx t_now rc due_at_ms => (mesh_process_receipt_tx_event queue t_now rc due_at_ms).1

structure ReceiptResending (r q : α) where
  queue : ReceiptQueue α
  i : Fin RECEIPT_QUEUE_CAPACITY
  queued : ReceiptQueue α
  due_at_ms : UInt32
  es : List (ReceiptEvent α)
  t_now : UInt32
  rc : TxResult
  next_due_ms : UInt32
  added : queue_broadcast_delivery_receipt queue r due_at_ms = (queued, some i)
  waits : Meets receipt_step (fun queue _ => (queue i).used = true) queued es
  sent : (mesh_process_receipt_tx_event (es.foldl receipt_step queued) t_now rc next_due_ms).2 =
    some i
  bytes : ((es.foldl receipt_step queued) i).buf = q

/-- What an event offers to the radio from slot `i`, and what the radio makes of it. -/
def offers (i : Fin RECEIPT_QUEUE_CAPACITY) (queue : ReceiptQueue α) :
    ReceiptEvent α → List (α × TxResult)
  | .queue .. => []
  | .tx t_now rc due_at_ms =>
    if (mesh_process_receipt_tx_event queue t_now rc due_at_ms).2 = some i then
      [((queue i).buf, rc)]
    else []

variable {queue : ReceiptQueue α} {ev : ReceiptEvent α} {i : Fin RECEIPT_QUEUE_CAPACITY}

/-- A slot in use only changes by what the radio makes of its own receipt. -/
lemma receipt_step_slot (hused : (queue i).used) (ev : ReceiptEvent α) :
    (offers i queue ev = [] ∧ receipt_step queue ev i = queue i) ∨
      ∃ rc due_at_ms, offers i queue ev = [((queue i).buf, rc)] ∧
        receipt_step queue ev i = after_attempt (queue i) rc due_at_ms := by
  cases ev with
  | queue buf due_at_ms =>
    refine .inl ⟨rfl, ?_⟩
    rcases hfree : find (fun item => !item.used) queue with _ | j
    · simp only [receipt_step, queue_broadcast_delivery_receipt, hfree]
    · have hj : i ≠ j := by
        rintro rfl
        simpa [hused] using find_some hfree
      simp only [receipt_step, queue_broadcast_delivery_receipt, hfree, update_of_ne hj]
  | tx t_now rc due_at_ms =>
    rcases hdue : find (fun item => item.used && item.due_at_ms ≤ t_now) queue with _ | j
    · left
      simp [offers, receipt_step, mesh_process_receipt_tx_event, hdue]
    · by_cases hj : i = j
      · subst hj
        refine .inr ⟨rc, due_at_ms, ?_⟩
        simp [offers, receipt_step, mesh_process_receipt_tx_event, hdue]
      · left
        simp [offers, receipt_step, mesh_process_receipt_tx_event, hdue, hj, Ne.symm hj]

lemma receipt_step_buf (queue : ReceiptQueue α) (ev : ReceiptEvent α)
    (hused : (queue i).used) : (receipt_step queue ev i).buf = (queue i).buf := by
  rcases receipt_step_slot hused ev with ⟨-, hslot⟩ | ⟨rc, due_at_ms, -, hslot⟩
  · rw [hslot]
  · rw [hslot]
    unfold after_attempt spend_attempt
    split_ifs <;> rfl

/-- **What is sent again is the receipt itself.** -/
theorem ReceiptResending.same {r q : α} (h : ReceiptResending r q) : q = r := by
  have hstart : (h.queued h.i).buf = r := by
    have hadded := h.added
    unfold queue_broadcast_delivery_receipt at hadded
    rcases hfree : find (fun item => !item.used) h.queue with _ | j
    · rw [hfree] at hadded
      exact absurd (Prod.mk.inj hadded).2.symm (Option.some_ne_none _)
    · rw [hfree] at hadded
      obtain ⟨hqueue, hi⟩ := Prod.mk.inj hadded
      rw [← hqueue, Option.some.inj hi, update_self]
  refine h.bytes.symm.trans ?_
  exact foldl_invariant (I := fun queue : ReceiptQueue α => (queue h.i).buf = r)
    (fun queue ev hbuf hused => (receipt_step_buf queue ev hused).trans hbuf) h.waits hstart

end

end BrambleMesh.Reliability
