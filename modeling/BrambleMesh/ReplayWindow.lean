/-
The per-sender replay window: components/replay_window/replay_window.c, compared with the exact
check, which remembers every counter accepted from a sender since it got its slot.
-/
import BrambleMesh.Lib.Run
import BrambleMesh.Lib.Table
import BrambleMesh.Lib.SlidingWindow

open BrambleMesh.Run BrambleMesh.SlidingWindow Function

namespace BrambleMesh.ReplayWindow

/-! ## The source -/

abbrev REPLAY_MAX_SENDERS : ℕ := 64

def REPLAY_EVICT_MIN_IDLE_MS : UInt32 := 900000

inductive ReplayResult
  | ACCEPT
  | REJECT_DUP
  | BELOW_WINDOW
  | REJECT_NO_SLOT
deriving DecidableEq, Repr

structure ReplaySlot where
  src_addr : UInt32
  high_water : UInt64
  window : BitVec 64
  last_seen_ms : UInt32
  used : Bool
  seen : Bool
deriving DecidableEq, Repr

structure ReplayTable where
  slots : Fin REPLAY_MAX_SENDERS → ReplaySlot
  evictions : UInt32
  evict_denied : UInt32
  dirty : Bool

def replay_table_init : ReplayTable := ⟨fun _ => ⟨0, 0, 0, 0, false, false⟩, 0, 0, false⟩

def idle_ms (now_ms : UInt32) (s : ReplaySlot) : UInt32 := now_ms - s.last_seen_ms

def fresh_slot (src_addr now_ms : UInt32) : ReplaySlot := ⟨src_addr, 0, 0, now_ms, true, false⟩

local instance max_senders_neZero : NeZero REPLAY_MAX_SENDERS := ⟨by decide⟩

def slot_for (t : ReplayTable) (src_addr now_ms : UInt32) :
    ReplayTable × Option (Fin REPLAY_MAX_SENDERS) :=
  match Table.find (fun s => s.used && s.src_addr == src_addr || !s.used) t.slots with
  | some i =>
    if (t.slots i).used then (t, some i)
    else
      ({ t with slots := update t.slots i (fresh_slot src_addr now_ms), dirty := true },
        some i)
  | none =>
    -- the table is full: the longest idle sender goes, if it has been idle long enough
    let lru := Table.argmax (fun s => (idle_ms now_ms s).toNat) t.slots
    if idle_ms now_ms (t.slots lru) < REPLAY_EVICT_MIN_IDLE_MS then
      ({ t with evict_denied := t.evict_denied + 1 }, none)
    else
      ({ t with slots := update t.slots lru (fresh_slot src_addr now_ms),
                evictions := t.evictions + 1, dirty := true },
        some lru)

def check_slot (s : ReplaySlot) (counter : UInt64) : ReplaySlot × Bool × ReplayResult :=
  if !s.seen then ({ s with seen := true, high_water := counter }, true, .ACCEPT)
  else if counter > s.high_water then
    -- bit `i` of the window stands for `high_water - 1 - i`, so the old high water comes in too
    let shift := counter - s.high_water
    let window : BitVec 64 :=
      -- a shift by 64 is undefined in C and has a branch of its own
      if shift > 64 then 0
      else if shift == 64 then 1#64 <<< 63
      else (s.window <<< shift.toNat) ||| (1#64 <<< (shift - 1).toNat)
    ({ s with window, high_water := counter }, true, .ACCEPT)
  else
    let delta := s.high_water - counter
    -- the high water itself has no bit
    if delta == 0 then (s, false, .REJECT_DUP)
    else if delta > 64 then (s, false, .BELOW_WINDOW)
    else
      let mask := 1#64 <<< (delta - 1).toNat
      if s.window &&& mask ≠ 0 then (s, false, .REJECT_DUP)
      else ({ s with window := s.window ||| mask }, false, .ACCEPT)

def touch (s : ReplaySlot) (now_ms : UInt32) : ReplaySlot := { s with last_seen_ms := now_ms }

def replay_check_and_add (t : ReplayTable) (src_addr : UInt32) (counter : UInt64)
    (now_ms : UInt32) : ReplayTable × ReplayResult :=
  match slot_for t src_addr now_ms with
  | (t, none) => (t, .REJECT_NO_SLOT)
  | (t, some i) =>
    let r := check_slot (touch (t.slots i) now_ms) counter
    ({ t with slots := update t.slots i r.1, dirty := t.dirty || r.2.1 }, r.2.2)

/-! ## Which slot a sender has -/

def Owns (t : ReplayTable) (i : Fin REPLAY_MAX_SENDERS) (a : UInt32) : Prop :=
  (t.slots i).used ∧ (t.slots i).src_addr = a
deriving Decidable

def Holds (t : ReplayTable) (a : UInt32) : Prop := ∃ i, Owns t i a
deriving Decidable

structure Wf (t : ReplayTable) : Prop where
  used_first : ∀ i j, i < j → (t.slots j).used → (t.slots i).used
  owner_unique : ∀ i j a, Owns t i a → Owns t j a → i = j

lemma wf_init : Wf replay_table_init where
  used_first := by simp [replay_table_init]
  owner_unique := by simp [replay_table_init, Owns]

def Allocatable (t : ReplayTable) (now_ms : UInt32) (i : Fin REPLAY_MAX_SENDERS) : Prop :=
  ((t.slots i).used = false ∧ ∀ j < i, (t.slots j).used = true) ∨
    ((∀ j, (t.slots j).used) ∧
      REPLAY_EVICT_MIN_IDLE_MS ≤ idle_ms now_ms (t.slots i))

variable {t : ReplayTable} {s : ReplaySlot} {H : Set ℕ}

lemma slot_for_spec (hwf : Wf t) (src now : UInt32) :
    (∃ i, Owns t i src ∧ slot_for t src now = (t, some i)) ∨
    (¬ Holds t src ∧ ∃ i t', Allocatable t now i ∧ slot_for t src now = (t', some i) ∧
      t'.slots = update t.slots i (fresh_slot src now)) ∨
    (¬ Holds t src ∧ (∀ j, idle_ms now (t.slots j) < REPLAY_EVICT_MIN_IDLE_MS) ∧
      ∃ t', slot_for t src now = (t', none) ∧ t'.slots = t.slots) := by
  unfold slot_for
  split
  · next i hfind =>
    have hi := Table.find_some hfind
    -- the loop has passed the slots before `i`, so they are other senders
    have hbefore : ∀ j < i, (t.slots j).used ∧ (t.slots j).src_addr ≠ src := by
      intro j hj
      have := Table.find_before hfind hj
      simp only [Bool.or_eq_false_iff, Bool.not_eq_false'] at this
      exact ⟨this.2, by simpa [this.2] using this.1⟩
    by_cases hused : (t.slots i).used
    · left
      refine ⟨i, ⟨hused, ?_⟩, by simp [hused]⟩
      simpa [hused] using hi
    · -- a free slot: no slot behind it is used, and none before it is the sender's
      right; left
      have hfree : (t.slots i).used = false := by simpa using hused
      refine ⟨?_, i, _, .inl ⟨hfree, fun j hj => (hbefore j hj).1⟩, by simp [hfree]; rfl, rfl⟩
      rintro ⟨j, hj, hsrc⟩
      rcases lt_trichotomy j i with hlt | rfl | hgt
      · exact (hbefore j hlt).2 hsrc
      · exact hused hj
      · exact hused (hwf.used_first i j hgt hj)
  · next hfind =>
    have hall := Table.find_eq_none.1 hfind
    -- the loop ran to its end: every slot is in use, and none is the sender's
    have hused : ∀ j, (t.slots j).used := fun j => by
      have := hall j
      simp only [Bool.or_eq_false_iff, Bool.not_eq_false'] at this
      exact this.2
    have hnone : ¬ Holds t src := by
      rintro ⟨j, hj, hsrc⟩
      have := hall j
      simp [hsrc] at this
    generalize hlru : Table.argmax (fun s => (idle_ms now s).toNat) t.slots = lru
    by_cases hidle : idle_ms now (t.slots lru) < REPLAY_EVICT_MIN_IDLE_MS
    · right; right
      refine ⟨hnone, fun j => ?_, { t with evict_denied := t.evict_denied + 1 },
        by simp [hidle], rfl⟩
      have hmax := Table.le_argmax (fun s => (idle_ms now s).toNat) t.slots j
      rw [hlru] at hmax
      exact UInt32.lt_of_le_of_lt hmax hidle
    · right; left
      exact ⟨hnone, lru, _, .inr ⟨hused, UInt32.not_lt.1 hidle⟩, by simp [hidle]; rfl, rfl⟩

/-! ## One call -/

structure Call where
  src : UInt32
  counter : UInt64
  now : UInt32
deriving DecidableEq, Repr

variable {c : Call}

def after (t : ReplayTable) (c : Call) : ReplayTable :=
  (replay_check_and_add t c.src c.counter c.now).1

def answer (t : ReplayTable) (c : Call) : ReplayResult :=
  (replay_check_and_add t c.src c.counter c.now).2

def Serves (t : ReplayTable) (c : Call) (i : Fin REPLAY_MAX_SENDERS) (s : ReplaySlot) : Prop :=
  (Owns t i c.src ∧ s = t.slots i) ∨
    (¬ Holds t c.src ∧ Allocatable t c.now i ∧ s = fresh_slot c.src c.now)

lemma call_cases (hwf : Wf t) (c : Call) :
    (∃ i s, Serves t c i s ∧ (slot_for t c.src c.now).2 = some i ∧
      (after t c).slots = update t.slots i
        (check_slot (touch s c.now) c.counter).1 ∧
      answer t c = (check_slot (touch s c.now) c.counter).2.2) ∨
    (¬ Holds t c.src ∧ (slot_for t c.src c.now).2 = none ∧ (after t c).slots = t.slots ∧
      answer t c = .REJECT_NO_SLOT) := by
  rcases slot_for_spec hwf c.src c.now with ⟨i, hown, hsf⟩ |
    ⟨hnone, i, t', halloc, hsf, hslots⟩ | ⟨hnone, -, t', hsf, hslots⟩
  · left
    refine ⟨i, t.slots i, .inl ⟨hown, rfl⟩, by rw [hsf], ?_, ?_⟩
    · simp only [after, replay_check_and_add, hsf]
    · simp only [answer, replay_check_and_add, hsf]
  · left
    have hi : t'.slots i = fresh_slot c.src c.now := by rw [hslots, update_self]
    refine ⟨i, fresh_slot c.src c.now, .inr ⟨hnone, halloc, rfl⟩, by rw [hsf], ?_, ?_⟩
    · simp only [after, replay_check_and_add, hsf, hi]
      rw [hslots, update_idem]
    · simp only [answer, replay_check_and_add, hsf, hi]
  · right
    refine ⟨hnone, by rw [hsf], ?_, ?_⟩
    · simp only [after, replay_check_and_add, hsf, hslots]
    · simp only [answer, replay_check_and_add, hsf]

lemma shifted_window (bits : BitVec 64) {hw c : UInt64} (hlt : hw < c) :
    (if c - hw > 64 then (0 : BitVec 64)
      else if c - hw == 64 then 1#64 <<< 63
      else (bits <<< (c - hw).toNat) ||| (1#64 <<< (c - hw - 1).toNat)) =
      advance bits (c.toNat - hw.toNat) := by
  have hlt' : hw.toNat < c.toNat := hlt
  have hshift : (c - hw).toNat = c.toNat - hw.toNat :=
    UInt64.toNat_sub_of_le _ _ (UInt64.le_of_lt hlt)
  have hone : (c - hw - 1).toNat = c.toNat - hw.toNat - 1 := by
    rw [UInt64.toNat_sub_of_le _ _ (UInt64.le_iff_toNat_le.2 (by
      rw [UInt64.toNat_one]; omega)), hshift, UInt64.toNat_one]
  have hgt : c - hw > 64 ↔ 64 < c.toNat - hw.toNat := by
    rw [gt_iff_lt, UInt64.lt_iff_toNat_lt, hshift]; rfl
  have heq : (c - hw == 64) ↔ c.toNat - hw.toNat = 64 := by
    rw [beq_iff_eq, ← UInt64.toNat_inj, hshift]; rfl
  simp only [hgt, heq, hshift, hone]
  rfl

lemma check_slot_cases (s : ReplaySlot) (c : UInt64) :
    (s.seen = false ∧
      check_slot s c = ({ s with seen := true, high_water := c }, true, .ACCEPT)) ∨
    (s.seen ∧ s.high_water.toNat < c.toNat ∧ check_slot s c =
      ({ s with window := advance s.window (c.toNat - s.high_water.toNat), high_water := c },
        true, .ACCEPT)) ∨
    (s.seen ∧ c.toNat = s.high_water.toNat ∧ check_slot s c = (s, false, .REJECT_DUP)) ∨
    (s.seen ∧ c.toNat + 64 < s.high_water.toNat ∧
      check_slot s c = (s, false, .BELOW_WINDOW)) ∨
    (s.seen ∧ c.toNat < s.high_water.toNat ∧ s.high_water.toNat ≤ c.toNat + 64 ∧
      s.window.getLsbD (s.high_water.toNat - c.toNat - 1) ∧
      check_slot s c = (s, false, .REJECT_DUP)) ∨
    (s.seen ∧ c.toNat < s.high_water.toNat ∧ s.high_water.toNat ≤ c.toNat + 64 ∧
      s.window.getLsbD (s.high_water.toNat - c.toNat - 1) = false ∧ check_slot s c =
      ({ s with window := s.window ||| (1#64 <<< (s.high_water.toNat - c.toNat - 1)) },
        false, .ACCEPT)) := by
  by_cases hseen : s.seen
  swap
  · left
    simp [check_slot, hseen]
  right
  by_cases hgt : s.high_water < c
  · left
    refine ⟨hseen, hgt, ?_⟩
    simp only [check_slot, hseen, Bool.not_true, Bool.false_eq_true, if_false, hgt,
      if_true, ← shifted_window s.window hgt]
  right
  have hle : c ≤ s.high_water := UInt64.not_lt.1 hgt
  have hle' : c.toNat ≤ s.high_water.toNat := hle
  -- from here on the counter is not above the high water, so the difference does not wrap
  have hdelta : (s.high_water - c).toNat = s.high_water.toNat - c.toNat :=
    UInt64.toNat_sub_of_le _ _ hle
  have hzero : s.high_water - c = 0 ↔ c.toNat = s.high_water.toNat := by
    rw [← UInt64.toNat_inj, UInt64.toNat_zero]
    omega
  have hbelow : s.high_water - c > 64 ↔ c.toNat + 64 < s.high_water.toNat := by
    rw [gt_iff_lt, UInt64.lt_iff_toNat_lt, show (64 : UInt64).toNat = 64 from rfl]
    omega
  by_cases hz : c.toNat = s.high_water.toNat
  · left
    exact ⟨hseen, hz, by simp [check_slot, hseen, hgt, hzero.2 hz]⟩
  right
  have hnz : ¬ s.high_water - c = 0 := fun h => hz (hzero.1 h)
  by_cases hb : c.toNat + 64 < s.high_water.toNat
  · left
    exact ⟨hseen, hb, by simp [check_slot, hseen, hgt, hnz, hbelow.2 hb]⟩
  right
  have hnb : ¬ s.high_water - c > 64 := fun h => hb (hbelow.1 h)
  have hidx : (s.high_water - c - 1).toNat = s.high_water.toNat - c.toNat - 1 := by
    rw [UInt64.toNat_sub_of_le _ _ (UInt64.le_iff_toNat_le.2 (by
      rw [UInt64.toNat_one]; omega)), hdelta, UInt64.toNat_one]
  have hmask := @and_one_shiftLeft_eq_zero 64 s.window (s.high_water.toNat - c.toNat - 1)
    (by omega)
  by_cases hbit : s.window.getLsbD (s.high_water.toNat - c.toNat - 1)
  · left
    have hset : ¬ s.window &&& (1#64 <<< (s.high_water.toNat - c.toNat - 1)) = 0#64 := by
      rw [hmask, hbit]
      decide
    refine ⟨hseen, by omega, by omega, hbit, ?_⟩
    simp [check_slot, hseen, hgt, hnb, hidx, hset]
  · right
    have hclear : s.window &&& (1#64 <<< (s.high_water.toNat - c.toNat - 1)) = 0#64 :=
      hmask.2 (by simpa using hbit)
    refine ⟨hseen, by omega, by omega, by simpa using hbit, ?_⟩
    simp [check_slot, hseen, hgt, hnz, hnb, hidx, hclear]

lemma check_slot_frame (s : ReplaySlot) (c : UInt64) :
    (check_slot s c).1.src_addr = s.src_addr ∧ (check_slot s c).1.used = s.used ∧
      (check_slot s c).1.last_seen_ms = s.last_seen_ms ∧ (check_slot s c).1.seen ∧
      (check_slot s c).2.2 ≠ .REJECT_NO_SLOT := by
  rcases check_slot_cases s c with ⟨h, e⟩ | ⟨h, -, e⟩ | ⟨h, -, e⟩ | ⟨h, -, e⟩ |
    ⟨h, -, -, -, e⟩ | ⟨h, -, -, -, e⟩ <;> simp [e, h]

/-- **One slot against the exact check**: it accepts exactly what the exact check admits. -/
theorem check_slot_spec (hseen : s.seen) (hR : Represents s.high_water.toNat s.window H)
    (c : UInt64) :
    ((check_slot s c).2.2 = .ACCEPT ↔ Admits 64 H c.toNat) ∧
      Represents (check_slot s c).1.high_water.toNat (check_slot s c).1.window
        (if (check_slot s c).2.2 = .ACCEPT then insert c.toNat H else H) := by
  rcases check_slot_cases s c with ⟨h, -⟩ | ⟨-, hgt, e⟩ | ⟨-, heq, e⟩ | ⟨-, hbelow, e⟩ |
    ⟨-, hlt, hin, hbit, e⟩ | ⟨-, hlt, hin, hbit, e⟩
  · rw [hseen] at h
    cases h
  · simp only [e, true_iff]
    exact ⟨hR.admits_of_gt hgt, hR.advance hgt⟩
  · simp only [e, reduceCtorEq, false_iff]
    exact ⟨heq ▸ fun h => h.1 hR.high_mem, hR⟩
  · simp only [e, reduceCtorEq, false_iff]
    exact ⟨hR.not_admits_below hbelow, hR⟩
  · simp only [e]
    exact ⟨by rw [hR.admits_iff_bit hlt hin, hbit]; decide, hR⟩
  · simp only [e, true_iff]
    exact ⟨(hR.admits_iff_bit hlt hin).2 hbit, hR.mark hlt hin⟩

lemma check_slot_fresh (src now : UInt32) (c : UInt64) :
    (check_slot (fresh_slot src now) c).2.2 = .ACCEPT ∧
      Represents (check_slot (fresh_slot src now) c).1.high_water.toNat
        (check_slot (fresh_slot src now) c).1.window {c.toNat} := by
  refine ⟨by simp [check_slot, fresh_slot], ?_⟩
  exact represents_start

lemma Serves.ident {i : Fin REPLAY_MAX_SENDERS} (h : Serves t c i s) :
    s.used ∧ s.src_addr = c.src := by
  rcases h with ⟨hown, rfl⟩ | ⟨-, -, rfl⟩
  · exact hown
  · exact ⟨rfl, rfl⟩

lemma owns_after {i : Fin REPLAY_MAX_SENDERS} (hs : Serves t c i s)
    (hslots : (after t c).slots = update t.slots i (check_slot (touch s c.now)
      c.counter).1) (j : Fin REPLAY_MAX_SENDERS) (a : UInt32) :
    Owns (after t c) j a ↔ (j = i ∧ a = c.src) ∨ (j ≠ i ∧ Owns t j a) := by
  have hframe := check_slot_frame (touch s c.now) c.counter
  obtain ⟨hused, hsrc⟩ := hs.ident
  unfold Owns
  rw [hslots]
  by_cases hj : j = i
  · subst hj
    rw [update_self, hframe.1, hframe.2.1]
    change s.used ∧ s.src_addr = a ↔ _
    simp only [hused, hsrc, true_and, ne_eq, not_true_eq_false, false_and, or_false]
    exact eq_comm
  · simp [hj]

lemma wf_after (hwf : Wf t) (c : Call) : Wf (after t c) := by
  rcases call_cases hwf c with ⟨i, s, hs, -, hslots, -⟩ | ⟨-, -, hslots, -⟩
  · have hown := owns_after hs hslots
    have hused : ∀ j, ((after t c).slots j).used ↔ j = i ∨ (t.slots j).used := by
      intro j
      rw [hslots]
      by_cases hj : j = i
      · subst hj
        rw [update_self, (check_slot_frame (touch s c.now) c.counter).2.1]
        simpa [touch] using hs.ident.1
      · simp [hj]
    refine ⟨fun j k hjk hk => ?_, fun j k a hj hk => ?_⟩
    · -- only a free slot changes from unused to used, and all before it are used
      rw [hused] at hk ⊢
      rcases hk with rfl | hk
      · rcases hs with ⟨hown', -⟩ | ⟨-, ⟨-, hpre⟩ | ⟨hall, -⟩, -⟩
        · exact .inr (hwf.used_first j _ hjk hown'.1)
        · exact .inr (hpre j hjk)
        · exact .inr (hall j)
      · exact .inr (hwf.used_first j k hjk hk)
    · rw [hown] at hj hk
      -- a second slot of the caller would be one it had before the call
      have hother : ∀ l, l ≠ i → ¬ Owns t l c.src := by
        intro l hl hl'
        rcases hs with ⟨hown', -⟩ | ⟨hnone, -, -⟩
        · exact hl (hwf.owner_unique l i _ hl' hown')
        · exact hnone ⟨l, hl'⟩
      rcases hj with ⟨rfl, rfl⟩ | ⟨hji, hj⟩ <;> rcases hk with ⟨rfl, ha⟩ | ⟨hki, hk⟩
      · rfl
      · exact absurd hk (hother k hki)
      · exact absurd (ha ▸ hj) (hother j hji)
      · exact hwf.owner_unique j k a hj hk
  · exact ⟨by simpa only [hslots] using hwf.used_first,
      by simpa only [Owns, hslots] using hwf.owner_unique⟩

lemma idle_of_evicted (hwf : Wf t) {a : UInt32} (hheld : Holds t a)
    (hgone : ¬ Holds (after t c) a) :
    ∃ i, Owns t i a ∧ REPLAY_EVICT_MIN_IDLE_MS ≤ idle_ms c.now (t.slots i) := by
  obtain ⟨k, hk⟩ := hheld
  rcases call_cases hwf c with ⟨i, s, hs, -, hslots, -⟩ | ⟨-, -, hslots, -⟩
  · have hown := owns_after hs hslots
    have hki : k = i := by
      by_contra hne
      exact hgone ⟨k, (hown k a).2 (.inr ⟨hne, hk⟩)⟩
    subst hki
    have hother : a ≠ c.src := fun h => hgone ⟨k, (hown k a).2 (.inl ⟨rfl, h⟩)⟩
    rcases hs with ⟨hown', -⟩ | ⟨-, ⟨hfree, -⟩ | ⟨-, hidle⟩, -⟩
    · exact absurd (hk.2.symm.trans hown'.2) hother
    · rw [hk.1] at hfree
      cases hfree
    · exact ⟨k, hk, hidle⟩
  · exact absurd ⟨k, by simpa only [Owns, hslots] using hk⟩ hgone

lemma holds_caller (hwf : Wf t) (c : Call) (hans : answer t c ≠ .REJECT_NO_SLOT) :
    Holds (after t c) c.src := by
  rcases call_cases hwf c with ⟨i, s, hs, -, hslots, -⟩ | ⟨-, -, -, hno⟩
  · exact ⟨i, (owns_after hs hslots i c.src).2 (.inl ⟨rfl, rfl⟩)⟩
  · exact absurd hno hans

/-! ## The accepted counters of one sender -/

structure Tracks (t : ReplayTable) (a : UInt32) (H : Set ℕ) : Prop where
  slot : ∀ i, Owns t i a →
    (t.slots i).seen ∧ Represents (t.slots i).high_water.toNat (t.slots i).window H
  empty : ¬ Holds t a → H = ∅

lemma answer_iff (hwf : Wf t) (hT : Tracks t c.src H) :
    answer t c = .ACCEPT ↔ (slot_for t c.src c.now).2 ≠ none ∧ Admits 64 H c.counter.toNat := by
  rcases call_cases hwf c with ⟨i, s, hs, hsf, -, hans⟩ | ⟨-, hsf, -, hans⟩
  · rw [hans, hsf]
    simp only [ne_eq, reduceCtorEq, not_false_eq_true, true_and]
    rcases hs with ⟨hown, rfl⟩ | ⟨hnone, -, rfl⟩
    · obtain ⟨hseen, hR⟩ := hT.slot i hown
      exact (check_slot_spec (s := touch (t.slots i) c.now) hseen hR _).1
    · rw [hT.empty hnone]
      exact iff_of_true (check_slot_fresh c.src c.now c.counter).1
        ⟨Set.notMem_empty _, .inl (by simp)⟩
  · simp [hans, hsf]

lemma answer_iff_of_holds (hwf : Wf t) (hT : Tracks t c.src H) (h : Holds t c.src) :
    answer t c = .ACCEPT ↔ Admits 64 H c.counter.toNat := by
  rw [answer_iff hwf hT]
  refine and_iff_right ?_
  rcases call_cases hwf c with ⟨i, _, -, hsf, -⟩ | ⟨hnone, -⟩
  · simp [hsf]
  · exact absurd h hnone

lemma not_admits_of_rejected (hwf : Wf t) (hT : Tracks t c.src H) (hne : answer t c ≠ .ACCEPT)
    (hslot : answer t c ≠ .REJECT_NO_SLOT) :
    ¬ Admits 64 H c.counter.toNat := by
  intro hadm
  apply hne
  rw [answer_iff hwf hT]
  refine ⟨?_, hadm⟩
  rcases call_cases hwf c with ⟨i, _, -, hsf, -, -⟩ | ⟨-, -, -, hno⟩
  · rw [hsf]
    simp
  · exact absurd hno hslot

lemma Tracks.after (hwf : Wf t) {a : UInt32} (hT : Tracks t a H)
    (hkept : Holds t a → Holds (after t c) a) :
    Tracks (after t c) a
      (if a = c.src ∧ answer t c = .ACCEPT then insert c.counter.toNat H else H) := by
  rcases call_cases hwf c with ⟨i, s, hs, -, hslots, hans⟩ | ⟨hnone, -, hslots, hans⟩
  · have hown := owns_after hs hslots
    by_cases ha : a = c.src
    · -- the sender's own call: the slot it works on is the only one it has
      subst ha
      refine ⟨fun j hj => ?_, fun hno => absurd ⟨i, (hown i _).2 (.inl ⟨rfl, rfl⟩)⟩ hno⟩
      obtain rfl : j = i := by
        rcases (hown j _).1 hj with ⟨rfl, -⟩ | ⟨hji, hj'⟩
        · rfl
        · rcases hs with ⟨hown', -⟩ | ⟨hnone, -, -⟩
          · exact hwf.owner_unique j i _ hj' hown'
          · exact absurd ⟨j, hj'⟩ hnone
      rw [hslots, update_self]
      refine ⟨(check_slot_frame _ _).2.2.2.1, ?_⟩
      rw [hans]
      simp only [true_and]
      rcases hs with ⟨hown', rfl⟩ | ⟨hnone, -, rfl⟩
      · obtain ⟨hseen, hR⟩ := hT.slot j hown'
        exact (check_slot_spec (s := touch (t.slots j) c.now) hseen hR _).2
      · have hfresh := check_slot_fresh c.src c.now c.counter
        rw [hT.empty hnone, insert_empty_eq]
        exact hfresh.2
    · -- another sender's call: it did not take the slot, so nothing changed
      simp only [ha]
      have hnot : ¬ Owns t i a := by
        intro hia
        obtain ⟨j, hj⟩ := hkept ⟨i, hia⟩
        rcases (hown j a).1 hj with ⟨-, h⟩ | ⟨hji, hj'⟩
        · exact ha h
        · exact hji (hwf.owner_unique j i a hj' hia)
      have hsame : ∀ j, Owns (ReplayWindow.after t c) j a ↔ Owns t j a := by
        intro j
        rw [hown]
        constructor
        · rintro (⟨-, h⟩ | ⟨-, h⟩)
          · exact absurd h ha
          · exact h
        · intro h
          exact .inr ⟨by rintro rfl; exact hnot h, h⟩
      refine ⟨fun j hj => ?_, fun hno => hT.empty fun ⟨j, hj⟩ => hno ⟨j, (hsame j).2 hj⟩⟩
      have hj' := (hsame j).1 hj
      rw [hslots, update_of_ne (by rintro rfl; exact hnot hj')]
      exact hT.slot j hj'
  · have hH : (if a = c.src ∧ answer t c = .ACCEPT then insert c.counter.toNat H else H) = H := by
      simp [hans]
    rw [hH]
    exact ⟨by simpa only [Owns, hslots] using hT.slot,
      by simpa only [Holds, Owns, hslots] using hT.empty⟩

/-! ## Whole histories -/

structure Audit where
  table : ReplayTable
  taken : UInt32 → List ℕ
  heard : UInt32 → Option UInt32

def Audit.init : Audit := ⟨replay_table_init, fun _ => [], fun _ => none⟩

def Evicts (t : ReplayTable) (c : Call) (a : UInt32) : Prop :=
  Holds t a ∧ ¬ Holds (after t c) a
deriving Decidable

def audit (s : Audit) (c : Call) : Audit where
  table := after s.table c
  taken := fun a =>
    if Evicts s.table c a then []
    else if a = c.src ∧ answer s.table c = .ACCEPT then c.counter.toNat :: s.taken a
    else s.taken a
  heard := update s.heard c.src (some c.now)

structure Audit.Inv (s : Audit) : Prop where
  wf : Wf s.table
  tracks : ∀ a, Tracks s.table a {n | n ∈ s.taken a}
  nodup : ∀ a, (s.taken a).Nodup
  heard : ∀ i a, Owns s.table i a → s.heard a = some (s.table.slots i).last_seen_ms

lemma Audit.inv_init : Audit.init.Inv where
  wf := wf_init
  tracks := fun a => ⟨by simp [Audit.init, replay_table_init, Owns], by simp [Audit.init]⟩
  nodup := by simp [Audit.init]
  heard := by simp [Audit.init, replay_table_init, Owns]

lemma Audit.Inv.heard_after {s : Audit} (h : s.Inv) (c : Call) (j : Fin REPLAY_MAX_SENDERS)
    (a : UInt32) (hj : Owns (after s.table c) j a) :
    update s.heard c.src (some c.now) a =
      some ((after s.table c).slots j).last_seen_ms := by
  rcases call_cases h.wf c with ⟨i, sl, hs, -, hslots, -⟩ | ⟨hnone, -, hslots, -⟩
  · rw [hslots]
    rcases (owns_after hs hslots j a).1 hj with ⟨rfl, rfl⟩ | ⟨hji, hj'⟩
    · rw [update_self, update_self, (check_slot_frame _ _).2.2.1]
      rfl
    · have ha : a ≠ c.src := by
        rintro rfl
        rcases hs with ⟨hown, -⟩ | ⟨hnone, -, -⟩
        · exact hji (h.wf.owner_unique j i _ hj' hown)
        · exact hnone ⟨j, hj'⟩
      rw [update_of_ne ha, update_of_ne hji]
      exact h.heard j a hj'
  · rw [hslots]
    have hj' : Owns s.table j a := by simpa only [Owns, hslots] using hj
    rw [update_of_ne (by rintro rfl; exact hnone ⟨j, hj'⟩)]
    exact h.heard j a hj'

lemma Audit.inv_step (s : Audit) (c : Call) (h : s.Inv) : (audit s c).Inv where
  wf := wf_after h.wf c
  tracks := by
    intro a
    by_cases hev : Evicts s.table c a
    · -- the slot went to another sender: nothing is remembered of this one
      refine ⟨fun i hi => absurd ⟨i, hi⟩ hev.2, fun _ => ?_⟩
      simp [audit, hev]
    · have hkept : Holds s.table a → Holds (after s.table c) a := fun hh => by
        by_contra hno
        exact hev ⟨hh, hno⟩
      have hT := (h.tracks a).after h.wf hkept
      have hset : {n | n ∈ (audit s c).taken a} =
          if a = c.src ∧ answer s.table c = .ACCEPT
          then insert c.counter.toNat {n | n ∈ s.taken a} else {n | n ∈ s.taken a} := by
        simp only [audit, hev, if_false]
        split
        · ext n
          simp
        · rfl
      rw [hset]
      exact hT
  nodup := by
    intro a
    simp only [audit]
    split
    · exact List.nodup_nil
    · split
      · next hacc =>
        obtain ⟨rfl, hacc⟩ := hacc
        have hadm := ((answer_iff h.wf (h.tracks c.src)).1 hacc).2
        exact List.nodup_cons.2 ⟨hadm.1, h.nodup _⟩
      · exact h.nodup a
  heard := fun i a hi => h.heard_after c i a hi

lemma Audit.inv_run (calls : List Call) : (calls.foldl audit .init).Inv :=
  foldl_invariant (C := fun _ _ => True) (fun s c h _ => Audit.inv_step s c h)
    (meets_of_forall (fun _ _ _ => trivial) _) Audit.inv_init

/-- **The replay window refines the exact check.** A call is accepted exactly when it is given a
slot and the counter was not accepted since the sender got it, and is above all accepted since
then or at most 64 below the highest; a sender that holds a slot is given it. So none is accepted
twice in that time; a call without a slot changes none; and a sender whose last call is less than
the idle limit ago keeps its slot. -/
theorem replay_window_refines_exact (calls : List Call) (c : Call) :
    let s := calls.foldl audit .init
    (answer s.table c = .ACCEPT ↔
      (slot_for s.table c.src c.now).2 ≠ none ∧
        Admits 64 {n | n ∈ s.taken c.src} c.counter.toNat) ∧
    (Holds s.table c.src →
      (answer s.table c = .ACCEPT ↔ Admits 64 {n | n ∈ s.taken c.src} c.counter.toNat)) ∧
    (∀ a, (s.taken a).Nodup) ∧
    ((slot_for s.table c.src c.now).2 = none →
      answer s.table c = .REJECT_NO_SLOT ∧ (after s.table c).slots = s.table.slots) ∧
    (∀ a t, s.heard a = some t → c.now - t < REPLAY_EVICT_MIN_IDLE_MS →
      ¬ Evicts s.table c a) := by
  intro s
  have hinv : s.Inv := Audit.inv_run calls
  refine ⟨answer_iff hinv.wf (hinv.tracks c.src), answer_iff_of_holds hinv.wf (hinv.tracks c.src),
    hinv.nodup, fun hnone => ?_, ?_⟩
  · rcases call_cases hinv.wf c with ⟨i, _, -, hsf, -, -⟩ | ⟨-, -, hslots, hans⟩
    · rw [hsf] at hnone
      cases hnone
    · exact ⟨hans, hslots⟩
  · rintro a t hheard hrecent ⟨hheld, hgone⟩
    obtain ⟨i, hown, hidle⟩ := idle_of_evicted hinv.wf hheld hgone
    have ht : t = (s.table.slots i).last_seen_ms := by
      have := (hinv.heard i a hown).symm.trans hheard
      simpa using this.symm
    subst ht
    exact UInt32.not_lt.2 hidle hrecent

end BrambleMesh.ReplayWindow
