/-
How often a peer can be made the target of a handshake: `dm_rehandshake_rate_ok` (main/mesh_dm.c),
`location_hs_should_attempt` (components/location/location.c). Both tables have eight entries and
recycle the oldest, whatever its age.
-/
import BrambleMesh.DmWork
import BrambleMesh.Lib.RateTable

namespace BrambleMesh.HandshakeLimits

open DmWork RateTable Function
open Table (find)

/-! ## The location limit -/

abbrev LOCATION_HS_TRACK : ℕ := 8
abbrev LOCATION_HS_BACKOFF_START_MS : UInt32 := 60000
abbrev LOCATION_HS_BACKOFF_MAX_MS : UInt32 := 1800000

structure HsSlot where
  addr : UInt32
  backoff_ms : UInt32
  next_attempt_ms : UInt32
deriving DecidableEq, Repr

abbrev HsTable := Fin LOCATION_HS_TRACK → HsSlot

def location_hs_clear (t : HsTable) (addr : UInt32) : HsTable :=
  if addr = 0 then t
  else
    match find (fun e => e.addr == addr) t with
    | some i => update t i ⟨0, 0, 0⟩
    | none => t

def next_backoff (backoff_ms : UInt32) : UInt32 :=
  let b := if backoff_ms ≥ LOCATION_HS_BACKOFF_MAX_MS then LOCATION_HS_BACKOFF_MAX_MS
    else backoff_ms * 2
  if b > LOCATION_HS_BACKOFF_MAX_MS then LOCATION_HS_BACKOFF_MAX_MS else b

def too_early (e : HsSlot) (now_ms : UInt32) : Bool := now_ms - e.next_attempt_ms ≥ 0x80000000

local instance hs_track_neZero : NeZero LOCATION_HS_TRACK := ⟨by decide⟩

def oldest_slot (t : HsTable) : Fin LOCATION_HS_TRACK :=
  Table.argmax (fun e => 0xFFFFFFFF - e.next_attempt_ms.toNat) t

def location_hs_should_attempt (t : HsTable) (addr : UInt32) (reachable defer_first : Bool)
    (now_ms : UInt32) : Bool × HsTable :=
  if addr = 0 then (false, t)
  else if !reachable then (false, t)
  else
    match find (fun e => e.addr == addr) t with
    | some i =>
      if too_early (t i) now_ms then (false, t)
      else
        let b := next_backoff (t i).backoff_ms
        (true, update t i { t i with backoff_ms := b, next_attempt_ms := now_ms + b })
    | none =>
      let slot := (find (fun e => e.addr == 0) t).getD (oldest_slot t)
      let next := now_ms + LOCATION_HS_BACKOFF_START_MS
      (!defer_first, update t slot ⟨addr, LOCATION_HS_BACKOFF_START_MS, next⟩)

/-! ## Runs -/

abbrev DmLimit := State DM_REHANDSHAKE_TRACK UInt32 RehsEntry

local instance rehs_neZero : NeZero DM_REHANDSHAKE_TRACK := ⟨by decide⟩

def rehs_oldest (t : RehsTable) : Fin DM_REHANDSHAKE_TRACK :=
  Table.argmax (fun e => 0xFFFFFFFF - e.last_ms.toNat) t

def dm_start : DmLimit := ⟨fun _ => ⟨0, 0⟩, fun _ => none, 0⟩

def dm_step (s : DmLimit) (e : UInt32 × ℕ) : DmLimit :=
  match dm_rehandshake_rate_ok s.table e.1 (UInt32.ofNat e.2) with
  | (true, t) => ⟨t, update s.last e.1 (some e.2), e.2⟩
  | (false, t) => ⟨t, s.last, e.2⟩

def DmSpare (s : DmLimit) (e : UInt32 × ℕ) : Prop :=
  e.1 ≠ 0 ∧ s.clock ≤ e.2 ∧
    (find (fun x => x.addr == e.1) s.table = none →
      find (fun x => x.addr == 0) s.table = none →
        UInt32.ofNat e.2 - (s.table (rehs_oldest s.table)).last_ms ≥
          DM_REHANDSHAKE_MIN_INTERVAL_MS)
deriving Decidable

abbrev LocationLimit := State LOCATION_HS_TRACK UInt32 HsSlot

def location_start : LocationLimit := ⟨fun _ => ⟨0, 0, 0⟩, fun _ => none, 0⟩

inductive LocationEvent
  | attempt (addr : UInt32) (reachable defer_first : Bool) (now : ℕ)
  | clear (addr : UInt32)
deriving DecidableEq, Repr

def location_step (s : LocationLimit) : LocationEvent → LocationLimit
  | .attempt addr reachable defer_first now =>
    match location_hs_should_attempt s.table addr reachable defer_first (UInt32.ofNat now) with
    | (true, t) => ⟨t, update s.last addr (some now), now⟩
    | (false, t) => ⟨t, s.last, now⟩
  | .clear addr => ⟨location_hs_clear s.table addr, update s.last addr none, s.clock⟩

def LocationSpare (s : LocationLimit) : LocationEvent → Prop
  | .attempt addr reachable _ now => addr ≠ 0 ∧ s.clock ≤ now ∧ (reachable = true →
    find (fun x => x.addr == addr) s.table = none →
      find (fun x => x.addr == 0) s.table = none →
        too_early (s.table (oldest_slot s.table)) (UInt32.ofNat now) = false)
  | .clear addr => addr ≠ 0

instance (s : LocationLimit) (e : LocationEvent) : Decidable (LocationSpare s e) := by
  cases e <;> unfold LocationSpare <;> infer_instance

/-! ## As rate tables -/

def dm_limiter : Limiter DM_REHANDSHAKE_TRACK UInt32 RehsEntry where
  key := RehsEntry.addr
  free := 0
  empty := ⟨0, 0⟩
  blocks e now := UInt32.ofNat now - e.last_ms < DM_REHANDSHAKE_MIN_INTERVAL_MS
  renew e now := { e with last_ms := UInt32.ofNat now }
  fresh key now := ⟨key, UInt32.ofNat now⟩
  oldest := rehs_oldest
  interval := 15000
  Valid _ := True
  Marks e t := e.last_ms = UInt32.ofNat t

instance dm_lawful : dm_limiter.Lawful where
  key_empty := rfl
  key_fresh _ _ := rfl
  key_renew _ _ := rfl
  valid_fresh _ _ := trivial
  valid_renew _ _ _ := trivial
  marks_fresh _ _ := rfl
  marks_renew _ _ _ := rfl
  blocks e t now he hle hlt := by
    change now < t + 15000 at hlt
    apply decide_eq_true
    rw [he, UInt32.lt_iff_toNat_lt]
    have helapsed := Run.elapsed_le hle
    have hinterval : DM_REHANDSHAKE_MIN_INTERVAL_MS.toNat = 15000 := rfl
    omega

def InRange (b : UInt32) : Prop := 60000 ≤ b.toNat ∧ b.toNat ≤ 1800000

lemma next_backoff_inRange {b : UInt32} (h : InRange b) : InRange (next_backoff b) := by
  obtain ⟨hlo, hhi⟩ := h
  have hmax : LOCATION_HS_BACKOFF_MAX_MS.toNat = 1800000 := rfl
  have hdouble : (b * 2).toNat = b.toNat * 2 := by
    exact Nat.mod_eq_of_lt (by simp; omega)
  unfold InRange next_backoff
  dsimp only
  split_ifs with h₁ h₂ h₂
  · omega
  · omega
  · omega
  · have := UInt32.le_iff_toNat_le.1 (UInt32.not_lt.1 h₂)
    omega

lemma start_inRange : InRange LOCATION_HS_BACKOFF_START_MS :=
  ⟨by decide, by decide⟩

def location_limiter : Limiter LOCATION_HS_TRACK UInt32 HsSlot where
  key := HsSlot.addr
  free := 0
  empty := ⟨0, 0, 0⟩
  blocks e now := too_early e (UInt32.ofNat now)
  renew e now :=
    { e with
      backoff_ms := next_backoff e.backoff_ms
      next_attempt_ms := UInt32.ofNat now + next_backoff e.backoff_ms }
  fresh key now :=
    ⟨key, LOCATION_HS_BACKOFF_START_MS, UInt32.ofNat now + LOCATION_HS_BACKOFF_START_MS⟩
  oldest := oldest_slot
  interval := 60000
  Valid e := InRange e.backoff_ms
  Marks e t := ∃ b, InRange b ∧ e.next_attempt_ms = UInt32.ofNat t + b

instance location_lawful : location_limiter.Lawful where
  key_empty := rfl
  key_fresh _ _ := rfl
  key_renew _ _ := rfl
  valid_fresh _ _ := start_inRange
  valid_renew _ _ := next_backoff_inRange
  marks_fresh _ _ := ⟨_, start_inRange, rfl⟩
  marks_renew _ _ he := ⟨_, next_backoff_inRange he, rfl⟩
  blocks e t now := by
    rintro ⟨b, ⟨hlo, hhi⟩, he⟩ hle hlt
    change now < t + 60000 at hlt
    apply decide_eq_true
    rw [he, ge_iff_le, UInt32.le_iff_toNat_le, UInt32.toNat_sub, UInt32.toNat_add,
      UInt32.toNat_ofNat', UInt32.toNat_ofNat']
    simp
    omega

lemma dm_ask_eq (t : RehsTable) (peer : UInt32) (now : ℕ) :
    dm_rehandshake_rate_ok t peer (UInt32.ofNat now) = dm_limiter.ask t peer now true := by
  unfold Limiter.ask dm_rehandshake_rate_ok
  have hfind : find (fun e => decide (dm_limiter.key e = peer)) t =
      find (fun e : RehsEntry => e.addr == peer) t := rfl
  rw [hfind]
  rcases find (fun e : RehsEntry => e.addr == peer) t with _ | i
  · rfl
  · exact if_congr decide_eq_true_iff.symm rfl rfl

lemma location_ask_eq (t : HsTable) {addr : UInt32} (haddr : addr ≠ 0) (defer_first : Bool)
    (now : ℕ) :
    location_hs_should_attempt t addr true defer_first (UInt32.ofNat now) =
      location_limiter.ask t addr now (!defer_first) := by
  unfold Limiter.ask location_hs_should_attempt
  have hfind : find (fun e => decide (location_limiter.key e = addr)) t =
      find (fun e : HsSlot => e.addr == addr) t := rfl
  rw [if_neg haddr, hfind, Bool.not_true, if_neg Bool.false_ne_true]
  rcases find (fun e : HsSlot => e.addr == addr) t with _ | i <;> rfl

lemma location_clear_eq (t : HsTable) {addr : UInt32} (haddr : addr ≠ 0) :
    location_hs_clear t addr = location_limiter.clear t addr := by
  unfold Limiter.clear location_hs_clear
  have hfind : find (fun e => decide (location_limiter.key e = addr)) t =
      find (fun e : HsSlot => e.addr == addr) t := rfl
  rw [if_neg haddr, hfind]
  rcases find (fun e : HsSlot => e.addr == addr) t with _ | i <;> rfl

lemma dm_spare {s : DmLimit} {e : UInt32 × ℕ} (h : DmSpare s e) :
    Spare dm_limiter s (.ask e.1 e.2 true) :=
  ⟨h.1, h.2.1, fun hfind hfree => decide_eq_false (UInt32.not_lt.2 (h.2.2 hfind hfree))⟩

lemma dm_remembers {es : List (UInt32 × ℕ)} (hrun : Run.Meets dm_step DmSpare dm_start es) :
    Remembers dm_limiter (es.foldl dm_step dm_start) := by
  apply Run.foldl_invariant _ hrun (remembers_start dm_limiter)
  intro s e h hspare
  have hstep : dm_step s e = step dm_limiter s (.ask e.1 e.2 true) := by
    rw [dm_step, dm_ask_eq, step]
    rcases dm_limiter.ask s.table e.1 e.2 true with ⟨_ | _, t⟩ <;> rfl
  rw [hstep]
  exact h.ask (dm_spare hspare)

lemma location_spare {s : LocationLimit} {addr : UInt32} {defer_first : Bool} {now : ℕ}
    (h : LocationSpare s (.attempt addr true defer_first now)) :
    Spare location_limiter s (.ask addr now (!defer_first)) :=
  ⟨h.1, h.2.1, h.2.2 rfl⟩

lemma location_remembers {es : List LocationEvent}
    (hrun : Run.Meets location_step LocationSpare location_start es) :
    Remembers location_limiter (es.foldl location_step location_start) := by
  apply Run.foldl_invariant _ hrun (remembers_start location_limiter)
  intro s e h hspare
  cases e with
  | clear addr =>
    rw [location_step, location_clear_eq s.table hspare]
    exact h.clear addr
  | attempt addr reachable defer_first now =>
    cases reachable with
    | false =>
      -- an unreachable peer leaves the table as it is
      rw [location_step, location_hs_should_attempt, if_neg hspare.1]
      exact h.wait hspare.2.1
    | true =>
      have hstep : location_step s (.attempt addr true defer_first now) =
          step location_limiter s (.ask addr now (!defer_first)) := by
        rw [location_step, location_ask_eq s.table hspare.1, step]
        rcases location_limiter.ask s.table addr now (!defer_first) with ⟨_ | _, t⟩ <;> rfl
      rw [hstep]
      exact h.ask (location_spare hspare)

/-- **Handshake triggers are rate limited** as long as no entry is recycled before its time.
Whatever peers the triggers name, a re-handshake that is granted to a peer comes at least 15 s
after the last one, and an attempt for the location at least a minute after the last one since the
peer's backoff was cleared. -/
theorem handshakes_spaced (peer : UInt32) (now t : ℕ) :
    (∀ es : List (UInt32 × ℕ),
      Run.Meets dm_step DmSpare dm_start (es ++ [(peer, now)]) →
      (es.foldl dm_step dm_start).last peer = some t →
      (dm_rehandshake_rate_ok (es.foldl dm_step dm_start).table peer (UInt32.ofNat now)).1 = true →
        t + DM_REHANDSHAKE_MIN_INTERVAL_MS.toNat ≤ now) ∧
    ∀ (es : List LocationEvent) (reachable defer_first : Bool),
      Run.Meets location_step LocationSpare location_start
        (es ++ [.attempt peer reachable defer_first now]) →
      (es.foldl location_step location_start).last peer = some t →
      (location_hs_should_attempt (es.foldl location_step location_start).table peer reachable
        defer_first (UInt32.ofNat now)).1 = true →
        t + LOCATION_HS_BACKOFF_START_MS.toNat ≤ now := by
  refine ⟨?_, ?_⟩
  · intro es hrun hlast hgrant
    obtain ⟨hes, hspare, -⟩ := (Run.meets_append _ _ _).1 hrun
    rw [dm_ask_eq] at hgrant
    exact ask_spaced (dm_remembers hes) (dm_spare hspare) hlast hgrant
  · intro es reachable defer_first hrun hlast hgrant
    obtain ⟨hes, hspare, -⟩ := (Run.meets_append _ _ _).1 hrun
    cases reachable with
    | false =>
      rw [location_hs_should_attempt, if_neg hspare.1] at hgrant
      cases hgrant
    | true =>
      rw [location_ask_eq _ hspare.1] at hgrant
      exact ask_spaced (location_remembers hes) (location_spare hspare) hlast hgrant

/-- The ninth peer takes a place that is no longer of use. -/
theorem handshakes_spaced_two :
    20000 + DM_REHANDSHAKE_MIN_INTERVAL_MS.toNat ≤ 40000 ∧
      0 + LOCATION_HS_BACKOFF_START_MS.toNat ≤ 60000 :=
  ⟨(handshakes_spaced 9 40000 20000).1 [(1, 0), (2, 0), (3, 0), (4, 0), (5, 0), (6, 0), (7, 0),
      (8, 0), (9, 20000)] (by decide +kernel) (by decide +kernel) (by decide +kernel),
    (handshakes_spaced 1 60000 0).2 [.attempt 1 true false 0, .attempt 1 true false 59999] true
      false (by decide +kernel) (by decide +kernel) (by decide +kernel)⟩

def nine : List (UInt32 × ℕ) :=
  [(1, 0), (2, 0), (3, 0), (4, 0), (5, 0), (6, 0), (7, 0), (8, 0), (9, 1)]

/-- The ninth peer takes the place of the first, which is granted again after 2 ms. -/
theorem ninth_peer_forgets :
    (nine.foldl dm_step dm_start).last 1 = some 0 ∧
    (dm_rehandshake_rate_ok (nine.foldl dm_step dm_start).table 1 2).1 = true ∧
    ((nine.map fun e => LocationEvent.attempt e.1 true false e.2).foldl location_step
      location_start).last 1 = some 0 ∧
    (location_hs_should_attempt ((nine.map fun e => LocationEvent.attempt e.1 true false e.2).foldl
      location_step location_start).table 1 true false 2).1 = true := by
  decide +kernel

end BrambleMesh.HandshakeLimits
