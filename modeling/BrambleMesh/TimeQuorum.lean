/-
Whole histories of network time: components/timesync/timesync.c. The limit on a shift is put on
the proposal, not on the mean of the pool that is committed.
-/
import BrambleMesh.TimeSync

namespace BrambleMesh.TimeQuorum

open TimeSync Mean List

variable {ts : State} {x : Sync} {pool : List Pending}

/-! ## One call -/

inductive Outcome (ts : State) (x : Sync) : Result × State → Prop
  | rejected (r : Result) (h : r ≠ .COMMITTED) : Outcome ts x (r, ts)
  | collected (hsync : ts.synchronized = false) :
      Outcome ts x (.ACCEPTED, { ts with pending := pool_after ts x })
  | committed (hgate : TimeSync.rejected ts x = none)
      (hquorum : ts.synchronized ∨
        CORROBORATION_REQUIRED ≤ count_distinct_established_sources (pool_after ts x)) :
      Outcome ts x (.COMMITTED, TimeSync.committed x (pool_after ts x))

lemma handle_sync_outcome (ts : State) (x : Sync) :
    Outcome ts x (timesync_handle_sync ts x) := by
  unfold timesync_handle_sync
  rcases hgate : rejected ts x with _ | r
  · rw [accept]
    split_ifs with hfew
    · exact .collected (by simpa using hfew.1)
    · refine .committed hgate ?_
      rw [Bool.not_eq_true', not_and, not_lt, ← Bool.not_eq_true] at hfew
      by_cases hsync : ts.synchronized
      · exact .inl hsync
      · exact .inr (hfew hsync)
  · exact .rejected r fun hr => rejected_ne_committed ts x (hr ▸ hgate)

/-! ## The pool -/

lemma pool_after_ne_nil (ts : State) (x : Sync) : pool_after ts x ≠ [] := by
  rw [pool_after, admitted]
  split
  · next i hi =>
    intro hnil
    rw [set_eq_nil_iff] at hnil
    rw [hnil] at hi
    cases hi
  · split_ifs with hfull
    · intro hnil
      rw [set_eq_nil_iff] at hnil
      rw [hnil] at hfull
      cases hfull
    · simp

lemma length_admitted_le (p : Pending) (h : pool.length ≤ PENDING_POOL_SIZE) :
    (admitted pool p).length ≤ PENDING_POOL_SIZE := by
  rw [admitted]
  split
  · rwa [length_set]
  · split_ifs with hfull
    · rwa [length_set]
    · rw [length_append, length_singleton]
      omega

lemma purge_stale_pool_after (ts : State) (x : Sync) :
    purge_stale x.local_now_ms (pool_after ts x) = pool_after ts x := by
  apply purge_stale_of_fresh
  intro p hp
  rcases mem_admitted hp with rfl | hp
  · rw [fresh, Sync.entry, UInt32.sub_self]
    rfl
  · exact (mem_filter.1 hp).2

lemma best_stratum_eq {p : Pending} (hp : p ∈ pool) (hmin : ∀ q ∈ pool, p.stratum ≤ q.stratum) :
    (best_stratum pool).toNat = min MAX_STRATUM.toNat p.stratum.toNat := by
  have hfold : ∀ (l : List Pending) (b : UInt8),
      (l.foldl (fun best p => if p.stratum < best then p.stratum else best) b).toNat =
        (l.map fun p => p.stratum.toNat).foldl min b.toNat := by
    intro l
    induction l with
    | nil => exact fun _ => rfl
    | cons q l ih =>
      intro b
      have hone : (if q.stratum < b then q.stratum else b).toNat =
          min b.toNat q.stratum.toNat := by
        split_ifs with hlt
        · exact (min_eq_right (UInt8.lt_iff_toNat_lt.1 hlt).le).symm
        · exact (min_eq_left (not_lt.1 fun h => hlt (UInt8.lt_iff_toNat_lt.2 h))).symm
      rw [foldl_cons, map_cons, foldl_cons, ih, hone]
  have hleast : (pool.map fun p => p.stratum.toNat).min? = some p.stratum.toNat := by
    rw [min?_eq_some_iff]
    refine ⟨mem_map.2 ⟨p, hp, rfl⟩, fun n hn => ?_⟩
    obtain ⟨q, hq, rfl⟩ := mem_map.1 hn
    exact UInt8.le_iff_toNat_le.1 (hmin q hq)
  rw [best_stratum, hfold, foldl_min, hleast, Option.getD_some]

lemma exists_best (h : pool ≠ []) : ∃ p ∈ pool, ∀ q ∈ pool, p.stratum ≤ q.stratum := by
  rcases hp : pool.argmin fun p => p.stratum.toNat with _ | p
  · exact absurd (argmin_eq_none.1 hp) h
  · refine ⟨p, argmin_mem hp, fun q hq => UInt8.le_iff_toNat_le.2 ?_⟩
    exact le_of_mem_argmin (f := fun p : Pending => p.stratum.toNat) hq hp

/-! ## Whole histories -/

structure Sound (ts : State) : Prop where
  nodup : (ts.pending.map Pending.source_addr).Nodup
  bounded : ts.pending.length ≤ PENDING_POOL_SIZE
  commit : ts.synchronized → ts.pending ≠ [] ∧
    ts.offset_ms = compute_weighted_offset ts.pending ∧ ts.stratum = best_stratum ts.pending + 1

lemma Sound.pool_after (h : Sound ts) (x : Sync) :
    ((pool_after ts x).map Pending.source_addr).Nodup ∧
      (pool_after ts x).length ≤ PENDING_POOL_SIZE := by
  constructor
  · exact nodup_admitted _ (h.nodup.sublist (filter_sublist.map _))
  · exact length_admitted_le _ ((length_filter_le _ _).trans h.bounded)

lemma Sound.step (h : Sound ts) (x : Sync) : Sound (step ts x) := by
  obtain ⟨hnodup, hlen⟩ := h.pool_after x
  have hout := handle_sync_outcome ts x
  rw [TimeSync.step]
  generalize timesync_handle_sync ts x = result at hout
  cases hout with
  | rejected => exact h
  | collected hsync => exact ⟨hnodup, hlen, fun htrue => absurd htrue (by simp [hsync])⟩
  | committed => exact ⟨hnodup, hlen, fun _ => ⟨pool_after_ne_nil ts x, rfl, rfl⟩⟩

lemma sound_run (xs : List Sync) : Sound (xs.foldl step timesync_init) := by
  apply foldlRecOn
  · exact ⟨nodup_nil, Nat.zero_le _, fun h => nomatch h⟩
  · exact fun ts h x _ => h.step x

lemma Sound.stratum (h : Sound ts) (hsync : ts.synchronized) :
    ∃ p ∈ ts.pending, (∀ q ∈ ts.pending, p.stratum ≤ q.stratum) ∧
      ts.stratum.toNat = min MAX_STRATUM.toNat p.stratum.toNat + 1 := by
  obtain ⟨hne, -, hstratum⟩ := h.commit hsync
  obtain ⟨p, hp, hmin⟩ := exists_best hne
  refine ⟨p, hp, hmin, ?_⟩
  have hbest := best_stratum_eq hp hmin
  have hle : min MAX_STRATUM.toNat p.stratum.toNat ≤ 7 := min_le_left _ _
  rw [hstratum, UInt8.toNat_add, hbest]
  exact Nat.mod_eq_of_lt (by simp; omega)

/-- **The first commit needs a quorum.**  In every history from the start the pool holds one
proposal a source and no more than its size; a call synchronizes the node only if it leaves three
distinct established sources with a proposal that is not stale; from then on the node stays
synchronized, its stratum one above the best in the pool, or above MAX_STRATUM where the pool has
nothing better; and a call that is rejected changes nothing. -/
theorem commit_needs_quorum (xs : List Sync) (x : Sync) :
    let ts := xs.foldl step timesync_init
    let result := timesync_handle_sync ts x
    ((ts.pending.map Pending.source_addr).Nodup ∧ ts.pending.length ≤ PENDING_POOL_SIZE) ∧
    (ts.synchronized = false → result.2.synchronized = true → CORROBORATION_REQUIRED ≤
      count_distinct_established_sources (purge_stale x.local_now_ms result.2.pending)) ∧
    (ts.synchronized = true → result.2.synchronized = true ∧
      ∃ p ∈ ts.pending, (∀ q ∈ ts.pending, p.stratum ≤ q.stratum) ∧
        ts.stratum.toNat = min MAX_STRATUM.toNat p.stratum.toNat + 1) ∧
    (result.1 = .REJECTED_STRATUM ∨ result.1 = .REJECTED_SHIFT → result.2 = ts) := by
  intro ts result
  have hs : Sound ts := sound_run xs
  refine ⟨⟨hs.nodup, hs.bounded⟩, ?_, fun hsync => ⟨step_synchronized hsync, hs.stratum hsync⟩, ?_⟩
  · intro hsync hsync'
    have hout : Outcome ts x result := handle_sync_outcome ts x
    generalize result = result at hout hsync'
    cases hout with
    | rejected => exact absurd hsync' (by simp [hsync])
    | collected => exact absurd hsync' (by simp [hsync])
    | committed _ hquorum =>
      rw [committed, purge_stale_pool_after]
      exact hquorum.resolve_left (by simp [hsync])
  · intro hneg
    have hout : Outcome ts x result := handle_sync_outcome ts x
    generalize result = result at hout hneg
    cases hout with
    | rejected => rfl
    | collected => simp at hneg
    | committed => simp at hneg

def far (source_addr : UInt32) : Sync := ⟨100, 9, source_addr, true, 100⟩

/-- Three sources of stratum 9 commit, and the node's stratum is 8. -/
theorem far_sources_commit :
    ([far 1, far 2, far 3].foldl step timesync_init).synchronized = true ∧
      ([far 1, far 2, far 3].foldl step timesync_init).pending.map Pending.stratum = [9, 9, 9] ∧
      ([far 1, far 2, far 3].foldl step timesync_init).stratum = 8 := by
  decide

/-! ## The step of the clock -/

def Gradual (ts : State) (x : Sync) : Prop :=
  pool_after ts x = ts.pending ++ [x.entry] ∨
    ∀ p ∈ pool_after ts x, |p.offset_ms - ts.offset_ms| ≤ MAX_TIME_SHIFT_MS
deriving Decidable

lemma Gradual.mean_near (h : Gradual ts x) (hs : Sound ts) (hsync : ts.synchronized)
    (hgate : rejected ts x = none) :
    |compute_weighted_offset (pool_after ts x) - ts.offset_ms| ≤ MAX_TIME_SHIFT_MS := by
  obtain ⟨hne, hoffset, -⟩ := hs.commit hsync
  have hshift : |x.proposed_offset - ts.offset_ms| ≤ MAX_TIME_SHIFT_MS := by
    unfold rejected at hgate
    split_ifs at hgate with _ hfar
    exact not_lt.1 hfar
  have hx := abs_le.1 hshift
  rcases h with happend | hnear
  · -- the pool is that of the last commit and the proposal
    have hmean : weighted_mean (ts.pending.map fun p => (p.offset_ms, weight p)) = ts.offset_ms :=
      hoffset.symm
    have hbounds : ts.offset_ms - 2000 ≤ compute_weighted_offset (ts.pending ++ [x.entry]) ∧
        compute_weighted_offset (ts.pending ++ [x.entry]) ≤ ts.offset_ms + 2000 := by
      rw [compute_weighted_offset, map_append, map_singleton]
      apply weighted_mean_append_bounds
      · simpa using hne
      · simpa using fun p _ => weight_pos p
      · exact weight_pos _
      · constructor <;> linarith
      · rw [Sync.entry]
        constructor <;> linarith
    rw [happend]
    exact abs_le.2 ⟨by linarith [hbounds.1], by linarith [hbounds.2]⟩
  · have hbounds := weighted_offset_bounds (ts.offset_ms - MAX_TIME_SHIFT_MS)
      (ts.offset_ms + MAX_TIME_SHIFT_MS) (pool_after_ne_nil ts x) fun p hp => by
        have hp := abs_le.1 (hnear p hp)
        constructor <;> linarith [hp.1, hp.2]
    exact abs_le.2 ⟨by linarith [hbounds.1], by linarith [hbounds.2]⟩

/-- **The clock moves in bounded steps** where nothing leaves the pool, or what is left of it
agrees with the offset before. -/
theorem offset_moves_bounded (xs : List Sync) (x : Sync)
    (hsync : (xs.foldl step timesync_init).synchronized = true)
    (h : Gradual (xs.foldl step timesync_init) x) :
    |(step (xs.foldl step timesync_init) x).offset_ms - (xs.foldl step timesync_init).offset_ms| ≤
      MAX_TIME_SHIFT_MS := by
  have hs := sound_run xs
  generalize xs.foldl step timesync_init = ts at hsync h hs ⊢
  have hout := handle_sync_outcome ts x
  rw [step]
  generalize timesync_handle_sync ts x = result at hout
  cases hout with
  | rejected => simp
  | collected => simp
  | committed hgate => exact h.mean_near hs hsync hgate

def proposal (source_addr : UInt32) (offset : ℤ) (local_now_ms : UInt32) : Sync :=
  ⟨local_now_ms.toNat + offset, 0, source_addr, true, local_now_ms⟩

def agreeing : List Sync := [proposal 1 100 0, proposal 2 200 10, proposal 3 300 20]

theorem offset_moves_bounded_agreeing :
    |(step (agreeing.foldl step timesync_init) (proposal 4 2000 30)).offset_ms -
      (agreeing.foldl step timesync_init).offset_ms| ≤ MAX_TIME_SHIFT_MS :=
  offset_moves_bounded agreeing (proposal 4 2000 30) (by decide +kernel) (by decide +kernel)

def drifting : List Sync :=
  [proposal 1 2000 0, proposal 2 4000 1, proposal 3 1000 2, proposal 4 333 3, proposal 5 (-167) 4,
    proposal 6 (-567) 5, proposal 7 (-901) 6, proposal 8 (-1186) 7, proposal 9 2564 1000,
    proposal 10 2634 2000]

/-- The six go stale together, and a proposal 2000 ms off moves the clock by 2090 ms. -/
theorem offset_jumps :
    (drifting.foldl step timesync_init).synchronized = true ∧
      (drifting.foldl step timesync_init).offset_ms = 463 ∧
      (timesync_handle_sync (drifting.foldl step timesync_init) (proposal 11 2463 180500)).1 =
        .COMMITTED ∧
      (step (drifting.foldl step timesync_init) (proposal 11 2463 180500)).offset_ms = 2553 := by
  decide

end BrambleMesh.TimeQuorum
