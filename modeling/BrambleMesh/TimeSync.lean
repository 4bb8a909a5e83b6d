/-
Network time: components/timesync/timesync.c. A stale proposal is purged only once the next one
has been let in, which before the first commit is judged by its distance from the mean of the
whole pool.
-/
import BrambleMesh.Lib.Mean
import BrambleMesh.Lib.Run

namespace BrambleMesh.TimeSync

open Mean Run List

/-! ## State -/

abbrev MAX_TIME_SHIFT_MS : ℤ := 2000
abbrev MAX_STRATUM : UInt8 := 7
abbrev CORROBORATION_REQUIRED : ℕ := 3
abbrev PENDING_POOL_SIZE : ℕ := 8
abbrev PENDING_MAX_AGE_MS : UInt32 := 180000

structure Pending where
  offset_ms : ℤ
  source_addr : UInt32
  timestamp_ms : UInt32
  stratum : UInt8
  established : Bool
deriving DecidableEq, Repr

structure State where
  offset_ms : ℤ
  stratum : UInt8
  last_sync_ms : UInt32
  synchronized : Bool
  pending : List Pending
deriving DecidableEq, Repr

def timesync_init : State := ⟨0, MAX_STRATUM, 0, false, []⟩

def timesync_get_network_time (ts : State) (local_now_ms : UInt32) : ℤ :=
  local_now_ms.toNat + ts.offset_ms

/-! ## The pool -/

def fresh (local_now_ms : UInt32) (p : Pending) : Bool :=
  local_now_ms - p.timestamp_ms ≤ PENDING_MAX_AGE_MS

def purge_stale (local_now_ms : UInt32) (pool : List Pending) : List Pending :=
  pool.filter (fresh local_now_ms)

def count_distinct_established_sources (pool : List Pending) : ℕ :=
  ((pool.filter Pending.established).map Pending.source_addr).dedup.length

def weight (p : Pending) : ℤ := max 1 (7 - p.stratum.toNat)

def compute_weighted_offset (pool : List Pending) : ℤ :=
  weighted_mean (pool.map fun p => (p.offset_ms, weight p))

def best_stratum (pool : List Pending) : UInt8 :=
  pool.foldl (fun best p => if p.stratum < best then p.stratum else best) MAX_STRATUM

def oldest (pool : List Pending) : ℕ :=
  let stamps := pool.map Pending.timestamp_ms
  (List.range pool.length).foldl
    (fun oldest i => if stamps.getD i 0 < stamps.getD oldest 0 then i else oldest) 0

def admitted (pool : List Pending) (p : Pending) : List Pending :=
  match pool.findIdx? fun q => q.source_addr == p.source_addr with
  | some i => pool.set i p
  | none => if pool.length ≥ PENDING_POOL_SIZE then pool.set (oldest pool) p else pool ++ [p]

/-! ## A proposal -/

structure Sync where
  remote_time_ms : ℤ
  remote_stratum : UInt8
  source_addr : UInt32
  source_established : Bool
  local_now_ms : UInt32
deriving DecidableEq, Repr

inductive Result
  | REJECTED_STRATUM
  | REJECTED_SHIFT
  | ACCEPTED
  | COMMITTED
deriving DecidableEq, Repr

def Sync.proposed_offset (x : Sync) : ℤ := x.remote_time_ms - x.local_now_ms.toNat

def Sync.entry (x : Sync) : Pending :=
  ⟨x.proposed_offset, x.source_addr, x.local_now_ms, x.remote_stratum, x.source_established⟩

def rejected (ts : State) (x : Sync) : Option Result :=
  if ts.synchronized && x.remote_stratum ≥ ts.stratum then some .REJECTED_STRATUM
  else if ts.synchronized then
    if |x.proposed_offset - ts.offset_ms| > MAX_TIME_SHIFT_MS then some .REJECTED_SHIFT else none
  else if ts.pending ≠ [] ∧
      |x.proposed_offset - compute_weighted_offset ts.pending| > MAX_TIME_SHIFT_MS then
    some .REJECTED_SHIFT
  else none

lemma rejected_ne_committed (ts : State) (x : Sync) : rejected ts x ≠ some .COMMITTED := by
  rw [rejected]
  split_ifs <;> decide

def committed (x : Sync) (pool : List Pending) : State :=
  ⟨compute_weighted_offset pool, best_stratum pool + 1, x.local_now_ms, true, pool⟩

def pool_after (ts : State) (x : Sync) : List Pending :=
  admitted (purge_stale x.local_now_ms ts.pending) x.entry

def accept (ts : State) (x : Sync) : Result × State :=
  let pool := pool_after ts x
  if !ts.synchronized ∧ count_distinct_established_sources pool < CORROBORATION_REQUIRED then
    (.ACCEPTED, { ts with pending := pool })
  else (.COMMITTED, committed x pool)

def timesync_handle_sync (ts : State) (x : Sync) : Result × State :=
  match rejected ts x with
  | some r => (r, ts)
  | none => accept ts x

def step (ts : State) (x : Sync) : State := (timesync_handle_sync ts x).2

/-! ## Stale proposals -/

def without_stale (ts : State) (local_now_ms : UInt32) : State :=
  { ts with pending := purge_stale local_now_ms ts.pending }

def WithinShift (ts : State) (x : Sync) (pool : List Pending) : Prop :=
  if ts.synchronized then
    x.remote_stratum < ts.stratum ∧ |x.proposed_offset - ts.offset_ms| ≤ MAX_TIME_SHIFT_MS
  else pool = [] ∨ |x.proposed_offset - compute_weighted_offset pool| ≤ MAX_TIME_SHIFT_MS
deriving Decidable

def StaleHarmless (ts : State) (x : Sync) : Prop :=
  (∀ p ∈ ts.pending, fresh x.local_now_ms p) ∨
    WithinShift ts x ts.pending ∧ WithinShift ts x (purge_stale x.local_now_ms ts.pending)
deriving Decidable

variable {pool : List Pending} {ts : State} {x : Sync} {done recent xs : List Sync}
  {a b c : UInt32}

lemma purge_stale_of_fresh {now : UInt32} (h : ∀ p ∈ pool, fresh now p) :
    purge_stale now pool = pool :=
  filter_eq_self.2 h

lemma accept_without_stale (ts : State) (x : Sync) :
    accept (without_stale ts x.local_now_ms) x = accept ts x := by
  have hpool : pool_after (without_stale ts x.local_now_ms) x = pool_after ts x := by
    rw [pool_after, pool_after, without_stale, purge_stale, purge_stale, filter_filter]
    simp only [Bool.and_self]
  rw [accept, hpool]
  rfl

lemma rejected_none_iff : rejected ts x = none ↔ WithinShift ts x ts.pending := by
  unfold rejected WithinShift
  by_cases hsync : ts.synchronized
  · by_cases hstratum : x.remote_stratum ≥ ts.stratum
    · simp [hsync, hstratum, UInt8.not_lt.2 hstratum]
    · simp [hsync, hstratum, UInt8.not_le.1 hstratum]
  · simp [hsync, or_iff_not_imp_left]

lemma accept_ne_rejected {r : Result} (h : rejected ts x = some r) (ts' : State) (x' : Sync) :
    (accept ts' x').1 ≠ r := by
  unfold rejected at h
  dsimp only [accept]
  split_ifs at h ⊢ <;> cases h <;> simp

/-- What a rejected sync leaves behind is the whole pool, so the stale ones show in the state. -/
lemma staleHarmless_iff : StaleHarmless ts x ↔
    timesync_handle_sync (without_stale ts x.local_now_ms) x = timesync_handle_sync ts x := by
  have hgate : rejected ts x = none ↔ _ := rejected_none_iff
  have hgate' : rejected (without_stale ts x.local_now_ms) x = none ↔ _ := rejected_none_iff
  rw [StaleHarmless, ← hgate,
    show WithinShift ts x (purge_stale x.local_now_ms ts.pending) ↔ _ from hgate'.symm]
  constructor
  · rintro (hfresh | ⟨hpass, hpass'⟩)
    · rw [without_stale, purge_stale_of_fresh hfresh]
    · rw [timesync_handle_sync, timesync_handle_sync, hpass, hpass']
      exact accept_without_stale ts x
  · intro h
    rw [or_iff_not_imp_left]
    intro hstale
    have hne : without_stale ts x.local_now_ms ≠ ts := fun heq =>
      hstale (filter_eq_self.1 (congrArg State.pending heq))
    rw [timesync_handle_sync, timesync_handle_sync] at h
    cases hr : rejected ts x with
    | none =>
      cases hr' : rejected (without_stale ts x.local_now_ms) x with
      | none => exact ⟨rfl, rfl⟩
      | some r' =>
        rw [hr, hr'] at h
        exact absurd (congrArg Prod.fst h).symm (accept_ne_rejected hr' ts x)
    | some r =>
      cases hr' : rejected (without_stale ts x.local_now_ms) x with
      | none =>
        rw [hr, hr'] at h
        exact absurd (congrArg Prod.fst h) (accept_ne_rejected hr _ x)
      | some r' =>
        rw [hr, hr'] at h
        exact absurd (congrArg Prod.snd h) hne

def blocked : State := ⟨0, MAX_STRATUM, 0, false, [⟨5000000, 9, 1000, 1, true⟩]⟩

def honest (source_addr local_now_ms : UInt32) : Sync :=
  ⟨local_now_ms.toNat + 100, 1, source_addr, true, local_now_ms⟩

/-- The wrong proposal is stale, and yet those of three sources that agree are rejected, then and
two hours later; it is never purged. -/
theorem stale_proposal_blocks :
    (timesync_handle_sync blocked (honest 1 241000)).1 = .REJECTED_SHIFT ∧
      (timesync_handle_sync (without_stale blocked 241000) (honest 1 241000)).1 = .ACCEPTED ∧
      [honest 1 241000, honest 2 242000, honest 3 243000, honest 1 7441000, honest 2 7442000,
        honest 3 7443000].foldl step blocked = blocked := by
  decide

/-! ## Three sources that agree -/

lemma weight_pos (p : Pending) : 0 < weight p := by
  exact lt_of_lt_of_le one_pos (le_max_left _ _)

lemma weighted_offset_bounds (lo hi : ℤ) (hne : pool ≠ [])
    (h : ∀ p ∈ pool, lo ≤ p.offset_ms ∧ p.offset_ms ≤ hi) :
    lo ≤ compute_weighted_offset pool ∧ compute_weighted_offset pool ≤ hi := by
  apply weighted_mean_bounds
  · simpa using hne
  · simp only [mem_map, forall_exists_index, and_imp, forall_apply_eq_imp_iff₂]
    exact fun p _ => weight_pos p
  · simp only [mem_map, forall_exists_index, and_imp, forall_apply_eq_imp_iff₂]
    exact h

lemma mem_admitted {p q : Pending} (h : q ∈ admitted pool p) :
    q = p ∨ q ∈ pool := by
  rw [admitted] at h
  split at h
  · exact (mem_or_eq_of_mem_set h).symm
  · split at h
    · exact (mem_or_eq_of_mem_set h).symm
    · rcases mem_append.1 h with h | h
      · exact .inr h
      · exact .inl (mem_singleton.1 h)

lemma admitted_cases (p : Pending) (hroom : pool.length < PENDING_POOL_SIZE) :
    (∃ (i : ℕ) (hi : i < pool.length), pool[i].source_addr = p.source_addr ∧
        admitted pool p = pool.set i p) ∨
      p.source_addr ∉ pool.map Pending.source_addr ∧ admitted pool p = pool ++ [p] := by
  rw [admitted]
  rcases hfind : pool.findIdx? fun q => q.source_addr == p.source_addr with _ | i
  · right
    constructor
    · intro hmem
      obtain ⟨q, hq, heq⟩ := mem_map.1 hmem
      have hnone := findIdx?_eq_none_iff.1 hfind q hq
      rw [heq, beq_self_eq_true] at hnone
      cases hnone
    · rw [hfind]
      exact if_neg (not_le.2 hroom)
  · obtain ⟨hi, heq, -⟩ := findIdx?_eq_some_iff_getElem.1 hfind
    exact .inl ⟨i, hi, beq_iff_eq.1 heq, by rw [hfind]⟩

lemma mem_admitted_of {p q : Pending} (hroom : pool.length < PENDING_POOL_SIZE)
    (h : q = p ∨ q ∈ pool ∧ q.source_addr ≠ p.source_addr) : q ∈ admitted pool p := by
  rcases admitted_cases p hroom with ⟨i, hi, hsource, hset⟩ | ⟨-, hend⟩
  · rw [hset]
    rcases h with rfl | ⟨hq, hne⟩
    · exact mem_set hi q
    · obtain ⟨j, hj, rfl⟩ := mem_iff_getElem.1 hq
      have hij : i ≠ j := by
        rintro rfl
        exact hne hsource
      exact mem_iff_getElem.2 ⟨j, by rwa [length_set], getElem_set_of_ne hij _ _⟩
  · rw [hend]
    rcases h with rfl | ⟨hq, -⟩
    · exact mem_append_right _ (mem_singleton_self q)
    · exact mem_append_left _ hq

lemma nodup_admitted (p : Pending) (h : (pool.map Pending.source_addr).Nodup) :
    ((admitted pool p).map Pending.source_addr).Nodup := by
  rw [admitted]
  rcases hfind : pool.findIdx? fun q : Pending => q.source_addr == p.source_addr with _ | i
  · have hnew : p.source_addr ∉ pool.map Pending.source_addr := by
      intro hmem
      obtain ⟨q, hq, heq⟩ := mem_map.1 hmem
      exact ne_of_beq_false (findIdx?_eq_none_iff.1 hfind q hq) heq
    split_ifs
    · rw [map_set]
      exact h.set hnew
    · rw [map_append]
      exact h.append (nodup_singleton _) (by simpa using hnew)
  · obtain ⟨hi, heq, -⟩ := findIdx?_eq_some_iff_getElem.1 hfind
    rw [map_set, ← beq_iff_eq.1 heq, ← map_set, set_getElem_self]
    exact h

structure Agreeing (ts : State) (xs : List Sync) (a b c : UInt32) : Prop where
  unsynchronized : ts.synchronized = false
  gone_stale : ∀ p ∈ ts.pending, ∀ x ∈ xs, fresh x.local_now_ms p = false
  established : ∀ x ∈ xs, x.source_established
  agree : ∀ x ∈ xs, ∀ y ∈ xs, |x.proposed_offset - y.proposed_offset| ≤ MAX_TIME_SHIFT_MS
  sources : ∀ x ∈ xs, x.source_addr ∈ [a, b, c]

def Together (xs : List Sync) : Prop :=
  xs.Pairwise fun x y => y.local_now_ms - x.local_now_ms ≤ PENDING_MAX_AGE_MS
deriving Decidable

structure ThreeAgree (ts : State) (xs recent : List Sync) (a b c : UInt32) : Prop extends
    Agreeing ts xs a b c where
  distinct : [a, b, c].Nodup
  part : recent <:+: xs
  together : Together recent
  all_send : [a, b, c] ⊆ recent.map Sync.source_addr

structure Holds (done recent : List Sync) (pool : List Pending) : Prop where
  entries : ∀ p ∈ pool, ∃ x ∈ done, p = x.entry
  covers : ∀ x ∈ recent, ∃ y ∈ recent, y.source_addr = x.source_addr ∧ y.entry ∈ pool
  nodup : (pool.map Pending.source_addr).Nodup

lemma holds_nil : Holds [] [] [] :=
  ⟨fun _ hp => absurd hp not_mem_nil, fun _ hx => absurd hx not_mem_nil,
    nodup_nil⟩

lemma Holds.length_lt (h : Holds done recent pool)
    (hsources : ∀ x ∈ done, x.source_addr ∈ [a, b, c]) : pool.length < PENDING_POOL_SIZE := by
  have hsub : pool.map Pending.source_addr ⊆ [a, b, c] := by
    intro n hn
    obtain ⟨p, hp, rfl⟩ := mem_map.1 hn
    obtain ⟨x, hx, rfl⟩ := h.entries p hp
    exact hsources x hx
  have hlen := (h.nodup.subperm hsub).length_le
  rw [length_map] at hlen
  exact lt_of_le_of_lt hlen (show 3 < 8 by decide)

lemma Holds.purged (h : Holds done recent pool) (htogether : Together (recent ++ [x])) :
    Holds done recent (purge_stale x.local_now_ms pool) where
  entries p hp := h.entries p (mem_filter.1 hp).1
  covers := by
    intro z hz
    obtain ⟨y, hy, hsource, hmem⟩ := h.covers z hz
    have hfresh := (pairwise_append.1 htogether).2.2 y hy x (mem_singleton_self x)
    exact ⟨y, hy, hsource, mem_filter.2 ⟨hmem, decide_eq_true hfresh⟩⟩
  nodup := (filter_sublist.map _).nodup h.nodup

lemma Holds.admitted (h : Holds done recent pool) (x : Sync)
    (hroom : pool.length < PENDING_POOL_SIZE) :
    Holds (done ++ [x]) (recent ++ [x]) (TimeSync.admitted pool x.entry) where
  entries := by
    intro p hp
    rcases mem_admitted hp with rfl | hp
    · exact ⟨x, mem_append_right _ (mem_singleton_self x), rfl⟩
    · obtain ⟨y, hy, rfl⟩ := h.entries p hp
      exact ⟨y, mem_append_left _ hy, rfl⟩
  covers := by
    intro z hz
    by_cases hsame : z.source_addr = x.source_addr
    · exact ⟨x, mem_append_right _ (mem_singleton_self x), hsame.symm,
        mem_admitted_of hroom (.inl rfl)⟩
    · have hold : z ∈ recent := by
        rcases mem_append.1 hz with hz | hz
        · exact hz
        · exact absurd (mem_singleton.1 hz ▸ rfl) hsame
      obtain ⟨y, hy, hsource, hmem⟩ := h.covers z hold
      exact ⟨y, mem_append_left _ hy, hsource,
        mem_admitted_of hroom (.inr ⟨hmem, fun heq => hsame (hsource ▸ heq)⟩)⟩
  nodup := nodup_admitted _ h.nodup

lemma Holds.quorum (h : Holds done recent pool) (hest : ∀ x ∈ done, x.source_established)
    (hd : [a, b, c].Nodup) (hall : [a, b, c] ⊆ recent.map Sync.source_addr) :
    CORROBORATION_REQUIRED ≤ count_distinct_established_sources pool := by
  have hfilter : pool.filter Pending.established = pool := by
    rw [filter_eq_self]
    intro p hp
    obtain ⟨x, hx, rfl⟩ := h.entries p hp
    exact hest x hx
  have hsub : [a, b, c] ⊆ pool.map Pending.source_addr := by
    intro n hn
    obtain ⟨x, hx, rfl⟩ := mem_map.1 (hall hn)
    obtain ⟨y, -, hsource, hmem⟩ := h.covers x hx
    exact hsource ▸ mem_map_of_mem hmem
  rw [count_distinct_established_sources, hfilter, h.nodup.dedup]
  exact (hd.subperm hsub).length_le

lemma Agreeing.front {ys : List Sync} (h : Agreeing ts (xs ++ ys) a b c) :
    Agreeing ts xs a b c where
  unsynchronized := h.unsynchronized
  gone_stale p hp y hy := h.gone_stale p hp y (mem_append_left _ hy)
  established y hy := h.established y (mem_append_left _ hy)
  agree y hy z hz := h.agree y (mem_append_left _ hy) z (mem_append_left _ hz)
  sources y hy := h.sources y (mem_append_left _ hy)

lemma rejected_eq_none (hunsync : ts.synchronized = false)
    (h : ts.pending = [] ∨
      |x.proposed_offset - compute_weighted_offset ts.pending| ≤ MAX_TIME_SHIFT_MS) :
    rejected ts x = none :=
  rejected_none_iff.2 (by rwa [WithinShift, if_neg (by simp [hunsync])])

lemma not_rejected (hunsync : ts.synchronized = false) (hharmless : StaleHarmless ts x)
    (hholds : Holds done recent (purge_stale x.local_now_ms ts.pending))
    (hagree : ∀ y ∈ done, |x.proposed_offset - y.proposed_offset| ≤ MAX_TIME_SHIFT_MS) :
    rejected ts x = none := by
  rcases hharmless with hfresh | ⟨hgate, -⟩
  · rw [purge_stale_of_fresh hfresh] at hholds
    apply rejected_eq_none hunsync
    by_cases hne : ts.pending = []
    · exact .inl hne
    right
    have hpool : ∀ p ∈ ts.pending, x.proposed_offset - MAX_TIME_SHIFT_MS ≤ p.offset_ms ∧
        p.offset_ms ≤ x.proposed_offset + MAX_TIME_SHIFT_MS := by
      intro p hp
      obtain ⟨y, hy, rfl⟩ := hholds.entries p hp
      have hnear := abs_le.1 (hagree y hy)
      rw [Sync.entry]
      constructor <;> linarith
    have hbounds := weighted_offset_bounds _ _ hne hpool
    exact abs_le.2 ⟨by linarith, by linarith⟩
  · exact rejected_none_iff.2 hgate

lemma step_admitted (hgate : rejected ts x = none) :
    (step ts x).synchronized ∨
      (step ts x).synchronized = ts.synchronized ∧ (step ts x).pending = pool_after ts x ∧
        count_distinct_established_sources (step ts x).pending < CORROBORATION_REQUIRED := by
  rw [step, timesync_handle_sync, hgate]
  dsimp only
  rw [accept]
  split
  case isTrue h => exact .inr ⟨rfl, rfl, h.2⟩
  case isFalse => exact .inl rfl

lemma step_synchronized (h : ts.synchronized) :
    (step ts x).synchronized := by
  rw [step, timesync_handle_sync]
  split
  · exact h
  · rw [accept]
    split
    · exact h
    · rfl

def Collecting (start : State) (done : List Sync) (ts : State) : Prop :=
  ts.synchronized = false ∧
    (done = [] ∧ ts.pending = start.pending ∨
      (∀ recent, recent <:+ done → Together recent → Holds done recent ts.pending) ∧
        count_distinct_established_sources ts.pending < CORROBORATION_REQUIRED)

lemma Collecting.purged {start : State} (h : Collecting start done ts)
    (hagree : Agreeing start (done ++ [x]) a b c) (hsuffix : recent <:+ done)
    (htogether : Together (recent ++ [x])) :
    Holds done recent (purge_stale x.local_now_ms ts.pending) := by
  have hx : x ∈ done ++ [x] := mem_append_right _ (mem_singleton_self x)
  rcases h.2 with ⟨rfl, hstart⟩ | ⟨hholds, -⟩
  · -- nothing of the run yet, and the rest is stale
    have hnone : purge_stale x.local_now_ms start.pending = [] := by
      rw [purge_stale, filter_eq_nil_iff]
      intro p hp
      rw [hagree.gone_stale p hp x hx]
      exact Bool.false_ne_true
    rw [hstart, hnone, suffix_nil.1 hsuffix]
    exact holds_nil
  · exact (hholds recent hsuffix (pairwise_append.1 htogether).1).purged htogether

lemma Collecting.next {start : State} (h : Collecting start done ts)
    (hagree : Agreeing start (done ++ [x]) a b c) (hharmless : StaleHarmless ts x) :
    (step ts x).synchronized ∨ Collecting start (done ++ [x]) (step ts x) := by
  have hx : x ∈ done ++ [x] := mem_append_right _ (mem_singleton_self x)
  have hpurged := h.purged hagree nil_suffix (pairwise_singleton _ x)
  have hgate : rejected ts x = none :=
    not_rejected h.1 hharmless hpurged fun y hy =>
      hagree.agree x hx y (mem_append_left _ hy)
  have hroom := hpurged.length_lt hagree.front.sources
  rcases step_admitted hgate with hsync | ⟨hunsync, hpool, hshort⟩
  · exact .inl hsync
  right
  refine ⟨hunsync.trans h.1, .inr ⟨fun recent hsuffix htogether => ?_, hshort⟩⟩
  rw [hpool]
  rcases suffix_concat_iff.1 hsuffix with rfl | ⟨earlier, rfl, hearlier⟩
  · have hone := hpurged.admitted x hroom
    exact ⟨hone.entries, fun y hy => absurd hy not_mem_nil, hone.nodup⟩
  · exact (h.purged hagree hearlier htogether).admitted x hroom

lemma run_collecting (h : Agreeing ts xs a b c) (hrun : Meets step StaleHarmless ts xs) :
    (xs.foldl step ts).synchronized ∨ Collecting ts xs (xs.foldl step ts) := by
  induction xs using List.reverseRecOn with
  | nil => exact .inr ⟨h.unsynchronized, .inl ⟨rfl, rfl⟩⟩
  | append_singleton xs x ih =>
    obtain ⟨hfront, hlast, -⟩ := (meets_append ts xs [x]).1 hrun
    rw [foldl_append]
    rcases ih h.front hfront with hsync | hcollecting
    · exact .inl (step_synchronized hsync)
    · exact hcollecting.next h hlast

lemma three_agree_commit (h : ThreeAgree ts xs recent a b c)
    (hrun : Meets step StaleHarmless ts xs) :
    (xs.foldl step ts).synchronized := by
  obtain ⟨old, later, rfl⟩ := h.part
  obtain ⟨hrun, hlater⟩ := (meets_append _ _ _).1 hrun
  have hagree := h.toAgreeing.front
  have hkeep : ∀ (ts : State) (x : Sync), ts.synchronized → StaleHarmless ts x →
      (step ts x).synchronized := fun _ _ hsync _ => step_synchronized hsync
  rw [foldl_append]
  apply foldl_invariant hkeep hlater
  rcases run_collecting hagree hrun with
    hsync | ⟨-, ⟨hnil, -⟩ | ⟨hholds, hshort⟩⟩
  · exact hsync
  · have hempty : recent = [] := (append_eq_nil_iff.1 hnil).2
    exact absurd (h.all_send mem_cons_self) (hempty ▸ not_mem_nil)
  · have hquorum := (hholds recent (suffix_append _ _) h.together).quorum
      hagree.established h.distinct h.all_send
    exact absurd hquorum (not_le.2 hshort)

/-- **Stale proposals where they cannot matter.** The result of a sync is that without them exactly
if none is stale, or the sync is within the limits with them and without. In every run whose syncs
meet this, three established sources that agree bring an unsynchronized node to a commit. -/
theorem stale_proposals_harmless (ts : State) :
    (∀ x, StaleHarmless ts x ↔
        timesync_handle_sync (without_stale ts x.local_now_ms) x = timesync_handle_sync ts x) ∧
      ∀ (xs recent : List Sync) (a b c : UInt32), ThreeAgree ts xs recent a b c →
        Meets step StaleHarmless ts xs → (xs.foldl step ts).synchronized = true :=
  ⟨fun _ => staleHarmless_iff, fun _ _ _ _ _ h => three_agree_commit h⟩

def near_miss : State := ⟨0, MAX_STRATUM, 0, false, [⟨1500, 9, 1000, 1, true⟩]⟩

def right_three : List Sync := [honest 1 361000, honest 2 372000, honest 3 373000]

theorem stale_proposals_harmless_near_miss :
    timesync_handle_sync (without_stale near_miss 191000) (honest 1 191000) =
        timesync_handle_sync near_miss (honest 1 191000) ∧
      ((honest 1 191000 :: right_three).foldl step near_miss).synchronized = true := by
  have hagree : ThreeAgree near_miss (honest 1 191000 :: right_three) right_three 1 2 3 :=
    { unsynchronized := rfl
      gone_stale := by decide
      established := by decide
      agree := by decide
      sources := by decide
      distinct := by decide
      part := (suffix_cons _ _).isInfix
      together := by decide
      all_send := by decide }
  obtain ⟨hone, hrun⟩ := stale_proposals_harmless near_miss
  exact ⟨(hone (honest 1 191000)).1 (by decide), hrun _ right_three 1 2 3 hagree
    (by decide)⟩

/-! ## Sources that are not established -/

def Enclosed (pool : List Pending) : Prop :=
  ∀ p ∈ pool, p.established = false → ∃ q ∈ pool, ∃ r ∈ pool, q.established = true ∧
    r.established ∧ q.offset_ms ≤ p.offset_ms ∧ p.offset_ms ≤ r.offset_ms
deriving Decidable

def Unhindered (ys : List Sync) (ts : State) (x : Sync) : Prop :=
  (x ∈ ys → ts.pending = [] ∨
      |x.proposed_offset - compute_weighted_offset ts.pending| ≤ MAX_TIME_SHIFT_MS) ∧
    (purge_stale x.local_now_ms ts.pending).length < PENDING_POOL_SIZE
deriving Decidable

def Stands (done : List Sync) (source : UInt32) (pool : List Pending) : Prop :=
  ∃ y ∈ done, y.source_addr = source ∧ y.source_established ∧ y.entry ∈ pool

lemma first_commit (hunsync : ts.synchronized = false)
    (hcommit : (timesync_handle_sync ts x).1 = .COMMITTED) :
    ∃ pool, pool ≠ [] ∧ step ts x = committed x pool := by
  rw [step]
  rw [timesync_handle_sync] at hcommit ⊢
  rcases hgate : rejected ts x with _ | r
  · rw [hgate] at hcommit
    rw [accept] at hcommit ⊢
    split_ifs at hcommit ⊢ with hshort
    refine ⟨_, fun hnil => ?_, rfl⟩
    -- an empty pool has no quorum
    rw [hnil, hunsync] at hshort
    exact hshort ⟨rfl, by decide⟩
  · rw [hgate] at hcommit
    rw [show r = .COMMITTED from hcommit, rejected] at hgate
    split_ifs at hgate <;> cases hgate

lemma first_commit_bounds (hunsync : ts.synchronized = false)
    (hcommit : (timesync_handle_sync ts x).1 = .COMMITTED) (hin : Enclosed (step ts x).pending)
    {lo hi : ℤ} (hest : ∀ p ∈ (step ts x).pending, p.established →
      lo ≤ p.offset_ms ∧ p.offset_ms ≤ hi) :
    lo ≤ (step ts x).offset_ms ∧ (step ts x).offset_ms ≤ hi := by
  obtain ⟨pool, hne, heq⟩ := first_commit hunsync hcommit
  rw [heq] at hin hest ⊢
  apply weighted_offset_bounds lo hi hne
  intro p hp
  by_cases hp' : p.established
  · exact hest p hp hp'
  · obtain ⟨q, hq, r, hr, hqe, hre, hqp, hpr⟩ := hin p hp (Bool.eq_false_iff.2 hp')
    exact ⟨(hest q hq hqe).1.trans hqp, hpr.trans (hest r hr hre).2⟩

lemma Stands.admitted {s : UInt32} (h : Stands done s ts.pending)
    (htogether : Together (done ++ [x]))
    (hroom : (purge_stale x.local_now_ms ts.pending).length < PENDING_POOL_SIZE)
    (hest : x.source_addr = s → x.source_established) :
    Stands (done ++ [x]) s (pool_after ts x) := by
  obtain ⟨y, hy, hsource, hyest, hmem⟩ := h
  by_cases hx : x.source_addr = s
  · exact ⟨x, by simp, hx, hest hx, mem_admitted_of hroom (.inl rfl)⟩
  · have hfresh := (pairwise_append.1 htogether).2.2 y hy x (mem_singleton_self x)
    refine ⟨y, mem_append_left _ hy, hsource, hyest, mem_admitted_of hroom (.inr ⟨?_, ?_⟩)⟩
    · exact mem_filter.2 ⟨hmem, decide_eq_true hfresh⟩
    · intro heq
      exact hx (heq.symm.trans hsource)

lemma run_stands {ys : List Sync} (hunsync : ts.synchronized = false) (htogether : Together xs)
    (hest : ∀ x ∈ xs, ∀ y ∈ ys, x.source_addr = y.source_addr → x.source_established)
    (hrun : Meets step (Unhindered ys) ts xs) :
    (xs.foldl step ts).synchronized = true ∨ (xs.foldl step ts).synchronized = false ∧
      ∀ y ∈ ys, y ∈ xs → Stands xs y.source_addr (xs.foldl step ts).pending := by
  induction xs using List.reverseRecOn with
  | nil => exact .inr ⟨hunsync, fun y _ hy => absurd hy not_mem_nil⟩
  | append_singleton xs x ih =>
    obtain ⟨hfront, ⟨hgate, hroom⟩, -⟩ := (meets_append ts xs [x]).1 hrun
    rw [foldl_append, foldl_cons, foldl_nil]
    rcases ih (pairwise_append.1 htogether).1
      (fun z hz => hest z (mem_append_left _ hz)) hfront with hsync | ⟨hun, hstands⟩
    · exact .inl (step_synchronized hsync)
    have hx : x ∈ xs ++ [x] := mem_append_right _ (mem_singleton_self x)
    rcases hrej : rejected (xs.foldl step ts) x with _ | r
    · rcases step_admitted hrej with hsync | ⟨hsame, hpool, -⟩
      · exact .inl hsync
      refine .inr ⟨hsame.trans hun, fun y hys hy => ?_⟩
      rw [hpool]
      rcases mem_append.1 hy with hy | hy
      · exact (hstands y hys hy).admitted htogether hroom (hest x hx y hys)
      · obtain rfl := mem_singleton.1 hy
        exact ⟨y, hx, rfl, hest y hx y hys rfl, mem_admitted_of hroom (.inl rfl)⟩
    · -- a rejected sync is none of `ys` and changes nothing
      have hkeep : step (xs.foldl step ts) x = xs.foldl step ts := by
        rw [step, timesync_handle_sync, hrej]
      rw [hkeep]
      refine .inr ⟨hun, fun y hys hy => ?_⟩
      rcases mem_append.1 hy with hy | hy
      · obtain ⟨z, hz, hrest⟩ := hstands y hys hy
        exact ⟨z, mem_append_left _ hz, hrest⟩
      · obtain rfl := mem_singleton.1 hy
        rw [rejected_eq_none hun (hgate hys)] at hrej
        cases hrej

structure ThreePropose (ts : State) (xs : List Sync) (y₁ y₂ y₃ : Sync) : Prop where
  unsynchronized : ts.synchronized = false
  first : y₁ ∈ xs
  second : y₂ ∈ xs
  distinct : [y₁.source_addr, y₂.source_addr, y₃.source_addr].Nodup
  together : Together (xs ++ [y₃])
  established : ∀ x ∈ xs ++ [y₃], ∀ y ∈ [y₁, y₂, y₃], x.source_addr = y.source_addr →
    x.source_established

lemma third_commits {y₁ y₂ y₃ : Sync} (h : ThreePropose ts xs y₁ y₂ y₃)
    (hrun : Meets step (Unhindered [y₁, y₂, y₃]) ts (xs ++ [y₃])) :
    (xs.foldl step ts).synchronized ∨
      (timesync_handle_sync (xs.foldl step ts) y₃).1 = .COMMITTED := by
  obtain ⟨hfront, ⟨hgate, hroom⟩, -⟩ := (meets_append ts xs [y₃]).1 hrun
  rcases run_stands h.unsynchronized (pairwise_append.1 h.together).1
    (fun x hx => h.established x (mem_append_left _ hx)) hfront with hsync | ⟨hun, hstands⟩
  · exact .inl hsync
  right
  have h₃ : y₃ ∈ xs ++ [y₃] := mem_append_right _ (mem_singleton_self y₃)
  have hall : ∀ y ∈ [y₁, y₂, y₃],
      Stands (xs ++ [y₃]) y.source_addr (pool_after (xs.foldl step ts) y₃) := by
    intro y hys
    by_cases hy : y ∈ xs
    · exact (hstands y hys hy).admitted h.together hroom (h.established y₃ h₃ y hys)
    · have hlast : y = y₃ := by
        simp only [mem_cons, not_mem_nil, or_false] at hys
        rcases hys with rfl | rfl | rfl
        · exact absurd h.first hy
        · exact absurd h.second hy
        · rfl
      subst hlast
      exact ⟨y, h₃, rfl, h.established y h₃ y hys rfl, mem_admitted_of hroom (.inl rfl)⟩
  have hquorum : CORROBORATION_REQUIRED ≤
      count_distinct_established_sources (pool_after (xs.foldl step ts) y₃) := by
    refine (h.distinct.subperm ?_).length_le
    intro s hs
    obtain ⟨y, hys, rfl⟩ := mem_map.1
      (show s ∈ [y₁, y₂, y₃].map Sync.source_addr from hs)
    obtain ⟨z, -, hsource, hzest, hmem⟩ := hall y hys
    rw [mem_dedup, ← hsource]
    exact mem_map_of_mem (f := Pending.source_addr) (mem_filter.2 ⟨hmem, hzest⟩)
  rw [timesync_handle_sync, rejected_eq_none hun (hgate (by simp))]
  rw [accept, if_neg (fun hshort => absurd hquorum (not_le.2 hshort.2))]

/-- **The first commit where the others cannot decide or block it.** If the proposals of the
others lie between those of established ones, so does the offset of the first commit; if the mean
of the pool is never far from the three and the pool never full, the third established source
commits. -/
theorem unestablished_cannot_decide_or_block (ts : State) (hunsync : ts.synchronized = false) :
    (∀ x, (timesync_handle_sync ts x).1 = .COMMITTED → Enclosed (step ts x).pending →
        ∀ lo hi, (∀ p ∈ (step ts x).pending, p.established = true →
          lo ≤ p.offset_ms ∧ p.offset_ms ≤ hi) →
        lo ≤ (step ts x).offset_ms ∧ (step ts x).offset_ms ≤ hi) ∧
      ∀ xs y₁ y₂ y₃, ThreePropose ts xs y₁ y₂ y₃ →
        Meets step (Unhindered [y₁, y₂, y₃]) ts (xs ++ [y₃]) →
        (xs.foldl step ts).synchronized = true ∨
          (timesync_handle_sync (xs.foldl step ts) y₃).1 = .COMMITTED :=
  ⟨fun _ hcommit hin _ _ => first_commit_bounds hunsync hcommit hin,
    fun _ _ _ _ => third_commits⟩

def stranger (offset : ℤ) : Sync := ⟨1000 + offset, 1, 9, false, 1000⟩

def est (source_addr : UInt32) : Sync :=
  ⟨3400 + 100 * source_addr.toNat, 1, source_addr, true, 2000⟩

theorem unestablished_cannot_decide_or_block_between :
    (timesync_handle_sync ([stranger 1550, est 1, est 2].foldl step timesync_init) (est 3)).1
        = .COMMITTED ∧
      1500 ≤ ([stranger 1550, est 1, est 2, est 3].foldl step timesync_init).offset_ms := by
  have hthree : ThreePropose timesync_init [stranger 1550, est 1, est 2] (est 1) (est 2) (est 3) :=
    { unsynchronized := rfl
      first := by decide
      second := by decide
      distinct := by decide
      together := by decide
      established := by decide }
  obtain ⟨-, hthird⟩ := unestablished_cannot_decide_or_block timesync_init rfl
  have hcommit := (hthird _ _ _ _ hthree (by decide)).resolve_left (by decide)
  obtain ⟨hbounds, -⟩ := unestablished_cannot_decide_or_block
    ([stranger 1550, est 1, est 2].foldl step timesync_init) (by decide)
  exact ⟨hcommit, (hbounds _ hcommit (by decide) 1500 1700 (by decide)).1⟩

/-- A proposal of 0 ms from a stranger takes the first commit of 1500, 1600 and 1700 to 1200; one
that is far off keeps all three out. -/
theorem stranger_decides_and_blocks :
    ([stranger 0, est 1, est 2, est 3].foldl step timesync_init).offset_ms = 1200 ∧
      ([stranger 0, est 1, est 2, est 3].foldl step timesync_init).synchronized = true ∧
      [stranger 5000000, est 1, est 2, est 3].foldl step timesync_init =
        step timesync_init (stranger 5000000) ∧
      (step timesync_init (stranger 5000000)).synchronized = false := by
  decide

end BrambleMesh.TimeSync
