/-
Network time on the beacon: the time fields of `send_beacon` and `handle_beacon` in
main/mesh_beacon.c. The beacon carries the low 32 bits, and the receiver takes them for the whole.
-/
import BrambleMesh.TimeSync

namespace BrambleMesh.BeaconTime

open Run TimeSync List

/-! ## The time fields of a beacon -/

def now_ms (boot time : ℕ) : UInt32 := UInt32.ofNat (boot + time)

structure TimeFields where
  network_time : UInt32
  time_confidence : UInt16
deriving DecidableEq, Repr

def send_beacon (ts : State) (now : UInt32) : TimeFields :=
  if ts.synchronized then
    ⟨UInt32.ofInt (timesync_get_network_time ts now), ts.stratum.toUInt16⟩
  else ⟨0, 0xFFFF⟩

def handle_beacon (ts : State) (b : TimeFields) (src_addr : UInt32) (quorum_ok : Bool)
    (t : UInt32) : Option (Result × State) :=
  if b.network_time ≠ 0 ∧ b.time_confidence ≠ 0xFFFF then
    some (timesync_handle_sync ts
      ⟨b.network_time.toNat, b.time_confidence.toUInt8, src_addr, quorum_ok, t⟩)
  else none

/-! ## A sender and a receiver -/

structure Link where
  sender : State
  src_addr : UInt32
  sender_boot : ℕ
  receiver_boot : ℕ

structure Heard where
  time : ℕ
  quorum_ok : Bool
deriving DecidableEq, Repr

variable (l : Link)

def Link.sender_time (time : ℕ) : ℤ :=
  timesync_get_network_time l.sender (now_ms l.sender_boot time)

def Link.receiver_time (r : State) (time : ℕ) : ℤ :=
  timesync_get_network_time r (now_ms l.receiver_boot time)

def hear (r : State) (e : Heard) : Option (Result × State) :=
  handle_beacon r (send_beacon l.sender (now_ms l.sender_boot e.time)) l.src_addr e.quorum_ok
    (now_ms l.receiver_boot e.time)

def next (r : State) (e : Heard) : State := (hear l r e).elim r Prod.snd

def Link.sync (e : Heard) : Sync :=
  ⟨l.sender_time e.time, l.sender.stratum, l.src_addr, e.quorum_ok,
    now_ms l.receiver_boot e.time⟩

def CommitsAlone (r : State) (e : Heard) : Prop :=
  (hear l r e).map Prod.fst = some .COMMITTED ∧
    (next l r e).pending.map Pending.source_addr = [l.src_addr]
deriving Decidable

def InStep (r : State) (e : Heard) : Prop :=
  (hear l r e).map Prod.fst = some .COMMITTED ∧
    l.receiver_time (next l r e) e.time = l.sender_time e.time
deriving Decidable

def corroborated (offset : ℤ) : List Sync :=
  [⟨offset, 3, 1, true, 0⟩, ⟨offset + 1, 3, 2, true, 1⟩, ⟨offset + 2, 3, 3, true, 2⟩]

def root (offset : ℤ) : Link := ⟨⟨offset, 1, 0, true, []⟩, 9, 0, 0⟩

/-- At network time 2^32 + 200000 ms the receiver commits 2^32 ms behind the sender; half a second
before 2^32 ms it follows, and then rejects every later beacon. -/
theorem time_cut_to_32_bits :
    (CommitsAlone (root 4294967296) ((corroborated 0).foldl step timesync_init)
        ⟨200000, true⟩ ∧
      ¬ InStep (root 4294967296) ((corroborated 0).foldl step timesync_init) ⟨200000, true⟩) ∧
      let r := next (root 4294766796) ((corroborated 4294766796).foldl step timesync_init)
        ⟨200000, true⟩
      CommitsAlone (root 4294766796) ((corroborated 4294766796).foldl step timesync_init)
          ⟨200000, true⟩ ∧
        [1000, 60000, 86400000].map (fun d =>
            (hear (root 4294766796) r ⟨200000 + d, true⟩).map Prod.fst) =
          [some .REJECTED_SHIFT, some .REJECTED_SHIFT, some .REJECTED_SHIFT] := by
  decide

/-! ## Below 2^32 ms -/

structure Fits (start time : ℕ) : Prop where
  pos : 0 < l.sender_time time
  lt : l.sender_time time < 4294967296
  sender_clock : (l.sender_boot + time) / 4294967296 = (l.sender_boot + start) / 4294967296
  receiver_clock : (l.receiver_boot + time) / 4294967296 = (l.receiver_boot + start) / 4294967296

lemma toNat_network_time {z : ℤ} (hpos : 0 < z) (hlt : z < 4294967296) :
    ((UInt32.ofInt z).toNat : ℤ) = z ∧ UInt32.ofInt z ≠ 0 := by
  have hval : ((UInt32.ofInt z).toNat : ℤ) = z := by
    rw [UInt32.ofInt, UInt32.toNat_ofNat']
    omega
  refine ⟨hval, fun hzero => ?_⟩
  rw [hzero, UInt32.toNat_zero] at hval
  omega

lemma stratum_read (n : UInt8) : n.toUInt16.toUInt8 = n ∧ n.toUInt16 ≠ 0xFFFF := by
  refine ⟨UInt8.toUInt8_toUInt16 n, fun h => ?_⟩
  have hval : n.toNat = 65535 := congrArg UInt16.toNat h
  have hlt := n.toNat_lt
  omega

variable {l : Link} {e e₀ : Heard} {r : State}

lemma hear_eq {start : ℕ} (hsync : l.sender.synchronized) (h : Fits l start e.time)
    (r : State) :
    hear l r e = some (timesync_handle_sync r (l.sync e)) := by
  obtain ⟨htime, hzero⟩ := toNat_network_time h.pos h.lt
  obtain ⟨hstratum, hnone⟩ := stratum_read l.sender.stratum
  rw [Link.sender_time] at htime hzero
  rw [hear, send_beacon, if_pos hsync, handle_beacon, if_pos ⟨hzero, hnone⟩, htime, hstratum]
  rfl

lemma proposed_offset_eq {start : ℕ} (h₀ : e₀.time = start) (h : Fits l start e.time) :
    (l.sync e).proposed_offset = (l.sync e₀).proposed_offset := by
  have hs := h.sender_clock
  have hr := h.receiver_clock
  simp only [Sync.proposed_offset, Link.sync, Link.sender_time, timesync_get_network_time,
    now_ms, UInt32.toNat_ofNat', h₀]
  omega

/-! ## The receiver's stratum -/

lemma best_stratum_le (pool : List Pending) : best_stratum pool ≤ MAX_STRATUM := by
  have hfold : ∀ best ≤ MAX_STRATUM,
      pool.foldl (fun best p => if p.stratum < best then p.stratum else best) best ≤
        MAX_STRATUM := by
    induction pool with
    | nil => exact fun _ h => h
    | cons p pool ih =>
      intro best hbest
      apply ih
      dsimp only
      split
      case isTrue hlt => exact UInt8.le_trans (UInt8.le_of_lt hlt) hbest
      case isFalse => exact hbest
  exact hfold _ (UInt8.le_refl _)

lemma stratum_le (xs : List Sync) :
    (xs.foldl step timesync_init).stratum.toNat ≤ 8 := by
  refine foldl_invariant (I := fun ts : State => ts.stratum.toNat ≤ 8) (C := fun _ _ => True)
    (fun ts x h _ => ?_) (meets_of_forall (fun _ _ _ => trivial) _) (by decide)
  rw [step, timesync_handle_sync]
  split
  · exact h
  · rw [accept]
    split
    · exact h
    · have hbest := UInt8.le_iff_toNat_le.1 (best_stratum_le (pool_after ts x))
      change (best_stratum _ + 1).toNat ≤ 8
      rw [UInt8.toNat_add]
      change _ ≤ 7 at hbest
      have hone : (1 : UInt8).toNat = 1 := rfl
      omega

/-! ## Following one sender -/

lemma length_le_admitted (pool : List Pending) (p : Pending) :
    pool.length ≤ (admitted pool p).length := by
  rw [admitted]
  split
  · rw [length_set]
  · split
    · rw [length_set]
    · rw [length_append]
      exact Nat.le_add_right _ _

lemma admitted_alone {pool : List Pending} {p : Pending} {n : UInt32}
    (h : (admitted pool p).map Pending.source_addr = [n]) : admitted pool p = [p] := by
  obtain ⟨q, hq, -⟩ := map_eq_singleton_iff.1 h
  have hlen := length_le_admitted pool p
  rw [hq, length_singleton] at hlen
  have hmem : p ∈ admitted pool p :=
    mem_admitted_of (lt_of_le_of_lt hlen (show 1 < 8 by decide)) (.inl rfl)
  rw [hq] at hmem ⊢
  rw [mem_singleton.1 hmem]

lemma admitted_same_source {pool : List Pending} {p : Pending}
    (h : pool = [] ∨ ∃ q, pool = [q] ∧ q.source_addr = p.source_addr) :
    admitted pool p = [p] := by
  rcases h with rfl | ⟨q, rfl, hsource⟩
  · rfl
  · have hfind : [q].findIdx? (fun q => q.source_addr == p.source_addr) = some 0 := by
      simp [findIdx?_cons, hsource]
    rw [admitted, hfind]
    rfl

structure Follows (l : Link) (e₀ : Heard) (r : State) : Prop where
  synchronized : r.synchronized
  offset : r.offset_ms = (l.sync e₀).proposed_offset
  stratum : l.sender.stratum < r.stratum
  alone : ∃ p, r.pending = [p] ∧ p.source_addr = l.src_addr

lemma same_time (h : r.offset_ms = (l.sync e).proposed_offset) :
    l.receiver_time r e.time = l.sender_time e.time := by
  rw [Link.receiver_time, timesync_get_network_time, h, Sync.proposed_offset, Link.sync]
  exact add_sub_cancel _ _

lemma follows_committed (hstratum : l.sender.stratum.toNat ≤ 7)
    (hoffset : (l.sync e).proposed_offset = (l.sync e₀).proposed_offset) :
    Follows l e₀ (committed (l.sync e) [(l.sync e).entry]) where
  synchronized := rfl
  offset := by
    have hone : ∀ p ∈ [(l.sync e).entry], (l.sync e).proposed_offset ≤ p.offset_ms ∧
        p.offset_ms ≤ (l.sync e).proposed_offset := by
      intro p hp
      rw [mem_singleton.1 hp]
      exact ⟨le_refl _, le_refl _⟩
    have hbounds := weighted_offset_bounds _ _ (cons_ne_nil _ _) hone
    exact (le_antisymm hbounds.2 hbounds.1).trans hoffset
  stratum := by
    have hbest : (best_stratum [(l.sync e).entry]).toNat = l.sender.stratum.toNat := by
      change (if l.sender.stratum < MAX_STRATUM then l.sender.stratum else MAX_STRATUM).toNat = _
      split
      case isTrue => rfl
      case isFalse hge =>
        have hle : 7 ≤ l.sender.stratum.toNat := UInt8.le_iff_toNat_le.1 (UInt8.not_lt.1 hge)
        exact le_antisymm hle hstratum
    have hnext : (best_stratum [(l.sync e).entry] + 1).toNat = l.sender.stratum.toNat + 1 := by
      rw [UInt8.toNat_add, hbest, show (1 : UInt8).toNat = 1 from rfl]
      omega
    exact UInt8.lt_iff_toNat_lt.2 (hnext ▸ Nat.lt_succ_self _)
  alone := ⟨_, rfl, rfl⟩

lemma Follows.hear (h : Follows l e₀ r) (hsync : l.sender.synchronized)
    (hfits : Fits l e₀.time e.time) :
    BeaconTime.hear l r e =
      some (.COMMITTED, committed (l.sync e) [(l.sync e).entry]) := by
  have hoffset := proposed_offset_eq rfl hfits
  have hgate : rejected r (l.sync e) = none := by
    have hbetter : ¬ (r.synchronized && (l.sync e).remote_stratum ≥ r.stratum) := by
      rw [h.synchronized, Bool.true_and, decide_eq_true_eq]
      exact UInt8.not_le.2 h.stratum
    rw [rejected, if_neg hbetter, if_pos h.synchronized, h.offset, hoffset, sub_self, abs_zero,
      if_neg (by decide)]
  have hpool : pool_after r (l.sync e) = [(l.sync e).entry] := by
    obtain ⟨p, hp, hsource⟩ := h.alone
    apply admitted_same_source
    rw [hp, purge_stale]
    by_cases hfresh : fresh (l.sync e).local_now_ms p
    · exact .inr ⟨p, by rw [filter_cons_of_pos hfresh, filter_nil], hsource⟩
    · exact .inl (by rw [filter_cons_of_neg hfresh, filter_nil])
  rw [hear_eq hsync hfits, timesync_handle_sync, hgate]
  rw [accept, hpool, h.synchronized, if_neg]
  exact fun hfirst => absurd hfirst.1 (by decide)

lemma Follows.in_step (h : Follows l e₀ r) (hsync : l.sender.synchronized)
    (hstratum : l.sender.stratum.toNat ≤ 7) (hfits : Fits l e₀.time e.time) :
    InStep l r e ∧ Follows l e₀ (next l r e) := by
  have hoffset := proposed_offset_eq rfl hfits
  have hcommitted := follows_committed (e := e) hstratum hoffset
  rw [InStep, next, h.hear hsync hfits]
  refine ⟨⟨rfl, ?_⟩, hcommitted⟩
  exact same_time (hcommitted.offset.trans hoffset.symm)

lemma count_one_lt (p : Pending) :
    count_distinct_established_sources [p] < CORROBORATION_REQUIRED := by
  have hfilter := length_filter_le Pending.established [p]
  have hdedup := (dedup_sublist (([p].filter Pending.established).map
    Pending.source_addr)).length_le
  rw [length_map] at hdedup
  exact lt_of_le_of_lt (hdedup.trans hfilter) (show 1 < 3 by decide)

lemma better_of_not_rejected {ts : State} {x : Sync} (h : rejected ts x = none)
    (hsync : ts.synchronized) : x.remote_stratum < ts.stratum := by
  by_contra hnot
  have hge : (ts.synchronized && x.remote_stratum ≥ ts.stratum) := by
    rw [hsync, Bool.true_and, decide_eq_true_eq]
    exact UInt8.not_lt.1 hnot
  rw [rejected, if_pos hge] at h
  cases h

lemma committed_of_result {ts : State} {x : Sync}
    (h : (timesync_handle_sync ts x).1 = .COMMITTED) :
    (timesync_handle_sync ts x).2 = committed x (pool_after ts x) ∧
      (ts.synchronized ∧ x.remote_stratum < ts.stratum ∨
        CORROBORATION_REQUIRED ≤ count_distinct_established_sources (pool_after ts x)) := by
  rw [timesync_handle_sync] at h ⊢
  rcases hgate : rejected ts x with _ | r
  · rw [hgate] at h
    rw [accept] at h ⊢
    split_ifs at h ⊢ with hshort
    refine ⟨rfl, ?_⟩
    rcases hsync : ts.synchronized with _ | _
    · rw [hsync] at hshort
      exact .inr (not_lt.1 fun hlt => hshort ⟨rfl, hlt⟩)
    · exact .inl ⟨rfl, better_of_not_rejected hgate hsync⟩
  · rw [hgate] at h
    exact absurd (hgate.trans (congrArg some h)) (rejected_ne_committed ts x)

lemma follows_of_commits_alone (xs : List Sync) (hsync : l.sender.synchronized)
    (hfits : Fits l e.time e.time) (h : CommitsAlone l (xs.foldl step timesync_init) e) :
    l.sender.stratum.toNat ≤ 7 ∧
      Follows l e (next l (xs.foldl step timesync_init) e) := by
  obtain ⟨hresult, halone⟩ := h
  rw [next, hear_eq hsync hfits, Option.elim_some] at halone
  rw [hear_eq hsync hfits, Option.map_some, Option.some_inj] at hresult
  obtain ⟨hstate, hway⟩ := committed_of_result hresult
  rw [hstate] at halone
  have hpool : pool_after _ (l.sync e) = [(l.sync e).entry] := admitted_alone halone
  have hstratum : l.sender.stratum.toNat ≤ 7 := by
    rcases hway with ⟨-, hbetter⟩ | hquorum
    · have hlt := UInt8.lt_iff_toNat_lt.1 hbetter
      exact Nat.le_of_lt_succ (lt_of_lt_of_le hlt (stratum_le xs))
    · -- one source is not a quorum
      rw [hpool] at hquorum
      exact absurd hquorum (not_le.2 (count_one_lt _))
  refine ⟨hstratum, ?_⟩
  rw [next, hear_eq hsync hfits, Option.elim_some, hstate, hpool]
  exact follows_committed hstratum rfl

/-- **Network time along a path, below 2^32 ms.** A receiver with any history that commits with
this sender's proposal alone commits at every beacon and then has the sender's network time, while
that time fits the field and neither local clock wraps. -/
theorem beacons_keep_time (l : Link) (xs : List Sync) (e : Heard) (es : List Heard)
    (hsync : l.sender.synchronized = true)
    (hfirst : CommitsAlone l (xs.foldl step timesync_init) e)
    (hfits : ∀ e' ∈ e :: es, Fits l e.time e'.time) :
    Meets (next l) (InStep l) (xs.foldl step timesync_init) (e :: es) := by
  have hone := hfits e mem_cons_self
  obtain ⟨hstratum, hfollows⟩ := follows_of_commits_alone xs hsync hone hfirst
  refine ⟨⟨hfirst.1, same_time hfollows.offset⟩, ?_⟩
  exact meets_imp (C := fun _ e' => Fits l e.time e'.time)
    (fun _ _ h hf => (h.in_step hsync hstratum hf).1)
    (fun _ _ h hf => (h.in_step hsync hstratum hf).2) hfollows
    (meets_of_forall (fun _ e' he' => hfits e' (mem_cons_of_mem e he')) _)

theorem beacons_keep_time_day :
    Meets (next (root 5000)) (InStep (root 5000)) ((corroborated 5000).foldl step timesync_init)
      [⟨200000, true⟩, ⟨260000, true⟩, ⟨86400000, false⟩] := by
  apply beacons_keep_time (root 5000) (corroborated 5000) ⟨200000, true⟩
    [⟨260000, true⟩, ⟨86400000, false⟩] rfl (by decide)
  intro e he
  simp only [mem_cons, not_mem_nil, or_false] at he
  rcases he with rfl | rfl | rfl <;> constructor <;> decide

end BrambleMesh.BeaconTime
