/-
Discoveries that are not answered: main/mesh_task.c, components/routing/discovery.c,
components/security. The branch that gives a discovery up is never taken (`check_from_spec`).
-/
import BrambleMesh.Discovery
import BrambleMesh.SendQueue

namespace BrambleMesh.DiscoveryRetry

open Discovery DmSend Packed Routing List
open Run SendQueue

/-! ## Pending discoveries -/

abbrev RREQ_RETRY_INTERVAL_1_MS : UInt32 := 5000

abbrev RREQ_RETRY_INTERVAL_2_MS : UInt32 := 15000

def discovery_lookup (table : List PendingDiscovery) (dest_addr : UInt32) :
    Option PendingDiscovery :=
  table.find? fun e => e.dest_addr == dest_addr

variable {table : List PendingDiscovery} {dest_addr : UInt32} {retry_query : ℕ → UInt32}

def discovery_should_retry (d : PendingDiscovery) (now_ms : UInt32) : Bool :=
  if d.attempts.toNat ≥ MAX_RREQ_ATTEMPTS then false
  else
    let interval :=
      if d.attempts ≤ 1 then RREQ_RETRY_INTERVAL_1_MS else RREQ_RETRY_INTERVAL_2_MS
    decide (now_ms - d.timestamp ≥ interval)

/-! ## The request limiter -/

abbrev RREQ_RATE_LIMIT_MS : UInt32 := 30000

abbrev RREQ_RATE_ENTRIES : ℕ := 64

structure RateEntry where
  neighbor_addr : UInt32
  dest_addr : UInt32
  last_rreq_ms : UInt32
deriving DecidableEq, Repr

def rreq_rate_allow (rl : List RateEntry) (neighbor dest now_ms : UInt32) :
    List RateEntry × Bool :=
  let pair : RateEntry → Bool := fun e => e.neighbor_addr == neighbor && e.dest_addr == dest
  let entry : RateEntry := ⟨neighbor, dest, now_ms⟩
  match rl.find? pair with
  | some e =>
    if now_ms - e.last_rreq_ms < RREQ_RATE_LIMIT_MS then (rl, false)
    else (rl.set (rl.findIdx pair) entry, true)
  | none =>
    if rl.length < RREQ_RATE_ENTRIES then (rl ++ [entry], true)
    else
      match rl.findIdx? fun e => decide (now_ms - e.last_rreq_ms ≥ RREQ_RATE_LIMIT_MS) with
      | some i => (rl.set i entry, true)
      | none => (rl, true)

/-! ## The originator -/

structure Origin where
  my_addr : UInt32
  pending : List PendingDiscovery
  rate : List RateEntry
  queue : MsgQueue
  failed : List UInt32
  last_purge : UInt32
  last_disc_check : UInt32
  awaited : List (UInt32 × UInt32)

variable (s : Origin)

def initiate_discovery (dest_addr query_id now : UInt32) : Origin :=
  match rreq_rate_allow s.rate s.my_addr dest_addr now with
  | (rate, false) => { s with rate := rate }
  | (rate, true) =>
    { s with
      rate := rate
      pending := discovery_start s.pending dest_addr query_id now
      awaited := (dest_addr, query_id) :: s.awaited }

def send_without_route (dest_addr : UInt32) (data : List UInt8)
    (uid row_uid query_id now : UInt32) : Origin :=
  let s :=
    if (discovery_lookup s.pending dest_addr).isSome then s
    else initiate_discovery s dest_addr query_id now
  match queue_message s.queue dest_addr data (if uid != 0 then uid else row_uid) now with
  | (queue, true) => { s with queue := queue }
  | (queue, false) => { s with queue := queue, failed := uid :: s.failed }

def handle_rrep (rrep : Rrep) (link_metric : UInt8) (rev : List ReverseRoute) :
    Origin :=
  match (rrep_rx_decide rrep link_metric s.pending rev).action with
  | .DELIVER dest =>
    { s with
      pending := discovery_remove s.pending dest
      queue := drop (waits_for dest) s.queue
      awaited := s.awaited.filter fun p => p.1 != dest }
  | _ => s

def purge_queue (t : UInt32) : Origin :=
  if t - s.last_purge ≥ 60000 then
    { s with
      queue := drop (expired t) s.queue
      failed := uids (expired t) s.queue ++ s.failed
      last_purge := t }
  else s

def check_from (t : UInt32) (retry_query : ℕ → UInt32) : ℕ → ℕ → Origin → Origin
  | 0, _, s => s
  | fuel + 1, i, s =>
    match s.pending[i]? with
    | none => s
    | some pd =>
      if discovery_should_retry pd t then
        if pd.attempts.toNat ≥ MAX_RREQ_ATTEMPTS then
          check_from t retry_query fuel i
            { s with
              pending := discovery_remove s.pending pd.dest_addr
              queue := drop (waits_for pd.dest_addr) s.queue
              failed := uids (waits_for pd.dest_addr) s.queue ++ s.failed
              awaited := s.awaited.filter fun p => p.1 != pd.dest_addr }
        else
          check_from t retry_query fuel (i + 1)
            { s with
              pending := s.pending.set i (discovery_record_attempt pd (retry_query i) t)
              awaited := (pd.dest_addr, retry_query i) :: s.awaited }
      else check_from t retry_query fuel (i + 1) s

def Due (t : UInt32) : Prop := t - s.last_disc_check ≥ 5000
deriving Decidable

def mesh_periodic_maintenance (t : UInt32) (retry_query : ℕ → UInt32) : Origin :=
  let s := purge_queue s t
  if Due s t then
    check_from t retry_query s.pending.length 0 { s with last_disc_check := t }
  else s

def boot (my_addr : UInt32) : Origin :=
  ⟨my_addr, [], [], fun _ => ⟨0, [], 0, false, .ROUTE, 0, 0⟩, [], 0, 0, []⟩

inductive Event
  | send (dest_addr : UInt32) (data : List UInt8) (uid row_uid query_id now : UInt32)
      (routed : Bool)
  | reply (rrep : Rrep) (link_metric : UInt8) (rev : List ReverseRoute)
  | tick (t : UInt32) (retry_query : ℕ → UInt32)

def step : Event → Origin
  | .send dest_addr data uid row_uid query_id now routed =>
    if routed then s else send_without_route s dest_addr data uid row_uid query_id now
  | .reply rrep link_metric rev => handle_rrep s rrep link_metric rev
  | .tick t retry_query => mesh_periodic_maintenance s t retry_query

/-! ## What the loop is for -/

def Overdue (e : PendingDiscovery) (t : UInt32) : Prop :=
  MAX_RREQ_ATTEMPTS ≤ e.attempts.toNat ∧ RREQ_RETRY_INTERVAL_2_MS ≤ t - e.timestamp
deriving Decidable

def InTime (t : UInt32) : Prop := ∀ e ∈ s.pending, ¬ Overdue e t
deriving Decidable

def Few (t : UInt32) : Prop :=
  (s.pending.filter fun e => !decide (Overdue e t)).length < MAX_PENDING_DISCOVERIES
deriving Decidable

def Retires (t : UInt32) (s' : Origin) : Prop :=
  ∀ e ∈ s.pending, Overdue e t →
    (∀ e' ∈ s'.pending, e'.dest_addr ≠ e.dest_addr) ∧
    ∀ j, waits_for e.dest_addr (s.queue j) →
      waits_for e.dest_addr (s'.queue j) = false ∧ (s.queue j).uid ∈ s'.failed
deriving Decidable

def Allowed (dest_addr now : UInt32) : Prop :=
  (rreq_rate_allow s.rate s.my_addr dest_addr now).2
deriving Decidable

def Discovers (s s' : Origin) (dest_addr query_id now : UInt32) : Prop :=
  ∃ e ∈ s'.pending, e.dest_addr = dest_addr ∧ ¬ Overdue e now ∧
    (e ∈ s.pending ∨ e = ⟨dest_addr, [query_id], now, 1⟩ ∧ (dest_addr, query_id) ∈ s'.awaited)

def Delivers (dest_addr query_id : UInt32) : Prop :=
  ∀ rrep link_metric rev, rrep.query_id = query_id →
    ∃ d, (rrep_rx_decide rrep link_metric s.pending rev).action = .DELIVER d ∧
      ((∀ e ∈ s.pending, query_id ∈ e.query_ids → e.dest_addr = dest_addr) → d = dest_addr)

def Answered : Event → Prop
  | .send dest_addr _ _ _ _ now routed =>
    InTime s now ∧
      (routed = false → (discovery_lookup s.pending dest_addr).isNone = true → Few s now)
  | .reply .. => True
  | .tick t _ => InTime s t

instance (ev : Event) : Decidable (Answered s ev) := by
  cases ev <;> unfold Answered <;> infer_instance

/-! ## The loop -/

variable {s : Origin} {t : UInt32} {e : PendingDiscovery}

lemma attempts_of_should_retry (h : discovery_should_retry e t) :
    e.attempts.toNat < MAX_RREQ_ATTEMPTS := by
  unfold discovery_should_retry at h
  by_contra hlast
  rw [if_pos (Nat.le_of_not_lt hlast)] at h
  cases h

def retried (t : UInt32) (retry_query : ℕ → UInt32) (k : ℕ) (e : PendingDiscovery) :
    PendingDiscovery :=
  if discovery_should_retry e t then discovery_record_attempt e (retry_query k) t else e

lemma retried_dest (t : UInt32) (retry_query : ℕ → UInt32) (k : ℕ) (e : PendingDiscovery) :
    (retried t retry_query k e).dest_addr = e.dest_addr := by
  unfold retried
  split_ifs <;> rfl

lemma mem_retried {t : UInt32} {k : ℕ} {q : UInt32} (h : q ∈ e.query_ids) :
    q ∈ (retried t retry_query k e).query_ids := by
  unfold retried discovery_record_attempt
  split_ifs
  · exact mem_append_left _ h
  · exact h
  · exact h

lemma retry_query_mem_retried {k : ℕ} (h : discovery_should_retry e t) :
    retry_query k ∈ (retried t retry_query k e).query_ids := by
  unfold retried discovery_record_attempt
  rw [if_pos h, if_pos (attempts_of_should_retry h)]
  exact mem_append_right _ mem_cons_self

structure Scanned (t : UInt32) (retry_query : ℕ → UInt32) (i : ℕ) (s s' : Origin) : Prop where
  queue : s'.queue = s.queue
  failed : s'.failed = s.failed
  before : ∀ k < i, s'.pending[k]? = s.pending[k]?
  after : ∀ k, i ≤ k → s'.pending[k]? = (s.pending[k]?).map (retried t retry_query k)
  awaited : ∀ p ∈ s'.awaited, p ∈ s.awaited ∨
    ∃ k e, s.pending[k]? = some e ∧ discovery_should_retry e t ∧
      p = (e.dest_addr, retry_query k)

lemma Scanned.done {i : ℕ} (hi : s.pending.length ≤ i) :
    Scanned t retry_query i s s where
  queue := rfl
  failed := rfl
  before := fun _ _ => rfl
  after := by
    intro k hk
    rw [getElem?_eq_none (Nat.le_trans hi hk)]
    rfl
  awaited := fun _ hp => .inl hp

lemma Scanned.turn {i : ℕ} {s₁ s' : Origin} (h : Scanned t retry_query (i + 1) s₁ s')
    (hi : s.pending[i]? = some e) (hqueue : s₁.queue = s.queue) (hfailed : s₁.failed = s.failed)
    (hpending : s₁.pending = s.pending.set i (retried t retry_query i e))
    (hawaited : ∀ p ∈ s₁.awaited, p ∈ s.awaited ∨ discovery_should_retry e t ∧ p =
      (e.dest_addr, retry_query i)) :
    Scanned t retry_query i s s' where
  queue := h.queue.trans hqueue
  failed := h.failed.trans hfailed
  before := by
    intro k hk
    rw [h.before k (Nat.lt_succ_of_lt hk), hpending, List.getElem?_set_ne (Nat.ne_of_gt hk)]
  after := by
    intro k hk
    rcases Nat.eq_or_lt_of_le hk with rfl | hlt
    · have hlt : i < s.pending.length := (List.getElem?_eq_some_iff.1 hi).1
      rw [h.before i (Nat.lt_succ_self i), hpending, List.getElem?_set_self hlt, hi]
      rfl
    · rw [h.after k hlt, hpending, List.getElem?_set_ne (Nat.ne_of_lt hlt)]
  awaited := by
    intro p hp
    rcases h.awaited p hp with hp | ⟨k, e', hk, hretry, rfl⟩
    · rcases hawaited p hp with hp | ⟨hretry, rfl⟩
      · exact .inl hp
      · exact .inr ⟨i, e, hi, hretry, rfl⟩
    · right
      rw [hpending] at hk
      by_cases hki : k = i
      · -- the entry has just been tried, so it is the same one that is asked again
        subst hki
        have hlt : k < s.pending.length := (List.getElem?_eq_some_iff.1 hi).1
        rw [List.getElem?_set_self hlt] at hk
        cases hk
        by_cases hretry' : discovery_should_retry e t
        · exact ⟨k, e, hi, hretry', by rw [retried_dest]⟩
        · rw [retried, if_neg hretry'] at hretry
          exact absurd hretry hretry'
      · rw [List.getElem?_set_ne (Ne.symm hki)] at hk
        exact ⟨k, e', hk, hretry, rfl⟩

/-- **The loop gives no discovery up**: an entry is tried again or left as it is. -/
theorem check_from_spec (t : UInt32) (retry_query : ℕ → UInt32) (fuel : ℕ) :
    ∀ (i : ℕ) (s : Origin), s.pending.length ≤ fuel + i →
      Scanned t retry_query i s (check_from t retry_query fuel i s) := by
  induction fuel with
  | zero => exact fun i s hfuel => Scanned.done (by omega)
  | succ fuel ih =>
    intro i s hfuel
    rw [check_from]
    rcases hi : s.pending[i]? with _ | e
    · exact Scanned.done (List.getElem?_eq_none_iff.1 hi)
    · dsimp only
      by_cases hretry : discovery_should_retry e t
      · rw [if_pos hretry, if_neg (Nat.not_le.2 (attempts_of_should_retry hretry))]
        have hrest := ih (i + 1)
          { s with
            pending := s.pending.set i (discovery_record_attempt e (retry_query i) t)
            awaited := (e.dest_addr, retry_query i) :: s.awaited }
          (by rw [List.length_set]; omega)
        refine hrest.turn hi rfl rfl ?_ ?_
        · rw [retried, if_pos hretry]
        · exact fun p hp => (List.mem_cons.1 hp).symm.imp_right fun hp => ⟨hretry, hp⟩
      · rw [if_neg hretry]
        refine (ih (i + 1) s (by omega)).turn hi rfl rfl ?_ fun _ hp => .inl hp
        obtain ⟨hlt, rfl⟩ := List.getElem?_eq_some_iff.1 hi
        rw [retried, if_neg hretry, List.set_getElem_self]

/-! ## Requests that are awaited -/

def Recorded (s : Origin) : Prop :=
  ∀ p ∈ s.awaited, ∃ e ∈ s.pending, e.dest_addr = p.1 ∧ p.2 ∈ e.query_ids

lemma mem_discovery_remove (he : e ∈ table) (hne : e.dest_addr ≠ dest_addr) :
    e ∈ discovery_remove table dest_addr := by
  unfold discovery_remove
  generalize hidx : table.findIdx? _ = idx
  match idx with
  | none => exact he
  | some i =>
    obtain ⟨hlt, hi, -⟩ := findIdx?_eq_some_iff_getElem.1 hidx
    refine mem_swap_remove_of_ne he (getElem?_eq_getElem hlt) ?_
    rintro rfl
    exact hne (beq_iff_eq.1 hi)

lemma maintenance_cases (s : Origin) (t : UInt32) (retry_query : ℕ → UInt32) :
    ((mesh_periodic_maintenance s t retry_query).pending = s.pending ∧
        (mesh_periodic_maintenance s t retry_query).awaited = s.awaited) ∨
      ∃ s₁ : Origin, s₁.pending = s.pending ∧ s₁.awaited = s.awaited ∧
        Scanned t retry_query 0 s₁ (mesh_periodic_maintenance s t retry_query) := by
  have hpurge : (purge_queue s t).pending = s.pending ∧
      (purge_queue s t).awaited = s.awaited := by
    unfold purge_queue
    split_ifs <;> exact ⟨rfl, rfl⟩
  unfold mesh_periodic_maintenance
  dsimp only
  split_ifs
  · exact .inr ⟨{ purge_queue s t with last_disc_check := t }, hpurge.1, hpurge.2,
      check_from_spec t retry_query _ 0 _ (Nat.le_refl _)⟩
  · exact .inl hpurge

lemma mem_maintenance (t : UInt32) (retry_query : ℕ → UInt32) (he : e ∈ s.pending) :
    ∃ k, e ∈ (mesh_periodic_maintenance s t retry_query).pending ∨
      retried t retry_query k e ∈ (mesh_periodic_maintenance s t retry_query).pending := by
  obtain ⟨k, hk⟩ := mem_iff_getElem?.1 he
  refine ⟨k, ?_⟩
  rcases maintenance_cases s t retry_query with ⟨hpending, -⟩ | ⟨s₁, hpending, -, hscan⟩
  · left
    rw [hpending]
    exact he
  · right
    have hafter := hscan.after k (Nat.zero_le k)
    rw [hpending, hk] at hafter
    exact mem_of_getElem? hafter

lemma Recorded.maintenance (h : Recorded s) (t : UInt32) (retry_query : ℕ → UInt32) :
    Recorded (mesh_periodic_maintenance s t retry_query) := by
  intro p hp
  have hheld : ∀ e ∈ s.pending, p.2 ∈ e.query_ids → e.dest_addr = p.1 →
      ∃ e' ∈ (mesh_periodic_maintenance s t retry_query).pending,
        e'.dest_addr = p.1 ∧ p.2 ∈ e'.query_ids := by
    intro e he hq hdest
    obtain ⟨k, he' | he'⟩ := mem_maintenance t retry_query he
    · exact ⟨e, he', hdest, hq⟩
    · exact ⟨_, he', (retried_dest t retry_query k e).trans hdest, mem_retried hq⟩
  rcases maintenance_cases s t retry_query with ⟨-, hawaited⟩ | ⟨s₁, hpending, hawaited, hscan⟩
  · rw [hawaited] at hp
    obtain ⟨e, he, hdest, hq⟩ := h p hp
    exact hheld e he hq hdest
  · rcases hscan.awaited p hp with hp | ⟨k, e, hk, hretry, rfl⟩
    · rw [hawaited] at hp
      obtain ⟨e, he, hdest, hq⟩ := h p hp
      exact hheld e he hq hdest
    · have hafter := hscan.after k (Nat.zero_le k)
      rw [hk] at hafter
      exact ⟨_, mem_of_getElem? hafter, retried_dest t retry_query k e,
        retry_query_mem_retried hretry⟩

lemma Recorded.initiate (h : Recorded s) (hroom : s.pending.length < MAX_PENDING_DISCOVERIES)
    (dest_addr query_id now : UInt32) : Recorded (initiate_discovery s dest_addr query_id now) := by
  unfold initiate_discovery
  rcases rreq_rate_allow s.rate s.my_addr dest_addr now with ⟨rate, _ | _⟩
  · exact h
  · intro p hp
    dsimp only [discovery_start]
    rw [if_neg (Nat.not_le.2 hroom)]
    rcases mem_cons.1 hp with rfl | hp
    · exact ⟨_, mem_append_right _ mem_cons_self, rfl, mem_cons_self⟩
    · obtain ⟨e, he, hdest⟩ := h p hp
      exact ⟨e, mem_append_left _ he, hdest⟩

lemma send_without_route_pending (s : Origin) (dest_addr : UInt32) (data : List UInt8)
    (uid row_uid query_id now : UInt32) :
    let s' := send_without_route s dest_addr data uid row_uid query_id now
    let s₁ := if (discovery_lookup s.pending dest_addr).isSome then s
      else initiate_discovery s dest_addr query_id now
    s'.pending = s₁.pending ∧ s'.awaited = s₁.awaited := by
  intro s' s₁
  simp only [s', send_without_route]
  rcases queue_message _ dest_addr data _ now with ⟨queue, _ | _⟩ <;> exact ⟨rfl, rfl⟩

lemma room_of_few (hin : InTime s t) (hfew : Few s t) :
    s.pending.length < MAX_PENDING_DISCOVERIES := by
  have hall : (s.pending.filter fun e => !decide (Overdue e t)) = s.pending :=
    filter_eq_self.2 fun e he => by simpa using hin e he
  unfold Few at hfew
  rwa [hall] at hfew

lemma Recorded.step (ev : Event) (h : Recorded s) (hin : Answered s ev) :
    Recorded (step s ev) := by
  match ev with
  | .send dest_addr data uid row_uid query_id now routed =>
    unfold DiscoveryRetry.step
    dsimp only
    by_cases hrouted : routed
    · rw [if_pos hrouted]
      exact h
    · rw [if_neg hrouted]
      obtain ⟨hpending, hawaited⟩ :=
        send_without_route_pending s dest_addr data uid row_uid query_id now
      unfold Recorded
      rw [hpending, hawaited]
      by_cases hfound : (discovery_lookup s.pending dest_addr).isSome
      · rw [if_pos hfound]
        exact h
      · rw [if_neg hfound]
        have hnone : (discovery_lookup s.pending dest_addr).isNone := by
          simpa using hfound
        have hfew := hin.2 (Bool.eq_false_iff.2 hrouted) hnone
        exact h.initiate (room_of_few hin.1 hfew) dest_addr query_id now
  | .reply rrep link_metric rev =>
    unfold DiscoveryRetry.step handle_rrep
    dsimp only
    rcases (rrep_rx_decide rrep link_metric s.pending rev).action with _ | dest | _
    · exact h
    · intro p hp
      obtain ⟨hp, hne⟩ := mem_filter.1 hp
      obtain ⟨e, he, hdest, hq⟩ := h p hp
      have hother : e.dest_addr ≠ dest := by
        rw [hdest]
        exact bne_iff_ne.1 hne
      exact ⟨e, mem_discovery_remove he hother, hdest, hq⟩
    · exact h
  | .tick t retry_query => exact h.maintenance t retry_query

lemma Recorded.delivers (h : Recorded s) {p : UInt32 × UInt32} (hp : p ∈ s.awaited) :
    Delivers s p.1 p.2 := by
  intro rrep link_metric rev hquery
  obtain ⟨e, he, -, hq⟩ := h p hp
  -- the scan stops at some discovery that made the query
  have hfind : (discovery_lookup_by_query s.pending rrep.query_id).isSome := by
    rw [discovery_lookup_by_query, find?_isSome]
    exact ⟨e, he, any_eq_true.2 ⟨p.2, hq, beq_iff_eq.2 hquery.symm⟩⟩
  obtain ⟨e', he'⟩ := Option.isSome_iff_exists.1 hfind
  refine ⟨e'.dest_addr, by rw [rrep_rx_decide, he'], fun hsole => ?_⟩
  have hq' : rrep.query_id ∈ e'.query_ids := by simpa using find?_some he'
  exact hsole e' (mem_of_find?_eq_some he') (hquery ▸ hq')

/-! ## Sends -/

lemma discovers_of_inTime {now : UInt32} (hin : InTime s now) (hfew : Few s now)
    (hrate : (discovery_lookup s.pending dest_addr).isNone → Allowed s dest_addr now)
    (data : List UInt8) (uid row_uid query_id : UInt32) :
    Discovers s (send_without_route s dest_addr data uid row_uid query_id now) dest_addr query_id
      now := by
  obtain ⟨hpending, hawaited⟩ :=
    send_without_route_pending s dest_addr data uid row_uid query_id now
  unfold Discovers
  rw [hpending, hawaited]
  rcases hfound : discovery_lookup s.pending dest_addr with _ | e
  · have hallowed := hrate (by rw [hfound]; rfl)
    have hnew : ¬ Overdue ⟨dest_addr, [query_id], now, 1⟩ now := fun h =>
      absurd (show 3 ≤ 1 from h.1) (by decide)
    rw [initiate_discovery]
    unfold Allowed at hallowed
    rcases hlimit : rreq_rate_allow s.rate s.my_addr dest_addr now with ⟨rate, ok⟩
    rw [hlimit] at hallowed
    obtain rfl : ok := hallowed
    dsimp only [discovery_start]
    rw [if_neg (Nat.not_le.2 (room_of_few hin hfew))]
    exact ⟨_, mem_append_right _ mem_cons_self, rfl, hnew,
      .inr ⟨rfl, mem_cons_self⟩⟩
  · have hmem := mem_of_find?_eq_some hfound
    exact ⟨e, hmem, by simpa using find?_some hfound, hin e hmem, .inl hmem⟩

/-! ## The check -/

lemma overdue_kept (he : e ∈ s.pending) (hover : Overdue e t) (retry_query : ℕ → UInt32) :
    e ∈ (mesh_periodic_maintenance s t retry_query).pending := by
  have hretry : ¬ discovery_should_retry e t := fun h =>
    absurd (attempts_of_should_retry h) (Nat.not_lt.2 hover.1)
  obtain ⟨k, he' | he'⟩ := mem_maintenance t retry_query he
  · exact he'
  · rwa [retried, if_neg hretry] at he'

lemma retires_iff (s : Origin) (t : UInt32) (retry_query : ℕ → UInt32) :
    Retires s t (mesh_periodic_maintenance s t retry_query) ↔ InTime s t := by
  constructor
  · intro h e he hover
    exact (h e he hover).1 e (overdue_kept he hover retry_query) rfl
  · exact fun h e he hover => absurd hover (h e he)

/-- **Discoveries that are answered in time.** In every run in which none has failed when a
message is sent or the loop runs, a send without a route finds or starts a discovery, if the
limiter lets it, and the reply to every awaited request is delivered. -/
theorem discoveries_retired (my_addr : UInt32) (es : List Event)
    (hrun : Meets step Answered (boot my_addr) es) :
    let s := es.foldl step (boot my_addr)
    (∀ t retry_query, Due s t → (Retires s t (step s (.tick t retry_query)) ↔ InTime s t)) ∧
      (∀ dest_addr data uid row_uid query_id now, InTime s now → Few s now →
        ((discovery_lookup s.pending dest_addr).isNone = true → Allowed s dest_addr now) →
        Discovers s (step s (.send dest_addr data uid row_uid query_id now false)) dest_addr
          query_id now) ∧
      ∀ p ∈ s.awaited, Delivers s p.1 p.2 := by
  intro s
  have hrec : Recorded s :=
    foldl_invariant (fun s ev hs hev => hs.step ev hev) hrun fun p hp => absurd hp not_mem_nil
  refine ⟨fun t retry_query _ => retires_iff s t retry_query, ?_, fun p hp => hrec.delivers hp⟩
  intro dest_addr data uid row_uid query_id now hin hfew hrate
  exact discovers_of_inTime hin hfew hrate data uid row_uid query_id

/-! ## Examples -/

def sendTo (dest_addr query_id now : UInt32) : Event :=
  .send dest_addr [104, 105] 0 query_id query_id now false

def retryQueries (first : UInt32) : ℕ → UInt32 := fun i => first + UInt32.ofNat i

def answeredRun : List Event :=
  [sendTo 9 101 10000, sendTo 11 102 11000, .tick 16000 (retryQueries 200),
    .reply ⟨7, 101, 101, 9, 8, 1, 200, Vector.replicate 8 0, 1⟩ 190 [],
    .tick 31000 (retryQueries 300), sendTo 9 103 41000]

theorem discoveries_retired_late_reply :
    Meets step Answered (boot 7) answeredRun ∧
      (11, 201) ∈ (answeredRun.foldl step (boot 7)).awaited ∧
      Delivers (answeredRun.foldl step (boot 7)) 11 201 := by
  have hrun : Meets step Answered (boot 7) answeredRun := by decide
  have hmem : (11, 201) ∈ (answeredRun.foldl step (boot 7)).awaited := by decide
  exact ⟨hrun, hmem, (discoveries_retired 7 answeredRun hrun).2.2 _ hmem⟩

def unanswered (dest_addr query_id : UInt32) : List Event :=
  [sendTo dest_addr query_id 10000, .tick 15000 (retryQueries (query_id + 1)),
    .tick 30000 (retryQueries (query_id + 2))]

def eightUnanswered : List Event :=
  (List.range 8).map (fun i => sendTo (UInt32.ofNat (20 + i)) (UInt32.ofNat (400 + i)) 10000) ++
    [.tick 15000 (retryQueries 500), .tick 30000 (retryQueries 600)]

/-- **A failed discovery is never retired.** Its message stays queued and a message ten minutes
later starts no discovery. With eight of them a ninth destination is asked for, and the reply is
dropped. -/
theorem failed_discovery_stays :
    let s := (unanswered 9 100).foldl step (boot 7)
    let late := step s (.tick 45000 (retryQueries 700))
    let full := eightUnanswered.foldl step (boot 7)
    let ninth := step full (sendTo 40 900 700000)
    (¬ InTime s 45000 ∧ Due s 45000 ∧ ¬ Retires s 45000 late ∧
        late.queue ⟨0, by decide⟩ = s.queue ⟨0, by decide⟩ ∧
        (step late (sendTo 9 800 645000)).awaited = late.awaited) ∧
      Few full 700000 ∧ (40, 900) ∈ ninth.awaited ∧
      (rrep_rx_decide ⟨7, 900, 900, 40, 8, 1, 200, Vector.replicate 8 0, 1⟩ 190 ninth.pending
        []).action = .DROP := by
  decide

end BrambleMesh.DiscoveryRetry
