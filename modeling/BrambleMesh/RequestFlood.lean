/-
How often a node transmits one route request. Two caches keep it from passing a request on again,
and it enters its own requests into neither. The network is that of `MeshNet`, cut down to
requests.
-/
import BrambleMesh.Dispatch

namespace BrambleMesh.RequestFlood

open Packed Routing Discovery Function List
open MeshNet hiding Event step Net Transmission Heard
open Dispatch (DedupBuffer dedup_check_and_add dedup_contains dedup_check_and_add_fst)

/-! ## The network -/

abbrev PKT_TYPE_RREQ : UInt32 := 0x02

def dedup_key (rreq : Rreq) : UInt32 := rreq.query_id ^^^ (PKT_TYPE_RREQ <<< 24)

structure Station where
  node : Node
  dedup : DedupBuffer

def Station.fresh : Station := ⟨.fresh, []⟩

def requests (outs : List Sent) : List Rreq :=
  outs.filterMap fun o =>
    match o.frame with
    | .rreq q => some q
    | _ => none

def receive (mac : NetworkMac) (me : UInt32) (st : Station) (rreq : Rreq) (rx : Rx) :
    Station × List Rreq :=
  let (dup, dedup) := dedup_check_and_add st.dedup (dedup_key rreq) rx.now
  if dup then ({ st with dedup := dedup }, [])
  else
    let out := handle_rreq mac me st.node rreq rx
    (⟨out.1, dedup⟩, requests out.2)

inductive Mark
  | originated
  | forwarded
  | heard
deriving DecidableEq, Repr

structure Note where
  node : UInt32
  query : UInt32
  time : ℕ
  mark : Mark
deriving DecidableEq, Repr

structure Transmission where
  sender : UInt32
  rreq : Rreq
deriving DecidableEq, Repr

structure Flood where
  stations : UInt32 → Station
  air : List Transmission
  log : List Note
  now : ℕ

def Flood.start : Flood := ⟨fun _ => .fresh, [], [], 0⟩

inductive Event
  | discover (n dest query encrypted_source : UInt32)
  | retry (n : UInt32) (i : ℕ) (query encrypted_source : UInt32)
  | flush (n : UInt32) (i : ℕ)
  | deliver (k : ℕ) (receiver : UInt32) (rx : Rx)
  | other (n key : UInt32)
  | background (n : UInt32) (node : Node)

structure Timed where
  time : ℕ
  event : Event

def Flood.put (s : Flood) (t : ℕ) (n : UInt32) (st : Station) (notes : List (UInt32 × Mark))
    (outs : List Rreq) : Flood where
  stations := update s.stations n st
  air := s.air ++ outs.map fun q => ⟨n, q⟩
  log := s.log ++ notes.map fun m => ⟨n, m.1, t, m.2⟩
  now := t

def Node.merge (old new : Node) : Node :=
  { new with rreq_dedup := old.rreq_dedup, rreq_fwd_queue := old.rreq_fwd_queue }

def step (mac : NetworkMac) (adj : UInt32 → UInt32 → Bool) (s : Flood) (e : Timed) : Flood :=
  let now := UInt32.ofNat e.time
  match e.event with
  | .discover n dest query encrypted_source =>
    let st := s.stations n
    let node := { st.node with
      pending_disc := discovery_start st.node.pending_disc dest query now }
    s.put e.time n { st with node := node } [(query, .originated)]
      [rreq_build_originator n dest query encrypted_source (discovery_hop_limit_for_attempt 1)]
  | .retry n i query encrypted_source =>
    let st := s.stations n
    match st.node.pending_disc[i]? with
    | none => { s with now := e.time }
    | some pd =>
      let pd := discovery_record_attempt pd query now
      let node := { st.node with pending_disc := st.node.pending_disc.set i pd }
      s.put e.time n { st with node := node } [(query, .originated)]
        [rreq_build_originator n pd.dest_addr query encrypted_source
          (discovery_hop_limit_for_attempt pd.attempts)]
  | .flush n i =>
    let st := s.stations n
    match st.node.rreq_fwd_queue[i]? with
    | none => { s with now := e.time }
    | some rreq =>
      let node := { st.node with rreq_fwd_queue := st.node.rreq_fwd_queue.eraseIdx i }
      s.put e.time n { st with node := node } [(rreq.query_id, .forwarded)] [rreq]
  | .deliver k r rx =>
    match s.air[k]? with
    | none => { s with now := e.time }
    | some t =>
      if adj t.sender r && t.sender != r then
        let out := receive mac r (s.stations r) t.rreq { rx with now := now }
        s.put e.time r out.1
          ((t.rreq.query_id, .heard) :: out.2.map fun q => (q.query_id, .forwarded)) out.2
      else { s with now := e.time }
  | .other n key =>
    let st := s.stations n
    s.put e.time n { st with dedup := (dedup_check_and_add st.dedup key now).2 } [] []
  | .background n node =>
    let st := s.stations n
    s.put e.time n { st with node := Node.merge st.node node } [] []

/-! ## What is asked of a run -/

def InOrder (s : Flood) (e : Timed) : Prop := s.now ≤ e.time
deriving Decidable

def FreshQuery (s : Flood) (e : Timed) : Prop :=
  match e.event with
  | .discover _ _ query _ => ∀ m ∈ s.log, m.query ≠ query
  | .retry _ _ query _ => ∀ m ∈ s.log, m.query ≠ query
  | _ => True

def Originated (log : List Note) (n q : UInt32) : Prop :=
  ∃ m ∈ log, m.node = n ∧ m.query = q ∧ m.mark = .originated
deriving Decidable

def HasRoom (cache : List RreqSeen) (query_id now_ms : UInt32) : Prop :=
  let kept := purge (fun e => now_ms - e.timestamp ≥ 30000) cache.length 0 cache
  (kept.any fun e => e.query_id == query_id) = true ∨ kept.length < RREQ_DEDUP_MAX
deriving Decidable

def Welcome (s : Flood) (t : ℕ) (r : UInt32) (rreq : Rreq) : Prop :=
  ¬ Originated s.log r rreq.query_id ∧
    (dedup_contains (s.stations r).dedup (dedup_key rreq) (UInt32.ofNat t) ∨
      HasRoom (s.stations r).node.rreq_dedup rreq.query_id (UInt32.ofNat t))
deriving Decidable

def Spared (adj : UInt32 → UInt32 → Bool) (s : Flood) (e : Timed) : Prop :=
  match e.event with
  | .deliver k r _ =>
    ∀ t ∈ s.air[k]?, adj t.sender r → t.sender ≠ r → Welcome s e.time r t.rreq
  | _ => True

instance (s : Flood) (e : Timed) : Decidable (FreshQuery s e) := by
  rcases e with ⟨_, e⟩
  cases e <;> unfold FreshQuery <;> infer_instance

instance (adj : UInt32 → UInt32 → Bool) (s : Flood) (e : Timed) : Decidable (Spared adj s e) := by
  rcases e with ⟨_, e⟩
  cases e <;> unfold Spared <;> infer_instance

def Note.about (n q : UInt32) (m : Note) : Bool := m.node == n && m.query == q

def first_time (log : List Note) (n q : UInt32) : Option ℕ :=
  (log.find? (Note.about n q)).map fun m => m.time

def sendings (log : List Note) (n q : UInt32) (until_ms : ℕ) : ℕ :=
  log.countP fun m => m.about n q && m.mark != .heard && m.time < until_ms

abbrev RREQ_DEDUP_EXPIRY_MS : ℕ := 30000

def AtMostOnce (log : List Note) : Prop :=
  ∀ n q t₀, first_time log n q = some t₀ →
    sendings log n q (t₀ + RREQ_DEDUP_EXPIRY_MS) ≤ 1

/-! ## The log -/

variable {log new : List Note} {n q : UInt32} {t t₀ u : ℕ}

lemma first_time_append_some (h : first_time log n q = some t₀) :
    first_time (log ++ new) n q = some t₀ := by
  obtain ⟨m, hm, rfl⟩ := Option.map_eq_some_iff.1 h
  simp [first_time, hm]

lemma first_time_append_none (h : first_time log n q = none) :
    first_time (log ++ new) n q = first_time new n q := by
  have hnone : log.find? (Note.about n q) = none := by simpa [first_time] using h
  simp [first_time, hnone]

lemma sendings_append :
    sendings (log ++ new) n q u = sendings log n q u + sendings new n q u :=
  countP_append ..

lemma sendings_of_unseen (h : first_time log n q = none) : sendings log n q u = 0 := by
  have hnone : log.find? (Note.about n q) = none := by simpa [first_time] using h
  rw [find?_eq_none] at hnone
  apply countP_eq_zero.2
  intro m hm
  simp [hnone m hm]

lemma unseen_of_not_about (h : ∀ m ∈ new, m.about n q = false) :
    first_time new n q = none := by
  have hnone : new.find? (Note.about n q) = none :=
    find?_eq_none.2 fun m hm => by simp [h m hm]
  simp [first_time, hnone]

lemma sendings_of_late (h : ∀ m ∈ new, u ≤ m.time) : sendings new n q u = 0 := by
  apply countP_eq_zero.2
  intro m hm
  have := h m hm
  simp only [Bool.and_eq_true, decide_eq_true_eq, not_and, not_lt]
  exact fun _ => this

lemma first_time_le {bound : ℕ} (hpast : ∀ m ∈ log, m.time ≤ bound)
    (h : first_time log n q = some t₀) : t₀ ≤ bound := by
  obtain ⟨m, hm, rfl⟩ := Option.map_eq_some_iff.1 h
  exact hpast m (mem_of_find?_eq_some hm)

/-! ## The table of requests seen -/

variable {cache : List RreqSeen} {e : RreqSeen} {now_ms : UInt32}

lemma mem_check_and_add (he : e ∈ cache) (hlive : now_ms - e.timestamp < 30000) :
    e ∈ (rreq_dedup_check_and_add cache q now_ms).2 := by
  have hkept : e ∈ purge (fun e => now_ms - e.timestamp ≥ 30000) cache.length 0 cache := by
    apply mem_purge_of_mem _ _ _ _ he
    simpa using hlive
  unfold rreq_dedup_check_and_add
  dsimp only
  split_ifs
  · exact hkept
  · exact mem_append_left _ hkept
  · exact hkept

lemma check_and_add_seen (he : e ∈ cache) (hq : e.query_id = q)
    (hlive : now_ms - e.timestamp < 30000) :
    (rreq_dedup_check_and_add cache q now_ms).1 := by
  have hkept : e ∈ purge (fun e => now_ms - e.timestamp ≥ 30000) cache.length 0 cache := by
    apply mem_purge_of_mem _ _ _ _ he
    simpa using hlive
  unfold rreq_dedup_check_and_add
  rw [if_pos (any_eq_true.2 ⟨e, hkept, by simp [hq]⟩)]

lemma check_and_add_entered (hroom : HasRoom cache q now_ms)
    (hnew : (rreq_dedup_check_and_add cache q now_ms).1 = false) :
    ⟨q, now_ms⟩ ∈ (rreq_dedup_check_and_add cache q now_ms).2 := by
  unfold rreq_dedup_check_and_add at hnew ⊢
  dsimp only at hroom hnew ⊢
  split_ifs at hnew ⊢ with hany hlen
  · simp
  · exact absurd hroom (not_or.2 ⟨hany, hlen⟩)

def Known (node : Node) (q : UInt32) (t₀ now : ℕ) : Prop :=
  ∃ e ∈ node.rreq_dedup, e.query_id = q ∧
    ∃ th, e.timestamp = UInt32.ofNat th ∧ t₀ ≤ th ∧ th ≤ now

lemma known_live {th : ℕ} (hge : t₀ ≤ th) (hle : th ≤ t) (hopen : t < t₀ + RREQ_DEDUP_EXPIRY_MS) :
    UInt32.ofNat t - UInt32.ofNat th < 30000 := by
  have helapsed := Run.elapsed_le hle
  rw [UInt32.lt_iff_toNat_lt]
  change _ < 30000
  simp only [RREQ_DEDUP_EXPIRY_MS] at hopen
  omega

variable {node node' : Node} {now : ℕ}

lemma known_check_and_add {q' : UInt32} (h : Known node q t₀ now) (hnow : now ≤ t)
    (hopen : t < t₀ + RREQ_DEDUP_EXPIRY_MS)
    (hcache : node'.rreq_dedup =
      (rreq_dedup_check_and_add node.rreq_dedup q' (UInt32.ofNat t)).2) :
    Known node' q t₀ t := by
  obtain ⟨e, he, hq, th, hth, hge, hle⟩ := h
  refine ⟨e, ?_, hq, th, hth, hge, hle.trans hnow⟩
  rw [hcache]
  apply mem_check_and_add he
  rw [hth]
  exact known_live hge (hle.trans hnow) hopen

lemma seen_of_known (h : Known node q t₀ now) (hnow : now ≤ t)
    (hopen : t < t₀ + RREQ_DEDUP_EXPIRY_MS) :
    (rreq_dedup_check_and_add node.rreq_dedup q (UInt32.ofNat t)).1 := by
  obtain ⟨e, he, hq, th, hth, hge, hle⟩ := h
  apply check_and_add_seen he hq
  rw [hth]
  exact known_live hge (hle.trans hnow) hopen

lemma known_mono (h : Known node q t₀ now) (hnow : now ≤ t)
    (hcache : node'.rreq_dedup = node.rreq_dedup) : Known node' q t₀ t := by
  obtain ⟨e, he, hq, th, hth, hge, hle⟩ := h
  exact ⟨e, hcache ▸ he, hq, th, hth, hge, hle.trans hnow⟩

/-! ## One node and one query -/

def queued (node : Node) (q : UInt32) : ℕ := node.rreq_fwd_queue.countP fun r => r.query_id == q

structure Once (log : List Note) (n q : UInt32) (node : Node) (now : ℕ) : Prop where
  unseen : first_time log n q = none → queued node q = 0
  once : ∀ t₀, first_time log n q = some t₀ → sendings log n q (t₀ + RREQ_DEDUP_EXPIRY_MS) ≤ 1
  within : ∀ t₀, first_time log n q = some t₀ → now < t₀ + RREQ_DEDUP_EXPIRY_MS →
    sendings log n q (t₀ + RREQ_DEDUP_EXPIRY_MS) + queued node q = 0 ∨
      sendings log n q (t₀ + RREQ_DEDUP_EXPIRY_MS) + queued node q = 1 ∧
        (Originated log n q ∨ Known node q t₀ now)

lemma originated_append (h : Originated log n q) : Originated (log ++ new) n q := by
  obtain ⟨m, hm, hrest⟩ := h
  exact ⟨m, mem_append_left _ hm, hrest⟩

lemma once_of_first (hfirst : first_time log n q = some t₀)
    (honce : sendings log n q (t₀ + RREQ_DEDUP_EXPIRY_MS) ≤ 1)
    (hwithin : now < t₀ + RREQ_DEDUP_EXPIRY_MS →
      sendings log n q (t₀ + RREQ_DEDUP_EXPIRY_MS) + queued node q = 0 ∨
        sendings log n q (t₀ + RREQ_DEDUP_EXPIRY_MS) + queued node q = 1 ∧
          (Originated log n q ∨ Known node q t₀ now)) :
    Once log n q node now := by
  refine ⟨by simp [hfirst], ?_, ?_⟩
  · intro t₁ ht₁
    rw [hfirst] at ht₁
    rw [← Option.some.inj ht₁]
    exact honce
  · intro t₁ ht₁
    rw [hfirst] at ht₁
    rw [← Option.some.inj ht₁]
    exact hwithin

lemma once_kept (h : Once log n q node now) (hnow : now ≤ t)
    (hold : first_time log n q = some t₀) (hnew : ∀ u, sendings new n q u = 0)
    (hqueue : queued node' q = queued node q)
    (hknown : ∀ t₀, t < t₀ + RREQ_DEDUP_EXPIRY_MS → Known node q t₀ now → Known node' q t₀ t) :
    Once (log ++ new) n q node' t := by
  apply once_of_first (first_time_append_some hold)
  · rw [sendings_append, hnew]
    exact h.once t₀ hold
  · intro hopen
    rw [sendings_append, hnew, hqueue]
    rcases h.within t₀ hold (by omega) with hzero | ⟨hone, hwhy⟩
    · exact .inl hzero
    · exact .inr ⟨hone, hwhy.imp originated_append (hknown t₀ hopen)⟩

lemma once_quiet (h : Once log n q node now) (hnow : now ≤ t)
    (hnew : ∀ m ∈ new, m.about n q = false) (hqueue : queued node' q = queued node q)
    (hknown : ∀ t₀, t < t₀ + RREQ_DEDUP_EXPIRY_MS → Known node q t₀ now → Known node' q t₀ t) :
    Once (log ++ new) n q node' t := by
  have hunseen := unseen_of_not_about hnew
  rcases hold : first_time log n q with _ | t₀
  · have hfirst : first_time (log ++ new) n q = none := by
      rw [first_time_append_none hold, hunseen]
    refine ⟨fun _ => hqueue.trans (h.unseen hold), ?_, ?_⟩ <;>
      · intro t₀ ht₀
        rw [hfirst] at ht₀
        cases ht₀
  · exact once_kept h hnow hold (fun _ => sendings_of_unseen hunseen) hqueue hknown

lemma once_late (h : Once log n q node now) (hfirst : first_time log n q = some t₀)
    (hlate : t₀ + RREQ_DEDUP_EXPIRY_MS ≤ t) (hnew : ∀ m ∈ new, m.time = t) :
    Once (log ++ new) n q node' t := by
  apply once_of_first (first_time_append_some hfirst)
  · have hnone : sendings new n q (t₀ + RREQ_DEDUP_EXPIRY_MS) = 0 :=
      sendings_of_late fun m hm => (hnew m hm).symm ▸ hlate
    rw [sendings_append, hnone]
    exact h.once t₀ hfirst
  · intro hopen
    omega

lemma once_originated (h : Once log n q node now) (hfresh : first_time log n q = none)
    (hqueue : queued node' q = queued node q) :
    Once (log ++ [⟨n, q, t, .originated⟩]) n q node' t := by
  have hfirst : first_time (log ++ [⟨n, q, t, .originated⟩]) n q = some t := by
    rw [first_time_append_none hfresh]
    simp [first_time, Note.about]
  have hsend : sendings (log ++ [⟨n, q, t, .originated⟩]) n q (t + RREQ_DEDUP_EXPIRY_MS) = 1 := by
    rw [sendings_append, sendings_of_unseen hfresh]
    simp [sendings, Note.about]
  apply once_of_first hfirst hsend.le
  intro _
  right
  rw [hsend, hqueue, h.unseen hfresh]
  exact ⟨rfl, .inl ⟨⟨n, q, t, .originated⟩, by simp, rfl, rfl, rfl⟩⟩

lemma once_flushed (h : Once log n q node now) (hnow : now ≤ t)
    (hqueue : queued node q = queued node' q + 1)
    (hcache : node'.rreq_dedup = node.rreq_dedup) :
    Once (log ++ [⟨n, q, t, .forwarded⟩]) n q node' t := by
  obtain ⟨t₀, ht₀⟩ : ∃ t₀, first_time log n q = some t₀ := by
    apply Option.ne_none_iff_exists'.1
    intro hnone
    have := h.unseen hnone
    omega
  by_cases hopen : t < t₀ + RREQ_DEDUP_EXPIRY_MS
  · -- within the 30 seconds it was the one copy that the node had queued
    have hsend : sendings (log ++ [⟨n, q, t, .forwarded⟩]) n q (t₀ + RREQ_DEDUP_EXPIRY_MS) =
        sendings log n q (t₀ + RREQ_DEDUP_EXPIRY_MS) + 1 := by
      simp [sendings, Note.about, hopen]
    rcases h.within t₀ ht₀ (by omega) with hzero | ⟨hone, hwhy⟩
    · omega
    · apply once_of_first (first_time_append_some ht₀)
      · omega
      · intro _
        exact .inr ⟨by omega, hwhy.imp originated_append fun hk => known_mono hk hnow hcache⟩
  · exact once_late h ht₀ (by omega) (by simp)

lemma once_heard (h : Once log n q node now) (hnow : now ≤ t)
    (hqueue : queued node' q = queued node q)
    (hknown : ∀ t₀, t < t₀ + RREQ_DEDUP_EXPIRY_MS → Known node q t₀ now → Known node' q t₀ t) :
    Once (log ++ [⟨n, q, t, .heard⟩]) n q node' t := by
  have hnew : ∀ u, sendings [⟨n, q, t, .heard⟩] n q u = 0 := by simp [sendings]
  rcases hold : first_time log n q with _ | t₀
  · have hfirst : first_time (log ++ [⟨n, q, t, .heard⟩]) n q = some t := by
      rw [first_time_append_none hold]
      simp [first_time, Note.about]
    have hnone : sendings (log ++ [⟨n, q, t, .heard⟩]) n q (t + RREQ_DEDUP_EXPIRY_MS) = 0 := by
      rw [sendings_append, hnew, sendings_of_unseen hold]
    apply once_of_first hfirst
    · rw [hnone]
      exact Nat.zero_le 1
    · intro _
      left
      rw [hnone, hqueue, h.unseen hold]
  · exact once_kept h hnow hold hnew hqueue hknown

lemma once_taken (h : Once log n q node now) (hpast : ∀ m ∈ log, m.time ≤ now) (hnow : now ≤ t)
    (hown : ¬ Originated log n q)
    (hunknown : (rreq_dedup_check_and_add node.rreq_dedup q (UInt32.ofNat t)).1 = false)
    (hentered : ⟨q, UInt32.ofNat t⟩ ∈ node'.rreq_dedup) (hnew : ∀ m ∈ new, m.time = t)
    (hlog : new ≠ [] ∧ ∀ m ∈ new, m.about n q)
    (hsum : ∀ u, sendings new n q u + queued node' q ≤ queued node q + 1) :
    Once (log ++ new) n q node' t := by
  have hknown : ∀ t₀ ≤ t, Known node' q t₀ t := fun t₀ ht₀ =>
    ⟨_, hentered, rfl, t, rfl, ht₀, le_rfl⟩
  -- whatever the first note is, nothing was sent or queued before within its 30 seconds
  have hbudget : ∀ t₀ ≤ t, first_time (log ++ new) n q = some t₀ →
      sendings log n q (t₀ + RREQ_DEDUP_EXPIRY_MS) + queued node q = 0 →
      Once (log ++ new) n q node' t := by
    intro t₀ ht₀ hfirst hzero
    have hle := hsum (t₀ + RREQ_DEDUP_EXPIRY_MS)
    apply once_of_first hfirst
    · rw [sendings_append]
      omega
    · intro _
      rw [sendings_append]
      rcases Nat.lt_or_ge 0 (sendings new n q (t₀ + RREQ_DEDUP_EXPIRY_MS) + queued node' q) with
        hpos | hnone
      · exact .inr ⟨by omega, .inr (hknown t₀ ht₀)⟩
      · exact .inl (by omega)
  rcases hold : first_time log n q with _ | t₀
  · obtain ⟨m, hm⟩ := exists_mem_of_ne_nil new hlog.1
    have hfirst : first_time (log ++ new) n q = some t := by
      rw [first_time_append_none hold]
      obtain ⟨m', hm'⟩ := Option.isSome_iff_exists.1
        (find?_isSome.2 ⟨m, hm, hlog.2 m hm⟩ : (new.find? (Note.about n q)).isSome)
      rw [first_time, hm', Option.map_some, hnew m' (mem_of_find?_eq_some hm')]
    refine hbudget t le_rfl hfirst ?_
    rw [sendings_of_unseen hold, h.unseen hold]
  · by_cases hopen : t < t₀ + RREQ_DEDUP_EXPIRY_MS
    · refine hbudget t₀ ((first_time_le hpast hold).trans hnow) (first_time_append_some hold) ?_
      rcases h.within t₀ hold (by omega) with hzero | ⟨-, hyes | hk⟩
      · exact hzero
      · exact absurd hyes hown
      · rw [seen_of_known hk hnow hopen] at hunknown
        cases hunknown
    · exact once_late h hold (by omega) hnew

/-! ## What a node does with a request -/

structure Relays (node : Node) (q : UInt32) (out : Node × List Sent) : Prop where
  cache : out.1.rreq_dedup = node.rreq_dedup
  copies : ∃ later, out.1.rreq_fwd_queue = node.rreq_fwd_queue ++ later ∧
    later.length + (requests out.2).length ≤ 1 ∧
    ∀ f ∈ later ++ requests out.2, f.query_id = q

lemma relays_nothing {out : Node × List Sent} (hcache : out.1.rreq_dedup = node.rreq_dedup)
    (hqueue : out.1.rreq_fwd_queue = node.rreq_fwd_queue) (hnone : requests out.2 = []) :
    Relays node q out :=
  ⟨hcache, [], by simp [hqueue], by simp [hnone], by simp [hnone]⟩

variable {rreq : Rreq} {s : Flood}

lemma handle_rreq_relays (mac : NetworkMac) (me : UInt32) {rx : Rx}
    (h : (rreq_dedup_check_and_add node.rreq_dedup rreq.query_id rx.now).1 = false) :
    Relays (noted node rreq rx.now) rreq.query_id (handle_rreq mac me node rreq rx) := by
  have houtcome := handle_rreq_outcome mac me node rreq rx
  generalize handle_rreq mac me node rreq rx = out at houtcome ⊢
  match houtcome with
  | .seen hseen =>
    rw [h] at hseen
    cases hseen
  | .dropped _ => exact relays_nothing rfl rfl rfl
  | .replied _ _ _ => exact relays_nothing rfl rfl rfl
  | .queued _ _ =>
    exact ⟨rfl, [rreq_forward rreq me rx.rssi rx.snr], rfl, le_rfl,
      by simp [requests, rreq_forward]⟩
  | .passed _ _ => exact ⟨rfl, [], by simp, le_rfl, by simp [requests, rreq_forward]⟩

def notes_of (r q : UInt32) (t : ℕ) (sent : List Rreq) : List Note :=
  ((q, Mark.heard) :: sent.map fun f => (f.query_id, .forwarded)).map fun m => ⟨r, m.1, t, m.2⟩

lemma notes_of_about (r q : UInt32) (t : ℕ) {sent : List Rreq}
    (hsent : ∀ f ∈ sent, f.query_id = q) :
    ∀ m ∈ notes_of r q t sent, m.node = r ∧ m.query = q ∧ m.time = t := by
  intro m hm
  simp only [notes_of, map_cons, map_map, mem_cons, mem_map,
    comp_apply] at hm
  rcases hm with rfl | ⟨f, hf, rfl⟩
  · exact ⟨rfl, rfl, rfl⟩
  · exact ⟨rfl, hsent f hf, rfl⟩

lemma sendings_notes_of (r q : UInt32) (t : ℕ) (sent : List Rreq) (u : ℕ) :
    sendings (notes_of r q t sent) n q u ≤ sent.length := by
  have hheard : sendings [⟨r, q, t, .heard⟩] n q u = 0 := by simp [sendings]
  have hcons : notes_of r q t sent = [⟨r, q, t, .heard⟩] ++
      sent.map fun f => ⟨r, f.query_id, t, .forwarded⟩ := by simp [notes_of]
  rw [hcons, sendings_append, hheard, Nat.zero_add]
  exact countP_le_length.trans_eq (length_map _)

lemma once_relays {r : UInt32} {out : Node × List Sent} (hpast : ∀ m ∈ log, m.time ≤ now)
    (hnow : now ≤ t) (hown : ¬ Originated log r rreq.query_id)
    (hroom : HasRoom node.rreq_dedup rreq.query_id (UInt32.ofNat t))
    (hunknown : (rreq_dedup_check_and_add node.rreq_dedup rreq.query_id (UInt32.ofNat t)).1 =
      false) (hrelays : Relays (noted node rreq (UInt32.ofNat t)) rreq.query_id out) (q : UInt32)
    (h : Once log r q node now) :
    Once (log ++ notes_of r rreq.query_id t (requests out.2)) r q out.1 t := by
  obtain ⟨hcache, later, hqueue, hcount, hquery⟩ := hrelays
  have habout := notes_of_about r rreq.query_id t fun f hf => hquery f (mem_append_right _ hf)
  have hqueued : ∀ q, queued out.1 q = queued node q + later.countP fun f => f.query_id == q := by
    intro q
    rw [queued, hqueue, countP_append]
    rfl
  by_cases hq : rreq.query_id = q
  · subst hq
    apply once_taken h hpast hnow hown hunknown
    · rw [hcache]
      exact check_and_add_entered hroom hunknown
    · exact fun m hm => (habout m hm).2.2
    · refine ⟨by simp [notes_of], fun m hm => ?_⟩
      obtain ⟨hn, hm, -⟩ := habout m hm
      simp [Note.about, hn, hm]
    · intro u
      have hsent := sendings_notes_of (n := r) r rreq.query_id t (requests out.2) u
      have hlater : (later.countP fun f => f.query_id == rreq.query_id) ≤ later.length :=
        countP_le_length
      rw [hqueued]
      omega
  · -- any other query is neither heard nor sent nor queued
    apply once_quiet h hnow
    · intro m hm
      obtain ⟨-, hm, -⟩ := habout m hm
      simp [Note.about, hm, hq]
    · rw [hqueued, countP_eq_zero.2, Nat.add_zero]
      intro f hf
      simp [hquery f (mem_append_left _ hf), hq]
    · exact fun t₀ hopen hk => known_check_and_add hk hnow hopen hcache

lemma once_receive {mac : NetworkMac} {r : UInt32} {st : Station} {rx : Rx}
    (hrx : rx.now = UInt32.ofNat t) (hpast : ∀ m ∈ log, m.time ≤ now) (hnow : now ≤ t)
    (hown : ¬ Originated log r rreq.query_id)
    (hroom : dedup_contains st.dedup (dedup_key rreq) (UInt32.ofNat t) ∨
      HasRoom st.node.rreq_dedup rreq.query_id (UInt32.ofNat t)) (q : UInt32)
    (h : Once log r q st.node now) :
    let out := receive mac r st rreq rx
    Once (log ++ notes_of r rreq.query_id t out.2) r q out.1.node t := by
  -- what happens when nothing goes out and nothing is queued
  have hsilent : ∀ node' : Node, node'.rreq_fwd_queue = st.node.rreq_fwd_queue →
      (∀ t₀, t < t₀ + RREQ_DEDUP_EXPIRY_MS → Known st.node q t₀ now → Known node' q t₀ t) →
      Once (log ++ notes_of r rreq.query_id t []) r q node' t := by
    intro node' hqueue hknown
    have hsame : queued node' q = queued st.node q := by rw [queued, queued, hqueue]
    by_cases hq : rreq.query_id = q
    · rw [hq]
      exact once_heard h hnow hsame hknown
    · exact once_quiet h hnow (by simp [notes_of, Note.about, hq]) hsame hknown
  unfold receive
  dsimp only
  split_ifs with hdup
  · exact hsilent st.node rfl fun t₀ _ hk => known_mono hk hnow rfl
  · rcases hseen : (rreq_dedup_check_and_add st.node.rreq_dedup rreq.query_id rx.now).1 with _ | _
    · have hrelays := handle_rreq_relays mac r hseen
      rw [hrx] at hdup hseen hrelays
      apply once_relays hpast hnow hown _ hseen hrelays q h
      exact hroom.resolve_left fun hknows => hdup (dedup_check_and_add_fst _ _ _ ▸ hknows)
    · rw [handle_rreq_seen hseen]
      refine hsilent _ rfl fun t₀ hopen hk => ?_
      rw [hrx]
      exact known_check_and_add hk hnow hopen rfl

/-! ## Every step -/

structure Inv (s : Flood) : Prop where
  past : ∀ m ∈ s.log, m.time ≤ s.now
  once : ∀ n q, Once s.log n q (s.stations n).node s.now

lemma inv_start : Inv .start where
  past := by simp [Flood.start]
  once n q := by
    refine ⟨fun _ => rfl, ?_, ?_⟩
    · simp [Flood.start, first_time]
    · simp [Flood.start, first_time]

lemma inv_put (h : Inv s) (hnow : s.now ≤ t) (st : Station) (notes : List (UInt32 × Mark))
    (outs : List Rreq)
    (hacts : ∀ q, Once s.log n q (s.stations n).node s.now →
      Once (s.log ++ notes.map fun m => ⟨n, m.1, t, m.2⟩) n q st.node t) :
    Inv (s.put t n st notes outs) := by
  refine ⟨?_, ?_⟩
  · intro m hm
    rcases mem_append.1 hm with hold | hnew
    · exact (h.past m hold).trans hnow
    · obtain ⟨x, -, rfl⟩ := mem_map.1 hnew
      exact le_rfl
  · intro n' q
    by_cases hn : n' = n
    · subst hn
      simpa [Flood.put] using hacts q (h.once n' q)
    · have hother : (s.put t n st notes outs).stations n' = s.stations n' :=
        update_of_ne hn ..
      rw [hother]
      apply once_quiet (h.once n' q) hnow _ rfl fun t₀ _ hk => known_mono hk hnow rfl
      intro m hm
      obtain ⟨x, -, rfl⟩ := mem_map.1 hm
      simp [Note.about, Ne.symm hn]

lemma inv_wait (h : Inv s) (hnow : s.now ≤ t) : Inv { s with now := t } := by
  refine ⟨fun m hm => (h.past m hm).trans hnow, fun n q => ?_⟩
  have hquiet : Once (s.log ++ []) n q (s.stations n).node t :=
    once_quiet (h.once n q) hnow (by simp) rfl fun t₀ _ hk => known_mono hk hnow rfl
  simpa using hquiet

lemma inv_originate (h : Inv s) (hnow : s.now ≤ t) {q : UInt32}
    (hfresh : ∀ m ∈ s.log, m.query ≠ q) (st : Station)
    (hqueue : st.node.rreq_fwd_queue = (s.stations n).node.rreq_fwd_queue)
    (hcache : st.node.rreq_dedup = (s.stations n).node.rreq_dedup) (outs : List Rreq) :
    Inv (s.put t n st [(q, .originated)] outs) := by
  apply inv_put h hnow
  intro q' hq'
  have hsame : queued st.node q' = queued (s.stations n).node q' := by rw [queued, queued, hqueue]
  by_cases hq : q = q'
  · subst hq
    refine once_originated hq' ?_ hsame
    apply unseen_of_not_about
    intro m hm
    simp [Note.about, hfresh m hm]
  · exact once_quiet hq' hnow (by simp [Note.about, hq]) hsame
      fun t₀ _ hk => known_mono hk hnow hcache

lemma queued_eraseIdx {i : ℕ} (hi : node.rreq_fwd_queue[i]? = some rreq) (q : UInt32) :
    queued node q = queued { node with rreq_fwd_queue := node.rreq_fwd_queue.eraseIdx i } q +
      if rreq.query_id == q then 1 else 0 := by
  obtain ⟨hlt, rfl⟩ := List.getElem?_eq_some_iff.1 hi
  have hperm := List.getElem_cons_eraseIdx_perm hlt
  rw [queued, ← hperm.countP_eq, List.countP_cons]
  rfl

lemma inv_step {mac : NetworkMac} {adj : UInt32 → UInt32 → Bool} {e : Timed} (h : Inv s)
    (hnow : InOrder s e) (hfresh : FreshQuery s e) (hspared : Spared adj s e) :
    Inv (step mac adj s e) := by
  obtain ⟨t, e⟩ := e
  match e with
  | .discover n dest query encrypted_source =>
    refine inv_originate h hnow hfresh _ ?_ ?_ _
    · rfl
    · rfl
  | .retry n i query encrypted_source =>
    unfold step
    dsimp only
    split
    · exact inv_wait h hnow
    · refine inv_originate h hnow hfresh _ ?_ ?_ _
      · rfl
      · rfl
  | .flush n i =>
    unfold step
    dsimp only
    split
    · exact inv_wait h hnow
    · next rreq hrreq =>
      apply inv_put h hnow
      intro q hq
      have hqueue := queued_eraseIdx hrreq q
      by_cases hsame : rreq.query_id = q
      · rw [if_pos (by simp [hsame])] at hqueue
        rw [hsame]
        exact once_flushed hq hnow hqueue rfl
      · rw [if_neg (by simp [hsame]), Nat.add_zero] at hqueue
        exact once_quiet hq hnow (by simp [Note.about, hsame]) hqueue.symm
          fun t₀ _ hk => known_mono hk hnow rfl
  | .deliver k r rx =>
    unfold step
    dsimp only
    split
    · exact inv_wait h hnow
    · next x hx =>
      split_ifs with hadj
      · rw [Bool.and_eq_true, bne_iff_ne] at hadj
        obtain ⟨hown, hroom⟩ := hspared x hx hadj.1 hadj.2
        apply inv_put h hnow
        exact fun q hq => once_receive rfl h.past hnow hown hroom q hq
      · exact inv_wait h hnow
  | .other .. | .background .. =>
    apply inv_put h hnow
    intro q hq
    exact once_quiet hq hnow (by simp) rfl fun t₀ _ hk => known_mono hk hnow rfl

/-! ## How often a node transmits a request -/

/-- **One transmission a flood.** In every run in which no node hears a request of its own and
every request that the dispatcher lets pass finds room, no node transmits a query twice within 30
seconds of first hearing or transmitting it. -/
theorem transmits_at_most_once (mac : NetworkMac) (adj : UInt32 → UInt32 → Bool)
    (es : List Timed)
    (hrun : Run.Meets (step mac adj)
      (fun s e => (InOrder s e ∧ FreshQuery s e) ∧ Spared adj s e) .start es) :
    AtMostOnce (es.foldl (step mac adj) .start).log := by
  have hinv : Inv (es.foldl (step mac adj) .start) :=
    Run.foldl_invariant (fun _ _ hs he => inv_step hs he.1.1 he.1.2 he.2) hrun inv_start
  exact fun n q => (hinv.once n q).once

def pair (a b : UInt32) : Bool := (a == 1 && b == 2) || (a == 2 && b == 1)

def asked : List Timed :=
  [⟨1000, .discover 1 9 7 0⟩, ⟨1050, .deliver 0 2 (clear 0)⟩, ⟨1100, .flush 2 0⟩]

theorem transmits_at_most_once_unheard :
    sendings (asked.foldl (step zeroMac pair) .start).log 2 7 31050 = 1 ∧
      AtMostOnce (asked.foldl (step zeroMac pair) .start).log :=
  ⟨by decide +kernel, transmits_at_most_once zeroMac pair asked (by decide +kernel)⟩

def echoed : List Timed := asked ++ [⟨1150, .deliver 1 1 (clear 0)⟩, ⟨1200, .flush 1 0⟩]

/-- Node 1 transmits its own query twice within a fifth of a second. -/
theorem originator_transmits_twice :
    Run.Meets (step zeroMac pair) (fun s e => InOrder s e ∧ FreshQuery s e) .start echoed ∧
      first_time (echoed.foldl (step zeroMac pair) .start).log 1 7 = some 1000 ∧
      sendings (echoed.foldl (step zeroMac pair) .start).log 1 7 1201 = 2 ∧
      ¬ AtMostOnce (echoed.foldl (step zeroMac pair) .start).log := by
  have hfirst : first_time (echoed.foldl (step zeroMac pair) .start).log 1 7 = some 1000 := by
    decide
  refine ⟨by decide, hfirst, by decide, ?_⟩
  intro honce
  have htwo : sendings (echoed.foldl (step zeroMac pair) .start).log 1 7
      (1000 + RREQ_DEDUP_EXPIRY_MS) = 2 := by decide
  have hle := honce 1 7 1000 hfirst
  omega

end BrambleMesh.RequestFlood
