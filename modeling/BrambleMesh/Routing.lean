/-
The routing tables of a node: components/routing/routing.c. The three arrays are packed, so they
are modelled as the list of their entries (`Lib.Packed`).
-/
import BrambleMesh.Lib.Packed
import BrambleMesh.Lib.Bytes

namespace BrambleMesh.Routing

open Packed List Option

/-! ## The routing table -/

abbrev MAX_ROUTES : ℕ := 64

inductive RouteState
  | DISCOVERING
  | UNVERIFIED
  | ACTIVE
  | STALE
  | BROKEN
deriving DecidableEq, Repr

inductive RouteSource
  | DISCOVERED
  | BREADCRUMB
deriving DecidableEq, Repr

structure RouteEntry where
  dest_addr : UInt32
  next_hop : UInt32
  hop_count : UInt8
  metric : UInt8
  state : RouteState
  fail_count : UInt8
  last_used : UInt32
  last_confirmed : UInt32
  source : RouteSource
deriving DecidableEq, Repr

abbrev RoutingTable := List RouteEntry

def route_lookup (table : RoutingTable) (dest_addr : UInt32) : Option RouteEntry :=
  table.find? fun e => e.dest_addr == dest_addr

def route_written (dest next_hop : UInt32) (hop_count metric : UInt8) (state : RouteState)
    (source : RouteSource) (now_ms : UInt32) : RouteEntry :=
  ⟨dest, next_hop, hop_count, metric, state, 0, now_ms, now_ms, source⟩

def route_replaces (e : RouteEntry) (hop_count metric : UInt8) (source : RouteSource) : Bool :=
  if source != e.source then source == .DISCOVERED
  else e.state == .BROKEN || e.state == .STALE || metric > e.metric ||
    (metric == e.metric && hop_count < e.hop_count)

def route_victim (table : RoutingTable) (p : RouteEntry → Bool) : Option ℕ :=
  match table.findIdx? fun e => p e && e.state == .BROKEN with
  | some i => some i
  | none =>
    match table.findIdx? fun e => p e && e.state == .STALE with
    | some i => some i
    | none =>
      (List.range table.length).foldl
        (fun best i =>
          match table[i]? with
          | none => best
          | some e =>
            if !p e then best
            else
              match best.bind fun b => table[b]? with
              | none => some i
              | some b => if e.last_used < b.last_used then some i else best)
        none

def route_evict (table : RoutingTable) (source : RouteSource) : Option ℕ :=
  match route_victim table fun e => e.source == .BREADCRUMB with
  | some i => some i
  | none => if source == .BREADCRUMB then none else route_victim table fun _ => true

def route_install (table : RoutingTable) (dest next_hop : UInt32) (hop_count metric : UInt8)
    (state : RouteState) (source : RouteSource) (now_ms : UInt32) : RoutingTable × Bool :=
  let e := route_written dest next_hop hop_count metric state source now_ms
  match table.findIdx? fun e => e.dest_addr == dest with
  | some i =>
    if (table[i]?.map fun old => route_replaces old hop_count metric source) = some true then
      (table.set i e, true)
    else (table, false)
  | none =>
    if table.length < MAX_ROUTES then (table ++ [e], true)
    else
      match route_evict table source with
      | none => (table, false)
      | some i => (table.set i e, true)

variable {table : RoutingTable} {source : RouteSource} {now_ms : UInt32} {e : RouteEntry}

lemma route_victim_some {p : RouteEntry → Bool} {i : ℕ} (h : route_victim table p = some i) :
    ∃ e, table[i]? = some e ∧ p e := by
  have hfirst : ∀ {q : RouteEntry → Bool} {k : ℕ}, table.findIdx? (fun e => p e && q e) = some k →
      ∃ e, table[k]? = some e ∧ p e := by
    intro q k hk
    obtain ⟨hlt, hpq, -⟩ := findIdx?_eq_some_iff_getElem.1 hk
    exact ⟨_, getElem?_eq_getElem hlt, (Bool.and_eq_true_iff.1 hpq).1⟩
  unfold route_victim at h
  split at h
  · next k hk =>
    rw [← some.inj h]
    exact hfirst hk
  · split at h
    · next k hk =>
      rw [← some.inj h]
      exact hfirst hk
    · -- the scan only ever keeps places whose entry it has read and found to be of the class
      revert i h
      apply foldlRecOn
        (motive := fun best => ∀ {i}, best = some i → ∃ e, table[i]? = some e ∧ p e)
      · intro i h
        cases h
      · intro best hbest k hk i h
        split at h
        · exact hbest h
        · next e he =>
          split_ifs at h with hp
          · exact hbest h
          · have hpe : p e := by simpa using hp
            split at h
            · rw [← some.inj h]
              exact ⟨e, he, hpe⟩
            · split_ifs at h
              · rw [← some.inj h]
                exact ⟨e, he, hpe⟩
              · exact hbest h

lemma route_victim_none {p : RouteEntry → Bool} (h : route_victim table p = none)
    (he : e ∈ table) : p e = false := by
  obtain ⟨i, hi, rfl⟩ := mem_iff_getElem.1 he
  unfold route_victim at h
  split at h
  · cases h
  · split at h
    · cases h
    · -- once the scan has a place it keeps one, so it has passed no entry of the class
      generalize hn : table.length = n at h
      have hin : i < n := hn ▸ hi
      clear hn
      induction n with
      | zero => exact absurd hin (Nat.not_lt_zero i)
      | succ n ih =>
        rw [range_succ, foldl_append, foldl_cons, foldl_nil] at h
        rcases Nat.lt_succ_iff_lt_or_eq.1 hin with hlt | rfl
        · apply ih _ hlt
          split at h
          · exact h
          · split_ifs at h
            · exact h
            · split at h
              · cases h
              · split_ifs at h
                exact h
        · rw [getElem?_eq_getElem hi] at h
          dsimp only at h
          split_ifs at h with hp
          · simpa using hp
          · split at h
            · cases h
            · next b hb =>
              split_ifs at h
              rw [h] at hb
              cases hb

lemma route_evict_lt {i : ℕ} (h : route_evict table source = some i) : i < table.length := by
  have hlt : ∀ {p : RouteEntry → Bool} {k : ℕ}, route_victim table p = some k →
      k < table.length := by
    intro p k hk
    obtain ⟨e, he, -⟩ := route_victim_some hk
    exact (List.getElem?_eq_some_iff.1 he).1
  unfold route_evict at h
  split at h
  · next k hk =>
    rw [← some.inj h]
    exact hlt hk
  · split at h
    · cases h
    · exact hlt h

lemma route_lookup_install {table' : RoutingTable} {dest next_hop : UInt32}
    {hop_count metric : UInt8} {state : RouteState}
    (h : route_install table dest next_hop hop_count metric state source now_ms = (table', true)) :
    route_lookup table' dest =
      some (route_written dest next_hop hop_count metric state source now_ms) := by
  have hdest : (fun e : RouteEntry => e.dest_addr == dest)
      (route_written dest next_hop hop_count metric state source now_ms) :=
    beq_self_eq_true dest
  unfold route_install at h
  split at h
  · next i hi =>
    -- the first entry for the destination is overwritten, so a lookup still finds it first
    obtain ⟨hlt, -, hpre⟩ := List.findIdx?_eq_some_iff_getElem.1 hi
    split at h
    · rw [← (Prod.mk.inj h).1]
      apply find?_set (p := fun e : RouteEntry => e.dest_addr == dest) hdest _ _ hlt
      intro j hj y hy
      obtain ⟨hjl, rfl⟩ := List.getElem?_eq_some_iff.1 hy
      exact Bool.eq_false_iff.2 (hpre j hj)
    · cases h
  · next hnone =>
    -- no entry for the destination yet: the new one is the only one, wherever it goes
    have hno : ∀ y ∈ table, (y.dest_addr == dest) = false := List.findIdx?_eq_none_iff.1 hnone
    split at h
    · rw [← (Prod.mk.inj h).1, route_lookup, List.find?_append,
        List.find?_eq_none.2 fun y hy => Bool.eq_false_iff.1 (hno y hy), none_or]
      exact List.find?_cons_of_pos (p := fun e : RouteEntry => e.dest_addr == dest) hdest
    · split at h
      · cases h
      · next i hi =>
        rw [← (Prod.mk.inj h).1]
        apply find?_set (p := fun e : RouteEntry => e.dest_addr == dest) hdest _ _
          (route_evict_lt hi)
        intro j _ y hy
        exact hno y (List.mem_of_getElem? hy)

lemma mem_route_install {dest next_hop : UInt32} {hop_count metric : UInt8} {state : RouteState}
    (h : e ∈ (route_install table dest next_hop hop_count metric state source now_ms).1) :
    e ∈ table ∨ e = route_written dest next_hop hop_count metric state source now_ms := by
  unfold route_install at h
  split at h
  · split_ifs at h
    · exact mem_or_eq_of_mem_set h
    · exact .inl h
  · split_ifs at h
    · simpa using h
    · split at h
      · exact .inl h
      · exact mem_or_eq_of_mem_set h

def route_maintenance (table : RoutingTable) (now_ms : UInt32) : RoutingTable :=
  let age := fun e : RouteEntry => now_ms - e.last_confirmed
  let kept := purge
    (fun e => age e ≥ 3600000 || (e.state == .STALE && age e ≥ 600000)) table.length 0 table
  kept.map fun e => if e.state == .ACTIVE && age e ≥ 300000 then { e with state := .STALE } else e

def rerr_handle (table : RoutingTable) (broken_dest broken_next_hop : UInt32) : RoutingTable :=
  match table.findIdx? fun e => e.dest_addr == broken_dest with
  | none => table
  | some i =>
    table.modify i fun e =>
      if e.next_hop == broken_next_hop then
        { e with state := .BROKEN, fail_count := e.fail_count + 1 }
      else e

structure Aged (e₀ e : RouteEntry) : Prop where
  dest_addr : e.dest_addr = e₀.dest_addr
  next_hop : e.next_hop = e₀.next_hop
  hop_count : e.hop_count = e₀.hop_count
  source : e.source = e₀.source
  state : e.state = .ACTIVE → e₀.state = .ACTIVE

lemma aged_refl (e : RouteEntry) : Aged e e := ⟨rfl, rfl, rfl, rfl, id⟩

lemma mem_route_maintenance (h : e ∈ route_maintenance table now_ms) :
    ∃ e₀ ∈ table, Aged e₀ e := by
  obtain ⟨e₀, he₀, rfl⟩ := mem_map.1 h
  refine ⟨e₀, mem_of_mem_purge _ _ _ he₀, ?_⟩
  split_ifs
  · exact ⟨rfl, rfl, rfl, rfl, by simp⟩
  · exact aged_refl e₀

lemma mem_rerr_handle {broken_dest broken_next_hop : UInt32}
    (h : e ∈ rerr_handle table broken_dest broken_next_hop) :
    ∃ e₀ ∈ table, Aged e₀ e := by
  unfold rerr_handle at h
  split at h
  · exact ⟨e, h, aged_refl e⟩
  · obtain ⟨j, hj⟩ := mem_iff_getElem?.1 h
    rw [getElem?_modify] at hj
    obtain ⟨e₀, he₀, rfl⟩ := map_eq_some_iff.1 hj
    refine ⟨e₀, mem_of_getElem? he₀, ?_⟩
    split_ifs
    · exact ⟨rfl, rfl, rfl, rfl, by simp⟩
    · exact aged_refl e₀
    · exact aged_refl e₀

lemma route_lookup_rerr_handle (table : RoutingTable) (broken_dest broken_next_hop : UInt32) :
    route_lookup (rerr_handle table broken_dest broken_next_hop) broken_dest =
      (route_lookup table broken_dest).map fun e =>
        if e.next_hop == broken_next_hop then
          { e with state := .BROKEN, fail_count := e.fail_count + 1 }
        else e := by
  unfold rerr_handle
  split
  · next hnone =>
    have hno : route_lookup table broken_dest = none :=
      find?_eq_none.2 fun y hy => Bool.eq_false_iff.1 (findIdx?_eq_none_iff.1 hnone y hy)
    rw [hno]
    rfl
  · next i hi =>
    apply find?_modify (p := fun e : RouteEntry => e.dest_addr == broken_dest) _ _ _ hi
    intro e
    split_ifs <;> rfl

/-! ## Requests seen -/

abbrev RREQ_DEDUP_MAX : ℕ := 128

structure RreqSeen where
  query_id : UInt32
  timestamp : UInt32
deriving DecidableEq, Repr

def rreq_dedup_check_and_add (cache : List RreqSeen) (query_id now_ms : UInt32) :
    Bool × List RreqSeen :=
  let cache := purge (fun e => now_ms - e.timestamp ≥ 30000) cache.length 0 cache
  if cache.any fun e => e.query_id == query_id then (true, cache)
  else if cache.length < RREQ_DEDUP_MAX then (false, cache ++ [⟨query_id, now_ms⟩])
  else (false, cache)

/-! ## Reverse routes -/

abbrev MAX_REVERSE_ROUTES : ℕ := 32

structure ReverseRoute where
  query_id : UInt32
  prev_hop : UInt32
  timestamp : UInt32
deriving DecidableEq, Repr

def reverse_route_purge (table : List ReverseRoute) (now_ms : UInt32) : List ReverseRoute :=
  purge (fun e => now_ms - e.timestamp ≥ 60000) table.length 0 table

def reverse_route_add (table : List ReverseRoute) (query_id prev_hop now_ms : UInt32) :
    List ReverseRoute :=
  let table := reverse_route_purge table now_ms
  let table :=
    if table.length ≥ MAX_REVERSE_ROUTES then
      swap_remove table (oldest (fun e => e.timestamp.toNat) table)
    else table
  table ++ [⟨query_id, prev_hop, now_ms⟩]

def reverse_route_lookup (table : List ReverseRoute) (query_id : UInt32) : Option ReverseRoute :=
  table.find? fun e => e.query_id == query_id

lemma mem_reverse_route_add {table : List ReverseRoute} {query_id prev_hop : UInt32}
    {e : ReverseRoute} (h : e ∈ reverse_route_add table query_id prev_hop now_ms) :
    e ∈ table ∨ e = ⟨query_id, prev_hop, now_ms⟩ := by
  rcases mem_append.1 h with hold | hnew
  · left
    split_ifs at hold
    · exact mem_of_mem_purge _ _ _ (mem_of_mem_swap_remove hold)
    · exact mem_of_mem_purge _ _ _ hold
  · exact .inr (mem_singleton.1 hnew)

lemma reverse_route_lookup_add (table : List ReverseRoute) (query_id prev_hop now_ms : UInt32) :
    ∃ e, reverse_route_lookup (reverse_route_add table query_id prev_hop now_ms) query_id =
        some e ∧ e ∈ reverse_route_add table query_id prev_hop now_ms := by
  have hmem : (⟨query_id, prev_hop, now_ms⟩ : ReverseRoute) ∈
      reverse_route_add table query_id prev_hop now_ms := by
    exact mem_append_right _ (mem_singleton.2 rfl)
  have hsome : (reverse_route_lookup (reverse_route_add table query_id prev_hop now_ms)
      query_id).isSome := by
    rw [reverse_route_lookup, find?_isSome]
    exact ⟨_, hmem, beq_self_eq_true query_id⟩
  obtain ⟨e, he⟩ := isSome_iff_exists.1 hsome
  exact ⟨e, he, mem_of_find?_eq_some he⟩

/-! ## Link quality -/

def compute_link_penalty (rssi snr : Int8) : UInt8 :=
  let rp : ℤ :=
    if rssi.toInt ≤ -120 then 30
    else if rssi.toInt ≥ -60 then 0
    else (-60 - rssi.toInt) * 30 / 60
  let sp : ℤ :=
    if snr.toInt ≤ -5 then 20
    else if snr.toInt ≥ 10 then 0
    else (10 - snr.toInt) * 20 / 15
  let total := rp + sp
  UInt8.ofNat (if total > 50 then 50 else total).toNat

def metric_apply_link_penalty (metric : UInt8) (rssi snr : Int8) : UInt8 :=
  let penalty := compute_link_penalty rssi snr
  if penalty ≥ metric then 0 else metric - penalty

end BrambleMesh.Routing
