/-
Routing state and the wrap of the clock: components/routing/routing.c, components/dedup/dedup.c.
Expiry compares ages, differences modulo 2^32; what gives up the oldest entry, or keeps a
neighbour from being un-aged, compares the readings themselves.
-/
import BrambleMesh.Dispatch

namespace BrambleMesh.ClockWrap

open Routing Dispatch List
open TimedCache (Entry offer)

/-! ## The neighbour table -/

abbrev MAX_NEIGHBORS : ℕ := 32
abbrev NEIGHBOR_EXPIRY_MS : UInt32 := 600000

structure Neighbor where
  addr : UInt32
  rssi : Int8
  snr : Int8
  pubkey_hash : UInt32
  last_heard : UInt32
  first_seen_ms : UInt32
  beacon_count : UInt16
deriving DecidableEq, Repr

def neighbor_update (table : List Neighbor) (addr : UInt32) (rssi snr : Int8)
    (pubkey_hash now_ms : UInt32) : ℕ × List Neighbor :=
  match table.findIdx? fun e => e.addr == addr with
  | some i =>
    (i, table.modify i fun e =>
      { e with
        rssi := rssi, snr := snr, pubkey_hash := pubkey_hash, last_heard := now_ms
        beacon_count := if e.beacon_count < 0xFFFF then e.beacon_count + 1 else e.beacon_count })
  | none =>
    let e : Neighbor := ⟨addr, rssi, snr, pubkey_hash, now_ms, now_ms, 1⟩
    if table.length < MAX_NEIGHBORS then (table.length, table ++ [e])
    else
      let idx := Packed.oldest (fun e => e.last_heard.toNat) table
      (idx, table.set idx e)

def neighbor_touch (table : List Neighbor) (addr : UInt32) (rssi snr : Int8) (now_ms : UInt32) :
    Bool × List Neighbor :=
  match table.findIdx? fun e => e.addr == addr with
  | none => (false, table)
  | some i =>
    if (table[i]?.map fun e => decide (now_ms ≤ e.last_heard)) = some true then (false, table)
    else (true, table.modify i fun e => { e with last_heard := now_ms, rssi := rssi, snr := snr })

def neighbor_purge (table : List Neighbor) (now_ms : UInt32) : List Neighbor :=
  Packed.purge (fun e => now_ms - e.last_heard ≥ NEIGHBOR_EXPIRY_MS) table.length 0 table

/-! ## Runs -/

def route_place (table : RoutingTable) (dest : UInt32) (source : RouteSource) : Option ℕ :=
  match table.findIdx? fun e => e.dest_addr == dest with
  | some i => some i
  | none => if table.length < MAX_ROUTES then some table.length else route_evict table source

structure Tables where
  neighbors : List Neighbor
  routes : RoutingTable
  reverse : List ReverseRoute
  dedup : DedupBuffer

def Tables.empty : Tables := ⟨[], [], [], []⟩

inductive Op
  | neighbor_update (addr : UInt32) (rssi snr : Int8) (pubkey_hash : UInt32)
  | neighbor_touch (addr : UInt32) (rssi snr : Int8)
  | neighbor_purge
  | route_install (dest next_hop : UInt32) (hop_count metric : UInt8) (state : RouteState)
      (source : RouteSource)
  | route_maintenance
  | reverse_route_add (query_id prev_hop : UInt32)
  | reverse_route_purge
  | dedup_check_and_add (packet_id : UInt32)
  | dedup_purge
deriving DecidableEq, Repr

inductive Ret
  | place (i : Option ℕ)
  | flag (b : Bool)
  | void
deriving DecidableEq, Repr

def call (s : Tables) (now : UInt32) : Op → Ret × Tables
  | .neighbor_update addr rssi snr hash =>
    let (i, t) := neighbor_update s.neighbors addr rssi snr hash now
    (.place (some i), { s with neighbors := t })
  | .neighbor_touch addr rssi snr =>
    let (b, t) := neighbor_touch s.neighbors addr rssi snr now
    (.flag b, { s with neighbors := t })
  | .neighbor_purge => (.void, { s with neighbors := neighbor_purge s.neighbors now })
  | .route_install dest next_hop hop_count metric state source =>
    let (t, _) := route_install s.routes dest next_hop hop_count metric state source now
    (.place (route_place s.routes dest source), { s with routes := t })
  | .route_maintenance => (.void, { s with routes := route_maintenance s.routes now })
  | .reverse_route_add query_id prev_hop =>
    let t := reverse_route_add s.reverse query_id prev_hop now
    (.place (some (t.length - 1)), { s with reverse := t })
  | .reverse_route_purge => (.void, { s with reverse := reverse_route_purge s.reverse now })
  | .dedup_check_and_add packet_id =>
    let (b, t) := dedup_check_and_add s.dedup packet_id now
    (.flag b, { s with dedup := t })
  | .dedup_purge => (.void, { s with dedup := dedup_purge s.dedup now })

def run (s : Tables) : List (UInt32 × Op) → List Ret × Tables
  | [] => ([], s)
  | (now, op) :: calls =>
    let (r, s) := call s now op
    let (rs, s) := run s calls
    (r :: rs, s)

/-! ## Times moved by a constant -/

section

variable {k now : UInt32} {T : UInt32 → Prop}

def Neighbor.shift (k : UInt32) (e : Neighbor) : Neighbor :=
  { e with last_heard := e.last_heard + k, first_seen_ms := e.first_seen_ms + k }

def shift_route (k : UInt32) (e : RouteEntry) : RouteEntry :=
  { e with last_used := e.last_used + k, last_confirmed := e.last_confirmed + k }

def shift_reverse (k : UInt32) (e : ReverseRoute) : ReverseRoute :=
  { e with timestamp := e.timestamp + k }

def shift_entry (k : UInt32) (e : Entry UInt32) : Entry UInt32 := { e with stamp := e.stamp + k }

def Tables.shift (k : UInt32) (s : Tables) : Tables :=
  ⟨s.neighbors.map (.shift k), s.routes.map (shift_route k), s.reverse.map (shift_reverse k),
    s.dedup.map (shift_entry k)⟩

def KeepsOrder (k : UInt32) (T : UInt32 → Prop) : Prop :=
  ∀ t, T t → ∀ t', T t' → (t + k < t' + k ↔ t < t')

structure Within (T : UInt32 → Prop) (s : Tables) : Prop where
  neighbors : ∀ e ∈ s.neighbors, T e.last_heard
  routes : ∀ e ∈ s.routes, T e.last_used
  reverse : ∀ e ∈ s.reverse, T e.timestamp
  dedup : ∀ e ∈ s.dedup, T e.stamp

lemma age_shift (k now t : UInt32) : now + k - (t + k) = now - t :=
  add_sub_add_right_eq_sub now t k

lemma KeepsOrder.toNat (h : KeepsOrder k T) {t t' : UInt32} (ht : T t) (ht' : T t') :
    (t + k).toNat < (t' + k).toNat ↔ t.toNat < t'.toNat := by
  exact h t ht t' ht'

lemma mem_modify {α : Type*} {g : α → α} {l : List α} {i : ℕ} {x : α} (h : x ∈ l.modify i g) :
    x ∈ l ∨ ∃ y ∈ l, x = g y := by
  obtain ⟨j, hj⟩ := mem_iff_getElem?.1 h
  rw [getElem?_modify] at hj
  obtain ⟨y, hy, rfl⟩ := Option.map_eq_some_iff.1 hj
  have hmem := mem_of_getElem? hy
  split_ifs
  · exact Or.inr ⟨y, hmem, rfl⟩
  · exact Or.inl hmem

/-! ### Neighbours -/

variable {table : List Neighbor}

lemma find_neighbor_shift (addr : UInt32) :
    ((table.map (Neighbor.shift k)).findIdx? fun e => e.addr == addr) =
      table.findIdx? fun e => e.addr == addr := by
  rw [findIdx?_map]
  rfl

lemma neighbor_update_shift (hk : KeepsOrder k T) (h : ∀ e ∈ table, T e.last_heard)
    (addr : UInt32) (rssi snr : Int8) (hash : UInt32) :
    neighbor_update (table.map (.shift k)) addr rssi snr hash (now + k) =
      ((neighbor_update table addr rssi snr hash now).1,
        (neighbor_update table addr rssi snr hash now).2.map (.shift k)) := by
  unfold neighbor_update
  rw [find_neighbor_shift]
  generalize table.findIdx? (fun e => e.addr == addr) = found
  rcases found with _ | i
  · have hold : Packed.oldest (fun e : Neighbor => e.last_heard.toNat) (table.map (.shift k)) =
        Packed.oldest (fun e : Neighbor => e.last_heard.toNat) table :=
      Packed.oldest_map fun x hx y hy => hk.toNat (h x hx) (h y hy)
    rw [length_map, hold]
    split_ifs
    · rw [map_append]
      rfl
    · rw [map_set]
      rfl
  · refine Prod.ext rfl (Packed.modify_map ?_ table i)
    exact fun e => rfl

lemma neighbor_touch_shift (hk : KeepsOrder k T) (h : ∀ e ∈ table, T e.last_heard) (hnow : T now)
    (addr : UInt32) (rssi snr : Int8) :
    neighbor_touch (table.map (.shift k)) addr rssi snr (now + k) =
      ((neighbor_touch table addr rssi snr now).1,
        (neighbor_touch table addr rssi snr now).2.map (.shift k)) := by
  unfold neighbor_touch
  rw [find_neighbor_shift]
  generalize table.findIdx? (fun e => e.addr == addr) = found
  rcases found with _ | i
  · rfl
  · have hcmp : ((table.map (Neighbor.shift k))[i]?.map fun e => decide (now + k ≤ e.last_heard)) =
        table[i]?.map fun e => decide (now ≤ e.last_heard) := by
      rw [getElem?_map]
      rcases hi : table[i]? with _ | e
      · rfl
      · have horder := hk e.last_heard (h e (mem_of_getElem? hi)) now hnow
        simp only [Option.map_some, Neighbor.shift, ← UInt32.not_lt, horder]
    dsimp only
    rw [hcmp]
    split_ifs
    · rfl
    · refine Prod.ext rfl (Packed.modify_map ?_ table i)
      exact fun e => rfl

lemma neighbor_purge_shift :
    neighbor_purge (table.map (.shift k)) (now + k) =
      (neighbor_purge table now).map (.shift k) := by
  rw [neighbor_purge, length_map]
  apply Packed.purge_map
  intro e
  simp only [Neighbor.shift, age_shift]

lemma mem_neighbor_update {addr hash : UInt32} {rssi snr : Int8} {e : Neighbor}
    (h : e ∈ (neighbor_update table addr rssi snr hash now).2) :
    e ∈ table ∨ e.last_heard = now := by
  unfold neighbor_update at h
  split at h
  · exact (mem_modify h).imp_right fun ⟨_, _, he⟩ => he ▸ rfl
  · split_ifs at h
    · exact (mem_append.1 h).imp_right fun he => by rw [mem_singleton.1 he]
    · exact (mem_or_eq_of_mem_set h).imp_right fun he => by rw [he]

lemma mem_neighbor_touch {addr : UInt32} {rssi snr : Int8} {e : Neighbor}
    (h : e ∈ (neighbor_touch table addr rssi snr now).2) : e ∈ table ∨ e.last_heard = now := by
  unfold neighbor_touch at h
  split at h
  · exact Or.inl h
  · split_ifs at h
    · exact Or.inl h
    · exact (mem_modify h).imp_right fun ⟨_, _, he⟩ => he ▸ rfl

/-! ### Routes -/

variable {routes : RoutingTable} {source : RouteSource}

lemma route_victim_shift (hk : KeepsOrder k T) (h : ∀ e ∈ routes, T e.last_used)
    {p : RouteEntry → Bool} (hp : ∀ e, p (shift_route k e) = p e) :
    route_victim (routes.map (shift_route k)) p = route_victim routes p := by
  have hstate : ∀ st, ((routes.map (shift_route k)).findIdx? fun e => p e && e.state == st) =
      routes.findIdx? fun e => p e && e.state == st := by
    intro st
    rw [findIdx?_map]
    congr 1
    funext e
    exact congrArg (· && (e.state == st)) (hp e)
  unfold route_victim
  rw [hstate, hstate, length_map]
  generalize routes.findIdx? (fun e => p e && e.state == .BROKEN) = broken
  generalize routes.findIdx? (fun e => p e && e.state == .STALE) = stale
  rcases broken with _ | i
  swap
  · rfl
  rcases stale with _ | i
  swap
  · rfl
  dsimp only
  congr 1
  funext best i
  rw [getElem?_map]
  rcases hi : routes[i]? with _ | e
  · rfl
  · dsimp only [Option.map_some]
    rw [hp]
    rcases best with _ | b
    · rfl
    · rw [Option.bind_some, Option.bind_some, getElem?_map]
      rcases hb : routes[b]? with _ | x
      · rfl
      · have horder := hk _ (h e (mem_of_getElem? hi)) _ (h x (mem_of_getElem? hb))
        simp only [Option.map_some, shift_route, horder]

lemma route_evict_shift (hk : KeepsOrder k T) (h : ∀ e ∈ routes, T e.last_used) :
    route_evict (routes.map (shift_route k)) source = route_evict routes source := by
  unfold route_evict
  rw [route_victim_shift hk h (fun _ => rfl), route_victim_shift hk h (fun _ => rfl)]

lemma find_route_shift (dest : UInt32) :
    ((routes.map (shift_route k)).findIdx? fun e => e.dest_addr == dest) =
      routes.findIdx? fun e => e.dest_addr == dest := by
  rw [findIdx?_map]
  rfl

lemma route_install_shift (hk : KeepsOrder k T) (h : ∀ e ∈ routes, T e.last_used)
    (dest next_hop : UInt32) (hop_count metric : UInt8) (state : RouteState) :
    (route_install (routes.map (shift_route k)) dest next_hop hop_count metric state source
        (now + k)).1 =
      (route_install routes dest next_hop hop_count metric state source now).1.map
        (shift_route k) := by
  unfold route_install
  rw [find_route_shift, route_evict_shift hk h, length_map]
  generalize routes.findIdx? (fun e => e.dest_addr == dest) = found
  rcases found with _ | i
  · split_ifs
    · rw [map_append]
      rfl
    · generalize route_evict routes source = victim
      rcases victim with _ | i
      · rfl
      · rw [map_set]
        rfl
  · have hold : ((routes.map (shift_route k))[i]?.map fun old =>
        route_replaces old hop_count metric source) =
        routes[i]?.map fun old => route_replaces old hop_count metric source := by
      rw [getElem?_map, Option.map_map]
      rfl
    dsimp only
    rw [hold]
    split_ifs
    · rw [map_set]
      rfl
    · rfl

lemma route_maintenance_shift :
    route_maintenance (routes.map (shift_route k)) (now + k) =
      (route_maintenance routes now).map (shift_route k) := by
  unfold route_maintenance
  dsimp only
  rw [length_map, Packed.purge_map (f := shift_route k)
    (p := fun e => now - e.last_confirmed ≥ 3600000 ||
      (e.state == .STALE && now - e.last_confirmed ≥ 600000)), map_map, map_map]
  · congr 1
    funext e
    simp only [Function.comp_apply, shift_route, age_shift]
    split_ifs <;> rfl
  · intro e
    simp only [shift_route, age_shift]

/-! ### Reverse routes and the duplicate filter -/

variable {reverse : List ReverseRoute} {buf : DedupBuffer}

lemma reverse_route_purge_shift :
    reverse_route_purge (reverse.map (shift_reverse k)) (now + k) =
      (reverse_route_purge reverse now).map (shift_reverse k) := by
  rw [reverse_route_purge, length_map]
  apply Packed.purge_map
  intro e
  simp only [shift_reverse, age_shift]

lemma reverse_route_add_shift (hk : KeepsOrder k T) (h : ∀ e ∈ reverse, T e.timestamp)
    (query_id prev_hop : UInt32) :
    reverse_route_add (reverse.map (shift_reverse k)) query_id prev_hop (now + k) =
      (reverse_route_add reverse query_id prev_hop now).map (shift_reverse k) := by
  unfold reverse_route_add
  rw [reverse_route_purge_shift]
  have hkept : ∀ e ∈ reverse_route_purge reverse now, T e.timestamp :=
    fun e he => h e (Packed.mem_of_mem_purge _ _ _ he)
  have hold : Packed.oldest (fun e : ReverseRoute => e.timestamp.toNat)
      ((reverse_route_purge reverse now).map (shift_reverse k)) =
      Packed.oldest (fun e : ReverseRoute => e.timestamp.toNat) (reverse_route_purge reverse now) :=
    Packed.oldest_map fun x hx y hy => hk.toNat (hkept x hx) (hkept y hy)
  dsimp only
  rw [length_map, hold, Packed.swap_remove_map, map_append]
  split_ifs <;> rfl

lemma dedup_purge_shift :
    dedup_purge (buf.map (shift_entry k)) (now + k) =
      (dedup_purge buf now).map (shift_entry k) := by
  rw [dedup_purge, TimedCache.purge, filter_map]
  congr 1
  apply filter_congr
  intro e _
  simp only [Function.comp_apply, Entry.live, shift_entry, age_shift]

lemma dedup_oldest_shift (hk : KeepsOrder k T) (h : ∀ e ∈ buf, T e.stamp) :
    TimedCache.oldest (buf.map (shift_entry k)) = TimedCache.oldest buf := by
  -- the scan reads no place beyond the end
  have hstamp : ∀ i < buf.length, ∃ t, T t ∧ (buf.map Entry.stamp).getD i 0 = t ∧
      ((buf.map (shift_entry k)).map Entry.stamp).getD i 0 = t + k := by
    intro i hi
    refine ⟨buf[i].stamp, h _ (getElem_mem hi), ?_, ?_⟩ <;>
      simp [getElem?_eq_getElem hi, shift_entry]
  have hfold : ∀ (is : List ℕ) (old : ℕ), (∀ i ∈ is, i < buf.length) → old < buf.length →
      is.foldl (fun old i => if ((buf.map (shift_entry k)).map Entry.stamp).getD i 0 <
          ((buf.map (shift_entry k)).map Entry.stamp).getD old 0 then i else old) old =
        is.foldl (fun old i => if (buf.map Entry.stamp).getD i 0 <
          (buf.map Entry.stamp).getD old 0 then i else old) old := by
    intro is
    induction is with
    | nil => exact fun _ _ _ => rfl
    | cons i is ih =>
      intro old his hold
      have hi := his i mem_cons_self
      obtain ⟨t, ht, heq, heq'⟩ := hstamp i hi
      obtain ⟨u, hu, hueq, hueq'⟩ := hstamp old hold
      simp only [foldl_cons, heq, heq', hueq, hueq', hk t ht u hu]
      apply ih _ fun j hj => his j (mem_cons_of_mem i hj)
      split_ifs
      · exact hi
      · exact hold
  unfold TimedCache.oldest
  rw [length_map]
  rcases Nat.eq_zero_or_pos buf.length with hnil | hpos
  · rw [hnil]
    rfl
  · apply hfold _ 0 _ hpos
    intro i hi
    rw [mem_range'_1] at hi
    omega

lemma dedup_check_and_add_shift (hk : KeepsOrder k T) (h : ∀ e ∈ buf, T e.stamp)
    (packet_id : UInt32) :
    dedup_check_and_add (buf.map (shift_entry k)) packet_id (now + k) =
      ((dedup_check_and_add buf packet_id now).1,
        (dedup_check_and_add buf packet_id now).2.map (shift_entry k)) := by
  have hpurge : dedup_purge (buf.map (shift_entry k)) (now + k) =
      (dedup_purge buf now).map (shift_entry k) := dedup_purge_shift
  have hkept : ∀ e ∈ dedup_purge buf now, T e.stamp := fun e he => h e (mem_filter.1 he).1
  have hold := dedup_oldest_shift hk hkept
  unfold dedup_check_and_add offer
  rw [dedup_purge, dedup_purge] at hpurge
  rw [dedup_purge] at hold
  have hkey : (fun e : Entry UInt32 => decide (e.key = packet_id)) ∘ shift_entry k =
    fun e => decide (e.key = packet_id) := rfl
  dsimp only
  rw [hpurge, any_map, hkey, length_map, hold]
  split_ifs
  · rfl
  · rw [map_append]
    rfl
  · rw [map_set]
    rfl

/-! ### Runs -/

variable {s : Tables}

lemma Within.call (h : Within T s) (hnow : T now) (op : Op) : Within T (call s now op).2 := by
  match op with
  | .neighbor_update addr rssi snr hash =>
    refine { h with neighbors := fun e he => ?_ }
    exact (mem_neighbor_update he).elim (h.neighbors e) fun heq => heq ▸ hnow
  | .neighbor_touch addr rssi snr =>
    refine { h with neighbors := fun e he => ?_ }
    exact (mem_neighbor_touch he).elim (h.neighbors e) fun heq => heq ▸ hnow
  | .neighbor_purge =>
    exact { h with neighbors := fun e he => h.neighbors e (Packed.mem_of_mem_purge _ _ _ he) }
  | .route_install dest next_hop hop_count metric state source =>
    refine { h with routes := fun e he => ?_ }
    exact (mem_route_install he).elim (h.routes e) fun heq => heq ▸ hnow
  | .route_maintenance =>
    refine { h with routes := fun e he => ?_ }
    obtain ⟨e₀, he₀, rfl⟩ := mem_map.1 he
    have hold := h.routes e₀ (Packed.mem_of_mem_purge _ _ _ he₀)
    split_ifs <;> exact hold
  | .reverse_route_add query_id prev_hop =>
    refine { h with reverse := fun e he => ?_ }
    exact (mem_reverse_route_add he).elim (h.reverse e) fun heq => heq ▸ hnow
  | .reverse_route_purge =>
    exact { h with reverse := fun e he => h.reverse e (Packed.mem_of_mem_purge _ _ _ he) }
  | .dedup_check_and_add packet_id =>
    refine { h with dedup := fun e he => ?_ }
    exact (TimedCache.mem_of_mem_offer he).elim (h.dedup e) fun heq => heq ▸ hnow
  | .dedup_purge => exact { h with dedup := fun e he => h.dedup e (mem_filter.1 he).1 }

lemma call_shift (hk : KeepsOrder k T) (h : Within T s) (hnow : T now) (op : Op) :
    ClockWrap.call (s.shift k) (now + k) op =
      ((ClockWrap.call s now op).1, (ClockWrap.call s now op).2.shift k) := by
  cases op with
  | neighbor_update addr rssi snr hash =>
    simp only [call, Tables.shift, neighbor_update_shift hk h.neighbors]
  | neighbor_touch addr rssi snr =>
    simp only [call, Tables.shift, neighbor_touch_shift hk h.neighbors hnow]
  | neighbor_purge => simp only [call, Tables.shift, neighbor_purge_shift]
  | route_install dest next_hop hop_count metric state source =>
    simp only [call, Tables.shift, route_place, find_route_shift, length_map,
      route_evict_shift hk h.routes, route_install_shift hk h.routes]
  | route_maintenance => simp only [call, Tables.shift, route_maintenance_shift]
  | reverse_route_add query_id prev_hop =>
    simp only [call, Tables.shift, reverse_route_add_shift hk h.reverse, length_map]
  | reverse_route_purge => simp only [call, Tables.shift, reverse_route_purge_shift]
  | dedup_check_and_add packet_id =>
    simp only [call, Tables.shift, dedup_check_and_add_shift hk h.dedup]
  | dedup_purge => simp only [call, Tables.shift, dedup_purge_shift]

def shift_calls (k : UInt32) (calls : List (UInt32 × Op)) : List (UInt32 × Op) :=
  calls.map fun c => (c.1 + k, c.2)

lemma run_shift_of_within (hk : KeepsOrder k T) (calls : List (UInt32 × Op))
    (hcalls : ∀ c ∈ calls, T c.1) (h : Within T s) :
    run (s.shift k) (shift_calls k calls) = ((run s calls).1, (run s calls).2.shift k) := by
  induction calls generalizing s with
  | nil => rfl
  | cons c calls ih =>
    have hnow := hcalls c mem_cons_self
    have hrest := ih (fun d hd => hcalls d (mem_cons_of_mem c hd)) (h.call hnow c.2)
    rw [shift_calls] at hrest
    simp only [shift_calls, map_cons, run, call_shift hk h hnow, hrest]

end

/-- **A run of the routing tables may be moved along the clock** if that keeps the order of its
times: every call returns the same, and the tables differ by the shift only. -/
theorem run_shift (k : UInt32) (calls : List (UInt32 × Op))
    (hk : KeepsOrder k fun t => t ∈ calls.map Prod.fst) :
    run .empty (shift_calls k calls) = ((run .empty calls).1, (run .empty calls).2.shift k) := by
  have hempty : Within (fun t => t ∈ calls.map Prod.fst) .empty := by
    constructor <;> exact fun _ he => absurd he not_mem_nil
  exact run_shift_of_within hk calls (fun c hc => mem_map_of_mem hc) hempty

def heard_again : List (UInt32 × Op) :=
  [(1000, .neighbor_update 7 (-60) 5 99), (2000, .neighbor_touch 7 (-70) 4)]

theorem run_shift_heard_again :
    run .empty (shift_calls 5000 heard_again) =
      ((run .empty heard_again).1, (run .empty heard_again).2.shift 5000) :=
  run_shift 5000 heard_again fun t ht t' ht' => by
    simp only [heard_again, List.map_cons, List.map_nil, List.mem_cons, List.not_mem_nil,
      or_false] at ht ht'
    rcases ht with rfl | rfl <;> rcases ht' with rfl | rfl <;> decide

/-- Moved so that the clock wraps between the two calls, the touch is refused. -/
theorem touch_lost_at_wrap :
    (run .empty heard_again).1 = [.place (some 0), .flag true] ∧
      (run .empty (shift_calls (0 - 1500) heard_again)).1 = [.place (some 0), .flag false] := by
  decide +kernel

end BrambleMesh.ClockWrap
