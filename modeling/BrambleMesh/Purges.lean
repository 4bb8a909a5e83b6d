/-
What the purges of the packed tables leave: components/routing/routing.c,
components/location/location.c.
-/
import BrambleMesh.ClockWrap

namespace BrambleMesh.Purges

open Routing ClockWrap Packed

abbrev LOCATION_CACHE_TTL_MS : UInt32 := 3600000

structure LocationCacheEntry (Position : Type) where
  peer_addr : UInt32
  pos : Position
  received_ms : UInt32
  active : Bool
  age_known : Bool

def location_cache_purge {Position : Type} (cache : List (LocationCacheEntry Position))
    (now_ms : UInt32) : List (LocationCacheEntry Position) :=
  purge (fun e => e.age_known && now_ms - e.received_ms > LOCATION_CACHE_TTL_MS) cache.length 0
    cache

def route_maintenance_loop (table : RoutingTable) (now_ms : UInt32) : RoutingTable :=
  sweep
    (fun e => now_ms - e.last_confirmed ≥ 3600000 ||
      (e.state == .STALE && now_ms - e.last_confirmed ≥ 600000))
    (fun e =>
      if e.state == .ACTIVE && now_ms - e.last_confirmed ≥ 300000 then { e with state := .STALE }
      else e)
    table.length 0 table

lemma route_maintenance_loop_eq (table : RoutingTable) (now_ms : UInt32) :
    route_maintenance_loop table now_ms = route_maintenance table now_ms :=
  sweep_eq_map_purge _ _ le_rfl

structure Leaves {α : Type} (expired : α → Bool) (mark : α → α) (before after : List α) : Prop where
  entries : after.Perm ((before.filter fun e => !expired e).map mark)
  count : after.length = before.countP fun e => !expired e

lemma leaves_of_perm {α : Type} {expired : α → Bool} {mark : α → α} {before after : List α}
    (h : after.Perm ((before.filter fun e => !expired e).map mark)) :
    Leaves expired mark before after := by
  refine ⟨h, ?_⟩
  rw [h.length_eq, List.length_map, ← List.countP_eq_length_filter]

lemma purge_leaves {α : Type} (expired : α → Bool) (l : List α) :
    Leaves expired id l (purge expired l.length 0 l) := by
  apply leaves_of_perm
  rw [List.map_id]
  exact purge_perm _ l le_rfl

/-- **Purges remove exactly the expired.**  Of whatever the tables hold, at any time, each purge
leaves what does not meet its own test, unchanged but for the routes that go stale. -/
theorem purges_leave_unexpired {Position : Type} (now_ms query_id : UInt32)
    (neighbors : List Neighbor) (reverse : List ReverseRoute) (seen : List RreqSeen)
    (routes : RoutingTable) (cache : List (LocationCacheEntry Position)) :
    Leaves (fun e => now_ms - e.last_heard ≥ 600000) id neighbors
      (neighbor_purge neighbors now_ms) ∧
    Leaves (fun e => now_ms - e.timestamp ≥ 60000) id reverse
      (reverse_route_purge reverse now_ms) ∧
    (∃ kept, Leaves (fun e => now_ms - e.timestamp ≥ 30000) id seen kept ∧
      (rreq_dedup_check_and_add seen query_id now_ms = (true, kept) ∨
        rreq_dedup_check_and_add seen query_id now_ms = (false, kept) ∨
        rreq_dedup_check_and_add seen query_id now_ms = (false, kept ++ [⟨query_id, now_ms⟩]))) ∧
    Leaves
      (fun e => now_ms - e.last_confirmed ≥ 3600000 ||
        (e.state == .STALE && now_ms - e.last_confirmed ≥ 600000))
      (fun e =>
        if e.state == .ACTIVE && now_ms - e.last_confirmed ≥ 300000 then { e with state := .STALE }
        else e)
      routes (route_maintenance_loop routes now_ms) ∧
    Leaves (fun e => e.age_known && now_ms - e.received_ms > 3600000) id cache
      (location_cache_purge cache now_ms) := by
  refine ⟨purge_leaves _ _, purge_leaves _ _, ⟨_, purge_leaves _ _, ?_⟩, ?_, purge_leaves _ _⟩
  · unfold rreq_dedup_check_and_add
    dsimp only
    split_ifs
    · exact Or.inl rfl
    · exact Or.inr (Or.inr rfl)
    · exact Or.inr (Or.inl rfl)
  · apply leaves_of_perm
    rw [route_maintenance_loop_eq]
    exact (purge_perm _ routes le_rfl).map _

end BrambleMesh.Purges
