/-
The trust classes of the routing table: components/routing/routing.c.
-/
import BrambleMesh.Routing

namespace BrambleMesh.RouteClasses

open Routing Packed List

/-! ## One install -/

variable {table : RoutingTable} {dest next_hop : UInt32} {hop_count metric : UInt8}
  {state : RouteState} {source : RouteSource} {now_ms : UInt32} {i : ℕ} {old : RouteEntry}

inductive Installed (table : RoutingTable) (new : RouteEntry) : RoutingTable × Bool → Prop
  | refused : Installed table new (table, false)
  | replaced {i : ℕ} {old : RouteEntry} (hi : table[i]? = some old)
      (hdest : old.dest_addr = new.dest_addr)
      (hclass : old.source = .DISCOVERED → new.source = .DISCOVERED) :
      Installed table new (table.set i new, true)
  | appended (hnew : ∀ e ∈ table, e.dest_addr ≠ new.dest_addr)
      (hroom : table.length < MAX_ROUTES) : Installed table new (table ++ [new], true)
  | evicted {i : ℕ} {old : RouteEntry} (hnew : ∀ e ∈ table, e.dest_addr ≠ new.dest_addr)
      (hfull : MAX_ROUTES ≤ table.length) (hi : table[i]? = some old)
      (hclass : old.source = .DISCOVERED →
        new.source = .DISCOVERED ∧ ∀ e ∈ table, e.source = .DISCOVERED) :
      Installed table new (table.set i new, true)

lemma route_replaces_class (h : route_replaces old hop_count metric source = true)
    (hold : old.source = .DISCOVERED) : source = .DISCOVERED := by
  unfold route_replaces at h
  split_ifs at h with hsource
  · exact eq_of_beq h
  · rw [← hold]
    simpa using hsource

lemma route_evict_class (h : route_evict table source = some i) :
    ∃ old, table[i]? = some old ∧
      (old.source = .DISCOVERED → source = .DISCOVERED ∧ ∀ e ∈ table, e.source = .DISCOVERED) := by
  unfold route_evict at h
  rcases hv : route_victim table fun e => e.source == .BREADCRUMB with _ | k
  · rw [hv] at h
    split_ifs at h with hsource
    obtain ⟨old, hold, -⟩ := route_victim_some h
    refine ⟨old, hold, fun _ => ⟨?_, fun e he => ?_⟩⟩
    · cases source with
      | DISCOVERED => rfl
      | BREADCRUMB => exact absurd rfl hsource
    · have hclass := route_victim_none hv he
      cases hs : e.source with
      | DISCOVERED => rfl
      | BREADCRUMB => rw [hs] at hclass; cases hclass
  · rw [hv] at h
    obtain ⟨old, hold, hp⟩ := route_victim_some hv
    rw [← Option.some.inj h]
    refine ⟨old, hold, fun hdisc => ?_⟩
    rw [hdisc] at hp
    cases hp

lemma route_install_installed (table : RoutingTable) (dest next_hop : UInt32)
    (hop_count metric : UInt8) (state : RouteState) (source : RouteSource) (now_ms : UInt32) :
    Installed table (route_written dest next_hop hop_count metric state source now_ms)
      (route_install table dest next_hop hop_count metric state source now_ms) := by
  unfold route_install
  rcases hf : table.findIdx? fun e : RouteEntry => e.dest_addr == dest with _ | k
  · have hnew : ∀ e ∈ table, e.dest_addr ≠ dest := fun e he =>
      ne_of_beq_false (findIdx?_eq_none_iff.1 hf e he)
    split_ifs with hroom
    · exact .appended hnew hroom
    · rcases hv : route_evict table source with _ | k
      · exact .refused
      · obtain ⟨old, hold, hclass⟩ := route_evict_class hv
        exact .evicted hnew (Nat.not_lt.1 hroom) hold hclass
  · obtain ⟨hlt, hdest, -⟩ := findIdx?_eq_some_iff_getElem.1 hf
    dsimp only
    split_ifs with hrep
    · rw [getElem?_eq_getElem hlt, Option.map_some, Option.some.injEq] at hrep
      exact .replaced (getElem?_eq_getElem hlt) (eq_of_beq hdest) (route_replaces_class hrep)
    · exact .refused

section

variable {new : RouteEntry} {result : RoutingTable × Bool}

lemma Installed.unchanged (h : Installed table new result) (hresult : result.2 = false) :
    result.1 = table := by
  cases h with
  | refused => rfl
  | replaced => cases hresult
  | appended => cases hresult
  | evicted => cases hresult

lemma getElem?_set_of_class {j : ℕ} {e : RouteEntry} (hi : table[i]? = some old)
    (hj : table[j]? = some e) (hne : old.source ≠ e.source) :
    (table.set i new)[j]? = some e := by
  have hij : i ≠ j := by
    rintro rfl
    rw [hj] at hi
    exact hne (congrArg RouteEntry.source (Option.some.inj hi).symm)
  rw [getElem?_set_ne hij, hj]

lemma Installed.breadcrumb_keeps (h : Installed table new result)
    (hnew : new.source = .BREADCRUMB) {e : RouteEntry} (hi : table[i]? = some e)
    (he : e.source = .DISCOVERED) : result.1[i]? = some e := by
  cases h with
  | refused => exact hi
  | replaced hj _ hclass =>
    apply getElem?_set_of_class hj hi
    rw [he]
    intro hold
    rw [hnew] at hclass
    cases hclass hold
  | appended => exact List.getElem?_append_left (List.getElem?_eq_some_iff.1 hi).1 ▸ hi
  | evicted _ _ hj hclass =>
    apply getElem?_set_of_class hj hi
    rw [he]
    intro hold
    rw [hnew] at hclass
    cases (hclass hold).1

lemma Installed.discovered_evicts (h : Installed table new result)
    (hnew : ∀ e ∈ table, e.dest_addr ≠ new.dest_addr) {e : RouteEntry}
    (hi : table[i]? = some e) (he : e.source = .DISCOVERED) (hgone : result.1[i]? ≠ some e) :
    MAX_ROUTES ≤ table.length ∧ ∀ e ∈ table, e.source = .DISCOVERED := by
  cases h with
  | refused => exact absurd hi hgone
  | replaced hj hdest => exact absurd hdest (hnew _ (List.mem_of_getElem? hj))
  | appended =>
    exact absurd (List.getElem?_append_left (List.getElem?_eq_some_iff.1 hi).1 ▸ hi) hgone
  | @evicted j old _ hfull hj hclass =>
    refine ⟨hfull, (hclass ?_).2⟩
    by_contra hold
    exact hgone (getElem?_set_of_class hj hi (he ▸ hold))

end

lemma findIdx?_dest (h : (table.map RouteEntry.dest_addr).Nodup) (hi : table[i]? = some old) :
    (table.findIdx? fun e => e.dest_addr == old.dest_addr) = some i := by
  obtain ⟨hlt, rfl⟩ := List.getElem?_eq_some_iff.1 hi
  refine List.findIdx?_eq_some_iff_getElem.2 ⟨hlt, beq_self_eq_true _, fun j hj => ?_⟩
  intro heq
  have hsame := eq_of_beq heq
  rw [← List.getElem_map RouteEntry.dest_addr (h := by simp; omega),
    ← List.getElem_map RouteEntry.dest_addr (h := by simp; omega), h.getElem_inj_iff] at hsame
  omega

lemma discovered_replaces (h : (table.map RouteEntry.dest_addr).Nodup)
    (hi : table[i]? = some old) (hdest : old.dest_addr = dest) (hold : old.source = .BREADCRUMB) :
    route_install table dest next_hop hop_count metric state .DISCOVERED now_ms =
      (table.set i (route_written dest next_hop hop_count metric state .DISCOVERED now_ms),
        true) := by
  subst hdest
  have hrep : route_replaces old hop_count metric .DISCOVERED = true := by
    rw [route_replaces, hold]
    rfl
  unfold route_install
  rw [findIdx?_dest h hi]
  dsimp only
  rw [hi, Option.map_some, hrep, if_pos rfl]

/-! ## Whole histories -/

structure Distinct (table : RoutingTable) : Prop where
  nodup : (table.map RouteEntry.dest_addr).Nodup
  bounded : table.length ≤ MAX_ROUTES

lemma Distinct.installed {new : RouteEntry} {result : RoutingTable × Bool} (h : Distinct table)
    (hresult : Installed table new result) : Distinct result.1 := by
  have hfresh : (∀ e ∈ table, e.dest_addr ≠ new.dest_addr) →
      new.dest_addr ∉ table.map RouteEntry.dest_addr := by
    intro hnew hmem
    obtain ⟨e, he, hdest⟩ := List.mem_map.1 hmem
    exact hnew e he hdest
  cases hresult with
  | refused => exact h
  | @replaced i old hi hdest _ =>
    refine ⟨?_, by simpa using h.bounded⟩
    have hsame : (table.map RouteEntry.dest_addr).set i new.dest_addr =
        table.map RouteEntry.dest_addr := by
      obtain ⟨hlt, rfl⟩ := List.getElem?_eq_some_iff.1 hi
      rw [← hdest, ← List.getElem_map RouteEntry.dest_addr, List.set_getElem_self]
      simpa using hlt
    rw [List.map_set, hsame]
    exact h.nodup
  | appended hnew hroom =>
    refine ⟨?_, by simpa using hroom⟩
    rw [List.map_append, List.map_singleton]
    exact h.nodup.append (List.nodup_singleton _) (by simpa using hfresh hnew)
  | evicted hnew _ _ _ =>
    refine ⟨?_, by simpa using h.bounded⟩
    rw [List.map_set]
    exact h.nodup.set (hfresh hnew)

lemma Distinct.maintenance (h : Distinct table) (now_ms : UInt32) :
    Distinct (route_maintenance table now_ms) := by
  unfold route_maintenance
  have hkept := purge_perm (p := fun e : RouteEntry => now_ms - e.last_confirmed ≥ 3600000 ||
    (e.state == .STALE && now_ms - e.last_confirmed ≥ 600000)) table.length table le_rfl
  refine ⟨?_, ?_⟩
  · have hdest : ∀ l : RoutingTable, (l.map fun e : RouteEntry =>
        if e.state == .ACTIVE && now_ms - e.last_confirmed ≥ 300000 then
          { e with state := .STALE } else e).map RouteEntry.dest_addr =
        l.map RouteEntry.dest_addr := by
      intro l
      rw [map_map]
      apply map_congr_left
      intro e _
      rw [Function.comp_apply]
      split_ifs <;> rfl
    rw [hdest, (hkept.map _).nodup_iff]
    exact h.nodup.sublist (filter_sublist.map _)
  · rw [length_map, hkept.length_eq]
    exact (length_filter_le _ _).trans h.bounded

inductive Call
  | install (dest next_hop : UInt32) (hop_count metric : UInt8) (state : RouteState)
      (source : RouteSource) (now_ms : UInt32)
  | maintenance (now_ms : UInt32)
deriving DecidableEq, Repr

def call (table : RoutingTable) : Call → RoutingTable
  | .install dest next_hop hop_count metric state source now_ms =>
    (route_install table dest next_hop hop_count metric state source now_ms).1
  | .maintenance now_ms => route_maintenance table now_ms

lemma distinct_run (calls : List Call) : Distinct (calls.foldl call []) := by
  apply foldlRecOn
  · exact ⟨nodup_nil, Nat.zero_le _⟩
  · intro table h c _
    cases c with
    | install => exact h.installed (route_install_installed ..)
    | maintenance now_ms => exact h.maintenance now_ms

/-- **Breadcrumbs never displace discovered routes.**  In a table reached by any history of
installs and maintenance the destinations are distinct and the capacity is kept.  A breadcrumb
leaves every discovered route where it is, and everything if it is refused.  A discovered route
takes the place of a breadcrumb for its destination, and for a new destination that of a
discovered route only where the full table holds no breadcrumb. -/
theorem breadcrumb_never_displaces (calls : List Call) (dest next_hop : UInt32)
    (hop_count metric : UInt8) (state : RouteState) (now_ms : UInt32) :
    let table := calls.foldl call []
    let install := fun source =>
      route_install table dest next_hop hop_count metric state source now_ms
    ((table.map RouteEntry.dest_addr).Nodup ∧ table.length ≤ MAX_ROUTES) ∧
    ((∀ (i : ℕ) (e : RouteEntry), table[i]? = some e → e.source = .DISCOVERED →
        (install .BREADCRUMB).1[i]? = some e) ∧
      ((install .BREADCRUMB).2 = false → (install .BREADCRUMB).1 = table)) ∧
    (∀ (i : ℕ) (e : RouteEntry), table[i]? = some e → e.dest_addr = dest → e.source = .BREADCRUMB →
      install .DISCOVERED =
        (table.set i (route_written dest next_hop hop_count metric state .DISCOVERED now_ms),
          true)) ∧
    ((∀ e ∈ table, e.dest_addr ≠ dest) →
      ∀ (i : ℕ) (e : RouteEntry), table[i]? = some e → e.source = .DISCOVERED →
        (install .DISCOVERED).1[i]? ≠ some e →
        table.length = MAX_ROUTES ∧ ∀ e ∈ table, e.source = .DISCOVERED) := by
  intro table install
  have hd : Distinct table := distinct_run calls
  have hinst := fun source =>
    route_install_installed table dest next_hop hop_count metric state source now_ms
  refine ⟨⟨hd.nodup, hd.bounded⟩, ⟨?_, ?_⟩, ?_, ?_⟩
  · intro i e hi hsource
    exact (hinst .BREADCRUMB).breadcrumb_keeps rfl hi hsource
  · intro hrefused
    exact (hinst .BREADCRUMB).unchanged hrefused
  · intro i e hi hdest hsource
    exact discovered_replaces hd.nodup hi hdest hsource
  · intro hnew i e hi hsource hgone
    obtain ⟨hfull, hall⟩ := (hinst .DISCOVERED).discovered_evicts hnew hi hsource hgone
    exact ⟨le_antisymm hd.bounded hfull, hall⟩

end BrambleMesh.RouteClasses
