/-
What a step of the network can leave in a routing table: behind every discovered route there is a
reply that its owner has heard (`allHeard_step`).
-/
import BrambleMesh.MeshNet

namespace BrambleMesh.MeshRoutes

open Routing Discovery MeshNet

/-! ## One frame -/

def TakesPart (n : Node) (query_id : UInt32) : Prop :=
  (discovery_lookup_by_query n.pending_disc query_id).isSome ∨
    (reverse_route_lookup n.reverse_routes query_id).isSome
deriving Decidable

def offered (p : Rrep) (rx : Rx) : RouteEntry :=
  route_written p.src_addr p.next_hop p.hop_count
    (metric_apply_link_penalty p.route_metric rx.rssi rx.snr) .ACTIVE .DISCOVERED rx.now

lemma rrep_rx_decide_install (p : Rrep) (metric : UInt8) (n : Node) :
    let d := rrep_rx_decide p metric n.pending_disc n.reverse_routes
    (d.install_route ↔ TakesPart n p.query_id) ∧ d.route_hops = p.hop_count ∧
      d.route_metric = metric := by
  unfold rrep_rx_decide TakesPart
  split
  · next hpd => simp [hpd]
  · next hpd =>
    split
    · next hrev => simp [hrev]
    · next hrev => simp [hpd, hrev]

lemma handle_rrep_routes (mac : NetworkMac) (me : UInt32) (n : Node) (p : Rrep) (rx : Rx) :
    (handle_rrep mac me n p rx).1.routes =
      if passes mac me n (.rrep p) rx.now ∧ TakesPart n p.query_id then
        (route_install n.routes p.src_addr p.next_hop p.hop_count
          (metric_apply_link_penalty p.route_metric rx.rssi rx.snr) .ACTIVE .DISCOVERED rx.now).1
      else n.routes := by
  obtain ⟨hdest, hnext⟩ := rrep_rx_decide_route p
    (metric_apply_link_penalty p.route_metric rx.rssi rx.snr) n.pending_disc n.reverse_routes
  obtain ⟨hinst, hhops, hmetric⟩ := rrep_rx_decide_install p
    (metric_apply_link_penalty p.route_metric rx.rssi rx.snr) n
  have hpasses : passes mac me n (.rrep p) rx.now =
      (rrep_verify mac p && (control_replay_ok n p.src_addr p.seq rx.now).1) := by
    unfold passes checked
    by_cases hv : rrep_verify mac p
    · simp [hv]
    · simp [hv]
  rw [hpasses]
  unfold handle_rrep
  dsimp only
  rcases hv : rrep_verify mac p with _ | _
  · simp
  · rcases hok : (control_replay_ok n p.src_addr p.seq rx.now).1 with _ | _
    · simp [control_replay_ok]
    · dsimp only [control_replay_ok] at hinst ⊢
      simp only [Bool.not_true, Bool.false_eq_true, if_false, Bool.and_self, true_and, hinst, hdest,
        hnext, hhops, hmetric]
      -- whatever is done with the reply, the table is that of the installation
      by_cases hpart : TakesPart n p.query_id
      · rw [if_pos hpart, if_pos hpart]
        split <;> rfl
      · rw [if_neg hpart, if_neg hpart]
        split <;> rfl

variable {rx : Rx} {e : RouteEntry} {mac : NetworkMac} {adj : UInt32 → UInt32 → Bool} {s : Net}
  {r : UInt32}

lemma handle_rreq_routes {me : UInt32} {n : Node} {rreq : Rreq}
    (h : e ∈ (handle_rreq mac me n rreq rx).1.routes) :
    e ∈ n.routes ∨ e.source = .BREADCRUMB := by
  have houtcome := handle_rreq_outcome mac me n rreq rx
  generalize handle_rreq mac me n rreq rx = out at h houtcome
  match houtcome with
  | .seen _ => exact .inl h
  | .dropped _ => exact .inl h
  | .replied _ _ _ =>
    rcases mem_route_install h with hold | rfl
    · exact .inl hold
    · exact .inr rfl
  | .queued _ _ => exact .inl h
  | .passed _ _ => exact .inl h

/-! ## One step -/

def hearing (adj : UInt32 → UInt32 → Bool) (s : Net) :
    Event → Option (UInt32 × Transmission × Rx)
  | .deliver k r rx =>
    match s.air[k]? with
    | none => none
    | some t => if adj t.sender r && t.sender != r then some (r, t, rx) else none
  | _ => none

lemma step_of_hearing (mac : NetworkMac) {ev : Event} {t : Transmission}
    (h : hearing adj s ev = some (r, t, rx)) :
    t ∈ s.air ∧ adj t.sender r ∧ t.sender ≠ r ∧ step mac adj s ev = s.hear mac t r rx := by
  match ev with
  | .deliver k r' rx' =>
    rcases ht' : s.air[k]? with _ | t'
    · simp only [hearing, ht'] at h
      cases h
    · simp only [hearing, ht'] at h
      split_ifs at h with hadj
      · obtain ⟨rfl, rfl, rfl⟩ : r' = r ∧ t' = t ∧ rx' = rx := by simpa using h
        simp only [step, ht']
        rw [if_pos hadj]
        rw [Bool.and_eq_true, bne_iff_ne] at hadj
        exact ⟨List.mem_of_getElem? ht', hadj.1, hadj.2, rfl⟩

lemma step_of_silence {k : ℕ} (h : hearing adj s (.deliver k r rx) = none) :
    step mac adj s (.deliver k r rx) = s := by
  rcases ht : s.air[k]? with _ | t
  · simp only [step, ht]
  · simp only [hearing, ht] at h
    split_ifs at h with hadj
    · simp only [step, ht]
      rw [if_neg hadj]

inductive Origin (mac : NetworkMac) (adj : UInt32 → UInt32 → Bool) (s : Net) (ev : Event)
    (n : UInt32) (e : RouteEntry) : Prop
  | kept (e₀ : RouteEntry) (he₀ : e₀ ∈ (s.nodes n).routes) (haged : Aged e₀ e)
  | hint (hsource : e.source = .BREADCRUMB)
  | reply (t : Transmission) (p : Rrep) (rx : Rx) (hheard : hearing adj s ev = some (n, t, rx))
      (hframe : t.frame = .rrep p)
      (hpasses : passes mac n (s.nodes n) (.rrep p) rx.now)
      (hpart : TakesPart (s.nodes n) p.query_id) (he : e = offered p rx)

lemma handle_routes {k : ℕ} {t : Transmission} (ht : s.air[k]? = some t)
    (hadj : (adj t.sender r && t.sender != r))
    (h : e ∈ (handle mac r (s.nodes r) t.frame rx).1.routes) :
    Origin mac adj s (.deliver k r rx) r e := by
  match hf : t.frame with
  | .rreq q =>
    rw [hf] at h
    rcases handle_rreq_routes h with hold | hhint
    · exact .kept e hold (aged_refl e)
    · exact .hint hhint
  | .rrep p =>
    rw [hf, handle, handle_rrep_routes] at h
    split_ifs at h with hrec
    · rcases mem_route_install h with hold | hnew
      · exact .kept e hold (aged_refl e)
      · exact .reply t p rx (by simp [hearing, ht, hadj]) hf hrec.1 hrec.2 hnew
    · exact .kept e h (aged_refl e)
  | .control c =>
    rw [hf] at h
    have hroutes : (handle mac r (s.nodes r) (.control c) rx).1.routes = (s.nodes r).routes := by
      unfold handle handle_control
      dsimp only [control_replay_ok]
      split_ifs <;> rfl
    rw [hroutes] at h
    exact .kept e h (aged_refl e)

/-- **What a step leaves in a routing table.** -/
theorem step_routes {ev : Event} {n : UInt32} (h : e ∈ ((step mac adj s ev).nodes n).routes) :
    Origin mac adj s ev n e := by
  have hkept : e ∈ (s.nodes n).routes → Origin mac adj s ev n e :=
    fun hold => .kept e hold (aged_refl e)
  -- an event at one node, and one there that leaves its table alone
  have hat : ∀ (m : UInt32) (node : Node), e ∈ ((s.set_node m node).nodes n).routes →
      (n = m → e ∈ node.routes → Origin mac adj s ev n e) → Origin mac adj s ev n e := by
    intro m node h hnode
    by_cases hn : n = m
    · subst hn
      rw [Net.set_node_self] at h
      exact hnode rfl h
    · rw [Net.set_node_ne s node hn] at h
      exact hkept h
  have hsame : ∀ (m : UInt32) (node : Node), e ∈ ((s.set_node m node).nodes n).routes →
      node.routes = (s.nodes m).routes → Origin mac adj s ev n e := by
    intro m node h hroutes
    refine hat m node h ?_
    rintro rfl he
    exact hkept (hroutes ▸ he)
  match ev with
  | .discover m dest query encrypted_source now => exact hsame m _ h rfl
  | .retry m .. | .flush m _ =>
    unfold step at h
    dsimp only at h
    split at h
    · exact hkept h
    · exact hsame m _ h rfl
  | .originate m kind draw =>
    unfold step control_seq_next at h
    dsimp only at h
    split_ifs at h
    · exact hsame m _ h rfl
    · exact hkept h
  | .breadcrumb m dest next_hop hop_count metric now =>
    refine hat m _ h ?_
    rintro rfl he
    rcases mem_route_install he with hold | rfl
    · exact hkept hold
    · exact .hint rfl
  | .maintain m now =>
    refine hat m _ h ?_
    rintro rfl he
    obtain ⟨e₀, he₀, haged⟩ := mem_route_maintenance he
    exact .kept e₀ he₀ haged
  | .broken m broken_dest broken_next_hop =>
    refine hat m _ h ?_
    rintro rfl he
    obtain ⟨e₀, he₀, haged⟩ := mem_rerr_handle he
    exact .kept e₀ he₀ haged
  | .deliver k r rx =>
    unfold step at h
    dsimp only at h
    split at h
    · exact hkept h
    · next t ht =>
      split_ifs at h with hadj
      · refine hat r _ h ?_
        rintro rfl he
        exact handle_routes ht hadj he
      · exact hkept h

/-! ## Routes and what was heard -/

def HeardOf (s : Net) (n : UInt32) (e : RouteEntry) : Prop :=
  ∃ h ∈ s.heard, h.receiver = n ∧ ∃ p, h.transmission.frame = .rrep p ∧
    e.dest_addr = p.src_addr ∧ e.next_hop = p.next_hop ∧ e.hop_count = p.hop_count

lemma heard_step (mac : NetworkMac) (adj : UInt32 → UInt32 → Bool) (s : Net) (ev : Event) :
    (∀ h ∈ s.heard, h ∈ (step mac adj s ev).heard) ∧
      ∀ h ∈ (step mac adj s ev).heard, h ∈ s.heard ∨ h.transmission ∈ s.air := by
  rcases step_cases mac adj s ev with ⟨n, n', outs, -, hstep⟩ | ⟨k, t, r, rx, -, ht, -, -, hstep⟩
  · rw [hstep]
    exact ⟨fun h hh => hh, fun h hh => .inl hh⟩
  · rw [hstep]
    refine ⟨fun h hh => List.mem_cons_of_mem _ hh, fun h hh => ?_⟩
    rcases List.mem_cons.1 hh with rfl | hold
    · exact .inr (List.mem_of_getElem? ht)
    · exact .inl hold

def AllHeard (s : Net) : Prop :=
  ∀ n, ∀ e ∈ (s.nodes n).routes, e.source = .DISCOVERED → HeardOf s n e

lemma allHeard_start : AllHeard .start := by
  intro n e he
  cases he

lemma allHeard_step (mac : NetworkMac) (adj : UInt32 → UInt32 → Bool) (hs : AllHeard s)
    (ev : Event) : AllHeard (step mac adj s ev) := by
  intro n e he hsource
  match step_routes he with
  | .kept e₀ he₀ haged =>
    obtain ⟨h, hh, hr, p, hp, hdest, hnext, hhops⟩ := hs n e₀ he₀ (haged.source ▸ hsource)
    exact ⟨h, (heard_step mac adj s ev).1 h hh, hr, p, hp, haged.dest_addr ▸ hdest,
      haged.next_hop ▸ hnext, haged.hop_count ▸ hhops⟩
  | .hint hhint =>
    rw [hhint] at hsource
    cases hsource
  | .reply t p rx hheard hframe _ _ hnew =>
    rw [(step_of_hearing mac hheard).2.2.2, hnew]
    exact ⟨_, List.mem_cons_self, rfl, p, hframe, rfl, rfl, rfl⟩

end BrambleMesh.MeshRoutes
