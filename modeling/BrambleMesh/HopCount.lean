/-
What the hop count of a discovered route counts: the links that the request travelled, on top of
the hop count of the route it was answered from.
-/
import BrambleMesh.MeshRoutes

namespace BrambleMesh.HopCount

open Routing Discovery MeshNet MeshRoutes List

/-! ## What a handler puts on the air -/

inductive Sends (me : UInt32) (n : Node) (f : Frame) (rx : Rx) : Sent → Prop
  | request (q : Rreq) (hf : f = .rreq q) (hlimit : q.hop_limit > 1) :
      Sends me n f rx ⟨.rreq (rreq_forward q me rx.rssi rx.snr), true⟩
  | answer (q : Rreq) (p : Rrep) (hf : f = .rreq q) (hquery : p.query_id = q.query_id)
      (hsrc : p.src_addr = me) (hhops : p.hop_count = hop_inc_sat q.hop_count) :
      Sends me n f rx ⟨.rrep p, false⟩
  | cached (q : Rreq) (p : Rrep) (c : RouteEntry) (hf : f = .rreq q)
      (hc : route_lookup n.routes q.dest_addr = some c) (hsource : c.source = .DISCOVERED)
      (hquery : p.query_id = q.query_id) (hsrc : p.src_addr = c.dest_addr)
      (hother : p.src_addr ≠ me)
      (hhops : p.hop_count = hop_add_sat (hop_inc_sat q.hop_count) c.hop_count) :
      Sends me n f rx ⟨.rrep p, false⟩
  | reply (p : Rrep) (next_hop_back : UInt32) (hf : f = .rrep p) :
      Sends me n f rx ⟨.rrep (rrep_forward p next_hop_back me), true⟩
  | control (c : Control) : Sends me n f rx ⟨.control c, true⟩

structure Conveys (me : UInt32) (n : Node) (f : Frame) (rx : Rx) (out : Node × List Sent) :
    Prop where
  queue : ∀ q' ∈ out.1.rreq_fwd_queue, q' ∈ n.rreq_fwd_queue ∨
    ∃ q, f = .rreq q ∧ q.hop_limit > 1 ∧ q' = rreq_forward q me rx.rssi rx.snr
  sends : ∀ o ∈ out.2, Sends me n f rx o

variable {me r : UInt32} {n m : Node} {rx : Rx} {q : Rreq} {t : Transmission}

lemma conveys_silent {f : Frame} {out : Node × List Sent}
    (hqueue : out.1.rreq_fwd_queue = n.rreq_fwd_queue) (hout : out.2 = []) :
    Conveys me n f rx out :=
  ⟨fun _ hq => Or.inl (hqueue ▸ hq), by simp [hout]⟩

lemma conveys_sending {f : Frame} {out : Node × List Sent} {o : Sent}
    (hqueue : out.1.rreq_fwd_queue = n.rreq_fwd_queue) (hout : out.2 = [o])
    (ho : Sends me n f rx o) : Conveys me n f rx out :=
  ⟨fun _ hq => Or.inl (hqueue ▸ hq), by simpa [hout] using ho⟩

lemma sends_reply {rreq : Rreq} {p : Rrep} (hp : Replies me m rreq p)
    (hroutes : m.routes = n.routes) :
    Sends me n (.rreq rreq) rx ⟨.rrep p, false⟩ := by
  match hp with
  | .destination hquery hsrc hhops _ => exact .answer rreq p rfl hquery hsrc hhops
  | .intermediate c hquery hsrc hother _ hcached hsource hhops =>
    rw [hroutes] at hcached
    exact .cached rreq p c rfl hcached hsource hquery hsrc hother hhops

lemma handle_conveys (mac : NetworkMac) (me : UInt32) (n : Node) (f : Frame) (rx : Rx) :
    Conveys me n f rx (handle mac me n f rx) := by
  match f with
  | .rreq q =>
    have houtcome := handle_rreq_outcome mac me n q rx
    unfold handle
    dsimp only
    generalize handle_rreq mac me n q rx = out at houtcome ⊢
    match houtcome with
    | .seen _ => exact conveys_silent rfl rfl
    | .dropped _ => exact conveys_silent rfl rfl
    | .replied _ p hp => exact conveys_sending rfl rfl (sends_reply hp rfl)
    | .queued _ hlimit =>
      refine ⟨?_, by simp⟩
      intro q' hq'
      rcases mem_append.1 hq' with hold | hnew
      · exact .inl hold
      · exact .inr ⟨q, rfl, hlimit, mem_singleton.1 hnew⟩
    | .passed _ hlimit => exact conveys_sending rfl rfl (.request q rfl hlimit)
  | .rrep p =>
    unfold handle handle_rrep
    dsimp only [control_replay_ok]
    split_ifs
    · exact conveys_silent rfl rfl
    · exact conveys_silent rfl rfl
    · split
      · exact conveys_silent rfl rfl
      · exact conveys_sending rfl rfl (.reply p _ rfl)
      · exact conveys_silent rfl rfl
    · split
      · exact conveys_silent rfl rfl
      · exact conveys_sending rfl rfl (.reply p _ rfl)
      · exact conveys_silent rfl rfl
  | .control c =>
    unfold handle handle_control
    dsimp only [control_replay_ok]
    split_ifs
    · exact conveys_silent rfl rfl
    · exact conveys_sending rfl rfl (.control c)
    · exact conveys_silent rfl rfl

/-! ## The way of a request -/

inductive Travelled (adj : UInt32 → UInt32 → Bool) (air : List Transmission) (query o : UInt32) :
    UInt32 → ℕ → Prop
  | start (t : Transmission) (q : Rreq) (ht : t ∈ air) (hown : t.relayed = false)
      (hf : t.frame = .rreq q) (hquery : q.query_id = query) (hcount : q.hop_count = 0)
      (hsender : t.sender = o) : Travelled adj air query o o 0
  | link (t : Transmission) (q : Rreq) {k : ℕ} {b : UInt32} (ht : t ∈ air)
      (hf : t.frame = .rreq q) (hquery : q.query_id = query) (hcount : q.hop_count.toNat = k)
      (hway : Travelled adj air query o t.sender k) (hadj : adj t.sender b) :
      Travelled adj air query o b (k + 1)

lemma Travelled.mono {adj : UInt32 → UInt32 → Bool} {air air' : List Transmission}
    {query o n : UInt32} {k : ℕ} (hair : ∀ t ∈ air, t ∈ air') (h : Travelled adj air query o n k) :
    Travelled adj air' query o n k := by
  induction h with
  | start t q ht hown hf hquery hcount hsender =>
    exact .start t q (hair t ht) hown hf hquery hcount hsender
  | link t q ht hf hquery hcount _ hadj ih => exact .link t q (hair t ht) hf hquery hcount ih hadj

variable (adj : UInt32 → UInt32 → Bool)

def OnItsWay (air : List Transmission) (n : UInt32) (q : Rreq) :
    Prop :=
  (∃ o, Travelled adj air q.query_id o n q.hop_count.toNat) ∧
    q.hop_count.toNat + q.hop_limit.toNat ≤ 8

def HasHeard (s : Net) (n dest : UInt32) (hop_count : UInt8) : Prop :=
  ∃ h ∈ s.heard, h.receiver = n ∧
    ∃ p, h.transmission.frame = .rrep p ∧ p.src_addr = dest ∧ p.hop_count = hop_count

def Counted (s : Net) (p : Rrep) : Prop :=
  ∃ o a k, Travelled adj s.air p.query_id o a k ∧
    (a = p.src_addr ∧ p.hop_count.toNat = k ∨
      a ≠ p.src_addr ∧ ∃ c, HasHeard s a p.src_addr c ∧ p.hop_count.toNat = k + c.toNat)

def FrameCounts (s : Net) (t : Transmission) : Prop :=
  match t.frame with
  | .rreq q => OnItsWay adj s.air t.sender q
  | .rrep p => Counted adj s p
  | .control _ => True

structure Inv (s : Net) : Prop where
  air : ∀ t ∈ s.air, FrameCounts adj s t
  queue : ∀ n, ∀ q ∈ (s.nodes n).rreq_fwd_queue, OnItsWay adj s.air n q
  heard : ∀ h ∈ s.heard, h.transmission ∈ s.air
  routes : AllHeard s

/-! ## A network only learns -/

structure Extends (s s' : Net) : Prop where
  air : ∀ t ∈ s.air, t ∈ s'.air
  heard : ∀ h ∈ s.heard, h ∈ s'.heard

variable {adj : UInt32 → UInt32 → Bool} {s s' : Net} {n : UInt32}

lemma extends_send (s : Net) (n drawer : UInt32) (m : Node) (outs : List Sent) :
    Extends s ((s.set_node n m).send n drawer outs) :=
  ⟨fun _ hx => mem_append_left _ hx, fun _ hx => hx⟩

lemma OnItsWay.mono (hs : Extends s s') (h : OnItsWay adj s.air n q) :
    OnItsWay adj s'.air n q := by
  obtain ⟨⟨o, ho⟩, hlimit⟩ := h
  exact ⟨⟨o, ho.mono hs.air⟩, hlimit⟩

lemma Counted.mono {p : Rrep} (hs : Extends s s') (h : Counted adj s p) : Counted adj s' p := by
  obtain ⟨o, a, k, hway, hcount⟩ := h
  refine ⟨o, a, k, hway.mono hs.air, hcount.imp_right ?_⟩
  rintro ⟨hne, c, ⟨x, hx, hrest⟩, hsum⟩
  exact ⟨hne, c, ⟨x, hs.heard x hx, hrest⟩, hsum⟩

lemma FrameCounts.mono (hs : Extends s s') (h : FrameCounts adj s t) :
    FrameCounts adj s' t := by
  unfold FrameCounts at h ⊢
  split
  · next q hf =>
    rw [hf] at h
    exact OnItsWay.mono hs h
  · next p hf =>
    rw [hf] at h
    exact Counted.mono hs h
  · trivial

/-! ## Hop counts along a request -/

lemma toNat_hop_inc_sat {c : UInt8} (h : c.toNat < 255) :
    (hop_inc_sat c).toNat = c.toNat + 1 := by
  have hlt : ¬ c ≥ 255 := by simpa [UInt8.le_iff_toNat_le] using h
  rw [hop_inc_sat, if_neg hlt, UInt8.toNat_add]
  simp
  omega

lemma toNat_hop_add_sat {a b : UInt8} (h : a.toNat + b.toNat ≤ 255) :
    (hop_add_sat a b).toNat = a.toNat + b.toNat := by
  have hsum : (a.toUInt16 + b.toUInt16).toNat = a.toNat + b.toNat := by
    rw [UInt16.toNat_add]
    simp
    omega
  have hle : ¬ a.toUInt16 + b.toUInt16 > 255 := by
    simpa [UInt16.lt_iff_toNat_lt, hsum] using h
  unfold hop_add_sat
  rw [if_neg hle, UInt16.toNat_toUInt8, hsum]
  omega

lemma travelled_heard (ht : t ∈ s.air) (hf : t.frame = .rreq q)
    (hway : OnItsWay adj s.air t.sender q) (hadj : adj t.sender r) :
    ∃ o, Travelled adj s.air q.query_id o r (hop_inc_sat q.hop_count).toNat := by
  obtain ⟨⟨o, ho⟩, hlimit⟩ := hway
  refine ⟨o, ?_⟩
  rw [toNat_hop_inc_sat (by omega)]
  exact .link t q ht hf rfl rfl ho hadj

lemma onItsWay_forward {rssi snr : Int8} (ht : t ∈ s.air) (hf : t.frame = .rreq q)
    (hway : OnItsWay adj s.air t.sender q) (hadj : adj t.sender r)
    (hlimit : q.hop_limit > 1) :
    OnItsWay adj s.air r (rreq_forward q r rssi snr) := by
  refine ⟨travelled_heard ht hf hway hadj, ?_⟩
  have hle := hway.2
  have hpos : 1 < q.hop_limit.toNat := by simpa [UInt8.lt_iff_toNat_lt] using hlimit
  have hcount := toNat_hop_inc_sat (c := q.hop_count) (by omega)
  have hless : (q.hop_limit - 1).toNat = q.hop_limit.toNat - 1 :=
    UInt8.toNat_sub_of_le _ _ (by simp [UInt8.le_iff_toNat_le]; omega)
  unfold rreq_forward
  dsimp only
  omega

/-! ## Every step -/

def RouteFits (s : Net) (r : UInt32) : Frame → Prop
  | .rreq q => ∀ c ∈ route_lookup (s.nodes r).routes q.dest_addr,
      q.hop_count.toNat + 1 + c.hop_count.toNat ≤ 255
  | _ => True

def Unsaturated (adj : UInt32 → UInt32 → Bool) (s : Net) (ev : Event) : Prop :=
  ∀ x ∈ hearing adj s ev, RouteFits s x.1 x.2.1.frame

instance (s : Net) (r : UInt32) (f : Frame) : Decidable (RouteFits s r f) := by
  cases f <;> unfold RouteFits <;> infer_instance

instance (adj : UInt32 → UInt32 → Bool) (s : Net) (ev : Event) :
    Decidable (Unsaturated adj s ev) :=
  inferInstanceAs (Decidable (∀ x ∈ hearing adj s ev, _))

lemma inv_send {drawer : UInt32} {outs : List Sent} (h : Inv adj s) (hext : Extends s s')
    (hair : s'.air = ((s.set_node n m).send n drawer outs).air)
    (hnodes : s'.nodes = (s.set_node n m).nodes)
    (hheard : ∀ x ∈ s'.heard, x ∈ s.heard ∨ x.transmission ∈ s.air)
    (hqueue : ∀ q ∈ m.rreq_fwd_queue, OnItsWay adj s'.air n q)
    (houts : ∀ o ∈ outs, FrameCounts adj s' ⟨n, if o.relayed then drawer else n, o.relayed,
      o.frame⟩) (hroutes : AllHeard s') : Inv adj s' := by
  refine ⟨?_, ?_, ?_, hroutes⟩
  · intro t ht
    rw [hair] at ht
    rcases mem_air_send ht with hold | ⟨o, ho, rfl⟩
    · exact (h.air t hold).mono hext
    · exact houts o ho
  · intro i q hq
    rw [hnodes] at hq
    by_cases hi : i = n
    · subst hi
      rw [Net.set_node_self] at hq
      exact hqueue q hq
    · rw [Net.set_node_ne s m hi] at hq
      exact (h.queue i q hq).mono hext
  · intro x hx
    rcases hheard x hx with hold | hnew
    · exact hext.air _ (h.heard x hold)
    · exact hext.air _ hnew

lemma inv_hear {mac : NetworkMac} (h : Inv adj s) (ht : t ∈ s.air)
    (hadj : adj t.sender r) (hroutes : AllHeard (s.hear mac t r rx))
    (hsat : RouteFits s r t.frame) : Inv adj (s.hear mac t r rx) := by
  have hext : Extends s (s.hear mac t r rx) :=
    ⟨fun x hx => mem_append_left _ hx, fun x hx => mem_cons_of_mem _ hx⟩
  obtain ⟨hqueue, hsends⟩ := handle_conveys mac r (s.nodes r) t.frame rx
  have hframe := h.air t ht
  refine inv_send h hext rfl rfl ?_ ?_ ?_ hroutes
  · intro x hx
    rcases mem_cons.1 hx with rfl | hold
    · exact .inr ht
    · exact .inl hold
  · intro q' hq'
    rcases hqueue q' hq' with hold | ⟨q, hf, hlimit, rfl⟩
    · exact (h.queue r q' hold).mono hext
    · unfold FrameCounts at hframe
      rw [hf] at hframe
      exact (onItsWay_forward ht hf hframe hadj hlimit).mono hext
  · intro o ho
    unfold FrameCounts at hframe
    match o, hsends o ho with
    | _, .request q hf hlimit =>
      rw [hf] at hframe
      exact (onItsWay_forward ht hf hframe hadj hlimit).mono hext
    | _, .answer q p hf hquery hsrc hhops =>
      -- the destination has the request over as many links as it puts into its answer
      rw [hf] at hframe
      obtain ⟨o, hway⟩ := travelled_heard ht hf hframe hadj
      refine Counted.mono hext ⟨o, r, _, hquery ▸ hway, .inl ⟨hsrc.symm, ?_⟩⟩
      rw [hhops]
    | _, .cached q p c hf hc hsource hquery hsrc hother hhops =>
      -- the route it answers from goes back to a reply that it has heard
      rw [hf] at hframe hsat
      have hle := hframe.2
      have hsum := hsat c hc
      have hinc := toNat_hop_inc_sat (c := q.hop_count) (by omega)
      obtain ⟨o, hway⟩ := travelled_heard ht hf hframe hadj
      obtain ⟨x, hx, hr, p', hp', hdest, -, hcount⟩ :=
        h.routes r c (mem_of_find?_eq_some hc) hsource
      refine Counted.mono hext ⟨o, r, _, hquery ▸ hway, .inr ⟨hother.symm, c.hop_count, ?_, ?_⟩⟩
      · exact ⟨x, hx, hr, p', hp', by rw [hsrc, hdest], hcount.symm⟩
      · rw [hhops, toNat_hop_add_sat (by omega)]
    | _, .reply p back hf =>
      rw [hf] at hframe
      exact Counted.mono hext hframe
    | _, .control c => trivial

lemma inv_act {outs : List Sent} (h : Inv adj s)
    (hroutes : AllHeard ((s.set_node n m).send n n outs))
    (hqueue : ∀ q ∈ m.rreq_fwd_queue, q ∈ (s.nodes n).rreq_fwd_queue)
    (houts : ∀ o ∈ outs, FrameCounts adj ((s.set_node n m).send n n outs) ⟨n, n, o.relayed,
      o.frame⟩) :
    Inv adj ((s.set_node n m).send n n outs) := by
  have hext := extends_send s n n m outs
  refine inv_send h hext rfl rfl (fun x hx => .inl hx) ?_ ?_ hroutes
  · exact fun q hq => (h.queue n q (hqueue q hq)).mono hext
  · intro o ho
    rw [ite_self]
    exact houts o ho

lemma inv_silent (h : Inv adj s) (hroutes : AllHeard (s.set_node n m))
    (hqueue : m.rreq_fwd_queue = (s.nodes n).rreq_fwd_queue) : Inv adj (s.set_node n m) := by
  have hnone : (s.set_node n m).send n n [] = s.set_node n m := by simp [Net.send]
  rw [← hnone] at hroutes ⊢
  exact inv_act h hroutes (fun q hq => hqueue ▸ hq) (by simp)

lemma inv_originate (h : Inv adj s)
    (hroutes : AllHeard ((s.set_node n m).send n n [⟨.rreq q, false⟩]))
    (hqueue : m.rreq_fwd_queue = (s.nodes n).rreq_fwd_queue) (hcount : q.hop_count = 0)
    (hlimit : q.hop_limit ≤ 8) : Inv adj ((s.set_node n m).send n n [⟨.rreq q, false⟩]) := by
  refine inv_act h hroutes (fun q' hq' => hqueue ▸ hq') ?_
  intro o ho
  rw [mem_singleton.1 ho]
  have hair : (⟨n, n, false, .rreq q⟩ : Transmission) ∈
      ((s.set_node n m).send n n [⟨.rreq q, false⟩]).air := by simp [Net.send]
  unfold FrameCounts OnItsWay
  dsimp only
  rw [hcount]
  refine ⟨⟨n, .start _ q hair rfl rfl rfl hcount rfl⟩, ?_⟩
  simpa [UInt8.le_iff_toNat_le] using hlimit

lemma discovery_hop_limit_le (attempt : UInt8) : discovery_hop_limit_for_attempt attempt ≤ 8 := by
  unfold discovery_hop_limit_for_attempt
  split_ifs <;> decide

lemma inv_step {mac : NetworkMac} {ev : Event} (h : Inv adj s) (hsat : Unsaturated adj s ev) :
    Inv adj (step mac adj s ev) := by
  have hroutes := allHeard_step mac adj h.routes ev
  match ev with
  | .discover n dest query encrypted_source now =>
    exact inv_originate h hroutes rfl rfl (discovery_hop_limit_le 1)
  | .retry n i query encrypted_source now =>
    rcases hpd : (s.nodes n).pending_disc[i]? with _ | pd
    · simpa only [step, hpd] using h
    · simp only [step, hpd] at hroutes ⊢
      exact inv_originate h hroutes rfl rfl (discovery_hop_limit_le _)
  | .flush n i =>
    rcases hq : (s.nodes n).rreq_fwd_queue[i]? with _ | q
    · simpa only [step, hq] using h
    · simp only [step, hq] at hroutes ⊢
      refine inv_act h hroutes (fun q' hq' => mem_of_mem_eraseIdx hq') ?_
      intro o ho
      rw [mem_singleton.1 ho]
      exact (h.queue n q (mem_of_getElem? hq)).mono (extends_send s n n _ _)
  | .originate n kind draw =>
    rcases hdraw : control_seq_next (s.nodes n) draw with _ | ⟨seq, m⟩
    · simpa only [step, hdraw] using h
    · simp only [step, hdraw] at hroutes ⊢
      rw [control_seq_next_draws hdraw] at hroutes ⊢
      refine inv_act h hroutes (fun q hq => hq) ?_
      intro o ho
      rw [mem_singleton.1 ho]
      trivial
  | .breadcrumb .. | .maintain .. | .broken .. => exact inv_silent h hroutes rfl
  | .deliver k r rx =>
    rcases hheard : hearing adj s (.deliver k r rx) with _ | ⟨r', t, rx'⟩
    · rw [step_of_silence hheard]
      exact h
    · obtain ⟨ht, hadj, -, hstep⟩ := step_of_hearing mac hheard
      rw [hstep] at hroutes ⊢
      exact inv_hear h ht hadj hroutes (hsat _ hheard)

/-! ## What is recorded -/

inductive Leads (s : Net) (dest : UInt32) : UInt32 → ℕ → Prop
  | here : Leads s dest dest 0
  | over {a b : UInt32} {k : ℕ} (hne : a ≠ dest)
      (hroute : ∃ e ∈ (s.nodes a).routes, e.dest_addr = dest ∧ e.source = .DISCOVERED ∧
        e.next_hop = b) (hrest : Leads s dest b k) : Leads s dest a (k + 1)

end BrambleMesh.HopCount
