/-
The control-plane replay check in a network. A node that answers in the destination's place signs
under the destination's address with a number of its own counter.
-/
import BrambleMesh.MeshNet

namespace BrambleMesh.ControlReplay

open Run SlidingWindow ReplayWindow List
open Discovery MeshNet

variable {mac : NetworkMac} {adj : UInt32 → UInt32 → Bool} {r d : UInt32}

/-! ## Who signs under whose address -/

def Authentic (t : Transmission) : Prop := ∀ c, t.frame = .control c → t.drawer = c.src_addr

lemma authentic_always (mac : NetworkMac) (adj : UInt32 → UInt32 → Bool) (es : List Event) :
    ∀ t ∈ (es.foldl (step mac adj) .start).air, Authentic t := by
  apply (sound_run (P := fun _ _ => True) (F := Authentic) (fun _ => trivial) ?_ ?_ es).air
  · intro me n n' outs _ hacts
    refine ⟨trivial, ?_⟩
    intro o ho c hc
    match o, hacts.originates o ho, hc with
    | _, .control kind seq, hc => rw [← Frame.control.inj hc]
  · intro me n n' t now outs _ ht _ _ hemit
    refine ⟨trivial, ?_⟩
    intro o ho c hc
    match o, hemit o ho, hc with
    | _, .pass_control c' hf, hc => exact Frame.control.inj hc ▸ ht c' hf

/-! ## What the window of a sender stands for -/

def taken (mac : NetworkMac) (s : Net) (r d : UInt32) : Set ℕ :=
  {n | ∃ h ∈ s.heard, h.receiver = r ∧ h.accepted ∧
    ∃ seq, checked mac r h.transmission.frame = some (d, seq) ∧ seq.toNat = n}

def KeepsSlot (mac : NetworkMac) (adj : UInt32 → UInt32 → Bool) (r d : UInt32) (s : Net)
    (e : Event) : Prop :=
  Holds (s.nodes r).control_replay d → Holds ((step mac adj s e).nodes r).control_replay d
deriving Decidable

structure Tracked (mac : NetworkMac) (r d : UInt32) (s : Net) : Prop where
  wf : Wf (s.nodes r).control_replay
  tracks : Tracks (s.nodes r).control_replay d (taken mac s r d)
  on_air : ∀ h ∈ s.heard, h.transmission ∈ s.air
  was_checked : ∀ h ∈ s.heard, h.accepted →
    ∃ a seq, checked mac h.receiver h.transmission.frame = some (a, seq)

lemma tracked_start (mac : NetworkMac) (r d : UInt32) : Tracked mac r d .start where
  wf := wf_init
  tracks := by
    have hnone : taken mac .start r d = ∅ := by
      apply Set.eq_empty_of_forall_notMem
      rintro n ⟨h, hh, -⟩
      exact not_mem_nil hh
    refine ⟨?_, fun _ => hnone⟩
    intro i hi
    cases hi.1
  on_air := fun _ hh => absurd hh not_mem_nil
  was_checked := fun _ hh => absurd hh not_mem_nil

lemma taken_hear (s : Net) (t : Transmission) (me : UInt32) (rx : Rx) :
    taken mac (s.hear mac t me rx) r d =
      {n | me = r ∧ passes mac me (s.nodes me) t.frame rx.now ∧
        ∃ seq, checked mac r t.frame = some (d, seq) ∧ seq.toNat = n} ∪ taken mac s r d := by
  ext n
  simp only [taken, Net.hear, mem_cons, Set.mem_union, Set.mem_ofPred_eq]
  constructor
  · rintro ⟨h, rfl | hh, hrest⟩
    · exact .inl hrest
    · exact .inr ⟨h, hh, hrest⟩
  · rintro (hnew | ⟨h, hh, hrest⟩)
    · exact ⟨_, .inl rfl, hnew⟩
    · exact ⟨h, .inr hh, hrest⟩

lemma passes_eq (n : Node) (f : Frame) (now : UInt32) :
    passes mac r n f now ↔
      ∃ a seq, checked mac r f = some (a, seq) ∧
        answer n.control_replay ⟨a, seq, now⟩ = .ACCEPT := by
  unfold passes
  split
  · next hnone => simp [hnone]
  · next a seq hsome =>
    rw [hsome]
    constructor
    · intro h
      exact ⟨a, seq, rfl, eq_of_beq h⟩
    · rintro ⟨a', seq', heq, h⟩
      cases heq
      exact beq_iff_eq.2 h

lemma tracked_hear_self {s : Net} (h : Tracked mac r d s) (t : Transmission) (rx : Rx)
    (hkeep : Holds (s.nodes r).control_replay d →
      Holds ((s.hear mac t r rx).nodes r).control_replay d) :
    Wf ((s.hear mac t r rx).nodes r).control_replay ∧
      Tracks ((s.hear mac t r rx).nodes r).control_replay d
        (taken mac (s.hear mac t r rx) r d) := by
  have hreplay := (handle_spec mac r (s.nodes r) t.frame rx).1.replay
  rw [taken_hear]
  rw [Net.hear_nodes, Net.set_node_self] at hkeep ⊢
  rw [hreplay] at hkeep ⊢
  simp only [passes_eq]
  rcases hchk : checked mac r t.frame with _ | ⟨a, seq⟩
  · simp only [reduceCtorEq, false_and, exists_false, and_false, Set.ofPred_false,
      Set.empty_union]
    exact ⟨h.wf, h.tracks⟩
  · rw [hchk] at hkeep
    refine ⟨wf_after h.wf _, ?_⟩
    -- the set of numbers grows by the new one exactly when the table takes it
    have hT := h.tracks.after h.wf hkeep
    convert hT using 1
    ext n
    simp only [Option.some.injEq, Prod.mk.injEq, true_and, Set.mem_union, Set.mem_ofPred_eq]
    split_ifs with hnew
    · obtain ⟨rfl, hacc⟩ := hnew
      rw [Set.mem_insert_iff, or_congr_left]
      constructor
      · rintro ⟨-, seq', ⟨-, rfl⟩, rfl⟩
        rfl
      · rintro rfl
        exact ⟨⟨d, seq, ⟨rfl, rfl⟩, hacc⟩, seq, ⟨rfl, rfl⟩, rfl⟩
    · rw [or_iff_right]
      rintro ⟨⟨a', seq', ⟨rfl, rfl⟩, hacc⟩, -, ⟨rfl, -⟩, -⟩
      exact hnew ⟨rfl, hacc⟩

lemma tracked_step (s : Net) (e : Event) (h : Tracked mac r d s)
    (hkeep : KeepsSlot mac adj r d s e) : Tracked mac r d (step mac adj s e) := by
  unfold KeepsSlot at hkeep
  rcases step_cases mac adj s e with ⟨n, n', outs, hacts, hstep⟩ |
    ⟨k, t, me, rx, -, ht, -, -, hstep⟩
  · -- no table changes and nobody hears anything
    rw [hstep]
    have hsame : (((s.set_node n n').send n n outs).nodes r).control_replay =
        (s.nodes r).control_replay := by
      rw [Net.send_nodes]
      by_cases hn : r = n
      · rw [hn, Net.set_node_self, hacts.replay]
      · rw [Net.set_node_ne s n' hn]
    refine ⟨hsame ▸ h.wf, hsame ▸ h.tracks, ?_, h.was_checked⟩
    intro g hg
    exact mem_append_left _ (h.on_air g hg)
  · rw [hstep] at hkeep ⊢
    -- the record of what was heard grows by one transmission, which was on the air
    have hair : ∀ g ∈ (s.hear mac t me rx).heard, g.transmission ∈ (s.hear mac t me rx).air := by
      intro g hg
      apply mem_append_left
      rcases mem_cons.1 hg with rfl | hold
      · exact mem_of_getElem? ht
      · exact h.on_air g hold
    have hchk : ∀ g ∈ (s.hear mac t me rx).heard, g.accepted →
        ∃ a seq, checked mac g.receiver g.transmission.frame = some (a, seq) := by
      intro g hg hacc
      rcases mem_cons.1 hg with rfl | hold
      · obtain ⟨a, seq, hsome, -⟩ := (passes_eq _ _ _).1 hacc
        exact ⟨a, seq, hsome⟩
      · exact h.was_checked g hold hacc
    by_cases hme : me = r
    · subst hme
      obtain ⟨hwf, htracks⟩ := tracked_hear_self h t rx hkeep
      exact ⟨hwf, htracks, hair, hchk⟩
    · -- another node's table: neither the table nor the numbers accepted here change
      have hsame : (s.hear mac t me rx).nodes r = s.nodes r := by
        rw [Net.hear_nodes, Net.set_node_ne _ _ (Ne.symm hme)]
      have htaken : taken mac (s.hear mac t me rx) r d = taken mac s r d := by
        rw [taken_hear]
        simp only [hme, false_and, Set.ofPred_false, Set.empty_union]
      refine ⟨?_, ?_, hair, hchk⟩
      · rw [hsame]
        exact h.wf
      · rw [hsame, htaken]
        exact h.tracks

/-! ## When a genuine frame is refused -/

lemma Tracked.max {s : Net} (h : Tracked mac r d s) :
    taken mac s r d = ∅ ∨ ∃ m ∈ taken mac s r d, ∀ x ∈ taken mac s r d, x ≤ m := by
  by_cases hheld : Holds (s.nodes r).control_replay d
  · obtain ⟨i, hi⟩ := hheld
    have hR := (h.tracks.slot i hi).2
    exact .inr ⟨_, hR.high_mem, hR.le_high⟩
  · exact .inl (h.tracks.empty hheld)

def Genuine (mac : NetworkMac) (r d : UInt32) (t : Transmission) (seq : UInt64) : Prop :=
  t.drawer = d ∧ checked mac r t.frame = some (d, seq)

def Preempted (s : Net) (r d : UInt32) (seq : UInt64) : Prop :=
  ∃ h ∈ s.heard, h.receiver = r ∧ h.accepted ∧ h.transmission.drawer ≠ d ∧
    ∃ p, h.transmission.frame = .rrep p ∧ p.src_addr = d ∧
      (p.seq = seq ∨ seq.toNat + 64 < p.seq.toNat)

lemma reply_of_foreign {t : Transmission} {seq : UInt64} (hauth : Authentic t)
    (hchk : checked mac r t.frame = some (d, seq)) (hdrawer : t.drawer ≠ d) :
    ∃ p, t.frame = .rrep p ∧ p.src_addr = d ∧ p.seq = seq := by
  match hf : t.frame with
  | .rreq q =>
    rw [hf, checked] at hchk
    cases hchk
  | .rrep p =>
    rw [hf, checked] at hchk
    split_ifs at hchk
    obtain ⟨hsrc, hseq⟩ := Prod.mk.inj (Option.some.inj hchk)
    exact ⟨p, rfl, hsrc, hseq⟩
  | .control c =>
    rw [hf, checked] at hchk
    split_ifs at hchk
    have hsrc := (Prod.mk.inj (Option.some.inj hchk)).1
    exact absurd ((hauth c hf).trans hsrc) hdrawer

lemma preempted_iff {s : Net} (hT : Tracked mac r d s) (hauth : ∀ t ∈ s.air, Authentic t)
    {seq : UInt64}
    (hfirst : ∀ h ∈ s.heard, h.receiver = r → ¬ Genuine mac r d h.transmission seq)
    (horder : ∀ h ∈ s.heard, h.receiver = r →
      ∀ seq', Genuine mac r d h.transmission seq' → seq' ≤ seq) :
    Preempted s r d seq ↔ ∃ n ∈ taken mac s r d, n = seq.toNat ∨ seq.toNat + 64 < n := by
  constructor
  · rintro ⟨h, hh, hr, hacc, -, p, hf, hsrc, hway⟩
    refine ⟨p.seq.toNat, ⟨h, hh, hr, hacc, p.seq, ?_, rfl⟩, hway.imp_left (congrArg UInt64.toNat)⟩
    -- what was accepted was checked, so its tag was right
    obtain ⟨a, seq', hchk⟩ := hT.was_checked h hh hacc
    rw [hf, checked] at hchk ⊢
    split_ifs at hchk with hv
    rw [if_pos hv, hsrc]
  · rintro ⟨n, ⟨h, hh, hr, hacc, seq', hchk, rfl⟩, hway⟩
    have hdrawer : h.transmission.drawer ≠ d := by
      intro hd
      rcases hway with heq | hfar
      · exact hfirst h hh hr ⟨hd, UInt64.toNat_inj.1 heq ▸ hchk⟩
      · have := UInt64.le_iff_toNat_le.1 (horder h hh hr seq' ⟨hd, hchk⟩)
        omega
    obtain ⟨p, hf, hsrc, rfl⟩ := reply_of_foreign (hauth _ (hT.on_air h hh)) hchk hdrawer
    exact ⟨h, hh, hr, hacc, hdrawer, p, hf, hsrc, hway.imp_left UInt64.toNat_inj.1⟩

/-- **When the replay check refuses a fresh genuine frame**: exactly when a reply about its sender
from another node's counter has preempted its number, in any run that leaves the sender in its
slot. -/
theorem genuine_rejected_iff (mac : NetworkMac) (adj : UInt32 → UInt32 → Bool) (r d : UInt32)
    (es : List Event) (hkeep : Meets (step mac adj) (KeepsSlot mac adj r d) .start es)
    (t : Transmission) (seq : UInt64) (now : UInt32) (hgenuine : Genuine mac r d t seq)
    (hfirst : ∀ h ∈ (es.foldl (step mac adj) .start).heard, h.receiver = r →
      ¬ Genuine mac r d h.transmission seq)
    (horder : ∀ h ∈ (es.foldl (step mac adj) .start).heard, h.receiver = r →
      ∀ seq', Genuine mac r d h.transmission seq' → seq' ≤ seq)
    (hslot : (slot_for ((es.foldl (step mac adj) .start).nodes r).control_replay d now).2 ≠
      none) :
    passes mac r ((es.foldl (step mac adj) .start).nodes r) t.frame now = false ↔
      Preempted (es.foldl (step mac adj) .start) r d seq := by
  have hauth := authentic_always mac adj es
  have hT : Tracked mac r d (es.foldl (step mac adj) .start) :=
    foldl_invariant tracked_step hkeep (tracked_start mac r d)
  generalize es.foldl (step mac adj) .start = s at *
  rw [preempted_iff hT hauth hfirst horder, ← Bool.not_eq_true]
  -- the check is the exact one on the numbers accepted under the address
  have hans : answer (s.nodes r).control_replay ⟨d, seq, now⟩ = .ACCEPT ↔
      seq.toNat ∉ taken mac s r d ∧ ∀ n ∈ taken mac s r d, n ≤ seq.toNat + 64 := by
    rw [answer_iff hT.wf hT.tracks, and_iff_right hslot, admits_iff_forall_le hT.max]
  have hpass : passes mac r (s.nodes r) t.frame now = true ↔
      answer (s.nodes r).control_replay ⟨d, seq, now⟩ = .ACCEPT := by
    rw [passes_eq, hgenuine.2]
    constructor
    · rintro ⟨a, seq', heq, hacc⟩
      cases heq
      exact hacc
    · intro hacc
      exact ⟨d, seq, rfl, hacc⟩
  rw [hpass, hans]
  constructor
  · intro hno
    by_contra hnone
    push Not at hnone
    exact hno ⟨fun hmem => (hnone _ hmem).1 rfl, fun n hn => (hnone n hn).2⟩
  · rintro ⟨n, hn, rfl | hfar⟩ ⟨hnew, hall⟩
    · exact hnew hn
    · have := hall n hn
      omega

/-! ## A reply that shuts a node out -/

def together (_ _ : UInt32) : Bool := true

def answered_from_cache : List Event :=
  [.discover 2 3 7 0 0, .deliver 0 3 (clear 0), .deliver 1 2 (clear 0),
    .discover 1 3 8 0 0, .deliver 2 2 (clear 1000), .deliver 3 1 (clear 0),
    .originate 3 .BEACON 1]

def beacon : Transmission := ⟨3, 3, false, .control ⟨.BEACON, 3, 1⟩⟩

theorem genuine_rejected_iff_beacon :
    (answered_from_cache.foldl (step zeroMac together) .start).air[4]? = some beacon ∧
      (passes zeroMac 1 ((answered_from_cache.foldl (step zeroMac together) .start).nodes 1)
          beacon.frame 0 = false ↔
        Preempted (answered_from_cache.foldl (step zeroMac together) .start) 1 3 1) := by
  have hnone : ∀ h ∈ (answered_from_cache.foldl (step zeroMac together) .start).heard,
      h.receiver = 1 → h.transmission.drawer ≠ 3 := by
    decide +kernel
  refine ⟨by decide +kernel, genuine_rejected_iff zeroMac together 1 3 answered_from_cache
    (by decide +kernel) beacon 1 0 ⟨rfl, by decide⟩ ?_ ?_ (by decide +kernel)⟩
  · intro h hh hr hgen
    exact hnone h hh hr hgen.1
  · intro h hh hr seq' hgen
    exact absurd hgen.1 (hnone h hh hr)

theorem beacon_refused :
    let s := answered_from_cache.foldl (step zeroMac together) .start
    s.air[4]? = some beacon ∧
      Meets (step zeroMac together) (KeepsSlot zeroMac together 1 3) .start answered_from_cache ∧
      (slot_for (s.nodes 1).control_replay 3 0).2 ≠ none ∧
      (∀ h ∈ s.heard, h.receiver = 1 → h.transmission.drawer ≠ 3) ∧
      passes zeroMac 1 (s.nodes 1) beacon.frame 0 = false := by
  decide +kernel

end BrambleMesh.ControlReplay
