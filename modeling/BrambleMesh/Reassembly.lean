/-
Reassembly of several messages at once: components/fragment/fragment.c as `handle_data` drives it.
What the table holds is determined by what has arrived.
-/
import BrambleMesh.Fragment
import BrambleMesh.Lib.Run

namespace BrambleMesh.Reassembly

open Fragment Run Function List

/-! ## Messages and deliveries -/

structure Message where
  plaintext : List UInt8
  message_id : UInt16
  max_frags : ℕ
  frags : List (List UInt8)
  accepted : fragment_split plaintext message_id max_frags = some frags

def Message.of (plaintext : List UInt8) (message_id : UInt16) (max_frags : ℕ)
    (h : (fragment_split plaintext message_id max_frags).isSome) : Message :=
  ⟨plaintext, message_id, max_frags, (fragment_split plaintext message_id max_frags).get h,
    (Option.some_get h).symm⟩

variable (m : Message)

lemma Message.spec :
    m.plaintext.length ≠ 0 ∧ num_frags m.plaintext.length ≤ FRAG_MAX_FRAGMENTS ∧
      m.frags = (range (num_frags m.plaintext.length)).map
        (fragment_bytes m.plaintext m.message_id (num_frags m.plaintext.length)) :=
  fragment_split_some m.accepted

def Message.total (m : Message) : ℕ := num_frags m.plaintext.length

lemma Message.length_frags : m.frags.length = m.total := by
  rw [m.spec.2.2, length_map, length_range]
  rfl

lemma Message.length_le : m.plaintext.length ≤ m.total * FRAG_MAX_PLAINTEXT :=
  length_le_num_frags _

lemma Message.total_pos : 0 < m.total := by
  refine Nat.pos_of_ne_zero fun h0 => m.spec.1 ?_
  have hlen := m.length_le
  rw [h0] at hlen
  exact Nat.le_zero.1 hlen

variable {ι : Type*} {msgs : ι → Message}

structure Delivery (msgs : ι → Message) where
  msg : ι
  index : Fin FRAG_MAX_FRAGMENTS
  index_lt : index.val < (msgs msg).frags.length
  time : ℕ
  packet_id : UInt32

def Delivery.payload (d : Delivery msgs) : List UInt8 :=
  (msgs d.msg).frags.get ⟨d.index.val, d.index_lt⟩

lemma Delivery.index_lt_total (d : Delivery msgs) : d.index.val < (msgs d.msg).total :=
  (msgs d.msg).length_frags ▸ d.index_lt

lemma Delivery.payload_eq (d : Delivery msgs) :
    d.payload = fragment_bytes (msgs d.msg).plaintext (msgs d.msg).message_id (msgs d.msg).total
      d.index.val := by
  unfold Delivery.payload
  simp only [(msgs d.msg).spec.2.2, get_eq_getElem, getElem_map, getElem_range]
  rfl

def receive (ctx : ReassemblyCtx) (d : Delivery msgs) : ReassemblyCtx × AddResult :=
  reassembly_add ctx (frag_header d.payload) (d.payload.drop FRAG_HEADER_SIZE)
    (UInt32.ofNat d.time) d.packet_id

lemma receive_eq (ctx : ReassemblyCtx) (d : Delivery msgs) :
    receive ctx d = reassembly_add ctx
      ⟨UInt8.ofNat d.index.val, UInt8.ofNat (msgs d.msg).total, (msgs d.msg).message_id⟩
      (chunk (msgs d.msg).plaintext d.index.val) (UInt32.ofNat d.time) d.packet_id := by
  rw [receive, d.payload_eq, frag_header_fragment_bytes, drop_fragment_bytes]

structure State (msgs : ι → Message) where
  ctx : ReassemblyCtx
  seen : List (Delivery msgs)
  collected : List (ι × Option (List UInt8))

def start (msgs : ι → Message) : State msgs := ⟨reassembly_init, [], []⟩

def step (s : State msgs) (d : Delivery msgs) : State msgs :=
  match receive s.ctx d with
  | (ctx, .complete) =>
    let out := reassembly_collect ctx (msgs d.msg).message_id
      ((msgs d.msg).total * FRAG_MAX_PLAINTEXT)
    ⟨out.1, s.seen ++ [d], s.collected ++ [(d.msg, out.2)]⟩
  | (ctx, _) => ⟨ctx, s.seen ++ [d], s.collected⟩

/-! ## What has arrived -/

variable [DecidableEq ι]

def got (seen : List (Delivery msgs)) (k : ι) : Finset (Fin FRAG_MAX_FRAGMENTS) :=
  ((seen.filter fun d => d.msg = k).map (·.index)).toFinset

def Complete (seen : List (Delivery msgs)) (k : ι) : Prop :=
  got seen k = all_chunks (msgs k).total
deriving Decidable

def in_progress (seen : List (Delivery msgs)) : Finset ι :=
  (seen.map (·.msg)).toFinset.filter fun k => ¬Complete seen k

def first_time (seen : List (Delivery msgs)) (k : ι) : Option ℕ :=
  (seen.find? fun d => d.msg = k).map (·.time)

structure Admissible (s : State msgs) (d : Delivery msgs) : Prop where
  incomplete : ¬Complete s.seen d.msg
  in_time : ∀ t ∈ first_time s.seen d.msg, t ≤ d.time ∧ d.time ≤ t + 30000
  room : (insert d.msg (in_progress s.seen)).card ≤ FRAG_MAX_REASSEMBLIES

instance (s : State msgs) (d : Delivery msgs) : Decidable (Admissible s d) :=
  decidable_of_iff (¬Complete s.seen d.msg ∧
      (∀ t ∈ first_time s.seen d.msg, t ≤ d.time ∧ d.time ≤ t + 30000) ∧
      (insert d.msg (in_progress s.seen)).card ≤ FRAG_MAX_REASSEMBLIES)
    ⟨fun h => ⟨h.1, h.2.1, h.2.2⟩, fun h => ⟨h.incomplete, h.in_time, h.room⟩⟩

variable {seen : List (Delivery msgs)} {d : Delivery msgs} {k : ι}

lemma got_append_self : got (seen ++ [d]) d.msg = insert d.index (got seen d.msg) := by
  ext j
  simp [got]

lemma got_append_of_ne (h : k ≠ d.msg) : got (seen ++ [d]) k = got seen k := by
  simp [got, h.symm]

lemma complete_append_of_ne (h : k ≠ d.msg) : Complete (seen ++ [d]) k ↔ Complete seen k := by
  rw [Complete, Complete, got_append_of_ne h]

lemma complete_append_self : Complete (seen ++ [d]) d.msg ↔
    insert d.index (got seen d.msg) = all_chunks (msgs d.msg).total := by
  rw [Complete, got_append_self]

lemma got_eq_empty : got seen k = ∅ ↔ ∀ d ∈ seen, d.msg ≠ k := by
  simp [got]

lemma mem_in_progress : k ∈ in_progress seen ↔ got seen k ≠ ∅ ∧ ¬Complete seen k := by
  rw [Ne, got_eq_empty, in_progress]
  simp

lemma in_progress_append_of_ne (h : k ≠ d.msg) :
    k ∈ in_progress (seen ++ [d]) ↔ k ∈ in_progress seen := by
  rw [mem_in_progress, mem_in_progress, got_append_of_ne h, complete_append_of_ne h]

lemma first_time_append {t : ℕ} (h : first_time seen k = some t) :
    first_time (seen ++ [d]) k = some t := by
  unfold first_time at h ⊢
  obtain ⟨d', hd', rfl⟩ := Option.map_eq_some_iff.1 h
  rw [find?_append, hd']
  rfl

lemma first_time_append_new (h : got seen d.msg = ∅) :
    first_time (seen ++ [d]) d.msg = some d.time := by
  have hnone : seen.find? (fun d' => decide (d'.msg = d.msg)) = none := by
    rw [find?_eq_none]
    intro d' hd'
    simpa using got_eq_empty.1 h d' hd'
  rw [first_time, find?_append, hnone]
  simp

/-! ## The table is what has arrived -/

structure SlotOf (seen : List (Delivery msgs)) (k : ι) (slot : Slot) : Prop where
  live : k ∈ in_progress seen
  holds : slot.Holds (msgs k).plaintext (msgs k).message_id (msgs k).total (got seen k)
  started : ∃ t, first_time seen k = some t ∧ slot.start_time = UInt32.ofNat t

def Collected (seen : List (Delivery msgs)) (out : List (ι × Option (List UInt8))) : Prop :=
  ∀ k, (out.filter fun c => c.1 = k).map (·.2) =
    if Complete seen k then [some (msgs k).plaintext] else []

structure Inv (s : State msgs) : Prop where
  one : OneSlotPerId s.ctx
  slots : ∀ i, (s.ctx i).active → ∃ k, SlotOf s.seen k (s.ctx i)
  held : ∀ k ∈ in_progress s.seen, ∃ i, SlotOf s.seen k (s.ctx i)
  out : Collected s.seen s.collected

lemma SlotOf.append {slot : Slot} (h : SlotOf seen k slot) (hne : k ≠ d.msg) :
    SlotOf (seen ++ [d]) k slot := by
  obtain ⟨t, ht, hstart⟩ := h.started
  refine ⟨(in_progress_append_of_ne hne).2 h.live, ?_, t, first_time_append ht, hstart⟩
  rw [got_append_of_ne hne]
  exact h.holds

variable {s : State msgs}

lemma Inv.exists_free (h : Inv s) (hd : Admissible s d) (hnew : d.msg ∉ in_progress s.seen) :
    ∃ i, (s.ctx i).active = false := by
  by_contra hfull
  simp only [not_exists, Bool.not_eq_false] at hfull
  choose owner howner using fun i => h.slots i (hfull i)
  -- the four slots belong to four messages in progress, and the new one is the fifth
  have hinj : Injective owner := by
    intro i j hij
    refine h.one i j (hfull i) (hfull j) ?_
    rw [(howner i).holds.message_id_eq, (howner j).holds.message_id_eq, hij]
  have hsub : Finset.univ.image owner ⊆ in_progress s.seen := by
    intro k hk
    obtain ⟨i, -, rfl⟩ := Finset.mem_image.1 hk
    exact (howner i).live
  have hcard := Finset.card_le_card hsub
  rw [Finset.card_image_of_injective _ hinj, Finset.card_univ, Fintype.card_fin] at hcard
  have hroom := hd.room
  rw [Finset.card_insert_of_notMem hnew] at hroom
  omega

structure Arrival (s : State msgs) (d : Delivery msgs) (i : Fin FRAG_MAX_REASSEMBLIES)
    (slot : Slot) : Prop where
  owner : ∀ k, SlotOf s.seen k (s.ctx i) → k = d.msg
  other : ∀ j, j ≠ i → (s.ctx j).active →
    (s.ctx j).message_id ≠ (msgs d.msg).message_id
  holds : slot.Holds (msgs d.msg).plaintext (msgs d.msg).message_id (msgs d.msg).total
    (got (s.seen ++ [d]) d.msg)
  started : ∃ t, first_time (s.seen ++ [d]) d.msg = some t ∧ slot.start_time = UInt32.ofNat t
  receive : receive s.ctx d = (update s.ctx i slot,
    if Complete (s.seen ++ [d]) d.msg then .complete else .pending)

lemma Inv.arrival (hids : Injective fun k => (msgs k).message_id) (h : Inv s)
    (hd : Admissible s d) : ∃ i slot, Arrival s d i slot := by
  have htotal : (msgs d.msg).total ≤ FRAG_MAX_FRAGMENTS := (msgs d.msg).spec.2.1
  by_cases hlive : d.msg ∈ in_progress s.seen
  · obtain ⟨i, hi⟩ := h.held _ hlive
    obtain ⟨t, hfirst, hstart⟩ := hi.started
    obtain ⟨hle, hlate⟩ := hd.in_time t hfirst
    have htime : UInt32.ofNat d.time - (s.ctx i).start_time ≤ FRAG_REASSEMBLY_TIMEOUT_MS := by
      have helapsed := Run.elapsed_le hle
      rw [hstart, UInt32.le_iff_toNat_le]
      change _ ≤ 30000
      omega
    obtain ⟨slot, hholds, hslot, hadd⟩ :=
      reassembly_add_known h.one hi.holds htotal d.index_lt_total d.packet_id htime
    refine ⟨i, slot, fun k hk => ?_, fun j hj hactive hid => ?_, ?_, ⟨t, first_time_append hfirst,
      hslot.trans hstart⟩, ?_⟩
    · exact hids (hk.holds.message_id_eq.symm.trans hi.holds.message_id_eq)
    · exact hj (h.one j i hactive hi.holds.active (hid.trans hi.holds.message_id_eq.symm))
    · rwa [got_append_self]
    · rw [receive_eq, hadd]
      simp only [complete_append_self]
      -- a chunk that completes the message was missing before
      have hmissing : insert d.index (got s.seen d.msg) = all_chunks (msgs d.msg).total →
          d.index ∉ got s.seen d.msg := by
        intro hall hmem
        rw [Finset.insert_eq_of_mem hmem] at hall
        exact hd.incomplete hall
      simp only [and_iff_right_of_imp hmissing]
  · have hempty : got s.seen d.msg = ∅ := by
      by_contra hne
      exact hlive (mem_in_progress.2 ⟨hne, hd.incomplete⟩)
    have hnone : ∀ j, (s.ctx j).active →
        (s.ctx j).message_id ≠ (msgs d.msg).message_id := by
      intro j hactive hid
      obtain ⟨k, hk⟩ := h.slots j hactive
      have hkd : k = d.msg := hids (hk.holds.message_id_eq.symm.trans hid)
      exact hlive (hkd ▸ hk.live)
    obtain ⟨i, slot, hfree, hholds, hstart, hadd⟩ :=
      reassembly_add_new _ (slot_of_eq_none.2 hnone) (h.exists_free hd hlive) htotal
        d.index_lt_total (UInt32.ofNat d.time) d.packet_id
    refine ⟨i, slot, fun k hk => ?_, fun j _ => hnone j, ?_,
      ⟨d.time, first_time_append_new hempty, hstart⟩, ?_⟩
    · exact absurd hk.holds.active (by rw [hfree]; exact Bool.false_ne_true)
    · rw [got_append_self, hempty]
      exact hholds
    · rw [receive_eq, hadd]
      simp only [complete_append_self, hempty, insert_empty_eq]

/-! ## The run -/

variable {i : Fin FRAG_MAX_REASSEMBLIES} {slot slot' : Slot}

lemma Arrival.one (ha : Arrival s d i slot) (h : Inv s) :
    OneSlotPerId (update s.ctx i slot) :=
  one_slot_update h.one fun j hj hactive => ha.holds.message_id_eq ▸ ha.other j hj hactive

lemma Arrival.held (ha : Arrival s d i slot) (h : Inv s)
    (hlive : k ∈ in_progress (s.seen ++ [d])) (hne : k ≠ d.msg) :
    ∃ j, SlotOf (s.seen ++ [d]) k (update s.ctx i slot' j) := by
  obtain ⟨j, hj⟩ := h.held k ((in_progress_append_of_ne hne).1 hlive)
  refine ⟨j, ?_⟩
  have hji : j ≠ i := fun heq => hne (ha.owner k (heq ▸ hj))
  rw [update_of_ne hji]
  exact hj.append hne

lemma Arrival.slots {j : Fin FRAG_MAX_REASSEMBLIES} (ha : Arrival s d i slot) (h : Inv s)
    (hji : j ≠ i) (hactive : (update s.ctx i slot' j).active) :
    ∃ k, SlotOf (s.seen ++ [d]) k (update s.ctx i slot' j) := by
  rw [update_of_ne hji] at hactive ⊢
  obtain ⟨k, hk⟩ := h.slots j hactive
  refine ⟨k, hk.append ?_⟩
  rintro rfl
  exact ha.other j hji hactive hk.holds.message_id_eq

variable {out : List (ι × Option (List UInt8))}

lemma Collected.append_of_not (h : Collected seen out) (hd : ¬Complete seen d.msg)
    (hd' : ¬Complete (seen ++ [d]) d.msg) : Collected (seen ++ [d]) out := by
  intro k
  rw [h k]
  by_cases hk : k = d.msg
  · subst hk
    rw [if_neg hd, if_neg hd']
  · simp only [complete_append_of_ne hk]

lemma Collected.append_complete (h : Collected seen out) (hd : ¬Complete seen d.msg)
    (hd' : Complete (seen ++ [d]) d.msg) :
    Collected (seen ++ [d]) (out ++ [(d.msg, some (msgs d.msg).plaintext)]) := by
  intro k
  rw [filter_append, map_append, h k]
  by_cases hk : k = d.msg
  · subst hk
    rw [if_neg hd, if_pos hd']
    simp
  · simp only [complete_append_of_ne hk]
    simp [Ne.symm hk]

def Reported (s : State msgs) (d : Delivery msgs) : Prop :=
  (receive s.ctx d).2 = (if Complete (s.seen ++ [d]) d.msg then .complete else .pending) ∧
  (Complete (s.seen ++ [d]) d.msg → ∀ out_max, (msgs d.msg).plaintext.length ≤ out_max →
    ∃ i, ((receive s.ctx d).1 i).active ∧
      ((receive s.ctx d).1 i).message_id = (msgs d.msg).message_id ∧
      reassembly_collect (receive s.ctx d).1 (msgs d.msg).message_id out_max =
        (update (receive s.ctx d).1 i (closed ((receive s.ctx d).1 i)),
          some (msgs d.msg).plaintext))

lemma Arrival.inv_pending (ha : Arrival s d i slot) (h : Inv s) (hd : Admissible s d)
    (hmissing : ¬Complete (s.seen ++ [d]) d.msg) :
    Inv ⟨update s.ctx i slot, s.seen ++ [d], s.collected⟩ := by
  have hself : SlotOf (s.seen ++ [d]) d.msg (update s.ctx i slot i) := by
    rw [update_self]
    refine ⟨mem_in_progress.2 ⟨?_, hmissing⟩, ha.holds, ha.started⟩
    rw [got_append_self]
    exact Finset.insert_ne_empty _ _
  refine ⟨ha.one h, fun j hactive => ?_, fun k hlive => ?_,
    h.out.append_of_not hd.incomplete hmissing⟩
  · by_cases hji : j = i
    · exact ⟨d.msg, hji ▸ hself⟩
    · exact ha.slots h hji hactive
  · by_cases hne : k = d.msg
    · exact ⟨i, hne ▸ hself⟩
    · exact ha.held h hlive hne

lemma Arrival.inv_complete (ha : Arrival s d i slot) (h : Inv s) (hd : Admissible s d)
    (hcomplete : Complete (s.seen ++ [d]) d.msg) :
    Inv ⟨update s.ctx i (closed slot), s.seen ++ [d],
      s.collected ++ [(d.msg, some (msgs d.msg).plaintext)]⟩ := by
  refine ⟨?_, fun j hactive => ?_, fun k hlive => ?_,
    h.out.append_complete hd.incomplete hcomplete⟩
  · have hclose := one_slot_close (ha.one h) i
    rwa [update_self, update_idem] at hclose
  · have hji : j ≠ i := by
      rintro rfl
      dsimp only at hactive
      rw [update_self] at hactive
      cases hactive
    exact ha.slots h hji hactive
  · have hne : k ≠ d.msg := by
      rintro rfl
      exact (mem_in_progress.1 hlive).2 hcomplete
    exact ha.held h hlive hne

lemma Arrival.collect (ha : Arrival s d i slot) (h : Inv s)
    (hcomplete : Complete (s.seen ++ [d]) d.msg) {out_max : ℕ}
    (hout : (msgs d.msg).plaintext.length ≤ out_max) :
    reassembly_collect (update s.ctx i slot) (msgs d.msg).message_id out_max =
      (update s.ctx i (closed slot), some (msgs d.msg).plaintext) := by
  have hslot : (update s.ctx i slot i).Holds (msgs d.msg).plaintext
      (msgs d.msg).message_id (msgs d.msg).total (all_chunks (msgs d.msg).total) := by
    rw [update_self]
    exact hcomplete ▸ ha.holds
  rw [reassembly_collect_complete (ha.one h) hslot (msgs d.msg).spec.1 (msgs d.msg).spec.2.1 hout,
    update_self, update_idem]

lemma inv_step (hids : Injective fun k => (msgs k).message_id) (h : Inv s)
    (hd : Admissible s d) : Reported s d ∧ Inv (step s d) := by
  obtain ⟨i, slot, ha⟩ := h.arrival hids hd
  have hreceive := ha.receive
  unfold Reported step
  by_cases hcomplete : Complete (s.seen ++ [d]) d.msg
  · rw [hreceive, if_pos hcomplete]
    refine ⟨⟨rfl, fun _ out_max hout => ⟨i, ?_⟩⟩, ?_⟩
    · dsimp only
      rw [ha.collect h hcomplete hout, update_self, update_idem]
      exact ⟨ha.holds.active, ha.holds.message_id_eq, rfl⟩
    · dsimp only
      rw [ha.collect h hcomplete (msgs d.msg).length_le]
      exact ha.inv_complete h hd hcomplete
  · rw [hreceive, if_neg hcomplete]
    exact ⟨⟨rfl, fun hc => absurd hc hcomplete⟩, ha.inv_pending h hd hcomplete⟩

lemma inv_start : Inv (start msgs) := by
  refine ⟨?_, ?_, ?_, ?_⟩
  · intro i j hi
    cases hi
  · intro i hi
    cases hi
  · intro k hk
    exact absurd hk (Finset.notMem_empty k)
  · intro k
    -- an accepted message has a first fragment, and nothing has arrived
    have hmissing : ¬Complete (start msgs).seen k := by
      intro hc
      have hmem : (0 : Fin FRAG_MAX_FRAGMENTS) ∈ all_chunks (msgs k).total :=
        Finset.mem_filter.2 ⟨Finset.mem_univ _, (msgs k).total_pos⟩
      rw [← hc] at hmem
      exact absurd hmem (Finset.notMem_empty _)
    rw [if_neg hmissing]
    rfl

omit [DecidableEq ι] in
lemma seen_step (s : State msgs) (d : Delivery msgs) : (step s d).seen = s.seen ++ [d] := by
  unfold step
  split <;> rfl

omit [DecidableEq ι] in
lemma seen_run (s : State msgs) (ds : List (Delivery msgs)) :
    (ds.foldl step s).seen = s.seen ++ ds := by
  induction ds generalizing s with
  | nil => exact (append_nil _).symm
  | cons d ds ih => rw [foldl_cons, ih, seen_step, append_assoc, singleton_append]

/-- **Reassembly is exact.** For any admissible interleaving of the fragments of messages with
different ids, every arrival is answered as it should be, and each message is collected once if
all its fragments arrive and never otherwise. -/
theorem reassembly_exact (hids : Function.Injective fun k => (msgs k).message_id)
    (ds : List (Delivery msgs)) (hrun : Meets step Admissible (start msgs) ds) :
    (∀ pre d post, ds = pre ++ d :: post → Reported (pre.foldl step (start msgs)) d) ∧
      ∀ k, (((ds.foldl step (start msgs)).collected.filter fun c => c.1 = k).map (·.2)) =
        if Complete ds k then [some (msgs k).plaintext] else [] := by
  constructor
  · rintro pre d post rfl
    obtain ⟨hpre, hd⟩ := (meets_append _ _ _).1 hrun
    have hinv : Inv (pre.foldl step (start msgs)) :=
      foldl_invariant (fun s d h hd => (inv_step hids h hd).2) hpre inv_start
    exact (inv_step hids hinv hd.1).1
  · have hinv : Inv (ds.foldl step (start msgs)) :=
      foldl_invariant (fun s d h hd => (inv_step hids h hd).2) hrun inv_start
    intro k
    have hout := hinv.out k
    rwa [seen_run] at hout

def twoTexts : Bool → Message
  | false => .of (List.replicate 200 65) 7 4 (by decide +kernel)
  | true => .of (List.replicate 400 66) 8 4 (by decide +kernel)

local instance max_fragments_neZero : NeZero FRAG_MAX_FRAGMENTS := ⟨by decide⟩

def mixed : List (Delivery twoTexts) :=
  [⟨false, 1, by decide +kernel, 1000, 11⟩, ⟨true, 2, by decide +kernel, 1200, 21⟩,
    ⟨true, 0, by decide +kernel, 1400, 22⟩, ⟨true, 2, by decide +kernel, 1600, 23⟩,
    ⟨false, 0, by decide +kernel, 1800, 12⟩, ⟨true, 1, by decide +kernel, 31200, 24⟩]

theorem reassembly_exact_mixed :
    (mixed.foldl step (start twoTexts)).collected.length = 2 ∧
      (((mixed.foldl step (start twoTexts)).collected.filter fun c => c.1 = true).map (·.2)) =
        if Complete mixed true then [some (twoTexts true).plaintext] else [] :=
  ⟨by decide +kernel,
    (reassembly_exact (by decide +kernel) mixed (by decide +kernel)).2 true⟩

end BrambleMesh.Reassembly
