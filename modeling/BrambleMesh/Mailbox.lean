/-
The store-and-forward mailbox: components/mailbox/mailbox.c, main/mesh_mailbox.c. It is read as
the multiset of the packets it holds (`Table.held`), and what may be held (`Orderly`) is kept by
everything that only drops.
-/
import BrambleMesh.Wire

namespace BrambleMesh.Mailbox

open Table Function List

/-! ## State -/

abbrev MAILBOX_MAX_ENTRIES : ℕ := 32
abbrev MAILBOX_MAX_PER_DEST : ℕ := 8
abbrev MAILBOX_MAX_PER_SOURCE : ℕ := 8
abbrev MAILBOX_TTL_MS : UInt32 := 86400000
abbrev MAILBOX_MAX_PAYLOAD : ℕ := 200

structure MailboxEntry where
  active : Bool
  src_addr : UInt32
  dest_addr : UInt32
  payload : List UInt8
  stored_at_ms : UInt32
  packet_id : UInt32
deriving DecidableEq, Repr

abbrev Slot := Fin MAILBOX_MAX_ENTRIES

structure State where
  entries : Slot → MailboxEntry
  count : ℤ

def mailbox_init : State := ⟨fun _ => ⟨false, 0, 0, [], 0, 0⟩, 0⟩

/-! ## Operations -/

variable (mb : State)

def State.drop (i : Slot) : State :=
  ⟨update mb.entries i { mb.entries i with active := false }, mb.count - 1⟩

def State.put (i : Slot) (e : MailboxEntry) : State :=
  ⟨update mb.entries i e, mb.count + 1⟩

def oldest_where (p : MailboxEntry → Bool) : Option Slot :=
  argmaxOn (fun e => e.active && p e && e.stored_at_ms < 0xFFFFFFFF)
    (fun e => 0xFFFFFFFF - e.stored_at_ms.toNat) mb.entries

def matching (addr : UInt32) (by_dest : Bool) (e : MailboxEntry) : Bool :=
  if by_dest then e.dest_addr == addr else e.src_addr == addr

def find_oldest (addr : UInt32) (by_dest : Bool) : Option Slot :=
  oldest_where mb (matching addr by_dest)

def find_oldest_global : Option Slot := oldest_where mb fun _ => true

def find_free_slot : Option Slot := find (fun e => !e.active) mb.entries

def has_duplicate (packet_id : UInt32) : Bool :=
  (find (fun e => e.active && e.packet_id == packet_id) mb.entries).isSome

def mailbox_count_for_dest (dest_addr : UInt32) : ℕ :=
  count (fun e => e.active && e.dest_addr == dest_addr) mb.entries

def mailbox_count_for_source (src_addr : UInt32) : ℕ :=
  count (fun e => e.active && e.src_addr == src_addr) mb.entries

def evict_at_cap (addr : UInt32) (by_dest : Bool) (count cap : ℕ) : State :=
  if count ≥ cap then
    match find_oldest mb addr by_dest with
    | some i => mb.drop i
    | none => mb
  else mb

def mailbox_store (src_addr dest_addr : UInt32) (payload : List UInt8)
    (packet_id now_ms : UInt32) : State × ℤ :=
  if payload.length = 0 ∨ payload.length > MAILBOX_MAX_PAYLOAD then (mb, -1)
  else if has_duplicate mb packet_id then (mb, -2)
  else
    let e := ⟨true, src_addr, dest_addr, payload, now_ms, packet_id⟩
    let mb := evict_at_cap mb dest_addr true (mailbox_count_for_dest mb dest_addr)
      MAILBOX_MAX_PER_DEST
    let mb := evict_at_cap mb src_addr false (mailbox_count_for_source mb src_addr)
      MAILBOX_MAX_PER_SOURCE
    match find_free_slot mb with
    | some i => (mb.put i e, 0)
    | none =>
      match find_oldest_global mb with
      | some i => ((mb.drop i).put i e, 0)
      | none => (mb, -1)

def retrieve_slot (dest_addr : UInt32) (max_out : ℕ) (s : State × List MailboxEntry) (i : Slot) :
    State × List MailboxEntry :=
  if s.2.length < max_out ∧ (s.1.entries i).active ∧ (s.1.entries i).dest_addr = dest_addr then
    (s.1.drop i, s.2 ++ [s.1.entries i])
  else s

def mailbox_retrieve (dest_addr : UInt32) (max_out : ℕ) :
    State × List MailboxEntry :=
  (List.finRange MAILBOX_MAX_ENTRIES).foldl (retrieve_slot dest_addr max_out) (mb, [])

def mailbox_purge_expired (now_ms : UInt32) : State :=
  (List.finRange MAILBOX_MAX_ENTRIES).foldl
    (fun mb i =>
      if (mb.entries i).active ∧ now_ms - (mb.entries i).stored_at_ms ≥ MAILBOX_TTL_MS then
        mb.drop i
      else mb)
    mb

def flush_loop (address : UInt32) (sent : ℕ → Bool) (mb : State) :
    ℕ → List MailboxEntry → State
  | _, [] => mb
  | i, e :: rest =>
    let payload := Wire.rewrite_prev_hop e.payload address
    let mb :=
      if sent i then mb
      else (mailbox_store mb e.src_addr e.dest_addr payload e.packet_id e.stored_at_ms).1
    flush_loop address sent mb (i + 1) rest

def mailbox_flush_for (address dest_addr : UInt32) (sent : ℕ → Bool) : State :=
  let (mb, entries) := mailbox_retrieve mb dest_addr MAILBOX_MAX_PER_DEST
  flush_loop address sent mb 0 entries

/-! ## The packets held -/

def State.packets : Multiset MailboxEntry := held MailboxEntry.active mb.entries

def MailboxEntry.addr_of (e : MailboxEntry) : Bool → UInt32
  | true => e.dest_addr
  | false => e.src_addr

def quota : Bool → ℕ
  | true => MAILBOX_MAX_PER_DEST
  | false => MAILBOX_MAX_PER_SOURCE

def MailboxEntry.Valid (e : MailboxEntry) : Prop :=
  (0 < e.payload.length ∧ e.payload.length ≤ MAILBOX_MAX_PAYLOAD) ∧ e.stored_at_ms < 0xFFFFFFFF

structure Orderly (s : Multiset MailboxEntry) : Prop where
  ids : (s.map MailboxEntry.packet_id).Nodup
  quotas : ∀ by_dest addr, s.countP (fun e => e.addr_of by_dest = addr) ≤ quota by_dest
  valid : ∀ e ∈ s, e.Valid

structure Sound : Prop where
  count : mb.count = mb.packets.card
  orderly : Orderly mb.packets

variable {mb : State} {i : Slot} {e : MailboxEntry} {s t : Multiset MailboxEntry}

lemma Orderly.mono (h : Orderly t) (hle : s ≤ t) : Orderly s where
  ids := Multiset.nodup_of_le (Multiset.map_le_map hle) h.ids
  quotas by_dest addr := (Multiset.countP_le_of_le _ hle).trans (h.quotas by_dest addr)
  valid e he := h.valid e (Multiset.mem_of_le hle he)

lemma mem_packets (h : (mb.entries i).active) : mb.entries i ∈ mb.packets :=
  mem_held.2 ⟨i, h, rfl⟩

lemma packets_drop (h : (mb.entries i).active) :
    mb.packets = mb.entries i ::ₘ (mb.drop i).packets :=
  held_drop h rfl

lemma packets_put (h : (mb.entries i).active = false) (he : e.active = true) :
    (mb.put i e).packets = e ::ₘ mb.packets :=
  held_put h he

lemma Sound.drop (hs : Sound mb) (h : (mb.entries i).active) : Sound (mb.drop i) := by
  have hp := packets_drop h
  refine ⟨?_, hs.orderly.mono (hp ▸ Multiset.le_cons_self _ _)⟩
  have hcard : (mb.packets.card : ℤ) = (mb.drop i).packets.card + 1 := by
    rw [hp, Multiset.card_cons, Nat.cast_succ]
  have hcount : (mb.drop i).count = mb.count - 1 := rfl
  rw [hcount, hs.count, hcard, add_sub_cancel_right]

lemma count_for_dest_eq (mb : State) (addr : UInt32) :
    mailbox_count_for_dest mb addr = mb.packets.countP fun e => e.addr_of true = addr :=
  count_eq_countP_held fun e : MailboxEntry => e.dest_addr = addr

lemma count_for_source_eq (mb : State) (addr : UInt32) :
    mailbox_count_for_source mb addr = mb.packets.countP fun e => e.addr_of false = addr :=
  count_eq_countP_held fun e : MailboxEntry => e.src_addr = addr

lemma has_duplicate_eq_false {packet_id : UInt32} :
    has_duplicate mb packet_id = false ↔ ∀ e ∈ mb.packets, e.packet_id ≠ packet_id := by
  rw [has_duplicate, Option.isSome_eq_false_iff, Option.isNone_iff_eq_none, find_eq_none]
  constructor
  · intro h e he heq
    obtain ⟨i, hused, rfl⟩ := mem_held.1 he
    have hi := h i
    simp [hused, heq] at hi
  · intro h i
    rcases hused : (mb.entries i).active with _ | _
    · rfl
    · simpa using h _ (mem_packets hused)

def IsOldest (s : Multiset MailboxEntry) (p : MailboxEntry → Prop) (e : MailboxEntry) : Prop :=
  e ∈ s ∧ p e ∧ ∀ e' ∈ s, p e' → e.stored_at_ms ≤ e'.stored_at_ms

lemma oldest_where_some {p : MailboxEntry → Bool} (hs : Sound mb)
    (h : oldest_where mb p = some i) :
    (mb.entries i).active ∧ IsOldest mb.packets (fun e => p e) (mb.entries i) := by
  have hi := argmaxOn_some h
  simp only [Bool.and_eq_true, decide_eq_true_eq] at hi
  refine ⟨hi.1.1, mem_packets hi.1.1, hi.1.2, ?_⟩
  intro e he hp
  obtain ⟨j, hused, rfl⟩ := mem_held.1 he
  have hlt := (hs.orderly.valid _ he).2
  have hle := le_argmaxOn (j := j) h (by simp [hused, hp, hlt])
  rw [UInt32.le_iff_toNat_le]
  have hlt' := UInt32.lt_iff_toNat_lt.1 hi.2
  simp at hlt hlt'
  omega

lemma oldest_where_none {p : MailboxEntry → Bool} (hs : Sound mb)
    (h : oldest_where mb p = none) : ∀ e ∈ mb.packets, p e = false := by
  intro e he
  obtain ⟨j, hused, rfl⟩ := mem_held.1 he
  have hj := argmaxOn_none h j
  simpa [hused, (hs.orderly.valid _ he).2] using hj

/-! ## One store -/

structure Evicted (by_dest : Bool) (addr : UInt32) (mb mb' : State)
    (gone : Multiset MailboxEntry) : Prop where
  sound : Sound mb'
  packets : mb.packets = gone + mb'.packets
  oldest : ∀ e ∈ gone, IsOldest mb.packets (fun e => e.addr_of by_dest = addr) e
  room : mb'.packets.countP (fun e => e.addr_of by_dest = addr) < quota by_dest
  capped : gone ≠ 0 → quota by_dest ≤ mb.packets.countP fun e => e.addr_of by_dest = addr

lemma matching_eq (addr : UInt32) (by_dest : Bool) (e : MailboxEntry) :
    matching addr by_dest e = decide (e.addr_of by_dest = addr) := by
  cases by_dest <;> rfl

lemma evict_at_cap_evicted (hs : Sound mb) (by_dest : Bool) (addr : UInt32) :
    ∃ gone, Evicted by_dest addr mb (evict_at_cap mb addr by_dest
      (mb.packets.countP fun e => e.addr_of by_dest = addr) (quota by_dest)) gone := by
  have hle := hs.orderly.quotas by_dest addr
  have hcap : 0 < quota by_dest := by cases by_dest <;> decide
  rw [evict_at_cap]
  split_ifs with hfull
  · rcases hfind : find_oldest mb addr by_dest with _ | i
    · -- a class that is full has a packet, and so an oldest one
      obtain ⟨e, he, hqe⟩ := Multiset.countP_pos.1 (hcap.trans_le hfull)
      have hno := oldest_where_none hs hfind e he
      rw [matching_eq, decide_eq_false_iff_not] at hno
      exact absurd hqe hno
    · obtain ⟨hused, hold⟩ := oldest_where_some hs hfind
      simp only [matching_eq, decide_eq_true_eq] at hold
      have hpackets := packets_drop hused
      rw [hpackets, Multiset.countP_cons, if_pos hold.2.1] at hle
      refine ⟨{mb.entries i}, hs.drop hused, ?_, ?_, hle, fun _ => hfull⟩
      · exact hpackets
      · intro e he
        rw [Multiset.mem_singleton.1 he]
        exact hold
  · refine ⟨0, hs, (zero_add _).symm, ?_, not_le.1 hfull, fun h => absurd rfl h⟩
    exact fun e he => absurd he (Multiset.notMem_zero e)

def Removable (s : Multiset MailboxEntry) (new e : MailboxEntry) : Prop :=
  IsOldest s (fun e' => e'.dest_addr = new.dest_addr) e ∨
    IsOldest s (fun e' => e'.src_addr = new.src_addr) e ∨
    s.card = MAILBOX_MAX_ENTRIES ∧ IsOldest s (fun _ => True) e

structure Cleared (new : MailboxEntry) (mb mb' : State) (i : Slot)
    (gone : Multiset MailboxEntry) : Prop where
  sound : Sound mb'
  free : (mb'.entries i).active = false
  packets : mb.packets = gone + mb'.packets
  removable : ∀ e ∈ gone, Removable mb.packets new e
  room : ∀ by_dest,
    mb'.packets.countP (fun e => e.addr_of by_dest = new.addr_of by_dest) < quota by_dest

lemma removable_evicted {new : MailboxEntry} {mb₁ mb₂ : State}
    {gone₁ gone₂ : Multiset MailboxEntry} (hs : Sound mb)
    (h₁ : Evicted true new.dest_addr mb mb₁ gone₁) (h₂ : Evicted false new.src_addr mb₁ mb₂ gone₂)
    (he : e ∈ gone₁ + gone₂) : Removable mb.packets new e := by
  rcases Multiset.mem_add.1 he with he | he
  · exact .inl (h₁.oldest e he)
  · obtain ⟨hmem, hsrc, hmin⟩ := h₂.oldest e he
    have hle : mb₁.packets ≤ mb.packets := h₁.packets ▸ Multiset.le_add_left _ _
    refine .inr (.inl ⟨Multiset.mem_of_le hle hmem, hsrc, fun e' he' hsrc' => ?_⟩)
    rw [h₁.packets] at he'
    rcases Multiset.mem_add.1 he' with hgone | hkept
    · -- had the first eviction taken a packet of this source, its quota would not be reached
      have hcapped := h₂.capped (fun h0 => Multiset.notMem_zero e (h0 ▸ he))
      have hquota := hs.orderly.quotas false new.src_addr
      have hone : 0 < gone₁.countP fun e => e.addr_of false = new.src_addr :=
        Multiset.countP_pos.2 ⟨e', hgone, hsrc'⟩
      rw [h₁.packets, Multiset.countP_add] at hquota
      omega
    · exact hmin e' hkept hsrc'

inductive Stored (mb : State) (new : MailboxEntry) : State × ℤ → Prop
  | refused {rc : ℤ} (h : rc ≠ 0) : Stored mb new (mb, rc)
  | put {mb' : State} {i : Slot} {gone : Multiset MailboxEntry} (h : Cleared new mb mb' i gone)
      (hpayload : 0 < new.payload.length ∧ new.payload.length ≤ MAILBOX_MAX_PAYLOAD)
      (hid : ∀ e ∈ mb.packets, e.packet_id ≠ new.packet_id) : Stored mb new (mb'.put i new, 0)

lemma mailbox_store_stored (hs : Sound mb) (src_addr dest_addr : UInt32) (payload : List UInt8)
    (packet_id now_ms : UInt32) :
    Stored mb ⟨true, src_addr, dest_addr, payload, now_ms, packet_id⟩
      (mailbox_store mb src_addr dest_addr payload packet_id now_ms) := by
  unfold mailbox_store
  split_ifs with hlen hdup
  · exact .refused (by decide)
  · exact .refused (by decide)
  have hid := has_duplicate_eq_false.1 (Bool.not_eq_true _ ▸ hdup)
  have hpayload : 0 < payload.length ∧ payload.length ≤ MAILBOX_MAX_PAYLOAD := by omega
  rw [count_for_dest_eq]
  obtain ⟨gone₁, h₁⟩ := evict_at_cap_evicted hs true dest_addr
  change Evicted _ _ _ (evict_at_cap mb dest_addr true _ MAILBOX_MAX_PER_DEST) _ at h₁
  dsimp only
  generalize evict_at_cap mb dest_addr true _ _ = mb₁ at h₁ ⊢
  rw [count_for_source_eq]
  obtain ⟨gone₂, h₂⟩ := evict_at_cap_evicted h₁.sound false src_addr
  change Evicted _ _ _ (evict_at_cap mb₁ src_addr false _ MAILBOX_MAX_PER_SOURCE) _ at h₂
  generalize evict_at_cap mb₁ src_addr false _ _ = mb₂ at h₂ ⊢
  have hpackets : mb.packets = gone₁ + gone₂ + mb₂.packets := by
    rw [h₁.packets, h₂.packets, add_assoc]
  have hle : mb₂.packets ≤ mb₁.packets := h₂.packets ▸ Multiset.le_add_left _ _
  have hroom : ∀ s ≤ mb₂.packets, ∀ by_dest, s.countP (fun e => e.addr_of by_dest =
      MailboxEntry.addr_of ⟨true, src_addr, dest_addr, payload, now_ms, packet_id⟩ by_dest) <
        quota by_dest
    | s, hs, true => (Multiset.countP_le_of_le _ (hs.trans hle)).trans_lt h₁.room
    | s, hs, false => (Multiset.countP_le_of_le _ hs).trans_lt h₂.room
  rcases hfree : find_free_slot mb₂ with _ | i
  · -- no slot is free: the quotas have removed nothing and every slot is in use
    have hall : ∀ i, (mb₂.entries i).active := by
      intro i
      simpa using find_eq_none.1 hfree i
    have hcard : mb₂.packets.card = MAILBOX_MAX_ENTRIES := card_held_full hall
    have hmax : mb.packets.card ≤ MAILBOX_MAX_ENTRIES := card_held_le
    have hnone : gone₁ + gone₂ = 0 := by
      rw [hpackets, Multiset.card_add, hcard] at hmax
      exact Multiset.card_eq_zero.1 (by omega)
    rw [hnone, zero_add] at hpackets
    rcases hold : find_oldest_global mb₂ with _ | i
    · have hno := oldest_where_none h₂.sound hold _ (mem_packets (hall 0))
      cases hno
    · obtain ⟨hused, hmem, -, hmin⟩ := oldest_where_some h₂.sound hold
      have hdrop := packets_drop hused
      have hless : (mb₂.drop i).packets ≤ mb₂.packets := hdrop ▸ Multiset.le_cons_self _ _
      have hinactive : ((mb₂.drop i).entries i).active = false := by
        unfold State.drop
        dsimp only
        rw [update_self]
      have hsplit : mb.packets = {mb₂.entries i} + (mb₂.drop i).packets := by
        rw [hpackets, Multiset.singleton_add]
        exact hdrop
      refine .put ⟨h₂.sound.drop hused, hinactive, hsplit, ?_, hroom _ hless⟩ hpayload hid
      intro e he
      rw [Multiset.mem_singleton.1 he, hpackets]
      exact .inr (.inr ⟨hcard, hmem, trivial, fun e' he' _ => hmin e' he' rfl⟩)
  · exact .put ⟨h₂.sound, by simpa using find_some hfree, hpackets,
      fun e he => removable_evicted hs h₁ h₂ he, hroom _ le_rfl⟩ hpayload hid

lemma Orderly.cons (h : Orderly s) (hid : ∀ e' ∈ s, e'.packet_id ≠ e.packet_id)
    (hroom : ∀ by_dest, s.countP (fun e' => e'.addr_of by_dest = e.addr_of by_dest) < quota by_dest)
    (hvalid : e.Valid) : Orderly (e ::ₘ s) where
  ids := by
    rw [Multiset.map_cons, Multiset.nodup_cons]
    refine ⟨fun hmem => ?_, h.ids⟩
    obtain ⟨e', he', heq⟩ := Multiset.mem_map.1 hmem
    exact hid e' he' heq
  quotas by_dest addr := by
    rw [Multiset.countP_cons]
    split_ifs with heq
    · rw [← heq]
      exact hroom by_dest
    · exact h.quotas by_dest addr
  valid := Multiset.forall_mem_cons.2 ⟨hvalid, h.valid⟩

lemma Sound.put (hs : Sound mb) (hfree : (mb.entries i).active = false) (he : e.active = true)
    (ho : Orderly (e ::ₘ mb.packets)) : Sound (mb.put i e) := by
  have hp := packets_put hfree he
  refine ⟨?_, hp ▸ ho⟩
  have hcount : (mb.put i e).count = mb.count + 1 := rfl
  rw [hcount, hp, Multiset.card_cons, Nat.cast_succ, hs.count]

lemma Stored.sound {new : MailboxEntry} {result : State × ℤ} (h : Stored mb new result)
    (hs : Sound mb) (hnew : new.active) (hnow : new.stored_at_ms < 0xFFFFFFFF) :
    Sound result.1 := by
  cases h with
  | refused => exact hs
  | put hc hpayload hid =>
    have hle := hc.packets ▸ Multiset.le_add_left _ _
    apply hc.sound.put hc.free hnew
    exact hc.sound.orderly.cons (fun e he => hid e (Multiset.mem_of_le hle he)) hc.room
      ⟨hpayload, hnow⟩

/-! ## Retrieving and purging -/

structure Retrieved (dest_addr : UInt32) (max_out : ℕ) (mb : State) (seen : List Slot)
    (r : State × List MailboxEntry) : Prop where
  sound : Sound r.1
  packets : mb.packets = r.2 + r.1.packets
  dest : ∀ e ∈ r.2, e.dest_addr = dest_addr
  rest : ∀ i ∈ seen, (r.1.entries i).active → (r.1.entries i).dest_addr = dest_addr →
    max_out ≤ r.2.length

lemma retrieved_slot {dest_addr : UInt32} {max_out : ℕ} {seen : List Slot}
    {r : State × List MailboxEntry} (h : Retrieved dest_addr max_out mb seen r) (i : Slot) :
    Retrieved dest_addr max_out mb (seen ++ [i]) (retrieve_slot dest_addr max_out r i) := by
  rw [retrieve_slot]
  split_ifs with hcond
  · obtain ⟨hlen, hused, hdest⟩ := hcond
    refine ⟨h.sound.drop hused, ?_, ?_, ?_⟩
    · rw [h.packets, packets_drop hused, ← Multiset.coe_add, Multiset.coe_singleton, add_assoc,
        Multiset.singleton_add]
    · intro e he
      rcases mem_append.1 he with he | he
      · exact h.dest e he
      · rw [mem_singleton.1 he]
        exact hdest
    · intro j hj hactive hdest'
      rw [length_append, length_singleton]
      by_cases hji : j = i
      · subst hji
        simp [State.drop] at hactive
      · have hsame : (r.1.drop i).entries j = r.1.entries j := update_of_ne hji _ _
        rw [hsame] at hactive hdest'
        have hmem : j ∈ seen := by simpa [hji] using hj
        exact (h.rest j hmem hactive hdest').trans (Nat.le_succ _)
  · refine ⟨h.sound, h.packets, h.dest, fun j hj hactive hdest => ?_⟩
    rcases mem_append.1 hj with hj | hj
    · exact h.rest j hj hactive hdest
    · rw [mem_singleton.1 hj] at hactive hdest
      exact not_lt.1 fun hlt => hcond ⟨hlt, hactive, hdest⟩

lemma mailbox_retrieve_retrieved (hs : Sound mb) (dest_addr : UInt32) (max_out : ℕ) :
    Retrieved dest_addr max_out mb (finRange _) (mailbox_retrieve mb dest_addr max_out) := by
  unfold mailbox_retrieve
  induction finRange MAILBOX_MAX_ENTRIES using List.reverseRecOn with
  | nil =>
    exact ⟨hs, (zero_add _).symm, fun e he => absurd he not_mem_nil,
      fun i hi => absurd hi not_mem_nil⟩
  | append_singleton seen i ih =>
    rw [foldl_append, foldl_cons, foldl_nil]
    exact retrieved_slot ih i

lemma Sound.purge (hs : Sound mb) (now_ms : UInt32) :
    Sound (mailbox_purge_expired mb now_ms) := by
  apply foldlRecOn
  · exact hs
  · intro mb hs i _
    split_ifs with hcond
    · exact hs.drop hcond.1
    · exact hs

/-! ## Flushing -/

def flushed (address : UInt32) (e : MailboxEntry) : MailboxEntry :=
  { e with payload := Wire.rewrite_prev_hop e.payload address }

lemma length_rewrite_prev_hop (buf : List UInt8) (address : UInt32) :
    (Wire.rewrite_prev_hop buf address).length = buf.length := by
  unfold Wire.rewrite_prev_hop
  split_ifs with hlen
  · simp only [length_append, length_take, length_drop, Bytes.length_le32]
    omega
  · rfl

lemma getElem?_rewrite_prev_hop (buf : List UInt8) (address : UInt32) {i : ℕ}
    (hi : i < Wire.BRAMBLE_DATA_PREV_HOP_OFFSET ∨ Wire.BRAMBLE_DATA_PREV_HOP_OFFSET + 4 ≤ i) :
    (Wire.rewrite_prev_hop buf address)[i]? = buf[i]? := by
  unfold Wire.rewrite_prev_hop
  split_ifs with hlen
  · rcases hi with hi | hi
    · rw [append_assoc, getElem?_append_left (by rw [length_take]; omega),
        getElem?_take_of_lt hi]
    · have hfront : (buf.take Wire.BRAMBLE_DATA_PREV_HOP_OFFSET ++ Bytes.le32 address).length =
          Wire.BRAMBLE_DATA_PREV_HOP_OFFSET + 4 := by
        rw [length_append, length_take, Bytes.length_le32]
        omega
      rw [getElem?_append_right (by omega), hfront, getElem?_drop, Nat.add_sub_cancel' hi]
  · rfl

lemma Orderly.flushed (h : Orderly (s + t)) (address : UInt32) :
    Orderly (s + t.map (flushed address)) where
  ids := by
    have hids := h.ids
    rw [Multiset.map_add] at hids ⊢
    rwa [Multiset.map_map]
  quotas by_dest addr := by
    have hq := h.quotas by_dest addr
    have hsame : ∀ e, (Mailbox.flushed address e).addr_of by_dest = e.addr_of by_dest := by
      cases by_dest <;> exact fun _ => rfl
    rw [Multiset.countP_add] at hq ⊢
    simpa only [Multiset.countP_map, hsame, ← Multiset.countP_eq_card_filter] using hq
  valid e he := by
    rcases Multiset.mem_add.1 he with he | he
    · exact h.valid e (Multiset.mem_add.2 (.inl he))
    · obtain ⟨e', he', rfl⟩ := Multiset.mem_map.1 he
      obtain ⟨hlen, hstored⟩ := h.valid e' (Multiset.mem_add.2 (.inr he'))
      rw [← length_rewrite_prev_hop _ address] at hlen
      exact ⟨hlen, hstored⟩

lemma mailbox_store_fits (hs : Sound mb) (he : e.active)
    (ho : Orderly (e ::ₘ mb.packets)) (hcard : mb.packets.card < MAILBOX_MAX_ENTRIES) :
    Sound (mailbox_store mb e.src_addr e.dest_addr e.payload e.packet_id e.stored_at_ms).1 ∧
      (mailbox_store mb e.src_addr e.dest_addr e.payload e.packet_id e.stored_at_ms).1.packets =
        e ::ₘ mb.packets := by
  have hdest := ho.quotas true e.dest_addr
  have hsource := ho.quotas false e.src_addr
  rw [Multiset.countP_cons, if_pos (by rfl), ← count_for_dest_eq] at hdest
  rw [Multiset.countP_cons, if_pos (by rfl), ← count_for_source_eq] at hsource
  have hids := ho.ids
  rw [Multiset.map_cons, Multiset.nodup_cons] at hids
  have hdup : has_duplicate mb e.packet_id = false :=
    has_duplicate_eq_false.2 fun e' he' heq => hids.1 (Multiset.mem_map.2 ⟨e', he', heq⟩)
  have hlen := (ho.valid e (Multiset.mem_cons_self e _)).1
  unfold mailbox_store
  rw [if_neg (by omega), hdup, if_neg Bool.false_ne_true]
  dsimp only
  have hnodest : evict_at_cap mb e.dest_addr true (mailbox_count_for_dest mb e.dest_addr)
      MAILBOX_MAX_PER_DEST = mb := if_neg (Nat.not_le.2 hdest)
  have hnosource : evict_at_cap mb e.src_addr false (mailbox_count_for_source mb e.src_addr)
      MAILBOX_MAX_PER_SOURCE = mb := if_neg (Nat.not_le.2 hsource)
  rw [hnodest, hnosource]
  rcases hfree : find_free_slot mb with _ | i
  · refine absurd (card_held_full fun i => ?_) hcard.ne
    simpa using find_eq_none.1 hfree i
  · have hinactive : (mb.entries i).active = false := by simpa using find_some hfree
    have hsame : (⟨true, e.src_addr, e.dest_addr, e.payload, e.stored_at_ms, e.packet_id⟩ :
        MailboxEntry) = e := by
      rw [← he]
    rw [hsame]
    exact ⟨hs.put hinactive he ho, packets_put hinactive he⟩

def put_back (address : UInt32) (sent : ℕ → Bool) (i : ℕ) (out : List MailboxEntry) :
    List MailboxEntry :=
  ((out.zipIdx i).filter fun x => !sent x.2).map fun x => flushed address x.1

lemma flush_loop_puts_back (address : UInt32) (sent : ℕ → Bool) (rest : List MailboxEntry) :
    ∀ (i : ℕ) (mb : State), Sound mb → (∀ e ∈ rest, e.active) →
      Orderly (mb.packets + (rest.map (flushed address) : List MailboxEntry)) →
      mb.packets.card + rest.length ≤ MAILBOX_MAX_ENTRIES →
      Sound (flush_loop address sent mb i rest) ∧
        (flush_loop address sent mb i rest).packets =
          mb.packets + (put_back address sent i rest : List MailboxEntry) := by
  induction rest with
  | nil => exact fun i mb hs _ _ _ => ⟨hs, (add_zero _).symm⟩
  | cons e rest ih =>
    intro i mb hs hactive ho hcard
    rw [length_cons] at hcard
    have hcons : mb.packets + ((e :: rest).map (flushed address) : List MailboxEntry) =
        flushed address e ::ₘ mb.packets + (rest.map (flushed address) : List MailboxEntry) := by
      rw [map_cons, ← Multiset.cons_coe, Multiset.add_cons, Multiset.cons_add]
    rw [hcons] at ho
    have hrest : ∀ e ∈ rest, e.active := fun e he =>
      hactive e (mem_cons_of_mem _ he)
    rw [flush_loop, put_back, zipIdx_cons]
    by_cases hsent : sent i
    · rw [if_pos hsent, filter_cons_of_neg (by simp [hsent])]
      apply ih (i + 1) mb hs hrest (ho.mono _) (by omega)
      exact Multiset.add_le_add_right (Multiset.le_cons_self _ _)
    · rw [if_neg hsent, filter_cons_of_pos (by simp [hsent]), map_cons]
      have hfits := mailbox_store_fits (e := flushed address e) hs
        (hactive e mem_cons_self) (ho.mono (Multiset.le_add_right _ _)) (by omega)
      obtain ⟨hsound, hpackets⟩ := hfits
      obtain ⟨hs', hp'⟩ := ih (i + 1) _ hsound hrest (hpackets.symm ▸ ho)
        (by rw [hpackets, Multiset.card_cons]; omega)
      refine ⟨hs', hp'.trans ?_⟩
      rw [hpackets, ← Multiset.cons_coe, Multiset.add_cons, Multiset.cons_add]
      rfl

lemma flush_for_spec (hs : Sound mb) (address dest_addr : UInt32) (sent : ℕ → Bool) :
    let out := (mailbox_retrieve mb dest_addr MAILBOX_MAX_PER_DEST).2
    Sound (mailbox_flush_for mb address dest_addr sent) ∧
      (out : Multiset MailboxEntry) = mb.packets.filter (fun e => e.dest_addr = dest_addr) ∧
        (mailbox_flush_for mb address dest_addr sent).packets =
          mb.packets.filter (fun e => e.dest_addr ≠ dest_addr) +
            (put_back address sent 0 out : List MailboxEntry) := by
  have hr := mailbox_retrieve_retrieved hs dest_addr MAILBOX_MAX_PER_DEST
  unfold mailbox_flush_for
  generalize mailbox_retrieve mb dest_addr MAILBOX_MAX_PER_DEST = r at hr
  obtain ⟨mb', out⟩ := r
  obtain ⟨hsound, hpackets, hdest, hrest⟩ := hr
  dsimp only at hsound hpackets hdest hrest ⊢
  -- the quota leaves nothing for the destination behind
  have hclear : ∀ e ∈ mb'.packets, e.dest_addr ≠ dest_addr := by
    intro e he heq
    obtain ⟨i, hused, rfl⟩ := mem_held.1 he
    have hlen := hrest i (mem_finRange i) hused heq
    have hquota : _ ≤ MAILBOX_MAX_PER_DEST := hs.orderly.quotas true dest_addr
    have hone : 0 < mb'.packets.countP fun e => e.addr_of true = dest_addr :=
      Multiset.countP_pos.2 ⟨_, he, heq⟩
    have hout : (out : Multiset MailboxEntry).countP (fun e => e.addr_of true = dest_addr) =
        out.length :=
      (Multiset.countP_eq_card.2 hdest).trans (Multiset.coe_card out)
    rw [hpackets, Multiset.countP_add, hout] at hquota
    omega
  have hactive : ∀ e ∈ out, e.active := by
    intro e he
    have hmem : e ∈ mb.packets := by
      rw [hpackets]
      exact Multiset.mem_add.2 (.inl he)
    obtain ⟨i, hused, rfl⟩ := mem_held.1 hmem
    exact hused
  have hcard : mb.packets.card ≤ MAILBOX_MAX_ENTRIES := card_held_le
  rw [hpackets, Multiset.card_add, Multiset.coe_card] at hcard
  have ho : Orderly (mb'.packets + (out.map (flushed address) : List MailboxEntry)) := by
    rw [← Multiset.map_coe]
    apply Orderly.flushed
    rw [add_comm, ← hpackets]
    exact hs.orderly
  obtain ⟨hs', hp'⟩ := flush_loop_puts_back address sent out 0 mb' hsound hactive ho (by omega)
  refine ⟨hs', ?_, ?_⟩
  · rw [hpackets, Multiset.filter_add, Multiset.filter_eq_self.2 hdest,
      Multiset.filter_eq_nil.2 hclear, add_zero]
  · rw [hp', hpackets, Multiset.filter_add, Multiset.filter_eq_self.2 hclear,
      Multiset.filter_eq_nil.2 fun e he hne => hne (hdest e he), zero_add]

/-! ## Whole histories -/

inductive Call
  | store (src_addr dest_addr : UInt32) (payload : List UInt8) (packet_id now_ms : UInt32)
  | retrieve (dest_addr : UInt32) (max_out : ℕ)
  | purge_expired (now_ms : UInt32)
  | flush_for (address dest_addr : UInt32) (sent : ℕ → Bool)

def call (mb : State) : Call → State
  | .store src_addr dest_addr payload packet_id now_ms =>
    (mailbox_store mb src_addr dest_addr payload packet_id now_ms).1
  | .retrieve dest_addr max_out => (mailbox_retrieve mb dest_addr max_out).1
  | .purge_expired now_ms => mailbox_purge_expired mb now_ms
  | .flush_for address dest_addr sent => mailbox_flush_for mb address dest_addr sent

def Call.Timely : Call → Prop
  | .store _ _ _ _ now_ms => now_ms < 0xFFFFFFFF
  | _ => True

lemma sound_init : Sound mailbox_init := by
  have hempty : mailbox_init.packets = 0 := by
    apply Multiset.eq_zero_of_forall_notMem
    intro e he
    obtain ⟨i, hused, -⟩ := mem_held.1 he
    cases hused
  refine ⟨by rw [hempty]; rfl, hempty ▸ ⟨Multiset.nodup_zero, ?_, ?_⟩⟩
  · exact fun _ _ => Nat.zero_le _
  · exact fun e he => absurd he (Multiset.notMem_zero e)

lemma sound_run (calls : List Call) (htimes : ∀ c ∈ calls, c.Timely) :
    Sound (calls.foldl call mailbox_init) := by
  apply foldlRecOn
  · exact sound_init
  · intro mb hs c hc
    cases c with
    | store src_addr dest_addr payload packet_id now_ms =>
      exact (mailbox_store_stored hs ..).sound hs rfl (htimes _ hc)
    | retrieve dest_addr max_out => exact (mailbox_retrieve_retrieved hs dest_addr max_out).sound
    | purge_expired now_ms => exact hs.purge now_ms
    | flush_for address dest_addr sent => exact (flush_for_spec hs address dest_addr sent).1

/-- **Mailbox quotas.**  After any calls the counter is the number of packets, their ids are
distinct and no destination and no source has more than its quota.  A store that succeeds keeps the
packet and gives up only an oldest of its destination, an oldest of its source, or, if the mailbox
was full, an oldest of all; one that fails changes nothing. -/
theorem mailbox_quotas (calls : List Call) (htimes : ∀ c ∈ calls, c.Timely)
    (src_addr dest_addr : UInt32) (payload : List UInt8) (packet_id now_ms : UInt32) :
    let mb := calls.foldl call mailbox_init
    let new : MailboxEntry := ⟨true, src_addr, dest_addr, payload, now_ms, packet_id⟩
    let result := mailbox_store mb src_addr dest_addr payload packet_id now_ms
    (mb.count = mb.packets.card ∧ (mb.packets.map MailboxEntry.packet_id).Nodup ∧
      (∀ addr, mailbox_count_for_dest mb addr ≤ MAILBOX_MAX_PER_DEST) ∧
      ∀ addr, mailbox_count_for_source mb addr ≤ MAILBOX_MAX_PER_SOURCE) ∧
    (result.2 = 0 → new ∈ result.1.packets ∧ ∃ gone,
      new ::ₘ mb.packets = gone + result.1.packets ∧ ∀ e ∈ gone, Removable mb.packets new e) ∧
    (result.2 ≠ 0 → result.1 = mb) := by
  intro mb new result
  have hs : Sound mb := sound_run calls htimes
  have hstored : Stored mb new result := mailbox_store_stored hs ..
  refine ⟨⟨hs.count, hs.orderly.ids, fun addr => ?_, fun addr => ?_⟩, ?_, ?_⟩
  · rw [count_for_dest_eq]
    exact hs.orderly.quotas true addr
  · rw [count_for_source_eq]
    exact hs.orderly.quotas false addr
  · intro hrc
    generalize result = result at hstored hrc
    cases hstored with
    | refused h => exact absurd hrc h
    | @put mb' i gone hc =>
      have hp := packets_put hc.free (e := new) rfl
      refine ⟨hp ▸ Multiset.mem_cons_self new _, gone, ?_, hc.removable⟩
      rw [hp, hc.packets, Multiset.add_cons]
  · intro hrc
    generalize result = result at hstored hrc
    cases hstored with
    | refused => rfl
    | put => exact absurd rfl hrc

def two_stores : List Call := [.store 1 2 [0] 7 100, .store 3 2 [0] 8 200]

lemma two_stores_timely : ∀ c ∈ two_stores, c.Timely := by
  intro c hc
  rcases mem_pair.1 hc with rfl | rfl
  · exact (by decide : (100 : UInt32) < 0xFFFFFFFF)
  · exact (by decide : (200 : UInt32) < 0xFFFFFFFF)

theorem mailbox_quotas_third :
    (⟨true, 1, 2, [5], 300, 9⟩ : MailboxEntry) ∈
      (mailbox_store (two_stores.foldl call mailbox_init) 1 2 [5] 9 300).1.packets :=
  ((mailbox_quotas two_stores two_stores_timely 1 2 [5] 9 300).2.1 (by decide +kernel)).1

/-- **Flushing loses nothing.**  A flush takes out all packets for its destination. After it the
mailbox holds those for others and, of the ones taken out, each whose transmission failed, with
nothing changed but the bytes of the previous hop. -/
theorem flush_loses_nothing (calls : List Call) (htimes : ∀ c ∈ calls, c.Timely)
    (address dest_addr : UInt32) (sent : ℕ → Bool) :
    let mb := calls.foldl call mailbox_init
    let mb' := mailbox_flush_for mb address dest_addr sent
    let out := (mailbox_retrieve mb dest_addr MAILBOX_MAX_PER_DEST).2
    mb'.count = mb'.packets.card ∧
    (out : Multiset MailboxEntry) = mb.packets.filter (fun e => e.dest_addr = dest_addr) ∧
    mb'.packets = mb.packets.filter (fun e => e.dest_addr ≠ dest_addr) +
      (put_back address sent 0 out : List MailboxEntry) ∧
    ∀ (e : MailboxEntry) (i : ℕ),
      i < Wire.BRAMBLE_DATA_PREV_HOP_OFFSET ∨ Wire.BRAMBLE_DATA_PREV_HOP_OFFSET + 4 ≤ i →
        (flushed address e).payload[i]? = e.payload[i]? := by
  intro mb mb' out
  obtain ⟨hs', hout, hpackets⟩ := flush_for_spec (sound_run calls htimes) address dest_addr sent
  exact ⟨hs'.count, hout, hpackets, fun e i hi => getElem?_rewrite_prev_hop e.payload address hi⟩

theorem flush_loses_nothing_two :
    (mailbox_flush_for (two_stores.foldl call mailbox_init) 6 2 fun i => i == 0).count = 1 ∧
      (mailbox_flush_for (two_stores.foldl call mailbox_init) 6 2 fun i => i == 0).count =
        (mailbox_flush_for (two_stores.foldl call mailbox_init) 6 2 fun i => i == 0).packets.card :=
  ⟨by decide +kernel, (flush_loses_nothing two_stores two_stores_timely 6 2 fun i => i == 0).1⟩

end BrambleMesh.Mailbox
