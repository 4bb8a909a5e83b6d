/-
Fragmentation of long messages: components/fragment/fragment.c. At most four chunks of 154 bytes,
collected in slots that are found by the 16-bit message id alone.
-/
import BrambleMesh.Lib.Table
import BrambleMesh.Lib.Bytes

namespace BrambleMesh.Fragment

open Function List UInt8

/-! ## Cutting a message into fragments -/

abbrev FRAG_MAX_PLAINTEXT : ℕ := 154
abbrev FRAG_MAX_FRAGMENTS : ℕ := 4
abbrev FRAG_MAX_REASSEMBLIES : ℕ := 4
abbrev FRAG_REASSEMBLY_TIMEOUT_MS : UInt32 := 30000
abbrev FRAG_HEADER_SIZE : ℕ := 4

def num_frags (pt_len : ℕ) : ℕ := (pt_len + FRAG_MAX_PLAINTEXT - 1) / FRAG_MAX_PLAINTEXT

def chunk (plaintext : List UInt8) (i : ℕ) : List UInt8 :=
  (plaintext.drop (i * FRAG_MAX_PLAINTEXT)).take FRAG_MAX_PLAINTEXT

def fragment_bytes (plaintext : List UInt8) (message_id : UInt16) (total i : ℕ) : List UInt8 :=
  [UInt8.ofNat i, UInt8.ofNat total, (message_id &&& 0xFF).toUInt8,
    ((message_id >>> 8) &&& 0xFF).toUInt8] ++ chunk plaintext i

def fragment_split (plaintext : List UInt8) (message_id : UInt16) (max_frags : ℕ) :
    Option (List (List UInt8)) :=
  if plaintext.length = 0 then none
  else if FRAG_MAX_FRAGMENTS < num_frags plaintext.length ∨ max_frags < num_frags plaintext.length
  then none
  else some ((List.range (num_frags plaintext.length)).map
    (fragment_bytes plaintext message_id (num_frags plaintext.length)))

structure FragHeader where
  frag_index : UInt8
  frag_total : UInt8
  message_id : UInt16
deriving DecidableEq, Repr

def frag_header (data : List UInt8) : FragHeader :=
  ⟨data.getD 0 0, data.getD 1 0, (data.getD 2 0).toUInt16 ||| (data.getD 3 0).toUInt16 <<< 8⟩

/-! ## The reassembly table -/

structure Slot where
  message_id : UInt16
  total : UInt8
  received_mask : UInt8
  data : Fin FRAG_MAX_FRAGMENTS → List UInt8
  start_time : UInt32
  first_packet_id : UInt32
  active : Bool
deriving DecidableEq

abbrev ReassemblyCtx := Fin FRAG_MAX_REASSEMBLIES → Slot

def reassembly_init : ReassemblyCtx := fun _ => ⟨0, 0, 0, fun _ => [], 0, 0, false⟩

def slot_of (ctx : ReassemblyCtx) (message_id : UInt16) : Option (Fin FRAG_MAX_REASSEMBLIES) :=
  Table.find (fun s => s.active && s.message_id == message_id) ctx

inductive AddResult
  | refused
  | pending
  | complete
deriving DecidableEq, Repr

def frag_bit (frag_index : UInt8) : UInt8 := 1 <<< frag_index

def full_mask (total : UInt8) : UInt8 := UInt8.ofNat (2 ^ total.toNat - 1)

def opened (hdr : FragHeader) (now_ms : UInt32) (old : Slot) : Slot :=
  ⟨hdr.message_id, hdr.frag_total, 0, fun _ => [], now_ms, old.first_packet_id, true⟩

def noted (slot : Slot) (packet_id : UInt32) : Slot :=
  if slot.received_mask = 0 then { slot with first_packet_id := packet_id } else slot

def stored (slot : Slot) (frag_index : UInt8) (frag_data : List UInt8) : Slot :=
  { slot with
    data := fun j => if j.val = frag_index.toNat then frag_data else slot.data j
    received_mask := slot.received_mask ||| frag_bit frag_index }

def closed (slot : Slot) : Slot := { slot with active := false }

def add_to_slot (ctx : ReassemblyCtx) (i : Fin FRAG_MAX_REASSEMBLIES) (hdr : FragHeader)
    (frag_data : List UInt8) (packet_id : UInt32) : ReassemblyCtx × AddResult :=
  if hdr.frag_total ≠ (ctx i).total then (ctx, .refused)
  else if (ctx i).received_mask &&& frag_bit hdr.frag_index ≠ 0 then
    (update ctx i (noted (ctx i) packet_id), .pending)
  else
    (update ctx i (stored (noted (ctx i) packet_id) hdr.frag_index frag_data),
      if (ctx i).received_mask ||| frag_bit hdr.frag_index = full_mask (ctx i).total then .complete
      else .pending)

def reassembly_add (ctx : ReassemblyCtx) (hdr : FragHeader) (frag_data : List UInt8)
    (now_ms packet_id : UInt32) : ReassemblyCtx × AddResult :=
  if hdr.frag_total ≤ hdr.frag_index then (ctx, .refused)
  else if 4 < hdr.frag_total then (ctx, .refused)
  else if FRAG_MAX_PLAINTEXT < frag_data.length then (ctx, .refused)
  else
    match slot_of ctx hdr.message_id with
    | some i =>
      if FRAG_REASSEMBLY_TIMEOUT_MS < now_ms - (ctx i).start_time then
        (update ctx i (closed (ctx i)), .refused)
      else add_to_slot ctx i hdr frag_data packet_id
    | none =>
      match Table.find (fun s => !s.active) ctx with
      | some i =>
        add_to_slot (update ctx i (opened hdr now_ms (ctx i))) i hdr frag_data packet_id
      | none => (ctx, .refused)

def collected (slot : Slot) : List UInt8 :=
  ((List.finRange FRAG_MAX_FRAGMENTS).take slot.total.toNat).flatMap slot.data

def reassembly_collect (ctx : ReassemblyCtx) (message_id : UInt16) (out_max : ℕ) :
    ReassemblyCtx × Option (List UInt8) :=
  match slot_of ctx message_id with
  | none => (ctx, none)
  | some i =>
    if (ctx i).total = 0 ∨ (ctx i).received_mask ≠ full_mask (ctx i).total then (ctx, none)
    else if out_max < (collected (ctx i)).length then (ctx, none)
    else (update ctx i (closed (ctx i)), some (collected (ctx i)))

def reassembly_get_first_packet_id (ctx : ReassemblyCtx) (message_id : UInt16) : UInt32 :=
  match slot_of ctx message_id with
  | some i => (ctx i).first_packet_id
  | none => 0

def reassembly_purge (ctx : ReassemblyCtx) (now_ms : UInt32) : ReassemblyCtx := fun i =>
  if (ctx i).active ∧ FRAG_REASSEMBLY_TIMEOUT_MS < now_ms - (ctx i).start_time then
    closed (ctx i)
  else ctx i

/-! ## What a fragment carries -/

lemma fragment_split_some {plaintext : List UInt8} {message_id : UInt16} {max_frags : ℕ}
    {frags : List (List UInt8)} (h : fragment_split plaintext message_id max_frags = some frags) :
    plaintext.length ≠ 0 ∧ num_frags plaintext.length ≤ FRAG_MAX_FRAGMENTS ∧
      frags = (range (num_frags plaintext.length)).map
        (fragment_bytes plaintext message_id (num_frags plaintext.length)) := by
  unfold fragment_split at h
  split at h
  · cases h
  · next hpos =>
    split at h
    · cases h
    · next hmax =>
      exact ⟨hpos, not_lt.1 fun hlt => hmax (.inl hlt), (Option.some_inj.1 h).symm⟩

lemma flatMap_chunk (plaintext : List UInt8) (n : ℕ) :
    (range n).flatMap (chunk plaintext) = plaintext.take (n * FRAG_MAX_PLAINTEXT) := by
  induction n with
  | zero => simp
  | succ n ih =>
    rw [range_succ, flatMap_append, ih, flatMap_singleton, chunk, Nat.succ_mul,
      take_add]

lemma length_le_num_frags (n : ℕ) : n ≤ num_frags n * FRAG_MAX_PLAINTEXT := by
  unfold num_frags FRAG_MAX_PLAINTEXT
  omega

lemma message_id_roundtrip (v : UInt16) :
    (v &&& 0xFF).toUInt8.toUInt16 ||| ((v >>> 8) &&& 0xFF).toUInt8.toUInt16 <<< 8 = v := by
  have hv := v.toNat_lt
  rw [← UInt16.toNat_inj, UInt16.toNat_or, UInt16.toNat_shiftLeft]
  have hlow : (v &&& 0xFF).toUInt8.toUInt16.toNat = v.toNat % 256 := by
    change (v.toNat &&& 2 ^ 8 - 1) % _ = _
    rw [Nat.and_two_pow_sub_one_eq_mod]
    omega
  have hhigh : ((v >>> 8) &&& 0xFF).toUInt8.toUInt16.toNat = v.toNat / 256 := by
    change (v.toNat >>> 8 &&& 2 ^ 8 - 1) % _ = _
    rw [Nat.and_two_pow_sub_one_eq_mod]
    omega
  have hshift : (v.toNat / 256) <<< 8 % 2 ^ 16 = (v.toNat / 256) <<< 8 :=
    Nat.mod_eq_of_lt (by rw [Nat.shiftLeft_eq]; omega)
  rw [hlow, hhigh]
  change v.toNat % 256 ||| (v.toNat / 256) <<< 8 % 2 ^ 16 = v.toNat
  rw [hshift, Nat.or_comm, ← Nat.shiftLeft_add_eq_or_of_lt (by omega : v.toNat % 256 < 2 ^ 8)]
  omega

lemma frag_header_fragment_bytes (plaintext : List UInt8) (message_id : UInt16) (total i : ℕ) :
    frag_header (fragment_bytes plaintext message_id total i) =
      ⟨ofNat i, ofNat total, message_id⟩ := by
  have hid := message_id_roundtrip message_id
  simp only [frag_header, fragment_bytes, cons_append, getD_cons_zero,
    getD_cons_succ, hid]

lemma drop_fragment_bytes (plaintext : List UInt8) (message_id : UInt16) (total i : ℕ) :
    (fragment_bytes plaintext message_id total i).drop FRAG_HEADER_SIZE = chunk plaintext i := rfl

/-! ## The mask

The mask stands for the set of chunks received.  There are four chunks at most, so what is
needed about the bits is a finite check. -/

def mask_of (got : Finset (Fin FRAG_MAX_FRAGMENTS)) : UInt8 :=
  (List.finRange FRAG_MAX_FRAGMENTS).foldl
    (fun m j => if j ∈ got then m ||| frag_bit (UInt8.ofNat j.val) else m) 0

def all_chunks (total : ℕ) : Finset (Fin FRAG_MAX_FRAGMENTS) :=
  Finset.univ.filter fun j => j.val < total

lemma mask_of_and_bit : ∀ got, ∀ j : Fin FRAG_MAX_FRAGMENTS,
    mask_of got &&& frag_bit (ofNat j.val) ≠ 0 ↔ j ∈ got := by decide +kernel

lemma mask_of_or_bit : ∀ got, ∀ j : Fin FRAG_MAX_FRAGMENTS,
    mask_of got ||| frag_bit (ofNat j.val) = mask_of (insert j got) := by decide +kernel

lemma mask_of_eq_full : ∀ got, ∀ total < 5,
    mask_of got = full_mask (ofNat total) ↔ got = all_chunks total := by decide +kernel

/-! ## What a slot holds -/

structure Slot.Holds (slot : Slot) (plaintext : List UInt8) (message_id : UInt16) (total : ℕ)
    (got : Finset (Fin FRAG_MAX_FRAGMENTS)) : Prop where
  active : slot.active
  message_id_eq : slot.message_id = message_id
  total_eq : slot.total = UInt8.ofNat total
  mask : slot.received_mask = mask_of got
  data : ∀ j ∈ got, slot.data j = chunk plaintext j.val

variable {slot : Slot} {plaintext : List UInt8} {message_id : UInt16} {total : ℕ}
  {got : Finset (Fin FRAG_MAX_FRAGMENTS)}

lemma noted_eq (slot : Slot) (packet_id : UInt32) :
    ∃ first, noted slot packet_id = { slot with first_packet_id := first } := by
  unfold noted
  split
  · exact ⟨packet_id, rfl⟩
  · exact ⟨slot.first_packet_id, rfl⟩

lemma Slot.Holds.noted (h : slot.Holds plaintext message_id total got) (packet_id : UInt32) :
    (noted slot packet_id).Holds plaintext message_id total got := by
  obtain ⟨first, heq⟩ := noted_eq slot packet_id
  rw [heq]
  exact ⟨h.active, h.message_id_eq, h.total_eq, h.mask, h.data⟩

lemma Slot.Holds.stored (h : slot.Holds plaintext message_id total got)
    (j : Fin FRAG_MAX_FRAGMENTS) :
    (stored slot (ofNat j.val) (chunk plaintext j.val)).Holds plaintext message_id total
      (insert j got) := by
  have hj : (ofNat j.val).toNat = j.val := by
    have hlt : j.val < 4 := j.isLt
    rw [toNat_ofNat']
    omega
  refine ⟨h.active, h.message_id_eq, h.total_eq, ?_, fun k hk => ?_⟩
  · rw [Fragment.stored, h.mask, mask_of_or_bit]
  · simp only [Fragment.stored, hj]
    split
    · next hkj => rw [hkj]
    · next hkj =>
      have hk' : k ∈ got := (Finset.mem_insert.1 hk).resolve_left fun heq => hkj (by rw [heq])
      exact h.data k hk'

/-- **Adding a chunk to its slot.**  The slot then holds it too, no other slot is touched, and
the answer is that the message is complete exactly when this was its last missing chunk. -/
theorem add_to_slot_spec {ctx : ReassemblyCtx} {i : Fin FRAG_MAX_REASSEMBLIES}
    (h : (ctx i).Holds plaintext message_id total got) (htotal : total ≤ FRAG_MAX_FRAGMENTS)
    (j : Fin FRAG_MAX_FRAGMENTS) (packet_id : UInt32) :
    ∃ slot : Slot, slot.Holds plaintext message_id total (insert j got) ∧
      slot.start_time = (ctx i).start_time ∧
      add_to_slot ctx i ⟨ofNat j.val, ofNat total, message_id⟩
          (chunk plaintext j.val) packet_id =
        (update ctx i slot,
          if j ∉ got ∧ insert j got = all_chunks total then .complete else .pending) := by
  obtain ⟨first, hfirst⟩ := noted_eq (ctx i) packet_id
  unfold add_to_slot
  rw [if_neg (not_not.2 h.total_eq.symm)]
  simp only [h.mask, mask_of_and_bit, h.total_eq, mask_of_or_bit]
  by_cases hj : j ∈ got
  · refine ⟨noted (ctx i) packet_id, ?_, ?_, ?_⟩
    · rw [Finset.insert_eq_of_mem hj]
      exact h.noted packet_id
    · rw [hfirst]
    · rw [if_pos hj, if_neg (fun hc => hc.1 hj)]
  · refine ⟨stored (noted (ctx i) packet_id) (ofNat j.val) (chunk plaintext j.val),
      (h.noted packet_id).stored j, ?_, ?_⟩
    · rw [hfirst]
      rfl
    · simp only [if_false, mask_of_eq_full _ _ (Nat.lt_succ_of_le htotal), hj, not_false_eq_true,
        true_and]

/-! ## Finding the slot of a message -/

def OneSlotPerId (ctx : ReassemblyCtx) : Prop :=
  ∀ i j, (ctx i).active → (ctx j).active → (ctx i).message_id = (ctx j).message_id →
    i = j

variable {ctx : ReassemblyCtx} {i : Fin FRAG_MAX_REASSEMBLIES}

lemma slot_of_eq_none :
    slot_of ctx message_id = none ↔
      ∀ i, (ctx i).active → (ctx i).message_id ≠ message_id := by
  simp [slot_of, Table.find_eq_none]

lemma slot_of_spec (h : slot_of ctx message_id = some i) :
    (ctx i).active ∧ (ctx i).message_id = message_id := by
  simpa using Table.find_some h

lemma slot_of_eq_some (hone : OneSlotPerId ctx) (hactive : (ctx i).active)
    (hid : (ctx i).message_id = message_id) : slot_of ctx message_id = some i := by
  refine Table.find_eq_some_of_unique ?_ fun j hj => ?_
  · simp [hactive, hid]
  · obtain ⟨hj, hjid⟩ : (ctx j).active ∧ (ctx j).message_id = message_id := by simpa using hj
    exact hone j i hj hactive (hjid.trans hid.symm)

variable {j : Fin FRAG_MAX_FRAGMENTS}

lemma reassembly_add_of_valid (htotal : total ≤ FRAG_MAX_FRAGMENTS) (hj : j.val < total)
    (now_ms packet_id : UInt32) :
    reassembly_add ctx ⟨ofNat j.val, ofNat total, message_id⟩ (chunk plaintext j.val)
        now_ms packet_id =
      match slot_of ctx message_id with
      | some i =>
        if FRAG_REASSEMBLY_TIMEOUT_MS < now_ms - (ctx i).start_time then
          (update ctx i (closed (ctx i)), .refused)
        else add_to_slot ctx i ⟨ofNat j.val, ofNat total, message_id⟩
          (chunk plaintext j.val) packet_id
      | none =>
        match Table.find (fun s => !s.active) ctx with
        | some i =>
          add_to_slot (update ctx i
              (opened ⟨ofNat j.val, ofNat total, message_id⟩ now_ms (ctx i))) i
            ⟨ofNat j.val, ofNat total, message_id⟩ (chunk plaintext j.val) packet_id
        | none => (ctx, .refused) := by
  have htotal' : total ≤ 4 := htotal
  have hindex : ¬ofNat total ≤ ofNat j.val := by
    rw [le_iff_toNat_le, toNat_ofNat', toNat_ofNat']
    omega
  have hfour : ¬4 < ofNat total := by
    rw [lt_iff_toNat_lt, toNat_ofNat']
    change ¬4 < _
    omega
  have hchunk : (chunk plaintext j.val).length ≤ FRAG_MAX_PLAINTEXT := length_take_le _ _
  unfold reassembly_add
  rw [if_neg hindex, if_neg hfour, if_neg (not_lt.2 hchunk)]

lemma reassembly_add_known (hone : OneSlotPerId ctx)
    (h : (ctx i).Holds plaintext message_id total got) (htotal : total ≤ FRAG_MAX_FRAGMENTS)
    (hj : j.val < total) {now_ms : UInt32} (packet_id : UInt32)
    (htime : now_ms - (ctx i).start_time ≤ FRAG_REASSEMBLY_TIMEOUT_MS) :
    ∃ slot : Slot, slot.Holds plaintext message_id total (insert j got) ∧
      slot.start_time = (ctx i).start_time ∧
      reassembly_add ctx ⟨ofNat j.val, ofNat total, message_id⟩
          (chunk plaintext j.val) now_ms packet_id =
        (update ctx i slot,
          if j ∉ got ∧ insert j got = all_chunks total then .complete else .pending) := by
  rw [reassembly_add_of_valid htotal hj, slot_of_eq_some hone h.active h.message_id_eq]
  dsimp only
  rw [if_neg (UInt32.not_lt.2 htime)]
  exact add_to_slot_spec h htotal j packet_id

lemma reassembly_add_new (plaintext : List UInt8) (hnew : slot_of ctx message_id = none)
    (hfree : ∃ i, (ctx i).active = false) (htotal : total ≤ FRAG_MAX_FRAGMENTS)
    (hj : j.val < total) (now_ms packet_id : UInt32) :
    ∃ (i : Fin FRAG_MAX_REASSEMBLIES) (slot : Slot), (ctx i).active = false ∧
      slot.Holds plaintext message_id total {j} ∧ slot.start_time = now_ms ∧
      reassembly_add ctx ⟨ofNat j.val, ofNat total, message_id⟩
          (chunk plaintext j.val) now_ms packet_id =
        (update ctx i slot, if {j} = all_chunks total then .complete else .pending) := by
  obtain ⟨k, hk⟩ := hfree
  obtain ⟨i, hi⟩ := Table.exists_find (p := fun s : Slot => !s.active) (t := ctx) (i := k)
    (by rw [hk]; rfl)
  have hinactive : (ctx i).active = false := by simpa using Table.find_some hi
  -- the slot is opened empty and the chunk goes in
  set hdr : FragHeader := ⟨ofNat j.val, ofNat total, message_id⟩ with hhdr
  have hopen : (update ctx i (opened hdr now_ms (ctx i)) i).Holds plaintext message_id
      total ∅ := by
    rw [update_self]
    exact ⟨rfl, rfl, rfl, rfl, fun _ hj => absurd hj (Finset.notMem_empty _)⟩
  obtain ⟨slot, hslot, hstart, hadd⟩ := add_to_slot_spec hopen htotal j packet_id
  rw [update_self] at hstart
  refine ⟨i, slot, hinactive, ?_, hstart, ?_⟩
  · rwa [insert_empty_eq] at hslot
  · rw [reassembly_add_of_valid htotal hj, hnew, hi]
    dsimp only
    rw [hadd, update_idem]
    simp only [Finset.notMem_empty, not_false_eq_true, true_and, insert_empty_eq]

lemma collected_eq (h : slot.Holds plaintext message_id total (all_chunks total))
    (htotal : total ≤ FRAG_MAX_FRAGMENTS) :
    collected slot = (range total).flatMap (chunk plaintext) := by
  have hlen : slot.total.toNat = total := by
    have htotal' : total ≤ 4 := htotal
    rw [h.total_eq, toNat_ofNat']
    omega
  have hval : ((finRange FRAG_MAX_FRAGMENTS).take total).map Fin.val = range total := by
    rw [map_take, map_coe_finRange_eq_range, take_range, Nat.min_eq_left htotal]
  rw [collected, hlen, ← hval, flatMap_map]
  refine flatMap_congr fun j hj => h.data j ?_
  have hj' : j.val ∈ range total := hval ▸ mem_map_of_mem hj
  rw [all_chunks, Finset.mem_filter]
  exact ⟨Finset.mem_univ j, mem_range.1 hj'⟩

/-- **Collecting a complete message.**  The plaintext is returned, its slot is freed and no
other slot is touched. -/
theorem reassembly_collect_complete (hone : OneSlotPerId ctx)
    (h : (ctx i).Holds plaintext message_id (num_frags plaintext.length)
      (all_chunks (num_frags plaintext.length)))
    (hpos : plaintext.length ≠ 0) (htotal : num_frags plaintext.length ≤ FRAG_MAX_FRAGMENTS)
    {out_max : ℕ} (hout : plaintext.length ≤ out_max) :
    reassembly_collect ctx message_id out_max =
      (update ctx i (closed (ctx i)), some plaintext) := by
  have hmask : (ctx i).received_mask = full_mask (ctx i).total := by
    rw [h.mask, h.total_eq, mask_of_eq_full _ _ (Nat.lt_succ_of_le htotal)]
  have hzero : (ctx i).total ≠ 0 := by
    have hlen := length_le_num_frags plaintext.length
    have htotal' : num_frags plaintext.length ≤ 4 := htotal
    rw [h.total_eq, Ne, ← UInt8.toNat_inj, UInt8.toNat_ofNat', UInt8.toNat_zero]
    rcases Nat.eq_zero_or_pos (num_frags plaintext.length) with h0 | hpos'
    · rw [h0] at hlen
      exact absurd (Nat.le_zero.1 hlen) hpos
    · omega
  have hall : collected (ctx i) = plaintext := by
    rw [collected_eq h htotal, flatMap_chunk]
    exact take_of_length_le (length_le_num_frags _)
  unfold reassembly_collect
  rw [slot_of_eq_some hone h.active h.message_id_eq]
  dsimp only
  rw [if_neg (fun hc => hc.elim hzero (fun hne => hne hmask)), hall, if_neg (not_lt.2 hout)]

lemma reassembly_collect_some {ctx' : ReassemblyCtx} {out_max : ℕ} {text : List UInt8}
    (h : reassembly_collect ctx message_id out_max = (ctx', some text)) :
    ∃ i, slot_of ctx message_id = some i ∧ (ctx i).received_mask = full_mask (ctx i).total ∧
      text = collected (ctx i) ∧ text.length ≤ out_max ∧
      ctx' = update ctx i (closed (ctx i)) := by
  unfold reassembly_collect at h
  split at h
  · nomatch h
  next i hslot =>
  split at h
  · nomatch h
  next hmask =>
  split at h
  · nomatch h
  next hfits =>
  obtain ⟨hctx, htext⟩ := Prod.mk.inj h
  cases htext
  exact ⟨i, hslot, not_not.1 (not_or.1 hmask).2, rfl, Nat.not_lt.1 hfits, hctx.symm⟩

/-! ## One slot per id -/

lemma one_slot_update {slot : Slot} (hone : OneSlotPerId ctx)
    (hother : ∀ j, j ≠ i → (ctx j).active → (ctx j).message_id ≠ slot.message_id) :
    OneSlotPerId (update ctx i slot) := by
  intro a b ha hb hab
  by_cases hai : a = i <;> by_cases hbi : b = i
  · rw [hai, hbi]
  · subst hai
    rw [update_self, update_of_ne hbi] at hab
    rw [update_of_ne hbi] at hb
    exact absurd hab.symm (hother b hbi hb)
  · subst hbi
    rw [update_self, update_of_ne hai] at hab
    rw [update_of_ne hai] at ha
    exact absurd hab (hother a hai ha)
  · rw [update_of_ne hai] at ha hab
    rw [update_of_ne hbi] at hb hab
    exact hone a b ha hb hab

lemma one_slot_close (hone : OneSlotPerId ctx)
    (i : Fin FRAG_MAX_REASSEMBLIES) :
    OneSlotPerId (update ctx i (closed (ctx i))) := by
  intro a b ha hb hab
  have hopen : ∀ c, (update ctx i (closed (ctx i)) c).active →
      update ctx i (closed (ctx i)) c = ctx c := by
    intro c hc
    by_cases hci : c = i
    · subst hci
      rw [update_self] at hc
      cases hc
    · exact update_of_ne hci _ _
  have ha' := hopen a ha
  have hb' := hopen b hb
  rw [ha'] at ha hab
  rw [hb'] at hb hab
  exact hone a b ha hb hab

lemma one_slot_add_to_slot (hone : OneSlotPerId ctx) (hactive : (ctx i).active)
    (hdr : FragHeader) (frag_data : List UInt8) (packet_id : UInt32) :
    OneSlotPerId (add_to_slot ctx i hdr frag_data packet_id).1 := by
  obtain ⟨first, hnoted⟩ := noted_eq (ctx i) packet_id
  have hother : ∀ j, j ≠ i → (ctx j).active → (ctx j).message_id ≠ (ctx i).message_id :=
    fun j hj hja heq => hj (hone j i hja hactive heq)
  unfold add_to_slot
  rw [hnoted]
  split
  · exact hone
  split <;> exact one_slot_update hone hother

lemma one_slot_add (hone : OneSlotPerId ctx) (hdr : FragHeader) (frag_data : List UInt8)
    (now_ms packet_id : UInt32) :
    OneSlotPerId (reassembly_add ctx hdr frag_data now_ms packet_id).1 := by
  unfold reassembly_add
  split
  · exact hone
  split
  · exact hone
  split
  · exact hone
  split
  · next i hslot =>
    split
    · exact one_slot_close hone i
    · exact one_slot_add_to_slot hone (slot_of_spec hslot).1 hdr frag_data packet_id
  · next hnone =>
    split
    · next i hfree =>
      refine one_slot_add_to_slot (one_slot_update hone fun j _ hj => ?_) ?_ hdr frag_data packet_id
      · exact slot_of_eq_none.1 hnone j hj
      · rw [update_self]
        rfl
    · exact hone

lemma one_slot_collect (hone : OneSlotPerId ctx) (message_id : UInt16) (out_max : ℕ) :
    OneSlotPerId (reassembly_collect ctx message_id out_max).1 := by
  unfold reassembly_collect
  split
  · exact hone
  split
  · exact hone
  split
  · exact hone
  · exact one_slot_close hone _

lemma one_slot_purge (hone : OneSlotPerId ctx) (now_ms : UInt32) :
    OneSlotPerId (reassembly_purge ctx now_ms) := by
  have hopen : ∀ c, (reassembly_purge ctx now_ms c).active →
      reassembly_purge ctx now_ms c = ctx c := by
    intro c hc
    unfold reassembly_purge at hc ⊢
    split at hc
    · cases hc
    · next hkeep => rw [if_neg hkeep]
  intro a b ha hb hab
  have ha' := hopen a ha
  have hb' := hopen b hb
  rw [ha'] at ha hab
  rw [hb'] at hb hab
  exact hone a b ha hb hab

/-- **The last chunk of a message** leaves a slot that holds the whole message, if the open slot
of the id held chunks of this message only. -/
theorem holds_of_complete {ctx' : ReassemblyCtx} {now_ms packet_id : UInt32}
    (hone : OneSlotPerId ctx)
    (hown : ∀ i, slot_of ctx message_id = some i →
      now_ms - (ctx i).start_time ≤ FRAG_REASSEMBLY_TIMEOUT_MS →
        ∃ got, (ctx i).Holds plaintext message_id total got) (htotal : total ≤ FRAG_MAX_FRAGMENTS)
    (hj : j.val < total)
    (hadd : reassembly_add ctx ⟨ofNat j.val, ofNat total, message_id⟩
      (chunk plaintext j.val) now_ms packet_id = (ctx', .complete)) :
    ∃ i, (ctx' i).Holds plaintext message_id total (all_chunks total) := by
  rcases hslot : slot_of ctx message_id with _ | i
  · by_cases hfree : ∃ i, (ctx i).active = false
    · obtain ⟨i, slot, -, hslot, -, hadd'⟩ :=
        reassembly_add_new plaintext hslot hfree htotal hj now_ms packet_id
      obtain ⟨rfl, hall⟩ := Prod.mk.inj (hadd'.symm.trans hadd)
      split at hall
      · next heq =>
        refine ⟨i, ?_⟩
        rw [update_self, ← heq]
        exact hslot
      · nomatch hall
    · have hnone : Table.find (fun s : Slot => !s.active) ctx = none := by
        refine Table.find_eq_none.2 fun i => ?_
        simpa using fun hi => hfree ⟨i, hi⟩
      rw [reassembly_add_of_valid htotal hj, hslot, hnone] at hadd
      nomatch hadd
  · by_cases htime : now_ms - (ctx i).start_time ≤ FRAG_REASSEMBLY_TIMEOUT_MS
    · obtain ⟨got, hholds⟩ := hown i hslot htime
      obtain ⟨slot, hslot, -, hadd'⟩ := reassembly_add_known hone hholds htotal hj packet_id htime
      obtain ⟨rfl, hall⟩ := Prod.mk.inj (hadd'.symm.trans hadd)
      split at hall
      · next heq =>
        refine ⟨i, ?_⟩
        rw [update_self, ← heq.2]
        exact hslot
      · nomatch hall
    · rw [reassembly_add_of_valid htotal hj, hslot] at hadd
      dsimp only at hadd
      rw [if_pos (UInt32.not_le.1 htime)] at hadd
      nomatch hadd

end BrambleMesh.Fragment
