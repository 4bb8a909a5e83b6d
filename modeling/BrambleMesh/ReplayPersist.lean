/-
The replay windows across a reboot: components/replay_window/replay_window.c (serialization),
main/mesh_persist.c. A restored slot counts every position below its mark as delivered; the flush
may fail at every one of its operations.
-/
import BrambleMesh.Lib.Bytes
import BrambleMesh.ReplayWindow

namespace BrambleMesh.ReplayPersist

open Bytes ReplayWindow Run SlidingWindow Function

/-! ## The blob -/

def REPLAY_TABLE_BLOB_VERSION : UInt8 := 1

def REPLAY_TABLE_BLOB_MAX : ℕ := 4 + REPLAY_MAX_SENDERS * 12 + 4

def crc_bit (crc : UInt32) : UInt32 := (crc >>> 1) ^^^ (0xEDB88320 &&& (0 - (crc &&& 1)))

def replay_crc32 (data : List UInt8) : UInt32 :=
  data.foldl (fun crc b => crc_bit^[8] (crc ^^^ b.toUInt32)) 0xFFFFFFFF ^^^ 0xFFFFFFFF

def stored_slots (t : ReplayTable) : List ReplaySlot :=
  (List.ofFn t.slots).filter fun s => s.used && s.seen

def blob_record (s : ReplaySlot) : List UInt8 := le32 s.src_addr ++ le64 s.high_water

def blob_body (slots : List ReplaySlot) : List UInt8 :=
  [REPLAY_TABLE_BLOB_VERSION, UInt8.ofNat slots.length, 0, 0] ++ slots.flatMap blob_record

def replay_table_serialize (t : ReplayTable) (buf_len : ℕ) : Option (List UInt8) :=
  if buf_len < 4 + (stored_slots t).length * 12 + 4 then none
  else
    let body := blob_body (stored_slots t)
    some (body ++ le32 (replay_crc32 body))

def restored_slot (buf : List UInt8) (now_ms : UInt32) : ReplaySlot :=
  ⟨get_le32 buf, get_le64 (buf.drop 4), BitVec.allOnes 64, now_ms, true, true⟩

def replay_table_deserialize (buf : List UInt8) (now_ms : UInt32) : ReplayTable × Bool :=
  if buf.length < 8 then (replay_table_init, false)
  else if buf.getD 0 0 ≠ REPLAY_TABLE_BLOB_VERSION then (replay_table_init, false)
  else if buf.getD 2 0 ≠ 0 ∨ buf.getD 3 0 ≠ 0 then (replay_table_init, false)
  else
    let n := (buf.getD 1 0).toNat
    if n > REPLAY_MAX_SENDERS then (replay_table_init, false)
    else if buf.length ≠ 4 + n * 12 + 4 then (replay_table_init, false)
    else if get_le32 (buf.drop (4 + n * 12)) ≠ replay_crc32 (buf.take (4 + n * 12)) then
      (replay_table_init, false)
    else
      ({ replay_table_init with
          slots := fun i =>
            if i.val < n then restored_slot (buf.drop (4 + 12 * i.val)) now_ms
            else replay_table_init.slots i },
        true)

/-! ## Flush and restore -/

inductive Which
  | data
  | control
deriving DecidableEq, Repr

structure Node where
  table : Which → ReplayTable
  nvs : Which → Option (List UInt8)
  last_flush_ms : UInt32

structure Outcome where
  open_ok : Bool
  set_ok : Which → Bool
  commit_ok : Bool
  lands : Which → Bool

def REPLAY_FLUSH_INTERVAL_MS : UInt32 := 900000

def mesh_replay_store_save_one (t : ReplayTable) (set_ok : Bool) :
    ReplayTable × Option (List UInt8) :=
  match replay_table_serialize t REPLAY_TABLE_BLOB_MAX with
  | none => (t, none)
  | some blob => (if set_ok then { t with dirty := false } else t, some blob)

def nvs_after (old written : Option (List UInt8)) (ok lands : Bool) : Option (List UInt8) :=
  match written with
  | none => old
  | some blob => if ok || lands then some blob else old

def mesh_replay_store_save (n : Node) (force : Bool) (t : UInt32) (o : Outcome) : Node :=
  if !(n.table .data).dirty && !(n.table .control).dirty then n
  else if !force && decide (t - n.last_flush_ms < REPLAY_FLUSH_INTERVAL_MS) then n
  else if !o.open_ok then n
  else
    let r := fun w => mesh_replay_store_save_one (n.table w) (o.set_ok w)
    let nvs := fun w => nvs_after (n.nvs w) (r w).2 (o.set_ok w && o.commit_ok) (o.lands w)
    if o.commit_ok then ⟨fun w => (r w).1, nvs, t⟩
    -- clearing the flags was optimistic
    else ⟨fun w => { (r w).1 with dirty := true }, nvs, n.last_flush_ms⟩

def mesh_replay_store_load_one (t : ReplayTable) (nvs : Option (List UInt8)) (now_ms : UInt32) :
    ReplayTable :=
  match nvs with
  | none => t
  | some buf =>
    if REPLAY_TABLE_BLOB_MAX < buf.length then t else (replay_table_deserialize buf now_ms).1

def restore (nvs : Option (List UInt8)) (now_ms : UInt32) : ReplayTable :=
  mesh_replay_store_load_one replay_table_init nvs now_ms

def boot (nvs : Which → Option (List UInt8)) (now_ms : UInt32) : Node :=
  ⟨fun w => restore (nvs w) now_ms, nvs, now_ms⟩

/-! ## Histories -/

inductive Event
  | check (w : Which) (c : Call)
  | save (force : Bool) (t : UInt32) (o : Outcome)
  | reboot (now_ms : UInt32)

def step (n : Node) : Event → Node
  | .check w c => { n with table := update n.table w (after (n.table w) c) }
  | .save force t o => mesh_replay_store_save n force t o
  | .reboot now_ms => boot n.nvs now_ms

def fresh (now_ms : UInt32) : Node := boot (fun _ => none) now_ms

def Keeps (w : Which) (a : UInt32) (n : Node) : Event → Prop
  | .check w' c => w' = w → ¬ Evicts (n.table w) c a
  | _ => True

instance (w : Which) (a : UInt32) (n : Node) (ev : Event) : Decidable (Keeps w a n ev) := by
  cases ev <;> unfold Keeps <;> infer_instance

def Powered : Event → Prop
  | .reboot _ => False
  | _ => True

instance (ev : Event) : Decidable (Powered ev) := by
  cases ev <;> unfold Powered <;> infer_instance

def Saved (w : Which) (n : Node) : Event → Prop
  | .save force t o =>
    (force ∨ REPLAY_FLUSH_INTERVAL_MS ≤ t - n.last_flush_ms) ∧ o.open_ok ∧
      o.set_ok w ∧ o.commit_ok
  | _ => False

instance (w : Which) (n : Node) (ev : Event) : Decidable (Saved w n ev) := by
  cases ev <;> unfold Saved <;> infer_instance

def Quiet (w : Which) (n : Node) (ev : Event) : Prop := (step n ev).nvs w = n.nvs w
deriving Decidable

def persisted (s : ReplaySlot) : ReplaySlot := { s with window := 0, last_seen_ms := 0 }

def CrcDetects (buf : List UInt8) : Prop :=
  get_le32 (buf.drop (buf.length - 4)) ≠ replay_crc32 (buf.take (buf.length - 4))
deriving Decidable

/-! ## The round trip -/

section

variable {t : ReplayTable}

structure Good (t : ReplayTable) : Prop where
  wf : Wf t
  seen : ∀ i, (t.slots i).used → (t.slots i).seen
  unused : ∀ i, (t.slots i).used = false → t.slots i = replay_table_init.slots i

lemma good_init : Good replay_table_init where
  wf := wf_init
  seen := fun _ h => absurd h Bool.false_ne_true
  unused := fun _ _ => rfl

def revive (now_ms : UInt32) (s : ReplaySlot) : ReplaySlot :=
  if s.used then { s with window := BitVec.allOnes 64, last_seen_ms := now_ms } else s

def revived (t : ReplayTable) (now_ms : UInt32) : ReplayTable :=
  { replay_table_init with slots := fun i => revive now_ms (t.slots i) }

lemma length_blob_record (s : ReplaySlot) : (blob_record s).length = 12 := rfl

lemma length_blob_body (slots : List ReplaySlot) :
    (blob_body slots).length = 4 + slots.length * 12 := by
  have hrecords : (slots.flatMap blob_record).length = slots.length * 12 := by
    induction slots with
    | nil => rfl
    | cons s slots ih =>
      rw [List.flatMap_cons, List.length_append, length_blob_record, ih, List.length_cons]
      omega
  rw [blob_body, List.length_append, hrecords]
  rfl

lemma length_stored_slots_le (t : ReplayTable) :
    (stored_slots t).length ≤ REPLAY_MAX_SENDERS := by
  refine (List.length_filter_le ..).trans ?_
  rw [List.length_ofFn]

lemma serialize_eq (t : ReplayTable) :
    replay_table_serialize t REPLAY_TABLE_BLOB_MAX =
      some (blob_body (stored_slots t) ++ le32 (replay_crc32 (blob_body (stored_slots t)))) := by
  have hle := length_stored_slots_le t
  rw [replay_table_serialize, if_neg]
  unfold REPLAY_TABLE_BLOB_MAX
  omega

lemma getElem?_stored_slots (h : Good t) (i : Fin REPLAY_MAX_SENDERS) :
    (stored_slots t)[i.val]? = if (t.slots i).used then some (t.slots i) else none := by
  have hstored : ∀ j, ((t.slots j).used && (t.slots j).seen) = (t.slots j).used := by
    intro j
    rcases hused : (t.slots j).used with _ | _
    · rfl
    · rw [h.seen j hused, Bool.and_self]
  have hget := Table.getElem?_filter_ofFn (p := fun s : ReplaySlot => s.used && s.seen)
    (t := t.slots) (fun j k hjk hk => by
      rw [hstored] at hk ⊢
      exact h.wf.used_first j k hjk hk) i
  rw [hstored] at hget
  exact hget

lemma restored_blob_record (s : ReplaySlot) (rest : List UInt8) (now_ms : UInt32) :
    restored_slot (blob_record s ++ rest) now_ms =
      ⟨s.src_addr, s.high_water, BitVec.allOnes 64, now_ms, true, true⟩ := by
  have hdrop : (blob_record s ++ rest).drop 4 = le64 s.high_water ++ rest := rfl
  rw [restored_slot, hdrop, get_le64_le64, blob_record, List.append_assoc, get_le32_le32]

/-- **The round trip**: a table that was stored comes back with every window full. -/
theorem deserialize_serialize (h : Good t) (now_ms : UInt32) :
    replay_table_deserialize
        (blob_body (stored_slots t) ++ le32 (replay_crc32 (blob_body (stored_slots t)))) now_ms =
      (revived t now_ms, true) := by
  have hcount := length_stored_slots_le t
  have hbody := length_blob_body (stored_slots t)
  generalize hcrc : le32 (replay_crc32 (blob_body (stored_slots t))) = crc
  have hlen : (blob_body (stored_slots t) ++ crc).length =
      4 + (stored_slots t).length * 12 + 4 := by
    rw [List.length_append, hbody, ← hcrc]
    rfl
  have hn : ((blob_body (stored_slots t) ++ crc).getD 1 0).toNat = (stored_slots t).length := by
    exact Nat.mod_eq_of_lt (lt_of_le_of_lt hcount (by decide))
  have hslots : ∀ i : Fin REPLAY_MAX_SENDERS,
      (if i.val < (stored_slots t).length then
        restored_slot ((blob_body (stored_slots t) ++ crc).drop (4 + 12 * i.val)) now_ms
      else replay_table_init.slots i) = revive now_ms (t.slots i) := by
    intro i
    have hget := getElem?_stored_slots h i
    by_cases hused : (t.slots i).used
    · rw [if_pos hused] at hget
      obtain ⟨hlt, hslot⟩ := List.getElem?_eq_some_iff.1 hget
      have hdrop : (blob_body (stored_slots t) ++ crc).drop (4 + 12 * i.val) =
          blob_record (t.slots i) ++
            (((stored_slots t).drop (i.val + 1)).flatMap blob_record ++ crc) := by
        rw [List.drop_append_of_le_length (by omega), ← List.drop_drop]
        show ((stored_slots t).flatMap blob_record).drop (12 * i.val) ++ crc = _
        rw [drop_flatMap length_blob_record, List.drop_eq_getElem_cons hlt, hslot,
          List.flatMap_cons, List.append_assoc]
      rw [if_pos hlt, hdrop, restored_blob_record, revive, if_pos hused]
      rw [hused, h.seen i hused]
    · rw [if_neg hused, List.getElem?_eq_none_iff] at hget
      rw [if_neg (by omega), revive, if_neg hused]
      exact (h.unused i (Bool.eq_false_of_not_eq_true hused)).symm
  unfold replay_table_deserialize
  rw [if_neg (by omega), if_neg (fun hne => hne rfl),
    if_neg (by rintro (hne | hne) <;> exact hne rfl)]
  rw [hn, if_neg (by omega), if_neg (fun hne => hne hlen), if_neg]
  · exact congrArg (fun slots => ({ replay_table_init with slots := slots }, true)) (funext hslots)
  · rw [not_ne_iff, ← hbody, List.drop_left, List.take_left, ← hcrc]
    have hword := get_le32_le32 (replay_crc32 (blob_body (stored_slots t))) []
    rwa [List.append_nil] at hword

lemma restore_serialize (h : Good t) (now_ms : UInt32) :
    restore (replay_table_serialize t REPLAY_TABLE_BLOB_MAX) now_ms = revived t now_ms := by
  have hcount := length_stored_slots_le t
  rw [serialize_eq, restore, mesh_replay_store_load_one, if_neg, deserialize_serialize h]
  rw [List.length_append, length_blob_body]
  show ¬ 4 + REPLAY_MAX_SENDERS * 12 + 4 < 4 + (stored_slots t).length * 12 + 4
  omega

lemma persisted_revive (now_ms : UInt32) (s : ReplaySlot) :
    persisted (revive now_ms s) = persisted s := by
  unfold revive
  split_ifs <;> rfl

lemma persisted_inj {s s' : ReplaySlot} (h : persisted s = persisted s') :
    s.used = s'.used ∧ s.seen = s'.seen ∧ s.src_addr = s'.src_addr ∧
      s.high_water = s'.high_water := by
  have hused := congrArg ReplaySlot.used h
  have hseen := congrArg ReplaySlot.seen h
  have hsrc := congrArg ReplaySlot.src_addr h
  have hhigh := congrArg ReplaySlot.high_water h
  exact ⟨hused, hseen, hsrc, hhigh⟩

lemma owns_revived {now_ms : UInt32} {i : Fin REPLAY_MAX_SENDERS} {a : UInt32} :
    Owns (revived t now_ms) i a ↔ Owns t i a := by
  obtain ⟨hused, -, hsrc, -⟩ := persisted_inj (persisted_revive now_ms (t.slots i))
  show (revive now_ms (t.slots i)).used ∧ (revive now_ms (t.slots i)).src_addr = a ↔ _
  rw [hused, hsrc]
  rfl

lemma Good.revived (h : Good t) (now_ms : UInt32) : Good (revived t now_ms) := by
  have hused : ∀ i, (revive now_ms (t.slots i)).used = (t.slots i).used := fun i =>
    (persisted_inj (persisted_revive now_ms (t.slots i))).1
  have hseen : ∀ i, (revive now_ms (t.slots i)).seen = (t.slots i).seen := fun i =>
    (persisted_inj (persisted_revive now_ms (t.slots i))).2.1
  refine ⟨⟨fun i j hij hj => ?_, fun i j a hi hj => ?_⟩, fun i hi => ?_, fun i hi => ?_⟩
  · exact (hused i).trans (h.wf.used_first i j hij ((hused j).symm.trans hj))
  · exact h.wf.owner_unique i j a (owns_revived.1 hi) (owns_revived.1 hj)
  · exact (hseen i).trans (h.seen i ((hused i).symm.trans hi))
  · have hfree : (t.slots i).used = false := (hused i).symm.trans hi
    show revive now_ms (t.slots i) = _
    rw [revive, hfree, if_neg Bool.false_ne_true]
    exact h.unused i hfree

lemma restore_of_crc {buf : List UInt8} (h : CrcDetects buf) (now_ms : UInt32) :
    restore (some buf) now_ms = replay_table_init := by
  unfold restore mesh_replay_store_load_one
  dsimp only
  split_ifs
  · rfl
  · unfold replay_table_deserialize
    dsimp only
    split_ifs with h₁ h₂ h₃ h₄ hlen hcrc
    all_goals try rfl
    -- the length fits the count, so the CRC that is compared is that of all bytes before it
    rw [not_ne_iff] at hlen hcrc
    unfold CrcDetects at h
    rw [hlen, Nat.add_sub_cancel] at h
    exact absurd hcrc h

end

/-! ## The flag -/

section

variable {t : ReplayTable}

lemma slot_for_clean (src now : UInt32) (h : (slot_for t src now).1.dirty = false) :
    (slot_for t src now).1.slots = t.slots ∧ t.dirty = false := by
  unfold slot_for at h ⊢
  rcases hfound : Table.find (fun s : ReplaySlot => s.used && s.src_addr == src || !s.used) t.slots
    with _ | i
  · rw [hfound] at h
    dsimp only at h ⊢
    split_ifs at h ⊢
    exact ⟨rfl, h⟩
  · rw [hfound] at h
    dsimp only at h ⊢
    split_ifs at h ⊢
    exact ⟨rfl, h⟩

lemma check_slot_clean {s : ReplaySlot} {c : UInt64} (h : (check_slot s c).2.1 = false) :
    persisted (check_slot s c).1 = persisted s := by
  rcases check_slot_cases s c with ⟨-, e⟩ | ⟨-, -, e⟩ | ⟨-, -, e⟩ | ⟨-, -, e⟩ |
    ⟨-, -, -, -, e⟩ | ⟨-, -, -, -, e⟩ <;> rw [e] at h ⊢
  · cases h
  · cases h
  all_goals rfl

/-- **The flag is set whenever a mark or a sender changes.** -/
theorem after_clean {c : Call} (h : (after t c).dirty = false) :
    t.dirty = false ∧ ∀ i, persisted ((after t c).slots i) = persisted (t.slots i) := by
  unfold after replay_check_and_add at h ⊢
  rcases hfor : slot_for t c.src c.now with ⟨t', _ | i⟩
  · rw [hfor] at h
    have hclean := slot_for_clean (t := t) c.src c.now (by rw [hfor]; exact h)
    rw [hfor] at hclean
    exact ⟨hclean.2, fun j => congrArg persisted (congrFun hclean.1 j)⟩
  · rw [hfor] at h
    dsimp only at h ⊢
    rw [Bool.or_eq_false_iff] at h
    have hclean := slot_for_clean (t := t) c.src c.now (by rw [hfor]; exact h.1)
    rw [hfor] at hclean
    refine ⟨hclean.2, fun j => ?_⟩
    rw [← congrFun hclean.1 j]
    by_cases hj : j = i
    · subst hj
      rw [update_self, check_slot_clean h.2]
      rfl
    · rw [update_of_ne hj]

lemma Good.after (h : Good t) (c : Call) : Good (after t c) := by
  refine ⟨wf_after h.wf c, ?_, ?_⟩
  all_goals
    intro i hi
    rcases call_cases h.wf c with ⟨j, s, hs, -, hslots, -⟩ | ⟨-, -, hslots, -⟩
  · rw [hslots] at hi ⊢
    by_cases hij : i = j
    · subst hij
      rw [update_self]
      exact (check_slot_frame _ _).2.2.2.1
    · rw [update_of_ne hij] at hi ⊢
      exact h.seen i hi
  · rw [hslots] at hi ⊢
    exact h.seen i hi
  · rw [hslots] at hi ⊢
    by_cases hij : i = j
    · subst hij
      rw [update_self, (check_slot_frame _ _).2.1] at hi
      exact absurd (hs.ident.1.symm.trans hi) (by decide)
    · rw [update_of_ne hij] at hi ⊢
      exact h.unused i hi
  · rw [hslots] at hi ⊢
    exact h.unused i hi

end

/-! ## Every history -/

section

variable {n : Node} {w : Which}

lemma save_spec (n : Node) (force : Bool) (t : UInt32) (o : Outcome) (w : Which) :
    ((mesh_replay_store_save n force t o).table w).slots = (n.table w).slots ∧
      ((mesh_replay_store_save n force t o).nvs w = n.nvs w ∨
        (mesh_replay_store_save n force t o).nvs w =
          replay_table_serialize (n.table w) REPLAY_TABLE_BLOB_MAX) ∧
      (((mesh_replay_store_save n force t o).table w).dirty = false →
        (n.table w).dirty = false ∨
          (mesh_replay_store_save n force t o).nvs w =
            replay_table_serialize (n.table w) REPLAY_TABLE_BLOB_MAX) := by
  have hskip : (n.table w).slots = (n.table w).slots ∧
      (n.nvs w = n.nvs w ∨ n.nvs w = replay_table_serialize (n.table w) REPLAY_TABLE_BLOB_MAX) ∧
      ((n.table w).dirty = false → (n.table w).dirty = false ∨
        n.nvs w = replay_table_serialize (n.table w) REPLAY_TABLE_BLOB_MAX) :=
    ⟨rfl, .inl rfl, .inl⟩
  unfold mesh_replay_store_save
  split_ifs with hclean hlimit hopen hcommit
  · exact hskip
  · exact hskip
  · exact hskip
  all_goals
    unfold mesh_replay_store_save_one nvs_after
    dsimp only
    rw [serialize_eq]
    dsimp only
    rcases o.set_ok w with _ | _ <;> rcases o.lands w with _ | _
  all_goals simp [hcommit] <;> exact .inl

lemma clean_of_saved {ev : Event} (h : Saved w n ev) : ((step n ev).table w).dirty = false := by
  cases ev with
  | check w' c => exact h.elim
  | reboot now_ms => exact h.elim
  | save force t o =>
    obtain ⟨hdue, hopen, hset, hcommit⟩ := h
    show ((mesh_replay_store_save n force t o).table w).dirty = false
    unfold mesh_replay_store_save
    split_ifs with hclean hlimit hopen'
    · rw [Bool.and_eq_true, Bool.not_eq_true', Bool.not_eq_true'] at hclean
      cases w with
      | data => exact hclean.1
      | control => exact hclean.2
    · rw [Bool.and_eq_true, Bool.not_eq_true', decide_eq_true_eq] at hlimit
      rcases hdue with hforce | hdue
      · rw [hforce] at hlimit
        cases hlimit.1
      · exact absurd hlimit.2 (UInt32.not_lt.2 hdue)
    · rw [hopen] at hopen'
      cases hopen'
    · unfold mesh_replay_store_save_one
      dsimp only
      rw [serialize_eq, hset]
      rfl

structure Inv (n : Node) : Prop where
  good : ∀ w, Good (n.table w)
  stored : ∀ w, n.nvs w = none ∨
    ∃ t, Good t ∧ n.nvs w = replay_table_serialize t REPLAY_TABLE_BLOB_MAX
  clean : ∀ w, (n.table w).dirty = false → ∀ now_ms i,
    persisted ((n.table w).slots i) = persisted ((restore (n.nvs w) now_ms).slots i)

lemma Inv.restore_cases (h : Inv n) (w : Which) :
    (∀ now_ms, restore (n.nvs w) now_ms = replay_table_init) ∨
      ∃ t, Good t ∧ ∀ now_ms, restore (n.nvs w) now_ms = revived t now_ms := by
  rcases h.stored w with hnone | ⟨t, ht, hsome⟩
  · exact .inl fun now_ms => by rw [hnone]; rfl
  · exact .inr ⟨t, ht, fun now_ms => by rw [hsome, restore_serialize ht]⟩

lemma Inv.booted (h : Inv n) (now_ms : UInt32) : Inv (boot n.nvs now_ms) where
  good := by
    intro w
    show Good (restore (n.nvs w) now_ms)
    rcases h.restore_cases w with hnone | ⟨t, ht, hsome⟩
    · rw [hnone]
      exact good_init
    · rw [hsome]
      exact ht.revived now_ms
  stored := h.stored
  clean := by
    intro w _ now_ms' i
    show persisted ((restore (n.nvs w) now_ms).slots i) =
      persisted ((restore (n.nvs w) now_ms').slots i)
    rcases h.restore_cases w with hnone | ⟨t, ht, hsome⟩
    · rw [hnone, hnone]
    · rw [hsome, hsome]
      exact (persisted_revive now_ms _).trans (persisted_revive now_ms' _).symm

lemma Inv.checked (h : Inv n) (w' : Which) (c : Call) : Inv (step n (.check w' c)) where
  good := by
    intro w
    by_cases hw : w = w'
    · subst hw
      show Good (update n.table w (ReplayWindow.after (n.table w) c) w)
      rw [update_self]
      exact (h.good w).after c
    · show Good (update n.table w' (ReplayWindow.after (n.table w') c) w)
      rw [update_of_ne hw]
      exact h.good w
  stored := h.stored
  clean := by
    intro w hclean now_ms i
    dsimp only [ReplayPersist.step] at hclean ⊢
    by_cases hw : w = w'
    · subst hw
      rw [update_self] at hclean ⊢
      obtain ⟨hold, hsame⟩ := after_clean hclean
      exact (hsame i).trans (h.clean w hold now_ms i)
    · rw [update_of_ne hw] at hclean ⊢
      exact h.clean w hclean now_ms i

lemma Good.of_slots {t t' : ReplayTable} (h : Good t) (hslots : t'.slots = t.slots) :
    Good t' := by
  refine ⟨⟨?_, ?_⟩, ?_, ?_⟩
  · rw [hslots]
    exact h.wf.used_first
  · unfold Owns
    rw [hslots]
    exact h.wf.owner_unique
  · rw [hslots]
    exact h.seen
  · rw [hslots]
    exact h.unused

lemma Inv.flushed (h : Inv n) (force : Bool) (t : UInt32) (o : Outcome) :
    Inv (mesh_replay_store_save n force t o) where
  good := fun w => (h.good w).of_slots (save_spec n force t o w).1
  stored := by
    intro w
    rcases (save_spec n force t o w).2.1 with hsame | hnew
    · rw [hsame]
      exact h.stored w
    · exact .inr ⟨n.table w, h.good w, hnew⟩
  clean := by
    intro w hclean now_ms i
    obtain ⟨hslots, hnvs, hflag⟩ := save_spec n force t o w
    have hwritten : (mesh_replay_store_save n force t o).nvs w =
        replay_table_serialize (n.table w) REPLAY_TABLE_BLOB_MAX →
        persisted ((n.table w).slots i) =
          persisted ((restore ((mesh_replay_store_save n force t o).nvs w) now_ms).slots i) := by
      intro hnew
      rw [hnew, restore_serialize (h.good w)]
      exact (persisted_revive now_ms _).symm
    rw [hslots]
    rcases hnvs with hsame | hnew
    · rcases hflag hclean with hold | hnew
      · rw [hsame]
        exact h.clean w hold now_ms i
      · exact hwritten hnew
    · exact hwritten hnew

/-- **One step keeps the invariant.** -/
theorem Inv.step (h : Inv n) (ev : Event) : Inv (step n ev) := by
  cases ev with
  | check w c => exact h.checked w c
  | save force t o => exact h.flushed force t o
  | reboot now_ms => exact h.booted now_ms

lemma inv_fresh (now_ms : UInt32) : Inv (fresh now_ms) where
  good := fun _ => good_init
  stored := fun _ => Or.inl rfl
  clean := fun _ _ _ _ => rfl

lemma inv_run (now_ms : UInt32) (es : List Event) : Inv (es.foldl step (fresh now_ms)) :=
  foldl_invariant (C := fun _ _ => True) (fun _ ev h _ => h.step ev)
    (meets_of_forall (fun _ _ _ => trivial) _) (inv_fresh now_ms)

end

/-! ## One counter of one sender -/

section

variable {n : Node} {w : Which} {t : ReplayTable} {a : UInt32} {k : ℕ}

def Guards (t : ReplayTable) (a : UInt32) (k : ℕ) : Prop :=
  ∃ i, Owns t i a ∧ Covers (t.slots i).high_water.toNat (t.slots i).window k

lemma covers_check_slot {s : ReplaySlot} (hseen : s.seen)
    (h : Covers s.high_water.toNat s.window k) (c : UInt64) :
    Covers (check_slot s c).1.high_water.toNat (check_slot s c).1.window k := by
  rcases check_slot_cases s c with ⟨hnew, -⟩ | ⟨-, hgt, e⟩ | ⟨-, -, e⟩ | ⟨-, -, e⟩ |
    ⟨-, -, -, -, e⟩ | ⟨-, -, -, -, e⟩
  · rw [hseen] at hnew
    cases hnew
  all_goals rw [e]
  · exact h.advance hgt
  · exact h
  · exact h
  · exact h
  · exact h.mark _

lemma check_slot_refuses {s : ReplaySlot} {c : UInt64} (hseen : s.seen)
    (h : Covers s.high_water.toNat s.window c.toNat) : (check_slot s c).2.2 ≠ .ACCEPT := by
  intro haccept
  rcases check_slot_cases s c with ⟨hnew, -⟩ | ⟨-, hgt, -⟩ | ⟨-, -, e⟩ | ⟨-, -, e⟩ |
    ⟨-, -, -, -, e⟩ | ⟨-, hlt, hin, hbit, -⟩
  · rw [hseen] at hnew
    cases hnew
  · exact absurd h.1 (not_le.2 hgt)
  · rw [e] at haccept
    cases haccept
  · rw [e] at haccept
    cases haccept
  · rw [e] at haccept
    cases haccept
  · rw [h.2 hlt hin] at hbit
    cases hbit

lemma covers_of_accept {s : ReplaySlot} {c : UInt64} (h : (check_slot s c).2.2 = .ACCEPT) :
    Covers (check_slot s c).1.high_water.toNat (check_slot s c).1.window c.toNat := by
  rcases check_slot_cases s c with ⟨-, e⟩ | ⟨-, -, e⟩ | ⟨-, -, e⟩ | ⟨-, -, e⟩ |
    ⟨-, -, -, -, e⟩ | ⟨-, hlt, hin, -, e⟩ <;> rw [e] at h ⊢
  · exact covers_high _ _
  · exact covers_high _ _
  · cases h
  · cases h
  · cases h
  · exact covers_mark hlt hin

lemma Guards.refused (h : Good t) {c : Call} (hguard : Guards t c.src c.counter.toNat) :
    answer t c ≠ .ACCEPT := by
  obtain ⟨i, hown, hcovers⟩ := hguard
  rcases call_cases h.wf c with ⟨j, s, hs, -, -, hans⟩ | ⟨hnone, -, -, -⟩
  · rcases hs with ⟨hown', rfl⟩ | ⟨hnone, -, -⟩
    · obtain rfl := h.wf.owner_unique i j _ hown hown'
      rw [hans]
      exact check_slot_refuses (s := touch (t.slots i) c.now) (h.seen i hown.1) hcovers
    · exact absurd ⟨i, hown⟩ hnone
  · exact absurd ⟨i, hown⟩ hnone

lemma guards_of_accept (h : Good t) {c : Call} (haccept : answer t c = .ACCEPT) :
    Guards (after t c) c.src c.counter.toNat := by
  rcases call_cases h.wf c with ⟨i, s, hs, -, hslots, hans⟩ | ⟨-, -, -, hno⟩
  · refine ⟨i, (owns_after hs hslots i c.src).2 (.inl ⟨rfl, rfl⟩), ?_⟩
    rw [hslots, update_self]
    exact covers_of_accept (hans ▸ haccept)
  · rw [hno] at haccept
    cases haccept

lemma Guards.after (h : Good t) (hguard : Guards t a k) {c : Call} (hkept : ¬ Evicts t c a) :
    Guards (after t c) a k := by
  obtain ⟨i, hown, hcovers⟩ := hguard
  rcases call_cases h.wf c with ⟨j, s, hs, -, hslots, -⟩ | ⟨-, -, hslots, -⟩
  · have howns := owns_after hs hslots
    by_cases hij : i = j
    · subst hij
      -- the slot of the call is the sender's, so the call is the sender's
      have ha : a = c.src := by
        by_contra hne
        refine hkept ⟨⟨i, hown⟩, fun ⟨l, hl⟩ => ?_⟩
        rcases (howns l a).1 hl with ⟨-, heq⟩ | ⟨hli, hl'⟩
        · exact hne heq
        · exact hli (h.wf.owner_unique l i a hl' hown)
      refine ⟨i, (howns i a).2 (.inl ⟨rfl, ha⟩), ?_⟩
      rw [hslots, update_self]
      rcases hs with ⟨-, rfl⟩ | ⟨hnone, -, -⟩
      · exact covers_check_slot (s := touch (t.slots i) c.now) (h.seen i hown.1) hcovers c.counter
      · exact absurd ⟨i, ha ▸ hown⟩ hnone
    · refine ⟨i, (howns i a).2 (.inr ⟨hij, hown⟩), ?_⟩
      rw [hslots, update_of_ne hij]
      exact hcovers
  · refine ⟨i, ?_, ?_⟩
    · unfold Owns
      rw [hslots]
      exact hown
    · rw [hslots]
      exact hcovers

lemma guards_revived {i : Fin REPLAY_MAX_SENDERS} (hown : Owns t i a)
    (hle : k ≤ (t.slots i).high_water.toNat) (now_ms : UInt32) : Guards (revived t now_ms) a k := by
  refine ⟨i, owns_revived.2 hown, ?_⟩
  show Covers (revive now_ms (t.slots i)).high_water.toNat (revive now_ms (t.slots i)).window k
  rw [revive, if_pos hown.1]
  exact covers_allOnes hle

lemma Guards.of_slots {t' : ReplayTable} (hguard : Guards t a k) (hslots : t'.slots = t.slots) :
    Guards t' a k := by
  unfold Guards Owns at hguard ⊢
  rw [hslots]
  exact hguard

def Stores (n : Node) (w : Which) (a : UInt32) (k : ℕ) : Prop :=
  ∀ now_ms, Guards (restore (n.nvs w) now_ms) a k

lemma Inv.stores_of_clean (h : Inv n) (hclean : (n.table w).dirty = false)
    (hguard : Guards (n.table w) a k) : Stores n w a k := by
  intro now_ms
  obtain ⟨i, ⟨hused, hsrc⟩, hcovers⟩ := hguard
  have hsame := h.clean w hclean now_ms i
  rcases h.restore_cases w with hnone | ⟨t, -, hsome⟩
  · rw [hnone] at hsame
    have hfree : ((n.table w).slots i).used = false := (persisted_inj hsame).1
    rw [hused] at hfree
    cases hfree
  · rw [hsome] at hsame ⊢
    obtain ⟨hused', -, hsrc', hhigh⟩ :=
      persisted_inj (hsame.trans (persisted_revive now_ms (t.slots i)))
    refine guards_revived ⟨hused'.symm.trans hused, hsrc'.symm.trans hsrc⟩ ?_ now_ms
    rw [← hhigh]
    exact hcovers.1

lemma guards_step (h : Inv n) (hguard : Guards (n.table w) a k) {ev : Event}
    (hkeeps : Keeps w a n ev) (hpowered : Powered ev) : Guards ((step n ev).table w) a k := by
  cases ev with
  | check w' c =>
    show Guards (update n.table w' (ReplayWindow.after (n.table w') c) w) a k
    by_cases hw : w' = w
    · subst hw
      rw [update_self]
      exact hguard.after (h.good w') (hkeeps rfl)
    · rw [update_of_ne (Ne.symm hw)]
      exact hguard
  | save force t o => exact hguard.of_slots (save_spec n force t o w).1
  | reboot now_ms => exact hpowered.elim

lemma both_step (h : Inv n) (hguard : Guards (n.table w) a k) (hstores : Stores n w a k)
    {ev : Event} (hkeeps : Keeps w a n ev) :
    Guards ((step n ev).table w) a k ∧ Stores (step n ev) w a k := by
  cases ev with
  | check w' c => exact ⟨guards_step h hguard hkeeps trivial, hstores⟩
  | save force t o =>
    refine ⟨guards_step h hguard hkeeps trivial, fun now_ms => ?_⟩
    show Guards (restore ((mesh_replay_store_save n force t o).nvs w) now_ms) a k
    rcases (save_spec n force t o w).2.1 with hsame | hnew
    · rw [hsame]
      exact hstores now_ms
    · obtain ⟨i, hown, hcovers⟩ := hguard
      rw [hnew, restore_serialize (h.good w)]
      exact guards_revived hown hcovers.1 now_ms
  | reboot now_ms => exact ⟨hstores now_ms, hstores⟩

/-- **Replay protection survives a reboot.** A counter `c` that is still guarded by its sender's
slot when a flush succeeds (`since`, `flush`) is refused after a reboot for as long as the sender
keeps its slot (`after`). Between the two the sender may keep its slot while anything happens
(`later`), and then lose it as long as nothing more is stored (`quiet`). A window whose flag is
clear is what storage holds, but for the bitmaps and the times, and a blob with a wrong CRC is
restored as an empty table. -/
theorem replay_survives_reboot (now₀ : UInt32) (w : Which) :
    (∀ (before since later quiet after : List Event) (c c' : Call) (flush : Event)
        (now_ms : UInt32),
      let accepting := before.foldl step (fresh now₀)
      let flushing := since.foldl step (step accepting (.check w c))
      let flushed := later.foldl step (step flushing flush)
      let restored := step (quiet.foldl step flushed) (.reboot now_ms)
      answer (accepting.table w) c = .ACCEPT →
      Meets step (fun n ev => Keeps w c.src n ev ∧ Powered ev) (step accepting (.check w c)) since →
      Saved w flushing flush →
      Meets step (Keeps w c.src) (step flushing flush) later →
      Meets step (Quiet w) flushed quiet →
      Meets step (Keeps w c.src) restored after →
      c'.src = c.src → c'.counter = c.counter →
      answer ((after.foldl step restored).table w) c' ≠ .ACCEPT) ∧
    (∀ (es : List Event) (now_ms : UInt32) (i : Fin REPLAY_MAX_SENDERS),
      let n := es.foldl step (fresh now₀)
      (n.table w).dirty = false →
        persisted ((n.table w).slots i) = persisted ((restore (n.nvs w) now_ms).slots i)) ∧
    (∀ (n : Node) (buf : List UInt8) (now_ms : UInt32), CrcDetects buf →
      (step { n with nvs := Function.update n.nvs w (some buf) } (.reboot now_ms)).table w =
        replay_table_init) := by
  refine ⟨?_, fun es now_ms i hclean => (inv_run now₀ es).clean w hclean now_ms i, ?_⟩
  · intro before since later quiet after c c' flush now_ms accepting flushing flushed restored
      haccept hsince hsaved hlater hquiet hafter hsrc hcounter
    have hinv : Inv accepting := inv_run now₀ before
    have hguard : Guards ((step accepting (.check w c)).table w) c.src c.counter.toNat := by
      show Guards
        (update accepting.table w (ReplayWindow.after (accepting.table w) c) w) _ _
      rw [update_self]
      exact guards_of_accept (hinv.good w) haccept
    -- the window alone, up to the flush
    obtain ⟨hinv, hguard⟩ : Inv flushing ∧ Guards (flushing.table w) c.src c.counter.toNat :=
      foldl_invariant (I := fun n => Inv n ∧ Guards (n.table w) c.src c.counter.toNat)
        (fun _ ev h hev => ⟨h.1.step ev, guards_step h.1 h.2 hev.1 hev.2⟩) hsince
        ⟨hinv.step _, hguard⟩
    have hguard' : Guards ((step flushing flush).table w) c.src c.counter.toNat := by
      cases flush with
      | save force t o => exact guards_step hinv hguard  trivial trivial
      | check w' c => exact hsaved.elim
      | reboot now_ms => exact hsaved.elim
    -- the window and storage, until storage is left alone
    have hboth : ∀ {n : Node} {es : List Event}, Meets step (Keeps w c.src) n es →
        Inv n ∧ Guards (n.table w) c.src c.counter.toNat ∧ Stores n w c.src c.counter.toNat →
        Inv (es.foldl step n) ∧ Guards ((es.foldl step n).table w) c.src c.counter.toNat ∧
          Stores (es.foldl step n) w c.src c.counter.toNat := fun hes =>
      foldl_invariant (I := fun n => Inv n ∧ Guards (n.table w) c.src c.counter.toNat ∧
        Stores n w c.src c.counter.toNat)
        (fun _ ev h hev => ⟨h.1.step ev, both_step h.1 h.2.1 h.2.2 hev⟩) hes
    obtain ⟨hinv, -, hstores⟩ := hboth hlater
      ⟨hinv.step flush, hguard', (hinv.step flush).stores_of_clean (clean_of_saved hsaved) hguard'⟩
    -- storage alone, up to the reboot
    obtain ⟨hinv, hstores⟩ : Inv (quiet.foldl step flushed) ∧
        Stores (quiet.foldl step flushed) w c.src c.counter.toNat :=
      foldl_invariant (I := fun n => Inv n ∧ Stores n w c.src c.counter.toNat)
        (fun n ev h hev => ⟨h.1.step ev, fun now_ms => by rw [hev]; exact h.2 now_ms⟩) hquiet
        ⟨hinv, hstores⟩
    obtain ⟨hinv, hguard, -⟩ := hboth hafter ⟨hinv.step (.reboot now_ms), hstores now_ms, hstores⟩
    rw [← hsrc, ← hcounter] at hguard
    exact hguard.refused (hinv.good w)
  · intro n buf now_ms hcrc
    show restore (update n.nvs w (some buf) w) now_ms = _
    rw [update_self]
    exact restore_of_crc hcrc now_ms

end

def works : Outcome := ⟨true, fun _ => true, true, fun _ => true⟩

def fails_late : Outcome := ⟨true, fun _ => true, false, fun _ => true⟩

theorem replay_survives_reboot_late_commit :
    let since : List Event := [.check .data ⟨7, 103, 20⟩, .check .control ⟨9, 1, 21⟩]
    let later : List Event := [.check .data ⟨7, 110, 40⟩, .save true 50 fails_late]
    let quiet : List Event := [.check .data ⟨8, 4, 60⟩]
    let after : List Event := [.check .data ⟨7, 111, 5⟩]
    let accepted := step (fresh 0) (.check .data ⟨7, 100, 10⟩)
    let flushed := later.foldl step (step (since.foldl step accepted) (.save true 30 works))
    let restored := step (quiet.foldl step flushed) (.reboot 0)
    (answer ((fresh 0).table .data) ⟨7, 100, 10⟩ = .ACCEPT ∧
        Meets step (Keeps .data 7) restored after ∧
        answer (restored.table .data) ⟨7, 111, 5⟩ = .ACCEPT) ∧
      answer ((after.foldl step restored).table .data) ⟨7, 100, 6⟩ ≠ .ACCEPT :=
  ⟨by decide +kernel,
    (replay_survives_reboot 0 .data).1 [] [.check .data ⟨7, 103, 20⟩, .check .control ⟨9, 1, 21⟩]
      [.check .data ⟨7, 110, 40⟩, .save true 50 fails_late] [.check .data ⟨8, 4, 60⟩]
      [.check .data ⟨7, 111, 5⟩] ⟨7, 100, 10⟩ ⟨7, 100, 6⟩ (.save true 30 works) 0
      (by decide +kernel) (by decide +kernel) (by decide +kernel) (by decide +kernel)
      (by decide +kernel) (by decide +kernel) rfl rfl⟩

end BrambleMesh.ReplayPersist
