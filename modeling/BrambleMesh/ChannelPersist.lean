/-
The channel table across reboots: components/channel/channel_storage.c, main/mesh_channels.c, and
the part of `mesh_task_start` that rebuilds the table. No empty name is written, and none removed.
-/
import BrambleMesh.Channels

namespace BrambleMesh.ChannelPersist

open Run Channels Function List

/-! ## Storage -/

structure Nvs where
  count : Option UInt8
  default_idx : Option UInt8
  ch : Fin MAX_CHANNELS → Option Channel
  nm : Fin MAX_CHANNELS → Option (List UInt8)
  psk : Fin MAX_CHANNELS → Option UInt8

def Nvs.empty : Nvs := ⟨none, none, fun _ => none, fun _ => none, fun _ => none⟩

def channel_storage_save (s : Nvs) (t : ChannelTable) : Nvs :=
  if t.s_num_channels > MAX_CHANNELS ∨ t.s_default_channel_idx ≥ MAX_CHANNELS then s
  else
    { s with
      count := some (UInt8.ofNat t.s_num_channels)
      default_idx := some (UInt8.ofNat t.s_default_channel_idx)
      ch := fun i => if i.val < t.s_num_channels then some (t.s_channels i) else s.ch i
      -- an empty name is not written
      nm := fun i => if i.val < t.s_num_channels ∧ t.s_channel_names i ≠ [] then
        some (t.s_channel_names i) else s.nm i }

def mesh_persist_channel_psk_flags (s : Nvs) (t : ChannelTable) : Nvs :=
  { s with
    psk := fun i => if i.val < t.s_num_channels then some (if t.s_channel_has_psk i then 1 else 0)
      else none }

structure Loaded where
  channels : Fin MAX_CHANNELS → Channel
  num_channels : ℕ
  names : Fin MAX_CHANNELS → List UInt8
  default_channel_idx : ℕ

def read_blob (s : Nvs) (failing : Fin MAX_CHANNELS → Bool) (i : Fin MAX_CHANNELS) :
    Option Channel :=
  if failing i then none else s.ch i

def channel_storage_load (s : Nvs) (failing : Fin MAX_CHANNELS → Bool)
    (stack : Fin MAX_CHANNELS → Channel) : Option Loaded :=
  match s.count with
  | none => none
  | some count =>
    if count.toNat > MAX_CHANNELS then none
    else
      let default_channel_idx :=
        match s.default_idx with
        | some def_idx => if def_idx.toNat < MAX_CHANNELS then def_idx.toNat else 0
        | none => 0
      let loaded := (List.finRange MAX_CHANNELS).countP fun i =>
        i.val < count.toNat && (read_blob s failing i).isSome
      if loaded > 0 then
        some
          { channels := fun i =>
              if i.val < count.toNat then (read_blob s failing i).getD (stack i) else stack i
            num_channels := loaded
            names := fun i => if i.val < loaded then (s.nm i).getD [] else []
            default_channel_idx := default_channel_idx }
      else none

/-! ## Boot -/

def public_idx : Fin MAX_CHANNELS := ⟨0, by decide⟩

def name_or (loaded old : List UInt8) : List UInt8 := if loaded ≠ [] then loaded else old

def merge (l : Loaded) (t : ChannelTable) (i : Fin MAX_CHANNELS) : ChannelTable :=
  if h : t.s_num_channels < MAX_CHANNELS then
    if (l.channels i).channel_id = 0 ∧ i.val = 0 then
      { t with
        s_channel_names := update t.s_channel_names public_idx
          (name_or (l.names i) (t.s_channel_names public_idx)) }
    else
      let idx : Fin MAX_CHANNELS := ⟨t.s_num_channels, h⟩
      { t with
        s_channels := update t.s_channels idx
          { l.channels i with channel_id := UInt8.ofNat t.s_num_channels }
        s_channel_names := update t.s_channel_names idx
          (name_or (l.names i) (t.s_channel_names idx))
        s_channel_has_psk := update t.s_channel_has_psk idx false
        s_num_channels := t.s_num_channels + 1 }
  else t

def mesh_load_channel_psk_flags (s : Nvs) (t : ChannelTable) : ChannelTable :=
  { t with
    s_channel_has_psk := fun i =>
      if i.val < t.s_num_channels then (s.psk i).getD 0 != 0 else t.s_channel_has_psk i }

def mesh_task_start (public_key : Key32) (s : Nvs) (failing : Fin MAX_CHANNELS → Bool)
    (stack : Fin MAX_CHANNELS → Channel) : ChannelTable :=
  let t := public_channel_init public_key
  match channel_storage_load s failing stack with
  | none => t
  | some l =>
    let t := ((List.finRange MAX_CHANNELS).take l.num_channels).foldl (merge l) t
    let t :=
      if l.default_channel_idx < t.s_num_channels then
        { t with s_default_channel_idx := l.default_channel_idx }
      else t
    mesh_load_channel_psk_flags s t

/-! ## Runs -/

structure Device where
  table : ChannelTable
  nvs : Nvs

def Device.fresh (public_key : Key32) : Device := ⟨public_channel_init public_key, .empty⟩

def mesh_set_default_channel (t : ChannelTable) (index : ℕ) : Option ChannelTable :=
  if index ≥ t.s_num_channels then none else some { t with s_default_channel_idx := index }

def makes_change (t : ChannelTable) : TableOp → Bool
  | .add _ psk random => t.s_num_channels < MAX_CHANNELS && (psk ≠ [] || random.isSome)
  | .remove index => index ≠ 0 && index < t.s_num_channels

inductive Event
  | change (op : TableOp)
  | set_default (index : ℕ)
  | reboot (stack : Fin MAX_CHANNELS → Channel)

def step (C : ChannelCrypto) (public_key : Key32) (d : Device) : Event → Device
  | .change op =>
    if makes_change d.table op then
      let t := op.apply C d.table
      ⟨t, mesh_persist_channel_psk_flags (channel_storage_save d.nvs t) t⟩
    else d
  | .set_default index =>
    match mesh_set_default_channel d.table index with
    | none => d
    | some t => ⟨t, channel_storage_save d.nvs t⟩
  | .reboot stack => { d with table := mesh_task_start public_key d.nvs (fun _ => false) stack }

/-! ## What boot makes of a stored table -/

section

variable {public_key : Key32} {t : ChannelTable} {s : Nvs} {l : Loaded} {k : ℕ}

structure Merged (public_key : Key32) (l : Loaded) (k : ℕ) (t : ChannelTable) : Prop where
  num : t.s_num_channels = k
  default_idx : t.s_default_channel_idx = 0
  channels : ∀ i : Fin MAX_CHANNELS, i.val < k → t.s_channels i =
    if i.val = 0 then ⟨public_key, 0, 0⟩ else l.channels i
  names : ∀ i : Fin MAX_CHANNELS, t.s_channel_names i =
    if i.val < k then name_or (l.names i) ((public_channel_init public_key).s_channel_names i)
    else (public_channel_init public_key).s_channel_names i

lemma merged_one (hid : (l.channels public_idx).channel_id = 0) :
    Merged public_key l 1 (merge l (public_channel_init public_key) public_idx) := by
  have hroom : (public_channel_init public_key).s_num_channels < MAX_CHANNELS :=
    show 1 < MAX_CHANNELS by decide
  unfold merge
  rw [dif_pos hroom, if_pos ⟨hid, rfl⟩]
  refine ⟨rfl, rfl, ?_, ?_⟩
  · intro i hi
    obtain rfl : i = public_idx := Fin.ext (Nat.lt_one_iff.1 hi)
    rfl
  · intro i
    by_cases hi : i.val < 1
    · obtain rfl : i = public_idx := Fin.ext (Nat.lt_one_iff.1 hi)
      simp [public_idx]
    · have hne : i ≠ public_idx := fun h => hi (by rw [h]; decide)
      simp only [if_neg hi, update_of_ne hne]

lemma Merged.succ {i : Fin MAX_CHANNELS} (h : Merged public_key l i.val t) (hpos : 0 < i.val)
    (hid : (l.channels i).channel_id = UInt8.ofNat i.val) :
    Merged public_key l (i.val + 1) (merge l t i) := by
  have hroom : t.s_num_channels < MAX_CHANNELS := by rw [h.num]; exact i.isLt
  have hidx : (⟨t.s_num_channels, hroom⟩ : Fin MAX_CHANNELS) = i := Fin.ext h.num
  unfold merge
  rw [dif_pos hroom, if_neg fun hskip => by omega]
  rw [hidx, h.num, ← hid]
  refine ⟨rfl, h.default_idx, ?_, ?_⟩
  · intro j hj
    dsimp only
    by_cases hji : j = i
    · rw [hji, update_self, if_neg (by omega)]
    · rw [update_of_ne hji]
      exact h.channels j (by have := Fin.val_ne_of_ne hji; omega)
  · intro j
    dsimp only
    by_cases hji : j = i
    · rw [hji, update_self, if_pos (Nat.lt_succ_self _), h.names i,
        if_neg (Nat.lt_irrefl _)]
    · simp only [update_of_ne hji, h.names j,
        show j.val < i.val + 1 ↔ j.val < i.val by omega]

lemma merged_of_le (hpos : 0 < k) (hk : k ≤ MAX_CHANNELS)
    (hid : ∀ i : Fin MAX_CHANNELS, i.val < k → (l.channels i).channel_id = UInt8.ofNat i.val) :
    Merged public_key l k
      (((finRange MAX_CHANNELS).take k).foldl (merge l) (public_channel_init public_key)) := by
  induction k with
  | zero => exact absurd hpos (Nat.lt_irrefl 0)
  | succ k ih =>
    have hlt : k < (finRange MAX_CHANNELS).length := by rw [length_finRange]; exact hk
    rw [take_succ_eq_append_getElem hlt, foldl_append, getElem_finRange]
    rcases Nat.eq_zero_or_pos k with rfl | hkpos
    · exact merged_one (hid public_idx (by decide))
    · have hk' : k < MAX_CHANNELS := hk
      have hmerged := ih hkpos (Nat.le_of_lt hk') fun i hi => hid i (Nat.lt_succ_of_lt hi)
      exact Merged.succ (i := ⟨k, hk'⟩) hmerged hkpos (hid ⟨k, hk'⟩ (Nat.lt_succ_self k))

structure Healthy (public_key : Key32) (t : ChannelTable) : Prop where
  wf : t.Wf
  default_lt : t.s_default_channel_idx < t.s_num_channels
  public_channel : t.s_channels public_idx = ⟨public_key, 0, 0⟩
  public_name : t.s_channel_names public_idx ≠ []

structure Stored (t : ChannelTable) (s : Nvs) : Prop where
  count : s.count = some (UInt8.ofNat t.s_num_channels)
  default_idx : s.default_idx = some (UInt8.ofNat t.s_default_channel_idx)
  ch : ∀ i : Fin MAX_CHANNELS, i.val < t.s_num_channels → s.ch i = some (t.s_channels i)
  nm : ∀ i : Fin MAX_CHANNELS, i.val < t.s_num_channels → t.s_channel_names i ≠ [] →
    s.nm i = some (t.s_channel_names i)

def FlagsStored (t : ChannelTable) (s : Nvs) : Prop :=
  ∀ i : Fin MAX_CHANNELS, i.val < t.s_num_channels →
    t.s_channel_has_psk i = ((s.psk i).getD 0 != 0)

structure Rebuilt (public_key : Key32) (s : Nvs) (t : ChannelTable) (k : ℕ) (t' : ChannelTable) :
    Prop where
  num : t'.s_num_channels = k
  channels : ∀ i : Fin MAX_CHANNELS, i.val < k → t'.s_channels i = t.s_channels i
  names : ∀ i : Fin MAX_CHANNELS, i.val < k → t'.s_channel_names i =
    name_or ((s.nm i).getD []) ((public_channel_init public_key).s_channel_names i)
  default_idx : t'.s_default_channel_idx =
    if t.s_default_channel_idx < k then t.s_default_channel_idx else 0
  psk : ∀ i : Fin MAX_CHANNELS, i.val < k → t'.s_channel_has_psk i = t.s_channel_has_psk i

lemma toNat_ofNat_of_le {n : ℕ} (h : n ≤ MAX_CHANNELS) : (UInt8.ofNat n).toNat = n :=
  UInt8.toNat_ofNat_of_lt' (lt_of_le_of_lt h (by decide))

lemma countP_lt (hk : k ≤ MAX_CHANNELS) :
    (finRange MAX_CHANNELS).countP (fun i => decide (i.val < k)) = k := by
  revert k
  decide

lemma channel_storage_load_of_stored {failing : Fin MAX_CHANNELS → Bool}
    (ht : Healthy public_key t) (hs : Stored t s) (hpos : 0 < k) (hk : k ≤ t.s_num_channels)
    (hfailing : ∀ i : Fin MAX_CHANNELS, i.val < t.s_num_channels →
      failing i = decide (k ≤ i.val)) (stack : Fin MAX_CHANNELS → Channel) :
    ∃ l, channel_storage_load s failing stack = some l ∧ l.num_channels = k ∧
      l.default_channel_idx = t.s_default_channel_idx ∧
      ∀ i : Fin MAX_CHANNELS, i.val < k →
        l.channels i = t.s_channels i ∧ l.names i = (s.nm i).getD [] := by
  have hmax : k ≤ MAX_CHANNELS := hk.trans ht.wf.le
  have hcount := toNat_ofNat_of_le ht.wf.le
  have hdefault : t.s_default_channel_idx < MAX_CHANNELS := ht.default_lt.trans_le ht.wf.le
  -- a blob can be read if it is one of the first `k`
  have hread (i : Fin MAX_CHANNELS) (hi : i.val < t.s_num_channels) :
      read_blob s failing i = if i.val < k then some (t.s_channels i) else none := by
    rw [read_blob, hfailing i hi, hs.ch i hi]
    by_cases hik : i.val < k
    · rw [if_pos hik, decide_eq_false (Nat.not_le.2 hik), if_neg Bool.false_ne_true]
    · rw [if_neg hik, decide_eq_true (Nat.not_lt.1 hik), if_pos rfl]
  have hloaded : (finRange MAX_CHANNELS).countP (fun i =>
      i.val < (UInt8.ofNat t.s_num_channels).toNat && (read_blob s failing i).isSome) = k := by
    rw [← countP_lt hmax]
    congr 1
    funext i
    rw [hcount]
    by_cases hi : i.val < t.s_num_channels
    · rw [hread i hi, decide_eq_true hi]
      by_cases hik : i.val < k <;> simp [hik]
    · rw [decide_eq_false hi, decide_eq_false (by omega), Bool.false_and]
  unfold channel_storage_load
  rw [hs.count, hs.default_idx]
  dsimp only
  rw [hloaded, hcount, toNat_ofNat_of_le hdefault.le, if_neg (Nat.not_lt.2 ht.wf.le),
    if_pos hdefault, if_pos hpos]
  refine ⟨_, rfl, rfl, rfl, ?_⟩
  intro i hi
  have hin : i.val < t.s_num_channels := hi.trans_le hk
  dsimp only
  rw [if_pos hin, hread i hin, if_pos hi, if_pos hi]
  exact ⟨rfl, rfl⟩

/-- **What boot builds** when the blobs from the `k`-th on cannot be read: the channels before
them. -/
theorem mesh_task_start_of_stored {failing : Fin MAX_CHANNELS → Bool}
    (ht : Healthy public_key t) (hs : Stored t s) (hflags : FlagsStored t s) (hpos : 0 < k)
    (hk : k ≤ t.s_num_channels)
    (hfailing : ∀ i : Fin MAX_CHANNELS, i.val < t.s_num_channels →
      failing i = decide (k ≤ i.val)) (stack : Fin MAX_CHANNELS → Channel) :
    Rebuilt public_key s t k (mesh_task_start public_key s failing stack) := by
  obtain ⟨l, hload, hnum, hdefault, hl⟩ :=
    channel_storage_load_of_stored ht hs hpos hk hfailing stack
  have hmerged : Merged public_key l k (((finRange MAX_CHANNELS).take k).foldl (merge l)
      (public_channel_init public_key)) := by
    refine merged_of_le hpos (hk.trans ht.wf.le) fun i hi => ?_
    rw [(hl i hi).1]
    exact ht.wf.ids i (hi.trans_le hk)
  unfold mesh_task_start
  rw [hload]
  dsimp only
  rw [hnum, hdefault]
  generalize ((finRange MAX_CHANNELS).take k).foldl (merge l)
    (public_channel_init public_key) = b at hmerged
  have hchannels (i : Fin MAX_CHANNELS) (hi : i.val < k) : b.s_channels i = t.s_channels i := by
    rw [hmerged.channels i hi]
    by_cases hzero : i.val = 0
    · obtain rfl : i = public_idx := Fin.ext hzero
      rw [if_pos hzero, ht.public_channel]
    · rw [if_neg hzero, (hl i hi).1]
  have hnames (i : Fin MAX_CHANNELS) (hi : i.val < k) : b.s_channel_names i =
      name_or ((s.nm i).getD []) ((public_channel_init public_key).s_channel_names i) := by
    rw [hmerged.names i, if_pos hi, (hl i hi).2]
  have hpsk (i : Fin MAX_CHANNELS) (hi : i.val < k) :
      (if i.val < b.s_num_channels then (s.psk i).getD 0 != 0 else b.s_channel_has_psk i) =
        t.s_channel_has_psk i := by
    rw [hmerged.num, if_pos hi]
    exact (hflags i (hi.trans_le hk)).symm
  by_cases hin : t.s_default_channel_idx < k
  · rw [if_pos (hmerged.num.symm ▸ hin)]
    exact ⟨hmerged.num, hchannels, hnames, (if_pos hin).symm, hpsk⟩
  · rw [if_neg (hmerged.num.symm ▸ hin)]
    exact ⟨hmerged.num, hchannels, hnames, hmerged.default_idx.trans (if_neg hin).symm, hpsk⟩

end

/-! ## What the changes keep -/

section

variable {C : ChannelCrypto} {public_key : Key32} {t : ChannelTable} {s : Nvs} {d : Device}

lemma Healthy.pos (h : Healthy public_key t) : 0 < t.s_num_channels :=
  Nat.zero_lt_of_lt h.default_lt

lemma healthy_init (public_key : Key32) : Healthy public_key (public_channel_init public_key) :=
  ⟨wf_public_channel_init public_key, Nat.zero_lt_one, rfl, by
    show "Broadcast".toUTF8.toList ≠ []
    decide +kernel⟩

lemma Healthy.add (h : Healthy public_key t) (name psk : List UInt8) (random : Option Key32) :
    Healthy public_key (mesh_add_channel C t name psk random) := by
  have hwf := h.wf.add (C := C) name psk random
  revert hwf
  unfold mesh_add_channel
  split
  · next hroom =>
    -- the public channel is not the one that is added
    have hne : public_idx ≠ ⟨t.s_num_channels, hroom⟩ := fun heq =>
      absurd (congrArg Fin.val heq) h.pos.ne
    dsimp only
    split
    · exact fun _ => h
    · intro hwf
      refine ⟨hwf, h.default_lt.trans (Nat.lt_succ_self _), ?_, ?_⟩
      · simp only [update_of_ne hne, h.public_channel]
      · simp only [update_of_ne hne]
        exact h.public_name
  · exact fun _ => h

lemma Healthy.remove (h : Healthy public_key t) (index : ℕ) :
    Healthy public_key (mesh_remove_channel t index) := by
  have hpublic : public_idx.val = 0 := rfl
  refine ⟨h.wf.remove index, ?_, ?_, ?_⟩ <;> unfold mesh_remove_channel <;> split
  · exact h.default_lt
  · dsimp only
    split_ifs <;> omega
  · exact h.public_channel
  · dsimp only [removed_channels]
    rw [if_neg (by omega), h.public_channel]
  · exact h.public_name
  · dsimp only [compacted]
    rw [if_neg (by omega), dif_neg (by omega)]
    exact h.public_name

lemma Healthy.apply (h : Healthy public_key t) (op : TableOp) :
    Healthy public_key (op.apply C t) := by
  cases op with
  | add name psk random => exact h.add name psk random
  | remove index => exact h.remove index

lemma stored_save (h : Healthy public_key t) (s : Nvs) :
    Stored t (channel_storage_save s t) := by
  have hmax := h.wf.le
  have hdefault := h.default_lt
  unfold channel_storage_save
  rw [if_neg (by omega)]
  exact ⟨rfl, rfl, fun i hi => if_pos hi, fun i hi hname => if_pos ⟨hi, hname⟩⟩

lemma flags_stored (t : ChannelTable) (s : Nvs) :
    FlagsStored t (mesh_persist_channel_psk_flags s t) := by
  intro i hi
  dsimp only [mesh_persist_channel_psk_flags]
  rw [if_pos hi]
  cases t.s_channel_has_psk i <;> rfl

lemma Rebuilt.name_eq {t' : ChannelTable} (h : Rebuilt public_key s t t.s_num_channels t')
    (ht : Healthy public_key t) (hs : Stored t s) {i : Fin MAX_CHANNELS}
    (hi : i.val < t.s_num_channels) : t'.s_channel_names i = (s.nm i).getD [] := by
  rw [h.names i hi, name_or]
  by_cases hname : (s.nm i).getD [] = []
  · -- no name is stored, so this is not the public channel
    have hne : i ≠ public_idx := by
      rintro rfl
      rw [hs.nm _ hi ht.public_name] at hname
      exact ht.public_name hname
    have hval : i ≠ 0 := hne
    rw [hname]
    exact update_of_ne hval _ (fun _ => [])
  · rw [if_pos hname]

lemma Rebuilt.healthy {t' : ChannelTable} (h : Rebuilt public_key s t t.s_num_channels t')
    (ht : Healthy public_key t) (hs : Stored t s) (hflags : FlagsStored t s) :
    Healthy public_key t' ∧ Stored t' s ∧ FlagsStored t' s := by
  have hdefault : t'.s_default_channel_idx = t.s_default_channel_idx :=
    h.default_idx.trans (if_pos ht.default_lt)
  have hpublic : public_idx.val < t.s_num_channels := ht.pos
  refine ⟨⟨⟨?_, ?_⟩, ?_, ?_, ?_⟩, ⟨?_, ?_, ?_, ?_⟩, ?_⟩
  · rw [h.num]
    exact ht.wf.le
  · intro i hi
    rw [h.num] at hi
    rw [h.channels i hi, ht.wf.ids i hi]
  · rw [hdefault, h.num]
    exact ht.default_lt
  · rw [h.channels _ hpublic, ht.public_channel]
  · rw [h.name_eq ht hs hpublic, hs.nm _ hpublic ht.public_name]
    exact ht.public_name
  · rw [h.num, hs.count]
  · rw [hdefault, hs.default_idx]
  · intro i hi
    rw [h.num] at hi
    rw [h.channels i hi, hs.ch i hi]
  · intro i hi hname
    rw [h.num] at hi
    rw [h.name_eq ht hs hi] at hname ⊢
    rcases hnm : s.nm i with _ | name
    · rw [hnm] at hname
      exact absurd rfl hname
    · rfl
  · intro i hi
    rw [h.num] at hi
    rw [h.psk i hi, hflags i hi]

structure Consistent (public_key : Key32) (d : Device) : Prop where
  healthy : Healthy public_key d.table
  flags : FlagsStored d.table d.nvs
  stored : d = Device.fresh public_key ∨ Stored d.table d.nvs

lemma consistent_fresh (public_key : Key32) : Consistent public_key (Device.fresh public_key) :=
  ⟨healthy_init public_key, fun _ _ => rfl, Or.inl rfl⟩

lemma Consistent.rebuilt (h : Consistent public_key d) (hs : Stored d.table d.nvs)
    (stack : Fin MAX_CHANNELS → Channel) :
    Rebuilt public_key d.nvs d.table d.table.s_num_channels
      (mesh_task_start public_key d.nvs (fun _ => false) stack) :=
  mesh_task_start_of_stored h.healthy hs h.flags h.healthy.pos le_rfl
    (fun _ hi => (decide_eq_false (Nat.not_le.mpr hi)).symm) stack

lemma consistent_step (h : Consistent public_key d) (ev : Event) :
    Consistent public_key (step C public_key d ev) := by
  cases ev with
  | change op =>
    unfold step
    dsimp only
    split_ifs
    · have hhealthy : Healthy public_key (op.apply C d.table) := h.healthy.apply op
      have hsaved := stored_save hhealthy d.nvs
      exact ⟨hhealthy, flags_stored _ _,
        .inr ⟨hsaved.count, hsaved.default_idx, hsaved.ch, hsaved.nm⟩⟩
    · exact h
  | set_default index =>
    by_cases hrange : d.table.s_num_channels ≤ index
    · have hrefused : mesh_set_default_channel d.table index = none := if_pos hrange
      simp only [step, hrefused]
      exact h
    · have hmade : mesh_set_default_channel d.table index =
          some { d.table with s_default_channel_idx := index } := if_neg hrange
      have hhealthy : Healthy public_key { d.table with s_default_channel_idx := index } :=
        ⟨⟨h.healthy.wf.le, h.healthy.wf.ids⟩, Nat.not_le.1 hrange, h.healthy.public_channel,
          h.healthy.public_name⟩
      simp only [step, hmade]
      refine ⟨hhealthy, ?_, .inr (stored_save hhealthy d.nvs)⟩
      intro i hi
      unfold channel_storage_save
      split_ifs <;> exact h.flags i hi
  | reboot stack =>
    rcases h.stored with rfl | hs
    · exact consistent_fresh public_key
    · obtain ⟨hhealthy, hstored, hflags⟩ :=
        (h.rebuilt hs stack).healthy h.healthy hs h.flags
      exact ⟨hhealthy, hflags, .inr hstored⟩

/-! ## Names -/

def NoStaleName (d : Device) : Prop :=
  ∀ i : Fin MAX_CHANNELS, i.val < d.table.s_num_channels → d.table.s_channel_names i = [] →
    (d.nvs.nm i).getD [] = []

def AllNamed (t : ChannelTable) : Prop :=
  ∀ i : Fin MAX_CHANNELS, i.val < t.s_num_channels → t.s_channel_names i ≠ []

def Event.Named : Event → Prop
  | .change (.add name _ _) => name ≠ []
  | _ => True

lemma AllNamed.add (h : AllNamed t) {name : List UInt8} (hname : name ≠ []) (psk : List UInt8)
    (random : Option Key32) : AllNamed (mesh_add_channel C t name psk random) := by
  unfold mesh_add_channel
  split
  · next hroom =>
    dsimp only
    split
    · exact h
    · intro i hi
      by_cases hnew : i = ⟨t.s_num_channels, hroom⟩
      · simp only [hnew]
        exact fun hnil => hname (by simpa using hnil)
      · simp only [update_of_ne hnew]
        have hval := Fin.val_ne_of_ne hnew
        dsimp only at hi hval
        exact h i (by omega)
  · exact h

lemma AllNamed.remove (h : AllNamed t) (index : ℕ) :
    AllNamed (mesh_remove_channel t index) := by
  unfold mesh_remove_channel
  split
  · exact h
  · intro i hi
    dsimp only [compacted] at hi ⊢
    rw [if_neg (by omega)]
    split_ifs with hmoved
    · exact h ⟨i.val + 1, hmoved.2.2⟩ hmoved.2.1
    · exact h i (by omega)

lemma allNamed_step (hd : Consistent public_key d) (h : AllNamed d.table) {ev : Event}
    (hev : ev.Named) : AllNamed (step C public_key d ev).table := by
  cases ev with
  | change op =>
    unfold step
    dsimp only
    split_ifs
    · cases op with
      | add name psk random => exact h.add hev psk random
      | remove index => exact h.remove index
    · exact h
  | set_default index =>
    unfold step mesh_set_default_channel
    dsimp only
    by_cases hrange : d.table.s_num_channels ≤ index
    · rw [if_pos hrange]
      exact h
    · rw [if_neg hrange]
      exact h
  | reboot stack =>
    rcases hd.stored with rfl | hs
    · exact h
    · have hrebuilt := hd.rebuilt hs stack
      intro i hi
      dsimp only [step] at hi ⊢
      rw [hrebuilt.num] at hi
      rw [hrebuilt.name_eq hd.healthy hs hi, hs.nm i hi (h i hi)]
      exact h i hi

lemma allNamed_run (C : ChannelCrypto) (public_key : Key32) {es : List Event}
    (hes : ∀ ev ∈ es, ev.Named) :
    AllNamed (es.foldl (step C public_key) (Device.fresh public_key)).table := by
  have hinit : AllNamed (Device.fresh public_key).table := by
    intro i hi
    obtain rfl : i = public_idx := Fin.ext (Nat.lt_one_iff.1 hi)
    exact (healthy_init public_key).public_name
  refine (foldl_invariant (C := fun _ ev => ev.Named)
    (I := fun d => Consistent public_key d ∧ AllNamed d.table) ?_
    (meets_of_forall (fun _ ev hev => hes ev hev) _) ⟨consistent_fresh public_key, hinit⟩).2
  exact fun d ev h hev => ⟨consistent_step h.1 ev, allNamed_step h.1 h.2 hev⟩

/-! ## The table after a reboot -/

structure SameChannels (t t' : ChannelTable) : Prop where
  num : t'.s_num_channels = t.s_num_channels
  default_idx : t'.s_default_channel_idx = t.s_default_channel_idx
  channels : ∀ i : Fin MAX_CHANNELS, i.val < t.s_num_channels → t'.s_channels i = t.s_channels i
  has_psk : ∀ i : Fin MAX_CHANNELS, i.val < t.s_num_channels →
    t'.s_channel_has_psk i = t.s_channel_has_psk i

def SameNames (t t' : ChannelTable) : Prop :=
  ∀ i : Fin MAX_CHANNELS, i.val < t.s_num_channels → t'.s_channel_names i = t.s_channel_names i

lemma Consistent.same_channels (h : Consistent public_key d)
    (stack : Fin MAX_CHANNELS → Channel) :
    SameChannels d.table (mesh_task_start public_key d.nvs (fun _ => false) stack) := by
  rcases h.stored with rfl | hs
  · exact ⟨rfl, rfl, fun _ _ => rfl, fun _ _ => rfl⟩
  · have hrebuilt := h.rebuilt hs stack
    exact ⟨hrebuilt.num, hrebuilt.default_idx.trans (if_pos h.healthy.default_lt),
      hrebuilt.channels, hrebuilt.psk⟩

lemma Consistent.same_names_iff (h : Consistent public_key d)
    (stack : Fin MAX_CHANNELS → Channel) :
    SameNames d.table (mesh_task_start public_key d.nvs (fun _ => false) stack) ↔
      NoStaleName d := by
  rcases h.stored with rfl | hs
  · exact iff_of_true (fun _ _ => rfl) (fun _ _ _ => rfl)
  · have hrebuilt := h.rebuilt hs stack
    constructor
    · intro hsame i hi hname
      rw [← hrebuilt.name_eq h.healthy hs hi, hsame i hi, hname]
    · intro hstale i hi
      rw [hrebuilt.name_eq h.healthy hs hi]
      by_cases hname : d.table.s_channel_names i = []
      · rw [hname, hstale i hi hname]
      · rw [hs.nm i hi hname]
        rfl

lemma Consistent.last_unreadable (h : Consistent public_key d)
    (stack : Fin MAX_CHANNELS → Channel) {j : Fin MAX_CHANNELS}
    (hj : j.val + 1 = d.table.s_num_channels) :
    let t := mesh_task_start public_key d.nvs (fun _ => false) stack
    let t' := mesh_task_start public_key d.nvs (fun i => decide (i = j)) stack
    (∀ i : Fin MAX_CHANNELS, i.val < j.val → t'.s_channels i = d.table.s_channels i ∧
        t'.s_channel_names i = t.s_channel_names i) ∧
      (d.table.s_default_channel_idx ≠ j.val →
        t'.s_default_channel_idx = d.table.s_default_channel_idx) := by
  intro t t'
  have hdefault := h.healthy.default_lt
  rcases h.stored with rfl | hs
  · exact ⟨fun _ _ => ⟨rfl, rfl⟩, fun _ => rfl⟩
  rcases Nat.eq_zero_or_pos j.val with hzero | hpos
  · -- the public channel is alone
    exact ⟨fun i hi => absurd hi (by omega), fun hne => absurd hdefault (by omega)⟩
  have hrebuilt : Rebuilt public_key d.nvs d.table j.val t' := by
    refine mesh_task_start_of_stored h.healthy hs h.flags hpos (by omega) (fun i hi => ?_) stack
    refine decide_eq_decide.2 ⟨fun heq => heq ▸ le_rfl, fun hle => Fin.ext (by omega)⟩
  have hall := h.rebuilt hs stack
  refine ⟨fun i hi => ⟨hrebuilt.channels i hi, ?_⟩, fun hne => ?_⟩
  · rw [hrebuilt.names i hi, hall.names i (by omega)]
  · rw [hrebuilt.default_idx, if_pos (by omega)]

end

/-- **The channel table survives a reboot, but for left-over names.** Keys, epochs and the default
are the same; the names are exactly if no name is stored under the index of a channel without one.
A last channel that cannot be read does not affect the others. -/
theorem table_survives_reboot (C : ChannelCrypto) (public_key : Key32) (es : List Event)
    (stack : Fin MAX_CHANNELS → Channel) :
    let d := es.foldl (step C public_key) (Device.fresh public_key)
    let t := mesh_task_start public_key d.nvs (fun _ => false) stack
    SameChannels d.table t ∧ (SameNames d.table t ↔ NoStaleName d) ∧
      ((∀ ev ∈ es, ev.Named) → NoStaleName d) ∧
      ∀ j : Fin MAX_CHANNELS, j.val + 1 = d.table.s_num_channels →
        let t' := mesh_task_start public_key d.nvs (fun i => decide (i = j)) stack
        (∀ i : Fin MAX_CHANNELS, i.val < j.val → t'.s_channels i = d.table.s_channels i ∧
            t'.s_channel_names i = t.s_channel_names i) ∧
          (d.table.s_default_channel_idx ≠ j.val →
            t'.s_default_channel_idx = d.table.s_default_channel_idx) := by
  intro d t
  have hd : Consistent public_key d :=
    foldl_invariant (C := fun _ _ => True) (fun _ ev h _ => consistent_step h ev)
      (meets_of_forall (fun _ _ _ => trivial) _) (consistent_fresh public_key)
  refine ⟨hd.same_channels stack, hd.same_names_iff stack, ?_, fun j hj => ?_⟩
  · exact fun hes i hi hname => absurd hname (allNamed_run C public_key hes i hi)
  · exact hd.last_unreadable stack hj

/-! ## Three channels -/

def noCrypto : ChannelCrypto where
  hkdf_sha256 := fun _ _ _ => none
  hmac_sha256 := fun _ _ => none
  x25519_dh := fun _ _ => none
  aes256gcm_encrypt := fun _ _ _ _ => none
  aes256gcm_decrypt := fun _ _ _ _ _ => none
  sha256 := fun _ => none

def nthKey (n : UInt8) : Key32 := Vector.replicate 32 n

def addNamed (name : List UInt8) (n : UInt8) : Event := .change (.add name [] (some (nthKey n)))

def oldStack : Fin MAX_CHANNELS → Channel := fun _ => ⟨nthKey 99, 7, 3⟩

def namedRun : List Event :=
  [addNamed [97] 1, addNamed [98] 2, .change (.remove 1), .set_default 1]

theorem table_survives_reboot_named :
    let d := namedRun.foldl (step noCrypto (nthKey 0)) (Device.fresh (nthKey 0))
    let t := mesh_task_start (nthKey 0) d.nvs (fun _ => false) oldStack
    SameChannels d.table t ∧ SameNames d.table t := by
  have hnamed : ∀ ev ∈ namedRun, ev.Named := by
    intro ev hev
    simp only [namedRun, mem_cons, not_mem_nil, or_false] at hev
    rcases hev with rfl | rfl | rfl | rfl
    · exact cons_ne_nil _ _
    · exact cons_ne_nil _ _
    · trivial
    · trivial
  obtain ⟨hchannels, hnames, hstale, -⟩ :=
    table_survives_reboot noCrypto (nthKey 0) namedRun oldStack
  exact ⟨hchannels, hnames.2 (hstale hnamed)⟩

/-- A nameless channel comes back with the name of one removed from its place; and behind a
channel that cannot be read, which comes back as what was on the stack, the last one is lost. -/
theorem stale_name_and_shift :
    (let d := [addNamed [97] 1, addNamed [98] 2, .change (.remove 1), addNamed [] 3].foldl
        (step noCrypto (nthKey 0)) (Device.fresh (nthKey 0))
      let t := mesh_task_start (nthKey 0) d.nvs (fun _ => false) oldStack
      d.table.s_num_channels = 3 ∧ d.table.s_channel_names 2 = [] ∧
        t.s_channel_names 2 = [98]) ∧
    (let d := [addNamed [97] 1, addNamed [98] 2].foldl (step noCrypto (nthKey 0))
        (Device.fresh (nthKey 0))
      let t := mesh_task_start (nthKey 0) d.nvs (fun i => decide (i = 1)) oldStack
      d.table.s_num_channels = 3 ∧ t.s_num_channels = 2 ∧
        t.s_channels 1 = ⟨nthKey 99, 1, 3⟩ ∧ t.s_channel_names 1 = [97]) := by
  decide

end BrambleMesh.ChannelPersist
