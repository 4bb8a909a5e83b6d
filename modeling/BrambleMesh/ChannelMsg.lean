/-
Messages on a channel: components/channel/channel_msg.c. The receiver tries every channel, and for
those whose key does not fit also the keys of up to 256 epochs ahead, as far as the channel's
budget goes.
-/
import BrambleMesh.Channels

namespace BrambleMesh.ChannelMsg

open Bytes Channels List

abbrev APP_TYPE_CHAT : UInt8 := 0x01
abbrev APP_TYPE_KE : UInt8 := 0x02
abbrev APP_TYPE_ROLLCALL : UInt8 := 0x04
abbrev APP_TYPE_ROLLCALL_REPLY : UInt8 := 0x05

abbrev CHANNEL_MSG_OVERHEAD : ℕ := 8
abbrev CHANNEL_MSG_SENT_AT_SIZE : ℕ := 4
abbrev CHANNEL_MSG_MAX_PLAINTEXT_SIZE : ℕ := 256
abbrev CHANNEL_EPOCH_CATCHUP_MAX : ℕ := 256
abbrev CHANNEL_EPOCH_CATCHUP_BUDGET : ℕ := CHANNEL_EPOCH_CATCHUP_MAX
abbrev CHANNEL_EPOCH_CATCHUP_REFILL_MS : ℕ := 10000

/-! ## Sealing -/

def inner_plaintext (ch : Channel) (src_addr : UInt32) (app_type : UInt8) (sent_at : UInt32)
    (data : List UInt8) : List UInt8 :=
  [ch.channel_id, ch.epoch.toUInt8, (ch.epoch >>> 8).toUInt8, app_type] ++ (le32 src_addr ++
    ((if app_type = APP_TYPE_CHAT then be32 sent_at else []) ++ data))

def channel_msg_encrypt (C : DmCrypto) (ch : Channel) (src_addr : UInt32) (app_type : UInt8)
    (sent_at : UInt32) (data aad : List UInt8) (nonce : Nonce) : Option (List UInt8 × Tag16) :=
  if CHANNEL_MSG_MAX_PLAINTEXT_SIZE <
      (inner_plaintext ch src_addr app_type sent_at data).length then none
  else C.aes256gcm_encrypt ch.key nonce (inner_plaintext ch src_addr app_type sent_at data) aad

/-! ## Opening -/

structure CatchupBucket where
  tokens : ℕ
  last_refill_ms : UInt32
  initialized : Bool
deriving DecidableEq, Repr

def catchup_bucket (b : CatchupBucket) (now_ms : UInt32) : CatchupBucket :=
  if !b.initialized then ⟨CHANNEL_EPOCH_CATCHUP_BUDGET, now_ms, true⟩
  else
    let add := (now_ms - b.last_refill_ms).toNat * CHANNEL_EPOCH_CATCHUP_BUDGET /
      CHANNEL_EPOCH_CATCHUP_REFILL_MS
    if 0 < add then
      ⟨b.tokens + min add (CHANNEL_EPOCH_CATCHUP_BUDGET - b.tokens), now_ms, true⟩
    else b

structure Sealed where
  nonce : Nonce
  ciphertext : List UInt8
  aad : List UInt8
  tag : Tag16

def try_decrypt (C : DmCrypto) (key : Key32) (x : Sealed) : Option (List UInt8) :=
  C.aes256gcm_decrypt key x.nonce x.ciphertext x.aad x.tag

def catchup_loop (C : DmCrypto) (x : Sealed) : ℕ → ℕ → Channel → ℕ × Option (Channel × List UInt8)
  | 0, tokens, _ => (tokens, none)
  | _ + 1, 0, _ => (0, none)
  | n + 1, tokens + 1, ch =>
    match channel_advance_epoch C ch with
    | none => (tokens, none)
    | some ch' =>
      match try_decrypt C ch'.key x with
      | some pt => (tokens, some (ch', pt))
      | none => catchup_loop C x n tokens ch'

def try_channel (C : DmCrypto) (x : Sealed) (now_ms : UInt32) (ch : Channel) (b : CatchupBucket) :
    CatchupBucket × Option (Channel × List UInt8) :=
  match try_decrypt C ch.key x with
  | some pt => (b, some (ch, pt))
  | none =>
    let b := catchup_bucket b now_ms
    match catchup_loop C x CHANNEL_EPOCH_CATCHUP_MAX b.tokens ch with
    | (tokens, none) => ({ b with tokens }, none)
    | (tokens, some found) =>
      ({ b with
          tokens := tokens + min (b.tokens - tokens) (CHANNEL_EPOCH_CATCHUP_BUDGET - tokens) },
        some found)

abbrev Catchup := Fin MAX_CHANNELS → CatchupBucket

def channel_msg_catchup_reset : Catchup := fun _ => ⟨0, 0, false⟩

structure Found where
  channel_index : Fin MAX_CHANNELS
  channel : Channel
  plaintext : List UInt8

def try_channels (C : DmCrypto) (x : Sealed) (now_ms : UInt32)
    (channels : Fin MAX_CHANNELS → Channel) :
    List (Fin MAX_CHANNELS) → Catchup → Option Found → Catchup × Option Found
  | [], s_catchup, found => (s_catchup, found)
  | i :: is, s_catchup, found =>
    let r := try_channel C x now_ms (channels i) (s_catchup i)
    let found := found.orElse fun _ => r.2.map fun c => ⟨i, c.1, c.2⟩
    try_channels C x now_ms channels is (Function.update s_catchup i r.1) found

structure ChannelMsgInfo where
  channel_id : UInt8
  epoch : UInt16
  app_type : UInt8
  src_addr : UInt32
  sent_at : UInt32
  data : List UInt8
  channel_index : ℕ
deriving DecidableEq

def inner_header_len (pt : List UInt8) (ct_len : ℕ) : ℕ :=
  if pt.getD 3 0 = APP_TYPE_CHAT ∧ CHANNEL_MSG_OVERHEAD + CHANNEL_MSG_SENT_AT_SIZE ≤ ct_len then
    CHANNEL_MSG_OVERHEAD + CHANNEL_MSG_SENT_AT_SIZE
  else CHANNEL_MSG_OVERHEAD

def read_info (pt : List UInt8) (ct_len : ℕ) (channel_index : ℕ) : ChannelMsgInfo where
  channel_id := pt.getD 0 0
  epoch := (pt.getD 1 0).toUInt16 ||| (pt.getD 2 0).toUInt16 <<< 8
  app_type := pt.getD 3 0
  src_addr := get_le32 (pt.drop 4)
  sent_at := if inner_header_len pt ct_len = CHANNEL_MSG_OVERHEAD then 0 else get_be32 (pt.drop 8)
  data := pt.drop (inner_header_len pt ct_len)
  channel_index := channel_index

def channel_msg_decrypt (C : DmCrypto) (t : ChannelTable) (s_catchup : Catchup) (x : Sealed)
    (now_ms : UInt32) : ChannelTable × Catchup × Option ChannelMsgInfo :=
  if x.ciphertext.length < CHANNEL_MSG_OVERHEAD then (t, s_catchup, none)
  else if CHANNEL_MSG_MAX_PLAINTEXT_SIZE < x.ciphertext.length then (t, s_catchup, none)
  else
    match try_channels C x now_ms t.s_channels
        ((List.finRange MAX_CHANNELS).take t.s_num_channels) s_catchup none with
    | (s_catchup, none) => (t, s_catchup, none)
    | (s_catchup, some f) =>
      ({ t with s_channels := Function.update t.s_channels f.channel_index f.channel }, s_catchup,
        some (read_info f.plaintext x.ciphertext.length f.channel_index))

/-! ## What is read is what was sealed -/

lemma read_info_inner_plaintext (ch : Channel) (src_addr sent_at : UInt32) (data : List UInt8)
    (ct_len channel_index : ℕ) (hlen : 12 ≤ ct_len) :
    read_info (inner_plaintext ch src_addr APP_TYPE_CHAT sent_at data) ct_len channel_index =
      ⟨ch.channel_id, ch.epoch.toUInt8.toUInt16 ||| (ch.epoch >>> 8).toUInt8.toUInt16 <<< 8,
        APP_TYPE_CHAT, src_addr, sent_at, data, channel_index⟩ := by
  generalize hpt : inner_plaintext ch src_addr APP_TYPE_CHAT sent_at data = pt
  have heq : pt = ch.channel_id :: ch.epoch.toUInt8 :: (ch.epoch >>> 8).toUInt8 :: APP_TYPE_CHAT ::
      (le32 src_addr ++ (be32 sent_at ++ data)) := by
    rw [← hpt, inner_plaintext, if_pos rfl]
    rfl
  have hheader : inner_header_len pt ct_len = 12 := by
    rw [heq]
    exact if_pos ⟨rfl, hlen⟩
  have hsrc : pt.drop 4 = le32 src_addr ++ (be32 sent_at ++ data) := by rw [heq]; rfl
  have hsent : pt.drop 8 = be32 sent_at ++ data := by rw [heq]; rfl
  have hdata : pt.drop 12 = data := by rw [heq]; rfl
  unfold read_info
  rw [hheader, hsrc, hsent, hdata, get_le32_le32, get_be32_be32, heq]
  rfl

/-! ## Which key opened a frame -/

inductive Advances (C : DmCrypto) : Channel → Channel → Prop
  | refl (ch : Channel) : Advances C ch ch
  | step {ch ch' ch'' : Channel} (h : channel_advance_epoch C ch = some ch')
      (rest : Advances C ch' ch'') : Advances C ch ch''

variable {C : DmCrypto} {x : Sealed} {pt : List UInt8} {now_ms : UInt32} {s_catchup : Catchup}

lemma catchup_loop_some {n tokens : ℕ} {ch ch' : Channel}
    (h : (catchup_loop C x n tokens ch).2 = some (ch', pt)) :
    Advances C ch ch' ∧ try_decrypt C ch'.key x = some pt := by
  induction n generalizing tokens ch with
  | zero => cases h
  | succ n ih =>
    cases tokens with
    | zero => cases h
    | succ tokens =>
      rw [catchup_loop] at h
      split at h
      · cases h
      · next next hadvance =>
        split at h
        · next pt' hopen =>
          obtain ⟨rfl, rfl⟩ := Prod.mk.inj (Option.some_inj.mp h)
          exact ⟨.step hadvance (.refl _), hopen⟩
        · obtain ⟨hreach, hopen⟩ := ih h
          exact ⟨.step hadvance hreach, hopen⟩

lemma try_channel_some {ch ch' : Channel} {b : CatchupBucket}
    (h : (try_channel C x now_ms ch b).2 = some (ch', pt)) :
    Advances C ch ch' ∧ try_decrypt C ch'.key x = some pt := by
  unfold try_channel at h
  split at h
  · next pt' hopen =>
    obtain ⟨rfl, rfl⟩ := Prod.mk.inj (Option.some_inj.mp h)
    exact ⟨.refl _, hopen⟩
  · dsimp only at h
    split at h
    · cases h
    · next tokens found hloop =>
      have hfound := Option.some_inj.mp h
      subst hfound
      exact catchup_loop_some (congrArg Prod.snd hloop)

/-- What the channels give is what the first channel that opens the frame gives. -/
lemma try_channels_eq {channels : Fin MAX_CHANNELS → Channel} {is : List (Fin MAX_CHANNELS)}
    {s : Catchup} (hnodup : is.Nodup) (hs : ∀ i ∈ is, s i = s_catchup i) (found : Option Found) :
    (try_channels C x now_ms channels is s found).2 = found.or (is.findSome? fun i =>
      (try_channel C x now_ms (channels i) (s_catchup i)).2.map fun c => ⟨i, c.1, c.2⟩) := by
  induction is generalizing s found with
  | nil => simp [try_channels]
  | cons i is ih =>
    obtain ⟨hi, hnodup⟩ := nodup_cons.1 hnodup
    rw [try_channels, ih hnodup, findSome?_cons, hs i mem_cons_self]
    · cases found <;> cases (try_channel C x now_ms (channels i) (s_catchup i)).2 <;> rfl
    · intro j hj
      have hne : j ≠ i := fun h => hi (h ▸ hj)
      simp [hne, hs j (mem_cons_of_mem _ hj)]

variable {t : ChannelTable} {i : Fin MAX_CHANNELS}

lemma mem_channels :
    i ∈ (finRange MAX_CHANNELS).take t.s_num_channels ↔ i.val < t.s_num_channels := by
  simp only [mem_take_iff_getElem, getElem_finRange, length_finRange]
  constructor
  · rintro ⟨k, hk, rfl⟩
    exact lt_of_lt_of_le hk (Nat.min_le_left _ _)
  · exact fun hi => ⟨i.val, lt_min hi i.isLt, rfl⟩

lemma found_eq (C : DmCrypto) (x : Sealed) (now_ms : UInt32) (s_catchup : Catchup)
    (t : ChannelTable) :
    (try_channels C x now_ms t.s_channels ((finRange MAX_CHANNELS).take t.s_num_channels)
      s_catchup none).2 = ((finRange MAX_CHANNELS).take t.s_num_channels).findSome? fun i =>
        (try_channel C x now_ms (t.s_channels i) (s_catchup i)).2.map fun c => ⟨i, c.1, c.2⟩ :=
  try_channels_eq ((nodup_finRange _).sublist (take_sublist _ _)) (fun _ _ => rfl) none

/-- **What an accepted channel message says about the table.**  It was opened by the key of a
channel in use, brought forward by some epochs, and the index reported is that channel's. -/
theorem channel_msg_decrypt_some {info : ChannelMsgInfo}
    (h : (channel_msg_decrypt C t s_catchup x now_ms).2.2 = some info) :
    ∃ (i : Fin MAX_CHANNELS) (ch : Channel) (pt : List UInt8), i.val < t.s_num_channels ∧
      Advances C (t.s_channels i) ch ∧ try_decrypt C ch.key x = some pt ∧
      info = read_info pt x.ciphertext.length i := by
  have hfound := found_eq C x now_ms s_catchup t
  unfold channel_msg_decrypt at h
  generalize try_channels C x now_ms t.s_channels _ s_catchup none = r at h hfound
  obtain ⟨b, _ | f⟩ := r <;> split_ifs at h
  obtain ⟨i, hi, hf⟩ := exists_of_findSome?_eq_some hfound.symm
  obtain ⟨c, hc, rfl⟩ := Option.map_eq_some_iff.mp hf
  obtain ⟨hreach, hopen⟩ := try_channel_some hc
  exact ⟨i, c.1, c.2, mem_channels.1 hi, hreach, hopen, (Option.some.inj h).symm⟩

lemma channel_msg_decrypt_of_key (s_catchup : Catchup) (now_ms : UInt32)
    (hmin : CHANNEL_MSG_OVERHEAD ≤ x.ciphertext.length)
    (hmax : x.ciphertext.length ≤ CHANNEL_MSG_MAX_PLAINTEXT_SIZE) (hi : i.val < t.s_num_channels)
    (hopen : try_decrypt C (t.s_channels i).key x = some pt) :
    ∃ info, (channel_msg_decrypt C t s_catchup x now_ms).2.2 = some info := by
  have hsome : (try_channels C x now_ms t.s_channels
      ((finRange MAX_CHANNELS).take t.s_num_channels) s_catchup none).2.isSome = true := by
    rw [found_eq, findSome?_isSome_iff]
    exact ⟨i, mem_channels.2 hi, by simp [try_channel, hopen]⟩
  unfold channel_msg_decrypt
  rw [if_neg (Nat.not_lt.mpr hmin), if_neg (Nat.not_lt.mpr hmax)]
  rcases htry : try_channels C x now_ms t.s_channels
      ((finRange MAX_CHANNELS).take t.s_num_channels) s_catchup none with ⟨b, o⟩
  rw [htry] at hsome
  obtain ⟨f, rfl⟩ := Option.isSome_iff_exists.mp hsome
  exact ⟨_, rfl⟩

end BrambleMesh.ChannelMsg
