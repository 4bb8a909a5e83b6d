/-
The conversation that a channel message is filed in: that of the sender's index of the channel,
not of the receiver's own (`filed_index_is_the_senders`).
-/
import BrambleMesh.ChannelSend

namespace BrambleMesh.ChannelFiling

open Fragment Channels
open ChannelMsg MsgStore HandleData ChannelSend

def HasKeyAt (t : ChannelTable) (i : Fin MAX_CHANNELS) (key : Key32) : Prop :=
  i.val < t.s_num_channels ∧ (t.s_channels i).key = key
deriving Decidable

def FiledOnOwnIndex (r : Receiver × Outcome) (t : ChannelTable) (key : Key32) : Prop :=
  ∃ row i, r.1.store.newest = some row ∧ HasKeyAt t i key ∧ row.channel_index = Int16.ofNat i.val

section

variable {C : DmCrypto} {ch : Channel} {src_addr sent_at : UInt32} {payload : List UInt8}
  {f : DataFrame} {n : Receiver} {rx : Rx} {what : Filing} {i : Fin MAX_CHANNELS}

lemma toNat_channel_id (i : Fin MAX_CHANNELS) : (UInt8.ofNat i.val).toNat = i.val := by
  have hi : i.val < 16 := i.isLt
  rw [UInt8.toNat_ofNat']
  omega

lemma ofNat_index_inj {i j : Fin MAX_CHANNELS} (h : Int16.ofNat i.val = Int16.ofNat j.val) :
    i = j := by
  revert i j
  decide

/-- **The sender's index is what counts**, whether a text came in one frame or in fragments. -/
theorem filed_index_is_the_senders (hcarries : Carries C ch src_addr sent_at payload f)
    (honly : OnlyKey C f ch.key) (hid : ch.channel_id = UInt8.ofNat i.val) (hi : 0 < i.val)
    (hfiled : (handle_data C n f rx).2 = .filed what) :
    ∃ row, (handle_data C n f rx).1.store.newest = some row ∧
      row.channel_index = Int16.ofNat i.val := by
  obtain ⟨-, info, n', hopen, -, -, -, hdeliver⟩ := handle_data_filed hfiled
  obtain ⟨_, _, -, -, -, hinfo⟩ := hcarries.open_frame_eq honly hopen
  rw [hdeliver] at hfiled ⊢
  obtain ⟨m, text, receipt, -, hfile, -, hroom, -⟩ := deliver_text_filed hfiled
  obtain ⟨row, hrow, -, -, hindex, -⟩ := newest_file_text m f info hroom receipt rx
  rw [hfile]
  refine ⟨row, hrow, ?_⟩
  have hchannel : is_channel_message info := by
    rw [hinfo]
    have hpos : (0 : UInt8) < UInt8.ofNat i.val := by
      rw [UInt8.lt_iff_toNat_lt, toNat_channel_id]
      exact hi
    exact decide_eq_true (show (0 : UInt8) < ch.channel_id from hid ▸ hpos)
  rw [hindex, filing]
  simp only [hchannel, if_true]
  have hcid : info.channel_id = UInt8.ofNat i.val := by rw [hinfo]; exact hid
  rw [hcid, toNat_channel_id]

end

/-- **When a channel text lands in the right conversation.** A text sent on a channel other than
the public one is filed under a place where the receiver has the channel's key exactly if the
receiver has the key at the sender's place. -/
theorem filed_on_own_index_iff (C : ChannelCrypto) (hgcm : C.GcmCorrect) (public_key : Key32)
    (ops : List TableOp) (s : Sender)
    (hs : s.s_channels = ops.foldl (TableOp.apply C) (public_channel_init public_key))
    (channel_idx : Fin MAX_CHANNELS) (hidx : 0 < channel_idx.val) (text : List UInt8)
    (message_id : UInt16) (stamps : ℕ → Option Stamp) (f : DataFrame)
    (hf : f ∈ mesh_send_channel_uid C.toDmCrypto s channel_idx text message_id stamps)
    (honly : OnlyKey C.toDmCrypto f (s.s_channels.s_channels channel_idx).key) (n : Receiver)
    (rx : Rx) (hfiled : ∃ what, (handle_data C.toDmCrypto n f rx).2 = .filed what) :
    FiledOnOwnIndex (handle_data C.toDmCrypto n f rx) n.s_channels
        (s.s_channels.s_channels channel_idx).key ↔
      HasKeyAt n.s_channels channel_idx (s.s_channels.s_channels channel_idx).key := by
  obtain ⟨what, hfiled⟩ := hfiled
  obtain ⟨hin, payload, -, sent_at, hcarries⟩ := carries_of_mem hgcm hf
  have hwf : s.s_channels.Wf := hs ▸ wf_run C public_key ops
  obtain ⟨row, hrow, hindex⟩ :=
    filed_index_is_the_senders hcarries honly (hwf.ids channel_idx hin) hidx hfiled
  constructor
  · rintro ⟨row', i, hrow', hkey, hindex'⟩
    obtain rfl := Option.some.inj (hrow.symm.trans hrow')
    have hsame : channel_idx = i := ofNat_index_inj (hindex.symm.trans hindex')
    exact hsame.symm ▸ hkey
  · intro hkey
    exact ⟨row, channel_idx, hrow, hkey, hindex⟩

/-! ## Two nodes with different tables -/

def toyKey (b : UInt8) : Key32 := Vector.replicate 32 b

def toyTag (key : Key32) : Tag16 := Vector.replicate 16 (if key = toyKey 2 then 1 else 0)

def toyCrypto : ChannelCrypto where
  hkdf_sha256 := fun _ ikm info => if info.length = 1 then some (toyKey (ikm.headD 0)) else none
  hmac_sha256 := fun _ _ => some .zero
  x25519_dh := fun _ _ => some .zero
  aes256gcm_encrypt := fun key _ pt _ => some (pt, toyTag key)
  aes256gcm_decrypt := fun key _ ct _ tag => if tag = toyTag key then some ct else none
  sha256 := fun data => some (toyKey (data.headD 0))

lemma toyCrypto_gcmCorrect : toyCrypto.GcmCorrect := fun _ _ pt _ =>
  ⟨pt, _, rfl, rfl, if_pos rfl⟩

def twoChannels : List TableOp := [.add [120] [1] none, .add [121] [2] none]

def oneChannel : List TableOp := [.add [121] [2] none]

def tableAfter (ops : List TableOp) : ChannelTable :=
  ops.foldl (TableOp.apply toyCrypto) (public_channel_init .zero)

def toySender : Sender := ⟨7, tableAfter twoChannels, ⟨0, 0, false⟩⟩

def toyReceiver (ops : List TableOp) : Receiver :=
  ⟨1, tableAfter ops, channel_msg_catchup_reset, fun _ => ⟨.zero, 0⟩, .init, ⟨0, 0, false⟩,
    reassembly_init, msg_store_init⟩

def toyStamps : ℕ → Option Stamp := fun _ =>
  some ⟨77, 7, #v[0, 0, 0, 7, 0, 9, 0, 0, 0, 0, 0, 1], 1000⟩

def toyFrame : DataFrame where
  header := ⟨5, 0x0A, 0x0C, 7, BROADCAST_ADDR, 77⟩
  src_addr := 7
  nonce := #v[0, 0, 0, 7, 0, 9, 0, 0, 0, 0, 0, 1]
  ciphertext := [2, 0, 0, 1, 7, 0, 0, 0, 0, 0, 0, 1, 72, 105]
  tag := Vector.replicate 16 1
  length_le := by decide

lemma toyFrame_sent : toyFrame ∈
    mesh_send_channel_uid toyCrypto.toDmCrypto toySender 2 [72, 105] 0 toyStamps := by
  decide

lemma toyCrypto_onlyKey {f : DataFrame} (htag : f.tag = Vector.replicate 16 1) :
    OnlyKey toyCrypto.toDmCrypto f (toyKey 2) := by
  intro key pt h
  by_contra hkey
  have hother : toyTag key = Vector.replicate 16 0 := by rw [toyTag, if_neg hkey]
  have hnone : try_decrypt toyCrypto.toDmCrypto key f.sealed = none := by
    refine if_neg ?_
    rw [hother]
    exact fun heq => absurd (htag.symm.trans heq) (by decide)
  exact absurd (hnone.symm.trans h) (Option.some_ne_none _).symm

lemma twoChannels_key : ((tableAfter twoChannels).s_channels 2).key = toyKey 2 := by
  decide

theorem filed_on_own_index_iff_same_table :
    FiledOnOwnIndex (handle_data toyCrypto.toDmCrypto (toyReceiver twoChannels) toyFrame
      ⟨1000, ⟨0, 0, 1⟩⟩) (tableAfter twoChannels) (toyKey 2) :=
  (filed_on_own_index_iff toyCrypto toyCrypto_gcmCorrect .zero twoChannels toySender rfl 2
    (by decide) [72, 105] 0 toyStamps toyFrame toyFrame_sent
    (show OnlyKey _ _ ((tableAfter twoChannels).s_channels 2).key from
      twoChannels_key ▸ toyCrypto_onlyKey rfl)
    (toyReceiver twoChannels) ⟨1000, ⟨0, 0, 1⟩⟩
    ⟨⟨7, .INCOMING, 2, [72, 105], 77⟩, by decide +kernel⟩).mpr (by decide +kernel)

/-- A receiver that has the channel at place 1 files the text under place 2, which it does not
have. -/
theorem shifted_table_misfiles :
    toyFrame ∈ mesh_send_channel_uid toyCrypto.toDmCrypto toySender 2 [72, 105] 0 toyStamps ∧
    OnlyKey toyCrypto.toDmCrypto toyFrame (toyKey 2) ∧
    ((tableAfter twoChannels).s_channels 2).key = toyKey 2 ∧
    HasKeyAt (tableAfter oneChannel) 1 (toyKey 2) ∧
    (handle_data toyCrypto.toDmCrypto (toyReceiver oneChannel) toyFrame ⟨1000, ⟨0, 0, 1⟩⟩).2 =
      .filed ⟨7, .INCOMING, 2, [72, 105], 77⟩ ∧
    ¬ FiledOnOwnIndex (handle_data toyCrypto.toDmCrypto (toyReceiver oneChannel) toyFrame
      ⟨1000, ⟨0, 0, 1⟩⟩) (tableAfter oneChannel) (toyKey 2) := by
  refine ⟨toyFrame_sent, toyCrypto_onlyKey rfl, twoChannels_key, by decide,
    by decide, ?_⟩
  have hnewest : ((handle_data toyCrypto.toDmCrypto (toyReceiver oneChannel) toyFrame
      ⟨1000, ⟨0, 0, 1⟩⟩).1.store.newest.map StoredMsg.channel_index) =
      some (Int16.ofNat (2 : Fin MAX_CHANNELS).val) := by decide
  rintro ⟨row, i, hrow, hkey, hindex⟩
  rw [hrow] at hnewest
  obtain rfl := ofNat_index_inj (hindex.symm.trans (Option.some.inj hnewest))
  exact absurd hkey (by decide)

end BrambleMesh.ChannelFiling
