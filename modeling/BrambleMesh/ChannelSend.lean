/-
Sending a text on a channel: `send_data_packet` and the broadcast branch of
`mesh_send_channel_uid` in main/mesh_task.c. What is called sent is the frame as it arrives:
relays change the hop limit.
-/
import BrambleMesh.HandleData

namespace BrambleMesh.ChannelSend

open DmRatchet Bytes Fragment Channels
open ChannelMsg HandleData

/-! ## The send path -/

abbrev BRAMBLE_VERSION : UInt8 := 5
abbrev PKT_TYPE_DATA : UInt8 := 0x0A
abbrev FLAG_ENCRYPT : UInt8 := 0x04

structure Sender where
  address : UInt32
  s_channels : ChannelTable
  s_timesync : Timesync

structure Stamp where
  packet_id : UInt32
  hop_limit : UInt8
  nonce : Nonce
  now_ms : UInt32

def data_header (dest_addr : UInt32) (x : Stamp) : Header :=
  ⟨BRAMBLE_VERSION, PKT_TYPE_DATA, FLAG_ENCRYPT ||| FLAG_CHANNEL, x.hop_limit, dest_addr,
    x.packet_id⟩

def data_ct_len (payload_len : ℕ) (app_type : UInt8) : ℕ :=
  CHANNEL_MSG_OVERHEAD + (if app_type = APP_TYPE_CHAT then CHANNEL_MSG_SENT_AT_SIZE else 0) +
    payload_len

variable (C : DmCrypto)

def send_data_packet (s : Sender) (dest_addr : UInt32) (payload : List UInt8)
    (ch : Channel) (app_type : UInt8) (x : Stamp) : Option DataFrame :=
  if h : 255 < 56 + data_ct_len payload.length app_type then none
  else
    match channel_msg_encrypt C ch s.address app_type
        (if app_type = APP_TYPE_CHAT then network_time_s s.s_timesync x.now_ms else 0) payload
        (bramble_build_aead_aad (data_header dest_addr x) s.address) x.nonce with
    | none => none
    | some (ciphertext, tag) =>
      some ⟨data_header dest_addr x, s.address, x.nonce,
        ciphertext.take (data_ct_len payload.length app_type), tag,
        (Nat.add_le_add_left (List.length_take_le _ _) 56).trans (Nat.not_lt.mp h)⟩

def text_payloads (text : List UInt8) (message_id : UInt16) : List (List UInt8) :=
  if FRAG_MAX_PLAINTEXT < text.length then
    (fragment_split text message_id FRAG_MAX_FRAGMENTS).getD []
  else [text]

def mesh_send_channel_uid (s : Sender) (channel_idx : Fin MAX_CHANNELS)
    (text : List UInt8) (message_id : UInt16) (stamps : ℕ → Option Stamp) : List DataFrame :=
  if s.s_channels.s_num_channels ≤ channel_idx.val then []
  else
    (text_payloads text message_id).zipIdx.filterMap fun p =>
      (stamps p.2).bind (send_data_packet C s BROADCAST_ADDR p.1
        (s.s_channels.s_channels channel_idx) APP_TYPE_CHAT)

/-! ## What a frame carries -/

structure Carries (ch : Channel) (src_addr sent_at : UInt32) (payload : List UInt8)
    (f : DataFrame) : Prop where
  flag : f.on_channel = true
  src : f.src_addr = src_addr
  dest : f.header.dest_addr = BROADCAST_ADDR
  length : f.ciphertext.length = 12 + payload.length
  opens : try_decrypt C ch.key f.sealed =
    some (inner_plaintext ch src_addr APP_TYPE_CHAT sent_at payload)

def OnlyKey (f : DataFrame) (key : Key32) : Prop :=
  ∀ key' pt, try_decrypt C key' f.sealed = some pt → key' = key

lemma length_inner_plaintext (ch : Channel) (src_addr sent_at : UInt32) (data : List UInt8) :
    (inner_plaintext ch src_addr APP_TYPE_CHAT sent_at data).length = 12 + data.length := by
  rw [inner_plaintext, if_pos rfl]
  simp only [List.length_append, le32, be32, List.length_cons, List.length_nil]
  omega

section

variable {C : DmCrypto} {s : Sender} {ch : Channel} {payload : List UInt8} {x : Stamp}
  {f : DataFrame} {src_addr sent_at : UInt32}

lemma carries_of_send (hgcm : C.GcmCorrect)
    (h : send_data_packet C s BROADCAST_ADDR payload ch APP_TYPE_CHAT x = some f) :
    Carries C ch s.address (network_time_s s.s_timesync x.now_ms) payload f := by
  unfold send_data_packet at h
  split at h
  · cases h
  rw [if_pos rfl] at h
  have hct : data_ct_len payload.length APP_TYPE_CHAT = 12 + payload.length := by
    rfl
  have hlen := length_inner_plaintext ch s.address (network_time_s s.s_timesync x.now_ms) payload
  unfold channel_msg_encrypt at h
  split at h
  · cases h
  next ciphertext tag hseal =>
  split at hseal
  · cases hseal
  obtain ⟨ct', tag', hseal', hctlen, hopen⟩ := hgcm ch.key x.nonce
    (inner_plaintext ch s.address APP_TYPE_CHAT (network_time_s s.s_timesync x.now_ms) payload)
    (bramble_build_aead_aad (data_header BROADCAST_ADDR x) s.address)
  obtain ⟨rfl, rfl⟩ := Prod.mk.inj (Option.some.inj (hseal.symm.trans hseal'))
  have htake : ciphertext.take (data_ct_len payload.length APP_TYPE_CHAT) = ciphertext := by
    rw [hct, ← hlen, ← hctlen, List.take_length]
  have hf := Option.some.inj h
  have hheader : f.header = data_header BROADCAST_ADDR x := by rw [← hf]
  have hciphertext : f.ciphertext = ciphertext := by rw [← hf]; exact htake
  refine ⟨?_, by rw [← hf], by rw [hheader]; rfl, ?_, ?_⟩
  · rw [DataFrame.on_channel, hheader]
    exact decide_eq_true (show (FLAG_ENCRYPT ||| FLAG_CHANNEL) &&& FLAG_CHANNEL ≠ 0 by decide)
  · rw [hciphertext, hctlen, hlen]
  · rw [try_decrypt, DataFrame.sealed, DataFrame.aad, hciphertext, hheader]
    rw [← hf]
    exact hopen

def chat_info (ch : Channel) (src_addr sent_at : UInt32) (payload : List UInt8)
    (channel_index : ℕ) : ChannelMsgInfo :=
  ⟨ch.channel_id, ch.epoch.toUInt8.toUInt16 ||| (ch.epoch >>> 8).toUInt8.toUInt16 <<< 8,
    APP_TYPE_CHAT, src_addr, sent_at, payload, channel_index⟩

/-- **What a receiver makes of a channel frame**: what was sealed, the sender's channel id
included, at an index of its own whose key opened it. -/
theorem Carries.open_frame_eq (h : Carries C ch src_addr sent_at payload f)
    (honly : OnlyKey C f ch.key) {n : Receiver} {now_ms : UInt32} {info : ChannelMsgInfo}
    (hopen : (open_frame C n f now_ms).2 = .ok info) :
    ∃ (i : Fin MAX_CHANNELS) (ch' : Channel), i.val < n.s_channels.s_num_channels ∧
      Advances C (n.s_channels.s_channels i) ch' ∧ ch'.key = ch.key ∧
      info = chat_info ch src_addr sent_at payload i := by
  obtain ⟨i, ch', pt, hi, hadvance, hpt, hinfo⟩ := open_frame_channel h.flag hopen
  have hkey : ch'.key = ch.key := honly _ _ hpt
  rw [hkey, h.opens] at hpt
  have hlen : 12 ≤ f.ciphertext.length := by
    rw [h.length]
    exact Nat.le_add_right _ _
  refine ⟨i, ch', hi, hadvance, hkey, ?_⟩
  rw [hinfo, ← Option.some.inj hpt, read_info_inner_plaintext _ _ _ _ _ _ hlen]
  rfl

end

lemma carries_of_mem {C : DmCrypto} (hgcm : C.GcmCorrect) {s : Sender}
    {channel_idx : Fin MAX_CHANNELS} {text : List UInt8} {message_id : UInt16}
    {stamps : ℕ → Option Stamp} {f : DataFrame}
    (hf : f ∈ mesh_send_channel_uid C s channel_idx text message_id stamps) :
    channel_idx.val < s.s_channels.s_num_channels ∧
    ∃ payload ∈ text_payloads text message_id, ∃ sent_at,
      Carries C (s.s_channels.s_channels channel_idx) s.address sent_at payload f := by
  unfold mesh_send_channel_uid at hf
  split at hf
  · cases hf
  next hidx =>
  obtain ⟨p, hp, hsend⟩ := List.mem_filterMap.mp hf
  obtain ⟨x, -, hx⟩ := Option.bind_eq_some_iff.mp hsend
  exact ⟨Nat.not_le.mp hidx, p.1, List.fst_mem_of_mem_zipIdx hp, _, carries_of_send hgcm hx⟩

end BrambleMesh.ChannelSend
