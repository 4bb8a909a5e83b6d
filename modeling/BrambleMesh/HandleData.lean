/-
Reception of a DATA frame: `handle_data` of main/mesh_task.c, from the decryption on, without the
flood relay.
-/
import BrambleMesh.DmDriver
import BrambleMesh.ReplayDeferred
import BrambleMesh.NonceCounter
import BrambleMesh.Fragment
import BrambleMesh.ChannelMsg
import BrambleMesh.MsgStore

namespace BrambleMesh.HandleData

open DmRatchet DmDriver ReplayWindow ReplayDeferred
open NonceCounter Fragment Channels ChannelMsg
open MsgStore

/-! ## The clock -/

abbrev CONFIDENCE_MAX_AGE_MS : UInt32 := 180000

structure Timesync where
  offset_ms : ℤ
  last_sync_ms : UInt32
  synchronized : Bool
deriving DecidableEq

def timesync_get_network_time (ts : Timesync) (local_now_ms : UInt32) : ℤ :=
  local_now_ms.toNat + ts.offset_ms

def timesync_is_confident (ts : Timesync) (local_now_ms : UInt32) : Bool :=
  ts.synchronized && local_now_ms - ts.last_sync_ms ≤ CONFIDENCE_MAX_AGE_MS

def network_time_s (ts : Timesync) (now_ms : UInt32) : UInt32 :=
  UInt32.ofInt ((timesync_get_network_time ts now_ms).tdiv 1000)

/-! ## Frames and receivers -/

abbrev FLAG_CHANNEL : UInt8 := 0x08
abbrev BROADCAST_ADDR : UInt32 := 0xFFFFFFFF

structure DataFrame where
  header : Header
  src_addr : UInt32
  nonce : Nonce
  ciphertext : List UInt8
  tag : Tag16
  length_le : 56 + ciphertext.length ≤ 255
deriving DecidableEq

def DataFrame.on_channel (f : DataFrame) : Bool := f.header.flags &&& FLAG_CHANNEL ≠ 0

def DataFrame.aad (f : DataFrame) : List UInt8 := bramble_build_aead_aad f.header f.src_addr

def DataFrame.sealed (f : DataFrame) : Sealed := ⟨f.nonce, f.ciphertext, f.aad, f.tag⟩

def DataFrame.counter (f : DataFrame) : UInt64 := nonce_counter_extract f.nonce.toList

structure Receiver where
  address : UInt32
  s_channels : ChannelTable
  s_catchup : Catchup
  s_dm_table : DmTable
  s_replay : TwoTier
  s_timesync : Timesync
  s_reassembly : ReassemblyCtx
  store : Store

structure Rx where
  now_ms : UInt32
  reception : Reception

/-! ## Opening -/

inductive Opened
  | failed
  | rehandshake
  | ok (info : ChannelMsgInfo)
deriving DecidableEq

def session_info (src_addr : UInt32) (plaintext : List UInt8) : ChannelMsgInfo :=
  ⟨0, 0, APP_TYPE_CHAT, src_addr, 0, plaintext, 0⟩

def open_session (C : DmCrypto) (n : Receiver) (f : DataFrame) (now_ms : UInt32) :
    Receiver × Opened :=
  match dm_lookup n.s_dm_table f.src_addr with
  | none => (n, .rehandshake)
  | some i =>
    if (n.s_dm_table i).state = .ACTIVE then
      match dm_session_ratchet_decrypt C (n.s_dm_table i).toSession f.header f.src_addr f.nonce
          f.ciphertext f.tag with
      | (.OK pt, s) =>
        ({ n with s_dm_table := Function.update n.s_dm_table i ⟨s, now_ms⟩ },
          .ok (session_info f.src_addr pt))
      | (_, s) =>
        ({ n with s_dm_table := Function.update n.s_dm_table i ((n.s_dm_table i).put s) },
          .rehandshake)
    else (n, .rehandshake)

def open_channel (C : DmCrypto) (n : Receiver) (f : DataFrame) (now_ms : UInt32) :
    Receiver × Opened :=
  match channel_msg_decrypt C n.s_channels n.s_catchup f.sealed now_ms with
  | (t, b, some info) => ({ n with s_channels := t, s_catchup := b }, .ok info)
  | (t, b, none) => ({ n with s_channels := t, s_catchup := b }, .failed)

def open_frame (C : DmCrypto) (n : Receiver) (f : DataFrame) (now_ms : UInt32) :
    Receiver × Opened :=
  if f.on_channel then open_channel C n f now_ms else open_session C n f now_ms

/-! ## The replay tiers -/

def channel_source_is_replay_trustworthy (is_channel_message : Bool) (channel_index : ℕ) : Bool :=
  !is_channel_message || channel_index != 0

def replay_frame (n : Receiver) (f : DataFrame) (info : ChannelMsgInfo) (now_ms : UInt32) :
    ReplayDeferred.Frame :=
  ⟨f.src_addr, f.counter, info.sent_at, now_ms, network_time_s n.s_timesync now_ms,
    timesync_is_confident n.s_timesync now_ms⟩

def replay_gate (n : Receiver) (f : DataFrame) (info : ChannelMsgInfo) (now_ms : UInt32) :
    Receiver × Bool :=
  if channel_source_is_replay_trustworthy f.on_channel info.channel_index then
    if info.app_type = APP_TYPE_CHAT then
      let r := offer true n.s_replay (replay_frame n f info now_ms)
      ({ n with s_replay := r.1 }, r.2)
    else
      let r := replay_check_and_add n.s_replay.window f.src_addr f.counter now_ms
      ({ n with s_replay := { n.s_replay with window := r.1 } }, r.2 == .ACCEPT)
  else (n, true)

/-! ## Text -/

structure Filing where
  peer_addr : UInt32
  direction : MsgDirection
  channel_index : Int16
  text : List UInt8
  receipt_packet_id : UInt32
deriving DecidableEq

inductive Outcome
  | dropped
  | rehandshake (src_addr : UInt32)
  | ke (src_addr : UInt32) (channel_index : ℕ) (data : List UInt8)
  | rollcall (src_addr : UInt32) (channel_index : ℕ) (data : List UInt8)
  | rollcall_reply (src_addr : UInt32) (data : List UInt8)
  | empty
  | fragment (answer : AddResult)
  | filed (what : Filing)
deriving DecidableEq

def is_channel_message (info : ChannelMsgInfo) : Bool := 0 < info.channel_id

def direction_of (f : DataFrame) (info : ChannelMsgInfo) : MsgDirection :=
  if f.header.dest_addr = BROADCAST_ADDR ∧ is_channel_message info = false then .BROADCAST_IN
  else .INCOMING

def filing (f : DataFrame) (info : ChannelMsgInfo) (text : List UInt8)
    (receipt_packet_id : UInt32) : Filing :=
  ⟨info.src_addr, direction_of f info,
    if is_channel_message info then Int16.ofNat info.channel_id.toNat else MSG_STORE_DM_CHANNEL,
    text, receipt_packet_id⟩

def file_text (n : Receiver) (f : DataFrame) (info : ChannelMsgInfo) (text : List UInt8)
    (receipt_packet_id : UInt32) (rx : Rx) : Receiver × Outcome :=
  ({ n with
      store :=
        if is_channel_message info then
          msg_store_add_channel n.store info.src_addr (direction_of f info) text rx.reception 0
            .NONE info.channel_id
        else
          msg_store_add_dm n.store info.src_addr (direction_of f info) text rx.reception 0 .NONE },
    .filed (filing f info text receipt_packet_id))

def is_fragment (data : List UInt8) : Bool :=
  FRAG_HEADER_SIZE ≤ data.length && 1 < (frag_header data).frag_total &&
    (frag_header data).frag_index < (frag_header data).frag_total &&
    (frag_header data).frag_total ≤ 4

def deliver_fragment (n : Receiver) (f : DataFrame) (info : ChannelMsgInfo) (rx : Rx) :
    Receiver × Outcome :=
  match reassembly_add n.s_reassembly (frag_header info.data) (info.data.drop FRAG_HEADER_SIZE)
      rx.now_ms f.header.packet_id with
  | (ctx, .complete) =>
    match reassembly_collect ctx (frag_header info.data).message_id
        ((frag_header info.data).frag_total.toNat * FRAG_MAX_PLAINTEXT) with
    | (ctx', some text) =>
      if text = [] then ({ n with s_reassembly := ctx' }, .dropped)
      else file_text { n with s_reassembly := ctx' } f info text
        (reassembly_get_first_packet_id ctx (frag_header info.data).message_id) rx
    | (ctx', none) => ({ n with s_reassembly := ctx' }, .dropped)
  | (ctx, answer) => ({ n with s_reassembly := ctx }, .fragment answer)

def deliver_text (n : Receiver) (f : DataFrame) (info : ChannelMsgInfo) (rx : Rx) :
    Receiver × Outcome :=
  if info.data = [] then (n, .empty)
  else if is_fragment info.data then deliver_fragment n f info rx
  else file_text n f info (info.data.take 255) f.header.packet_id rx

def dispatch (n : Receiver) (f : DataFrame) (info : ChannelMsgInfo) (rx : Rx) :
    Receiver × Outcome :=
  if info.app_type = APP_TYPE_KE then (n, .ke f.src_addr info.channel_index info.data)
  else if info.app_type = APP_TYPE_ROLLCALL then
    (n, .rollcall info.src_addr info.channel_index info.data)
  else if info.app_type = APP_TYPE_ROLLCALL_REPLY then (n, .rollcall_reply info.src_addr info.data)
  else deliver_text n f info rx

def handle_data (C : DmCrypto) (n : Receiver) (f : DataFrame) (rx : Rx) : Receiver × Outcome :=
  if f.ciphertext = [] then (n, .dropped)
  -- the echo of a frame of our own
  else if f.src_addr = n.address then (n, .dropped)
  -- relayed only
  else if f.header.dest_addr ≠ BROADCAST_ADDR ∧ f.header.dest_addr ≠ n.address then (n, .dropped)
  else
    match open_frame C n f rx.now_ms with
    | (n, .failed) => (n, .dropped)
    | (n, .rehandshake) => (n, .rehandshake f.src_addr)
    | (n, .ok info) =>
      match replay_gate n f info rx.now_ms with
      | (n, false) => (n, .dropped)
      | (n, true) => dispatch n f info rx

/-! ## What a filed text says about its frame -/

section

variable {C : DmCrypto} {n n' : Receiver} {f : DataFrame} {info : ChannelMsgInfo} {rx : Rx}
  {what : Filing}

lemma open_frame_changes (C : DmCrypto) (n : Receiver) (f : DataFrame) (now_ms : UInt32) :
    ∃ t b d, (open_frame C n f now_ms).1 =
      { n with s_channels := t, s_catchup := b, s_dm_table := d } := by
  unfold open_frame open_channel open_session
  split
  · split <;> exact ⟨_, _, _, rfl⟩
  · split
    · exact ⟨_, _, _, rfl⟩
    · split
      · split <;> exact ⟨_, _, _, rfl⟩
      · exact ⟨_, _, _, rfl⟩

lemma open_frame_channel {now_ms : UInt32} (hflag : f.on_channel)
    (h : (open_frame C n f now_ms).2 = .ok info) :
    ∃ (i : Fin MAX_CHANNELS) (ch : Channel) (pt : List UInt8),
      i.val < n.s_channels.s_num_channels ∧ Advances C (n.s_channels.s_channels i) ch ∧
      try_decrypt C ch.key f.sealed = some pt ∧ info = read_info pt f.ciphertext.length i := by
  rw [open_frame, if_pos hflag, open_channel] at h
  rcases hd : channel_msg_decrypt C n.s_channels n.s_catchup f.sealed now_ms with ⟨t, b, o⟩
  rw [hd] at h
  cases o with
  | none => nomatch h
  | some info' =>
    obtain rfl := Opened.ok.inj h
    exact channel_msg_decrypt_some (congrArg (fun r => r.2.2) hd)

lemma open_frame_session {now_ms : UInt32} (hflag : f.on_channel = false)
    (h : (open_frame C n f now_ms).2 = .ok info) :
    ∃ i pt, dm_lookup n.s_dm_table f.src_addr = some i ∧ (n.s_dm_table i).state = .ACTIVE ∧
      (dm_session_ratchet_decrypt C (n.s_dm_table i).toSession f.header f.src_addr f.nonce
        f.ciphertext f.tag).1 = .OK pt ∧ info = session_info f.src_addr pt := by
  rw [open_frame, hflag, if_neg Bool.false_ne_true, open_session] at h
  split at h
  · nomatch h
  next i hlookup =>
  split at h
  swap
  · nomatch h
  next hactive =>
  split at h
  · next pt s hd => exact ⟨i, pt, hlookup, hactive, congrArg Prod.fst hd, (Opened.ok.inj h).symm⟩
  · nomatch h

lemma length_le_of_session (hgcm : C.GcmLength) {s : Session} {pt : List UInt8}
    (h : (dm_session_ratchet_decrypt C s f.header f.src_addr f.nonce f.ciphertext f.tag).1 =
      .OK pt) : pt.length ≤ 255 := by
  obtain ⟨b0, b1, b2, ct, mk, hct, -, hopen⟩ := dm_session_ratchet_decrypt_ok h
  have hlen : f.ciphertext.length = ct.length + 3 := by rw [hct]; rfl
  have hframe := f.length_le
  rw [hgcm _ _ _ _ _ _ hopen]
  omega

lemma replay_gate_changes (n : Receiver) (f : DataFrame) (info : ChannelMsgInfo)
    (now_ms : UInt32) :
    ∃ r, (replay_gate n f info now_ms).1 = { n with s_replay := r } := by
  unfold replay_gate
  split
  · split <;> exact ⟨_, rfl⟩
  · exact ⟨_, rfl⟩

lemma handle_data_of_open (hct : f.ciphertext ≠ []) (hsrc : f.src_addr ≠ n.address)
    (hdest : f.header.dest_addr = BROADCAST_ADDR ∨ f.header.dest_addr = n.address)
    (hopen : open_frame C n f rx.now_ms = (n', .ok info)) :
    handle_data C n f rx =
      if (replay_gate n' f info rx.now_ms).2 then
        dispatch (replay_gate n' f info rx.now_ms).1 f info rx
      else ((replay_gate n' f info rx.now_ms).1, .dropped) := by
  unfold handle_data
  rw [if_neg hct, if_neg hsrc, if_neg (not_and_or.2 (hdest.imp not_not.2 not_not.2)), hopen]
  dsimp only
  rcases replay_gate n' f info rx.now_ms with ⟨m, _ | _⟩ <;> rfl

lemma dispatch_chat (h : info.app_type = APP_TYPE_CHAT) :
    dispatch n f info rx = deliver_text n f info rx := by
  unfold dispatch
  rw [h, if_neg (by decide), if_neg (by decide), if_neg (by decide)]

def is_text (info : ChannelMsgInfo) : Bool :=
  info.app_type ∉ [APP_TYPE_KE, APP_TYPE_ROLLCALL, APP_TYPE_ROLLCALL_REPLY]

lemma dispatch_cases (n : Receiver) (f : DataFrame) (info : ChannelMsgInfo) (rx : Rx) :
    (dispatch n f info rx).1 = n ∧ (∀ what, (dispatch n f info rx).2 ≠ .filed what) ∨
      is_text info ∧ dispatch n f info rx = deliver_text n f info rx := by
  unfold dispatch
  split
  · exact .inl ⟨rfl, fun _ h => nomatch h⟩
  next hke =>
  split
  · exact .inl ⟨rfl, fun _ h => nomatch h⟩
  next hrollcall =>
  split
  · exact .inl ⟨rfl, fun _ h => nomatch h⟩
  next hreply =>
  refine .inr ⟨?_, rfl⟩
  simp [is_text, hke, hrollcall, hreply]

structure Quiet (n : Receiver) (r : Receiver × Outcome) : Prop where
  reassembly : r.1.s_reassembly = n.s_reassembly
  store : r.1.store = n.store
  not_filed : ∀ what, r.2 ≠ .filed what

/-- **What a frame can do**: nothing to the reassembly table and the store; or it was for this
node or everybody, was opened and admitted, and reached the text stage. -/
theorem handle_data_cases (C : DmCrypto) (n : Receiver) (f : DataFrame) (rx : Rx) :
    Quiet n (handle_data C n f rx) ∨
    (f.header.dest_addr = BROADCAST_ADDR ∨ f.header.dest_addr = n.address) ∧
      ∃ info n', (open_frame C n f rx.now_ms).2 = .ok info ∧ is_text info ∧
        n'.s_reassembly = n.s_reassembly ∧ n'.store = n.store ∧
        handle_data C n f rx = deliver_text n' f info rx := by
  by_cases hct : f.ciphertext = []
  · left
    rw [handle_data, if_pos hct]
    exact ⟨rfl, rfl, fun _ h => nomatch h⟩
  by_cases hsrc : f.src_addr = n.address
  · left
    rw [handle_data, if_neg hct, if_pos hsrc]
    exact ⟨rfl, rfl, fun _ h => nomatch h⟩
  by_cases hdest : f.header.dest_addr ≠ BROADCAST_ADDR ∧ f.header.dest_addr ≠ n.address
  · left
    rw [handle_data, if_neg hct, if_neg hsrc, if_pos hdest]
    exact ⟨rfl, rfl, fun _ h => nomatch h⟩
  have hdest' : f.header.dest_addr = BROADCAST_ADDR ∨ f.header.dest_addr = n.address :=
    (not_and_or.1 hdest).imp not_not.1 not_not.1
  obtain ⟨t, b, d, h₁⟩ := open_frame_changes C n f rx.now_ms
  rcases hopen : open_frame C n f rx.now_ms with ⟨n₁, o⟩
  rw [hopen] at h₁
  obtain rfl : n₁ = _ := h₁
  cases o with
  | failed | rehandshake =>
    left
    rw [handle_data, if_neg hct, if_neg hsrc, if_neg hdest, hopen]
    exact ⟨rfl, rfl, fun _ h => nomatch h⟩
  | ok info =>
    rw [handle_data_of_open hct hsrc hdest' hopen]
    obtain ⟨r, h₂⟩ := replay_gate_changes
      { n with s_channels := t, s_catchup := b, s_dm_table := d } f info rx.now_ms
    rw [h₂]
    split
    · rcases dispatch_cases { n with
        s_channels := t, s_catchup := b, s_dm_table := d, s_replay := r } f info rx with
        ⟨hsame, hno⟩ | ⟨htext, hdeliver⟩
      · left
        exact ⟨by rw [hsame], by rw [hsame], hno⟩
      · exact .inr ⟨hdest', info, { n with
          s_channels := t, s_catchup := b, s_dm_table := d, s_replay := r }, rfl, htext, rfl, rfl,
          hdeliver⟩
    · exact .inl ⟨rfl, rfl, fun _ h => nomatch h⟩

lemma handle_data_filed (h : (handle_data C n f rx).2 = .filed what) :
    (f.header.dest_addr = BROADCAST_ADDR ∨ f.header.dest_addr = n.address) ∧
      ∃ info n', (open_frame C n f rx.now_ms).2 = .ok info ∧ is_text info ∧
        n'.s_reassembly = n.s_reassembly ∧ n'.store = n.store ∧
        handle_data C n f rx = deliver_text n' f info rx :=
  (handle_data_cases C n f rx).resolve_left fun hquiet => hquiet.not_filed what h

lemma frag_total_le {data : List UInt8} (h : is_fragment data) :
    (frag_header data).frag_total.toNat ≤ FRAG_MAX_FRAGMENTS := by
  simp only [is_fragment, Bool.and_eq_true, decide_eq_true_eq] at h
  exact UInt8.le_iff_toNat_le.1 h.2

def FiledFrom (n : Receiver) (f : DataFrame) (info : ChannelMsgInfo) (rx : Rx) (text : List UInt8)
    (receipt_packet_id : UInt32) : Prop :=
  is_fragment info.data = false ∧ info.data ≠ [] ∧ text = info.data.take 255 ∧
      receipt_packet_id = f.header.packet_id ∨
    is_fragment info.data ∧ ∃ ctx ctx', reassembly_add n.s_reassembly
        (frag_header info.data) (info.data.drop FRAG_HEADER_SIZE) rx.now_ms
        f.header.packet_id = (ctx, .complete) ∧
      reassembly_collect ctx (frag_header info.data).message_id
        ((frag_header info.data).frag_total.toNat * FRAG_MAX_PLAINTEXT) = (ctx', some text) ∧
      receipt_packet_id = reassembly_get_first_packet_id ctx (frag_header info.data).message_id

lemma deliver_text_cases (n : Receiver) (f : DataFrame) (info : ChannelMsgInfo) (rx : Rx) :
    ((deliver_text n f info rx).1.store = n.store ∧
      ∀ what, (deliver_text n f info rx).2 ≠ .filed what) ∨
    ∃ (m : Receiver) (text : List UInt8) (receipt_packet_id : UInt32), m.store = n.store ∧
      deliver_text n f info rx = file_text m f info text receipt_packet_id rx ∧
      text.length ≤ MSG_TEXT_MAX - 1 ∧
      FiledFrom n f info rx text receipt_packet_id := by
  unfold deliver_text
  split_ifs with hne hfrag
  · exact .inl ⟨rfl, fun _ h => nomatch h⟩
  · unfold deliver_fragment
    rcases hadd : reassembly_add n.s_reassembly (frag_header info.data)
        (info.data.drop FRAG_HEADER_SIZE) rx.now_ms f.header.packet_id with ⟨ctx, answer⟩
    cases answer with
    | refused => exact .inl ⟨rfl, fun _ h => nomatch h⟩
    | pending => exact .inl ⟨rfl, fun _ h => nomatch h⟩
    | complete =>
      dsimp only
      rcases hcollect : reassembly_collect ctx (frag_header info.data).message_id
          ((frag_header info.data).frag_total.toNat * FRAG_MAX_PLAINTEXT) with ⟨ctx', out⟩
      cases out with
      | none => exact .inl ⟨rfl, fun _ h => nomatch h⟩
      | some text =>
        dsimp only
        split_ifs with htext
        · exact .inl ⟨rfl, fun _ h => nomatch h⟩
        · obtain ⟨i, -, -, -, hlen, -⟩ := reassembly_collect_some hcollect
          have hroom := Nat.mul_le_mul_right FRAG_MAX_PLAINTEXT (frag_total_le hfrag)
          exact .inr ⟨{ n with s_reassembly := ctx' }, text, _, rfl, rfl,
            (hlen.trans hroom).trans (by decide), .inr ⟨hfrag, ctx, ctx', hadd, hcollect, rfl⟩⟩
  · exact .inr ⟨n, _, _, rfl, rfl, (List.length_take_le _ _).trans (by decide),
      .inl ⟨Bool.eq_false_of_not_eq_true hfrag, hne, rfl, rfl⟩⟩

lemma deliver_text_filed (h : (deliver_text n f info rx).2 = .filed what) :
    ∃ (m : Receiver) (text : List UInt8) (receipt_packet_id : UInt32), m.store = n.store ∧
      deliver_text n f info rx = file_text m f info text receipt_packet_id rx ∧
      what = filing f info text receipt_packet_id ∧ text.length ≤ MSG_TEXT_MAX - 1 ∧
      FiledFrom n f info rx text receipt_packet_id := by
  rcases deliver_text_cases n f info rx with ⟨-, hno⟩ | ⟨m, text, receipt, hm, heq, hroom, hcase⟩
  · exact absurd h (hno what)
  · rw [heq] at h
    exact ⟨m, text, receipt, hm, heq, (Outcome.filed.inj h).symm, hroom, hcase⟩

lemma deliver_text_whole (n : Receiver) (f : DataFrame) (rx : Rx) (hne : info.data ≠ [])
    (hfrag : is_fragment info.data = false) :
    deliver_text n f info rx =
      file_text n f info (info.data.take 255) f.header.packet_id rx := by
  rw [deliver_text, if_neg hne, hfrag, if_neg Bool.false_ne_true]

lemma deliver_text_store (h : ∀ what, (deliver_text n f info rx).2 ≠ .filed what) :
    (deliver_text n f info rx).1.store = n.store := by
  rcases deliver_text_cases n f info rx with ⟨hstore, -⟩ | ⟨m, text, receipt, -, heq, -⟩
  · exact hstore
  · exact absurd (congrArg Prod.snd heq) (h _)

def Files (row : StoredMsg) (what : Filing) : Prop :=
  row.peer_addr = what.peer_addr ∧ row.direction = what.direction ∧
    row.channel_index = what.channel_index ∧ row.text = what.text

lemma rows_file_text (n : Receiver) (f : DataFrame) (info : ChannelMsgInfo)
    {text : List UInt8} (hlen : text.length ≤ MSG_TEXT_MAX - 1) (receipt_packet_id : UInt32)
    (rx : Rx) :
    ∃ row, (file_text n f info text receipt_packet_id rx).1.store.rows =
        (row :: n.store.rows).take MSG_STORE_MAX ∧
      Files row (filing f info text receipt_packet_id) := by
  unfold file_text filing
  by_cases hch : is_channel_message info
  · simp only [hch]
    obtain ⟨u, hu⟩ := rows_add_full n.store info.src_addr (direction_of f info) text
      rx.reception 0 .NONE (Int16.ofNat info.channel_id.toNat) 0
    exact ⟨_, hu, rfl, rfl, rfl, List.take_of_length_le hlen⟩
  · simp only [hch]
    obtain ⟨u, hu⟩ := rows_add_full n.store info.src_addr (direction_of f info) text
      rx.reception 0 .NONE MSG_STORE_DM_CHANNEL 0
    exact ⟨_, hu, rfl, rfl, rfl, List.take_of_length_le hlen⟩

lemma newest_file_text (n : Receiver) (f : DataFrame) (info : ChannelMsgInfo)
    {text : List UInt8} (hlen : text.length ≤ MSG_TEXT_MAX - 1) (receipt_packet_id : UInt32)
    (rx : Rx) :
    ∃ row, (file_text n f info text receipt_packet_id rx).1.store.newest = some row ∧
      Files row (filing f info text receipt_packet_id) := by
  obtain ⟨row, hrows, hfields⟩ := rows_file_text n f info hlen receipt_packet_id rx
  refine ⟨row, ?_, hfields⟩
  rw [Store.newest, hrows]
  rfl

end

end BrambleMesh.HandleData
