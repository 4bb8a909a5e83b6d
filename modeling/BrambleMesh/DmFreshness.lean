/-
Delivery of direct messages and the clock. The freshness bound of `handle_data` looks at a
`sent_at` that direct messages do not have.
-/
import BrambleMesh.HandleData
import BrambleMesh.DmDelivery

namespace BrambleMesh.DmFreshness

open DmDriver hiding Rx
open DmRatchet ReplayWindow ReplayDeferred
open Fragment Channels ChannelMsg MsgStore
open HandleData DmDelivery

/-! ## Direct messages -/

structure OpensAsDm (C : DmCrypto) (n : Receiver) (f : DataFrame) (i : Fin DM_MAX_SESSIONS)
    (pt : List UInt8) : Prop where
  to_self : f.header.dest_addr = n.address
  unicast : f.header.dest_addr ≠ BROADCAST_ADDR
  no_flag : f.on_channel = false
  lookup : dm_lookup n.s_dm_table f.src_addr = some i
  active : (n.s_dm_table i).state = .ACTIVE
  opens : (dm_session_ratchet_decrypt C (n.s_dm_table i).toSession f.header f.src_addr f.nonce
    f.ciphertext f.tag).1 = .OK pt

def WindowAccepts (n : Receiver) (f : DataFrame) (now_ms : UInt32) : Prop :=
  answer n.s_replay.window ⟨f.src_addr, f.counter, now_ms⟩ = .ACCEPT

def FiledDm (r : Receiver × Outcome) (peer_addr : UInt32) (text : List UInt8) : Prop :=
  (∃ what, r.2 = .filed what) ∧ ∃ row, r.1.store.newest = some row ∧ row.peer_addr = peer_addr ∧
    row.direction = .INCOMING ∧ row.channel_index = MSG_STORE_DM_CHANNEL ∧ row.text = text

def CompletesItself (ctx : ReassemblyCtx) (pt : List UInt8) (now_ms packet_id : UInt32) : Prop :=
  ∃ ctx₁ ctx₂, reassembly_add ctx (frag_header pt) (pt.drop FRAG_HEADER_SIZE) now_ms packet_id =
      (ctx₁, .complete) ∧
    reassembly_collect ctx₁ (frag_header pt).message_id
      ((frag_header pt).frag_total.toNat * FRAG_MAX_PLAINTEXT) = (ctx₂, some pt)

section

variable {C : DmCrypto} {n : Receiver} {f : DataFrame} {i : Fin DM_MAX_SESSIONS} {pt : List UInt8}
  {rx : Rx}

lemma OpensAsDm.ciphertext_ne_nil (h : OpensAsDm C n f i pt) : f.ciphertext ≠ [] := by
  obtain ⟨b0, b1, b2, ct, mk, hct, -, -⟩ := dm_session_ratchet_decrypt_ok h.opens
  rw [hct]
  exact List.cons_ne_nil _ _

lemma OpensAsDm.open_frame_eq (h : OpensAsDm C n f i pt) (now_ms : UInt32) :
    (open_frame C n f now_ms).2 = .ok (session_info f.src_addr pt) := by
  have hopens := h.opens
  unfold open_frame open_session
  rw [h.no_flag, if_neg Bool.false_ne_true, h.lookup]
  dsimp only
  rw [if_pos h.active]
  rcases hd : dm_session_ratchet_decrypt C (n.s_dm_table i).toSession f.header f.src_addr f.nonce
      f.ciphertext f.tag with ⟨rc, s⟩
  rw [hd] at hopens
  obtain rfl : rc = .OK pt := hopens
  rfl

lemma out_of_bound_zero (now_s : UInt32) :
    out_of_bound 0 now_s ↔ DEFERRED_TTL_S < now_s := by
  have hskew : ¬ now_s + DEFERRED_SKEW_S < 0 := UInt32.not_lt.2 UInt32.zero_le
  have hpos : DEFERRED_TTL_S < now_s → 0 < now_s := fun h => UInt32.lt_of_le_of_lt UInt32.zero_le h
  simp only [out_of_bound, gt_iff_lt, hskew, decide_false, Bool.false_or, UInt32.sub_zero,
    Bool.and_eq_true, decide_eq_true_eq]
  exact ⟨fun h => h.2, fun h => ⟨hpos h, h⟩⟩

lemma offer_of_accept {s : TwoTier} {g : ReplayDeferred.Frame}
    (h : answer s.window g.call = .ACCEPT) :
    (offer true s g).2 = !(g.timesync_ok && out_of_bound g.sent_at g.now_s) := by
  unfold offer
  rw [h]
  cases hdrop : g.timesync_ok && out_of_bound g.sent_at g.now_s <;> simp [hdrop]

lemma replay_gate_session (n : Receiver) (pt : List UInt8) (hflag : f.on_channel = false)
    (hwindow : WindowAccepts n f rx.now_ms) :
    (replay_gate n f (session_info f.src_addr pt) rx.now_ms).2 ↔
      timesync_is_confident n.s_timesync rx.now_ms = false ∨
        network_time_s n.s_timesync rx.now_ms ≤ DEFERRED_TTL_S := by
  have hoffer : (replay_gate n f (session_info f.src_addr pt) rx.now_ms).2 =
      (offer true n.s_replay (replay_frame n f (session_info f.src_addr pt) rx.now_ms)).2 := by
    unfold replay_gate channel_source_is_replay_trustworthy
    rw [hflag, Bool.not_false, Bool.true_or, if_pos rfl,
      if_pos (show (session_info f.src_addr pt).app_type = APP_TYPE_CHAT from rfl)]
  have hanswer : answer n.s_replay.window
      (replay_frame n f (session_info f.src_addr pt) rx.now_ms).call = .ACCEPT := hwindow
  rw [hoffer, offer_of_accept hanswer, Bool.not_eq_true', Bool.and_eq_false_iff]
  refine or_congr Iff.rfl ?_
  rw [← Bool.not_eq_true, ← UInt32.not_lt]
  exact not_congr (out_of_bound_zero _)

lemma filedDm_file_text (hunicast : f.header.dest_addr ≠ BROADCAST_ADDR) (m : Receiver)
    {text : List UInt8} (hlen : text.length ≤ MSG_TEXT_MAX - 1) (receipt_packet_id : UInt32) :
    FiledDm (file_text m f (session_info f.src_addr pt) text receipt_packet_id rx) f.src_addr
      text := by
  obtain ⟨row, hrow, hpeer, hdir, hch, htext⟩ :=
    newest_file_text m f (session_info f.src_addr pt) hlen receipt_packet_id rx
  refine ⟨⟨_, rfl⟩, row, hrow, hpeer, hdir.trans ?_, hch, htext⟩
  exact if_neg fun hboth => hunicast hboth.1

lemma filedDm_deliver_text (hunicast : f.header.dest_addr ≠ BROADCAST_ADDR)
    (hlen : pt.length ≤ 255) (m : Receiver) :
    FiledDm (deliver_text m f (session_info f.src_addr pt) rx) f.src_addr pt ↔
      pt ≠ [] ∧ (is_fragment pt →
        CompletesItself m.s_reassembly pt rx.now_ms f.header.packet_id) := by
  constructor
  · rintro ⟨⟨what, hfiled⟩, row, hrow, -, -, -, htext⟩
    obtain ⟨m', text, receipt, -, heq, -, hroom, hcase⟩ := deliver_text_filed hfiled
    obtain ⟨row', hrow', -, -, -, htext'⟩ :=
      newest_file_text m' f (session_info f.src_addr pt) hroom receipt rx
    rw [heq, hrow'] at hrow
    -- the newest row is the one that was filed
    obtain rfl : text = pt := by
      cases hrow
      exact htext'.symm.trans htext
    rcases hcase with ⟨hnofrag, hne, -⟩ | ⟨hfrag, ctx, ctx', hadd, hcollect, -⟩
    · exact ⟨hne, fun hfrag => absurd (hnofrag.symm.trans hfrag) Bool.false_ne_true⟩
    · refine ⟨?_, fun _ => ⟨ctx, ctx', hadd, hcollect⟩⟩
      rintro rfl
      exact absurd hfrag (show ¬ is_fragment [] by decide)
  · rintro ⟨hne, hfrag⟩
    by_cases h : is_fragment pt
    · obtain ⟨ctx₁, ctx₂, hadd, hcollect⟩ := hfrag h
      have hroom : pt.length ≤ MSG_TEXT_MAX - 1 := hlen.trans (by decide)
      rw [deliver_text, if_neg (show (session_info f.src_addr pt).data ≠ [] from hne),
        if_pos (show is_fragment (session_info f.src_addr pt).data from h)]
      unfold deliver_fragment
      dsimp only [session_info]
      rw [hadd]
      dsimp only
      rw [hcollect]
      dsimp only
      rw [if_neg hne]
      exact filedDm_file_text hunicast _ hroom _
    · have htake : (session_info f.src_addr pt).data.take 255 = pt := List.take_of_length_le hlen
      rw [deliver_text_whole m f rx hne (Bool.eq_false_of_not_eq_true h), htake]
      exact filedDm_file_text hunicast _ (hlen.trans (by decide)) _

/-- **When a direct message is filed**, once the session opens it and the window accepts it:
exactly if the source is another node, the clock is not trusted or the network time is at most one
day, and the text is not empty and not taken for a fragment of something else. -/
theorem dm_filed_iff_in_bound (hgcm : C.GcmLength) (h : OpensAsDm C n f i pt)
    (hwindow : WindowAccepts n f rx.now_ms) :
    FiledDm (handle_data C n f rx) f.src_addr pt ↔
      f.src_addr ≠ n.address ∧
      (timesync_is_confident n.s_timesync rx.now_ms = false ∨
        network_time_s n.s_timesync rx.now_ms ≤ DEFERRED_TTL_S) ∧
      pt ≠ [] ∧ (is_fragment pt = true →
        CompletesItself n.s_reassembly pt rx.now_ms f.header.packet_id) := by
  have dropped (m : Receiver) : ¬ FiledDm (m, .dropped) f.src_addr pt := fun hf => by
    obtain ⟨⟨what, hwhat⟩, -⟩ := hf
    nomatch hwhat
  by_cases hsrc : f.src_addr = n.address
  · unfold handle_data
    rw [if_neg h.ciphertext_ne_nil, if_pos hsrc]
    exact ⟨fun hf => absurd hf (dropped n), fun hf => absurd hsrc hf.1⟩
  · have hok := h.open_frame_eq rx.now_ms
    obtain ⟨t, b, d, hn'⟩ := open_frame_changes C n f rx.now_ms
    rcases hopen : open_frame C n f rx.now_ms with ⟨n', o⟩
    rw [hopen] at hok hn'
    obtain rfl : o = .ok (session_info f.src_addr pt) := hok
    obtain rfl : n' = _ := hn'
    rw [handle_data_of_open h.ciphertext_ne_nil hsrc (.inr h.to_self) hopen]
    -- opening has touched neither the window nor the clock
    have hgate := replay_gate_session { n with s_channels := t, s_catchup := b, s_dm_table := d }
      pt h.no_flag hwindow
    split
    · next hin =>
      obtain ⟨r, hr⟩ := replay_gate_changes
        { n with s_channels := t, s_catchup := b, s_dm_table := d } f
        (session_info f.src_addr pt) rx.now_ms
      rw [dispatch_chat rfl, filedDm_deliver_text h.unicast (length_le_of_session hgcm h.opens), hr]
      exact ⟨fun hf => ⟨hsrc, hgate.1 hin, hf⟩, fun hf => hf.2.2⟩
    · next hout =>
      exact ⟨fun hf => absurd hf (dropped _), fun hf => absurd (hgate.2 hf.2.1) hout⟩

end

/-! ## A node with a session -/

local instance max_sessions_neZero : NeZero DM_MAX_SESSIONS := ⟨by decide⟩

def sessionWithTwo : DmTable := fun i =>
  if i = 0 then
    ⟨{ Session.zero with
        peer_addr := 2, state := .ACTIVE
        ratchet := { Ratchet.zero with recv := ⟨.zero, 0, 0, true⟩ } }, 0⟩
  else ⟨.zero, 0⟩

def sessionNode (ts : Timesync) : Receiver where
  address := 1
  s_channels := public_channel_init .zero
  s_catchup := channel_msg_catchup_reset
  s_dm_table := sessionWithTwo
  s_replay := .init
  s_timesync := ts
  s_reassembly := reassembly_init
  store := msg_store_init

def hiFrame : DataFrame where
  header := ⟨5, 0x0A, 0x04, 7, 1, 77⟩
  src_addr := 2
  nonce := #v[0, 0, 0, 2, 0, 9, 0, 0, 0, 0, 0, 1]
  ciphertext := [0, 0, 0, 72, 105]
  tag := Vector.replicate 16 0
  length_le := by decide

lemma copyCrypto_gcmLength : copyCrypto.GcmLength := fun _ _ _ _ _ _ h =>
  congrArg List.length (Option.some.inj h).symm

lemma hiFrame_opens (ts : Timesync) :
    OpensAsDm copyCrypto (sessionNode ts) hiFrame 0 [72, 105] where
  to_self := rfl
  unicast := by decide
  no_flag := by decide
  lookup := show dm_lookup sessionWithTwo 2 = some 0 by decide +kernel
  active := rfl
  opens :=
    show (dm_session_ratchet_decrypt copyCrypto (sessionWithTwo 0).toSession hiFrame.header 2
      hiFrame.nonce hiFrame.ciphertext hiFrame.tag).1 = .OK [72, 105] by decide +kernel

theorem dm_filed_iff_in_bound_first_day :
    FiledDm (handle_data copyCrypto (sessionNode ⟨3600000, 0, true⟩) hiFrame ⟨1000, ⟨0, 0, 1⟩⟩)
      2 [72, 105] :=
  (dm_filed_iff_in_bound copyCrypto_gcmLength (hiFrame_opens _)
    (show WindowAccepts _ _ _ by unfold WindowAccepts; decide +kernel)).mpr
    ⟨by decide, Or.inr (by decide +kernel), by decide, fun h => absurd h (by decide)⟩

theorem day_two_drops_dm :
    OpensAsDm copyCrypto (sessionNode ⟨172800000, 0, true⟩) hiFrame 0 [72, 105] ∧
    WindowAccepts (sessionNode ⟨172800000, 0, true⟩) hiFrame 1000 ∧
    ¬ FiledDm (handle_data copyCrypto (sessionNode ⟨172800000, 0, true⟩) hiFrame
      ⟨1000, ⟨0, 0, 1⟩⟩) 2 [72, 105] := by
  refine ⟨hiFrame_opens _, ?_, ?_⟩
  · unfold WindowAccepts
    decide
  · rintro ⟨⟨what, hwhat⟩, -⟩
    have hdropped : (handle_data copyCrypto (sessionNode ⟨172800000, 0, true⟩) hiFrame
        ⟨1000, ⟨0, 0, 1⟩⟩).2 = .dropped := by decide
    nomatch hdropped.symm.trans hwhat

end BrambleMesh.DmFreshness
