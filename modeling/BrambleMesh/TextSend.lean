/-
What a sender of texts is told and what it keeps: `mesh_send_broadcast` and the broadcast branch
of `mesh_send_channel_uid` in main/mesh_task.c, main/mesh_reliability.c.
-/
import BrambleMesh.ChannelFiling

namespace BrambleMesh.TextSend

open Fragment Channels ChannelMsg MsgStore List
open HandleData ChannelSend ChannelFiling

/-! ## The ids of recent broadcasts -/

abbrev RECENT_BROADCAST_RING_SIZE : ℕ := 8

structure Recent where
  s_last_broadcast_id : UInt32
  ids : Fin RECENT_BROADCAST_RING_SIZE → UInt32
  idx : Fin RECENT_BROADCAST_RING_SIZE
deriving DecidableEq

lemma ring_index_lt (i : ℕ) : i % RECENT_BROADCAST_RING_SIZE < RECENT_BROADCAST_RING_SIZE :=
  Nat.mod_lt _ (by decide)

def Recent.init : Recent := ⟨0, fun _ => 0, ⟨0 % RECENT_BROADCAST_RING_SIZE, ring_index_lt 0⟩⟩

def recent_broadcast_record (r : Recent) (packet_id : UInt32) : Recent :=
  if packet_id = 0 then r
  else
    { r with
      ids := Function.update r.ids r.idx packet_id
      idx := ⟨(r.idx.val + 1) % RECENT_BROADCAST_RING_SIZE, ring_index_lt _⟩ }

def recent_broadcast_contains (r : Recent) (packet_id : UInt32) : Bool :=
  packet_id ≠ 0 ∧ ∃ i, r.ids i = packet_id

/-! ## The two calls -/

inductive Fate
  | nonce_failed
  | unprovisioned
  | budget_denied
  | radio_error
  | sent (x : Stamp)

def Fate.stamp : Fate → Option Stamp
  | .nonce_failed | .unprovisioned | .budget_denied | .radio_error => none
  | .sent x => some x

variable (C : DmCrypto)

def transmit (s : Sender) (ch : Channel) (payload : List UInt8) (fate : Fate) :
    Option DataFrame :=
  fate.stamp.bind (send_data_packet C s BROADCAST_ADDR payload ch APP_TYPE_CHAT)

def pkt_id (f : Option DataFrame) : UInt32 := f.elim 0 fun f => f.header.packet_id

structure Outbox where
  store : Store
  recent : Recent

structure Sent (α : Type) where
  ret : α
  frames : List (Option DataFrame)
  outbox : Outbox

def record_sent (r : Recent) (packet_id : UInt32) : Recent :=
  recent_broadcast_record { r with s_last_broadcast_id := packet_id } packet_id

structure Loop where
  frames : List (Option DataFrame)
  first_pkt_id : UInt32
  recent : Recent

def Loop.turn (l : Loop) (i : ℕ) (f : Option DataFrame) : Loop :=
  ⟨l.frames ++ [f],
    if i = 0 ∧ pkt_id f ≠ 0 then pkt_id f else l.first_pkt_id,
    if pkt_id f = 0 then l.recent
    else if i = 0 then record_sent l.recent (pkt_id f)
    else recent_broadcast_record l.recent (pkt_id f)⟩

def send_fragments (s : Sender) (ch : Channel) (frags : List (List UInt8))
    (fates : ℕ → Fate) (recent : Recent) : Loop :=
  frags.zipIdx.foldl (fun l p => l.turn p.2 (transmit C s ch p.1 (fates p.2))) ⟨[], 0, recent⟩

lemma public_index_lt : 0 < MAX_CHANNELS := by decide

def public_index : Fin MAX_CHANNELS := ⟨0, public_index_lt⟩

def mesh_send_broadcast (s : Sender) (o : Outbox) (data : List UInt8)
    (message_id : UInt16) (gate_ok : Bool) (fates : ℕ → Fate) (uptime_s : UInt32) : Sent ℤ :=
  let ch := s.s_channels.s_channels public_index
  if s.s_channels.s_num_channels = 0 then ⟨-1, [], o⟩
  else if ch.channel_id ≠ 0 then ⟨-1, [], o⟩
  else if gate_ok = false then ⟨-2, [], o⟩
  else if FRAG_MAX_PLAINTEXT < data.length then
    match fragment_split data message_id FRAG_MAX_FRAGMENTS with
    | none => ⟨-1, [], o⟩
    | some frags =>
      let l := send_fragments C s ch frags fates o.recent
      -- stored without a look at what was sent
      ⟨0, l.frames,
        ⟨msg_store_add_channel o.store BROADCAST_ADDR .BROADCAST_OUT data ⟨0, 0, uptime_s⟩
          l.first_pkt_id .NONE 0, l.recent⟩⟩
  else
    let f := transmit C s ch data (fates 0)
    if pkt_id f = 0 then ⟨-1, [f], o⟩
    else
      ⟨0, [f],
        ⟨msg_store_add_channel o.store BROADCAST_ADDR .BROADCAST_OUT data ⟨0, 0, uptime_s⟩
          (pkt_id f) .NONE 0, record_sent o.recent (pkt_id f)⟩⟩

def sent_direction (channel_idx : Fin MAX_CHANNELS) : MsgDirection :=
  if channel_idx.val = 0 then .BROADCAST_OUT else .OUTGOING

def sent_status (channel_idx : Fin MAX_CHANNELS) : MsgStatus :=
  if channel_idx.val = 0 then .NONE else .SENT

def mesh_send_channel (s : Sender) (o : Outbox) (channel_idx : Fin MAX_CHANNELS)
    (data : List UInt8) (message_id : UInt16) (fates : ℕ → Fate) (uptime_s : UInt32) :
    Sent UInt32 :=
  let ch := s.s_channels.s_channels channel_idx
  if s.s_channels.s_num_channels ≤ channel_idx.val then ⟨0, [], o⟩
  else if FRAG_MAX_PLAINTEXT < data.length then
    match fragment_split data message_id FRAG_MAX_FRAGMENTS with
    | none => ⟨0, [], o⟩
    | some frags =>
      let l := send_fragments C s ch frags fates o.recent
      ⟨l.first_pkt_id, l.frames,
        ⟨if l.first_pkt_id = 0 then o.store
          else msg_store_add_channel o.store BROADCAST_ADDR (sent_direction channel_idx) data
            ⟨0, 0, uptime_s⟩ l.first_pkt_id (sent_status channel_idx)
            (UInt8.ofNat channel_idx.val),
          l.recent⟩⟩
  else
    let f := transmit C s ch data (fates 0)
    if pkt_id f = 0 then ⟨0, [f], o⟩
    else
      ⟨pkt_id f, [f],
        ⟨msg_store_add_channel o.store BROADCAST_ADDR (sent_direction channel_idx) data
          ⟨0, 0, uptime_s⟩ (pkt_id f) (sent_status channel_idx) (UInt8.ofNat channel_idx.val),
          record_sent o.recent (pkt_id f)⟩⟩

/-! ## The loop over the fragments -/

def attempts (s : Sender) (ch : Channel) (payloads : List (List UInt8))
    (fates : ℕ → Fate) : List (Option DataFrame) :=
  payloads.zipIdx.map fun p => transmit C s ch p.1 (fates p.2)

def first_id (frames : List (Option DataFrame)) : UInt32 := frames.head?.elim 0 pkt_id

section

variable {C : DmCrypto} {s : Sender} {ch : Channel} {fates : ℕ → Fate}

variable (payloads : List (List UInt8))

lemma foldl_turn (k : ℕ) (l : Loop) :
    let l' := (payloads.zipIdx k).foldl
      (fun l p => l.turn p.2 (transmit C s ch p.1 (fates p.2))) l
    l'.frames =
        l.frames ++ (payloads.zipIdx k).map (fun p => transmit C s ch p.1 (fates p.2)) ∧
      (0 < k → l'.first_pkt_id = l.first_pkt_id) := by
  induction payloads generalizing k l with
  | nil => exact ⟨(append_nil _).symm, fun _ => rfl⟩
  | cons payload payloads ih =>
    obtain ⟨hframes, hfirst⟩ := ih (k + 1) (l.turn k (transmit C s ch payload (fates k)))
    refine ⟨?_, fun hk => ?_⟩
    · rw [zipIdx_cons, foldl_cons, hframes, Loop.turn, append_assoc]
      rfl
    · rw [zipIdx_cons, foldl_cons, hfirst (Nat.succ_pos k)]
      obtain ⟨i, rfl⟩ := Nat.exists_eq_succ_of_ne_zero hk.ne'
      rw [Loop.turn, if_neg fun h => Nat.succ_ne_zero i h.1]

lemma send_fragments_frames (recent : Recent) :
    (send_fragments C s ch payloads fates recent).frames = attempts C s ch payloads fates :=
  (foldl_turn payloads 0 ⟨[], 0, recent⟩).1

lemma send_fragments_first (recent : Recent) :
    (send_fragments C s ch payloads fates recent).first_pkt_id =
      first_id (send_fragments C s ch payloads fates recent).frames := by
  rw [send_fragments_frames]
  cases payloads with
  | nil => rfl
  | cons payload payloads =>
    have hrest : (send_fragments C s ch (payload :: payloads) fates recent).first_pkt_id =
        (Loop.turn ⟨[], 0, recent⟩ 0 (transmit C s ch payload (fates 0))).first_pkt_id :=
      (foldl_turn payloads 1 _).2 Nat.one_pos
    rw [hrest, Loop.turn]
    show _ = pkt_id (transmit C s ch payload (fates 0))
    by_cases hid : pkt_id (transmit C s ch payload (fates 0)) = 0
    · rw [if_neg fun h => h.2 hid, hid]
    · rw [if_pos ⟨rfl, hid⟩]

end

/-! ## What a call reports and stores -/

structure Reports {α : Type} (r : Sent α) (o : Outbox) (success files : Prop) : Prop where
  success_iff : success ↔ files
  row_iff : r.outbox.store ≠ o.store ↔ files
  row_id : files → ∃ row, r.outbox.store.newest = some row ∧ row.packet_id = first_id r.frames

inductive Course {α : Type} (r : Sent α) (o : Outbox) (success : Prop) (text : List UInt8)
    (message_id : UInt16) (files : Prop) : Prop
  | refused (none_tried : r.frames = []) (reports : Reports r o success False)
  | fragments (long : FRAG_MAX_PLAINTEXT < text.length) (some_tried : r.frames ≠ [])
      (all_tried : r.frames.length = (text_payloads text message_id).length)
      (reports : Reports r o success files)
  | single (short : ¬ FRAG_MAX_PLAINTEXT < text.length) (f : Option DataFrame)
      (tried : r.frames = [f]) (reports : Reports r o success (pkt_id f ≠ 0))

def Sent.Complete {α : Type} (r : Sent α) (text : List UInt8) (message_id : UInt16) : Prop :=
  r.frames ≠ [] ∧ r.frames.length = (text_payloads text message_id).length ∧
    ∀ f ∈ r.frames, f.isSome
deriving Decidable

def NoPhantom {α : Type} (r : Sent α) (o : Outbox) (success : Prop) (text : List UInt8)
    (message_id : UInt16) : Prop :=
  r.Complete text message_id ∨ ¬ success ∧ r.outbox.store = o.store

instance {α : Type} (r : Sent α) (o : Outbox) (success : Prop) [Decidable success]
    (text : List UInt8) (message_id : UInt16) :
    Decidable (NoPhantom r o success text message_id) := inferInstanceAs (Decidable (_ ∨ _ ∧ _))

section

variable {α : Type} {r : Sent α} {o : Outbox} {success files : Prop} {text : List UInt8}
  {message_id : UInt16}

lemma Reports.not_filed (hfail : ¬ success) (hsame : r.outbox.store = o.store)
    (hfiles : ¬ files) : Reports r o success files :=
  ⟨iff_of_false hfail hfiles, iff_of_false (fun h => h hsame) hfiles, fun h => absurd h hfiles⟩

lemma Reports.filed {dir : MsgDirection} {rx : Reception} {packet_id : UInt32}
    {status : MsgStatus} {channel_index : UInt8} (hsuccess : success)
    (hrow : r.outbox.store =
      msg_store_add_channel o.store BROADCAST_ADDR dir text rx packet_id status channel_index)
    (hid : packet_id = first_id r.frames) (hfiles : files) : Reports r o success files := by
  refine ⟨iff_of_true hsuccess hfiles, iff_of_true ?_ hfiles, fun _ => ?_⟩
  · rw [hrow]
    intro h
    have huid : (if o.store.s_next_uid + 1 = 0 then 1 else o.store.s_next_uid + 1) = _ :=
      congrArg Store.s_next_uid h
    split at huid <;> grind
  · rw [hrow, ← hid]
    obtain ⟨u, hrows⟩ := rows_add_full o.store BROADCAST_ADDR dir text rx packet_id status
      (Int16.ofNat channel_index.toNat) 0
    refine ⟨stored_row BROADCAST_ADDR dir text rx packet_id status
      (Int16.ofNat channel_index.toNat) u, ?_, rfl⟩
    rw [Store.newest, msg_store_add_channel, hrows]
    rfl

lemma Reports.noPhantom_iff (h : Reports r o success files) :
    NoPhantom r o success text message_id ↔ (files → r.Complete text message_id) := by
  have hrow : r.outbox.store = o.store ↔ ¬ files := by rw [← h.row_iff, not_not]
  rw [NoPhantom, h.success_iff, hrow, and_self, or_comm, imp_iff_not_or]

variable {frags : List (List UInt8)}

lemma fragment_split_ne_nil
    (hsplit : fragment_split text message_id FRAG_MAX_FRAGMENTS = some frags) : frags ≠ [] := by
  obtain ⟨hpos, -, rfl⟩ := fragment_split_some hsplit
  have hnum : num_frags text.length ≠ 0 := by
    unfold num_frags FRAG_MAX_PLAINTEXT
    omega
  simpa using hnum

lemma fragments_tried (C : DmCrypto) (s : Sender) (ch : Channel) (fates : ℕ → Fate)
    (recent : Recent) (hlong : FRAG_MAX_PLAINTEXT < text.length)
    (hsplit : fragment_split text message_id FRAG_MAX_FRAGMENTS = some frags) :
    (send_fragments C s ch frags fates recent).frames ≠ [] ∧
      (send_fragments C s ch frags fates recent).frames.length =
        (text_payloads text message_id).length := by
  have hlen : (attempts C s ch frags fates).length = frags.length := by
    rw [attempts, length_map, length_zipIdx]
  rw [send_fragments_frames, text_payloads, if_pos hlong, hsplit, Option.getD_some,
    ← length_pos_iff, hlen, length_pos_iff]
  exact ⟨fragment_split_ne_nil hsplit, rfl⟩

lemma Course.noPhantom_iff (h : Course r o success text message_id files) :
    NoPhantom r o success text message_id ↔
      (FRAG_MAX_PLAINTEXT < text.length → r.frames ≠ [] → files → ∀ f ∈ r.frames, f.isSome) := by
  cases h with
  | refused hnil hreports =>
    rw [hreports.noPhantom_iff]
    exact iff_of_true False.elim fun _ hne => absurd hnil hne
  | fragments hlong hne hlen hreports =>
    rw [hreports.noPhantom_iff]
    exact ⟨fun h _ _ hfiles => (h hfiles).2.2, fun h hfiles => ⟨hne, hlen, h hlong hne hfiles⟩⟩
  | single hshort f hf hreports =>
    rw [hreports.noPhantom_iff]
    refine iff_of_true (fun hid => ?_) fun hlong => absurd hlong hshort
    -- an id was returned, so there was a frame
    have hsome : f.isSome := by
      cases f with
      | none => exact absurd rfl hid
      | some f => rfl
    rw [Sent.Complete, hf, text_payloads, if_neg hshort]
    exact ⟨cons_ne_nil _ _, rfl, fun g hg => mem_singleton.mp hg ▸ hsome⟩

end

section

variable (C : DmCrypto) (s : Sender) (o : Outbox) (text : List UInt8) (message_id : UInt16)
  (fates : ℕ → Fate) (uptime_s : UInt32)

lemma mesh_send_broadcast_course (gate_ok : Bool) :
    Course (mesh_send_broadcast C s o text message_id gate_ok fates uptime_s) o
      ((mesh_send_broadcast C s o text message_id gate_ok fates uptime_s).ret = 0)
      text message_id True := by
  unfold mesh_send_broadcast
  by_cases hnum : s.s_channels.s_num_channels = 0
  · rw [if_pos hnum]
    exact .refused rfl (.not_filed (show ¬ (-1 : ℤ) = 0 by decide) rfl id)
  rw [if_neg hnum]
  by_cases hid : (s.s_channels.s_channels public_index).channel_id ≠ 0
  · rw [if_pos hid]
    exact .refused rfl (.not_filed (show ¬ (-1 : ℤ) = 0 by decide) rfl id)
  rw [if_neg hid]
  by_cases hgate : gate_ok = false
  · rw [if_pos hgate]
    exact .refused rfl (.not_filed (show ¬ (-2 : ℤ) = 0 by decide) rfl id)
  rw [if_neg hgate]
  by_cases hlong : FRAG_MAX_PLAINTEXT < text.length
  · rw [if_pos hlong]
    rcases hsplit : fragment_split text message_id FRAG_MAX_FRAGMENTS with _ | frags
    · exact .refused rfl (.not_filed (show ¬ (-1 : ℤ) = 0 by decide) rfl id)
    · obtain ⟨hne, hlen⟩ := fragments_tried C s
        (s.s_channels.s_channels public_index) fates o.recent hlong hsplit
      exact .fragments hlong hne hlen (.filed rfl rfl (send_fragments_first frags _) trivial)
  rw [if_neg hlong]
  by_cases hsent : pkt_id (transmit C s (s.s_channels.s_channels public_index) text (fates 0)) = 0
  · rw [if_pos hsent]
    exact .single hlong _ rfl
      (.not_filed (show ¬ (-1 : ℤ) = 0 by decide) rfl fun h => h hsent)
  · rw [if_neg hsent]
    exact .single hlong _ rfl (.filed rfl rfl rfl hsent)

lemma mesh_send_channel_course (channel_idx : Fin MAX_CHANNELS) :
    Course (mesh_send_channel C s o channel_idx text message_id fates uptime_s) o
      ((mesh_send_channel C s o channel_idx text message_id fates uptime_s).ret ≠ 0)
      text message_id
      (first_id (mesh_send_channel C s o channel_idx text message_id fates uptime_s).frames ≠
        0) := by
  unfold mesh_send_channel
  by_cases hnum : s.s_channels.s_num_channels ≤ channel_idx.val
  · rw [if_pos hnum]
    exact .refused rfl (.not_filed (fun h => h rfl) rfl id)
  rw [if_neg hnum]
  by_cases hlong : FRAG_MAX_PLAINTEXT < text.length
  · rw [if_pos hlong]
    rcases hsplit : fragment_split text message_id FRAG_MAX_FRAGMENTS with _ | frags
    · exact .refused rfl (.not_filed (fun h => h rfl) rfl id)
    · obtain ⟨hne, hlen⟩ := fragments_tried C s
        (s.s_channels.s_channels channel_idx) fates o.recent hlong hsplit
      refine .fragments hlong hne hlen ?_
      dsimp only
      rw [send_fragments_first]
      split
      · next hfirst => exact .not_filed (fun h => h hfirst) rfl fun h => h hfirst
      · next hfirst => exact .filed hfirst rfl rfl hfirst
  rw [if_neg hlong]
  by_cases hsent : pkt_id (transmit C s (s.s_channels.s_channels channel_idx) text (fates 0)) = 0
  · rw [if_pos hsent]
    exact .single hlong _ rfl (.not_filed (fun h => h rfl) rfl fun h => h hsent)
  · rw [if_neg hsent]
    exact .single hlong _ rfl (.filed hsent rfl rfl hsent)

/-- **When there are no phantom sends**: `mesh_send_broadcast` leaves none exactly if the text
fits in one frame, or is refused before the first, or all its fragments are transmitted; a channel
send exactly if the same holds or its first fragment fails. -/
theorem no_phantom_sends_iff (gate_ok : Bool) (channel_idx : Fin MAX_CHANNELS) :
    let b := mesh_send_broadcast C s o text message_id gate_ok fates uptime_s
    let c := mesh_send_channel C s o channel_idx text message_id fates uptime_s
    (NoPhantom b o (b.ret = 0) text message_id ↔
      (FRAG_MAX_PLAINTEXT < text.length → ∀ f ∈ b.frames, f.isSome)) ∧
    (NoPhantom c o (c.ret ≠ 0) text message_id ↔
      (FRAG_MAX_PLAINTEXT < text.length → first_id c.frames ≠ 0 → ∀ f ∈ c.frames, f.isSome)) := by
  intro b c
  have hb := (mesh_send_broadcast_course C s o text message_id fates uptime_s gate_ok).noPhantom_iff
  have hc := (mesh_send_channel_course C s o text message_id fates uptime_s
    channel_idx).noPhantom_iff
  refine ⟨hb.trans ?_, hc.trans ?_⟩
  · refine forall_congr' fun _ => ⟨fun h f hf => ?_, fun h _ _ => h⟩
    exact h (ne_nil_of_mem hf) trivial f hf
  · refine forall_congr' fun _ => ⟨fun h hfirst f hf => ?_, fun h _ => h⟩
    exact h (ne_nil_of_mem hf) hfirst f hf

end

/-! ## A text of which half is lost -/

def longText : List UInt8 := List.replicate 155 97

def firstOnly : ℕ → Fate := fun i =>
  if i = 0 then .sent ⟨77, 7, toyFrame.nonce, 1000⟩ else .budget_denied

/-- A broadcast of which nothing goes out is stored under the id 0; a channel send whose second
fragment is denied leaves a row that says SENT. -/
theorem unsent_text_filed :
    let b := mesh_send_broadcast toyCrypto.toDmCrypto toySender ⟨msg_store_init, .init⟩ longText 3
      true (fun _ => .budget_denied) 0
    let c := mesh_send_channel toyCrypto.toDmCrypto toySender ⟨msg_store_init, .init⟩ 2 longText 3
      firstOnly 0
    (b.ret = 0 ∧ b.frames = [none, none] ∧
      b.outbox.store.rows.map (fun row => (row.packet_id, row.status)) = [(0, .NONE)] ∧
      ¬ NoPhantom b ⟨msg_store_init, .init⟩ (b.ret = 0) longText 3) ∧
    c.ret = 77 ∧ c.frames.map Option.isSome = [true, false] ∧
      c.outbox.store.rows.map (fun row => (row.packet_id, row.status)) = [(77, .SENT)] ∧
      ¬ NoPhantom c ⟨msg_store_init, .init⟩ (c.ret ≠ 0) longText 3 := by
  decide +kernel

end BrambleMesh.TextSend
