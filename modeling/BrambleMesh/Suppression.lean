/-
Frames that are not accepted, and those that are: two runs of a node are compared, one of which
gets frames that fail on top of what the other gets.
-/
import BrambleMesh.DataAck

namespace BrambleMesh.Suppression

open Run Bytes TimedCache DmRatchet Channels List
open ChannelMsg HandleData Dispatch
open DmDriver (Slot dm_lookup)
open Fragment
open Discovery (NetworkMac)

/-! ## What a frame that fails leaves behind -/

section

variable {C : DmCrypto} {r : Receiver} {f : DataFrame} {now_ms : UInt32}

lemma dm_recv_walk_failed (C : DmCrypto) (chain : Chain) (skip : Skip) (index : UInt16)
    (aad : List UInt8) (nonce : Nonce) (ct : List UInt8) (tag : Tag16)
    (h : (dm_recv_walk C chain skip index aad nonce ct tag).1.accepted = false) :
    (dm_recv_walk C chain skip index aad nonce ct tag).2 = (chain, skip) := by
  revert h
  unfold dm_recv_walk
  split_ifs
  · split
    · exact fun _ => rfl
    · split
      · exact fun _ => rfl
      · exact fun h => nomatch h
  · exact fun _ => rfl
  · split
    · exact fun _ => rfl
    · split
      · exact fun _ => rfl
      · split
        · exact fun _ => rfl
        · exact fun h => nomatch h

lemma try_previous_failed (C : DmCrypto) (ratchet : Ratchet) (rc : DecryptResult)
    (index : UInt16) (aad : List UInt8) (nonce : Nonce) (ct : List UInt8) (tag : Tag16)
    (h : (try_previous C ratchet rc index aad nonce ct tag).1.accepted = false) :
    (try_previous C ratchet rc index aad nonce ct tag).2 = ratchet := by
  have hwalk := dm_recv_walk_failed C ratchet.prev_recv ratchet.prev_skip index aad nonce ct tag
  unfold try_previous at h ⊢
  split_ifs at h ⊢
  · rcases hd : dm_recv_walk C ratchet.prev_recv ratchet.prev_skip index aad nonce ct tag with
      ⟨_ | _ | _, chain, skip⟩
    · rw [hd] at h
      nomatch h
    · rw [hd] at hwalk
      obtain ⟨rfl, rfl⟩ := Prod.mk.inj (hwalk rfl)
      rfl
    · rw [hd] at hwalk
      obtain ⟨rfl, rfl⟩ := Prod.mk.inj (hwalk rfl)
      rfl
  · rfl

lemma dm_session_ratchet_decrypt_failed (C : DmCrypto) (s : Session) (hd : Header)
    (src_addr : UInt32) (nonce : Nonce) (ct : List UInt8) (tag : Tag16)
    (h : (dm_session_ratchet_decrypt C s hd src_addr nonce ct tag).1.accepted = false) :
    (dm_session_ratchet_decrypt C s hd src_addr nonce ct tag).2 = s := by
  unfold dm_session_ratchet_decrypt at h ⊢
  split_ifs at h ⊢
  · rfl
  match ct with
  | [] => rfl
  | [_] => rfl
  | [_, _] => rfl
  | b0 :: b1 :: b2 :: ct =>
    dsimp only at h ⊢
    have hwalk := dm_recv_walk_failed C s.ratchet.recv s.ratchet.skip (be16 b1 b2)
      (bramble_build_aead_aad hd src_addr ++ [b0, b1, b2]) nonce ct tag
    rcases hrc : dm_recv_walk C s.ratchet.recv s.ratchet.skip (be16 b1 b2)
      (bramble_build_aead_aad hd src_addr ++ [b0, b1, b2]) nonce ct tag with
      ⟨_ | _ | _, chain, skip⟩
    · rw [hrc] at h
      nomatch h
    · rw [hrc] at h hwalk
      obtain ⟨rfl, rfl⟩ := Prod.mk.inj (hwalk rfl)
      rw [try_previous_failed _ _ _ _ _ _ _ _ h]
    · rw [hrc] at h hwalk
      obtain ⟨rfl, rfl⟩ := Prod.mk.inj (hwalk rfl)
      rw [try_previous_failed _ _ _ _ _ _ _ _ h]

def opens (C : DmCrypto) (r : Receiver) (f : DataFrame) (now_ms : UInt32) : Bool :=
  match (open_frame C r f now_ms).2 with
  | .ok _ => true
  | _ => false

/-- **A frame that does not open** costs catch-up budget if it is under a channel key, and nothing
otherwise. -/
theorem open_frame_failed (h : opens C r f now_ms = false) :
    ∃ b, (open_frame C r f now_ms).1 = { r with s_catchup := b } ∧
      (f.on_channel = false → b = r.s_catchup) := by
  unfold opens open_frame at h
  unfold open_frame
  by_cases hflag : f.on_channel
  · rw [if_pos hflag, open_channel] at h ⊢
    have htable : (channel_msg_decrypt C r.s_channels r.s_catchup f.sealed now_ms).2.2 = none →
        (channel_msg_decrypt C r.s_channels r.s_catchup f.sealed now_ms).1 = r.s_channels := by
      unfold channel_msg_decrypt
      split_ifs
      · exact fun _ => rfl
      · exact fun _ => rfl
      · split
        · exact fun _ => rfl
        · intro h
          cases h
    rcases hd : channel_msg_decrypt C r.s_channels r.s_catchup f.sealed now_ms with ⟨t, b, _ | info⟩
    · rw [hd] at htable
      obtain rfl : t = r.s_channels := htable rfl
      exact ⟨b, rfl, fun hoff => absurd hflag (Bool.eq_false_iff.1 hoff)⟩
    · rw [hd] at h
      cases h
  · rw [if_neg hflag] at h ⊢
    refine ⟨r.s_catchup, ?_, fun _ => rfl⟩
    unfold open_session at h ⊢
    rcases hlookup : dm_lookup r.s_dm_table f.src_addr with _ | i
    · rfl
    rw [hlookup] at h
    dsimp only at h ⊢
    split_ifs at h ⊢
    · have hput : (r.s_dm_table i).put (r.s_dm_table i).toSession = r.s_dm_table i := rfl
      have hsame := dm_session_ratchet_decrypt_failed C (r.s_dm_table i).toSession f.header
        f.src_addr f.nonce f.ciphertext f.tag
      rcases hd : dm_session_ratchet_decrypt C (r.s_dm_table i).toSession f.header f.src_addr
        f.nonce f.ciphertext f.tag with ⟨_ | _ | _, s⟩
      · rw [hd] at h
        cases h
      · rw [hd] at hsame
        obtain rfl : s = (r.s_dm_table i).toSession := hsame rfl
        simp only [hput, Function.update_eq_self]
      · rw [hd] at hsame
        obtain rfl : s = (r.s_dm_table i).toSession := hsame rfl
        simp only [hput, Function.update_eq_self]
    · rfl

lemma admitted_failed (h : opens C r f now_ms = false) : admitted C r f now_ms = none := by
  unfold admitted
  split_ifs
  · rfl
  · rw [opens] at h
    rcases hd : open_frame C r f now_ms with ⟨r', _ | _ | info⟩
    · rfl
    · rfl
    · rw [hd] at h
      nomatch h

lemma handle_data_failed {rx : HandleData.Rx} (h : opens C r f rx.now_ms = false) :
    ∃ b, (handle_data C r f rx).1 = { r with s_catchup := b } ∧
      (f.on_channel = false → b = r.s_catchup) := by
  obtain ⟨b, hopened, hsame⟩ := open_frame_failed h
  unfold handle_data
  split_ifs
  · exact ⟨r.s_catchup, rfl, fun _ => rfl⟩
  · exact ⟨r.s_catchup, rfl, fun _ => rfl⟩
  · exact ⟨r.s_catchup, rfl, fun _ => rfl⟩
  · refine ⟨b, ?_, hsame⟩
    rw [opens] at h
    rcases hd : open_frame C r f rx.now_ms with ⟨r', _ | _ | info⟩
    · rw [hd] at hopened
      exact hopened
    · rw [hd] at hopened
      exact hopened
    · rw [hd] at h
      nomatch h

end

/-! ## What the budgets matter for -/

section

variable {C : DmCrypto} {x : Sealed}

def UpToDate (C : DmCrypto) (t : ChannelTable) (x : Sealed) : Prop :=
  ∀ i ∈ (List.finRange MAX_CHANNELS).take t.s_num_channels,
    try_decrypt C (t.s_channels i).key x = none →
      (catchup_loop C x CHANNEL_EPOCH_CATCHUP_MAX CHANNEL_EPOCH_CATCHUP_MAX
        (t.s_channels i)).2 = none
deriving Decidable

lemma catchup_loop_none {n : ℕ} {ch : Channel} (h : (catchup_loop C x n n ch).2 = none)
    (tokens : ℕ) : (catchup_loop C x n tokens ch).2 = none := by
  induction n generalizing tokens ch with
  | zero => rfl
  | succ n ih =>
    cases tokens with
    | zero => rfl
    | succ tokens =>
      rw [catchup_loop] at h ⊢
      rcases hadvance : channel_advance_epoch C ch with _ | ch'
      · rfl
      rw [hadvance] at h
      dsimp only at h ⊢
      rcases hopen : try_decrypt C ch'.key x with _ | pt
      · rw [hopen] at h
        exact ih h tokens
      · rw [hopen] at h
        cases h

lemma try_channel_up_to_date {ch : Channel} (now_ms : UInt32)
    (h : try_decrypt C ch.key x = none →
      (catchup_loop C x CHANNEL_EPOCH_CATCHUP_MAX CHANNEL_EPOCH_CATCHUP_MAX ch).2 = none)
    (b : CatchupBucket) :
    (try_channel C x now_ms ch b).2 = (try_decrypt C ch.key x).map fun pt => (ch, pt) := by
  unfold try_channel
  rcases hopen : try_decrypt C ch.key x with _ | pt
  · have hnone := catchup_loop_none (h hopen) (catchup_bucket b now_ms).tokens
    dsimp only
    rcases hloop : catchup_loop C x CHANNEL_EPOCH_CATCHUP_MAX (catchup_bucket b now_ms).tokens ch
      with ⟨tokens, _ | found⟩
    · rfl
    · rw [hloop] at hnone
      nomatch hnone
  · rfl

lemma try_channels_up_to_date (now_ms : UInt32) {channels : Fin MAX_CHANNELS → Channel}
    {is : List (Fin MAX_CHANNELS)}
    (h : ∀ i ∈ is, try_decrypt C (channels i).key x = none →
      (catchup_loop C x CHANNEL_EPOCH_CATCHUP_MAX CHANNEL_EPOCH_CATCHUP_MAX (channels i)).2 = none)
    (b b' : Catchup) (found : Option Found) :
    (try_channels C x now_ms channels is b found).2 =
      (try_channels C x now_ms channels is b' found).2 := by
  induction is generalizing b b' found with
  | nil => rfl
  | cons i is ih =>
    have hi := try_channel_up_to_date now_ms (h i mem_cons_self)
    rw [try_channels, try_channels, hi, hi]
    exact ih (fun j hj => h j (mem_cons_of_mem _ hj)) _ _ _

lemma channel_msg_decrypt_up_to_date {t : ChannelTable} (h : UpToDate C t x) (b b' : Catchup)
    (now_ms : UInt32) :
    (channel_msg_decrypt C t b x now_ms).1 = (channel_msg_decrypt C t b' x now_ms).1 ∧
      (channel_msg_decrypt C t b x now_ms).2.2 = (channel_msg_decrypt C t b' x now_ms).2.2 := by
  have hsame := try_channels_up_to_date now_ms h b b' none
  unfold channel_msg_decrypt
  split_ifs
  · exact ⟨rfl, rfl⟩
  · exact ⟨rfl, rfl⟩
  rcases hb : try_channels C x now_ms t.s_channels
    ((finRange MAX_CHANNELS).take t.s_num_channels) b none with ⟨b₁, found⟩
  rcases hb' : try_channels C x now_ms t.s_channels
    ((finRange MAX_CHANNELS).take t.s_num_channels) b' none with ⟨b₂, found'⟩
  rw [hb, hb'] at hsame
  obtain rfl : found = found' := hsame
  cases found <;> exact ⟨rfl, rfl⟩

variable {r : Receiver} {f : DataFrame}

lemma open_frame_same (h : f.on_channel → UpToDate C r.s_channels f.sealed) (b : Catchup)
    (now_ms : UInt32) :
    ∃ b', open_frame C { r with s_catchup := b } f now_ms =
      ({ (open_frame C r f now_ms).1 with s_catchup := b' }, (open_frame C r f now_ms).2) := by
  unfold open_frame
  split_ifs with hflag
  · obtain ⟨htable, hinfo⟩ := channel_msg_decrypt_up_to_date (h hflag) b r.s_catchup now_ms
    unfold open_channel
    rcases hb : channel_msg_decrypt C r.s_channels b f.sealed now_ms with ⟨t₁, b₁, o₁⟩
    rcases hr : channel_msg_decrypt C r.s_channels r.s_catchup f.sealed now_ms with ⟨t₂, b₂, o₂⟩
    rw [hb, hr] at htable hinfo
    obtain rfl : t₁ = t₂ := htable
    obtain rfl : o₁ = o₂ := hinfo
    cases o₁ <;> exact ⟨b₁, rfl⟩
  · unfold open_session
    rcases dm_lookup r.s_dm_table f.src_addr with _ | i
    · exact ⟨b, rfl⟩
    dsimp only
    split_ifs
    · rcases dm_session_ratchet_decrypt C (r.s_dm_table i).toSession f.header f.src_addr f.nonce
        f.ciphertext f.tag with ⟨_ | _ | _, s⟩ <;> exact ⟨b, rfl⟩
    · exact ⟨b, rfl⟩

lemma replay_gate_same (r : Receiver) (f : DataFrame) (info : ChannelMsgInfo) (b : Catchup)
    (now_ms : UInt32) :
    replay_gate { r with s_catchup := b } f info now_ms =
      ({ (replay_gate r f info now_ms).1 with s_catchup := b },
        (replay_gate r f info now_ms).2) := by
  unfold replay_gate
  split_ifs <;> rfl

lemma dispatch_same (r : Receiver) (f : DataFrame) (info : ChannelMsgInfo) (b : Catchup)
    (rx : HandleData.Rx) :
    dispatch { r with s_catchup := b } f info rx =
      ({ (dispatch r f info rx).1 with s_catchup := b }, (dispatch r f info rx).2) := by
  unfold dispatch
  split_ifs
  · rfl
  · rfl
  · rfl
  unfold deliver_text
  split_ifs
  · rfl
  · unfold deliver_fragment
    rcases reassembly_add r.s_reassembly (frag_header info.data) (info.data.drop FRAG_HEADER_SIZE)
      rx.now_ms f.header.packet_id with ⟨ctx, _ | _ | _⟩
    · rfl
    · rfl
    · dsimp only
      rcases reassembly_collect ctx (frag_header info.data).message_id
        ((frag_header info.data).frag_total.toNat * FRAG_MAX_PLAINTEXT) with ⟨ctx', _ | text⟩
      · rfl
      · dsimp only
        split_ifs <;> rfl
  · rfl

lemma admitted_same (h : f.on_channel → UpToDate C r.s_channels f.sealed) (b : Catchup)
    (now_ms : UInt32) :
    (admitted C { r with s_catchup := b } f now_ms).isSome =
      (admitted C r f now_ms).isSome := by
  obtain ⟨b', hopen⟩ := open_frame_same h b now_ms
  unfold admitted
  split_ifs
  · rfl
  rw [hopen]
  rcases open_frame C r f now_ms with ⟨r₁, _ | _ | info⟩
  · rfl
  · rfl
  · dsimp only
    rw [replay_gate_same]
    rcases replay_gate r₁ f info now_ms with ⟨r₂, _ | _⟩ <;> rfl

lemma handle_data_same (rx : HandleData.Rx)
    (h : f.on_channel → UpToDate C r.s_channels f.sealed) (b : Catchup) :
    ∃ b', (handle_data C { r with s_catchup := b } f rx).1 =
      { (handle_data C r f rx).1 with s_catchup := b' } := by
  obtain ⟨b', hopen⟩ := open_frame_same h b rx.now_ms
  unfold handle_data
  split_ifs
  · exact ⟨b, rfl⟩
  · exact ⟨b, rfl⟩
  · exact ⟨b, rfl⟩
  refine ⟨b', ?_⟩
  rw [hopen]
  rcases open_frame C r f rx.now_ms with ⟨r₁, _ | _ | info⟩
  · rfl
  · rfl
  · dsimp only
    rw [replay_gate_same]
    rcases replay_gate r₁ f info rx.now_ms with ⟨r₂, _ | _⟩
    · rfl
    · exact congrArg Prod.fst (dispatch_same r₂ f info b' rx)

end

/-! ## Two runs -/

structure Arrival where
  event : Event
  inserted : Bool

def without (as : List Arrival) : List Event := (as.filter fun a => !a.inserted).map Arrival.event

section

variable (C : DmCrypto) (mac : NetworkMac)

def accepted (n : Node) : Event → Bool
  | .received pkt rx =>
    match reaches mac n pkt rx with
    | some p => (admitted C n.receiver p.toDataFrame rx.now_ms).isSome
    | none => false
  | _ => false

def accepted_frames : Node → List Event → List Event
  | _, [] => []
  | n, ev :: es =>
    (if accepted C mac n ev then [ev] else []) ++ accepted_frames (step C mac n ev) es

def fails (n : Node) (rx : Dispatch.Rx) : Packet → Bool
  | .data p => !data_auth_verify mac p || !opens C n.receiver p.toDataFrame rx.now_ms
  | .receipt r => !receipt_verify mac r
  | .other _ => true

def tries_channels (n : Node) : Event → Bool
  | .received pkt rx => (reaches mac n pkt rx).any fun p => p.on_channel
  | _ => false

def watch (s : Bool × Node) (a : Arrival) : Bool × Node :=
  (s.1 || (a.inserted && tries_channels mac s.2 a.event), step C mac s.2 a.event)

def NeedsNoBudget (n : Node) : Packet → Prop
  | .data p => p.on_channel → UpToDate C n.receiver.s_channels p.sealed
  | _ => True

instance (n : Node) : (pkt : Packet) → Decidable (NeedsNoBudget C n pkt)
  | .data _ => inferInstanceAs (Decidable (_ → _))
  | .receipt _ | .other _ => .isTrue trivial

def Mild (s : Bool × Node) (a : Arrival) : Prop :=
  match a.event with
  | .received pkt rx => HasRoom s.2.s_dedup rx.now_ms ∧
      (a.inserted → fails C mac s.2 rx pkt) ∧
      (a.inserted = false → s.1 = true → NeedsNoBudget C s.2 pkt)
  | _ => a.inserted = false

instance (s : Bool × Node) : (a : Arrival) → Decidable (Mild C mac s a)
  | ⟨.received .., _⟩ => inferInstanceAs (Decidable (_ ∧ _ ∧ _))
  | ⟨.maintenance _, _⟩ | ⟨.elsewhere .., _⟩ => inferInstanceAs (Decidable (_ = false))

def Apart (a b : Arrival) : Prop :=
  match a.event, b.event with
  | .received pkt rx, .received pkt' rx' => a.inserted = true → b.inserted = false →
      pkt.dedup_key = pkt'.dedup_key → DEDUP_EXPIRY_MS ≤ rx'.now_ms - rx.now_ms
  | _, _ => True

instance : (a b : Arrival) → Decidable (Apart a b)
  | ⟨.received .., _⟩, ⟨.received .., _⟩ => inferInstanceAs (Decidable (_ → _ → _ → _))
  | ⟨.received .., _⟩, ⟨.maintenance _, _⟩ | ⟨.received .., _⟩, ⟨.elsewhere .., _⟩
  | ⟨.maintenance _, _⟩, _ | ⟨.elsewhere .., _⟩, _ => .isTrue trivial

def InOrder (a b : Arrival) : Prop := ∀ t ∈ a.event.now, ∀ t' ∈ b.event.now, t ≤ t'

structure Undisturbed (n : Node) (as : List Arrival) : Prop where
  mild : Meets (watch C mac) (Mild C mac) (false, n) as
  apart : as.Pairwise Apart
  in_order : as.Pairwise InOrder
  started : ∀ e ∈ n.s_dedup, ∀ a ∈ as, ∀ t ∈ a.event.now, e.stamp ≤ t

end

/-! ## The two runs side by side -/

section

variable {C : DmCrypto} {mac : NetworkMac} {m n : Node} {a : Arrival} {rest : List Arrival}
  {pkt : Packet} {rx : Dispatch.Rx} {noted : Bool}

def Harmless (rest : List Arrival) (e : Entry UInt32) : Prop :=
  ∀ a ∈ rest, a.inserted = false → ∀ pkt rx, a.event = .received pkt rx →
    pkt.dedup_key = e.key → e.live DEDUP_EXPIRY_MS rx.now_ms = false

lemma Harmless.tail {e : Entry UInt32} (h : Harmless (a :: rest) e) : Harmless rest e :=
  fun b hb => h b (mem_cons_of_mem _ hb)

structure Alike (rest : List Arrival) (noted : Bool) (m n : Node) : Prop where
  receiver : ∃ b, m.receiver = { n.receiver with s_catchup := b }
  budgets : noted = false → m.receiver = n.receiver
  filter : ∀ a ∈ rest, ∀ t ∈ a.event.now,
    Wider DEDUP_EXPIRY_MS t m.s_dedup n.s_dedup (Harmless rest)

lemma Alike.address (h : Alike rest noted m n) : m.receiver.address = n.receiver.address := by
  obtain ⟨b, hb⟩ := h.receiver
  rw [hb]

lemma wider_later {c c' : DedupBuffer} {P : Entry UInt32 → Prop} {t : UInt32}
    (h : Wider DEDUP_EXPIRY_MS t c c' P) (ht : a.event.now = some t)
    (horder : ∀ b ∈ rest, InOrder a b) :
    ∀ b ∈ rest, ∀ t' ∈ b.event.now, Wider DEDUP_EXPIRY_MS t' c c' P :=
  fun b hb t' ht' => h.later (horder b hb t ht t' ht')

lemma reaches_congr
    (hheld : dedup_contains m.s_dedup pkt.dedup_key rx.now_ms =
      dedup_contains n.s_dedup pkt.dedup_key rx.now_ms)
    (haddr : m.receiver.address = n.receiver.address) :
    reaches mac m pkt rx = reaches mac n pkt rx := by
  cases pkt with
  | data p =>
    unfold reaches
    dsimp only
    rw [show dedup_contains m.s_dedup (header_key p.header) rx.now_ms =
      dedup_contains n.s_dedup (header_key p.header) rx.now_ms from hheld, haddr]
  | receipt r => rfl
  | other k => rfl

lemma reaches_some {p : DataPacket} (h : reaches mac n pkt rx = some p) :
    pkt = .data p ∧ data_auth_verify mac p := by
  cases pkt with
  | data q =>
    unfold reaches at h
    dsimp only at h
    split_ifs at h with hcond
    cases h
    exact ⟨rfl, hcond.2.1⟩
  | receipt r => nomatch h
  | other k => nomatch h

/-- **A frame that fails** takes a place in the filter and may use up budget. -/
theorem fails_receiver (h : fails C mac m rx pkt) :
    ∃ b, (mesh_process_rx_packet C mac m pkt rx).node.receiver =
        { m.receiver with s_catchup := b } ∧
      (tries_channels mac m (.received pkt rx) = false → b = m.receiver.s_catchup) := by
  have hdoes := mesh_process_rx_packet_does C mac m pkt rx
  rw [hdoes.receiver, tries_channels]
  rcases hreach : reaches mac m pkt rx with _ | p
  · exact ⟨m.receiver.s_catchup, rfl, fun _ => rfl⟩
  · obtain ⟨rfl, hauth⟩ := reaches_some hreach
    rw [fails, hauth, Bool.not_true, Bool.false_or, Bool.not_eq_true'] at h
    exact handle_data_failed h

lemma fails_not_accepted (h : fails C mac m rx pkt) :
    accepted C mac m (.received pkt rx) = false := by
  unfold accepted
  dsimp only
  rcases hreach : reaches mac m pkt rx with _ | p
  · rfl
  · obtain ⟨rfl, hauth⟩ := reaches_some hreach
    rw [fails, hauth, Bool.not_true, Bool.false_or, Bool.not_eq_true'] at h
    dsimp only
    rw [admitted_failed h]
    rfl

lemma alike_inserted (h : Alike (a :: rest) noted m n) (hin : a.inserted)
    (hmild : Mild C mac (noted, m) a) (hapart : ∀ b ∈ rest, Apart a b)
    (horder : ∀ b ∈ rest, InOrder a b) :
    Alike rest (watch C mac (noted, m) a).1 (watch C mac (noted, m) a).2 n ∧
      accepted C mac m a.event = false := by
  obtain ⟨event, inserted⟩ := a
  obtain rfl : inserted := hin
  match event with
  | .received pkt rx =>
    obtain ⟨hroom, hfails, -⟩ := hmild
    obtain ⟨b, hreceiver, hbudget⟩ := fails_receiver (hfails rfl)
    have hdoes := mesh_process_rx_packet_does C mac m pkt rx
    refine ⟨⟨?_, ?_, ?_⟩, fails_not_accepted (hfails rfl)⟩
    · obtain ⟨b', hb'⟩ := h.receiver
      refine ⟨b, ?_⟩
      show (mesh_process_rx_packet C mac m pkt rx).node.receiver = _
      rw [hreceiver, hb']
    · intro hnote
      obtain ⟨hold, hnew⟩ := Bool.or_eq_false_iff.1 hnote
      show (mesh_process_rx_packet C mac m pkt rx).node.receiver = _
      rw [hreceiver, hbudget hnew]
      exact h.budgets hold
    · -- the new entry has no key of a frame that comes while it is live
      have hnew : Harmless rest ⟨pkt.dedup_key, rx.now_ms⟩ := by
        rintro ⟨_, _⟩ hb rfl pkt' rx' rfl hkey
        have hfar := hapart _ hb rfl rfl hkey.symm
        exact decide_eq_false (UInt32.not_lt.2 hfar)
      have hwider := (h.filter _ mem_cons_self rx.now_ms rfl).mono fun _ => Harmless.tail
      refine wider_later (a := ⟨.received pkt rx, true⟩) ?_ rfl horder
      show Wider _ _ (mesh_process_rx_packet C mac m pkt rx).node.s_dedup _ _
      rw [hdoes.s_dedup]
      exact hwider.offer_left hroom hnew
  | .maintenance _ | .elsewhere .. => exact absurd (show true = false from hmild) (by decide)

lemma alike_received (h : Alike (a :: rest) noted m n) (hevent : a.event = .received pkt rx)
    (hin : a.inserted = false) (hroom : HasRoom m.s_dedup rx.now_ms)
    (hneeds : noted → NeedsNoBudget C m pkt) (horder : ∀ b ∈ rest, InOrder a b) :
    Alike rest noted (step C mac m (.received pkt rx)) (step C mac n (.received pkt rx)) ∧
      accepted C mac m (.received pkt rx) = accepted C mac n (.received pkt rx) := by
  have hnow : a.event.now = some rx.now_ms := by rw [hevent]; rfl
  have hwider := h.filter a mem_cons_self rx.now_ms hnow
  have hfar : ∀ e, Harmless (a :: rest) e → e.key = pkt.dedup_key →
      e.live DEDUP_EXPIRY_MS rx.now_ms = false :=
    fun e he hkey => he a mem_cons_self hin pkt rx hevent hkey.symm
  have hreach : reaches mac m pkt rx = reaches mac n pkt rx :=
    reaches_congr (hwider.holds_eq hfar) h.address
  have hm := mesh_process_rx_packet_does C mac m pkt rx
  have hn := mesh_process_rx_packet_does C mac n pkt rx
  have hfilter : ∀ b ∈ rest, ∀ t ∈ b.event.now, Wider DEDUP_EXPIRY_MS t
      (step C mac m (.received pkt rx)).s_dedup (step C mac n (.received pkt rx)).s_dedup
      (Harmless rest) := by
    refine wider_later ?_ hnow horder
    rw [step, step, hm.s_dedup, hn.s_dedup]
    exact (hwider.offer_both hroom hfar).mono fun _ => Harmless.tail
  rw [accepted, accepted, hreach]
  have hreceiver := hm.receiver
  have hreceiver' := hn.receiver
  rw [hreach] at hreceiver
  rcases hp : reaches mac n pkt rx with _ | p
  · rw [hp] at hreceiver hreceiver'
    refine ⟨⟨?_, ?_, hfilter⟩, rfl⟩
    · rw [step, step, hreceiver, hreceiver']
      exact h.receiver
    · rw [step, step, hreceiver, hreceiver']
      exact h.budgets
  rw [hp] at hreceiver hreceiver'
  obtain ⟨rfl, -⟩ := reaches_some hp
  rcases hnoted : noted with _ | _
  · -- the budgets are still the same
    have hsame := h.budgets hnoted
    rw [hsame] at hreceiver
    rw [hsame]
    refine ⟨⟨⟨(handle_data C n.receiver p.toDataFrame rx.toRx).1.s_catchup, ?_⟩, ?_, hfilter⟩, rfl⟩
    · rw [step, step, hreceiver, hreceiver']
    · rw [step, step, hreceiver, hreceiver']
      exact fun _ => rfl
  · -- the frame needs none
    obtain ⟨b, hb⟩ := h.receiver
    have hcurrent : p.on_channel → UpToDate C n.receiver.s_channels p.sealed := by
      have hneeds := hneeds hnoted
      rw [NeedsNoBudget, hb] at hneeds
      exact hneeds
    obtain ⟨b', hb'⟩ := handle_data_same rx.toRx hcurrent b
    rw [hb] at hreceiver
    rw [hb]
    refine ⟨⟨⟨b', ?_⟩, fun hfalse => absurd hfalse (by decide), hfilter⟩,
      admitted_same hcurrent b rx.now_ms⟩
    rw [step, step, hreceiver, hreceiver']
    exact hb'

lemma alike_other (h : Alike (a :: rest) noted m n)
    (hevent : ∀ pkt rx, a.event ≠ .received pkt rx)
    (horder : ∀ b ∈ rest, InOrder a b) :
    Alike rest noted (step C mac m a.event) (step C mac n a.event) := by
  obtain ⟨b, hb⟩ := h.receiver
  obtain ⟨event, inserted⟩ := a
  match event with
  | .received pkt rx => exact absurd rfl (hevent pkt rx)
  | .maintenance t =>
    refine ⟨⟨b, ?_⟩, ?_, ?_⟩
    · simp only [step, hb]
    · intro hnoted
      simp only [step, h.budgets hnoted]
    · have hwider := (h.filter _ mem_cons_self t rfl).mono fun _ => Harmless.tail
      exact wider_later (a := ⟨.maintenance t, inserted⟩) hwider.purge_both rfl horder
  | .elsewhere .. =>
    refine ⟨⟨b, ?_⟩, ?_, ?_⟩
    · simp only [step, hb]
    · intro hnoted
      simp only [step, h.budgets hnoted]
    · intro a ha t ht
      exact (h.filter a (mem_cons_of_mem _ ha) t ht).mono fun _ => Harmless.tail

lemma accepted_frames_eq {as : List Arrival} (h : Alike as noted m n)
    (hmild : Meets (watch C mac) (Mild C mac) (noted, m) as) (hapart : as.Pairwise Apart)
    (horder : as.Pairwise InOrder) :
    accepted_frames C mac m (as.map Arrival.event) = accepted_frames C mac n (without as) := by
  -- along the run with the added frames; the other one waits while they come in
  induction as generalizing noted m n with
  | nil => rfl
  | cons a as ih =>
    obtain ⟨hmild, hrest⟩ := hmild
    obtain ⟨hapart, haparts⟩ := pairwise_cons.1 hapart
    obtain ⟨horder, horders⟩ := pairwise_cons.1 horder
    rw [map_cons, accepted_frames]
    rcases hin : a.inserted with _ | _
    · have hwithout : without (a :: as) = a.event :: without as := by
        rw [without, filter_cons_of_pos (by rw [hin]; rfl)]
        rfl
      rw [hwithout]
      have hnote : (watch C mac (noted, m) a).1 = noted := by
        rw [watch, hin, Bool.false_and, Bool.or_false]
      obtain ⟨halike, heq⟩ : Alike as noted (step C mac m a.event) (step C mac n a.event) ∧
          accepted C mac m a.event = accepted C mac n a.event := by
        match hevent : a.event with
        | .received pkt rx =>
          rw [Mild, hevent] at hmild
          exact alike_received h hevent hin hmild.1 (hmild.2.2 hin) horder
        | .maintenance _ | .elsewhere .. =>
          rw [← hevent]
          refine ⟨alike_other h (fun _ _ h => ?_) horder, ?_⟩
          · rw [hevent] at h
            nomatch h
          · rw [hevent]
            rfl
      rw [heq]
      congr 1
      refine ih halike ?_ haparts horders
      rw [← hnote]
      exact hrest
    · have hwithout : without (a :: as) = without as := by
        rw [without, filter_cons_of_neg (by rw [hin]; decide)]
        rfl
      obtain ⟨halike, hnot⟩ := alike_inserted h hin hmild hapart horder
      rw [hwithout, hnot]
      exact ih halike hrest haparts horders

/-- **Frames that fail suppress no others, if their keys are not those of later ones.** A run to
which they are added accepts the same frames, and a genuine frame for this node gets to
`handle_data` if no frame with its key came by in the last minute. -/
theorem acceptance_undisturbed {as : List Arrival} (h : Undisturbed C mac n as) :
    accepted_frames C mac n (as.map Arrival.event) = accepted_frames C mac n (without as) ∧
      ∀ (p : DataPacket) (rx : Dispatch.Rx), data_auth_verify mac p = true →
        (p.header.dest_addr = n.receiver.address ∨ p.header.dest_addr = BROADCAST_ADDR) →
        dedup_contains n.s_dedup (header_key p.header) rx.now_ms = false →
        (∀ pkt' rx', Event.received pkt' rx' ∈ as.map Arrival.event →
          pkt'.dedup_key = header_key p.header → DEDUP_EXPIRY_MS ≤ rx.now_ms - rx'.now_ms) →
        let m := (as.map Arrival.event).foldl (step C mac) n
        (mesh_process_rx_packet C mac m (.data p) rx).outcome =
          some (handle_data C m.receiver p.toDataFrame rx.toRx).2 := by
  constructor
  · have hstart : Alike as false n n :=
      ⟨⟨n.receiver.s_catchup, rfl⟩, fun _ => rfl,
        fun a ha t ht => Wider.refl fun e he => h.started e he a ha t ht⟩
    exact accepted_frames_eq hstart h.mild h.apart h.in_order
  · intro p rx hauth hdest hstart hlate m
    have hreach : reaches mac m (.data p) rx = some p := by
      refine if_pos ⟨forgotten hstart hlate, hauth, ?_⟩
      rw [show m.receiver.address = n.receiver.address from run_address C mac n _]
      exact hdest
    rw [(mesh_process_rx_packet_does C mac m (.data p) rx).outcome, hreach]
    rfl

end

/-! ## A message and a frame without a valid tag -/

def garbled (packet_id : UInt32) : DataPacket :=
  { DataAck.hiPacket with
    header := { DataAck.hiPacket.header with packet_id := packet_id }
    auth_hmac := Vector.replicate 8 1
    length_le := DataAck.length_hi_le
    is_data := DataAck.hiPacket.is_data }

def garbledFirst (packet_id : UInt32) : List Arrival :=
  [⟨.received (.data (garbled packet_id)) (DataAck.heardAt 1000 1), true⟩,
    ⟨.received (.data DataAck.hiPacket) (DataAck.heardAt 2000 2), false⟩]

theorem acceptance_undisturbed_other_id :
    (accepted_frames DmDelivery.copyCrypto MeshNet.zeroMac DataAck.quietNode
      ((garbledFirst 99).map Arrival.event)).length = 1 := by
  have h : Undisturbed DmDelivery.copyCrypto MeshNet.zeroMac DataAck.quietNode
      (garbledFirst 99) := by
    refine ⟨by decide, by decide, ?_, fun e he => absurd he not_mem_nil⟩
    refine pairwise_pair.2 fun t ht t' ht' => ?_
    obtain rfl : (1000 : UInt32) = t := Option.some.inj ht
    obtain rfl : (2000 : UInt32) = t' := Option.some.inj ht'
    decide
  rw [(acceptance_undisturbed h).1]
  decide

/-- With the id of the message it keeps the message out. -/
theorem garbled_suppresses :
    fails DmDelivery.copyCrypto MeshNet.zeroMac DataAck.quietNode (DataAck.heardAt 1000 1)
        (.data (garbled 77)) = true ∧
      (accepted_frames DmDelivery.copyCrypto MeshNet.zeroMac DataAck.quietNode
        (without (garbledFirst 77))).length = 1 ∧
      accepted_frames DmDelivery.copyCrypto MeshNet.zeroMac DataAck.quietNode
        ((garbledFirst 77).map Arrival.event) = [] :=
  ⟨by decide +kernel, by decide +kernel, List.length_eq_zero_iff.mp (by decide +kernel)⟩

end BrambleMesh.Suppression
