/-
Texts on a channel, from the senders' calls to the rows of a receiver's store. The receiver
guesses that a payload is a fragment by its first bytes, and puts fragments together by a 16-bit
id.
-/
import BrambleMesh.ChannelFiling

namespace BrambleMesh.TextIntegrity

open Run Fragment Channels List
open ChannelMsg MsgStore HandleData ChannelSend
open ChannelFiling

/-! ## Runs of a receiver -/

structure Arrival (C : DmCrypto) where
  sender : Sender
  channel_idx : Fin MAX_CHANNELS
  text : List UInt8
  message_id : UInt16
  stamps : ℕ → Option Stamp
  frame : DataFrame
  rx : Rx
  sent : frame ∈ mesh_send_channel_uid C sender channel_idx text message_id stamps
  only_key : OnlyKey C frame (sender.s_channels.s_channels channel_idx).key

inductive Event (C : DmCrypto)
  | frame (a : Arrival C)
  | purge (now_ms : UInt32)

def step (C : DmCrypto) (n : Receiver) : Event C → Receiver
  | .frame a => (handle_data C n a.frame a.rx).1
  | .purge now_ms => { n with s_reassembly := reassembly_purge n.s_reassembly now_ms }

def Arrival.whole {C : DmCrypto} (a : Arrival C) : Prop := a.text.length ≤ FRAG_MAX_PLAINTEXT

instance {C : DmCrypto} (a : Arrival C) : Decidable a.whole :=
  inferInstanceAs (Decidable (_ ≤ _))

def Unambiguous (C : DmCrypto) (n : Receiver) : Event C → Prop
  | .frame a =>
    (a.whole → a.text ≠ [] ∧ is_fragment a.text = false) ∧
    (¬ a.whole → ∀ i, slot_of n.s_reassembly a.message_id = some i →
      a.rx.now_ms - (n.s_reassembly i).start_time ≤ FRAG_REASSEMBLY_TIMEOUT_MS →
        ∃ got, (n.s_reassembly i).Holds a.text a.message_id (num_frags a.text.length) got)
  | .purge _ => True

structure Arrives {C : DmCrypto} (n : Receiver) (a : Arrival C) : Prop where
  foreign : a.sender.address ≠ n.address
  held : ∃ i, HasKeyAt n.s_channels i (a.sender.s_channels.s_channels a.channel_idx).key
  admitted : ∀ n' info, open_frame C n a.frame a.rx.now_ms = (n', .ok info) →
    (replay_gate n' a.frame info a.rx.now_ms).2

/-! ## Payloads -/

section

variable {text payload : List UInt8} {message_id : UInt16}

lemma text_payloads_cases (h : payload ∈ text_payloads text message_id) :
    text.length ≤ FRAG_MAX_PLAINTEXT ∧ payload = text ∨
      FRAG_MAX_PLAINTEXT < text.length ∧ num_frags text.length ≤ FRAG_MAX_FRAGMENTS ∧
        ∃ j : Fin FRAG_MAX_FRAGMENTS, j.val < num_frags text.length ∧
          payload = fragment_bytes text message_id (num_frags text.length) j.val := by
  unfold text_payloads at h
  split at h
  · next hlong =>
    right
    rcases hsplit : fragment_split text message_id FRAG_MAX_FRAGMENTS with _ | frags
    · rw [hsplit] at h
      cases h
    · obtain ⟨-, htotal, hfrags⟩ := fragment_split_some hsplit
      rw [hsplit, hfrags] at h
      obtain ⟨j, hj, rfl⟩ := mem_map.1 h
      have hj' := mem_range.1 hj
      exact ⟨hlong, htotal, ⟨j, hj'.trans_le htotal⟩, hj', rfl⟩
  · next hshort => exact .inl ⟨Nat.not_lt.1 hshort, mem_singleton.1 h⟩

lemma is_fragment_fragment_bytes (hlong : FRAG_MAX_PLAINTEXT < text.length)
    (htotal : num_frags text.length ≤ FRAG_MAX_FRAGMENTS) {j : ℕ}
    (hj : j < num_frags text.length) :
    is_fragment (fragment_bytes text message_id (num_frags text.length) j) := by
  have hlen : FRAG_HEADER_SIZE ≤
      (fragment_bytes text message_id (num_frags text.length) j).length := by
    rw [fragment_bytes, length_append]
    exact Nat.le_add_right 4 _
  have htwo : 2 ≤ num_frags text.length := by
    unfold num_frags
    unfold FRAG_MAX_PLAINTEXT at hlong ⊢
    omega
  generalize num_frags text.length = total at *
  have htotal' : total ≤ 4 := htotal
  unfold is_fragment
  rw [frag_header_fragment_bytes]
  simp only [Bool.and_eq_true, decide_eq_true_eq, UInt8.lt_iff_toNat_lt, UInt8.le_iff_toNat_le,
    UInt8.toNat_ofNat', UInt8.toNat_ofNat]
  refine ⟨⟨⟨hlen, ?_⟩, ?_⟩, ?_⟩ <;> omega

end

/-! ## One frame -/

section

variable {C : DmCrypto} {n : Receiver} {f : DataFrame} {rx : Rx} {what : Filing}

lemma one_slot_handle_data (hone : OneSlotPerId n.s_reassembly) :
    OneSlotPerId (handle_data C n f rx).1.s_reassembly := by
  rcases handle_data_cases C n f rx with hquiet | ⟨-, info, n', -, -, hsame, -, hdeliver⟩
  · rw [hquiet.reassembly]
    exact hone
  rw [hdeliver]
  rw [← hsame] at hone
  unfold deliver_text deliver_fragment
  split
  · exact hone
  split
  · have hadd := one_slot_add hone (frag_header info.data) (info.data.drop FRAG_HEADER_SIZE)
      rx.now_ms f.header.packet_id
    split
    · next ctx heq =>
      rw [heq] at hadd
      have hcollect := one_slot_collect hadd (frag_header info.data).message_id
        ((frag_header info.data).frag_total.toNat * FRAG_MAX_PLAINTEXT)
      split
      · next ctx' text hout =>
        rw [hout] at hcollect
        split <;> exact hcollect
      · next ctx' hout =>
        rw [hout] at hcollect
        exact hcollect
    · next ctx answer _ heq =>
      rw [heq] at hadd
      exact hadd
  · exact hone

/-- **What is filed was sent.**  If the receiver guesses right, a frame that makes it file a text
adds one row, with the sender of the frame and the text of the frame. -/
theorem filed_was_sent (hgcm : C.GcmCorrect) (hone : OneSlotPerId n.s_reassembly) (a : Arrival C)
    (hclear : Unambiguous C n (.frame a))
    (hfiled : (handle_data C n a.frame a.rx).2 = .filed what) :
    ∃ row, (handle_data C n a.frame a.rx).1.store.rows =
        (row :: n.store.rows).take MSG_STORE_MAX ∧
      row.peer_addr = a.sender.address ∧ row.text = a.text := by
  obtain ⟨-, payload, hpayload, sent_at, hcarries⟩ := carries_of_mem hgcm a.sent
  obtain ⟨-, info, n', hopen, -, hsame, hstore, hdeliver⟩ := handle_data_filed hfiled
  obtain ⟨i, ch', -, -, -, hinfo⟩ := hcarries.open_frame_eq a.only_key hopen
  have hdata : info.data = payload := by rw [hinfo]; rfl
  rw [hdeliver] at hfiled ⊢
  obtain ⟨m, text, receipt, hm, hfile, -, hroom, hcase⟩ := deliver_text_filed hfiled
  obtain ⟨row, hrows, hpeer, -, -, htext⟩ := rows_file_text m a.frame info hroom receipt a.rx
  refine ⟨row, ?_, ?_, ?_⟩
  · rw [hfile, hrows, hm, hstore]
  · rw [hpeer, hinfo]
    rfl
  rw [htext]
  rw [FiledFrom, hdata, hsame] at hcase
  rcases text_payloads_cases hpayload with ⟨hshort, rfl⟩ | ⟨hlong, htotal, j, hj, rfl⟩
  · -- a whole text is not taken for a fragment
    rcases hcase with ⟨-, -, rfl, -⟩ | ⟨hfrag, -⟩
    · exact take_of_length_le (le_trans hshort (by decide))
    · exact absurd ((hclear.1 hshort).2.symm.trans hfrag) Bool.false_ne_true
  · have hfrag : is_fragment (fragment_bytes a.text a.message_id (num_frags a.text.length) j.val) =
        true := is_fragment_fragment_bytes hlong htotal hj
    rcases hcase with ⟨hnofrag, -⟩ | ⟨-, ctx, ctx', hadd, hcollect, -⟩
    · exact absurd (hnofrag.symm.trans hfrag) Bool.false_ne_true
    rw [frag_header_fragment_bytes, drop_fragment_bytes] at hadd
    rw [frag_header_fragment_bytes] at hcollect
    -- the slot that the fragment completes holds chunks of this text only
    obtain ⟨k, hholds⟩ := holds_of_complete hone (hclear.2 (Nat.not_le.2 hlong)) htotal hj hadd
    have hone' := one_slot_add hone ⟨UInt8.ofNat j.val, UInt8.ofNat (num_frags a.text.length),
      a.message_id⟩ (chunk a.text j.val) a.rx.now_ms a.frame.header.packet_id
    rw [hadd] at hone'
    have hlen : (UInt8.ofNat (num_frags a.text.length)).toNat = num_frags a.text.length := by
      have htotal' : num_frags a.text.length ≤ 4 := htotal
      rw [UInt8.toNat_ofNat']
      omega
    have hroom' : a.text.length ≤
        (UInt8.ofNat (num_frags a.text.length)).toNat * FRAG_MAX_PLAINTEXT := by
      rw [hlen]
      exact length_le_num_frags _
    have hcomplete := reassembly_collect_complete hone' hholds (by omega) htotal hroom'
    exact Option.some.inj (Prod.mk.inj (hcollect.symm.trans hcomplete)).2

lemma whole_text_filed (hgcm : C.GcmCorrect) (a : Arrival C)
    (hclear : Unambiguous C n (.frame a)) (hwhole : a.whole) (harrives : Arrives n a) :
    ∃ what, (handle_data C n a.frame a.rx).2 = .filed what := by
  obtain ⟨-, payload, hpayload, sent_at, hcarries⟩ := carries_of_mem hgcm a.sent
  obtain rfl : payload = a.text := by
    rcases text_payloads_cases hpayload with ⟨-, hsame⟩ | ⟨hlong, -⟩
    · exact hsame
    · exact absurd hwhole (Nat.not_le.2 hlong)
  obtain ⟨i, hi, hkey⟩ := harrives.held
  have hlength := hcarries.length
  have hframe := a.frame.length_le
  obtain ⟨info', hdecrypt⟩ := channel_msg_decrypt_of_key n.s_catchup a.rx.now_ms
    (x := a.frame.sealed) (t := n.s_channels) (i := i)
    (show 8 ≤ a.frame.ciphertext.length by omega) (show a.frame.ciphertext.length ≤ 256 by omega)
    hi (hkey ▸ hcarries.opens)
  rcases hd : channel_msg_decrypt C n.s_channels n.s_catchup a.frame.sealed a.rx.now_ms with
    ⟨t, b, o⟩
  rw [hd] at hdecrypt
  obtain rfl : o = some info' := hdecrypt
  have hopen : open_frame C n a.frame a.rx.now_ms =
      ({ n with s_channels := t, s_catchup := b }, .ok info') := by
    rw [open_frame, if_pos hcarries.flag, open_channel, hd]
  obtain ⟨k, ch', -, -, -, rfl⟩ := hcarries.open_frame_eq a.only_key (congrArg Prod.snd hopen)
  have hct : a.frame.ciphertext ≠ [] := by
    intro hnil
    rw [hnil, length_nil] at hlength
    omega
  have hsrc : a.frame.src_addr ≠ n.address := hcarries.src ▸ harrives.foreign
  rw [handle_data_of_open hct hsrc (.inl hcarries.dest) hopen,
    if_pos (harrives.admitted _ _ hopen), dispatch_chat rfl,
    deliver_text_whole _ _ _ (hclear.1 hwhole).1 (hclear.1 hwhole).2]
  exact ⟨_, rfl⟩

end

/-! ## Runs -/

def FromSender {C : DmCrypto} (es : List (Event C)) (row : StoredMsg) : Prop :=
  ∃ a, Event.frame a ∈ es ∧ row.peer_addr = a.sender.address ∧ row.text = a.text

structure Inv {C : DmCrypto} (es : List (Event C)) (n : Receiver) : Prop where
  one : OneSlotPerId n.s_reassembly
  rows : ∀ row ∈ n.store.rows, FromSender es row

lemma Inv.step {C : DmCrypto} (hgcm : C.GcmCorrect) {es : List (Event C)} {n : Receiver}
    {e : Event C} (h : Inv es n) (hmem : e ∈ es) (hclear : Unambiguous C n e) :
    Inv es (step C n e) := by
  cases e with
  | purge now_ms => exact ⟨one_slot_purge h.one now_ms, h.rows⟩
  | frame a =>
    refine ⟨one_slot_handle_data h.one, ?_⟩
    rcases handle_data_cases C n a.frame a.rx with hquiet | ⟨-, info, n', -, -, -, hstore,
      hdeliver⟩
    · intro row hrow
      rw [TextIntegrity.step, hquiet.store] at hrow
      exact h.rows row hrow
    · by_cases hfiled : ∃ what, (handle_data C n a.frame a.rx).2 = .filed what
      · obtain ⟨what, hfiled⟩ := hfiled
        obtain ⟨new, hrows, hpeer, htext⟩ := filed_was_sent hgcm h.one a hclear hfiled
        intro row hrow
        rw [TextIntegrity.step, hrows] at hrow
        rcases mem_cons.1 (mem_of_mem_take hrow) with rfl | hold
        · exact ⟨a, hmem, hpeer, htext⟩
        · exact h.rows row hold
      · intro row hrow
        rw [not_exists, hdeliver] at hfiled
        rw [TextIntegrity.step, hdeliver, deliver_text_store hfiled, hstore] at hrow
        exact h.rows row hrow

/-- **Texts stay intact.** Where each event is unambiguous in the state it meets, every row of the
store is a text that its source has sent, and every whole text whose frame arrives is filed as the
newest row. -/
theorem texts_intact {C : DmCrypto} (hgcm : C.GcmCorrect) {n : Receiver}
    (htable : n.s_reassembly = reassembly_init) (hstore : n.store.rows = []) (es : List (Event C))
    (hrun : Meets (step C) (Unambiguous C) n es) :
    (∀ row ∈ (es.foldl (step C) n).store.rows, FromSender es row) ∧
    ∀ pre a post, es = pre ++ .frame a :: post → a.whole → Arrives (pre.foldl (step C) n) a →
      ∃ row, (step C (pre.foldl (step C) n) (.frame a)).store.newest = some row ∧
        row.peer_addr = a.sender.address ∧ row.text = a.text := by
  have hinit : Inv es n := by
    refine ⟨?_, fun row hrow => ?_⟩
    · intro i j hi
      rw [htable] at hi
      cases hi
    · rw [hstore] at hrow
      cases hrow
  have hstep : ∀ m e, Inv es m → (Unambiguous C m e ∧ e ∈ es) → Inv es (step C m e) :=
    fun m e hm he => hm.step hgcm he.2 he.1
  have hmem : ∀ fs, fs ⊆ es → ∀ m, Meets (step C) (fun _ e => e ∈ es) m fs :=
    fun fs hfs m => meets_of_forall (fun _ e he => hfs he) m
  constructor
  · exact (foldl_invariant hstep (meets_and.2 ⟨hrun, hmem es (Subset.refl _) n⟩) hinit).rows
  · intro pre a post heq hwhole harrives
    rw [heq] at hrun
    obtain ⟨hpre, hclear, -⟩ := (meets_append n pre (.frame a :: post)).1 hrun
    have hsub : pre ⊆ es := heq ▸ subset_append_left _ _
    have hinv := foldl_invariant hstep (meets_and.2 ⟨hpre, hmem pre hsub n⟩) hinit
    obtain ⟨what, hfiled⟩ := whole_text_filed hgcm a hclear hwhole harrives
    obtain ⟨row, hrows, hpeer, htext⟩ := filed_was_sent hgcm hinv.one a hclear hfiled
    refine ⟨row, ?_, hpeer, htext⟩
    rw [Store.newest, step, hrows]
    rfl

/-! ## Two senders -/

def numberedStamps : ℕ → Option Stamp := fun k =>
  some ⟨UInt32.ofNat (77 + k), 7, #v[0, 0, 0, 7, 0, 9, 0, 0, 0, 0, 0, UInt8.ofNat (k + 1)], 1000⟩

local instance max_channels_neZero : NeZero MAX_CHANNELS := ⟨by decide⟩

def framesOf (address : UInt32) (text : List UInt8) (message_id : UInt16) : List DataFrame :=
  mesh_send_channel_uid toyCrypto.toDmCrypto ⟨address, tableAfter twoChannels, ⟨0, 0, false⟩⟩ 2 text
    message_id numberedStamps

def arrivalOf (address : UInt32) (text : List UInt8) (message_id : UInt16) (k : ℕ)
    (hk : k < (framesOf address text message_id).length)
    (htag : ((framesOf address text message_id).get ⟨k, hk⟩).tag = Vector.replicate 16 1) :
    Arrival toyCrypto.toDmCrypto where
  sender := ⟨address, tableAfter twoChannels, ⟨0, 0, false⟩⟩
  channel_idx := 2
  text := text
  message_id := message_id
  stamps := numberedStamps
  frame := (framesOf address text message_id).get ⟨k, hk⟩
  rx := ⟨1000, ⟨0, 0, 1⟩⟩
  sent := List.get_mem _ _
  only_key := show OnlyKey _ _ ((tableAfter twoChannels).s_channels 2).key from
    twoChannels_key ▸ toyCrypto_onlyKey htag

def longText (k : ℕ) (hk : k < (framesOf 7 (List.replicate 155 97) 5).length)
    (htag : ((framesOf 7 (List.replicate 155 97) 5).get ⟨k, hk⟩).tag = Vector.replicate 16 1) :
    Event toyCrypto.toDmCrypto :=
  .frame (arrivalOf 7 (List.replicate 155 97) 5 k hk htag)

def shortText : Event toyCrypto.toDmCrypto :=
  .frame (arrivalOf 8 [72, 105] 0 0 (by decide +kernel) (by decide +kernel))

def mixedRun : List (Event toyCrypto.toDmCrypto) :=
  [longText 0 (by decide +kernel) (by decide +kernel), shortText,
    longText 1 (by decide +kernel) (by decide +kernel)]

lemma mixedRun_unambiguous :
    Meets (step toyCrypto.toDmCrypto) (Unambiguous toyCrypto.toDmCrypto) (toyReceiver twoChannels)
      mixedRun := by
  refine ⟨⟨fun h => absurd h (by decide +kernel), fun _ i hslot => ?_⟩,
    ⟨fun _ => by decide, fun h => ?_⟩,
    ⟨fun h => absurd h (by decide +kernel), fun _ i hslot _ => ?_⟩, trivial⟩
  · have hnone : slot_of (toyReceiver twoChannels).s_reassembly 5 = none := by decide +kernel
    exact absurd (hnone.symm.trans hslot) (Option.some_ne_none _).symm
  · exact absurd (show [72, 105].length ≤ FRAG_MAX_PLAINTEXT by decide) h
  · -- the first fragment is in slot 0
    have hfirst : slot_of (step _ (step _ (toyReceiver twoChannels) (longText 0 (by decide +kernel)
        (by decide +kernel))) shortText).s_reassembly 5 = some 0 := by decide +kernel
    obtain rfl : 0 = i := Option.some.inj (hfirst.symm.trans hslot)
    exact ⟨{0}, ⟨by decide +kernel, by decide +kernel, by decide +kernel, by decide +kernel,
      by decide +kernel⟩⟩

theorem texts_intact_mixedRun :
    (∀ row ∈ (mixedRun.foldl (step toyCrypto.toDmCrypto) (toyReceiver twoChannels)).store.rows,
      FromSender mixedRun row) ∧
    (mixedRun.foldl (step toyCrypto.toDmCrypto) (toyReceiver twoChannels)).store.rows.map
        (fun row => (row.peer_addr, row.text)) =
      [(7, List.replicate 155 97), (8, [72, 105])] :=
  ⟨(texts_intact toyCrypto_gcmCorrect rfl rfl mixedRun mixedRun_unambiguous).1, by decide +kernel⟩

def headerText : Arrival toyCrypto.toDmCrypto :=
  arrivalOf 7 [0, 2, 49, 50, 51] 0 0 (by decide +kernel) (by decide +kernel)

def otherLongText : Event toyCrypto.toDmCrypto :=
  .frame (arrivalOf 8 (List.replicate 155 98) 5 1 (by decide +kernel) (by decide +kernel))

def crossedRun : List (Event toyCrypto.toDmCrypto) :=
  [longText 0 (by decide +kernel) (by decide +kernel), otherLongText]

/-- A whole text that looks like a fragment is not filed; and two texts with one id are put
together. -/
theorem wrong_guesses :
    (headerText.whole ∧ Arrives (toyReceiver twoChannels) headerText ∧
      ∀ what, (handle_data toyCrypto.toDmCrypto (toyReceiver twoChannels) headerText.frame
        headerText.rx).2 ≠ .filed what) ∧
    ∃ row ∈ (crossedRun.foldl (step toyCrypto.toDmCrypto) (toyReceiver twoChannels)).store.rows,
      ¬ FromSender crossedRun row := by
  refine ⟨⟨by decide, ⟨by decide, ⟨2, by decide⟩, ?_⟩, ?_⟩, ?_⟩
  · intro n' info hopen
    have hinfo : (open_frame toyCrypto.toDmCrypto (toyReceiver twoChannels) headerText.frame
        headerText.rx.now_ms).2 = .ok ⟨2, 0, 1, 7, 1, [0, 2, 49, 50, 51], 2⟩ := by decide
    have hgate : (replay_gate (open_frame toyCrypto.toDmCrypto (toyReceiver twoChannels)
        headerText.frame headerText.rx.now_ms).1 headerText.frame
        ⟨2, 0, 1, 7, 1, [0, 2, 49, 50, 51], 2⟩ headerText.rx.now_ms).2 = true := by decide +kernel
    rw [hopen] at hinfo hgate
    rw [Opened.ok.inj hinfo]
    exact hgate
  · intro what hfiled
    have hfragment : (handle_data toyCrypto.toDmCrypto (toyReceiver twoChannels) headerText.frame
        headerText.rx).2 = .fragment .pending := by decide +kernel
    nomatch hfragment.symm.trans hfiled
  · have hrows : (crossedRun.foldl (step toyCrypto.toDmCrypto)
        (toyReceiver twoChannels)).store.rows.map (fun row => (row.peer_addr, row.text)) =
        [(8, replicate 154 97 ++ [98])] := by decide +kernel
    obtain ⟨row, hrow, hfields⟩ := mem_map.1 (hrows ▸ mem_singleton_self _)
    refine ⟨row, hrow, ?_⟩
    rintro ⟨a, ha, -, htext⟩
    have hmixed : a.text = replicate 154 97 ++ [98] :=
      htext.symm.trans (Prod.mk.inj hfields).2
    rcases mem_cons.1 ha with hfirst | hlast
    · rw [Event.frame.inj hfirst] at hmixed
      exact absurd hmixed (by decide)
    · rw [Event.frame.inj (mem_singleton.1 hlast)] at hmixed
      exact absurd hmixed (by decide)

end BrambleMesh.TextIntegrity
