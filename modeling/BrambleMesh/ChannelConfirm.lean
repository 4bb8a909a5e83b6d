/-
Whether a confirmation finds the message it confirms (`confirm_data_delivery` of
main/mesh_task.c). The sender's row is under the id of the first frame; an ACK names the frame
that completed the text, a receipt the one that opened its reassembly slot.
-/
import BrambleMesh.TextSend
import BrambleMesh.Dispatch
import BrambleMesh.MsgPersist

namespace BrambleMesh.ChannelConfirm

open Run Fragment Channels Function List
open MsgStore HandleData ChannelSend ChannelFiling
open Dispatch TextSend
open Discovery (NetworkMac)
open MsgPersist (Dev find_newest with_status write_row)

/-! ## The frame that opened a slot -/

def Marked (ctx : ReassemblyCtx) : Prop := ∀ j, (ctx j).active → (ctx j).received_mask ≠ 0

def Grows (ctx ctx' : ReassemblyCtx) (packet_id : UInt32) : Prop :=
  ∀ j, (ctx' j).active → (ctx' j).received_mask ≠ 0 ∧
    ((ctx j).active ∧ (ctx' j).message_id = (ctx j).message_id ∧
        (ctx' j).first_packet_id = (ctx j).first_packet_id ∨
      slot_of ctx (ctx' j).message_id = none ∧ (ctx' j).first_packet_id = packet_id)

lemma frag_bit_ne_zero {frag_index : UInt8} (h : frag_index < 4) : frag_bit frag_index ≠ 0 := by
  have hbits : ∀ j : Fin FRAG_MAX_FRAGMENTS, frag_bit (UInt8.ofNat j.val) ≠ 0 := by decide
  have hj := hbits ⟨frag_index.toNat, UInt8.lt_iff_toNat_lt.1 h⟩
  rwa [UInt8.ofNat_toNat] at hj

lemma frag_bit_ne_full {frag_index total : UInt8} (hindex : frag_index < 4) (htwo : 1 < total)
    (hfour : total ≤ 4) : frag_bit frag_index ≠ full_mask total := by
  have hbits : ∀ j : Fin FRAG_MAX_FRAGMENTS, ∀ t : Fin 3,
      frag_bit (UInt8.ofNat j.val) ≠ full_mask (UInt8.ofNat (t.val + 2)) := by decide
  have htwo' : 1 < total.toNat := UInt8.lt_iff_toNat_lt.1 htwo
  have hfour' : total.toNat ≤ 4 := UInt8.le_iff_toNat_le.1 hfour
  have hjt := hbits ⟨frag_index.toNat, UInt8.lt_iff_toNat_lt.1 hindex⟩ ⟨total.toNat - 2, by omega⟩
  rwa [UInt8.ofNat_toNat, Nat.sub_add_cancel htwo', UInt8.ofNat_toNat] at hjt

section

variable {ctx ctx' ctx'' : ReassemblyCtx} {i : Fin FRAG_MAX_REASSEMBLIES} {packet_id : UInt32}
  {hdr : FragHeader} {frag_data : List UInt8}

lemma Marked.grows (h : Marked ctx) (packet_id : UInt32) : Grows ctx ctx packet_id :=
  fun j hj => ⟨h j hj, Or.inl ⟨hj, rfl, rfl⟩⟩

lemma Grows.close (h : Grows ctx ctx' packet_id)
    (hopen : ∀ j, (ctx'' j).active → ctx'' j = ctx' j) : Grows ctx ctx'' packet_id := by
  intro j hj
  have heq := hopen j hj
  rw [heq] at hj ⊢
  exact h j hj

lemma open_update_closed (j : Fin FRAG_MAX_REASSEMBLIES)
    (h : (update ctx i (closed (ctx i)) j).active) :
    update ctx i (closed (ctx i)) j = ctx j := by
  by_cases hji : j = i
  · subst hji
    rw [update_self] at h
    cases h
  · exact update_of_ne hji _ _

lemma open_purge (now_ms : UInt32) (j : Fin FRAG_MAX_REASSEMBLIES)
    (h : (reassembly_purge ctx now_ms j).active) :
    reassembly_purge ctx now_ms j = ctx j := by
  unfold reassembly_purge at h ⊢
  split at h
  · cases h
  · next hkeep => rw [if_neg hkeep]

lemma open_collect (message_id : UInt16) (out_max : ℕ) (j : Fin FRAG_MAX_REASSEMBLIES)
    (h : ((reassembly_collect ctx message_id out_max).1 j).active) :
    (reassembly_collect ctx message_id out_max).1 j = ctx j := by
  unfold reassembly_collect at h ⊢
  rcases hslot : slot_of ctx message_id with _ | i
  · rfl
  · rw [hslot] at h
    dsimp only at h ⊢
    split_ifs at h ⊢
    · rfl
    · rfl
    · exact open_update_closed j h

lemma Marked.grows_update (h : Marked ctx) {slot : Slot} (hmask : slot.received_mask ≠ 0)
    (hslot : (ctx i).active ∧ slot.message_id = (ctx i).message_id ∧
        slot.first_packet_id = (ctx i).first_packet_id ∨
      slot_of ctx slot.message_id = none ∧ slot.first_packet_id = packet_id) :
    Grows ctx (update ctx i slot) packet_id := by
  intro j hj
  by_cases hji : j = i
  · subst hji
    rw [update_self]
    exact ⟨hmask, hslot⟩
  · rw [update_of_ne hji] at hj ⊢
    exact h.grows packet_id j hj

lemma Marked.grows_known (h : Marked ctx) (hi : (ctx i).active) :
    Grows ctx (add_to_slot ctx i hdr frag_data packet_id).1 packet_id := by
  have hmask := h i hi
  have hnoted : noted (ctx i) packet_id = ctx i := if_neg hmask
  unfold add_to_slot
  rw [hnoted]
  split
  · exact h.grows packet_id
  split
  · exact h.grows_update hmask (.inl ⟨hi, rfl, rfl⟩)
  · exact h.grows_update (fun hor => hmask (UInt8.or_eq_zero_iff.1 hor).1) (.inl ⟨hi, rfl, rfl⟩)

lemma add_to_opened (ctx : ReassemblyCtx) (i : Fin FRAG_MAX_REASSEMBLIES) (hdr : FragHeader)
    (frag_data : List UInt8) (now_ms packet_id : UInt32) :
    ∃ slot : Slot, slot.message_id = hdr.message_id ∧ slot.first_packet_id = packet_id ∧
      slot.received_mask = frag_bit hdr.frag_index ∧
      add_to_slot (update ctx i (opened hdr now_ms (ctx i))) i hdr frag_data packet_id =
        (update ctx i slot,
          if frag_bit hdr.frag_index = full_mask hdr.frag_total then .complete else .pending) := by
  have hself : update ctx i (opened hdr now_ms (ctx i)) i = opened hdr now_ms (ctx i) :=
    update_self ..
  have hzero : (opened hdr now_ms (ctx i)).received_mask = 0 := rfl
  have htotal : (opened hdr now_ms (ctx i)).total = hdr.frag_total := rfl
  refine ⟨stored (noted (opened hdr now_ms (ctx i)) packet_id) hdr.frag_index frag_data, ?_, ?_, ?_,
    ?_⟩
  · rfl
  · rw [stored, noted, if_pos hzero]
  · exact UInt8.zero_or
  · unfold add_to_slot
    rw [hself, htotal, if_neg (not_not.2 rfl), hzero, UInt8.zero_and, if_neg (not_not.2 rfl),
      UInt8.zero_or, update_idem]

lemma Marked.grows_add (h : Marked ctx) (hdr : FragHeader) (frag_data : List UInt8)
    (now_ms packet_id : UInt32) :
    Grows ctx (reassembly_add ctx hdr frag_data now_ms packet_id).1 packet_id := by
  unfold reassembly_add
  split
  · exact h.grows packet_id
  next hindex =>
  split
  · exact h.grows packet_id
  next hfour =>
  split
  · exact h.grows packet_id
  rcases hslot : slot_of ctx hdr.message_id with _ | i
  · rcases Table.find (fun s : Slot => !s.active) ctx with _ | i
    · exact h.grows packet_id
    · obtain ⟨slot, hid, hfirst, hmask, heq⟩ :=
        add_to_opened ctx i hdr frag_data now_ms packet_id
      dsimp only
      rw [heq]
      have hlt : hdr.frag_index < 4 :=
        UInt8.lt_of_lt_of_le (UInt8.not_le.1 hindex) (UInt8.not_lt.1 hfour)
      exact h.grows_update (hmask ▸ frag_bit_ne_zero hlt) (.inr ⟨hid ▸ hslot, hfirst⟩)
  · dsimp only
    split
    · exact (h.grows packet_id).close open_update_closed
    · exact h.grows_known (slot_of_spec hslot).1

lemma slot_of_complete {now_ms : UInt32} (htwo : 1 < hdr.frag_total)
    (h : reassembly_add ctx hdr frag_data now_ms packet_id = (ctx', .complete)) :
    slot_of ctx hdr.message_id ≠ none := by
  intro hnone
  unfold reassembly_add at h
  by_cases hindex : hdr.frag_total ≤ hdr.frag_index
  · rw [if_pos hindex] at h
    cases h
  rw [if_neg hindex] at h
  by_cases hfour : 4 < hdr.frag_total
  · rw [if_pos hfour] at h
    cases h
  rw [if_neg hfour] at h
  by_cases hlong : FRAG_MAX_PLAINTEXT < frag_data.length
  · rw [if_pos hlong] at h
    cases h
  rw [if_neg hlong, hnone] at h
  rcases hfree : Table.find (fun s : Slot => !s.active) ctx with _ | i
  · rw [hfree] at h
    cases h
  · obtain ⟨slot, -, -, -, heq⟩ := add_to_opened ctx i hdr frag_data now_ms packet_id
    have hle : hdr.frag_total ≤ 4 := UInt8.not_lt.1 hfour
    have hfull := frag_bit_ne_full (UInt8.lt_of_lt_of_le (UInt8.not_le.1 hindex) hle) htwo hle
    rw [hfree] at h
    dsimp only at h
    rw [heq, if_neg hfull] at h
    cases h

end

lemma grows_handle_data (C : DmCrypto) {n : Receiver} (h : Marked n.s_reassembly) (f : DataFrame)
    (rx : HandleData.Rx) :
    Grows n.s_reassembly (handle_data C n f rx).1.s_reassembly f.header.packet_id := by
  rcases handle_data_cases C n f rx with hquiet | ⟨-, info, m, -, -, hsame, -, hdeliver⟩
  · rw [hquiet.reassembly]
    exact h.grows _
  rw [hdeliver, ← hsame]
  rw [← hsame] at h
  unfold deliver_text
  split
  · exact h.grows _
  split
  · unfold deliver_fragment
    have hadd := h.grows_add (frag_header info.data) (info.data.drop FRAG_HEADER_SIZE) rx.now_ms
      f.header.packet_id
    generalize reassembly_add m.s_reassembly (frag_header info.data)
      (info.data.drop FRAG_HEADER_SIZE) rx.now_ms f.header.packet_id = added at hadd ⊢
    obtain ⟨ctx, _ | _ | _⟩ := added
    · exact hadd
    · exact hadd
    · have hcollect := hadd.close (open_collect (frag_header info.data).message_id
        ((frag_header info.data).frag_total.toNat * FRAG_MAX_PLAINTEXT))
      dsimp only
      generalize reassembly_collect ctx (frag_header info.data).message_id
        ((frag_header info.data).frag_total.toNat * FRAG_MAX_PLAINTEXT) = out at hcollect ⊢
      obtain ⟨ctx', _ | text⟩ := out
      · exact hcollect
      · dsimp only
        split <;> exact hcollect
  · exact h.grows _

/-! ## Runs of a receiver -/

structure Traced where
  node : Node
  opener : UInt16 → Option DataPacket

def note_opener (before after : ReassemblyCtx) (p : DataPacket)
    (opener : UInt16 → Option DataPacket) : UInt16 → Option DataPacket := fun message_id =>
  if slot_of before message_id = none ∧ slot_of after message_id ≠ none then some p
  else opener message_id

def step (C : DmCrypto) (mac : NetworkMac) (t : Traced) (ev : Event) : Traced :=
  let node := Dispatch.step C mac t.node ev
  match ev with
  | .received (.data p) _ =>
    ⟨node, note_opener t.node.receiver.s_reassembly node.receiver.s_reassembly p t.opener⟩
  | _ => ⟨node, t.opener⟩

def Idle (n : Node) : Prop := ∀ i, (n.receiver.s_reassembly i).active = false

def Inv (t : Traced) : Prop :=
  ∀ i, (t.node.receiver.s_reassembly i).active →
    (t.node.receiver.s_reassembly i).received_mask ≠ 0 ∧
    ∃ q, t.opener (t.node.receiver.s_reassembly i).message_id = some q ∧
      q.header.packet_id = (t.node.receiver.s_reassembly i).first_packet_id

section

variable {C : DmCrypto} {mac : NetworkMac} {t : Traced}

lemma Inv.marked (h : Inv t) : Marked t.node.receiver.s_reassembly := fun i hi => (h i hi).1

lemma reaches_data {n : Node} {p q : DataPacket} {rx : Dispatch.Rx}
    (h : reaches mac n (.data p) rx = some q) : q = p := by
  unfold reaches at h
  dsimp only at h
  split at h
  · exact (Option.some.inj h).symm
  · cases h

lemma Inv.close (h : Inv t) {node : Node}
    (hopen : ∀ i, (node.receiver.s_reassembly i).active →
      node.receiver.s_reassembly i = t.node.receiver.s_reassembly i) : Inv ⟨node, t.opener⟩ := by
  intro i hi
  have heq := hopen i hi
  rw [heq] at hi ⊢
  exact h i hi

lemma Inv.data (h : Inv t) {node : Node} {p : DataPacket}
    (hgrows : Grows t.node.receiver.s_reassembly node.receiver.s_reassembly p.header.packet_id) :
    Inv ⟨node,
      note_opener t.node.receiver.s_reassembly node.receiver.s_reassembly p t.opener⟩ := by
  intro i hi
  obtain ⟨hmask, hslot⟩ := hgrows i hi
  refine ⟨hmask, ?_⟩
  dsimp only
  unfold note_opener
  rcases hslot with ⟨hactive, hid, hfirst⟩ | ⟨hnone, hfirst⟩
  · -- the message had this slot before
    obtain ⟨-, q, hq, hqid⟩ := h i hactive
    refine ⟨q, ?_, hqid.trans hfirst.symm⟩
    rw [hid, if_neg fun hc => slot_of_eq_none.1 hc.1 i hactive rfl]
    exact hq
  · refine ⟨p, if_pos ⟨hnone, fun hafter => ?_⟩, hfirst.symm⟩
    exact slot_of_eq_none.1 hafter i hi rfl

lemma inv_step (h : Inv t) (ev : Event) : Inv (step C mac t ev) := by
  cases ev with
  | received pkt rx =>
    have hrec := (mesh_process_rx_packet_does C mac t.node pkt rx).receiver
    cases pkt with
    | data p =>
      refine h.data ?_
      rw [Dispatch.step, hrec]
      rcases hreach : reaches mac t.node (.data p) rx with _ | q
      · exact h.marked.grows _
      · obtain rfl := reaches_data hreach
        exact grows_handle_data C h.marked _ _
    | receipt r | other k =>
      refine h.close fun i _ => ?_
      rw [Dispatch.step, hrec]
      rfl
  | maintenance now => exact h.close (open_purge now)
  | elsewhere => exact h.close fun _ _ => rfl

lemma inv_run {n : Node} (hidle : Idle n) (opener : UInt16 → Option DataPacket)
    (es : List Event) : Inv (es.foldl (step C mac) ⟨n, opener⟩) := by
  have hkeep : ∀ t ev, Inv t → True → Inv (step C mac t ev) := fun _ ev h _ => inv_step h ev
  refine foldl_invariant (C := fun _ _ => True) hkeep (meets_of_forall (fun _ _ _ => trivial) _) ?_
  intro i hi
  exact absurd (hidle i ▸ hi) Bool.false_ne_true

end

/-! ## What a confirmation names -/

def acked_id : Dispatch.Sent → Option UInt32
  | .ack a => some a.ack_packet_id
  | _ => none

def confirmed_ids (eff : Effect) : List UInt32 :=
  eff.sent.filterMap acked_id ++
    match eff.outcome with
    | some (.filed what) => if what.direction = .INCOMING then [] else [what.receipt_packet_id]
    | _ => []

def IsCopy (f : DataFrame) (p : DataPacket) : Prop :=
  p.toDataFrame = { f with header := { f.header with hop_limit := p.header.hop_limit } }
deriving Decidable

lemma IsCopy.packet_id {f : DataFrame} {p : DataPacket} (h : IsCopy f p) :
    p.header.packet_id = f.header.packet_id := by rw [h]

section

variable {C : DmCrypto} {mac : NetworkMac}

lemma sent_by_send_ack {n : Node} {dest_addr ack_packet_id id : UInt32} {rx : Dispatch.Rx}
    {x : Dispatch.Sent} (hx : x ∈ (send_ack n dest_addr ack_packet_id rx).2)
    (hid : acked_id x = some id) : ack_packet_id = id := by
  unfold send_ack at hx
  rcases hseq : MeshNet.control_seq_next n.control rx.draw with _ | ⟨seq, control⟩
  · rw [hseq] at hx
    cases hx
  · rw [hseq] at hx
    dsimp only at hx
    split at hx
    · obtain rfl := mem_singleton.1 hx
      exact Option.some.inj hid
    · cases hx

lemma mem_confirmed_ids {n : Node} {p : DataPacket} {rx : Dispatch.Rx} {what : Filing}
    (hfiled : (mesh_process_rx_packet C mac n (.data p) rx).outcome = some (.filed what))
    {id : UInt32} (h : id ∈ confirmed_ids (mesh_process_rx_packet C mac n (.data p) rx)) :
    id = if what.direction = .INCOMING then p.header.packet_id else what.receipt_packet_id := by
  -- the frame got to `handle_data`
  have hdoes := (mesh_process_rx_packet_does C mac n (.data p) rx).outcome
  rw [hfiled] at hdoes
  obtain ⟨q, hreach, hq⟩ := Option.map_eq_some_iff.1 hdoes.symm
  obtain rfl := reaches_data hreach
  obtain ⟨hnew, hmac, hdest⟩ : _ ∧ _ ∧ _ := by
    by_contra hno
    exact Option.some_ne_none _ (hreach.symm.trans (if_neg hno))
  obtain ⟨routes, heq⟩ := process_data_deliver (n := filtered n (.data q) rx) C rx hmac hdest
  have hout : handle_data C (filtered n (.data q) rx).receiver q.toDataFrame rx.toRx =
      ((handle_data C n.receiver q.toDataFrame rx.toRx).1, .filed what) := Prod.ext rfl hq
  rw [process_of_new hnew, heq, hout] at h
  dsimp only [confirmed_ids, confirm_data_delivery] at h
  by_cases hin : what.direction = .INCOMING
  · rw [if_pos hin]
    rw [if_pos hin, if_pos hin, append_nil] at h
    obtain ⟨x, hx, hxid⟩ := mem_filterMap.1 h
    exact (sent_by_send_ack hx hxid).symm
  · rw [if_neg hin]
    rw [if_neg hin, if_neg hin] at h
    exact mem_singleton.1 h

lemma receipt_id {t : Traced} (hinv : Inv t) {p : DataPacket} {rx : HandleData.Rx} {what : Filing}
    (hfiled : (handle_data C t.node.receiver p.toDataFrame rx).2 = .filed what) :
    ∃ info, (open_frame C t.node.receiver p.toDataFrame rx.now_ms).2 = .ok info ∧
      (is_fragment info.data = false ∧ what.receipt_packet_id = p.header.packet_id ∨
        is_fragment info.data ∧
          ∃ q, t.opener (frag_header info.data).message_id = some q ∧
            what.receipt_packet_id = q.header.packet_id) := by
  obtain ⟨-, info, m, hopen, -, hsame, -, hdeliver⟩ := handle_data_filed hfiled
  rw [hdeliver] at hfiled
  obtain ⟨-, text, receipt, -, -, rfl, -, hcase⟩ := deliver_text_filed hfiled
  refine ⟨info, hopen, ?_⟩
  rcases hcase with ⟨hno, -, -, rfl⟩ | ⟨hfrag, ctx, ctx', hadd, hcollect, rfl⟩
  · exact .inl ⟨hno, rfl⟩
  refine .inr ⟨hfrag, ?_⟩
  rw [hsame] at hadd
  obtain ⟨i, hslot, -⟩ := reassembly_collect_some hcollect
  obtain ⟨hactive, hid⟩ := slot_of_spec hslot
  have htwo : 1 < (frag_header info.data).frag_total := by
    simp only [is_fragment, Bool.and_eq_true, decide_eq_true_eq] at hfrag
    exact hfrag.1.1.2
  have hgrows := hinv.marked.grows_add (frag_header info.data) (info.data.drop FRAG_HEADER_SIZE)
    rx.now_ms p.header.packet_id
  rw [hadd] at hgrows
  rcases (hgrows i hactive).2 with ⟨hbefore, hid', hfirst⟩ | ⟨hnone, -⟩
  · obtain ⟨-, q, hq, hqid⟩ := hinv i hbefore
    refine ⟨q, ?_, ?_⟩
    · rw [← hid, hid']
      exact hq
    · rw [hqid, ← hfirst]
      show reassembly_get_first_packet_id ctx _ = _
      rw [reassembly_get_first_packet_id, hslot]
  · rw [hid] at hnone
    exact absurd hnone (slot_of_complete htwo hadd)

end

/-! ## The row of the sender -/

lemma find_newest_append {newer older : List StoredMsg} {row : StoredMsg}
    {p : StoredMsg → Bool} (hnewer : ∀ x ∈ newer, p x = false) (hrow : p row = true) :
    find_newest p (newer ++ row :: older) = some (newer.length, row) := by
  have hidx : (newer ++ row :: older).findIdx? p = some newer.length := by
    rw [findIdx?_append, findIdx?_eq_none_iff.2 hnewer, findIdx?_cons, hrow]
    simp
  rw [find_newest, hidx]
  simp

lemma update_delivers {dev : Dev} {newer older : List StoredMsg} {row : StoredMsg}
    (hrows : dev.store.rows = newer ++ row :: older) (hid : row.packet_id ≠ 0)
    (hnewer : ∀ x ∈ newer, x.packet_id ≠ row.packet_id) (route_hops : List UInt32) :
    ∃ row', (MsgPersist.msg_store_update_status_with_route dev row.packet_id .DELIVERED
        route_hops).1.store.rows = newer ++ row' :: older ∧
      row'.status = .DELIVERED ∧ row'.uid = row.uid ∧ row'.text = row.text := by
  have hstatus : with_status row .DELIVERED = { row with status := .DELIVERED } := by
    have hsticky : MsgPersist.sticky row .DELIVERED = false := by
      exact Bool.and_false _
    rw [with_status, hsticky]
    rfl
  have hfind : find_newest (fun r => r.packet_id == row.packet_id) dev.store.rows =
      some (newer.length, row) := by
    rw [hrows]
    exact find_newest_append (fun x hx => beq_false_of_ne (hnewer x hx)) (beq_self_eq_true _)
  have hset : ∀ row', (newer ++ row :: older).set newer.length row' = newer ++ row' :: older := by
    intro row'
    rw [set_append_right _ _ (Nat.le_refl _), Nat.sub_self, set_cons_zero]
  unfold MsgPersist.msg_store_update_status_with_route
  rw [if_neg hid, hfind]
  dsimp only
  rw [hstatus]
  split
  · refine ⟨{ row with status := .DELIVERED }, ?_, rfl, rfl, rfl⟩
    rw [write_row, hrows]
    exact hset _
  · refine ⟨{ row with
      status := .DELIVERED, route_hops := route_hops.take MSG_ROUTE_MAX_HOPS }, ?_, rfl, rfl, rfl⟩
    rw [write_row, hrows]
    exact hset _

inductive Call
  | broadcast (gate_ok : Bool)
  | channel (channel_idx : Fin MAX_CHANNELS)

def Call.run (C : DmCrypto) (s : Sender) (o : Outbox) (text : List UInt8) (message_id : UInt16)
    (fates : ℕ → Fate) (uptime_s : UInt32) : Call → List (Option DataFrame) × Outbox
  | .broadcast gate_ok =>
    let r := mesh_send_broadcast C s o text message_id gate_ok fates uptime_s
    (r.frames, r.outbox)
  | .channel channel_idx =>
    let r := mesh_send_channel C s o channel_idx text message_id fates uptime_s
    (r.frames, r.outbox)

lemma Course.row {α : Type} {r : TextSend.Sent α} {o : Outbox} {success files : Prop}
    {text : List UInt8} {message_id : UInt16} (h : Course r o success text message_id files)
    {first : DataFrame} {rest : List (Option DataFrame)} (hframes : r.frames = some first :: rest)
    (hid : first.header.packet_id ≠ 0) (hfiles : first_id r.frames ≠ 0 → files) :
    ∃ row, r.outbox.store.newest = some row ∧ row.packet_id = first.header.packet_id := by
  have hfirst : first_id r.frames = first.header.packet_id := by rw [hframes]; rfl
  rw [← hfirst] at hid ⊢
  cases h with
  | refused hnil _ => exact absurd (hframes.symm.trans hnil) (cons_ne_nil _ _)
  | fragments _ _ _ hreports => exact hreports.row_id (hfiles hid)
  | single _ f hf hreports =>
    refine hreports.row_id ?_
    rw [hf] at hid
    exact hid

lemma Call.row {C : DmCrypto} {s : Sender} {o : Outbox} {text : List UInt8}
    {message_id : UInt16} {fates : ℕ → Fate} {uptime_s : UInt32} {call : Call} {first : DataFrame}
    {rest : List (Option DataFrame)}
    (hframes : (call.run C s o text message_id fates uptime_s).1 = some first :: rest)
    (hid : first.header.packet_id ≠ 0) :
    ∃ row, (call.run C s o text message_id fates uptime_s).2.store.newest = some row ∧
      row.packet_id = first.header.packet_id := by
  cases call with
  | broadcast gate_ok =>
    exact Course.row (mesh_send_broadcast_course C s o text message_id fates uptime_s gate_ok)
      hframes hid fun _ => trivial
  | channel channel_idx =>
    exact Course.row (mesh_send_channel_course C s o text message_id fates uptime_s channel_idx)
      hframes hid id

/-! ## Confirmations that find their message -/

structure NamesFirst (C : DmCrypto) (t : Traced) (p : DataPacket) (rx : Dispatch.Rx) (what : Filing)
    (first : DataFrame) (rest : List DataFrame) : Prop where
  completes : ∀ info, (open_frame C t.node.receiver p.toDataFrame rx.now_ms).2 = .ok info →
    what.direction = .INCOMING ∨ is_fragment info.data = false → rest = [] ∨ IsCopy first p
  opens : ∀ info, (open_frame C t.node.receiver p.toDataFrame rx.now_ms).2 = .ok info →
    what.direction ≠ .INCOMING → is_fragment info.data →
      ∃ q, t.opener (frag_header info.data).message_id = some q ∧ IsCopy first q

/-- **Confirmations that find their message.** In every run of a receiver in which a text on a
channel is filed and confirmed, by ACK or receipt, the confirmation of its first frame makes the
sender's row DELIVERED while that row is in the ring and no newer one has its packet id. -/
theorem confirmed_row_delivered (C : DmCrypto) (mac : NetworkMac) (s : Sender) (o : Outbox)
    (call : Call) (text : List UInt8) (message_id : UInt16) (fates : ℕ → Fate) (uptime_s : UInt32)
    (first : DataFrame) (rest : List DataFrame)
    (hsent : (call.run C s o text message_id fates uptime_s).1 = (first :: rest).map some)
    (hid : first.header.packet_id ≠ 0) (n : Node) (hidle : Idle n)
    (opener : UInt16 → Option DataPacket) (es : List Event) (p : DataPacket) (rx : Dispatch.Rx)
    (hcopy : ∃ f ∈ first :: rest, IsCopy f p) (what : Filing)
    (hfiled : (mesh_process_rx_packet C mac (es.foldl (step C mac) ⟨n, opener⟩).node (.data p)
      rx).outcome = some (.filed what))
    (hnames : NamesFirst C (es.foldl (step C mac) ⟨n, opener⟩) p rx what first rest)
    (id : UInt32) (hconfirmed : id ∈ confirmed_ids
      (mesh_process_rx_packet C mac (es.foldl (step C mac) ⟨n, opener⟩).node (.data p) rx))
    (stored row : StoredMsg)
    (hstored : (call.run C s o text message_id fates uptime_s).2.store.newest = some stored)
    (hrow : row.packet_id = stored.packet_id) (dev : Dev) (newer older : List StoredMsg)
    (hring : dev.store.rows = newer ++ row :: older)
    (hnewer : ∀ x ∈ newer, x.packet_id ≠ row.packet_id) (route_hops : List UInt32) :
    ∃ row', (MsgPersist.msg_store_update_status_with_route dev id .DELIVERED
        route_hops).1.store.rows = newer ++ row' :: older ∧
      row'.status = .DELIVERED ∧ row'.uid = row.uid ∧ row'.text = row.text := by
  -- the row is under the id of the first frame
  obtain ⟨stored', hstored', hstored_id⟩ := Call.row hsent hid
  obtain rfl := Option.some.inj (hstored.symm.trans hstored')
  have hrow_id : row.packet_id = first.header.packet_id := hrow.trans hstored_id
  -- and so is the confirmation
  have hinv : Inv (es.foldl (step C mac) ⟨n, opener⟩) := inv_run hidle opener es
  generalize es.foldl (step C mac) ⟨n, opener⟩ = t at hfiled hnames hconfirmed hinv
  have hdoes := (mesh_process_rx_packet_does C mac t.node (.data p) rx).outcome
  rw [hfiled] at hdoes
  obtain ⟨q, hreach, hhandled⟩ := Option.map_eq_some_iff.1 hdoes.symm
  obtain rfl := reaches_data hreach
  obtain ⟨info, hopen, hreceipt⟩ := receipt_id hinv hhandled
  have honly : rest = [] ∨ IsCopy first q → q.header.packet_id = first.header.packet_id := by
    rintro (rfl | hfirst)
    · obtain ⟨f, hf, hfq⟩ := hcopy
      exact mem_singleton.1 hf ▸ hfq.packet_id
    · exact hfirst.packet_id
  have hname : id = first.header.packet_id := by
    rw [mem_confirmed_ids hfiled hconfirmed]
    by_cases hin : what.direction = .INCOMING
    · rw [if_pos hin]
      exact honly (hnames.completes info hopen (.inl hin))
    rw [if_neg hin]
    rcases hreceipt with ⟨hwhole, heq⟩ | ⟨hfrag, x, hx, heq⟩
    · rw [heq]
      exact honly (hnames.completes info hopen (.inr hwhole))
    · obtain ⟨y, hy, hfirst⟩ := hnames.opens info hopen hin hfrag
      obtain rfl := Option.some.inj (hx.symm.trans hy)
      rw [heq, hfirst.packet_id]
  rw [hname, ← hrow_id]
  exact update_delivers hring (hrow_id ▸ hid) hnewer route_hops

/-! ## A text of two fragments -/

def allSent : ℕ → Fate := fun i =>
  .sent ⟨77 + UInt32.ofNat i, 7, #v[0, 0, 0, 7, 0, 9, 0, 0, 0, 0, 0, UInt8.ofNat i], 1000⟩

def longSend (call : Call) : List (Option DataFrame) × Outbox :=
  call.run toyCrypto.toDmCrypto toySender ⟨msg_store_init, .init⟩ longText 3 allSent 0

def fragmentOf (call : Call) (i : ℕ) : DataFrame := ((longSend call).1.getD i none).getD toyFrame

def fragmentPacket (call : Call) (i : ℕ) : DataPacket :=
  if h : (fragmentOf call i).header.type = Dispatch.PKT_TYPE_DATA then
    { fragmentOf call i with prev_hop := 7, auth_hmac := Vector.replicate 8 0, is_data := h }
  else
    { toyFrame with prev_hop := 7, auth_hmac := Vector.replicate 8 0, is_data := rfl }

def toyNode : Node := ⟨toyReceiver twoChannels, [], [], .fresh⟩

def heard : Dispatch.Rx :=
  { now_ms := 1000, reception := ⟨0, 0, 1⟩, draw := 1, tx_ok := true, stored := false }

def behind (call : Call) (i : ℕ) : Traced :=
  [Event.received (.data (fragmentPacket call i)) heard].foldl
    (step toyCrypto.toDmCrypto MeshNet.zeroMac) ⟨toyNode, fun _ => none⟩

def completed (call : Call) (i j : ℕ) : Effect :=
  mesh_process_rx_packet toyCrypto.toDmCrypto MeshNet.zeroMac (behind call i).node
    (.data (fragmentPacket call j)) heard

def sentDev (call : Call) : Dev := ⟨(longSend call).2.store, .blank, ⟨MsgFile.fresh_header, true⟩⟩

def statuses (call : Call) (id : UInt32) : List MsgStatus :=
  (MsgPersist.msg_store_update_status_with_route (sentDev call) id .DELIVERED
    [7]).1.store.rows.map (·.status)

theorem confirmed_row_delivered_reversed :
    (completed (.channel 2) 1 0).outcome = some (.filed ⟨7, .INCOMING, 2, longText, 78⟩) ∧
    confirmed_ids (completed (.channel 2) 1 0) = [77] ∧
    ∃ row', (MsgPersist.msg_store_update_status_with_route (sentDev (.channel 2)) 77 .DELIVERED
        [7]).1.store.rows = [] ++ row' :: [] ∧
      row'.status = .DELIVERED ∧ row'.uid = 1 ∧ row'.text = longText := by
  have hout : (completed (.channel 2) 1 0).outcome =
      some (.filed ⟨7, .INCOMING, 2, longText, 78⟩) := by decide +kernel
  have hids : confirmed_ids (completed (.channel 2) 1 0) = [77] := by decide +kernel
  refine ⟨hout, hids, ?_⟩
  refine confirmed_row_delivered toyCrypto.toDmCrypto MeshNet.zeroMac toySender
    ⟨msg_store_init, .init⟩ (.channel 2) longText 3 allSent 0 (fragmentOf (.channel 2) 0)
    [fragmentOf (.channel 2) 1] (by decide +kernel) (by decide +kernel) toyNode (fun _ => rfl)
    (fun _ => none) [.received (.data (fragmentPacket (.channel 2) 1)) heard]
    (fragmentPacket (.channel 2) 0) heard
    ⟨fragmentOf (.channel 2) 0, mem_cons_self, by decide +kernel⟩ _ hout
    ⟨fun _ _ _ => Or.inr (by decide +kernel), fun _ _ hin => absurd rfl hin⟩ 77
    (hids ▸ mem_singleton_self _)
    ⟨BROADCAST_ADDR, 1, .OUTGOING, .SENT, 77, 0, 0, 0, 2, [], longText⟩
    ⟨BROADCAST_ADDR, 1, .OUTGOING, .SENT, 77, 0, 0, 0, 2, [], longText⟩ (by decide +kernel) rfl
    (sentDev (.channel 2)) [] [] (by decide +kernel) (fun _ h => absurd h not_mem_nil) [7]

/-- Fragments in order on channel 2 are acknowledged under the second id, and in reverse on the
public channel get a receipt for it; neither makes the row DELIVERED. -/
theorem confirmation_misses_row :
    ((longSend (.channel 2)).1 =
        [some (fragmentOf (.channel 2) 0), some (fragmentOf (.channel 2) 1)] ∧
      (completed (.channel 2) 0 1).outcome = some (.filed ⟨7, .INCOMING, 2, longText, 77⟩) ∧
      confirmed_ids (completed (.channel 2) 0 1) = [78] ∧ statuses (.channel 2) 78 = [.SENT]) ∧
    (longSend (.broadcast true)).1 =
        [some (fragmentOf (.broadcast true) 0), some (fragmentOf (.broadcast true) 1)] ∧
      (completed (.broadcast true) 1 0).outcome =
        some (.filed ⟨7, .BROADCAST_IN, -1, longText, 78⟩) ∧
      confirmed_ids (completed (.broadcast true) 1 0) = [78] ∧
      statuses (.broadcast true) 78 = [.NONE] := by
  decide +kernel

end BrambleMesh.ChannelConfirm
