/-
Acknowledgements of unicast data. What is filed is acknowledged, and so is the reply to a roll
call; a copy is acknowledged again while both records of the receiver remember the frame.
-/
import BrambleMesh.Dispatch
import BrambleMesh.Reliability
import BrambleMesh.DmFreshness

namespace BrambleMesh.DataAck

open Run TimedCache
open DmDelivery (copyCrypto)
open ChannelMsg Fragment HandleData
open Discovery Dispatch Reliability
open MeshNet (control_seq_next zeroMac)

/-! ## Acknowledging a frame -/

def acknowledges (packet_id : UInt32) : Sent → Bool
  | .ack a => a.ack_packet_id == packet_id
  | _ => false

def acked (eff : Effect) (packet_id : UInt32) : Bool := eff.sent.any (acknowledges packet_id)

def Ready (n : Node) (rx : Dispatch.Rx) : Prop :=
  (n.control.seq_floor ≤ rx.draw ∧ rx.draw < 0x1000000000000) ∧ rx.tx_ok
deriving Decidable

def confirmed : Outcome → Bool
  | .filed _ => true
  | .rollcall_reply .. => true
  | _ => false

def completes (ctx : ReassemblyCtx) (data : List UInt8) (now_ms packet_id : UInt32) : Bool :=
  match reassembly_add ctx (frag_header data) (data.drop FRAG_HEADER_SIZE) now_ms packet_id with
  | (ctx, .complete) =>
    (reassembly_collect ctx (frag_header data).message_id
      ((frag_header data).frag_total.toNat * FRAG_MAX_PLAINTEXT)).2.any (· ≠ [])
  | _ => false

/-- A reply to a roll call, or a text that is whole or is the last fragment to come in. -/
def confirmable (ctx : ReassemblyCtx) (info : ChannelMsgInfo) (now_ms packet_id : UInt32) : Bool :=
  info.app_type == APP_TYPE_ROLLCALL_REPLY ||
    is_text info && info.data != [] &&
      (!is_fragment info.data || completes ctx info.data now_ms packet_id)

section

variable {C : DmCrypto} {mac : NetworkMac} {n : Node} {p q : DataPacket} {rx rx' : Dispatch.Rx}
  {r : Receiver} {info : ChannelMsgInfo} {packet_id : UInt32}

lemma send_ack_acked (h : Ready n rx) (dest_addr packet_id : UInt32) :
    (send_ack n dest_addr packet_id rx).2.any (acknowledges packet_id) := by
  unfold send_ack control_seq_next
  rw [if_pos h.1, h.2]
  simp [acknowledges]

lemma filed_incoming {f : DataFrame} {rx : HandleData.Rx} {what : Filing}
    (hcast : f.header.dest_addr ≠ BROADCAST_ADDR) (h : (dispatch r f info rx).2 = .filed what) :
    what.direction = .INCOMING := by
  rcases dispatch_cases r f info rx with ⟨-, hno⟩ | ⟨-, htext⟩
  · exact absurd h (hno what)
  · rw [htext] at h
    obtain ⟨-, text, receipt, -, -, rfl, -⟩ := deliver_text_filed h
    exact if_neg fun hboth => hcast hboth.1

lemma confirm_acked_iff {outcome : Outcome} (hready : Ready n rx)
    (hin : ∀ what, outcome = .filed what → what.direction = .INCOMING) :
    (confirm_data_delivery n p rx outcome).2.any (acknowledges p.header.packet_id) ↔
      confirmed outcome := by
  cases outcome with
  | filed what =>
    refine iff_of_true ?_ rfl
    unfold confirm_data_delivery
    dsimp only
    rw [if_pos (hin what rfl)]
    exact send_ack_acked hready _ _
  | rollcall_reply src_addr data => exact iff_of_true (send_ack_acked hready _ _) rfl
  | _ => exact iff_of_false Bool.false_ne_true Bool.false_ne_true

lemma confirmed_dispatch (r : Receiver) (f : DataFrame) (info : ChannelMsgInfo)
    (rx : HandleData.Rx) : confirmed (dispatch r f info rx).2 =
      confirmable r.s_reassembly info rx.now_ms f.header.packet_id := by
  unfold dispatch confirmable
  split_ifs with hke hrollcall hreply
  · simp [hke, is_text, confirmed]
    decide
  · simp [hrollcall, is_text, confirmed]
    decide
  · simp [hreply, confirmed]
  · have htext : is_text info := by simp [is_text, hke, hrollcall, hreply]
    simp only [htext, beq_eq_false_iff_ne.2 hreply, Bool.false_or, Bool.true_and]
    unfold deliver_text
    split_ifs with hnil hfrag
    · simp [hnil, confirmed]
    · rw [bne_iff_ne.2 hnil, hfrag]
      unfold deliver_fragment completes
      rcases reassembly_add r.s_reassembly (frag_header info.data)
        (info.data.drop FRAG_HEADER_SIZE) rx.now_ms f.header.packet_id with ⟨ctx, _ | _ | _⟩
      · rfl
      · rfl
      · dsimp only
        rcases reassembly_collect ctx (frag_header info.data).message_id
          ((frag_header info.data).frag_total.toNat * FRAG_MAX_PLAINTEXT) with ⟨ctx', _ | text⟩
        · rfl
        · by_cases hempty : text = [] <;> simp [hempty, confirmed, file_text]
    · simp [hnil, hfrag, confirmed, file_text]

structure Accepted (C : DmCrypto) (mac : NetworkMac) (n : Node) (p : DataPacket)
    (rx : Dispatch.Rx) (r : Receiver) (info : ChannelMsgInfo) : Prop where
  to_self : p.header.dest_addr = n.receiver.address
  unicast : p.header.dest_addr ≠ BROADCAST_ADDR
  unseen : dedup_contains n.s_dedup (header_key p.header) rx.now_ms = false
  authentic : data_auth_verify mac p
  admitted : Dispatch.admitted C n.receiver p.toDataFrame rx.now_ms = some (r, info)

lemma Accepted.reassembly (h : Accepted C mac n p rx r info) :
    r.s_reassembly = n.receiver.s_reassembly := by
  have hadmitted := h.admitted
  unfold Dispatch.admitted at hadmitted
  obtain ⟨t, b, d, hopen⟩ := open_frame_changes C n.receiver p.toDataFrame rx.now_ms
  split at hadmitted
  · cases hadmitted
  split at hadmitted
  · next r₁ info₁ heq =>
    obtain ⟨s, hgate⟩ := replay_gate_changes r₁ p.toDataFrame info₁ rx.now_ms
    rw [heq] at hopen
    obtain rfl : r₁ = _ := hopen
    split at hadmitted
    · next heq' =>
      obtain ⟨rfl, -⟩ := Prod.ext_iff.1 (Option.some.inj hadmitted)
      rw [heq'] at hgate
      exact (congrArg Receiver.s_reassembly hgate :)
    · cases hadmitted
  · cases hadmitted

lemma Accepted.confirmed_eq (h : Accepted C mac n p rx r info) :
    confirmed (dispatch r p.toDataFrame info rx.toRx).2 =
      confirmable n.receiver.s_reassembly info rx.now_ms p.header.packet_id := by
  rw [confirmed_dispatch, h.reassembly]

lemma Accepted.process (h : Accepted C mac n p rx r info) :
    ∃ routes, mesh_process_rx_packet C mac n (.data p) rx =
      let d := dispatch r p.toDataFrame info rx.toRx
      let out := confirm_data_delivery
        { filtered n (.data p) rx with
          control := { n.control with routes := routes }, receiver := d.1 } p rx d.2
      ⟨out.1, out.2, some d.2⟩ := by
  obtain ⟨routes, hprocess⟩ := process_data_deliver C (n := filtered n (.data p) rx) rx
    h.authentic (.inl h.to_self)
  refine ⟨routes, ?_⟩
  rw [process_of_new h.unseen, hprocess]
  have hreceiver : (filtered n (.data p) rx).receiver = n.receiver := rfl
  rw [hreceiver, handle_data_of_admitted h.admitted]
  rfl

/-! ## Acknowledging a copy -/

def IsCopy (p q : DataPacket) : Prop := ∃ hop_limit prev_hop, q = p.relayed hop_limit prev_hop

lemma Accepted.recorded (h : Accepted C mac n p rx r info)
    (hconf : confirmed (dispatch r p.toDataFrame info rx.toRx).2)
    (hroom : Roomy n (.received (.data p) rx))
    (hfirst : dedup_contains n.s_delivered_dedup (delivered_key p) rx.now_ms = false) :
    let m := (mesh_process_rx_packet C mac n (.data p) rx).node
    ⟨header_key p.header, rx.now_ms⟩ ∈ m.s_dedup ∧
      ⟨delivered_key p, rx.now_ms⟩ ∈ m.s_delivered_dedup := by
  refine ⟨?_, ?_⟩
  · rw [(mesh_process_rx_packet_does C mac n (.data p) rx).s_dedup]
    exact mem_offer_self hroom.1 h.unseen
  · obtain ⟨routes, hprocess⟩ := h.process
    rw [hprocess]
    dsimp only
    rcases hout : (dispatch r p.toDataFrame info rx.toRx).2 with _ | _ | _ | _ | _ | _ | _ | what
    all_goals rw [hout] at hconf
    all_goals try exact absurd hconf Bool.false_ne_true
    · exact mem_offer_self hroom.2 hfirst
    · unfold confirm_data_delivery
      dsimp only
      rw [if_pos (filed_incoming h.unicast hout)]
      exact mem_offer_self hroom.2 hfirst

/-- **A copy of a frame that both records remember is acknowledged.** -/
theorem copy_acked {t₁ : UInt32} (hto : p.header.dest_addr = n.receiver.address)
    (hmac : data_auth_verify mac p) (hcopy : IsCopy p q) (hready : Ready n rx)
    (hseen : ⟨header_key p.header, t₁⟩ ∈ n.s_dedup)
    (hdelivered : ⟨delivered_key p, t₁⟩ ∈ n.s_delivered_dedup)
    (hsoon : rx.now_ms - t₁ < DEDUP_EXPIRY_MS) :
    acked (mesh_process_rx_packet C mac n (.data q) rx) p.header.packet_id := by
  obtain ⟨hop_limit, prev_hop, rfl⟩ := hcopy
  have hlive {k : UInt32} : Entry.live DEDUP_EXPIRY_MS rx.now_ms (⟨k, t₁⟩ : Entry UInt32) :=
    decide_eq_true hsoon
  have hdup : dedup_contains n.s_dedup
      (Packet.data (p.relayed hop_limit prev_hop)).dedup_key rx.now_ms :=
    holds_iff.2 ⟨_, hseen, rfl, hlive⟩
  have hdone : dedup_contains n.s_delivered_dedup (delivered_key p) rx.now_ms :=
    holds_iff.2 ⟨_, hdelivered, rfl, hlive⟩
  rw [process_of_dup hdup]
  unfold acked reack
  dsimp only
  rw [if_pos ⟨hto, hdone, hmac⟩]
  exact send_ack_acked (n := filtered n _ rx) hready _ _

/-! ## The sender's schedule -/

structure Retransmission (p q : DataPacket) where
  tier : MsgTier
  t₀ : UInt32
  t : UInt32
  sent : DataPacket
  resent : DataPacket
  schedule : Resending tier t₀ sent t resent
  first_copy : IsCopy sent p
  later_copy : IsCopy resent q

lemma Retransmission.is_copy (h : Retransmission p q) : IsCopy p q := by
  obtain ⟨tier, t₀, t, sent, resent, schedule, ⟨_, _, rfl⟩, ⟨hop_limit, prev_hop, rfl⟩⟩ := h
  refine ⟨hop_limit, prev_hop, ?_⟩
  rw [schedule.same]
  rfl

def Retransmission.InTime (h : Retransmission p q) (elapsed : UInt32) : Prop :=
  elapsed < DEDUP_EXPIRY_MS ∨
    h.tier = .NORMAL ∧ ∃ lag delay, h.schedule.OnTime lag ∧ NoWrap .NORMAL lag h.t₀ ∧
      elapsed.toNat ≤ h.t.toNat - h.t₀.toNat + delay ∧
      17000 + 3 * lag + delay < DEDUP_EXPIRY_MS.toNat

lemma Retransmission.InTime.soon {h : Retransmission p q} {elapsed : UInt32}
    (hin : h.InTime elapsed) : elapsed < DEDUP_EXPIRY_MS := by
  rcases hin with hsoon | ⟨htier, lag, delay, hticks, hwrap, hdelay, hfit⟩
  · exact hsoon
  · rw [← htier] at hwrap
    have hby := h.schedule.by_span hwrap hticks
    rw [htier] at hby
    have hspan : span .NORMAL (tier_max_retries .NORMAL - 1) = 17000 := by decide
    have hmax : tier_max_retries .NORMAL = 3 := rfl
    rw [hspan, hmax] at hby
    rw [UInt32.lt_iff_toNat_lt]
    omega

/-- **Accepted unicast frames are acknowledged, if they are confirmed**: if and only if they answer
a roll call or bring a text, whole or with its last fragment; and then every retransmission is as
well that comes in before the records of the receiver, with room for it, forget the frame. -/
theorem accepted_acked (h : Accepted C mac n p rx r info) (hready : Ready n rx) :
    (acked (mesh_process_rx_packet C mac n (.data p) rx) p.header.packet_id = true ↔
      confirmable n.receiver.s_reassembly info rx.now_ms p.header.packet_id = true) ∧
    (confirmable n.receiver.s_reassembly info rx.now_ms p.header.packet_id = true →
      Roomy n (.received (.data p) rx) →
      dedup_contains n.s_delivered_dedup (delivered_key p) rx.now_ms = false →
      ∀ (es : List Dispatch.Event) (q : DataPacket) (rx' : Dispatch.Rx)
        (again : Retransmission p q),
        let m := (mesh_process_rx_packet C mac n (.data p) rx).node
        Meets (Dispatch.step C mac) Roomy m es →
        (∀ ev ∈ es, ∀ now, ev.now = some now → now - rx.now_ms ≤ rx'.now_ms - rx.now_ms) →
        again.InTime (rx'.now_ms - rx.now_ms) → Ready (es.foldl (Dispatch.step C mac) m) rx' →
        acked (mesh_process_rx_packet C mac (es.foldl (Dispatch.step C mac) m) (.data q) rx')
          p.header.packet_id = true) := by
  rw [← h.confirmed_eq]
  constructor
  · obtain ⟨routes, hprocess⟩ := h.process
    rw [hprocess]
    exact confirm_acked_iff hready fun what hwhat => filed_incoming h.unicast hwhat
  intro hconf hroom hfirst es q rx' again m hrun hbetween hin hready'
  obtain ⟨hseen, hdelivered⟩ := h.recorded hconf hroom hfirst
  have hsoon := hin.soon
  have hto : p.header.dest_addr = (es.foldl (Dispatch.step C mac) m).receiver.address := by
    rw [run_address, h.to_self]
    exact (step_address C mac n (.received (.data p) rx)).symm
  -- every event of the run finds the entries of the frame live
  have hkeep : ⟨header_key p.header, rx.now_ms⟩ ∈ (es.foldl (Dispatch.step C mac) m).s_dedup ∧
      ⟨delivered_key p, rx.now_ms⟩ ∈ (es.foldl (Dispatch.step C mac) m).s_delivered_dedup := by
    refine foldl_invariant
      (C := fun m ev => Roomy m ev ∧ ∀ now, ev.now = some now → now - rx.now_ms < DEDUP_EXPIRY_MS)
      (I := fun m : Node => ⟨header_key p.header, rx.now_ms⟩ ∈ m.s_dedup ∧
        ⟨delivered_key p, rx.now_ms⟩ ∈ m.s_delivered_dedup) ?_
      (meets_and.2 ⟨hrun, meets_of_forall (fun _ ev hev now hnow => ?_) m⟩)
      ⟨hseen, hdelivered⟩
    · intro m ev hm hev
      exact ⟨mem_s_dedup_step hev.1 (fun t ht => decide_eq_true (hev.2 t ht)) hm.1,
        mem_s_delivered_step hev.1 (fun t ht => decide_eq_true (hev.2 t ht)) hm.2⟩
    · exact UInt32.lt_of_le_of_lt (hbetween ev hev now hnow) hsoon
  exact copy_acked hto h.authentic again.is_copy hready' hkeep.1 hkeep.2 hsoon

end

/-! ## A node with a session and the public channel -/

def quietNode : Node := ⟨DmFreshness.sessionNode ⟨0, 0, false⟩, [], [], .fresh⟩

def heardAt (now_ms : UInt32) (draw : UInt64) : Dispatch.Rx :=
  { now_ms := now_ms, reception := ⟨0, 0, 1⟩, draw := draw, tx_ok := true, stored := false }

def fromTwo (f : DataFrame) (hf : f.header.type = PKT_TYPE_DATA) : DataPacket :=
  { f with prev_hop := 2, auth_hmac := Vector.replicate 8 0, is_data := hf }

def hiPacket : DataPacket := fromTwo DmFreshness.hiFrame rfl

lemma length_hi_le : 56 + hiPacket.ciphertext.length ≤ 255 := hiPacket.length_le

def hiResending : Resending .NORMAL 0 hiPacket 2000 hiPacket where
  table := fun _ => { pending_ack 0 0 .BROADCAST hiPacket 0 with active := false }
  id := 77
  dest_addr := 1
  i := ⟨0, by decide⟩
  s := ⟨(pending_ack_add
    (fun _ => { pending_ack 0 0 .BROADCAST hiPacket 0 with active := false }) 77 1 .NORMAL hiPacket
    0).1, 0⟩
  es := []
  random := fun _ => 0
  added := by decide +kernel
  keeps_id := fun _ h => absurd h List.not_mem_nil
  still := by decide +kernel
  sent := by decide +kernel

theorem accepted_acked_hi :
    let m := (mesh_process_rx_packet copyCrypto zeroMac quietNode
      (.data hiPacket) (heardAt 1000 1)).node
    acked (mesh_process_rx_packet copyCrypto zeroMac quietNode
      (.data hiPacket) (heardAt 1000 1)) 77 = true ∧
    acked (mesh_process_rx_packet copyCrypto zeroMac m (.data hiPacket)
      (heardAt 3100 2)) 77 = true := by
  obtain ⟨⟨r, info⟩, hadmitted⟩ := Option.isSome_iff_exists.1
    (show (admitted copyCrypto quietNode.receiver DmFreshness.hiFrame 1000).isSome = true
      by decide)
  have haccepted : Accepted copyCrypto zeroMac quietNode hiPacket
      (heardAt 1000 1) r info := ⟨rfl, by decide, by decide, by decide, hadmitted⟩
  have hconf := haccepted.confirmed_eq
  rw [← handle_data_of_admitted hadmitted] at hconf
  obtain ⟨hfirst, hagain⟩ := accepted_acked haccepted (by decide)
  refine ⟨hfirst.2 (hconf.symm.trans (by decide)), ?_⟩
  exact hagain (hconf.symm.trans (by decide)) (by decide) (by decide) [] hiPacket (heardAt 3100 2)
    ⟨.NORMAL, 0, 2000, hiPacket, hiPacket, hiResending, ⟨7, 2, rfl⟩, ⟨7, 2, rfl⟩⟩ trivial
    (fun _ h => absurd h List.not_mem_nil) (.inl (by decide)) (by decide)

def publicFrame (packet_id : UInt32) (plaintext : List UInt8)
    (h : 56 + plaintext.length ≤ 255) : DataFrame :=
  { DmFreshness.hiFrame with
    header := ⟨5, 0x0A, 0x0C, 7, 1, packet_id⟩
    ciphertext := plaintext
    length_le := h }

def kePacket : DataPacket := fromTwo (publicFrame 78 [0, 0, 0, 2, 2, 0, 0, 0, 1] (by decide)) rfl

def fragmentPacket : DataPacket :=
  fromTwo (publicFrame 79 [0, 0, 0, 1, 2, 0, 0, 0, 0, 0, 0, 0, 0, 2, 7, 0, 72] (by decide)) rfl

/-- Node 1 accepts a handshake message and a fragment and acknowledges neither. -/
theorem handshake_and_fragment_unacked :
    (∃ r info, Accepted copyCrypto zeroMac quietNode kePacket
        (heardAt 1000 1) r info) ∧
      (∃ r info, Accepted copyCrypto zeroMac quietNode fragmentPacket
        (heardAt 1000 1) r info) ∧
      Ready quietNode (heardAt 1000 1) ∧
      (mesh_process_rx_packet copyCrypto zeroMac quietNode (.data kePacket)
        (heardAt 1000 1)).sent = [] ∧
      (mesh_process_rx_packet copyCrypto zeroMac quietNode
        (.data fragmentPacket) (heardAt 1000 1)).sent = [] := by
  refine ⟨?_, ?_, by decide, by decide, by decide⟩
  · obtain ⟨⟨r, info⟩, hadmitted⟩ := Option.isSome_iff_exists.1
      (show (admitted copyCrypto quietNode.receiver kePacket.toDataFrame 1000).isSome =
        true by decide)
    exact ⟨r, info, rfl, by decide, by decide, by decide, hadmitted⟩
  · obtain ⟨⟨r, info⟩, hadmitted⟩ := Option.isSome_iff_exists.1
      (show (admitted copyCrypto quietNode.receiver
        fragmentPacket.toDataFrame 1000).isSome = true by decide)
    exact ⟨r, info, rfl, by decide, by decide, by decide, hadmitted⟩

end BrambleMesh.DataAck
