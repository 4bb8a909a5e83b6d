/-
Which roll-call a relay path is recorded for: main/mesh_rollcall.c. The packet ids of the announce
rounds are kept apart from the ledger, one place for each round, and a new roll-call does not clear
them.
-/
import BrambleMesh.RollcallLedger

namespace BrambleMesh.RollcallPaths

open Run Rollcall RollcallLedger List

/-! ## What is announced -/

/-- The round that an event puts on the air, with its packet id. -/
def announced (cfg : Config) (n : Node) : Event → Option (UInt8 × UInt32)
  | .start text next_packet_id pkt_id now_ms =>
    if (mesh_rollcall_start cfg n text next_packet_id pkt_id now_ms).2 = .OK then some (1, pkt_id)
    else none
  | .tick pkt_id t =>
    let round := n.ledger.rounds_sent + 1
    if rollcall_ledger_round_due n.ledger t ∧ (rollcall_send_round n round pkt_id).2 ≠ 0 then
      some (round, pkt_id)
    else none
  | _ => none

/-- The rounds sent of the present roll-call, and which rounds earlier ones have sent. -/
structure Traced where
  node : Node
  present : List (UInt8 × UInt32)
  earlier : List UInt8

def Traced.begin (s : Traced) (starts : Bool) : Traced :=
  if starts then { s with present := [], earlier := s.earlier ++ s.present.map Prod.fst } else s

def trace (cfg : Config) (s : Traced) (ev : Event) : Traced :=
  let s' := s.begin (starts cfg s.node ev)
  { s' with
    node := step cfg s.node ev
    present := s'.present ++ (announced cfg s.node ev).toList }

def traced (pins : IdentityStore.Store) : Traced := ⟨boot pins, [], []⟩

variable {cfg : Config} {n : Node} {ev : Event} {round : UInt8} {pkt_id : UInt32} {s : Traced}

lemma send_round_eq (n : Node) (round : UInt8) (pkt_id : UInt32) :
    rollcall_send_round n round pkt_id = (n, 0) ∨ pkt_id ≠ 0 ∧ 1 ≤ round ∧
      rollcall_send_round n round pkt_id =
        ({ n with announce_pkt_id := n.announce_pkt_id.set (round.toNat - 1) pkt_id }, pkt_id) := by
  unfold rollcall_send_round rollcall_announce_encode
  split_ifs <;> simp_all

lemma start_announces (cfg : Config) (n : Node) (text : List UInt8) (id pkt_id now_ms : UInt32) :
    let r := mesh_rollcall_start cfg n text id pkt_id now_ms
    (r.2 ≠ .OK ∧ r.1.announce_pkt_id = n.announce_pkt_id) ∨
      (r.2 = .OK ∧ r.1.announce_pkt_id = n.announce_pkt_id.set 0 pkt_id) := by
  dsimp only
  unfold mesh_rollcall_start
  split
  · simp
  cases rollcall_rate_check n.rate (n.ledger.active && n.ledger.is_open) now_ms with
  | BUSY => simp
  | RATE_LIMITED => simp
  | OK =>
    dsimp only
    rcases rollcall_ledger_start (if id = 0 then 1 else id) cfg.address now_ms text
      (rollcall_collect_expected cfg n.pins) n.pins.has_anchor with _ | l
    · simp
    · rcases send_round_eq { n with ledger := l } 1 pkt_id with hsend | ⟨hne, -, hsend⟩
      · simp [hsend]
      · simp [hsend, hne]

/-- The places of the rounds change by what is announced. -/
lemma step_announces (cfg : Config) (n : Node) (ev : Event) :
    (announced cfg n ev = none ∧ (step cfg n ev).announce_pkt_id = n.announce_pkt_id) ∨
      ∃ round pkt_id, announced cfg n ev = some (round, pkt_id) ∧ 1 ≤ round ∧
        (step cfg n ev).announce_pkt_id = n.announce_pkt_id.set (round.toNat - 1) pkt_id := by
  cases ev with
  | start text id pkt_id now_ms =>
    rcases start_announces cfg n text id pkt_id now_ms with ⟨hok, hids⟩ | ⟨hok, hids⟩
    · exact .inl ⟨if_neg hok, hids⟩
    · exact .inr ⟨1, pkt_id, if_pos hok, by decide, hids⟩
  | response src_addr data now_ms =>
    refine .inl ⟨rfl, ?_⟩
    simp only [step, mesh_rollcall_handle_response]
    repeat' split
    all_goals rfl
  | receipt responder_addr orig_packet_id relay_path =>
    refine .inl ⟨rfl, ?_⟩
    simp only [step, mesh_rollcall_note_receipt]
    split_ifs <;> rfl
  | tick pkt_id t =>
    by_cases hdue : rollcall_ledger_round_due n.ledger t
    · have hactive : n.ledger.active := by
        by_contra hoff
        simp [rollcall_ledger_round_due, hoff] at hdue
      rcases send_round_eq n (n.ledger.rounds_sent + 1) pkt_id with hsend | ⟨hne, hround, hsend⟩
      · left
        simp [announced, step, mesh_rollcall_tick, hdue, hactive, hsend]
      · refine .inr ⟨n.ledger.rounds_sent + 1, pkt_id, ?_, hround, ?_⟩
        · simp [announced, hdue, hsend, hne]
        · simp [step, mesh_rollcall_tick, hdue, hactive, hsend]
    · refine .inl ⟨by simp [announced, hdue], ?_⟩
      simp only [step, mesh_rollcall_tick, if_neg hdue]
      split_ifs <;> rfl
  | pins s => exact .inl ⟨rfl, rfl⟩

/-! ## What the places hold -/

/-- A packet id in the place of a round is that of the present roll-call, or was left there by an
earlier one, if the present one has not sent that round. -/
def Placed (s : Traced) : Prop :=
  ∀ j pkt_id, s.node.announce_pkt_id[j]? = some pkt_id → pkt_id ≠ 0 →
    (∃ round, round.toNat = j + 1 ∧ (round, pkt_id) ∈ s.present) ∨
      ∃ round ∈ s.earlier, round.toNat = j + 1 ∧ ∀ a ∈ s.present, a.1 ≠ round

lemma Placed.begin (h : Placed s) (starts : Bool) : Placed (s.begin starts) := by
  cases starts with
  | false => exact h
  | true =>
    intro j pkt_id hj hne
    right
    rcases h j pkt_id hj hne with ⟨round, hround, hmem⟩ | ⟨round, hmem, hround, -⟩
    · refine ⟨round, mem_append_right _ (mem_map_of_mem hmem), hround, ?_⟩
      simp [Traced.begin]
    · exact ⟨round, mem_append_left _ hmem, hround, by simp [Traced.begin]⟩

lemma Placed.trace (h : Placed s) (ev : Event) : Placed (trace cfg s ev) := by
  have hbegin := h.begin (starts cfg s.node ev)
  have hnode : (s.begin (starts cfg s.node ev)).node = s.node := by
    unfold Traced.begin
    split_ifs <;> rfl
  intro j pkt_id hj hne
  simp only [RollcallPaths.trace] at hj ⊢
  generalize s.begin (starts cfg s.node ev) = s' at hbegin hnode ⊢
  rcases step_announces cfg s.node ev with ⟨hsent, hids⟩ | ⟨round, sent, hsent, hround, hids⟩
  · rw [hids, ← hnode] at hj
    simpa [hsent] using hbegin j pkt_id hj hne
  rw [hids, getElem?_set] at hj
  rw [hsent, Option.toList_some]
  have hpos := UInt8.le_iff_toNat_le.1 hround
  have hone : (1 : UInt8).toNat = 1 := rfl
  split_ifs at hj with hplace hin
  · -- the place that was just written
    obtain rfl := Option.some.inj hj
    exact .inl ⟨round, by omega, mem_append_right _ mem_cons_self⟩
  · rw [← hnode] at hj
    rcases hbegin j pkt_id hj hne with ⟨r, hr, hmem⟩ | ⟨r, hmem, hr, hothers⟩
    · exact .inl ⟨r, hr, mem_append_left _ hmem⟩
    · refine .inr ⟨r, hmem, hr, fun a ha => ?_⟩
      rcases mem_append.1 ha with ha | ha
      · exact hothers a ha
      · obtain rfl := mem_singleton.1 ha
        rintro (rfl : round = r)
        omega

/-- **Paths land on their own roll-call, once the rounds of earlier ones are sent again.**  If the
present roll-call has sent every round that an earlier one since boot has sent, a receipt only adds
a path to the open ledger if it confirms a round of the present roll-call. -/
theorem paths_on_own_rollcall (cfg : Config) (pins : IdentityStore.Store) (es : List Event)
    (responder_addr orig_packet_id : UInt32) (relay_path : List UInt32) :
    let s := es.foldl (trace cfg) (traced pins)
    (∀ round ∈ s.earlier, ∃ a ∈ s.present, a.1 = round) →
    (step cfg s.node (.receipt responder_addr orig_packet_id relay_path)).ledger ≠ s.node.ledger →
    ∃ round, (round, orig_packet_id) ∈ s.present := by
  intro s hresent hadds
  have hplaced : Placed s := by
    refine foldl_invariant (C := fun _ _ => True) (fun _ ev h _ => h.trace ev)
      (meets_of_forall (fun _ _ _ => trivial) _) fun j pkt_id hj hne => ?_
    have hzero : pkt_id ∈ [0, 0, 0] := mem_of_getElem? hj
    simp [hne] at hzero
  -- a receipt that changes the ledger matches the id in one of the places
  have hmatch : (s.node.announce_pkt_id.any fun id => id != 0 && id == orig_packet_id) = true := by
    by_contra hno
    refine hadds ?_
    simp only [step, mesh_rollcall_note_receipt]
    split_ifs <;> simp_all
  obtain ⟨id, hmem, hid⟩ := any_eq_true.1 hmatch
  simp only [Bool.and_eq_true, bne_iff_ne, beq_iff_eq] at hid
  obtain ⟨hne, rfl⟩ := hid
  obtain ⟨j, hj⟩ := mem_iff_getElem?.1 hmem
  rcases hplaced j id hj hne with ⟨round, -, hpresent⟩ | ⟨round, hold, -, hothers⟩
  · exact ⟨round, hpresent⟩
  · obtain ⟨a, ha, hround⟩ := hresent round hold
    exact absurd hround (hothers a ha)

/-! ## Two roll-calls -/

def second_started : List Event :=
  started ++ [.tick 6 31000, .tick 0 200000, .start [] 78 7 400000]

theorem paths_on_own_rollcall_second :
    let s := (second_started ++ [Event.tick 8 431000]).foldl (trace one) (traced pinned)
    s.earlier = [1, 2] ∧ (step one s.node (.receipt 2 8 [9])).ledger ≠ s.node.ledger ∧
      ∃ round, (round, 8) ∈ s.present :=
  ⟨by decide +kernel, by decide +kernel, paths_on_own_rollcall one pinned
    (second_started ++ [.tick 8 431000]) 2 8 [9] (by decide +kernel) (by decide +kernel)⟩

/-- The first roll-call sends rounds 1 and 2 as packets 5 and 6. A receipt of packet 6 that comes
after the second one has started, as packet 7, adds a path to the second one's ledger. -/
theorem path_of_earlier_rollcall :
    let s := second_started.foldl (trace one) (traced pinned)
    s.present = [(1, 7)] ∧ s.earlier = [1, 2] ∧
      (step one s.node (.receipt 2 6 [9])).ledger ≠ s.node.ledger := by
  decide

end BrambleMesh.RollcallPaths
