/-
Parked messages: `mesh_flush_parked_for` of main/mesh_task.c. A message is not sent again while it
is queued or its frame waits for an acknowledgement; but a full table does not record the frame,
and a retry on a session does not look at the queue.
-/
import BrambleMesh.Reliability
import BrambleMesh.SendTasks

namespace BrambleMesh.ParkedRetry

open MsgStore MsgPersist DmSend SendQueue List
open SendTasks (Env Stage outgoing add_row fail msg_store_get_copy_by_uid
  fail_evicted row_uid uids_of Unstamped map_change add_row_spec
  not_mem_of_update_failed next_uid_ne)
open Reliability (PendingAckTable Tracker pending_ack_add pending_ack_remove
  pending_ack_is_active rerr_ack_failfast_for_dest ack_tick)
open Run
open Fragment (FRAG_MAX_PLAINTEXT)

/-! ## Sending, one function at a time -/

structure Frame where
  uid : UInt32
  packet_id : UInt32
  sent_ms : UInt32
deriving DecidableEq, Repr

structure Node where
  queue : MsgQueue
  dev : Dev
  acks : Tracker Unit
  aired : List Frame

variable (cfg : Config)

def stamp (dev : Dev) (env : Env) (dest_addr : UInt32) (data : List UInt8)
    (uid : UInt32) : Dev :=
  let r := msg_store_update_by_uid dev uid env.packet_id .SENT
  if r.2 then r.1 else add_row cfg r.1 env (outgoing dest_addr data env.packet_id .SENT uid)

def transmit (n : Node) (dest_addr : UInt32) (data : List UInt8) (uid : UInt32)
    (env : Env) : Node :=
  { n with
    dev := stamp cfg n.dev env dest_addr data uid
    acks := { n.acks with
      table := (pending_ack_add n.acks.table env.packet_id dest_addr .NORMAL () env.now).1 }
    aired := ⟨(row_uid n.dev uid).2, env.packet_id, env.now⟩ :: n.aired }

def stored (dev : Dev) (env : Env) (dest_addr : UInt32) (data : List UInt8)
    (uid row_uid : UInt32) (ok : Bool) : Dev :=
  if ok then
    if uid = 0 then add_row cfg dev env (outgoing dest_addr data 0 .NONE row_uid) else dev
  else change dev (fail uid)

def mesh_send_message_uid (n : Node) (dest_addr : UInt32) (data : List UInt8)
    (uid : UInt32) (env : Env) : Node :=
  match env.stage with
  | .no_channel => { n with dev := change n.dev (fail uid) }
  | .no_route =>
    let row := row_uid n.dev uid
    let r := queue_message n.queue dest_addr data row.2 env.now
    { n with queue := r.1, dev := stored cfg row.1 env dest_addr data uid row.2 r.2 }
  | .active =>
    if data.length > FRAG_MAX_PLAINTEXT ∨ env.packet_id = 0 then
      { n with dev := change n.dev (fail uid) }
    else transmit cfg n dest_addr data uid env
  | .refused => { n with dev := change n.dev (fail uid) }
  | .handshake =>
    if data.length > FRAG_MAX_PLAINTEXT then { n with dev := change n.dev (fail uid) }
    else
      let row := row_uid n.dev uid
      let r := queue_session_message n.queue dest_addr data row.2 env.now env.packet_id
      { n with
        queue := r.1
        dev := stored cfg (fail_evicted n.queue row.1 row.2) env dest_addr data uid row.2
          (r.2 != 0) }

def retry (n : Node) (uid : UInt32) (env : Env) : Node :=
  match msg_store_get_copy_by_uid n.dev uid with
  | none => n
  | some msg =>
    if pending_ack_is_active n.acks.table msg.packet_id then n
    else mesh_send_message_uid cfg n msg.peer_addr msg.text msg.uid env

def route_turn (n : Node) (dest_addr : UInt32) (i : Fin MAX_QUEUED_MSGS)
    (env : Env) : Node :=
  if waits_for dest_addr (n.queue i) then
    let m := mesh_send_message_uid cfg { n with queue := blank n.queue i } dest_addr
      (n.queue i).data (n.queue i).uid env
    { m with queue := free m.queue i }
  else n

def session_turn (n : Node) (dest_addr : UInt32) (i : Fin MAX_QUEUED_MSGS)
    (env : Env) : Node :=
  if waits_session dest_addr (n.queue i) then
    if env.packet_id = 0 then
      { n with queue := free n.queue i, dev := change n.dev (fail (n.queue i).uid) }
    else
      { transmit cfg n dest_addr (n.queue i).data (n.queue i).uid env with
        queue := free n.queue i }
  else n

def drop_turn (p : QueuedMsg → Bool) (n : Node) (i : Fin MAX_QUEUED_MSGS) : Node :=
  if p (n.queue i) then
    { n with queue := free n.queue i, dev := change n.dev (fail (n.queue i).uid) }
  else n

/-! ## Acknowledgements -/

def given_up (table table' : PendingAckTable Unit) : List UInt32 :=
  ((List.finRange Reliability.MAX_PENDING_ACKS).filter fun i =>
    (table i).active && !(table' i).active).map fun i => (table i).packet_id

def give_up (n : Node) (acks : Tracker Unit) : Node :=
  { n with
    dev := (given_up n.acks.table acks.table).foldl
      (fun dev id => change dev (.update_status id .FAILED [])) n.dev
    acks := acks
    aired := n.aired.filter fun f =>
      !pending_ack_is_active n.acks.table f.packet_id ||
        pending_ack_is_active acks.table f.packet_id }

def handle_ack (n : Node) (ack_packet_id : UInt32) (route_hops : List UInt32) : Node :=
  { n with
    dev := change n.dev (.update_status ack_packet_id .DELIVERED route_hops)
    acks := { n.acks with table := pending_ack_remove n.acks.table ack_packet_id }
    aired := n.aired.filter fun f => f.packet_id != ack_packet_id }

/-! ## Runs -/

inductive Event
  | send (dest_addr : UInt32) (data : List UInt8) (uid : UInt32) (env : Env)
  | retry (uid : UInt32) (env : Env)
  | route_turn (dest_addr : UInt32) (i : Fin MAX_QUEUED_MSGS) (env : Env)
  | session_turn (dest_addr : UInt32) (i : Fin MAX_QUEUED_MSGS) (env : Env)
  | purge_turn (t : UInt32) (i : Fin MAX_QUEUED_MSGS)
  | no_route_turn (dest_addr : UInt32) (i : Fin MAX_QUEUED_MSGS)
  | other_frame (packet_id dest_addr : UInt32) (tier : Reliability.MsgTier) (now : UInt32)
  | acked (packet_id : UInt32) (route_hops : List UInt32)
  | tick (t : UInt32) (random : Fin Reliability.MAX_PENDING_ACKS → UInt32)
  | broken (dest_addr : UInt32)
  | store (m : NewMsg) (env : Env)
  | park (uid : UInt32)
  | unpark (uid : UInt32)
  | expire_parked (now_s : UInt32)

def step (n : Node) : Event → Node
  | .send dest_addr data uid env => mesh_send_message_uid cfg n dest_addr data uid env
  | .retry uid env => retry cfg n uid env
  | .route_turn dest_addr i env => route_turn cfg n dest_addr i env
  | .session_turn dest_addr i env => session_turn cfg n dest_addr i env
  | .purge_turn t i => drop_turn (expired t) n i
  | .no_route_turn dest_addr i => drop_turn (waits_for dest_addr) n i
  | .other_frame packet_id dest_addr tier now =>
    { n with acks := { n.acks with
        table := (pending_ack_add n.acks.table packet_id dest_addr tier () now).1 } }
  | .acked packet_id route_hops => handle_ack n packet_id route_hops
  | .tick t random => give_up n (ack_tick n.acks t random).1
  | .broken dest_addr =>
    give_up n { n.acks with table := rerr_ack_failfast_for_dest n.acks.table dest_addr }
  | .store m env => { n with dev := add_row cfg n.dev env { m with uid := 0 } }
  | .park uid => { n with dev := change n.dev (.update_by_uid uid 0 .QUEUED) }
  | .unpark uid => { n with dev := change n.dev (.unpark uid) }
  | .expire_parked now_s => { n with dev := change n.dev (.expire_parked now_s) }

def no_ack : Reliability.PendingAck Unit := ⟨0, 0, .NORMAL, 0, 0, 0, (), false⟩

def start (dev : Dev) : Node := ⟨fun _ => SendTasks.unused, dev, ⟨fun _ => no_ack, 0⟩, []⟩

/-! ## What is wanted -/

def Unqueued (n : Node) (uid : UInt32) : Prop := ∀ i, holds uid (n.queue i) = false
deriving Decidable

def Landed (n : Node) (uid : UInt32) : Prop := ∀ f ∈ n.aired, f.uid ≠ uid
deriving Decidable

def Transmits (n n' : Node) : Prop := n.aired.length < n'.aired.length
deriving Decidable

def Once (n : Node) : Event → Prop
  | .retry uid env =>
    Transmits n (retry cfg n uid env) ∨ (retry cfg n uid env).queue ≠ n.queue →
      Unqueued n uid ∧ Landed n uid
  | _ => True

instance (n : Node) (ev : Event) : Decidable (Once cfg n ev) := by
  cases ev <;> unfold Once <;> infer_instance

def Recorded (n n' : Node) : Prop :=
  Transmits n n' → (Table.find (fun e => !e.active) n.acks.table).isSome = true
deriving Decidable

def Fresh (n n' : Node) : Prop :=
  n'.dev.store.s_next_uid = n.dev.store.s_next_uid ∨
    n.dev.store.s_next_uid ∉ uids_of n.dev ∧
      Unqueued n n.dev.store.s_next_uid ∧ Landed n n.dev.store.s_next_uid
deriving Decidable

def Patient (n : Node) : Event → Prop
  | .send _ _ uid env => (env.stage = .active → Unqueued n uid) ∧ Landed n uid
  | .retry uid env => env.stage = .active → Unqueued n uid
  | _ => True

def Careful (n : Node) (ev : Event) : Prop :=
  Recorded n (step cfg n ev) ∧ Fresh n (step cfg n ev) ∧ Patient n ev

instance (n : Node) (ev : Event) : Decidable (Patient n ev) := by
  cases ev <;> unfold Patient <;> infer_instance

instance (n : Node) (ev : Event) : Decidable (Careful cfg n ev) :=
  inferInstanceAs (Decidable (_ ∧ _))

/-! ## What a step does to the rows -/

section

variable {cfg : Config} {dev dev' : Dev} {env : Env} {m : NewMsg}

def ids (dev : Dev) : List (UInt32 × UInt32) :=
  dev.store.rows.map fun r => (r.uid, r.packet_id)

lemma uids_eq_map_ids (dev : Dev) : uids_of dev = (ids dev).map Prod.fst := by
  unfold uids_of ids
  rw [map_map]
  rfl

lemma ids_change {e : StatusEvent} (he : Unstamped e) (dev : Dev) :
    ids (change dev e) = ids dev :=
  map_change _ (fun _ _ huid hid => Prod.ext huid (hid he)) dev

structure Put (u id : UInt32) (l l' : List (UInt32 × UInt32)) : Prop where
  nodup : (l'.map Prod.fst).Nodup
  mem : ∀ p ∈ l', p = (u, id) ∨ p.1 ≠ u ∧ p ∈ l

lemma put_cons {u : UInt32} {l : List (UInt32 × UInt32)} (hl : (l.map Prod.fst).Nodup)
    (hu : u ∉ l.map Prod.fst) (id : UInt32) (cap : ℕ) : Put u id l (((u, id) :: l).take cap) := by
  constructor
  · rw [map_take, map_cons]
    exact (nodup_cons.2 ⟨hu, hl⟩).sublist (take_sublist ..)
  · intro p hp
    rcases mem_cons.1 (mem_of_mem_take hp) with rfl | hp
    · exact .inl rfl
    · exact .inr ⟨fun h => hu (h ▸ mem_map_of_mem hp), hp⟩

lemma put_set {u old : UInt32} {l : List (UInt32 × UInt32)} (hl : (l.map Prod.fst).Nodup)
    {i : ℕ} (hi : l[i]? = some (u, old)) (id : UInt32) : Put u id l (l.set i (u, id)) := by
  obtain ⟨hlt, hget⟩ := List.getElem?_eq_some_iff.1 hi
  have hkey : (l.map Prod.fst)[i]? = some u := by rw [List.getElem?_map, hi, Option.map_some]
  constructor
  · have hsame : (l.set i (u, id)).map Prod.fst = l.map Prod.fst := by
      rw [List.map_set]
      refine (congrArg (fun x => (l.map Prod.fst).set i x) ?_).trans
        (List.set_getElem_self (h := by rwa [List.length_map]))
      rw [List.getElem_map, hget]
    rw [hsame]
    exact hl
  · intro p hp
    obtain ⟨j, hj⟩ := List.mem_iff_getElem?.1 hp
    by_cases hij : i = j
    · subst hij
      rw [List.getElem?_set_self hlt] at hj
      exact .inl (Option.some.inj hj).symm
    · rw [List.getElem?_set_ne hij] at hj
      refine .inr ⟨fun hp => hij ?_, List.mem_of_getElem? hj⟩
      have hkey' : (l.map Prod.fst)[j]? = some u := by
        rw [List.getElem?_map, hj, Option.map_some, hp]
      exact (List.getElem?_inj (by rwa [List.length_map]) hl).1 (hkey.trans hkey'.symm)

lemma stamp_next (cfg : Config) (dev : Dev) (env : Env) (dest_addr : UInt32)
    (data : List UInt8) (uid : UInt32) :
    (stamp cfg dev env dest_addr data uid).store.s_next_uid =
      (row_uid dev uid).1.store.s_next_uid := by
  obtain ⟨-, -, -, -, hnext⟩ :=
    add_row_spec cfg dev env (outgoing dest_addr data env.packet_id .SENT uid)
  unfold stamp msg_store_update_by_uid
  by_cases huid : uid = 0
  · rw [if_pos huid]
    exact hnext
  · rw [if_neg huid]
    rcases find_newest (fun r => r.uid == uid) dev.store.rows with _ | ⟨i, row⟩
    · exact hnext
    · rw [row_uid, if_neg huid]
      rfl

lemma stamp_put (cfg : Config) (hid : env.packet_id ≠ 0) (hdev : (uids_of dev).Nodup)
    {uid : UInt32} (hfresh : uid = 0 → dev.store.s_next_uid ∉ uids_of dev) (dest_addr : UInt32)
    (data : List UInt8) :
    Put (row_uid dev uid).2 env.packet_id (ids dev)
      (ids (stamp cfg dev env dest_addr data uid)) := by
  have hkeys := hdev
  rw [uids_eq_map_ids] at hkeys
  -- the row is added, if there is none
  have hadd : (row_uid dev uid).2 ∉ uids_of dev →
      Put (row_uid dev uid).2 env.packet_id (ids dev)
        (ids (add_row cfg dev env (outgoing dest_addr data env.packet_id .SENT uid))) := by
    intro hnot
    obtain ⟨row, hrows, hrow_id, hrow_uid, -⟩ :=
      add_row_spec cfg dev env (outgoing dest_addr data env.packet_id .SENT uid)
    have hids : ids (add_row cfg dev env (outgoing dest_addr data env.packet_id .SENT uid)) =
        (((row_uid dev uid).2, env.packet_id) :: ids dev).take cfg.cap := by
      rw [ids, hrows, map_take, map_cons, hrow_id, hrow_uid]
      rfl
    rw [hids]
    rw [uids_eq_map_ids] at hnot
    exact put_cons hkeys hnot _ _
  unfold stamp msg_store_update_by_uid
  by_cases huid : uid = 0
  · rw [if_pos huid]
    refine hadd ?_
    rw [row_uid, if_pos huid]
    exact hfresh huid
  · rw [if_neg huid]
    rcases hfound : find_newest (fun r => r.uid == uid) dev.store.rows with _ | ⟨i, row⟩
    · refine hadd ?_
      rw [row_uid, if_neg huid]
      have hfailed : (msg_store_update_by_uid dev uid 0 .SENT).2 = false := by
        simp only [msg_store_update_by_uid, if_neg huid, hfound]
      exact not_mem_of_update_failed hfailed huid
    · have hrow_uid : row.uid = uid := beq_iff_eq.1 (find_newest_pred hfound)
      have hi : (ids dev)[i]? = some (uid, row.packet_id) := by
        rw [ids, getElem?_map, find_newest_some hfound, Option.map_some, hrow_uid]
      have hput := put_set hkeys hi env.packet_id
      rw [if_pos rfl, row_uid, if_neg huid]
      refine Eq.mp (congrArg (Put uid env.packet_id (ids dev)) ?_) hput
      unfold ids write_row
      rw [map_set]
      rw [if_neg hid, (SendTasks.with_status_same row .SENT).1, hrow_uid]

lemma s_next_change (dev : Dev) (e : StatusEvent) :
    (change dev e).store.s_next_uid = dev.store.s_next_uid :=
  change_invariant (P := fun d => d.store.s_next_uid = dev.store.s_next_uid)
    (fun _ _ _ _ h _ => h) rfl

lemma ids_row_uid (dev : Dev) (uid : UInt32) : ids (row_uid dev uid).1 = ids dev := by
  unfold row_uid
  split_ifs <;> rfl

lemma ids_fail_evicted (q : MsgQueue) (dev : Dev) (uid : UInt32) :
    ids (fail_evicted q dev uid) = ids dev := by
  unfold fail_evicted
  generalize evicted q uid = slot
  cases slot with
  | none => rfl
  | some i => exact ids_change (e := fail (q i).uid) rfl dev

lemma s_next_fail_evicted (q : MsgQueue) (dev : Dev) (uid : UInt32) :
    (fail_evicted q dev uid).store.s_next_uid = dev.store.s_next_uid := by
  unfold fail_evicted
  generalize evicted q uid = slot
  cases slot with
  | none => rfl
  | some i => exact s_next_change dev _

lemma stored_spec (cfg : Config) (env : Env) {uid : UInt32} {dev₁ : Dev}
    (hids : ids dev₁ = ids dev)
    (hnext : dev₁.store.s_next_uid = (row_uid dev uid).1.store.s_next_uid)
    (hne : dev.store.s_next_uid ≠ 0) (dest_addr : UInt32) (data : List UInt8) (ok : Bool) :
    (ids (stored cfg dev₁ env dest_addr data uid (row_uid dev uid).2 ok) = ids dev ∨
        uid = 0 ∧ ids (stored cfg dev₁ env dest_addr data uid (row_uid dev uid).2 ok) =
          ((dev.store.s_next_uid, 0) :: ids dev).take cfg.cap) ∧
      (stored cfg dev₁ env dest_addr data uid (row_uid dev uid).2 ok).store.s_next_uid =
        (row_uid dev uid).1.store.s_next_uid := by
  unfold stored
  split_ifs with hok huid
  · have hu : (row_uid dev uid).2 = dev.store.s_next_uid := by
      rw [row_uid, if_pos huid]
      rfl
    obtain ⟨row, hrows, hrow_id, hrow_uid, hrow_next⟩ :=
      add_row_spec cfg dev₁ env (outgoing dest_addr data 0 .NONE (row_uid dev uid).2)
    have hkept : row_uid dev₁ dev.store.s_next_uid = (dev₁, dev.store.s_next_uid) := if_neg hne
    have hkept' : row_uid dev₁ (outgoing dest_addr data 0 .NONE (row_uid dev uid).2).uid =
        (dev₁, dev.store.s_next_uid) := by
      rw [hu]
      exact hkept
    rw [hkept'] at hrow_uid hrow_next
    refine ⟨.inr ⟨huid, ?_⟩, hrow_next.trans hnext⟩
    rw [ids, hrows, map_take, map_cons, hrow_id, hrow_uid, ← hids]
    rfl
  · exact ⟨.inl hids, hnext⟩
  · exact ⟨.inl ((ids_change (e := fail uid) rfl dev₁).trans hids),
      (s_next_change dev₁ _).trans hnext⟩

end

/-! ## The run -/

section

variable {cfg : Config} {n n' : Node}

structure Inv (n : Node) : Prop where
  next : n.dev.store.s_next_uid ≠ 0
  entry : OneEntry n.queue
  rows : (uids_of n.dev).Nodup
  tracked : ∀ f ∈ n.aired, pending_ack_is_active n.acks.table f.packet_id
  stamped : ∀ f ∈ n.aired, ∀ p ∈ ids n.dev, p.1 = f.uid → p.2 = f.packet_id
  unqueued : ∀ f ∈ n.aired, Unqueued n f.uid

lemma Inv.with_dev (h : Inv n) {dev : Dev} (hids : ids dev = ids n.dev)
    (hnext : dev.store.s_next_uid = n.dev.store.s_next_uid) : Inv { n with dev := dev } where
  next := hnext ▸ h.next
  entry := h.entry
  rows := by
    have hrows := h.rows
    rw [uids_eq_map_ids] at hrows ⊢
    rw [hids]
    exact hrows
  tracked := h.tracked
  stamped := fun f hf p hp => h.stamped f hf p (hids ▸ hp)
  unqueued := h.unqueued

lemma Inv.changed (h : Inv n) {e : StatusEvent} (he : Unstamped e) :
    Inv { n with dev := change n.dev e } :=
  h.with_dev (ids_change he n.dev) (s_next_change n.dev e)

variable {q : MsgQueue} {i : Fin MAX_QUEUED_MSGS} {uid dest_addr : UInt32} {env : Env}
  {data : List UInt8}

lemma Inv.with_queue (h : Inv n)
    (hfewer : ∀ uid i, holds uid (q i) → holds uid (n.queue i)) :
    Inv { n with queue := q } where
  next := h.next
  entry := h.entry.of_fewer hfewer
  rows := h.rows
  tracked := h.tracked
  stamped := h.stamped
  unqueued := by
    intro f hf i
    by_contra hheld
    have hold := hfewer f.uid i (Bool.eq_true_of_not_eq_false hheld)
    rw [h.unqueued f hf i] at hold
    cases hold

lemma Inv.freed (h : Inv n) (i : Fin MAX_QUEUED_MSGS) :
    Inv { n with queue := free n.queue i } :=
  h.with_queue fun _ _ hheld => (holds_free hheld).2

lemma Inv.landed_of_used (h : Inv n) (hused : (n.queue i).used)
    (huid : (n.queue i).uid ≠ 0) : Landed n (n.queue i).uid := by
  intro f hf hfuid
  have hheld := h.unqueued f hf i
  rw [hfuid] at hheld
  simp [holds, hused, huid] at hheld

lemma Inv.unqueued_of_used (h : Inv n) (hused : (n.queue i).used)
    (hfewer : ∀ uid j, holds uid (q j) → j ≠ i ∧ holds uid (n.queue j)) :
    Unqueued { n with queue := q } (n.queue i).uid := by
  intro j
  by_contra hheld
  obtain ⟨hj, hold⟩ := hfewer _ j (Bool.eq_true_of_not_eq_false hheld)
  rw [h.entry.not_held hused hj] at hold
  cases hold

lemma fresh_of_fewer (hfresh : Fresh n n')
    (hfewer : ∀ uid j, holds uid (q j) → holds uid (n.queue j)) :
    Fresh { n with queue := q } n' := by
  refine hfresh.imp_right fun ⟨hrows, hqueue, hland⟩ => ⟨hrows, fun j => ?_, hland⟩
  by_contra hheld
  have hold := hfewer _ j (Bool.eq_true_of_not_eq_false hheld)
  rw [hqueue j] at hold
  cases hold

lemma clear_of_fresh (hfresh : Fresh n n')
    (hnext : n'.dev.store.s_next_uid = (row_uid n.dev uid).1.store.s_next_uid)
    (hland : uid ≠ 0 → Landed n uid) :
    Landed n (row_uid n.dev uid).2 ∧
      (uid = 0 → n.dev.store.s_next_uid ∉ uids_of n.dev ∧ Unqueued n n.dev.store.s_next_uid) := by
  by_cases huid : uid = 0
  · rw [row_uid, if_pos huid] at hnext ⊢
    have hne : n'.dev.store.s_next_uid ≠ n.dev.store.s_next_uid := by
      rw [hnext]
      exact next_uid_ne n.dev.store
    obtain ⟨hrows, hqueue, hland⟩ := hfresh.resolve_left hne
    exact ⟨hland, fun _ => ⟨hrows, hqueue⟩⟩
  · rw [row_uid, if_neg huid]
    exact ⟨hland huid, fun h => absurd h huid⟩

lemma row_uid_next_ne (dev : Dev) (uid : UInt32) (h : dev.store.s_next_uid ≠ 0) :
    (row_uid dev uid).1.store.s_next_uid ≠ 0 := by
  unfold row_uid msg_store_next_uid
  split_ifs with huid hwrap
  · have hone : (1 : UInt32) ≠ 0 := by decide
    exact hone
  · exact hwrap
  · exact h

lemma Inv.enqueued (h : Inv n) {dev₁ : Dev} {ok : Bool} (hentry : OneEntry q)
    (hheld : ∀ v i, holds v (q i) → v = (row_uid n.dev uid).2 ∨ holds v (n.queue i))
    (hids : ids dev₁ = ids n.dev)
    (hnext : dev₁.store.s_next_uid = (row_uid n.dev uid).1.store.s_next_uid)
    (hfresh : Fresh n { n with
      queue := q, dev := stored cfg dev₁ env dest_addr data uid (row_uid n.dev uid).2 ok })
    (hland : uid ≠ 0 → Landed n uid) :
    Inv { n with
      queue := q, dev := stored cfg dev₁ env dest_addr data uid (row_uid n.dev uid).2 ok } := by
  obtain ⟨hstored, hstored_next⟩ := stored_spec cfg env hids hnext h.next dest_addr data ok
  obtain ⟨hland', hnew⟩ := clear_of_fresh hfresh hstored_next hland
  refine ⟨?_, hentry, ?_, h.tracked, ?_, ?_⟩
  · rw [hstored_next]
    exact row_uid_next_ne n.dev uid h.next
  · have hrows := h.rows
    rw [uids_eq_map_ids] at hrows ⊢
    rcases hstored with heq | ⟨huid, heq⟩
    · rw [heq]
      exact hrows
    · rw [heq]
      exact (put_cons hrows (uids_eq_map_ids n.dev ▸ (hnew huid).1) _ _).nodup
  · intro f hf p hp hpf
    rcases hstored with heq | ⟨huid, heq⟩
    · rw [heq] at hp
      exact h.stamped f hf p hp hpf
    · rw [heq] at hp
      rcases mem_cons.1 (mem_of_mem_take hp) with rfl | hp
      · rw [row_uid, if_pos huid] at hland'
        exact absurd hpf.symm (hland' f hf)
      · exact h.stamped f hf p hp hpf
  · intro f hf i
    by_contra hheld'
    rcases hheld f.uid i (Bool.eq_true_of_not_eq_false hheld') with heq | hold
    · exact hland' f hf heq
    · rw [h.unqueued f hf i] at hold
      cases hold

lemma Inv.transmitted (h : Inv n) (hid : env.packet_id ≠ 0)
    (hroom : (Table.find (fun e => !e.active) n.acks.table).isSome)
    (hfresh : Fresh n (transmit cfg n dest_addr data uid env)) (hland : uid ≠ 0 → Landed n uid)
    (hqueue : Unqueued n uid) :
    Inv (transmit cfg n dest_addr data uid env) := by
  obtain ⟨hland', hnew⟩ := clear_of_fresh hfresh (stamp_next ..) hland
  have hput := stamp_put cfg hid h.rows (fun huid => (hnew huid).1) dest_addr data
  have hqueue' : Unqueued n (row_uid n.dev uid).2 := by
    by_cases huid : uid = 0
    · rw [row_uid, if_pos huid]
      exact (hnew huid).2
    · rw [row_uid, if_neg huid]
      exact hqueue
  refine ⟨?_, h.entry, ?_, ?_, ?_, ?_⟩
  · show (stamp cfg n.dev env dest_addr data uid).store.s_next_uid ≠ 0
    rw [stamp_next]
    exact row_uid_next_ne n.dev uid h.next
  · rw [uids_eq_map_ids]
    exact hput.nodup
  · intro f hf
    rcases mem_cons.1 hf with rfl | hf
    · obtain ⟨j, hj⟩ := Option.isSome_iff_exists.1 hroom
      refine Reliability.pending_ack_is_active_iff.2 ⟨hid, j, ?_⟩
      dsimp only [transmit, pending_ack_add]
      rw [hj]
      dsimp only
      rw [Function.update_self]
      exact ⟨rfl, rfl⟩
    · exact Reliability.pending_ack_is_active_add (h.tracked f hf) env.packet_id dest_addr .NORMAL
        () env.now
  · intro f hf p hp hpf
    rcases hput.mem p hp with rfl | ⟨hne, hp⟩
    · rcases mem_cons.1 hf with rfl | hf
      · rfl
      · exact absurd hpf.symm (hland' f hf)
    · rcases mem_cons.1 hf with rfl | hf
      · exact absurd hpf hne
      · exact h.stamped f hf p hp hpf
  · intro f hf
    rcases mem_cons.1 hf with rfl | hf
    · exact hqueue'
    · exact h.unqueued f hf

/-- **A send** of a message that is not out, and that is transmitted only if it is not queued. -/
theorem Inv.sent (h : Inv n)
    (hroom : Recorded n (mesh_send_message_uid cfg n dest_addr data uid env))
    (hfresh : Fresh n (mesh_send_message_uid cfg n dest_addr data uid env))
    (hland : uid ≠ 0 → Landed n uid)
    (hqueue : env.stage = .active → Unqueued n uid) :
    Inv (mesh_send_message_uid cfg n dest_addr data uid env) := by
  have hfail : Inv { n with dev := change n.dev (fail uid) } := h.changed (e := fail uid) rfl
  unfold mesh_send_message_uid at hroom hfresh ⊢
  cases hstage : env.stage with
  | no_channel => exact hfail
  | refused => exact hfail
  | no_route =>
    simp only [hstage] at hfresh
    refine h.enqueued (h.entry.queue_message dest_addr data (row_uid n.dev uid).2 env.now)
      (fun v i hheld => holds_queue_message hheld) (ids_row_uid n.dev uid) rfl hfresh hland
  | active =>
    simp only [hstage] at hroom hfresh ⊢
    split_ifs at hroom hfresh ⊢ with hbad
    · exact hfail
    · have htrans : Transmits n (transmit cfg n dest_addr data uid env) :=
        Nat.lt_succ_self _
      exact h.transmitted (fun hzero => hbad (.inr hzero)) (hroom htrans) hfresh hland
        (hqueue hstage)
  | handshake =>
    simp only [hstage] at hfresh ⊢
    split_ifs at hfresh ⊢ with hlong
    · exact hfail
    · refine h.enqueued (h.entry.queue_session_message dest_addr data (row_uid n.dev uid).2 env.now
        env.packet_id) (fun v i hheld => holds_queue_session_message hheld) ?_ ?_ hfresh hland
      · exact (ids_fail_evicted ..).trans (ids_row_uid n.dev uid)
      · exact s_next_fail_evicted ..

/-- **A turn of the flush of a route.**  The message has lost its entry when it is sent. -/
theorem Inv.route_turned (h : Inv n) (hroom : Recorded n (route_turn cfg n dest_addr i env))
    (hfresh : Fresh n (route_turn cfg n dest_addr i env)) :
    Inv (route_turn cfg n dest_addr i env) := by
  unfold route_turn at hroom hfresh ⊢
  split_ifs at hroom hfresh ⊢ with hwaits
  · have hused : (n.queue i).used := by
      simp only [waits_for, Bool.and_eq_true] at hwaits
      exact hwaits.1.1
    have hblank : Inv { n with queue := blank n.queue i } :=
      h.with_queue fun _ _ hheld => (holds_blank hheld).2
    have hsent : Inv (mesh_send_message_uid cfg { n with queue := blank n.queue i } dest_addr
        (n.queue i).data (n.queue i).uid env) :=
      hblank.sent hroom (fresh_of_fewer hfresh fun _ _ hheld => (holds_blank hheld).2)
        (h.landed_of_used hused)
        (fun _ => h.unqueued_of_used hused fun _ _ hheld => holds_blank hheld)
    exact hsent.freed i
  · exact h

lemma Inv.session_turned (h : Inv n) (hroom : Recorded n (session_turn cfg n dest_addr i env))
    (hfresh : Fresh n (session_turn cfg n dest_addr i env)) :
    Inv (session_turn cfg n dest_addr i env) := by
  unfold session_turn at hroom hfresh ⊢
  split_ifs at hroom hfresh ⊢ with hwaits hid
  · exact (h.freed i).changed (e := fail (n.queue i).uid) rfl
  · have hused : (n.queue i).used := by
      simp only [waits_session, Bool.and_eq_true] at hwaits
      exact hwaits.1.1
    -- the transmission does not look at the queue, so the entry may as well be freed before it
    exact (h.freed i).transmitted hid (hroom (Nat.lt_succ_self _))
      (fresh_of_fewer hfresh fun _ _ hheld => (holds_free hheld).2) (h.landed_of_used hused)
      (h.unqueued_of_used hused fun _ _ hheld => holds_free hheld)
  · exact h

lemma Inv.dropped (h : Inv n) (p : QueuedMsg → Bool) (i : Fin MAX_QUEUED_MSGS) :
    Inv (drop_turn p n i) := by
  unfold drop_turn
  split_ifs
  · exact (h.freed i).changed (e := fail (n.queue i).uid) rfl
  · exact h

lemma Inv.with_acks (h : Inv n) {acks : Tracker Unit} {p : Frame → Bool}
    (hkept : ∀ f ∈ n.aired, p f → pending_ack_is_active acks.table f.packet_id) :
    Inv { n with acks := acks, aired := n.aired.filter p } where
  next := h.next
  entry := h.entry
  rows := h.rows
  tracked := fun f hf => hkept f (mem_of_mem_filter hf) (of_mem_filter hf)
  stamped := fun f hf => h.stamped f (mem_of_mem_filter hf)
  unqueued := fun f hf => h.unqueued f (mem_of_mem_filter hf)

lemma Inv.gave_up (h : Inv n) (acks : Tracker Unit) : Inv (give_up n acks) := by
  have hfailed : ∀ (packet_ids : List UInt32) (dev : Dev),
      let dev' := packet_ids.foldl (fun dev id => change dev (.update_status id .FAILED [])) dev
      ids dev' = ids dev ∧ dev'.store.s_next_uid = dev.store.s_next_uid := by
    intro packet_ids
    induction packet_ids with
    | nil => exact fun _ => ⟨rfl, rfl⟩
    | cons id packet_ids ih =>
      intro dev
      obtain ⟨hids, hnext⟩ := ih (change dev (.update_status id .FAILED []))
      exact ⟨hids.trans (ids_change (e := .update_status id .FAILED []) trivial dev),
        hnext.trans (s_next_change dev _)⟩
  obtain ⟨hids, hnext⟩ := hfailed (given_up n.acks.table acks.table) n.dev
  refine Inv.with_acks (n := { n with dev := _ }) (h.with_dev hids hnext) fun f hf hkept => ?_
  rw [h.tracked f hf, Bool.not_true, Bool.false_or] at hkept
  exact hkept

lemma Inv.acked (h : Inv n) (ack_packet_id : UInt32) (route_hops : List UInt32) :
    Inv (handle_ack n ack_packet_id route_hops) := by
  refine Inv.with_acks (n := { n with dev := _ })
    (h.changed (e := .update_status ack_packet_id .DELIVERED route_hops) trivial) fun f hf hne => ?_
  exact Reliability.pending_ack_is_active_remove (h.tracked f hf) (bne_iff_ne.1 hne)

lemma Inv.other_sent (h : Inv n) (packet_id dest_addr : UInt32) (tier : Reliability.MsgTier)
    (now : UInt32) :
    Inv { n with acks := { n.acks with
      table := (pending_ack_add n.acks.table packet_id dest_addr tier () now).1 } } where
  next := h.next
  entry := h.entry
  rows := h.rows
  tracked := fun f hf =>
    Reliability.pending_ack_is_active_add (h.tracked f hf) packet_id dest_addr tier () now
  stamped := h.stamped
  unqueued := h.unqueued

lemma get_copy_spec {msg : StoredMsg} (h : msg_store_get_copy_by_uid n.dev uid = some msg) :
    uid ≠ 0 ∧ msg.uid = uid ∧ (msg.uid, msg.packet_id) ∈ ids n.dev := by
  unfold msg_store_get_copy_by_uid at h
  split_ifs at h with huid
  obtain ⟨⟨i, row⟩, hfound, rfl⟩ := Option.map_eq_some_iff.1 h
  obtain ⟨hrow, hrow_uid⟩ := find_oldest_some hfound
  exact ⟨huid, beq_iff_eq.1 hrow_uid,
    mem_map.2 ⟨row, mem_of_getElem? hrow, rfl⟩⟩

/-- **The check of the acknowledgements works**: a message whose last frame is not waited for is
not out. -/
theorem Inv.landed_of_inactive (h : Inv n) {msg : StoredMsg}
    (hmsg : msg_store_get_copy_by_uid n.dev uid = some msg)
    (hinactive : ¬ pending_ack_is_active n.acks.table msg.packet_id) :
    Landed n msg.uid := by
  intro f hf hfuid
  obtain ⟨-, -, hmem⟩ := get_copy_spec hmsg
  have hid : msg.packet_id = f.packet_id := h.stamped f hf _ hmem hfuid.symm
  rw [hid] at hinactive
  exact hinactive (h.tracked f hf)

/-- **The check of the queue works**: a send that changes the queue found nothing of its message
there. -/
theorem unqueued_of_send (huid : uid ≠ 0)
    (h : (mesh_send_message_uid cfg n dest_addr data uid env).queue ≠ n.queue) :
    Unqueued n uid := by
  have hrow : (row_uid n.dev uid).2 = uid := by rw [row_uid, if_neg huid]
  unfold mesh_send_message_uid at h
  cases hstage : env.stage with
  | no_channel | refused =>
    simp only [hstage] at h
    exact absurd rfl h
  | no_route =>
    simp only [hstage, hrow] at h
    exact not_held_of_queue_message h
  | active =>
    simp only [hstage] at h
    split_ifs at h
    · exact absurd rfl h
    · exact absurd rfl h
  | handshake =>
    simp only [hstage] at h
    split_ifs at h
    · exact absurd rfl h
    · rw [hrow] at h
      exact not_held_of_queue_session_message h

lemma active_of_transmits (h : Transmits n (mesh_send_message_uid cfg n dest_addr data uid env)) :
    env.stage = .active := by
  by_contra hstage
  unfold mesh_send_message_uid at h
  split at h
  · exact Nat.lt_irrefl _ h
  · exact Nat.lt_irrefl _ h
  · next hactive => exact hstage hactive
  · exact Nat.lt_irrefl _ h
  · split_ifs at h <;> exact Nat.lt_irrefl _ h

lemma Inv.retry_cases (h : Inv n) (cfg : Config) (uid : UInt32) (env : Env) :
    retry cfg n uid env = n ∨
      uid ≠ 0 ∧ Landed n uid ∧ ∃ dest_addr data,
        retry cfg n uid env = mesh_send_message_uid cfg n dest_addr data uid env := by
  unfold retry
  rcases hmsg : msg_store_get_copy_by_uid n.dev uid with _ | msg
  · exact .inl rfl
  · obtain ⟨huid, hmsg_uid, -⟩ := get_copy_spec hmsg
    dsimp only
    split_ifs with hactive
    · exact .inl rfl
    · refine .inr
        ⟨huid, hmsg_uid ▸ h.landed_of_inactive hmsg hactive, msg.peer_addr, msg.text, ?_⟩
      rw [hmsg_uid]

lemma Inv.once (h : Inv n) {ev : Event} (hev : Careful cfg n ev) : Once cfg n ev := by
  cases ev with
  | retry uid env =>
    intro hacts
    rcases h.retry_cases cfg uid env with hsame | ⟨huid, hland, dest_addr, data, hsend⟩
    · rw [hsame] at hacts
      rcases hacts with hacts | hacts
      · exact absurd hacts (Nat.lt_irrefl _)
      · exact absurd rfl hacts
    · refine ⟨?_, hland⟩
      rw [hsend] at hacts
      rcases hacts with hacts | hacts
      · exact hev.2.2 (active_of_transmits hacts)
      · exact unqueued_of_send huid hacts
  | _ => trivial

lemma Inv.stored_row (h : Inv n) {m : NewMsg}
    (hfresh : Fresh n { n with dev := add_row cfg n.dev env { m with uid := 0 } }) :
    Inv { n with dev := add_row cfg n.dev env { m with uid := 0 } } := by
  obtain ⟨row, hrows, hrow_id, hrow_uid, hnext⟩ := add_row_spec cfg n.dev env { m with uid := 0 }
  obtain ⟨hland, hnew⟩ := clear_of_fresh hfresh hnext fun hne => absurd rfl hne
  have hids : ids (add_row cfg n.dev env { m with uid := 0 }) =
      (((row_uid n.dev 0).2, m.packet_id) :: ids n.dev).take cfg.cap := by
    rw [ids, hrows, map_take, map_cons, hrow_id, hrow_uid]
    rfl
  have hkeys := h.rows
  rw [uids_eq_map_ids] at hkeys
  have hput := put_cons hkeys (uids_eq_map_ids n.dev ▸ (hnew rfl).1) m.packet_id cfg.cap
  refine ⟨?_, h.entry, ?_, h.tracked, ?_, h.unqueued⟩
  · exact row_uid_next_ne n.dev 0 h.next
  · rw [uids_eq_map_ids, hids]
    exact hput.nodup
  · intro f hf p hp hpf
    rw [hids] at hp
    rcases hput.mem p hp with rfl | ⟨-, hp⟩
    · exact absurd hpf.symm (hland f hf)
    · exact h.stamped f hf p hp hpf

/-- **One step keeps the invariant.** -/
theorem Inv.step (h : Inv n) {ev : Event} (hev : Careful cfg n ev) : Inv (step cfg n ev) := by
  obtain ⟨hroom, hfresh, hpatient⟩ := hev
  cases ev with
  | send dest_addr data uid env => exact h.sent hroom hfresh (fun _ => hpatient.2) hpatient.1
  | retry uid env =>
    have hroom : Recorded n (retry cfg n uid env) := hroom
    have hfresh : Fresh n (retry cfg n uid env) := hfresh
    show Inv (retry cfg n uid env)
    rcases h.retry_cases cfg uid env with hsame | ⟨-, hland, dest_addr, data, hsend⟩
    · rw [hsame]
      exact h
    · rw [hsend] at hroom hfresh ⊢
      exact h.sent hroom hfresh (fun _ => hland) hpatient
  | route_turn dest_addr i env => exact h.route_turned hroom hfresh
  | session_turn dest_addr i env => exact h.session_turned hroom hfresh
  | purge_turn t i => exact h.dropped (expired t) i
  | no_route_turn dest_addr i => exact h.dropped (waits_for dest_addr) i
  | other_frame packet_id dest_addr tier now => exact h.other_sent packet_id dest_addr tier now
  | acked packet_id route_hops => exact h.acked packet_id route_hops
  | tick t random => exact h.gave_up _
  | broken dest_addr => exact h.gave_up _
  | store m env => exact h.stored_row hfresh
  | park uid => exact h.changed (e := .update_by_uid uid 0 .QUEUED) rfl
  | unpark uid => exact h.changed (e := .unpark uid) trivial
  | expire_parked now_s => exact h.changed (e := .expire_parked now_s) trivial

lemma inv_start {dev : Dev} (hrows : (uids_of dev).Nodup) (hnext : dev.store.s_next_uid ≠ 0) :
    Inv (start dev) where
  next := hnext
  entry := fun _ _ _ hi _ => by cases hi
  rows := hrows
  tracked := fun _ hf => by cases hf
  stamped := fun _ hf => by cases hf
  unqueued := fun _ hf => by cases hf

/-- **Parked messages are retried one at a time.** Where each frame is recorded while its message
is out, no message passes its own queue entry and no uid is handed out twice, a retry that
transmits or queues finds nothing of its message in the queue and no frame of it unsettled. -/
theorem retries_once (cfg : Config) (dev : Dev) (hrows : (uids_of dev).Nodup)
    (hnext : dev.store.s_next_uid ≠ 0) (es : List Event)
    (hes : Meets (step cfg) (Careful cfg) (start dev) es) :
    Meets (step cfg) (Once cfg) (start dev) es :=
  meets_imp (fun _ _ h hev => h.once hev) (fun _ _ h hev => h.step hev) (inv_start hrows hnext) hes

end

/-! ## The two holes -/

def small : Config := ⟨20, .spiffs, 50, 75⟩

def env_at (stage : Stage) (packet_id now : UInt32) : Env :=
  ⟨stage, packet_id, now, 0, true, false⟩

def parked : List Event := [.send 5 [104, 105] 0 (env_at .active 10 0), .broken 5, .park 1]

theorem retries_once_parked :
    let es := parked ++ [.retry 1 (env_at .active 11 1000), .retry 1 (env_at .active 12 1001),
      .broken 5, .retry 1 (env_at .no_route 0 1002), .retry 1 (env_at .handshake 13 1003),
      .route_turn 5 0 (env_at .active 14 1004)]
    (uids_of (msg_store_init_with_persistence small .blank)).Nodup ∧
      (msg_store_init_with_persistence small .blank).store.s_next_uid ≠ 0 ∧
      Meets (step small) (Careful small) (start (msg_store_init_with_persistence small .blank)) es ∧
      (es.foldl (step small) (start (msg_store_init_with_persistence small .blank))).aired =
        [⟨1, 14, 1004⟩] ∧
      Meets (step small) (Once small) (start (msg_store_init_with_persistence small .blank)) es :=
  ⟨by decide +kernel, by decide +kernel, by decide +kernel, by decide +kernel,
    retries_once small (msg_store_init_with_persistence small .blank) (by decide +kernel)
      (by decide +kernel)
      (parked ++ [.retry 1 (env_at .active 11 1000), .retry 1 (env_at .active 12 1001),
        .broken 5, .retry 1 (env_at .no_route 0 1002), .retry 1 (env_at .handshake 13 1003),
        .route_turn 5 0 (env_at .active 14 1004)])
      (by decide +kernel)⟩

/-- Retried while eight other frames wait, the message is transmitted twice within a millisecond;
retried without a route and once more with one, it is transmitted while still in the queue. -/
theorem retry_sends_again :
    let n := start (msg_store_init_with_persistence small .blank)
    let others : List Event :=
      [20, 21, 22, 23, 24, 25, 26, 27].map fun id => .other_frame id (id + 100) .CRITICAL 500
    let full := parked ++ others ++
      [.retry 1 (env_at .active 11 1000), .retry 1 (env_at .active 12 1001)]
    let queued := parked ++ [.retry 1 (env_at .no_route 0 1000), .retry 1 (env_at .active 11 2000)]
    SendTasks.msg_store_parked_uids_for_peer (parked.foldl (step small) n).dev 5 0 = [1] ∧
      ((full.foldl (step small) n).aired = [⟨1, 12, 1001⟩, ⟨1, 11, 1000⟩] ∧
        ¬ Meets (step small) (Once small) n full) ∧
      (queued.foldl (step small) n).aired = [⟨1, 11, 2000⟩] ∧
      holds 1 ((queued.foldl (step small) n).queue 0) = true ∧
      ¬ Meets (step small) (Once small) n queued := by
  decide

end BrambleMesh.ParkedRetry
