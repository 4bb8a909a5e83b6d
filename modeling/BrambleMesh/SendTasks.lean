/-
Messages on their way out: the send queue (main/mesh_task.c, main/mesh_dm.c) and the rows of
components/msg_store/msg_store.c. No task holds a lock over more than one call, so a function is
the list of the calls it still has to make (`Op`).
-/
import BrambleMesh.Lib.Jobs
import BrambleMesh.MsgPersist
import BrambleMesh.SendQueue

namespace BrambleMesh.SendTasks

open MsgStore MsgPersist DmSend SendQueue List
open Run
open Fragment (FRAG_MAX_PLAINTEXT)

/-! ## The functions, call by call -/

inductive Stage
  | no_channel
  | no_route
  | active
  | refused
  | handshake
deriving DecidableEq, Repr

structure Env where
  stage : Stage
  packet_id : UInt32
  now : UInt32
  uptime_s : UInt32
  malloc_ok : Bool
  awaits_ack : Bool
deriving DecidableEq, Repr

inductive Op
  | send (dest_addr : UInt32) (data : List UInt8) (uid : UInt32)
  | queue (reason : QueueReason) (dest_addr : UInt32) (data : List UInt8) (uid row_uid : UInt32)
  | add (m : NewMsg)
  | change (e : StatusEvent)
  | stamp (dest_addr : UInt32) (data : List UInt8) (uid packet_id : UInt32)
  | retry (uid : UInt32)
  | route_turn (dest_addr : UInt32) (i : Fin MAX_QUEUED_MSGS)
  | session_turn (dest_addr : UInt32) (i : Fin MAX_QUEUED_MSGS)
  | stamp_slot (dest_addr : UInt32) (i : Fin MAX_QUEUED_MSGS) (packet_id : UInt32)
  | add_slot (dest_addr : UInt32) (i : Fin MAX_QUEUED_MSGS) (packet_id : UInt32)
  | fail_slot (i : Fin MAX_QUEUED_MSGS)
  | free (i : Fin MAX_QUEUED_MSGS)
  | purge_turn (t : UInt32) (i : Fin MAX_QUEUED_MSGS)
  | no_route_turn (dest_addr : UInt32) (i : Fin MAX_QUEUED_MSGS)
deriving DecidableEq

def outgoing (dest_addr : UInt32) (data : List UInt8) (packet_id : UInt32) (status : MsgStatus)
    (uid : UInt32) : NewMsg :=
  ⟨dest_addr, .OUTGOING, data, ⟨0, 0, 0⟩, packet_id, status, MSG_STORE_DM_CHANNEL, uid⟩

variable (cfg : Config)

def add_row (dev : Dev) (env : Env) (m : NewMsg) : Dev :=
  MsgPersist.msg_store_add_full cfg dev env.malloc_ok
    { m with rx := { m.rx with uptime_s := env.uptime_s } }

def fail (uid : UInt32) : StatusEvent := .update_by_uid uid 0 .FAILED

def msg_store_get_copy_by_uid (dev : Dev) (uid : UInt32) : Option StoredMsg :=
  if uid = 0 then none else (find_oldest (fun r => r.uid == uid) dev.store.rows).map Prod.snd

def msg_store_parked_uids_for_peer (dev : Dev) (peer_addr now_s : UInt32) : List UInt32 :=
  (dev.store.rows.reverse.filter fun m =>
    is_parked_dm m && m.peer_addr == peer_addr && !past_park_window m now_s).map StoredMsg.uid

def fail_evicted (q : MsgQueue) (dev : Dev) (uid : UInt32) : Dev :=
  match evicted q uid with
  | some i => change dev (fail (q i).uid)
  | none => dev

def row_uid (dev : Dev) (uid : UInt32) : Dev × UInt32 :=
  if uid = 0 then
    ({ dev with store := (msg_store_next_uid dev.store).1 }, (msg_store_next_uid dev.store).2)
  else (dev, uid)

def queued (dest_addr : UInt32) (data : List UInt8) (uid row_uid : UInt32) (ok : Bool) : List Op :=
  if ok then
    if uid = 0 then [.add (outgoing dest_addr data 0 .NONE row_uid)] else []
  else [.change (fail uid)]

def exec (q : MsgQueue) (dev : Dev) (env : Env) : Op → MsgQueue × Dev × List Op
  | .send dest_addr data uid =>
    match env.stage with
    | .no_channel => (q, dev, [.change (fail uid)])
    | .no_route =>
      (q, (row_uid dev uid).1, [.queue .ROUTE dest_addr data uid (row_uid dev uid).2])
    | .active =>
      if data.length > FRAG_MAX_PLAINTEXT ∨ env.packet_id = 0 then (q, dev, [.change (fail uid)])
      else (q, dev, [.stamp dest_addr data uid env.packet_id])
    | .refused => (q, dev, [.change (fail uid)])
    | .handshake =>
      if data.length > FRAG_MAX_PLAINTEXT then (q, dev, [.change (fail uid)])
      else (q, (row_uid dev uid).1, [.queue .SESSION dest_addr data uid (row_uid dev uid).2])
  | .queue .ROUTE dest_addr data uid row_uid =>
    let r := queue_message q dest_addr data row_uid env.now
    (r.1, dev, queued dest_addr data uid row_uid r.2)
  | .queue .SESSION dest_addr data uid row_uid =>
    let r := queue_session_message q dest_addr data row_uid env.now env.packet_id
    (r.1, fail_evicted q dev row_uid, queued dest_addr data uid row_uid (r.2 != 0))
  | .add m => (q, add_row cfg dev env m, [])
  | .change e => (q, change dev e, [])
  | .stamp dest_addr data uid packet_id =>
    let r := msg_store_update_by_uid dev uid packet_id .SENT
    (q, r.1, if r.2 then [] else [.add (outgoing dest_addr data packet_id .SENT uid)])
  | .retry uid =>
    match msg_store_get_copy_by_uid dev uid with
    | none => (q, dev, [])
    | some msg => (q, dev, if env.awaits_ack then [] else [.send msg.peer_addr msg.text msg.uid])
  | .route_turn dest_addr i =>
    if waits_for dest_addr (q i) then
      (blank q i, dev, [.send dest_addr (q i).data (q i).uid, .free i])
    else (q, dev, [])
  | .session_turn dest_addr i =>
    if waits_session dest_addr (q i) then
      (q, dev,
        [if env.packet_id = 0 then .fail_slot i else .stamp_slot dest_addr i env.packet_id,
          .free i])
    else (q, dev, [])
  | .stamp_slot dest_addr i packet_id =>
    let r := msg_store_update_by_uid dev (q i).uid packet_id .SENT
    (q, r.1, if r.2 then [] else [.add_slot dest_addr i packet_id])
  | .add_slot dest_addr i packet_id =>
    (q, add_row cfg dev env (outgoing dest_addr (q i).data packet_id .SENT (q i).uid), [])
  | .fail_slot i => (q, change dev (fail (q i).uid), [])
  | .free i => (free q i, dev, [])
  | .purge_turn t i => (q, dev, if expired t (q i) then [.fail_slot i, .free i] else [])
  | .no_route_turn dest_addr i =>
    (q, dev, if waits_for dest_addr (q i) then [.fail_slot i, .free i] else [])

/-! ## The tasks -/

structure Sender where
  queue : MsgQueue
  dev : Dev
  jobs : List (List Op)

def unused : QueuedMsg := ⟨0, [], 0, false, .ROUTE, 0, 0⟩

def start (dev : Dev) : Sender := ⟨fun _ => unused, dev, []⟩

inductive Call
  | mesh_send_message (dest_addr : UInt32) (data : List UInt8)
  | mesh_resend_message (dest_addr : UInt32) (data : List UInt8) (uid : UInt32)
  | flush_queued_messages (dest_addr : UInt32)
  | flush_session_queue (dest_addr : UInt32)
  | mesh_flush_parked_for (peer_addr now_s : UInt32)
  | purge (t : UInt32)
  | discovery_failed (dest_addr : UInt32)
  | store (m : NewMsg)
  | status (e : StatusEvent)
deriving DecidableEq

def turns (turn : Fin MAX_QUEUED_MSGS → Op) : List Op := (List.finRange MAX_QUEUED_MSGS).map turn

def Call.ops (dev : Dev) : Call → List Op
  | .mesh_send_message dest_addr data => [.send dest_addr data 0]
  | .mesh_resend_message dest_addr data uid => [.send dest_addr data uid]
  | .flush_queued_messages dest_addr => turns (.route_turn dest_addr)
  | .flush_session_queue dest_addr => turns (.session_turn dest_addr)
  | .mesh_flush_parked_for peer_addr now_s =>
    (msg_store_parked_uids_for_peer dev peer_addr now_s).map .retry
  | .purge t => turns (.purge_turn t)
  | .discovery_failed dest_addr => turns (.no_route_turn dest_addr)
  | .store m => [.add { m with uid := 0 }]
  | .status e => [.change e]

inductive Event
  | call (c : Call)
  | run (k : ℕ) (env : Env)
deriving DecidableEq

def step (s : Sender) : Event → Sender
  | .call c => { s with jobs := s.jobs ++ [c.ops s.dev] }
  | .run k env =>
    match Jobs.next s.jobs k with
    | none => s
    | some (op, jobs) =>
      ⟨(exec cfg s.queue s.dev env op).1, (exec cfg s.queue s.dev env op).2.1,
        Jobs.resume jobs k (exec cfg s.queue s.dev env op).2.2⟩

/-! ## Rows that are owed -/

def named (uid : UInt32) : List UInt32 := if uid = 0 then [] else [uid]

def owes (q : MsgQueue) : Op → List UInt32
  | .add m => named m.uid
  | .queue _ _ _ uid row_uid => if uid = 0 then named row_uid else []
  | .add_slot _ i _ => named (q i).uid
  | _ => []

def seeks (q : MsgQueue) : Op → List UInt32
  | .stamp _ _ uid _ => named uid
  | .stamp_slot _ i _ => named (q i).uid
  | _ => []

def adds_slot : Op → Option (Fin MAX_QUEUED_MSGS)
  | .add_slot _ i _ => some i
  | _ => none

def uids_of (dev : Dev) : List UInt32 := dev.store.rows.map StoredMsg.uid

def Sender.owed (s : Sender) : List UInt32 := s.jobs.flatten.flatMap (owes s.queue)

def sought (s : Sender) : Event → List UInt32
  | .call _ => []
  | .run k _ =>
    match Jobs.next s.jobs k with
    | none => []
    | some (op, _) => seeks s.queue op

def Settled (s : Sender) (ev : Event) : Prop := ∀ uid ∈ sought s ev, uid ∉ s.owed

def Fresh (s s' : Sender) : Prop :=
  s'.dev.store.s_next_uid = s.dev.store.s_next_uid ∨
    s.dev.store.s_next_uid ∉ uids_of s.dev ++ s.owed
deriving Decidable

def Untouched (s s' : Sender) : Prop :=
  ∀ i ∈ s'.jobs.flatten.filterMap adds_slot, (s'.queue i).uid = (s.queue i).uid

def Orderly (s : Sender) (ev : Event) : Prop :=
  Settled s ev ∧ Fresh s (step cfg s ev) ∧ Untouched s (step cfg s ev)

instance (s : Sender) (ev : Event) : Decidable (Settled s ev) :=
  List.decidableBAll (fun uid => uid ∉ s.owed) (sought s ev)

instance (s s' : Sender) : Decidable (Untouched s s') :=
  inferInstanceAs (Decidable (∀ i ∈ s'.jobs.flatten.filterMap adds_slot,
    (s'.queue i).uid = (s.queue i).uid))

instance (s : Sender) (ev : Event) : Decidable (Orderly cfg s ev) :=
  inferInstanceAs (Decidable (_ ∧ _))

def OneRow (s : Sender) : Prop := (uids_of s.dev).Nodup
deriving Decidable

/-! ## What a call does to the rows -/

section

variable {cfg : Config} {q q' : MsgQueue} {dev dev' : Dev} {env : Env} {op : Op} {ops : List Op}
  {m : NewMsg}

lemma map_write_row {β : Type} (f : StoredMsg → β) {i : ℕ} {row row' : StoredMsg}
    (hrow : dev.store.rows[i]? = some row) (hsame : f row' = f row) (changed : Bool) :
    (write_row dev i row' changed).store.rows.map f = dev.store.rows.map f := by
  obtain ⟨hi, rfl⟩ := List.getElem?_eq_some_iff.1 hrow
  show (dev.store.rows.set i row').map f = dev.store.rows.map f
  rw [List.map_set, hsame, ← List.getElem_map f (h := by rwa [List.length_map]),
    List.set_getElem_self]

def Unstamped : StatusEvent → Prop
  | .update_by_uid _ packet_id _ => packet_id = 0
  | _ => True

lemma with_status_same (row : StoredMsg) (status : MsgStatus) :
    (with_status row status).uid = row.uid ∧
      (with_status row status).packet_id = row.packet_id := by
  unfold with_status
  split_ifs <;> exact ⟨rfl, rfl⟩

lemma rewrite_same (e : StatusEvent) (row : StoredMsg) :
    (e.rewrite row).uid = row.uid ∧
      (Unstamped e → (e.rewrite row).packet_id = row.packet_id) := by
  cases e with
  | update_status packet_id status route_hops =>
    obtain ⟨huid, hid⟩ := with_status_same row status
    rw [StatusEvent.rewrite]
    split_ifs <;> exact ⟨huid, fun _ => hid⟩
  | update_by_uid uid packet_id status =>
    exact ⟨(with_status_same row status).1, fun he => if_pos he⟩
  | unpark | expire_parked => exact ⟨rfl, fun _ => rfl⟩

/-- **A change of statuses** adds no row, and rewrites neither uids nor, unless it stamps one,
packet ids. -/
theorem map_change {β : Type} (f : StoredMsg → β) {e : StatusEvent}
    (hf : ∀ row row' : StoredMsg, row'.uid = row.uid →
      (Unstamped e → row'.packet_id = row.packet_id) → f row' = f row) (dev : Dev) :
    (change dev e).store.rows.map f = dev.store.rows.map f := by
  apply change_invariant (P := fun d => d.store.rows.map f = dev.store.rows.map f)
  · intro d i row changed h hrow
    obtain ⟨huid, hid⟩ := rewrite_same e row
    exact (map_write_row f hrow (hf row _ huid hid) changed).trans h
  · rfl

lemma uids_change (dev : Dev) (e : StatusEvent) : uids_of (change dev e) = uids_of dev :=
  map_change StoredMsg.uid (fun _ _ huid _ => huid) dev

lemma not_mem_of_update_failed {uid packet_id : UInt32} {status : MsgStatus}
    (h : (msg_store_update_by_uid dev uid packet_id status).2 = false) (huid : uid ≠ 0) :
    uid ∉ uids_of dev := by
  unfold msg_store_update_by_uid at h
  rw [if_neg huid] at h
  rcases hfound : find_newest (fun r => r.uid == uid) dev.store.rows with _ | ⟨i, row⟩
  · intro hmem
    obtain ⟨row, hrow, hrow_uid⟩ := mem_map.1 hmem
    obtain ⟨j, hj⟩ := find_newest_isSome (p := fun r => r.uid == uid) hrow (beq_iff_eq.2 hrow_uid)
    rw [hfound] at hj
    cases hj
  · rw [hfound] at h
    cases h

lemma next_uid_ne (st : Store) : (msg_store_next_uid st).1.s_next_uid ≠ st.s_next_uid := by
  unfold msg_store_next_uid
  dsimp only
  split_ifs with h
  · intro heq
    rw [← heq] at h
    cases h
  · intro heq
    simp at heq

lemma add_row_spec (cfg : Config) (dev : Dev) (env : Env) (m : NewMsg) :
    ∃ row : StoredMsg,
      (add_row cfg dev env m).store.rows = (row :: dev.store.rows).take cfg.cap ∧
      row.packet_id = m.packet_id ∧ row.uid = (row_uid dev m.uid).2 ∧
      (add_row cfg dev env m).store.s_next_uid = (row_uid dev m.uid).1.store.s_next_uid := by
  unfold add_row MsgPersist.msg_store_add_full take_uid row_uid
  split_ifs <;> exact ⟨_, rfl, rfl, rfl, rfl⟩

def Accounted (q : MsgQueue) (dev : Dev) (op : Op) (r : MsgQueue × Dev × List Op) : Prop :=
  ∃ extra, (uids_of r.2.1 ++ r.2.2.flatMap (owes r.1)).Subperm (uids_of dev ++ owes q op ++ extra) ∧
    (extra = [] ∨
      extra = [dev.store.s_next_uid] ∧ r.2.1.store.s_next_uid ≠ dev.store.s_next_uid ∨
      ∃ uid ∈ seeks q op, extra = [uid] ∧ uid ∉ uids_of dev)

lemma accounted_of_le (huids : uids_of dev' = uids_of dev)
    (howes : (ops.flatMap (owes q')).Subperm (owes q op)) : Accounted q dev op (q', dev', ops) := by
  refine ⟨[], ?_, .inl rfl⟩
  rw [append_nil]
  rw [huids]
  exact (subperm_append_left _).2 howes

lemma accounted_of_quiet (huids : uids_of dev' = uids_of dev)
    (hquiet : ops.flatMap (owes q') = []) : Accounted q dev op (q', dev', ops) :=
  accounted_of_le huids (hquiet ▸ nil_subperm)

lemma accounted_of_new (uid : UInt32) (huids : uids_of dev' = uids_of dev)
    (hnew : ops.flatMap (owes q') = named uid)
    (hextra : uid = dev.store.s_next_uid ∧ dev'.store.s_next_uid ≠ dev.store.s_next_uid ∨
      uid ∈ seeks q op ∧ uid ∉ uids_of dev) : Accounted q dev op (q', dev', ops) := by
  refine ⟨[uid], ?_, .inr ?_⟩
  · rw [huids, hnew, append_assoc, subperm_append_left]
    unfold named
    split_ifs
    · exact nil_subperm
    · exact (sublist_append_right ..).subperm
  · rcases hextra with ⟨rfl, hne⟩ | ⟨hseeks, hnot⟩
    · exact .inl ⟨rfl, hne⟩
    · exact .inr ⟨uid, hseeks, rfl, hnot⟩

lemma accounted_add_row (hop : owes q op = named m.uid) (env : Env) :
    Accounted q dev op (q, add_row cfg dev env m, []) := by
  have hrow : (uids_of (add_row cfg dev env m) ++ ([] : List Op).flatMap (owes q)).Subperm
      (uids_of dev ++ [(row_uid dev m.uid).2]) := by
    obtain ⟨row, hrows, -, huid, -⟩ := add_row_spec cfg dev env m
    rw [uids_of, hrows, map_take, map_cons, huid, flatMap_nil, append_nil]
    exact (take_sublist ..).subperm.trans (perm_append_singleton ..).symm.subperm
  by_cases huid : m.uid = 0
  · obtain ⟨-, -, -, -, hnext⟩ := add_row_spec cfg dev env m
    rw [row_uid, if_pos huid] at hrow hnext
    refine ⟨[dev.store.s_next_uid], ?_, .inr (.inl ⟨rfl, ?_⟩)⟩
    · rw [append_assoc]
      exact hrow.trans ((subperm_append_left _).2 (sublist_append_right ..).subperm)
    · rw [hnext]
      exact next_uid_ne dev.store
  · rw [row_uid, if_neg huid] at hrow
    refine ⟨[], ?_, .inl rfl⟩
    rw [hop, named, if_neg huid, append_nil]
    exact hrow

lemma owes_queued (q : MsgQueue) (dest_addr : UInt32) (data : List UInt8) (uid row_uid : UInt32)
    (ok : Bool) :
    ((queued dest_addr data uid row_uid ok).flatMap (owes q)).Subperm
      (if uid = 0 then named row_uid else []) := by
  unfold queued
  split_ifs
  · rw [flatMap_cons, flatMap_nil, append_nil]
    exact Subperm.refl _
  · exact Subperm.refl _
  · exact nil_subperm
  · exact nil_subperm

lemma accounted_row_uid (reason : QueueReason) (dest_addr : UInt32) (data : List UInt8)
    (uid : UInt32) :
    Accounted q dev (.send dest_addr data uid)
      (q, (row_uid dev uid).1, [.queue reason dest_addr data uid (row_uid dev uid).2]) := by
  by_cases huid : uid = 0
  · rw [row_uid, if_pos huid]
    refine accounted_of_new dev.store.s_next_uid rfl ?_
      (.inl ⟨rfl, next_uid_ne dev.store⟩)
    simp only [flatMap_cons, flatMap_nil, append_nil, owes, if_pos huid]
    rfl
  · rw [row_uid, if_neg huid]
    refine accounted_of_quiet rfl ?_
    simp only [flatMap_cons, flatMap_nil, append_nil, owes, if_neg huid]

lemma uids_fail_evicted (q : MsgQueue) (dev : Dev) (uid : UInt32) :
    uids_of (fail_evicted q dev uid) = uids_of dev := by
  unfold fail_evicted
  generalize evicted q uid = slot
  cases slot with
  | none => rfl
  | some i => exact uids_change dev _

lemma accounted_stamp {uid packet_id : UInt32} {add : Op} (hseeks : seeks q op = named uid)
    (hadd : owes q add = named uid) :
    Accounted q dev op
      (q, (msg_store_update_by_uid dev uid packet_id .SENT).1,
        if (msg_store_update_by_uid dev uid packet_id .SENT).2 then [] else [add]) := by
  have huids : uids_of (msg_store_update_by_uid dev uid packet_id .SENT).1 = uids_of dev :=
    uids_change dev (.update_by_uid uid packet_id .SENT)
  rcases hfound : (msg_store_update_by_uid dev uid packet_id .SENT).2 with _ | _
  · rw [if_neg Bool.false_ne_true]
    by_cases huid : uid = 0
    · refine accounted_of_quiet huids ?_
      rw [flatMap_cons, flatMap_nil, append_nil, hadd, named, if_pos huid]
    · refine accounted_of_new uid huids ?_ (.inr ⟨?_, not_mem_of_update_failed hfound huid⟩)
      · rw [flatMap_cons, flatMap_nil, append_nil, hadd]
      · rw [hseeks, named, if_neg huid]
        exact mem_singleton_self uid
  · exact accounted_of_quiet huids rfl

lemma exec_accounted (cfg : Config) (q : MsgQueue) (dev : Dev) (env : Env) (op : Op) :
    Accounted q dev op (exec cfg q dev env op) := by
  cases op with
  | send dest_addr data uid =>
    rw [exec]
    cases env.stage with
    | no_channel => exact accounted_of_quiet rfl rfl
    | no_route => exact accounted_row_uid ..
    | active =>
      dsimp only
      split_ifs <;> exact accounted_of_quiet rfl rfl
    | refused => exact accounted_of_quiet rfl rfl
    | handshake =>
      dsimp only
      split_ifs
      · exact accounted_of_quiet rfl rfl
      · exact accounted_row_uid ..
  | queue reason dest_addr data uid row_uid =>
    cases reason with
    | ROUTE => exact accounted_of_le rfl (owes_queued ..)
    | SESSION => exact accounted_of_le (uids_fail_evicted ..) (owes_queued ..)
  | add m => exact accounted_add_row rfl env
  | change e => exact accounted_of_quiet (uids_change dev e) rfl
  | stamp dest_addr data uid packet_id => exact accounted_stamp rfl rfl
  | retry uid =>
    rw [exec]
    generalize msg_store_get_copy_by_uid dev uid = copy
    cases copy with
    | none => exact accounted_of_quiet rfl rfl
    | some msg =>
      split_ifs <;> exact accounted_of_quiet rfl rfl
  | route_turn | session_turn | purge_turn | no_route_turn =>
    rw [exec]
    split_ifs <;> exact accounted_of_quiet rfl rfl
  | stamp_slot dest_addr i packet_id => exact accounted_stamp rfl rfl
  | add_slot dest_addr i packet_id => exact accounted_add_row rfl env
  | fail_slot i => exact accounted_of_quiet (uids_change dev _) rfl
  | free i => exact accounted_of_quiet rfl rfl

end

/-! ## The run -/

section

variable {cfg : Config} {s : Sender}

structure Inv (s : Sender) : Prop where
  entry : OneEntry s.queue
  apart : (uids_of s.dev ++ s.owed).Nodup

lemma oneEntry_exec {q : MsgQueue} (h : OneEntry q) (cfg : Config) (dev : Dev) (env : Env)
    (op : Op) : OneEntry (exec cfg q dev env op).1 := by
  cases op with
  | send dest_addr data uid =>
    rw [exec]
    cases env.stage with
    | no_channel | no_route | refused => exact h
    | active | handshake =>
      split_ifs <;> exact h
  | queue reason dest_addr data uid row_uid =>
    cases reason with
    | ROUTE => exact h.queue_message dest_addr data row_uid env.now
    | SESSION => exact h.queue_session_message dest_addr data row_uid env.now env.packet_id
  | retry uid =>
    rw [exec]
    generalize msg_store_get_copy_by_uid dev uid = copy
    cases copy <;> exact h
  | route_turn dest_addr i =>
    rw [exec]
    split_ifs
    · exact h.blank i
    · exact h
  | session_turn dest_addr i =>
    rw [exec]
    split_ifs <;> exact h
  | free i => exact h.free i
  | add | change | stamp | stamp_slot | add_slot | fail_slot | purge_turn | no_route_turn => exact h

lemma step_run_none {k : ℕ} (h : Jobs.next s.jobs k = none) (cfg : Config) (env : Env) :
    step cfg s (.run k env) = s := by
  simp only [step, h]

lemma step_run_some {k : ℕ} {op : Op} {rest : List (List Op)}
    (h : Jobs.next s.jobs k = some (op, rest)) (cfg : Config) (env : Env) :
    step cfg s (.run k env) =
      ⟨(exec cfg s.queue s.dev env op).1, (exec cfg s.queue s.dev env op).2.1,
        Jobs.resume rest k (exec cfg s.queue s.dev env op).2.2⟩ := by
  simp only [step, h]

lemma oneEntry_step (h : OneEntry s.queue) (cfg : Config) (ev : Event) :
    OneEntry (step cfg s ev).queue := by
  cases ev with
  | call c => exact h
  | run k env =>
    rcases hnext : Jobs.next s.jobs k with _ | ⟨op, rest⟩
    · rw [step_run_none hnext]
      exact h
    · rw [step_run_some hnext]
      exact oneEntry_exec h cfg s.dev env op

lemma owes_call (q : MsgQueue) (dev : Dev) (c : Call) : (c.ops dev).flatMap (owes q) = [] := by
  cases c with
  | mesh_send_message | mesh_resend_message | store | status => rfl
  | mesh_flush_parked_for peer_addr now_s =>
    rw [Call.ops, flatMap_map]
    exact flatMap_eq_nil_iff.2 fun _ _ => rfl
  | flush_queued_messages | flush_session_queue | purge | discovery_failed =>
    rw [Call.ops, turns, flatMap_map]
    exact flatMap_eq_nil_iff.2 fun _ _ => rfl

lemma owes_congr {q q' : MsgQueue} {op : Op}
    (h : ∀ i, adds_slot op = some i → (q' i).uid = (q i).uid) : owes q' op = owes q op := by
  cases op with
  | add_slot dest_addr i packet_id => rw [owes, owes, h i rfl]
  | _ => rfl

lemma nodup_of_subperm {l l' : List UInt32} (h : l.Subperm l') (hl' : l'.Nodup) : l.Nodup := by
  obtain ⟨m, hperm, hsub⟩ := h
  exact hperm.nodup_iff.1 (hl'.sublist hsub)

/-- **One call keeps rows apart.** -/
theorem apart_run (h : (uids_of s.dev ++ s.owed).Nodup) {k : ℕ} {env : Env}
    (hev : Orderly cfg s (.run k env)) :
    (uids_of (step cfg s (.run k env)).dev ++ (step cfg s (.run k env)).owed).Nodup := by
  obtain ⟨hsettled, hfresh, huntouched⟩ := hev
  rcases hnext : Jobs.next s.jobs k with _ | ⟨op, rest⟩
  · rw [step_run_none hnext]
    exact h
  · rw [step_run_some hnext] at hfresh huntouched ⊢
    simp only [Settled, sought, hnext] at hsettled
    obtain ⟨extra, hsub, hextra⟩ := exec_accounted cfg s.queue s.dev env op
    generalize exec cfg s.queue s.dev env op = r at hsub hextra hfresh huntouched ⊢
    have hjobs := Jobs.flatten_step hnext r.2.2
    -- the other calls owe what they owed
    have hrest : rest.flatten.flatMap (owes r.1) = rest.flatten.flatMap (owes s.queue) := by
      refine flatMap_congr fun o ho => owes_congr fun i hi => huntouched i ?_
      exact mem_filterMap.2 ⟨o, hjobs.mem_iff.2 (mem_append_right _ ho), hi⟩
    have howed : s.owed.Perm (owes s.queue op ++ rest.flatten.flatMap (owes s.queue)) :=
      (Jobs.flatten_next hnext).flatMap_right _
    have howed' : ((Jobs.resume rest k r.2.2).flatten.flatMap (owes r.1)).Perm
        (r.2.2.flatMap (owes r.1) ++ rest.flatten.flatMap (owes s.queue)) := by
      rw [← hrest, ← flatMap_append]
      exact hjobs.flatMap_right _
    have hall : (uids_of r.2.1 ++ (Jobs.resume rest k r.2.2).flatten.flatMap (owes r.1)).Subperm
        (extra ++ (uids_of s.dev ++ s.owed)) := by
      refine (howed'.append_left _).subperm.trans ?_
      rw [← append_assoc]
      refine ((subperm_append_right _).2 hsub).trans (Perm.subperm ?_)
      refine (perm_append_comm.append_right _).trans ?_
      rw [append_assoc, append_assoc]
      exact (howed.symm.append_left _).append_left _
    have hnodup : (extra ++ (uids_of s.dev ++ s.owed)).Nodup := by
      rcases hextra with rfl | ⟨rfl, hne⟩ | ⟨uid, hseeks, rfl, hnot⟩
      · exact h
      · rw [singleton_append, nodup_cons]
        exact ⟨hfresh.resolve_left hne, h⟩
      · rw [singleton_append, nodup_cons]
        refine ⟨fun hmem => ?_, h⟩
        rcases mem_append.1 hmem with hmem | hmem
        · exact hnot hmem
        · exact hsettled uid hseeks hmem
    exact nodup_of_subperm hall hnodup

lemma Inv.step (h : Inv s) {ev : Event} (hev : Orderly cfg s ev) : Inv (step cfg s ev) := by
  refine ⟨oneEntry_step h.entry cfg ev, ?_⟩
  cases ev with
  | call c =>
    have howed : (SendTasks.step cfg s (.call c)).owed = s.owed := by
      show (s.jobs ++ [c.ops s.dev]).flatten.flatMap (owes s.queue) = _
      rw [flatten_append, flatMap_append, flatten_singleton, owes_call,
        append_nil]
      rfl
    rw [howed]
    exact h.apart
  | run k env => exact apart_run h.apart hev

/-- **One entry, one row**: however the calls interleave, no uid has two entries of the queue; and
none has two rows, as long as no function looks for a row that another one owes, no uid is handed
out twice, and no entry is taken from a flush that is about to store its message. -/
theorem one_entry_one_row (cfg : Config) (dev : Dev) (hdev : (uids_of dev).Nodup)
    (es : List Event) :
    OneEntry (es.foldl (step cfg) (start dev)).queue ∧
      (Meets (step cfg) (Orderly cfg) (start dev) es →
        OneRow (es.foldl (step cfg) (start dev))) := by
  have hentry : OneEntry (start dev).queue := fun _ _ _ hi => Bool.noConfusion hi
  have hstart : Inv (start dev) := ⟨hentry, by rwa [Sender.owed, start, flatten_nil,
    flatMap_nil, append_nil]⟩
  constructor
  · exact foldl_invariant (I := fun s : Sender => OneEntry s.queue) (C := fun _ _ => True)
      (fun s ev h _ => oneEntry_step h cfg ev) (meets_of_forall (fun _ _ _ => trivial) _) hentry
  · intro hrun
    have hinv := foldl_invariant (fun s ev h hev => h.step hev) hrun hstart
    exact (nodup_append.1 hinv.apart).1

def fresh_sender : Sender :=
  start (msg_store_init_with_persistence ⟨20, .spiffs, 50, 75⟩ .blank)

def now_run (k : ℕ) (stage : Stage) (packet_id : UInt32) : Event :=
  .run k ⟨stage, packet_id, 0, 0, true, false⟩

def flushed_later : List Event :=
  [.call (.mesh_send_message 5 [104, 105]), now_run 0 .handshake 0, now_run 0 .handshake 70,
    now_run 0 .handshake 0, .call (.flush_session_queue 5), now_run 1 .active 71,
    now_run 1 .active 0, now_run 1 .active 0]

theorem one_entry_one_row_flushed :
    (Meets (step ⟨20, .spiffs, 50, 75⟩) (Orderly ⟨20, .spiffs, 50, 75⟩) fresh_sender
        flushed_later ∧
      uids_of (flushed_later.foldl (step ⟨20, .spiffs, 50, 75⟩) fresh_sender).dev = [1]) ∧
      OneEntry (flushed_later.foldl (step ⟨20, .spiffs, 50, 75⟩) fresh_sender).queue ∧
      OneRow (flushed_later.foldl (step ⟨20, .spiffs, 50, 75⟩) fresh_sender) :=
  have hrun : Meets (step ⟨20, .spiffs, 50, 75⟩) (Orderly ⟨20, .spiffs, 50, 75⟩) fresh_sender
      flushed_later := by decide +kernel
  have h := one_entry_one_row ⟨20, .spiffs, 50, 75⟩
    (msg_store_init_with_persistence ⟨20, .spiffs, 50, 75⟩ .blank) (by decide +kernel) flushed_later
  ⟨⟨hrun, by decide +kernel⟩, h.1, h.2 hrun⟩

/-- **Two rows for one message**: while the sender transmits its INIT, the INIT of the peer opens
the session and the handshake worker flushes the message, whose row is not there yet. -/
theorem crossing_flush_stores_twice :
    let es : List Event :=
      [.call (.mesh_send_message 5 [104, 105]), now_run 0 .handshake 0, now_run 0 .handshake 70,
        .call (.flush_session_queue 5), now_run 1 .active 71, now_run 1 .active 0,
        now_run 1 .active 0, now_run 0 .handshake 0]
    let s := es.foldl (step ⟨20, .spiffs, 50, 75⟩) fresh_sender
    s.dev.store.rows.map (fun r => (r.uid, r.packet_id, r.status)) =
        [(1, 0, .NONE), (1, 71, .SENT)] ∧ ¬ OneRow s := by
  decide

end

end BrambleMesh.SendTasks
