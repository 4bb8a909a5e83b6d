/-
The message ring and its file together: components/msg_store/msg_store.c with persistence. There
is one history, on which ring and file are two windows.
-/
import BrambleMesh.Lib.Run
import BrambleMesh.Lib.Window
import BrambleMesh.MsgFile

namespace BrambleMesh.MsgPersist

open MsgStore MsgFile List

/-! ## The store with persistence -/

structure Config where
  cap : ℕ
  policy : Policy
deriving DecidableEq

structure Dev where
  store : Store
  disk : Disk
  statics : Statics
deriving DecidableEq

def push (cap : ℕ) (st : Store) (row : StoredMsg) : Store :=
  { MsgStore.push st row with rows := (row :: st.rows).take cap }

structure NewMsg where
  peer_addr : UInt32
  dir : MsgDirection
  text : List UInt8
  rx : Reception
  packet_id : UInt32
  status : MsgStatus
  channel_index : Int16
  uid : UInt32
deriving DecidableEq

def NewMsg.row (m : NewMsg) (uid : UInt32) : StoredMsg :=
  stored_row m.peer_addr m.dir m.text m.rx m.packet_id m.status m.channel_index uid

def take_uid (st : Store) (m : NewMsg) : Store × UInt32 :=
  if m.uid = 0 then msg_store_next_uid st else (st, m.uid)

def persist_row (cfg : Config) (malloc_ok : Bool) (disk : Disk) (s : Statics) (row : StoredMsg) :
    Disk × Statics :=
  let save := msg_store_spiffs_save s row
  let disk₁ := exec disk save.1
  if save.2.2 ∧ cfg.policy.persist_max ≤ msg_store_spiffs_get_count save.2.1 then
    let roll := rollover cfg.policy save.2.1 disk₁ malloc_ok
    (exec disk₁ roll.1, roll.2)
  else (disk₁, save.2.1)

def msg_store_add_full (cfg : Config) (dev : Dev) (malloc_ok : Bool) (m : NewMsg) : Dev :=
  let t := take_uid dev.store m
  let row := m.row t.2
  let f := persist_row cfg malloc_ok dev.disk dev.statics row
  ⟨push cfg.cap t.1 row, f.1, f.2⟩

def find_newest (p : StoredMsg → Bool) (rows : List StoredMsg) : Option (ℕ × StoredMsg) :=
  (rows.findIdx? p).bind fun i => rows[i]?.map fun row => (i, row)

def find_oldest (p : StoredMsg → Bool) (rows : List StoredMsg) : Option (ℕ × StoredMsg) :=
  (rows.reverse.findIdx? p).bind fun i =>
    rows[rows.length - 1 - i]?.map fun row => (rows.length - 1 - i, row)

def write_row (dev : Dev) (from_end : ℕ) (row : StoredMsg) (changed : Bool) : Dev :=
  { dev with
    store := { dev.store with rows := dev.store.rows.set from_end row }
    disk :=
      if changed then exec dev.disk (msg_store_spiffs_update dev.statics dev.disk from_end row)
      else dev.disk }

def sticky (row : StoredMsg) (status : MsgStatus) : Bool :=
  row.status == .QUEUED && status != .DELIVERED

def with_status (row : StoredMsg) (status : MsgStatus) : StoredMsg :=
  if sticky row status then row else { row with status := status }

def status_changes (row : StoredMsg) (status : MsgStatus) : Bool :=
  !sticky row status && row.status != status

def msg_store_update_status_with_route (dev : Dev) (packet_id : UInt32) (status : MsgStatus)
    (route_hops : List UInt32) : Dev × Bool :=
  if packet_id = 0 then (dev, false)
  else
    match find_newest (fun r => r.packet_id == packet_id) dev.store.rows with
    | none => (dev, false)
    | some (from_end, row) =>
      if route_hops = [] then
        (write_row dev from_end (with_status row status) (status_changes row status), true)
      else
        (write_row dev from_end
          { with_status row status with route_hops := route_hops.take MSG_ROUTE_MAX_HOPS }
          (status_changes row status || row.route_hops.isEmpty), true)

def msg_store_update_by_uid (dev : Dev) (uid packet_id : UInt32) (status : MsgStatus) :
    Dev × Bool :=
  if uid = 0 then (dev, false)
  else
    match find_newest (fun r => r.uid == uid) dev.store.rows with
    | none => (dev, false)
    | some (from_end, row) =>
      (write_row dev from_end
        { with_status row status with
          packet_id := if packet_id = 0 then row.packet_id else packet_id }
        (status_changes row status), true)

def msg_store_unpark (dev : Dev) (uid : UInt32) : Dev × Bool :=
  if uid = 0 then (dev, false)
  else
    match find_newest (fun r => r.uid == uid) dev.store.rows with
    | none => (dev, false)
    | some (from_end, row) =>
      if row.status = .QUEUED then
        (write_row dev from_end { row with status := .FAILED } true, true)
      else (dev, false)

abbrev MSG_STORE_PARK_TTL_S : UInt32 := 7200

def is_parked_dm (m : StoredMsg) : Bool :=
  m.direction == .OUTGOING && m.channel_index < 0 && m.status == .QUEUED && m.uid != 0

def past_park_window (m : StoredMsg) (now_s : UInt32) : Bool :=
  if now_s < m.timestamp_s then false else MSG_STORE_PARK_TTL_S < now_s - m.timestamp_s

def overdue (now_s : UInt32) (m : StoredMsg) : Bool := is_parked_dm m && past_park_window m now_s

def expire_passes (now_s : UInt32) : ℕ → Dev → Dev × ℕ
  | 0, dev => (dev, 0)
  | fuel + 1, dev =>
    match find_oldest (overdue now_s) dev.store.rows with
    | none => (dev, 0)
    | some (from_end, row) =>
      let rest := expire_passes now_s fuel
        (write_row dev from_end { row with status := .FAILED } true)
      (rest.1, rest.2 + 1)

def msg_store_expire_parked (dev : Dev) (now_s : UInt32) : Dev × ℕ :=
  expire_passes now_s dev.store.rows.length dev

def uid_past (next_uid : UInt32) (m : StoredMsg) : UInt32 :=
  if next_uid ≤ m.uid then (if m.uid + 1 = 0 then 1 else m.uid + 1) else next_uid

def msg_store_init_with_persistence (cfg : Config) (disk : Disk) : Dev :=
  let init := msg_store_spiffs_init disk
  let disk' := exec disk init.1
  let loaded := msg_store_spiffs_load_recent init.2 disk' cfg.cap
  ⟨{ msg_store_init with
      rows := loaded.reverse.map fun m => { m with timestamp_s := 0 }
      s_next_uid := loaded.foldl uid_past msg_store_init.s_next_uid },
    disk', init.2⟩

/-! ## The history -/

structure Message where
  peer_addr : UInt32
  uid : UInt32
  direction : MsgDirection
  channel_index : Int16
  text : List UInt8
  status : MsgStatus
deriving DecidableEq

def message (r : StoredMsg) : Message :=
  ⟨r.peer_addr, r.uid, r.direction, r.channel_index, r.text, r.status⟩

structure World where
  dev : Dev
  history : List Message
deriving DecidableEq

def World.rows (w : World) : List StoredMsg := w.dev.store.rows

def World.records (w : World) : List StoredMsg := w.dev.disk.records.reverse

def World.start (cfg : Config) : World := ⟨msg_store_init_with_persistence cfg .blank, []⟩

inductive StatusEvent
  | update_status (packet_id : UInt32) (status : MsgStatus) (route_hops : List UInt32)
  | update_by_uid (uid packet_id : UInt32) (status : MsgStatus)
  | unpark (uid : UInt32)
  | expire_parked (now_s : UInt32)
deriving DecidableEq

def change (dev : Dev) : StatusEvent → Dev
  | .update_status packet_id status route_hops =>
    (msg_store_update_status_with_route dev packet_id status route_hops).1
  | .update_by_uid uid packet_id status => (msg_store_update_by_uid dev uid packet_id status).1
  | .unpark uid => (msg_store_unpark dev uid).1
  | .expire_parked now_s => (msg_store_expire_parked dev now_s).1

inductive Event
  | add (malloc_ok : Bool) (m : NewMsg)
  | status (e : StatusEvent)
  | boot
deriving DecidableEq

def step (cfg : Config) (w : World) : Event → World
  | .add malloc_ok m =>
    ⟨msg_store_add_full cfg w.dev malloc_ok m,
      message (m.row (take_uid w.dev.store m).2) :: w.history⟩
  | .status e =>
    ⟨change w.dev e,
      (change w.dev e).store.rows.map message ++ w.history.drop w.rows.length⟩
  | .boot => ⟨msg_store_init_with_persistence cfg w.dev.disk, w.history⟩

/-! ## The scans -/

section

variable {p : StoredMsg → Bool} {rows : List StoredMsg} {i : ℕ} {row : StoredMsg}

lemma find_newest_some (h : find_newest p rows = some (i, row)) : rows[i]? = some row := by
  obtain ⟨j, -, hj⟩ := Option.bind_eq_some_iff.1 h
  obtain ⟨r, hr, heq⟩ := Option.map_eq_some_iff.1 hj
  cases heq
  exact hr

lemma find_newest_pred (h : find_newest p rows = some (i, row)) : p row := by
  obtain ⟨j, hj, hmap⟩ := Option.bind_eq_some_iff.1 h
  obtain ⟨r, hr, heq⟩ := Option.map_eq_some_iff.1 hmap
  cases heq
  obtain ⟨hlt, hp, -⟩ := findIdx?_eq_some_iff_getElem.1 hj
  rw [getElem?_eq_getElem hlt] at hr
  rwa [Option.some.inj hr] at hp

lemma find_newest_isSome (hrow : row ∈ rows) (hp : p row) :
    ∃ found, find_newest p rows = some found := by
  cases hj : rows.findIdx? p with
  | none =>
    have hfalse := findIdx?_eq_none_iff.1 hj row hrow
    rw [hp] at hfalse
    cases hfalse
  | some j =>
    obtain ⟨hlt, -, -⟩ := findIdx?_eq_some_iff_getElem.1 hj
    refine ⟨(j, rows[j]), ?_⟩
    rw [find_newest, hj, Option.bind_some, getElem?_eq_getElem hlt]
    rfl

lemma find_oldest_some (h : find_oldest p rows = some (i, row)) :
    rows[i]? = some row ∧ p row := by
  obtain ⟨j, hj, hmap⟩ := Option.bind_eq_some_iff.1 h
  obtain ⟨r, hr, heq⟩ := Option.map_eq_some_iff.1 hmap
  cases heq
  refine ⟨hr, ?_⟩
  obtain ⟨hlt, hp, -⟩ := findIdx?_eq_some_iff_getElem.1 hj
  rw [length_reverse] at hlt
  rw [getElem_reverse] at hp
  rw [getElem?_eq_getElem (by omega)] at hr
  rwa [Option.some.inj hr] at hp

lemma find_oldest_none (h : find_oldest p rows = none) : ∀ r ∈ rows, p r = false := by
  cases hj : rows.reverse.findIdx? p with
  | none =>
    intro r hr
    exact findIdx?_eq_none_iff.1 hj r (mem_reverse.2 hr)
  | some j =>
    -- the place that was found holds a row
    obtain ⟨hlt, -, -⟩ := findIdx?_eq_some_iff_getElem.1 hj
    rw [length_reverse] at hlt
    rw [find_oldest, hj, Option.bind_some, getElem?_eq_getElem (by omega)] at h
    cases h

end

/-! ## Ring and file as windows -/

def identity (r : StoredMsg) : Message := { message r with status := .NONE }

def newest (dev : Dev) : List StoredMsg := dev.disk.records.reverse

structure Mirror (dev : Dev) (history : List Message) : Prop where
  opened : Opened dev.disk dev.statics dev.disk.records
  ring : dev.store.rows.map message <+: history
  file : (newest dev).map message <+: history

structure Follows (dev : Dev) (history : List Message) (dev' : Dev) : Prop where
  mirror : ∃ history', Mirror dev' history' ∧
    history'.drop dev.store.rows.length = history.drop dev.store.rows.length
  ring_length : dev'.store.rows.length = dev.store.rows.length
  file_length : (newest dev').length = (newest dev).length
  untouched : ∀ k : ℕ, dev'.store.rows[k]? = dev.store.rows[k]? →
    (newest dev')[k]? = (newest dev)[k]?

section

variable {dev dev' : Dev} {history : List Message} {i : ℕ} {row row' : StoredMsg} {changed : Bool}

structure Rewrites (row row' : StoredMsg) (changed : Bool) : Prop where
  same : identity row' = identity row
  quiet : changed = false → row'.status = row.status
  loud : changed → row' ≠ row

variable {a b : StoredMsg}

lemma identity_with_status (row : StoredMsg) (status : MsgStatus) :
    identity (with_status row status) = identity row := by
  unfold with_status
  split_ifs <;> rfl

lemma status_with_status (row : StoredMsg) (status : MsgStatus)
    (h : status_changes row status = false) : (with_status row status).status = row.status := by
  unfold with_status
  split_ifs with hs
  · rfl
  · simp only [status_changes, hs, Bool.not_false, Bool.true_and, bne_eq_false_iff_eq] at h
    exact h.symm

lemma status_with_status_ne (row : StoredMsg) (status : MsgStatus)
    (h : status_changes row status) : (with_status row status).status ≠ row.status := by
  simp only [status_changes, Bool.and_eq_true, Bool.not_eq_true', bne_iff_ne] at h
  rw [with_status, if_neg (by rw [h.1]; exact Bool.false_ne_true)]
  exact h.2.symm

lemma ne_of_status_ne (h : a.status ≠ b.status) : a ≠ b :=
  fun hab => h (congrArg StoredMsg.status hab)

lemma rewrites_with_status (row : StoredMsg) (status : MsgStatus) :
    Rewrites row (with_status row status) (status_changes row status) :=
  ⟨identity_with_status row status, status_with_status row status,
    fun hc => ne_of_status_ne (status_with_status_ne row status hc)⟩

lemma rewrites_with_route {route_hops : List UInt32} (hroute : route_hops ≠ [])
    (status : MsgStatus) :
    Rewrites row
      { with_status row status with route_hops := route_hops.take MSG_ROUTE_MAX_HOPS }
      (status_changes row status || row.route_hops.isEmpty) where
  same := identity_with_status row status
  quiet hc := status_with_status row status (Bool.or_eq_false_iff.1 hc).1
  loud hc := by
    rcases Bool.or_eq_true_iff.1 hc with hs | hempty
    · exact ne_of_status_ne (status_with_status_ne row status hs)
    · -- the row had no route and has one now
      intro heq
      have hnil := congrArg StoredMsg.route_hops heq
      dsimp only at hnil
      rw [isEmpty_iff.1 hempty, take_eq_nil_iff] at hnil
      rcases hnil with hzero | hnil
      · cases hzero
      · exact hroute hnil

lemma rewrites_failed (hq : row.status = .QUEUED) :
    Rewrites row { row with status := .FAILED } true where
  same := rfl
  quiet := fun hc => by cases hc
  loud := fun _ => ne_of_status_ne (hq ▸ MsgStatus.noConfusion)

def StatusEvent.hits : StatusEvent → StoredMsg → Bool
  | .update_status packet_id _ _, row => row.packet_id == packet_id
  | .update_by_uid uid _ _, row => row.uid == uid
  | .unpark uid, row => row.uid == uid
  | .expire_parked now_s, row => overdue now_s row

def StatusEvent.rewrite : StatusEvent → StoredMsg → StoredMsg
  | .update_status _ status route_hops, row =>
    if route_hops = [] then with_status row status
    else { with_status row status with route_hops := route_hops.take MSG_ROUTE_MAX_HOPS }
  | .update_by_uid _ packet_id status, row =>
    { with_status row status with
      packet_id := if packet_id = 0 then row.packet_id else packet_id }
  | .unpark _, row => { row with status := .FAILED }
  | .expire_parked _, row => { row with status := .FAILED }

/-- **What a status event does**: to one row at most, except for the sweep over the parked rows. -/
theorem change_cases (dev : Dev) (e : StatusEvent) :
    (∃ now_s, e = .expire_parked now_s) ∨ change dev e = dev ∨
      ∃ i row changed, dev.store.rows[i]? = some row ∧ e.hits row ∧
        Rewrites row (e.rewrite row) changed ∧
        change dev e = write_row dev i (e.rewrite row) changed := by
  cases e with
  | update_status packet_id status route_hops =>
    right
    rw [change, msg_store_update_status_with_route]
    by_cases hpid : packet_id = 0
    · rw [if_pos hpid]
      exact .inl rfl
    rw [if_neg hpid]
    rcases hf : find_newest (fun r => r.packet_id == packet_id) dev.store.rows with _ | ⟨i, row⟩
    · exact .inl rfl
    right
    refine ⟨i, row, ?_⟩
    by_cases hroute : route_hops = []
    · simp only [StatusEvent.rewrite, if_pos hroute]
      exact ⟨_, find_newest_some hf, find_newest_pred hf, rewrites_with_status row status, rfl⟩
    · simp only [StatusEvent.rewrite, if_neg hroute]
      exact ⟨_, find_newest_some hf, find_newest_pred hf, rewrites_with_route hroute status, rfl⟩
  | update_by_uid uid packet_id status =>
    right
    rw [change, msg_store_update_by_uid]
    by_cases huid : uid = 0
    · rw [if_pos huid]
      exact .inl rfl
    rw [if_neg huid]
    rcases hf : find_newest (fun r => r.uid == uid) dev.store.rows with _ | ⟨i, row⟩
    · exact .inl rfl
    obtain ⟨hsame, hquiet, hloud⟩ := rewrites_with_status row status
    refine .inr ⟨i, row, _, find_newest_some hf, find_newest_pred hf, ⟨hsame, hquiet, ?_⟩, rfl⟩
    exact fun hc => ne_of_status_ne (status_with_status_ne row status hc)
  | unpark uid =>
    right
    rw [change, msg_store_unpark]
    by_cases huid : uid = 0
    · rw [if_pos huid]
      exact .inl rfl
    rw [if_neg huid]
    rcases hf : find_newest (fun r => r.uid == uid) dev.store.rows with _ | ⟨i, row⟩
    · exact .inl rfl
    dsimp only
    split_ifs with hq
    · exact .inr ⟨i, row, true, find_newest_some hf, find_newest_pred hf, rewrites_failed hq, rfl⟩
    · exact .inl rfl
  | expire_parked now_s => exact .inl ⟨now_s, rfl⟩

/-- What each rewriting of a row keeps, the event keeps. -/
lemma change_invariant {P : Dev → Prop} {e : StatusEvent}
    (hwrite : ∀ (dev : Dev) (i : ℕ) (row : StoredMsg) (changed : Bool), P dev →
      dev.store.rows[i]? = some row → P (write_row dev i (e.rewrite row) changed))
    (h : P dev) : P (change dev e) := by
  rcases change_cases dev e with ⟨now_s, rfl⟩ | hsame | ⟨i, row, changed, hrow, -, -, hchange⟩
  · have hpasses : ∀ (fuel : ℕ) (dev : Dev), P dev → P (expire_passes now_s fuel dev).1 := by
      intro fuel
      induction fuel with
      | zero => exact fun _ h => h
      | succ fuel ih =>
        intro dev h
        rw [expire_passes]
        rcases hf : find_oldest (overdue now_s) dev.store.rows with _ | ⟨i, row⟩
        · exact h
        · exact ih _ (hwrite dev i row true h (find_oldest_some hf).1)
    exact hpasses _ dev h
  · rwa [hsame]
  · exact hchange ▸ hwrite dev i row changed h hrow

variable (now_s : UInt32) (fuel : ℕ)

def expired (now_s : UInt32) (r : StoredMsg) : StoredMsg :=
  if overdue now_s r then { r with status := .FAILED } else r

lemma expired_of_overdue {now_s : UInt32} (h : overdue now_s row) :
    expired now_s row = { row with status := .FAILED } := if_pos h

lemma expire_passes_rows :
    ∀ dev : Dev, dev.store.rows.countP (overdue now_s) ≤ fuel →
      (expire_passes now_s fuel dev).1.store.rows = dev.store.rows.map (expired now_s) := by
  have hsame : ∀ rows : List StoredMsg, (∀ r ∈ rows, overdue now_s r = false) →
      rows = rows.map (expired now_s) := by
    intro rows hnone
    have hid : ∀ r ∈ rows, expired now_s r = id r := fun r hr =>
      if_neg (by rw [hnone r hr]; exact Bool.false_ne_true)
    rw [List.map_congr_left hid, List.map_id]
  induction fuel with
  | zero =>
    intro dev hle
    refine hsame _ fun r hr => ?_
    simpa using List.countP_eq_zero.1 (Nat.le_zero.1 hle) r hr
  | succ fuel ih =>
    intro dev hle
    rw [expire_passes]
    rcases hf : find_oldest (overdue now_s) dev.store.rows with _ | ⟨i, row⟩
    · exact hsame _ (find_oldest_none hf)
    · obtain ⟨hi, hover⟩ := find_oldest_some hf
      obtain ⟨hlt, hget⟩ := List.getElem?_eq_some_iff.1 hi
      have hfailed : overdue now_s { row with status := .FAILED } = false := by
        simp [overdue, is_parked_dm]
      rw [ih, write_row]
      · -- marking the row now or at the end is the same
        rw [List.map_set, expired, if_neg (by rw [hfailed]; decide), ← expired_of_overdue hover,
          ← hget, ← List.getElem_map (expired now_s), List.set_getElem_self]
        simpa using hlt
      · rw [write_row, List.countP_set hlt, hget, if_pos hover, hfailed]
        simp only [Bool.false_eq_true, if_false]
        omega

lemma rows_expire_parked (dev : Dev) (now_s : UInt32) :
    (msg_store_expire_parked dev now_s).1.store.rows = dev.store.rows.map (expired now_s) :=
  expire_passes_rows now_s _ dev countP_le_length

end

/-! ## Additions and boots -/

section

variable {cfg : Config} {dev : Dev} {history : List Message}

lemma rows_take_uid (st : Store) (m : NewMsg) : (take_uid st m).1.rows = st.rows := by
  unfold take_uid
  split_ifs <;> rfl

end

end BrambleMesh.MsgPersist
