/-
The message store of a node: components/msg_store/msg_store.c, the part that files messages,
newest first.
-/
import Mathlib

namespace BrambleMesh.MsgStore

abbrev MSG_STORE_MAX : ℕ := 20

abbrev MSG_TEXT_MAX : ℕ := 640

abbrev MSG_STORE_DM_CHANNEL : Int16 := -1

inductive MsgDirection
  | INCOMING
  | OUTGOING
  | BROADCAST_IN
  | BROADCAST_OUT
deriving DecidableEq, Repr

inductive MsgStatus
  | NONE
  | SENT
  | DELIVERED
  | FAILED
  | QUEUED
deriving DecidableEq, Repr

abbrev MSG_ROUTE_MAX_HOPS : ℕ := 10

structure StoredMsg where
  peer_addr : UInt32
  uid : UInt32
  direction : MsgDirection
  status : MsgStatus
  packet_id : UInt32
  timestamp_s : UInt32
  rssi : Int8
  snr : Int8
  channel_index : Int16
  route_hops : List UInt32
  text : List UInt8
deriving DecidableEq

structure Store where
  rows : List StoredMsg
  s_total_incoming : UInt32
  s_next_uid : UInt32
deriving DecidableEq

def msg_store_init : Store := ⟨[], 0, 1⟩

def msg_store_next_uid (st : Store) : Store × UInt32 :=
  ({ st with s_next_uid := if st.s_next_uid + 1 = 0 then 1 else st.s_next_uid + 1 }, st.s_next_uid)

structure Reception where
  rssi : Int8
  snr : Int8
  uptime_s : UInt32
deriving DecidableEq, Repr

def stored_row (peer_addr : UInt32) (dir : MsgDirection) (text : List UInt8) (rx : Reception)
    (packet_id : UInt32) (status : MsgStatus) (channel_index : Int16) (uid : UInt32) : StoredMsg :=
  ⟨peer_addr, uid, dir, status, packet_id, rx.uptime_s, rx.rssi, rx.snr, channel_index,
    [], text.take (MSG_TEXT_MAX - 1)⟩

def push (st : Store) (row : StoredMsg) : Store :=
  { st with
    rows := (row :: st.rows).take MSG_STORE_MAX
    s_total_incoming :=
      if row.direction = .INCOMING ∨ row.direction = .BROADCAST_IN then st.s_total_incoming + 1
      else st.s_total_incoming }

def msg_store_add_full (st : Store) (peer_addr : UInt32) (dir : MsgDirection) (text : List UInt8)
    (rx : Reception) (packet_id : UInt32) (status : MsgStatus) (channel_index : Int16)
    (uid : UInt32) : Store :=
  if uid = 0 then
    push (msg_store_next_uid st).1
      (stored_row peer_addr dir text rx packet_id status channel_index (msg_store_next_uid st).2)
  else push st (stored_row peer_addr dir text rx packet_id status channel_index uid)

def msg_store_add_dm (st : Store) (peer_addr : UInt32) (dir : MsgDirection) (text : List UInt8)
    (rx : Reception) (packet_id : UInt32) (status : MsgStatus) : Store :=
  msg_store_add_full st peer_addr dir text rx packet_id status MSG_STORE_DM_CHANNEL 0

def msg_store_add_channel (st : Store) (peer_addr : UInt32) (dir : MsgDirection)
    (text : List UInt8) (rx : Reception) (packet_id : UInt32) (status : MsgStatus)
    (channel_index : UInt8) : Store :=
  msg_store_add_full st peer_addr dir text rx packet_id status
    (Int16.ofNat channel_index.toNat) 0

def Store.newest (st : Store) : Option StoredMsg := st.rows.head?

lemma rows_add_full (st : Store) (peer_addr : UInt32) (dir : MsgDirection)
    (text : List UInt8) (rx : Reception) (packet_id : UInt32) (status : MsgStatus)
    (channel_index : Int16) (uid : UInt32) :
    ∃ u, (msg_store_add_full st peer_addr dir text rx packet_id status channel_index uid).rows =
      (stored_row peer_addr dir text rx packet_id status channel_index u :: st.rows).take
        MSG_STORE_MAX := by
  unfold msg_store_add_full
  split
  · exact ⟨(msg_store_next_uid st).2, rfl⟩
  · exact ⟨uid, rfl⟩

end BrambleMesh.MsgStore
