/-
Attested roll-calls: components/rollcall/rollcall.c and the initiator's side of
main/mesh_rollcall.c. A receipt of an announce opens a row for its path, a signed response marks a
row as answered.
-/
import BrambleMesh.IdentityStore

namespace BrambleMesh.Rollcall

open Bytes IdentityStore

/-! ## Wire -/

abbrev ROLLCALL_TEXT_MAX : ℕ := 48
abbrev ROLLCALL_MAX_ROUNDS : UInt8 := 3
abbrev ROLLCALL_MAX_RESPONDERS : ℕ := 24
abbrev ROLLCALL_MAX_EXPECTED : ℕ := 24
abbrev ROLLCALL_PATH_MAX : ℕ := 8
abbrev ROLLCALL_RESPONSE_SIZE : ℕ := 73

structure Response where
  rollcall_id : UInt32
  round : UInt8
  responder_addr : UInt32
  sig : Sig64
deriving DecidableEq

def rollcall_announce_encode (rollcall_id : UInt32) (round : UInt8) (text : List UInt8) :
    Option (List UInt8) :=
  if rollcall_id = 0 then none
  else if round < 1 ∨ ROLLCALL_MAX_ROUNDS < round then none
  else if ROLLCALL_TEXT_MAX < text.length then none
  else some (be32 rollcall_id ++ [round, UInt8.ofNat text.length] ++ text)

def rollcall_response_encode (r : Response) : Option (List UInt8) :=
  if r.rollcall_id = 0 then none
  else if r.round < 1 ∨ ROLLCALL_MAX_ROUNDS < r.round then none
  else some (be32 r.rollcall_id ++ [r.round] ++ be32 r.responder_addr ++ r.sig.toList)

def rollcall_response_decode (buf : List UInt8) : Option Response :=
  if buf.length ≠ ROLLCALL_RESPONSE_SIZE then none
  else
    let id := get_be32 buf
    let round := get_byte (buf.drop 4)
    if id = 0 then none
    else if round < 1 ∨ ROLLCALL_MAX_ROUNDS < round then none
    else some ⟨id, round, get_be32 (buf.drop 5), get_bytes 64 (buf.drop 9)⟩

def ROLLCALL_MSG_CONTEXT : List UInt8 := "bramble-rollcall-v1".toUTF8.toList

def rollcall_signed_msg (rollcall_id initiator_addr responder_addr : UInt32) : List UInt8 :=
  ROLLCALL_MSG_CONTEXT ++ be32 rollcall_id ++ be32 initiator_addr ++ be32 responder_addr

/-! ## Round schedule and rate limit -/

abbrev ROLLCALL_ROUND_BASE_MS : UInt32 := 30000
abbrev ROLLCALL_COLLECT_TAIL_MS : UInt32 := 45000
abbrev ROLLCALL_MIN_INTERVAL_MS : UInt32 := 300000

def rollcall_round_delay_ms (rounds_sent : UInt8) : UInt32 :=
  if rounds_sent < 1 ∨ ROLLCALL_MAX_ROUNDS ≤ rounds_sent then 0
  else ROLLCALL_ROUND_BASE_MS <<< (rounds_sent - 1).toUInt32

def rollcall_window_ms : UInt32 :=
  rollcall_round_delay_ms 1 + rollcall_round_delay_ms 2 + ROLLCALL_COLLECT_TAIL_MS

structure RateState where
  ever_started : Bool
  last_start_ms : UInt32
deriving DecidableEq

inductive StartCheck
  | OK
  | BUSY
  | RATE_LIMITED
deriving DecidableEq, Repr

def rollcall_rate_check (rl : RateState) (ledger_open : Bool) (now_ms : UInt32) : StartCheck :=
  if ledger_open then .BUSY
  else if !rl.ever_started then .OK
  else if now_ms - rl.last_start_ms < ROLLCALL_MIN_INTERVAL_MS then .RATE_LIMITED
  else .OK

/-! ## The ledger -/

structure Entry where
  addr : UInt32
  responded : Bool
  responded_at_ms : UInt32
  round : UInt8
  have_path : Bool
  relay_path : List UInt32
deriving DecidableEq, Repr

def new_entry (addr : UInt32) : Entry := ⟨addr, false, 0, 0, false, []⟩

def Entry.answer (e : Entry) : Option (UInt32 × UInt8) :=
  if e.responded then some (e.responded_at_ms, e.round) else none

structure Ledger where
  active : Bool
  is_open : Bool
  rollcall_id : UInt32
  initiator_addr : UInt32
  started_ms : UInt32
  closed_ms : UInt32
  rounds_sent : UInt8
  next_round_ms : UInt32
  text : List UInt8
  anchored : Bool
  expected : List UInt32
  entries : List Entry
  overflow : UInt32
  unattested : UInt32
  late : UInt32
deriving DecidableEq

def rollcall_ledger_init : Ledger := ⟨false, false, 0, 0, 0, 0, 0, 0, [], false, [], [], 0, 0, 0⟩

def rollcall_ledger_start (rollcall_id initiator_addr now_ms : UInt32) (text : List UInt8)
    (expected : List UInt32) (anchored : Bool) : Option Ledger :=
  if rollcall_id = 0 then none
  else if ROLLCALL_TEXT_MAX < text.length then none
  else
    let l := { rollcall_ledger_init with
      active := true
      is_open := true
      rollcall_id := rollcall_id
      initiator_addr := initiator_addr
      started_ms := now_ms
      next_round_ms := now_ms
      text := text }
    if anchored && !expected.isEmpty then
      some { l with
        expected := (expected.take ROLLCALL_MAX_EXPECTED).filter
          fun a => !(a == 0 || a == initiator_addr)
        anchored := true }
    else some l

def rollcall_ledger_note_round (l : Ledger) (round : UInt8) (now_ms : UInt32) : Ledger :=
  if !l.active then l
  else
    let delay := rollcall_round_delay_ms round
    { l with
      rounds_sent := round
      next_round_ms := if delay = 0 then 0 else now_ms + delay }

def reached (a b : UInt32) : Bool := a - b < 0x80000000

def rollcall_ledger_round_due (l : Ledger) (now_ms : UInt32) : Bool :=
  if !l.active || !l.is_open then false
  else if ROLLCALL_MAX_ROUNDS ≤ l.rounds_sent then false
  else if 0 < l.rounds_sent ∧ l.next_round_ms = 0 then false
  else reached now_ms l.next_round_ms

def rollcall_ledger_close_at (l : Ledger) : UInt32 :=
  if !l.active then 0 else l.started_ms + rollcall_window_ms

def rollcall_ledger_maybe_close (l : Ledger) (now_ms : UInt32) : Ledger × Bool :=
  if !l.active || !l.is_open then (l, false)
  else if !reached now_ms (rollcall_ledger_close_at l) then (l, false)
  else ({ l with is_open := false, closed_ms := now_ms }, true)

def entry_find (entries : List Entry) (addr : UInt32) : Option ℕ :=
  entries.findIdx? fun e => e.addr == addr

def entry_upsert (entries : List Entry) (addr : UInt32) (for_response : Bool) :
    Option (List Entry × ℕ) :=
  match entry_find entries addr with
  | some i => some (entries, i)
  | none =>
    if entries.length < ROLLCALL_MAX_RESPONDERS then
      some (entries ++ [new_entry addr], entries.length)
    else if !for_response then none
    else
      match entries.findIdx? fun e => !e.responded with
      | some i => some (entries.set i (new_entry addr), i)
      | none => none

def record_answer (now_ms : UInt32) (round : UInt8) (e : Entry) : Entry :=
  if e.responded then e
  else { e with responded := true, responded_at_ms := now_ms, round := round }

def rollcall_ledger_note_response (l : Ledger) (rollcall_id responder_addr : UInt32)
    (round : UInt8) (now_ms : UInt32) : Ledger × Bool :=
  if !l.active then (l, false)
  else if rollcall_id ≠ l.rollcall_id then (l, false)
  else if responder_addr = 0 ∨ responder_addr = l.initiator_addr then (l, false)
  else if !l.is_open then ({ l with late := l.late + 1 }, false)
  else
    match entry_upsert l.entries responder_addr true with
    | none => ({ l with overflow := l.overflow + 1 }, false)
    | some (entries, i) =>
      ({ l with entries := entries.modify i (record_answer now_ms round) }, true)

def rollcall_ledger_note_unattested (l : Ledger) : Ledger :=
  if !l.active then l else { l with unattested := l.unattested + 1 }

def record_path (relay_path : List UInt32) (e : Entry) : Entry :=
  { e with
    relay_path := relay_path.take ROLLCALL_PATH_MAX
    have_path := true }

def rollcall_ledger_note_path (l : Ledger) (rollcall_id responder_addr : UInt32)
    (responder_pinned : Bool) (relay_path : List UInt32) : Ledger × Bool :=
  if !l.active || !l.is_open then (l, false)
  else if rollcall_id ≠ l.rollcall_id then (l, false)
  else if responder_addr = 0 ∨ responder_addr = l.initiator_addr then (l, false)
  else
    let e := if responder_pinned then entry_upsert l.entries responder_addr false
      else (entry_find l.entries responder_addr).map fun i => (l.entries, i)
    match e with
    | none => (l, false)
    | some (entries, i) => ({ l with entries := entries.modify i (record_path relay_path) }, true)

def rollcall_ledger_find (l : Ledger) (addr : UInt32) : Option Entry :=
  if !l.active then none else l.entries.find? fun e => e.addr == addr

def rollcall_ledger_missing (l : Ledger) : List UInt32 :=
  if !l.active || !l.anchored then []
  else l.expected.filter fun a => !(rollcall_ledger_find l a).any fun e => e.responded

/-! ## The initiator -/

structure Config where
  address : UInt32
  crypto : IdentityCrypto

structure Node where
  ledger : Ledger
  rate : RateState
  announce_pkt_id : List UInt32
  pins : Store

def boot (pins : Store) : Node := ⟨rollcall_ledger_init, ⟨false, 0⟩, [0, 0, 0], pins⟩

variable (cfg : Config)

def rollcall_collect_expected (pins : Store) : List UInt32 :=
  if !pins.has_anchor then []
  else
    ((((List.ofFn pins.entries).filter fun p => p.used && p.address != cfg.address).map
      fun p => p.address).take ROLLCALL_MAX_EXPECTED)

def rollcall_send_round (n : Node) (round : UInt8) (pkt_id : UInt32) : Node × UInt32 :=
  if !n.ledger.active then (n, 0)
  else if (rollcall_announce_encode n.ledger.rollcall_id round n.ledger.text).isNone then (n, 0)
  else if pkt_id = 0 then (n, 0)
  else if 1 ≤ round ∧ round ≤ ROLLCALL_MAX_ROUNDS then
    ({ n with announce_pkt_id := n.announce_pkt_id.set (round.toNat - 1) pkt_id }, pkt_id)
  else (n, pkt_id)

inductive StartResult
  | OK
  | ERR_TEXT_TOO_LONG
  | ERR_BUSY
  | ERR_RATE_LIMITED
  | ERR_INTERNAL
  | ERR_TX
deriving DecidableEq, Repr

def mesh_rollcall_start (n : Node) (text : List UInt8)
    (next_packet_id pkt_id now_ms : UInt32) : Node × StartResult :=
  if ROLLCALL_TEXT_MAX < text.length then (n, .ERR_TEXT_TOO_LONG)
  else
    match rollcall_rate_check n.rate (n.ledger.active && n.ledger.is_open) now_ms with
    | .BUSY => (n, .ERR_BUSY)
    | .RATE_LIMITED => (n, .ERR_RATE_LIMITED)
    | .OK =>
      let id := if next_packet_id = 0 then 1 else next_packet_id
      match rollcall_ledger_start id cfg.address now_ms text
          (rollcall_collect_expected cfg n.pins) n.pins.has_anchor with
      | none => (n, .ERR_INTERNAL)
      | some l =>
        let sent := rollcall_send_round { n with ledger := l } 1 pkt_id
        if sent.2 = 0 then ({ sent.1 with ledger := rollcall_ledger_init }, .ERR_TX)
        else
          ({ sent.1 with
              rate := ⟨true, now_ms⟩
              ledger := rollcall_ledger_note_round sent.1.ledger 1 now_ms }, .OK)

def mesh_rollcall_handle_response (n : Node) (src_addr : UInt32)
    (data : List UInt8) (now_ms : UInt32) : Node :=
  if !n.ledger.active then n
  else
    match rollcall_response_decode data with
    | none => n
    | some resp =>
      if resp.rollcall_id ≠ n.ledger.rollcall_id then n
      else if resp.responder_addr ≠ src_addr then
        { n with ledger := rollcall_ledger_note_unattested n.ledger }
      else
        match identity_store_lookup n.pins resp.responder_addr with
        | none => { n with ledger := rollcall_ledger_note_unattested n.ledger }
        | some pin =>
          let msg := rollcall_signed_msg resp.rollcall_id n.ledger.initiator_addr
            resp.responder_addr
          if !cfg.crypto.ed25519_verify pin.ed25519_pub msg resp.sig then
            { n with ledger := rollcall_ledger_note_unattested n.ledger }
          else
            { n with
              ledger := (rollcall_ledger_note_response n.ledger resp.rollcall_id
                resp.responder_addr resp.round now_ms).1 }

def mesh_rollcall_note_receipt (n : Node) (responder_addr orig_packet_id : UInt32)
    (relay_path : List UInt32) : Node :=
  if !n.ledger.active || !n.ledger.is_open then n
  else if !n.announce_pkt_id.any fun id => id != 0 && id == orig_packet_id then n
  else
    let path := (cfg.address :: relay_path.reverse).take ROLLCALL_PATH_MAX
    let pinned := (identity_store_lookup n.pins responder_addr).isSome
    { n with
      ledger := (rollcall_ledger_note_path n.ledger n.ledger.rollcall_id responder_addr pinned
        path).1 }

def mesh_rollcall_tick (n : Node) (pkt_id t : UInt32) : Node :=
  if !n.ledger.active then n
  else
    let n :=
      if rollcall_ledger_round_due n.ledger t then
        let round := n.ledger.rounds_sent + 1
        let sent := (rollcall_send_round n round pkt_id).1
        { sent with ledger := rollcall_ledger_note_round sent.ledger round t }
      else n
    { n with ledger := (rollcall_ledger_maybe_close n.ledger t).1 }

inductive Event
  | start (text : List UInt8) (next_packet_id pkt_id now_ms : UInt32)
  | response (src_addr : UInt32) (data : List UInt8) (now_ms : UInt32)
  | receipt (responder_addr orig_packet_id : UInt32) (relay_path : List UInt32)
  | tick (pkt_id t : UInt32)
  | pins (s : Store)

def step (n : Node) : Event → Node
  | .start text next_packet_id pkt_id now_ms =>
    (mesh_rollcall_start cfg n text next_packet_id pkt_id now_ms).1
  | .response src_addr data now_ms => mesh_rollcall_handle_response cfg n src_addr data now_ms
  | .receipt responder_addr orig_packet_id relay_path =>
    mesh_rollcall_note_receipt cfg n responder_addr orig_packet_id relay_path
  | .tick pkt_id t => mesh_rollcall_tick n pkt_id t
  | .pins s => { n with pins := s }

def StartResult.replaced : StartResult → Bool
  | .OK => true
  | .ERR_TX => true
  | _ => false

def starts (n : Node) : Event → Bool
  | .start text next_packet_id pkt_id now_ms =>
    (mesh_rollcall_start cfg n text next_packet_id pkt_id now_ms).2.replaced
  | _ => false

end BrambleMesh.Rollcall
