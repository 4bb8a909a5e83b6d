/-
How often frames and receipts are sent again: components/reliability/reliability.c, the
acknowledgement tick of main/mesh_task.c and the receipt queue of main/mesh_reliability.c.

The component has a tick of its own that the firmware does not run. It counts an attempt before it
compares, so it gives up one retransmission earlier.
-/
import BrambleMesh.Reliability

namespace BrambleMesh.RetryLimits

open Reliability Run

/-! ## The two retry loops -/

section

variable {α : Type*}

def pending_ack_tick (now_ms random : UInt32) (e : PendingAck α) : PendingAck α :=
  if !e.active then e
  else if now_ms ≥ e.next_retry_ms then
    if e.attempt + 1 ≥ e.max_attempts then { e with attempt := e.attempt + 1, active := false }
    else
      { e with
        attempt := e.attempt + 1
        next_retry_ms := now_ms + backoff e.tier (e.attempt + 1) random }
  else e

/-- An entry and how often it has been sent again. -/
structure Course (α : Type*) where
  entry : PendingAck α
  sent : ℕ

structure Tick where
  now_ms : UInt32
  random : UInt32

def firmware (c : Course α) (k : Tick) : Course α :=
  let r := retry k.now_ms k.random c.entry
  ⟨r.1, if r.2.isSome then c.sent + 1 else c.sent⟩

/-- The component leaves the sending to its caller, for each entry that it gives a new date. -/
def component (c : Course α) (k : Tick) : Course α :=
  let e := pending_ack_tick k.now_ms k.random c.entry
  ⟨e, if e.active ∧ c.entry.attempt < e.attempt then c.sent + 1 else c.sent⟩

/-- The same number of retransmissions, and given up or not alike. -/
def Alike (c d : Course α) : Prop := c.sent = d.sent ∧ c.entry.active = d.entry.active

variable {c d : Course α} {k : Tick} {pa : PendingAck α}

/-- The courses are alike, and while they go on they only differ in their limits, which stop them
at the same attempt. -/
structure Follows (c d : Course α) : Prop where
  alike : Alike c d
  entry : c.entry.active → ∃ limit, d.entry = { c.entry with max_attempts := limit } ∧
    ∀ a, c.entry.attempt ≤ a → (c.entry.max_attempts ≤ a ↔ limit ≤ a + 1)

lemma Follows.tick (h : Follows c d) (k : Tick) : Follows (firmware c k) (component d k) := by
  obtain ⟨e, n⟩ := c
  obtain ⟨e', n'⟩ := d
  obtain ⟨⟨hsent, hactive⟩, hentry⟩ := h
  dsimp only at hsent hactive hentry
  subst hsent
  rcases hc : e.active
  · have hd := hactive.symm.trans hc
    constructor <;> simp [Alike, firmware, component, retry, pending_ack_tick, hc, hd]
  · obtain ⟨limit, rfl, hlimit⟩ := hentry hc
    have hstop := hlimit e.attempt le_rfl
    by_cases hdue : e.next_retry_ms ≤ k.now_ms
    · by_cases hmax : e.max_attempts ≤ e.attempt
      · have hlimit := hstop.1 hmax
        constructor <;> simp [Alike, firmware, component, retry, pending_ack_tick, *]
      · have hgoes : ¬ limit ≤ e.attempt + 1 := fun h => hmax (hstop.2 h)
        constructor
        · simp [Alike, firmware, component, retry, pending_ack_tick, *]
        · refine fun _ => ⟨limit, ?_, fun a ha => ?_⟩
          · simp [firmware, component, retry, pending_ack_tick, *]
          · simp [firmware, retry, *] at ha ⊢
            exact hlimit a (by omega)
    · constructor
      · simp [Alike, firmware, component, retry, pending_ack_tick, *]
      · simpa [firmware, component, retry, pending_ack_tick, *] using hlimit

lemma Follows.run (h : Follows c d) (ks : List Tick) :
    Follows (ks.foldl firmware c) (ks.foldl component d) := by
  induction ks generalizing c d with
  | nil => exact h
  | cons k ks ih => exact ih (h.tick k)

/-- Every retransmission of the firmware counts as an attempt, and it stops at the limit. -/
structure Counts (pa : PendingAck α) (c : Course α) : Prop where
  limit : c.entry.max_attempts = pa.max_attempts
  le : c.entry.attempt ≤ pa.max_attempts
  sent : c.sent + pa.attempt = c.entry.attempt
  given_up : c.entry.active = false → c.entry.attempt = pa.max_attempts

lemma Counts.tick (h : Counts pa c) (k : Tick) : Counts pa (firmware c k) := by
  obtain ⟨hlimit, hle, hsent, hup⟩ := h
  unfold firmware retry
  split_ifs <;> constructor <;> simp_all <;> omega

/-- **The component's loop is the firmware's with one attempt less.**  At every tick of every
schedule, an entry of the firmware has been sent as often, and is as much given up, as one of the
component whose limit is one higher. With the same limit they agree on entries that have no
retransmission left; others the firmware sends as often as the limit says. -/
theorem retry_loops (pa : PendingAck α) (hactive : pa.active = true) (ks : List Tick) :
    Alike (ks.foldl firmware ⟨pa, 0⟩)
      (ks.foldl component ⟨{ pa with max_attempts := pa.max_attempts + 1 }, 0⟩) ∧
    (pa.max_attempts ≤ pa.attempt →
      Alike (ks.foldl firmware ⟨pa, 0⟩) (ks.foldl component ⟨pa, 0⟩)) ∧
    (pa.attempt ≤ pa.max_attempts → (ks.foldl firmware ⟨pa, 0⟩).entry.active = false →
      (ks.foldl firmware ⟨pa, 0⟩).sent = pa.max_attempts - pa.attempt) := by
  refine ⟨?_, fun hmax => ?_, fun hle hup => ?_⟩
  · have hstart : Follows (⟨pa, 0⟩ : Course α)
        ⟨{ pa with max_attempts := pa.max_attempts + 1 }, 0⟩ :=
      ⟨⟨rfl, rfl⟩, fun _ => ⟨_, rfl, fun a _ => by dsimp only; omega⟩⟩
    exact (hstart.run ks).alike
  · have hstart : Follows (⟨pa, 0⟩ : Course α) ⟨pa, 0⟩ :=
      ⟨⟨rfl, rfl⟩, fun _ => ⟨_, rfl, fun a ha => by dsimp only at ha ⊢; omega⟩⟩
    exact (hstart.run ks).alike
  · have hrun : Counts pa (ks.foldl firmware ⟨pa, 0⟩) := by
      refine foldl_invariant (C := fun _ _ => True) (fun _ k h _ => h.tick k)
        (meets_of_forall (fun _ _ _ => trivial) _) ⟨rfl, hle, Nat.zero_add _, fun hoff => ?_⟩
      exact absurd (hoff.symm.trans hactive) Bool.false_ne_true
    have hsent := hrun.sent
    have hlast := hrun.given_up hup
    omega

theorem retry_loops_broadcast :
    Alike ([⟨5, 0⟩].foldl firmware ⟨pending_ack 1 2 .BROADCAST () 0, 0⟩)
      ([⟨5, 0⟩].foldl component ⟨pending_ack 1 2 .BROADCAST () 0, 0⟩) :=
  (retry_loops (pending_ack 1 2 .BROADCAST () 0) rfl [⟨5, 0⟩]).2.1 (by decide)

/-- Of a text that is never acknowledged, the firmware has sent all three copies when the component
has sent two and given it up. -/
theorem component_gives_up_early :
    let ks : List Tick := [⟨2000, 0⟩, ⟨10000, 0⟩, ⟨30000, 0⟩]
    let firm := ks.foldl firmware ⟨pending_ack 1 2 .NORMAL () 0, 0⟩
    let comp := ks.foldl component ⟨pending_ack 1 2 .NORMAL () 0, 0⟩
    firm.sent = 3 ∧ firm.entry.active = true ∧ comp.sent = 2 ∧ comp.entry.active = false := by
  decide

end

/-! ## Receipts -/

section

variable {α : Type*}

structure Watched (α : Type*) where
  queue : ReceiptQueue α
  log : List (α × TxResult)

def watch (i : Fin RECEIPT_QUEUE_CAPACITY) (w : Watched α) (ev : ReceiptEvent α) : Watched α :=
  ⟨receipt_step w.queue ev, w.log ++ offers i w.queue ev⟩

/-- Attempts spent, and how often the current one was put off. -/
def spend (c : ℕ × ℕ) (rc : TxResult) : ℕ × ℕ :=
  if rc = .ERR_CHANNEL_BUSY ∧ c.2 + 1 < RECEIPT_MAX_DEFERS then (c.1, c.2 + 1) else (c.1 + 1, 0)

def spent (log : List (α × TxResult)) : ℕ × ℕ := (log.map Prod.snd).foldl spend (0, 0)

variable {ev : ReceiptEvent α} {i : Fin RECEIPT_QUEUE_CAPACITY} {r : α} {w : Watched α}

lemma spent_concat (log : List (α × TxResult)) (o : α × TxResult) :
    spent (log ++ [o]) = spend (spent log) o.2 := by
  simp [spent]

/-- Each attempt is put off at most seven times before it is spent. -/
lemma spent_bounds (log : List (α × TxResult)) :
    log.length ≤ (spent log).1 * RECEIPT_MAX_DEFERS + (spent log).2 ∧
      (spent log).2 < RECEIPT_MAX_DEFERS ∧
      log.countP (fun o => o.2 ≠ .ERR_CHANNEL_BUSY) ≤ (spent log).1 := by
  induction log using List.reverseRecOn with
  | nil => simp [spent]
  | append_singleton log o ih =>
    rw [spent_concat, List.length_append, List.length_singleton, List.countP_append,
      List.countP_singleton]
    unfold spend
    split_ifs <;> simp_all [RECEIPT_MAX_DEFERS] <;> omega

/-- What the slot of a receipt `r` and the log of its offers say of each other. -/
structure Accounts (r : α) (i : Fin RECEIPT_QUEUE_CAPACITY) (w : Watched α) : Prop where
  bytes : ∀ o ∈ w.log, o.1 = r
  used : (w.queue i).used → (w.queue i).buf = r ∧
    (w.queue i).attempts_total = BROADCAST_RECEIPT_RETRY_COUNT ∧
    ((w.queue i).attempts_sent, (w.queue i).defers) = spent w.log ∧
    (spent w.log).1 < BROADCAST_RECEIPT_RETRY_COUNT
  freed : (w.queue i).used = false → spent w.log = (BROADCAST_RECEIPT_RETRY_COUNT, 0)

lemma Accounts.watch (h : Accounts r i w) (hused : (w.queue i).used) :
    Accounts r i (watch i w ev) := by
  obtain ⟨hbuf, htotal, hspent, hlt⟩ := h.used hused
  rcases receipt_step_slot hused ev with ⟨hnone, hslot⟩ | ⟨rc, due_at_ms, hone, hslot⟩
  · constructor <;> simp only [RetryLimits.watch, hnone, hslot, List.append_nil]
    exacts [h.bytes, h.used, h.freed]
  · have hlog : (RetryLimits.watch i w ev).log = w.log ++ [((w.queue i).buf, rc)] :=
      congrArg (w.log ++ ·) hone
    have hqueue : (RetryLimits.watch i w ev).queue i = after_attempt (w.queue i) rc due_at_ms :=
      hslot
    obtain ⟨hsent, hdefers⟩ := Prod.ext_iff.1 hspent
    constructor
    · rw [hlog]
      simpa [or_imp, forall_and, hbuf] using h.bytes
    · rw [hlog, hqueue, spent_concat, ← hspent]
      unfold after_attempt spend_attempt spend
      split_ifs <;> simp_all
    · rw [hlog, hqueue, spent_concat, ← hspent]
      unfold after_attempt spend_attempt spend
      split_ifs <;> simp_all
      omega

/-- **Receipts are bounded.**  A receipt that is queued goes out with the bytes it was queued with,
is put on the air at most as often as it has attempts and offered to the radio at most eight times
as often. Its slot is freed when the last attempt is spent, not before, and an attempt is not spent
by finding the channel busy, short of the eighth time in a row. No event changes the slot of a
receipt that it does not offer. -/
theorem receipts_bounded (queue queued : ReceiptQueue α) (r : α) (due_at_ms : UInt32)
    (i : Fin RECEIPT_QUEUE_CAPACITY)
    (hadded : queue_broadcast_delivery_receipt queue r due_at_ms = (queued, some i))
    (es : List (ReceiptEvent α))
    (hwaits : Meets (watch i) (fun w _ => (w.queue i).used = true) ⟨queued, []⟩ es) :
    let w := es.foldl (watch i) ⟨queued, []⟩
    (∀ o ∈ w.log, o.1 = r) ∧
    w.log.countP (fun o => o.2 ≠ .ERR_CHANNEL_BUSY) ≤ BROADCAST_RECEIPT_RETRY_COUNT ∧
    w.log.length ≤ BROADCAST_RECEIPT_RETRY_COUNT * RECEIPT_MAX_DEFERS ∧
    ((w.queue i).used = true ↔ (spent w.log).1 < BROADCAST_RECEIPT_RETRY_COUNT) ∧
    ((w.queue i).used = true → ((w.queue i).attempts_sent, (w.queue i).defers) = spent w.log) ∧
    ∀ j ev, (w.queue j).used = true → offers j w.queue ev = [] →
      receipt_step w.queue ev j = w.queue j := by
  intro w
  have hstart : Accounts r i ⟨queued, []⟩ := by
    unfold queue_broadcast_delivery_receipt at hadded
    rcases hfree : Table.find (fun item => !item.used) queue with _ | j <;> rw [hfree] at hadded
    · cases hadded
    · obtain ⟨rfl, hi⟩ := Prod.mk.inj hadded
      cases hi
      constructor <;> simp [spent]
  have h : Accounts r i w := foldl_invariant (fun _ _ h hused => h.watch hused) hwaits hstart
  have frame : ∀ j ev, (w.queue j).used = true → offers j w.queue ev = [] →
      receipt_step w.queue ev j = w.queue j := by
    intro j ev hused hnone
    rcases receipt_step_slot hused ev with ⟨-, hslot⟩ | ⟨rc, due_at_ms, hone, -⟩
    · exact hslot
    · exact absurd (hone.symm.trans hnone) (List.cons_ne_nil _ _)
  obtain ⟨hlen, hdefers, hcount⟩ := spent_bounds w.log
  rcases hused : (w.queue i).used
  · rw [h.freed hused] at hlen hcount
    exact ⟨h.bytes, hcount, hlen, by simp [h.freed hused], nofun, frame⟩
  · obtain ⟨-, -, hspent, hlt⟩ := h.used hused
    simp only [RECEIPT_MAX_DEFERS, BROADCAST_RECEIPT_RETRY_COUNT] at hlen hdefers hlt
    have htotal : w.log.length ≤ 3 * 8 := by omega
    exact ⟨h.bytes, hcount.trans hlt.le, htotal, by simp [hlt], fun _ => hspent, frame⟩

lemma receipt_queue_pos : 0 < RECEIPT_QUEUE_CAPACITY := by decide

def firstSlot : Fin RECEIPT_QUEUE_CAPACITY := ⟨0, receipt_queue_pos⟩

def emptyQueue : ReceiptQueue Unit := fun _ => ⟨false, (), 0, 0, 0, 0⟩

def fourOffers : List (ReceiptEvent Unit) :=
  [.tx 5 .ERR_CHANNEL_BUSY 10, .tx 10 .OK 20, .tx 20 .ERR_BUDGET 30, .tx 30 .OK 40]

theorem receipts_bounded_four :
    let w := fourOffers.foldl (watch firstSlot)
      ⟨(queue_broadcast_delivery_receipt emptyQueue () 5).1, []⟩
    w.log.length = 4 ∧ w.log.length ≤ 24 ∧ (w.queue firstSlot).used = false := by
  have h := receipts_bounded emptyQueue _ () 5 firstSlot rfl fourOffers (by decide)
  exact ⟨by decide, h.2.2.1, by decide⟩

end

end BrambleMesh.RetryLimits
