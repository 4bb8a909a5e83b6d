/-
RPC calls of the web client over BLE: `sendRPC`, `writeChunked` and `processLines` of
webapp/src/transport/BLETransport.ts with `RpcCorrelation` of rpcCorrelation.ts. A call registers
for its reply once its last chunk is written.
-/
import BrambleMesh.Lib.Run

namespace BrambleMesh.BleRpc

open Run List

/-! ## Request and reply -/

section

variable {V : Type}

structure Reply (V : Type) where
  id : ℕ
  error : Option String
  result : V
deriving DecidableEq

inductive Outcome (V : Type)
  | resolved (result : V)
  | rejected (message : String)
  | timed_out
  | write_failed
deriving DecidableEq

def Reply.outcome (msg : Reply V) : Outcome V :=
  match msg.error with
  | some message => .rejected message
  | none => .resolved msg.result

structure PendingRpc where
  id : ℕ
  since : ℕ
  timeoutMs : ℕ
deriving DecidableEq, Repr

structure Job where
  id : ℕ
  rest : List UInt8
  at_device : Bool
  timeoutMs : ℕ
deriving DecidableEq, Repr

structure Transport (V : Type) where
  rpcId : ℕ
  pending : List PendingRpc
  writeQueue : List Job
  settled : List (ℕ × Outcome V)
deriving DecidableEq

variable (c : Transport V)

def sendRPC (payload : List UInt8) (timeoutMs : ℕ) : Transport V :=
  { c with
    rpcId := c.rpcId + 1
    writeQueue := c.writeQueue ++ [⟨c.rpcId + 1, payload, false, timeoutMs⟩] }

def request (id timeoutMs now : ℕ) : Transport V :=
  { c with pending := c.pending ++ [⟨id, now, timeoutMs⟩] }

def settle (msg : Reply V) : Transport V × Bool :=
  if c.pending.any fun p => p.id == msg.id then
    ({ c with
        pending := c.pending.eraseP fun p => p.id == msg.id
        settled := c.settled ++ [(msg.id, msg.outcome)] }, true)
  else (c, false)

def timer (id now : ℕ) : Transport V :=
  if c.pending.any fun p => p.id == id && p.since + p.timeoutMs ≤ now then
    { c with
      pending := c.pending.eraseP fun p => p.id == id && p.since + p.timeoutMs ≤ now
      settled := c.settled ++ [(id, .timed_out)] }
  else c

abbrev BLE_CHUNK_SIZE : ℕ := 20

def whole_written : Option Job :=
  match c.writeQueue with
  | [] => none
  | job :: _ =>
    if job.at_device && (job.rest.drop BLE_CHUNK_SIZE).isEmpty then some job else none

def write_completes (now : ℕ) : Transport V :=
  match c.writeQueue with
  | [] => c
  | job :: jobs =>
    if !job.at_device then c
    else if (job.rest.drop BLE_CHUNK_SIZE).isEmpty then
      request { c with writeQueue := jobs } job.id job.timeoutMs now
    else
      { c with
        writeQueue := ⟨job.id, job.rest.drop BLE_CHUNK_SIZE, false, job.timeoutMs⟩ :: jobs }

def write_fails : Transport V :=
  match c.writeQueue with
  | [] => c
  | job :: jobs => { c with writeQueue := jobs, settled := c.settled ++ [(job.id, .write_failed)] }

/-! ## The link -/

structure World (V : Type) where
  client : Transport V
  first : ℕ
  now : ℕ
  received : List ℕ
  written : List PendingRpc
  arrived : List (Reply V × ℕ)
deriving DecidableEq

def connected (V : Type) (first : ℕ) : World V := ⟨⟨first, [], [], []⟩, first, 0, [], [], []⟩

inductive Event (V : Type)
  | call (payload : List UInt8) (timeoutMs : ℕ)
  | reaches
  | completes
  | fails
  | reply (msg : Reply V)
  | other_line
  | timer (id : ℕ)
  | wait (ms : ℕ)

def reaches (w : World V) : World V :=
  match w.client.writeQueue with
  | [] => w
  | job :: jobs =>
    { w with
      client := { w.client with writeQueue := { job with at_device := true } :: jobs }
      received :=
        if (job.rest.drop BLE_CHUNK_SIZE).isEmpty then job.id :: w.received else w.received }

def step (w : World V) : Event V → World V
  | .call payload timeoutMs => { w with client := sendRPC w.client payload timeoutMs }
  | .reaches => reaches w
  | .completes =>
    { w with
      client := write_completes w.client w.now
      written := w.written ++
        (whole_written w.client).toList.map fun job => ⟨job.id, w.now, job.timeoutMs⟩ }
  | .fails => { w with client := write_fails w.client }
  | .reply msg =>
    { w with
      client := (settle w.client msg).1
      arrived := w.arrived ++ [(msg, w.now)] }
  | .other_line => w
  | .timer id => { w with client := timer w.client id w.now }
  | .wait ms => { w with now := w.now + ms }

def Answers (w : World V) : Event V → Prop
  | .reply msg => w.first < msg.id → msg.id ∈ w.received ∧ ∀ x ∈ w.arrived, x.1.id ≠ msg.id
  | _ => True

def AfterWrite (w : World V) : Event V → Prop
  | .reply msg => ∀ job ∈ w.client.writeQueue, job.id ≠ msg.id
  | _ => True

instance (w : World V) (ev : Event V) : Decidable (Answers w ev) := by
  cases ev <;> unfold Answers <;> infer_instance

instance (w : World V) (ev : Event V) : Decidable (AfterWrite w ev) := by
  cases ev <;> unfold AfterWrite <;> infer_instance

/-! ## What each event does -/

def Transport.ids : List ℕ :=
  c.writeQueue.map Job.id ++ (c.pending.map PendingRpc.id ++ c.settled.map Prod.fst)

lemma eraseP_split {q : PendingRpc → Bool} {pending : List PendingRpc}
    (h : pending.any q) :
    ∃ l₁ p l₂, q p ∧ pending = l₁ ++ p :: l₂ ∧ pending.eraseP q = l₁ ++ l₂ := by
  obtain ⟨x, hx, hqx⟩ := any_eq_true.1 h
  obtain ⟨p, l₁, l₂, -, hp, hsplit, herase⟩ := exists_of_eraseP hx hqx
  exact ⟨l₁, p, l₂, hp, hsplit, herase⟩

variable (c : Transport V) (msg : Reply V)

lemma settle_cases :
    (∃ l₁ p l₂, p.id = msg.id ∧ c.pending = l₁ ++ p :: l₂ ∧ (settle c msg).1 =
        { c with pending := l₁ ++ l₂, settled := c.settled ++ [(p.id, msg.outcome)] }) ∨
      (∀ p ∈ c.pending, p.id ≠ msg.id) ∧ (settle c msg).1 = c := by
  unfold settle
  by_cases hany : (c.pending.any fun p => p.id == msg.id)
  · rw [if_pos hany]
    obtain ⟨l₁, p, l₂, hp, hsplit, herase⟩ := eraseP_split hany
    rw [beq_iff_eq] at hp
    refine .inl ⟨l₁, p, l₂, hp, hsplit, ?_⟩
    rw [herase, hp]
  · rw [if_neg hany]
    refine .inr ⟨fun p hp hid => hany ?_, rfl⟩
    exact any_eq_true.2 ⟨p, hp, beq_iff_eq.2 hid⟩

lemma timer_cases (id now : ℕ) :
    (∃ l₁ p l₂, p.since + p.timeoutMs ≤ now ∧ c.pending = l₁ ++ p :: l₂ ∧ timer c id now =
        { c with pending := l₁ ++ l₂, settled := c.settled ++ [(p.id, .timed_out)] }) ∨
      timer c id now = c := by
  unfold timer
  by_cases hany : (c.pending.any fun p => p.id == id && p.since + p.timeoutMs ≤ now)
  · rw [if_pos hany]
    obtain ⟨l₁, p, l₂, hp, hsplit, herase⟩ := eraseP_split hany
    rw [Bool.and_eq_true, beq_iff_eq, decide_eq_true_eq] at hp
    refine .inl ⟨l₁, p, l₂, hp.2, hsplit, ?_⟩
    rw [herase, hp.1]
  · rw [if_neg hany]
    exact .inr rfl

lemma completes_cases (w : World V) :
    (∃ job jobs p, w.client.writeQueue = job :: jobs ∧ p.id = job.id ∧
        step w .completes =
          { w with
            client := { w.client with writeQueue := jobs, pending := w.client.pending ++ [p] }
            written := w.written ++ [p] }) ∨
      ∃ jobs, jobs.map Job.id = w.client.writeQueue.map Job.id ∧
        step w .completes = { w with client := { w.client with writeQueue := jobs } } := by
  rcases hqueue : w.client.writeQueue with _ | ⟨job, jobs⟩
  · refine .inr ⟨[], rfl, ?_⟩
    simp only [step, write_completes, whole_written, hqueue, Option.toList_none, map_nil,
      append_nil]
    rw [← hqueue]
  · simp only [step, write_completes, whole_written, hqueue]
    cases hdev : job.at_device with
    | false =>
      refine .inr ⟨job :: jobs, rfl, ?_⟩
      simp only [Bool.not_false, if_true, Bool.false_and, Bool.false_eq_true, if_false,
        Option.toList_none, map_nil, append_nil]
      rw [← hqueue]
    | true =>
      cases hend : (job.rest.drop BLE_CHUNK_SIZE).isEmpty with
      | true => exact .inl ⟨job, jobs, ⟨job.id, w.now, job.timeoutMs⟩, rfl, rfl, rfl⟩
      | false =>
        refine .inr ⟨⟨job.id, job.rest.drop BLE_CHUNK_SIZE, false, job.timeoutMs⟩ :: jobs, rfl,
          ?_⟩
        simp only [Bool.not_true, Bool.false_eq_true, if_false, Bool.and_false, Option.toList_none,
          map_nil, append_nil]

lemma reaches_cases (w : World V) :
    ∃ jobs received, jobs.map Job.id = w.client.writeQueue.map Job.id ∧
      (∀ id ∈ received, id ∈ w.received ∨ id ∈ w.client.writeQueue.map Job.id) ∧
      reaches w =
        { w with client := { w.client with writeQueue := jobs }, received := received } := by
  unfold reaches
  rcases hqueue : w.client.writeQueue with _ | ⟨job, jobs⟩
  · exact ⟨w.client.writeQueue, w.received, by rw [hqueue], fun id h => .inl h, rfl⟩
  · refine ⟨{ job with at_device := true } :: jobs,
      if (job.rest.drop BLE_CHUNK_SIZE).isEmpty then job.id :: w.received else w.received, rfl,
      fun id h => ?_, rfl⟩
    split at h
    · rcases mem_cons.1 h with rfl | h
      · exact .inr mem_cons_self
      · exact .inl h
    · exact .inl h

/-! ## The invariant -/

structure Inv (w : World V) : Prop where
  nodup : w.client.ids.Nodup
  issued : ∀ id ∈ w.client.ids, w.first < id ∧ id ≤ w.client.rpcId
  first_le : w.first ≤ w.client.rpcId
  received : ∀ id ∈ w.received, id ≤ w.client.rpcId
  -- a call that was registered waits, or has settled, by the timer only after its time
  registered : ∀ p ∈ w.written, p ∈ w.client.pending ∨ ∃ o, (p.id, o) ∈ w.client.settled ∧
    o ≠ .write_failed ∧ (o = .timed_out → p.since + p.timeoutMs ≤ w.now)
  answered : ∀ x ∈ w.client.settled, x.2 = .timed_out ∨ x.2 = .write_failed ∨
    ∃ a ∈ w.arrived, a.1.id = x.1
  -- what was answered is not being written, and will not be
  seen : ∀ a ∈ w.arrived, a.1.id ∉ w.client.writeQueue.map Job.id ∧ a.1.id ≤ w.client.rpcId
  delivered : ∀ a ∈ w.arrived, ∀ p ∈ w.written, p.id = a.1.id → a.2 < p.since + p.timeoutMs →
    (p.id, a.1.outcome) ∈ w.client.settled

lemma inv_connected (first : ℕ) : Inv (connected V first) where
  nodup := nodup_nil
  issued := fun _ h => absurd h not_mem_nil
  first_le := le_refl first
  received := fun _ h => absurd h not_mem_nil
  registered := fun _ h => absurd h not_mem_nil
  answered := fun _ h => absurd h not_mem_nil
  seen := fun _ h => absurd h not_mem_nil
  delivered := fun _ h => absurd h not_mem_nil

lemma issued_moved {c c' : Transport V} (hperm : c'.ids.Perm c.ids) {first : ℕ}
    (hrpc : c'.rpcId = c.rpcId) (hnodup : c.ids.Nodup)
    (hissued : ∀ id ∈ c.ids, first < id ∧ id ≤ c.rpcId) :
    c'.ids.Nodup ∧ ∀ id ∈ c'.ids, first < id ∧ id ≤ c'.rpcId := by
  refine ⟨hperm.nodup_iff.2 hnodup, fun id hid => ?_⟩
  rw [hrpc]
  exact hissued id (hperm.mem_iff.1 hid)

variable {w : World V}

lemma inv_call (h : Inv w) (payload : List UInt8) (timeoutMs : ℕ) :
    Inv (step w (.call payload timeoutMs)) := by
  have hperm : (sendRPC w.client payload timeoutMs).ids.Perm
      ((w.client.rpcId + 1) :: w.client.ids) := by
    simp only [Transport.ids, sendRPC, map_append, append_assoc]
    exact perm_middle
  have hnew : w.client.rpcId + 1 ∉ w.client.ids := fun hmem => by
    have hle := (h.issued _ hmem).2
    omega
  refine ⟨?_, ?_, ?_, ?_, h.registered, h.answered, ?_, h.delivered⟩
  · exact hperm.nodup_iff.2 (nodup_cons.2 ⟨hnew, h.nodup⟩)
  · intro id hid
    have hfirst := h.first_le
    rcases mem_cons.1 (hperm.mem_iff.1 hid) with rfl | hold
    · exact ⟨Nat.lt_succ_of_le hfirst, le_refl _⟩
    · exact ⟨(h.issued id hold).1, Nat.le_succ_of_le (h.issued id hold).2⟩
  · exact Nat.le_succ_of_le h.first_le
  · exact fun id hid => Nat.le_succ_of_le (h.received id hid)
  · intro a ha
    obtain ⟨hnot, hle⟩ := h.seen a ha
    refine ⟨?_, Nat.le_succ_of_le hle⟩
    simp only [step, sendRPC, map_append, map_singleton, mem_append,
      mem_singleton, not_or]
    exact ⟨hnot, by omega⟩

lemma Inv.queue (h : Inv w) {jobs : List Job} {received : List ℕ}
    (hids : jobs.map Job.id = w.client.writeQueue.map Job.id)
    (hreceived : ∀ id ∈ received, id ∈ w.received ∨ id ∈ w.client.writeQueue.map Job.id) :
    Inv { w with client := { w.client with writeQueue := jobs }, received := received } := by
  have hsame : ({ w.client with writeQueue := jobs } : Transport V).ids = w.client.ids := by
    simp only [Transport.ids, hids]
  refine ⟨?_, ?_, h.first_le, ?_, h.registered, h.answered, ?_, h.delivered⟩
  · rw [hsame]
    exact h.nodup
  · rw [hsame]
    exact h.issued
  · intro id hid
    rcases hreceived id hid with hold | hjob
    · exact h.received id hold
    · exact (h.issued id (mem_append_left _ hjob)).2
  · rw [hids]
    exact h.seen

lemma inv_completes (h : Inv w) : Inv (step w .completes) := by
  rcases completes_cases w with ⟨job, jobs, p, hqueue, hp, hstep⟩ | ⟨jobs, hids, hstep⟩
  · rw [hstep]
    have hperm : ({ w.client with
        writeQueue := jobs
        pending := w.client.pending ++ [p] } : Transport V).ids.Perm w.client.ids := by
      simp only [Transport.ids, hqueue, map_cons, map_append, hp,
        append_assoc, cons_append]
      rw [← append_assoc, ← append_assoc]
      exact perm_middle
    obtain ⟨hnodup, hissued⟩ := issued_moved hperm rfl h.nodup h.issued
    have hjob : p.id ∈ w.client.writeQueue.map Job.id := by
      rw [hqueue, hp]
      exact mem_cons_self
    refine ⟨hnodup, hissued, h.first_le, h.received, fun q hq => ?_, h.answered, fun a ha => ?_,
      fun a ha q hq hid hlt => ?_⟩
    · rcases mem_append.1 hq with hold | hnew
      · exact (h.registered q hold).imp_left (mem_append_left _)
      · exact .inl (mem_append_right _ hnew)
    · obtain ⟨hnot, hle⟩ := h.seen a ha
      rw [hqueue] at hnot
      exact ⟨fun hmem => hnot (mem_cons_of_mem _ hmem), hle⟩
    · rcases mem_append.1 hq with hold | hnew
      · exact h.delivered a ha q hold hid hlt
      · -- nothing was answered yet that is only now registered
        rw [mem_singleton.1 hnew] at hid
        exact absurd (hid ▸ hjob) (h.seen a ha).1
  · rw [hstep]
    exact h.queue hids fun id hid => .inl hid

lemma inv_fails (h : Inv w) : Inv (step w .fails) := by
  rcases hqueue : w.client.writeQueue with _ | ⟨job, jobs⟩
  · have hstep : step w .fails = w := by
      simp only [step, write_fails, hqueue]
    rw [hstep]
    exact h
  · have hstep : step w .fails = { w with
        client := { w.client with
          writeQueue := jobs
          settled := w.client.settled ++ [(job.id, .write_failed)] } } := by
      simp only [step, write_fails, hqueue]
    rw [hstep]
    have hperm : ({ w.client with
        writeQueue := jobs
        settled := w.client.settled ++ [(job.id, .write_failed)] } : Transport V).ids.Perm
          w.client.ids := by
      simp only [Transport.ids, hqueue, map_append, ← append_assoc]
      exact perm_append_singleton _ _
    obtain ⟨hnodup, hissued⟩ := issued_moved hperm rfl h.nodup h.issued
    refine ⟨hnodup, hissued, h.first_le, h.received, fun q hq => ?_, fun x hx => ?_, fun a ha => ?_,
      fun a ha q hq hid hlt => mem_append_left _ (h.delivered a ha q hq hid hlt)⟩
    · refine (h.registered q hq).imp_right ?_
      rintro ⟨o, ho, hrest⟩
      exact ⟨o, mem_append_left _ ho, hrest⟩
    · rcases mem_append.1 hx with hold | hnew
      · exact h.answered x hold
      · rw [mem_singleton.1 hnew]
        exact .inr (.inl rfl)
    · obtain ⟨hnot, hle⟩ := h.seen a ha
      rw [hqueue] at hnot
      exact ⟨fun hmem => hnot (mem_cons_of_mem _ hmem), hle⟩

lemma Inv.settled (h : Inv w) {l₁ l₂ : List PendingRpc} {p : PendingRpc}
    (hpending : w.client.pending = l₁ ++ p :: l₂) {o : Outcome V} {arrived : List (Reply V × ℕ)}
    (hfailed : o ≠ .write_failed) (htimer : o = .timed_out → p.since + p.timeoutMs ≤ w.now)
    (harrived : ∀ a ∈ w.arrived, a ∈ arrived)
    (hanswer : o = .timed_out ∨ ∃ a ∈ arrived, a.1.id = p.id)
    (hseen : ∀ a ∈ arrived, a.1.id ∉ w.client.writeQueue.map Job.id ∧ a.1.id ≤ w.client.rpcId)
    (hdelivered : ∀ a ∈ arrived, ∀ q ∈ w.written, q.id = a.1.id →
      a.2 < q.since + q.timeoutMs → (q.id, a.1.outcome) ∈ w.client.settled ++ [(p.id, o)]) :
    Inv { w with
      client := { w.client with
        pending := l₁ ++ l₂
        settled := w.client.settled ++ [(p.id, o)] }
      arrived := arrived } := by
  have hperm : ({ w.client with
      pending := l₁ ++ l₂
      settled := w.client.settled ++ [(p.id, o)] } : Transport V).ids.Perm w.client.ids := by
    simp only [Transport.ids, hpending, map_append, map_cons]
    apply Perm.append_left
    rw [← append_assoc]
    refine (perm_append_singleton _ _).trans ?_
    rw [append_assoc, append_assoc]
    exact perm_middle.symm
  obtain ⟨hnodup, hissued⟩ := issued_moved hperm rfl h.nodup h.issued
  refine ⟨hnodup, hissued, h.first_le, h.received, fun q hq => ?_, fun x hx => ?_, hseen,
    hdelivered⟩
  · rcases h.registered q hq with hwaits | ⟨o', ho', hrest⟩
    · rw [hpending] at hwaits
      rcases mem_append.1 hwaits with h₁ | h₂
      · exact .inl (mem_append_left _ h₁)
      · rcases mem_cons.1 h₂ with rfl | h₂
        · exact .inr ⟨o, mem_append_right _ mem_cons_self, hfailed, htimer⟩
        · exact .inl (mem_append_right _ h₂)
    · exact .inr ⟨o', mem_append_left _ ho', hrest⟩
  · rcases mem_append.1 hx with hold | hnew
    · rcases h.answered x hold with hx | hx | ⟨a, ha, hid⟩
      · exact .inl hx
      · exact .inr (.inl hx)
      · exact .inr (.inr ⟨a, harrived a ha, hid⟩)
    · rw [mem_singleton.1 hnew]
      exact hanswer.imp_right .inr

lemma inv_timer (h : Inv w) (id : ℕ) : Inv (step w (.timer id)) := by
  rcases timer_cases w.client id w.now with ⟨l₁, p, l₂, hlate, hpending, heq⟩ | heq
  · rw [step, heq]
    refine h.settled hpending (fun hne => by cases hne) (fun _ => hlate) (fun a ha => ha)
      (.inl rfl) h.seen fun a ha q hq hid hlt => ?_
    exact mem_append_left _ (h.delivered a ha q hq hid hlt)
  · rw [step, heq]
    exact h

lemma outcome_ne : msg.outcome ≠ .write_failed ∧ msg.outcome ≠ .timed_out := by
  unfold Reply.outcome
  cases msg.error with
  | none => simp
  | some message => simp

lemma Inv.waits (h : Inv w) {msg : Reply V} (hanswers : Answers w (.reply msg)) {p : PendingRpc}
    (hp : p ∈ w.written) (hid : p.id = msg.id) (hlt : w.now < p.since + p.timeoutMs) :
    p ∈ w.client.pending := by
  rcases h.registered p hp with hwaits | ⟨o, ho, hfailed, htimer⟩
  · exact hwaits
  · have hmem : p.id ∈ w.client.ids :=
      mem_append_right _ (mem_append_right _ (mem_map.2 ⟨_, ho, rfl⟩))
    rcases h.answered _ ho with hlate | hfail | ⟨a, ha, haid⟩
    · exact absurd (htimer hlate) (by omega)
    · exact absurd hfail hfailed
    · have honce := (hanswers (hid ▸ (h.issued _ hmem).1)).2
      exact absurd (haid.trans hid) (honce a ha)

lemma inv_reply (h : Inv w) {msg : Reply V} (hanswers : Answers w (.reply msg))
    (hafter : AfterWrite w (.reply msg)) : Inv (step w (.reply msg)) := by
  have hseen : ∀ a ∈ w.arrived ++ [(msg, w.now)],
      a.1.id ∉ w.client.writeQueue.map Job.id ∧ a.1.id ≤ w.client.rpcId := by
    intro a ha
    rcases mem_append.1 ha with hold | hnew
    · exact h.seen a hold
    · rw [mem_singleton.1 hnew]
      refine ⟨fun hmem => ?_, ?_⟩
      · obtain ⟨job, hjob, hid⟩ := mem_map.1 hmem
        exact hafter job hjob hid
      · rcases Nat.lt_or_ge w.first msg.id with hnew | hold
        · exact h.received _ (hanswers hnew).1
        · exact hold.trans h.first_le
  rcases settle_cases w.client msg with ⟨l₁, p, l₂, hid, hpending, heq⟩ | ⟨hnone, heq⟩
  · rw [step, heq]
    refine h.settled hpending (outcome_ne msg).1 (fun ht => absurd ht (outcome_ne msg).2)
      (fun a ha => mem_append_left _ ha)
      (.inr ⟨(msg, w.now), mem_append_right _ mem_cons_self, hid.symm⟩) hseen
      fun a ha q hq hqid hlt => ?_
    rcases mem_append.1 ha with hold | hnew
    · exact mem_append_left _ (h.delivered a hold q hq hqid hlt)
    · rw [mem_singleton.1 hnew] at hqid ⊢
      rw [hqid, ← hid]
      exact mem_append_right _ mem_cons_self
  · rw [step, heq]
    refine ⟨h.nodup, h.issued, h.first_le, h.received, h.registered, fun x hx => ?_, hseen,
      fun a ha q hq hqid hlt => ?_⟩
    · rcases h.answered x hx with hx | hx | ⟨a, ha, haid⟩
      · exact .inl hx
      · exact .inr (.inl hx)
      · exact .inr (.inr ⟨a, mem_append_left _ ha, haid⟩)
    · rcases mem_append.1 ha with hold | hnew
      · exact h.delivered a hold q hq hqid hlt
      · rw [mem_singleton.1 hnew] at hqid hlt
        exact absurd hqid (hnone q (h.waits hanswers hq hqid hlt))

lemma inv_wait (h : Inv w) (ms : ℕ) : Inv (step w (.wait ms)) := by
  refine ⟨h.nodup, h.issued, h.first_le, h.received, fun p hp => ?_, h.answered, h.seen,
    h.delivered⟩
  refine (h.registered p hp).imp_right ?_
  rintro ⟨o, ho, hfailed, htimer⟩
  exact ⟨o, ho, hfailed, fun hlate => (htimer hlate).trans (Nat.le_add_right _ _)⟩

lemma inv_step (w : World V) (ev : Event V) (h : Inv w) (hok : Answers w ev ∧ AfterWrite w ev) :
    Inv (step w ev) := by
  cases ev with
  | call payload timeoutMs => exact inv_call h payload timeoutMs
  | reaches =>
    obtain ⟨jobs, received, hids, hreceived, heq⟩ := reaches_cases w
    rw [step, heq]
    exact h.queue hids hreceived
  | completes => exact inv_completes h
  | fails => exact inv_fails h
  | reply msg => exact inv_reply h hok.1 hok.2
  | other_line => exact h
  | timer id => exact inv_timer h id
  | wait ms => exact inv_wait h ms

/-! ## Replies -/

lemma settle_one :
    (settle c msg).1.settled = c.settled ∨
      (settle c msg).1.settled = c.settled ++ [(msg.id, msg.outcome)] := by
  rcases settle_cases c msg with ⟨l₁, p, l₂, hid, -, heq⟩ | ⟨-, heq⟩
  · rw [heq, hid]
    exact .inr rfl
  · rw [heq]
    exact .inl rfl

/-- **No reply is lost that is seen after the write.** Every reply seen before the timeout of its
request, and only when its request is no longer being written, has settled the call; every call
settles at most once, by the reply with its id. -/
theorem replies_settle (first : ℕ) (evs : List (Event V))
    (hanswers : Meets step Answers (connected V first) evs)
    (hafter : Meets step AfterWrite (connected V first) evs) :
    let w := evs.foldl step (connected V first)
    (∀ a ∈ w.arrived, ∀ p ∈ w.written, p.id = a.1.id → a.2 < p.since + p.timeoutMs →
      (p.id, a.1.outcome) ∈ w.client.settled) ∧
    (w.client.settled.map Prod.fst).Nodup ∧
    ∀ msg, (settle w.client msg).1.settled = w.client.settled ∨
      (settle w.client msg).1.settled = w.client.settled ++ [(msg.id, msg.outcome)] := by
  have hinv : Inv (evs.foldl step (connected V first)) :=
    foldl_invariant inv_step (meets_and.2 ⟨hanswers, hafter⟩) (inv_connected first)
  refine ⟨hinv.delivered, ?_, settle_one _⟩
  exact (nodup_append.1 (nodup_append.1 hinv.nodup).2.1).2.1

end

/-! ## Two calls -/

def thirty : List UInt8 := List.replicate 30 0

def reply_to (id : ℕ) : Reply ℕ := ⟨id, none, 100 + id⟩

def in_order : List (Event ℕ) :=
  [.call thirty 5000, .call thirty 5000, .reaches, .completes, .reaches, .completes, .wait 10,
    .reply (reply_to 1), .reaches, .completes, .reaches, .completes, .wait 20,
    .reply ⟨2, some "busy", 0⟩, .wait 9000, .timer 1, .timer 2]

theorem replies_settle_two_calls :
    let w := in_order.foldl step (connected ℕ 0)
    w.client.settled = [(1, .resolved 101), (2, .rejected "busy")] ∧
      ∀ a ∈ w.arrived, ∀ p ∈ w.written, p.id = a.1.id → a.2 < p.since + p.timeoutMs →
        (p.id, a.1.outcome) ∈ w.client.settled :=
  ⟨by decide, (replies_settle 0 in_order (by decide) (by decide)).1⟩

/-- The reply is seen before the write of the last chunk completes, and the call times out. -/
theorem early_reply_lost :
    let evs : List (Event ℕ) := [.call thirty 5000, .reaches, .completes, .reaches,
      .reply (reply_to 1), .completes, .wait 5000, .timer 1]
    let w := evs.foldl step (connected ℕ 0)
    Meets step Answers (connected ℕ 0) evs ∧ w.arrived = [(reply_to 1, 0)] ∧
      w.written = [⟨1, 0, 5000⟩] ∧ w.client.settled = [(1, .timed_out)] := by
  decide

end BrambleMesh.BleRpc
