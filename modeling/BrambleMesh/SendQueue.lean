/-
The send queue: `s_queued_msgs` of main/mesh_task.c and main/mesh_dm.c. A flush takes the uid off
the entry it is about to send from, and frees the entry after the send.
-/
import BrambleMesh.DmSend

namespace BrambleMesh.SendQueue

open DmSend Function Table

/-! ## Queueing -/

def holds (uid : UInt32) (m : QueuedMsg) : Bool := m.used && m.uid == uid && uid != 0

def queue_message (q : MsgQueue) (dest_addr : UInt32) (data : List UInt8) (uid now : UInt32) :
    MsgQueue × Bool :=
  match Table.find (holds uid) q with
  | some _ => (q, true)
  | none =>
    match Table.find (fun m => !m.used) q with
    | some i => (update q i ⟨dest_addr, data, now, true, .ROUTE, 0, uid⟩, true)
    | none => (q, false)

def evicted (q : MsgQueue) (uid : UInt32) : Option (Fin MAX_QUEUED_MSGS) :=
  match Table.find (holds uid) q with
  | some _ => none
  | none =>
    match Table.find (fun m => !m.used) q with
    | some _ => none
    | none =>
      Table.argmaxOn (fun m => m.used && m.reason == .SESSION)
        (fun m => 0xFFFFFFFF - m.timestamp.toNat) q

/-! ## Giving entries up -/

def waits_for (dest_addr : UInt32) (m : QueuedMsg) : Bool :=
  m.used && m.reason == .ROUTE && m.dest_addr == dest_addr

def waits_session (dest_addr : UInt32) (m : QueuedMsg) : Bool :=
  m.used && m.reason == .SESSION && m.dest_addr == dest_addr

def queue_ttl : QueueReason → UInt32
  | .SESSION => 150000
  | .ROUTE => 60000

def expired (t : UInt32) (m : QueuedMsg) : Bool :=
  m.used && decide (t - m.timestamp > queue_ttl m.reason)

def drop (p : QueuedMsg → Bool) (q : MsgQueue) : MsgQueue := fun i =>
  if p (q i) then { q i with used := false } else q i

def uids (p : QueuedMsg → Bool) (q : MsgQueue) : List UInt32 :=
  ((List.finRange MAX_QUEUED_MSGS).filter fun i => p (q i)).map fun i => (q i).uid

def free (q : MsgQueue) (i : Fin MAX_QUEUED_MSGS) : MsgQueue :=
  update q i { q i with used := false }

def blank (q : MsgQueue) (i : Fin MAX_QUEUED_MSGS) : MsgQueue :=
  update q i { q i with uid := 0 }

/-! ## One entry for a message -/

def OneEntry (q : MsgQueue) : Prop :=
  ∀ uid i j, holds uid (q i) → holds uid (q j) → i = j
deriving Decidable

variable {q q' : MsgQueue} {uid : UInt32} {i : Fin MAX_QUEUED_MSGS} {m : QueuedMsg}

lemma OneEntry.of_fewer (h : OneEntry q)
    (hfewer : ∀ uid i, holds uid (q' i) → holds uid (q i)) : OneEntry q' :=
  fun uid i j hi hj => h uid i j (hfewer uid i hi) (hfewer uid j hj)

lemma OneEntry.insert (h : OneEntry q) (hnone : find (holds m.uid) q = none) :
    OneEntry (update q i m) := by
  -- an entry other than `i` holds what it held, and that is not the new uid
  have hother : ∀ uid j, j ≠ i → holds uid (update q i m j) →
      holds uid (q j) ∧ uid ≠ m.uid := by
    intro uid j hj hheld
    rw [update_of_ne hj] at hheld
    refine ⟨hheld, ?_⟩
    rintro rfl
    rw [find_eq_none.1 hnone j] at hheld
    exact Bool.false_ne_true hheld
  have hself : ∀ uid, holds uid (update q i m i) → uid = m.uid := by
    intro uid hheld
    rw [update_self] at hheld
    simp only [holds, Bool.and_eq_true, beq_iff_eq] at hheld
    exact hheld.1.2.symm
  intro uid j k hj hk
  by_cases hji : j = i <;> by_cases hki : k = i
  · exact hji.trans hki.symm
  · subst hji
    exact absurd (hself uid hj) (hother uid k hki hk).2
  · subst hki
    exact absurd (hself uid hk) (hother uid j hji hj).2
  · exact h uid j k (hother uid j hji hj).1 (hother uid k hki hk).1

lemma OneEntry.queue_message (h : OneEntry q) (dest_addr : UInt32) (data : List UInt8)
    (uid now : UInt32) : OneEntry (queue_message q dest_addr data uid now).1 := by
  unfold SendQueue.queue_message
  rcases hheld : find (holds uid) q with _ | i
  · rcases hfree : find (fun m : QueuedMsg => !m.used) q with _ | i
    · exact h
    · exact h.insert hheld
  · exact h

lemma OneEntry.queue_session_message (h : OneEntry q) (dest_addr : UInt32) (data : List UInt8)
    (uid now next_packet_id : UInt32) :
    OneEntry (queue_session_message q dest_addr data uid now next_packet_id).1 := by
  unfold DmSend.queue_session_message
  rcases hheld : find (fun m : QueuedMsg => m.used && m.uid == uid && uid != 0) q with _ | i
  · have hnone : find (holds uid) q = none := hheld
    dsimp only
    generalize (find (fun m : QueuedMsg => !m.used) q).or _ = slot
    match slot with
    | none => exact h
    | some i => exact h.insert hnone
  · exact h

lemma uid_of_holds (h : holds uid m) : m.uid = uid := by
  simp only [holds, Bool.and_eq_true, beq_iff_eq] at h
  exact h.1.2

variable {j : Fin MAX_QUEUED_MSGS} {dest_addr row_uid now : UInt32} {data : List UInt8}

lemma holds_update (h : holds uid (update q i m j)) :
    uid = m.uid ∨ holds uid (q j) := by
  by_cases hj : j = i
  · subst hj
    rw [update_self] at h
    exact .inl (uid_of_holds h).symm
  · rw [update_of_ne hj] at h
    exact .inr h

lemma holds_queue_message
    (h : holds uid ((queue_message q dest_addr data row_uid now).1 i)) :
    uid = row_uid ∨ holds uid (q i) := by
  unfold SendQueue.queue_message at h
  rcases hheld : find (holds row_uid) q with _ | j <;> rw [hheld] at h
  · rcases hfree : find (fun m : QueuedMsg => !m.used) q with _ | j <;> rw [hfree] at h
    · exact .inr h
    · exact holds_update h
  · exact .inr h

lemma holds_queue_session_message {next_packet_id : UInt32}
    (h : holds uid ((queue_session_message q dest_addr data row_uid now next_packet_id).1 i) =
      true) :
    uid = row_uid ∨ holds uid (q i) := by
  unfold DmSend.queue_session_message at h
  generalize find (fun m : QueuedMsg => m.used && m.uid == row_uid && row_uid != 0) q = held
    at h
  cases held with
  | some j => exact .inr h
  | none =>
    generalize (find (fun m : QueuedMsg => !m.used) q).or _ = slot at h
    cases slot with
    | none => exact .inr h
    | some j => exact holds_update h

lemma not_held_of_queue_message (h : (queue_message q dest_addr data row_uid now).1 ≠ q)
    (i : Fin MAX_QUEUED_MSGS) :
    holds row_uid (q i) = false := by
  unfold SendQueue.queue_message at h
  rcases hheld : find (holds row_uid) q with _ | j <;> rw [hheld] at h
  · exact find_eq_none.1 hheld i
  · exact absurd rfl h

lemma not_held_of_queue_session_message {next_packet_id : UInt32}
    (h : (queue_session_message q dest_addr data row_uid now next_packet_id).1 ≠ q)
    (i : Fin MAX_QUEUED_MSGS) : holds row_uid (q i) = false := by
  unfold DmSend.queue_session_message at h
  rcases hheld : find (fun m : QueuedMsg => m.used && m.uid == row_uid && row_uid != 0) q
    with _ | j
  · exact find_eq_none.1 hheld i
  · rw [hheld] at h
    exact absurd rfl h

lemma holds_free (h : holds uid (free q i j)) :
    j ≠ i ∧ holds uid (q j) := by
  unfold SendQueue.free at h
  by_cases hj : j = i
  · subst hj
    simp [holds] at h
  · rw [update_of_ne hj] at h
    exact ⟨hj, h⟩

lemma holds_blank (h : holds uid (blank q i j)) :
    j ≠ i ∧ holds uid (q j) := by
  unfold SendQueue.blank at h
  by_cases hj : j = i
  · subst hj
    rw [update_self] at h
    simp only [holds, Bool.and_eq_true, beq_iff_eq, bne_iff_ne] at h
    exact absurd h.1.2.symm h.2
  · rw [update_of_ne hj] at h
    exact ⟨hj, h⟩

lemma OneEntry.free (h : OneEntry q) (i : Fin MAX_QUEUED_MSGS) : OneEntry (free q i) :=
  h.of_fewer fun _ _ hheld => (holds_free hheld).2

lemma OneEntry.blank (h : OneEntry q) (i : Fin MAX_QUEUED_MSGS) : OneEntry (blank q i) :=
  h.of_fewer fun _ _ hheld => (holds_blank hheld).2

lemma OneEntry.not_held (h : OneEntry q) (hused : (q i).used) (hj : j ≠ i) :
    holds (q i).uid (q j) = false := by
  by_contra hheld
  have hheld' : holds (q i).uid (q j) := Bool.eq_true_of_not_eq_false hheld
  have hself : holds (q i).uid (q i) := by
    simp only [holds, Bool.and_eq_true, bne_iff_ne] at hheld' ⊢
    exact ⟨⟨hused, beq_self_eq_true _⟩, hheld'.2⟩
  exact hj (h _ j i hheld' hself)

end BrambleMesh.SendQueue
