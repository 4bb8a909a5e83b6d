/-
Caches whose entries age: an offer drops what is no longer live, and a full cache gives up the
smallest stamp. Ages are differences modulo 2^32; only where that matters are the stamps required
to lie before the readings.
-/
import Mathlib

namespace BrambleMesh.TimedCache

open List

/-! ## Entries and their ages -/

structure Entry (α : Type*) where
  key : α
  stamp : UInt32
deriving DecidableEq, Repr

abbrev Cache (α : Type*) := List (Entry α)

section

variable {α : Type*} {expiry now now' : UInt32} {c : Cache α} {e : Entry α}

def Entry.live (expiry now : UInt32) (e : Entry α) : Bool := now - e.stamp < expiry

def purge (expiry now : UInt32) (c : Cache α) : Cache α := c.filter (Entry.live expiry now)

lemma mem_purge : e ∈ purge expiry now c ↔ e ∈ c ∧ e.live expiry now :=
  mem_filter

lemma purge_append (c c' : Cache α) :
    purge expiry now (c ++ c') = purge expiry now c ++ purge expiry now c' :=
  filter_append ..

lemma live_of_live (hstamp : e.stamp ≤ now) (hnow : now ≤ now')
    (h : e.live expiry now') : e.live expiry now := by
  simp only [Entry.live, decide_eq_true_eq, UInt32.lt_iff_toNat_lt] at h ⊢
  rw [UInt32.toNat_sub_of_le _ _ hstamp]
  rw [UInt32.toNat_sub_of_le _ _ (UInt32.le_trans hstamp hnow)] at h
  have hle := UInt32.le_iff_toNat_le.1 hnow
  omega

lemma purge_purge (hstamp : ∀ e ∈ c, e.stamp ≤ now) (hnow : now ≤ now') :
    purge expiry now' (purge expiry now c) = purge expiry now' c := by
  rw [purge, purge, purge, filter_filter]
  apply filter_congr
  intro e he
  rcases hlive : e.live expiry now' with _ | _
  · rfl
  · rw [live_of_live (hstamp e he) hnow hlive]
    rfl

end

/-! ## Offering a key -/

section

variable {α : Type*} [DecidableEq α]

def holds (expiry : UInt32) (c : Cache α) (k : α) (now : UInt32) : Bool :=
  c.any fun e => e.key = k && e.live expiry now

def oldest (c : Cache α) : ℕ :=
  let stamp (i : ℕ) : UInt32 := (c.map Entry.stamp).getD i 0
  (List.range' 1 (c.length - 1)).foldl (fun old i => if stamp i < stamp old then i else old) 0

def offer (expiry : UInt32) (capacity : ℕ) (c : Cache α) (k : α) (now : UInt32) :
    Bool × Cache α :=
  let c := purge expiry now c
  if c.any fun e => e.key = k then (true, c)
  else if c.length < capacity then (false, c ++ [⟨k, now⟩])
  else (false, c.set (oldest c) ⟨k, now⟩)

variable {expiry now : UInt32} {capacity : ℕ} {c : Cache α} {k : α} {e : Entry α}

lemma holds_iff :
    holds expiry c k now ↔ ∃ e ∈ c, e.key = k ∧ e.live expiry now := by
  simp [holds]

lemma holds_eq_false_iff :
    holds expiry c k now = false ↔ ∀ e ∈ c, e.key = k → e.live expiry now = false := by
  simp [holds]

lemma any_purge : ((purge expiry now c).any fun e => e.key = k) = holds expiry c k now := by
  rw [purge, any_filter, holds]
  exact congrArg c.any (funext fun e => Bool.and_comm ..)

/-- **What an offer does.**  A key that is held leaves the cache purged; a key that is not is
taken in, at the end or in the place of another. -/
theorem offer_eq :
    offer expiry capacity c k now =
      if holds expiry c k now then (true, purge expiry now c)
      else if (purge expiry now c).length < capacity then (false, purge expiry now c ++ [⟨k, now⟩])
      else (false, (purge expiry now c).set (oldest (purge expiry now c)) ⟨k, now⟩) := by
  rw [offer, any_purge]

@[simp]
lemma offer_fst : (offer expiry capacity c k now).1 = holds expiry c k now := by
  rw [offer_eq]
  split_ifs with hheld
  · exact hheld.symm
  · exact (Bool.eq_false_of_not_eq_true hheld).symm
  · exact (Bool.eq_false_of_not_eq_true hheld).symm

lemma mem_of_mem_offer (h : e ∈ (offer expiry capacity c k now).2) : e ∈ c ∨ e = ⟨k, now⟩ := by
  rw [offer_eq] at h
  split_ifs at h
  · exact .inl (mem_purge.1 h).1
  · exact (mem_append.1 h).imp (fun h => (mem_purge.1 h).1) mem_singleton.1
  · exact (mem_or_eq_of_mem_set h).imp (fun h => (mem_purge.1 h).1) id

lemma mem_offer_of_mem (hroom : (purge expiry now c).length < capacity) (he : e ∈ c)
    (hlive : e.live expiry now) : e ∈ (offer expiry capacity c k now).2 := by
  have hmem : e ∈ purge expiry now c := mem_purge.2 ⟨he, hlive⟩
  rw [offer_eq]
  split_ifs
  · exact hmem
  · exact mem_append_left _ hmem

lemma mem_offer_self (hroom : (purge expiry now c).length < capacity)
    (hnew : holds expiry c k now = false) : ⟨k, now⟩ ∈ (offer expiry capacity c k now).2 := by
  rw [offer_eq, hnew, if_neg Bool.false_ne_true, if_pos hroom]
  exact mem_append_right _ (mem_singleton_self _)

end

/-! ## Two caches -/

structure Wider {α : Type*} (expiry now : UInt32) (c c' : Cache α) (P : Entry α → Prop) : Prop where
  sublist : (purge expiry now c').Sublist (purge expiry now c)
  rest : ∀ e ∈ c, e.live expiry now → e ∈ c' ∨ P e
  stamps : ∀ e ∈ c, e.stamp ≤ now
  stamps' : ∀ e ∈ c', e.stamp ≤ now

namespace Wider

section

variable {α : Type*} {expiry now now' : UInt32} {c c' : Cache α} {P Q : Entry α → Prop}

lemma refl (hstamps : ∀ e ∈ c, e.stamp ≤ now) : Wider expiry now c c P :=
  ⟨Sublist.refl _, fun _ he _ => Or.inl he, hstamps, hstamps⟩

lemma mono (h : Wider expiry now c c' P) (hPQ : ∀ e, P e → Q e) : Wider expiry now c c' Q :=
  ⟨h.sublist, fun e he hlive => (h.rest e he hlive).imp id (hPQ e), h.stamps, h.stamps'⟩

lemma later (h : Wider expiry now c c' P) (hnow : now ≤ now') : Wider expiry now' c c' P := by
  refine ⟨?_, ?_, ?_, ?_⟩
  · rw [← purge_purge h.stamps hnow, ← purge_purge h.stamps' hnow]
    exact h.sublist.filter _
  · exact fun e he hlive => h.rest e he (live_of_live (h.stamps e he) hnow hlive)
  · exact fun e he => UInt32.le_trans (h.stamps e he) hnow
  · exact fun e he => UInt32.le_trans (h.stamps' e he) hnow

lemma purge_both (h : Wider expiry now c c' P) :
    Wider expiry now (purge expiry now c) (purge expiry now c') P := by
  refine ⟨h.sublist.filter _, ?_, ?_, ?_⟩
  · intro e he hlive
    have hmem := h.rest e (mem_purge.1 he).1 hlive
    exact hmem.imp (fun hc' => mem_purge.2 ⟨hc', hlive⟩) id
  · exact fun e he => h.stamps e (mem_purge.1 he).1
  · exact fun e he => h.stamps' e (mem_purge.1 he).1

end

section

variable {α : Type*} [DecidableEq α] {expiry now : UInt32} {capacity : ℕ} {c c' : Cache α} {k : α}
  {P : Entry α → Prop}

lemma holds_eq (h : Wider expiry now c c' P)
    (hk : ∀ e, P e → e.key = k → e.live expiry now = false) :
    holds expiry c k now = holds expiry c' k now := by
  rw [Bool.eq_iff_iff, holds_iff, holds_iff]
  constructor
  · rintro ⟨e, he, hkey, hlive⟩
    rcases h.rest e he hlive with hc' | hP
    · exact ⟨e, hc', hkey, hlive⟩
    · exact absurd hlive (Bool.eq_false_iff.1 (hk e hP hkey))
  · rintro ⟨e, he, hkey, hlive⟩
    have hmem := h.sublist.subset (mem_purge.2 ⟨he, hlive⟩)
    exact ⟨e, (mem_purge.1 hmem).1, hkey, hlive⟩

lemma offer_both (h : Wider expiry now c c' P) (hroom : (purge expiry now c).length < capacity)
    (hk : ∀ e, P e → e.key = k → e.live expiry now = false) :
    Wider expiry now (offer expiry capacity c k now).2 (offer expiry capacity c' k now).2 P := by
  have hroom' : (purge expiry now c').length < capacity := h.sublist.length_le.trans_lt hroom
  have hpurged := h.purge_both
  rw [offer_eq, offer_eq, h.holds_eq hk, if_pos hroom, if_pos hroom']
  split_ifs
  · exact hpurged
  · refine ⟨?_, ?_, ?_, ?_⟩
    · rw [purge_append, purge_append]
      exact hpurged.sublist.append_right _
    · intro e he hlive
      rcases mem_append.1 he with he | he
      · exact (hpurged.rest e he hlive).imp (mem_append_left _) id
      · exact .inl (mem_append_right _ he)
    · intro e he
      rcases mem_append.1 he with he | he
      · exact hpurged.stamps e he
      · rw [mem_singleton.1 he]
        exact UInt32.le_refl _
    · intro e he
      rcases mem_append.1 he with he | he
      · exact hpurged.stamps' e he
      · rw [mem_singleton.1 he]
        exact UInt32.le_refl _

lemma offer_left (h : Wider expiry now c c' P) (hroom : (purge expiry now c).length < capacity)
    (hP : P ⟨k, now⟩) : Wider expiry now (offer expiry capacity c k now).2 c' P := by
  have hpurge : (purge expiry now c').Sublist (purge expiry now (purge expiry now c)) := by
    rw [purge_purge h.stamps (UInt32.le_refl _)]
    exact h.sublist
  rw [offer_eq, if_pos hroom]
  split_ifs
  · exact ⟨hpurge, fun e he => h.rest e (mem_purge.1 he).1,
      fun e he => h.stamps e (mem_purge.1 he).1, h.stamps'⟩
  · refine ⟨?_, ?_, ?_, h.stamps'⟩
    · rw [purge_append]
      exact hpurge.trans (sublist_append_left _ _)
    · intro e he hlive
      rcases mem_append.1 he with he | he
      · exact h.rest e (mem_purge.1 he).1 hlive
      · rw [mem_singleton.1 he]
        exact .inr hP
    · intro e he
      rcases mem_append.1 he with he | he
      · exact h.stamps e (mem_purge.1 he).1
      · rw [mem_singleton.1 he]
        exact UInt32.le_refl _

end

end Wider

end BrambleMesh.TimedCache
