/-
Rate limits kept in a small table: a key without an entry is granted and takes a free one, or
recycles the oldest. As long as no entry is recycled while it blocks, two grants of one key lie an
interval apart.
-/
import BrambleMesh.Lib.Run
import BrambleMesh.Lib.Table

namespace BrambleMesh.RateTable

open Function
open Table (find)

variable {n : ℕ} {K E : Type*}

/-- A table and its limit.  `Marks e t`: entry `e` was written by a grant at time `t`. -/
structure Limiter (n : ℕ) (K E : Type*) where
  key : E → K
  free : K
  empty : E
  blocks : E → ℕ → Bool
  renew : E → ℕ → E
  fresh : K → ℕ → E
  oldest : (Fin n → E) → Fin n
  interval : ℕ
  Valid : E → Prop
  Marks : E → ℕ → Prop

namespace Limiter

variable [DecidableEq K] (L : Limiter n K E)

def ask (t : Fin n → E) (key : K) (now : ℕ) (first : Bool) : Bool × (Fin n → E) :=
  match find (fun e => L.key e = key) t with
  | some i =>
    if L.blocks (t i) now then (false, t) else (true, update t i (L.renew (t i) now))
  | none =>
    let slot := (find (fun e => L.key e = L.free) t).getD (L.oldest t)
    (first, update t slot (L.fresh key now))

def clear (t : Fin n → E) (key : K) : Fin n → E :=
  match find (fun e => L.key e = key) t with
  | some i => update t i L.empty
  | none => t

end Limiter

/-! ## Runs -/

structure State (n : ℕ) (K E : Type*) where
  table : Fin n → E
  last : K → Option ℕ
  clock : ℕ

inductive Event (K : Type*)
  | ask (key : K) (now : ℕ) (first : Bool)
  | clear (key : K)
deriving DecidableEq, Repr

variable [DecidableEq K]

def start (L : Limiter n K E) : State n K E := ⟨fun _ => L.empty, fun _ => none, 0⟩

def step (L : Limiter n K E) (s : State n K E) : Event K → State n K E
  | .ask key now first =>
    match L.ask s.table key now first with
    | (true, t) => ⟨t, update s.last key (some now), now⟩
    | (false, t) => ⟨t, s.last, now⟩
  | .clear key => ⟨L.clear s.table key, update s.last key none, s.clock⟩

def Spare (L : Limiter n K E) (s : State n K E) : Event K → Prop
  | .ask key now _ => key ≠ L.free ∧ s.clock ≤ now ∧
    (find (fun e => L.key e = key) s.table = none →
      find (fun e => L.key e = L.free) s.table = none →
        L.blocks (s.table (L.oldest s.table)) now = false)
  | .clear key => key ≠ L.free

class Limiter.Lawful (L : Limiter n K E) : Prop where
  key_empty : L.key L.empty = L.free
  key_fresh : ∀ key now, L.key (L.fresh key now) = key
  key_renew : ∀ e now, L.key (L.renew e now) = L.key e
  valid_fresh : ∀ key now, L.Valid (L.fresh key now)
  valid_renew : ∀ e now, L.Valid e → L.Valid (L.renew e now)
  marks_fresh : ∀ key now, L.Marks (L.fresh key now) now
  marks_renew : ∀ e now, L.Valid e → L.Marks (L.renew e now) now
  blocks : ∀ e t now, L.Marks e t → t ≤ now → now < t + L.interval → L.blocks e now = true

section

variable {L : Limiter n K E} {s : State n K E} {key : K} {now : ℕ} {first : Bool}

/-- A grant that still blocks has its entry, and each key has one entry at most. -/
structure Remembers (L : Limiter n K E) (s : State n K E) : Prop where
  unique : ∀ i j, L.key (s.table i) ≠ L.free → L.key (s.table i) = L.key (s.table j) → i = j
  valid : ∀ i, L.key (s.table i) ≠ L.free → L.Valid (s.table i)
  past : ∀ key t, s.last key = some t → key ≠ L.free ∧ t ≤ s.clock
  entry : ∀ key t, s.last key = some t → s.clock < t + L.interval →
    ∃ i, L.key (s.table i) = key ∧ L.Marks (s.table i) t

omit [DecidableEq K] in
lemma remembers_start (L : Limiter n K E) [hL : L.Lawful] : Remembers L (start L) where
  unique _ _ h := absurd hL.key_empty h
  valid _ h := absurd hL.key_empty h
  past _ t h := absurd h.symm (Option.some_ne_none t)
  entry _ t h := absurd h.symm (Option.some_ne_none t)

lemma key_of_find {t : Fin n → E} {i : Fin n}
    (h : find (fun e => L.key e = key) t = some i) : L.key (t i) = key := by
  simpa using Table.find_some h

lemma find_key (h : Remembers L s) (hkey : key ≠ L.free) {i : Fin n}
    (hi : L.key (s.table i) = key) :
    find (fun e => L.key e = key) s.table = some i := by
  apply Table.find_eq_some_of_unique (p := fun e => decide (L.key e = key)) (decide_eq_true hi)
  intro j hj
  have hj := of_decide_eq_true hj
  exact h.unique j i (hj ▸ hkey) (hj.trans hi.symm)

/-- **A grant is an interval after the last one** of its key. -/
theorem ask_spaced [hL : L.Lawful] (h : Remembers L s) (hspare : Spare L s (.ask key now first))
    {t : ℕ} (hlast : s.last key = some t) (hgrant : (L.ask s.table key now first).1) :
    t + L.interval ≤ now := by
  by_contra hlt
  obtain ⟨hkey, hclock, -⟩ := hspare
  obtain ⟨-, htc⟩ := h.past key t hlast
  obtain ⟨i, hi, hmarks⟩ := h.entry key t hlast (by omega)
  have hblocks := hL.blocks _ t now hmarks (by omega) (by omega)
  rw [Limiter.ask, find_key h hkey hi] at hgrant
  dsimp only at hgrant
  rw [hblocks, if_pos rfl] at hgrant
  cases hgrant

omit [DecidableEq K] in
/-- Writing slot `i` at time `now` forgets no grant that still blocks: each is the one that is
written, or has its entry elsewhere. -/
lemma Remembers.write (h : Remembers L s) {i : Fin n} {e : E} {last : K → Option ℕ}
    (hclock : s.clock ≤ now) (hvalid : L.key e ≠ L.free → L.Valid e)
    (hother : L.key e ≠ L.free → ∀ j, j ≠ i → L.key (s.table j) ≠ L.key e)
    (hlast : ∀ k t, last k = some t →
      k ≠ L.free ∧ (L.key e = k ∧ t = now ∧ L.Marks e now ∨
        s.last k = some t ∧ (now < t + L.interval → L.key (s.table i) ≠ k))) :
    Remembers L ⟨update s.table i e, last, now⟩ where
  unique := by
    intro a b ha hab
    dsimp only at ha hab
    by_contra hne
    rcases eq_or_ne a i with rfl | hai
    · rw [update_self] at ha hab
      rw [update_of_ne (Ne.symm hne)] at hab
      exact hother ha b (Ne.symm hne) hab.symm
    · rw [update_of_ne hai] at ha hab
      rcases eq_or_ne b i with rfl | hbi
      · rw [update_self] at hab
        exact hother (hab ▸ ha) a hai hab
      · rw [update_of_ne hbi] at hab
        exact hne (h.unique a b ha hab)
  valid := by
    intro a ha
    dsimp only at ha ⊢
    rcases eq_or_ne a i with rfl | hai
    · rw [update_self] at ha ⊢
      exact hvalid ha
    · rw [update_of_ne hai] at ha ⊢
      exact h.valid a ha
  past := by
    intro k t hk
    obtain ⟨hfree, ⟨-, rfl, -⟩ | ⟨hold, -⟩⟩ := hlast k t hk
    · exact ⟨hfree, le_rfl⟩
    · exact ⟨hfree, (h.past k t hold).2.trans hclock⟩
  entry := by
    intro k t hk hlt
    dsimp only at hlt ⊢
    obtain ⟨-, ⟨hke, rfl, hmarks⟩ | ⟨hold, hkept⟩⟩ := hlast k t hk
    · refine ⟨i, ?_⟩
      rw [update_self]
      exact ⟨hke, hmarks⟩
    · obtain ⟨j, hj, hmarks⟩ := h.entry k t hold (by omega)
      have hji : j ≠ i := by
        rintro rfl
        exact hkept hlt hj
      refine ⟨j, ?_⟩
      rw [update_of_ne hji]
      exact ⟨hj, hmarks⟩

omit [DecidableEq K] in
lemma Remembers.wait (h : Remembers L s) (hclock : s.clock ≤ now) :
    Remembers L { s with clock := now } where
  unique := h.unique
  valid := h.valid
  past k t hk := ⟨(h.past k t hk).1, (h.past k t hk).2.trans hclock⟩
  entry k t hk hlt := h.entry k t hk (lt_of_le_of_lt hclock hlt)

lemma granted_cases {k : K} {t : ℕ} (hk : update s.last key (some now) k = some t) :
    k = key ∧ t = now ∨ s.last k = some t := by
  rcases eq_or_ne k key with rfl | hne
  · rw [update_self] at hk
    exact .inl ⟨rfl, (Option.some.inj hk).symm⟩
  · rw [update_of_ne hne] at hk
    exact .inr hk

lemma Remembers.ask [hL : L.Lawful] (h : Remembers L s)
    (hspare : Spare L s (.ask key now first)) : Remembers L (step L s (.ask key now first)) := by
  obtain ⟨hkey, hclock, hold⟩ := hspare
  rcases hfind : find (fun e => decide (L.key e = key)) s.table with _ | i
  · -- no entry, so no grant of the key still blocks
    have hnone : ∀ j, L.key (s.table j) ≠ key := fun j =>
      of_decide_eq_false (Table.find_eq_none.1 hfind j)
    have hslot : ∀ k t, s.last k = some t → now < t + L.interval →
        L.key (s.table ((find (fun e => L.key e = L.free) s.table).getD
          (L.oldest s.table))) ≠ k := by
      intro k t hk hlt hkey'
      obtain ⟨hfree, htc⟩ := h.past k t hk
      rcases hf : find (fun e => decide (L.key e = L.free)) s.table with _ | i
      · -- the oldest is recycled, which blocks if the grant it was written by does
        rw [hf, Option.getD_none] at hkey'
        obtain ⟨j, hj, hmarks⟩ := h.entry k t hk (by omega)
        rw [h.unique j (L.oldest s.table) (hj ▸ hfree) (hj.trans hkey'.symm)] at hmarks
        have hblocks := hL.blocks _ t now hmarks (htc.trans hclock) hlt
        rw [hold hfind hf] at hblocks
        cases hblocks
      · rw [hf, Option.getD_some, key_of_find hf] at hkey'
        exact hfree hkey'.symm
    have hwrite : ∀ last : K → Option ℕ,
        (∀ k t, last k = some t → k = key ∧ t = now ∨ s.last k = some t) →
        Remembers L ⟨update s.table
          ((find (fun e => L.key e = L.free) s.table).getD (L.oldest s.table))
          (L.fresh key now), last, now⟩ := by
      intro last hlast
      apply h.write hclock
      · exact fun _ => hL.valid_fresh key now
      · intro _ j _
        rw [hL.key_fresh]
        exact hnone j
      · intro k t hk
        rcases hlast k t hk with ⟨rfl, rfl⟩ | hk
        · exact ⟨hkey, .inl ⟨hL.key_fresh k t, rfl, hL.marks_fresh k t⟩⟩
        · exact ⟨(h.past k t hk).1, .inr ⟨hk, hslot k t hk⟩⟩
    rw [step, Limiter.ask, hfind]
    cases first with
    | true => exact hwrite _ fun k t hk => granted_cases hk
    | false => exact hwrite _ fun k t hk => .inr hk
  · have hi : L.key (s.table i) = key := key_of_find hfind
    rw [step, Limiter.ask, hfind]
    dsimp only
    by_cases hblocks : L.blocks (s.table i) now
    · rw [if_pos hblocks]
      exact h.wait hclock
    · have hvalid := h.valid i (hi ▸ hkey)
      rw [if_neg hblocks]
      apply h.write hclock
      · exact fun _ => hL.valid_renew _ now hvalid
      · intro _ j hji hj
        rw [hL.key_renew] at hj
        exact hji (h.unique j i (hj ▸ hi ▸ hkey) hj)
      · intro k t hk
        rcases eq_or_ne k key with rfl | hne
        · rw [update_self] at hk
          refine ⟨hkey, .inl ⟨(hL.key_renew _ now).trans hi, (Option.some.inj hk).symm, ?_⟩⟩
          exact hL.marks_renew _ now hvalid
        · rw [update_of_ne hne] at hk
          exact ⟨(h.past k t hk).1, .inr ⟨hk, fun _ heq => hne (heq ▸ hi)⟩⟩

lemma Remembers.clear [hL : L.Lawful] (h : Remembers L s) (key : K) :
    Remembers L (step L s (.clear key)) := by
  have hlast : ∀ {k t}, update s.last key none k = some t →
      k ≠ key ∧ s.last k = some t := by
    intro k t hk
    rcases eq_or_ne k key with rfl | hne
    · rw [update_self] at hk
      cases hk
    · rw [update_of_ne hne] at hk
      exact ⟨hne, hk⟩
  rw [step, Limiter.clear]
  rcases hfind : find (fun e => decide (L.key e = key)) s.table with _ | i
  · exact ⟨h.unique, h.valid, fun k t hk => h.past k t (hlast hk).2,
      fun k t hk => h.entry k t (hlast hk).2⟩
  · have hi : L.key (s.table i) = key := key_of_find hfind
    apply h.write le_rfl
    · exact fun hne => absurd hL.key_empty hne
    · exact fun hne => absurd hL.key_empty hne
    · intro k t hk
      obtain ⟨hne, hk⟩ := hlast hk
      exact ⟨(h.past k t hk).1, .inr ⟨hk, fun _ heq => hne (heq ▸ hi)⟩⟩

end

end BrambleMesh.RateTable
