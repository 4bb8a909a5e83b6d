/-
The crash-safe nonce counter: components/nonce_counter/nonce_counter.c over the NVS adapter of
main/mesh_persist.c, which reports a failed read as "ceiling 0, success".
-/
import BrambleMesh.Lib.Run
import BrambleMesh.Lib.Bytes

open BrambleMesh.Run BrambleMesh.Bytes

namespace BrambleMesh.NonceCounter

/-! ## The source -/

def NONCE_RESERVE : UInt64 := 65536

structure Counter where
  s_src : UInt32
  s_salt : UInt16
  s_counter : UInt64
  s_ceiling_durable : UInt64
  s_ready : Bool
deriving DecidableEq, Repr

def Counter.zero : Counter := ⟨0, 0, 0, 0, false⟩

inductive ReadOutcome
  | ok
  | open_err
  | get_err
deriving DecidableEq, Repr

inductive WriteOutcome
  | ok
  | open_err
  | set_err
  | commit_err
deriving DecidableEq, Repr

def mesh_nonce_read (stored : Option UInt64) : ReadOutcome → UInt64 × Int
  | .ok => (stored.getD 0, 0)
  | .open_err => (0, 0)
  | .get_err => (0, 0)

def mesh_nonce_write (stored : Option UInt64) (ceiling : UInt64) :
    WriteOutcome → Option UInt64 × Int
  | .ok => (some ceiling, 0)
  | .open_err => (stored, -1)
  | .set_err => (stored, -1)
  | .commit_err => (stored, -1)

def nonce_counter_init (st : Counter) (stored : Option UInt64) (src_addr : UInt32)
    (boot_salt : UInt16) (rd : ReadOutcome) (wr : WriteOutcome) :
    Counter × Option UInt64 × Int :=
  let st := { st with s_src := src_addr, s_salt := boot_salt, s_ready := false }
  -- the return code of the read callback is not looked at
  let ceiling := (mesh_nonce_read stored rd).1
  let new_ceiling := ceiling + NONCE_RESERVE
  let w := mesh_nonce_write stored new_ceiling wr
  -- without a durable reservation nothing is issued until a later call succeeds
  if w.2 ≠ 0 then (st, w.1, -1)
  else
    ({ st with s_counter := ceiling, s_ceiling_durable := new_ceiling, s_ready := true },
      w.1, 0)

def nonce_bytes (src : UInt32) (salt : UInt16) (c : UInt64) : List UInt8 :=
  [(src >>> 24).toUInt8, (src >>> 16).toUInt8, (src >>> 8).toUInt8, src.toUInt8,
    (salt >>> 8).toUInt8, salt.toUInt8,
    (c >>> 40).toUInt8, (c >>> 32).toUInt8, (c >>> 24).toUInt8, (c >>> 16).toUInt8,
    (c >>> 8).toUInt8, c.toUInt8]

def nonce_counter_next (st : Counter) (stored : Option UInt64) (wr : WriteOutcome) :
    Counter × Option UInt64 × Option (List UInt8) :=
  if !st.s_ready then (st, stored, none)
  else if st.s_counter ≥ st.s_ceiling_durable then
    -- flush before cross
    let new_ceiling := st.s_ceiling_durable + NONCE_RESERVE
    let w := mesh_nonce_write stored new_ceiling wr
    if w.2 ≠ 0 then (st, w.1, none)
    else
      ({ st with s_ceiling_durable := new_ceiling, s_counter := st.s_counter + 1 },
        w.1, some (nonce_bytes st.s_src st.s_salt st.s_counter))
  else
    ({ st with s_counter := st.s_counter + 1 }, stored,
      some (nonce_bytes st.s_src st.s_salt st.s_counter))

def nonce_counter_extract (nonce : List UInt8) : UInt64 :=
  ((nonce.getD 6 0).toUInt64 <<< 40) ||| ((nonce.getD 7 0).toUInt64 <<< 32) |||
    ((nonce.getD 8 0).toUInt64 <<< 24) ||| ((nonce.getD 9 0).toUInt64 <<< 16) |||
    ((nonce.getD 10 0).toUInt64 <<< 8) ||| (nonce.getD 11 0).toUInt64

/-! ## The device over its whole life -/

structure Device where
  nvs : Option UInt64
  ram : Counter
  issued : List UInt64
deriving DecidableEq, Repr

def Device.blank : Device := ⟨none, .zero, []⟩

inductive PowerEvent
  | boot (src : UInt32) (salt : UInt16) (rd : ReadOutcome) (wr : WriteOutcome)
  | next (wr : WriteOutcome)
  | cut
  | cut_boot (src : UInt32) (salt : UInt16) (rd : ReadOutcome)
  | cut_next
deriving DecidableEq, Repr

def step (d : Device) : PowerEvent → Device
  | .boot src salt rd wr =>
    let r := nonce_counter_init .zero d.nvs src salt rd wr
    { d with ram := r.1, nvs := r.2.1 }
  | .next wr =>
    let r := nonce_counter_next d.ram d.nvs wr
    { ram := r.1, nvs := r.2.1,
      issued := (r.2.2.map nonce_counter_extract).toList ++ d.issued }
  | .cut => { d with ram := .zero }
  -- the write has landed and the call has not returned: flash moves on, RAM is lost
  | .cut_boot src salt rd =>
    { d with ram := .zero, nvs := (nonce_counter_init .zero d.nvs src salt rd .ok).2.1 }
  | .cut_next => { d with ram := .zero, nvs := (nonce_counter_next d.ram d.nvs .ok).2.1 }

def Sound (d : Device) : PowerEvent → Prop
  | .boot _ _ rd wr =>
    wr = .ok → (rd = .ok ∨ d.nvs = none) ∧ (d.nvs.getD 0).toNat + 65536 < 2 ^ 64
  | .next _ => d.ram.s_ready → d.ram.s_counter.toNat < 2 ^ 48
  | .cut => True
  | .cut_boot _ _ rd => (rd = .ok ∨ d.nvs = none) ∧ (d.nvs.getD 0).toNat + 65536 < 2 ^ 64
  | .cut_next => d.ram.s_ready → d.ram.s_counter.toNat < 2 ^ 48

instance (d : Device) (e : PowerEvent) : Decidable (Sound d e) := by
  cases e <;> unfold Sound <;> infer_instance

/-! ## One call at a time -/

lemma nonce_counter_extract_spec (src : UInt32) (salt : UInt16) (c : UInt64) :
    (nonce_counter_extract (nonce_bytes src salt c)).toNat = c.toNat % 2 ^ 48 := by
  -- the six bytes are a big-endian word whose two high bytes are zero
  have hword : nonce_counter_extract (nonce_bytes src salt c) =
      get_be64 ([(0 : UInt8), 0, (c >>> 40).toUInt8, (c >>> 32).toUInt8, (c >>> 24).toUInt8,
        (c >>> 16).toUInt8, (c >>> 8).toUInt8, c.toUInt8] ++ []) := by
    simp [nonce_counter_extract, nonce_bytes, get_be64]
  have hdigits := toNat_be64 c
  rw [hword, toNat_get_be64]
  simp only [be64, List.map_cons, List.map_nil, List.cons.injEq, and_true] at hdigits
  simp only [UInt8.toNat_zero]
  omega

lemma extract_of_lt {src : UInt32} {salt : UInt16} {c : UInt64} (hc : c.toNat < 2 ^ 48) :
    nonce_counter_extract (nonce_bytes src salt c) = c := by
  rw [← UInt64.toNat_inj, nonce_counter_extract_spec, Nat.mod_eq_of_lt hc]

lemma toNat_add_reserve {c : UInt64} (hc : c.toNat + 65536 < 2 ^ 64) :
    (c + NONCE_RESERVE).toNat = c.toNat + 65536 := by
  rw [UInt64.toNat_add, show NONCE_RESERVE.toNat = 65536 from rfl, Nat.mod_eq_of_lt hc]

lemma nonce_counter_init_spec (stored : Option UInt64) (src : UInt32) (salt : UInt16)
    (rd : ReadOutcome) (wr : WriteOutcome) :
    let c := (mesh_nonce_read stored rd).1
    let r := nonce_counter_init .zero stored src salt rd wr
    (wr ≠ .ok ∧ r.1.s_ready = false ∧ r.2.1 = stored) ∨
      (wr = .ok ∧ r.1 = ⟨src, salt, c, c + NONCE_RESERVE, true⟩ ∧
        r.2.1 = some (c + NONCE_RESERVE)) := by
  cases wr <;> simp [nonce_counter_init, mesh_nonce_write]

lemma nonce_counter_next_spec (st : Counter) (stored : Option UInt64) (wr : WriteOutcome) :
    let n := nonce_bytes st.s_src st.s_salt st.s_counter
    nonce_counter_next st stored wr = (st, stored, none) ∨
      (st.s_ready ∧ st.s_counter < st.s_ceiling_durable ∧
        nonce_counter_next st stored wr =
          ({ st with s_counter := st.s_counter + 1 }, stored, some n)) ∨
      (st.s_ready ∧ st.s_ceiling_durable ≤ st.s_counter ∧ wr = .ok ∧
        nonce_counter_next st stored wr =
          ({ st with s_ceiling_durable := st.s_ceiling_durable + NONCE_RESERVE,
                     s_counter := st.s_counter + 1 },
            some (st.s_ceiling_durable + NONCE_RESERVE), some n)) := by
  intro n
  by_cases hready : st.s_ready
  · by_cases hcross : st.s_counter ≥ st.s_ceiling_durable
    · cases wr with
      | ok =>
        right; right
        exact ⟨hready, hcross, rfl,
          by simp [nonce_counter_next, hready, hcross, mesh_nonce_write, n]⟩
      | _ =>
        left
        simp [nonce_counter_next, hready, hcross, mesh_nonce_write]
    · right; left
      exact ⟨hready, UInt64.not_le.1 hcross,
        by simp [nonce_counter_next, hready, hcross, n]⟩
  · left
    simp [nonce_counter_next, hready]

/-! ## The crash-recovery invariant -/

structure Inv (d : Device) : Prop where
  nodup : d.issued.Nodup
  below : ∀ v ∈ d.issued, v.toNat < (d.nvs.getD 0).toNat
  ready : d.ram.s_ready →
    d.nvs = some d.ram.s_ceiling_durable ∧ d.ram.s_counter ≤ d.ram.s_ceiling_durable ∧
      ∀ v ∈ d.issued, v.toNat < d.ram.s_counter.toNat

lemma inv_blank : Inv .blank :=
  ⟨List.nodup_nil, by simp [Device.blank], by simp [Device.blank, Counter.zero]⟩

variable {d : Device}

lemma Inv.cut (h : Inv d) {c : Option UInt64} (hc : (d.nvs.getD 0).toNat ≤ (c.getD 0).toNat) :
    Inv { d with ram := .zero, nvs := c } :=
  ⟨h.nodup, fun v hv => lt_of_lt_of_le (h.below v hv) hc, by simp [Counter.zero]⟩

lemma read_of_answered {nvs : Option UInt64} {rd : ReadOutcome}
    (h : rd = .ok ∨ nvs = none) :
    (mesh_nonce_read nvs rd).1 = nvs.getD 0 := by
  rcases h with rfl | rfl
  · rfl
  · cases rd <;> rfl

lemma Inv.boot (h : Inv d) {src : UInt32} {salt : UInt16} {rd : ReadOutcome} {wr : WriteOutcome}
    (hs : Sound d (.boot src salt rd wr)) :
    Inv (step d (.boot src salt rd wr)) := by
  rcases nonce_counter_init_spec d.nvs src salt rd wr with ⟨-, hready, hnvs⟩ | ⟨hwr, hram, hnvs⟩
  · -- the reservation did not land: nothing is issued until a later boot
    refine ⟨h.nodup, fun v hv => ?_, fun hr => ?_⟩
    · simpa only [step, hnvs] using h.below v hv
    · simp only [step] at hr
      rw [hready] at hr
      cases hr
  · obtain ⟨hrd, hwrap⟩ := hs hwr
    rw [read_of_answered hrd] at hram hnvs
    have hadd := toNat_add_reserve hwrap
    refine ⟨h.nodup, fun v hv => ?_, fun _ => ?_⟩
    · have hv' := h.below v hv
      simp only [step, hnvs, Option.getD_some]
      omega
    · simp only [step, hnvs, hram, true_and]
      exact ⟨UInt64.le_iff_toNat_le.2 (by omega), h.below⟩

lemma Inv.issue (h : Inv d) (hready : d.ram.s_ready)
    (h48 : d.ram.s_counter.toNat < 2 ^ 48) {ceil : UInt64} (hlt : d.ram.s_counter < ceil) :
    Inv { nvs := some ceil,
          ram := { d.ram with s_ceiling_durable := ceil, s_counter := d.ram.s_counter + 1 },
          issued := d.ram.s_counter :: d.issued } := by
  obtain ⟨hnvs, -, hfresh⟩ := h.ready hready
  have hlt' : d.ram.s_counter.toNat < ceil.toNat := hlt
  have hsucc : (d.ram.s_counter + 1).toNat = d.ram.s_counter.toNat + 1 := by
    rw [UInt64.toNat_add, UInt64.toNat_one, Nat.mod_eq_of_lt (by omega)]
  refine ⟨List.nodup_cons.2 ⟨fun hmem => ?_, h.nodup⟩, ?_, fun _ => ⟨rfl, ?_, ?_⟩⟩
  · exact absurd (hfresh _ hmem) (lt_irrefl _)
  · intro v hv
    rcases List.mem_cons.1 hv with rfl | hv
    · exact hlt'
    · exact lt_trans (hfresh v hv) hlt'
  · exact UInt64.le_iff_toNat_le.2 (by rw [hsucc]; exact hlt')
  · intro v hv
    rw [hsucc]
    rcases List.mem_cons.1 hv with rfl | hv
    · omega
    · have := hfresh v hv
      omega

lemma Inv.flush (h : Inv d) (hready : d.ram.s_ready)
    (h48 : d.ram.s_counter.toNat < 2 ^ 48) (hcross : d.ram.s_ceiling_durable ≤ d.ram.s_counter) :
    (d.ram.s_ceiling_durable + NONCE_RESERVE).toNat = d.ram.s_counter.toNat + 65536 := by
  obtain ⟨-, hle, -⟩ := h.ready hready
  have heq : d.ram.s_ceiling_durable = d.ram.s_counter := UInt64.le_antisymm hcross hle
  rw [heq]
  exact toNat_add_reserve (by omega)

lemma Inv.next (h : Inv d) {wr : WriteOutcome} (hs : Sound d (.next wr)) :
    Inv (step d (.next wr)) := by
  rcases nonce_counter_next_spec d.ram d.nvs wr with hn | ⟨hready, hlt, hn⟩ |
    ⟨hready, hcross, -, hn⟩
  · simp only [step, hn]
    exact h
  · simp only [step, hn, Option.map_some, Option.toList_some, extract_of_lt (hs hready)]
    rw [(h.ready hready).1]
    exact h.issue hready (hs hready) hlt
  · simp only [step, hn, Option.map_some, Option.toList_some, extract_of_lt (hs hready)]
    have hflush := h.flush hready (hs hready) hcross
    exact h.issue hready (hs hready) (UInt64.lt_iff_toNat_lt.2 (by omega))

lemma inv_step (d : Device) (e : PowerEvent) (h : Inv d) (hs : Sound d e) :
    Inv (step d e) := by
  cases e with
  | boot src salt rd wr => exact h.boot hs
  | next wr => exact h.next hs
  | cut => exact h.cut (le_refl _)
  | cut_boot src salt rd =>
    refine h.cut ?_
    rcases nonce_counter_init_spec d.nvs src salt rd .ok with ⟨hwr, -, -⟩ | ⟨-, -, hnvs⟩
    · exact absurd rfl hwr
    · rw [hnvs, read_of_answered hs.1, Option.getD_some, toNat_add_reserve hs.2]
      omega
  | cut_next =>
    refine h.cut ?_
    rcases nonce_counter_next_spec d.ram d.nvs .ok with hn | ⟨-, -, hn⟩ | ⟨hready, hcross, -, hn⟩
    · rw [hn]
    · rw [hn]
    · obtain ⟨hnvs, hle, -⟩ := h.ready hready
      have hle' : d.ram.s_ceiling_durable.toNat ≤ d.ram.s_counter.toNat := hcross
      rw [hn, hnvs]
      simp only [Option.getD_some, h.flush hready (hs hready) hcross]
      omega

/-! ## The result -/

/-- **No counter value is issued twice** over the whole life of a device, as long as no boot
mistakes a failed read for an empty store and the counter stays within its 48 bits. -/
theorem issued_nodup (es : List PowerEvent) (h : Meets step Sound .blank es) :
    (es.foldl step .blank).issued.Nodup :=
  (foldl_invariant inv_step h inv_blank).nodup

theorem issued_nodup_faulty_boots :
    let es : List PowerEvent := [.boot 7 1 .ok .ok, .next .ok, .next .set_err, .cut,
      .boot 7 2 .get_err .commit_err, .next .ok, .cut_boot 7 3 .ok, .boot 7 4 .ok .ok, .next .ok]
    (es.foldl step .blank).issued = [131072, 1, 0] ∧ (es.foldl step .blank).issued.Nodup :=
  ⟨by decide, issued_nodup _ (by decide)⟩

/-- One boot whose read fails hands out a value that an earlier boot has issued. -/
theorem read_failure_reissues :
    ¬ ∀ es : List PowerEvent, (es.foldl step .blank).issued.length < 2 ^ 48 →
      (es.foldl step .blank).issued.Nodup := by
  intro h
  have := h [.boot 7 1 .ok .ok, .next .ok, .cut, .boot 7 2 .get_err .ok, .next .ok] (by decide)
  exact absurd this (by decide)

end BrambleMesh.NonceCounter
