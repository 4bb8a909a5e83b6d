/-
The anti-rollback floor of firmware updates: components/ota/ota_rollback.c and
ota_rollback_policy.c.
-/
import BrambleMesh.Lib.Run
import BrambleMesh.OtaVersion

namespace BrambleMesh.OtaRollback

open OtaVersion Run Option

/-! ## The policy -/

inductive OtaRollbackDecision
  | ACCEPT
  | ACCEPT_UNPARSEABLE
  | ACCEPT_LOWER_FLOOR
  | REJECT_UNPARSEABLE
  | REJECT_BELOW_FLOOR
deriving DecidableEq, Repr

def ota_rollback_decide (new_version floor_version : Option (List UInt8)) (allow_downgrade : Bool) :
    OtaRollbackDecision :=
  match new_version.bind ota_version_parse with
  | none => if allow_downgrade then .ACCEPT_UNPARSEABLE else .REJECT_UNPARSEABLE
  | some candidate =>
    match floor_version.bind ota_version_parse with
    | none => .ACCEPT
    | some floor =>
      if ota_version_cmp candidate floor ≠ .lt then .ACCEPT
      else if allow_downgrade then .ACCEPT_LOWER_FLOOR
      else .REJECT_BELOW_FLOOR

def ota_rollback_secure_floor_blocks (secure_enforced candidate_clears_secure_floor : Bool) :
    Bool :=
  secure_enforced && !candidate_clears_secure_floor

def ota_rollback_should_raise_floor (running_version floor_version : Option (List UInt8)) : Bool :=
  match running_version.bind ota_version_parse with
  | none => false
  | some running =>
    match floor_version.bind ota_version_parse with
    | none => true
    | some floor => ota_version_cmp running floor == .gt

/-! ## The floor in storage -/

def OTA_FLOOR_MAX : ℕ := 48

structure Storage where
  read_ok : Bool
  write_ok : Bool
deriving DecidableEq, Repr

def works : Storage := ⟨true, true⟩

def read_floor (nvs : Option (List UInt8)) (st : Storage) : Option (List UInt8) :=
  match nvs with
  | none => none
  | some s =>
    if !st.read_ok || decide (s.length + 1 > OTA_FLOOR_MAX) || s == [] then none else some s

def write_floor (nvs : Option (List UInt8)) (version : List UInt8) (st : Storage) :
    Option (List UInt8) :=
  if st.write_ok then some version else nvs

structure AppDesc where
  version : List UInt8
  fits : version.length < 32
deriving DecidableEq, Repr

def ota_rollback_note_boot (nvs : Option (List UInt8)) (desc : AppDesc) (st : Storage) :
    Option (List UInt8) :=
  match ota_version_parse desc.version with
  | none => nvs
  | some _ =>
    if ota_rollback_should_raise_floor (some desc.version) (read_floor nvs st) then
      write_floor nvs desc.version st
    else nvs

def ota_rollback_gate (secure_enforced : Bool) (nvs : Option (List UInt8)) (new : AppDesc)
    (clears_secure_floor allow_downgrade : Bool) (st : Storage) : Option (List UInt8) × Bool :=
  if ota_rollback_secure_floor_blocks secure_enforced clears_secure_floor then (nvs, false)
  else
    match ota_rollback_decide (some new.version) (read_floor nvs st) allow_downgrade with
    | .ACCEPT => (nvs, true)
    | .ACCEPT_UNPARSEABLE => (nvs, true)
    | .REJECT_UNPARSEABLE => (nvs, false)
    | .REJECT_BELOW_FLOOR => (nvs, false)
    | .ACCEPT_LOWER_FLOOR => (write_floor nvs new.version st, true)

/-! ## A device over its life -/

structure Device where
  nvs : Option (List UInt8)
  installed : AppDesc
  booted : List AppDesc

inductive Event
  | install (new : AppDesc) (clears_secure_floor allow_downgrade completes : Bool) (st : Storage)
  | reboot (st : Storage)

def step (secure_enforced : Bool) (d : Device) : Event → Device
  | .install new clears_secure_floor allow_downgrade completes st =>
    let r := ota_rollback_gate secure_enforced d.nvs new clears_secure_floor allow_downgrade st
    { d with nvs := r.1, installed := if r.2 && completes then new else d.installed }
  | .reboot st =>
    { d with
      nvs := ota_rollback_note_boot d.nvs d.installed st
      booted := d.installed :: d.booted }

def factory (secure_enforced : Bool) (first : AppDesc) : Device :=
  step secure_enforced ⟨none, first, []⟩ (.reboot works)

def Ordinary : Event → Prop
  | .install _ _ allow_downgrade _ st => allow_downgrade = false ∧ st = works
  | .reboot st => st = works

instance (ev : Event) : Decidable (Ordinary ev) := by
  cases ev <;> unfold Ordinary <;> infer_instance

def AtLeast (a b : AppDesc) : Prop :=
  ∃ o, ota_version_cmp_str a.version b.version = some o ∧ o ≠ .lt
deriving Decidable

/-! ## The floor is the highest version booted -/

section

variable {secure_enforced : Bool} {d : Device} {a b : AppDesc} {va vb : OtaSemver}

lemma atLeast_iff (ha : ota_version_parse a.version = some va)
    (hb : ota_version_parse b.version = some vb) :
    AtLeast a b ↔ version_rank vb ≤ version_rank va := by
  have hcmp : ota_version_cmp_str a.version b.version = some (ota_version_cmp va vb) := by
    simp only [ota_version_cmp_str, ha, hb, bind_eq_bind, bind_some]
  rw [← (ota_version_cmp_compares va vb).ne_lt]
  constructor
  · rintro ⟨o, ho, hne⟩
    rw [hcmp] at ho
    rwa [some.inj ho]
  · exact fun hne => ⟨_, hcmp, hne⟩

structure Inv (d : Device) (floor : AppDesc) (vf vi : OtaSemver) : Prop where
  nvs : d.nvs = some floor.version
  parsed : ota_version_parse floor.version = some vf
  installed : ota_version_parse d.installed.version = some vi
  ahead : version_rank vf ≤ version_rank vi
  reached : floor ∈ d.booted
  highest : ∀ b ∈ d.booted, ∃ vb, ota_version_parse b.version = some vb ∧
    version_rank vb ≤ version_rank vf
  rising : d.booted.Pairwise AtLeast

lemma read_floor_works {floor : AppDesc} (h : ota_version_parse floor.version = some vb) :
    read_floor (some floor.version) works = some floor.version := by
  have hfits := floor.fits
  have hne : floor.version ≠ [] := by
    intro hnil
    rw [hnil] at h
    cases h
  have hlong : ¬ floor.version.length + 1 > OTA_FLOOR_MAX := by
    show ¬ floor.version.length + 1 > 48
    omega
  simp [read_floor, works, hlong, hne]

lemma gate_spec (secure_enforced : Bool) {floor : AppDesc}
    (hfloor : ota_version_parse floor.version = some vb)
    (new : AppDesc) (clears : Bool) :
    (ota_rollback_gate secure_enforced (some floor.version) new clears false works).1 =
        some floor.version ∧
      ((ota_rollback_gate secure_enforced (some floor.version) new clears false works).2 = true ↔
        ota_rollback_secure_floor_blocks secure_enforced clears = false ∧
          ∃ vn, ota_version_parse new.version = some vn ∧ version_rank vb ≤ version_rank vn) := by
  unfold ota_rollback_gate
  rcases hblocks : ota_rollback_secure_floor_blocks secure_enforced clears with _ | _
  · rw [if_neg Bool.false_ne_true, read_floor_works hfloor]
    unfold ota_rollback_decide
    rw [bind_some, bind_some, hfloor]
    rcases hnew : ota_version_parse new.version with _ | vn
    · simp
    · have hcmp := (ota_version_cmp_compares vn vb).ne_lt
      by_cases hlt : ota_version_cmp vn vb = .lt
      · have hbelow : ¬ version_rank vb ≤ version_rank vn := fun hle => hcmp.2 hle hlt
        simp [hlt, hbelow]
      · have habove : version_rank vb ≤ version_rank vn := hcmp.1 hlt
        simp [hlt, habove]
  · simp

lemma note_boot_spec {floor : AppDesc} {vf vi : OtaSemver} (h : Inv d floor vf vi) :
    ∃ floor' vf', ota_rollback_note_boot d.nvs d.installed works = some floor'.version ∧
      ota_version_parse floor'.version = some vf' ∧ version_rank vf' = version_rank vi ∧
      floor' ∈ d.installed :: d.booted := by
  unfold ota_rollback_note_boot ota_rollback_should_raise_floor
  rw [h.installed, h.nvs, read_floor_works h.parsed, bind_some, bind_some,
    h.installed, h.parsed]
  have hcmp := (ota_version_cmp_compares vi vf).eq_gt
  by_cases hgt : ota_version_cmp vi vf = .gt
  · rw [if_pos (beq_iff_eq.2 hgt)]
    exact ⟨d.installed, vi, rfl, h.installed, rfl, List.mem_cons_self ..⟩
  · rw [if_neg (fun hbeq => hgt (beq_iff_eq.1 hbeq))]
    refine ⟨floor, vf, rfl, h.parsed, ?_, List.mem_cons_of_mem _ h.reached⟩
    exact le_antisymm h.ahead (not_lt.1 fun hlt => hgt (hcmp.2 hlt))

/-- **One step keeps the invariant.** -/
theorem inv_step (d : Device) (ev : Event) (h : ∃ floor vf vi, Inv d floor vf vi)
    (hev : Ordinary ev) : ∃ floor vf vi, Inv (step secure_enforced d ev) floor vf vi := by
  obtain ⟨floor, vf, vi, h⟩ := h
  cases ev with
  | install new clears allow_downgrade completes st =>
    obtain ⟨rfl, rfl⟩ := hev
    obtain ⟨hnvs, haccept⟩ := gate_spec secure_enforced h.parsed new clears
    dsimp only [step]
    rw [h.nvs, hnvs]
    rcases hpass : (ota_rollback_gate secure_enforced (some floor.version) new clears false works).2
        && completes with _ | _
    · exact ⟨floor, vf, vi, rfl, h.parsed, h.installed, h.ahead, h.reached, h.highest, h.rising⟩
    · rw [Bool.and_eq_true] at hpass
      obtain ⟨-, vn, hparsed, hahead⟩ := haccept.1 hpass.1
      exact ⟨floor, vf, vn, rfl, h.parsed, hparsed, hahead, h.reached, h.highest, h.rising⟩
  | reboot st =>
    obtain rfl : st = works := hev
    obtain ⟨floor', vf', hnvs, hparsed, hrank, hmem⟩ := note_boot_spec h
    refine ⟨floor', vf', vi, hnvs, hparsed, h.installed, hrank.le, hmem, ?_, ?_⟩
    · intro b hb
      rcases List.mem_cons.1 hb with rfl | hb
      · exact ⟨vi, h.installed, hrank.ge⟩
      · obtain ⟨vb, hvb, hle⟩ := h.highest b hb
        exact ⟨vb, hvb, hrank ▸ hle.trans h.ahead⟩
    · refine List.pairwise_cons.2 ⟨fun b hb => ?_, h.rising⟩
      obtain ⟨vb, hvb, hle⟩ := h.highest b hb
      exact (atLeast_iff h.installed hvb).2 (hle.trans h.ahead)

lemma inv_factory {first : AppDesc} {v : OtaSemver}
    (hfirst : ota_version_parse first.version = some v) :
    Inv (factory secure_enforced first) first v v where
  nvs := by
    show ota_rollback_note_boot none first works = some first.version
    simp only [ota_rollback_note_boot, ota_rollback_should_raise_floor, hfirst, read_floor,
      bind_some, bind_none, if_true, write_floor, works]
  parsed := hfirst
  installed := hfirst
  ahead := le_refl _
  reached := List.mem_singleton.2 rfl
  highest := fun b hb => by
    obtain rfl := List.mem_singleton.1 hb
    exact ⟨v, hfirst, le_refl _⟩
  rising := List.pairwise_singleton ..

/-- **Boots never go back.** Without a request to go back and with a storage that works, no booted
version is lower than one booted before it, and an image at least as high as everything booted is
let through by the gate, unless an enforced eFuse floor blocks it. -/
theorem boots_never_go_back (secure_enforced : Bool) (first : AppDesc)
    (hfirst : (ota_version_parse first.version).isSome = true) (es : List Event)
    (hes : ∀ ev ∈ es, Ordinary ev) :
    let d := es.foldl (step secure_enforced) (factory secure_enforced first)
    d.booted.Pairwise AtLeast ∧
      ∀ (new : AppDesc) (clears_secure_floor : Bool), (∀ b ∈ d.booted, AtLeast new b) →
        (ota_rollback_gate secure_enforced d.nvs new clears_secure_floor false works).2 =
          !ota_rollback_secure_floor_blocks secure_enforced clears_secure_floor := by
  intro d
  obtain ⟨v, hv⟩ := isSome_iff_exists.1 hfirst
  obtain ⟨floor, vf, vi, h⟩ : ∃ floor vf vi, Inv d floor vf vi :=
    foldl_invariant (C := fun _ ev => Ordinary ev) inv_step
      (meets_of_forall (fun _ ev hev => hes ev hev) _) ⟨first, v, v, inv_factory hv⟩
  refine ⟨h.rising, fun new clears hhigh => ?_⟩
  obtain ⟨o, hcmp, hne⟩ := hhigh floor h.reached
  obtain ⟨vn, hvn, -⟩ := bind_eq_some_iff.1 hcmp
  have hahead := (atLeast_iff hvn h.parsed).1 ⟨o, hcmp, hne⟩
  have hgate := (gate_spec secure_enforced h.parsed new clears).2
  rw [h.nvs, Bool.eq_iff_iff, hgate, Bool.not_eq_true']
  exact and_iff_left ⟨vn, hvn, hahead⟩

end

def image_old : AppDesc := ⟨[49, 46, 52, 46, 48], by decide⟩

def image_rc2 : AppDesc := ⟨[118, 49, 46, 52, 46, 49, 45, 114, 99, 46, 50], by decide⟩

def image_rc10 : AppDesc := ⟨[118, 49, 46, 52, 46, 49, 45, 114, 99, 46, 49, 48], by decide⟩

def image_new : AppDesc := ⟨[49, 46, 52, 46, 49], by decide⟩

def updates : List Event :=
  [.install image_rc10 true false false works, .reboot works,
    .install image_rc10 true false true works, .reboot works,
    .install image_rc2 true false true works, .reboot works,
    .install image_new true false true works, .reboot works]

theorem boots_never_go_back_prerelease :
    let d := updates.foldl (step false) (factory false image_old)
    ((ota_version_parse image_old.version).isSome = true ∧ (∀ ev ∈ updates, Ordinary ev) ∧
        d.booted = [image_new, image_rc10, image_rc10, image_old, image_old]) ∧
      d.booted.Pairwise AtLeast :=
  ⟨by decide +kernel,
    (boots_never_go_back false image_old (by decide +kernel) updates (by decide +kernel)).1⟩

end BrambleMesh.OtaRollback
