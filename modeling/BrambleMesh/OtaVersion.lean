/-
Versions of firmware images: components/ota/ota_version.c. The chain of decisions is one linear
order: every version has a rank (`ota_version_cmp_compares`).
-/
import BrambleMesh.Lib.Comparison

namespace BrambleMesh.OtaVersion

open Comparison

/-! ## Parsing

A C string is the list of its bytes without the terminator. -/

def OTA_VERSION_PRERELEASE_MAX : ℕ := 48

structure OtaSemver where
  major : ℕ
  minor : ℕ
  patch : ℕ
  prerelease : List UInt8
deriving DecidableEq, Repr

def isdigit (c : UInt8) : Bool := '0'.toUInt8 ≤ c && c ≤ '9'.toUInt8

def isalnum (c : UInt8) : Bool :=
  isdigit c || ('A'.toUInt8 ≤ c && c ≤ 'Z'.toUInt8) || ('a'.toUInt8 ≤ c && c ≤ 'z'.toUInt8)

def parse_digits : ℕ → List UInt8 → Option (ℕ × List UInt8)
  | v, [] => some (v, [])
  | v, c :: s =>
    if isdigit c then
      let v := v * 10 + (c - '0'.toUInt8).toNat
      if v > 1000000 then none else parse_digits v s
    else some (v, c :: s)

def parse_uint (s : List UInt8) : Option (ℕ × List UInt8) :=
  if (s.head?.map isdigit).getD false then parse_digits 0 s else none

def prerelease_char_ok (c : UInt8) : Bool :=
  isalnum c || c == '.'.toUInt8 || c == '-'.toUInt8

def after_dot : List UInt8 → Option (List UInt8)
  | [] => none
  | c :: s => if c == '.'.toUInt8 then some s else none

def double_dot : List UInt8 → Bool
  | [] => false
  | c :: s => (c == '.'.toUInt8 && s.head? == some '.'.toUInt8) || double_dot s

def parse_prerelease (start : List UInt8) : Option (List UInt8 × List UInt8) :=
  let text := start.takeWhile fun c => c != '+'.toUInt8
  if !text.all prerelease_char_ok then none
  else if text.length = 0 ∨ text.length ≥ OTA_VERSION_PRERELEASE_MAX then none
  else if text.head? = some '.'.toUInt8 ∨ text.getLast? = some '.'.toUInt8 ∨ double_dot start then
    none
  else some (text, start.drop text.length)

def ota_version_parse (s : List UInt8) : Option OtaSemver := do
  let s := if s.head? = some 'v'.toUInt8 ∨ s.head? = some 'V'.toUInt8 then s.drop 1 else s
  let (major, s) ← parse_uint s
  let s ← after_dot s
  let (minor, s) ← parse_uint s
  let s ← after_dot s
  let (patch, s) ← parse_uint s
  let (prerelease, s) ←
    if s.head? = some '-'.toUInt8 then parse_prerelease (s.drop 1) else some ([], s)
  -- build metadata is ignored
  if s.head? = some '+'.toUInt8 ∨ s = [] then some ⟨major, minor, patch, prerelease⟩ else none

/-! ## Comparing -/

def memcmp : ℕ → List UInt8 → List UInt8 → Ordering
  | n + 1, a :: s, b :: t => (compare a.toNat b.toNat).then (memcmp n s t)
  | _, _, _ => .eq

def cmp_identifier (a b : List UInt8) : Ordering :=
  let a_num := a.all isdigit
  let b_num := b.all isdigit
  if a_num && b_num then (compare a.length b.length).then (memcmp a.length a b)
  else if a_num != b_num then (if a_num then .lt else .gt)
  else (memcmp (min a.length b.length) a b).then (compare a.length b.length)

def field (s : List UInt8) : List UInt8 := s.takeWhile fun c => c != '.'.toUInt8

def next (s : List UInt8) : List UInt8 := (s.dropWhile fun c => c != '.'.toUInt8).drop 1

def cmp_fields : ℕ → List UInt8 → List UInt8 → Ordering
  | 0, _, _ => .eq
  | fuel + 1, a, b =>
    if a = [] ∧ b = [] then .eq
    else if a = [] then .lt
    else if b = [] then .gt
    else (cmp_identifier (field a) (field b)).then (cmp_fields fuel (next a) (next b))

def cmp_prerelease (a b : List UInt8) : Ordering := cmp_fields (a.length + 1) a b

def ota_version_cmp (a b : OtaSemver) : Ordering :=
  (compare a.major b.major).then <|
  (compare a.minor b.minor).then <|
  (compare a.patch b.patch).then <|
    let a_pre := a.prerelease != []
    let b_pre := b.prerelease != []
    -- a release outranks its prereleases
    if a_pre != b_pre then (if a_pre then .lt else .gt)
    else if !a_pre then .eq
    else cmp_prerelease a.prerelease b.prerelease

def ota_version_cmp_str (a b : List UInt8) : Option Ordering := do
  let va ← ota_version_parse a
  let vb ← ota_version_parse b
  some (ota_version_cmp va vb)

/-! ## The order -/

lemma compare_compares {α : Type*} [LinearOrder α] (a b : α) : (compare a b).Compares a b :=
  (compare_iff a b).1 rfl

def bytes_rank (s : List UInt8) : List ℕ := s.map UInt8.toNat

lemma memcmp_compares {a b : List UInt8} (h : a.length = b.length) :
    (memcmp a.length a b).Compares (bytes_rank a) (bytes_rank b) := by
  induction a generalizing b with
  | nil =>
    obtain rfl := List.length_eq_zero_iff.1 h.symm
    exact rfl
  | cons c a ih =>
    cases b with
    | nil => cases h
    | cons d b =>
      refine compares_cons (compare_compares c.toNat d.toNat) fun _ => ?_
      exact ih (Nat.succ.inj h)

lemma memcmp_then_compares (a b : List UInt8) :
    ((memcmp (min a.length b.length) a b).then (compare a.length b.length)).Compares
      (bytes_rank a) (bytes_rank b) := by
  induction a generalizing b with
  | nil =>
    cases b with
    | nil => exact rfl
    | cons d b =>
      exact List.nil_lt_cons _ _
  | cons c a ih =>
    cases b with
    | nil =>
      exact List.nil_lt_cons _ _
    | cons d b =>
      have hassoc : ∀ x y z : Ordering, (x.then y).then z = x.then (y.then z) := by decide
      have hlen : compare (a.length + 1) (b.length + 1) = compare a.length b.length := by
        simp only [Nat.compare_eq_ite_lt, Nat.add_lt_add_iff_right]
      rw [List.length_cons, List.length_cons, hlen, Nat.succ_min_succ, memcmp, hassoc]
      exact compares_cons (compare_compares c.toNat d.toNat) fun _ => ih b

def field_rank (s : List UInt8) : Bool ×ₗ ℕ ×ₗ List ℕ :=
  if s.all isdigit then toLex (false, toLex (s.length, bytes_rank s))
  else toLex (true, toLex (0, bytes_rank s))

lemma cmp_identifier_compares (a b : List UInt8) :
    (cmp_identifier a b).Compares (field_rank a) (field_rank b) := by
  have hmixed : ∀ x y : ℕ ×ₗ List ℕ, toLex (false, x) < toLex (true, y) := fun x y =>
    Prod.Lex.toLex_lt_toLex.2 (Or.inl Bool.false_lt_true)
  unfold cmp_identifier field_rank
  rcases ha : a.all isdigit with _ | _ <;> rcases hb : b.all isdigit with _ | _
  · exact compares_pair (o := .eq) rfl fun _ =>
      compares_pair (o := .eq) rfl fun _ => memcmp_then_compares a b
  · exact hmixed _ _
  · exact hmixed _ _
  · exact compares_pair (o := .eq) rfl fun _ =>
      compares_pair (compare_compares a.length b.length) memcmp_compares

lemma length_next_lt {s : List UInt8} (h : s ≠ []) : (next s).length < s.length := by
  have hpos := List.length_pos_iff.2 h
  have hle := (List.dropWhile_sublist (fun c => c != '.'.toUInt8) (l := s)).length_le
  rw [next, List.length_drop]
  omega

def fields_rank (s : List UInt8) : List (Bool ×ₗ ℕ ×ₗ List ℕ) :=
  if s = [] then [] else field_rank (field s) :: fields_rank (next s)
termination_by s.length
decreasing_by exact length_next_lt (by assumption)

lemma fields_rank_nil : fields_rank [] = [] := by
  rw [fields_rank, if_pos rfl]

lemma fields_rank_cons {s : List UInt8} (h : s ≠ []) :
    fields_rank s = field_rank (field s) :: fields_rank (next s) := by
  rw [fields_rank, if_neg h]

lemma cmp_fields_compares (fuel : ℕ) :
    ∀ a b : List UInt8, a.length < fuel →
      (cmp_fields fuel a b).Compares (fields_rank a) (fields_rank b) := by
  induction fuel with
  | zero => exact fun a _ h => absurd h (Nat.not_lt_zero a.length)
  | succ fuel ih =>
    intro a b hfuel
    rw [cmp_fields]
    split_ifs with hboth ha hb
    · rw [hboth.1, hboth.2]
      exact rfl
    · have hb : b ≠ [] := fun hb => hboth ⟨ha, hb⟩
      rw [ha, fields_rank_nil, fields_rank_cons hb]
      exact List.nil_lt_cons _ _
    · rw [hb, fields_rank_nil, fields_rank_cons ha]
      exact List.nil_lt_cons _ _
    · rw [fields_rank_cons ha, fields_rank_cons hb]
      have hshort := length_next_lt ha
      exact compares_cons (cmp_identifier_compares (field a) (field b)) fun _ =>
        ih (next a) (next b) (by omega)

def version_rank (v : OtaSemver) :
    ℕ ×ₗ ℕ ×ₗ ℕ ×ₗ Bool ×ₗ List (Bool ×ₗ ℕ ×ₗ List ℕ) :=
  toLex (v.major, toLex (v.minor, toLex (v.patch,
    toLex (v.prerelease == [], fields_rank v.prerelease))))

/-- **Versions are compared by rank.** -/
theorem ota_version_cmp_compares (a b : OtaSemver) :
    (ota_version_cmp a b).Compares (version_rank a) (version_rank b) := by
  refine compares_pair (compare_compares a.major b.major) fun _ =>
    compares_pair (compare_compares a.minor b.minor) fun _ =>
      compares_pair (compare_compares a.patch b.patch) fun _ => ?_
  have hmixed : ∀ x y : List (Bool ×ₗ ℕ ×ₗ List ℕ), toLex (false, x) < toLex (true, y) := fun x y =>
    Prod.Lex.toLex_lt_toLex.2 (Or.inl Bool.false_lt_true)
  by_cases ha : a.prerelease = [] <;> by_cases hb : b.prerelease = []
  · rw [ha, hb]
    exact rfl
  · have hb' : (b.prerelease == []) = false := beq_eq_false_iff_ne.2 hb
    simp only [bne, ha, hb', beq_self_eq_true]
    exact hmixed _ _
  · have ha' : (a.prerelease == []) = false := beq_eq_false_iff_ne.2 ha
    simp only [bne, hb, ha', beq_self_eq_true]
    exact hmixed _ _
  · have ha' : (a.prerelease == []) = false := beq_eq_false_iff_ne.2 ha
    have hb' : (b.prerelease == []) = false := beq_eq_false_iff_ne.2 hb
    simp only [bne, ha', hb']
    exact compares_pair (o := .eq) rfl fun _ =>
      cmp_fields_compares _ a.prerelease b.prerelease (Nat.lt_succ_self _)

/-- **Versions are in a total preorder**, in which equal versions compare alike. -/
theorem ota_version_cmp_preorder (a b c : OtaSemver) :
    ota_version_cmp b a = (ota_version_cmp a b).swap ∧
      (ota_version_cmp a b ≠ .gt → ota_version_cmp b c ≠ .gt → ota_version_cmp a c ≠ .gt) ∧
      (ota_version_cmp a b = .eq → ota_version_cmp a c = ota_version_cmp b c) := by
  have h := ota_version_cmp_compares
  refine ⟨(h b a).inj (Ordering.compares_swap.2 (h a b)), fun hab hbc => ?_, fun hab => ?_⟩
  · exact (h a c).ne_gt.2 (((h a b).ne_gt.1 hab).trans ((h b c).ne_gt.1 hbc))
  · refine (h a c).inj ?_
    rw [(h a b).eq_eq.1 hab]
    exact h b c

end BrambleMesh.OtaVersion
