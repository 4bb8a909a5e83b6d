/-
Byte strings: big-endian words and fixed-length arrays, written and read back. Shifted bytes do
not overlap, so each or is an addition (`or_shiftLeft_byte`).
-/
import Mathlib

namespace BrambleMesh.Bytes

def be32 (v : UInt32) : List UInt8 :=
  [(v >>> 24).toUInt8, (v >>> 16).toUInt8, (v >>> 8).toUInt8, v.toUInt8]

def be64 (v : UInt64) : List UInt8 :=
  [(v >>> 56).toUInt8, (v >>> 48).toUInt8, (v >>> 40).toUInt8, (v >>> 32).toUInt8,
    (v >>> 24).toUInt8, (v >>> 16).toUInt8, (v >>> 8).toUInt8, v.toUInt8]

lemma or_shiftLeft_byte (x k : ℕ) (b : UInt8) :
    x <<< (k + 8) ||| b.toNat <<< k = (x * 256 + b.toNat) <<< k := by
  rw [Nat.add_comm k 8, Nat.shiftLeft_add, ← Nat.shiftLeft_or_distrib,
    ← Nat.shiftLeft_add_eq_or_of_lt b.toNat_lt, Nat.shiftLeft_eq x]

lemma toNat_shiftLeft_byte (b : UInt8) (k : UInt64) (hk : k.toNat ≤ 56) :
    (b.toUInt64 <<< k).toNat = b.toNat <<< k.toNat := by
  have hpow : 2 ^ k.toNat ≤ 2 ^ 56 := Nat.pow_le_pow_right (by norm_num) hk
  have hb := b.toNat_lt
  rw [UInt64.toNat_shiftLeft, UInt8.toNat_toUInt64,
    Nat.mod_eq_of_lt (by omega : k.toNat < 64), Nat.shiftLeft_eq]
  apply Nat.mod_eq_of_lt
  calc b.toNat * 2 ^ k.toNat ≤ 255 * 2 ^ 56 := Nat.mul_le_mul (by omega) hpow
    _ < 2 ^ 64 := by norm_num

def be16 (b1 b2 : UInt8) : UInt16 := (b1.toUInt16 <<< 8) ||| b2.toUInt16

lemma toNat_be16 (b1 b2 : UInt8) :
    (be16 b1 b2).toNat = b1.toNat * 256 + b2.toNat := by
  have h1 := b1.toNat_lt
  have hshift : (b1.toUInt16 <<< 8).toNat = b1.toNat <<< 8 := by
    rw [UInt16.toNat_shiftLeft, UInt8.toNat_toUInt16]
    apply Nat.mod_eq_of_lt
    rw [show (8 : UInt16).toNat % 16 = 8 from by decide]
    omega
  rw [be16, UInt16.toNat_or, hshift]
  simpa using or_shiftLeft_byte b1.toNat 0 b2

@[simp]
lemma be16_bytes (index : UInt16) :
    be16 (index >>> 8).toUInt8 (index &&& 0xFF).toUInt8 = index := by
  have hlt := index.toNat_lt
  have hhigh : (index >>> 8).toUInt8.toNat = index.toNat / 256 := by
    simp
    omega
  have hlow : (index &&& 0xFF).toUInt8.toNat = index.toNat % 256 := by
    rw [UInt16.toNat_toUInt8, UInt16.toNat_and,
      show (0xFF : UInt16).toNat = 2 ^ 8 - 1 from by decide,
      Nat.and_two_pow_sub_one_eq_mod]
    omega
  rw [← UInt16.toNat_inj, toNat_be16]
  omega

def get_be32 (b : List UInt8) : UInt32 :=
  ((b.getD 0 0).toUInt32 <<< 24) ||| ((b.getD 1 0).toUInt32 <<< 16) |||
    ((b.getD 2 0).toUInt32 <<< 8) ||| (b.getD 3 0).toUInt32

lemma toNat_shiftLeft_byte32 (b : UInt8) (k : UInt32) (hk : k.toNat ≤ 24) :
    (b.toUInt32 <<< k).toNat = b.toNat <<< k.toNat := by
  have hpow : 2 ^ k.toNat ≤ 2 ^ 24 := Nat.pow_le_pow_right (by norm_num) hk
  have hb := b.toNat_lt
  rw [UInt32.toNat_shiftLeft, UInt8.toNat_toUInt32,
    Nat.mod_eq_of_lt (by omega : k.toNat < 32), Nat.shiftLeft_eq]
  apply Nat.mod_eq_of_lt
  calc b.toNat * 2 ^ k.toNat ≤ 255 * 2 ^ 24 := Nat.mul_le_mul (by omega) hpow
    _ < 2 ^ 32 := by norm_num

lemma toNat_get_be32 (b0 b1 b2 b3 : UInt8) (rest : List UInt8) :
    (get_be32 ([b0, b1, b2, b3] ++ rest)).toNat =
      ((b0.toNat * 256 + b1.toNat) * 256 + b2.toNat) * 256 + b3.toNat := by
  have shifts : (24 : UInt32).toNat = 24 ∧ (16 : UInt32).toNat = 16 ∧ (8 : UInt32).toNat = 8 := by
    decide
  obtain ⟨e24, e16, e8⟩ := shifts
  simp only [get_be32, List.cons_append, List.nil_append, List.getD_cons_zero,
    List.getD_cons_succ, UInt32.toNat_or]
  rw [toNat_shiftLeft_byte32 _ 24 (by decide), toNat_shiftLeft_byte32 _ 16 (by decide),
    toNat_shiftLeft_byte32 _ 8 (by decide), e24, e16, e8, UInt8.toNat_toUInt32]
  have hlast := fun x => or_shiftLeft_byte x 0 b3
  simp only [Nat.zero_add, Nat.shiftLeft_zero] at hlast
  rw [or_shiftLeft_byte _ 16, or_shiftLeft_byte _ 8, hlast]

variable (v : UInt32)

lemma toNat_be32 : ((be32 v).map UInt8.toNat) =
    [v.toNat / 2 ^ 24 % 256, v.toNat / 2 ^ 16 % 256, v.toNat / 2 ^ 8 % 256, v.toNat % 256] := by
  simp only [be32, List.map_cons, List.map_nil, UInt32.toNat_toUInt8, UInt32.toNat_shiftRight,
    Nat.shiftRight_eq_div_pow, UInt32.toNat_ofNat, Nat.reduceMod, Nat.reducePow]

@[simp]
lemma get_be32_be32 (rest : List UInt8) : get_be32 (be32 v ++ rest) = v := by
  have hv := v.toNat_lt
  have hdigits := toNat_be32 v
  rw [← UInt32.toNat_inj, be32, toNat_get_be32]
  simp only [be32, List.map_cons, List.map_nil, List.cons.injEq, and_true] at hdigits
  omega

@[simp]
lemma get_be32_self : get_be32 (be32 v) = v := by
  rw [← List.append_nil (be32 v), get_be32_be32]

def le32 (v : UInt32) : List UInt8 :=
  [v.toUInt8, (v >>> 8).toUInt8, (v >>> 16).toUInt8, (v >>> 24).toUInt8]

def get_le32 (b : List UInt8) : UInt32 :=
  get_be32 [b.getD 3 0, b.getD 2 0, b.getD 1 0, b.getD 0 0]

@[simp]
lemma get_le32_le32 (rest : List UInt8) : get_le32 (le32 v ++ rest) = v :=
  get_be32_self v

def get_be64 (b : List UInt8) : UInt64 :=
  ((b.getD 0 0).toUInt64 <<< 56) ||| ((b.getD 1 0).toUInt64 <<< 48) |||
    ((b.getD 2 0).toUInt64 <<< 40) ||| ((b.getD 3 0).toUInt64 <<< 32) |||
    ((b.getD 4 0).toUInt64 <<< 24) ||| ((b.getD 5 0).toUInt64 <<< 16) |||
    ((b.getD 6 0).toUInt64 <<< 8) ||| (b.getD 7 0).toUInt64

lemma toNat_get_be64 (b0 b1 b2 b3 b4 b5 b6 b7 : UInt8) (rest : List UInt8) :
    (get_be64 ([b0, b1, b2, b3, b4, b5, b6, b7] ++ rest)).toNat =
      ((((((b0.toNat * 256 + b1.toNat) * 256 + b2.toNat) * 256 + b3.toNat) * 256 + b4.toNat) *
        256 + b5.toNat) * 256 + b6.toNat) * 256 + b7.toNat := by
  have shifts : (56 : UInt64).toNat = 56 ∧ (48 : UInt64).toNat = 48 ∧ (40 : UInt64).toNat = 40 ∧
      (32 : UInt64).toNat = 32 ∧ (24 : UInt64).toNat = 24 ∧ (16 : UInt64).toNat = 16 ∧
      (8 : UInt64).toNat = 8 := by
    decide
  obtain ⟨e56, e48, e40, e32, e24, e16, e8⟩ := shifts
  simp only [get_be64, List.cons_append, List.nil_append, List.getD_cons_zero,
    List.getD_cons_succ, UInt64.toNat_or]
  rw [toNat_shiftLeft_byte _ 56 (by decide), toNat_shiftLeft_byte _ 48 (by decide),
    toNat_shiftLeft_byte _ 40 (by decide), toNat_shiftLeft_byte _ 32 (by decide),
    toNat_shiftLeft_byte _ 24 (by decide), toNat_shiftLeft_byte _ 16 (by decide),
    toNat_shiftLeft_byte _ 8 (by decide), e56, e48, e40, e32, e24, e16, e8, UInt8.toNat_toUInt64]
  have hlast := fun x => or_shiftLeft_byte x 0 b7
  simp only [Nat.zero_add, Nat.shiftLeft_zero] at hlast
  rw [or_shiftLeft_byte _ 48, or_shiftLeft_byte _ 40, or_shiftLeft_byte _ 32,
    or_shiftLeft_byte _ 24, or_shiftLeft_byte _ 16, or_shiftLeft_byte _ 8, hlast]

lemma toNat_be64 (v : UInt64) : ((be64 v).map UInt8.toNat) =
    [v.toNat / 2 ^ 56 % 256, v.toNat / 2 ^ 48 % 256, v.toNat / 2 ^ 40 % 256,
      v.toNat / 2 ^ 32 % 256, v.toNat / 2 ^ 24 % 256, v.toNat / 2 ^ 16 % 256,
      v.toNat / 2 ^ 8 % 256, v.toNat % 256] := by
  simp only [be64, List.map_cons, List.map_nil, UInt64.toNat_toUInt8, UInt64.toNat_shiftRight,
    Nat.shiftRight_eq_div_pow, UInt64.toNat_ofNat, Nat.reduceMod, Nat.reducePow]

@[simp]
lemma get_be64_be64 (v : UInt64) (rest : List UInt8) : get_be64 (be64 v ++ rest) = v := by
  have hv := v.toNat_lt
  have hdigits := toNat_be64 v
  rw [← UInt64.toNat_inj, be64, toNat_get_be64]
  simp only [be64, List.map_cons, List.map_nil, List.cons.injEq, and_true] at hdigits
  omega

def le64 (v : UInt64) : List UInt8 :=
  [v.toUInt8, (v >>> 8).toUInt8, (v >>> 16).toUInt8, (v >>> 24).toUInt8, (v >>> 32).toUInt8,
    (v >>> 40).toUInt8, (v >>> 48).toUInt8, (v >>> 56).toUInt8]

def get_le64 (b : List UInt8) : UInt64 :=
  get_be64 [b.getD 7 0, b.getD 6 0, b.getD 5 0, b.getD 4 0, b.getD 3 0, b.getD 2 0, b.getD 1 0,
    b.getD 0 0]

lemma get_le64_le64 (v : UInt64) (rest : List UInt8) : get_le64 (le64 v ++ rest) = v := by
  have h := get_be64_be64 v []
  rwa [List.append_nil] at h

/-! ## Fields at fixed offsets -/

def get_byte (b : List UInt8) : UInt8 := b.headD 0

@[simp]
lemma get_byte_cons (x : UInt8) (rest : List UInt8) : get_byte (x :: rest) = x := rfl

@[simp]
lemma length_be32 : (be32 v).length = 4 := by simp [be32]

@[simp]
lemma length_be64 (v : UInt64) : (be64 v).length = 8 := by simp [be64]

@[simp]
lemma length_le32 : (le32 v).length = 4 := by simp [le32]

@[simp]
lemma drop_field {l r : List UInt8} {n : ℕ} (h : l.length ≤ n) :
    (l ++ r).drop n = r.drop (n - l.length) := by
  rw [List.drop_append, List.drop_eq_nil_of_le h, List.nil_append]

variable {a b : List UInt8} {k : ℕ}

lemma get_byte_drop_inj (ha : k < a.length) (hb : k < b.length) :
    get_byte (a.drop k) = get_byte (b.drop k) ↔ a[k]? = b[k]? := by
  rw [get_byte, get_byte, List.headD_eq_head?_getD, List.headD_eq_head?_getD, List.head?_drop,
    List.head?_drop, List.getElem?_eq_getElem ha, List.getElem?_eq_getElem hb]
  simp

lemma get_be32_inj : get_be32 a = get_be32 b ↔ ∀ i ∈ [0, 1, 2, 3], a.getD i 0 = b.getD i 0 := by
  constructor
  · intro h i hi
    have hvalue := fun b : List UInt8 =>
      toNat_get_be32 (b.getD 0 0) (b.getD 1 0) (b.getD 2 0) (b.getD 3 0) []
    have hnat := (hvalue a).symm.trans ((congrArg UInt32.toNat h).trans (hvalue b))
    have hlt := fun i => And.intro (a.getD i 0).toNat_lt (b.getD i 0).toNat_lt
    have h1 := hlt 1
    have h2 := hlt 2
    have h3 := hlt 3
    rw [← UInt8.toNat_inj]
    fin_cases hi <;> omega
  · intro h
    rw [get_be32, get_be32, h 0 (by decide), h 1 (by decide), h 2 (by decide), h 3 (by decide)]

lemma get_be32_drop_inj (ha : k + 4 ≤ a.length) (hb : k + 4 ≤ b.length) :
    get_be32 (a.drop k) = get_be32 (b.drop k) ↔ ∀ i ∈ [0, 1, 2, 3], a[k + i]? = b[k + i]? := by
  rw [get_be32_inj]
  refine forall₂_congr fun i hi => ?_
  have hlt : i < 4 := List.mem_range.1 hi
  rw [List.getD_eq_getElem?_getD, List.getD_eq_getElem?_getD, List.getElem?_drop,
    List.getElem?_drop, List.getElem?_eq_getElem (by omega), List.getElem?_eq_getElem (by omega)]
  simp

lemma be32_injective : Function.Injective be32 := by
  intro v w h
  rw [← get_be32_self v, ← get_be32_self w, h]

lemma drop_flatMap {α : Type*} {f : α → List UInt8} (hk : ∀ x, (f x).length = k) (l : List α)
    (i : ℕ) : (l.flatMap f).drop (k * i) = (l.drop i).flatMap f := by
  induction i generalizing l with
  | zero => rfl
  | succ i ih =>
    cases l with
    | nil => rw [List.drop_nil, List.flatMap_nil, List.drop_nil]
    | cons x l =>
      rw [List.flatMap_cons, Nat.mul_succ, Nat.add_comm, ← List.drop_drop,
        List.drop_left' (hk x), ih, List.drop_succ_cons]

def get_bytes (n : ℕ) (b : List UInt8) : Vector UInt8 n := Vector.ofFn fun i => b.getD i.val 0

@[simp]
lemma get_bytes_toList {n : ℕ} (v : Vector UInt8 n) (rest : List UInt8) :
    get_bytes n (v.toList ++ rest) = v := by
  apply Vector.ext
  intro i hi
  rw [get_bytes, Vector.getElem_ofFn, List.getD_append _ _ _ _ (by simpa using hi),
    List.getD_eq_getElem _ _ (by simpa using hi), Vector.getElem_toList]

@[simp]
lemma get_bytes_self {n : ℕ} (v : Vector UInt8 n) : get_bytes n v.toList = v := by
  rw [← List.append_nil v.toList, get_bytes_toList]

end BrambleMesh.Bytes
