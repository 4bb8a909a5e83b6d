/-
UTF-8 as a stream of bytes: the decoder of the Encoding standard, which is what `TextDecoder`
runs.
-/
import Mathlib

namespace BrambleMesh.Utf8

open List

/-! ## The decoder -/

structure Decoder where
  code_point : ℕ
  bytes_seen : ℕ
  bytes_needed : ℕ
  lower : ℕ
  upper : ℕ
deriving DecidableEq, Repr

def Decoder.init : Decoder := ⟨0, 0, 0, 0x80, 0xBF⟩

def replacement : Char := '\uFFFD'

def byte_order_mark : Char := '\uFEFF'

def lead (b : ℕ) : Decoder × List Char :=
  if b ≤ 0x7F then (.init, [Char.ofNat b])
  else if 0xC2 ≤ b ∧ b ≤ 0xDF then (⟨b % 32, 0, 1, 0x80, 0xBF⟩, [])
  else if 0xE0 ≤ b ∧ b ≤ 0xEF then
    (⟨b % 16, 0, 2, if b = 0xE0 then 0xA0 else 0x80, if b = 0xED then 0x9F else 0xBF⟩, [])
  else if 0xF0 ≤ b ∧ b ≤ 0xF4 then
    (⟨b % 8, 0, 3, if b = 0xF0 then 0x90 else 0x80, if b = 0xF4 then 0x8F else 0xBF⟩, [])
  else (.init, [replacement])

def handler (d : Decoder) (b : ℕ) : Decoder × List Char :=
  if d.bytes_needed = 0 then lead b
  else if b < d.lower ∨ d.upper < b then
    let r := lead b
    (r.1, replacement :: r.2)
  else
    let code_point := d.code_point * 64 + b % 64
    if d.bytes_seen + 1 = d.bytes_needed then (.init, [Char.ofNat code_point])
    else (⟨code_point, d.bytes_seen + 1, d.bytes_needed, 0x80, 0xBF⟩, [])

def run (d : Decoder) : List UInt8 → Decoder × List Char
  | [] => (d, [])
  | b :: bs =>
    let r := handler d b.toNat
    let s := run r.1 bs
    (s.1, r.2 ++ s.2)

def strip_bom : List Char → List Char
  | [] => []
  | c :: cs => if c = byte_order_mark then cs else c :: cs

def decode (bytes : List UInt8) : List Char := strip_bom (run .init bytes).2

lemma run_append (d : Decoder) (xs ys : List UInt8) :
    run d (xs ++ ys) =
      ((run (run d xs).1 ys).1, (run d xs).2 ++ (run (run d xs).1 ys).2) := by
  induction xs generalizing d with
  | nil => simp [run]
  | cons b bs ih => simp only [cons_append, run, ih, append_assoc]

/-! ## One character -/

variable {b : ℕ} {b₀ b₁ : UInt8} {text : List Char} {pieces : List (List UInt8)}

lemma lead_two (h : 0xC2 ≤ b ∧ b ≤ 0xDF) :
    lead b = (⟨b % 32, 0, 1, 0x80, 0xBF⟩, []) := by
  rw [lead, if_neg (by omega), if_pos h]

lemma lead_three (h : 0xE0 ≤ b ∧ b ≤ 0xEF) :
    lead b = (⟨b % 16, 0, 2, if b = 0xE0 then 0xA0 else 0x80,
      if b = 0xED then 0x9F else 0xBF⟩, []) := by
  rw [lead, if_neg (by omega), if_neg (by omega), if_pos h]

lemma lead_four (h : 0xF0 ≤ b ∧ b ≤ 0xF4) :
    lead b = (⟨b % 8, 0, 3, if b = 0xF0 then 0x90 else 0x80,
      if b = 0xF4 then 0x8F else 0xBF⟩, []) := by
  rw [lead, if_neg (by omega), if_neg (by omega), if_neg (by omega), if_pos h]

lemma handler_init (b : ℕ) : handler .init b = lead b := rfl

lemma handler_last {cp seen lower upper : ℕ} (h : lower ≤ b ∧ b ≤ upper) :
    handler ⟨cp, seen, seen + 1, lower, upper⟩ b = (.init, [Char.ofNat (cp * 64 + b % 64)]) := by
  rw [handler, if_neg (Nat.succ_ne_zero seen), if_neg (by dsimp only; omega), if_pos rfl]

lemma handler_more {cp seen needed lower upper : ℕ} (hmore : seen + 1 < needed)
    (h : lower ≤ b ∧ b ≤ upper) :
    handler ⟨cp, seen, needed, lower, upper⟩ b =
      (⟨cp * 64 + b % 64, seen + 1, needed, 0x80, 0xBF⟩, []) := by
  rw [handler, if_neg (by dsimp only; omega), if_neg (by dsimp only; omega),
    if_neg (by dsimp only; omega)]

lemma run_two (h₀ : 0xC2 ≤ b₀.toNat ∧ b₀.toNat ≤ 0xDF) (h₁ : 0x80 ≤ b₁.toNat ∧ b₁.toNat ≤ 0xBF) :
    run .init [b₀, b₁] = (.init, [Char.ofNat (b₀.toNat % 32 * 64 + b₁.toNat % 64)]) := by
  simp only [run, handler_init, lead_two h₀, handler_last h₁, nil_append, append_nil]

lemma run_three {b₂ : UInt8} (h₀ : 0xE0 ≤ b₀.toNat ∧ b₀.toNat ≤ 0xEF)
    (h₁ : (if b₀.toNat = 0xE0 then 0xA0 else 0x80) ≤ b₁.toNat ∧ b₁.toNat ≤ if b₀.toNat = 0xED then
      0x9F else 0xBF) (h₂ : 0x80 ≤ b₂.toNat ∧ b₂.toNat ≤ 0xBF) :
    run .init [b₀, b₁, b₂] =
      (.init, [Char.ofNat ((b₀.toNat % 16 * 64 + b₁.toNat % 64) * 64 + b₂.toNat % 64)]) := by
  simp only [run, handler_init, lead_three h₀, handler_more (show 0 + 1 < 2 by decide) h₁,
    handler_last h₂, nil_append, append_nil]

lemma run_four {b₂ b₃ : UInt8} (h₀ : 0xF0 ≤ b₀.toNat ∧ b₀.toNat ≤ 0xF4)
    (h₁ : (if b₀.toNat = 0xF0 then 0x90 else 0x80) ≤ b₁.toNat ∧ b₁.toNat ≤ if b₀.toNat = 0xF4 then
      0x8F else 0xBF) (h₂ : 0x80 ≤ b₂.toNat ∧ b₂.toNat ≤ 0xBF)
    (h₃ : 0x80 ≤ b₃.toNat ∧ b₃.toNat ≤ 0xBF) :
    run .init [b₀, b₁, b₂, b₃] =
      (.init, [Char.ofNat (((b₀.toNat % 8 * 64 + b₁.toNat % 64) * 64 + b₂.toNat % 64) * 64 +
        b₃.toNat % 64)]) := by
  simp only [run, handler_init, lead_four h₀, handler_more (show 0 + 1 < 3 by decide) h₁,
    handler_more (show 0 + 1 + 1 < 3 by decide) h₂, handler_last h₃, nil_append,
    append_nil]

lemma run_encodeChar (c : Char) : run .init (String.utf8EncodeChar c) = (.init, [c]) := by
  have hvalid : c.val.toNat < 0xD800 ∨ 0xDFFF < c.val.toNat ∧ c.val.toNat < 0x110000 := c.valid
  have hc : Char.ofNat c.val.toNat = c := Char.ofNat_toNat c
  have hbyte : ∀ n < 256, (UInt8.ofNat n).toNat = n := fun n hn => UInt8.toNat_ofNat_of_lt' hn
  unfold String.utf8EncodeChar
  generalize c.val.toNat = v at hvalid hc ⊢
  dsimp only
  by_cases h1 : v ≤ 127
  · rw [if_pos h1, run, handler_init, hbyte v (by omega), lead, if_pos h1, hc]
    rfl
  rw [if_neg h1]
  by_cases h2 : v ≤ 2047
  · have e0 := hbyte (v / 64 % 32 + 192) (by omega)
    have e1 := hbyte (v % 64 + 128) (by omega)
    rw [if_pos h2, run_two (by rw [e0]; omega) (by rw [e1]; omega), e0, e1, ← hc]
    congr 3
    omega
  rw [if_neg h2]
  by_cases h3 : v ≤ 65535
  · have e0 := hbyte (v / 4096 % 16 + 224) (by omega)
    have e1 := hbyte (v / 64 % 64 + 128) (by omega)
    have e2 := hbyte (v % 64 + 128) (by omega)
    rw [if_pos h3, run_three (by rw [e0]; omega) (by rw [e0, e1]; split <;> split <;> omega)
      (by rw [e2]; omega), e0, e1, e2, ← hc]
    congr 3
    omega
  · have e0 := hbyte (v / 262144 % 8 + 240) (by omega)
    have e1 := hbyte (v / 4096 % 64 + 128) (by omega)
    have e2 := hbyte (v / 64 % 64 + 128) (by omega)
    have e3 := hbyte (v % 64 + 128) (by omega)
    rw [if_neg h3, run_four (by rw [e0]; omega) (by rw [e0, e1]; split <;> split <;> omega)
      (by rw [e2]; omega) (by rw [e3]; omega), e0, e1, e2, e3, ← hc]
    congr 3
    omega

/-! ## Texts -/

def encode (text : List Char) : List UInt8 := text.flatMap String.utf8EncodeChar

lemma run_encode (text : List Char) : run .init (encode text) = (.init, text) := by
  induction text with
  | nil => rfl
  | cons c cs ih =>
    rw [encode, flatMap_cons, run_append, run_encodeChar]
    rw [← encode, ih]
    rfl

lemma decode_encode (h : text.head? ≠ some byte_order_mark) :
    decode (encode text) = text := by
  rw [decode, run_encode]
  cases text with
  | nil => rfl
  | cons c cs =>
    have hc : c ≠ byte_order_mark := fun heq => h (congrArg some heq)
    rw [strip_bom, if_neg hc]

lemma encode_bom (h : text.head? = some byte_order_mark) :
    [0xEF, 0xBB, 0xBF] <+: encode text := by
  cases text with
  | nil => cases h
  | cons c cs =>
    cases h
    exact ⟨encode cs, rfl⟩

/-- **Cuts between characters.**  Where the rest of the bytes of a text starts with a byte that
starts a character, or is empty, the text is cut in two. -/
theorem encode_eq_append {xs ys : List UInt8} (h : encode text = xs ++ ys)
    (hcut : ∀ b ∈ ys.head?, b.IsUTF8FirstByte) :
    ∃ s t, text = s ++ t ∧ xs = encode s ∧ ys = encode t := by
  induction text generalizing xs with
  | nil =>
    obtain ⟨rfl, rfl⟩ := nil_eq_append_iff.mp h
    exact ⟨[], [], rfl, rfl, rfl⟩
  | cons c cs ih =>
    cases xs with
    | nil => exact ⟨[], c :: cs, rfl, rfl, h.symm⟩
    | cons x xs =>
      have hall : String.utf8EncodeChar c ++ encode cs = (x :: xs) ++ ys := h
      rcases append_eq_append_iff.mp hall with ⟨zs, hxs, hcs⟩ | ⟨zs, hc, hys⟩
      · obtain ⟨s, t, rfl, rfl, rfl⟩ := ih hcs
        exact ⟨c :: s, t, rfl, hxs, rfl⟩
      · cases zs with
        | nil =>
          refine ⟨[c], cs, rfl, ?_, hys⟩
          rw [encode, flatMap_singleton, hc, append_nil]
        | cons b zs =>
          -- `b` would be a byte inside of `c`, and those start no character
          have hi : (x :: xs).length < (String.utf8EncodeChar c).length := by
            simp only [hc, length_append, length_cons]
            omega
          have hget : (String.utf8EncodeChar c)[(x :: xs).length] = b := by
            simp only [hc, getElem_append_right (le_refl _), Nat.sub_self,
              getElem_cons_zero]
          have hfirst : b.IsUTF8FirstByte := hcut b (by rw [hys]; rfl)
          rw [← hget, UInt8.isUTF8FirstByte_getElem_utf8EncodeChar] at hfirst
          cases hfirst

/-! ## Line feeds -/

lemma lead_lower (b : ℕ) : 0x80 ≤ (lead b).1.lower := by
  unfold lead
  split
  · exact le_refl _
  split
  · exact le_refl _
  split
  · dsimp only
    split <;> omega
  split
  · dsimp only
    split <;> omega
  · exact le_refl _

lemma handler_lower (d : Decoder) (b : ℕ) : 0x80 ≤ (handler d b).1.lower := by
  unfold handler
  split
  · exact lead_lower b
  split
  · exact lead_lower b
  split <;> exact le_refl _

lemma run_lower {d : Decoder} (hd : 0x80 ≤ d.lower) (bs : List UInt8) :
    0x80 ≤ (run d bs).1.lower := by
  induction bs generalizing d with
  | nil => exact hd
  | cons b bs ih => exact ih (handler_lower d b.toNat)

lemma run_newline (bs : List UInt8) : ∃ out, (run .init (bs ++ [10])).2 = out ++ ['\n'] := by
  rw [run_append]
  have hlower := run_lower (d := .init) (le_refl _) bs
  generalize run .init bs = r at hlower ⊢
  have hlast : (run r.1 [10]).2 = ['\n'] ∨ (run r.1 [10]).2 = [replacement, '\n'] := by
    simp only [run, handler]
    by_cases hneed : r.1.bytes_needed = 0
    · rw [if_pos hneed]
      exact Or.inl rfl
    · rw [if_neg hneed, if_pos (Or.inl (lt_of_lt_of_le (by decide) hlower))]
      exact Or.inr rfl
  rcases hlast with hlast | hlast
  · rw [hlast]
    exact ⟨r.2, rfl⟩
  · rw [hlast]
    exact ⟨r.2 ++ [replacement], by rw [append_assoc]; rfl⟩

lemma decode_newline (bs : List UInt8) : ∃ out, decode (bs ++ [10]) = out ++ ['\n'] := by
  obtain ⟨out, hout⟩ := run_newline bs
  rw [decode, hout]
  cases out with
  | nil => exact ⟨[], rfl⟩
  | cons c cs =>
    rw [cons_append, strip_bom]
    split
    · exact ⟨cs, rfl⟩
    · exact ⟨c :: cs, rfl⟩

/-! ## A decoder for each piece -/

lemma head_flatten {P : UInt8 → Prop} (h : ∀ piece ∈ pieces, ∀ b ∈ piece.head?, P b) :
    ∀ b ∈ pieces.flatten.head?, P b := by
  induction pieces with
  | nil =>
    intro b hb
    cases hb
  | cons piece pieces ih =>
    cases piece with
    | nil => exact ih fun p hp => h p (mem_cons_of_mem _ hp)
    | cons x xs => exact h (x :: xs) mem_cons_self

lemma decode_pieces (h : pieces.flatten = encode text)
    (hclean : ∀ piece ∈ pieces, (∀ b ∈ piece.head?, b.IsUTF8FirstByte) ∧ ¬ [0xEF, 0xBB, 0xBF] <+:
      piece) :
    (pieces.map decode).flatten = text := by
  induction pieces generalizing text with
  | nil =>
    have hrun := run_encode text
    rw [← h] at hrun
    exact congrArg Prod.snd hrun
  | cons piece pieces ih =>
    have hrest : ∀ p ∈ pieces, (∀ b ∈ p.head?, b.IsUTF8FirstByte) ∧ ¬ [0xEF, 0xBB, 0xBF] <+: p :=
      fun p hp => hclean p (mem_cons_of_mem _ hp)
    obtain ⟨s, t, rfl, rfl, ht⟩ := encode_eq_append h.symm
      (head_flatten fun p hp => (hrest p hp).1)
    have hbom : s.head? ≠ some byte_order_mark := fun hs =>
      (hclean (encode s) mem_cons_self).2 (encode_bom hs)
    rw [map_cons, flatten_cons, decode_encode hbom, ih ht hrest]

lemma decode_pieces_newline {bytes : List UInt8} (h : pieces.flatten = bytes ++ [10]) :
    ∃ out, (pieces.map decode).flatten = out ++ ['\n'] := by
  induction pieces using List.reverseRecOn with
  | nil => cases append_ne_nil_of_right_ne_nil bytes (cons_ne_nil 10 []) h.symm
  | append_singleton pieces piece ih =>
    rw [flatten_append, flatten_singleton] at h
    rw [map_append, map_singleton, flatten_append, flatten_singleton]
    rcases eq_nil_or_concat piece with rfl | ⟨init, b, rfl⟩
    · rw [append_nil] at h
      rw [decode, run, strip_bom, append_nil]
      exact ih h
    · rw [concat_eq_append, ← append_assoc] at h
      obtain ⟨-, hb⟩ := append_inj' h rfl
      cases hb
      obtain ⟨out, hout⟩ := decode_newline init
      rw [concat_eq_append, hout, ← append_assoc]
      exact ⟨_, rfl⟩

end BrambleMesh.Utf8
