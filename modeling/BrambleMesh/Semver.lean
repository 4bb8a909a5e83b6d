/-
The order of versions in the web client, webapp/src/lib/semver.ts, against the firmware's. The
client does not know build metadata or a capital V, and compares numeric identifiers as doubles.
-/
import BrambleMesh.OtaVersion
import Mathlib.Data.List.TakeWhile
import Mathlib.Tactic.Ring

namespace BrambleMesh.Semver

open OtaVersion Option

/-! ## Parsing -/

def decimal (s : List UInt8) : ℕ := s.foldl (fun v c => v * 10 + (c - '0'.toUInt8).toNat) 0

def split (s : List UInt8) : List (List UInt8) :=
  if '.'.toUInt8 ∈ s then field s :: split (next s) else [s]
termination_by s.length
decreasing_by exact length_next_lt (List.ne_nil_of_mem (by assumption))

def is_space (c : UInt8) : Bool := c == 32 || (9 ≤ c && c ≤ 13)

def trim (s : List UInt8) : List UInt8 :=
  ((s.dropWhile is_space).reverse.dropWhile is_space).reverse

variable {a b s : List UInt8} {v w : OtaSemver}

variable {c : UInt8}

def PlainIdentifier (f : List UInt8) : Prop :=
  f ≠ [] ∧ (f.all isdigit → (f.length = 1 ∨ f.head? ≠ some '0'.toUInt8) ∧ decimal f < 2 ^ 53)
deriving Decidable

lemma while_ne (h : c ∉ s) :
    s.takeWhile (fun x => x != c) = s ∧ s.dropWhile (fun x => x != c) = [] := by
  rw [List.takeWhile_eq_self_iff, List.dropWhile_eq_nil_iff]
  have hall : ∀ x ∈ s, (x != c) := fun x hx => bne_iff_ne.2 fun heq => h (heq ▸ hx)
  exact ⟨hall, hall⟩

lemma while_ne_append (h : c ∉ s) (rest : List UInt8) :
    (s ++ c :: rest).takeWhile (fun x => x != c) = s ∧
      (s ++ c :: rest).dropWhile (fun x => x != c) = c :: rest := by
  have hall : ∀ x ∈ s, (x != c) := fun x hx => bne_iff_ne.2 fun heq => h (heq ▸ hx)
  rw [List.takeWhile_append_of_pos hall, List.dropWhile_append_of_pos hall]
  simp

lemma split_append (h : '.'.toUInt8 ∉ s) (rest : List UInt8) :
    split (s ++ '.'.toUInt8 :: rest) = s :: split rest := by
  obtain ⟨htake, hdrop⟩ := while_ne_append h rest
  rw [split, if_pos (by simp), field, next, htake, hdrop]
  rfl

def PlainText (s : List UInt8) : Prop :=
  s.getLast? ≠ some '.'.toUInt8 ∧ ∀ f ∈ split s, PlainIdentifier f
deriving Decidable

def parts (s : List UInt8) : List (List UInt8) := if s = [] then [] else split s

lemma split_eq (hlast : s.getLast? ≠ some '.'.toUInt8) :
    split s = field s :: parts (next s) ∧ (next s = [] ∨ (next s).getLast? = s.getLast?) := by
  by_cases hdot : '.'.toUInt8 ∈ s
  · obtain ⟨f, rest, rfl, hf⟩ := List.eq_append_cons_of_mem hdot
    obtain ⟨htake, hdrop⟩ := while_ne_append hf rest
    have hrest : rest ≠ [] := by
      rintro rfl
      exact hlast (by simp)
    rw [split_append hf, field, next, htake, hdrop, List.drop_one, List.tail_cons, parts,
      if_neg hrest]
    refine ⟨rfl, .inr ?_⟩
    rw [List.getLast?_append, List.getLast?_cons_of_ne_nil hrest]
    simp [List.getLast?_eq_some_getLast hrest]
  · obtain ⟨htake, hdrop⟩ := while_ne hdot
    rw [split, if_neg hdot, field, next, htake, hdrop]
    exact ⟨rfl, .inl rfl⟩

lemma PlainText.field (h : PlainText s) : PlainIdentifier (field s) := by
  apply h.2
  rw [(split_eq h.1).1]
  exact List.mem_cons_self

lemma PlainText.next (h : PlainText s) : next s = [] ∨ PlainText (next s) := by
  obtain ⟨heq, hlast⟩ := split_eq h.1
  by_cases hnil : OtaVersion.next s = []
  · exact .inl hnil
  · refine .inr ⟨hlast.resolve_left hnil ▸ h.1, fun f hf => h.2 f ?_⟩
    rw [heq, parts, if_neg hnil]
    exact List.mem_cons_of_mem _ hf

variable {rest : List UInt8}

def text (s : String) : List UInt8 := s.toUTF8.toList

end BrambleMesh.Semver
