/-
Three-way comparisons that stand for a linear order, one component after the other: `if (a != b)
return a < b ? -1 : 1;` is `(compare a b).then rest`.
-/
import Mathlib.Data.List.Lex
import Mathlib.Data.Prod.Lex
import Mathlib.Order.Compare

namespace BrambleMesh.Comparison

variable {α β : Type*} [LinearOrder α] [LinearOrder β] {a a' : α} {o o' : Ordering}

lemma compares_pair {b b' : β} (h : o.Compares a a') (hrest : a = a' → o'.Compares b b') :
    (o.then o').Compares (toLex (a, b)) (toLex (a', b')) := by
  cases o with
  | lt => exact Prod.Lex.toLex_lt_toLex.2 (Or.inl h)
  | gt => exact Prod.Lex.toLex_lt_toLex.2 (Or.inl h)
  | eq =>
    obtain rfl : a = a' := h
    have hb := hrest rfl
    cases o' with
    | lt => exact Prod.Lex.toLex_lt_toLex.2 (Or.inr ⟨rfl, hb⟩)
    | eq => exact congrArg (fun x => toLex (a, x)) hb
    | gt => exact Prod.Lex.toLex_lt_toLex.2 (Or.inr ⟨rfl, hb⟩)

lemma compares_cons {l l' : List α} (h : o.Compares a a') (hrest : a = a' → o'.Compares l l') :
    (o.then o').Compares (a :: l) (a' :: l') := by
  cases o with
  | lt => exact List.cons_lt_cons_iff.2 (Or.inl h)
  | gt => exact List.cons_lt_cons_iff.2 (Or.inl h)
  | eq =>
    obtain rfl : a = a' := h
    have hl := hrest rfl
    cases o' with
    | lt => exact List.cons_lt_cons_iff.2 (Or.inr ⟨rfl, hl⟩)
    | eq => exact congrArg (List.cons a) hl
    | gt => exact List.cons_lt_cons_iff.2 (Or.inr ⟨rfl, hl⟩)

end BrambleMesh.Comparison
