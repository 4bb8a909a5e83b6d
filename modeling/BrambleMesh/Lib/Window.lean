/-
Windows on a list that grows at its head: two tables that keep the newest entries of a sequence
are two prefixes of one list.
-/
import Mathlib.Data.List.Basic
import Mathlib.Data.List.Infix

namespace BrambleMesh.Window

open List

variable {α : Type*} {l L : List α} {i : ℕ} {x : α}

end BrambleMesh.Window
