/-
The reader of the emulator link, components/emu_link/emu_link.c. A buffer that is full and holds no
newline is dropped, and what is left of its line is then read as a line of its own.
-/
import BrambleMesh.Lib.Lines

namespace BrambleMesh.EmuLink

open List Lines

abbrev EMU_LINK_MAX_LINE : ℕ := 65536
abbrev newline : UInt8 := 10

inductive Recv
  | eintr
  | data (bytes : List UInt8)

/-- The loop over the buffer: the lines handed to `dispatch_line`, and what the buffer keeps. -/
def scan (line : List UInt8) : List UInt8 → List (List UInt8) × List UInt8
  | [] => ([], line)
  | c :: rest =>
    if c = newline then (line :: (scan [] rest).1, (scan [] rest).2) else scan (line ++ [c]) rest

def resync (buf : List UInt8) : List UInt8 := if buf.length = EMU_LINK_MAX_LINE then [] else buf

def turn (buf : List UInt8) : Recv → List (List UInt8) × List UInt8
  | .eintr => ([], resync buf)
  | .data bytes => scan [] (resync buf ++ bytes)

def reader_main (buf : List UInt8) : List Recv → List (List UInt8)
  | [] => []
  | r :: rs => (turn buf r).1 ++ reader_main (turn buf r).2 rs

/-- A call takes at least a byte, and no more than the buffer has room for. -/
def Recvs (buf : List UInt8) : List Recv → Prop
  | [] => True
  | .eintr :: rs => Recvs (resync buf) rs
  | .data bytes :: rs =>
    bytes ≠ [] ∧ (resync buf ++ bytes).length ≤ EMU_LINK_MAX_LINE ∧
      Recvs (turn buf (.data bytes)).2 rs

def Recv.bytes : Recv → List UInt8
  | .eintr => []
  | .data bytes => bytes

variable {buf line s : List UInt8}

lemma scan_eq_cut (h : newline ∉ line) (bs : List UInt8) :
    scan line bs = cut newline (line ++ bs) := by
  induction bs generalizing line with
  | nil => rw [scan, append_nil, cut_open h]
  | cons c rest ih =>
    rw [scan]
    split_ifs with hc
    · rw [hc, cut_line h, ih not_mem_nil, nil_append]
    · rw [ih (by simp [h, Ne.symm hc]), append_assoc, singleton_append]

/-- What is left of a line when each full buffer was dropped. -/
def remnant (line : List UInt8) : List UInt8 :=
  line.drop (line.length / EMU_LINK_MAX_LINE * EMU_LINK_MAX_LINE)

lemma remnant_short (h : line.length < EMU_LINK_MAX_LINE) : remnant line = line := by
  rw [remnant, Nat.div_eq_of_lt h, Nat.zero_mul, drop_zero]

lemma map_remnant_short {lines : List (List UInt8)}
    (h : ∀ line ∈ lines, line.length < EMU_LINK_MAX_LINE) : lines.map remnant = lines :=
  (map_congr_left fun line hline => remnant_short (h line hline)).trans (map_id' lines)

lemma remnant_append (h : buf.length = EMU_LINK_MAX_LINE) :
    remnant (buf ++ line) = remnant line := by
  rw [remnant, length_append, h, Nat.add_div_left _ (by decide), Nat.succ_mul, Nat.add_comm,
    ← drop_drop, drop_left' h, remnant]

lemma length_of_mem_cut (hline : line ∈ (cut newline s).1) : line.length < s.length := by
  induction s using line_induction newline with
  | hopen s h => simp [cut_open h] at hline
  | hline first rest h ih =>
    rw [cut_line h] at hline
    rw [length_append, length_cons]
    rcases mem_cons.1 hline with rfl | hlater
    · omega
    · have := ih hlater
      omega

/-- Whether a full buffer is dropped makes no difference to what is left of its line. -/
lemma map_remnant_resync (hbuf : newline ∉ buf) (s : List UInt8) :
    (cut newline (resync buf ++ s)).1.map remnant = (cut newline (buf ++ s)).1.map remnant := by
  unfold resync
  split_ifs with hfull
  · by_cases hs : newline ∈ s
    · obtain ⟨line, rest, rfl, hline⟩ := eq_append_cons_of_mem hs
      rw [nil_append, cut_line hline, ← append_assoc, cut_line (by simp [hbuf, hline]), map_cons,
        map_cons, remnant_append hfull]
    · rw [nil_append, cut_open hs, cut_open (by simp [hbuf, hs])]
  · rfl

lemma resync_free (hbuf : newline ∉ buf) : newline ∉ resync buf := by
  unfold resync
  split_ifs
  · exact not_mem_nil
  · exact hbuf

lemma reader_main_eq (rs : List Recv) (hbuf : newline ∉ buf) (h : Recvs buf rs) :
    reader_main buf rs = (cut newline (buf ++ rs.flatMap Recv.bytes)).1.map remnant := by
  induction rs generalizing buf with
  | nil => rw [flatMap_nil, append_nil, cut_open hbuf, reader_main, map_nil]
  | cons r rs ih =>
    rw [reader_main, ← map_remnant_resync hbuf]
    cases r with
    | eintr => exact ih (resync_free hbuf) h
    | data bytes =>
      obtain ⟨-, hroom, hrest⟩ := h
      have hturn : turn buf (.data bytes) = cut newline (resync buf ++ bytes) := by
        rw [turn, scan_eq_cut not_mem_nil, nil_append]
      have hwhole := map_remnant_short fun _ hline => (length_of_mem_cut hline).trans_le hroom
      rw [hturn] at hrest ⊢
      rw [flatMap_cons, ← append_assoc, Recv.bytes, cut_append (resync buf ++ bytes), map_append,
        hwhole, ih (not_mem_rest _) hrest]

/-- **The lines of the link do not depend on how it is cut.**  Each is handed on without the full
buffers of its start; so exactly if none fills a buffer, they are the lines of the stream that are
shorter than one. -/
theorem lines_independent_of_cuts (rs : List Recv) (h : Recvs [] rs) :
    let lines := (cut newline (rs.flatMap Recv.bytes)).1
    reader_main [] rs = lines.map remnant ∧
      (reader_main [] rs = lines.filter (fun line => line.length < EMU_LINK_MAX_LINE) ↔
        ∀ line ∈ lines, line.length < EMU_LINK_MAX_LINE) := by
  intro lines
  have hlines : reader_main [] rs = lines.map remnant := reader_main_eq rs not_mem_nil h
  refine ⟨hlines, fun heq => ?_, fun hshort => ?_⟩
  · -- every line is handed on in some form, so the filter has dropped none
    have hlength := congrArg length heq
    rw [hlines, length_map] at hlength
    simpa using length_filter_eq_length_iff.1 hlength.symm
  · rw [hlines, filter_eq_self.2 fun line hline => decide_eq_true (hshort line hline)]
    exact map_remnant_short hshort

theorem lines_independent_of_cuts_inside :
    reader_main [] [.data [97], .eintr, .data [98, newline, 99]] = [[97, 98]] := by
  have hrecvs : Recvs [] [.data [97], .eintr, .data [98, newline, 99]] :=
    ⟨by decide, by decide, by decide, by decide, trivial⟩
  exact ((lines_independent_of_cuts _ hrecvs).2.2 (by decide +kernel)).trans (by decide +kernel)

/-- The end of a line that fills the buffer is handed on. -/
theorem long_line_end_dispatched :
    let rs := [Recv.data (replicate EMU_LINK_MAX_LINE 97), .data [98, newline]]
    Recvs [] rs ∧
      (cut newline (rs.flatMap Recv.bytes)).1 = [replicate EMU_LINK_MAX_LINE 97 ++ [98]] ∧
      reader_main [] rs = [[98]] := by
  have hfull : (replicate EMU_LINK_MAX_LINE (97 : UInt8)).length = EMU_LINK_MAX_LINE :=
    length_replicate
  have hfree : newline ∉ replicate EMU_LINK_MAX_LINE (97 : UInt8) := by
    rw [mem_replicate]
    decide
  generalize replicate EMU_LINK_MAX_LINE (97 : UInt8) = line at hfull hfree
  have hempty : resync [] = [] := rfl
  have hdropped : resync line = [] := if_pos hfull
  have hfirst : turn [] (.data line) = ([], line) := by
    rw [turn, hempty, nil_append, scan_eq_cut not_mem_nil, nil_append, cut_open hfree]
  have hrecvs : Recvs [] [.data line, .data [98, newline]] := by
    refine ⟨?_, ?_, by decide, ?_, trivial⟩
    · rintro rfl
      cases hfull
    · rw [hempty, nil_append, hfull]
    · rw [hfirst, hdropped]
      decide
  have hline : newline ∉ line ++ [98] := by
    rw [mem_append, not_or]
    exact ⟨hfree, by decide⟩
  have hcut := congrArg Prod.fst (cut_line hline [])
  rw [append_assoc] at hcut
  refine ⟨hrecvs, hcut, (reader_main_eq _ not_mem_nil hrecvs).trans ?_⟩
  exact (congrArg (map remnant) hcut).trans (congrArg ([·]) (remnant_append hfull))

end BrambleMesh.EmuLink
