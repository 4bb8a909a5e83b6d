/-
Lines over BLE: `ble_notify_cb` (components/ble/ble_server.c) and `onBLEData`, `processLines` of
webapp/src/transport/BLETransport.ts. The firmware cuts between bytes, and the client decodes each
notification on its own.
-/
import BrambleMesh.Lib.Utf8
import BrambleMesh.Lib.Lines

namespace BrambleMesh.BleLines

open Utf8 Lines List

/-! ## The firmware -/

inductive Attempt
  | no_mbuf
  | notified (rc : ℕ)
deriving DecidableEq, Repr

abbrev BLE_HS_ENOMEM : ℕ := 6

def notify_rc : List Attempt → ℕ
  | [] => BLE_HS_ENOMEM
  | .no_mbuf :: more => notify_rc more
  | .notified rc :: more => if rc = BLE_HS_ENOMEM then notify_rc more else rc

structure Link where
  connected : Bool
  rx_notify_enabled : Bool
  encrypted : Bool
  mtu : UInt16
deriving DecidableEq

def mbuf_at (json : List UInt8) (off n : ℕ) : List UInt8 :=
  if off + n ≤ json.length then (json.drop off).take n
  else if off < json.length then json.drop off ++ [10]
  else [10]

def max_chunk (mtu : UInt16) : ℕ := if 3 < mtu.toNat then mtu.toNat - 3 else 20

def notify_loop (json : List UInt8) (max_chunk : ℕ) (answers : ℕ → List Attempt) :
    ℕ → ℕ → List (List UInt8) × Bool
  | 0, _ => ([], false)
  | fuel + 1, off =>
    let total := json.length + 1
    if off < total then
      let n := min (total - off) max_chunk
      if notify_rc ((answers off).take 25) ≠ 0 then ([], false)
      else
        let later := notify_loop json max_chunk answers fuel (off + n)
        (mbuf_at json off n :: later.1, later.2)
    else ([], true)

def ble_notify_cb (link : Link) (answers : ℕ → List Attempt) (json : List UInt8) :
    List (List UInt8) × Bool :=
  if !link.connected || !link.rx_notify_enabled then ([], false)
  else if !link.encrypted then ([], false)
  else notify_loop json (max_chunk link.mtu) answers (json.length + 2) 0

/-! ## The web client -/

def processLines : List Char → List (List Char) × List Char := cut '\n'

def onBLEData (lineBuf : List Char) (value : List UInt8) : List (List Char) × List Char :=
  processLines (lineBuf ++ decode value)

def onNotifications (lineBuf : List Char) : List (List UInt8) → List (List Char) × List Char
  | [] => ([], lineBuf)
  | value :: values =>
    let now := onBLEData lineBuf value
    let later := onNotifications now.2 values
    (now.1 ++ later.1, later.2)

lemma onNotifications_eq (lineBuf : List Char) (values : List (List UInt8)) :
    onNotifications lineBuf values = receive '\n' lineBuf (values.map decode) := by
  induction values generalizing lineBuf with
  | nil => rfl
  | cons value values ih =>
    rw [onNotifications, map_cons, receive, ih]
    rfl

/-! ## One text -/

structure Send where
  link : Link
  answers : ℕ → List Attempt
  json : List UInt8

def Send.values (s : Send) : List (List UInt8) := (ble_notify_cb s.link s.answers s.json).1

def Send.Succeeds (s : Send) : Prop := (ble_notify_cb s.link s.answers s.json).2

instance (s : Send) : Decidable s.Succeeds := inferInstanceAs (Decidable (_ = true))

def Send.CutsClean (s : Send) : Prop :=
  ∀ value ∈ s.values, (∀ b ∈ value.head?, b.IsUTF8FirstByte) ∧ ¬ [0xEF, 0xBB, 0xBF] <+: value

instance (s : Send) : Decidable s.CutsClean :=
  inferInstanceAs (Decidable (∀ value ∈ s.values, _ ∧ _))

lemma mbuf_at_eq {json : List UInt8} {off n : ℕ} (hoff : off < json.length + 1) :
    mbuf_at json off n = ((json ++ [10]).drop off).take n := by
  unfold mbuf_at
  rw [drop_append_of_le_length (by omega)]
  by_cases hin : off + n ≤ json.length
  · rw [if_pos hin, take_append_of_le_length (by rw [length_drop]; omega)]
  · rw [if_neg hin]
    have hlen : (json.drop off ++ [10]).length ≤ n := by
      rw [length_append, length_drop, length_singleton]
      omega
    rw [take_of_length_le hlen]
    by_cases hlt : off < json.length
    · rw [if_pos hlt]
    · rw [if_neg hlt, drop_eq_nil_of_le (by omega), nil_append]

lemma notify_loop_flatten {json : List UInt8} {chunk : ℕ} {answers : ℕ → List Attempt}
    {fuel off : ℕ} (hoff : off ≤ json.length + 1)
    (hok : (notify_loop json chunk answers fuel off).2) :
    (notify_loop json chunk answers fuel off).1.flatten = (json ++ [10]).drop off := by
  induction fuel generalizing off with
  | zero => cases hok
  | succ fuel ih =>
    unfold notify_loop at hok ⊢
    by_cases hlt : off < json.length + 1
    · rw [if_pos hlt] at hok ⊢
      by_cases hrc : notify_rc ((answers off).take 25) ≠ 0
      · rw [if_pos hrc] at hok
        cases hok
      · rw [if_neg hrc] at hok ⊢
        rw [flatten_cons, ih (by omega) hok, mbuf_at_eq hlt, ← drop_drop,
          take_append_drop]
    · have hend : (json ++ [10]).length ≤ off := by
        rw [length_append, length_singleton]
        omega
      rw [if_neg hlt, drop_eq_nil_of_le hend]
      rfl

lemma Send.Succeeds.flatten {s : Send} (h : s.Succeeds) : s.values.flatten = s.json ++ [10] := by
  unfold Send.Succeeds at h
  unfold Send.values
  unfold ble_notify_cb at h ⊢
  by_cases hconn : (!s.link.connected || !s.link.rx_notify_enabled)
  · rw [if_pos hconn] at h
    cases h
  rw [if_neg hconn] at h ⊢
  by_cases henc : (!s.link.encrypted)
  · rw [if_pos henc] at h
    cases h
  rw [if_neg henc] at h ⊢
  exact notify_loop_flatten (Nat.zero_le _) h

/-! ## A session -/

def values (sends : List Send) : List (List UInt8) := sends.flatMap Send.values

def seen (sends : List Send) : List (List Char) := (onNotifications [] (values sends)).1

lemma lineBuf_empty {sends : List Send} (h : ∀ s ∈ sends, s.Succeeds) :
    (onNotifications [] (values sends)).2 = [] := by
  rw [onNotifications_eq, receive_eq_cut not_mem_nil, nil_append]
  rcases eq_nil_or_concat sends with rfl | ⟨pre, s, rfl⟩
  · rfl
  · have hs : s.Succeeds := h s (by simp)
    obtain ⟨out, hout⟩ := decode_pieces_newline hs.flatten
    rw [concat_eq_append, values, flatMap_append, flatMap_singleton,
      map_append, flatten_append, hout, ← append_assoc]
    exact cut_closed _

lemma seen_append {pre : List Send} (h : ∀ s ∈ pre, s.Succeeds) (post : List Send) :
    seen (pre ++ post) = seen pre ++ seen post := by
  have hempty := lineBuf_empty h
  have hvalues : values (pre ++ post) = values pre ++ values post := flatMap_append
  rw [onNotifications_eq, receive_eq_cut not_mem_nil, nil_append] at hempty
  rw [seen, seen, seen, hvalues, onNotifications_eq, onNotifications_eq, onNotifications_eq,
    map_append, receive_eq_cut not_mem_nil, receive_eq_cut not_mem_nil,
    receive_eq_cut not_mem_nil, nil_append, nil_append, nil_append,
    flatten_append, cut_append, hempty, nil_append]

lemma seen_clean {s : Send} {text : List Char} (hjson : s.json = encode text)
    (htext : '\n' ∉ text) (hsent : s.Succeeds) (hclean : s.CutsClean) : seen [s] = [text] := by
  have hflat : s.values.flatten = encode (text ++ ['\n']) := by
    rw [hsent.flatten, hjson, encode, encode, flatMap_append]
    rfl
  have hvalues : values [s] = s.values := flatMap_singleton Send.values s
  rw [seen, hvalues, onNotifications_eq, receive_eq_cut not_mem_nil, nil_append,
    decode_pieces hflat hclean, cut_line htext, cut_open not_mem_nil]

/-- **Lines arrive intact where the cuts are clean**: if no notification of a text starts inside
of a character or with a byte order mark, the client sees the text as a line of its own. -/
theorem line_arrives (pre post : List Send) (s : Send) (text : List Char)
    (hjson : s.json = encode text) (htext : '\n' ∉ text)
    (hsent : ∀ x ∈ pre ++ s :: post, x.Succeeds) (hclean : s.CutsClean) :
    seen (pre ++ s :: post) = seen pre ++ text :: seen post := by
  have hpre : ∀ x ∈ pre, x.Succeeds := fun x hx => hsent x (mem_append_left _ hx)
  have hs : s.Succeeds := hsent s (mem_append_right _ mem_cons_self)
  have hone : ∀ x ∈ [s], x.Succeeds := fun x hx => mem_singleton.1 hx ▸ hs
  rw [seen_append hpre, ← singleton_append, seen_append hone, seen_clean hjson htext hs hclean,
    singleton_append]

/-! ## Two texts -/

def sent (mtu : UInt16) (text : List Char) : Send :=
  ⟨⟨true, true, true, mtu⟩, fun _ => [.no_mbuf, .notified BLE_HS_ENOMEM, .notified 0], encode text⟩

def accented : List Char :=
  ['{', '"', 'n', '"', ':', '"'] ++ List.replicate 13 'a' ++ ['é', '"', '}']

/-- Over an MTU of 23 a cut character comes as U+FFFD, and a byte order mark at a cut is gone. -/
theorem cut_character_lost :
    (sent 23 accented).Succeeds ∧ '\n' ∉ accented ∧
      seen [sent 23 accented] =
        [['{', '"', 'n', '"', ':', '"'] ++ List.replicate 13 'a' ++ ['\uFFFD', '"', '}']] ∧
      seen [sent 23 accented] ≠ [accented] ∧
    (sent 23 (List.replicate 20 'a' ++ ['\uFEFF', 'b'])).Succeeds ∧
      seen [sent 23 (List.replicate 20 'a' ++ ['\uFEFF', 'b'])] =
        [List.replicate 20 'a' ++ ['b']] := by
  decide

theorem line_arrives_accented :
    seen [sent 23 accented, sent 24 accented, sent 23 ['{', '}']] =
      seen [sent 23 accented] ++ accented :: seen [sent 23 ['{', '}']] :=
  line_arrives [sent 23 accented] [sent 23 ['{', '}']] (sent 24 accented) accented rfl
    (by decide +kernel) (by decide +kernel) (by decide +kernel)

end BrambleMesh.BleLines
