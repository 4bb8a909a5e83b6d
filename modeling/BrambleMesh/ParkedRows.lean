/-
Parked rows of the message ring: components/msg_store/msg_store.c, main/mesh_task.c
(`sweep_parked_messages`). A QUEUED row takes no status but DELIVERED; the sweep goes round the
peers by address (`Lib.Cyclic`).
-/
import BrambleMesh.Lib.Cyclic
import BrambleMesh.SendTasks

namespace BrambleMesh.ParkedRows

open MsgStore MsgPersist Cyclic List

/-! ## Rows stay parked -/

inductive Op
  | add (malloc_ok : Bool) (m : NewMsg)
  | status (e : StatusEvent)
deriving DecidableEq

def operate (cfg : Config) (dev : Dev) : Op → Dev
  | .add malloc_ok m => msg_store_add_full cfg dev malloc_ok m
  | .status e => change dev e

def Op.shift : Op → ℕ
  | .add .. => 1
  | .status _ => 0

structure Parked (row row' : StoredMsg) : Prop where
  status : row'.status = .QUEUED
  uid : row'.uid = row.uid
  text : row'.text = row.text
  peer_addr : row'.peer_addr = row.peer_addr
  timestamp_s : row'.timestamp_s = row.timestamp_s

def Resolves (cap k : ℕ) (row : StoredMsg) : Op → Prop
  | .add .. => cap ≤ k + 1
  | .status (.update_status packet_id status _) =>
    status = .DELIVERED ∧ packet_id = row.packet_id
  | .status (.update_by_uid uid _ status) => status = .DELIVERED ∧ uid = row.uid
  | .status (.unpark uid) => uid = row.uid
  | .status (.expire_parked now_s) => overdue now_s row

variable {cfg : Config} {dev : Dev} {k i : ℕ} {row r : StoredMsg}

lemma parked_refl (hq : row.status = .QUEUED) : Parked row row := ⟨hq, rfl, rfl, rfl, rfl⟩

lemma Parked.trans {row₁ row₂ : StoredMsg} (h : Parked row row₁) (h' : Parked row₁ row₂) :
    Parked row row₂ :=
  ⟨h'.status, h'.uid.trans h.uid, h'.text.trans h.text, h'.peer_addr.trans h.peer_addr,
    h'.timestamp_s.trans h.timestamp_s⟩

lemma parked_write_row {changed : Bool} (hk : dev.store.rows[k]? = some row)
    (hq : row.status = .QUEUED) (hi : i = k → Parked row r) :
    ∃ row', (write_row dev i r changed).store.rows[k]? = some row' ∧ Parked row row' := by
  unfold write_row
  by_cases hik : i = k
  · subst hik
    exact ⟨r, List.getElem?_set_self (List.getElem?_eq_some_iff.1 hk).1, hi rfl⟩
  · exact ⟨row, by rw [List.getElem?_set_ne hik, hk], parked_refl hq⟩

lemma with_status_of_sticky {status : MsgStatus} (hq : row.status = .QUEUED)
    (hs : status ≠ .DELIVERED) : with_status row status = row := by
  rw [with_status]
  simp [sticky, hq, hs]

lemma parked_rewrite {e : StatusEvent} (hq : row.status = .QUEUED) (hhits : e.hits row)
    (hres : ¬ Resolves cfg.cap k row (.status e)) : Parked row (e.rewrite row) := by
  cases e with
  | update_status packet_id status route_hops =>
    have hsame := with_status_of_sticky hq fun hs => hres ⟨hs, (beq_iff_eq.1 hhits).symm⟩
    rw [StatusEvent.rewrite, hsame]
    split_ifs <;> exact ⟨hq, rfl, rfl, rfl, rfl⟩
  | update_by_uid uid packet_id status =>
    have hsame := with_status_of_sticky hq fun hs => hres ⟨hs, (beq_iff_eq.1 hhits).symm⟩
    rw [StatusEvent.rewrite, hsame]
    exact ⟨hq, rfl, rfl, rfl, rfl⟩
  | unpark uid => exact absurd (beq_iff_eq.1 hhits).symm hres
  | expire_parked now_s => exact absurd hhits hres

lemma parked_change (hk : dev.store.rows[k]? = some row) (hq : row.status = .QUEUED)
    (e : StatusEvent) (hres : ¬ Resolves cfg.cap k row (.status e)) :
    ∃ row', (change dev e).store.rows[k]? = some row' ∧ Parked row row' := by
  rcases change_cases dev e with ⟨now_s, rfl⟩ | hsame | ⟨i, r, changed, hi, hhits, -, hchange⟩
  · have hnot : ¬ overdue now_s row := hres
    refine ⟨row, ?_, parked_refl hq⟩
    rw [change, rows_expire_parked, getElem?_map, hk, Option.map_some, expired, if_neg hnot]
  · rw [hsame]
    exact ⟨row, hk, parked_refl hq⟩
  · rw [hchange]
    apply parked_write_row hk hq
    rintro rfl
    -- the row found is this one
    obtain rfl := Option.some.inj (hk.symm.trans hi)
    exact parked_rewrite hq hhits hres

lemma parked_operate (hk : dev.store.rows[k]? = some row) (hq : row.status = .QUEUED) (op : Op)
    (hres : ¬ Resolves cfg.cap k row op) :
    ∃ row', (operate cfg dev op).store.rows[k + op.shift]? = some row' ∧ Parked row row' := by
  cases op with
  | status e => exact parked_change hk hq e hres
  | add malloc_ok m =>
    refine ⟨row, ?_, parked_refl hq⟩
    have hlt : k + 1 < cfg.cap := not_le.1 hres
    rw [operate, MsgPersist.msg_store_add_full]
    simp only [MsgPersist.push, Op.shift, getElem?_take_of_lt hlt, getElem?_cons_succ,
      rows_take_uid, hk]

def shifts (ops : List Op) : ℕ := (ops.map Op.shift).sum

lemma parked_run (cfg : Config) (ops : List Op) :
    ∀ (dev : Dev) (k : ℕ) (row : StoredMsg), dev.store.rows[k]? = some row →
      row.status = .QUEUED →
      (∃ row', (ops.foldl (operate cfg) dev).store.rows[k + shifts ops]? = some row' ∧
        Parked row row') ∨
      ∃ before op after row', ops = before ++ op :: after ∧
        (before.foldl (operate cfg) dev).store.rows[k + shifts before]? = some row' ∧
        Parked row row' ∧ Resolves cfg.cap (k + shifts before) row' op := by
  induction ops with
  | nil => exact fun dev k row hk hq => .inl ⟨row, hk, parked_refl hq⟩
  | cons op ops ih =>
    intro dev k row hk hq
    by_cases hres : Resolves cfg.cap k row op
    · exact .inr ⟨[], op, ops, row, rfl, hk, parked_refl hq, hres⟩
    · obtain ⟨row₁, hk₁, h₁⟩ := parked_operate hk hq op hres
      have hshift : ∀ ops, k + op.shift + shifts ops = k + shifts (op :: ops) := by
        intro ops
        rw [shifts, shifts, map_cons, sum_cons, Nat.add_assoc]
      rcases ih _ _ row₁ hk₁ h₁.status with
        ⟨row', hk', h'⟩ | ⟨before, op', after, row', rfl, hk', h'⟩
      · exact .inl ⟨row', hshift ops ▸ hk', h₁.trans h'⟩
      · refine .inr ⟨op :: before, op', after, row', rfl, ?_, h₁.trans h'.1, ?_⟩
        · rw [← hshift]
          exact hk'
        · rw [← hshift]
          exact h'.2

lemma past_park_window_iff {now_s : UInt32} : past_park_window r now_s ↔
    r.timestamp_s ≤ now_s ∧ MSG_STORE_PARK_TTL_S < now_s - r.timestamp_s := by
  rw [past_park_window]
  split_ifs with hlt
  · exact ⟨False.elim, fun h => absurd hlt (UInt32.not_lt.2 h.1)⟩
  · rw [decide_eq_true_eq]
    exact ⟨fun h => ⟨UInt32.not_lt.1 hlt, h⟩, fun h => h.2⟩

def Op.IsReport : Op → Prop
  | .status (.update_status _ s _) => s ≠ .DELIVERED
  | .status (.update_by_uid _ _ s) => s ≠ .DELIVERED
  | _ => False

/-- **Parked messages stay parked until resolved.**  Whatever the store does, a QUEUED row keeps
status, uid, text, peer and stored time until a delivery is reported for its uid or the packet id
it then has, the user unparks it, it expires or the ring overwrites it; reports of anything else
never move it; and expiry gives up exactly the parked outgoing direct messages past the window. -/
theorem parked_until_resolved (cfg : Config) (dev : Dev) (ops : List Op) (k : ℕ) (row : StoredMsg)
    (hk : dev.store.rows[k]? = some row) (hq : row.status = .QUEUED) :
    ((∃ row', (ops.foldl (operate cfg) dev).store.rows[k + shifts ops]? = some row' ∧
        Parked row row') ∨
      ∃ before op after row', ops = before ++ op :: after ∧
        (before.foldl (operate cfg) dev).store.rows[k + shifts before]? = some row' ∧
        Parked row row' ∧ Resolves cfg.cap (k + shifts before) row' op) ∧
    ((∀ op ∈ ops, op.IsReport) → ∃ row',
      (ops.foldl (operate cfg) dev).store.rows[k]? = some row' ∧ Parked row row') ∧
    ∀ now_s, (msg_store_expire_parked dev now_s).1.store.rows =
      dev.store.rows.map fun r =>
        if r.direction = .OUTGOING ∧ r.channel_index < 0 ∧ r.status = .QUEUED ∧ r.uid ≠ 0 ∧
            r.timestamp_s ≤ now_s ∧ MSG_STORE_PARK_TTL_S < now_s - r.timestamp_s then
          { r with status := .FAILED }
        else r := by
  have hrun := parked_run cfg ops dev k row hk hq
  refine ⟨hrun, fun hreports => ?_, fun now_s => ?_⟩
  · have hzero : ∀ op ∈ ops, op.shift = 0 := by
      intro op hop
      have hop := hreports op hop
      cases op with
      | add => cases hop
      | status => rfl
    have hsum : shifts ops = 0 := by
      apply sum_eq_zero
      intro n hn
      obtain ⟨op, hop, rfl⟩ := mem_map.1 hn
      exact hzero op hop
    rcases hrun with hkept | ⟨before, op, after, row', rfl, -, -, hres⟩
    · rwa [hsum] at hkept
    · have hop := hreports op (by simp)
      cases op with
      | add => cases hop
      | status e =>
        cases e with
        | update_status => exact absurd hres.1 hop
        | update_by_uid => exact absurd hres.1 hop
        | unpark => cases hop
        | expire_parked => cases hop
  · rw [rows_expire_parked]
    apply map_congr_left
    intro r _
    apply if_congr _ rfl rfl
    simp only [overdue, is_parked_dm, Bool.and_eq_true, beq_iff_eq, bne_iff_ne, decide_eq_true_eq,
      and_assoc, past_park_window_iff]

def small : Config := ⟨20, ⟨.lfs, 100, 50⟩⟩

def parked_dev : Dev :=
  msg_store_add_full small (msg_store_init_with_persistence small .blank) true
    ⟨2, .OUTGOING, [104, 105], ⟨0, 0, 100⟩, 9, .QUEUED, -1, 7⟩

def parked_row : StoredMsg := ⟨2, 7, .OUTGOING, .QUEUED, 9, 100, 0, 0, -1, [], [104, 105]⟩

def failures : List Op :=
  [.status (.update_status 9 .FAILED []), .status (.update_by_uid 7 11 .SENT)]

lemma failures_reports : ∀ op ∈ failures, op.IsReport := by
  intro op hop
  rcases mem_pair.1 hop with rfl | rfl
  · exact (by decide : MsgStatus.FAILED ≠ .DELIVERED)
  · exact (by decide : MsgStatus.SENT ≠ .DELIVERED)

theorem parked_until_resolved_failures :
    ∃ row', (failures.foldl (operate small) parked_dev).store.rows[0]? = some row' ∧
      Parked parked_row row' :=
  (parked_until_resolved small parked_dev failures 0 parked_row rfl rfl).2.1 failures_reports

/-! ## The sweep -/

def live (now_s : UInt32) (m : StoredMsg) : Bool := is_parked_dm m && !past_park_window m now_s

def lower (best : Option UInt32) (a : UInt32) : Option UInt32 :=
  match best with
  | none => some a
  | some b => if a < b then some a else some b

def scan_row (after_peer_addr now_s : UInt32) (s : Option UInt32 × Option UInt32) (m : StoredMsg) :
    Option UInt32 × Option UInt32 :=
  if !is_parked_dm m || past_park_window m now_s then s
  else (lower s.1 m.peer_addr, if m.peer_addr > after_peer_addr then lower s.2 m.peer_addr else s.2)

def msg_store_next_parked_peer (dev : Dev) (after_peer_addr now_s : UInt32) : Option UInt32 :=
  let (lowest, next_above) :=
    dev.store.rows.reverse.foldl (scan_row after_peer_addr now_s) (none, none)
  lowest.map fun l => next_above.getD l

def parked_uids (dev : Dev) (peer_addr : UInt32) (max_out : ℕ) (now_s : UInt32) : List UInt32 :=
  dev.store.rows.reverse.foldl
    (fun out m =>
      if out.length ≥ max_out then out
      else if !is_parked_dm m || m.peer_addr != peer_addr then out
      else if past_park_window m now_s then out
      else out ++ [m.uid])
    []

def live_peers (dev : Dev) (now_s : UInt32) : Finset UInt32 :=
  ((dev.store.rows.filter (live now_s)).map StoredMsg.peer_addr).toFinset

lemma lower_spec (l : List UInt32) : ∀ best : Option UInt32,
    (l.foldl lower best = none → l = [] ∧ best = none) ∧
      ∀ b, l.foldl lower best = some b →
        (b ∈ l ∨ best = some b) ∧ (∀ c ∈ l, b ≤ c) ∧ ∀ c, best = some c → b ≤ c := by
  induction l with
  | nil =>
    intro best
    refine ⟨fun h => ⟨rfl, h⟩, fun b h => ⟨.inr h, fun c hc => absurd hc not_mem_nil, ?_⟩⟩
    intro c hc
    rw [Option.some.inj (h.symm.trans hc)]
    exact UInt32.le_refl c
  | cons a l ih =>
    intro best
    obtain ⟨hnone, hsome⟩ := ih (lower best a)
    -- the step keeps the lower of the two
    obtain ⟨d, hd, hda, hdb, hdd⟩ : ∃ d, lower best a = some d ∧ d ≤ a ∧
        (∀ c, best = some c → d ≤ c) ∧ (d = a ∨ best = some d) := by
      rcases best with _ | b
      · exact ⟨a, rfl, UInt32.le_refl a, fun c hc => absurd hc.symm (Option.some_ne_none c),
          .inl rfl⟩
      · rw [lower]
        split_ifs with hlt
        · refine ⟨a, rfl, UInt32.le_refl a, fun c hc => ?_, .inl rfl⟩
          rw [← Option.some.inj hc]
          exact UInt32.le_of_lt hlt
        · refine ⟨b, rfl, UInt32.not_lt.1 hlt, fun c hc => ?_, .inr rfl⟩
          rw [Option.some.inj hc]
          exact UInt32.le_refl c
    refine ⟨fun h => ?_, fun b h => ?_⟩
    · rw [(hnone h).2] at hd
      cases hd
    · obtain ⟨hmem, hl, hbest⟩ := hsome b h
      have hbd := hbest d hd
      refine ⟨?_, ?_, fun c hc => UInt32.le_trans hbd (hdb c hc)⟩
      · rcases hmem with hmem | hmem
        · exact .inl (mem_cons_of_mem a hmem)
        · rw [hd, Option.some.injEq] at hmem
          rw [← hmem]
          rcases hdd with rfl | hdd
          · exact .inl mem_cons_self
          · exact .inr hdd
      · intro c hc
        rcases mem_cons.1 hc with rfl | hc
        · exact UInt32.le_trans hbd hda
        · exact hl c hc

lemma scan_rows (after_peer_addr now_s : UInt32) (rows : List StoredMsg) :
    ∀ s : Option UInt32 × Option UInt32,
      rows.foldl (scan_row after_peer_addr now_s) s =
        let peers := (rows.filter (live now_s)).map StoredMsg.peer_addr
        (peers.foldl lower s.1, (peers.filter fun a => a > after_peer_addr).foldl lower s.2) := by
  induction rows with
  | nil => exact fun s => rfl
  | cons m rows ih =>
    intro s
    rw [foldl_cons, ih, scan_row]
    by_cases hlive : live now_s m
    · have hcond : (!is_parked_dm m || past_park_window m now_s) = false := by
        simpa [live] using hlive
      rw [hcond, if_neg Bool.false_ne_true, filter_cons_of_pos hlive]
      dsimp only
      rw [map_cons, foldl_cons, filter_cons]
      by_cases habove : m.peer_addr > after_peer_addr
      · simp only [habove, decide_true, if_true, foldl_cons]
      · simp only [habove, decide_false, if_false, Bool.false_eq_true]
    · have hcond : (!is_parked_dm m || past_park_window m now_s) := by
        simpa [live, imp_iff_not_or] using hlive
      rw [hcond, if_pos rfl, filter_cons_of_neg hlive]

lemma mem_live_peers (dev : Dev) (now_s a : UInt32) :
    a ∈ (dev.store.rows.reverse.filter (live now_s)).map StoredMsg.peer_addr ↔
      a ∈ live_peers dev now_s := by
  rw [live_peers, mem_toFinset, filter_reverse, map_reverse, mem_reverse]

def numbers (s : Finset UInt32) : Finset ℕ := s.image UInt32.toNat

lemma next_parked_peer_isNext (dev : Dev) (after_peer_addr now_s : UInt32)
    (hne : (live_peers dev now_s).Nonempty) :
    ∃ b, msg_store_next_parked_peer dev after_peer_addr now_s = some b ∧
      IsNext (numbers (live_peers dev now_s)) after_peer_addr.toNat b.toNat := by
  unfold msg_store_next_parked_peer
  rw [scan_rows]
  dsimp only
  have hmem := mem_live_peers dev now_s
  generalize (dev.store.rows.reverse.filter (live now_s)).map StoredMsg.peer_addr = peers at hmem ⊢
  obtain ⟨hnone, hsome⟩ := lower_spec peers none
  obtain ⟨hnone', hsome'⟩ := lower_spec (peers.filter fun a => a > after_peer_addr) none
  rcases hlow : peers.foldl lower none with _ | low
  · obtain ⟨a, ha⟩ := hne
    rw [← hmem, (hnone hlow).1] at ha
    cases ha
  obtain ⟨hlowmem, hlowle, -⟩ := hsome low hlow
  have hlowmem := hlowmem.resolve_right (Option.some_ne_none low).symm
  rcases habove : (peers.filter fun a => a > after_peer_addr).foldl lower none with _ | above
  · -- nothing above the cursor: the least of all
    have hall : ∀ n ∈ numbers (live_peers dev now_s), n ≤ after_peer_addr.toNat := by
      intro n hn
      obtain ⟨c, hc, rfl⟩ := Finset.mem_image.1 hn
      have hnot := filter_eq_nil_iff.1 (hnone' habove).1 c ((hmem c).2 hc)
      rw [decide_eq_true_eq] at hnot
      exact UInt32.le_iff_toNat_le.1 (UInt32.not_lt.1 hnot)
    refine ⟨low, rfl, Finset.mem_image.2 ⟨low, (hmem low).1 hlowmem, rfl⟩, .inr hall, ?_⟩
    intro n hn _
    obtain ⟨c, hc, rfl⟩ := Finset.mem_image.1 hn
    exact UInt32.le_iff_toNat_le.1 (hlowle c ((hmem c).2 hc))
  · obtain ⟨hmem', hle', -⟩ := hsome' above habove
    have hmem' := mem_filter.1 (hmem'.resolve_right (Option.some_ne_none above).symm)
    have hgt := UInt32.lt_iff_toNat_lt.1 (of_decide_eq_true hmem'.2)
    have hin : above.toNat ∈ numbers (live_peers dev now_s) :=
      Finset.mem_image.2 ⟨above, (hmem above).1 hmem'.1, rfl⟩
    refine ⟨above, rfl, hin, .inl hgt, ?_⟩
    intro n hn hcond
    obtain ⟨c, hc, rfl⟩ := Finset.mem_image.1 hn
    rcases hcond with hc' | hall
    · apply UInt32.le_iff_toNat_le.1
      apply hle' c
      exact mem_filter.2 ⟨(hmem c).2 hc, decide_eq_true (UInt32.lt_iff_toNat_lt.2 hc')⟩
    · exact absurd (hall _ hin) (not_le.2 hgt)

lemma parked_uids_eq {dev : Dev} {peer_addr now_s : UInt32} {max_out : ℕ}
    (hlen : dev.store.rows.length ≤ max_out) :
    parked_uids dev peer_addr max_out now_s =
      (dev.store.rows.reverse.filter fun m => live now_s m && m.peer_addr == peer_addr).map
        StoredMsg.uid := by
  unfold parked_uids
  rw [← length_reverse] at hlen
  generalize dev.store.rows.reverse = rows at hlen ⊢
  induction rows using List.reverseRecOn with
  | nil => rfl
  | append_singleton rows m ih =>
    rw [length_append, length_singleton] at hlen
    rw [foldl_append, foldl_cons, ih (by omega), filter_append]
    have hshort : ¬ ((rows.filter fun m => live now_s m && m.peer_addr == peer_addr).map
        StoredMsg.uid).length ≥ max_out := by
      have hle := length_filter_le (fun m => live now_s m && m.peer_addr == peer_addr) rows
      rw [length_map]
      omega
    rw [if_neg hshort, filter_singleton, live]
    cases is_parked_dm m
    · simp
    cases past_park_window m now_s
    · cases hpeer : m.peer_addr == peer_addr
      · simp [hpeer, bne]
      · simp [hpeer, bne]
    · simp

def cursor (dev : ℕ → Dev) (now_s : ℕ → UInt32) (start : UInt32) : ℕ → UInt32
  | 0 => start
  | i + 1 =>
    (msg_store_next_parked_peer (dev i) (cursor dev now_s start i) (now_s i)).getD
      (cursor dev now_s start i)

/-- **The parked sweep is fair.**  While the set of peers with live parked messages stays the same,
whatever else the ring does, every call returns a peer, and from any cursor each peer is returned
once in every as many calls as there are peers; and what is listed for a peer are its live parked
messages, oldest first. -/
theorem parked_sweep_fair (dev : ℕ → Dev) (now_s : ℕ → UInt32) (start : UInt32)
    (peers : Finset UInt32) (hne : peers.Nonempty) (cap : ℕ)
    (hring : ∀ i, (dev i).store.rows.length ≤ cap)
    (hpeers : ∀ i, live_peers (dev i) (now_s i) = peers) :
    let x := cursor dev now_s start
    (∀ i, msg_store_next_parked_peer (dev i) (x i) (now_s i) = some (x (i + 1)) ∧
      x (i + 1) ∈ peers) ∧
    (∀ m, ∀ p ∈ peers, ∃! j, j < peers.card ∧ x (m + 1 + j) = p) ∧
    ∀ i peer_addr, parked_uids (dev i) peer_addr cap (now_s i) =
      ((dev i).store.rows.reverse.filter fun r =>
        live (now_s i) r && r.peer_addr == peer_addr).map StoredMsg.uid := by
  intro x
  have hcall : ∀ i, msg_store_next_parked_peer (dev i) (x i) (now_s i) = some (x (i + 1)) ∧
      IsNext (numbers peers) (x i).toNat (x (i + 1)).toNat := by
    intro i
    obtain ⟨b, hb, hnext⟩ := next_parked_peer_isNext (dev i) (x i) (now_s i)
      (by rw [hpeers i]; exact hne)
    have hstep : x (i + 1) = b := by
      show (msg_store_next_parked_peer (dev i) (x i) (now_s i)).getD (x i) = b
      rw [hb, Option.getD_some]
    rw [hpeers i] at hnext
    rw [hstep]
    exact ⟨hb, hnext⟩
  have hinj : Function.Injective UInt32.toNat := fun a b h => UInt32.toNat_inj.1 h
  have hcard : (numbers peers).card = peers.card := Finset.card_image_of_injective _ hinj
  refine ⟨fun i => ⟨(hcall i).1, ?_⟩, fun m p hp => ?_, fun i peer_addr => parked_uids_eq (hring i)⟩
  · obtain ⟨a, ha, heq⟩ := Finset.mem_image.1 (hcall i).2.mem
    rw [← hinj heq]
    exact ha
  · have honce := visits_once (x := fun i => (x i).toNat) (fun i => (hcall i).2) m
      (Finset.mem_image_of_mem _ hp)
    rw [hcard] at honce
    simpa only [hinj.eq_iff] using honce

def two_parked : Dev :=
  msg_store_add_full small parked_dev true
    ⟨5, .OUTGOING, [104, 105], ⟨0, 0, 100⟩, 10, .QUEUED, -1, 8⟩

theorem parked_sweep_fair_two : ∃! j, j < 2 ∧
    cursor (fun _ => two_parked) (fun _ => 100) 0xFFFFFFFF (0 + 1 + j) = 5 :=
  (parked_sweep_fair (fun _ => two_parked) (fun _ => 100) 0xFFFFFFFF {2, 5} ⟨2, by decide⟩ 20
    (fun _ => by decide) (fun _ => by decide +kernel)).2.1 0 5 (by decide)

end BrambleMesh.ParkedRows
