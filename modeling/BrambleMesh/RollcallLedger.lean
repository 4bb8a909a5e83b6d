/-
The ledger of a roll-call is evidence: a partial function from addresses to the time and the round
of an answer (`recorded`). All of it follows from what one event can do to the rows (`RowStep`).
-/
import BrambleMesh.Rollcall

namespace BrambleMesh.RollcallLedger

open Run Bytes IdentityStore Rollcall List Option

/-! ## What the ledger says -/

def recorded (l : Ledger) (addr : UInt32) : Option (UInt32 × UInt8) :=
  (rollcall_ledger_find l addr).bind Entry.answer

structure Attests (cfg : Config) (n : Node) (resp : Response) : Prop where
  collecting : n.ledger.active ∧ n.ledger.is_open
  this_call : resp.rollcall_id = n.ledger.rollcall_id
  signed : ∃ pin, identity_store_lookup n.pins resp.responder_addr = some pin ∧
    cfg.crypto.ed25519_verify pin.ed25519_pub
      (rollcall_signed_msg n.ledger.rollcall_id cfg.address resp.responder_addr) resp.sig

def FullOfOthers (l : Ledger) (addr : UInt32) : Prop :=
  l.entries.length = ROLLCALL_MAX_RESPONDERS ∧
    ∀ e ∈ l.entries, e.responded ∧ e.addr ≠ addr
deriving Decidable

def Evidenced (cfg : Config) (pins : Store) (es : List Event) (addr : UInt32)
    (x : UInt32 × UInt8) : Prop :=
  ∃ pre data post resp, es = pre ++ .response addr data x.1 :: post ∧
    rollcall_response_decode data = some resp ∧ resp.responder_addr = addr ∧ resp.round = x.2 ∧
    Attests cfg (pre.foldl (step cfg) (boot pins)) resp ∧
    Meets (step cfg) (fun n ev => starts cfg n ev = false) (pre.foldl (step cfg) (boot pins))
      (.response addr data x.1 :: post)

/-! ## Writing a row -/

lemma answer_record_answer (now_ms : UInt32) (round : UInt8) (e : Entry) :
    (record_answer now_ms round e).answer = some (e.answer.getD (now_ms, round)) := by
  unfold record_answer Entry.answer
  split <;> rfl

lemma addr_record_answer (now_ms : UInt32) (round : UInt8) (e : Entry) :
    (record_answer now_ms round e).addr = e.addr := by
  unfold record_answer
  split <;> rfl

structure Written (es es' : List Entry) (addr : UInt32) (g : Entry → Entry) : Prop where
  bounded : es.length ≤ ROLLCALL_MAX_RESPONDERS → es'.length ≤ ROLLCALL_MAX_RESPONDERS
  split : ∃ pre old post base, es = pre ++ old ++ post ∧ es' = pre ++ g base :: post ∧
    base.addr = addr ∧ (∀ e ∈ pre, e.addr ≠ addr) ∧
    (old = [base] ∨ base = new_entry addr ∧ (∀ e ∈ es, e.addr ≠ addr) ∧
      ∀ e ∈ old, e.answer = none)

variable {es es' : List Entry} {i : ℕ} {addr : UInt32} {cfg : Config} {l l' : Ledger} {n : Node}
  {ev : Event} {x : UInt32 × UInt8}

lemma take_append_getElem_drop (hi : i < es.length) :
    es = es.take i ++ [es[i]] ++ es.drop (i + 1) := by
  rw [append_assoc, singleton_append, ← drop_eq_getElem_cons hi,
    take_append_drop]

lemma written_found (h : entry_find es addr = some i) (g : Entry → Entry) :
    Written es (es.modify i g) addr g := by
  obtain ⟨hi, hat, hbefore⟩ := findIdx?_eq_some_iff_getElem.1 h
  refine ⟨fun hle => by rwa [length_modify], es.take i, [es[i]], es.drop (i + 1), es[i],
    take_append_getElem_drop hi, modify_eq_take_cons_drop hi, beq_iff_eq.1 hat, ?_,
    .inl rfl⟩
  intro e he
  obtain ⟨j, hj, rfl⟩ := mem_take_iff_getElem.1 he
  have hne := hbefore j (by omega)
  simpa only [beq_iff_eq] using hne

lemma entry_find_none (h : entry_find es addr = none) :
    ∀ e ∈ es, e.addr ≠ addr := by
  intro e he
  have hne := findIdx?_eq_none_iff.1 h e he
  simpa only [beq_eq_false_iff_ne] using hne

lemma written_appended (habsent : ∀ e ∈ es, e.addr ≠ addr)
    (hroom : es.length < ROLLCALL_MAX_RESPONDERS) (g : Entry → Entry) :
    Written es ((es ++ [new_entry addr]).modify es.length g) addr g := by
  refine ⟨fun _ => ?_, es, [], [], new_entry addr, by simp, ?_, rfl, habsent,
    .inr ⟨rfl, habsent, fun e he => absurd he not_mem_nil⟩⟩
  · rw [length_modify, length_append, length_singleton]
    exact hroom
  · rw [modify_eq_take_cons_drop (by simp)]
    simp

lemma written_reclaimed (habsent : ∀ e ∈ es, e.addr ≠ addr)
    (hfree : (es.findIdx? fun e => !e.responded) = some i) (g : Entry → Entry) :
    Written es ((es.set i (new_entry addr)).modify i g) addr g := by
  obtain ⟨hi, hat, -⟩ := findIdx?_eq_some_iff_getElem.1 hfree
  refine ⟨fun hle => by rwa [length_modify, length_set], es.take i, [es[i]],
    es.drop (i + 1), new_entry addr, take_append_getElem_drop hi, ?_, rfl,
    fun e he => habsent e (mem_of_mem_take he), .inr ⟨rfl, habsent, ?_⟩⟩
  · have hi' : i < (es.set i (new_entry addr)).length := by rwa [length_set]
    rw [modify_eq_take_cons_drop hi', take_set_of_le (le_refl i),
      drop_set_of_lt (Nat.lt_succ_self i), getElem_set_self]
  · intro e he
    rw [mem_singleton.1 he, Entry.answer, if_neg]
    rw [Bool.not_eq_true'] at hat
    rw [hat]
    exact Bool.false_ne_true

lemma written_upsert {for_response : Bool}
    (h : entry_upsert es addr for_response = some (es', i)) (g : Entry → Entry) :
    Written es (es'.modify i g) addr g := by
  unfold entry_upsert at h
  rcases hfind : entry_find es addr with _ | k
  · have habsent := entry_find_none hfind
    rw [hfind] at h
    split_ifs at h with hroom
    · cases h
      exact written_appended habsent hroom g
    · rcases hfree : es.findIdx? (fun e => !e.responded) with _ | k
      · rw [hfree] at h
        cases h
      · rw [hfree] at h
        cases h
        exact written_reclaimed habsent hfree g
  · rw [hfind] at h
    cases h
    exact written_found hfind g

lemma upsert_none (h : entry_upsert es addr true = none) :
    ROLLCALL_MAX_RESPONDERS ≤ es.length ∧ ∀ e ∈ es, e.responded ∧ e.addr ≠ addr := by
  unfold entry_upsert at h
  rcases hfind : entry_find es addr with _ | k
  · rw [hfind] at h
    split_ifs at h with hroom hpath
    · cases hpath
    rcases hfree : es.findIdx? (fun e => !e.responded) with _ | k
    · refine ⟨by omega, fun e he => ⟨?_, entry_find_none hfind e he⟩⟩
      have hans := findIdx?_eq_none_iff.1 hfree e he
      simpa only [Bool.not_eq_false'] using hans
    · rw [hfree] at h
      cases h
  · rw [hfind] at h
    cases h

section

variable {es es' : List Entry} {addr : UInt32} {g : Entry → Entry}

lemma Written.find_self (h : Written es es' addr g) (haddr : ∀ e, (g e).addr = e.addr) :
    ∃ base, es'.find? (fun e => e.addr == addr) = some (g base) ∧
      (es.find? (fun e => e.addr == addr) = none ∨
        es.find? (fun e => e.addr == addr) = some base) := by
  obtain ⟨pre, old, post, base, hes, rfl, hbase, hpre, hold⟩ := h.split
  have hnone : pre.find? (fun e => e.addr == addr) = none := by
    simpa only [find?_eq_none, beq_iff_eq] using hpre
  refine ⟨base, ?_, ?_⟩
  · rw [find?_append, hnone, none_or, find?_cons_of_pos]
    rw [haddr, hbase, beq_self_eq_true]
  · rcases hold with rfl | ⟨-, habsent, -⟩
    · right
      rw [hes, append_assoc, find?_append, hnone, none_or, singleton_append,
        find?_cons_of_pos]
      rw [hbase, beq_self_eq_true]
    · left
      simpa only [find?_eq_none, beq_iff_eq] using habsent

lemma Written.find_other (h : Written es es' addr g) (haddr : ∀ e, (g e).addr = e.addr)
    {b : UInt32} (hb : addr ≠ b) {e : Entry} (hfind : es.find? (fun e => e.addr == b) = some e)
    (hans : e.answer ≠ none) : es'.find? (fun e => e.addr == b) = some e := by
  obtain ⟨pre, old, post, base, rfl, rfl, hbase, -, hold⟩ := h.split
  have hskip : ∀ (x : Entry) (rest : List Entry), x.addr = addr →
      (x :: rest).find? (fun e => e.addr == b) = rest.find? (fun e => e.addr == b) := by
    intro x rest hx
    rw [find?_cons_of_neg]
    rwa [hx, beq_iff_eq]
  rw [append_assoc, find?_append, find?_append] at hfind
  rw [find?_append, hskip (g base) post ((haddr base).trans hbase)]
  -- the row that was replaced is not the one that is found
  have hgone : ∀ x, old.find? (fun e => e.addr == b) = some x → x.answer = none := by
    intro x hx
    rcases hold with rfl | ⟨-, -, hfree⟩
    · rw [hskip base [] hbase] at hx
      cases hx
    · exact hfree x (mem_of_find?_eq_some hx)
  revert hfind hgone
  generalize pre.find? (fun e => e.addr == b) = p
  generalize old.find? (fun e => e.addr == b) = o
  intro hfind hgone
  cases p with
  | some x => exact hfind
  | none =>
    cases o with
    | none => exact hfind
    | some x =>
      cases hfind
      exact absurd (hgone e rfl) hans

lemma Written.answer_kept (h : Written es es' addr g) (haddr : ∀ e, (g e).addr = e.addr)
    (hans : ∀ e x, e.answer = some x → (g e).answer = some x) {b : UInt32} {x : UInt32 × UInt8}
    (hx : (es.find? fun e => e.addr == b).bind Entry.answer = some x) :
    (es'.find? fun e => e.addr == b).bind Entry.answer = some x := by
  obtain ⟨e, hfind, hex⟩ := bind_eq_some_iff.1 hx
  by_cases hb : addr = b
  · subst hb
    obtain ⟨base, hself, hbase | hbase⟩ := h.find_self haddr
    · rw [hbase] at hfind
      cases hfind
    · rw [hbase] at hfind
      cases hfind
      rw [hself, bind_some]
      exact hans e x hex
  · have hother := h.find_other haddr hb hfind (by rw [hex]; exact some_ne_none x)
    rw [hother, bind_some, hex]

lemma Written.mem (h : Written es es' addr g) {e : Entry} (he : e ∈ es') :
    e ∈ es ∨ ∃ base, e = g base ∧ base.addr = addr ∧ (base ∈ es ∨ base.answer = none) := by
  obtain ⟨pre, old, post, base, hes, rfl, hbase, -, hold⟩ := h.split
  rcases mem_append.1 he with hpre | hrest
  · left
    simp [hes, hpre]
  · rcases mem_cons.1 hrest with rfl | hpost
    · refine .inr ⟨base, rfl, hbase, ?_⟩
      rcases hold with rfl | ⟨rfl, -, -⟩
      · left
        simp [hes]
      · exact .inr rfl
    · left
      simp [hes, hpost]

end

/-! ## What an event does -/

structure SameCall (l l' : Ledger) : Prop where
  active : l'.active = l.active
  rollcall_id : l'.rollcall_id = l.rollcall_id
  initiator_addr : l'.initiator_addr = l.initiator_addr
  expected : l'.expected = l.expected
  is_open : l'.is_open → l.is_open

lemma SameCall.refl (l : Ledger) : SameCall l l := ⟨rfl, rfl, rfl, rfl, id⟩

structure Inv (cfg : Config) (l : Ledger) : Prop where
  own : l.active → l.initiator_addr = cfg.address
  bounded : l.entries.length ≤ ROLLCALL_MAX_RESPONDERS
  expected : ∀ a ∈ l.expected, ¬ (a = 0 ∨ a = cfg.address)

inductive RowStep (cfg : Config) (n : Node) (ev : Event) : List Entry → Prop
  | same : RowStep cfg n ev n.ledger.entries
  | path {addr : UInt32} {relay_path : List UInt32} {es' : List Entry}
      (hopen : n.ledger.is_open)
      (hwrite : Written n.ledger.entries es' addr (record_path relay_path)) : RowStep cfg n ev es'
  | answer {addr now_ms : UInt32} {data : List UInt8} {resp : Response} {es' : List Entry}
      (hev : ev = .response addr data now_ms)
      (hdecode : rollcall_response_decode data = some resp) (haddr : resp.responder_addr = addr)
      (hattests : Attests cfg n resp)
      (hwrite : Written n.ledger.entries es' addr (record_answer now_ms resp.round)) :
      RowStep cfg n ev es'

lemma inv_init (cfg : Config) : Inv cfg rollcall_ledger_init :=
  ⟨fun h => absurd h Bool.false_ne_true, Nat.zero_le _, fun _ ha => absurd ha not_mem_nil⟩

lemma Inv.mono (h : Inv cfg l) (hcall : SameCall l l')
    (hlen : l'.entries.length ≤ ROLLCALL_MAX_RESPONDERS) : Inv cfg l' := by
  refine ⟨fun hact => ?_, hlen, ?_⟩
  · rw [hcall.initiator_addr]
    exact h.own (hcall.active ▸ hact)
  · rw [hcall.expected]
    exact h.expected

lemma note_round_sameCall (l : Ledger) (round : UInt8) (now_ms : UInt32) :
    SameCall l (rollcall_ledger_note_round l round now_ms) ∧
      (rollcall_ledger_note_round l round now_ms).entries = l.entries := by
  unfold rollcall_ledger_note_round
  split <;> exact ⟨⟨rfl, rfl, rfl, rfl, id⟩, rfl⟩

lemma maybe_close_sameCall (l : Ledger) (now_ms : UInt32) :
    SameCall l (rollcall_ledger_maybe_close l now_ms).1 ∧
      (rollcall_ledger_maybe_close l now_ms).1.entries = l.entries := by
  unfold rollcall_ledger_maybe_close
  split
  · exact ⟨.refl l, rfl⟩
  · split
    · exact ⟨.refl l, rfl⟩
    · exact ⟨⟨rfl, rfl, rfl, rfl, fun h => absurd h Bool.false_ne_true⟩, rfl⟩

lemma note_unattested_sameCall (l : Ledger) :
    SameCall l (rollcall_ledger_note_unattested l) ∧
      (rollcall_ledger_note_unattested l).entries = l.entries := by
  unfold rollcall_ledger_note_unattested
  split <;> exact ⟨⟨rfl, rfl, rfl, rfl, id⟩, rfl⟩

lemma send_round_ledger (n : Node) (round : UInt8) (pkt_id : UInt32) :
    (rollcall_send_round n round pkt_id).1.ledger = n.ledger := by
  unfold rollcall_send_round
  repeat' split
  all_goals rfl

lemma ledger_start_inv {id now_ms : UInt32} {text : List UInt8} {expected : List UInt32}
    {anchored : Bool}
    (h : rollcall_ledger_start id cfg.address now_ms text expected anchored = some l) :
    Inv cfg l ∧ l.entries = [] := by
  unfold rollcall_ledger_start at h
  split_ifs at h
  · cases h
    refine ⟨⟨fun _ => rfl, Nat.zero_le _, fun a ha => ?_⟩, rfl⟩
    have hkeep := (mem_filter.1 ha).2
    simpa only [Bool.not_eq_true', Bool.or_eq_false_iff, beq_eq_false_iff_ne, not_or] using hkeep
  · cases h
    exact ⟨⟨fun _ => rfl, Nat.zero_le _, fun a ha => absurd ha not_mem_nil⟩, rfl⟩

lemma start_cases (cfg : Config) (n : Node) (text : List UInt8) (id pkt_id now_ms : UInt32) :
    let r := mesh_rollcall_start cfg n text id pkt_id now_ms
    (r.2.replaced ∧ Inv cfg r.1.ledger ∧ r.1.ledger.entries = []) ∨
      (r.2.replaced = false ∧ r.1 = n) := by
  unfold mesh_rollcall_start
  split
  · exact .inr ⟨rfl, rfl⟩
  cases rollcall_rate_check n.rate (n.ledger.active && n.ledger.is_open) now_ms with
  | BUSY => exact .inr ⟨rfl, rfl⟩
  | RATE_LIMITED => exact .inr ⟨rfl, rfl⟩
  | OK =>
    dsimp only
    rcases hstart : rollcall_ledger_start (if id = 0 then 1 else id) cfg.address now_ms text
      (rollcall_collect_expected cfg n.pins) n.pins.has_anchor with _ | l
    · exact .inr ⟨rfl, rfl⟩
    · obtain ⟨hinv, hrows⟩ := ledger_start_inv hstart
      left
      dsimp only
      split
      · exact ⟨rfl, inv_init cfg, rfl⟩
      · rw [send_round_ledger]
        obtain ⟨hcall, hsame⟩ := note_round_sameCall l 1 now_ms
        refine ⟨rfl, hinv.mono hcall ?_, hsame.trans hrows⟩
        rw [hsame]
        exact hinv.bounded

lemma note_response_taken (round : UInt8) (now_ms : UInt32) (hactive : l.active)
    (hopen : l.is_open) (haddr : ¬ (addr = 0 ∨ addr = l.initiator_addr)) :
    Written l.entries (rollcall_ledger_note_response l l.rollcall_id addr round now_ms).1.entries
        addr (record_answer now_ms round) ∨
      ROLLCALL_MAX_RESPONDERS ≤ l.entries.length ∧
        ∀ e ∈ l.entries, e.responded ∧ e.addr ≠ addr := by
  unfold rollcall_ledger_note_response
  rw [if_neg (by simp [hactive]), if_neg (by simp), if_neg haddr, if_neg (by simp [hopen])]
  rcases hup : entry_upsert l.entries addr true with _ | ⟨es', i⟩
  · exact .inr (upsert_none hup)
  · exact .inl (written_upsert hup _)

def Notes (l l' : Ledger) (addr : UInt32) (g : Entry → Entry) : Prop :=
  SameCall l l' ∧
    (l'.entries = l.entries ∨ l.is_open ∧ Written l.entries l'.entries addr g)

lemma notes_refl (l : Ledger) (addr : UInt32) (g : Entry → Entry) : Notes l l addr g :=
  ⟨.refl l, .inl rfl⟩

lemma note_response_cases (l : Ledger) (call addr : UInt32) (round : UInt8) (now_ms : UInt32) :
    Notes l (rollcall_ledger_note_response l call addr round now_ms).1 addr
      (record_answer now_ms round) := by
  unfold rollcall_ledger_note_response
  split_ifs with _ _ _ hopen
  · exact notes_refl ..
  · exact notes_refl ..
  · exact notes_refl ..
  · exact ⟨⟨rfl, rfl, rfl, rfl, id⟩, .inl rfl⟩
  · rcases hup : entry_upsert l.entries addr true with _ | ⟨es', i⟩
    · exact ⟨⟨rfl, rfl, rfl, rfl, id⟩, .inl rfl⟩
    · exact ⟨⟨rfl, rfl, rfl, rfl, id⟩, .inr ⟨by simpa using hopen, written_upsert hup _⟩⟩

lemma note_path_cases (l : Ledger) (call addr : UInt32) (pinned : Bool)
    (relay_path : List UInt32) :
    Notes l (rollcall_ledger_note_path l call addr pinned relay_path).1 addr
      (record_path relay_path) := by
  unfold rollcall_ledger_note_path
  split_ifs with hopen _ _ hpinned
  · exact notes_refl ..
  · exact notes_refl ..
  · exact notes_refl ..
  all_goals
    simp only [Bool.or_eq_true, not_or, Bool.not_eq_true', Bool.not_eq_false] at hopen
  · rcases hup : entry_upsert l.entries addr false with _ | ⟨es', i⟩
    · exact notes_refl ..
    · exact ⟨⟨rfl, rfl, rfl, rfl, id⟩, .inr ⟨hopen.2, written_upsert hup _⟩⟩
  · rcases hfind : entry_find l.entries addr with _ | i
    · exact notes_refl ..
    · exact ⟨⟨rfl, rfl, rfl, rfl, id⟩, .inr ⟨hopen.2, written_found hfind _⟩⟩

def LedgerStep (cfg : Config) (n : Node) (ev : Event) (l' : Ledger) : Prop :=
  SameCall n.ledger l' ∧ RowStep cfg n ev l'.entries

lemma ledgerStep_kept (hcall : SameCall n.ledger l') (hrows : l'.entries = n.ledger.entries) :
    LedgerStep cfg n ev l' :=
  ⟨hcall, hrows ▸ .same⟩

lemma handle_response_cases (hinv : Inv cfg n.ledger) (src_addr : UInt32) (data : List UInt8)
    (now_ms : UInt32) :
    LedgerStep cfg n (.response src_addr data now_ms)
      (mesh_rollcall_handle_response cfg n src_addr data now_ms).ledger := by
  obtain ⟨hun, hunrows⟩ := note_unattested_sameCall n.ledger
  unfold mesh_rollcall_handle_response
  split
  · exact ledgerStep_kept (.refl _) rfl
  next hactive =>
  rcases hdecode : rollcall_response_decode data with _ | resp
  · exact ledgerStep_kept (.refl _) rfl
  dsimp only
  split_ifs with hcall haddr
  · exact ledgerStep_kept (.refl _) rfl
  · exact ledgerStep_kept hun hunrows
  rcases hpin : identity_store_lookup n.pins resp.responder_addr with _ | pin
  · exact ledgerStep_kept hun hunrows
  dsimp only
  split_ifs with hsig
  · exact ledgerStep_kept hun hunrows
  obtain ⟨hsame, hrows | ⟨hopen, hwrite⟩⟩ := note_response_cases n.ledger resp.rollcall_id
    resp.responder_addr resp.round now_ms
  · exact ledgerStep_kept hsame hrows
  · rw [not_not] at hcall haddr
    simp only [Bool.not_eq_true', Bool.not_eq_false] at hactive hsig
    rw [hcall, hinv.own hactive] at hsig
    subst haddr
    exact ⟨hsame, .answer rfl hdecode rfl ⟨⟨hactive, hopen⟩, hcall, pin, hpin, hsig⟩ hwrite⟩

lemma note_receipt_cases (cfg : Config) (n : Node) (addr orig : UInt32)
    (relay_path : List UInt32) :
    LedgerStep cfg n (.receipt addr orig relay_path)
      (mesh_rollcall_note_receipt cfg n addr orig relay_path).ledger := by
  unfold mesh_rollcall_note_receipt
  split_ifs
  · exact ledgerStep_kept (.refl _) rfl
  · exact ledgerStep_kept (.refl _) rfl
  obtain ⟨hsame, hrows | ⟨hopen, hwrite⟩⟩ := note_path_cases n.ledger n.ledger.rollcall_id addr
    (identity_store_lookup n.pins addr).isSome
    ((cfg.address :: relay_path.reverse).take ROLLCALL_PATH_MAX)
  · exact ledgerStep_kept hsame hrows
  · exact ⟨hsame, .path hopen hwrite⟩

lemma SameCall.trans {l'' : Ledger} (h : SameCall l l') (h' : SameCall l' l'') :
    SameCall l l'' :=
  ⟨h'.active.trans h.active, h'.rollcall_id.trans h.rollcall_id,
    h'.initiator_addr.trans h.initiator_addr, h'.expected.trans h.expected,
    fun ho => h.is_open (h'.is_open ho)⟩

lemma tick_cases (n : Node) (pkt_id t : UInt32) :
    SameCall n.ledger (mesh_rollcall_tick n pkt_id t).ledger ∧
      (mesh_rollcall_tick n pkt_id t).ledger.entries = n.ledger.entries := by
  unfold mesh_rollcall_tick
  dsimp only
  split_ifs
  · exact ⟨.refl _, rfl⟩
  · rw [send_round_ledger]
    obtain ⟨hround, hrows⟩ := note_round_sameCall n.ledger (n.ledger.rounds_sent + 1) t
    obtain ⟨hclose, hrows'⟩ := maybe_close_sameCall
      (rollcall_ledger_note_round n.ledger (n.ledger.rounds_sent + 1) t) t
    exact ⟨hround.trans hclose, hrows'.trans hrows⟩
  · exact maybe_close_sameCall n.ledger t

/-- **What an event can do.**  Unless it starts a roll-call the ledger stays that of the same call,
and its rows make one of the three steps. -/
theorem step_cases (hinv : Inv cfg n.ledger) (hno : starts cfg n ev = false) :
    LedgerStep cfg n ev (step cfg n ev).ledger := by
  cases ev with
  | start text next_packet_id pkt_id now_ms =>
    rcases start_cases cfg n text next_packet_id pkt_id now_ms with ⟨hyes, -⟩ | ⟨-, hsame⟩
    · rw [starts, hyes] at hno
      cases hno
    · rw [step, hsame]
      exact ⟨.refl _, .same⟩
  | response src_addr data now_ms => exact handle_response_cases hinv src_addr data now_ms
  | receipt addr orig relay_path => exact note_receipt_cases cfg n addr orig relay_path
  | tick pkt_id t =>
    obtain ⟨hcall, hrows⟩ := tick_cases n pkt_id t
    exact ledgerStep_kept hcall hrows
  | pins s => exact ⟨.refl _, .same⟩

lemma step_starts (hyes : starts cfg n ev) :
    Inv cfg (step cfg n ev).ledger ∧ (step cfg n ev).ledger.entries = [] := by
  cases ev with
  | start text next_packet_id pkt_id now_ms =>
    rcases start_cases cfg n text next_packet_id pkt_id now_ms with ⟨-, h⟩ | ⟨hno, -⟩
    · exact h
    · rw [starts, hno] at hyes
      cases hyes
  | response => cases hyes
  | receipt => cases hyes
  | tick => cases hyes
  | pins => cases hyes

/-! ## Runs -/

lemma RowStep.bounded (h : RowStep cfg n ev es')
    (hle : n.ledger.entries.length ≤ ROLLCALL_MAX_RESPONDERS) :
    es'.length ≤ ROLLCALL_MAX_RESPONDERS := by
  cases h with
  | same => exact hle
  | path _ hwrite => exact hwrite.bounded hle
  | answer _ _ _ _ hwrite => exact hwrite.bounded hle

lemma inv_step (n : Node) (ev : Event) (hinv : Inv cfg n.ledger) :
    Inv cfg (step cfg n ev).ledger := by
  rcases hst : starts cfg n ev with _ | _
  · obtain ⟨hcall, hrows⟩ := step_cases hinv hst
    exact hinv.mono hcall (hrows.bounded hinv.bounded)
  · exact (step_starts hst).1

lemma inv_run (hinv : Inv cfg n.ledger) (es : List Event) :
    Inv cfg (es.foldl (step cfg) n).ledger :=
  foldl_invariant (C := fun _ _ => True) (fun n ev h _ => inv_step n ev h)
    (meets_of_forall (fun _ _ _ => trivial) n) hinv

lemma recorded_eq (hactive : l.active) (addr : UInt32) :
    recorded l addr = (l.entries.find? fun e => e.addr == addr).bind Entry.answer := by
  rw [recorded, rollcall_ledger_find, hactive]
  rfl

lemma active_of_recorded (h : recorded l addr = some x) : l.active := by
  rcases hactive : l.active with _ | _
  · rw [recorded, rollcall_ledger_find, hactive] at h
    cases h
  · rfl

lemma RowStep.answer_kept (h : RowStep cfg n ev es') {b : UInt32}
    (hx : (n.ledger.entries.find? fun e => e.addr == b).bind Entry.answer = some x) :
    (es'.find? fun e => e.addr == b).bind Entry.answer = some x := by
  cases h with
  | same => exact hx
  | path _ hwrite => exact hwrite.answer_kept (fun _ => rfl) (fun _ _ h => h) hx
  | answer _ _ _ _ hwrite =>
    refine hwrite.answer_kept (addr_record_answer _ _) (fun e y hy => ?_) hx
    rw [answer_record_answer, hy, getD_some]

lemma recorded_step (hinv : Inv cfg n.ledger) (hno : starts cfg n ev = false)
    (hx : recorded n.ledger addr = some x) : recorded (step cfg n ev).ledger addr = some x := by
  obtain ⟨hcall, hrows⟩ := step_cases hinv hno
  have hactive := active_of_recorded hx
  rw [recorded_eq hactive] at hx
  rw [recorded_eq (hcall.active.trans hactive)]
  exact hrows.answer_kept hx

lemma recorded_run (hinv : Inv cfg n.ledger) {es : List Event}
    (hrun : Meets (step cfg) (fun n ev => starts cfg n ev = false) n es)
    (hx : recorded n.ledger addr = some x) :
    recorded (es.foldl (step cfg) n).ledger addr = some x :=
  (foldl_invariant (I := fun n => Inv cfg n.ledger ∧ recorded n.ledger addr = some x)
    (fun n ev h hno => ⟨inv_step n ev h.1, recorded_step h.1 hno h.2⟩) hrun ⟨hinv, hx⟩).2

lemma closed_run (hinv : Inv cfg n.ledger) {es : List Event}
    (hrun : Meets (step cfg) (fun n ev => starts cfg n ev = false) n es)
    (hclosed : n.ledger.is_open = false) :
    (es.foldl (step cfg) n).ledger.entries = n.ledger.entries := by
  have hkeep : ∀ m ev, (Inv cfg m.ledger ∧ m.ledger.is_open = false ∧
      m.ledger.entries = n.ledger.entries) → starts cfg m ev = false →
      Inv cfg (step cfg m ev).ledger ∧ (step cfg m ev).ledger.is_open = false ∧
        (step cfg m ev).ledger.entries = n.ledger.entries := by
    rintro m ev ⟨hm, hshut, hsame⟩ hno
    obtain ⟨hcall, hrows⟩ := step_cases hm hno
    refine ⟨inv_step m ev hm, ?_, ?_⟩
    · rw [← Bool.not_eq_true] at hshut ⊢
      exact fun h => hshut (hcall.is_open h)
    · rw [← hsame]
      revert hrows
      generalize (step cfg m ev).ledger.entries = es'
      intro hrows
      cases hrows with
      | same => rfl
      | path hopen => rw [hshut] at hopen; cases hopen
      | answer _ _ _ hattests => rw [hattests.collecting.2] at hshut; cases hshut
  exact (foldl_invariant hkeep hrun ⟨hinv, hclosed, rfl⟩).2.2

lemma expected_run (hinv : Inv cfg n.ledger) {es : List Event}
    (hrun : Meets (step cfg) (fun n ev => starts cfg n ev = false) n es) :
    (es.foldl (step cfg) n).ledger.expected = n.ledger.expected :=
  (foldl_invariant
    (I := fun m => Inv cfg m.ledger ∧ m.ledger.expected = n.ledger.expected)
    (fun m ev h hno => ⟨inv_step m ev h.1, (step_cases h.1 hno).1.expected.trans h.2⟩)
    hrun ⟨hinv, rfl⟩).2

/-! ## Evidence -/

lemma Evidenced.snoc {pins : Store} {es : List Event} (h : Evidenced cfg pins es addr x)
    (hno : starts cfg (es.foldl (step cfg) (boot pins)) ev = false) :
    Evidenced cfg pins (es ++ [ev]) addr x := by
  obtain ⟨pre, data, post, resp, rfl, hdecode, haddr, hround, hattests, hrun⟩ := h
  refine ⟨pre, data, post ++ [ev], resp, by simp, hdecode, haddr, hround, hattests, ?_⟩
  rw [← cons_append, meets_append]
  refine ⟨hrun, ?_, trivial⟩
  rwa [foldl_append] at hno

lemma rows_evidenced (cfg : Config) (pins : Store) (es : List Event) :
    ∀ e ∈ (es.foldl (step cfg) (boot pins)).ledger.entries, ∀ x, e.answer = some x →
      Evidenced cfg pins es e.addr x := by
  induction es using List.reverseRecOn with
  | nil => exact fun e he => absurd he not_mem_nil
  | append_singleton es ev ih =>
    rw [foldl_append, foldl_cons, foldl_nil]
    have hinv : Inv cfg (es.foldl (step cfg) (boot pins)).ledger := inv_run (inv_init cfg) es
    rcases hst : starts cfg (es.foldl (step cfg) (boot pins)) ev with _ | _
    · obtain ⟨-, hrows⟩ := step_cases hinv hst
      revert hrows
      generalize (step cfg (es.foldl (step cfg) (boot pins)) ev).ledger.entries = es'
      intro hrows e he x hx
      have hbefore : ∀ e' ∈ (es.foldl (step cfg) (boot pins)).ledger.entries, e'.addr = e.addr →
          e'.answer = some x → Evidenced cfg pins (es ++ [ev]) e.addr x := by
        intro e' he' haddr hx'
        rw [← haddr]
        exact (ih e' he' x hx').snoc hst
      cases hrows with
      | same => exact hbefore e he rfl hx
      | path _ hwrite =>
        rcases hwrite.mem he with hold | ⟨base, rfl, -, hbase⟩
        · exact hbefore e hold rfl hx
        · rcases hbase with hbase | hbase
          · exact hbefore base hbase rfl hx
          · cases hbase.symm.trans hx
      | @answer addr now_ms data resp _ hev hdecode haddr hattests hwrite =>
        rcases hwrite.mem he with hold | ⟨base, rfl, hbase, hmem⟩
        · exact hbefore e hold rfl hx
        · rw [answer_record_answer] at hx
          rcases hans : base.answer with _ | y
          · -- the row is answered by this event
            rw [hans, getD_none] at hx
            cases hx
            rw [addr_record_answer, hbase]
            refine ⟨es, data, [], resp, by rw [hev], hdecode, haddr, rfl, hattests, ?_, trivial⟩
            rwa [← hev]
          · rw [hans, getD_some] at hx
            rcases hmem with hmem | hmem
            · exact hbefore base hmem (addr_record_answer _ _ _).symm (hans.trans hx)
            · rw [hmem] at hans
              cases hans
    · obtain ⟨-, hnil⟩ := step_starts hst
      rw [hnil]
      exact fun e he => absurd he not_mem_nil

lemma not_missing_of_recorded (h : recorded l addr = some x) :
    addr ∉ rollcall_ledger_missing l := by
  obtain ⟨e, hfind, hans⟩ := bind_eq_some_iff.1 h
  have hresp : e.responded := by
    by_contra hno
    rw [Entry.answer, if_neg hno] at hans
    cases hans
  unfold rollcall_ledger_missing
  split
  · exact not_mem_nil
  · rw [mem_filter, hfind, any_some, hresp]
    exact fun hmem => Bool.false_ne_true hmem.2

lemma missing_subset_expected (h : addr ∈ rollcall_ledger_missing l) : addr ∈ l.expected := by
  unfold rollcall_ledger_missing at h
  split at h
  · cases h
  · exact (mem_filter.1 h).1

lemma attested_recorded (hinv : Inv cfg n.ledger) {data : List UInt8} {resp : Response}
    (now_ms : UInt32) (hdecode : rollcall_response_decode data = some resp)
    (haddr : resp.responder_addr = addr) (hattests : Attests cfg n resp)
    (hreal : ¬ (addr = 0 ∨ addr = cfg.address)) :
    (∃ x, recorded (step cfg n (.response addr data now_ms)).ledger addr = some x) ∨
      FullOfOthers n.ledger addr := by
  obtain ⟨⟨hactive, hopen⟩, hcall, pin, hpin, hsig⟩ := hattests
  have hown := hinv.own hactive
  subst haddr
  rw [← hown] at hreal
  have hstep : (step cfg n (.response resp.responder_addr data now_ms)).ledger =
      (rollcall_ledger_note_response n.ledger n.ledger.rollcall_id resp.responder_addr resp.round
        now_ms).1 := by
    rw [step, mesh_rollcall_handle_response, if_neg (by simp [hactive]), hdecode]
    dsimp only
    rw [if_neg (not_not.2 hcall), if_neg (not_not.2 rfl), hpin]
    dsimp only
    rw [hcall, hown, hsig]
    rfl
  rw [hstep]
  rcases note_response_taken resp.round now_ms hactive hopen hreal with
    hwrite | ⟨hfull, hothers⟩
  · left
    obtain ⟨hsame, -⟩ := note_response_cases n.ledger n.ledger.rollcall_id resp.responder_addr
      resp.round now_ms
    obtain ⟨base, hself, -⟩ := hwrite.find_self (addr_record_answer _ _)
    rw [recorded_eq (hsame.active.trans hactive), hself, bind_some, answer_record_answer]
    exact ⟨_, rfl⟩
  · exact .inr ⟨le_antisymm hinv.bounded hfull, hothers⟩

/-- **The ledger of a roll-call is evidence.** What is recorded comes from a response that attests
and stays until the next start; an address whose response attested and came in a frame of its own
is listed missing only when all rows held answers of others; and the rows of a closed ledger stay.
-/
theorem ledger_is_evidence (cfg : Config) (pins : Store) (es post : List Event) :
    let n := es.foldl (step cfg) (boot pins)
    let n' := post.foldl (step cfg) n
    (∀ addr x, recorded n.ledger addr = some x → Evidenced cfg pins es addr x) ∧
    (Meets (step cfg) (fun n ev => starts cfg n ev = false) n post →
      (∀ addr x, recorded n.ledger addr = some x → recorded n'.ledger addr = some x) ∧
      (∀ addr data now_ms rest resp, post = .response addr data now_ms :: rest →
        rollcall_response_decode data = some resp → resp.responder_addr = addr →
        Attests cfg n resp → addr ∈ rollcall_ledger_missing n'.ledger →
        FullOfOthers n.ledger addr) ∧
      (n.ledger.is_open = false → n'.ledger.entries = n.ledger.entries)) := by
  have hinv : Inv cfg (es.foldl (step cfg) (boot pins)).ledger := inv_run (inv_init cfg) es
  refine ⟨fun addr x hx => ?_, fun hrun => ⟨fun addr x hx => recorded_run hinv hrun hx, ?_,
    closed_run hinv hrun⟩⟩
  · rw [recorded_eq (active_of_recorded hx)] at hx
    obtain ⟨e, hfind, hans⟩ := bind_eq_some_iff.1 hx
    have haddr := find?_some hfind
    rw [beq_iff_eq] at haddr
    rw [← haddr]
    exact rows_evidenced cfg pins es e (mem_of_find?_eq_some hfind) x hans
  · rintro addr data now_ms rest resp rfl hdecode haddr hattests hmissing
    have hreal := hinv.expected addr (expected_run hinv hrun ▸ missing_subset_expected hmissing)
    rcases attested_recorded hinv now_ms hdecode haddr hattests hreal with
      ⟨x, hx⟩ | hfull
    · exact absurd hmissing (not_missing_of_recorded (recorded_run (inv_step _ _ hinv) hrun.2 hx))
    · exact hfull

/-! ## A roll-call of two members -/

def sign (pub : Key32) (msg : List UInt8) : Sig64 := get_bytes 64 (msg ++ pub.toList)

def one : Config := ⟨1, ⟨fun _ => 0, fun pub msg sig => sig == sign pub msg⟩⟩

def key_of (addr : UInt32) : Key32 := Vector.replicate 32 addr.toUInt8

def pinned : Store :=
  { identity_store_init 0 with
    entries := Table.ofList .zero
      ([2, 3].map fun addr => { IdentityPin.zero with
        used := true
        address := addr
        ed25519_pub := key_of addr })
    has_anchor := true }

def started : List Event := [.start [] 77 5 1000]

def answer_of (addr : UInt32) : Response :=
  ⟨77, 1, addr, sign (key_of addr) (rollcall_signed_msg 77 1 addr)⟩

def answer_bytes (addr : UInt32) : List UInt8 := (rollcall_response_encode (answer_of addr)).getD []

lemma attests_answer_of :
    Attests one (started.foldl (step one) (boot pinned)) (answer_of 2) where
  collecting := by decide
  this_call := by decide
  signed := ⟨pinned.entries ⟨0, by decide⟩, by decide, by decide +kernel⟩

theorem ledger_is_evidence_answered :
    let es := started ++ [.response 2 (answer_bytes 2) 2000]
    let post := [.response 2 (answer_bytes 2) 9000, .tick 0 200000]
    let n := es.foldl (step one) (boot pinned)
    let n' := post.foldl (step one) n
    Evidenced one pinned es 2 (2000, 1) ∧ recorded n'.ledger 2 = some (2000, 1) ∧
      n'.ledger.is_open = false ∧ rollcall_ledger_missing n'.ledger = [3] := by
  intro es post n n'
  have h := ledger_is_evidence one pinned es post
  have hrecorded : recorded n.ledger 2 = some (2000, 1) := by decide +kernel
  refine ⟨h.1 2 (2000, 1) hrecorded, (h.2 (by decide)).1 2 (2000, 1) hrecorded, ?_⟩
  decide +kernel

/-- The signed answer of member 2 comes in a frame of member 3, and 2 stays missing from a ledger
without rows. -/
theorem relayed_answer_missing :
    let n := started.foldl (step one) (boot pinned)
    let data := answer_bytes 2
    rollcall_response_decode data = some (answer_of 2) ∧ Attests one n (answer_of 2) ∧
      starts one n (.response 3 data 2000) = false ∧
      2 ∈ rollcall_ledger_missing (step one n (.response 3 data 2000)).ledger ∧
      n.ledger.entries = [] := by
  intro n data
  exact ⟨by decide +kernel, attests_answer_of, by decide +kernel, by decide +kernel,
    by decide +kernel⟩

end BrambleMesh.RollcallLedger
