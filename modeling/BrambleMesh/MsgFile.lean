/-
The persistent message file: components/msg_store/msg_store_spiffs.c and msg_store_lfs.c. A call
is the list of its file operations, and a power failure leaves a prefix of them and of an append
some bytes. The two backends differ in the rollover only.
-/
import BrambleMesh.MsgStore

namespace BrambleMesh.MsgFile

open MsgStore List

/-! ## The file -/

abbrev MSG_FILE_MAGIC : UInt32 := 0x4252414D

abbrev MSG_FILE_VERSION : UInt16 := 1

abbrev HEADER_SIZE : ℕ := 16

abbrev RECORD_SIZE : ℕ := 712

structure Header where
  magic : UInt32
  version : UInt16
  record_size : ℕ
  record_count : ℕ
  next_id : ℕ
deriving DecidableEq

def Header.ok (h : Header) : Bool :=
  h.magic == MSG_FILE_MAGIC && h.version == MSG_FILE_VERSION && h.record_size == RECORD_SIZE

structure File where
  header : Option Header
  records : List StoredMsg
  torn : ℕ
deriving DecidableEq

def File.empty : File := ⟨none, [], 0⟩

def File.size (f : File) : ℕ :=
  if f.header.isSome then HEADER_SIZE + RECORD_SIZE * f.records.length + f.torn else 0

def File.truncate (f : File) (size : ℕ) : File :=
  if size < f.size then
    { f with
      records := f.records.take ((size - HEADER_SIZE) / RECORD_SIZE)
      torn := (size - HEADER_SIZE) % RECORD_SIZE }
  else f

def File.append (f : File) (rs : List StoredMsg) : File :=
  if f.torn = 0 then { f with records := f.records ++ rs } else f

def File.append_torn (f : File) (rs : List StoredMsg) (bytes : ℕ) : File :=
  if f.torn = 0 then
    if bytes / RECORD_SIZE < rs.length then
      { f with
        records := f.records ++ rs.take (bytes / RECORD_SIZE)
        torn := bytes % RECORD_SIZE }
    else { f with records := f.records ++ rs }
  else f

structure Disk where
  messages : Option File
  temp : Option File
deriving DecidableEq

def Disk.blank : Disk := ⟨none, none⟩

/-! ## File operations -/

inductive FileOp
  | create
  | remove
  | truncate (size : ℕ)
  | write_header (h : Header)
  | append (rs : List StoredMsg)
  | write_record (index : ℕ) (r : StoredMsg)
  | temp_create
  | temp_write_header (h : Header)
  | temp_append (r : StoredMsg)
  | rename
deriving DecidableEq

def apply (d : Disk) : FileOp → Disk
  | .create => { d with messages := some .empty }
  | .remove => { d with messages := none }
  | .truncate size => { d with messages := d.messages.map (·.truncate size) }
  | .write_header h => { d with messages := d.messages.map fun f => { f with header := some h } }
  | .append rs => { d with messages := d.messages.map (·.append rs) }
  | .write_record index r =>
    { d with messages := d.messages.map fun f => { f with records := f.records.set index r } }
  | .temp_create => { d with temp := some .empty }
  | .temp_write_header h => { d with temp := d.temp.map fun f => { f with header := some h } }
  | .temp_append r => { d with temp := d.temp.map (·.append [r]) }
  | .rename => ⟨d.temp, none⟩

def exec (d : Disk) (ops : List FileOp) : Disk := ops.foldl apply d

structure Cut where
  after : ℕ
  bytes : ℕ
deriving DecidableEq

def tear (d : Disk) (bytes : ℕ) : FileOp → Disk
  | .append rs => { d with messages := d.messages.map (·.append_torn rs bytes) }
  | _ => d

def exec_cut (d : Disk) (ops : List FileOp) (c : Cut) : Disk :=
  match ops[c.after]? with
  | none => exec d ops
  | some op => tear (exec d (ops.take c.after)) c.bytes op

/-! ## The calls -/

structure Statics where
  s_header : Header
  s_initialized : Bool
deriving DecidableEq

def fresh_header : Header := ⟨MSG_FILE_MAGIC, MSG_FILE_VERSION, RECORD_SIZE, 0, 1⟩

def msg_store_spiffs_init (d : Disk) : List FileOp × Statics :=
  match d.messages with
  | none => ([.create, .write_header fresh_header], ⟨fresh_header, true⟩)
  | some f =>
    match f.header with
    | none => ([.remove, .create, .write_header fresh_header], ⟨fresh_header, true⟩)
    | some h =>
      if h.ok then
        let actual := (f.size - HEADER_SIZE) / RECORD_SIZE
        let aligned := HEADER_SIZE + RECORD_SIZE * actual
        (if f.size ≠ aligned then [.truncate aligned] else [],
          ⟨{ h with record_count := actual }, true⟩)
      else ([.remove, .create, .write_header fresh_header], ⟨fresh_header, true⟩)

def Header.bump (h : Header) : Header :=
  { h with record_count := h.record_count + 1, next_id := h.next_id + 1 }

def Header.counting (h : Header) (n : ℕ) : Header := { h with record_count := n }

def msg_store_spiffs_save (s : Statics) (msg : StoredMsg) : List FileOp × Statics × Bool :=
  if s.s_initialized then
    ([.append [msg], .write_header s.s_header.bump], { s with s_header := s.s_header.bump }, true)
  else ([], s, false)

def msg_store_record_matches (a b : StoredMsg) : Bool :=
  a.uid == b.uid && a.peer_addr == b.peer_addr && a.direction == b.direction &&
    a.channel_index == b.channel_index && a.text.length == b.text.length && a.text == b.text

def Disk.records (d : Disk) : List StoredMsg :=
  match d.messages with
  | none => []
  | some f => f.records

def msg_store_spiffs_update (s : Statics) (d : Disk) (from_end : ℕ) (msg : StoredMsg) :
    List FileOp :=
  if s.s_initialized ∧ from_end < s.s_header.record_count then
    let index := s.s_header.record_count - 1 - from_end
    match d.records[index]? with
    | none => []
    | some scratch =>
      if msg_store_record_matches scratch msg then
        [.write_record index { msg with timestamp_s := scratch.timestamp_s }]
      else []
  else []

def msg_store_spiffs_get_count (s : Statics) : ℕ :=
  if s.s_initialized then s.s_header.record_count else 0

def msg_store_spiffs_load_recent (s : Statics) (d : Disk) (max_count : ℕ) : List StoredMsg :=
  if s.s_initialized then
    let to_load := min s.s_header.record_count max_count
    (d.records.drop (s.s_header.record_count - to_load)).take to_load
  else []

def keep_count (max_messages keep_pct : ℕ) : ℕ :=
  max_messages * (if keep_pct < 50 ∨ 90 < keep_pct then 75 else keep_pct) / 100

def kept (s : Statics) (d : Disk) (max_messages keep_pct : ℕ) : List StoredMsg :=
  (d.records.drop (s.s_header.record_count - keep_count max_messages keep_pct)).take
    (keep_count max_messages keep_pct)

def msg_store_spiffs_rollover (s : Statics) (d : Disk) (malloc_ok : Bool)
    (max_messages keep_pct : ℕ) : List FileOp × Statics :=
  if s.s_initialized ∧ max_messages < s.s_header.record_count ∧ malloc_ok then
    let keep := kept s d max_messages keep_pct
    let h := s.s_header.counting keep.length
    ([.create, .write_header h, .append keep], { s with s_header := h })
  else ([], s)

def rollover_unlocked (s : Statics) (d : Disk) (max_messages keep_pct : ℕ) :
    List FileOp × Statics :=
  if s.s_initialized ∧ max_messages < s.s_header.record_count then
    let keep := kept s d max_messages keep_pct
    let h := s.s_header.counting keep.length
    ([.temp_create, .temp_write_header (s.s_header.counting 0)] ++
      keep.map .temp_append ++ [.temp_write_header h] ++ [.remove, .rename],
      { s with s_header := h })
  else ([], s)

inductive Backend
  | spiffs
  | lfs
deriving DecidableEq, Repr

structure Policy where
  backend : Backend
  persist_max : ℕ
  keep_pct : ℕ
deriving DecidableEq

def Policy.keep (p : Policy) : ℕ := keep_count p.persist_max p.keep_pct

def rollover (p : Policy) (s : Statics) (d : Disk) (malloc_ok : Bool) : List FileOp × Statics :=
  match p.backend with
  | .spiffs => msg_store_spiffs_rollover s d malloc_ok p.persist_max p.keep_pct
  | .lfs => rollover_unlocked s d p.persist_max p.keep_pct

/-! ## A file in use

`Opened d s recs` is what every call finds and leaves: the file has a good header and the
records `recs`, nothing torn behind them, and the backend's variables count them. -/

structure Opened (d : Disk) (s : Statics) (recs : List StoredMsg) : Prop where
  file : ∃ h : Header, h.ok ∧ d.messages = some ⟨some h, recs, 0⟩
  header : s.s_header.ok
  count : s.s_header.record_count = recs.length
  initialized : s.s_initialized

def recovered (d : Disk) : List StoredMsg :=
  match d.messages with
  | none => []
  | some f =>
    match f.header with
    | none => []
    | some h => if h.ok then f.records else []

def Aligned (d : Disk) : Prop := ∀ f, d.messages = some f → f.torn < RECORD_SIZE

lemma exec_append (d : Disk) (ops ops' : List FileOp) :
    exec d (ops ++ ops') = exec (exec d ops) ops' :=
  foldl_append

section

variable {d : Disk} {s : Statics} {recs : List StoredMsg}

lemma Opened.records (h : Opened d s recs) : d.records = recs := by
  obtain ⟨hd, -, hfile⟩ := h.file
  simp only [Disk.records, hfile]

lemma Opened.recovered (h : Opened d s recs) : recovered d = recs := by
  obtain ⟨hd, hok, hfile⟩ := h.file
  simp only [MsgFile.recovered, hfile, hok, if_true]

lemma Opened.aligned (h : Opened d s recs) : Aligned d := by
  obtain ⟨hd, -, hfile⟩ := h.file
  intro f hf
  rw [hfile] at hf
  cases hf
  exact Nat.succ_pos _

/-- **A boot.**  It opens what there is to recover. -/
theorem init_opened (d : Disk) (hd : Aligned d) :
    Opened (exec d (msg_store_spiffs_init d).1) (msg_store_spiffs_init d).2 (recovered d) := by
  -- a new file has a header and no record
  have hnew : ∀ t : Disk, Opened (exec t [.create, .write_header fresh_header])
      ⟨fresh_header, true⟩ [] := fun t => ⟨⟨fresh_header, rfl, rfl⟩, rfl, rfl, rfl⟩
  rcases hfile : d.messages with _ | ⟨header, records, torn⟩
  · simp only [msg_store_spiffs_init, recovered, hfile]
    exact hnew d
  · rcases header with _ | h
    · simp only [msg_store_spiffs_init, recovered, hfile]
      exact hnew (apply d .remove)
    · by_cases hok : h.ok
      · have htorn : torn < RECORD_SIZE := hd _ hfile
        have hsize : (File.mk (some h) records torn).size =
            HEADER_SIZE + RECORD_SIZE * records.length + torn := rfl
        have hactual : (HEADER_SIZE + RECORD_SIZE * records.length + torn - HEADER_SIZE) /
            RECORD_SIZE = records.length := by
          simp only [RECORD_SIZE] at htorn ⊢
          omega
        simp only [msg_store_spiffs_init, recovered, hfile, hok, if_true, hsize, hactual]
        refine ⟨⟨h, hok, ?_⟩, hok, rfl, rfl⟩
        by_cases h0 : torn = 0
        · subst h0
          rw [if_neg (by omega)]
          exact hfile
        · have hcut : (File.mk (some h) records torn).truncate
              (HEADER_SIZE + RECORD_SIZE * records.length) = ⟨some h, records, 0⟩ := by
            rw [File.truncate, if_pos (by rw [hsize]; omega), Nat.add_sub_cancel_left,
              Nat.mul_div_cancel_left _ (by decide), Nat.mul_mod_right, take_length]
          rw [if_pos (by omega)]
          simp only [exec, foldl_cons, foldl_nil, apply, hfile, Option.map_some, hcut]
      · simp only [msg_store_spiffs_init, recovered, hfile, if_neg hok]
        exact hnew (apply d .remove)

/-- **A save** adds its record. -/
theorem save_opened (h : Opened d s recs) (msg : StoredMsg) :
    (msg_store_spiffs_save s msg).2.2 ∧
      Opened (exec d (msg_store_spiffs_save s msg).1) (msg_store_spiffs_save s msg).2.1
        (recs ++ [msg]) := by
  obtain ⟨hd, -, hfile⟩ := h.file
  have hsave : msg_store_spiffs_save s msg = ([.append [msg], .write_header s.s_header.bump],
      { s with s_header := s.s_header.bump }, true) := if_pos h.initialized
  rw [hsave]
  refine ⟨rfl, ⟨s.s_header.bump, h.header, ?_⟩, h.header, ?_, h.initialized⟩
  · simp only [exec, foldl_cons, foldl_nil, apply, hfile, Option.map_some, File.append,
      if_true]
  · simp only [Header.bump, h.count, length_append, length_singleton]

def amend (l : List StoredMsg) (from_end : ℕ) (msg : StoredMsg) : List StoredMsg :=
  if from_end < l.length then
    match l[l.length - 1 - from_end]? with
    | none => l
    | some r =>
      if msg_store_record_matches r msg then
        l.set (l.length - 1 - from_end) { msg with timestamp_s := r.timestamp_s }
      else l
  else l

variable (l : List StoredMsg) (from_end : ℕ)

lemma amend_cases (msg : StoredMsg) :
    amend l from_end msg = l ∨ from_end < l.length ∧
      ∃ r, amend l from_end msg = l.set (l.length - 1 - from_end) r := by
  unfold amend
  split_ifs with hlt
  · rcases l[l.length - 1 - from_end]? with _ | r
    · exact .inl rfl
    · dsimp only
      split_ifs
      · exact .inr ⟨hlt, _, rfl⟩
      · exact .inl rfl
  · exact .inl rfl

lemma length_amend (msg : StoredMsg) : (amend l from_end msg).length = l.length := by
  rcases amend_cases l from_end msg with heq | ⟨-, r, heq⟩
  · rw [heq]
  · rw [heq, length_set]

variable (l l' : List StoredMsg) (from_end : ℕ)

lemma amend_append (msg : StoredMsg) (hlt : from_end < l'.length) :
    amend (l ++ l') from_end msg = l ++ amend l' from_end msg := by
  have hlen : (l ++ l').length - 1 - from_end = l.length + (l'.length - 1 - from_end) := by
    rw [length_append]
    omega
  have hget : (l ++ l')[l.length + (l'.length - 1 - from_end)]? =
      l'[l'.length - 1 - from_end]? := by
    rw [getElem?_append_right (Nat.le_add_right ..), Nat.add_sub_cancel_left]
  rw [amend, amend, if_pos (by rw [length_append]; omega), if_pos hlt, hlen, hget]
  rcases l'[l'.length - 1 - from_end]? with _ | r
  · rfl
  · dsimp only
    split_ifs
    · rw [set_append_right _ _ (Nat.le_add_right ..), Nat.add_sub_cancel_left]
    · rfl

lemma amend_append_of_le (msg : StoredMsg) (hle : l'.length ≤ from_end) :
    ∃ l₀, amend (l ++ l') from_end msg = l₀ ++ l' ∧ l₀.length = l.length := by
  rcases amend_cases (l ++ l') from_end msg with heq | ⟨hlt, r, heq⟩
  · exact ⟨l, heq, rfl⟩
  · rw [heq]
    rw [length_append] at hlt ⊢
    rw [set_append_left _ _ (by omega)]
    exact ⟨_, rfl, length_set⟩

/-- **An update** amends the records. -/
theorem update_opened (h : Opened d s recs) (from_end : ℕ) (msg : StoredMsg) :
    Opened (exec d (msg_store_spiffs_update s d from_end msg)) s (amend recs from_end msg) := by
  obtain ⟨hd, hok, hfile⟩ := h.file
  refine ⟨⟨hd, hok, ?_⟩, h.header, by rw [length_amend]; exact h.count, h.initialized⟩
  rw [msg_store_spiffs_update, amend, h.count, h.records]
  by_cases hlt : from_end < recs.length
  · rw [if_pos ⟨h.initialized, hlt⟩, if_pos hlt]
    dsimp only
    rcases recs[recs.length - 1 - from_end]? with _ | r
    · exact hfile
    · dsimp only
      split_ifs
      · simp only [exec, foldl_cons, foldl_nil, apply, hfile, Option.map_some]
      · exact hfile
  · rw [if_neg (fun hc => hlt hc.2), if_neg hlt]
    exact hfile

lemma load_recent_opened (h : Opened d s recs) (n : ℕ) :
    msg_store_spiffs_load_recent s d n = recs.drop (recs.length - n) := by
  rw [msg_store_spiffs_load_recent, if_pos h.initialized, h.count, h.records]
  have hskip : recs.length - min recs.length n = recs.length - n := by omega
  dsimp only
  rw [hskip, take_of_length_le]
  rw [length_drop]
  omega

def rolled (p : Policy) (malloc_ok : Bool) (recs : List StoredMsg) : List StoredMsg :=
  if p.persist_max < recs.length ∧ (p.backend = .spiffs → malloc_ok) then
    recs.drop (recs.length - p.keep)
  else recs

def FileOp.temporary : FileOp → Bool
  | .temp_create => true
  | .temp_write_header _ => true
  | .temp_append _ => true
  | _ => false

lemma messages_exec_temporary {ops : List FileOp} (hops : ∀ op ∈ ops, op.temporary)
    (d : Disk) : (exec d ops).messages = d.messages := by
  induction ops generalizing d with
  | nil => rfl
  | cons op ops ih =>
    have hop : (apply d op).messages = d.messages := by
      have htemp := hops op mem_cons_self
      cases op <;> first | rfl | cases htemp
    exact (ih (fun o ho => hops o (mem_cons_of_mem _ ho)) (apply d op)).trans hop

lemma temp_exec_append (hd : Option Header) (rs : List StoredMsg) :
    ∀ (d : Disk) (recs : List StoredMsg), d.temp = some ⟨hd, recs, 0⟩ →
      (exec d (rs.map .temp_append)).temp = some ⟨hd, recs ++ rs, 0⟩ := by
  induction rs with
  | nil =>
    intro d recs htemp
    rw [append_nil]
    exact htemp
  | cons r rs ih =>
    intro d recs htemp
    have hstep : (apply d (.temp_append r)).temp = some ⟨hd, recs ++ [r], 0⟩ := by
      simp only [apply, htemp, Option.map_some, File.append, if_true]
    have hrest := ih _ _ hstep
    rw [append_assoc] at hrest
    exact hrest

def temp_ops (s : Statics) (keep : List StoredMsg) : List FileOp :=
  [.temp_create, .temp_write_header (s.s_header.counting 0)] ++
    keep.map .temp_append ++ [.temp_write_header (s.s_header.counting keep.length)]

lemma temp_ops_temporary (s : Statics) (keep : List StoredMsg) :
    ∀ op ∈ temp_ops s keep, op.temporary := by
  intro op hop
  simp only [temp_ops, mem_append, mem_cons, mem_map, not_mem_nil,
    or_false] at hop
  rcases hop with ((rfl | rfl) | ⟨r, -, rfl⟩) | rfl <;> rfl

lemma temp_exec_temp_ops (s : Statics) (d : Disk) (keep : List StoredMsg) :
    (exec d (temp_ops s keep)).temp =
      some ⟨some (s.s_header.counting keep.length), keep, 0⟩ := by
  rw [temp_ops, exec_append, exec_append]
  have happ := temp_exec_append (some (s.s_header.counting 0)) keep
    (exec d [.temp_create, .temp_write_header (s.s_header.counting 0)]) [] rfl
  simp only [exec, foldl_cons, apply] at happ ⊢
  rw [happ]
  rfl

lemma rollover_replaces {p : Policy} {malloc_ok : Bool} (h : Opened d s recs)
    (hmax : p.persist_max < recs.length) (hok : p.backend = .spiffs → malloc_ok) :
    let keep := recs.drop (recs.length - p.keep)
    let header := s.s_header.counting keep.length
    rollover p s d malloc_ok =
      ((match p.backend with
        | .spiffs => [.create, .write_header header, .append keep]
        | .lfs => temp_ops s keep ++ [.remove, .rename]), { s with s_header := header }) := by
  intro keep header
  have hkept : kept s d p.persist_max p.keep_pct = keep := by
    rw [kept, h.count, h.records, take_of_length_le]
    · rfl
    · rw [length_drop]
      omega
  have hcount : p.persist_max < s.s_header.record_count := by rwa [h.count]
  unfold rollover
  rcases hb : p.backend with _ | _
  · rw [msg_store_spiffs_rollover, if_pos ⟨h.initialized, hcount, hok hb⟩, hkept]
  · rw [rollover_unlocked, if_pos ⟨h.initialized, hcount⟩, hkept]
    rfl

lemma rollover_idle {p : Policy} {malloc_ok : Bool} (h : Opened d s recs)
    (hidle : ¬ (p.persist_max < recs.length ∧ (p.backend = .spiffs → malloc_ok))) :
    rollover p s d malloc_ok = ([], s) := by
  unfold rollover
  rcases hb : p.backend with _ | _ <;> dsimp only
  · rw [msg_store_spiffs_rollover, h.count, if_neg]
    rintro ⟨-, hlt, hok⟩
    exact hidle ⟨hlt, fun _ => hok⟩
  · rw [rollover_unlocked, h.count, if_neg]
    rintro ⟨-, hlt⟩
    exact hidle ⟨hlt, fun hs => by rw [hb] at hs; cases hs⟩

/-- **A rollover** leaves the newest records. -/
theorem rollover_opened (h : Opened d s recs) (p : Policy) (malloc_ok : Bool) :
    Opened (exec d (rollover p s d malloc_ok).1) (rollover p s d malloc_ok).2
      (rolled p malloc_ok recs) := by
  by_cases hdue : p.persist_max < recs.length ∧ (p.backend = .spiffs → malloc_ok)
  · rw [rollover_replaces h hdue.1 hdue.2, rolled, if_pos hdue]
    refine ⟨⟨s.s_header.counting (recs.drop (recs.length - p.keep)).length, h.header, ?_⟩,
      h.header, rfl, h.initialized⟩
    rcases p.backend with _ | _ <;> dsimp only
    · rfl
    · rw [exec_append]
      exact temp_exec_temp_ops s d _
  · rw [rollover_idle h hdue, rolled, if_neg hdue]
    exact h

end

end BrambleMesh.MsgFile
