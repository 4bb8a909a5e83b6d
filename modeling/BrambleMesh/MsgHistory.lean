/-
What a boot finds of the message history after power was lost. Beside the flash the world keeps
the history as a user would.
-/
import BrambleMesh.Lib.Run
import BrambleMesh.MsgFile

namespace BrambleMesh.MsgHistory

open MsgStore MsgFile List

/-! ## Calls that are cut -/

section

variable {d : Disk} {s : Statics} {recs : List StoredMsg} {ops : List FileOp} {c : Cut}

lemma exec_cut_of_le (hle : ops.length ≤ c.after) : exec_cut d ops c = exec d ops := by
  rw [exec_cut, getElem?_eq_none hle]

lemma exec_cut_of_getElem {op : FileOp} (hop : ops[c.after]? = some op) :
    exec_cut d ops c = tear (exec d (ops.take c.after)) c.bytes op := by
  rw [exec_cut, hop]

lemma exec_cut_zero {op : FileOp} (hop : ∀ (t : Disk) n, tear t n op = t) (h0 : c.after = 0) :
    exec_cut d (op :: ops) c = d := by
  rw [exec_cut_of_getElem (by rw [h0]; rfl), h0, hop]
  rfl

lemma aligned_of_messages {f : File} (h : d.messages = some f) (hf : f.torn < RECORD_SIZE) :
    Aligned d := by
  intro f' hf'
  rw [h] at hf'
  cases hf'
  exact hf

lemma create_cut (hd : Aligned d) (hrec : recovered d = []) (c : Cut) :
    Aligned (exec_cut d [.create, .write_header fresh_header] c) ∧
      recovered (exec_cut d [.create, .write_header fresh_header] c) = [] := by
  rcases hafter : c.after with _ | _ | k
  · rw [exec_cut_zero (fun _ _ => rfl) hafter]
    exact ⟨hd, hrec⟩
  · rw [exec_cut_of_getElem (by rw [hafter]; rfl), hafter]
    exact ⟨aligned_of_messages rfl (by decide), rfl⟩
  · rw [exec_cut_of_le (by rw [hafter]; exact Nat.le_add_left ..)]
    exact ⟨aligned_of_messages rfl (by decide), rfl⟩

lemma remove_create_cut (hd : Aligned d) (hrec : recovered d = []) (c : Cut) :
    Aligned (exec_cut d [.remove, .create, .write_header fresh_header] c) ∧
      recovered (exec_cut d [.remove, .create, .write_header fresh_header] c) = [] := by
  rcases hafter : c.after with _ | k
  · rw [exec_cut_zero (fun _ _ => rfl) hafter]
    exact ⟨hd, hrec⟩
  · have hshift : exec_cut d [.remove, .create, .write_header fresh_header] c =
        exec_cut (apply d .remove) [.create, .write_header fresh_header] ⟨k, c.bytes⟩ := by
      simp only [exec_cut, hafter]
      rfl
    rw [hshift]
    refine create_cut ?_ rfl ⟨k, c.bytes⟩
    rintro f hf
    cases hf

/-- **A boot that is cut** leaves what there was to recover. -/
theorem init_cut (hd : Aligned d) (c : Cut) :
    Aligned (exec_cut d (msg_store_spiffs_init d).1 c) ∧
      recovered (exec_cut d (msg_store_spiffs_init d).1 c) = recovered d := by
  have hopen := init_opened d hd
  by_cases hle : (msg_store_spiffs_init d).1.length ≤ c.after
  · rw [exec_cut_of_le hle]
    exact ⟨hopen.aligned, hopen.recovered⟩
  rcases hfile : d.messages with _ | ⟨header, records, torn⟩
  · have hrec : recovered d = [] := by simp only [recovered, hfile]
    simp only [msg_store_spiffs_init, hfile]
    rw [hrec]
    exact create_cut hd hrec c
  · rcases header with _ | h
    · have hrec : recovered d = [] := by simp only [recovered, hfile]
      simp only [msg_store_spiffs_init, hfile]
      rw [hrec]
      exact remove_create_cut hd hrec c
    · by_cases hok : h.ok
      · -- at most one operation, the truncation
        simp only [msg_store_spiffs_init, hfile] at hle ⊢
        split_ifs at hle ⊢
        · rw [exec_cut_zero (fun _ _ => rfl) (by simpa using hle)]
          exact ⟨hd, rfl⟩
        · exact absurd (Nat.zero_le _) hle
      · have hrec : recovered d = [] := by simp only [recovered, hfile, if_neg hok]
        simp only [msg_store_spiffs_init, hfile, if_neg hok]
        rw [hrec]
        exact remove_create_cut hd hrec c

def Cut.wrote (c : Cut) : Bool := 0 < c.after || RECORD_SIZE ≤ c.bytes

/-- **A save that is cut** has added its record or nothing. -/
theorem save_cut (h : Opened d s recs) (msg : StoredMsg) (c : Cut) :
    Aligned (exec_cut d (msg_store_spiffs_save s msg).1 c) ∧
      recovered (exec_cut d (msg_store_spiffs_save s msg).1 c) =
        if Cut.wrote c then recs ++ [msg] else recs := by
  have hopen := (save_opened h msg).2
  have hops : (msg_store_spiffs_save s msg).1 =
      [.append [msg], .write_header s.s_header.bump] := by
    rw [msg_store_spiffs_save, if_pos h.initialized]
  obtain ⟨hd, hok, hfile⟩ := h.file
  rcases Nat.lt_or_ge c.after 2 with hlt | hge
  · rw [hops]
    rcases hafter : c.after with _ | k
    · -- the append itself is cut
      rw [exec_cut_of_getElem (by rw [hafter]; rfl)]
      simp only [take_zero, exec, foldl_nil, tear, Cut.wrote, hafter]
      by_cases hbytes : c.bytes < RECORD_SIZE
      · have hdiv : c.bytes / RECORD_SIZE = 0 := Nat.div_eq_of_lt hbytes
        have htear : (File.mk (some hd) recs 0).append_torn [msg] c.bytes =
            ⟨some hd, recs, c.bytes % RECORD_SIZE⟩ := by
          rw [File.append_torn, hdiv]
          simp
        have hw : ¬ (decide (0 < 0) || decide (RECORD_SIZE ≤ c.bytes)) := by
          simp only [lt_irrefl, decide_false, Bool.false_or, decide_eq_true_eq]
          omega
        simp only [hfile, Option.map_some, htear, recovered, hok, if_true, if_neg hw]
        exact ⟨aligned_of_messages rfl (Nat.mod_lt _ (by decide)), trivial⟩
      · have htear : (File.mk (some hd) recs 0).append_torn [msg] c.bytes =
            ⟨some hd, recs ++ [msg], 0⟩ := by
          have hdiv : 1 ≤ c.bytes / RECORD_SIZE := (Nat.one_le_div_iff (by decide)).2 (by omega)
          rw [File.append_torn, if_pos rfl, if_neg (by simpa using Nat.not_lt.2 hdiv)]
        have hw : (decide (0 < 0) || decide (RECORD_SIZE ≤ c.bytes)) := by
          simp only [lt_irrefl, decide_false, Bool.false_or, decide_eq_true_eq]
          omega
        simp only [hfile, Option.map_some, htear, recovered, hok, if_true, if_pos hw]
        exact ⟨aligned_of_messages rfl (Nat.succ_pos _), trivial⟩
    · -- the record is there, the header not yet
      have hk : k = 0 := by omega
      subst hk
      rw [exec_cut_of_getElem (by rw [hafter]; rfl), hafter]
      have hdone : tear (exec d (take 1 [.append [msg], .write_header s.s_header.bump]))
          c.bytes (.write_header s.s_header.bump) =
          ⟨some ⟨some hd, recs ++ [msg], 0⟩, d.temp⟩ := by
        simp only [tear, take_succ_cons, take_zero, exec, foldl_cons,
          foldl_nil, apply, hfile, Option.map_some, File.append, if_true]
      have hw : Cut.wrote c := by simp only [Cut.wrote, hafter]; rfl
      simp only [hdone, recovered, hok, if_true, hw]
      exact ⟨aligned_of_messages rfl (Nat.succ_pos _), trivial⟩
  · have hw : Cut.wrote c := by
      simp only [Cut.wrote, Bool.or_eq_true, decide_eq_true_eq]
      omega
    rw [exec_cut_of_le (by rw [hops]; exact hge), if_pos hw]
    exact ⟨hopen.aligned, hopen.recovered⟩

/-- **An update that is cut** has rewritten its record or nothing. -/
theorem update_cut (h : Opened d s recs) (from_end : ℕ) (msg : StoredMsg) (c : Cut) :
    Aligned (exec_cut d (msg_store_spiffs_update s d from_end msg) c) ∧
      recovered (exec_cut d (msg_store_spiffs_update s d from_end msg) c) =
        if 0 < c.after then amend recs from_end msg else recs := by
  have hopen := update_opened h from_end msg
  have hops : (∃ i r, msg_store_spiffs_update s d from_end msg = [.write_record i r]) ∨
      msg_store_spiffs_update s d from_end msg = [] := by
    unfold msg_store_spiffs_update
    split_ifs
    · dsimp only
      rcases d.records[s.s_header.record_count - 1 - from_end]? with _ | r
      · exact .inr rfl
      · dsimp only
        split_ifs
        · exact .inl ⟨_, _, rfl⟩
        · exact .inr rfl
    · exact .inr rfl
  by_cases hafter : 0 < c.after
  · rw [if_pos hafter, exec_cut_of_le]
    · exact ⟨hopen.aligned, hopen.recovered⟩
    · rcases hops with ⟨i, r, hops⟩ | hops
      · rw [hops]
        exact hafter
      · rw [hops]
        exact Nat.zero_le _
  · rw [if_neg hafter]
    rcases hops with ⟨i, r, hops⟩ | hops
    · rw [hops, exec_cut_zero (fun _ _ => rfl) (by omega)]
      exact ⟨h.aligned, h.recovered⟩
    · rw [hops]
      exact ⟨h.aligned, h.recovered⟩

def OutsideGap (p : Policy) (ops : List FileOp) (c : Cut) : Prop :=
  match p.backend with
  | .spiffs => c.after = 0 ∨ ops.length ≤ c.after
  | .lfs => c.after + 1 ≠ ops.length

instance (p : Policy) (ops : List FileOp) (c : Cut) : Decidable (OutsideGap p ops c) := by
  unfold OutsideGap
  split <;> infer_instance

lemma messages_exec_cut_temporary {op : FileOp} {rest : List FileOp}
    (htemp : ∀ o ∈ ops, o.temporary) (hop : ∀ (t : Disk) n, tear t n op = t)
    (hle : c.after ≤ ops.length) :
    (exec_cut d (ops ++ op :: rest) c).messages = d.messages := by
  have htake : (exec d ((ops ++ op :: rest).take c.after)).messages = d.messages := by
    rw [take_append_of_le_length hle]
    exact messages_exec_temporary (fun o ho => htemp o (mem_of_mem_take ho)) d
  rcases Nat.lt_or_ge c.after ops.length with hlt | hge
  · have hnext : (ops ++ op :: rest)[c.after]? = some ops[c.after] := by
      rw [getElem?_append_left hlt, getElem?_eq_getElem hlt]
    have htear : ∀ t : Disk, tear t c.bytes ops[c.after] = t := by
      have ho := htemp _ (getElem_mem hlt)
      intro t
      cases hx : ops[c.after] <;> rw [hx] at ho <;> first | rfl | cases ho
    rw [exec_cut_of_getElem hnext, htear]
    exact htake
  · have hnext : (ops ++ op :: rest)[c.after]? = some op := by
      rw [getElem?_append_right hge, Nat.sub_eq_zero_of_le hle]
      rfl
    rw [exec_cut_of_getElem hnext, hop]
    exact htake

/-- **A rollover that is cut** outside the gap has replaced the file or nothing. -/
theorem rollover_cut {p : Policy} {malloc_ok : Bool} (h : Opened d s recs)
    (hgap : OutsideGap p (rollover p s d malloc_ok).1 c) :
    Aligned (exec_cut d (rollover p s d malloc_ok).1 c) ∧
      (recovered (exec_cut d (rollover p s d malloc_ok).1 c) = recs ∨
        recovered (exec_cut d (rollover p s d malloc_ok).1 c) = rolled p malloc_ok recs) := by
  have hopen := rollover_opened h p malloc_ok
  by_cases hle : (rollover p s d malloc_ok).1.length ≤ c.after
  · rw [exec_cut_of_le hle]
    exact ⟨hopen.aligned, .inr hopen.recovered⟩
  by_cases hdue : p.persist_max < recs.length ∧ (p.backend = .spiffs → malloc_ok)
  · rw [rollover_replaces h hdue.1 hdue.2] at hgap hle ⊢
    unfold OutsideGap at hgap
    rcases hb : p.backend with _ | _ <;> simp only [hb] at hgap hle ⊢
    · -- SPIFFS: nothing has happened
      rw [exec_cut_zero (fun _ _ => rfl) (hgap.resolve_right hle)]
      exact ⟨h.aligned, .inl h.recovered⟩
    · -- LittleFS: only the second file has been written to
      rw [length_append, length_cons, length_singleton] at hgap hle
      have hmsgs : (exec_cut d (temp_ops s (recs.drop (recs.length - p.keep)) ++
          [.remove, .rename]) c).messages = d.messages :=
        messages_exec_cut_temporary (temp_ops_temporary s _) (fun _ _ => rfl) (by omega)
      refine ⟨fun f hf => h.aligned f (hmsgs ▸ hf), .inl ?_⟩
      rw [recovered, hmsgs, ← recovered, h.recovered]
  · rw [rollover_idle h hdue]
    exact ⟨h.aligned, .inl h.recovered⟩

end

/-! ## The history -/

structure World where
  disk : Disk
  up : Option Statics
  saved : List StoredMsg
  extra : List StoredMsg

variable (w : World)

def World.history : List StoredMsg := w.saved ++ w.extra

def World.start : World := ⟨.blank, none, [], []⟩

inductive Event
  | boot (cut : Option Cut)
  | save (msg : StoredMsg) (cut : Option Cut)
  | update (from_end : ℕ) (msg : StoredMsg) (cut : Option Cut)
  | rollover (malloc_ok : Bool) (cut : Option Cut)

def World.call (ops : List FileOp) (s : Statics) : Option Cut → World
  | none => { w with disk := exec w.disk ops, up := some s }
  | some c => { w with disk := exec_cut w.disk ops c, up := none }

def World.note_save (msg : StoredMsg) (reported : Bool) : Option Cut → World
  | none => if reported then { w with saved := w.history ++ [msg], extra := [] } else w
  | some c => if Cut.wrote c then { w with extra := w.extra ++ [msg] } else w

def World.amended (from_end : ℕ) (msg : StoredMsg) : World :=
  { w with
    saved := (amend w.history from_end msg).take w.saved.length
    extra := (amend w.history from_end msg).drop w.saved.length }

def World.note_update (from_end : ℕ) (msg : StoredMsg) : Option Cut → World
  | none => w.amended from_end msg
  | some c => if 0 < c.after then w.amended from_end msg else w

def step (p : Policy) (w : World) : Event → World
  | .boot cut => w.call (msg_store_spiffs_init w.disk).1 (msg_store_spiffs_init w.disk).2 cut
  | .save msg cut =>
    match w.up with
    | none => w
    | some s =>
      (w.call (msg_store_spiffs_save s msg).1 (msg_store_spiffs_save s msg).2.1 cut).note_save msg
        (msg_store_spiffs_save s msg).2.2 cut
  | .update from_end msg cut =>
    match w.up with
    | none => w
    | some s =>
      (w.call (msg_store_spiffs_update s w.disk from_end msg) s cut).note_update from_end msg cut
  | .rollover malloc_ok cut =>
    match w.up with
    | none => w
    | some s =>
      w.call (MsgFile.rollover p s w.disk malloc_ok).1 (MsgFile.rollover p s w.disk malloc_ok).2 cut

def NotInGap (p : Policy) (w : World) : Event → Prop
  | .rollover malloc_ok (some c) =>
    match w.up with
    | none => True
    | some s => OutsideGap p (MsgFile.rollover p s w.disk malloc_ok).1 c
  | _ => True

instance (p : Policy) (w : World) (e : Event) : Decidable (NotInGap p w e) := by
  unfold NotInGap
  split
  · split <;> infer_instance
  · infer_instance

/-! ## The end of the history -/

structure Keeps (p : Policy) (history recs : List StoredMsg) : Prop where
  suffix : recs <:+ history
  enough : min history.length p.keep ≤ recs.length

section

variable {p : Policy} {history recs : List StoredMsg}

lemma Keeps.snoc (h : Keeps p history recs) (msg : StoredMsg) :
    Keeps p (history ++ [msg]) (recs ++ [msg]) := by
  obtain ⟨pre, hpre⟩ := h.suffix
  refine ⟨⟨pre, by rw [← hpre, append_assoc]⟩, ?_⟩
  have henough := h.enough
  simp only [length_append]
  omega

lemma Keeps.amend (h : Keeps p history recs) (from_end : ℕ) (msg : StoredMsg) :
    Keeps p (amend history from_end msg) (amend recs from_end msg) := by
  refine ⟨?_, by rw [length_amend, length_amend]; exact h.enough⟩
  obtain ⟨pre, rfl⟩ := h.suffix
  rcases Nat.lt_or_ge from_end recs.length with hlt | hge
  · rw [amend_append _ _ _ _ hlt]
    exact suffix_append ..
  · -- the file does not hold that message any more
    obtain ⟨pre', hpre', -⟩ := amend_append_of_le pre recs from_end msg hge
    have hrecs : MsgFile.amend recs from_end msg = recs := by
      rw [MsgFile.amend, if_neg (Nat.not_lt.2 hge)]
    rw [hpre', hrecs]
    exact suffix_append ..

lemma Keeps.rolled (h : Keeps p history recs) (malloc_ok : Bool) :
    Keeps p history (rolled p malloc_ok recs) := by
  unfold MsgFile.rolled
  split_ifs with hdue
  · refine ⟨(drop_suffix _ _).trans h.suffix, ?_⟩
    have henough := h.enough
    rw [length_drop]
    omega
  · exact h

end

structure Sound (p : Policy) (w : World) : Prop where
  aligned : Aligned w.disk
  keeps : Keeps p w.history (recovered w.disk)
  opened : ∀ s, w.up = some s → Opened w.disk s (recovered w.disk)

lemma sound_start (p : Policy) : Sound p .start where
  aligned := fun f hf => by cases hf
  keeps := ⟨suffix_refl _, Nat.min_le_left ..⟩
  opened := fun s hs => by cases hs

section

variable {p : Policy} {w : World} {s : Statics} {recs : List StoredMsg}

lemma sound_up (hopen : Opened w.disk s recs) (hup : w.up = some s)
    (hkeeps : Keeps p w.history recs) : Sound p w where
  aligned := hopen.aligned
  keeps := hopen.recovered ▸ hkeeps
  opened := by
    intro s' hs'
    rw [hup] at hs'
    cases hs'
    exact hopen.recovered.symm ▸ hopen

lemma sound_down (haligned : Aligned w.disk) (hrec : recovered w.disk = recs)
    (hdown : w.up = none) (hkeeps : Keeps p w.history recs) : Sound p w where
  aligned := haligned
  keeps := hrec ▸ hkeeps
  opened := by
    intro s' hs'
    rw [hdown] at hs'
    cases hs'

lemma sound_boot (h : Sound p w) (cut : Option Cut) : Sound p (step p w (.boot cut)) := by
  cases cut with
  | none => exact sound_up (init_opened w.disk h.aligned) rfl h.keeps
  | some c =>
    obtain ⟨haligned, hrec⟩ := init_cut h.aligned c
    exact sound_down haligned hrec rfl h.keeps

lemma sound_save (h : Sound p w) (msg : StoredMsg) (cut : Option Cut) :
    Sound p (step p w (.save msg cut)) := by
  rcases hup : w.up with _ | s
  · simp only [step, hup]
    exact h
  have hopen := h.opened s hup
  simp only [step, hup]
  cases cut with
  | none =>
    obtain ⟨hreport, hdone⟩ := save_opened hopen msg
    rw [hreport]
    refine sound_up hdone rfl ?_
    have hhist : (World.note_save (w.call (msg_store_spiffs_save s msg).1
        (msg_store_spiffs_save s msg).2.1 none) msg true none).history = w.history ++ [msg] :=
      append_nil _
    rw [hhist]
    exact h.keeps.snoc msg
  | some c =>
    obtain ⟨haligned, hrec⟩ := save_cut hopen msg c
    by_cases hw : Cut.wrote c
    · rw [if_pos hw] at hrec
      simp only [World.note_save, if_pos hw]
      refine sound_down haligned hrec rfl ?_
      simp only [World.history, ← append_assoc]
      exact h.keeps.snoc msg
    · rw [if_neg hw] at hrec
      simp only [World.note_save, if_neg hw]
      exact sound_down haligned hrec rfl h.keeps

lemma sound_update (h : Sound p w) (from_end : ℕ) (msg : StoredMsg) (cut : Option Cut) :
    Sound p (step p w (.update from_end msg cut)) := by
  rcases hup : w.up with _ | s
  · simp only [step, hup]
    exact h
  have hopen := h.opened s hup
  have hamend : ∀ w' : World, w'.saved = w.saved → w'.extra = w.extra →
      Keeps p (w'.amended from_end msg).history (amend (recovered w.disk) from_end msg) := by
    intro w' hs he
    have hhist : (w'.amended from_end msg).history = _ := take_append_drop ..
    rw [hhist, World.history, hs, he]
    exact h.keeps.amend from_end msg
  simp only [step, hup]
  cases cut with
  | none => exact sound_up (update_opened hopen from_end msg) rfl (hamend _ rfl rfl)
  | some c =>
    obtain ⟨haligned, hrec⟩ := update_cut hopen from_end msg c
    by_cases hc : 0 < c.after
    · rw [if_pos hc] at hrec
      simp only [World.note_update, if_pos hc]
      exact sound_down haligned hrec rfl (hamend _ rfl rfl)
    · rw [if_neg hc] at hrec
      simp only [World.note_update, if_neg hc]
      exact sound_down haligned hrec rfl h.keeps

lemma sound_rollover (h : Sound p w) (malloc_ok : Bool) (cut : Option Cut)
    (hgap : NotInGap p w (.rollover malloc_ok cut)) :
    Sound p (step p w (.rollover malloc_ok cut)) := by
  rcases hup : w.up with _ | s
  · simp only [step, hup]
    exact h
  have hopen := h.opened s hup
  simp only [step, hup]
  cases cut with
  | none => exact sound_up (rollover_opened hopen p malloc_ok) rfl (h.keeps.rolled malloc_ok)
  | some c =>
    simp only [NotInGap, hup] at hgap
    obtain ⟨haligned, hrec | hrec⟩ := rollover_cut hopen hgap
    · exact sound_down haligned hrec rfl h.keeps
    · exact sound_down haligned hrec rfl (h.keeps.rolled malloc_ok)

lemma sound_step (e : Event) (h : Sound p w) (hgap : NotInGap p w e) : Sound p (step p w e) := by
  cases e with
  | boot cut => exact sound_boot h cut
  | save msg cut => exact sound_save h msg cut
  | update from_end msg cut => exact sound_update h from_end msg cut
  | rollover malloc_ok cut => exact sound_rollover h malloc_ok cut hgap

end

def World.loaded (w : World) (n : ℕ) : List StoredMsg :=
  msg_store_spiffs_load_recent (msg_store_spiffs_init w.disk).2
    (exec w.disk (msg_store_spiffs_init w.disk).1) n

/-- **The history survives a crash outside the gap of a rollover.** After every run with power
failures anywhere but in that gap, the next boot loads the end of what was saved, in order and as
last written, at least as much as a rollover keeps and the ring holds. -/
theorem history_survives (p : Policy) (es : List Event) (n : ℕ)
    (hrun : Run.Meets (step p) (NotInGap p) .start es) :
    let w := es.foldl (step p) .start
    w.loaded n <:+ w.saved ++ w.extra ∧
      min (min (w.saved ++ w.extra).length p.keep) n ≤ (w.loaded n).length ∧
      (0 < p.keep → 0 < n → (w.loaded n).getLast? = (w.saved ++ w.extra).getLast?) := by
  intro w
  have hsound : Sound p w :=
    Run.foldl_invariant (fun w e h hc => sound_step e h hc) hrun (sound_start p)
  have hload : w.loaded n = (recovered w.disk).drop ((recovered w.disk).length - n) :=
    load_recent_opened (init_opened w.disk hsound.aligned) n
  have hsuffix : w.loaded n <:+ w.saved ++ w.extra :=
    hload ▸ (drop_suffix _ _).trans hsound.keeps.suffix
  have hlen : min (min (w.saved ++ w.extra).length p.keep) n ≤ (w.loaded n).length := by
    have henough := hsound.keeps.enough
    rw [World.history] at henough
    rw [hload, length_drop]
    omega
  refine ⟨hsuffix, hlen, fun hkeep hn => ?_⟩
  by_cases hnil : w.saved ++ w.extra = []
  · rw [hnil] at hsuffix ⊢
    rw [suffix_nil.1 hsuffix]
  · have hpos := length_pos_iff.2 hnil
    have hne : w.loaded n ≠ [] := length_pos_iff.1 (by omega)
    rw [getLast?_eq_some_getLast hne, getLast?_eq_some_getLast hnil,
      hsuffix.getLast hne]

def note (uid : UInt32) : StoredMsg :=
  ⟨7, uid, .INCOMING, .NONE, 0, 0, 0, 0, MSG_STORE_DM_CHANNEL, [], [0x48, 0x69]⟩

def early_cut : List Event :=
  [.boot none, .save (note 1) none, .save (note 2) none, .save (note 3) none,
    .rollover true (some ⟨3, 0⟩), .boot none, .save (note 4) (some ⟨0, 100⟩)]

theorem history_survives_early_cut :
    let p : Policy := ⟨.lfs, 2, 50⟩
    let w := early_cut.foldl (step p) .start
    Run.Meets (step p) (NotInGap p) .start early_cut ∧ w.loaded 20 <:+ w.saved ++ w.extra ∧
      min (min (w.saved ++ w.extra).length p.keep) 20 ≤ (w.loaded 20).length ∧
      (0 < p.keep → 0 < 20 → (w.loaded 20).getLast? = (w.saved ++ w.extra).getLast?) :=
  have hrun : Run.Meets (step ⟨.lfs, 2, 50⟩) (NotInGap ⟨.lfs, 2, 50⟩) .start early_cut := by
    decide
  ⟨hrun, history_survives ⟨.lfs, 2, 50⟩ early_cut 20 hrun⟩

/-- **In the gap everything is lost**: power lost in the rollover after 51 saves, on SPIFFS after
the truncation, on LittleFS after the removal, and the next boot loads nothing. -/
theorem rollover_cut_loses_history :
    let saves : List Event :=
      .boot none :: (List.range 51).map fun i => .save (note i.toUInt32) none
    let spiffs : World :=
      (saves ++ [Event.rollover true (some ⟨1, 0⟩)]).foldl (step ⟨.spiffs, 50, 75⟩) .start
    let lfs : World :=
      (saves ++ [Event.rollover true (some ⟨41, 0⟩)]).foldl (step ⟨.lfs, 50, 75⟩) .start
    (spiffs.saved.length = 51 ∧ spiffs.loaded 20 = []) ∧
      (lfs.saved.length = 51 ∧ lfs.loaded 20 = []) := by
  decide +kernel

end BrambleMesh.MsgHistory
