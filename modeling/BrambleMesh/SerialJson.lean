/-
JSON objects out of a noisy serial line: `processBuffer`, `extractJsonObjects` and
`dispatchMessage` of webapp/src/transport/SerialTransport.ts. A brace that a log line opens and
does not close takes in the objects that follow.
-/
import BrambleMesh.Lib.Utf8

namespace BrambleMesh.SerialJson

open Utf8 List Option

/-! ## The extractor -/

def openBrace : Char := '\x7b'
def closeBrace : Char := '\x7d'
def quote : Char := '\x22'
def backslash : Char := '\x5c'

structure Open where
  text : List Char
  depth : ℕ
  inString : Bool
  escaped : Bool
deriving DecidableEq

def Open.read (o : Open) (ch : Char) : Option Open :=
  let o := { o with text := o.text ++ [ch] }
  if o.inString then
    if o.escaped then some { o with escaped := false }
    else if ch = backslash then some { o with escaped := true }
    else if ch = quote then some { o with inString := false }
    else some o
  else if ch = quote then some { o with inString := true }
  else if ch = openBrace then some { o with depth := o.depth + 1 }
  else if ch = closeBrace then
    if o.depth - 1 = 0 then none else some { o with depth := o.depth - 1 }
  else some o

structure Loop (M : Type) where
  tail : List Char
  object : Option Open
  messages : List M
deriving DecidableEq

variable {M : Type}

def Loop.step (parse : List Char → Option M) (l : Loop M) (ch : Char) : Loop M :=
  match l.object with
  | none =>
    if ch = openBrace then { l with object := some ⟨[ch], 1, false, false⟩ }
    else { l with tail := l.tail ++ [ch] }
  | some o =>
    match o.read ch with
    | some o' => { l with object := some o' }
    | none =>
      match parse (o.text ++ [ch]) with
      | some m => ⟨[], none, l.messages ++ [m]⟩
      -- the cursor goes back behind the brace that opened the candidate
      | none => ⟨(o.text ++ [ch]).tail, none, l.messages⟩

def Loop.remainder (l : Loop M) : List Char :=
  match l.object with
  | some o => o.text
  | none => l.tail

def MAX_BUFFER_LENGTH : ℕ := 64 * 1024

def utf16_length (text : List Char) : ℕ :=
  text.foldr (fun c n => (if c.toNat ≤ 0xFFFF then 1 else 2) + n) 0

def last_units (n : ℕ) : List Char → List Char
  | [] => []
  | c :: cs => if utf16_length (c :: cs) ≤ n then c :: cs else last_units n cs

def trim (remainder : List Char) : List Char :=
  if utf16_length remainder > MAX_BUFFER_LENGTH then
    (last_units MAX_BUFFER_LENGTH remainder).dropWhile (· ≠ openBrace)
  else remainder

def extractJsonObjects (parse : List Char → Option M) (input : List Char) : List M × List Char :=
  let l := input.foldl (Loop.step parse) ⟨[], none, []⟩
  (l.messages, trim l.remainder)

/-! ## The transport -/

structure Message (V : Type) where
  id : Option (Option ℕ)
  method : Option String
  params : V
  result : Option V
  error : Option (Option String)
deriving DecidableEq

inductive Outcome (V : Type)
  | resolved (id : ℕ) (result : Option V)
  | rejected (id : ℕ) (text : String)
  | notified (method : String) (params : V)
deriving DecidableEq

structure Calls (V : Type) where
  pending : List ℕ
  outcomes : List (Outcome V)
  dispatched : List (Message V)
deriving DecidableEq

variable {V : Type}

def dispatchMessage (t : Calls V) (msg : Message V) : Calls V :=
  let t := { t with dispatched := t.dispatched ++ [msg] }
  match msg.id with
  | some (some n) =>
    if n ∈ t.pending then
      match msg.result, msg.error with
      -- an echoed request
      | none, none => t
      | _, some (some text) =>
        { t with pending := t.pending.erase n, outcomes := t.outcomes ++ [.rejected n text] }
      | result, _ =>
        { t with pending := t.pending.erase n, outcomes := t.outcomes ++ [.resolved n result] }
    else t
  | some none => t
  | none =>
    match msg.method with
    | some method => { t with outcomes := t.outcomes ++ [.notified method msg.params] }
    | none => t

structure Transport (V : Type) where
  decoder : Decoder
  bom_seen : Bool
  readBuf : List Char
  calls : Calls V

def processBuffer (parse : List Char → Option (Message V)) (t : Transport V) : Transport V :=
  let (messages, remainder) := extractJsonObjects parse t.readBuf
  { t with readBuf := remainder, calls := messages.foldl dispatchMessage t.calls }

def received (t : Transport V) (value : List UInt8) : List Char :=
  if t.bom_seen then (run t.decoder value).2 else strip_bom (run t.decoder value).2

def read_chunk (parse : List Char → Option (Message V)) (t : Transport V) (value : List UInt8) :
    Transport V :=
  processBuffer parse { t with
    decoder := (run t.decoder value).1
    bom_seen := t.bom_seen || !(run t.decoder value).2.isEmpty
    readBuf := t.readBuf ++ received t value }

/-! ## What is on the line -/

inductive StringPart
  | plain (c : Char) (hc : c ≠ quote ∧ c ≠ backslash)
  | escape (c : Char)

def StringPart.chars : StringPart → List Char
  | plain c _ => [c]
  | escape c => [backslash, c]

inductive Balanced : List Char → Prop
  | nil : Balanced []
  | plain (c : Char) (t : List Char) (hc : c ≠ quote ∧ c ≠ openBrace ∧ c ≠ closeBrace)
    (ht : Balanced t) : Balanced (c :: t)
  | string (parts : List StringPart) (t : List Char) (ht : Balanced t) :
    Balanced (quote :: (parts.flatMap StringPart.chars ++ quote :: t))
  | braces (inner t : List Char) (hinner : Balanced inner) (ht : Balanced t) :
    Balanced (openBrace :: (inner ++ closeBrace :: t))

inductive Stream (parse : List Char → Option M) : List Char → List M → Prop
  | done : Stream parse [] []
  | noise (c : Char) (text : List Char) (ms : List M) (hc : c ≠ openBrace)
    (hrest : Stream parse text ms) : Stream parse (c :: text) ms
  | object (inner text : List Char) (m : M) (ms : List M) (hinner : Balanced inner)
    (hparse : parse (openBrace :: (inner ++ [closeBrace])) = some m)
    (hlen : utf16_length (openBrace :: (inner ++ [closeBrace])) ≤ MAX_BUFFER_LENGTH)
    (hrest : Stream parse text ms) :
    Stream parse (openBrace :: (inner ++ closeBrace :: text)) (m :: ms)

/-! ## One object -/

def Closes : Open → List Char → Prop
  | _, [] => False
  | o, c :: todo =>
    match o.read c with
    | none => todo = []
    | some o' => Closes o' todo

lemma Open.read_text {o o' : Open} {c : Char} (h : o.read c = some o') :
    o'.text = o.text ++ [c] := by
  unfold Open.read at h
  dsimp only at h
  split_ifs at h <;> exact (congrArg Open.text (some.inj h)).symm

lemma closes_string (parts : List StringPart) : ∀ (text todo : List Char) (d : ℕ),
    Closes ⟨text ++ parts.flatMap StringPart.chars, d, true, false⟩ todo →
      Closes ⟨text, d, true, false⟩ (parts.flatMap StringPart.chars ++ todo) := by
  induction parts with
  | nil =>
    intro text todo d h
    rw [flatMap_nil, append_nil] at h
    exact h
  | cons p parts ih =>
    intro text todo d h
    rw [flatMap_cons, ← append_assoc] at h
    rw [flatMap_cons]
    cases p with
    | plain c hc =>
      have hread : Open.read ⟨text, d, true, false⟩ c = some ⟨text ++ [c], d, true, false⟩ := by
        simp [Open.read, hc.1, hc.2]
      dsimp only [StringPart.chars, cons_append, Closes]
      rw [hread]
      exact ih _ _ _ h
    | escape c =>
      have hread : Open.read ⟨text, d, true, false⟩ backslash =
          some ⟨text ++ [backslash], d, true, true⟩ := by simp [Open.read]
      have hnext : Open.read ⟨text ++ [backslash], d, true, true⟩ c =
          some ⟨text ++ [backslash, c], d, true, false⟩ := by simp [Open.read]
      dsimp only [StringPart.chars, cons_append, Closes]
      rw [hread]
      dsimp only
      rw [hnext]
      exact ih _ _ _ h

lemma Balanced.closes {t : List Char} (ht : Balanced t) : ∀ (text todo : List Char) (d : ℕ),
    Closes ⟨text ++ t, d + 1, false, false⟩ todo →
      Closes ⟨text, d + 1, false, false⟩ (t ++ todo) := by
  have hne : openBrace ≠ quote ∧ closeBrace ≠ quote ∧ closeBrace ≠ openBrace := by decide
  induction ht with
  | nil =>
    intro text todo d h
    rw [append_nil] at h
    exact h
  | plain c t hc _ ih =>
    intro text todo d h
    have hread : Open.read ⟨text, d + 1, false, false⟩ c =
        some ⟨text ++ [c], d + 1, false, false⟩ := by simp [Open.read, hc]
    dsimp only [cons_append, Closes]
    rw [hread]
    rw [append_cons] at h
    exact ih _ _ _ h
  | string parts t _ ih =>
    intro text todo d h
    have hopen : Open.read ⟨text, d + 1, false, false⟩ quote =
        some ⟨text ++ [quote], d + 1, true, false⟩ := by simp [Open.read]
    dsimp only [cons_append, Closes]
    rw [append_assoc]
    apply closes_string
    apply ih
    simpa using h
  | braces inner t _ _ ihinner iht =>
    intro text todo d h
    have hopen : Open.read ⟨text, d + 1, false, false⟩ openBrace =
        some ⟨text ++ [openBrace], d + 1 + 1, false, false⟩ := by simp [Open.read, hne]
    dsimp only [cons_append, Closes]
    rw [append_assoc]
    apply ihinner
    -- the brace that closes the inner object leaves the outer one open
    apply iht
    simpa using h

/-! ## What is kept between two chunks -/

section

variable {parse : List Char → Option M} {rest text buf : List Char} {ms : List M} {l : Loop M}
  {o : Open} {c : Char}

def Opened (parse : List Char → Option M) (o : Open) : Prop :=
  o.text.foldl (Loop.step parse) ⟨[], none, []⟩ = ⟨[], some o, []⟩

def Awaits (parse : List Char → Option M) : Option Open → List Char → List M → Prop
  | none, rest, ms => Stream parse rest ms
  | some o, rest, ms => ∃ todo rest' m ms', rest = todo ++ rest' ∧ ms = m :: ms' ∧ Closes o todo ∧
      parse (o.text ++ todo) = some m ∧ utf16_length (o.text ++ todo) ≤ MAX_BUFFER_LENGTH ∧
      Stream parse rest' ms'

structure Scanning (parse : List Char → Option M) (l : Loop M) (rest : List Char) (ms : List M) :
    Prop where
  noise : l.object = none → openBrace ∉ l.tail
  opened : ∀ o ∈ l.object, Opened parse o
  awaits : Awaits parse l.object rest ms

lemma Scanning.step_noise (h : Scanning parse l (c :: rest) ms) (hnone : l.object = none)
    (hc : c ≠ openBrace) (hrest : Stream parse rest ms) :
    (l.step parse c).messages = l.messages ∧ Scanning parse (l.step parse c) rest ms := by
  have hstep : l.step parse c = { l with tail := l.tail ++ [c] } := by
    rw [Loop.step, hnone]
    exact if_neg hc
  rw [hstep]
  refine ⟨rfl, fun _ hmem => ?_, h.opened, ?_⟩
  · rcases mem_append.1 hmem with hold | hnew
    · exact h.noise hnone hold
    · exact hc (mem_singleton.1 hnew).symm
  · rw [hnone]
    exact hrest

lemma scanning_open {inner : List Char} {m : M} (hnone : l.object = none)
    (hinner : Balanced inner) (hparse : parse (openBrace :: (inner ++ [closeBrace])) = some m)
    (hlen : utf16_length (openBrace :: (inner ++ [closeBrace])) ≤ MAX_BUFFER_LENGTH)
    (hrest : Stream parse rest ms) :
    (l.step parse openBrace).messages = l.messages ∧
      Scanning parse (l.step parse openBrace) (inner ++ closeBrace :: rest) (m :: ms) := by
  have hstep : l.step parse openBrace =
      { l with object := some ⟨[openBrace], 1, false, false⟩ } := by
    rw [Loop.step, hnone]
    exact if_pos rfl
  rw [hstep]
  refine ⟨rfl, fun hnone => absurd hnone (some_ne_none _), ?_, inner ++ [closeBrace], rest,
    m, ms, ?_, rfl, ?_, hparse, hlen, hrest⟩
  · intro o ho
    rw [← some.inj ho]
    rfl
  · rw [append_assoc]
    rfl
  · exact hinner.closes [openBrace] [closeBrace] 0 rfl

lemma Scanning.step_object (h : Scanning parse l (c :: rest) ms) (ho : l.object = some o) :
    ∃ done ms', ms = done ++ ms' ∧ (l.step parse c).messages = l.messages ++ done ∧
      Scanning parse (l.step parse c) rest ms' := by
  have hawaits := h.awaits
  rw [ho] at hawaits
  obtain ⟨todo, rest', m, ms', hrest, rfl, hcloses, hparse, hlen, hstream⟩ := hawaits
  cases todo with
  | nil => exact hcloses.elim
  | cons c' todo =>
    obtain ⟨rfl, rfl⟩ := cons.inj hrest
    rw [append_cons] at hparse hlen
    dsimp only [Closes] at hcloses
    rcases hread : o.read c with _ | o'
    · rw [hread] at hcloses
      obtain rfl : todo = [] := hcloses
      rw [append_nil] at hparse
      have hstep : l.step parse c = ⟨[], none, l.messages ++ [m]⟩ := by
        rw [Loop.step, ho]
        dsimp only
        rw [hread]
        rw [hparse]
      rw [hstep]
      exact ⟨[m], ms', rfl, rfl, fun _ => not_mem_nil,
        fun o ho => absurd ho (not_mem_none o), hstream⟩
    · rw [hread] at hcloses
      have hstep : l.step parse c = { l with object := some o' } := by
        rw [Loop.step, ho]
        dsimp only
        rw [hread]
      have htext := Open.read_text hread
      rw [hstep]
      refine ⟨[], m :: ms', rfl, (append_nil _).symm,
        fun hnone => absurd hnone (some_ne_none _), ?_, todo, rest', m, ms', rfl, rfl,
        hcloses, htext ▸ hparse, htext ▸ hlen, hstream⟩
      intro o'' ho''
      rw [← some.inj ho'', Opened, htext, foldl_append, h.opened o ho]
      dsimp only [foldl_cons, foldl_nil, Loop.step]
      rw [hread]

lemma Scanning.step (h : Scanning parse l (c :: rest) ms) :
    ∃ done ms', ms = done ++ ms' ∧ (l.step parse c).messages = l.messages ++ done ∧
      Scanning parse (l.step parse c) rest ms' := by
  rcases ho : l.object with _ | o
  · have hawaits := h.awaits
    rw [ho] at hawaits
    rcases hawaits with _ | ⟨_, _, _, hc, hrest⟩ | ⟨inner, text, m, ms, hinner, hparse, hlen, hrest⟩
    · obtain ⟨hmessages, hnext⟩ := h.step_noise ho hc hrest
      exact ⟨[], ms, rfl, hmessages.trans (append_nil _).symm, hnext⟩
    · obtain ⟨hmessages, hnext⟩ := scanning_open (l := l) ho hinner hparse hlen hrest
      exact ⟨[], m :: ms, rfl, hmessages.trans (append_nil _).symm, hnext⟩
  · exact h.step_object ho

lemma Scanning.run (text : List Char) : ∀ {l : Loop M} {ms : List M},
    Scanning parse l (text ++ rest) ms →
      ∃ done ms', ms = done ++ ms' ∧
        (text.foldl (Loop.step parse) l).messages = l.messages ++ done ∧
        Scanning parse (text.foldl (Loop.step parse) l) rest ms' := by
  induction text with
  | nil => exact fun h => ⟨[], _, rfl, (append_nil _).symm, h⟩
  | cons c text ih =>
    intro l ms h
    obtain ⟨done, ms', rfl, hmessages, hnext⟩ := h.step
    obtain ⟨done', ms'', rfl, hmessages', hend⟩ := ih hnext
    refine ⟨done ++ done', ms'', (append_assoc _ _ _).symm, ?_, hend⟩
    rw [foldl_cons, hmessages', hmessages, append_assoc]

def Held (parse : List Char → Option M) (buf : List Char) : Option Open → Prop
  | none => openBrace ∉ buf
  | some o => buf = o.text ∧ Opened parse o

lemma scan_noise (h : openBrace ∉ buf) (tail : List Char) :
    buf.foldl (Loop.step parse) ⟨tail, none, []⟩ = ⟨tail ++ buf, none, []⟩ := by
  induction buf generalizing tail with
  | nil => rw [append_nil]; rfl
  | cons c buf ih =>
    rw [mem_cons, not_or] at h
    have hstep : Loop.step parse ⟨tail, none, []⟩ c = ⟨tail ++ [c], none, []⟩ :=
      if_neg (Ne.symm h.1)
    rw [foldl_cons, hstep, ih h.2, append_assoc]
    rfl

lemma scan_held {object : Option Open} (h : Held parse buf object)
    (hawaits : Awaits parse object rest ms) :
    (buf.foldl (Loop.step parse) ⟨[], none, []⟩).messages = [] ∧
      Scanning parse (buf.foldl (Loop.step parse) ⟨[], none, []⟩) rest ms := by
  cases object with
  | none =>
    rw [scan_noise h]
    exact ⟨rfl, fun _ => h, fun o ho => absurd ho (not_mem_none o), hawaits⟩
  | some o =>
    obtain ⟨rfl, hopened⟩ := h
    rw [hopened]
    exact ⟨rfl, fun hnone => absurd hnone (some_ne_none o),
      fun o' ho' => some.inj ho' ▸ hopened, hawaits⟩

lemma utf16_length_append (s t : List Char) :
    utf16_length (s ++ t) = utf16_length s + utf16_length t := by
  induction s with
  | nil => exact (Nat.zero_add _).symm
  | cons c s ih =>
    have hcons : ∀ t, utf16_length (c :: t) =
        (if c.toNat ≤ 0xFFFF then 1 else 2) + utf16_length t := fun _ => rfl
    rw [cons_append, hcons, hcons, ih, Nat.add_assoc]

lemma last_units_subset (n : ℕ) : ∀ t, last_units n t ⊆ t
  | [] => Subset.refl _
  | c :: cs => by
    rw [last_units]
    split_ifs
    · exact Subset.refl _
    · exact subset_cons_of_subset c (last_units_subset n cs)

lemma Scanning.held (h : Scanning parse l rest ms) : Held parse (trim l.remainder) l.object := by
  unfold trim Loop.remainder
  rcases ho : l.object with _ | o
  · have hnoise := h.noise ho
    split_ifs
    · exact fun hmem => hnoise (last_units_subset _ _ (dropWhile_subset _ hmem))
    · exact hnoise
  · have hawaits := h.awaits
    rw [ho] at hawaits
    obtain ⟨todo, -, -, -, -, -, -, -, hlen, -⟩ := hawaits
    rw [utf16_length_append] at hlen
    dsimp only [Held]
    rw [if_neg (by omega)]
    exact ⟨rfl, h.opened o ho⟩

lemma extract_spec {object : Option Open} (h : Held parse buf object)
    (hawaits : Awaits parse object (text ++ rest) ms) :
    ∃ ms' object', ms = (extractJsonObjects parse (buf ++ text)).1 ++ ms' ∧
      Held parse (extractJsonObjects parse (buf ++ text)).2 object' ∧
      Awaits parse object' rest ms' := by
  obtain ⟨hnone, hscan⟩ := scan_held h hawaits
  obtain ⟨done, ms', hms, hmessages, hend⟩ := Scanning.run text hscan
  rw [← foldl_append] at hmessages hend
  rw [hnone, nil_append] at hmessages
  exact ⟨ms', _, by rw [hms, ← hmessages]; rfl, hend.held, hend.awaits⟩

end

/-! ## The line cut into chunks -/

section

variable {parse : List Char → Option (Message V)} {ms : List (Message V)} {text : List Char}

lemma received_append (parse : List Char → Option (Message V)) (t : Transport V)
    (value rest : List UInt8) :
    received t (value ++ rest) = received t value ++ received (read_chunk parse t value) rest := by
  have hnext : received (read_chunk parse t value) rest =
      if t.bom_seen || !(run t.decoder value).2.isEmpty then (run (run t.decoder value).1 rest).2
      else strip_bom (run (run t.decoder value).1 rest).2 := rfl
  rw [hnext, received, received, run_append]
  cases t.bom_seen with
  | true => rfl
  | false =>
    rcases (run t.decoder value).2 with _ | ⟨c, cs⟩
    · rfl
    · -- the mark is looked for in the first character only
      dsimp only [strip_bom]
      by_cases hc : c = byte_order_mark
      · simp [hc]
      · simp [hc]

lemma stream_strip_bom (h : Stream parse text ms) : Stream parse (strip_bom text) ms := by
  rcases h with _ | ⟨c, text, _, hc, hrest⟩ | ⟨inner, text, m, ms, hinner, hparse, hlen, hrest⟩
  · exact .done
  · rw [strip_bom]
    split_ifs
    · exact hrest
    · exact .noise c text ms hc hrest
  · exact .object inner text m ms hinner hparse hlen hrest

lemma chunks_dispatched (chunks : List (List UInt8)) :
    ∀ {t : Transport V} {object : Option Open} {ms : List (Message V)},
      Held parse t.readBuf object → Awaits parse object (received t chunks.flatten) ms →
      (chunks.foldl (read_chunk parse) t).calls = ms.foldl dispatchMessage t.calls := by
  induction chunks with
  | nil =>
    intro t object ms _ hawaits
    have hnil : received t ([] : List (List UInt8)).flatten = [] := by
      unfold received
      split_ifs <;> rfl
    rw [hnil] at hawaits
    -- nothing more comes, so nothing is open and nothing is left to dispatch
    rcases object with _ | o
    · rcases hawaits with _ | _ | _
      rfl
    · obtain ⟨todo, rest', m, ms', htodo, -, hcloses, -⟩ := hawaits
      rw [(append_eq_nil_iff.1 htodo.symm).1] at hcloses
      exact hcloses.elim
  | cons value chunks ih =>
    intro t object ms hheld hawaits
    rw [flatten_cons, received_append parse] at hawaits
    obtain ⟨ms', object', rfl, hheld', hawaits'⟩ := extract_spec hheld hawaits
    rw [foldl_cons, ih hheld' hawaits', foldl_append]
    rfl

lemma dispatched_foldl (ms : List (Message V)) (t : Calls V) :
    (ms.foldl dispatchMessage t).dispatched = t.dispatched ++ ms := by
  induction ms generalizing t with
  | nil => exact (append_nil _).symm
  | cons m ms ih =>
    have hone : (dispatchMessage t m).dispatched = t.dispatched ++ [m] := by
      unfold dispatchMessage
      dsimp only
      split <;> (try split_ifs) <;> (try split) <;> rfl
    rw [foldl_cons, ih, hone, append_assoc]
    rfl

/-- **Objects between noise without an opening brace are dispatched once and in order**, and
nothing else, however the bytes are cut into chunks, if none is longer than the buffer. -/
theorem objects_dispatched (parse : List Char → Option (Message V)) (text : List Char)
    (ms : List (Message V)) (hstream : Stream parse text ms) (t : Transport V)
    (hdecoder : t.decoder = .init) (hbuf : t.readBuf = []) (chunks : List (List UInt8))
    (hcut : chunks.flatten = encode text) :
    let t' := chunks.foldl (read_chunk parse) t
    t'.calls.dispatched = t.calls.dispatched ++ ms ∧
      t'.calls = ms.foldl dispatchMessage t.calls := by
  have hheld : Held parse t.readBuf none := by
    rw [hbuf]
    exact not_mem_nil
  have hawaits : Awaits parse none (received t chunks.flatten) ms := by
    rw [hcut, received, hdecoder, run_encode]
    split_ifs
    · exact hstream
    · exact stream_strip_bom hstream
  have hcalls := chunks_dispatched chunks hheld hawaits
  dsimp only
  rw [hcalls]
  exact ⟨dispatched_foldl ms t.calls, rfl⟩

end

/-! ## Two lines -/

def replyBody : List Char :=
  [quote, 'i', 'd', quote, ':', '1', ',', quote, 'r', 'e', 's', 'u', 'l', 't', quote, ':', '0']

lemma replyBody_balanced : Balanced replyBody := by
  refine .string [.plain 'i' ?_, .plain 'd' ?_] _ (.plain ':' _ ?_ (.plain '1' _ ?_ (.plain ',' _ ?_
    (.string [.plain 'r' ?_, .plain 'e' ?_, .plain 's' ?_, .plain 'u' ?_, .plain 'l' ?_,
      .plain 't' ?_] _ (.plain ':' _ ?_ (.plain '0' _ ?_ .nil))))))
  all_goals decide

def reply : List Char := openBrace :: (replyBody ++ [closeBrace])

def answered : Message ℕ := ⟨some (some 1), none, 0, some 0, none⟩

def parseReply (text : List Char) : Option (Message ℕ) :=
  if text = reply then some answered else none

def waiting : Transport ℕ := ⟨.init, false, [], ⟨[1], [], []⟩⟩

theorem objects_dispatched_prompt :
    ((((encode ('>' :: (reply ++ '>' :: reply))).toChunks 5).foldl (read_chunk parseReply)
      waiting).calls.dispatched = [answered, answered]) ∧ waiting.calls.pending = [1] := by
  have hlast : Stream parseReply ('>' :: reply) [answered] :=
    .noise _ _ _ (by decide) (.object replyBody [] answered [] replyBody_balanced
      (by decide) (by decide) .done)
  have hstream : Stream parseReply ('>' :: (reply ++ '>' :: reply)) [answered, answered] :=
    .noise _ _ _ (by decide) (.object replyBody _ answered _ replyBody_balanced
      (by decide) (by decide) hlast)
  exact ⟨(objects_dispatched parseReply _ _ hstream waiting rfl rfl _ (by decide)).1, rfl⟩

/-- A log line that ends in an opening brace: the two replies behind it are not dispatched. -/
theorem open_brace_takes_replies :
    (read_chunk parseReply waiting
      (encode (['I', ':', ' ', openBrace] ++ reply ++ reply))).calls.dispatched = [] ∧
    (read_chunk parseReply waiting (encode (['I', ':', ' '] ++ reply ++ reply))).calls.dispatched =
      [answered, answered] := by
  decide

end BrambleMesh.SerialJson
