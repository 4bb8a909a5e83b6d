/-
What a reload of the pin store restores. The SAS is compared as the string that it is.
-/
import BrambleMesh.IdentityBlob
import BrambleMesh.IdentityProvenance

open BrambleMesh.Bytes BrambleMesh.Run BrambleMesh.IdentityStore BrambleMesh.IdentityBlob Function
open BrambleMesh.IdentityProvenance

namespace BrambleMesh.IdentityReload

open Table

/-! ## The SAS as a string -/

def c_string (v : Vector UInt8 8) : List UInt8 := v.toList.takeWhile (· ≠ 0)

def Terminated (v : Vector UInt8 8) : Prop := v.toList.getD 7 0 = 0

lemma terminated_zero : Terminated (Vector.replicate 8 0) := rfl

def written (sas : List UInt8) : List UInt8 := (sas.takeWhile (· ≠ 0)).take 7

lemma length_written (sas : List UInt8) : (written sas).length ≤ 7 := by
  rw [written, List.length_take]
  exact min_le_left _ _

variable (buf : Vector UInt8 8) (sas : List UInt8)

lemma getD_snprintf_sas {i : ℕ} (hi : i < 8) :
    (snprintf_sas buf sas).toList.getD i 0 =
      if i < (written sas).length then (written sas).getD i 0
      else if i = (written sas).length then 0 else buf.toList.getD i 0 := by
  rw [List.getD_eq_getElem _ _ (by simpa using hi), List.getD_eq_getElem buf.toList _
    (by simpa using hi), Vector.getElem_toList]
  exact Vector.getElem_ofFn _

lemma terminated_snprintf_sas {buf : Vector UInt8 8} (h : Terminated buf) (sas : List UInt8) :
    Terminated (snprintf_sas buf sas) := by
  have hlen := length_written sas
  rw [Terminated, getD_snprintf_sas buf sas (by decide), if_neg (not_lt.2 hlen)]
  split
  · rfl
  · exact h

lemma c_string_snprintf_sas : c_string (snprintf_sas buf sas) = written sas := by
  have hlen := length_written sas
  have hlong : (snprintf_sas buf sas).toList.length = 8 := Vector.length_toList
  have hfront : (snprintf_sas buf sas).toList.take (written sas).length = written sas := by
    apply List.ext_getElem
    · rw [List.length_take]
      omega
    · intro i hi hi'
      have hbyte := getD_snprintf_sas buf sas (show i < 8 by omega)
      rw [if_pos hi', List.getD_eq_getElem _ _ (by omega), List.getD_eq_getElem _ _ hi'] at hbyte
      rw [List.getElem_take, hbyte]
  have hzero := getD_snprintf_sas buf sas (show (written sas).length < 8 by omega)
  rw [if_neg (lt_irrefl _), if_pos rfl, List.getD_eq_getElem _ _ (by omega)] at hzero
  have hnonzero : ∀ b ∈ written sas, decide (b ≠ 0) := fun _ hb =>
    List.mem_takeWhile_imp (p := fun b => decide (b ≠ 0)) (List.mem_of_mem_take hb)
  rw [c_string, ← List.take_append_drop (written sas).length (snprintf_sas buf sas).toList,
    hfront, List.takeWhile_append_of_pos hnonzero, List.drop_eq_getElem_cons (by omega), hzero,
    List.takeWhile_cons_of_neg (by decide), List.append_nil]

lemma written_of_terminated {v : Vector UInt8 8} (h : Terminated v) :
    written (v.toList.take 7 ++ [0]) = c_string v := by
  have hlong : v.toList.length = 8 := Vector.length_toList
  have hlast : v.toList.drop 7 = [0] := by
    rw [Terminated, List.getD_eq_getElem _ _ (by omega)] at h
    rw [List.drop_eq_getElem_cons (by omega), h, List.drop_eq_nil_of_le (by omega)]
  have hbytes : v.toList.take 7 ++ [0] = v.toList := by
    rw [← hlast, List.take_append_drop]
  have hshort : (c_string v).length ≤ 7 := by
    rw [c_string, ← hbytes, List.takeWhile_append]
    split
    · rw [List.takeWhile_cons_of_neg (by decide), List.append_nil]
      exact List.length_take_le _ _
    · exact ((List.takeWhile_prefix _).length_le).trans (List.length_take_le _ _)
  rw [hbytes]
  exact List.take_of_length_le hshort

/-! ## Records are read back -/

def restored (now_ms : UInt32) (e : IdentityPin) : IdentityPin where
  used := true
  address := e.address
  ed25519_pub := e.ed25519_pub
  x25519_pub := e.x25519_pub
  last_confirmed_ms := now_ms
  verified := e.verified
  verified_sas :=
    if e.verified then
      snprintf_sas IdentityPin.zero.verified_sas (e.verified_sas.toList.take 7 ++ [0])
    else IdentityPin.zero.verified_sas
  key_changed := false

lemma read_verified (e : IdentityPin) (rest : List UInt8) :
    ((encode_record e ++ rest).getD 68 0 != 0) = e.verified ∧
      (get_bytes 7 ((encode_record e ++ rest).drop 69)).toList = e.verified_sas.toList.take 7 := by
  have hdrop : (encode_record e ++ rest).drop 68 =
      (if e.verified then 1 else 0) :: (e.verified_sas.toList ++ rest) := by
    simp [encode_record]
  have hbyte : (encode_record e ++ rest).getD 68 0 = if e.verified then 1 else 0 := by
    rw [List.getD_eq_getElem?_getD, ← List.head?_drop, hdrop]
    rfl
  have hsas : (encode_record e ++ rest).drop 69 = e.verified_sas.toList ++ rest := by
    rw [← List.drop_drop (i := 1) (j := 68), hdrop, List.drop_succ_cons, List.drop_zero]
  constructor
  · rw [hbyte]
    cases e.verified <;> rfl
  · rw [hsas, get_bytes, Vector.toList_ofFn]
    apply List.ext_getElem
    · simp
    · intro i hi hi'
      have hlt : i < 7 := by simpa using hi
      rw [List.getElem_ofFn, List.getElem_take,
        List.getD_append _ _ _ _ (by simp; omega), List.getD_eq_getElem]

/-! ## The table fills from the front -/

variable {s : Store} {l : List IdentityPin} {e : IdentityPin}

lemma pin_ofList (hs : s.entries = ofList .zero l) (hused : ∀ p ∈ l, p.used)
    {a : UInt32} (hnew : a ∉ l.map IdentityPin.address)
    (hroom : l.length < IDENTITY_STORE_CAPACITY) (ed x : Key32) (now_ms : UInt32) :
    find_entry s a = none ∧
      (identity_store_pin s a ed x now_ms).1.entries =
        ofList .zero (l ++ [bind_entry .zero a ed x now_ms]) := by
  have hfind : find_entry s a = none := by
    rw [find_entry, find_eq_none, hs]
    intro i
    rw [Bool.and_eq_false_iff, beq_eq_false_iff_ne]
    by_cases hi : i.val < l.length
    · right
      rw [ofList, List.getD_eq_getElem _ _ hi]
      exact fun heq => hnew (heq ▸ List.mem_map_of_mem (List.getElem_mem hi))
    · left
      rw [ofList, List.getD_eq_default _ _ (not_lt.1 hi)]
      rfl
  have hslot : alloc_slot s now_ms = ⟨l.length, hroom⟩ := by
    have hfree : find (fun e => !e.used) s.entries = some ⟨l.length, hroom⟩ := by
      rw [hs]
      exact find_ofList hroom (fun p hp => by rw [hused p hp]; rfl) rfl
    rw [alloc_slot, alloc_entry, hfree]
  have hzero : s.entries ⟨l.length, hroom⟩ = .zero := by
    rw [hs]
    exact List.getD_eq_default _ _ (le_refl _)
  refine ⟨hfind, ?_⟩
  have hentries := (alloc_entry_entries s now_ms).1
  rw [identity_store_pin, hfind]
  dsimp only [set_entry]
  rw [hentries, show (alloc_entry s now_ms).2 = ⟨l.length, hroom⟩ from hslot, hzero, hs,
    update_ofList]

lemma load_record_ofList (hs : s.entries = ofList .zero l)
    (hused : ∀ p ∈ l, p.used) (hnew : e.address ∉ l.map IdentityPin.address)
    (hroom : l.length < IDENTITY_STORE_CAPACITY) (now_ms : UInt32) (rest : List UInt8) :
    (load_record now_ms s (encode_record e ++ rest)).entries =
      ofList .zero (l ++ [restored now_ms e]) := by
  obtain ⟨ha, hed, hx⟩ := read_binding e rest
  obtain ⟨hverified, hsas⟩ := read_verified e rest
  obtain ⟨hfind, hpin⟩ := pin_ofList hs hused hnew hroom e.ed25519_pub e.x25519_pub now_ms
  rw [load_record, ha, hed, hx, hverified, hsas]
  generalize (identity_store_pin s e.address e.ed25519_pub e.x25519_pub now_ms).1 = s' at hpin ⊢
  rcases hv : e.verified with _ | _
  · rw [if_neg Bool.false_ne_true, hpin, restored, hv]
    rfl
  · -- the entry to verify is the one that has just been bound
    have hfind' : find_entry s' e.address = some ⟨l.length, hroom⟩ := by
      rw [find_entry, hpin, ← update_ofList hroom, ← hs]
      refine find_update_new hfind ?_
      rw [bind_entry, beq_self_eq_true]
      rfl
    rw [identity_store_set_verified, hfind']
    dsimp only [set_entry]
    rw [hpin, ← update_ofList hroom, update_idem, update_self,
      update_ofList, restored, hv]
    rfl

lemma load_records_ofList (now_ms : UInt32) (es : List IdentityPin)
    (hs : s.entries = ofList .zero l) (hused : ∀ p ∈ l, p.used)
    (hnodup : (l.map IdentityPin.address ++ es.map IdentityPin.address).Nodup)
    (hroom : l.length + es.length ≤ IDENTITY_STORE_CAPACITY) :
    (load_records now_ms es.length (es.flatMap encode_record) s).entries =
      ofList .zero (l ++ es.map (restored now_ms)) := by
  induction es generalizing s l with
  | nil => rw [List.map_nil, List.append_nil]; exact hs
  | cons e es ih =>
    rw [List.length_cons] at hroom
    have hnew : e.address ∉ l.map IdentityPin.address := fun hmem =>
      (List.nodup_append.1 hnodup).2.2 _ hmem _ List.mem_cons_self rfl
    have hone := load_record_ofList hs hused hnew (by omega) now_ms (es.flatMap encode_record)
    rw [List.length_cons, load_records, List.flatMap_cons]
    -- the loop steps over exactly the record it has read
    rw [← encode_record_length e, List.drop_left, ih hone]
    · rw [List.append_assoc, List.map_cons, List.singleton_append]
    · intro p hp
      rcases List.mem_append.1 hp with hp | hp
      · exact hused p hp
      · rw [List.mem_singleton.1 hp, restored]
    · rw [List.map_append, List.append_assoc]
      exact hnodup
    · rw [List.length_append, List.length_singleton]
      omega

/-! ## Lookups -/

lemma lookup_eq (s : Store) (a : UInt32) :
    identity_store_lookup s a = (used_entries s).find? fun e => e.address == a := by
  rw [identity_store_lookup, find_entry, map_find, used_entries, List.find?_filter]
  simp only [Bool.decide_and, Bool.decide_eq_true]

lemma used_entries_ofList (hs : s.entries = ofList .zero l)
    (hused : ∀ p ∈ l, p.used) (hroom : l.length ≤ IDENTITY_STORE_CAPACITY) :
    used_entries s = l := by
  rw [used_entries, hs, map_ofList hroom, List.filter_append, List.filter_eq_self.2 hused,
    List.filter_eq_nil_iff.2, List.append_nil]
  intro p hp
  rw [List.eq_of_mem_replicate hp]
  exact Bool.false_ne_true

lemma nodup_addresses (hu : Unique s) :
    ((used_entries s).map IdentityPin.address).Nodup := by
  rw [List.Nodup, List.pairwise_map, used_entries, List.pairwise_filter, List.pairwise_map]
  refine (List.nodup_finRange _).imp fun {i j} hij hi hj heq => ?_
  exact hij (hu i j _ ⟨hi, rfl⟩ ⟨hj, heq.symm⟩)

def view (e : IdentityPin) : (UInt32 × Key32 × Key32) × Option (List UInt8) :=
  (binding e, if e.verified then some (c_string e.verified_sas) else none)

lemma view_restored (h : Terminated e.verified_sas) (now_ms : UInt32) :
    view (restored now_ms e) = view e := by
  rw [view, view, restored]
  rcases e.verified with _ | _
  · rfl
  · rw [if_pos rfl, c_string_snprintf_sas, written_of_terminated h]
    rfl

structure Sound (s : Store) : Prop where
  unique : Unique s
  terminated : ∀ i, Terminated (s.entries i).verified_sas

lemma lookup_reloaded {t : Store} (h : Sound s) {buf : List UInt8} {len : ℕ}
    (hbuf : identity_store_serialize s len = some buf) (now_ms : UInt32) (a : UInt32) :
    (identity_store_lookup (identity_store_deserialize t buf now_ms).1 a).map view =
      (identity_store_lookup s a).map view := by
  obtain ⟨-, -, hload⟩ := deserialize_serialize (s := t) now_ms hbuf
  have hlen : (used_entries s).length ≤ IDENTITY_STORE_CAPACITY := by
    rw [used_entries_length]
    exact count_le s
  have htable := load_records_ofList now_ms (used_entries s) (s := reset t now_ms) (l := []) rfl
    (fun p hp => absurd hp List.not_mem_nil) (nodup_addresses h.unique) (by simpa using hlen)
  have hentries : used_entries (identity_store_deserialize t buf now_ms).1 =
      (used_entries s).map (restored now_ms) := by
    rw [hload]
    apply used_entries_ofList htable
    · intro p hp
      obtain ⟨e, -, rfl⟩ := List.mem_map.1 hp
      rfl
    · rwa [List.nil_append, List.length_map]
  rw [lookup_eq, lookup_eq, hentries, List.find?_map, Option.map_map]
  apply Option.map_congr
  intro e he
  have hmem := List.mem_of_find?_eq_some he
  rw [used_entries, List.mem_filter, List.mem_map] at hmem
  obtain ⟨⟨i, -, rfl⟩, -⟩ := hmem
  exact view_restored (h.terminated i) now_ms

/-! ## Any sequence of operations -/

inductive Operation
  | call (e : StoreEvent)
  | load (buf : List UInt8) (now_ms : UInt32)
deriving DecidableEq

def apply_operation (C : IdentityCrypto) (s : Store) : Operation → Store
  | .call e => apply_event C s e
  | .load buf now_ms => (identity_store_deserialize s buf now_ms).1

lemma sound_init (now_ms : UInt32) : Sound (identity_store_init now_ms) :=
  ⟨fun _ _ _ hi => absurd hi.1 Bool.false_ne_true, fun _ => terminated_zero⟩

lemma terminated_update {t t' : Fin IDENTITY_STORE_CAPACITY → IdentityPin}
    {i : Fin IDENTITY_STORE_CAPACITY} (h : ∀ j, Terminated (t j).verified_sas)
    (ht : t' = update t i e) (he : Terminated e.verified_sas)
    (j : Fin IDENTITY_STORE_CAPACITY) : Terminated (t' j).verified_sas := by
  rw [ht]
  by_cases hj : j = i
  · subst hj
    rw [update_self]
    exact he
  · rw [update_of_ne hj]
    exact h j

lemma terminated_edits {s' : Store} {a : UInt32} {f : IdentityPin → IdentityPin}
    (h : ∀ j, Terminated (s.entries j).verified_sas) (he : Edits s s' a f)
    (hf : ∀ e, Terminated e.verified_sas → Terminated (f e).verified_sas)
    (j : Fin IDENTITY_STORE_CAPACITY) : Terminated (s'.entries j).verified_sas := by
  obtain ⟨-, ⟨-, hentries⟩ | ⟨i, -, hentries⟩⟩ := he
  · rw [hentries]
    exact h j
  · exact terminated_update h hentries (hf _ (h i)) j

lemma terminated_pin (h : ∀ j, Terminated (s.entries j).verified_sas) (a : UInt32)
    (ed x : Key32) (now_ms : UInt32) (j : Fin IDENTITY_STORE_CAPACITY) :
    Terminated ((identity_store_pin s a ed x now_ms).1.entries j).verified_sas := by
  obtain ⟨-, ⟨-, -, hentries⟩ | ⟨-, i, -, -, hentries⟩ | ⟨-, hsame⟩⟩ := pin_cases s a ed x now_ms
  · exact terminated_update h hentries (h (alloc_slot s now_ms)) j
  · exact terminated_update h hentries (h i) j
  · rw [hsame.entries]
    exact h j

variable (C : IdentityCrypto)

lemma sound_apply_event (h : Sound s) (e : StoreEvent) : Sound (apply_event C s e) := by
  refine ⟨unique_step C h.unique e, fun j => ?_⟩
  cases e with
  | handle_attestation att self_addr now_ms epoch_ms =>
    rw [apply_event]
    obtain ⟨-, hsame⟩ | ⟨heq, -, -⟩ := attestation_cases C s att self_addr now_ms epoch_ms
    · rw [hsame.entries]
      exact h.terminated j
    · rw [heq]
      exact terminated_pin h.terminated _ _ _ _ j
  | pin a ed x now_ms => exact terminated_pin h.terminated a ed x now_ms j
  | set_anchor k =>
    obtain ⟨-, -, ⟨-, -, hentries⟩ | hentries⟩ := set_anchor_cases s k
    all_goals
      rw [apply_event, hentries]
      exact h.terminated j
  | set_verified a sas =>
    exact terminated_edits h.terminated (set_verified_edits s a sas)
      (fun _ he => terminated_snprintf_sas he sas) j
  | clear_verified a =>
    exact terminated_edits h.terminated (clear_verified_edits s a) (fun _ _ => terminated_zero) j
  | mark_key_changed a =>
    exact terminated_edits h.terminated (mark_key_changed_edits s a) (fun _ he => he) j

lemma sound_load_records (C : IdentityCrypto) (now_ms : UInt32) (count : ℕ) {buf : List UInt8}
    (h : Sound s) : Sound (load_records now_ms count buf s) := by
  induction count generalizing buf s with
  | zero => exact h
  | succ count ih =>
    apply ih
    rw [load_record]
    have hpin := sound_apply_event C h (.pin (get_be32 buf) (get_bytes 32 (buf.drop 4))
      (get_bytes 32 (buf.drop 36)) now_ms)
    split
    · exact sound_apply_event C hpin (.set_verified _ _)
    · exact hpin

lemma sound_apply_operation (h : Sound s) (op : Operation) : Sound (apply_operation C s op) := by
  cases op with
  | call e => exact sound_apply_event C h e
  | load buf now_ms =>
    have hreset : Sound (reset s now_ms) :=
      ⟨(sound_init now_ms).unique, (sound_init now_ms).terminated⟩
    rw [apply_operation]
    rcases deserialize_cases s buf now_ms with hload | hload
    · rw [hload]
      exact hreset
    · rw [hload]
      exact sound_load_records C now_ms _ hreset

lemma sound_after (start_ms : UInt32) (ops : List Operation) :
    Sound (ops.foldl (apply_operation C) (identity_store_init start_ms)) :=
  foldl_invariant (I := Sound) (C := fun _ _ => True)
    (fun _ op h _ => sound_apply_operation C h op) (meets_of_forall (fun _ _ _ => trivial) _)
    (sound_init start_ms)

lemma serialize_isSome (s : Store) :
    (identity_store_serialize s IDENTITY_STORE_BLOB_MAX).isSome := by
  have hle := Nat.mul_le_mul_right IDENTITY_STORE_RECORD_SIZE (count_le s)
  rw [identity_store_serialize, if_neg (by rw [IDENTITY_STORE_BLOB_MAX]; omega)]
  rfl

/-- **Pin store round trip.** A store that any operations have led to is saved, and every store
that loads the blob finds the same keys, verified bits and SAS of verified pins, and no others.
Whatever bytes are loaded, the loader fails and leaves no pin, or leaves only pins that are in
them. -/
theorem pin_store_round_trip (C : IdentityCrypto) (start_ms : UInt32) (ops : List Operation)
    (t : Store) (now_ms : UInt32) :
    let s := ops.foldl (apply_operation C) (identity_store_init start_ms)
    ((identity_store_serialize s IDENTITY_STORE_BLOB_MAX).isSome ∧
      ∀ len buf, identity_store_serialize s len = some buf →
        (identity_store_deserialize t buf now_ms).2 = 0 ∧
          ∀ a, (identity_store_lookup (identity_store_deserialize t buf now_ms).1 a).map view =
            (identity_store_lookup s a).map view) ∧
      ∀ buf, let r := identity_store_deserialize t buf now_ms
        (r.2 = -1 ∧ (∀ i, (r.1.entries i).used = false) ∨
          r.2 = 0 ∧ ∀ i, (r.1.entries i).used = true →
            binding (r.1.entries i) ∈ blob_bindings buf) ∧
        r.1.has_anchor = t.has_anchor ∧ r.1.anchor_pub = t.anchor_pub := by
  have hsound := sound_after C start_ms ops
  refine ⟨⟨serialize_isSome _, fun len buf hbuf => ⟨?_, ?_⟩⟩, fun buf => ⟨?_, ?_⟩⟩
  · rw [(deserialize_serialize now_ms hbuf).2.2]
  · exact lookup_reloaded hsound hbuf now_ms
  · rcases deserialize_cases t buf now_ms with h | h
    · left
      rw [h]
      exact ⟨rfl, fun _ => rfl⟩
    · exact .inr ⟨by rw [h], deserialize_boundIn t buf now_ms⟩
  · exact deserialize_anchor t buf now_ms

def two_pins : List Operation :=
  [.call (.pin 1 (key_of 1) (key_of 2) 10), .call (.pin 2 (key_of 3) (key_of 4) 20),
    .call (.set_verified 2 [49, 50, 51, 52, 53, 54, 55]), .call (.set_verified 2 [49, 50])]

def two_pins_blob : List UInt8 :=
  (identity_store_serialize (two_pins.foldl (apply_operation any_crypto) (identity_store_init 0))
    IDENTITY_STORE_BLOB_MAX).getD []

theorem pin_store_round_trip_two_pins :
    (identity_store_lookup
        (identity_store_deserialize (identity_store_init 5) two_pins_blob 30).1 2).map view =
      some ((2, key_of 3, key_of 4), some [49, 50]) := by
  have h := (pin_store_round_trip any_crypto 0 two_pins (identity_store_init 5) 30).1.2
    IDENTITY_STORE_BLOB_MAX two_pins_blob (by decide +kernel)
  rw [h.2 2]
  decide +kernel

end BrambleMesh.IdentityReload
