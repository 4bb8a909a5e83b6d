/-
The pin store as a blob: `identity_store_serialize` and `identity_store_deserialize` of
components/identity/identity_store.c.
-/
import BrambleMesh.IdentityStore

open BrambleMesh.Bytes BrambleMesh.IdentityStore Function List

namespace BrambleMesh.IdentityBlob

/-! ## The source -/

def IDENTITY_STORE_BLOB_VERSION : UInt8 := 1

def IDENTITY_STORE_RECORD_SIZE : ℕ := 4 + 32 + 32 + 1 + 8

def IDENTITY_STORE_BLOB_MAX : ℕ := 2 + IDENTITY_STORE_CAPACITY * IDENTITY_STORE_RECORD_SIZE

def encode_record (e : IdentityPin) : List UInt8 :=
  be32 e.address ++ (e.ed25519_pub.toList ++ (e.x25519_pub.toList ++
    ((if e.verified then 1 else 0) :: e.verified_sas.toList)))

def used_entries (s : Store) : List IdentityPin :=
  ((List.finRange IDENTITY_STORE_CAPACITY).map s.entries).filter fun e => e.used

def identity_store_serialize (s : Store) (buf_len : ℕ) : Option (List UInt8) :=
  let count := identity_store_count s
  if buf_len < 2 + count * IDENTITY_STORE_RECORD_SIZE then none
  else
    some (IDENTITY_STORE_BLOB_VERSION :: UInt8.ofNat count ::
      (used_entries s).flatMap encode_record)

def load_record (now_ms : UInt32) (s : Store) (buf : List UInt8) : Store :=
  let address := get_be32 buf
  let ed := get_bytes 32 (buf.drop 4)
  let x := get_bytes 32 (buf.drop 36)
  let verified := buf.getD 68 0 != 0
  -- the last byte is forced to the terminating zero
  let sas := (get_bytes 7 (buf.drop 69)).toList ++ [0]
  let s := (identity_store_pin s address ed x now_ms).1
  if verified then (identity_store_set_verified s address sas).1 else s

def load_records (now_ms : UInt32) : ℕ → List UInt8 → Store → Store
  | 0, _, s => s
  | count + 1, buf, s =>
    load_records now_ms count (buf.drop IDENTITY_STORE_RECORD_SIZE) (load_record now_ms s buf)

def identity_store_deserialize (s : Store) (buf : List UInt8) (now_ms : UInt32) : Store × Int :=
  let fresh := { identity_store_init now_ms with
    has_anchor := s.has_anchor, anchor_pub := s.anchor_pub,
    grace_forced_closed := s.grace_forced_closed }
  if buf.length < 2 then (fresh, -1)
  else if buf.getD 0 0 ≠ IDENTITY_STORE_BLOB_VERSION then (fresh, -1)
  else
    let count := (buf.getD 1 0).toNat
    if count > IDENTITY_STORE_CAPACITY then (fresh, -1)
    else if buf.length < 2 + count * IDENTITY_STORE_RECORD_SIZE then (fresh, -1)
    else (load_records now_ms count (buf.drop 2) fresh, 0)

/-! ## Records are read back -/

def binding (e : IdentityPin) : UInt32 × Key32 × Key32 := (e.address, e.ed25519_pub, e.x25519_pub)

lemma encode_record_length (e : IdentityPin) :
    (encode_record e).length = IDENTITY_STORE_RECORD_SIZE := by
  simp [encode_record, IDENTITY_STORE_RECORD_SIZE]

lemma read_binding (e : IdentityPin) (rest : List UInt8) :
    get_be32 (encode_record e ++ rest) = e.address ∧
      get_bytes 32 ((encode_record e ++ rest).drop 4) = e.ed25519_pub ∧
      get_bytes 32 ((encode_record e ++ rest).drop 36) = e.x25519_pub := by
  simp [encode_record]

/-! ## What a load leaves in the table -/

def BoundIn (B : List (UInt32 × Key32 × Key32)) (s : Store) : Prop :=
  ∀ i, (s.entries i).used = true → binding (s.entries i) ∈ B

variable {B : List (UInt32 × Key32 × Key32)} {s s' : Store} {buf : List UInt8}

lemma boundIn_pin (h : BoundIn B s) (a : UInt32) (ed x : Key32) (now_ms : UInt32)
    (hB : (a, ed, x) ∈ B) :
    BoundIn B (identity_store_pin s a ed x now_ms).1 := by
  intro i hi
  obtain ⟨-, ⟨-, -, hentries⟩ | ⟨-, j, -, -, hentries⟩ | ⟨-, hsame⟩⟩ := pin_cases s a ed x now_ms
  · rw [hentries] at hi ⊢
    by_cases hij : i = alloc_slot s now_ms
    · rw [hij, update_self]
      exact hB
    · rw [update_of_ne hij] at hi ⊢
      exact h i hi
  · rw [hentries] at hi ⊢
    by_cases hij : i = j
    · subst hij
      rw [update_self] at hi ⊢
      exact h i hi
    · rw [update_of_ne hij] at hi ⊢
      exact h i hi
  · rw [hsame.entries] at hi ⊢
    exact h i hi

lemma boundIn_edits {a : UInt32} {f : IdentityPin → IdentityPin} (h : BoundIn B s)
    (he : Edits s s' a f) (hf : ∀ e, (f e).used = e.used ∧ binding (f e) = binding e) :
    BoundIn B s' := by
  intro i hi
  obtain ⟨-, ⟨-, hentries⟩ | ⟨j, -, hentries⟩⟩ := he
  · rw [hentries] at hi ⊢
    exact h i hi
  · rw [hentries] at hi ⊢
    by_cases hij : i = j
    · subst hij
      rw [update_self] at hi ⊢
      rw [(hf _).1] at hi
      rw [(hf _).2]
      exact h i hi
    · rw [update_of_ne hij] at hi ⊢
      exact h i hi

def record_binding (buf : List UInt8) : UInt32 × Key32 × Key32 :=
  (get_be32 buf, get_bytes 32 (buf.drop 4), get_bytes 32 (buf.drop 36))

lemma record_binding_encode (e : IdentityPin) (rest : List UInt8) :
    record_binding (encode_record e ++ rest) = binding e := by
  obtain ⟨ha, hed, hx⟩ := read_binding e rest
  rw [record_binding, ha, hed, hx, binding]

lemma boundIn_load_record (h : BoundIn B s) (now_ms : UInt32) (hbuf : record_binding buf ∈ B) :
    BoundIn B (load_record now_ms s buf) := by
  unfold load_record
  dsimp only
  have hpin := boundIn_pin h _ _ _ now_ms hbuf
  split
  · exact boundIn_edits hpin (set_verified_edits _ _ _) fun _ => ⟨rfl, rfl⟩
  · exact hpin

lemma boundIn_load_records (now_ms : UInt32) (count : ℕ)
    (hB : ∀ k < count, record_binding (buf.drop (IDENTITY_STORE_RECORD_SIZE * k)) ∈ B)
    (h : BoundIn B s) : BoundIn B (load_records now_ms count buf s) := by
  induction count generalizing buf s with
  | zero => exact h
  | succ count ih =>
    apply ih
    · intro k hk
      rw [drop_drop, Nat.add_comm, ← Nat.mul_succ]
      exact hB (k + 1) (Nat.succ_lt_succ hk)
    · exact boundIn_load_record h now_ms (hB 0 (Nat.succ_pos count))

def blob_bindings (buf : List UInt8) : List (UInt32 × Key32 × Key32) :=
  (List.range (buf.getD 1 0).toNat).map fun k =>
    record_binding ((buf.drop 2).drop (IDENTITY_STORE_RECORD_SIZE * k))

lemma used_entries_length (s : Store) : (used_entries s).length = identity_store_count s := by
  rw [used_entries, ← countP_eq_length_filter, countP_map]
  rfl

lemma count_le (s : Store) : identity_store_count s ≤ IDENTITY_STORE_CAPACITY := by
  rw [← used_entries_length]
  exact le_trans (length_filter_le _ _) (by simp)

lemma load_records_anchor (now_ms : UInt32) (count : ℕ) (buf : List UInt8) (s : Store) :
    (load_records now_ms count buf s).has_anchor = s.has_anchor ∧
      (load_records now_ms count buf s).anchor_pub = s.anchor_pub := by
  induction count generalizing buf s with
  | zero => exact ⟨rfl, rfl⟩
  | succ count ih =>
    rw [load_records]
    obtain ⟨hanch, hkey⟩ := ih (buf.drop IDENTITY_STORE_RECORD_SIZE) (load_record now_ms s buf)
    rw [hanch, hkey]
    unfold load_record
    dsimp only
    have hpin := (pin_cases s (get_be32 buf) (get_bytes 32 (buf.drop 4))
      (get_bytes 32 (buf.drop 36)) now_ms).1
    split
    · have hset := (set_verified_edits (identity_store_pin s (get_be32 buf)
        (get_bytes 32 (buf.drop 4)) (get_bytes 32 (buf.drop 36)) now_ms).1 (get_be32 buf)
        ((get_bytes 7 (buf.drop 69)).toList ++ [0])).1
      exact ⟨hset.1.trans hpin.1, hset.2.trans hpin.2⟩
    · exact hpin

def reset (s : Store) (now_ms : UInt32) : Store :=
  { identity_store_init now_ms with
    has_anchor := s.has_anchor, anchor_pub := s.anchor_pub,
    grace_forced_closed := s.grace_forced_closed }

lemma deserialize_cases (s : Store) (buf : List UInt8) (now_ms : UInt32) :
    identity_store_deserialize s buf now_ms = (reset s now_ms, -1) ∨
      identity_store_deserialize s buf now_ms =
        (load_records now_ms (buf.getD 1 0).toNat (buf.drop 2) (reset s now_ms), 0) := by
  unfold identity_store_deserialize
  dsimp only
  split_ifs
  · exact Or.inl rfl
  · exact Or.inl rfl
  · exact Or.inl rfl
  · exact Or.inl rfl
  · exact Or.inr rfl

lemma deserialize_anchor (s : Store) (buf : List UInt8) (now_ms : UInt32) :
    (identity_store_deserialize s buf now_ms).1.has_anchor = s.has_anchor ∧
      (identity_store_deserialize s buf now_ms).1.anchor_pub = s.anchor_pub := by
  rcases deserialize_cases s buf now_ms with h | h
  · rw [h]
    exact ⟨rfl, rfl⟩
  · rw [h]
    exact load_records_anchor _ _ _ _

/-- **Any bytes.**  Whatever byte string is loaded, every pin afterwards is in one of its
records. -/
theorem deserialize_boundIn (s : Store) (buf : List UInt8) (now_ms : UInt32) :
    BoundIn (blob_bindings buf) (identity_store_deserialize s buf now_ms).1 := by
  have hempty : BoundIn (blob_bindings buf) (reset s now_ms) := by
    intro i hi
    cases hi
  rcases deserialize_cases s buf now_ms with h | h
  · rw [h]
    exact hempty
  · rw [h]
    refine boundIn_load_records now_ms _ (fun k hk => ?_) hempty
    exact mem_map.2 ⟨k, mem_range.2 hk, rfl⟩

lemma deserialize_serialize {len : ℕ} (now_ms : UInt32)
    (hbuf : identity_store_serialize s' len = some buf) :
    (buf.getD 1 0).toNat = (used_entries s').length ∧
      buf.drop 2 = (used_entries s').flatMap encode_record ∧
      identity_store_deserialize s buf now_ms =
        (load_records now_ms (used_entries s').length ((used_entries s').flatMap encode_record)
          (reset s now_ms), 0) := by
  unfold identity_store_serialize at hbuf
  dsimp only at hbuf
  split_ifs at hbuf
  cases hbuf
  have hle : identity_store_count s' ≤ 32 := count_le s'
  -- the count byte is the number of records that follow
  have hcount : (UInt8.ofNat (identity_store_count s')).toNat = (used_entries s').length := by
    rw [UInt8.toNat_ofNat', used_entries_length, Nat.mod_eq_of_lt (by omega)]
  have hlength : ((used_entries s').flatMap encode_record).length =
      (used_entries s').length * IDENTITY_STORE_RECORD_SIZE := by
    rw [length_flatMap, map_congr_left fun e _ => encode_record_length e,
      map_const', sum_replicate, smul_eq_mul]
  refine ⟨hcount, rfl, ?_⟩
  unfold identity_store_deserialize
  simp only [getD_cons_succ, getD_cons_zero, drop_succ_cons, drop_zero,
    length_cons, hcount, hlength]
  rw [if_neg (by omega), if_neg (not_not.2 rfl),
    if_neg (by rw [used_entries_length]; exact not_lt.2 hle), if_neg (by omega)]
  rfl

/-- **A load pins only what was saved.**  Every pin of a store loaded from the blob of `s'`
has the binding of an entry that `s'` had in use. -/
theorem load_pins {len : ℕ} (now_ms : UInt32) (hbuf : identity_store_serialize s' len = some buf) :
    BoundIn ((used_entries s').map binding) (identity_store_deserialize s buf now_ms).1 := by
  obtain ⟨hcount, hrecords, -⟩ := deserialize_serialize (s := s) now_ms hbuf
  intro i hi
  obtain ⟨k, hk, hbind⟩ := mem_map.1 (deserialize_boundIn s buf now_ms i hi)
  rw [← hbind, hrecords, drop_flatMap encode_record_length]
  rw [mem_range, hcount] at hk
  rw [drop_eq_getElem_cons hk, flatMap_cons, record_binding_encode]
  exact mem_map_of_mem (getElem_mem hk)

end BrambleMesh.IdentityBlob
