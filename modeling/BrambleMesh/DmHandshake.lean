/-
The messages of the direct-message handshake: components/dm_session/dm_session.c. From an
ephemeral and a long-term X25519 key each, both ends compute 128 bytes of key material.
-/
import BrambleMesh.DmRatchet

namespace BrambleMesh.DmHandshake

open Bytes DmRatchet Option

/-! ## Ordering the mixed products -/

def ct_le_byte (acc : UInt32 × UInt32) (ab : UInt8 × UInt8) : UInt32 × UInt32 :=
  let ai := ab.1.toUInt32
  let bi := ab.2.toUInt32
  let is_gt := (bi - ai) >>> 31
  let is_lt := (ai - bi) >>> 31
  let is_diff := is_gt ||| is_lt
  let apply := is_diff &&& (1 - acc.1)
  let apply_mask := 0 - apply
  (acc.1 ||| is_diff, (acc.2 &&& ~~~apply_mask) ||| (is_lt &&& apply_mask))

def ct_le32 (a b : Key32) : UInt32 :=
  ((a.toList.zip b.toList).foldl ct_le_byte (0, 1)).2

def ct_select (le_mask : UInt32) (x y : UInt8) : UInt8 :=
  ((x.toUInt32 &&& le_mask) ||| (y.toUInt32 &&& ~~~le_mask)).toUInt8

def sorted_pair (cross_a cross_b : Key32) : Key32 × Key32 :=
  let le_mask := 0 - ct_le32 cross_a cross_b
  (cross_a.zipWith (ct_select le_mask) cross_b, cross_b.zipWith (ct_select le_mask) cross_a)

/-! ## Key material -/

variable (C : KeCrypto)

def dm_compute_ikm (my_id_priv my_eph_priv peer_id_pub peer_eph_pub : Key32) :
    Option Ikm := do
  let dh1 ← C.x25519_dh my_eph_priv peer_eph_pub
  let dh2 ← C.x25519_dh my_id_priv peer_id_pub
  let cross_a ← C.x25519_dh my_eph_priv peer_id_pub
  let cross_b ← C.x25519_dh my_id_priv peer_eph_pub
  let (lo, hi) := sorted_pair cross_a cross_b
  return dh1 ++ dh2 ++ lo ++ hi

def ikm_dh (ikm : Ikm) : Key32 := Vector.ofFn fun i => ikm.get (i.castLE (by decide))

def mac_head (mac : Key32) : Tag16 := Vector.ofFn fun i => mac.get (i.castLE (by decide))

def dm_derive_ke_tag (label ikm : List UInt8) (addr_a addr_b : UInt32)
    (ke_epoch : UInt16) (transcript : List UInt8) : Option Tag16 :=
  let info := dm_build_info addr_a addr_b ke_epoch
  if label.length + info.length > 32 then none
  else do
    let key ← C.hkdf_sha256 "bramble-dm-v2".toUTF8.toList ikm (label ++ info)
    let full_mac ← C.hmac_sha256 key transcript
    return mac_head full_mac

/-! ## Messages -/

inductive KeType
  | INIT
  | RESP
deriving DecidableEq, Repr

structure KeyExchange where
  src_addr : UInt32
  ephemeral_pubkey : Key32
  long_term_pubkey : Key32
  key_id : UInt8
  ke_type : KeType
  auth_tag : Tag16
deriving DecidableEq, Repr

structure Identity where
  address : UInt32
  private_key : Key32
  public_key : Key32
deriving DecidableEq, Repr

def Tag16.zero : Tag16 := Vector.replicate 16 0

def transcript_1 (addr_init addr_resp : UInt32) (eph_init id_init : Key32) : List UInt8 :=
  be32 addr_init ++ be32 addr_resp ++ eph_init.toList ++ id_init.toList

def transcript_2 (addr_init addr_resp : UInt32) (eph_init id_init eph_resp id_resp : Key32) :
    List UInt8 :=
  transcript_1 addr_init addr_resp eph_init id_init ++ eph_resp.toList ++ id_resp.toList

def init_tag (dh2 dh3 : Key32) (addr_init addr_resp : UInt32) (ke_epoch : UInt16)
    (eph_init id_init : Key32) : Option Tag16 :=
  dm_derive_ke_tag C "bramble-ke-init".toUTF8.toList (dh2.toList ++ dh3.toList) addr_init addr_resp
    ke_epoch (transcript_1 addr_init addr_resp eph_init id_init)

def confirm_tag (ikm : Ikm) (addr_init addr_resp : UInt32) (ke_epoch : UInt16)
    (eph_init id_init eph_resp id_resp : Key32) : Option Tag16 :=
  dm_derive_ke_tag C "bramble-ke-confirm".toUTF8.toList ikm.toList addr_init addr_resp ke_epoch
    (transcript_2 addr_init addr_resp eph_init id_init eph_resp id_resp)

def dm_build_init (my_id : Identity) (my_eph_pub my_eph_priv : Key32)
    (peer_addr : UInt32) (ke_epoch : UInt16) (peer_id_pub_or_null : Option Key32) :
    Option KeyExchange :=
  let out : KeyExchange :=
    ⟨my_id.address, my_eph_pub, my_id.public_key, (ke_epoch &&& 0xFF).toUInt8, .INIT, .zero⟩
  match peer_id_pub_or_null with
  | none => some out
  | some peer_id_pub => do
    let dh2 ← C.x25519_dh my_id.private_key peer_id_pub
    let dh3 ← C.x25519_dh my_eph_priv peer_id_pub
    let tag ← init_tag C dh2 dh3 my_id.address peer_addr ke_epoch my_eph_pub my_id.public_key
    return { out with auth_tag := tag }

inductive VerifyError
  | FAIL
  | PIN_MISMATCH
deriving DecidableEq, Repr

def dm_verify_init (msg : KeyExchange) (my_id : Identity)
    (peer_id_pub pinned_or_null : Option Key32) : Except VerifyError Unit :=
  if msg.ke_type ≠ .INIT then .error .FAIL
  else if ∃ p ∈ pinned_or_null, msg.long_term_pubkey ≠ p then .error .PIN_MISMATCH
  else
    match peer_id_pub with
    | none => .ok ()
    | some peer_id_pub =>
      let expect_tag := do
        let dh2 ← C.x25519_dh my_id.private_key peer_id_pub
        let dh3 ← C.x25519_dh my_id.private_key msg.ephemeral_pubkey
        init_tag C dh2 dh3 msg.src_addr my_id.address msg.key_id.toUInt16 msg.ephemeral_pubkey
          msg.long_term_pubkey
      if expect_tag = some msg.auth_tag then .ok () else .error .FAIL

def dm_build_resp (my_id : Identity) (my_eph_pub my_eph_priv : Key32)
    (init : KeyExchange) (ke_epoch : UInt16) : Option (KeyExchange × Key32) := do
  let ikm ← dm_compute_ikm C my_id.private_key my_eph_priv init.long_term_pubkey
    init.ephemeral_pubkey
  let session_key ← dm_session_key_from_ikm C.toDmCrypto ikm my_id.address init.src_addr ke_epoch
  let tag ← confirm_tag C ikm init.src_addr my_id.address ke_epoch init.ephemeral_pubkey
    init.long_term_pubkey my_eph_pub my_id.public_key
  return (⟨my_id.address, my_eph_pub, my_id.public_key, (ke_epoch &&& 0xFF).toUInt8, .RESP, tag⟩,
    session_key)

def dm_verify_resp (resp : KeyExchange) (my_id : Identity)
    (my_eph_priv my_eph_pub : Key32) (ke_epoch : UInt16) (pinned_or_null : Option Key32) :
    Except VerifyError Key32 :=
  if resp.ke_type ≠ .RESP then .error .FAIL
  else if ∃ p ∈ pinned_or_null, resp.long_term_pubkey ≠ p then .error .PIN_MISMATCH
  else
    let expected := do
      let ikm ← dm_compute_ikm C my_id.private_key my_eph_priv resp.long_term_pubkey
        resp.ephemeral_pubkey
      let local_key ← dm_session_key_from_ikm C.toDmCrypto ikm my_id.address resp.src_addr ke_epoch
      let expect_tag ← confirm_tag C ikm my_id.address resp.src_addr ke_epoch my_eph_pub
        my_id.public_key resp.ephemeral_pubkey resp.long_term_pubkey
      return (local_key, expect_tag)
    match expected with
    | none => .error .FAIL
    | some (local_key, expect_tag) =>
      if expect_tag = resp.auth_tag then .ok local_key else .error .FAIL

/-! ## Agreement on the key material -/

variable (x y : UInt8)

lemma sub_sign :
    (x.toUInt32 - y.toUInt32) >>> 31 = if x < y then 1 else 0 := by
  have hx := x.toNat_lt
  have hy := y.toNat_lt
  rw [← UInt32.toNat_inj, UInt32.toNat_shiftRight, UInt32.toNat_sub, UInt8.toNat_toUInt32,
    UInt8.toNat_toUInt32, show (31 : UInt32).toNat % 32 = 31 from rfl]
  split_ifs with h
  · rw [UInt8.lt_iff_toNat_lt] at h
    rw [show (1 : UInt32).toNat = 1 from rfl]
    omega
  · rw [UInt8.lt_iff_toNat_lt] at h
    rw [show (0 : UInt32).toNat = 0 from rfl]
    omega

lemma ct_le_byte_open :
    ct_le_byte (0, 1) (x, y) = if x = y then (0, 1) else if x < y then (1, 1) else (1, 0) := by
  unfold ct_le_byte
  dsimp only
  rw [sub_sign, sub_sign]
  by_cases hxy : x = y
  · subst hxy
    rw [if_neg (UInt8.lt_irrefl x), if_pos rfl]
    decide
  · rw [if_neg hxy]
    rcases UInt8.lt_or_lt_of_ne hxy with h | h
    · simp only [h, UInt8.lt_asymm h]
      decide
    · simp only [h, UInt8.lt_asymm h]
      decide

lemma ct_le_byte_decided {r : UInt32} (hr : r = 0 ∨ r = 1) :
    ct_le_byte (1, r) (x, y) = (1, r) := by
  unfold ct_le_byte
  dsimp only
  rw [sub_sign, sub_sign]
  rcases hr with rfl | rfl <;> split_ifs <;> decide

@[simp] lemma ct_select_ones : ct_select (0 - 1) x y = x := by
  unfold ct_select
  rw [show (0 : UInt32) - 1 = -1 from rfl]
  simp

@[simp] lemma ct_select_zero : ct_select (0 - 0) x y = y := by
  unfold ct_select
  rw [show (0 : UInt32) - 0 = 0 from rfl]
  simp

def Opposite (p q : UInt32 × UInt32) : Prop :=
  p = (0, 1) ∧ q = (0, 1) ∨ p = (1, 1) ∧ q = (1, 0) ∨ p = (1, 0) ∧ q = (1, 1)

lemma Opposite.byte {p q : UInt32 × UInt32} (h : Opposite p q) (x y : UInt8) :
    Opposite (ct_le_byte p (x, y)) (ct_le_byte q (y, x)) := by
  rcases h with ⟨rfl, rfl⟩ | ⟨rfl, rfl⟩ | ⟨rfl, rfl⟩
  · rw [ct_le_byte_open, ct_le_byte_open]
    by_cases hxy : x = y
    · rw [if_pos hxy, if_pos hxy.symm]
      exact .inl ⟨rfl, rfl⟩
    · rw [if_neg hxy, if_neg (Ne.symm hxy)]
      rcases UInt8.lt_or_lt_of_ne hxy with h | h
      · rw [if_pos h, if_neg (UInt8.lt_asymm h)]
        exact .inr (.inl ⟨rfl, rfl⟩)
      · rw [if_pos h, if_neg (UInt8.lt_asymm h)]
        exact .inr (.inr ⟨rfl, rfl⟩)
  · rw [ct_le_byte_decided x y (.inr rfl), ct_le_byte_decided y x (.inl rfl)]
    exact .inr (.inl ⟨rfl, rfl⟩)
  · rw [ct_le_byte_decided x y (.inl rfl), ct_le_byte_decided y x (.inr rfl)]
    exact .inr (.inr ⟨rfl, rfl⟩)

lemma opposite_fold (as : List UInt8) : ∀ (bs : List UInt8) (p q : UInt32 × UInt32),
    as.length = bs.length → Opposite p q →
    Opposite ((as.zip bs).foldl ct_le_byte p) ((bs.zip as).foldl ct_le_byte q) ∧
      ((as.zip bs).foldl ct_le_byte p = (0, 1) → p = (0, 1) ∧ as = bs) := by
  induction as with
  | nil =>
    intro bs p q hlen hopp
    rw [List.eq_nil_of_length_eq_zero hlen.symm]
    exact ⟨hopp, fun h => ⟨h, rfl⟩⟩
  | cons x as ih =>
    intro bs p q hlen hopp
    match bs with
    | [] => exact absurd hlen (Nat.succ_ne_zero _)
    | y :: bs =>
      obtain ⟨hopp', hopen⟩ := ih bs (ct_le_byte p (x, y)) (ct_le_byte q (y, x))
        (Nat.succ.inj hlen) (hopp.byte x y)
      refine ⟨hopp', fun h => ?_⟩
      obtain ⟨hbyte, rfl⟩ := hopen h
      -- a byte leaves the matter open only if it was open, and only if it is the same
      rcases hopp with ⟨rfl, -⟩ | ⟨rfl, -⟩ | ⟨rfl, -⟩
      · rw [ct_le_byte_open] at hbyte
        split_ifs at hbyte with hxy hlt
        · exact ⟨rfl, by rw [hxy]⟩
        · cases hbyte
        · cases hbyte
      · rw [ct_le_byte_decided x y (.inr rfl)] at hbyte
        cases hbyte
      · rw [ct_le_byte_decided x y (.inl rfl)] at hbyte
        cases hbyte

lemma ct_le32_opposite {a b : Key32} (hne : a ≠ b) :
    ct_le32 a b = 1 ∧ ct_le32 b a = 0 ∨ ct_le32 a b = 0 ∧ ct_le32 b a = 1 := by
  have hlen : a.toList.length = b.toList.length := by
    rw [Vector.length_toList, Vector.length_toList]
  obtain ⟨hopp, hopen⟩ := opposite_fold a.toList b.toList (0, 1) (0, 1) hlen (.inl ⟨rfl, rfl⟩)
  unfold ct_le32
  rcases hopp with ⟨h, -⟩ | ⟨h, h'⟩ | ⟨h, h'⟩
  · exact absurd (Vector.toList_inj.1 (hopen h).2) hne
  · rw [h, h']
    exact .inl ⟨rfl, rfl⟩
  · rw [h, h']
    exact .inr ⟨rfl, rfl⟩

lemma sorted_pair_comm (a b : Key32) : sorted_pair a b = sorted_pair b a := by
  by_cases hne : a = b
  · rw [hne]
  · have hfst : ∀ x y : Key32, Vector.zipWith (ct_select (0 - 1)) x y = x := by
      intro x y
      ext i hi
      rw [Vector.getElem_zipWith, ct_select_ones]
    have hsnd : ∀ x y : Key32, Vector.zipWith (ct_select (0 - 0)) x y = y := by
      intro x y
      ext i hi
      rw [Vector.getElem_zipWith, ct_select_zero]
    unfold sorted_pair
    dsimp only
    rcases ct_le32_opposite hne with ⟨h, h'⟩ | ⟨h, h'⟩ <;> rw [h, h', hfst, hfst, hsnd, hsnd]

variable {C : KeCrypto}

/-- **Both ends compute the same key material.** -/
theorem compute_ikm_symm (hD : C.DhSymmetric) (a_id a_eph b_id b_eph : Key32) :
    ∃ ikm, dm_compute_ikm C a_id a_eph (C.public_key b_id) (C.public_key b_eph) = some ikm ∧
      dm_compute_ikm C b_id b_eph (C.public_key a_id) (C.public_key a_eph) = some ikm := by
  obtain ⟨dh1, h1, h1'⟩ := hD a_eph b_eph
  obtain ⟨dh2, h2, h2'⟩ := hD a_id b_id
  obtain ⟨dh3, h3, h3'⟩ := hD a_eph b_id
  obtain ⟨dh4, h4, h4'⟩ := hD a_id b_eph
  refine ⟨dh1 ++ dh2 ++ (sorted_pair dh3 dh4).1 ++ (sorted_pair dh3 dh4).2, ?_, ?_⟩
  · unfold dm_compute_ikm
    rw [h1, h2, h3, h4]
    rfl
  · unfold dm_compute_ikm
    rw [h1', h2', h4', h3', sorted_pair_comm dh3 dh4]
    rfl

lemma derive_ke_tag_isSome (hC : C.HkdfTotal) (hM : C.HmacTotal) (label : List UInt8)
    (hlabel : label.length ≤ 22) (ikm : List UInt8) (addr_a addr_b : UInt32) (ke_epoch : UInt16)
    (transcript : List UInt8) :
    ∃ tag, dm_derive_ke_tag C label ikm addr_a addr_b ke_epoch transcript = some tag := by
  have hinfo : (dm_build_info addr_a addr_b ke_epoch).length = 10 := rfl
  obtain ⟨key, hkey⟩ := isSome_iff_exists.1 (hC "bramble-dm-v2".toUTF8.toList ikm
    (label ++ dm_build_info addr_a addr_b ke_epoch))
  obtain ⟨mac, hmac⟩ := isSome_iff_exists.1 (hM key transcript)
  refine ⟨mac_head mac, ?_⟩
  unfold dm_derive_ke_tag
  rw [if_neg (by omega), hkey]
  dsimp only [bind_eq_bind, bind_some]
  rw [hmac]
  rfl

lemma dm_build_info_comm (a b : UInt32) (e : UInt16) :
    dm_build_info a b e = dm_build_info b a e := by
  unfold dm_build_info
  by_cases hab : a = b
  · rw [hab]
  · rcases UInt32.lt_or_lt_of_ne hab with h | h <;>
      rw [if_pos h, if_pos h, if_neg (UInt32.lt_asymm h), if_neg (UInt32.lt_asymm h)]

@[simp] lemma key_id_of_epoch (k : UInt8) : (k.toUInt16 &&& 0xFF).toUInt8 = k := by
  have hk := k.toNat_lt
  rw [← UInt8.toNat_inj, UInt16.toNat_toUInt8, UInt16.toNat_and, UInt8.toNat_toUInt16,
    show (0xFF : UInt16).toNat = 2 ^ 8 - 1 from rfl, Nat.and_two_pow_sub_one_eq_mod]
  omega

def PinOf (id : Identity) (pinned : Option Key32) : Prop := ∀ p ∈ pinned, p = id.public_key

lemma PinOf.matches {id : Identity} {pinned : Option Key32} (h : PinOf id pinned) :
    ¬ ∃ p ∈ pinned, id.public_key ≠ p := by
  rintro ⟨p, hp, hne⟩
  exact hne (h p hp).symm

def Identity.Wf (C : KeCrypto) (id : Identity) : Prop :=
  id.public_key = C.public_key id.private_key

/-- **The initiator accepts the RESP to its own INIT**, with the session key and the key
material of the responder. -/
theorem verify_built_resp (hC : C.HkdfTotal) (hM : C.HmacTotal) (hD : C.DhSymmetric)
    {x y : Identity} (hx : x.Wf C) (hy : y.Wf C) (e f : Key32) {init : KeyExchange}
    (hsrc : init.src_addr = x.address) (heph : init.ephemeral_pubkey = C.public_key e)
    (hlong : init.long_term_pubkey = x.public_key) :
    ∃ resp key ikm,
      dm_build_resp C y (C.public_key f) f init init.key_id.toUInt16 = some (resp, key) ∧
      (resp.src_addr = y.address ∧ resp.long_term_pubkey = y.public_key ∧
        resp.key_id = init.key_id ∧ resp.ke_type = .RESP) ∧
      dm_compute_ikm C y.private_key f init.long_term_pubkey init.ephemeral_pubkey = some ikm ∧
      dm_compute_ikm C x.private_key e resp.long_term_pubkey resp.ephemeral_pubkey = some ikm ∧
      ∀ pinned, PinOf y pinned →
        dm_verify_resp C resp x e (C.public_key e) resp.key_id.toUInt16 pinned = .ok key := by
  -- both ends form the same key material, from which everything else is derived
  obtain ⟨ikm, hikmx, hikmy⟩ := compute_ikm_symm hD x.private_key e y.private_key f
  rw [← hy] at hikmx
  rw [← hx] at hikmy
  obtain ⟨key, hkey⟩ := isSome_iff_exists.1 (hC "bramble-dm-v2".toUTF8.toList ikm.toList
    (dm_build_info y.address x.address init.key_id.toUInt16))
  obtain ⟨tag, htag⟩ := derive_ke_tag_isSome hC hM "bramble-ke-confirm".toUTF8.toList
    (by decide +kernel) ikm.toList x.address y.address init.key_id.toUInt16
    (transcript_2 x.address y.address (C.public_key e) x.public_key (C.public_key f) y.public_key)
  have hbuild : dm_build_resp C y (C.public_key f) f init init.key_id.toUInt16 =
      some (⟨y.address, C.public_key f, y.public_key, init.key_id, .RESP, tag⟩, key) := by
    unfold dm_build_resp dm_session_key_from_ikm confirm_tag
    rw [hsrc, heph, hlong, hikmy]
    dsimp only [bind_eq_bind, bind_some]
    rw [hkey]
    rw [htag]
    rw [key_id_of_epoch]
    rfl
  refine ⟨_, key, ikm, hbuild, ⟨rfl, rfl, rfl, rfl⟩, ?_, hikmx, ?_⟩
  · rw [heph, hlong, hikmy]
  · intro pinned hpin
    unfold dm_verify_resp dm_session_key_from_ikm confirm_tag
    rw [if_neg hpin.matches]
    rw [hikmx]
    dsimp only [bind_eq_bind, bind_some]
    -- the two ends name the addresses in opposite order
    rw [dm_build_info_comm x.address y.address, hkey]
    rw [htag]
    exact if_pos rfl

/-- **An INIT for an epoch verifies at the peer it is for**, if the epoch fits in the key id. -/
theorem verify_built_init (hD : C.DhSymmetric) {x y : Identity} (hx : x.Wf C) (hy : y.Wf C)
    {e : Key32} {ke_epoch : UInt16} {init : KeyExchange}
    (hbuild : dm_build_init C x (C.public_key e) e y.address ke_epoch (some y.public_key) =
      some init)
    (hfits : (ke_epoch &&& 0xFF).toUInt8.toUInt16 = ke_epoch) {pinned : Option Key32}
    (hpin : PinOf x pinned) :
    dm_verify_init C init y (some x.public_key) pinned = .ok () := by
  -- the products that the initiator can form are those the responder checks with
  obtain ⟨dh2, h2, h2'⟩ := hD x.private_key y.private_key
  obtain ⟨dh3, h3, h3'⟩ := hD e y.private_key
  rw [← hy] at h2 h3
  rw [← hx] at h2'
  unfold dm_build_init at hbuild
  dsimp only at hbuild
  rw [h2, h3] at hbuild
  dsimp only [bind_eq_bind, bind_some] at hbuild
  match htag : init_tag C dh2 dh3 x.address y.address ke_epoch (C.public_key e) x.public_key with
  | none =>
    rw [htag] at hbuild
    cases hbuild
  | some tag =>
    rw [htag] at hbuild
    rw [← some.inj hbuild]
    unfold dm_verify_init
    rw [if_neg (not_not_intro rfl), if_neg hpin.matches]
    dsimp only
    rw [h2', h3']
    rw [hfits]
    exact if_pos htag

end BrambleMesh.DmHandshake
