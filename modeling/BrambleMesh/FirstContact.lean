/-
The first contact of two nodes: what both ends hold after INIT and RESP.
-/
import BrambleMesh.DmAgreement

namespace BrambleMesh.FirstContact

open Bytes DmRatchet DmHandshake DmDriver DmAgreement Option

/-! ## The short authentication string -/

def dm_sas_render (okm : List UInt8) : List Char :=
  List.leftpad 7 '0' (Nat.toDigits 10 ((get_be32 okm).toNat % 10000000))

def dm_derive_identity_sas (C : KeCrypto) (id_x25519_a id_x25519_b : Key32)
    (addr_a addr_b : UInt32) : Option (List Char) :=
  let lo := if addr_a < addr_b then id_x25519_a else id_x25519_b
  let hi := if addr_a < addr_b then id_x25519_b else id_x25519_a
  (C.hkdf_sha256 "bramble-sas-id".toUTF8.toList [] (lo.toList ++ hi.toList)).map fun okm =>
    dm_sas_render (okm.toList.take 4)

lemma identity_sas_some {C : KeCrypto} (hC : C.HkdfTotal) (a b : Key32) (addr_a addr_b : UInt32) :
    ∃ sas, dm_derive_identity_sas C a b addr_a addr_b = some sas := by
  rw [← isSome_iff_exists, dm_derive_identity_sas, isSome_map]
  exact hC _ _ _

lemma identity_sas_comm (C : KeCrypto) (a b : Key32) {addr_a addr_b : UInt32}
    (hne : addr_a ≠ addr_b) :
    dm_derive_identity_sas C a b addr_a addr_b = dm_derive_identity_sas C b a addr_b addr_a := by
  unfold dm_derive_identity_sas
  rcases UInt32.lt_or_lt_of_ne hne with hlt | hlt <;>
    simp only [if_pos hlt, if_neg (UInt32.lt_asymm hlt)]

/-! ## What the tags cover -/

/-- The fields that enter a tag: three in the transcript, `key_id` as the epoch of its key. -/
def body (m : KeyExchange) : UInt32 × Key32 × Key32 × UInt8 :=
  (m.src_addr, m.ephemeral_pubkey, m.long_term_pubkey, m.key_id)

lemma key_append_inj {l l' : List UInt8} {v v' : Key32} (h : l ++ v.toList = l' ++ v'.toList) :
    l = l' ∧ v = v' := by
  obtain ⟨hl, hv⟩ := List.append_inj' h (by rw [Vector.length_toList, Vector.length_toList])
  exact ⟨hl, Vector.toList_inj.1 hv⟩

lemma transcript_1_inj {a b a' b' : UInt32} {e i e' i' : Key32}
    (h : transcript_1 a b e i = transcript_1 a' b' e' i') :
    (a, e, i) = (a', e', i') ∧ b = b' := by
  obtain ⟨h, hi⟩ := key_append_inj h
  obtain ⟨h, he⟩ := key_append_inj h
  obtain ⟨ha, hb⟩ := List.append_inj h rfl
  rw [be32_injective ha, he, hi]
  exact ⟨rfl, be32_injective hb⟩

lemma transcript_2_inj {a b a' b' : UInt32} {e i f j e' i' f' j' : Key32}
    (h : transcript_2 a b e i f j = transcript_2 a' b' e' i' f' j') :
    (a, e, i) = (a', e', i') ∧ (b, f, j) = (b', f', j') := by
  obtain ⟨h, hj⟩ := key_append_inj h
  obtain ⟨h, hf⟩ := key_append_inj h
  obtain ⟨hinit, hb⟩ := transcript_1_inj h
  rw [hb, hf, hj]
  exact ⟨hinit, rfl⟩

section

variable {C : KeCrypto} {x y : Identity} {e f : Key32} {init sent resp : KeyExchange}
  {key : Key32} {k k' : UInt16} {pinned : Option Key32}

/-- HKDF and HMAC ideal in the run at hand: tags of other epochs or transcripts differ. -/
def ConfirmApart (C : KeCrypto) (x y : Identity) (e f : Key32) (init sent : KeyExchange)
    (k k' : UInt16) : Prop :=
  ∀ ikm ikm', dm_compute_ikm C y.private_key f init.long_term_pubkey init.ephemeral_pubkey =
      some ikm →
    dm_compute_ikm C x.private_key e sent.long_term_pubkey sent.ephemeral_pubkey = some ikm' →
    confirm_tag C ikm init.src_addr y.address k init.ephemeral_pubkey init.long_term_pubkey
        (C.public_key f) y.public_key =
      confirm_tag C ikm' x.address sent.src_addr k' (C.public_key e) x.public_key
        sent.ephemeral_pubkey sent.long_term_pubkey →
    k = k' ∧ transcript_2 init.src_addr y.address init.ephemeral_pubkey init.long_term_pubkey
        (C.public_key f) y.public_key =
      transcript_2 x.address sent.src_addr (C.public_key e) x.public_key sent.ephemeral_pubkey
        sent.long_term_pubkey

lemma build_resp_eq_some (h : dm_build_resp C y (C.public_key f) f init k = some (resp, key)) :
    body resp = (y.address, C.public_key f, y.public_key, (k &&& 0xFF).toUInt8) ∧
      ∃ ikm, dm_compute_ikm C y.private_key f init.long_term_pubkey init.ephemeral_pubkey =
          some ikm ∧
        confirm_tag C ikm init.src_addr y.address k init.ephemeral_pubkey init.long_term_pubkey
          (C.public_key f) y.public_key = some resp.auth_tag := by
  obtain ⟨ikm, hikm, h⟩ := bind_eq_some_iff.1 h
  obtain ⟨session_key, -, h⟩ := bind_eq_some_iff.1 h
  obtain ⟨tag, htag, h⟩ := bind_eq_some_iff.1 h
  obtain ⟨rfl, -⟩ := Prod.mk.inj (some.inj h)
  exact ⟨rfl, ikm, hikm, htag⟩

lemma verify_resp_eq_ok
    (h : dm_verify_resp C sent x e (C.public_key e) k pinned = .ok key) :
    ∃ ikm, dm_compute_ikm C x.private_key e sent.long_term_pubkey sent.ephemeral_pubkey =
        some ikm ∧
      confirm_tag C ikm x.address sent.src_addr k (C.public_key e) x.public_key
        sent.ephemeral_pubkey sent.long_term_pubkey = some sent.auth_tag := by
  unfold dm_verify_resp at h
  split_ifs at h
  dsimp only at h
  split at h
  · cases h
  · rename_i hexp
    split_ifs at h with htag
    obtain ⟨ikm, hikm, hexp⟩ := bind_eq_some_iff.1 hexp
    obtain ⟨local_key, -, hexp⟩ := bind_eq_some_iff.1 hexp
    obtain ⟨tag, hconf, hexp⟩ := bind_eq_some_iff.1 hexp
    obtain ⟨-, rfl⟩ := Prod.mk.inj (some.inj hexp)
    exact ⟨ikm, hikm, htag ▸ hconf⟩

lemma accepted_untouched
    (hbuild : dm_build_resp C y (C.public_key f) f init k = some (resp, key))
    (htag : sent.auth_tag = resp.auth_tag)
    (hapart : ConfirmApart C x y e f init sent k sent.key_id.toUInt16) {key' : Key32}
    (hok : dm_verify_resp C sent x e (C.public_key e) sent.key_id.toUInt16 pinned = .ok key') :
    body init = (x.address, C.public_key e, x.public_key, init.key_id) ∧ body sent = body resp := by
  obtain ⟨hresp, ikm, hikm, hmade⟩ := build_resp_eq_some hbuild
  obtain ⟨ikm', hikm', hexpected⟩ := verify_resp_eq_ok hok
  obtain ⟨hepoch, hsame⟩ := hapart ikm ikm' hikm hikm' (hmade.trans (htag ▸ hexpected.symm))
  obtain ⟨hinit, hsent⟩ := transcript_2_inj hsame
  rw [hepoch, key_id_of_epoch] at hresp
  simp_all [body]

def InitApart (C : KeCrypto) (x y : Identity) (e : Key32) (sent : KeyExchange) (k : UInt16) :
    Prop :=
  ∀ dh2 dh3 dh2' dh3', C.x25519_dh x.private_key y.public_key = some dh2 →
    C.x25519_dh e y.public_key = some dh3 → C.x25519_dh y.private_key x.public_key = some dh2' →
    C.x25519_dh y.private_key sent.ephemeral_pubkey = some dh3' →
    init_tag C dh2 dh3 x.address y.address k (C.public_key e) x.public_key =
      init_tag C dh2' dh3' sent.src_addr y.address sent.key_id.toUInt16 sent.ephemeral_pubkey
        sent.long_term_pubkey →
    k = sent.key_id.toUInt16 ∧ transcript_1 x.address y.address (C.public_key e) x.public_key =
      transcript_1 sent.src_addr y.address sent.ephemeral_pubkey sent.long_term_pubkey

lemma accepted_init_untouched
    (hbuild : dm_build_init C x (C.public_key e) e y.address k (some y.public_key) = some init)
    (htag : sent.auth_tag = init.auth_tag) (hapart : InitApart C x y e sent k)
    (hok : dm_verify_init C sent y (some x.public_key) pinned = .ok ()) :
    body sent = body init := by
  obtain ⟨dh2, h2, hbuild⟩ := bind_eq_some_iff.1 hbuild
  obtain ⟨dh3, h3, hbuild⟩ := bind_eq_some_iff.1 hbuild
  obtain ⟨tag, hmade, hbuild⟩ := bind_eq_some_iff.1 hbuild
  cases hbuild
  unfold dm_verify_init at hok
  split_ifs at hok
  dsimp only at hok
  split_ifs at hok with hexp
  obtain ⟨dh2', h2', hexp⟩ := bind_eq_some_iff.1 hexp
  obtain ⟨dh3', h3', hexp⟩ := bind_eq_some_iff.1 hexp
  rw [show sent.auth_tag = tag from htag, ← hmade] at hexp
  obtain ⟨hepoch, hsame⟩ := hapart dh2 dh3 dh2' dh3' h2 h3 h2' h3' hexp.symm
  have hbody := (transcript_1_inj hsame).1
  rw [body, body, hepoch, key_id_of_epoch]
  simp_all

end

/-! ## Both ends -/

structure Mirrored (P : Pair) (x : Side) (e f : Key32) (init resp : KeyExchange) (key : Key32)
    (ikm : Ikm) : Prop where
  taken : ∀ pinned, PinOf (P.id x) pinned →
    dm_verify_init P.crypto init (P.id x.other) none pinned = .ok ()
  answered : dm_build_resp P.crypto (P.id x.other) (P.crypto.public_key f) f init
    init.key_id.toUInt16 = some (resp, key)
  confirmed : ∀ pinned, PinOf (P.id x.other) pinned →
    dm_verify_resp P.crypto resp (P.id x) e (P.crypto.public_key e) resp.key_id.toUInt16 pinned =
      .ok key
  ikm_init : dm_compute_ikm P.crypto (P.id x).private_key e resp.long_term_pubkey
    resp.ephemeral_pubkey = some ikm
  ikm_resp : dm_compute_ikm P.crypto (P.id x.other).private_key f init.long_term_pubkey
    init.ephemeral_pubkey = some ikm
  sessions : ∀ (a b : Session) (va vb : Bool), a.state ≠ .ACTIVE → b.state ≠ .ACTIVE →
    let a' := (establish P.crypto (P.addr x) (P.addr x.other) a resp.long_term_pubkey
      resp.key_id.toUInt16 (some ikm) key va).2
    let b' := (establish P.crypto (P.addr x.other) (P.addr x) b init.long_term_pubkey
      init.key_id.toUInt16 (some ikm) key vb).2
    Agree a' b' ∧ a'.session_key = b'.session_key
  sas : ∃ sas,
    dm_derive_identity_sas P.crypto (P.id x).public_key resp.long_term_pubkey (P.addr x)
      (P.addr x.other) = some sas ∧
    dm_derive_identity_sas P.crypto (P.id x.other).public_key init.long_term_pubkey
      (P.addr x.other) (P.addr x) = some sas

lemma is_rekey_of_not_active {s : Session} (hs : s.state ≠ .ACTIVE) (k : UInt16) :
    is_rekey s k = false := by
  rw [is_rekey, beq_eq_false_iff_ne.2 hs]
  rfl

lemma establish_session_key {C : KeCrypto} (hC : C.HkdfTotal) {a b : UInt32} (hne : a ≠ b)
    {s : Session} (hs : s.state ≠ .ACTIVE) (pub : Key32) (k : UInt16) (ikm : Ikm) (key : Key32)
    (v : Bool) :
    (establish C a b s pub k (some ikm) key v).2.session_key =
      (establish C a b s pub k (some ikm) key v).2.ratchet.rk := by
  rw [establish_fresh (is_rekey_of_not_active hs k)]
  obtain ⟨rk, lohi, hilo, lo, hself, -⟩ := init_state_both hC ikm hne
  rw [hself]
  rfl

lemma mirrored (P : Pair) (x : Side) (e f : Key32) (key_id : UInt8) :
    ∃ resp key ikm, Mirrored P x e f ⟨(P.id x).address, P.crypto.public_key e, (P.id x).public_key,
      key_id, .INIT, .zero⟩ resp key ikm := by
  have hne := P.addr_ne_other x
  obtain ⟨resp, key, ikm, hbuild, ⟨hsrc, hlong, hid, htype⟩, hikmy, hikmx, hok⟩ :=
    @verify_built_resp _ P.hkdf_total P.hmac_total P.dh_symmetric _ _ (P.id_wf x)
      (P.id_wf x.other) e f ⟨(P.id x).address, P.crypto.public_key e, (P.id x).public_key,
        key_id, .INIT, .zero⟩ rfl rfl rfl
  refine ⟨resp, key, ikm, ?_, hbuild, hok, hikmx, hikmy, ?_, ?_⟩
  · intro pinned hpin
    rw [dm_verify_init, if_neg (not_not_intro rfl), if_neg hpin.matches]
  · intro a b va vb ha hb
    have hrekey := is_rekey_of_not_active ha resp.key_id.toUInt16
    have hagree := establish_agree P.hkdf_total hne
      (hrekey.trans (is_rekey_of_not_active hb _).symm)
      (fun h => absurd (hrekey.symm.trans h) Bool.false_ne_true) resp.long_term_pubkey
      (P.id x).public_key ikm key key va vb
    rw [hid] at hagree ⊢
    refine ⟨hagree, ?_⟩
    rw [establish_session_key P.hkdf_total hne ha, establish_session_key P.hkdf_total hne.symm hb]
    exact hagree.rk
  · obtain ⟨sas, hsas⟩ := identity_sas_some P.hkdf_total (P.id x).public_key
      (P.id x.other).public_key (P.addr x) (P.addr x.other)
    rw [hlong]
    exact ⟨sas, hsas, identity_sas_comm _ _ _ hne ▸ hsas⟩

/-- **First contact gives mirrored keys.** Either node the initiator, both messages are taken and
the ends mirror each other, whichever `key_id` the INIT, which has no tag, arrives with. If any
other covered field of it or one of the RESP is changed on the way, the initiator does not accept
the RESP, nor the responder an INIT with a tag. -/
theorem first_contact_mirrored (P : Pair) (x : Side) (e f : Key32) (k : UInt16) :
    ∃ init,
      dm_build_init P.crypto (P.id x) (P.crypto.public_key e) e (P.addr x.other) k none =
        some init ∧
      (∀ key_id, ∃ resp key ikm, Mirrored P x e f { init with key_id } resp key ikm) ∧
      (∀ init' resp' sent key' key'' pinned,
        body init' ≠ body { init with key_id := init'.key_id } ∨ body sent ≠ body resp' →
        dm_build_resp P.crypto (P.id x.other) (P.crypto.public_key f) f init'
          init'.key_id.toUInt16 = some (resp', key') →
        sent.auth_tag = resp'.auth_tag →
        ConfirmApart P.crypto (P.id x) (P.id x.other) e f init' sent init'.key_id.toUInt16
          sent.key_id.toUInt16 →
        dm_verify_resp P.crypto sent (P.id x) e (P.crypto.public_key e) sent.key_id.toUInt16
          pinned ≠ .ok key'') ∧
      ∀ tagged sent pinned,
        dm_build_init P.crypto (P.id x) (P.crypto.public_key e) e (P.addr x.other) k
          (some (P.id x.other).public_key) = some tagged →
        body sent ≠ body tagged → sent.auth_tag = tagged.auth_tag →
        InitApart P.crypto (P.id x) (P.id x.other) e sent k →
        dm_verify_init P.crypto sent (P.id x.other) (some (P.id x).public_key) pinned ≠
          .ok () := by
  refine ⟨_, rfl, fun key_id => mirrored P x e f key_id, ?_, ?_⟩
  · intro init' resp' sent key' key'' pinned hchanged hbuild' htag hapart hacc
    obtain ⟨hinit, hsent⟩ := accepted_untouched hbuild' htag hapart hacc
    exact hchanged.elim (fun h => h hinit) fun h => h hsent
  · intro tagged sent pinned hbuild' hchanged htag hapart hacc
    exact hchanged (accepted_init_untouched hbuild' htag hapart hacc)

def digestPair : Pair where
  crypto := { sumCrypto with hmac_sha256 := fun _ data => some (keyOf (data.foldl (· + ·) 0)) }
  id := sumPair.id
  addr_ne := sumPair.addr_ne
  id_wf := sumPair.id_wf
  hkdf_total := sumPair.hkdf_total
  hmac_total _ _ := rfl
  dh_symmetric := sumPair.dh_symmetric

def answer : KeyExchange :=
  ⟨2, keyOf 20, keyOf 2, 0, .RESP, Vector.replicate 16 (3 + 32 * 33)⟩

lemma digest_tag (ikm : Ikm) (a b : UInt32) (k : UInt16) (e i f j : Key32) :
    confirm_tag digestPair.crypto ikm a b k e i f j =
      some (mac_head (keyOf ((transcript_2 a b e i f j).foldl (· + ·) 0))) := by
  have hinfo : (dm_build_info a b k).length = 10 := rfl
  have hlabel : "bramble-ke-confirm".toUTF8.toList.length = 18 := by decide +kernel
  exact if_neg (by omega)

theorem first_contact_mirrored_changed :
    (dm_verify_resp digestPair.crypto { answer with src_addr := 3 } (digestPair.id .A) (keyOf 10)
      (keyOf 10) 0 none).toBool = false := by
  obtain ⟨init, hinit, hmirrored, hchanged, -⟩ :=
    first_contact_mirrored digestPair .A (keyOf 10) (keyOf 20) 0
  obtain rfl := Option.some.inj hinit
  obtain ⟨resp, key₀, ikm, hmirror⟩ := hmirrored 0
  obtain rfl : answer = resp := by
    have hmade := congrArg (Option.map Prod.fst) hmirror.answered
    exact Option.some.inj (Eq.trans (by decide +kernel) hmade)
  have hrefused := fun key =>
    hchanged _ _ { answer with src_addr := 3 } key₀ key none (Or.inr (by decide +kernel))
      hmirror.answered rfl fun ikm₁ ikm₂ _ _ htag => by
        rw [digest_tag, digest_tag] at htag
        exact absurd htag (by decide +kernel)
  match hout : dm_verify_resp digestPair.crypto { answer with src_addr := 3 } (digestPair.id .A)
      (keyOf 10) (keyOf 10) 0 none with
  | .ok key => exact absurd hout (hrefused key)
  | .error _ => rfl

/-- The epoch of a first INIT is changed from 0 to 5: it is taken, answered, and the RESP too. -/
theorem first_epoch_changed :
    ∃ init resp key,
      dm_build_init sumCrypto (sumPair.id .A) (keyOf 10) (keyOf 10) 2 0 none = some init ∧
      dm_verify_init sumCrypto { init with key_id := 5 } (sumPair.id .B) none none = .ok () ∧
      dm_build_resp sumCrypto (sumPair.id .B) (keyOf 20) (keyOf 20) { init with key_id := 5 } 5 =
        some (resp, key) ∧
      dm_verify_resp sumCrypto resp (sumPair.id .A) (keyOf 10) (keyOf 10) 5 none = .ok key := by
  obtain ⟨resp, key, ikm, hmirror⟩ := mirrored sumPair .A (keyOf 10) (keyOf 20) 5
  have hid : resp.key_id = 5 := (congrArg (·.2.2.2) (build_resp_eq_some hmirror.answered).1).trans
    (by decide)
  have hok := hmirror.confirmed none nofun
  rw [hid] at hok
  exact ⟨_, resp, key, rfl, hmirror.taken none nofun, hmirror.answered, hok⟩

end BrambleMesh.FirstContact
