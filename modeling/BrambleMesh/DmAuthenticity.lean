/-
Authenticity of direct messages. A text is filed as one if its frame is for this node alone and
its payload names no channel; what opened the frame plays no part. A log records every sealing and
whether the attacker made it.
-/
import BrambleMesh.DmFreshness
import BrambleMesh.ChannelFiling

namespace BrambleMesh.DmAuthenticity

open DmDriver hiding Rx
open Run DmRatchet
open ChannelMsg MsgStore HandleData DmFreshness
open ChannelFiling

/-! ## Runs against an attacker -/

structure Sealing where
  key : Key32
  nonce : Nonce
  aad : List UInt8
  plaintext : List UInt8
  ciphertext : List UInt8
  tag : Tag16
  by_attacker : Bool

structure World where
  node : Receiver
  log : List Sealing

inductive Event
  | sealing (by_attacker : Bool) (key : Key32) (nonce : Nonce) (aad plaintext : List UInt8)
  | receive (f : DataFrame) (rx : Rx)
  | other (node : Receiver)

variable (C : DmCrypto)

def step (w : World) : Event → World
  | .sealing by_attacker key nonce aad plaintext =>
    match C.aes256gcm_encrypt key nonce plaintext aad with
    | none => w
    | some (ciphertext, tag) =>
      { w with log := ⟨key, nonce, aad, plaintext, ciphertext, tag, by_attacker⟩ :: w.log }
  | .receive f rx => { w with node := (handle_data C w.node f rx).1 }
  | .other node => { w with node := node }

def Logged (log : List Sealing) (f : DataFrame) (mk : Key32) (hdr ct pt : List UInt8) : Prop :=
  ∃ x ∈ log, x.key = mk ∧ x.nonce = f.nonce ∧ x.aad = f.aad ++ hdr ∧ x.plaintext = pt ∧
    x.ciphertext = ct ∧ x.tag = f.tag

def ThreatModel (Known : Key32 → Prop) (w : World) : Event → Prop
  | .sealing by_attacker key _ _ _ => by_attacker → Known key
  | .receive f _ => ∀ i, dm_lookup w.node.s_dm_table f.src_addr = some i →
      (w.node.s_dm_table i).state = .ACTIVE →
      ∀ mk, SessionKey C (w.node.s_dm_table i).toSession mk →
        ¬ Known mk ∧
        ∀ b0 b1 b2 ct pt, f.ciphertext = b0 :: b1 :: b2 :: ct →
          C.aes256gcm_decrypt mk f.nonce ct (f.aad ++ [b0, b1, b2]) f.tag = some pt →
            Logged w.log f mk [b0, b1, b2] ct pt
  | .other _ => True

def Separated (w : World) : Event → Prop
  | .receive f _ =>
    (f.on_channel → f.header.dest_addr ≠ BROADCAST_ADDR →
      ∀ i ch pt, i.val < w.node.s_channels.s_num_channels →
        Advances C (w.node.s_channels.s_channels i) ch → try_decrypt C ch.key f.sealed = some pt →
          is_text (read_info pt f.ciphertext.length i) →
            is_channel_message (read_info pt f.ciphertext.length i)) ∧
    (f.on_channel = false → ∀ i pt, dm_lookup w.node.s_dm_table f.src_addr = some i →
      (dm_session_ratchet_decrypt C (w.node.s_dm_table i).toSession f.header f.src_addr f.nonce
        f.ciphertext f.tag).1 = .OK pt → is_fragment pt = false)
  | _ => True

def IsDm (what : Filing) : Prop :=
  what.direction = .INCOMING ∧ what.channel_index = MSG_STORE_DM_CHANNEL

def Authentic (w : World) (f : DataFrame) (what : Filing) : Prop :=
  ∃ i, dm_lookup w.node.s_dm_table what.peer_addr = some i ∧
    (w.node.s_dm_table i).state = .ACTIVE ∧
    (dm_session_ratchet_decrypt C (w.node.s_dm_table i).toSession f.header f.src_addr f.nonce
      f.ciphertext f.tag).1 = .OK what.text ∧
    ∃ mk, SessionKey C (w.node.s_dm_table i).toSession mk ∧
      ∃ x ∈ w.log, x.key = mk ∧ x.plaintext = what.text ∧ x.by_attacker = false

/-! ## One frame -/

section

variable {C : DmCrypto} {w : World} {f : DataFrame} {rx : Rx} {what : Filing}
  {info : ChannelMsgInfo}

lemma channel_index_ne_dm (id : UInt8) : Int16.ofNat id.toNat ≠ MSG_STORE_DM_CHANNEL := by
  have hid := id.toNat_lt
  intro h
  have hbits := congrArg (fun x : Int16 => x.toBitVec.toNat) h
  simp only [Int16.toBitVec_ofNat', BitVec.toNat_ofNat] at hbits
  have hdm : MSG_STORE_DM_CHANNEL.toBitVec.toNat = 65535 := by decide
  omega

lemma IsDm.unicast {text : List UInt8} {receipt : UInt32}
    (h : IsDm (filing f info text receipt)) :
    is_channel_message info = false ∧ f.header.dest_addr ≠ BROADCAST_ADDR := by
  obtain ⟨hdir, hindex⟩ := h
  have hno : is_channel_message info = false := by
    by_contra hch
    rw [filing, if_pos (Bool.eq_true_of_not_eq_false hch)] at hindex
    exact channel_index_ne_dm _ hindex
  refine ⟨hno, fun hbroadcast => ?_⟩
  rw [filing, direction_of, if_pos ⟨hbroadcast, hno⟩] at hdir
  cases hdir

/-- **One frame.**  In a separated step a text that is filed as a direct message is authentic. -/
theorem authentic_of_filed {Known : Key32 → Prop} (hgcm : C.GcmLength)
    (hlog : ∀ x ∈ w.log, x.by_attacker → Known x.key)
    (hmodel : ThreatModel C Known w (.receive f rx)) (hsep : Separated C w (.receive f rx))
    (hfiled : (handle_data C w.node f rx).2 = .filed what) (hdm : IsDm what) :
    Authentic C w f what := by
  obtain ⟨-, info, n', hopen, hkind, -, -, hdeliver⟩ := handle_data_filed hfiled
  rw [hdeliver] at hfiled
  obtain ⟨m, text, receipt, -, -, rfl, -, hcase⟩ := deliver_text_filed hfiled
  obtain ⟨hno, hunicast⟩ := hdm.unicast
  cases hflag : f.on_channel with
  | true =>
    obtain ⟨i, ch, pt, hi, hadvance, hpt, rfl⟩ := open_frame_channel hflag hopen
    have hchannel := hsep.1 hflag hunicast i ch pt hi hadvance hpt hkind
    exact absurd (hno.symm.trans hchannel) Bool.false_ne_true
  | false =>
    obtain ⟨i, pt, hlookup, hactive, hok, rfl⟩ := open_frame_session hflag hopen
    have hnofrag : is_fragment pt = false := hsep.2 hflag i pt hlookup hok
    have htext : text = pt := by
      rcases hcase with ⟨-, -, rfl, -⟩ | ⟨hfrag, -⟩
      · exact List.take_of_length_le (length_le_of_session hgcm hok)
      · exact absurd (hnofrag.symm.trans hfrag) Bool.false_ne_true
    rw [← htext] at hok
    -- the message key that opened the frame is not the attacker's, so the sealing is not either
    obtain ⟨b0, b1, b2, ct, mk, hct, hmk, hdec⟩ := dm_session_ratchet_decrypt_ok hok
    obtain ⟨hsecret, hsealed⟩ := hmodel i hlookup hactive mk hmk
    obtain ⟨x, hx, hkey, -, -, hplain, -, -⟩ := hsealed b0 b1 b2 ct text hct hdec
    refine ⟨i, hlookup, hactive, hok, mk, hmk, x, hx, hkey, hplain, ?_⟩
    by_contra hattacker
    exact hsecret (hkey ▸ hlog x hx (Bool.eq_true_of_not_eq_false hattacker))

end

/-! ## Runs -/

lemma log_step {C : DmCrypto} {Known : Key32 → Prop} {w : World} {e : Event}
    (hlog : ∀ x ∈ w.log, x.by_attacker → Known x.key) (hmodel : ThreatModel C Known w e) :
    ∀ x ∈ (step C w e).log, x.by_attacker → Known x.key := by
  cases e with
  | receive f rx => exact hlog
  | other node => exact hlog
  | sealing by_attacker key nonce aad plaintext =>
    unfold step
    dsimp only
    split
    · exact hlog
    · intro x hx hby
      rcases List.mem_cons.1 hx with rfl | hx
      · exact hmodel hby
      · exact hlog x hx hby

/-- **Direct messages are authentic.** In every run within the threat model whose steps are
separated, a text filed as a direct message from a peer was opened by the ACTIVE session with it
and sealed by somebody else than the attacker. -/
theorem dm_authentic {C : DmCrypto} (hgcm : C.GcmLength) (Known : Key32 → Prop) (node : Receiver)
    (es : List Event) (hmodel : Meets (step C) (ThreatModel C Known) ⟨node, []⟩ es)
    (hsep : Meets (step C) (Separated C) ⟨node, []⟩ es) (pre post : List Event) (f : DataFrame)
    (rx : Rx) (hat : es = pre ++ .receive f rx :: post) (what : Filing)
    (hfiled : (handle_data C (pre.foldl (step C) ⟨node, []⟩).node f rx).2 = .filed what)
    (hdm : IsDm what) :
    Authentic C (pre.foldl (step C) ⟨node, []⟩) f what := by
  rw [hat] at hmodel hsep
  obtain ⟨hpre, hnow, -⟩ := (meets_append _ pre (.receive f rx :: post)).1 hmodel
  obtain ⟨-, hnow', -⟩ := (meets_append _ pre (.receive f rx :: post)).1 hsep
  have hlog : ∀ x ∈ (pre.foldl (step C) ⟨node, []⟩).log, x.by_attacker = true → Known x.key :=
    foldl_invariant (I := fun w => ∀ x ∈ w.log, x.by_attacker = true → Known x.key)
      (fun _ _ h he => log_step h he) hpre fun _ hx => absurd hx List.not_mem_nil
  exact authentic_of_filed hgcm hlog hnow hnow' hfiled hdm

/-! ## A node with a session and the public channel -/

def lockTag (key : Key32) : Tag16 := Vector.replicate 16 (if key = .zero then 1 else 0)

def lockCrypto : DmCrypto where
  hkdf_sha256 := fun _ _ _ => some (toyKey 3)
  hmac_sha256 := fun _ _ => some .zero
  x25519_dh := fun _ _ => some .zero
  aes256gcm_encrypt := fun key _ pt _ => some (pt, lockTag key)
  aes256gcm_decrypt := fun key _ ct _ tag => if tag = lockTag key then some ct else none

lemma lockCrypto_gcmLength : lockCrypto.GcmLength := by
  intro key nonce ct aad tag pt h
  change (if tag = lockTag key then some ct else none) = some pt at h
  split at h
  · rw [Option.some.inj h]
  · cases h

lemma lockCrypto_step {ck mk ck_next : Key32} {index : UInt16}
    (h : dm_ratchet_step lockCrypto ck index = some (mk, ck_next)) : mk = toyKey 3 := by
  have hstep : dm_ratchet_step lockCrypto ck index = some (toyKey 3, toyKey 3) := rfl
  exact (Prod.mk.inj (Option.some.inj (hstep.symm.trans h))).1.symm

lemma sessionKey_eq {mk : Key32}
    (h : SessionKey lockCrypto (sessionWithTwo 0).toSession mk) : mk = toyKey 3 := by
  rcases h with (⟨i, hused, -⟩ | ⟨_, _, _, _, _, -, hstep⟩) |
    ⟨i, hused, -⟩ | ⟨_, _, _, _, _, -, hstep⟩
  · cases hused
  · exact lockCrypto_step hstep
  · cases hused
  · exact lockCrypto_step hstep

lemma lookup_two {i : Fin DM_MAX_SESSIONS} (h : dm_lookup sessionWithTwo 2 = some i) : 0 = i :=
  Option.some.inj ((show dm_lookup sessionWithTwo 2 = some 0 by decide +kernel).symm.trans h)

def peerNode : Receiver := sessionNode ⟨0, 0, false⟩

def genuineRun : List Event :=
  [.sealing false (toyKey 3) hiFrame.nonce (hiFrame.aad ++ [0, 0, 0]) [72, 105],
    .receive hiFrame ⟨1000, ⟨0, 0, 1⟩⟩]

lemma genuineRun_model : Meets (step lockCrypto) (ThreatModel lockCrypto (· = Key32.zero))
    ⟨peerNode, []⟩ genuineRun := by
  refine ⟨fun h => absurd h Bool.false_ne_true, ?_, trivial⟩
  intro i hlookup _ mk hmk
  obtain rfl := lookup_two hlookup
  obtain rfl := sessionKey_eq hmk
  refine ⟨by decide, fun b0 b1 b2 ct pt hct hopen => ?_⟩
  obtain ⟨rfl, rfl, rfl, rfl⟩ : 0 = b0 ∧ 0 = b1 ∧ 0 = b2 ∧ [72, 105] = ct := by
    simpa [hiFrame] using hct
  have hpt : [72, 105] = pt := Option.some.inj hopen
  exact ⟨_, List.mem_singleton_self _, rfl, rfl, rfl, hpt, rfl, by decide⟩

lemma genuineRun_separated : Meets (step lockCrypto) (Separated lockCrypto) ⟨peerNode, []⟩
    genuineRun := by
  refine ⟨trivial, ⟨fun hflag => absurd hflag (by decide), fun _ i pt hlookup hok => ?_⟩, trivial⟩
  obtain rfl := lookup_two hlookup
  have hopens : (dm_session_ratchet_decrypt lockCrypto (sessionWithTwo 0).toSession hiFrame.header 2
      hiFrame.nonce hiFrame.ciphertext hiFrame.tag).1 = .OK [72, 105] := by decide
  rw [← DecryptResult.OK.inj (hopens.symm.trans hok)]
  decide

theorem dm_authentic_genuineRun :
    (handle_data lockCrypto peerNode hiFrame ⟨1000, ⟨0, 0, 1⟩⟩).2 =
      .filed ⟨2, .INCOMING, MSG_STORE_DM_CHANNEL, [72, 105], 77⟩ ∧
    Authentic lockCrypto (step lockCrypto ⟨peerNode, []⟩ (.sealing false (toyKey 3) hiFrame.nonce
      (hiFrame.aad ++ [0, 0, 0]) [72, 105])) hiFrame
      ⟨2, .INCOMING, MSG_STORE_DM_CHANNEL, [72, 105], 77⟩ :=
  ⟨by decide +kernel, dm_authentic lockCrypto_gcmLength (· = Key32.zero) peerNode genuineRun
    genuineRun_model genuineRun_separated
    [.sealing false (toyKey 3) hiFrame.nonce (hiFrame.aad ++ [0, 0, 0]) [72, 105]] [] hiFrame
    ⟨1000, ⟨0, 0, 1⟩⟩ rfl _ (by decide +kernel) ⟨rfl, rfl⟩⟩

def forgedFrame : DataFrame where
  header := ⟨5, 0x0A, 0x0C, 7, 1, 9⟩
  src_addr := 2
  nonce := hiFrame.nonce
  ciphertext := [0, 0, 0, 1, 2, 0, 0, 0, 0, 0, 0, 1, 72, 105]
  tag := Vector.replicate 16 1
  length_le := by decide

def forgedRun : List Event :=
  [.sealing true .zero forgedFrame.nonce forgedFrame.aad forgedFrame.ciphertext,
    .receive forgedFrame ⟨1000, ⟨0, 0, 1⟩⟩]

theorem public_frame_filed_as_dm :
    Meets (step lockCrypto) (ThreatModel lockCrypto (· = Key32.zero)) ⟨peerNode, []⟩ forgedRun ∧
    (handle_data lockCrypto peerNode forgedFrame ⟨1000, ⟨0, 0, 1⟩⟩).2 =
      .filed ⟨2, .INCOMING, MSG_STORE_DM_CHANNEL, [72, 105], 9⟩ ∧
    IsDm ⟨2, .INCOMING, MSG_STORE_DM_CHANNEL, [72, 105], 9⟩ ∧
    ¬ Authentic lockCrypto (step lockCrypto ⟨peerNode, []⟩ (.sealing true .zero forgedFrame.nonce
      forgedFrame.aad forgedFrame.ciphertext)) forgedFrame
      ⟨2, .INCOMING, MSG_STORE_DM_CHANNEL, [72, 105], 9⟩ := by
  refine ⟨⟨fun _ => rfl, ?_, trivial⟩, by decide, ⟨rfl, rfl⟩, ?_⟩
  · intro i hlookup _ mk hmk
    obtain rfl := lookup_two hlookup
    obtain rfl := sessionKey_eq hmk
    refine ⟨by decide, fun b0 b1 b2 ct pt _ hopen => ?_⟩
    -- the session's key does not open the frame
    have hnone : lockCrypto.aes256gcm_decrypt (toyKey 3) forgedFrame.nonce ct
        (forgedFrame.aad ++ [b0, b1, b2]) forgedFrame.tag = none := rfl
    exact absurd (hnone.symm.trans hopen) (Option.some_ne_none _).symm
  · rintro ⟨i, hlookup, -, hok, -⟩
    obtain rfl := lookup_two hlookup
    exact absurd hok (by decide)

end BrambleMesh.DmAuthenticity
