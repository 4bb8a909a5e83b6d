/-
One frame offered to a ratchet session, genuine or not. `Outcome` says everything the offer can do
to the receiver's session.
-/
import BrambleMesh.DmRatchet

namespace BrambleMesh.DmReceive

open Bytes DmRatchet Function UInt16

/-! ## Frames -/

structure Payload where
  header : Header
  src_addr : UInt32
  nonce : Nonce
  pt : List UInt8

structure Frame where
  header : Header
  src_addr : UInt32
  nonce : Nonce
  framed_ct : List UInt8
  tag : Tag16
deriving DecidableEq

def Frame.with_hop_limit (f : Frame) (hop_limit : UInt8) : Frame :=
  { f with header := { f.header with hop_limit := hop_limit } }

def emit (C : DmCrypto) : Session → List Payload → List (Frame × List UInt8)
  | _, [] => []
  | a, p :: ps =>
    match dm_session_ratchet_encrypt C a p.header p.src_addr p.pt p.nonce with
    | none => emit C a ps
    | some (framed_ct, tag, a') =>
      (⟨p.header, p.src_addr, p.nonce, framed_ct, tag⟩, p.pt) :: emit C a' ps

def genuine (sent : List (Frame × List UInt8)) (i : ℕ) (d : Frame) : Bool :=
  match sent[i]? with
  | none => false
  | some (f, _) => d = f.with_hop_limit d.header.hop_limit

def Frame.index (d : Frame) : ℕ :=
  match d.framed_ct with
  | _ :: b1 :: b2 :: _ => (be16 b1 b2).toNat
  | _ => 0

def opens (C : DmCrypto) (key : Key32) (d : Frame) : Option (List UInt8) :=
  match d.framed_ct with
  | b0 :: b1 :: b2 :: ct =>
    C.aes256gcm_decrypt key d.nonce ct
      (bramble_build_aead_aad d.header d.src_addr ++ [b0, b1, b2]) d.tag
  | _ => none

def receive (C : DmCrypto) (s : Session) (d : Frame) : DecryptResult × Session :=
  dm_session_ratchet_decrypt C s d.header d.src_addr d.nonce d.framed_ct d.tag

/-! ## The start of an epoch -/

inductive EpochStart (C : DmCrypto) : Session → Session → Prop
  | handshake (sA sB : Session) (ikm : Ikm) (addrA addrB : UInt32) (hne : addrA ≠ addrB) :
    EpochStart C (dm_session_ratchet_init_state C sA ikm addrA addrB).2
      (dm_session_ratchet_init_state C sB ikm addrB addrA).2
  | rekey (sA sB : Session) (dh : Key32) (addrA addrB : UInt32) (new_epoch : UInt16)
    (hne : addrA ≠ addrB) (hroot : sA.ratchet.rk = sB.ratchet.rk) :
    EpochStart C (dm_session_epoch_bump C sA dh addrA addrB new_epoch).2
      (dm_session_epoch_bump C sB dh addrB addrA new_epoch).2

structure Fresh (a b : Session) : Prop where
  send_valid : a.ratchet.send.valid
  send_index : a.ratchet.send.index = 0
  recv_valid : b.ratchet.recv.valid
  recv_index : b.ratchet.recv.index = 0
  ck : b.ratchet.recv.ck = a.ratchet.send.ck
  skip : ∀ k, b.ratchet.skip k = .zero

variable {C : DmCrypto}

lemma EpochStart.fresh (hC : C.HkdfTotal) {a b : Session} (h : EpochStart C a b) :
    Fresh a b := by
  cases h with
  | handshake sA sB ikm addrA addrB hne =>
    obtain ⟨rk, lohi, hilo, lo, hself, hpeer⟩ := init_state_both hC ikm hne
    rw [hself, hpeer]
    cases lo <;> exact ⟨rfl, rfl, rfl, rfl, rfl, fun _ => rfl⟩
  | rekey sA sB dh addrA addrB new_epoch hne hroot =>
    obtain ⟨rk, lohi, hilo, lo, hself, hpeer⟩ :=
      epoch_bump_both hC sB.ratchet.rk dh new_epoch hne
    rw [hself sA hroot, hpeer sB rfl]
    cases lo <;> exact ⟨rfl, rfl, rfl, rfl, rfl, fun _ => rfl⟩

/-! ## Genuine frames -/

def epoch_key (C : DmCrypto) (ck : Key32) (i : ℕ) : Key32 :=
  message_key C ((next_ck C)^[i] ck) (UInt16.ofNat i)

lemma emit_spec (hC : C.HkdfTotal) (hG : C.GcmCorrect) (ck : Key32) (ps : List Payload) :
    ∀ (a : Session) (k : ℕ), a.ratchet.send.valid →
      a.ratchet.send.index = ofNat k → a.ratchet.send.ck = (next_ck C)^[k] ck →
      ∀ (i : ℕ) (f : Frame) (pt : List UInt8), (emit C a ps)[i]? = some (f, pt) →
        opens C (epoch_key C ck (k + i)) f = some pt ∧ f.index = (k + i) % 2 ^ 16 := by
  induction ps with
  | nil =>
    intro a k _ _ _ i f pt hget
    cases hget
  | cons p ps ih =>
    intro a k hvalid hindex hck i f pt hget
    by_cases hlen : p.pt.length ≤ 255
    · obtain ⟨ct, tag, henc, hdec⟩ :=
        encrypt_spec hC hG a p.header p.src_addr p.pt p.nonce hvalid hlen
      rw [emit, henc] at hget
      match i with
      | 0 =>
        -- the frame sealed now, under the key of the sender's own index
        cases hget
        have hkey : epoch_key C ck (k + 0) =
            message_key C a.ratchet.send.ck a.ratchet.send.index := by
          rw [hindex, hck]
          rfl
        refine ⟨by rw [hkey]; exact hdec, ?_⟩
        rw [Frame.index, hindex]
        dsimp only [ratchet_header, List.cons_append]
        rw [be16_bytes]
        exact toNat_ofNat'
      | i + 1 =>
        have hnext : (sealed C a).ratchet.send.index = ofNat (k + 1) := by
          rw [ofNat_add, ← hindex]
          rfl
        have hck' : (sealed C a).ratchet.send.ck = (next_ck C)^[k + 1] ck := by
          rw [iterate_succ_apply', ← hck]
          rfl
        have := ih (sealed C a) (k + 1) hvalid hnext hck' i f pt hget
        rw [show k + (i + 1) = k + 1 + i from by omega]
        exact this
    · -- an oversized payload is not sent
      have hnone : dm_session_ratchet_encrypt C a p.header p.src_addr p.pt p.nonce = none := by
        unfold dm_session_ratchet_encrypt
        dsimp only
        rw [hvalid, Bool.not_true, if_neg Bool.false_ne_true, if_pos (by omega)]
      rw [emit, hnone] at hget
      exact ih a k hvalid hindex hck i f pt hget

variable {d : Frame} {chain : Chain} {s : Session} {pt : List UInt8}

lemma genuine_lt {sent : List (Frame × List UInt8)} {i : ℕ} (hd : genuine sent i d) :
    i < sent.length := by
  by_contra hge
  rw [genuine, List.getElem?_eq_none (Nat.not_lt.1 hge)] at hd
  cases hd

lemma genuine_spec (hC : C.HkdfTotal) (hG : C.GcmCorrect) {a b : Session} (hf : Fresh a b)
    (ps : List Payload) (hlt : (emit C a ps).length < 65500) {i : ℕ}
    (hd : genuine (emit C a ps) i d) :
    d.index = i ∧ ∃ f pt, (emit C a ps)[i]? = some (f, pt) ∧
      opens C (epoch_key C b.ratchet.recv.ck i) d = some pt := by
  have hi := genuine_lt hd
  unfold genuine at hd
  cases hget : (emit C a ps)[i]? with
  | none =>
    rw [hget] at hd
    cases hd
  | some e =>
    obtain ⟨f, pt⟩ := e
    rw [hget] at hd
    obtain ⟨hopen, hindex⟩ :=
      emit_spec hC hG b.ratchet.recv.ck ps a 0 hf.send_valid hf.send_index hf.ck.symm i f pt hget
    rw [Nat.zero_add] at hopen hindex
    rw [Nat.mod_eq_of_lt (by omega)] at hindex
    have hd' : d = f.with_hop_limit d.header.hop_limit := of_decide_eq_true hd
    rw [hd']
    exact ⟨hindex, f, pt, rfl, hopen⟩

/-! ## What one offered frame does -/

def WalkKey (C : DmCrypto) (chain : Chain) (skip : Skip) (key : Key32) : Prop :=
  (∃ i, (skip i).used ∧ (skip i).mk = key) ∨ ∃ j, key_ahead C chain j = key

def PrevKey (C : DmCrypto) (r : Ratchet) (key : Key32) : Prop :=
  r.prev_recv.valid ∧ WalkKey C r.prev_recv r.prev_skip key

lemma cache_skipped_slot (pending : List SkipEntry) :
    ∀ (skip : Skip) (k : Fin DM_MAX_SKIP), cache_skipped skip pending k = skip k ∨
      ∃ p ∈ pending, cache_skipped skip pending k = { p with used := true } := by
  induction pending with
  | nil => exact fun _ _ => .inl rfl
  | cons p pending ih =>
    intro skip k
    rcases ih (update skip (skip_slot p.index) { p with used := true }) k with h | h
    · by_cases hk : k = skip_slot p.index
      · have hslot : update skip (skip_slot p.index) { p with used := true } k =
            { p with used := true } := by rw [hk, update_self]
        exact .inr ⟨p, List.mem_cons_self, h.trans hslot⟩
      · rw [update_of_ne hk] at h
        exact .inl h
    · obtain ⟨q, hq, h⟩ := h
      exact .inr ⟨q, List.mem_cons_of_mem _ hq, h⟩

lemma key_ahead_advance {index : UInt16} {d : ℕ} (hd : chain.index.toNat + d = index.toNat)
    (j : ℕ) :
    key_ahead C { chain with ck := (next_ck C)^[d + 1] chain.ck, index := index + 1 } j =
      key_ahead C chain (d + 1 + j) := by
  have hindex : index = chain.index + UInt16.ofNat d := by
    have hlt := index.toNat_lt
    rw [← UInt16.toNat_inj, UInt16.toNat_add, UInt16.toNat_ofNat']
    omega
  have hsum : index + 1 + UInt16.ofNat j = chain.index + UInt16.ofNat (d + 1 + j) := by
    rw [hindex, UInt16.ofNat_add, UInt16.ofNat_add, UInt16.add_assoc, UInt16.add_assoc,
      UInt16.add_assoc]
    rfl
  rw [key_ahead, key_ahead, ← iterate_add_apply, hsum, Nat.add_comm j (d + 1)]

def walk (C : DmCrypto) (chain : Chain) (skip : Skip) (d : Frame) :
    DecryptResult × Chain × Skip :=
  match d.framed_ct with
  | b0 :: b1 :: b2 :: ct =>
    dm_recv_walk C chain skip (be16 b1 b2)
      (bramble_build_aead_aad d.header d.src_addr ++ [b0, b1, b2]) d.nonce ct d.tag
  | _ => (.FAIL, chain, skip)

lemma walk_cases (hC : C.HkdfTotal) (chain : Chain) (skip : Skip) (d : Frame) :
    ((walk C chain skip d).1.accepted = false ∧ (walk C chain skip d).2 = (chain, skip)) ∨
    (∃ i pt, d.index < chain.index.toNat ∧ (skip i).used ∧
      (skip i).index.toNat = d.index ∧ opens C (skip i).mk d = some pt ∧
      walk C chain skip d = (.OK pt, chain, update skip i .zero)) ∨
    (∃ m pt index, toNat index = d.index ∧ chain.index.toNat + m = d.index ∧
      m ≤ DM_MAX_SKIP ∧ opens C (key_ahead C chain m) d = some pt ∧
      walk C chain skip d =
        (.OK pt, { chain with ck := (next_ck C)^[m + 1] chain.ck, index := index + 1 },
          cache_skipped skip (entries_ahead C chain m))) := by
  obtain ⟨header, src_addr, nonce, framed_ct, tag⟩ := d
  match framed_ct with
  | b0 :: b1 :: b2 :: ct =>
    obtain hmiss | ⟨i, pt, hlt, hused, hindex, hdec, hwalk⟩ | ⟨m, pt, hm, hle, hdec, hwalk⟩ :=
      recv_walk_cases chain skip (be16 b1 b2)
        (bramble_build_aead_aad header src_addr ++ [b0, b1, b2]) nonce ct tag hC
    · exact .inl hmiss
    · exact .inr (.inl ⟨i, pt, lt_iff_toNat_lt.1 hlt, hused,
        congrArg toNat hindex, hdec, hwalk⟩)
    · exact .inr (.inr ⟨m, pt, be16 b1 b2, rfl, hm, hle, hdec, hwalk⟩)
  -- too short to hold a ratchet header
  | [] | [_] | [_, _] => exact .inl ⟨rfl, rfl⟩

inductive Tried (C : DmCrypto) (s : Session) (d : Frame) : DecryptResult → Session → Prop
  | current (pt : List UInt8) (chain : Chain) (skip : Skip)
    (hwalk : walk C s.ratchet.recv s.ratchet.skip d = (.OK pt, chain, skip)) :
    Tried C s d (.OK pt)
      { s with ratchet := count_grace { s.ratchet with recv := chain, skip := skip } }
  | previous (pt : List UInt8) (chain : Chain) (skip : Skip)
    (hmiss : (walk C s.ratchet.recv s.ratchet.skip d).1.accepted = false)
    (hvalid : s.ratchet.prev_recv.valid)
    (hwalk : walk C s.ratchet.prev_recv s.ratchet.prev_skip d = (.OK pt, chain, skip)) :
    Tried C s d (.OK pt)
      { s with ratchet := { s.ratchet with prev_recv := chain, prev_skip := skip } }
  | refused (rc : DecryptResult) (hrc : rc.accepted = false)
    (hmiss : (walk C s.ratchet.recv s.ratchet.skip d).1.accepted = false)
    (hprev : s.ratchet.prev_recv.valid →
      (walk C s.ratchet.prev_recv s.ratchet.prev_skip d).1.accepted = false) : Tried C s d rc s

lemma receive_tried (hC : C.HkdfTotal) (s : Session) (hvalid : s.ratchet.recv.valid)
    (d : Frame) : Tried C s d (receive C s d).1 (receive C s d).2 := by
  have hguard : ¬ (!s.ratchet.recv.valid) := by rw [hvalid]; exact Bool.false_ne_true
  have hcases := walk_cases hC s.ratchet.recv s.ratchet.skip d
  have hprev := walk_cases hC s.ratchet.prev_recv s.ratchet.prev_skip d
  obtain ⟨header, src_addr, nonce, framed_ct, tag⟩ := d
  match framed_ct with
  | b0 :: b1 :: b2 :: ct =>
    obtain ⟨hmiss, hsame⟩ | ⟨i, pt, -, -, -, -, hwalk⟩ | ⟨m, pt, index, -, -, -, -, hwalk⟩ := hcases
    · obtain ⟨rc, hrc, heq⟩ := decrypt_of_walk_miss hvalid hmiss hsame
      rw [receive, heq]
      by_cases hkept : s.ratchet.prev_recv.valid
      · unfold try_previous
        rw [if_pos hkept]
        -- the previous epoch's chain is walked by the same function as the current one
        obtain ⟨hmiss', hsame'⟩ | ⟨i, pt, -, -, -, -, hwalk⟩ |
          ⟨m, pt, index, -, -, -, -, hwalk⟩ := hprev
        · have hrefused := Tried.refused rc hrc hmiss fun _ => hmiss'
          dsimp only [walk] at hmiss' hsame'
          generalize dm_recv_walk C s.ratchet.prev_recv s.ratchet.prev_skip (be16 b1 b2)
            (bramble_build_aead_aad header src_addr ++ [b0, b1, b2]) nonce ct tag = w
            at hmiss' hsame' ⊢
          obtain ⟨wrc, chain, skip⟩ := w
          cases hsame'
          match wrc, hmiss' with
          | .FAIL, _ | .TOO_FAR, _ => exact hrefused
        all_goals
          have htried := Tried.previous _ _ _ hmiss hkept hwalk
          dsimp only [walk] at hwalk
          rw [hwalk]
          exact htried
      · rw [try_previous_of_none (Bool.eq_false_iff.2 hkept)]
        exact .refused rc hrc hmiss fun h => absurd h hkept
    all_goals
      rw [receive, decrypt_of_walk_ok hvalid hwalk]
      exact .current _ _ _ hwalk
  | [] | [_] | [_, _] =>
    unfold receive dm_session_ratchet_decrypt
    rw [if_neg hguard]
    exact .refused _ rfl rfl fun _ => rfl

lemma walkKey_of_walk (hC : C.HkdfTotal) {skip : Skip} {key : Key32}
    (h : WalkKey C (walk C chain skip d).2.1 (walk C chain skip d).2.2 key) :
    WalkKey C chain skip key := by
  obtain ⟨-, hsame⟩ | ⟨i, pt, -, -, -, -, hwalk⟩ | ⟨m, pt, index, hindex, hm, -, -, hwalk⟩ :=
    walk_cases hC chain skip d
  · rw [hsame] at h
    exact h
  · -- the spent slot is wiped, so a key that is still cached is in another slot
    rw [hwalk] at h
    rcases h with ⟨k, hused, hmk⟩ | hahead
    · dsimp only at hused hmk
      by_cases hk : k = i
      · rw [hk, update_self] at hused
        cases hused
      · rw [update_of_ne hk] at hused hmk
        exact .inl ⟨k, hused, hmk⟩
    · exact .inr hahead
  · rw [hwalk] at h
    rcases h with ⟨k, hused, hmk⟩ | ⟨j, hj⟩
    · dsimp only at hused hmk
      rcases cache_skipped_slot (entries_ahead C chain m) skip k with hold | ⟨p, hp, hnew⟩
      · rw [hold] at hused hmk
        exact .inl ⟨k, hused, hmk⟩
      · obtain ⟨j, -, rfl⟩ := List.mem_map.1 hp
        rw [hnew] at hmk
        exact .inr ⟨j, hmk⟩
    · rw [key_ahead_advance (hm.trans hindex.symm)] at hj
      exact .inr ⟨_, hj⟩

inductive Outcome (C : DmCrypto) (s : Session) (d : Frame) : DecryptResult → Session → Prop
  | refused (rc : DecryptResult) (hrc : rc.accepted = false) : Outcome C s d rc s
  | previous (pt : List UInt8) (s' : Session) (key : Key32) (hkey : PrevKey C s.ratchet key)
    (hopen : opens C key d = some pt) (hrecv : s'.ratchet.recv = s.ratchet.recv)
    (hskip : s'.ratchet.skip = s.ratchet.skip)
    (hprev : ∀ k, PrevKey C s'.ratchet k → PrevKey C s.ratchet k) : Outcome C s d (.OK pt) s'
  | straggler (pt : List UInt8) (s' : Session) (i : Fin DM_MAX_SKIP)
    (hbehind : d.index < s.ratchet.recv.index.toNat) (hused : (s.ratchet.skip i).used)
    (hindex : (s.ratchet.skip i).index.toNat = d.index)
    (hopen : opens C (s.ratchet.skip i).mk d = some pt)
    (hrecv : s'.ratchet.recv = s.ratchet.recv)
    (hskip : s'.ratchet.skip = update s.ratchet.skip i .zero)
    (hprev : ∀ k, PrevKey C s'.ratchet k → PrevKey C s.ratchet k) : Outcome C s d (.OK pt) s'
  | ahead (pt : List UInt8) (s' : Session) (m : ℕ) (index : UInt16)
    (hindex : index.toNat = d.index) (hm : s.ratchet.recv.index.toNat + m = d.index)
    (hle : m ≤ DM_MAX_SKIP) (hopen : opens C (key_ahead C s.ratchet.recv m) d = some pt)
    (hrecv : s'.ratchet.recv =
      { s.ratchet.recv with ck := (next_ck C)^[m + 1] s.ratchet.recv.ck, index := index + 1 })
    (hskip : s'.ratchet.skip =
      cache_skipped s.ratchet.skip (entries_ahead C s.ratchet.recv m))
    (hprev : ∀ k, PrevKey C s'.ratchet k → PrevKey C s.ratchet k) : Outcome C s d (.OK pt) s'

lemma prevKey_of_accepted {r : Ratchet} {skip : Skip} {key : Key32}
    (h : PrevKey C (count_grace { r with recv := chain, skip := skip }) key) :
    PrevKey C r key := by
  obtain ⟨-, -, ⟨hrecv, hskip⟩ | ⟨hrecv, -⟩⟩ :=
    count_grace_frame { r with recv := chain, skip := skip }
  · rw [PrevKey, hrecv, hskip] at h
    exact h
  · rw [PrevKey, hrecv] at h
    cases h.1

lemma receive_outcome (hC : C.HkdfTotal) (s : Session) (hvalid : s.ratchet.recv.valid)
    (d : Frame) : Outcome C s d (receive C s d).1 (receive C s d).2 := by
  have htried := receive_tried hC s hvalid d
  generalize receive C s d = out at htried
  obtain ⟨rc, s'⟩ := out
  cases htried with
  | refused _ hrc _ _ => exact .refused rc hrc
  | previous pt chain skip _ hkept hwalk =>
    have hkeys : ∀ k, WalkKey C chain skip k →
        WalkKey C s.ratchet.prev_recv s.ratchet.prev_skip k := by
      intro k hk
      apply walkKey_of_walk hC (d := d)
      rw [hwalk]
      exact hk
    have hprev : ∀ k, PrevKey C { s.ratchet with prev_recv := chain, prev_skip := skip } k →
        PrevKey C s.ratchet k := fun k hk => ⟨hkept, hkeys k hk.2⟩
    obtain ⟨hmiss, -⟩ | ⟨i, pt', -, hused, -, hopen, hwalk'⟩ |
        ⟨m, pt', index, -, -, -, hopen, hwalk'⟩ :=
      walk_cases hC s.ratchet.prev_recv s.ratchet.prev_skip d
    · rw [hwalk] at hmiss
      cases hmiss
    · rw [hwalk] at hwalk'
      obtain rfl := DecryptResult.OK.inj (congrArg Prod.fst hwalk')
      exact .previous pt _ _ ⟨hkept, .inl ⟨i, hused, rfl⟩⟩ hopen rfl rfl hprev
    · rw [hwalk] at hwalk'
      obtain rfl := DecryptResult.OK.inj (congrArg Prod.fst hwalk')
      exact .previous pt _ _ ⟨hkept, .inr ⟨m, rfl⟩⟩ hopen rfl rfl hprev
  | current pt chain skip hwalk =>
    obtain ⟨hrecv, hskip, -⟩ := count_grace_frame { s.ratchet with recv := chain, skip := skip }
    have hprev : ∀ k, PrevKey C (count_grace { s.ratchet with recv := chain, skip := skip }) k →
        PrevKey C s.ratchet k := fun k hk => prevKey_of_accepted hk
    obtain ⟨hmiss, -⟩ | ⟨i, pt', hlt, hused, hindex, hopen, hwalk'⟩ |
        ⟨m, pt', index, hindex, hm, hle, hopen, hwalk'⟩ :=
      walk_cases hC s.ratchet.recv s.ratchet.skip d
    · rw [hwalk] at hmiss
      cases hmiss
    · rw [hwalk] at hwalk'
      obtain ⟨hpt, hchain⟩ := Prod.mk.inj hwalk'
      obtain rfl := DecryptResult.OK.inj hpt
      cases hchain
      exact .straggler pt _ i hlt hused hindex hopen hrecv hskip hprev
    · rw [hwalk] at hwalk'
      obtain ⟨hpt, hchain⟩ := Prod.mk.inj hwalk'
      obtain rfl := DecryptResult.OK.inj hpt
      cases hchain
      exact .ahead pt _ m index hindex hm hle hopen hrecv hskip hprev

lemma receive_of_walk (hC : C.HkdfTotal) (hvalid : s.ratchet.recv.valid)
    (hwalk : (walk C s.ratchet.recv s.ratchet.skip d).1 = .OK pt) :
    (receive C s d).1 = .OK pt := by
  have htried := receive_tried hC s hvalid d
  generalize receive C s d = out at htried
  obtain ⟨rc, s'⟩ := out
  cases htried with
  | current pt' _ _ hwalk' =>
    rw [hwalk'] at hwalk
    exact hwalk
  | previous _ _ _ hmiss _ _ | refused _ _ hmiss _ =>
    rw [hwalk] at hmiss
    cases hmiss

lemma walk_ahead (hC : C.HkdfTotal) {skip : Skip} {m : ℕ}
    (hm : chain.index.toNat + m = d.index) (hle : m ≤ DM_MAX_SKIP)
    (hwrap : chain.index.toNat + 16 < 2 ^ 16)
    (hopen : opens C (key_ahead C chain m) d = some pt) :
    (walk C chain skip d).1 = .OK pt := by
  obtain ⟨header, src_addr, nonce, framed_ct, tag⟩ := d
  match framed_ct, hopen with
  | b0 :: b1 :: b2 :: ct, hopen =>
    have hindex : chain.index.toNat + m = (be16 b1 b2).toNat := hm
    have hlo : ¬ be16 b1 b2 < chain.index := by
      rw [UInt16.lt_iff_toNat_lt]
      omega
    have hhi : ¬ be16 b1 b2 > chain.index + 16 := by
      rw [gt_iff_lt, UInt16.lt_iff_toNat_lt, UInt16.toNat_add]
      have h16 : (16 : UInt16).toNat = 16 := by decide
      have hmax : DM_MAX_SKIP = 16 := rfl
      omega
    dsimp only [walk]
    rw [recv_walk_ahead hC hlo hhi, ← hindex, Nat.add_sub_cancel_left]
    rw [opens] at hopen
    dsimp only at hopen
    rw [hopen]

lemma walk_straggler {skip : Skip} (hlt : d.index < chain.index.toNat) (k : Fin DM_MAX_SKIP)
    (hused : (skip k).used) (hindex : (skip k).index.toNat = d.index)
    (hopen : ∀ i, (skip i).used → (skip i).index.toNat = d.index →
      opens C (skip i).mk d = some pt) :
    (walk C chain skip d).1 = .OK pt := by
  have hk := hopen k hused hindex
  obtain ⟨header, src_addr, nonce, framed_ct, tag⟩ := d
  match framed_ct, hlt, hindex, hopen, hk with
  | b0 :: b1 :: b2 :: ct, hlt, hindex, hopen, _ =>
    -- the scan finds a slot, since `k` qualifies
    have hslot : ((skip k).used && (skip k).index == be16 b1 b2) := by
      rw [Bool.and_eq_true, beq_iff_eq]
      exact ⟨hused, UInt16.toNat_inj.1 hindex⟩
    obtain ⟨i, hfind⟩ := Table.exists_find
      (p := fun e : SkipEntry => e.used && e.index == be16 b1 b2) hslot
    have hi := Table.find_some hfind
    rw [Bool.and_eq_true, beq_iff_eq] at hi
    have hdec := hopen i hi.1 (congrArg UInt16.toNat hi.2)
    dsimp only [walk]
    rw [recv_walk_behind (UInt16.lt_iff_toNat_lt.2 hlt), hfind]
    dsimp only
    rw [opens] at hdec
    dsimp only at hdec
    rw [hdec]

end BrambleMesh.DmReceive
