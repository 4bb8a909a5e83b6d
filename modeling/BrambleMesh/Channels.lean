/-
Channels of a node: components/channel and main/mesh_channels.c. A channel is a key and an epoch
at an index of a table of sixteen; the index is also the channel's id on the air.
-/
import BrambleMesh.Crypto
import BrambleMesh.Lib.Bytes
import BrambleMesh.Lib.Run

namespace BrambleMesh.Channels

open Run Function

/-! ## Keys -/

abbrev MAX_CHANNELS : ℕ := 16

structure Channel where
  key : Key32
  channel_id : UInt8
  epoch : UInt16
deriving DecidableEq

def Channel.zero : Channel := ⟨.zero, 0, 0⟩

structure ChannelCrypto extends DmCrypto where
  sha256 : List UInt8 → Option Key32

def channel_salt : List UInt8 := "bramble-channel-v1".toUTF8.toList

def epoch_salt : List UInt8 := "bramble-channel-epoch".toUTF8.toList

def channel_derive_key (C : ChannelCrypto) (psk : List UInt8) : Option Key32 := do
  let psk_hash ← C.sha256 psk
  C.hkdf_sha256 channel_salt psk_hash.toList [0]

def channel_advance_epoch (C : DmCrypto) (ch : Channel) : Option Channel := do
  let next := ch.epoch + 1
  let key ← C.hkdf_sha256 epoch_salt ch.key.toList [(next >>> 8).toUInt8, next.toUInt8]
  pure ⟨key, ch.channel_id, next⟩

/-! ## The table -/

structure ChannelTable where
  s_channels : Fin MAX_CHANNELS → Channel
  s_num_channels : ℕ
  s_channel_names : Fin MAX_CHANNELS → List UInt8
  s_channel_has_psk : Fin MAX_CHANNELS → Bool
  s_default_channel_idx : ℕ

def public_channel_init (public_key : Key32) : ChannelTable :=
  ⟨update (fun _ => .zero) 0 ⟨public_key, 0, 0⟩, 1,
    update (fun _ => []) 0 "Broadcast".toUTF8.toList, fun _ => false, 0⟩

def mesh_add_channel (C : ChannelCrypto) (t : ChannelTable) (name : List UInt8)
    (psk : List UInt8) (random : Option Key32) : ChannelTable :=
  if h : t.s_num_channels < MAX_CHANNELS then
    let idx : Fin MAX_CHANNELS := ⟨t.s_num_channels, h⟩
    let old := t.s_channels idx
    let derived := channel_derive_key C ((psk.take 64).takeWhile (· ≠ 0))
    let made := if psk = [] then random.map (·, 0)
      else some (derived.elim (old.key, old.epoch) (·, 0))
    match made with
    | none => t
    | some (key, epoch) =>
      { t with
        s_channels := update t.s_channels idx ⟨key, UInt8.ofNat t.s_num_channels, epoch⟩
        s_num_channels := t.s_num_channels + 1
        s_channel_names := update t.s_channel_names idx (name.take 19)
        s_channel_has_psk := update t.s_channel_has_psk idx (psk ≠ []) }
  else t

def compacted {α : Type*} (a : Fin MAX_CHANNELS → α) (index n : ℕ) : Fin MAX_CHANNELS → α :=
  fun i => if h : index ≤ i.val ∧ i.val + 1 < n ∧ i.val + 1 < MAX_CHANNELS then
    a ⟨i.val + 1, h.2.2⟩ else a i

def removed_channels (t : ChannelTable) (index : ℕ) : Fin MAX_CHANNELS → Channel := fun i =>
  if index ≤ i.val ∧ i.val + 1 < t.s_num_channels then
    { compacted t.s_channels index t.s_num_channels i with channel_id := UInt8.ofNat i.val }
  else t.s_channels i

def mesh_remove_channel (t : ChannelTable) (index : ℕ) : ChannelTable :=
  if index = 0 ∨ t.s_num_channels ≤ index then t
  else
    let default_idx :=
      if t.s_default_channel_idx = index then 0
      else if index < t.s_default_channel_idx then t.s_default_channel_idx - 1
      else t.s_default_channel_idx
    { s_channels := removed_channels t index
      s_num_channels := t.s_num_channels - 1
      s_channel_names := fun i => if i.val + 1 = t.s_num_channels then []
        else compacted t.s_channel_names index t.s_num_channels i
      s_channel_has_psk := fun i => if i.val + 1 = t.s_num_channels then false
        else compacted t.s_channel_has_psk index t.s_num_channels i
      s_default_channel_idx := if t.s_num_channels - 1 ≤ default_idx then 0 else default_idx }

inductive TableOp
  | add (name psk : List UInt8) (random : Option Key32)
  | remove (index : ℕ)

def TableOp.apply (C : ChannelCrypto) (t : ChannelTable) : TableOp → ChannelTable
  | .add name psk random => mesh_add_channel C t name psk random
  | .remove index => mesh_remove_channel t index

structure ChannelTable.Wf (t : ChannelTable) : Prop where
  le : t.s_num_channels ≤ MAX_CHANNELS
  ids : ∀ i : Fin MAX_CHANNELS, i.val < t.s_num_channels →
    (t.s_channels i).channel_id = UInt8.ofNat i.val

lemma wf_public_channel_init (public_key : Key32) : (public_channel_init public_key).Wf := by
  refine ⟨Nat.le_add_left 1 15, fun i hi => ?_⟩
  have hi0 : i = 0 := Fin.ext (Nat.lt_one_iff.mp hi)
  rw [hi0]
  rfl

lemma ChannelTable.Wf.add {C : ChannelCrypto} {t : ChannelTable} (h : t.Wf)
    (name psk : List UInt8) (random : Option Key32) :
    (mesh_add_channel C t name psk random).Wf := by
  unfold mesh_add_channel
  split
  · next hroom =>
    dsimp only
    split
    · exact h
    · refine ⟨hroom, fun i hi => ?_⟩
      by_cases hlast : i.val = t.s_num_channels
      · have hi' : i = ⟨t.s_num_channels, hroom⟩ := Fin.ext hlast
        rw [hi']
        simp only [update_self]
      · have hi' : i ≠ ⟨t.s_num_channels, hroom⟩ := fun heq => hlast (congrArg Fin.val heq)
        simp only [update_of_ne hi']
        exact h.ids i (by dsimp only at hi; omega)
  · exact h

lemma ChannelTable.Wf.remove {t : ChannelTable} (h : t.Wf) (index : ℕ) :
    (mesh_remove_channel t index).Wf := by
  unfold mesh_remove_channel
  split
  · exact h
  · refine ⟨le_trans (Nat.sub_le _ _) h.le, fun i hi => ?_⟩
    dsimp only at hi ⊢
    unfold removed_channels
    split
    · rfl
    · exact h.ids i (by omega)

/-- **Ids are indexes.**  Whatever was added and removed, a channel's id is its place. -/
theorem wf_run (C : ChannelCrypto) (public_key : Key32) (ops : List TableOp) :
    (ops.foldl (TableOp.apply C) (public_channel_init public_key)).Wf := by
  refine foldl_invariant (C := fun _ _ => True) (fun t op ht _ => ?_)
    (meets_of_forall (fun _ _ _ => trivial) _) (wf_public_channel_init public_key)
  cases op with
  | add name psk random => exact ht.add name psk random
  | remove index => exact ht.remove index

end BrambleMesh.Channels
