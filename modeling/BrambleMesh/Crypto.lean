/-
The crypto that the direct-message layer calls: components/crypto. The primitives are parameters,
and each assumption about them has its own name here.
-/
import Mathlib.Data.Vector.Basic

namespace BrambleMesh

abbrev Key32 := Vector UInt8 32

abbrev Nonce := Vector UInt8 12

abbrev Tag16 := Vector UInt8 16

def Key32.zero : Key32 := Vector.replicate 32 0

structure DmCrypto where
  hkdf_sha256 : List UInt8 → List UInt8 → List UInt8 → Option Key32
  hmac_sha256 : Key32 → List UInt8 → Option Key32
  x25519_dh : Key32 → Key32 → Option Key32
  aes256gcm_encrypt : Key32 → Nonce → List UInt8 → List UInt8 → Option (List UInt8 × Tag16)
  aes256gcm_decrypt : Key32 → Nonce → List UInt8 → List UInt8 → Tag16 → Option (List UInt8)

namespace DmCrypto

def HkdfTotal (C : DmCrypto) : Prop :=
  ∀ salt ikm info, (C.hkdf_sha256 salt ikm info).isSome

def GcmCorrect (C : DmCrypto) : Prop :=
  ∀ key nonce pt aad, ∃ ct tag, C.aes256gcm_encrypt key nonce pt aad = some (ct, tag) ∧
    ct.length = pt.length ∧ C.aes256gcm_decrypt key nonce ct aad tag = some pt

def GcmLength (C : DmCrypto) : Prop :=
  ∀ key nonce ct aad tag pt, C.aes256gcm_decrypt key nonce ct aad tag = some pt →
    pt.length = ct.length

def HmacTotal (C : DmCrypto) : Prop := ∀ key data, (C.hmac_sha256 key data).isSome

end DmCrypto

structure KeCrypto extends DmCrypto where
  public_key : Key32 → Key32
  sha256_head : Key32 → UInt32

def KeCrypto.DhSymmetric (C : KeCrypto) : Prop :=
  ∀ a b, ∃ k, C.x25519_dh a (C.public_key b) = some k ∧ C.x25519_dh b (C.public_key a) = some k

end BrambleMesh
