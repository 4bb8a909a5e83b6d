/-
The tokens with which a channel tries keys ahead of its own: components/channel/channel_msg.c. They
come back with time, in whole tokens.
-/
import BrambleMesh.ChannelMsg

namespace BrambleMesh.ChannelCatchup

open Run ChannelMsg

def refill (b : CatchupBucket) (now : ℕ) : CatchupBucket := catchup_bucket b (UInt32.ofNat now)

def earned (elapsed : ℕ) : ℕ :=
  elapsed * CHANNEL_EPOCH_CATCHUP_BUDGET / CHANNEL_EPOCH_CATCHUP_REFILL_MS

/-- A refill drops the part of the elapsed time that makes no whole token. It drops nothing if it
adds nothing, since it then leaves the time of the last refill, or if the division is exact. -/
def DropsNothing (b : CatchupBucket) (now : ℕ) : Prop :=
  b.initialized →
    let elapsed := (UInt32.ofNat now - b.last_refill_ms).toNat
    earned elapsed = 0 ∨
      CHANNEL_EPOCH_CATCHUP_REFILL_MS ∣ elapsed * CHANNEL_EPOCH_CATCHUP_BUDGET
deriving Decidable

variable {b : CatchupBucket} {start now t : ℕ}

lemma refill_eq (hinit : b.initialized) (now : ℕ) :
    refill b now =
      if 0 < earned (UInt32.ofNat now - b.last_refill_ms).toNat then
        ⟨b.tokens + min (earned (UInt32.ofNat now - b.last_refill_ms).toNat)
          (CHANNEL_EPOCH_CATCHUP_BUDGET - b.tokens), UInt32.ofNat now, true⟩
      else b := by
  unfold refill catchup_bucket
  rw [hinit]
  rfl

lemma initialized_refill : (refill b now).initialized := by
  rcases hinit : b.initialized
  · simp [refill, catchup_bucket, hinit]
  · rw [refill_eq hinit]
    split_ifs <;> simp [hinit]

lemma tokens_refill (hinit : b.initialized) (now : ℕ) :
    (refill b now).tokens = b.tokens +
      min (earned (UInt32.ofNat now - b.last_refill_ms).toNat)
        (CHANNEL_EPOCH_CATCHUP_BUDGET - b.tokens) := by
  rw [refill_eq hinit]
  split_ifs with hadd
  · rfl
  · simp [Nat.eq_zero_of_not_pos hadd]

lemma tokens_full (hinit : b.initialized)
    (hfull : CHANNEL_EPOCH_CATCHUP_BUDGET ≤ b.tokens) (ts : List ℕ) :
    (ts.foldl refill b).tokens = b.tokens := by
  induction ts generalizing b with
  | nil => rfl
  | cons t ts ih =>
    have htokens := tokens_refill hinit t
    rw [List.foldl_cons, ih initialized_refill (by omega)]
    omega

/-- **Tokens come back at one rate as long as no refill drops time.**  Refilled at any number of
times, the bucket holds what one refill at the last of them gives, if each earlier refill adds
nothing or comes a whole number of tokens after the one before. -/
theorem refills_agree (b : CatchupBucket) (start t : ℕ) (ts : List ℕ)
    (hlast : b.last_refill_ms = UInt32.ofNat start) (hinc : (start :: (ts ++ [t])).Pairwise (· ≤ ·))
    (hspan : t < start + 2 ^ 32) (hdrops : Meets refill DropsNothing b ts) :
    ((ts ++ [t]).foldl refill b).tokens = (refill b t).tokens := by
  induction ts generalizing b start with
  | nil => rfl
  | cons now ts ih =>
    obtain ⟨hstart, hinc⟩ := List.pairwise_cons.1 hinc
    have hnow : start ≤ now := hstart now (by simp)
    have hnowt : now ≤ t := List.rel_of_pairwise_cons hinc (by simp)
    rw [List.cons_append, List.foldl_cons]
    rcases hinit : b.initialized
    · -- a new bucket starts full, whenever it is first looked at
      have hfull : (refill b now).tokens = CHANNEL_EPOCH_CATCHUP_BUDGET ∧
          (refill b t).tokens = CHANNEL_EPOCH_CATCHUP_BUDGET := by
        simp [refill, catchup_bucket, hinit]
      rw [tokens_full initialized_refill hfull.1.ge, hfull.1, hfull.2]
    · have hfirst := refill_eq hinit now
      have hdrop := hdrops.1 hinit
      rw [hlast, elapsed_eq hnow (by omega)] at hfirst hdrop
      split_ifs at hfirst with hadd
      · rw [ih (refill b now) now (by rw [hfirst]) hinc (by omega) hdrops.2,
          tokens_refill initialized_refill, tokens_refill hinit t, hfirst, hlast,
          elapsed_eq hnowt (by omega), elapsed_eq (by omega) hspan]
        obtain ⟨k, hk⟩ := hdrop.resolve_left hadd.ne'
        have hsplit : earned (t - start) = earned (now - start) + earned (t - now) := by
          unfold earned
          rw [show t - start = now - start + (t - now) by omega, Nat.add_mul, hk,
            Nat.mul_add_div (by decide), Nat.mul_div_cancel_left _ (by decide)]
        dsimp only
        omega
      · -- nothing is added, so the bucket still counts from the same refill
        have hrest := hdrops.2
        rw [hfirst] at hrest ⊢
        refine ih b start hlast (List.pairwise_cons.2 ⟨fun u hu => ?_, hinc.of_cons⟩) hspan hrest
        exact le_trans hnow (List.rel_of_pairwise_cons hinc hu)

theorem refills_agree_whole :
    ([10, 625].foldl refill ⟨0, 0, true⟩).tokens = 16 ∧
      ([10, 625, 900].foldl refill ⟨0, 0, true⟩).tokens = (refill ⟨0, 0, true⟩ 900).tokens :=
  ⟨by decide, refills_agree ⟨0, 0, true⟩ 0 900 [10, 625] rfl (by decide) (by decide) (by decide)⟩

/-- Frames 40 and 79 milliseconds after the last refill earn one token between them, where the
second alone would earn two. -/
theorem refill_drops_time :
    ([40, 79].foldl refill ⟨0, 0, true⟩).tokens = 1 ∧ (refill ⟨0, 0, true⟩ 79).tokens = 2 := by
  decide

end BrambleMesh.ChannelCatchup
