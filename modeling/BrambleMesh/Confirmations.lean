/-
Confirmations under attack: components/routing_auth, main/mesh_reliability.c. The tag of an ACK or
a receipt does not cover the destination, by which the handlers decide.
-/
import BrambleMesh.RelayAuth

namespace BrambleMesh.Confirmations

open Bytes Wire RelayAuth Option
open DmRatchet (Header)

/-! ## Copies -/

def uncovered : Kind → List ℕ
  | .ACK => [2, 4, 5, 6, 7, 8, 9, 10, 11, 20, 21]
  | .DELIVERY_RECEIPT => [2, 4, 5, 6, 7, 8, 9, 10, 11, 21]
  | _ => []

def EqualButRelayed : Frame → Frame → Prop
  | .ack a, .ack b =>
    b = { a with
      header := { a.header with hop_limit := b.header.hop_limit }
      hop_count := b.hop_count
      relay_path := b.relay_path }
  | .receipt r, .receipt q =>
    q = { r with
      header := { r.header with hop_limit := q.header.hop_limit }
      hop_count := q.hop_count
      relay_path := q.relay_path }
  | _, _ => False

def Unforged (hmac : Hmac) (k : Key32) (f g : Frame) : Prop :=
  g.verify hmac (some k) → g.mac_input = f.mac_input

/-! ## The tag does not cover the destination -/

def redirected : List UInt8 := ack_of_nine_bytes.set 7 3

/-- The copy that names node 3 verifies just the same, and node 3 takes it as its own. -/
theorem redirected_ack_consumed :
    (receive sum_hmac (some Key32.zero) (flooding 3) ack_of_nine_bytes).consumed = false ∧
      (receive sum_hmac (some Key32.zero) (flooding 3) ack_of_nine_bytes).sent.isSome ∧
      ((parse redirected).map (Frame.verify sum_hmac (some Key32.zero))) = some true ∧
      ((parse redirected).map Frame.mac_input) = ((parse ack_of_nine_bytes).map Frame.mac_input) ∧
      (receive sum_hmac (some Key32.zero) (flooding 3) redirected).consumed = true := by
  decide +kernel

/-! ## What the tag covers -/

lemma covered_inj {x y x' y' : UInt32} {s s' : Vector UInt8 6}
    (h : be32 x ++ be32 y ++ s.toList = be32 x' ++ be32 y' ++ s'.toList) :
    x = x' ∧ y = y' ∧ s = s' := by
  obtain ⟨hwords, hseq⟩ := List.append_inj h rfl
  obtain ⟨hx, hy⟩ := List.append_inj hwords rfl
  exact ⟨be32_injective hx, be32_injective hy, Vector.toList_inj.1 hseq⟩

lemma kind_of_mac_input {f g : Frame} (h : g.mac_input = f.mac_input) : g.kind = f.kind := by
  by_contra hne
  exact Frame.mac_input_ne hne h

lemma auth_buf_of_mac_input {f g : Frame} (h : g.mac_input = f.mac_input) :
    g.auth_buf = f.auth_buf := by
  rw [Frame.mac_input, kind_of_mac_input h] at h
  exact List.append_cancel_left h

/-! ## What a parser reads -/

lemma header_agrees {original copy : List UInt8} {h h' : Header}
    (hread : bramble_header_deserialize original = some h)
    (hread' : bramble_header_deserialize copy = some h') (hversion : h'.version = h.version)
    (htype : h'.type = h.type) :
    h' = { h with hop_limit := h'.hop_limit } ↔
      copy[2]? = original[2]? ∧ (∀ i ∈ [0, 1, 2, 3], copy[4 + i]? = original[4 + i]?) ∧
        ∀ i ∈ [0, 1, 2, 3], copy[8 + i]? = original[8 + i]? := by
  obtain ⟨hlen, hread⟩ := ite_none_left_eq_some.1 hread
  obtain ⟨hlen', hread'⟩ := ite_none_left_eq_some.1 hread'
  obtain rfl := some.inj hread
  obtain rfl := some.inj hread'
  have hsize : HEADER_SIZE = 12 := rfl
  rw [← get_byte_drop_inj (by omega) (by omega), ← get_be32_drop_inj (by omega) (by omega),
    ← get_be32_drop_inj (by omega) (by omega)]
  simp_all

lemma ack_read {bytes : List UInt8} {a : Ack} (h : Kind.read bytes .ACK = some (.ack a)) :
    21 < bytes.length ∧ a.ack_flags = get_byte (bytes.drop 20) ∧
      a.rssi_at_dest = (get_byte (bytes.drop 21)).toInt8 := by
  obtain ⟨a', ha, heq⟩ := map_eq_some_iff.1 h
  obtain rfl := Frame.ack.inj heq
  obtain ⟨hlen, ha⟩ := ite_none_left_eq_some.1 ha
  obtain ⟨header, -, rfl⟩ := map_eq_some_iff.1 ha
  exact ⟨Nat.lt_of_lt_of_le (by decide) (not_lt.1 hlen), rfl, rfl⟩

lemma receipt_read {bytes : List UInt8} {r : Receipt}
    (h : Kind.read bytes .DELIVERY_RECEIPT = some (.receipt r)) :
    21 < bytes.length ∧ r.total_latency = get_byte (bytes.drop 21) := by
  obtain ⟨r', hr, heq⟩ := map_eq_some_iff.1 h
  obtain rfl := Frame.receipt.inj heq
  obtain ⟨hlen, hr⟩ := ite_none_left_eq_some.1 hr
  obtain ⟨-, hr⟩ := ite_none_left_eq_some.1 hr
  obtain ⟨-, hr⟩ := ite_none_left_eq_some.1 hr
  obtain ⟨header, -, rfl⟩ := map_eq_some_iff.1 hr
  exact ⟨Nat.lt_of_lt_of_le (by decide) (not_lt.1 hlen), rfl⟩

/-! ## Copies of signed confirmations -/

section

variable {hmac : Hmac} {k : Key32} {original copy : List UInt8}

lemma tag_of_mac_input {f g : Frame} (hinput : g.mac_input = f.mac_input)
    (hver : g.verify hmac (some k)) :
    g.auth_hmac = (f.sign hmac (some k)).auth_hmac := by
  rw [Frame.sign_tag, ← hinput]
  exact (Frame.verify_iff hmac k g).1 hver

lemma ack_copy_agrees {a b : Ack} (hb : (Frame.ack a).Built)
    (horig : (Frame.ack (ack_sign hmac (some k) a)).serialize = some original)
    (hparse : parse copy = some (.ack b))
    (hinput : (Frame.ack b).mac_input = (Frame.ack a).mac_input)
    (hver : (Frame.ack b).verify hmac (some k)) :
    EqualButRelayed (.ack (ack_sign hmac (some k) a)) (.ack b) ↔
      ∀ i ∈ uncovered .ACK, copy[i]? = original[i]? := by
  obtain ⟨hheader, hread⟩ := Frame.read_serialize horig
  obtain ⟨hheader', hb', hread'⟩ := parse_spec hparse
  have hhead : b.header = { a.header with hop_limit := b.header.hop_limit } ↔ _ :=
    header_agrees hheader hheader' (hb'.1.trans hb.1.symm) (hb'.2.trans hb.2.symm)
  obtain ⟨hsrc, hid, hseq⟩ := covered_inj (auth_buf_of_mac_input hinput)
  have htag : b.auth_hmac = (ack_sign hmac (some k) a).auth_hmac := tag_of_mac_input hinput hver
  obtain ⟨hlen, hflags, hrssi⟩ := ack_read hread
  obtain ⟨hlen', hflags', hrssi'⟩ := ack_read hread'
  have hbytes : b.header = { a.header with hop_limit := b.header.hop_limit } ∧
        b.ack_flags = a.ack_flags ∧ b.rssi_at_dest = a.rssi_at_dest ↔
      ∀ i ∈ uncovered .ACK, copy[i]? = original[i]? := by
    rw [hhead, hflags', show a.ack_flags = _ from hflags, hrssi',
      show a.rssi_at_dest = _ from hrssi,
      (Function.LeftInverse.injective UInt8.toUInt8_toInt8).eq_iff,
      get_byte_drop_inj (k := 20) (by omega) (by omega), get_byte_drop_inj hlen' hlen]
    simp [uncovered, and_assoc]
  rw [← hbytes]
  change b = _ ↔ _
  cases b
  simp only [Ack.mk.injEq]
  exact ⟨fun h => ⟨h.1, h.2.2.2.1, h.2.2.2.2.1⟩,
    fun h => ⟨h.1, hsrc, hid, h.2.1, h.2.2, trivial, htag, hseq, trivial⟩⟩

lemma receipt_copy_agrees {r q : Receipt} (hb : (Frame.receipt r).Built)
    (horig : (Frame.receipt (receipt_sign hmac (some k) r)).serialize = some original)
    (hparse : parse copy = some (.receipt q))
    (hinput : (Frame.receipt q).mac_input = (Frame.receipt r).mac_input)
    (hver : (Frame.receipt q).verify hmac (some k)) :
    EqualButRelayed (.receipt (receipt_sign hmac (some k) r)) (.receipt q) ↔
      ∀ i ∈ uncovered .DELIVERY_RECEIPT, copy[i]? = original[i]? := by
  obtain ⟨hheader, hread⟩ := Frame.read_serialize horig
  obtain ⟨hheader', hb', hread'⟩ := parse_spec hparse
  have hhead : q.header = { r.header with hop_limit := q.header.hop_limit } ↔ _ :=
    header_agrees hheader hheader' (hb'.1.trans hb.1.symm) (hb'.2.trans hb.2.symm)
  obtain ⟨hsrc, hid, hseq⟩ := covered_inj (auth_buf_of_mac_input hinput)
  have htag : q.auth_hmac = (receipt_sign hmac (some k) r).auth_hmac :=
    tag_of_mac_input hinput hver
  obtain ⟨hlen, hlatency⟩ := receipt_read hread
  obtain ⟨hlen', hlatency'⟩ := receipt_read hread'
  have hbytes : q.header = { r.header with hop_limit := q.header.hop_limit } ∧
        q.total_latency = r.total_latency ↔
      ∀ i ∈ uncovered .DELIVERY_RECEIPT, copy[i]? = original[i]? := by
    rw [hhead, hlatency', show r.total_latency = _ from hlatency, get_byte_drop_inj hlen' hlen]
    simp [uncovered, and_assoc]
  rw [← hbytes]
  change q = _ ↔ _
  cases q
  simp only [Receipt.mk.injEq]
  exact ⟨fun h => ⟨h.1, h.2.2.2.2.1⟩,
    fun h => ⟨h.1, hsrc, hid, trivial, h.2, htag, hseq, trivial⟩⟩

lemma dest_of_equal {f g : Frame} (h : EqualButRelayed f g) :
    g.header.dest_addr = f.header.dest_addr := by
  cases f <;> cases g
  case ack.ack a b =>
    have hdest := congrArg (fun x : Ack => x.header.dest_addr) (show b = _ from h)
    exact hdest
  case receipt.receipt r q =>
    have hdest := congrArg (fun x : Receipt => x.header.dest_addr) (show q = _ from h)
    exact hdest
  all_goals exact h.elim

lemma receive_by_dest {g : Frame} (hg : g.kind = .ACK ∨ g.kind = .DELIVERY_RECEIPT)
    (hparse : parse copy = some g) (hmac : Hmac) (key : Option Key32) (h : Hop) :
    ((receive hmac key h copy).consumed → g.header.dest_addr = h.address) ∧
      ∀ out, (receive hmac key h copy).sent = some out → g.header.dest_addr ≠ h.address ∧
        ∃ g', parse out = some g' ∧ g'.kind = g.kind ∧
          g'.header.dest_addr = g.header.dest_addr := by
  have hb := (parse_spec hparse).2.1
  rw [receive, hparse]
  split
  case isTrue =>
    refine ⟨fun hc => ?_, fun out hout => ?_⟩
    · cases hc
    · cases hout
  case isFalse =>
    cases g with
    | ack a =>
      refine ⟨handle_ack_consumed, fun out hout => ?_⟩
      obtain ⟨hne, hop_limit, hser⟩ := handle_ack_sent hout
      have hb' : (Frame.ack (ack_relayed a hop_limit h.address)).Built := hb
      exact ⟨hne, _, parse_serialize hb' hser, rfl, rfl⟩
    | receipt r =>
      refine ⟨handle_receipt_consumed, fun out hout => ?_⟩
      obtain ⟨hne, hop_limit, hser⟩ := handle_receipt_sent hout
      have hb' : (Frame.receipt (receipt_relayed r hop_limit h.address)).Built := hb
      exact ⟨hne, _, parse_serialize hb' hser, rfl, rfl⟩
    | _ => rcases hg with hg | hg <;> cases hg

end

/-- **Confirmations that keep their uncovered bytes.** Of bytes that are read as a frame which
verifies with a tag that is no forgery, exactly those that keep them are the signer's frame in all
but the relay path, the number of hops and the hop limit; and these are consumed or sent on by the
destination that the signer chose. -/
theorem unaltered_where_uncovered (hmac : Hmac) (k : Key32) (f : Frame)
    (hf : f.kind = .ACK ∨ f.kind = .DELIVERY_RECEIPT) (hb : f.Built) (original copy : List UInt8)
    (horig : (f.sign hmac (some k)).serialize = some original) (g : Frame)
    (hparse : parse copy = some g) (hforge : Unforged hmac k f g)
    (hver : g.verify hmac (some k) = true) :
    (EqualButRelayed (f.sign hmac (some k)) g ↔
      ∀ i ∈ uncovered f.kind, copy[i]? = original[i]?) ∧
    (EqualButRelayed (f.sign hmac (some k)) g →
      ∀ h : Hop, ((receive hmac (some k) h copy).consumed = true →
          f.header.dest_addr = h.address) ∧
        ∀ out, (receive hmac (some k) h copy).sent = some out →
          f.header.dest_addr ≠ h.address ∧
            ∃ g', parse out = some g' ∧ g'.kind = f.kind ∧
              g'.header.dest_addr = f.header.dest_addr) := by
  have hinput := hforge hver
  have hkind := kind_of_mac_input hinput
  refine ⟨?_, fun hequal h => ?_⟩
  · cases f with
    | ack a =>
      cases g with
      | ack b => exact ack_copy_agrees hb horig hparse hinput hver
      | _ => cases hkind
    | receipt r =>
      cases g with
      | receipt q => exact receipt_copy_agrees hb horig hparse hinput hver
      | _ => cases hkind
    | _ => rcases hf with hf | hf <;> cases hf
  · have hdest : g.header.dest_addr = f.header.dest_addr :=
      (dest_of_equal hequal).trans (by cases f <;> rfl)
    have hdecide := receive_by_dest (hkind ▸ hf) hparse hmac (some k) h
    rw [hdest, hkind] at hdecide
    exact hdecide

def repathed : List UInt8 := (ack_of_nine_bytes.set 3 2).set 40 9

theorem unaltered_where_uncovered_repathed :
    ∃ g, parse repathed = some g ∧ repathed ≠ ack_of_nine_bytes ∧
      EqualButRelayed ((Frame.ack ack_of_nine).sign sum_hmac (some Key32.zero)) g := by
  obtain ⟨g, hg⟩ : ∃ g, parse repathed = some g := isSome_iff_exists.1 (by decide +kernel)
  have hinput : (parse repathed).map Frame.mac_input = some (Frame.ack ack_of_nine).mac_input := by
    decide +kernel
  have hver : (parse repathed).map (Frame.verify sum_hmac (some Key32.zero)) = some true := by
    decide +kernel
  rw [hg] at hinput hver
  exact ⟨g, hg, by decide +kernel,
    (unaltered_where_uncovered sum_hmac Key32.zero (.ack ack_of_nine) (Or.inl rfl) (by decide)
      ack_of_nine_bytes repathed (by decide +kernel) g hg
      (fun _ => some.inj hinput) (some.inj hver)).1.2 (by decide +kernel)⟩

end BrambleMesh.Confirmations
