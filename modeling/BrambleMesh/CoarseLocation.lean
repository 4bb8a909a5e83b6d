/-
The coarse tier of a location share: components/location/location.c.
-/
import BrambleMesh.Lib.Bytes

namespace BrambleMesh.CoarseLocation

open Bytes (be16 be16_bytes)

structure Position where
  latitude_e7 : ℤ
  longitude_e7 : ℤ
  altitude_m : ℤ
  accuracy_m : UInt8
  speed_kmh : UInt8
  heading_deg2 : UInt8
  timestamp : UInt32
  valid : Bool

abbrev LOCATION_COARSE_SIZE : ℕ := 5

def cell (offset size e7 : ℤ) : ℤ := (e7.tdiv 10000 + offset).tdiv size

def enc (offset size e7 : ℤ) : UInt16 := UInt16.ofInt (cell offset size e7)

def corner (offset size : ℤ) (enc : UInt16) : ℤ := (enc.toNat * size - offset) * 10000

def location_serialize_coarse (pos : Position) (buf_len : ℕ) : Option (List UInt8) :=
  if buf_len < LOCATION_COARSE_SIZE then none
  else
    let enc_lat := enc 90000 3 pos.latitude_e7
    let enc_lon := enc 180000 6 pos.longitude_e7
    some [(enc_lat &&& 0xFF).toUInt8, (enc_lat >>> 8).toUInt8,
      (enc_lon &&& 0xFF).toUInt8, (enc_lon >>> 8).toUInt8, pos.timestamp.toUInt8]

def location_deserialize_coarse (buf : List UInt8) : Option Position :=
  if buf.length < LOCATION_COARSE_SIZE then none
  else
    let enc_lat := be16 (buf.getD 1 0) (buf.getD 0 0)
    let enc_lon := be16 (buf.getD 3 0) (buf.getD 2 0)
    some ⟨corner 90000 3 enc_lat, corner 180000 6 enc_lon, 0, 0, 0, 0, (buf.getD 4 0).toUInt32,
      true⟩

/-- Near the true coordinate, with nothing lost in the cast to 16 bits and in the decoder's
products. -/
structure InCell (offset size e7 decoded : ℤ) : Prop where
  above : decoded ≤ e7 + 10000
  below : e7 < decoded + size * 10000
  cast : ((enc offset size e7).toNat : ℤ) = cell offset size e7
  fits : |decoded| < 2 ^ 31

variable {offset size e7 : ℤ}

lemma toNat_ofInt {x : ℤ} (h : 0 ≤ x ∧ x < 2 ^ 16) : ((UInt16.ofInt x).toNat : ℤ) = x := by
  rw [UInt16.ofInt]
  simp
  omega

lemma inCell (hsize : 0 < size) (hrange : 2 * offset < 2 ^ 16 * size)
    (hoffset : offset * 10000 < 2 ^ 31) (h : |e7| ≤ offset * 10000) :
    InCell offset size e7 (corner offset size (enc offset size e7)) ∧
      enc offset size (corner offset size (enc offset size e7)) = enc offset size e7 := by
  obtain ⟨hlow, hhigh⟩ := abs_le.1 h
  have hdiv := Int.tmod_add_mul_tdiv e7 10000
  have hrest : -10000 < e7.tmod 10000 ∧ e7.tmod 10000 < 10000 :=
    ⟨Int.lt_tmod_of_pos e7 (by decide), Int.tmod_lt_of_pos e7 (by decide)⟩
  have hgrid : -offset ≤ e7.tdiv 10000 ∧ e7.tdiv 10000 ≤ offset := by omega
  have hcell : cell offset size e7 = (e7.tdiv 10000 + offset) / size :=
    Int.tdiv_eq_ediv_of_nonneg (by omega)
  generalize e7.tdiv 10000 = grid at hdiv hgrid hcell
  have hsplit := Int.emod_add_mul_ediv (grid + offset) size
  have hpart := Int.emod_nonneg (grid + offset) hsize.ne'
  have hpart' := Int.emod_lt_of_pos (grid + offset) hsize
  have hpos : 0 ≤ cell offset size e7 := hcell ▸ Int.ediv_nonneg (by omega) hsize.le
  have hlt : cell offset size e7 < 2 ^ 16 := hcell ▸ Int.ediv_lt_of_lt_mul hsize (by omega)
  have hcast : ((enc offset size e7).toNat : ℤ) = _ := toNat_ofInt ⟨hpos, hlt⟩
  rw [← hcell, mul_comm] at hsplit
  have hprod := mul_nonneg hpos hsize.le
  have hcorner : corner offset size (enc offset size e7) =
      (cell offset size e7 * size - offset) * 10000 := by rw [corner, hcast]
  refine ⟨⟨?_, ?_, hcast, abs_lt.2 ⟨?_, ?_⟩⟩, ?_⟩
  iterate 4 omega
  rw [enc, cell, hcorner, Int.mul_tdiv_cancel _ (by decide), sub_add_cancel,
    Int.mul_tdiv_cancel _ hsize.ne', enc]

lemma enc_mono {a b : ℤ} (hsize : 0 < size)
    (ha : ((enc offset size a).toNat : ℤ) = cell offset size a)
    (hb : ((enc offset size b).toNat : ℤ) = cell offset size b) (h : a ≤ b) :
    enc offset size a ≤ enc offset size b := by
  have hgrid : a.tdiv 10000 ≤ b.tdiv 10000 := Int.tdiv_le_tdiv (by decide) h
  have hcell : cell offset size a ≤ cell offset size b := Int.tdiv_le_tdiv hsize (by omega)
  exact UInt16.le_iff_toNat_le.2 (by omega)

lemma deserialize_bytes (lat lon : UInt16) (time : UInt8) :
    location_deserialize_coarse [(lat &&& 0xFF).toUInt8, (lat >>> 8).toUInt8,
      (lon &&& 0xFF).toUInt8, (lon >>> 8).toUInt8, time] =
    some ⟨corner 90000 3 lat, corner 180000 6 lon, 0, 0, 0, 0, time.toUInt32, true⟩ := by
  rw [location_deserialize_coarse, if_neg (by simp)]
  simp only [List.getD_cons_zero, List.getD_cons_succ, be16_bytes]

/-- **A coarse position stays in its cell**, at most 0.001 degrees above and less than a cell below
the true one, and is its own coarse position; the encoding is monotone. -/
theorem coarse_keeps_cell :
    (∀ pos : Position, |pos.latitude_e7| ≤ 900000000 → |pos.longitude_e7| ≤ 1800000000 →
      ∀ buf_len ≥ LOCATION_COARSE_SIZE, ∃ buf decoded,
        location_serialize_coarse pos buf_len = some buf ∧
        location_deserialize_coarse buf = some decoded ∧
        InCell 90000 3 pos.latitude_e7 decoded.latitude_e7 ∧
        InCell 180000 6 pos.longitude_e7 decoded.longitude_e7 ∧
        location_serialize_coarse decoded buf_len = some buf) ∧
    (∀ a b : ℤ, |a| ≤ 900000000 → |b| ≤ 900000000 → a ≤ b → enc 90000 3 a ≤ enc 90000 3 b) ∧
    ∀ a b : ℤ, |a| ≤ 1800000000 → |b| ≤ 1800000000 → a ≤ b → enc 180000 6 a ≤ enc 180000 6 b := by
  have hlat := fun e7 => @inCell 90000 3 e7 (by decide) (by decide) (by decide)
  have hlon := fun e7 => @inCell 180000 6 e7 (by decide) (by decide) (by decide)
  refine ⟨fun pos ha ho buf_len hlen => ?_, fun a b ha hb => ?_, fun a b ha hb => ?_⟩
  · have hfits : ¬ buf_len < LOCATION_COARSE_SIZE := Nat.not_lt.2 hlen
    refine ⟨_, _, if_neg hfits, deserialize_bytes _ _ _, (hlat _ ha).1, (hlon _ ho).1, ?_⟩
    rw [location_serialize_coarse, if_neg hfits, (hlat _ ha).2, (hlon _ ho).2,
      UInt8.toUInt8_toUInt32]
  · exact enc_mono (by decide) (hlat a ha).1.cast (hlat b hb).1.cast
  · exact enc_mono (by decide) (hlon a ha).1.cast (hlon b hb).1.cast

end BrambleMesh.CoarseLocation
