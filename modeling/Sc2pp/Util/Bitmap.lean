import Mathlib.Tactic.Linarith
import Mathlib.Tactic.NormNum.Basic

/-!
This module contains bitmaps: bits that are stored eight to a byte, the most significant bit of every
byte first. A byte that is read as a signed number has the same bits.
-/

namespace Bitmap

def bitAt (data : List UInt8) (i : Nat) : Option Bool :=
  data[i / 8]?.map fun byte => byte.toNat.testBit (7 - i % 8)

def packByte (bit : Nat → Bool) : UInt8 :=
  UInt8.ofNat (Nat.ofBits fun (i : Fin 8) => bit (7 - i))

def pack (count : Nat) (bit : Nat → Bool) : List UInt8 :=
  (List.range ((count + 7) / 8)).map fun k => packByte fun j => bit (8 * k + j)

theorem testBit_packByte (bit : Nat → Bool) {j : Nat} (h : j < 8)
    : (packByte bit).toNat.testBit (7 - j) = bit j := by
  have hlt := Nat.ofBits_lt_two_pow fun (i : Fin 8) => bit (7 - i)
  unfold packByte
  rw [UInt8.toNat_ofNat', Nat.mod_eq_of_lt hlt, Nat.testBit_ofBits_lt _ _ (by omega)]
  congr 1
  simp only
  omega

theorem length_pack (count : Nat) (bit : Nat → Bool)
    : (pack count bit).length = (count + 7) / 8 := by
  simp [pack]

theorem bitAt_pack {count i : Nat} (bit : Nat → Bool) (h : i < count)
    : bitAt (pack count bit) i = some (bit i) := by
  have hbyte : i / 8 < (count + 7) / 8 := by omega
  have hbit : i % 8 < 8 := Nat.mod_lt i (by decide)
  unfold bitAt pack
  rw [List.getElem?_map, List.getElem?_range hbyte, Option.map_some, Option.map_some,
    testBit_packByte _ hbit, Nat.div_add_mod]

theorem bitAt_of_lt {data : List UInt8} {i : Nat} (h : i < 8 * data.length)
    : ∃ bit, bitAt data i = some bit := by
  have hbyte : i / 8 < data.length := by omega
  unfold bitAt
  rw [List.getElem?_eq_getElem hbyte]
  exact ⟨_, rfl⟩

theorem bitAt_of_zero {data : List UInt8} {i : Nat} (h : data[i / 8]? = some 0)
    : bitAt data i = some false := by
  unfold bitAt
  rw [h, Option.map_some]
  simp

theorem toInt_toInt8 (byte : UInt8)
    : byte.toInt8.toInt = if byte.toNat < 128 then (byte.toNat : Int) else byte.toNat - 256 := by
  change byte.toBitVec.toInt = _
  rw [BitVec.toInt_eq_toNat_cond]
  change (if 2 * byte.toNat < 256 then (byte.toNat : Int) else byte.toNat - 256) = _
  split
  . rw [if_pos (by omega)]
  . rw [if_neg (by omega)]

-- The sign only adds a multiple of 256, a shift by less than 8 bits leaves it even.
theorem shiftRight_toInt8 (byte : UInt8) {k : Nat} (h : k < 8)
    : ((byte.toInt8.toInt >>> k) % 2 == 1) = byte.toNat.testBit k := by
  have hsign : ∃ c : Int, byte.toInt8.toInt = byte.toNat + 2 ^ k * (2 * c) := by
    rw [toInt_toInt8]
    split
    . exact ⟨0, by simp⟩
    . refine ⟨-2 ^ (7 - k), ?_⟩
      have hpow : (2 : Int) ^ k * 2 ^ (7 - k) = 2 ^ 7 := by
        rw [← pow_add]
        congr 1
        omega
      linarith
  rcases hsign with ⟨c, hc⟩
  have hmod : byte.toInt8.toInt >>> k % 2 = ((byte.toNat / 2 ^ k % 2 : Nat) : Int) := by
    rw [Int.shiftRight_eq_div_pow, hc]
    push_cast
    rw [Int.add_mul_ediv_left _ _ (by positivity), Int.add_mul_emod_self_left]
  rw [hmod, Nat.testBit_eq_decide_div_mod_eq]
  simp only [beq_eq_decide]
  norm_cast

end Bitmap
