/-
This file sizes the region files that the driver writes.
-/

import TensorPool.Driver.Regions

namespace TensorPool.Driver

/-- The driver sizes a file in 64 bits, from the number of its slots and the bytes of one. -/
def regionFileSize (regionType : RegionType) (nslots strideBytes : UInt32) : UInt64 :=
  match regionType with
  | .headerRing => 64 + nslots.toUInt64 * headerSlotBytes.toUInt64
  | .payloadPool => 64 + nslots.toUInt64 * strideBytes.toUInt64

theorem regionFileSize_header (nslots strideBytes : UInt32) :
    (regionFileSize .headerRing nslots strideBytes).toNat = 64 + 256 * nslots.toNat := by
  have below := nslots.toNat_lt
  rw [regionFileSize, UInt64.toNat_add, UInt64.toNat_mul, UInt32.toNat_toUInt64, UInt32.toNat_toUInt64]
  change (64 + nslots.toNat * 256 % 2 ^ 64) % 2 ^ 64 = _
  omega

theorem regionFileSize_pool (nslots strideBytes : UInt32) :
    (regionFileSize .payloadPool nslots strideBytes).toNat = 64 + nslots.toNat * strideBytes.toNat := by
  have slots := nslots.toNat_lt
  have stride := strideBytes.toNat_lt
  have product : nslots.toNat * strideBytes.toNat ≤ (2 ^ 32 - 1) * (2 ^ 32 - 1) :=
    Nat.mul_le_mul (by omega) (by omega)
  rw [regionFileSize, UInt64.toNat_add, UInt64.toNat_mul, UInt32.toNat_toUInt64, UInt32.toNat_toUInt64]
  change (64 + nslots.toNat * strideBytes.toNat % 2 ^ 64) % 2 ^ 64 = _
  omega

end TensorPool.Driver
