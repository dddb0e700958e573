/-
This file decodes the notices that the driver sends to all of its clients.
-/

import TensorPool.DriverClient.Decode
import TensorPool.Wire.Decode

namespace TensorPool.DriverClient

open Scan Flyweight FixedField
open Discovery (Text copyAscii)
open Wire (Refusal openMessage behindBlock)

def roles : List UInt8 := [1, 2, 255]
def leaseRevokeReasons : List UInt8 := [1, 2, 3, 255]
def shutdownReasons : List UInt8 := [0, 1, 2, 255]

/-- The constants of a message of the driver schema. -/
def codec (templateId blockLength : UInt16) : Wire.Codec := ⟨schemaId, templateId, blockLength, schemaVersion⟩

namespace LeaseRevoked

def codec : Wire.Codec := DriverClient.codec 7 26

end LeaseRevoked

/-- This is `tp_driver_lease_revoked_t`. -/
structure LeaseRevoked where
  timestampNs : UInt64
  leaseId : UInt64
  streamId : UInt32
  clientId : UInt32
  role : UInt8
  reason : UInt8
  errorMessage : Text
  deriving DecidableEq, Repr

/-- This is `tp_driver_decode_lease_revoked`. -/
def decodeLeaseRevoked (bytes : List UInt8) : Scan Refusal LeaseRevoked := do
  let header ← openMessage "tp_driver_decode_lease_revoked" ": invalid input" true LeaseRevoked.codec bytes
  let timestampNs ← read uint64 8 bytes
  let leaseId ← read uint64 16 bytes
  let streamId ← read uint32 24 bytes
  let clientId ← read uint32 28 bytes
  let role ← read uint8 32 bytes
  stopIf (role ∉ roles) ⟨-1, some "tp_driver_decode_lease_revoked: invalid role"⟩
  let reason ← read uint8 33 bytes
  stopIf (reason ∉ leaseRevokeReasons) ⟨-1, some "tp_driver_decode_lease_revoked: invalid reason"⟩
  let rest ← behindBlock header bytes
  let (_, text, _) ← data rest
  value { timestampNs, leaseId, streamId, clientId, role, reason, errorMessage := copyAscii messageLength text }

namespace Shutdown

def codec : Wire.Codec := DriverClient.codec 6 9

end Shutdown

/-- This is `tp_driver_shutdown_t`. -/
structure Shutdown where
  timestampNs : UInt64
  reason : UInt8
  errorMessage : Text
  deriving DecidableEq, Repr

/-- This is `tp_driver_decode_shutdown`. -/
def decodeShutdown (bytes : List UInt8) : Scan Refusal Shutdown := do
  let header ← openMessage "tp_driver_decode_shutdown" ": invalid input" true Shutdown.codec bytes
  let timestampNs ← read uint64 8 bytes
  let reason ← read uint8 16 bytes
  stopIf (reason ∉ shutdownReasons) ⟨-1, some "tp_driver_decode_shutdown: invalid shutdown reason"⟩
  let rest ← behindBlock header bytes
  let (_, text, _) ← data rest
  value { timestampNs, reason, errorMessage := copyAscii messageLength text }

end TensorPool.DriverClient
