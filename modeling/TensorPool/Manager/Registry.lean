/-
This file holds the consumer registry of a producer.
-/

import Mathlib.Data.List.Basic

namespace TensorPool.Manager

def uriMaxLength : Nat := 4096
def nullU32 : UInt32 := 0xFFFFFFFF
def progressIntervalDefaultUs : UInt32 := 250
def progressBytesDeltaDefault : UInt32 := 65536

/-- A publication names the channel and the stream that it was opened on. -/
structure Publication where
  channel : List UInt8
  streamId : Int32
  deriving DecidableEq, Repr

/-- The descriptor and the control fields of an entry have one shape. -/
structure PrivateStream where
  streamId : UInt32 := 0
  channel : List UInt8 := []
  publication : Option Publication := none
  deriving DecidableEq, Repr

structure Entry where
  inUse : Bool := false
  consumerId : UInt32 := 0
  lastSeenNs : UInt64 := 0
  mode : UInt8 := 0
  maxRateHz : UInt32 := 0
  supportsProgress : UInt8 := 0
  progressIntervalUs : UInt32 := 0
  progressBytesDelta : UInt32 := 0
  progressMajorDeltaUnits : UInt32 := 0
  lastDescriptorNs : UInt64 := 0
  descriptor : PrivateStream := {}
  control : PrivateStream := {}
  deriving DecidableEq, Repr

structure ConsumerHello where
  streamId : UInt32
  consumerId : UInt32
  supportsShm : UInt8
  supportsProgress : UInt8
  mode : UInt8
  maxRateHz : UInt32
  progressIntervalUs : UInt32
  progressBytesDelta : UInt32
  progressMajorDeltaUnits : UInt32
  descriptorStreamId : UInt32
  controlStreamId : UInt32
  descriptorChannel : List UInt8
  controlChannel : List UInt8
  deriving DecidableEq, Repr

structure ProgressPolicy where
  intervalUs : UInt32
  bytesDelta : UInt32
  majorDeltaUnits : UInt32
  deriving DecidableEq, Repr

structure Request where
  descriptorRequested : Bool
  controlRequested : Bool
  deriving DecidableEq, Repr

/-- A channel and a stream id are given both or not at all. -/
def requestValidate (hello : ConsumerHello) : Except String Request :=
  let descriptorChannel := !hello.descriptorChannel.isEmpty
  let descriptorStream := hello.descriptorStreamId != 0
  let controlChannel := !hello.controlChannel.isEmpty
  let controlStream := hello.controlStreamId != 0
  if descriptorChannel != descriptorStream then
    .error "tp_consumer_request_validate: invalid descriptor request"
  else if controlChannel != controlStream then
    .error "tp_consumer_request_validate: invalid control request"
  else
    .ok ⟨descriptorChannel && descriptorStream, controlChannel && controlStream⟩

/-- A string ends at its first null byte. -/
def cString (bytes : List UInt8) : List UInt8 := bytes.takeWhile (· != 0)

/-- A string that does not fit is not copied. -/
def copyStringView (view : List UInt8) : Option (List UInt8) :=
  if view.length ≥ uriMaxLength then none else some (cString view)

/-- An entry forgets its former request before it stores the new one. -/
def PrivateStream.request (stream : PrivateStream) (requested : Bool) (channel : List UInt8) (streamId : UInt32) :
    PrivateStream :=
  match requested, copyStringView channel with
  | true, some copied => { stream with channel := copied, streamId := streamId }
  | _, _ => { stream with channel := [], streamId := 0 }

abbrev Registry := List Entry

def registryInit (capacity : Nat) : Registry := List.replicate capacity {}

def registryFind (registry : Registry) (consumerId : UInt32) : Option Nat :=
  registry.findIdx? fun entry => entry.inUse && entry.consumerId == consumerId

/-- The first free entry is cleared and taken. -/
def registryAlloc (registry : Registry) : Option Nat :=
  registry.findIdx? fun entry => !entry.inUse

def Entry.greet (entry : Entry) (hello : ConsumerHello) (request : Request) (nowNs : UInt64) : Entry :=
  { entry with
    lastSeenNs := nowNs
    mode := hello.mode
    maxRateHz := hello.maxRateHz
    supportsProgress := hello.supportsProgress
    progressIntervalUs := hello.progressIntervalUs
    progressBytesDelta := hello.progressBytesDelta
    progressMajorDeltaUnits := hello.progressMajorDeltaUnits
    descriptor :=
      entry.descriptor.request request.descriptorRequested hello.descriptorChannel hello.descriptorStreamId
    control := entry.control.request request.controlRequested hello.controlChannel hello.controlStreamId }

/-- The result is the registry with the index of the entry, or the text of the refusal. -/
def registryUpdate (registry : Registry) (hello : ConsumerHello) (nowNs : UInt64) :
    Registry × Except String Nat :=
  match requestValidate hello with
  | .error text => (registry, .error text)
  | .ok request =>
      match registryFind registry hello.consumerId with
      | some index =>
          (registry.modify index fun entry => entry.greet hello request nowNs, .ok index)
      | none =>
          match registryAlloc registry with
          | some index =>
              let fresh : Entry := { inUse := true, consumerId := hello.consumerId }
              (registry.set index (fresh.greet hello request nowNs), .ok index)
          | none => (registry, .error "tp_consumer_registry_update: registry full")

/-- A stale entry closes its publications and is free again. -/
def Entry.sweep (nowNs staleNs : UInt64) (entry : Entry) : Entry :=
  if entry.inUse && nowNs - entry.lastSeenNs > staleNs then
    { entry with
      inUse := false
      descriptor := { entry.descriptor with publication := none }
      control := { entry.control with publication := none } }
  else
    entry

def registrySweep (registry : Registry) (nowNs staleNs : UInt64) : Registry :=
  registry.map (Entry.sweep nowNs staleNs)

/-- The smallest value that is not null, if there is one. -/
def lowest (best : Option UInt32) (value : UInt32) : Option UInt32 :=
  if value == nullU32 then
    best
  else
    match best with
    | none => some value
    | some other => some (if value < other then value else other)

def aggregateProgress (registry : Registry) : ProgressPolicy :=
  let offering := registry.filter fun entry => entry.inUse && entry.supportsProgress != 0
  { intervalUs := ((offering.map Entry.progressIntervalUs).foldl lowest none).getD progressIntervalDefaultUs
    bytesDelta := ((offering.map Entry.progressBytesDelta).foldl lowest none).getD progressBytesDeltaDefault
    majorDeltaUnits := ((offering.map Entry.progressMajorDeltaUnits).foldl lowest none).getD 0 }

end TensorPool.Manager
