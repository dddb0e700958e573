/-
This file holds the consumer manager of a producer and its answers to consumers.
-/

import TensorPool.Manager.Registry

namespace TensorPool.Manager

structure ConsumerConfig where
  streamId : UInt32
  consumerId : UInt32
  useShm : UInt8
  mode : UInt8
  descriptorStreamId : UInt32
  controlStreamId : UInt32
  payloadFallbackUri : List UInt8
  descriptorChannel : List UInt8
  controlChannel : List UInt8
  deriving DecidableEq, Repr

structure ConsumerManager where
  registry : Registry
  progressPolicy : ProgressPolicy
  payloadFallbackUri : List UInt8 := []
  forceNoShm : Bool := false
  deriving DecidableEq, Repr

def managerInit (capacity : Nat) : ConsumerManager where
  registry := registryInit capacity
  progressPolicy := ⟨progressIntervalDefaultUs, progressBytesDeltaDefault, 0⟩

/-- A stream id that does not fit a signed one is refused, and the driver of the transport may refuse too. -/
def addPublication (opens : Bool) (channel : List UInt8) (streamId : UInt32) : Option Publication :=
  if streamId.toInt32 < 0 then none else if opens then some ⟨channel, streamId.toInt32⟩ else none

/-- The stream after the answer, with the channel and the id that the answer carries. -/
def PrivateStream.answer (stream : PrivateStream) (requested opens : Bool) :
    PrivateStream × List UInt8 × UInt32 :=
  if requested && stream.streamId != 0 && !stream.channel.isEmpty then
    let publication :=
      match stream.publication with
      | none => addPublication opens stream.channel stream.streamId
      | some publication => some publication
    let served := { stream with publication := publication }
    if publication.isSome then (served, stream.channel, stream.streamId) else (served, [], 0)
  else
    ({ stream with publication := none }, [], 0)

def refreshProgressPolicy (manager : ConsumerManager) : ConsumerManager :=
  { manager with progressPolicy := aggregateProgress manager.registry }

/-- What a hello takes from outside: the clock and the outcome of each publication that it opens. -/
structure Outside where
  nowNs : UInt64
  descriptorOpens : Bool
  controlOpens : Bool
  deriving DecidableEq, Repr

def handleHello (manager : ConsumerManager) (hello : ConsumerHello) (outside : Outside) :
    ConsumerManager × Except String ConsumerConfig :=
  match requestValidate hello with
  | .error text => (manager, .error text)
  | .ok request =>
      match registryUpdate manager.registry hello outside.nowNs with
      | (registry, .error text) => ({ manager with registry := registry }, .error text)
      | (registry, .ok index) =>
          let entry := registry.getD index {}
          let (descriptor, descriptorChannel, descriptorStreamId) :=
            entry.descriptor.answer request.descriptorRequested outside.descriptorOpens
          let (control, controlChannel, controlStreamId) :=
            entry.control.answer request.controlRequested outside.controlOpens
          let answered :=
            { manager with
              registry := registry.set index { entry with descriptor := descriptor, control := control } }
          (refreshProgressPolicy answered,
            .ok
              { streamId := hello.streamId
                consumerId := hello.consumerId
                useShm := if manager.forceNoShm then 0 else hello.supportsShm
                mode := hello.mode
                descriptorStreamId := descriptorStreamId
                controlStreamId := controlStreamId
                payloadFallbackUri := manager.payloadFallbackUri
                descriptorChannel := descriptorChannel
                controlChannel := controlChannel })

/-- A touch of an unknown consumer is an error. -/
def touch (manager : ConsumerManager) (consumerId : UInt32) (nowNs : UInt64) : ConsumerManager :=
  match registryFind manager.registry consumerId with
  | none => manager
  | some index =>
      { manager with registry := manager.registry.modify index fun entry => { entry with lastSeenNs := nowNs } }

def sweep (manager : ConsumerManager) (nowNs staleNs : UInt64) : ConsumerManager :=
  refreshProgressPolicy { manager with registry := registrySweep manager.registry nowNs staleNs }

/-- The log keeps every configuration that is sent. -/
structure System where
  manager : ConsumerManager
  log : List ConsumerConfig := []
  deriving DecidableEq, Repr

inductive Action where
  | hello (hello : ConsumerHello) (outside : Outside)
  | touch (consumerId : UInt32) (nowNs : UInt64)
  | sweep (nowNs staleNs : UInt64)

namespace System

def step (system : System) : Action → System
  | .hello hello outside =>
      match handleHello system.manager hello outside with
      | (manager, .ok config) => ⟨manager, system.log ++ [config]⟩
      | (manager, .error _) => { system with manager := manager }
  | .touch consumerId nowNs => { system with manager := Manager.touch system.manager consumerId nowNs }
  | .sweep nowNs staleNs => { system with manager := Manager.sweep system.manager nowNs staleNs }

def run (system : System) (actions : List Action) : System := actions.foldl step system

/-- The last configuration that a consumer was sent. -/
def lastConfig (system : System) (consumerId : UInt32) : Option ConsumerConfig :=
  system.log.reverse.find? fun config => config.consumerId == consumerId

end System

end TensorPool.Manager
