/-
This file holds the supervisor and its answers to consumers.
-/

import TensorPool.Manager.Hello

namespace TensorPool.Supervision

open Manager (ConsumerConfig ConsumerHello Entry PrivateStream Registry Request)

/-- The descriptor and the control settings for each consumer have one shape. -/
structure Policy where
  channel : List UInt8 := []
  base : Int32 := 0
  range : UInt32 := 0
  deriving DecidableEq, Repr

structure Config where
  consumerCapacity : UInt32
  consumerStaleMs : UInt32
  perConsumerEnabled : Bool := false
  descriptor : Policy := {}
  control : Policy := {}
  forceNoShm : Bool := false
  forceMode : UInt8 := 0
  payloadFallbackUri : List UInt8 := []
  deriving DecidableEq, Repr

structure Supervisor where
  config : Config
  registry : Registry
  lastSweepNs : UInt64
  deriving DecidableEq, Repr

def supervisorInit (config : Config) (nowNs : UInt64) : Supervisor :=
  ⟨config, Manager.registryInit config.consumerCapacity.toNat, nowNs⟩

def assignStreamId (base range consumerId : UInt32) : UInt32 :=
  if base == 0 then 0 else if range == 0 then 0 else base + consumerId % range

/-- A requested stream takes the settings, and a setting that is not given is taken from the request. -/
def Policy.assign (policy : Policy) (consumerId : UInt32) (stream : PrivateStream) :
    PrivateStream × List UInt8 × UInt32 :=
  let channel := if policy.channel.isEmpty then stream.channel else policy.channel
  let streamId :=
    if policy.base == 0 then stream.streamId else assignStreamId policy.base.toUInt32 policy.range consumerId
  if channel.isEmpty || streamId == 0 then (stream, [], 0)
  else ({ stream with channel := channel, streamId := streamId }, channel, streamId)

def Policy.answer (policy : Policy) (wanted : Bool) (consumerId : UInt32) (stream : PrivateStream) :
    PrivateStream × List UInt8 × UInt32 :=
  if wanted then policy.assign consumerId stream else (stream, [], 0)

/-- This is `tp_supervisor_handle_hello` up to the offer of its answer. -/
def handleHello (supervisor : Supervisor) (hello : ConsumerHello) (nowNs : UInt64) :
    Supervisor × Except String ConsumerConfig :=
  let config := supervisor.config
  match Manager.requestValidate hello with
  | .error text => (supervisor, .error text)
  | .ok request =>
      match Manager.registryUpdate supervisor.registry hello nowNs with
      | (registry, .error text) => ({ supervisor with registry := registry }, .error text)
      | (registry, .ok index) =>
          let entry := registry.getD index {}
          let descriptor := config.descriptor.answer (config.perConsumerEnabled && request.descriptorRequested)
            hello.consumerId entry.descriptor
          let control := config.control.answer (config.perConsumerEnabled && request.controlRequested)
            hello.consumerId entry.control
          ({ supervisor with
              registry := registry.set index { entry with descriptor := descriptor.1, control := control.1 } },
            .ok
              { streamId := hello.streamId
                consumerId := hello.consumerId
                useShm := if config.forceNoShm then 0 else hello.supportsShm
                mode := if config.forceMode != 0 then config.forceMode else hello.mode
                descriptorStreamId := descriptor.2.2
                controlStreamId := control.2.2
                payloadFallbackUri := config.payloadFallbackUri
                descriptorChannel := descriptor.2.1
                controlChannel := control.2.1 })

/-- The first entry of the consumer is seen. -/
def onQosConsumer (supervisor : Supervisor) (consumerId : UInt32) (nowNs : UInt64) : Supervisor :=
  match Manager.registryFind supervisor.registry consumerId with
  | none => supervisor
  | some index =>
      { supervisor with
        registry := supervisor.registry.modify index fun entry => { entry with lastSeenNs := nowNs } }

/-- This is the sweep at the end of `tp_supervisor_do_work`. -/
def sweep (supervisor : Supervisor) (nowNs : UInt64) : Supervisor :=
  let sweepIntervalNs := supervisor.config.consumerStaleMs.toUInt64 * 1000000
  if sweepIntervalNs > 0 && nowNs - supervisor.lastSweepNs ≥ sweepIntervalNs then
    { supervisor with
      registry := Manager.registrySweep supervisor.registry nowNs sweepIntervalNs
      lastSweepNs := nowNs }
  else supervisor

/-- The log keeps every answer, the last one first. -/
structure System where
  supervisor : Supervisor
  log : List ConsumerConfig := []
  deriving DecidableEq, Repr

inductive Action where
  | hello (hello : ConsumerHello) (nowNs : UInt64)
  | qos (consumerId : UInt32) (nowNs : UInt64)
  | sweep (nowNs : UInt64)

namespace System

def step (system : System) : Action → System
  | .hello hello nowNs =>
      match handleHello system.supervisor hello nowNs with
      | (supervisor, .ok config) => ⟨supervisor, config :: system.log⟩
      | (supervisor, .error _) => { system with supervisor := supervisor }
  | .qos consumerId nowNs => { system with supervisor := onQosConsumer system.supervisor consumerId nowNs }
  | .sweep nowNs => { system with supervisor := Supervision.sweep system.supervisor nowNs }

def start (config : Config) (nowNs : UInt64) : System := ⟨supervisorInit config nowNs, []⟩

end System

end TensorPool.Supervision
