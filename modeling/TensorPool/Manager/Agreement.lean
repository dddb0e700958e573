/-
This file shows that a consumer is told exactly what its private publications are.
What it is told is what it decodes from the bytes of its configuration.
-/

import Mathlib.Data.List.Induction
import TensorPool.Manager.Hello
import TensorPool.Wire.RoundTrip

namespace TensorPool.Manager

open Scan Flyweight

/-- This is what `tp_producer_send_consumer_config` gets. -/
def ConsumerConfig.message (config : ConsumerConfig) : Wire.ConsumerConfig where
  streamId := config.streamId
  consumerId := config.consumerId
  useShm := config.useShm
  mode := config.mode.toUInt32
  descriptorStreamId := config.descriptorStreamId
  controlStreamId := config.controlStreamId
  payloadFallbackUri := some config.payloadFallbackUri
  descriptorChannel := some config.descriptorChannel
  controlChannel := some config.controlChannel

/-- These bytes are offered to the consumer. -/
def ConsumerConfig.bytes (config : ConsumerConfig) : List UInt8 := Wire.encodeConsumerConfig config.message

/-- The answer names the open publication, and it names none exactly when none is open. -/
structure PrivateStream.Advertised (stream : PrivateStream) (channel : List UInt8) (streamId : UInt32) : Prop where
  absent : stream.publication = none ↔ channel = [] ∧ streamId = 0
  present : ∀ publication, stream.publication = some publication →
    publication = ⟨stream.channel, stream.streamId.toInt32⟩ ∧ channel = stream.channel ∧ streamId = stream.streamId

/-- A request for another stream does not meet an open publication. -/
def PrivateStream.steady (stream : PrivateStream) (requested : Bool) (channel : List UInt8) (streamId : UInt32) :
    Bool :=
  let asked := stream.request requested channel streamId
  match stream.publication with
  | none => true
  | some publication =>
      asked.streamId == 0 || asked.channel.isEmpty || publication == ⟨asked.channel, asked.streamId.toInt32⟩

/-- An answer names the requested channel when its publication is open or can be opened. -/
def PrivateStream.told (stream : PrivateStream) (requested : Bool) (channel : List UInt8) (streamId : UInt32)
    (opens : Bool) : List UInt8 :=
  let asked := stream.request requested channel streamId
  if asked.streamId != 0 && (stream.publication.isSome || !(asked.streamId.toInt32 < 0) && opens) then asked.channel
  else []

/-- An accepted hello greets the entry of its consumer, or a fresh one at a free place. -/
def greeted (manager : ConsumerManager) (hello : ConsumerHello) : Option Entry :=
  match registryFind manager.registry hello.consumerId with
  | some index => some (manager.registry.getD index {})
  | none => if (registryAlloc manager.registry).isSome then some {} else none

/-- A configuration of 26 bytes and three texts with a length of four bytes fits its buffer. -/
def configFits (fallback descriptor control : List UInt8) : Bool :=
  38 + (cString fallback).length + descriptor.length + control.length ≤ 512

/-- An accepted hello does not ask for another stream than the open ones, and the texts of its answer fit. -/
def steadyHello (manager : ConsumerManager) (hello : ConsumerHello) (outside : Outside) : Bool :=
  match requestValidate hello, greeted manager hello with
  | .ok request, some entry =>
      entry.descriptor.steady request.descriptorRequested hello.descriptorChannel hello.descriptorStreamId &&
        (entry.control.steady request.controlRequested hello.controlChannel hello.controlStreamId &&
          configFits manager.payloadFallbackUri
            (entry.descriptor.told request.descriptorRequested hello.descriptorChannel hello.descriptorStreamId
              outside.descriptorOpens)
            (entry.control.told request.controlRequested hello.controlChannel hello.controlStreamId
              outside.controlOpens))
  | _, _ => true

/-- The hello is one that `tp_control_decode_consumer_hello` yields. -/
structure Decoded (hello : ConsumerHello) : Prop where
  supportsShm : hello.supportsShm ∈ Wire.bools
  mode : hello.mode ∈ Wire.modes

theorem PrivateStream.request_publication (stream : PrivateStream) (requested : Bool) (channel : List UInt8)
    (streamId : UInt32) : (stream.request requested channel streamId).publication = stream.publication := by
  unfold PrivateStream.request
  split <;> rfl

/-- An added publication has the channel and the stream that were asked for. -/
theorem addPublication_some {opens : Bool} {channel : List UInt8} {streamId : UInt32} {publication : Publication}
    (opened : addPublication opens channel streamId = some publication) :
    publication = ⟨channel, streamId.toInt32⟩ := by
  unfold addPublication at opened
  split at opened
  · cases opened
  · split at opened
    · exact (Option.some.inj opened).symm
    · cases opened

/-- A steady request is answered with what is open. -/
theorem PrivateStream.answer_advertised {stream served : PrivateStream} {requested opens : Bool}
    {channel channel' : List UInt8} {streamId streamId' : UInt32}
    (steady : stream.steady requested channel streamId = true)
    (answered : (stream.request requested channel streamId).answer requested opens = (served, channel', streamId')) :
    served.Advertised channel' streamId' := by
  have same := stream.request_publication requested channel streamId
  unfold PrivateStream.steady at steady
  dsimp only at steady
  generalize stream.request requested channel streamId = asked at same steady answered
  rw [← same] at steady
  unfold PrivateStream.answer at answered
  dsimp only at answered
  split at answered
  next wanted =>
    simp only [Bool.and_eq_true, bne_iff_ne, ne_eq, Bool.not_eq_true', List.isEmpty_eq_false_iff] at wanted
    obtain ⟨⟨-, streamSome⟩, channelSome⟩ := wanted
    have shows' : ∀ publication, publication = (⟨asked.channel, asked.streamId.toInt32⟩ : Publication) →
        ({ asked with publication := some publication } : PrivateStream).Advertised asked.channel asked.streamId := by
      intro publication own
      refine ⟨⟨nofun, fun empty => absurd empty.1 channelSome⟩, fun publication' shown => ?_⟩
      cases shown
      exact ⟨own, rfl, rfl⟩
    cases former : asked.publication with
    | some publication =>
        rw [former] at steady answered
        simp only [Bool.or_eq_true, beq_iff_eq, List.isEmpty_iff, streamSome, channelSome, false_or] at steady
        cases answered
        exact shows' publication steady
    | none =>
        rw [former] at answered
        cases opened : addPublication opens asked.channel asked.streamId with
        | some publication =>
            rw [opened] at answered
            cases answered
            exact shows' publication (addPublication_some opened)
        | none =>
            rw [opened] at answered
            cases answered
            exact ⟨⟨fun _ => ⟨rfl, rfl⟩, fun _ => rfl⟩, nofun⟩
  · cases answered
    exact ⟨⟨fun _ => ⟨rfl, rfl⟩, fun _ => rfl⟩, nofun⟩

/-- The answer tells the stream that the request leads to. -/
theorem PrivateStream.answer_told {stream served : PrivateStream} {requested opens : Bool}
    {channel channel' : List UInt8} {streamId streamId' : UInt32}
    (answered : (stream.request requested channel streamId).answer requested opens = (served, channel', streamId')) :
    channel' = stream.told requested channel streamId opens := by
  have same := stream.request_publication requested channel streamId
  have named : requested = false → (stream.request requested channel streamId).streamId = 0 := by
    rintro rfl
    rfl
  unfold PrivateStream.told
  dsimp only
  generalize stream.request requested channel streamId = asked at same named answered
  rw [← same]
  unfold PrivateStream.answer addPublication at answered
  dsimp only at answered
  have told := (congrArg (fun answer : PrivateStream × List UInt8 × UInt32 => answer.2.1) answered).symm
  dsimp only at told
  rw [told]
  by_cases zero : asked.streamId = 0
  · simp [zero]
  · have requested : requested = true := by
      by_contra absurdity
      exact zero (named (Bool.eq_false_iff.mpr absurdity))
    by_cases empty : asked.channel = []
    · simp [empty]
    · cases asked.publication with
      | some publication => simp [requested, zero, empty]
      | none =>
          by_cases negative : asked.streamId.toInt32 < 0
          · simp [requested, zero, empty, negative]
          · cases opens <;> simp [requested, zero, empty, negative]

/-- A channel is copied up to its first null byte, so the encoder puts it as a whole. -/
theorem PrivateStream.chars_told (stream : PrivateStream) (requested : Bool) (channel : List UInt8)
    (streamId : UInt32) (opens : Bool) :
    chars (stream.told requested channel streamId opens) = stream.told requested channel streamId opens := by
  unfold PrivateStream.told
  dsimp only
  split
  · unfold PrivateStream.request
    split
    next found _ =>
      unfold copyStringView at found
      split at found
      · cases found
      · cases found
        exact chars_chars _
    · rfl
  · rfl

section Registry

variable {registry registry' : Registry} {hello : ConsumerHello} {request : Request} {nowNs : UInt64} {index : Nat}

/-- A found entry is in use by its consumer. -/
theorem registryFind_some {consumerId : UInt32} (found : registryFind registry consumerId = some index) :
    ∃ entry, registry[index]? = some entry ∧ entry.inUse = true ∧ entry.consumerId = consumerId := by
  obtain ⟨inside, shown, -⟩ := List.findIdx?_eq_some_iff_getElem.mp found
  rw [Bool.and_eq_true, beq_iff_eq] at shown
  exact ⟨registry[index], List.getElem?_eq_getElem inside, shown.1, shown.2⟩

/-- When none is found no entry is in use by the consumer. -/
theorem registryFind_none {consumerId : UInt32} (missing : registryFind registry consumerId = none) {entry : Entry}
    (present : entry ∈ registry) (inUse : entry.inUse = true) : entry.consumerId ≠ consumerId := by
  have hidden := List.findIdx?_eq_none_iff.mp missing entry present
  rw [inUse, Bool.true_and, beq_eq_false_iff_ne] at hidden
  exact hidden

/-- An accepted update stores one greeted entry, at the place of the consumer or at a free place. -/
theorem registryUpdate_ok (valid : requestValidate hello = .ok request)
    (updated : registryUpdate registry hello nowNs = (registry', .ok index)) :
    ∃ old base, registry[index]? = some old ∧ registry' = registry.set index (base.greet hello request nowNs) ∧
      base.inUse = true ∧ base.consumerId = hello.consumerId ∧
        (registryFind registry hello.consumerId = some index ∧ base = old ∨
          registryFind registry hello.consumerId = none ∧ old.inUse = false ∧ base.descriptor = {} ∧
            base.control = {} ∧ base.lastDescriptorNs = 0) := by
  unfold registryUpdate at updated
  rw [valid] at updated
  dsimp only at updated
  split at updated
  next found place =>
    cases updated
    obtain ⟨entry, here, inUse, own⟩ := registryFind_some place
    refine ⟨entry, entry, here, ?_, inUse, own, .inl ⟨place, rfl⟩⟩
    rw [List.modify_eq_set_getElem?, here]
    rfl
  next missing =>
    split at updated
    next place free =>
      cases updated
      obtain ⟨inside, shown, -⟩ := List.findIdx?_eq_some_iff_getElem.mp free
      rw [Bool.not_eq_true'] at shown
      exact ⟨registry[index], _, List.getElem?_eq_getElem inside, rfl, rfl, rfl,
        .inr ⟨missing, shown, rfl, rfl, rfl⟩⟩
    · cases updated

/-- A refused update changes nothing. -/
theorem registryUpdate_error {text : String}
    (refused : registryUpdate registry hello nowNs = (registry', .error text)) : registry' = registry := by
  unfold registryUpdate at refused
  split at refused
  · exact (Prod.mk.inj refused).1.symm
  · split at refused
    · cases (Prod.mk.inj refused).2
    · split at refused
      · cases (Prod.mk.inj refused).2
      · exact (Prod.mk.inj refused).1.symm

end Registry

section Answer

variable {manager after : ConsumerManager} {hello : ConsumerHello} {outside : Outside} {config : ConsumerConfig}

/-- A refused hello changes nothing. -/
theorem handleHello_error {text : String} (refused : handleHello manager hello outside = (after, .error text)) :
    after = manager := by
  unfold handleHello at refused
  split at refused
  · exact (Prod.mk.inj refused).1.symm
  · split at refused
    next registry text' update =>
      obtain rfl := registryUpdate_error update
      exact (Prod.mk.inj refused).1.symm
    · cases (Prod.mk.inj refused).2

/-- An answered hello stores one entry of its consumer, and a steady one is told what is open. -/
structure Answered (manager after : ConsumerManager) (hello : ConsumerHello) (outside : Outside)
    (config : ConsumerConfig) (index : Nat) (old new : Entry) : Prop where
  place : manager.registry[index]? = some old
  registry : after.registry = manager.registry.set index new
  inUse : new.inUse = true
  consumerId : new.consumerId = hello.consumerId
  configId : config.consumerId = hello.consumerId
  free : registryFind manager.registry hello.consumerId = some index ∨
    registryFind manager.registry hello.consumerId = none ∧ old.inUse = false
  paced : old.inUse = true ∧ new.lastDescriptorNs = old.lastDescriptorNs ∨
    old.inUse = false ∧ new.lastDescriptorNs = 0
  advertised : Decoded hello → steadyHello manager hello outside = true →
    ∃ view, Wire.decodeConsumerConfig config.bytes = value view ∧
      new.descriptor.Advertised view.descriptorChannel view.descriptorStreamId ∧
        new.control.Advertised view.controlChannel view.controlStreamId

/-- A configuration with fitting texts is decoded as it was made. -/
theorem ConsumerConfig.decode_bytes {config : ConsumerConfig} (useShm : config.useShm ∈ Wire.bools)
    (mode : config.mode ∈ Wire.modes) (descriptor : chars config.descriptorChannel = config.descriptorChannel)
    (control : chars config.controlChannel = config.controlChannel)
    (fits : configFits config.payloadFallbackUri config.descriptorChannel config.controlChannel = true) :
    ∃ view, Wire.decodeConsumerConfig config.bytes = value view ∧
      view.descriptorChannel = config.descriptorChannel ∧ view.descriptorStreamId = config.descriptorStreamId ∧
        view.controlChannel = config.controlChannel ∧ view.controlStreamId = config.controlStreamId := by
  refine ⟨config.message.view, Wire.ControlMessage.consumerConfig_roundTrip ?_ ⟨useShm,
    List.mem_map_of_mem mode⟩, descriptor, rfl, control, rfl⟩
  have first : Wire.string config.message.payloadFallbackUri = cString config.payloadFallbackUri := rfl
  have second : Wire.string config.message.descriptorChannel = config.descriptorChannel := descriptor
  have third : Wire.string config.message.controlChannel = config.controlChannel := control
  rw [configFits, decide_eq_true_eq] at fits
  rw [Wire.ConsumerConfig.texts, Wire.textsSize, first, second, third]
  simp only [List.map_cons, List.map_nil, List.sum_cons, List.sum_nil]
  omega

/-- An accepted hello is answered, and one entry has changed. -/
theorem handleHello_ok (answered : handleHello manager hello outside = (after, .ok config)) :
    ∃ index old new, Answered manager after hello outside config index old new := by
  unfold handleHello at answered
  split at answered
  · cases (Prod.mk.inj answered).2
  next request valid =>
    split at answered
    · cases (Prod.mk.inj answered).2
    next registry index updated =>
      obtain ⟨old, base, here, rfl, inUse, own, place⟩ := registryUpdate_ok valid updated
      have inside : index < manager.registry.length := (List.getElem?_eq_some_iff.mp here).1
      have entry : (manager.registry.set index (base.greet hello request outside.nowNs)).getD index {} =
          base.greet hello request outside.nowNs := by
        rw [List.getD_eq_getElem?_getD, List.getElem?_set_self inside]
        rfl
      rw [entry] at answered
      obtain ⟨descriptor, descriptorChannel, descriptorStreamId, served⟩ : ∃ descriptor channel streamId,
          (base.greet hello request outside.nowNs).descriptor.answer request.descriptorRequested
            outside.descriptorOpens = (descriptor, channel, streamId) := ⟨_, _, _, rfl⟩
      obtain ⟨control, controlChannel, controlStreamId, served'⟩ : ∃ control channel streamId,
          (base.greet hello request outside.nowNs).control.answer request.controlRequested
            outside.controlOpens = (control, channel, streamId) := ⟨_, _, _, rfl⟩
      dsimp only at answered
      rw [served, served'] at answered
      obtain ⟨rfl, same⟩ := Prod.mk.inj answered
      cases same
      refine ⟨index, old,
        { base.greet hello request outside.nowNs with descriptor := descriptor, control := control },
        here, List.set_set _, inUse, own, rfl, ?_, ?_, fun decoded steady => ?_⟩
      · rcases place with ⟨found, -⟩ | ⟨missing, free, -⟩
        · exact .inl found
        · exact .inr ⟨missing, free⟩
      · rcases place with ⟨found, rfl⟩ | ⟨missing, free, -, -, fresh⟩
        · obtain ⟨entry, there, used, -⟩ := registryFind_some found
          obtain rfl := Option.some.inj (here.symm.trans there)
          exact .inl ⟨used, rfl⟩
        · exact .inr ⟨free, fresh⟩
      · -- The greeted entry has the streams of the updated one.
        obtain ⟨entry, greets, first, second⟩ : ∃ entry, greeted manager hello = some entry ∧
            entry.descriptor = base.descriptor ∧ entry.control = base.control := by
          unfold greeted
          rcases place with ⟨found, rfl⟩ | ⟨missing, free, descriptor, control, -⟩
          · rw [found]
            refine ⟨_, rfl, ?_⟩
            rw [List.getD_eq_getElem?_getD, here]
            exact ⟨rfl, rfl⟩
          · have room : (registryAlloc manager.registry).isSome = true := by
              rw [registryAlloc, List.findIdx?_isSome, List.any_eq_true]
              exact ⟨old, List.mem_of_getElem? here, by rw [free]; rfl⟩
            rw [missing, room]
            exact ⟨{}, rfl, descriptor.symm, control.symm⟩
        unfold steadyHello at steady
        rw [valid, greets] at steady
        dsimp only at steady
        rw [first, second, Bool.and_eq_true, Bool.and_eq_true] at steady
        obtain ⟨calm, calm', fits⟩ := steady
        have told := PrivateStream.answer_told served
        have told' := PrivateStream.answer_told served'
        rw [← told, ← told'] at fits
        have useShm : (if manager.forceNoShm then 0 else hello.supportsShm) ∈ Wire.bools := by
          split
          · decide
          · exact decoded.supportsShm
        have plain : chars descriptorChannel = descriptorChannel := by
          rw [told]
          exact base.descriptor.chars_told _ _ _ _
        have plain' : chars controlChannel = controlChannel := by
          rw [told']
          exact base.control.chars_told _ _ _ _
        obtain ⟨view, shown, channel, streamId, channel', streamId'⟩ := @ConsumerConfig.decode_bytes
          ⟨hello.streamId, hello.consumerId, _, hello.mode, descriptorStreamId, controlStreamId,
            manager.payloadFallbackUri, descriptorChannel, controlChannel⟩ useShm decoded.mode plain plain' fits
        refine ⟨view, shown, ?_, ?_⟩
        · rw [channel, streamId]
          exact PrivateStream.answer_advertised calm served
        · rw [channel', streamId']
          exact PrivateStream.answer_advertised calm' served'

end Answer

/-- The consumers in use differ, and the bytes of its last configuration tell each what its publications are. -/
structure Agrees (capacity : Nat) (system : System) : Prop where
  length : system.manager.registry.length = capacity
  distinct : ∀ (i j : Nat) (left right : Entry), system.manager.registry[i]? = some left →
    system.manager.registry[j]? = some right → left.inUse = true → right.inUse = true →
      left.consumerId = right.consumerId → i = j
  advertised : ∀ (i : Nat) (entry : Entry), system.manager.registry[i]? = some entry → entry.inUse = true →
    ∃ config view, system.lastConfig entry.consumerId = some config ∧
      Wire.decodeConsumerConfig config.bytes = value view ∧
        entry.descriptor.Advertised view.descriptorChannel view.descriptorStreamId ∧
          entry.control.Advertised view.controlChannel view.controlStreamId

/-- A new manager with the fallback URI and the mode that its producer was given. -/
def System.start (capacity : Nat) (fallback : List UInt8) (forced : Bool) : System :=
  ⟨{ managerInit capacity with payloadFallbackUri := fallback, forceNoShm := forced }, []⟩

/-- The last configuration of its consumer is the one just told. -/
theorem lastConfig_own (system : System) (manager : ConsumerManager) (config : ConsumerConfig) :
    System.lastConfig ⟨manager, system.log ++ [config]⟩ config.consumerId = some config := by
  rw [System.lastConfig, List.reverse_append, List.reverse_singleton, List.singleton_append]
  exact List.find?_cons_of_pos (beq_self_eq_true config.consumerId)

/-- The other consumers keep their last configurations. -/
theorem lastConfig_other (system : System) (manager : ConsumerManager) {config : ConsumerConfig} {consumerId : UInt32}
    (other : config.consumerId ≠ consumerId) :
    System.lastConfig ⟨manager, system.log ++ [config]⟩ consumerId = system.lastConfig consumerId := by
  rw [System.lastConfig, List.reverse_append, List.reverse_singleton, List.singleton_append]
  exact List.find?_cons_of_neg (by rwa [beq_iff_eq])

namespace Agrees

variable {capacity : Nat} {system : System}

/-- A new manager agrees. -/
theorem start (capacity : Nat) (fallback : List UInt8) (forced : Bool) :
    Agrees capacity (System.start capacity fallback forced) := by
  have free : ∀ (i : Nat) (entry : Entry), (registryInit capacity)[i]? = some entry → entry.inUse = false := by
    intro i entry here
    rw [registryInit, List.getElem?_replicate] at here
    split at here
    · cases here
      rfl
    · cases here
  refine ⟨List.length_replicate, fun i j left right here _ inUse => ?_, fun i entry here inUse => ?_⟩
  · exact absurd inUse (by rw [free i left here]; decide)
  · exact absurd inUse (by rw [free i entry here]; decide)

/-- An entry that keeps its streams and its consumer, or that is not in use, keeps the agreement. -/
theorem transform (agrees : Agrees capacity system) {registry : Registry} (change : Nat → Entry → Entry)
    (changed : ∀ i : Nat, registry[i]? = (system.manager.registry[i]?).map (change i))
    (same : ∀ i entry, (change i entry).inUse = true → entry.inUse = true ∧
      (change i entry).consumerId = entry.consumerId ∧ (change i entry).descriptor = entry.descriptor ∧
        (change i entry).control = entry.control)
    (policy : ProgressPolicy) :
    Agrees capacity
      { system with manager := { system.manager with registry := registry, progressPolicy := policy } } where
  length := by
    rw [← agrees.length]
    have lengths : ∀ i : Nat, registry[i]? = none ↔ system.manager.registry[i]? = none := by
      intro i
      rw [changed, Option.map_eq_none_iff]
    simp only [List.getElem?_eq_none_iff] at lengths
    have first := (lengths registry.length).mp (Nat.le_refl _)
    have second := (lengths system.manager.registry.length).mpr (Nat.le_refl _)
    exact Nat.le_antisymm second first
  distinct := by
    intro i j left right here here' inUse inUse' alike
    rw [changed] at here here'
    obtain ⟨old, place, rfl⟩ := Option.map_eq_some_iff.mp here
    obtain ⟨old', place', rfl⟩ := Option.map_eq_some_iff.mp here'
    obtain ⟨used, own, -⟩ := same i old inUse
    obtain ⟨used', own', -⟩ := same j old' inUse'
    exact agrees.distinct i j old old' place place' used used' (own.symm.trans (alike.trans own'))
  advertised := by
    intro i entry here inUse
    rw [changed] at here
    obtain ⟨old, place, rfl⟩ := Option.map_eq_some_iff.mp here
    obtain ⟨used, own, descriptor, control⟩ := same i old inUse
    rw [own, descriptor, control]
    exact agrees.advertised i old place used

/-- A steady hello keeps the agreement. -/
theorem hello (agrees : Agrees capacity system) {hello : ConsumerHello} {outside : Outside}
    (decoded : Decoded hello) (steady : steadyHello system.manager hello outside = true) :
    Agrees capacity (system.step (.hello hello outside)) := by
  rw [System.step]
  split
  next after config answered =>
    obtain ⟨index, old, new, place, registry, inUse, own, configId, free, -, advertised⟩ := handleHello_ok answered
    have inside : index < system.manager.registry.length := (List.getElem?_eq_some_iff.mp place).1
    have others : ∀ (j : Nat) (entry : Entry), j ≠ index → system.manager.registry[j]? = some entry →
      entry.inUse = true →
        entry.consumerId ≠ hello.consumerId := by
      intro j entry apart here used alike
      rcases free with found | ⟨missing, -⟩
      · obtain ⟨first, there, usedFirst, ownFirst⟩ := registryFind_some found
        exact apart (agrees.distinct j index entry first here there used usedFirst (alike.trans ownFirst.symm))
      · exact registryFind_none missing (List.mem_of_getElem? here) used alike
    have cells : ∀ j : Nat, after.registry[j]? = if index = j then some new else system.manager.registry[j]? := by
      intro j
      rw [registry, List.getElem?_set]
      split
      next same =>
        subst same
        rfl
      · rfl
    refine ⟨?_, ?_, ?_⟩
    · rw [registry, List.length_set, agrees.length]
    · intro i j left right here here' used used' alike
      rw [cells] at here here'
      split at here
      next same =>
        subst same
        cases here
        split at here'
        next same' => exact same'
        next apart =>
          exact absurd (alike.symm.trans own) (others j right (Ne.symm apart) here' used')
      next apart =>
        split at here'
        next same' =>
          subst same'
          cases here'
          exact absurd (alike.trans own) (others i left (Ne.symm apart) here used)
        · exact agrees.distinct i j left right here here' used used' alike
    · intro i entry here used
      rw [cells] at here
      split at here
      · cases here
        obtain ⟨view, shown, streams⟩ := advertised decoded steady
        refine ⟨config, view, ?_, shown, streams⟩
        rw [own, ← configId]
        exact lastConfig_own system after config
      next apart =>
        obtain ⟨last, view, told, streams⟩ := agrees.advertised i entry here used
        refine ⟨last, view, ?_, streams⟩
        rw [lastConfig_other system after, told]
        rw [configId]
        exact (others i entry (Ne.symm apart) here used).symm
  next after text refused =>
    obtain rfl := handleHello_error refused
    exact agrees

/-- A touch keeps the agreement. -/
theorem touch (agrees : Agrees capacity system) (consumerId : UInt32) (nowNs : UInt64) :
    Agrees capacity (system.step (.touch consumerId nowNs)) := by
  rw [System.step, Manager.touch]
  split
  · exact agrees
  next index found =>
    refine agrees.transform (fun i entry => if index = i then { entry with lastSeenNs := nowNs } else entry)
      (fun i => ?_) (fun i entry used => ?_) system.manager.progressPolicy
    · rw [List.getElem?_modify]
      cases system.manager.registry[i]? <;> rfl
    · split at used
      next same => exact ⟨used, by rw [if_pos same], by rw [if_pos same], by rw [if_pos same]⟩
      next apart => exact ⟨used, by rw [if_neg apart], by rw [if_neg apart], by rw [if_neg apart]⟩

/-- A sweep keeps the agreement. -/
theorem sweep (agrees : Agrees capacity system) (nowNs staleNs : UInt64) :
    Agrees capacity (system.step (.sweep nowNs staleNs)) := by
  rw [System.step, Manager.sweep, refreshProgressPolicy]
  refine agrees.transform (fun _ => Entry.sweep nowNs staleNs) (fun i => ?_) (fun i entry used => ?_) _
  · rw [registrySweep, List.getElem?_map]
  · unfold Entry.sweep at used ⊢
    split at used
    · cases used
    next kept =>
      rw [if_neg kept]
      exact ⟨used, rfl, rfl, rfl⟩

end Agrees

namespace System

/-- The last action of a run comes after the others. -/
theorem run_snoc (system : System) (actions : List Action) (action : Action) :
    system.run (actions ++ [action]) = (system.run actions).step action := by
  rw [run, List.foldl_append]
  rfl

/-- Every hello of the actions was decoded, and it is steady in the state that it meets. -/
def Steady (system : System) (actions : List Action) : Prop :=
  ∀ past hello outside rest, actions = past ++ .hello hello outside :: rest →
    Decoded hello ∧ steadyHello (system.run past).manager hello outside = true

/-- The start of a steady run is steady. -/
theorem Steady.init {system : System} {actions : List Action} {action : Action}
    (steady : system.Steady (actions ++ [action])) : system.Steady actions := by
  intro past hello outside rest split
  refine steady past hello outside (rest ++ [action]) ?_
  rw [split, List.append_assoc]
  rfl

end System

/-- A steady run from a new manager ends in agreement. -/
theorem agrees_run {capacity : Nat} {fallback : List UInt8} {forced : Bool} {actions : List Action}
    (steady : (System.start capacity fallback forced).Steady actions) :
    Agrees capacity ((System.start capacity fallback forced).run actions) := by
  induction actions using List.reverseRecOn with
  | nil => exact Agrees.start capacity fallback forced
  | append_singleton actions action hypothesis =>
      have agrees := hypothesis steady.init
      rw [System.run_snoc]
      cases action with
      | hello hello outside =>
          obtain ⟨decoded, calm⟩ := steady actions hello outside [] rfl
          exact agrees.hello decoded calm
      | touch consumerId nowNs => exact agrees.touch consumerId nowNs
      | sweep nowNs staleNs => exact agrees.sweep nowNs staleNs

/-- The consumers in use, in the order of the registry. -/
def consumersInUse (system : System) : List UInt32 :=
  (system.manager.registry.filter Entry.inUse).map Entry.consumerId

/-- No consumer is listed twice. -/
theorem Agrees.nodup {capacity : Nat} {system : System} (agrees : Agrees capacity system) :
    (consumersInUse system).Nodup := by
  rw [consumersInUse, List.Nodup, List.pairwise_map, List.pairwise_filter, List.pairwise_iff_getElem]
  intro i j inside inside' less inUse inUse' alike
  have same := agrees.distinct i j _ _ (List.getElem?_eq_getElem inside) (List.getElem?_eq_getElem inside') inUse
    inUse' alike
  omega

/-- No more consumers are listed than there are entries. -/
theorem Agrees.count {capacity : Nat} {system : System} (agrees : Agrees capacity system) :
    (consumersInUse system).length ≤ capacity := by
  rw [consumersInUse, List.length_map, ← agrees.length]
  exact List.length_filter_le _ _

/-- Every history of steady hellos, touches and sweeps tells each consumer what its streams are. -/
theorem run_agrees {capacity : Nat} {fallback : List UInt8} {forced : Bool} {actions : List Action}
    (steady : (System.start capacity fallback forced).Steady actions) :
    Agrees capacity ((System.start capacity fallback forced).run actions) ∧
      (consumersInUse ((System.start capacity fallback forced).run actions)).Nodup ∧
        (consumersInUse ((System.start capacity fallback forced).run actions)).length ≤ capacity ∧
          ∀ hello outside after text, handleHello ((System.start capacity fallback forced).run actions).manager hello
            outside = (after, .error text) →
              after = ((System.start capacity fallback forced).run actions).manager := by
  have agrees := agrees_run steady
  exact ⟨agrees, agrees.nodup, agrees.count, fun _ _ _ _ refused => handleHello_error refused⟩

def plainHello (channel : List UInt8) (streamId : UInt32) : ConsumerHello where
  streamId := 1
  consumerId := 7
  supportsShm := 1
  supportsProgress := 0
  mode := 1
  maxRateHz := 0
  progressIntervalUs := nullU32
  progressBytesDelta := nullU32
  progressMajorDeltaUnits := nullU32
  descriptorStreamId := streamId
  controlStreamId := 0
  descriptorChannel := channel
  controlChannel := []

/-- The consumer asks for its stream, asks for it once more, and gives it up; another one finds no room. -/
def repeatedHellos : List Action :=
  [.hello (plainHello [97] 1) ⟨5, true, true⟩, .touch 7 6, .hello (plainHello [97] 1) ⟨7, true, true⟩,
    .hello { plainHello [98] 2 with consumerId := 8 } ⟨8, true, true⟩, .hello (plainHello [] 0) ⟨9, true, true⟩]

theorem repeatedHellos_steady : (System.start 1 [102] false).Steady repeatedHellos := by
  intro past hello outside rest split
  have place : repeatedHellos[past.length]? = some (.hello hello outside) := by
    rw [split, List.getElem?_append_right (Nat.le_refl _), Nat.sub_self]
    rfl
  have taken : repeatedHellos.take past.length = past := by
    rw [split, List.take_left' rfl]
  rw [← taken]
  generalize past.length = count at place
  rcases count with _ | _ | _ | _ | _ | _
  · cases place
    exact ⟨⟨by decide, by decide⟩, by decide⟩
  · cases place
  · cases place
    exact ⟨⟨by decide, by decide⟩, by decide⟩
  · cases place
    exact ⟨⟨by decide, by decide⟩, by decide⟩
  · cases place
    exact ⟨⟨by decide, by decide⟩, by decide⟩
  · cases place

theorem run_agrees_repeated : Agrees 1 ((System.start 1 [102] false).run repeatedHellos) :=
  (run_agrees repeatedHellos_steady).1

/-- One consumer asks for a stream and then for another one. -/
def changedHello : System :=
  (System.start 1 [] false).run
    [.hello (plainHello [97] 1) ⟨5, true, true⟩, .hello (plainHello [98] 2) ⟨6, true, true⟩]

/-- One consumer asks for a stream on a channel of 475 bytes. -/
def longHello : System :=
  (System.start 1 [] false).run [.hello (plainHello (List.replicate 475 97) 1) ⟨5, true, true⟩]

/--
A consumer that asks for another channel is told that channel but keeps the publication on the first one.
A consumer that asks for a long channel gets the publication, and it cannot decode its configuration.
-/
theorem changedHello_disagrees : ¬ Agrees 1 changedHello ∧ ¬ Agrees 1 longHello := by
  constructor
  · intro agrees
    obtain ⟨config, view, told, shown, advertised, -⟩ := agrees.advertised 0 _ rfl rfl
    have own := (advertised.present _ rfl).1
    exact absurd own (by decide)
  · intro agrees
    have seen : (longHello.manager.registry[0]?.map fun entry => (entry.inUse, entry.consumerId)) = some (true,
      7) := by
      decide +kernel
    obtain ⟨entry, here, own⟩ := Option.map_eq_some_iff.mp seen
    obtain ⟨inUse, consumerId⟩ := Prod.mk.inj own
    obtain ⟨config, view, told, shown, -⟩ := agrees.advertised 0 entry here inUse
    have hidden : ((longHello.lastConfig 7).map fun config => Wire.decodeConsumerConfig config.bytes) =
        some (stop ⟨-1, some "tp_control_decode_consumer_config: invalid control channel"⟩) := by
      decide +kernel
    rw [consumerId] at told
    rw [told, Option.map_some, shown] at hidden
    cases hidden

end TensorPool.Manager
