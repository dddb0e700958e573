/-
This file proves that different attaches of producers get different epochs of a stream.
-/

import TensorPool.Driver.Succession
import TensorPool.Protocol.Isolation

namespace TensorPool.Protocol

open DriverClient

namespace System

variable {o : Driver.Oracle} {config : Driver.Config} {started : Bool} {system : System}

/-- Calls with one lease are one call. -/
theorem Sound.call_unique (sound : Sound o config started system)
    (few : system.ops.countP Driver.Op.attaches < 2 ^ 64) {first second : Nat} {call call' : Call}
    (there : system.calls[first]? = some call) (there' : system.calls[second]? = some call')
    (ok : call.attach.info.code = codeOk) (ok' : call'.attach.info.code = codeOk)
    (same : call.attach.info.leaseId = call'.attach.info.leaseId) :
    first = second := by
  obtain ⟨response, body, lease, won⟩ := (sound.calls call (List.mem_of_getElem? there)).won ok
  obtain ⟨response', body', lease', won'⟩ := (sound.calls call' (List.mem_of_getElem? there')).won ok'
  obtain ⟨result, sent⟩ := won.sent
  obtain ⟨result', sent'⟩ := won'.sent
  have identifier : body.leaseId = body'.leaseId := by
    have shown := congrArg LeaseBlock.leaseId won.shown
    have shown' := congrArg LeaseBlock.leaseId won'.shown
    exact shown.symm.trans (same.trans shown')
  rw [sound.driver] at sent sent'
  have correlated := Driver.run_correlates o config started system.ops few sent sent' won.code won'.code won.carried
    won'.carried identifier
  rw [won.correlationId, won'.correlationId] at correlated
  have inside := (List.getElem?_eq_some_iff.mp there).1
  refine (List.getElem?_inj (by rw [List.length_map]; exact inside) sound.apart).mp ?_
  rw [List.getElem?_map, List.getElem?_map, there, there']
  exact congrArg some (Int64.toInt_inj.mp correlated)

/-- What the information of a producer's call says was told to the producer of a granted lease. -/
theorem Won.produces {index : Nat} {request : AttachRequest} {info : AttachInfo} {response : Driver.AttachResponse}
    {body : Driver.AttachBody} {lease : Driver.Lease} (won : system.Won index request info response body lease)
    (sound : Sound o config started system) (producer : getRole request.role = some .producer) :
    Driver.Produces system.driver.world.log lease info.epoch ∧ lease.streamId = info.streamId ∧
      lease.leaseId = info.leaseId := by
  obtain ⟨result, sent⟩ := won.sent
  have epoch := congrArg LeaseBlock.epoch won.shown
  have stream := congrArg LeaseBlock.streamId won.shown
  have identifier := congrArg LeaseBlock.leaseId won.shown
  refine ⟨⟨?_, ?_, response, result, body, sent, won.code, won.carried, won.carries, epoch.symm⟩,
    won.carries.streamId.symm.trans stream.symm, won.carries.leaseId.symm.trans identifier.symm⟩
  · rw [← sound.granted]
    exact List.mem_map_of_mem won.granted.listed
  · have role := won.granted.asked.role
    exact (Option.some.inj (producer.symm.trans role)).symm

end System

/--
In every run of the driver and its clients two attaches of producers that were granted one stream have different
epochs of it, whatever fragments were lost, repeated, delayed or reordered between them.
-/
theorem run_fenced (o : Driver.Oracle) (config : Driver.Config) (started : Bool) (contexts : Nat → Context)
    (actions : List Action) (system : System)
    (ran : GuardedRun.runWhile System.fresh (System.step o contexts) (System.boot o config started) actions =
      some system)
    (early : ∀ call, (o.clock call).toNat < 2 ^ 63) (short : system.ops.length < 2 ^ 63)
    (first second : Nat) (call call' : Call) (there : system.calls[first]? = some call)
    (there' : system.calls[second]? = some call') (apart : first ≠ second)
    (granted : call.attach.info.code = codeOk ∧ getRole call.request.role = some .producer)
    (granted' : call'.attach.info.code = codeOk ∧ getRole call'.request.role = some .producer)
    (stream : call.attach.info.streamId = call'.attach.info.streamId) :
    call.attach.info.epoch ≠ call'.attach.info.epoch := by
  have sound := System.run_sound ran
  have few : system.ops.countP Driver.Op.attaches < 2 ^ 64 :=
    Nat.lt_of_le_of_lt List.countP_le_length (Nat.lt_trans short (by decide))
  obtain ⟨response, body, lease, won⟩ := (sound.calls call (List.mem_of_getElem? there)).won granted.1
  obtain ⟨response', body', lease', won'⟩ := (sound.calls call' (List.mem_of_getElem? there')).won granted'.1
  obtain ⟨produces, streamId, leaseId⟩ := won.produces sound granted.2
  obtain ⟨produces', streamId', leaseId'⟩ := won'.produces sound granted'.2
  intro same
  have succeeds := Driver.run_succeeds early config started short
  rw [← sound.driver] at succeeds
  have one : lease = lease' := by
    apply succeeds.alone lease lease' call'.attach.info.epoch
    · exact same ▸ produces
    · exact produces'
    · rw [streamId, stream, streamId']
  apply apart
  apply sound.call_unique few there there' granted.1 granted'.1
  rw [← leaseId, one, leaseId']

/-- A producer attaches and detaches, and then another one attaches to its stream. -/
def handOver : List Action :=
  [.attach 0 (AttachRequest.init 1 1) true ⟨7, 9⟩, .send 0 1, .serve 0, .hear 0 1 true, .poll 0 ⟨8, 10⟩,
    .detach 0 15 1, .serve 2, .attach 1 (AttachRequest.init 1 1) false ⟨11, 12⟩, .send 1 1, .serve 5,
      .hear 1 6 true, .poll 1 ⟨13, 14⟩]

def handedOver : Option System :=
  GuardedRun.runWhile System.fresh (System.step Driver.plainOracle fun _ => ⟨1000000000, 3⟩)
    (System.boot Driver.plainOracle Driver.plainConfig false) handOver

theorem handedOver_some : handedOver.isSome = true := by decide +kernel

/-- The calls of both producers. -/
theorem handedOver_calls : ((handedOver.get handedOver_some).calls.map fun call =>
    (call.attach.info.code, getRole call.request.role, call.attach.info.streamId)) =
      [(codeOk, some .producer, 1), (codeOk, some .producer, 1)] := by decide +kernel

theorem handedOver_fenced : ∃ call call', (handedOver.get handedOver_some).calls = [call, call'] ∧
    call.attach.info.epoch ≠ call'.attach.info.epoch := by
  have calls := handedOver_calls
  obtain ⟨call, call', both⟩ := List.length_eq_two.mp
    (show (handedOver.get handedOver_some).calls.length = 2 by rw [← List.length_map, calls]; rfl)
  rw [both] at calls
  simp only [List.map_cons, List.map_nil, List.cons.injEq, Prod.mk.injEq] at calls
  obtain ⟨⟨code, role, stream⟩, ⟨code', role', stream'⟩, -⟩ := calls
  refine ⟨call, call', both, ?_⟩
  exact run_fenced Driver.plainOracle Driver.plainConfig false (fun _ => ⟨1000000000, 3⟩) handOver
    (handedOver.get handedOver_some) (Option.some_get handedOver_some).symm
    (fun _ => (by decide : (100 : UInt64).toNat < 2 ^ 63)) (by decide +kernel) 0 1 call call' (by rw [both]; rfl)
    (by rw [both]; rfl) (by decide) ⟨code, role⟩ ⟨code', role'⟩ (stream.trans stream'.symm)

end TensorPool.Protocol
