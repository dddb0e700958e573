/-
This file shows that the notice of a driver shutdown invalidates nothing.
-/

import TensorPool.Client.ConsumerSession

namespace TensorPool.Client

/-- An attach that the caller sees as a success. -/
def ProducerReport.attaches : ProducerReport → Bool
  | .attached code => code ≥ 0
  | _ => false

def ConsumerReport.attaches : ConsumerReport → Bool
  | .attached code => code ≥ 0
  | _ => false

/-- A run without a successful attach. -/
inductive ProducerSession.RunsTo : ProducerSession → ProducerSession → Prop
  | stay (session : ProducerSession) : RunsTo session session
  | step {session middle after : ProducerSession} {action : ProducerAction} {report : ProducerReport}
      (stepped : session.step action = some (middle, report)) (unattached : report.attaches = false)
      (later : RunsTo middle after) : RunsTo session after

inductive ConsumerSession.RunsTo : ConsumerSession → ConsumerSession → Prop
  | stay (session : ConsumerSession) : RunsTo session session
  | step {session middle after : ConsumerSession} {action : ConsumerAction} {report : ConsumerReport}
      (stepped : session.step action = some (middle, report)) (unattached : report.attaches = false)
      (later : RunsTo middle after) : RunsTo session after

/-- These calls publish a frame or prepare one. -/
def Call.publishes : Call → Bool
  | .offer .. => true
  | .tryClaim .. => true
  | .commit .. => true
  | _ => false

/-- A producer without a lease publishes nothing and sends no keepalive. -/
structure ProducerSession.Stopped (session : ProducerSession) : Prop where
  detached : session.link.driverAttached = false ∧ session.headerRegion.addr = none
  refuses : ∀ (call : Call) (issue : Issue), call.publishes = true →
    call.perform session.toProducer = some issue → issue.code < 0
  silent : ∀ nowNs intervalNs, session.link.keepaliveDue nowNs intervalNs = false

/-- A consumer without a lease reads no frame and sends no keepalive. -/
structure ConsumerSession.Stopped (session : ConsumerSession) : Prop where
  unmapped : session.shmMapped = false
  absent : ∀ seq, ∃ result, readFrame session.toConsumer seq = .done result ∧ ∀ view, result ≠ .frame view
  silent : ∀ nowNs intervalNs, session.link.keepaliveDue nowNs intervalNs = false

/-- The client stays stopped until it attaches again. -/
def ProducerSession.Invalidated (session : ProducerSession) : Prop := ∀ after, session.RunsTo after → after.Stopped

def ConsumerSession.Invalidated (session : ConsumerSession) : Prop := ∀ after, session.RunsTo after → after.Stopped

/-- The notice of a shutdown is only reported, so no attached producer and no mapped consumer is invalidated by it. -/
theorem shutdown_invalidates_nothing (shutdown : DriverShutdown) (around : Around) :
    (∀ session after : ProducerSession, session.link.driverAttached = true →
      session.onControl around.nowNs (.shutdown shutdown) = some after → after = session ∧ ¬ after.Invalidated) ∧
    ∀ session after : ConsumerSession, session.shmMapped = true →
      session.onControl around (.shutdown shutdown) = some after → after = session ∧ ¬ after.Invalidated := by
  constructor
  · intro session after attached handled
    cases handled
    refine ⟨rfl, fun invalidated => ?_⟩
    have stopped := invalidated session (.stay session)
    exact Bool.false_ne_true (stopped.detached.1.symm.trans attached)
  · intro session after mapped handled
    cases handled
    refine ⟨rfl, fun invalidated => ?_⟩
    have stopped := invalidated session (.stay session)
    exact Bool.false_ne_true (stopped.unmapped.symm.trans mapped)

/-- A producer and a consumer are attached to a driver that says that it stops. -/
def leasedProducer : ProducerSession where
  headerRegion := ⟨some 1, 4160⟩
  pools := [⟨0, 16, 64, ⟨some 2, 1088⟩⟩]
  poolCount := 1
  headerNslots := 16
  context := { producerId := 9, useDriver := true }
  link := { driverAttached := true, driverAttach := { leaseId := 2, streamId := 5 }, activeLeaseId := 2 }

def leasedConsumer : ConsumerSession where
  headerRegion := ⟨some 1, 4160⟩
  pools := [⟨0, 16, 64, ⟨some 2, 1088⟩⟩]
  poolCount := 1
  headerNslots := 16
  shmMapped := true
  mappedEpoch := 1
  phase := .mapped
  context := { streamId := 5, consumerId := 8, useDriver := true, announcePeriodNs := 1000 }
  link := { driverAttached := true, driverAttach := { leaseId := 3, streamId := 5 }, activeLeaseId := 3 }

def stops : DriverShutdown := ⟨7, 0, []⟩

theorem shutdown_invalidates_nothing_leased : ¬ leasedProducer.Invalidated ∧ ¬ leasedConsumer.Invalidated := by
  constructor
  · exact ((shutdown_invalidates_nothing stops (barren 7)).1 leasedProducer leasedProducer rfl rfl).2
  · exact ((shutdown_invalidates_nothing stops (barren 7)).2 leasedConsumer leasedConsumer rfl rfl).2

/-- After the notice a keepalive for the lease is still due. -/
theorem stopped_driver_served : leasedProducer.onControl 7 (.shutdown stops) = some leasedProducer ∧
    leasedProducer.link.keepaliveDue 1000 1000 = true ∧
      ¬ leasedProducer.Stopped ∧ ¬ leasedProducer.Invalidated := by
  have running : ¬ leasedProducer.Stopped := by
    intro stopped
    exact absurd (stopped.silent 1000 1000) (by decide)
  exact ⟨rfl, by decide, running, fun invalidated => running (invalidated leasedProducer (.stay _))⟩

end TensorPool.Client
