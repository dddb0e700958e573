/-
This file shows when a client treats a revoked lease as its own exactly when it is.
-/

import TensorPool.Client.ConsumerSession

namespace TensorPool.Client

inductive Session where
  | producer (session : ProducerSession)
  | consumer (session : ConsumerSession)
  deriving DecidableEq, Repr

namespace Session

def link : Session → DriverLink
  | .producer session => session.link
  | .consumer session => session.link

/-- The id and the role that the client compares. -/
def ownId : Session → UInt32
  | .producer session => session.context.producerId
  | .consumer session => session.context.consumerId

def ownRole : Session → UInt8
  | .producer _ => roleProducer
  | .consumer _ => roleConsumer

/-- The control handler of the client gets a revoked lease. -/
def onLeaseRevoked (revoked : LeaseRevoked) (around : Around) : Session → Option Session
  | .producer session => (session.onControl around.nowNs (.leaseRevoked revoked)).map .producer
  | .consumer session => (session.onControl around (.leaseRevoked revoked)).map .consumer

/-- The revoked lease is the one of the client's attach. -/
def Holds (session : Session) (revoked : LeaseRevoked) : Prop :=
  revoked.leaseId = session.link.driverAttach.leaseId ∧ revoked.streamId = session.link.driverAttach.streamId

/-- No region is mapped. -/
def Unmapped : Session → Prop
  | .producer session => session.headerRegion.addr = none ∧ session.pools = []
  | .consumer session => session.shmMapped = false ∧ session.headerRegion.addr = none ∧ session.pools = []

/-- The mapping, the lease and the schedule of the client stay. -/
def Unchanged : Session → Session → Prop
  | .producer before, .producer after =>
      after.toAttachedProducer = before.toAttachedProducer ∧ after.link = before.link
  | .consumer before, .consumer after =>
      after.toAttachedConsumer = before.toAttachedConsumer ∧ after.attachTimeNs = before.attachTimeNs ∧
        after.link = before.link
  | _, _ => False

/-- A revoked lease of another attach changes nothing, and the own one ends the attach. -/
def Respects (session : Session) (revoked : LeaseRevoked) (around : Around) : Prop :=
  ∃ after, session.onLeaseRevoked revoked around = some after ∧
    (¬ session.Holds revoked → session.Unchanged after) ∧
    (session.Holds revoked → after.Unmapped ∧ after.link.driverAttached = false)

/-- The message names the id and the role of the client. -/
def Named (session : Session) (revoked : LeaseRevoked) : Prop :=
  revoked.clientId = session.ownId ∧ revoked.role = session.ownRole

/-- The unmap touches only pools that exist. -/
def Tidy : Session → Prop
  | .producer session => session.pools = [] ∨ session.poolCount ≤ session.pools.length
  | .consumer session => session.poolCount ≤ session.pools.length

end Session

theorem unchanged_link {before after : Session} (unchanged : before.Unchanged after) : after.link = before.link := by
  cases before with
  | producer before =>
      cases after with
      | producer after => exact unchanged.2
      | consumer after => exact unchanged.elim
  | consumer before =>
      cases after with
      | producer after => exact unchanged.elim
      | consumer after => exact unchanged.2.2

theorem Session.unchanged_refl (session : Session) : session.Unchanged session := by
  cases session with
  | producer session => exact ⟨rfl, rfl⟩
  | consumer session => exact ⟨rfl, rfl, rfl⟩

section Handlers

variable {revoked : LeaseRevoked} {around : Around}

/-- A message that does not name the client is ignored. -/
theorem onLeaseRevoked_other {session : Session} (other : ¬ session.Named revoked) :
    session.onLeaseRevoked revoked around = some session := by
  cases session with
  | producer session =>
      have unequal : (revoked.clientId == session.context.producerId && revoked.role == roleProducer) = false := by
        rw [← Bool.not_eq_true, Bool.and_eq_true, beq_iff_eq, beq_iff_eq]
        exact other
      change (session.onLeaseRevoked revoked around.nowNs).map _ = _
      rw [ProducerSession.onLeaseRevoked, unequal]
      rfl
  | consumer session =>
      have unequal : (revoked.clientId == session.context.consumerId && revoked.role == roleConsumer) = false := by
        rw [← Bool.not_eq_true, Bool.and_eq_true, beq_iff_eq, beq_iff_eq]
        exact other
      change (session.onLeaseRevoked revoked around.nowNs).map _ = _
      rw [ConsumerSession.onLeaseRevoked, unequal]
      rfl

/-- A message that names the client unmaps its regions and ends its attach, when the pools are tidy. -/
theorem onLeaseRevoked_named {session : Session} (named : session.Named revoked) :
    (session.Tidy ∧ ∃ after, session.onLeaseRevoked revoked around = some after ∧ after.Unmapped ∧
      after.link.driverAttached = false) ∨
    (¬ session.Tidy ∧ session.onLeaseRevoked revoked around = none) := by
  cases session with
  | producer session =>
      have equal : (revoked.clientId == session.context.producerId && revoked.role == roleProducer) = true := by
        rw [Bool.and_eq_true, beq_iff_eq, beq_iff_eq]
        exact named
      have handled : (Session.producer session).onLeaseRevoked revoked around =
          ((producerUnmapRegions session.toAttachedProducer).map fun producer =>
            ProducerSession.scheduleReattach
              { session with
                toAttachedProducer := producer
                link := session.link.drop } around.nowNs).map .producer := by
        change (session.onLeaseRevoked revoked around.nowNs).map _ = _
        rw [ProducerSession.onLeaseRevoked, if_pos equal]
      rw [handled]
      by_cases tidy : session.pools = [] ∨ session.poolCount ≤ session.pools.length
      · obtain ⟨producer, unmapped, header, pools⟩ := producerUnmapRegions_tidy tidy
        rw [unmapped, Option.map_some, Option.map_some]
        refine .inl ⟨tidy, _, rfl, ?_⟩
        unfold ProducerSession.scheduleReattach
        split <;> exact ⟨⟨congrArg Region.addr header, pools⟩, rfl⟩
      · rw [producerUnmapRegions_untidy tidy]
        exact .inr ⟨tidy, rfl⟩
  | consumer session =>
      have equal : (revoked.clientId == session.context.consumerId && revoked.role == roleConsumer) = true := by
        rw [Bool.and_eq_true, beq_iff_eq, beq_iff_eq]
        exact named
      have handled : (Session.consumer session).onLeaseRevoked revoked around =
          (session.unmapRegions.map fun unmapped =>
            ConsumerSession.scheduleReattach { unmapped with link := session.link.drop } around.nowNs).map
              .consumer := by
        change (session.onLeaseRevoked revoked around.nowNs).map _ = _
        rw [ConsumerSession.onLeaseRevoked, if_pos equal]
      rw [handled]
      by_cases tidy : session.poolCount ≤ session.pools.length
      · rw [ConsumerSession.unmapRegions, consumerUnmapRegions_tidy tidy, Option.map_some, Option.map_some,
          Option.map_some]
        refine .inl ⟨tidy, _, rfl, ?_⟩
        unfold ConsumerSession.scheduleReattach
        split <;> exact ⟨⟨rfl, rfl, rfl⟩, rfl⟩
      · rw [ConsumerSession.unmapRegions, consumerUnmapRegions_untidy tidy]
        exact .inr ⟨tidy, rfl⟩

end Handlers

/-- A client treats a revoked lease as it should if and only if the message names it just when the lease is its
own. -/
theorem respects_iff (session : Session) (revoked : LeaseRevoked) (around : Around)
    (attached : session.link.driverAttached = true) :
    session.Respects revoked around ↔
      (session.Named revoked ↔ session.Holds revoked) ∧ (session.Named revoked → session.Tidy) := by
  by_cases named : session.Named revoked
  · obtain ⟨tidy, after, handled, unmapped, detached⟩ | ⟨untidy, handled⟩ :=
      @onLeaseRevoked_named revoked around session named
    · constructor
      · intro respects
        obtain ⟨after', same, other, -⟩ := respects
        rw [handled, Option.some.injEq] at same
        subst same
        refine ⟨iff_of_true named (by_contra fun foreign => ?_), fun _ => tidy⟩
        exact Bool.false_ne_true (detached.symm.trans ((unchanged_link (other foreign)) ▸ attached))
      · intro right
        exact ⟨after, handled, fun foreign => absurd (right.1.mp named) foreign, fun _ => ⟨unmapped, detached⟩⟩
    · constructor
      · intro respects
        obtain ⟨after, same, -⟩ := respects
        rw [handled] at same
        cases same
      · intro right
        exact absurd (right.2 named) untidy
  · have handled := @onLeaseRevoked_other revoked around session named
    constructor
    · intro respects
      obtain ⟨after, same, -, own⟩ := respects
      rw [handled, Option.some.injEq] at same
      subst same
      refine ⟨iff_of_false named fun holds => ?_, fun met => absurd met named⟩
      exact Bool.false_ne_true ((own holds).2.symm.trans attached)
    · intro right
      exact ⟨session, handled, fun _ => session.unchanged_refl, fun holds => absurd (right.1.mpr holds) named⟩

/-- A producer holds the lease 2 of the stream 5. -/
def leased : Session := .producer
  { headerRegion := ⟨some 1, 4160⟩
    pools := [⟨0, 16, 64, ⟨some 2, 1088⟩⟩]
    poolCount := 1
    headerNslots := 16
    streamId := 5
    producerId := 9
    epoch := 1
    layoutVersion := 1
    tracelinkEntryCount := 16
    context := { producerId := 9, useDriver := true }
    link :=
      { driverAttached := true
        driverAttach := { leaseId := 2, streamId := 5, epoch := 1 }
        activeLeaseId := 2
        activeStreamId := 5
        clientId := 9 } }

/-- The lease of the producer was revoked. -/
def revokedLease (leaseId : UInt64) : LeaseRevoked := ⟨7, leaseId, 5, 9, roleProducer, 2, []⟩

theorem respects_iff_leased : leased.Respects (revokedLease 2) (barren 7) :=
  (respects_iff leased (revokedLease 2) (barren 7) rfl).mpr
    ⟨iff_of_true ⟨rfl, rfl⟩ ⟨rfl, rfl⟩, fun _ => .inr (Nat.le_refl 1)⟩

/-- The end of the former lease 1 takes the mapping of the lease 2. -/
theorem former_lease_unmaps : leased.link.driverAttached = true ∧ ¬ leased.Holds (revokedLease 1) ∧
    ¬ leased.Respects (revokedLease 1) (barren 7) := by
  have foreign : ¬ leased.Holds (revokedLease 1) := by
    intro holds
    exact absurd holds.1 (by decide)
  refine ⟨rfl, foreign, fun respects => ?_⟩
  obtain ⟨after, handled, other, -⟩ := respects
  have kept := unchanged_link (other foreign)
  have dropped : (leased.onLeaseRevoked (revokedLease 1) (barren 7)).map (fun after => after.link.driverAttached) =
      some false := by decide +kernel
  rw [handled, Option.map_some, kept] at dropped
  cases dropped

end TensorPool.Client
