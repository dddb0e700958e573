/-
This file shows when a claim is refused after the regions that it was made in were unmapped.
-/

import TensorPool.Client.AttachChecks
import TensorPool.Client.Effects
import TensorPool.Client.Session
import TensorPool.Library.GuardedRun

namespace TensorPool.Client

open Shm (Machine ascii)
open DriverClient (AttachInfo)

/-- A claim of the application, with the number of the mapping that it was made in. -/
structure HeldClaim where
  claim : BufferClaim
  mapping : Nat
  deriving DecidableEq

/-- What a commit found and what came of it. -/
structure Commit where
  stale : Bool
  claim : BufferClaim
  issue : Issue

/-- A producer with the claims of its application, which names them by their place. -/
structure Claims where
  session : ProducerSession
  mapping : Nat := 0
  unmapped : List Nat := []
  held : List HeldClaim := []
  /-- The commits, the last one first. -/
  commits : List Commit := []

inductive ClaimAction where
  | session (action : ProducerAction)
  | tryClaim (length : UInt64) (claim : BufferClaim)
  /-- The application writes the fields of a claim that are its own. -/
  | fill (place : Nat) (tensor : TensorHeader) (payloadLen : UInt32) (traceId : UInt64)
  | queue (place : Nat)
  | commit (place : Nat) (outside : Outside) (payload : List UInt8) (metadata : Option FrameMetadata)
  | abort (place : Nat)

/-- A call that does not handle a claim. -/
def ProducerAction.claimless : ProducerAction → Bool
  | .call (.publish _ _ _ _ _ _ _ _) => true
  | .call (.offer _ _ _ _ _) => true
  | .call _ => false
  | _ => true

namespace Claims

def start (session : ProducerSession) : Claims := { session }

/-- The regions that the claim was made in were unmapped. -/
def stale (claims : Claims) (held : HeldClaim) : Bool := claims.unmapped.contains held.mapping

/-- An attach that succeeds begins a new mapping, and a header ring that goes away ends the current one. -/
def moved (claims : Claims) (after : ProducerSession) (report : ProducerReport) : Claims :=
  { claims with
    session := after
    mapping := match report with
      | .attached code => if code == 0 then claims.mapping + 1 else claims.mapping
      | _ => claims.mapping
    unmapped := if claims.session.headerRegion.addr.isSome && after.headerRegion.addr.isNone then
      claims.mapping :: claims.unmapped else claims.unmapped }

/-- A call ends, and the claim at the place is what it left. -/
def called (claims : Claims) (place : Nat) (held : HeldClaim) (issue : Issue) : Claims :=
  { claims with
    session := { claims.session with toProducer := issue.producer }
    held := claims.held.set place { held with claim := issue.claim.getD held.claim } }

def step (claims : Claims) : ClaimAction → Option Claims
  | .session action =>
      if action.claimless then (claims.session.step action).map fun result => claims.moved result.1 result.2 else none
  | .tryClaim length claim =>
      (Client.tryClaim claims.session.toProducer length claim).map fun issue =>
        { claims with
          session := { claims.session with toProducer := issue.producer }
          held := claims.held ++ (issue.claim.map fun claim => ⟨claim, claims.mapping⟩).toList }
  | .fill place tensor payloadLen traceId =>
      claims.held[place]?.map fun held =>
        { claims with
          held := claims.held.set place { held with claim := { held.claim with tensor, payloadLen, traceId } } }
  | .queue place => do
      let held ← claims.held[place]?
      let issue ← queueClaim claims.session.toProducer held.claim
      some (claims.called place held issue)
  | .commit place outside payload metadata => do
      let held ← claims.held[place]?
      let issue ← commitClaim claims.session.toProducer outside held.claim payload metadata
      some { claims.called place held issue with commits := ⟨claims.stale held, held.claim, issue⟩ :: claims.commits }
  | .abort place => claims.held[place]?.map fun held => claims.called place held
    (abortClaim claims.session.toProducer held.claim)

end Claims

/-- The call fails, and it stores nothing, publishes nothing and does not read the payload. -/
structure Issue.Refused (issue : Issue) : Prop where
  code : issue.code < 0
  stores : issue.stores = []
  publications : issue.publications = []
  copied : issue.copied = none

/-- The checks of a commit let the claim pass, whatever mapping it was made in. -/
def admits (producer : Producer) (outside : Outside) (claim : BufferClaim) : Bool :=
  outside.traceId.isSome && !(claim.payload.isNone && claim.payloadLen > 0) && producer.headerRegion.addr.isSome &&
    !(producer.headerNslots == 0 || producer.poolCount == 0) &&
    match findPool producer.pools producer.poolCount claim.poolId with
    | .fault => true
    | .missing => false
    | .found pool =>
        !(claim.payloadLen > pool.strideBytes) &&
          match prepareTensorHeader claim.tensor with
          | .error _ => false
          | .ok _ => true

section Commit

variable {producer : Producer} {outside : Outside} {claim : BufferClaim} {payload : List UInt8}
  {metadata : Option FrameMetadata}

/-- The frame is refused, with the text of a check. -/
def PublishResult.refuses : PublishResult → Bool
  | .refused _ => true
  | _ => false

/-- The publication of a frame refuses exactly what does not pass its checks. -/
theorem publishFrame_refuses {seq : UInt64} {tensor : TensorHeader} {bytes : Option (List UInt8)}
    {payloadLen : UInt32} {poolId : UInt16} {timestampNs : UInt64} {metaVersion : UInt32} :
    (publishFrame producer outside seq tensor bytes payloadLen poolId timestampNs metaVersion).refuses =
      !(!(bytes.isNone && payloadLen > 0) && producer.headerRegion.addr.isSome &&
        !(producer.headerNslots == 0 || producer.poolCount == 0) &&
        match findPool producer.pools producer.poolCount poolId with
        | .fault => true
        | .missing => false
        | .found pool =>
            !(payloadLen > pool.strideBytes) &&
              match prepareTensorHeader tensor with
              | .error _ => false
              | .ok _ => true) := by
  unfold publishFrame
  by_cases null : (bytes.isNone && payloadLen > 0) = true
  · rw [if_pos null, null]
    rfl
  rw [if_neg null, Bool.eq_false_iff.mpr null]
  cases producer.headerRegion.addr with
  | none => rfl
  | some region =>
      dsimp only
      by_cases detached : (producer.headerNslots == 0 || producer.poolCount == 0) = true
      · rw [if_pos detached, detached]
        rfl
      rw [if_neg detached, Bool.eq_false_iff.mpr detached]
      cases findPool producer.pools producer.poolCount poolId with
      | fault => rfl
      | missing => rfl
      | found pool =>
          dsimp only
          by_cases long : payloadLen > pool.strideBytes
          · rw [if_pos long, decide_eq_true long]
            rfl
          rw [if_neg long, decide_eq_false long]
          cases prepareTensorHeader tensor with
          | error text => rfl
          | ok prepared =>
              dsimp only
              split
              · rfl
              · split
                · rfl
                · split
                  · rfl
                  · split <;> rfl

/-- A commit is refused exactly where its claim does not pass the checks. -/
theorem commitClaim_refused : (∃ issue, commitClaim producer outside claim payload metadata = some issue ∧
    issue.Refused) ↔ admits producer outside claim = false := by
  unfold commitClaim admits
  cases outside.traceId with
  | none => exact iff_of_true ⟨_, rfl, rfl, rfl, rfl, rfl⟩ rfl
  | some traceId =>
      have refuses := @publishFrame_refuses producer outside claim.seq claim.tensor
        (claim.payload.map fun _ => payload) claim.payloadLen claim.poolId
          (metadata.getD ⟨nullU64, nullU32⟩).timestampNs
        (metadata.getD ⟨nullU64, nullU32⟩).metaVersion
      rw [Option.isNone_map] at refuses
      dsimp only
      rw [Option.isSome_some, Bool.true_and, ← Bool.not_eq_true', ← refuses]
      generalize publishFrame producer outside claim.seq claim.tensor
        (claim.payload.map fun _ => payload) claim.payloadLen claim.poolId
          (metadata.getD ⟨nullU64, nullU32⟩).timestampNs (metadata.getD ⟨nullU64, nullU32⟩).metaVersion = result
      cases result with
      | fault =>
          apply iff_of_false
          · intro found
            obtain ⟨issue, made, -⟩ := found
            cases made
          · exact Bool.false_ne_true
      | refused text => exact iff_of_true ⟨_, rfl, rfl, rfl, rfl, rfl⟩ rfl
      | published publication stores =>
          apply iff_of_false
          · intro found
            obtain ⟨issue, made, refused⟩ := found
            cases made
            exact absurd refused.publications (List.cons_ne_nil _ _)
          · exact Bool.false_ne_true

end Commit

namespace Claims

/-- A stale claim is not committed to a later mapping, unless the checks of a commit do not let it pass there. -/
def prudent (claims : Claims) : ClaimAction → Bool
  | .commit place outside _ _ =>
      match claims.held[place]? with
      | none => true
      | some held =>
          !claims.stale held || held.mapping == claims.mapping || !admits claims.session.toProducer outside held.claim
  | _ => true

/-- Each commit of a stale claim was refused, and each one that may come next is. -/
structure Ended (claims : Claims) : Prop where
  commits : ∀ commit ∈ claims.commits, commit.stale = true → commit.issue.Refused
  next : ∀ place held outside payload metadata, claims.held[place]? = some held → claims.stale held = true →
    claims.prudent (.commit place outside payload metadata) = true →
      ∃ issue, commitClaim claims.session.toProducer outside held.claim payload metadata = some issue ∧ issue.Refused

/-- A mapping that was unmapped is a former one, or no header ring is mapped. -/
structure Numbered (claims : Claims) : Prop where
  former : ∀ number ∈ claims.unmapped, number ≤ claims.mapping
  detached : claims.mapping ∈ claims.unmapped → claims.session.headerRegion.addr = none

variable {claims after : Claims}

/-- Without a header ring no claim passes the checks. -/
theorem admits_detached {producer : Producer} {outside : Outside} {claim : BufferClaim}
    (detached : producer.headerRegion.addr = none) : admits producer outside claim = false := by
  rw [admits, detached, Option.isSome_none, Bool.and_false, Bool.false_and, Bool.false_and]

/-- The commit of a stale claim is refused, as long as no later mapping takes it. -/
theorem refused_of_prudent (numbered : claims.Numbered) {place : Nat} {held : HeldClaim} {outside : Outside}
    {payload : List UInt8} {metadata : Option FrameMetadata} (found : claims.held[place]? = some held)
    (stale : claims.stale held = true) (prudent : claims.prudent (.commit place outside payload metadata) = true) :
    ∃ issue, commitClaim claims.session.toProducer outside held.claim payload metadata = some issue ∧
      issue.Refused := by
  rw [Claims.prudent, found] at prudent
  dsimp only at prudent
  rw [stale, Bool.not_true, Bool.false_or, Bool.or_eq_true, beq_iff_eq, Bool.not_eq_true'] at prudent
  apply commitClaim_refused.mpr
  obtain same | blocked := prudent
  · have gone : claims.mapping ∈ claims.unmapped := by
      rw [← same]
      exact List.contains_iff_mem.mp stale
    exact admits_detached (numbered.detached gone)
  · exact blocked

/-- Only a commit adds to the commits. -/
theorem step_commits {action : ClaimAction} (stepped : claims.step action = some after) :
    after.commits = claims.commits ∨ ∃ place outside payload metadata held issue,
      action = .commit place outside payload metadata ∧ claims.held[place]? = some held ∧
        commitClaim claims.session.toProducer outside held.claim payload metadata = some issue ∧
          after.commits = ⟨claims.stale held, held.claim, issue⟩ :: claims.commits := by
  cases action with
  | session action =>
      rw [step] at stepped
      split at stepped
      · obtain ⟨result, -, rfl⟩ := Option.map_eq_some_iff.mp stepped
        exact .inl rfl
      · cases stepped
  | tryClaim length claim =>
      obtain ⟨issue, -, rfl⟩ := Option.map_eq_some_iff.mp stepped
      exact .inl rfl
  | fill place tensor payloadLen traceId =>
      obtain ⟨held, -, rfl⟩ := Option.map_eq_some_iff.mp stepped
      exact .inl rfl
  | queue place =>
      obtain ⟨held, -, stepped⟩ := Option.bind_eq_some_iff.mp stepped
      obtain ⟨issue, -, stepped⟩ := Option.bind_eq_some_iff.mp stepped
      cases stepped
      exact .inl rfl
  | commit place outside payload metadata =>
      obtain ⟨held, found, stepped⟩ := Option.bind_eq_some_iff.mp stepped
      obtain ⟨issue, made, stepped⟩ := Option.bind_eq_some_iff.mp stepped
      cases stepped
      exact .inr ⟨place, outside, payload, metadata, held, issue, rfl, found, made, rfl⟩
  | abort place =>
      obtain ⟨held, -, rfl⟩ := Option.map_eq_some_iff.mp stepped
      exact .inl rfl

/-- What holds of the commits and of the mappings after each step. -/
structure Inv (claims : Claims) : Prop extends Numbered claims where
  commits : ∀ commit ∈ claims.commits, commit.stale = true → commit.issue.Refused

/-- A call on a claim keeps the numbers and the header ring. -/
theorem Numbered.called (numbered : claims.Numbered) {place : Nat} {held : HeldClaim} {issue : Issue}
    (kept : ∃ next, issue.producer = { claims.session.toProducer with nextSeq := next }) :
    (claims.called place held issue).Numbered := by
  obtain ⟨next, kept⟩ := kept
  constructor
  · exact numbered.former
  · intro gone
    change issue.producer.headerRegion.addr = none
    rw [kept]
    exact numbered.detached gone

/-- A mapping that begins is a new one, and without one the header ring stays away. -/
theorem Numbered.moved (numbered : claims.Numbered) {session : ProducerSession} {report : ProducerReport}
    (away : claims.session.headerRegion.addr = none → report = .attached 0 ∨ session.headerRegion.addr = none) :
    (claims.moved session report).Numbered := by
  have below : ∀ number ∈ (claims.moved session report).unmapped, number ≤ claims.mapping := by
    unfold Claims.moved
    dsimp only
    split
    · intro number member
      obtain rfl | earlier := List.mem_cons.mp member
      · exact Nat.le_refl _
      · exact numbered.former number earlier
    · exact numbered.former
  by_cases attached : report = .attached 0
  · have next : (claims.moved session report).mapping = claims.mapping + 1 := by
      rw [attached]
      rfl
    constructor
    · intro number member
      rw [next]
      exact Nat.le_succ_of_le (below number member)
    · rw [next]
      intro gone
      exact absurd (below _ gone) (Nat.not_succ_le_self _)
  · have same : (claims.moved session report).mapping = claims.mapping := by
      cases report with
      | attached code =>
          have failed : (code == 0) = false := beq_eq_false_iff_ne.mpr fun zero => attached (zero ▸ rfl)
          change (if (code == 0) = true then claims.mapping + 1 else claims.mapping) = _
          rw [failed, if_neg Bool.false_ne_true]
      | nothing => rfl
      | keepalive leaseId => rfl
      | issued issue => rfl
    rw [← same] at below
    constructor
    · exact below
    · rw [same]
      change claims.mapping ∈ (if _ then claims.mapping :: claims.unmapped else claims.unmapped) → _
      split
      next ended =>
        intro gone
        rw [Bool.and_eq_true] at ended
        exact Option.isNone_iff_eq_none.mp ended.2
      · intro gone
        exact (away (numbered.detached gone)).resolve_left attached

end Claims

/-- A failed attach does not bring a header ring. -/
theorem producerAttachConfig_away {machine : Machine} {allocations : Allocations} {producerId : UInt32}
    {config : AttachConfig} {producer : AttachedProducer} {outcome : AttachOutcome AttachedProducer}
    (away : producer.headerRegion.addr = none)
    (returned : producerAttachConfig machine allocations producerId config producer = some outcome) :
    outcome.code = 0 ∨ outcome.client.headerRegion.addr = none := by
  have cleaned : ∀ {producer : AttachedProducer} {text : String}, producerAttachCleanup producer text = some outcome →
      outcome.client.headerRegion.addr = none := by
    intro producer text cleaned
    unfold producerAttachCleanup at cleaned
    split at cleaned <;> cases cleaned
    rfl
  unfold producerAttachConfig at returned
  dsimp only at returned
  split at returned
  · exact .inr (cleaned returned)
  · split at returned
    · cases returned
      exact .inr away
    · split at returned
      · cases returned
        exact .inr away
      · split at returned
        · cases returned
          exact .inr away
        · split at returned
          · exact .inr (cleaned returned)
          · split at returned
            · cases returned
              exact .inl rfl
            · exact .inr (cleaned returned)

namespace ProducerSession

variable {session after : ProducerSession} {report : ProducerReport}

theorem attachConfig_away {machine : Machine} {allocations : Allocations} {config : AttachConfig} {code : Int}
    (away : session.headerRegion.addr = none)
    (returned : session.attachConfig machine allocations config = some (code, after)) :
    code = 0 ∨ after.headerRegion.addr = none := by
  obtain ⟨outcome, attached, same⟩ := Option.map_eq_some_iff.mp returned
  cases same
  exact producerAttachConfig_away away attached

theorem attachDriver_away {machine : Machine} {allocations : Allocations} {freshClientId : UInt32}
    {answer : Option AttachInfo} {copies : Bool} {code : Int} (away : session.headerRegion.addr = none)
    (returned : session.attachDriver machine allocations freshClientId answer copies = some (code, after)) :
    code = 0 ∨ after.headerRegion.addr = none := by
  unfold attachDriver at returned
  dsimp only at returned
  split at returned
  · cases returned
    exact .inr away
  next info =>
    split at returned
    · cases returned
      exact .inr away
    · split at returned
      · cases returned
        exact .inr away
      · obtain ⟨result, attached, same⟩ := Option.map_eq_some_iff.mp returned
        cases same
        have kept : result.1 = 0 ∨ result.2.headerRegion.addr = none := by
          apply attachConfig_away _ attached
          exact away
        split
        · exact kept
        · exact kept

/-- Without an attach that succeeds a producer without a header ring stays so. -/
theorem step_away {action : ProducerAction} (away : session.headerRegion.addr = none)
    (stepped : session.step action = some (after, report)) :
    report = .attached 0 ∨ after.headerRegion.addr = none := by
  cases action with
  | control message nowNs =>
      obtain ⟨middle, handled, same⟩ := Option.map_eq_some_iff.mp stepped
      cases same
      apply Or.inr
      cases message with
      | consumerHello hello outside =>
          unfold onControl at handled
          dsimp only at handled
          split at handled
          · cases handled
            exact away
          · split at handled <;> cases handled <;> exact away
      | leaseRevoked revoked =>
          unfold onControl onLeaseRevoked at handled
          dsimp only at handled
          split at handled
          · obtain ⟨producer, unmapped, rfl⟩ := Option.map_eq_some_iff.mp handled
            unfold producerUnmapRegions at unmapped
            split at unmapped <;> cases unmapped
            unfold scheduleReattach
            split <;> rfl
          · cases handled
            exact away
      | shutdown shutdown =>
          cases handled
          exact away
  | attachDriver machine allocations freshClientId answer copies =>
      rw [step] at stepped
      split at stepped
      · obtain ⟨result, attached, same⟩ := Option.map_eq_some_iff.mp stepped
        cases same
        exact (attachDriver_away away attached).imp_left fun zero => congrArg ProducerReport.attached zero
      · cases stepped
        exact .inr away
  | attachConfig machine allocations config =>
      rw [step] at stepped
      split at stepped
      · cases stepped
        exact .inr away
      · obtain ⟨result, attached, same⟩ := Option.map_eq_some_iff.mp stepped
        cases same
        exact (attachConfig_away away attached).imp_left fun zero => congrArg ProducerReport.attached zero
  | work nowNs intervalNs graceIntervals sends =>
      cases stepped
      exact .inr away
  | call call =>
      obtain ⟨issue, performed, same⟩ := Option.map_eq_some_iff.mp stepped
      cases same
      obtain ⟨write, written⟩ := perform_written performed
      obtain ⟨next, kept⟩ := written.kept
      apply Or.inr
      change issue.producer.headerRegion.addr = none
      rw [kept]
      exact away

end ProducerSession

namespace Claims

variable {claims after : Claims}

theorem step_numbered {action : ClaimAction} (numbered : claims.Numbered)
    (stepped : claims.step action = some after) :
    after.Numbered := by
  cases action with
  | session action =>
      rw [step] at stepped
      split at stepped
      · obtain ⟨result, moved, rfl⟩ := Option.map_eq_some_iff.mp stepped
        exact numbered.moved fun away => ProducerSession.step_away away moved
      · cases stepped
  | tryClaim length claim =>
      obtain ⟨issue, made, rfl⟩ := Option.map_eq_some_iff.mp stepped
      obtain ⟨write, written⟩ := tryClaim_written made
      have kept : (claims.called 0 ⟨claim, 0⟩ issue).Numbered := numbered.called written.kept
      exact ⟨kept.former, kept.detached⟩
  | fill place tensor payloadLen traceId =>
      obtain ⟨held, -, rfl⟩ := Option.map_eq_some_iff.mp stepped
      exact ⟨numbered.former, numbered.detached⟩
  | queue place =>
      obtain ⟨held, -, stepped⟩ := Option.bind_eq_some_iff.mp stepped
      obtain ⟨issue, made, stepped⟩ := Option.bind_eq_some_iff.mp stepped
      cases stepped
      obtain ⟨write, written⟩ := queueClaim_written made
      exact numbered.called written.kept
  | commit place outside payload metadata =>
      obtain ⟨held, -, stepped⟩ := Option.bind_eq_some_iff.mp stepped
      obtain ⟨issue, made, stepped⟩ := Option.bind_eq_some_iff.mp stepped
      cases stepped
      obtain ⟨write, written⟩ := commitClaim_written made
      have kept : (claims.called place held issue).Numbered := numbered.called written.kept
      exact ⟨kept.former, kept.detached⟩
  | abort place =>
      obtain ⟨held, -, rfl⟩ := Option.map_eq_some_iff.mp stepped
      exact numbered.called ⟨claims.session.nextSeq, rfl⟩

/-- A prudent step keeps that the commits of stale claims were refused. -/
theorem Inv.step {action : ClaimAction} (holds : claims.Inv) (prudent : claims.prudent action = true)
    (stepped : claims.step action = some after) : after.Inv := by
  refine ⟨step_numbered holds.toNumbered stepped, ?_⟩
  obtain same | ⟨place, outside, payload, metadata, held, issue, rfl, found, made, same⟩ := step_commits stepped
  · rw [same]
    exact holds.commits
  · rw [same]
    intro commit member stale
    obtain rfl | earlier := List.mem_cons.mp member
    · obtain ⟨other, again, rejected⟩ := refused_of_prudent holds.toNumbered found stale prudent
      obtain rfl : issue = other := Option.some.inj (made.symm.trans again)
      exact rejected
    · exact holds.commits commit earlier stale

/-- Where no later mapping takes a stale claim, all commits of stale claims are refused. -/
theorem claims_end {session : ProducerSession} {actions : List ClaimAction}
    (ran : GuardedRun.runWhile prudent step (start session) actions = some claims) : claims.Ended := by
  have begun : (start session).Inv :=
    ⟨⟨fun number member => (by cases member), fun gone => (by cases gone)⟩, fun commit member => (by cases member)⟩
  have holds : claims.Inv :=
    GuardedRun.keeps (fun claims action after holds prudent stepped => Inv.step holds prudent stepped) ran begun
  exact ⟨holds.commits, fun place held outside payload metadata found stale prudent =>
    refused_of_prudent holds.toNumbered found stale prudent⟩

/-- A producer of the driver with the small ring attached, and a pool of 64 bytes. -/
def attached : ProducerSession where
  headerRegion := ⟨some 0, 576⟩
  pools := [filePool 576]
  poolCount := 1
  headerNslots := 2
  streamId := 1
  producerId := 9
  epoch := 4
  layoutVersion := 1
  tracelinkEntryCount := 2
  context := { producerId := 9, useDriver := true }

/-- A vector of four bytes. -/
def smallTensor : TensorHeader where
  dtype := 1
  majorOrder := majorOrderRow
  ndims := 1
  progressUnit := 0
  progressStrideBytes := 0
  dims := fun index => if index.val = 0 then 4 else 0
  strides := fun _ => 0

/-- The answer of the driver to the second attach, in the epoch 5. -/
def secondAttach : AttachInfo where
  leaseId := 3
  streamId := 1
  epoch := 5
  layoutVersion := 1
  headerNslots := 2
  headerSlotBytes := 256
  headerRegionUri := ascii "shm:file?path=/h"
  pools := some [⟨1, 2, 64, ascii "shm:file?path=/p|require_hugepages=false"⟩]
  poolCount := 1

/-- A claim is made, and the lease is revoked. -/
def revokedClaim : List ClaimAction :=
  [.tryClaim 4 blankClaim, .fill 0 smallTensor 4 0,
    .session (.control (.leaseRevoked ⟨7, 2, 1, 9, roleProducer, 2, []⟩) 7)]

def committed : ClaimAction := .commit 0 ⟨8, some 0, 0⟩ [1, 2, 3, 4] none

/-- The commit fails where the producer has not attached again. -/
theorem claims_end_detached : ∃ claims,
    GuardedRun.runWhile prudent step (start attached) (revokedClaim ++ [committed]) = some claims ∧ claims.Ended := by
  obtain ⟨claims, ran⟩ : ∃ claims,
      GuardedRun.runWhile prudent step (start attached) (revokedClaim ++ [committed]) = some claims :=
    Option.isSome_iff_exists.mp (by decide +kernel)
  exact ⟨claims, ran, claims_end ran⟩

/-- The producer attaches again before it commits. -/
def reattachedClaim : List ClaimAction :=
  revokedClaim ++ [.session (.attachDriver (smallMachine 0 576) allAllocated 9 (some secondAttach) true), committed]

def Commit.summary (commit : Commit) : Bool × Int64 × Option Pointer × List UInt64 :=
  (commit.stale, commit.issue.code, commit.issue.copied, commit.issue.publications.map Publication.seq)

/-- The producer attaches to the epoch 5, and the claim of the epoch 4 is published there. -/
theorem stale_claim_published : ∃ claims, GuardedRun.run step (start attached) reattachedClaim = some claims ∧
    claims.session.epoch = 5 ∧ ¬ claims.Ended ∧
      claims.commits.map Commit.summary = [(true, 0, some ⟨1, 64⟩, [0])] := by
  obtain ⟨claims, ran, shown⟩ : ∃ claims, GuardedRun.run step (start attached) reattachedClaim = some claims ∧
      claims.commits.map Commit.summary = [(true, 0, some ⟨1, 64⟩, [0])] :=
    Option.map_eq_some_iff.mp (by decide +kernel)
  have epoch : (GuardedRun.run step (start attached) reattachedClaim).map (fun claims => claims.session.epoch) =
    some 5 := by
    decide +kernel
  rw [ran] at epoch
  refine ⟨claims, ran, Option.some.inj epoch, ?_, shown⟩
  intro ended
  obtain ⟨commit, rest, same, summary, -⟩ := List.map_eq_cons_iff.mp shown
  have member : commit ∈ claims.commits := by
    rw [same]
    exact List.mem_cons_self
  simp only [Commit.summary, Prod.mk.injEq] at summary
  have refused := (ended.commits commit member summary.1).code
  rw [summary.2.1] at refused
  exact absurd refused (by decide)

end Claims

end TensorPool.Client
