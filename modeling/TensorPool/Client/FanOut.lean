/-
This file offers the descriptor of a frame to the shared publication and to the consumers' own ones.
-/

import TensorPool.Client.ConsumerSession
import TensorPool.Manager.Agreement

namespace TensorPool.Client

open Manager (ConsumerManager)

def modeRateLimited : UInt8 := 2

def publicationNotConnected : Int := -1
def publicationBackPressured : Int := -2
def publicationAdminAction : Int := -3
def publicationClosed : Int := -4
def publicationMaxPositionExceeded : Int := -5
def publicationError : Int := -6

/-- A descriptor goes to the consumer at a place of the registry or to all consumers of the stream. -/
inductive Target where
  | consumer (index : Nat)
  | shared
  deriving DecidableEq, Repr

structure Frame where
  seq : UInt64
  timestampNs : UInt64
  metaVersion : UInt32
  traceId : UInt64
  deriving DecidableEq, Repr

/-- These are the fields of the producer that its descriptors need. -/
structure Announcer where
  streamId : UInt32
  epoch : UInt64
  dropUnconnectedDescriptors : Bool := false
  descriptorPublication : Option Manager.Publication := none
  consumerManager : Option ConsumerManager := none
  deriving DecidableEq, Repr

namespace Announcer

/-- The null values of the message are those of the interface. -/
def descriptor (announcer : Announcer) (frame : Frame) : FrameDescriptor :=
  ⟨announcer.streamId, announcer.epoch, frame.seq, frame.timestampNs, frame.metaVersion, frame.traceId⟩

def entries (announcer : Announcer) : List Manager.Entry :=
  (announcer.consumerManager.map ConsumerManager.registry).getD []

def entryAt (announcer : Announcer) (index : Nat) : Manager.Entry := announcer.entries.getD index {}

end Announcer

def offerReason (result : Int) : String :=
  if result = publicationNotConnected then "NOT_CONNECTED"
  else if result = publicationBackPressured then "BACK_PRESSURED"
  else if result = publicationAdminAction then "ADMIN_ACTION"
  else if result = publicationClosed then "CLOSED"
  else if result = publicationMaxPositionExceeded then "MAX_POSITION_EXCEEDED"
  else "unknown"

/-- A failure that the transport describes itself has no text of the producer. -/
def offerText (result : Int) : Option String :=
  if result < 0 ∧ result ≠ publicationError then
    some ("tp_producer_publish_descriptor_to: offer failed (" ++ offerReason result ++ ")")
  else none

/-- The positions of the transport become zero. -/
def publishDescriptorTo (offer : Int) : Int := if offer < 0 then offer else 0

/-- The function keeps its result, its two flags, the last text and what it has offered. -/
structure Announcing where
  result : Int := 0
  published : Bool := false
  publishedOk : Bool := false
  text : Option String := none
  offers : List (Target × FrameDescriptor) := []
  deriving DecidableEq, Repr

def Announcing.offer (announcer : Announcer) (frame : Frame) (outcome : Target → Int) (state : Announcing)
    (target : Target) : Announcing :=
  let offerResult := publishDescriptorTo (outcome target)
  let offered :=
    { state with
      published := true
      text := (offerText (outcome target)).or state.text
      offers := state.offers ++ [(target, announcer.descriptor frame)] }
  if offerResult = publicationNotConnected ∧ announcer.dropUnconnectedDescriptors then offered
  else if offerResult < 0 then { offered with result := -1 }
  else { offered with publishedOk := true }

def rateLimited (entry : Manager.Entry) : Bool := entry.mode == modeRateLimited && decide (0 < entry.maxRateHz)

def intervalNs (entry : Manager.Entry) : UInt64 := 1000000000 / entry.maxRateHz.toUInt64

/-- The rate of the consumer holds the frame back. -/
def held (nowNs : UInt64) (entry : Manager.Entry) : Bool :=
  decide (0 < intervalNs entry) && entry.lastDescriptorNs != 0 &&
    decide (nowNs - entry.lastDescriptorNs < intervalNs entry)

/-- The entry after the frame, and whether the frame is offered to its consumer. -/
def passFrame (nowNs : UInt64) (entry : Manager.Entry) : Manager.Entry × Bool :=
  if !entry.inUse || entry.descriptor.publication.isNone then (entry, false)
  else if rateLimited entry then
    if held nowNs entry then (entry, false) else ({ entry with lastDescriptorNs := nowNs }, true)
  else (entry, true)

def offerEach (announcer : Announcer) (frame : Frame) (nowNs : UInt64) (outcome : Target → Int) :
    Nat → List Manager.Entry → Announcing → List Manager.Entry × Announcing
  | _, [], state => ([], state)
  | index, entry :: rest, state =>
      let passed := passFrame nowNs entry
      let offered := if passed.2 then state.offer announcer frame outcome (.consumer index) else state
      let after := offerEach announcer frame nowNs outcome (index + 1) rest offered
      (passed.1 :: after.1, after.2)

structure Announced where
  announcer : Announcer
  offers : List (Target × FrameDescriptor)
  result : Int
  text : Option String
  traced : Bool
  deriving DecidableEq, Repr

/-- This is `tp_producer_publish_descriptor`. -/
def publishDescriptor (announcer : Announcer) (frame : Frame) (nowNs : UInt64) (outcome : Target → Int) : Announced :=
  let own := offerEach announcer frame nowNs outcome 0 announcer.entries {}
  let state :=
    if announcer.descriptorPublication.isSome then own.2.offer announcer frame outcome .shared else own.2
  let after :=
    { announcer with
      consumerManager := announcer.consumerManager.map fun manager => { manager with registry := own.1 } }
  if !state.published then
    ⟨after, state.offers, -1, some "tp_producer_publish_descriptor: descriptor publication unavailable", false⟩
  else ⟨after, state.offers, state.result, state.text, state.publishedOk⟩

/-- The consumers greet and leave between the frames. -/
inductive FanEvent where
  | manage (action : Manager.Action)
  | frame (frame : Frame) (nowNs : UInt64) (outcome : Target → Int)

/-- A consumer registers with a mode and a rate, may change them, and is offered frames. -/
structure Tenure where
  mode : UInt8 := 0
  maxRateHz : UInt32 := 0
  steady : Bool := true
  lastOffered : Option UInt64 := none
  deriving DecidableEq, Repr

namespace Tenure

/-- A place that is taken again starts a new tenure. -/
def follow (tenure : Tenure) (before after : Manager.Entry) : Tenure :=
  if before.inUse && after.inUse then
    { tenure with
      steady := tenure.steady && after.mode == tenure.mode && after.maxRateHz == tenure.maxRateHz }
  else { mode := after.mode, maxRateHz := after.maxRateHz }

/-- Less than the interval of the rate has passed since the last frame that was offered. -/
def tooSoon (tenure : Tenure) (nowNs : UInt64) : Bool :=
  match tenure.lastOffered with
  | none => false
  | some last => decide ((nowNs.toNat : Int) - last.toNat < (10 ^ 9 / tenure.maxRateHz.toNat : Nat))

end Tenure

/-- The run keeps what each place of the registry was offered, and the time of the last frame. -/
structure Fan where
  announcer : Announcer
  tenures : Nat → Tenure := fun _ => {}
  clockNs : UInt64 := 0

namespace Announcer

def manage (announcer : Announcer) (action : Manager.Action) : Announcer :=
  { announcer with
    consumerManager := announcer.consumerManager.map fun manager =>
      (Manager.System.step ⟨manager, []⟩ action).manager }

/-- The producer has no consumer yet. -/
def Fresh (announcer : Announcer) : Prop :=
  ∀ manager ∈ announcer.consumerManager, ∃ capacity, manager = Manager.managerInit capacity

/-- There is a publication that no rate holds back. -/
def Reaches (announcer : Announcer) (nowNs : UInt64) : Prop :=
  announcer.descriptorPublication.isSome ∨
    ∃ index, (announcer.entryAt index).inUse ∧ (announcer.entryAt index).descriptor.publication.isSome ∧
      ¬(rateLimited (announcer.entryAt index) ∧ held nowNs (announcer.entryAt index))

end Announcer

namespace Fan

def step (fan : Fan) : FanEvent → Fan
  | .manage action =>
      { fan with
        announcer := fan.announcer.manage action
        tenures := fun index =>
          (fan.tenures index).follow (fan.announcer.entryAt index) ((fan.announcer.manage action).entryAt index) }
  | .frame frame nowNs outcome =>
      let done := publishDescriptor fan.announcer frame nowNs outcome
      { announcer := done.announcer
        tenures := fun index =>
          if .consumer index ∈ done.offers.map Prod.fst then { fan.tenures index with lastOffered := some nowNs }
          else fan.tenures index
        clockNs := nowNs }

def run (fan : Fan) (events : List FanEvent) : Fan := events.foldl step fan

end Fan

/-- The clock of the frames is positive and does not go back. -/
def Timed : UInt64 → List FanEvent → Prop
  | _, [] => True
  | clockNs, .manage _ :: rest => Timed clockNs rest
  | clockNs, .frame _ nowNs _ :: rest => 0 < nowNs ∧ clockNs ≤ nowNs ∧ Timed nowNs rest

/-- The offer fails, and the producer does not tolerate the failure. -/
def OfferFails (announcer : Announcer) (outcome : Target → Int) (target : Target) : Prop :=
  outcome target < 0 ∧ ¬(outcome target = publicationNotConnected ∧ announcer.dropUnconnectedDescriptors = true)

/-- The number of times that the frame is offered to a target. -/
def Announced.timesOffered (done : Announced) (target : Target) : Nat := (done.offers.map Prod.fst).count target

/-- The frame goes once to everybody who is due, and the result tells whether an offer has failed. -/
structure FanOutExact (fan : Fan) (frame : Frame) (nowNs : UInt64) (outcome : Target → Int) : Prop where
  shared : (publishDescriptor fan.announcer frame nowNs outcome).timesOffered .shared =
    if fan.announcer.descriptorPublication.isSome then 1 else 0
  absent : ∀ index, ¬((fan.announcer.entryAt index).inUse ∧
    (fan.announcer.entryAt index).descriptor.publication.isSome) →
      (publishDescriptor fan.announcer frame nowNs outcome).timesOffered (.consumer index) = 0
  unlimited : ∀ index, (fan.announcer.entryAt index).inUse →
    (fan.announcer.entryAt index).descriptor.publication.isSome → ¬rateLimited (fan.announcer.entryAt index) →
    (publishDescriptor fan.announcer frame nowNs outcome).timesOffered (.consumer index) = 1
  limited : ∀ index, (fan.announcer.entryAt index).inUse →
    (fan.announcer.entryAt index).descriptor.publication.isSome → rateLimited (fan.announcer.entryAt index) →
    (fan.tenures index).steady →
    (publishDescriptor fan.announcer frame nowNs outcome).timesOffered (.consumer index) =
      if (fan.tenures index).tooSoon nowNs then 0 else 1
  once : ∀ index, (publishDescriptor fan.announcer frame nowNs outcome).timesOffered (.consumer index) ≤ 1
  message : ∀ offer ∈ (publishDescriptor fan.announcer frame nowNs outcome).offers,
    offer.2 = fan.announcer.descriptor frame
  success : (publishDescriptor fan.announcer frame nowNs outcome).result = 0 ↔
    ∀ offer ∈ (publishDescriptor fan.announcer frame nowNs outcome).offers, ¬OfferFails fan.announcer outcome offer.1

end TensorPool.Client
