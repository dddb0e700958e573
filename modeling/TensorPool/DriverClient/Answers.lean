/-
This file shows when the requests of a driver client are completed by their own responses only.
-/

import TensorPool.DriverClient.Complete
import TensorPool.DriverClient.Correlation
import TensorPool.Library.GuardedRun

namespace TensorPool.DriverClient

open Scan Flyweight FixedField
open Discovery (Refusal)

namespace Exchange

/-- While the attach waits no fragment is undecodable for it, and while the detach waits none is a foreign detach
response. -/
def clean (exchange : Exchange) : Event → Bool
  | .fragment fragment =>
      (exchange.attach.done || exchange.attach.returned ||
          !undecodable exchange.attach.correlationId fragment.bytes) &&
        (exchange.detach.returned || !foreignDetach exchange.detach.correlationId fragment.bytes)
  | .attachPolled _ => true
  | .detachPolled => true

/-- A call hears only what is meant for it. -/
def hearsOwn (own : Bool) (returned : Bool) {σ : Type} (handler : Fragment → Option σ) (state : σ)
    (fragment : Fragment) :
    Option σ :=
  if own then hears returned handler state fragment else some state

/-- Each request hears the responses with its own id only. -/
def stepOwn (exchange : Exchange) : Event → Option Exchange
  | .fragment fragment => do
      let attach ← hearsOwn (answersAttach exchange.attach.correlationId fragment.bytes) exchange.attach.returned
        exchange.attach.responseHandler exchange.attach fragment
      let async ← hearsOwn (answersAttach exchange.async.correlationId fragment.bytes) exchange.async.returned
        exchange.async.asyncHandler exchange.async fragment
      let detach ← hearsOwn (answersDetach exchange.detach.correlationId fragment.bytes) exchange.detach.returned
        exchange.detach.asyncHandler exchange.detach fragment
      some { attach, async, detach, fragments := fragment :: exchange.fragments }
  | .attachPolled fresh => exchange.step (.attachPolled fresh)
  | .detachPolled => exchange.step .detachPolled

end Exchange

/-- The information was decoded from a response to the own request. -/
def Attach.Answered (fragments : List Fragment) (attach : Attach) : Prop :=
  ∃ fragment ∈ fragments, answersAttach attach.correlationId fragment.bytes = true ∧
    tell (decodeAttachResponse fragment.allocates attach.correlationId {} fragment.bytes) = value attach.info.outcome

def Detach.Answered (fragments : List Fragment) (detach : Detach) : Prop :=
  ∃ fragment ∈ fragments, answersDetach detach.correlationId fragment.bytes = true ∧
    decodeDetachResponse {} fragment.bytes = value detach.info

/-- A call that has returned was answered, and both attaches have the same outcome. -/
structure Correlated (exchange : Exchange) : Prop where
  attach : exchange.attach.returned = true → exchange.attach.Answered exchange.fragments
  async : exchange.async.returned = true → exchange.async.Answered exchange.fragments
  detach : exchange.detach.returned = true → exchange.detach.Answered exchange.fragments
  request : exchange.async.correlationId = exchange.attach.correlationId
  returned : exchange.async.returned = exchange.attach.returned
  outcome : exchange.attach.returned = true → exchange.async.info.outcome = exchange.attach.info.outcome

/-- The synchronous and the asynchronous attach stand at the same point. -/
structure Attach.Alike (attach async : Attach) : Prop where
  correlationId : async.correlationId = attach.correlationId
  clientId : async.clientId = attach.clientId
  autoClientId : async.autoClientId = attach.autoClientId
  done : async.done = attach.done
  returned : async.returned = attach.returned
  outcome : attach.done = true → async.info.outcome = attach.info.outcome

/-- What holds after each event of a run with clean fragments. -/
structure Exchange.Inv (exchange : Exchange) : Prop where
  alike : exchange.attach.Alike exchange.async
  attach : exchange.attach.done = true → exchange.attach.Answered exchange.fragments
  detach : exchange.detach.done = true → exchange.detach.Answered exchange.fragments
  finished : exchange.attach.returned = true → exchange.attach.done = true
  detached : exchange.detach.returned = true → exchange.detach.done = true
  kept : exchange.detach.info.correlationId = exchange.detach.correlationId

theorem Attach.Answered.cons {attach : Attach} {fragments : List Fragment} (answered : attach.Answered fragments)
    (fragment : Fragment) : attach.Answered (fragment :: fragments) := by
  obtain ⟨found, member, own, told⟩ := answered
  exact ⟨found, List.mem_cons_of_mem _ member, own, told⟩

theorem Detach.Answered.cons {detach : Detach} {fragments : List Fragment} (answered : detach.Answered fragments)
    (fragment : Fragment) : detach.Answered (fragment :: fragments) := by
  obtain ⟨found, member, own, told⟩ := answered
  exact ⟨found, List.mem_cons_of_mem _ member, own, told⟩

namespace Attach

variable {attach async attach' async' : Attach} {fragments : List Fragment} {fragment : Fragment}

/-- Two informations with one outcome have one code, and one text where the code is not ok. -/
theorem outcome_error {info other : AttachInfo} (same : other.outcome = info.outcome) :
    other.code = info.code ∧ (info.code ≠ codeOk → other.errorMessage = info.errorMessage) := by
  have code : other.code = info.code := by rw [← AttachInfo.outcome_code, same, AttachInfo.outcome_code]
  refine ⟨code, fun refused => ?_⟩
  have text := congrArg AttachInfo.errorMessage same
  rwa [AttachInfo.outcome, AttachInfo.outcome, if_neg refused, if_neg (code ▸ refused)] at text

theorem Alike.satisfied (alike : attach.Alike async) : async.satisfied = attach.satisfied := by
  rw [Attach.satisfied, Attach.satisfied, alike.done]
  cases done : attach.done with
  | false => rfl
  | true => rw [(outcome_error (alike.outcome done)).1]

/-- Both attaches ask again on the same responses. -/
theorem Alike.retries (alike : attach.Alike async) (done : attach.done = true) : async.retries = attach.retries := by
  obtain ⟨code, text⟩ := outcome_error (alike.outcome done)
  rw [Attach.retries, Attach.retries, code, alike.autoClientId]
  by_cases rejected : attach.info.code = codeRejected
  · rw [text (by rw [rejected]; decide)]
  · rw [beq_eq_false_iff_ne.mpr rejected]
    rfl

/-- The two loops end alike. -/
theorem Alike.polled (alike : attach.Alike async) (fresh : Ids) :
    (attach.attachPolled fresh).Alike (async.asyncPolled fresh) := by
  rw [attachPolled, asyncPolled, Attach.polled, Attach.polled, alike.returned, alike.done]
  split
  · exact alike
  next waits =>
    rw [Bool.not_eq_true, Bool.or_eq_false_iff, Bool.not_eq_false'] at waits
    rw [alike.retries waits.2]
    split
    · exact ⟨rfl, rfl, alike.autoClientId, rfl, rfl, fun done => (by cases done)⟩
    · exact ⟨alike.correlationId, alike.clientId, alike.autoClientId, rfl, rfl, alike.outcome⟩

/-- Two scans that tell the same end alike. -/
theorem tell_cases {scan other : Scan Refusal AttachInfo} (same : tell other = tell scan) :
    scan = fault ∨ (∃ refusal, scan = stop refusal ∧ other = stop refusal) ∨
      ∃ info info', scan = value info ∧ other = value info' ∧ info'.outcome = info.outcome := by
  cases scan with
  | fault => exact .inl rfl
  | stop refusal =>
      cases other with
      | fault => cases same
      | stop refusal' =>
          cases same
          exact .inr (.inl ⟨_, rfl, rfl⟩)
      | value info => cases same
  | value info =>
      cases other with
      | fault => cases same
      | stop refusal => cases same
      | value info' => exact .inr (.inr ⟨_, _, rfl, rfl, Scan.value.inj same⟩)

/-- A fragment is answered by both attaches with the same information, or both go on. -/
theorem Alike.heard (alike : attach.Alike async)
    (clean : (attach.done || attach.returned || !undecodable attach.correlationId fragment.bytes) = true)
    (first : Exchange.hears attach.returned attach.responseHandler attach fragment = some attach')
    (second : Exchange.hears async.returned async.asyncHandler async fragment = some async') :
    attach' = attach ∧ async' = async ∨
      ∃ info info', answersAttach attach.correlationId fragment.bytes = true ∧ info'.outcome = info.outcome ∧
        tell (decodeAttachResponse fragment.allocates attach.correlationId {} fragment.bytes) = value info.outcome ∧
        attach' = { attach with info, done := true } ∧ async' = { async with info := info', done := true } := by
  rw [Exchange.hears, alike.returned] at second
  rw [Exchange.hears] at first
  by_cases returned : attach.returned = true
  · rw [if_pos returned] at first second
    cases first
    cases second
    exact .inl ⟨rfl, rfl⟩
  rw [if_neg returned] at first second
  rw [responseHandler] at first
  rw [asyncHandler, alike.satisfied, alike.correlationId] at second
  by_cases satisfied : attach.satisfied = true
  · rw [if_pos satisfied] at first second
    cases first
    cases second
    exact .inl ⟨rfl, rfl⟩
  rw [if_neg satisfied] at first second
  have same := tell_response fragment.allocates attach.correlationId async.info attach.info fragment.bytes
  have fresh := tell_response fragment.allocates attach.correlationId {} attach.info fragment.bytes
  obtain decoded | ⟨refusal, decoded, decoded'⟩ | ⟨info, info', decoded, decoded', outcome⟩ := tell_cases same
  · rw [decoded] at first
    cases first
  · rw [decoded] at first
    rw [decoded'] at second
    dsimp only at first second
    cases second
    refine .inl ⟨?_, rfl⟩
    cases done : attach.done with
    | true =>
        rw [← done] at first
        split at first <;> exact (Option.some.inj first).symm
    | false =>
        rw [done, Bool.eq_false_iff.mpr returned, Bool.false_or, Bool.false_or, Bool.not_eq_true'] at clean
        rw [decode_stop clean decoded, if_neg (by decide)] at first
        exact (Option.some.inj first).symm
  · rw [decoded] at first fresh
    rw [decoded'] at second
    refine .inr ⟨info, info', decode_value decoded, outcome, fresh, (Option.some.inj first).symm, ?_⟩
    rw [← Option.some.inj second, ← alike.correlationId]

end Attach

namespace Detach

variable {detach detach' : Detach} {fragments : List Fragment} {fragment : Fragment}

/-- A fragment answers the detach, or the detach goes on. -/
theorem heard (kept : detach.info.correlationId = detach.correlationId)
    (clean : (detach.returned || !foreignDetach detach.correlationId fragment.bytes) = true)
    (stepped : Exchange.hears detach.returned detach.asyncHandler detach fragment = some detach') :
    detach' = detach ∨ ∃ info, answersDetach detach.correlationId fragment.bytes = true ∧
      info.correlationId = detach.correlationId ∧ decodeDetachResponse {} fragment.bytes = value info ∧
      detach' = { detach with info, done := true } := by
  rw [Exchange.hears] at stepped
  by_cases returned : detach.returned = true
  · rw [if_pos returned] at stepped
    exact .inl (Option.some.inj stepped).symm
  rw [if_neg returned, asyncHandler] at stepped
  rw [Bool.eq_false_iff.mpr returned, Bool.false_or, Bool.not_eq_true'] at clean
  cases decoded : decodeDetachResponse detach.info fragment.bytes with
  | fault =>
      rw [decoded] at stepped
      cases stepped
  | stop refusal =>
      have same := DetachInfo.decode_stop kept clean decoded
      rw [decoded] at stepped
      dsimp only at stepped
      rw [same] at stepped
      exact .inl (Option.some.inj stepped).symm
  | value info =>
      obtain ⟨named, known, own⟩ := DetachInfo.decode_value decoded
      rw [foreignDetach, named, known, Bool.true_and, Bool.not_false, Bool.true_and, Bool.not_eq_false'] at clean
      rw [decoded] at stepped
      refine .inr ⟨info, ?_, ?_, DetachInfo.decode_alike decoded, (Option.some.inj stepped).symm⟩
      · rw [answersDetach, named, clean, Bool.and_self]
      · rw [correlates, beq_iff_eq] at clean own
        rw [← clean, own]

end Detach

namespace Exchange

variable {exchange exchange' : Exchange} {event : Event}

theorem start_inv (ids : Ids) (autoClientId : Bool) (detachId : Int64) : (start ids autoClientId detachId).Inv where
  alike := ⟨rfl, rfl, rfl, rfl, rfl, fun _ => rfl⟩
  attach := fun done => (by cases done)
  detach := fun done => (by cases done)
  finished := fun returned => (by cases returned)
  detached := fun returned => (by cases returned)
  kept := rfl

/-- A fragment is heard by the three calls one after the other. -/
theorem step_fragment {fragment : Fragment} (stepped : exchange.step (.fragment fragment) = some exchange') :
    ∃ attach async detach,
      hears exchange.attach.returned exchange.attach.responseHandler exchange.attach fragment = some attach ∧
      hears exchange.async.returned exchange.async.asyncHandler exchange.async fragment = some async ∧
      hears exchange.detach.returned exchange.detach.asyncHandler exchange.detach fragment = some detach ∧
      exchange' = ⟨attach, async, detach, fragment :: exchange.fragments⟩ := by
  obtain ⟨attach, first, rest⟩ := Option.bind_eq_some_iff.mp stepped
  obtain ⟨async, second, rest⟩ := Option.bind_eq_some_iff.mp rest
  obtain ⟨detach, third, rest⟩ := Option.bind_eq_some_iff.mp rest
  exact ⟨attach, async, detach, first, second, third, (Option.some.inj rest).symm⟩

/-- A poll of the attach keeps the invariant, since a new request has no answer yet. -/
theorem Inv.attachPolled (holds : exchange.Inv) (fresh : Ids) :
    Inv { exchange with
      attach := exchange.attach.attachPolled fresh
      async := exchange.async.asyncPolled fresh } := by
  have alike := holds.alike.polled fresh
  have answered : (exchange.attach.attachPolled fresh).done = true →
      (exchange.attach.attachPolled fresh).Answered exchange.fragments := by
    rw [Attach.attachPolled, Attach.polled]
    split
    · exact holds.attach
    · split
      · intro done
        cases done
      · exact holds.attach
  have finished : (exchange.attach.attachPolled fresh).returned = true →
      (exchange.attach.attachPolled fresh).done = true := by
    rw [Attach.attachPolled, Attach.polled]
    split
    · exact holds.finished
    next waits =>
      rw [Bool.not_eq_true, Bool.or_eq_false_iff, Bool.not_eq_false'] at waits
      split
      · intro returned
        exact absurd waits.1 (Bool.eq_false_iff.not.mpr (not_not.mpr returned))
      · intro returned
        exact waits.2
  exact ⟨alike, answered, holds.detach, finished, holds.detached, holds.kept⟩

/-- A clean fragment keeps the invariant, since each call hears its own responses only. -/
theorem Inv.fragment {fragment : Fragment} (holds : exchange.Inv) (met : exchange.clean (.fragment fragment) = true)
    (stepped : exchange.step (.fragment fragment) = some exchange') : exchange'.Inv := by
  obtain ⟨attach, async, detach, first, second, third, rfl⟩ := step_fragment stepped
  rw [clean, Bool.and_eq_true] at met
  have pair := holds.alike.heard met.1 first second
  have single := Detach.heard holds.kept met.2 third
  have here := List.mem_cons_self (a := fragment) (l := exchange.fragments)
  constructor
  · obtain ⟨rfl, rfl⟩ | ⟨info, info', own, same, told, rfl, rfl⟩ := pair
    · exact holds.alike
    · exact ⟨holds.alike.correlationId, holds.alike.clientId, holds.alike.autoClientId, rfl, holds.alike.returned,
        fun _ => same⟩
  · obtain ⟨rfl, rfl⟩ | ⟨info, info', own, same, told, rfl, rfl⟩ := pair
    · intro done
      exact (holds.attach done).cons fragment
    · intro done
      exact ⟨fragment, here, own, told⟩
  · obtain rfl | ⟨info, own, same, told, rfl⟩ := single
    · intro done
      exact (holds.detach done).cons fragment
    · intro done
      exact ⟨fragment, here, own, told⟩
  · obtain ⟨rfl, rfl⟩ | ⟨info, info', own, same, told, rfl, rfl⟩ := pair
    · exact holds.finished
    · intro returned
      rfl
  · obtain rfl | ⟨info, own, same, told, rfl⟩ := single
    · exact holds.detached
    · intro returned
      rfl
  · obtain rfl | ⟨info, own, same, told, rfl⟩ := single
    · exact holds.kept
    · exact same

theorem Inv.detachPolled (holds : exchange.Inv) : Inv { exchange with detach := exchange.detach.asyncPolled } := by
  rw [Detach.asyncPolled]
  split
  next done => exact ⟨holds.alike, holds.attach, holds.detach, holds.finished, fun _ => done, holds.kept⟩
  · exact holds

theorem Inv.step (holds : exchange.Inv) (met : exchange.clean event = true)
    (stepped : exchange.step event = some exchange') : exchange'.Inv := by
  cases event with
  | fragment fragment => exact holds.fragment met stepped
  | attachPolled fresh =>
      cases stepped
      exact holds.attachPolled fresh
  | detachPolled =>
      cases stepped
      exact holds.detachPolled

/-- A call that hears another message than its own does not change. -/
theorem hearsOwn_eq {σ : Type} {own returned : Bool} {handler : Fragment → Option σ} {state state' : σ}
    {fragment : Fragment} (heard : hears returned handler state fragment = some state')
    (foreign : own = false → state' = state) :
    hearsOwn own returned handler state fragment = some state' := by
  rw [hearsOwn]
  cases own with
  | true => exact heard
  | false => rw [foreign rfl, if_neg Bool.false_ne_true]

/-- Under a clean event the calls do what they would do if they heard their own responses only. -/
theorem Inv.stepOwn (holds : exchange.Inv) (met : exchange.clean event = true)
    (stepped : exchange.step event = some exchange') : exchange.stepOwn event = some exchange' := by
  cases event with
  | attachPolled fresh => exact stepped
  | detachPolled => exact stepped
  | fragment fragment =>
      obtain ⟨attach, async, detach, first, second, third, rfl⟩ := step_fragment stepped
      rw [clean, Bool.and_eq_true] at met
      have pair := holds.alike.heard met.1 first second
      have single := Detach.heard holds.kept met.2 third
      have attach_own : answersAttach exchange.attach.correlationId fragment.bytes = false →
          attach = exchange.attach ∧ async = exchange.async := by
        intro foreign
        obtain same | ⟨info, info', own, -⟩ := pair
        · exact same
        · rw [own] at foreign
          cases foreign
      have detach_own : answersDetach exchange.detach.correlationId fragment.bytes = false →
        detach = exchange.detach := by
        intro foreign
        obtain same | ⟨info, own, -⟩ := single
        · exact same
        · rw [own] at foreign
          cases foreign
      rw [Exchange.stepOwn, holds.alike.correlationId, hearsOwn_eq first fun foreign => (attach_own foreign).1]
      change ((hearsOwn _ _ _ _ _).bind fun async => _) = _
      rw [hearsOwn_eq second fun foreign => (attach_own foreign).2]
      change ((hearsOwn _ _ _ _ _).bind fun detach => _) = _
      rw [hearsOwn_eq third detach_own]
      rfl

theorem Inv.correlated (holds : exchange.Inv) : Correlated exchange where
  attach := fun returned => holds.attach (holds.finished returned)
  async := by
    intro returned
    have done := holds.finished (holds.alike.returned.symm.trans returned)
    obtain ⟨fragment, member, own, told⟩ := holds.attach done
    refine ⟨fragment, member, ?_, ?_⟩
    · rw [holds.alike.correlationId]
      exact own
    · rw [holds.alike.correlationId, holds.alike.outcome done]
      exact told
  detach := fun returned => holds.detach (holds.detached returned)
  request := holds.alike.correlationId
  returned := holds.alike.returned
  outcome := fun returned => holds.alike.outcome (holds.finished returned)

/-- Where the fragments are clean the calls are completed by their own responses, and the others change nothing. -/
theorem responses_correlate {ids : Ids} {autoClientId : Bool} {detachId : Int64} {events : List Event}
    {exchange : Exchange}
    (ran : GuardedRun.runWhile clean step (start ids autoClientId detachId) events = some exchange) :
    Correlated exchange ∧ GuardedRun.run stepOwn (start ids autoClientId detachId) events = some exchange := by
  have begun := start_inv ids autoClientId detachId
  constructor
  · apply Inv.correlated
    exact GuardedRun.keeps (fun exchange event exchange' holds met stepped => Inv.step holds met stepped) ran begun
  · exact GuardedRun.follows (fun exchange event exchange' holds met stepped => Inv.step holds met stepped)
      (fun exchange event exchange' holds met stepped => Inv.stepOwn holds met stepped) ran begun

/-- A granted response of the given version to the request with the id. -/
def granted (version : UInt16) (correlationId : Int64) : Fragment where
  bytes := messageHeader.encode ⟨AttachResponse.blockLength, AttachResponse.templateId, schemaId, version⟩ ++
    (int64.encode correlationId ++ shortEntry.drop 16)
  allocates := true

/-- A detach response to the request with the id. -/
def detached (correlationId : Int64) : Fragment where
  bytes := messageHeader.encode ⟨DetachResponse.blockLength, DetachResponse.templateId, schemaId, schemaVersion⟩ ++
    (int64.encode correlationId ++ (int32.encode codeOk ++ dataBytes []))
  allocates := true

/-- The client has the ids 7 and 9, and another client has the ids 8 and 10. -/
def started : Exchange := start ⟨7, 1⟩ false 9

def own : List Event :=
  [.fragment (granted schemaVersion 8), .fragment (granted schemaVersion 7), .attachPolled ⟨11, 2⟩,
    .fragment (detached 9), .detachPolled]

def answered : Exchange where
  attach := ⟨7, 1, false, true, shortEntryInfo, true⟩
  async := ⟨7, 1, false, true, shortEntryInfo, true⟩
  detach := ⟨9, true, ⟨9, codeOk, []⟩, true⟩
  fragments := [detached 9, granted schemaVersion 7, granted schemaVersion 8]

theorem own_responses_correlate : Correlated answered ∧ GuardedRun.run stepOwn started own = some answered :=
  @responses_correlate ⟨7, 1⟩ false 9 own answered (by decide +kernel)

def foreign : List Event :=
  [.fragment (granted 2 8), .attachPolled ⟨11, 2⟩, .fragment (detached 10), .detachPolled]

def mistaken : Exchange where
  attach := ⟨7, 1, false, true, { code := codeInternalError }, true⟩
  async := ⟨7, 1, false, false, { code := codeInternalError }, false⟩
  detach := ⟨9, true, ⟨10, codeOk, []⟩, true⟩
  fragments := [detached 10, granted 2 8]

/-- A newer response to another client ends the synchronous attach, and the detach response to another client the
detach. -/
theorem foreign_responses_complete : GuardedRun.run step started foreign = some mistaken ∧
    mistaken.attach.returned = true ∧ mistaken.async.returned = false ∧
    mistaken.detach.returned = true ∧ mistaken.detach.info.correlationId ≠ mistaken.detach.correlationId ∧
    ¬ Correlated mistaken := by
  refine ⟨by decide +kernel, rfl, rfl, rfl, by decide, ?_⟩
  intro correlated
  have same := correlated.returned
  cases same

end Exchange

end TensorPool.DriverClient
