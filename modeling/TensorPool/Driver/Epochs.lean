/-
This file orders the epochs of every stream.
-/

import Mathlib.Data.List.GetD
import TensorPool.Driver.Answer

namespace TensorPool.Driver

/-- The log lists the epochs that a stream moved to. -/
def Event.bumped (streamId : UInt32) : Event → Option UInt64
  | .epochBumped moved epoch => if moved = streamId then some epoch else none
  | _ => none

/-- A stream starts without an epoch, which is written as zero. -/
def epochs (streamId : UInt32) (log : List Event) : List UInt64 := 0 :: log.filterMap (Event.bumped streamId)

/-- The epochs of every stream rise, and each renewal adds at most one to what the clock gave. -/
structure Risen (past : List Label) (s : State) : Prop where
  current : ∀ streamId, (epochs streamId s.world.log).getLast? =
    some (((s.view streamId).map StreamState.epoch).getD 0)
  room : ∀ streamId, past.count (.renew streamId) < 2 ^ 63 →
    (((s.view streamId).map StreamState.epoch).getD 0).toNat < 2 ^ 63 + past.count (.renew streamId)
  rising : ∀ streamId, past.count (.renew streamId) < 2 ^ 63 →
    (epochs streamId s.world.log).Pairwise (· < ·)

/-- The last epoch of a rising list is above every other one. -/
theorem pairwise_concat {list : List UInt64} {last epoch : UInt64} (rising : list.Pairwise (· < ·))
    (final : list.getLast? = some last) (above : last < epoch) : (list ++ [epoch]).Pairwise (· < ·) := by
  obtain ⟨front, rfl⟩ := List.getLast?_eq_some_iff.mp final
  rw [List.pairwise_append] at rising ⊢
  refine ⟨List.pairwise_append.mpr rising, List.pairwise_singleton _ _, fun item member other same => ?_⟩
  rw [List.mem_singleton.mp same]
  rcases List.mem_append.mp member with inFront | isLast
  · exact UInt64.lt_trans (rising.2.2 item inFront last (by simp)) above
  · rw [List.mem_singleton.mp isLast]
    exact above

theorem init_risen (config : Config) : Risen [] (init config) := by
  have blank (streamId : UInt32) : ((init config).view streamId).map StreamState.epoch = none ∨
      ((init config).view streamId).map StreamState.epoch = some 0 := by
    rcases known : (init config).view streamId with _ | stream
    · exact .inl rfl
    · rw [Option.map_some, (init_view known).1]
      exact .inr rfl
  refine ⟨fun streamId => ?_, fun streamId _ => ?_, fun streamId _ => List.pairwise_singleton _ _⟩
  · rcases blank streamId with same | same <;> rw [same] <;> rfl
  · rcases blank streamId with same | same <;> rw [same, List.count_nil] <;> decide

/-- A change that bumps nothing and keeps every epoch keeps the order. -/
theorem Risen.still {past : List Label} {label : Label} {s s' : State} (risen : Risen past s)
    (plain : label.renews = false)
    (growth : Journal.Grows (fun event => ∀ streamId, event.bumped streamId = none) s.world.log s'.world.log)
    (view : ∀ streamId, ((s'.view streamId).map StreamState.epoch).getD 0 =
      ((s.view streamId).map StreamState.epoch).getD 0) : Risen (past ++ [label]) s' := by
  have unread (streamId : UInt32) : epochs streamId s'.world.log = epochs streamId s.world.log := by
    rw [epochs, epochs, growth.unread (Event.bumped streamId) fun event none => none streamId]
  have uncounted (streamId : UInt32) : (past ++ [label]).count (.renew streamId) = past.count (.renew streamId) := by
    rw [List.count_append, List.count_singleton]
    cases label with
    | renew other => cases plain
    | _ => rfl
  refine ⟨fun streamId => ?_, fun streamId => ?_, fun streamId => ?_⟩
  · rw [unread, view]
    exact risen.current streamId
  · rw [uncounted, view]
    exact risen.room streamId
  · rw [uncounted, unread]
    exact risen.rising streamId

theorem talk_unbumped {s : State} {event : Event} (talk : Talk s event) (streamId : UInt32) :
    event.bumped streamId = none := by
  cases talk <;> rfl

theorem region_unbumped {streamId : UInt32} {epoch : UInt64} {files : List RegionFile} {event : Event}
    (region : RegionEvent streamId epoch files event) (other : UInt32) : event.bumped other = none := by
  cases region <;> rfl

/-- A renewal adds its epoch to the list of its stream. -/
theorem epochs_renewed (log : List Event) {events : List Event} {streamId : UInt32} {epoch : UInt64}
    {files : List RegionFile} (regions : ∀ event ∈ events, RegionEvent streamId epoch files event) (other : UInt32) :
    epochs other (log ++ .epochBumped streamId epoch :: events) =
      if streamId = other then epochs other log ++ [epoch] else epochs other log := by
  have silent : events.filterMap (Event.bumped other) = [] :=
    List.filterMap_eq_nil_iff.mpr fun event member => region_unbumped (regions event member) other
  rw [epochs, epochs, List.filterMap_append, List.filterMap_cons, silent, Event.bumped]
  by_cases here : streamId = other
  · rw [if_pos here, if_pos here]
    rfl
  · rw [if_neg here, if_neg here, List.append_nil]

/-- Every change raises the epochs that it touches. -/
theorem Risen.change {past : List Label} {label : Label} {o : Oracle} {s s' : State}
    (early : ∀ call, (o.clock call).toNat < 2 ^ 63) (risen : Risen past s) (change : Change o label s s') :
    Risen (past ++ [label]) s' := by
  cases change with
  | talk quiet view =>
      exact risen.still rfl (quiet.world.log.mono fun _ => talk_unbumped) fun streamId => by rw [view]
  | @provision _ _ added _ quiet fresh view =>
      refine risen.still rfl (quiet.world.log.mono fun _ absurdity => absurdity.elim) fun streamId => ?_
      rw [view]
      by_cases here : streamId = added
      · rw [here, Function.update_self, fresh]
        rfl
      · rw [Function.update_of_ne here]
  | @renew _ _ moved stream call events known _ _ _ _ view log renewal =>
      have counted (streamId : UInt32) : (past ++ [Label.renew moved]).count (.renew streamId) =
          past.count (.renew streamId) + if moved = streamId then 1 else 0 := by
        rw [List.count_append, List.count_singleton]
        by_cases same : moved = streamId <;> simp [same]
      have before := risen.current moved
      have room := risen.room moved
      rw [known, Option.map_some, Option.getD_some] at before room
      have regions := epochs_renewed s.world.log renewal.1
      rw [← log] at regions
      refine ⟨fun streamId => ?_, fun streamId few => ?_, fun streamId few => ?_⟩
      · rw [regions, view]
        by_cases here : moved = streamId
        · rw [if_pos here, ← here, Function.update_self]
          simp
        · rw [if_neg here, Function.update_of_ne (Ne.symm here)]
          exact risen.current streamId
      · rw [counted] at few ⊢
        rw [view]
        by_cases here : moved = streamId
        · subst here
          rw [if_pos rfl] at few ⊢
          rw [Function.update_self, Option.map_some, Option.getD_some]
          have below := room (by omega)
          have bound : (nextEpoch (o.clock call) stream.epoch).toNat ≤ _ := nextEpoch_le (by omega)
          have reading := early call
          dsimp only
          omega
        · rw [if_neg here] at few ⊢
          rw [Function.update_of_ne (Ne.symm here)]
          exact risen.room streamId few
      · rw [counted] at few
        rw [regions]
        by_cases here : moved = streamId
        · subst here
          rw [if_pos rfl] at few ⊢
          have below := room (by omega)
          exact pairwise_concat (risen.rising moved (by omega)) before (lt_nextEpoch (by omega))
        · rw [if_neg here] at few ⊢
          exact risen.rising streamId few
  | waste _ _ streams _ log =>
      exact risen.still rfl (log ▸ .refl _ _) fun streamId => by rw [view_congr streams]
  | @grant _ _ stream lease _ known _ _ _ _ _ _ _ view log =>
      refine risen.still rfl ⟨_, log, fun event member streamId => ?_⟩ fun streamId => ?_
      · rw [List.mem_singleton.mp member]
        rfl
      · rw [view]
        by_cases here : streamId = lease.streamId
        · rw [here, Function.update_self, known, Option.map_some, Option.map_some,
            (StreamState.claim_epoch stream lease).1]
        · rw [Function.update_of_ne here]
  | @finish _ _ _ _ lease _ _ _ _ _ view log =>
      refine risen.still rfl ⟨_, log, fun event member streamId => ?_⟩ fun streamId => ?_
      · rw [List.mem_singleton.mp member]
        rfl
      · rw [view]
        by_cases here : streamId = lease.streamId
        · rw [here, Function.update_self, Option.map_map]
          congr 2
          funext stream
          unfold StreamState.release
          dsimp only [Function.comp]
          split <;> rfl
        · rw [Function.update_of_ne here]
  | extend _ _ _ streams _ log =>
      exact risen.still rfl (log ▸ .refl _ _) fun streamId => by rw [view_congr streams]

theorem Risen.trace {past labels : List Label} {o : Oracle} {s s' : State}
    (early : ∀ call, (o.clock call).toNat < 2 ^ 63) (path : Trace (Change o) labels s s') (risen : Risen past s) :
    Risen (past ++ labels) s' :=
  path.invariant (I := Risen) (fun _ _ _ _ risen change => risen.change early change) past risen

/-- The producers of a stream in the table. -/
def producers (streamId : UInt32) (leases : List Lease) : Nat :=
  leases.countP fun lease => lease.role == .producer && lease.streamId == streamId

/-- A producer that ends leaves the table. -/
theorem settled_producers {o : Oracle} {labels : List Label} {s s' : State} (path : Trace (Change o) labels s s')
    (settled : ∀ label ∈ labels, label.settled = true) (streamId : UInt32) :
    labels.countP (Label.endsProducer streamId) + producers streamId s'.leases = producers streamId s.leases := by
  induction path with
  | nil => exact Nat.zero_add _
  | @snoc labels s m s' label _ last hypothesis =>
      have before := hypothesis fun other member => settled other (List.mem_append_left _ member)
      have kind := settled label (by simp)
      rw [List.countP_append, List.countP_singleton, ← before, Nat.add_assoc]
      congr 1
      cases last with
      | talk quiet => simp [Label.endsProducer, quiet.leases]
      | provision => cases kind
      | renew _ stable => simp [Label.endsProducer, stable.2.1]
      | waste => cases kind
      | grant => cases kind
      | @finish _ _ _ _ lease _ _ leases =>
          rw [producers, producers, leases.1, leases.2, List.countP_append, List.countP_append, List.countP_cons]
          rcases ends : (lease.role == .producer && lease.streamId == streamId) with _ | _
          · simp only [Label.endsProducer, ends]
            simp
          · simp only [Label.endsProducer, ends, if_true]
            omega
      | extend _ leases =>
          have counts (list : List Lease) : producers streamId list = (list.map Lease.identity).countP
              fun lease => lease.role == .producer && lease.streamId == streamId := by
            rw [List.countP_map]
            rfl
          rw [counts, counts, leases]
          simp [Label.endsProducer]

/-- An operation on a sound table renews a stream at most once. -/
theorem OpLabels.renews_once {o : Oracle} {op : Op} {labels : List Label} {s s' : State}
    (kinds : OpLabels op labels) (path : Trace (Change o) labels s s') (sound : s.book.Sound) (streamId : UInt32) :
    labels.count (.renew streamId) ≤ 1 := by
  have fenced (fences : Fences labels) : labels.count (.renew streamId) ≤ 1 := by
    have ended := settled_producers path fences.settled streamId
    have single := producers_le_one sound streamId
    rw [← List.countP_eq_length_filter] at single
    have renewals := fences.renewals streamId
    rw [producers, producers] at ended
    omega
  cases op with
  | attach request =>
      have fewer : labels.count (.renew streamId) ≤ labels.countP Label.renews := by
        apply List.countP_mono_left
        intro label _ same
        rw [beq_iff_eq.mp same]
        rfl
      have once := Attempted.renews kinds
      omega
  | detach request => exact fenced kinds
  | keepalive request => exact fenced kinds
  | expire => exact fenced kinds
  | announce => exact fenced kinds

/-- A run renews a stream at most once for each of its steps. -/
theorem run_risen {o : Oracle} (early : ∀ call, (o.clock call).toNat < 2 ^ 63) (config : Config) (started : Bool)
    (ops : List Op) (short : ops.length < 2 ^ 63) :
    ∃ past, Orderly past (run o (boot o config started) ops) ∧ Risen past (run o (boot o config started) ops) ∧
      past.countP Label.draws ≤ ops.length ∧ ∀ streamId, past.count (.renew streamId) ≤ ops.length := by
  induction ops using List.reverseRecOn with
  | nil =>
      obtain ⟨labels, booted, talk⟩ := boot_trace o config started
      refine ⟨_, .trace booted (init_orderly config), .trace early booted (init_risen config), ?_, fun streamId => ?_⟩
      · refine Nat.le_of_eq (List.countP_eq_zero.mpr fun label member => ?_)
        rw [talk label member]
        simp [Label.draws]
      · refine Nat.le_of_eq (List.count_eq_zero.mpr fun member => ?_)
        have same := talk _ member
        cases same
  | append_singleton ops op hypothesis =>
      rw [List.length_append, List.length_singleton] at short
      obtain ⟨past, orderly, risen, drawn, renewed⟩ := hypothesis (by omega)
      obtain ⟨labels, path, kinds⟩ := step_trace (o := o) op orderly.tidy
      have sound := orderly.book (by omega)
      rw [run_append, run_cons, run_nil]
      refine ⟨past ++ labels, .trace path orderly, .trace early path risen, ?_, fun streamId => ?_⟩
      · have once := kinds.draws
        rw [List.countP_append, List.length_append, List.length_singleton]
        split at once <;> omega
      · have once := kinds.renews_once path sound streamId
        have before := renewed streamId
        rw [List.count_append, List.length_append, List.length_singleton]
        omega

/-- The new events of a step are those that it adds to the log. -/
def newEvents (s s' : State) : List Event := s'.world.log.drop s.world.log.length

/-- The step answers a producer's request with `OK` for this stream and this epoch. -/
def GrantsProducer (o : Oracle) (s : State) (op : Op) (streamId : UInt32) (epoch : UInt64) : Prop :=
  ∃ request response body result, op = .attach request ∧ request.role = some .producer ∧
    .offered (.attachResponse response) result ∈ newEvents s (step o s op) ∧ response.code = .ok ∧
    response.body = some body ∧ body.streamId = streamId ∧ body.epoch = epoch

/--
Every state of the run shows the last epoch that its log lists for a stream, the listed epochs rise,
and a later grant to a producer has a greater epoch.
-/
structure EpochsRise (o : Oracle) (start : State) (ops : List Op) : Prop where
  shown : ∀ first rest, ops = first ++ rest → ∀ streamId,
    (epochs streamId (run o start first).world.log).getLast? =
      some ((((run o start first).view streamId).map StreamState.epoch).getD 0)
  kept : ∀ first rest, ops = first ++ rest → ∀ streamId stream, (run o start first).view streamId = some stream →
    ∃ later, (run o start ops).view streamId = some later ∧ stream.epoch ≤ later.epoch
  rising : ∀ streamId, (epochs streamId (run o start ops).world.log).Pairwise (· < ·)
  grants : ∀ first early middle late rest, ops = first ++ early :: middle ++ late :: rest →
    ∀ streamId epoch epoch', GrantsProducer o (run o start first) early streamId epoch →
      GrantsProducer o (run o start (first ++ early :: middle)) late streamId epoch' → epoch < epoch'

/-- A step only adds to the log. -/
theorem Change.grows {o : Oracle} {label : Label} {s s' : State} (change : Change o label s s') :
    s.world.log <+: s'.world.log := by
  cases change with
  | talk quiet =>
      obtain ⟨events, grown, -⟩ := quiet.world.log
      exact ⟨events, grown.symm⟩
  | provision quiet =>
      obtain ⟨events, grown, -⟩ := quiet.world.log
      exact ⟨events, grown.symm⟩
  | renew _ _ _ _ _ _ log => exact ⟨_, log.symm⟩
  | waste _ _ _ _ log => exact log ▸ List.prefix_rfl
  | grant _ _ _ _ _ _ _ _ _ log => exact ⟨_, log.symm⟩
  | finish _ _ _ _ _ log => exact ⟨_, log.symm⟩
  | extend _ _ _ _ _ log => exact log ▸ List.prefix_rfl

/-- A change keeps every stream of the view, under its identifier. -/
theorem Change.keeps_stream {o : Oracle} {label : Label} {s s' : State} (change : Change o label s s')
    {streamId : UInt32} (known : s.view streamId ≠ none) : s'.view streamId ≠ none := by
  have updated {view : UInt32 → Option StreamState} {target : UInt32} {stream : Option StreamState}
      (there : view streamId ≠ none) (some : streamId = target → stream ≠ none) :
      Function.update view target stream streamId ≠ none := by
    by_cases here : streamId = target
    · rw [here, Function.update_self]
      exact some here
    · rw [Function.update_of_ne here]
      exact there
  cases change with
  | talk _ view => exact view ▸ known
  | provision _ _ view =>
      rw [view]
      exact updated known fun _ => Option.some_ne_none _
  | renew _ _ _ _ _ view =>
      rw [view]
      exact updated known fun _ => Option.some_ne_none _
  | waste _ _ streams => exact view_congr streams ▸ known
  | grant _ _ _ _ _ _ _ _ view =>
      rw [view]
      exact updated known fun _ => Option.some_ne_none _
  | finish _ _ _ _ view =>
      rw [view]
      refine updated known fun here => ?_
      rw [← here]
      simpa using known
  | extend _ _ _ streams => exact view_congr streams ▸ known

/-- A later state has made more calls, and it has a longer log and every stream of the earlier one. -/
structure Later (s s' : State) : Prop where
  calls : s.world.calls ≤ s'.world.calls
  log : s.world.log <+: s'.world.log
  streams : ∀ streamId, s.view streamId ≠ none → s'.view streamId ≠ none

theorem Later.trans {s m s' : State} (first : Later s m) (second : Later m s') : Later s s' :=
  ⟨Nat.le_trans first.calls second.calls, first.log.trans second.log,
    fun streamId known => second.streams streamId (first.streams streamId known)⟩

theorem later_trace {o : Oracle} {labels : List Label} {s s' : State} (path : Trace (Change o) labels s s') :
    Later s s' :=
  path.relates (Q := Later) (fun _ => ⟨Nat.le_refl _, List.prefix_rfl, fun _ => id⟩) Later.trans
    fun _ _ _ change => ⟨change.calls_le, change.grows, fun _ => change.keeps_stream⟩

/-- A run from a tidy table leads to a later state. -/
theorem run_later {o : Oracle} {s : State} (tidy : Tidy s) (ops : List Op) : Later s (run o s ops) := by
  obtain ⟨labels, path, -⟩ := run_trace (o := o) tidy ops
  exact later_trace path

/-- The body of a response shows the epoch of its stream. -/
theorem encodeAttachBody_epoch {o : Oracle} {config : Config} {stream : StreamState} {lease : Lease}
    {requireHugepages : Bool} {body : AttachBody} {position : Nat}
    (encoded : encodeAttachBody o config stream lease requireHugepages = some (body, position)) :
    body.streamId = stream.streamId ∧ body.epoch = stream.epoch := by
  simp only [encodeAttachBody, Option.bind_eq_bind, Option.bind_eq_some_iff, Option.some.injEq,
    Prod.exists, Prod.mk.injEq] at encoded
  obtain ⟨profile, -, bodies, uri, place, -, rfl, -⟩ := encoded
  exact ⟨rfl, rfl⟩

/-- A renewal logs the epoch that its stream then shows. -/
theorem Change.renewed {o : Oracle} {streamId : UInt32} {s s' : State}
    (change : Change o (.renew streamId) s s') : ∃ stream events, s'.view streamId = some stream ∧
      s'.world.log = s.world.log ++ .epochBumped streamId stream.epoch :: events := by
  cases change with
  | renew _ _ _ _ _ view log => exact ⟨_, _, by rw [view, Function.update_self], log⟩

/-- The epoch of a grant to a producer was logged by the step that grants it. -/
theorem GrantsProducer.bumps {o : Oracle} {s : State} {op : Op} {streamId : UInt32} {epoch : UInt64}
    (grants : GrantsProducer o s op streamId epoch) :
    .epochBumped streamId epoch ∈ newEvents s (step o s op) := by
  obtain ⟨request, response, body, result, rfl, producer, offered, ok, carried, stream, same⟩ := grants
  change _ ∈ newEvents s (handleAttach o request s).2 at offered
  change _ ∈ newEvents s (handleAttach o request s).2
  have unsaid {event : Event} (silent : event.silent) : event ≠ .offered (.attachResponse response) result := by
    rintro rfl
    exact silent
  rcases run : (grantAttach o request).exec s with ⟨rejection | grant, s'⟩
  · obtain ⟨early, earlyLog, quiet⟩ := grantAttach_silent run
    have refused : World.Grows (fun event => event ≠ .offered (.attachResponse response) result) s'.world
        (sendAttachRefused o request.correlationId rejection.code rejection.message s'.world).2 :=
      sendAttachRefused_grows fun other result' empty same => by
        cases same
        rw [carried] at empty
        cases empty
    obtain ⟨late, lateLog, other⟩ := refused.log
    rw [handleAttach_error run, newEvents, lateLog, earlyLog, List.append_assoc, List.drop_left] at offered
    rcases List.mem_append.mp offered with inEarly | inLate
    · exact absurd rfl (unsaid (quiet _ inEarly))
    · exact absurd rfl (other _ inLate)
  · obtain ⟨admission, target, m, r, place, granted⟩ := grantAttach_ok run
    obtain ⟨found, -⟩ := granted.active
    rw [← place] at found
    obtain ⟨inside, named⟩ := findStream_inside found
    obtain ⟨refound, core⟩ := announce_keeps (o := o) grant.requireHugepages found
    have renewed : Change o (.renew target) m r := by
      cases granted.renews with
      | kept _ consumer =>
          have asked := granted.admitted.role
          rw [producer] at asked
          exact absurd (Option.some.inj asked).symm consumer
      | renewed _ _ _ _ _ change => exact change target granted.found
    obtain ⟨viewed, events, view, log⟩ := renewed.renewed
    have shows : (s'.streamAt grant.index).epoch = viewed.epoch := by
      rw [view_found granted.refound] at view
      rw [State.streamAt, granted.streams, place, ← Option.some.inj view, StreamState.core_epoch,
        ← (StreamState.claim_epoch (r.streamAt admission.index) grant.lease).1]
      simp [(findStream_inside granted.refound).1]
    have answered : World.Grows (fun event => event = .offered (.attachResponse response) result →
        streamId = target ∧ epoch = viewed.epoch)
        (s'.announce o grant.index grant.requireHugepages).world
        (sendAttachGranted o (s'.announce o grant.index grant.requireHugepages).config request.correlationId
          ((s'.announce o grant.index grant.requireHugepages).streamAt grant.index) grant.lease
          grant.requireHugepages (s'.announce o grant.index grant.requireHugepages).world).2 := by
      refine sendAttachGranted_grows fun other body' position result' carried' encoded said => ?_
      cases said
      rw [carried] at carried'
      cases carried'
      obtain ⟨id, number⟩ := encodeAttachBody_epoch encoded
      rw [← stream, ← same, id, number]
      refine ⟨(findStream_inside refound).2, ?_⟩
      rw [← shows, ← StreamState.core_epoch, core, StreamState.core_epoch]
    obtain ⟨atNs, grantLog, -⟩ := granted.log
    obtain ⟨early, earlyLog, quiet⟩ := grantAttach_silent run
    obtain ⟨middle, middleLog, announces⟩ := (announce_log o s' grant.index grant.requireHugepages).log
    obtain ⟨late, lateLog, names⟩ := answered.log
    have split : early = .epochBumped target viewed.epoch :: events ++ [.leaseGranted grant.lease atNs] := by
      rw [grantLog, log, granted.checks.silent, List.append_assoc] at earlyLog
      exact (List.append_cancel_left earlyLog).symm
    have grown : (handleAttach o request s).2.world.log = s.world.log ++ (early ++ middle ++ late) := by
      rw [handleAttach_ok run, lateLog, middleLog, earlyLog]
      simp only [List.append_assoc]
    rw [newEvents, grown, List.drop_left] at offered ⊢
    rw [List.mem_append, List.mem_append] at offered
    rcases offered with (inEarly | inMiddle) | inLate
    · exact absurd rfl (unsaid (quiet _ inEarly))
    · obtain ⟨announce, result', said⟩ := announces _ inMiddle
      cases said
    · obtain ⟨rfl, rfl⟩ := names _ inLate rfl
      rw [split]
      simp

theorem mem_epochs {streamId : UInt32} {epoch : UInt64} {log : List Event}
    (member : .epochBumped streamId epoch ∈ log) : epoch ∈ log.filterMap (Event.bumped streamId) := by
  rw [List.mem_filterMap]
  exact ⟨_, member, if_pos rfl⟩

/--
With readings of the clock below 2^63 the epochs of every stream rise along a run of fewer than 2^63
steps, and so do the epochs of the grants to its producers.
-/
theorem run_epochs_rise (o : Oracle) (config : Config) (started : Bool) (ops : List Op)
    (early : ∀ call, (o.clock call).toNat < 2 ^ 63) (short : ops.length < 2 ^ 63) :
    EpochsRise o (boot o config started) ops := by
  have rises (first rest : List Op) (split : ops = first ++ rest) :
      (∀ streamId, (epochs streamId (run o (boot o config started) first).world.log).getLast? =
        some ((((run o (boot o config started) first).view streamId).map StreamState.epoch).getD 0)) ∧
      ∀ streamId, (epochs streamId (run o (boot o config started) first).world.log).Pairwise (· < ·) := by
    rw [split, List.length_append] at short
    obtain ⟨past, -, risen, -, counted⟩ := run_risen early config started first (by omega)
    refine ⟨risen.current, fun streamId => risen.rising streamId ?_⟩
    have bound := counted streamId
    omega
  have later (first rest : List Op) :
      Later (run o (boot o config started) first) (run o (boot o config started) (first ++ rest)) := by
    rw [run_append]
    exact run_later (run_tidy (boot_tidy o config started) first) rest
  refine ⟨fun first rest split => (rises first rest split).1, fun first rest split streamId stream known => ?_,
    (rises ops [] (by simp)).2, fun first one middle two rest split streamId epoch epoch' grant grant' => ?_⟩
  · subst split
    obtain ⟨-, grown, kept⟩ := later first rest
    obtain ⟨shown, -⟩ := rises first rest rfl
    obtain ⟨shown', rising⟩ := rises (first ++ rest) [] (by simp)
    have still := kept streamId (by simp [known])
    obtain ⟨stream', known'⟩ := Option.ne_none_iff_exists'.mp still
    refine ⟨stream', known', ?_⟩
    have last := shown streamId
    have last' := shown' streamId
    rw [known, Option.map_some, Option.getD_some] at last
    rw [known', Option.map_some, Option.getD_some] at last'
    obtain ⟨front, same⟩ := List.getLast?_eq_some_iff.mp last'
    obtain ⟨events, log⟩ := grown
    have member : stream.epoch ∈ epochs streamId (run o (boot o config started) (first ++ rest)).world.log := by
      rw [← log, epochs, List.filterMap_append, ← List.cons_append, ← epochs]
      exact List.mem_append_left _ (List.mem_of_getLast? last)
    have order := rising streamId
    rw [same] at member order
    rcases List.mem_append.mp member with inFront | isLast
    · exact UInt64.le_of_lt ((List.pairwise_append.mp order).2.2 _ inFront _ (by simp))
    · rw [List.mem_singleton.mp isLast]
      exact UInt64.le_refl _
  · subst split
    obtain ⟨-, rising⟩ := rises (first ++ one :: middle ++ [two]) rest (by simp)
    have once := (later (first ++ [one]) middle).log
    have again := (later (first ++ one :: middle) [two]).log
    rw [List.append_assoc, List.singleton_append] at once
    obtain ⟨events, grown⟩ := again
    have listed : epoch ∈ (run o (boot o config started) (first ++ one :: middle)).world.log.filterMap
        (Event.bumped streamId) := by
      have bumped := List.mem_of_mem_drop grant.bumps
      rw [run_append, run_cons, run_nil] at once
      exact mem_epochs (once.subset bumped)
    have added : epoch' ∈ events.filterMap (Event.bumped streamId) := by
      have bumped := grant'.bumps
      have last : run o (boot o config started) (first ++ one :: middle ++ [two]) =
          step o (run o (boot o config started) (first ++ one :: middle)) two := by
        rw [run_append _ _ _ [two], run_cons, run_nil]
      rw [newEvents, ← last, ← grown, List.drop_left] at bumped
      exact mem_epochs bumped
    have order := (List.pairwise_cons.mp (rising streamId)).2
    rw [← grown, List.filterMap_append] at order
    exact (List.pairwise_append.mp order).2.2 epoch listed epoch' added

/-- The second grant of this run has a greater epoch, although the clock stands still. -/
theorem run_epochs_rise_plain :
    EpochsRise plainOracle (boot plainOracle plainConfig false) [.attach (plainRequest 1 .producer), .detach
      (plainDetach 6 1 .producer), .attach (plainRequest 1 .producer)] :=
  run_epochs_rise plainOracle plainConfig false _ (fun _ => (by decide : (100 : UInt64).toNat < 2 ^ 63)) (by decide)

end TensorPool.Driver
