/-
This file proves that the producer of a stream is the holder of its only producer lease.
-/

import TensorPool.Driver.Book

namespace TensorPool.Driver

/-- What every reachable state satisfies after the changes of its past. -/
structure Orderly (past : List Label) (s : State) : Prop where
  tidy : Tidy s
  numbered : Numbered (past.countP Label.draws) s
  vacant : ∀ streamId stream, s.view streamId = some stream → stream.producerLeaseId = 0 →
    stream.producerClientId = 0
  named : ∀ lease ∈ s.leases, lease.clientId ≠ 0 ∧ lease.nodeId ≠ nullU32
  book : past.countP Label.draws < 2 ^ 64 → s.book.Sound

/-- A new driver knows its streams without epochs and producers. -/
theorem init_view {config : Config} {streamId : UInt32} {stream : StreamState}
    (known : (init config).view streamId = some stream) :
    stream.epoch = 0 ∧ stream.producerLeaseId = 0 ∧ stream.producerClientId = 0 := by
  obtain ⟨index, -, rfl⟩ := view_eq_some.mp known
  exact init_blank config index

/-- A new driver is orderly. -/
theorem init_orderly (config : Config) : Orderly [] (init config) where
  tidy := init_tidy config
  numbered := init_numbered config
  vacant streamId stream known _ := (init_view known).2.2
  named lease member := by cases member
  book _ := by
    have empty : (init config).book = ⟨[], fun _ => none⟩ := by
      unfold State.book
      congr 1
      funext streamId
      rcases known : (init config).view streamId with _ | stream
      · rfl
      · rw [Option.bind_some, StreamState.holder, if_pos (init_view known).2.1]
    rw [empty]
    exact Ledger.Book.empty_sound

/-- The viewed streams after a change come from those before it. -/
theorem vacant_update {view : UInt32 → Option StreamState} {streamId : UInt32} {stream : Option StreamState}
    (old : ∀ streamId stream, view streamId = some stream → stream.producerLeaseId = 0 →
      stream.producerClientId = 0)
    (new : ∀ written, stream = some written → written.producerLeaseId = 0 → written.producerClientId = 0) :
    ∀ other written, Function.update view streamId stream other = some written →
      written.producerLeaseId = 0 → written.producerClientId = 0 := by
  intro other written known free
  by_cases here : other = streamId
  · rw [here, Function.update_self] at known
    exact new written known free
  · rw [Function.update_of_ne here] at known
    exact old other written known free

/-- The identifiers in the table were granted, so a fresh one is not among them. -/
theorem Numbered.fresh_lease {drawn : Nat} {s : State} (numbered : Numbered drawn s) {seeded : UInt64}
    (isSeed : Seeded s.leaseCounter seeded) (few : drawn + 1 < 2 ^ 64) :
    increment seeded ∉ s.leases.map Lease.leaseId := by
  intro member
  obtain ⟨lease, present, same⟩ := List.mem_map.mp member
  obtain ⟨entry, inLog, identity⟩ := numbered.recorded lease present
  exact numbered.fresh isSeed few
    (List.mem_map.mpr ⟨entry, inLog, (Lease.same_identity identity).1.trans same⟩)

/-- A stream without a producer lease names no producer after any change. -/
theorem vacant_change {o : Oracle} {label : Label} {s s' : State} (change : Change o label s s')
    (vacant : ∀ streamId stream, s.view streamId = some stream → stream.producerLeaseId = 0 →
      stream.producerClientId = 0) :
    ∀ streamId stream, s'.view streamId = some stream → stream.producerLeaseId = 0 →
      stream.producerClientId = 0 := by
  cases change with
  | talk _ view => exact view ▸ vacant
  | provision _ _ view =>
      rw [view]
      exact vacant_update vacant fun _ written _ => by cases written; rfl
  | renew known _ _ _ _ view =>
      rw [view]
      have held := vacant _ _ known
      exact vacant_update vacant fun _ written free => by cases written; exact held free
  | waste _ _ streams => exact (view_congr streams) ▸ vacant
  | grant known checks _ _ _ _ _ _ view =>
      rw [view]
      refine vacant_update vacant fun _ written free => ?_
      cases written
      obtain ⟨seeded, -, numberOf⟩ := checks.leaseId
      unfold StreamState.claim at free ⊢
      split
      next producer =>
        rw [if_pos producer] at free
        exact absurd (numberOf ▸ free) (increment_ne_zero seeded)
      next consumer =>
        rw [if_neg consumer] at free
        exact vacant _ _ known free
  | finish _ _ _ _ view =>
      rw [view]
      refine vacant_update vacant fun written mapped free => ?_
      obtain ⟨stream, known, rfl⟩ := Option.map_eq_some_iff.mp mapped
      unfold StreamState.release at free ⊢
      split
      · rfl
      next held =>
        rw [if_neg held] at free
        exact vacant _ _ known free
  | extend _ _ _ streams => exact (view_congr streams) ▸ vacant

/-- Each lease has a client and a node after any change. -/
theorem named_change {o : Oracle} {label : Label} {s s' : State} (change : Change o label s s')
    (named : ∀ lease ∈ s.leases, lease.clientId ≠ 0 ∧ lease.nodeId ≠ nullU32) :
    ∀ lease ∈ s'.leases, lease.clientId ≠ 0 ∧ lease.nodeId ≠ nullU32 := by
  cases change with
  | talk quiet => exact quiet.leases ▸ named
  | provision quiet => exact quiet.leases ▸ named
  | renew _ stable => exact stable.2.1 ▸ named
  | waste stable => exact stable.2 ▸ named
  | grant _ checks _ leases =>
      intro lease member
      rw [leases, List.mem_append, List.mem_singleton] at member
      rcases member with old | rfl
      · exact named lease old
      · exact ⟨checks.client.1, checks.node.1⟩
  | finish _ leases =>
      intro lease member
      rw [leases.2, List.mem_append] at member
      refine named lease ?_
      rw [leases.1]
      simp only [List.mem_append, List.mem_cons]
      tauto
  | extend _ leases =>
      intro lease member
      have image : lease.identity ∈ s'.leases.map Lease.identity := List.mem_map_of_mem member
      rw [leases] at image
      obtain ⟨old, present, same⟩ := List.mem_map.mp image
      obtain ⟨-, -, client, node, -⟩ := Lease.same_identity same
      exact client ▸ node ▸ named old present

/-- Every change keeps the state orderly. -/
theorem Orderly.change {o : Oracle} {past : List Label} {label : Label} {s s' : State}
    (orderly : Orderly past s) (change : Change o label s s') : Orderly (past ++ [label]) s' := by
  have drawn : (past ++ [label]).countP Label.draws =
      past.countP Label.draws + if label.draws then 1 else 0 := by
    rw [List.countP_append, List.countP_singleton]
  refine ⟨change.tidy orderly.tidy, drawn ▸ orderly.numbered.change change,
    vacant_change change orderly.vacant, named_change change orderly.named, fun few => ?_⟩
  rw [drawn] at few
  refine (orderly.book (by omega)).steps (change_refines change fun lease member => ?_)
  cases change with
  | grant known checks =>
      rw [List.mem_singleton.mp member]
      obtain ⟨seeded, isSeed, numberOf⟩ := checks.leaseId
      rw [numberOf]
      exact orderly.numbered.fresh_lease isSeed few
  | _ => cases member

/-- A trace keeps the driver orderly. -/
theorem Orderly.trace {o : Oracle} {past labels : List Label} {s s' : State}
    (path : Trace (Change o) labels s s') (orderly : Orderly past s) : Orderly (past ++ labels) s' :=
  path.invariant (I := Orderly) (fun _ _ _ _ orderly change => orderly.change change) past orderly

/-- Every reachable state is orderly, and its past has at most one draw for each attach. -/
theorem run_orderly (o : Oracle) (config : Config) (started : Bool) (ops : List Op) :
    ∃ past, Orderly past (run o (boot o config started) ops) ∧
      past.countP Label.draws ≤ ops.countP Op.attaches := by
  obtain ⟨early, booted, talk⟩ := boot_trace o config started
  obtain ⟨late, path, drawn⟩ := run_trace (o := o) (boot_tidy o config started) ops
  have silent : early.countP Label.draws = 0 := List.countP_eq_zero.mpr fun label member => by
    rw [talk label member]
    simp [Label.draws]
  have orderly := Orderly.trace (booted.append path) (init_orderly config)
  refine ⟨_, orderly, ?_⟩
  rw [List.nil_append, List.countP_append, silent]
  omega

/-- This is the lease that a stream remembers as its producer's. -/
def Lease.holds (lease : Lease) (stream : StreamState) : Prop :=
  lease.leaseId = stream.producerLeaseId ∧ lease.role = .producer ∧
    lease.streamId = stream.streamId ∧ lease.clientId = stream.producerClientId

/-- The lease table and the streams agree about producers. -/
structure ProducerExclusive (s : State) : Prop where
  single : ∀ streamId, (s.leases.filter fun lease =>
    lease.role == .producer && lease.streamId == streamId).length ≤ 1
  held : ∀ stream ∈ s.streams, stream.producerLeaseId ≠ 0 ↔ ∃ lease ∈ s.leases, lease.holds stream
  free : ∀ stream ∈ s.streams, (¬ ∃ lease ∈ s.leases, lease.holds stream) →
    stream.producerLeaseId = 0 ∧ stream.producerClientId = 0

/-- A list without repetition whose elements are all the same has at most one element. -/
theorem length_le_one_of_unique {α : Type} {list : List α} (distinct : list.Nodup)
    (unique : ∀ left ∈ list, ∀ right ∈ list, left = right) : list.length ≤ 1 := by
  rcases list with _ | ⟨first, _ | ⟨second, rest⟩⟩
  · exact Nat.zero_le _
  · exact Nat.le_refl _
  · have same := unique first (by simp) second (by simp)
    simp [same] at distinct

/-- A sound ledger has at most one producer for each stream. -/
theorem producers_le_one {s : State} (sound : s.book.Sound) (streamId : UInt32) :
    (s.leases.filter fun lease => lease.role == .producer && lease.streamId == streamId).length ≤ 1 := by
  have ids : (s.leases.map Lease.leaseId).Nodup := by
    have distinct := sound.ids
    rw [State.book, List.map_map] at distinct
    exact distinct
  refine length_le_one_of_unique ((List.Nodup.of_map Lease.leaseId ids).filter _) fun left inLeft right inRight => ?_
  simp only [List.mem_filter, Bool.and_eq_true, beq_iff_eq] at inLeft inRight
  have same := sound.exclusive (List.mem_map_of_mem inLeft.1) (List.mem_map_of_mem inRight.1)
    (by simpa [Lease.entry] using inLeft.2.1) (by simpa [Lease.entry] using inRight.2.1)
    (inLeft.2.2.trans inRight.2.2.symm)
  exact List.inj_on_of_nodup_map ids inLeft.1 inRight.1 (congrArg Ledger.Entry.id same)

/-- The holder in a sound ledger is the producer's lease that a viewed stream remembers. -/
theorem holds_iff {s : State} (sound : s.book.Sound) {streamId : UInt32} {stream : StreamState}
    (known : s.view streamId = some stream) :
    stream.producerLeaseId ≠ 0 ↔ ∃ lease ∈ s.leases, lease.holds stream := by
  have named := (view_identity known).2
  have held := sound.held streamId stream.producerLeaseId stream.producerClientId
  change (s.view streamId).bind StreamState.holder = _ ↔ _ at held
  rw [known, Option.bind_some, StreamState.holder] at held
  constructor
  · intro nonzero
    rw [if_neg nonzero] at held
    obtain ⟨entry, inBook, exclusive, key, id, client⟩ := held.mp rfl
    obtain ⟨lease, present, rfl⟩ := List.mem_map.mp inBook
    exact ⟨lease, present, id, by simpa [Lease.entry] using exclusive, key.trans named.symm, client⟩
  · rintro ⟨lease, present, id, producer, key, client⟩ zero
    have holder := held.mpr ⟨lease.entry, List.mem_map_of_mem present, by simp [Lease.entry, producer],
      key.trans named, id, client⟩
    rw [if_pos zero] at holder
    cases holder

/-- The identifiers of granted leases are numbers of the counter, which is never zero. -/
theorem Numbered.nonzero {drawn : Nat} {s : State} (numbered : Numbered drawn s) :
    ∀ lease ∈ s.leases, lease.leaseId ≠ 0 := by
  intro lease present
  obtain ⟨entry, inLog, identity⟩ := numbered.recorded lease present
  obtain ⟨seed, nonzero, -, issued⟩ := numbered.numbers
  obtain ⟨number, -, -, numberOf⟩ := issued entry inLog
  rw [← (Lease.same_identity identity).1, numberOf]
  exact leaseNumber_ne_zero nonzero number

/-- An orderly state below one round of identifiers is exclusive. -/
theorem exclusive_of_orderly {past : List Label} {s : State} (orderly : Orderly past s)
    (few : past.countP Label.draws < 2 ^ 64) : ProducerExclusive s := by
  have sound := orderly.book few
  have numbered := orderly.numbered.nonzero
  have held (stream : StreamState) (member : stream ∈ s.streams) :
      (stream.producerLeaseId ≠ 0 ↔ ∃ lease ∈ s.leases, lease.holds stream) ∧
        (stream.producerLeaseId = 0 → stream.producerClientId = 0) := by
    obtain ⟨index, inside, rfl⟩ := List.getElem_of_mem member
    rw [← streamAt_eq inside]
    by_cases found : findStream s.streams (s.streamAt index).streamId = some index
    · have free := orderly.vacant _ _ (view_found found)
      have held := holds_iff sound (view_found found)
      exact ⟨held, free⟩
    · obtain ⟨-, free, client⟩ := orderly.tidy index inside found
      refine ⟨⟨fun nonzero => absurd free nonzero, ?_⟩, fun _ => client⟩
      rintro ⟨lease, present, id, -⟩
      exact absurd (id.trans free) (numbered lease present)
  refine ⟨producers_le_one sound, fun stream member => (held stream member).1, fun stream member empty => ?_⟩
  have free : stream.producerLeaseId = 0 := by
    by_contra nonzero
    exact empty ((held stream member).1.mp nonzero)
  exact ⟨free, (held stream member).2 free⟩

/-- A stream of a sound ledger has a producer exactly when the lease of one is in the table. -/
theorem held_iff_producer {s : State} (sound : s.book.Sound) {streamId : UInt32} {stream : StreamState}
    (known : s.view streamId = some stream) :
    stream.producerLeaseId ≠ 0 ↔ ∃ lease ∈ s.leases, lease.role = .producer ∧ lease.streamId = streamId := by
  have named := (view_identity known).2
  constructor
  · intro held
    obtain ⟨lease, present, -, producer, same, -⟩ := (holds_iff sound known).mp held
    exact ⟨lease, present, producer, same.trans named⟩
  · rintro ⟨lease, present, producer, same⟩ free
    have empty : s.book.holder streamId = none := by
      change (s.view streamId).bind StreamState.holder = none
      rw [known, Option.bind_some, StreamState.holder, if_pos free]
    have exclusive : lease.entry.exclusive = true := by
      rw [Lease.entry, producer]
      rfl
    exact (sound.free_iff streamId).mp empty lease.entry (List.mem_map_of_mem present) exclusive same

/-- The stream phase keeps the state orderly without a draw. -/
theorem Provides.orderly {past : List Label} {request : AttachRequest} {s s' : State} (o : Oracle)
    (provides : Provides request s s')
    (orderly : Orderly past s) :
    ∃ later, Orderly later s' ∧ later.countP Label.draws = past.countP Label.draws := by
  obtain ⟨labels, path, calm⟩ := provides.trace (o := o)
  have silent : labels.countP Label.draws = 0 := List.countP_eq_zero.mpr fun label member => by
    have kind := calm label member
    cases label <;> simp_all [Label.calm, Label.draws]
  exact ⟨past ++ labels, Orderly.trace path orderly, by rw [List.countP_append, silent, Nat.add_zero]⟩

/--
A request is refused for the producer of its stream exactly when it passes the checks before and
the lease of such a producer is in the table.
-/
def RefusesHeld (o : Oracle) (s : State) : Prop :=
  ∀ request, attachRefusal o request s = some producerPresent ↔
    (attachAdmit request).exec s = (.ok .producer, s) ∧ ∃ index m,
      (attachStream o request).exec s = (.ok index, m) ∧
      ∃ lease ∈ s.leases, lease.role = .producer ∧ lease.streamId = (m.streamAt index).streamId

/-- An orderly driver refuses a second producer while its counter has not gone around. -/
theorem refusesHeld_of_orderly {past : List Label} {s : State} (o : Oracle) (orderly : Orderly past s)
    (few : past.countP Label.draws < 2 ^ 64) : RefusesHeld o s := by
  intro request
  rw [producerPresent_iff]
  apply and_congr_right
  intro admitted
  apply exists_congr
  intro index
  apply exists_congr
  intro m
  apply and_congr_right
  intro provided
  obtain ⟨provides, -⟩ := attachStream_provides provided
  obtain ⟨⟨streamId, found⟩, -⟩ := attachStream_ok provided
  obtain ⟨later, kept, drawn⟩ := provides.orderly o orderly
  have named := (findStream_inside found).2
  have held := held_iff_producer (kept.book (drawn ▸ few)) (view_found found)
  rw [provides.leases] at held
  rw [named]
  exact held

/-- Below one round of identifiers a stream has at most one producer, which alone blocks another. -/
theorem run_exclusive (o : Oracle) (config : Config) (started : Bool) (ops : List Op)
    (few : ops.countP Op.attaches < 2 ^ 64) :
    ProducerExclusive (run o (boot o config started) ops) ∧
      RefusesHeld o (run o (boot o config started) ops) := by
  obtain ⟨past, orderly, drawn⟩ := run_orderly o config started ops
  have short := Nat.lt_of_le_of_lt drawn few
  exact ⟨exclusive_of_orderly orderly short, refusesHeld_of_orderly o orderly short⟩

/-- A profile, a configuration and an environment for runs on fixed inputs. -/
def plainProfile : Profile where
  name := "plain"
  headerNslots := 8
  pools := [{ poolId := 1, strideBytes := 64 }]

def plainConfig : Config where
  shmBaseDir := "/dev/shm"
  shmNamespace := "default"
  requireHugepages := false
  allowDynamicStreams := false
  defaultProfile := ""
  announcePeriodMs := 1000
  leaseKeepaliveIntervalMs := 1000
  leaseExpiryGraceIntervals := 3
  epochGcEnabled := false
  epochGcOnStartup := false
  epochGcKeep := 2
  epochGcMinAgeNs := 0
  nodeIdReuseCooldownMs := 0
  streamIdRanges := []
  profiles := [plainProfile]
  streams := [{ streamId := 1, profile := some plainProfile }]

/-- This environment always succeeds, but it grows tables only in its first calls. -/
def plainOracle : Oracle where
  clock := fun _ => 100
  random := fun _ => 5
  reallocates := fun call => call < 40
  writesRegion := fun _ => true
  offer := fun _ => 1
  hugepagesDir := fun _ => none
  listing := fun _ => none
  modified := fun _ => none
  removesDir := fun _ => true
  user := none

def plainRequest (clientId : UInt32) (role : Role) : AttachRequest where
  correlationId := 0
  streamId := 1
  clientId := clientId
  role := some role
  expectedLayoutVersion := 0
  publishMode := none
  requireHugepages := none
  desiredNodeId := clientId

theorem run_exclusive_plain :
    [Op.attach (plainRequest 1 .producer), .attach (plainRequest 2 .producer)].countP Op.attaches < 2 ^ 64 ∧
      ProducerExclusive (run plainOracle (boot plainOracle plainConfig false)
        [.attach (plainRequest 1 .producer), .attach (plainRequest 2 .producer)]) ∧
      RefusesHeld plainOracle (run plainOracle (boot plainOracle plainConfig false)
        [.attach (plainRequest 1 .producer), .attach (plainRequest 2 .producer)]) :=
  ⟨by decide, run_exclusive plainOracle plainConfig false _ (by decide)⟩

def plainDetach (leaseId : UInt64) (clientId : UInt32) (role : Role) : DetachRequest where
  correlationId := 0
  leaseId := leaseId
  streamId := 1
  clientId := clientId
  role := some role

def plainLease (leaseId : UInt64) (clientId : UInt32) (role : Role) : Lease :=
  newLease plainConfig (plainRequest clientId role) role 1 100 leaseId clientId

/-- The table holds these leases and the stream is in this state. -/
def plainState (leases : List Lease) (stream : StreamState) (counter : UInt64) (w : World) : State :=
  { init plainConfig with
    streams := [stream]
    leases := leases
    leaseCapacity := 8
    leaseCounter := counter
    world := w }

def plainStream (epoch createdNs announcedNs leaseId : UInt64) (clientId : UInt32) : StreamState where
  streamId := 1
  profile := some plainProfile
  epoch := epoch
  epochCreatedNs := createdNs
  lastAnnounceNs := announcedNs
  producerLeaseId := leaseId
  producerClientId := clientId

def plainConsumers : List Lease :=
  (List.range 7).map fun n => plainLease (6 + n.toUInt64) (1 + n.toUInt32) .consumer

/-- Eight consumers fill the table. -/
theorem plain_fill : ∃ w, 40 ≤ w.calls ∧
    run plainOracle (boot plainOracle plainConfig false)
      ((List.range 8).map fun n => .attach (plainRequest (1 + n.toUInt32) .consumer)) =
      plainState (plainConsumers ++ [plainLease 13 8 .consumer]) (plainStream 100 100 100 0 0) 13 w :=
  ⟨(run plainOracle (boot plainOracle plainConfig false)
    ((List.range 8).map fun n => .attach (plainRequest (1 + n.toUInt32) .consumer))).world,
    by decide +kernel, by decide +kernel⟩


/-- The only stream is found. -/
theorem plain_found {stream : StreamState} (named : stream.streamId = 1) : findStream [stream] 1 = some 0 := by
  rw [findStream, if_neg (by decide), List.findIdx?_cons, named]
  rfl

/-- A client is new when neither it nor its node is in the table. -/
def NewClient (leases : List Lease) (clientId : UInt32) : Prop :=
  clientId ≠ 0 ∧ clientId ≠ nullU32 ∧ clientIdInUse leases clientId = false ∧ nodeIdInUse leases clientId = false

instance (leases : List Lease) (clientId : UInt32) : Decidable (NewClient leases clientId) :=
  inferInstanceAs (Decidable (_ ∧ _))

/-- The checks pass for a new client of the plain profile. -/
theorem plain_checks {leases : List Lease} {clientId : UInt32} (stream : StreamState) (counter : UInt64)
    (w : World) (role : Role) (named : stream.streamId = 1) (known : stream.profile = some plainProfile)
    (free : role = .producer → stream.producerLeaseId = 0) (new : NewClient leases clientId) :
    (attachChecks plainOracle (plainRequest clientId role)).exec (plainState leases stream counter w) =
      (.ok ⟨role, 0, false, 100, 100⟩, plainState leases stream counter w.called.called) := by
  obtain ⟨nonzero, desired, client, node⟩ := new
  have pools : stream.poolless = false := by
    rw [StreamState.poolless, known]
    rfl
  exact attachChecks_pass (s := plainState leases stream counter w) rfl nonzero client rfl
    (plain_found named) pools free ⟨rfl, rfl⟩ desired node rfl

/-- A full table refuses a new consumer, but its identifier is spent. -/
theorem plain_refused {leases : List Lease} {stream : StreamState} {clientId : UInt32}
    (named : stream.streamId = 1) (known : stream.profile = some plainProfile) (active : stream.epoch ≠ 0)
    (new : NewClient leases clientId) (full : leases.length = 8) {counter : UInt64} (seeded : counter ≠ 0)
    {w : World} (late : 40 ≤ w.calls) :
    ∃ w', 40 ≤ w'.calls ∧ step plainOracle (plainState leases stream counter w)
      (.attach (plainRequest clientId .consumer)) = plainState leases stream (increment counter) w' := by
  have stuck : plainOracle.reallocates (w.calls + 2) = false :=
    decide_eq_false (show ¬ (w.calls + 2 < 40) by omega)
  have checks := plain_checks stream counter w .consumer named known (fun producer => by cases producer) new
  have refused := grantAttach_exhausted checks active seeded new.2.1 (Nat.le_of_eq full.symm) stuck
  have growth : World.Grows (fun _ => True) w.called.called.called
      (sendAttachRefused plainOracle 0 .internalError "lease allocation failed" w.called.called.called).2 :=
    sendAttachRefused_grows fun _ _ _ => trivial
  refine ⟨_, Nat.le_trans ?_ growth.calls, ?_⟩
  · simp only [World.called_calls]
    omega
  · rw [step, handleAttach, refused]
    rfl

/-- Refused consumers drive the counter as far as one likes. -/
theorem plain_wasted {leases : List Lease} {clientId : UInt32} (stream : StreamState)
    (named : stream.streamId = 1) (known : stream.profile = some plainProfile) (active : stream.epoch ≠ 0)
    (new : NewClient leases clientId) (full : leases.length = 8) {counter : UInt64} (seeded : counter ≠ 0)
    {w : World} (late : 40 ≤ w.calls) (count : Nat) :
    ∃ w', 40 ≤ w'.calls ∧ run plainOracle (plainState leases stream counter w)
      (List.replicate count (.attach (plainRequest clientId .consumer))) =
        plainState leases stream (leaseNumber counter count) w' := by
  induction count with
  | zero => exact ⟨w, late, rfl⟩
  | succ count hypothesis =>
      obtain ⟨middle, later, turned⟩ := hypothesis
      obtain ⟨w', last, refused⟩ :=
        plain_refused named known active new full (leaseNumber_ne_zero seeded count) later
      refine ⟨w', last, ?_⟩
      rw [List.replicate_succ', run_append, turned, run_cons, refused]
      rfl

/-- A detach of an owned lease frees it. -/
theorem plain_detached {leases : List Lease} (stream : StreamState) (counter : UInt64) (w : World)
    {index : Nat} {lease : Lease} {leaseId : UInt64} {clientId : UInt32} {role : Role}
    (named : stream.streamId = 1) (owned : ownedLease leases leaseId 1 clientId role = some (index, lease)) :
    ∃ w', step plainOracle (plainState leases stream counter w) (.detach (plainDetach leaseId clientId role)) =
      plainState (leases.eraseIdx index) (stream.release lease) counter w' := by
  refine ⟨(step plainOracle (plainState leases stream counter w)
    (.detach (plainDetach leaseId clientId role))).world, ?_⟩
  unfold step handleDetach
  dsimp only [plainDetach, plainState]
  rw [owned, plain_found named]
  dsimp only
  rw [endLease, recordNodeIdCooldown_off rfl]
  rfl

/-- The regions of the plain stream have paths in this epoch. -/
def PlainPaths (epoch : UInt64) : Prop :=
  ∀ file ∈ epochFiles (plainStream epoch 0 0 0 0) plainProfile, (buildRegionPath plainOracle plainConfig
    file.streamId file.epoch file.poolId file.regionType).isSome = true

instance (epoch : UInt64) : Decidable (PlainPaths epoch) := inferInstanceAs (Decidable (∀ file ∈ _, _))

/-- A producer of the plain profile is granted with the next epoch. -/
theorem plain_granted {leases : List Lease} {clientId : UInt32} {epoch : UInt64}
    (createdNs announcedNs : UInt64) {counter : UInt64} (w : World) (new : NewClient leases clientId)
    (late : 100 ≤ epoch) (room : leases.length < 8) (seeded : counter ≠ 0) (paths : PlainPaths (epoch + 1)) :
    ∃ createdNs' announcedNs' w', step plainOracle
      (plainState leases (plainStream epoch createdNs announcedNs 0 0) counter w)
        (.attach (plainRequest clientId .producer)) =
      plainState (leases ++ [plainLease (increment counter) clientId .producer])
        (plainStream (epoch + 1) createdNs' announcedNs' (increment counter) clientId) (increment counter) w' := by
  have checks := plain_checks (plainStream epoch createdNs announcedNs 0 0) counter w .producer rfl rfl
    (fun _ => rfl) new
  obtain ⟨createdNs', middle, created⟩ := createShmEpoch_pass (o := plainOracle) (fun _ => rfl)
    (show plainConfig.epochGcEnabled = false from rfl)
    (bumpEpoch plainOracle (plainStream epoch createdNs announcedNs 0 0) w.called.called).2
    (show (plainStream (epoch + 1) createdNs announcedNs 0 0).profile = some plainProfile from rfl) paths
  have bumped : { (bumpEpoch plainOracle (plainStream epoch createdNs announcedNs 0 0) w.called.called).1 with
      requireHugepages := (plainStream epoch createdNs announcedNs 0 0).pages false } =
      plainStream (epoch + 1) createdNs announcedNs 0 0 := by
    have pages : (plainStream epoch createdNs announcedNs 0 0).pages false = false := by
      unfold StreamState.pages
      split <;> rfl
    have next : nextEpoch 100 epoch = epoch + 1 := if_pos late
    rw [pages, bumpEpoch_eq, ← next]
    rfl
  obtain ⟨granted, require, outcome⟩ := grantAttach_pass checks Nat.zero_lt_one
    (Eq.trans (congrArg (createShmEpoch plainOracle plainConfig · _) bumped) created) seeded new.2.1 room
  have answered := handleAttach_ok outcome
  dsimp only at answered
  generalize sendAttachGranted plainOracle _ _ _ _ _ _ = sent at answered
  generalize claimed : (StreamState.claim _ _) = stream at answered
  obtain ⟨announcedNs', stamped⟩ :=
    sendAnnounce_stream plainOracle (init plainConfig).config stream require granted
  refine ⟨createdNs', announcedNs', sent.2, ?_⟩
  change (handleAttach plainOracle (plainRequest clientId .producer) _).2 = _
  rw [answered]
  change plainState (leases ++ [plainLease (increment counter) clientId .producer])
    (sendAnnounce plainOracle (init plainConfig).config stream require granted).1 (increment counter) sent.2 = _
  rw [stamped, ← claimed]
  rfl

/-- The counter comes back to its seed after a round of refused requests. -/
def roundOps : List Op :=
  (List.range 8).map (fun n => .attach (plainRequest (1 + n.toUInt32) .consumer)) ++
    List.replicate (2 ^ 64 - 9) (.attach (plainRequest 9 .consumer)) ++
    [.detach (plainDetach 13 8 .consumer), .attach (plainRequest 9 .producer)]

/-- After a round the first consumer and a new producer have one identifier. -/
theorem round_state : ∃ createdNs announcedNs w,
    run plainOracle (boot plainOracle plainConfig false) roundOps =
      plainState (plainConsumers ++ [plainLease 6 9 .producer]) (plainStream 101 createdNs announcedNs 6 9) 6 w := by
  obtain ⟨first, late, filled⟩ := plain_fill
  have new : NewClient (plainConsumers ++ [plainLease 13 8 .consumer]) 9 := by decide +kernel
  obtain ⟨second, -, wasted⟩ := plain_wasted (plainStream 100 100 100 0 0) rfl rfl (by decide) new rfl
    (show (13 : UInt64) ≠ 0 by decide) late (2 ^ 64 - 9)
  have turned : leaseNumber 13 (2 ^ 64 - 9) = 5 := UInt64.toNat_inj.mp (by
    rw [leaseNumber_toNat (by decide)]
    decide)
  rw [turned] at wasted
  have owned : ownedLease (plainConsumers ++ [plainLease 13 8 .consumer]) 13 1 8 .consumer =
      some (7, plainLease 13 8 .consumer) := by decide +kernel
  obtain ⟨third, detached⟩ := plain_detached (plainStream 100 100 100 0 0) 5 second rfl owned
  obtain ⟨createdNs, announcedNs, last, granted⟩ := plain_granted 100 100 third
    (show NewClient plainConsumers 9 by decide +kernel) (show (100 : UInt64) ≤ 100 by decide) (by decide)
    (show (5 : UInt64) ≠ 0 by decide) (by decide +kernel)
  refine ⟨createdNs, announcedNs, last, ?_⟩
  rw [roundOps, run_append, run_append, filled, wasted, run_cons, detached, run_cons]
  exact granted

/-- The end of the old lease frees the stream of the new producer, which then gets a second one. -/
theorem not_exclusive_after_round : ¬ ProducerExclusive (run plainOracle (boot plainOracle plainConfig false)
    (roundOps ++ [.detach (plainDetach 6 1 .consumer), .attach (plainRequest 10 .producer)])) := by
  obtain ⟨createdNs, announcedNs, w, turned⟩ := round_state
  have owned : ownedLease (plainConsumers ++ [plainLease 6 9 .producer]) 6 1 1 .consumer =
      some (0, plainLease 6 1 .consumer) := by decide +kernel
  obtain ⟨first, detached⟩ :=
    plain_detached (plainStream 101 createdNs announcedNs 6 9) 6 w rfl owned
  obtain ⟨createdNs', announcedNs', last, granted⟩ := plain_granted createdNs announcedNs first
    (show NewClient ((plainConsumers ++ [plainLease 6 9 .producer]).eraseIdx 0) 10 by decide +kernel)
    (show (100 : UInt64) ≤ 101 by decide) (by decide) (show (6 : UInt64) ≠ 0 by decide) (by decide +kernel)
  have final : (run plainOracle (boot plainOracle plainConfig false)
      (roundOps ++ [.detach (plainDetach 6 1 .consumer), .attach (plainRequest 10 .producer)])).leases =
      (plainConsumers ++ [plainLease 6 9 .producer]).eraseIdx 0 ++ [plainLease 7 10 .producer] := by
    rw [run_append, turned, run_cons, detached, run_cons]
    exact congrArg State.leases granted
  intro exclusive
  have single := exclusive.single 1
  rw [final] at single
  exact absurd single (by decide +kernel)

end TensorPool.Driver
