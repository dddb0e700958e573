/-
This file proves that timely keepalives keep a lease.
-/

import TensorPool.Driver.Renewal
import TensorPool.Library.Heartbeat
import TensorPool.Protocol.Isolation

namespace TensorPool.Protocol

open Scan Heartbeat
open DriverClient

/--
A client with its lease, the driver, and the keepalives on their way, the oldest one first, with the times of their
sending. The last field is history: the operations of the driver.
-/
structure Watch where
  driver : Driver.State
  client : Client
  flying : List (UInt64 × List UInt8)
  nowNs : UInt64
  askedNs : UInt64
  ops : List Driver.Op

/-- What happens at a time: the client's turn in `tp_client_do_work`, or an operation of the driver. -/
inductive Tick where
  | turn (nowNs : UInt64) (result : Int)
  | hear (nowNs : UInt64)
  | expire (nowNs : UInt64)
  | other (nowNs : UInt64) (op : Driver.Op)
  deriving DecidableEq, Repr

def Tick.nowNs : Tick → UInt64
  | .turn nowNs _ => nowNs
  | .hear nowNs => nowNs
  | .expire nowNs => nowNs
  | .other nowNs _ => nowNs

namespace Watch

def operate (o : Driver.Oracle) (watch : Watch) (nowNs : UInt64) (op : Driver.Op) : Watch :=
  { watch with driver := Driver.step o watch.driver op, nowNs := nowNs, ops := watch.ops ++ [op] }

def turn (context : Context) (watch : Watch) (nowNs : UInt64) (result : Int) : Watch :=
  let (turn, client) := watch.client.turn context nowNs result
  { watch with
    client
    flying :=
      match turn with
      | .offered _ => watch.flying ++ [(nowNs, sendKeepalive (keepaliveOf watch.client) nowNs)]
      | _ => watch.flying
    nowNs := nowNs
    askedNs := nowNs }

def step (o : Driver.Oracle) (context : Context) (watch : Watch) : Tick → Option Watch
  | .turn nowNs result => some (watch.turn context nowNs result)
  | .hear nowNs =>
      match watch.flying with
      | [] => none
      | (_, bytes) :: rest =>
          match onControlFragment bytes with
          | value op => some ({ watch with flying := rest }.operate o nowNs op)
          | _ => none
  | .expire nowNs => some (watch.operate o nowNs .expire)
  | .other nowNs op => some (watch.operate o nowNs op)

/-- The times of the keepalives on their way. -/
def sent (watch : Watch) : List Nat := watch.flying.map fun packet => packet.1.toNat

/-- The driver reads the time of the tick, no offer fails, and the other operations spare the lease. -/
def calm (o : Driver.Oracle) (lease : Driver.Lease) (watch : Watch) : Tick → Bool
  | .turn _ result => 0 ≤ result
  | .hear nowNs => o.clock watch.driver.world.calls == nowNs
  | .expire nowNs => o.clock watch.driver.world.calls == nowNs
  | .other _ op => op.spares lease

/-- The time goes on, no turn and no keepalive is overdue, and the time ends before the horizon. -/
def timely (o : Driver.Oracle) (timing : Timing) (horizon : Nat) (lease : Driver.Lease) (watch : Watch)
    (tick : Tick) :
    Bool :=
  watch.nowNs ≤ tick.nowNs && tick.nowNs.toNat < horizon &&
    tick.nowNs.toNat ≤ watch.askedNs.toNat + timing.pause &&
    (watch.sent.head?.all fun sent => decide (tick.nowNs.toNat ≤ sent + timing.delay)) && watch.calm o lease tick

/-- The client and the driver agree about the time of a keepalive, and there is time enough for it. -/
structure Fair (timing : Timing) (horizon : Nat) (context : Context) (config : Driver.Config) : Prop where
  positive : 0 < timing.interval
  interval : timing.interval = context.keepaliveIntervalNs.toNat
  grace : 0 < context.leaseExpiryGraceIntervals.toUInt64
  window : timing.window = (Driver.leaseExpiry config 0).toNat
  wide : timing.interval + timing.pause + timing.delay ≤ timing.window
  own : timing.interval + timing.pause ≤
    (context.keepaliveIntervalNs * context.leaseExpiryGraceIntervals.toUInt64).toNat
  room : horizon + timing.window < 2 ^ 64
  ownRoom : horizon + (context.keepaliveIntervalNs * context.leaseExpiryGraceIntervals.toUInt64).toNat < 2 ^ 64

/-- The client was granted the lease at the time `askedNs`, and it has sent no keepalive for it. -/
structure Begins (timing : Timing) (lease : Driver.Lease) (watch : Watch) : Prop where
  present : lease ∈ watch.driver.leases
  expiry : watch.askedNs.toNat + timing.window ≤ lease.expiryNs.toNat
  holds : Matches watch.client lease
  own : watch.client.leaseExpiryTimestampNs = lease.expiryNs
  last : watch.client.lastKeepaliveNs ≤ watch.askedNs
  order : watch.askedNs ≤ watch.nowNs
  silent : watch.flying = []

/-- A keepalive on its way names the lease. -/
structure Names (lease : Driver.Lease) (nowNs : UInt64) (packet : UInt64 × List UInt8) : Prop where
  order : packet.1 ≤ nowNs
  names : ∃ request clientTimestampNs, packet.2 = sendKeepalive request clientTimestampNs ∧
    Driver.names request.leaseId request.streamId request.clientId (getRole request.role) lease = true

/-- What holds after each tick. -/
structure Kept (o : Driver.Oracle) (config : Driver.Config) (started : Bool) (timing : Timing) (lease : Driver.Lease)
    (watch : Watch) (line : Line) : Prop where
  driver : watch.driver = Driver.run o (Driver.boot o config started) watch.ops
  steady : Steady timing line
  asked : line.asked = watch.askedNs.toNat
  flying : line.flying = watch.sent
  last : watch.client.lastKeepaliveNs.toNat ≤ line.beaten
  beaten : line.beaten ≤ watch.nowNs.toNat
  present : ∃ current ∈ watch.driver.leases, current.identity = lease.identity ∧ line.limit ≤ current.expiryNs.toNat
  holds : Matches watch.client lease
  own : line.beaten + timing.interval + timing.pause ≤ watch.client.leaseExpiryTimestampNs.toNat
  names : ∀ packet ∈ watch.flying, Names lease watch.nowNs packet

variable {o : Driver.Oracle} {config : Driver.Config} {started : Bool} {timing : Timing} {horizon : Nat}
  {context : Context} {lease : Driver.Lease} {watch watch' : Watch} {line : Line} {nowNs : UInt64}

theorem getRole_ofCode (role : Driver.Role) : getRole role.code = some role := by
  cases role <;> rfl

/-- The keepalive of a client names the lease that the client holds. -/
theorem names_keepaliveOf {client : Client} (holds : Matches client lease) :
    Driver.names (keepaliveOf client).leaseId (keepaliveOf client).streamId (keepaliveOf client).clientId
      (getRole (keepaliveOf client).role) lease = true := by
  simp [Driver.names, keepaliveOf, holds.leaseId, holds.streamId, holds.clientId, holds.role, getRole_ofCode]

/-- At the start the last keepalive counts as sent and heard when the lease was granted. -/
theorem Begins.kept (begins : Begins timing lease watch)
    (ran : watch.driver = Driver.run o (Driver.boot o config started) watch.ops) (positive : 0 < timing.interval)
    (wide : timing.interval + timing.pause + timing.delay ≤ timing.window) :
    Kept o config started timing lease watch
      { asked := watch.askedNs.toNat
        beaten := watch.askedNs.toNat
        flying := []
        heard := watch.askedNs.toNat
        limit := watch.askedNs.toNat + timing.window } where
  driver := ran
  steady := ⟨List.isChain_singleton _, rfl, Nat.lt_add_of_pos_right positive, Nat.le_refl _⟩
  asked := rfl
  flying := by rw [sent, begins.silent, List.map_nil]
  last := UInt64.le_iff_toNat_le.mp begins.last
  beaten := UInt64.le_iff_toNat_le.mp begins.order
  present := ⟨lease, begins.present, rfl, begins.expiry⟩
  holds := begins.holds
  own := by
    have expiry := begins.expiry
    rw [begins.own]
    show watch.askedNs.toNat + timing.interval + timing.pause ≤ lease.expiryNs.toNat
    omega
  names := by simp [begins.silent]

/-- A timely tick keeps the line of the client and the driver timely. -/
theorem Kept.timely (kept : Kept o config started timing lease watch line) {tick : Tick}
    (met : watch.timely o timing horizon lease tick = true) :
    Timely timing line.asked line.flying tick.nowNs.toNat := by
  simp only [Watch.timely, Bool.and_eq_true, decide_eq_true_iff, Option.all_eq_true] at met
  obtain ⟨⟨⟨-, pause⟩, delay⟩, -⟩ := met
  rw [kept.asked, kept.flying]
  exact ⟨pause, delay⟩

/-- An operation of the driver keeps what is known of the client. -/
theorem Kept.operates (kept : Kept o config started timing lease watch line) (order : watch.nowNs ≤ nowNs)
    {op : Driver.Op} (present : ∃ current ∈ (Driver.step o watch.driver op).leases,
      current.identity = lease.identity ∧ line.limit ≤ current.expiryNs.toNat) :
    Kept o config started timing lease (watch.operate o nowNs op) line := by
  have later := UInt64.le_iff_toNat_le.mp order
  refine { kept with driver := ?_, beaten := Nat.le_trans kept.beaten later, present := present, names := ?_ }
  · rw [operate, Driver.run_append, ← kept.driver]
    rfl
  · intro packet member
    have names := kept.names packet member
    exact { names with order := UInt64.le_trans names.order order }

/-- A client that is asked in time rests or sends a keepalive; it never gives its lease up. -/
theorem Kept.turns (kept : Kept o config started timing lease watch line)
    (fair : Fair timing horizon context config) (timely : Timely timing line.asked line.flying nowNs.toNat)
    (order : watch.nowNs ≤ nowNs) (before : nowNs.toNat < horizon) (nonzero : lease.leaseId ≠ 0) {result : Int}
    (taken : 0 ≤ result) :
    ∃ line', Kept o config started timing lease (watch.turn context nowNs result) line' := by
  have later := UInt64.le_iff_toNat_le.mp order
  have soon := kept.steady.soon timely
  have own := kept.own
  have interval := fair.interval
  have current : watch.client.leaseExpired nowNs = false :=
    Client.leaseExpired_eq_false (UInt64.lt_iff_toNat_lt.mpr (by omega))
  have positive : 0 < context.keepaliveIntervalNs := by
    have positive := fair.positive
    exact UInt64.lt_iff_toNat_lt.mpr (by rwa [← interval])
  have recent : watch.client.lastKeepaliveNs.toNat ≤ nowNs.toNat :=
    Nat.le_trans kept.last (Nat.le_trans kept.beaten later)
  have due := Client.keepaliveDue_eq (kept.holds.leaseId ▸ nonzero) positive (UInt64.le_iff_toNat_le.mpr recent)
  unfold turn Client.turn
  rw [current, due, ← interval]
  by_cases passed : watch.client.lastKeepaliveNs.toNat + timing.interval ≤ nowNs.toNat
  · rw [if_neg Bool.false_ne_true, if_pos (decide_eq_true passed), Client.keepalive, if_neg (Int.not_lt.mpr taken)]
    obtain ⟨sameLease, sameStream, sameClient, sameRole⟩ := Client.recordKeepalive_lease context watch.client nowNs
    refine ⟨{ line with asked := nowNs.toNat, beaten := nowNs.toNat, flying := line.flying ++ [nowNs.toNat] }, ?_⟩
    refine {
      driver := kept.driver
      steady := kept.steady.beats timely fair.positive
      asked := rfl
      flying := by simp [kept.flying, sent]
      last := by simp
      beaten := Nat.le_refl _
      present := kept.present
      holds := ⟨sameLease.trans kept.holds.leaseId, sameStream.trans kept.holds.streamId,
        sameClient.trans kept.holds.clientId, sameRole.trans kept.holds.role⟩
      own := ?_
      names := ?_ }
    · have enough := fair.own
      have room := fair.ownRoom
      have fits := Nat.lt_trans (Nat.add_lt_add_right before _) room
      have expiry := Client.recordKeepalive_expiry watch.client positive fair.grace fits
      show nowNs.toNat + timing.interval + timing.pause ≤
        (watch.client.recordKeepalive context nowNs).leaseExpiryTimestampNs.toNat
      omega
    · intro packet member
      rcases List.mem_append.mp member with old | new
      · have names := kept.names packet old
        exact { names with order := UInt64.le_trans names.order order }
      · rw [List.mem_singleton.mp new]
        exact ⟨UInt64.le_refl _, keepaliveOf watch.client, nowNs, rfl, names_keepaliveOf kept.holds⟩
  · rw [if_neg Bool.false_ne_true, if_neg (by simpa using passed)]
    have last := kept.last
    refine ⟨{ line with asked := nowNs.toNat }, { kept with
      steady := kept.steady.rests (by omega)
      asked := rfl
      beaten := Nat.le_trans kept.beaten later
      names := ?_ }⟩
    intro packet member
    have names := kept.names packet member
    exact { names with order := UInt64.le_trans names.order order }

/-- A keepalive that arrives renews the lease. -/
theorem Kept.hears (kept : Kept o config started timing lease watch line)
    (fair : Fair timing horizon context config) (order : watch.nowNs ≤ nowNs) (before : nowNs.toNat < horizon)
    (nonzero : lease.leaseId ≠ 0) (few : watch.ops.countP Driver.Op.attaches < 2 ^ 64)
    (clock : o.clock watch.driver.world.calls = nowNs) (heard : watch.step o context (.hear nowNs) = some watch') :
    ∃ line', Kept o config started timing lease watch' line' := by
  dsimp only [step] at heard
  split at heard
  · cases heard
  next sent bytes rest flying =>
    have names := kept.names (sent, bytes) (by rw [flying]; exact List.mem_cons_self)
    obtain ⟨request, clientTimestampNs, rfl, named⟩ := names.names
    rw [sendKeepalive_heard] at heard
    cases heard
    have distinct := Driver.run_distinct o config started watch.ops few
    have window := Driver.run_leaseExpiry o config started watch.ops nowNs
    rw [← kept.driver] at distinct window
    obtain ⟨current, present, identity, -⟩ := kept.present
    have nonzero' : current.leaseId ≠ 0 := (Driver.Lease.same_identity identity).1 ▸ nonzero
    rw [← Driver.names_identity identity] at named
    have renewed := Driver.step_renews o
      ⟨request.leaseId, request.streamId, request.clientId, getRole request.role⟩ distinct present nonzero' named
    have expiry : sent.toNat + timing.window ≤ (Driver.leaseExpiry watch.driver.config nowNs).toNat := by
      have room := fair.room
      have sum := fair.window
      have past := UInt64.le_iff_toNat_le.mp (UInt64.le_trans names.order order)
      rw [window, Driver.toNat_leaseExpiry (by omega)]
      dsimp only at past
      omega
    rw [clock] at renewed
    have oldest : line.flying = sent.toNat :: rest.map fun packet => packet.1.toNat := by
      rw [kept.flying, Watch.sent, flying, List.map_cons]
    refine ⟨{ line with
      flying := rest.map fun packet => packet.1.toNat, heard := sent.toNat, limit := sent.toNat + timing.window }, ?_⟩
    exact {
      driver := by
        rw [operate, Driver.run_append, ← kept.driver]
        rfl
      steady := kept.steady.arrives oldest (Nat.le_refl _)
      asked := kept.asked
      flying := rfl
      last := kept.last
      beaten := Nat.le_trans kept.beaten (UInt64.le_iff_toNat_le.mp order)
      present := ⟨_, renewed, (Driver.Lease.identity_extend current _).trans identity, expiry⟩
      holds := kept.holds
      own := kept.own
      names := fun packet member =>
        have names := kept.names packet (flying ▸ List.mem_cons_of_mem _ member)
        { names with order := UInt64.le_trans names.order order } }

theorem Kept.nonzero (kept : Kept o config started timing lease watch line)
    (few : watch.ops.countP Driver.Op.attaches < 2 ^ 64) : lease.leaseId ≠ 0 := by
  obtain ⟨-, nonzero, recorded⟩ := Driver.run_numbered o config started watch.ops few
  obtain ⟨current, present, identity, -⟩ := kept.present
  obtain ⟨granted, member, same⟩ := recorded current (kept.driver ▸ present)
  rw [← (Driver.Lease.same_identity (same.trans identity)).1]
  exact nonzero granted member

theorem Kept.step (kept : Kept o config started timing lease watch line) (fair : Fair timing horizon context config)
    (few : watch.ops.countP Driver.Op.attaches < 2 ^ 64) {tick : Tick}
    (met : watch.timely o timing horizon lease tick = true) (stepped : watch.step o context tick = some watch') :
    ∃ line', Kept o config started timing lease watch' line' := by
  have nonzero := kept.nonzero few
  have timely := kept.timely met
  simp only [Watch.timely, Bool.and_eq_true, decide_eq_true_iff] at met
  obtain ⟨⟨⟨⟨order, before⟩, -⟩, -⟩, calm⟩ := met
  obtain ⟨current, present, identity, limit⟩ := kept.present
  cases tick with
  | turn nowNs result =>
      cases stepped
      exact kept.turns fair timely order before nonzero (of_decide_eq_true calm)
  | hear nowNs => exact kept.hears fair order before nonzero few (beq_iff_eq.mp calm) stepped
  | expire nowNs =>
      cases stepped
      have alive := kept.steady.alive timely fair.wide
      refine ⟨line, kept.operates order ⟨current, Driver.step_early o ?_ present, identity, limit⟩⟩
      rw [beq_iff_eq.mp calm]
      exact UInt64.le_iff_toNat_le.mpr (Nat.le_trans (Nat.le_of_lt alive) limit)
  | other nowNs op =>
      cases stepped
      have spared : op.spares current = true := by
        rwa [Driver.Op.spares_identity identity]
      exact ⟨line, kept.operates order ⟨current, Driver.step_spares o spared present, identity, limit⟩⟩

theorem step_ops {tick : Tick} (stepped : watch.step o context tick = some watch') : watch.ops <+: watch'.ops := by
  cases tick with
  | turn nowNs result =>
      cases stepped
      exact List.prefix_rfl
  | hear nowNs =>
      dsimp only [Watch.step] at stepped
      split at stepped
      · cases stepped
      · split at stepped <;> cases stepped
        exact List.prefix_append _ _
  | expire nowNs =>
      cases stepped
      exact List.prefix_append _ _
  | other nowNs op =>
      cases stepped
      exact List.prefix_append _ _

end Watch

/--
A client that is granted a lease keeps it as long as it is asked often enough, its offers are taken, and its
keepalives arrive in their order and in time, where the time that the driver gives a lease covers an interval, a
pause and a delay:
no expiry takes the lease out of the table, and the client never gives it up, whatever else the driver handles.
-/
theorem run_kept (o : Driver.Oracle) (config : Driver.Config) (started : Bool) (timing : Timing) (horizon : Nat)
    (context : Context) (lease : Driver.Lease) (ticks : List Tick) (watch watch' : Watch)
    (ran : watch.driver = Driver.run o (Driver.boot o config started) watch.ops)
    (fair : Watch.Fair timing horizon context config) (begins : Watch.Begins timing lease watch)
    (went : GuardedRun.runWhile (Watch.timely o timing horizon lease)
    (Watch.step o context) watch ticks = some watch') (few : watch'.ops.countP Driver.Op.attaches < 2 ^ 64) :
    Matches watch'.client lease ∧ ∃ current ∈ watch'.driver.leases, current.identity = lease.identity := by
  let known (watch : Watch) : Prop :=
    watch.ops.countP Driver.Op.attaches < 2 ^ 64 → ∃ line, Watch.Kept o config started timing lease watch line
  have kept : known watch' := by
    refine GuardedRun.keeps (fun s tick s' before met stepped few' => ?_) went
      fun _ => ⟨_, begins.kept ran fair.positive fair.wide⟩
    have short := Nat.lt_of_le_of_lt (Watch.step_ops stepped).sublist.countP_le few'
    obtain ⟨line, kept⟩ := before short
    exact kept.step fair short met stepped
  obtain ⟨line, kept⟩ := kept few
  obtain ⟨current, present, identity, -⟩ := kept.present
  exact ⟨kept.holds, current, present, identity⟩

/-- These are times in milliseconds after a grant. -/
def pulseNs (afterMs : UInt64) : UInt64 := 10000000000 + afterMs * 1000000

/-- The clock stands while two clients attach. -/
def pulseOracle : Driver.Oracle :=
  { Driver.plainOracle with
    clock := fun call => pulseNs (if call < 16 then 0 else 400 + (call - 16).toUInt64 * 1200) }

def pulseTiming : Timing where
  interval := 1000000000
  pause := 500000000
  delay := 500000000
  window := 3000000000

def pulseLease : Driver.Lease :=
  { Driver.plainLease 6 7 .producer with expiryNs := pulseNs 3000, issuedNs := pulseNs 0 }

/-- The producer was granted its lease. -/
def pulseStart : Watch where
  driver := Driver.run pulseOracle (Driver.boot pulseOracle Driver.plainConfig false)
    [.attach (Driver.plainRequest 7 .producer)]
  client :=
    { activeLeaseId := 6, leaseExpiryTimestampNs := pulseNs 3000, activeStreamId := 1, clientId := 7, role := 1 }
  flying := []
  nowNs := pulseNs 0
  askedNs := pulseNs 0
  ops := [.attach (Driver.plainRequest 7 .producer)]

/-- A silent consumer attaches, and the producer sends its keepalives until the consumer has expired. -/
def pulseTicks : List Tick :=
  [.other (pulseNs 0) (.attach (Driver.plainRequest 9 .consumer)), .turn (pulseNs 100) 1, .hear (pulseNs 400),
    .turn (pulseNs 600) 1, .turn (pulseNs 1100) 1, .turn (pulseNs 1500) 1, .hear (pulseNs 1600),
      .turn (pulseNs 1900) 1,
    .turn (pulseNs 2300) 1, .hear (pulseNs 2800), .turn (pulseNs 2800) 1, .turn (pulseNs 3200) 1,
      .turn (pulseNs 3600) 1,
    .expire (pulseNs 4000)]

def pulseEnd : Option Watch :=
  GuardedRun.runWhile (Watch.timely pulseOracle pulseTiming (2 ^ 63) pulseLease)
    (Watch.step pulseOracle ⟨1000000000, 3⟩) pulseStart pulseTicks

theorem pulseEnd_some : pulseEnd.isSome = true := by decide +kernel

theorem pulseEnd_kept : (pulseEnd.get pulseEnd_some).driver.leases.length = 1 ∧
    ∃ current ∈ (pulseEnd.get pulseEnd_some).driver.leases, current.identity = pulseLease.identity := by
  refine ⟨by decide +kernel, ?_⟩
  have fair : Watch.Fair pulseTiming (2 ^ 63) ⟨1000000000, 3⟩ Driver.plainConfig := by
    constructor <;> decide +kernel
  have begins : Watch.Begins pulseTiming pulseLease pulseStart := by
    refine ⟨?_, ?_, ⟨rfl, rfl, rfl, rfl⟩, rfl, ?_, ?_, rfl⟩ <;> decide +kernel
  exact (run_kept pulseOracle Driver.plainConfig false pulseTiming (2 ^ 63) ⟨1000000000,
    3⟩ pulseLease pulseTicks pulseStart (pulseEnd.get pulseEnd_some) rfl fair begins
      (Option.some_get pulseEnd_some).symm (by decide +kernel)).2

end TensorPool.Protocol
