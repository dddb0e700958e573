/-
This file shows when a mapped consumer counts the gaps between its descriptors exactly.
-/

import TensorPool.Client.AttachChecks
import TensorPool.Client.ConsumerSession
import TensorPool.Library.GuardedRun
import TensorPool.Library.Rising

namespace TensorPool.Client

/-- A sequence number is new when it is above all the new ones before it; the others are duplicated or older. -/
def climb (fresh : List UInt64) (seq : UInt64) : List UInt64 :=
  if fresh.all (· < seq) then fresh ++ [seq] else fresh

/-- The new sequence numbers of a list, in order. -/
def newest (seqs : List UInt64) : List UInt64 := seqs.foldl climb []

/-- The numbers that are counted exactly: none is missing between 0 and the next one, and only 0 follows the
largest. -/
structure Countable (seqs : List UInt64) : Prop where
  start : seqs.head? = some 0 → ∀ next ∈ seqs.find? (· != 0), next = 1
  wrap : seqs.Pairwise fun early late => early = 0xFFFFFFFFFFFFFFFF → late = 0

/-- What one more number may be after those that were counted exactly. -/
structure Extends (seqs : List UInt64) (seq : UInt64) : Prop where
  start : (∀ earlier ∈ seqs, earlier = 0) → seq = 0 ∨ seq = 1
  wrap : 0xFFFFFFFFFFFFFFFF ∈ seqs → seq = 0

namespace ConsumerSession

/-- The state that a successful attach leaves. -/
structure NewlyMapped (session : ConsumerSession) : Prop where
  shmMapped : session.shmMapped = true
  lastSeqSeen : session.lastSeqSeen = 0
  dropsGap : session.dropsGap = 0

/-- The descriptors are handled one after the other. -/
def handleAll (session : ConsumerSession) (descriptors : List FrameDescriptor) : Option ConsumerSession :=
  GuardedRun.run onDescriptor session descriptors

/-- The consumer has seen the highest number, has counted the missing ones, and has delivered each descriptor. -/
structure Accounted (session : ConsumerSession) (descriptors : List FrameDescriptor) (after : ConsumerSession) :
    Prop where
  lastSeqSeen : (newest (descriptors.map FrameDescriptor.seq)).getLast? = some after.lastSeqSeen
  dropsGap : ∃ first ∈ (newest (descriptors.map FrameDescriptor.seq)).head?,
    (after.dropsGap.toNat : Int) =
      (after.lastSeqSeen.toNat - first.toNat + 1) - (newest (descriptors.map FrameDescriptor.seq)).length
  delivered : after.delivered = descriptors.reverse ++ session.delivered

end ConsumerSession

section Newest

variable {seqs : List UInt64} {seq : UInt64}

theorem newest_append (seqs : List UInt64) (seq : UInt64) : newest (seqs ++ [seq]) = climb (newest seqs) seq := by
  rw [newest, List.foldl_append]
  rfl

/-- The last new number is the highest one. -/
theorem newest_holds (seqs : List UInt64) : Rising.Holds (newest seqs) (newest seqs).getLast? := by
  induction seqs using List.reverseRecOn with
  | nil => exact Rising.Holds.empty
  | append_singleton seqs seq hypothesis =>
      rw [newest_append, climb]
      split
      next above =>
        rw [List.getLast?_concat]
        apply hypothesis.push
        intro old last
        have below := List.all_eq_true.mp above old (List.mem_of_getLast? last)
        exact UInt64.le_of_lt (of_decide_eq_true below)
      · exact hypothesis

theorem climb_ne_nil (fresh : List UInt64) (seq : UInt64) : climb fresh seq ≠ [] := by
  rw [climb]
  split
  · simp
  next held =>
    intro none
    rw [none] at held
    exact held rfl

/-- A new number is above the last new one. -/
theorem climb_last {top : UInt64} (last : (newest seqs).getLast? = some top) :
    climb (newest seqs) seq = if top < seq then newest seqs ++ [seq] else newest seqs := by
  have holds := newest_holds seqs
  have same : (newest seqs).all (· < seq) = decide (top < seq) := by
    rw [Bool.eq_iff_iff, List.all_eq_true, decide_eq_true_iff]
    constructor
    · intro above
      exact of_decide_eq_true (above top (List.mem_of_getLast? last))
    · intro above earlier present
      exact decide_eq_true (UInt64.lt_of_le_of_lt (holds.top top last earlier present) above)
  rw [climb, same]
  simp only [decide_eq_true_iff]

/-- The highest new number is the highest of all. -/
theorem newest_greatest {top : UInt64} (last : (newest seqs).getLast? = some top) :
    IsGreatest {seq | seq ∈ seqs} top := by
  induction seqs using List.reverseRecOn generalizing top with
  | nil => cases last
  | append_singleton seqs seq hypothesis =>
      rw [newest_append] at last
      cases known : (newest seqs).getLast? with
      | none =>
          have none : newest seqs = [] := List.getLast?_eq_none_iff.mp known
          have empty : seqs = [] := by
            by_contra other
            obtain ⟨prior, final, rfl⟩ := (List.eq_nil_or_concat' seqs).resolve_left other
            rw [newest_append] at none
            exact climb_ne_nil _ _ none
          subst empty
          obtain rfl : seq = top := by simpa [newest, climb] using last
          simp [IsGreatest, upperBounds]
      | some before =>
          have greatest := hypothesis known
          rw [climb_last known] at last
          split at last
          next above =>
            rw [List.getLast?_concat, Option.some_inj] at last
            subst last
            constructor
            · simp
            · intro other present
              rcases List.mem_append.mp present with old | new
              · exact UInt64.le_of_lt (UInt64.lt_of_le_of_lt (greatest.2 old) above)
              · rw [List.mem_singleton.mp new]
                exact UInt64.le_refl _
          next held =>
            obtain rfl : before = top := Option.some_inj.mp (known.symm.trans last)
            constructor
            · exact List.mem_append_left _ greatest.1
            · intro other present
              rcases List.mem_append.mp present with old | new
              · exact greatest.2 old
              · rw [List.mem_singleton.mp new]
                exact UInt64.not_lt.mp held

end Newest

section Gap

variable {last seq gap : UInt64} {first : Int} {count : Nat}

/-- The gap counter after one descriptor. -/
def nextGap (last seq gap : UInt64) : UInt64 :=
  if last != 0 && seq > last + 1 then gap + (seq - last - 1) else gap

/-- A higher number is counted exactly unless the zero in the counter hides that a number was seen. -/
theorem nextGap_above (exact : (gap.toNat : Int) = (last.toNat - first + 1) - count) (start : 0 ≤ first)
    (some : 1 ≤ count) (above : last < seq) :
    ((nextGap last seq gap).toNat : Int) = (seq.toNat - first + 1) - (count + 1 : Nat) ↔ (last = 0 → seq = 1) := by
  have higher : last.toNat < seq.toNat := UInt64.lt_iff_toNat_lt.mp above
  have bound : seq.toNat < 2 ^ 64 := seq.toNat_lt
  have follow : (last + 1).toNat = last.toNat + 1 := by
    rw [UInt64.toNat_add, UInt64.toNat_one, Nat.mod_eq_of_lt (by omega)]
  by_cases unseen : last = 0
  · subst unseen
    have kept : nextGap 0 seq gap = gap := by simp [nextGap]
    have one : seq = 1 ↔ seq.toNat = 1 := by rw [← UInt64.toNat_inj, UInt64.toNat_one]
    rw [kept, one, exact]
    simp only [forall_const, UInt64.toNat_zero] at higher ⊢
    omega
  · simp only [unseen, false_implies, iff_true]
    by_cases apart : last + 1 < seq
    · have added : nextGap last seq gap = gap + (seq - last - 1) := by
        rw [nextGap, if_pos (by simp [unseen, apart])]
      have wide : (last + 1).toNat < seq.toNat := UInt64.lt_iff_toNat_lt.mp apart
      have between : (seq - last - 1).toNat = seq.toNat - last.toNat - 1 := by
        rw [UInt64.toNat_sub_of_le, UInt64.toNat_sub_of_le, UInt64.toNat_one]
        · exact UInt64.le_of_lt above
        · rw [UInt64.le_iff_toNat_le, UInt64.toNat_sub_of_le _ _ (UInt64.le_of_lt above), UInt64.toNat_one]
          omega
      rw [added, UInt64.toNat_add, between, Nat.mod_eq_of_lt (by omega)]
      omega
    · have kept : nextGap last seq gap = gap := by
        rw [nextGap, if_neg (by simp [apart])]
      have near : ¬ (last + 1).toNat < seq.toNat := fun wide => apart (UInt64.lt_iff_toNat_lt.mpr wide)
      rw [kept, exact]
      omega

/-- A duplicated or older number changes the counter only after the largest number. -/
theorem nextGap_below (below : ¬ last < seq) :
    nextGap last seq gap = gap ↔ (last = 0xFFFFFFFFFFFFFFFF → seq = 0) := by
  have lower : seq.toNat ≤ last.toNat := UInt64.le_iff_toNat_le.mp (UInt64.not_lt.mp below)
  have bound : last.toNat < 2 ^ 64 := last.toNat_lt
  by_cases full : last = 0xFFFFFFFFFFFFFFFF
  · subst full
    have added : nextGap 0xFFFFFFFFFFFFFFFF seq gap = gap + seq := by
      rw [nextGap]
      split
      · congr 1
        rw [← UInt64.toNat_inj]
        simp [UInt64.toNat_sub]
        omega
      next low =>
        have none : seq = 0 := by
          simp only [bne_iff_ne, ne_eq, Bool.and_eq_true, decide_eq_true_eq, not_and] at low
          have held := low (by decide)
          change ¬ (0 : UInt64) < seq at held
          exact UInt64.le_zero_iff.mp (UInt64.not_lt.mp held)
        rw [none, UInt64.add_zero]
    rw [added]
    simp
  · have kept : nextGap last seq gap = gap := by
      rw [nextGap, if_neg]
      intro counted
      have apart := of_decide_eq_true (Bool.and_eq_true_iff.mp counted).2
      have wide : (last + 1).toNat < seq.toNat := UInt64.lt_iff_toNat_lt.mp apart
      have other : last.toNat ≠ 2 ^ 64 - 1 := fun same => full (UInt64.toNat_inj.mp same)
      rw [UInt64.toNat_add, UInt64.toNat_one, Nat.mod_eq_of_lt (by omega)] at wide
      omega
    simp [kept, full]

end Gap

/-- A list is counted exactly when each number extends those before it, and the first number is free. -/
theorem countable_append {seqs : List UInt64} (present : seqs ≠ []) (seq : UInt64) :
    Countable (seqs ++ [seq]) ↔ Countable seqs ∧ Extends seqs seq := by
  have ends : ∀ {late : UInt64}, (∀ early ∈ seqs, early = 0xFFFFFFFFFFFFFFFF → late = 0) ↔
      (0xFFFFFFFFFFFFFFFF ∈ seqs → late = 0) := by
    intro late
    constructor
    · intro all member
      exact all _ member rfl
    · intro all early member same
      exact all (same ▸ member)
  have zeros : seqs.find? (· != 0) = none ↔ ∀ earlier ∈ seqs, earlier = 0 := by
    simp [List.find?_eq_none]
  constructor
  · intro countable
    have paired := List.pairwise_append.mp countable.wrap
    constructor
    · constructor
      · intro head next found
        apply countable.start
        · rw [List.head?_append, head]
          rfl
        · rw [List.find?_append, Option.mem_def.mp found]
          rfl
      · exact paired.1
    · constructor
      · intro none
        by_cases zero : seq = 0
        · exact Or.inl zero
        · apply Or.inr
          apply countable.start
          · obtain ⟨first, rest, rfl⟩ := List.exists_cons_of_ne_nil present
            rw [none first List.mem_cons_self]
            rfl
          · rw [List.find?_append, zeros.mpr none]
            simp [zero]
      · exact ends.mp fun early member => paired.2.2 early member seq (List.mem_singleton_self seq)
  · intro both
    obtain ⟨countable, extends_⟩ := both
    constructor
    · intro head next found
      obtain ⟨first, rest, rfl⟩ := List.exists_cons_of_ne_nil present
      rw [List.find?_append] at found
      cases known : (first :: rest).find? (· != 0) with
      | some other =>
          rw [known] at found
          exact countable.start head next (known.trans found)
      | none =>
          rw [known] at found
          have last : next ∈ [seq].find? (· != 0) := found
          obtain rfl : next = seq := List.mem_singleton.mp (List.mem_of_find?_eq_some last)
          have nonzero : next ≠ 0 := by simpa using List.find?_some last
          exact (extends_.start (zeros.mp known)).resolve_left nonzero
    · rw [List.pairwise_append]
      exact ⟨countable.wrap, List.pairwise_singleton _ _, fun early member late final => by
        rw [List.mem_singleton.mp final]
        exact ends.mpr extends_.wrap early member⟩

namespace ConsumerSession

variable {session after : ConsumerSession} {prior descriptors : List FrameDescriptor} {descriptor : FrameDescriptor}

/-- A mapped consumer handles a descriptor of its epoch by counting and delivering it. -/
theorem onDescriptor_own (mapped : session.shmMapped = true) (own : descriptor.epoch = session.mappedEpoch) :
    session.onDescriptor descriptor = some
      { session with
        dropsGap := nextGap session.lastSeqSeen descriptor.seq session.dropsGap
        lastSeqSeen := if descriptor.seq > session.lastSeqSeen then descriptor.seq else session.lastSeqSeen
        delivered := descriptor :: session.delivered } := by
  rw [onDescriptor, mapped, own]
  simp [see, nextGap]

/-- The mapping stays while the descriptors are those of its epoch. -/
theorem handleAll_append (prior : List FrameDescriptor) (descriptor : FrameDescriptor) :
    session.handleAll (prior ++ [descriptor]) =
      (session.handleAll prior).bind fun after => after.onDescriptor descriptor := by
  rw [handleAll, handleAll]
  induction prior generalizing session with
  | nil =>
      change (session.onDescriptor descriptor).bind some = session.onDescriptor descriptor
      cases session.onDescriptor descriptor <;> rfl
  | cons first rest hypothesis =>
      change (session.onDescriptor first).bind _ = ((session.onDescriptor first).bind _).bind _
      rw [Option.bind_assoc]
      apply Option.bind_congr
      intro middle _
      exact hypothesis

/-- The handled descriptors leave the consumer mapped at the same epoch. -/
theorem handleAll_mapped (mapped : session.shmMapped = true)
    (own : ∀ descriptor ∈ descriptors, descriptor.epoch = session.mappedEpoch) :
    ∃ after, session.handleAll descriptors = some after ∧ after.shmMapped = true ∧
      after.mappedEpoch = session.mappedEpoch := by
  induction descriptors using List.reverseRecOn with
  | nil => exact ⟨session, rfl, mapped, rfl⟩
  | append_singleton prior descriptor hypothesis =>
      obtain ⟨middle, handled, still, same⟩ :=
        hypothesis fun earlier member => own earlier (List.mem_append_left _ member)
      have last : descriptor.epoch = middle.mappedEpoch := by
        rw [same]
        exact own descriptor (List.mem_append_right _ List.mem_cons_self)
      rw [handleAll_append, handled, Option.bind_some, onDescriptor_own still last]
      exact ⟨_, rfl, still, same⟩

/-- The first descriptor is always counted. -/
theorem accounted_first (newly : session.NewlyMapped) (own : descriptor.epoch = session.mappedEpoch) :
    ∃ after, session.handleAll [descriptor] = some after ∧ session.Accounted [descriptor] after := by
  have handled := @handleAll_append session [] descriptor
  change _ = session.onDescriptor descriptor at handled
  rw [onDescriptor_own newly.shmMapped own, newly.lastSeqSeen, newly.dropsGap] at handled
  have top : (if descriptor.seq > 0 then descriptor.seq else 0) = descriptor.seq := by
    split
    · rfl
    next low => exact (UInt64.le_zero_iff.mp (UInt64.not_lt.mp low)).symm
  rw [top] at handled
  apply Exists.intro
  apply And.intro handled
  constructor
  · rfl
  · exact ⟨descriptor.seq, rfl, by simp [nextGap, newest, climb]⟩
  · rfl

/-- After descriptors that were counted exactly one more is counted exactly when its number extends them. -/
theorem accounted_next (mapped : after.shmMapped = true) (own : descriptor.epoch = after.mappedEpoch)
    (handled : session.handleAll prior = some after) (accounted : session.Accounted prior after) :
    (∃ next, session.handleAll (prior ++ [descriptor]) = some next ∧
      session.Accounted (prior ++ [descriptor]) next) ↔
      Extends (prior.map FrameDescriptor.seq) descriptor.seq := by
  obtain ⟨first, head, exact_⟩ := accounted.dropsGap
  have last := accounted.lastSeqSeen
  have greatest := newest_greatest last
  have nonempty : 1 ≤ (newest (prior.map FrameDescriptor.seq)).length := by
    rw [Nat.succ_le_iff, List.length_pos_iff]
    intro none
    rw [none] at last
    cases last
  have zeros : (∀ earlier ∈ prior.map FrameDescriptor.seq, earlier = 0) ↔ after.lastSeqSeen = 0 := by
    constructor
    · intro all
      exact all _ greatest.1
    · intro zero earlier member
      have below := greatest.2 member
      rw [zero] at below
      exact UInt64.le_zero_iff.mp below
  have full : 0xFFFFFFFFFFFFFFFF ∈ prior.map FrameDescriptor.seq ↔ after.lastSeqSeen = 0xFFFFFFFFFFFFFFFF := by
    constructor
    · intro member
      have above := UInt64.le_iff_toNat_le.mp (greatest.2 member)
      change 2 ^ 64 - 1 ≤ after.lastSeqSeen.toNat at above
      have bound := after.lastSeqSeen.toNat_lt
      apply UInt64.toNat_inj.mp
      change after.lastSeqSeen.toNat = 2 ^ 64 - 1
      omega
    · intro same
      exact same ▸ greatest.1
  have steps : Extends (prior.map FrameDescriptor.seq) descriptor.seq ↔
      (after.lastSeqSeen = 0 → descriptor.seq = 0 ∨ descriptor.seq = 1) ∧
        (after.lastSeqSeen = 0xFFFFFFFFFFFFFFFF → descriptor.seq = 0) := by
    constructor
    · intro extends_
      exact ⟨fun zero => extends_.start (zeros.mpr zero), fun top => extends_.wrap (full.mpr top)⟩
    · intro both
      exact ⟨fun zero => both.1 (zeros.mp zero), fun top => both.2 (full.mp top)⟩
  have names : newest ((prior ++ [descriptor]).map FrameDescriptor.seq) =
      if after.lastSeqSeen < descriptor.seq then newest (prior.map FrameDescriptor.seq) ++ [descriptor.seq]
      else newest (prior.map FrameDescriptor.seq) := by
    rw [List.map_append, List.map_singleton, newest_append, climb_last last]
  rw [handleAll_append, handled, Option.bind_some, onDescriptor_own mapped own, steps]
  by_cases above : after.lastSeqSeen < descriptor.seq
  · rw [if_pos above] at names
    have other : after.lastSeqSeen ≠ 0xFFFFFFFFFFFFFFFF := by
      intro top
      have higher := UInt64.lt_iff_toNat_lt.mp above
      rw [top] at higher
      change 2 ^ 64 - 1 < descriptor.seq.toNat at higher
      have bound := descriptor.seq.toNat_lt
      omega
    have nonzero : descriptor.seq ≠ 0 := by
      intro zero
      rw [zero] at above
      exact UInt64.not_lt_zero above
    have counts := nextGap_above exact_ (Int.natCast_nonneg _) nonempty above
    simp only [nonzero, false_or, other, false_implies, and_true, ← counts, Option.some_inj, exists_eq_left']
    constructor
    · intro next
      obtain ⟨start, same, kept⟩ := next.dropsGap
      rw [names, List.head?_append, Option.mem_def.mp head, Option.some_or, Option.mem_some] at same
      rw [names, List.length_append, ← same] at kept
      simpa [above] using kept
    · intro kept
      constructor
      · rw [names, List.getLast?_concat]
        simp [above]
      · apply Exists.intro first
        rw [names, List.head?_append, Option.mem_def.mp head, List.length_append]
        exact ⟨rfl, by simpa [above] using kept⟩
      · simp [accounted.delivered]
  · rw [if_neg above] at names
    have low : after.lastSeqSeen = 0 → descriptor.seq = 0 ∨ descriptor.seq = 1 := by
      intro zero
      rw [zero] at above
      exact Or.inl (UInt64.le_zero_iff.mp (UInt64.not_lt.mp above))
    have counts : nextGap after.lastSeqSeen descriptor.seq after.dropsGap = after.dropsGap ↔ _ := nextGap_below above
    rw [and_iff_right low, ← counts]
    simp only [Option.some_inj, exists_eq_left']
    constructor
    · intro next
      obtain ⟨start, same, kept⟩ := next.dropsGap
      rw [names, Option.mem_def.mp head, Option.mem_some] at same
      rw [names, ← same] at kept
      simp only [gt_iff_lt, above, if_false] at kept
      apply UInt64.toNat_inj.mp
      apply Int.ofNat_inj.mp
      exact kept.trans exact_.symm
    · intro kept
      constructor
      · rw [names, last]
        simp [above]
      · apply Exists.intro first
        rw [names]
        apply And.intro head
        simp only [gt_iff_lt, above, if_false, kept]
        exact exact_
      · simp [accounted.delivered]

/-- After each descriptor the counters are exact, and the descriptors were delivered in order. -/
def GapsExact (session : ConsumerSession) (descriptors : List FrameDescriptor) : Prop :=
  ∀ prior, prior <+: descriptors → prior ≠ [] →
    ∃ after, session.handleAll prior = some after ∧ session.Accounted prior after

theorem gapsExact_append (prior : List FrameDescriptor) (descriptor : FrameDescriptor) :
    session.GapsExact (prior ++ [descriptor]) ↔ session.GapsExact prior ∧
      ∃ after, session.handleAll (prior ++ [descriptor]) = some after ∧
        session.Accounted (prior ++ [descriptor]) after := by
  constructor
  · intro always
    constructor
    · intro part within
      exact always part (within.trans (List.prefix_append _ _))
    · exact always _ (List.prefix_refl _) (by simp)
  · intro both part within
    rcases List.prefix_concat_iff.mp within with whole | shorter
    · intro _
      rw [whole]
      exact both.2
    · exact both.1 part shorter

theorem consumerAttachCleanup_fallback {consumer : AttachedConsumer} {text : String}
    {outcome : AttachOutcome AttachedConsumer} (ended : consumerAttachCleanup consumer text = some outcome)
    (code : outcome.code = 0) : outcome.client.phase = .fallback := by
  rw [consumerAttachCleanup] at ended
  split at ended
  · cases ended
  · dsimp only at ended
    split at ended
    · cases ended
      simp at code
    · cases ended
      rfl

/-- Only the end of the attach maps the regions, and it clears the counters. -/
theorem consumerAttachConfig_newly {machine : Shm.Machine} {allocations : Allocations} {config : AttachConfig}
    {consumer : AttachedConsumer} {outcome : AttachOutcome AttachedConsumer}
    (ended : consumerAttachConfig machine allocations config consumer = some outcome) (code : outcome.code = 0)
    (mapped : outcome.client.phase = .mapped) :
    outcome.client.shmMapped = true ∧ outcome.client.lastSeqSeen = 0 ∧ outcome.client.dropsGap = 0 := by
  have cleaned : ∀ {held : AttachedConsumer} {text : String}, consumerAttachCleanup held text ≠ some outcome := by
    intro held text cleaned
    have fallback := consumerAttachCleanup_fallback cleaned code
    rw [mapped] at fallback
    cases fallback
  rw [consumerAttachConfig] at ended
  split at ended
  · exact absurd ended cleaned
  · split at ended
    · cases ended
      simp at code
    · split at ended
      · cases ended
        simp at code
      · dsimp only at ended
        split at ended
        · exact absurd ended cleaned
        · cases ended
          exact ⟨rfl, rfl, rfl⟩

/-- An attach that maps the regions starts the count. -/
theorem attachConfig_newly {around : Around} {config : AttachConfig} {attached : ConsumerSession}
    (done : session.attachConfig around config = some (0, attached)) (mapped : attached.phase = .mapped) :
    attached.NewlyMapped := by
  obtain ⟨outcome, ended, result⟩ := Option.map_eq_some_iff.mp done
  obtain ⟨code, same⟩ := Prod.mk.inj result
  have client : attached.toAttachedConsumer = outcome.client := by
    rw [← same]
    split
    · rfl
    · split <;> rfl
  obtain ⟨shmMapped, lastSeqSeen, dropsGap⟩ := consumerAttachConfig_newly ended code (client ▸ mapped)
  constructor
  · rw [client, shmMapped]
  · rw [client, lastSeqSeen]
  · rw [client, dropsGap]

/--
A newly mapped consumer counts the gaps of its descriptors exactly after each of them if and only if none is missing
between 0 and the next number, and after the largest number only 0 comes.
-/
theorem gaps_counted (session : ConsumerSession) (descriptors : List FrameDescriptor) (newly : session.NewlyMapped)
    (own : ∀ descriptor ∈ descriptors,
      descriptor.streamId = session.context.streamId ∧ descriptor.epoch = session.mappedEpoch) :
    session.GapsExact descriptors ↔ Countable (descriptors.map FrameDescriptor.seq) := by
  induction descriptors using List.reverseRecOn with
  | nil =>
      constructor
      · intro _
        exact ⟨fun absent => absurd absent (by simp), List.Pairwise.nil⟩
      · intro _ prior within some
        exact absurd (List.prefix_nil.mp within) some
  | append_singleton prior descriptor hypothesis =>
      have before := hypothesis fun earlier member => own earlier (List.mem_append_left _ member)
      have last := own descriptor (List.mem_append_right _ List.mem_cons_self)
      rw [gapsExact_append]
      by_cases first : prior = []
      · subst first
        have counted := accounted_first newly last.2
        have empty := before.mpr ⟨fun absent => absurd absent (by simp), List.Pairwise.nil⟩
        have alone : Countable [descriptor.seq] := by
          constructor
          · intro head next found
            have zero : descriptor.seq = 0 := by simpa using head
            simp [zero] at found
          · exact List.pairwise_singleton _ _
        exact iff_of_true ⟨empty, counted⟩ alone
      · rw [List.map_append, List.map_singleton, countable_append (by simpa using first), before]
        apply and_congr_right
        intro countable
        obtain ⟨after, handled, accounted⟩ := before.mpr countable prior (List.prefix_refl _) first
        obtain ⟨mapped, still, same, epoch⟩ := handleAll_mapped newly.shmMapped fun earlier member =>
          (own earlier (List.mem_append_left _ member)).2
        rw [handled, Option.some_inj] at still
        subst still
        exact accounted_next same (last.2.trans epoch.symm) handled accounted

end ConsumerSession

/-- A consumer of the stream 5 that was just mapped at the epoch 1. -/
def newlyMappedConsumer : ConsumerSession :=
  { context := ⟨5, 7, false, 0, 0, 1000⟩, streamId := 5, epoch := 1, phase := .mapped, shmMapped := true,
    mappedEpoch := 1 }

/-- A descriptor of its stream and epoch. -/
def descriptorOf (seq : UInt64) : FrameDescriptor := ⟨5, 1, seq, 0, 0, 0⟩

/-- A consumer that has mapped nothing yet. -/
def waiting : ConsumerSession where
  context := { streamId := 1, consumerId := 3, useDriver := false, announcePeriodNs := 1000 }

/-- The files of the small ring are there, and the announce of time 15 is fresh. -/
def aroundSmall : Around where
  joinNs := 10
  nowNs := 20
  realtimeNs := 20
  attachNs := 20
  machine := smallMachine 0 576
  allocations := allAllocated
  copies := ⟨true, true, fun _ => true⟩
  descriptorOpens := true
  controlOpens := true

namespace ConsumerSession

/-- The application attaches the consumer, and late and repeated descriptors of the small ring come. -/
theorem gaps_counted_late : ∃ attached, waiting.attachConfig aroundSmall smallConfig = some (0, attached) ∧
    (attached.GapsExact ([3, 7, 5, 7, 8].map fun seq => ⟨1, 5, seq, 0, 0, 0⟩) ↔
      Countable (([3, 7, 5, 7, 8].map fun seq =>
        (⟨1, 5, seq, 0, 0, 0⟩ : FrameDescriptor)).map FrameDescriptor.seq)) := by
  obtain ⟨⟨code, attached⟩, done, shown⟩ : ∃ outcome, waiting.attachConfig aroundSmall smallConfig = some outcome ∧
      (outcome.1, outcome.2.phase, outcome.2.context.streamId, outcome.2.mappedEpoch) = (0, .mapped, 1, 5) :=
    Option.map_eq_some_iff.mp (by decide +kernel)
  simp only [Prod.mk.injEq] at shown
  obtain ⟨rfl, mapped, stream, epoch⟩ := shown
  refine ⟨attached, done, gaps_counted attached _ (attachConfig_newly done mapped) fun descriptor member => ?_⟩
  rw [stream, epoch]
  obtain ⟨seq, -, rfl⟩ := List.mem_map.mp member
  exact ⟨rfl, rfl⟩

/-- The stream starts at 0 and its next frame is 5: four frames are lost and none is counted. -/
theorem first_gap_lost :
    newlyMappedConsumer.NewlyMapped ∧ ¬ newlyMappedConsumer.GapsExact ([0, 5].map descriptorOf) := by
  constructor
  · exact ⟨rfl, rfl, rfl⟩
  · intro always
    obtain ⟨after, handled, accounted⟩ := always _ (List.prefix_refl _) (by decide)
    have ran : newlyMappedConsumer.handleAll ([0, 5].map descriptorOf) =
        some { newlyMappedConsumer with lastSeqSeen := 5, delivered := [descriptorOf 5, descriptorOf 0] } := rfl
    rw [ran, Option.some_inj] at handled
    obtain ⟨first, head, kept⟩ := accounted.dropsGap
    have start : (0 : UInt64) = first := Option.some_inj.mp head
    rw [← handled, ← start] at kept
    exact absurd kept (by decide)

end ConsumerSession

end TensorPool.Client
