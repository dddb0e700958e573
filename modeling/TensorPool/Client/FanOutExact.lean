/-
This file shows when a descriptor reaches everybody who is due and the result tells so.
-/

import TensorPool.Client.FanOut

namespace TensorPool.Client

open Manager (ConsumerManager)

section Loop

variable {announcer : Announcer} {frame : Frame} {nowNs : UInt64} {outcome : Target → Int}

/-- The consumers of the list to whom the frame is offered, in the order of the loop. -/
def reached (nowNs : UInt64) : Nat → List Manager.Entry → List Target
  | _, [] => []
  | index, entry :: rest =>
      if (passFrame nowNs entry).2 then .consumer index :: reached nowNs (index + 1) rest
      else reached nowNs (index + 1) rest

/-- The loop offers to each entry that lets the frame pass, in order. -/
theorem offerEach_eq (index : Nat) (entries : List Manager.Entry) (state : Announcing) :
    offerEach announcer frame nowNs outcome index entries state =
      (entries.map fun entry => (passFrame nowNs entry).1,
        (reached nowNs index entries).foldl (Announcing.offer announcer frame outcome) state) := by
  induction entries generalizing index state with
  | nil => rfl
  | cons entry rest hypothesis =>
      simp only [offerEach, reached, hypothesis, List.map_cons]
      cases (passFrame nowNs entry).2 with
      | true => rfl
      | false => rfl

instance (target : Target) : Decidable (OfferFails announcer outcome target) :=
  inferInstanceAs (Decidable (_ ∧ _))

theorem offer_result (state : Announcing) (target : Target) :
    (state.offer announcer frame outcome target).result =
      if OfferFails announcer outcome target then -1 else state.result := by
  rw [Announcing.offer]
  by_cases negative : outcome target < 0
  · have same : publishDescriptorTo (outcome target) = outcome target := if_pos negative
    rw [same]
    by_cases tolerated : outcome target = publicationNotConnected ∧ announcer.dropUnconnectedDescriptors = true
    · rw [if_pos tolerated, if_neg fun fails => fails.2 tolerated]
    · rw [if_neg tolerated, if_pos negative, if_pos ⟨negative, tolerated⟩]
  · have same : publishDescriptorTo (outcome target) = 0 := if_neg negative
    have sent : ¬(0 = publicationNotConnected ∧ announcer.dropUnconnectedDescriptors = true) :=
      fun both => absurd both.1 (by decide)
    rw [same, if_neg sent, if_neg (by decide), if_neg fun fails => negative fails.1]

/-- An offer is counted whatever its outcome is. -/
theorem offer_offers (state : Announcing) (target : Target) :
    (state.offer announcer frame outcome target).offers = state.offers ++ [(target, announcer.descriptor frame)] ∧
      (state.offer announcer frame outcome target).published = true := by
  simp only [Announcing.offer]
  split_ifs
  · exact ⟨rfl, rfl⟩
  · exact ⟨rfl, rfl⟩
  · exact ⟨rfl, rfl⟩

/-- The offers are made to the targets in order. -/
theorem foldl_offers (targets : List Target) (state : Announcing) :
    (targets.foldl (Announcing.offer announcer frame outcome) state).offers =
      state.offers ++ targets.map fun target => (target, announcer.descriptor frame) := by
  induction targets generalizing state with
  | nil => simp
  | cons target rest hypothesis =>
      rw [List.foldl_cons, hypothesis, (offer_offers state target).1, List.map_cons, List.append_assoc]
      rfl

/-- Something was published when there was a target. -/
theorem foldl_published (targets : List Target) (state : Announcing) :
    (targets.foldl (Announcing.offer announcer frame outcome) state).published =
      (state.published || !targets.isEmpty) := by
  induction targets generalizing state with
  | nil => simp
  | cons target rest hypothesis =>
      rw [List.foldl_cons, hypothesis, (offer_offers state target).2]
      simp

/-- The result is an error when some target fails. -/
theorem foldl_result (targets : List Target) (state : Announcing) :
    (targets.foldl (Announcing.offer announcer frame outcome) state).result =
      if ∃ target ∈ targets, OfferFails announcer outcome target then -1 else state.result := by
  induction targets generalizing state with
  | nil => simp
  | cons target rest hypothesis =>
      rw [List.foldl_cons, hypothesis, offer_result]
      by_cases first : OfferFails announcer outcome target
      · rw [if_pos first, ite_self, if_pos ⟨target, List.mem_cons_self, first⟩]
      · have same : (∃ other ∈ target :: rest, OfferFails announcer outcome other) ↔
            ∃ other ∈ rest, OfferFails announcer outcome other := by
          simp [first]
        rw [if_neg first]
        simp only [same]

/-- Everybody to whom the frame is offered, the shared publication last. -/
def targets (announcer : Announcer) (nowNs : UInt64) : List Target :=
  reached nowNs 0 announcer.entries ++ if announcer.descriptorPublication.isSome then [.shared] else []

/-- What the loop and the shared publication leave is what one offer after the other leaves. -/
theorem offered_targets :
    (if announcer.descriptorPublication.isSome then
        (offerEach announcer frame nowNs outcome 0 announcer.entries {}).2.offer announcer frame outcome .shared
      else (offerEach announcer frame nowNs outcome 0 announcer.entries {}).2) =
      (targets announcer nowNs).foldl (Announcing.offer announcer frame outcome) {} := by
  rw [offerEach_eq, targets, List.foldl_append]
  split
  · rfl
  · rfl

/-- The call makes one offer to each target, and it fails without any. -/
theorem publishDescriptor_spec :
    (publishDescriptor announcer frame nowNs outcome).offers =
        (targets announcer nowNs).map (fun target => (target, announcer.descriptor frame)) ∧
      (publishDescriptor announcer frame nowNs outcome).result =
        if targets announcer nowNs = [] ∨ ∃ target ∈ targets announcer nowNs, OfferFails announcer outcome target
        then -1 else 0 := by
  have offers := @foldl_offers announcer frame outcome (targets announcer nowNs) {}
  have published := @foldl_published announcer frame outcome (targets announcer nowNs) {}
  have result := @foldl_result announcer frame outcome (targets announcer nowNs) {}
  simp only [publishDescriptor, offered_targets]
  cases none : targets announcer nowNs with
  | nil =>
      simp
  | cons target rest =>
      rw [none] at published offers result
      simp only [published, offers, result, List.isEmpty_cons, Bool.not_false, Bool.or_true, Bool.not_true,
        Bool.false_eq_true, if_false, List.nil_append, reduceCtorEq, false_or]
      exact ⟨trivial, trivial⟩

theorem offer_publishedOk (state : Announcing) (target : Target) :
    (state.offer announcer frame outcome target).publishedOk =
      (state.publishedOk || decide (0 ≤ outcome target)) := by
  rw [Announcing.offer]
  by_cases negative : outcome target < 0
  · have same : publishDescriptorTo (outcome target) = outcome target := if_pos negative
    rw [same, decide_eq_false (Int.not_le.mpr negative), Bool.or_false]
    by_cases tolerated : outcome target = publicationNotConnected ∧ announcer.dropUnconnectedDescriptors = true
    · rw [if_pos tolerated]
    · rw [if_neg tolerated, if_pos negative]
  · have same : publishDescriptorTo (outcome target) = 0 := if_neg negative
    have sent : ¬(0 = publicationNotConnected ∧ announcer.dropUnconnectedDescriptors = true) :=
      fun both => absurd both.1 (by decide)
    rw [same, if_neg sent, if_neg (by decide), decide_eq_true (Int.not_lt.mp negative), Bool.or_true]

/-- A descriptor is traced when an offer of it was accepted. -/
theorem publishDescriptor_traced :
    (publishDescriptor announcer frame nowNs outcome).traced =
      (publishDescriptor announcer frame nowNs outcome).offers.any fun offer => decide (0 ≤ outcome offer.1) := by
  have accepted (targets : List Target) (state : Announcing) :
      (targets.foldl (Announcing.offer announcer frame outcome) state).publishedOk =
        (state.publishedOk || targets.any fun target => decide (0 ≤ outcome target)) := by
    induction targets generalizing state with
    | nil => simp
    | cons target rest hypothesis => rw [List.foldl_cons, hypothesis, offer_publishedOk, List.any_cons, Bool.or_assoc]
  have published := @foldl_published announcer frame outcome (targets announcer nowNs) {}
  rw [publishDescriptor_spec.1, List.any_map]
  simp only [publishDescriptor, offered_targets]
  cases none : targets announcer nowNs with
  | nil => simp
  | cons target rest =>
      rw [none] at published
      simp only [published, List.isEmpty_cons, Bool.not_false, Bool.or_true, Bool.not_true, Bool.false_eq_true,
        if_false, accepted, Bool.false_or]
      rfl

/-- A frame changes only the entries of the consumers. -/
theorem publishDescriptor_announcer :
    (publishDescriptor announcer frame nowNs outcome).announcer =
      { announcer with
        consumerManager := announcer.consumerManager.map fun manager =>
          { manager with registry := announcer.entries.map fun entry => (passFrame nowNs entry).1 } } := by
  simp only [publishDescriptor, offerEach_eq]
  split_ifs <;> rfl

end Loop

section Counts

variable {announcer : Announcer} {frame : Frame} {nowNs : UInt64} {outcome : Target → Int} {entry : Manager.Entry}

/-- A frame passes to a consumer with a publication of its own that is not held back by its rate. -/
theorem passFrame_iff : (passFrame nowNs entry).2 = true ↔
    entry.inUse = true ∧ entry.descriptor.publication.isSome = true ∧
      ¬(rateLimited entry = true ∧ held nowNs entry = true) := by
  rw [passFrame]
  cases entry.inUse with
  | false => simp
  | true =>
      cases entry.descriptor.publication with
      | none => simp
      | some publication =>
          cases rateLimited entry with
          | false => simp
          | true => cases held nowNs entry <;> simp

/-- Only the time of a frame that is offered under a rate is stored. -/
theorem passFrame_entry : (passFrame nowNs entry).1 =
    if (passFrame nowNs entry).2 = true ∧ rateLimited entry = true then { entry with lastDescriptorNs := nowNs }
      else entry := by
  rw [passFrame]
  cases entry.inUse with
  | false => simp
  | true =>
      cases entry.descriptor.publication with
      | none => simp
      | some publication =>
          cases rateLimited entry with
          | false => simp
          | true => cases held nowNs entry <;> simp

/-- A consumer is reached once if the frame passes to it, and else not. -/
theorem count_reached (start : Nat) (entries : List Manager.Entry) (index : Nat) :
    (reached nowNs start entries).count (.consumer index) =
      if start ≤ index ∧ (passFrame nowNs (entries.getD (index - start) {})).2 = true then 1 else 0 := by
  induction entries generalizing start with
  | nil => rw [if_neg fun both => absurd both.2 (by simp [passFrame])]; rfl
  | cons entry rest hypothesis =>
      have own : (reached nowNs start (entry :: rest)).count (.consumer index) =
          (if (passFrame nowNs entry).2 = true ∧ start = index then 1 else 0) +
            (reached nowNs (start + 1) rest).count (.consumer index) := by
        rw [reached]
        by_cases passed : (passFrame nowNs entry).2 = true
        · rw [if_pos passed, List.count_cons, Nat.add_comm]
          simp [passed]
        · rw [if_neg passed, if_neg fun both => passed both.1, Nat.zero_add]
      rw [own, hypothesis]
      by_cases here : start = index
      · subst here
        rw [Nat.sub_self, List.getD_cons_zero, if_neg (show ¬(start + 1 ≤ start ∧ _) by omega)]
        simp
      · rw [if_neg fun both => here both.2, Nat.zero_add]
        by_cases later : start + 1 ≤ index
        · have place : index - start = index - (start + 1) + 1 := by omega
          have before : start ≤ index := by omega
          rw [place, List.getD_cons_succ]
          simp only [later, before, true_and]
        · rw [if_neg fun both => later both.1, if_neg (show ¬(start ≤ index ∧ _) by omega)]

theorem count_entryAt (index : Nat) :
    (reached nowNs 0 announcer.entries).count (.consumer index) =
      if (passFrame nowNs (announcer.entryAt index)).2 = true then 1 else 0 := by
  rw [count_reached]
  simp only [Nat.zero_le, true_and, Nat.sub_zero]
  rfl

/-- Only consumers are reached by the loop. -/
theorem reached_consumer {start : Nat} {entries : List Manager.Entry} {target : Target}
    (member : target ∈ reached nowNs start entries) : ∃ index, target = .consumer index := by
  induction entries generalizing start with
  | nil => cases member
  | cons entry rest hypothesis =>
      rw [reached] at member
      split at member
      · rcases List.mem_cons.mp member with same | later
        · exact ⟨start, same⟩
        · exact hypothesis later
      · exact hypothesis member

/-- A target is offered as often as it is among the targets. -/
theorem timesOffered_eq (target : Target) :
    (publishDescriptor announcer frame nowNs outcome).timesOffered target =
      (targets announcer nowNs).count target := by
  rw [Announced.timesOffered, publishDescriptor_spec.1, List.map_map]
  exact congrArg (List.count target) (List.map_id _)

/-- A consumer is offered once if the frame passes to it, and else not. -/
theorem timesOffered_consumer (index : Nat) :
    (publishDescriptor announcer frame nowNs outcome).timesOffered (.consumer index) =
      if (passFrame nowNs (announcer.entryAt index)).2 = true then 1 else 0 := by
  have none : (if announcer.descriptorPublication.isSome then [Target.shared] else []).count (.consumer index) =
    0 := by
    split <;> rfl
  rw [timesOffered_eq, targets, List.count_append, none, Nat.add_zero, count_entryAt]

/-- The shared stream is offered once if there is one. -/
theorem timesOffered_shared :
    (publishDescriptor announcer frame nowNs outcome).timesOffered .shared =
      if announcer.descriptorPublication.isSome then 1 else 0 := by
  have none : (reached nowNs 0 announcer.entries).count .shared = 0 := by
    apply List.count_eq_zero_of_not_mem
    intro member
    obtain ⟨index, absurdity⟩ := reached_consumer member
    cases absurdity
  rw [timesOffered_eq, targets, List.count_append, none, Nat.zero_add]
  split <;> rfl

/-- A consumer is among the targets exactly when the frame passes to it. -/
theorem mem_targets_consumer (index : Nat) :
    .consumer index ∈ (publishDescriptor announcer frame nowNs outcome).offers.map Prod.fst ↔
      (passFrame nowNs (announcer.entryAt index)).2 = true := by
  rw [← List.count_pos_iff]
  change 0 < (publishDescriptor announcer frame nowNs outcome).timesOffered (.consumer index) ↔ _
  rw [timesOffered_consumer]
  split <;> simp_all

/-- There is a target exactly when some publication is not held back. -/
theorem targets_nonempty : targets announcer nowNs ≠ [] ↔ announcer.Reaches nowNs := by
  rw [Announcer.Reaches, targets]
  cases announcer.descriptorPublication.isSome with
  | true => simp
  | false =>
      rw [if_neg Bool.false_ne_true, List.append_nil, or_iff_right Bool.false_ne_true]
      constructor
      · intro some
        obtain ⟨target, member⟩ := List.exists_mem_of_ne_nil _ some
        obtain ⟨index, rfl⟩ := reached_consumer member
        have count := List.count_pos_iff.mpr member
        rw [count_entryAt] at count
        by_cases passes : (passFrame nowNs (announcer.entryAt index)).2 = true
        · exact ⟨index, passFrame_iff.mp passes⟩
        · rw [if_neg passes] at count
          cases count
      · intro some
        obtain ⟨index, due⟩ := some
        apply List.ne_nil_of_mem
        rw [← List.count_pos_iff, count_entryAt, if_pos (passFrame_iff.mpr due)]
        exact Nat.one_pos

end Counts

/-- An entry in use keeps its last time through a change of the registry, or it is newly taken. -/
theorem manage_entry {announcer : Announcer} {action : Manager.Action} {index : Nat}
    (inUse : ((announcer.manage action).entryAt index).inUse = true) :
    ((announcer.entryAt index).inUse = true ∧
        ((announcer.manage action).entryAt index).lastDescriptorNs = (announcer.entryAt index).lastDescriptorNs) ∨
      (announcer.entryAt index).inUse = false ∧ ((announcer.manage action).entryAt index).lastDescriptorNs = 0 := by
  cases managed : announcer.consumerManager with
  | none =>
      have none : (announcer.manage action).entryAt index = {} := by
        rw [Announcer.entryAt, Announcer.entries, Announcer.manage, managed]
        rfl
      rw [none] at inUse
      cases inUse
  | some manager =>
      have before : announcer.entryAt index = manager.registry.getD index {} := by
        rw [Announcer.entryAt, Announcer.entries, managed]
        rfl
      have after : (announcer.manage action).entryAt index =
          (Manager.System.step ⟨manager, []⟩ action).manager.registry.getD index {} := by
        rw [Announcer.entryAt, Announcer.entries, Announcer.manage, managed]
        rfl
      rw [after] at inUse
      rw [before, after]
      clear before after
      cases action with
      | hello hello outside =>
          cases answered : Manager.handleHello manager hello outside with
          | mk changed reply =>
              cases reply with
              | ok config =>
                  have step : (Manager.System.step ⟨manager, []⟩ (.hello hello outside)).manager = changed := by
                    simp only [Manager.System.step, answered]
                  obtain ⟨place, old, new, given⟩ := Manager.handleHello_ok answered
                  have inside : place < manager.registry.length := (List.getElem?_eq_some_iff.mp given.place).1
                  rw [step, given.registry] at inUse ⊢
                  by_cases same : place = index
                  · subst same
                    have here : manager.registry.getD place {} = old := by
                      rw [List.getD_eq_getElem?_getD, given.place, Option.getD_some]
                    have there : (manager.registry.set place new).getD place {} = new := by
                      rw [List.getD_eq_getElem?_getD, List.getElem?_set_self inside, Option.getD_some]
                    rw [here, there]
                    exact given.paced
                  · have kept : (manager.registry.set place new).getD index {} = manager.registry.getD index {} := by
                      rw [List.getD_eq_getElem?_getD, List.getElem?_set_ne same, List.getD_eq_getElem?_getD]
                    rw [kept] at inUse ⊢
                    exact Or.inl ⟨inUse, rfl⟩
              | error text =>
                  have step : (Manager.System.step ⟨manager, []⟩ (.hello hello outside)).manager = manager := by
                    simp only [Manager.System.step, answered]
                    exact Manager.handleHello_error answered
                  rw [step] at inUse ⊢
                  exact Or.inl ⟨inUse, rfl⟩
      | touch consumerId nowNs =>
          have step : (Manager.System.step ⟨manager, []⟩ (.touch consumerId nowNs)).manager =
              Manager.touch manager consumerId nowNs := rfl
          rw [step] at inUse ⊢
          cases found : Manager.registryFind manager.registry consumerId with
          | none =>
              simp only [Manager.touch, found] at inUse ⊢
              exact Or.inl ⟨inUse, trivial⟩
          | some place =>
              simp only [Manager.touch, found, List.getD_eq_getElem?_getD, List.getElem?_modify] at inUse ⊢
              cases here : manager.registry[index]? with
              | none =>
                  rw [here] at inUse
                  cases inUse
              | some entry =>
                  rw [here] at inUse
                  by_cases same : place = index
                  · subst same
                    simp at inUse ⊢
                    exact Or.inl inUse
                  · simp [same] at inUse ⊢
                    exact Or.inl inUse
      | sweep nowNs staleNs =>
          have step : (Manager.System.step ⟨manager, []⟩ (.sweep nowNs staleNs)).manager.registry =
              manager.registry.map (Manager.Entry.sweep nowNs staleNs) := rfl
          rw [step] at inUse ⊢
          simp only [List.getD_eq_getElem?_getD, List.getElem?_map] at inUse ⊢
          cases here : manager.registry[index]? with
          | none =>
              rw [here] at inUse
              cases inUse
          | some entry =>
              rw [here] at inUse
              change (Manager.Entry.sweep nowNs staleNs entry).inUse = true at inUse
              change entry.inUse = true ∧ (Manager.Entry.sweep nowNs staleNs entry).lastDescriptorNs = _ ∨ _
              rw [Manager.Entry.sweep] at inUse ⊢
              split at inUse
              · cases inUse
              · rename_i fresh
                rw [if_neg fresh]
                exact Or.inl ⟨inUse, rfl⟩

/-- Each place of the registry keeps the time of the last frame that its rate let pass. -/
structure Paced (fan : Fan) : Prop where
  past : ∀ index, ∀ last ∈ (fan.tenures index).lastOffered, 0 < last ∧ last ≤ fan.clockNs
  dated : ∀ index, (fan.announcer.entryAt index).inUse = true → (fan.tenures index).steady = true →
    (fan.announcer.entryAt index).mode = (fan.tenures index).mode ∧
      (fan.announcer.entryAt index).maxRateHz = (fan.tenures index).maxRateHz ∧
      (rateLimited (fan.announcer.entryAt index) = true →
        (fan.announcer.entryAt index).lastDescriptorNs = (fan.tenures index).lastOffered.getD 0)

section Steps

variable {fan : Fan} {frame : Frame} {nowNs : UInt64} {outcome : Target → Int}

/-- The rate limit depends on the mode and the rate only. -/
theorem rateLimited_congr {entry other : Manager.Entry} (mode : entry.mode = other.mode)
    (rate : entry.maxRateHz = other.maxRateHz) : rateLimited entry = rateLimited other := by
  rw [rateLimited, rateLimited, mode, rate]

/-- Hellos, touches and sweeps keep the pace. -/
theorem Paced.manage (paced : Paced fan) (action : Manager.Action) : Paced (fan.step (.manage action)) where
  past := by
    intro index last member
    rw [Fan.step] at member ⊢
    simp only [Tenure.follow] at member
    split at member
    · exact paced.past index last member
    · cases member
  dated := by
    intro index inUse steady
    rw [Fan.step] at inUse steady ⊢
    dsimp only at inUse steady ⊢
    rw [Tenure.follow] at steady ⊢
    rcases manage_entry inUse with ⟨used, kept⟩ | ⟨free, zero⟩
    · rw [used, inUse, Bool.and_self, if_pos rfl] at steady ⊢
      simp only [Bool.and_eq_true, beq_iff_eq] at steady
      obtain ⟨⟨before, mode⟩, rate⟩ := steady
      obtain ⟨oldMode, oldRate, dated⟩ := paced.dated index used before
      refine ⟨mode, rate, fun limited => ?_⟩
      rw [kept]
      apply dated
      rw [← limited]
      exact rateLimited_congr (oldMode.trans mode.symm) (oldRate.trans rate.symm)
    · rw [free, Bool.false_and, if_neg Bool.false_ne_true]
      exact ⟨rfl, rfl, fun _ => zero⟩

/-- A frame changes an entry as it passes it. -/
theorem entryAt_announced (index : Nat) :
    (publishDescriptor fan.announcer frame nowNs outcome).announcer.entryAt index =
      (passFrame nowNs (fan.announcer.entryAt index)).1 := by
  rw [publishDescriptor_announcer, Announcer.entryAt, Announcer.entries]
  cases managed : fan.announcer.consumerManager with
  | none =>
      rw [Announcer.entryAt, Announcer.entries, managed]
      rfl
  | some manager =>
      simp only [Option.map_some, Option.getD_some, List.getD_eq_getElem?_getD, List.getElem?_map, Announcer.entryAt]
      cases fan.announcer.entries[index]? with
      | none => rfl
      | some entry => rfl

/-- A later frame keeps the pace. -/
theorem Paced.announce (paced : Paced fan) (positive : 0 < nowNs) (later : fan.clockNs ≤ nowNs) :
    Paced (fan.step (.frame frame nowNs outcome)) where
  past := by
    intro index last member
    rw [Fan.step] at member ⊢
    dsimp only at member ⊢
    split at member
    · cases member
      exact ⟨positive, UInt64.le_refl _⟩
    · obtain ⟨above, below⟩ := paced.past index last member
      exact ⟨above, UInt64.le_trans below later⟩
  dated := by
    intro index inUse steady
    rw [Fan.step] at inUse steady ⊢
    dsimp only at inUse steady ⊢
    rw [entryAt_announced, passFrame_entry] at inUse ⊢
    simp only [mem_targets_consumer] at steady ⊢
    have used : (fan.announcer.entryAt index).inUse = true := by
      split at inUse
      · exact inUse
      · exact inUse
    have before : (fan.tenures index).steady = true := by
      split at steady
      · exact steady
      · exact steady
    obtain ⟨mode, rate, dated⟩ := paced.dated index used before
    by_cases offered : (passFrame nowNs (fan.announcer.entryAt index)).2 = true
    · rw [if_pos offered]
      by_cases limited : rateLimited (fan.announcer.entryAt index) = true
      · rw [if_pos ⟨offered, limited⟩]
        exact ⟨mode, rate, fun _ => rfl⟩
      · rw [if_neg fun both => limited both.2]
        exact ⟨mode, rate, fun some => absurd some limited⟩
    · rw [if_neg offered, if_neg fun both => offered both.1]
      exact ⟨mode, rate, dated⟩

/-- The unsigned comparison of the code is the one of the times. -/
theorem held_eq (paced : Paced fan) (later : fan.clockNs ≤ nowNs) {index : Nat}
    (inUse : (fan.announcer.entryAt index).inUse = true) (steady : (fan.tenures index).steady = true)
    (limited : rateLimited (fan.announcer.entryAt index) = true) :
    held nowNs (fan.announcer.entryAt index) = (fan.tenures index).tooSoon nowNs := by
  obtain ⟨-, rate, dated⟩ := paced.dated index inUse steady
  have interval : (intervalNs (fan.announcer.entryAt index)).toNat =
    10 ^ 9 / (fan.tenures index).maxRateHz.toNat := by
    rw [intervalNs, UInt64.toNat_div, rate]
    rfl
  rw [held, dated limited, Tenure.tooSoon, Bool.eq_iff_iff, ← interval]
  cases last : (fan.tenures index).lastOffered with
  | none => simp
  | some time =>
      obtain ⟨positive, below⟩ := paced.past index time last
      have before := UInt64.le_trans below later
      rw [UInt64.lt_iff_toNat_lt] at positive
      rw [UInt64.le_iff_toNat_le] at before
      have zero : time ≠ 0 := by
        rintro rfl
        exact Nat.lt_irrefl _ positive
      simp only [Option.getD_some, Bool.and_eq_true, decide_eq_true_eq, bne_iff_ne, zero, ne_eq,
        not_false_eq_true, and_true, UInt64.lt_iff_toNat_lt, UInt64.toNat_sub_of_le _ _ (UInt64.le_trans below later)]
      change 0 < _ ∧ _ ↔ _
      omega

end Steps

section Runs

variable {fan : Fan} {events : List FanEvent} {frame : Frame} {nowNs : UInt64} {outcome : Target → Int}

/-- A timed run keeps the pace. -/
theorem run_paced (paced : Paced fan) (timed : Timed fan.clockNs events) : Paced (fan.run events) := by
  induction events generalizing fan with
  | nil => exact paced
  | cons event rest hypothesis =>
      cases event with
      | manage action => exact hypothesis (paced.manage action) timed
      | frame frame nowNs outcome =>
          obtain ⟨positive, later, after⟩ := timed
          exact hypothesis (paced.announce positive later) after

/-- The last frame of a run comes after the frames before it. -/
theorem timed_last (timed : Timed fan.clockNs (events ++ [.frame frame nowNs outcome])) :
    Timed fan.clockNs events ∧ (fan.run events).clockNs ≤ nowNs := by
  induction events generalizing fan with
  | nil => exact ⟨trivial, timed.2.1⟩
  | cons event rest hypothesis =>
      cases event with
      | manage action => exact @hypothesis (fan.step (.manage action)) timed
      | frame earlier clockNs outcomes =>
          obtain ⟨positive, later, after⟩ := timed
          obtain ⟨before, last⟩ := @hypothesis (fan.step (.frame earlier clockNs outcomes)) after
          exact ⟨⟨positive, later, before⟩, last⟩

/-- A new announcer keeps the pace. -/
theorem paced_fresh {announcer : Announcer} (fresh : announcer.Fresh) : Paced { announcer } where
  past := by
    intro index last absent
    cases absent
  dated := by
    intro index inUse
    have free : announcer.entryAt index = {} := by
      rw [Announcer.entryAt, Announcer.entries]
      cases managed : announcer.consumerManager with
      | none => rfl
      | some manager =>
          obtain ⟨capacity, rfl⟩ := fresh manager managed
          rw [Option.map_some, Option.getD_some, Manager.managerInit, Manager.registryInit,
            List.getD_eq_getElem?_getD, List.getElem?_replicate]
          split <;> rfl
    rw [free] at inUse
    cases inUse

/-- A frame reaches everybody who is due, and the result is right, exactly when somebody is due. -/
theorem fan_out_exact_iff {announcer : Announcer} (fresh : announcer.Fresh)
    (timed : Timed 0 (events ++ [.frame frame nowNs outcome])) :
    FanOutExact (Fan.run { announcer } events) frame nowNs outcome ↔
      (Fan.run { announcer } events).announcer.Reaches nowNs := by
  obtain ⟨before, later⟩ := @timed_last { announcer } events frame nowNs outcome timed
  have paced := @run_paced { announcer } events (paced_fresh fresh) before
  revert later paced
  generalize Fan.run { announcer } events = fan
  intro later paced
  rw [← targets_nonempty]
  constructor
  · intro exact none
    have done := @publishDescriptor_spec fan.announcer frame nowNs outcome
    have success := exact.success
    rw [done.1, done.2, none, if_pos (Or.inl rfl)] at success
    exact absurd (success.mpr fun _ absent => absurd absent List.not_mem_nil) (by decide)
  · intro some
    have done := @publishDescriptor_spec fan.announcer frame nowNs outcome
    constructor
    · exact timesOffered_shared
    · intro index absent
      rw [timesOffered_consumer, if_neg]
      intro passes
      obtain ⟨inUse, own, -⟩ := passFrame_iff.mp passes
      exact absent ⟨inUse, own⟩
    · intro index inUse own free
      rw [timesOffered_consumer, if_pos (passFrame_iff.mpr ⟨inUse, own, fun both => free both.1⟩)]
    · intro index inUse own limited steady
      rw [timesOffered_consumer, ← held_eq paced later inUse steady limited]
      by_cases back : held nowNs (fan.announcer.entryAt index) = true
      · rw [if_pos back, if_neg fun passes => (passFrame_iff.mp passes).2.2 ⟨limited, back⟩]
      · rw [if_neg back, if_pos (passFrame_iff.mpr ⟨inUse, own, fun both => back both.2⟩)]
    · intro index
      rw [timesOffered_consumer]
      split
      · exact Nat.le_refl 1
      · exact Nat.zero_le 1
    · rw [done.1, List.forall_mem_map]
      exact fun _ _ => rfl
    · rw [done.1, done.2, List.forall_mem_map]
      by_cases failed : ∃ target ∈ targets fan.announcer nowNs, OfferFails fan.announcer outcome target
      · rw [if_pos (Or.inr failed)]
        apply iff_of_false (by decide)
        intro fine
        obtain ⟨target, member, fails⟩ := failed
        exact fine target member fails
      · rw [if_neg fun either => either.elim some failed]
        apply iff_of_true rfl
        exact fun target member fails => failed ⟨target, member, fails⟩

end Runs

/-- One consumer asks for its own descriptors at one frame in a second. -/
def slowHello : Manager.ConsumerHello where
  streamId := 7
  consumerId := 3
  supportsShm := 1
  supportsProgress := 0
  mode := modeRateLimited
  maxRateHz := 1
  progressIntervalUs := 0
  progressBytesDelta := 0
  progressMajorDeltaUnits := 0
  descriptorStreamId := 11
  controlStreamId := 0
  descriptorChannel := [97]
  controlChannel := []

def slowAnnouncer : Announcer where
  streamId := 7
  epoch := 1
  consumerManager := some (Manager.managerInit 1)

def slowEvents : List FanEvent :=
  [.manage (.hello slowHello ⟨500, true, true⟩), .frame ⟨0, 1000, 0, 9⟩ 1000 fun _ => 64]

theorem slowAnnouncer_fresh : slowAnnouncer.Fresh :=
  fun _ same => ⟨1, (Option.some.inj same).symm⟩

theorem fan_out_exact_slow :
    FanOutExact (Fan.run { announcer := slowAnnouncer } slowEvents) ⟨1, 2000000000, 0, 9⟩ 2000000000 (fun _ => 64) ↔
      (Fan.run { announcer := slowAnnouncer } slowEvents).announcer.Reaches 2000000000 :=
  @fan_out_exact_iff slowEvents ⟨1, 2000000000, 0, 9⟩ 2000000000 (fun _ => 64) slowAnnouncer slowAnnouncer_fresh
    (by simp only [slowEvents, Timed, List.cons_append, List.nil_append]; decide)

/-- The second frame is skipped for the only consumer, and the call fails although no offer has. -/
theorem skipped_frame_fails :
    (publishDescriptor (Fan.run { announcer := slowAnnouncer } slowEvents).announcer ⟨1, 1001, 0, 9⟩ 1001
        (fun _ => 64)).offers = [] ∧
      (publishDescriptor (Fan.run { announcer := slowAnnouncer } slowEvents).announcer ⟨1, 1001, 0, 9⟩ 1001
        (fun _ => 64)).result = -1 ∧
      ¬FanOutExact (Fan.run { announcer := slowAnnouncer } slowEvents) ⟨1, 1001, 0, 9⟩ 1001 (fun _ => 64) := by
  have none : (publishDescriptor (Fan.run { announcer := slowAnnouncer } slowEvents).announcer ⟨1, 1001, 0, 9⟩ 1001
      (fun _ => 64)).offers = [] := by decide +kernel
  have failed : (publishDescriptor (Fan.run { announcer := slowAnnouncer } slowEvents).announcer ⟨1, 1001, 0, 9⟩ 1001
      (fun _ => 64)).result = -1 := by decide +kernel
  refine ⟨none, failed, fun exact => ?_⟩
  have success := exact.success
  rw [none, failed] at success
  exact absurd (success.mpr fun _ absent => absurd absent List.not_mem_nil) (by decide)

end TensorPool.Client
