/-
This file proves that the queue of many producers delivers as a bounded queue does.
-/

import TensorPool.Queue.Steps

namespace TensorPool.Queue

variable {width capacity producer : Nat} {state : System} {actions : List Action} {events : List Event}

/-- The producers that call, one for each call. -/
def callers (actions : List Action) : List Nat :=
  actions.filterMap fun action => match action with
    | .callOffer producer _ => some producer
    | _ => none

/-- The item that an offer copies is taken and not yet accepted. -/
def OfferAt.inside : OfferAt → Option (List UInt8)
  | .copy item _ _ => some item
  | _ => none

/-- Each taken item and each waiting offer has a call of its own. -/
def Called (actions : List Action) (state : System) : Prop :=
  ∀ producer, ((taken state.log).map Prod.fst).count producer + (state.producers producer).waits ≤
    (callers actions).count producer

/-- The items of a producer are the accepted ones and the one that it copies. -/
def Ordered (state : System) : Prop :=
  ∀ producer, ofProducer producer (taken state.log) =
    ofProducer producer (accepted state.log) ++ (state.producers producer).inside.toList.map (producer, ·)

/-- There are no more taken items than calls. -/
theorem Called.taken_le (called : Called actions state) :
    (taken state.log).length ≤ (callers actions).length := by
  have within : List.Subperm ((taken state.log).map Prod.fst) (callers actions) := by
    rw [List.subperm_ext_iff]
    intro producer _
    have := called producer
    omega
  have short := within.length_le
  rwa [List.length_map] at short

/-- The callers of a run are those of both parts. -/
@[simp] theorem callers_append (first second : List Action) :
    callers (first ++ second) = callers first ++ callers second :=
  List.filterMap_append

/-- A step that takes no item and lets no new offer wait keeps the calls enough. -/
theorem Called.keeps (called : Called actions state) {after : System} (action : Action)
    (noTake : taken after.log = taken state.log)
    (waits : ∀ producer, (after.producers producer).waits ≤
      (state.producers producer).waits + (callers [action]).count producer) :
    Called (actions ++ [action]) after := by
  intro producer
  have before := called producer
  have now := waits producer
  rw [noTake, callers_append, List.count_append]
  omega

/-- A producer that moves on does not wait longer. -/
theorem update_waits (state : System) (producer other : Nat) (at' : OfferAt)
    (waits : at'.waits ≤ (state.producers producer).waits) :
    (Function.update state.producers producer at' other).waits ≤ (state.producers other).waits := by
  by_cases equal : other = producer
  · rw [equal, Function.update_self]
    exact waits
  · rw [Function.update_of_ne equal]

/-- A step of an offer is counted for its call. -/
theorem Called.offered (called : Called actions state) {after : System} {fails : Bool}
    (change : OfferChange width state producer after) :
    Called (actions ++ [.offer producer fails]) after := by
  cases change with
  | moved at' outside stays waits next =>
      refine called.keeps _ (List.append_nil (taken state.log) ▸ taken_append ..) fun other => ?_
      exact update_waits state producer other at' waits
  | refused item outside full =>
      refine called.keeps _ ((taken_append ..).trans (List.append_nil _)) fun other => ?_
      exact update_waits state producer other .idle (Nat.zero_le _)
  | stored item pos done copies short =>
      refine called.keeps _ rfl fun other => ?_
      exact update_waits state producer other _ (Nat.zero_le _)
  | published item pos copies =>
      refine called.keeps _ ((taken_append ..).trans (List.append_nil _)) fun other => ?_
      exact update_waits state producer other .idle (Nat.zero_le _)
  | took item pos outside waited last free length =>
      intro other
      have before := called other
      have same : callers (actions ++ [.offer producer fails]) = callers actions :=
        (callers_append ..).trans (List.append_nil _)
      have entries : taken (state.takes producer item pos).log = taken state.log ++ [(producer, item)] :=
        taken_append ..
      rw [same, entries, List.map_append, List.count_append]
      simp only [System.takes]
      by_cases equal : other = producer
      · subst equal
        rw [Function.update_self]
        rw [waited] at before
        change _ + List.count other [other] + 0 ≤ _
        rw [List.count_singleton_self]
        omega
      · rw [Function.update_of_ne equal]
        change _ + List.count other [producer] + _ ≤ _
        have none : List.count other [producer] = 0 := List.count_eq_zero.mpr (by simpa using equal)
        omega

/-- Each step is counted for its call. -/
theorem Called.step (called : Called actions state) (sound : Sound width state)
    (small : (taken state.log).length < 2 ^ 63) (action : Action) (near : LoadsNear state action) :
    Called (actions ++ [action]) (state.step action) := by
  cases action with
  | offer producer fails => exact called.offered (offer_change sound small producer fails near)
  | poll fails =>
      have change := poll_change sound small fails
      generalize state.step (.poll fails) = after at change
      cases change with
      | moved poll next steps =>
          exact called.keeps _ ((taken_append ..).trans (List.append_nil _)) fun _ => Nat.le_refl _
      | empty stays oldest =>
          exact called.keeps _ ((taken_append ..).trans (List.append_nil _)) fun _ => Nat.le_refl _
      | advanced pos from' => exact called.keeps _ rfl fun _ => Nat.le_refl _
      | released pos out copies whole =>
          exact called.keeps _ ((taken_append ..).trans (List.append_nil _)) fun _ => Nat.le_refl _
  | callPoll itemSize =>
      simp only [System.step]
      split
      · unfold mpscQueuePoll
        split
        · exact called.keeps _ ((taken_append ..).trans (List.append_nil _)) fun _ => Nat.le_refl _
        · exact called.keeps _ ((taken_append ..).trans (List.append_nil _)) fun _ => Nat.le_refl _
      · exact called.keeps _ rfl fun _ => Nat.le_refl _
  | callOffer producer item =>
      simp only [System.step]
      split
      next idle =>
        have entered : ∀ at', (∀ other, (Function.update state.producers producer at' other).waits ≤
            (state.producers other).waits + (callers [.callOffer producer item]).count other) := by
          intro at' other
          by_cases equal : other = producer
          · subst equal
            have one : (callers [.callOffer other item]).count other = 1 := List.count_singleton_self
            have atMost : at'.waits ≤ 1 := by cases at' <;> simp [OfferAt.waits]
            rw [Function.update_self, one]
            omega
          · rw [Function.update_of_ne equal]
            omega
        unfold mpscQueueOffer
        split
        · exact called.keeps _ ((taken_append ..).trans (List.append_nil _)) (entered _)
        · exact called.keeps _ ((taken_append ..).trans (List.append_nil _)) (entered _)
      · exact called.keeps _ rfl fun _ => Nat.le_add_right _ _

/-- An offer outside its copy does not change the order of the taken items. -/
theorem Ordered.moves (ordered : Ordered state) {at' : OfferAt}
    (inside : at'.inside = (state.producers producer).inside) (noTake : taken events = [])
    (noAccept : accepted events = []) : Ordered (state.offerMoves producer at' events) := by
  intro other
  simp only [System.offerMoves, taken_append, accepted_append, noTake, noAccept, List.append_nil]
  by_cases equal : other = producer
  · rw [equal, Function.update_self, inside]
    exact ordered producer
  · rw [Function.update_of_ne equal]
    exact ordered other

/-- A producer without a copy is not inside. -/
theorem inside_of_outside {at' : OfferAt} (outside : at'.copyAt = none) : at'.inside = none := by
  cases at' with
  | copy item pos done => cases outside
  | idle => rfl
  | loadTail item => rfl
  | loadSequence item pos => rfl
  | exchange item pos => rfl

/-- The items of a producer are those of both parts. -/
theorem ofProducer_append (producer : Nat) (first second : List (Nat × List UInt8)) :
    ofProducer producer (first ++ second) = ofProducer producer first ++ ofProducer producer second :=
  List.filter_append ..

theorem ofProducer_self (producer : Nat) (item : List UInt8) :
    ofProducer producer [(producer, item)] = [(producer, item)] := by
  simp [ofProducer]

theorem ofProducer_other {producer other : Nat} (different : other ≠ producer) (item : List UInt8) :
    ofProducer other [(producer, item)] = [] := by
  simp [ofProducer, Ne.symm different]

/-- A step of an offer keeps the order of its producer. -/
theorem Ordered.offered (ordered : Ordered state) {after : System}
    (change : OfferChange width state producer after) : Ordered after := by
  cases change with
  | moved at' outside stays waits next =>
      exact ordered.moves ((inside_of_outside stays).trans (inside_of_outside outside).symm) rfl rfl
  | refused item outside full => exact ordered.moves (inside_of_outside outside).symm rfl rfl
  | stored item pos done copies short =>
      intro other
      have before := ordered other
      simp only [System.stores]
      by_cases equal : other = producer
      · rw [equal, copies] at before
        rw [equal, Function.update_self]
        exact before
      · rw [Function.update_of_ne equal]
        exact before
  | took item pos outside waited last free length =>
      intro other
      have before := ordered other
      change ofProducer other (taken (state.log ++ [.taken producer item])) =
        ofProducer other (accepted (state.log ++ [.taken producer item])) ++ _
      have noAccept : accepted (state.log ++ [.taken producer item]) = accepted state.log :=
        (accepted_append ..).trans (List.append_nil _)
      rw [noAccept, taken_append, ofProducer_append, before]
      simp only [System.takes]
      by_cases equal : other = producer
      · rw [equal, Function.update_self, inside_of_outside outside]
        simp only [Option.toList_none, List.map_nil, List.append_nil]
        exact congrArg _ (ofProducer_self producer item)
      · rw [Function.update_of_ne equal]
        have none : ofProducer other (taken [.taken producer item]) = [] := ofProducer_other equal item
        rw [none, List.append_nil]
  | published item pos copies =>
      intro other
      have before := ordered other
      change ofProducer other (taken (state.log ++ [.offered producer item none])) =
        ofProducer other (accepted (state.log ++ [.offered producer item none])) ++ _
      have noTake : taken (state.log ++ [.offered producer item none]) = taken state.log :=
        (taken_append ..).trans (List.append_nil _)
      rw [noTake, accepted_append, ofProducer_append, before]
      simp only [System.publishes]
      by_cases equal : other = producer
      · rw [equal, Function.update_self, copies]
        change _ = _ ++ ofProducer producer [(producer, item)] ++ []
        rw [ofProducer_self, List.append_nil]
        rfl
      · rw [Function.update_of_ne equal]
        have none : ofProducer other (accepted [.offered producer item none]) = [] := ofProducer_other equal item
        rw [none, List.append_nil]

/-- A step without a take or an accepted item keeps the order. -/
theorem Ordered.same (ordered : Ordered state) {after : System} (producers : after.producers = state.producers)
    (noTake : taken after.log = taken state.log) (noAccept : accepted after.log = accepted state.log) :
    Ordered after := by
  intro producer
  rw [noTake, noAccept, producers]
  exact ordered producer

/-- Each step keeps the order. -/
theorem Ordered.step (ordered : Ordered state) (sound : Sound width state)
    (small : (taken state.log).length < 2 ^ 63) (action : Action) (near : LoadsNear state action) :
    Ordered (state.step action) := by
  cases action with
  | offer producer fails => exact ordered.offered (offer_change sound small producer fails near)
  | poll fails =>
      have change := poll_change sound small fails
      generalize state.step (.poll fails) = after at change
      cases change with
      | moved poll next steps =>
          exact ordered.same rfl ((taken_append ..).trans (List.append_nil _))
            ((accepted_append ..).trans (List.append_nil _))
      | empty stays oldest =>
          exact ordered.same rfl ((taken_append ..).trans (List.append_nil _))
            ((accepted_append ..).trans (List.append_nil _))
      | advanced pos from' => exact ordered
      | released pos out copies whole =>
          exact ordered.same rfl ((taken_append ..).trans (List.append_nil _))
            ((accepted_append ..).trans (List.append_nil _))
  | callPoll itemSize =>
      simp only [System.step]
      split
      · unfold mpscQueuePoll
        split
        · exact ordered.same rfl ((taken_append ..).trans (List.append_nil _))
            ((accepted_append ..).trans (List.append_nil _))
        · exact ordered.same rfl ((taken_append ..).trans (List.append_nil _))
            ((accepted_append ..).trans (List.append_nil _))
      · exact ordered
  | callOffer producer item =>
      simp only [System.step]
      split
      next idle =>
        unfold mpscQueueOffer
        split
        · exact ordered.moves (by rw [idle]) rfl rfl
        · exact ordered.moves (by rw [idle]; rfl) rfl rfl
      · exact ordered

end TensorPool.Queue
