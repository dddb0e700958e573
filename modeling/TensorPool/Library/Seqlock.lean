/-
This file gives cells with a stamp that guards a body, and readers that load the stamp twice.
A closed stamp is stored once, and the body changes only below an open stamp.
-/

import Mathlib.Data.List.Flatten
import Mathlib.Data.List.Infix
import Mathlib.Logic.Function.Basic

namespace Seqlock

variable {ω β α γ : Type}

inductive Store (ω β : Type) where
  | stamp (word : ω)
  | body (offset : Nat) (value : β)

structure Cell (ω β : Type) where
  stamp : ω
  body : Nat → β

def Cell.store (cell : Cell ω β) : Store ω β → Cell ω β
  | .stamp word => { cell with stamp := word }
  | .body offset value => { cell with body := Function.update cell.body offset value }

def Cell.after (cell : Cell ω β) (history : List (Store ω β)) : Cell ω β :=
  history.foldl Cell.store cell

theorem Cell.after_append (cell : Cell ω β) (first second : List (Store ω β)) :
    cell.after (first ++ second) = (cell.after first).after second :=
  List.foldl_append

/-- The stamps of a history, in the order of their stores. -/
def stamps (history : List (Store ω β)) : List ω :=
  history.filterMap fun store =>
    match store with
    | .stamp word => some word
    | .body _ _ => none

/-- The last stored stamp is shown, and the first one when none was stored. -/
theorem Cell.after_stamp (cell : Cell ω β) (history : List (Store ω β)) :
    (cell.after history).stamp = (stamps history).getLastD cell.stamp := by
  induction history generalizing cell with
  | nil => rfl
  | cons store rest hypothesis =>
      have later := hypothesis (cell.store store)
      cases store with
      | stamp word =>
          change ((cell.store (.stamp word)).after rest).stamp = (word :: stamps rest).getLastD cell.stamp
          rw [later, List.getLastD_cons]
          rfl
      | body offset value => exact later

/-- The stamp is the first one or a stored one. -/
theorem Cell.stamp_source {cell : Cell ω β} {history : List (Store ω β)} {word : ω}
    (shown : (cell.after history).stamp = word) : cell.stamp = word ∨ .stamp word ∈ history := by
  induction history generalizing cell with
  | nil => exact .inl shown
  | cons store rest hypothesis =>
      rcases hypothesis shown with first | later
      · cases store with
        | stamp stored =>
            obtain rfl : stored = word := first
            exact .inr List.mem_cons_self
        | body offset value => exact .inl first
      · exact .inr (List.mem_cons_of_mem _ later)

/-- The writer opens the stamp before it changes the body, and stores a closed stamp once. -/
structure Disciplined (closed : ω → Prop) (cell : Cell ω β) (history : List (Store ω β)) : Prop where
  opened : ¬ closed cell.stamp
  bodies : ∀ past offset value rest, history = past ++ .body offset value :: rest →
    ¬ closed (cell.after past).stamp
  once : ∀ word, closed word → ∀ first middle last,
    history ≠ first ++ .stamp word :: (middle ++ .stamp word :: last)

variable {closed : ω → Prop} {cell : Cell ω β} {history past since : List (Store ω β)}

/-- A closed stamp that is shown twice was shown all the time, and nothing was stored meanwhile. -/
theorem Disciplined.stable (disciplined : Disciplined closed cell (past ++ since)) {word : ω}
    (isClosed : closed word) (first : (cell.after past).stamp = word)
    (second : (cell.after (past ++ since)).stamp = word) : since = [] := by
  have stored : .stamp word ∈ past := by
    rcases Cell.stamp_source first with initial | stored
    · exact absurd (initial ▸ isClosed) disciplined.opened
    · exact stored
  obtain ⟨before, after, rfl⟩ := List.append_of_mem stored
  have never : ∀ front back, since ≠ front ++ .stamp word :: back := by
    intro front back split
    refine disciplined.once word isClosed before (after ++ front) back ?_
    rw [split]
    simp only [List.append_assoc, List.cons_append]
  cases since with
  | nil => rfl
  | cons store rest =>
      cases store with
      | body offset value =>
          have opened := disciplined.bodies _ offset value rest rfl
          rw [first] at opened
          exact absurd isClosed opened
      | stamp other =>
          rw [List.append_cons, Cell.after_append] at second
          rcases Cell.stamp_source second with same | later
          · rw [Cell.after_append] at same
            obtain rfl : other = word := same
            exact absurd rfl (never [] rest)
          · obtain ⟨front, back, rfl⟩ := List.append_of_mem later
            exact absurd rfl (never (.stamp other :: front) back)

/-- A reader loads the stamp or a part of the body, one load at a time. -/
inductive Reading (ω β α : Type) where
  | ret (result : α)
  | stamp (next : ω → Reading ω β α)
  | body (offset : Nat) (next : β → Reading ω β α)

namespace Reading

/-- The result of a reader where each load meets a cell of its own. -/
def during : (Nat → Cell ω β) → Reading ω β α → α
  | _, .ret result => result
  | cells, .stamp next => during (fun load => cells (load + 1)) (next (cells 0).stamp)
  | cells, .body offset next => during (fun load => cells (load + 1)) (next ((cells 0).body offset))

/-- The result of a reader when nothing is stored meanwhile. -/
def alone (cell : Cell ω β) : Reading ω β α → α
  | .ret result => result
  | .stamp next => alone cell (next cell.stamp)
  | .body offset next => alone cell (next (cell.body offset))

/-- One load of a reader. -/
def step (cell : Cell ω β) : Reading ω β α → Reading ω β α
  | .ret result => .ret result
  | .stamp next => next cell.stamp
  | .body offset next => next (cell.body offset)

def bind : Reading ω β α → (α → Reading ω β γ) → Reading ω β γ
  | .ret result, next => next result
  | .stamp load, next => .stamp fun word => (load word).bind next
  | .body offset load, next => .body offset fun value => (load value).bind next

instance : Monad (Reading ω β) where
  pure := .ret
  bind := bind

@[simp] theorem alone_pure (cell : Cell ω β) (result : α) :
    alone cell (pure result : Reading ω β α) = result := rfl

@[simp] theorem alone_bind (cell : Cell ω β) (reading : Reading ω β α) (next : α → Reading ω β γ) :
    alone cell (reading >>= next) = alone cell (next (alone cell reading)) := by
  change alone cell (reading.bind next) = _
  induction reading with
  | ret result => rfl
  | stamp load hypothesis => exact hypothesis _
  | body offset load hypothesis => exact hypothesis _

/-- Some answers to the loads lead to this result. -/
def Returns (result : α) : Reading ω β α → Prop
  | .ret other => other = result
  | .stamp next => ∃ word, Returns result (next word)
  | .body _ next => ∃ value, Returns result (next value)

/-- A sequence returns what its second part returns after a result of its first. -/
theorem Returns.bind {reading : Reading ω β α} {next : α → Reading ω β γ} {result : γ}
    (returns : Returns result (reading >>= next)) :
    ∃ first, Returns first reading ∧ Returns result (next first) := by
  change Returns result (reading.bind next) at returns
  induction reading with
  | ret first => exact ⟨first, rfl, returns⟩
  | stamp load hypothesis =>
      obtain ⟨word, returns⟩ := returns
      obtain ⟨first, loaded, last⟩ := hypothesis word returns
      exact ⟨first, ⟨word, loaded⟩, last⟩
  | body offset load hypothesis =>
      obtain ⟨value, returns⟩ := returns
      obtain ⟨first, loaded, last⟩ := hypothesis value returns
      exact ⟨first, ⟨value, loaded⟩, last⟩

/-- No result of the reader is accepted. -/
def Refuses (accepts : α → Prop) : Reading ω β α → Prop
  | .ret result => ¬ accepts result
  | .stamp next => ∀ word, Refuses accepts (next word)
  | .body _ next => ∀ value, Refuses accepts (next value)

/-- The reader accepts only right after it has loaded the stamp again. -/
def Closes (accepts : α → Prop) (word : ω) : Reading ω β α → Prop
  | .ret result => ¬ accepts result
  | .stamp next => (∀ other, other ≠ word → Closes accepts word (next other)) ∧
      (Closes accepts word (next word) ∨ ∃ result, next word = .ret result)
  | .body _ next => ∀ value, Closes accepts word (next value)

/-- The reader loads the stamp first, and goes on only with a closed one. -/
def Opens (accepts : α → Prop) (closed : ω → Prop) : Reading ω β α → Prop
  | .ret result => ¬ accepts result
  | .stamp next => ∀ word, (closed word → Closes accepts word (next word)) ∧
      (¬ closed word → Refuses accepts (next word))
  | .body _ _ => False

/-- A part of the reader that only loads leaves the second load to the rest. -/
theorem closes_bind {accepts : γ → Prop} {word : ω} (reading : Reading ω β α) (next : α → Reading ω β γ)
    (rest : ∀ result, Closes accepts word (next result)) : Closes accepts word (reading >>= next) := by
  change Closes accepts word (reading.bind next)
  induction reading with
  | ret result => exact rest result
  | stamp load hypothesis => exact ⟨fun other _ => hypothesis other, .inl (hypothesis word)⟩
  | body offset load hypothesis => exact hypothesis

/-- The reader loads parts of the body from these places only, and never the stamp. -/
def LoadsIn (places : Nat → Prop) : Reading ω β α → Prop
  | .ret _ => True
  | .stamp _ => False
  | .body offset next => places offset ∧ ∀ value, LoadsIn places (next value)

theorem loadsIn_bind {places : Nat → Prop} {reading : Reading ω β α} {next : α → Reading ω β γ}
    (first : LoadsIn places reading) (rest : ∀ result, LoadsIn places (next result)) :
    LoadsIn places (reading >>= next) := by
  change LoadsIn places (reading.bind next)
  induction reading with
  | ret result => exact rest result
  | stamp load hypothesis => exact first.elim
  | body offset load hypothesis => exact ⟨first.1, fun value => hypothesis value (first.2 value)⟩

theorem LoadsIn.step {places : Nat → Prop} {reading : Reading ω β α} (within : LoadsIn places reading)
    (cell : Cell ω β) : LoadsIn places (reading.step cell) := by
  cases reading with
  | ret result => exact within
  | stamp load => exact within.elim
  | body offset load => exact within.2 _

/-- Two cells that agree in these places give the reader one result. -/
theorem LoadsIn.alone_congr {places : Nat → Prop} {reading : Reading ω β α} {cell other : Cell ω β}
    (within : LoadsIn places reading) (same : ∀ place, places place → cell.body place = other.body place) :
    reading.alone cell = reading.alone other := by
  induction reading with
  | ret result => rfl
  | stamp load hypothesis => exact within.elim
  | body offset load hypothesis =>
      rw [alone, alone, same offset within.1]
      exact hypothesis _ (within.2 _)

theorem alone_step (cell : Cell ω β) (reading : Reading ω β α) :
    (reading.step cell).alone cell = reading.alone cell := by
  cases reading with
  | ret result => rfl
  | stamp load => rfl
  | body offset load => rfl

end Reading

open Reading

variable {accepts : α → Prop} {original program : Reading ω β α}

/-- The reader has loaded a closed stamp, and as long as nothing is stored it reads one cell. -/
structure Following (closed : ω → Prop) (accepts : α → Prop) (cell : Cell ω β) (original : Reading ω β α)
    (past history : List (Store ω β)) (program : Reading ω β α) : Prop where
  grown : past <+: history
  isClosed : closed (cell.after past).stamp
  closes : Closes accepts (cell.after past).stamp program
  same : history = past → program.alone (cell.after past) = original.alone (cell.after past)

/-- A reader that has begun will accept nothing or follows one cell. -/
def InFlight (closed : ω → Prop) (accepts : α → Prop) (cell : Cell ω β) (original : Reading ω β α)
    (past history : List (Store ω β)) (program : Reading ω β α) : Prop :=
  Refuses accepts program ∨ Following closed accepts cell original past history program

theorem InFlight.grow (flight : InFlight closed accepts cell original past history program)
    (added : List (Store ω β)) : InFlight closed accepts cell original past (history ++ added) program := by
  rcases flight with refuses | ⟨grown, isClosed, closes, same⟩
  · exact .inl refuses
  · refine .inr ⟨grown.trans (List.prefix_append _ _), isClosed, closes, fun whole => ?_⟩
    obtain ⟨rest, rfl⟩ := grown
    rw [List.append_assoc, List.append_right_eq_self, List.append_eq_nil_iff] at whole
    exact same (by rw [whole.1, List.append_nil])

/-- The outcome of a load: the reader goes on, or it returns and an accepted result is that of one cell. -/
def Loaded (closed : ω → Prop) (accepts : α → Prop) (cell : Cell ω β) (original : Reading ω β α)
    (past history : List (Store ω β)) (program : Reading ω β α) : Prop :=
  InFlight closed accepts cell original past history program ∨
    ∃ result, program = .ret result ∧ history = past ∧ closed (cell.after past).stamp ∧
      original.alone (cell.after past) = result

/-- The first load starts to follow the cell as it is. -/
theorem load_first (opens : Opens accepts closed original) :
    Loaded closed accepts cell original history history (original.step (cell.after history)) := by
  cases original with
  | ret result => exact .inl (.inl opens)
  | stamp next =>
      by_cases isClosed : closed (cell.after history).stamp
      · exact .inl (.inr ⟨List.prefix_refl _, isClosed, (opens _).1 isClosed, fun _ => rfl⟩)
      · exact .inl (.inl ((opens _).2 isClosed))
  | body offset next => exact opens.elim

theorem Refuses.load (refuses : Refuses accepts program) (current : Cell ω β) :
    Refuses accepts (program.step current) := by
  cases program with
  | ret result => exact refuses
  | stamp next => exact refuses _
  | body offset next => exact refuses _

/-- A further load keeps to the cell, and only an unchanged cell lets the reader accept. -/
theorem Following.load (disciplined : Disciplined closed cell history)
    (following : Following closed accepts cell original past history program) :
    Loaded closed accepts cell original past history (program.step (cell.after history)) := by
  obtain ⟨grown, isClosed, closes, same⟩ := following
  cases program with
  | ret result => exact .inl (.inr ⟨grown, isClosed, closes, same⟩)
  | body offset next =>
      refine .inl (.inr ⟨grown, isClosed, closes _, fun whole => ?_⟩)
      rw [whole]
      exact same whole
  | stamp next =>
      by_cases changed : (cell.after history).stamp = (cell.after past).stamp
      · obtain ⟨since, rfl⟩ := grown
        have quiet := disciplined.stable isClosed rfl changed
        subst quiet
        rw [List.append_nil] at *
        rcases closes.2 with later | ⟨result, returns⟩
        · exact .inl (.inr ⟨List.prefix_refl _, isClosed, later, same⟩)
        · refine .inr ⟨result, returns, rfl, isClosed, ?_⟩
          rw [← same rfl, alone, returns, alone]
      · refine .inl (.inr ⟨grown, isClosed, closes.1 _ changed, fun whole => ?_⟩)
        exact absurd (whole ▸ rfl) changed

/-- A result that ends the reader without a closing load is not accepted. -/
theorem InFlight.refused {result : α}
    (flight : InFlight closed accepts cell original past history (.ret result)) : ¬ accepts result := by
  rcases flight with refuses | following
  · exact refuses
  · exact following.closes

/-- The writer opens the cell, changes its body, and may close it. -/
structure Update (ω β : Type) (closed : ω → Prop) where
  opening : ω
  body : List (Store ω β)
  closing : Option ω
  opens : ¬ closed opening
  fills : ∀ word, .stamp word ∉ body

namespace Update

variable {update : Update ω β closed} {updates : List (Update ω β closed)}

def stores (update : Update ω β closed) : List (Store ω β) :=
  .stamp update.opening :: (update.body ++ (update.closing.map Store.stamp).toList)

theorem body_keeps {body : List (Store ω β)} (fills : ∀ word, .stamp word ∉ body) (cell : Cell ω β) :
    (cell.after body).stamp = cell.stamp := by
  induction body generalizing cell with
  | nil => rfl
  | cons store rest hypothesis =>
      have later : ∀ word, .stamp word ∉ rest := fun word present => fills word (List.mem_cons_of_mem _ present)
      cases store with
      | stamp word => exact absurd List.mem_cons_self (fills word)
      | body offset value => exact hypothesis later _

/-- A part of one update shows its opening word until the update is complete. -/
theorem part_open {pending : List (Store ω β)} (some' : past ≠ []) (split : update.stores = past ++ pending)
    (shown : closed (cell.after past).stamp) :
    pending = [] ∧ update.closing = some (cell.after past).stamp := by
  cases past with
  | nil => exact absurd rfl some'
  | cons store front =>
      rw [stores, List.cons_append, List.cons.injEq] at split
      obtain ⟨rfl, split⟩ := split
      have opening : ∀ kept, (∀ word, .stamp word ∉ kept) →
          (cell.after (.stamp update.opening :: kept)).stamp = update.opening := fun kept fills =>
        body_keeps fills (cell.store (.stamp update.opening))
      rcases List.append_eq_append_iff.mp split with ⟨closing, rfl, last⟩ | ⟨kept, body, -⟩
      · cases word : update.closing with
        | none =>
            rw [word] at last
            obtain ⟨rfl, rfl⟩ := List.append_eq_nil_iff.mp last.symm
            rw [List.append_nil, opening _ update.fills] at shown
            exact absurd shown update.opens
        | some word' =>
            rw [word] at last
            cases closing with
            | nil =>
                rw [List.append_nil, opening _ update.fills] at shown
                exact absurd shown update.opens
            | cons store rest =>
                rw [Option.map_some, Option.toList_some, List.cons_append, List.cons.injEq] at last
                obtain ⟨rfl, last⟩ := last
                obtain ⟨rfl, rfl⟩ := List.append_eq_nil_iff.mp last.symm
                refine ⟨rfl, ?_⟩
                rw [← List.cons_append, Cell.after_append]
                rfl
      · have fills : ∀ word, .stamp word ∉ front := fun word present =>
          update.fills word (body ▸ List.mem_append_left _ present)
        rw [opening _ fills] at shown
        exact absurd shown update.opens

/-- A closed stamp was stored by the update that is complete last. -/
theorem closed_ends {pending : List (Store ω β)} (some' : past ≠ [])
    (split : updates.flatMap stores = past ++ pending) (shown : closed (cell.after past).stamp) :
    ∃ front update rest, updates = front ++ update :: rest ∧ past = front.flatMap stores ++ update.stores ∧
      pending = rest.flatMap stores ∧ update.closing = some (cell.after past).stamp := by
  induction updates generalizing cell past with
  | nil =>
      obtain ⟨rfl, -⟩ := List.append_eq_nil_iff.mp split.symm
      exact absurd rfl some'
  | cons update rest hypothesis =>
      have here : ∀ unfinished, update.stores = past ++ unfinished → pending = unfinished ++ rest.flatMap stores →
          ∃ front update' rest', update :: rest = front ++ update' :: rest' ∧
            past = front.flatMap stores ++ update'.stores ∧ pending = rest'.flatMap stores ∧
              update'.closing = some (cell.after past).stamp := by
        intro unfinished split' pending'
        obtain ⟨rfl, closing⟩ := part_open some' split' shown
        rw [List.append_nil] at split'
        exact ⟨[], update, rest, rfl, split'.symm, pending', closing⟩
      rw [List.flatMap_cons] at split
      rcases List.append_eq_append_iff.mp split with ⟨since, rfl, later⟩ | ⟨unfinished, split', pending'⟩
      · cases since with
        | nil =>
            rw [List.append_nil] at here ⊢
            exact here [] (List.append_nil _).symm later.symm
        | cons store since =>
            rw [Cell.after_append] at shown ⊢
            obtain ⟨front, update', rest', rfl, past', pending', closing⟩ :=
              hypothesis (List.cons_ne_nil _ _) later shown
            refine ⟨update :: front, update', rest', rfl, ?_, pending', closing⟩
            rw [past', List.flatMap_cons, List.append_assoc]
      · exact here unfinished split' pending'

theorem stamp_mem {word : ω} (isClosed : closed word) (stored : .stamp word ∈ update.stores) :
    update.closing = some word := by
  rw [stores, List.mem_cons, List.mem_append, Option.mem_toList, Option.map_eq_some_iff] at stored
  rcases stored with opening | body | ⟨word', closing, same⟩
  · cases opening
    exact absurd isClosed update.opens
  · exact absurd body (update.fills word)
  · cases same
    exact closing

/-- Every two closed stamps of one update differ, since there is at most one. -/
theorem stores_once (update : Update ω β closed) :
    update.stores.Pairwise fun early late => ∀ word, closed word → early = .stamp word → late ≠ .stamp word := by
  rw [stores, List.pairwise_cons, List.pairwise_append]
  refine ⟨?_, ?_, ?_, ?_⟩
  · intro late present word isClosed early
    cases early
    exact absurd isClosed update.opens
  · refine List.pairwise_of_forall_mem_list ?_
    intro early present late present' word isClosed early'
    exact absurd (early' ▸ present) (update.fills word)
  · cases update.closing with
    | none => exact List.Pairwise.nil
    | some word => exact List.pairwise_singleton _ _
  · intro early present late present' word isClosed early'
    exact absurd (early' ▸ present) (update.fills word)

/-- A writer that updates a cell, one update after the other, keeps the discipline. -/
theorem disciplined {pending : List (Store ω β)} (opened : ¬ closed cell.stamp)
    (split : updates.flatMap stores = history ++ pending)
    (once : updates.Pairwise fun early late => ∀ word, early.closing = some word → late.closing ≠ some word) :
    Disciplined closed cell history where
  opened := opened
  bodies := by
    intro past offset value rest split' shown
    have some' : past ≠ [] := by
      rintro rfl
      exact opened shown
    rw [split', List.append_assoc] at split
    obtain ⟨front, update, later, -, -, pending', -⟩ := closed_ends some' split shown
    cases later with
    | nil => cases pending'
    | cons update' later =>
        rw [List.flatMap_cons, stores, List.cons_append, List.cons_append, List.cons.injEq] at pending'
        cases pending'.1
  once := by
    intro word isClosed first middle last split'
    have apart : (updates.flatMap stores).Pairwise fun early late =>
        ∀ word, closed word → early = .stamp word → late ≠ .stamp word := by
      rw [List.pairwise_flatMap]
      refine ⟨fun update _ => stores_once update, once.imp ?_⟩
      intro early late differ store stored store' stored' word isClosed same same'
      subst same same'
      exact differ word (stamp_mem isClosed stored) (stamp_mem isClosed stored')
    rw [split, split', List.append_assoc, List.pairwise_append] at apart
    have second : Store.stamp word ∈ middle ++ .stamp word :: last ++ pending := by
      rw [List.append_assoc]
      exact List.mem_append_right _ List.mem_cons_self
    exact (List.pairwise_cons.mp apart.2.1).1 _ second word isClosed rfl rfl

end Update

end Seqlock
