/-
This file shows that a returned frame is one publication and never a mixture of two.
-/

import TensorPool.Client.History

namespace TensorPool.Client

open Seqlock

def IsFrame (result : ReadResult) : Prop := ∃ view, result = .frame view

/-- The last check gives a frame only when the slot shows the first stamp again. -/
theorem confirm_closes (seq seqFirst : UInt64) (view : FrameView) :
    Reading.Closes IsFrame seqFirst (confirm seq seqFirst view) := by
  have late : ¬ IsFrame (.absent true) := nofun
  constructor
  · intro other differs
    beta_reduce
    rw [bne_iff_ne.mpr differs, Bool.true_or, if_pos rfl]
    exact late
  · right
    beta_reduce
    split
    · exact ⟨_, rfl⟩
    · split
      · exact ⟨_, rfl⟩
      · exact ⟨_, rfl⟩

/-- The read of a slot loads the commit word first and goes on with a committed one only. -/
theorem readSlot_opens (consumer : Consumer) (seq : UInt64) (headerIndex : UInt32) :
    Reading.Opens IsFrame Committed (readSlot consumer seq headerIndex) := by
  have late : ¬ IsFrame (.absent true) := nofun
  have absent : ¬ IsFrame (.absent false) := nofun
  intro seqFirst
  constructor
  · intro committed
    rw [Committed] at committed
    beta_reduce
    rw [committed, if_neg (by decide)]
    refine Reading.closes_bind _ _ fun decoded => ?_
    split
    · exact nofun
    · split
      · exact absent
      · split
        · exact absent
        · split
          · exact nofun
          · exact absent
          · split
            · exact absent
            · split
              · exact absent
              · refine Reading.closes_bind _ _ fun header => ?_
                split
                · exact absent
                · split
                  · exact absent
                  · exact confirm_closes _ _ _
  · intro uncommitted
    rw [Committed, Bool.not_eq_true] at uncommitted
    beta_reduce
    rw [uncommitted, if_pos (by decide)]
    exact late

/-- A read without loads gives no frame. -/
theorem readFrame_done {consumer : Consumer} {seq : UInt64} {result : ReadResult}
    (done : readFrame consumer seq = .done result) : ¬ IsFrame result := by
  unfold readFrame at done
  dsimp only at done
  split at done
  · cases done
    exact nofun
  · split at done
    · cases done
      exact nofun
    · split at done
      · cases done
        exact nofun
      · split at done
        · cases done
          exact nofun
        · split at done
          · cases done
            exact nofun
          · split at done
            · cases done
              exact nofun
            · cases done

/-- A read loads from the slot of its number. -/
theorem readFrame_loads {consumer : Consumer} {seq : UInt64} {region : Nat} {offset : UInt32}
    {program : SlotReading ReadResult} (loads : readFrame consumer seq = .loads region offset program) :
    offset = slotAt (ringIndex seq consumer.headerNslots) ∧
      program = readSlot consumer seq (ringIndex seq consumer.headerNslots) := by
  unfold readFrame at loads
  dsimp only at loads
  split at loads
  · cases loads
  · split at loads
    · cases loads
    · split at loads
      · cases loads
      · split at loads
        · cases loads
        · split at loads
          · cases loads
          · split at loads
            · cases loads
            · cases loads
              exact ⟨rfl, rfl⟩

/-- The whole program of a read. -/
def Reader.original (reader : Reader) : SlotReading ReadResult :=
  readSlot reader.consumer reader.seq (ringIndex reader.seq reader.consumer.headerNslots)

/-- A read is unopened or follows its slot since its first load. -/
structure Reader.Tracked (stores : List Store) (reader : Reader) : Prop where
  unopened : reader.opened = none → reader.program = reader.original
  opened : ∀ moment, reader.opened = some moment → moment ≤ stores.length ∧
    InFlight Committed IsFrame createdSlot reader.original
      (storesAt (stores.take moment) reader.region reader.offset)
      (storesAt stores reader.region reader.offset) reader.program

/-- The slot did not change from the first load of a read to its last one. -/
structure Returned.Quiet (stores : List Store) (returned : Returned) (view : FrameView) (span : Span) : Prop where
  loaded : returned.span = some span
  closed : span.closed ≤ stores.length
  opened : span.opened ≤ span.closed
  quiet : storesAt (stores.take span.closed) span.region span.offset =
    storesAt (stores.take span.opened) span.region span.offset
  committed : Committed (slotAfter (stores.take span.opened) span.region span.offset).stamp
  alone : (readSlot returned.consumer returned.seq
    (ringIndex returned.seq returned.consumer.headerNslots)).alone
      (slotAfter (stores.take span.opened) span.region span.offset) = .frame view

variable {stores : List Store} {reader : Reader} {returned : Returned} {view : FrameView} {span : Span}

/-- A reader that has not opened its slot is on its track. -/
theorem Reader.Tracked.fresh (fresh : reader.opened = none) (original : reader.program = reader.original) :
    reader.Tracked stores where
  unopened := fun _ => original
  opened := by
    intro moment opened
    rw [fresh] at opened
    cases opened

/-- More stores leave a reader on its track. -/
theorem Reader.Tracked.grow (tracked : reader.Tracked stores) (added : List Store) :
    reader.Tracked (stores ++ added) where
  unopened := tracked.unopened
  opened := by
    intro moment opened
    obtain ⟨within, flight⟩ := tracked.opened moment opened
    rw [List.length_append, List.take_append_of_le_length within, storesAt_append]
    exact ⟨Nat.le_add_right_of_le within, flight.grow _⟩

/-- More stores leave what was returned quiet. -/
theorem Returned.Quiet.grow (quiet : returned.Quiet stores view span) (added : List Store) :
    returned.Quiet (stores ++ added) view span := by
  obtain ⟨loaded, closed, opened, same, committed, alone⟩ := quiet
  have openedWithin : span.opened ≤ stores.length := opened.trans closed
  refine ⟨loaded, ?_, opened, ?_, ?_, ?_⟩
  · rw [List.length_append]
    exact Nat.le_add_right_of_le closed
  · rw [List.take_append_of_le_length closed, List.take_append_of_le_length openedWithin, same]
  · rw [List.take_append_of_le_length openedWithin]
    exact committed
  · rw [List.take_append_of_le_length openedWithin]
    exact alone

/-- The next load of a read either keeps it in flight or ends it. -/
theorem Reader.Tracked.load (tracked : reader.Tracked stores)
    (disciplined : Disciplined Committed createdSlot (storesAt stores reader.region reader.offset)) :
    reader.opened.getD stores.length ≤ stores.length ∧
      Loaded Committed IsFrame createdSlot reader.original
        (storesAt (stores.take (reader.opened.getD stores.length)) reader.region reader.offset)
        (storesAt stores reader.region reader.offset)
        (reader.program.step (slotAfter stores reader.region reader.offset)) := by
  have opens : Reading.Opens IsFrame Committed reader.original := readSlot_opens _ _ _
  cases opened : reader.opened with
  | none =>
      rw [Option.getD_none, List.take_length, tracked.unopened opened]
      exact ⟨Nat.le_refl _, load_first opens⟩
  | some moment =>
      obtain ⟨within, flight⟩ := tracked.opened moment opened
      rw [Option.getD_some]
      refine ⟨within, ?_⟩
      rcases flight with refuses | following
      · exact .inl (.inl (Refuses.load refuses _))
      · exact following.load disciplined

/-- Every read is tracked, and every returned frame comes from a quiet slot. -/
structure Followed (system : System) : Prop where
  readers : ∀ index reader, system.readers index = some reader → reader.Tracked system.stores
  returned : ∀ returned ∈ system.returned, ∀ view, returned.result = .frame view →
    ∃ span, returned.Quiet system.stores view span

namespace Followed

variable {system after : System}

/-- The end of a read is followed. -/
theorem finish (followed : Followed system) (index : Nat)
    (last : ∀ view, returned.result = .frame view → ∃ span, returned.Quiet system.stores view span) :
    Followed (system.finish index returned) where
  readers := by
    intro other reader present
    change Function.update system.readers index none other = some reader at present
    by_cases same : other = index
    · subst same
      rw [Function.update_self] at present
      cases present
    · rw [Function.update_of_ne same] at present
      exact followed.readers other reader present
  returned := by
    intro other present view frame
    rcases List.mem_append.mp present with early | late
    · exact followed.returned other early view frame
    · cases List.mem_singleton.mp late
      exact last view frame

/-- A reader on its track is followed. -/
theorem place (followed : Followed system) (index : Nat) (tracked : reader.Tracked system.stores) :
    Followed { system with readers := Function.update system.readers index (some reader) } where
  readers := by
    intro other reader' present
    change Function.update system.readers index (some reader) other = some reader' at present
    by_cases same : other = index
    · subst same
      rw [Function.update_self] at present
      cases present
      exact tracked
    · rw [Function.update_of_ne same] at present
      exact followed.readers other reader' present
  returned := followed.returned

/-- A load of a reader is followed. -/
theorem load (followed : Followed system) {index : Nat} (present : system.readers index = some reader)
    (disciplined : Disciplined Committed createdSlot (storesAt system.stores reader.region reader.offset)) :
    Followed (system.load index reader) := by
  obtain ⟨within, loaded⟩ := (followed.readers index reader present).load disciplined
  unfold System.load
  dsimp only
  split
  next result ended =>
    rw [ended] at loaded
    refine followed.finish index fun view frame => ?_
    rcases loaded with flight | ⟨result', same, quiet, committed, alone⟩
    · exact absurd ⟨view, frame⟩ flight.refused
    · cases same
      refine ⟨_, rfl, Nat.le_refl _, within, ?_, committed, alone.trans frame⟩
      rw [List.take_length]
      exact quiet
  next program going =>
    refine followed.place index ⟨nofun, fun moment opened => ?_⟩
    cases opened
    rcases loaded with flight | ⟨result', ended, -⟩
    · exact ⟨within, flight⟩
    · exact absurd ended (going result')

/-- Each step of the run keeps the readers tracked. -/
theorem step {action : Action} {allowed : Write → Prop} {writes : List Write}
    (explained : Explained allowed system writes) (once : Once system.publications) (followed : Followed system)
    (stepped : system.step action = some after) : Followed after := by
  cases action with
  | call call =>
      rw [System.step] at stepped
      split at stepped
      all_goals cases stepped
      exact ⟨followed.readers, followed.returned⟩
  | store =>
      rw [System.step] at stepped
      split at stepped
      all_goals cases stepped
      refine ⟨fun index reader present => (followed.readers index reader present).grow _, ?_⟩
      intro returned present view frame
      obtain ⟨span, quiet⟩ := followed.returned returned present view frame
      exact ⟨span, quiet.grow _⟩
  | read index consumer seq =>
      rw [System.step] at stepped
      split at stepped
      next region offset program free loads =>
        cases stepped
        exact followed.place index (Reader.Tracked.fresh rfl (readFrame_loads loads).2)
      · cases stepped
      next result free done =>
        cases stepped
        exact followed.finish index fun view frame => absurd ⟨view, frame⟩ (readFrame_done done)
      · cases stepped
  | load index =>
      obtain ⟨reader, present, rfl⟩ := Option.map_eq_some_iff.mp stepped
      exact followed.load present (explained.disciplined once _ _)

end Followed

/-- Numbers that come once come once at the start. -/
theorem Once.earlier {early late : List Publication} (once : Once (early ++ late)) : Once early :=
  ⟨fun publication present => once.small publication (List.mem_append_left _ present),
    (List.nodup_append'.mp (List.map_append ▸ once.nodup)).1⟩

/-- A run that publishes each sequence number once keeps its readers tracked. -/
theorem run_followed {producer : Producer} {actions : List Action} {system : System}
    (ran : System.run { producer := producer } actions = some system) (once : Once system.publications) :
    (∃ writes, Explained (fun _ => True) system writes) ∧ Followed system := by
  have kept : (∃ writes, Explained (fun _ => True) system writes) ∧
      (Once system.publications → Followed system) := by
    have start : Followed { producer := producer } :=
      ⟨fun _ _ absent => absurd absent nofun, fun _ absent => absurd absent List.not_mem_nil⟩
    have step : ∀ system action after,
        ((∃ writes, Explained (fun _ => True) system writes) ∧ (Once system.publications → Followed system)) →
          (fun _ _ => true) system action = true → system.step action = some after →
            (∃ writes, Explained (fun _ => True) after writes) ∧ (Once after.publications → Followed after) := by
      intro system action after ⟨⟨writes, explained⟩, followed⟩ _ stepped
      refine ⟨explained.step stepped fun _ _ _ _ _ _ => trivial, fun once => ?_⟩
      obtain ⟨added, grown⟩ := System.publications_grow stepped
      rw [grown] at once
      exact Followed.step explained once.earlier (followed once.earlier) stepped
    exact System.runWhile_keeps step ran ⟨⟨[], Explained.start _ producer⟩, fun _ => start⟩
  exact ⟨kept.1, kept.2 once⟩

/-- The frame is one publication of the wanted number, from a slot that held it all the time. -/
structure Untorn (system : System) (returned : Returned) (view : FrameView) (publication : Publication) : Prop where
  published : publication ∈ system.publications
  seq : publication.seq = returned.seq
  single : ∀ other ∈ system.publications, other.seq = returned.seq → other = publication
  view : ∃ pool, findPool returned.consumer.pools returned.consumer.poolCount publication.poolId = .found pool ∧
    view = publication.view pool
  quiet : ∃ span, returned.span = some span ∧ span.region = publication.region ∧
    span.offset = slotAt publication.headerIndex ∧
      (slotAfter (system.stores.take span.opened) span.region span.offset).stamp = seqCommitted returned.seq ∧
        storesAt (system.stores.take span.closed) span.region span.offset =
          storesAt (system.stores.take span.opened) span.region span.offset

/-- Every frame that any reader of any run returns is untorn. -/
theorem readFrame_untorn {producer : Producer} {actions : List Action} {system : System} {returned : Returned}
    {view : FrameView} (ran : System.run { producer := producer } actions = some system)
    (small : ∀ publication ∈ system.publications, publication.seq.toNat < 2 ^ 63)
    (once : (system.publications.map Publication.seq).Nodup) (finished : returned ∈ system.returned)
    (frame : returned.result = .frame view) : ∃ publication, Untorn system returned view publication := by
  obtain ⟨⟨writes, explained⟩, followed⟩ := run_followed ran ⟨small, once⟩
  obtain ⟨span, loaded, closed, opened, quiet, committed, alone⟩ := followed.returned returned finished view frame
  obtain ⟨publication, payload, present, region, offset, holds⟩ := explained.holds span.opened committed
  have published : publication ∈ system.publications := explained.publications ▸ mem_publications present
  obtain ⟨seq, index, pool, found, shown⟩ := read_published holds (small _ published) alone
  refine ⟨publication, published, seq, ?_, ⟨pool, found, shown⟩, span, loaded, region.symm, offset.symm, ?_, quiet⟩
  · intro other present' same
    exact List.inj_on_of_nodup_map once present' published (same.trans seq.symm)
  · rw [holds.stamp, seq]

def smallTensor : TensorHeader where
  dtype := 1
  majorOrder := 1
  ndims := 1
  progressUnit := 0
  progressStrideBytes := 0
  dims := fun index => if index.val = 0 then 4 else 0
  strides := fun _ => 0

def smallPool : Pool := ⟨1, 2, 64, ⟨some 2, 192⟩⟩

/-- A ring of two slots with one pool. -/
def smallProducer : Producer where
  headerRegion := ⟨some 1, 576⟩
  pools := [smallPool]
  poolCount := 1
  headerNslots := 2

def smallConsumer : Consumer where
  headerRegion := ⟨some 1, 576⟩
  pools := [smallPool]
  poolCount := 1
  headerNslots := 2
  shmMapped := true

def smallOffer : Call := .offer ⟨7, some 0, 0⟩ smallTensor (some []) 0 none

/-- A frame is read while the next one is stored in the slot beside it. -/
def racingRun : List Action :=
  [.call smallOffer] ++ List.replicate 250 .store ++ [.read 0 smallConsumer 0] ++ List.replicate 60 (.load 0) ++
    [.call smallOffer] ++ List.replicate 100 .store ++ List.replicate 59 (.load 0) ++ List.replicate 150 .store

theorem readFrame_untorn_racing : ∃ system returned view publication,
    System.run { producer := smallProducer } racingRun = some system ∧ returned ∈ system.returned ∧
      returned.result = .frame view ∧ Untorn system returned view publication := by
  have shape : (System.run { producer := smallProducer } racingRun).map (fun system =>
      (system.publications.map Publication.seq, system.returned.map fun returned =>
        match returned.result with
        | .frame view => some view.payloadSlot
        | _ => none)) = some ([0, 1], [some 0]) := by decide +kernel
  obtain ⟨system, ran, same⟩ := Option.map_eq_some_iff.mp shape
  obtain ⟨seqs, results⟩ := Prod.mk.inj same
  obtain ⟨returned, alone, shown⟩ := List.map_eq_singleton_iff.mp results
  have finished : returned ∈ system.returned := alone ▸ List.mem_singleton_self returned
  have small : ∀ publication ∈ system.publications, publication.seq.toNat < 2 ^ 63 := by
    intro publication present
    have known : publication.seq ∈ [(0 : UInt64), 1] := seqs ▸ List.mem_map_of_mem present
    simp only [List.mem_cons, List.not_mem_nil, or_false] at known
    rcases known with same | same <;> rw [same] <;> decide
  have once : (system.publications.map Publication.seq).Nodup := by
    rw [seqs]
    decide
  cases result : returned.result with
  | frame view =>
      obtain ⟨publication, untorn⟩ := readFrame_untorn ran small once finished result
      exact ⟨system, returned, view, publication, ran, finished, result, untorn⟩
  | absent late => rw [result] at shown; cases shown
  | failed text => rw [result] at shown; cases shown
  | fault => rw [result] at shown; cases shown

end TensorPool.Client
