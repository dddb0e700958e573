/-
This file says which texts of a message are put whole.
-/

import Mathlib.Algebra.GroupWithZero.Nat
import TensorPool.Driver.Effects

namespace TensorPool.Driver

section Text

variable {limit position : Nat} {text : String}

@[simp] theorem putVarData_text : (putVarData limit position text).1.text = text := by
  unfold putVarData
  split
  · split <;> rfl
  · rfl

/-- A text is put whole exactly when its length and its characters fit. -/
theorem putVarData_whole : (putVarData limit position text).1.put = .whole ↔
    position + (4 + strlen text) ≤ limit := by
  unfold putVarData
  split
  · split
    next fits => exact iff_of_true rfl (by omega)
    next long => exact iff_of_false (by simp) (by omega)
  · exact iff_of_false (by simp) (by omega)

/-- A text that fits moves the position behind itself. -/
theorem putVarData_fits (fits : position + (4 + strlen text) ≤ limit) :
    putVarData limit position text = (⟨text, .whole⟩, position + (4 + strlen text)) := by
  rw [putVarData, if_pos (by omega), if_pos (by omega), Nat.add_assoc]

/-- A put never leaves the buffer. -/
theorem putVarData_inside (inside : position ≤ limit) : (putVarData limit position text).2 ≤ limit := by
  unfold putVarData
  split
  · split <;> assumption
  · exact inside

end Text

/-- The pools of a group take this room when every URI is put whole. -/
def poolsLength (uri : PoolDef → Option String) (pools : List PoolDef) : Nat :=
  (pools.map fun pool => poolBlockLength + (4 + strlen ((uri pool).getD ""))).sum

/-- Every region URI of the stream is put whole behind the block of its message. -/
def RegionsFit (o : Oracle) (config : Config) (stream : StreamState) (requireHugepages : Bool) (start : Nat) : Prop :=
  ∀ profile, stream.profile = some profile →
    start + groupHeaderLength + poolsLength (fun pool => buildRegionUri o config stream.streamId stream.epoch
      pool.poolId .payloadPool requireHugepages) profile.pools +
    (4 + strlen ((buildRegionUri o config stream.streamId stream.epoch 0 .headerRing requireHugepages).getD "")) ≤
      bufferLength

/-- Every region URI of the stream can be built, and every pool has room for its block behind the texts in front
of it. -/
def RegionsEncode (o : Oracle) (config : Config) (stream : StreamState) (requireHugepages : Bool)
    (start : Nat) : Prop :=
  (stream.profile.bind fun profile => encodeRegions o config stream profile requireHugepages start).isSome = true

instance (o : Oracle) (config : Config) (stream : StreamState) (requireHugepages : Bool) (start : Nat) :
    Decidable (RegionsEncode o config stream requireHugepages start) := inferInstanceAs (Decidable (_ = true))

/-- Every URI of the announce was put whole. -/
def PoolAnnounce.Whole (announce : PoolAnnounce) : Prop :=
  announce.headerRegionUri.put = .whole ∧ ∀ pool ∈ announce.payloadPools, pool.regionUri.put = .whole

/-- Every URI of the response was put whole. -/
def AttachBody.Whole (body : AttachBody) : Prop :=
  body.headerRegionUri.put = .whole ∧ ∀ pool ∈ body.payloadPools, pool.regionUri.put = .whole

/-- These pools take this room in their group when their URIs are whole. -/
def bodiesLength (bodies : List PoolBody) : Nat :=
  (bodies.map fun body => poolBlockLength + (4 + strlen body.regionUri.text)).sum

section Pools

variable {limit : Nat} {nslots : UInt32} {uri : PoolDef → Option String} {pools : List PoolDef} {position after : Nat}
  {bodies : List PoolBody}

/-- The pools of an encoding have the texts of their URIs. -/
theorem encodePools_texts (encoded : encodePools limit nslots uri pools position = some (bodies, after)) :
    ∀ body ∈ bodies, body.poolNslots = nslots ∧ ∃ pool, uri pool = some body.regionUri.text := by
  induction pools generalizing position bodies with
  | nil =>
      cases encoded
      simp
  | cons pool rest hypothesis =>
      obtain ⟨text, others, -, built, inner, rfl⟩ := encodePools_cons.mp encoded
      rw [List.forall_mem_cons]
      exact ⟨⟨rfl, pool, by rwa [putVarData_text]⟩, hypothesis inner⟩

theorem encodePools_length (encoded : encodePools limit nslots uri pools position = some (bodies, after)) :
    bodiesLength bodies = poolsLength uri pools := by
  induction pools generalizing position bodies with
  | nil =>
      cases encoded
      rfl
  | cons pool rest hypothesis =>
      obtain ⟨text, others, -, built, inner, rfl⟩ := encodePools_cons.mp encoded
      have tail := hypothesis inner
      rw [bodiesLength, poolsLength] at tail ⊢
      rw [List.map_cons, List.map_cons, List.sum_cons, List.sum_cons, tail, built, putVarData_text, Option.getD_some]

/-- The URIs of all pools are put whole exactly when there is room for all of them. -/
theorem encodePools_whole (inside : position ≤ limit)
    (encoded : encodePools limit nslots uri pools position = some (bodies, after)) :
    ((∀ body ∈ bodies, body.regionUri.put = .whole) ↔ position + bodiesLength bodies ≤ limit) ∧
      (position + bodiesLength bodies ≤ limit → after = position + bodiesLength bodies) := by
  induction pools generalizing position bodies with
  | nil =>
      cases encoded
      simpa [bodiesLength] using inside
  | cons pool rest hypothesis =>
      obtain ⟨text, others, room, built, inner, rfl⟩ := encodePools_cons.mp encoded
      rw [List.forall_mem_cons, bodiesLength, List.map_cons, List.sum_cons, ← bodiesLength]
      dsimp only
      rw [putVarData_whole, putVarData_text]
      by_cases fits : position + poolBlockLength + (4 + strlen text) ≤ limit
      · rw [putVarData_fits fits] at inner
        obtain ⟨whole, place⟩ := hypothesis fits inner
        rw [whole]
        constructor
        · omega
        · intro all
          rw [place (by omega)]
          omega
      · constructor
        · exact iff_of_false (fun both => fits both.1) (by omega)
        · omega

end Pools

section Regions

variable {o : Oracle} {config : Config} {stream : StreamState} {profile : Profile} {requireHugepages : Bool}
  {start after : Nat} {bodies : List PoolBody} {header : VarAscii}

theorem encodeRegions_header
    (encoded : encodeRegions o config stream profile requireHugepages start = some (bodies, header, after)) :
    buildRegionUri o config stream.streamId stream.epoch 0 .headerRing requireHugepages = some header.text := by
  obtain ⟨position, text, -, -, built, put⟩ := encodeRegions_some.mp encoded
  have same := congrArg (fun parts : VarAscii × Nat => parts.1.text) put
  rw [putVarData_text] at same
  exact same ▸ built

/-- The regions of a message are put whole exactly when there is room for all of them. -/
theorem encodeRegions_whole
    (encoded : encodeRegions o config stream profile requireHugepages start = some (bodies, header, after)) :
    (header.put = .whole ∧ ∀ body ∈ bodies, body.regionUri.put = .whole) ↔
      start + groupHeaderLength + bodiesLength bodies + (4 + strlen header.text) ≤ bufferLength := by
  have named := encodeRegions_header encoded
  obtain ⟨position, text, room, inner, built, put⟩ := encodeRegions_some.mp encoded
  obtain ⟨whole, place⟩ := encodePools_whole room inner
  cases named.symm.trans built
  have last : header.put = .whole ↔ position + (4 + strlen header.text) ≤ bufferLength := by
    rw [← putVarData_whole, put]
  rw [last, whole]
  constructor
  · rintro ⟨header, pools⟩
    rwa [place pools] at header
  · intro all
    have pools := Nat.le_of_add_right_le all
    exact ⟨by rwa [place pools], pools⟩

theorem encodeRegions_fit (known : stream.profile = some profile)
    (encoded : encodeRegions o config stream profile requireHugepages start = some (bodies, header, after)) :
    (header.put = .whole ∧ ∀ body ∈ bodies, body.regionUri.put = .whole) ↔
      RegionsFit o config stream requireHugepages start := by
  have named := encodeRegions_header encoded
  obtain ⟨position, text, room, inner, built, put⟩ := encodeRegions_some.mp encoded
  rw [encodeRegions_whole encoded, encodePools_length inner, RegionsFit, known, named]
  simp

end Regions

/-- The driver encodes an `OK` response when it can encode the regions behind the block. -/
theorem encodeAttachBody_some {o : Oracle} {config : Config} {stream : StreamState} {lease : Lease}
    {requireHugepages : Bool} :
    (encodeAttachBody o config stream lease requireHugepages).isSome = true ↔
      RegionsEncode o config stream requireHugepages (messageHeaderLength + attachResponseBlockLength) := by
  simp only [encodeAttachBody, RegionsEncode, Option.bind_eq_bind, Option.isSome_iff_exists, Option.bind_eq_some_iff,
    Option.some.injEq, Prod.exists]
  constructor
  · rintro ⟨_, _, profile, known, bodies, header, after, regions, -⟩
    exact ⟨bodies, header, after, profile, known, regions⟩
  · rintro ⟨bodies, header, after, profile, known, regions⟩
    exact ⟨_, _, profile, known, bodies, header, after, regions, rfl⟩

/-- The driver encodes an announce when it can encode the regions behind the block. -/
theorem encodeAnnounce_some {o : Oracle} {config : Config} {stream : StreamState} {requireHugepages : Bool}
    {now : UInt64} :
    (encodeAnnounce o config stream requireHugepages now).isSome = true ↔
      RegionsEncode o config stream requireHugepages (messageHeaderLength + poolAnnounceBlockLength) := by
  simp only [encodeAnnounce, RegionsEncode, Option.bind_eq_bind, Option.isSome_iff_exists, Option.bind_eq_some_iff,
    Option.some.injEq, Prod.exists]
  constructor
  · rintro ⟨_, profile, known, bodies, header, after, regions, -⟩
    exact ⟨bodies, header, after, profile, known, regions⟩
  · rintro ⟨bodies, header, after, profile, known, regions⟩
    exact ⟨_, profile, known, bodies, header, after, regions, rfl⟩

end TensorPool.Driver
