/-
This file compares the discovery responses that the service encodes with those that the client decodes.
-/

import TensorPool.Discovery.Results

namespace TensorPool.Discovery

open Scan Flyweight FixedField DiscoveryResponse

theorem length_responseHead (response : Response) : (responseHead response).length = 17 := rfl

/-- The bytes of an encoded response. -/
theorem encodeResponse_eq_value {size : Nat} {response : Response} {bytes : List UInt8}
    (encoded : encodeResponse size response = value bytes) :
    (∀ result ∈ response.results, result.Held size) ∧ resultsBlockLength * response.results.length ≤ size ∧
      bytes.length ≤ size ∧
      ∃ left, bytes = responseHead response ++ (groupBytes resultsBlockLength response.results.length ++
        (resultsChunk (size - 21) response.results ++ piece left (chars response.errorMessage))) ∧
        left = size - 21 - (resultsChunk (size - 21) response.results).length := by
  unfold encodeResponse at encoded
  split at encoded
  · cases encoded
  next opened group =>
    obtain ⟨shape, length, inside⟩ := putGroup_eq_some group
    obtain ⟨filled, put, last⟩ := bind_eq_value.mp encoded
    cases last
    obtain ⟨held, parts, within, count⟩ := putResults_eq_value put inside
    have head : opened.length = 21 := by rw [length, length_responseHead]
    rw [head] at parts count
    have short := length_piece (size - filled.length) (chars response.errorMessage)
    have total : filled.length = 21 + (resultsChunk (size - 21) response.results).length := by
      rw [parts, List.length_append, head]
    rw [putData_piece _ within]
    refine ⟨held, by omega, by rw [List.length_append]; omega, size - filled.length, ?_, by omega⟩
    generalize size - filled.length = left
    rw [parts, shape]
    simp only [List.append_assoc]

/-- The header of a response is checked and its root fields are read. -/
theorem decodeResponse_head {asked : UInt64} {response : Response} (mine : asked = 0 ∨ asked = response.requestId)
    (more : List UInt8) :
    decodeResponse asked (responseHead response ++ more) =
      if response.status = .ok then decodeResults { requestId := response.requestId, status := 1 } more
      else (do
        let (_, text, _) ← data more
        value { requestId := response.requestId
                status := response.status.code
                errorMessage := copyAscii 1024 text }) := by
  have long : ¬ (responseHead response ++ more).length < messageHeader.width := by
    rw [List.length_append, length_responseHead, width_messageHeader]
    omega
  have version : ¬ schemaVersion < schemaVersion := by decide
  have named : ¬ (schemaId ≠ schemaId ∨ templateId ≠ templateId) := by decide
  have behind : (responseHead response ++ more).drop 17 = more := List.drop_left' (length_responseHead response)
  have asked' : ¬ (asked ≠ 0 ∧ response.requestId ≠ asked) := by
    rintro ⟨some', other⟩
    obtain none' | same := mine
    · exact some' none'
    · exact other same.symm
  rw [decodeResponse, behind, stopIf_pass long, value_bind]
  simp (disch := decide) only [responseHead, List.append_assoc, read_here, read_behind, width_messageHeader,
    width_uint64, Nat.reduceSub, value_bind, stopIf_pass version, stopIf_pass named, stopIf_pass asked',
    stopIf_pass (not_not.mpr (rfl : blockLength = blockLength))]
  cases response.status with
  | ok => rfl
  | notFound => rfl
  | error => rfl

/-- The decoded response has the fields of the response. -/
def Recovered (asked : UInt64) (response : Response) (bytes : List UInt8) : Prop :=
  ∃ received, decodeResponse asked bytes = value received ∧ received.requestId = response.requestId ∧
    received.status = response.status.code ∧ chars received.errorMessage = chars response.errorMessage ∧
    received.results.map Result.shown = response.results.map Result.shown

/-- An answer is readable when its results are complete and fit, and a refusal when it has no message. -/
def Readable (size : Nat) (response : Response) : Prop :=
  if response.status = .ok then
    (∀ result ∈ response.results, result.Complete) ∧ 21 + (response.results.flatMap Result.bytes).length ≤ size
  else chars response.errorMessage = []

/-- What the service builds: only an answer has results, and only a refusal has a message. -/
structure Response.Sound (response : Response) : Prop where
  copied : ∀ result ∈ response.results, result.Copied
  plain : response.status = .ok → response.errorMessage = []
  bare : response.status ≠ .ok → response.results = []
  short : response.errorMessage.length < 1024

theorem tagShown_shown (tag : Option Text) : chars ((tagShown tag).getD []) = chars (tag.getD []) := by
  unfold tagShown
  split
  next empty => rw [empty, Option.getD_none, chars, List.takeWhile_nil]
  · rw [Option.getD_some, chars_chars]

/-- The decoded result shows what the encoded one does. -/
theorem shown_seen (result : Result) : result.seen.shown = result.shown := by
  have pools : result.seen.poolList = result.poolList.map PoolEntry.shown := by
    change (result.poolList.map PoolEntry.shown).take result.poolCount = _
    rw [← List.map_take, Result.poolList, List.take_take, Nat.min_self]
  have tags : result.seen.tagList.map (fun tag => some (chars (tag.getD []))) =
      result.tagList.map fun tag => some (chars (tag.getD [])) := by
    by_cases none' : result.tagCount = 0
    · rw [Result.tagList, Result.tagList, none', show result.seen.tagCount = 0 from none', List.take_zero,
        List.take_zero]
    · have seen : result.seen.tagList = result.tagList.map tagShown := by
        change ((if result.tagCount = 0 then none else some (result.tagList.map tagShown)).getD []).take _ = _
        rw [if_neg none', Option.getD_some]
        change (result.tagList.map tagShown).take result.tagCount = _
        rw [← List.map_take, Result.tagList, List.take_take, Nat.min_self]
      rw [seen, List.map_map]
      exact List.map_congr_left fun tag _ => congrArg some (tagShown_shown tag)
  have twice : (result.poolList.map PoolEntry.shown).map PoolEntry.shown = result.poolList.map PoolEntry.shown := by
    rw [List.map_map]
    exact List.map_congr_left fun pool _ => by simp only [Function.comp_apply, PoolEntry.shown, chars_chars]
  rw [Result.shown, pools, tags, twice]
  simp only [Result.seen, Result.shown, chars_chars]

section Response

variable {asked : UInt64} {size : Nat} {response : Response} {bytes : List UInt8}

theorem answer_recovered_iff (sound : response.Sound) (small : size ≤ querySize)
    (mine : asked = 0 ∨ asked = response.requestId) (ok : response.status = .ok)
    (encoded : encodeResponse size response = value bytes) :
    Recovered asked response bytes ↔ Readable size response := by
  obtain ⟨held, count, inside, left, shape, -⟩ := encodeResponse_eq_value encoded
  have few : response.results.length < 2 ^ 16 := by
    change 39 * _ ≤ _ at count
    change size ≤ 4096 at small
    omega
  have room : (resultsChunk (size - 21) response.results ++ piece left (chars response.errorMessage)).length ≤
      size - 21 := by
    rw [shape, List.length_append, List.length_append, length_responseHead, length_groupBytes] at inside
    omega
  have head : decodeResponse asked bytes =
      decodeResults { requestId := response.requestId, status := 1 }
        (groupBytes resultsBlockLength response.results.length ++
          (resultsChunk (size - 21) response.results ++ piece left (chars response.errorMessage))) := by
    rw [shape, decodeResponse_head mine, if_pos ok]
  have all := fun items last tail => @fill_results size tail last response.results items small held sound.copied
  rw [Recovered, Readable, if_pos ok, head, decodeResults, group_groupBytes _ _ _ (by decide) few, value_bind]
  dsimp only
  constructor
  · rintro ⟨received, decoded, -, status, -⟩
    cases filled : fill (decodeResult resultsBlockLength) response.results.length
        (resultsChunk (size - 21) response.results ++ piece left (chars response.errorMessage)) with
    | fault =>
        rw [filled] at decoded
        cases decoded
    | stop error =>
        rw [filled] at decoded
        cases decoded
        rw [ok] at status
        cases status
    | value found =>
        have fits := fill_results_fits small held sound.copied room filled
        rw [resultsChunk_fits fits] at filled
        refine ⟨((all _ _ _).mp filled).1, ?_⟩
        rw [shape, List.length_append, List.length_append, length_responseHead, length_groupBytes] at inside
        omega
  · rintro ⟨complete, fits⟩
    have filled := (all _ _ (piece left (chars response.errorMessage))).mpr ⟨complete, rfl, rfl⟩
    rw [resultsChunk_fits (by omega), filled]
    refine ⟨_, rfl, rfl, ?_, ?_, ?_⟩
    · rw [ok]
      rfl
    · rw [sound.plain ok]
    · dsimp only
      rw [padded_whole (List.length_map _), List.map_map]
      exact List.map_congr_left fun result _ => shown_seen result

/-- The bytes of a length below 65536 end after two characters. -/
theorem chars_of_length {length : Nat} (small : length < 65536) (rest : List UInt8) :
    (chars (uint32.encode (UInt32.ofNat length) ++ rest)).length ≤ 2 := by
  have third : UInt8.ofNat ((UInt32.ofNat length).toNat / 256 / 256) = 0 := by
    have number : (UInt32.ofNat length).toNat = length := UInt32.toNat_ofNat_of_lt (Nat.lt_trans small (by decide))
    rw [number, Nat.div_div_eq_div_mul, Nat.div_eq_of_lt small]
    rfl
  change (chars (digits 4 (UInt32.ofNat length).toNat ++ rest)).length ≤ 2
  simp only [digits, List.cons_append, third, chars, List.takeWhile_cons]
  split
  · split
    · simp
    · simp
  · simp

/-- The decoder takes the dimensions of the results for the length of the message. -/
theorem refusal_recovered_iff (sound : response.Sound)
    (mine : asked = 0 ∨ asked = response.requestId) (refused : response.status ≠ .ok)
    (encoded : encodeResponse size response = value bytes) :
    Recovered asked response bytes ↔ Readable size response := by
  obtain ⟨-, -, inside, left, shape, -⟩ := encodeResponse_eq_value encoded
  set message := chars response.errorMessage with messageIs
  rw [sound.bare refused] at shape
  change bytes = responseHead response ++ (groupBytes resultsBlockLength 0 ++ piece left message) at shape
  have short : message.length < 1024 := Nat.lt_of_le_of_lt (length_chars_le _) sound.short
  have first := @read_groupBytes Refusal resultsBlockLength 0 (piece left message) (by decide) (by decide)
  have number : (UInt32.ofNat (resultsBlockLength + 65536 * 0)).toNat = 39 := rfl
  have behind : (groupBytes resultsBlockLength 0 ++ piece left message).drop 4 = piece left message :=
    List.drop_left' (length_groupBytes ..)
  have found : (data (groupBytes resultsBlockLength 0 ++ piece left message) : Scan Refusal _) =
      if 4 + 39 ≤ 4 + (piece left message).length then
        value (39, some ((piece left message).take 39), (piece left message).drop 39)
      else value (39, none, groupBytes resultsBlockLength 0 ++ piece left message) := by
    rw [data, first, value_bind, number, List.length_append, length_groupBytes, behind, ← List.drop_drop, behind]
  have head : decodeResponse asked bytes = value
      { requestId := response.requestId
        status := response.status.code
        errorMessage := copyAscii 1024
          (if 4 + 39 ≤ 4 + (piece left message).length then some ((piece left message).take 39) else none) } := by
    rw [shape, decodeResponse_head mine, if_neg refused, found]
    split
    · rfl
    · rfl
  have reads : chars (copyAscii 1024 (if 4 + 39 ≤ 4 + (piece left message).length then
      some ((piece left message).take 39) else none)) = message ↔ message = [] := by
    by_cases fits : 4 + message.length ≤ left
    · rw [piece_fits fits, length_dataBytes]
      split
      next long =>
        have garbled : (chars (copyAscii 1024 (some ((dataBytes message).take 39)))).length ≤ 2 := by
          rw [copyAscii, Option.getD_some, copyInto, List.take_take, dataBytes, List.take_append,
            List.take_of_length_le (by rw [length_encode]; decide)]
          exact chars_of_length (by omega) _
        constructor
        · intro same
          rw [same] at garbled
          omega
        · intro empty
          rw [empty, List.length_nil] at long
          omega
      · rw [chars_absent, eq_comm]
    · have few := length_piece_over (Nat.lt_of_not_le fits)
      rw [if_neg (by omega), chars_absent, eq_comm]
  rw [Recovered, Readable, if_neg refused, head, ← messageIs, sound.bare refused, ← reads]
  constructor
  · rintro ⟨received, same, -, -, text, -⟩
    cases same
    exact text
  · intro text
    exact ⟨_, rfl, rfl, rfl, text, rfl⟩

end Response

/-- These are the responses that the service encodes, with the size of the buffer for them. -/
inductive Produced : Nat → Response → Prop
  | answer (config : Config) (entries kept : List Entry) (request : Request) (outside : QueryOutside)
      (response : Response) (asked : query config entries request outside = some (some response, kept)) :
      Produced querySize response
  | refusal (request : Request) (message : Option Text) : Produced errorSize (errorResponse request message)

theorem copyInto_lt {size : Nat} (text : Text) (positive : 0 < size) :
    (chars (copyInto size text)).length < size := by
  have short := length_chars_le (copyInto size text)
  rw [copyInto, List.length_take] at short
  rw [copyInto]
  omega

theorem Entry.result_copied {entry : Entry} {config : Config} {outside : QueryOutside} {index : Nat} {result : Result}
    (filled : entry.result config outside index = some result) : result.Copied := by
  unfold Entry.result at filled
  dsimp only at filled
  split at filled
  · obtain ⟨pools, held, same⟩ := Option.bind_eq_some_iff.mp filled
    obtain ⟨kept, -, rfl⟩ := Option.map_eq_some_iff.mp held
    cases same
    refine ⟨fun pool member => ?_, copyInto_lt _ (by decide), copyInto_lt _ (by decide), copyInto_lt _ (by decide),
      copyInto_lt _ (by decide)⟩
    obtain ⟨before, -, rfl⟩ := List.mem_map.mp (List.mem_of_mem_take member)
    exact copyInto_lt _ (by decide)
  · obtain ⟨pools, held, same⟩ := Option.bind_eq_some_iff.mp filled
    cases held
    cases same
    refine ⟨fun pool member => ?_, copyInto_lt _ (by decide), copyInto_lt _ (by decide), copyInto_lt _ (by decide),
      copyInto_lt _ (by decide)⟩
    cases List.mem_of_mem_take member

theorem fillResults_copied {config : Config} {outside : QueryOutside} {index : Nat} {entries : List Entry}
    {results : List Result} (filled : fillResults config outside index entries = some results) :
    ∀ result ∈ results, result.Copied := by
  induction entries generalizing index results with
  | nil =>
      cases filled
      exact nofun
  | cons entry entries hypothesis =>
      obtain ⟨first, found, others⟩ := Option.bind_eq_some_iff.mp filled
      obtain ⟨later, rest, same⟩ := Option.bind_eq_some_iff.mp others
      cases same
      exact List.forall_mem_cons.mpr ⟨Entry.result_copied found, hypothesis rest⟩

theorem Produced.sound {size : Nat} {response : Response} (produced : Produced size response) :
    response.Sound ∧ size ≤ querySize := by
  cases produced with
  | answer config entries kept request outside response asked =>
      refine ⟨?_, Nat.le_refl _⟩
      unfold query at asked
      dsimp only at asked
      split at asked
      · cases asked
        exact ⟨nofun, nofun, fun _ => rfl, (by decide +kernel : limitExceeded.length < 1024)⟩
      · split at asked
        · cases asked
          exact ⟨nofun, fun _ => rfl, fun _ => rfl, (by decide : ([] : Text).length < 1024)⟩
        · split at asked
          · cases asked
          · obtain ⟨results, filled, same⟩ := Option.map_eq_some_iff.mp asked
            cases same
            exact ⟨fillResults_copied filled, fun _ => rfl, fun other => absurd rfl other,
              (by decide : ([] : Text).length < 1024)⟩
  | refusal request message =>
      refine ⟨⟨nofun, nofun, fun _ => rfl, ?_⟩, by decide⟩
      change (List.take 1023 _).length < 1024
      rw [List.length_take]
      omega

/--
The client recovers an answer when its results pass the checks and fit the buffer, and a refusal when it has no
message.
-/
theorem response_recovered_iff (asked : UInt64) (size : Nat) (response : Response) (bytes : List UInt8)
    (produced : Produced size response) (mine : asked = 0 ∨ asked = response.requestId)
    (encoded : encodeResponse size response = value bytes) :
    Recovered asked response bytes ↔ Readable size response := by
  obtain ⟨sound, small⟩ := produced.sound
  by_cases ok : response.status = .ok
  · exact answer_recovered_iff sound small mine ok encoded
  · exact refusal_recovered_iff sound mine ok encoded

/-- A registry of one stream and a query that lists it. -/
def listedEntry : Entry where
  streamId := 5
  producerId := 6
  epoch := 7
  layoutVersion := 1
  headerNslots := 4
  headerSlotBytes := 256
  headerRegionUri := [97]
  poolCount := 1
  pools := some [⟨1, 4, 64, [98]⟩]
  lastAnnounceNs := 100

def listedConfig : Config := ⟨[99], [100], 1000, 1000, 8⟩

def listedRequest : Request := { untaggedRequest with streamId := nullU32 }

def listedOutside : QueryOutside := ⟨100, 100, true, fun _ => true, fun _ => true, fun _ _ => true⟩

def listedResult : Result :=
  ⟨5, 6, 7, 1, 4, 256, 8, nullU64, 1000, [97], [], [99], [100], 1, some [⟨1, 4, 64, [98]⟩], 0, none⟩

def listedResponse : Response := ⟨1, .ok, [], [listedResult]⟩

def listedBytes : List UInt8 :=
  responseHead listedResponse ++ (groupBytes resultsBlockLength 1 ++ (listedResult.bytes ++ dataBytes []))

theorem response_recovered_iff_listed :
    Recovered 1 listedResponse listedBytes ↔ Readable querySize listedResponse :=
  response_recovered_iff 1 querySize listedResponse listedBytes
    (.answer listedConfig [listedEntry] [listedEntry] listedRequest listedOutside listedResponse (by decide +kernel))
    (.inr rfl) (by decide +kernel)

/-- The client gets no text when the results exceed their limit. -/
theorem refusal_message_lost :
    ∃ response bytes, query { listedConfig with maxResults := 0 } [listedEntry] listedRequest listedOutside =
        some (some response, [listedEntry]) ∧
      encodeResponse querySize response = value bytes ∧ chars response.errorMessage ≠ [] ∧
      decodeResponse 1 bytes = value { requestId := 1, status := 3, errorMessage := [], results := [] } :=
  ⟨⟨1, .error, limitExceeded, []⟩, responseHead ⟨1, .error, limitExceeded, []⟩ ++
      (groupBytes resultsBlockLength 0 ++ dataBytes limitExceeded),
        by decide +kernel, by decide +kernel, by decide +kernel,
    by decide +kernel⟩

end TensorPool.Discovery
