/-
This file encodes a discovery response as the service does and decodes it as the client does.
-/

import TensorPool.Discovery.Request

namespace TensorPool.Discovery

open Scan Flyweight FixedField

def Status.code : Status → UInt8
  | .ok => 1
  | .notFound => 2
  | .error => 3

namespace DiscoveryResponse

def templateId : UInt16 := 2
def blockLength : UInt16 := 9
def resultsBlockLength : Nat := 39
def poolsBlockLength : Nat := 10

end DiscoveryResponse

open DiscoveryResponse

/-- The root fields and the header in front of them. -/
def responseHead (response : Response) : List UInt8 :=
  messageHeader.encode ⟨blockLength, templateId, schemaId, schemaVersion⟩ ++
    (uint64.encode response.requestId ++ uint8.encode response.status.code)

def PoolEntry.block (pool : PoolEntry) : List UInt8 :=
  uint16.encode pool.poolId ++ (uint32.encode pool.poolNslots ++ uint32.encode pool.strideBytes)

/-- The fields of a result stand in schema order. -/
def Result.block (result : Result) : List UInt8 :=
  uint32.encode result.streamId ++ (uint32.encode result.producerId ++ (uint64.encode result.epoch ++
    (uint32.encode result.layoutVersion ++ (uint32.encode result.headerNslots ++
      (uint16.encode result.headerSlotBytes ++ (uint8.encode result.maxDims ++
        (uint64.encode result.dataSourceId ++ uint32.encode result.driverControlStreamId)))))))

/-- The elements of an array that is indexed up to a count; a missing element is read through a bad pointer. -/
def slots {α : Type} (count : Nat) (items : Option (List α)) : List (Option α) :=
  (List.range count).map fun index => items.bind fun items => items[index]?

def putPool (size : Nat) (written : List UInt8) (slot : Option PoolEntry) : Scan Refusal (List UInt8) :=
  if size < written.length + poolsBlockLength then
    stop ⟨-1, some "tp_discovery_encode_response: pools next failed"⟩
  else
    match slot with
    | none => fault
    | some pool => value (putData size (chars pool.regionUri) (written ++ pool.block))

def putTagSlot (size : Nat) (written : List UInt8) (slot : Option (Option Text)) : Scan Refusal (List UInt8) :=
  match slot with
  | none => fault
  | some tag => putTag ⟨-1, some "tp_discovery_encode_response: tags next failed"⟩ size written tag

/-- The four texts of a result. -/
def Result.texts (result : Result) : List Text :=
  [chars result.headerRegionUri, chars result.dataSourceName, chars result.driverInstanceId,
    chars result.driverControlChannel]

def putResultTexts (size : Nat) (texts : List Text) (written : List UInt8) : List UInt8 :=
  texts.foldl (fun written text => putData size text written) written

def putResult (size : Nat) (written : List UInt8) (result : Result) : Scan Refusal (List UInt8) :=
  if size < written.length + resultsBlockLength then
    stop ⟨-1, some "tp_discovery_encode_response: results next failed"⟩
  else
    match putGroup size poolsBlockLength result.poolCount (written ++ result.block) with
    | none => stop ⟨-1, some "tp_discovery_encode_response: pools wrap failed"⟩
    | some written => do
        let written ← (slots result.poolCount result.pools).foldlM (putPool size) written
        match putGroup size tagsBlockLength result.tagCount written with
        | none => stop ⟨-1, some "tp_discovery_encode_response: tags wrap failed"⟩
        | some written => do
            let written ← (slots result.tagCount result.tags).foldlM (putTagSlot size) written
            value (putResultTexts size result.texts written)

/-- This is `tp_discovery_encode_response`. -/
def encodeResponse (size : Nat) (response : Response) : Scan Refusal (List UInt8) :=
  match putGroup size resultsBlockLength response.results.length (responseHead response) with
  | none => stop ⟨-1, some "tp_discovery_encode_response: results wrap failed"⟩
  | some written => do
      let written ← response.results.foldlM (putResult size) written
      value (putData size (chars response.errorMessage) written)

/-- The size of the buffer for the answer of a query. -/
def querySize : Nat := 4096

/-- The size of the buffer for the answer to an invalid request. -/
def errorSize : Nat := 1024

/-- This is the response of `tp_discovery_send_error`. -/
def errorResponse (request : Request) (message : Option Text) : Response where
  requestId := request.requestId
  status := .error
  errorMessage := copyInto 1024 (message.getD "invalid request".toUTF8.toList)
  results := []

/-- This is `tp_discovery_response_t` on the side of the client, whose status is a byte. -/
structure Received where
  requestId : UInt64 := 0
  status : UInt8 := 0
  errorMessage : Text := []
  results : List Result := []
  deriving DecidableEq, Repr

/-- The memory of a new array is cleared. -/
def PoolEntry.cleared : PoolEntry := ⟨0, 0, 0, []⟩

def Result.cleared : Result := ⟨0, 0, 0, 0, 0, 0, 0, 0, 0, [], [], [], [], 0, none, 0, none⟩

def padded {α : Type} (count : Nat) (blank : α) (items : List α) : List α :=
  items ++ List.replicate (count - items.length) blank

/-- The loop fills an array until an entry is missing, and an entry that is refused stays in the array. -/
def fill {α : Type} (each : List UInt8 → Scan (α × String) (Option (α × List UInt8))) :
    Nat → List UInt8 → Scan (List α × String) (List α × List UInt8)
  | 0, rest => value ([], rest)
  | count + 1, rest =>
      match each rest with
      | fault => fault
      | stop (item, text) => stop ([item], text)
      | value none => value ([], rest)
      | value (some (item, rest)) =>
          match fill each count rest with
          | fault => fault
          | stop (items, text) => stop (item :: items, text)
          | value (items, rest) => value (item :: items, rest)

/-- This is `tp_discovery_copy_ascii`; a null pointer gives the empty text. -/
def copyAscii (size : Nat) (text : Option Text) : Text := copyInto size (text.getD [])

def decodePool (headerNslots : UInt32) (blockLength : Nat) (rest : List UInt8) :
    Scan (PoolEntry × String) (Option (PoolEntry × List UInt8)) :=
  match nextEntry blockLength rest with
  | none => value none
  | some behind => do
      let poolId ← read uint16 0 rest
      let poolNslots ← read uint32 2 rest
      let strideBytes ← read uint32 6 rest
      let pool : PoolEntry := ⟨poolId, poolNslots, strideBytes, []⟩
      stopIf (poolNslots ≠ headerNslots) (pool, "discovery response pool nslots mismatch")
      let (_, uri, behind) ← data behind
      let pool := { pool with regionUri := copyAscii uriLength uri }
      stopIf (chars pool.regionUri = []) (pool, "discovery response missing payload uri")
      value (some (pool, behind))

/-- The position moves behind each tag. -/
def decodeResultTag (blockLength : Nat) (rest : List UInt8) :
    Scan (Option Text × String) (Option (Option Text × List UInt8)) :=
  match nextEntry blockLength rest with
  | none => value none
  | some _ => do
      stopIf (rest.length < 4) (none, "discovery response tag decode failed")
      let length ← read uint32 0 rest
      if length.toNat = 0 then value (some (none, rest.drop 4))
      else if rest.length < 4 + length.toNat then fault
      else value (some (some ((rest.drop 4).take length.toNat), rest.drop (4 + length.toNat)))

/-- The texts at the end of a result are checked as they are copied. -/
def decodeTexts (result : Result) (rest : List UInt8) : Scan (Result × String) (Option (Result × List UInt8)) := do
  let (_, uri, rest) ← data rest
  let result := { result with headerRegionUri := copyAscii uriLength uri }
  stopIf (chars result.headerRegionUri = []) (result, "discovery response missing header uri")
  let (_, name, rest) ← data rest
  let result := { result with dataSourceName := copyAscii nameLength name }
  let (_, instance', rest) ← data rest
  let result := { result with driverInstanceId := copyAscii nameLength instance' }
  let (_, channel, rest) ← data rest
  let result := { result with driverControlChannel := copyAscii 1024 channel }
  stopIf (result.driverControlStreamId = 0 ∨ chars result.driverControlChannel = [])
    (result, "discovery response missing driver control endpoint")
  value (some (result, rest))

/-- The groups of a result stand in front of its texts. -/
def decodeGroups (result : Result) (rest : List UInt8) : Scan (Result × String) (Option (Result × List UInt8)) := do
  let (blockLength, poolCount, rest) ← group rest
  let result := { result with poolCount := poolCount }
  stopIf (poolCount = 0) (result, "discovery response missing payload pools")
  let (pools, rest) ← (fill (decodePool result.headerNslots blockLength) poolCount rest).mapStop fun (pools, text) =>
    ({ result with pools := some (padded poolCount .cleared pools) }, text)
  let result := { result with pools := some (padded poolCount .cleared pools) }
  let (blockLength, tagCount, rest) ← group rest
  let result := { result with tagCount := tagCount }
  let (tags, rest) ← (fill (decodeResultTag blockLength) tagCount rest).mapStop fun (tags, text) =>
    ({ result with tags := some (padded tagCount none tags) }, text)
  decodeTexts { result with tags := if tagCount = 0 then none else some (padded tagCount none tags) } rest

def decodeResult (blockLength : Nat) (rest : List UInt8) : Scan (Result × String) (Option (Result × List UInt8)) :=
  match nextEntry blockLength rest with
  | none => value none
  | some behind => do
      let streamId ← read uint32 0 rest
      let producerId ← read uint32 4 rest
      let epoch ← read uint64 8 rest
      let layoutVersion ← read uint32 16 rest
      let headerNslots ← read uint32 20 rest
      let slotBytes ← read uint16 24 rest
      let dims ← read uint8 26 rest
      let dataSourceId ← read uint64 27 rest
      let driverControlStreamId ← read uint32 35 rest
      let result : Result :=
        { Result.cleared with
          streamId := streamId
          producerId := producerId
          epoch := epoch
          layoutVersion := layoutVersion
          headerNslots := headerNslots
          headerSlotBytes := slotBytes
          maxDims := dims
          dataSourceId := dataSourceId
          driverControlStreamId := driverControlStreamId }
      stopIf (slotBytes ≠ headerSlotBytes ∨ dims ≠ maxDims)
        (result, "discovery response slot bytes/max dims mismatch")
      decodeGroups result behind

/-- The results of a response with the status OK; a result that is refused makes the response an error. -/
def decodeResults (received : Received) (rest : List UInt8) : Scan Refusal Received := do
  let (blockLength, count, rest) ← group rest
  match fill (decodeResult blockLength) count rest with
  | fault => fault
  | stop (results, text) =>
      value { received with
        status := Status.error.code
        errorMessage := text.toUTF8.toList
        results := padded count .cleared results }
  | value (results, _) => value { received with results := padded count .cleared results }

/-- This is `tp_discovery_decode_response` into a cleared response; its allocations succeed. -/
def decodeResponse (asked : UInt64) (bytes : List UInt8) : Scan Refusal Received := do
  stopIf (bytes.length < messageHeader.width) ⟨-1, some "tp_discovery_decode_response: invalid input"⟩
  let header ← read messageHeader 0 bytes
  stopIf (header.schemaId ≠ schemaId ∨ header.templateId ≠ templateId) ⟨1, none⟩
  stopIf (schemaVersion < header.version) ⟨-1, some "tp_discovery_decode_response: unsupported schema version"⟩
  stopIf (header.blockLength ≠ blockLength) ⟨-1, some "tp_discovery_decode_response: block length mismatch"⟩
  let requestId ← read uint64 8 bytes
  stopIf (asked ≠ 0 ∧ requestId ≠ asked) ⟨1, none⟩
  let status ← read uint8 16 bytes
  -- A status outside of the schema is taken for an error, and the null value of the schema is not.
  let status := if status ∈ [1, 2, 3, 255] then status else Status.error.code
  let rest := bytes.drop 17
  if status ≠ Status.ok.code then do
    let (_, text, _) ← data rest
    value { requestId := requestId, status := status, errorMessage := copyAscii 1024 text }
  else decodeResults { requestId := requestId, status := status } rest

end TensorPool.Discovery
