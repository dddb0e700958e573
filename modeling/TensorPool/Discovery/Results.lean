/-
This file reads the results of a discovery response back from the bytes that fit the buffer of the service.
-/

import TensorPool.Discovery.Response

namespace TensorPool.Discovery

open Scan Flyweight FixedField DiscoveryResponse

/-- The room for the texts of a result is used up one text after the other. -/
def pieces : Nat → List Text → List UInt8
  | _, [] => []
  | room, text :: texts => piece room text ++ pieces (room - (piece room text).length) texts

/-- Each text of a result goes into the room that the ones before it left. -/
theorem putResultTexts_pieces {size : Nat} (texts : List Text) {written : List UInt8}
    (inside : written.length ≤ size) :
    putResultTexts size texts written = written ++ pieces (size - written.length) texts := by
  induction texts generalizing written with
  | nil => exact (List.append_nil _).symm
  | cons text texts hypothesis =>
      have within : (written ++ piece (size - written.length) text).length ≤ size := by
        have short := length_piece (size - written.length) text
        rw [List.length_append]
        omega
      change putResultTexts size texts (putData size text written) = _
      rw [putData_piece text inside, hypothesis within, pieces, List.append_assoc, List.length_append, Nat.sub_add_eq]

/-- The pieces of texts stay in their room. -/
theorem length_pieces (room : Nat) (texts : List Text) : (pieces room texts).length ≤ room := by
  induction texts generalizing room with
  | nil => exact Nat.zero_le _
  | cons text texts hypothesis =>
      have first := length_piece room text
      have later := hypothesis (room - (piece room text).length)
      rw [pieces, List.length_append]
      omega

/-- Texts that stand behind their lengths. -/
def textBytes (texts : List Text) : List UInt8 := texts.flatMap dataBytes

theorem length_textBytes_cons (text : Text) (texts : List Text) :
    (textBytes (text :: texts)).length = 4 + text.length + (textBytes texts).length := by
  rw [textBytes, List.flatMap_cons, List.length_append, length_dataBytes]
  rfl

/-- With room for all the pieces are the texts. -/
theorem pieces_fits {room : Nat} {texts : List Text} (fits : (textBytes texts).length ≤ room) :
    pieces room texts = textBytes texts := by
  induction texts generalizing room with
  | nil => rfl
  | cons text texts hypothesis =>
      rw [length_textBytes_cons] at fits
      rw [pieces, piece_fits (by omega), length_dataBytes, hypothesis (by omega)]
      rfl

/-- A text that did not fit is not read by the accessors, which then stay where they are. -/
def Lost (rest : List UInt8) : Prop :=
  ∀ ε, (data rest : Scan ε _) = fault ∨ ∃ length, (data rest : Scan ε _) = value (length, none, rest)

/-- A text that is longer than its room leaves bytes that no text starts with. -/
theorem lost_piece {room : Nat} {text tail : List UInt8} (small : text.length < 2 ^ 32)
    (tooLong : room < 4 + text.length) (inside : (piece room text ++ tail).length ≤ room) :
    Lost (piece room text ++ tail) := by
  intro ε
  obtain fault' | none' := @data_piece ε room text tail small tooLong inside
  · exact .inl fault'
  · exact .inr ⟨_, none'⟩

theorem chars_absent (size : Nat) : chars (copyAscii size none) = [] := by
  rw [copyAscii, Option.getD_none, copyInto, List.take_nil]
  rfl

section Texts

variable {result : Result} {outcome : Option (Result × List UInt8)} {first second third fourth rest tail : List UInt8}

/-- A short text is read with its length. -/
theorem data_text {ε : Type} {text : List UInt8} (small : text.length < 4096) (rest : List UInt8) :
    (data (dataBytes text ++ rest) : Scan ε _) = value (text.length, some text, rest) :=
  data_dataBytes text rest (Nat.lt_trans small (by decide))

/-- Whole texts are read back, and the two that a result needs are checked. -/
theorem decodeTexts_whole (small : ∀ text ∈ [first, second, third, fourth], text.length < 4096) :
    decodeTexts result (textBytes [first, second, third, fourth] ++ tail) = value outcome ↔
      chars (copyAscii uriLength (some first)) ≠ [] ∧ result.driverControlStreamId ≠ 0 ∧
        chars (copyAscii 1024 (some fourth)) ≠ [] ∧
        outcome = some ({ result with
          headerRegionUri := copyAscii uriLength (some first)
          dataSourceName := copyAscii nameLength (some second)
          driverInstanceId := copyAscii nameLength (some third)
          driverControlChannel := copyAscii 1024 (some fourth) }, tail) := by
  have shape : textBytes [first, second, third, fourth] ++ tail =
      dataBytes first ++ (dataBytes second ++ (dataBytes third ++ (dataBytes fourth ++ tail))) := by
    simp only [textBytes, List.flatMap_cons, List.flatMap_nil, List.append_assoc, List.nil_append]
  rw [decodeTexts, shape, data_text (small first (by simp)), value_bind]
  dsimp only
  rw [data_text (small second (by simp)), value_bind]
  dsimp only
  rw [data_text (small third (by simp)), value_bind]
  dsimp only
  rw [data_text (small fourth (by simp)), value_bind]
  dsimp only
  simp only [bind_eq_value, stopIf_eq_value, value.injEq, exists_and_left, exists_const, not_or, ne_eq, and_assoc,
    eq_comm (a := outcome)]

/-- The four texts are read one after the other, and the first and the last are not empty. -/
theorem decodeTexts_reads (decoded : decodeTexts result rest = value outcome) :
    ∃ uri a name b instance' c channel d,
      (∃ n, (data rest : Scan (Result × String) _) = value (n, uri, a)) ∧ chars (copyAscii uriLength uri) ≠ [] ∧
        (∃ n, (data a : Scan (Result × String) _) = value (n, name, b)) ∧
        (∃ n, (data b : Scan (Result × String) _) = value (n, instance', c)) ∧
        (∃ n, (data c : Scan (Result × String) _) = value (n, channel, d)) ∧ chars (copyAscii 1024 channel) ≠ [] := by
  rw [decodeTexts] at decoded
  simp only [bind_eq_value, stopIf_eq_value] at decoded
  obtain ⟨⟨n, uri, a⟩, first, _, header, ⟨m, name, b⟩, second, ⟨k, instance', c⟩, third, ⟨l, channel, d⟩, fourth, _,
    endpoint, -⟩ := decoded
  exact ⟨uri, a, name, b, instance', c, channel, d, ⟨n, first⟩, header, ⟨m, second⟩, ⟨k, third⟩, ⟨l, fourth⟩,
    fun empty => endpoint (.inr empty)⟩

/-- Where no text starts the reader finds none and stays. -/
theorem Lost.stays {ε : Type} (lost : Lost rest) {n : Nat} {text : Option Text} {behind : List UInt8}
    (found : (data rest : Scan ε _) = value (n, text, behind)) : text = none ∧ behind = rest := by
  obtain fault' | ⟨length, none'⟩ := lost ε
  · rw [fault'] at found
    cases found
  · rw [none'] at found
    cases found
    exact ⟨rfl, rfl⟩

/-- No result is read when one of its texts did not fit. -/
theorem decodeTexts_lost (before : List Text) (small : ∀ text ∈ before, text.length < 4096) (few : before.length < 4)
    (lost : Lost rest) : decodeTexts result (textBytes before ++ rest) ≠ value outcome := by
  intro decoded
  obtain ⟨uri, a, name, b, instance', c, channel, d, ⟨n, first⟩, header, ⟨m, second⟩, ⟨k, third⟩, ⟨l, fourth⟩,
    endpoint⟩ := decodeTexts_reads decoded
  have whole {text : Text} {texts : List Text} {n : Nat} {found : Option Text} {behind : List UInt8}
      (member : text ∈ before)
      (read' : (data (textBytes (text :: texts) ++ rest) : Scan (Result × String) _) = value (n, found, behind)) :
      behind = textBytes texts ++ rest := by
    rw [textBytes, List.flatMap_cons, List.append_assoc, data_text (small text member)] at read'
    cases read'
    rfl
  have last (here : c = rest) : False := by
    rw [here] at fourth
    rw [(lost.stays fourth).1] at endpoint
    exact endpoint (chars_absent _)
  cases before with
  | nil =>
      rw [(lost.stays first).1] at header
      exact header (chars_absent _)
  | cons x before =>
      rw [whole (List.mem_cons_self ..) first] at second
      cases before with
      | nil =>
          rw [(lost.stays second).2] at third
          exact last (lost.stays third).2
      | cons y before =>
          rw [whole (by simp) second] at third
          cases before with
          | nil => exact last (lost.stays third).2
          | cons z before =>
              have ended : before = [] := List.length_eq_zero_iff.mp (by simp only [List.length_cons] at few; omega)
              cases ended
              exact last (whole (by simp) third)

/-- The texts before the first one that did not fit are whole. -/
theorem pieces_lost {room : Nat} {texts : List Text} (small : ∀ text ∈ texts, text.length < 4096)
    (tooLong : room < (textBytes texts).length) (inside : (pieces room texts ++ tail).length ≤ room) :
    ∃ before after, texts = before ++ after ∧ after ≠ [] ∧
      ∃ rest, pieces room texts ++ tail = textBytes before ++ rest ∧ Lost rest := by
  induction texts generalizing room with
  | nil => exact absurd tooLong (Nat.not_lt_zero _)
  | cons text texts hypothesis =>
      have short := Nat.lt_trans (small text (List.mem_cons_self ..)) (by decide : 4096 < 2 ^ 32)
      rw [pieces, List.append_assoc] at inside ⊢
      by_cases fits : 4 + text.length ≤ room
      · rw [length_textBytes_cons] at tooLong
        rw [piece_fits fits, length_dataBytes] at inside ⊢
        have later : (pieces (room - (4 + text.length)) texts ++ tail).length ≤ room - (4 + text.length) := by
          rw [List.length_append, length_dataBytes] at inside
          omega
        obtain ⟨before, after, parts, some', rest, shape, lost⟩ :=
          hypothesis (fun other member => small other (List.mem_cons_of_mem _ member)) (by omega) later
        refine ⟨text :: before, after, by rw [parts, List.cons_append], some', rest, ?_, lost⟩
        rw [shape, textBytes, textBytes, List.flatMap_cons, List.append_assoc]
      · exact ⟨[], text :: texts, rfl, List.cons_ne_nil _ _, _, rfl, lost_piece short (by omega) inside⟩

/-- A result is read only when its texts fit. -/
theorem decodeTexts_fits {texts : List Text} (four : texts.length = 4) (small : ∀ text ∈ texts, text.length < 4096)
    {room : Nat} (inside : (pieces room texts ++ tail).length ≤ room)
    (decoded : decodeTexts result (pieces room texts ++ tail) = value outcome) : (textBytes texts).length ≤ room := by
  by_contra tooLong
  obtain ⟨before, after, parts, some', rest, shape, lost⟩ := pieces_lost small (Nat.lt_of_not_le tooLong) inside
  have few : before.length < 4 := by
    have count := congrArg List.length parts
    have positive := List.length_pos_iff.mpr some'
    rw [List.length_append, four] at count
    omega
  rw [shape] at decoded
  exact decodeTexts_lost before
    (fun text member => small text (parts ▸ List.mem_append_left _ member)) few lost decoded

end Texts

/-- The text of a pool ends before its first null byte. -/
def PoolEntry.shown (pool : PoolEntry) : PoolEntry := { pool with regionUri := chars pool.regionUri }

def PoolEntry.bytes (pool : PoolEntry) : List UInt8 := pool.block ++ dataBytes (chars pool.regionUri)

/-- What is written of the pools when so many bytes are left. -/
def poolsChunk : Nat → List PoolEntry → List UInt8
  | _, [] => []
  | room, pool :: pools =>
      let chunk := pool.block ++ piece (room - poolsBlockLength) (chars pool.regionUri)
      chunk ++ poolsChunk (room - chunk.length) pools

theorem PoolEntry.length_block (pool : PoolEntry) : pool.block.length = poolsBlockLength := rfl

theorem PoolEntry.length_bytes (pool : PoolEntry) :
    pool.bytes.length = poolsBlockLength + (4 + (chars pool.regionUri).length) := by
  rw [bytes, List.length_append, length_block, length_dataBytes]

/-- With room for all the pools are put as a whole. -/
theorem poolsChunk_fits {room : Nat} {pools : List PoolEntry} (fits : (pools.flatMap PoolEntry.bytes).length ≤ room) :
    poolsChunk room pools = pools.flatMap PoolEntry.bytes := by
  induction pools generalizing room with
  | nil => rfl
  | cons pool pools hypothesis =>
      rw [List.flatMap_cons, List.length_append, pool.length_bytes] at fits
      rw [poolsChunk, piece_fits (by omega), List.flatMap_cons]
      change pool.bytes ++ poolsChunk (room - pool.bytes.length) pools = _
      rw [hypothesis (by rw [pool.length_bytes]; omega)]

/-- The encoder writes the pools as far as they fit. -/
theorem putPools_eq_value {size : Nat} {slots : List (Option PoolEntry)} {written bytes : List UInt8}
    (put : slots.foldlM (putPool size) written = value bytes) (inside : written.length ≤ size) :
    ∃ pools, slots = pools.map some ∧ bytes = written ++ poolsChunk (size - written.length) pools ∧
      bytes.length ≤ size ∧ written.length + poolsBlockLength * pools.length ≤ bytes.length := by
  induction slots generalizing written with
  | nil =>
      cases put
      exact ⟨[], rfl, (List.append_nil _).symm, inside, Nat.le_refl _⟩
  | cons slot slots hypothesis =>
      rw [List.foldlM_cons] at put
      obtain ⟨middle, first, later⟩ := bind_eq_value.mp put
      unfold putPool at first
      split at first
      · cases first
      next room =>
        split at first
        · cases first
        next pool =>
          have within : (written ++ pool.block).length ≤ size := by
            rw [List.length_append, pool.length_block]
            omega
          rw [putData_piece _ within, List.append_assoc] at first
          have left : size - (written ++ pool.block).length = size - written.length - poolsBlockLength := by
            rw [List.length_append, pool.length_block, Nat.sub_add_eq]
          rw [left] at first
          cases first
          have short := length_piece (size - written.length - poolsBlockLength) (chars pool.regionUri)
          have fits : (written ++ (pool.block ++ piece (size - written.length - poolsBlockLength)
              (chars pool.regionUri))).length ≤ size := by
            rw [List.length_append, List.length_append, pool.length_block]
            omega
          obtain ⟨pools, rest, shape, last, count⟩ := hypothesis later fits
          refine ⟨pool :: pools, by rw [rest, List.map_cons], ?_, last, ?_⟩
          · rw [shape, poolsChunk, List.append_assoc, List.length_append, Nat.sub_add_eq]
          · rw [List.length_append, List.length_append, pool.length_block] at count
            rw [List.length_cons, Nat.mul_succ]
            omega

section Pools

variable {headerNslots : UInt32} {rest : List UInt8}

/-- The block of a pool is read back in front of anything. -/
theorem decodePool_block (pool : PoolEntry) (more : List UInt8) :
    decodePool headerNslots poolsBlockLength (pool.block ++ more) = (do
      let found : PoolEntry := ⟨pool.poolId, pool.poolNslots, pool.strideBytes, []⟩
      stopIf (pool.poolNslots ≠ headerNslots) (found, "discovery response pool nslots mismatch")
      let (_, uri, behind) ← data more
      let found := { found with regionUri := copyAscii uriLength uri }
      stopIf (chars found.regionUri = []) (found, "discovery response missing payload uri")
      value (some (found, behind))) := by
  rw [decodePool, nextEntry_append more pool.length_block]
  dsimp only
  rw [PoolEntry.block, List.append_assoc, read_here, value_bind, read_behind _ _ _ _ (by decide : uint16.width ≤ 2)]
  change (do let poolNslots ← read uint32 0 _; _) = _
  rw [List.append_assoc, read_here, value_bind, read_behind _ _ _ _ (by decide : uint16.width ≤ 6),
    read_behind _ _ _ _ (by decide : uint32.width ≤ 6 - uint16.width)]
  change (do let strideBytes ← read uint32 0 _; _) = _
  rw [read_here, value_bind]

/-- A pool needs the number of slots of the header and a text. -/
def PoolEntry.Complete (headerNslots : UInt32) (pool : PoolEntry) : Prop :=
  pool.poolNslots = headerNslots ∧ chars pool.regionUri ≠ []

/-- A text that is shorter than its buffer is copied as it is. -/
theorem copyAscii_chars {size : Nat} {text : Text} (small : (chars text).length < size) :
    copyAscii size (some (chars text)) = chars text := by
  rw [copyAscii, Option.getD_some, copyInto]
  exact List.take_of_length_le (by omega)

/-- A whole pool is read back when it is complete. -/
theorem decodePool_whole {pool : PoolEntry} (small : (chars pool.regionUri).length < uriLength)
    {outcome : Option (PoolEntry × List UInt8)} :
    decodePool headerNslots poolsBlockLength (pool.bytes ++ rest) = value outcome ↔
      pool.Complete headerNslots ∧ outcome = some (pool.shown, rest) := by
  rw [PoolEntry.bytes, List.append_assoc, decodePool_block, data_text small]
  dsimp only
  simp only [bind_eq_value, stopIf_eq_value, value_bind, value.injEq, exists_const, copyAscii_chars small,
    chars_chars, not_not, and_assoc, PoolEntry.Complete, PoolEntry.shown, eq_comm (a := outcome), ne_eq]

/-- No pool is read without its text. -/
theorem decodePool_lost {pool : PoolEntry} (lost : Lost rest) {outcome : Option (PoolEntry × List UInt8)} :
    decodePool headerNslots poolsBlockLength (pool.block ++ rest) ≠ value outcome := by
  intro decoded
  rw [decodePool_block] at decoded
  simp only [bind_eq_value, stopIf_eq_value] at decoded
  obtain ⟨_, -, ⟨n, uri, behind⟩, found, _, text, -⟩ := decoded
  rw [(lost.stays found).1] at text
  exact text (chars_absent _)

end Pools

section Fill

variable {α : Type} {each : List UInt8 → Scan (α × String) (Option (α × List UInt8))} {count : Nat}
  {rest last : List UInt8} {items : List α}

/-- A loop over entries that are there reads one entry after the other. -/
theorem fill_succ (present : each rest ≠ value none) :
    fill each (count + 1) rest = value (items, last) ↔
      ∃ item middle others, each rest = value (some (item, middle)) ∧ fill each count middle = value (others, last) ∧
        items = item :: others := by
  rw [fill]
  cases found : each rest with
  | fault => simp
  | stop error => simp
  | value outcome =>
      cases outcome with
      | none => exact absurd found present
      | some pair =>
          obtain ⟨item, middle⟩ := pair
          dsimp only
          cases later : fill each count middle with
          | fault => simp [later]
          | stop error => simp [later]
          | value pair =>
              obtain ⟨others, last'⟩ := pair
              constructor
              · intro same
                cases same
                exact ⟨item, middle, others, rfl, later, rfl⟩
              · rintro ⟨item', middle', others', same, later', rfl⟩
                cases same
                rw [later] at later'
                cases later'
                rfl

/-- A loop over whole entries reads them back when each of them passes its checks. -/
theorem fill_flatMap {β : Type} (encode : β → List UInt8) (shown : β → α) (passes : β → Prop) (written : List β)
    (back : ∀ entry ∈ written, ∀ rest outcome, each (encode entry ++ rest) = value outcome ↔
      passes entry ∧ outcome = some (shown entry, rest)) :
    fill each written.length (written.flatMap encode ++ rest) = value (items, last) ↔
      (∀ entry ∈ written, passes entry) ∧ items = written.map shown ∧ last = rest := by
  induction written generalizing items with
  | nil => simp [fill, eq_comm]
  | cons entry written hypothesis =>
      have here := back entry (List.mem_cons_self ..)
      have present : each (encode entry ++ (written.flatMap encode ++ rest)) ≠ value none := by
        intro none'
        obtain ⟨-, impossible⟩ := (here _ _).mp none'
        cases impossible
      rw [List.length_cons, List.flatMap_cons, List.append_assoc, fill_succ present]
      constructor
      · rintro ⟨item, middle, others, first, later, rfl⟩
        obtain ⟨passed, same⟩ := (here _ _).mp first
        cases same
        obtain ⟨all, rfl, end'⟩ :=
          (hypothesis fun other member => back other (List.mem_cons_of_mem _ member)).mp later
        exact ⟨List.forall_mem_cons.mpr ⟨passed, all⟩, rfl, end'⟩
      · rintro ⟨all, rfl, end'⟩
        obtain ⟨passed, others⟩ := List.forall_mem_cons.mp all
        refine ⟨shown entry, _, written.map shown, (here _ _).mpr ⟨passed, rfl⟩, ?_, rfl⟩
        exact (hypothesis fun other member => back other (List.mem_cons_of_mem _ member)).mpr ⟨others, rfl, end'⟩

end Fill

section Groups

variable {headerNslots : UInt32} {tail last : List UInt8}

/-- The decoder does not run out of entries in front of a pool. -/
theorem decodePool_present (pool : PoolEntry) (more : List UInt8) :
    decodePool headerNslots poolsBlockLength (pool.block ++ more) ≠ value none := by
  intro decoded
  rw [decodePool_block] at decoded
  simp only [bind_eq_value] at decoded
  obtain ⟨_, -, _, -, _, -, impossible⟩ := decoded
  cases impossible

/-- The decoder fills its array with the sent pools exactly when each is complete. -/
theorem fill_pools {pools : List PoolEntry} {items : List PoolEntry}
    (small : ∀ pool ∈ pools, (chars pool.regionUri).length < uriLength) :
    fill (decodePool headerNslots poolsBlockLength) pools.length (pools.flatMap PoolEntry.bytes ++ tail) =
        value (items, last) ↔
      (∀ pool ∈ pools, pool.Complete headerNslots) ∧ items = pools.map PoolEntry.shown ∧ last = tail :=
  fill_flatMap PoolEntry.bytes PoolEntry.shown (PoolEntry.Complete headerNslots) pools
    fun pool member _ _ => decodePool_whole (small pool member)

/-- The pools are read only when their texts fit. -/
theorem fill_pools_fits {pools items : List PoolEntry}
    (small : ∀ pool ∈ pools, (chars pool.regionUri).length < uriLength) {room : Nat}
    (inside : (poolsChunk room pools ++ tail).length ≤ room)
    (decoded : fill (decodePool headerNslots poolsBlockLength) pools.length (poolsChunk room pools ++ tail) =
      value (items, last)) : (pools.flatMap PoolEntry.bytes).length ≤ room := by
  induction pools generalizing room items with
  | nil => exact Nat.zero_le _
  | cons pool pools hypothesis =>
      have short := small pool (List.mem_cons_self ..)
      rw [poolsChunk] at inside decoded
      rw [List.append_assoc, List.append_assoc] at inside decoded
      rw [List.length_cons, fill_succ (decodePool_present pool _)] at decoded
      obtain ⟨item, middle, others, first, later, -⟩ := decoded
      have left : (piece (room - poolsBlockLength) (chars pool.regionUri) ++ (poolsChunk (room -
          (pool.block ++ piece (room - poolsBlockLength) (chars pool.regionUri)).length) pools ++ tail)).length ≤
          room - poolsBlockLength := by
        rw [List.length_append, pool.length_block] at inside
        omega
      by_cases fits : 4 + (chars pool.regionUri).length ≤ room - poolsBlockLength
      · rw [piece_fits fits, ← List.append_assoc] at first inside
        change decodePool headerNslots poolsBlockLength (pool.bytes ++ _) = _ at first
        obtain ⟨-, same⟩ := (decodePool_whole short).mp first
        cases same
        change (pool.bytes ++ (poolsChunk (room - pool.bytes.length) pools ++ tail)).length ≤ room at inside
        rw [List.length_append] at inside
        have rest : (pools.flatMap PoolEntry.bytes).length ≤ room - pool.bytes.length :=
          hypothesis (fun other member => small other (List.mem_cons_of_mem _ member)) (by omega) later
        rw [List.flatMap_cons, List.length_append]
        omega
      · exact absurd first (decodePool_lost (lost_piece (Nat.lt_trans short (by decide)) (by omega) left))

/-- The bytes of a tag; an absent tag looks like the empty one. -/
def tagBytes (tag : Option Text) : List UInt8 := dataBytes (chars (tag.getD []))

/-- The decoder leaves the pointer of an empty tag null. -/
def tagShown (tag : Option Text) : Option Text :=
  if chars (tag.getD []) = [] then none else some (chars (tag.getD []))

/-- Tags are put from slots that hold one, and they stay in the buffer. -/
theorem putTagSlots_eq_value {size : Nat} {slots : List (Option (Option Text))} {written bytes : List UInt8}
    (put : slots.foldlM (putTagSlot size) written = value bytes) (inside : written.length ≤ size) :
    ∃ tags : List (Option Text), slots = tags.map some ∧ bytes = written ++ tags.flatMap tagBytes ∧
      bytes.length ≤ size ∧ written.length + 4 * tags.length ≤ bytes.length := by
  induction slots generalizing written with
  | nil =>
      cases put
      exact ⟨[], rfl, (List.append_nil _).symm, inside, Nat.le_refl _⟩
  | cons slot slots hypothesis =>
      rw [List.foldlM_cons] at put
      obtain ⟨middle, first, later⟩ := bind_eq_value.mp put
      cases slot with
      | none => cases first
      | some tag =>
          obtain ⟨shape, within⟩ := putTag_eq_value first
          obtain ⟨tags, rest, parts, last', count⟩ := hypothesis later within
          refine ⟨tag :: tags, by rw [rest, List.map_cons], ?_, last', ?_⟩
          · rw [parts, shape, List.flatMap_cons, tagBytes, List.append_assoc]
          · rw [shape, List.length_append, length_dataBytes] at count
            rw [List.length_cons]
            omega

/-- A sent tag is decoded to what is shown of it. -/
theorem decodeResultTag_whole (tag : Option Text) (small : (chars (tag.getD [])).length < 4096) (rest : List UInt8)
    (outcome : Option (Option Text × List UInt8)) :
    decodeResultTag tagsBlockLength (tagBytes tag ++ rest) = value outcome ↔
      True ∧ outcome = some (tagShown tag, rest) := by
  set text := chars (tag.getD []) with textIs
  have length : (UInt32.ofNat text.length).toNat = text.length :=
    UInt32.toNat_ofNat_of_lt (Nat.lt_trans small (by decide))
  have total : (tagBytes tag ++ rest).length = 4 + text.length + rest.length := by
    rw [List.length_append, tagBytes, length_dataBytes]
  have first : (read uint32 0 (tagBytes tag ++ rest) : Scan (Option Text × String) _) =
      value (UInt32.ofNat text.length) := by
    rw [tagBytes, dataBytes, List.append_assoc, read_here]
  have behind : (tagBytes tag ++ rest).drop 4 = text ++ rest := by
    rw [tagBytes, dataBytes, List.append_assoc]
    exact List.drop_left' (length_encode ..)
  have decoded : decodeResultTag tagsBlockLength (tagBytes tag ++ rest) = value (some (tagShown tag, rest)) := by
    rw [decodeResultTag, nextEntry, if_pos (by rw [total]; change 4 ≤ _; omega)]
    dsimp only
    rw [stopIf, if_neg (by omega), value_bind, first, value_bind, length, ← List.drop_drop, behind, tagShown,
      ← textIs]
    by_cases empty : text = []
    · rw [if_pos (by rw [empty]; rfl), if_pos empty, empty, List.nil_append]
    · have positive := List.length_pos_iff.mpr empty
      rw [if_neg (by omega), if_neg empty, if_neg (by omega), List.drop_left, List.take_left]
  rw [decoded, value.injEq, true_and, eq_comm]

/-- The decoder fills its array with what is shown of the sent tags. -/
theorem fill_tags {tags items : List (Option Text)} (small : ∀ tag ∈ tags, (chars (tag.getD [])).length < 4096) :
    fill (decodeResultTag tagsBlockLength) tags.length (tags.flatMap tagBytes ++ tail) = value (items, last) ↔
      items = tags.map tagShown ∧ last = tail := by
  rw [fill_flatMap tagBytes tagShown (fun _ => True) tags
    fun tag member rest outcome => decodeResultTag_whole tag (small tag member) rest outcome]
  exact ⟨fun all => all.2, fun same => ⟨fun _ _ => trivial, same⟩⟩

end Groups

/-- The pools that a result counts. -/
def Result.poolList (result : Result) : List PoolEntry := (result.pools.getD []).take result.poolCount

/-- The tags that a result counts. -/
def Result.tagList (result : Result) : List (Option Text) := (result.tags.getD []).take result.tagCount

/-- The arrays of a result are as long as it says. -/
structure Result.Counted (result : Result) : Prop where
  pools : result.poolList.length = result.poolCount
  tags : result.tagList.length = result.tagCount

/-- What a result shows to its reader; an absent tag and an empty one show the same. -/
def Result.shown (result : Result) : Result :=
  { result with
    headerRegionUri := chars result.headerRegionUri
    dataSourceName := chars result.dataSourceName
    driverInstanceId := chars result.driverInstanceId
    driverControlChannel := chars result.driverControlChannel
    pools := some (result.poolList.map PoolEntry.shown)
    tags := some (result.tagList.map fun tag => some (chars (tag.getD []))) }

/-- What is written behind the block of a result when so many bytes are left. -/
def Result.groupsChunk (room : Nat) (result : Result) : List UInt8 :=
  let pools := poolsChunk (room - 4) result.poolList
  let tags := result.tagList.flatMap tagBytes
  groupBytes poolsBlockLength result.poolCount ++ (pools ++ (groupBytes tagsBlockLength result.tagCount ++
    (tags ++ pieces (room - 4 - pools.length - 4 - tags.length) result.texts)))

def Result.groupsBytes (result : Result) : List UInt8 :=
  groupBytes poolsBlockLength result.poolCount ++ (result.poolList.flatMap PoolEntry.bytes ++
    (groupBytes tagsBlockLength result.tagCount ++ (result.tagList.flatMap tagBytes ++ textBytes result.texts)))

/-- An array without an empty slot is a list of its count. -/
theorem slots_eq_map_some {α : Type} {count : Nat} {items : Option (List α)} {found : List α}
    (same : slots count items = found.map some) : (items.getD []).take count = found ∧ found.length = count := by
  have length : found.length = count := by
    have both := congrArg List.length same
    rw [slots, List.length_map, List.length_range, List.length_map] at both
    exact both.symm
  refine ⟨?_, length⟩
  apply List.ext_getElem?
  intro index
  by_cases inside : index < count
  · have at' := congrArg (·[index]?) same
    simp only [slots, List.getElem?_map, List.getElem?_range inside, Option.map_some] at at'
    have stored : index < found.length := by omega
    have here := List.getElem?_eq_getElem stored
    rw [here] at at' ⊢
    rw [List.getElem?_take_of_lt inside]
    cases items with
    | none => cases at'
    | some items => exact Option.some.inj at'
  · rw [List.getElem?_eq_none (by rw [List.length_take]; omega), List.getElem?_eq_none (by omega)]

theorem Result.length_block (result : Result) : result.block.length = resultsBlockLength := rfl

/-- The head of a group takes four bytes behind what was written. -/
theorem putGroup_eq_some {size blockLength count : Nat} {written bytes : List UInt8}
    (put : putGroup size blockLength count written = some bytes) :
    bytes = written ++ groupBytes blockLength count ∧ bytes.length = written.length + 4 ∧ bytes.length ≤ size := by
  unfold putGroup at put
  split at put
  next room =>
    cases put
    have length : (written ++ groupBytes blockLength count).length = written.length + 4 := by
      rw [List.length_append, length_groupBytes]
    exact ⟨rfl, length, by omega⟩
  · cases put

/-- The encoder writes the block of a result and then what fits of its groups and its texts. -/
theorem putResult_eq_value {size : Nat} {written bytes : List UInt8} {result : Result}
    (put : putResult size written result = value bytes) :
    result.Counted ∧ bytes = written ++ (result.block ++
        result.groupsChunk (size - written.length - resultsBlockLength)) ∧
      bytes.length ≤ size ∧ written.length + resultsBlockLength ≤ bytes.length ∧
      poolsBlockLength * result.poolCount ≤ size ∧ 4 * result.tagCount ≤ size ∧
      (result.tagList.flatMap tagBytes).length ≤ size := by
  unfold putResult at put
  split at put
  · cases put
  next room =>
    split at put
    · cases put
    next opened pools =>
      obtain ⟨poolsShape, poolsLength, poolsInside⟩ := putGroup_eq_some pools
      obtain ⟨filled, putPools, put⟩ := bind_eq_value.mp put
      obtain ⟨poolList, poolSlots, filledShape, filledInside, poolCount⟩ := putPools_eq_value putPools poolsInside
      split at put
      · cases put
      next tagsOpened tags =>
        obtain ⟨tagsShape, tagsLength, tagsInside⟩ := putGroup_eq_some tags
        obtain ⟨tagged, putTags, put⟩ := bind_eq_value.mp put
        obtain ⟨tagList, tagSlots, taggedShape, taggedInside, tagCount⟩ := putTagSlots_eq_value putTags tagsInside
        cases put
        obtain ⟨poolsIs, poolsCount⟩ := slots_eq_map_some poolSlots
        obtain ⟨tagsIs, tagsCount⟩ := slots_eq_map_some tagSlots
        have counted : result.Counted := ⟨by rw [Result.poolList, poolsIs, poolsCount],
          by rw [Result.tagList, tagsIs, tagsCount]⟩
        have short := length_pieces (size - tagged.length) result.texts
        have total : tagged.length = written.length + resultsBlockLength + 4 +
            (poolsChunk (size - opened.length) poolList).length + 4 + (tagList.flatMap tagBytes).length := by
          rw [taggedShape, tagsShape, filledShape, poolsShape]
          simp only [List.length_append, length_groupBytes, result.length_block]
        have head : opened.length = written.length + resultsBlockLength + 4 := by
          rw [poolsLength, List.length_append, result.length_block]
        rw [putResultTexts_pieces _ taggedInside]
        refine ⟨counted, ?_, ?_, ?_, ?_, ?_, ?_⟩
        · have before : size - written.length - resultsBlockLength - 4 = size - opened.length := by omega
          have behind : size - opened.length - (poolsChunk (size - opened.length) poolList).length - 4 -
              (tagList.flatMap tagBytes).length = size - tagged.length := by omega
          rw [Result.groupsChunk, before, Result.poolList, Result.tagList, poolsIs, tagsIs, behind, taggedShape,
            tagsShape, filledShape, poolsShape]
          simp only [List.append_assoc]
        · rw [List.length_append]
          omega
        · rw [List.length_append]
          omega
        · rw [← poolsCount]
          omega
        · rw [← tagsCount]
          omega
        · rw [Result.tagList, tagsIs]
          omega

section Results

variable {result : Result} {tail : List UInt8} {outcome : Option (Result × List UInt8)}

/-- The fields of the block, before the groups and the texts are read. -/
def Result.root (result : Result) : Result :=
  { Result.cleared with
    streamId := result.streamId
    producerId := result.producerId
    epoch := result.epoch
    layoutVersion := result.layoutVersion
    headerNslots := result.headerNslots
    headerSlotBytes := result.headerSlotBytes
    maxDims := result.maxDims
    dataSourceId := result.dataSourceId
    driverControlStreamId := result.driverControlStreamId }

/-- The decoder of a result reads its fixed fields, and then its groups. -/
theorem decodeResult_block (more : List UInt8) :
    decodeResult resultsBlockLength (result.block ++ more) = (do
      stopIf (result.headerSlotBytes ≠ headerSlotBytes ∨ result.maxDims ≠ maxDims)
        (result.root, "discovery response slot bytes/max dims mismatch")
      decodeGroups result.root more) := by
  rw [decodeResult, nextEntry_append more result.length_block]
  dsimp only
  simp (disch := decide) only [Result.block, List.append_assoc, read_behind, read_here, width_uint8, width_uint16,
    width_uint32, width_uint64, Nat.reduceSub, value_bind, Result.root]

/-- The texts of a result come from buffers of the size that they are copied to. -/
structure Result.Copied (result : Result) : Prop where
  pools : ∀ pool ∈ result.poolList, (chars pool.regionUri).length < uriLength
  header : (chars result.headerRegionUri).length < uriLength
  name : (chars result.dataSourceName).length < nameLength
  driver : (chars result.driverInstanceId).length < nameLength
  channel : (chars result.driverControlChannel).length < 1024

structure Result.Sized (result : Result) : Prop extends result.Copied where
  tags : ∀ tag ∈ result.tagList, (chars (tag.getD [])).length < 4096

/-- Each text of a sized result fits the buffer of the reader. -/
theorem Result.Sized.texts (sized : result.Sized) : ∀ text ∈ result.texts, text.length < 4096 := by
  have name := Nat.lt_trans sized.name (by decide : nameLength < 4096)
  have driver := Nat.lt_trans sized.driver (by decide : nameLength < 4096)
  have channel := Nat.lt_trans sized.channel (by decide : 1024 < 4096)
  simp only [Result.texts, List.forall_mem_cons]
  exact ⟨sized.header, name, driver, channel, nofun⟩

/-- The pools are read in front of the tags, and the tags in front of the texts. -/
theorem decodeGroups_eq_value {root : Result} {rest : List UInt8} : decodeGroups root rest = value outcome ↔
    ∃ poolBlock poolCount pools a b tagBlock tagCount tags c d,
      (group rest : Scan (Result × String) _) = value (poolBlock, poolCount, a) ∧ poolCount ≠ 0 ∧
        fill (decodePool root.headerNslots poolBlock) poolCount a = value (pools, b) ∧
        (group b : Scan (Result × String) _) = value (tagBlock, tagCount, c) ∧
        fill (decodeResultTag tagBlock) tagCount c = value (tags, d) ∧
        decodeTexts { root with
          poolCount := poolCount
          pools := some (padded poolCount .cleared pools)
          tagCount := tagCount
          tags := if tagCount = 0 then none else some (padded tagCount none tags) } d = value outcome := by
  rw [decodeGroups]
  simp only [bind_eq_value, stopIf_eq_value, mapStop_eq_value]
  constructor
  · rintro ⟨⟨poolBlock, poolCount, a⟩, first, _, some', ⟨pools, b⟩, filled, ⟨tagBlock, tagCount, c⟩, second,
      ⟨tags, d⟩, tagged, last⟩
    exact ⟨poolBlock, poolCount, pools, a, b, tagBlock, tagCount, tags, c, d, first, some', filled, second,
      tagged, last⟩
  · rintro ⟨poolBlock, poolCount, pools, a, b, tagBlock, tagCount, tags, c, d, first, some', filled, second,
      tagged, last⟩
    exact ⟨⟨poolBlock, poolCount, a⟩, first, ⟨⟩, some', ⟨pools, b⟩, filled, ⟨tagBlock, tagCount, c⟩, second,
      ⟨tags, d⟩, tagged, last⟩

/-- A result is read only when its texts fit. -/
theorem decodeGroups_fits (counted : result.Counted) (sized : result.Sized) (fewPools : result.poolCount < 2 ^ 16)
    (fewTags : result.tagCount < 2 ^ 16) {room : Nat} (inside : (result.groupsChunk room ++ tail).length ≤ room)
    (decoded : decodeGroups result.root (result.groupsChunk room ++ tail) = value outcome) :
    result.groupsBytes.length ≤ room := by
  obtain ⟨poolBlock, poolCount, pools, a, b, tagBlock, tagCount, tags, c, d, first, some', filled, second,
    tagged, last⟩ :=
    decodeGroups_eq_value.mp decoded
  rw [Result.groupsChunk] at first inside
  simp only [List.append_assoc] at first inside
  rw [group_groupBytes _ _ _ (by decide) fewPools] at first
  cases first
  rw [List.length_append, length_groupBytes] at inside
  rw [← counted.pools] at filled
  have poolsFit := fill_pools_fits sized.pools (by omega) filled
  rw [poolsChunk_fits poolsFit] at filled inside
  obtain ⟨-, -, rfl⟩ := (fill_pools sized.pools).mp filled
  rw [group_groupBytes _ _ _ (by decide) fewTags] at second
  cases second
  rw [← counted.tags] at tagged
  obtain ⟨-, rfl⟩ := (fill_tags sized.tags).mp tagged
  rw [List.length_append, List.length_append, List.length_append, length_groupBytes] at inside
  have textsFit := decodeTexts_fits rfl sized.texts (by omega) last
  rw [Result.groupsBytes]
  simp only [List.length_append, length_groupBytes]
  omega

/-- A result is complete when it passes the checks of its reader. -/
structure Result.Complete (result : Result) : Prop where
  slotBytes : result.headerSlotBytes = Discovery.headerSlotBytes
  dims : result.maxDims = Discovery.maxDims
  pools : result.poolCount ≠ 0
  each : ∀ pool ∈ result.poolList, pool.Complete result.headerNslots
  header : chars result.headerRegionUri ≠ []
  stream : result.driverControlStreamId ≠ 0
  channel : chars result.driverControlChannel ≠ []

/-- The result that the decoder fills in. -/
def Result.seen (result : Result) : Result :=
  { result with
    headerRegionUri := chars result.headerRegionUri
    dataSourceName := chars result.dataSourceName
    driverInstanceId := chars result.driverInstanceId
    driverControlChannel := chars result.driverControlChannel
    pools := some (result.poolList.map PoolEntry.shown)
    tags := if result.tagCount = 0 then none else some (result.tagList.map tagShown) }

theorem padded_whole {α : Type} {count : Nat} {blank : α} {items : List α} (length : items.length = count) :
    padded count blank items = items := by
  rw [padded, length, Nat.sub_self, List.replicate_zero, List.append_nil]

def Result.bytes (result : Result) : List UInt8 := result.block ++ result.groupsBytes

/-- A whole result is read back when it is complete. -/
theorem decodeResult_whole (counted : result.Counted) (sized : result.Sized) (fewPools : result.poolCount < 2 ^ 16)
    (fewTags : result.tagCount < 2 ^ 16) :
    decodeResult resultsBlockLength (result.bytes ++ tail) = value outcome ↔
      result.Complete ∧ outcome = some (result.seen, tail) := by
  have poolsLength : (result.poolList.map PoolEntry.shown).length = result.poolCount := by
    rw [List.length_map, counted.pools]
  have tagsLength : (result.tagList.map tagShown).length = result.tagCount := by
    rw [List.length_map, counted.tags]
  have texts (root : Result) := @decodeTexts_whole root outcome _ _ _ _ tail sized.texts
  have filledPools (items : List PoolEntry) (last more : List UInt8) :=
    @fill_pools result.headerNslots more last result.poolList items sized.pools
  have filledTags (items : List (Option Text)) (last more : List UInt8) :=
    @fill_tags more last result.tagList items sized.tags
  rw [counted.pools] at filledPools
  rw [counted.tags] at filledTags
  rw [copyAscii_chars sized.header, copyAscii_chars sized.name, copyAscii_chars sized.driver,
    copyAscii_chars sized.channel] at texts
  rw [Result.bytes, List.append_assoc, decodeResult_block, bind_eq_value]
  simp only [stopIf_eq_value, exists_const, decodeGroups_eq_value, not_or, not_not]
  have opened : (group (result.groupsBytes ++ tail) : Scan (Result × String) _) = value (poolsBlockLength,
      result.poolCount, result.poolList.flatMap PoolEntry.bytes ++ (groupBytes tagsBlockLength result.tagCount ++
        (result.tagList.flatMap tagBytes ++ (textBytes result.texts ++ tail)))) := by
    rw [Result.groupsBytes]
    simp only [List.append_assoc]
    exact group_groupBytes _ _ _ (by decide) fewPools
  have tagsOpened (more : List UInt8) : (group (groupBytes tagsBlockLength result.tagCount ++ more) :
      Scan (Result × String) _) = value (tagsBlockLength, result.tagCount, more) :=
    group_groupBytes _ _ _ (by decide) fewTags
  constructor
  · rintro ⟨⟨slotBytes, dims⟩, poolBlock, poolCount, pools, a, b, tagBlock, tagCount, tags, c, d, first, some',
      filled, second, tagged, last⟩
    rw [opened] at first
    cases first
    obtain ⟨each, rfl, rfl⟩ := (filledPools ..).mp filled
    rw [tagsOpened] at second
    cases second
    obtain ⟨rfl, rfl⟩ := (filledTags ..).mp tagged
    rw [padded_whole poolsLength, padded_whole tagsLength] at last
    obtain ⟨header, stream, channel, same⟩ := (texts _).mp last
    rw [chars_chars] at header channel
    exact ⟨⟨slotBytes, dims, some', each, header, stream, channel⟩, same⟩
  · rintro ⟨complete, rfl⟩
    refine ⟨⟨complete.slotBytes, complete.dims⟩, _, _, _, _, _, _, _, _, _, _, opened, complete.pools,
      (filledPools ..).mpr ⟨complete.each, rfl, rfl⟩, tagsOpened _, (filledTags ..).mpr ⟨rfl, rfl⟩, ?_⟩
    rw [padded_whole poolsLength, padded_whole tagsLength]
    apply (texts _).mpr
    rw [chars_chars, chars_chars]
    exact ⟨complete.header, complete.stream, complete.channel, rfl⟩

/-- With room for all the groups are put as a whole. -/
theorem Result.groupsChunk_fits {room : Nat} (fits : result.groupsBytes.length ≤ room) :
    result.groupsChunk room = result.groupsBytes := by
  rw [Result.groupsBytes] at fits
  simp only [List.length_append, length_groupBytes] at fits
  rw [Result.groupsChunk, poolsChunk_fits (by omega), pieces_fits (by omega), Result.groupsBytes]

/-- The decoder does not run out of entries in front of a result. -/
theorem decodeResult_present (more : List UInt8) :
    decodeResult resultsBlockLength (result.block ++ more) ≠ value none := by
  intro decoded
  rw [decodeResult_block, bind_eq_value] at decoded
  obtain ⟨_, -, groups⟩ := decoded
  obtain ⟨_, _, _, _, _, _, _, _, _, _, -, -, -, -, -, last⟩ := decodeGroups_eq_value.mp groups
  rw [decodeTexts] at last
  simp only [bind_eq_value] at last
  obtain ⟨_, -, _, -, _, -, _, -, _, -, _, -, impossible⟩ := last
  cases impossible

end Results

/-- What is written of the results when so many bytes are left. -/
def resultsChunk : Nat → List Result → List UInt8
  | _, [] => []
  | room, result :: results =>
      let chunk := result.block ++ result.groupsChunk (room - resultsBlockLength)
      chunk ++ resultsChunk (room - chunk.length) results

/-- The counts and the tags of an encoded result fit the buffer. -/
structure Result.Held (size : Nat) (result : Result) : Prop where
  counted : result.Counted
  pools : poolsBlockLength * result.poolCount ≤ size
  tags : 4 * result.tagCount ≤ size
  tagBytes : (result.tagList.flatMap Discovery.tagBytes).length ≤ size

/-- Results are put when their tags are held, each into the room that the ones before it left. -/
theorem putResults_eq_value {size : Nat} {results : List Result} {written bytes : List UInt8}
    (put : results.foldlM (putResult size) written = value bytes) (inside : written.length ≤ size) :
    (∀ result ∈ results, result.Held size) ∧ bytes = written ++ resultsChunk (size - written.length) results ∧
      bytes.length ≤ size ∧ written.length + resultsBlockLength * results.length ≤ bytes.length := by
  induction results generalizing written with
  | nil =>
      cases put
      exact ⟨nofun, (List.append_nil _).symm, inside, Nat.le_refl _⟩
  | cons result results hypothesis =>
      rw [List.foldlM_cons] at put
      obtain ⟨middle, first, later⟩ := bind_eq_value.mp put
      obtain ⟨counted, shape, within, count, pools, tags, tagBytes⟩ := putResult_eq_value first
      obtain ⟨held, parts, last, more⟩ := hypothesis later within
      refine ⟨List.forall_mem_cons.mpr ⟨⟨counted, pools, tags, tagBytes⟩, held⟩, ?_, last, ?_⟩
      · rw [parts, shape, resultsChunk, List.append_assoc, List.length_append, Nat.sub_add_eq]
      · rw [List.length_cons, Nat.mul_succ]
        omega

/-- With room for all the results are put as a whole. -/
theorem resultsChunk_fits {room : Nat} {results : List Result} (fits : (results.flatMap Result.bytes).length ≤ room) :
    resultsChunk room results = results.flatMap Result.bytes := by
  induction results generalizing room with
  | nil => rfl
  | cons result results hypothesis =>
      rw [List.flatMap_cons, List.length_append, Result.bytes, List.length_append, result.length_block] at fits
      rw [resultsChunk, Result.groupsChunk_fits (by omega), List.flatMap_cons]
      change result.bytes ++ resultsChunk (room - result.bytes.length) results = _
      rw [hypothesis]
      rw [Result.bytes, List.length_append, result.length_block]
      omega

/-- A held tag is shorter than the buffer. -/
theorem Result.Held.tag_lt {size : Nat} {result : Result} (held : result.Held size) {tag : Option Text}
    (member : tag ∈ result.tagList) : (chars (tag.getD [])).length < size := by
  have inside := (List.sublist_flatten_of_mem (List.mem_map_of_mem (f := Discovery.tagBytes) member)).length_le
  have total := held.tagBytes
  rw [List.flatMap] at total
  rw [Discovery.tagBytes, length_dataBytes] at inside
  omega

section Loop

variable {size : Nat} {tail last : List UInt8} {results items : List Result}

/-- The counts of a result of a small message fit their dimensions. -/
theorem Result.Held.few {result : Result} (held : result.Held size) (small : size ≤ querySize) :
    result.poolCount < 2 ^ 16 ∧ result.tagCount < 2 ^ 16 := by
  have pools := held.pools
  have tags := held.tags
  change 10 * _ ≤ _ at pools
  change size ≤ 4096 at small
  omega

/-- A held result is short enough for its reader. -/
theorem Result.Held.sized {result : Result} (held : result.Held size) (small : size ≤ querySize)
    (copied : result.Copied) : result.Sized :=
  ⟨copied, fun _ member => Nat.lt_of_lt_of_le (held.tag_lt member) small⟩

/-- The decoder fills its array with the sent results exactly when each is complete. -/
theorem fill_results (small : size ≤ querySize) (held : ∀ result ∈ results, result.Held size)
    (copied : ∀ result ∈ results, result.Copied) :
    fill (decodeResult resultsBlockLength) results.length (results.flatMap Result.bytes ++ tail) = value (items,
      last) ↔ (∀ result ∈ results, result.Complete) ∧ items = results.map Result.seen ∧ last = tail := by
  apply fill_flatMap Result.bytes Result.seen Result.Complete results
  intro result member rest outcome
  have few := (held result member).few small
  exact decodeResult_whole (held result member).counted
    ((held result member).sized small (copied result member)) few.1 few.2

/-- The results are read only when all of their texts fit. -/
theorem fill_results_fits (small : size ≤ querySize) (held : ∀ result ∈ results, result.Held size)
    (copied : ∀ result ∈ results, result.Copied) {room : Nat}
    (inside : (resultsChunk room results ++ tail).length ≤ room)
    (decoded : fill (decodeResult resultsBlockLength) results.length (resultsChunk room results ++ tail) =
      value (items, last)) : (results.flatMap Result.bytes).length ≤ room := by
  induction results generalizing room items with
  | nil => exact Nat.zero_le _
  | cons result results hypothesis =>
      have here := held result (List.mem_cons_self ..)
      have few := here.few small
      have sized := here.sized small (copied result (List.mem_cons_self ..))
      rw [resultsChunk] at inside decoded
      rw [List.append_assoc, List.append_assoc] at inside decoded
      rw [List.length_cons, fill_succ (decodeResult_present _)] at decoded
      obtain ⟨item, middle, others, first, later, -⟩ := decoded
      have groups := first
      rw [decodeResult_block, bind_eq_value] at groups
      obtain ⟨_, -, groups⟩ := groups
      have fits := decodeGroups_fits here.counted sized few.1 few.2
        (by rw [List.length_append, result.length_block] at inside; omega) groups
      rw [Result.groupsChunk_fits fits, ← List.append_assoc] at first inside
      change decodeResult resultsBlockLength (result.bytes ++ _) = _ at first
      obtain ⟨-, same⟩ := (decodeResult_whole here.counted sized few.1 few.2).mp first
      cases same
      change (result.bytes ++ (resultsChunk (room - result.bytes.length) results ++ tail)).length ≤ room at inside
      rw [List.length_append] at inside
      have rest : (results.flatMap Result.bytes).length ≤ room - result.bytes.length :=
        hypothesis (fun other member => held other (List.mem_cons_of_mem _ member))
          (fun other member => copied other (List.mem_cons_of_mem _ member)) (by omega) later
      rw [List.flatMap_cons, List.length_append]
      omega

end Loop

end TensorPool.Discovery
