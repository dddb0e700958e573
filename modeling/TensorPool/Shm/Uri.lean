/-
This file reads the URI of a shared-memory region.
-/

import Mathlib.Data.List.Basic

namespace TensorPool.Shm

/-- The bytes of a string, without the null byte at its end. -/
abbrev Text := List UInt8

def ascii (text : String) : Text := text.toList.map fun letter => UInt8.ofNat letter.toNat

/-- This is `tp_shm_uri_t`. -/
structure ShmUri where
  path : Text
  requireHugepages : Bool
  deriving DecidableEq, Repr

/-- This is the size of the path in a parsed URI. -/
def pathLength : Nat := 4096

/-- This is `tp_uri_parse_bool`. -/
def uriParseBool (value : Text) : Option Bool :=
  if value = ascii "true" then some true
  else if value = ascii "false" then some false
  else none

/-- The parameters stand between bars; a bar at the end starts none. -/
def uriParameters : Text → List Text
  | [] => []
  | byte :: rest =>
      if byte = 124 then [] :: uriParameters rest
      else match uriParameters rest with
        | [] => [[byte]]
        | first :: others => (byte :: first) :: others

/-- What the loop has read so far. -/
structure UriParts where
  path : Option Text := none
  requireHugepages : Bool := false
  deriving DecidableEq, Repr

/-- One parameter; a key is known by each of its prefixes. -/
def uriParameter (parts : UriParts) (parameter : Text) : Except String UriParts :=
  let key := parameter.takeWhile fun byte => byte != 61
  let value := parameter.drop (key.length + 1)
  if key.length = parameter.length then .error "tp_shm_uri_parse: invalid parameter: %s"
  else if key.isEmpty || value.isEmpty then .error "tp_shm_uri_parse: empty key or value: %s"
  else if key.isPrefixOf (ascii "path") then
    if parts.path.isSome then .error "tp_shm_uri_parse: duplicate path parameter"
    else if value.length ≥ pathLength then .error "tp_shm_uri_parse: path too long"
    else .ok { parts with path := some value }
  else if key.isPrefixOf (ascii "require_hugepages") then
    if value.length ≥ 16 then .error "tp_shm_uri_parse: require_hugepages too long"
    else match uriParseBool value with
      | none => .error "tp_shm_uri_parse: invalid require_hugepages: %s"
      | some requireHugepages => .ok { parts with requireHugepages }
  else .error "tp_shm_uri_parse: unknown parameter: %.*s"

/-- This is `tp_shm_uri_parse`. -/
def shmUriParse (uri : Text) : Except String ShmUri := do
  if !(ascii "shm:file?").isPrefixOf uri then .error "tp_shm_uri_parse: unsupported scheme: %s"
  else
    let parts ← (uriParameters (uri.drop (ascii "shm:file?").length)).foldlM uriParameter {}
    match parts.path with
    | none => .error "tp_shm_uri_parse: missing path parameter"
    | some path =>
        if path.head? ≠ some 47 then .error "tp_shm_uri_parse: path must be absolute: %s"
        else .ok ⟨path, parts.requireHugepages⟩

/-- A sequence of checks passes when both of its parts do. -/
theorem bind_ok {α β : Type} {first : Except String α} {next : α → Except String β} {b : β} :
    (first >>= next) = .ok b ↔ ∃ a, first = .ok a ∧ next a = .ok b := by
  cases first with
  | error text => simp [bind, Except.bind]
  | ok value => simp [bind, Except.bind]

end TensorPool.Shm
