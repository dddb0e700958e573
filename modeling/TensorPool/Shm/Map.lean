/-
This file maps the file behind a region URI.
-/

import TensorPool.Client.Types
import TensorPool.Shm.Superblock

namespace TensorPool.Shm

open Client (Region)

/--
What the system answers about a file that was opened.
A system call that fails gives `none`, or `false` for `mmap` and for the permissions.
-/
structure OpenedFile where
  object : Nat
  onHugetlbfs : Option Bool
  size : Option Nat
  permitted : Bool
  mapped : Bool
  deriving DecidableEq, Repr

/--
The file system and the memory during one call.
`opens` stands for `tp_shm_open_canonical` with the allowed paths of the context.
-/
structure Machine where
  allowsPaths : Bool
  opens : Text → Bool → Option OpenedFile
  onHugetlbfs : Text → Option Bool
  memory : Nat → List UInt8

/-- A failed call stops with its text. -/
def demand {α : Type} (answer : Option α) (text : String) : Except String α :=
  match answer with
  | none => .error text
  | some value => .ok value

/-- This is `tp_shm_check_hugepages` where the URI requires it. -/
def checkHugepages (parsed : ShmUri) (file : OpenedFile) : Except String Unit :=
  if !parsed.requireHugepages then .ok ()
  else match file.onHugetlbfs with
    | none => .error "tp_shm_map: fstatfs failed for %s"
    | some hugetlbfs => require hugetlbfs "tp_shm_map: require_hugepages true but not hugetlbfs: %s"

/-- This is `tp_shm_map`; the region is as long as the file. -/
def shmMap (machine : Machine) (uri : Text) (writable : Bool) : Except String Region := do
  require machine.allowsPaths "tp_shm_map: allowed paths not configured"
  let parsed ← shmUriParse uri
  let file ← demand (machine.opens parsed.path writable) "tp_shm_map: open failed for %s"
  checkHugepages parsed file
  let size ← demand file.size "tp_shm_map: fstat failed for %s"
  require file.permitted "tp_shm_map: insecure permissions for %s"
  require (size ≥ superblockSizeBytes) "tp_shm_map: region too small: %s"
  require file.mapped "tp_shm_map: mmap failed for %s"
  return { addr := some file.object, length := size }

/-- This is `tp_shm_validate_superblock` on a region. -/
def validateRegion (machine : Machine) (region : Region) (expected : Option Expected) : Except String Unit :=
  match region.addr with
  | none => .error "tp_shm_validate_superblock: region not mapped"
  | some object => validateSuperblock (machine.memory object) expected

/-- This is `tp_shm_validate_stride_alignment`. -/
def validateStrideAlignment (machine : Machine) (uri : Text) (strideBytes : UInt32) : Except String Unit := do
  require (!(strideBytes < 64 || strideBytes % 64 != 0))
    "tp_shm_validate_stride_alignment: stride not aligned to 64 bytes"
  let parsed ← shmUriParse uri
  let hugetlbfs ← demand (machine.onHugetlbfs parsed.path)
    "tp_shm_validate_stride_alignment: statfs failed for %s"
  require (!parsed.requireHugepages || hugetlbfs) "tp_shm_validate_stride_alignment: not hugetlbfs: %s"

/-- The size of the file that a URI names, when it can be opened. -/
def Machine.fileSize (machine : Machine) (uri : Text) (writable : Bool) : Option Nat :=
  match shmUriParse uri with
  | .error _ => none
  | .ok parsed => (machine.opens parsed.path writable).bind OpenedFile.size

/-- The superblock of the file that a URI names, when it can be opened. -/
def Machine.superblock (machine : Machine) (uri : Text) (writable : Bool) : Option Superblock :=
  match shmUriParse uri with
  | .error _ => none
  | .ok parsed => (machine.opens parsed.path writable).map fun file =>
      superblockField.decode (machine.memory file.object)

theorem demand_ok {α : Type} {answer : Option α} {text : String} {value : α} :
    demand answer text = .ok value ↔ answer = some value := by
  cases answer <;> simp [demand]

/-- A mapped region is the file of its URI in its whole length. -/
theorem shmMap_ok {machine : Machine} {uri : Text} {writable : Bool} {region : Region}
    (mapped : shmMap machine uri writable = .ok region) :
    ∃ object, region.addr = some object ∧ machine.fileSize uri writable = some region.length ∧
      machine.superblock uri writable = some (superblockField.decode (machine.memory object)) := by
  simp only [shmMap, bind_ok, demand_ok] at mapped
  obtain ⟨-, -, parsed, read, file, opened, -, -, size, measured, -, -, -, -, -, -, same⟩ := mapped
  cases same
  refine ⟨file.object, rfl, ?_, ?_⟩
  · rw [Machine.fileSize, read]
    dsimp only
    rw [opened, Option.bind_some, measured]
  · rw [Machine.superblock, read]
    dsimp only
    rw [opened, Option.map_some]

/-- A region that is validated has a valid superblock. -/
theorem validateRegion_ok {machine : Machine} {region : Region} {expected : Option Expected} {object : Nat}
    (mapped : region.addr = some object) (valid : validateRegion machine region expected = .ok ()) :
    validateSuperblock (machine.memory object) expected = .ok () := by
  rw [validateRegion, mapped] at valid
  exact valid

/-- An aligned stride is a positive multiple of 64. -/
theorem validateStrideAlignment_ok {machine : Machine} {uri : Text} {strideBytes : UInt32}
    (aligned : validateStrideAlignment machine uri strideBytes = .ok ()) :
    64 ≤ strideBytes ∧ strideBytes % 64 = 0 := by
  obtain ⟨_, checked, -⟩ := bind_ok.mp aligned
  rw [require_ok] at checked
  simpa using checked

end TensorPool.Shm
