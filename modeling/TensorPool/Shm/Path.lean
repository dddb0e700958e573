/-
This file shows when the check of a canonical path against the allowed directories is containment.
-/

import Mathlib.Data.List.TakeWhile
import TensorPool.Shm.Uri

namespace TensorPool.Shm

/-- This is the part of `tp_allowed_paths_t` that the check of a path reads; a null pointer gives `none`. -/
structure AllowedPaths where
  length : Nat
  canonicalPaths : Option (List (Option Text))
  deriving DecidableEq, Repr

/-- This is the comparison with one base: a prefix, and behind it a separator or the end. -/
def baseMatches (resolvedPath : Text) (base : Option Text) : Bool :=
  match base with
  | none => false
  | some base =>
      if base.length = 0 then false
      else base.isPrefixOf resolvedPath &&
        (resolvedPath.getD base.length 0 == 47 || resolvedPath.getD base.length 0 == 0)

/-- This is `tp_shm_validate_path`; `stat` tells whether the path is a regular file, if it succeeds. -/
def validatePath (stat : Text → Option Bool) (resolvedPath : Text) (allowed : Option AllowedPaths) :
    Except String Unit := do
  match allowed with
  | none => .ok ()
  | some allowed =>
      match allowed.canonicalPaths with
      | some (first :: rest) =>
          if !(first :: rest).any (baseMatches resolvedPath) then .error "tp_shm_map: path not in allowlist: %s"
          else .ok ()
      | _ => if 0 < allowed.length then .error "tp_shm_map: allowed paths not canonicalized" else .ok ()
  match stat resolvedPath with
  | none => .error "tp_shm_map: stat failed for %s"
  | some regular => if regular then .ok () else .error "tp_shm_map: not a regular file: %s"

/-- A component of a canonical path is a name without separators. -/
structure Component (name : Text) : Prop where
  filled : name ≠ []
  plain : ∀ byte ∈ name, byte ≠ 47 ∧ byte ≠ 0
  own : name ≠ ascii "." ∧ name ≠ ascii ".."

/-- The canonical path of components, as `realpath` writes it. -/
def renderPath (components : List Text) : Text :=
  if components = [] then [47] else components.flatMap fun name => 47 :: name

/-- The bases are null, empty, or canonical directories. -/
def CanonicalBases (bases : List (Option Text)) : Prop :=
  ∀ base ∈ bases, base = none ∨ base = some [] ∨
    ∃ components, (∀ name ∈ components, Component name) ∧ base = some (renderPath components)

/-- A base of the list is the path or one of its ancestors. -/
def Contained (bases : List (Option Text)) (path : List Text) : Prop :=
  ∃ components, (∀ name ∈ components, Component name) ∧ some (renderPath components) ∈ bases ∧ components <+: path

/-- The root is not among the bases, or the path does not need it. -/
def WithoutRoot (bases : List (Option Text)) (path : List Text) : Prop :=
  some (renderPath []) ∉ bases ∨ path = [] ∨
    ∃ components, (∀ name ∈ components, Component name) ∧ components ≠ [] ∧ some (renderPath components) ∈ bases ∧
      components <+: path

section Prefix

variable {name other front back : Text} {components path : List Text} {base : Text}

/-- What stands behind a component: nothing, or a separator. -/
def Ended (rest : Text) : Prop := rest = [] ∨ rest.head? = some 47

/-- A text without separators is read up to the first one. -/
theorem takeWhile_component (plain : ∀ byte ∈ name, byte ≠ 47) (ended : Ended back) :
    (name ++ back).takeWhile (· != 47) = name := by
  rw [List.takeWhile_append_of_pos fun byte present => bne_iff_ne.mpr (plain byte present)]
  cases ended with
  | inl empty => rw [empty, List.takeWhile_nil, List.append_nil]
  | inr separated =>
      cases back with
      | nil => cases separated
      | cons byte rest =>
          obtain rfl : byte = 47 := Option.some_inj.mp separated
          rw [List.takeWhile_cons_of_neg (by decide), List.append_nil]

/-- Components that end together are the same. -/
theorem component_eq (plain : ∀ byte ∈ name, byte ≠ 47) (plain' : ∀ byte ∈ other, byte ≠ 47) (ended : Ended front)
    (ended' : Ended back) (same : name ++ front = other ++ back) : name = other ∧ front = back := by
  have names : name = other := by rw [← takeWhile_component plain ended, same, takeWhile_component plain' ended']
  subst names
  exact ⟨rfl, List.append_cancel_left same⟩

theorem ended_body (path : List Text) : Ended (path.flatMap fun name => 47 :: name) := by
  cases path with
  | nil => exact .inl rfl
  | cons name rest => exact .inr rfl

theorem ended_append (path : List Text) {rest : Text} (ended : Ended rest) :
    Ended ((path.flatMap fun name => 47 :: name) ++ rest) := by
  cases path with
  | nil => exact ended
  | cons name names => exact .inr rfl

/-- The texts of two paths are prefixes of each other, up to a separator, when the paths are. -/
theorem body_prefix (named : ∀ name ∈ components, Component name) (named' : ∀ name ∈ path, Component name) :
    (∃ rest, (components.flatMap fun name => 47 :: name) ++ rest = path.flatMap (fun name => 47 :: name) ∧
      Ended rest) ↔ components <+: path := by
  induction components generalizing path with
  | nil =>
      constructor
      · intro found
        exact List.nil_prefix
      · intro inside
        exact ⟨_, rfl, ended_body path⟩
  | cons name names hypothesis =>
      cases path with
      | nil =>
          constructor
          · intro found
            obtain ⟨rest, same, -⟩ := found
            cases same
          · intro inside
            exact absurd (List.prefix_nil.mp inside) (List.cons_ne_nil _ _)
      | cons other others =>
          rw [List.forall_mem_cons] at named named'
          rw [List.cons_prefix_cons, ← hypothesis named.2 named'.2]
          constructor
          · intro found
            obtain ⟨rest, same, ended⟩ := found
            rw [List.flatMap_cons, List.flatMap_cons, List.append_assoc, List.cons_append, List.cons_append,
              List.cons_inj_right] at same
            obtain ⟨names, tails⟩ := component_eq (fun byte present => (named.1.plain byte present).1)
              (fun byte present => (named'.1.plain byte present).1) (ended_append _ ended) (ended_body _) same
            exact ⟨names, rest, tails, ended⟩
          · intro found
            obtain ⟨rfl, rest, same, ended⟩ := found
            refine ⟨rest, ?_, ended⟩
            rw [List.flatMap_cons, List.flatMap_cons, List.append_assoc, same]

theorem body_nonzero (named : ∀ name ∈ path, Component name) :
    ∀ byte ∈ path.flatMap (fun name => 47 :: name), byte ≠ 0 := by
  intro byte present
  obtain ⟨name, component, inside⟩ := List.mem_flatMap.mp present
  cases List.mem_cons.mp inside with
  | inl separator =>
      rw [separator]
      decide
  | inr letter => exact ((named name component).plain byte letter).2

/-- Behind a prefix stands a separator or the end exactly when the rest is ended. -/
theorem boundary_iff (nonzero : ∀ byte ∈ back, byte ≠ 0) :
    ((front ++ back).getD front.length 0 = 47 ∨ (front ++ back).getD front.length 0 = 0) ↔ Ended back := by
  rw [List.getD_eq_getElem?_getD, List.getElem?_append_right (Nat.le_refl _), Nat.sub_self, Ended]
  cases back with
  | nil => simp
  | cons byte rest =>
      have other := nonzero byte List.mem_cons_self
      simp [other]

/-- A base below the root matches what it contains. -/
theorem baseMatches_iff (named : ∀ name ∈ components, Component name) (named' : ∀ name ∈ path, Component name)
    (below : components ≠ []) : baseMatches (renderPath path) (some (renderPath components)) = true ↔
      components <+: path := by
  obtain ⟨name, names, rfl⟩ := List.exists_cons_of_ne_nil below
  have filled := (named name List.mem_cons_self).filled
  cases path with
  | nil =>
      constructor
      · intro matched
        unfold baseMatches at matched
        simp only [renderPath, if_neg below, List.flatMap_cons, List.cons_append] at matched
        rw [if_neg (by simp), Bool.and_eq_true] at matched
        have inside := (List.isPrefixOf_iff_prefix.mp matched.1).length_le
        have positive := List.length_pos_iff.mpr filled
        rw [if_pos trivial] at inside
        simp only [List.length_cons, List.length_append, List.length_nil] at inside
        omega
      · intro inside
        exact absurd (List.prefix_nil.mp inside) below
  | cons other others =>
      rw [← body_prefix named named', baseMatches, renderPath, renderPath, if_neg below,
        if_neg (List.cons_ne_nil _ _), if_neg (by simp), Bool.and_eq_true, Bool.or_eq_true, beq_iff_eq,
          beq_iff_eq, List.isPrefixOf_iff_prefix]
      constructor
      · intro matched
        obtain ⟨⟨rest, same⟩, boundary⟩ := matched
        refine ⟨rest, same, ?_⟩
        rw [← same] at boundary
        apply (boundary_iff _).mp boundary
        intro byte present
        apply body_nonzero named' byte
        rw [← same]
        exact List.mem_append_right _ present
      · intro found
        obtain ⟨rest, same, ended⟩ := found
        apply And.intro ⟨rest, same⟩
        rw [← same]
        apply (boundary_iff _).mpr ended
        intro byte present
        apply body_nonzero named' byte
        rw [← same]
        exact List.mem_append_right _ present

/-- The root as a base matches only the root. -/
theorem baseMatches_root (named : ∀ name ∈ path, Component name) :
    baseMatches (renderPath path) (some (renderPath [])) = true ↔ path = [] := by
  cases path with
  | nil => decide
  | cons name names =>
      have component := named name List.mem_cons_self
      cases name with
      | nil => exact absurd rfl component.filled
      | cons byte rest =>
          obtain ⟨separator, null⟩ := component.plain byte List.mem_cons_self
          simp [baseMatches, renderPath, separator, null]

/-- A base is matched by what it contains, but the root only by itself. -/
theorem any_baseMatches {bases : List (Option Text)} (canonical : CanonicalBases bases)
    (named : ∀ name ∈ path, Component name) :
    bases.any (baseMatches (renderPath path)) = true ↔
      ∃ components, (∀ name ∈ components, Component name) ∧ some (renderPath components) ∈ bases ∧
        components <+: path ∧ (components = [] → path = []) := by
  rw [List.any_eq_true]
  constructor
  · intro found
    obtain ⟨base, present, matched⟩ := found
    obtain rfl | rfl | ⟨components, named', rfl⟩ := canonical base present
    · cases matched
    · cases matched
    · by_cases root : components = []
      · subst root
        exact ⟨[], named', present, List.nil_prefix, fun _ => (baseMatches_root named).mp matched⟩
      · exact ⟨components, named', present, (baseMatches_iff named' named root).mp matched,
          fun none => absurd none root⟩
  · intro found
    obtain ⟨components, named', present, inside, own⟩ := found
    refine ⟨_, present, ?_⟩
    by_cases root : components = []
    · rw [root]
      exact (baseMatches_root named).mpr (own root)
    · exact (baseMatches_iff named' named root).mpr inside

end Prefix

theorem validatePath_ok {stat : Text → Option Bool} {resolvedPath : Text} {length : Nat} {bases : List (Option Text)}
    (some' : bases ≠ []) (regular : stat resolvedPath = some true) :
    validatePath stat resolvedPath (some ⟨length, some bases⟩) = .ok () ↔
      bases.any (baseMatches resolvedPath) = true := by
  obtain ⟨first, rest, rfl⟩ := List.exists_cons_of_ne_nil some'
  unfold validatePath
  cases matched : (first :: rest).any (baseMatches resolvedPath) <;> simp only [matched, regular, bind,
    Except.bind] <;> simp

/-- The check is containment exactly when the path does not need the root as a base. -/
theorem validatePath_contained_iff {stat : Text → Option Bool} {bases : List (Option Text)} {path : List Text}
    (length : Nat) (nonempty : bases ≠ []) (canonical : CanonicalBases bases) (named : ∀ name ∈ path, Component name)
    (regular : stat (renderPath path) = some true) :
    (validatePath stat (renderPath path) (some ⟨length, some bases⟩) = .ok () ↔ Contained bases path) ↔
      WithoutRoot bases path := by
  rw [validatePath_ok nonempty regular, any_baseMatches canonical named]
  constructor
  · intro exact'
    by_cases root : some (renderPath []) ∈ bases
    · apply Or.inr
      obtain ⟨components, named', present, inside, own⟩ :=
        exact'.mpr ⟨[], fun _ none => (by cases none), root, List.nil_prefix⟩
      by_cases top : components = []
      · exact .inl (own top)
      · exact .inr ⟨components, named', top, present, inside⟩
    · exact .inl root
  · intro without
    constructor
    · intro found
      obtain ⟨components, named', present, inside, -⟩ := found
      exact ⟨components, named', present, inside⟩
    · intro contained
      obtain ⟨components, named', present, inside⟩ := contained
      by_cases top : components = []
      · obtain absent | own | other := without
        · exact absurd (top ▸ present) absent
        · exact ⟨components, named', present, inside, fun _ => own⟩
        · obtain ⟨below, named'', filled, present', inside'⟩ := other
          exact ⟨below, named'', present', inside', fun none => absurd none filled⟩
      · exact ⟨components, named', present, inside, fun none => absurd none top⟩

theorem component_letter {letter : UInt8} (plain : letter ≠ 47 ∧ letter ≠ 0 ∧ letter ≠ 46) : Component [letter] where
  filled := List.cons_ne_nil _ _
  plain := by
    intro byte present
    rw [List.mem_singleton.mp present]
    exact ⟨plain.1, plain.2.1⟩
  own := by
    constructor
    · intro same
      exact plain.2.2 (List.head_eq_of_cons_eq same)
    · intro same
      cases congrArg List.length same

/-- The file /a/b is in the directory /a, and not in /ab. -/
theorem validatePath_contained_nested :
    validatePath (fun _ => some true) (renderPath [[97], [98]])
      (some ⟨2, some [none, some (renderPath [[97]])]⟩) = .ok () ∧ Contained [none, some (renderPath [[97]])]
        [[97], [98]] := by
  have first : Component [97] := component_letter (by decide)
  have second : Component [98] := component_letter (by decide)
  have canonical : CanonicalBases [none, some (renderPath [[97]])] := by
    intro base present
    rcases List.mem_cons.mp present with none | one
    · exact .inl none
    · refine .inr (.inr ⟨[[97]], ?_, List.mem_singleton.mp one⟩)
      intro name inside
      rw [List.mem_singleton.mp inside]
      exact first
  have named : ∀ name ∈ [[97], [98]], Component name := by
    intro name inside
    rcases List.mem_cons.mp inside with rfl | other
    · exact first
    · rw [List.mem_singleton.mp other]
      exact second
  have without : WithoutRoot [none, some (renderPath [[97]])] [[97], [98]] := .inl (by decide)
  have accepted : validatePath (fun _ => some true) (renderPath [[97], [98]])
      (some ⟨2, some [none, some (renderPath [[97]])]⟩) = .ok () := by decide
  exact ⟨accepted, ((validatePath_contained_iff 2
    (List.cons_ne_nil _ _) canonical named rfl).mpr without).mp accepted⟩

/-- The root contains the file /a, which is refused. -/
theorem root_refuses :
    CanonicalBases [some (renderPath [])] ∧ (∀ name ∈ [[97]], Component name) ∧ Contained [some (renderPath [])]
      [[97]] ∧ validatePath (fun _ => some true) (renderPath [[97]]) (some ⟨1, some [some (renderPath [])]⟩) ≠
        .ok () := by
  have none : ∀ name ∈ ([] : List Text), Component name := by
    intro name inside
    cases inside
  refine ⟨?_, ?_, ⟨[], none, List.mem_singleton.mpr rfl, List.nil_prefix⟩, by decide⟩
  · intro base present
    exact .inr (.inr ⟨[], none, List.mem_singleton.mp present⟩)
  · intro name inside
    rw [List.mem_singleton.mp inside]
    exact component_letter (by decide)

end TensorPool.Shm
