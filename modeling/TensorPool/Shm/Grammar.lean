/-
This file shows when the URI parser accepts exactly the grammar of region URIs.
-/

import Mathlib.Data.List.TakeWhile
import TensorPool.Shm.Uri

namespace TensorPool.Shm

def scheme : Text := ascii "shm:file?"
def pathKey : Text := ascii "path"
def hugepagesKey : Text := ascii "require_hugepages"

def uriKey (parameter : Text) : Text := parameter.takeWhile (· != 61)

def uriValue (parameter : Text) : Text := parameter.drop ((uriKey parameter).length + 1)

/-- The parameters behind the scheme. -/
def uriBody (uri : Text) : Text := uri.drop scheme.length

def boolText (flag : Bool) : Text := if flag then ascii "true" else ascii "false"

/-- A character of a path is visible, and neither a question mark nor a bar. -/
def PathByte (byte : UInt8) : Prop := 0x21 ≤ byte ∧ byte ≤ 0x7E ∧ byte ≠ 63 ∧ byte ≠ 124

instance (byte : UInt8) : Decidable (PathByte byte) := inferInstanceAs (Decidable (_ ∧ _ ∧ _ ∧ _))

/-- An absolute path of the grammar. -/
structure AbsPath (path : Text) : Prop where
  absolute : path.head? = some 47
  visible : ∀ byte ∈ path, PathByte byte

/-- This is the grammar of a region URI with the values that it names. -/
inductive ShmUriGrammar : Text → ShmUri → Prop where
  | path (path : Text) : AbsPath path → ShmUriGrammar (scheme ++ (pathKey ++ 61 :: path)) ⟨path, false⟩
  | hugepages (path : Text) (flag : Bool) : AbsPath path →
      ShmUriGrammar (scheme ++ ((pathKey ++ 61 :: path) ++ 124 :: (hugepagesKey ++ 61 :: boolText flag))) ⟨path, flag⟩

/-- The key is taken for the path. -/
def isPath (parameter : Text) : Bool := (uriKey parameter).isPrefixOf pathKey

/-- Each value that is taken for the path fits its buffer. -/
def ShortPath (uri : Text) : Prop :=
  ∀ parameter ∈ uriParameters (uriBody uri), isPath parameter = true → (uriValue parameter).length < pathLength

/-- A parameter has a key and a value, and the key begins the name of a parameter. -/
structure Entry (parameter : Text) : Prop where
  split : 61 ∈ parameter
  key : uriKey parameter ≠ []
  value : uriValue parameter ≠ []
  known : isPath parameter = true ∨
    (uriKey parameter).isPrefixOf hugepagesKey = true ∧ ∃ flag, uriParseBool (uriValue parameter) = some flag

/-- The URI has no fault: its scheme, its parameters, and one absolute path. -/
structure Faultless (uri : Text) : Prop where
  scheme : scheme <+: uri
  entries : ∀ parameter ∈ uriParameters (uriBody uri), Entry parameter
  path : ∃ parameter, (uriParameters (uriBody uri)).filter isPath = [parameter] ∧ (uriValue parameter).head? = some 47

/-- The URI is plain: whole keys, the path first, at most one flag, no bar at the end, and a visible path. -/
structure Plain (uri : Text) : Prop where
  whole : ∀ parameter ∈ uriParameters (uriBody uri), uriKey parameter = pathKey ∨ uriKey parameter = hugepagesKey
  first : ∀ parameter ∈ (uriParameters (uriBody uri)).head?, uriKey parameter = pathKey
  few : (uriParameters (uriBody uri)).length ≤ 2
  last : (uriBody uri).getLast? ≠ some 124
  visible : ∀ parameter ∈ uriParameters (uriBody uri), uriKey parameter = pathKey →
    ∀ byte ∈ uriValue parameter, PathByte byte

section Parameters

variable {front back rest key value parameter : Text} {byte : UInt8}

/-- A bar ends a parameter. -/
theorem uriParameters_bar (plain : 124 ∉ front) :
    uriParameters (front ++ 124 :: rest) = front :: uriParameters rest := by
  induction front with
  | nil => exact if_pos rfl
  | cons byte front hypothesis =>
      rw [List.mem_cons, not_or] at plain
      rw [List.cons_append, uriParameters, if_neg (Ne.symm plain.1), hypothesis plain.2]

/-- The last parameter has no bar. -/
theorem uriParameters_last (plain : 124 ∉ front) (filled : front ≠ []) : uriParameters front = [front] := by
  induction front with
  | nil => exact absurd rfl filled
  | cons byte front hypothesis =>
      rw [List.mem_cons, not_or] at plain
      rw [uriParameters, if_neg (Ne.symm plain.1)]
      cases front with
      | nil => rfl
      | cons next front => rw [hypothesis plain.2 (List.cons_ne_nil _ _)]

/-- A text is empty, one parameter, or a parameter with the others behind a bar. -/
theorem uriParameters_cases (rest : Text) :
    rest = [] ∨ (124 ∉ rest ∧ uriParameters rest = [rest]) ∨
      ∃ front back, 124 ∉ front ∧ rest = front ++ 124 :: back ∧ uriParameters rest = front :: uriParameters back := by
  by_cases empty : rest = []
  · exact .inl empty
  by_cases bar : 124 ∈ rest
  · obtain ⟨front, back, rfl, plain⟩ := List.eq_append_cons_of_mem bar
    exact .inr (.inr ⟨front, back, plain, rfl, uriParameters_bar plain⟩)
  · exact .inr (.inl ⟨bar, uriParameters_last bar empty⟩)

/-- Up to two parameters without a bar at the end are the text. -/
theorem uriParameters_few (few : (uriParameters rest).length ≤ 2) (last : rest.getLast? ≠ some 124) :
    rest = [] ∨ uriParameters rest = [rest] ∨
      ∃ front back, rest = front ++ 124 :: back ∧ uriParameters rest = [front, back] := by
  obtain empty | one | ⟨front, back, -, rfl, parameters⟩ := uriParameters_cases rest
  · exact .inl empty
  · exact .inr (.inl one.2)
  apply Or.inr
  apply Or.inr
  obtain rfl | one | ⟨second, others, -, rfl, parameters'⟩ := uriParameters_cases back
  · exact absurd (List.getLast?_append_cons ..) last
  · exact ⟨front, back, rfl, by rw [parameters, one.2]⟩
  · rw [parameters, parameters'] at few
    simp only [List.length_cons] at few
    obtain rfl | one | ⟨third, rest, -, rfl, parameters''⟩ := uriParameters_cases others
    · rw [List.getLast?_append_cons, ← List.cons_append, List.getLast?_append_cons] at last
      exact absurd rfl last
    · rw [one.2] at few
      simp only [List.length_cons] at few
      omega
    · rw [parameters''] at few
      simp only [List.length_cons] at few
      omega

/-- A parameter is its key, an equals sign and its value. -/
theorem parameter_split (split : 61 ∈ parameter) : parameter = uriKey parameter ++ 61 :: uriValue parameter := by
  induction parameter with
  | nil => cases split
  | cons byte rest hypothesis =>
      by_cases equals : byte = 61
      · subst equals
        rfl
      · have inner := hypothesis ((List.mem_cons.mp split).resolve_left (Ne.symm equals))
        have key : uriKey (byte :: rest) = byte :: uriKey rest := List.takeWhile_cons_of_pos (bne_iff_ne.mpr equals)
        rw [uriValue, key, List.length_cons, List.drop_succ_cons, List.cons_append]
        exact congrArg (byte :: ·) inner

/-- The key is what stands before the first equals sign. -/
theorem uriKey_join (plain : 61 ∉ key) : uriKey (key ++ 61 :: value) = key := by
  induction key with
  | nil => rfl
  | cons byte key hypothesis =>
      rw [List.mem_cons, not_or] at plain
      have kept : uriKey (byte :: (key ++ 61 :: value)) = byte :: uriKey (key ++ 61 :: value) :=
        List.takeWhile_cons_of_pos (bne_iff_ne.mpr (Ne.symm plain.1))
      rw [List.cons_append, kept, hypothesis plain.2]

/-- The value is what stands behind the first equals sign. -/
theorem uriValue_join (plain : 61 ∉ key) : uriValue (key ++ 61 :: value) = value := by
  rw [uriValue, uriKey_join plain, List.drop_append, List.drop_of_length_le (Nat.le_succ _), List.nil_append,
    Nat.add_sub_cancel_left]
  rfl

end Parameters

section Fold

variable {parts parts' : UriParts} {parameter : Text} {parameters : List Text} {uri : Text} {result : ShmUri}

/-- What is read of one entry: its path, or its flag. -/
def readParameter (parts : UriParts) (parameter : Text) : UriParts :=
  if isPath parameter then { parts with path := some (uriValue parameter) }
  else { parts with requireHugepages := (uriParseBool (uriValue parameter)).getD false }

/-- A read truth value is short enough for its buffer. -/
theorem length_parseBool {value : Text} {flag : Bool} (read : uriParseBool value = some flag) :
    value.length < 16 := by
  unfold uriParseBool at read
  split at read
  next same =>
    rw [same]
    decide
  · split at read
    next same =>
      rw [same]
      decide
    · cases read

/-- A parameter has an equals sign exactly when its key is not the whole of it. -/
theorem mem_iff_key (parameter : Text) : 61 ∈ parameter ↔ (uriKey parameter).length ≠ parameter.length := by
  constructor
  · intro split
    have whole := congrArg List.length (parameter_split split)
    rw [List.length_append, List.length_cons] at whole
    omega
  · intro shorter
    by_contra absent
    apply shorter
    have whole : parameter.takeWhile (· != 61) = parameter := by
      rw [List.takeWhile_eq_self_iff]
      intro byte present
      apply bne_iff_ne.mpr
      intro same
      exact absent (same ▸ present)
    rw [uriKey, whole]

/-- The last step of a parameter sets the flag when its value is one. -/
def setFlag (parts : UriParts) : Option Bool → Except String UriParts
  | none => .error "tp_shm_uri_parse: invalid require_hugepages: %s"
  | some requireHugepages => .ok { parts with requireHugepages }

/-- The last step of the parser takes an absolute path. -/
def absoluteUri (requireHugepages : Bool) : Option Text → Except String ShmUri
  | none => .error "tp_shm_uri_parse: missing path parameter"
  | some path =>
      if path.head? ≠ some 47 then .error "tp_shm_uri_parse: path must be absolute: %s"
        else .ok ⟨path, requireHugepages⟩

/-- An entry is read unless it is a second path or too long; nothing else is. -/
theorem uriParameter_iff (short : isPath parameter = true → (uriValue parameter).length < pathLength) :
    uriParameter parts parameter = .ok parts' ↔
      Entry parameter ∧ (isPath parameter = true → parts.path = none) ∧ parts' = readParameter parts parameter := by
  have unfolded : uriParameter parts parameter =
      if (uriKey parameter).length = parameter.length then .error "tp_shm_uri_parse: invalid parameter: %s"
      else if (uriKey parameter).isEmpty || (uriValue parameter).isEmpty then
        .error "tp_shm_uri_parse: empty key or value: %s"
      else if isPath parameter then
        if parts.path.isSome then .error "tp_shm_uri_parse: duplicate path parameter"
        else if (uriValue parameter).length ≥ pathLength then .error "tp_shm_uri_parse: path too long"
        else .ok { parts with path := some (uriValue parameter) }
      else if (uriKey parameter).isPrefixOf hugepagesKey then
        if (uriValue parameter).length ≥ 16 then .error "tp_shm_uri_parse: require_hugepages too long"
        else setFlag parts (uriParseBool (uriValue parameter))
      else .error "tp_shm_uri_parse: unknown parameter: %.*s" := rfl
  rw [unfolded]
  constructor
  · intro read
    split at read
    · cases read
    next shorter =>
    split at read
    · cases read
    next filled =>
    rw [Bool.or_eq_true, not_or, List.isEmpty_iff, List.isEmpty_iff] at filled
    have split := (mem_iff_key parameter).mpr shorter
    split at read
    next path =>
      split at read
      · cases read
      next free =>
        split at read
        · cases read
        · cases read
          exact ⟨⟨split, filled.1, filled.2, .inl path⟩, fun _ => Option.not_isSome_iff_eq_none.mp free,
            (if_pos path).symm⟩
    next other =>
      split at read
      next key =>
        split at read
        · cases read
        · cases parsed : uriParseBool (uriValue parameter) with
          | none =>
            rw [parsed] at read
            cases read
          | some flag =>
            rw [parsed] at read
            cases read
            refine ⟨⟨split, filled.1, filled.2, .inr ⟨key, flag, parsed⟩⟩, fun path => absurd path other, ?_⟩
            rw [readParameter, if_neg other, parsed]
            rfl
      · cases read
  · intro entered
    obtain ⟨entry, free, rfl⟩ := entered
    have filled : ¬((uriKey parameter).isEmpty || (uriValue parameter).isEmpty) = true := by
      rw [Bool.or_eq_true, not_or, List.isEmpty_iff, List.isEmpty_iff]
      exact ⟨entry.key, entry.value⟩
    rw [if_neg ((mem_iff_key parameter).mp entry.split), if_neg filled]
    cases path : isPath parameter with
    | true =>
        have room := short path
        have fresh : ¬parts.path.isSome = true := by
          rw [free path]
          exact Bool.false_ne_true
        rw [if_pos rfl, if_neg fresh, if_neg (by omega), readParameter, if_pos path]
    | false =>
        obtain ⟨key, flag, parsed⟩ := entry.known.resolve_left (by rw [path]; exact Bool.false_ne_true)
        have room := length_parseBool parsed
        rw [if_neg Bool.false_ne_true, if_pos key, if_neg (by omega), parsed, readParameter, path,
          if_neg Bool.false_ne_true, parsed]
        rfl

/-- The parameters are read when each is an entry and one at most is the path. -/
theorem foldlM_iff (short : ∀ parameter ∈ parameters, isPath parameter = true →
    (uriValue parameter).length < pathLength) :
    parameters.foldlM uriParameter parts = .ok parts' ↔
      (∀ parameter ∈ parameters, Entry parameter) ∧
        parts.path.toList.length + (parameters.filter isPath).length ≤ 1 ∧
        parts' = parameters.foldl readParameter parts := by
  induction parameters generalizing parts with
  | nil =>
      have one : parts.path.toList.length ≤ 1 := by cases parts.path <;> simp
      constructor
      · intro read
        cases read
        exact ⟨fun parameter none => (by cases none), one, rfl⟩
      · intro entered
        rw [entered.2.2]
        rfl
  | cons parameter rest hypothesis =>
      rw [List.forall_mem_cons] at short
      have step : (parameter :: rest).foldlM uriParameter parts = .ok parts' ↔
          ∃ middle, uriParameter parts parameter = .ok middle ∧ rest.foldlM uriParameter middle = .ok parts' := by
        rw [List.foldlM_cons]
        cases uriParameter parts parameter <;> simp [bind, Except.bind]
      rw [step, List.forall_mem_cons, List.foldl_cons]
      simp only [uriParameter_iff short.1, hypothesis short.2]
      cases path : isPath parameter with
      | true =>
          have known : (readParameter parts parameter).path = some (uriValue parameter) := by
            rw [readParameter, if_pos path]
          rw [List.filter_cons_of_pos path, List.length_cons]
          constructor
          · intro found
            obtain ⟨middle, ⟨entry, free, rfl⟩, entries, one, last⟩ := found
            rw [known] at one
            rw [free rfl]
            exact ⟨⟨entry, entries⟩, by simpa [Nat.add_comm] using one, last⟩
          · intro found
            obtain ⟨⟨entry, entries⟩, one, last⟩ := found
            have free : parts.path = none := by
              cases known' : parts.path with
              | none => rfl
              | some other =>
                  rw [known', Option.toList_some, List.length_singleton] at one
                  omega
            rw [free] at one
            refine ⟨_, ⟨entry, fun _ => free, rfl⟩, entries, ?_, last⟩
            rw [known]
            simpa [Nat.add_comm] using one
      | false =>
          have known : (readParameter parts parameter).path = parts.path := by
            rw [readParameter, path, if_neg Bool.false_ne_true]
          rw [List.filter_cons_of_neg (by rw [path]; exact Bool.false_ne_true)]
          constructor
          · intro found
            obtain ⟨middle, ⟨entry, -, rfl⟩, entries, one, last⟩ := found
            rw [known] at one
            exact ⟨⟨entry, entries⟩, one, last⟩
          · intro found
            obtain ⟨⟨entry, entries⟩, one, last⟩ := found
            refine ⟨_, ⟨entry, fun none => (by cases none), rfl⟩, entries, ?_, last⟩
            rw [known]
            exact one

/-- The path that is read is the last of the entries that are taken for one. -/
theorem foldl_path (parameters : List Text) (parts : UriParts) :
    (parameters.foldl readParameter parts).path =
      (((parameters.filter isPath).map uriValue).getLast?).or parts.path := by
  induction parameters generalizing parts with
  | nil => rfl
  | cons parameter rest hypothesis =>
      rw [List.foldl_cons, hypothesis, readParameter]
      cases path : isPath parameter with
      | true =>
          rw [if_pos rfl, List.filter_cons_of_pos path, List.map_cons, List.getLast?_cons]
          cases ((rest.filter isPath).map uriValue).getLast? <;> rfl
      | false =>
          rw [if_neg Bool.false_ne_true, List.filter_cons_of_neg (by rw [path]; exact Bool.false_ne_true)]

/-- The parser accepts a URI exactly when it has no fault. -/
theorem shmUriParse_iff (short : ShortPath uri) :
    shmUriParse uri = .ok result ↔ Faultless uri ∧
      some result.path = ((uriParameters (uriBody uri)).foldl readParameter {}).path ∧
      result.requireHugepages = ((uriParameters (uriBody uri)).foldl readParameter {}).requireHugepages := by
  have unfolded : shmUriParse uri =
      if !scheme.isPrefixOf uri then .error "tp_shm_uri_parse: unsupported scheme: %s"
      else (uriParameters (uriBody uri)).foldlM uriParameter {} >>= fun parts =>
        absoluteUri parts.requireHugepages parts.path := rfl
  rw [unfolded]
  cases start : scheme.isPrefixOf uri with
  | false =>
      rw [Bool.not_false, if_pos rfl]
      constructor
      · intro read
        cases read
      · intro found
        rw [List.isPrefixOf_iff_prefix.mpr found.1.scheme] at start
        cases start
  | true =>
      rw [Bool.not_true, if_neg Bool.false_ne_true]
      have scheme := List.isPrefixOf_iff_prefix.mp start
      have path := foldl_path (uriParameters (uriBody uri)) {}
      rw [Option.or_none] at path
      constructor
      · intro read
        obtain ⟨parts, folded, read⟩ := bind_ok.mp read
        obtain ⟨entries, one, rfl⟩ := (foldlM_iff short).mp folded
        rw [Option.toList_none, List.length_nil, Nat.zero_add] at one
        cases found : (uriParameters (uriBody uri)).filter isPath with
        | nil =>
            rw [found] at path
            rw [path] at read
            cases read
        | cons parameter others =>
            rw [found] at one
            obtain rfl : others = [] := List.length_eq_zero_iff.mp (by rw [List.length_cons] at one; omega)
            rw [found] at path
            rw [path] at read ⊢
            change (if (uriValue parameter).head? ≠ some 47 then _ else _) = _ at read
            split at read
            · cases read
            next absolute =>
              cases read
              exact ⟨⟨scheme, entries, parameter, found, not_not.mp absolute⟩, rfl, rfl⟩
      · intro found
        obtain ⟨⟨-, entries, parameter, one, absolute⟩, known, flag⟩ := found
        apply bind_ok.mpr
        refine ⟨_, (foldlM_iff short).mpr ⟨entries, by rw [one]; exact Nat.le_refl 1, rfl⟩, ?_⟩
        rw [one] at path
        rw [path] at known ⊢
        have same : result.path = uriValue parameter := Option.some_inj.mp known
        change (if (uriValue parameter).head? ≠ some 47 then _ else _) = _
        rw [if_neg (not_not.mpr absolute), ← flag, ← same]
        rfl

end Fold

section Exact

variable {uri : Text} {result : ShmUri} {path : Text} {flag : Bool}

/-- The text of a truth value is read as it. -/
theorem parseBool_boolText (flag : Bool) : uriParseBool (boolText flag) = some flag := by
  cases flag <;> rfl

/-- Only the texts of truth values are read. -/
theorem parseBool_some {value : Text} (read : uriParseBool value = some flag) : value = boolText flag := by
  unfold uriParseBool at read
  split at read
  next same =>
    cases read
    exact same
  · split at read
    next same =>
      cases read
      exact same
    · cases read

theorem pathKey_plain : 61 ∉ pathKey ∧ 124 ∉ pathKey := by decide

theorem hugepagesKey_plain : 61 ∉ hugepagesKey ∧ 124 ∉ hugepagesKey := by decide

/-- A path parameter has no bar. -/
theorem AbsPath.plain (path' : AbsPath path) : 124 ∉ pathKey ++ 61 :: path := by
  intro bar
  rcases List.mem_append.mp bar with key | value
  · exact pathKey_plain.2 key
  · rcases List.mem_cons.mp value with equals | inside
    · cases equals
    · exact (path'.visible 124 inside).2.2.2 rfl

/-- The parameters of a URI with a path. -/
theorem parameters_path (path' : AbsPath path) :
    uriParameters (uriBody (scheme ++ (pathKey ++ 61 :: path))) = [pathKey ++ 61 :: path] := by
  rw [uriBody, List.drop_left]
  exact uriParameters_last path'.plain (List.append_ne_nil_of_right_ne_nil _ (List.cons_ne_nil _ _))

/-- The parameters of a URI with a path and a flag. -/
theorem parameters_hugepages (path' : AbsPath path) (flag : Bool) :
    uriParameters (uriBody (scheme ++ ((pathKey ++ 61 :: path) ++ 124 :: (hugepagesKey ++ 61 :: boolText flag)))) =
      [pathKey ++ 61 :: path, hugepagesKey ++ 61 :: boolText flag] := by
  rw [uriBody, List.drop_left, uriParameters_bar path'.plain]
  cases flag <;> rfl

theorem isPath_path (value : Text) : isPath (pathKey ++ 61 :: value) = true := by
  rw [isPath, uriKey_join pathKey_plain.1]
  rfl

theorem isPath_hugepages (value : Text) : isPath (hugepagesKey ++ 61 :: value) = false := by
  rw [isPath, uriKey_join hugepagesKey_plain.1]
  rfl

/-- A path is an entry of the grammar. -/
theorem entry_path (path' : AbsPath path) : Entry (pathKey ++ 61 :: path) where
  split := List.mem_append_right _ List.mem_cons_self
  key := by
    rw [uriKey_join pathKey_plain.1]
    decide
  value := by
    rw [uriValue_join pathKey_plain.1]
    intro empty
    have absolute := path'.absolute
    rw [empty] at absolute
    cases absolute
  known := .inl (isPath_path path)

/-- A page flag is an entry of the grammar. -/
theorem entry_hugepages (flag : Bool) : Entry (hugepagesKey ++ 61 :: boolText flag) where
  split := List.mem_append_right _ List.mem_cons_self
  key := by
    rw [uriKey_join hugepagesKey_plain.1]
    decide
  value := by
    rw [uriValue_join hugepagesKey_plain.1]
    cases flag <;> decide
  known := by
    apply Or.inr
    rw [uriKey_join hugepagesKey_plain.1, uriValue_join hugepagesKey_plain.1]
    exact ⟨rfl, flag, parseBool_boolText flag⟩

/-- A URI of the grammar is parsed into its values. -/
theorem grammar_parsed (short : ShortPath uri) (derived : ShmUriGrammar uri result) :
    shmUriParse uri = .ok result := by
  rw [shmUriParse_iff short]
  cases derived with
  | path path path' =>
      rw [parameters_path path']
      refine ⟨⟨List.prefix_append _ _, ?_, ?_⟩, ?_, ?_⟩
      · rw [parameters_path path']
        intro parameter present
        rw [List.mem_singleton.mp present]
        exact entry_path path'
      · refine ⟨pathKey ++ 61 :: path, ?_, ?_⟩
        · rw [parameters_path path', List.filter_cons_of_pos (isPath_path path)]
          rfl
        · rw [uriValue_join pathKey_plain.1]
          exact path'.absolute
      · rw [List.foldl_cons, readParameter, if_pos (isPath_path path), uriValue_join pathKey_plain.1]
        rfl
      · rw [List.foldl_cons, readParameter, if_pos (isPath_path path)]
        rfl
  | hugepages path flag path' =>
      have other : ¬isPath (hugepagesKey ++ 61 :: boolText flag) = true := by
        rw [isPath_hugepages]
        exact Bool.false_ne_true
      rw [parameters_hugepages path']
      refine ⟨⟨List.prefix_append _ _, ?_, ?_⟩, ?_, ?_⟩
      · rw [parameters_hugepages path']
        intro parameter present
        rcases List.mem_cons.mp present with rfl | last
        · exact entry_path path'
        · rw [List.mem_singleton.mp last]
          exact entry_hugepages flag
      · refine ⟨pathKey ++ 61 :: path, ?_, ?_⟩
        · rw [parameters_hugepages path', List.filter_cons_of_pos (isPath_path path), List.filter_cons_of_neg other]
          rfl
        · rw [uriValue_join pathKey_plain.1]
          exact path'.absolute
      · rw [List.foldl_cons, List.foldl_cons, readParameter, if_neg other, readParameter, if_pos (isPath_path path),
          uriValue_join pathKey_plain.1]
        rfl
      · rw [List.foldl_cons, List.foldl_cons, readParameter, if_neg other, uriValue_join hugepagesKey_plain.1,
          parseBool_boolText]
        rfl

/-- A path parameter does not end in a bar. -/
theorem AbsPath.last (path' : AbsPath path) : (pathKey ++ 61 :: path).getLast? ≠ some 124 := by
  intro bar
  exact path'.plain (List.mem_of_getLast? bar)

/-- A page flag does not end in a bar. -/
theorem flag_last (front : Text) (flag : Bool) :
    (front ++ 124 :: (hugepagesKey ++ 61 :: boolText flag)).getLast? ≠ some 124 := by
  rw [List.getLast?_append_cons]
  cases flag <;> decide

/-- A URI of the grammar is plain. -/
theorem grammar_plain (derived : ShmUriGrammar uri result) : Plain uri := by
  cases derived with
  | path path path' =>
      have key : uriKey (pathKey ++ 61 :: path) = pathKey := uriKey_join pathKey_plain.1
      have body : uriBody (scheme ++ (pathKey ++ 61 :: path)) = pathKey ++ 61 :: path := List.drop_left
      constructor
      · rw [parameters_path path']
        intro parameter present
        rw [List.mem_singleton.mp present]
        exact .inl key
      · rw [parameters_path path']
        intro parameter present
        obtain rfl := Option.some_inj.mp present
        exact key
      · rw [parameters_path path']
        exact Nat.le_succ 1
      · rw [body]
        exact path'.last
      · rw [parameters_path path']
        intro parameter present _
        rw [List.mem_singleton.mp present, uriValue_join pathKey_plain.1]
        exact path'.visible
  | hugepages path flag path' =>
      have key : uriKey (pathKey ++ 61 :: path) = pathKey := uriKey_join pathKey_plain.1
      have key' : uriKey (hugepagesKey ++ 61 :: boolText flag) = hugepagesKey := uriKey_join hugepagesKey_plain.1
      have body : uriBody (scheme ++ ((pathKey ++ 61 :: path) ++ 124 :: (hugepagesKey ++ 61 :: boolText flag))) =
          (pathKey ++ 61 :: path) ++ 124 :: (hugepagesKey ++ 61 :: boolText flag) := List.drop_left
      constructor
      · rw [parameters_hugepages path']
        intro parameter present
        rcases List.mem_cons.mp present with rfl | last
        · exact .inl key
        · rw [List.mem_singleton.mp last]
          exact .inr key'
      · rw [parameters_hugepages path']
        intro parameter present
        obtain rfl := Option.some_inj.mp present
        exact key
      · rw [parameters_hugepages path']
        exact Nat.le_refl 2
      · rw [body]
        exact flag_last _ flag
      · rw [parameters_hugepages path']
        intro parameter present named
        rcases List.mem_cons.mp present with rfl | last
        · rw [uriValue_join pathKey_plain.1]
          exact path'.visible
        · rw [List.mem_singleton.mp last, key'] at named
          exact absurd named (by decide)

/-- A parameter with the whole key of the path is that key and its value. -/
theorem entry_join {parameter key : Text} (entry : Entry parameter) (named : uriKey parameter = key) :
    parameter = key ++ 61 :: uriValue parameter := by
  rw [← named]
  exact parameter_split entry.split

theorem isPath_key {parameter : Text} (named : uriKey parameter = pathKey) : isPath parameter = true := by
  rw [isPath, named]
  rfl

/-- A plain URI without a fault is in the grammar. -/
theorem plain_grammar (short : ShortPath uri) (plain : Plain uri) (read : shmUriParse uri = .ok result) :
    ShmUriGrammar uri result := by
  obtain ⟨faultless, path, flag⟩ := (shmUriParse_iff short).mp read
  obtain ⟨text, rfl⟩ := faultless.scheme
  have body : uriBody (scheme ++ text) = text := List.drop_left
  obtain ⟨whole, first, few, last, visible⟩ := plain
  obtain ⟨-, entries, parameter, one, absolute⟩ := faultless
  rw [body] at whole first few last visible entries one path flag
  obtain rfl | single | ⟨front, back, rfl, pair⟩ := uriParameters_few few last
  · cases one
  · rw [single] at first visible entries one path flag
    have key := first text rfl
    have joined := entry_join (entries text List.mem_cons_self) key
    rw [List.filter_cons_of_pos (isPath_key key)] at one
    obtain rfl : text = parameter := List.head_eq_of_cons_eq one
    rw [List.foldl_cons, readParameter, if_pos (isPath_key key)] at path flag
    have value : result = ⟨uriValue text, false⟩ := by
      obtain ⟨resultPath, resultFlag⟩ := result
      have samePath : resultPath = uriValue text := Option.some_inj.mp path
      have sameFlag : resultFlag = false := flag
      rw [samePath, sameFlag]
    rw [value, joined, uriValue_join pathKey_plain.1]
    exact .path _ ⟨absolute, visible text List.mem_cons_self key⟩
  · rw [pair] at whole first visible entries one path flag
    have key := first front rfl
    have joined := entry_join (entries front List.mem_cons_self) key
    have entry := entries back (List.mem_cons_of_mem _ List.mem_cons_self)
    rw [List.filter_cons_of_pos (isPath_key key)] at one
    have other : ¬isPath back = true := by
      intro second
      rw [List.filter_cons_of_pos second] at one
      cases List.tail_eq_of_cons_eq one
    obtain rfl : front = parameter := List.head_eq_of_cons_eq one
    have key' := (whole back (List.mem_cons_of_mem _ List.mem_cons_self)).resolve_left fun same =>
      other (isPath_key same)
    have joined' := entry_join entry key'
    obtain ⟨-, set, parsed⟩ := entry.known.resolve_left other
    rw [List.foldl_cons, List.foldl_cons, readParameter, if_neg other, readParameter, if_pos (isPath_key key), parsed]
      at path flag
    have value : result = ⟨uriValue front, set⟩ := by
      obtain ⟨resultPath, resultFlag⟩ := result
      have samePath : resultPath = uriValue front := Option.some_inj.mp path
      have sameFlag : resultFlag = set := flag
      rw [samePath, sameFlag]
    rw [value, joined', joined, uriValue_join pathKey_plain.1, parseBool_some parsed]
    exact .hugepages _ set ⟨absolute, visible front List.mem_cons_self key⟩

end Exact

/-- The parser accepts exactly the grammar at each URI that is plain or has a fault, and at no other one. -/
theorem shmUriParse_exact_iff (uri : Text) (short : ShortPath uri) :
    (∀ result, shmUriParse uri = .ok result ↔ ShmUriGrammar uri result) ↔ (Faultless uri → Plain uri) := by
  constructor
  · intro exact' faultless
    obtain ⟨parameter, one, -⟩ := faultless.path
    have known := foldl_path (uriParameters (uriBody uri)) {}
    rw [one] at known
    let result : ShmUri :=
      ⟨uriValue parameter, ((uriParameters (uriBody uri)).foldl readParameter {}).requireHugepages⟩
    have parsed : shmUriParse uri = .ok result := (shmUriParse_iff short).mpr ⟨faultless, known.symm, rfl⟩
    exact grammar_plain ((exact' _).mp parsed)
  · intro plain result
    constructor
    · intro read
      exact plain_grammar short (plain ((shmUriParse_iff short).mp read).1) read
    · intro derived
      exact grammar_parsed short derived

theorem smallPath : AbsPath [47, 97] where
  absolute := rfl
  visible := by
    intro byte present
    rcases List.mem_cons.mp present with rfl | last
    · decide
    · rw [List.mem_singleton.mp last]
      decide

/-- A URI with a path and a flag is parsed into them. -/
theorem shmUriParse_exact_small :
    shmUriParse (scheme ++ ((pathKey ++ 61 :: [47, 97]) ++ 124 :: (hugepagesKey ++ 61 :: boolText true))) =
      .ok ⟨[47, 97], true⟩ := by
  have derived := ShmUriGrammar.hugepages [47, 97] true smallPath
  have short : ShortPath (scheme ++
    ((pathKey ++ 61 :: [47, 97]) ++ 124 :: (hugepagesKey ++ 61 :: boolText true))) := by
    intro parameter present _
    rw [parameters_hugepages smallPath] at present
    rcases List.mem_cons.mp present with rfl | last
    · decide
    · rw [List.mem_singleton.mp last]
      decide
  exact ((shmUriParse_exact_iff _ short).mpr (fun _ => grammar_plain derived) _).mpr derived

/-- The key p is taken for path. -/
theorem short_key_accepted : ShortPath (ascii "shm:file?p=/a") ∧
    shmUriParse (ascii "shm:file?p=/a") = .ok ⟨ascii "/a", false⟩ ∧
    ¬ShmUriGrammar (ascii "shm:file?p=/a") ⟨ascii "/a", false⟩ := by
  have parameters : uriParameters (uriBody (ascii "shm:file?p=/a")) = [ascii "p=/a"] := by decide
  refine ⟨?_, by decide, ?_⟩
  · intro parameter present _
    rw [parameters] at present
    rw [List.mem_singleton.mp present]
    decide
  · intro derived
    have whole := (grammar_plain derived).whole (ascii "p=/a") (by rw [parameters]; exact List.mem_cons_self)
    exact absurd whole (by decide)

end TensorPool.Shm
