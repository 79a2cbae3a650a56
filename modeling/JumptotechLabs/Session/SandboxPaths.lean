/-
Module: JumptotechLabs.Session.SandboxPaths
Layer: Session (services/lab-orchestrator/src/session/sandbox-paths.ts)
Purpose: The paths a lab names inside a sandbox. Each is checked segment by segment, and again after it has been
  normalised below the sandbox home. The first check leaves the second nothing to refuse.
Main exports: SandboxPathError, assertSafeSandboxPath, isSafeSandboxPath, resolveSandboxPath, segmentsOf,
  resolveSandboxPath_eq, sandbox_paths_cannot_escape
-/
import JumptotechLabs.Core.Lines
import JumptotechLabs.Core.PosixPath

namespace JumptotechLabs.Session

open JumptotechLabs.Core JumptotechLabs.Core.PosixPath

/-- `unknown`, where a path is expected: a string, or a value that is none, as `String` writes it. -/
inductive ReceivedPath where
  | text (input : Utf16)
  | other (written : Utf16)

/-- A path that is refused, and why. -/
structure SandboxPathError where
  received : Utf16
  reason : Utf16
deriving DecidableEq

def SandboxPathError.message (error : SandboxPathError) : Utf16 :=
  units "Invalid sandbox path '" ++ error.received ++ units "': " ++ error.reason

def maxSandboxPathLength : Nat := 255

/-! ### The first gate -/

/-- `[A-Za-z0-9._-]`. -/
def isSegmentUnit (unit : UInt16) : Bool :=
  Utf16.isLetter unit || Utf16.isDigit unit || unit == unitOf '.' || unit == unitOf '_' || unit == unitOf '-'

/-- `SEGMENT_PATTERN`, `^\.?[A-Za-z0-9][A-Za-z0-9._-]*$`: a leading dot has a letter or a digit behind it. -/
def matchesSegmentPattern (segment : Utf16) : Bool :=
  match if segment.head? = some (unitOf '.') then segment.tail else segment with
  | [] => false
  | first :: rest => (Utf16.isLetter first || Utf16.isDigit first) && rest.all isSegmentUnit

/-- The segments of a path, in order; the first that may not stand there is the error. -/
def assertSafeSegments (input : Utf16) : List Utf16 → Except SandboxPathError Utf16
  | [] => .ok input
  | segment :: rest =>
      if segment.length = 0 then .error ⟨input, units "must not contain an empty path segment"⟩
      else if segment = dot ∨ segment = dotDot then
        .error ⟨input, units "must not contain '.' or '..' segments"⟩
      else if !matchesSegmentPattern segment then
        .error ⟨input, units "segment '" ++ segment ++
          units "' must be letters, digits, '.', '_' or '-' and start with a letter or digit"⟩
      else assertSafeSegments input rest

/-- The segments of a declared path; an absolute one loses its leading slash. -/
def declaredSegments (input : Utf16) : List Utf16 :=
  (if isAbsolute input then input.drop 1 else input).splitOn slash

/-- The checks of a path, in the order of the source. -/
def assertSafeSandboxPath : ReceivedPath → Except SandboxPathError Utf16
  | .other written => .error ⟨written, units "expected a string"⟩
  | .text input =>
      if input.length = 0 then .error ⟨input, units "must not be empty"⟩
      else if maxSandboxPathLength < input.length then
        .error ⟨input, units "must be at most " ++ Utf16.decimal maxSandboxPathLength ++ units " characters"⟩
      else if input.contains 0 then .error ⟨input, units "must not contain a NUL byte"⟩
      else if input.contains (unitOf '\\') then .error ⟨input, units "must use forward slashes"⟩
      else if input.head? = some (unitOf '~') then
        .error ⟨input, units "must not start with '~' — name the path explicitly"⟩
      else if input = [slash] then .error ⟨input, units "must name something inside the sandbox"⟩
      else assertSafeSegments input (declaredSegments input)

def isSafeSandboxPath (input : ReceivedPath) : Bool := (assertSafeSandboxPath input).isOk

/-! ### The second gate -/

/-- The sandbox home in its normal form, without a slash at the end. -/
def sandboxRoot (home : Utf16) : Utf16 := (normalize home).rdropWhile (· == slash)

/-- A declared path inside the sandbox. A container-absolute path is used as written. -/
def resolveSandboxPath (home declared : Utf16) : Except SandboxPathError Utf16 :=
  if !isAbsolute home then .error ⟨home, units "sandbox home must be an absolute path"⟩
  else
    match assertSafeSandboxPath (.text declared) with
    | .error refused => .error refused
    | .ok _ =>
        if isAbsolute declared then .ok (normalize declared)
        else
          let root := sandboxRoot home
          let resolved := normalize (join [root, declared])
          if resolved ≠ root ∧ !(root ++ [slash]).isPrefixOf resolved then
            .error ⟨declared, units "resolves outside the sandbox home directory"⟩
          else .ok resolved

/-! ### What the first gate lets through -/

theorem assertSafeSegments_ok {input path : Utf16} {segments : List Utf16}
    (accepted : assertSafeSegments input segments = .ok path) :
    path = input ∧ ∀ segment ∈ segments, segment ≠ [] ∧ segment ≠ dot ∧ segment ≠ dotDot := by
  induction segments with
  | nil => exact ⟨(Except.ok.inj accepted).symm, fun _ none => absurd none List.not_mem_nil⟩
  | cons segment rest ih =>
      rw [assertSafeSegments] at accepted
      split at accepted
      · contradiction
      · rename_i notEmpty
        split at accepted
        · contradiction
        · rename_i notDots
          split at accepted
          · contradiction
          · obtain ⟨same, others⟩ := ih accepted
            refine ⟨same, fun other inside => ?_⟩
            rcases List.mem_cons.mp inside with rfl | later
            · exact ⟨fun empty => notEmpty (List.length_eq_zero_iff.mpr empty), not_or.mp notDots⟩
            · exact others other later

/-- An accepted path comes back as it is, and every segment of it is plain. -/
theorem assertSafeSandboxPath_ok {input path : Utf16}
    (accepted : assertSafeSandboxPath (.text input) = .ok path) :
    path = input ∧ ∀ segment ∈ declaredSegments input, Plain segment := by
  have read : assertSafeSegments input (declaredSegments input) = .ok path := by
    rw [assertSafeSandboxPath] at accepted
    repeat' split at accepted
    all_goals first | contradiction | exact accepted
  obtain ⟨same, named⟩ := assertSafeSegments_ok read
  refine ⟨same, fun segment inside => ?_⟩
  obtain ⟨notEmpty, notDot, notDotDot⟩ := named segment inside
  exact ⟨notEmpty, notDot, notDotDot, undivided_of_mem_splitOn inside⟩

/-- An accepted absolute path is the row of its segments. -/
theorem rooted_declaredSegments {input : Utf16} (absolute : isAbsolute input = true) :
    rooted (declaredSegments input) = input := by
  match input with
  | [] => exact absurd absolute Bool.false_ne_true
  | first :: rest =>
      have leads : first = slash := Option.some.inj (eq_of_beq absolute)
      rw [declaredSegments, if_pos absolute, List.drop_one, List.tail_cons, rooted_splitOn, leads]

theorem declaredSegments_relative {input : Utf16} (relative : isAbsolute input = false) :
    declaredSegments input = input.splitOn slash := by
  rw [declaredSegments, relative, if_neg Bool.false_ne_true]

theorem declaredSegments_ne_nil (input : Utf16) : declaredSegments input ≠ [] := List.splitOn_ne_nil _ _

/-! ### Below the home -/

theorem rdropWhile_rooted {segments : List Utf16} (plain : ∀ segment ∈ segments, Plain segment) :
    (rooted segments).rdropWhile (· == slash) = rooted segments := by
  rw [List.rdropWhile_eq_self_iff]
  intro some ends
  have last := getLast?_rooted plain
  rw [List.getLast?_eq_some_getLast some] at last
  exact last (congrArg Option.some (eq_of_beq ends))

/-- A home that is not the root directory is a row of plain segments. -/
theorem sandboxRoot_rooted {home : Utf16} (absolute : isAbsolute home = true)
    (notRoot : normalize home ≠ [slash]) :
    ∃ segments : List Utf16, segments ≠ [] ∧ (∀ segment ∈ segments, Plain segment) ∧
      sandboxRoot home = rooted segments := by
  obtain root | ⟨segments, present, plain, asRow | withSlash⟩ := normalize_of_isAbsolute absolute
  · exact absurd root notRoot
  · exact ⟨segments, present, plain, by rw [sandboxRoot, asRow, rdropWhile_rooted plain]⟩
  · refine ⟨segments, present, plain, ?_⟩
    rw [sandboxRoot, withSlash, List.rdropWhile_concat_pos (· == slash) _ _ (beq_self_eq_true slash),
      rdropWhile_rooted plain]

/-- What the two gates come to: the first decides, and an accepted path goes below the home unchanged. -/
theorem resolveSandboxPath_eq {home : Utf16} (absolute : isAbsolute home = true)
    (notRoot : normalize home ≠ [slash]) (declared : Utf16) :
    resolveSandboxPath home declared =
      (assertSafeSandboxPath (.text declared)).map fun path =>
        if isAbsolute path then path else sandboxRoot home ++ slash :: path := by
  have homeGate : ¬ (!isAbsolute home) = true := by rw [absolute]; exact Bool.false_ne_true
  rw [resolveSandboxPath, if_neg homeGate]
  match accepted : assertSafeSandboxPath (.text declared) with
  | .error refused => rfl
  | .ok path =>
      obtain ⟨rfl, plain⟩ := assertSafeSandboxPath_ok accepted
      show (if isAbsolute path then _ else _) = Except.ok (if isAbsolute path then _ else _)
      cases form : isAbsolute path with
      | true =>
          have row := rooted_declaredSegments form
          rw [if_pos rfl, if_pos rfl, ← row, normalize_rooted (declaredSegments_ne_nil path) plain]
      | false =>
          rw [declaredSegments_relative form] at plain
          obtain ⟨segments, present, plainHome, isRoot⟩ := sandboxRoot_rooted absolute notRoot
          have all : ∀ segment ∈ segments ++ path.splitOn slash, Plain segment := fun segment inside =>
            (List.mem_append.mp inside).elim (plainHome segment) (plain segment)
          have joined : normalize (join [sandboxRoot home, path]) = sandboxRoot home ++ slash :: path := by
            rw [isRoot, join_rooted present plainHome plain,
              normalize_rooted (List.append_ne_nil_of_left_ne_nil present _) all, rooted_append,
              rooted_splitOn]
          have inside : (sandboxRoot home ++ [slash]).isPrefixOf (sandboxRoot home ++ slash :: path) = true :=
            List.isPrefixOf_iff_prefix.mpr ⟨path, by simp⟩
          simp [joined, inside]

/-- The segments of an absolute path. -/
def segmentsOf (path : Utf16) : List Utf16 := (path.drop 1).splitOn slash

theorem segmentsOf_rooted {segments : List Utf16} (present : segments ≠ [])
    (plain : ∀ segment ∈ segments, Plain segment) : segmentsOf (rooted segments) = segments := by
  have split := splitOn_rooted fun segment inside => (plain segment inside).undivided
  obtain ⟨segment, rest, rfl⟩ := List.exists_cons_of_ne_nil present
  rw [rooted_cons, List.cons_append, ← List.nil_append (slash :: _), List.splitOn_append_cons_self] at split
  exact List.tail_eq_of_cons_eq split

theorem resolveSandboxPath_ok {home : Utf16} (absolute : isAbsolute home = true)
    (notRoot : normalize home ≠ [slash]) {declared resolved : Utf16}
    (accepted : resolveSandboxPath home declared = .ok resolved) :
    (∀ segment ∈ declaredSegments declared, Plain segment) ∧
      resolved = if isAbsolute declared then declared else sandboxRoot home ++ slash :: declared := by
  rw [resolveSandboxPath_eq absolute notRoot] at accepted
  match read : assertSafeSandboxPath (.text declared) with
  | .error refused =>
      rw [read] at accepted
      contradiction
  | .ok path =>
      rw [read] at accepted
      obtain ⟨rfl, plain⟩ := assertSafeSandboxPath_ok read
      exact ⟨plain, (Except.ok.inj accepted).symm⟩

/-- What resolves is a row of plain segments: the declared ones, behind those of the home for a relative path. -/
theorem resolveSandboxPath_rooted {home : Utf16} (absolute : isAbsolute home = true)
    (notRoot : normalize home ≠ [slash]) {declared resolved : Utf16}
    (accepted : resolveSandboxPath home declared = .ok resolved) :
    ∃ segments : List Utf16, segments ≠ [] ∧ (∀ segment ∈ segments, Plain segment) ∧
      resolved = rooted segments ∧
      segments = if isAbsolute declared then declaredSegments declared
        else segmentsOf (sandboxRoot home) ++ declaredSegments declared := by
  obtain ⟨plain, rfl⟩ := resolveSandboxPath_ok absolute notRoot accepted
  cases form : isAbsolute declared with
  | true =>
      rw [if_pos rfl, if_pos rfl]
      exact ⟨_, declaredSegments_ne_nil declared, plain, (rooted_declaredSegments form).symm, rfl⟩
  | false =>
      obtain ⟨segments, present, plainHome, isRoot⟩ := sandboxRoot_rooted absolute notRoot
      rw [if_neg Bool.false_ne_true, if_neg Bool.false_ne_true, isRoot, segmentsOf_rooted present plainHome]
      refine ⟨_, List.append_ne_nil_of_left_ne_nil present _, ?_, ?_, rfl⟩
      · intro segment inside
        exact (List.mem_append.mp inside).elim (plainHome segment) (plain segment)
      · rw [rooted_append, declaredSegments_relative form, rooted_splitOn]

theorem resolveSandboxPath_relative {home : Utf16} (absolute : isAbsolute home = true)
    (notRoot : normalize home ≠ [slash]) {declared resolved : Utf16} (relative : isAbsolute declared = false)
    (accepted : resolveSandboxPath home declared = .ok resolved) :
    declared ≠ [] ∧ resolved = sandboxRoot home ++ slash :: declared := by
  obtain ⟨plain, isResolved⟩ := resolveSandboxPath_ok absolute notRoot accepted
  rw [relative, if_neg Bool.false_ne_true] at isResolved
  refine ⟨?_, isResolved⟩
  rintro rfl
  exact (plain [] List.mem_cons_self).ne_nil rfl

/-- Sandbox paths cannot escape. -/
theorem sandbox_paths_cannot_escape (home : Utf16) (absolute : isAbsolute home = true)
    (notRoot : normalize home ≠ [slash]) :
    (∀ declared resolved, resolveSandboxPath home declared = .ok resolved →
      isAbsolute resolved = true ∧ normalize resolved = resolved ∧
        ∀ segment ∈ segmentsOf resolved, segment ≠ [] ∧ segment ≠ dot ∧ segment ≠ dotDot) ∧
    (∀ declared, isAbsolute declared = false →
      ((resolveSandboxPath home declared).isOk = isSafeSandboxPath (.text declared)) ∧
        ∀ resolved, resolveSandboxPath home declared = .ok resolved →
          declared ≠ [] ∧ resolved = sandboxRoot home ++ slash :: declared ∧
          segmentsOf resolved = segmentsOf (sandboxRoot home) ++ declared.splitOn slash) ∧
    (∀ first second resolved, isAbsolute first = false → isAbsolute second = false →
      resolveSandboxPath home first = .ok resolved → resolveSandboxPath home second = .ok resolved →
        first = second) := by
  refine ⟨fun declared resolved accepted => ?_, fun declared relative => ⟨?_, fun resolved accepted => ?_⟩,
    fun first second resolved one other isFirst isSecond => ?_⟩
  · obtain ⟨segments, present, plain, rfl, -⟩ := resolveSandboxPath_rooted absolute notRoot accepted
    refine ⟨isAbsolute_rooted present, normalize_rooted present plain, fun segment inside => ?_⟩
    rw [segmentsOf_rooted present plain] at inside
    have isPlain := plain segment inside
    exact ⟨isPlain.ne_nil, isPlain.ne_dot, isPlain.ne_dotDot⟩
  · rw [resolveSandboxPath_eq absolute notRoot, isSafeSandboxPath]
    cases assertSafeSandboxPath (.text declared) <;> rfl
  · obtain ⟨segments, present, plain, rfl, rows⟩ := resolveSandboxPath_rooted absolute notRoot accepted
    have below := resolveSandboxPath_relative absolute notRoot relative accepted
    rw [relative, if_neg Bool.false_ne_true, declaredSegments_relative relative] at rows
    exact ⟨below.1, below.2, by rw [segmentsOf_rooted present plain, rows]⟩
  · have isOne := (resolveSandboxPath_relative absolute notRoot one isFirst).2
    have isOther := (resolveSandboxPath_relative absolute notRoot other isSecond).2
    exact List.tail_eq_of_cons_eq (List.append_cancel_left (isOne.symm.trans isOther))

theorem sandbox_paths_cannot_escape_home :
    isAbsolute (units "/home/./student/") = true ∧ normalize (units "/home/./student/") ≠ [slash] ∧
    sandboxRoot (units "/home/./student/") = units "/home/student" ∧
    resolveSandboxPath (units "/home/./student/") (units "deploy/release.txt") =
      .ok (units "/home/student/deploy/release.txt") ∧
    isSafeSandboxPath (.text (units "../etc/passwd")) = false ∧
    (resolveSandboxPath (units "/home/./student/") (units "../etc/passwd")).isOk = false := by
  have notRoot : normalize (units "/home/./student/") ≠ [slash] := by decide
  have absolute : isAbsolute (units "/home/./student/") = true := by decide
  have refused : isSafeSandboxPath (.text (units "../etc/passwd")) = false := by decide
  obtain ⟨-, accepts, -⟩ := sandbox_paths_cannot_escape _ absolute notRoot
  refine ⟨absolute, notRoot, by decide, by decide, refused, ?_⟩
  exact (accepts (units "../etc/passwd") (by decide)).1.trans refused

end JumptotechLabs.Session
