/-
Module: JumptotechLabs.Core.PosixPath
Layer: Core (library)
Purpose: The paths of a POSIX file system as a library reads them: how a path is normalised and how paths are
  joined. A normalised absolute path is a row of plain segments, each behind a slash, and one row has one path.
Main exports: slash, isAbsolute, normalize, join, Plain, rooted, normalize_of_isAbsolute, normalize_rooted,
  join_rooted
-/
import JumptotechLabs.Core.Utf16

namespace JumptotechLabs.Core.PosixPath

def slash : UInt16 := unitOf '/'

def dot : Utf16 := units "."

def dotDot : Utf16 := units ".."

def isAbsolute (path : Utf16) : Bool := path.head? == some slash

/-! ### Normalising -/

/-- One segment, on the stack of the segments before it: an empty one and `.` are dropped, and `..` takes the
    segment before it away. Above a root there is nothing to take; a relative path keeps the `..`. -/
def pushSegment (absolute : Bool) (stack : List Utf16) (segment : Utf16) : List Utf16 :=
  if segment = [] ∨ segment = dot then stack
  else if segment = dotDot then
    match stack with
    | [] => if absolute then [] else [dotDot]
    | top :: rest => if top = dotDot then dotDot :: top :: rest else rest
  else segment :: stack

def normalizeSegments (absolute : Bool) (segments : List Utf16) : List Utf16 :=
  (segments.foldl (pushSegment absolute) []).reverse

/-- `path.posix.normalize`. A separator at the end is kept. -/
def normalize (path : Utf16) : Utf16 :=
  let absolute := isAbsolute path
  let trailing : Utf16 := if path.getLast? = some slash then [slash] else []
  match normalizeSegments absolute (path.splitOn slash) with
  | [] => if absolute then [slash] else dot ++ trailing
  | kept => (if absolute then [slash] else []) ++ [slash].intercalate kept ++ trailing

/-- `path.posix.join`: the parts that are not empty, one slash between two. -/
def join (parts : List Utf16) : Utf16 :=
  match parts.filter (fun part => !part.isEmpty) with
  | [] => dot
  | present => normalize ([slash].intercalate present)

/-! ### Plain segments -/

/-- A segment that names something: none of the segments a normalised path has not. -/
structure Plain (segment : Utf16) : Prop where
  ne_nil : segment ≠ []
  ne_dot : segment ≠ dot
  ne_dotDot : segment ≠ dotDot
  undivided : slash ∉ segment

theorem pushSegment_plain {segment : Utf16} (plain : Plain segment) (absolute : Bool) (stack : List Utf16) :
    pushSegment absolute stack segment = segment :: stack := by
  unfold pushSegment
  rw [if_neg (not_or.mpr ⟨plain.ne_nil, plain.ne_dot⟩), if_neg plain.ne_dotDot]

theorem foldl_pushSegment_plain (absolute : Bool) {segments : List Utf16}
    (plain : ∀ segment ∈ segments, Plain segment) (stack : List Utf16) :
    segments.foldl (pushSegment absolute) stack = segments.reverse ++ stack := by
  induction segments generalizing stack with
  | nil => rfl
  | cons segment rest ih =>
      have first := plain segment List.mem_cons_self
      have others := fun other inside => plain other (List.mem_cons_of_mem segment inside)
      rw [List.foldl_cons, pushSegment_plain first, ih others, List.reverse_cons, List.append_assoc,
        List.singleton_append]

/-- A push below a root keeps the stack plain. -/
theorem pushSegment_keeps_plain {stack : List Utf16} (plain : ∀ segment ∈ stack, Plain segment)
    {segment : Utf16} (undivided : slash ∉ segment) :
    ∀ kept ∈ pushSegment true stack segment, Plain kept := by
  intro kept inside
  unfold pushSegment at inside
  split at inside
  · exact plain kept inside
  · rename_i named
    obtain ⟨notNil, notDot⟩ := not_or.mp named
    split at inside
    · match stack with
      | [] => exact absurd inside List.not_mem_nil
      | top :: rest =>
          have lower := (plain top List.mem_cons_self).ne_dotDot
          simp only [if_neg lower] at inside
          exact plain kept (List.mem_cons_of_mem top inside)
    · rename_i notDotDot
      rcases List.mem_cons.mp inside with rfl | earlier
      · exact ⟨notNil, notDot, notDotDot, undivided⟩
      · exact plain kept earlier

theorem foldl_pushSegment_keeps_plain {segments : List Utf16}
    (undivided : ∀ segment ∈ segments, slash ∉ segment) {stack : List Utf16}
    (plain : ∀ segment ∈ stack, Plain segment) :
    ∀ kept ∈ segments.foldl (pushSegment true) stack, Plain kept := by
  induction segments generalizing stack with
  | nil => exact plain
  | cons segment rest ih =>
      refine ih (fun other inside => undivided other (List.mem_cons_of_mem segment inside)) ?_
      exact pushSegment_keeps_plain plain (undivided segment List.mem_cons_self)

/-- The pieces between separators hold none. -/
theorem undivided_of_mem_splitOn {path piece : Utf16} (inside : piece ∈ path.splitOn slash) :
    slash ∉ piece := by
  induction path generalizing piece with
  | nil =>
      rw [List.splitOn_nil, List.mem_singleton] at inside
      rw [inside]
      exact List.not_mem_nil
  | cons unit rest ih =>
      rw [List.splitOn_cons_eq_if_modifyHead] at inside
      split at inside
      · rcases List.mem_cons.mp inside with rfl | later
        · exact List.not_mem_nil
        · exact ih later
      · rename_i other
        match split : rest.splitOn slash with
        | [] => exact absurd split (List.splitOn_ne_nil slash rest)
        | first :: others =>
            rw [split, List.modifyHead_cons] at inside
            rcases List.mem_cons.mp inside with rfl | later
            · intro divided
              rcases List.mem_cons.mp divided with same | further
              · exact other (by rw [same]; exact beq_self_eq_true unit)
              · exact ih (by rw [split]; exact List.mem_cons_self) further
            · exact ih (by rw [split]; exact List.mem_cons_of_mem first later)

theorem plain_of_mem_normalizeSegments {path segment : Utf16}
    (inside : segment ∈ normalizeSegments true (path.splitOn slash)) : Plain segment :=
  foldl_pushSegment_keeps_plain (fun _ piece => undivided_of_mem_splitOn piece)
    (fun _ none => absurd none List.not_mem_nil) segment (List.mem_reverse.mp inside)

/-! ### Rows of segments -/

/-- The path of a row of segments, each behind a slash. -/
def rooted (segments : List Utf16) : Utf16 := segments.flatMap (slash :: ·)

@[simp] theorem rooted_nil : rooted [] = [] := rfl

@[simp] theorem rooted_cons (segment : Utf16) (rest : List Utf16) :
    rooted (segment :: rest) = slash :: segment ++ rooted rest := rfl

@[simp] theorem rooted_append (first second : List Utf16) :
    rooted (first ++ second) = rooted first ++ rooted second :=
  List.flatMap_append

theorem slash_cons_intercalate {segments : List Utf16} (present : segments ≠ []) :
    slash :: [slash].intercalate segments = rooted segments := by
  induction segments with
  | nil => exact absurd rfl present
  | cons segment rest ih =>
      match rest with
      | [] => simp [List.intercalate]
      | next :: others =>
          have later := ih (List.cons_ne_nil next others)
          rw [rooted_cons, ← later]
          simp [List.intercalate, List.intersperse_cons_cons]

/-- A path behind a slash is rooted, by its own segments. -/
theorem rooted_splitOn (path : Utf16) : rooted (path.splitOn slash) = slash :: path := by
  rw [← slash_cons_intercalate (List.splitOn_ne_nil slash path), List.intercalate_splitOn]

theorem splitOn_rooted {segments : List Utf16} (undivided : ∀ segment ∈ segments, slash ∉ segment) :
    (rooted segments).splitOn slash = [] :: segments := by
  induction segments with
  | nil => rfl
  | cons segment rest ih =>
      have first := undivided segment List.mem_cons_self
      have later := ih fun other inside => undivided other (List.mem_cons_of_mem segment inside)
      rw [rooted_cons, ← List.nil_append (slash :: segment), List.append_assoc, List.cons_append,
        List.splitOn_append_cons_self]
      match rest with
      | [] => rw [rooted_nil, List.append_nil, List.splitOn_eq_singleton first]; rfl
      | next :: others =>
          rw [rooted_cons, List.cons_append, List.splitOn_append_cons_self,
            List.splitOn_eq_singleton first]
          rw [rooted_cons, ← List.nil_append (slash :: next), List.append_assoc, List.cons_append,
            List.splitOn_append_cons_self] at later
          simpa using later

theorem isAbsolute_rooted {segments : List Utf16} (present : segments ≠ []) :
    isAbsolute (rooted segments) = true := by
  obtain ⟨segment, rest, rfl⟩ := List.exists_cons_of_ne_nil present
  rw [rooted_cons, isAbsolute]
  exact beq_self_eq_true _

theorem getLast?_rooted {segments : List Utf16} (plain : ∀ segment ∈ segments, Plain segment) :
    (rooted segments).getLast? ≠ some slash := by
  induction segments using List.reverseRecOn with
  | nil => simp
  | append_singleton before last _ =>
      have isPlain := plain last (List.mem_append_right before List.mem_cons_self)
      rw [rooted_append, rooted_cons, rooted_nil, List.append_nil, List.getLast?_append_cons,
        List.getLast?_cons_of_ne_nil isPlain.ne_nil]
      intro ends
      exact isPlain.undivided (List.mem_of_getLast? ends)

/-! ### Normal forms -/

/-- A path of plain segments below the root is its own normal form. -/
theorem normalize_rooted {segments : List Utf16} (present : segments ≠ [])
    (plain : ∀ segment ∈ segments, Plain segment) : normalize (rooted segments) = rooted segments := by
  have kept : normalizeSegments true ((rooted segments).splitOn slash) = segments := by
    rw [splitOn_rooted fun segment inside => (plain segment inside).undivided, normalizeSegments,
      List.foldl_cons, foldl_pushSegment_plain true plain]
    simp [pushSegment]
  have unclosed : (rooted segments).getLast? ≠ some slash := getLast?_rooted plain
  simp only [normalize, isAbsolute_rooted present, kept, if_neg unclosed]
  obtain ⟨segment, rest, rfl⟩ := List.exists_cons_of_ne_nil present
  rw [← slash_cons_intercalate present]
  simp

/-- The normal form of an absolute path: the root alone, or a row of plain segments, with the separator at the
    end where the path had one. -/
theorem normalize_of_isAbsolute {path : Utf16} (absolute : isAbsolute path = true) :
    normalize path = [slash] ∨
      ∃ segments : List Utf16, segments ≠ [] ∧ (∀ segment ∈ segments, Plain segment) ∧
        (normalize path = rooted segments ∨ normalize path = rooted segments ++ [slash]) := by
  simp only [normalize, absolute, if_true]
  match kept : normalizeSegments true (path.splitOn slash) with
  | [] => exact .inl rfl
  | segment :: rest =>
      have plain : ∀ other ∈ segment :: rest, Plain other := fun other inside =>
        plain_of_mem_normalizeSegments (kept ▸ inside)
      have present : segment :: rest ≠ [] := List.cons_ne_nil segment rest
      refine .inr ⟨segment :: rest, present, plain, ?_⟩
      simp only [List.singleton_append]
      rw [slash_cons_intercalate present]
      split
      · exact .inr rfl
      · exact .inl (List.append_nil _)

/-- Joining a relative path of plain segments below a rooted one moves nothing. -/
theorem join_rooted {segments : List Utf16} (present : segments ≠ [])
    (plain : ∀ segment ∈ segments, Plain segment) {path : Utf16}
    (plainPath : ∀ segment ∈ path.splitOn slash, Plain segment) :
    join [rooted segments, path] = rooted (segments ++ path.splitOn slash) := by
  have below : rooted segments ≠ [] := by
    obtain ⟨segment, rest, rfl⟩ := List.exists_cons_of_ne_nil present
    exact List.cons_ne_nil _ _
  have named : path ≠ [] := by
    rintro rfl
    exact (plainPath [] (by rw [List.splitOn_nil]; exact List.mem_cons_self)).ne_nil rfl
  have joined : [slash].intercalate [rooted segments, path] = rooted (segments ++ path.splitOn slash) := by
    rw [rooted_append, rooted_splitOn]
    simp [List.intercalate]
  have bothPlain : ∀ segment ∈ segments ++ path.splitOn slash, Plain segment := by
    intro segment inside
    rcases List.mem_append.mp inside with upper | lower
    · exact plain segment upper
    · exact plainPath segment lower
  have parts : [rooted segments, path].filter (fun part => !part.isEmpty) = [rooted segments, path] := by
    simp [below, named]
  rw [join, parts]
  show normalize ([slash].intercalate [rooted segments, path]) = _
  rw [joined, normalize_rooted (List.append_ne_nil_of_left_ne_nil present _) bothPlain]

end JumptotechLabs.Core.PosixPath
