/-
Module: JumptotechLabs.Docker.Tar
Layer: Docker (services/lab-orchestrator/src/docker/tar.ts)
Purpose: A deliberately small tar reader: exactly one regular file out of the stream of `docker cp`. The loop
  is modelled pass by pass, since the sizes that move it come from the stream; it never makes a third pass.
Main exports: TarReadError, TarEntry, readString, readOctalSize, isEndBlock, pass, readSingleFile, Reads,
  readSingleFile_eq, reads_iff, length_content_le, throws_of_irregular, throws_of_second
-/
import JumptotechLabs.Core.Utf8

namespace JumptotechLabs.Docker

open JumptotechLabs.Core

/-! ### The reader -/

/-- Bytes of a block. -/
def blockSize : Nat := 512

structure TarReadError where
  message : String
deriving DecidableEq

structure TarEntry where
  name : String
  size : Nat
  content : List UInt8
  /-- `content` stops short of `size`. -/
  truncated : Bool
deriving DecidableEq

/-- The text of a field, up to its first NUL. -/
def readString (buffer : List UInt8) (offset length : Nat) : String :=
  let raw := (buffer.drop offset).take length
  String.ofList (decodeUtf8 (raw.takeWhile (· != 0)))

/-- `[0-7]`. -/
def isOctalDigit (c : Char) : Bool := '0' ≤ c && c ≤ '7'

/-- `Number.parseInt(text, 8)`, for a text of octal digits. -/
def parseOctal (text : List Char) : Nat := text.foldl (fun value c => value * 8 + (c.toNat - 48)) 0

def readOctalSize (buffer : List UInt8) : Except TarReadError Nat :=
  let text := trimChars (readString buffer 124 12).toList
  if text.isEmpty || !text.all isOctalDigit then .error ⟨"archive header has an unreadable size field"⟩
  else
    let size := parseOctal text
    if 9007199254740991 < size then .error ⟨"archive header declares an implausible size"⟩ else .ok size

/-- True for the all-zero block that marks end of archive. -/
def isEndBlock (block : List UInt8) : Bool := block.all (· == 0)

/-- `REGULAR_TYPES`: ustar writes `0`, and historic tars wrote NUL. -/
def isRegularType (type : UInt8) : Bool := type == 48 || type == 0

/-- The bytes of the block at an offset. -/
def headerAt (archive : List UInt8) (offset : Nat) : List UInt8 := (archive.drop offset).take blockSize

/-- Bytes, padded to a block boundary. -/
def padded (size : Nat) : Nat := (size + (blockSize - 1)) / blockSize * blockSize

/-- The entry whose content begins at an offset. -/
def entryAt (archive : List UInt8) (maxBytes offset : Nat) (name : String) (size : Nat) : TarEntry :=
  let available := min size (archive.length - offset)
  let kept := min available maxBytes
  ⟨name, size, (archive.drop offset).take kept, decide (kept < size)⟩

/-- What one pass of the loop comes to. -/
inductive Pass where
  | goesOn (offset : Nat) (found : TarEntry)
  | ends
  | throws (error : TarReadError)

/-- The loop's condition and its body. -/
def pass (archive : List UInt8) (maxBytes offset : Nat) (found : Option TarEntry) : Pass :=
  if archive.length < offset + blockSize then .ends
  else
    let header := headerAt archive offset
    if isEndBlock header then .ends
    else
      let name := readString header 0 100
      match readOctalSize header with
      | .error error => .throws error
      | .ok size =>
          let type := header.getD 156 0
          if !isRegularType type then
            .throws (if type = 53 then ⟨"the path names a directory, not a file"⟩
              else ⟨"the path does not name a regular file"⟩)
          else if found.isSome then .throws ⟨"archive contains more than one file"⟩
          else
            .goesOn (offset + blockSize + padded size) (entryAt archive maxBytes (offset + blockSize) name size)

/-- The loop, for at most so many passes: what it has found, or what it throws. -/
def passes (archive : List UInt8) (maxBytes : Nat) :
    Nat → Nat → Option TarEntry → Option (Except TarReadError (Option TarEntry))
  | 0, _, _ => none
  | fuel + 1, offset, found =>
      match pass archive maxBytes offset found with
      | .ends => some (.ok found)
      | .throws error => some (.error error)
      | .goesOn next entry => passes archive maxBytes fuel next (some entry)

/-- `readSingleFile`, with a bound on the passes of its loop. -/
def readSingleFile (fuel : Nat) (archive : List UInt8) (maxBytes : Nat) : Option (Except TarReadError TarEntry) :=
  if archive.length = 0 then some (.error ⟨"archive is empty"⟩)
  else
    (passes archive maxBytes fuel 0 none).map fun found =>
      match found with
      | .error error => .error error
      | .ok none => .error ⟨"archive contains no file"⟩
      | .ok (some entry) => .ok entry

/-- The reader ends, whatever the bound from some bound on, and comes to this. -/
def Reads (archive : List UInt8) (maxBytes : Nat) (outcome : Except TarReadError TarEntry) : Prop :=
  ∃ enough, ∀ fuel, enough ≤ fuel → readSingleFile fuel archive maxBytes = some outcome

/-! ### The loop ends -/

variable {archive : List UInt8} {maxBytes : Nat}

/-- With an entry found, a pass is the last. -/
theorem pass_found (archive : List UInt8) (maxBytes offset : Nat) (entry : TarEntry) :
    pass archive maxBytes offset (some entry) = .ends ∨
      ∃ error, pass archive maxBytes offset (some entry) = .throws error := by
  unfold pass
  split
  · exact .inl rfl
  simp only []
  split
  · exact .inl rfl
  split
  · exact .inr ⟨_, rfl⟩
  split
  · exact .inr ⟨_, rfl⟩
  · exact .inr ⟨_, rfl⟩

/-- What the loop comes to when its next pass is the last one. -/
def Pass.outcome (found : Option TarEntry) : Pass → Except TarReadError (Option TarEntry)
  | .throws error => .error error
  | _ => .ok found

theorem passes_found (fuel offset : Nat) (entry : TarEntry) :
    passes archive maxBytes (fuel + 1) offset (some entry) =
      some ((pass archive maxBytes offset (some entry)).outcome (some entry)) := by
  rw [passes]
  rcases pass_found archive maxBytes offset entry with last | ⟨error, last⟩
  · rw [last]
    rfl
  · rw [last]
    rfl

/-- What the loop comes to, from its start. -/
def loopOutcome (archive : List UInt8) (maxBytes : Nat) : Except TarReadError (Option TarEntry) :=
  match pass archive maxBytes 0 none with
  | .goesOn next entry => (pass archive maxBytes next (some entry)).outcome (some entry)
  | last => last.outcome none

/-- Two passes are enough. -/
theorem passes_eq (fuel : Nat) :
    passes archive maxBytes (fuel + 2) 0 none = some (loopOutcome archive maxBytes) := by
  rw [passes, loopOutcome]
  split
  · rename_i last
    rw [last]
    rfl
  · rename_i last
    rw [last]
    rfl
  · rename_i next entry first
    rw [first]
    exact passes_found fuel next entry

/-- What the reader comes to. -/
def outcomeOf (archive : List UInt8) (maxBytes : Nat) : Except TarReadError TarEntry :=
  if archive.length = 0 then .error ⟨"archive is empty"⟩
  else
    match loopOutcome archive maxBytes with
    | .error error => .error error
    | .ok none => .error ⟨"archive contains no file"⟩
    | .ok (some entry) => .ok entry

theorem readSingleFile_eq (fuel : Nat) :
    readSingleFile (fuel + 2) archive maxBytes = some (outcomeOf archive maxBytes) := by
  rw [readSingleFile, outcomeOf]
  split
  · rfl
  · rw [passes_eq, Option.map_some]

theorem reads_iff {outcome : Except TarReadError TarEntry} :
    Reads archive maxBytes outcome ↔ outcome = outcomeOf archive maxBytes := by
  constructor
  · rintro ⟨enough, read⟩
    have isRead := read (enough + 2) (Nat.le_add_right enough 2)
    rw [readSingleFile_eq] at isRead
    exact (Option.some.inj isRead).symm
  · rintro rfl
    refine ⟨2, fun fuel enough => ?_⟩
    obtain ⟨more, rfl⟩ := Nat.exists_eq_add_of_le' enough
    exact readSingleFile_eq more

/-! ### What is kept, and what is refused -/

theorem length_entryAt (offset : Nat) (name : String) (size : Nat) :
    (entryAt archive maxBytes offset name size).content.length =
      min (min size (archive.length - offset)) maxBytes := by
  simp only [entryAt, List.length_take, List.length_drop]
  omega

/-- What the first pass finds is an entry of the first block's name and size. -/
theorem pass_goesOn {offset next : Nat} {found : Option TarEntry} {entry : TarEntry}
    (first : pass archive maxBytes offset found = .goesOn next entry) :
    ∃ name size, entry = entryAt archive maxBytes (offset + blockSize) name size := by
  unfold pass at first
  split at first
  · cases first
  simp only [] at first
  split at first
  · cases first
  split at first
  · cases first
  split at first
  · cases first
  split at first
  · cases first
  · rename_i size _ _ _
    generalize readString (headerAt archive offset) 0 100 = name at first
    cases first
    exact ⟨name, size, rfl⟩

theorem length_content_le {entry : TarEntry} (read : outcomeOf archive maxBytes = .ok entry) :
    entry.content.length ≤ maxBytes := by
  have found : loopOutcome archive maxBytes = .ok (some entry) := by
    unfold outcomeOf at read
    split at read
    · cases read
    split at read
    · cases read
    · cases read
    · rename_i found
      cases read
      exact found
  unfold loopOutcome at found
  split at found
  · rename_i next first isFirst
    obtain ⟨name, size, isEntry⟩ := pass_goesOn isFirst
    have kept : first = entry := by
      rcases pass_found archive maxBytes next first with last | ⟨error, last⟩
      · rw [last] at found
        exact Option.some.inj (Except.ok.inj found)
      · rw [last] at found
        cases found
    rw [← kept, isEntry, length_entryAt]
    exact Nat.min_le_right _ _
  · rename_i last notFirst
    cases last : pass archive maxBytes 0 none with
    | goesOn next first => exact absurd last (notFirst next first)
    | ends =>
        rw [last] at found
        cases found
    | throws error =>
        rw [last] at found
        cases found

/-- A header that lies within the buffer, and is no end block, is read. -/
theorem pass_header {offset : Nat} (within : offset + blockSize ≤ archive.length)
    (notEnd : isEndBlock (headerAt archive offset) = false) (found : Option TarEntry) :
    pass archive maxBytes offset found =
      match readOctalSize (headerAt archive offset) with
      | .error error => .throws error
      | .ok size =>
          if !isRegularType ((headerAt archive offset).getD 156 0) then
            .throws (if (headerAt archive offset).getD 156 0 = 53 then
              ⟨"the path names a directory, not a file"⟩ else ⟨"the path does not name a regular file"⟩)
          else if found.isSome then .throws ⟨"archive contains more than one file"⟩
          else
            .goesOn (offset + blockSize + padded size)
              (entryAt archive maxBytes (offset + blockSize) (readString (headerAt archive offset) 0 100) size) := by
  have notZero : ¬ isEndBlock (headerAt archive offset) = true := by rw [notEnd]; exact Bool.false_ne_true
  unfold pass
  rw [if_neg (Nat.not_lt.mpr within)]
  simp only []
  rw [if_neg notZero]

theorem pass_irregular {offset : Nat} (within : offset + blockSize ≤ archive.length)
    (notEnd : isEndBlock (headerAt archive offset) = false)
    (irregular : isRegularType ((headerAt archive offset).getD 156 0) = false) (found : Option TarEntry) :
    ∃ error, pass archive maxBytes offset found = .throws error := by
  rw [pass_header within notEnd, irregular]
  split
  · exact ⟨_, rfl⟩
  · exact ⟨_, rfl⟩

/-- A second header is refused, whatever it says. -/
theorem pass_second {offset : Nat} (within : offset + blockSize ≤ archive.length)
    (notEnd : isEndBlock (headerAt archive offset) = false) (entry : TarEntry) :
    ∃ error, pass archive maxBytes offset (some entry) = .throws error := by
  rw [pass_header within notEnd]
  split
  · exact ⟨_, rfl⟩
  split
  · exact ⟨_, rfl⟩
  · exact ⟨_, rfl⟩

theorem outcomeOf_throws {error : TarReadError} (throws : loopOutcome archive maxBytes = .error error) :
    ∃ error, outcomeOf archive maxBytes = .error error := by
  unfold outcomeOf
  split
  · exact ⟨_, rfl⟩
  · rw [throws]
    exact ⟨_, rfl⟩

/-- The first entry is no regular file. -/
theorem throws_of_irregular (within : blockSize ≤ archive.length)
    (notEnd : isEndBlock (headerAt archive 0) = false)
    (irregular : isRegularType ((headerAt archive 0).getD 156 0) = false) :
    ∃ error, outcomeOf archive maxBytes = .error error := by
  have firstWithin : 0 + blockSize ≤ archive.length := by rw [Nat.zero_add]; exact within
  obtain ⟨error, first⟩ : ∃ error, pass archive maxBytes 0 none = .throws error :=
    pass_irregular firstWithin notEnd irregular none
  have throws : loopOutcome archive maxBytes = .error error := by
    rw [loopOutcome, first]
    rfl
  exact outcomeOf_throws throws

/-- A second header lies within the buffer, before an end block. -/
theorem throws_of_second {size : Nat} (notEnd : isEndBlock (headerAt archive 0) = false)
    (isSize : readOctalSize (headerAt archive 0) = .ok size)
    (within : blockSize + padded size + blockSize ≤ archive.length)
    (secondNotEnd : isEndBlock (headerAt archive (blockSize + padded size)) = false) :
    ∃ error, outcomeOf archive maxBytes = .error error := by
  have firstWithin : 0 + blockSize ≤ archive.length := by omega
  by_cases regular : isRegularType ((headerAt archive 0).getD 156 0) = true
  · have first : pass archive maxBytes 0 none = .goesOn (0 + blockSize + padded size)
        (entryAt archive maxBytes (0 + blockSize) (readString (headerAt archive 0) 0 100) size) := by
      rw [pass_header firstWithin notEnd, isSize]
      simp only [regular]
      rfl
    rw [Nat.zero_add] at first
    obtain ⟨error, second⟩ : ∃ error, pass archive maxBytes (blockSize + padded size)
        (some (entryAt archive maxBytes blockSize (readString (headerAt archive 0) 0 100) size)) =
          .throws error := pass_second within secondNotEnd _
    have throws : loopOutcome archive maxBytes = .error error := by
      simp only [loopOutcome, first, second]
      rfl
    exact outcomeOf_throws throws
  · exact throws_of_irregular (by omega) notEnd (eq_false_of_ne_true regular)

end JumptotechLabs.Docker
