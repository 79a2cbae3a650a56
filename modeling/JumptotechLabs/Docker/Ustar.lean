/-
Module: JumptotechLabs.Docker.Ustar
Layer: Docker (services/lab-orchestrator/src/docker/tar.ts)
Purpose: The archives the tar reader is for: the ustar encoding of one file, cut off anywhere behind its header.
  The reader gives back the header's name and size and as much of the content as there is and as is asked for.
  It does not read the prefix of a long path.
Main exports: UstarHeader, UstarHeader.bytes, UstarHeader.path, ustarArchive, readOctalSize_bytes,
  single_file_loses_prefix, single_file_is_read
-/
import JumptotechLabs.Docker.Tar
import Mathlib.Algebra.GroupWithZero.Nat

namespace JumptotechLabs.Docker

open JumptotechLabs.Core

/-! ### The encoding -/

/-- A number in so many octal digits. -/
def octalDigits : Nat → Nat → List UInt8
  | 0, _ => []
  | count + 1, value => octalDigits count (value / 8) ++ [UInt8.ofNat (48 + value % 8)]

/-- The header of a file. A path that does not fit into the name has its first part in the prefix. -/
structure UstarHeader where
  name : List UInt8
  /-- `mode`, `uid` and `gid`. -/
  owner : List UInt8
  size : Nat
  /-- What stands behind the digits of the size. -/
  sizeEnd : UInt8
  /-- `mtime` and `chksum`. -/
  stamps : List UInt8
  typeflag : UInt8
  /-- From `linkname` to `devminor`. -/
  link : List UInt8
  pathPrefix : List UInt8
  name_fits : name.length ≤ 100
  name_text : 0 ∉ name
  owner_length : owner.length = 24
  size_fits : size < 8 ^ 11
  sizeEnd_blank : sizeEnd = 0 ∨ sizeEnd = 32
  stamps_length : stamps.length = 20
  link_length : link.length = 188
  pathPrefix_fits : pathPrefix.length ≤ 155
  pathPrefix_text : 0 ∉ pathPrefix

/-- A field of a length, with zeros behind its text. -/
def zeroPadded (length : Nat) (text : List UInt8) : List UInt8 :=
  text ++ List.replicate (length - text.length) 0

namespace UstarHeader

variable (header : UstarHeader)

/-- The size field. -/
def sizeField : List UInt8 := octalDigits 11 header.size ++ [header.sizeEnd]

def bytes : List UInt8 :=
  zeroPadded 100 header.name ++ header.owner ++ header.sizeField ++ header.stamps ++
    header.typeflag :: (header.link ++ zeroPadded 155 header.pathPrefix ++ List.replicate 12 0)

/-- The path a header names. -/
def path : List UInt8 := if header.pathPrefix = [] then header.name else header.pathPrefix ++ 47 :: header.name

end UstarHeader

/-- One file: its header, its content padded to a block, and blocks of zeros. -/
def ustarArchive (header : UstarHeader) (content : List UInt8) (zeroBlocks : Nat) : List UInt8 :=
  header.bytes ++ zeroPadded (padded header.size) content ++ List.replicate (blockSize * zeroBlocks) 0

/-! ### Fields -/

theorem length_zeroPadded {length : Nat} {text : List UInt8} (fits : text.length ≤ length) :
    (zeroPadded length text).length = length := by
  rw [zeroPadded, List.length_append, List.length_replicate]
  omega

theorem length_octalDigits (count value : Nat) : (octalDigits count value).length = count := by
  induction count generalizing value with
  | zero => rfl
  | succ count ih => rw [octalDigits, List.length_append, ih, List.length_singleton]

/-- The character of a byte of ASCII. -/
def asciiChar (byte : UInt8) : Char := Char.ofNat byte.toNat

theorem octalDigit_facts : ∀ digit < 8, (asciiChar (UInt8.ofNat (48 + digit))).toNat = 48 + digit ∧
    isOctalDigit (asciiChar (UInt8.ofNat (48 + digit))) = true ∧
    isSpaceChar (asciiChar (UInt8.ofNat (48 + digit))) = false ∧
    (UInt8.ofNat (48 + digit)).toNat < 0x80 ∧ UInt8.ofNat (48 + digit) ≠ 0 := by
  decide

theorem exists_digit_of_mem {count value : Nat} {byte : UInt8} (inside : byte ∈ octalDigits count value) :
    ∃ digit < 8, byte = UInt8.ofNat (48 + digit) := by
  induction count generalizing value with
  | zero => exact absurd inside List.not_mem_nil
  | succ count ih =>
      rw [octalDigits, List.mem_append, List.mem_singleton] at inside
      rcases inside with earlier | last
      · exact ih earlier
      · exact ⟨value % 8, Nat.mod_lt value (by decide), last⟩

theorem parseOctal_octalDigits {count value : Nat} (fits : value < 8 ^ count) :
    parseOctal ((octalDigits count value).map asciiChar) = value := by
  induction count generalizing value with
  | zero =>
      rw [Nat.pow_zero, Nat.lt_one_iff] at fits
      rw [fits]
      rfl
  | succ count ih =>
      have shorter : value / 8 < 8 ^ count := by
        rw [Nat.div_lt_iff_lt_mul (by decide), ← Nat.pow_succ]
        exact fits
      have lastDigit := (octalDigit_facts (value % 8) (Nat.mod_lt value (by decide))).1
      have earlier := ih shorter
      rw [parseOctal] at earlier
      rw [octalDigits, List.map_append, parseOctal, List.foldl_append, earlier, List.map_singleton,
        List.foldl_cons, List.foldl_nil, lastDigit]
      omega

/-- The text of a field: a row of bytes without NUL, with zeros behind it or with nothing behind it. -/
theorem readString_field {before text rest : List UInt8} {offset length : Nat}
    (isBefore : before.length = offset) (fits : text.length ≤ length) (noNul : 0 ∉ text) :
    readString (before ++ zeroPadded length text ++ rest) offset length = String.ofList (decodeUtf8 text) := by
  have field : ((before ++ zeroPadded length text ++ rest).drop offset).take length =
      zeroPadded length text := by
    rw [List.append_assoc, List.drop_left' isBefore, List.take_left' (length_zeroPadded fits)]
  have noZero : ∀ byte ∈ text, (byte != 0) = true := by
    intro byte inside
    refine bne_iff_ne.mpr ?_
    rintro rfl
    exact noNul inside
  have read : (zeroPadded length text).takeWhile (· != 0) = text := by
    rw [zeroPadded, List.takeWhile_append_of_pos noZero]
    cases length - text.length with
    | zero => exact List.append_nil text
    | succ more => exact List.append_nil text
  rw [readString, field, read]

/-- The digits of the size, with the blank behind them. -/
theorem trimChars_digits {count value : Nat} :
    trimChars ((octalDigits (count + 1) value).map asciiChar) =
        (octalDigits (count + 1) value).map asciiChar ∧
      trimChars ((octalDigits (count + 1) value).map asciiChar ++ [' ']) =
        (octalDigits (count + 1) value).map asciiChar := by
  have visible : ∀ c ∈ (octalDigits (count + 1) value).map asciiChar, isSpaceChar c = false := by
    intro c inside
    obtain ⟨byte, isByte, rfl⟩ := List.mem_map.mp inside
    obtain ⟨digit, small, rfl⟩ := exists_digit_of_mem isByte
    exact (octalDigit_facts digit small).2.2.1
  generalize isText : (octalDigits (count + 1) value).map asciiChar = text at visible
  have present : text ≠ [] := by
    rintro rfl
    have length := congrArg List.length isText
    rw [List.length_map, length_octalDigits] at length
    cases length
  have starts : ∀ more : List Char, (text ++ more).dropWhile isSpaceChar = text ++ more := by
    intro more
    obtain ⟨first, rest, rfl⟩ := List.exists_cons_of_ne_nil present
    rw [List.cons_append, List.dropWhile_cons_of_neg]
    rw [visible first List.mem_cons_self]
    exact Bool.false_ne_true
  have ends : text.rdropWhile isSpaceChar = text := by
    rw [List.rdropWhile_eq_self_iff]
    intro some
    rw [visible _ (List.getLast_mem some)]
    exact Bool.false_ne_true
  have alone := starts []
  rw [List.append_nil] at alone
  constructor
  · rw [trimChars, alone, ends]
  · rw [trimChars, starts, List.rdropWhile_concat_pos isSpaceChar text ' ' (by decide), ends]

/-! ### The header -/

namespace UstarHeader

variable (header : UstarHeader)

theorem length_sizeField : header.sizeField.length = 12 := by
  rw [sizeField, List.length_append, length_octalDigits, List.length_singleton]

theorem length_bytes : header.bytes.length = blockSize := by
  have name := length_zeroPadded header.name_fits
  have pathPrefix := length_zeroPadded header.pathPrefix_fits
  simp only [bytes, List.length_append, List.length_cons, List.length_replicate, name, pathPrefix,
    header.owner_length, header.length_sizeField, header.stamps_length, header.link_length, blockSize]

theorem readString_name : readString header.bytes 0 100 = String.ofList (decodeUtf8 header.name) := by
  have split : header.bytes = [] ++ zeroPadded 100 header.name ++ (header.owner ++ header.sizeField ++
      header.stamps ++ header.typeflag ::
        (header.link ++ zeroPadded 155 header.pathPrefix ++ List.replicate 12 0)) := by
    simp only [bytes, List.nil_append, List.append_assoc]
  have none : ([] : List UInt8).length = 0 := rfl
  rw [split, readString_field none header.name_fits header.name_text]

/-- The text of the size field: its digits, and the space where it ends in one. -/
theorem readString_size : ∃ blank, (blank = [] ∨ blank = [' ']) ∧
    (readString header.bytes 124 12).toList = (octalDigits 11 header.size).map asciiChar ++ blank := by
  have before : (zeroPadded 100 header.name ++ header.owner).length = 124 := by
    rw [List.length_append, length_zeroPadded header.name_fits, header.owner_length]
  have split : header.bytes = (zeroPadded 100 header.name ++ header.owner) ++ (header.sizeField ++
      (header.stamps ++ header.typeflag ::
        (header.link ++ zeroPadded 155 header.pathPrefix ++ List.replicate 12 0))) := by
    simp only [bytes, List.append_assoc]
  have field : (header.bytes.drop 124).take 12 = octalDigits 11 header.size ++ [header.sizeEnd] := by
    rw [split, List.drop_left' before, List.take_left' header.length_sizeField, sizeField]
  have digits : ∀ byte ∈ octalDigits 11 header.size, byte.toNat < 0x80 ∧ (byte != 0) = true := by
    intro byte inside
    obtain ⟨digit, small, rfl⟩ := exists_digit_of_mem inside
    obtain ⟨-, -, -, ascii, notZero⟩ := octalDigit_facts digit small
    exact ⟨ascii, bne_iff_ne.mpr notZero⟩
  rw [readString, field, List.takeWhile_append_of_pos fun byte inside => (digits byte inside).2,
    String.toList_ofList]
  rcases header.sizeEnd_blank with isNul | isSpace
  · refine ⟨[], .inl rfl, ?_⟩
    rw [isNul, List.takeWhile_cons_of_neg (by decide), List.append_nil, List.append_nil,
      decodeUtf8_ascii fun byte inside => (digits byte inside).1]
    rfl
  · refine ⟨[' '], .inr rfl, ?_⟩
    rw [isSpace, List.takeWhile_cons_of_pos (by decide), List.takeWhile_nil, decodeUtf8_ascii, List.map_append]
    · rfl
    · intro byte inside
      rcases List.mem_append.mp inside with digit | space
      · exact (digits byte digit).1
      · rw [List.mem_singleton.mp space]
        decide

theorem readOctalSize_bytes : readOctalSize header.bytes = .ok header.size := by
  obtain ⟨blank, isBlank, text⟩ := header.readString_size
  have trimmed : trimChars ((octalDigits 11 header.size).map asciiChar ++ blank) =
      (octalDigits 11 header.size).map asciiChar := by
    rcases isBlank with rfl | rfl
    · rw [List.append_nil]
      exact trimChars_digits.1
    · exact trimChars_digits.2
  have octal : ((octalDigits 11 header.size).map asciiChar).all isOctalDigit = true := by
    rw [List.all_eq_true]
    intro c inside
    obtain ⟨byte, isByte, rfl⟩ := List.mem_map.mp inside
    obtain ⟨digit, small, rfl⟩ := exists_digit_of_mem isByte
    exact (octalDigit_facts digit small).2.1
  have present : ((octalDigits 11 header.size).map asciiChar).isEmpty = false := by
    rw [← Bool.not_eq_true, List.isEmpty_iff_length_eq_zero, List.length_map, length_octalDigits]
    decide
  have safe : ¬ 9007199254740991 < header.size := by
    have fits := header.size_fits
    omega
  rw [readOctalSize]
  simp only [text, trimmed, octal, present, parseOctal_octalDigits header.size_fits]
  rw [if_neg (by decide), if_neg safe]

theorem typeflag_bytes : header.bytes.getD 156 0 = header.typeflag := by
  have before : (zeroPadded 100 header.name ++ header.owner ++ header.sizeField ++ header.stamps).length =
      156 := by
    simp only [List.length_append, length_zeroPadded header.name_fits, header.owner_length,
      header.length_sizeField, header.stamps_length]
  rw [bytes, List.getD_eq_getElem?_getD, List.getElem?_append_right (Nat.le_of_eq before), before]
  rfl

/-- The digits of its size keep a header from being an end block. -/
theorem isEndBlock_bytes : isEndBlock header.bytes = false := by
  have digit : UInt8.ofNat (48 + header.size % 8) ∈ header.bytes := by
    have inField : UInt8.ofNat (48 + header.size % 8) ∈ header.sizeField := by
      rw [sizeField, octalDigits]
      exact List.mem_append_left _ (List.mem_append_right _ List.mem_cons_self)
    rw [bytes]
    exact List.mem_append_left _ (List.mem_append_left _ (List.mem_append_right _ inField))
  have notZero := (octalDigit_facts (header.size % 8) (Nat.mod_lt _ (by decide))).2.2.2.2
  rw [← Bool.not_eq_true, isEndBlock, List.all_eq_true]
  intro zeros
  exact notZero (eq_of_beq (zeros _ digit))

end UstarHeader

/-! ### The archive -/

theorem le_padded (size : Nat) : size ≤ padded size := by
  simp only [padded, blockSize]
  omega

/-- A file's archive with any number of blocks of zeros, cut off somewhere behind its header. -/
structure CutArchive (header : UstarHeader) (content archive : List UInt8) : Prop where
  isContent : content.length = header.size
  begins : ∃ zeroBlocks cut, blockSize ≤ cut ∧ archive = (ustarArchive header content zeroBlocks).take cut

namespace CutArchive

variable {header : UstarHeader} {content archive : List UInt8} (isCut : CutArchive header content archive)

include isCut

theorem within : blockSize ≤ archive.length := by
  obtain ⟨zeroBlocks, cut, wide, rfl⟩ := isCut.begins
  have whole : blockSize ≤ (ustarArchive header content zeroBlocks).length := by
    rw [ustarArchive, List.append_assoc, List.length_append, header.length_bytes]
    exact Nat.le_add_right _ _
  rw [List.length_take]
  exact Nat.le_min.mpr ⟨wide, whole⟩

theorem headerAt_zero : headerAt archive 0 = header.bytes := by
  obtain ⟨zeroBlocks, cut, wide, rfl⟩ := isCut.begins
  rw [headerAt, List.drop_zero, List.take_take, Nat.min_eq_left wide, ustarArchive, List.append_assoc,
    List.take_left' header.length_bytes]

/-- Bytes of the content that are present are read where they stand. -/
theorem take_content {kept : Nat} (inFile : kept ≤ header.size) (present : kept ≤ archive.length - blockSize) :
    (archive.drop blockSize).take kept = content.take kept := by
  have fits : kept ≤ content.length := inFile.trans_eq isCut.isContent.symm
  obtain ⟨zeroBlocks, cut, wide, rfl⟩ := isCut.begins
  have uncut : kept ≤ cut - blockSize := by
    rw [List.length_take] at present
    omega
  rw [List.drop_take, List.take_take, Nat.min_eq_left uncut, ustarArchive, List.append_assoc,
    List.drop_left' header.length_bytes, zeroPadded, List.append_assoc, List.take_append_of_le_length fits]

/-- Behind the content there are zeros at most. -/
theorem headerAt_second : isEndBlock (headerAt archive (blockSize + padded header.size)) = true := by
  have fits : content.length ≤ padded header.size := isCut.isContent.trans_le (le_padded header.size)
  obtain ⟨zeroBlocks, cut, wide, rfl⟩ := isCut.begins
  have before : (header.bytes ++ zeroPadded (padded header.size) content).length =
      blockSize + padded header.size := by
    rw [List.length_append, header.length_bytes, length_zeroPadded fits]
  rw [headerAt, List.drop_take, ustarArchive, List.drop_left' before, isEndBlock, List.all_eq_true]
  intro byte inside
  have zero := List.eq_of_mem_replicate (List.mem_of_mem_take (List.mem_of_mem_take inside))
  exact beq_iff_eq.mpr zero

/-- The first pass finds the file. -/
theorem pass_first (regular : isRegularType header.typeflag = true) (maxBytes : Nat) :
    pass archive maxBytes 0 none = .goesOn (blockSize + padded header.size)
      (entryAt archive maxBytes blockSize (String.ofList (decodeUtf8 header.name)) header.size) := by
  have firstWithin : 0 + blockSize ≤ archive.length := (Nat.zero_add blockSize).trans_le isCut.within
  have notEnd : isEndBlock (headerAt archive 0) = false := by
    rw [isCut.headerAt_zero]
    exact header.isEndBlock_bytes
  rw [pass_header firstWithin notEnd, isCut.headerAt_zero, header.readOctalSize_bytes]
  simp only [header.typeflag_bytes, regular, header.readString_name, Nat.zero_add]
  rfl

theorem pass_second_ends (maxBytes : Nat) (entry : TarEntry) :
    pass archive maxBytes (blockSize + padded header.size) (some entry) = .ends := by
  unfold pass
  split
  · rfl
  · simp only []
    rw [if_pos isCut.headerAt_second]

/-- The reader gives the file back. -/
theorem outcomeOf_eq (regular : isRegularType header.typeflag = true) (maxBytes : Nat) :
    outcomeOf archive maxBytes =
      .ok (entryAt archive maxBytes blockSize (String.ofList (decodeUtf8 header.name)) header.size) := by
  have present : archive.length ≠ 0 := by
    have within := isCut.within
    rw [blockSize] at within
    omega
  have found : loopOutcome archive maxBytes =
      .ok (some (entryAt archive maxBytes blockSize (String.ofList (decodeUtf8 header.name)) header.size)) := by
    simp only [loopOutcome, isCut.pass_first regular, isCut.pass_second_ends]
    rfl
  rw [outcomeOf, if_neg present, found]

end CutArchive

/-- A path of 121 bytes, which no name field holds: sixty of `d`, a slash, and sixty of `f`. -/
def longPath : String := String.ofList (List.replicate 60 'd' ++ '/' :: List.replicate 60 'f')

/-- The header of the long path, in two parts. -/
def longHeader : UstarHeader where
  name := List.replicate 60 102
  owner := List.replicate 24 0
  size := 0
  sizeEnd := 0
  stamps := List.replicate 20 0
  typeflag := 48
  link := List.replicate 188 0
  pathPrefix := List.replicate 60 100
  name_fits := by decide
  name_text := by decide
  owner_length := List.length_replicate
  size_fits := by decide
  sizeEnd_blank := .inl rfl
  stamps_length := List.length_replicate
  link_length := List.length_replicate
  pathPrefix_fits := by decide
  pathPrefix_text := by decide

/-- The file of the long path is read under the last part of it. -/
theorem single_file_loses_prefix :
    ¬ ∀ (header : UstarHeader) (content archive : List UInt8) (maxBytes : Nat) (name : String),
      isRegularType header.typeflag = true → CutArchive header content archive →
      header.path = encodeUtf8 name.toList →
      ∃ entry, Reads archive maxBytes (.ok entry) ∧ entry.name = name := by
  intro claimed
  have isCut : CutArchive longHeader [] longHeader.bytes := by
    refine ⟨rfl, 0, blockSize, Nat.le_refl blockSize, ?_⟩
    rw [ustarArchive, List.append_assoc, List.take_left' longHeader.length_bytes]
  have regular : isRegularType longHeader.typeflag = true := rfl
  have parts : longHeader.path = encodeUtf8 (List.replicate 60 'd' ++ '/' :: List.replicate 60 'f') := by
    decide
  have named : longHeader.path = encodeUtf8 longPath.toList :=
    parts.trans (congrArg encodeUtf8 String.toList_ofList.symm)
  obtain ⟨entry, read, isLong⟩ := claimed longHeader [] longHeader.bytes 0 longPath regular isCut named
  have isEntry := (reads_iff.mp read).trans (isCut.outcomeOf_eq regular 0)
  have isName : longPath = String.ofList (decodeUtf8 longHeader.name) :=
    isLong.symm.trans (congrArg TarEntry.name (Except.ok.inj isEntry))
  exact absurd (String.ofList_injective isName) (by decide)

/-- A file that is read, in every archive of one file and in every other stream of bytes. -/
theorem single_file_is_read :
    (∀ (header : UstarHeader) (content archive : List UInt8) (maxBytes : Nat),
      isRegularType header.typeflag = true → CutArchive header content archive →
      ∃ entry, Reads archive maxBytes (.ok entry) ∧
        (∀ name : String, header.name = encodeUtf8 name.toList → entry.name = name) ∧
        entry.size = header.size ∧
        entry.content = content.take (min maxBytes (min header.size (archive.length - blockSize))) ∧
        (entry.truncated = true ↔ entry.content.length < header.size)) ∧
    (∀ (archive : List UInt8) (maxBytes : Nat), (∃ outcome, Reads archive maxBytes outcome) ∧
      ∀ entry, Reads archive maxBytes (.ok entry) → entry.content.length ≤ maxBytes) ∧
    ∀ (archive : List UInt8) (maxBytes : Nat), blockSize ≤ archive.length →
      isEndBlock (headerAt archive 0) = false →
      (isRegularType ((headerAt archive 0).getD 156 0) = false ∨
        ∃ size, readOctalSize (headerAt archive 0) = .ok size ∧
          blockSize + padded size + blockSize ≤ archive.length ∧
          isEndBlock (headerAt archive (blockSize + padded size)) = false) →
      ∃ error, Reads archive maxBytes (.error error) := by
  refine ⟨?_, fun archive maxBytes => ⟨⟨_, reads_iff.mpr rfl⟩, ?_⟩, ?_⟩
  · intro header content archive maxBytes regular isCut
    refine ⟨_, reads_iff.mpr (isCut.outcomeOf_eq regular maxBytes).symm, ?_, rfl, ?_, ?_⟩
    · intro name isName
      show String.ofList (decodeUtf8 header.name) = name
      rw [isName, decodeUtf8_encodeUtf8, String.ofList_toList]
    · rw [entryAt, Nat.min_comm maxBytes]
      exact isCut.take_content (by omega) (by omega)
    · rw [length_entryAt, entryAt, decide_eq_true_iff]
  · intro entry read
    exact length_content_le (reads_iff.mp read).symm
  · intro archive maxBytes within notEnd refused
    have throws : ∃ error, outcomeOf archive maxBytes = .error error := by
      rcases refused with irregular | ⟨size, isSize, secondWithin, secondNotEnd⟩
      · exact throws_of_irregular within notEnd irregular
      · exact throws_of_second notEnd isSize secondWithin secondNotEnd
    obtain ⟨error, isError⟩ := throws
    exact ⟨error, reads_iff.mpr isError.symm⟩

/-- The header of a file `motd` of 13 bytes. -/
def motdHeader : UstarHeader :=
  { longHeader with
    name := encodeUtf8 ['m', 'o', 't', 'd']
    size := 13
    pathPrefix := []
    name_fits := by decide
    name_text := by decide
    size_fits := by decide
    pathPrefix_fits := by decide
    pathPrefix_text := by decide }

/-- Its content. -/
def motdContent : List UInt8 := encodeUtf8 ['H', 'e', 'l', 'l', 'o', ',', ' ', 'l', 'a', 'b', 's', '!', '\n']

/-- Its archive, with two blocks of zeros, cut off five bytes into the content. -/
def motdArchive : List UInt8 := (ustarArchive motdHeader motdContent 2).take (blockSize + 5)

/-- The five bytes that are there are read, under the name and with the size of the file. -/
theorem single_file_is_read_motd :
    ∃ entry, Reads motdArchive 100 (.ok entry) ∧ entry.name = "motd" ∧ entry.size = 13 ∧
      entry.content = encodeUtf8 ['H', 'e', 'l', 'l', 'o'] ∧ entry.truncated = true := by
  have isCut : CutArchive motdHeader motdContent motdArchive := ⟨rfl, 2, blockSize + 5, Nat.le_add_right _ _, rfl⟩
  have long : motdArchive.length = blockSize + 5 := by
    have atLeast : blockSize + 5 ≤ (ustarArchive motdHeader motdContent 2).length := by
      rw [ustarArchive, List.append_assoc, List.length_append, motdHeader.length_bytes, List.length_append,
        zeroPadded, List.length_append, show motdContent.length = 13 from rfl]
      omega
    rw [motdArchive, List.length_take, Nat.min_eq_left atLeast]
  obtain ⟨entry, read, named, sized, kept, cut⟩ :=
    single_file_is_read.1 motdHeader motdContent motdArchive 100 rfl isCut
  have isKept : entry.content = encodeUtf8 ['H', 'e', 'l', 'l', 'o'] := by
    rw [kept, long]
    rfl
  refine ⟨entry, read, named "motd" ?_, sized, isKept, cut.mpr ?_⟩
  · exact congrArg encodeUtf8 (by decide)
  · rw [isKept]
    decide

end JumptotechLabs.Docker
