/-
Module: JumptotechLabs.Classroom.EventStores
Layer: Classroom (apps/api/src/classroom/session-events.ts)
Purpose: The two stores of session events follow each other through every run of records and purges, and answer a read
  alike exactly where the read stays within what both look at.
Main exports: Storable, Admitted, Matching, Follows, follows_step, follows_after, EventReply.Same, Answerable,
  event_stores_agree_iff, unread_session_differs
-/
import JumptotechLabs.Classroom.SessionEvents
import Mathlib.Data.List.Find

namespace JumptotechLabs.Classroom

open JumptotechLabs.Core
open JumptotechLabs.Access (hexGroups isUuid stampAllowed)

/-! ### What is recorded -/

/-- A session id that is not empty, users by their ids, a lab id of at most 64 characters, an instant; and what the table
    can hold of it: a lab id that is not empty, no text with U+0000, an instant in the years 1 to 9999. -/
structure Storable (input : SessionEventInput) : Prop where
  session : ∀ sessionId ∈ input.sessionId, sessionId ≠ "" ∧ hasNul sessionId = false
  owner : ∀ owner ∈ input.ownerUserId, isUuid owner = true
  actor : ∀ actor ∈ input.actorUserId, isUuid actor = true
  lab : input.labId ≠ "" ∧ utf16Length input.labId ≤ 64 ∧ hasNul input.labId = false
  instant : ∃ occurredAt, input.occurredAt = some occurredAt ∧ stampAllowed occurredAt = true

/-- The calls of a run: reads of any arguments, records that can be stored, purges of an instant the table knows. -/
def Admitted : EventCall → Prop
  | .record input _ => Storable input
  | .purgeOlderThan before => stampAllowed before = true
  | _ => True

/-! ### Users and lab ids -/

theorem chars_of_hexGroups {lengths : List Nat} {chars : List Char} (isHex : hexGroups lengths chars = true) :
    ∀ c ∈ chars, isLowerHex c = true ∨ c = '-' := by
  fun_induction hexGroups lengths chars with
  | case1 rest =>
      rw [List.isEmpty_iff] at isHex
      rw [isHex]
      exact fun c impossible => nomatch impossible
  | case2 rest length =>
      rw [Bool.and_eq_true] at isHex
      exact fun c member => .inl (List.all_eq_true.mp isHex.2 c member)
  | case3 length lengths rest isMore ih =>
      simp only [Bool.and_eq_true, beq_iff_eq] at isHex
      obtain ⟨⟨⟨-, front⟩, hyphen⟩, further⟩ := isHex
      intro c member
      rw [← List.take_append_drop length rest, List.mem_append] at member
      rcases member with inFront | behind
      · exact .inl (List.all_eq_true.mp front c inFront)
      · obtain ⟨others, isBehind⟩ : ∃ others, rest.drop length = '-' :: others := by
          cases parts : rest.drop length with
          | nil =>
              rw [parts] at hyphen
              cases hyphen
          | cons first others =>
              rw [parts] at hyphen
              cases hyphen
              exact ⟨others, rfl⟩
        rw [isBehind, List.mem_cons] at behind
        refine behind.elim .inr fun inside => ih further c ?_
        rw [← List.drop_drop, isBehind]
        exact inside

theorem toLower_of_lowerHex {c : Char} (isHex : isLowerHex c = true ∨ c = '-') : c.toLower = c := by
  have notCapital : ¬(c.val ≥ 'A'.val ∧ c.val ≤ 'Z'.val) := by
    rintro ⟨least, most⟩
    rcases isHex with hex | rfl
    · rw [isLowerHex, Bool.or_eq_true, Bool.and_eq_true, Bool.and_eq_true] at hex
      simp only [decide_eq_true_eq, Char.le_def] at hex
      rcases hex with ⟨-, digit⟩ | ⟨letter, -⟩
      · exact absurd (UInt32.le_trans least digit) (by decide)
      · exact absurd (UInt32.le_trans letter most) (by decide)
    · exact absurd least (by decide)
  exact dif_neg notCapital

/-- A user's id is written as the column holds it. -/
theorem lowerText_of_isUuid {text : String} (isUser : isUuid text = true) : lowerText text = text := by
  have same : text.toList.map Char.toLower = text.toList :=
    (List.map_congr_left fun c member => toLower_of_lowerHex (chars_of_hexGroups isUser c member)).trans
      (List.map_id _)
  rw [lowerText, same, String.ofList_toList]

theorem uuidOrNull_of_isUuid {user : Option String} (isUser : ∀ text ∈ user, isUuid text = true) :
    uuidOrNull user = user := by
  cases user with
  | none => rfl
  | some text =>
      have isText := isUser text rfl
      rw [uuidOrNull, Option.map_some, lowerText_of_isUuid isText, Option.filter_some, if_pos isText]

theorem sliceChars_of_short {units : Nat} {chars : List Char}
    (short : (chars.map fun c => if c.toNat < 0x10000 then 1 else 2).sum ≤ units) : sliceChars units chars = chars := by
  fun_induction sliceChars units chars with
  | case1 chars =>
      cases chars with
      | nil => rfl
      | cons c rest =>
          rw [List.map_cons, List.sum_cons] at short
          split at short <;> omega
  | case2 => rfl
  | case3 c rest narrow =>
      cases rest with
      | nil => rfl
      | cons other rest =>
          rw [List.map_cons, List.sum_cons, if_pos narrow, List.map_cons, List.sum_cons] at short
          split at short <;> omega
  | case4 c rest wide =>
      rw [List.map_cons, List.sum_cons, if_neg wide] at short
      omega
  | case5 units c rest narrow ih =>
      rw [List.map_cons, List.sum_cons, if_pos narrow] at short
      rw [ih (by omega)]
  | case6 units c rest wide ih =>
      rw [List.map_cons, List.sum_cons, if_neg wide] at short
      rw [ih (by omega)]

theorem sliceText_of_short {units : Nat} {text : String} (short : utf16Length text ≤ units) :
    sliceText units text = text := by
  rw [sliceText, sliceChars_of_short short, String.ofList_toList]

/-! ### Events and the rows that hold them -/

theorem present_of_ne {text : Option String} (notEmpty : ∀ value ∈ text, value ≠ "") : present text = text := by
  cases text with
  | none => rfl
  | some value => rw [present, Option.filter_some, if_pos (by simpa using notEmpty value rfl)]

theorem ne_of_isUuid {text : String} (isUser : isUuid text = true) : text ≠ "" := by
  rintro rfl
  exact absurd isUser (by decide)

/-- An event and the row that holds it: the same but for the id. -/
structure Matching (event : SessionEvent) (row : EventRow) : Prop where
  told : event.withoutId = (toEvent row).withoutId
  session : event.sessionId = row.sessionId
  owner : event.ownerUserId = row.ownerUserId
  isUser : ∀ owner ∈ event.ownerUserId, isUuid owner = true

namespace Matching

variable {event : SessionEvent} {row : EventRow}

theorem session_ne (here : Matching event row) : ∀ own ∈ row.sessionId, own ≠ "" := by
  rintro own isOwn rfl
  have kept : present row.sessionId = row.sessionId := (congrArg SessionEvent.sessionId here.told).symm.trans here.session
  rw [isOwn] at kept
  exact absurd kept (by decide)

theorem operation_eq (here : Matching event row) : event.operation = row.operation :=
  congrArg SessionEvent.operation here.told

theorem outcome_eq (here : Matching event row) : event.outcome = row.outcome :=
  congrArg SessionEvent.outcome here.told

theorem occurredAt_eq (here : Matching event row) : event.occurredAt = row.occurredAt :=
  congrArg SessionEvent.occurredAt here.told

end Matching

/-- The rows hold the events, in their order, under ascending numbers. -/
structure Follows (memory : InMemorySessionEventStore) (postgres : PostgresSessionEventStore) : Prop where
  matching : Corresponding Matching memory.events postgres.rows
  ascending : postgres.rows.Pairwise fun first second => first.eventId < second.eventId
  below : ∀ row ∈ postgres.rows, row.eventId < postgres.nextEventId

theorem follows_start (next nextEventId : Nat) : Follows ⟨[], next⟩ ⟨[], nextEventId⟩ :=
  ⟨.nil, .nil, fun _ impossible => absurd impossible List.not_mem_nil⟩

/-! ### Records and purges -/

section Step

variable {memory : InMemorySessionEventStore} {postgres : PostgresSessionEventStore}

theorem safeCode_shaped (code : Option String) : (safeCode code).all hasCodeShape = true := by
  rw [safeCode]
  cases present code with
  | none => rfl
  | some text =>
      rw [Option.map_some, Option.all_some]
      split
      case isTrue shaped => exact shaped
      case isFalse => decide

theorem safeCode_ne (code : Option String) : ∀ text ∈ safeCode code, text ≠ "" := by
  rintro text isCode rfl
  have shaped := safeCode_shaped code
  rw [isCode, Option.all_some] at shaped
  exact absurd shaped (by decide)

theorem clampDuration_nonneg (duration : Option Rat) :
    (duration.map clampDuration).all (decide <| 0 ≤ ·) = true := by
  cases duration with
  | none => rfl
  | some value => simp [clampDuration]

/-- What can be stored is stored, by both stores alike. -/
theorem follows_record (follows : Follows memory postgres) {input : SessionEventInput} (storable : Storable input)
    (clock : Instant) :
    (postgres.record input clock).1 = .done ∧
      Follows (memory.record input clock) (postgres.record input clock).2 := by
  obtain ⟨occurredAt, isInstant, allowed⟩ := storable.instant
  obtain ⟨notEmpty, short, noNul⟩ := storable.lab
  have longEnough : 1 ≤ input.labId.length :=
    Nat.one_le_iff_ne_zero.mpr fun isEmpty => notEmpty (String.length_eq_zero_iff.mp isEmpty)
  have shortEnough : input.labId.length ≤ 64 := le_trans (length_le_utf16Length _) short
  have noNulId : input.sessionId.all (!hasNul ·) = true := by
    rw [Option.all_eq_true]
    intro sessionId isId
    rw [(storable.session sessionId isId).2, Bool.not_false]
  have matching : Matching
      { eventId := memory.next + 1
        sessionId := present input.sessionId
        labId := input.labId
        ownerUserId := present input.ownerUserId
        actorUserId := present input.actorUserId
        operation := input.operation
        outcome := input.outcome
        code := safeCode input.code
        durationMs := input.durationMs.map clampDuration
        occurredAt := occurredAt }
      { eventId := postgres.nextEventId
        sessionId := input.sessionId
        labId := input.labId
        ownerUserId := input.ownerUserId
        actorUserId := input.actorUserId
        operation := input.operation
        outcome := input.outcome
        code := safeCode input.code
        durationMs := input.durationMs.map clampDuration
        occurredAt := occurredAt } := by
    have owner := present_of_ne fun user isOwner => ne_of_isUuid (storable.owner user isOwner)
    refine ⟨?_, present_of_ne fun sessionId isId => (storable.session sessionId isId).1, owner, ?_⟩
    · rw [SessionEvent.withoutId, toEvent, SessionEvent.withoutId, present_of_ne (safeCode_ne input.code)]
    · intro user isOwner
      exact storable.owner user (owner ▸ isOwner)
  unfold PostgresSessionEventStore.record InMemorySessionEventStore.record
  simp only [sliceText_of_short short, uuidOrNull_of_isUuid storable.owner, uuidOrNull_of_isUuid storable.actor,
    bindable, noNulId, noNul, isInstant, Option.getD_some, allowed, rowAllowed, safeCode_shaped, clampDuration_nonneg,
    longEnough, shortEnough, Bool.not_true, Bool.not_false, Bool.and_true, Bool.false_eq_true, if_false, and_self,
    decide_true, true_and]
  refine ⟨List.rel_append follows.matching (.cons matching .nil), ?_, ?_⟩
  · refine List.pairwise_append.mpr ⟨follows.ascending, List.pairwise_singleton _ _, ?_⟩
    intro row isRow added isAdded
    rw [List.mem_singleton.mp isAdded]
    exact follows.below row isRow
  · intro row member
    rcases List.mem_append.mp member with isRow | isAdded
    · exact Nat.lt_succ_of_lt (follows.below row isRow)
    · rw [List.mem_singleton.mp isAdded]
      exact Nat.lt_succ_self _

/-- What is purged is purged by both stores, and they count it alike. -/
theorem follows_purge (follows : Follows memory postgres) (before : Instant) :
    memory.events.countP (·.occurredAt < before) = postgres.rows.countP (·.occurredAt < before) ∧
      Follows { memory with events := memory.events.filter (before ≤ ·.occurredAt) }
        { postgres with rows := postgres.rows.filter (before ≤ ·.occurredAt) } := by
  have older : Corresponding Matching (memory.events.filter (·.occurredAt < before))
      (postgres.rows.filter (·.occurredAt < before)) :=
    follows.matching.filter fun event row here => by rw [here.occurredAt_eq]
  have newer : Corresponding Matching (memory.events.filter (before ≤ ·.occurredAt))
      (postgres.rows.filter (before ≤ ·.occurredAt)) :=
    follows.matching.filter fun event row here => by rw [here.occurredAt_eq]
  refine ⟨?_, newer, follows.ascending.sublist List.filter_sublist, fun row member => ?_⟩
  · rw [List.countP_eq_length_filter, List.countP_eq_length_filter]
    exact older.length_eq
  · exact follows.below row (List.mem_of_mem_filter member)

theorem follows_step (follows : Follows memory postgres) {call : EventCall} (admitted : Admitted call) :
    Follows (memory.step call).2 (postgres.step call).2 := by
  cases call with
  | record input clock => exact (follows_record follows admitted clock).2
  | listForSession sessionId limit =>
      rw [PostgresSessionEventStore.step]
      split <;> exact follows
  | listForOwner ownerUserId limit => exact follows
  | listRecent since outcomes limit =>
      rw [PostgresSessionEventStore.step]
      split <;> exact follows
  | latestForSessions sessionIds => exact follows
  | purgeOlderThan before =>
      have isStamp : stampAllowed before = true := admitted
      rw [PostgresSessionEventStore.step, isStamp]
      exact (follows_purge follows before).2

/-- The stores follow each other through every run. -/
theorem follows_after (follows : Follows memory postgres) {calls : List EventCall}
    (admitted : ∀ call ∈ calls, Admitted call) :
    Follows (inMemoryEvents.after memory calls) (postgresEvents.after postgres calls) := by
  induction calls generalizing memory postgres with
  | nil => exact follows
  | cons call calls ih =>
      obtain ⟨first, others⟩ := List.forall_mem_cons.mp admitted
      exact ih (follows_step follows first) others

end Step

/-! ### Reads -/

/-- A call that only reads. -/
def EventCall.IsRead : EventCall → Prop
  | .record .. | .purgeOlderThan _ => False
  | _ => True

/-- The same answer, up to event ids. -/
def EventReply.Same : EventReply → EventReply → Prop
  | .done, .done | .failed, .failed => True
  | .events list, .events list' => list.map SessionEvent.withoutId = list'.map SessionEvent.withoutId
  | .latest map, .latest map' => ∀ sessionId operation,
      (map sessionId operation).map SessionEvent.withoutId = (map' sessionId operation).map SessionEvent.withoutId
  | .purged count, .purged count' => count = count'
  | _, _ => False

/-- The read stays within what both stores look at: texts and instants PostgreSQL can take; a user id whose small
    letters name no user with events unless it is written so itself; and of more than 200 session ids, no events of one
    behind the 200th. -/
def Answerable (events : List SessionEvent) : EventCall → Prop
  | .listForSession sessionId _ => hasNul sessionId = false
  | .listForOwner ownerUserId _ =>
      lowerText ownerUserId = ownerUserId ∨ ∀ event ∈ events, event.ownerUserId ≠ some (lowerText ownerUserId)
  | .listRecent since _ _ => stampAllowed since = true
  | .latestForSessions sessionIds =>
      (∀ sessionId ∈ (distinctOn id sessionIds).take 200, hasNul sessionId = false) ∧
        ∀ event ∈ events, ∀ sessionId ∈ event.sessionId, sessionId ∈ sessionIds →
          sessionId ∈ (distinctOn id sessionIds).take 200
  | _ => True

/-! ### The newest events -/

theorem collect_eq (keep : SessionEvent → Bool) (room : Nat) (events : List SessionEvent) :
    InMemorySessionEventStore.collect keep room events = (events.filter keep).take room := by
  fun_induction InMemorySessionEventStore.collect keep room events with
  | case1 events => rw [List.take_zero]
  | case2 => rw [List.filter_nil, List.take_nil]
  | case3 room event older kept ih => rw [List.filter_cons, if_pos kept, List.take_succ_cons, ih]
  | case4 room event older dropped ih => rw [List.filter_cons, if_neg dropped, ih]

section Reads

variable {memory : InMemorySessionEventStore} {postgres : PostgresSessionEventStore}

/-- What both stores keep alike is listed alike. -/
theorem newestFirst_same (follows : Follows memory postgres) {keep : SessionEvent → Bool} {keep' : EventRow → Bool}
    (alike : ∀ event row, Matching event row → keep event = keep' row) (limit : Number) :
    (memory.newestFirst keep limit).map SessionEvent.withoutId =
      (postgres.newestFirst keep' limit).map SessionEvent.withoutId := by
  have ordered : orderDesc EventRow.eventId (postgres.rows.filter keep') = (postgres.rows.filter keep').reverse :=
    orderDesc_eq_reverse EventRow.eventId (follows.ascending.sublist List.filter_sublist)
  have rows : Corresponding Matching ((memory.events.filter keep).reverse.take (clampLimit limit))
      ((postgres.rows.filter keep').reverse.take (clampLimit limit)) :=
    ((follows.matching.filter alike).reverse).take _
  rw [InMemorySessionEventStore.newestFirst, collect_eq, List.filter_reverse, PostgresSessionEventStore.newestFirst,
    ordered, List.map_map]
  exact rows.map_eq fun event row here => here.told

theorem clampLimit_pos (limit : Number) : 0 < clampLimit limit := by
  cases limit with
  | finite limit =>
      rw [clampLimit]
      have : (1 : Int) ≤ max 1 (truncate limit) := le_max_left _ _
      rw [maxEventRead]
      omega
  | infinite => exact Nat.succ_pos _
  | nan => exact Nat.succ_pos _

theorem newestFirst_eq_nil_iff (keep : SessionEvent → Bool) (limit : Number) :
    memory.newestFirst keep limit = [] ↔ ∀ event ∈ memory.events, keep event = false := by
  have room := Nat.ne_of_gt (clampLimit_pos limit)
  rw [InMemorySessionEventStore.newestFirst, collect_eq, List.take_eq_nil_iff, List.filter_eq_nil_iff]
  refine ⟨fun none event member => ?_, fun none => .inr fun event member => ?_⟩
  · exact Bool.eq_false_of_not_eq_true (none.resolve_left room event (List.mem_reverse.mpr member))
  · rw [none event (List.mem_reverse.mp member)]
    exact Bool.false_ne_true

theorem listForOwner_of_none {ownerUserId : String} (noUser : uuidOrNull (some ownerUserId) = none) (limit : Number) :
    postgres.listForOwner ownerUserId limit = .events [] := by
  unfold PostgresSessionEventStore.listForOwner
  rw [noUser]

theorem listForOwner_of_some {ownerUserId owner : String} (user : uuidOrNull (some ownerUserId) = some owner)
    (limit : Number) :
    postgres.listForOwner ownerUserId limit = .events (postgres.newestFirst (·.ownerUserId = some owner) limit) := by
  unfold PostgresSessionEventStore.listForOwner
  rw [user]

/-- The events of a user: only an id whose capitals are small letters in the table is read by PostgreSQL alone. -/
theorem listForOwner_same_iff (follows : Follows memory postgres) (ownerUserId : String) (limit : Number) :
    (memory.step (.listForOwner ownerUserId limit)).1.Same (postgres.step (.listForOwner ownerUserId limit)).1 ↔
      Answerable memory.events (.listForOwner ownerUserId limit) := by
  have isUser : ∀ event ∈ memory.events, ∀ owner ∈ event.ownerUserId, isUuid owner = true :=
    ((List.forall₂_and_left _ _).mp (follows.matching.imp fun _ _ here => ⟨here.isUser, here⟩)).1
  have asWritten : lowerText ownerUserId ≠ ownerUserId →
      memory.newestFirst (·.ownerUserId = some ownerUserId) limit = [] := by
    intro capitals
    rw [newestFirst_eq_nil_iff]
    intro event member
    rw [decide_eq_false_iff_not]
    exact fun isOwner => capitals (lowerText_of_isUuid (isUser event member ownerUserId isOwner))
  by_cases user : isUuid (lowerText ownerUserId) = true
  · have read : uuidOrNull (some ownerUserId) = some (lowerText ownerUserId) := by
      rw [uuidOrNull, Option.map_some, Option.filter_some, if_pos user]
    have same : (memory.newestFirst (·.ownerUserId = some (lowerText ownerUserId)) limit).map SessionEvent.withoutId =
        (postgres.newestFirst (·.ownerUserId = some (lowerText ownerUserId)) limit).map SessionEvent.withoutId :=
      newestFirst_same follows (fun event row here => by rw [here.owner]) limit
    simp only [InMemorySessionEventStore.step, PostgresSessionEventStore.step, listForOwner_of_some read,
      EventReply.Same, Answerable, ← same]
    by_cases capitals : lowerText ownerUserId = ownerUserId
    · simp only [capitals, true_or]
    · rw [asWritten capitals, List.map_nil, eq_comm, List.map_eq_nil_iff, newestFirst_eq_nil_iff]
      simp only [capitals, false_or, decide_eq_false_iff_not, ne_eq]
  · have read : uuidOrNull (some ownerUserId) = none := by
      rw [uuidOrNull, Option.map_some, Option.filter_some, if_neg user]
    have unheld : ∀ event ∈ memory.events, event.ownerUserId ≠ some (lowerText ownerUserId) :=
      fun event member isOwner => user (isUser event member _ isOwner)
    have empty : memory.newestFirst (·.ownerUserId = some ownerUserId) limit = [] := by
      by_cases capitals : lowerText ownerUserId = ownerUserId
      · rw [newestFirst_eq_nil_iff]
        intro event member
        rw [decide_eq_false_iff_not, ← capitals]
        exact unheld event member
      · exact asWritten capitals
    simp only [InMemorySessionEventStore.step, PostgresSessionEventStore.step, listForOwner_of_none read, empty,
      EventReply.Same, Answerable, true_iff]
    exact .inr unheld

/-! ### The newest event of each operation -/

theorem noteEvent_apply (sessionIds : List String) (latest : LatestEvents) (event : SessionEvent) (sessionId : String)
    (operation : SessionOperation) :
    InMemorySessionEventStore.noteEvent sessionIds latest event sessionId operation =
      if sessionId ∈ sessionIds ∧ event.sessionId = some sessionId ∧ event.operation = operation then
        (latest sessionId operation).or (some event)
      else latest sessionId operation := by
  rw [InMemorySessionEventStore.noteEvent]
  cases event.sessionId with
  | none => rw [if_neg fun all => nomatch all.2.1]
  | some other =>
    by_cases hit : other = sessionId ∧ event.operation = operation
    · obtain ⟨rfl, rfl⟩ := hit
      by_cases asked : other ∈ sessionIds
      · cases held : latest other event.operation with
        | none => simp [asked, held, LatestEvents.set]
        | some newest => simp [asked, held]
      · simp [asked]
    · have missed : ¬(sessionId ∈ sessionIds ∧ some other = some sessionId ∧ event.operation = operation) :=
        fun all => hit ⟨Option.some.inj all.2.1, all.2.2⟩
      rw [if_neg missed]
      dsimp only
      split
      case isTrue => rfl
      case isFalse =>
        rw [LatestEvents.set, if_neg]
        exact fun both => hit ⟨both.1.symm, both.2.symm⟩

theorem foldl_noteEvent (sessionIds : List String) (events : List SessionEvent) (latest : LatestEvents)
    (sessionId : String) (operation : SessionOperation) :
    events.foldl (InMemorySessionEventStore.noteEvent sessionIds) latest sessionId operation =
      (latest sessionId operation).or
        (events.find? fun event =>
          sessionId ∈ sessionIds ∧ event.sessionId = some sessionId ∧ event.operation = operation) := by
  induction events generalizing latest with
  | nil => rw [List.find?_nil, Option.or_none, List.foldl_nil]
  | cons event events ih =>
      rw [List.foldl_cons, ih, noteEvent_apply, List.find?_cons]
      by_cases hit : sessionId ∈ sessionIds ∧ event.sessionId = some sessionId ∧ event.operation = operation
      · rw [if_pos hit, decide_eq_true hit, Option.or_assoc, Option.some_or]
      · rw [if_neg hit, decide_eq_false hit]

theorem noteRow_apply {row : EventRow} {own : String} (isOwn : row.sessionId = some own) (notEmpty : own ≠ "")
    (latest : LatestEvents) (sessionId : String) (operation : SessionOperation) :
    PostgresSessionEventStore.noteRow latest row sessionId operation =
      if (row.sessionId, row.operation) = (some sessionId, operation) then some (toEvent row)
      else latest sessionId operation := by
  have told : (toEvent row).sessionId = some own := by
    rw [toEvent, isOwn]
    exact present_of_ne fun value isValue => (Option.some.inj isValue) ▸ notEmpty
  rw [PostgresSessionEventStore.noteRow, told, isOwn]
  by_cases hit : (some own, row.operation) = (some sessionId, operation)
  · cases hit
    exact (if_pos ⟨rfl, rfl⟩).trans (if_pos rfl).symm
  · rw [if_neg hit]
    exact if_neg fun both => hit (by rw [both.1, both.2])

/-- The rows of a query have keys of their own, so that the loop over them finds for each key its only row. -/
theorem foldl_noteRow {rows : List EventRow}
    (named : ∀ row ∈ rows, ∃ own, row.sessionId = some own ∧ own ≠ "")
    (distinct : (rows.map fun row => (row.sessionId, row.operation)).Nodup) (latest : LatestEvents)
    (sessionId : String) (operation : SessionOperation) :
    rows.foldl PostgresSessionEventStore.noteRow latest sessionId operation =
      ((rows.find? fun row => (row.sessionId, row.operation) = (some sessionId, operation)).map toEvent).or
        (latest sessionId operation) := by
  induction rows generalizing latest with
  | nil => rfl
  | cons row rows ih =>
      obtain ⟨⟨own, isOwn, notEmpty⟩, others⟩ := List.forall_mem_cons.mp named
      rw [List.map_cons, List.nodup_cons] at distinct
      rw [List.foldl_cons, ih others distinct.2, List.find?_cons, noteRow_apply isOwn notEmpty]
      by_cases hit : (row.sessionId, row.operation) = (some sessionId, operation)
      · have absent : (rows.find? fun row => (row.sessionId, row.operation) = (some sessionId, operation)) = none := by
          rw [List.find?_eq_none]
          intro other member same
          exact distinct.1 (List.mem_map.mpr ⟨other, member, (of_decide_eq_true same).trans hit.symm⟩)
        rw [absent, if_pos hit, decide_eq_true hit, Option.map_none, Option.none_or, Option.map_some, Option.some_or]
      · rw [if_neg hit, decide_eq_false hit]

/-- In the table, the newest row of a session that is asked for and an operation. -/
theorem latestOf_eq_find? (follows : Follows memory postgres) (sessionIds : List String) (sessionId : String)
    (operation : SessionOperation) :
    postgres.latestOf sessionIds sessionId operation =
      (postgres.rows.reverse.find? fun row =>
        sessionId ∈ sessionIds ∧ row.sessionId = some sessionId ∧ row.operation = operation).map toEvent := by
  have notEmpty : ∀ row ∈ postgres.rows, ∀ own ∈ row.sessionId, own ≠ "" :=
    ((List.forall₂_and_left _ _).mp (follows.matching.flip.imp fun _ _ here => ⟨Matching.session_ne here, here⟩)).1
  have ordered := orderDesc_eq_reverse EventRow.eventId (follows.ascending.sublist
    (List.filter_sublist (p := fun row => row.sessionId.any (sessionIds.contains ·))))
  have named : ∀ row ∈ distinctOn (fun row => (row.sessionId, row.operation))
      (postgres.rows.filter fun row => row.sessionId.any (sessionIds.contains ·)).reverse,
      ∃ own, row.sessionId = some own ∧ own ≠ "" := by
    intro row member
    obtain ⟨isRow, asked⟩ := List.mem_filter.mp (List.mem_reverse.mp (mem_of_mem_distinctOn _ member))
    obtain ⟨own, isOwn, -⟩ := (Option.any_eq_true _ _).mp asked
    exact ⟨own, isOwn, notEmpty row isRow own isOwn⟩
  rw [PostgresSessionEventStore.latestOf, ordered, foldl_noteRow named (nodup_distinctOn _ _), Option.or_none,
    find?_distinctOn, ← List.filter_reverse, List.find?_filter]
  congr 2
  funext row
  by_cases hit : row.sessionId = some sessionId ∧ row.operation = operation
  · simp [hit.1, hit.2]
  · have missed : ¬((row.sessionId, row.operation) = (some sessionId, operation)) := fun same => hit (Prod.mk.inj same)
    rw [decide_eq_false missed, decide_eq_false fun both => Bool.false_ne_true both.2,
      decide_eq_false fun all => hit all.2]

theorem latestForSessions_apply (sessionIds : List String) (sessionId : String) (operation : SessionOperation) :
    memory.latestForSessions sessionIds sessionId operation =
      memory.events.reverse.find? fun event =>
        sessionId ∈ sessionIds ∧ event.sessionId = some sessionId ∧ event.operation = operation := by
  rw [InMemorySessionEventStore.latestForSessions, foldl_noteEvent, Option.none_or]

/-- Asked for the same sessions, both stores find the same. -/
theorem latestOf_same (follows : Follows memory postgres) (sessionIds : List String) (sessionId : String)
    (operation : SessionOperation) :
    (memory.latestForSessions sessionIds sessionId operation).map SessionEvent.withoutId =
      (postgres.latestOf sessionIds sessionId operation).map SessionEvent.withoutId := by
  rw [latestForSessions_apply, latestOf_eq_find? follows, Option.map_map]
  exact follows.matching.reverse.find? (fun event row here => by rw [here.session, here.operation_eq])
    fun event row here => here.told

/-- Of fewer sessions the same is found exactly if no session that is left out has events. -/
theorem latestForSessions_fewer_iff {sessionIds fewer : List String}
    (subset : ∀ sessionId ∈ fewer, sessionId ∈ sessionIds) :
    (∀ sessionId operation, (memory.latestForSessions sessionIds sessionId operation).map SessionEvent.withoutId =
        (memory.latestForSessions fewer sessionId operation).map SessionEvent.withoutId) ↔
      ∀ event ∈ memory.events, ∀ sessionId ∈ event.sessionId, sessionId ∈ sessionIds → sessionId ∈ fewer := by
  simp only [latestForSessions_apply]
  constructor
  · intro same event member sessionId isSession asked
    by_contra leftOut
    have unread : (memory.events.reverse.find? fun other =>
        sessionId ∈ fewer ∧ other.sessionId = some sessionId ∧ other.operation = event.operation) = none :=
      List.find?_eq_none.mpr fun other _ hit => leftOut (of_decide_eq_true hit).1
    have none := same sessionId event.operation
    rw [unread, Option.map_none, Option.map_eq_none_iff, List.find?_eq_none] at none
    exact none event (List.mem_reverse.mpr member) (decide_eq_true ⟨asked, isSession, rfl⟩)
  · intro within sessionId operation
    congr 1
    refine List.find?_congr fun event member => decide_eq_decide.mpr ⟨fun hit => ?_, fun hit => ?_⟩
    · exact ⟨within event (List.mem_reverse.mp member) sessionId hit.2.1 hit.1, hit.2⟩
    · exact ⟨subset sessionId hit.1, hit.2⟩

/-- The newest events of the sessions: PostgreSQL reads those of the first 200 alone. -/
theorem latestForSessions_same_iff (follows : Follows memory postgres) (sessionIds : List String) :
    (memory.step (.latestForSessions sessionIds)).1.Same (postgres.step (.latestForSessions sessionIds)).1 ↔
      Answerable memory.events (.latestForSessions sessionIds) := by
  have subset : ∀ sessionId ∈ (distinctOn id sessionIds).take 200, sessionId ∈ sessionIds :=
    fun sessionId member => mem_of_mem_distinctOn id (List.mem_of_mem_take member)
  have clean_iff : ((distinctOn id sessionIds).take 200).any hasNul = false ↔
      ∀ sessionId ∈ (distinctOn id sessionIds).take 200, hasNul sessionId = false := by
    rw [List.any_eq_false]
    exact forall₂_congr fun _ _ => Bool.not_eq_true _ ▸ Iff.rfl
  rw [Answerable, InMemorySessionEventStore.step, PostgresSessionEventStore.step,
    PostgresSessionEventStore.latestForSessions, PostgresSessionEventStore.readIds, maxEventRead, ← clean_iff]
  split
  case isTrue noIds =>
    have noneAsked : sessionIds = [] := by
      cases sessionIds with
      | nil => rfl
      | cons first others => cases noIds
    subst noneAsked
    refine ⟨fun _ => ⟨rfl, fun _ _ _ _ impossible => impossible⟩, fun _ sessionId operation => ?_⟩
    rw [latestForSessions_apply, List.find?_eq_none.mpr fun event _ hit =>
      List.not_mem_nil (of_decide_eq_true hit).1]
  case isFalse =>
    split
    case isTrue nul => exact ⟨False.elim, fun both => Bool.false_ne_true (both.1.symm.trans nul)⟩
    case isFalse noNul =>
      have clean := Bool.eq_false_of_not_eq_true noNul
      rw [← latestForSessions_fewer_iff subset]
      simp only [EventReply.Same, ← latestOf_same follows]
      exact ⟨fun same => ⟨clean, same⟩, fun both => both.2⟩

end Reads

/-- A read is answered alike in states that follow each other exactly where it stays within what both look at. -/
theorem read_same_iff {memory : InMemorySessionEventStore} {postgres : PostgresSessionEventStore}
    (follows : Follows memory postgres) {read : EventCall} (isRead : read.IsRead) :
    (memory.step read).1.Same (postgres.step read).1 ↔ Answerable memory.events read := by
  cases read with
  | record | purgeOlderThan => exact False.elim isRead
  | listForSession sessionId limit =>
      have same : (memory.newestFirst (·.sessionId = some sessionId) limit).map SessionEvent.withoutId =
          (postgres.newestFirst (·.sessionId = some sessionId) limit).map SessionEvent.withoutId :=
        newestFirst_same follows (fun event row here => by rw [here.session]) limit
      rw [Answerable, InMemorySessionEventStore.step, PostgresSessionEventStore.step]
      split
      case isTrue nul => exact ⟨False.elim, fun clean => Bool.false_ne_true (clean.symm.trans nul)⟩
      case isFalse noNul => exact ⟨fun _ => Bool.eq_false_of_not_eq_true noNul, fun _ => same⟩
  | listForOwner ownerUserId limit => exact listForOwner_same_iff follows ownerUserId limit
  | listRecent since outcomes limit =>
      have same :
          (memory.newestFirst (fun event => since ≤ event.occurredAt && outcomes.contains event.outcome) limit).map
              SessionEvent.withoutId =
            (postgres.newestFirst (fun row => since ≤ row.occurredAt && outcomes.contains row.outcome) limit).map
              SessionEvent.withoutId :=
        newestFirst_same follows (fun event row here => by rw [here.occurredAt_eq, here.outcome_eq]) limit
      rw [Answerable, InMemorySessionEventStore.step, PostgresSessionEventStore.step]
      cases stampAllowed since with
      | false => exact ⟨False.elim, fun impossible => nomatch impossible⟩
      | true => exact ⟨fun _ => rfl, fun _ => same⟩
  | latestForSessions sessionIds => exact latestForSessions_same_iff follows sessionIds

/-- After every run of records that fit the table, purges and reads, a read is answered alike by the two stores, up to
    event ids, if and only if it stays within what both look at. -/
theorem event_stores_agree_iff (calls : List EventCall) (admitted : ∀ call ∈ calls, Admitted call) (read : EventCall)
    (isRead : read.IsRead) :
    (inMemoryEvents.step (inMemoryEvents.after {} calls) read).1.Same
        (postgresEvents.step (postgresEvents.after {} calls) read).1 ↔
      Answerable (inMemoryEvents.after {} calls).events read :=
  read_same_iff (follows_after (follows_start 0 1) admitted) isRead

/-- A Start of the session `s`. -/
def startOfS : SessionEventInput :=
  { sessionId := some "s", labId := "docker-101", operation := .start, outcome := .ok, occurredAt := some 0 }

theorem storable_startOfS : Storable startOfS where
  session := by decide
  owner := fun owner isOwner => nomatch isOwner
  actor := fun actor isActor => nomatch isActor
  lab := by decide
  instant := ⟨0, rfl, by decide⟩

theorem admitted_startOfS : ∀ call ∈ [EventCall.record startOfS 0], Admitted call := by
  intro call member
  rw [List.mem_singleton.mp member]
  exact storable_startOfS

/-- The id of a user, as the table writes it. -/
def checkedOwner : String := "3f2c8a10-5b7d-4c1e-9a60-2d4e6f8091b3"

/-- A check of one of the user's sessions. -/
def checkOf (sessionId : String) (occurredAt : Access.Instant) : SessionEventInput :=
  { sessionId := some sessionId, labId := "docker-101", ownerUserId := some checkedOwner, operation := .check,
    outcome := .pass, durationMs := some 1500, occurredAt := some occurredAt }

theorem storable_checkOf {sessionId : String} {occurredAt : Access.Instant}
    (isSession : sessionId ≠ "" ∧ hasNul sessionId = false) (inRange : stampAllowed occurredAt = true) :
    Storable (checkOf sessionId occurredAt) where
  session := by
    rintro _ ⟨⟩
    exact isSession
  owner := by
    rintro _ ⟨⟩
    decide
  actor := fun actor isActor => nomatch isActor
  lab := show "docker-101" ≠ "" ∧ utf16Length "docker-101" ≤ 64 ∧ hasNul "docker-101" = false by decide
  instant := ⟨occurredAt, rfl, inRange⟩

/-- Two sessions of the user are checked, and the events of the first day are purged in between. -/
def checkedSessions : List EventCall :=
  [.record startOfS 0, .record (checkOf "t" 90000000) 0, .purgeOlderThan 86400000, .record (checkOf "s" 90000001) 0]

theorem admitted_checkedSessions : ∀ call ∈ checkedSessions, Admitted call := by
  intro call member
  simp only [checkedSessions, List.mem_cons, List.not_mem_nil, or_false] at member
  rcases member with rfl | rfl | rfl | rfl
  · exact storable_startOfS
  · exact storable_checkOf (by decide) (by decide)
  · show stampAllowed 86400000 = true
    decide
  · exact storable_checkOf (by decide) (by decide)

/-- Both stores list the two checks of the user. -/
theorem event_stores_agree_iff_checked :
    (∃ last first, (inMemoryEvents.step (inMemoryEvents.after {} checkedSessions)
      (.listForOwner checkedOwner (.finite 10))).1 = .events [last, first]) ∧
    (inMemoryEvents.step (inMemoryEvents.after {} checkedSessions) (.listForOwner checkedOwner (.finite 10))).1.Same
      (postgresEvents.step (postgresEvents.after {} checkedSessions) (.listForOwner checkedOwner (.finite 10))).1 :=
  ⟨⟨_, _, rfl⟩,
    (event_stores_agree_iff checkedSessions admitted_checkedSessions (.listForOwner checkedOwner (.finite 10)) trivial).mpr
      (.inl (by decide))⟩

/-- The ids `a`, `aa`, … of 200 sessions. -/
def otherSessions : List String := (List.range 200).map fun n => String.ofList (List.replicate (n + 1) 'a')

theorem nodup_otherSessions : otherSessions.Nodup := by
  refine List.nodup_range.map fun n m same => ?_
  have lengths := congrArg String.length same
  simpa using lengths

theorem s_not_mem_otherSessions : "s" ∉ otherSessions := by
  intro member
  obtain ⟨n, -, same⟩ := List.mem_map.mp member
  have first := congrArg (fun text : String => text.toList.head?) same
  simp [List.replicate_succ] at first

/-- Behind 200 other sessions, `s` is not read in the table. -/
theorem not_same_behind {others : List String} (many : others.length = 200) (distinct : (others ++ ["s"]).Nodup) :
    ¬(inMemoryEvents.step (inMemoryEvents.after {} [.record startOfS 0]) (.latestForSessions (others ++ ["s"]))).1.Same
        (postgresEvents.step (postgresEvents.after {} [.record startOfS 0])
          (.latestForSessions (others ++ ["s"]))).1 := by
  intro same
  obtain ⟨-, within⟩ := (latestForSessions_same_iff (follows_after (follows_start 0 1) admitted_startOfS) _).mp same
  have first : (distinctOn id (others ++ ["s"])).take 200 = others := by
    rw [distinctOn_of_nodup id (by rwa [List.map_id])]
    exact List.take_left' many
  have read : "s" ∈ others := by
    rw [← first]
    exact within _ (List.mem_singleton_self _) "s" rfl (List.mem_append_right _ (List.mem_singleton_self _))
  exact (List.nodup_append.mp distinct).2.2 "s" read "s" (List.mem_singleton_self _) rfl

/-- Of a page with 201 sessions, the last one's Start is found in memory and not in the table. -/
theorem unread_session_differs :
    Storable startOfS ∧
      ¬(inMemoryEvents.step (inMemoryEvents.after {} [.record startOfS 0])
            (.latestForSessions (otherSessions ++ ["s"]))).1.Same
          (postgresEvents.step (postgresEvents.after {} [.record startOfS 0])
            (.latestForSessions (otherSessions ++ ["s"]))).1 := by
  have distinct : (otherSessions ++ ["s"]).Nodup :=
    List.nodup_append.mpr ⟨nodup_otherSessions, List.nodup_singleton _, fun other member last isLast equal =>
      s_not_mem_otherSessions (List.mem_singleton.mp isLast ▸ equal ▸ member)⟩
  exact ⟨storable_startOfS, not_same_behind (by rw [otherSessions, List.length_map, List.length_range]) distinct⟩

end JumptotechLabs.Classroom
