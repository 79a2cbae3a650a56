/-
Module: JumptotechLabs.Session.Ceiling
Layer: Session (services/lab-orchestrator/src/session/store.ts, postgres-store.ts, manager.ts)
Purpose: The capacity ceilings of both session stores, call by call. In the database an admission
  counts and inserts in one transaction under the capacity lock, and every other statement may run
  between the two; none of them gives a row a slot, so what was counted still fits when it is inserted.
  The status moves of the manager are listed, and none of them takes a finished row back.
Main exports: managerTransitions, SharedDatabase, sharedDatabase, WithinCall, TableWithin,
  capacity_ceiling
-/
import JumptotechLabs.Session.StoreCalls
import JumptotechLabs.Session.Capacity

namespace JumptotechLabs.Session

open JumptotechLabs.Core

/-! ### The database, shared by instances -/

/-- The database and the admission that holds the capacity lock: one that has counted, was admitted and
    has not inserted yet. -/
structure SharedDatabase where
  table : PostgresSessionStore
  admitting : Option LabSession

/-- What the instances do to the database, one statement or transaction at a time. -/
inductive SharedCall where
  /-- `createWithinLimits` up to its decision: lock, count, decide. -/
  | count (session : LabSession) (limits : CapacityLimits)
  /-- The rest of it: INSERT, and COMMIT or ROLLBACK. -/
  | insert
  /-- The lock's holder is gone, and its transaction with it. -/
  | abort
  | statement (call : StoreCall)

namespace SharedDatabase

variable (db : SharedDatabase)

/-- No reply while the caller waits, for the lock or for its own INSERT. -/
def count (session : LabSession) (limits : CapacityLimits) : Option StoreReply × SharedDatabase :=
  match db.admitting with
  | some _ => (none, db)
  | none =>
      if !(session.ownerUserId.all fun owner => (uuidIn owner).isSome) then (some .threw, db)
      else
        let owner := session.ownerUserId.bind uuidIn
        match decideCapacity session limits db.table.countOccupying (db.table.countOwner owner) with
        | .refused refusedBy occupying ownerOccupying =>
            (some (.decision (.refused refusedBy occupying ownerOccupying)), db)
        | .admitted => (none, { db with admitting := some session })

def insert : Option StoreReply × SharedDatabase :=
  match db.admitting with
  | none => (none, db)
  | some session =>
      let (done, table) := db.table.insertSession session
      (some (replyOf (fun _ => .decision .admitted) done), ⟨table, none⟩)

/-- Only an admission waits for the lock. -/
def statement (call : StoreCall) : Option StoreReply × SharedDatabase :=
  match call, db.admitting with
  | .createWithinLimits _ _, some _ => (none, db)
  | call, _ =>
      let (reply, table) := postgresStore.step db.table call
      (some reply, { db with table := table })

end SharedDatabase

/-- The shared database as an object. -/
abbrev sharedDatabase : Object SharedCall (Option StoreReply) where
  State := SharedDatabase
  step := fun db call =>
    match call with
    | .count session limits => db.count session limits
    | .insert => db.insert
    | .abort => (none, { db with admitting := none })
    | .statement call => db.statement call

/-- With nothing in between, counting and inserting is the store's `createWithinLimits`. -/
theorem insert_count (table : PostgresSessionStore) (session : LabSession)
    (limits : CapacityLimits) :
    let counted := SharedDatabase.count ⟨table, none⟩ session limits
    let admitted := table.createWithinLimits session limits
    (counted.1.or counted.2.insert.1, counted.2.insert.2) =
      (some (replyOf .decision admitted.1), (⟨admitted.2, none⟩ : SharedDatabase)) := by
  simp only [SharedDatabase.count, PostgresSessionStore.createWithinLimits]
  split
  · rfl
  · cases decision : decideCapacity session limits table.countOccupying
        (table.countOwner (session.ownerUserId.bind uuidIn)) with
    | refused refusedBy occupying ownerOccupying => rfl
    | admitted =>
        simp only [SharedDatabase.insert, Option.none_or]
        cases inserted : table.insertSession session with
        | mk done after =>
            cases done with
            | error failure => rfl
            | ok _ => rfl

/-! ### Calls that share the ceilings -/

/-- Does a call keep to the ceilings? An admission passes the shared ones, a transition is one of the
    manager's, and an update gives no row without a slot a status that holds one. -/
def withinCall (ceiling : Nat) (limitOf : String → Nat) (statusOf : String → Option SessionStatus)
    (ownerOf : LabSession → Option String) : StoreCall → Bool
  | .createWithinLimits session limits =>
      limits.maxOccupying == ceiling &&
        (ownerOf session).all fun owner =>
          limits.maxOccupyingPerOwner.any fun perOwner => decide (perOwner ≤ limitOf owner)
  | .transition _ source target _ _ => managerTransitions.contains (source, target)
  | .update sessionId patch =>
      (statusOf sessionId).all fun status =>
        patch.status.all fun target => !occupiesCapacity target || occupiesCapacity status
  | _ => true

/-- The condition on a call of the in-memory store. -/
def WithinCall (ceiling : Nat) (limitOf : String → Nat) (store : InMemorySessionStore)
    (call : StoreCall) : Prop :=
  withinCall ceiling limitOf (fun sessionId => (store.get sessionId).map LabSession.status)
    LabSession.ownerUserId call = true

instance (ceiling : Nat) (limitOf : String → Nat) (store : InMemorySessionStore)
    (call : StoreCall) : Decidable (WithinCall ceiling limitOf store call) :=
  inferInstanceAs (Decidable (_ = true))

/-- A call of the durable store. The owner is the account, however its id is spelled. -/
def tableWithinCall (ceiling : Nat) (limitOf : String → Nat) (table : PostgresSessionStore)
    (call : StoreCall) : Bool :=
  withinCall ceiling limitOf (fun sessionId => (table.lookup sessionId).map SessionRow.status)
    (fun session => session.ownerUserId.bind uuidIn) call

/-- The condition on what an instance does to the shared database. -/
def SharedWithinCall (ceiling : Nat) (limitOf : String → Nat) (db : SharedDatabase) :
    SharedCall → Prop
  | .count session limits =>
      tableWithinCall ceiling limitOf db.table (.createWithinLimits session limits) = true
  | .statement call => tableWithinCall ceiling limitOf db.table call = true
  | .insert | .abort => True

instance (ceiling : Nat) (limitOf : String → Nat) (db : SharedDatabase) :
    ∀ call, Decidable (SharedWithinCall ceiling limitOf db call)
  | .count _ _ | .statement _ => inferInstanceAs (Decidable (_ = true))
  | .insert | .abort => isTrue trivial

section Calls

variable {ceiling : Nat} {limitOf : String → Nat} {statusOf : String → Option SessionStatus}
  {ownerOf : LabSession → Option String}

theorem shares_of_withinCall {session : LabSession} {limits : CapacityLimits}
    (kept : withinCall ceiling limitOf statusOf ownerOf (.createWithinLimits session limits) =
      true) :
    limits.maxOccupying = ceiling ∧ ∀ owner, ownerOf session = some owner →
      ∃ perOwner, limits.maxOccupyingPerOwner = some perOwner ∧ perOwner ≤ limitOf owner := by
  simp only [withinCall, Bool.and_eq_true, beq_iff_eq] at kept
  constructor
  · exact kept.1
  · intro owner owned
    have limited := kept.2
    rw [owned, Option.all_some, Option.any_eq_true_iff_get] at limited
    obtain ⟨isSome, small⟩ := limited
    exact ⟨_, (Option.some_get isSome).symm, of_decide_eq_true small⟩

theorem holds_slot_of_withinCall {sessionId : String} {patch : SessionPatch}
    {status : SessionStatus}
    (kept : withinCall ceiling limitOf statusOf ownerOf (.update sessionId patch) = true)
    (isStatus : statusOf sessionId = some status)
    (occupying : occupiesCapacity (patch.status.getD status) = true) :
    occupiesCapacity status = true := by
  simp only [withinCall, isStatus, Option.all_some] at kept
  cases given : patch.status with
  | none =>
      rw [given] at occupying
      exact occupying
  | some target =>
      rw [given] at occupying kept
      have isOccupying : occupiesCapacity target = true := occupying
      simpa [isOccupying] using kept

end Calls

/-! ### The table -/

/-- At most `ceiling` occupying rows, and for every account at most that account's limit. -/
def TableWithin (ceiling : Nat) (limitOf : String → Nat) (table : PostgresSessionStore) : Prop :=
  table.countOccupying ≤ ceiling ∧
    ∀ ownerUserId, table.countOwner (some ownerUserId) ≤ limitOf ownerUserId

/-- A change that gives nobody a slot. -/
def Fewer (table after : PostgresSessionStore) : Prop :=
  after.countOccupying ≤ table.countOccupying ∧
    ∀ ownerUserId, after.countOwner (some ownerUserId) ≤ table.countOwner (some ownerUserId)

/-- There is room for the session under every ceiling it counts against. -/
def Room (ceiling : Nat) (limitOf : String → Nat) (session : LabSession)
    (table : PostgresSessionStore) : Prop :=
  occupiesCapacity session.status = true →
    table.countOccupying < ceiling ∧
      ∀ ownerUserId, session.ownerUserId.bind uuidIn = some ownerUserId →
        table.countOwner (some ownerUserId) < limitOf ownerUserId

section Table

variable {ceiling : Nat} {limitOf : String → Nat} {table after : PostgresSessionStore}
  {session : LabSession}

theorem Fewer.refl (table : PostgresSessionStore) : Fewer table table :=
  ⟨Nat.le_refl _, fun _ => Nat.le_refl _⟩

theorem TableWithin.fewer (within : TableWithin ceiling limitOf table) (fewer : Fewer table after) :
    TableWithin ceiling limitOf after :=
  ⟨le_trans fewer.1 within.1, fun owner => le_trans (fewer.2 owner) (within.2 owner)⟩

theorem Room.fewer (room : Room ceiling limitOf session table) (fewer : Fewer table after) :
    Room ceiling limitOf session after := by
  intro occupies
  obtain ⟨forAll, forOwner⟩ := room occupies
  constructor
  · exact lt_of_le_of_lt fewer.1 forAll
  · intro owner owned
    exact lt_of_le_of_lt (fewer.2 owner) (forOwner owner owned)

/-- A change of one row that gives it no slot it did not hold. -/
theorem fewer_updateRow {sessionId : String} {change : SessionRow → SessionRow}
    (stable : ∀ row, (change row).sessionId = row.sessionId)
    (owned : ∀ row, (change row).ownerUserId = row.ownerUserId)
    (holdsSlot : ∀ row, table.lookup sessionId = some row →
      occupiesCapacity (change row).status = true → occupiesCapacity row.status = true) :
    Fewer table (table.updateRow sessionId change stable) := by
  have stored : ∀ row ∈ table.rows, row.sessionId = sessionId →
      table.lookup sessionId = some row := by
    intro row member named
    rw [← named]
    exact Keyed.lookup_of_mem table.distinct member
  constructor
  · apply Keyed.countP_modify_le
    intro row member named occupying
    exact holdsSlot row (stored row member named) occupying
  · intro ownerUserId
    apply Keyed.countP_modify_le
    intro row member named counted
    simp only [Bool.and_eq_true, owned] at counted ⊢
    exact ⟨holdsSlot row (stored row member named) counted.1, counted.2⟩

theorem fewer_delete (sessionId : String) : Fewer table (table.delete sessionId).2 := by
  unfold PostgresSessionStore.delete
  split
  · exact Fewer.refl table
  · constructor
    · exact List.Sublist.countP_le List.filter_sublist
    · intro ownerUserId
      exact List.Sublist.countP_le List.filter_sublist

theorem fewer_update {sessionId : String} {patch : SessionPatch}
    (kept : tableWithinCall ceiling limitOf table (.update sessionId patch) = true) :
    Fewer table (table.update sessionId patch).2 := by
  unfold PostgresSessionStore.update
  split
  · exact Fewer.refl table
  split
  · exact Fewer.refl table
  split
  · exact Fewer.refl table
  · rename_i row found
    apply fewer_updateRow
    · exact fun _ => rfl
    · exact fun _ => rfl
    · intro other isOther occupying
      apply holds_slot_of_withinCall kept
      · rw [isOther, Option.map_some]
      · exact occupying

theorem fewer_transition {sessionId : String} {source : List SessionStatus}
    {target : SessionStatus} {patch : SessionPatch} {guard : TransitionGuard}
    (listed : (source, target) ∈ managerTransitions) :
    Fewer table (table.transition sessionId source target patch guard).2 := by
  unfold PostgresSessionStore.transition
  split
  · exact Fewer.refl table
  split
  · exact Fewer.refl table
  split
  · rename_i row found claimable
    rw [PostgresSessionStore.claimable, Bool.and_eq_true, Bool.and_eq_true,
      List.contains_iff_mem] at claimable
    apply fewer_updateRow
    · exact fun _ => rfl
    · exact fun _ => rfl
    · intro other isOther occupying
      rw [found] at isOther
      cases isOther
      exact holds_slot_of_listed _ listed _ claimable.1.1 occupying
  · exact Fewer.refl table

theorem fewer_touchActivity (sessionId : String) (atTime : Instant) :
    Fewer table (table.touchActivity sessionId atTime).2 := by
  unfold PostgresSessionStore.touchActivity
  split
  · exact Fewer.refl table
  split
  · exact Fewer.refl table
  split
  · apply fewer_updateRow
    · exact fun _ => rfl
    · exact fun _ => rfl
    · intro other _ occupying
      exact occupying
  · exact Fewer.refl table

/-- What an admission was decided on leaves room for it. -/
theorem room_of_admitted {limits : CapacityLimits}
    (kept : tableWithinCall ceiling limitOf table (.createWithinLimits session limits) = true)
    (admitted : decideCapacity session limits table.countOccupying
      (table.countOwner (session.ownerUserId.bind uuidIn)) = .admitted) :
    Room ceiling limitOf session table := by
  obtain ⟨shared, limited⟩ := shares_of_withinCall kept
  intro occupies
  obtain ⟨room, roomForOwner⟩ := fits_of_admitted admitted occupies
  constructor
  · rw [← shared]
    exact room
  · intro owner owned
    obtain ⟨perOwner, isLimit, small⟩ := limited owner owned
    have isOwned : session.ownerUserId.isSome = true := by
      cases given : session.ownerUserId with
      | none =>
          rw [given] at owned
          cases owned
      | some _ => rfl
    have fits := roomForOwner perOwner isOwned isLimit
    rw [owned] at fits
    exact lt_of_lt_of_le fits small

/-- An INSERT adds one row or none. -/
theorem rows_insertSession (table : PostgresSessionStore) (session : LabSession) :
    (table.insertSession session).2.rows = table.rows ∨
      (table.insertSession session).2.rows = table.rows ++ [table.insertedRow session] := by
  unfold PostgresSessionStore.insertSession
  split
  · exact .inl rfl
  split
  · exact .inl rfl
  simp only
  split
  · split
    · exact .inl rfl
    split
    · exact .inr rfl
    · exact .inl rfl
  · exact .inl rfl

theorem TableWithin.insertSession (within : TableWithin ceiling limitOf table)
    (room : Room ceiling limitOf session table) :
    TableWithin ceiling limitOf (table.insertSession session).2 := by
  rcases rows_insertSession table session with same | inserted
  · simp only [TableWithin, PostgresSessionStore.countOccupying, PostgresSessionStore.countOwner,
      same] at within ⊢
    exact within
  · obtain ⟨total, perOwner⟩ := within
    simp only [Room, PostgresSessionStore.countOccupying, PostgresSessionStore.countOwner]
      at room total perOwner
    constructor
    · simp only [PostgresSessionStore.countOccupying, inserted, List.countP_append,
        List.countP_singleton]
      split
      · rename_i occupies
        have free := (room occupies).1
        omega
      · exact total
    · intro ownerUserId
      simp only [PostgresSessionStore.countOwner, inserted, List.countP_append,
        List.countP_singleton]
      split
      · rename_i counted
        simp only [Bool.and_eq_true, Option.isSome_some, true_and, beq_iff_eq] at counted
        have free := (room counted.1).2 ownerUserId counted.2
        omega
      · exact perOwner ownerUserId

theorem TableWithin.createWithinLimits {limits : CapacityLimits}
    (within : TableWithin ceiling limitOf table)
    (kept : tableWithinCall ceiling limitOf table (.createWithinLimits session limits) = true) :
    TableWithin ceiling limitOf (table.createWithinLimits session limits).2 := by
  unfold PostgresSessionStore.createWithinLimits
  split
  · exact within
  simp only
  split
  · exact within
  · rename_i admitted
    have next := within.insertSession (room_of_admitted kept admitted)
    split
    · rename_i inserted
      rw [inserted] at next
      exact next
    · rename_i inserted
      rw [inserted] at next
      exact next

/-- Every other call gives nobody a slot. -/
theorem fewer_statement {call : StoreCall} (kept : tableWithinCall ceiling limitOf table call = true)
    (other : ∀ session limits, call ≠ .createWithinLimits session limits) :
    Fewer table (postgresStore.step table call).2 := by
  cases call with
  | createWithinLimits session limits => exact absurd rfl (other session limits)
  | update sessionId patch => exact fewer_update kept
  | transition sessionId source target patch guard =>
      exact fewer_transition (List.contains_iff_mem.mp kept)
  | touchActivity sessionId atTime => exact fewer_touchActivity sessionId atTime
  | delete sessionId => exact fewer_delete sessionId
  | _ => exact Fewer.refl table

end Table

/-! ### Every sequence of calls -/

section Runs

variable {ceiling : Nat} {limitOf : String → Nat}

theorem within_step {store : InMemorySessionStore} {call : StoreCall}
    (within : Within ceiling limitOf store) (kept : WithinCall ceiling limitOf store call) :
    Within ceiling limitOf (memoryStore.step store call).2 := by
  unfold WithinCall at kept
  cases call with
  | createWithinLimits session limits =>
      obtain ⟨shared, limited⟩ := shares_of_withinCall kept
      exact within_createWithinLimits within shared limited
  | update sessionId patch =>
      simp only [InMemorySessionStore.update]
      split
      · exact within
      · rename_i current found
        apply within_patchRow within
        intro row isRow occupying
        apply holds_slot_of_withinCall kept
        · rw [isRow, Option.map_some]
        · exact occupying
  | transition sessionId source target patch guard =>
      exact within_transition within (holds_slot_of_listed _ (List.contains_iff_mem.mp kept))
  | touchActivity sessionId atTime => exact within_touchActivity within
  | delete sessionId => exact within_delete within
  | _ => exact within

/-- The table is within the ceilings, and what the lock's holder has counted still has room. -/
def SharedWithin (ceiling : Nat) (limitOf : String → Nat) (db : SharedDatabase) : Prop :=
  TableWithin ceiling limitOf db.table ∧
    ∀ session, db.admitting = some session → Room ceiling limitOf session db.table

variable {db : SharedDatabase}

theorem SharedWithin.count {session : LabSession} {limits : CapacityLimits}
    (within : SharedWithin ceiling limitOf db)
    (kept : tableWithinCall ceiling limitOf db.table (.createWithinLimits session limits) = true) :
    SharedWithin ceiling limitOf (db.count session limits).2 := by
  unfold SharedDatabase.count
  split
  · exact within
  split
  · exact within
  simp only
  split
  · exact within
  · rename_i admitted
    constructor
    · exact within.1
    · intro other isOther
      cases isOther
      exact room_of_admitted kept admitted

theorem SharedWithin.insert (within : SharedWithin ceiling limitOf db) :
    SharedWithin ceiling limitOf db.insert.2 := by
  unfold SharedDatabase.insert
  split
  · exact within
  · rename_i session holder
    constructor
    · exact within.1.insertSession (within.2 session holder)
    · intro other impossible
      cases impossible

theorem SharedWithin.statement {call : StoreCall} (within : SharedWithin ceiling limitOf db)
    (kept : tableWithinCall ceiling limitOf db.table call = true) :
    SharedWithin ceiling limitOf (db.statement call).2 := by
  unfold SharedDatabase.statement
  split
  · exact within
  · rename_i call _ _ free
    by_cases admission : ∃ session limits, call = .createWithinLimits session limits
    · obtain ⟨session, limits, rfl⟩ := admission
      constructor
      · exact within.1.createWithinLimits kept
      · intro other isOther
        exact (free session limits other rfl isOther).elim
    · have other : ∀ session limits, call ≠ .createWithinLimits session limits :=
        fun session limits isAdmission => admission ⟨session, limits, isAdmission⟩
      have fewer := fewer_statement kept other
      constructor
      · exact within.1.fewer fewer
      · intro session holder
        exact (within.2 session holder).fewer fewer

theorem SharedWithin.step {call : SharedCall} (within : SharedWithin ceiling limitOf db)
    (kept : SharedWithinCall ceiling limitOf db call) :
    SharedWithin ceiling limitOf (sharedDatabase.step db call).2 := by
  cases call with
  | count session limits => exact within.count kept
  | insert => exact within.insert
  | abort =>
      constructor
      · exact within.1
      · intro other impossible
        cases impossible
  | statement call => exact within.statement kept

theorem sharedWithin_migrated (users : List String) :
    SharedWithin ceiling limitOf ⟨PostgresSessionStore.migrated users, none⟩ := by
  constructor
  · exact ⟨Nat.zero_le _, fun _ => Nat.zero_le _⟩
  · intro other impossible
    cases impossible

end Runs

/-- Whatever the instances call, as long as starts share the ceilings and no update gives a finished
    row its slot back, both stores stay within them; managers and reapers only ever issue the listed
    transitions, and none of these moves a row from a status without a slot to one that holds one. -/
theorem capacity_ceiling (ceiling : Nat) (limitOf : String → Nat) :
    (∀ calls, memoryStore.Admits (WithinCall ceiling limitOf) InMemorySessionStore.empty calls →
        Within ceiling limitOf (memoryStore.after InMemorySessionStore.empty calls)) ∧
      (∀ users calls,
        sharedDatabase.Admits (SharedWithinCall ceiling limitOf)
            ⟨PostgresSessionStore.migrated users, none⟩ calls →
          TableWithin ceiling limitOf
            (sharedDatabase.after ⟨PostgresSessionStore.migrated users, none⟩ calls).table) ∧
      (∀ clock config thread sessionId source target patch guard,
        Reaches anyMove (boot clock) config →
          config.pending thread = some (.transition sessionId source target patch guard) →
            (source, target) ∈ managerTransitions) ∧
      (∀ pair ∈ managerTransitions, ∀ status ∈ pair.1,
        occupiesCapacity pair.2 = true → occupiesCapacity status = true) ∧
      ∀ clock config, Reaches (StartsWithin ceiling limitOf) (boot clock) config →
        Within ceiling limitOf config.world.store := by
  refine ⟨?_, ?_, ?_, holds_slot_of_listed, ?_⟩
  · intro calls admits
    apply Object.after_keeps (Within ceiling limitOf) _ (within_empty ceiling limitOf) admits
    intro store call within kept
    exact within_step within kept
  · intro users calls admits
    have within : SharedWithin ceiling limitOf
        (sharedDatabase.after ⟨PostgresSessionStore.migrated users, none⟩ calls) := by
      apply Object.after_keeps (SharedWithin ceiling limitOf) _ (sharedWithin_migrated users) admits
      intro db call within kept
      exact within.step kept
    exact within.1
  · intro clock config thread sessionId source target patch guard run pending
    obtain ⟨op, _, issued⟩ := issued_when_pending run pending
    exact issued.listed
  · intro clock config run
    exact within_of_reaches (fun _ _ starts => starts) run

/-- Another Linux lab's session. -/
def otherSession (ownerUserId : Option String) (digits : String) : LabSession :=
  { containerSession with
    sessionId := "sess-" ++ digits
    sandboxRef := "jtt-lab-" ++ digits
    namespaceName := "lab-" ++ digits
    ownerUserId := ownerUserId }

/-- The second of two starts has counted when the first fails; a third waits for the lock until the
    second has inserted, and then takes the slot that was freed. -/
def admissionAcrossFailure : List SharedCall :=
  [ .statement (.createWithinLimits containerSession ⟨2, some 1⟩),
    .count (otherSession none "7d40aa01") ⟨2, some 1⟩,
    .statement (.transition "sess-3f9c1a7b" [.creating] .failed { statusReason := some "no image" } {}),
    .count (otherSession (some labStudent) "7d40aa02") ⟨2, some 1⟩,
    .statement (.update "sess-3f9c1a7b" { environmentId := some "box-1" }),
    .insert,
    .count (otherSession (some labStudent) "7d40aa02") ⟨2, some 1⟩,
    .insert ]

theorem capacity_ceiling_admissionAcrossFailure :
    sharedDatabase.Admits (SharedWithinCall 2 fun _ => 1)
        ⟨PostgresSessionStore.migrated [labStudent], none⟩ admissionAcrossFailure ∧
      TableWithin 2 (fun _ => 1)
        (sharedDatabase.after ⟨PostgresSessionStore.migrated [labStudent], none⟩
          admissionAcrossFailure).table ∧
      (sharedDatabase.after ⟨PostgresSessionStore.migrated [labStudent], none⟩
        admissionAcrossFailure).table.countOccupying = 2 := by
  have admits : sharedDatabase.Admits (SharedWithinCall 2 fun _ => 1)
      ⟨PostgresSessionStore.migrated [labStudent], none⟩ admissionAcrossFailure := by
    decide
  refine ⟨admits, (capacity_ceiling 2 fun _ => 1).2.1 _ _ admits, ?_⟩
  decide

/-- A failed start, another in its place, and an update that calls the first one ACTIVE. -/
def revivingUpdate : List StoreCall :=
  [ .createWithinLimits containerSession ⟨1, some 1⟩,
    .transition "sess-3f9c1a7b" [.creating] .failed { statusReason := some "no image" } {},
    .createWithinLimits (otherSession (some labStudent) "7d40aa02") ⟨1, some 1⟩,
    .update "sess-3f9c1a7b" { status := some .active } ]

/-- `update` writes any status: two sessions under a ceiling of one, in both stores. -/
theorem update_exceeds_ceiling :
    ¬ Within 1 (fun _ => 1) (memoryStore.after InMemorySessionStore.empty revivingUpdate) ∧
      ¬ TableWithin 1 (fun _ => 1)
        (postgresStore.after (PostgresSessionStore.migrated [labStudent]) revivingUpdate) := by
  have inMemory : (memoryStore.after InMemorySessionStore.empty revivingUpdate).countOccupying = 2 := by
    decide
  have inTable : (postgresStore.after (PostgresSessionStore.migrated [labStudent])
      revivingUpdate).countOccupying = 2 := by
    decide
  constructor
  · intro within
    have total := within.1
    omega
  · intro within
    have total := within.1
    omega

end JumptotechLabs.Session
