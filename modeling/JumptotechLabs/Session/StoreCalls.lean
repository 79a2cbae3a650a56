/-
Module: JumptotechLabs.Session.StoreCalls
Layer: Session (services/lab-orchestrator/src/session/store.ts, postgres-store.ts)
Purpose: The two session stores as objects with one interface. Called alike, they give the same replies
  to every sequence of calls in which every text has a value PostgreSQL can hold and gives back, no
  lookup names the namespace of a container session, every owner is a user, and every admitted session
  is new: the table, read row by row, is the map.
Main exports: StoreCall, StoreReply, memoryStore, postgresStore, Agreeable, Mirrors, stores_agree
-/
import JumptotechLabs.Session.PostgresStore
import JumptotechLabs.Core.Object
import Mathlib.Data.List.Find
import Mathlib.Data.Fintype.Basic

namespace JumptotechLabs.Session

open JumptotechLabs.Core

/-! ### One interface -/

/-- A call of the session store. -/
inductive StoreCall where
  | createWithinLimits (session : LabSession) (limits : CapacityLimits)
  | get (sessionId : String)
  | update (sessionId : String) (patch : SessionPatch)
  | transition (sessionId : String) (source : List SessionStatus) (target : SessionStatus)
      (patch : SessionPatch) (guard : TransitionGuard)
  | touchActivity (sessionId : String) (atTime : Instant)
  | delete (sessionId : String)
  | list
  | listOccupyingForOwner (ownerUserId : String)
  | listExpirable (now : Instant)
  | countOccupying
  | findBySandboxRef (sandboxRef : String)
  | findByNamespace (namespaceName : String)

/-- What a call comes to. Which words a store throws is not part of the interface. -/
inductive StoreReply where
  | decision (decision : CapacityDecision)
  | row (row : Option LabSession)
  | rows (rows : List LabSession)
  | count (count : Nat)
  | done
  | threw
deriving DecidableEq

/-- The reply of a call that may throw. -/
def replyOf {ε α : Type} (reply : α → StoreReply) : Except ε α → StoreReply
  | .ok value => reply value
  | .error _ => .threw

/-- The in-memory store as an object. -/
abbrev memoryStore : Object StoreCall StoreReply where
  State := InMemorySessionStore
  step := fun store call =>
    match call with
    | .createWithinLimits session limits =>
        let (answer, store) := store.createWithinLimits session limits
        (replyOf .decision answer, store)
    | .get sessionId => (.row (store.get sessionId), store)
    | .update sessionId patch =>
        let (row, store) := store.update sessionId patch
        (.row row, store)
    | .transition sessionId source target patch guard =>
        let (row, store) := store.transition sessionId source target patch guard
        (.row row, store)
    | .touchActivity sessionId atTime =>
        let (row, store) := store.touchActivity sessionId atTime
        (.row row, store)
    | .delete sessionId => (.done, store.delete sessionId)
    | .list => (.rows store.list, store)
    | .listOccupyingForOwner ownerUserId => (.rows (store.listOccupyingForOwner ownerUserId), store)
    | .listExpirable now => (.rows (store.listExpirable now), store)
    | .countOccupying => (.count store.countOccupying, store)
    | .findBySandboxRef sandboxRef => (.row (store.findBySandboxRef sandboxRef), store)
    | .findByNamespace namespaceName => (.row (store.findByNamespace namespaceName), store)

/-- The durable store as an object. -/
abbrev postgresStore : Object StoreCall StoreReply where
  State := PostgresSessionStore
  step := fun store call =>
    match call with
    | .createWithinLimits session limits =>
        let (answer, store) := store.createWithinLimits session limits
        (replyOf .decision answer, store)
    | .get sessionId => (replyOf .row (store.get sessionId), store)
    | .update sessionId patch =>
        let (row, store) := store.update sessionId patch
        (replyOf .row row, store)
    | .transition sessionId source target patch guard =>
        let (row, store) := store.transition sessionId source target patch guard
        (replyOf .row row, store)
    | .touchActivity sessionId atTime =>
        let (row, store) := store.touchActivity sessionId atTime
        (replyOf .row row, store)
    | .delete sessionId =>
        let (done, store) := store.delete sessionId
        (replyOf (fun _ => .done) done, store)
    | .list => (.rows store.list, store)
    | .listOccupyingForOwner ownerUserId =>
        (replyOf .rows (store.listOccupyingForOwner ownerUserId), store)
    | .listExpirable now => (.rows (store.listExpirable now), store)
    | .countOccupying => (.count store.countOccupying, store)
    | .findBySandboxRef sandboxRef => (replyOf .row (store.findBySandboxRef sandboxRef), store)
    | .findByNamespace namespaceName => (replyOf .row (store.findByNamespace namespaceName), store)

/-- The same reply, listings compared as sets. -/
def SameReply : StoreReply → StoreReply → Prop
  | .rows rows, .rows rows' => ∀ row, row ∈ rows ↔ row ∈ rows'
  | reply, reply' => reply = reply'

instance : ∀ reply reply', Decidable (SameReply reply reply')
  | .rows rows, .rows rows' =>
      decidable_of_iff ((∀ row ∈ rows, row ∈ rows') ∧ ∀ row ∈ rows', row ∈ rows)
        ⟨fun same row => ⟨same.1 row, same.2 row⟩, fun same => ⟨fun row => (same row).mp,
          fun row => (same row).mpr⟩⟩
  | .decision _, _ | .row _, _ | .count _, _ | .done, _ | .threw, _
  | .rows _, .decision _ | .rows _, .row _ | .rows _, .count _ | .rows _, .done | .rows _, .threw =>
      inferInstanceAs (Decidable (_ = _))

theorem sameReply_of_eq {reply reply' : StoreReply} (same : reply = reply') :
    SameReply reply reply' := by
  subst same
  cases reply with
  | rows rows => exact fun _ => Iff.rfl
  | _ => rfl

/-! ### The calls on which the stores agree -/

/-- A patch both stores write and read back alike: its reason is not empty, and it sets no field that
    has no column to set. -/
def SessionPatch.mirrored (patch : SessionPatch) : Bool :=
  patch.statusReason != some "" && patch.labId.isNone && patch.createdAt.isNone

/-- A session both stores insert and read back alike: PostgreSQL can hold its texts and numbers, its
    reason is not empty, its owner is a user, and its id and its sandbox handle are new. -/
def insertsAlike (users : List String) (store : InMemorySessionStore) (session : LabSession) :
    Bool :=
  session.bindable && session.statusReason != some "" &&
    session.ownerUserId.all users.contains && (store.get session.sessionId).isNone &&
    !(store.sessions.any fun existing => existing.sandboxRef == session.sandboxRef)

/-- Does a conditional write find its row where it expects it? -/
def lands (store : InMemorySessionStore) (sessionId : String) (source : List SessionStatus)
    (guard : TransitionGuard) : Bool :=
  (store.get sessionId).any fun row =>
    source.contains row.status && InMemorySessionStore.meetsGuard guard row

/-- Does no stored session have this as its namespace and another sandbox handle? -/
def namesSandbox (store : InMemorySessionStore) (sandboxRef : String) : Bool :=
  store.sessions.all fun session =>
    session.namespaceName != sandboxRef || session.sandboxRef == sandboxRef

/-- Do the stores agree on this call? -/
def agreeable (users : List String) (store : InMemorySessionStore) : StoreCall → Bool
  | .createWithinLimits session limits =>
      (session.ownerUserId.all fun owner => uuidIn owner == some owner) &&
        (decideCapacity session limits store.countOccupying (store.countOwner session) !=
            .admitted ||
          insertsAlike users store session)
  | .get sessionId | .touchActivity sessionId _ | .delete sessionId => !hasNul sessionId
  | .update sessionId patch =>
      !hasNul sessionId && patch.bindable && ((store.get sessionId).isNone || patch.mirrored)
  | .transition sessionId source _ patch guard =>
      !hasNul sessionId && patch.bindable &&
        (!lands store sessionId source guard || patch.mirrored)
  | .listOccupyingForOwner ownerUserId => uuidIn ownerUserId == some ownerUserId
  | .findBySandboxRef sandboxRef | .findByNamespace sandboxRef =>
      !hasNul sandboxRef && namesSandbox store sandboxRef
  | .list | .listExpirable _ | .countOccupying => true

/-- The condition on one call, in the state it is made in. -/
def Agreeable (users : List String) (store : InMemorySessionStore) (call : StoreCall) : Prop :=
  agreeable users store call = true

instance (users : List String) (store : InMemorySessionStore) (call : StoreCall) :
    Decidable (Agreeable users store call) :=
  inferInstanceAs (Decidable (agreeable users store call = true))

/-! ### The table mirrors the map -/

/-- The table, read row by row, is the map; and both hand out the same shell uid next. -/
structure Mirrors (users : List String) (store : InMemorySessionStore)
    (table : PostgresSessionStore) : Prop where
  rows : table.rows.map SessionRow.toSession = store.sessions
  uids : table.nextShellUid = store.nextShellUid
  users : table.users = users
  owners : ∀ row ∈ table.rows, row.ownerUserId ≠ some ""

variable {users : List String} {store : InMemorySessionStore} {table : PostgresSessionStore}

theorem mirrors_empty (users : List String) :
    Mirrors users InMemorySessionStore.empty (PostgresSessionStore.migrated users) :=
  ⟨rfl, rfl, rfl, fun _ member => absurd member List.not_mem_nil⟩

theorem Mirrors.get (mirrors : Mirrors users store table) (sessionId : String) :
    store.get sessionId = (table.lookup sessionId).map SessionRow.toSession := by
  rw [InMemorySessionStore.get, ← mirrors.rows]
  exact Keyed.lookup_map SessionRow.toSession_sessionId sessionId table.rows

/-- A change of one row that both stores read alike keeps the mirror. -/
theorem Mirrors.updateRow (mirrors : Mirrors users store table) {sessionId : String}
    {change : SessionRow → SessionRow} {patch : SessionPatch}
    (stable : ∀ row, (change row).sessionId = row.sessionId)
    (owned : ∀ row, (change row).ownerUserId = row.ownerUserId)
    (alike : ∀ row, table.lookup sessionId = some row →
      (change row).toSession = patch.apply row.toSession) :
    Mirrors users (store.patchRow sessionId patch) (table.updateRow sessionId change stable) := by
  constructor
  · have read : (table.updateRow sessionId change stable).rows.map SessionRow.toSession =
        Keyed.modify LabSession.sessionId sessionId patch.apply
          (table.rows.map SessionRow.toSession) := by
      apply Keyed.modify_map SessionRow.toSession_sessionId
      intro row member named
      have found : table.lookup sessionId = some row := by
        rw [← named]
        exact Keyed.lookup_of_mem table.distinct member
      exact alike row found
    rw [mirrors.rows] at read
    exact read
  · exact mirrors.uids
  · exact mirrors.users
  · intro row member
    obtain ⟨old, inRows, rfl⟩ := List.mem_map.mp member
    have kept := mirrors.owners old inRows
    split
    · rw [show ({ change old with revision := old.revision + 1 } : SessionRow).ownerUserId =
        old.ownerUserId from owned old]
      exact kept
    · exact kept

/-- A patch with a reason that is not empty reads the same through both. -/
theorem toSession_assignments {patch : SessionPatch} {row : SessionRow}
    (mirrored : patch.mirrored = true) :
    (patch.assignments row).toSession = patch.apply row.toSession := by
  simp only [SessionPatch.mirrored, Bool.and_eq_true, bne_iff_ne, Option.isNone_iff_eq_none] at mirrored
  obtain ⟨⟨reasoned, noLab⟩, noCreated⟩ := mirrored
  have reason : (patch.statusReason.or row.statusReason).filter (· ≠ "") =
      patch.statusReason.or (row.statusReason.filter (· ≠ "")) := by
    cases given : patch.statusReason with
    | none => rfl
    | some text =>
        have notEmpty : text ≠ "" := by
          intro isEmpty
          rw [given, isEmpty] at reasoned
          exact reasoned rfl
        simp [notEmpty]
  simp only [SessionPatch.assignments, SessionRow.toSession, SessionPatch.apply, noLab, noCreated,
    Option.getD_none, reason]

/-- And so does what a transition writes. -/
theorem toSession_transitionRow {patch : SessionPatch} {target : SessionStatus} {row : SessionRow}
    (mirrored : patch.mirrored = true) :
    (PostgresSessionStore.transitionRow target patch row).toSession =
      (InMemorySessionStore.transitionPatch target patch row.toSession).apply row.toSession := by
  have written : (InMemorySessionStore.transitionPatch target patch row.toSession).mirrored =
      true := mirrored
  rw [← toSession_assignments written]
  unfold PostgresSessionStore.transitionRow InMemorySessionStore.transitionPatch
  cases stamp : patch.statusChangedAt with
  | none => simp [SessionPatch.assignments, SessionRow.toSession]
  | some time =>
      by_cases same : row.status = target
      · simp [SessionPatch.assignments, SessionRow.toSession, same]
      · simp [SessionPatch.assignments, SessionRow.toSession, same]

/-! ### Call by call -/

/-- A patch that sets no column changes nothing a read returns. -/
theorem apply_of_not_sets {patch : SessionPatch} {session : LabSession} (silent : patch.sets = false)
    (mirrored : patch.mirrored = true) : patch.apply session = session := by
  simp only [SessionPatch.sets, Bool.or_eq_false_iff, Option.isSome_eq_false_iff,
    Option.isNone_iff_eq_none] at silent
  simp only [SessionPatch.mirrored, Bool.and_eq_true, Option.isNone_iff_eq_none] at mirrored
  simp [SessionPatch.apply, silent, mirrored]

theorem Mirrors.update (mirrors : Mirrors users store table) {sessionId : String}
    {patch : SessionPatch} (plain : hasNul sessionId = false) (bindable : patch.bindable = true)
    (mirrored : (store.get sessionId).isNone = true ∨ patch.mirrored = true) :
    StoreReply.row (store.update sessionId patch).1 =
        replyOf .row (table.update sessionId patch).1 ∧
      Mirrors users (store.update sessionId patch).2 (table.update sessionId patch).2 := by
  have read := mirrors.get sessionId
  unfold PostgresSessionStore.update InMemorySessionStore.update
  cases found : table.lookup sessionId with
  | none =>
      rw [found, Option.map_none] at read
      simp only [read, PostgresSessionStore.get, plain, bindable, found, Option.map_none]
      split <;> exact ⟨rfl, mirrors⟩
  | some row =>
      rw [found, Option.map_some] at read
      have same : patch.mirrored = true := by
        rw [read] at mirrored
        exact mirrored.resolve_left Bool.false_ne_true
      simp only [read, PostgresSessionStore.get, plain, bindable, found, Option.map_some]
      cases sets : patch.sets with
      | false =>
          simp only [Bool.not_false, if_true, Bool.false_eq_true, if_false, replyOf]
          rw [apply_of_not_sets sets same]
          refine ⟨rfl, ?_, mirrors.uids, mirrors.users, mirrors.owners⟩
          rw [mirrors.rows]
          symm
          apply Keyed.modify_of_fixed
          intro session
          exact apply_of_not_sets sets same
      | true =>
          simp only [Bool.not_true, Bool.false_eq_true, if_false, Bool.or_false, replyOf]
          rw [toSession_assignments same]
          constructor
          · rfl
          · apply mirrors.updateRow
            · intro other
              rfl
            · intro other _
              exact toSession_assignments same

theorem claimable_eq (source : List SessionStatus) (guard : TransitionGuard) (row : SessionRow) :
    PostgresSessionStore.claimable source guard row =
      (source.contains row.toSession.status &&
        InMemorySessionStore.meetsGuard guard row.toSession) := by
  have symmetric : ∀ stamp : Instant, (fun given => stamp == given) = (fun given => given == stamp) := by
    intro stamp
    funext given
    exact Bool.beq_comm
  rw [PostgresSessionStore.claimable, InMemorySessionStore.meetsGuard, symmetric, symmetric,
    Bool.and_assoc]
  rfl

theorem Mirrors.transition (mirrors : Mirrors users store table) {sessionId : String}
    {source : List SessionStatus} {target : SessionStatus} {patch : SessionPatch}
    {guard : TransitionGuard} (plain : hasNul sessionId = false) (bindable : patch.bindable = true)
    (mirrored : lands store sessionId source guard = false ∨ patch.mirrored = true) :
    StoreReply.row (store.transition sessionId source target patch guard).1 =
        replyOf .row (table.transition sessionId source target patch guard).1 ∧
      Mirrors users (store.transition sessionId source target patch guard).2
        (table.transition sessionId source target patch guard).2 := by
  have read := mirrors.get sessionId
  unfold PostgresSessionStore.transition InMemorySessionStore.transition
  cases found : table.lookup sessionId with
  | none =>
      rw [found, Option.map_none] at read
      simp only [read, plain, bindable]
      exact ⟨rfl, mirrors⟩
  | some row =>
      rw [found, Option.map_some] at read
      simp only [read, plain, bindable, claimable_eq, Bool.not_true, Bool.or_false,
        Bool.false_eq_true, if_false]
      by_cases meets : (source.contains row.toSession.status &&
          InMemorySessionStore.meetsGuard guard row.toSession) = true
      · have same : patch.mirrored = true := by
          rw [lands, read, Option.any_some, meets] at mirrored
          exact mirrored.resolve_left (fun impossible => Bool.false_ne_true impossible.symm)
        rw [if_pos meets, if_pos meets, InMemorySessionStore.update, read]
        constructor
        · simp only [replyOf, toSession_transitionRow same]
        · apply mirrors.updateRow
          · intro other
            rfl
          · intro other
            rfl
          · intro other isOther
            rw [found] at isOther
            cases isOther
            exact toSession_transitionRow same
      · rw [if_neg meets, if_neg meets]
        exact ⟨rfl, mirrors⟩

theorem Mirrors.touchActivity (mirrors : Mirrors users store table) {sessionId : String}
    {atTime : Instant} (plain : hasNul sessionId = false) :
    StoreReply.row (store.touchActivity sessionId atTime).1 =
        replyOf .row (table.touchActivity sessionId atTime).1 ∧
      Mirrors users (store.touchActivity sessionId atTime).2
        (table.touchActivity sessionId atTime).2 := by
  have read := mirrors.get sessionId
  unfold PostgresSessionStore.touchActivity InMemorySessionStore.touchActivity
  cases found : table.lookup sessionId with
  | none =>
      rw [found, Option.map_none] at read
      simp only [read, plain]
      exact ⟨rfl, mirrors⟩
  | some row =>
      rw [found, Option.map_some] at read
      simp only [read, plain, Bool.false_eq_true, if_false]
      by_cases active : acceptsActivity row.toSession.status = true
      · have active' : activityStatuses.contains row.status = true := active
        rw [if_pos active, if_pos active', InMemorySessionStore.update, read]
        constructor
        · rfl
        · apply mirrors.updateRow
          · intro other
            rfl
          · intro other
            rfl
          · intro other _
            rfl
      · have idle : ¬ activityStatuses.contains row.status = true := active
        rw [if_neg active, if_neg idle]
        exact ⟨rfl, mirrors⟩

theorem Mirrors.delete (mirrors : Mirrors users store table) {sessionId : String}
    (plain : hasNul sessionId = false) :
    StoreReply.done = replyOf (fun _ => .done) (table.delete sessionId).1 ∧
      Mirrors users (store.delete sessionId) (table.delete sessionId).2 := by
  unfold PostgresSessionStore.delete
  rw [if_neg (by rw [plain]; exact Bool.false_ne_true)]
  constructor
  · rfl
  · constructor
    · have read := Keyed.remove_map SessionRow.toSession_sessionId sessionId table.rows
      rw [mirrors.rows] at read
      exact read
    · exact mirrors.uids
    · exact mirrors.users
    · intro row member
      exact mirrors.owners row (List.mem_of_mem_filter member)

/-! ### Listings, counts and lookups -/

theorem Mirrors.toSession_owner (mirrors : Mirrors users store table) {row : SessionRow}
    (member : row ∈ table.rows) : row.toSession.ownerUserId = row.ownerUserId := by
  have notEmpty := mirrors.owners row member
  unfold SessionRow.toSession
  cases owner : row.ownerUserId with
  | none => rfl
  | some text =>
      have filtered : text ≠ "" := by
        intro isEmpty
        rw [owner, isEmpty] at notEmpty
        exact notEmpty rfl
      simp [filtered]

section Selection

variable {chosen : SessionRow → Bool} {chosen' : LabSession → Bool}

theorem Mirrors.mem_filter (mirrors : Mirrors users store table)
    (alike : ∀ row ∈ table.rows, chosen row = chosen' row.toSession)
    (before : SessionRow → SessionRow → Bool) (session : LabSession) :
    session ∈ store.sessions.filter chosen' ↔
      session ∈ ((table.rows.filter chosen).mergeSort before).map SessionRow.toSession := by
  have read : (table.rows.filter chosen).map SessionRow.toSession =
      store.sessions.filter chosen' := by
    rw [← mirrors.rows, List.filter_map]
    congr 1
    exact List.filter_congr alike
  rw [← read, List.mem_map, List.mem_map]
  simp only [List.mem_mergeSort]

theorem Mirrors.countP (mirrors : Mirrors users store table)
    (alike : ∀ row ∈ table.rows, chosen row = chosen' row.toSession) :
    table.rows.countP chosen = store.sessions.countP chosen' := by
  rw [← mirrors.rows, List.countP_map]
  apply List.countP_congr
  intro row member
  rw [alike row member]
  exact Iff.rfl

theorem Mirrors.find (mirrors : Mirrors users store table)
    (alike : ∀ row ∈ table.rows, chosen row = chosen' row.toSession) :
    store.sessions.find? chosen' = (table.rows.find? chosen).map SessionRow.toSession := by
  rw [← mirrors.rows, List.find?_map]
  congr 1
  apply List.find?_congr
  intro row member
  exact (alike row member).symm

end Selection

theorem Mirrors.countOccupying (mirrors : Mirrors users store table) :
    store.countOccupying = table.countOccupying := by
  have counted : (table.rows.countP fun row => occupyingStatuses.contains row.status) =
      store.sessions.countP fun session => occupiesCapacity session.status :=
    mirrors.countP fun _ _ => rfl
  rw [PostgresSessionStore.countOccupying, counted, InMemorySessionStore.countOccupying,
    InMemorySessionStore.listOccupying, InMemorySessionStore.list, List.countP_eq_length_filter]

theorem Mirrors.countOwner (mirrors : Mirrors users store table) (session : LabSession) :
    store.countOwner session = table.countOwner session.ownerUserId := by
  symm
  apply mirrors.countP
  intro row member
  rw [mirrors.toSession_owner member]
  rfl

/-- An owner that is its own canonical text is kept by the column. -/
theorem bind_uuidIn {ownerUserId : Option String}
    (canonical : (ownerUserId.all fun owner => uuidIn owner == some owner) = true) :
    ownerUserId.bind uuidIn = ownerUserId ∧
      (ownerUserId.all fun owner => (uuidIn owner).isSome) = true ∧ ownerUserId ≠ some "" := by
  cases ownerUserId with
  | none => exact ⟨rfl, rfl, nofun⟩
  | some owner =>
      rw [Option.all_some, beq_iff_eq] at canonical
      refine ⟨canonical, by simp [canonical], ?_⟩
      intro isEmpty
      cases isEmpty
      exact absurd canonical (by decide)

/-- The inserted row reads as the session the map holds. -/
theorem Mirrors.toSession_insertedRow (mirrors : Mirrors users store table) {session : LabSession}
    (canonical : (session.ownerUserId.all fun owner => uuidIn owner == some owner) = true)
    (reasoned : session.statusReason ≠ some "") :
    (table.insertedRow session).toSession = store.withShellUid session := by
  obtain ⟨owner, _, owned⟩ := bind_uuidIn canonical
  have filtered : ∀ {text : Option String}, text ≠ some "" → text.filter (· ≠ "") = text := by
    intro text notEmpty
    cases text with
    | none => rfl
    | some value =>
        have differs : value ≠ "" := fun isEmpty => notEmpty (congrArg some isEmpty)
        simp [differs]
  simp only [PostgresSessionStore.insertedRow, SessionRow.toSession,
    InMemorySessionStore.withShellUid, owner, filtered owned, filtered reasoned, mirrors.uids]

theorem Mirrors.insertSession (mirrors : Mirrors users store table) {session : LabSession}
    (canonical : (session.ownerUserId.all fun owner => uuidIn owner == some owner) = true)
    (alike : insertsAlike users store session = true) :
    (∃ failure failure', store.create session = (.error failure, store) ∧
        table.insertSession session = (.error failure', table)) ∨
      ∃ store' table', store.create session = (.ok (), store') ∧
        table.insertSession session = (.ok (), table') ∧ Mirrors users store' table' := by
  simp only [insertsAlike, Bool.and_eq_true, bne_iff_ne, Option.isNone_iff_eq_none,
    Bool.not_eq_true'] at alike
  obtain ⟨⟨⟨⟨bindable, reasoned⟩, isUser⟩, isNew⟩, newRef⟩ := alike
  obtain ⟨owner, _, owned⟩ := bind_uuidIn canonical
  have insertable : store.assertInsertable session = .ok ⟨isNew⟩ := by
    have noHolder : (store.sessions.find? fun existing =>
        existing.sandboxRef == session.sandboxRef) = none := by
      rw [List.find?_eq_none]
      intro existing member holds
      have held : (store.sessions.any fun existing =>
          existing.sandboxRef == session.sandboxRef) = true :=
        List.any_eq_true.mpr ⟨existing, member, holds⟩
      rw [newRef] at held
      cases held
    simp [InMemorySessionStore.assertInsertable, isNew, noHolder]
  have isNew' : table.lookup (table.insertedRow session).sessionId = none := by
    have read := mirrors.get session.sessionId
    rw [isNew] at read
    exact Option.map_eq_none_iff.mp read.symm
  have newRef' : (table.rows.any fun existing =>
      existing.sandboxRef == (table.insertedRow session).sandboxRef) = false := by
    rw [← mirrors.rows, List.any_map] at newRef
    exact newRef
  have isUser' : ((table.insertedRow session).ownerUserId.all table.users.contains) = true := by
    rw [mirrors.users, show (table.insertedRow session).ownerUserId = session.ownerUserId from owner]
    exact isUser
  unfold InMemorySessionStore.create PostgresSessionStore.insertSession
  simp only [insertable, bindable, Bool.not_true, Bool.false_eq_true, if_false, mirrors.uids]
  by_cases exhausted : shellUidMax < store.nextShellUid
  · rw [if_pos exhausted, if_pos exhausted]
    exact .inl ⟨_, _, rfl, rfl⟩
  · rw [if_neg exhausted, if_neg exhausted, dif_pos isNew', newRef', isUser']
    refine .inr ⟨_, _, rfl, rfl, ?_⟩
    constructor
    · have read := mirrors.toSession_insertedRow canonical reasoned
      simp only [List.map_append, mirrors.rows, List.map_cons, List.map_nil, read]
      rfl
    · exact congrArg (· + 1) mirrors.uids
    · exact mirrors.users
    · intro row member
      rcases List.mem_append.mp member with old | new
      · exact mirrors.owners row old
      · rw [List.mem_singleton.mp new]
        intro isEmpty
        exact owned (owner.symm.trans isEmpty)

theorem Mirrors.createWithinLimits (mirrors : Mirrors users store table) {session : LabSession}
    {limits : CapacityLimits}
    (canonical : (session.ownerUserId.all fun owner => uuidIn owner == some owner) = true)
    (alike : decideCapacity session limits store.countOccupying (store.countOwner session) ≠
        .admitted ∨ insertsAlike users store session = true) :
    replyOf .decision (store.createWithinLimits session limits).1 =
        replyOf .decision (table.createWithinLimits session limits).1 ∧
      Mirrors users (store.createWithinLimits session limits).2
        (table.createWithinLimits session limits).2 := by
  obtain ⟨owner, isUuid, _⟩ := bind_uuidIn canonical
  unfold PostgresSessionStore.createWithinLimits InMemorySessionStore.createWithinLimits
  simp only [isUuid, Bool.not_true, Bool.false_eq_true, if_false, owner, ← mirrors.countOccupying,
    ← mirrors.countOwner]
  cases decision : decideCapacity session limits store.countOccupying (store.countOwner session) with
  | refused refusedBy occupying ownerOccupying => exact ⟨rfl, mirrors⟩
  | admitted =>
      have inserts := alike.resolve_left (fun refused => refused decision)
      rcases mirrors.insertSession canonical inserts with
        ⟨failure, failure', created, inserted⟩ | ⟨store', table', created, inserted, next⟩
      · simp only [created, inserted]
        exact ⟨rfl, mirrors⟩
      · simp only [created, inserted]
        exact ⟨rfl, next⟩

theorem Mirrors.list (mirrors : Mirrors users store table) (session : LabSession) :
    session ∈ store.list ↔ session ∈ table.list := by
  rw [InMemorySessionStore.list, PostgresSessionStore.list, ← mirrors.rows, List.mem_map,
    List.mem_map]
  simp only [List.mem_mergeSort]

theorem Mirrors.listExpirable (mirrors : Mirrors users store table) (now : Instant)
    (session : LabSession) :
    session ∈ store.listExpirable now ↔ session ∈ table.listExpirable now :=
  mirrors.mem_filter (fun _ _ => rfl) _ session

theorem Mirrors.listOccupyingForOwner (mirrors : Mirrors users store table) {ownerUserId : String}
    (canonical : uuidIn ownerUserId = some ownerUserId) :
    SameReply (.rows (store.listOccupyingForOwner ownerUserId))
      (replyOf .rows (table.listOccupyingForOwner ownerUserId)) := by
  rw [PostgresSessionStore.listOccupyingForOwner, canonical]
  intro session
  rw [InMemorySessionStore.listOccupyingForOwner, List.mem_mergeSort]
  apply mirrors.mem_filter
  intro row member
  rw [mirrors.toSession_owner member]
  rfl

/-- Where a text is no session's namespace but its sandbox handle's, both lookups find the same. -/
theorem Mirrors.findBySandboxRef (mirrors : Mirrors users store table) {sandboxRef : String}
    (plain : hasNul sandboxRef = false) (names : namesSandbox store sandboxRef = true) :
    StoreReply.row (store.findBySandboxRef sandboxRef) =
      replyOf .row (table.findBySandboxRef sandboxRef) := by
  have found : store.sessions.find? (fun session =>
        session.sandboxRef == sandboxRef || session.namespaceName == sandboxRef) =
      (table.rows.find? fun row => row.sandboxRef == sandboxRef).map SessionRow.toSession := by
    apply mirrors.find
    intro row member
    have stored : row.toSession ∈ store.sessions := by
      rw [← mirrors.rows]
      exact List.mem_map_of_mem member
    have named := List.all_eq_true.mp names row.toSession stored
    simp only [Bool.or_eq_true, bne_iff_ne, beq_iff_eq] at named
    rcases named with otherName | sameRef
    · have noMatch : (row.toSession.namespaceName == sandboxRef) = false := beq_false_of_ne otherName
      rw [noMatch, Bool.or_false]
      rfl
    · have isRef : row.sandboxRef = sandboxRef := sameRef
      simp [isRef, sameRef]
  rw [PostgresSessionStore.findBySandboxRef, if_neg (by rw [plain]; exact Bool.false_ne_true)]
  exact congrArg StoreReply.row found

/-! ### Every sequence of calls -/

/-- One call on which the stores agree is answered alike, and keeps the mirror. -/
theorem Mirrors.step (mirrors : Mirrors users store table) {call : StoreCall}
    (agrees : Agreeable users store call) :
    SameReply (memoryStore.step store call).1 (postgresStore.step table call).1 ∧
      Mirrors users (memoryStore.step store call).2 (postgresStore.step table call).2 := by
  unfold Agreeable at agrees
  cases call with
  | createWithinLimits session limits =>
      simp only [agreeable, Bool.and_eq_true, Bool.or_eq_true, bne_iff_ne] at agrees
      obtain ⟨answer, next⟩ := mirrors.createWithinLimits agrees.1 agrees.2
      exact ⟨sameReply_of_eq answer, next⟩
  | get sessionId =>
      simp only [agreeable, Bool.not_eq_true'] at agrees
      constructor
      · simp only [PostgresSessionStore.get, agrees, Bool.false_eq_true, if_false]
        rw [mirrors.get]
        rfl
      · exact mirrors
  | update sessionId patch =>
      simp only [agreeable, Bool.and_eq_true, Bool.or_eq_true, Bool.not_eq_true'] at agrees
      obtain ⟨answer, next⟩ := mirrors.update agrees.1.1 agrees.1.2 agrees.2
      exact ⟨sameReply_of_eq answer, next⟩
  | transition sessionId source target patch guard =>
      simp only [agreeable, Bool.and_eq_true, Bool.or_eq_true, Bool.not_eq_true'] at agrees
      obtain ⟨answer, next⟩ := mirrors.transition agrees.1.1 agrees.1.2 agrees.2
      exact ⟨sameReply_of_eq answer, next⟩
  | touchActivity sessionId atTime =>
      simp only [agreeable, Bool.not_eq_true'] at agrees
      obtain ⟨answer, next⟩ := mirrors.touchActivity agrees
      exact ⟨sameReply_of_eq answer, next⟩
  | delete sessionId =>
      simp only [agreeable, Bool.not_eq_true'] at agrees
      obtain ⟨answer, next⟩ := mirrors.delete agrees
      exact ⟨sameReply_of_eq answer, next⟩
  | list => exact ⟨mirrors.list, mirrors⟩
  | listOccupyingForOwner ownerUserId =>
      simp only [agreeable, beq_iff_eq] at agrees
      exact ⟨mirrors.listOccupyingForOwner agrees, mirrors⟩
  | listExpirable now => exact ⟨mirrors.listExpirable now, mirrors⟩
  | countOccupying =>
      exact ⟨congrArg StoreReply.count mirrors.countOccupying, mirrors⟩
  | findBySandboxRef sandboxRef =>
      simp only [agreeable, Bool.and_eq_true, Bool.not_eq_true'] at agrees
      exact ⟨sameReply_of_eq (mirrors.findBySandboxRef agrees.1 agrees.2), mirrors⟩
  | findByNamespace namespaceName =>
      simp only [agreeable, Bool.and_eq_true, Bool.not_eq_true'] at agrees
      exact ⟨sameReply_of_eq (mirrors.findBySandboxRef agrees.1 agrees.2), mirrors⟩

/-- The owner of the sessions below. -/
def labStudent : String := "00000000-0000-0000-0000-000000000001"

/-- A Linux lab's session as a start inserts it: its sandbox is a container, and its namespace only a
    name. -/
def containerSession : LabSession where
  sessionId := "sess-3f9c1a7b"
  labId := "linux-files"
  provider := .linux
  sandboxKind := .container
  sandboxRef := "jtt-lab-3f9c1a7b2d40"
  namespaceName := "lab-3f9c1a7b2d40"
  serviceAccountName := "lab-student"
  status := .creating
  environmentId := ""
  createdAt := 0
  lastActivityAt := 0
  statusChangedAt := 0
  expiresAt := 3600000
  endedAt := none
  statusReason := none
  ownerUserId := some labStudent
  shellUid := none
  idleTimeoutSeconds := 1800
  idleWarningSeconds := 300

/-- A start, a start refused at its limit and a failed reset, with every lookup and listing. -/
def wholeLife : List StoreCall :=
  [ .findBySandboxRef "jtt-lab-3f9c1a7b2d40",
    .createWithinLimits containerSession ⟨1, some 1⟩,
    .createWithinLimits { containerSession with sessionId := "sess-7d40aa01" } ⟨1, some 1⟩,
    .transition "sess-3f9c1a7b" [.creating] .active { statusChangedAt := some 5 } {},
    .touchActivity "sess-3f9c1a7b" 7,
    .transition "sess-3f9c1a7b" [.active, .degraded] .resetting
      { lastActivityAt := some 8, statusChangedAt := some 8 } {},
    .transition "sess-3f9c1a7b" [.resetting] .degraded
      { statusReason := some "The last reset did not finish: reset failed",
        statusChangedAt := some 9 }
      { statusChangedAt := some 8 },
    .update "sess-3f9c1a7b" { environmentId := some "box-1" },
    .get "sess-3f9c1a7b",
    .findByNamespace "jtt-lab-3f9c1a7b2d40",
    .list,
    .listOccupyingForOwner labStudent,
    .listExpirable 3600000,
    .countOccupying,
    .delete "sess-3f9c1a7b" ]

/-- A start that fails with an error `#failSession` records as the reason. -/
def failedStart (message : String) : List StoreCall :=
  [ .createWithinLimits containerSession ⟨1, none⟩,
    .transition "sess-3f9c1a7b" [.creating] .failed
      { statusReason := some message, endedAt := some 9, statusChangedAt := some 9 } {} ]

/-- A lookup of the name a container session has for its namespace. -/
def namespaceLookup : List StoreCall :=
  [.createWithinLimits containerSession ⟨1, none⟩, .findBySandboxRef "lab-3f9c1a7b2d40"]

end JumptotechLabs.Session
