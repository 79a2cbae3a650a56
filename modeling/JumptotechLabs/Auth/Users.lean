/-
Module: JumptotechLabs.Auth.Users
Layer: apps/api/src/auth/users.ts, apps/api/src/auth/identity.ts
Purpose: Accounts. Signing in finds the account of an external identity, or makes one. In every run of either
  repository an identity has one account and an account one identity, for good; and nothing changes the role
  of an account but an administrator, whatever the provider claims.
Main exports: Role, AuthenticatedUser, VerifiedClaims, UserCall, UserReply, Users, InMemoryUserRepository.step,
  PostgresUserRepository.step, UserRepository, Account, Valid, Stepped, account_stays, same_account_iff
-/
import JumptotechLabs.Core.Keyed
import JumptotechLabs.Core.Object

namespace JumptotechLabs.Auth

open JumptotechLabs.Core

/-! ### Users -/

/-- What a user may do. -/
inductive Role where
  | student
  | instructor
  | admin
deriving DecidableEq

/-- Where identities come from. -/
inductive IdentitySource where
  | oidc
  | development
deriving DecidableEq

/-- The permanent identity: issuer and subject. -/
abbrev ExternalIdentity := String × String

/-- A user as the platform knows them. -/
structure AuthenticatedUser where
  userId : String
  issuer : String
  subject : String
  email : Option String
  displayName : Option String
  role : Role
  source : IdentitySource
deriving DecidableEq

/-- What a verified token asserted. -/
structure VerifiedClaims where
  issuer : String
  subject : String
  email : Option String
  displayName : Option String
deriving DecidableEq

/-- The identity of a user. -/
def AuthenticatedUser.identity (user : AuthenticatedUser) : ExternalIdentity := (user.issuer, user.subject)

/-- The identity that was verified. -/
def VerifiedClaims.identity (claims : VerifiedClaims) : ExternalIdentity := (claims.issuer, claims.subject)

/-- A text that is not empty: what JavaScript takes for true. -/
def truthy (text : Option String) : Option String := text.filter (· ≠ "")

/-! ### The repositories -/

/-- A row of `users`, or a user in memory: there the source is the repository's own. -/
structure UserRow where
  userId : String
  issuer : String
  subject : String
  email : Option String
  displayName : Option String
  role : Role
deriving DecidableEq

/-- The identity of a row, which is unique in the table. -/
def UserRow.identity (row : UserRow) : ExternalIdentity := (row.issuer, row.subject)

/-- A call to a repository. The id that `gen_random_uuid` would give a new row is an input. -/
inductive UserCall where
  | upsert (claims : VerifiedClaims) (minted : String)
  | findById (userId : String)
  | setRole (userId : String) (role : Role)
deriving DecidableEq

/-- What a repository answers. -/
inductive UserReply where
  | found (user : AuthenticatedUser)
  | missing
  /-- The primary key of the table fails. -/
  | refused
deriving DecidableEq

/-- What a repository keeps; `next` is used in memory alone. -/
structure Users where
  next : Nat
  rows : List UserRow
deriving DecidableEq

/-- A repository without users. -/
def Users.empty : Users := ⟨0, []⟩

/-- `text.padStart(width, pad)`. -/
def padStart (width : Nat) (pad : Char) (text : String) : String :=
  String.ofList (List.replicate (width - text.length) pad ++ text.toList)

namespace InMemoryUserRepository

/-- The id of a user in memory, from its place in the order of creation. -/
def userIdOf (count : Nat) : String := "usr-" ++ padStart 8 '0' (toString count)

/-- A user in memory, as they are answered with. -/
def user (source : IdentitySource) (row : UserRow) : AuthenticatedUser :=
  ⟨row.userId, row.issuer, row.subject, row.email, row.displayName, row.role, source⟩

/-- A call to the repository in memory. Signing in refreshes what the claims have, and keeps what they leave out. -/
def step (source : IdentitySource) (users : Users) (call : UserCall) : UserReply × Users :=
  match call with
  | .upsert claims _ =>
      match users.rows.find? fun row => row.identity = claims.identity with
      | some row =>
          -- What the claims leave out stays as it was.
          let refreshed := { row with
            email := (truthy claims.email).or row.email
            displayName := (truthy claims.displayName).or row.displayName }
          (.found (user source refreshed), { users with rows := Keyed.put UserRow.userId refreshed users.rows })
      | none =>
          let created := ⟨userIdOf (users.next + 1), claims.issuer, claims.subject, truthy claims.email,
            truthy claims.displayName, .student⟩
          (.found (user source created), ⟨users.next + 1, Keyed.put UserRow.userId created users.rows⟩)
  | .findById userId =>
      match Keyed.lookup UserRow.userId userId users.rows with
      | some row => (.found (user source row), users)
      | none => (.missing, users)
  | .setRole userId role =>
      match Keyed.lookup UserRow.userId userId users.rows with
      | some row =>
          let updated := { row with role := role }
          (.found (user source updated), { users with rows := Keyed.put UserRow.userId updated users.rows })
      | none => (.missing, users)

end InMemoryUserRepository

namespace PostgresUserRepository

/-- `toUser`: a row as it is answered with, its empty texts left out. -/
def toUser (source : IdentitySource) (row : UserRow) : AuthenticatedUser :=
  ⟨row.userId, row.issuer, row.subject, truthy row.email, truthy row.displayName, row.role, source⟩

/-- A call to the durable repository. Signing in is one `INSERT … ON CONFLICT`, which overwrites the claims. -/
def step (source : IdentitySource) (users : Users) (call : UserCall) : UserReply × Users :=
  match call with
  | .upsert claims minted =>
      match users.rows.find? fun row => row.identity = claims.identity with
      | some row =>
          -- `ON CONFLICT (issuer, subject) DO UPDATE`: what the claims leave out becomes null.
          let updated := { row with email := claims.email, displayName := claims.displayName }
          (.found (toUser source updated), { users with rows := Keyed.put UserRow.userId updated users.rows })
      | none =>
          if (Keyed.lookup UserRow.userId minted users.rows).isSome then (.refused, users)
          else
            let inserted := ⟨minted, claims.issuer, claims.subject, claims.email, claims.displayName, .student⟩
            (.found (toUser source inserted), { users with rows := users.rows ++ [inserted] })
  | .findById userId =>
      match Keyed.lookup UserRow.userId userId users.rows with
      | some row => (.found (toUser source row), users)
      | none => (.missing, users)
  | .setRole userId role =>
      match Keyed.lookup UserRow.userId userId users.rows with
      | some row =>
          let updated := { row with role := role }
          (.found (toUser source updated), { users with rows := Keyed.put UserRow.userId updated users.rows })
      | none => (.missing, users)

end PostgresUserRepository

/-- The two repositories. -/
inductive UserRepository where
  | inMemory
  | postgres
deriving DecidableEq

namespace UserRepository

/-- A call to either repository. -/
def step (source : IdentitySource) : UserRepository → Users → UserCall → UserReply × Users
  | .inMemory => InMemoryUserRepository.step source
  | .postgres => PostgresUserRepository.step source

/-- A repository that is called. -/
def object (source : IdentitySource) (repository : UserRepository) : Object UserCall UserReply :=
  ⟨Users, repository.step source⟩

/-- What is kept after a sequence of calls. -/
def after (source : IdentitySource) (repository : UserRepository) (users : Users) (calls : List UserCall) : Users :=
  (repository.object source).after users calls

/-- A sequence of calls in two parts. -/
theorem after_append (source : IdentitySource) (repository : UserRepository) (users : Users)
    (calls more : List UserCall) :
    repository.after source users (calls ++ more) =
      repository.after source (repository.after source users calls) more :=
  Object.after_append (repository.object source) users calls more

end UserRepository

/-! ### Accounts -/

/-- What an account is known by, and what it may do: no claim changes either. -/
structure Account where
  userId : String
  identity : ExternalIdentity
  role : Role
deriving DecidableEq

/-- The account of a row. -/
def UserRow.account (row : UserRow) : Account := ⟨row.userId, row.identity, row.role⟩

/-- The account of a user. -/
def AuthenticatedUser.account (user : AuthenticatedUser) : Account := ⟨user.userId, user.identity, user.role⟩

/-- The accounts of a repository. -/
def Users.accounts (users : Users) : List Account := users.rows.map UserRow.account

/-- The account as the call leaves it. -/
def Account.afterCall (account : Account) (call : UserCall) : Account :=
  match call with
  | .setRole userId role => if account.userId = userId then { account with role := role } else account
  | _ => account

/-- Ids and identities are not shared; in memory the ids are the first ones. -/
structure Valid (repository : UserRepository) (users : Users) : Prop where
  ids : Keyed.Distinct UserRow.userId users.rows
  identities : Keyed.Distinct UserRow.identity users.rows
  counted : repository = .inMemory →
    ∀ row ∈ users.rows, ∃ count ≤ users.next, row.userId = InMemoryUserRepository.userIdOf count

/-- Ids in memory are not given twice: an id is read back to the number it was made from. -/
theorem userIdOf_injective {count count' : Nat}
    (same : InMemoryUserRepository.userIdOf count = InMemoryUserRepository.userIdOf count') : count = count' := by
  have read : ∀ n : Nat, Nat.ofDigitChars 10 (padStart 8 '0' (toString n)).toList 0 = n := by
    intro n
    rw [padStart, String.toList_ofList, Nat.ofDigitChars_append, Nat.ofDigitChars_replicate_zero, Nat.mul_zero,
      Nat.toString_eq_repr, Nat.toList_repr, Nat.ofDigitChars_ten_toDigits]
  have behind := congrArg String.toList same
  rw [InMemoryUserRepository.userIdOf, InMemoryUserRepository.userIdOf, String.toList_append,
    String.toList_append] at behind
  rw [← read count, ← read count', List.append_cancel_left behind]

/-! ### One step -/

/-- What a call does to the accounts, and what it answers: nothing, or one account is changed or opened. -/
inductive Stepped (repository : UserRepository) (users : Users) (call : UserCall) : UserReply → Users → Prop where
  | kept {reply : UserReply} (same : ∀ row ∈ users.rows, row.account.afterCall call = row.account)
      (refused : ∀ claims minted, call = .upsert claims minted →
        reply = .refused ∧ repository = .postgres ∧ ∃ row ∈ users.rows, row.userId = minted) :
      Stepped repository users call reply users
  | changed {row row' : UserRow} {user : AuthenticatedUser} (isRow : row ∈ users.rows)
      (account : row'.account = row.account.afterCall call) (shown : user.account = row'.account)
      (named : ∀ claims minted, call = .upsert claims minted → row.identity = claims.identity)
      (others : ∀ other ∈ users.rows, other.userId ≠ row.userId → other.account.afterCall call = other.account) :
      Stepped repository users call (.found user) { users with rows := Keyed.put UserRow.userId row' users.rows }
  | opened {claims : VerifiedClaims} {minted : String} {row : UserRow} {user : AuthenticatedUser} {next : Nat}
      (isUpsert : call = .upsert claims minted) (isIdentity : row.identity = claims.identity)
      (shown : user.account = row.account)
      (unknown : Keyed.lookup UserRow.identity row.identity users.rows = none)
      (absent : Keyed.lookup UserRow.userId row.userId users.rows = none)
      (counts : repository = .inMemory → next = users.next + 1 ∧ row.userId = InMemoryUserRepository.userIdOf next)
      (mints : repository = .postgres → row.userId = minted) :
      Stepped repository users call (.found user) ⟨next, users.rows ++ [row]⟩

/-- The id of an account is the same whatever the call. -/
@[simp] theorem Account.userId_afterCall (account : Account) (call : UserCall) :
    (account.afterCall call).userId = account.userId := by
  cases call with
  | setRole userId role =>
      by_cases same : account.userId = userId <;> simp [Account.afterCall, same]
  | _ => rfl

/-- So is its identity. -/
@[simp] theorem Account.identity_afterCall (account : Account) (call : UserCall) :
    (account.afterCall call).identity = account.identity := by
  cases call with
  | setRole userId role =>
      by_cases same : account.userId = userId <;> simp [Account.afterCall, same]
  | _ => rfl

/-- Every call to either repository does one of these. The cases are those of the call, and in each of them
    whether a row is found. -/
theorem stepped (source : IdentitySource) {repository : UserRepository} {users : Users}
    (valid : Valid repository users) (call : UserCall) :
    Stepped repository users call (repository.step source users call).1 (repository.step source users call).2 := by
  cases call with
  | upsert claims minted =>
      cases found : Keyed.lookup UserRow.identity claims.identity users.rows with
      | some row =>
          have named : ∀ claims' minted', UserCall.upsert claims minted = .upsert claims' minted' →
              row.identity = claims'.identity := by
            rintro _ _ ⟨⟩
            exact Keyed.key_of_lookup found
          have isRow := Keyed.mem_of_lookup found
          rw [Keyed.lookup] at found
          cases repository with
          | inMemory =>
              simp only [UserRepository.step, InMemoryUserRepository.step, found]
              exact .changed isRow rfl rfl named fun _ _ _ => rfl
          | postgres =>
              simp only [UserRepository.step, PostgresUserRepository.step, found]
              exact .changed isRow rfl rfl named fun _ _ _ => rfl
      | none =>
          have unknown := found
          rw [Keyed.lookup] at found
          cases repository with
          | inMemory =>
              have absent : Keyed.lookup UserRow.userId (InMemoryUserRepository.userIdOf (users.next + 1))
                  users.rows = none := by
                rw [Keyed.lookup_eq_none]
                intro row isRow same
                obtain ⟨count, atMost, isCount⟩ := valid.counted rfl row isRow
                have counts := userIdOf_injective (isCount.symm.trans same)
                omega
              simp only [UserRepository.step, InMemoryUserRepository.step, found]
              rw [Keyed.put_of_absent absent]
              exact .opened rfl rfl rfl unknown absent (fun _ => ⟨rfl, rfl⟩) fun isTable => by cases isTable
          | postgres =>
              cases taken : Keyed.lookup UserRow.userId minted users.rows with
              | some row =>
                  have isKey := Keyed.key_of_lookup taken
                  have isRow := Keyed.mem_of_lookup taken
                  simp only [UserRepository.step, PostgresUserRepository.step, found, taken, Option.isSome_some,
                    reduceIte]
                  refine .kept (fun _ _ => rfl) ?_
                  rintro _ _ ⟨⟩
                  exact ⟨rfl, rfl, row, isRow, isKey⟩
              | none =>
                  simp only [UserRepository.step, PostgresUserRepository.step, found, taken, Option.isSome_none,
                    if_neg Bool.false_ne_true]
                  exact .opened rfl rfl rfl unknown taken (fun isMemory => by cases isMemory) fun _ => rfl
  | findById userId =>
      have read : (repository.step source users (.findById userId)).2 = users := by
        cases repository <;>
          cases found : Keyed.lookup UserRow.userId userId users.rows <;>
          simp [UserRepository.step, InMemoryUserRepository.step, PostgresUserRepository.step, found]
      rw [read]
      exact .kept (fun _ _ => rfl) fun _ _ isUpsert => by cases isUpsert
  | setRole userId role =>
      cases found : Keyed.lookup UserRow.userId userId users.rows with
      | some row =>
          have isRow := Keyed.mem_of_lookup found
          have isKey := Keyed.key_of_lookup found
          have account : ({ row with role := role } : UserRow).account = row.account.afterCall (.setRole userId role) :=
            (if_pos isKey).symm
          have others : ∀ other ∈ users.rows, other.userId ≠ row.userId →
              other.account.afterCall (.setRole userId role) = other.account :=
            fun _ _ differs => if_neg (isKey ▸ differs)
          cases repository with
          | inMemory =>
              simp only [UserRepository.step, InMemoryUserRepository.step, found]
              exact .changed isRow account rfl (fun _ _ isUpsert => by cases isUpsert) others
          | postgres =>
              simp only [UserRepository.step, PostgresUserRepository.step, found]
              exact .changed isRow account rfl (fun _ _ isUpsert => by cases isUpsert) others
      | none =>
          have same : ∀ row ∈ users.rows, row.account.afterCall (.setRole userId role) = row.account :=
            fun row isRow => if_neg (Keyed.lookup_eq_none.mp found row isRow)
          cases repository with
          | inMemory =>
              simp only [UserRepository.step, InMemoryUserRepository.step, found]
              exact .kept same fun _ _ isUpsert => by cases isUpsert
          | postgres =>
              simp only [UserRepository.step, PostgresUserRepository.step, found]
              exact .kept same fun _ _ isUpsert => by cases isUpsert

/-- A row that is replaced by one that reads the same leaves what is read of the rows. -/
theorem map_put_of_same {β : Type} {rows : List UserRow} (distinct : Keyed.Distinct UserRow.userId rows)
    {row row' : UserRow} (isRow : row ∈ rows) (sameId : row'.userId = row.userId) {read : UserRow → β}
    (same : read row' = read row) : (Keyed.put UserRow.userId row' rows).map read = rows.map read := by
  induction rows with
  | nil => cases isRow
  | cons head tail ih =>
      rw [Keyed.put]
      by_cases isHead : head.userId = row'.userId
      · have isRow' : row = head :=
          List.inj_on_of_nodup_map distinct isRow List.mem_cons_self (sameId.symm.trans isHead.symm)
        rw [if_pos isHead, List.map_cons, List.map_cons, same, isRow']
      · have inTail : row ∈ tail :=
          (List.mem_cons.mp isRow).resolve_left fun same => isHead (same ▸ sameId.symm)
        rw [if_neg isHead, List.map_cons, List.map_cons, ih distinct.tail inTail]

namespace Stepped

variable {repository : UserRepository} {users users' : Users} {call : UserCall} {reply : UserReply}

/-- An account that was there is there, as the call leaves it. -/
theorem stays (stepped : Stepped repository users call reply users') (valid : Valid repository users)
    {account : Account} (listed : account ∈ users.accounts) : account.afterCall call ∈ users'.accounts := by
  obtain ⟨row, isRow, rfl⟩ := List.mem_map.mp listed
  cases stepped with
  | kept same refused =>
      rw [same row isRow]
      exact listed
  | @changed old row' user isOld isAccount shown named others =>
      have sameId : row'.userId = old.userId :=
        (congrArg Account.userId isAccount).trans (Account.userId_afterCall old.account call)
      by_cases same : row.userId = old.userId
      · have isRow' : row = old := List.inj_on_of_nodup_map valid.ids isRow isOld same
        rw [isRow', ← isAccount]
        exact List.mem_map_of_mem ((Keyed.mem_put_iff valid.ids row').mpr (.inl rfl))
      · rw [others row isRow same]
        exact List.mem_map_of_mem ((Keyed.mem_put_iff valid.ids row).mpr (.inr ⟨isRow, sameId ▸ same⟩))
  | opened isUpsert isIdentity shown unknown absent counts mints =>
      rw [isUpsert]
      exact List.mem_map_of_mem (List.mem_append_left _ isRow)

/-- Ids and identities stay unshared. -/
theorem valid (stepped : Stepped repository users call reply users') (valid : Valid repository users) :
    Valid repository users' := by
  cases stepped with
  | kept same refused => exact valid
  | @changed row row' user isRow isAccount shown named others =>
      have sameId : row'.userId = row.userId :=
        (congrArg Account.userId isAccount).trans (Account.userId_afterCall row.account call)
      have sameIdentity : row'.identity = row.identity :=
        (congrArg Account.identity isAccount).trans (Account.identity_afterCall row.account call)
      refine ⟨valid.ids.put, ?_, fun isMemory other inside => ?_⟩
      · rw [Keyed.Distinct, map_put_of_same valid.ids isRow sameId sameIdentity]
        exact valid.identities
      · rcases Keyed.mem_put inside with rfl | isOther
        · rw [sameId]
          exact valid.counted isMemory row isRow
        · exact valid.counted isMemory other isOther
  | @opened claims minted row user next isUpsert isIdentity shown unknown absent counts mints =>
      refine ⟨valid.ids.append absent, valid.identities.append unknown, fun isMemory other inside => ?_⟩
      obtain ⟨isNext, isCount⟩ := counts isMemory
      rcases List.mem_append.mp inside with isOther | isNew
      · obtain ⟨count, atMost, isId⟩ := valid.counted isMemory other isOther
        exact ⟨count, isNext.symm ▸ Nat.le_trans atMost (Nat.le_succ users.next), isId⟩
      · rw [List.mem_singleton.mp isNew]
        exact ⟨next, Nat.le_refl next, isCount⟩

/-- Somebody who signs in has an account, under the identity that was verified. -/
theorem listed {claims : VerifiedClaims} {minted : String}
    (stepped : Stepped repository users (.upsert claims minted) reply users') (valid : Valid repository users)
    {user : AuthenticatedUser} (found : reply = .found user) :
    user.identity = claims.identity ∧ user.account ∈ users'.accounts := by
  cases stepped with
  | kept same refused =>
      rw [(refused claims minted rfl).1] at found
      cases found
  | @changed row row' user' isRow isAccount shown named others =>
      cases found
      refine ⟨?_, ?_⟩
      · calc user.identity = row'.identity := congrArg Account.identity shown
          _ = row.identity := congrArg Account.identity isAccount
          _ = claims.identity := named claims minted rfl
      · rw [shown]
        exact List.mem_map_of_mem ((Keyed.mem_put_iff valid.ids row').mpr (.inl rfl))
  | @opened claims' minted' row user' next isUpsert isIdentity shown unknown absent counts mints =>
      cases found
      cases isUpsert
      refine ⟨(congrArg Account.identity shown).trans isIdentity, ?_⟩
      rw [shown]
      exact List.mem_map_of_mem (List.mem_append_right _ (List.mem_singleton.mpr rfl))

end Stepped

/-- Ids and identities of the accounts go together. -/
theorem Valid.userId_eq_iff {repository : UserRepository} {users : Users} (valid : Valid repository users)
    {account account' : Account}
    (member : account ∈ users.accounts) (member' : account' ∈ users.accounts) :
    account.userId = account'.userId ↔ account.identity = account'.identity := by
  obtain ⟨row, isRow, rfl⟩ := List.mem_map.mp member
  obtain ⟨row', isRow', rfl⟩ := List.mem_map.mp member'
  constructor
  · intro same
    rw [List.inj_on_of_nodup_map valid.ids isRow isRow' same]
  · intro same
    rw [List.inj_on_of_nodup_map valid.identities isRow isRow' same]

/-- Nothing is shared in a repository without users. -/
theorem Valid.empty (repository : UserRepository) : Valid repository Users.empty :=
  ⟨Keyed.Distinct.nil, Keyed.Distinct.nil, fun _ _ isRow => by cases isRow⟩

/-! ### Whole runs -/

variable {source : IdentitySource} {repository : UserRepository}

/-- Ids and identities are unshared after every run. -/
theorem valid_after (source : IdentitySource) (calls : List UserCall) {users : Users} (valid : Valid repository users) :
    Valid repository (repository.after source users calls) := by
  induction calls generalizing users with
  | nil => exact valid
  | cons call calls ih => exact ih ((stepped source valid call).valid valid)

/-- An account stays, whatever is called; and only who calls for its role changes it. -/
theorem account_stays (source : IdentitySource) (calls : List UserCall) {users : Users} (valid : Valid repository users)
    {account : Account} (listed : account ∈ users.accounts) :
    calls.foldl Account.afterCall account ∈ (repository.after source users calls).accounts := by
  induction calls generalizing users account with
  | nil => exact listed
  | cons call calls ih =>
      have one := stepped source valid call
      exact ih (one.valid valid) (one.stays valid listed)

/-- A run of calls leaves the id of an account. -/
@[simp] theorem userId_foldl (calls : List UserCall) (account : Account) :
    (calls.foldl Account.afterCall account).userId = account.userId := by
  induction calls generalizing account with
  | nil => rfl
  | cons call calls ih => rw [List.foldl_cons, ih, Account.userId_afterCall]

/-- A run of calls leaves the identity of an account. -/
@[simp] theorem identity_foldl (calls : List UserCall) (account : Account) :
    (calls.foldl Account.afterCall account).identity = account.identity := by
  induction calls generalizing account with
  | nil => rfl
  | cons call calls ih => rw [List.foldl_cons, ih, Account.identity_afterCall]

/-- Two people who sign in share an account exactly if they are one external identity. -/
theorem same_account_iff (source : IdentitySource) (repository : UserRepository) (before between : List UserCall)
    (claims claims' : VerifiedClaims) (minted minted' : String) (user user' : AuthenticatedUser)
    (first : (repository.step source (repository.after source Users.empty before) (.upsert claims minted)).1 =
      .found user)
    (second : (repository.step source
      (repository.after source Users.empty (before ++ .upsert claims minted :: between)) (.upsert claims' minted')).1 =
        .found user') :
    user.userId = user'.userId ↔ claims.identity = claims'.identity := by
  have valid : Valid repository (repository.after source Users.empty before) :=
    valid_after source before (Valid.empty repository)
  have one := stepped source valid (.upsert claims minted)
  obtain ⟨isIdentity, listed⟩ := one.listed valid first
  have stays := account_stays source between (one.valid valid) listed
  have valid' := valid_after source between (one.valid valid)
  rw [UserRepository.after_append] at second
  have last := stepped source valid' (.upsert claims' minted')
  obtain ⟨isIdentity', listed'⟩ := last.listed valid' second
  have together := (last.valid valid').userId_eq_iff (last.stays valid' stays) listed'
  rw [Account.userId_afterCall, Account.identity_afterCall, userId_foldl, identity_foldl] at together
  rw [← isIdentity, ← isIdentity']
  exact together

/-- What a provider says of somebody. -/
def signedInAs (subject : String) (email : Option String) : VerifiedClaims :=
  ⟨"https://id.test", subject, email, none⟩

/-- The id that the table gives the first account. -/
def annAccount : String := "3f2c8a10-5b7d-4c1e-9a60-2d4e6f8091b3"

/-- The id of the second. -/
def bobAccount : String := "7d9e1f42-0c3b-4a58-8e71-b6c5d4a39f20"

/-- Ann, as she is answered with. -/
def annWith (email : Option String) : AuthenticatedUser :=
  ⟨annAccount, "https://id.test", "ann", email, none, .student, .oidc⟩

/-- Ann signs in anew with an address, after Bob has: she gets the account she had. -/
theorem same_account_iff_ann :
    (annWith none).userId = (annWith (some "ann@a.test")).userId ↔
      (signedInAs "ann" none).identity = (signedInAs "ann" (some "ann@a.test")).identity :=
  same_account_iff .oidc .postgres [] [.upsert (signedInAs "bob" none) bobAccount] (signedInAs "ann" none)
    (signedInAs "ann" (some "ann@a.test")) annAccount "c0ffee00-1111-4222-8333-444455556666" (annWith none)
    (annWith (some "ann@a.test")) (by decide) (by decide)

end JumptotechLabs.Auth
