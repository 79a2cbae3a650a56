/-
Module: JumptotechLabs.Access.Entitlements
Layer: Access (apps/api/src/access/entitlements.ts)
Purpose: Who may use labs: the entitlement rows of an account, one for each source, what they mean at an
  instant, and the rules by which an operator or billing changes them. Planning a change is a pure
  function of the rows, the request and the clock; it refuses, or lists the rows to write.
Main exports: Entitlement, EntitlementSnapshot, AccessEvent, MutationInput, evaluateAccess,
  evaluateAccount, planMutation, planAccountMutation, RowChange
-/
import Mathlib.Data.List.Basic

namespace JumptotechLabs.Access

/-! ### Times -/

/-- Milliseconds since the epoch. Every time here is written by `toISOString` and read by `Date.parse`,
    so it is kept as the instant it names, and two texts are equal when their instants are. -/
abbrev Instant := Int

/-- A number with leading zeros. -/
def padded (width : Nat) (number : Nat) : String :=
  let digits := toString number
  String.ofList (List.replicate (width - digits.length) '0') ++ digits

/-- Year, month and day of a day counted from 1970-01-01, in the proleptic Gregorian calendar. -/
def civilDate (day : Int) : Int × Nat × Nat :=
  let shifted := day + 719468
  let era := shifted / 146097
  let dayOfEra := (shifted % 146097).toNat
  let yearOfEra := (dayOfEra - dayOfEra / 1460 + dayOfEra / 36524 - dayOfEra / 146096) / 365
  let dayOfYear := dayOfEra - (365 * yearOfEra + yearOfEra / 4 - yearOfEra / 100)
  let marchMonth := (5 * dayOfYear + 2) / 153
  let dayOfMonth := dayOfYear - (153 * marchMonth + 2) / 5 + 1
  let month := if marchMonth < 10 then marchMonth + 3 else marchMonth - 9
  let year := yearOfEra + era * 400
  (if month ≤ 2 then year + 1 else year, month, dayOfMonth)

/-- The text `toISOString` gives an instant. -/
def isoText (time : Instant) : String :=
  let (year, month, day) := civilDate (time / 86400000)
  let clock := (time % 86400000).toNat
  let yearText :=
    if 0 ≤ year ∧ year ≤ 9999 then padded 4 year.toNat
    else (if year < 0 then "-" else "+") ++ padded 6 year.natAbs
  yearText ++ "-" ++ padded 2 month ++ "-" ++ padded 2 day ++ "T" ++ padded 2 (clock / 3600000) ++
    ":" ++ padded 2 (clock / 60000 % 60) ++ ":" ++ padded 2 (clock / 1000 % 60) ++ "." ++
    padded 3 (clock % 1000) ++ "Z"

/-! ### Rows and events -/

/-- `ENTITLEMENT_STATUSES`: what was decided, as it is stored. -/
inductive EntitlementStatus where
  | active
  | suspended
  | revoked
deriving DecidableEq, Inhabited

/-- `ACCESS_STATES`: what that decision means right now. -/
inductive AccessState where
  | none
  | scheduled
  | active
  | expired
  | suspended
  | revoked
deriving DecidableEq, Inhabited

/-- `GRANT_SOURCES`: where a row comes from. -/
inductive GrantedVia where
  | operator
  | billing
deriving DecidableEq, Inhabited

/-- `GRANT_KINDS`. -/
inductive GrantKind where
  | standard
  | beta
  | trial
  | subscription
deriving DecidableEq, Inhabited

/-- `ACCESS_ACTIONS`. -/
inductive AccessAction where
  | grant
  | trial
  | suspend
  | restore
  | revoke
  | sync
deriving DecidableEq, Inhabited

/-- One row. Its scope, `platform`, is the only one there is. -/
structure Entitlement where
  userId : String
  status : EntitlementStatus
  startsAt : Instant
  /-- None: no end date. -/
  expiresAt : Option Instant
  grantedVia : GrantedVia
  kind : GrantKind
  /-- None: no plan, which is every track. -/
  planId : Option String
  createdAt : Instant
  updatedAt : Instant
deriving DecidableEq, Inhabited

structure EntitlementSnapshot where
  status : EntitlementStatus
  startsAt : Instant
  expiresAt : Option Instant
  kind : GrantKind
  planId : Option String
deriving DecidableEq, Inhabited

/-- One administrative change, as recorded. -/
structure AccessEvent where
  eventId : Nat
  userId : String
  source : GrantedVia
  action : AccessAction
  actor : String
  reason : String
  before : Option EntitlementSnapshot
  after : EntitlementSnapshot
  occurredAt : Instant
deriving DecidableEq, Inhabited

def snapshot (entitlement : Entitlement) : EntitlementSnapshot where
  status := entitlement.status
  startsAt := entitlement.startsAt
  expiresAt := entitlement.expiresAt
  kind := entitlement.kind
  planId := entitlement.planId

def sameSnapshot (a b : EntitlementSnapshot) : Bool :=
  a.status == b.status && a.startsAt == b.startsAt && a.expiresAt == b.expiresAt &&
    a.kind == b.kind && a.planId == b.planId

/-! ### What the rows mean -/

structure AccessEvaluation where
  state : AccessState
  active : Bool
deriving DecidableEq, Inhabited

/-- The effective state of one row: the window is `[startsAt, expiresAt)`, and suspension and
    revocation win over it. -/
def evaluateAccess (entitlement : Option Entitlement) (now : Instant) : AccessEvaluation :=
  match entitlement with
  | none => ⟨.none, false⟩
  | some row =>
      if row.status = .revoked then ⟨.revoked, false⟩
      else if row.status = .suspended then ⟨.suspended, false⟩
      else if now < row.startsAt then ⟨.scheduled, false⟩
      else if row.expiresAt.any fun expiresAt => decide (expiresAt ≤ now) then ⟨.expired, false⟩
      else ⟨.active, true⟩

/-- The evaluation of an account, and the row that answers for it. -/
structure AccountEvaluation extends AccessEvaluation where
  effective : Option Entitlement
deriving DecidableEq, Inhabited

/-- Which of several open rows answers: an operator's, then a subscription, then a trial. -/
def grantRank (grant : Entitlement) : Nat :=
  if grant.kind = .trial then 0 else if grant.grantedVia = .operator then 2 else 1

/-- Does the second row end no later than the first? No end date is after every date. -/
def endsNoEarlier (a b : Entitlement) : Bool :=
  match a.expiresAt, b.expiresAt with
  | none, _ => true
  | some _, none => false
  | some x, some y => decide (y ≤ x)

/-- The order of `sort` by rank and then by end, both descending. -/
def answersFirst (a b : Entitlement) : Bool :=
  decide (grantRank b < grantRank a) || (grantRank a == grantRank b && endsNoEarlier a b)

/-- The row that answers for an account with no suspended row. -/
def evaluateOpen (grants : List Entitlement) (now : Instant) : AccountEvaluation :=
  let active := grants.filter fun grant => (evaluateAccess (some grant) now).active
  match (active.mergeSort answersFirst).head? with
  | some best => ⟨⟨.active, true⟩, some best⟩
  | none =>
      let latest := (grants.mergeSort fun a b => decide (b.updatedAt ≤ a.updatedAt)).head?
      ⟨evaluateAccess latest now, latest⟩

/-- The account's state across all its rows: any suspended row suspends it, whatever the others say. -/
def evaluateAccount (grants : List Entitlement) (now : Instant) : AccountEvaluation :=
  if grants.isEmpty then ⟨⟨.none, false⟩, none⟩
  else
    match grants.find? fun grant => grant.status == .suspended with
    | some suspended => ⟨⟨.suspended, false⟩, some suspended⟩
    | none => evaluateOpen grants now

/-! ### Refusals -/

inductive AccessErrorCode where
  | userNotFound
  | noEntitlement
  | entitlementSuspended
  | entitlementRevoked
  | invalidKind
  | invalidWindow
  | expiryRequired
  | trialsDisabled
  | trialAlreadyUsed
  | alreadyActive
  | invalidRequest
deriving DecidableEq, Inhabited

/-- What a mutation throws: an `AccessError`, the error of a date out of range, or the database
    driver's. -/
inductive AccessFailure where
  | accessError (code : AccessErrorCode) (message : String)
  | rangeError
  | driver
deriving DecidableEq, Inhabited

/-- `new Date(time).toISOString()`, which throws beyond a hundred million days of the epoch. -/
def toISOString (time : Int) : Except AccessFailure Instant :=
  if time.natAbs ≤ 8640000000000000 then .ok time else .error .rangeError

/-! ### Requests and plans -/

structure GrantRequest where
  startsAt : Option Instant := none
  expiresAt : Option Instant
  kind : Option GrantKind := none
  /-- None: the current row's plan. `some none`: no plan. -/
  planId : Option (Option String) := none
deriving DecidableEq, Inhabited

structure TrialRequest where
  durationDays : Int
  planId : Option String
deriving DecidableEq, Inhabited

/-- The two kinds billing writes. -/
inductive SyncKind where
  | subscription
  | trial
deriving DecidableEq, Inhabited

def SyncKind.toGrantKind : SyncKind → GrantKind
  | .subscription => .subscription
  | .trial => .trial

/-- What billing says its row should be. -/
structure SyncRequest where
  active : Bool
  startsAt : Instant
  expiresAt : Instant
  kind : SyncKind
  planId : Option String
deriving DecidableEq, Inhabited

structure MutationContext where
  hadTrial : Bool := false
deriving DecidableEq, Inhabited

structure MutationInput where
  userId : String
  action : AccessAction
  actor : String
  reason : String
  grant : Option GrantRequest := none
  trial : Option TrialRequest := none
  source : Option GrantedVia := none
  sync : Option SyncRequest := none
deriving DecidableEq, Inhabited

inductive MutationPlan where
  | write (action : AccessAction) (next : EntitlementSnapshot)
  | unchanged (action : AccessAction)
deriving DecidableEq, Inhabited

/-- One row a mutation writes. -/
structure RowChange where
  source : GrantedVia
  before : Option Entitlement
  action : AccessAction
  next : EntitlementSnapshot
deriving DecidableEq, Inhabited

/-! ### Planning one row -/

/-- `planMutation`, TRIAL. -/
def planTrial (current : Option Entitlement) (now : Instant) (trial : Option TrialRequest)
    (context : MutationContext) : Except AccessFailure MutationPlan :=
  match trial with
  | none =>
      .error (.accessError .trialsDisabled "Trials are off: TRIAL_DURATION_DAYS is not set.")
  | some trial =>
      if current.any (·.status == .suspended) then
        .error (.accessError .entitlementSuspended
          ("This access is suspended. `access restore` lifts the suspension; " ++
            "a trial does not override it."))
      else if context.hadTrial then
        .error (.accessError .trialAlreadyUsed
          "This account has already had a trial. A grant is the way to give more access.")
      else if (evaluateAccess current now).active then
        .error (.accessError .alreadyActive
          ("This account already has active access; a trial would replace it. " ++
            "Nothing was changed."))
      else
        match toISOString (now + trial.durationDays * 86400000) with
        | .error failure => .error failure
        | .ok expiresAt =>
            .ok (.write .trial
              { status := .active
                startsAt := now
                expiresAt := some expiresAt
                kind := .trial
                planId := trial.planId })

/-- Is this row a trial that was not revoked? -/
def isLiveTrial (row : Entitlement) : Bool := row.kind == .trial && row.status != .revoked

/-- The row a grant asks for. What the request leaves out is kept from the current row, unless that was
    revoked. -/
def grantedSnapshot (current : Option Entitlement) (now : Instant) (grant : GrantRequest) :
    EntitlementSnapshot where
  status := .active
  startsAt := grant.startsAt.getD
    (match current with
      | some row => if row.status = .active then row.startsAt else now
      | none => now)
  expiresAt := grant.expiresAt
  kind := grant.kind.getD
    (match current with
      | some row => if row.status ≠ .revoked then row.kind else .standard
      | none => .standard)
  planId := grant.planId.getD (current.bind Entitlement.planId)

/-- `planMutation`, GRANT. -/
def planGrant (current : Option Entitlement) (now : Instant) (grant : Option GrantRequest) :
    Except AccessFailure MutationPlan :=
  match grant with
  | none =>
      .error (.accessError .expiryRequired "A grant needs --until <instant> or --no-expiry.")
  | some grant =>
      if current.any (·.status == .suspended) then
        .error (.accessError .entitlementSuspended
          ("This access is suspended. `access restore` lifts the suspension; " ++
            "a grant does not override it."))
      else if grant.kind == some .trial && !current.any isLiveTrial then
        .error (.accessError .invalidKind
          "Start a trial with `access trial`; --kind trial only changes an existing trial.")
      else if grant.kind == none && current.any isLiveTrial then
        .error (.accessError .invalidKind
          ("This account is on a trial. Say --kind standard or --kind beta to convert it, " ++
            "or --kind trial to change the trial itself."))
      else
        let next := grantedSnapshot current now grant
        if grant.expiresAt.any fun expiresAt => decide (expiresAt ≤ next.startsAt) then
          .error (.accessError .invalidWindow
            ("The access window must end after it starts (" ++ isoText next.startsAt ++ ")."))
        else if grant.expiresAt.any fun expiresAt => decide (expiresAt ≤ now) then
          .error (.accessError .invalidWindow ("--until is in the past (now " ++ isoText now ++ ")."))
        else if current.any fun row => row.status == .active && sameSnapshot (snapshot row) next then
          .ok (.unchanged .grant)
        else .ok (.write .grant next)

/-- The transition rules over one row. SUSPEND, RESTORE and SYNC are planned for the whole account, and
    `planAccountMutation` never asks for them here. -/
def planMutation (current : Option Entitlement) (action : AccessAction) (now : Instant)
    (grant : Option GrantRequest) (trial : Option TrialRequest) (context : MutationContext) :
    Except AccessFailure MutationPlan :=
  match action with
  | .trial => planTrial current now trial context
  | .grant => planGrant current now grant
  | .suspend =>
      match current with
      | none => .error (.accessError .noEntitlement "There is no access to suspend.")
      | some row =>
          match row.status with
          | .suspended => .ok (.unchanged .suspend)
          | .revoked =>
              .error (.accessError .entitlementRevoked "This access is already revoked.")
          | .active => .ok (.write .suspend { snapshot row with status := .suspended })
  | .restore =>
      match current with
      | none => .error (.accessError .noEntitlement "There is no access to restore.")
      | some row =>
          match row.status with
          | .active => .ok (.unchanged .restore)
          | .revoked =>
              .error (.accessError .entitlementRevoked
                "Revoked access is not restored; grant it again.")
          | .suspended => .ok (.write .restore { snapshot row with status := .active })
  | .revoke =>
      match current with
      | none => .error (.accessError .noEntitlement "There is no access to revoke.")
      | some row =>
          if row.status = .revoked then .ok (.unchanged .revoke)
          else .ok (.write .revoke { snapshot row with status := .revoked })
  | .sync =>
      .error (.accessError .invalidRequest
        "SYNC is planned for the whole account (planAccountMutation).")

/-! ### Planning the account -/

/-- The account's row of one source. -/
def bySource (rows : List Entitlement) (source : GrantedVia) : Option Entitlement :=
  rows.find? fun row => row.grantedVia == source

def isSuspended (row : Entitlement) : Bool := row.status == .suspended

def isActive (row : Entitlement) : Bool := row.status == .active

/-- Billing's row, closed: the window covers no instant from now on, and the status stays. -/
def closedSnapshot (current : Entitlement) (sync : SyncRequest) (now : Instant) :
    Except AccessFailure EntitlementSnapshot :=
  let startMs := min (min current.startsAt sync.startsAt) (now - 1)
  let endMs := max (startMs + 1) (min sync.expiresAt now)
  match toISOString startMs, toISOString endMs with
  | .ok startsAt, .ok expiresAt =>
      .ok
        { status := current.status
          startsAt := startsAt
          expiresAt := some expiresAt
          kind := sync.kind.toGrantKind
          planId := sync.planId }
  | .error failure, _ => .error failure
  | _, .error failure => .error failure

/-- Write billing's row, unless it is already so. -/
def syncTo (current : Option Entitlement) (next : EntitlementSnapshot) : List RowChange :=
  if current.any fun row => sameSnapshot (snapshot row) next then []
  else [{ source := .billing, before := current, action := .sync, next := next }]

/-- `planAccountMutation`, SYNC. -/
def planSync (rows : List Entitlement) (input : MutationInput) (now : Instant) :
    Except AccessFailure (List RowChange) :=
  match input.source, input.sync with
  | some .billing, some sync =>
      if sync.expiresAt ≤ sync.startsAt then
        .error (.accessError .invalidWindow "A billing period must end after it starts.")
      else
        let current := bySource rows .billing
        if sync.active then
          .ok (syncTo current
            { status := if (rows.filter isSuspended).isEmpty then .active else .suspended
              startsAt := sync.startsAt
              expiresAt := some sync.expiresAt
              kind := sync.kind.toGrantKind
              planId := sync.planId })
        else
          match current with
          | none => .ok []
          | some row =>
              match closedSnapshot row sync now with
              | .error failure => .error failure
              | .ok next => .ok (syncTo (some row) next)
  | _, _ =>
      .error (.accessError .invalidRequest
        "Only billing synchronises a row, and it must say what to.")

/-- The operator's row, as one row's plan says. -/
def operatorChange (current : Option Entitlement) : MutationPlan → List RowChange
  | .unchanged _ => []
  | .write action next => [{ source := .operator, before := current, action := action, next := next }]

/-- `planAccountMutation`, GRANT and TRIAL. -/
def planGrantOrTrial (rows : List Entitlement) (input : MutationInput) (now : Instant)
    (context : MutationContext) : Except AccessFailure (List RowChange) :=
  if (rows.filter isSuspended).any fun row => row.grantedVia != .operator then
    .error (.accessError .entitlementSuspended
      ("This account is suspended. `access restore` lifts the suspension; " ++
        "a grant does not override it."))
  else if input.action == .trial && rows.any fun row =>
      row.grantedVia != .operator && (evaluateAccess (some row) now).active then
    .error (.accessError .alreadyActive
      "This account already has active paid access; a trial would add nothing.")
  else
    let current := bySource rows .operator
    match planMutation current input.action now input.grant input.trial context with
    | .error failure => .error failure
    | .ok plan => .ok (operatorChange current plan)

/-- `planAccountMutation`, REVOKE. -/
def planRevoke (rows : List Entitlement) (now : Instant) :
    Except AccessFailure (List RowChange) :=
  let current := bySource rows .operator
  if current.isNone && (bySource rows .billing).isSome then
    .error (.accessError .noEntitlement
      ("This account has no operator access to revoke; its access is a paid subscription. " ++
        "Cancel it in the billing provider, or `access suspend` to stop lab use now."))
  else
    match planMutation current .revoke now none none {} with
    | .error failure => .error failure
    | .ok plan => .ok (operatorChange current plan)

/-- The same change of status for each of some rows. -/
def restatus (action : AccessAction) (status : EntitlementStatus) (rows : List Entitlement) :
    List RowChange :=
  rows.map fun row =>
    { source := row.grantedVia
      before := some row
      action := action
      next := { snapshot row with status := status } }

/-- `planAccountMutation`, SUSPEND: every ACTIVE row. -/
def planSuspend (rows : List Entitlement) : Except AccessFailure (List RowChange) :=
  if rows.isEmpty then .error (.accessError .noEntitlement "There is no access to suspend.")
  else if (rows.filter isActive).isEmpty then
    if (rows.filter isSuspended).isEmpty then
      .error (.accessError .entitlementRevoked "This access is already revoked.")
    else .ok []
  else .ok (restatus .suspend .suspended (rows.filter isActive))

/-- `planAccountMutation`, RESTORE: every SUSPENDED row. -/
def planRestore (rows : List Entitlement) : Except AccessFailure (List RowChange) :=
  if rows.isEmpty then .error (.accessError .noEntitlement "There is no access to restore.")
  else if (rows.filter isSuspended).isEmpty then
    if rows.any isActive then .ok []
    else
      .error (.accessError .entitlementRevoked "Revoked access is not restored; grant it again.")
  else .ok (restatus .restore .active (rows.filter isSuspended))

/-- Everything but SYNC is for operators. -/
def operatorOnly (input : MutationInput) (plan : Except AccessFailure (List RowChange)) :
    Except AccessFailure (List RowChange) :=
  if input.source.getD .operator = .operator then plan
  else
    .error (.accessError .invalidRequest
      "Billing changes access only by synchronising its own row.")

/-- A mutation, planned against every row the account has. -/
def planAccountMutation (rows : List Entitlement) (input : MutationInput) (now : Instant)
    (context : MutationContext) : Except AccessFailure (List RowChange) :=
  match input.action with
  | .sync => planSync rows input now
  | .grant | .trial => operatorOnly input (planGrantOrTrial rows input now context)
  | .revoke => operatorOnly input (planRevoke rows now)
  | .suspend => operatorOnly input (planSuspend rows)
  | .restore => operatorOnly input (planRestore rows)

end JumptotechLabs.Access
