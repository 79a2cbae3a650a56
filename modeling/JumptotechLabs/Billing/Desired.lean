/-
Module: JumptotechLabs.Billing.Desired
Layer: Billing (apps/api/src/billing/lifecycle.ts, apps/api/src/access/entitlements.ts)
Purpose: What billing asks for, and what it gets. Of an account's subscriptions the entitling one that runs
  longest is asked for, else the one that ended last; and a synchronisation of an account that is not
  suspended opens billing's row with exactly that window, or closes it by now.
Main exports: Chosen, desiredEntitlement_chosen, chosen_unique, openedBy, ClosedBy, mutate_sync
-/
import JumptotechLabs.Access.Refinement
import JumptotechLabs.Access.Windows
import JumptotechLabs.Billing.Lifecycle

namespace JumptotechLabs.Billing

open JumptotechLabs.Access JumptotechLabs.Core

/-! ### What is asked for -/

/-- The request that is chosen of several: an entitling one that runs longest, or, when none entitles, one
    that ended last. -/
structure Chosen (requests : List SyncRequest) (request : SyncRequest) : Prop where
  mem : request ∈ requests
  active : ∀ other ∈ requests, other.active = true →
    request.active = true ∧ other.expiresAt ≤ request.expiresAt
  inactive : request.active = false → ∀ other ∈ requests, other.expiresAt ≤ request.expiresAt

theorem byEnd_trans (a b c : SyncRequest) (first : byEnd a b = true) (second : byEnd b c = true) :
    byEnd a c = true := by
  simp only [byEnd, decide_eq_true_eq] at first second ⊢
  exact Int.le_trans second first

theorem byEnd_total (a b : SyncRequest) : (byEnd a b || byEnd b a) = true := by
  simp only [byEnd, Bool.or_eq_true, decide_eq_true_eq]
  exact Int.le_total _ _

/-- The first of a sorted list comes before every element of it. -/
theorem head_mergeSort {α : Type} {le : α → α → Bool} {items : List α} {first : α}
    (trans : ∀ a b c, le a b = true → le b c = true → le a c = true)
    (total : ∀ a b, (le a b || le b a) = true)
    (isHead : (items.mergeSort le).head? = some first) :
    first ∈ items ∧ ∀ other ∈ items, le first other = true := by
  have sorted := List.pairwise_mergeSort trans total items
  have member : first ∈ items := List.mem_mergeSort.mp (List.mem_of_mem_head? isHead)
  refine ⟨member, ?_⟩
  intro other inItems
  have inSorted : other ∈ items.mergeSort le := List.mem_mergeSort.mpr inItems
  cases isSorted : items.mergeSort le with
  | nil =>
      rw [isSorted] at inSorted
      cases inSorted
  | cons head tail =>
      rw [isSorted] at isHead sorted inSorted
      cases isHead
      rcases List.mem_cons.mp inSorted with rfl | inTail
      · simpa using total other other
      · exact (List.pairwise_cons.mp sorted).1 other inTail

/-- The first of the requests sorted by end has the last end. -/
theorem head_byEnd {requests : List SyncRequest} {request : SyncRequest}
    (isHead : (requests.mergeSort byEnd).head? = some request) :
    request ∈ requests ∧ ∀ other ∈ requests, other.expiresAt ≤ request.expiresAt := by
  obtain ⟨member, first⟩ := head_mergeSort byEnd_trans byEnd_total isHead
  refine ⟨member, ?_⟩
  intro other inRequests
  have before := first other inRequests
  rw [byEnd, decide_eq_true_eq] at before
  exact before

theorem head_mergeSort_eq_none {α : Type} {le : α → α → Bool} {items : List α}
    (none : (items.mergeSort le).head? = none) : items = [] := by
  rw [List.head?_eq_none_iff] at none
  have length : (items.mergeSort le).length = items.length := List.length_mergeSort items
  rw [none] at length
  exact List.eq_nil_of_length_eq_zero length.symm

theorem mapM_ok {α β : Type} {f : α → Except BillingFailure β} {g : α → β} {items : List α}
    (each : ∀ item ∈ items, f item = .ok (g item)) : items.mapM f = .ok (items.map g) := by
  induction items with
  | nil => rfl
  | cons item items ih =>
      rw [List.mapM_cons, each item List.mem_cons_self,
        ih fun other member => each other (List.mem_cons_of_mem _ member)]
      rfl

/-- Billing asks for the chosen one of its subscriptions' windows. -/
theorem desiredEntitlement_chosen {subscriptions : List StoredSubscription} {policy : BillingPolicy}
    {request : StoredSubscription → SyncRequest}
    (each : ∀ row ∈ subscriptions, entitlementFor row policy = .ok (request row))
    (some : subscriptions ≠ []) :
    ∃ desired, desiredEntitlement subscriptions policy = .ok (.some desired) ∧
      Chosen (subscriptions.map request) desired := by
  unfold desiredEntitlement
  rw [if_neg fun empty => some (List.isEmpty_iff.mp empty), mapM_ok each]
  simp only
  split
  · rename_i longest isHead
    obtain ⟨member, last⟩ := head_byEnd isHead
    obtain ⟨inRequests, isActive⟩ := List.mem_filter.mp member
    refine ⟨longest, rfl, inRequests, ?_, ?_⟩
    · intro other inOthers otherActive
      exact ⟨isActive, last other (List.mem_filter.mpr ⟨inOthers, otherActive⟩)⟩
    · intro isInactive
      rw [isActive] at isInactive
      cases isInactive
  · rename_i noneActive
    have none := head_mergeSort_eq_none noneActive
    cases isHead : ((subscriptions.map request).mergeSort byEnd).head? with
    | none => exact absurd (List.map_eq_nil_iff.mp (head_mergeSort_eq_none isHead)) some
    | some latest =>
        obtain ⟨member, last⟩ := head_byEnd isHead
        refine ⟨latest, rfl, member, ?_, fun _ => last⟩
        intro other inOthers otherActive
        have impossible : other ∈ (subscriptions.map request).filter SyncRequest.active :=
          List.mem_filter.mpr ⟨inOthers, otherActive⟩
        rw [none] at impossible
        cases impossible

/-- When no two of the requests end together, there is one choice, however they are listed. -/
theorem chosen_unique {requests requests' : List SyncRequest} {request request' : SyncRequest}
    (same : ∀ other, other ∈ requests ↔ other ∈ requests')
    (ends : ∀ a ∈ requests, ∀ b ∈ requests, a.expiresAt = b.expiresAt → a = b)
    (chosen : Chosen requests request) (chosen' : Chosen requests' request') :
    request = request' := by
  have member' := (same request').mpr chosen'.mem
  apply ends request chosen.mem request' member'
  cases isActive : request.active with
  | true =>
      obtain ⟨isActive', le⟩ := chosen'.active request ((same request).mp chosen.mem) isActive
      exact Int.le_antisymm le (chosen.active request' member' isActive').2
  | false =>
      cases isActive' : request'.active with
      | true =>
          have impossible := (chosen.active request' member' isActive').1
          rw [isActive] at impossible
          cases impossible
      | false =>
          exact Int.le_antisymm (chosen'.inactive isActive' request ((same request).mp chosen.mem))
            (chosen.inactive isActive request' member')

/-! ### What it gets -/

/-- A date `toISOString` can write. -/
def InRange (time : Instant) : Prop := time.natAbs ≤ 8640000000000000

/-- The row that a request opens. -/
def openedBy (request : SyncRequest) : EntitlementSnapshot where
  status := .active
  startsAt := request.startsAt
  expiresAt := some request.expiresAt
  kind := request.kind.toGrantKind
  planId := request.planId

/-- A row of billing's that no operator has touched. -/
def Steady (entry : EntitlementSnapshot) : Prop :=
  entry.status = .active ∧ InRange entry.startsAt

/-- Its window is over by now. -/
def ClosedBy (now : Instant) (entry : EntitlementSnapshot) : Prop :=
  ∃ expiresAt, entry.expiresAt = some expiresAt ∧ expiresAt ≤ now

/-- A row is closed, whatever it was, when the clock reads a date. -/
theorem closedSnapshot_closes {current : Entitlement} {request : SyncRequest} {now : Instant}
    (steady : Steady (snapshot current)) (starts : InRange request.startsAt)
    (clock : 0 ≤ now ∧ now ≤ 8640000000000000) :
    ∃ next, closedSnapshot current request now = .ok next ∧ Steady next ∧ ClosedBy now next := by
  have bounds : ∀ {currentStart start ends clock : Int}, currentStart.natAbs ≤ 8640000000000000 →
      start.natAbs ≤ 8640000000000000 → 0 ≤ clock ∧ clock ≤ 8640000000000000 →
      (min (min currentStart start) (clock - 1)).natAbs ≤ 8640000000000000 ∧
        (max (min (min currentStart start) (clock - 1) + 1) (min ends clock)).natAbs ≤
            8640000000000000 ∧
          max (min (min currentStart start) (clock - 1) + 1) (min ends clock) ≤ clock := by
    intro currentStart start ends clock isCurrent isStart isClock
    omega
  obtain ⟨startFits, endFits, isOver⟩ :
      _ ∧ _ ∧ max (min (min current.startsAt request.startsAt) (now - 1) + 1)
        (min request.expiresAt now) ≤ now := bounds steady.2 starts clock
  have closes : closedSnapshot current request now = .ok
      { status := current.status
        startsAt := min (min current.startsAt request.startsAt) (now - 1)
        expiresAt := some (max (min (min current.startsAt request.startsAt) (now - 1) + 1)
          (min request.expiresAt now))
        kind := request.kind.toGrantKind
        planId := request.planId } := by
    simp only [closedSnapshot, toISOString, if_pos startFits, if_pos endFits]
  exact ⟨_, closes, ⟨steady.1, startFits⟩, _, rfl, isOver⟩

section Store

variable {store : InMemoryAccessStore} {userId : String}

/-- The rows of a store, and its events, as a ledger. -/
def ledgerOf (store : InMemoryAccessStore) : Ledger where
  row := store.row
  events := store.events
  placed := by
    intro userId source entry found
    have key := Keyed.key_of_lookup found
    exact congrArg Prod.snd key

theorem memoryHolds_ledgerOf (store : InMemoryAccessStore) :
    MemoryHolds store (ledgerOf store) := ⟨rfl, rfl⟩

theorem bySource_grantsOf (store : InMemoryAccessStore) (userId : String) (source : GrantedVia) :
    bySource (store.grantsOf userId) source = store.row userId source := by
  have found : bySource ((ledgerOf store).rowsIn AccessBackend.memory.order userId) source =
      (ledgerOf store).row userId source :=
    Ledger.bySource_rowsIn AccessBackend.memory.bothSources source
  exact found

/-- Writing billing's row, unless it is already so, leaves it so and every other row as it was. -/
theorem write_syncTo {call : AccessCall} {next : EntitlementSnapshot}
    (isUser : call.input.userId = userId) :
    let after := (InMemoryAccessStore.writeChanges call.input call.now store
      (syncTo (store.row userId .billing) next)).2
    (∃ entry, after.row userId .billing = some entry ∧ snapshot entry = next) ∧
      ∀ user source, ¬ (user = userId ∧ source = .billing) →
        after.row user source = store.row user source := by
  unfold syncTo
  split
  · rename_i same
    obtain ⟨entry, found, isNext⟩ := (Option.any_eq_true _ _).mp same
    refine ⟨⟨entry, found, eq_of_sameSnapshot isNext⟩, ?_⟩
    intro user source _
    rfl
  · cases ran : InMemoryAccessStore.writeChanges call.input call.now store
        [⟨.billing, store.row userId .billing, .sync, next⟩] with
    | mk events after =>
        obtain ⟨ledger, wrote, holds⟩ := (memoryHolds_ledgerOf store).writeChanges ran
        have fits : Fits (ledgerOf store) call.input.userId
            [⟨.billing, store.row userId .billing, .sync, next⟩] := by
          apply Fits.single
          rw [isUser]
          rfl
        simp only [holds.1]
        constructor
        · have written := wrote.writes.row_of_change fits List.mem_cons_self
          rw [isUser] at written
          exact ⟨_, written, rfl⟩
        · intro user source elsewhere
          apply wrote.writes.row_of_untouched
          intro here member
          rw [isUser] at here
          exact elsewhere ⟨here, List.mem_singleton.mp member⟩

/-- A mutation whose plan is accepted writes it. -/
theorem mutate_of_plan {call : AccessCall} {changes : List RowChange}
    (known : call.input.userId ∈ call.accounts)
    (planned : planAccountMutation (store.grantsOf call.input.userId) call.input call.now
      ⟨store.hadTrial call.input.userId⟩ = .ok changes) :
    ∃ result, store.mutate call =
      (.ok result, (InMemoryAccessStore.writeChanges call.input call.now store changes).2) := by
  unfold InMemoryAccessStore.mutate
  rw [if_neg (by simpa using known)]
  simp only [planned]
  exact ⟨_, rfl⟩

/-- A synchronisation of an account that is not suspended: it returns, and billing's row is opened or
    closed as was asked. -/
theorem mutate_sync {call : AccessCall} {request : SyncRequest} (isUser : call.input.userId = userId)
    (isSync : call.input.action = .sync) (isBilling : call.input.source = some .billing)
    (asked : call.input.sync = some request) (known : userId ∈ call.accounts)
    (window : request.startsAt < request.expiresAt) (starts : InRange request.startsAt)
    (clock : 0 ≤ call.now ∧ call.now ≤ 8640000000000000)
    (free : ∀ source entry, store.row userId source = some entry → entry.status ≠ .suspended)
    (steady : ∀ entry, store.row userId .billing = some entry → Steady (snapshot entry)) :
    ∃ result next, store.mutate call = (.ok result, next) ∧
      (∀ user source, ¬ (user = userId ∧ source = .billing) →
        next.row user source = store.row user source) ∧
      (request.active = true →
        ∃ entry, next.row userId .billing = some entry ∧ snapshot entry = openedBy request) ∧
      (request.active = false → ∀ entry, next.row userId .billing = some entry →
        Steady (snapshot entry) ∧ ClosedBy call.now (snapshot entry)) := by
  have noneSuspended : ((store.grantsOf userId).filter isSuspended).isEmpty = true := by
    rw [List.isEmpty_iff, List.filter_eq_nil_iff]
    intro entry member isHeld
    have listed : entry ∈ (ledgerOf store).rowsIn AccessBackend.memory.order userId := member
    have found : store.row userId entry.grantedVia = some entry := Ledger.row_of_mem listed
    exact free _ _ found (beq_iff_eq.mp isHeld)
  have planned : ∀ context, planAccountMutation (store.grantsOf userId) call.input call.now context =
      if request.active then .ok (syncTo (store.row userId .billing) (openedBy request))
      else closing (store.row userId .billing) request call.now := by
    intro context
    unfold planAccountMutation
    rw [isSync]
    dsimp only
    cases isActive : request.active with
    | true =>
        simp only [planSync, isBilling, asked, if_neg (Int.not_le.mpr window), bySource_grantsOf, noneSuspended,
          isActive, if_true]
        rfl
    | false =>
        rw [planSync_closing isBilling asked window isActive, bySource_grantsOf, if_neg Bool.false_ne_true]
  rw [← isUser] at planned
  have isKnown : call.input.userId ∈ call.accounts := by
    rw [isUser]
    exact known
  cases isActive : request.active with
  | true =>
      have plan := planned ⟨store.hadTrial call.input.userId⟩
      rw [isActive, if_pos rfl, isUser] at plan
      obtain ⟨result, ran⟩ := mutate_of_plan isKnown (by rw [isUser]; exact plan)
      obtain ⟨opened, others⟩ := write_syncTo isUser
      refine ⟨result, _, ran, others, fun _ => opened, ?_⟩
      intro impossible
      cases impossible
  | false =>
      have plan := planned ⟨store.hadTrial call.input.userId⟩
      rw [isActive, if_neg Bool.false_ne_true, isUser] at plan
      cases current : store.row userId .billing with
      | none =>
          rw [current] at plan
          obtain ⟨result, ran⟩ := mutate_of_plan isKnown (by rw [isUser]; exact plan)
          refine ⟨result, store, ran, fun _ _ _ => rfl, ?_, ?_⟩
          · intro impossible
            cases impossible
          · intro _ entry found
            rw [current] at found
            cases found
      | some row =>
          obtain ⟨next, closes, isSteady, isClosed⟩ :=
            closedSnapshot_closes (steady row current) starts clock
          rw [current, closing, Option.elim_some, closes, ← current] at plan
          obtain ⟨result, ran⟩ := mutate_of_plan isKnown (by rw [isUser]; exact plan)
          obtain ⟨⟨entry, found, isNext⟩, others⟩ := write_syncTo isUser
          refine ⟨result, _, ran, others, ?_, ?_⟩
          · intro impossible
            cases impossible
          · intro _ other isOther
            rw [found] at isOther
            cases isOther
            rw [isNext]
            exact ⟨isSteady, isClosed⟩

end Store

end JumptotechLabs.Billing
