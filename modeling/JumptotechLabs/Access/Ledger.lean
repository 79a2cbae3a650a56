/-
Module: JumptotechLabs.Access.Ledger
Layer: Access (what an access store is for)
Purpose: The access store as its users think of it: for every account and source at most one row, and the
  list of every change, each with the action that was asked for. Both stores are this ledger: a mutation
  that throws leaves it alone, and one that returns has written what its plan lists.
Main exports: Ledger, Writes, LedgerStep, LedgerRun, AccessStore, AccessBackend, Follows, follows,
  ledger_run
-/
import JumptotechLabs.Access.Planned
import JumptotechLabs.Access.PostgresStore

namespace JumptotechLabs.Access

open JumptotechLabs.Core

/-! ### The ledger -/

/-- The rows of every account, and every change in order. A row is kept under its own source. -/
structure Ledger where
  row : String → GrantedVia → Option Entitlement
  events : List AccessEvent
  placed : ∀ {userId source entry}, row userId source = some entry → entry.grantedVia = source

namespace Ledger

def empty : Ledger := ⟨fun _ _ => none, [], nofun⟩

variable (ledger : Ledger)

/-- The account's rows, in some order of the sources. -/
def rowsIn (order : List GrantedVia) (userId : String) : List Entitlement :=
  order.filterMap (ledger.row userId)

/-- Has the account ever been on a trial? -/
def hadTrial (userId : String) : Bool :=
  ledger.events.any fun event => event.userId == userId && event.after.kind == .trial

/-- One change: its row is set and its event appended. -/
def record (eventId : Nat) (input : MutationInput) (now : Instant) (change : RowChange) : Ledger where
  row := fun userId source =>
    if userId = input.userId ∧ source = change.source then some (written input.userId now change)
    else ledger.row userId source
  events := ledger.events ++ [recorded eventId input now change]
  placed := by
    intro userId source entry found
    split at found
    · rename_i here
      cases found
      exact here.2.symm
    · exact ledger.placed found

end Ledger

/-- The changes of one mutation, one after the other. -/
inductive Writes (input : MutationInput) (now : Instant) : List RowChange → Ledger → Ledger → Prop where
  | nil (ledger : Ledger) : Writes input now [] ledger ledger
  | cons {ledger after : Ledger} {change : RowChange} {changes : List RowChange} (eventId : Nat)
      (rest : Writes input now changes (ledger.record eventId input now change) after) :
      Writes input now (change :: changes) ledger after

/-- Both sources, in one order or the other. -/
def BothSources (order : List GrantedVia) : Prop :=
  order = [.operator, .billing] ∨ order = [.billing, .operator]

/-- The events of a reply, under the action that was asked for. -/
def toldBy (call : AccessCall) : AccessReply → List AccessEvent
  | .ok result => result.events.map ({ · with action := call.input.action })
  | .error _ => []

/-- What one call of `mutate` does to the ledger. -/
inductive LedgerStep (call : AccessCall) : AccessReply → Ledger → Ledger → Prop where
  | refused (failure : AccessFailure) (ledger : Ledger) : LedgerStep call (.error failure) ledger ledger
  | accepted {ledger after : Ledger} {result : MutationResult} {order : List GrantedVia}
      {changes : List RowChange} (both : BothSources order)
      (planned : Planned (ledger.rowsIn order call.input.userId) call.input
        ⟨ledger.hadTrial call.input.userId⟩ changes)
      (changed : result.changed = !changes.isEmpty)
      (writes : Writes call.input call.now changes ledger after)
      (told : after.events = ledger.events ++ toldBy call (.ok result)) :
      LedgerStep call (.ok result) ledger after

/-- What a whole transcript does to it. -/
inductive LedgerRun : List (AccessCall × AccessReply) → Ledger → Ledger → Prop where
  | nil (ledger : Ledger) : LedgerRun [] ledger ledger
  | cons {call : AccessCall} {reply : AccessReply} {rest : List (AccessCall × AccessReply)}
      {ledger middle after : Ledger} (step : LedgerStep call reply ledger middle)
      (run : LedgerRun rest middle after) : LedgerRun ((call, reply) :: rest) ledger after

/-- What every step of a run keeps, the run keeps. -/
theorem LedgerRun.keeps {transcript : List (AccessCall × AccessReply)} {ledger after : Ledger}
    (run : LedgerRun transcript ledger after) (invariant : Ledger → Prop)
    (kept : ∀ call reply ledger after, (call, reply) ∈ transcript → LedgerStep call reply ledger after →
      invariant ledger → invariant after)
    (start : invariant ledger) : invariant after := by
  induction run with
  | nil ledger => exact start
  | cons step run ih =>
      apply ih
      · intro call reply ledger after member
        exact kept call reply ledger after (List.mem_cons_of_mem _ member)
      · exact kept _ _ _ _ List.mem_cons_self step start

/-- Every change a transcript tells of, in order. -/
def trail (transcript : List (AccessCall × AccessReply)) : List AccessEvent :=
  transcript.flatMap fun told => toldBy told.1 told.2

/-- The ledger's events are what its calls were told. -/
theorem LedgerRun.events_eq {transcript : List (AccessCall × AccessReply)} {ledger after : Ledger}
    (run : LedgerRun transcript ledger after) :
    after.events = ledger.events ++ trail transcript := by
  induction run with
  | nil ledger => simp [trail]
  | cons step run ih =>
      rw [ih]
      cases step with
      | refused failure => simp [trail, toldBy]
      | accepted both planned changed writes told => simp [trail, told]

/-! ### What a plan says about the rows it was made from -/

section Rows

variable {ledger after : Ledger} {order : List GrantedVia} {userId : String} {input : MutationInput}
  {now : Instant} {context : MutationContext} {changes : List RowChange}

theorem BothSources.mem (both : BothSources order) (source : GrantedVia) : source ∈ order := by
  rcases both with rfl | rfl <;> cases source <;> simp

theorem BothSources.nodup (both : BothSources order) : order.Nodup := by
  rcases both with rfl | rfl <;> decide

theorem Ledger.row_of_mem {entry : Entitlement} (member : entry ∈ ledger.rowsIn order userId) :
    ledger.row userId entry.grantedVia = some entry := by
  obtain ⟨source, _, found⟩ := List.mem_filterMap.mp member
  rw [ledger.placed found]
  exact found

theorem Ledger.mem_rowsIn (both : BothSources order) {source : GrantedVia} {entry : Entitlement}
    (found : ledger.row userId source = some entry) : entry ∈ ledger.rowsIn order userId :=
  List.mem_filterMap.mpr ⟨source, both.mem source, found⟩

theorem Ledger.bySource_rowsIn (both : BothSources order) (source : GrantedVia) :
    bySource (ledger.rowsIn order userId) source = ledger.row userId source := by
  cases found : bySource (ledger.rowsIn order userId) source with
  | none =>
      cases stored : ledger.row userId source with
      | none => rfl
      | some entry =>
          have absent := List.find?_eq_none.mp found entry (Ledger.mem_rowsIn both stored)
          rw [ledger.placed stored] at absent
          exact absurd (beq_self_eq_true source) absent
  | some entry =>
      have isSource : entry.grantedVia = source := by
        simpa using List.find?_some found
      rw [← isSource]
      exact (Ledger.row_of_mem (List.mem_of_find?_eq_some found)).symm

/-- Rows are listed in the order of their sources. -/
theorem Ledger.sources_sublist (ledger : Ledger) (order : List GrantedVia) (userId : String) :
    ((ledger.rowsIn order userId).map Entitlement.grantedVia).Sublist order := by
  induction order with
  | nil => exact List.Sublist.slnil
  | cons source sources ih =>
      rw [Ledger.rowsIn, List.filterMap_cons]
      cases found : ledger.row userId source with
      | none => exact ih.cons source
      | some entry =>
          rw [List.map_cons, ledger.placed found]
          exact ih.cons_cons source

theorem Ledger.nodup_sources (both : BothSources order) (chosen : Entitlement → Bool) :
    (((ledger.rowsIn order userId).filter chosen).map Entitlement.grantedVia).Nodup :=
  (both.nodup.sublist (ledger.sources_sublist order userId)).sublist (List.filter_sublist.map _)

/-- The changes name each source once, with the row it has. -/
structure Fits (ledger : Ledger) (userId : String) (changes : List RowChange) : Prop where
  sources : (changes.map RowChange.source).Nodup
  before : ∀ change ∈ changes, change.before = ledger.row userId change.source

theorem Fits.single {change : RowChange}
    (before : change.before = ledger.row userId change.source) : Fits ledger userId [change] := by
  constructor
  · exact List.nodup_singleton _
  · intro other member
    rw [List.mem_singleton.mp member]
    exact before

theorem Fits.restatus (both : BothSources order) (action : AccessAction)
    (status : EntitlementStatus) (chosen : Entitlement → Bool) :
    Fits ledger userId (restatus action status ((ledger.rowsIn order userId).filter chosen)) := by
  constructor
  · rw [Access.restatus, List.map_map]
    exact Ledger.nodup_sources both chosen
  · intro change member
    obtain ⟨entry, inRows, rfl⟩ := List.mem_map.mp member
    exact (Ledger.row_of_mem (List.mem_of_mem_filter inRows)).symm

theorem fits_of_planned (both : BothSources order)
    (planned : Planned (ledger.rowsIn order userId) input context changes) :
    Fits ledger userId changes := by
  cases planned with
  | unchanged => exact ⟨List.nodup_nil, fun _ member => absurd member List.not_mem_nil⟩
  | opened | granted | tried => exact Fits.single (Ledger.bySource_rowsIn both _)
  | closed _ isCurrent | revoked _ isCurrent =>
      apply Fits.single
      rw [← isCurrent]
      exact Ledger.bySource_rowsIn both _
  | suspended => exact Fits.restatus both _ _ _
  | restored => exact Fits.restatus both _ _ _

/-- Every change of a mutation carries the mutation's action. -/
theorem action_of_planned {rows : List Entitlement} (planned : Planned rows input context changes) :
    ∀ change ∈ changes, change.action = input.action := by
  intro change member
  cases planned with
  | unchanged => cases member
  | opened isAction | closed isAction | granted isAction | tried isAction | revoked isAction =>
      rw [List.mem_singleton.mp member, isAction]
  | suspended isAction | restored isAction =>
      obtain ⟨entry, _, rfl⟩ := List.mem_map.mp member
      exact isAction.symm

end Rows

/-! ### What the writes do -/

section Writing

variable {ledger after : Ledger} {input : MutationInput} {now : Instant} {changes : List RowChange}

/-- Recording one change leaves the rest of the changes fitting. -/
theorem Fits.tail {change : RowChange} (fits : Fits ledger input.userId (change :: changes))
    (eventId : Nat) : Fits (ledger.record eventId input now change) input.userId changes := by
  have sources := fits.sources
  rw [List.map_cons, List.nodup_cons] at sources
  constructor
  · exact sources.2
  · intro other member
    have elsewhere : other.source ≠ change.source := by
      intro same
      apply sources.1
      rw [← same]
      exact List.mem_map_of_mem member
    rw [fits.before other (List.mem_cons_of_mem _ member)]
    simp [Ledger.record, elsewhere]

/-- What recording a fitting change keeps, writing them all keeps. -/
theorem Writes.keeps (writes : Writes input now changes ledger after) (invariant : Ledger → Prop)
    (kept : ∀ ledger eventId change, change ∈ changes →
      change.before = ledger.row input.userId change.source → invariant ledger →
      invariant (ledger.record eventId input now change))
    (fits : Fits ledger input.userId changes) (start : invariant ledger) : invariant after := by
  induction writes with
  | nil ledger => exact start
  | cons eventId rest ih =>
      have first := kept _ eventId _ List.mem_cons_self (fits.before _ List.mem_cons_self) start
      apply ih _ (fits.tail eventId) first
      intro ledger eventId change member
      exact kept ledger eventId change (List.mem_cons_of_mem _ member)

/-- No row but those of the changes is touched. -/
theorem Writes.row_of_untouched (writes : Writes input now changes ledger after) {userId : String}
    {source : GrantedVia}
    (untouched : userId = input.userId → source ∉ changes.map RowChange.source) :
    after.row userId source = ledger.row userId source := by
  induction writes with
  | nil ledger => rfl
  | @cons ledger after change changes eventId rest ih =>
      rw [ih]
      · unfold Ledger.record
        simp only
        rw [if_neg]
        intro here
        apply untouched here.1
        rw [List.map_cons, here.2]
        exact List.mem_cons_self
      · intro here member
        exact untouched here (List.mem_cons_of_mem _ member)

theorem Writes.row_of_change (writes : Writes input now changes ledger after)
    (fits : Fits ledger input.userId changes) {change : RowChange} (member : change ∈ changes) :
    after.row input.userId change.source = some (written input.userId now change) := by
  induction writes with
  | nil ledger => cases member
  | @cons ledger after first changes eventId rest ih =>
      rcases List.mem_cons.mp member with rfl | inRest
      · have sources := fits.sources
        rw [List.map_cons, List.nodup_cons] at sources
        rw [rest.row_of_untouched fun _ => sources.1]
        simp [Ledger.record]
      · exact ih (fits.tail eventId) inRest

/-- A row after the writes was written by one of the changes, or is one that no change names. -/
theorem Writes.row_cases (writes : Writes input now changes ledger after)
    (fits : Fits ledger input.userId changes) {source : GrantedVia} {entry : Entitlement}
    (found : after.row input.userId source = some entry) :
    (∃ change ∈ changes, change.source = source ∧ entry = written input.userId now change) ∨
      (source ∉ changes.map RowChange.source ∧ ledger.row input.userId source = some entry) := by
  by_cases touched : source ∈ changes.map RowChange.source
  · obtain ⟨change, member, rfl⟩ := List.mem_map.mp touched
    rw [writes.row_of_change fits member] at found
    cases found
    exact .inl ⟨change, member, rfl, rfl⟩
  · rw [writes.row_of_untouched fun _ => touched] at found
    exact .inr ⟨touched, found⟩

/-- The rows of another account stay. -/
theorem LedgerStep.row_of_other {call : AccessCall} {reply : AccessReply}
    (step : LedgerStep call reply ledger after) {userId : String}
    (other : userId ≠ call.input.userId) (source : GrantedVia) :
    after.row userId source = ledger.row userId source := by
  cases step with
  | refused => rfl
  | accepted both planned changed writes told =>
      exact writes.row_of_untouched fun same => absurd same other

end Writing

end JumptotechLabs.Access
