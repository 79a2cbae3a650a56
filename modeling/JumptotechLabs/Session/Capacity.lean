/-
Module: JumptotechLabs.Session.Capacity
Layer: Session (services/lab-orchestrator/src/session/store.ts, manager.ts)
Purpose: The capacity ceilings of the session store. A store `Within` its ceilings stays within them
  through an admission, through every change that gives no finished row a slot back, and through a
  deletion; so it does over every run of managers that start under the same ceilings.
Main exports: ownerOccupying, Within, within_patchRow, within_createWithinLimits, managerTransitions,
  StartsWithin, within_of_reaches
-/
import JumptotechLabs.Session.Lifecycle

namespace JumptotechLabs.Session

open JumptotechLabs.Core

/-- How many occupying sessions a student owns. -/
def ownerOccupying (store : InMemorySessionStore) (ownerUserId : String) : Nat :=
  store.sessions.countP fun session =>
    occupiesCapacity session.status && session.ownerUserId == some ownerUserId

/-- At most `ceiling` occupying sessions, and for every student at most that student's limit. -/
def Within (ceiling : Nat) (limitOf : String → Nat) (store : InMemorySessionStore) : Prop :=
  store.countOccupying ≤ ceiling ∧
    ∀ ownerUserId, ownerOccupying store ownerUserId ≤ limitOf ownerUserId

section Store

variable {ceiling : Nat} {limitOf : String → Nat} {store : InMemorySessionStore}

theorem countOccupying_eq_countP (store : InMemorySessionStore) :
    store.countOccupying =
      store.sessions.countP fun session => occupiesCapacity session.status := by
  rw [InMemorySessionStore.countOccupying, InMemorySessionStore.listOccupying,
    InMemorySessionStore.list, List.countP_eq_length_filter]

theorem within_empty (ceiling : Nat) (limitOf : String → Nat) :
    Within ceiling limitOf InMemorySessionStore.empty :=
  ⟨Nat.zero_le _, fun _ => Nat.zero_le _⟩

/-- A change of one row that gives it no slot it did not hold. -/
theorem within_patchRow {sessionId : String} {patch : SessionPatch}
    (within : Within ceiling limitOf store)
    (holdsSlot : ∀ current, store.get sessionId = some current →
      occupiesCapacity (patch.apply current).status = true →
        occupiesCapacity current.status = true) :
    Within ceiling limitOf (store.patchRow sessionId patch) := by
  have stored : ∀ row ∈ store.sessions, row.sessionId = sessionId →
      store.get sessionId = some row := by
    intro row member named
    rw [← named]
    exact Keyed.lookup_of_mem store.distinct member
  constructor
  · rw [countOccupying_eq_countP]
    refine le_trans (Keyed.countP_modify_le _ ?_) (countOccupying_eq_countP store ▸ within.1)
    intro row member named occupying
    exact holdsSlot row (stored row member named) occupying
  · intro ownerUserId
    refine le_trans (Keyed.countP_modify_le _ ?_) (within.2 ownerUserId)
    intro row member named counted
    rw [Bool.and_eq_true] at counted ⊢
    exact ⟨holdsSlot row (stored row member named) counted.1, counted.2⟩

theorem within_delete {sessionId : String} (within : Within ceiling limitOf store) :
    Within ceiling limitOf (store.delete sessionId) := by
  constructor
  · rw [countOccupying_eq_countP]
    exact le_trans (List.Sublist.countP_le List.filter_sublist)
      (countOccupying_eq_countP store ▸ within.1)
  · intro ownerUserId
    exact le_trans (List.Sublist.countP_le List.filter_sublist) (within.2 ownerUserId)

/-- What an admission was decided on: the candidate fits under every ceiling it counts against. -/
theorem fits_of_admitted {session : LabSession} {limits : CapacityLimits}
    {occupying ownerOccupying : Nat}
    (admitted : decideCapacity session limits occupying ownerOccupying = .admitted)
    (occupies : occupiesCapacity session.status = true) :
    occupying < limits.maxOccupying ∧
      (∀ perOwner, session.ownerUserId.isSome = true →
        limits.maxOccupyingPerOwner = some perOwner → ownerOccupying < perOwner) := by
  unfold decideCapacity at admitted
  rw [occupies] at admitted
  simp only [Bool.not_true, Bool.false_eq_true, if_false] at admitted
  split at admitted
  · rename_i owner perOwner isOwner isLimit
    split at admitted
    · cases admitted
    split at admitted
    · cases admitted
    · rename_i roomForOwner room
      refine ⟨by omega, ?_⟩
      intro limit _ same
      rw [isLimit] at same
      cases same
      omega
  · rename_i unlimited
    split at admitted
    · cases admitted
    · rename_i room
      refine ⟨by omega, ?_⟩
      intro limit owned same
      obtain ⟨owner, isOwner⟩ := Option.isSome_iff_exists.mp owned
      exact absurd same (unlimited owner limit isOwner)

/-- An admission under the store's own ceilings. -/
theorem within_createWithinLimits {session : LabSession} {limits : CapacityLimits}
    (within : Within ceiling limitOf store) (shared : limits.maxOccupying = ceiling)
    (limited : ∀ ownerUserId, session.ownerUserId = some ownerUserId →
      ∃ perOwner, limits.maxOccupyingPerOwner = some perOwner ∧ perOwner ≤ limitOf ownerUserId) :
    Within ceiling limitOf (store.createWithinLimits session limits).2 := by
  cases ran : store.createWithinLimits session limits with
  | mk answer after =>
      rcases InMemorySessionStore.createWithinLimits_cases ran with
        ⟨_, rfl⟩ | ⟨isNew, _, rfl, admitted⟩
      · exact within
      have inserted : (store.insertRow session isNew).sessions =
          store.sessions ++ [store.withShellUid session] := rfl
      by_cases occupies : occupiesCapacity session.status = true
      · obtain ⟨room, roomForOwner⟩ := fits_of_admitted admitted occupies
        constructor
        · rw [countOccupying_eq_countP] at room ⊢
          rw [inserted, List.countP_append, List.countP_singleton]
          split <;> omega
        · intro ownerUserId
          have before := within.2 ownerUserId
          rw [ownerOccupying] at before ⊢
          rw [inserted, List.countP_append, List.countP_singleton]
          split
          · rename_i counted
            rw [Bool.and_eq_true] at counted
            have owned : session.ownerUserId = some ownerUserId := by
              simpa [InMemorySessionStore.withShellUid] using counted.2
            obtain ⟨perOwner, isLimit, small⟩ := limited ownerUserId owned
            have fits := roomForOwner perOwner (by rw [owned]; rfl) isLimit
            rw [InMemorySessionStore.countOwner, owned] at fits
            simp only [Option.isSome_some, Bool.true_and] at fits
            omega
          · exact before
      · have free : occupiesCapacity (store.withShellUid session).status = false := by
          simpa [InMemorySessionStore.withShellUid] using occupies
        constructor
        · have before := within.1
          rw [countOccupying_eq_countP] at before ⊢
          rw [inserted, List.countP_append, List.countP_singleton, free]
          simpa using before
        · intro ownerUserId
          have before := within.2 ownerUserId
          rw [ownerOccupying] at before ⊢
          rw [inserted, List.countP_append, List.countP_singleton, free]
          simpa using before

/-- A transition between statuses none of which gives a slot back. -/
theorem within_transition {sessionId : String} {source : List SessionStatus}
    {target : SessionStatus} {patch : SessionPatch} {guard : TransitionGuard}
    (within : Within ceiling limitOf store)
    (holdsSlot : ∀ status ∈ source, occupiesCapacity target = true →
      occupiesCapacity status = true) :
    Within ceiling limitOf (store.transition sessionId source target patch guard).2 := by
  cases ran : store.transition sessionId source target patch guard with
  | mk answer after =>
      rcases InMemorySessionStore.transition_cases ran with
        ⟨_, rfl⟩ | ⟨current, found, claimable, _, _, rfl⟩
      · exact within
      · apply within_patchRow within
        intro row found' occupying
        rw [found] at found'
        cases found'
        exact holdsSlot _ claimable occupying

theorem within_touchActivity {sessionId : String} {atTime : Instant}
    (within : Within ceiling limitOf store) :
    Within ceiling limitOf (store.touchActivity sessionId atTime).2 := by
  cases ran : store.touchActivity sessionId atTime with
  | mk answer after =>
      rcases InMemorySessionStore.touchActivity_cases ran with
        ⟨_, rfl⟩ | ⟨current, found, active, _, rfl⟩
      · exact within
      · apply within_patchRow within
        intro row _ occupying
        exact occupying

end Store

/-! ### The status moves of the manager -/

/-- Every `from` and `to` a manager gives to `transition`, a reaper's calls included. -/
def managerTransitions : List (List SessionStatus × SessionStatus) :=
  [ ([.creating], .active), ([.creating], .failed), ([.creating], .ending), ([.creating], .expiring),
    (resettableStatuses, .resetting), ([.resetting], .active), ([.resetting], .degraded),
    ([.active], .degraded),
    (liveStatuses ++ [SessionStatus.ending], .ending), (liveStatuses ++ [SessionStatus.expiring], .expiring),
    (liveStatuses, .expiring), ([.ending], .ending), ([.expiring], .expiring),
    ([.ending], .ended), ([.expiring], .expired) ]

theorem TeardownClaim.listed {op : SessionOp} {past : History} {sessionId reason : String}
    {source : List SessionStatus} {inProgress : SessionStatus} {guard : TransitionGuard}
    (claims : TeardownClaim op past sessionId source inProgress reason guard) :
    (source, inProgress) ∈ managerTransitions := by
  cases claims with
  | _ => decide

/-- Whatever move a manager issues is one of those. -/
theorem Issued.listed {op : SessionOp} {past : History} {sessionId : String}
    {source : List SessionStatus} {target : SessionStatus} {patch : SessionPatch}
    {guard : TransitionGuard}
    (issued : Issued op past (.transition sessionId source target patch guard)) :
    (source, target) ∈ managerTransitions := by
  cases issued with
  | quiet isFree => cases isFree
  | release _ _ _ _ releases =>
      rcases releases with rfl | rfl <;> decide
  | defer defers =>
      rcases defers with ⟨_, rfl, _⟩ | ⟨_, rfl, _⟩ <;> decide
  | claim claims => exact claims.listed
  | finish _ _ pair =>
      cases pair with
      | _ => decide
  | _ => decide

/-- None of them gives a row that holds no slot one. -/
theorem holds_slot_of_listed : ∀ pair ∈ managerTransitions, ∀ status ∈ pair.1,
    occupiesCapacity pair.2 = true → occupiesCapacity status = true := by
  decide

/-! ### Runs -/

/-- Does a start pass the shared ceiling and, for its owner, a limit within the owner's? -/
def opWithin (ceiling : Nat) (limitOf : String → Nat) : SessionOp → Bool
  | .start m _ ownerUserId hooks =>
      m.lifetimes.maxActiveSessions == ceiling &&
        (ownerUserId.filter (· ≠ "")).all fun owner =>
          (perOwnerLimit m.lifetimes hooks.ownerSessionLimit).any fun perOwner =>
            decide (perOwner ≤ limitOf owner)
  | _ => true

/-- Is the move no start, or one of those? -/
def startsWithin (ceiling : Nat) (limitOf : String → Nat) : SessionMove → Bool
  | .spawn op => opWithin ceiling limitOf op
  | _ => true

/-- Every start of the run shares the ceilings. -/
def StartsWithin (ceiling : Nat) (limitOf : String → Nat) (_ : SessionConfig)
    (move : SessionMove) : Prop :=
  startsWithin ceiling limitOf move = true

instance (ceiling : Nat) (limitOf : String → Nat) : DecidableRel (StartsWithin ceiling limitOf) :=
  fun _ move => inferInstanceAs (Decidable (startsWithin ceiling limitOf move = true))

/-- Over every run whose starts share the ceilings, the store stays within them. -/
theorem within_of_reaches {allowed : SessionConfig → SessionMove → Prop} {clock : Instant}
    {ceiling : Nat} {limitOf : String → Nat} {config : SessionConfig}
    (shared : ∀ config move, allowed config move → StartsWithin ceiling limitOf config move)
    (run : Reaches allowed (boot clock) config) :
    Within ceiling limitOf config.world.store := by
  refine Reaches.keeps_state (fun (world : World) _ => Within ceiling limitOf world.store)
    (fun _ _ _ kept => kept) ?_ (.refl : Reaches allowed (boot clock) (boot clock)) run
    (within_empty ceiling limitOf)
  intro before after thread op reply interaction reached _ happened within
  have issued := issued_when_answered reached happened
  have step := store_step happened.responded
  generalize interaction.command = command at issued step
  generalize after.world.store = store at step
  cases step with
  | kept => exact within
  | createWithinLimits =>
      obtain ⟨m, labId, owner, hooks, lab, createdAt, starts, _, _, isCandidate, isLimits⟩ :=
        issued.of_createWithinLimits
      have within' : opWithin ceiling limitOf op = true := by
        refine Reaches.all_ops (fun op => opWithin ceiling limitOf op = true) ?_ ?_ reached
          happened.opOf
        · intro config spawned meets
          exact shared _ _ meets
        · intro command forked isFork
          cases command with
          | handOver manager starts resets =>
              rcases List.mem_append.mp isFork with isStart | isReset
              · obtain ⟨entry, _, rfl⟩ := List.mem_map.mp isStart
                rfl
              · obtain ⟨entry, _, rfl⟩ := List.mem_map.mp isReset
                rfl
          | _ => cases isFork
      rw [starts, opWithin, Bool.and_eq_true, beq_iff_eq] at within'
      rw [isLimits]
      apply within_createWithinLimits within
      · exact within'.1
      · intro ownerUserId owned
        rw [isCandidate] at owned
        have limited := within'.2
        rw [show owner.filter (· ≠ "") = some ownerUserId from owned, Option.all_some,
          Option.any_eq_true_iff_get] at limited
        obtain ⟨isSome, perOwner⟩ := limited
        exact ⟨_, (Option.some_get isSome).symm, of_decide_eq_true perOwner⟩
  | transition => exact within_transition within (holds_slot_of_listed _ issued.listed)
  | touchActivity => exact within_touchActivity within
  | delete => exact within_delete within

end JumptotechLabs.Session
