/-
Module: JumptotechLabs.Providers.Absence
Layer: Providers (services/lab-orchestrator/src/providers/{container/sandbox-provider,ansible-provider,docker-provider,
  kind-provider}.ts)
Purpose: What a destroy has seen of its sandbox when it calls it gone. The providers that wait call it gone only behind
  a read that found nothing; a container provider does so as well where the read behind an accepted delete failed.
Main exports: TeardownHistory, Facts, factsOf, Told, sees_waitForGone, told_by_destroySandbox,
  told_by_destroyAndWait, told_by_destroyOfProvider
-/
import JumptotechLabs.Providers.Destroy

namespace JumptotechLabs.Providers

open JumptotechLabs.Core
open JumptotechLabs.Core.Prog (attempt settle)
open JumptotechLabs.Session (Cmd DestroyResult Failure Instant LabProviderId LabSession Labels Manager
  ProvisionStep SessionTeardownContext SessionStatus TransitionGuard isContainerSandboxRef
  teardownContextFor)

abbrev TeardownInteraction := Interaction teardownSignature Failure

/-- What a teardown asked and was answered, the last first. -/
abbrev TeardownHistory := List TeardownInteraction

/-- Every command may get any answer; it is written down. -/
def recorded : Effects teardownSignature Failure TeardownHistory :=
  fun command past answer next => next = ⟨command, answer⟩ :: past

/-- Answers that may depend on all that was asked and answered before. -/
abbrev Answers : Type :=
  TeardownHistory → (command : teardownSignature.Cmd) → Except Failure (teardownSignature.Ans command)

/-- A run against some answers. -/
def answering (answers : Answers) : Handler teardownSignature Failure TeardownHistory :=
  fun past command => (answers past command, ⟨command, answers past command⟩ :: past)

/-! ### What a history tells of a sandbox -/

def isAbsent {α : Type} : Except Failure (Option α) → Bool
  | .ok none => true
  | _ => false

/-- A read of the sandbox that answered that it is absent. -/
def findsAbsent (context : SessionTeardownContext) : TeardownInteraction → Bool
  | ⟨.inr (.inspect name), answer⟩ => name = context.sandboxRef && isAbsent (α := ContainerInfo) answer
  | ⟨.inr (.getNamespace name), answer⟩ => name = context.namespaceName && isAbsent (α := Labels) answer
  | ⟨.inr (.inspectContainer name), answer⟩ => name = context.sandboxRef && isAbsent (α := Labels) answer
  | _ => false

/-- A delete of the sandbox that the container runtime accepted. -/
def acceptsDelete (context : SessionTeardownContext) : TeardownInteraction → Bool
  | ⟨.inr (.remove name), answer⟩ => name = context.sandboxRef && answer.isOk
  | _ => false

/-- A read of the sandbox in the container runtime that failed. -/
def failsToRead (context : SessionTeardownContext) : TeardownInteraction → Bool
  | ⟨.inr (.inspect name), answer⟩ => name = context.sandboxRef && !answer.isOk
  | _ => false

def isEnd (status : SessionStatus) : Bool := status == .ended || status == .expired

/-- A write of ENDED or EXPIRED that moved a row. -/
def recordsEnd : TeardownInteraction → Bool
  | ⟨.inl (.transition _ _ target _ _), answer⟩ => isEnd target && !isAbsent (α := LabSession) answer && answer.isOk
  | _ => false

/-- What stands in a history. -/
structure Facts where
  foundAbsent : Bool
  acceptedDelete : Bool
  failedToRead : Bool
  recordedEnd : Bool
deriving DecidableEq

def factsOf (context : SessionTeardownContext) (history : TeardownHistory) : Facts :=
  ⟨history.any (findsAbsent context), history.any (acceptsDelete context), history.any (failsToRead context),
    history.any recordsEnd⟩

/-- The read behind an accepted delete failed. -/
def Facts.readLost (facts : Facts) : Prop := facts.acceptedDelete = true ∧ facts.failedToRead = true

/-- Absence was read exactly if no read behind an accepted delete failed. -/
def Facts.Fair (facts : Facts) : Prop := facts.foundAbsent = true ↔ ¬ facts.readLost

/-- Is the command about the sandbox or about the end of a session? -/
def tells (context : SessionTeardownContext) : teardownSignature.Cmd → Bool
  | .inr (.inspect name) | .inr (.remove name) | .inr (.inspectContainer name) => name = context.sandboxRef
  | .inr (.getNamespace name) => name = context.namespaceName
  | .inl (.transition _ _ target _ _) => isEnd target
  | _ => false

variable {context : SessionTeardownContext} {past : TeardownHistory}

/-- A command about something else changes nothing of what is known. -/
theorem factsOf_cons_of_silent {command : teardownSignature.Cmd} (silent : tells context command = false)
    (answer : Except Failure (teardownSignature.Ans command)) :
    factsOf context (⟨command, answer⟩ :: past) = factsOf context past := by
  unfold factsOf
  simp only [List.any_cons]
  rcases command with command | call
  · cases command <;> simp_all [tells, findsAbsent, acceptsDelete, failsToRead, recordsEnd]
  · cases call <;> simp_all [tells, findsAbsent, acceptsDelete, failsToRead, recordsEnd]

theorem factsOf_call (call : SubstrateCall) (silent : tells context (.inr call) = false)
    (answer : Except Failure call.Ans) : factsOf context (⟨.inr call, answer⟩ :: past) = factsOf context past :=
  factsOf_cons_of_silent silent answer

/-! ### Programs about something else -/

def silentCalls (context : SessionTeardownContext) : Discipline teardownSignature Failure :=
  ⟨fun _ command => tells context command = false, fun _ _ => True⟩

theorem ensures_of_silent {α : Type} {body : ProviderM α} (silent : body.Always (silentCalls context)) :
    body.Ensures recorded past fun _ after => factsOf context after = factsOf context past := by
  refine (silent []).ensures (fun history => factsOf context history = factsOf context past) (fun _ _ => trivial) ?_ rfl
  rintro _ command history answer _ isSilent rfl same
  rw [factsOf_cons_of_silent isSilent, same]

theorem always_substrate {call : SubstrateCall} (silent : tells context (.inr call) = false) :
    (substrate call).Always (silentCalls context) :=
  Prog.Always.perform fun _ => silent

theorem always_removePeer (deployment : Deployment) {peerRef : String} (other : peerRef ≠ context.sandboxRef)
    (expected : Option String) : (removePeer deployment peerRef expected).Always (silentCalls context) := by
  have inspects : (substrate (.inspect peerRef)).Always (silentCalls context) :=
    always_substrate (decide_eq_false other)
  have removes : (substrate (.remove peerRef)).Always (silentCalls context) :=
    always_substrate (decide_eq_false other)
  refine inspects.attempt.bind fun answer => ?_
  rcases answer with failure | (none | info)
  · exact .pure _
  · exact .pure _
  · dsimp only
    split
    · exact .pure _
    · refine removes.attempt.bind fun removed => ?_
      cases removed with
      | ok _ => exact .pure _
      | error _ => exact .pure _

theorem always_removeLabNetwork (deployment : Deployment) (networkRef : String) (expected : Option String) :
    (removeLabNetwork deployment networkRef expected).Always (silentCalls context) := by
  unfold removeLabNetwork
  split
  · exact .pure _
  · refine Prog.Always.bind (Prog.Always.attempt (always_substrate rfl)) fun answer => ?_
    rcases answer with failure | (none | labels)
    · exact .pure _
    · exact .pure _
    · dsimp only
      split
      · exact .pure _
      · refine Prog.Always.bind (Prog.Always.attempt (always_substrate rfl)) fun removed => ?_
        cases removed with
        | ok _ => exact .pure _
        | error _ => exact .pure _

/-- A sandbox's name starts otherwise than those of the objects around it. -/
theorem ne_of_head {sandboxRef rest : String} (isRef : isContainerSandboxRef sandboxRef = true) {head : String}
    (differs : ∀ tail : List Char, "jtt-lab-".toList.isPrefixOf (head.toList ++ tail) = false) :
    head ++ rest ≠ sandboxRef := by
  rintro rfl
  unfold isContainerSandboxRef hexAfter at isRef
  simp only [Bool.and_eq_true] at isRef
  have starts := isRef.1.1.1
  rw [String.toList_append] at starts
  exact absurd (starts.symm.trans (differs rest.toList)) (by decide)

theorem always_removeBeside (deployment : Deployment) (isRef : isContainerSandboxRef context.sandboxRef = true)
    (expected : Option String) : (removeBeside deployment context.sandboxRef expected).Always (silentCalls context) := by
  have other : peerRefForSandbox context.sandboxRef ≠ context.sandboxRef := ne_of_head isRef fun tail => rfl
  exact (always_removePeer deployment other expected).bind fun _ =>
    (always_removeLabNetwork deployment _ expected).bind fun _ => .pure _

theorem always_removeOwnedContainer (deployment : Deployment) {ref : String} (other : ref ≠ context.sandboxRef)
    (expected : Option String) : (removeOwnedContainer deployment ref expected).Always (silentCalls context) := by
  have inspects : (substrate (.inspect ref)).Always (silentCalls context) := always_substrate (decide_eq_false other)
  have removes : (substrate (.remove ref)).Always (silentCalls context) := always_substrate (decide_eq_false other)
  refine inspects.attempt.bind fun answer => ?_
  rcases answer with failure | (none | info)
  · exact .pure _
  · exact .pure _
  · show (if (refusalBeside deployment.runtimeOwner ref info.labels expected).isSome = true then _ else _ :
      ProviderM Bool).Always (silentCalls context)
    split
    · exact .pure _
    · refine removes.attempt.bind fun removed => ?_
      cases removed with
      | ok _ => exact .pure _
      | error _ => exact .pure _

/-! ### What a destroy tells -/

/-- Nothing is known of the sandbox, and no session has ended. -/
def Facts.none : Facts := ⟨false, false, false, false⟩

/-- A destroy ends no session, and where it calls the sandbox gone its reads are fair. -/
def Told (context : SessionTeardownContext) (outcome : Except Failure DestroyResult) (after : TeardownHistory) : Prop :=
  (factsOf context after).recordedEnd = false ∧
    ∀ result, outcome = .ok result → result.ok = true → result.namespaceGone = true → (factsOf context after).Fair

theorem told_of_not_gone {outcome : Except Failure DestroyResult} {after : TeardownHistory}
    (unended : (factsOf context after).recordedEnd = false)
    (notGone : ∀ result, outcome = .ok result → result.ok = false ∨ result.namespaceGone = false) :
    Told context outcome after := by
  refine ⟨unended, fun result isResult ok gone => ?_⟩
  rcases notGone result isResult with notOk | present
  · rw [ok] at notOk
    cases notOk
  · rw [gone] at present
    cases present

/-- The step: what one more command adds to what is known. -/
theorem factsOf_cons (entry : TeardownInteraction) (history : TeardownHistory) :
    factsOf context (entry :: history) =
      ⟨findsAbsent context entry || (factsOf context history).foundAbsent,
        acceptsDelete context entry || (factsOf context history).acceptedDelete,
        failsToRead context entry || (factsOf context history).failedToRead,
        recordsEnd entry || (factsOf context history).recordedEnd⟩ := rfl

/-- A call may be answered in any way. -/
theorem ensures_substrate {call : SubstrateCall} {post : Except Failure call.Ans → TeardownHistory → Prop} :
    (substrate call).Ensures recorded past post ↔
      ∀ answer : Except Failure call.Ans, post answer (⟨.inr call, answer⟩ :: past) := by
  constructor
  · intro ensures answer
    exact (Prog.ensures_perform (S := teardownSignature) (.inr call) post).mp ensures answer _ rfl
  · rintro all
    refine (Prog.ensures_perform (S := teardownSignature) (.inr call) post).mpr ?_
    rintro answer next rfl
    exact all answer

/-- A call, and what is done of its answer or its failure. -/
theorem ensures_ask {α : Type} {call : SubstrateCall} {rest : Except Failure call.Ans → ProviderM α}
    {post : Except Failure α → TeardownHistory → Prop} :
    (attempt (substrate call) >>= rest).Ensures recorded past post ↔
      ∀ answer : Except Failure call.Ans, (rest answer).Ensures recorded (⟨.inr call, answer⟩ :: past) post := by
  rw [Prog.ensures_bind, Prog.ensures_attempt, ensures_substrate]
  exact Iff.rfl

/-- What is done around the sandbox leaves a result as fair as it was. -/
theorem told_behind {body : ProviderM (List ProvisionStep)} (silent : body.Always (silentCalls context))
    {result : List ProvisionStep → DestroyResult} (unended : (factsOf context past).recordedEnd = false)
    (told : ∀ steps, (result steps).namespaceGone = true → (factsOf context past).Fair) :
    (body >>= fun steps => pure (result steps)).Ensures recorded past (Told context) := by
  rw [Prog.ensures_bind]
  refine (ensures_of_silent silent).mono fun outcome after same => ?_
  cases outcome with
  | error failure => exact told_of_not_gone (same ▸ unended) fun result impossible => nomatch impossible
  | ok steps =>
      refine ⟨same ▸ unended, fun given isResult _ gone => ?_⟩
      cases isResult
      exact same ▸ told steps gone

theorem told_by_destroySandbox (deployment : Deployment) (provider : LabProviderId) (expected : Option String)
    (fresh : factsOf context past = .none) :
    (destroySandbox deployment provider context.sandboxRef expected).Ensures recorded past (Told context) := by
  have unended : (factsOf context past).recordedEnd = false := by rw [fresh]; rfl
  rw [destroySandbox]
  cases isRef : isContainerSandboxRef context.sandboxRef with
  | false =>
      rw [if_pos rfl]
      refine told_of_not_gone unended fun result isResult => ?_
      cases isResult
      exact .inl rfl
  | true =>
      rw [if_neg (by decide), ensures_ask]
      intro answer
      rcases answer with failure | (none | info)
      · refine told_of_not_gone ?_ fun result isResult => ?_
        · rw [factsOf_cons, unended]
          rfl
        · cases isResult
          exact .inl rfl
      · refine told_behind (always_removeBeside deployment isRef expected) ?_ fun steps _ => ?_
        · rw [factsOf_cons, unended]
          rfl
        · rw [factsOf_cons, fresh]
          simp [Facts.Fair, Facts.readLost, Facts.none, findsAbsent, acceptsDelete, failsToRead, isAbsent]
      · dsimp only
        split
        · refine told_of_not_gone ?_ fun result isResult => ?_
          · rw [factsOf_cons, unended]
            rfl
          · cases isResult
            exact .inl rfl
        · rw [ensures_ask]
          intro removed
          cases removed with
          | error failure =>
              refine told_of_not_gone ?_ fun result isResult => ?_
              · rw [factsOf_cons, factsOf_cons, unended]
                rfl
              · cases isResult
                exact .inl rfl
          | ok _ =>
              dsimp only
              rw [ensures_ask]
              intro reread
              refine told_behind (always_removeBeside deployment isRef expected) ?_ fun steps gone => ?_
              · rw [factsOf_cons, factsOf_cons, factsOf_cons, unended]
                rfl
              · rw [factsOf_cons, factsOf_cons, factsOf_cons, fresh]
                rcases reread with failure | (none | again)
                · simp [Facts.Fair, Facts.readLost, Facts.none, findsAbsent, acceptsDelete, failsToRead, isAbsent,
                    Except.isOk, Except.toBool]
                · simp [Facts.Fair, Facts.readLost, Facts.none, findsAbsent, acceptsDelete, failsToRead, isAbsent,
                    Except.isOk, Except.toBool]
                · cases gone

theorem told_by_container_destroy (deployment : Deployment) (provider : LabProviderId)
    (fresh : factsOf context past = .none) :
    (ContainerLabProvider.destroy deployment provider context).Ensures recorded past (Told context) := by
  rw [ContainerLabProvider.destroy, Session.assertValidContainerSandboxRef]
  split
  · rename_i message _
    refine told_of_not_gone (by rw [fresh]; rfl) fun result impossible => ?_
    cases impossible
  · rename_i sandboxRef isValid
    split at isValid
    · cases isValid
      exact told_by_destroySandbox deployment provider (some context.sessionId) fresh
    · cases isValid

theorem told_by_ansible_destroy (deployment : Deployment) (fresh : factsOf context past = .none) :
    (AnsibleLabProvider.destroy deployment context).Ensures recorded past (Told context) := by
  rw [AnsibleLabProvider.destroy, Session.assertValidContainerSandboxRef]
  split
  · rename_i message _
    refine told_of_not_gone (by rw [fresh]; rfl) fun result impossible => ?_
    cases impossible
  · rename_i sandboxRef isValid
    split at isValid
    · rename_i isRef
      cases isValid
      have nodes : ((List.range' 1 ansibleManagedNodeCount).foldlM (fun _ index =>
          removeOwnedContainer deployment (nodeRefForSandbox context.sandboxRef index) (some context.sessionId))
          true).Always (silentCalls context) := by
        refine Prog.Always.foldlM (fun _ index _ => always_removeOwnedContainer deployment ?_ _) true
        unfold nodeRefForSandbox
        rw [String.append_assoc, String.append_assoc]
        exact ne_of_head isRef fun tail => rfl
      rw [Prog.ensures_bind]
      refine (ensures_of_silent nodes).mono fun outcome after same => ?_
      cases outcome with
      | error failure =>
          refine told_of_not_gone (by rw [same, fresh]; rfl) fun result impossible => ?_
          cases impossible
      | ok _ => exact told_by_container_destroy deployment .ansible (same.trans fresh)
    · cases isValid

/-! ### The providers that wait -/

/-- What is known after a read or a wait: what was known before, and absence if that is the answer. -/
def Sees (context : SessionTeardownContext) (past : TeardownHistory) (gone : Bool) (after : TeardownHistory) : Prop :=
  factsOf context after = if gone then { factsOf context past with foundAbsent := true } else factsOf context past

theorem Sees.of_same {past' after : TeardownHistory} {gone : Bool} (sees : Sees context past' gone after)
    (same : factsOf context past' = factsOf context past) : Sees context past gone after := by
  rw [Sees, same] at sees
  exact sees

/-- The read answers absence exactly where that is written down. -/
def IsRead (context : SessionTeardownContext) (read : ProviderM (Option Labels)) : Prop :=
  ∀ past, read.Ensures recorded past fun outcome after => Sees context past (isAbsent outcome) after

theorem isRead_getNamespace (context : SessionTeardownContext) :
    IsRead context (substrate (.getNamespace context.namespaceName)) := by
  intro past
  rw [ensures_substrate]
  intro answer
  rw [Sees, factsOf_cons]
  rcases answer with failure | (none | labels) <;>
    simp [findsAbsent, acceptsDelete, failsToRead, recordsEnd, isAbsent]

theorem isRead_inspectContainer (context : SessionTeardownContext) :
    IsRead context (substrate (.inspectContainer context.sandboxRef)) := by
  intro past
  rw [ensures_substrate]
  intro answer
  rw [Sees, factsOf_cons]
  rcases answer with failure | (none | labels) <;>
    simp [findsAbsent, acceptsDelete, failsToRead, recordsEnd, isAbsent]

/-- A wait that ends with a sandbox that is gone. -/
def isGone : Except Failure (Option Bool) → Bool
  | .ok (some true) => true
  | _ => false

/-- The run of the loop: a failed read ends it with that failure, and only a read that found nothing with absence. -/
theorem sees_waitForGone {read : ProviderM (Option Labels)} (isRead : IsRead context read) (deadline : Instant)
    (rounds : Nat) (past : TeardownHistory) :
    (waitForGone read deadline rounds).Ensures recorded past fun outcome after =>
      Sees context past (isGone outcome) after := by
  induction rounds generalizing past with
  | zero => exact rfl
  | succ rounds ih =>
      rw [waitForGone, Prog.ensures_bind]
      refine (isRead past).mono fun outcome after seen => ?_
      rcases outcome with failure | (none | labels)
      · exact seen
      · exact seen
      · have unchanged : factsOf context after = factsOf context past := seen
        show (substrate .now >>= _ : ProviderM (Option Bool)).Ensures recorded after _
        rw [Prog.ensures_bind, ensures_substrate]
        rintro (failure | now)
        · exact (factsOf_cons_of_silent rfl _).trans unchanged
        · show (if deadline ≤ now then _ else _ : ProviderM (Option Bool)).Ensures recorded _ _
          split
          · exact (factsOf_cons_of_silent rfl _).trans unchanged
          · rw [Prog.ensures_bind, ensures_substrate]
            rintro (failure | slept)
            · exact (factsOf_cons_of_silent rfl _).trans ((factsOf_cons_of_silent rfl _).trans unchanged)
            · have same := (factsOf_call (.sleep 500) rfl (.ok slept)).trans
                ((factsOf_call .now rfl (.ok now)).trans unchanged)
              exact (ih _).mono fun outcome later seen => seen.of_same same

/-- Facts that tell of absence, and of no read that was lost. -/
theorem fair_of_found {facts : Facts} (found : facts.foundAbsent = true) (undeleted : facts.acceptedDelete = false) :
    facts.Fair := by
  unfold Facts.Fair Facts.readLost
  simp [found, undeleted]

theorem told_by_destroyAndWait (deployment : Deployment) (words : Words) (rounds : Nat) (name : String)
    (refusal : Option String) {read : ProviderM (Option Labels)} (isRead : IsRead context read)
    (gate : Labels → Option String) {delete cleanUp : ProviderM Unit} (deletes : delete.Always (silentCalls context))
    (cleans : cleanUp.Always (silentCalls context)) (fresh : factsOf context past = .none) :
    (destroyAndWait deployment words rounds name refusal read gate delete cleanUp).Ensures recorded past
      (Told context) := by
  -- cleaning up behind a read that found nothing
  have toldBehind : ∀ {history : TeardownHistory} {result : DestroyResult}, Sees context past true history →
      (cleanUp >>= fun _ => pure result).Ensures recorded history (Told context) := by
    intro history result seen
    rw [Sees, if_pos rfl, fresh] at seen
    rw [Prog.ensures_bind]
    refine (ensures_of_silent cleans).mono fun outcome after same => ?_
    have known : factsOf context after = { Facts.none with foundAbsent := true } := same.trans seen
    have unended : (factsOf context after).recordedEnd = false := by rw [known]; rfl
    cases outcome with
    | error failure => exact told_of_not_gone unended fun result impossible => nomatch impossible
    | ok _ => exact ⟨unended, fun _ _ _ _ => fair_of_found (by rw [known]) (by rw [known]; rfl)⟩
  have unended : ∀ {history : TeardownHistory}, factsOf context history = factsOf context past →
      (factsOf context history).recordedEnd = false := by
    intro history same
    rw [same, fresh]
    rfl
  unfold destroyAndWait
  cases refusal with
  | some reason =>
      refine told_of_not_gone (unended rfl) fun result isResult => ?_
      cases isResult
      exact .inl rfl
  | none =>
      dsimp only
      rw [Prog.ensures_bind, Prog.ensures_attempt]
      refine (isRead past).mono fun answer after seen => ?_
      rcases answer with failure | (none | labels)
      · refine told_of_not_gone (unended seen) fun result isResult => ?_
        cases isResult
        exact .inl rfl
      · exact toldBehind seen
      · have unchanged : factsOf context after = factsOf context past := seen
        rw [Prog.thenEnsures_ok]
        dsimp only
        split
        · refine told_of_not_gone (unended unchanged) fun result isResult => ?_
          cases isResult
          exact .inl rfl
        · rw [Prog.ensures_bind, Prog.ensures_attempt]
          refine (ensures_of_silent deletes).mono fun deleted behind same => ?_
          have unchanged : factsOf context behind = factsOf context past := same.trans unchanged
          cases deleted with
          | error failure =>
              refine told_of_not_gone (unended unchanged) fun result isResult => ?_
              cases isResult
              exact .inl rfl
          | ok _ =>
              rw [Prog.thenEnsures_ok]
              dsimp only
              rw [Prog.ensures_bind, ensures_substrate]
              intro now
              have unchanged := (factsOf_call .now rfl now).trans unchanged
              cases now with
              | error failure =>
                  refine told_of_not_gone (unended unchanged) fun result impossible => ?_
                  cases impossible
              | ok now =>
                  rw [Prog.thenEnsures_ok, Prog.ensures_bind]
                  refine (sees_waitForGone isRead _ rounds _).mono fun waited later seen => ?_
                  rw [Sees, unchanged] at seen
                  rcases waited with failure | (none | (_ | _))
                  · refine told_of_not_gone (unended seen) fun result impossible => ?_
                    cases impossible
                  · refine told_of_not_gone (unended seen) fun result impossible => ?_
                    cases impossible
                  · refine told_of_not_gone (unended seen) fun result isResult => ?_
                    cases isResult
                    exact .inr rfl
                  · exact toldBehind seen

theorem always_bestEffort {call : ProviderM Unit} (silent : call.Always (silentCalls context)) :
    (bestEffort call).Always (silentCalls context) :=
  silent.tryCatch fun _ => .pure ()

/-- Whatever provider made the sandbox: its destroy is fair where it calls the sandbox gone. -/
theorem told_by_destroyOfProvider (deployment : Deployment) (rounds : Nat) {provider : LabProviderId}
    (creates : provider ≠ .aws) (fresh : factsOf context past = .none) :
    (destroyOfProvider deployment rounds context provider).Ensures recorded past (Told context) := by
  cases provider with
  | kubernetes =>
      exact told_by_destroyAndWait deployment kindWords rounds context.namespaceName _
        (isRead_getNamespace context) _ (always_substrate rfl) (.pure ()) fresh
  | docker =>
      show (bestEffort (substrate (.destroyWorkspace context.sessionId)) >>= _ : ProviderM DestroyResult).Ensures
        recorded past (Told context)
      have workspace : (bestEffort (substrate (.destroyWorkspace context.sessionId))).Always (silentCalls context) :=
        always_bestEffort (always_substrate rfl)
      rw [Prog.ensures_bind]
      refine (ensures_of_silent workspace).mono fun outcome after same => ?_
      cases outcome with
      | error failure =>
          refine told_of_not_gone (by rw [same, fresh]; rfl) fun result impossible => ?_
          cases impossible
      | ok _ =>
          exact told_by_destroyAndWait deployment dockerWords rounds context.sandboxRef _
            (isRead_inspectContainer context) _ (always_substrate rfl) (always_bestEffort (always_substrate rfl))
            (same.trans fresh)
  | ansible => exact told_by_ansible_destroy deployment fresh
  | aws => exact absurd rfl creates
  | linux => exact told_by_container_destroy deployment .linux fresh
  | terraform => exact told_by_container_destroy deployment .terraform fresh
  | cicd => exact told_by_container_destroy deployment .cicd fresh

end JumptotechLabs.Providers
