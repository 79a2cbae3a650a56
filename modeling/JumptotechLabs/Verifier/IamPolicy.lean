/-
Module: JumptotechLabs.Verifier.IamPolicy
Layer: Verifier (services/verifier/src/iam-policy.ts)
Purpose: IAM policy documents and what they decide: wildcard patterns, the operators of a condition block,
  the decision for a request, and the check that no context could allow one.
Main exports: Builtins, matchesIamPattern, ConditionOperator, conditionsHold, evaluateIamPolicy, mayAllowInAnyContext,
  matchesIamPattern_exact_iff, mayAllowInAnyContext_over_approximates
-/
import JumptotechLabs.Core.Json
import JumptotechLabs.Core.Utf16
import JumptotechLabs.Core.Wildcard
import JumptotechLabs.Verifier.Cidr

namespace JumptotechLabs.Verifier

open JumptotechLabs.Core

/-- The language's own functions on texts that an evaluation uses: `text.toLowerCase()` and
    `Number(text)`. -/
structure Builtins where
  toLowerCase : Utf16 → Utf16
  toNumber : Utf16 → Number

/-! ### Patterns -/

/-- `matchesIamPattern`. -/
def matchesIamPattern (builtins : Builtins) (pattern value : Utf16) (caseSensitive : Bool) : Bool :=
  let p := if caseSensitive then pattern else builtins.toLowerCase pattern
  let v := if caseSensitive then value else builtins.toLowerCase value
  globMatch (unitOf '*') (unitOf '?') p v

/-- The language of a pattern. -/
def InLanguage (pattern value : Utf16) : Prop := Globs (unitOf '*') (unitOf '?') pattern value

/-- The value can be read with every `*` of the pattern that faces a `*` of the value standing for that
    one alone. -/
def ReadsPlainly (pattern value : Utf16) : Prop := Faces (unitOf '*') (unitOf '?') pattern value

theorem star_ne_any : unitOf '*' ≠ unitOf '?' := by decide

/-- Matching is exact just where a value of the language can be read with every `*` that faces a `*`
    standing for it alone. It comes to an answer on every input, and the form without regard to case is
    the exact one on texts in lower case. -/
theorem matchesIamPattern_exact_iff (builtins : Builtins) (pattern value : Utf16) :
    ((matchesIamPattern builtins pattern value true = true ↔ InLanguage pattern value) ↔
        (InLanguage pattern value → ReadsPlainly pattern value)) ∧
      (scanLoop (unitOf '*') (unitOf '?') (scanFuel pattern value)
        ⟨pattern, value, none⟩).isSome = true ∧
      matchesIamPattern builtins pattern value false =
        matchesIamPattern builtins (builtins.toLowerCase pattern) (builtins.toLowerCase value) true :=
  ⟨globMatch_exact_iff star_ne_any pattern value, scanLoop_terminates _ _ pattern value, rfl⟩

/-- Lower case of the ASCII letters, and the numbers written in digits alone. -/
def asciiBuiltins : Builtins where
  toLowerCase := List.map Utf16.lowerAscii
  toNumber text := if text ≠ [] ∧ text.all Utf16.isDigit then .finite text.digitsValue else .nan

/-- `*` stands for `*a`, but the matcher takes it for the first unit alone. -/
theorem star_facing_star_is_refused :
    ¬ (matchesIamPattern asciiBuiltins (units "*") (units "*a") true = true ↔
      InLanguage (units "*") (units "*a")) := by
  have matching : InLanguage (units "*") (units "*a") :=
    .absorb (unitOf '*') (.absorb (unitOf 'a') (.stop .nil))
  have refused : matchesIamPattern asciiBuiltins (units "*") (units "*a") true = false := by
    decide
  intro exactly
  rw [exactly.mpr matching] at refused
  cases refused

/-! ### Policies -/

/-- What a statement does. -/
inductive IamEffect where
  | allow
  | deny
deriving DecidableEq

/-- One entry of a condition block: an operator, a key and the values listed for it. -/
structure IamCondition where
  operator : Utf16
  key : Utf16
  values : List Utf16
deriving DecidableEq

/-- A statement, as the parser has it. -/
structure IamStatement where
  effect : IamEffect
  actions : List Utf16
  notActions : List Utf16
  resources : List Utf16
  notResources : List Utf16
  conditions : List IamCondition
deriving DecidableEq

/-- A policy is its statements. -/
structure IamPolicy where
  statements : List IamStatement
deriving DecidableEq

/-- The context is the entries of a record, in their order. -/
structure IamRequest where
  action : Utf16
  resource : Utf16
  context : Option (List (Utf16 × Utf16))
deriving DecidableEq

/-- What a policy decides. -/
inductive IamDecision where
  | allow
  | explicitDeny
  | implicitDeny
deriving DecidableEq

/-- A list of patterns, or where it is empty the list of patterns that must not match. -/
def covers (matching : Utf16 → Bool) (patterns notPatterns : List Utf16) : Bool :=
  if 0 < patterns.length then patterns.any matching
  else if 0 < notPatterns.length then !notPatterns.any matching
  else false

/-- `statementCoversAction`: without regard to case. -/
def statementCoversAction (builtins : Builtins) (statement : IamStatement) (action : Utf16) : Bool :=
  covers (fun pattern => matchesIamPattern builtins pattern action false) statement.actions
    statement.notActions

/-- `statementCoversResource`: case counts. -/
def statementCoversResource (builtins : Builtins) (statement : IamStatement) (resource : Utf16) : Bool :=
  covers (fun pattern => matchesIamPattern builtins pattern resource true) statement.resources
    statement.notResources

/-! ### Conditions -/

/-- `KNOWN`, and `null`. -/
inductive ConditionOperator where
  | stringEquals
  | stringNotEquals
  | stringEqualsIgnoreCase
  | stringNotEqualsIgnoreCase
  | stringLike
  | stringNotLike
  | arnEquals
  | arnNotEquals
  | arnLike
  | arnNotLike
  | numericEquals
  | numericNotEquals
  | numericLessThan
  | numericLessThanEquals
  | numericGreaterThan
  | numericGreaterThanEquals
  | bool
  | ipAddress
  | notIpAddress
  | null
deriving DecidableEq

namespace ConditionOperator

/-- The operators, in the order of the source. -/
def all : List ConditionOperator :=
  [stringEquals, stringNotEquals, stringEqualsIgnoreCase, stringNotEqualsIgnoreCase, stringLike,
    stringNotLike, arnEquals, arnNotEquals, arnLike, arnNotLike, numericEquals, numericNotEquals,
    numericLessThan, numericLessThanEquals, numericGreaterThan, numericGreaterThanEquals, bool, ipAddress,
    notIpAddress, null]

/-- The name in lower case, as the sets of operators list it. -/
def name : ConditionOperator → Utf16
  | stringEquals => units "stringequals"
  | stringNotEquals => units "stringnotequals"
  | stringEqualsIgnoreCase => units "stringequalsignorecase"
  | stringNotEqualsIgnoreCase => units "stringnotequalsignorecase"
  | stringLike => units "stringlike"
  | stringNotLike => units "stringnotlike"
  | arnEquals => units "arnequals"
  | arnNotEquals => units "arnnotequals"
  | arnLike => units "arnlike"
  | arnNotLike => units "arnnotlike"
  | numericEquals => units "numericequals"
  | numericNotEquals => units "numericnotequals"
  | numericLessThan => units "numericlessthan"
  | numericLessThanEquals => units "numericlessthanequals"
  | numericGreaterThan => units "numericgreaterthan"
  | numericGreaterThanEquals => units "numericgreaterthanequals"
  | bool => units "bool"
  | ipAddress => units "ipaddress"
  | notIpAddress => units "notipaddress"
  | null => units "null"

/-- `NEGATED`: the operators that hold when the key is absent. -/
def negated : ConditionOperator → Bool
  | stringNotEquals | stringNotEqualsIgnoreCase | stringNotLike | arnNotEquals | arnNotLike
  | numericNotEquals | notIpAddress => true
  | _ => false

/-- The operator of a name in lower case. -/
def ofName (op : Utf16) : Option ConditionOperator := all.find? fun operator => operator.name = op

end ConditionOperator

/-- `compare` of the numeric operators: nothing compares with what is not a finite number. -/
def numericCompare (op : ConditionOperator) (actual bound : Number) : Bool :=
  match actual.toFinite, bound.toFinite with
  | some actual, some bound =>
      match op with
      | .numericEquals => actual = bound
      | .numericNotEquals => actual ≠ bound
      | .numericLessThan => actual < bound
      | .numericLessThanEquals => actual ≤ bound
      | .numericGreaterThan => actual > bound
      | _ => actual ≥ bound
  | _, _ => false

/-- An address or a block, as the address operators read it. -/
def conditionBlock (text : Utf16) : Option Ipv4Cidr :=
  parseIpv4Cidr (if unitOf '/' ∈ text then text else text ++ units "/32")

/-- The address lies in one of the listed blocks. -/
def insideAny (value : Utf16) (expected : List Utf16) : Bool :=
  expected.any fun listed =>
    match conditionBlock listed, conditionBlock value with
    | some block, some address => cidrContains block address
    | _, _ => false

/-- What `conditionHolds` says of a key that is present. -/
def presentHolds (builtins : Builtins) (op : ConditionOperator) (value : Utf16)
    (expected : List Utf16) : Bool :=
  let sameCase := fun listed => builtins.toLowerCase listed = builtins.toLowerCase value
  let compare := fun listed => numericCompare op (builtins.toNumber value) (builtins.toNumber listed)
  match op with
  | .numericNotEquals => expected.all compare
  | .numericEquals | .numericLessThan | .numericLessThanEquals | .numericGreaterThan
  | .numericGreaterThanEquals => expected.any compare
  | .stringEquals | .arnEquals => expected.any fun listed => listed = value
  | .stringNotEquals | .arnNotEquals => !expected.any fun listed => listed = value
  | .stringEqualsIgnoreCase => expected.any fun listed => sameCase listed
  | .stringNotEqualsIgnoreCase => !expected.any fun listed => sameCase listed
  | .stringLike | .arnLike => expected.any fun listed => matchesIamPattern builtins listed value true
  | .stringNotLike | .arnNotLike =>
      !expected.any fun listed => matchesIamPattern builtins listed value true
  | .bool => expected.any fun listed => sameCase listed
  | .ipAddress => insideAny value expected
  | .notIpAddress => !insideAny value expected
  -- `Null` is answered before a key that is present is looked at.
  | .null => false

/-- `ForAnyValue:` or `ForAllValues:`. -/
inductive SetQualifier where
  | any
  | all
deriving DecidableEq

/-- `/^<word>/i`, for a word in lower case. -/
def startsWithWord (word text : Utf16) : Bool := (text.take word.length).map Utf16.lowerAscii = word

/-- `/<word>$/i`, for a word in lower case. -/
def endsWithWord (word text : Utf16) : Bool :=
  (text.drop (text.length - word.length)).map Utf16.lowerAscii = word

/-- The qualifier in front of an operator, and the operator. -/
def peelQualifier (operator : Utf16) : Option SetQualifier × Utf16 :=
  if startsWithWord (units "foranyvalue:") operator then
    (some .any, operator.drop (units "ForAnyValue:").length)
  else if startsWithWord (units "forallvalues:") operator then
    (some .all, operator.drop (units "ForAllValues:").length)
  else (none, operator)

/-- The suffix behind an operator, and the operator. -/
def peelIfExists (operator : Utf16) : Bool × Utf16 :=
  if endsWithWord (units "ifexists") operator then
    (true, operator.take (operator.length - (units "IfExists").length))
  else (false, operator)

/-- What the operator of a condition names. -/
structure ConditionForm where
  setQualifier : Option SetQualifier
  ifExists : Bool
  op : ConditionOperator
deriving DecidableEq

/-- The operator without its qualifier and its suffix, where it is one that can be evaluated. -/
def conditionForm (builtins : Builtins) (rawOperator : Utf16) : Option ConditionForm :=
  let (setQualifier, operator) := peelQualifier rawOperator
  let (ifExists, operator) := peelIfExists operator
  (ConditionOperator.ofName (builtins.toLowerCase operator)).map fun op =>
    ⟨setQualifier, ifExists, op⟩

/-- What `conditionHolds` says of an operator it knows. -/
def ConditionForm.holds (builtins : Builtins) (form : ConditionForm) (value : Option Utf16)
    (expected : List Utf16) : Bool :=
  if form.op = .null then
    let wantMissing := expected.any fun listed => builtins.toLowerCase listed = units "true"
    if wantMissing then value.isNone else value.isSome
  else
    match value with
    | none =>
        if form.ifExists || form.setQualifier = some .all then true
        else if form.setQualifier = some .any then false
        else form.op.negated
    | some value => presentHolds builtins form.op value expected

/-- `conditionHolds`; the error is `IamConditionUnsupportedError`, with the operator. -/
def conditionHolds (builtins : Builtins) (rawOperator : Utf16) (value : Option Utf16)
    (expected : List Utf16) : Except Utf16 Bool :=
  match conditionForm builtins rawOperator with
  | none => .error rawOperator
  | some form => .ok (form.holds builtins value expected)

theorem conditionHolds_eq (builtins : Builtins) (rawOperator : Utf16) (value : Option Utf16)
    (expected : List Utf16) :
    conditionHolds builtins rawOperator value expected =
      match conditionForm builtins rawOperator with
      | none => .error rawOperator
      | some form => .ok (form.holds builtins value expected) := rfl

/-- `byKey.get(key.toLowerCase())`: of two entries under one key the later counts. -/
def contextValue (builtins : Builtins) (context : List (Utf16 × Utf16)) (key : Utf16) : Option Utf16 :=
  (context.reverse.find? fun entry =>
    builtins.toLowerCase entry.1 = builtins.toLowerCase key).map Prod.snd

/-- `conditionsHold`: the first condition that does not hold, or that cannot be evaluated, decides. -/
def conditionsHold (builtins : Builtins) (statement : IamStatement) (context : List (Utf16 × Utf16)) :
    Except Utf16 Bool :=
  statement.conditions.allM fun condition =>
    conditionHolds builtins condition.operator (contextValue builtins context condition.key)
      condition.values

/-! ### Decisions -/

/-- The statement covers the action and the resource. -/
def statementCovers (builtins : Builtins) (statement : IamStatement) (action resource : Utf16) : Bool :=
  statementCoversAction builtins statement action && statementCoversResource builtins statement resource

/-- The statement covers the request, and its conditions hold where there is a context. -/
def statementApplies (builtins : Builtins) (request : IamRequest) (statement : IamStatement) :
    Except Utf16 Bool :=
  if statementCovers builtins statement request.action request.resource then
    match request.context with
    | none => .ok true
    | some context => conditionsHold builtins statement context
  else .ok false

/-- The statements that apply, in their order. -/
def matchingStatements (builtins : Builtins) (request : IamRequest) :
    List IamStatement → Except Utf16 (List IamStatement)
  | [] => .ok []
  | statement :: rest => do
      let applies ← statementApplies builtins request statement
      let later ← matchingStatements builtins request rest
      .ok (if applies then statement :: later else later)

/-- The decision of the statements that apply: a `Deny` wins, then an `Allow`. -/
def decisionOf (matching : List IamStatement) : IamDecision :=
  if matching.any fun statement => statement.effect = .deny then .explicitDeny
  else if matching.any fun statement => statement.effect = .allow then .allow
  else .implicitDeny

/-- `evaluateIamPolicy`. -/
def evaluateIamPolicy (builtins : Builtins) (policy : IamPolicy) (request : IamRequest) :
    Except Utf16 IamDecision :=
  (matchingStatements builtins request policy.statements).map decisionOf

/-- `mayAllowInAnyContext`. -/
def mayAllowInAnyContext (builtins : Builtins) (policy : IamPolicy) (action resource : Utf16) : Bool :=
  let covering := policy.statements.filter fun statement =>
    statementCovers builtins statement action resource
  if covering.any fun statement => statement.effect = .deny && statement.conditions.length = 0 then false
  else covering.any fun statement => statement.effect = .allow

/-! ### The check without a context -/

section Decisions

variable {builtins : Builtins} {request : IamRequest}

/-- Where no condition raises an error, the statements that apply are those whose conditions hold. -/
theorem mem_matchingStatements_iff {statements matching : List IamStatement}
    (evaluated : matchingStatements builtins request statements = .ok matching)
    (statement : IamStatement) :
    statement ∈ matching ↔
      statement ∈ statements ∧ statementApplies builtins request statement = .ok true := by
  induction statements generalizing matching with
  | nil =>
      cases evaluated
      simp
  | cons first rest ih =>
      rw [matchingStatements] at evaluated
      cases isFirst : statementApplies builtins request first with
      | error failure =>
          rw [isFirst] at evaluated
          cases evaluated
      | ok applies =>
          cases isRest : matchingStatements builtins request rest with
          | error failure =>
              rw [isFirst, isRest] at evaluated
              cases evaluated
          | ok later =>
              rw [isFirst, isRest] at evaluated
              cases evaluated
              have others := ih isRest
              cases applies with
              | true =>
                  simp only [if_true, List.mem_cons, others]
                  constructor
                  · rintro (rfl | ⟨inRest, holds⟩)
                    · exact ⟨.inl rfl, isFirst⟩
                    · exact ⟨.inr inRest, holds⟩
                  · rintro ⟨rfl | inRest, holds⟩
                    · exact .inl rfl
                    · exact .inr ⟨inRest, holds⟩
              | false =>
                  simp only [Bool.false_eq_true, if_false, List.mem_cons, others]
                  constructor
                  · rintro ⟨inRest, holds⟩
                    exact ⟨.inr inRest, holds⟩
                  · rintro ⟨rfl | inRest, holds⟩
                    · rw [isFirst] at holds
                      cases holds
                    · exact ⟨inRest, holds⟩

theorem covers_of_applies {statement : IamStatement}
    (applies : statementApplies builtins request statement = .ok true) :
    statementCovers builtins statement request.action request.resource = true := by
  rw [statementApplies] at applies
  split at applies
  · assumption
  · cases applies

theorem applies_of_unconditional {statement : IamStatement}
    (covers : statementCovers builtins statement request.action request.resource = true)
    (unconditional : statement.conditions = []) :
    statementApplies builtins request statement = .ok true := by
  rw [statementApplies, if_pos covers]
  cases request.context with
  | none => rfl
  | some context =>
      show conditionsHold builtins statement context = .ok true
      rw [conditionsHold, unconditional]
      rfl

theorem decisionOf_eq_allow_iff {matching : List IamStatement} :
    decisionOf matching = .allow ↔
      (∀ statement ∈ matching, statement.effect ≠ .deny) ∧
        ∃ statement ∈ matching, statement.effect = .allow := by
  rw [decisionOf]
  split
  · rename_i denied
    simp only [reduceCtorEq, false_iff]
    simp only [List.any_eq_true, decide_eq_true_eq] at denied
    obtain ⟨statement, isMatching, isDeny⟩ := denied
    exact fun allowed => allowed.1 statement isMatching isDeny
  · rename_i notDenied
    have noDeny : ∀ statement ∈ matching, statement.effect ≠ .deny := by
      simpa using notDenied
    split
    · rename_i allowed
      simp only [List.any_eq_true, decide_eq_true_eq] at allowed
      exact ⟨fun _ => ⟨noDeny, allowed⟩, fun _ => rfl⟩
    · rename_i notAllowed
      simp only [reduceCtorEq, false_iff]
      intro allowed
      exact notAllowed (by simpa using allowed.2)

/-- A request that is allowed is covered by an `Allow`, and by no `Deny` without conditions. -/
theorem mayAllow_of_allowed {policy : IamPolicy}
    (allowed : evaluateIamPolicy builtins policy request = .ok .allow) :
    mayAllowInAnyContext builtins policy request.action request.resource = true := by
  rw [evaluateIamPolicy] at allowed
  cases evaluated : matchingStatements builtins request policy.statements with
  | error failure =>
      rw [evaluated] at allowed
      cases allowed
  | ok matching =>
      rw [evaluated] at allowed
      obtain ⟨noDeny, statement, isMatching, isAllow⟩ :=
        decisionOf_eq_allow_iff.mp (Except.ok.inj allowed)
      obtain ⟨inPolicy, applies⟩ := (mem_matchingStatements_iff evaluated statement).mp isMatching
      have noUnconditional : ¬ (policy.statements.filter fun statement =>
          statementCovers builtins statement request.action request.resource).any (fun statement =>
            statement.effect = .deny && statement.conditions.length = 0) = true := by
        simp only [List.any_eq_true, List.mem_filter, Bool.and_eq_true, decide_eq_true_eq,
          List.length_eq_zero_iff]
        rintro ⟨denying, ⟨inPolicy, covers⟩, isDeny, unconditional⟩
        have isMatching := (mem_matchingStatements_iff evaluated denying).mpr
          ⟨inPolicy, applies_of_unconditional covers unconditional⟩
        exact noDeny denying isMatching isDeny
      rw [mayAllowInAnyContext]
      simp only [if_neg noUnconditional]
      simp only [List.any_eq_true, List.mem_filter, decide_eq_true_eq]
      exact ⟨statement, ⟨inPolicy, covers_of_applies applies⟩, isAllow⟩

end Decisions

/-- What some context allows, the check without a context lets through; and what it does not let through,
    no context allows. -/
theorem mayAllowInAnyContext_over_approximates (builtins : Builtins) (policy : IamPolicy)
    (action resource : Utf16) :
    (∀ context, evaluateIamPolicy builtins policy ⟨action, resource, context⟩ = .ok .allow →
      mayAllowInAnyContext builtins policy action resource = true) ∧
    (mayAllowInAnyContext builtins policy action resource = false →
      ∀ context decision,
        evaluateIamPolicy builtins policy ⟨action, resource, context⟩ = .ok decision →
        decision ≠ .allow) := by
  constructor
  · intro context allowed
    have mayAllow := mayAllow_of_allowed allowed
    exact mayAllow
  · intro notAllowed context decision evaluated isAllow
    rw [isAllow] at evaluated
    have mayAllow := mayAllow_of_allowed evaluated
    rw [notAllowed] at mayAllow
    cases mayAllow

/-- A policy that allows uploads encrypted with KMS. -/
def encryptedUploads : IamPolicy :=
  ⟨[⟨.allow, [units "s3:Put*"], [], [units "arn:aws:s3:::lab/*"], [],
    [⟨units "StringEquals", units "s3:x-amz-server-side-encryption", [units "aws:kms"]⟩]⟩]⟩

theorem mayAllowInAnyContext_over_approximates_uploads :
    mayAllowInAnyContext asciiBuiltins encryptedUploads (units "s3:PutObject")
        (units "arn:aws:s3:::lab/x") = true ∧
      ∀ context decision,
        evaluateIamPolicy asciiBuiltins encryptedUploads
          ⟨units "s3:GetObject", units "arn:aws:s3:::lab/x", context⟩ = .ok decision →
        decision ≠ .allow := by
  have allowed : evaluateIamPolicy asciiBuiltins encryptedUploads
      ⟨units "s3:PutObject", units "arn:aws:s3:::lab/x",
        some [(units "s3:x-amz-server-side-encryption", units "aws:kms")]⟩ = .ok .allow := by
    decide
  have notAllowed : mayAllowInAnyContext asciiBuiltins encryptedUploads (units "s3:GetObject")
      (units "arn:aws:s3:::lab/x") = false := by
    decide
  exact ⟨(mayAllowInAnyContext_over_approximates asciiBuiltins encryptedUploads (units "s3:PutObject")
      (units "arn:aws:s3:::lab/x")).1 _ allowed,
    (mayAllowInAnyContext_over_approximates asciiBuiltins encryptedUploads (units "s3:GetObject")
      (units "arn:aws:s3:::lab/x")).2 notAllowed⟩

end JumptotechLabs.Verifier
