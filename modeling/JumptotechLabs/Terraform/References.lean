/-
Module: JumptotechLabs.Terraform.References
Layer: Terraform (services/lab-orchestrator/src/terraform/references.ts)
Purpose: The references of a Terraform expression: a walk over its text with a stack of modes, which gives the dotted
  chains outside of literal text, and what each chain refers to.
Main exports: ReferenceKind, TerraformReference, dottedChains, classify, extractReferences, classify_address,
  mem_extractReferences
-/
import JumptotechLabs.Terraform.Hcl

namespace JumptotechLabs.Terraform

open JumptotechLabs.Core
open JumptotechLabs.Core.Utf16 (isLetter isDigit isWord)

/-- What a reference points at. -/
inductive ReferenceKind where
  | resource
  | data
  | variable_
  | local_
  | module_
  | builtin
  | unknown
deriving DecidableEq

/-- A reference of an expression. -/
structure TerraformReference where
  kind : ReferenceKind
  /-- The object referred to, without the attribute. -/
  target : Utf16
  /-- The attribute path after the target. -/
  property : Option Utf16
  /-- Everything, as written after index brackets were dropped. -/
  address : Utf16
deriving DecidableEq

/-- `BUILTIN`. -/
def builtinHeads : List Utf16 := ["each", "count", "path", "terraform", "self"].map units

/-- `RESERVED`. -/
def reservedHeads : List Utf16 :=
  ["var", "local", "data", "module", "each", "count", "path", "terraform", "self"].map units

/-- `IDENTIFIER`. -/
def isIdentifier : Utf16 → Bool
  | [] => false
  | unit :: rest => isIdentStart unit && rest.all isIdentPart

def isLowerLetter (unit : UInt16) : Bool := 97 ≤ unit && unit ≤ 122

/-- `RESOURCE_TYPE`. -/
def isResourceType : Utf16 → Bool
  | [] => false
  | unit :: rest => isLowerLetter unit && rest.all fun other => isLowerLetter other || isDigit other || other == 95

/-! ### The walk -/

/-- What the reader of chains is in. -/
inductive Mode where
  | code
  | string
  | heredoc
deriving DecidableEq

/-- What the walk keeps; the top of a stack stands in front. -/
structure ChainState where
  stack : List Mode
  /-- Brace depth of each open interpolation. -/
  interpolations : List Int
  braceDepth : Int
  heredocTag : Option Utf16
  buffer : Utf16
deriving DecidableEq

def ChainState.start : ChainState := ⟨[.code], [], 0, none, []⟩

/-- `flush`: the buffer, if it is a chain. -/
def ChainState.flushed (state : ChainState) : List Utf16 := if 46 ∈ state.buffer then [state.buffer] else []

def ChainState.emptied (state : ChainState) : ChainState := { state with buffer := [] }

/-- `[A-Za-z0-9_.\-]`. -/
def isChainPart (unit : UInt16) : Bool := isWord unit || unit == 46 || unit == 45

/-- What stands behind a block comment. -/
def behindBlockComment : Utf16 → Utf16
  | [] => []
  | [_] => []
  | unit :: next :: rest => if unit = 42 ∧ next = 47 then rest else behindBlockComment (next :: rest)

/-- An index, and what stands behind its bracket. Of an index that is not closed the last unit is left out. -/
def bracketed : Nat → Utf16 → Utf16 × Utf16
  | _, [] => ([], [])
  | _, [_] => ([], [])
  | depth, unit :: next :: rest =>
      let depth := if unit = 91 then depth + 1 else if unit = 93 then depth - 1 else depth
      if depth = 0 then ([], next :: rest)
      else (unit :: (bracketed depth (next :: rest)).1, (bracketed depth (next :: rest)).2)

/-- An identifier of letters, digits and underscores, in front of a text. -/
def tagAt : Utf16 → Utf16
  | [] => []
  | unit :: rest => if isIdentStart unit then unit :: rest.takeWhile isWord else []

/-- `(^<<-?)([A-Za-z_][A-Za-z0-9_]*)`, behind the `<<`: the tag, and what stands behind it. -/
def heredocAt (rest : Utf16) : Option (Utf16 × Utf16) :=
  let tagged := behindDash rest
  let tag := tagAt tagged
  if tag = [] then none else some (tag, tagged.drop tag.length)

/-- A line that starts with the tag: what stands behind it. -/
def behindTag (tag : Option Utf16) (line : Utf16) : Option Utf16 :=
  let text := line.dropWhile fun unit => unit == 32 || unit == 9
  let word := tagAt text
  if word ≠ [] ∧ some word = tag then some (text.drop word.length) else none

/-- `dottedChains`, from some place of the expression on. Every round takes a unit or more. -/
def chainsFrom : Nat → ChainState → Utf16 → List Utf16
  | 0, _, _ => []
  | _ + 1, state, [] => state.flushed
  | fuel + 1, state, char :: rest =>
      match state.stack.head?.getD .code with
      | .code =>
          if char = 35 ∨ char = 47 ∧ rest.head? = some 47 then
            state.flushed ++ chainsFrom fuel state.emptied (rest.dropWhile (· != 10))
          else if char = 47 ∧ rest.head? = some 42 then
            state.flushed ++ chainsFrom fuel state.emptied (behindBlockComment rest.tail)
          else if char = 34 then
            state.flushed ++ chainsFrom fuel { state.emptied with stack := .string :: state.stack } rest
          else
            match (if char = 60 ∧ rest.head? = some 60 then heredocAt rest.tail else none) with
            | some (tag, behind) =>
                state.flushed ++ chainsFrom fuel
                  { state.emptied with stack := .heredoc :: state.stack, heredocTag := some tag } behind
            | none =>
                let depth := if char = 123 then state.braceDepth + 1 else state.braceDepth
                if char = 125 ∧ state.interpolations.head? = some depth then
                  state.flushed ++ chainsFrom fuel
                    { state.emptied with
                      stack := state.stack.tail, interpolations := state.interpolations.tail } rest
                else
                  let state := { state with braceDepth := if char = 125 then depth - 1 else depth }
                  if isChainPart char then
                    if state.buffer = [] ∧ ¬ isIdentStart char then chainsFrom fuel state rest
                    else chainsFrom fuel { state with buffer := state.buffer ++ [char] } rest
                  else if char = 91 then
                    if state.buffer = [] then chainsFrom fuel state rest
                    else
                      let index := bracketed 1 rest
                      chainsFrom fuel .start index.1 ++ chainsFrom fuel state index.2
                  else state.flushed ++ chainsFrom fuel state.emptied rest
      | mode =>
          if char = 36 ∧ rest.head? = some 36 ∧ rest.tail.head? = some 123 then
            chainsFrom fuel state (rest.drop 2)
          else if char = 36 ∧ rest.head? = some 123 then
            chainsFrom fuel
              { state with
                stack := .code :: state.stack, braceDepth := state.braceDepth + 1,
                interpolations := (state.braceDepth + 1) :: state.interpolations } rest.tail
          else if mode = .string then
            if char = 92 then chainsFrom fuel state (rest.drop 1)
            else if char = 34 then chainsFrom fuel { state with stack := state.stack.tail } rest
            else chainsFrom fuel state rest
          else
            match (if char = 10 then behindTag state.heredocTag rest else none) with
            | some behind =>
                chainsFrom fuel { state with stack := state.stack.tail, heredocTag := none } behind
            | none => chainsFrom fuel state rest

/-- Every dotted identifier chain outside of literal text. -/
def dottedChains (expression : Utf16) : List Utf16 := chainsFrom (expression.length + 1) .start expression

/-! ### What a chain refers to -/

/-- `rest.join('.')`, if there is a rest. -/
def joined : List Utf16 → Option Utf16
  | [] => none
  | parts => some ([46].intercalate parts)

/-- Turn a dotted chain into a structured reference, or discard it. -/
def classify (chain : Utf16) : Option TerraformReference :=
  match (chain.splitOn 46).filter (· ≠ []) with
  | head :: second :: rest =>
      if ¬ isIdentifier head then none
      else if head ∈ builtinHeads then some ⟨.builtin, head, none, chain⟩
      else if head = units "var" ∨ head = units "local" then
        if ¬ isIdentifier second then none
        else some ⟨if head = units "var" then .variable_ else .local_, head ++ 46 :: second, joined rest, chain⟩
      else if head = units "module" then
        if ¬ isIdentifier second then none
        else some ⟨.module_, units "module." ++ second, joined rest, chain⟩
      else if head = units "data" then
        match rest with
        | name :: path =>
            if ¬ isResourceType second ∨ ¬ isIdentifier name then none
            else some ⟨.data, units "data." ++ second ++ 46 :: name, joined path, chain⟩
        | [] => none
      else if head ∈ reservedHeads then some ⟨.unknown, head, none, chain⟩
      else if ¬ isResourceType head ∨ ¬ isIdentifier second then none
      else some ⟨.resource, head ++ 46 :: second, joined rest, chain⟩
  | _ => none

/-- `Map.set`, by address. -/
def setReference (found : List TerraformReference) (reference : TerraformReference) : List TerraformReference :=
  if found.any fun other => other.address = reference.address then
    found.map fun other => if other.address = reference.address then reference else other
  else found ++ [reference]

/-- Every reference in one expression's raw source, each address once. -/
def extractReferences (expression : Utf16) : List TerraformReference :=
  ((dottedChains expression).filterMap classify).foldl setReference []

/-- Does this expression refer to the target? -/
def referencesTarget (expression target : Utf16) : Bool :=
  (extractReferences expression).any fun reference => reference.target = Utf16.trim target

/-! ### References and their addresses -/

theorem classify_address {chain : Utf16} {reference : TerraformReference}
    (classified : classify chain = some reference) : reference.address = chain := by
  unfold classify at classified
  split at classified
  · split at classified
    · cases classified
    · split at classified
      · cases classified
        rfl
      · split at classified
        · split at classified
          · cases classified
          · cases classified
            rfl
        · split at classified
          · split at classified
            · cases classified
            · cases classified
              rfl
          · split at classified
            · split at classified
              · split at classified
                · cases classified
                · cases classified
                  rfl
              · cases classified
            · split at classified
              · cases classified
                rfl
              · split at classified
                · cases classified
                · cases classified
                  rfl
  · cases classified

/-- The reference of an address. -/
theorem classify_of_address {chain : Utf16} {reference : TerraformReference}
    (classified : classify chain = some reference) : classify reference.address = some reference := by
  rw [classify_address classified]
  exact classified

theorem mem_setReference {found : List TerraformReference} {reference other : TerraformReference}
    (known : ∀ present ∈ found, classify present.address = some present)
    (classified : classify reference.address = some reference) :
    other ∈ setReference found reference ↔ other ∈ found ∨ other = reference := by
  unfold setReference
  split
  · rename_i again
    obtain ⟨present, inside, same⟩ := List.any_eq_true.mp again
    have isReference : present = reference := by
      have := known present inside
      rw [of_decide_eq_true same, classified] at this
      exact (Option.some.inj this).symm
    have unchanged : (found.map fun other => if other.address = reference.address then reference else other) =
        found := by
      refine (List.map_congr_left fun other member => ?_).trans (List.map_id found)
      split
      · rename_i same'
        have := known other member
        rw [same', classified] at this
        exact Option.some.inj this
      · rfl
    rw [unchanged]
    constructor
    · exact .inl
    · rintro (member | rfl)
      · exact member
      · exact isReference ▸ inside
  · rw [List.mem_append, List.mem_singleton]

theorem mem_foldl_setReference {references found : List TerraformReference} {other : TerraformReference}
    (known : ∀ present ∈ found, classify present.address = some present)
    (classified : ∀ reference ∈ references, classify reference.address = some reference) :
    other ∈ references.foldl setReference found ↔ other ∈ found ∨ other ∈ references := by
  induction references generalizing found with
  | nil => simp
  | cons reference rest ih =>
      have here := classified reference List.mem_cons_self
      have members : ∀ {another}, another ∈ setReference found reference ↔ another ∈ found ∨ another = reference :=
        mem_setReference known here
      rw [List.foldl_cons, ih ?_ fun another member => classified another (List.mem_cons_of_mem _ member),
        members, List.mem_cons, or_assoc]
      intro present inside
      rcases members.mp inside with old | rfl
      · exact known present old
      · exact here

theorem mem_extractReferences {expression : Utf16} {reference : TerraformReference} :
    reference ∈ extractReferences expression ↔
      reference.address ∈ dottedChains expression ∧ classify reference.address = some reference := by
  have classified : ∀ other ∈ (dottedChains expression).filterMap classify,
      classify other.address = some other := by
    intro other member
    obtain ⟨chain, -, isOther⟩ := List.mem_filterMap.mp member
    exact classify_of_address isOther
  unfold extractReferences
  rw [mem_foldl_setReference (by simp) classified]
  constructor
  · rintro (impossible | member)
    · cases impossible
    · obtain ⟨chain, inside, isReference⟩ := List.mem_filterMap.mp member
      rw [classify_address isReference]
      exact ⟨inside, isReference⟩
  · rintro ⟨inside, isReference⟩
    exact .inr (List.mem_filterMap.mpr ⟨_, inside, isReference⟩)

end JumptotechLabs.Terraform
