/-
Module: JumptotechLabs.Core.Pattern
Layer: Core (library)
Purpose: Regular expressions with anchors and groups. `ways` lists every way an expression matches from a
  cursor, in the order in which a backtracking matcher comes to them, so the match is the first of the
  list; a search takes the first position that has one, and `allMatches` goes on behind each match.
Main exports: Pattern, Pattern.ways, Pattern.Match, Pattern.exec, Pattern.allMatches, Pattern.search_eq_some,
  Pattern.matchAt_of_search_ahead, Pattern.Takes
-/
import JumptotechLabs.Core.Regex

namespace JumptotechLabs.Core

variable {α β : Type}

inductive Pattern (α : Type) where
  /-- `^`, at the start of the text. -/
  | atStart
  /-- `$`, at the end of the text. -/
  | atEnd
  | empty
  /-- One unit of a class. -/
  | one (holds : α → Bool)
  /-- Any number of units of a class; a lazy one first tries to stop. -/
  | many (greedy : Bool) (holds : α → Bool)
  | seq (first second : Pattern α)
  | alt (first second : Pattern α)
  /-- A group, by its number. -/
  | group (index : Nat) (body : Pattern α)

namespace Pattern

/-- One way to match: where it ends, and what its groups hold. -/
structure Way (α : Type) where
  cursor : Cursor α
  groups : List (Nat × List α)

/-- The cursors a run of units of the class leads to, the nearest first. -/
def runs (holds : α → Bool) : Option α → List α → List (Cursor α)
  | previous, [] => [⟨previous, []⟩]
  | previous, unit :: rest =>
      ⟨previous, unit :: rest⟩ :: if holds unit then runs holds (some unit) rest else []

/-- What stands between two places of a text, given what is ahead of each. -/
def between (start stop : List α) : List α := start.take (start.length - stop.length)

/-- Every way to match from a cursor, in the order of preference. -/
def ways : Pattern α → Cursor α → List (Way α)
  | .atStart, cursor => if cursor.previous.isNone then [⟨cursor, []⟩] else []
  | .atEnd, cursor => if cursor.ahead.isEmpty then [⟨cursor, []⟩] else []
  | .empty, cursor => [⟨cursor, []⟩]
  | .one holds, cursor =>
      match cursor.ahead with
      | [] => []
      | unit :: rest => if holds unit then [⟨⟨some unit, rest⟩, []⟩] else []
  | .many greedy holds, cursor =>
      let reached := runs holds cursor.previous cursor.ahead
      (if greedy then reached.reverse else reached).map fun next => ⟨next, []⟩
  | .seq first second, cursor =>
      (first.ways cursor).flatMap fun way =>
        (second.ways way.cursor).map fun next => ⟨next.cursor, way.groups ++ next.groups⟩
  | .alt first second, cursor => first.ways cursor ++ second.ways cursor
  | .group index body, cursor =>
      (body.ways cursor).map fun way =>
        ⟨way.cursor, (index, between cursor.ahead way.cursor.ahead) :: way.groups⟩

/-- The way a backtracking matcher stops at. -/
def firstWay (pattern : Pattern α) (cursor : Cursor α) : Option (Way α) := (pattern.ways cursor).head?

/-- What was found: where, which text, and the groups. -/
structure Match (α : Type) where
  index : Nat
  text : List α
  groups : List (Nat × List α)

/-- The text of a group; a group that took no part has none. -/
def Match.group (found : Match α) (index : Nat) : Option (List α) := found.groups.lookup index

/-- The match that starts at this place of the text. -/
def matchAt (pattern : Pattern α) (index : Nat) (previous : Option α) (text : List α) :
    Option (Match α) :=
  (pattern.firstWay ⟨previous, text⟩).map fun way => ⟨index, between text way.cursor.ahead, way.groups⟩

/-- The first match from here on. -/
def search (pattern : Pattern α) : Nat → Option α → List α → Option (Match α)
  | index, previous, [] => pattern.matchAt index previous []
  | index, previous, unit :: rest =>
      (pattern.matchAt index previous (unit :: rest)).orElse fun _ =>
        pattern.search (index + 1) (some unit) rest

/-- `pattern.exec(text)`. -/
def exec (pattern : Pattern α) (text : List α) : Option (Match α) := pattern.search 0 none text

/-- The matches from here on, each behind the one before; one that takes no unit is stepped over. -/
def matchesFrom (pattern : Pattern α) : Nat → Nat → Option α → List α → List (Match α)
  | 0, index, previous, [] => (pattern.matchAt index previous []).toList
  | _ + 1, _, _, [] => []
  | skip + 1, index, _, unit :: rest => pattern.matchesFrom skip (index + 1) (some unit) rest
  | 0, index, previous, unit :: rest =>
      match pattern.matchAt index previous (unit :: rest) with
      | none => pattern.matchesFrom 0 (index + 1) (some unit) rest
      | some found =>
          found :: pattern.matchesFrom (found.text.length - 1) (index + 1) (some unit) rest

/-- `text.matchAll(pattern)`. -/
def allMatches (pattern : Pattern α) (text : List α) : List (Match α) :=
  pattern.matchesFrom 0 0 none text

/-! ### How expressions are written -/

/-- One unit of a class or more. -/
def plus (greedy : Bool) (holds : α → Bool) : Pattern α := .seq (.one holds) (.many greedy holds)

/-- One expression after the other. -/
def chain : List (Pattern α) → Pattern α
  | [] => .empty
  | first :: rest => .seq first (chain rest)

/-- The units of a text, one after the other. -/
def literal [DecidableEq α] (text : List α) : Pattern α :=
  chain (text.map fun unit => .one fun other => other = unit)

attribute [grind =] runs ways search matchesFrom

/-! ### The ways of each expression -/

variable {holds : α → Bool} {cursor : Cursor α} {way : Way α}

/-- The unit before the place that a run leads to. -/
def passed (previous : Option α) (run : List α) : Option α := run.getLast?.or previous

theorem passed_cons (previous : Option α) (unit : α) (run : List α) :
    passed previous (unit :: run) = passed (some unit) run := by
  cases run with
  | nil => rfl
  | cons next run =>
      rw [passed, passed, List.getLast?_cons_cons, List.getLast?_eq_some_getLast (List.cons_ne_nil next run)]
      rfl

theorem mem_runs {previous : Option α} {text : List α} {next : Cursor α} :
    next ∈ runs holds previous text ↔
      ∃ run, text = run ++ next.ahead ∧ (∀ unit ∈ run, holds unit = true) ∧
        next.previous = passed previous run := by
  induction text generalizing previous with
  | nil =>
      rw [runs, List.mem_singleton]
      constructor
      · rintro rfl
        exact ⟨[], rfl, by simp, rfl⟩
      · rintro ⟨run, whole, -, before⟩
        obtain ⟨rfl, ahead⟩ := List.append_eq_nil_iff.mp whole.symm
        obtain ⟨before', ahead'⟩ := next
        cases ahead
        cases before
        rfl
  | cons unit rest ih =>
      rw [runs, List.mem_cons]
      constructor
      · rintro (rfl | later)
        · exact ⟨[], rfl, by simp, rfl⟩
        · by_cases held : holds unit = true
          · rw [if_pos held] at later
            obtain ⟨run, rfl, all, before⟩ := ih.mp later
            refine ⟨unit :: run, rfl, ?_, by rw [passed_cons]; exact before⟩
            intro other member
            rcases List.mem_cons.mp member with rfl | inside
            · exact held
            · exact all other inside
          · rw [if_neg held] at later
            cases later
      · rintro ⟨run, whole, all, before⟩
        cases run with
        | nil =>
            left
            obtain ⟨before', ahead'⟩ := next
            cases whole
            cases before
            rfl
        | cons first run =>
            obtain ⟨rfl, rfl⟩ := List.cons.inj whole
            right
            rw [if_pos (all unit List.mem_cons_self)]
            refine ih.mpr ⟨run, rfl, fun other member => all other (List.mem_cons_of_mem _ member), ?_⟩
            rw [before, passed_cons]

theorem mem_ways_many {greedy : Bool} :
    way ∈ (many greedy holds).ways cursor ↔
      way.groups = [] ∧ ∃ run, cursor.ahead = run ++ way.cursor.ahead ∧ (∀ unit ∈ run, holds unit = true) ∧
        way.cursor.previous = passed cursor.previous run := by
  have sameMembers : ∀ next, next ∈ (if greedy then (runs holds cursor.previous cursor.ahead).reverse
      else runs holds cursor.previous cursor.ahead) ↔ next ∈ runs holds cursor.previous cursor.ahead := by
    intro next
    cases greedy <;> simp
  rw [ways, List.mem_map, ← mem_runs]
  constructor
  · rintro ⟨next, reached, rfl⟩
    exact ⟨rfl, (sameMembers next).mp reached⟩
  · rintro ⟨plain, reached⟩
    refine ⟨way.cursor, (sameMembers _).mpr reached, ?_⟩
    rw [← plain]

theorem mem_ways_seq {first second : Pattern α} :
    way ∈ (seq first second).ways cursor ↔
      ∃ middle ∈ first.ways cursor, ∃ last ∈ second.ways middle.cursor,
        way = ⟨last.cursor, middle.groups ++ last.groups⟩ := by
  simp only [ways, List.mem_flatMap, List.mem_map, eq_comm]

theorem mem_ways_one :
    way ∈ (one holds).ways cursor ↔
      ∃ unit rest, cursor.ahead = unit :: rest ∧ holds unit = true ∧ way = ⟨⟨some unit, rest⟩, []⟩ := by
  rw [ways]
  split
  · rename_i nothing
    simp [nothing]
  · rename_i unit rest present
    rw [present]
    by_cases held : holds unit = true
    · simp [held]
    · simp [held]

theorem mem_ways_group {index : Nat} {body : Pattern α} :
    way ∈ (group index body).ways cursor ↔
      ∃ inner ∈ body.ways cursor,
        way = ⟨inner.cursor, (index, between cursor.ahead inner.cursor.ahead) :: inner.groups⟩ := by
  simp only [ways, List.mem_map, eq_comm]

@[simp] theorem between_append (run rest : List α) : between (run ++ rest) rest = run := by
  simp [between]

@[simp] theorem between_cons (unit : α) (rest : List α) : between (unit :: rest) rest = [unit] :=
  between_append [unit] rest

/-! ### The first way -/

theorem firstWay_seq (first second : Pattern α) (cursor : Cursor α) :
    (seq first second).firstWay cursor =
      (first.ways cursor).findSome? fun way =>
        (second.firstWay way.cursor).map fun next => ⟨next.cursor, way.groups ++ next.groups⟩ := by
  simp only [firstWay, ways, List.head?_flatMap, List.head?_map]

theorem firstWay_eq_none_iff {pattern : Pattern α} :
    pattern.firstWay cursor = none ↔ pattern.ways cursor = [] := List.head?_eq_none_iff

theorem mem_of_firstWay {pattern : Pattern α} (found : pattern.firstWay cursor = some way) :
    way ∈ pattern.ways cursor := List.mem_of_mem_head? found

theorem findSome?_ways_seq (next : Way α → Option β) (first second : Pattern α) (cursor : Cursor α) :
    ((seq first second).ways cursor).findSome? next =
      (first.ways cursor).findSome? fun way =>
        (second.ways way.cursor).findSome? fun last => next ⟨last.cursor, way.groups ++ last.groups⟩ := by
  rw [ways]
  induction first.ways cursor with
  | nil => rfl
  | cons way rest ih =>
      rw [List.flatMap_cons, List.findSome?_append, ih, List.findSome?_map, List.findSome?_cons]
      simp only [Function.comp_def]
      split
      · rename_i found
        rw [found]
        rfl
      · rename_i missing
        rw [missing]
        rfl

theorem findSome?_ways_group (next : Way α → Option β) (index : Nat) (body : Pattern α)
    (cursor : Cursor α) :
    ((group index body).ways cursor).findSome? next =
      (body.ways cursor).findSome? fun way =>
        next ⟨way.cursor, (index, between cursor.ahead way.cursor.ahead) :: way.groups⟩ := by
  simp only [ways, List.findSome?_map, Function.comp_def]

/-- After a unit of the class, what is tried next. -/
theorem findSome?_one_cons (next : Way α → Option β) {previous : Option α} {unit : α} {rest : List α} :
    ((one holds).ways ⟨previous, unit :: rest⟩).findSome? next =
      if holds unit then next ⟨⟨some unit, rest⟩, []⟩ else none := by
  rw [ways]
  split
  · rename_i nothing
    cases nothing
  · rename_i unit' rest' present
    cases present
    split <;> simp

/-- A greedy run first goes as far as the class holds. -/
theorem getLast?_runs (previous : Option α) (run rest : List α)
    (all : ∀ unit ∈ run, holds unit = true) (stops : ∀ unit ∈ rest.head?, holds unit = false) :
    (runs holds previous (run ++ rest)).getLast? = some ⟨passed previous run, rest⟩ := by
  induction run generalizing previous with
  | nil =>
      cases rest with
      | nil => rfl
      | cons unit rest =>
          have stop : holds unit = false := stops unit rfl
          simp [runs, stop, passed]
  | cons unit run ih =>
      have held : holds unit = true := all unit List.mem_cons_self
      have later := ih (some unit) fun other member => all other (List.mem_cons_of_mem _ member)
      rw [List.cons_append, runs, if_pos held, passed_cons, List.getLast?_cons, later]
      rfl

theorem findSome?_greedy_of_success (next : Way α → Option β) {previous : Option α} {run rest : List α}
    {result : β} (all : ∀ unit ∈ run, holds unit = true)
    (stops : ∀ unit ∈ rest.head?, holds unit = false)
    (succeeds : next ⟨⟨passed previous run, rest⟩, []⟩ = some result) :
    ((many true holds).ways ⟨previous, run ++ rest⟩).findSome? next = some result := by
  have reached := getLast?_runs previous run rest all stops
  obtain ⟨nearer, split⟩ := List.getLast?_eq_some_iff.mp reached
  simp only [ways, split, if_true, List.reverse_append, List.reverse_cons, List.reverse_nil,
    List.nil_append, List.singleton_append, List.map_cons, List.findSome?_cons, succeeds]

/-- A lazy run goes on until what follows matches. -/
theorem findSome?_lazy_of_success (next : Way α → Option β) {previous : Option α} {run rest : List α}
    {result : β} (all : ∀ unit ∈ run, holds unit = true)
    (earlier : ∀ before after, run = before ++ after → after ≠ [] →
      next ⟨⟨passed previous before, after ++ rest⟩, []⟩ = none)
    (succeeds : next ⟨⟨passed previous run, rest⟩, []⟩ = some result) :
    ((many false holds).ways ⟨previous, run ++ rest⟩).findSome? next = some result := by
  induction run generalizing previous with
  | nil =>
      have here : next ⟨⟨previous, rest⟩, []⟩ = some result := succeeds
      cases rest with
      | nil => simp [ways, runs, here]
      | cons unit rest => simp [ways, runs, here]
  | cons unit run ih =>
      have held : holds unit = true := all unit List.mem_cons_self
      have notHere : next ⟨⟨previous, unit :: (run ++ rest)⟩, []⟩ = none :=
        earlier [] (unit :: run) rfl (List.cons_ne_nil _ _)
      have later := @ih (some unit) (fun other member => all other (List.mem_cons_of_mem _ member))
        (fun before after split nonempty => by
          have := earlier (unit :: before) after (by rw [split]; rfl) nonempty
          rwa [passed_cons] at this)
        (by rwa [passed_cons] at succeeds)
      simp only [ways, Bool.false_eq_true, if_false] at later ⊢
      rw [List.cons_append, runs, if_pos held, List.map_cons, List.findSome?_cons, notHere]
      exact later

/-- A text matches itself, in one way. -/
theorem ways_literal [DecidableEq α] (text : List α) (cursor : Cursor α) :
    (literal text).ways cursor =
      if text <+: cursor.ahead then
        [⟨⟨passed cursor.previous text, cursor.ahead.drop text.length⟩, []⟩]
      else [] := by
  induction text generalizing cursor with
  | nil => simp [literal, chain, ways, passed]
  | cons unit text ih =>
      obtain ⟨previous, ahead⟩ := cursor
      have unfolded : literal (unit :: text) = .seq (.one fun other => other = unit) (literal text) := rfl
      rw [unfolded, ways]
      cases ahead with
      | nil => simp [ways]
      | cons other rest =>
          by_cases same : other = unit
          · subst same
            by_cases starts : text <+: rest
            · simp [ways, ih, starts, passed_cons]
            · simp [ways, ih, starts]
          · simp [ways, same, List.cons_prefix_cons, Ne.symm same]

theorem mem_ways_alt {first second : Pattern α} :
    way ∈ (alt first second).ways cursor ↔ way ∈ first.ways cursor ∨ way ∈ second.ways cursor := by
  rw [ways, List.mem_append]

theorem mem_ways_atStart : way ∈ atStart.ways cursor ↔ cursor.previous = none ∧ way = ⟨cursor, []⟩ := by
  rw [ways]
  cases cursor.previous with
  | none => simp
  | some unit => simp

theorem mem_ways_empty : way ∈ empty.ways cursor ↔ way = ⟨cursor, []⟩ := by
  rw [ways, List.mem_singleton]

/-! ### Where a match stands -/

theorem matchAt_eq_some {pattern : Pattern α} {index : Nat} {previous : Option α} {text : List α}
    {found : Match α} (isMatch : pattern.matchAt index previous text = some found) :
    ∃ way ∈ pattern.ways ⟨previous, text⟩, found = ⟨index, between text way.cursor.ahead, way.groups⟩ := by
  rw [matchAt, Option.map_eq_some_iff] at isMatch
  obtain ⟨way, first, rfl⟩ := isMatch
  exact ⟨way, mem_of_firstWay first, rfl⟩

/-- A search finds a match at a place of the text. -/
theorem search_eq_some {pattern : Pattern α} {index : Nat} {previous : Option α} {text : List α}
    {found : Match α} (isFound : pattern.search index previous text = some found) :
    ∃ before after, text = before ++ after ∧ found.index = index + before.length ∧
      pattern.matchAt found.index (passed previous before) after = some found := by
  have located : ∀ {index previous text}, pattern.matchAt index previous text = some found →
      found.index = index := by
    intro index previous text isMatch
    obtain ⟨way, -, rfl⟩ := matchAt_eq_some isMatch
    rfl
  induction text generalizing index previous with
  | nil =>
      rw [search] at isFound
      have here := located isFound
      exact ⟨[], [], rfl, here, here ▸ isFound⟩
  | cons unit rest ih =>
      rw [search] at isFound
      cases here : pattern.matchAt index previous (unit :: rest) with
      | some other =>
          rw [here] at isFound
          cases isFound
          have place := located here
          exact ⟨[], unit :: rest, rfl, place, place ▸ here⟩
      | none =>
          rw [here] at isFound
          obtain ⟨before, after, rfl, place, isMatch⟩ := ih isFound
          refine ⟨unit :: before, after, rfl, ?_, ?_⟩
          · rw [place, List.length_cons]
            omega
          · rw [passed_cons]
            exact isMatch

/-- There is no match at a place exactly when there is no way to match from there. -/
theorem matchAt_eq_none_iff {pattern : Pattern α} {index : Nat} {previous : Option α} {text : List α} :
    pattern.matchAt index previous text = none ↔ pattern.ways ⟨previous, text⟩ = [] := by
  rw [matchAt, Option.map_eq_none_iff, firstWay_eq_none_iff]

/-- A search that finds nothing leaves no match anywhere in the text. -/
theorem matchAt_of_search_none {pattern : Pattern α} {index : Nat} {previous : Option α}
    {text before after : List α} (missing : pattern.search index previous text = none)
    (whole : text = before ++ after) :
    pattern.matchAt (index + before.length) (passed previous before) after = none := by
  induction text generalizing index previous before with
  | nil =>
      obtain ⟨rfl, rfl⟩ := List.append_eq_nil_iff.mp whole.symm
      exact missing
  | cons unit rest ih =>
      rw [search] at missing
      cases here : pattern.matchAt index previous (unit :: rest) with
      | some found =>
          rw [here] at missing
          cases missing
      | none =>
          rw [here] at missing
          cases before with
          | nil =>
              obtain rfl : unit :: rest = after := whole
              exact here
          | cons first before =>
              obtain ⟨rfl, behind⟩ := List.cons.inj whole
              have later := ih missing behind
              rw [passed_cons, List.length_cons]
              rwa [Nat.add_right_comm, Nat.add_assoc] at later

/-- In front of what a search finds there is no match: it is the leftmost one. -/
theorem matchAt_of_search_ahead {pattern : Pattern α} {index : Nat} {previous : Option α}
    {text before after : List α} {found : Match α}
    (isFound : pattern.search index previous text = some found) (whole : text = before ++ after)
    (ahead : index + before.length < found.index) :
    pattern.matchAt (index + before.length) (passed previous before) after = none := by
  induction text generalizing index previous before with
  | nil =>
      obtain ⟨way, -, rfl⟩ := matchAt_eq_some isFound
      dsimp only at ahead
      omega
  | cons unit rest ih =>
      rw [search] at isFound
      cases here : pattern.matchAt index previous (unit :: rest) with
      | some other =>
          rw [here] at isFound
          obtain rfl : other = found := Option.some.inj isFound
          obtain ⟨way, -, rfl⟩ := matchAt_eq_some here
          dsimp only at ahead
          omega
      | none =>
          rw [here] at isFound
          cases before with
          | nil =>
              obtain rfl : unit :: rest = after := whole
              exact here
          | cons first before =>
              obtain ⟨rfl, behind⟩ := List.cons.inj whole
              rw [List.length_cons, ← Nat.add_assoc, Nat.add_right_comm] at ahead
              have later := ih isFound behind ahead
              rw [passed_cons, List.length_cons]
              rwa [Nat.add_right_comm, Nat.add_assoc] at later

/-! ### Parts of an expression that take a text -/

/-- An expression can take the front of a text, whatever stands before it, and leave the rest. -/
def Takes (pattern : Pattern α) (text rest : List α) : Prop :=
  ∀ previous, ∃ way ∈ pattern.ways ⟨previous, text⟩, way.cursor.ahead = rest

theorem Takes.seq {first second : Pattern α} {text middle rest : List α} (one : first.Takes text middle)
    (other : second.Takes middle rest) : (seq first second).Takes text rest := by
  intro previous
  obtain ⟨way, inWays, rfl⟩ := one previous
  obtain ⟨last, inLast, isRest⟩ := other way.cursor.previous
  exact ⟨_, mem_ways_seq.mpr ⟨way, inWays, last, inLast, rfl⟩, isRest⟩

theorem takes_empty (text : List α) : (empty : Pattern α).Takes text text :=
  fun _ => ⟨_, mem_ways_empty.mpr rfl, rfl⟩

theorem takes_one {unit : α} {rest : List α} (held : holds unit = true) :
    (one holds).Takes (unit :: rest) rest :=
  fun _ => ⟨_, mem_ways_one.mpr ⟨unit, rest, rfl, held, rfl⟩, rfl⟩

theorem takes_many {greedy : Bool} {run rest : List α} (all : ∀ unit ∈ run, holds unit = true) :
    (many greedy holds).Takes (run ++ rest) rest :=
  fun previous => ⟨⟨⟨passed previous run, rest⟩, []⟩, mem_ways_many.mpr ⟨rfl, run, rfl, all, rfl⟩, rfl⟩

theorem takes_literal [DecidableEq α] (text rest : List α) : (literal text).Takes (text ++ rest) rest := by
  intro previous
  refine ⟨⟨⟨passed previous text, rest⟩, []⟩, ?_, rfl⟩
  rw [ways_literal, if_pos (List.prefix_append _ _), List.drop_left]
  exact List.mem_singleton_self _

theorem Takes.group {body : Pattern α} {text rest : List α} (taken : body.Takes text rest) (index : Nat) :
    (group index body).Takes text rest := by
  intro previous
  obtain ⟨way, inWays, isRest⟩ := taken previous
  exact ⟨_, mem_ways_group.mpr ⟨way, inWays, rfl⟩, isRest⟩

/-- Where a way exists, a match is found. -/
theorem exists_matchAt {pattern : Pattern α} {index : Nat} {previous : Option α} {text : List α}
    {way : Way α} (inWays : way ∈ pattern.ways ⟨previous, text⟩) :
    ∃ found, pattern.matchAt index previous text = some found := by
  rw [← Option.ne_none_iff_exists', ne_eq, matchAt_eq_none_iff]
  exact List.ne_nil_of_mem inWays

/-! ### Matches that do not look back -/

/-- What is found does not depend on what stands before. -/
def Unanchored (pattern : Pattern α) : Prop :=
  ∀ index previous previous' text,
    pattern.matchAt index previous text = pattern.matchAt index previous' text

section Unanchored

variable {pattern : Pattern α} (free : pattern.Unanchored)

include free

theorem matchesFrom_previous (text : List α) (skip index : Nat) (previous previous' : Option α) :
    pattern.matchesFrom skip index previous text = pattern.matchesFrom skip index previous' text := by
  cases text with
  | nil =>
      cases skip with
      | zero => rw [matchesFrom, matchesFrom, free index previous previous']
      | succ skip => rfl
  | cons unit rest =>
      cases skip with
      | zero => rw [matchesFrom, matchesFrom, free index previous previous']
      | succ skip => rfl

theorem matchesFrom_skip (text : List α) (skip index : Nat) (previous : Option α)
    (inside : skip ≤ text.length) :
    pattern.matchesFrom skip index previous text =
      pattern.matchesFrom 0 (index + skip) none (text.drop skip) := by
  induction text generalizing skip index previous with
  | nil =>
      have none : skip = 0 := Nat.le_zero.mp inside
      subst none
      exact matchesFrom_previous free [] 0 index previous _
  | cons unit rest ih =>
      cases skip with
      | zero => exact matchesFrom_previous free _ 0 index previous _
      | succ skip =>
          rw [matchesFrom, ih skip (index + 1) (some unit) (Nat.le_of_succ_le_succ inside), List.drop_succ_cons,
            Nat.add_right_comm, Nat.add_assoc]

end Unanchored

end Pattern

end JumptotechLabs.Core
