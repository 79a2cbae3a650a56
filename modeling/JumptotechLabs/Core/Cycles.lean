/-
Module: JumptotechLabs.Core.Cycles
Layer: Core (library)
Purpose: Nodes that name others, some of which are not there. A depth-first walk that keeps its path finds a
  cycle exactly where one can be reached, and needs no more rounds than there are nodes; so does one that
  remembers the nodes it has left, and a way that goes on from item to item. A node is founded if no chain
  from it leads to a node that is not there, or into a cycle; dropping nodes that are not founded leaves the
  founded ones as they were.
Main exports: Edge, walk, walk_ends, walk_found_iff, acyclic_of_rank, visit, visit_ends, acc_of_visit, Closed, follow,
  follow_ends, Founded, Part, not_founded_of_cycle, founded_of_closed
-/
import Mathlib.Data.List.Chain
import Mathlib.Data.List.Nodup
import Mathlib.Data.List.Perm.Subperm
import Mathlib.Logic.Relation

namespace JumptotechLabs.Core.Cycles

open Relation (ReflTransGen TransGen)

variable {α : Type}

/-- One node names another. -/
def Edge (next : α → Option (List α)) (a b : α) : Prop := ∃ named, next a = some named ∧ b ∈ named

/-- The answer of the first search that finds something. A search that does not end has no answer. -/
def firstFound {β : Type} (search : α → Option (Option β)) : List α → Option (Option β)
  | [] => some none
  | item :: items =>
      match search item with
      | none => none
      | some none => firstFound search items
      | some (some found) => some (some found)

/-- A depth-first walk from a node, behind the path that led to it: the cycle it runs into, if any. -/
def walk [DecidableEq α] (next : α → Option (List α)) : Nat → List α → α → Option (Option (List α))
  | 0, _, _ => none
  | fuel + 1, path, node =>
      if node ∈ path then some (some (path.drop (path.idxOf node) ++ [node]))
      else
        match next node with
        | none => some none
        | some named => firstFound (walk next fuel (path ++ [node])) named

attribute [grind =] firstFound walk

variable {next : α → Option (List α)}

theorem firstFound_ends {β : Type} {search : α → Option (Option β)} {items : List α}
    (ends : ∀ item ∈ items, (search item).isSome) : (firstFound search items).isSome := by
  induction items with
  | nil => rfl
  | cons item items ih =>
      obtain ⟨here, further⟩ := List.forall_mem_cons.mp ends
      rw [firstFound]
      cases isFound : search item with
      | none =>
          rw [isFound] at here
          cases here
      | some answer =>
          cases answer with
          | none => exact ih further
          | some found => rfl

theorem firstFound_none {β : Type} {search : α → Option (Option β)} {items : List α}
    (nothing : firstFound search items = some none) : ∀ item ∈ items, search item = some none := by
  induction items with
  | nil => exact fun item inside => by cases inside
  | cons item items ih =>
      rw [firstFound] at nothing
      cases isFound : search item with
      | none =>
          rw [isFound] at nothing
          cases nothing
      | some answer =>
          rw [isFound] at nothing
          cases answer with
          | none => exact List.forall_mem_cons.mpr ⟨isFound, ih nothing⟩
          | some found => cases nothing

theorem firstFound_some {β : Type} {search : α → Option (Option β)} {items : List α} {found : β}
    (isFound : firstFound search items = some (some found)) :
    ∃ item ∈ items, search item = some (some found) := by
  induction items with
  | nil => cases isFound
  | cons item items ih =>
      rw [firstFound] at isFound
      cases here : search item with
      | none =>
          rw [here] at isFound
          cases isFound
      | some answer =>
          rw [here] at isFound
          cases answer with
          | none =>
              obtain ⟨other, inside, further⟩ := ih isFound
              exact ⟨other, List.mem_cons_of_mem _ inside, further⟩
          | some first =>
              cases isFound
              exact ⟨item, List.mem_cons_self, here⟩

/-! ### The walk -/

theorem nodup_push {path : List α} {node : α} (distinct : path.Nodup) (isNew : node ∉ path) :
    (path ++ [node]).Nodup :=
  List.nodup_append.mpr ⟨distinct, List.nodup_singleton node, fun a isPath b isNode same => by
    rw [List.mem_singleton] at isNode
    exact isNew (isNode ▸ same ▸ isPath)⟩

/-- A path has no node twice, so no walk goes deeper than there are nodes. -/
theorem walk_ends [DecidableEq α] {nodes : List α} (known : ∀ a named, next a = some named → a ∈ nodes)
    {fuel : Nat} {path : List α} {node : α} (distinct : path.Nodup) (inside : path ⊆ nodes)
    (enough : nodes.length < fuel + path.length) : (walk next fuel path node).isSome := by
  induction fuel generalizing path node with
  | zero =>
      have short : path.length ≤ nodes.length := (distinct.subperm inside).length_le
      omega
  | succ fuel ih =>
      rw [walk]
      by_cases again : node ∈ path
      · rw [if_pos again]
        rfl
      · rw [if_neg again]
        cases names : next node with
        | none => rfl
        | some named =>
            apply firstFound_ends
            intro item _
            apply ih
            · exact nodup_push distinct again
            · exact List.append_subset.mpr ⟨inside, by simpa using known node named names⟩
            · rw [List.length_append, List.length_singleton]
              omega

/-- A walk that finds nothing has been everywhere: there is no way on for ever. -/
theorem acc_of_walk [DecidableEq α] {fuel : Nat} {path : List α} {node : α}
    (nothing : walk next fuel path node = some none) : Acc (fun b a => Edge next a b) node := by
  induction fuel generalizing path node with
  | zero => cases nothing
  | succ fuel ih =>
      rw [walk] at nothing
      by_cases again : node ∈ path
      · rw [if_pos again] at nothing
        cases nothing
      · rw [if_neg again] at nothing
        constructor
        rintro item ⟨named, names, isNamed⟩
        rw [names] at nothing
        exact ih (firstFound_none nothing item isNamed)

/-- What a walk finds is a cycle that the node leads into. -/
theorem cycle_of_walk [DecidableEq α] {fuel : Nat} {path : List α} {node : α} {found : List α}
    (leads : ∀ earlier ∈ path, TransGen (Edge next) earlier node)
    (isFound : walk next fuel path node = some (some found)) :
    ∃ again, ReflTransGen (Edge next) node again ∧ TransGen (Edge next) again again := by
  induction fuel generalizing path node with
  | zero => cases isFound
  | succ fuel ih =>
      rw [walk] at isFound
      by_cases again : node ∈ path
      · exact ⟨node, .refl, leads node again⟩
      · rw [if_neg again] at isFound
        cases names : next node with
        | none =>
            rw [names] at isFound
            cases isFound
        | some named =>
            rw [names] at isFound
            obtain ⟨item, isNamed, further⟩ := firstFound_some isFound
            have edge : Edge next node item := ⟨named, names, isNamed⟩
            have onward : ∀ earlier ∈ path ++ [node], TransGen (Edge next) earlier item := by
              intro earlier isEarlier
              rcases List.mem_append.mp isEarlier with inside | isNode
              · exact (leads earlier inside).tail edge
              · cases List.mem_singleton.mp isNode
                exact .single edge
            obtain ⟨again, reached, cycle⟩ := ih onward further
            exact ⟨again, .head edge reached, cycle⟩

theorem acc_of_reached {a b : α} (acc : Acc (fun b a => Edge next a b) a)
    (reached : ReflTransGen (Edge next) a b) : Acc (fun b a => Edge next a b) b := by
  induction reached with
  | refl => exact acc
  | tail _ edge ih => exact ih.inv edge

theorem not_cycle_of_acc {a : α} (acc : Acc (fun b a => Edge next a b) a) : ¬ TransGen (Edge next) a a := by
  induction acc with
  | intro a _ ih =>
      intro cycle
      obtain ⟨b, edge, back⟩ := Relation.TransGen.head'_iff.mp cycle
      exact ih b edge (.tail' back edge)

/-- Where every step goes down there is no cycle. -/
theorem acyclic_of_rank {steps : α → α → Prop} (rank : α → Nat) (down : ∀ a b, steps a b → rank b < rank a)
    (a : α) : ¬ TransGen steps a a := by
  have lower {b c : α} (onward : TransGen steps b c) : rank c < rank b := by
    induction onward with
    | single step => exact down _ _ step
    | tail _ step ih => exact Nat.lt_trans (down _ _ step) ih
  exact fun cycle => Nat.lt_irrefl _ (lower cycle)

/-- A walk finds a cycle exactly where one is reached. -/
theorem walk_found_iff [DecidableEq α] {fuel : Nat} {node : α} {answer : Option (List α)}
    (ends : walk next fuel [] node = some answer) :
    answer.isSome ↔ ∃ again, ReflTransGen (Edge next) node again ∧ TransGen (Edge next) again again := by
  cases answer with
  | none =>
      have acc := acc_of_walk ends
      constructor
      · intro impossible
        cases impossible
      · rintro ⟨again, reached, cycle⟩
        exact absurd cycle (not_cycle_of_acc (acc_of_reached acc reached))
  | some found => exact ⟨fun _ => cycle_of_walk (List.forall_mem_nil _) ends, fun _ => rfl⟩

/-! ### A walk that remembers -/

/-- Searches one after the other, each with what the ones before it remember, until one finds something. -/
def eachDone {β δ : Type} (search : α → δ → Option (Except β δ)) : List α → δ → Option (Except β δ)
  | [], done => some (.ok done)
  | item :: items, done =>
      match search item done with
      | none => none
      | some (.error found) => some (.error found)
      | some (.ok done) => eachDone search items done

/-- The walk, where nodes that were left for good are not entered again. -/
def visit [DecidableEq α] (next : α → Option (List α)) :
    Nat → List α → α → List α → Option (Except (List α) (List α))
  | 0, _, _, _ => none
  | fuel + 1, path, node, done =>
      if node ∈ path then some (.error (path.drop (path.idxOf node) ++ [node]))
      else if node ∈ done then some (.ok done)
      else
        match next node with
        | none => some (.ok done)
        | some named => (eachDone (visit next fuel (path ++ [node])) named done).map fun answer =>
            answer.map fun done => done ++ [node]

attribute [grind =] eachDone visit

theorem eachDone_ends {β δ : Type} {search : α → δ → Option (Except β δ)} {items : List α}
    (ends : ∀ item ∈ items, ∀ done, (search item done).isSome) (done : δ) :
    (eachDone search items done).isSome := by
  induction items generalizing done with
  | nil => rfl
  | cons item items ih =>
      obtain ⟨here, further⟩ := List.forall_mem_cons.mp ends
      obtain ⟨answer, isAnswer⟩ := Option.isSome_iff_exists.mp (here done)
      rw [eachDone, isAnswer]
      cases answer with
      | error found => rfl
      | ok done => exact ih further done

theorem visit_ends [DecidableEq α] {nodes : List α} (known : ∀ a named, next a = some named → a ∈ nodes)
    {fuel : Nat} {path : List α} {node : α} (distinct : path.Nodup) (inside : path ⊆ nodes)
    (enough : nodes.length < fuel + path.length) (done : List α) : (visit next fuel path node done).isSome := by
  induction fuel generalizing path node done with
  | zero =>
      have short : path.length ≤ nodes.length := (distinct.subperm inside).length_le
      omega
  | succ fuel ih =>
      rw [visit]
      by_cases again : node ∈ path
      · rw [if_pos again]
        rfl
      · rw [if_neg again]
        by_cases isDone : node ∈ done
        · rw [if_pos isDone]
          rfl
        · rw [if_neg isDone]
          cases names : next node with
          | none => rfl
          | some named =>
              dsimp only
              rw [Option.isSome_map]
              apply eachDone_ends
              intro item _ done
              apply ih (nodup_push distinct again)
              · exact List.append_subset.mpr ⟨inside, by simpa using known node named names⟩
              · rw [List.length_append, List.length_singleton]
                omega

/-- What every search that goes well keeps of what is remembered; and what it finds out about its item. -/
theorem eachDone_ok {β δ : Type} {search : α → δ → Option (Except β δ)} {holds : α → Prop} {kept : δ → Prop}
    {items : List α} {done last : δ}
    (step : ∀ item ∈ items, ∀ before after, kept before → search item before = some (.ok after) →
      holds item ∧ kept after)
    (start : kept done) (ended : eachDone search items done = some (.ok last)) :
    (∀ item ∈ items, holds item) ∧ kept last := by
  induction items generalizing done with
  | nil =>
      cases ended
      exact ⟨List.forall_mem_nil _, start⟩
  | cons item items ih =>
      obtain ⟨here, further⟩ := List.forall_mem_cons.mp step
      rw [eachDone] at ended
      cases isAnswer : search item done with
      | none =>
          rw [isAnswer] at ended
          cases ended
      | some answer =>
          rw [isAnswer] at ended
          cases answer with
          | error found => cases ended
          | ok after =>
              obtain ⟨isItem, onward⟩ := here done after start isAnswer
              obtain ⟨others, isLast⟩ := ih further onward ended
              exact ⟨List.forall_mem_cons.mpr ⟨isItem, others⟩, isLast⟩

theorem eachDone_error {β δ : Type} {search : α → δ → Option (Except β δ)} {items : List α} {done : δ} {found : β}
    (stopped : eachDone search items done = some (.error found)) :
    ∃ item ∈ items, ∃ before, search item before = some (.error found) := by
  induction items generalizing done with
  | nil => cases stopped
  | cons item items ih =>
      rw [eachDone] at stopped
      cases isAnswer : search item done with
      | none =>
          rw [isAnswer] at stopped
          cases stopped
      | some answer =>
          rw [isAnswer] at stopped
          cases answer with
          | error first =>
              cases stopped
              exact ⟨item, List.mem_cons_self, done, isAnswer⟩
          | ok after =>
              obtain ⟨other, inside, before, isFound⟩ := ih stopped
              exact ⟨other, List.mem_cons_of_mem _ inside, before, isFound⟩

/-- A visit that finds nothing leaves only nodes from which there is no way on for ever: those it was told
    of, those it has left for good, and its own. -/
theorem acc_of_visit [DecidableEq α] {fuel : Nat} {path : List α} {node : α} {done last : List α}
    (finished : ∀ a ∈ done, Acc (fun b a => Edge next a b) a)
    (nothing : visit next fuel path node done = some (.ok last)) :
    Acc (fun b a => Edge next a b) node ∧ ∀ a ∈ last, Acc (fun b a => Edge next a b) a := by
  induction fuel generalizing path node done last with
  | zero => cases nothing
  | succ fuel ih =>
      rw [visit] at nothing
      by_cases again : node ∈ path
      · rw [if_pos again] at nothing
        cases nothing
      by_cases isDone : node ∈ done
      · rw [if_neg again, if_pos isDone] at nothing
        cases nothing
        exact ⟨finished node isDone, finished⟩
      rw [if_neg again, if_neg isDone] at nothing
      cases names : next node with
      | none =>
          rw [names] at nothing
          cases nothing
          refine ⟨⟨_, ?_⟩, finished⟩
          rintro item ⟨named, impossible, -⟩
          rw [names] at impossible
          cases impossible
      | some named =>
          rw [names] at nothing
          obtain ⟨answer, ended, isLast⟩ := Option.map_eq_some_iff.mp nothing
          cases answer with
          | error found => cases isLast
          | ok between =>
              cases isLast
              obtain ⟨others, left⟩ := eachDone_ok (fun item _ _ _ known went => ih known went) finished ended
              have own : Acc (fun b a => Edge next a b) node := by
                constructor
                rintro item ⟨others', same, isNamed⟩
                rw [names] at same
                cases same
                exact others item isNamed
              refine ⟨own, fun a isLeft => ?_⟩
              rcases List.mem_append.mp isLeft with earlier | isNode
              · exact left a earlier
              · rw [List.mem_singleton.mp isNode]
                exact own

/-- A way that ends where it began. -/
structure Closed (steps : α → α → Prop) (cycle : List α) : Prop where
  along : cycle.IsChain steps
  long : 2 ≤ cycle.length
  back : cycle.head? = cycle.getLast?

/-- What a visit finds is a way round, along the edges. -/
theorem closed_of_visit [DecidableEq α] {fuel : Nat} {path : List α} {node : α} {done found : List α}
    (along : (path ++ [node]).IsChain (Edge next))
    (isFound : visit next fuel path node done = some (.error found)) : Closed (Edge next) found := by
  induction fuel generalizing path node done with
  | zero => cases isFound
  | succ fuel ih =>
      rw [visit] at isFound
      by_cases again : node ∈ path
      · rw [if_pos again] at isFound
        cases isFound
        have suffix : path.drop (path.idxOf node) ++ [node] <:+ path ++ [node] :=
          List.suffix_append_self_iff.mpr (List.drop_suffix _ _)
        have starts : (path.drop (path.idxOf node)).head? = some node := by
          rw [List.head?_drop, List.getElem?_idxOf again]
        obtain ⟨rest, whole⟩ : ∃ rest, path.drop (path.idxOf node) = node :: rest :=
          List.head?_eq_some_iff.mp starts
        refine ⟨along.suffix suffix, ?_, ?_⟩
        · rw [whole, List.length_append, List.length_cons, List.length_singleton]
          omega
        · rw [List.getLast?_concat, whole]
          rfl
      by_cases isDone : node ∈ done
      · rw [if_neg again, if_pos isDone] at isFound
        cases isFound
      rw [if_neg again, if_neg isDone] at isFound
      cases names : next node with
      | none =>
          rw [names] at isFound
          cases isFound
      | some named =>
          rw [names] at isFound
          obtain ⟨answer, ended, isLast⟩ := Option.map_eq_some_iff.mp isFound
          cases answer with
          | ok between => cases isLast
          | error cycle =>
              cases isLast
              obtain ⟨item, isNamed, before, further⟩ := eachDone_error ended
              refine ih (List.isChain_append.mpr ⟨along, List.isChain_singleton item, ?_⟩) further
              intro last isNode first isItem
              rw [List.getLast?_concat, Option.mem_some_iff] at isNode
              rw [List.head?_cons, Option.mem_some_iff] at isItem
              subst isNode isItem
              exact ⟨named, names, isNamed⟩

namespace Closed

variable {steps : α → α → Prop} {cycle : List α}

theorem eq_round (closed : Closed steps cycle) : ∃ first middle, cycle = first :: (middle ++ [first]) := by
  obtain ⟨-, long, back⟩ := closed
  match cycle with
  | [] => simp at long
  | [_] => simp at long
  | first :: second :: rest =>
      rw [List.head?_cons, List.getLast?_cons_cons] at back
      obtain ⟨middle, whole⟩ := List.getLast?_eq_some_iff.mp back.symm
      exact ⟨first, middle, by rw [whole]⟩

/-- From every node on the way there is a step. -/
theorem exists_step (closed : Closed steps cycle) {a : α} (member : a ∈ cycle) : ∃ b, steps a b := by
  obtain ⟨first, middle, rfl⟩ := closed.eq_round
  have among : a ∈ first :: middle := by
    simp only [List.mem_cons, List.mem_append, List.not_mem_nil, or_false] at member ⊢
    tauto
  obtain ⟨before, after, whole⟩ := List.append_of_mem among
  have along : (before ++ a :: (after ++ [first])).IsChain steps := by
    have same : first :: (middle ++ [first]) = before ++ a :: (after ++ [first]) := by
      rw [← List.cons_append, whole, List.append_assoc, List.cons_append]
    exact same ▸ closed.along
  cases onward : after ++ [first] with
  | nil => simp at onward
  | cons b rest =>
      rw [onward] at along
      exact ⟨b, (List.isChain_append_cons_cons.mp along).2.1⟩

theorem transGen (closed : Closed steps cycle) : ∃ a, TransGen steps a a := by
  obtain ⟨first, middle, rfl⟩ := closed.eq_round
  have along := closed.along
  cases onward : middle ++ [first] with
  | nil => simp at onward
  | cons b rest =>
      rw [onward, List.isChain_cons_cons] at along
      have ends : (b :: rest).getLast (List.cons_ne_nil b rest) = first := by
        rw [List.getLast_eq_iff_getLast?_eq_some, ← onward, List.getLast?_concat]
      exact ⟨first, .head' along.1 (List.relationReflTransGen_of_exists_isChain_cons rest along.2 ends)⟩

end Closed

/-! ### A single way on -/

/-- On from an item as long as there is a way on, and not past one that was seen before. -/
def follow {κ : Type} [DecidableEq κ] (key : α → κ) (onward : α → Option α) : Nat → List κ → α → Option α
  | 0, _, _ => none
  | fuel + 1, seen, item =>
      if key item ∈ seen then some item
      else
        match onward item with
        | none => some item
        | some next => follow key onward fuel (seen ++ [key item]) next

attribute [grind =] follow

section Follow

variable {κ : Type} [DecidableEq κ] {key : α → κ} {onward : α → Option α}

theorem follow_ends {keys : List κ} (known : ∀ item next, onward item = some next → key item ∈ keys)
    {fuel : Nat} {seen : List κ} {item : α} (distinct : seen.Nodup) (inside : seen ⊆ keys)
    (enough : keys.length < fuel + seen.length) : (follow key onward fuel seen item).isSome := by
  induction fuel generalizing seen item with
  | zero =>
      have short : seen.length ≤ keys.length := (distinct.subperm inside).length_le
      omega
  | succ fuel ih =>
      rw [follow]
      by_cases again : key item ∈ seen
      · rw [if_pos again]
        rfl
      · rw [if_neg again]
        cases isNext : onward item with
        | none => rfl
        | some next =>
            apply ih (nodup_push distinct again)
            · exact List.append_subset.mpr ⟨inside, by simpa using known item next isNext⟩
            · rw [List.length_append, List.length_singleton]
              omega

/-- What every step keeps, the whole way keeps. -/
theorem follow_keeps {holds : α → Prop} (step : ∀ item next, holds item → onward item = some next → holds next)
    {fuel : Nat} {seen : List κ} {item last : α} (start : holds item)
    (ends : follow key onward fuel seen item = some last) : holds last := by
  induction fuel generalizing seen item with
  | zero => cases ends
  | succ fuel ih =>
      rw [follow] at ends
      by_cases again : key item ∈ seen
      · rw [if_pos again] at ends
        cases ends
        exact start
      · rw [if_neg again] at ends
        cases isNext : onward item with
        | none =>
            rw [isNext] at ends
            cases ends
            exact start
        | some next =>
            rw [isNext] at ends
            exact ih (step item next start isNext) ends

/-- Where every step goes down in an order, the way ends where there is no way on. -/
theorem follow_last {below : κ → κ → Prop} (irreflexive : ∀ k, ¬ below k k)
    (transitive : ∀ a b c, below a b → below b c → below a c)
    (down : ∀ item next, onward item = some next → below (key next) (key item)) {fuel : Nat} {seen : List κ}
    {item last : α} (above : ∀ earlier ∈ seen, below (key item) earlier)
    (ends : follow key onward fuel seen item = some last) : onward last = none := by
  induction fuel generalizing seen item with
  | zero => cases ends
  | succ fuel ih =>
      rw [follow] at ends
      by_cases again : key item ∈ seen
      · exact absurd (above _ again) (irreflexive _)
      · rw [if_neg again] at ends
        cases isNext : onward item with
        | none =>
            rw [isNext] at ends
            cases ends
            exact isNext
        | some next =>
            rw [isNext] at ends
            have lower := down item next isNext
            apply ih _ ends
            intro earlier isEarlier
            rcases List.mem_append.mp isEarlier with inside | isItem
            · exact transitive _ _ _ lower (above earlier inside)
            · cases List.mem_singleton.mp isItem
              exact lower

end Follow

/-! ### Founded nodes -/

/-- No chain from the node leads to one that is not there, or into a cycle. -/
structure Founded (next : α → Option (List α)) (node : α) : Prop where
  present : ∀ other, ReflTransGen (Edge next) node other → next other ≠ none
  acyclic : ∀ other, ReflTransGen (Edge next) node other → ¬ TransGen (Edge next) other other

theorem Founded.of_edge {a b : α} (founded : Founded next a) (edge : Edge next a b) : Founded next b :=
  ⟨fun other reached => founded.present other (.head edge reached),
    fun other reached => founded.acyclic other (.head edge reached)⟩

/-- What is left when nodes are dropped. -/
def Part (part next : α → Option (List α)) : Prop := ∀ a named, part a = some named → next a = some named

variable {part : α → Option (List α)}

theorem Part.edge (isPart : Part part next) {a b : α} (edge : Edge part a b) : Edge next a b :=
  edge.imp fun named there => ⟨isPart a named there.1, there.2⟩

/-- While what was dropped is not founded, a node that names one that is not left is not founded either. -/
theorem not_founded_of_missing (isPart : Part part next)
    (dropped : ∀ a, next a ≠ none → part a = none → ¬ Founded next a) {a b : α} (edge : Edge part a b)
    (missing : part b = none) : ¬ Founded next a := by
  intro founded
  have onward := founded.of_edge (isPart.edge edge)
  exact dropped b (onward.present b .refl) missing onward

/-- A node that leads into a cycle of what is left is not founded. -/
theorem not_founded_of_cycle (isPart : Part part next) {a again : α}
    (reached : ReflTransGen (Edge part) a again) (cycle : TransGen (Edge part) again again) :
    ¬ Founded next a :=
  fun founded => founded.acyclic again (reached.lift id fun _ _ => isPart.edge)
    (cycle.lift id fun _ _ => isPart.edge)

/-- Where nothing that is left names one that is not, and no walk finds a cycle, all that is left is
    founded. -/
theorem founded_of_closed (isPart : Part part next)
    (closed : ∀ a b, Edge part a b → part b ≠ none)
    (acyclic : ∀ a, part a ≠ none → Acc (fun b a => Edge part a b) a) {a : α} (left : part a ≠ none) :
    Founded next a := by
  have same {b c : α} (isLeft : part b ≠ none) (edge : Edge next b c) : Edge part b c := by
    obtain ⟨named, names, isNamed⟩ := edge
    obtain ⟨others, still⟩ := Option.ne_none_iff_exists'.mp isLeft
    rw [isPart b others still] at names
    cases names
    exact ⟨_, still, isNamed⟩
  have within {b : α} (reached : ReflTransGen (Edge next) a b) :
      part b ≠ none ∧ ReflTransGen (Edge part) a b := by
    induction reached with
    | refl => exact ⟨left, .refl⟩
    | tail _ edge ih =>
        have step := same ih.1 edge
        exact ⟨closed _ _ step, ih.2.tail step⟩
  have cycles {b c : α} (isLeft : part b ≠ none) (onward : TransGen (Edge next) b c) :
      part c ≠ none ∧ TransGen (Edge part) b c := by
    induction onward with
    | single edge => exact ⟨closed _ _ (same isLeft edge), .single (same isLeft edge)⟩
    | tail _ edge ih =>
        have step := same ih.1 edge
        exact ⟨closed _ _ step, ih.2.tail step⟩
  refine ⟨fun b reached gone => ?_, fun b reached cycle => ?_⟩
  · obtain ⟨isLeft, -⟩ := within reached
    obtain ⟨named, still⟩ := Option.ne_none_iff_exists'.mp isLeft
    rw [isPart b named still] at gone
    cases gone
  · obtain ⟨isLeft, -⟩ := within reached
    exact not_cycle_of_acc (acyclic b isLeft) (cycles isLeft cycle).2

end JumptotechLabs.Core.Cycles
