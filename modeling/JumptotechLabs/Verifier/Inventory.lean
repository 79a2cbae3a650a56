/-
Module: JumptotechLabs.Verifier.Inventory
Layer: Verifier (services/verifier/src/ansible-yaml.ts, the inventory)
Purpose: What `ansible-inventory --list` says, resolved into flat group membership. Results are kept from one root to
  the next, and the names seen under one root are shared by all that is followed below it. Whatever the children, it
  ends; and where no group is its own descendant, a group's members are the hosts of all groups reached from it.
Main exports: ParsedInventory, parseInventoryJson, Lists, Child, Belongs, Acyclic, resolve_ends, resolve_members,
  inventory_membership_is_reachability
-/
import JumptotechLabs.Core.Cycles
import JumptotechLabs.Core.Json
import JumptotechLabs.Core.Keyed
import Mathlib.Logic.Relation
import Mathlib.Data.List.Induction
import Mathlib.Data.List.Perm.Subperm

namespace JumptotechLabs.Verifier.Inventory

open JumptotechLabs.Core
open Relation (ReflTransGen TransGen)

/-! ### The parser -/

/-- Whether a value is an object. -/
def isMapping : Value → Bool
  | .object _ => true
  | _ => false

/-- The texts of `asArray(value)`. -/
def texts : Value → List String
  | .array items => items.filterMap fun item =>
      match item with
      | .string text => some text
      | _ => none
  | _ => []

/-- A group as it is written. -/
structure RawGroup where
  hosts : List String
  children : List String

/-- The groups, by name. -/
abbrev RawGroups := List (String × RawGroup)

/-- The groups among the entries of the value. -/
def rawGroups (fields : List (String × Value)) : RawGroups :=
  fields.foldl (fun raw own =>
    if own.1 = "_meta" ∨ isMapping own.2 = false then raw
    else Keyed.put Prod.fst (own.1, ⟨texts (own.2.property "hosts"), texts (own.2.property "children")⟩) raw) []

/-- `entry?.hosts ?? []`. -/
def hostsOf (raw : RawGroups) (name : String) : List String :=
  ((Keyed.lookup Prod.fst name raw).map fun entry => entry.2.hosts).getD []

/-- `entry?.children ?? []`. -/
def childrenOf (raw : RawGroups) (name : String) : List String :=
  ((Keyed.lookup Prod.fst name raw).map fun entry => entry.2.children).getD []

/-- `Set.add`, one host after the other. -/
def addHosts (members hosts : List String) : List String :=
  hosts.foldl (fun members host => if host ∈ members then members else members ++ [host]) members

/-- The sets of hosts that are known so far, and the names seen under the present root. -/
structure Memo where
  groups : List (String × List String)
  seen : List String

/-- The hosts of the children are added one child after the other. -/
def followChildren (follow : String → Memo → Option (List String × Memo)) :
    List String → List String → Memo → Option (List String × Memo)
  | [], members, memo => some (members, memo)
  | child :: rest, members, memo =>
      match follow child memo with
      | none => none
      | some (hosts, memo) => followChildren follow rest (addHosts members hosts) memo

/-- `resolve(name, seen)`; without an answer where the steps run out. -/
def resolve (raw : RawGroups) : Nat → String → Memo → Option (List String × Memo)
  | 0, _, _ => none
  | fuel + 1, name, memo =>
      match Keyed.lookup Prod.fst name memo.groups with
      | some cached => some (cached.2, memo)
      | none =>
          if name ∈ memo.seen then some ([], memo)
          else
            match followChildren (resolve raw fuel) (childrenOf raw name) (addHosts [] (hostsOf raw name))
              ⟨memo.groups, memo.seen ++ [name]⟩ with
            | none => none
            | some (members, memo) =>
                some (members, ⟨Keyed.put Prod.fst (name, members) memo.groups, memo.seen⟩)

/-- The groups with their hosts, and all hosts. -/
structure ParsedInventory where
  groups : List (String × List String)
  hosts : List String

/-- Every group is resolved, each from nothing seen. -/
def resolveRoots (raw : RawGroups) (fuel : Nat) : List String → ParsedInventory → Option ParsedInventory
  | [], parsed => some parsed
  | name :: names, parsed =>
      match resolve raw fuel name ⟨parsed.groups, []⟩ with
      | none => none
      | some (members, memo) => resolveRoots raw fuel names ⟨memo.groups, addHosts parsed.hosts members⟩

/-- Every name a group has or a child is called by. -/
def namesOf (raw : RawGroups) : List String :=
  raw.map Prod.fst ++ raw.flatMap fun entry => entry.2.children

/-- The keys of `_meta.hostvars`. -/
def hostvarNames (json : Value) : List String :=
  match (json.property "_meta").property "hostvars" with
  | .object fields => fields.map Prod.fst
  | _ => []

/-- The inventory of a document; nothing where the resolution does not come to its end. -/
def parseInventoryJson : Value → Option ParsedInventory
  | .object fields =>
      let raw := rawGroups fields
      (resolveRoots raw ((namesOf raw).length + 1) (raw.map Prod.fst) ⟨[], []⟩).map fun parsed =>
        ⟨parsed.groups, addHosts parsed.hosts (hostvarNames (.object fields))⟩
  | _ => some ⟨[], []⟩

/-! ### What an inventory says -/

/-- The value has a group of this name, written so. -/
def IsGroup (json : Value) (name : String) (written : Value) : Prop :=
  ∃ fields, json = .object fields ∧ (name, written) ∈ fields ∧ name ≠ "_meta" ∧ isMapping written = true

/-- The group lists the host itself. -/
def Lists (json : Value) (group host : String) : Prop :=
  ∃ written, IsGroup json group written ∧ host ∈ texts (written.property "hosts")

/-- The group names the other among its children. -/
def Child (json : Value) (group child : String) : Prop :=
  ∃ written, IsGroup json group written ∧ child ∈ texts (written.property "children")

/-- The host is listed by the group or by one that is reached from it through children. -/
def Belongs (json : Value) (group host : String) : Prop :=
  ∃ inner, ReflTransGen (Child json) group inner ∧ Lists json inner host

/-- No group is its own descendant. -/
def Acyclic (json : Value) : Prop := ∀ group, ¬ TransGen (Child json) group group

/-- The host is in the group's set. -/
def ParsedInventory.Member (parsed : ParsedInventory) (group host : String) : Prop :=
  ∃ members, Keyed.lookup Prod.fst group parsed.groups = some (group, members) ∧ host ∈ members

/-! ### Sets of hosts -/

theorem mem_addHosts {members hosts : List String} {host : String} :
    host ∈ addHosts members hosts ↔ host ∈ members ∨ host ∈ hosts := by
  unfold addHosts
  induction hosts generalizing members with
  | nil => simp
  | cons first rest ih =>
      rw [List.foldl_cons, ih, List.mem_cons]
      split
      · rename_i present
        constructor
        · rintro (inside | behind)
          · exact .inl inside
          · exact .inr (.inr behind)
        · rintro (inside | rfl | behind)
          · exact .inl inside
          · exact .inl present
          · exact .inr behind
      · rw [List.mem_append, List.mem_singleton, or_assoc]

/-! ### It ends -/

section Ends

variable {raw : RawGroups} {nodes : List String}

/-- The names seen are distinct, and among the names there are. -/
structure Memo.Bounded (nodes : List String) (memo : Memo) : Prop where
  distinct : memo.seen.Nodup
  known : memo.seen ⊆ nodes

/-- Following one name ends, and forgets no name that was seen. -/
def EndsAt (nodes : List String) (room : Nat) (follow : String → Memo → Option (List String × Memo))
    (name : String) : Prop :=
  ∀ memo : Memo, memo.Bounded nodes → nodes.length < room + memo.seen.length →
    ∃ members after, follow name memo = some (members, after) ∧ after.Bounded nodes ∧
      memo.seen.length ≤ after.seen.length

theorem followChildren_ends {room : Nat} {follow : String → Memo → Option (List String × Memo)}
    {children : List String} (ends : ∀ child ∈ children, EndsAt nodes room follow child)
    (members : List String) {memo : Memo} (bounded : memo.Bounded nodes)
    (enough : nodes.length < room + memo.seen.length) :
    ∃ members' after, followChildren follow children members memo = some (members', after) ∧
      after.Bounded nodes ∧ memo.seen.length ≤ after.seen.length := by
  induction children generalizing members memo with
  | nil => exact ⟨members, memo, rfl, bounded, le_rfl⟩
  | cons child rest ih =>
      obtain ⟨hosts, next, isNext, bounded', longer⟩ :=
        ends child List.mem_cons_self memo bounded enough
      obtain ⟨members', after, isAfter, bounded'', longer'⟩ :=
        ih (fun other member => ends other (List.mem_cons_of_mem _ member)) (addHosts members hosts) bounded'
          (by omega)
      refine ⟨members', after, ?_, bounded'', longer.trans longer'⟩
      rw [followChildren, isNext]
      exact isAfter

theorem resolve_ends (known : ∀ name ∈ nodes, childrenOf raw name ⊆ nodes) {fuel : Nat} {name : String}
    (inside : name ∈ nodes) : EndsAt nodes fuel (resolve raw fuel) name := by
  induction fuel generalizing name with
  | zero =>
      intro memo bounded enough
      have short := (bounded.distinct.subperm bounded.known).length_le
      omega
  | succ fuel ih =>
      intro memo bounded enough
      rw [resolve]
      cases Keyed.lookup Prod.fst name memo.groups with
      | some cached => exact ⟨cached.2, memo, rfl, bounded, le_rfl⟩
      | none =>
          by_cases isSeen : name ∈ memo.seen
          · exact ⟨[], memo, if_pos isSeen, bounded, le_rfl⟩
          · have bounded' : (⟨memo.groups, memo.seen ++ [name]⟩ : Memo).Bounded nodes := by
              refine ⟨?_, ?_⟩
              · exact bounded.distinct.append (List.nodup_singleton _)
                  (List.disjoint_singleton.mpr isSeen)
              · exact List.append_subset.mpr ⟨bounded.known, by simpa using inside⟩
            obtain ⟨members, after, isAfter, bounded'', longer⟩ := followChildren_ends
              (fun child member => ih (known name inside member)) (addHosts [] (hostsOf raw name)) bounded'
              (by rw [List.length_append, List.length_singleton]; omega)
            refine ⟨members, ⟨Keyed.put Prod.fst (name, members) after.groups, after.seen⟩, ?_,
              ⟨bounded''.distinct, bounded''.known⟩, ?_⟩
            · dsimp only
              rw [if_neg isSeen, isAfter]
            · rw [List.length_append, List.length_singleton] at longer
              exact Nat.le_of_succ_le longer

theorem childrenOf_subset (raw : RawGroups) (name : String) : childrenOf raw name ⊆ namesOf raw := by
  unfold childrenOf
  cases found : Keyed.lookup Prod.fst name raw with
  | none => exact List.nil_subset _
  | some entry =>
      intro child member
      exact List.mem_append_right _ (List.mem_flatMap.mpr ⟨entry, Keyed.mem_of_lookup found, member⟩)

theorem resolveRoots_ends {names : List String} (inside : names ⊆ namesOf raw) (parsed : ParsedInventory) :
    ∃ result, resolveRoots raw ((namesOf raw).length + 1) names parsed = some result := by
  induction names generalizing parsed with
  | nil => exact ⟨parsed, rfl⟩
  | cons name names ih =>
      obtain ⟨here, further⟩ := List.cons_subset.mp inside
      obtain ⟨members, after, isAfter, -, -⟩ :=
        resolve_ends (fun other _ => childrenOf_subset raw other) here ⟨parsed.groups, []⟩
          ⟨List.nodup_nil, List.nil_subset _⟩ (Nat.lt_succ_self _)
      obtain ⟨result, isResult⟩ := ih further ⟨after.groups, addHosts parsed.hosts members⟩
      refine ⟨result, ?_⟩
      rw [resolveRoots, isAfter]
      exact isResult

theorem parseInventoryJson_ends (json : Value) : ∃ parsed, parseInventoryJson json = some parsed := by
  cases json with
  | object fields =>
      obtain ⟨result, isResult⟩ := @resolveRoots_ends (rawGroups fields) _
        (List.subset_append_left _ _) ⟨[], []⟩
      exact ⟨_, by rw [parseInventoryJson, isResult]; rfl⟩
  | undefined => exact ⟨_, rfl⟩
  | null => exact ⟨_, rfl⟩
  | boolean value => exact ⟨_, rfl⟩
  | number value => exact ⟨_, rfl⟩
  | string text => exact ⟨_, rfl⟩
  | array items => exact ⟨_, rfl⟩

end Ends

/-! ### What is kept is complete -/

section Members

variable {raw : RawGroups}

/-- One group names the other. -/
def Names (raw : RawGroups) (group child : String) : Prop := child ∈ childrenOf raw group

/-- The hosts of all groups reached from this one. -/
def Reached (raw : RawGroups) (group host : String) : Prop :=
  ∃ inner, ReflTransGen (Names raw) group inner ∧ host ∈ hostsOf raw inner

theorem reached_iff {group host : String} :
    Reached raw group host ↔
      host ∈ hostsOf raw group ∨ ∃ child ∈ childrenOf raw group, Reached raw child host := by
  constructor
  · rintro ⟨inner, reaches, listed⟩
    rcases ReflTransGen.cases_head reaches with rfl | ⟨child, names, further⟩
    · exact .inl listed
    · exact .inr ⟨child, names, inner, further, listed⟩
  · rintro (listed | ⟨child, names, inner, further, listed⟩)
    · exact ⟨group, .refl, listed⟩
    · exact ⟨inner, .head names further, listed⟩

/-- The name has its set. -/
def Memo.Has (memo : Memo) (name : String) : Prop := (Keyed.lookup Prod.fst name memo.groups).isSome

/-- Every set that is kept is complete and stands beside those of its children, and every name that was seen has its
    set or is still being followed. -/
structure Memo.Sound (raw : RawGroups) (followed : String → Prop) (memo : Memo) : Prop where
  complete : ∀ entry ∈ memo.groups, ∀ host, host ∈ entry.2 ↔ Reached raw entry.1 host
  closed : ∀ name, memo.Has name → ∀ child, Names raw name child → memo.Has child
  finished : ∀ name ∈ memo.seen, memo.Has name ∨ followed name

/-- No set is lost, and every new one belongs to a name that is reached. -/
structure Memo.Grows (raw : RawGroups) (name : String) (memo after : Memo) : Prop where
  kept : ∀ other, memo.Has other → after.Has other
  reached : ∀ other, after.Has other → memo.Has other ∨ ReflTransGen (Names raw) name other

theorem Memo.Grows.refl {name : String} {memo : Memo} : memo.Grows raw name memo :=
  ⟨fun _ present => present, fun _ present => .inl present⟩

theorem Memo.Grows.trans {name : String} {memo next after : Memo} (first : memo.Grows raw name next)
    (second : next.Grows raw name after) : memo.Grows raw name after where
  kept other present := second.kept other (first.kept other present)
  reached other present := (second.reached other present).elim (first.reached other) .inr

theorem Memo.Grows.of_child {name child : String} {memo after : Memo} (names : Names raw name child)
    (grows : memo.Grows raw child after) : memo.Grows raw name after :=
  ⟨grows.kept, fun other present => (grows.reached other present).imp_right fun further => .head names further⟩

/-- What following a name gives, while the names that are still being followed all lead to it. -/
def Follows (raw : RawGroups) (follow : String → Memo → Option (List String × Memo)) (name : String) : Prop :=
  ∀ (followed : String → Prop) (memo : Memo) (members : List String) (after : Memo), memo.Sound raw followed →
    (∀ other, followed other → TransGen (Names raw) other name) → follow name memo = some (members, after) →
    (∀ host, host ∈ members ↔ Reached raw name host) ∧ after.Sound raw followed ∧ memo.Grows raw name after ∧
      after.Has name

theorem followChildren_members {follow : String → Memo → Option (List String × Memo)} {name : String}
    {children : List String} (follows : ∀ child ∈ children, Follows raw follow child)
    (named : ∀ child ∈ children, Names raw name child) {followed : String → Prop}
    (leads : ∀ other, followed other → ReflTransGen (Names raw) other name)
    {members members' : List String} {memo after : Memo} (sound : memo.Sound raw followed)
    (isAfter : followChildren follow children members memo = some (members', after)) :
    (∀ host, host ∈ members' ↔ host ∈ members ∨ ∃ child ∈ children, Reached raw child host) ∧
      after.Sound raw followed ∧ memo.Grows raw name after ∧ ∀ child ∈ children, after.Has child := by
  induction children generalizing members memo with
  | nil =>
      cases isAfter
      exact ⟨by simp, sound, .refl, by simp⟩
  | cons child rest ih =>
      rw [followChildren] at isAfter
      cases next : follow child memo with
      | none =>
          rw [next] at isAfter
          cases isAfter
      | some result =>
          rw [next] at isAfter
          have names := named child List.mem_cons_self
          obtain ⟨hosts, sound', grows, has⟩ := follows child List.mem_cons_self followed memo result.1 result.2 sound
            (fun other isOpen => TransGen.tail' (leads other isOpen) names) next
          obtain ⟨more, sound'', grows', all⟩ := ih (fun other member => follows other (List.mem_cons_of_mem _ member))
            (fun other member => named other (List.mem_cons_of_mem _ member)) sound' isAfter
          refine ⟨?_, sound'', (grows.of_child names).trans grows', ?_⟩
          · intro host
            rw [more, mem_addHosts, hosts host, or_assoc]
            simp only [List.mem_cons, exists_eq_or_imp]
          · exact List.forall_mem_cons.mpr ⟨grows'.kept child has, all⟩

theorem resolve_members (acyclic : ∀ group, ¬ TransGen (Names raw) group group) (fuel : Nat) (name : String) :
    Follows raw (resolve raw fuel) name := by
  induction fuel generalizing name with
  | zero =>
      intro followed memo members after sound leads isAfter
      cases isAfter
  | succ fuel ih =>
      intro followed memo members after sound leads isAfter
      rw [resolve] at isAfter
      cases cached : Keyed.lookup Prod.fst name memo.groups with
      | some entry =>
          rw [cached] at isAfter
          cases isAfter
          have own : entry.1 = name := Keyed.key_of_lookup cached
          refine ⟨?_, sound, .refl, Option.isSome_of_eq_some cached⟩
          rw [← own]
          exact sound.complete entry (Keyed.mem_of_lookup cached)
      | none =>
          rw [cached] at isAfter
          -- A name that was seen and has no set is still being followed, so it would be its own descendant.
          have isNew : name ∉ memo.seen := by
            intro isSeen
            rcases sound.finished name isSeen with present | isOpen
            · rw [Memo.Has, cached] at present
              cases present
            · exact acyclic name (leads name isOpen)
          dsimp only at isAfter
          rw [if_neg isNew] at isAfter
          cases inner : followChildren (resolve raw fuel) (childrenOf raw name) (addHosts [] (hostsOf raw name))
              ⟨memo.groups, memo.seen ++ [name]⟩ with
          | none =>
              rw [inner] at isAfter
              cases isAfter
          | some result =>
              rw [inner] at isAfter
              cases isAfter
              have sound' : (⟨memo.groups, memo.seen ++ [name]⟩ : Memo).Sound raw fun other =>
                  followed other ∨ other = name := by
                refine ⟨sound.complete, sound.closed, ?_⟩
                intro other member
                rcases List.mem_append.mp member with before | here
                · exact (sound.finished other before).imp_right .inl
                · exact .inr (.inr (List.mem_singleton.mp here))
              have leads' : ∀ other, followed other ∨ other = name → ReflTransGen (Names raw) other name := by
                rintro other (isOpen | rfl)
                · exact (leads other isOpen).to_reflTransGen
                · exact .refl
              obtain ⟨hosts, sound'', grows, all⟩ := followChildren_members (fun child _ => ih child)
                (fun child member => member) leads' sound' inner
              have whole : ∀ host, host ∈ result.1 ↔ Reached raw name host := by
                intro host
                rw [hosts host, reached_iff, mem_addHosts]
                simp
              have has : ∀ other, Memo.Has ⟨Keyed.put Prod.fst (name, result.1) result.2.groups, result.2.seen⟩ other ↔
                  name = other ∨ result.2.Has other := by
                intro other
                unfold Memo.Has
                rw [Keyed.lookup_put]
                by_cases same : name = other <;> simp [same]
              refine ⟨whole, ⟨?_, ?_, ?_⟩, ⟨?_, ?_⟩, (has name).mpr (.inl rfl)⟩
              · intro entry member
                rcases Keyed.mem_put member with rfl | old
                · exact whole
                · exact sound''.complete entry old
              · intro other present child names
                rcases (has other).mp present with rfl | before
                · exact (has child).mpr (.inr (all child names))
                · exact (has child).mpr (.inr (sound''.closed other before child names))
              · intro other isSeen
                rcases sound''.finished other isSeen with present | isOpen | same
                · exact .inl ((has other).mpr (.inr present))
                · exact .inr isOpen
                · exact .inl ((has other).mpr (.inl same.symm))
              · intro other present
                exact (has other).mpr (.inr (grows.kept other present))
              · intro other present
                rcases (has other).mp present with rfl | before
                · exact .inr .refl
                · exact grows.reached other before

/-- A name that has its set has the sets of all that is reached from it. -/
theorem Memo.Sound.has_of_reached {followed : String → Prop} {memo : Memo} (sound : memo.Sound raw followed)
    {name other : String} (has : memo.Has name) (reaches : ReflTransGen (Names raw) name other) :
    memo.Has other := by
  induction reaches with
  | refl => exact has
  | tail _ names ih => exact sound.closed _ ih _ names

/-- What is known once some roots are done. -/
structure ParsedInventory.Complete (raw : RawGroups) (roots : List String) (parsed : ParsedInventory) : Prop where
  sound : Memo.Sound raw (fun _ => False) ⟨parsed.groups, []⟩
  grouped : ∀ group, Memo.Has ⟨parsed.groups, []⟩ group ↔ ∃ root ∈ roots, ReflTransGen (Names raw) root group
  union : ∀ host, host ∈ parsed.hosts ↔ ∃ root ∈ roots, Reached raw root host

theorem resolveRoots_complete (acyclic : ∀ group, ¬ TransGen (Names raw) group group) {fuel : Nat}
    {done names : List String} {parsed result : ParsedInventory} (complete : parsed.Complete raw done)
    (isResult : resolveRoots raw fuel names parsed = some result) : result.Complete raw (done ++ names) := by
  induction names generalizing done parsed with
  | nil =>
      cases isResult
      rw [List.append_nil]
      exact complete
  | cons name names ih =>
      rw [resolveRoots] at isResult
      cases next : resolve raw fuel name ⟨parsed.groups, []⟩ with
      | none =>
          rw [next] at isResult
          cases isResult
      | some answer =>
          rw [next] at isResult
          obtain ⟨hosts, sound, grows, has⟩ := resolve_members acyclic fuel name (fun _ => False) _ answer.1
            answer.2 complete.sound (fun _ impossible => impossible.elim) next
          have sound' : Memo.Sound raw (fun _ => False) ⟨answer.2.groups, []⟩ :=
            ⟨sound.complete, sound.closed, fun _ member => by cases member⟩
          have complete' : ParsedInventory.Complete raw (done ++ [name])
              ⟨answer.2.groups, addHosts parsed.hosts answer.1⟩ := by
            refine ⟨sound', ?_, ?_⟩
            · intro group
              constructor
              · intro present
                rcases grows.reached group present with before | reaches
                · obtain ⟨root, member, reaches⟩ := (complete.grouped group).mp before
                  exact ⟨root, List.mem_append_left _ member, reaches⟩
                · exact ⟨name, List.mem_append_right _ List.mem_cons_self, reaches⟩
              · rintro ⟨root, member, reaches⟩
                rcases List.mem_append.mp member with before | here
                · exact grows.kept group ((complete.grouped group).mpr ⟨root, before, reaches⟩)
                · cases List.mem_singleton.mp here
                  exact sound.has_of_reached has reaches
            · intro host
              rw [mem_addHosts, complete.union, hosts host]
              simp [or_and_right, exists_or]
          rw [List.append_cons]
          exact ih complete' isResult

end Members

/-! ### The raw groups are the groups that are written -/

section Written

variable {fields : List (String × Value)}

/-- The entry that a field gives. -/
def rawGroup (own : String × Value) : String × RawGroup :=
  (own.1, ⟨texts (own.2.property "hosts"), texts (own.2.property "children")⟩)

/-- The raw groups stand as they are written. -/
theorem rawGroups_eq (own : (fields.map Prod.fst).Nodup) :
    rawGroups fields =
      (fields.filter fun field => ¬ (field.1 = "_meta" ∨ isMapping field.2 = false)).map rawGroup := by
  induction fields using List.reverseRecOn with
  | nil => rfl
  | append_singleton before field ih =>
      rw [List.map_append, List.nodup_append] at own
      obtain ⟨own', -, apart⟩ := own
      unfold rawGroups at ih ⊢
      rw [List.foldl_append, ih own', List.foldl_cons, List.foldl_nil, List.filter_append, List.map_append]
      by_cases skipped : field.1 = "_meta" ∨ isMapping field.2 = false
      · rw [if_pos skipped, List.filter_cons_of_neg (by simpa using skipped.resolve_left), List.filter_nil,
          List.map_nil, List.append_nil]
      · have absent : Keyed.lookup Prod.fst (rawGroup field).1 ((before.filter fun field =>
            ¬ (field.1 = "_meta" ∨ isMapping field.2 = false)).map rawGroup) = none := by
          rw [Keyed.lookup_eq_none]
          intro entry member same
          obtain ⟨other, inside, rfl⟩ := List.mem_map.mp member
          have isBefore : field.1 ∈ before.map Prod.fst :=
            same ▸ List.mem_map_of_mem (List.mem_filter.mp inside).1
          exact apart _ isBefore _ (by simp) rfl
        rw [if_neg skipped, List.filter_cons_of_pos (by simpa using skipped), List.filter_nil]
        exact Keyed.put_of_absent absent

theorem mem_rawGroups (own : (fields.map Prod.fst).Nodup) {name : String} {group : RawGroup} :
    (name, group) ∈ rawGroups fields ↔
      ∃ written, IsGroup (.object fields) name written ∧
        group = ⟨texts (written.property "hosts"), texts (written.property "children")⟩ := by
  rw [rawGroups_eq own, List.mem_map]
  constructor
  · rintro ⟨⟨name', written⟩, member, same⟩
    obtain ⟨inside, isGroup⟩ := List.mem_filter.mp member
    cases same
    have isGroup' := not_or.mp (of_decide_eq_true isGroup)
    exact ⟨written, ⟨fields, rfl, inside, isGroup'.1, by simpa using isGroup'.2⟩, rfl⟩
  · rintro ⟨written, ⟨fields', same, inside, notMeta, mapping⟩, rfl⟩
    cases same
    refine ⟨(name, written), List.mem_filter.mpr ⟨inside, ?_⟩, rfl⟩
    simp [notMeta, mapping]

theorem distinct_rawGroups (own : (fields.map Prod.fst).Nodup) : Keyed.Distinct Prod.fst (rawGroups fields) := by
  rw [rawGroups_eq own, Keyed.Distinct, List.map_map]
  exact own.sublist (List.filter_sublist.map Prod.fst)

/-- What is read of the group under a name. -/
theorem mem_read (own : (fields.map Prod.fst).Nodup) (read : RawGroup → List String) {name text : String} :
    text ∈ ((Keyed.lookup Prod.fst name (rawGroups fields)).map fun entry => read entry.2).getD [] ↔
      ∃ written, IsGroup (.object fields) name written ∧
        text ∈ read ⟨texts (written.property "hosts"), texts (written.property "children")⟩ := by
  constructor
  · intro member
    cases found : Keyed.lookup Prod.fst name (rawGroups fields) with
    | none =>
        rw [found] at member
        cases member
    | some entry =>
        rw [found] at member
        obtain ⟨name', group⟩ := entry
        cases Keyed.key_of_lookup found
        obtain ⟨written, isGroup, rfl⟩ := (mem_rawGroups own).mp (Keyed.mem_of_lookup found)
        exact ⟨written, isGroup, member⟩
  · rintro ⟨written, isGroup, member⟩
    have found := Keyed.lookup_of_mem (distinct_rawGroups own) ((mem_rawGroups own).mpr ⟨written, isGroup, rfl⟩)
    dsimp only at found
    rw [found]
    exact member

theorem mem_hostsOf (own : (fields.map Prod.fst).Nodup) {name host : String} :
    host ∈ hostsOf (rawGroups fields) name ↔ Lists (.object fields) name host :=
  mem_read own RawGroup.hosts

theorem mem_childrenOf (own : (fields.map Prod.fst).Nodup) {name child : String} :
    child ∈ childrenOf (rawGroups fields) name ↔ Child (.object fields) name child :=
  mem_read own RawGroup.children

theorem names_eq (own : (fields.map Prod.fst).Nodup) : Names (rawGroups fields) = Child (.object fields) := by
  funext group child
  exact propext (mem_childrenOf own)

theorem reached_iff_belongs (own : (fields.map Prod.fst).Nodup) {group host : String} :
    Reached (rawGroups fields) group host ↔ Belongs (.object fields) group host := by
  unfold Reached Belongs
  rw [names_eq own]
  simp only [mem_hostsOf own]

/-- A name that is not a group's has no hosts. -/
theorem isGroup_of_belongs {json : Value} {group host : String} (belongs : Belongs json group host) :
    ∃ written, IsGroup json group written := by
  obtain ⟨inner, reaches, written, isGroup, -⟩ := belongs
  rcases ReflTransGen.cases_head reaches with rfl | ⟨child, ⟨written', isGroup', -⟩, -⟩
  · exact ⟨written, isGroup⟩
  · exact ⟨written', isGroup'⟩

theorem mem_roots (own : (fields.map Prod.fst).Nodup) {name : String} :
    name ∈ (rawGroups fields).map Prod.fst ↔ ∃ written, IsGroup (.object fields) name written := by
  rw [List.mem_map]
  constructor
  · rintro ⟨⟨name', group⟩, member, rfl⟩
    obtain ⟨written, isGroup, -⟩ := (mem_rawGroups own).mp member
    exact ⟨written, isGroup⟩
  · rintro ⟨written, isGroup⟩
    exact ⟨_, (mem_rawGroups own).mpr ⟨written, isGroup, rfl⟩, rfl⟩

end Written

/-! ### What the parser says -/

/-- The parser says what the inventory says. -/
structure ParsedInventory.Reports (json : Value) (parsed : ParsedInventory) : Prop where
  member : ∀ group host, parsed.Member group host ↔ Belongs json group host
  grouped : ∀ group, (∃ members, (group, members) ∈ parsed.groups) ↔
    ∃ root written, IsGroup json root written ∧ ReflTransGen (Child json) root group
  hosts : ∀ host, host ∈ parsed.hosts ↔ (∃ group, parsed.Member group host) ∨ host ∈ hostvarNames json

theorem reports_of_noObject {json : Value} (noObject : ∀ fields, json ≠ .object fields) :
    ParsedInventory.Reports json ⟨[], []⟩ := by
  have noGroup : ∀ name written, ¬ IsGroup json name written := by
    rintro name written ⟨fields, same, -⟩
    exact noObject fields same
  have noMember : ∀ group host, ¬ (⟨[], []⟩ : ParsedInventory).Member group host := by
    rintro group host ⟨members, found, -⟩
    cases found
  have noNames : hostvarNames json = [] := by
    cases json with
    | object fields => exact absurd rfl (noObject fields)
    | _ => rfl
  refine ⟨?_, ?_, ?_⟩
  · intro group host
    refine ⟨fun member => absurd member (noMember group host), fun belongs => ?_⟩
    obtain ⟨written, isGroup⟩ := isGroup_of_belongs belongs
    exact absurd isGroup (noGroup group written)
  · intro group
    constructor
    · rintro ⟨members, impossible⟩
      cases impossible
    · rintro ⟨root, written, isGroup, -⟩
      exact absurd isGroup (noGroup root written)
  · intro host
    rw [noNames]
    constructor
    · intro impossible
      cases impossible
    · rintro (⟨group, member⟩ | impossible)
      · exact absurd member (noMember group host)
      · cases impossible

theorem complete_nil (raw : RawGroups) : ParsedInventory.Complete raw [] ⟨[], []⟩ where
  sound := by
    refine ⟨?_, ?_, ?_⟩
    · intro entry member
      cases member
    · intro name has
      cases has
    · intro name member
      cases member
  grouped group := by simp [Memo.Has, Keyed.lookup]
  union host := by simp

theorem reports_of_complete {fields : List (String × Value)} (own : (fields.map Prod.fst).Nodup)
    {parsed : ParsedInventory} (complete : parsed.Complete (rawGroups fields) ((rawGroups fields).map Prod.fst)) :
    ParsedInventory.Reports (.object fields)
      ⟨parsed.groups, addHosts parsed.hosts (hostvarNames (.object fields))⟩ := by
  have grouped : ∀ group, Memo.Has ⟨parsed.groups, []⟩ group ↔
      ∃ root written, IsGroup (.object fields) root written ∧ ReflTransGen (Child (.object fields)) root group := by
    intro group
    rw [complete.grouped, names_eq own]
    simp only [mem_roots own, exists_and_right]
  have member : ∀ group host, parsed.Member group host ↔ Belongs (.object fields) group host := by
    intro group host
    rw [← reached_iff_belongs own]
    constructor
    · rintro ⟨members, found, inside⟩
      exact (complete.sound.complete _ (Keyed.mem_of_lookup found) host).mp inside
    · intro reached
      obtain ⟨written, isGroup⟩ := isGroup_of_belongs ((reached_iff_belongs own).mp reached)
      obtain ⟨⟨name, members⟩, found⟩ :=
        Option.isSome_iff_exists.mp ((grouped group).mpr ⟨group, written, isGroup, .refl⟩)
      cases Keyed.key_of_lookup found
      exact ⟨members, found, (complete.sound.complete _ (Keyed.mem_of_lookup found) host).mpr reached⟩
  refine ⟨member, ?_, ?_⟩
  · intro group
    rw [← grouped]
    constructor
    · rintro ⟨members, inside⟩
      by_contra missing
      exact Keyed.lookup_eq_none.mp (Option.not_isSome_iff_eq_none.mp missing) _ inside rfl
    · intro has
      obtain ⟨⟨name, members⟩, found⟩ := Option.isSome_iff_exists.mp has
      cases Keyed.key_of_lookup found
      exact ⟨members, Keyed.mem_of_lookup found⟩
  · intro host
    rw [mem_addHosts, complete.union]
    apply or_congr_left
    constructor
    · rintro ⟨root, -, reached⟩
      exact ⟨root, (member root host).mpr ((reached_iff_belongs own).mp reached)⟩
    · rintro ⟨group, isMember⟩
      have belongs := (member group host).mp isMember
      exact ⟨group, (mem_roots own).mpr (isGroup_of_belongs belongs), (reached_iff_belongs own).mpr belongs⟩

theorem parse_reports {json : Value} (lawful : json.Lawful) (acyclic : Acyclic json) {parsed : ParsedInventory}
    (isParsed : parseInventoryJson json = some parsed) : parsed.Reports json := by
  cases lawful with
  | object own _ =>
      obtain ⟨result, isResult, rfl⟩ := Option.map_eq_some_iff.mp isParsed
      apply reports_of_complete own
      rw [Acyclic, ← names_eq own] at acyclic
      simpa using resolveRoots_complete acyclic (complete_nil _) isResult
  | _ =>
      cases isParsed
      exact reports_of_noObject fun fields same => by cases same

/-! ### The order does not matter -/

theorem exists_shuffled {fields fields' : List (String × Value)}
    (keys : fields.map Prod.fst = fields'.map Prod.fst)
    (values : List.Forall₂ Value.Shuffled (fields.map Prod.snd) (fields'.map Prod.snd)) :
    (∀ own ∈ fields, ∃ own' ∈ fields', own.1 = own'.1 ∧ Value.Shuffled own.2 own'.2) ∧
      ∀ own' ∈ fields', ∃ own ∈ fields, own.1 = own'.1 ∧ Value.Shuffled own.2 own'.2 := by
  induction fields generalizing fields' with
  | nil =>
      cases fields' with
      | nil => simp
      | cons own' rest' => cases keys
  | cons own rest ih =>
      cases fields' with
      | nil => cases keys
      | cons own' rest' =>
          obtain ⟨key, keys'⟩ := List.cons.inj keys
          obtain ⟨value, values'⟩ := List.forall₂_cons.mp values
          obtain ⟨onward, back⟩ := ih keys' values'
          constructor
          · intro other member
            rcases List.mem_cons.mp member with rfl | behind
            · exact ⟨own', List.mem_cons_self, key, value⟩
            · obtain ⟨other', inside, same⟩ := onward other behind
              exact ⟨other', List.mem_cons_of_mem _ inside, same⟩
          · intro other member
            rcases List.mem_cons.mp member with rfl | behind
            · exact ⟨own, List.mem_cons_self, key, value⟩
            · obtain ⟨other', inside, same⟩ := back other behind
              exact ⟨other', List.mem_cons_of_mem _ inside, same⟩

/-- The fields of two objects, each with its counterpart. -/
theorem exists_counterpart {fields fields' : List (String × Value)}
    (shuffled : Value.Shuffled (.object fields) (.object fields')) :
    (∀ own ∈ fields, ∃ own' ∈ fields', own.1 = own'.1 ∧ Value.Shuffled own.2 own'.2) ∧
      ∀ own' ∈ fields', ∃ own ∈ fields, own.1 = own'.1 ∧ Value.Shuffled own.2 own'.2 := by
  cases shuffled with
  | object perm keys values =>
      obtain ⟨onward, back⟩ := exists_shuffled keys values
      refine ⟨fun own member => onward own (perm.subset member), fun own' member => ?_⟩
      obtain ⟨own, inside, same⟩ := back own' member
      exact ⟨own, perm.symm.subset inside, same⟩

theorem shuffled_property {value value' : Value} (key : String) (shuffled : value.Shuffled value')
    (lawful : value.Lawful) (lawful' : value'.Lawful) : (value.property key).Shuffled (value'.property key) := by
  cases lawful with
  | object own _ =>
      cases lawful' with
      | object own' _ =>
          obtain ⟨onward, back⟩ := exists_counterpart shuffled
          rename_i fields _ fields' _
          by_cases present : key ∈ fields.map Prod.fst
          · obtain ⟨⟨_, inner⟩, member, rfl⟩ := List.mem_map.mp present
            obtain ⟨⟨_, inner'⟩, member', same, alike⟩ := onward _ member
            cases same
            rw [Value.property, Value.property, Value.field_of_mem own member, Value.field_of_mem own' member']
            exact alike
          · have absent' : key ∉ fields'.map Prod.fst := by
              intro present'
              obtain ⟨⟨_, inner'⟩, member', rfl⟩ := List.mem_map.mp present'
              obtain ⟨other, member, same, -⟩ := back _ member'
              exact present (same ▸ List.mem_map_of_mem member)
            rw [Value.property, Value.property, Value.field_of_absent present, Value.field_of_absent absent']
            exact .undefined
      | _ => cases shuffled
  | _ =>
      cases shuffled
      exact .undefined

theorem mem_texts {items : List Value} {text : String} : text ∈ texts (.array items) ↔ .string text ∈ items := by
  rw [texts, List.mem_filterMap]
  constructor
  · rintro ⟨item, member, isText⟩
    cases item with
    | string other =>
        cases isText
        exact member
    | _ => cases isText
  · intro member
    exact ⟨_, member, rfl⟩

theorem string_mem_iff {items items' : List Value} (alike : List.Forall₂ Value.Shuffled items items')
    (text : String) : .string text ∈ items ↔ .string text ∈ items' := by
  induction alike with
  | nil => rfl
  | cons first _ ih =>
      have same : ∀ {item item' : Value}, item.Shuffled item' → (.string text = item ↔ .string text = item') := by
        intro item item' alike
        cases alike <;> simp
      rw [List.mem_cons, List.mem_cons, same first, ih]

theorem texts_shuffled {value value' : Value} (shuffled : value.Shuffled value') (text : String) :
    text ∈ texts value ↔ text ∈ texts value' := by
  cases shuffled with
  | array perm alike => rw [mem_texts, mem_texts, perm.mem_iff, string_mem_iff alike]
  | _ => rfl

section Shuffled

variable {json json' : Value} (shuffled : json.Shuffled json') (lawful : json.Lawful) (lawful' : json'.Lawful)

include shuffled lawful lawful'

/-- What the values of one group meet, they meet in another order too. -/
theorem exists_group_iff (name : String) {holds : Value → Prop}
    (same : ∀ written written', written.Shuffled written' → written.Lawful → written'.Lawful →
      (holds written ↔ holds written')) :
    (∃ written, IsGroup json name written ∧ holds written) ↔
      ∃ written, IsGroup json' name written ∧ holds written := by
  have mapping : ∀ {value value' : Value}, value.Shuffled value' → isMapping value = isMapping value' := by
    intro value value' alike
    cases alike <;> rfl
  cases lawful with
  | object own inner =>
      cases lawful' with
      | object own' inner' =>
          obtain ⟨onward, back⟩ := exists_counterpart shuffled
          constructor
          · rintro ⟨written, ⟨_, whole, member, notMeta, isMap⟩, held⟩
            cases whole
            obtain ⟨⟨_, written'⟩, member', key, alike⟩ := onward _ member
            cases key
            exact ⟨written', ⟨_, rfl, member', notMeta, (mapping alike).symm.trans isMap⟩,
              (same _ _ alike (inner _ member) (inner' _ member')).mp held⟩
          · rintro ⟨written', ⟨_, whole, member', notMeta, isMap⟩, held⟩
            cases whole
            obtain ⟨⟨_, written⟩, member, key, alike⟩ := back _ member'
            cases key
            exact ⟨written, ⟨_, rfl, member, notMeta, (mapping alike).trans isMap⟩,
              (same _ _ alike (inner _ member) (inner' _ member')).mpr held⟩
      | _ => cases shuffled
  | _ =>
      have noGroup : ∀ {value : Value}, (∀ fields, value ≠ .object fields) →
          ¬ ∃ written, IsGroup value name written ∧ holds written := by
        rintro value noObject ⟨written, ⟨fields, whole, -⟩, -⟩
        exact noObject fields whole
      cases shuffled
      exact iff_of_false (noGroup fun fields whole => by cases whole)
        (noGroup fun fields whole => by cases whole)

theorem child_shuffled : Child json = Child json' := by
  funext group child
  exact propext (exists_group_iff shuffled lawful lawful' group fun _ _ alike lawful lawful' =>
    texts_shuffled (shuffled_property "children" alike lawful lawful') child)

theorem lists_shuffled (group host : String) : Lists json group host ↔ Lists json' group host :=
  exists_group_iff shuffled lawful lawful' group fun _ _ alike lawful lawful' =>
    texts_shuffled (shuffled_property "hosts" alike lawful lawful') host

theorem belongs_shuffled (group host : String) : Belongs json group host ↔ Belongs json' group host := by
  unfold Belongs
  rw [child_shuffled shuffled lawful lawful']
  simp only [lists_shuffled shuffled lawful lawful']

theorem isGroup_shuffled (name : String) :
    (∃ written, IsGroup json name written) ↔ ∃ written, IsGroup json' name written := by
  have groups := @exists_group_iff json json' shuffled lawful lawful' name (fun _ => True) fun _ _ _ _ _ => Iff.rfl
  simpa using groups

theorem hostvarNames_shuffled (host : String) : host ∈ hostvarNames json ↔ host ∈ hostvarNames json' := by
  have related := shuffled_property "hostvars" (shuffled_property "_meta" shuffled lawful lawful')
    (lawful.property "_meta") (lawful'.property "_meta")
  unfold hostvarNames
  generalize (json.property "_meta").property "hostvars" = hostvars at related ⊢
  generalize (json'.property "_meta").property "hostvars" = hostvars' at related ⊢
  cases related with
  | object perm keys _ =>
      dsimp only
      rw [(perm.map Prod.fst).mem_iff, keys]
  | _ => rfl

end Shuffled

/-- An inventory with a child named twice, one that is no group, and an entry that is no host. -/
def sampleInventory : Value :=
  .object [("all", .object [("children", .array [.string "web", .string "web", .string "gone"])]),
    ("web", .object [("hosts", .array [.string "web-1", .null])])]

theorem lawful_sampleInventory : sampleInventory.Lawful := by
  refine .object (by decide) fun own member => ?_
  simp only [List.mem_cons, List.not_mem_nil, or_false] at member
  rcases member with rfl | rfl
  · refine .object (by decide) fun inner inside => ?_
    cases List.mem_singleton.mp inside
    refine .array fun item present => ?_
    simp only [List.mem_cons, List.not_mem_nil, or_false] at present
    rcases present with rfl | rfl | rfl <;> exact .string _
  · refine .object (by decide) fun inner inside => ?_
    cases List.mem_singleton.mp inside
    refine .array fun item present => ?_
    simp only [List.mem_cons, List.not_mem_nil, or_false] at present
    rcases present with rfl | rfl
    · exact .string _
    · exact .null

theorem acyclic_sampleInventory : Acyclic sampleInventory := by
  refine Cycles.acyclic_of_rank (fun group => if group = "all" then 1 else 0) ?_
  rintro group child ⟨written, ⟨fields, whole, member, -⟩, named⟩
  cases whole
  simp only [List.mem_cons, List.not_mem_nil, or_false, Prod.mk.injEq] at member
  rcases member with ⟨rfl, rfl⟩ | ⟨rfl, rfl⟩
  · have isChild : child ∈ ["web", "web", "gone"] := named
    simp only [List.mem_cons, List.not_mem_nil, or_false] at isChild
    rcases isChild with rfl | rfl | rfl <;> decide
  · cases named

end JumptotechLabs.Verifier.Inventory
