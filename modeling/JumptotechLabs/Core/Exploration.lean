/-
Module: JumptotechLabs.Core.Exploration
Layer: Core (library)
Purpose: A depth-first exploration with a bound on its depth and one shared memory: a node is collected where it is
  first met, and whatever the node leads to is met next, if there is room. The depth-first tree of the mentions in
  their order is said of its chains alone: every node in it ends one chain, and wherever a chain of it that has room
  mentions a node, the node's own chain comes no later. There is one such tree, its nodes are those that are
  collected, and they are all within the bound exactly where no mention is lost at the bound.
Main exports: explore, Within, DepthFirst, DepthFirst.unique, exists_depthFirst, mem_explore_iff_of_tree, LosesNothing,
  mem_explore_of_within_iff
-/
import JumptotechLabs.Core.Cycles
import Mathlib.Data.DFinsupp.WellFounded
import Mathlib.Data.List.Infix

namespace JumptotechLabs.Core.Exploration

open JumptotechLabs.Core.Cycles (Edge)

variable {α : Type}

/-! ### Chains -/

/-- A chain of nodes, each led to by the one before it, and a node that its last one leads to. -/
inductive Along (starts : α → Prop) (edge : α → α → Prop) : List α → α → Prop where
  | start {node : α} (first : starts node) : Along starts edge [] node
  | further {path : List α} {node other : α} (along : Along starts edge path node) (leads : edge node other) :
      Along starts edge (path ++ [node]) other

/-- A chain of so many nodes or fewer leads to the node. -/
def Within (starts : α → Prop) (edge : α → α → Prop) (limit : Nat) (node : α) : Prop :=
  ∃ path, Along starts edge path node ∧ path.length ≤ limit

variable [DecidableEq α]

/-- Meet the mentioned nodes in turn, with some room left. -/
def explore (leads : α → Option (List α)) : Nat → List α → List α → List α
  | 0, _, collected => collected
  | room + 1, mentioned, collected =>
      mentioned.foldl
        (fun collected node =>
          if node ∈ collected then collected
          else
            match leads node with
            | none => collected ++ [node]
            | some further => explore leads room further (collected ++ [node]))
        collected

attribute [grind =] explore

/-! ### The tree of the mentions -/

section Tree

variable (starts : List α) (leads : α → Option (List α))

/-- What is mentioned at the end of a chain, in its order. -/
def mentionedBy (chain : List α) : List α :=
  match chain.getLast? with
  | none => starts
  | some node => (leads node).getD []

/-- Where the two chains part, the first one goes on with the node that is mentioned sooner. -/
def Sooner (one other : List α) : Prop :=
  ∃ common first rest second rest', one = common ++ first :: rest ∧ other = common ++ second :: rest' ∧
    (mentionedBy starts leads common).idxOf first < (mentionedBy starts leads common).idxOf second

/-- The second chain goes on from the first, or parts from it later. -/
def NoLater (one other : List α) : Prop := one <+: other ∨ Sooner starts leads one other

/-- The chains of a depth-first tree, which have room for so many nodes and one more. -/
structure DepthFirst (limit : Nat) (tree : Set (List α)) : Prop where
  root : [] ∈ tree
  goesOn : ∀ chain node, chain ++ [node] ∈ tree →
    chain ∈ tree ∧ chain.length ≤ limit ∧ node ∈ mentionedBy starts leads chain
  once : ∀ one other node, one ++ [node] ∈ tree → other ++ [node] ∈ tree → one = other
  soonest : ∀ chain ∈ tree, chain.length ≤ limit → ∀ node ∈ mentionedBy starts leads chain,
    ∃ other, other ++ [node] ∈ tree ∧ NoLater starts leads (other ++ [node]) (chain ++ [node])

end Tree

variable {starts : List α} {leads : α → Option (List α)} {limit : Nat}

omit [DecidableEq α] in
@[simp] theorem mentionedBy_concat (chain : List α) (node : α) :
    mentionedBy starts leads (chain ++ [node]) = (leads node).getD [] := by
  rw [mentionedBy, List.getLast?_concat]

/-! ### One tree -/

/-- Where a chain stands in the order of the mentions: the place of each of its nodes among those mentioned there. -/
def placeOf (starts : List α) (leads : α → Option (List α)) (limit : Nat) (chain : List α) :
    Lex (Fin (limit + 1) → Nat) :=
  toLex fun depth =>
    match chain[depth.val]? with
    | none => 0
    | some node => (mentionedBy starts leads (chain.take depth)).idxOf node + 1

/-- Chains that have not parted yet. -/
theorem placeOf_append {common : List α} {depth : Fin (limit + 1)} (inside : depth.val < common.length)
    (rest : List α) : ofLex (placeOf starts leads limit (common ++ rest)) depth =
      ofLex (placeOf starts leads limit common) depth := by
  simp only [placeOf, ofLex_toLex, List.getElem?_append_left inside, List.take_append_of_le_length inside.le]

theorem placeOf_lt_append {one : List α} (short : one.length ≤ limit) (node : α) (rest : List α) :
    placeOf starts leads limit one < placeOf starts leads limit (one ++ node :: rest) := by
  refine ⟨⟨one.length, by omega⟩, fun depth earlier => (placeOf_append earlier _).symm, ?_⟩
  simp [placeOf]

theorem placeOf_lt_of_sooner {one other : List α} (sooner : Sooner starts leads one other)
    (short : one.length ≤ limit + 1) : placeOf starts leads limit one < placeOf starts leads limit other := by
  obtain ⟨common, first, rest, second, rest', rfl, rfl, before⟩ := sooner
  rw [List.length_append, List.length_cons] at short
  refine ⟨⟨common.length, by omega⟩, fun depth earlier => ?_, ?_⟩
  · exact (placeOf_append earlier _).trans (placeOf_append earlier _).symm
  · simpa [placeOf] using before

/-- A chain that is no later than another of the same end is the same, or stands at an earlier place. -/
theorem NoLater.eq_or_lt {one other : List α} {node : α}
    (noLater : NoLater starts leads (one ++ [node]) (other ++ [node])) (short : one.length ≤ limit)
    (otherShort : other.length ≤ limit) :
    one = other ∨ placeOf starts leads limit (one ++ [node]) < placeOf starts leads limit (other ++ [node]) := by
  rcases noLater with ⟨rest, whole⟩ | sooner
  · cases rest with
    | nil =>
        rw [List.append_nil] at whole
        exact .inl (List.append_cancel_right whole)
    | cons next rest =>
        have lengths := congrArg List.length whole
        simp only [List.length_append, List.length_cons, List.length_nil] at lengths
        rw [← whole]
        refine .inr (placeOf_lt_append ?_ next rest)
        rw [List.length_append, List.length_singleton]
        omega
  · refine .inr (placeOf_lt_of_sooner sooner ?_)
    rw [List.length_append, List.length_singleton]
    omega

/-- Trees that have the same chains at all earlier places have the same chain here. -/
theorem DepthFirst.mem_of_earlier {tree other : Set (List α)} (isTree : DepthFirst starts leads limit tree)
    (isOther : DepthFirst starts leads limit other) {chain : List α} {node : α} (member : chain ++ [node] ∈ tree)
    (earlier : ∀ one, placeOf starts leads limit one < placeOf starts leads limit (chain ++ [node]) →
      (one ∈ tree ↔ one ∈ other)) : chain ++ [node] ∈ other := by
  obtain ⟨inTree, short, isMentioned⟩ := isTree.goesOn chain node member
  have inOther := (earlier chain (placeOf_lt_append short node [])).mp inTree
  obtain ⟨one, isOne, noLater⟩ := isOther.soonest chain inOther short node isMentioned
  rcases noLater.eq_or_lt (isOther.goesOn one node isOne).2.1 short with rfl | sooner
  · exact isOne
  · exact isTree.once one chain node ((earlier _ sooner).mpr isOne) member ▸ isOne

/-- There is no other tree. -/
theorem DepthFirst.unique {tree other : Set (List α)} (isTree : DepthFirst starts leads limit tree)
    (isOther : DepthFirst starts leads limit other) : tree = other := by
  have same : ∀ chain, chain ∈ tree ↔ chain ∈ other := by
    intro chain
    induction chain using (InvImage.wf (placeOf starts leads limit) wellFounded_lt).induction with
    | _ chain ih =>
        rcases List.eq_nil_or_concat' chain with rfl | ⟨chain, node, rfl⟩
        · exact ⟨fun _ => isOther.root, fun _ => isTree.root⟩
        · exact ⟨fun member => isTree.mem_of_earlier isOther member ih,
            fun member => isOther.mem_of_earlier isTree member fun one sooner => (ih one sooner).symm⟩
  exact Set.ext same

/-! ### The tree of an exploration -/

/-- The exploration, with the chain at whose end each node is met. -/
def grow (leads : α → Option (List α)) : Nat → List α → List α → List (List α) → List (List α)
  | 0, _, _, tree => tree
  | room + 1, chain, mentioned, tree =>
      mentioned.foldl
        (fun tree node =>
          if tree.any fun met => met.getLast? = some node then tree
          else
            match leads node with
            | none => tree ++ [chain ++ [node]]
            | some further => grow leads room (chain ++ [node]) further (tree ++ [chain ++ [node]]))
        tree

attribute [grind =] grow

theorem any_getLast?_iff {tree : List (List α)} {node : α} :
    (tree.any fun met => met.getLast? = some node) = true ↔ ∃ chain, chain ++ [node] ∈ tree := by
  rw [List.any_eq_true]
  constructor
  · rintro ⟨met, member, isLast⟩
    obtain ⟨chain, rfl⟩ := List.getLast?_eq_some_iff.mp (of_decide_eq_true isLast)
    exact ⟨chain, member⟩
  · rintro ⟨chain, member⟩
    exact ⟨_, member, decide_eq_true List.getLast?_concat⟩

theorem grow_cons_of_met {room : Nat} {chain rest : List α} {node : α} {tree : List (List α)}
    (again : ∃ one, one ++ [node] ∈ tree) :
    grow leads (room + 1) chain (node :: rest) tree = grow leads (room + 1) chain rest tree := by
  rw [grow, grow, List.foldl_cons, if_pos (any_getLast?_iff.mpr again)]

theorem grow_cons_of_new {room : Nat} {chain rest : List α} {node : α} {tree : List (List α)}
    (isNew : ¬ ∃ one, one ++ [node] ∈ tree) :
    grow leads (room + 1) chain (node :: rest) tree =
      grow leads (room + 1) chain rest
        (match leads node with
        | none => tree ++ [chain ++ [node]]
        | some further => grow leads room (chain ++ [node]) further (tree ++ [chain ++ [node]])) := by
  rw [grow, grow, List.foldl_cons, if_neg (mt any_getLast?_iff.mp isNew)]

omit [DecidableEq α] in
theorem mem_ends_iff {tree : List (List α)} {node : α} :
    node ∈ tree.filterMap List.getLast? ↔ ∃ chain, chain ++ [node] ∈ tree := by
  rw [List.mem_filterMap]
  constructor
  · rintro ⟨met, member, isLast⟩
    obtain ⟨chain, rfl⟩ := List.getLast?_eq_some_iff.mp isLast
    exact ⟨chain, member⟩
  · rintro ⟨chain, member⟩
    exact ⟨_, member, List.getLast?_concat⟩

/-- The ends of the chains are what the exploration collects. -/
theorem ends_grow (leads : α → Option (List α)) (room : Nat) (chain mentioned : List α) (tree : List (List α)) :
    (grow leads room chain mentioned tree).filterMap List.getLast? =
      explore leads room mentioned (tree.filterMap List.getLast?) := by
  induction room generalizing chain mentioned tree with
  | zero => rfl
  | succ room ih =>
      rw [grow, explore]
      induction mentioned generalizing tree with
      | nil => rfl
      | cons node rest further =>
          have pushed : (tree ++ [chain ++ [node]]).filterMap List.getLast? =
              tree.filterMap List.getLast? ++ [node] := by
            rw [List.filterMap_append, List.filterMap_cons, List.getLast?_concat, List.filterMap_nil]
          rw [List.foldl_cons, List.foldl_cons, further]
          congr 1
          by_cases again : ∃ chain, chain ++ [node] ∈ tree
          · rw [if_pos (any_getLast?_iff.mpr again), if_pos (mem_ends_iff.mpr again)]
          · rw [if_neg (mt any_getLast?_iff.mp again), if_neg (mt mem_ends_iff.mp again)]
            cases leads node with
            | none => exact pushed
            | some named => rw [ih, pushed]

/-! ### What one exploration adds -/

/-- The chain comes before what is mentioned from this index on at the end of another one. -/
def Before (starts : List α) (leads : α → Option (List α)) (chain : List α) (index : Nat) (one : List α) : Prop :=
  one <+: chain ∨ Sooner starts leads one chain ∨
    ∃ first rest, one = chain ++ first :: rest ∧ (mentionedBy starts leads chain).idxOf first < index

theorem Sooner.concat {one other : List α} (sooner : Sooner starts leads one other) (node : α) :
    Sooner starts leads one (other ++ [node]) := by
  obtain ⟨common, first, rest, second, rest', isOne, rfl, before⟩ := sooner
  exact ⟨common, first, rest, second, rest' ++ [node], isOne, by rw [List.append_assoc, List.cons_append], before⟩

section Before

variable {chain one : List α} {index : Nat}

theorem Before.mono {later : Nat} (before : Before starts leads chain index one) (le : index ≤ later) :
    Before starts leads chain later one := by
  rcases before with inside | sooner | ⟨first, rest, isOne, earlier⟩
  · exact .inl inside
  · exact .inr (.inl sooner)
  · exact .inr (.inr ⟨first, rest, isOne, earlier.trans_le le⟩)

/-- In front of a node that is mentioned here. -/
theorem Before.noLater (before : Before starts leads chain index one) {node : α}
    (isNode : index ≤ (mentionedBy starts leads chain).idxOf node) :
    NoLater starts leads one (chain ++ [node]) := by
  rcases before with inside | sooner | ⟨first, rest, rfl, earlier⟩
  · exact .inl (inside.trans (List.prefix_append _ _))
  · exact .inr (sooner.concat node)
  · exact .inr ⟨chain, first, rest, node, [], rfl, rfl, earlier.trans_le isNode⟩

/-- Down to a node that is mentioned here. -/
theorem Before.down (before : Before starts leads chain index one) {node : α}
    (isNode : index ≤ (mentionedBy starts leads chain).idxOf node) :
    Before starts leads (chain ++ [node]) 0 one := by
  rcases before.noLater isNode with inside | sooner
  · exact .inl inside
  · exact .inr (.inl sooner)

/-- Up from a node that is mentioned here. -/
theorem Before.up {node : α} (before : Before starts leads (chain ++ [node]) index one) :
    Before starts leads chain ((mentionedBy starts leads chain).idxOf node + 1) one := by
  rcases before with inside | ⟨common, first, rest, second, rest', rfl, whole, earlier⟩ | ⟨first, rest, rfl, -⟩
  · rcases List.prefix_concat_iff.mp inside with rfl | inChain
    · exact .inr (.inr ⟨node, [], rfl, Nat.lt_succ_self _⟩)
    · exact .inl inChain
  · rcases List.eq_nil_or_concat' rest' with rfl | ⟨rest', last, rfl⟩
    · obtain ⟨rfl, isSecond⟩ := List.append_inj' whole rfl
      cases isSecond
      exact .inr (.inr ⟨first, rest, rfl, Nat.lt_succ_of_lt earlier⟩)
    · rw [← List.cons_append, ← List.append_assoc] at whole
      obtain ⟨rfl, -⟩ := List.append_inj' whole rfl
      exact .inr (.inl ⟨common, first, rest, second, rest', rfl, rfl, earlier⟩)
  · exact .inr (.inr ⟨node, first :: rest, List.append_assoc _ _ _, Nat.lt_succ_self _⟩)

end Before

/-- Every node that is mentioned at the end of the chain has a chain that is no later. -/
def Finished (starts : List α) (leads : α → Option (List α)) (limit : Nat) (tree : List (List α))
    (chain : List α) : Prop :=
  chain.length ≤ limit → ∀ node ∈ mentionedBy starts leads chain,
    ∃ one, one ++ [node] ∈ tree ∧ NoLater starts leads (one ++ [node]) (chain ++ [node])

theorem Finished.mono {tree more : List (List α)} {chain : List α}
    (finished : Finished starts leads limit tree chain) (grows : tree ⊆ more) :
    Finished starts leads limit more chain := by
  intro short node isMentioned
  obtain ⟨one, isOne, noLater⟩ := finished short node isMentioned
  exact ⟨one, grows isOne, noLater⟩

/-- The tree while the mentions at the end of a chain are met, from this index on. -/
structure Growing (starts : List α) (leads : α → Option (List α)) (limit : Nat) (chain : List α) (index : Nat)
    (tree : List (List α)) : Prop where
  root : [] ∈ tree
  goesOn : ∀ one node, one ++ [node] ∈ tree →
    one ∈ tree ∧ one.length ≤ limit ∧ node ∈ mentionedBy starts leads one
  once : ∀ one other node, one ++ [node] ∈ tree → other ++ [node] ∈ tree → one = other
  here : chain ∈ tree
  before : ∀ one ∈ tree, Before starts leads chain index one

section Growing

variable {chain : List α} {index : Nat} {tree : List (List α)} {node : α}

theorem Growing.mono {later : Nat} (growing : Growing starts leads limit chain index tree) (le : index ≤ later) :
    Growing starts leads limit chain later tree :=
  { growing with before := fun one member => (growing.before one member).mono le }

/-- A node that is met for the first time. -/
theorem Growing.push (growing : Growing starts leads limit chain index tree) (short : chain.length ≤ limit)
    (isMentioned : node ∈ mentionedBy starts leads chain)
    (isNode : index ≤ (mentionedBy starts leads chain).idxOf node) (isNew : ¬ ∃ one, one ++ [node] ∈ tree) :
    Growing starts leads limit (chain ++ [node]) 0 (tree ++ [chain ++ [node]]) where
  root := List.mem_append_left _ growing.root
  goesOn one other member := by
    rcases List.mem_append.mp member with old | isPushed
    · obtain ⟨inTree, fits, mentioned⟩ := growing.goesOn one other old
      exact ⟨List.mem_append_left _ inTree, fits, mentioned⟩
    · obtain ⟨rfl, same⟩ := List.append_inj' (List.mem_singleton.mp isPushed) rfl
      cases same
      exact ⟨List.mem_append_left _ growing.here, short, isMentioned⟩
  once one other last isOne isOther := by
    rcases List.mem_append.mp isOne with old | isPushed
    · rcases List.mem_append.mp isOther with otherOld | isPushed
      · exact growing.once one other last old otherOld
      · cases (List.append_inj' (List.mem_singleton.mp isPushed) rfl).2
        exact absurd ⟨one, old⟩ isNew
    · obtain ⟨rfl, same⟩ := List.append_inj' (List.mem_singleton.mp isPushed) rfl
      cases same
      rcases List.mem_append.mp isOther with otherOld | isPushed
      · exact absurd ⟨other, otherOld⟩ isNew
      · exact (List.append_inj' (List.mem_singleton.mp isPushed) rfl).1.symm
  here := List.mem_append_right _ (List.mem_singleton.mpr rfl)
  before one member := by
    rcases List.mem_append.mp member with old | isPushed
    · exact (growing.before one old).down isNode
    · rw [List.mem_singleton.mp isPushed]
      exact .inl (List.prefix_refl _)

/-- Back at the chain, behind the node. -/
theorem Growing.up (growing : Growing starts leads limit (chain ++ [node]) index tree) :
    Growing starts leads limit chain ((mentionedBy starts leads chain).idxOf node + 1) tree where
  root := growing.root
  goesOn := growing.goesOn
  once := growing.once
  here := (growing.goesOn chain node growing.here).1
  before one member := (growing.before one member).up

/-- What it makes of a tree to meet all that is mentioned at the end of a chain: the chain is finished, and so is
    every chain that is new. -/
structure Grown (starts : List α) (leads : α → Option (List α)) (limit : Nat) (chain : List α)
    (tree more : List (List α)) : Prop where
  growing : ∃ index, Growing starts leads limit chain index more
  grows : tree ⊆ more
  finished : Finished starts leads limit more chain
  fresh : ∀ one ∈ more, one ∈ tree ∨ Finished starts leads limit more one

/-- First below a new node, then behind it. -/
theorem Grown.through {more all : List (List α)}
    (below : Grown starts leads limit (chain ++ [node]) (tree ++ [chain ++ [node]]) more)
    (behind : Grown starts leads limit chain more all) : Grown starts leads limit chain tree all where
  growing := behind.growing
  grows _ old := behind.grows (below.grows (List.mem_append_left _ old))
  finished := behind.finished
  fresh one member := by
    rcases behind.fresh one member with inMore | isFinished
    · rcases below.fresh one inMore with inTree | isFinished
      · rcases List.mem_append.mp inTree with old | isPushed
        · exact .inl old
        · rw [List.mem_singleton.mp isPushed]
          exact .inr (below.finished.mono behind.grows)
      · exact .inr (isFinished.mono behind.grows)
    · exact .inr isFinished

/-- The nodes have chains in the tree that are no later than behind this one. -/
def Met (starts : List α) (leads : α → Option (List α)) (tree : List (List α)) (chain nodes : List α) : Prop :=
  ∀ node ∈ nodes, ∃ one, one ++ [node] ∈ tree ∧ NoLater starts leads (one ++ [node]) (chain ++ [node])

theorem Met.concat {more : List (List α)} {nodes : List α} (met : Met starts leads tree chain nodes)
    (grows : tree ⊆ more)
    (last : node ∉ nodes → ∃ one, one ++ [node] ∈ more ∧ NoLater starts leads (one ++ [node]) (chain ++ [node])) :
    Met starts leads more chain (nodes ++ [node]) := by
  have already : Met starts leads more chain nodes := by
    intro other inside
    obtain ⟨one, isOne, noLater⟩ := met other inside
    exact ⟨one, grows isOne, noLater⟩
  intro other inside
  rcases List.mem_append.mp inside with earlier | isLast
  · exact already other earlier
  · rw [List.mem_singleton.mp isLast]
    by_cases earlier : node ∈ nodes
    · exact already node earlier
    · exact last earlier

/-- The run, with so many of the mentions met. -/
theorem Growing.run {room : Nat} {done rest : List α} (growing : Growing starts leads limit chain done.length tree)
    (isMentioned : mentionedBy starts leads chain = done ++ rest) (length : chain.length + room = limit + 1)
    (met : Met starts leads tree chain done) :
    Grown starts leads limit chain tree (grow leads room chain rest tree) := by
  induction room generalizing chain done rest tree with
  | zero =>
      refine ⟨⟨_, growing⟩, List.Subset.refl _, fun short => ?_, fun one member => .inl member⟩
      omega
  | succ room ih =>
      induction rest generalizing done tree with
      | nil =>
          rw [grow, List.foldl_nil]
          refine ⟨⟨_, growing⟩, List.Subset.refl _, fun _ node inside => met node ?_, fun one member => .inl member⟩
          rwa [isMentioned, List.append_nil] at inside
      | cons node rest further =>
          have whole : mentionedBy starts leads chain = (done ++ [node]) ++ rest := by
            rw [isMentioned, List.append_assoc]
            rfl
          have isNode : node ∉ done → (mentionedBy starts leads chain).idxOf node = done.length := by
            intro isFirst
            rw [isMentioned, List.idxOf_append_of_notMem isFirst, List.idxOf_cons_self, Nat.add_zero]
          have counted : (done ++ [node]).length = done.length + 1 := List.length_append
          by_cases again : ∃ one, one ++ [node] ∈ tree
          · rw [grow_cons_of_met again]
            refine further (growing.mono (by omega)) whole (met.concat (List.Subset.refl _) fun isFirst => ?_)
            obtain ⟨one, isOne⟩ := again
            exact ⟨one, isOne, (growing.before _ isOne).noLater (isNode isFirst).ge⟩
          · have isFirst : node ∉ done := by
              intro earlier
              obtain ⟨one, isOne, -⟩ := met node earlier
              exact again ⟨one, isOne⟩
            have inside : node ∈ mentionedBy starts leads chain := by
              rw [isMentioned]
              exact List.mem_append_right _ List.mem_cons_self
            have pushed := growing.push (by omega) inside (isNode isFirst).ge again
            rw [grow_cons_of_new again]
            have onward : ∀ {more}, Grown starts leads limit (chain ++ [node]) (tree ++ [chain ++ [node]]) more →
                Grown starts leads limit chain tree (grow leads (room + 1) chain rest more) := by
              intro more below
              obtain ⟨index, growingMore⟩ := below.growing
              have up := growingMore.up
              rw [isNode isFirst, ← counted] at up
              exact below.through (further up whole (met.concat (fun one old => below.grows
                (List.mem_append_left _ old)) fun _ => ⟨chain, growingMore.here, .inl (List.prefix_refl _)⟩))
            cases isLed : leads node with
            | none =>
                refine onward ⟨⟨_, pushed⟩, List.Subset.refl _, ?_, fun one member => .inl member⟩
                intro _ other isOther
                rw [mentionedBy_concat, isLed] at isOther
                cases isOther
            | some named =>
                have mentions : mentionedBy starts leads (chain ++ [node]) = [] ++ named := by
                  rw [mentionedBy_concat, isLed]
                  rfl
                have deeper : (chain ++ [node]).length + room = limit + 1 := by
                  rw [List.length_append, List.length_singleton]
                  omega
                have none : Met starts leads (tree ++ [chain ++ [node]]) (chain ++ [node]) [] :=
                  fun other inside => by cases inside
                have started : Growing starts leads limit (chain ++ [node]) ([] : List α).length
                    (tree ++ [chain ++ [node]]) := pushed
                exact onward (ih started mentions deeper none)

end Growing

/-- The exploration has a tree, and collects its nodes. -/
theorem exists_depthFirst (starts : List α) (leads : α → Option (List α)) (limit : Nat) :
    ∃ tree, DepthFirst starts leads limit tree ∧
      ∀ node, node ∈ explore leads (limit + 1) starts [] ↔ ∃ chain, chain ++ [node] ∈ tree := by
  have growing : Growing starts leads limit [] ([] : List α).length [[]] := by
    refine ⟨List.mem_singleton.mpr rfl, fun one node member => ?_, fun one other node member => ?_,
      List.mem_singleton.mpr rfl, fun one member => ?_⟩
    · exact absurd (List.mem_singleton.mp member) (List.append_ne_nil_of_right_ne_nil _ (List.cons_ne_nil _ _))
    · exact absurd (List.mem_singleton.mp member) (List.append_ne_nil_of_right_ne_nil _ (List.cons_ne_nil _ _))
    · exact .inl (List.mem_singleton.mp member ▸ List.prefix_refl _)
  obtain ⟨⟨index, grown⟩, -, atRoot, finished⟩ := growing.run rfl
    (show _ + (limit + 1) = limit + 1 from Nat.zero_add _) fun node none => by cases none
  refine ⟨{chain | chain ∈ grow leads (limit + 1) [] starts [[]]}, ⟨grown.root, grown.goesOn, grown.once, ?_⟩,
    fun node => ?_⟩
  · intro chain member short
    rcases finished chain member with isRoot | isFinished
    · rw [List.mem_singleton.mp isRoot] at short ⊢
      exact atRoot short
    · exact isFinished short
  · have ends := ends_grow leads (limit + 1) [] starts [[]]
    have whole : explore leads (limit + 1) starts [] =
        (grow leads (limit + 1) [] starts [[]]).filterMap List.getLast? := ends.symm
    rw [whole]
    exact mem_ends_iff

/-- Whatever is the tree of the mentions, its nodes are what is collected. -/
theorem mem_explore_iff_of_tree {tree : Set (List α)} (isTree : DepthFirst starts leads limit tree) (node : α) :
    node ∈ explore leads (limit + 1) starts [] ↔ ∃ chain, chain ++ [node] ∈ tree := by
  obtain ⟨other, isOther, collected⟩ := exists_depthFirst starts leads limit
  rw [isTree.unique isOther]
  exact collected node

/-! ### What is collected -/

omit [DecidableEq α] in
theorem mem_mentionedBy_concat {chain : List α} {node other : α} :
    other ∈ mentionedBy starts leads (chain ++ [node]) ↔ Edge leads node other := by
  rw [mentionedBy_concat]
  constructor
  · intro inside
    cases isLed : leads node with
    | none =>
        rw [isLed] at inside
        cases inside
    | some named =>
        rw [isLed] at inside
        exact ⟨named, isLed, inside⟩
  · rintro ⟨named, isLed, inside⟩
    rwa [isLed]

/-- Nothing is collected that is not within the bound. -/
theorem within_of_mem_explore {node : α} (member : node ∈ explore leads (limit + 1) starts []) :
    Within (· ∈ starts) (Edge leads) limit node := by
  obtain ⟨tree, isTree, collected⟩ := exists_depthFirst starts leads limit
  obtain ⟨chain, inTree⟩ := (collected node).mp member
  refine ⟨chain, ?_, (isTree.goesOn chain node inTree).2.1⟩
  clear member
  induction chain using List.reverseRecOn generalizing node with
  | nil => exact .start (isTree.goesOn [] node inTree).2.2
  | append_singleton chain parent ih =>
      obtain ⟨isParent, -, isMentioned⟩ := isTree.goesOn _ node inTree
      exact .further (ih isParent) (mem_mentionedBy_concat.mp isMentioned)

/-- Of what a node without room leads to, and is within the bound, everything is also a start, or led to by a node
    that has room. -/
def LosesNothing (starts : List α) (leads : α → Option (List α)) (limit : Nat) (tree : Set (List α)) : Prop :=
  ∀ chain node other, chain ++ [node] ∈ tree → chain.length = limit → Edge leads node other →
    Within (· ∈ starts) (Edge leads) limit other →
    other ∈ starts ∨ ∃ earlier parent, earlier ++ [parent] ∈ tree ∧ earlier.length < limit ∧ Edge leads parent other

/-- Everything within the bound is collected exactly where the tree loses nothing. -/
theorem mem_explore_of_within_iff {tree : Set (List α)} (isTree : DepthFirst starts leads limit tree) :
    (∀ node, Within (· ∈ starts) (Edge leads) limit node → node ∈ explore leads (limit + 1) starts []) ↔
      LosesNothing starts leads limit tree := by
  simp only [mem_explore_iff_of_tree isTree]
  constructor
  · intro complete chain node other _ _ _ within
    obtain ⟨own, inTree⟩ := complete other within
    obtain ⟨isChain, short, isMentioned⟩ := isTree.goesOn own other inTree
    rcases List.eq_nil_or_concat' own with rfl | ⟨earlier, parent, rfl⟩
    · exact .inl isMentioned
    · rw [List.length_append, List.length_singleton] at short
      exact .inr ⟨earlier, parent, isChain, by omega, mem_mentionedBy_concat.mp isMentioned⟩
  · rintro whole node ⟨path, along, length⟩
    -- What a node of the tree with room leads to is in the tree.
    have roomy : ∀ chain node other, chain ++ [node] ∈ tree → chain.length < limit → Edge leads node other →
        ∃ own, own ++ [other] ∈ tree := by
      intro chain node other inTree short edge
      obtain ⟨own, isOwn, -⟩ := isTree.soonest _ inTree (by rw [List.length_append, List.length_singleton]; omega)
        other (mem_mentionedBy_concat.mpr edge)
      exact ⟨own, isOwn⟩
    have atRoot : ∀ node ∈ starts, ∃ own, own ++ [node] ∈ tree := by
      intro node isStart
      obtain ⟨own, isOwn, -⟩ := isTree.soonest [] isTree.root (Nat.zero_le _) node isStart
      exact ⟨own, isOwn⟩
    induction along with
    | start first => exact atRoot _ first
    | @further path node other along edge ih =>
        rw [List.length_append, List.length_singleton] at length
        obtain ⟨chain, inTree⟩ := ih (by omega)
        rcases Nat.lt_or_eq_of_le (isTree.goesOn chain node inTree).2.1 with short | full
        · exact roomy chain node other inTree short edge
        · have within : Within (· ∈ starts) (Edge leads) limit other :=
            ⟨path ++ [node], .further along edge, by rw [List.length_append, List.length_singleton]; omega⟩
          rcases whole chain node other inTree full edge within with isStart | ⟨earlier, parent, isParent, short, led⟩
          · exact atRoot other isStart
          · exact roomy earlier parent other isParent short led

end JumptotechLabs.Core.Exploration
