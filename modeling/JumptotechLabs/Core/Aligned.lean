/-
Module: JumptotechLabs.Core.Aligned
Layer: Core (library)
Purpose: Aligned blocks of numbers, as many as a power of two and starting at a multiple of it. Two such
  blocks are nested or share nothing; the tiling of an interval that takes the largest block at every
  start is a tiling, and none has fewer blocks.
Main exports: Block, Block.Has, Block.has_iff, Block.nested, Tiles, Greedy, Greedy.tiles, Greedy.fewest
-/
import Mathlib.Algebra.Order.Ring.Nat
import Mathlib.Data.List.Basic
import Mathlib.Data.List.Pairwise

namespace JumptotechLabs.Core

/-- `2 ^ bits` numbers from a multiple of it on. -/
structure Block where
  first : Nat
  bits : Nat
  aligned : 2 ^ bits ∣ first

namespace Block

def size (block : Block) : Nat := 2 ^ block.bits

/-- The number lies in the block. -/
def Has (block : Block) (number : Nat) : Prop :=
  block.first ≤ number ∧ number < block.first + block.size

instance (block : Block) (number : Nat) : Decidable (block.Has number) :=
  inferInstanceAs (Decidable (_ ∧ _))

theorem size_pos (block : Block) : 0 < block.size := Nat.two_pow_pos block.bits

theorem has_first (block : Block) : block.Has block.first :=
  ⟨le_refl _, Nat.lt_add_of_pos_right block.size_pos⟩

/-- A block is the numbers with one quotient. -/
theorem has_iff (block : Block) (number : Nat) :
    block.Has number ↔ number / block.size = block.first / block.size := by
  obtain ⟨times, isFirst⟩ : block.size ∣ block.first := block.aligned
  have quotient : block.first / block.size = times := by
    rw [isFirst, Nat.mul_div_cancel_left _ block.size_pos]
  rw [quotient, Has, isFirst, Nat.div_eq_iff block.size_pos, Nat.mul_comm]
  have positive := block.size_pos
  constructor
  · rintro ⟨lower, upper⟩
    exact ⟨lower, by omega⟩
  · rintro ⟨lower, upper⟩
    exact ⟨lower, by omega⟩

/-- Of two blocks that share a number the smaller lies in the larger. -/
theorem nested {small large : Block} (smaller : small.bits ≤ large.bits) {shared : Nat}
    (inSmall : small.Has shared) (inLarge : large.Has shared) {number : Nat}
    (inside : small.Has number) : large.Has number := by
  have whole : large.size = small.size * 2 ^ (large.bits - small.bits) := by
    rw [size, size, ← Nat.pow_add, Nat.add_sub_cancel' smaller]
  rw [has_iff] at inSmall inside inLarge ⊢
  rw [← inLarge, whole, ← Nat.div_div_eq_div_mul, ← Nat.div_div_eq_div_mul, inside, inSmall]

end Block

/-- Blocks that share no number and together are the numbers from `start` up to `stop`. -/
structure Tiles (blocks : List Block) (start stop : Nat) : Prop where
  apart : blocks.Pairwise fun one other => ∀ number, ¬ (one.Has number ∧ other.Has number)
  covers : ∀ number, (∃ block ∈ blocks, block.Has number) ↔ start ≤ number ∧ number < stop

/-- At every start the largest block that is aligned there and does not run past `stop`. -/
inductive Greedy (stop : Nat) : Nat → List Block → Prop
  | done {start : Nat} (isOver : stop ≤ start) : Greedy stop start []
  | step (block : Block) {blocks : List Block} (fits : block.first + block.size ≤ stop)
      (largest : ∀ bits, 2 ^ bits ∣ block.first → block.first + 2 ^ bits ≤ stop → bits ≤ block.bits)
      (rest : Greedy stop (block.first + block.size) blocks) :
      Greedy stop block.first (block :: blocks)

namespace Greedy

variable {start stop : Nat} {blocks : List Block}

/-- The greedy blocks are a tiling. -/
theorem tiles (greedy : Greedy stop start blocks) : Tiles blocks start stop := by
  induction greedy with
  | done isOver =>
      constructor
      · exact .nil
      · intro number
        simp
        omega
  | step block fits largest rest ih =>
      constructor
      · refine .cons ?_ ih.apart
        rintro other isLater number ⟨here, later⟩
        have bounds := (ih.covers number).mp ⟨other, isLater, later⟩
        exact absurd here.2 (by omega)
      · intro number
        rw [List.exists_mem_cons_iff, ih.covers, Block.Has]
        have positive := block.size_pos
        omega

/-- A block of another tiling that starts before the greedy block ends lies in the greedy block. -/
theorem within_of_starts {greedy other : Block} {others : List Block}
    (largest : ∀ bits, 2 ^ bits ∣ greedy.first → greedy.first + 2 ^ bits ≤ stop → bits ≤ greedy.bits)
    (tiling : Tiles others greedy.first stop) (isOther : other ∈ others)
    (starts : other.first < greedy.first + greedy.size) {number : Nat} (inside : other.Has number) :
    greedy.Has number := by
  have begins : greedy.first ≤ other.first :=
    ((tiling.covers other.first).mp ⟨other, isOther, other.has_first⟩).1
  have shared : greedy.Has other.first := ⟨begins, starts⟩
  by_cases smaller : other.bits ≤ greedy.bits
  · exact Block.nested smaller other.has_first shared inside
  · -- A larger block would start where the greedy one does, and the greedy one is the largest there.
    have around : other.Has greedy.first :=
      Block.nested (by omega) shared other.has_first greedy.has_first
    have sameStart : other.first = greedy.first := le_antisymm around.1 begins
    have ends : other.first + other.size ≤ stop := by
      have positive := other.size_pos
      have last : other.Has (other.first + other.size - 1) := ⟨by omega, by omega⟩
      have bounded := ((tiling.covers _).mp ⟨other, isOther, last⟩).2
      omega
    have bounded := largest other.bits (sameStart ▸ other.aligned) (sameStart ▸ ends)
    exact absurd bounded smaller

/-- What a tiling has beyond the greedy block is a tiling of what is left. -/
theorem tiles_beyond {greedy : Block} {others : List Block}
    (largest : ∀ bits, 2 ^ bits ∣ greedy.first → greedy.first + 2 ^ bits ≤ stop → bits ≤ greedy.bits)
    (tiling : Tiles others greedy.first stop) :
    Tiles (others.filter fun other => ¬ other.first < greedy.first + greedy.size)
      (greedy.first + greedy.size) stop := by
  constructor
  · exact tiling.apart.filter _
  · intro number
    constructor
    · rintro ⟨other, isOther, inside⟩
      rw [List.mem_filter] at isOther
      have bounds := (tiling.covers number).mp ⟨other, isOther.1, inside⟩
      have starts : ¬ other.first < greedy.first + greedy.size := by simpa using isOther.2
      have begins := inside.1
      omega
    · rintro ⟨lower, upper⟩
      have positive := greedy.size_pos
      obtain ⟨other, isOther, inside⟩ := (tiling.covers number).mpr ⟨by omega, upper⟩
      refine ⟨other, List.mem_filter.mpr ⟨isOther, ?_⟩, inside⟩
      have notStarts : ¬ other.first < greedy.first + greedy.size := by
        intro starts
        have inGreedy := within_of_starts largest tiling isOther starts inside
        exact absurd inGreedy.2 (by omega)
      simpa using notStarts

/-- No tiling has fewer blocks than the greedy one. -/
theorem fewest (greedy : Greedy stop start blocks) {others : List Block}
    (tiling : Tiles others start stop) : blocks.length ≤ others.length := by
  induction greedy generalizing others with
  | done isOver => exact Nat.zero_le _
  | step block fits largest rest ih =>
      have later := ih (tiles_beyond largest tiling)
      obtain ⟨other, isOther, inside⟩ := (tiling.covers block.first).mpr
        ⟨le_refl _, lt_of_lt_of_le (Nat.lt_add_of_pos_right block.size_pos) fits⟩
      have starts : other.first < block.first + block.size :=
        lt_of_le_of_lt inside.1 (Nat.lt_add_of_pos_right block.size_pos)
      have dropped : (others.filter fun other =>
          ¬ other.first < block.first + block.size).length < others.length := by
        rw [List.length_filter_lt_length_iff_exists]
        exact ⟨other, isOther, by simpa using starts⟩
      rw [List.length_cons]
      omega

end Greedy

end JumptotechLabs.Core
