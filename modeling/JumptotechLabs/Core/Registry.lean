/-
Module: JumptotechLabs.Core.Registry
Layer: Core (library)
Purpose: Items kept by their holder, with a second map from an item's key to its holder, and a ceiling on
  how many there are. While the maps mirror each other no two items share a key. The ceiling is kept when
  an item is admitted by the number there are and are being made, although a key that is there is
  admitted without counting: what is bounded is the keys that are held or being made.
Main exports: Registry, Registry.release, Registry.register, Registry.replace, Mirrored, mirrored_release,
  mirrored_register, mirrored_replace, Within, Within.admit, Within.readmit, Within.mono, Within.length_le
-/
import JumptotechLabs.Core.Keyed
import Mathlib.Data.Finset.Card

namespace JumptotechLabs.Core

/-- Items by holder, and holders by key. -/
structure Registry (Holder Key Item : Type) [DecidableEq Holder] [DecidableEq Key] where
  items : List (Holder × Item)
  holders : List (Key × Holder)
  itemKeys : Keyed.Distinct Prod.fst items
  holderKeys : Keyed.Distinct Prod.fst holders

namespace Registry

variable {Holder Key Item : Type} [DecidableEq Holder] [DecidableEq Key]

def empty : Registry Holder Key Item := ⟨[], [], .nil, .nil⟩

/-- The item of a holder. -/
def item (registry : Registry Holder Key Item) (holder : Holder) : Option Item :=
  (Keyed.lookup Prod.fst holder registry.items).map Prod.snd

/-- The holder of a key. -/
def holder (registry : Registry Holder Key Item) (key : Key) : Option Holder :=
  (Keyed.lookup Prod.fst key registry.holders).map Prod.snd

/-- How many items there are. -/
def size (registry : Registry Holder Key Item) : Nat := registry.items.length

variable (keyOf : Item → Key)

/-- The keys of the items. -/
def keys (registry : Registry Holder Key Item) : List Key :=
  registry.items.map fun entry => keyOf entry.2

/-- Drop a holder's item, and its key while that names this holder. -/
def release (registry : Registry Holder Key Item) (holder : Holder) : Registry Holder Key Item :=
  match registry.item holder with
  | none => registry
  | some item =>
      { items := Keyed.remove Prod.fst holder registry.items
        holders :=
          if registry.holder (keyOf item) = some holder then
            Keyed.remove Prod.fst (keyOf item) registry.holders
          else registry.holders
        itemKeys := registry.itemKeys.remove
        holderKeys := by
          split
          · exact registry.holderKeys.remove
          · exact registry.holderKeys }

/-- Set a holder's item, and make it the holder of the item's key. -/
def register (registry : Registry Holder Key Item) (holder : Holder) (item : Item) :
    Registry Holder Key Item where
  items := Keyed.put Prod.fst (holder, item) registry.items
  holders := Keyed.put Prod.fst (keyOf item, holder) registry.holders
  itemKeys := registry.itemKeys.put
  holderKeys := registry.holderKeys.put

/-- Change a holder's item in place. -/
def replace (registry : Registry Holder Key Item) (holder : Holder) (change : Item → Item) :
    Registry Holder Key Item :=
  { registry with
    items := Keyed.modify Prod.fst holder (fun entry => (entry.1, change entry.2)) registry.items
    itemKeys := registry.itemKeys.modify fun _ => rfl }

variable {keyOf} {registry : Registry Holder Key Item} {holder other : Holder} {item : Item}

theorem item_release (registry : Registry Holder Key Item) (holder other : Holder) :
    (registry.release keyOf holder).item other =
      if other = holder then none else registry.item other := by
  unfold release
  cases found : registry.item holder with
  | none =>
      simp only
      split
      · rename_i same
        rw [same, found]
      · rfl
  | some item =>
      simp only [Registry.item, Keyed.lookup_remove]
      split
      · rfl
      · rfl

theorem item_register (registry : Registry Holder Key Item) (holder other : Holder) (item : Item) :
    (registry.register keyOf holder item).item other =
      if holder = other then some item else registry.item other := by
  simp only [register, Registry.item, Keyed.lookup_put]
  split
  · rfl
  · rfl

theorem item_replace (registry : Registry Holder Key Item) (holder other : Holder)
    (change : Item → Item) :
    (registry.replace holder change).item other =
      (registry.item other).map fun item => if other = holder then change item else item := by
  have stable : ∀ entry : Holder × Item,
      Prod.fst ((fun entry : Holder × Item => (entry.1, change entry.2)) entry) = Prod.fst entry :=
    fun _ => rfl
  simp only [replace, Registry.item]
  rw [Keyed.lookup_modify _ _ _ _ stable, Option.map_map, Option.map_map]
  cases found : Keyed.lookup Prod.fst other registry.items with
  | none => rfl
  | some entry =>
      have isOther : entry.1 = other := Keyed.key_of_lookup found
      simp only [Option.map_some, Function.comp_apply, isOther]
      split
      · rfl
      · rfl

theorem holder_register (registry : Registry Holder Key Item) (holder : Holder) (item : Item)
    (key : Key) :
    (registry.register keyOf holder item).holder key =
      if keyOf item = key then some holder else registry.holder key := by
  simp only [register, Registry.holder, Keyed.lookup_put]
  split
  · rfl
  · rfl

theorem item_of_mem {entry : Holder × Item} (member : entry ∈ registry.items) :
    registry.item entry.1 = some entry.2 := by
  rw [Registry.item, Keyed.lookup_of_mem registry.itemKeys member]
  rfl

theorem mem_of_item (found : registry.item holder = some item) :
    (holder, item) ∈ registry.items := by
  obtain ⟨entry, isEntry, rfl⟩ := Option.map_eq_some_iff.mp found
  have isHolder : entry.1 = holder := Keyed.key_of_lookup isEntry
  rw [← isHolder]
  exact Keyed.mem_of_lookup isEntry

theorem mem_keys {key : Key} :
    key ∈ registry.keys keyOf ↔ ∃ holder item, registry.item holder = some item ∧ keyOf item = key := by
  constructor
  · intro member
    obtain ⟨entry, inItems, isKey⟩ := List.mem_map.mp member
    exact ⟨entry.1, entry.2, item_of_mem inItems, isKey⟩
  · intro held
    obtain ⟨holder, item, found, isKey⟩ := held
    exact List.mem_map.mpr ⟨(holder, item), mem_of_item found, isKey⟩

end Registry

/-! ### Mirrored maps -/

section Mirrored

variable {Holder Key Item : Type} [DecidableEq Holder] [DecidableEq Key] {keyOf : Item → Key}
  {registry : Registry Holder Key Item} {holder : Holder} {item : Item}

/-- The second map is the first read backwards. -/
structure Mirrored (keyOf : Item → Key) (registry : Registry Holder Key Item) : Prop where
  holds : ∀ holder item, registry.item holder = some item →
    registry.holder (keyOf item) = some holder
  held : ∀ key holder, registry.holder key = some holder →
    ∃ item, registry.item holder = some item ∧ keyOf item = key

theorem mirrored_empty : Mirrored keyOf (Registry.empty : Registry Holder Key Item) := by
  constructor
  · intro holder item impossible
    cases impossible
  · intro key holder impossible
    cases impossible

theorem Mirrored.mem_keys_iff (mirrored : Mirrored keyOf registry) {key : Key} :
    key ∈ registry.keys keyOf ↔ (registry.holder key).isSome = true := by
  rw [Registry.mem_keys, Option.isSome_iff_exists]
  constructor
  · intro held
    obtain ⟨holder, item, found, rfl⟩ := held
    exact ⟨holder, mirrored.holds holder item found⟩
  · intro held
    obtain ⟨holder, isHolder⟩ := held
    obtain ⟨item, found, isKey⟩ := mirrored.held key holder isHolder
    exact ⟨holder, item, found, isKey⟩

/-- No two items share a key. -/
theorem Mirrored.unique (mirrored : Mirrored keyOf registry) {other : Holder} {item item' : Item}
    (found : registry.item holder = some item) (found' : registry.item other = some item')
    (sameKey : keyOf item = keyOf item') : holder = other := by
  have first := mirrored.holds holder item found
  rw [sameKey, mirrored.holds other item' found'] at first
  exact (Option.some.inj first).symm

theorem Mirrored.nodup_keys (mirrored : Mirrored keyOf registry) :
    (registry.keys keyOf).Nodup := by
  apply List.Nodup.map_on
  · intro entry member other member' sameKey
    have sameHolder := mirrored.unique (Registry.item_of_mem member) (Registry.item_of_mem member')
      sameKey
    have first := Registry.item_of_mem member
    rw [sameHolder, Registry.item_of_mem member'] at first
    exact Prod.ext sameHolder (Option.some.inj first).symm
  · exact List.Nodup.of_map _ registry.itemKeys

/-- Which keys are held once a holder's item is dropped. -/
theorem Mirrored.holder_release (mirrored : Mirrored keyOf registry) (holder : Holder) (key : Key) :
    (registry.release keyOf holder).holder key =
      if registry.holder key = some holder then none else registry.holder key := by
  unfold Registry.release
  cases found : registry.item holder with
  | none =>
      simp only
      split
      · rename_i isHolder
        obtain ⟨item, isItem, _⟩ := mirrored.held key holder isHolder
        rw [found] at isItem
        cases isItem
      · rfl
  | some item =>
      have isHolder := mirrored.holds holder item found
      simp only [isHolder, if_true]
      rw [Registry.holder, Keyed.lookup_remove]
      by_cases sameKey : key = keyOf item
      · rw [if_pos sameKey, sameKey, if_pos isHolder]
        rfl
      · rw [if_neg sameKey, if_neg]
        · rfl
        · intro other
          obtain ⟨item', isItem, isKey⟩ := mirrored.held key holder other
          rw [found] at isItem
          cases isItem
          exact sameKey isKey.symm

theorem mirrored_release (mirrored : Mirrored keyOf registry) (holder : Holder) :
    Mirrored keyOf (registry.release keyOf holder) := by
  constructor
  · intro other item found
    rw [Registry.item_release] at found
    split at found
    · cases found
    · rename_i isOther
      have isHolder := mirrored.holds other item found
      rw [mirrored.holder_release, isHolder, if_neg]
      intro same
      exact isOther (Option.some.inj same)
  · intro key other isHolder
    rw [mirrored.holder_release] at isHolder
    split at isHolder
    · cases isHolder
    · rename_i notHolder
      obtain ⟨item, found, isKey⟩ := mirrored.held key other isHolder
      refine ⟨item, ?_, isKey⟩
      rw [Registry.item_release, if_neg]
      · exact found
      · intro same
        rw [isHolder, same] at notHolder
        exact notHolder rfl

/-- Registering under a key that is free, for a holder that has nothing. -/
theorem mirrored_register (mirrored : Mirrored keyOf registry) (idle : registry.item holder = none)
    (free : registry.holder (keyOf item) = none) :
    Mirrored keyOf (registry.register keyOf holder item) := by
  constructor
  · intro other found isFound
    rw [Registry.item_register] at isFound
    rw [Registry.holder_register]
    split at isFound
    · rename_i same
      cases isFound
      rw [if_pos rfl, same]
    · have isHolder := mirrored.holds other found isFound
      rw [if_neg, isHolder]
      intro sameKey
      rw [← sameKey, free] at isHolder
      cases isHolder
  · intro key other isHolder
    rw [Registry.holder_register] at isHolder
    split at isHolder
    · rename_i isKey
      cases isHolder
      exact ⟨item, by rw [Registry.item_register, if_pos rfl], isKey⟩
    · obtain ⟨found, isFound, isKey⟩ := mirrored.held key other isHolder
      refine ⟨found, ?_, isKey⟩
      rw [Registry.item_register, if_neg]
      · exact isFound
      · intro same
        rw [same, isFound] at idle
        cases idle

theorem mirrored_replace (mirrored : Mirrored keyOf registry) (change : Item → Item)
    (sameKey : ∀ item, keyOf (change item) = keyOf item) (holder : Holder) :
    Mirrored keyOf (registry.replace holder change) := by
  have keyOf_if : ∀ (other : Holder) (item : Item),
      keyOf (if other = holder then change item else item) = keyOf item := by
    intro other item
    split
    · exact sameKey item
    · rfl
  constructor
  · intro other found isFound
    rw [Registry.item_replace] at isFound
    obtain ⟨item, isItem, rfl⟩ := Option.map_eq_some_iff.mp isFound
    rw [keyOf_if]
    exact mirrored.holds other item isItem
  · intro key other isHolder
    obtain ⟨item, found, isKey⟩ := mirrored.held key other isHolder
    refine ⟨if other = holder then change item else item, ?_, ?_⟩
    · rw [Registry.item_replace, found]
      rfl
    · rw [keyOf_if]
      exact isKey

end Mirrored

/-! ### The ceiling -/

section Ceiling

variable {Key : Type} [DecidableEq Key] {max : Nat} {held starting : List Key} {key : Key}

/-- The keys that are held or being made are at most so many. -/
def Within (max : Nat) (held starting : List Key) : Prop := (held ++ starting).toFinset.card ≤ max

/-- One more may be made while those there are and are being made are fewer than the ceiling. -/
theorem Within.admit (room : held.length + starting.length < max) (key : Key) :
    Within max held (key :: starting) := by
  have atMost : (held ++ key :: starting).toFinset.card ≤ (held ++ key :: starting).length :=
    List.toFinset_card_le _
  rw [List.length_append, List.length_cons] at atMost
  unfold Within
  omega

/-- Fewer keys stay within the ceiling. -/
theorem Within.mono {held' starting' : List Key} (within : Within max held starting)
    (fewer : ∀ key, key ∈ held' ∨ key ∈ starting' → key ∈ held ∨ key ∈ starting) :
    Within max held' starting' := by
  apply Nat.le_trans (Finset.card_le_card ?_) within
  intro key member
  rw [List.mem_toFinset, List.mem_append] at member ⊢
  exact fewer key member

/-- A key that is held may be made again, without counting. -/
theorem Within.readmit (within : Within max held starting) (isHeld : key ∈ held) :
    Within max held (key :: starting) := by
  apply within.mono
  intro other member
  rcases member with inHeld | inStarting
  · exact .inl inHeld
  · rcases List.mem_cons.mp inStarting with rfl | inRest
    · exact .inl isHeld
    · exact .inr inRest

/-- With no key held twice, so many are held. -/
theorem Within.length_le (within : Within max held starting) (nodup : held.Nodup) :
    held.length ≤ max := by
  have exact : held.toFinset.card = held.length := List.toFinset_card_of_nodup nodup
  have fewer : held.toFinset.card ≤ (held ++ starting).toFinset.card := by
    apply Finset.card_le_card
    intro key member
    rw [List.mem_toFinset] at member ⊢
    exact List.mem_append_left _ member
  unfold Within at within
  omega

end Ceiling

end JumptotechLabs.Core
