import OpenRTI.CopyOnWrite.ConstructionEffects
import Mathlib.Data.Fintype.Basic

/-!
# Value semantics of variable length data

In the reference model each object has its own bytes.  The objects that share
blocks have the same sizes and the same known bytes after every sequence of
operations, as long as the sizes that the operations compute are right: the
block that an object is moved to is large enough, the block that an object keeps
has a place for all its bytes, and no block is given back that another object
has bytes in.
-/

namespace OpenRTI
namespace CopyOnWrite

open Foundation
open Memory

variable {ι : Type*}

/-- The operations on objects.  A constructor destroys the object that its place
had before. -/
inductive Operation (ι : Type*)
  | construct (name : ι)
  | constructSize (name : ι) (size : Nat)
  | constructData (name : ι) (bytes : Bytes)
  | constructCopy (name source : ι)
  | constructMove (name source : ι)
  | constructRange (name source : ι) (offset size : Nat)
  | constructList (name : ι) (sources : List ι)
  | copyAssign (name source : ι)
  | moveAssign (name source : ι)
  | setData (name : ι) (bytes : Bytes)
  | takeDataPointer (name : ι) (bytes : Bytes)
  | resize (name : ι) (size : Nat)
  | reserve (name : ι) (cap : Nat)
  | append (name source : ι)
  | setVariableLengthData (name source : ι) (offset : Nat)
  | getVariableLengthData (name source : ι) (offset : Nat)
  | tail (name : ι) (offset : Nat)
  | clear (name : ι)
  | swap (name other : ι)
  | ensurePrivate (name : ι)
  | setUInt8 (name : ι) (value : UInt8) (offset : Nat)

/-- The bytes of all objects. -/
abbrev Values (ι : Type*) := ι → Bytes

namespace Operation

/-- The sizes and indices that a caller may give. -/
def InRange (self : Memory ι) : Operation ι → Prop
  | constructSize _ size => size < 2 ^ 64
  | constructData _ bytes => bytes.length < 2 ^ 64
  | constructCopy name source => source ≠ name
  | constructMove name source => source ≠ name
  | constructRange name source offset size =>
      source ≠ name ∧ offset + size ≤ (self.object source).size
  | constructList name sources => name ∉ sources
  | setData _ bytes => bytes.length < 2 ^ 64
  | takeDataPointer _ bytes => bytes.length < 2 ^ 64
  | resize _ size => size < 2 ^ 64
  | reserve name cap => (self.object name).size ≤ cap ∧ cap < 2 ^ 64
  | setVariableLengthData name source offset =>
      offset + (self.object source).size ≤ (self.object name).size
  | getVariableLengthData name source offset =>
      source ≠ name ∧ offset ≤ (self.object source).size
  | tail name offset => offset ≤ (self.object name).size
  | setUInt8 name _ offset => offset < (self.object name).size
  | _ => True

section

variable [DecidableEq ι] [Fintype ι] (sizeOfData : Nat)

def step (self : Memory ι) : Operation ι → Option (Memory ι)
  | construct name => some (self.setObject name {})
  | constructSize name size => some (self.setObject name { size })
  | constructData name bytes => self.constructData sizeOfData name bytes
  | constructCopy name source => some (self.copy name source)
  | constructMove name source => some (self.constructMove name source)
  | constructRange name source offset size =>
      some (self.constructRange name source offset size)
  | constructList name sources => self.constructList sizeOfData name sources
  | copyAssign name source => some (self.copy name source)
  | moveAssign name source => some (self.moveAssign name source)
  | setData name bytes => self.setData sizeOfData name bytes
  | takeDataPointer name bytes => some (self.takeDataPointer name bytes)
  | resize name size => self.resize sizeOfData name size
  | reserve name cap => self.reserve sizeOfData name cap
  | append name source => self.append sizeOfData name source
  | setVariableLengthData name source offset =>
      self.setVariableLengthData sizeOfData name source offset
  | getVariableLengthData name source offset =>
      some (self.getVariableLengthData name source offset)
  | tail name offset => some (self.tail name offset)
  | clear name => some (self.clear name)
  | swap name other => some (self.swap name other)
  | ensurePrivate name => self.ensurePrivate sizeOfData name
  | setUInt8 name value offset => self.setUInt8 sizeOfData name value offset

/-- The sizes that an operation computes are right. -/
def Safe (self : Memory ι) : Operation ι → Prop
  | constructData _ bytes => Allocatable sizeOfData bytes.length
  | constructList _ sources =>
      (∀ source ∈ sources, self.CanRead source) ∧
        Allocatable sizeOfData
          (max 512 (sources.map self.contents).flatten.length)
  | moveAssign name source =>
      name = source ∨ self.CanExchange name source
  | setData name bytes => self.CanReplace sizeOfData name bytes.length
  | resize name size =>
      size = (self.object name).size ∨ self.CanResize sizeOfData name size
  | reserve name cap => self.CanReserve sizeOfData name cap
  | append name source => self.CanAppend sizeOfData name source
  | setVariableLengthData name source offset =>
      self.CanSetRange sizeOfData name source offset
  | clear name => self.CanClear name
  | ensurePrivate name =>
      self.CanCopy sizeOfData name (self.object name).size
  | setUInt8 name _ _ => self.CanWrite sizeOfData name (self.object name).size
  | _ => True

end

/-! ## The reference model -/

/-- Each object has its own bytes.  An object that is moved from keeps its size
and no known bytes. -/
def apply [DecidableEq ι] (self : Values ι) : Operation ι → Values ι
  | construct name => Function.update self name []
  | constructSize name size =>
      Function.update self name (List.replicate size none)
  | constructData name bytes => Function.update self name bytes
  | constructCopy name source => Function.update self name (self source)
  | constructMove name source =>
      Function.update (Function.update self name (self source)) source
        (List.replicate (self source).length none)
  | constructRange name source offset size =>
      Function.update self name (slice offset size (self source))
  | constructList name sources =>
      Function.update self name (sources.map self).flatten
  | copyAssign name source => Function.update self name (self source)
  | moveAssign name source =>
      if name = source then self
      else
        Function.update (Function.update self name (self source)) source
          (List.replicate (self source).length none)
  | setData name bytes => Function.update self name bytes
  | takeDataPointer name bytes => Function.update self name bytes
  | resize name size => Function.update self name (resized size (self name))
  | reserve _ _ => self
  | append name source => Function.update self name (self name ++ self source)
  | setVariableLengthData name source offset =>
      Function.update self name (overwrite offset (self source) (self name))
  | getVariableLengthData name source offset =>
      Function.update self name ((self source).drop offset)
  | tail name offset => Function.update self name ((self name).drop offset)
  | clear name => Function.update self name []
  | swap name other =>
      Function.update (Function.update self name (self other)) other
        (self name)
  | ensurePrivate _ => self
  | setUInt8 name value offset =>
      Function.update self name (overwrite offset [some value] (self name))

/-- The objects that an operation is about. -/
def changed : Operation ι → List ι
  | construct name => [name]
  | constructSize name _ => [name]
  | constructData name _ => [name]
  | constructCopy name _ => [name]
  | constructMove name source => [name, source]
  | constructRange name _ _ _ => [name]
  | constructList name _ => [name]
  | copyAssign name _ => [name]
  | moveAssign name source => [name, source]
  | setData name _ => [name]
  | takeDataPointer name _ => [name]
  | resize name _ => [name]
  | reserve _ _ => []
  | append name _ => [name]
  | setVariableLengthData name _ _ => [name]
  | getVariableLengthData name _ _ => [name]
  | tail name _ => [name]
  | clear name => [name]
  | swap name other => [name, other]
  | ensurePrivate _ => []
  | setUInt8 name _ _ => [name]

theorem extends_update
    [DecidableEq ι]
    {self other : Values ι} {changed : ι}
    {bytes bytes' : Bytes}
    (extended : ∀ name, Extends (self name) (other name))
    (extendedBytes : Extends bytes bytes') (name : ι) :
    Extends (Function.update self changed bytes name)
      (Function.update other changed bytes' name) := by
  by_cases same : name = changed
  · rw [same, Function.update_self, Function.update_self]
    exact extendedBytes
  · rw [Function.update_of_ne same, Function.update_of_ne same]
    exact extended name

/-- More known bytes before an operation are more known bytes after it. -/
theorem apply_extends
    [DecidableEq ι]
    {self other : Values ι}
    (extended : ∀ name, Extends (self name) (other name))
    (operation : Operation ι) (name : ι) :
    Extends (operation.apply self name) (operation.apply other name) := by
  have unknown : ∀ source,
      Extends (List.replicate (self source).length none : Bytes)
        (List.replicate (other source).length none) := by
    intro source
    rw [(extended source).length_eq]
    exact .refl _
  cases operation with
  | construct changed => exact extends_update extended .nil name
  | constructSize changed size => exact extends_update extended (.refl _) name
  | constructData changed bytes => exact extends_update extended (.refl _) name
  | constructCopy changed source =>
      exact extends_update extended (extended source) name
  | constructMove changed source =>
      exact extends_update (extends_update extended (extended source))
        (unknown source) name
  | constructRange changed source offset size =>
      exact extends_update extended ((extended source).slice offset size) name
  | constructList changed sources =>
      exact extends_update extended (.flatten extended sources) name
  | copyAssign changed source =>
      exact extends_update extended (extended source) name
  | moveAssign changed source =>
      rw [apply, apply]
      split
      next => exact extended name
      next =>
        exact extends_update (extends_update extended (extended source))
          (unknown source) name
  | setData changed bytes => exact extends_update extended (.refl _) name
  | takeDataPointer changed bytes => exact extends_update extended (.refl _) name
  | resize changed size =>
      exact extends_update extended ((extended changed).resized size) name
  | reserve changed cap => exact extended name
  | append changed source =>
      exact extends_update extended
        ((extended changed).append (extended source)) name
  | setVariableLengthData changed source offset =>
      exact extends_update extended
        ((extended changed).overwrite (extended source) offset) name
  | getVariableLengthData changed source offset =>
      exact extends_update extended ((extended source).drop offset) name
  | tail changed offset =>
      exact extends_update extended ((extended changed).drop offset) name
  | clear changed => exact extends_update extended .nil name
  | swap changed source =>
      exact extends_update (extends_update extended (extended source))
        (extended changed) name
  | ensurePrivate changed => exact extended name
  | setUInt8 changed value offset =>
      exact extends_update extended
        ((extended changed).overwrite (.refl _) offset) name

/-! ## One operation -/

section

variable [DecidableEq ι]

/-- What an operation does to the memory is what it does to the bytes of each
object. -/
structure Performs
    (operation : Operation ι)
    (before after : Memory ι) : Prop where
  sound : after.Sound
  contents : ∀ name,
    Extends (after.contents name) (operation.apply before.contents name)
  others : ∀ name, name ∉ operation.changed →
    after.contents name = before.contents name

variable {operation : Operation ι} {before after : Memory ι} {name : ι}

theorem performs_of_updates
    {value : Bytes}
    (updates : before.Updates after name value)
    (applied :
      operation.apply before.contents =
        Function.update before.contents name value)
    (changed : operation.changed = [name]) :
    operation.Performs before after where
  sound := updates.sound
  contents := by
    intro other
    rw [applied]
    by_cases same : other = name
    · rw [same, Function.update_self]
      exact updates.contents
    · rw [Function.update_of_ne same, updates.others other same]
      exact .refl _
  others := by
    intro other different
    rw [changed, List.mem_singleton] at different
    exact updates.others other different

theorem performs_of_relocates
    (relocates : before.Relocates after name)
    (applied : operation.apply before.contents = before.contents) :
    operation.Performs before after where
  sound := relocates.sound
  contents := by
    intro other
    rw [applied, relocates.contents]
    exact .refl _
  others := fun other _ => relocates.contents other

/-- Two objects get other bytes. -/
theorem performs_of_exchange
    {source : ι} {bytes bytes' known : Bytes}
    (sound : after.Sound)
    (contents : after.contents =
      Function.update (Function.update before.contents name bytes) source
        bytes')
    (applied : operation.apply before.contents =
      Function.update (Function.update before.contents name bytes) source
        known)
    (extended : Extends bytes' known)
    (changed : operation.changed = [name, source]) :
    operation.Performs before after where
  sound := sound
  contents := by
    intro other
    rw [applied, contents]
    exact extends_update (fun _ => .refl _) extended other
  others := by
    intro other different
    rw [changed, List.mem_cons, List.mem_singleton, not_or] at different
    rw [contents, Function.update_of_ne different.2,
      Function.update_of_ne different.1]

variable [Fintype ι] {sizeOfData : Nat}

/-- An operation whose sizes are right does not leave the blocks, and does to the
bytes of the objects what it does in the reference model. -/
theorem step_spec
    (sound : before.Sound) (inRange : operation.InRange before)
    (safe : operation.Safe sizeOfData before) :
    ∃ after, operation.step sizeOfData before = some after ∧
      operation.Performs before after := by
  cases operation with
  | construct name =>
      exact ⟨_, rfl, performs_of_updates
        (construct_spec sound (Nat.two_pow_pos 64)) rfl rfl⟩
  | constructSize name size =>
      exact ⟨_, rfl,
        performs_of_updates (construct_spec sound inRange) rfl rfl⟩
  | constructData name bytes =>
      obtain ⟨after, done, updates⟩ := constructData_spec sound safe
      exact ⟨after, done, performs_of_updates updates rfl rfl⟩
  | constructCopy name source =>
      exact ⟨_, rfl, performs_of_updates (copy_spec sound) rfl rfl⟩
  | constructMove name source =>
      obtain ⟨soundAfter, contents⟩ := constructMove_spec sound
      exact ⟨_, rfl, performs_of_exchange soundAfter contents rfl (.refl _)
        rfl⟩
  | constructRange name source offset size =>
      exact ⟨_, rfl,
        performs_of_updates (constructRange_spec sound inRange.2) rfl rfl⟩
  | constructList name sources =>
      obtain ⟨after, done, updates⟩ :=
        constructList_spec sound inRange safe.1 safe.2
      exact ⟨after, done, performs_of_updates updates rfl rfl⟩
  | copyAssign name source =>
      exact ⟨_, rfl, performs_of_updates (copy_spec sound) rfl rfl⟩
  | moveAssign name source =>
      refine ⟨_, rfl, ?_⟩
      by_cases same : name = source
      · rw [← same, moveAssign_self]
        exact performs_of_relocates (.refl sound name) (if_pos rfl)
      · obtain ⟨soundAfter, bytes, length, contents⟩ :=
          moveAssign_spec sound (safe.resolve_left same)
        exact performs_of_exchange soundAfter contents (if_neg same)
          (.replicate_none length) rfl
  | setData name bytes =>
      obtain ⟨after, done, updates⟩ := setData_spec sound inRange safe
      exact ⟨after, done, performs_of_updates updates rfl rfl⟩
  | takeDataPointer name bytes =>
      exact ⟨_, rfl,
        performs_of_updates (takeDataPointer_spec sound inRange) rfl rfl⟩
  | resize name size =>
      obtain ⟨after, done, updates, _⟩ := resize_spec sound inRange safe
      exact ⟨after, done, performs_of_updates updates rfl rfl⟩
  | reserve name cap =>
      obtain ⟨after, done, relocates⟩ := reserve_spec sound inRange.1 safe
      exact ⟨after, done, performs_of_relocates relocates rfl⟩
  | append name source =>
      obtain ⟨after, done, updates⟩ := append_spec sound safe
      exact ⟨after, done, performs_of_updates updates rfl rfl⟩
  | setVariableLengthData name source offset =>
      obtain ⟨after, done, updates⟩ :=
        setVariableLengthData_spec sound inRange safe
      exact ⟨after, done, performs_of_updates updates rfl rfl⟩
  | getVariableLengthData name source offset =>
      exact ⟨_, rfl, performs_of_updates
        (getVariableLengthData_spec sound inRange.2) rfl rfl⟩
  | tail name offset =>
      exact ⟨_, rfl, performs_of_updates (tail_spec sound inRange) rfl rfl⟩
  | clear name =>
      exact ⟨_, rfl, performs_of_updates (clear_spec sound safe) rfl rfl⟩
  | swap name other =>
      obtain ⟨soundAfter, contents⟩ := swap_spec sound
      exact ⟨_, rfl, performs_of_exchange soundAfter contents rfl (.refl _)
        rfl⟩
  | ensurePrivate name =>
      cases held : (before.object name).data with
      | none =>
          refine ⟨before, ?_, performs_of_relocates (.refl sound name) rfl⟩
          rw [step, Memory.ensurePrivate, held]
          exact if_pos (Nat.zero_le 1)
      | some block =>
          obtain ⟨after, _, done, relocates, _⟩ :=
            ensurePrivate_spec sound held safe
          exact ⟨after, done, performs_of_relocates relocates rfl⟩
  | setUInt8 name value offset =>
      obtain ⟨after, done, updates⟩ := setUInt8_spec sound inRange safe
      exact ⟨after, done, performs_of_updates updates rfl rfl⟩

end

end Operation

/-! ## Sequences of operations -/

theorem sound_initial : ({} : Memory ι).Sound where
  fits := fun _ => ⟨Nat.two_pow_pos 64, nofun, nofun⟩
  length_lt := fun _ => Nat.two_pow_pos 64

section

variable [DecidableEq ι] [Fintype ι] {sizeOfData : Nat}
  {meets : Operation ι → Memory ι → Prop} {memory : Memory ι}
  {values : Values ι}

/-- The memory and the reference model after operations that all meet a
condition. -/
inductive Reached (sizeOfData : Nat) (meets : Operation ι → Memory ι → Prop) :
    Memory ι → Values ι → Prop
  | initial : Reached sizeOfData meets {} fun _ => []
  | step {memory after : Memory ι} {values : Values ι}
      {operation : Operation ι}
      (reached : Reached sizeOfData meets memory values)
      (inRange : operation.InRange memory)
      (met : meets operation memory)
      (done : operation.step sizeOfData memory = some after) :
      Reached sizeOfData meets after (operation.apply values)

/-- Each object has the size and the known bytes that it has in the reference
model.  An operation that meets a condition does not leave the blocks, does what
it does in the reference model, and changes no other object. -/
structure HasValueSemantics
    (sizeOfData : Nat)
    (meets : Operation ι → Memory ι → Prop)
    (memory : Memory ι)
    (values : Values ι) : Prop where
  size : ∀ name, (memory.object name).size = (values name).length
  getUInt8 : ∀ name offset byte,
    (values name)[offset]? = some (some byte) →
      memory.getUInt8 name offset = some (some byte)
  step : ∀ operation : Operation ι,
    operation.InRange memory → meets operation memory →
      ∃ after, operation.step sizeOfData memory = some after ∧
        (∀ name,
          Extends (after.contents name) (operation.apply values name)) ∧
        ∀ name, name ∉ operation.changed →
          after.contents name = memory.contents name

/-- The invariant of the operations whose sizes are right. -/
theorem Reached.sound
    (reached : Reached sizeOfData (fun operation memory =>
      operation.Safe sizeOfData memory) memory values) :
    memory.Sound ∧ ∀ name, Extends (memory.contents name) (values name) := by
  induction reached with
  | initial =>
      refine ⟨sound_initial, fun name => ?_⟩
      exact .refl []
  | @step memory after values operation reached inRange met done
      ih =>
      obtain ⟨sound, extended⟩ := ih
      obtain ⟨after', done', performs⟩ := Operation.step_spec sound inRange met
      have same : after = after' := Option.some.inj (done.symm.trans done')
      rw [same]
      refine ⟨performs.sound, fun name => ?_⟩
      exact (performs.contents name).trans
        (operation.apply_extends extended name)

/-- Objects have value semantics under operations whose sizes are right. -/
theorem Reached.hasValueSemantics
    (reached : Reached sizeOfData (fun operation memory =>
      operation.Safe sizeOfData memory) memory values) :
    HasValueSemantics sizeOfData (fun operation memory =>
      operation.Safe sizeOfData memory) memory values := by
  obtain ⟨sound, extended⟩ := reached.sound
  refine ⟨?_, ?_, ?_⟩
  · intro name
    rw [← sound.length_contents, (extended name).length_eq]
  · intro name offset byte known
    have stored := (extended name).getElem?_eq known
    have inside := (List.getElem?_eq_some_iff.mp stored).1
    rw [sound.length_contents] at inside
    cases held : (memory.object name).data with
    | none =>
        rw [contents, contentsOf_of_none held, List.getElem?_replicate] at stored
        split at stored <;> cases stored
    | some block => rw [sound.getUInt8_eq held inside, stored]
  · intro operation inRange met
    obtain ⟨after, done, performs⟩ := Operation.step_spec sound inRange met
    refine ⟨after, done, fun name => ?_, performs.others⟩
    exact (performs.contents name).trans (operation.apply_extends extended name)

end

/-- An object with two bytes and a copy that shares them. -/
def sharedBytes : Memory (Fin 2) :=
  (((Operation.constructData (0 : Fin 2) [some 1, some 2]).step 40 {}).bind
    fun memory => (Operation.constructCopy 1 0).step 40 memory).getD {}

/-- A copy that shares bytes is written to, and the original keeps its own. -/
theorem hasValueSemantics_copy :
    ∃ memory : Memory (Fin 2),
      (Operation.setUInt8 1 7 0).step 40 sharedBytes = some memory ∧
        memory.getUInt8 0 0 = some (some 1) ∧
        memory.getUInt8 1 0 = some (some 7) ∧
        HasValueSemantics 40
          (fun operation memory => operation.Safe 40 memory) memory
          ((Operation.setUInt8 1 7 0).apply
            ((Operation.constructCopy 1 0).apply
              ((Operation.constructData 0 [some 1, some 2]).apply
                fun _ => []))) := by
  have shared : Reached 40 (fun operation memory => operation.Safe 40 memory)
      sharedBytes
      ((Operation.constructCopy 1 0).apply
        ((Operation.constructData 0 [some 1, some 2]).apply fun _ => [])) := by
    refine .step (.step .initial ?_ ?_ rfl) ?_ trivial rfl
    · exact (by decide : 2 < 2 ^ 64)
    · exact (by decide : 2 + 40 < 2 ^ 64)
    · exact (by decide : (0 : Fin 2) ≠ 1)
  have writes : (Operation.setUInt8 1 7 0).Safe 40 sharedBytes := by
    change sharedBytes.CanWrite 40 1 2
    rw [CanWrite, if_neg (by decide)]
    intro _
    exact ⟨(by decide : 2 + 40 < 2 ^ 64), by decide⟩
  have semantics := Reached.hasValueSemantics (shared.step
    (show (Operation.setUInt8 1 7 0).InRange _ from (by decide : 0 < 2)) writes rfl)
  exact ⟨_, rfl, semantics.getUInt8 0 0 1 rfl, semantics.getUInt8 1 0 7 rfl,
    semantics⟩

/-- Two objects that share bytes that were taken over. -/
def sharedTaken : Memory (Fin 2) :=
  (({} : Memory (Fin 2)).takeDataPointer 0 (List.replicate 16 (some 1))).copy
    1 0

theorem step_sharedTaken :
    ((Operation.setUInt8 1 7 0).step 40 sharedTaken).isNone = true := by
  decide +kernel

/-- Bytes that were taken over are shared and then written to: the block that is
allocated for the copy has no place for them. -/
theorem hasValueSemantics_fails :
    ¬∀ (memory : Memory (Fin 2)) (values : Values (Fin 2)),
      Reached 40 (fun _ _ => True) memory values →
        HasValueSemantics 40 (fun _ _ => True) memory values := by
  intro always
  have taken : Reached 40 (fun _ _ => True) _
      ((Operation.takeDataPointer (0 : Fin 2)
        (List.replicate 16 (some 1))).apply fun _ => []) :=
    .step .initial (by decide : 16 < 2 ^ 64) trivial rfl
  have shared : Reached 40 (fun _ _ => True) sharedTaken _ := taken.step
    (show (Operation.constructCopy 1 0).InRange _ from
      (by decide : (0 : Fin 2) ≠ 1)) trivial rfl
  obtain ⟨after, done, _⟩ := (always _ _ shared).step (.setUInt8 1 7 0)
    (by decide : 0 < 16) trivial
  have outside := step_sharedTaken
  rw [done] at outside
  cases outside

end CopyOnWrite
end OpenRTI
