import Mathlib.Data.List.Nodup
import Mathlib.Tactic.Common

/-!
# Nestings

Elements that are opened and closed one in the other, counted in the order in
which they are opened.  Each has a path: the elements it is in, the outermost
first, and itself.
-/

namespace Foundation

/-- Each element is in nothing or in an element before it, and the innermost open
element is one of them. -/
structure Nesting where
  paths : List (List Nat)
  current : List Nat
  path_eq : ∀ (index : Nat) (path : List Nat), paths[index]? = some path →
    ∃ enclosing, path = enclosing ++ [index] ∧
      (enclosing = [] ∨
        ∃ outer : Nat, outer < index ∧ paths[outer]? = some enclosing)
  current_eq : current = [] ∨ ∃ index : Nat, paths[index]? = some current

namespace Nesting

def empty : Nesting where
  paths := []
  current := []
  path_eq := by
    intro index path found
    cases found
  current_eq := Or.inl rfl

variable {index : Nat}

theorem getElem?_concat_of_some
    {α : Type*} {list : List α}
    {element : α}
    (found : list[index]? = some element)
    (last : α) :
    (list ++ [last])[index]? = some element := by
  obtain ⟨inside, _⟩ := List.getElem?_eq_some_iff.mp found
  rw [List.getElem?_append_left inside]
  exact found

/-- Open an element in the innermost open one. -/
def opened (nesting : Nesting) : Nesting where
  paths := nesting.paths ++ [nesting.current ++ [nesting.paths.length]]
  current := nesting.current ++ [nesting.paths.length]
  path_eq := by
    intro index path found
    obtain inside | atEnd | beyond :=
      Nat.lt_trichotomy index nesting.paths.length
    · rw [List.getElem?_append_left inside] at found
      obtain ⟨enclosing, same, outermost | ⟨outer, before, outerFound⟩⟩ :=
        nesting.path_eq index path found
      · exact ⟨enclosing, same, Or.inl outermost⟩
      · exact ⟨enclosing, same,
          Or.inr ⟨outer, before, getElem?_concat_of_some outerFound _⟩⟩
    · rw [atEnd, List.getElem?_concat_length] at found
      refine ⟨nesting.current, ?_, ?_⟩
      · rw [← Option.some.inj found, atEnd]
      · obtain none | ⟨outer, outerFound⟩ := nesting.current_eq
        · exact Or.inl none
        · obtain ⟨before, _⟩ := List.getElem?_eq_some_iff.mp outerFound
          rw [← atEnd] at before
          exact Or.inr
            ⟨outer, before, getElem?_concat_of_some outerFound _⟩
    · obtain ⟨inside, _⟩ := List.getElem?_eq_some_iff.mp found
      rw [List.length_append, List.length_singleton] at inside
      omega
  current_eq := Or.inr ⟨nesting.paths.length, List.getElem?_concat_length⟩

/-- Close the innermost open element. -/
def closed (nesting : Nesting) : Nesting where
  paths := nesting.paths
  current := nesting.current.dropLast
  path_eq := nesting.path_eq
  current_eq := by
    obtain none | ⟨index, found⟩ := nesting.current_eq
    · rw [none]
      exact Or.inl rfl
    · obtain ⟨enclosing, same, outermost | ⟨outer, _, outerFound⟩⟩ :=
        nesting.path_eq index _ found
      · rw [same, List.dropLast_concat]
        exact Or.inl outermost
      · rw [same, List.dropLast_concat]
        exact Or.inr ⟨outer, outerFound⟩

/-- Put everything into a further element that is opened first. -/
def insertOutermost (nesting : Nesting) : Nesting where
  paths := [0] :: nesting.paths.map fun path => 0 :: path.map (· + 1)
  current := 0 :: nesting.current.map (· + 1)
  path_eq := by
    intro index path found
    cases index with
    | zero =>
        rw [List.getElem?_cons_zero] at found
        exact ⟨[], (Option.some.inj found).symm, Or.inl rfl⟩
    | succ index =>
        rw [List.getElem?_cons_succ, List.getElem?_map,
          Option.map_eq_some_iff] at found
        obtain ⟨inner, innerFound, same⟩ := found
        obtain ⟨enclosing, split, outermost | ⟨outer, before, outerFound⟩⟩ :=
          nesting.path_eq index inner innerFound
        · refine ⟨[0], ?_, Or.inr ⟨0, Nat.succ_pos index, rfl⟩⟩
          rw [← same, split, outermost]
          rfl
        · refine ⟨0 :: enclosing.map (· + 1), ?_,
            Or.inr ⟨outer + 1, Nat.succ_lt_succ before, ?_⟩⟩
          · rw [← same, split, List.map_append]
            rfl
          · rw [List.getElem?_cons_succ, List.getElem?_map, outerFound]
            rfl
  current_eq := by
    obtain none | ⟨index, found⟩ := nesting.current_eq
    · rw [none]
      exact Or.inr ⟨0, rfl⟩
    · refine Or.inr ⟨index + 1, ?_⟩
      rw [List.getElem?_cons_succ, List.getElem?_map, found]
      rfl

variable {nesting : Nesting}

variable {path : List Nat}

/-! ## Paths -/

theorem path_ne_nil
    (found : nesting.paths[index]? = some path) : path ≠ [] := by
  obtain ⟨enclosing, same, _⟩ := nesting.path_eq index path found
  rw [same]
  exact List.concat_ne_nil index enclosing

theorem getLast?_path
    (found : nesting.paths[index]? = some path) :
    path.getLast? = some index := by
  obtain ⟨enclosing, same, _⟩ := nesting.path_eq index path found
  rw [same]
  exact List.getLast?_concat

/-- What a path begins with is the path of an element in it. -/
theorem exists_path_of_prefix
    {start : List Nat}
    (found : nesting.paths[index]? = some path)
    (begins : start <+: path)
    (nonempty : start ≠ []) :
    ∃ outer, outer ≤ index ∧ nesting.paths[outer]? = some start := by
  induction index using Nat.strongRecOn generalizing path with
  | ind index ih =>
      obtain ⟨enclosing, same, further⟩ := nesting.path_eq index path found
      rw [same] at begins
      obtain whole | within := List.prefix_concat_iff.mp begins
      · exact ⟨index, Nat.le_refl index, by rw [found, same, whole]⟩
      · obtain outermost | ⟨outer, before, outerFound⟩ := further
        · rw [outermost, List.prefix_nil] at within
          exact absurd within nonempty
        · obtain ⟨least, below, leastFound⟩ :=
            ih outer before outerFound within
          exact ⟨least, Nat.le_trans below (Nat.le_of_lt before), leastFound⟩

/-- An element of a path has what the path begins with as its path. -/
theorem path_prefix_of_mem
    {outer : Nat}
    (found : nesting.paths[index]? = some path)
    (member : outer ∈ path) :
    outer ≤ index ∧
      ∃ start, nesting.paths[outer]? = some start ∧ start <+: path := by
  induction index using Nat.strongRecOn generalizing path with
  | ind index ih =>
      obtain ⟨enclosing, same, further⟩ := nesting.path_eq index path found
      rw [same, List.mem_append, List.mem_singleton] at member
      obtain within | itself := member
      · obtain outermost | ⟨next, before, nextFound⟩ := further
        · rw [outermost] at within
          cases within
        · obtain ⟨below, start, startFound, begins⟩ :=
            ih next before nextFound within
          refine ⟨Nat.le_trans below (Nat.le_of_lt before), start,
            startFound, ?_⟩
          rw [same]
          exact begins.trans (List.prefix_append _ _)
      · rw [itself]
        exact ⟨Nat.le_refl index, path, found, List.prefix_rfl⟩

/-! ## Names -/

section Names

variable {α : Type*} {own : Nat → α}

/-- The names of the elements of each path. -/
def names (nesting : Nesting) (own : Nat → α) : List (List α) :=
  nesting.paths.map fun path => path.map own

variable {name : List α}

theorem getElem?_names :
    (nesting.names own)[index]? = some name ↔
      ∃ path, nesting.paths[index]? = some path ∧ path.map own = name := by
  rw [names, List.getElem?_map, Option.map_eq_some_iff]

/-- What a name begins with is the name of an element before. -/
theorem exists_name_of_prefix
    {start : List α}
    (found : (nesting.names own)[index]? = some name)
    (begins : start <+: name)
    (nonempty : start ≠ []) :
    ∃ outer, outer ≤ index ∧ (nesting.names own)[outer]? = some start := by
  obtain ⟨path, pathFound, same⟩ := getElem?_names.mp found
  rw [← same, List.prefix_map_iff] at begins
  obtain ⟨startPath, pathBegins, startSame⟩ := begins
  have startNonempty : startPath ≠ [] := by
    rintro rfl
    exact nonempty startSame
  obtain ⟨outer, before, outerFound⟩ :=
    exists_path_of_prefix pathFound pathBegins startNonempty
  exact ⟨outer, before,
    getElem?_names.mpr ⟨startPath, outerFound, startSame.symm⟩⟩

/-- With distinct names, an element is in another if and only if the name of the
other begins with its name. -/
theorem mem_path_iff
    (distinct : (nesting.names own).Nodup)
    {outer : Nat} {outerName : List α}
    (found : nesting.paths[index]? = some path)
    (same : path.map own = name)
    (outerFound : (nesting.names own)[outer]? = some outerName) :
    outer ∈ path ↔ outerName <+: name := by
  obtain ⟨outerPath, outerPathFound, outerSame⟩ := getElem?_names.mp outerFound
  constructor
  · intro member
    obtain ⟨_, start, startFound, begins⟩ := path_prefix_of_mem found member
    rw [outerPathFound] at startFound
    rw [← Option.some.inj startFound] at begins
    rw [← same, ← outerSame]
    exact begins.map own
  · intro begins
    rw [← same, List.prefix_map_iff] at begins
    obtain ⟨startPath, pathBegins, startSame⟩ := begins
    have startNonempty : startPath ≠ [] := by
      rintro rfl
      rw [startSame, List.map_nil, List.map_eq_nil_iff] at outerSame
      exact path_ne_nil outerPathFound outerSame
    obtain ⟨start, _, startFound⟩ :=
      exists_path_of_prefix found pathBegins startNonempty
    have startNamed := getElem?_names.mpr
      ⟨startPath, startFound, startSame.symm⟩
    obtain ⟨inside, _⟩ := List.getElem?_eq_some_iff.mp outerFound
    have equal : outer = start :=
      (List.getElem?_inj inside distinct).mp
        (outerFound.trans startNamed.symm)
    rw [← equal] at startFound
    exact pathBegins.subset (List.mem_of_getLast? (getLast?_path startFound))

end Names

end Nesting
end Foundation
