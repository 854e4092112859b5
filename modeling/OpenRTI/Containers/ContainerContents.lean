import OpenRTI.Containers.IntrusiveUnorderedMap

/-!
# Contents of the containers

The reference is the elements of each list and of each map in order.  The hooks are
intact if they are rings for these lists, and if each bucket is a ring for the
elements of the map with the keys of that bucket.  Each operation keeps this and
does to the hooks what the reference does to the lists.
-/

namespace OpenRTI
namespace Containers

open Foundation

/-- The elements of the lists and maps in order. -/
structure Contents (κ μ ε Key : Type*) where
  lists : κ → List ε
  maps : μ → List ε
  key : ε → Key
  elements : Finset ε

namespace Contents

variable {κ μ ε Key : Type*}

def initial (key : ε → Key) : Contents κ μ ε Key where
  lists _ := []
  maps _ := []
  key := key
  elements := ∅

/-- The elements of a bucket. -/
def bucket
    (hashing : Hashing μ Key)
    (contents : Contents κ μ ε Key)
    (bucket : μ × Nat) : List ε :=
  (contents.maps bucket.1).filter fun element =>
    hashing.index bucket.1 (contents.key element) = some bucket.2

variable [DecidableEq κ] [DecidableEq μ] [DecidableEq ε]

def construct
    (value : ε)
    (key : Key)
    (contents : Contents κ μ ε Key) : Contents κ μ ε Key :=
  { contents with
    key := Function.update contents.key value key
    elements := insert value contents.elements }

def destroy
    (value : ε)
    (contents : Contents κ μ ε Key) : Contents κ μ ε Key where
  lists list := (contents.lists list).erase value
  maps map := (contents.maps map).erase value
  key := contents.key
  elements := contents.elements.erase value

def setKey
    (value : ε)
    (key : Key)
    (contents : Contents κ μ ε Key) : Contents κ μ ε Key :=
  { contents with key := Function.update contents.key value key }

/-- Insert in front of the element of an iterator, or at the end. -/
def insert
    (list : κ)
    (place : HookNode κ ε)
    (value : ε)
    (contents : Contents κ μ ε Key) : Contents κ μ ε Key :=
  { contents with
    lists := Function.update contents.lists list
      (insertBeforeFirst (fun element => decide (.element element = place)) value
        (contents.lists list)) }

def unlink
    (value : ε)
    (contents : Contents κ μ ε Key) : Contents κ μ ε Key :=
  { contents with lists := fun list => (contents.lists list).erase value }

def swap
    (list other : κ)
    (contents : Contents κ μ ε Key) : Contents κ μ ε Key :=
  { contents with lists := contents.lists ∘ Equiv.swap list other }

def insertMap
    [DecidableEq Key]
    (map : μ)
    (value : ε)
    (contents : Contents κ μ ε Key) : Contents κ μ ε Key :=
  { contents with
    maps := Function.update contents.maps map
      (insertGrouped contents.key value (contents.maps map)) }

def unlinkMap
    (value : ε)
    (contents : Contents κ μ ε Key) : Contents κ μ ε Key :=
  { contents with maps := fun map => (contents.maps map).erase value }

end Contents

/-- The hooks are rings for the contents. -/
structure Intact
    {κ μ ε Key : Type*}
    (hashing : Hashing μ Key)
    (state : Containers κ μ ε Key)
    (contents : Contents κ μ ε Key) : Prop where
  list : state.list.Represents (· ∈ contents.elements) contents.lists
  totalList : state.totalList.Represents (· ∈ contents.elements) contents.maps
  bucketList : state.bucketList.Represents (· ∈ contents.elements)
    (contents.bucket hashing)
  grouped : ∀ map, Grouped contents.key (contents.maps map)
  key : state.key = contents.key
  elements : state.elements = contents.elements

variable {κ μ ε Key : Type*} {hashing : Hashing μ Key}
variable {state : Containers κ μ ε Key} {contents : Contents κ μ ε Key}

theorem intact_initial (key : ε → Key) :
    Intact hashing (.initial key : Containers κ μ ε Key) (.initial key) where
  list := HookRing.represents_initial Finset.notMem_empty
  totalList := HookRing.represents_initial Finset.notMem_empty
  bucketList := HookRing.represents_initial Finset.notMem_empty
  grouped _ := by
    intro first middle last inside
    have short := inside.length_le
    simp [Contents.initial] at short
  key := rfl
  elements := rfl

/-! ## Linked elements -/

section Linked

variable {ν : Type*} [DecidableEq κ] [DecidableEq ε]
variable {hooks : HookRing (HookNode κ ε)} {existing : ε → Prop}
variable {lists : κ → List ε} {list : κ} {value : ε}

theorem isLinked_of_placed
    {node : HookNode κ ε}
    (placed : hooks.Placed node) :
    isLinked node hooks = some (decide (hooks.next node ≠ node)) := by
  rw [isLinked, if_pos placed.next_eq_iff]

section

variable (represents : hooks.Represents existing lists)
include represents

theorem isLinked_eq_false
    (present : existing value)
    (absent : ∀ list, value ∉ lists list) :
    isLinked (.element value) hooks = some false := by
  rw [isLinked_of_placed (represents.placed_element present),
    (represents.next_eq_iff present).mpr absent]
  simp

theorem isLinked_eq_true
    (member : value ∈ lists list) :
    isLinked (.element value) hooks = some true := by
  have present := represents.exist list value member
  have linked : hooks.next (.element value) ≠ .element value := by
    intro alone
    exact (represents.next_eq_iff present).mp alone list member
  rw [isLinked_of_placed (represents.placed_element present)]
  exact congrArg some (decide_eq_true linked)

theorem empty_eq_false
    (member : value ∈ lists list) :
    IntrusiveList.empty list hooks = some false := by
  have linked : hooks.next (.head list) ≠ .head list := by
    rw [Ne, represents.next_head_eq_iff]
    exact List.ne_nil_of_mem member
  rw [IntrusiveList.empty, isLinked_of_placed (represents.placed_head list)]
  simp [linked]

theorem insert_eq_some
    (present : existing value)
    (absent : ∀ list, value ∉ lists list)
    (place : HookNode κ ε) :
    IntrusiveList.insert place value hooks =
      some (hooks.insertBefore (.element value) place) := by
  rw [IntrusiveList.insert, insertHook,
    isLinked_eq_false represents present absent]

theorem behind_eq_some
    (member : value ∈ lists list)
    (direction : Direction) :
    IntrusiveList.behind list direction value hooks =
      some (increment direction (.element value) hooks) := by
  rw [IntrusiveList.behind, empty_eq_false represents member,
    isLinked_eq_true represents member]

theorem it_eq_some
    (member : value ∈ lists list) :
    IntrusiveList.it value hooks = some (.element value) := by
  rw [IntrusiveList.it, isLinked_eq_true represents member]

end

end Linked

/-! ## Buckets -/

theorem bucket_congr
    {other : Contents κ μ ε Key}
    (maps : other.maps = contents.maps)
    (key : ∀ map, ∀ element ∈ contents.maps map,
      other.key element = contents.key element) :
    other.bucket hashing = contents.bucket hashing := by
  funext bucket
  rw [Contents.bucket, Contents.bucket, maps]
  apply List.filter_congr
  intro element member
  rw [key bucket.1 element member]

theorem mem_bucket
    {bucket : μ × Nat} {element : ε} :
    element ∈ contents.bucket hashing bucket ↔
      element ∈ contents.maps bucket.1 ∧
        hashing.index bucket.1 (contents.key element) = some bucket.2 := by
  rw [Contents.bucket, List.mem_filter, decide_eq_true_eq]

variable {value : ε}

theorem Intact.absent_bucket
    (absent : ∀ map, value ∉ contents.maps map)
    (bucket : μ × Nat) :
    value ∉ contents.bucket hashing bucket := by
  rw [mem_bucket]
  exact fun inside => absent bucket.1 inside.1

theorem Intact.not_mem_maps
    (intact : Intact hashing state contents)
    (absent : value ∉ contents.elements)
    (map : μ) :
    value ∉ contents.maps map :=
  fun member => absent (intact.totalList.exist map value member)

theorem update_key_eq
    [DecidableEq ε]
    (absent : ∀ map, value ∉ contents.maps map)
    (key : Key) (map : μ) (element : ε)
    (member : element ∈ contents.maps map) :
    Function.update contents.key value key element = contents.key element := by
  refine Function.update_of_ne ?_ _ _
  rintro rfl
  exact absent map member

/-! ## Elements -/

section Elements

variable [DecidableEq κ] [DecidableEq μ] [DecidableEq ε]

section

variable (intact : Intact hashing state contents)
include intact

theorem Intact.construct
    (absent : value ∉ contents.elements)
    (key : Key) :
    Intact hashing (state.construct value key) (contents.construct value key) := by
  have kept := update_key_eq (intact.not_mem_maps absent) key
  have keys : Function.update state.key value key =
      Function.update contents.key value key := by
    rw [intact.key]
  have exist : ∀ element, element ≠ value →
      (element ∈ insert value contents.elements ↔ element ∈ contents.elements) :=
    fun element different => by
      rw [Finset.mem_insert, or_iff_right different]
  exact {
    list := intact.list.clear absent exist
    totalList := intact.totalList.clear absent exist
    bucketList := by
      have same : (contents.construct value key).bucket hashing =
          contents.bucket hashing := bucket_congr rfl kept
      rw [same]
      exact intact.bucketList.clear absent exist
    grouped := fun map => (intact.grouped map).congr (kept map)
    key := keys
    elements := congrArg (insert value) intact.elements }

theorem Intact.destroy
    (present : value ∈ contents.elements) :
    Intact hashing (state.destroy value) (contents.destroy value) := by
  have exist : ∀ element, element ≠ value →
      (element ∈ contents.elements.erase value ↔ element ∈ contents.elements) :=
    fun element different => by
      rw [Finset.mem_erase, and_iff_right different]
  have gone : value ∉ contents.elements.erase value :=
    Finset.notMem_erase value contents.elements
  exact {
    list := intact.list.unlink present exist gone
    totalList := intact.totalList.unlink present exist gone
    bucketList := by
      have same : (contents.destroy value).bucket hashing = fun bucket =>
          (contents.bucket hashing bucket).erase value :=
        funext fun _ => List.erase_filter.symm
      rw [same]
      exact intact.bucketList.unlink present exist gone
    grouped := fun map => (intact.grouped map).sublist List.erase_sublist
    key := intact.key
    elements := congrArg (Finset.erase · value) intact.elements }

theorem Intact.eraseAt
    {list : κ}
    (member : value ∈ contents.lists list)
    (direction : Direction) :
    ∃ next, state.eraseAt list direction value = some (state.destroy value, next) := by
  rw [Containers.eraseAt, behind_eq_some intact.list member]
  exact ⟨_, rfl⟩

theorem Intact.eraseMapAt
    {map : μ}
    (member : value ∈ contents.maps map)
    (direction : Direction) :
    ∃ next, state.eraseMapAt map direction value =
      some (state.destroy value, next) := by
  rw [Containers.eraseMapAt, behind_eq_some intact.totalList member]
  exact ⟨_, rfl⟩

end

end Elements

/-! ## Lists -/

section Lists

variable [DecidableEq κ] [DecidableEq ε]

section

variable (intact : Intact hashing state contents)
include intact

theorem Intact.insert
    {list : κ} {place : HookNode κ ε}
    (present : value ∈ contents.elements)
    (absent : ∀ list, value ∉ contents.lists list)
    (valid : place = .head list ∨
      ∃ element ∈ contents.lists list, place = .element element) :
    ∃ after, state.insert place value = some after ∧
      Intact hashing after (contents.insert list place value) := by
  have found : HookRing.foundAt list ((contents.lists list).find?
      fun element => decide (.element element = place)) = place := by
    obtain rfl | ⟨element, member, rfl⟩ := valid
    · rw [List.find?_eq_none.mpr (by simp)]
      rfl
    · have finds : (contents.lists list).find? (fun other =>
          decide (@HookNode.element κ ε other = .element element)) =
            some element := by
        rw [List.find?_eq_some_iff_append]
        obtain ⟨front, back, split, _, notFront, _⟩ :=
          HookRing.split_of_mem (intact.list.nodup list) member
        refine ⟨by simp, front, back, split, ?_⟩
        intro other inFront
        have different : other ≠ element := by
          rintro rfl
          exact notFront inFront
        simpa using different
      rw [finds]
      rfl
  have inserted := intact.list.insertBeforeFirst list
    (fun element => decide (.element element = place)) present absent
  rw [found] at inserted
  refine ⟨_, by rw [Containers.insert, insert_eq_some intact.list present absent]; rfl,
    ?_⟩
  exact {
    list := inserted
    totalList := intact.totalList
    bucketList := intact.bucketList
    grouped := intact.grouped
    key := intact.key
    elements := intact.elements }

theorem Intact.unlink
    (present : value ∈ contents.elements) :
    Intact hashing (state.unlink value) (contents.unlink value) where
  list := intact.list.unlinkClear present
  totalList := intact.totalList
  bucketList := intact.bucketList
  grouped := intact.grouped
  key := intact.key
  elements := intact.elements

theorem Intact.unlinkAt
    {list : κ}
    (member : value ∈ contents.lists list)
    (direction : Direction) :
    ∃ next, state.unlinkAt list direction value = some (state.unlink value, next) := by
  rw [Containers.unlinkAt, IntrusiveList.unlinkAt,
    behind_eq_some intact.list member]
  exact ⟨_, rfl⟩

theorem Intact.swap
    (list other : κ) :
    Intact hashing (state.swap list other) (contents.swap list other) where
  list := intact.list.swap list other
  totalList := intact.totalList
  bucketList := intact.bucketList
  grouped := intact.grouped
  key := intact.key
  elements := intact.elements

end

end Lists

/-! ## Maps -/

section Maps

variable [DecidableEq μ] [DecidableEq ε]

section

variable (intact : Intact hashing state contents)
include intact

theorem Intact.isLinkedMap_eq_false
    (present : value ∈ contents.elements)
    (absent : ∀ map, value ∉ contents.maps map) :
    state.isLinkedMap value = some false := by
  rw [Containers.isLinkedMap,
    isLinked_eq_false intact.totalList present absent,
    isLinked_eq_false intact.bucketList present
      (Intact.absent_bucket absent)]
  rfl

theorem Intact.setKey
    (present : value ∈ contents.elements)
    (absent : ∀ map, value ∉ contents.maps map)
    (key : Key) :
    ∃ after, state.setKey value key = some after ∧
      Intact hashing after (contents.setKey value key) := by
  have kept := update_key_eq absent key
  have keys : Function.update state.key value key =
      Function.update contents.key value key := by
    rw [intact.key]
  refine ⟨_, by rw [Containers.setKey, intact.isLinkedMap_eq_false present absent],
    ?_⟩
  exact {
    list := intact.list
    totalList := intact.totalList
    bucketList := by
      have same : (contents.setKey value key).bucket hashing =
          contents.bucket hashing := bucket_congr rfl kept
      rw [same]
      exact intact.bucketList
    grouped := fun map => (intact.grouped map).congr (kept map)
    key := keys
    elements := intact.elements }

theorem Intact.unlinkMap
    (present : value ∈ contents.elements) :
    Intact hashing (state.unlinkMap value) (contents.unlinkMap value) where
  list := intact.list
  totalList := intact.totalList.unlinkClear present
  bucketList := by
    have same : (contents.unlinkMap value).bucket hashing = fun bucket =>
        (contents.bucket hashing bucket).erase value :=
      funext fun _ => List.erase_filter.symm
    rw [same]
    exact intact.bucketList.unlinkClear present
  grouped map := (intact.grouped map).sublist List.erase_sublist
  key := intact.key
  elements := intact.elements

theorem Intact.unlinkMapAt
    {map : μ}
    (member : value ∈ contents.maps map)
    (direction : Direction) :
    ∃ next, state.unlinkMapAt map direction value =
      some (state.unlinkMap value, next) := by
  rw [Containers.unlinkMapAt, IntrusiveList.unlinkAt,
    behind_eq_some intact.totalList member]
  exact ⟨_, rfl⟩

end

variable [DecidableEq Key] {map : μ} {key : Key} {index : Nat}

omit [DecidableEq μ] [DecidableEq ε] in
/-- A bucket has the elements that are found with the keys of the bucket. -/
theorem find_bucket
    (indexed : hashing.index map key = some index) :
    (contents.bucket hashing (map, index)).find?
        (fun element => decide (key = contents.key element)) =
      findGrouped contents.key key (contents.maps map) := by
  have selected : decide (hashing.index map key = some index) = true :=
    decide_eq_true indexed
  rw [← @findGrouped_filter _ _ _ contents.key
    (fun other => decide (hashing.index map other = some index)) key selected]
  simp only [findGrouped, Contents.bucket, eq_comm]

omit [DecidableEq ε] in
theorem Intact.searchBucket
    (intact : Intact hashing state contents)
    (indexed : hashing.index map key = some index) :
    state.searchBucket hashing map key =
      some (HookRing.foundAt (map, index)
        (findGrouped contents.key key (contents.maps map))) := by
  classical
  have enough : (contents.bucket hashing (map, index)).length < state.steps := by
    rw [Containers.steps, intact.elements, Nat.lt_succ_iff]
    exact intact.bucketList.length_le (map, index)
  rw [Containers.searchBucket, indexed, Option.bind_some, IntrusiveList.begin,
    intact.bucketList.search (map, index) _ enough, intact.key,
    find_bucket indexed]

omit [DecidableEq Key] in
theorem Intact.totalPlace
    (intact : Intact hashing state contents)
    {found : Option ε}
    (member : ∀ element, found = some element → element ∈ contents.maps map) :
    state.totalPlace map (HookRing.foundAt (map, index) found) =
      some (HookRing.foundAt map found) := by
  cases found with
  | none => rfl
  | some element => exact it_eq_some intact.totalList (member element rfl)

/-- The first element with a key in the iteration order is found, or the end. -/
theorem Intact.find
    (intact : Intact hashing state contents)
    (indexed : hashing.index map key = some index) :
    state.find hashing map key =
      some (HookRing.foundAt map
        (findGrouped contents.key key (contents.maps map))) := by
  rw [Containers.find, intact.searchBucket indexed, Option.bind_some]
  exact intact.totalPlace fun element finds => (findGrouped_eq_some finds).1

omit [DecidableEq ε] in
theorem maps_insertMap (map : μ) (value : ε) :
    (contents.insertMap map value).maps map =
      insertGrouped contents.key value (contents.maps map) :=
  Function.update_self map _ _

omit [DecidableEq ε] in
theorem maps_insertMap_of_ne
    {other : μ} {value : ε}
    (different : other ≠ map) :
    (contents.insertMap map value).maps other = contents.maps other :=
  Function.update_of_ne different _ _

omit [DecidableEq ε] in
/-- An insertion is one in the bucket of the key. -/
theorem bucket_insertMap
    {value : ε}
    (indexed : hashing.index map (contents.key value) = some index) :
    (contents.insertMap map value).bucket hashing =
      Function.update (contents.bucket hashing) (map, index)
        (insertGrouped contents.key value (contents.bucket hashing (map, index))) := by
  funext bucket
  obtain ⟨other, number⟩ := bucket
  rw [Contents.bucket]
  by_cases sameMap : other = map
  · subst sameMap
    rw [maps_insertMap]
    refine (filter_insertGrouped contents.key (fun key =>
      decide (hashing.index other key = some number)) value _).trans ?_
    rw [indexed]
    by_cases sameIndex : index = number
    · subst sameIndex
      rw [if_pos (decide_eq_true rfl), Function.update_self]
      rfl
    · rw [if_neg (by simpa using sameIndex),
        Function.update_of_ne (by simpa using Ne.symm sameIndex)]
      rfl
  · rw [maps_insertMap_of_ne sameMap, Function.update_of_ne (by simp [sameMap])]
    rfl

theorem Intact.insertMap
    (intact : Intact hashing state contents)
    {value : ε}
    (present : value ∈ contents.elements)
    (absent : ∀ map, value ∉ contents.maps map)
    (indexed : hashing.index map (contents.key value) = some index) :
    ∃ after, state.insertMap hashing map value = some after ∧
      Intact hashing after (contents.insertMap map value) := by
  have absentBucket := @Intact.absent_bucket _ _ _ _ hashing contents value absent
  have bucket := intact.bucketList.insertBeforeFirst (map, index)
    (fun element => decide (contents.key value = contents.key element)) present
    absentBucket
  have total := intact.totalList.insertBeforeFirst map
    (fun element => decide (contents.key value = contents.key element)) present
    absent
  have found : (contents.maps map).find?
      (fun element => decide (contents.key value = contents.key element)) =
        findGrouped contents.key (contents.key value) (contents.maps map) := by
    simp only [findGrouped, eq_comm]
  rw [find_bucket indexed, ← insertGrouped_eq, ← bucket_insertMap indexed] at bucket
  rw [found, ← insertGrouped_eq] at total
  refine ⟨_, by
    rw [Containers.insertMap, intact.key, intact.searchBucket indexed,
      Option.bind_some, insert_eq_some intact.bucketList present absentBucket,
      Option.bind_some,
      intact.totalPlace fun element finds => (findGrouped_eq_some finds).1,
      Option.bind_some, insert_eq_some intact.totalList present absent]
    rfl, ?_⟩
  exact {
    list := intact.list
    totalList := total
    bucketList := bucket
    grouped := by
      intro other
      by_cases same : other = map
      · subst same
        rw [maps_insertMap]
        exact (intact.grouped other).insertGrouped value
      · rw [maps_insertMap_of_ne same]
        exact intact.grouped other
    key := rfl
    elements := intact.elements }

end Maps

end Containers
end OpenRTI
