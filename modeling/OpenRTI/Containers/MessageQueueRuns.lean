import OpenRTI.Containers.ContainerRuns
import OpenRTI.Containers.MessageQueues

/-!
# Runs of the message queues

The reference is the messages of each queue in order.  The elements in the map are
those with a message for an object instance, so the walk over the elements with one
handle takes all messages for this object instance out of the queues.
-/

namespace OpenRTI
namespace Containers

open Foundation

/-! ## Elements -/

/-- An element that is in no list and in no map. -/
structure Loose
    {κ μ ε Key : Type*}
    (contents : Contents κ μ ε Key)
    (element : ε) : Prop where
  present : element ∈ contents.elements
  lists : ∀ list, element ∉ contents.lists list
  maps : ∀ map, element ∉ contents.maps map

section Elements

variable {κ ε : Type*} [DecidableEq κ] [DecidableEq ε]
variable {hooks : HookRing (HookNode κ ε)} {existing : ε → Prop}
variable {lists : κ → List ε}

theorem empty_eq_isEmpty
    (represents : hooks.Represents existing lists) (list : κ) :
    IntrusiveList.empty list hooks = some (lists list).isEmpty := by
  rw [IntrusiveList.empty, isLinked_of_placed (represents.placed_head list),
    represents.next_head]
  cases lists list with
  | nil => simp [HookRing.foundAt]
  | cons element rest => simp [HookRing.foundAt]

theorem front_eq_head
    (represents : hooks.Represents existing lists) (list : κ) :
    IntrusiveList.front list hooks = (lists list).head? := by
  rw [IntrusiveList.front, empty_eq_isEmpty represents, IntrusiveList.begin,
    represents.next_head]
  cases lists list with
  | nil => rfl
  | cons element rest => rfl

end Elements

namespace Contents

variable {κ μ ε Key : Type*} [DecidableEq κ] [DecidableEq ε]

def pushBack
    (list : κ)
    (value : ε)
    (contents : Contents κ μ ε Key) : Contents κ μ ε Key :=
  { contents with
    lists := Function.update contents.lists list (contents.lists list ++ [value]) }

/-- Unlink an element, which loses its key. -/
def loosen
    [Inhabited Key]
    (value : ε)
    (contents : Contents κ μ ε Key) : Contents κ μ ε Key :=
  ((contents.unlink value).unlinkMap value).setKey value default

omit [DecidableEq ε] in
theorem lists_pushBack_of_ne
    {list other : κ} {value : ε}
    {contents : Contents κ μ ε Key}
    (different : other ≠ list) :
    (contents.pushBack list value).lists other = contents.lists other :=
  Function.update_of_ne different _ _

theorem insert_finish
    (list : κ) (value : ε) (contents : Contents κ μ ε Key) :
    contents.insert list (IntrusiveList.finish list) value =
      contents.pushBack list value := by
  rw [Contents.insert, pushBack]
  congr 2
  have never : (fun element : ε => decide (HookNode.element element =
      IntrusiveList.finish list)) = fun _ => false := by
    funext element
    simp [IntrusiveList.finish]
  rw [never, insertBeforeFirst_false]

end Contents

namespace QueueState

variable {Time ε Handle Message : Type*}
variable [DecidableEq Time] [DecidableEq ε]
variable {hashing : Hashing Unit Handle}
variable {state : QueueState Time ε Handle Message}
variable {contents : Contents (MessageList Time) Unit ε Handle}
variable {element : ε}

theorem unlink_spec
    [Inhabited Handle]
    (intact : Intact hashing state.containers contents)
    (present : element ∈ contents.elements) :
    ∃ after, state.unlink element = some after ∧
      Intact hashing after.containers (contents.loosen element) ∧
      Loose (contents.loosen element) element ∧
      after.message = state.message := by
  have unlinked := (intact.unlink present).unlinkMap present
  have lists : ∀ list, element ∉ (contents.lists list).erase element :=
    fun list => (intact.list.nodup list).not_mem_erase
  have maps : ∀ map, element ∉ (contents.maps map).erase element :=
    fun map => (intact.totalList.nodup map).not_mem_erase
  obtain ⟨containers, defined, intactAfter⟩ := unlinked.setKey present maps default
  refine ⟨{ state with containers := containers }, ?_, intactAfter,
    ⟨present, lists, maps⟩, rfl⟩
  rw [unlink, defined]
  rfl

theorem pushBack_spec
    (intact : Intact hashing state.containers contents)
    (loose : Loose contents element) (list : MessageList Time) :
    ∃ after, state.pushBack list element = some after ∧
      Intact hashing after.containers (contents.pushBack list element) ∧
      after.message = state.message := by
  obtain ⟨containers, defined, intactAfter⟩ :=
    intact.insert loose.present loose.lists
      (@Or.inl (IntrusiveList.finish list = .head list) _ rfl)
  rw [Contents.insert_finish] at intactAfter
  refine ⟨{ state with containers := containers }, ?_, intactAfter, rfl⟩
  rw [pushBack, defined]
  rfl

theorem recycle_spec
    [Inhabited Handle]
    (intact : Intact hashing state.containers contents)
    (present : element ∈ contents.elements) :
    ∃ after, state.recycle element = some after ∧
      Intact hashing after.containers
        ((contents.loosen element).pushBack .pool element) ∧
      after.message = Function.update state.message element none := by
  obtain ⟨unlinked, defined, intactUnlinked, loose, message⟩ :=
    unlink_spec intact present
  obtain ⟨after, pushed, intactAfter, kept⟩ :=
    @pushBack_spec _ _ _ _ _ _ hashing (unlinked.setMessage element none) _ _
      intactUnlinked loose .pool
  refine ⟨after, ?_, intactAfter, ?_⟩
  · rw [recycle, defined, Option.bind_some, pushed]
  · rw [kept, setMessage, message]

/-! ## The messages of the queues -/

variable [Inhabited Handle]
variable {getObjectInstanceHandleForMessage : Message → Handle}
variable {message : ε → Option Message} {queued : MessageQueue Time → List Message}

/-- The elements of the queues have the messages of the reference, and those with a
message for an object instance are in the map. -/
structure Holds
    (getObjectInstanceHandleForMessage : Message → Handle)
    (message : ε → Option Message)
    (contents : Contents (MessageList Time) Unit ε Handle)
    (queued : MessageQueue Time → List Message) : Prop where
  messages : ∀ queue,
    (contents.lists (.queue queue)).map message = (queued queue).map some
  mapped : ∀ element, element ∈ contents.maps () ↔
    ∃ queue held, element ∈ contents.lists (.queue queue) ∧
      message element = some held ∧ valid (getObjectInstanceHandleForMessage held)
  keyed : ∀ element ∈ contents.maps (), ∀ held, message element = some held →
    contents.key element = getObjectInstanceHandleForMessage held

omit [DecidableEq Time] [DecidableEq ε] in
theorem Holds.exists_message
    (holds : Holds getObjectInstanceHandleForMessage message contents queued)
    {queue : MessageQueue Time}
    (member : element ∈ contents.lists (.queue queue)) :
    ∃ held, message element = some held ∧ held ∈ queued queue := by
  have mapped : message element ∈ (queued queue).map some := by
    rw [← holds.messages]
    exact List.mem_map_of_mem member
  obtain ⟨held, inside, same⟩ := List.mem_map.mp mapped
  exact ⟨held, same.symm, inside⟩

variable {after : Contents (MessageList Time) Unit ε Handle}

omit [DecidableEq Time] in
/-- What a change of one element that is in no queue leaves as it is. -/
theorem Holds.change_loose
    (holds : Holds getObjectInstanceHandleForMessage message contents queued)
    (absent : ∀ queue, element ∉ contents.lists (.queue queue))
    (lists : ∀ queue, after.lists (.queue queue) = contents.lists (.queue queue))
    (maps : after.maps () = contents.maps ())
    (key : ∀ other, other ≠ element → after.key other = contents.key other)
    (held : Option Message) :
    Holds getObjectInstanceHandleForMessage (Function.update message element held)
      after queued := by
  have kept : ∀ queue, ∀ other ∈ contents.lists (.queue queue),
      Function.update message element held other = message other := by
    intro queue other member
    refine Function.update_of_ne ?_ _ _
    rintro rfl
    exact absent queue member
  have queuedMember : ∀ other ∈ contents.maps (), ∃ queue,
      other ∈ contents.lists (.queue queue) := by
    intro other member
    obtain ⟨queue, _, inside, _⟩ := (holds.mapped other).mp member
    exact ⟨queue, inside⟩
  refine ⟨?_, ?_, ?_⟩
  · intro queue
    rw [lists, ← holds.messages]
    exact List.map_congr_left (kept queue)
  · intro other
    rw [maps, holds.mapped]
    constructor
    · rintro ⟨queue, held, inside, has, isValid⟩
      exact ⟨queue, held, by rw [lists]; exact inside,
        (kept queue other inside).trans has, isValid⟩
    · rintro ⟨queue, held, inside, has, isValid⟩
      rw [lists] at inside
      exact ⟨queue, held, inside, (kept queue other inside).symm.trans has, isValid⟩
  · intro other member held has
    rw [maps] at member
    obtain ⟨queue, inside⟩ := queuedMember other member
    rw [kept queue other inside] at has
    have different : other ≠ element := by
      rintro rfl
      exact absent queue inside
    rw [key other different]
    exact holds.keyed other member held has

omit [DecidableEq ε] in
/-- An element with a message is put at the end of a queue. -/
theorem Holds.enqueue
    (holds : Holds getObjectInstanceHandleForMessage message contents queued)
    {queue : MessageQueue Time} {held : Message}
    (loose : Loose contents element)
    (has : message element = some held)
    (lists : ∀ other, after.lists (.queue other) =
      Function.update (fun other => contents.lists (.queue other)) queue
        (contents.lists (.queue queue) ++ [element]) other)
    (maps : ∀ other, other ∈ after.maps () ↔
      other = element ∧ valid (getObjectInstanceHandleForMessage held) ∨
        other ∈ contents.maps ())
    (key : ∀ other, other ≠ element → after.key other = contents.key other)
    (keyed : valid (getObjectInstanceHandleForMessage held) →
      after.key element = getObjectInstanceHandleForMessage held) :
    Holds getObjectInstanceHandleForMessage message after
      (Function.update queued queue (queued queue ++ [held])) := by
  classical
  refine ⟨?_, ?_, ?_⟩
  · intro other
    rw [lists]
    by_cases same : other = queue
    · subst same
      rw [Function.update_self, Function.update_self, List.map_append,
        List.map_append, holds.messages, List.map_singleton, List.map_singleton, has]
    · rw [Function.update_of_ne same, Function.update_of_ne same, holds.messages]
  · intro other
    rw [maps, holds.mapped]
    constructor
    · rintro (⟨rfl, isValid⟩ | ⟨place, carried, inside, carries, isValid⟩)
      · refine ⟨queue, held, ?_, has, isValid⟩
        rw [lists, Function.update_self]
        simp
      · refine ⟨place, carried, ?_, carries, isValid⟩
        rw [lists]
        by_cases same : place = queue
        · subst same
          rw [Function.update_self]
          exact List.mem_append_left _ inside
        · rw [Function.update_of_ne same]
          exact inside
    · rintro ⟨place, carried, inside, carries, isValid⟩
      rw [lists] at inside
      by_cases isNew : other = element
      · subst isNew
        cases has.symm.trans carries
        exact Or.inl ⟨rfl, isValid⟩
      · refine Or.inr ⟨place, carried, ?_, carries, isValid⟩
        by_cases same : place = queue
        · subst same
          rw [Function.update_self] at inside
          simpa [isNew] using inside
        · rw [Function.update_of_ne same] at inside
          exact inside
  · intro other member carried carries
    obtain ⟨rfl, isValid⟩ | old := (maps other).mp member
    · cases has.symm.trans carries
      exact keyed isValid
    · have different : other ≠ element := by
        rintro rfl
        exact loose.maps () old
      rw [key other different]
      exact holds.keyed other old carried carries

/-! ## Queueing -/

theorem newElement_spec
    (intact : Intact hashing state.containers contents)
    (holds : Holds getObjectInstanceHandleForMessage state.message contents queued)
    {fresh : ε}
    (isFresh : fresh ∉ contents.elements)
    (held : Message) :
    ∃ after element contents', state.newElement held fresh = some (after, element) ∧
      Intact hashing after.containers contents' ∧
      Holds getObjectInstanceHandleForMessage after.message contents' queued ∧
      Loose contents' element ∧ after.message element = some held := by
  rw [newElement, empty_eq_isEmpty intact.list, front_eq_head intact.list]
  cases pool : contents.lists .pool with
  | nil =>
      have absent : ∀ list, fresh ∉ contents.lists list := fun list member =>
        isFresh (intact.list.exist list fresh member)
      have absentMaps : ∀ map, fresh ∉ contents.maps map := fun map member =>
        isFresh (intact.totalList.exist map fresh member)
      refine ⟨_, fresh, contents.construct fresh default, rfl,
        intact.construct isFresh default, ?_, ?_, Function.update_self _ _ _⟩
      · have lists : ∀ queue, (contents.construct fresh default).lists
            (.queue queue) = contents.lists (.queue queue) := fun _ => rfl
        exact holds.change_loose (fun queue => absent _) lists rfl
          (fun other different => Function.update_of_ne different _ _) _
      · exact ⟨Finset.mem_insert_self _ _, absent, absentMaps⟩
  | cons first rest =>
      have member : first ∈ contents.lists .pool := by
        rw [pool]
        exact List.mem_cons_self
      have absent : ∀ queue, first ∉ contents.lists (.queue queue) := by
        intro queue inside
        cases intact.list.unique _ _ first member inside
      have absentMaps : first ∉ contents.maps () := by
        intro inside
        obtain ⟨queue, _, waits, _⟩ := (holds.mapped first).mp inside
        exact absent queue waits
      obtain ⟨after, defined, intactAfter, loose, kept⟩ :=
        unlink_spec intact (intact.list.exist _ first member)
      refine ⟨after.setMessage first (some held), first, contents.loosen first, ?_,
        intactAfter, ?_, loose, Function.update_self _ _ _⟩
      · change (state.unlink first).map _ = _
        rw [defined]
        rfl
      · rw [setMessage, kept]
        exact holds.change_loose absent
          (fun queue => List.erase_of_not_mem (absent queue))
          (List.erase_of_not_mem absentMaps)
          (fun other different => Function.update_of_ne different _ _) _

section Maps

variable [DecidableEq Handle]

omit [DecidableEq Time] in
theorem insertHandle_spec
    (intact : Intact hashing state.containers contents)
    (positive : 0 < hashing.numBuckets ())
    (present : element ∈ contents.elements)
    (absent : ∀ map, element ∉ contents.maps map)
    (held : Message) :
    ∃ after contents', state.insertHandle hashing getObjectInstanceHandleForMessage
        held element = some after ∧
      Intact hashing after.containers contents' ∧
      after.message = state.message ∧
      contents'.lists = contents.lists ∧
      (∀ other, other ∈ contents'.maps () ↔
        other = element ∧ valid (getObjectInstanceHandleForMessage held) ∨
          other ∈ contents.maps ()) ∧
      (∀ other, other ≠ element → contents'.key other = contents.key other) ∧
      (valid (getObjectInstanceHandleForMessage held) →
        contents'.key element = getObjectInstanceHandleForMessage held) := by
  rw [insertHandle]
  by_cases isValid : valid (getObjectInstanceHandleForMessage held)
  · rw [if_pos isValid]
    obtain ⟨keyed, defined, intactKeyed⟩ := intact.setKey present absent
      (getObjectInstanceHandleForMessage held)
    obtain ⟨index, indexed⟩ := exists_index positive
      ((contents.setKey element (getObjectInstanceHandleForMessage held)).key element)
    obtain ⟨containers, inserted, intactAfter⟩ :=
      intactKeyed.insertMap present absent indexed
    refine ⟨{ state with containers := containers }, _, ?_, intactAfter, rfl, rfl,
      ?_, ?_, ?_⟩
    · rw [defined, Option.bind_some, inserted]
      rfl
    · intro other
      rw [maps_insertMap, mem_insertGrouped, and_iff_left isValid]
      rfl
    · exact fun other different => Function.update_of_ne different _ _
    · exact fun _ => Function.update_self _ _ _
  · rw [if_neg isValid]
    refine ⟨state, contents, rfl, intact, rfl, rfl, ?_, fun _ _ => rfl,
      fun absurdity => absurd absurdity isValid⟩
    intro other
    rw [or_iff_right]
    rintro ⟨_, absurdity⟩
    exact isValid absurdity

/-- A message is put at the end of a queue. -/
theorem queueMessage_spec
    (intact : Intact hashing state.containers contents)
    (holds : Holds getObjectInstanceHandleForMessage state.message contents queued)
    (positive : 0 < hashing.numBuckets ())
    {fresh : ε}
    (isFresh : fresh ∉ contents.elements)
    (queue : MessageQueue Time) (held : Message) :
    ∃ after contents', state.queueMessage hashing getObjectInstanceHandleForMessage
        queue held fresh = some after ∧
      Intact hashing after.containers contents' ∧
      Holds getObjectInstanceHandleForMessage after.message contents'
        (Function.update queued queue (queued queue ++ [held])) := by
  obtain ⟨made, element, loosened, makes, intactMade, holdsMade, loose, has⟩ :=
    newElement_spec intact holds isFresh held
  obtain ⟨pushed, pushes, intactPushed, keptPushed⟩ :=
    pushBack_spec intactMade loose (.queue queue)
  obtain ⟨after, contents', inserts, intactAfter, kept, lists, maps, key, keyed⟩ :=
    @insertHandle_spec _ _ _ _ _ _ _ _ _ _ getObjectInstanceHandleForMessage _
      intactPushed positive loose.present loose.maps held
  refine ⟨after, contents', ?_, intactAfter, ?_⟩
  · rw [queueMessage, makes, Option.bind_some, pushes, Option.bind_some, inserts]
  · rw [kept, keptPushed]
    refine holdsMade.enqueue loose has ?_ maps key keyed
    intro other
    rw [lists]
    by_cases same : other = queue
    · subst same
      rw [Function.update_self]
      exact Function.update_self _ _ _
    · rw [Function.update_of_ne same]
      exact Function.update_of_ne (by simpa using same) _ _

end Maps

/-! ## Dispatching -/

theorem lists_recycle (element : ε) (queue : MessageQueue Time) :
    ((contents.loosen element).pushBack .pool element).lists (.queue queue) =
      (contents.lists (.queue queue)).erase element := by
  rw [Contents.lists_pushBack_of_ne (by simp)]
  rfl

omit [DecidableEq Time] in
/-- Elements are taken out of the queues and of the map. -/
theorem Holds.remove
    (holds : Holds getObjectInstanceHandleForMessage message contents queued)
    {messageAfter : ε → Option Message}
    {queuedAfter : MessageQueue Time → List Message}
    (gone : List ε)
    (lists : ∀ queue, after.lists (.queue queue) =
      (contents.lists (.queue queue)).filter fun element => element ∉ gone)
    (maps : ∀ other, other ∈ after.maps () ↔
      other ∈ contents.maps () ∧ other ∉ gone)
    (key : ∀ other, other ∉ gone → after.key other = contents.key other)
    (kept : ∀ other, other ∉ gone → messageAfter other = message other)
    (messages : ∀ queue, ((contents.lists (.queue queue)).filter fun element =>
      element ∉ gone).map message = (queuedAfter queue).map some) :
    Holds getObjectInstanceHandleForMessage messageAfter after queuedAfter := by
  have mem_lists : ∀ queue other, other ∈ after.lists (.queue queue) ↔
      other ∈ contents.lists (.queue queue) ∧ other ∉ gone := by
    intro queue other
    rw [lists, List.mem_filter, decide_eq_true_eq]
  refine ⟨?_, ?_, ?_⟩
  · intro queue
    rw [← messages, lists]
    apply List.map_congr_left
    intro other member
    exact kept other (by simpa using (List.mem_filter.mp member).2)
  · intro other
    rw [maps, holds.mapped]
    constructor
    · rintro ⟨⟨queue, held, inside, has, isValid⟩, remains⟩
      exact ⟨queue, held, (mem_lists queue other).mpr ⟨inside, remains⟩,
        (kept other remains).trans has, isValid⟩
    · rintro ⟨queue, held, inside, has, isValid⟩
      obtain ⟨inside, remains⟩ := (mem_lists queue other).mp inside
      exact ⟨⟨queue, held, inside, (kept other remains).symm.trans has, isValid⟩,
        remains⟩
  · intro other member held has
    obtain ⟨inside, remains⟩ := (maps other).mp member
    rw [key other remains]
    exact holds.keyed other inside held ((kept other remains).symm.trans has)

/-- The first message of a queue is taken out. -/
theorem dispatchCallback_spec
    (intact : Intact hashing state.containers contents)
    (holds : Holds getObjectInstanceHandleForMessage state.message contents queued)
    {queue : MessageQueue Time}
    (waits : queued queue ≠ []) :
    ∃ after contents', state.dispatchCallback queue = some after ∧
      Intact hashing after.containers contents' ∧
      Holds getObjectInstanceHandleForMessage after.message contents'
        (Function.update queued queue (queued queue).tail) := by
  have messages := holds.messages queue
  rw [dispatchCallback, front_eq_head intact.list]
  cases elements : contents.lists (.queue queue) with
  | nil =>
      rw [elements] at messages
      exact absurd (List.map_eq_nil_iff.mp messages.symm) waits
  | cons element rest =>
      have member : element ∈ contents.lists (.queue queue) := by
        rw [elements]
        exact List.mem_cons_self
      obtain ⟨after, recycled, intactAfter, message⟩ :=
        recycle_spec intact (intact.list.exist _ element member)
      refine ⟨after, _, recycled, intactAfter, ?_⟩
      rw [message]
      refine holds.remove [element] ?_ ?_ ?_ ?_ ?_
      · intro other
        rw [lists_recycle, (intact.list.nodup _).erase_eq_filter]
        apply List.filter_congr
        intro another _
        by_cases same : another = element
        · simp [same]
        · simp [same]
      · intro other
        change other ∈ (contents.maps ()).erase element ↔ _
        rw [(intact.totalList.nodup ()).mem_erase_iff, List.mem_singleton, and_comm]
      · intro other different
        exact Function.update_of_ne (by simpa using different) _ _
      · intro other different
        exact Function.update_of_ne (by simpa using different) _ _
      · intro other
        by_cases same : other = queue
        · subst same
          have nodup := intact.list.nodup (.queue other)
          rw [elements] at nodup messages
          have notRest : element ∉ rest := (List.nodup_cons.mp nodup).1
          rw [Function.update_self, List.map_tail, ← messages, elements]
          have remains : (element :: rest).filter (fun other => other ∉ [element]) =
              rest := by
            rw [List.filter_cons_of_neg (by simp), List.filter_eq_self]
            intro other inside
            have different : other ≠ element := by
              rintro rfl
              exact notRest inside
            simpa using different
          rw [remains]
          rfl
        · rw [Function.update_of_ne same, ← holds.messages]
          have remains : (contents.lists (.queue other)).filter
              (fun other => other ∉ [element]) = contents.lists (.queue other) := by
            rw [List.filter_eq_self]
            intro another inside
            have different : another ≠ element := by
              rintro rfl
              cases intact.list.unique _ _ another member inside
              exact same rfl
            simpa using different
          rw [remains]

/-! ## The walk over an object instance -/

section Walk

variable [DecidableEq Handle]

/-- The walk takes out the elements with the handle, which stand together. -/
theorem eraseMessages_spec
    (intact : Intact hashing state.containers contents)
    {handle : Handle} {front group back : List ε}
    (split : contents.maps () = front ++ (group ++ back))
    (here : ∀ element ∈ group, contents.key element = handle)
    (behind : ∀ element ∈ back, contents.key element ≠ handle)
    {fuel : Nat}
    (enough : group.length < fuel) :
    ∃ after contents', state.eraseMessages handle fuel
        (HookRing.nodeAt () (group ++ back)) = some after ∧
      Intact hashing after.containers contents' ∧
      (∀ queue, contents'.lists (.queue queue) =
        (contents.lists (.queue queue)).filter fun element => element ∉ group) ∧
      contents'.maps () = front ++ back ∧
      (∀ other, other ∉ group → contents'.key other = contents.key other) ∧
      (∀ other, other ∉ group → after.message other = state.message other) := by
  induction group generalizing state contents fuel with
  | nil =>
      refine ⟨state, contents, ?_, intact, by simp, split, fun _ _ => rfl,
        fun _ _ => rfl⟩
      cases fuel with
      | zero => exact absurd enough (Nat.not_lt_zero _)
      | succ fuel =>
          cases back with
          | nil => rfl
          | cons element back =>
              have different : ¬ state.containers.key element = handle := by
                rw [intact.key]
                exact behind element List.mem_cons_self
              rw [List.nil_append, HookRing.nodeAt, eraseMessages, if_neg different]
  | cons element group ih =>
      cases fuel with
      | zero => exact absurd enough (Nat.not_lt_zero _)
      | succ fuel =>
          have same : state.containers.key element = handle := by
            rw [intact.key]
            exact here element List.mem_cons_self
          have nodup := intact.totalList.nodup ()
          have member : element ∈ contents.maps () := by
            rw [split]
            simp
          rw [split] at nodup
          have notFront : element ∉ front := by grind
          have notRest : element ∉ group ++ back := by grind
          obtain ⟨between, recycled, intactBetween, message⟩ :=
            recycle_spec intact (intact.totalList.exist () element member)
          have key : ∀ other, other ≠ element →
              ((contents.loosen element).pushBack .pool element).key other =
                contents.key other :=
            fun other different => Function.update_of_ne different _ _
          have differs : ∀ other ∈ group ++ back, other ≠ element := by
            rintro other inside rfl
            exact notRest inside
          obtain ⟨after, contents', walked, intactAfter, lists, maps, keys, messages⟩ :=
            @ih between _ intactBetween
              (by
                change (contents.maps ()).erase element = _
                rw [split, List.cons_append,
                  List.erase_append_right _ notFront, List.erase_cons_head])
              (fun other inside => by
                rw [key other (differs other (List.mem_append_left _ inside))]
                exact here other (List.mem_cons_of_mem _ inside))
              (fun other inside => by
                rw [key other (differs other (List.mem_append_right _ inside))]
                exact behind other inside)
              fuel (Nat.lt_of_succ_lt_succ enough)
          refine ⟨after, contents', ?_, intactAfter, ?_, maps, ?_, ?_⟩
          · rw [List.cons_append, HookRing.nodeAt, eraseMessages, if_pos same,
              recycled, Option.bind_some, increment,
              intact.totalList.next_element split]
            exact walked
          · intro queue
            rw [lists, lists_recycle, (intact.list.nodup _).erase_eq_filter,
              List.filter_filter]
            apply List.filter_congr
            intro other _
            by_cases equal : other = element
            · simp [equal]
            · simp [equal]
          · intro other outside
            rw [List.mem_cons, not_or] at outside
            rw [keys other outside.2, key other outside.1]
          · intro other outside
            rw [List.mem_cons, not_or] at outside
            rw [messages other outside.2, message,
              Function.update_of_ne outside.1]

/-- A message for an object instance. -/
def isFor
    (getObjectInstanceHandleForMessage : Message → Handle)
    (handle : Handle)
    (message : Message) : Bool :=
  decide (valid handle ∧ getObjectInstanceHandleForMessage message = handle)

/-- All messages for an object instance are taken out of the queues, and no others. -/
theorem eraseMessagesForObjectInstance_spec
    (intact : Intact hashing state.containers contents)
    (holds : Holds getObjectInstanceHandleForMessage state.message contents queued)
    (positive : 0 < hashing.numBuckets ())
    (handle : Handle) :
    ∃ after contents', state.eraseMessagesForObjectInstance hashing handle =
        some after ∧
      Intact hashing after.containers contents' ∧
      Holds getObjectInstanceHandleForMessage after.message contents'
        (fun queue => (queued queue).filter fun held =>
          !isFor getObjectInstanceHandleForMessage handle held) := by
  obtain ⟨index, indexed⟩ := exists_index positive handle
  obtain ⟨front, group, back, split, notFront, here, notBack, found⟩ :=
    (intact.grouped ()).exists_split handle
  have enough : group.length < state.containers.steps := by
    have bound := intact.totalList.length_le ()
    rw [split, List.length_append, List.length_append] at bound
    rw [Containers.steps, intact.elements]
    omega
  obtain ⟨after, contents', walked, intactAfter, lists, maps, key, message⟩ :=
    eraseMessages_spec intact split here notBack enough
  have mem_group : ∀ element, element ∈ group ↔
      element ∈ contents.maps () ∧ contents.key element = handle := by
    intro element
    rw [split, List.mem_append, List.mem_append]
    constructor
    · exact fun member => ⟨Or.inr (Or.inl member), here element member⟩
    · rintro ⟨member | member | member, same⟩
      · exact absurd same (notFront element member)
      · exact member
      · exact absurd same (notBack element member)
  refine ⟨after, contents', ?_, intactAfter,
    holds.remove group lists ?_ key message ?_⟩
  · rw [eraseMessagesForObjectInstance, intact.find indexed, Option.bind_some, found,
      ← HookRing.nodeAt_eq_foundAt, walked]
  · intro other
    have nodup := intact.totalList.nodup ()
    rw [split] at nodup
    rw [maps, split]
    grind
  · intro queue
    -- The elements of the group are those with a message for the object instance.
    have selects : (contents.lists (.queue queue)).filter
          (fun element => element ∉ group) =
        (contents.lists (.queue queue)).filter
          ((fun held => held.all fun held =>
            !isFor getObjectInstanceHandleForMessage handle held) ∘ state.message) := by
      apply List.filter_congr
      intro element inside
      obtain ⟨held, has, _⟩ := holds.exists_message inside
      rw [Function.comp_apply, has, Option.all_some, isFor, ← decide_not,
        decide_eq_decide, not_iff_not, mem_group]
      constructor
      · rintro ⟨member, same⟩
        have keyed := holds.keyed element member held has
        obtain ⟨_, carried, _, carries, isValid⟩ := (holds.mapped element).mp member
        cases has.symm.trans carries
        rw [← keyed, same] at isValid
        exact ⟨isValid, keyed.symm.trans same⟩
      · rintro ⟨isValid, same⟩
        have member := (holds.mapped element).mpr
          ⟨queue, held, inside, has, by rw [same]; exact isValid⟩
        exact ⟨member, (holds.keyed element member held has).trans same⟩
    rw [selects, ← List.filter_map, holds.messages, List.filter_map]
    rfl

end Walk

/-! ## Runs -/

section Runs

variable [DecidableEq Handle]

/-- The messages of the queues after a call. -/
def queuedAfter
    (getObjectInstanceHandleForMessage : Message → Handle)
    (queued : MessageQueue Time → List Message) :
    Call Time ε Handle Message → MessageQueue Time → List Message
  | .queueTimeStampedMessage logicalTime message _ =>
      Function.update queued (.timeStamped logicalTime)
        (queued (.timeStamped logicalTime) ++ [message])
  | .queueReceiveOrderMessage message _ =>
      Function.update queued .receiveOrder (queued .receiveOrder ++ [message])
  | .dispatchCallback queue =>
      Function.update queued queue (queued queue).tail
  | .eraseMessagesForObjectInstance handle => fun queue =>
      (queued queue).filter fun message =>
        !isFor getObjectInstanceHandleForMessage handle message

/-- A new element is at a new place, and a queue is dispatched from if it has
messages. -/
def Permitted
    (state : QueueState Time ε Handle Message)
    (queued : MessageQueue Time → List Message) : Call Time ε Handle Message → Prop
  | .queueTimeStampedMessage _ _ fresh
  | .queueReceiveOrderMessage _ fresh => fresh ∉ state.containers.elements
  | .dispatchCallback queue => queued queue ≠ []
  | .eraseMessagesForObjectInstance _ => True

/-- The states of a run, with the messages that are to be in the queues. -/
inductive Reached
    (hashing : Hashing Unit Handle)
    (getObjectInstanceHandleForMessage : Message → Handle) :
    QueueState Time ε Handle Message → (MessageQueue Time → List Message) → Prop
  | start (key : ε → Handle) :
      Reached hashing getObjectInstanceHandleForMessage (.initial key) fun _ => []
  | step
      {before after : QueueState Time ε Handle Message}
      {queued : MessageQueue Time → List Message}
      {call : Call Time ε Handle Message}
      (reached : Reached hashing getObjectInstanceHandleForMessage before queued)
      (permitted : before.Permitted queued call)
      (performed : before.perform hashing getObjectInstanceHandleForMessage call =
        some after) :
      Reached hashing getObjectInstanceHandleForMessage after
        (queuedAfter getObjectInstanceHandleForMessage queued call)

/-- The queues have these messages in order. -/
def Shows
    (hashing : Hashing Unit Handle)
    (state : QueueState Time ε Handle Message)
    (queued : MessageQueue Time → List Message) : Prop :=
  ∃ contents, Intact hashing state.containers contents ∧
    ∀ queue, (contents.lists (.queue queue)).map state.message =
      (queued queue).map some

theorem perform_spec
    (intact : Intact hashing state.containers contents)
    (holds : Holds getObjectInstanceHandleForMessage state.message contents queued)
    (positive : 0 < hashing.numBuckets ())
    {call : Call Time ε Handle Message}
    (permitted : state.Permitted queued call) :
    ∃ after contents', state.perform hashing getObjectInstanceHandleForMessage call =
        some after ∧
      Intact hashing after.containers contents' ∧
      Holds getObjectInstanceHandleForMessage after.message contents'
        (queuedAfter getObjectInstanceHandleForMessage queued call) := by
  cases call with
  | queueTimeStampedMessage logicalTime message fresh =>
      have isFresh : fresh ∉ contents.elements := intact.elements ▸ permitted
      exact queueMessage_spec intact holds positive isFresh _ message
  | queueReceiveOrderMessage message fresh =>
      have isFresh : fresh ∉ contents.elements := intact.elements ▸ permitted
      exact queueMessage_spec intact holds positive isFresh _ message
  | dispatchCallback queue => exact dispatchCallback_spec intact holds permitted
  | eraseMessagesForObjectInstance handle =>
      exact eraseMessagesForObjectInstance_spec intact holds positive handle

/-- The elements of the queues have the messages of the reference in all states. -/
theorem Reached.holds
    (reached : Reached hashing getObjectInstanceHandleForMessage state queued)
    (positive : 0 < hashing.numBuckets ()) :
    ∃ contents, Intact hashing state.containers contents ∧
      Holds getObjectInstanceHandleForMessage state.message contents queued := by
  induction reached with
  | start key =>
      refine ⟨.initial key, intact_initial key, fun _ => rfl, ?_, ?_⟩
      · intro element
        simp [Contents.initial]
      · intro element member
        exact absurd member List.not_mem_nil
  | step _ permitted performed ih =>
      obtain ⟨contents, intact, holds⟩ := ih
      obtain ⟨after, contents', defined, intactAfter, holdsAfter⟩ :=
        perform_spec intact holds positive permitted
      cases performed.symm.trans defined
      exact ⟨contents', intactAfter, holdsAfter⟩

/-- The queues have the messages of the reference now, and after each call.  A walk
over an object instance takes out all messages for it. -/
structure Correct
    (hashing : Hashing Unit Handle)
    (getObjectInstanceHandleForMessage : Message → Handle)
    (state : QueueState Time ε Handle Message)
    (queued : MessageQueue Time → List Message) : Prop where
  shows : Shows hashing state queued
  performs : ∀ call, state.Permitted queued call →
    ∃ after, state.perform hashing getObjectInstanceHandleForMessage call =
        some after ∧
      Shows hashing after
        (queuedAfter getObjectInstanceHandleForMessage queued call)

theorem Reached.correct
    (reached : Reached hashing getObjectInstanceHandleForMessage state queued)
    (positive : 0 < hashing.numBuckets ()) :
    Correct hashing getObjectInstanceHandleForMessage state queued := by
  obtain ⟨contents, intact, holds⟩ := reached.holds positive
  refine ⟨⟨contents, intact, holds.messages⟩, ?_⟩
  intro call permitted
  obtain ⟨after, contents', defined, intactAfter, holdsAfter⟩ :=
    perform_spec intact holds positive permitted
  exact ⟨after, defined, contents', intactAfter, holdsAfter.messages⟩

end Runs

end QueueState

/-! ## Containers and queues -/

/-- The containers are correct in all states of all runs, and the walks over object
instances take out all messages for them, exactly if each map has a bucket. -/
theorem containers_correct_iff
    {κ μ ε Key Time Handle Message : Type*}
    [DecidableEq κ] [DecidableEq μ] [DecidableEq ε] [DecidableEq Key] [Inhabited Key]
    [DecidableEq Time] [DecidableEq Handle] [Inhabited Handle]
    (hashing : Hashing μ Key)
    (handleHashing : Hashing Unit Handle)
    (getObjectInstanceHandleForMessage : Message → Handle) :
    ((∀ (state : Containers κ μ ε Key) contents,
        Reached hashing state contents → Correct hashing state contents) ∧
      ∀ (state : QueueState Time ε Handle Message) queued,
        QueueState.Reached handleHashing getObjectInstanceHandleForMessage state
            queued →
          QueueState.Correct handleHashing getObjectInstanceHandleForMessage state
            queued) ↔
      (∀ map, 0 < hashing.numBuckets map) ∧ 0 < handleHashing.numBuckets () := by
  constructor
  · rintro ⟨maps, queues⟩
    constructor
    · intro map
      by_contra without
      have finds := (maps _ _ (.start fun _ => default)).finds map default
      rw [find_of_not_positive without] at finds
      cases finds
    · by_contra without
      obtain ⟨after, defined, _⟩ := (queues _ _ (.start fun _ => default)).performs
        (.eraseMessagesForObjectInstance default) trivial
      rw [QueueState.perform, QueueState.eraseMessagesForObjectInstance,
        find_of_not_positive without] at defined
      cases defined
  · rintro ⟨positive, positiveHandles⟩
    constructor
    · intro state contents reached
      exact (reached.intact positive).correct positive
    · intro state queued reached
      exact reached.correct positiveHandles

/-- An element cannot be inserted into a map that was made by the copy constructor. -/
theorem containers_correct_fails_copied :
    ∃ (state : Containers Unit Unit Nat Nat) (contents : _),
      Reached (.copied fun key => key) state contents ∧
        contents.Permitted (.insertMap () 0) ∧
        state.perform (.copied fun key => key) (.insertMap () 0) = none ∧
        ¬ Correct (.copied fun key => key) state contents := by
  have fresh : (.initial fun _ => 0 : Contents Unit Unit Nat Nat).Permitted
      (.construct 0 7) := Finset.notMem_empty 0
  have reached : Reached (Hashing.copied fun key => key)
      ((.initial fun _ => 0 : Containers Unit Unit Nat Nat).construct 0 7)
      ((.initial fun _ => 0 : Contents Unit Unit Nat Nat).construct 0 7) :=
    .step (.start fun _ => 0) fresh rfl
  have permitted : ((.initial fun _ => 0 : Contents Unit Unit Nat Nat).construct
      0 7).Permitted (.insertMap () 0) :=
    ⟨Finset.mem_insert_self _ _, fun _ => List.not_mem_nil⟩
  have undefined : ((.initial fun _ => 0 : Containers Unit Unit Nat Nat).construct
      0 7).perform (Hashing.copied fun key => key) (.insertMap () 0) = none := rfl
  refine ⟨_, _, reached, permitted, undefined, ?_⟩
  intro correct
  have defined := correct.performs _ permitted
  rw [undefined] at defined
  cases defined

end Containers
end OpenRTI
