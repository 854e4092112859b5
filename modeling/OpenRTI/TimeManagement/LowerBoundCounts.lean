import Mathlib.Data.Finset.Card
import Mathlib.Order.Bounds.Basic
import Mathlib.Order.Lattice
import OpenRTI.Foundation.TransitionSystem
import OpenRTI.TimeManagement.FederateHandleLowerBoundTimeStampMap

/-!
# What the count maps hold

The count maps cover the commits by construction.  Over the runs that insert,
erase and commit they hold no more than that.  What the federates hold is
followed beside the runs, from the changes alone: a time is entered if and only
if some federate holds it, with the number of those federates.
-/

namespace OpenRTI
namespace TimeManagement

open Foundation

variable {T : Type*} [LinearOrder T]

variable {least : T}

namespace LogicalTimeFederateCountMap

/-! ## The least time -/

/-- The least time is the counted one below all others. -/
theorem begin?_eq_some_iff
    {self : LogicalTimeFederateCountMap T} :
    self.begin? = some least ↔
      0 < self.count least ∧
        ∀ logicalTime, 0 < self.count logicalTime → least ≤ logicalTime := by
  constructor
  · intro isLeast
    exact ⟨count_begin? isLeast, fun _ counted => begin?_le isLeast counted⟩
  · intro ⟨counted, below⟩
    cases first : self.begin? with
    | none => exact absurd first (begin?_ne_none counted)
    | some other =>
        have lower := begin?_le first counted
        have upper := below other (count_begin? first)
        rw [le_antisymm lower upper]

variable (self : LogicalTimeFederateCountMap T)

/-- The times are entered with their counts. -/
theorem find?_eq
    (logicalTime : T) :
    self.countMap.find? logicalTime =
      if self.count logicalTime = 0 then none
      else some (self.count logicalTime) := by
  rw [count]
  cases found : self.countMap.find? logicalTime with
  | none => rfl
  | some count =>
      have positive := self.positive logicalTime count found
      rw [Option.getD_some, if_neg positive.ne']

variable {oldTime : T}

/-- Counts after a move to another time. -/
theorem count_move_of_ne
    {logicalTime : T}
    (different : logicalTime ≠ oldTime)
    (other : T) :
    (self.move oldTime logicalTime).1.count other =
      (self.count other + if other = logicalTime then 1 else 0) -
        if other = oldTime then 1 else 0 := by
  rw [move, if_neg different]
  dsimp only
  rw [count_decrement, count_insert]

/-- A move tells whether it removed the least time, and it does so if and only
if the least time increases. -/
theorem move_snd_iff
    {logicalTime later : T}
    (counted : 0 < self.count oldTime)
    (isLeast : self.begin? = some least)
    (isLater : (self.move oldTime logicalTime).1.begin? = some later) :
    (self.move oldTime logicalTime).2 = true ↔ least < later := by
  by_cases same : logicalTime = oldTime
  · have unmoved : self.move oldTime logicalTime = (self, false) := if_pos same
    rw [unmoved] at isLater ⊢
    rw [isLeast] at isLater
    injection isLater with equal
    rw [equal]
    simp
  have moved := self.count_move_of_ne same
  have below := (begin?_eq_some_iff.mp isLeast).2
  have aboveLeast := (begin?_eq_some_iff.mp isLeast).1
  have belowMoved := (begin?_eq_some_iff.mp isLater).2
  have aboveLater := (begin?_eq_some_iff.mp isLater).1
  have entered := self.count_insert logicalTime
  have flag : (self.move oldTime logicalTime).2 = true ↔
      self.count oldTime = 1 ∧
        (self.insert logicalTime).begin? = some oldTime := by
    rw [move, if_neg same]
    dsimp only
    unfold isFirstLogicalTime
    rw [decide_eq_true_iff, entered, if_neg (Ne.symm same)]
    exact and_congr_left fun _ => by omega
  rw [flag, begin?_eq_some_iff]
  constructor
  · intro ⟨single, _, first⟩
    -- the old time was the least one, and the new least time is another one
    have old : least = oldTime := by
      refine le_antisymm (below oldTime counted) (first least ?_)
      rw [entered]
      omega
    have different : later ≠ oldTime := by
      intro equal
      rw [equal, moved, if_pos rfl, if_neg (Ne.symm same)] at aboveLater
      omega
    rw [old]
    refine lt_of_le_of_ne (first later ?_) different.symm
    rw [moved] at aboveLater
    rw [entered]
    omega
  · intro increased
    have gone : ¬ 0 < (self.move oldTime logicalTime).1.count least :=
      fun stays => (belowMoved least stays).not_gt increased
    have old : least = oldTime := by
      by_contra other
      rw [moved, if_neg other] at gone
      omega
    rw [old] at gone increased below
    rw [moved, if_pos rfl, if_neg (Ne.symm same)] at gone
    refine ⟨by omega, ?_, ?_⟩
    · rw [entered]
      omega
    · intro other present
      rw [entered] at present
      by_cases new : other = logicalTime
      · have stays := belowMoved other (by
          rw [moved, if_pos new, if_neg (new ▸ same)]
          omega)
        exact (increased.trans_le stays).le
      · rw [if_neg new] at present
        exact below other (by omega)

/-- The time that is moved to is counted. -/
theorem count_move_pos
    (counted : 0 < self.count oldTime)
    (logicalTime : T) :
    0 < (self.move oldTime logicalTime).1.count logicalTime := by
  have moved := self.count_move oldTime logicalTime logicalTime counted
  rw [if_pos rfl] at moved
  split at moved
  next same =>
    rw [← same] at counted
    omega
  next => omega

/-- A move tells whether it raises the least time. -/
theorem move_raises_iff
    (counted : 0 < self.count oldTime)
    (logicalTime : T) :
    (self.move oldTime logicalTime).2 = true ↔
      ∃ least later, self.begin? = some least ∧
        (self.move oldTime logicalTime).1.begin? = some later ∧
        least < later := by
  obtain ⟨least, isLeast⟩ :=
    Option.ne_none_iff_exists'.mp (begin?_ne_none counted)
  obtain ⟨later, isLater⟩ := Option.ne_none_iff_exists'.mp
    (begin?_ne_none (self.count_move_pos counted logicalTime))
  rw [self.move_snd_iff counted isLeast isLater, isLeast, isLater]
  simp

/-! ## Entries of the source

The source enters a new time with no federate before it increments the count,
and compares the positions of entries in the map.  A position is the time that
is entered there. -/

section Entries

variable (countMap : OrderedMap T Nat)

def insertEntry (logicalTime : T) : OrderedMap T Nat :=
  (countMap.insert logicalTime 0).alter logicalTime (Option.map (· + 1))

/-- Decrement the count of an entry, and erase the entry when none is left. -/
def eraseEntry (entry : T) : OrderedMap T Nat × Bool :=
  let decremented := countMap.alter entry (Option.map (· - 1))
  if decremented.find? entry ≠ some 0 then (decremented, false)
  else
    (decremented.erase entry, decremented.begin?.map Prod.fst = some entry)

def moveEntry (oldEntry logicalTime : T) : OrderedMap T Nat × Bool :=
  let entered := countMap.insert logicalTime 0
  if logicalTime = oldEntry then (entered, false)
  else
    eraseEntry (entered.alter logicalTime (Option.map (· + 1))) oldEntry

end Entries

theorem insertEntry_countMap
    (logicalTime : T) :
    insertEntry self.countMap logicalTime = (self.insert logicalTime).countMap := by
  refine OrderedMap.eq_of_find? ?_
  intro other
  rw [insertEntry, insert, OrderedMap.find?_alter, OrderedMap.find?_alter,
    OrderedMap.find?_insert, OrderedMap.find?_insert]
  split
  next => rw [if_pos rfl]; rfl
  next => rfl

theorem eraseEntry_countMap
    {entry : T}
    (counted : 0 < self.count entry) :
    eraseEntry self.countMap entry =
      ((self.erase entry).1.countMap, (self.erase entry).2) := by
  have held := self.find?_eq entry
  rw [if_neg counted.ne'] at held
  have decremented :
      (self.countMap.alter entry (Option.map (· - 1))).find? entry =
        some (self.count entry - 1) := by
    rw [OrderedMap.find?_alter, if_pos rfl, held]
    rfl
  rw [eraseEntry, decremented, erase, decrement]
  dsimp only
  split
  next left =>
    have stays : self.count entry - 1 ≠ 0 := fun none =>
      left (congrArg some none)
    have flag : self.isFirstLogicalTime entry = false :=
      decide_eq_false fun first => stays first.1
    rw [flag]
    refine Prod.ext (OrderedMap.eq_of_find? ?_) rfl
    intro other
    rw [OrderedMap.find?_alter, OrderedMap.find?_alter, held]
    split
    next => exact (if_pos stays).symm
    next => rfl
  next nothing =>
    have last : self.count entry - 1 = 0 := by simpa using nothing
    have first :
        (self.countMap.alter entry (Option.map (· - 1))).begin?.map Prod.fst =
          self.countMap.begin?.map Prod.fst := by
      refine OrderedMap.begin?_fst_congr ?_
      intro other
      rw [OrderedMap.find?_alter]
      split
      next same =>
        rw [same, held]
        simp
      next => rfl
    refine Prod.ext (OrderedMap.eq_of_find? ?_) ?_
    · intro other
      rw [OrderedMap.find?_erase, OrderedMap.find?_alter,
        OrderedMap.find?_alter, held]
      split
      next => exact (if_neg (not_not_intro last)).symm
      next => rfl
    · dsimp only
      unfold isFirstLogicalTime begin?
      rw [first, last]
      simp

theorem moveEntry_countMap
    {oldEntry : T}
    (counted : 0 < self.count oldEntry)
    (logicalTime : T) :
    moveEntry self.countMap oldEntry logicalTime =
      ((self.move oldEntry logicalTime).1.countMap,
        (self.move oldEntry logicalTime).2) := by
  rw [moveEntry, move]
  dsimp only
  split
  next same =>
    refine Prod.ext (OrderedMap.eq_of_find? ?_) rfl
    intro other
    have held := self.find?_eq oldEntry
    rw [if_neg counted.ne'] at held
    rw [same, OrderedMap.find?_insert, held]
    split
    next equal => rw [equal, held]; rfl
    next => rfl
  next different =>
    have entered := self.insertEntry_countMap logicalTime
    rw [insertEntry] at entered
    rw [entered]
    refine (self.insert logicalTime).eraseEntry_countMap ?_
    rw [count_insert]
    omega

end LogicalTimeFederateCountMap

/-! ## Exact counts -/

/-- The two times of a commit. -/
def Commit.times (commit : Commit T) : T × T :=
  (commit.timeAdvanceCommit, commit.nextMessageCommit)

/-- The federates that have committed a time. -/
def committing
    (commits : OrderedMap FederateHandle (Commit T))
    (time : Commit T → T)
    (logicalTime : T) : List FederateHandle :=
  (commits.entries.filter fun entry => logicalTime = time entry.2).map Prod.fst

/-- The committed times. -/
def committed
    (commits : OrderedMap FederateHandle (Commit T))
    (time : Commit T → T) : Set T :=
  {logicalTime | ∃ federateHandle commit,
    commits.find? federateHandle = some commit ∧ time commit = logicalTime}

theorem mem_committing
    {commits : OrderedMap FederateHandle (Commit T)} {time : Commit T → T}
    {logicalTime : T} {federateHandle : FederateHandle} :
    federateHandle ∈ committing commits time logicalTime ↔
      ∃ commit, commits.find? federateHandle = some commit ∧
        time commit = logicalTime := by
  rw [committing, List.mem_map]
  constructor
  · rintro ⟨⟨_, commit⟩, member, rfl⟩
    obtain ⟨member, same⟩ := List.mem_filter.mp member
    exact ⟨commit, OrderedMap.find?_eq_some_iff.mpr member,
      (of_decide_eq_true same).symm⟩
  · intro ⟨commit, found, same⟩
    refine ⟨(federateHandle, commit), List.mem_filter.mpr ⟨?_, ?_⟩, rfl⟩
    · exact OrderedMap.find?_eq_some_iff.mp found
    · exact decide_eq_true same.symm

/-- Each federate is listed once. -/
theorem committing_nodup
    (commits : OrderedMap FederateHandle (Commit T)) (time : Commit T → T)
    (logicalTime : T) :
    (committing commits time logicalTime).Nodup := by
  refine List.Pairwise.map Prod.fst (fun _ _ => LT.lt.ne) ?_
  exact commits.ordered.filter _

/-- The sum over the commits counts the federates. -/
theorem sum_committedAt
    (commits : OrderedMap FederateHandle (Commit T)) (time : Commit T → T)
    (logicalTime : T) :
    commits.sum (committedAt time logicalTime) =
      (committing commits time logicalTime).length := by
  rw [committing, List.length_map, OrderedMap.sum]
  induction commits.entries with
  | nil => rfl
  | cons entry rest ih =>
      rw [List.map_cons, List.sum_cons, ih, committedAt,
        List.filter_cons]
      split
      next same =>
        rw [if_pos (decide_eq_true same), List.length_cons, Nat.add_comm]
      next different =>
        rw [if_neg (by simpa using different), Nat.zero_add]

/-- A time is counted if and only if it is committed. -/
theorem sum_committedAt_pos_iff
    {commits : OrderedMap FederateHandle (Commit T)} {time : Commit T → T}
    {logicalTime : T} :
    0 < commits.sum (committedAt time logicalTime) ↔
      logicalTime ∈ committed commits time := by
  rw [sum_committedAt, List.length_pos_iff_exists_mem]
  exact exists_congr fun _ => mem_committing

namespace FederateHandleLowerBoundTimeStampMap

/-- No count map counts more than the commits. -/
structure Exact (bounds : FederateHandleLowerBoundTimeStampMap T) : Prop where
  timeAdvance :
    ∀ logicalTime,
      bounds.timeAdvanceLogicalTimeFederateCountMap.count logicalTime =
        bounds.federateHandleCommitMap.sum
          (committedAt (·.timeAdvanceCommit) logicalTime)
  nextMessage :
    ∀ logicalTime,
      bounds.nextMessageLogicalTimeFederateCountMap.count logicalTime =
        bounds.federateHandleCommitMap.sum
          (committedAt (·.nextMessageCommit) logicalTime)

section Counts

variable
  {commits : OrderedMap FederateHandle (Commit T)}
  {counts : LogicalTimeFederateCountMap T}
  {time : Commit T → T}
  {federateHandle : FederateHandle}
  (exactly : ∀ logicalTime,
    counts.count logicalTime = commits.sum (committedAt time logicalTime))

include exactly

theorem count_eq_sum_insert
    (absent : commits.find? federateHandle = none)
    (commit : Commit T) (logicalTime : T) :
    (counts.insert (time commit)).count logicalTime =
      (commits.insert federateHandle commit).sum
        (committedAt time logicalTime) := by
  have summed := commits.sum_alter (committedAt time logicalTime)
    federateHandle fun present => some (present.getD commit)
  rw [absent, OrderedMap.weightOf_none, Option.getD_none,
    OrderedMap.weightOf_some, committedAt] at summed
  rw [LogicalTimeFederateCountMap.count_insert, exactly]
  exact summed.symm

theorem count_eq_sum_erase
    {commit : Commit T}
    (found : commits.find? federateHandle = some commit)
    (logicalTime : T) :
    (counts.decrement (time commit)).count logicalTime =
      (commits.erase federateHandle).sum (committedAt time logicalTime) := by
  have erased := commits.sum_erase (committedAt time logicalTime)
    federateHandle
  rw [found, OrderedMap.weightOf_some, committedAt] at erased
  rw [LogicalTimeFederateCountMap.count_decrement, exactly]
  omega

theorem count_eq_sum_set
    {commit : Commit T}
    (found : commits.find? federateHandle = some commit)
    (changed : Commit T) (logicalTime : T) :
    (counts.move (time commit) (time changed)).1.count logicalTime =
      (commits.set federateHandle changed).sum
        (committedAt time logicalTime) := by
  have entered := commits.sum_set (committedAt time logicalTime)
    federateHandle changed
  have moved := counts.count_move (time commit) (time changed) logicalTime
    (counted_pos (fun other => (exactly other).ge) found)
  rw [found, OrderedMap.weightOf_some, committedAt, committedAt] at entered
  rw [exactly] at moved
  omega

/-- The least counted time is the least committed one. -/
theorem begin?_eq_some_iff_isLeast :
    counts.begin? = some least ↔ IsLeast (committed commits time) least := by
  rw [LogicalTimeFederateCountMap.begin?_eq_some_iff, exactly,
    sum_committedAt_pos_iff]
  refine and_congr_right fun _ => forall_congr' fun logicalTime => ?_
  rw [exactly, sum_committedAt_pos_iff]

/-- A time stays within the least bound if it does so for all federates. -/
theorem staysWithin_iff
    {logicalTime : T} {second : Int} :
    staysWithin counts.begin? logicalTime second = true ↔
      ∀ federateHandle commit,
        commits.find? federateHandle = some commit →
          if 0 < second then logicalTime < time commit
          else logicalTime ≤ time commit := by
  cases first : counts.begin? with
  | none =>
      refine iff_of_true rfl ?_
      intro federateHandle commit found
      exact absurd first (LogicalTimeFederateCountMap.begin?_ne_none
        (counted_pos (fun other => (exactly other).ge) found))
  | some least =>
      obtain ⟨⟨federateHandle, commit, found, rfl⟩, below⟩ :=
        (begin?_eq_some_iff_isLeast exactly).mp first
      have lower : ∀ other commit', commits.find? other = some commit' →
          time commit ≤ time commit' :=
        fun other commit' found' => below ⟨other, commit', found', rfl⟩
      rw [staysWithin]
      split
      · rw [decide_eq_true_iff]
        exact ⟨fun within other commit' found' =>
          within.trans_le (lower other commit' found'),
          fun all => all federateHandle commit found⟩
      · rw [decide_eq_true_iff]
        exact ⟨fun within other commit' found' =>
          within.trans (lower other commit' found'),
          fun all => all federateHandle commit found⟩

end Counts

variable {self after : FederateHandleLowerBoundTimeStampMap T}
variable {commitType : LowerBoundTimeStampCommitType} {commitId : Unsigned}
variable {flags : Bool × Bool}

/-- A time advance commit moves the federate in the count map of the time
advance commits and tells what the move tells. -/
theorem commit_moved
    {federateHandle : FederateHandle} {commit : Commit T}
    (found : self.find? federateHandle = some commit)
    {logicalTime : T}
    (timeAdvance : commitType.timeAdvance = true)
    (committed : self.commit federateHandle logicalTime commitType commitId =
      some (after, flags)) :
    after.timeAdvanceLogicalTimeFederateCountMap =
        (self.timeAdvanceLogicalTimeFederateCountMap.move
          commit.timeAdvanceCommit logicalTime).1 ∧
      flags.1 = (self.timeAdvanceLogicalTimeFederateCountMap.move
        commit.timeAdvanceCommit logicalTime).2 := by
  unfold FederateHandleLowerBoundTimeStampMap.commit at committed
  split at committed
  next => cases committed
  next other held =>
    rw [found] at held
    injection held with equal
    subst equal
    injection committed with same
    injection same with changed known
    rw [← changed, ← known, timeAdvance, Bool.true_and]
    refine ⟨?_, rfl⟩
    simp only [setCommit, Commit.update, if_pos timeAdvance]

/-- A time advance commit moves the federate's entry as the source does. -/
theorem moveEntry_commit
    {federateHandle : FederateHandle} {commit : Commit T}
    (found : self.find? federateHandle = some commit)
    {logicalTime : T}
    (timeAdvance : commitType.timeAdvance = true)
    (committed : self.commit federateHandle logicalTime commitType commitId =
      some (after, flags)) :
    LogicalTimeFederateCountMap.moveEntry
        self.timeAdvanceLogicalTimeFederateCountMap.countMap
        commit.timeAdvanceCommit logicalTime =
      (after.timeAdvanceLogicalTimeFederateCountMap.countMap, flags.1) := by
  have counted : 0 < self.timeAdvanceLogicalTimeFederateCountMap.count
      commit.timeAdvanceCommit := counted_pos self.timeAdvanceCounted found
  obtain ⟨moved, known⟩ := commit_moved found timeAdvance committed
  rw [moved, known]
  exact LogicalTimeFederateCountMap.moveEntry_countMap _ counted logicalTime

/-- A time advance commit tells whether it raises the least bound. -/
theorem commit_advances_iff
    {federateHandle : FederateHandle} {commit : Commit T}
    (found : self.find? federateHandle = some commit)
    {logicalTime : T}
    (timeAdvance : commitType.timeAdvance = true)
    (committed : self.commit federateHandle logicalTime commitType commitId =
      some (after, flags)) :
    flags.1 = true ↔
      ∃ before later, self.getGALT = some before ∧
        after.getGALT = some later ∧ before < later := by
  have counted : 0 < self.timeAdvanceLogicalTimeFederateCountMap.count
      commit.timeAdvanceCommit := counted_pos self.timeAdvanceCounted found
  obtain ⟨moved, known⟩ := commit_moved found timeAdvance committed
  rw [known, getGALT, getGALT, moved]
  exact LogicalTimeFederateCountMap.move_raises_iff _ counted logicalTime

namespace Exact

theorem empty : Exact (∅ : FederateHandleLowerBoundTimeStampMap T) where
  timeAdvance _ := rfl
  nextMessage _ := rfl

theorem insert
    (exactly : self.Exact)
    {federateHandle : FederateHandle}
    (absent : self.find? federateHandle = none)
    (logicalTime nextMessageTime : T)
    (commitId beforeOwnCommitId : Unsigned) :
    (self.insert federateHandle logicalTime nextMessageTime commitId
      beforeOwnCommitId).Exact where
  timeAdvance := count_eq_sum_insert exactly.timeAdvance absent
    ⟨logicalTime, nextMessageTime, commitId, beforeOwnCommitId, false⟩
  nextMessage := count_eq_sum_insert exactly.nextMessage absent
    ⟨logicalTime, nextMessageTime, commitId, beforeOwnCommitId, false⟩

theorem setCommit
    (exactly : self.Exact)
    {federateHandle : FederateHandle} {commit changed : Commit T}
    (found : self.find? federateHandle = some commit) :
    (self.setCommit federateHandle commit changed found).Exact where
  timeAdvance := count_eq_sum_set exactly.timeAdvance found _
  nextMessage := count_eq_sum_set exactly.nextMessage found _

theorem erase
    (exactly : self.Exact) (federateHandle : FederateHandle) :
    (self.erase federateHandle).1.Exact := by
  unfold FederateHandleLowerBoundTimeStampMap.erase
  split
  next => exact exactly
  next commit found =>
    exact ⟨count_eq_sum_erase exactly.timeAdvance found,
      count_eq_sum_erase exactly.nextMessage found⟩

theorem commit
    (exactly : self.Exact)
    {federateHandle : FederateHandle} {logicalTime : T}
    (committed : self.commit federateHandle logicalTime commitType commitId =
      some (after, flags)) :
    after.Exact := by
  unfold FederateHandleLowerBoundTimeStampMap.commit at committed
  split at committed
  next => cases committed
  next commit found =>
    injection committed with same
    injection same with changed _
    rw [← changed]
    exact exactly.setCommit found

end Exact

/-! ## Runs -/

/-- The changes of the known federates and their bounds. -/
inductive Change (T : Type*)
  | insert
      (federateHandle : FederateHandle)
      (logicalTime nextMessageTime : T)
      (commitId beforeOwnCommitId : Unsigned)
  | erase (federateHandle : FederateHandle)
  | commit
      (federateHandle : FederateHandle)
      (logicalTime : T)
      (commitType : LowerBoundTimeStampCommitType)
      (commitId : Unsigned)

/-- A federate is inserted when it is not yet known, and commits when it is. -/
def change
    (self : FederateHandleLowerBoundTimeStampMap T) :
    Change T → Option (FederateHandleLowerBoundTimeStampMap T)
  | .insert federateHandle logicalTime nextMessageTime commitId
      beforeOwnCommitId =>
      if self.find? federateHandle = none then
        some (self.insert federateHandle logicalTime nextMessageTime commitId
          beforeOwnCommitId)
      else none
  | .erase federateHandle => some (self.erase federateHandle).1
  | .commit federateHandle logicalTime commitType commitId =>
      (self.commit federateHandle logicalTime commitType commitId).map Prod.fst

/-- All changes, in any order. -/
def changes (T : Type*) [LinearOrder T] :
    TransitionSystem (FederateHandleLowerBoundTimeStampMap T) (Change T) where
  initial := ∅
  next := change

theorem Exact.change
    {before : FederateHandleLowerBoundTimeStampMap T}
    (exactly : before.Exact)
    {input : Change T}
    (changed : before.change input = some after) :
    after.Exact := by
  cases input with
  | insert federateHandle logicalTime nextMessageTime commitId own =>
      rw [FederateHandleLowerBoundTimeStampMap.change] at changed
      split at changed
      next absent =>
        injection changed with same
        rw [← same]
        exact exactly.insert absent _ _ _ _
      next => cases changed
  | erase federateHandle =>
      injection changed with same
      rw [← same]
      exact exactly.erase federateHandle
  | commit federateHandle logicalTime commitType commitId =>
      obtain ⟨⟨_, flags⟩, committed, rfl⟩ := Option.map_eq_some_iff.mp changed
      exact exactly.commit committed

/-- A known federate can always commit. -/
theorem commit_isSome
    {federateHandle : FederateHandle} {commit : Commit T}
    (found : self.find? federateHandle = some commit)
    (logicalTime : T) (commitType : LowerBoundTimeStampCommitType)
    (commitId : Unsigned) :
    (self.commit federateHandle logicalTime commitType commitId).isSome =
      true := by
  unfold FederateHandleLowerBoundTimeStampMap.commit
  split
  next absent =>
    rw [absent] at found
    cases found
  next => rfl

/-! ## What the federates hold -/

/-- The time advance commit and the next message commit of each federate. -/
abbrev Held (T : Type*) := FederateHandle → Option (T × T)

/-- A federate enters with its two times, leaves with them, and with a commit
moves those that the commit type names. -/
def Change.follow (held : Held T) : Change T → Held T
  | .insert federateHandle logicalTime nextMessageTime _ _ =>
      Function.update held federateHandle (some (logicalTime, nextMessageTime))
  | .erase federateHandle => Function.update held federateHandle none
  | .commit federateHandle logicalTime commitType _ =>
      Function.update held federateHandle
        ((held federateHandle).map fun times =>
          (if commitType.timeAdvance then logicalTime else times.1,
            if commitType.nextMessage then logicalTime else times.2))

/-- What the federates hold after changes, whatever the map makes of them. -/
def heldAfter (inputs : List (Change T)) : Held T :=
  inputs.foldl Change.follow fun _ => none

omit [LinearOrder T] in
theorem heldAfter_concat (inputs : List (Change T)) (input : Change T) :
    heldAfter (inputs ++ [input]) = Change.follow (heldAfter inputs) input :=
  List.foldl_concat ..

/-- The times held by some federate. -/
def heldTimes (held : Held T) (time : T × T → T) : Set T :=
  {logicalTime | ∃ federateHandle,
    (held federateHandle).map time = some logicalTime}

/-- A count map has an entry for exactly the held times, with the number of the
federates that hold it, and its first time is the least of them. -/
def Counts
    (counts : LogicalTimeFederateCountMap T)
    (held : Held T)
    (time : T × T → T) : Prop :=
  (∀ logicalTime, ∃ federates : Finset FederateHandle,
    (∀ federateHandle, federateHandle ∈ federates ↔
      (held federateHandle).map time = some logicalTime) ∧
    counts.countMap.find? logicalTime =
      if federates = ∅ then none else some federates.card) ∧
  ∀ least, counts.begin? = some least ↔ IsLeast (heldTimes held time) least

/-- The map knows the federates with the times that they hold. -/
def Follows
    (self : FederateHandleLowerBoundTimeStampMap T)
    (held : Held T) : Prop :=
  ∀ federateHandle,
    held federateHandle = (self.find? federateHandle).map Commit.times

variable {held : Held T}

/-- A step of the map changes its table as the federates change what they
hold. -/
theorem Follows.change
    {before : FederateHandleLowerBoundTimeStampMap T}
    (follows : before.Follows held)
    {input : Change T}
    (changed : before.change input = some after) :
    after.Follows (Change.follow held input) := by
  intro other
  cases input with
  | insert federateHandle logicalTime nextMessageTime commitId own =>
      rw [FederateHandleLowerBoundTimeStampMap.change] at changed
      split at changed
      next absent =>
        injection changed with same
        rw [← same, Change.follow, Function.update_apply, follows other,
          find?_insert, absent]
        split
        next => rfl
        next => rfl
      next => cases changed
  | erase federateHandle =>
      injection changed with same
      rw [← same, Change.follow, Function.update_apply, follows other,
        find?_erase]
      split
      next => rfl
      next => rfl
  | commit federateHandle logicalTime commitType commitId =>
      obtain ⟨⟨_, flags⟩, committed, rfl⟩ := Option.map_eq_some_iff.mp changed
      unfold FederateHandleLowerBoundTimeStampMap.commit at committed
      split at committed
      next => cases committed
      next commit found =>
        injection committed with same
        injection same with same _
        have held := follows federateHandle
        rw [found] at held
        rw [← same, Change.follow, Function.update_apply, follows other, held,
          find?_setCommit]
        split
        next => rfl
        next => rfl

/-- After a run the map counts no more than its table, which is what the
federates hold. -/
theorem follows_of_run
    {inputs : List (Change T)}
    (finished : (changes T).run ∅ inputs = some self) :
    self.Exact ∧ self.Follows (heldAfter inputs) := by
  refine @TransitionSystem.run_kept _ _ _ (changes T) Change.follow _
    (fun reached held => ∀ map, reached = some map →
      map.Exact ∧ map.Follows held)
    (fun _ _ => True) ?_ ?_ inputs (fun _ _ _ _ _ => trivial) self finished
  · rintro map ⟨⟩
    exact ⟨Exact.empty, fun _ => rfl⟩
  · intro reached held input kept _ after stepped
    obtain ⟨before, isBefore, changed⟩ := Option.bind_eq_some_iff.mp stepped
    obtain ⟨exactly, follows⟩ := kept before isBefore
    exact ⟨exactly.change changed, follows.change changed⟩

theorem Follows.map_eq_some_iff
    (follows : self.Follows held)
    {time : T × T → T} {federateHandle : FederateHandle}
    {logicalTime : T} :
    (held federateHandle).map time = some logicalTime ↔
      ∃ commit, self.find? federateHandle = some commit ∧
        time commit.times = logicalTime := by
  rw [follows, Option.map_map]
  exact Option.map_eq_some_iff

/-- The committed times are the held ones. -/
theorem Follows.heldTimes_eq
    (follows : self.Follows held) (time : T × T → T) :
    heldTimes held time =
      committed self.federateHandleCommitMap fun commit => time commit.times := by
  ext logicalTime
  exact exists_congr fun _ => follows.map_eq_some_iff

theorem Follows.counts
    (follows : self.Follows held)
    {counts : LogicalTimeFederateCountMap T}
    (time : T × T → T)
    (exactly : ∀ logicalTime,
      counts.count logicalTime =
        self.federateHandleCommitMap.sum
          (committedAt (fun commit => time commit.times) logicalTime)) :
    Counts counts held time := by
  constructor
  · intro logicalTime
    have listed := committing_nodup self.federateHandleCommitMap
      (fun commit => time commit.times) logicalTime
    refine ⟨(committing self.federateHandleCommitMap
      (fun commit => time commit.times) logicalTime).toFinset, ?_, ?_⟩
    · intro federateHandle
      rw [List.mem_toFinset, mem_committing]
      exact follows.map_eq_some_iff.symm
    · rw [counts.find?_eq, exactly, sum_committedAt,
        List.toFinset_card_of_nodup listed]
      simp only [List.length_eq_zero_iff, List.toFinset_eq_empty_iff]
  · intro least
    rw [follows.heldTimes_eq]
    exact begin?_eq_some_iff_isLeast exactly

/-- A commit of a federate that holds times takes place, and a time advance
commit moves its entry and tells whether the least held time increases. -/
theorem Follows.commit_advances_iff
    (exactly : self.Exact) (follows : self.Follows held)
    {federateHandle : FederateHandle} {times : T × T}
    (holds : held federateHandle = some times)
    (logicalTime : T) (commitType : LowerBoundTimeStampCommitType)
    (commitId : Unsigned) :
    ∃ after flags,
      self.commit federateHandle logicalTime commitType commitId =
          some (after, flags) ∧
        (commitType.timeAdvance = true →
          LogicalTimeFederateCountMap.moveEntry
              self.timeAdvanceLogicalTimeFederateCountMap.countMap times.1
              logicalTime =
            (after.timeAdvanceLogicalTimeFederateCountMap.countMap, flags.1) ∧
          (flags.1 = true ↔
            ∃ least later, IsLeast (heldTimes held Prod.fst) least ∧
              IsLeast (heldTimes (Change.follow held
                (.commit federateHandle logicalTime commitType commitId))
                Prod.fst) later ∧
              least < later)) := by
  rw [follows] at holds
  obtain ⟨commit, found, rfl⟩ := Option.map_eq_some_iff.mp holds
  obtain ⟨⟨after, flags⟩, committed⟩ := Option.isSome_iff_exists.mp
    (commit_isSome found logicalTime commitType commitId)
  refine ⟨after, flags, committed, fun timeAdvance => ⟨?_, ?_⟩⟩
  · exact moveEntry_commit found timeAdvance committed
  · have changed : self.change
        (.commit federateHandle logicalTime commitType commitId) =
          some after := by
      rw [FederateHandleLowerBoundTimeStampMap.change, committed]
      rfl
    have before := (follows.counts Prod.fst exactly.timeAdvance).2
    have later := ((follows.change changed).counts Prod.fst
      (exactly.change changed).timeAdvance).2
    rw [FederateHandleLowerBoundTimeStampMap.commit_advances_iff found
      timeAdvance committed]
    simp only [getGALT, before, later]

/-- After any changes the count maps hold exactly the times that the federates
hold, each with the number of its federates, advances are granted up to the
least of them, and a time advance commit tells whether it raises the least
time. -/
theorem lowerBounds_exact
    {self : FederateHandleLowerBoundTimeStampMap T}
    (inputs : List (Change T))
    (finished : (changes T).run ∅ inputs = some self) :
    Counts self.timeAdvanceLogicalTimeFederateCountMap (heldAfter inputs)
        Prod.fst ∧
      Counts self.nextMessageLogicalTimeFederateCountMap (heldAfter inputs)
        Prod.snd ∧
      (∀ least, self.getGALT = some least ↔
        IsLeast (heldTimes (heldAfter inputs) Prod.fst) least) ∧
      (∀ least, self.getNextMessageGALT = some least ↔
        IsLeast (heldTimes (heldAfter inputs) Prod.snd) least) ∧
      (∀ logicalTime second,
        self.canAdvanceTo logicalTime second = true ↔
          ∀ federateHandle times,
            heldAfter inputs federateHandle = some times →
            if 0 < second then logicalTime < times.1
            else logicalTime ≤ times.1) ∧
      ∀ federateHandle times,
        heldAfter inputs federateHandle = some times →
        ∀ logicalTime commitType commitId, ∃ after flags,
          self.commit federateHandle logicalTime commitType commitId =
              some (after, flags) ∧
            (commitType.timeAdvance = true →
              LogicalTimeFederateCountMap.moveEntry
                  self.timeAdvanceLogicalTimeFederateCountMap.countMap times.1
                  logicalTime =
                (after.timeAdvanceLogicalTimeFederateCountMap.countMap,
                  flags.1) ∧
              (flags.1 = true ↔
                ∃ least later,
                  IsLeast (heldTimes (heldAfter inputs) Prod.fst) least ∧
                  IsLeast (heldTimes (heldAfter (inputs ++
                    [.commit federateHandle logicalTime commitType commitId]))
                    Prod.fst) later ∧
                  least < later)) := by
  obtain ⟨exactly, follows⟩ := follows_of_run finished
  have timeAdvance := follows.counts Prod.fst exactly.timeAdvance
  have nextMessage := follows.counts Prod.snd exactly.nextMessage
  refine ⟨timeAdvance, nextMessage, timeAdvance.2, nextMessage.2, ?_, ?_⟩
  · intro logicalTime second
    rw [canAdvanceTo, getGALT, staysWithin_iff exactly.timeAdvance]
    constructor
    · intro within federateHandle times holds
      rw [follows] at holds
      obtain ⟨commit, found, rfl⟩ := Option.map_eq_some_iff.mp holds
      exact within federateHandle commit found
    · intro within federateHandle commit found
      refine within federateHandle commit.times ?_
      rw [follows, find?, found]
      rfl
  · intro federateHandle times holds logicalTime commitType commitId
    rw [heldAfter_concat]
    exact follows.commit_advances_iff exactly holds logicalTime commitType
      commitId

/-- Two federates share a time, which one of them then leaves backwards before it
is erased. -/
def sharing : List (Change Int) :=
  [.insert 0 5 5 0 0, .insert 1 7 7 0 0, .commit 0 7 ⟨true, true⟩ 0,
    .commit 1 3 ⟨true, false⟩ 0, .erase 1]

theorem lowerBounds_exact_sharing :
    ∃ final : FederateHandleLowerBoundTimeStampMap Int,
      (changes Int).run ∅ sharing = some final ∧
        final.getGALT = some 7 ∧
        IsLeast (heldTimes (heldAfter sharing) Prod.fst) 7 ∧
        Counts final.timeAdvanceLogicalTimeFederateCountMap
          (heldAfter sharing) Prod.fst := by
  refine ⟨_, rfl, by decide, ?_, ?_⟩
  · exact ((lowerBounds_exact sharing rfl).2.2.1 7).mp (by decide)
  · exact (lowerBounds_exact sharing rfl).1

end FederateHandleLowerBoundTimeStampMap
end TimeManagement
end OpenRTI
