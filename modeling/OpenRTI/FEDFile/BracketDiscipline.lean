import OpenRTI.FEDFile.FEDFileReader
import OpenRTI.FEDFile.Groups
import OpenRTI.Foundation.FailingState

/-!
# Bracket discipline

The reader keeps no count of the groups that are open.  The content handler of
federation files keeps a mode for each of them, and takes it from the stack
without a look at how many there are.  Where the brackets are balanced, both go
well together.
-/

namespace OpenRTI
namespace FEDFile

open Foundation.FailingState (except_bind_eq_ok)
open ServerModel (BuilderCall ReadingFailure)

variable {failure : FEDFailure}

/-! ## The stack of modes -/

namespace FEDContentHandler

variable {self after : FEDContentHandler}

/-- A failure that is an exception. -/
def Throws (result : Except FEDFailure FEDContentHandler) : Prop :=
  ∃ failure, result = .error (.exception failure)

theorem build_spec
    (calls : List BuilderCall) (self : FEDContentHandler) :
    Throws (self.build calls) ∨
      ∃ after, self.build calls = .ok after ∧
        after.modeStack = self.modeStack := by
  rw [build]
  cases self.fomStringModuleBuilder.run calls with
  | ok fomStringModuleBuilder => exact Or.inr ⟨_, rfl, rfl⟩
  | error failure => exact Or.inl ⟨failure, rfl⟩

/-- A group pushes its mode. -/
theorem startElement_spec
    {tokens : StringVector}
    (some_tokens : tokens ≠ [])
    (self : FEDContentHandler) :
    Throws (self.startElement tokens) ∨
      ∃ after mode, self.startElement tokens = .ok after ∧
        after.modeStack = self.modeStack ++ [mode] := by
  cases tokens with
  | nil => exact absurd rfl some_tokens
  | cons t0 rest =>
      rw [startElement]
      cases enterGroup self.modeStack t0 (t0 :: rest) with
      | error failure => exact Or.inl ⟨failure, rfl⟩
      | ok entered =>
          obtain ⟨mode, calls⟩ := entered
          obtain throws | ⟨after, built, kept⟩ := build_spec calls
            { self with modeStack := self.modeStack ++ [mode] }
          · exact Or.inl throws
          · exact Or.inr ⟨after, mode, built, kept⟩

/-- The end of a group pops a mode if there is one. -/
theorem endElement_spec
    (nonempty : self.modeStack ≠ []) :
    Throws self.endElement ∨
      ∃ after, self.endElement = .ok after ∧
        after.modeStack = self.modeStack.dropLast := by
  rw [endElement]
  obtain ⟨failure, throws⟩ | ⟨after, built, kept⟩ :=
    build_spec (leaveGroup (getCurrentMode self.modeStack)) self
  · rw [throws]
    exact Or.inl ⟨failure, rfl⟩
  · rw [built]
    refine Or.inr ⟨{ after with modeStack := after.modeStack.dropLast },
      ?_, ?_⟩
    · change (if after.modeStack = [] then _ else _) = _
      rw [kept, if_neg nonempty]
    · rw [kept]

theorem endElement_of_empty (empty : self.modeStack = []) :
    self.endElement = .error .popOfEmptyModeStack := by
  rw [endElement, empty]
  change (if self.modeStack = [] then _ else _) = _
  rw [if_pos empty]

/-! ## Calls for groups -/

/-- Calls for groups leave the stack as it was, if nothing is thrown. -/
theorem replay_groups
    {groups : Groups}
    (some_tokens : Call.startElement [] ∉ groups.calls)
    (self : FEDContentHandler) :
    Throws (contentHandler.replay groups.calls self) ∨
      ∃ after, contentHandler.replay groups.calls self = .ok after ∧
        after.modeStack = self.modeStack := by
  induction groups generalizing self with
  | nil => exact Or.inr ⟨self, rfl, rfl⟩
  | cons tokens children siblings childrenHypothesis siblingsHypothesis =>
      rw [Groups.calls, List.mem_cons, List.mem_append, List.mem_cons, not_or,
        not_or, not_or] at some_tokens
      obtain ⟨own, inChildren, _, inSiblings⟩ := some_tokens
      have named : tokens ≠ [] := fun nothing => own (by rw [nothing])
      rw [Groups.calls, ContentHandler.replay]
      change Throws (self.startElement tokens >>= _) ∨
        ∃ after, (self.startElement tokens >>= _) = .ok after ∧ _
      obtain ⟨failure, throws⟩ | ⟨inside, mode, started, pushed⟩ :=
        startElement_spec named self
      · rw [throws]
        exact Or.inl ⟨failure, rfl⟩
      · rw [started]
        change Throws (contentHandler.replay _ inside) ∨
          ∃ after, contentHandler.replay _ inside = .ok after ∧ _
        rw [ContentHandler.replay_append]
        obtain ⟨failure, throws⟩ | ⟨between, replayed, kept⟩ :=
          childrenHypothesis inChildren inside
        · rw [throws]
          exact Or.inl ⟨failure, rfl⟩
        · rw [replayed]
          change Throws (between.endElement >>= _) ∨
            ∃ after, (between.endElement >>= _) = .ok after ∧ _
          have nonempty : between.modeStack ≠ [] := by
            rw [kept, pushed]
            exact List.concat_ne_nil mode self.modeStack
          obtain ⟨failure, throws⟩ | ⟨outside, ended, popped⟩ :=
            endElement_spec nonempty
          · rw [throws]
            exact Or.inl ⟨failure, rfl⟩
          · rw [kept, pushed, List.dropLast_concat] at popped
            rw [ended, ← popped]
            exact siblingsHypothesis inSiblings outside

variable {made : List Call}

/-! ## Calls before an error -/

/-- Each start pushes a mode, and each end pops one. -/
theorem length_modeStack
    (some_tokens : Call.startElement [] ∉ made)
    (ran : contentHandler.replay made self = .ok after) :
    after.modeStack.length + ends made =
      self.modeStack.length + starts made := by
  induction made generalizing self with
  | nil =>
      cases ran
      rfl
  | cons call rest ih =>
      rw [List.mem_cons, not_or] at some_tokens
      rw [ContentHandler.replay.eq_def] at ran
      cases call with
      | startElement tokens =>
          obtain ⟨between, started, further⟩ := except_bind_eq_ok.mp ran
          change self.startElement tokens = _ at started
          have named : tokens ≠ [] :=
            fun nothing => some_tokens.1 (by rw [nothing])
          have counted := ih some_tokens.2 further
          obtain ⟨failure, throws⟩ | ⟨_, mode, same, pushed⟩ :=
            startElement_spec named self
          · rw [throws] at started
            cases started
          · rw [same] at started
            cases started
            rw [pushed, List.length_append, List.length_singleton] at counted
            rw [ends_startElement, starts_startElement]
            omega
      | endElement =>
          obtain ⟨between, ended, further⟩ := except_bind_eq_ok.mp ran
          change self.endElement = _ at ended
          have counted := ih some_tokens.2 further
          rw [ends_endElement, starts_endElement]
          by_cases empty : self.modeStack = []
          · rw [endElement_of_empty empty] at ended
            cases ended
          · obtain ⟨failure, throws⟩ | ⟨_, same, popped⟩ :=
              endElement_spec empty
            · rw [throws] at ended
              cases ended
            · rw [same] at ended
              cases ended
              have positive := List.length_pos_iff.mpr empty
              rw [popped, List.length_dropLast] at counted
              omega

/-- The stack is popped where it is empty, or an exception is thrown. -/
theorem replay_error
    (some_tokens : Call.startElement [] ∉ made)
    (failed : contentHandler.replay made self = .error failure) :
    (∃ thrown, failure = .exception thrown) ∨
      failure = .popOfEmptyModeStack ∧
        ∃ before, before ++ [.endElement] <+: made ∧
          ∃ between, contentHandler.replay before self = .ok between ∧
            between.modeStack = [] := by
  induction made generalizing self with
  | nil => cases failed
  | cons call rest ih =>
      rw [List.mem_cons, not_or] at some_tokens
      -- the call itself fails, or a later one does in the state after it
      have later : ∀ between,
          contentHandler.replay [call] self = .ok between →
            contentHandler.replay rest between = .error failure →
              (∃ thrown, failure = .exception thrown) ∨
                failure = .popOfEmptyModeStack ∧
                  ∃ before, before ++ [.endElement] <+: call :: rest ∧
                    ∃ between,
                      contentHandler.replay before self = .ok between ∧
                        between.modeStack = [] := by
        intro between called further
        obtain thrown | ⟨pop, before, begins, last, replayed, empty⟩ :=
          ih some_tokens.2 further
        · exact Or.inl thrown
        · refine Or.inr ⟨pop, call :: before, ?_, last, ?_, empty⟩
          · rw [List.cons_append]
            exact (List.cons_prefix_cons).mpr ⟨rfl, begins⟩
          · rw [← List.singleton_append, ContentHandler.replay_append, called]
            exact replayed
      rw [ContentHandler.replay.eq_def] at failed
      cases call with
      | startElement tokens =>
          have named : tokens ≠ [] :=
            fun nothing => some_tokens.1 (by rw [nothing])
          change (self.startElement tokens >>= _) = _ at failed
          obtain ⟨thrown, throws⟩ | ⟨between, mode, started, _⟩ :=
            startElement_spec named self
          · rw [throws] at failed
            cases failed
            exact Or.inl ⟨thrown, rfl⟩
          · rw [started] at failed
            apply later between
            · change (self.startElement tokens >>= _) = _
              rw [started]
              rfl
            · exact failed
      | endElement =>
          change (self.endElement >>= _) = _ at failed
          by_cases empty : self.modeStack = []
          · rw [endElement_of_empty empty] at failed
            cases failed
            exact Or.inr ⟨rfl, [], List.prefix_append _ _, self, rfl, empty⟩
          · obtain ⟨thrown, throws⟩ | ⟨between, ended, _⟩ :=
              endElement_spec empty
            · rw [throws] at failed
              cases failed
              exact Or.inl ⟨thrown, rfl⟩
            · rw [ended] at failed
              apply later between
              · change (self.endElement >>= _) = _
                rw [ended]
                rfl
              · exact failed

/-- An end where the stack is empty. -/
theorem replay_of_empty
    {before : List Call} {between : FEDContentHandler}
    (begins : before ++ [.endElement] <+: made)
    (replayed : contentHandler.replay before self = .ok between)
    (empty : between.modeStack = []) :
    contentHandler.replay made self = .error .popOfEmptyModeStack := by
  obtain ⟨rest, same⟩ := begins
  rw [← same, List.append_assoc, ContentHandler.replay_append, replayed]
  change (between.endElement >>= _) = _
  rw [endElement_of_empty empty]
  rfl

/-- The document is ended with an empty stack. -/
theorem endDocument_ne_assertionFailed
    (empty : self.modeStack = []) :
    Throws self.endDocument ∨ ∃ after, self.endDocument = .ok after := by
  rw [endDocument, if_neg (not_not.mpr empty)]
  cases self.fomStringModuleBuilder.validate with
  | ok fomStringModuleBuilder => exact Or.inr ⟨_, rfl⟩
  | error failure => exact Or.inl ⟨failure, rfl⟩

/-- The content handler after the start of the document. -/
def started : FEDContentHandler where
  fomStringModuleBuilder := {
    module := {
      transportationTypeList := [⟨"HLAreliable"⟩, ⟨"HLAbestEffort"⟩] } }

theorem startDocument_new :
    contentHandler.startDocument {} = .ok started :=
  rfl

end FEDContentHandler

/-! ## The discipline -/

/-- Either an error is reported or an exception thrown, or the calls are those for
the groups of the stream.  The content handler of federation files does not pop
from an empty stack, and the document ends with an empty stack. -/
structure Disciplined (stream : List Char) : Prop where
  nested : ∀ (ε σ : Type) (contentHandler : ContentHandler ε σ)
    (self after : σ), contentHandler.parse stream self = .ok after →
      ∃ groups : Groups, lexemes stream = groups.lexemes ∧
        (do
          let self ← contentHandler.startDocument self
          let self ← contentHandler.replay groups.calls self
          contentHandler.endDocument self) = .ok after
  noPopOfEmpty : FEDContentHandler.contentHandler.parse stream {} ≠
    .error (.exception .popOfEmptyModeStack)
  emptyAtEnd : FEDContentHandler.contentHandler.parse stream {} ≠
    .error (.exception .assertionFailed)

/-- Where every bracket and every token is placed, no group is empty and all are
closed.  Otherwise an error is reported, and no bracket before it closes more than
what is open, unless the content handler has thrown an exception before. -/
def WellBracketed (stream : List Char) : Prop :=
  (AllPlaced (lexemes stream) →
    NoEmptyGroup (lexemes stream) ∧ Balanced 0 (lexemes stream)) ∧
    (¬AllPlaced (lexemes stream) →
      ∀ before, before ++ [.endElement] <+: calls false [] (lexemes stream) →
        starts before = ends before →
          FEDContentHandler.Throws
            (FEDContentHandler.contentHandler.replay before
              FEDContentHandler.started))

/-- A content handler that keeps the calls. -/
def recorder : ContentHandler Empty (List Call) where
  startDocument self := .ok self
  endDocument self := .ok self
  startElement tokens self := .ok (self ++ [.startElement tokens])
  endElement self := .ok (self ++ [.endElement])

theorem replay_recorder (made recorded : List Call) :
    recorder.replay made recorded = .ok (recorded ++ made) := by
  induction made generalizing recorded with
  | nil => rw [List.append_nil, ContentHandler.replay]
  | cons call rest ih =>
      rw [← List.singleton_append, ← List.append_assoc]
      cases call with
      | startElement tokens => exact ih _
      | endElement => exact ih _

theorem mapError_eq_ok
    {ε δ α : Type} {change : ε → δ}
    {result : Except ε α} {value : α} :
    result.mapError change = .ok value ↔ result = .ok value := by
  cases result with
  | ok other =>
      constructor
      · intro same
        cases same
        rfl
      · intro same
        cases same
        rfl
  | error failure =>
      constructor
      · intro impossible
        cases impossible
      · intro impossible
        cases impossible

variable {ε σ : Type} {read : List Lexeme}

/-- The calls of a stream without an error. -/
theorem run_of_placed
    {contentHandler : ContentHandler ε σ}
    (placed : AllPlaced read) (self : σ) :
    contentHandler.run false [] read self =
      (contentHandler.replay (calls false [] read) self >>=
        contentHandler.endDocument).mapError some := by
  have accepted : reported false [] read = false := by
    rw [← Bool.not_eq_true, reported_iff]
    exact not_not.mpr placed
  rw [ContentHandler.run, accepted, mapError_bind]
  rfl

/-- The calls of a stream with an error. -/
theorem run_of_misplaced
    {contentHandler : ContentHandler ε σ}
    (misplaced : ¬AllPlaced read)
    (self : σ) :
    contentHandler.run false [] read self =
      (contentHandler.replay (calls false [] read) self).mapError some >>=
        fun _ => .error none := by
  rw [ContentHandler.run, (reported_iff read).mpr misplaced]
  rfl

variable {stream : List Char}

/-- What the content handler of federation files throws. -/
theorem parse_eq_exception_iff :
    FEDContentHandler.contentHandler.parse stream {} =
        .error (.exception failure) ↔
      FEDContentHandler.contentHandler.run false [] (lexemes stream)
        FEDContentHandler.started = .error (some failure) := by
  have parsed := ContentHandler.parse_eq FEDContentHandler.contentHandler
    stream {}
  rw [FEDContentHandler.startDocument_new] at parsed
  change _ = FEDContentHandler.contentHandler.run false [] (lexemes stream)
    FEDContentHandler.started at parsed
  rw [← parsed]
  cases FEDContentHandler.contentHandler.parse stream {} with
  | ok after =>
      constructor
      · intro impossible
        cases impossible
      · intro impossible
        cases impossible
  | error parseFailure =>
      cases parseFailure with
      | error line column message =>
          constructor
          · intro impossible
            cases impossible
          · intro impossible
            cases impossible
      | exception thrown =>
          constructor
          · intro same
            cases same
            rfl
          · intro same
            cases same
            rfl

/-- Without a misplaced bracket or token. -/
theorem disciplined_iff_of_placed
    (placed : AllPlaced (lexemes stream)) :
    Disciplined stream ↔
      NoEmptyGroup (lexemes stream) ∧ Balanced 0 (lexemes stream) := by
  constructor
  · intro disciplined
    have recorded : recorder.parse stream [] =
        .ok (calls false [] (lexemes stream)) := by
      rw [← @mapError_eq_ok _ _ _ ParseFailure.thrown?,
        ContentHandler.parse_eq]
      change recorder.run false [] (lexemes stream) [] = _
      rw [run_of_placed placed, replay_recorder]
      rfl
    obtain ⟨groups, same, replayed⟩ :=
      disciplined.nested _ _ recorder [] _ recorded
    change (recorder.replay groups.calls [] >>= fun self => .ok self) = _
      at replayed
    rw [replay_recorder] at replayed
    exact balanced_of_groups placed same (Except.ok.inj replayed).symm
  · rintro ⟨nonempty, balanced⟩
    obtain ⟨groups, same, made⟩ := exists_groups placed nonempty balanced
    have some_tokens : Call.startElement [] ∉ groups.calls := by
      rw [← made]
      exact startElement_nil_notMem_calls false [] _
    -- the stack is empty after the calls for the groups
    have ended : ∀ failure,
        FEDContentHandler.contentHandler.run false [] (lexemes stream)
          FEDContentHandler.started = .error (some failure) →
            ∃ thrown, failure = .exception thrown := by
      intro failure failed
      rw [run_of_placed placed, made] at failed
      obtain ⟨thrown, throws⟩ | ⟨after, replayed, kept⟩ :=
        FEDContentHandler.replay_groups some_tokens FEDContentHandler.started
      · rw [throws] at failed
        cases failed
        exact ⟨thrown, rfl⟩
      · rw [replayed] at failed
        change (after.endDocument).mapError some = _ at failed
        obtain ⟨thrown, throws⟩ | ⟨last, done⟩ :=
          FEDContentHandler.endDocument_ne_assertionFailed kept
        · rw [throws] at failed
          cases failed
          exact ⟨thrown, rfl⟩
        · rw [done] at failed
          cases failed
    refine ⟨?_, ?_, ?_⟩
    · intro ε σ contentHandler self after parsed
      refine ⟨groups, same, ?_⟩
      rw [← @mapError_eq_ok _ _ _ ParseFailure.thrown?,
        ContentHandler.parse_eq] at parsed
      rw [← @mapError_eq_ok _ _ _ some, mapError_bind, ← parsed]
      congr 1
      funext between
      rw [run_of_placed placed, made]
    · intro popped
      obtain ⟨thrown, impossible⟩ := ended _ (parse_eq_exception_iff.mp popped)
      cases impossible
    · intro failed
      obtain ⟨thrown, impossible⟩ := ended _ (parse_eq_exception_iff.mp failed)
      cases impossible

/-- With a misplaced bracket or token. -/
theorem disciplined_iff_of_misplaced
    (misplaced : ¬AllPlaced (lexemes stream)) :
    Disciplined stream ↔
      ∀ before, before ++ [.endElement] <+: calls false [] (lexemes stream) →
        starts before = ends before →
          FEDContentHandler.Throws
            (FEDContentHandler.contentHandler.replay before
              FEDContentHandler.started) := by
  have some_tokens := startElement_nil_notMem_calls false [] (lexemes stream)
  have failure_iff : ∀ failure,
      FEDContentHandler.contentHandler.run false [] (lexemes stream)
          FEDContentHandler.started = .error (some failure) ↔
        FEDContentHandler.contentHandler.replay
          (calls false [] (lexemes stream)) FEDContentHandler.started =
            .error failure := by
    intro failure
    rw [run_of_misplaced misplaced]
    cases FEDContentHandler.contentHandler.replay
      (calls false [] (lexemes stream)) FEDContentHandler.started with
    | ok after =>
        constructor
        · intro impossible
          cases impossible
        · intro impossible
          cases impossible
    | error thrown =>
        constructor
        · intro same
          cases same
          rfl
        · intro same
          cases same
          rfl
  constructor
  · intro disciplined before begins balanced
    have inner : Call.startElement [] ∉ before := fun member =>
      some_tokens (begins.subset (List.mem_append_left _ member))
    have noPop : ∀ {made : List Call}, made ++ [.endElement] <+:
        calls false [] (lexemes stream) → ∀ {between : FEDContentHandler},
          FEDContentHandler.contentHandler.replay made
            FEDContentHandler.started = .ok between →
              between.modeStack ≠ [] := by
      intro made within between replayed empty
      exact disciplined.noPopOfEmpty (parse_eq_exception_iff.mpr
        ((failure_iff _).mpr
          (FEDContentHandler.replay_of_empty within replayed empty)))
    cases replayed : FEDContentHandler.contentHandler.replay before
      FEDContentHandler.started with
    | ok between =>
        have counted := FEDContentHandler.length_modeStack inner replayed
        have empty : between.modeStack = [] := by
          apply List.length_eq_zero_iff.mp
          change _ = 0 + _ at counted
          omega
        exact absurd empty (noPop begins replayed)
    | error failure =>
        obtain ⟨thrown, same⟩ | ⟨_, made, within, between, ran, empty⟩ :=
          FEDContentHandler.replay_error inner replayed
        · rw [same]
          exact ⟨thrown, rfl⟩
        · refine absurd empty (noPop ?_ ran)
          exact within.trans ((List.prefix_append _ _).trans begins)
  · intro throws
    have only_exceptions : ∀ failure,
        FEDContentHandler.contentHandler.run false [] (lexemes stream)
          FEDContentHandler.started = .error (some failure) →
            ∃ thrown, failure = .exception thrown := by
      intro failure failed
      obtain thrown | ⟨_, made, within, between, ran, empty⟩ :=
        FEDContentHandler.replay_error some_tokens
          ((failure_iff failure).mp failed)
      · exact thrown
      · have inner : Call.startElement [] ∉ made := fun member =>
          some_tokens (within.subset (List.mem_append_left _ member))
        have counted := FEDContentHandler.length_modeStack inner ran
        rw [empty] at counted
        change 0 + _ = 0 + _ at counted
        obtain ⟨thrown, impossible⟩ := throws made within (by omega)
        rw [ran] at impossible
        cases impossible
    refine ⟨?_, ?_, ?_⟩
    · intro ε σ contentHandler self after parsed
      rw [← @mapError_eq_ok _ _ _ ParseFailure.thrown?,
        ContentHandler.parse_eq] at parsed
      obtain ⟨between, _, ran⟩ := except_bind_eq_ok.mp parsed
      rw [run_of_misplaced misplaced] at ran
      obtain ⟨_, _, impossible⟩ := except_bind_eq_ok.mp ran
      cases impossible
    · intro popped
      obtain ⟨thrown, impossible⟩ :=
        only_exceptions _ (parse_eq_exception_iff.mp popped)
      cases impossible
    · intro failed
      obtain ⟨thrown, impossible⟩ :=
        only_exceptions _ (parse_eq_exception_iff.mp failed)
      cases impossible

/-- When the reader keeps to the discipline. -/
theorem disciplined_iff (stream : List Char) :
    Disciplined stream ↔ WellBracketed stream := by
  rw [WellBracketed]
  by_cases placed : AllPlaced (lexemes stream)
  · rw [disciplined_iff_of_placed placed]
    constructor
    · intro holds
      exact ⟨fun _ => holds, fun misplaced => absurd placed misplaced⟩
    · intro holds
      exact holds.1 placed
  · rw [disciplined_iff_of_misplaced placed]
    constructor
    · intro holds
      exact ⟨fun impossible => absurd impossible placed, fun _ => holds⟩
    · intro holds
      exact holds.2 placed

/-- A closing bracket alone. -/
theorem disciplined_fails : ¬∀ stream, Disciplined stream := by
  intro always
  apply (always [')']).noPopOfEmpty
  apply parse_eq_exception_iff.mpr
  rfl

end FEDFile
end OpenRTI
