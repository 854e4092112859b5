import OpenRTI.FEDFile.Lexemes
import OpenRTI.Foundation.Forest
import Mathlib.Data.List.Chain

/-!
# Groups

A well-formed file is a forest of groups, each with its tokens and with the
groups in it.  A sequence of brackets and tokens is one of groups, and the calls
are those for the groups, if no bracket and no token is misplaced, no group is
empty, and the brackets are balanced.
-/

namespace OpenRTI
namespace FEDFile

open Foundation (Forest)

/-- The groups of a file by their tokens. -/
abbrev Groups := Forest StringVector

namespace Groups

def lexemes : Groups → List Lexeme
  | .nil => []
  | .cons tokens children siblings =>
      .openBrace :: (tokens.map .token ++
        (lexemes children ++ .closeBrace :: lexemes siblings))

/-- One start with its tokens and one end for every group. -/
def calls : Groups → List Call
  | .nil => []
  | .cons tokens children siblings =>
      .startElement tokens ::
        (calls children ++ .endElement :: calls siblings)

end Groups

/-! ## Where brackets and tokens may stand -/

/-- An opening bracket does not follow another one, and a token not a closing
one. -/
def Placed (before after : Lexeme) : Prop :=
  ¬(before = .openBrace ∧ after = .openBrace) ∧
    ∀ text, ¬(before = .closeBrace ∧ after = .token text)

/-- No bracket and no token is misplaced. -/
def AllPlaced (read : List Lexeme) : Prop :=
  List.IsChain Placed (.closeBrace :: read)

def NotEmpty (before after : Lexeme) : Prop :=
  ¬(before = .openBrace ∧ after = .closeBrace)

/-- No closing bracket follows an opening one. -/
def NoEmptyGroup (read : List Lexeme) : Prop :=
  List.IsChain NotEmpty read

/-- Within some open groups, brackets close all that is open and no more. -/
def Balanced : Nat → List Lexeme → Prop
  | depth, [] => depth = 0
  | depth, .openBrace :: rest => Balanced (depth + 1) rest
  | 0, .closeBrace :: _ => False
  | depth + 1, .closeBrace :: rest => Balanced depth rest
  | depth, .token _ :: rest => Balanced depth rest

/-- The variables of the loop after a bracket or a token. -/
def StateAfter (allowToken : Bool) (tokenList : StringVector) : Lexeme → Prop
  | .openBrace => allowToken = true ∧ tokenList = []
  | .closeBrace => allowToken = false ∧ tokenList = []
  | .token _ => allowToken = true ∧ tokenList ≠ []

theorem reported_eq_false_iff
    {last : Lexeme} {allowToken : Bool}
    {tokenList : StringVector}
    (state : StateAfter allowToken tokenList last) (read : List Lexeme) :
    reported allowToken tokenList read = false ↔
      List.IsChain Placed (last :: read) := by
  induction read generalizing last allowToken tokenList with
  | nil => exact ⟨fun _ => .singleton last, fun _ => rfl⟩
  | cons lexeme rest ih =>
      rw [List.isChain_cons_cons]
      cases lexeme with
      | openBrace =>
          have further := @ih .openBrace true [] ⟨rfl, rfl⟩
          cases last with
          | openBrace =>
              rw [state.1, state.2]
              constructor
              · intro impossible
                cases impossible
              · intro holds
                exact absurd ⟨rfl, rfl⟩ holds.1.1
          | closeBrace =>
              rw [state.1, state.2, ← further]
              refine (and_iff_right ⟨?_, ?_⟩).symm
              · intro impossible
                cases impossible.1
              · intro text impossible
                cases impossible.2
          | token text =>
              rw [state.1, reported, if_pos rfl, if_neg state.2, ← further]
              refine (and_iff_right ⟨?_, ?_⟩).symm
              · intro impossible
                cases impossible.1
              · intro text impossible
                cases impossible.1
      | closeBrace =>
          rw [reported,
            @ih .closeBrace false [] ⟨rfl, rfl⟩]
          refine (and_iff_right ⟨?_, ?_⟩).symm
          · intro impossible
            cases impossible.2
          · intro text impossible
            cases impossible.2
      | token text =>
          cases allowToken with
          | false =>
              cases last with
              | openBrace => cases state.1
              | closeBrace =>
                  constructor
                  · intro impossible
                    cases impossible
                  · intro holds
                    exact absurd ⟨rfl, rfl⟩ (holds.1.2 text)
              | token other => cases state.1
          | true =>
              rw [reported, if_pos rfl, @ih (.token text) true
                (tokenList ++ [text])
                ⟨rfl, List.concat_ne_nil text tokenList⟩]
              refine (and_iff_right ⟨?_, ?_⟩).symm
              · intro impossible
                cases impossible.2
              · intro other impossible
                rw [impossible.1] at state
                cases state.1

theorem reported_iff (read : List Lexeme) :
    reported false [] read = true ↔ ¬AllPlaced read := by
  rw [AllPlaced, ← @reported_eq_false_iff .closeBrace false [] ⟨rfl, rfl⟩,
    Bool.not_eq_false]

/-! ## Groups from brackets and tokens -/

/-- Groups after the ends of the groups that are open. -/
def closingLexemes (rest : List Groups) : List Lexeme :=
  rest.flatMap fun groups => .closeBrace :: groups.lexemes

def closingCalls (rest : List Groups) : List Call :=
  rest.flatMap fun groups => .endElement :: groups.calls

/-- The start of a group whose tokens are being read. -/
def pendingStart (allowToken : Bool) (tokens : StringVector) : List Call :=
  if allowToken then [.startElement tokens] else []

/-- The groups of what is read, and of what is around. -/
structure GroupsOf
    (allowToken : Bool)
    (tokenList : StringVector)
    (depth : Nat)
    (read : List Lexeme)
    (texts : StringVector)
    (first : Groups)
    (rest : List Groups) : Prop where
  depth_eq : rest.length = depth
  lexemes_eq : read =
    texts.map .token ++ (first.lexemes ++ closingLexemes rest)
  texts_eq : allowToken = false → texts = []
  calls_eq : calls allowToken tokenList read =
    pendingStart allowToken (tokenList ++ texts) ++
      (first.calls ++ closingCalls rest)

section GroupsOf

variable {allowToken : Bool} {tokenList texts : StringVector} {depth : Nat}
  {read : List Lexeme} {first : Groups} {rest : List Groups}

/-- A group is opened, with its end further on. -/
theorem GroupsOf.openBrace
    {closing : Groups}
    (groups : GroupsOf true [] (depth + 1) read texts first (closing :: rest))
    {last : Lexeme}
    (state : StateAfter allowToken tokenList last)
    (placed : Placed last .openBrace) :
    GroupsOf allowToken tokenList depth (.openBrace :: read) []
      (.cons texts first closing) rest := by
  obtain ⟨depthSame, lexemes, _, made⟩ := groups
  rw [closingLexemes, List.flatMap_cons] at lexemes
  rw [closingCalls, List.flatMap_cons, pendingStart, if_pos rfl,
    List.nil_append, List.singleton_append] at made
  refine ⟨Nat.succ.inj depthSame, ?_, fun _ => rfl, ?_⟩
  · rw [lexemes, Groups.lexemes, closingLexemes]
    simp only [List.map_nil, List.nil_append, List.cons_append,
      List.append_assoc]
  · rw [List.append_nil, Groups.calls, closingCalls]
    cases last with
    | openBrace => exact absurd ⟨rfl, rfl⟩ placed.1
    | closeBrace =>
        rw [state.1, state.2]
        change calls true [] read = _
        rw [made, pendingStart, if_neg (by decide)]
        simp only [List.nil_append, List.cons_append, List.append_assoc]
    | token text =>
        rw [state.1, calls, if_pos rfl, if_neg state.2, made, pendingStart,
          if_pos rfl]
        simp only [List.cons_append, List.nil_append, List.append_assoc]

/-- A group is closed. -/
theorem GroupsOf.closeBrace
    (groups : GroupsOf false [] depth read texts first rest)
    {last : Lexeme}
    (state : StateAfter allowToken tokenList last)
    (nonempty : NotEmpty last .closeBrace) :
    GroupsOf allowToken tokenList (depth + 1) (.closeBrace :: read) []
      .nil (first :: rest) := by
  obtain ⟨depthSame, lexemes, noTexts, made⟩ := groups
  rw [noTexts rfl] at lexemes made
  rw [pendingStart, if_neg (by decide), List.nil_append] at made
  refine ⟨congrArg (· + 1) depthSame, ?_, fun _ => rfl, ?_⟩
  · rw [lexemes, closingLexemes, closingLexemes, List.flatMap_cons]
    rfl
  · rw [List.append_nil, closingCalls, List.flatMap_cons]
    cases last with
    | openBrace => exact absurd ⟨rfl, rfl⟩ nonempty
    | closeBrace =>
        rw [state.1, state.2, calls, if_pos rfl, made]
        rfl
    | token text =>
        rw [state.1, calls, if_neg state.2, made]
        rfl

/-- A token of the group that is open. -/
theorem GroupsOf.token
    {text : String}
    (groups : GroupsOf true (tokenList ++ [text]) depth read texts first rest) :
    GroupsOf true tokenList depth (.token text :: read) (text :: texts) first
      rest := by
  obtain ⟨depthSame, lexemes, _, made⟩ := groups
  refine ⟨depthSame, ?_, ?_, ?_⟩
  · rw [lexemes]
    rfl
  · intro impossible
    cases impossible
  · rw [calls, if_pos rfl, made, List.append_assoc]
    rfl

end GroupsOf

theorem exists_groupsOf
    {last : Lexeme} {allowToken : Bool}
    {tokenList : StringVector} {depth : Nat}
    {read : List Lexeme}
    (state : StateAfter allowToken tokenList last)
    (within : allowToken = true → 0 < depth)
    (placed : List.IsChain Placed (last :: read))
    (nonempty : List.IsChain NotEmpty (last :: read))
    (balanced : Balanced depth read) :
    ∃ texts first rest,
      GroupsOf allowToken tokenList depth read texts first rest := by
  induction read generalizing last allowToken tokenList depth with
  | nil =>
      have outside : depth = 0 := balanced
      have closed : allowToken = false := by
        cases allowToken with
        | false => rfl
        | true => exact absurd (within rfl) (by omega)
      refine ⟨[], .nil, [], outside.symm, rfl, fun _ => rfl, ?_⟩
      rw [closed]
      rfl
  | cons lexeme others ih =>
      rw [List.isChain_cons_cons] at placed nonempty
      cases lexeme with
      | openBrace =>
          obtain ⟨texts, first, rest, groups⟩ :=
            @ih .openBrace true [] (depth + 1) ⟨rfl, rfl⟩
              (fun _ => Nat.succ_pos depth) placed.2 nonempty.2 balanced
          cases rest with
          | nil => exact absurd groups.depth_eq (Nat.succ_ne_zero depth).symm
          | cons closing rest =>
              exact ⟨[], _, rest, groups.openBrace state placed.1⟩
      | closeBrace =>
          cases depth with
          | zero => exact absurd balanced id
          | succ depth =>
              obtain ⟨texts, first, rest, groups⟩ :=
                @ih .closeBrace false [] depth ⟨rfl, rfl⟩
                  (fun impossible => Bool.noConfusion impossible) placed.2
                  nonempty.2 balanced
              exact ⟨[], .nil, _, groups.closeBrace state nonempty.1⟩
      | token text =>
          have inGroup : allowToken = true := by
            cases last with
            | openBrace => exact state.1
            | closeBrace => exact absurd ⟨rfl, rfl⟩ (placed.1.2 text)
            | token other => exact state.1
          obtain ⟨texts, first, rest, groups⟩ :=
            @ih (.token text) true (tokenList ++ [text]) depth
              ⟨rfl, List.concat_ne_nil text tokenList⟩
              (fun _ => within inGroup) placed.2 nonempty.2
              (by cases depth <;> exact balanced)
          rw [inGroup]
          exact ⟨_, first, rest, groups.token⟩

/-- What is well placed, not empty and balanced is a sequence of groups, with the
calls for these. -/
theorem exists_groups
    {read : List Lexeme}
    (placed : AllPlaced read) (nonempty : NoEmptyGroup read)
    (balanced : Balanced 0 read) :
    ∃ groups : Groups, read = groups.lexemes ∧
      calls false [] read = groups.calls := by
  have chain : List.IsChain NotEmpty (.closeBrace :: read) := by
    apply nonempty.cons
    intro lexeme _ impossible
    cases impossible.1
  obtain ⟨texts, first, rest, groups⟩ :=
    @exists_groupsOf .closeBrace false [] 0 read ⟨rfl, rfl⟩
      (fun impossible => Bool.noConfusion impossible) placed chain balanced
  have lexemes := groups.lexemes_eq
  have made := groups.calls_eq
  rw [groups.texts_eq rfl, List.length_eq_zero_iff.mp groups.depth_eq]
    at lexemes made
  refine ⟨first, ?_, ?_⟩
  · rw [lexemes]
    exact List.append_nil _
  · rw [made]
    exact List.append_nil _

/-! ## Brackets and tokens of groups -/

theorem balanced_tokens
    (texts : StringVector) (depth : Nat) (rest : List Lexeme) :
    Balanced depth (texts.map .token ++ rest) ↔ Balanced depth rest := by
  induction texts with
  | nil => exact Iff.rfl
  | cons text others ih =>
      rw [List.map_cons, List.cons_append]
      cases depth with
      | zero => exact ih
      | succ depth => exact ih

theorem Groups.balanced_lexemes
    (groups : Groups) (depth : Nat) (rest : List Lexeme) :
    Balanced depth (groups.lexemes ++ rest) ↔ Balanced depth rest := by
  induction groups generalizing depth rest with
  | nil => exact Iff.rfl
  | cons tokens children siblings childrenHypothesis siblingsHypothesis =>
      rw [Groups.lexemes, List.cons_append, List.append_assoc,
        List.append_assoc, List.cons_append, Balanced, balanced_tokens,
        childrenHypothesis, Balanced, siblingsHypothesis]

def starts (made : List Call) : Nat :=
  made.countP (· ≠ .endElement)

def ends (made : List Call) : Nat :=
  made.count .endElement

@[simp] theorem starts_startElement
    (tokens : StringVector) (made : List Call) :
    starts (.startElement tokens :: made) = starts made + 1 := by
  rw [starts, List.countP_cons_of_pos]
  · rfl
  · rfl

@[simp] theorem starts_endElement (made : List Call) :
    starts (.endElement :: made) = starts made := by
  rw [starts, List.countP_cons_of_neg]
  · rfl
  · intro impossible
    cases impossible

@[simp] theorem ends_startElement
    (tokens : StringVector) (made : List Call) :
    ends (.startElement tokens :: made) = ends made :=
  List.count_cons_of_ne (fun impossible => by cases impossible)

@[simp] theorem ends_endElement (made : List Call) :
    ends (.endElement :: made) = ends made + 1 :=
  List.count_cons_self

/-- There is a start for every opening bracket. -/
theorem Groups.starts_calls (groups : Groups) :
    starts groups.calls = groups.lexemes.count .openBrace := by
  have noBrace : ∀ texts : StringVector,
      (texts.map Lexeme.token).count .openBrace = 0 := by
    intro texts
    rw [List.count_eq_zero]
    intro member
    obtain ⟨text, _, impossible⟩ := List.mem_map.mp member
    cases impossible
  have starts_append : ∀ first second : List Call,
      starts (first ++ second) = starts first + starts second :=
    fun _ _ => List.countP_append
  induction groups with
  | nil => rfl
  | cons tokens children siblings childrenHypothesis siblingsHypothesis =>
      rw [Groups.calls, Groups.lexemes, starts_startElement, starts_append,
        starts_endElement, childrenHypothesis, siblingsHypothesis,
        List.count_cons_self, List.count_append, List.count_append, noBrace,
        List.count_cons_of_ne (by decide)]
      omega

/-- The start of a group is not yet made. -/
def startPending : Lexeme → Nat
  | .openBrace => 1
  | .closeBrace => 0
  | .token _ => 1

/-- An empty group has no start. -/
theorem starts_calls
    {last : Lexeme} {allowToken : Bool}
    {tokenList : StringVector} {read : List Lexeme}
    (state : StateAfter allowToken tokenList last)
    (placed : List.IsChain Placed (last :: read)) :
    starts (calls allowToken tokenList read) ≤
        read.count .openBrace + startPending last ∧
      (starts (calls allowToken tokenList read) =
          read.count .openBrace + startPending last →
        List.IsChain NotEmpty (last :: read)) := by
  induction read generalizing last allowToken tokenList with
  | nil => exact ⟨Nat.zero_le _, fun _ => .singleton last⟩
  | cons lexeme rest ih =>
      rw [List.isChain_cons_cons] at placed ⊢
      cases lexeme with
      | openBrace =>
          obtain ⟨bound, reached⟩ :=
            @ih .openBrace true [] ⟨rfl, rfl⟩ placed.2
          have distinct : NotEmpty last .openBrace :=
            fun impossible => by cases impossible.2
          rw [List.count_cons_self]
          rw [startPending] at bound reached
          cases last with
          | openBrace => exact absurd ⟨rfl, rfl⟩ placed.1.1
          | closeBrace =>
              rw [state.1, state.2, startPending]
              exact ⟨bound, fun same => ⟨distinct, reached same⟩⟩
          | token text =>
              rw [state.1, calls, if_pos rfl, if_neg state.2,
                starts_startElement, startPending]
              exact ⟨by omega, fun same => ⟨distinct, reached (by omega)⟩⟩
      | closeBrace =>
          obtain ⟨bound, reached⟩ :=
            @ih .closeBrace false [] ⟨rfl, rfl⟩ placed.2
          rw [List.count_cons_of_ne (by decide)]
          rw [startPending, Nat.add_zero] at bound reached
          cases last with
          | openBrace =>
              rw [state.1, state.2, calls, if_pos rfl, starts_endElement,
                startPending]
              exact ⟨by omega, fun same => by omega⟩
          | closeBrace =>
              rw [state.1, state.2, calls, if_pos rfl, starts_endElement,
                startPending]
              refine ⟨bound, fun same => ⟨?_, reached same⟩⟩
              intro impossible
              cases impossible.1
          | token text =>
              rw [state.1, calls, if_neg state.2, starts_startElement,
                starts_endElement, startPending]
              refine ⟨by omega, fun same => ⟨?_, reached (by omega)⟩⟩
              intro impossible
              cases impossible.1
      | token text =>
          have inGroup : allowToken = true ∧ startPending last = 1 := by
            cases last with
            | openBrace => exact ⟨state.1, rfl⟩
            | closeBrace => exact absurd ⟨rfl, rfl⟩ (placed.1.2 text)
            | token other => exact ⟨state.1, rfl⟩
          obtain ⟨bound, reached⟩ :=
            @ih (.token text) true (tokenList ++ [text])
              ⟨rfl, List.concat_ne_nil text tokenList⟩ placed.2
          rw [List.count_cons_of_ne (fun impossible => by cases impossible),
            inGroup.1, inGroup.2, calls, if_pos rfl]
          refine ⟨bound, fun same => ⟨?_, reached same⟩⟩
          intro impossible
          cases impossible.2

/-- Sequences whose calls are those of groups are balanced and have no empty
group. -/
theorem balanced_of_groups
    {groups : Groups} {read : List Lexeme}
    (placed : AllPlaced read)
    (lexemes : read = groups.lexemes)
    (made : calls false [] read = groups.calls) :
    NoEmptyGroup read ∧ Balanced 0 read := by
  constructor
  · have counted := (@starts_calls .closeBrace false [] read ⟨rfl, rfl⟩
      placed).2 (by
        rw [made, groups.starts_calls, lexemes]
        rfl)
    exact counted.tail
  · have balanced := (groups.balanced_lexemes 0 []).mpr rfl
    rw [List.append_nil, ← lexemes] at balanced
    exact balanced

/-- No start is made without tokens. -/
theorem startElement_nil_notMem_calls
    (allowToken : Bool) (tokenList : StringVector) (read : List Lexeme) :
    Call.startElement [] ∉ calls allowToken tokenList read := by
  induction read generalizing allowToken tokenList with
  | nil => exact List.not_mem_nil
  | cons lexeme rest ih =>
      cases lexeme with
      | openBrace =>
          rw [calls]
          cases allowToken with
          | false => exact ih true tokenList
          | true =>
              rw [if_pos rfl]
              by_cases nothing : tokenList = []
              · rw [if_pos nothing]
                exact List.not_mem_nil
              · rw [if_neg nothing, List.mem_cons, not_or]
                refine ⟨?_, ih true []⟩
                intro same
                injection same with empty
                exact nothing empty.symm
      | closeBrace =>
          rw [calls]
          by_cases nothing : tokenList = []
          · rw [if_pos nothing, List.mem_cons, not_or]
            refine ⟨?_, ih false []⟩
            intro impossible
            cases impossible
          · rw [if_neg nothing, List.mem_cons, List.mem_cons, not_or, not_or]
            refine ⟨?_, ?_, ih false []⟩
            · intro same
              injection same with empty
              exact nothing empty.symm
            · intro impossible
              cases impossible
      | token text =>
          rw [calls]
          cases allowToken with
          | false => exact List.not_mem_nil
          | true => exact ih true (tokenList ++ [text])

end FEDFile
end OpenRTI
