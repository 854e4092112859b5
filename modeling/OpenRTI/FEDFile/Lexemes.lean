import OpenRTI.FEDFile.ParenthesesReader

/-!
# Brackets and tokens

A stream without its comments is a sequence of brackets and tokens.  The calls
that are made while it is read, and whether an error is reported, depend on this
sequence only.
-/

namespace OpenRTI
namespace FEDFile

inductive Lexeme
  | openBrace
  | closeBrace
  | token (text : String)
  deriving DecidableEq

/-! ## Splitting a stream -/

/-- The stream without comments, and without a semicolon at its end.  The flag
tells whether a comment has begun. -/
def uncomment : Bool → List Char → List Char
  | _, [] => []
  | true, character :: rest =>
      if character = '\n' ∨ character = '\r' then
        character :: uncomment false rest
      else uncomment true rest
  | false, character :: rest =>
      if character = ';' then
        match rest with
        | [] => []
        | next :: others =>
            if next = ';' then uncomment true others
            else character :: uncomment false (next :: others)
      else character :: uncomment false rest

/-- The token that has been collected. -/
def collected (pending : List Char) : List Lexeme :=
  if pending = [] then [] else [.token (String.ofList pending)]

/-- Split where brackets and spaces are. -/
def tokenize (pending : List Char) : List Char → List Lexeme
  | [] => collected pending
  | character :: rest =>
      if character = '(' then
        collected pending ++ .openBrace :: tokenize [] rest
      else if character = ')' then
        collected pending ++ .closeBrace :: tokenize [] rest
      else if IsSpace character then collected pending ++ tokenize [] rest
      else tokenize (pending ++ [character]) rest

/-- The brackets and tokens of a stream. -/
def lexemes (stream : List Char) : List Lexeme :=
  tokenize [] (uncomment false stream)

/-! ## The calls -/

inductive Call
  | startElement (tokens : StringVector)
  | endElement
  deriving DecidableEq

/-- The calls for brackets and tokens up to the first error. -/
def calls (allowToken : Bool) (tokenList : StringVector) :
    List Lexeme → List Call
  | [] => []
  | .openBrace :: rest =>
      if allowToken then
        if tokenList = [] then []
        else .startElement tokenList :: calls true [] rest
      else calls true tokenList rest
  | .closeBrace :: rest =>
      if tokenList = [] then .endElement :: calls false [] rest
      else .startElement tokenList :: .endElement :: calls false [] rest
  | .token text :: rest =>
      if allowToken then calls true (tokenList ++ [text]) rest else []

/-- Whether an error is reported. -/
def reported (allowToken : Bool) (tokenList : StringVector) :
    List Lexeme → Bool
  | [] => false
  | .openBrace :: rest =>
      if allowToken then
        if tokenList = [] then true else reported true [] rest
      else reported true tokenList rest
  | .closeBrace :: rest => reported false [] rest
  | .token text :: rest =>
      if allowToken then reported true (tokenList ++ [text]) rest else true

namespace ContentHandler

variable {ε σ : Type}

/-- Calls one after the other. -/
def replay (contentHandler : ContentHandler ε σ) :
    List Call → σ → Except ε σ
  | [], self => .ok self
  | .startElement tokens :: rest, self => do
      let self ← contentHandler.startElement tokens self
      contentHandler.replay rest self
  | .endElement :: rest, self => do
      let self ← contentHandler.endElement self
      contentHandler.replay rest self

theorem replay_append
    (contentHandler : ContentHandler ε σ) (first second : List Call)
    (self : σ) :
    contentHandler.replay (first ++ second) self =
      contentHandler.replay first self >>= contentHandler.replay second := by
  induction first generalizing self with
  | nil => rfl
  | cons call rest ih =>
      cases call with
      | startElement tokens =>
          rw [List.cons_append, replay, replay]
          cases contentHandler.startElement tokens self with
          | ok after => exact ih after
          | error thrown => rfl
      | endElement =>
          rw [List.cons_append, replay, replay]
          cases contentHandler.endElement self with
          | ok after => exact ih after
          | error thrown => rfl

/-- The calls for brackets and tokens.  An error of the reader has no
exception. -/
def run
    (contentHandler : ContentHandler ε σ)
    (allowToken : Bool)
    (tokenList : StringVector)
    (read : List Lexeme)
    (self : σ) : Except (Option ε) σ := do
  let self ← (contentHandler.replay (calls allowToken tokenList read)
    self).mapError some
  if reported allowToken tokenList read then .error none
  else (contentHandler.endDocument self).mapError some

variable {contentHandler : ContentHandler ε σ} {tokenList : StringVector}
  {read : List Lexeme} {self : σ}

theorem run_open (some_tokens : tokenList ≠ []) :
    contentHandler.run true tokenList (.openBrace :: read) self =
      ((contentHandler.startElement tokenList self).mapError some >>=
        contentHandler.run true [] read) := by
  rw [run, calls, reported, if_pos rfl, if_neg some_tokens, if_pos rfl,
    if_neg some_tokens, replay]
  cases contentHandler.startElement tokenList self with
  | ok after => rfl
  | error thrown => rfl

theorem run_close_without_tokens (allowToken : Bool) :
    contentHandler.run allowToken [] (.closeBrace :: read) self =
      ((contentHandler.endElement self).mapError some >>=
        contentHandler.run false [] read) := by
  rw [run, calls, reported, if_pos rfl, replay]
  cases contentHandler.endElement self with
  | ok after => rfl
  | error thrown => rfl

theorem run_close
    (allowToken : Bool)
    (some_tokens : tokenList ≠ []) :
    contentHandler.run allowToken tokenList (.closeBrace :: read) self =
      ((contentHandler.startElement tokenList self).mapError some >>=
        contentHandler.run allowToken [] (.closeBrace :: read)) := by
  rw [run, calls, reported, if_neg some_tokens, replay]
  cases contentHandler.startElement tokenList self with
  | ok after => rfl
  | error thrown => rfl

end ContentHandler

/-! ## Characters -/

theorem uncomment_skipComment (stream : List Char) :
    uncomment false (skipComment stream) = uncomment true stream := by
  induction stream with
  | nil => rfl
  | cons character rest ih =>
      rw [skipComment, uncomment]
      by_cases ends : character = '\n' ∨ character = '\r'
      · have plain : character ≠ ';' := by
          rintro rfl
          obtain newline | carriageReturn := ends
          · cases newline
          · cases carriageReturn
        rw [if_pos ends, if_pos ends, uncomment.eq_def]
        exact if_neg plain
      · rw [if_neg ends, if_neg ends]
        exact ih

variable {pending : List Char}

theorem exists_token_of_tokenize
    (some_characters : pending ≠ [])
    (characters : List Char) :
    ∃ text read, tokenize pending characters = .token text :: read := by
  have first : collected pending = [.token (String.ofList pending)] :=
    if_neg some_characters
  induction characters generalizing pending with
  | nil => exact ⟨_, [], first⟩
  | cons character rest ih =>
      rw [tokenize, first]
      by_cases opens : character = '('
      · rw [if_pos opens]
        exact ⟨_, _, rfl⟩
      · rw [if_neg opens]
        by_cases closes : character = ')'
        · rw [if_pos closes]
          exact ⟨_, _, rfl⟩
        · rw [if_neg closes]
          by_cases space : IsSpace character
          · rw [if_pos space]
            exact ⟨_, _, rfl⟩
          · rw [if_neg space]
            have longer := List.concat_ne_nil character pending
            exact ih longer (if_neg longer)

/-- The variables of the loop where some characters of a token are read. -/
structure Collects
    {σ : Type}
    (state : ReaderState σ)
    (pending : List Char)
    (tokens : StringVector) : Prop where
  newToken_iff : state.newToken = true ↔ pending = []
  allowToken : pending ≠ [] → state.allowToken = true
  tokenList_eq : state.tokenList =
    tokens ++ if pending = [] then [] else [String.ofList pending]

variable {tokens : StringVector}

/-- The token is complete. -/
theorem Collects.run_collected
    {ε σ : Type} {contentHandler : ContentHandler ε σ}
    {state : ReaderState σ}
    (collects : Collects state pending tokens) (read : List Lexeme) :
    contentHandler.run state.allowToken tokens (collected pending ++ read)
        state.contentHandler =
      contentHandler.run state.allowToken state.tokenList read
        state.contentHandler := by
  rw [collected, collects.tokenList_eq]
  by_cases nothing : pending = []
  · rw [if_pos nothing, if_pos nothing, List.nil_append, List.append_nil]
  · rw [if_neg nothing, if_neg nothing, collects.allowToken nothing]
    rfl

theorem collects_new
    {σ : Type}
    (allowToken : Bool) (tokens : StringVector) (contentHandler : σ) :
    Collects ⟨true, allowToken, tokens, contentHandler⟩ [] tokens where
  newToken_iff := ⟨fun _ => rfl, fun _ => rfl⟩
  allowToken some_characters := absurd rfl some_characters
  tokenList_eq := (List.append_nil tokens).symm

theorem pushCharacter_concat
    (character : Char) (tokens : StringVector) (last : String) :
    pushCharacter character (tokens ++ [last]) =
      tokens ++ [last.push character] := by
  induction tokens with
  | nil => rfl
  | cons first rest ih =>
      cases rest with
      | nil => rfl
      | cons second others =>
          rw [List.cons_append, List.cons_append, pushCharacter,
            ← List.cons_append, ih]
          rfl

/-- The exception, if a failure is one. -/
def ParseFailure.thrown?
    {ε : Type} : ParseFailure ε → Option ε
  | .error _ _ _ => none
  | .exception thrown => some thrown

theorem mapError_bind
    {ε δ α β : Type}
    (change : ε → δ) (first : Except ε α) (next : α → Except ε β) :
    (first >>= next).mapError change =
      first.mapError change >>= fun value => (next value).mapError change := by
  cases first with
  | ok value => rfl
  | error failure => rfl

theorem mapError_exception
    {ε α : Type}
    (result : Except ε α) :
    (result.mapError ParseFailure.exception).mapError ParseFailure.thrown? =
      result.mapError some := by
  cases result with
  | ok value => rfl
  | error thrown => rfl

namespace ContentHandler

variable {ε σ : Type} {contentHandler : ContentHandler ε σ}

/-- What follows a character agrees with what follows it in the sequence. -/
def Continues
    (contentHandler : ContentHandler ε σ)
    (characters : List Char)
    (next : ReaderState σ → Except (ParseFailure ε) σ) : Prop :=
  ∀ state pending tokens, Collects state pending tokens →
    (next state).mapError ParseFailure.thrown? =
      contentHandler.run state.allowToken tokens (tokenize pending characters)
        state.contentHandler

variable {characters : List Char}
  {next : ReaderState σ → Except (ParseFailure ε) σ}

theorem Continues.openBrace
    (continues : contentHandler.Continues characters next)
    (position : Position) (state : ReaderState σ) :
    (contentHandler.readCharacter position '(' state >>= next).mapError
        ParseFailure.thrown? =
      contentHandler.run state.allowToken state.tokenList
        (.openBrace :: tokenize [] characters) state.contentHandler := by
  obtain ⟨newToken, allowToken, tokenList, handler⟩ := state
  rw [readCharacter, if_pos rfl]
  cases allowToken with
  | false =>
      exact continues _ [] tokenList (collects_new true tokenList handler)
  | true =>
      rw [if_pos rfl]
      by_cases nothing : tokenList = []
      · rw [if_pos nothing, nothing]
        rfl
      · rw [if_neg nothing, run_open nothing]
        dsimp only
        cases contentHandler.startElement tokenList handler with
        | error thrown => rfl
        | ok after =>
            exact continues _ [] [] (collects_new true [] after)

theorem Continues.closeBrace
    (continues : contentHandler.Continues characters next)
    (position : Position) (state : ReaderState σ) :
    (contentHandler.readCharacter position ')' state >>= next).mapError
        ParseFailure.thrown? =
      contentHandler.run state.allowToken state.tokenList
        (.closeBrace :: tokenize [] characters) state.contentHandler := by
  obtain ⟨newToken, allowToken, tokenList, handler⟩ := state
  rw [readCharacter, if_neg (by decide), if_pos rfl]
  have closed : ∀ handler : σ,
      ((do
        let after ← (contentHandler.endElement handler).mapError .exception
        .ok ⟨true, false, [], after⟩ : Except (ParseFailure ε)
          (ReaderState σ)) >>= next).mapError ParseFailure.thrown? =
        contentHandler.run allowToken []
          (.closeBrace :: tokenize [] characters) handler := by
    intro handler
    rw [run_close_without_tokens]
    cases contentHandler.endElement handler with
    | error thrown => rfl
    | ok after => exact continues _ [] [] (collects_new false [] after)
  by_cases nothing : tokenList = []
  · rw [if_pos nothing, nothing]
    exact closed handler
  · rw [if_neg nothing, run_close allowToken nothing]
    dsimp only
    cases contentHandler.startElement tokenList handler with
    | error thrown => rfl
    | ok after => exact closed after

theorem Continues.space
    (continues : contentHandler.Continues characters next)
    (position : Position) (state : ReaderState σ)
    {character : Char}
    (space : IsSpace character) :
    (contentHandler.readCharacter position character state >>= next).mapError
        ParseFailure.thrown? =
      contentHandler.run state.allowToken state.tokenList
        (tokenize [] characters) state.contentHandler := by
  obtain ⟨newToken, allowToken, tokenList, handler⟩ := state
  have neither : character ≠ '(' ∧ character ≠ ')' := by
    constructor
    · rintro rfl
      exact absurd space (by decide)
    · rintro rfl
      exact absurd space (by decide)
  rw [readCharacter, if_neg neither.1, if_neg neither.2, if_pos space]
  exact continues _ [] tokenList (collects_new allowToken tokenList handler)

variable {state : ReaderState σ}

theorem Continues.other
    (continues : contentHandler.Continues characters next)
    (position : Position) (collects : Collects state pending tokens)
    {character : Char}
    (notOpen : character ≠ '(')
    (notClose : character ≠ ')')
    (notSpace : ¬IsSpace character) :
    (contentHandler.readCharacter position character state >>= next).mapError
        ParseFailure.thrown? =
      contentHandler.run state.allowToken tokens
        (tokenize (pending ++ [character]) characters)
        state.contentHandler := by
  obtain ⟨newToken, allowToken, tokenList, handler⟩ := state
  rw [readCharacter, if_neg notOpen, if_neg notClose, if_neg notSpace]
  have longer := List.concat_ne_nil character pending
  cases allowToken with
  | false =>
      obtain ⟨text, read, split⟩ :=
        exists_token_of_tokenize longer characters
      rw [if_pos rfl, split]
      rfl
  | true =>
      rw [if_neg Bool.noConfusion]
      refine continues _ (pending ++ [character]) tokens
        ⟨?_, fun _ => rfl, ?_⟩
      · constructor
        · intro impossible
          cases impossible
        · intro impossible
          exact absurd impossible longer
      · have appended := collects.tokenList_eq
        have begun := collects.newToken_iff
        dsimp only at appended begun
        rw [if_neg longer]
        dsimp only
        by_cases nothing : pending = []
        · rw [if_pos nothing, List.append_nil] at appended
          rw [if_pos (begun.mpr nothing), pushCharacter_concat, appended,
            nothing]
          rfl
        · rw [if_neg nothing] at appended
          rw [if_neg (mt begun.mp nothing), appended, pushCharacter_concat,
            String.ofList_append]
          rfl

/-- One character that does not begin a comment. -/
theorem Continues.character
    (continues : contentHandler.Continues characters next)
    (position : Position) (collects : Collects state pending tokens)
    (character : Char) :
    (contentHandler.readCharacter position character state >>= next).mapError
        ParseFailure.thrown? =
      contentHandler.run state.allowToken tokens
        (tokenize pending (character :: characters))
        state.contentHandler := by
  rw [tokenize]
  by_cases opens : character = '('
  · rw [if_pos opens, opens, continues.openBrace, collects.run_collected]
  · rw [if_neg opens]
    by_cases closes : character = ')'
    · rw [if_pos closes, closes, continues.closeBrace,
        collects.run_collected]
    · rw [if_neg closes]
      by_cases space : IsSpace character
      · rw [if_pos space, continues.space position state space,
          collects.run_collected]
      · rw [if_neg space]
        exact continues.other position collects opens closes space

/-- The loop ends where the stream does. -/
theorem endOfStream
    (collects : Collects state pending tokens) :
    ((contentHandler.endDocument state.contentHandler).mapError
        ParseFailure.exception).mapError ParseFailure.thrown? =
      contentHandler.run state.allowToken tokens (tokenize pending [])
        state.contentHandler := by
  rw [mapError_exception, tokenize, ← List.append_nil (collected pending),
    collects.run_collected]
  rfl

theorem readStream_eq
    (stream : List Char) (position : Position) :
    ∀ state pending tokens, Collects state pending tokens →
      (contentHandler.readStream position state stream).mapError
          ParseFailure.thrown? =
        contentHandler.run state.allowToken tokens
          (tokenize pending (uncomment false stream))
          state.contentHandler := by
  induction size : stream.length using Nat.strongRecOn
    generalizing stream position with
  | ind size ih =>
      intro state pending tokens collects
      cases stream with
      | nil =>
          rw [readStream, uncomment]
          exact endOfStream collects
      | cons character rest =>
          rw [readStream.eq_def, uncomment.eq_def]
          dsimp only
          rw [List.length_cons] at size
          by_cases semicolon : character = ';'
          · rw [if_pos semicolon, if_pos semicolon]
            cases rest with
            | nil => exact endOfStream collects
            | cons following others =>
                dsimp only
                by_cases comment : following = ';'
                · rw [if_pos comment, if_pos comment,
                    ← uncomment_skipComment]
                  have shorter := length_skipComment others
                  rw [List.length_cons] at size
                  exact ih _ (by omega) _ _ rfl state
                    pending tokens collects
                · rw [if_neg comment, if_neg comment]
                  apply Continues.character _ _ collects
                  exact ih _ (by omega) _ _ rfl
          · rw [if_neg semicolon, if_neg semicolon]
            apply Continues.character _ _ collects
            exact ih _ (by omega) _ _ rfl

/-- A stream is read by its brackets and tokens. -/
theorem parse_eq
    (contentHandler : ContentHandler ε σ) (stream : List Char) (self : σ) :
    (contentHandler.parse stream self).mapError ParseFailure.thrown? =
      ((contentHandler.startDocument self).mapError some >>=
        contentHandler.run false [] (lexemes stream)) := by
  rw [parse, mapError_bind, mapError_exception]
  congr 1
  funext self
  exact readStream_eq stream .start _ [] [] (collects_new false [] self)

end ContentHandler

end FEDFile
end OpenRTI
