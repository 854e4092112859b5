import OpenRTI.Types

/-!
# The parentheses reader

A file of nested groups is read character by character.  Every group begins with
tokens, which are handed to a content handler when the first bracket after them
is read.
-/

namespace OpenRTI
namespace FEDFile

/-- What is called while a file is read.  Each call may throw. -/
structure ContentHandler (ε σ : Type) where
  startDocument : σ → Except ε σ
  endDocument : σ → Except ε σ
  startElement : StringVector → σ → Except ε σ
  endElement : σ → Except ε σ

/-- Why reading stops: the error handler is called, or a call of the content
handler throws. -/
inductive ParseFailure (ε : Type)
  | error (line column : BitVec 32) (message : String)
  | exception (thrown : ε)

structure Position where
  line : BitVec 32
  column : BitVec 32

namespace Position

def start : Position := ⟨0, 0⟩

/-- A character is read. -/
def get (position : Position) : Position :=
  { position with column := position.column + 1 }

/-- Where the next line begins. -/
def afterCharacter (position : Position) (character : Char) : Position :=
  if character = '\n' then ⟨position.line + 1, 0⟩
  else if character = '\r' then { position with column := 0 }
  else position

end Position

/-- The variables of the loop, and the content handler. -/
structure ReaderState (σ : Type) where
  newToken : Bool
  allowToken : Bool
  tokenList : StringVector
  contentHandler : σ

def IsSpace (character : Char) : Prop :=
  character = '\n' ∨ character = '\r' ∨ character = ' ' ∨ character = '\t'

instance (character : Char) : Decidable (IsSpace character) :=
  inferInstanceAs (Decidable (_ ∨ _))

/-- Append a character to the last token.  There is one, as the loop appends a
new token first. -/
def pushCharacter (character : Char) : StringVector → StringVector
  | [] => []
  | [last] => [last.push character]
  | first :: second :: rest =>
      first :: pushCharacter character (second :: rest)

/-- Skip to the end of a line, which itself stays in the stream. -/
def skipComment : List Char → List Char
  | [] => []
  | character :: rest =>
      if character = '\n' ∨ character = '\r' then character :: rest
      else skipComment rest

theorem length_skipComment (stream : List Char) :
    (skipComment stream).length ≤ stream.length := by
  induction stream with
  | nil => exact Nat.le_refl 0
  | cons character rest ih =>
      rw [skipComment]
      by_cases ends : character = '\n' ∨ character = '\r'
      · apply Nat.le_of_eq
        rw [if_pos ends]
      · rw [if_neg ends]
        exact Nat.le_succ_of_le ih

namespace ContentHandler

variable {ε σ : Type}

/-- The effect of a character that does not begin a comment. -/
def readCharacter
    (contentHandler : ContentHandler ε σ)
    (position : Position)
    (character : Char)
    (self : ReaderState σ) :
    Except (ParseFailure ε) (ReaderState σ) :=
  if character = '(' then do
    let self ←
      if self.allowToken then
        if self.tokenList = [] then
          .error (.error position.line position.column
            "Opening brace without any token before")
        else do
          let after ← (contentHandler.startElement self.tokenList
            self.contentHandler).mapError .exception
          .ok { self with tokenList := [], contentHandler := after }
      else .ok self
    .ok { self with newToken := true, allowToken := true }
  else if character = ')' then do
    let self ←
      if self.tokenList = [] then .ok self
      else do
        let after ← (contentHandler.startElement self.tokenList
          self.contentHandler).mapError .exception
        .ok { self with tokenList := [], contentHandler := after }
    let after ← (contentHandler.endElement self.contentHandler).mapError
      .exception
    .ok { self with
      newToken := true, allowToken := false, contentHandler := after }
  else if IsSpace character then .ok { self with newToken := true }
  else if self.allowToken = false then
    .error (.error position.line position.column
      "Non whitespace character past closing brace")
  else
    let tokenList :=
      if self.newToken then self.tokenList ++ [""] else self.tokenList
    .ok { self with
      newToken := false, tokenList := pushCharacter character tokenList }

/-- The loop over the characters.  Two semicolons begin a comment, a semicolon
at the end of the stream is dropped. -/
def readStream (contentHandler : ContentHandler ε σ) :
    Position → ReaderState σ → List Char → Except (ParseFailure ε) σ
  | _, self, [] =>
      (contentHandler.endDocument self.contentHandler).mapError .exception
  | position, self, character :: rest =>
      if character = ';' then
        match rest with
        | [] =>
            (contentHandler.endDocument self.contentHandler).mapError .exception
        | next :: others =>
            if next = ';' then
              contentHandler.readStream position.get self (skipComment others)
            else do
              let self ← contentHandler.readCharacter position.get character
                self
              contentHandler.readStream position.get self (next :: others)
      else do
        let self ← contentHandler.readCharacter position.get character self
        contentHandler.readStream (position.get.afterCharacter character) self
          rest
  termination_by _ _ stream => stream.length
  decreasing_by
    · have shorter := length_skipComment others
      rw [List.length_cons, List.length_cons]
      omega
    · exact Nat.lt_succ_self _
    · exact Nat.lt_succ_self _

def parse
    (contentHandler : ContentHandler ε σ)
    (stream : List Char)
    (self : σ) : Except (ParseFailure ε) σ := do
  let self ← (contentHandler.startDocument self).mapError .exception
  contentHandler.readStream .start ⟨true, false, [], self⟩ stream

end ContentHandler

end FEDFile
end OpenRTI
