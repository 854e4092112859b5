import OpenRTI.FEDFile.ParenthesesReader
import OpenRTI.ServerModel.ModuleValidation

/-!
# Reading federation files

The content handler keeps a stack of modes, one for each group that is open, and
checks by it where a group may stand.  What a group says goes to the builder of
the module.
-/

namespace OpenRTI
namespace FEDFile

open ServerModel (BuilderCall FOMStringModule2 FOMStringModuleBuilder
  ReadingFailure caseCompare)

/-- An exception, a failed assertion, or a pop from the empty stack of modes. -/
inductive FEDFailure
  | exception (failure : ReadingFailure)
  | assertionFailed
  | popOfEmptyModeStack
  deriving DecidableEq

inductive Mode
  | unknownMode
  | fedMode
  | federationMode
  | fedVersionMode
  | spacesMode
  | spaceMode
  | dimensionMode
  | objectsMode
  | objectClassMode
  | attributeMode
  | interactionsMode
  | interactionClassMode
  | parameterMode
  deriving DecidableEq

structure FEDContentHandler where
  modeStack : List Mode := []
  fomStringModuleBuilder : FOMStringModuleBuilder := {}

/-! ## Names of the older standard -/

def normalizeTransportationType (name : String) : String :=
  if caseCompare name "reliable" then "HLAreliable"
  else if caseCompare name "best_effort" then "HLAbestEffort"
  else name

def normalizeOrderType (name : String) : String :=
  if caseCompare name "receive" then "Receive" else "TimeStamp"

def normalizeInteractionClassName (name : String) : String :=
  if caseCompare name "InteractionRoot" then "HLAinteractionRoot" else name

def normalizeObjectClassName (name : String) : String :=
  if caseCompare name "ObjectRoot" then "HLAobjectRoot" else name

def normalizeObjectClassAttributeName (name : String) : String :=
  if caseCompare name "privilegeToDelete" then "HLAprivilegeToDeleteObject"
  else name

/-! ## Where groups may stand -/

/-- The mode of the innermost open group. -/
def getCurrentMode (modeStack : List Mode) : Mode :=
  modeStack.getLast?.getD .unknownMode

/-- An exception unless a condition holds. -/
def require (condition : Bool) (reason : String) :
    Except ReadingFailure Unit :=
  if condition then .ok () else .error (.errorReadingFDD reason)

/-- The mode of a group that begins with the given tokens, and what the builder
is called for it. -/
def enterGroup
    (modeStack : List Mode)
    (t0 : String)
    (tokens : StringVector) :
    Except ReadingFailure (Mode × List BuilderCall) := do
  let currentMode := getCurrentMode modeStack
  let token (index : Nat) : String := tokens.getD index ""
  if caseCompare t0 "FED" then
    require (modeStack = []) "FED token is not at top level!"
    require (tokens.length ≤ 1) "FED contains too many tokens!"
    .ok (.fedMode, [])
  else if caseCompare t0 "Federation" then
    require (currentMode = .fedMode)
      "Federation token is not under the FED level!"
    require (2 ≤ tokens.length) "Federation contains no name information!"
    require (tokens.length ≤ 2) "Federation contains too many tokens!"
    .ok (.federationMode, [])
  else if caseCompare t0 "FEDversion" then
    require (currentMode = .fedMode)
      "FEDversion token is not under the FED level!"
    require (2 ≤ tokens.length) "FEDversion contains no version information!"
    require (tokens.length ≤ 2) "FEDversion contains too many tokens!"
    require (token 1 = "1.3" || caseCompare (token 1) "v1.3" ||
        token 1 = "1_3" || caseCompare (token 1) "v1_3")
      ("FEDversion \"" ++ token 1 ++ "\" is not supported!")
    .ok (.fedVersionMode, [])
  else if caseCompare t0 "spaces" then
    require (currentMode = .fedMode) "spaces token is not under the FED level!"
    require (tokens.length ≤ 1) "spaces contains too many tokens!"
    .ok (.spacesMode, [])
  else if caseCompare t0 "space" then
    require (currentMode = .spacesMode)
      "space token is not under the spaces level!"
    require (2 ≤ tokens.length) "space contains no name information!"
    require (tokens.length ≤ 2) "space contains too many tokens!"
    .ok (.spaceMode, [])
  else if caseCompare t0 "dimension" then
    require (currentMode = .spaceMode)
      "dimension token is not under the space level!"
    require (2 ≤ tokens.length) "dimension contains no name information!"
    require (tokens.length ≤ 2) "dimension contains too many tokens!"
    .ok (.dimensionMode, [])
  else if caseCompare t0 "objects" then
    require (currentMode = .fedMode)
      "objects token is not under the FED level!"
    require (tokens.length ≤ 1) "objects contains too many tokens!"
    .ok (.objectsMode, [])
  else if caseCompare t0 "interactions" then
    require (currentMode = .fedMode)
      "interactions token is not under the FED level!"
    require (tokens.length ≤ 1) "interactions contains too many tokens!"
    .ok (.interactionsMode, [])
  else if caseCompare t0 "class" then
    if currentMode = .objectsMode ∨ currentMode = .objectClassMode then
      require (2 ≤ tokens.length) "object class contains no name information!"
      require (tokens.length ≤ 2) "object class contains too many tokens!"
      .ok (.objectClassMode,
        [.pushObjectClass,
          .pushObjectClassName (normalizeObjectClassName (token 1))])
    else if currentMode = .interactionsMode ∨
        currentMode = .interactionClassMode then
      require (4 ≤ tokens.length)
        "interaction class contains too little information!"
      require (tokens.length ≤ 5)
        "interaction class contains too many tokens!"
      .ok (.interactionClassMode,
        [.pushInteractionClass,
          .pushInteractionClassName
            (normalizeInteractionClassName (token 1)),
          .setInteractionClassTransportationType
            (normalizeTransportationType (token 2)),
          .setInteractionClassOrderType (normalizeOrderType (token 3))])
    else
      .error (.errorReadingFDD
        "class only allowed in object class or interaction class definitions!")
  else if caseCompare t0 "attribute" then
    require (currentMode = .objectClassMode)
      "attribute token is not under an object class level!"
    require (4 ≤ tokens.length) "attribute contains too little information!"
    require (tokens.length ≤ 5) "attribute contains too many tokens!"
    .ok (.attributeMode,
      [.addAttribute,
        .setAttributeName (normalizeObjectClassAttributeName (token 1)),
        .setAttributeTransportationType
          (normalizeTransportationType (token 2)),
        .setAttributeOrderType (normalizeOrderType (token 3))])
  else if caseCompare t0 "parameter" then
    require (currentMode = .interactionClassMode)
      "parameter token is not under an interaction class level!"
    require (2 ≤ tokens.length)
      "interaction class contains no name information!"
    require (tokens.length ≤ 2) "interaction class contains too many tokens!"
    .ok (.parameterMode, [.addParameter, .setParameterName (token 1)])
  else .ok (.unknownMode, [])

/-! ## The content handler -/

namespace FEDContentHandler

def build
    (calls : List BuilderCall)
    (self : FEDContentHandler) : Except FEDFailure FEDContentHandler := do
  let fomStringModuleBuilder ←
    (self.fomStringModuleBuilder.run calls).mapError .exception
  .ok { self with fomStringModuleBuilder }

def startDocument (self : FEDContentHandler) :
    Except FEDFailure FEDContentHandler :=
  if self.modeStack ≠ [] then .error .assertionFailed
  else
    self.build
      [.addTransportationType,
        .setTransportationTypeName (normalizeTransportationType "reliable"),
        .addTransportationType,
        .setTransportationTypeName
          (normalizeTransportationType "best_effort")]

def endDocument (self : FEDContentHandler) :
    Except FEDFailure FEDContentHandler :=
  if self.modeStack ≠ [] then .error .assertionFailed
  else do
    let fomStringModuleBuilder ←
      self.fomStringModuleBuilder.validate.mapError .exception
    .ok { self with fomStringModuleBuilder }

def startElement
    (tokens : StringVector)
    (self : FEDContentHandler) : Except FEDFailure FEDContentHandler :=
  match tokens with
  | [] => .error .assertionFailed
  | t0 :: _ => do
      let (mode, calls) ←
        (enterGroup self.modeStack t0 tokens).mapError .exception
      { self with modeStack := self.modeStack ++ [mode] }.build calls

/-- The class of a group is popped from the builder. -/
def leaveGroup : Mode → List BuilderCall
  | .objectClassMode => [.popObjectClass]
  | .interactionClassMode => [.popInteractionClass]
  | _ => []

def endElement (self : FEDContentHandler) :
    Except FEDFailure FEDContentHandler := do
  let self ← self.build (leaveGroup (getCurrentMode self.modeStack))
  if self.modeStack = [] then .error .popOfEmptyModeStack
  else .ok { self with modeStack := self.modeStack.dropLast }

/-- The content handler of federation files. -/
def contentHandler : ContentHandler FEDFailure FEDContentHandler where
  startDocument := startDocument
  endDocument := endDocument
  startElement := startElement
  endElement := endElement

end FEDContentHandler

/-! ## The reader -/

/-- The error handler throws. -/
def error (line column : BitVec 32) (msg : String) : FEDFailure :=
  .exception (.errorReadingFDD
    ("Error parsing fed file in line " ++ toString line.toNat ++
      " at column " ++ toString column.toNat ++ ": " ++ msg ++ "\n"))

def read (stream : List Char) : Except FEDFailure FOMStringModule2 :=
  match FEDContentHandler.contentHandler.parse stream {} with
  | .ok self => .ok self.fomStringModuleBuilder.module
  | .error (.error line column msg) => .error (error line column msg)
  | .error (.exception thrown) => .error thrown

end FEDFile
end OpenRTI
