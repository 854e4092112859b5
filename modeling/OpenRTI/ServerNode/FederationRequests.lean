import OpenRTI.ServerModel.HandleAllocator
import OpenRTI.ServerNode.FederationMembers
import OpenRTI.ServerNode.UpstreamRequestRuns

/-!
# Federation executions of the root server

What the root server does with the requests to create, destroy, enumerate and join
federation executions, and what another server node does with the responses.  The object
models and the federate of the MOM are not looked into: building them may end with any
exception.

A request gets one response, but for a create request where the federate of the MOM can not
be made: success has been sent already when the exception of it is.
-/

namespace OpenRTI
namespace ServerNode

open Foundation (OrderedMap)
open ServerModel (HandleAllocator)

/-! ## Messages -/

inductive CreateFederationExecutionResponseType
  | success
  | federationExecutionAlreadyExists
  | couldNotOpenFDD
  | errorReadingFDD
  | couldNotCreateLogicalTimeFactory
  | inconsistentFDD
  | rtiInternalError
  | timeout
  deriving DecidableEq

inductive DestroyFederationExecutionResponseType
  | success
  | federatesCurrentlyJoined
  | federationExecutionDoesNotExist
  | rtiInternalError
  deriving DecidableEq

inductive JoinFederationExecutionResponseType
  | success
  | federateNameAlreadyInUse
  | federationExecutionDoesNotExist
  | saveInProgress
  | restoreInProgress
  | inconsistentFDD
  | timeout
  deriving DecidableEq

structure CreateFederationExecutionRequest (μ : Type) where
  federationExecution : List Char
  logicalTimeFactoryName : String
  fOMStringModuleList : List μ

structure JoinFederationExecutionRequest (μ : Type) where
  federationExecution : List Char
  federateType : String
  federateName : List Char
  fOMStringModuleList : List μ

/-- A handle that is not set is invalid. -/
structure JoinFederationExecutionResponse where
  type : JoinFederationExecutionResponseType
  exceptionString : String := ""
  federationHandle : Option Nat := none
  federateHandle : Option Nat := none
  federateType : String := ""
  federateName : List Char := []
  deriving DecidableEq

/-- Requests that only the root server answers. -/
inductive RootRequest (μ : Type)
  | createFederationExecution (request : CreateFederationExecutionRequest μ)
  | destroyFederationExecution (federationExecution : List Char)
  | enumerateFederationExecutions
  | joinFederationExecution (request : JoinFederationExecutionRequest μ)

inductive RootResponse
  | createFederationExecution
      (type : CreateFederationExecutionResponseType)
      (exceptionString : String)
  | destroyFederationExecution (type : DestroyFederationExecutionResponseType)
  | enumerateFederationExecutions (federations : List (List Char × String))
  | joinFederationExecution (response : JoinFederationExecutionResponse)
  deriving DecidableEq

/-! ## Federation executions -/

/-- The value of the invalid federation handle. -/
def invalidFederationHandle : Nat := 2 ^ 16 - 1

/-- The value of the invalid federate handle. -/
def invalidFederateHandle : Nat := 2 ^ 32 - 1

structure FederationExecution (φ : Type) where
  name : List Char
  logicalTimeFactoryName : String
  /-- It is found by its name. -/
  named : Bool := true
  federateHandleAllocator : HandleAllocator invalidFederateHandle := {}
  federates : OrderedMap Nat FederateInformation := ∅
  hasMomServer : Bool := false
  hasChildConnects : Bool := false
  objectModel : φ

/-- The federation executions that a server node knows, by their handles. -/
structure FederationExecutions (φ : Type) where
  federationHandleAllocator : HandleAllocator invalidFederationHandle := {}
  federations : OrderedMap Nat (FederationExecution φ) := ∅

/-- What a call comes to that may end with an exception. -/
inductive Outcome
  | returned
  | inconsistentFDD (reason : String)
  | exception (reason : String)
  | unknown
  deriving DecidableEq

/-- What is not looked into: the object models and the federate of the MOM. -/
structure FederationParts (μ φ : Type) where
  objectModel : φ
  insertModules : List μ → φ → Outcome × φ
  /-- With the federate that it is for, none in the root server. -/
  makeMomServer :
    Option Nat → FederationExecution φ → Outcome × FederationExecution φ
  /-- None where resigning its federate ends with an exception. -/
  resignMomServer : FederationExecution φ → Option (FederationExecution φ)

namespace FederationExecution

variable {μ φ : Type}

def initializeMom
    (parts : FederationParts μ φ)
    (federateHandle : Option Nat)
    (self : FederationExecution φ) : Outcome × FederationExecution φ :=
  if self.hasMomServer then (.returned, self)
  else parts.makeMomServer federateHandle self

def isFederateNameInUse (self : FederationExecution φ) (name : List Char) : Bool :=
  self.federates.entries.any fun entry => entry.2.federateName = name

def hasJoinedFederates (self : FederationExecution φ) : Bool :=
  !self.federates.isEmpty

/-- Insert the federate that joins, and respond with success.  There is no handle left
where that ends with an exception. -/
def insertFederate
    (handle : Nat)
    (request : JoinFederationExecutionRequest μ)
    (self : FederationExecution φ) :
    Option (JoinFederationExecutionResponse × FederationExecution φ) :=
  match self.federateHandleAllocator.get with
  | .error _ _ => none
  | .ok federateHandle federateHandleAllocator =>
      let name := MemberTree.federateName request.federateName federateHandle
      some
        ({ type := .success
           federationHandle := some handle
           federateHandle := some federateHandle
           federateType := request.federateType
           federateName := name },
          { self with
            federateHandleAllocator
            federates := self.federates.set federateHandle ⟨name, request.federateType⟩
            hasChildConnects := true })

/-- Try to extend the object model. -/
def extend
    (parts : FederationParts μ φ)
    (modules : List μ)
    (self : FederationExecution φ) : Outcome × FederationExecution φ :=
  if modules.isEmpty then (.returned, self)
  else
    -- What a failed insert has left behind stays.
    let (outcome, objectModel) := parts.insertModules modules self.objectModel
    (outcome, { self with objectModel })

/-- The response to a join request of a federation execution, none with an exception. -/
def acceptJoin
    (parts : FederationParts μ φ)
    (handle : Nat)
    (request : JoinFederationExecutionRequest μ)
    (self : FederationExecution φ) :
    Option JoinFederationExecutionResponse × FederationExecution φ :=
  if request.federateName ≠ [] ∧ self.isFederateNameInUse request.federateName then
    (some
      { type := .federateNameAlreadyInUse
        exceptionString := String.ofList request.federateName
        federateName := request.federateName
        federateType := request.federateType }, self)
  else
    match self.extend parts request.fOMStringModuleList with
    | (.returned, extended) =>
        match extended.insertFederate handle request with
        | some (response, joined) => (some response, joined)
        | none => (none, extended)
    | (.inconsistentFDD reason, extended) | (.exception reason, extended) =>
        (some
          { type := .inconsistentFDD
            exceptionString := reason
            federateName := request.federateName }, extended)
    | (.unknown, extended) => (none, extended)

/-- Enter a federate that has joined at the root server. -/
def enter
    (hasOrigin : Bool)
    (federateHandle : Nat)
    (response : JoinFederationExecutionResponse)
    (self : FederationExecution φ) : FederationExecution φ :=
  { self with
    federateHandleAllocator := self.federateHandleAllocator.take federateHandle
    federates := self.federates.set federateHandle
      ⟨response.federateName, response.federateType⟩
    hasChildConnects := self.hasChildConnects || hasOrigin }

end FederationExecution

/-- A new federation execution. -/
def CreateFederationExecutionRequest.federation
    {μ φ : Type}
    (self : CreateFederationExecutionRequest μ)
    (objectModel : φ) : FederationExecution φ where
  name := self.federationExecution
  logicalTimeFactoryName := self.logicalTimeFactoryName
  objectModel := objectModel

/-- The response to a create request that has ended with an exception. -/
def Outcome.createResponse : Outcome → RootResponse
  | .inconsistentFDD reason => .createFederationExecution .inconsistentFDD reason
  | .exception reason => .createFederationExecution .rtiInternalError reason
  | _ => .createFederationExecution .rtiInternalError ""

namespace FederationExecutions

variable {μ φ : Type}

/-- The federation execution of a name, with its handle. -/
def getFederation
    (self : FederationExecutions φ)
    (name : List Char) : Option (Nat × FederationExecution φ) :=
  self.federations.entries.find? fun entry => entry.2.named ∧ entry.2.name = name

def setFederation
    (self : FederationExecutions φ)
    (handle : Nat)
    (federation : FederationExecution φ) : FederationExecutions φ :=
  { self with federations := self.federations.set handle federation }

def acceptCreate
    (parts : FederationParts μ φ)
    (request : CreateFederationExecutionRequest μ)
    (self : FederationExecutions φ) :
    RootReply (FederationExecutions φ) RootResponse :=
  if (self.getFederation request.federationExecution).isSome then
    ⟨[.createFederationExecution .federationExecutionAlreadyExists ""], self, false⟩
  else
    match parts.insertModules request.fOMStringModuleList parts.objectModel with
    | (.returned, objectModel) =>
        match self.federationHandleAllocator.get with
        | .error _ _ =>
            ⟨[Outcome.createResponse (.exception "Running out of handle values")],
              self, false⟩
        | .ok handle federationHandleAllocator =>
            let registered := { self with federationHandleAllocator }
            let success : RootResponse := .createFederationExecution .success ""
            match (request.federation objectModel).initializeMom parts none with
            | (.returned, federation) =>
                ⟨[success], registered.setFederation handle federation, false⟩
            -- Success has been sent, and only here the federation execution stays.
            | (.exception reason, federation) =>
                ⟨[success, Outcome.createResponse (.exception reason)],
                  registered.setFederation handle federation, false⟩
            | (outcome, _) =>
                ⟨[success, outcome.createResponse], registered, false⟩
    | (outcome, _) => ⟨[outcome.createResponse], self, false⟩

def acceptDestroy
    (parts : FederationParts μ φ)
    (name : List Char)
    (self : FederationExecutions φ) :
    RootReply (FederationExecutions φ) RootResponse :=
  match self.getFederation name with
  | none =>
      ⟨[.destroyFederationExecution .federationExecutionDoesNotExist], self, false⟩
  | some (handle, federation) =>
      match
        if federation.federates.entries.length = 1 ∧ federation.hasMomServer then
          parts.resignMomServer federation
        else some federation with
      | none => ⟨[], self, true⟩
      | some federation =>
          if federation.hasJoinedFederates then
            ⟨[.destroyFederationExecution .federatesCurrentlyJoined],
              self.setFederation handle federation, false⟩
          else
            ⟨[.destroyFederationExecution .success],
              if federation.hasChildConnects then
                self.setFederation handle { federation with named := false }
              else
                { federationHandleAllocator := self.federationHandleAllocator.put handle
                  federations := self.federations.erase handle }, false⟩

/-- The names and logical times of all federation executions that have a handle. -/
def acceptEnumerate
    (self : FederationExecutions φ) :
    RootReply (FederationExecutions φ) RootResponse :=
  ⟨[.enumerateFederationExecutions (self.federations.entries.map fun entry =>
      (entry.2.name, entry.2.logicalTimeFactoryName))], self, false⟩

def acceptJoin
    (parts : FederationParts μ φ)
    (request : JoinFederationExecutionRequest μ)
    (self : FederationExecutions φ) :
    RootReply (FederationExecutions φ) RootResponse :=
  if request.federateName.take 3 = "HLA".toList then ⟨[], self, true⟩
  else
    match self.getFederation request.federationExecution with
    | none =>
        ⟨[.joinFederationExecution { type := .federationExecutionDoesNotExist }], self,
          false⟩
    | some (handle, federation) =>
        match federation.acceptJoin parts handle request with
        | (none, federation) => ⟨[], self.setFederation handle federation, true⟩
        | (some response, federation) =>
            ⟨[.joinFederationExecution response], self.setFederation handle federation,
              false⟩

def acceptAsRoot
    (parts : FederationParts μ φ) :
    RootRequest μ → FederationExecutions φ →
      RootReply (FederationExecutions φ) RootResponse
  | .createFederationExecution request => acceptCreate parts request
  | .destroyFederationExecution name => acceptDestroy parts name
  | .enumerateFederationExecutions => acceptEnumerate
  | .joinFederationExecution request => acceptJoin parts request

/-- A server node that is not the root enters the federate of a response with success.
Where the connect that asked is gone it resigns the federate in the name of the parent
connect, which is refused. -/
def acceptJoinResponse
    (parts : FederationParts μ φ)
    (hasOrigin : Bool)
    (response : JoinFederationExecutionResponse)
    (self : FederationExecutions φ) :
    ResponseEffect (FederationExecutions φ) :=
  match response.type, response.federateHandle, response.federationHandle with
  | .success, some federateHandle, some handle =>
      match self.federations.find? handle with
      | none => .refused
      | some federation =>
          let joined := federation.enter hasOrigin federateHandle response
          if hasOrigin then
            match joined.initializeMom parts (some federateHandle) with
            | (.returned, initialized) =>
                .passedOn (self.setFederation handle initialized)
            | (_, initialized) => .failed (self.setFederation handle initialized)
          else .failed (self.setFederation handle joined)
  | .success, _, _ => .refused
  | _, _, _ => .passedOn self

def acceptResponse
    (parts : FederationParts μ φ)
    (hasOrigin : Bool) :
    RootResponse → FederationExecutions φ →
      ResponseEffect (FederationExecutions φ)
  | .joinFederationExecution response => acceptJoinResponse parts hasOrigin response
  | _ => .passedOn

/-! ## One response to each request -/

/-- The federate of the MOM can be made where success is responded, and no exception is
thrown where a response would be sent. -/
def GetsOneResponse (parts : FederationParts μ φ) :
    RootRequest μ → FederationExecutions φ → Prop
  | .createFederationExecution request, self =>
      self.getFederation request.federationExecution = none →
        ∀ objectModel handle allocator,
          parts.insertModules request.fOMStringModuleList parts.objectModel =
            (.returned, objectModel) →
          self.federationHandleAllocator.get = .ok handle allocator →
            ((request.federation objectModel).initializeMom parts none).1 = .returned
  | .destroyFederationExecution name, self =>
      ∀ handle federation, self.getFederation name = some (handle, federation) →
        federation.federates.entries.length = 1 → federation.hasMomServer = true →
          (parts.resignMomServer federation).isSome
  | .enumerateFederationExecutions, _ => True
  | .joinFederationExecution request, self =>
      request.federateName.take 3 ≠ "HLA".toList ∧
        ∀ handle federation,
          self.getFederation request.federationExecution = some (handle, federation) →
            ¬ (request.federateName ≠ [] ∧
              federation.isFederateNameInUse request.federateName) →
            (federation.extend parts request.fOMStringModuleList).1 ≠ .unknown ∧
              ((federation.extend parts request.fOMStringModuleList).1 = .returned →
                ∃ federateHandle allocator,
                  federation.federateHandleAllocator.get =
                    .ok federateHandle allocator)

variable {parts : FederationParts μ φ} {self : FederationExecutions φ}

theorem isSingle_acceptCreate_iff
    {request : CreateFederationExecutionRequest μ} :
    (acceptCreate parts request self).isSingle = true ↔
      GetsOneResponse parts (.createFederationExecution request) self := by
  rw [GetsOneResponse, acceptCreate]
  split
  next exists' =>
    refine iff_of_true rfl fun absent => ?_
    rw [absent] at exists'
    cases exists'
  next absent =>
    rw [Option.not_isSome_iff_eq_none] at absent
    split
    next objectModel built =>
      split
      next error _ none' =>
        refine iff_of_true rfl fun _ _ handle allocator _ got => ?_
        rw [none'] at got
        cases got
      next handle allocator got =>
        dsimp only
        split
        next initialized =>
          refine iff_of_true rfl fun _ other _ _ same _ => ?_
          rw [built] at same
          cases same
          rw [initialized]
        next reason _ failed =>
          refine iff_of_false Bool.false_ne_true fun all => ?_
          have returned := all absent objectModel handle allocator built got
          rw [failed] at returned
          cases returned
        next outcome _ notReturned _ failed =>
          refine iff_of_false Bool.false_ne_true fun all => ?_
          have returned := all absent objectModel handle allocator built got
          rw [failed] at returned
          exact notReturned returned
    next outcome _ notReturned failed =>
      refine iff_of_true rfl fun _ objectModel _ _ built _ => ?_
      exact absurd (congrArg Prod.fst (failed.symm.trans built)) notReturned

theorem isSingle_acceptDestroy_iff
    {name : List Char} :
    (acceptDestroy parts name self).isSingle = true ↔
      GetsOneResponse parts (.destroyFederationExecution name) self := by
  rw [GetsOneResponse, acceptDestroy]
  cases found : self.getFederation name with
  | none =>
      refine iff_of_true rfl fun handle federation same => ?_
      cases same
  | some entry =>
      obtain ⟨handle, federation⟩ := entry
      dsimp only
      split
      next thrown =>
        refine iff_of_false Bool.false_ne_true fun all => ?_
        split at thrown
        next alone =>
          have resigned := all handle federation rfl alone.1 alone.2
          rw [thrown] at resigned
          cases resigned
        next => cases thrown
      next after resigned =>
        refine iff_of_true ?_ fun _ _ same size momServer => ?_
        · split <;> rfl
        · cases same
          rw [if_pos ⟨size, momServer⟩] at resigned
          rw [resigned]
          rfl

theorem isSome_acceptJoin_iff
    {parts : FederationParts μ φ} {handle : Nat}
    {request : JoinFederationExecutionRequest μ}
    {self : FederationExecution φ} :
    (self.acceptJoin parts handle request).1.isSome = true ↔
      (¬ (request.federateName ≠ [] ∧
          self.isFederateNameInUse request.federateName) →
        (self.extend parts request.fOMStringModuleList).1 ≠ .unknown ∧
          ((self.extend parts request.fOMStringModuleList).1 = .returned →
            ∃ federateHandle allocator,
              self.federateHandleAllocator.get = .ok federateHandle allocator)) := by
  have kept : (self.extend parts
      request.fOMStringModuleList).2.federateHandleAllocator =
      self.federateHandleAllocator := by
    rw [FederationExecution.extend]
    split <;> rfl
  rw [FederationExecution.acceptJoin]
  split
  next inUse => exact iff_of_true rfl fun free => absurd inUse free
  next free =>
    rw [imp_iff_right free]
    split
    next extended returned =>
      rw [returned] at kept ⊢
      dsimp only at kept
      rw [FederationExecution.insertFederate, kept]
      cases got : self.federateHandleAllocator.get with
      | error failure allocator => simp
      | ok federateHandle allocator => simp
    next inconsistent =>
      rw [inconsistent]
      simp
    next failed =>
      rw [failed]
      simp
    next unknown =>
      rw [unknown]
      simp

theorem isSingle_acceptJoin_iff
    {request : JoinFederationExecutionRequest μ} :
    (acceptJoin parts request self).isSingle = true ↔
      GetsOneResponse parts (.joinFederationExecution request) self := by
  rw [GetsOneResponse, acceptJoin]
  split
  next reserved => exact iff_of_false Bool.false_ne_true fun all => all.1 reserved
  next notReserved =>
    rw [and_iff_right notReserved]
    cases found : self.getFederation request.federationExecution with
    | none =>
        refine iff_of_true rfl fun handle federation same => ?_
        cases same
    | some entry =>
        obtain ⟨handle, federation⟩ := entry
        have single := @isSome_acceptJoin_iff μ φ parts handle request federation
        dsimp only
        constructor
        · intro isSingle _ _ same
          cases same
          apply single.mp
          split at isSingle
          next => cases isSingle
          next accepted =>
            rw [accepted]
            rfl
        · intro all
          have isSome := single.mpr (all handle federation rfl)
          split
          next thrown =>
            rw [thrown] at isSome
            cases isSome
          next => rfl

variable (parts : FederationParts μ φ)

/-- Where a root server does not respond exactly once to a request. -/
theorem isSingle_acceptAsRoot_iff
    (request : RootRequest μ) (self : FederationExecutions φ) :
    (acceptAsRoot parts request self).isSingle = true ↔
      GetsOneResponse parts request self := by
  cases request with
  | createFederationExecution request => exact isSingle_acceptCreate_iff
  | destroyFederationExecution name => exact isSingle_acceptDestroy_iff
  | enumerateFederationExecutions => exact iff_of_true rfl trivial
  | joinFederationExecution request => exact isSingle_acceptJoin_iff

/-- A response of success to a join request is for a federation execution that is known
and for a connect that is still there, and the federate of the MOM can be made. -/
def TakesResponse
    (parts : FederationParts μ φ)
    (hasOrigin : Bool)
    (self : FederationExecutions φ) :
    RootResponse → Prop
  | .joinFederationExecution response =>
      response.type = .success →
        hasOrigin = true ∧
          ∃ federateHandle handle federation,
            response.federateHandle = some federateHandle ∧
              response.federationHandle = some handle ∧
              self.federations.find? handle = some federation ∧
              ((federation.enter hasOrigin federateHandle response).initializeMom parts
                (some federateHandle)).1 = .returned
  | _ => True

theorem isPassedOn_acceptResponse_iff
    (hasOrigin : Bool) (response : RootResponse)
    (self : FederationExecutions φ) :
    (acceptResponse parts hasOrigin response self).isPassedOn = true ↔
      TakesResponse parts hasOrigin self response := by
  cases response with
  | createFederationExecution type reason => exact iff_of_true rfl trivial
  | destroyFederationExecution type => exact iff_of_true rfl trivial
  | enumerateFederationExecutions federations => exact iff_of_true rfl trivial
  | joinFederationExecution response =>
      rw [acceptResponse, acceptJoinResponse, TakesResponse]
      split
      next federateHandle handle success isFederate isFederation =>
        rw [imp_iff_right success, isFederate, isFederation]
        split
        next unknown =>
          refine iff_of_false Bool.false_ne_true fun all => ?_
          obtain ⟨_, _, _, _, _, same, known, _⟩ := all
          cases same
          rw [unknown] at known
          cases known
        next federation known =>
          split
          next hasOrigin =>
            rw [and_iff_right hasOrigin]
            dsimp only
            split
            next returned =>
              refine iff_of_true rfl
                ⟨federateHandle, handle, federation, rfl, rfl, known, ?_⟩
              rw [returned]
            next notReturned failed =>
              refine iff_of_false Bool.false_ne_true fun all => ?_
              obtain ⟨_, _, _, sameFederate, same, isKnown, returned⟩ := all
              cases sameFederate
              cases same
              cases known.symm.trans isKnown
              rw [failed] at returned
              exact notReturned returned
          next gone =>
            exact iff_of_false Bool.false_ne_true fun all => gone all.1
      next success notBoth =>
        refine iff_of_false Bool.false_ne_true fun all => ?_
        obtain ⟨_, federateHandle, handle, _, isFederate, isFederation, _⟩ :=
          all success
        exact notBoth federateHandle handle isFederate isFederation
      next notSuccess _ =>
        exact iff_of_true rfl fun success => absurd success notSuccess

end FederationExecutions

/-- The server nodes of a tree with their federation executions. -/
def federationServers
    {μ φ : Type}
    (isServer : Nat → Bool)
    (parts : FederationParts μ φ) :
    ServerNodes (FederationExecutions φ) (RootRequest μ) RootResponse where
  isServer := isServer
  acceptAsRoot := FederationExecutions.acceptAsRoot parts
  acceptResponse := FederationExecutions.acceptResponse parts

/-- Clients get the responses to their requests in order in each run where each request
that a root server processes gets one response and each response is taken, and when that
is so. -/
theorem federationRequests_answered
    {μ φ : Type}
    (isServer : Nat → Bool)
    (parts : FederationParts μ φ) :
    (∀ {node : Nat → FederationExecutions φ}
        {tree : ServerTree (FederationExecutions φ) (RootRequest μ) RootResponse},
      (ServerTree.system (federationServers isServer parts) node).ReachableUnder
          (fun before input =>
            before.answersOnce (federationServers isServer parts) input = true)
          tree →
        tree.Answers (federationServers isServer parts)) ∧
    (∀ request self,
      (FederationExecutions.acceptAsRoot parts request self).isSingle = true ↔
        FederationExecutions.GetsOneResponse parts request self) ∧
    ∀ hasOrigin response self,
      (FederationExecutions.acceptResponse parts hasOrigin response self).isPassedOn =
          true ↔
        FederationExecutions.TakesResponse parts hasOrigin self response :=
  ⟨ServerTree.answers_of_reachable,
    FederationExecutions.isSingle_acceptAsRoot_iff parts,
    FederationExecutions.isPassedOn_acceptResponse_iff parts⟩

/-- The federate of the MOM can always be made, and modules are not looked at. -/
def plainParts : FederationParts Unit Unit where
  objectModel := ()
  insertModules := fun _ _ => (.returned, ())
  makeMomServer := fun _ federation => (.returned, { federation with hasMomServer := true })
  resignMomServer := some

/-- The federation execution that client 2 creates and client 3 joins, as server node 1 is
told about it. -/
def createdExecutions : FederationExecutions Unit where
  federationHandleAllocator := ⟨∅, 1⟩
  federations := (∅ : OrderedMap Nat (FederationExecution Unit)).set 0
    { name := "a".toList, logicalTimeFactoryName := "", objectModel := () }

/-- The root server breaks before the second request gets there. -/
def brokenRootInputs :
    List (ServerTreeInput (FederationExecutions Unit) (RootRequest Unit)) :=
  [.insertConnect 1 0, .insertConnect 2 1, .insertConnect 3 1,
    .ask 2 (.createFederationExecution ⟨"a".toList, "", []⟩), .receiveRequest 2,
    .receiveRequest 1, .changeNode 1 createdExecutions,
    .ask 3 (.joinFederationExecution ⟨"a".toList, "", "f".toList, []⟩),
    .ask 2 (.destroyFederationExecution "a".toList), .receiveRequest 3,
    .receiveRequest 2, .break 1 0 1, .receiveResponse 1, .removeParentConnect 1,
    .removeChildConnect 1, .receiveResponse 2, .receiveResponse 2,
    .receiveResponse 3]

theorem federationRequests_answered_brokenRoot :
    ∃ tree : ServerTree (FederationExecutions Unit) (RootRequest Unit) RootResponse,
      (tree.answered 2).map Prod.snd =
          [.createFederationExecution .success "",
            .destroyFederationExecution .federatesCurrentlyJoined] ∧
        (tree.answered 3).map Prod.snd =
          [.joinFederationExecution
            { type := .success, federationHandle := some 0, federateHandle := some 0,
              federateName := "f".toList }] ∧
        tree.Answers (federationServers (fun number => decide (number < 2)) plainParts) := by
  let nodes := federationServers (fun number => decide (number < 2)) plainParts
  let system := (ServerTree.system nodes fun _ => {}).restrict
    (ServerTree.answersOnce nodes)
  have observed :
      (system.run (ServerTree.initial fun _ => {}) brokenRootInputs).map (fun tree =>
        ((tree.answered 2).map Prod.snd, (tree.answered 3).map Prod.snd)) =
      some
        ([.createFederationExecution .success "",
            .destroyFederationExecution .federatesCurrentlyJoined],
          [.joinFederationExecution
            { type := .success, federationHandle := some 0, federateHandle := some 0,
              federateName := "f".toList }]) := by
    decide +kernel
  obtain ⟨tree, ran, same⟩ := Option.map_eq_some_iff.mp observed
  obtain ⟨second, third⟩ := Prod.mk.inj same
  exact ⟨tree, second, third, (federationRequests_answered _ plainParts).1
    (Foundation.TransitionSystem.reachableUnder_of_restrict
      (Foundation.TransitionSystem.reachable_of_run _ ran))⟩

-- Where the federate of the MOM can not be made the second response goes to the next one.
example :
    ((ServerTree.system
        (federationServers (fun number => decide (number < 2))
          { plainParts with
            makeMomServer := fun _ federation =>
              (.exception "HLAmanager", federation) })
        fun _ => {}).run (ServerTree.initial fun _ => {})
      [.insertConnect 1 0, .insertConnect 2 1, .insertConnect 3 1,
        .ask 2 (.createFederationExecution ⟨"a".toList, "", []⟩),
        .ask 3 .enumerateFederationExecutions, .receiveRequest 2, .receiveRequest 3,
        .receiveRequest 1, .receiveResponse 1, .receiveResponse 1,
        .receiveResponse 3]).map (fun tree => (tree.answered 3).map Prod.snd) =
      some [.createFederationExecution .rtiInternalError "HLAmanager"] := by
  decide +kernel

end ServerNode
end OpenRTI
