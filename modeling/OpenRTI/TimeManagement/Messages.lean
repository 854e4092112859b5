import OpenRTI.TimeManagement.FederateHandleLowerBoundTimeStampMap

/-!
# Messages of time management

The messages that federates exchange through the server nodes to agree on
their lower bounds, and the messages a federate queues for its callbacks.  All
of them belong to one federation, so the federation handle is left out.
-/

namespace OpenRTI
namespace TimeManagement

abbrev ObjectInstanceHandle := Nat

/-- A time stamped attribute update, deletion or interaction.  Only what time
management reads is kept. -/
structure TimeStampedMessage where
  /-- The federate that sent the message. -/
  federateHandle : FederateHandle
  timeStamp : Int
  /-- The object instance the message is for, if it is for one. -/
  objectInstanceHandle : Option ObjectInstanceHandle
  deriving DecidableEq

/-- A message that is delivered in the order it is received in. -/
structure ReceiveOrderMessage where
  federateHandle : FederateHandle
  objectInstanceHandle : Option ObjectInstanceHandle
  deriving DecidableEq

inductive Message
  | joinFederationExecutionResponse (federateHandle : FederateHandle)
  | joinFederateNotify (federateHandle : FederateHandle)
  | resignFederateNotify (federateHandle : FederateHandle)
  | enableTimeRegulationRequest
      (federateHandle : FederateHandle)
      (timeStamp : Int)
      (commitId : Unsigned)
  | enableTimeRegulationResponse
      (federateHandle respondingFederateHandle : FederateHandle)
      (timeStamp : Int)
      (timeStampValid : Bool)
  | disableTimeRegulationRequest (federateHandle : FederateHandle)
  | enableTimeConstrainedNotify (federateHandle : FederateHandle)
  | disableTimeConstrainedNotify (federateHandle : FederateHandle)
  | commitLowerBoundTimeStamp
      (federateHandle : FederateHandle)
      (timeStamp : Int)
      (commitType : LowerBoundTimeStampCommitType)
      (commitId : Unsigned)
  | commitLowerBoundTimeStampResponse
      (federateHandle sendingFederateHandle : FederateHandle)
      (commitId : Unsigned)
  | lockedByNextMessageRequest
      (sendingFederateHandle : FederateHandle)
      (lockedByNextMessage : Bool)
  | timeStamped (message : TimeStampedMessage)
  | receiveOrder (message : ReceiveOrderMessage)
  deriving DecidableEq

/-- A message queued for a callback of the federate. -/
inductive QueuedMessage
  | timeConstrainedEnabled
  | timeRegulationEnabled
  | timeAdvanceGranted
  | timeStamped (message : TimeStampedMessage)
  | receiveOrder (message : ReceiveOrderMessage)
  deriving DecidableEq

namespace QueuedMessage

/-- The object instance that a queued message is for, if it is for one. -/
def getObjectInstanceHandleForMessage :
    QueuedMessage → Option ObjectInstanceHandle
  | .timeStamped message => message.objectInstanceHandle
  | .receiveOrder message => message.objectInstanceHandle
  | _ => none

end QueuedMessage
end TimeManagement
end OpenRTI
