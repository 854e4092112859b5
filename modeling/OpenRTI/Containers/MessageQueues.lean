import OpenRTI.Containers.ContainerContents

/-!
# Message queues

The messages that wait for a federate are in elements of lists: one for messages in
receive order and one for each time stamp.  A map has the elements whose message is
for an object instance, so that these can be erased.  Elements without a message are
in a pool.  Which queue is dispatched from is left open here.
-/

namespace OpenRTI
namespace Containers

open Foundation

inductive MessageQueue (Time : Type*)
  | timeStamped (logicalTime : Time)
  | receiveOrder
  deriving DecidableEq

inductive MessageList (Time : Type*)
  | queue (queue : MessageQueue Time)
  | pool
  deriving DecidableEq

structure QueueState (Time ε Handle Message : Type*) where
  containers : Containers (MessageList Time) Unit ε Handle
  message : ε → Option Message

namespace QueueState

variable {Time ε Handle Message : Type*}

/-- There are no elements at the start. -/
def initial (key : ε → Handle) : QueueState Time ε Handle Message where
  containers := .initial key
  message _ := none

variable [DecidableEq Time] [DecidableEq ε] [DecidableEq Handle] [Inhabited Handle]

/-- The default handle is the one that is not valid. -/
def valid (handle : Handle) : Prop :=
  handle ≠ default

instance (handle : Handle) : Decidable (valid handle) :=
  inferInstanceAs (Decidable (handle ≠ default))

/-- Unlink an element from its list and from the map. -/
def unlink
    (element : ε)
    (state : QueueState Time ε Handle Message) :
    Option (QueueState Time ε Handle Message) :=
  (((state.containers.unlink element).unlinkMap element).setKey element default).map
    fun containers => { state with containers := containers }

def setMessage
    (element : ε)
    (message : Option Message)
    (state : QueueState Time ε Handle Message) : QueueState Time ε Handle Message :=
  { state with message := Function.update state.message element message }

def pushBack
    (list : MessageList Time)
    (element : ε)
    (state : QueueState Time ε Handle Message) :
    Option (QueueState Time ε Handle Message) :=
  (state.containers.insert (IntrusiveList.finish list) element).map fun containers =>
    { state with containers := containers }

section Messages

variable (hashing : Hashing Unit Handle)
variable (getObjectInstanceHandleForMessage : Message → Handle)

/-- An element for a new message: a new one, or the first one in the pool. -/
def newElement
    (message : Message)
    (fresh : ε)
    (state : QueueState Time ε Handle Message) :
    Option (QueueState Time ε Handle Message × ε) :=
  match IntrusiveList.empty .pool state.containers.list with
  | none => none
  | some true =>
      some (({ state with containers :=
        state.containers.construct fresh default }).setMessage fresh (some message),
        fresh)
  | some false =>
      match IntrusiveList.front .pool state.containers.list with
      | none => none
      | some element =>
          (state.unlink element).map fun state =>
            (state.setMessage element (some message), element)

/-- Make an element known for the object instance of its message. -/
def insertHandle
    (message : Message)
    (element : ε)
    (state : QueueState Time ε Handle Message) :
    Option (QueueState Time ε Handle Message) :=
  if valid (getObjectInstanceHandleForMessage message) then
    ((state.containers.setKey element
      (getObjectInstanceHandleForMessage message)).bind fun containers =>
        containers.insertMap hashing () element).map fun containers =>
          { state with containers := containers }
  else some state

def queueMessage
    (queue : MessageQueue Time)
    (message : Message)
    (fresh : ε)
    (state : QueueState Time ε Handle Message) :
    Option (QueueState Time ε Handle Message) :=
  (state.newElement message fresh).bind fun result =>
    (result.1.pushBack (.queue queue) result.2).bind fun state =>
      state.insertHandle hashing getObjectInstanceHandleForMessage message result.2

def queueTimeStampedMessage
    (logicalTime : Time)
    (message : Message)
    (fresh : ε)
    (state : QueueState Time ε Handle Message) :
    Option (QueueState Time ε Handle Message) :=
  queueMessage hashing getObjectInstanceHandleForMessage (.timeStamped logicalTime)
    message fresh state

def queueReceiveOrderMessage
    (message : Message)
    (fresh : ε)
    (state : QueueState Time ε Handle Message) :
    Option (QueueState Time ε Handle Message) :=
  queueMessage hashing getObjectInstanceHandleForMessage .receiveOrder message fresh
    state

/-- Move an element to the pool. -/
def recycle
    (element : ε)
    (state : QueueState Time ε Handle Message) :
    Option (QueueState Time ε Handle Message) :=
  (state.unlink element).bind fun state =>
    (state.setMessage element none).pushBack .pool element

/-- Dispatch the first message of a queue. -/
def dispatchCallback
    (queue : MessageQueue Time)
    (state : QueueState Time ε Handle Message) :
    Option (QueueState Time ε Handle Message) :=
  match IntrusiveList.front (.queue queue) state.containers.list with
  | none => none
  | some element => state.recycle element

/-- The walk over the elements with a handle. -/
def eraseMessages (handle : Handle) :
    Nat → HookNode Unit ε → QueueState Time ε Handle Message →
      Option (QueueState Time ε Handle Message)
  | 0, _, _ => none
  | _ + 1, .head _, state => some state
  | fuel + 1, .element element, state =>
      if state.containers.key element = handle then
        (state.recycle element).bind fun after =>
          eraseMessages handle fuel
            (increment .forward (.element element) state.containers.totalList) after
      else some state

/-- Remove messages targeting an object instance from the pending messages. -/
def eraseMessagesForObjectInstance
    (handle : Handle)
    (state : QueueState Time ε Handle Message) :
    Option (QueueState Time ε Handle Message) :=
  (state.containers.find hashing () handle).bind fun start =>
    state.eraseMessages handle state.containers.steps start

end Messages

/-! ## Calls -/

inductive Call (Time ε Handle Message : Type*)
  | queueTimeStampedMessage (logicalTime : Time) (message : Message) (fresh : ε)
  | queueReceiveOrderMessage (message : Message) (fresh : ε)
  | dispatchCallback (queue : MessageQueue Time)
  | eraseMessagesForObjectInstance (handle : Handle)

def perform
    (hashing : Hashing Unit Handle)
    (getObjectInstanceHandleForMessage : Message → Handle)
    (state : QueueState Time ε Handle Message) :
    Call Time ε Handle Message → Option (QueueState Time ε Handle Message)
  | .queueTimeStampedMessage logicalTime message fresh =>
      state.queueTimeStampedMessage hashing getObjectInstanceHandleForMessage
        logicalTime message fresh
  | .queueReceiveOrderMessage message fresh =>
      state.queueReceiveOrderMessage hashing getObjectInstanceHandleForMessage
        message fresh
  | .dispatchCallback queue => state.dispatchCallback queue
  | .eraseMessagesForObjectInstance handle =>
      state.eraseMessagesForObjectInstance hashing handle

end QueueState

end Containers
end OpenRTI
