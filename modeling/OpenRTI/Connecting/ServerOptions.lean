import OpenRTI.DataStream.InitialStreamProtocol

/-!
# Options of servers and of connects

A server has a name and a path, and a map of options that it hands to the servers and
federates below it when they connect.  A server that connects takes over the options of
its parent and extends the path with its own name.
-/

namespace OpenRTI
namespace Connecting

open Foundation (Octet OrderedMap)
open DataStream (OctetString StringList StringStringListMap)

/-- The octets of a literal. -/
def text (value : String) : OctetString :=
  ⟨value.toList.map fun character => BitVec.ofNat 8 character.toNat⟩

/-- What the index operator of a map yields: a missing list is entered empty. -/
def valueAt (optionMap : StringStringListMap) (key : OctetString) : StringList :=
  (optionMap.find? key).getD []

/-! ## Servers -/

structure ServerOptions where
  serverName : OctetString
  /-- For pretty printing. -/
  serverPath : OctetString
  /-- The server path as given by the parent. -/
  parentServerPath : StringList
  /-- What is transferred to a child server at connection setup. -/
  optionMap : StringStringListMap
  preferCompression : Bool

namespace ServerOptions

def new : ServerOptions where
  serverName := text ""
  serverPath := text ""
  parentServerPath := []
  optionMap := ∅
  preferCompression := true

/-- A slash before each name. -/
def prettyPath (serverPath : StringList) : OctetString :=
  ⟨serverPath.flatMap fun name => (text "/").octets ++ name.octets⟩

/-- The new name is appended to the list of names; the path ends with it. -/
def setServerName
    (serverName : OctetString)
    (self : ServerOptions) : ServerOptions :=
  let optionMap := self.optionMap.set (text "serverName")
    (valueAt self.optionMap (text "serverName") ++ [serverName])
  let serverPath := self.parentServerPath ++ [serverName]
  { self with
    serverName
    optionMap := optionMap.set (text "serverPath") serverPath
    serverPath := prettyPath serverPath }

/-- Take over the options of the parent. -/
def setParentOptionMap
    (parentOptionMap : StringStringListMap)
    (self : ServerOptions) : ServerOptions :=
  let optionMap :=
    parentOptionMap.set (text "serverName") [self.serverName]
  let parentServerPath := valueAt optionMap (text "serverPath")
  let serverPath := parentServerPath ++ [self.serverName]
  { self with
    parentServerPath
    optionMap := optionMap.set (text "serverPath") serverPath
    serverPath := prettyPath serverPath }

end ServerOptions

/-! ## Connects -/

def isSpace (octet : Octet) : Bool :=
  octet = 0x20 || (0x09 ≤ octet && octet ≤ 0x0d)

/-- The value of the decimal digits at the front. -/
def digitsValue : Nat → List Octet → Nat
  | value, [] => value
  | value, octet :: octets =>
      if 0x30 ≤ octet && octet ≤ 0x39 then
        digitsValue (value * 10 + (octet.toNat - 0x30)) octets
      else value

/-- The library function with base ten: spaces and a sign may come first, a value that
is too large is the largest one. -/
def strtoul (octets : List Octet) : BitVec 64 :=
  let limited (value : Nat) : BitVec 64 := .ofNat 64 (min value (2 ^ 64 - 1))
  match octets.dropWhile isSpace with
  | [] => 0
  | first :: rest =>
      if first = 0x2d then
        let value := digitsValue 0 rest
        if 2 ^ 64 ≤ value then limited value else -limited value
      else if first = 0x2b then limited (digitsValue 0 rest)
      else limited (digitsValue 0 (first :: rest))

structure NodeConnect where
  isParentConnect : Bool
  options : StringStringListMap
  name : OctetString
  version : BitVec 32

/-- The options of a new connect.  Without a version the assertion fails. -/
def NodeConnect.setOptions
    (isParentConnect : Bool)
    (options : StringStringListMap) : Option NodeConnect :=
  let name := (valueAt options (text "serverName")).head?.getD (text "")
  match valueAt options (text "version") with
  | [] => none
  | version :: _ =>
      some { isParentConnect, options, name,
             version := (strtoul version.octets).setWidth 32 }

/-! ## The server with its connects -/

/-- What ends an attempt to connect. -/
inductive Failure
  | rtiInternalError (message : OctetString)
  | packet (failure : DataStream.PacketFailure)
  | assertion
  deriving DecidableEq

/-- The part of a server that takes part in connecting. -/
structure Server where
  serverOptions : ServerOptions
  done : Bool
  /-- There is a valid handle of a parent connect. -/
  hasParent : Bool

namespace Server

def new : Server where
  serverOptions := .new
  done := false
  hasParent := false

/-- There is no connect once the server is done.  A server with a parent does not take
a second one. -/
def sendConnect
    (optionMap : StringStringListMap)
    (parent : Bool)
    (self : Server) : Except Failure (Option NodeConnect) × Server :=
  if self.done then (.ok none, self)
  else if parent && self.hasParent then (.error .assertion, self)
  else
    match NodeConnect.setOptions parent optionMap with
    | none => (.error .assertion, self)
    | some connect =>
        if parent then
          (.ok (some connect),
            { self with
              serverOptions := self.serverOptions.setParentOptionMap optionMap
              hasParent := true })
        else (.ok (some connect), self)

/-- The parent connect is erased with the protocol that holds it. -/
def eraseParentConnect (self : Server) : Server :=
  { self with hasParent := false }

end Server

end Connecting
end OpenRTI
