import OpenRTI.Connecting.ServerOptions

/-!
# The initial protocols of client and server

The client offers the versions, encodings and compressions that its build has.  The
server picks one of each, or it answers with an error.  Both sides then set the protocol
stack that follows.
-/

namespace OpenRTI
namespace Connecting

open DataStream (OctetString StringList StringStringListMap)

/-! ## Builds and protocol stacks -/

/-- What a program is built with. -/
structure Build where
  compatibleVersions : StringList
  haveXZ : Bool
  haveZLib : Bool

namespace Build

/-- The versions of this release. -/
def release (haveXZ haveZLib : Bool) : Build where
  compatibleVersions := [text "9", text "8"]
  haveXZ := haveXZ
  haveZLib := haveZLib

/-- The first one of the own versions that the other side has, too. -/
def getCompatibleVersion
    (self : Build)
    (versions : StringList) : Option OctetString :=
  self.compatibleVersions.find? fun version => versions.contains version

end Build

inductive ProtocolLayer
  | zLibProtocolLayer
  | tightBE1MessageEncoding
  deriving DecidableEq

/-- The layers from the socket up. -/
abbrev ProtocolStack := List ProtocolLayer

namespace MessageEncodingRegistry

def getEncoding (encodingName : OctetString) : Option ProtocolLayer :=
  if encodingName = text "TightBE1" then some .tightBE1MessageEncoding else none

def getEncodings : StringList :=
  [text "TightBE1"]

def getCommonEncodings (encodingList : StringList) : StringList :=
  encodingList.filter fun encoding => encoding = text "TightBE1"

end MessageEncodingRegistry

/-- The protocol stack that follows, and the connect that it serves. -/
structure Followup where
  protocolStack : ProtocolStack
  connect : NodeConnect

/-! ## The server -/

namespace InitialServerStreamProtocol

/-- What the server does with the options of a client. -/
inductive Answer
  /-- There is no followup; the socket is closed when the response is written. -/
  | errorResponse (errorMessage : OctetString)
  | response (responseValueMap : StringStringListMap) (followup : Followup)
  | failed (failure : Failure)

/-- The options that are written to the client. -/
def Answer.written : Answer → Option StringStringListMap
  | errorResponse errorMessage => some ((∅ : StringStringListMap).set (text "error") [errorMessage])
  | response responseValueMap _ => some responseValueMap
  | failed _ => none

/-- The server compresses if it prefers to, and has what the client offers. -/
def compresses
    (build : Build)
    (server : Server)
    (clientOptionMap : StringStringListMap) : Bool :=
  server.serverOptions.preferCompression &&
    (valueAt clientOptionMap (text "compression")).any fun compression =>
      build.haveZLib && compression = text "zlib"

/-- The response starts with the options of the server. -/
def responseValueMap
    (server : Server)
    (protocolVersion encoding : OctetString)
    (compressed : Bool) : StringStringListMap :=
  server.serverOptions.optionMap.set (text "version") [protocolVersion]
    |>.set (text "encoding") [encoding]
    |>.set (text "compression") [if compressed then text "zlib" else text "no"]

/-- The connect is told the version that is picked, beside the options of the client. -/
def accept
    (build : Build)
    (clientOptionMap : StringStringListMap)
    (protocolVersion encoding : OctetString)
    (server : Server) : Answer × Server :=
  let resultingClientOptionMap :=
    clientOptionMap.set (text "version") [protocolVersion]
  match server.sendConnect resultingClientOptionMap false with
  | (.error failure, server) => (.failed failure, server)
  | (.ok none, server) =>
      (.errorResponse (text
        "Could not get an internal connect structure from the server!"), server)
  | (.ok (some connect), server) =>
      let messageProtocol :=
        (MessageEncodingRegistry.getEncoding encoding).toList
      let compressed := compresses build server clientOptionMap
      let protocolStack :=
        if compressed then .zLibProtocolLayer :: messageProtocol
        else messageProtocol
      (.response (responseValueMap server protocolVersion encoding compressed)
        { protocolStack, connect }, server)

def readOptionMap
    (build : Build)
    (clientOptionMap : StringStringListMap)
    (server : Server) : Answer × Server :=
  match clientOptionMap.find? (text "version") with
  | none =>
      (.errorResponse (text "No version field in the connect header given."),
        server)
  | some versions =>
      match build.getCompatibleVersion versions with
      | none =>
          (.errorResponse (text
            "Client does not support version 9 of the protocol."), server)
      | some protocolVersion =>
          match valueAt clientOptionMap (text "encoding") with
          | [] =>
              (.errorResponse (text "Client advertises no encoding!"), server)
          | encodings =>
              match MessageEncodingRegistry.getCommonEncodings encodings with
              | [] =>
                  (.errorResponse (text
                    "Client and server have no common encoding!"), server)
              | encoding :: _ =>
                  accept build clientOptionMap protocolVersion encoding server

end InitialServerStreamProtocol

/-! ## The client -/

namespace InitialClientStreamProtocol

/-- Remove a compression that is not available. -/
def removeCompression
    (available : Bool)
    (compression : OctetString)
    (connectOptions : StringStringListMap) : StringStringListMap :=
  if available then connectOptions
  else
    connectOptions.set (text "compression")
      ((valueAt connectOptions (text "compression")).filter (· ≠ compression))

/-- The options that the client writes. -/
def setConnectOptions
    (build : Build)
    (connectOptions : StringStringListMap) : StringStringListMap :=
  connectOptions.set (text "version") build.compatibleVersions
    |> removeCompression build.haveXZ (text "lzma")
    |> removeCompression build.haveZLib (text "zlib")
    |>.set (text "encoding") MessageEncodingRegistry.getEncodings

/-- What stops the client before it looks at the encoding. -/
def refusal
    (build : Build)
    (optionMap : StringStringListMap) : Option OctetString :=
  match optionMap.find? (text "error") with
  | some [] => some (text "Error response from server without error message!")
  | some (message :: _) => some message
  | none =>
      match optionMap.find? (text "version") with
      | none => none
      | some [] => some (text "Empty version response from server!")
      | some versions =>
          match build.getCompatibleVersion versions with
          | none =>
              some (text "Client does not support version 9 of the protocol.")
          | some _ => none

/-- The layers that the client puts below the encoding. -/
def compressionLayers
    (build : Build)
    (optionMap : StringStringListMap) : Except OctetString ProtocolStack :=
  match valueAt optionMap (text "compression") with
  | [] => .ok []
  | _ :: _ :: _ =>
      .error (text "Non unique compression sent with server response!")
  | [compression] =>
      if compression = text "lzma" then
        .error (text "Unable to do server given lzma compression!")
      else if compression = text "zlib" then
        if build.haveZLib then .ok [.zLibProtocolLayer]
        else .error (text "Unable to do server given zlib compression!")
      else .ok []

/-- Get a new parent connect.  It goes away when what follows it throws. -/
def connect
    (build : Build)
    (optionMap : StringStringListMap)
    (messageProtocol : ProtocolLayer)
    (server : Server) : Except Failure Followup × Server :=
  match server.sendConnect optionMap true with
  | (.error failure, server) => (.error failure, server)
  | (.ok none, server) =>
      (.error (.rtiInternalError (text
        "Could not get an internal connect structure from the server!")), server)
  | (.ok (some connect), server) =>
      match compressionLayers build optionMap with
      | .error message =>
          (.error (.rtiInternalError message), server.eraseParentConnect)
      | .ok layers =>
          (.ok { protocolStack := layers ++ [messageProtocol], connect }, server)

/-- What the client does with the answer of the server. -/
def readOptionMap
    (build : Build)
    (optionMap : StringStringListMap)
    (server : Server) : Except Failure Followup × Server :=
  match refusal build optionMap with
  | some message => (.error (.rtiInternalError message), server)
  | none =>
      match valueAt optionMap (text "encoding") with
      | [] =>
          (.error (.rtiInternalError (text
            "No encoding sent with server response!")), server)
      | _ :: _ :: _ =>
          (.error (.rtiInternalError (text
            "Non unique encoding sent with server response!")), server)
      | [encoding] =>
          match MessageEncodingRegistry.getEncoding encoding with
          | none =>
              (.error (.rtiInternalError (text
                "Unable to do server given encoding!")), server)
          | some messageProtocol =>
              connect build optionMap messageProtocol server

end InitialClientStreamProtocol

end Connecting
end OpenRTI
