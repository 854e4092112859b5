import OpenRTI.Connecting.Negotiation

/-!
# What the initial protocols do with each other's options

The options that a client writes lead the server to a response or to one of two errors,
and what the server writes leads the client to the same protocol stack and version, or
to the error of the server.
-/

namespace OpenRTI
namespace Connecting

open Foundation (Octet OrderedMap)
open DataStream (OctetString StringList StringStringListMap)

/-! ## Options of servers -/

/-- No server hands out an error, and the path ends with the name. -/
structure ServerOptions.WellFormed (options : ServerOptions) : Prop where
  noError : options.optionMap.find? (text "error") = none
  named :
    options = { ServerOptions.new with
      preferCompression := options.preferCompression } ∨
    options.optionMap.find? (text "serverPath") =
        some (options.parentServerPath ++ [options.serverName]) ∧
      options.serverPath = ServerOptions.prettyPath
        (options.parentServerPath ++ [options.serverName]) ∧
      (valueAt options.optionMap (text "serverName")).getLast? =
        some options.serverName

theorem ServerOptions.wellFormed_new : ServerOptions.new.WellFormed where
  noError := rfl
  named := Or.inl rfl

theorem ServerOptions.wellFormed_setServerName
    {options : ServerOptions}
    (wellFormed : options.WellFormed) (serverName : OctetString) :
    (options.setServerName serverName).WellFormed := by
  refine ⟨?_, Or.inr ⟨?_, rfl, ?_⟩⟩
  · simp (disch := decide) only [setServerName, OrderedMap.find?_set_of_ne]
    exact wellFormed.noError
  · exact OrderedMap.find?_set_self _ _ _
  · simp (disch := decide) only [setServerName, valueAt,
      OrderedMap.find?_set_of_ne, OrderedMap.find?_set_self, Option.getD_some,
      List.getLast?_concat]

theorem ServerOptions.wellFormed_setParentOptionMap
    {parentOptionMap : StringStringListMap}
    (noError : parentOptionMap.find? (text "error") = none)
    (options : ServerOptions) :
    (options.setParentOptionMap parentOptionMap).WellFormed := by
  refine ⟨?_, Or.inr ⟨?_, rfl, ?_⟩⟩
  · simp (disch := decide) only [setParentOptionMap,
      OrderedMap.find?_set_of_ne]
    exact noError
  · exact OrderedMap.find?_set_self _ _ _
  · simp (disch := decide) only [setParentOptionMap, valueAt,
      OrderedMap.find?_set_of_ne, OrderedMap.find?_set_self, Option.getD_some]
    rfl

theorem ServerOptions.wellFormed_preferCompression
    {options : ServerOptions}
    (wellFormed : options.WellFormed) (preferCompression : Bool) :
    { options with preferCompression }.WellFormed := by
  refine ⟨wellFormed.noError, ?_⟩
  rcases wellFormed.named with unnamed | named
  · left
    rw [unnamed]
  · exact Or.inr named

theorem ServerOptions.parentServerPath_setParentOptionMap
    (parentOptionMap : StringStringListMap) (options : ServerOptions) :
    (options.setParentOptionMap parentOptionMap).parentServerPath =
      valueAt parentOptionMap (text "serverPath") := by
  simp (disch := decide) only [setParentOptionMap, valueAt,
    OrderedMap.find?_set_of_ne]

/-! ## What is negotiated -/

/-- The version that both builds have, by the preference of the server. -/
def commonVersion (server client : Build) : Option OctetString :=
  server.getCompatibleVersion client.compatibleVersions

variable {build : Build} {version : OctetString}

theorem Build.getCompatibleVersion_singleton
    (member : version ∈ build.compatibleVersions) :
    build.getCompatibleVersion [version] = some version := by
  cases found : build.getCompatibleVersion [version] with
  | none =>
      rw [Build.getCompatibleVersion, List.find?_eq_none] at found
      have absent := found version member
      simp at absent
  | some other =>
      have taken := List.find?_some found
      have same : other = version := by simpa using taken
      rw [same]

variable {client : Build}

theorem commonVersion_mem
    {server : Build}
    (common : commonVersion server client = some version) :
    version ∈ client.compatibleVersions := by
  have taken := List.find?_some common
  simpa using taken

/-- The numeric version of a connect. -/
def versionNumber (version : OctetString) : BitVec 32 :=
  (strtoul version.octets).setWidth 32

variable {options : StringStringListMap}

theorem NodeConnect.setOptions_eq_some
    {versions : StringList}
    (found : options.find? (text "version") = some (version :: versions))
    (parent : Bool) :
    NodeConnect.setOptions parent options =
      some { isParentConnect := parent, options
             name := (valueAt options (text "serverName")).head?.getD (text "")
             version := versionNumber version } := by
  rw [NodeConnect.setOptions, valueAt, valueAt, found]
  rfl

theorem NodeConnect.options_of_setOptions
    {parent : Bool} {connect : NodeConnect}
    (set : NodeConnect.setOptions parent options = some connect) :
    connect.options = options := by
  rw [NodeConnect.setOptions] at set
  split at set
  · cases set
  · cases set
    rfl

variable {compress : Bool}

/-! ## The request of a client -/

namespace InitialClientStreamProtocol

theorem find?_removeCompression_of_ne
    {key : OctetString}
    (different : key ≠ text "compression")
    (available : Bool) (compression : OctetString)
    (options : StringStringListMap) :
    (removeCompression available compression options).find? key =
      options.find? key := by
  cases available with
  | true => rfl
  | false => exact OrderedMap.find?_set_of_ne different _ _

theorem mem_removeCompression
    {available : Bool} {removed compression : OctetString}
    (member : compression ∈
      valueAt (removeCompression available removed options)
        (text "compression")) :
    compression ∈ valueAt options (text "compression") ∧
      (available = true ∨ compression ≠ removed) := by
  cases available with
  | true => exact ⟨member, Or.inl rfl⟩
  | false =>
      simp only [removeCompression, Bool.false_eq_true, if_false, valueAt,
        OrderedMap.find?_set_self, Option.getD_some, List.mem_filter] at member
      exact ⟨member.1, Or.inr (of_decide_eq_true member.2)⟩

theorem find?_version_setConnectOptions
    (build : Build) (options : StringStringListMap) :
    (setConnectOptions build options).find? (text "version") =
      some build.compatibleVersions := by
  simp (disch := decide) only [setConnectOptions, OrderedMap.find?_set_of_ne,
    find?_removeCompression_of_ne, OrderedMap.find?_set_self]

theorem find?_encoding_setConnectOptions
    (build : Build) (options : StringStringListMap) :
    (setConnectOptions build options).find? (text "encoding") =
      some [text "TightBE1"] :=
  OrderedMap.find?_set_self _ _ _

/-- Only a client that is built with the compression, and told to compress, offers it. -/
theorem zlib_offered
    (offered : text "zlib" ∈ valueAt
      (setConnectOptions build (configuredOptions compress))
      (text "compression")) :
    build.haveZLib = true ∧ compress = true := by
  rw [setConnectOptions, valueAt,
    OrderedMap.find?_set_of_ne (by decide)] at offered
  obtain ⟨offered, available⟩ := mem_removeCompression offered
  obtain ⟨offered, _⟩ := mem_removeCompression offered
  have have_ : build.haveZLib = true := by
    rcases available with available | different
    · exact available
    · exact absurd rfl different
  refine ⟨have_, ?_⟩
  cases compress with
  | true => rfl
  | false =>
      rw [valueAt, OrderedMap.find?_set_of_ne (by decide), configuredOptions,
        OrderedMap.find?_set_self] at offered
      exact absurd offered (by decide)

end InitialClientStreamProtocol

/-! ## The answer of the server -/

/-- The protocol stack with one encoding, and with or without compression. -/
def stackOf (compressed : Bool) : ProtocolStack :=
  if compressed then [.zLibProtocolLayer, .tightBE1MessageEncoding]
  else [.tightBE1MessageEncoding]

/-- A response and what the server sets with it. -/
structure Accepts
    (server client : Build)
    (compress : Bool)
    (response : StringStringListMap)
    (followup : Followup)
    (version : OctetString)
    (compressed : Bool) : Prop where
  common : commonVersion server client = some version
  offered : compressed = true →
    compress = true ∧ server.haveZLib = true ∧ client.haveZLib = true
  noError : response.find? (text "error") = none
  picked : response.find? (text "version") = some [version]
  encoding : response.find? (text "encoding") = some [text "TightBE1"]
  compression : response.find? (text "compression") =
    some [if compressed then text "zlib" else text "no"]
  protocolStack : followup.protocolStack = stackOf compressed
  connect : followup.connect.version = versionNumber version

/-- A server whose version is not among those of the client says so; one that is done
has no connect. -/
def Refuses (server client : Build) (errorMessage : OctetString) : Prop :=
  commonVersion server client = none ∧
      errorMessage =
        text "Client does not support version 9 of the protocol." ∨
    (commonVersion server client).isSome ∧
      errorMessage = text
        "Could not get an internal connect structure from the server!"

variable {followup : Followup}

namespace InitialServerStreamProtocol

/-- How a server answers a client. -/
inductive Answers
    (server client : Build)
    (compress : Bool) : Answer → Prop
  | errorResponse
      {errorMessage : OctetString}
      (refuses : Refuses server client errorMessage) :
      Answers server client compress (.errorResponse errorMessage)
  | response
      {response : StringStringListMap}
      {followup : Followup}
      {version : OctetString}
      {compressed : Bool}
      (accepts : Accepts server client compress response followup version
        compressed) :
      Answers server client compress (.response response followup)

variable {server : Server}

theorem compresses_offered
    (compressed : compresses build server
      (InitialClientStreamProtocol.setConnectOptions client
        (configuredOptions compress)) = true) :
    compress = true ∧ build.haveZLib = true ∧ client.haveZLib = true := by
  rw [compresses, Bool.and_eq_true, List.any_eq_true] at compressed
  obtain ⟨_, compression, offered, taken⟩ := compressed
  rw [Bool.and_eq_true, decide_eq_true_eq] at taken
  obtain ⟨haveZLib, rfl⟩ := taken
  obtain ⟨clientHas, told⟩ := InitialClientStreamProtocol.zlib_offered offered
  exact ⟨told, haveZLib, clientHas⟩

/-- The response map holds what is picked, whatever the options of the server. -/
theorem accepts_responseValueMap
    (wellFormed : server.serverOptions.WellFormed)
    (common : commonVersion build client = some version)
    (stack : followup.protocolStack = stackOf (compresses build server
      (InitialClientStreamProtocol.setConnectOptions client
        (configuredOptions compress))))
    (numbered : followup.connect.version = versionNumber version) :
    Accepts build client compress
      (responseValueMap server version (text "TightBE1")
        (compresses build server
          (InitialClientStreamProtocol.setConnectOptions client
            (configuredOptions compress))))
      followup version
      (compresses build server
        (InitialClientStreamProtocol.setConnectOptions client
          (configuredOptions compress))) where
  common := common
  offered := compresses_offered
  noError := by
    simp (disch := decide) only [responseValueMap,
      OrderedMap.find?_set_of_ne]
    exact wellFormed.noError
  picked := by
    simp (disch := decide) only [responseValueMap,
      OrderedMap.find?_set_of_ne, OrderedMap.find?_set_self]
  encoding := by
    simp (disch := decide) only [responseValueMap,
      OrderedMap.find?_set_of_ne, OrderedMap.find?_set_self]
  compression := OrderedMap.find?_set_self _ _ _
  protocolStack := stack
  connect := numbered

/-- A server accepts unless it is done. -/
theorem accept_request
    {build client : Build} {compress : Bool}
    {server : Server} {version : OctetString}
    (wellFormed : server.serverOptions.WellFormed)
    (common : commonVersion build client = some version) :
    ∃ answer,
      accept build
          (InitialClientStreamProtocol.setConnectOptions client
            (configuredOptions compress))
          version (text "TightBE1") server = (answer, server) ∧
        Answers build client compress answer := by
  rw [accept, Server.sendConnect]
  cases done : server.done with
  | true =>
      refine ⟨_, rfl, .errorResponse (Or.inr ⟨?_, rfl⟩)⟩
      rw [common]
      rfl
  | false =>
      rw [NodeConnect.setOptions_eq_some (OrderedMap.find?_set_self _ _ _)]
      refine ⟨_, rfl, .response
        (accepts_responseValueMap wellFormed common ?_ rfl)⟩
      rfl

/-- How a server answers the request of a client.  Nothing changes in it. -/
theorem readOptionMap_request
    (wellFormed : server.serverOptions.WellFormed) (client : Build)
    (compress : Bool) :
    ∃ answer,
      readOptionMap build
          (InitialClientStreamProtocol.setConnectOptions client
            (configuredOptions compress)) server = (answer, server) ∧
        Answers build client compress answer := by
  rw [readOptionMap,
    InitialClientStreamProtocol.find?_version_setConnectOptions, valueAt,
    InitialClientStreamProtocol.find?_encoding_setConnectOptions]
  dsimp only
  cases common : commonVersion build client with
  | none =>
      rw [commonVersion] at common
      rw [common]
      exact ⟨_, rfl, .errorResponse (Or.inl ⟨common, rfl⟩)⟩
  | some version =>
      have accepted :=
        @accept_request build client compress server version wellFormed common
      rw [commonVersion] at common
      rw [common]
      exact accepted

end InitialServerStreamProtocol

/-! ## What the client makes of it -/

namespace InitialClientStreamProtocol

/-- A client that reads an error stops with it. -/
theorem readOptionMap_error
    (build : Build) (errorMessage : OctetString) (server : Server) :
    readOptionMap build
        ((∅ : StringStringListMap).set (text "error") [errorMessage]) server =
      (.error (.rtiInternalError errorMessage), server) := by
  rw [readOptionMap, refusal, OrderedMap.find?_set_self]

theorem find?_error_of_refusal
    {optionMap : StringStringListMap}
    (accepted : refusal build optionMap = none) :
    optionMap.find? (text "error") = none := by
  rw [refusal] at accepted
  split at accepted
  · cases accepted
  · cases accepted
  · assumption

theorem ne_ok
    {result : Except Failure Followup × Server} {failure : Failure}
    (stopped : result.1 = .error failure)
    (followup : Followup) :
    result.1 ≠ .ok followup := by
  rw [stopped]
  intro same
  cases same

theorem connect_server
    (build : Build) (optionMap : StringStringListMap)
    (messageProtocol : ProtocolLayer) (server : Server) :
    (connect build optionMap messageProtocol server).2 = server ∧
        (∀ followup,
          (connect build optionMap messageProtocol server).1 ≠ .ok followup) ∨
      server.hasParent = false ∧
        (connect build optionMap messageProtocol server).2.serverOptions =
          server.serverOptions.setParentOptionMap optionMap ∧
        ∀ followup,
          (connect build optionMap messageProtocol server).1 = .ok followup →
            (connect build optionMap messageProtocol server).2.hasParent =
                true ∧
              followup.connect.options = optionMap := by
  rw [connect, Server.sendConnect]
  cases done : server.done with
  | true => exact Or.inl ⟨rfl, ne_ok rfl⟩
  | false =>
      cases free : server.hasParent with
      | true => exact Or.inl ⟨rfl, ne_ok rfl⟩
      | false =>
          cases set : NodeConnect.setOptions true optionMap with
          | none => exact Or.inl ⟨rfl, ne_ok rfl⟩
          | some connect =>
              right
              cases layers : compressionLayers build optionMap with
              | error message =>
                  refine ⟨rfl, rfl, ?_⟩
                  intro followup same
                  exact absurd same (ne_ok rfl followup)
              | ok layers =>
                  refine ⟨rfl, rfl, ?_⟩
                  intro followup same
                  cases same
                  exact ⟨rfl, NodeConnect.options_of_setOptions set⟩

/-- What becomes of the server of a client, whatever it reads. -/
theorem readOptionMap_server
    (build : Build) (optionMap : StringStringListMap) (server : Server) :
    (readOptionMap build optionMap server).2 = server ∧
        (∀ followup,
          (readOptionMap build optionMap server).1 ≠ .ok followup) ∨
      server.hasParent = false ∧
        optionMap.find? (text "error") = none ∧
        (readOptionMap build optionMap server).2.serverOptions =
          server.serverOptions.setParentOptionMap optionMap ∧
        ∀ followup, (readOptionMap build optionMap server).1 = .ok followup →
          (readOptionMap build optionMap server).2.hasParent = true ∧
            followup.connect.options = optionMap := by
  rw [readOptionMap]
  cases refused : refusal build optionMap with
  | some message => exact Or.inl ⟨rfl, ne_ok rfl⟩
  | none =>
      have noError := find?_error_of_refusal refused
      dsimp only
      split
      · exact Or.inl ⟨rfl, ne_ok rfl⟩
      · exact Or.inl ⟨rfl, ne_ok rfl⟩
      · split
        · exact Or.inl ⟨rfl, ne_ok rfl⟩
        · next messageProtocol _ =>
            rcases connect_server build optionMap messageProtocol server with
              unchanged | ⟨free, options, connected⟩
            · exact Or.inl unchanged
            · exact Or.inr ⟨free, noError, options, connected⟩

variable {response : StringStringListMap} {compressed : Bool}

section

variable (accepts : Accepts build client compress response followup version
      compressed)
include accepts

theorem refusal_response :
    refusal client response = none := by
  rw [refusal, accepts.noError, accepts.picked]
  dsimp only
  rw [Build.getCompatibleVersion_singleton (commonVersion_mem accepts.common)]

theorem compressionLayers_response :
    compressionLayers client response =
      .ok (if compressed then [.zLibProtocolLayer] else []) := by
  rw [compressionLayers, valueAt, accepts.compression]
  cases compressed with
  | false => rfl
  | true =>
      have haveZLib := (accepts.offered rfl).2.2
      dsimp only [Option.getD_some, if_true]
      rw [if_neg (by decide), if_pos rfl, haveZLib]
      rfl

/-- A client follows the response of a server, unless it is done or has a parent. -/
theorem readOptionMap_response
    (server : Server) :
    (readOptionMap client response server).1 =
        .error (.rtiInternalError (text
          "Could not get an internal connect structure from the server!")) ∨
      (readOptionMap client response server).1 = .error .assertion ∨
      ∃ own, (readOptionMap client response server).1 = .ok own ∧
        own.protocolStack = followup.protocolStack ∧
        own.connect.version = followup.connect.version := by
  have layers := compressionLayers_response accepts
  rw [readOptionMap, refusal_response accepts, valueAt, accepts.encoding]
  change (connect client response .tightBE1MessageEncoding server).1 = _ ∨
    (connect client response .tightBE1MessageEncoding server).1 = _ ∨
      ∃ own, (connect client response .tightBE1MessageEncoding server).1 =
        .ok own ∧ _
  rw [connect, Server.sendConnect, layers,
    NodeConnect.setOptions_eq_some accepts.picked]
  cases done : server.done with
  | true => exact Or.inl rfl
  | false =>
      cases free : server.hasParent with
      | true => exact Or.inr (Or.inl rfl)
      | false =>
          refine Or.inr (Or.inr ⟨_, rfl, ?_, accepts.connect.symm⟩)
          rw [accepts.protocolStack]
          cases compressed <;> rfl

end

end InitialClientStreamProtocol
end Connecting
end OpenRTI
