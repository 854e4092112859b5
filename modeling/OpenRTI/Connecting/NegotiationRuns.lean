import OpenRTI.Connecting.InitialProtocolEffects

/-!
# Runs of servers that connect

In every run both ends of a connection set the same protocol stack and version, or the
client stops with the error that the server has answered with.  No octets are
misunderstood, and none are waited for in vain.
-/

namespace OpenRTI
namespace Connecting

open Foundation (Octet OrderedMap)
open DataStream (OctetString StringList StringStringListMap mapLayout count
  starter readPacket)

/-! ## Options in flight -/

/-- The size field can tell the length of the options. -/
def FitsPacket (optionMap : StringStringListMap) : Prop :=
  (mapLayout optionMap).length + 12 < 2 ^ 32

instance (optionMap : StringStringListMap) : Decidable (FitsPacket optionMap) :=
  inferInstanceAs (Decidable (_ < _))

def headerOf (optionMap : StringStringListMap) : List Octet :=
  starter ++ count ((mapLayout optionMap).length + 12)

theorem length_headerOf (optionMap : StringStringListMap) :
    (headerOf optionMap).length = 12 := by
  rw [headerOf, List.length_append, DataStream.length_count]
  rfl

theorem octetsOf_eq (optionMap : StringStringListMap) :
    octetsOf optionMap = headerOf optionMap ++ mapLayout optionMap := by
  rw [octetsOf, DataStream.writeOptionMap_eq]
  rfl

variable {optionMap : StringStringListMap} {incoming : Incoming}

namespace Incoming

/-- The options are in flight as a whole, or their header has been read. -/
inductive Carries (optionMap : StringStringListMap) :
    Incoming → List Octet → Prop
  | whole : Carries optionMap .initial (octetsOf optionMap)
  | body :
      Carries optionMap ⟨[headerOf optionMap], (mapLayout optionMap).length⟩
        (mapLayout optionMap)

/-- Options that are carried can be read: either there is more of them, or they are
those that have been written and nothing is left in flight. -/
theorem Carries.read
    {inFlight : List Octet}
    (carries : Carries optionMap incoming inFlight)
    (fits : FitsPacket optionMap) :
    (∃ more rest, incoming.read inFlight = some (.ok (.inl more), rest) ∧
        Carries optionMap more rest) ∨
      incoming.read inFlight = some (.ok (.inr optionMap), []) := by
  rw [FitsPacket] at fits
  cases carries with
  | whole =>
      left
      refine ⟨_, _, ?_, .body⟩
      have long : 12 ≤ (octetsOf optionMap).length := by
        rw [octetsOf_eq, List.length_append, length_headerOf]
        omega
      have first : (octetsOf optionMap).take 12 = headerOf optionMap := by
        rw [octetsOf_eq, ← length_headerOf optionMap, List.take_left]
      have rest : (octetsOf optionMap).drop 12 = mapLayout optionMap := by
        rw [octetsOf_eq, ← length_headerOf optionMap, List.drop_left]
      have positive : 0 < (mapLayout optionMap).length := by
        rw [mapLayout, List.length_append, DataStream.length_count]
        omega
      have asked : readPacket [headerOf optionMap] =
          .ok (.addScratchReadBuffer (mapLayout optionMap).length) :=
        DataStream.readHeader_eq_ok positive fits
      rw [Incoming.read, initial, if_pos long]
      dsimp only
      rw [first, rest, List.nil_append, asked]
  | body =>
      right
      have complete : readPacket [headerOf optionMap, mapLayout optionMap] =
          .ok (.readOptionMap optionMap) := by
        rw [readPacket, DataStream.reading,
          @DataStream.readStringStringListMap_mapLayout optionMap (by omega)]
        rfl
      rw [Incoming.read, if_pos (Nat.le_refl _)]
      dsimp only
      rw [List.take_length, List.drop_length, List.cons_append,
        List.nil_append, complete]

end Incoming

/-! ## One connection -/

namespace Connection

variable {ι : Type}

/-- Why a client fails with the answer of a server. -/
def Fails
    (answer : InitialServerStreamProtocol.Answer)
    (failure : Failure) : Prop :=
  (∃ errorMessage,
      answer = .errorResponse errorMessage ∧
        failure = .rtiInternalError errorMessage) ∨
    ∃ response other,
      answer = .response response other ∧
        (failure = .rtiInternalError (text
            "Could not get an internal connect structure from the server!") ∨
          failure = .assertion)

/-- How a client goes on with the answer of a server. -/
def Follows
    (answer : InitialServerStreamProtocol.Answer)
    (followup : Followup) : Prop :=
  ∃ response other,
    answer = .response response other ∧
      followup.protocolStack = other.protocolStack ∧
      followup.connect.version = other.connect.version ∧
      followup.connect.options = response

/-- What holds of a connection at any time. -/
structure Sound (builds : ι → Build) (connection : Connection ι) : Prop where
  requesting : ∀ incoming, connection.serverPhase = .reading incoming →
    incoming.Carries (connection.request builds) connection.toServer ∧
      connection.toClient = [] ∧ connection.clientPhase = .reading .initial
  answers : ∀ answer, connection.serverPhase = .answered answer →
    InitialServerStreamProtocol.Answers (builds connection.server)
      (builds connection.client) connection.compress answer
  responding : ∀ answer incoming, connection.serverPhase = .answered answer →
    connection.clientPhase = .reading incoming →
      ∃ written, answer.written = some written ∧
        incoming.Carries written connection.toClient
  /-- Both ends use the same protocol stack and the same version. -/
  connected : ∀ followup, connection.clientPhase = .connected followup →
    ∃ answer, connection.serverPhase = .answered answer ∧
      Follows answer followup
  /-- The client tells the error of the server, or has no connect for its response. -/
  failed : ∀ failure, connection.clientPhase = .failed failure →
    ∃ answer, connection.serverPhase = .answered answer ∧ Fails answer failure

/-- The options that have been written at both ends. -/
def packets
    (builds : ι → Build)
    (connection : Connection ι) : List StringStringListMap :=
  connection.request builds ::
    match connection.serverPhase with
    | .reading _ => []
    | .answered answer => answer.written.toList

def Fits (builds : ι → Build) (connection : Connection ι) : Prop :=
  ∀ optionMap ∈ connection.packets builds, FitsPacket optionMap

instance (builds : ι → Build) (connection : Connection ι) :
    Decidable (connection.Fits builds) :=
  inferInstanceAs (Decidable (∀ _ ∈ _, _))

variable {builds : ι → Build} {connection : Connection ι}

theorem Fits.request
    (fits : connection.Fits builds) :
    FitsPacket (connection.request builds) :=
  fits _ List.mem_cons_self

variable {answer : InitialServerStreamProtocol.Answer}

theorem Fits.written
    (fits : connection.Fits builds)
    (answered : connection.serverPhase = .answered answer)
    (isWritten : answer.written = some optionMap) :
    FitsPacket optionMap := by
  apply fits
  rw [packets, answered]
  dsimp only
  rw [isWritten]
  exact List.mem_cons_of_mem _ List.mem_cons_self

theorem sound_connectParentStreamServer
    (builds : ι → Build) (client server : ι) (compress : Bool) :
    (connectParentStreamServer builds client server compress).Sound builds where
  requesting := by
    intro incoming phase
    cases phase
    exact ⟨.whole, rfl, rfl⟩
  answers := by
    intro answer phase
    cases phase
  responding := by
    intro answer incoming phase
    cases phase
  connected := by
    intro followup phase
    cases phase
  failed := by
    intro failure phase
    cases phase

variable {client : Build} {compress : Bool}

theorem written_isSome_of_answers
    {server : Build}
    (answers : InitialServerStreamProtocol.Answers server client compress
      answer) :
    ∃ written, answer.written = some written := by
  cases answers with
  | errorResponse => exact ⟨_, rfl⟩
  | response => exact ⟨_, rfl⟩

variable {server : Server}

/-- A server that reads what a client has written goes on. -/
theorem Sound.serverReads
    (sound : connection.Sound builds) (fits : connection.Fits builds)
    (phase : connection.serverPhase = .reading incoming)
    (wellFormed : server.serverOptions.WellFormed) :
    ∃ changed,
      connection.serverReads (builds connection.server) server =
          some (changed, server) ∧
        changed.Sound builds ∧ changed.client = connection.client ∧
        changed.clientPhase = .reading .initial := by
  obtain ⟨carries, silent, waits⟩ := sound.requesting incoming phase
  rw [Connection.serverReads, phase]
  dsimp only
  rcases carries.read fits.request with ⟨more, rest, read, carries⟩ | read
  · rw [read]
    refine ⟨_, rfl, ⟨?_, ?_, ?_, ?_, ?_⟩, rfl, waits⟩
    · intro incoming same
      cases same
      exact ⟨carries, silent, waits⟩
    · intro answer same
      cases same
    · intro answer incoming same
      cases same
    · intro followup same
      rw [waits] at same
      cases same
    · intro failure same
      rw [waits] at same
      cases same
  · obtain ⟨answer, answered, answers⟩ :=
      InitialServerStreamProtocol.readOptionMap_request wellFormed
        (builds connection.client) connection.compress
    obtain ⟨written, isWritten⟩ := written_isSome_of_answers answers
    rw [read]
    dsimp only [Option.map_some]
    rw [request] at *
    rw [answered]
    refine ⟨_, rfl, ⟨?_, ?_, ?_, ?_, ?_⟩, rfl, waits⟩
    · intro incoming same
      cases same
    · intro other same
      cases same
      exact answers
    · intro other incoming same reads
      cases same
      rw [waits] at reads
      cases reads
      refine ⟨written, isWritten, ?_⟩
      dsimp only
      rw [isWritten, silent]
      exact .whole
    · intro followup same
      rw [waits] at same
      cases same
    · intro failure same
      rw [waits] at same
      cases same

/-- The client either fails or follows with what has been written to it. -/
theorem readOptionMap_written
    {server : Build}
    (answers : InitialServerStreamProtocol.Answers server client compress
      answer)
    {written : StringStringListMap}
    (isWritten : answer.written = some written)
    (own : Server) :
    (∃ failure,
        (InitialClientStreamProtocol.readOptionMap client written own).1 =
            .error failure ∧ Fails answer failure) ∨
      ∃ followup,
        (InitialClientStreamProtocol.readOptionMap client written own).1 =
            .ok followup ∧ Follows answer followup := by
  cases answers with
  | @errorResponse errorMessage refuses =>
      cases isWritten
      left
      rw [InitialClientStreamProtocol.readOptionMap_error]
      exact ⟨_, rfl, Or.inl ⟨errorMessage, rfl, rfl⟩⟩
  | @response response other version compressed accepts =>
      cases isWritten
      rcases InitialClientStreamProtocol.readOptionMap_response accepts own with
        stopped | aborted | ⟨followup, follows, stack, number⟩
      · exact Or.inl ⟨_, stopped, Or.inr ⟨_, _, rfl, Or.inl rfl⟩⟩
      · exact Or.inl ⟨_, aborted, Or.inr ⟨_, _, rfl, Or.inr rfl⟩⟩
      · right
        refine ⟨followup, follows, _, _, rfl, stack, number, ?_⟩
        rcases InitialClientStreamProtocol.readOptionMap_server client written
            own with ⟨_, stops⟩ | ⟨_, _, _, connects⟩
        · exact absurd follows (stops followup)
        · exact (connects followup follows).2

/-- What becomes of the server at a client: nothing, unless it has had no parent. -/
def Places (before after : Server) (phase : ClientPhase) : Prop :=
  after.serverOptions = before.serverOptions ∧
      after.hasParent = before.hasParent ∧
      (∀ followup, phase ≠ .connected followup) ∨
    ∃ response,
      before.hasParent = false ∧
        response.find? (text "error") = none ∧
        after.serverOptions =
          before.serverOptions.setParentOptionMap response ∧
        ∀ followup, phase = .connected followup →
          after.hasParent = true ∧ followup.connect.options = response

/-- A client that reads what a server has written goes on. -/
theorem Sound.clientReads
    (sound : connection.Sound builds) (fits : connection.Fits builds)
    (answered : connection.serverPhase = .answered answer)
    (phase : connection.clientPhase = .reading incoming)
    (server : Server) :
    ∃ changed after,
      connection.clientReads (builds connection.client) server =
          some (changed, after) ∧
        changed.Sound builds ∧ changed.client = connection.client ∧
        Places server after changed.clientPhase := by
  obtain ⟨written, isWritten, carries⟩ :=
    sound.responding answer incoming answered phase
  have answers := sound.answers answer answered
  rw [Connection.clientReads, phase]
  dsimp only
  rcases carries.read (fits.written answered isWritten) with
    ⟨more, rest, read, carries⟩ | read
  · rw [read]
    refine ⟨_, _, rfl, ⟨?_, ?_, ?_, ?_, ?_⟩, rfl, Or.inl ⟨rfl, rfl, ?_⟩⟩
    · intro incoming same
      rw [answered] at same
      cases same
    · exact sound.answers
    · intro other incoming same reads
      rw [answered] at same
      cases same
      cases reads
      exact ⟨written, isWritten, carries⟩
    · intro followup same
      cases same
    · intro failure same
      cases same
    · intro followup same
      cases same
  · rw [read]
    dsimp only [Option.map_some]
    have placed := InitialClientStreamProtocol.readOptionMap_server
      (builds connection.client) written server
    have outcome := readOptionMap_written answers isWritten server
    cases ran : InitialClientStreamProtocol.readOptionMap
        (builds connection.client) written server with
    | mk result after =>
    rw [ran] at placed outcome
    cases result with
    | error failure =>
        have fails : Fails answer failure := by
          rcases outcome with ⟨_, same, fails⟩ | ⟨_, same, _⟩
          · cases same
            exact fails
          · cases same
        refine ⟨_, _, rfl, ⟨?_, sound.answers, ?_, ?_, ?_⟩, rfl, ?_⟩
        · intro incoming same
          rw [answered] at same
          cases same
        · intro other incoming _ reads
          cases reads
        · intro followup same
          cases same
        · intro other same
          cases same
          exact ⟨answer, answered, fails⟩
        · rcases placed with ⟨same, _⟩ | ⟨free, noError, options, _⟩
          · cases same
            exact Or.inl ⟨rfl, rfl, fun _ => ClientPhase.noConfusion⟩
          · refine Or.inr ⟨written, free, noError, options, ?_⟩
            intro followup same
            cases same
    | ok followup =>
        have follows : Follows answer followup := by
          rcases outcome with ⟨_, same, _⟩ | ⟨_, same, follows⟩
          · cases same
          · cases same
            exact follows
        refine ⟨_, _, rfl, ⟨?_, sound.answers, ?_, ?_, ?_⟩, rfl, ?_⟩
        · intro incoming same
          rw [answered] at same
          cases same
        · intro other incoming _ reads
          cases reads
        · intro other same
          cases same
          exact ⟨answer, answered, follows⟩
        · intro failure same
          cases same
        · rcases placed with ⟨_, stops⟩ | ⟨free, noError, options, connects⟩
          · exact absurd rfl (stops followup)
          · refine Or.inr ⟨written, free, noError, options, ?_⟩
            intro other same
            cases same
            exact connects followup rfl

variable {build : Build} {result : Connection ι × Server}

/-- The server that reads has not answered yet. -/
theorem reading_of_serverReads
    (read : connection.serverReads build server = some result) :
    ∃ incoming, connection.serverPhase = .reading incoming := by
  rw [serverReads] at read
  split at read
  · cases read
  · exact ⟨_, ‹_›⟩

theorem reading_of_clientReads
    (read : connection.clientReads build server = some result) :
    ∃ incoming, connection.clientPhase = .reading incoming := by
  rw [clientReads] at read
  split at read
  · cases read
  · cases read
  · exact ⟨_, ‹_›⟩

/-- A client cannot read before the server has answered. -/
theorem answered_of_clientReads
    (sound : connection.Sound builds)
    (read : connection.clientReads (builds connection.client) server =
      some result) :
    ∃ answer, connection.serverPhase = .answered answer := by
  cases phase : connection.serverPhase with
  | answered answer => exact ⟨answer, rfl⟩
  | reading incoming =>
      obtain ⟨_, silent, waits⟩ := sound.requesting incoming phase
      rw [clientReads, waits, silent] at read
      cases read

end Connection

/-! ## All servers -/

namespace Network

variable {ι : Type}

/-- Everything that is written fits into a packet. -/
def Fits (builds : ι → Build) (network : Network ι) : Prop :=
  ∀ connection ∈ network.connections, connection.Fits builds

instance (builds : ι → Build) (network : Network ι) :
    Decidable (network.Fits builds) :=
  inferInstanceAs (Decidable (∀ _ ∈ _, _))

/-- A connected client has a parent, whose path it extends. -/
def Placed (server : Server) (connection : Connection ι) : Prop :=
  ∀ followup, connection.clientPhase = .connected followup →
    server.hasParent = true ∧
      server.serverOptions.parentServerPath =
        valueAt followup.connect.options (text "serverPath")

structure Sound (builds : ι → Build) (network : Network ι) : Prop where
  options : ∀ server, (network.servers server).serverOptions.WellFormed
  connections : ∀ (position : Nat) (connection : Connection ι),
    network.connections[position]? = some connection → connection.Sound builds
  placed : ∀ (position : Nat) (connection : Connection ι),
    network.connections[position]? = some connection →
      Placed (network.servers connection.client) connection
  /-- A server has one parent at most. -/
  single : ∀ (first second : Nat) (left right : Connection ι)
      (leftFollowup rightFollowup : Followup),
    network.connections[first]? = some left →
      network.connections[second]? = some right →
      left.clientPhase = .connected leftFollowup →
      right.clientPhase = .connected rightFollowup →
      left.client = right.client → first = second

theorem sound_initial (builds : ι → Build) :
    Sound builds (initial : Network ι) where
  options _ := ServerOptions.wellFormed_new
  connections := by
    intro position connection found
    cases found
  placed := by
    intro position connection found
    cases found
  single := by
    intro first second left right leftFollowup rightFollowup found
    cases found

variable {builds : ι → Build} {network : Network ι}

/-- A connection that is not connected at its client is added. -/
theorem Sound.connectParentStreamServer
    (sound : network.Sound builds) (client server : ι) (compress : Bool) :
    Sound builds { network with
      connections := network.connections ++
        [.connectParentStreamServer builds client server compress] } := by
  have cases_ : ∀ (position : Nat) (connection : Connection ι),
      (network.connections ++
        [Connection.connectParentStreamServer builds client server
          compress])[position]? = some connection →
      network.connections[position]? = some connection ∨
        connection = Connection.connectParentStreamServer builds client server
          compress := by
    intro position connection found
    rw [List.getElem?_append] at found
    split at found
    · exact Or.inl found
    · right
      have member := List.mem_of_getElem? found
      exact List.mem_singleton.mp member
  refine ⟨sound.options, ?_, ?_, ?_⟩
  · intro position connection found
    rcases cases_ position connection found with present | rfl
    · exact sound.connections position connection present
    · exact Connection.sound_connectParentStreamServer builds client server
        compress
  · intro position connection found followup connected
    rcases cases_ position connection found with present | rfl
    · exact sound.placed position connection present followup connected
    · cases connected
  · intro first second left right leftFollowup rightFollowup foundLeft
      foundRight connectedLeft connectedRight
    rcases cases_ first left foundLeft with presentLeft | rfl
    · rcases cases_ second right foundRight with presentRight | rfl
      · exact sound.single first second left right leftFollowup rightFollowup
          presentLeft presentRight connectedLeft connectedRight
      · cases connectedRight
    · cases connectedLeft

variable {position : Nat} {changed : Connection ι}

/-- The connections after one of them has taken a step. -/
theorem getElem?_set_cases
    {connections : List (Connection ι)} {other : Nat}
    {connection : Connection ι}
    (found : (connections.set position changed)[other]? = some connection) :
    other = position ∧ connection = changed ∨
      other ≠ position ∧ connections[other]? = some connection := by
  rw [List.getElem?_set] at found
  split at found
  next same =>
    split at found
    · cases found
      exact Or.inl ⟨same.symm, rfl⟩
    · cases found
  next different => exact Or.inr ⟨fun same => different same.symm, found⟩

/-- A connection takes a step at its server, which does not change. -/
theorem Sound.serverReads
    (sound : network.Sound builds) (changedSound : changed.Sound builds)
    (reading : changed.clientPhase = .reading .initial) :
    Sound builds { network with
      connections := network.connections.set position changed } := by
  refine ⟨sound.options, ?_, ?_, ?_⟩
  · intro other connection found
    rcases getElem?_set_cases found with ⟨_, rfl⟩ | ⟨_, present⟩
    · exact changedSound
    · exact sound.connections other connection present
  · intro other connection found followup connected
    rcases getElem?_set_cases found with ⟨_, rfl⟩ | ⟨_, present⟩
    · rw [reading] at connected
      cases connected
    · exact sound.placed other connection present followup connected
  · intro first second left right leftFollowup rightFollowup foundLeft
      foundRight connectedLeft connectedRight
    rcases getElem?_set_cases foundLeft with ⟨_, rfl⟩ | ⟨_, presentLeft⟩
    · rw [reading] at connectedLeft
      cases connectedLeft
    · rcases getElem?_set_cases foundRight with ⟨_, rfl⟩ | ⟨_, presentRight⟩
      · rw [reading] at connectedRight
        cases connectedRight
      · exact sound.single first second left right leftFollowup rightFollowup
          presentLeft presentRight connectedLeft connectedRight

variable [DecidableEq ι]

/-- A server is changed, while it keeps its parent. -/
theorem Sound.changeServer
    (sound : network.Sound builds)
    {server : ι} {changed : Server}
    (wellFormed : changed.serverOptions.WellFormed)
    (parent : changed.hasParent = (network.servers server).hasParent)
    (path : changed.serverOptions.parentServerPath =
      (network.servers server).serverOptions.parentServerPath) :
    Sound builds { network with
      servers := Function.update network.servers server changed } where
  options := by
    intro other
    dsimp only
    by_cases same : other = server
    · subst same
      rw [Function.update_self]
      exact wellFormed
    · rw [Function.update_of_ne same]
      exact sound.options other
  connections := sound.connections
  placed := by
    intro position connection found followup connected
    have placed := sound.placed position connection found followup connected
    by_cases same : connection.client = server
    · rw [same] at placed
      dsimp only
      rw [same, Function.update_self, parent, path]
      exact placed
    · dsimp only
      rw [Function.update_of_ne same]
      exact placed
  single := sound.single

/-- A connection takes a step at its client, whose server is placed. -/
theorem Sound.clientReads
    (sound : network.Sound builds)
    {client : ι} {after : Server}
    (changedSound : changed.Sound builds)
    (kept : changed.client = client)
    (places : Connection.Places (network.servers client) after
      changed.clientPhase) :
    Sound builds
      { servers := Function.update network.servers client after
        connections := network.connections.set position changed } := by
  have wellFormed : after.serverOptions.WellFormed := by
    rcases places with ⟨same, _⟩ | ⟨response, _, noError, options, _⟩
    · rw [same]
      exact sound.options client
    · rw [options]
      exact ServerOptions.wellFormed_setParentOptionMap noError _
  have others : ∀ (other : Nat) (connection : Connection ι),
      network.connections[other]? = some connection →
        connection.client = client → Placed after connection := by
    intro other connection present same followup connected
    have placed := sound.placed other connection present followup connected
    rw [same] at placed
    rcases places with ⟨options, parent, _⟩ | ⟨_, free, _⟩
    · rw [options, parent]
      exact placed
    · exact absurd placed.1 (by rw [free]; exact Bool.false_ne_true)
  refine ⟨?_, ?_, ?_, ?_⟩
  · intro server
    dsimp only
    by_cases same : server = client
    · subst same
      rw [Function.update_self]
      exact wellFormed
    · rw [Function.update_of_ne same]
      exact sound.options server
  · intro other connection found
    rcases getElem?_set_cases found with ⟨_, rfl⟩ | ⟨_, present⟩
    · exact changedSound
    · exact sound.connections other connection present
  · intro other connection found
    dsimp only
    rcases getElem?_set_cases found with ⟨_, rfl⟩ | ⟨_, present⟩
    · rw [kept, Function.update_self]
      intro followup connected
      rcases places with ⟨_, _, waits⟩ | ⟨response, _, _, options, connects⟩
      · exact absurd connected (waits followup)
      · obtain ⟨parent, same⟩ := connects followup connected
        refine ⟨parent, ?_⟩
        rw [options, same, ServerOptions.parentServerPath_setParentOptionMap]
    · by_cases same : connection.client = client
      · rw [same, Function.update_self]
        exact others other connection present same
      · rw [Function.update_of_ne same]
        exact sound.placed other connection present
  · -- A client that connects has had no parent before, so it had no connection.
    have alone : ∀ (other : Nat) (connection : Connection ι)
        (own followup : Followup),
        network.connections[other]? = some connection →
          changed.clientPhase = .connected own →
          connection.clientPhase = .connected followup →
          connection.client ≠ client := by
      intro other connection own followup present connects connected same
      rcases places with ⟨_, _, waits⟩ | ⟨_, free, _⟩
      · exact waits own connects
      · have placed := sound.placed other connection present followup connected
        rw [same, free] at placed
        exact Bool.false_ne_true placed.1
    intro first second left right leftFollowup rightFollowup foundLeft
      foundRight connectedLeft connectedRight same
    rcases getElem?_set_cases foundLeft with ⟨rfl, rfl⟩ | ⟨_, presentLeft⟩
    · rcases getElem?_set_cases foundRight with ⟨rfl, _⟩ | ⟨_, presentRight⟩
      · rfl
      · exact absurd (same.symm.trans kept) (alone second right leftFollowup
          rightFollowup presentRight connectedLeft connectedRight)
    · rcases getElem?_set_cases foundRight with ⟨rfl, rfl⟩ | ⟨_, presentRight⟩
      · exact absurd (same.trans kept) (alone first left rightFollowup
          leftFollowup presentLeft connectedRight connectedLeft)
      · exact sound.single first second left right leftFollowup rightFollowup
          presentLeft presentRight connectedLeft connectedRight same

variable {after : Network ι}

theorem atPosition_eq_some
    {endOf : Connection ι → ι}
    {reads : Connection ι → Server → Option (Connection ι × Server)}
    (stepped : network.atPosition position endOf reads = some after) :
    ∃ connection changed server,
      network.connections[position]? = some connection ∧
        reads connection (network.servers (endOf connection)) =
          some (changed, server) ∧
        after =
          { servers := Function.update network.servers (endOf connection) server
            connections := network.connections.set position changed } := by
  rw [atPosition] at stepped
  obtain ⟨connection, found, stepped⟩ := Option.bind_eq_some_iff.mp stepped
  obtain ⟨⟨changed, server⟩, read, same⟩ := Option.map_eq_some_iff.mp stepped
  exact ⟨connection, changed, server, found, read, same.symm⟩

/-- One step. -/
theorem Sound.next
    {before : Network ι} {input : NetworkInput ι}
    (sound : before.Sound builds) (fits : before.Fits builds)
    (stepped : before.next builds input = some after) :
    after.Sound builds := by
  cases input with
  | setServerName server serverName =>
      cases stepped
      exact sound.changeServer
        (ServerOptions.wellFormed_setServerName (sound.options server)
          serverName) rfl rfl
  | setPreferCompression server preferCompression =>
      cases stepped
      exact sound.changeServer
        (ServerOptions.wellFormed_preferCompression (sound.options server)
          preferCompression) rfl rfl
  | setDone server done =>
      cases stepped
      exact sound.changeServer (sound.options server) rfl rfl
  | connectParentStreamServer client server compress =>
      cases stepped
      exact sound.connectParentStreamServer client server compress
  | serverReads position =>
      rw [Network.next] at stepped
      obtain ⟨connection, changed, server, found, read, rfl⟩ :=
        atPosition_eq_some stepped
      obtain ⟨incoming, phase⟩ := Connection.reading_of_serverReads read
      obtain ⟨other, reads, changedSound, _, waits⟩ :=
        (sound.connections position connection found).serverReads
          (fits connection (List.mem_of_getElem? found)) phase
          (sound.options connection.server)
      rw [reads] at read
      cases read
      rw [Function.update_eq_self]
      exact sound.serverReads changedSound waits
  | clientReads position =>
      rw [Network.next] at stepped
      obtain ⟨connection, changed, server, found, read, rfl⟩ :=
        atPosition_eq_some stepped
      have connectionSound := sound.connections position connection found
      obtain ⟨incoming, phase⟩ := Connection.reading_of_clientReads read
      obtain ⟨answer, answered⟩ :=
        Connection.answered_of_clientReads connectionSound read
      obtain ⟨_, _, reads, changedSound, kept, places⟩ :=
        connectionSound.clientReads
          (fits connection (List.mem_of_getElem? found)) answered phase
          (before.servers connection.client)
      rw [reads] at read
      cases read
      exact sound.clientReads changedSound kept places

/-- What a step writes fits into a packet. -/
def fitsAfter
    (builds : ι → Build)
    (before : Network ι)
    (input : NetworkInput ι) : Bool :=
  (before.next builds input).all fun after => decide (after.Fits builds)

theorem sound_of_reachable
    (reachable : (system builds).ReachableUnder
      (fun before input => fitsAfter builds before input = true) network) :
    network.Sound builds ∧ network.Fits builds := by
  refine reachable.invariant (fun network =>
    network.Sound builds ∧ network.Fits builds) ⟨sound_initial builds, ?_⟩ ?_
  · intro connection member
    cases member
  · rintro before input after ⟨sound, fits⟩ admitted stepped
    rw [fitsAfter, show before.next builds input = some after from stepped]
      at admitted
    exact ⟨sound.next fits stepped, of_decide_eq_true admitted⟩

/-- An end that has not come to an end can read, the server first. -/
def GoesOn (builds : ι → Build) (network : Network ι) : Prop :=
  ∀ (position : Nat) (connection : Connection ι),
    network.connections[position]? = some connection →
      (∀ incoming, connection.serverPhase = .reading incoming →
        (network.next builds (.serverReads position)).isSome) ∧
      ∀ answer incoming, connection.serverPhase = .answered answer →
        connection.clientPhase = .reading incoming →
          (network.next builds (.clientReads position)).isSome

theorem Sound.goesOn
    (sound : network.Sound builds) (fits : network.Fits builds) :
    network.GoesOn builds := by
  intro position connection found
  have connectionSound := sound.connections position connection found
  have connectionFits := fits connection (List.mem_of_getElem? found)
  constructor
  · intro incoming phase
    obtain ⟨_, read, _⟩ := connectionSound.serverReads connectionFits phase
      (sound.options connection.server)
    rw [Network.next, atPosition, found, Option.bind_some, read]
    rfl
  · intro answer incoming answered phase
    obtain ⟨_, _, read, _⟩ := connectionSound.clientReads connectionFits
      answered phase (network.servers connection.client)
    rw [Network.next, atPosition, found, Option.bind_some, read]
    rfl

/-- In every run of servers that connect: a client is connected only to a server that
has set the same protocol stack and version for it, and fails only with the error that
the server has answered with, or where it has no connect to give.  The version is the
first one of the server that the client has, and they compress only if both can.  A
server has one parent at most, and extends its path.  No end waits in vain. -/
theorem negotiation_of_reachable
    {builds : ι → Build}
    {network : Network ι}
    (reachable : (system builds).ReachableUnder
      (fun before input => fitsAfter builds before input = true) network) :
    network.Sound builds ∧ network.GoesOn builds := by
  obtain ⟨sound, fits⟩ := sound_of_reachable reachable
  exact ⟨sound, sound.goesOn fits⟩

end Network

/-! ## Two servers -/

def ClientPhase.protocolStack? : ClientPhase → Option ProtocolStack
  | connected followup => some followup.protocolStack
  | reading _ | failed _ => none

/-- The server below connects to the one above, which is named meanwhile. -/
def twoServers : List (NetworkInput Bool) :=
  [.connectParentStreamServer false true true, .serverReads 0,
    .setServerName true (text "above"), .serverReads 0, .clientReads 0,
    .setServerName false (text "below"), .clientReads 0]

/-- The run that is checked step by step. -/
def checkedRun : Option (Network Bool) :=
  ((Network.system fun _ => Build.release false true).restrict
    (Network.fitsAfter fun _ => Build.release false true)).run .initial twoServers

theorem negotiation_of_reachable_twoServers :
    ∃ network,
      checkedRun = some network ∧
        network.connections.map (·.clientPhase.protocolStack?) =
          [some (stackOf true)] ∧
        (network.servers false).serverOptions.serverPath =
          text "/above/below" ∧
        network.Sound (fun _ => Build.release false true) ∧
        network.GoesOn (fun _ => Build.release false true) := by
  have ends : checkedRun.any (fun network =>
      network.connections.map (·.clientPhase.protocolStack?) =
          [some (stackOf true)] ∧
        (network.servers false).serverOptions.serverPath =
          text "/above/below") = true := by
    decide +kernel
  obtain ⟨network, ran, holds⟩ := (Option.any_eq_true _ _).mp ends
  obtain ⟨stack, path⟩ := of_decide_eq_true holds
  exact ⟨network, ran, stack, path, Network.negotiation_of_reachable
    (Foundation.TransitionSystem.reachableUnder_of_restrict
      (Foundation.TransitionSystem.reachable_of_run twoServers ran))⟩

end Connecting
end OpenRTI
