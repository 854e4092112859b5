import Mathlib.Algebra.GroupWithZero.Nat
import Mathlib.Algebra.Order.Group.Nat
import Mathlib.Data.List.SplitLengths

/-!
# Reassembly of packets from a stream

A consumer asks for pieces of given sizes.  When the pieces are there it is given all of
them, and either asks for further pieces of the same packet or is done with the packet.
What it has consumed after some elements of a stream does not depend on how the elements
come in, since it is determined when a piece is full and when it is not.
-/

namespace Foundation

/-- What a consumer does with the pieces of a packet: the sizes of the pieces that it
asks for next, none when it is done with the packet. -/
structure Consumer (β σ ε : Type*) where
  consume : List (List β) → σ → Except ε (List Nat × σ)

/-- The sizes of the pieces of a packet, and what has come in of it. -/
structure Assembly (β σ : Type*) where
  sizes : List Nat
  elements : List β
  state : σ

/-- Why a consumer does not go on. -/
inductive Consumer.Stop (ε : Type*)
  | failure (failure : ε)
  | emptyPiece

namespace Assembly

variable {β σ ε : Type*}

/-- No piece is asked for. -/
def start (state : σ) : Assembly β σ := ⟨[], [], state⟩

/-- All pieces are there. -/
def Full (assembly : Assembly β σ) : Prop :=
  assembly.elements.length = assembly.sizes.sum

/-- Elements are missing. -/
def Waiting (assembly : Assembly β σ) : Prop :=
  assembly.elements.length < assembly.sizes.sum

def append (elements : List β) (assembly : Assembly β σ) : Assembly β σ :=
  { assembly with elements := assembly.elements ++ elements }

def pieces (assembly : Assembly β σ) : List (List β) :=
  assembly.sizes.splitLengths assembly.elements

/-- The packet when pieces are asked for, none if it is done with. -/
def proceed
    (requested : List Nat)
    (state : σ)
    (assembly : Assembly β σ) : Assembly β σ :=
  if requested = [] then start state
  else ⟨assembly.sizes ++ requested, assembly.elements, state⟩

/-- Give the pieces to the consumer. -/
def consume
    (consumer : Consumer β σ ε)
    (assembly : Assembly β σ) :
    Except (Consumer.Stop ε) (Assembly β σ) :=
  match consumer.consume assembly.pieces assembly.state with
  | .error failure => .error (.failure failure)
  | .ok (requested, state) =>
      if 0 ∈ requested then .error .emptyPiece
      else .ok (assembly.proceed requested state)

/-- The packet of which some pieces are there, and no others are asked for. -/
def ofPieces (pieces : List (List β)) (state : σ) : Assembly β σ :=
  ⟨pieces.map List.length, pieces.flatten, state⟩

theorem splitLengths_flatten (pieces : List (List β)) :
    (pieces.map List.length).splitLengths pieces.flatten = pieces := by
  induction pieces with
  | nil => rfl
  | cons piece pieces ih =>
      rw [List.map_cons, List.splitLengths_cons, List.flatten_cons,
        List.take_left, List.drop_left, ih]

@[simp] theorem pieces_ofPieces (pieces : List (List β)) (state : σ) :
    (ofPieces pieces state).pieces = pieces :=
  splitLengths_flatten pieces

@[simp] theorem state_ofPieces (pieces : List (List β)) (state : σ) :
    (ofPieces pieces state).state = state := rfl

theorem full_ofPieces (pieces : List (List β)) (state : σ) :
    (ofPieces pieces state).Full :=
  List.length_flatten

/-- What a consumer comes to with the elements of a stream. -/
inductive Reads (consumer : Consumer β σ ε) :
    Assembly β σ → List β → Assembly β σ → Prop
  | done (assembly : Assembly β σ) : Reads consumer assembly [] assembly
  | receive
      {assembly final : Assembly β σ}
      {element : β}
      {elements : List β}
      (waiting : assembly.Waiting)
      (reads : Reads consumer (assembly.append [element]) elements final) :
      Reads consumer assembly (element :: elements) final
  | consume
      {assembly after final : Assembly β σ}
      {elements : List β}
      (full : assembly.Full)
      (consumed : assembly.consume consumer = .ok after)
      (reads : Reads consumer after elements final) :
      Reads consumer assembly elements final

variable {consumer : Consumer β σ ε} {assembly middle final : Assembly β σ}
variable {elements front back : List β}

theorem Full.not_waiting (full : assembly.Full) : ¬ assembly.Waiting :=
  fun waiting => Nat.ne_of_lt waiting full

namespace Reads

theorem trans
    (first : Reads consumer assembly front middle)
    (second : Reads consumer middle back final) :
    Reads consumer assembly (front ++ back) final := by
  induction first with
  | done => exact second
  | receive waiting _ ih =>
      exact .receive waiting (ih second)
  | consume full consumed _ ih =>
      exact .consume full consumed (ih second)

/-- Elements that are missing come in. -/
theorem append
    (room : assembly.elements.length + elements.length ≤ assembly.sizes.sum) :
    Reads consumer assembly elements (assembly.append elements) := by
  induction elements generalizing assembly with
  | nil =>
      rw [Assembly.append, List.append_nil]
      exact .done assembly
  | cons element elements ih =>
      rw [List.length_cons] at room
      refine .receive ?_ ?_
      · rw [Waiting]
        omega
      · have whole : assembly.append (element :: elements) =
            (assembly.append [element]).append elements := by
          simp [Assembly.append]
        rw [whole]
        apply ih
        change (assembly.elements ++ [element]).length + elements.length ≤
          assembly.sizes.sum
        rw [List.length_append, List.length_singleton]
        omega

/-- A consumer that asks for further pieces gets them. -/
theorem further
    {pieces more : List (List β)} {state after : σ}
    (consumed : consumer.consume pieces state =
      .ok (more.map List.length, after))
    (some : more ≠ [])
    (filled : [] ∉ more) :
    Reads consumer (ofPieces pieces state) more.flatten
      (ofPieces (pieces ++ more) after) := by
  have asked : 0 ∉ more.map List.length := by
    intro empty
    obtain ⟨piece, member, none⟩ := List.mem_map.mp empty
    rw [List.eq_nil_of_length_eq_zero none] at member
    exact filled member
  have proceeds : (ofPieces pieces state).consume consumer =
      .ok ⟨pieces.map List.length ++ more.map List.length, pieces.flatten,
        after⟩ := by
    rw [Assembly.consume, pieces_ofPieces, state_ofPieces, consumed]
    dsimp only
    rw [if_neg asked, proceed, if_neg (mt List.map_eq_nil_iff.mp some)]
    rfl
  apply Reads.consume (full_ofPieces pieces state) proceeds
  have whole : ofPieces (pieces ++ more) after =
      Assembly.append more.flatten ⟨pieces.map List.length ++ more.map List.length,
        pieces.flatten, after⟩ := by
    rw [ofPieces, Assembly.append, List.map_append, List.flatten_append]
  rw [whole]
  apply Reads.append
  rw [List.sum_append, ← List.length_flatten, ← List.length_flatten]

/-- A consumer that asks for nothing is done with the packet. -/
theorem finished
    {pieces : List (List β)} {state after : σ}
    (consumed : consumer.consume pieces state = .ok ([], after)) :
    Reads consumer (ofPieces pieces state) [] (start after) := by
  apply Reads.consume (full_ofPieces pieces state) _ (.done _)
  rw [Assembly.consume, pieces_ofPieces, state_ofPieces, consumed]
  rfl

/-- Packets one after the other. -/
theorem packets
    {μ : Type*} {bytes : μ → List β}
    {state : List μ → σ} {packets : List μ}
    (each : ∀ past, ∀ packet ∈ packets,
      Reads consumer (start (state past)) (bytes packet)
        (start (state (past ++ [packet]))))
    (past : List μ) :
    Reads consumer (start (state past)) (packets.flatMap bytes)
      (start (state (past ++ packets))) := by
  induction packets generalizing past with
  | nil =>
      rw [List.append_nil]
      exact .done _
  | cons packet packets ih =>
      have first := each past packet List.mem_cons_self
      have rest := ih
        (fun past packet member => each past packet (List.mem_cons_of_mem _ member))
        (past ++ [packet])
      rw [List.append_assoc, List.singleton_append] at rest
      exact first.trans rest

/-- What is read with further elements goes on from what is read before. -/
theorem resume
    (first : Reads consumer assembly front middle)
    (whole : Reads consumer assembly (front ++ back) final)
    (waiting : final.Waiting) :
    Reads consumer middle back final := by
  induction first with
  | done => exact whole
  | @receive assembly middle element elements missing _ ih =>
      cases whole with
      | receive _ reads => exact ih reads
      | consume full _ _ => exact absurd missing full.not_waiting
  | @consume assembly after middle elements full consumed _
      ih =>
      generalize same : elements ++ back = stream at whole
      cases whole with
      | done => exact absurd waiting full.not_waiting
      | receive missing _ => exact absurd missing full.not_waiting
      | consume _ other reads =>
          cases consumed.symm.trans other
          exact ih (same ▸ reads)

/-- A consumer that waits for elements has come to the one result. -/
theorem unique
    (first : Reads consumer assembly elements middle)
    (second : Reads consumer assembly elements final)
    (firstWaiting : middle.Waiting) (secondWaiting : final.Waiting) :
    middle = final := by
  have whole : Reads consumer assembly (elements ++ []) final := by
    rw [List.append_nil]
    exact second
  cases first.resume whole secondWaiting with
  | done => rfl
  | consume full _ _ => exact absurd firstWaiting full.not_waiting

/-- Where a stream leads to a waiting consumer, no beginning of it stops the
consumer. -/
theorem consume_ne_error
    (first : Reads consumer assembly front middle)
    (whole : Reads consumer assembly (front ++ back) final)
    (waiting : final.Waiting) (full : middle.Full)
    (stop : Consumer.Stop ε) :
    middle.consume consumer ≠ .error stop := by
  intro stopped
  cases first.resume whole waiting with
  | done => exact full.not_waiting waiting
  | receive missing _ => exact full.not_waiting missing
  | consume _ consumed _ =>
      rw [stopped] at consumed
      cases consumed

/-- What consuming preserves holds of what a stream leads to. -/
theorem invariant
    (property : Assembly β σ → Prop)
    (appends : ∀ assembly element, property assembly →
      property (assembly.append [element]))
    (consumes : ∀ assembly after, property assembly →
      assembly.consume consumer = .ok after → property after)
    (reads : Reads consumer assembly elements final)
    (initially : property assembly) :
    property final := by
  induction reads with
  | done => exact initially
  | receive _ _ ih =>
      exact ih (appends _ _ initially)
  | consume _ consumed _ ih =>
      exact ih (consumes _ _ initially consumed)

end Reads

end Assembly
end Foundation
