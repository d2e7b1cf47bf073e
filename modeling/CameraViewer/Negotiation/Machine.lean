import CameraViewer.Link.Basic

/-!
# Negotiation/Machine — offers, answers and candidates of one session

A session starts without descriptors. Either side may offer; the other answers. Candidates of the
other side wait until both descriptors are there, and are then handed to the peer in the order they
came. At most one offer of this side is unanswered. A failure while connected leads to one offer
over new network paths; if that cannot be made, or fails again, the session counts as disconnected.

Every operation returns its outcome and the machine after it, and goes through the world for what it
asks of the peer. What it sends goes to a sink, which may fail without further consequence.
-/

namespace CameraViewer.Negotiation

open Peer Signal World

/-- Where messages of this side go. -/
abbrev SignalSink (ω : Type) : Type := Envelope → StateM ω (Except Link.LinkError Unit)

/-- What became of a remote descriptor. -/
inductive DescriptorOutcome
  /-- It is the one already applied. -/
  | duplicate
  /-- It was an offer, and it was answered. -/
  | answered
  /-- It was an answer, and it was applied. -/
  | answerApplied
deriving DecidableEq, Repr

/-- The name of an outcome. -/
def DescriptorOutcome.name : DescriptorOutcome → String
  | .duplicate => "Duplicate"
  | .answered => "Answered"
  | .answerApplied => "AnswerApplied"

/-- What became of a remote candidate. -/
inductive CandidateOutcome
  /-- The peer took it. -/
  | applied
  /-- It waits for the descriptors. -/
  | buffered
deriving DecidableEq, Repr

/-- The name of an outcome. -/
def CandidateOutcome.name : CandidateOutcome → String
  | .applied => "Applied"
  | .buffered => "Buffered"

/-- A change of state. -/
structure Transition where
  /-- The state before. -/
  source : Connectivity
  /-- The state after. -/
  target : Connectivity
deriving DecidableEq, Repr

/-- The negotiation of one session. -/
structure Machine where
  /-- Number of the session, and of its peer. -/
  session : Nat
  /-- What this side starts with. -/
  role : DescriptorRole
  /-- How far the session has come. -/
  state : Connectivity := .new
  /-- The descriptor of this side. -/
  localDescriptor : Option SessionDescriptor := none
  /-- The descriptor of the other side. -/
  remoteDescriptor : Option SessionDescriptor := none
  /-- An offer of this side is unanswered. -/
  awaitingAnswer : Bool := false
  /-- The latest offer was to repair the connection, and has not done so yet. -/
  restartInFlight : Bool := false
  /-- Candidates of the other side that wait, the oldest first. -/
  pending : List Candidate := []
  /-- The session was connected before. -/
  connectedOnce : Bool := false
deriving DecidableEq, Repr, Inhabited

namespace Machine

variable {ω : Type} [World ω]

/-! ## Candidates -/

/-- Both sides have described themselves. -/
def hasPair (m : Machine) : Bool := m.localDescriptor.isSome && m.remoteDescriptor.isSome

/-- This side has to make the first offer and has not made it. -/
def shouldInitiate (m : Machine) : Bool :=
  m.role = .offer ∧ m.state = .new ∧ m.localDescriptor = none

/-- Hands candidates to the peer, whatever it says to each. -/
def offerCandidates (session : Nat) : List Candidate → StateM ω Unit
  | [] => pure ()
  | c :: rest => do
    let _ ← addCandidate session c
    offerCandidates session rest

/-- Hands over what waits, once both descriptors are there. -/
def flush (m : Machine) : StateM ω Machine := do
  if m.hasPair then
    offerCandidates m.session m.pending
    return { m with pending := [] }
  else
    return m

/-! ## Descriptors of the other side -/

/-- Asks the peer to take an offer and to answer it. -/
def negotiateAnswer (session : Nat) (offer : SessionDescriptor) :
    StateM ω (Except PeerError SessionDescriptor) := do
  match ← setRemote session offer with
  | .error e => return .error e
  | .ok () =>
    match ← createAnswer session with
    | .error e => return .error e
    | .ok answer =>
      match ← setLocal session answer with
      | .error e => return .error e
      | .ok () => return .ok answer

/-- Answers an offer of the other side. -/
def answerOffer (sink : SignalSink ω) (offer : SessionDescriptor) (m : Machine) :
    StateM ω (Except PeerError DescriptorOutcome × Machine) := do
  if m.awaitingAnswer then return (.error (.forbidden .acceptOffer m.state), m)
  note (.elapsed .answerRemoteOffer)
  match ← negotiateAnswer m.session offer with
  | .error e => return (.error e, m)
  | .ok answer =>
    let _ ← sink (.sessionDescription answer)
    let m ← flush
      { m with
        localDescriptor := some answer
        remoteDescriptor := some offer
        state := if m.state = .new then .connecting else m.state }
    return (.ok .answered, m)

/-- Applies an answer of the other side. -/
def applyAnswer (answer : SessionDescriptor) (m : Machine) :
    StateM ω (Except PeerError DescriptorOutcome × Machine) := do
  if !m.awaitingAnswer then return (.error (.forbidden .applyAnswer m.state), m)
  match ← setRemote m.session answer with
  | .error e => return (.error e, m)
  | .ok () =>
    let m ← flush { m with remoteDescriptor := some answer, awaitingAnswer := false }
    return (.ok .answerApplied, m)

/-- Takes a descriptor of the other side. One that repeats the latest changes nothing. -/
def onRemoteDescriptor (sink : SignalSink ω) (d : SessionDescriptor) (m : Machine) :
    StateM ω (Except PeerError DescriptorOutcome × Machine) := do
  if m.state = .closed then return (.error .closed, m)
  if m.remoteDescriptor = some d then return (.ok .duplicate, m)
  match d.role with
  | .offer => answerOffer sink d m
  | .answer => applyAnswer d m

/-- Takes a candidate of the other side. -/
def onRemoteCandidate (c : Candidate) (m : Machine) :
    StateM ω (Except PeerError CandidateOutcome × Machine) := do
  if m.state = .closed then return (.error .closed, m)
  if m.hasPair then
    match ← addCandidate m.session c with
    | .error e => return (.error e, m)
    | .ok () => return (.ok .applied, m)
  else
    return (.ok .buffered, { m with pending := m.pending ++ [c] })

/-! ## Offers of this side -/

/-- Asks the peer for an offer and to adopt it. -/
def negotiateOffer (session : Nat) (iceRestart : Bool) :
    StateM ω (Except PeerError SessionDescriptor) := do
  match ← createOffer session iceRestart with
  | .error e => return .error e
  | .ok offer =>
    match ← setLocal session offer with
    | .error e => return .error e
    | .ok () => return .ok offer

/-- The state of a session that has just sent an offer. -/
def stateAfterOffer : Connectivity → Connectivity
  | .new => .connecting
  | .failed => .connecting
  | .disconnected => .connecting
  | s => s

/-- Makes an offer and sends it. -/
def offer (sink : SignalSink ω) (iceRestart : Bool) (m : Machine) :
    StateM ω (Except PeerError Unit × Machine) := do
  if m.state = .closed then return (.error .closed, m)
  if m.awaitingAnswer then return (.error (.forbidden .createOffer m.state), m)
  note (.elapsed .localOffer)
  match ← negotiateOffer m.session iceRestart with
  | .error e => return (.error e, m)
  | .ok d =>
    let _ ← sink (.sessionDescription d)
    return (.ok (),
      { m with
        localDescriptor := some d, awaitingAnswer := true, state := stateAfterOffer m.state })

/-- Makes the first offer, or another after local media was attached. -/
def initiate (sink : SignalSink ω) (m : Machine) : StateM ω (Except PeerError Unit × Machine) :=
  offer sink false m

/-! ## Reports

A connection that fails is repaired by an offer over new network paths; if it fails again before it
stands, the session is given up as disconnected. -/

/-- Tries to repair a connection that failed. -/
def restart (sink : SignalSink ω) (m : Machine) : StateM ω Machine := do
  match ← offer sink true { m with awaitingAnswer := false } with
  | (.ok (), m) => return { m with restartInFlight := true, state := .connecting }
  | (.error _, m) => return { m with state := .disconnected }

/-- What a report of failure leads to. -/
def onFailure (sink : SignalSink ω) (m : Machine) : StateM ω Machine := do
  if m.restartInFlight then return { m with restartInFlight := false, state := .disconnected }
  if m.state = .connected then restart sink m
  else return { m with state := .failed }

/-- What any other report leads to. -/
def onProgress (reported : Connectivity) (m : Machine) : StateM ω Machine := do
  if m.state.canMoveTo reported then
    if reported = .connected then
      if !m.connectedOnce then note (.elapsed .timeToConnected)
      return { m with state := .connected, restartInFlight := false, connectedOnce := true }
    else
      return { m with state := reported }
  else
    return m

/-- The change from a state, if there is one. -/
def transitionFrom (before : Connectivity) (m : Machine) : Option Transition :=
  if m.state = before then none else some ⟨before, m.state⟩

/-- Takes a report of the peer on the connection. -/
def onConnectivity (sink : SignalSink ω) (reported : Connectivity) (m : Machine) :
    StateM ω (Option Transition × Machine) := do
  if m.state = .closed then return (none, m)
  let next ← if reported = .failed then onFailure sink m else onProgress reported m
  return (next.transitionFrom m.state, next)

/-! ## The end -/

/-- The machine of a session that is over. -/
def ended (m : Machine) : Machine :=
  { m with state := .closed, pending := [], awaitingAnswer := false, restartInFlight := false }

/-- Ends the session and closes its peer; candidates that wait are dropped. -/
def stop (m : Machine) : StateM ω (Option Transition × Machine) := do
  if m.state = .closed then return (none, m)
  let _ ← closePeer m.session
  return (some ⟨m.state, .closed⟩, m.ended)

end Machine

end CameraViewer.Negotiation
