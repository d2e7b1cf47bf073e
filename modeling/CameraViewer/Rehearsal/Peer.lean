import CameraViewer.Peer.Basic

/-!
# Rehearsal/Peer — a peer that follows a script

A scripted peer records what it is asked, makes numbered descriptors, and refuses what it is told to
refuse. Once closed it refuses everything and records nothing but further closings.
-/

namespace CameraViewer.Rehearsal

open Peer Signal

/-- A step of the world that a rehearsal can make fail. -/
inductive FaultPoint
  | createOffer
  | createAnswer
  | setLocal
  | setRemote
  | addCandidate
  | attachMedia
  | releaseOutbound
  | close
  | acquire
deriving DecidableEq, Repr, Inhabited

namespace FaultPoint

/-- The name of a step. -/
def name : FaultPoint → String
  | .createOffer => "create_offer"
  | .createAnswer => "create_answer"
  | .setLocal => "set_local"
  | .setRemote => "set_remote"
  | .addCandidate => "add_candidate"
  | .attachMedia => "attach_media"
  | .releaseOutbound => "release_outbound"
  | .close => "close"
  | .acquire => "acquire"

/-- All steps. -/
def all : List FaultPoint :=
  [.createOffer, .createAnswer, .setLocal, .setRemote, .addCandidate, .attachMedia,
    .releaseOutbound, .close, .acquire]

/-- The step of a name. -/
def ofName? (name : String) : Option FaultPoint := all.find? (·.name = name)

/-- The step that a request belongs to. -/
def ofRequest : PeerRequest → FaultPoint
  | .createOffer _ => .createOffer
  | .createAnswer => .createAnswer
  | .setLocal _ => .setLocal
  | .setRemote _ => .setRemote
  | .addCandidate _ => .addCandidate
  | .attachMedia _ => .attachMedia
  | .releaseOutbound => .releaseOutbound
  | .close => .close

/-- How a step fails that is made to fail. -/
def failure (p : FaultPoint) : PeerError := .rejected p.name "injected"

end FaultPoint

/-- How often each step still has to fail. -/
structure Faults where
  /-- Steps with a count; the first entry of a step holds. -/
  counts : List (FaultPoint × Nat) := []
deriving Repr, Inhabited

namespace Faults

/-- How often a step still has to fail. -/
def count (p : FaultPoint) (f : Faults) : Nat := (f.counts.lookup p).getD 0

/-- Sets how often a step has to fail from now on. -/
def set (p : FaultPoint) (times : Nat) (f : Faults) : Faults :=
  ⟨(p, times) :: f.counts.filter (·.1 ≠ p)⟩

/-- Whether a step has to fail now; if so it has to fail once less. -/
def take (p : FaultPoint) (f : Faults) : Bool × Faults :=
  if f.count p = 0 then (false, f) else (true, f.set p (f.count p - 1))

end Faults

/-- A request as records show it. -/
def requestText : PeerRequest → String
  | .createOffer restart => "CreateOffer(" ++ (if restart then "true" else "false") ++ ")"
  | .createAnswer => "CreateAnswer"
  | .setLocal d => "SetLocal(" ++ d.role.name ++ ")"
  | .setRemote d => "SetRemote(" ++ d.role.name ++ ")"
  | .addCandidate c => "AddCandidate(" ++ c.candidate ++ ")"
  | .attachMedia m => "AttachMedia(" ++ m.label ++ ")"
  | .releaseOutbound => "ReleaseOutbound"
  | .close => "Close"

/-- A peer that follows a script. -/
structure ScriptedPeer where
  /-- What it was made with. -/
  setup : PeerSetup
  /-- What it was asked since the record was last read. -/
  calls : List PeerRequest := []
  /-- The candidates it took. -/
  applied : List Candidate := []
  /-- Labels of the media attached to it. -/
  attached : List String := []
  /-- It refuses remote descriptors. -/
  rejectRemote : Bool := false
  /-- It refuses to make offers. -/
  rejectOffers : Bool := false
  /-- How many answers it still refuses to make. -/
  failAnswers : Nat := 0
  /-- It was closed. -/
  closed : Bool := false
  /-- The number of descriptors it made. -/
  descriptors : Nat := 0
deriving Inhabited

namespace ScriptedPeer

/-- The text of the descriptor of a number. -/
def descriptorText (serial : Nat) : String :=
  "v=0\r\no=mock " ++ toString serial ++ " 1 IN IP4 127.0.0.1\r\ns=-\r\n"

/-- The text of the offer of a number; it announces the greatest message. -/
def offerText (serial : Nat) : String := descriptorText serial ++ "a=max-message-size:65536\r\n"

/-- Records a request. -/
def record (r : PeerRequest) (p : ScriptedPeer) : ScriptedPeer := { p with calls := p.calls ++ [r] }

/-- Answers a request that was recorded. -/
def reply (p : ScriptedPeer) : (r : PeerRequest) → Except PeerError r.Answer × ScriptedPeer
  | .createOffer _ =>
    if p.rejectOffers then (.error (.rejected "create_offer" "mock refused offer"), p)
    else (.ok (.offer (offerText (p.descriptors + 1))), { p with descriptors := p.descriptors + 1 })
  | .createAnswer =>
    match p.failAnswers with
    | left + 1 =>
      (.error (.rejected "create_answer" "mock refused answer"), { p with failAnswers := left })
    | 0 =>
      (.ok (.answer (descriptorText (p.descriptors + 1))),
        { p with descriptors := p.descriptors + 1 })
  | .setLocal _ => (.ok (), p)
  | .setRemote _ => (.ok (), p)
  | .addCandidate c => (.ok (), { p with applied := p.applied ++ [c] })
  | .attachMedia m => (.ok (), { p with attached := p.attached ++ [m.label] })
  | .releaseOutbound => (.ok p.attached.length, { p with attached := [] })
  | .close => (.ok (), { p with closed := true })

/-- Whether a request is refused before it is recorded, and why. -/
def refusal? (p : ScriptedPeer) : PeerRequest → Option PeerError
  | .close => none
  | .setRemote _ =>
    if p.rejectRemote then some (.rejected "set_remote_description" "mock rejected descriptor")
    else if p.closed then some .closed
    else none
  | _ => if p.closed then some .closed else none

/-- Answers a request. -/
def respond (r : PeerRequest) (p : ScriptedPeer) : Except PeerError r.Answer × ScriptedPeer :=
  match p.refusal? r with
  | some e => (.error e, p)
  | none => (p.record r).reply r

end ScriptedPeer

end CameraViewer.Rehearsal
