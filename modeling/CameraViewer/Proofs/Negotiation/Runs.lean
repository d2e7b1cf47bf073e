import CameraViewer.Proofs.Negotiation.Steps

/-!
# Proofs/Negotiation/Runs — the runs of a negotiation

A run calls the operations of a machine in any order; its peer and its sink answer as they like.
Every call of a run is one of the steps of `Proofs/Negotiation/Steps` (`Run.performs`).
-/

namespace CameraViewer.Negotiation

open Peer Signal World

namespace Machine

/-! ## Calls

A machine is called with descriptors, candidates and reports, or told to offer or to stop.
`Performs` joins the relations for the single operations into one. -/

/-- What a machine is called with. -/
inductive Call
  /-- A descriptor of the other side came. -/
  | descriptor (d : SessionDescriptor)
  /-- A candidate of the other side came. -/
  | candidate (c : Candidate)
  /-- An offer shall be made. -/
  | initiate
  /-- The peer reports on the connection. -/
  | connectivity (reported : Connectivity)
  /-- The session is over. -/
  | stop

/-- What a call returns. -/
inductive Outcome
  | descriptor (result : Except PeerError DescriptorOutcome)
  | candidate (result : Except PeerError CandidateOutcome)
  | offer (result : Except PeerError Unit)
  | change (transition : Option Transition)

/-- The operation behind a call. -/
def Call.run {ω : Type} [World ω] (sink : SignalSink ω) (m : Machine) :
    Call → StateM ω (Outcome × Machine)
  | .descriptor d => do
    let (result, m) ← m.onRemoteDescriptor sink d
    return (.descriptor result, m)
  | .candidate c => do
    let (result, m) ← m.onRemoteCandidate c
    return (.candidate result, m)
  | .initiate => do
    let (result, m) ← m.initiate sink
    return (.offer result, m)
  | .connectivity reported => do
    let (change, m) ← m.onConnectivity sink reported
    return (.change change, m)
  | .stop => do
    let (change, m) ← m.stop
    return (.change change, m)

/-- What a call does. -/
inductive Performs (H : Envelope → List Entry → Prop) (m : Machine) :
    Call → List Entry → Outcome → Machine → Prop
  | descriptor {d : SessionDescriptor} {es : List Entry} {r : Except PeerError DescriptorOutcome}
    {m' : Machine} (h : TakesDescriptor H m d es r m') :
    Performs H m (.descriptor d) es (.descriptor r) m'
  | candidate {c : Candidate} {es : List Entry} {r : Except PeerError CandidateOutcome}
    {m' : Machine}
    (h : TakesCandidate m c es r m') : Performs H m (.candidate c) es (.candidate r) m'
  | offer {es : List Entry} {r : Except PeerError Unit} {m' : Machine}
    (h : Offers H false m es r m') :
    Performs H m .initiate es (.offer r) m'
  | report {reported : Connectivity} {es : List Entry} {t : Option Transition} {m' : Machine}
    (h : Reports H m reported es t m') : Performs H m (.connectivity reported) es (.change t) m'
  | stop {es : List Entry} {t : Option Transition} {m' : Machine} (h : Stops m es t m') :
    Performs H m .stop es (.change t) m'

/-- **Every call performs its operation**, in any world and over any sink that yields `H`. -/
theorem yields_run {ω : Type} [World ω] {H : Envelope → List Entry → Prop}
    {sink : SignalSink (Recorded ω)} (hsink : ∀ e, Yields (sink e) fun es _ => H e es) (c : Call)
    (m : Machine) : Yields (c.run sink m) fun es r => Performs H m c es r.1 r.2 := by
  cases c with
  | descriptor d =>
    refine (yields_onRemoteDescriptor hsink d m).bind_pure fun es r h => ?_
    exact .descriptor h
  | candidate c =>
    refine (yields_onRemoteCandidate c m).bind_pure fun es r h => ?_
    exact .candidate h
  | initiate =>
    refine (yields_offer hsink false m).bind_pure fun es r h => ?_
    exact .offer h
  | connectivity reported =>
    refine (yields_onConnectivity hsink reported m).bind_pure fun es r h => ?_
    exact .report h
  | stop =>
    refine (yields_stop m).bind_pure fun es r h => ?_
    exact .stop h

/-! ## Calls in any world

What a call may do is what it does in some world with some sink, whatever these answer.
`MayPerform.performs` brings that back to the relation. -/

/-- A message is handed to the sink, whatever comes of it. -/
def Handed (e : Envelope) (es : List Entry) : Prop := ∃ result, es = [.handed e result]

/-- In some world and with some sink, the call adds `es` to the record and returns `r`. -/
def MayPerform (m : Machine) (c : Call) (es : List Entry) (r : Outcome × Machine) : Prop :=
  ∃ (ω : Type) (_ : World ω) (w : ω) (sink : SignalSink ω),
    (c.run (recording sink) m ⟨w, []⟩).1 = r ∧ (c.run (recording sink) m ⟨w, []⟩).2.record = es

/-- **What may happen is what the relation lists.** -/
theorem MayPerform.performs {m m' : Machine} {c : Call} {es : List Entry} {r : Outcome}
    (h : MayPerform m c es (r, m')) : Performs Handed m c es r m' := by
  obtain ⟨ω, _, w, sink, hr, rfl⟩ := h
  have hsink : ∀ e, Yields (recording sink e) fun es _ => Handed e es := fun e =>
    yields_recording e fun result => ⟨result, rfl⟩
  obtain ⟨es, hes, hp⟩ := yields_run hsink c m ⟨w, []⟩
  rw [List.nil_append] at hes
  rw [hr] at hp
  rwa [hes]

/-! ## Runs -/

/-- One call of a run. -/
structure Step where
  /-- The machine that was called. -/
  before : Machine
  /-- What it was called with. -/
  call : Call
  /-- What it asked and handed over. -/
  made : List Entry
  /-- What it returned. -/
  outcome : Outcome
  /-- The machine after the call. -/
  after : Machine

/-- All that a run asked and handed over, in order. -/
def recordOf (steps : List Step) : List Entry := steps.flatMap Step.made

theorem recordOf_concat (steps : List Step) (step : Step) :
    recordOf (steps ++ [step]) = recordOf steps ++ step.made := by
  simp [recordOf]

/-- The runs of a new machine, the calls in any order. -/
inductive Run (session : ℕ) (role : DescriptorRole) : List Step → Machine → Prop
  | start : Run session role [] { session, role }
  | call {steps : List Step} {m m' : Machine} {c : Call} {es : List Entry} {r : Outcome}
    (before : Run session role steps m) (hmay : MayPerform m c es (r, m')) :
    Run session role (steps ++ [⟨m, c, es, r, m'⟩]) m'

/-- Every call of a run was made in a run. -/
theorem Run.split {session : ℕ} {role : DescriptorRole} {steps before later : List Step}
    {step : Step} {m : Machine} (hr : Run session role steps m)
    (hsteps : steps = before ++ step :: later) :
    Run session role before step.before
      ∧ Performs Handed step.before step.call step.made step.outcome step.after := by
  induction hr generalizing later with
  | start => simp at hsteps
  | call hbefore hmay ih =>
    rcases split_concat hsteps with ⟨rfl, rfl, -⟩ | ⟨rest, -, hrest⟩
    · exact ⟨hbefore, hmay.performs⟩
    · exact ih hrest

/-! ## Runs in particular worlds

Samples are runs in the willing world, or in one whose peer refuses as a script says and whose
messages are all lost. -/

/-- A call in the willing world. -/
def play (m : Machine) (c : Call) : Step :=
  let out := c.run (recording fun _ => pure (.ok ())) m (⟨⟨⟩, []⟩ : Recorded Willing)
  ⟨m, c, out.2.record, out.1.1, out.1.2⟩

@[simp] theorem play_call (m : Machine) (c : Call) : (m.play c).call = c := rfl

/-- A run goes on in the willing world. -/
theorem Run.play {session : ℕ} {role : DescriptorRole} {steps : List Step} {m : Machine}
    (hr : Run session role steps m) (c : Call) :
    Run session role (steps ++ [m.play c]) (m.play c).after :=
  hr.call ⟨Willing, inferInstance, ⟨⟩, fun _ => pure (.ok ()), rfl, rfl⟩

/-- Calls one after the other in the willing world. -/
def playAll (m : Machine) : List Call → List Step
  | [] => []
  | c :: rest => m.play c :: (m.play c).after.playAll rest

/-- It goes on there for any number of calls. -/
theorem Run.playAll {session : ℕ} {role : DescriptorRole} (calls : List Call) {steps : List Step}
    {m : Machine} (hr : Run session role steps m) :
    ∃ m', Run session role (steps ++ m.playAll calls) m' := by
  induction calls generalizing steps m with
  | nil => exact ⟨m, by rwa [Machine.playAll, List.append_nil]⟩
  | cons c rest ih =>
    obtain ⟨m', hm'⟩ := ih (hr.play c)
    exact ⟨m', by rwa [Machine.playAll, List.append_cons]⟩

/-- Calls in the willing world make a run. -/
theorem run_playAll (session : ℕ) (role : DescriptorRole) (calls : List Call) :
    ∃ m, Run session role (playAll { session, role } calls) m :=
  Run.start.playAll calls

/-- A call whose peer refuses as a script says, and whose messages are all lost. -/
def venture (m : Machine) (script : List Bool) (c : Call) : Step :=
  let out := c.run (recording fun _ => pure (.error .notConnected)) m
    (⟨⟨script⟩, []⟩ : Recorded Fickle)
  ⟨m, c, out.2.record, out.1.1, out.1.2⟩

/-- A peer may refuse as any script says. -/
theorem mayPerform_venture (m : Machine) (script : List Bool) (c : Call) :
    MayPerform m c (m.venture script c).made
    ((m.venture script c).outcome, (m.venture script c).after) :=
  ⟨Fickle, inferInstance, ⟨script⟩, fun _ => pure (.error .notConnected), rfl, rfl⟩

/-- A run goes on over a peer that refuses as a script says. -/
theorem Run.venture {session : ℕ} {role : DescriptorRole} {steps : List Step} {m : Machine}
    (hr : Run session role steps m) (script : List Bool) (c : Call) :
    Run session role (steps ++ [m.venture script c]) (m.venture script c).after :=
  hr.call (mayPerform_venture m script c)

end Machine

end CameraViewer.Negotiation
