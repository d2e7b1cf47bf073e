import CameraViewer.Proofs.Session.Operations

/-!
# Proofs/Session/Runs — the runs of a supervisor

A run calls the operations of a supervisor in any order, each over a link in any state, the world
answering as it likes. `Run.trail` says that a run is a sequence of moves.
-/

namespace CameraViewer.Session

open Config Link Peer Signal World

namespace Supervisor

/-! ## Calls -/

/-- What a supervisor is called with. -/
inductive Call
  /-- The link has opened. -/
  | linkOpen
  /-- A text of the relay came. -/
  | frame (text : String)
  /-- A peer reports. -/
  | peer (event : SessionEvent)
  /-- The viewer commands. -/
  | command (cmd : SessionCommand)

/-- The operation behind a call. -/
def Call.run {ω : Type} [World ω] (link : RelayLink) (s : Supervisor) : Call → StateM ω Supervisor
  | .linkOpen => s.onLinkOpen link
  | .frame text => do
    let (_, s) ← s.dispatch link text
    return s
  | .peer event => s.onPeerEvent link event
  | .command cmd => s.onCommand link cmd

/-- Texts of the relay and of the device. -/
def Call.IsText : Call → Prop
  | .frame _ | .peer ⟨_, .channelText _⟩ => True
  | _ => False

/-- What a call entitles to: a report is one of the peer of its session, a file comes with a command
to send it, an opening of the link is the occasion for a new session, and new controls come in a
text. -/
def Call.grant (call : Call) : Grant where
  report session e := call = .peer ⟨session, e⟩
  clip := ∃ name mime data, call = .command (.sendClip name mime data)
  session := call = .linkOpen
  catalog := call.IsText

/-- **Every call is a sequence of moves.** -/
theorem yields_run {ω : Type} [World ω] (link : RelayLink) {s : Supervisor} (hr : s.Ready)
    (c : Call) :
    Yields (ω := ω) (c.run link s) fun es s' => Moves c.grant link s es s' := by
  cases c with
  | linkOpen => exact (yields_onLinkOpen link s).mono fun _ _ h => h.moves rfl
  | frame text =>
    refine (yields_dispatch (P := (Call.frame text).grant) trivial link text s).bind_pure
      fun es r h => ?_
    exact h
  | peer event =>
    refine yields_onPeerEvent link hr rfl fun text htext => ?_
    obtain ⟨session, e⟩ := event
    obtain rfl := htext
    exact trivial
  | command cmd =>
    refine yields_onCommand link hr ?_
    rintro name mime data rfl
    exact ⟨name, mime, data, rfl⟩

/-! ## Runs -/

/-- One call of a run. -/
structure Step where
  /-- The supervisor that was called. -/
  before : Supervisor
  /-- The link it had. -/
  link : RelayLink
  /-- What it was called with. -/
  call : Call
  /-- What it asked of the world. -/
  made : List Entry
  /-- The supervisor after the call. -/
  after : Supervisor

/-- All that a run asked of the world, in order. -/
def recordOf (steps : List Step) : List Entry := steps.flatMap Step.made

@[simp] theorem recordOf_nil : recordOf [] = [] := rfl

@[simp] theorem recordOf_append (steps steps' : List Step) :
    recordOf (steps ++ steps') = recordOf steps ++ recordOf steps' :=
  List.flatMap_append

@[simp] theorem recordOf_singleton (step : Step) : recordOf [step] = step.made :=
  List.flatMap_singleton ..

/-- The runs of a new supervisor. -/
inductive Run (config : ClientConfig) : List Step → Supervisor → Prop
  | start : Run config [] (new config)
  | call {steps : List Step} {s s' : Supervisor} {link : RelayLink} {c : Call} {es : List Entry}
    (before : Run config steps s) (hmay : May (fun _ _ => c.run link s) es s') :
    Run config (steps ++ [⟨s, link, c, es, s'⟩]) s'

/-! ## Trails

A run is cut into its moves, and what others do in between is kept in the record; the invariants of
a session are proved along trails. -/

/-- What others do meanwhile: they tell of the link and how things stand, and start and give up
attempts to connect. -/
inductive IsAside : Entry → Prop
  | link (state : LinkState) : IsAside (shown (.link state))
  | status (snapshot : StatusSnapshot) : IsAside (shown (.status snapshot))
  | dial (generation : ℕ) (url : String) : IsAside (.asked (.dial generation url) ())
  | hangUp (generation : ℕ) : IsAside (.asked (.hangUp generation) ())

/-- What a supervisor made of a record, in the middle of a call; others may act between its moves.
-/
inductive Trail (config : ClientConfig) : List Entry → Supervisor → Prop
  | start : Trail config [] (new config)
  | aside {s : Supervisor} {record es : List Entry} (before : Trail config record s)
    (hes : ∀ e ∈ es, IsAside e) : Trail config (record ++ es) s
  | move {P : Grant} {link : RelayLink} {s s' : Supervisor} {record es : List Entry}
    (before : Trail config record s) (hm : Move P link s es s') : Trail config (record ++ es) s'

section
variable {config : ClientConfig} {P : Grant}

/-- On a trail the supervisor is ready at every move. -/
theorem Trail.ready {record : List Entry} {s : Supervisor} (ht : Trail config record s) :
    s.Ready := by
  induction ht with
  | start => exact ready_new config
  | aside _ _ ih => exact ih
  | move _ hm ih => exact ih.move hm

theorem Trail.config_eq {record : List Entry} {s : Supervisor}
    (ht : Trail config record s) : s.config = config := by
  induction ht with
  | start => rfl
  | aside _ _ ih => exact ih
  | move _ hm ih => exact hm.config_eq.trans ih

/-- A trail goes on with any further moves. -/
theorem Trail.moves {link : RelayLink} {s s' : Supervisor} {record es : List Entry}
    (ht : Trail config record s) (hm : Moves P link s es s') : Trail config (record ++ es) s' := by
  induction hm generalizing record with
  | refl => rwa [List.append_nil]
  | step first _ ih =>
    rw [← List.append_assoc]
    exact ih (ht.move first)

/-- **A run is on its trail.** -/
theorem Run.trail {steps : List Step} {s : Supervisor} (hr : Run config steps s) :
    Trail config (recordOf steps) s := by
  induction hr with
  | start => exact .start
  | @call steps s s' link c es before hmay ih =>
    rw [recordOf_append, recordOf_singleton]
    exact ih.moves (hmay.spec fun ω _ => yields_run link ih.ready c)

/-- Every call of a run was made in a run. -/
theorem Run.split {steps before later : List Step} {step : Step} {s : Supervisor}
    (hr : Run config steps s) (hsteps : steps = before ++ step :: later) :
    Run config before step.before
      ∧ May (fun _ _ => step.call.run step.link step.before) step.made step.after := by
  induction hr generalizing later with
  | start => simp at hsteps
  | call hbefore hmay ih =>
    rcases split_concat hsteps with ⟨rfl, rfl, -⟩ | ⟨rest, -, hrest⟩
    · exact ⟨hbefore, hmay⟩
    · exact ih hrest

/-- A call in the willing world. -/
def play (s : Supervisor) (link : RelayLink) (c : Call) : Step :=
  let out := played fun _ _ => c.run link s
  ⟨s, link, c, out.2.record, out.1⟩

/-- A run goes on with a call in the willing world. -/
theorem Run.play {steps : List Step} {s : Supervisor} (hr : Run config steps s) (link : RelayLink)
    (c : Call) : Run config (steps ++ [s.play link c]) (s.play link c).after :=
  hr.call (may_played _)

end

end Supervisor

end CameraViewer.Session
