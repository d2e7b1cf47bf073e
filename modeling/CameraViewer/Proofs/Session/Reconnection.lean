import CameraViewer.Proofs.Session.Generations

/-!
# Proofs/Session/Reconnection — one attempt to connect after the other

`TimedRun.reconnects`: the client connects again only when the attempt before is over and its delay
has passed since, it keeps what is open, and the viewer is told of each step of the link.

`linkNotes` is what the record of a run says of the link, `LinkTurned` what a turn adds to that.
`Paced` ties the timer to the history of the run: a link at rest has a deadline, and that is the
time of the loss of its latest attempt and the delay.
-/

namespace CameraViewer.Session

open Config Link Peer World

/-! ## What the record says of the link -/

/-- How the states of a link follow each other. -/
inductive LinkState.Follows : LinkState → LinkState → Prop
  | opens : Follows .connecting .opened
  | fails : Follows .connecting .idle
  | loses : Follows .opened .idle
  | retries : Follows .idle .connecting
  | ends {state : LinkState} (hup : state ≠ .shutdown) : Follows state .shutdown

/-- What an entry says of the link. -/
inductive LinkNote
  /-- An attempt to connect starts. -/
  | attempt (generation : ℕ) (url : String)
  /-- An attempt is given up. -/
  | gaveUp (generation : ℕ)
  /-- The viewer is told the state. -/
  | told (state : LinkState)
deriving DecidableEq

/-- The attempt that starts. -/
def LinkNote.attempt? : LinkNote → Option (ℕ × String)
  | .attempt generation url => some (generation, url)
  | _ => none

/-- The state that is told. -/
def LinkNote.state? : LinkNote → Option LinkState
  | .told state => some state
  | _ => none

/-- What an entry says of the link, if anything. -/
def linkNote? : Entry → Option LinkNote
  | .asked (.dial generation url) _ => some (.attempt generation url)
  | .asked (.hangUp generation) _ => some (.gaveUp generation)
  | .asked (.tell (.link state)) _ => some (.told state)
  | _ => none

/-- All that a record says of the link. -/
def linkNotes (record : List Entry) : List LinkNote := record.filterMap linkNote?

/-- The attempts that a record starts, with where they go. -/
def attemptsIn (record : List Entry) : List (ℕ × String) :=
  (linkNotes record).filterMap LinkNote.attempt?

/-- The states of the link that the viewer was told. -/
def statesTold (record : List Entry) : List LinkState :=
  (linkNotes record).filterMap LinkNote.state?

@[simp] theorem linkNotes_append (es fs : List Entry) :
    linkNotes (es ++ fs) = linkNotes es ++ linkNotes fs :=
  List.filterMap_append

@[simp] theorem attemptsIn_append (es fs : List Entry) :
    attemptsIn (es ++ fs) = attemptsIn es ++ attemptsIn fs := by
  rw [attemptsIn, linkNotes_append, List.filterMap_append, attemptsIn, attemptsIn]

@[simp] theorem statesTold_append (es fs : List Entry) :
    statesTold (es ++ fs) = statesTold es ++ statesTold fs := by
  rw [statesTold, linkNotes_append, List.filterMap_append, statesTold, statesTold]

/-- A supervisor does nothing to the link. -/
theorem Supervisor.Moves.linkNotes_eq_nil {P : Supervisor.Grant} {l : RelayLink} {s s' : Supervisor}
    {es : List Entry} (h : Supervisor.Moves P l s es s') : linkNotes es = [] := by
  refine List.filterMap_eq_nil_iff.mpr fun x hx => ?_
  obtain ⟨_, _, _, _, hmade, _, _⟩ := h.entries x hx
  cases hmade with
  | @shown e he =>
    cases e with
    | link state => exact he.elim
    | _ => rfl
  | written _ hx =>
    cases hx
    rfl
  | _ => rfl

/-- Giving up what is held on to. -/
theorem linkNotes_released (l : RelayLink) :
    linkNotes l.released = l.task.toList.map LinkNote.gaveUp := by
  rw [RelayLink.released]
  cases l.task <;> rfl

/-- How far the link has come with an attempt. -/
def Client.Phase.state : Client.Phase → LinkState
  | .dialing => .connecting
  | .up => .opened
  | .past => .idle

namespace Client

/-! ## What a turn does to the link -/

/-- What a turn does to the link, and what the record says of that. -/
inductive LinkTurned (now : ℕ) (c : Client) (t : Turn) : List LinkNote → RelayLink → Bool → Prop
  /-- Nothing; the latest attempt reports nothing, or a text. -/
  | rests (hreport : ∀ r, t.reportOf? c.link.generation = some r → ∃ text, r = .message text)
    (hends : ¬t.Ends) (hdue : t = .reconnect → c.link.timer.isDue now = false) :
    LinkTurned now c t [] c.link true
  /-- It opens. -/
  | opened {socket : ℕ} (ht : t = .link ⟨c.link.generation, .opened socket⟩) :
    LinkTurned now c t [.told .opened] (c.linkAfter now (.opened socket)) true
  /-- It closes. -/
  | closed {reason : String} (ht : t = .link ⟨c.link.generation, .closed reason⟩) :
    LinkTurned now c t [.told .idle] (c.linkAfter now (.closed reason)) true
  /-- The next attempt starts. -/
  | renewed (ht : t = .reconnect) (hdue : c.link.timer.isDue now = true) :
    LinkTurned now c t
      (c.link.task.toList.map .gaveUp
        ++ [.attempt (c.link.generation + 1) c.link.url, .told .connecting])
      c.linkRenewed true
  /-- It is all over. -/
  | ended (ht : t.Ends) :
    LinkTurned now c t (c.link.task.toList.map .gaveUp ++ [.told .shutdown]) c.linkEnded false

section
variable {c c' : Client} {now : ℕ} {t : Turn} {es : List Entry} {more : Bool}

/-- Every turn does one of these. -/
theorem Turned.link (h : Turned now c t es (c', more)) :
    LinkTurned now c t (linkNotes es) c'.link more := by
  cases h with
  | @stale e ht hstale =>
    subst ht
    have hreport : (Turn.link e).reportOf? c.link.generation = none := if_neg hstale
    exact .rests (by simp [hreport]) id (by rintro ⟨⟩)
  | opened ht h =>
    have hnone := (h.moves (P := .fresh) trivial).linkNotes_eq_nil
    have hnotes : linkNotes (shown (.link .opened) :: _) = _ :=
      congrArg (LinkNote.told .opened :: ·) hnone
    rw [hnotes]
    exact .opened ht
  | @message text es s ht h =>
    subst ht
    have hreport : (Turn.link ⟨c.link.generation, .message text⟩).reportOf? c.link.generation
        = some (.message text) := if_pos rfl
    rw [h.linkNotes_eq_nil]
    refine .rests (fun r hr => ⟨text, ?_⟩) id (by rintro ⟨⟩)
    exact Option.some.inj (hr.symm.trans hreport)
  | closed ht => exact .closed ht
  | called ht h =>
    rw [h.linkNotes_eq_nil]
    refine .rests (by simp [reportOf?_eq_none ht.ne_link]) ht.not_ends ?_
    rintro rfl
    exact ht.elim
  | finished ht h =>
    rw [linkNotes_append, h.linkNotes_eq_nil, linkNotes_append, linkNotes_released]
    exact .ended ht
  | waited ht hdue =>
    subst ht
    exact .rests (by rintro _ ⟨⟩) id fun _ => hdue
  | redialed ht hdue =>
    rw [linkNotes_append, RelayLink.dialed, linkNotes_append, linkNotes_released, List.append_assoc]
    exact .renewed ht hdue
  | ticked ht =>
    subst ht
    exact .rests (by rintro _ ⟨⟩) id (by rintro ⟨⟩)

end

/-! ## Runs with a clock

Nothing is assumed of the times of the turns, so a timer may fire early, and turns may be late. -/

/-- A turn with its time. -/
structure TimedStep extends Step where
  /-- When it is taken. -/
  time : ℕ

/-- The turns without their times. -/
def untimed (steps : List TimedStep) : List Step := steps.map TimedStep.toStep

@[simp] theorem untimed_concat (steps : List TimedStep) (step : TimedStep) :
    untimed (steps ++ [step]) = untimed steps ++ [step.toStep] :=
  List.map_append

/-- The runs of the client, the times of the turns in any order; what its start asks is `begun`. -/
inductive TimedRun (url : String) (config : ClientConfig) (begun : List Entry) :
    List TimedStep → Client → Bool → Prop
  | start {now : ℕ} {c : Client} (hmay : May (fun _ _ => start url config now) begun c) :
    TimedRun url config begun [] c true
  | turn {steps : List TimedStep} {c c' : Client} {now : ℕ} {t : Turn} {es : List Entry}
    {more : Bool}
    (before : TimedRun url config begun steps c true) (ht : Timely (untimed steps) c t)
    (hmay : May (fun _ _ => c.turn now t) es (c', more)) :
    TimedRun url config begun (steps ++ [⟨⟨t, c, es, c'⟩, now⟩]) c' more

/-- The link takes in that an attempt is over. -/
def TimedStep.Loses (step : TimedStep) (g : ℕ) : Prop :=
  ∃ reason, step.turn = .link ⟨g, .closed reason⟩
    ∧ (step.before.link.accept step.time ⟨g, .closed reason⟩).1 = some (.closed reason)

section
variable {url : String} {config : ClientConfig} {begun : List Entry} {steps : List TimedStep}
  {c c' : Client} {now delay : ℕ} {t : Turn} {es : List Entry} {more : Bool} {notes : List LinkNote}
  {l : RelayLink} {g : ℕ}

/-- A link that is not shut down takes in that its latest attempt is over. -/
theorem accept_closed {reason : String} (hup : l.state ≠ .shutdown) :
    (l.accept now ⟨l.generation, .closed reason⟩).1 = some (.closed reason) := by
  rw [RelayLink.accept, if_neg (not_or.mpr ⟨hup, not_not.mpr rfl⟩)]
  rfl

/-- Without its times a run with a clock is a run of the client. -/
theorem TimedRun.run (hr : TimedRun url config begun steps c more) :
    Run url config (untimed steps) c more := by
  induction hr with
  | start hmay => exact .start hmay
  | turn _ ht hmay ih =>
    rw [untimed_concat]
    exact ih.turn ht hmay

/-- What the start of a run asks. -/
theorem TimedRun.begun_eq (hr : TimedRun url config begun steps c more) :
    begun = [.asked (.dial 1 url) (), shown (.link .connecting)] := by
  induction hr with
  | start hmay => exact (hmay.spec fun _ _ => yields_start url config).1
  | turn _ _ _ ih => exact ih

/-- Every turn of a run was taken from a run. -/
theorem TimedRun.split (hr : TimedRun url config begun steps c more) {before later : List TimedStep}
    {step : TimedStep} (hsteps : steps = before ++ step :: later) :
    TimedRun url config begun before step.before true
      ∧ Timely (untimed before) step.before step.turn
      ∧ ∃ more', Turned step.time step.before step.turn step.made (step.after, more')
        ∧ (more' = false → later = [] ∧ more = false) := by
  induction hr generalizing later with
  | start => simp at hsteps
  | turn hbefore ht hmay ih =>
    rcases split_concat hsteps with ⟨rfl, rfl, rfl⟩ | ⟨rest, -, hrest⟩
    · exact ⟨hbefore, ht, _, hbefore.run.turned hmay, fun hmore => ⟨rfl, hmore⟩⟩
    · obtain ⟨hrun, htimely, more', hturned, hlast⟩ := ih hrest
      refine ⟨hrun, htimely, more', hturned, fun hmore => ?_⟩
      exact absurd (hlast hmore).2 nofun

/-! ## The pace of the attempts

The invariant `Paced` ties the timer to the history of the run: a link at rest has a deadline, and
that is the time of the loss with the delay added. -/

/-- What an attempt that is over reports. -/
theorem Timely.reportOf?_of_past {steps : List Step} (ht : Timely steps c t)
    (hpast : phase? (reportsOf g steps) = some .past) : t.reportOf? g = none := by
  cases t with
  | link e =>
    refine if_neg fun hg => ?_
    have hsome := ht.2
    rw [hg, phase?_concat, hpast] at hsome
    cases hsome
  | _ => rfl

/-- How timer, attempts and history stand to each other while turns may follow. -/
structure Paced (url : String) (delay : ℕ) (steps : List TimedStep) (l : RelayLink) : Prop where
  url_eq : l.url = url
  delay_eq : l.timer.delay = delay
  /-- The link is as far as its latest attempt. -/
  phase : (phase? (reportsOf l.generation (untimed steps))).map Phase.state = some l.state
  /-- The attempts before are over. -/
  past : ∀ g, 1 ≤ g → g < l.generation → phase? (reportsOf g (untimed steps)) = some .past
  /-- A link at rest waits from the loss of its latest attempt. -/
  armed : l.state = .idle → l.task = none ∧ ∃ lost ∈ steps, lost.Loses l.generation
    ∧ l.timer.deadline = some (lost.time + delay)
  disarmed : l.state ≠ .idle → l.timer.deadline = none

/-- While turns may follow the link is not shut down. -/
theorem Paced.ne_shutdown (hp : Paced url delay steps l) : l.state ≠ .shutdown := by
  intro hdown
  have hphase := hp.phase
  rw [hdown] at hphase
  obtain ⟨p, -, hp⟩ := Option.map_eq_some_iff.mp hphase
  cases p <;> cases hp

/-- Only a link at rest is due. -/
theorem Paced.idle_of_isDue (hp : Paced url delay steps l) (hdue : l.timer.isDue now = true) :
    l.state = .idle := by
  by_contra hbusy
  rw [ReconnectTimer.isDue, hp.disarmed hbusy] at hdue
  cases hdue

/-- The latest attempt of a link at rest is over. -/
theorem Paced.phase_of_idle (hp : Paced url delay steps l) (hidle : l.state = .idle) :
    phase? (reportsOf l.generation (untimed steps)) = some .past := by
  obtain ⟨p, hphase, hstate⟩ := Option.map_eq_some_iff.mp hp.phase
  rw [hidle] at hstate
  cases p with
  | past => exact hphase
  | dialing | up => cases hstate

/-- A link comes to its socket from an attempt, -/
theorem Paced.connecting_of_opened (hp : Paced url delay steps c.link) {socket : ℕ}
    (ht : Timely (untimed steps) c (.link ⟨c.link.generation, .opened socket⟩)) :
    c.link.state = .connecting := by
  have hphase := hp.phase
  rw [eq_nil_of_opened ht.2] at hphase
  exact (Option.some.inj hphase).symm

/-- and it closes only if it was not at rest. -/
theorem Paced.follows_idle (hp : Paced url delay steps c.link) {reason : String}
    (ht : Timely (untimed steps) c (.link ⟨c.link.generation, .closed reason⟩)) :
    c.link.state.Follows .idle := by
  have hsome := ht.2
  obtain ⟨p, hphase, hstate⟩ := Option.map_eq_some_iff.mp hp.phase
  rw [phase?_concat, hphase] at hsome
  rw [← hstate]
  cases p with
  | dialing => exact .fails
  | up => exact .loses
  | past => cases hsome

/-- **What the viewer is told of a turn** is where it leaves the link. -/
theorem LinkTurned.told (hp : Paced url delay steps c.link) (ht : Timely (untimed steps) c t)
    (h : LinkTurned now c t notes l more) :
    notes.filterMap LinkNote.state? = [] ∧ l.state = c.link.state ∧ more = true
      ∨ notes.filterMap LinkNote.state? = [l.state] ∧ c.link.state.Follows l.state
        ∧ (more = true ↔ l.state ≠ .shutdown) := by
  have hgaveUp : (c.link.task.toList.map LinkNote.gaveUp).filterMap LinkNote.state? = [] := by
    cases c.link.task <;> rfl
  cases h with
  | rests => exact .inl ⟨rfl, rfl, rfl⟩
  | opened hturn =>
    subst hturn
    refine .inr ⟨rfl, ?_, by simp [linkAfter, RelayLink.absorb]⟩
    rw [hp.connecting_of_opened ht]
    exact .opens
  | closed hturn =>
    subst hturn
    exact .inr ⟨rfl, hp.follows_idle ht, iff_of_true rfl nofun⟩
  | renewed hturn hdue =>
    refine .inr ⟨?_, ?_, iff_of_true rfl nofun⟩
    · rw [List.filterMap_append, hgaveUp]
      rfl
    · rw [hp.idle_of_isDue hdue]
      exact .retries
  | ended =>
    refine .inr ⟨?_, .ends hp.ne_shutdown, iff_of_false nofun fun hup => hup rfl⟩
    rw [List.filterMap_append, hgaveUp]
    rfl

/-- A turn tells nothing and leaves the state, or tells the state that it leads to. -/
theorem Turned.told (hp : Paced url delay steps c.link) (ht : Timely (untimed steps) c t)
    (h : Turned now c t es (c', more)) :
    statesTold es = [] ∧ c'.link.state = c.link.state ∧ more = true
      ∨ statesTold es = [c'.link.state] ∧ c.link.state.Follows c'.link.state
        ∧ (more = true ↔ c'.link.state ≠ .shutdown) :=
  h.link.told hp ht

theorem eq_link_of_reportOf? {r : LinkReport} (h : t.reportOf? g = some r) : t = .link ⟨g, r⟩ := by
  cases t with
  | link e =>
    obtain ⟨g', r'⟩ := e
    rw [Turn.reportOf?] at h
    split at h
    · rename_i hg
      obtain rfl : g' = g := hg
      obtain rfl := Option.some.inj h
      rfl
    · cases h
  | _ => cases h

/-- Other turns add nothing to the reports of an attempt. -/
theorem reportsOf_of_none {step : TimedStep} (h : step.turn.reportOf? g = none) :
    reportsOf g (untimed (steps ++ [step])) = reportsOf g (untimed steps) := by
  rw [untimed_concat, reportsOf_concat, h]
  exact List.append_nil _

theorem reportsOf_of_link {step : TimedStep} {r : LinkReport} (h : step.turn = .link ⟨g, r⟩) :
    reportsOf g (untimed (steps ++ [step])) = reportsOf g (untimed steps) ++ [r] := by
  have hreport : step.turn.reportOf? g = some r := by
    rw [h]
    exact if_pos rfl
  rw [untimed_concat, reportsOf_concat, hreport]
  rfl

/-- What is over stays so. -/
theorem Paced.past_concat (hp : Paced url delay steps c.link) {step : TimedStep}
    (ht : Timely (untimed steps) c step.turn) (hone : 1 ≤ g) (hg : g < c.link.generation) :
    phase? (reportsOf g (untimed (steps ++ [step]))) = some .past := by
  rw [reportsOf_of_none (ht.reportOf?_of_past (hp.past g hone hg))]
  exact hp.past g hone hg

/-- The latest attempt reports nothing, or a text. -/
theorem Paced.rests (hp : Paced url delay steps c.link) {step : TimedStep}
    (ht : Timely (untimed steps) c step.turn)
    (hreport : ∀ r, step.turn.reportOf? c.link.generation = some r → ∃ text, r = .message text) :
    Paced url delay (steps ++ [step]) c.link := by
  refine ⟨hp.url_eq, hp.delay_eq, ?_, fun g => hp.past_concat ht, fun hidle => ?_, hp.disarmed⟩
  · cases hnews : step.turn.reportOf? c.link.generation with
    | none =>
      rw [reportsOf_of_none hnews]
      exact hp.phase
    | some r =>
      obtain ⟨text, rfl⟩ := hreport r hnews
      have hturn := eq_link_of_reportOf? hnews
      rw [hturn] at ht
      have hup := phase?_of_message ht.2
      rw [reportsOf_of_link hturn, phase?_concat, hup, ← hp.phase, hup]
      rfl
  · obtain ⟨htask, lost, hmem, hlost⟩ := hp.armed hidle
    exact ⟨htask, lost, List.mem_append_left _ hmem, hlost⟩

/-- The latest attempt is over. -/
theorem Paced.closes (hp : Paced url delay steps c.link) {reason : String}
    (ht : Timely (untimed steps) c (.link ⟨c.link.generation, .closed reason⟩)) :
    Paced url delay (steps ++ [⟨⟨.link ⟨c.link.generation, .closed reason⟩, c, es, c'⟩, now⟩])
      (c.linkAfter now (.closed reason)) := by
  have hbusy : c.link.state ≠ .idle := by
    intro hidle
    have hfollows := hp.follows_idle ht
    rw [hidle] at hfollows
    cases hfollows
  have htimer : (c.linkAfter now (.closed reason)).timer
      = { c.link.timer with deadline := some (now + c.link.timer.delay) } := by
    change (c.link.timer.schedule now).2 = _
    rw [ReconnectTimer.schedule, hp.disarmed hbusy]
  refine ⟨hp.url_eq, ?_, ?_, fun g => hp.past_concat ht, fun _ => ⟨rfl, ?_⟩, fun h => absurd rfl h⟩
  · rw [htimer]
    exact hp.delay_eq
  · change (phase? (reportsOf c.link.generation _)).map Phase.state = some .idle
    have hsome := ht.2
    rw [reportsOf_of_link rfl]
    cases hphase : phase? (reportsOf c.link.generation (untimed steps) ++ [.closed reason]) with
    | none =>
      rw [hphase] at hsome
      cases hsome
    | some p =>
      rw [phase?_concat] at hphase
      obtain ⟨q, -, hq⟩ := Option.bind_eq_some_iff.mp hphase
      cases q <;> cases hq <;> rfl
  · refine ⟨_, List.mem_append_right _ List.mem_cons_self,
      ⟨reason, rfl, accept_closed hp.ne_shutdown⟩, ?_⟩
    rw [htimer, hp.delay_eq]

/-- The next attempt starts. -/
theorem Paced.renews (hp : Paced url delay steps c.link)
    (hearly : reportsOf (c.link.generation + 1) (untimed steps) = [])
    (hidle : c.link.state = .idle) :
    Paced url delay (steps ++ [⟨⟨.reconnect, c, es, c'⟩, now⟩]) c.linkRenewed := by
  refine ⟨hp.url_eq, hp.delay_eq, ?_, fun g hone hg => ?_, nofun, fun _ => rfl⟩
  · change (phase? (reportsOf (c.link.generation + 1) _)).map Phase.state = some .connecting
    rw [reportsOf_of_none rfl, hearly]
    rfl
  · rw [reportsOf_of_none rfl]
    rcases Nat.lt_succ_iff_lt_or_eq.mp hg with hg | rfl
    · exact hp.past g hone hg
    · exact hp.phase_of_idle hidle

/-- **Every turn keeps the pace**, if another may follow. -/
theorem Paced.turn (hp : Paced url delay steps c.link) (ht : Timely (untimed steps) c t)
    (hearly : reportsOf (c.link.generation + 1) (untimed steps) = [])
    (h : LinkTurned now c t notes l true) :
    Paced url delay (steps ++ [⟨⟨t, c, es, c'⟩, now⟩]) l := by
  cases h with
  | rests hreport => exact hp.rests ht hreport
  | opened hturn =>
    subst hturn
    refine ⟨hp.url_eq, hp.delay_eq, ?_, fun g => hp.past_concat ht, nofun, fun _ => rfl⟩
    change (phase? (reportsOf c.link.generation _)).map Phase.state = some .opened
    rw [reportsOf_of_link rfl, eq_nil_of_opened ht.2]
    rfl
  | closed hturn =>
    subst hturn
    exact hp.closes ht
  | renewed hturn hdue =>
    subst hturn
    exact hp.renews hearly (hp.idle_of_isDue hdue)

/-- The invariant holds of every run that may go on. -/
theorem TimedRun.paced (hr : TimedRun url config begun steps c true) :
    Paced url config.reconnectMs steps c.link := by
  generalize hmore : true = more at hr
  induction hr with
  | start hmay =>
    obtain ⟨-, hlink, -⟩ := hmay.spec fun _ _ => yields_start url config
    rw [hlink]
    refine ⟨rfl, rfl, rfl, fun g hone hg => ?_, nofun, fun _ => rfl⟩
    exact absurd hone (Nat.not_le.mpr hg)
  | turn before ht hmay ih =>
    subst hmore
    have hearly := before.run.standing.early _ (Nat.lt_succ_self _)
    exact (ih rfl).turn ht hearly (before.run.turned hmay).link

/-! ## What the viewer is told -/

/-- The viewer was told of every step of the link, from its first attempt to where it is now. -/
structure TellsEachState (told : List LinkState) (state : LinkState) : Prop where
  legal : told.IsChain LinkState.Follows
  first : told.head? = some .connecting
  last : told.getLast? = some state

/-- One more state is told, which follows the last. -/
theorem TellsEachState.next {told : List LinkState} {state state' : LinkState}
    (h : TellsEachState told state) (hf : state.Follows state') :
    TellsEachState (told ++ [state']) state' := by
  refine ⟨List.isChain_append.mpr ⟨h.legal, List.isChain_singleton _, ?_⟩, ?_, List.getLast?_concat⟩
  · intro x hx y hy
    obtain rfl := Option.some.inj (h.last.symm.trans hx)
    obtain rfl := Option.some.inj hy
    exact hf
  · rw [List.head?_append, h.first]
    rfl

/-- Nothing is told after the end. -/
theorem TellsEachState.shutdown_not_mem {told : List LinkState} {state : LinkState}
    (h : TellsEachState told state) (hup : state ≠ .shutdown) : LinkState.shutdown ∉ told := by
  intro hmem
  obtain ⟨before, later, rfl⟩ := List.append_of_mem hmem
  cases later with
  | nil => exact hup (Option.some.inj (h.last.symm.trans List.getLast?_concat))
  | cons x later =>
    cases (List.isChain_cons_cons.mp (List.isChain_append.mp h.legal).2.1).1
    contradiction

/-- **The viewer is told of each state of the link**, and nothing follows the end. -/
theorem TimedRun.tellsEachState (hr : TimedRun url config begun steps c more) :
    TellsEachState (statesTold (begun ++ recordOf (untimed steps))) c.link.state
      ∧ (more = true ↔ c.link.state ≠ .shutdown) := by
  induction hr with
  | start hmay =>
    obtain ⟨rfl, hlink, -⟩ := hmay.spec fun _ _ => yields_start url config
    rw [hlink]
    exact ⟨⟨List.isChain_singleton _, rfl, rfl⟩, iff_of_true rfl nofun⟩
  | turn before ht hmay ih =>
    have hup := before.paced.ne_shutdown
    rw [untimed_concat, recordOf_append, recordOf_cons, recordOf_nil, List.append_nil,
      ← List.append_assoc, statesTold_append]
    rcases (before.run.turned hmay).told before.paced ht with
      ⟨hnone, hstate, hmore⟩ | ⟨hone, hfollows, hmore⟩
    · rw [hnone, List.append_nil, hstate]
      exact ⟨ih.1, iff_of_true hmore hup⟩
    · rw [hone]
      exact ⟨ih.1.next hfollows, hmore⟩

/-- The turn that ends a run. -/
theorem Turned.ends (h : Turned now c t es (c', false)) :
    t.Ends ∧ ∃ fs, es = fs ++ [shown (.link .shutdown)] ∧ statesTold fs = [] := by
  cases h with
  | @finished es s ht h =>
    refine ⟨ht, es ++ c.link.released, (List.append_assoc ..).symm, ?_⟩
    rw [statesTold, linkNotes_append, h.linkNotes_eq_nil, linkNotes_released]
    cases c.link.task <;> rfl

/-- The end of a run is the last that the viewer is told. -/
theorem TimedRun.ended (hr : TimedRun url config begun steps c false) :
    ∃ record, begun ++ recordOf (untimed steps) = record ++ [shown (.link .shutdown)]
      ∧ LinkState.shutdown ∉ statesTold record := by
  generalize hmore : false = more at hr
  cases hr with
  | start => cases hmore
  | @turn steps c _ _ _ es _ before _ hmay =>
    subst hmore
    obtain ⟨-, fs, rfl, hfs⟩ := (before.run.turned hmay).ends
    refine ⟨begun ++ (recordOf (untimed steps) ++ fs), ?_, ?_⟩
    · simp
    · have hnone := before.tellsEachState.1.shutdown_not_mem before.paced.ne_shutdown
      rwa [← List.append_assoc, statesTold_append, hfs, List.append_nil]

/-! ## The attempts

An attempt starts when the timer is due, and the timer is due only when the delay since the loss has
passed. -/

/-- The link starts an attempt only when it is due. -/
theorem Turned.attempts (h : Turned now c t es (c', more)) :
    attemptsIn es = [] ∧ c'.link.generation = c.link.generation
      ∨ attemptsIn es = [(c.link.generation + 1, c.link.url)]
        ∧ c'.link.generation = c.link.generation + 1 ∧ t = .reconnect
        ∧ c.link.timer.isDue now = true := by
  have hlink := h.link
  rw [attemptsIn]
  generalize linkNotes es = notes at hlink
  generalize c'.link = l at hlink
  cases hlink with
  | rests | opened | closed => exact .inl ⟨rfl, rfl⟩
  | renewed ht hdue =>
    refine .inr ⟨?_, rfl, ht, hdue⟩
    cases c.link.task <;> rfl
  | ended =>
    refine .inl ⟨?_, rfl⟩
    cases c.link.task <;> rfl

/-- It does start one then. -/
theorem LinkTurned.retries (h : LinkTurned now c .reconnect notes l more)
    (hdue : c.link.timer.isDue now = true) : notes.filterMap LinkNote.attempt? ≠ [] := by
  cases h with
  | rests _ _ hearly =>
    rw [hearly rfl] at hdue
    cases hdue
  | opened ht | closed ht => cases ht
  | renewed => simp [LinkNote.attempt?]
  | ended ht => exact ht.elim

/-- When it is not due, the turn does nothing. -/
theorem Turned.unchanged_of_not_due (h : Turned now c .reconnect es (c', more))
    (hearly : c.link.timer.isDue now = false) : es = [] ∧ c' = c := by
  cases h with
  | waited => exact ⟨rfl, rfl⟩
  | redialed _ hdue =>
    rw [hearly] at hdue
    cases hdue
  | stale ht | opened ht | message ht | closed ht | ticked ht => cases ht
  | called ht | finished ht => exact ht.elim

/-- An open link stays open until it is lost or all is over. -/
theorem LinkTurned.holds (hp : Paced url delay steps c.link) (hopen : c.link.state = .opened)
    (h : LinkTurned now c t notes l more) :
    l.state = .opened ∨ (∃ reason, t = .link ⟨c.link.generation, .closed reason⟩) ∨ t.Ends := by
  cases h with
  | rests => exact .inl hopen
  | opened => exact .inl rfl
  | closed ht => exact .inr (.inl ⟨_, ht⟩)
  | renewed _ hdue =>
    have hidle := hp.idle_of_isDue hdue
    rw [hopen] at hidle
    cases hidle
  | ended ht => exact .inr (.inr ht)

/-- Only the end gives an attempt up. -/
theorem LinkTurned.ends_of_gaveUp (hp : Paced url delay steps c.link)
    (h : LinkTurned now c t notes l more) (hmem : .gaveUp g ∈ notes) : t.Ends := by
  cases h with
  | rests => cases hmem
  | opened | closed => cases List.mem_singleton.mp hmem
  | renewed _ hdue =>
    rw [(hp.armed (hp.idle_of_isDue hdue)).1] at hmem
    simp at hmem
  | ended ht => exact ht

/-- At the end no attempt starts, and no turn follows. -/
theorem LinkTurned.over (h : LinkTurned now c t notes l more) (ht : t.Ends) :
    notes.filterMap LinkNote.attempt? = [] ∧ more = false := by
  cases h with
  | rests _ hends => exact absurd ht hends
  | opened hturn | closed hturn | renewed hturn =>
    subst hturn
    exact ht.elim
  | ended =>
    refine ⟨?_, rfl⟩
    cases c.link.task <;> rfl

/-- The attempts of a run are numbered in order. -/
theorem TimedRun.attempts_eq (hr : TimedRun url config begun steps c more) :
    attemptsIn (begun ++ recordOf (untimed steps))
      = (List.range' 1 c.link.generation).map fun g => (g, url) := by
  induction hr with
  | start hmay =>
    obtain ⟨rfl, hlink, -⟩ := hmay.spec fun _ _ => yields_start url config
    rw [hlink]
    rfl
  | turn before _ hmay ih =>
    rw [untimed_concat, recordOf_append, recordOf_cons, recordOf_nil, List.append_nil,
      ← List.append_assoc, attemptsIn_append, ih]
    rcases (before.run.turned hmay).attempts with ⟨hnone, hg⟩ | ⟨hone, hg, -⟩
    · rw [hnone, hg, List.append_nil]
    · rw [hone, hg, List.range'_1_concat, List.map_append, before.paced.url_eq, Nat.add_comm]
      rfl

/-! ## The result -/

/-- What is said of a client that waits for `delay` before it connects again. -/
structure Reconnects (url : String) (delay : ℕ) (begun : List Entry) (steps : List TimedStep)
    (c : Client) (more : Bool) : Prop where
  /-- The first attempt starts with the client, -/
  first : begun = [.asked (.dial 1 url) (), shown (.link .connecting)]
  /-- and the attempts are numbered in order. -/
  attempts : attemptsIn (begun ++ recordOf (untimed steps))
    = (List.range' 1 c.link.generation).map fun g => (g, url)
  /-- Another attempt starts only when the one before is over, that was taken in, and the delay has
  passed since. -/
  renewed : ∀ before step later, steps = before ++ step :: later → attemptsIn step.made ≠ [] →
    attemptsIn step.made = [(step.before.link.generation + 1, url)]
      ∧ step.turn = .reconnect ∧ step.before.link.state = .idle
      ∧ phase? (reportsOf step.before.link.generation (untimed before)) = some .past
      ∧ ∃ lost ∈ before, lost.Loses step.before.link.generation ∧ lost.time + delay ≤ step.time
  /-- Then it does start, -/
  retried : ∀ before step later, steps = before ++ step :: later → step.turn = .reconnect →
    step.before.link.state = .idle →
      ∃ lost ∈ before, lost.Loses step.before.link.generation
        ∧ (lost.time + delay ≤ step.time → attemptsIn step.made ≠ [])
  /-- and all but the latest are over. -/
  alone : more = true → ∀ g, 1 ≤ g → g < c.link.generation →
    phase? (reportsOf g (untimed steps)) = some .past
  /-- The timer leaves alone what is not at rest, -/
  spared : ∀ step ∈ steps, step.turn = .reconnect → step.before.link.state ≠ .idle →
    step.made = [] ∧ step.after = step.before
  /-- an open link stays open until it is lost or all is over, -/
  held : ∀ step ∈ steps, step.before.link.state = .opened →
    step.after.link.state = .opened ∨ step.Loses step.before.link.generation ∨ step.turn.Ends
  /-- and no attempt is given up before. -/
  kept : ∀ step ∈ steps, ∀ g, .gaveUp g ∈ linkNotes step.made → step.turn.Ends
  /-- When all is over, no attempt starts and no turn follows. -/
  finished : ∀ before step later, steps = before ++ step :: later → step.turn.Ends →
    attemptsIn step.made = [] ∧ later = [] ∧ more = false
  /-- The viewer is told of every step of the link, -/
  told : TellsEachState (statesTold (begun ++ recordOf (untimed steps))) c.link.state
  /-- of the end last of all, -/
  ended : more = false → ∃ record, begun ++ recordOf (untimed steps)
    = record ++ [shown (.link .shutdown)] ∧ LinkState.shutdown ∉ statesTold record
  /-- and not before. -/
  up : more = true → LinkState.shutdown ∉ statesTold (begun ++ recordOf (untimed steps))

/-- **Every attempt of a run** is the next one after an attempt that is over, and comes when the
delay has passed. -/
theorem TimedRun.attempted (hr : TimedRun url config begun steps c more)
    {before later : List TimedStep} {step : TimedStep} (hsteps : steps = before ++ step :: later)
    (hmade : attemptsIn step.made ≠ []) :
    attemptsIn step.made = [(step.before.link.generation + 1, url)]
      ∧ step.turn = .reconnect ∧ step.before.link.state = .idle
      ∧ phase? (reportsOf step.before.link.generation (untimed before)) = some .past
      ∧ ∃ lost ∈ before, lost.Loses step.before.link.generation
        ∧ lost.time + config.reconnectMs ≤ step.time := by
  obtain ⟨hrun, -, more', hturned, -⟩ := hr.split hsteps
  have hp := hrun.paced
  rcases hturned.attempts with ⟨hnone, -⟩ | ⟨hone, -, hturn, hdue⟩
  · exact absurd hnone hmade
  have hidle := hp.idle_of_isDue hdue
  obtain ⟨-, lost, hmem, hlost, hdeadline⟩ := hp.armed hidle
  rw [hp.url_eq] at hone
  rw [ReconnectTimer.isDue, hdeadline] at hdue
  exact ⟨hone, hturn, hidle, hp.phase_of_idle hidle, lost, hmem, hlost, of_decide_eq_true hdue⟩

/-- **The client connects again when it is time, and only then**, and tells the viewer. -/
theorem TimedRun.reconnects (hr : TimedRun url config begun steps c more) :
    Reconnects url config.reconnectMs begun steps c more where
  first := hr.begun_eq
  attempts := hr.attempts_eq
  renewed before step later hsteps := hr.attempted hsteps
  retried before step later hsteps hturn hidle := by
    obtain ⟨hrun, -, more', hturned, -⟩ := hr.split hsteps
    obtain ⟨-, lost, hmem, hlost, hdeadline⟩ := hrun.paced.armed hidle
    refine ⟨lost, hmem, hlost, fun hle => ?_⟩
    have hlink := hturned.link
    rw [hturn] at hlink
    refine hlink.retries ?_
    rw [ReconnectTimer.isDue, hdeadline]
    exact decide_eq_true hle
  alone hmore := by
    subst hmore
    exact hr.paced.past
  spared step hstep hturn hbusy := by
    obtain ⟨before, later, hsteps⟩ := List.append_of_mem hstep
    obtain ⟨hrun, -, more', hturned, -⟩ := hr.split hsteps
    rw [hturn] at hturned
    refine hturned.unchanged_of_not_due ?_
    rw [ReconnectTimer.isDue, hrun.paced.disarmed hbusy]
  held step hstep hopen := by
    obtain ⟨before, later, hsteps⟩ := List.append_of_mem hstep
    obtain ⟨hrun, -, more', hturned, -⟩ := hr.split hsteps
    refine (hturned.link.holds hrun.paced hopen).imp_right (Or.imp_left ?_)
    rintro ⟨reason, hturn⟩
    exact ⟨reason, hturn, accept_closed hrun.paced.ne_shutdown⟩
  kept step hstep g hmem := by
    obtain ⟨before, later, hsteps⟩ := List.append_of_mem hstep
    obtain ⟨hrun, -, more', hturned, -⟩ := hr.split hsteps
    exact hturned.link.ends_of_gaveUp hrun.paced hmem
  finished before step later hsteps hends := by
    obtain ⟨-, -, more', hturned, hlast⟩ := hr.split hsteps
    obtain ⟨hnone, hmore⟩ := hturned.link.over hends
    exact ⟨hnone, hlast hmore⟩
  told := hr.tellsEachState.1
  ended hmore := by
    subst hmore
    exact hr.ended
  up hmore := hr.tellsEachState.1.shutdown_not_mem (hr.tellsEachState.2.mp hmore)

/-- A turn in the willing world. -/
theorem TimedRun.play (hr : TimedRun url config begun steps c true) (now : ℕ) {t : Turn}
    (ht : Timely (untimed steps) c t) :
    TimedRun url config begun (steps ++ [⟨c.play now t, now⟩]) (c.play now t).after
      (played fun _ _ => c.turn now t).1.2 :=
  hr.turn ht (may_played _)

/-- The first attempt fails, the second starts when the delay has passed and comes to a socket. The
timer fires before the first is over, too early, in time and once too often; then all ends. -/
def retriedSteps : List TimedStep :=
  let start := (played fun _ _ => Client.start "wss://relay" {} 0).1
  let first := start.play 5 .reconnect
  let second := first.after.play 10 (.link ⟨1, .closed "refused"⟩)
  let third := second.after.play 5009 .reconnect
  let fourth := third.after.play 5010 .reconnect
  let fifth := fourth.after.play 5020 (.link ⟨2, .opened 7⟩)
  let sixth := fifth.after.play 9000 .reconnect
  [⟨first, 5⟩, ⟨second, 10⟩, ⟨third, 5009⟩, ⟨fourth, 5010⟩, ⟨fifth, 5020⟩, ⟨sixth, 9000⟩,
    ⟨sixth.after.play 9010 (.command .shutdown), 9010⟩]

/-- The sample connects twice, and the viewer is told of it. -/
theorem reconnects_retriedSteps : ∃ begun c, TimedRun "wss://relay" {} begun retriedSteps c false
    ∧ Reconnects "wss://relay" 5000 begun retriedSteps c false
    ∧ attemptsIn (begun ++ recordOf (untimed retriedSteps))
    = [(1, "wss://relay"), (2, "wss://relay")]
    ∧ statesTold (begun ++ recordOf (untimed retriedSteps))
      = [.connecting, .idle, .connecting, .opened, .shutdown] := by
  have hstart : TimedRun "wss://relay" {} (played fun _ _ => start "wss://relay" {} 0).2.record []
      (played fun _ _ => start "wss://relay" {} 0).1 true := .start (may_played _)
  have hfirst := hstart.play 5 (t := .reconnect) trivial
  have hsecond := TimedRun.play hfirst 10 (t := .link ⟨1, .closed "refused"⟩) ⟨by decide, by decide⟩
  have hthird := TimedRun.play hsecond 5009 (t := .reconnect) trivial
  have hfourth := TimedRun.play hthird 5010 (t := .reconnect) trivial
  have hfifth := TimedRun.play hfourth 5020 (t := .link ⟨2, .opened 7⟩) ⟨by decide, by decide⟩
  have hsixth := TimedRun.play hfifth 9000 (t := .reconnect) trivial
  have hr := TimedRun.play hsixth 9010 (t := .command .shutdown) trivial
  exact ⟨_, _, hr, hr.reconnects, by decide, by decide⟩

end

end Client

end CameraViewer.Session
