import CameraViewer.Proofs.Link.Renewal
import CameraViewer.Proofs.Session.Runs
import CameraViewer.Session.Client

/-!
# Proofs/Session/Turns — the turns of the client

`Turned` says what one turn of the loop does to link and supervisor, whatever the world answers. A
`Run` takes turns in any order and at any times; only the reports of an attempt to connect come in
the order in which an attempt makes them. `Run.trail` is the supervisor's part of a run.
-/

namespace CameraViewer.Session

open Config Link Negotiation Peer Signal World

/-! ## What a turn does

A turn of the client is one call of its supervisor, or one step of its link, or both; `Turned` says
what each does. -/

/-- What a turn entitles the supervisor to; which turns bring new controls makes no difference
here. -/
def Turn.grant (t : Turn) : Supervisor.Grant where
  report session e := t = .peer ⟨session, e⟩
  clip := ∃ name mime data, t = .command (.sendClip name mime data)
  session := ∃ generation socket, t = .link ⟨generation, .opened socket⟩
  catalog := True

/-- What an attempt reports with a turn. -/
def Turn.reportOf? (g : ℕ) : Turn → Option LinkReport
  | .link e => if e.generation = g then some e.report else none
  | _ => none

/-- Only the supervisor answers it. -/
def Turn.Calls : Turn → Prop
  | .peer _ => True
  | .command cmd => cmd ≠ .shutdown
  | _ => False

/-- It ends the client. -/
def Turn.Ends : Turn → Prop
  | .command .shutdown | .hangUp => True
  | _ => False

theorem Turn.Calls.ne_link {t : Turn} (h : t.Calls) (e : LinkEvent) : t ≠ .link e := by
  rintro rfl
  exact h

theorem Turn.Calls.not_ends {t : Turn} (h : t.Calls) : ¬t.Ends := by
  intro hends
  unfold Turn.Ends at hends
  split at hends
  · exact h rfl
  · exact h
  · exact hends

/-- The turn that ends the client comes from no attempt. -/
theorem Turn.Ends.ne_link {t : Turn} (h : t.Ends) (e : LinkEvent) : t ≠ .link e := by
  rintro rfl
  exact h

namespace Client

/-- The link after a report of its latest attempt. -/
def linkAfter (now : ℕ) (c : Client) (report : LinkReport) : RelayLink :=
  (c.link.absorb now report).2

/-- The link while its next attempt runs. -/
def linkRenewed (c : Client) : RelayLink :=
  RelayLink.attempt { c.link with timer := c.link.timer.cancel.2 }

/-- The link when all is over. -/
def linkEnded (c : Client) : RelayLink :=
  { c.link with state := .shutdown, timer := c.link.timer.cancel.2, socket := none, task := none }

/-- What a turn does: what it asks, the client after it, and whether another turn may follow. -/
inductive Turned (now : ℕ) (c : Client) (t : Turn) : List Entry → Client × Bool → Prop
  /-- A report of a superseded attempt is dropped. -/
  | stale {e : LinkEvent} (ht : t = .link e) (hstale : e.generation ≠ c.link.generation) :
    Turned now c t [] (c, true)
  /-- The link opens, and a session may start. -/
  | opened {socket : ℕ} {es : List Entry} {s : Supervisor}
    (ht : t = .link ⟨c.link.generation, .opened socket⟩)
    (h : Supervisor.Opens (c.linkAfter now (.opened socket)) c.supervisor es s) :
    Turned now c t (shown (.link .opened) :: es)
      ({ c with link := c.linkAfter now (.opened socket), supervisor := s }, true)
  /-- A text comes in. -/
  | message {text : String} {es : List Entry} {s : Supervisor}
    (ht : t = .link ⟨c.link.generation, .message text⟩)
    (h : Supervisor.Moves t.grant c.link c.supervisor es s) :
    Turned now c t es ({ c with supervisor := s }, true)
  /-- The link closes. -/
  | closed {reason : String} (ht : t = .link ⟨c.link.generation, .closed reason⟩) :
    Turned now c t [shown (.link .idle)] ({ c with link := c.linkAfter now (.closed reason) }, true)
  /-- A peer reports, or the viewer commands. -/
  | called {es : List Entry} {s : Supervisor} (ht : t.Calls)
    (h : Supervisor.Moves t.grant c.link c.supervisor es s) :
    Turned now c t es ({ c with supervisor := s }, true)
  /-- Session and link end. -/
  | finished {es : List Entry} {s : Supervisor} (ht : t.Ends)
    (h : Supervisor.Moves t.grant c.link c.supervisor es s) :
    Turned now c t (es ++ (c.link.released ++ [shown (.link .shutdown)]))
      ({ c with link := c.linkEnded, supervisor := s }, false)
  /-- It is too early for the next attempt. -/
  | waited (ht : t = .reconnect) (hdue : c.link.timer.isDue now = false) :
    Turned now c t [] (c, true)
  /-- The next attempt starts. -/
  | redialed (ht : t = .reconnect) (hdue : c.link.timer.isDue now = true) :
    Turned now c t (c.link.dialed ++ [shown (.link .connecting)])
      ({ c with link := c.linkRenewed }, true)
  /-- The viewer is told how things stand. -/
  | ticked (ht : t = .tick) (ticker : Option Ticker) :
    Turned now c t [shown (.status (c.supervisor.status c.link.state))] ({ c with ticker }, true)

section
variable {ω : Type} [World ω] {c : Client} {now : ℕ}

/-- Giving up what the link holds on to is no business of the supervisor. -/
theorem aside_released (l : RelayLink) : ∀ e ∈ l.released, Supervisor.IsAside e := by
  rw [RelayLink.released]
  cases l.task with
  | none => exact List.forall_mem_nil _
  | some g => exact List.forall_mem_singleton.mpr (.hangUp g)

theorem aside_finished (l : RelayLink) :
    ∀ e ∈ l.released ++ [shown (.link .shutdown)], Supervisor.IsAside e :=
  List.forall_mem_append.mpr ⟨aside_released l, List.forall_mem_singleton.mpr (.link _)⟩

theorem aside_redialed (l : RelayLink) :
    ∀ e ∈ l.dialed ++ [shown (.link .connecting)], Supervisor.IsAside e := by
  rw [RelayLink.dialed, List.append_assoc]
  refine List.forall_mem_append.mpr ⟨aside_released l, List.forall_mem_cons.mpr ⟨.dial _ _, ?_⟩⟩
  exact List.forall_mem_singleton.mpr (.link _)

/-- **A report of an attempt**: an earlier attempt is not listened to. -/
theorem yields_onLinkEvent (hup : c.link.state ≠ .shutdown) (e : LinkEvent) :
    Yields (ω := ω) (c.onLinkEvent now e) fun es c' => Turned now c (.link e) es (c', true) := by
  rw [onLinkEvent, RelayLink.accept]
  by_cases hg : e.generation = c.link.generation
  · rw [if_neg (not_or.mpr ⟨hup, not_not.mpr hg⟩)]
    obtain ⟨g, report⟩ := e
    obtain rfl : g = c.link.generation := hg
    cases report with
    | opened socket =>
      have hopens :=
        Supervisor.yields_onLinkOpen (ω := ω) (c.linkAfter now (.opened socket)) c.supervisor
      refine yields_ask_bind _ fun _ => hopens.bind_pure fun es s h => ?_
      exact .opened rfl h
    | message text =>
      have hdispatch := Supervisor.yields_dispatch (ω := ω)
        (P := (Turn.link ⟨c.link.generation, .message text⟩).grant) trivial c.link text c.supervisor
      refine hdispatch.bind_pure fun es r h => ?_
      exact .message rfl h
    | closed reason => exact yields_ask_bind _ fun _ => yields_pure (.closed rfl)
  · rw [if_pos (.inr hg)]
    exact yields_pure (.stale rfl hg)

/-- **The timer**: the next attempt starts if it is due. -/
theorem yields_onReconnect (hup : c.link.state ≠ .shutdown) :
    Yields (ω := ω) (c.onReconnect now) fun es c' => Turned now c .reconnect es (c', true) := by
  rw [onReconnect]
  refine (RelayLink.yields_onReconnectDue fun hdown => absurd hdown hup).bind fun es r h => ?_
  obtain ⟨attempt, l⟩ := r
  cases h with
  | waits hdue => exact yields_pure (.waited rfl hdue)
  | renews _ hdue => exact yields_ask_bind _ fun _ => yields_pure (.redialed rfl hdue)

/-- **The end**: the session is torn down before the link. -/
theorem yields_finish (now : ℕ) {t : Turn} (ht : t.Ends) :
    Yields (ω := ω) c.finish fun es c' => Turned now c t es (c', false) := by
  rw [finish]
  refine (Supervisor.yields_shutdown (P := t.grant) c.link c.supervisor).bind fun es s h => ?_
  rw [RelayLink.shutdown]
  refine Yields.bind (P := fun fs l => fs = c.link.released ∧ l = c.linkEnded) ?_ ?_
  · exact Yields.bind_eq_pure (RelayLink.yields_dropTask c.link) fun _ => ⟨rfl, rfl⟩
  · rintro fs l ⟨rfl, rfl⟩
    exact yields_ask_bind _ fun _ => yields_pure (.finished ht h)

/-- **What a turn does.** -/
theorem yields_turn (hup : c.link.state ≠ .shutdown) (hr : c.supervisor.Ready) (t : Turn) :
    Yields (ω := ω) (c.turn now t) fun es r => Turned now c t es r := by
  cases t with
  | link e =>
    refine (yields_onLinkEvent hup e).bind_pure fun es c' h => ?_
    exact h
  | peer e =>
    refine (Supervisor.yields_onPeerEvent (P := Turn.grant (.peer e)) c.link hr rfl
      fun _ _ => trivial).bind_pure fun es s h => ?_
    exact .called trivial h
  | command cmd =>
    have hcalled : cmd ≠ .shutdown → Yields (ω := ω)
        (c.supervisor.onCommand c.link cmd >>= fun s => pure ({ c with supervisor := s }, true))
        fun es r => Turned now c (.command cmd) es r := by
      intro hcmd
      refine (Supervisor.yields_onCommand (P := (Turn.command cmd).grant) c.link hr ?_).bind_pure
        fun es s h => ?_
      · rintro name mime data rfl
        exact ⟨name, mime, data, rfl⟩
      · exact .called hcmd h
    cases cmd with
    | shutdown =>
      refine (yields_finish now (t := .command .shutdown) trivial).bind_pure fun es c' h => ?_
      exact h
    | _ => exact hcalled nofun
  | hangUp =>
    refine (yields_finish now (t := .hangUp) trivial).bind_pure fun es c' h => ?_
    exact h
  | reconnect =>
    refine (yields_onReconnect hup).bind_pure fun es c' h => ?_
    exact h
  | tick => exact yields_ask_bind _ fun _ => yields_pure (.ticked rfl _)

/-- The first attempt to connect. -/
theorem yields_start (url : String) (config : ClientConfig) :
    Yields (ω := ω) (start url config now) fun es c =>
      es = [.asked (.dial 1 url) (), shown (.link .connecting)]
        ∧ c.link = (RelayLink.new url config.reconnectMs).attempt ∧ c.supervisor = .new config := by
  rw [start]
  refine (RelayLink.yields_connect (l := .new url config.reconnectMs) nofun).bind fun es l h =>
    yields_ask_bind _ fun _ => yields_pure ?_
  obtain ⟨rfl, rfl⟩ := h
  exact ⟨rfl, rfl, rfl⟩

end

/-! ## Runs

Attempts report in their own order, and may do so after the next attempt was started: that order is
all that a run assumes. -/

/-- How far an attempt to connect has come. -/
inductive Phase
  /-- It has not reported yet. -/
  | dialing
  /-- It has come to a socket. -/
  | up
  /-- It is over. -/
  | past
deriving DecidableEq

/-- What an attempt may report next: that it has come to a socket, then texts, and last that it is
over. -/
def Phase.next? : Phase → LinkReport → Option Phase
  | .dialing, .opened _ => some .up
  | .up, .message _ => some .up
  | .dialing, .closed _ => some .past
  | .up, .closed _ => some .past
  | _, _ => none

/-- How far an attempt has come by its reports, unless they are out of order. -/
def phase? (reports : List LinkReport) : Option Phase := reports.foldlM Phase.next? .dialing

/-- One turn of a run. -/
structure Step where
  /-- What the client reacted to. -/
  turn : Turn
  /-- The client before the turn. -/
  before : Client
  /-- What was asked of the world. -/
  made : List Entry
  /-- The client after the turn. -/
  after : Client

/-- All that the turns of a run asked of the world, in order. -/
def recordOf (steps : List Step) : List Entry := steps.flatMap Step.made

@[simp] theorem recordOf_nil : recordOf [] = [] := rfl

@[simp] theorem recordOf_cons (step : Step) (steps : List Step) :
    recordOf (step :: steps) = step.made ++ recordOf steps :=
  List.flatMap_cons

@[simp] theorem recordOf_append (steps steps' : List Step) :
    recordOf (steps ++ steps') = recordOf steps ++ recordOf steps' :=
  List.flatMap_append

/-- What an attempt has reported. -/
def reportsOf (g : ℕ) (steps : List Step) : List LinkReport :=
  steps.filterMap fun step => step.turn.reportOf? g

/-- Attempts report only once they were started, and in order; all else comes at any time. -/
def Timely (steps : List Step) (c : Client) : Turn → Prop
  | .link e =>
    e.generation ≤ c.link.generation
      ∧ (phase? (reportsOf e.generation steps ++ [e.report])).isSome = true
  | _ => True

/-- The runs of the client, and whether they may go on. -/
inductive Run (url : String) (config : ClientConfig) : List Step → Client → Bool → Prop
  | start {now : ℕ} {es : List Entry} {c : Client}
    (hmay : May (fun _ _ => start url config now) es c) :
    Run url config [] c true
  | turn {steps : List Step} {c c' : Client} {now : ℕ} {t : Turn} {es : List Entry} {more : Bool}
    (before : Run url config steps c true) (ht : Timely steps c t)
    (hmay : May (fun _ _ => c.turn now t) es (c', more)) :
    Run url config (steps ++ [⟨t, c, es, c'⟩]) c' more

section
variable {c c' : Client} {now : ℕ} {t : Turn} {es : List Entry} {more : Bool} {url : String}
  {config : ClientConfig} {steps : List Step}

/-- The supervisor's part of a turn. -/
theorem Turned.trail {record : List Entry} (h : Turned now c t es (c', more))
    (ht : Supervisor.Trail config record c.supervisor) :
    Supervisor.Trail config (record ++ es) c'.supervisor := by
  cases h with
  | stale | waited => rwa [List.append_nil]
  | @opened socket es s hturn h =>
    have hshown := ht.aside (List.forall_mem_singleton.mpr (.link .opened))
    have hall := hshown.moves (h.moves (P := t.grant) ⟨_, _, hturn⟩)
    rwa [List.append_assoc] at hall
  | message _ h | called _ h => exact ht.moves h
  | closed => exact ht.aside (List.forall_mem_singleton.mpr (.link .idle))
  | finished _ h =>
    rw [← List.append_assoc]
    exact (ht.moves h).aside (aside_finished c.link)
  | redialed => exact ht.aside (aside_redialed c.link)
  | ticked => exact ht.aside (List.forall_mem_singleton.mpr (.status _))

/-- While turns may follow, the link is not shut down. -/
theorem Turned.up (h : Turned now c t es (c', true)) (hup : c.link.state ≠ .shutdown) :
    c'.link.state ≠ .shutdown := by
  cases h with
  | stale | message | called | waited | ticked => exact hup
  | opened | closed | redialed => exact nofun

/-- **A run is on the trail of its supervisor**, and takes its turns while the link is up. -/
theorem Run.trail (hr : Run url config steps c more) :
    Supervisor.Trail config (recordOf steps) c.supervisor
      ∧ (more = true → c.link.state ≠ .shutdown) := by
  induction hr with
  | start hmay =>
    obtain ⟨-, hlink, hs⟩ := hmay.spec fun _ _ => yields_start url config
    rw [recordOf_nil, hs, hlink]
    exact ⟨.start, fun _ => nofun⟩
  | @turn steps c c' now t es more before ht hmay ih =>
    have hturned : Turned now c t es (c', more) :=
      hmay.spec fun _ _ => yields_turn (ih.2 rfl) ih.1.ready t
    rw [recordOf_append, recordOf_cons, recordOf_nil, List.append_nil]
    refine ⟨hturned.trail ih.1, ?_⟩
    rintro rfl
    exact hturned.up (ih.2 rfl)

/-- What every turn of a run does. -/
theorem Run.turned (before : Run url config steps c true)
    (hmay : May (fun _ _ => c.turn now t) es (c', more)) : Turned now c t es (c', more) :=
  hmay.spec fun _ _ => yields_turn (before.trail.2 rfl) before.trail.1.ready t

/-- A turn in the willing world. -/
def play (c : Client) (now : ℕ) (t : Turn) : Step :=
  let out := played fun _ _ => c.turn now t
  ⟨t, c, out.2.record, out.1.1⟩

/-- A run goes on with a turn in the willing world. -/
theorem Run.play (hr : Run url config steps c true) (now : ℕ) {t : Turn} (ht : Timely steps c t) :
    Run url config (steps ++ [c.play now t]) (c.play now t).after
      (played fun _ _ => c.turn now t).1.2 :=
  hr.turn ht (may_played _)

end

end Client

end CameraViewer.Session
