import CameraViewer.Link.Basic
import CameraViewer.Proofs.World.Record
import Mathlib.Data.List.DropRight

/-!
# Proofs/Link/Renewal — a lost connection is always renewed

A run calls the operations of a link in any order and at any times, with events of any attempt.
`Acts` says what each call does, and each invariant is one lemma about it. `Run.renewed` says that a
link that has been used is never left without a connection, an attempt or a deadline, until it is
shut down. The deadline is read off the history of the run (`losses`), not off the link.
-/

namespace CameraViewer.Link

open Session Signal World

namespace RelayLink

/-! ## Calls

What each call does is said once, in `Acts`; all that follows about runs is read off that
(`yields_run`). -/

/-- What a link is called with. -/
inductive Call
  /-- Connect now. -/
  | connect
  /-- An attempt reports. -/
  | accept (e : LinkEvent)
  /-- See whether the next attempt is due. -/
  | reconnectDue
  /-- Stop for good. -/
  | shutdown

/-- What a call returns. -/
inductive Outcome
  | done
  | update (taken : Option LinkUpdate)
  | attempt (generation : Option ℕ)

/-- The operation behind a call. -/
def Call.run {ω : Type} [World ω] (now : ℕ) (l : RelayLink) : Call → StateM ω (Outcome × RelayLink)
  | .connect => do
    let l ← l.connect
    return (.done, l)
  | .accept e => return (.update (l.accept now e).1, (l.accept now e).2)
  | .reconnectDue => do
    let (generation, l) ← l.onReconnectDue now
    return (.attempt generation, l)
  | .shutdown => do
    let l ← l.shutdown
    return (.done, l)

/-- What it takes to give up the attempt that is held on to. -/
def released (l : RelayLink) : List Entry := (l.task.map fun g => .asked (.hangUp g) ()).toList

/-- What it takes to start an attempt. -/
def dialed (l : RelayLink) : List Entry :=
  l.released ++ [.asked (.dial (l.generation + 1) l.url) ()]

/-- What a call does at some time. -/
inductive Acts (now : ℕ) (l : RelayLink) : Call → List Entry → Outcome → RelayLink → Prop
  /-- A link that is shut down does not connect. -/
  | refuses (hdown : l.state = .shutdown) : Acts now l .connect [] .done l
  /-- An attempt starts. -/
  | connects (hup : l.state ≠ .shutdown) : Acts now l .connect l.dialed .done l.attempt
  /-- The event is dropped. -/
  | drops {e : LinkEvent} (h : l.state = .shutdown ∨ e.generation ≠ l.generation) :
    Acts now l (.accept e) [] (.update none) l
  /-- The attempt came to a socket. -/
  | opens {socket : ℕ} (hup : l.state ≠ .shutdown) :
    Acts now l (.accept ⟨l.generation, .opened socket⟩) [] (.update (some .opened))
      { l with socket := some socket, state := .opened, timer := l.timer.cancel.2 }
  /-- A text comes in. -/
  | hears {text : String} (hup : l.state ≠ .shutdown) :
    Acts now l (.accept ⟨l.generation, .message text⟩) [] (.update (some (.message text))) l
  /-- The connection is lost. -/
  | loses {reason : String} (hup : l.state ≠ .shutdown) :
    Acts now l (.accept ⟨l.generation, .closed reason⟩) [] (.update (some (.closed reason)))
      { l with socket := none, task := none, state := .idle, timer := (l.timer.schedule now).2 }
  /-- No attempt is due. -/
  | waits (hdue : l.timer.isDue now = false) : Acts now l .reconnectDue [] (.attempt none) l
  /-- The next attempt starts. -/
  | renews (hup : l.state ≠ .shutdown) (hdue : l.timer.isDue now = true) :
    Acts now l .reconnectDue l.dialed (.attempt (some (l.generation + 1)))
      (attempt { l with timer := l.timer.cancel.2 })
  /-- The link is shut down. -/
  | stops :
    Acts now l .shutdown l.released .done
      { l with state := .shutdown, timer := l.timer.cancel.2, socket := none, task := none }

section
variable {ω : Type} [World ω]

/-- An attempt is given up if there is one to give up. -/
theorem yields_dropTask (l : RelayLink) :
    Yields (ω := ω) l.dropTask fun es _ => es = l.released := by
  rw [dropTask, released]
  cases l.task with
  | none => exact yields_pure rfl
  | some g => exact yields_ask _ fun _ => rfl

/-- A link that is not shut down starts its next attempt. -/
theorem yields_connect {l : RelayLink} (hup : l.state ≠ .shutdown) :
    Yields (ω := ω) l.connect fun es l' => es = l.dialed ∧ l' = l.attempt := by
  rw [connect, if_neg hup]
  refine Yields.bind_eq (yields_dropTask l) fun _ => yields_ask_bind _ fun _ => yields_pure ?_
  exact ⟨rfl, rfl⟩

/-- Only a link that may connect has a deadline to meet. -/
theorem yields_onReconnectDue {now : ℕ} {l : RelayLink}
    (hup : l.state = .shutdown → l.timer.deadline = none) :
    Yields (ω := ω) (l.onReconnectDue now) fun es r =>
      Acts now l .reconnectDue es (.attempt r.1) r.2 := by
  rw [onReconnectDue, ReconnectTimer.takeDue]
  cases hdue : l.timer.isDue now with
  | false => exact yields_pure (.waits hdue)
  | true =>
    have hup' : l.state ≠ .shutdown := fun hdown => by
      rw [ReconnectTimer.isDue, hup hdown] at hdue
      cases hdue
    refine (yields_connect (l := { l with timer := l.timer.cancel.2 }) hup').bind_pure
      fun es l' h => ?_
    obtain ⟨rfl, rfl⟩ := h
    exact .renews hup' hdue

/-- A shutdown gives up the attempt and clears the timer. -/
theorem yields_shutdown (now : ℕ) (l : RelayLink) :
    Yields (ω := ω) l.shutdown fun es l' => Acts now l .shutdown es .done l' := by
  rw [shutdown]
  refine Yields.bind_eq_pure (yields_dropTask l) fun _ => ?_
  exact .stops

/-- What becomes of an event. -/
theorem acts_accept (now : ℕ) (l : RelayLink) (e : LinkEvent) :
    Acts now l (.accept e) [] (.update (l.accept now e).1) (l.accept now e).2 := by
  rw [accept]
  by_cases hdrop : l.state = .shutdown ∨ e.generation ≠ l.generation
  · rw [if_pos hdrop]
    exact .drops hdrop
  · rw [if_neg hdrop]
    obtain ⟨hup, hg⟩ := not_or.mp hdrop
    obtain ⟨g, report⟩ := e
    obtain rfl : g = l.generation := not_not.mp hg
    cases report with
    | opened socket => exact .opens hup
    | message text => exact .hears hup
    | closed reason => exact .loses hup

/-- **What a call does.** -/
theorem yields_run {now : ℕ} {l : RelayLink} (hup : l.state = .shutdown → l.timer.deadline = none)
    (c : Call) : Yields (ω := ω) (c.run now l) fun es r => Acts now l c es r.1 r.2 := by
  cases c with
  | connect =>
    by_cases hdown : l.state = .shutdown
    · rw [Call.run, connect, if_pos hdown]
      exact yields_pure (.refuses hdown)
    · refine (yields_connect hdown).bind_pure fun es l' h => ?_
      obtain ⟨rfl, rfl⟩ := h
      exact .connects hdown
  | accept e => exact yields_pure (acts_accept now l e)
  | reconnectDue =>
    refine (yields_onReconnectDue hup).bind_pure fun es r h => ?_
    exact h
  | shutdown =>
    refine (yields_shutdown now l).bind_pure fun es l' h => ?_
    exact h

end

/-! ## Runs

Calls may come in any order and at any times, and events of earlier attempts may still come in. -/

/-- One call of a run. -/
structure Step where
  /-- When it is made. -/
  time : ℕ
  /-- The link before the call. -/
  before : RelayLink
  /-- What the link is called with. -/
  call : Call
  /-- What is asked of the world. -/
  made : List Entry
  /-- What the call returns. -/
  outcome : Outcome
  /-- The link after the call. -/
  after : RelayLink

/-- The runs of a new link, the calls in any order and at any times. -/
inductive Run (url : String) (delay : ℕ) : List Step → RelayLink → Prop
  | start : Run url delay [] (.new url delay)
  | call {steps : List Step} {l l' : RelayLink} {now : ℕ} {c : Call} {es : List Entry} {r : Outcome}
    (before : Run url delay steps l) (hmay : May (fun _ _ => c.run now l) es (r, l')) :
    Run url delay (steps ++ [⟨now, l, c, es, r, l'⟩]) l'

/-- A call in the willing world. -/
def play (l : RelayLink) (now : ℕ) (c : Call) : Step :=
  let out := played fun _ _ => c.run now l
  ⟨now, l, c, out.2.record, out.1.1, out.1.2⟩

/-- A run goes on with a call in the willing world. -/
theorem Run.play {url : String} {delay : ℕ} {steps : List Step} {l : RelayLink}
    (hr : Run url delay steps l) (now : ℕ) (c : Call) :
    Run url delay (steps ++ [l.play now c]) (l.play now c).after :=
  hr.call (may_played _)

/-- The call clears the timer: the link opens, the next attempt starts, or it is all over. -/
def Step.clears (step : Step) : Bool :=
  match step.call, step.outcome with
  | _, .update (some .opened) => true
  | _, .attempt (some _) => true
  | .shutdown, _ => true
  | _, _ => false

/-- When the call took in that the connection was lost. -/
def Step.lossAt? (step : Step) : Option ℕ :=
  match step.outcome with
  | .update (some (.closed _)) => some step.time
  | _ => none

/-- When connections were lost since the timer was last cleared, the first one first. -/
def losses (steps : List Step) : List ℕ :=
  (steps.rtakeWhile fun step => !step.clears).filterMap Step.lossAt?

/-- A call more clears the losses, or adds one at most. -/
theorem losses_concat (steps : List Step) (step : Step) :
    losses (steps ++ [step]) = if step.clears then [] else losses steps ++ step.lossAt?.toList := by
  rw [losses, List.rtakeWhile_concat]
  cases step.clears with
  | true => rfl
  | false =>
    change List.filterMap _ (_ ++ [step]) = losses steps ++ _
    rw [List.filterMap_append, losses, List.filterMap_cons]
    cases step.lossAt? <;> rfl

/-! ## Invariants -/

section
variable {now : ℕ} {l l' : RelayLink} {c : Call} {es : List Entry} {r : Outcome}

/-- A link has a socket exactly while it is open, and no deadline while it is open or shut down. -/
structure Sound (l : RelayLink) : Prop where
  socket : l.socket.isSome = true ↔ l.state = .opened
  disarmed : l.state = .opened ∨ l.state = .shutdown → l.timer.deadline = none

/-- **Every call leaves a link sound.** -/
theorem Acts.sound (h : Acts now l c es r l') (hl : l.Sound) : l'.Sound := by
  cases h with
  | refuses | drops | hears | waits => exact hl
  | connects => exact ⟨by simp [attempt], by simp [attempt]⟩
  | renews => exact ⟨by simp [attempt], by simp [attempt]⟩
  | opens => exact ⟨by simp, fun _ => rfl⟩
  | loses => exact ⟨by simp, by simp⟩
  | stops => exact ⟨by simp, fun _ => rfl⟩

/-- The delay is never changed. -/
theorem Acts.delay_eq (h : Acts now l c es r l') : l'.timer.delay = l.timer.delay := by
  cases h with
  | refuses | connects | drops | opens | hears | waits | renews | stops => rfl
  | loses =>
    rw [ReconnectTimer.schedule]
    split <;> rfl

/-- What a call makes of the deadline: a loss arms the timer, but never moves its deadline. -/
theorem Acts.deadline_eq (h : Acts now l c es r l') :
    let step : Step := ⟨now, l, c, es, r, l'⟩
    l'.timer.deadline
      = if step.clears then none
        else l.timer.deadline.or (step.lossAt?.map (· + l.timer.delay)) := by
  cases h with
  | refuses | connects | drops | hears | waits => exact (Option.or_none).symm
  | opens | renews | stops => rfl
  | loses =>
    change (l.timer.schedule now).2.deadline = l.timer.deadline.or (some (now + l.timer.delay))
    rw [ReconnectTimer.schedule]
    cases hd : l.timer.deadline with
    | none => rfl
    | some d => exact hd

/-- A link that comes to rest has a deadline, unless it was at rest and was not told to connect. -/
theorem Acts.idle (h : Acts now l c es r l') (hidle : l'.state = .idle) :
    l'.timer.deadline.isSome = true ∨ l' = l ∧ c ≠ .connect := by
  cases h with
  | refuses hdown =>
    rw [hdown] at hidle
    cases hidle
  | connects | renews | opens | stops => cases hidle
  | drops | hears | waits => exact .inr ⟨rfl, nofun⟩
  | loses =>
    refine .inl ?_
    change (l.timer.schedule now).2.deadline.isSome = true
    rw [ReconnectTimer.schedule]
    cases hd : l.timer.deadline with
    | none => rfl
    | some d => rw [hd]; rfl

/-- Nothing leaves the end. -/
theorem Acts.down (h : Acts now l c es r l') (hdown : l.state = .shutdown) :
    l'.state = .shutdown := by
  cases h with
  | refuses | drops | waits => exact hdown
  | connects hup | opens hup | hears hup | loses hup | renews hup => exact absurd hdown hup
  | stops => rfl

/-- An event of an earlier attempt changes nothing. -/
theorem Acts.stale {e : LinkEvent} (h : Acts now l (.accept e) es r l')
    (hg : e.generation ≠ l.generation) : l' = l ∧ es = [] ∧ r = .update none := by
  cases h with
  | drops => exact ⟨rfl, rfl, rfl⟩
  | opens | hears | loses => exact absurd rfl hg

/-- Sending fails for want of a connection exactly where the link is not open. -/
theorem Sound.send_eq_notConnected_iff (hl : l.Sound) {ω : Type} [World ω] (e : Envelope) (w : ω) :
    (l.send e w).1 = .error .notConnected ↔ l.state ≠ .opened := by
  by_cases hopen : l.state = .opened
  · obtain ⟨socket, hsocket⟩ := Option.isSome_iff_exists.mp (hl.socket.mpr hopen)
    have hsend : (l.send e w).1
        = if (World.write socket e.text w).1 then .ok () else .error .channelClosed := by
      rw [send, hopen, hsocket]
      rfl
    rw [hsend]
    split <;> simp [hopen]
  · have hsend : l.send e w = (.error .notConnected, w) := by
      rw [send]
      cases hstate : l.state with
      | opened => exact absurd hstate hopen
      | idle | connecting | shutdown => rfl
    rw [hsend]
    exact iff_of_true rfl hopen

/-! ## The result -/

/-- What is said of a link that waits for `delay` before it connects again. -/
structure Renewed (delay : ℕ) (steps : List Step) (l : RelayLink) : Prop where
  /-- There is a socket to write to exactly while the link is open, -/
  socket : l.socket.isSome = true ↔ l.state = .opened
  /-- and exactly then a message can be sent. -/
  send : ∀ (ω : Type) [World ω] (e : Envelope) (w : ω),
    (l.send e w).1 = .error .notConnected ↔ l.state ≠ .opened
  /-- A link that was told to connect rests only for a time, -/
  idle : (∃ step ∈ steps, step.call = .connect) → l.state = .idle → l.timer.isPending = true
  /-- and one that is open or shut down waits for nothing. -/
  disarmed : l.state = .opened ∨ l.state = .shutdown → l.timer.deadline = none
  /-- The link waits from the first loss since the timer was last cleared. -/
  deadline : l.timer.deadline = (losses steps).head?.map (· + delay)
  /-- What another attempt reports changes nothing. -/
  stale : ∀ step ∈ steps, ∀ e, step.call = .accept e → e.generation ≠ step.before.generation →
    step.after = step.before ∧ step.made = [] ∧ step.outcome = .update none
  /-- What is shut down stays so. -/
  down : ∀ step ∈ steps, step.after.state = .shutdown → l.state = .shutdown

variable {url : String} {delay : ℕ} {steps : List Step}

/-- A link is sound between two calls. -/
theorem Run.sound (hr : Run url delay steps l) : l.Sound := by
  induction hr with
  | start => exact ⟨by simp [new], by simp [new]⟩
  | call _ hmay ih =>
    have hacts := hmay.spec fun _ _ => yields_run (fun hdown => ih.disarmed (.inr hdown)) _
    exact hacts.sound ih

/-- Every call of a run does what `Acts` says. -/
theorem Run.acts (hr : Run url delay steps l) (hmay : May (fun _ _ => c.run now l) es (r, l')) :
    Acts now l c es r l' :=
  hmay.spec fun _ _ => yields_run (fun hdown => hr.sound.disarmed (.inr hdown)) c

/-- **The deadline is the first loss with the delay added**, however often the loss is reported. -/
theorem Run.deadline_eq (hr : Run url delay steps l) :
    l.timer.delay = delay ∧ l.timer.deadline = (losses steps).head?.map (· + delay) := by
  induction hr with
  | start => exact ⟨rfl, rfl⟩
  | call before hmay ih =>
    obtain ⟨hdelay, hdeadline⟩ := ih
    have hacts := before.acts hmay
    refine ⟨hacts.delay_eq.trans hdelay, ?_⟩
    rw [hacts.deadline_eq, losses_concat, hdelay, hdeadline]
    split
    · rfl
    · rw [List.head?_append, Option.map_or, Option.head?_toList]

/-- A link that rests has its timer armed, once it was told to connect. -/
theorem Run.pending (hr : Run url delay steps l) (hused : ∃ step ∈ steps, step.call = .connect)
    (hidle : l.state = .idle) : l.timer.isPending = true := by
  induction hr with
  | start => simp at hused
  | call before hmay ih =>
    rcases (before.acts hmay).idle hidle with hpending | ⟨rfl, hc⟩
    · exact hpending
    · obtain ⟨step, hstep, hconnect⟩ := hused
      rcases List.mem_append.mp hstep with hstep | hstep
      · exact ih ⟨step, hstep, hconnect⟩ hidle
      · obtain rfl := List.mem_singleton.mp hstep
        exact absurd hconnect hc

/-- Events of earlier attempts change nothing in a run. -/
theorem Run.stale (hr : Run url delay steps l) {step : Step} (hstep : step ∈ steps) {e : LinkEvent}
    (he : step.call = .accept e) (hg : e.generation ≠ step.before.generation) :
    step.after = step.before ∧ step.made = [] ∧ step.outcome = .update none := by
  induction hr with
  | start => cases hstep
  | call before hmay ih =>
    rcases List.mem_append.mp hstep with hstep | hstep
    · exact ih hstep
    · obtain rfl := List.mem_singleton.mp hstep
      obtain rfl := he
      exact (before.acts hmay).stale hg

/-- Once shut down a link stays so. -/
theorem Run.down (hr : Run url delay steps l) {step : Step} (hstep : step ∈ steps)
    (hdown : step.after.state = .shutdown) : l.state = .shutdown := by
  induction hr with
  | start => cases hstep
  | call before hmay ih =>
    rcases List.mem_append.mp hstep with hstep | hstep
    · exact (before.acts hmay).down (ih hstep)
    · obtain rfl := List.mem_singleton.mp hstep
      exact hdown

/-- **The link is never stranded.** -/
theorem Run.renewed (hr : Run url delay steps l) : Renewed delay steps l where
  socket := hr.sound.socket
  send _ _ := hr.sound.send_eq_notConnected_iff
  idle := hr.pending
  disarmed := hr.sound.disarmed
  deadline := hr.deadline_eq.2
  stale _ hstep _ := hr.stale hstep
  down _ hstep := hr.down hstep

/-- A connection opens and is lost; the loss is reported twice, and something else late. -/
def sampleSteps : List Step :=
  let first := (RelayLink.new "ws://relay" 3000).play 0 .connect
  let second := first.after.play 5 (.accept ⟨1, .opened 7⟩)
  let third := second.after.play 10 (.accept ⟨1, .closed "reset"⟩)
  let fourth := third.after.play 12 (.accept ⟨1, .closed "reset"⟩)
  [first, second, third, fourth, fourth.after.play 20 (.accept ⟨0, .opened 8⟩)]

/-- The link of the sample rests until its delay after the first loss is over. -/
theorem renewed_sampleSteps : ∃ l, Run "ws://relay" 3000 sampleSteps l ∧ Renewed 3000 sampleSteps l
    ∧ l.state = .idle ∧ l.timer.deadline = some 3010 := by
  have hstart : Run "ws://relay" 3000 [] (.new "ws://relay" 3000) := .start
  have hlost := ((hstart.play 0 .connect).play 5 (.accept ⟨1, .opened 7⟩)).play 10
    (.accept ⟨1, .closed "reset"⟩)
  have hr := (hlost.play 12 (.accept ⟨1, .closed "reset"⟩)).play 20 (.accept ⟨0, .opened 8⟩)
  exact ⟨_, hr, hr.renewed, rfl, rfl⟩

end

end RelayLink

end CameraViewer.Link
