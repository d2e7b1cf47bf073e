import CameraViewer.Proofs.Session.Channels

/-!
# Proofs/Session/Discarded — a session that is over can do nothing any more

Wherever reports of its peer are put in, everything goes on as without them, whatever the world is
like (`runCalls_of_interspersed`). Nothing is asked of its peer and nothing is sent over its
channels, and no other session gets its number (`Run.powerless`).
-/

namespace CameraViewer.Session

open Config Link Negotiation Peer Signal Transfer World

namespace Supervisor

/-! ## Runs with reports put in -/

/-- Calls one after the other, each over its link. -/
def runCalls {ω : Type} [World ω] : List (RelayLink × Call) → Supervisor → StateM ω Supervisor
  | [], s => pure s
  | (link, c) :: rest, s => do
    let s ← c.run link s
    runCalls rest s

/-- The second list is the first one with reports of the peer of a session put in. -/
inductive Interspersed (id : ℕ) : List (RelayLink × Call) → List (RelayLink × Call) → Prop
  | nil : Interspersed id [] []
  | cons {xs ys : List (RelayLink × Call)} (x : RelayLink × Call) (h : Interspersed id xs ys) :
    Interspersed id (x :: xs) (x :: ys)
  | report {xs ys : List (RelayLink × Call)} (link : RelayLink) (e : PeerEvent)
    (h : Interspersed id xs ys) : Interspersed id xs ((link, .peer ⟨id, e⟩) :: ys)

/-! ## Discarded sessions

A session that was asked for and is not current is gone, so what its peer reports falls through the
guard of every report. -/

/-- The session was asked for, and is not the current one. -/
structure Discarded (steps : List Step) (s : Supervisor) (id : ℕ) : Prop where
  asked : ∃ created, (id, created) ∈ creations (recordOf steps)
  other : s.sessionId ≠ some id

section
variable {s s' : Supervisor} {config : ClientConfig} {steps : List Step} {id : ℕ}

/-- A discarded session of a run is gone. -/
theorem Discarded.gone (h : Discarded steps s id) (hr : Run config steps s) : Gone id s := by
  obtain ⟨created, hasked⟩ := h.asked
  exact ⟨hr.trail.tellsHistories.1.asked_le _ hasked, h.other⟩

/-- **What is put in of a session that is gone makes no difference.** -/
theorem runCalls_of_interspersed {ω : Type} [World ω] {xs ys : List (RelayLink × Call)}
    (h : Interspersed id xs ys) (hr : s.Ready) (ha : s.LatestOngoing) (hg : Gone id s) :
    runCalls (ω := Recorded ω) ys s = runCalls xs s := by
  induction h generalizing s with
  | nil => rfl
  | cons x _ ih =>
    obtain ⟨link, c⟩ := x
    funext t
    obtain ⟨es, -, hmoves⟩ := yields_run link hr c t
    exact congrFun (ih (hr.moves hmoves) (hmoves.latestOngoing ha) (hmoves.gone ha hg).1) _
  | report link e _ ih =>
    rw [runCalls, Call.run, onPeerEvent_of_other hg.other, pure_bind]
    exact ih hr ha hg

/-- A session that was the current one was asked for. -/
theorem Run.mem_creations (hr : Run config steps s) {live : LiveSession}
    (hs : s.session = some live) :
    (live.id, true) ∈ creations (recordOf steps) :=
  (hr.trail.tellsHistories.1.created_iff live.id).mpr (hr.trail.current hs).ne_nil

/-- What is said of discarded sessions in a run. -/
structure Powerless (steps : List Step) (s : Supervisor) : Prop where
  /-- A session is discarded when it is replaced or stopped, when all ends, and when its peer
  reports that it is closed. -/
  discarded : ∀ before step later live, steps = before ++ step :: later →
    step.before.session = some live → step.call.Ends live →
      Discarded (before ++ [step]) step.after live.id
  /-- Then it makes no difference where its peer reports what, -/
  deaf : ∀ id, Discarded steps s id → ∀ (ω : Type) [World ω] xs ys, Interspersed id xs ys →
    runCalls (ω := Recorded ω) ys s = runCalls xs s
  /-- the peer is asked for nothing, and the channels that are used opened in another session. -/
  apart : ∀ before step later id, steps = before ++ step :: later →
    Discarded before step.before id → ∀ e ∈ step.made,
      addressee? e ≠ some id
        ∧ ∀ ch, usedChannel? e = some ch → ∃ n, n ≠ id ∧ OpenedIn (before ++ [step]) n ch
  /-- No number is given twice, be there a peer or not. -/
  fresh : (creations (recordOf steps)).Pairwise fun x y => x.1 < y.1

/-- **A discarded session can do nothing any more.** -/
theorem Run.powerless (hr : Run config steps s) : Powerless steps s := by
  refine ⟨?_, ?_, ?_, hr.trail.tellsHistories.1.increasing⟩
  · rintro before ⟨t, l, c, es, t'⟩ later live hsteps hs hends
    obtain ⟨hrun, hmay⟩ := hr.split hsteps
    have hclip : ∀ name mime data, c ≠ .command (.sendClip name mime data) := by
      rintro name mime data rfl
      cases hends
    refine ⟨⟨true, ?_⟩, ?_⟩
    · rw [recordOf_append, creations_append]
      exact List.mem_append_left _ (hrun.mem_creations hs)
    · have ha := hrun.trail.tellsHistories.2
      exact (sessionChange_of_may hrun.trail.ready ha hclip hmay).over ha hs hends
  · intro id hid ω _ xs ys h
    exact runCalls_of_interspersed h hr.trail.ready hr.trail.tellsHistories.2 (hid.gone hr)
  · rintro before ⟨t, l, c, es, t'⟩ later id hsteps hid e he
    obtain ⟨hrun, hmay⟩ := hr.split hsteps
    have hmoves := hmay.spec fun ω _ => yields_run l hrun.trail.ready c
    obtain ⟨hgone, hasked⟩ := hmoves.gone hrun.trail.tellsHistories.2 (hid.gone hrun)
    refine ⟨hasked e he, fun ch hused => ?_⟩
    have hch := (hrun.serves hmay).used he hused
    obtain ⟨live, hs, hopened, -⟩ := (hrun.call hmay).channelsAgree.queue ch hch
    refine ⟨live.id, ?_, hopened⟩
    rintro rfl
    exact hgone.other (sessionId_of_eq_some hs)

/-- The session of the first opening of the link is replaced at the second; late reports of its peer
are a closed connection, a channel and a candidate. -/
def lateSteps : List Step :=
  let first := play (new {}) sampleLink .linkOpen
  let second := first.after.play sampleLink .linkOpen
  let third := second.after.play sampleLink (.peer ⟨1, .connectivity .closed⟩)
  let fourth := third.after.play sampleLink (.peer ⟨1, .channelOpen fileChannel⟩)
  [first, second, third, fourth,
    fourth.after.play sampleLink (.peer ⟨1, .localCandidate (.ofText "late")⟩)]

/-- The first session of the sample is discarded, and the second one is the current one. -/
theorem powerless_lateSteps : ∃ s, Run {} lateSteps s ∧ Powerless lateSteps s
    ∧ Discarded lateSteps s 1 ∧ s.sessionId = some 2
    ∧ creations (recordOf lateSteps) = [(1, true), (2, true)]
    ∧ closings (recordOf lateSteps) = [1] := by
  have hstart : Run {} [] (new {}) := .start
  have hfirst := hstart.play sampleLink .linkOpen
  have hsecond := hfirst.play sampleLink .linkOpen
  have hthird := hsecond.play sampleLink (.peer ⟨1, .connectivity .closed⟩)
  have hfourth := hthird.play sampleLink (.peer ⟨1, .channelOpen fileChannel⟩)
  have hr := hfourth.play sampleLink (.peer ⟨1, .localCandidate (.ofText "late")⟩)
  exact ⟨_, hr, hr.powerless, ⟨⟨true, by decide⟩, by decide⟩, by decide, by decide, by decide⟩

end

end Supervisor

end CameraViewer.Session
