import CameraViewer.Proofs.Session.Endings
import CameraViewer.Proofs.Transfer.Courses

/-!
# Proofs/Session/Uploads — files outlive sessions

A supervisor keeps its transfer queue from one session to the next. `Run.keepsFiles`: whatever
becomes of sessions and channels, what the viewer is told of files are the reports of one queue that
was given all accepted files, in order (`TransferQueue.KeepsTrack`), and where a session or a
channel ends, only the file on its way is given up (`OnlyActiveFails`).
-/

namespace CameraViewer.Session

open Channel Config Control Link Negotiation Peer Signal Transfer World

namespace Supervisor

/-- The files a call gives to the queue: that of a command to send one, if it is not empty. -/
def Call.clips : Call → List TransferJob
  | .command (.sendClip name mime data) => (TransferJob.new name mime data).toOption.toList
  | _ => []

/-- The files given to the queue in a run, in order. -/
def clips (steps : List Step) : List TransferJob := steps.flatMap fun step => step.call.clips

/-- The session ends with the step, or its channel closed before it. -/
inductive LosesChannel (step : Step) : Prop
  /-- The channel of the current session closed. -/
  | channelClosed {n : ℕ} (hs : step.before.sessionId = some n)
    (hcall : step.call = .peer ⟨n, .channelClosed step.before.config.channelLabel⟩)
  /-- The session is not the current one any more. -/
  | ended {n : ℕ} (hs : step.before.sessionId = some n) (hend : step.after.sessionId ≠ some n)

/-- Only the file on its way is given up. -/
structure OnlyActiveFails (step : Step) : Prop where
  /-- It is all that the viewer is told of. -/
  updates : updatesIn step.made
    = (step.before.transfers.active.map fun a =>
        a.progress (.failed TransferError.channelClosed.message)).toList
  /-- None is on its way afterwards. -/
  active : step.after.transfers.active = none
  /-- Those that wait go on waiting. -/
  waiting : step.after.transfers.waiting = step.before.transfers.waiting

section
variable {P : Grant} {l : RelayLink} {s s' : Supervisor} {es : List Entry} {config : ClientConfig}

/-! ## Moves of the queue

The calls of the queue that a supervisor makes are a run of that queue, so what is known of its runs
holds here. -/

/-- Giving up the file on its way is a call of the queue. -/
theorem GivesUpActive.ran (h : GivesUpActive s es s') :
    s.transfers.Ran .channelClosed [] (updatesIn es) s'.transfers := by
  rw [h.updates, h.transfers]
  exact ⟨_, _, _, _, _, .closed, .refl _, rfl, (List.append_nil _).symm⟩

/-- What a call of the queue reports is told. -/
theorem updatesIn_ran {q q' : TransferQueue} {c : TransferQueue.Call} {rs : List TransferProgress}
    (h : q.Ran c es rs q') : updatesIn (es ++ shownTransfers rs) = rs := by
  rw [updatesIn_append, updatesIn_backstage (backstage_asks h.entries), updatesIn_shownTransfers,
    List.nil_append]

/-- **A move leaves the queue alone, or calls it**, and the viewer is told what the queue reports.
-/
theorem Move.handles (hr : s.Ready) (h : Move P l s es s') :
    updatesIn es = [] ∧ s'.transfers = s.transfers
      ∨ ∃ c fs, c.Admissible s.transfers ∧ s.transfers.Ran c fs (updatesIn es) s'.transfers
        ∧ fs.Sublist es := by
  cases h with
  | servers | control | recording | channel | clear | catalog | talkDenied | talkRefused | refused
  | created => exact .inl ⟨rfl, rfl⟩
  | @tell e he =>
    cases e with
    | transfer => exact he.elim
    | _ => exact .inl ⟨rfl, rfl⟩
  | send _ h | candidate _ _ h => exact .inl ⟨updatesIn_backstage h.backstage, rfl⟩
  | negotiate _ _ h | report _ h => exact .inl ⟨by simp [updatesIn_negotiation l h.entries], rfl⟩
  | degrade _ h =>
    refine .inl ⟨?_, rfl⟩
    simp only [updatesIn_append, updatesIn_negotiation l h.entries, updatesIn_shownChange,
      updatesIn_releases]
    rfl
  | talkFailed _ _ source hstart hoffer hstop =>
    refine .inl ⟨?_, rfl⟩
    rw [updatesIn_cons rfl, updatesIn_cons rfl]
    simp [updatesIn_backstage hstart.backstage, updatesIn_backstage hstop.backstage,
      updatesIn_negotiation l hoffer.entries]
  | talkStarted _ _ source hstart hoffer =>
    refine .inl ⟨?_, rfl⟩
    rw [updatesIn_cons rfl, updatesIn_cons rfl]
    simp only [updatesIn_append, updatesIn_backstage hstart.backstage,
      updatesIn_negotiation l hoffer.entries]
    rfl
  | talkStopped _ _ hstop =>
    refine .inl ⟨?_, rfl⟩
    simp only [updatesIn_append, updatesIn_stops, updatesIn_backstage hstop.backstage]
    rfl
  | @enqueue job es rs q _ hjob h =>
    refine .inr ⟨.enqueue job, es, hjob, ?_, List.sublist_append_left _ _⟩
    rwa [updatesIn_ran h]
  | @drained live es rs q _ _ h =>
    refine .inr ⟨.bufferedAmountLow, es, trivial, ?_, List.sublist_append_left _ _⟩
    rwa [updatesIn_ran h]
  | @attach live c es rs q hs _ hnew _ _ h =>
    have hdetached : s.transfers.channel = none := by
      refine hr.detached ?_
      rw [hs]
      rintro _ ⟨⟩
      exact hnew
    refine .inr ⟨.attach c (s.maxMessageOf live.machine), es, hdetached, ?_,
      List.sublist_append_left _ _⟩
    rwa [updatesIn_ran h]
  | collapse _ h _ _ hend =>
    refine .inr ⟨.channelClosed, [], trivial, ?_, List.nil_sublist _⟩
    rw [updatesIn_append, updatesIn_append, updatesIn_negotiation l h.entries,
      updatesIn_shownChange]
    exact hend.givesUpActive.ran
  | detach =>
    exact .inr ⟨.channelClosed, [], trivial, GivesUpActive.ran ⟨updatesIn_shownTransfers _, rfl⟩,
      List.nil_sublist _⟩
  | teardown _ h =>
    exact .inr ⟨.channelClosed, [], trivial, h.givesUpActive.ran, List.nil_sublist _⟩

/-- The queue of a supervisor on its trail: the viewer was told what it reported, and what it asked
stands in the record. -/
structure Tracks (config : ClientConfig) (h : TransferQueue.History) (s : Supervisor)
    (record : List Entry) : Prop where
  trail : TransferQueue.Trail config.limits h
  queue_eq : h.queue = s.transfers
  reports_eq : h.reports = updatesIn record
  asked : h.record.Sublist record

/-- The queue is called, and the viewer is told what it reports. -/
theorem Tracks.called {h : TransferQueue.History} {record fs : List Entry}
    (ht : Tracks config h s record) {c : TransferQueue.Call} (hc : c.Admissible s.transfers)
    (hran : s.transfers.Ran c fs (updatesIn es) s'.transfers) (hsub : fs.Sublist es) :
    Tracks config (h.extend [c] fs (updatesIn es) s'.transfers) s' (record ++ es) := by
  rw [← ht.queue_eq] at hc hran
  refine ⟨ht.trail.ran hc hran, rfl, ?_, ht.asked.append hsub⟩
  rw [updatesIn_append, ← ht.reports_eq]
  rfl

/-- **Moves are a trail of the queue.** -/
theorem Moves.tracks (hr : s.Ready) (hm : Moves P l s es s') {h : TransferQueue.History}
    {record : List Entry} (ht : Tracks config h s record) :
    ∃ h', Tracks config h' s' (record ++ es)
      ∧ TransferQueue.accepted h.calls <+: TransferQueue.accepted h'.calls := by
  induction hm generalizing h record with
  | refl => exact ⟨h, by rwa [List.append_nil], List.prefix_rfl⟩
  | @step s s₁ s' es fs first rest ih =>
    rw [← List.append_assoc]
    rcases first.handles hr with ⟨hnone, hsame⟩ | ⟨c, gs, hc, hran, hsub⟩
    · refine ih (hr.move first) ⟨ht.trail, ht.queue_eq.trans hsame.symm, ?_, ?_⟩
      · rw [updatesIn_append, hnone, List.append_nil, ht.reports_eq]
      · exact ht.asked.trans (List.sublist_append_left _ _)
    · obtain ⟨h', ht', hgrown⟩ := ih (hr.move first) (ht.called hc hran hsub)
      refine ⟨h', ht', List.IsPrefix.trans ?_ hgrown⟩
      simp [TransferQueue.History.extend]

/-- A command to send a file gives it to the queue. -/
theorem yields_sendClip_ran {ω : Type} [World ω] (name mime : String) (data : Payload)
    (hr : s.Ready) {job : TransferJob} (hjob : TransferJob.new name mime data = .ok job) :
    Yields (ω := ω) (s.sendClip name mime data) fun es s' => ∃ fs rs,
      s.transfers.Ran (.enqueue job) fs rs s'.transfers ∧ es = fs ++ shownTransfers rs := by
  rw [sendClip, hjob]
  have hmade : TransferQueue.Call.Made (.enqueue job) := ⟨name, mime, data, hjob⟩
  refine (TransferQueue.yields_run hr.settled hmade).bind fun es r h =>
    (yields_tellTransfers r.1).bind_eq_pure fun _ => ⟨es, r.1, h, rfl⟩

/-- An empty file is not given to the queue. -/
theorem stays_sendClip {ω : Type} [World ω] {name mime : String} {data : Payload}
    {e : TransferError} (hempty : TransferJob.new name mime data = .error e) (s : Supervisor) :
    Returns (σ := ω) (s.sendClip name mime data) (Stays s) := by
  rw [sendClip, hempty]
  exact returns_bind fun _ => returns_pure (.refl s)

/-- Where no number was given, no file was. -/
theorem Moves.tracks_of_nextId (hr : s.Ready) (hm : Moves P l s es s')
    (hid : s'.transfers.nextId = s.transfers.nextId) {h : TransferQueue.History}
    {record : List Entry} (ht : Tracks config h s record) :
    ∃ h', Tracks config h' s' (record ++ es)
      ∧ TransferQueue.accepted h'.calls = TransferQueue.accepted h.calls := by
  obtain ⟨h', ht', hgrown⟩ := hm.tracks hr ht
  refine ⟨h', ht', (hgrown.eq_of_length ?_).symm⟩
  obtain ⟨L, hL⟩ := ht.trail.ledger
  obtain ⟨L', hL'⟩ := ht'.trail.ledger
  have hcount := hL.nextId_eq
  have hcount' := hL'.nextId_eq
  rw [ht.queue_eq] at hcount
  rw [ht'.queue_eq, hid, hcount] at hcount'
  exact Nat.succ_injective hcount'

theorem GivesUpActive.nextId (h : GivesUpActive s es s') :
    s'.transfers.nextId = s.transfers.nextId := by
  rw [h.transfers]
  rfl

/-- Only a command to send a file brings one. -/
theorem Call.clips_eq_nil {c : Call}
    (hclip : ∀ name mime data, c ≠ .command (.sendClip name mime data)) : c.clips = [] := by
  unfold clips
  split
  · exact absurd rfl (hclip _ _ _)
  · rfl

/-- **A run is a trail of one queue**, which is given the files of the run. -/
theorem Run.tracks {steps : List Step} (hr : Run config steps s) :
    ∃ h, Tracks config h s (recordOf steps) ∧ TransferQueue.accepted h.calls = clips steps := by
  induction hr with
  | start => exact ⟨_, ⟨.start, rfl, rfl, List.Sublist.refl _⟩, rfl⟩
  | @call steps s s' link c es before hmay ih =>
    obtain ⟨h, ht, hclips⟩ := ih
    have hready := before.trail.ready
    have hmoves := hmay.spec fun ω _ => yields_run link hready c
    rw [recordOf_append, recordOf_singleton, clips, List.flatMap_append, List.flatMap_singleton]
    change ∃ h', Tracks config h' s' (recordOf steps ++ es)
      ∧ TransferQueue.accepted h'.calls = clips steps ++ c.clips
    rw [← hclips]
    have hquiet : s'.transfers.nextId = s.transfers.nextId → c.clips = [] →
        ∃ h', Tracks config h' s' (recordOf steps ++ es)
          ∧ TransferQueue.accepted h'.calls = TransferQueue.accepted h.calls ++ c.clips := by
      intro hid hnone
      rw [hnone, List.append_nil]
      exact hmoves.tracks_of_nextId hready hid ht
    by_cases hclip : ∃ name mime data, c = .command (.sendClip name mime data)
    · obtain ⟨name, mime, data, rfl⟩ := hclip
      cases hjob : TransferJob.new name mime data with
      | error e =>
        have hstays := hmay.returns fun ω _ => stays_sendClip hjob s
        exact hquiet hstays.nextId (by simp [Call.clips, hjob, Except.toOption])
      | ok job =>
        obtain ⟨fs, rs, hran, rfl⟩ :=
          hmay.spec fun ω _ => yields_sendClip_ran name mime data hready hjob
        have hadmissible : TransferQueue.Call.Admissible s.transfers (.enqueue job) :=
          ⟨name, mime, data, hjob⟩
        have hshown := updatesIn_ran hran
        refine ⟨_, ht.called hadmissible (by rwa [hshown]) (List.sublist_append_left _ _), ?_⟩
        simp [TransferQueue.History.extend, TransferQueue.accepted, Call.clips, hjob,
          Except.toOption]
    · have hother : ∀ name mime data, c ≠ .command (.sendClip name mime data) :=
        fun name mime data h => hclip ⟨name, mime, data, h⟩
      have hfate := sessionChange_of_may hready before.trail.tellsHistories.2 hother hmay
      rcases hfate.stays_or_givesUpActive with ⟨hstays, -⟩ | hgives
      · exact hquiet hstays.nextId (Call.clips_eq_nil hother)
      · exact hquiet hgives.nextId (Call.clips_eq_nil hother)

/-! ## Where something ends -/

/-- What gives up the file on its way gives up no other. -/
theorem GivesUpActive.onlyActiveFails {step : Step}
    (h : GivesUpActive step.before step.made step.after) : OnlyActiveFails step where
  updates := h.updates
  active := by rw [h.transfers]; rfl
  waiting := by rw [h.transfers]; rfl

/-- The channel of the current session closed. -/
theorem givesUpActive_channelClosed {ω : Type} [World ω] (link : RelayLink) {live : LiveSession}
    (hs : s.session = some live) :
    Yields (ω := ω) (s.onPeerEvent link ⟨live.id, .channelClosed s.config.channelLabel⟩)
      (GivesUpActive s) := by
  rw [onPeerEvent, hs]
  show Yields (if live.id = live.id then _ else _) _
  rw [if_pos rfl, onReport, if_neg (not_not.mpr rfl)]
  refine (yields_tellTransfers _).bind_eq_pure fun _ => ⟨updatesIn_shownTransfers _, rfl⟩

/-- **Where a session or its channel ends, only the file on its way is given up.** -/
theorem Run.onlyActiveFails {steps : List Step} (hr : Run config steps s) {step : Step}
    (hmem : step ∈ steps) (hloses : LosesChannel step) : OnlyActiveFails step := by
  obtain ⟨earlier, later, rfl⟩ := List.append_of_mem hmem
  obtain ⟨hrun, hmay⟩ := hr.split rfl
  obtain ⟨s, link, c, es, s'⟩ := step
  have hready := hrun.trail.ready
  have hgoes := hrun.trail.tellsHistories.2
  cases hloses with
  | @channelClosed n hs hcall =>
    obtain rfl : c = .peer ⟨n, .channelClosed s.config.channelLabel⟩ := hcall
    obtain ⟨live, hlive, rfl⟩ := Option.map_eq_some_iff.mp hs
    exact (hmay.spec fun ω _ => givesUpActive_channelClosed link hlive).onlyActiveFails
  | @ended n hs hend =>
    obtain ⟨live, hlive, -⟩ := Option.map_eq_some_iff.mp hs
    by_cases hclip : ∃ name mime data, c = .command (.sendClip name mime data)
    · obtain ⟨name, mime, data, rfl⟩ := hclip
      have hsame : s'.session = s.session :=
        hmay.returns fun ω _ => session_sendClip name mime data s
      exact absurd ((congrArg _ hsame).trans hs) hend
    have hother : ∀ name mime data, c ≠ .command (.sendClip name mime data) :=
      fun name mime data h => hclip ⟨name, mime, data, h⟩
    rcases (sessionChange_of_may hready hgoes hother hmay).stays_or_givesUpActive with
      ⟨hstays, hfirst⟩ | hgives
    · have hmoves := hmay.spec fun ω _ => yields_run link hready c
      have hopen : c ≠ .linkOpen := fun h => absurd (hlive.symm.trans (hfirst h)) nofun
      exact absurd (hstays.sessionId_eq hgoes hmoves hopen hs) hend
    · exact hgives.onlyActiveFails

/-- What becomes of the files in a run. -/
structure KeepsFiles (steps : List Step) (s : Supervisor) : Prop where
  /-- The viewer sees the reports of one queue that was given them all. -/
  tracked : TransferQueue.KeepsTrack (clips steps) (updatesIn (recordOf steps)) s.transfers
  /-- Where a session or its channel ends, only the file on its way is given up. -/
  spared : ∀ step ∈ steps, LosesChannel step → OnlyActiveFails step

/-- **No file is lost, or reported twice**, whatever becomes of sessions and channels. -/
theorem Run.keepsFiles {steps : List Step} (hr : Run config steps s) : KeepsFiles steps s := by
  obtain ⟨h, ⟨htrail, hqueue, hreports, -⟩, hclips⟩ := hr.tracks
  refine ⟨?_, fun step hmem hloses => hr.onlyActiveFails hmem hloses⟩
  rw [← hclips, ← hqueue, ← hreports]
  exact htrail.keepsTrack

/-- A configuration under which no chunk fits into a message. -/
def narrowConfig : ClientConfig := { limits := { localMax := 0 } }

theorem size_singleton_lt (byte : UInt8) : (#[byte] : Bytes).size < UInt64.size := by
  simp [UInt64.size]

/-- A file of one byte. -/
def oneByte (byte : UInt8) : Payload := ⟨#[byte], size_singleton_lt byte⟩

/-- A command to send a file. -/
def clipCall (name : String) (bytes : Payload) : Call := .command (.sendClip name "audio/wav" bytes)

/-- The channel that files go over has opened. -/
def openCall : Call := .peer ⟨1, .channelOpen ⟨1, narrowConfig.channelLabel⟩⟩

/-- Two files, the second of them empty; a session whose channel opens; another file when the
session was stopped. -/
def narrowSteps : List Step :=
  let given := play (new narrowConfig) sampleLink (clipCall "a.wav" (oneByte 1))
  let refused := given.after.play sampleLink (clipCall "b.wav" default)
  let opened := refused.after.play sampleLink .linkOpen
  let connected := opened.after.play sampleLink (.peer ⟨1, .connectivity .connected⟩)
  let channel := connected.after.play sampleLink openCall
  let stopped := channel.after.play sampleLink (.command .stop)
  [given, refused, opened, connected, channel, stopped,
    stopped.after.play sampleLink (clipCall "c.wav" (oneByte 2))]

/-- The first file is refused by the channel, and the last one waits for another. -/
theorem keepsFiles_narrowSteps : ∃ s, Run narrowConfig narrowSteps s ∧ KeepsFiles narrowSteps s
    ∧ (clips narrowSteps).map (·.name) = ["a.wav", "c.wav"]
    ∧ (updatesIn (recordOf narrowSteps)).map (·.id) = [1, 1, 2]
    ∧ s.transfers.waiting.map Prod.fst = [2] := by
  have hstart : Run narrowConfig [] (new narrowConfig) := .start
  have hgiven := hstart.play sampleLink (clipCall "a.wav" (oneByte 1))
  have hrefused := hgiven.play sampleLink (clipCall "b.wav" default)
  have hopened := hrefused.play sampleLink .linkOpen
  have hconnected := hopened.play sampleLink (.peer ⟨1, .connectivity .connected⟩)
  have hchannel := hconnected.play sampleLink openCall
  have hstopped := hchannel.play sampleLink (.command .stop)
  have hr := hstopped.play sampleLink (clipCall "c.wav" (oneByte 2))
  exact ⟨_, hr, hr.keepsFiles, by decide, by decide, by decide⟩

end

end Supervisor

end CameraViewer.Session
