import CameraViewer.Proofs.Transfer.Runs
import CameraViewer.Rehearsal.Channel
import Mathlib.Logic.Function.Basic

/-!
# Proofs/Transfer/Draining — a paused job is woken

`ScriptedChannels` are channels that follow a script, with the reports that some of them have
drained and that nobody was told of yet. Between any two requests of the queue channels may drain,
close, or begin to fail (`AnswersAll`). `ScriptedRun.paused_wakes`: wherever that leads, a paused
job still has bytes above its low mark in the channel, or the report that they are gone is on its
way.

Two invariants carry this. `ReportsAtLowMark` holds all along: the low mark of the channel is that
of the active job. `WakesPaused` is what a paused job needs on top of it. The delivery of a report
may break that, but then the queue looks at the channel again, and `ReportsAtLowMark` is enough to
restore it.
-/

namespace CameraViewer

open Peer World Transfer

/-! ## What a channel keeps

A channel reports when its bytes fall to the low mark, so it matters who may change the mark and who
listens. -/

namespace Rehearsal.ScriptedChannel

variable (s : ScriptedChannel)

theorem listener_countSending : s.countSending.listener = s.listener := by
  rw [countSending]
  split <;> rfl

theorem lowMark_countSending : s.countSending.lowMark = s.lowMark := by
  rw [countSending]
  split <;> rfl

theorem listener_push (frame : ChannelFrame) (size : ℕ) :
    (s.push frame size).2.listener = s.listener := by
  rw [push]
  split <;> rfl

theorem lowMark_push (frame : ChannelFrame) (size : ℕ) :
    (s.push frame size).2.lowMark = s.lowMark := by
  rw [push]
  split <;> rfl

/-- No request changes who listens. -/
theorem listener_respond (r : ChannelRequest) : (s.respond r).2.listener = s.listener := by
  cases r with
  | isOpen | bufferedAmount | setLowMark | close => rfl
  | sendText text =>
    rw [respond, sendText]
    split
    · rfl
    · exact s.listener_push ..
  | sendBytes data =>
    rw [respond, sendBytes]
    split
    · exact (listener_countSending _).trans (listener_push ..)
    · rfl
    · exact (listener_countSending _).trans (listener_push ..)

/-- Only setting it changes the low mark. -/
theorem lowMark_respond {r : ChannelRequest} (hr : ∀ n, r ≠ .setLowMark n) :
    (s.respond r).2.lowMark = s.lowMark := by
  cases r with
  | setLowMark n => exact absurd rfl (hr n)
  | isOpen | bufferedAmount | close => rfl
  | sendText text =>
    rw [respond, sendText]
    split
    · rfl
    · exact s.lowMark_push ..
  | sendBytes data =>
    rw [respond, sendBytes]
    split
    · exact (lowMark_countSending _).trans (lowMark_push ..)
    · rfl
    · exact (lowMark_countSending _).trans (lowMark_push ..)

/-- **A channel that falls to its low mark reports it**, if somebody listens. -/
theorem reports_drain {low bytes : ℕ} (hl : s.listener ≠ none) (hmark : s.lowMark = some low)
    (habove : low < s.buffered) (hleft : s.buffered - bytes ≤ low) : (s.drain bytes).1 ≠ [] := by
  obtain ⟨session, hl⟩ := Option.ne_none_iff_exists'.mp hl
  simp [drain, hmark, habove, hleft, report, hl]

end Rehearsal.ScriptedChannel

namespace Transfer

open Rehearsal

/-- Scripted channels, and those whose report that they have drained was not delivered yet, once for
each report. -/
structure ScriptedChannels where
  /-- What a handle stands for. -/
  channel : ChannelHandle → ScriptedChannel
  /-- Reports on their way. -/
  posted : List ChannelHandle := []

namespace ScriptedChannels

/-- One channel becomes another. -/
def set (w : ScriptedChannels) (c : ChannelHandle) (next : ScriptedChannel) : ScriptedChannels :=
  { w with channel := Function.update w.channel c next }

/-- Bytes leave a channel, which may have to report it. -/
def drained (w : ScriptedChannels) (c : ChannelHandle) (bytes : ℕ) : ScriptedChannels :=
  { w.set c ((w.channel c).drain bytes).2 with
    posted := w.posted ++ ((w.channel c).drain bytes).1.map fun _ => c }

/-- Somebody listens to every channel. -/
def Listened (w : ScriptedChannels) : Prop := ∀ c, (w.channel c).listener ≠ none

/-- What channels do by themselves. -/
inductive ChangesUnasked (w : ScriptedChannels) : ScriptedChannels → Prop
  /-- Bytes leave a channel. -/
  | drain (c : ChannelHandle) (bytes : ℕ) : ChangesUnasked w (w.drained c bytes)
  /-- A channel closes. -/
  | close (c : ChannelHandle) : ChangesUnasked w (w.set c (w.channel c).closeNow.2)
  /-- A channel is about to fail. -/
  | plan (c : ChannelHandle) (plan : ChannelPlan) :
    ChangesUnasked w (w.set c { w.channel c with plan })

/-- A request is answered. -/
inductive Answers (w : ScriptedChannels) : Entry → ScriptedChannels → Prop
  /-- A channel answers. -/
  | channel (c : ChannelHandle) (r : ChannelRequest) :
    Answers w (.asked (.channel c r) ((w.channel c).respond r).1)
      (w.set c ((w.channel c).respond r).2)
  /-- A sample is noted. -/
  | noted (sample : Sample) : Answers w (.asked (.note sample) ()) w

/-- Requests are answered one after the other, and the channels change unasked before, between and
after them. -/
inductive AnswersAll : ScriptedChannels → List Entry → ScriptedChannels → Prop
  | rest (w : ScriptedChannels) : AnswersAll w [] w
  | change {w w' w'' : ScriptedChannels} {es : List Entry} (first : ChangesUnasked w w')
    (rest : AnswersAll w' es w'') :
    AnswersAll w es w''
  | answer {w w' w'' : ScriptedChannels} {e : Entry} {es : List Entry} (first : Answers w e w')
    (rest : AnswersAll w' es w'') : AnswersAll w (e :: es) w''

/-- The channels have been in some state between two sequences of requests. -/
theorem AnswersAll.split {w w'' : ScriptedChannels} {es es' : List Entry}
    (h : AnswersAll w (es ++ es') w'') :
    ∃ w', AnswersAll w es w' ∧ AnswersAll w' es' w'' := by
  generalize hall : es ++ es' = all at h
  induction h generalizing es with
  | rest w =>
    obtain ⟨rfl, rfl⟩ := List.append_eq_nil_iff.mp hall
    exact ⟨w, .rest w, .rest w⟩
  | change first _ ih =>
    obtain ⟨v, hv, hv'⟩ := ih hall
    exact ⟨v, .change first hv, hv'⟩
  | @answer w _ _ _ _ first rest ih =>
    cases es with
    | nil =>
      obtain rfl := hall
      exact ⟨w, .rest w, .answer first rest⟩
    | cons f fs =>
      obtain ⟨rfl, hrest⟩ := List.cons.inj hall
      obtain ⟨v, hv, hv'⟩ := ih hrest
      exact ⟨v, .answer first hv, hv'⟩

/-- The first request is answered by the channels as they are by then. -/
theorem AnswersAll.cons {w w' : ScriptedChannels} {e : Entry} {es : List Entry}
    (h : AnswersAll w (e :: es) w') :
    ∃ v v', AnswersAll w [] v ∧ Answers v e v' ∧ AnswersAll v' es w' := by
  generalize hall : e :: es = all at h
  induction h with
  | rest => cases hall
  | change first _ ih =>
    obtain ⟨v, v', hv, ha, hv'⟩ := ih hall
    exact ⟨v, v', .change first hv, ha, hv'⟩
  | answer first rest =>
    obtain ⟨rfl, rfl⟩ := List.cons.inj hall
    exact ⟨_, _, .rest _, first, rest⟩

section
variable {w w' : ScriptedChannels} {c : ChannelHandle} {low n : ℕ} {e : Entry} {es : List Entry}

/-- A change of one channel leaves alone what the new channel shares with it. -/
theorem congr_set {α : Type} (f : ScriptedChannel → α) {d : ChannelHandle} {next : ScriptedChannel}
    (h : f next = f (w.channel d)) : f ((w.set d next).channel c) = f (w.channel c) := by
  by_cases hd : c = d
  · subst hd
    simpa [set] using h
  · simp [set, hd]

theorem ChangesUnasked.listener_eq (hd : ChangesUnasked w w') :
    (w'.channel c).listener = (w.channel c).listener := by
  cases hd <;> exact congr_set (·.listener) rfl

theorem ChangesUnasked.lowMark_eq (hd : ChangesUnasked w w') :
    (w'.channel c).lowMark = (w.channel c).lowMark := by
  cases hd <;> exact congr_set (·.lowMark) rfl

theorem Answers.listener_eq (ha : Answers w e w') :
    (w'.channel c).listener = (w.channel c).listener := by
  cases ha with
  | noted => rfl
  | channel d r => exact congr_set (·.listener) (ScriptedChannel.listener_respond _ r)

theorem Answers.lowMark_eq (ha : Answers w e w')
    (he : ∀ d n, e ≠ .asked (.channel d (.setLowMark n)) ()) :
    (w'.channel c).lowMark = (w.channel c).lowMark := by
  cases ha with
  | noted => rfl
  | channel d r =>
    refine congr_set (·.lowMark) (ScriptedChannel.lowMark_respond _ ?_)
    rintro n rfl
    exact he d n rfl

/-- Whether a channel is open can be asked without changing it. -/
theorem Answers.of_isOpen {b : Bool} (ha : Answers w (.asked (.channel c .isOpen) b) w') :
    w' = w := by
  cases ha
  rw [set, ScriptedChannel.respond, Function.update_eq_self]

/-- And so can how much waits in it. -/
theorem Answers.of_bufferedAmount (ha : Answers w (.asked (.channel c .bufferedAmount) n) w') :
    w' = w ∧ n = (w.channel c).buffered := by
  cases ha
  rw [set, ScriptedChannel.respond, Function.update_eq_self]
  exact ⟨rfl, rfl⟩

/-- The low mark of a channel is what it was set to. -/
theorem Answers.of_setLowMark (ha : Answers w (.asked (.channel c (.setLowMark n)) ()) w') :
    (w'.channel c).lowMark = some n := by
  cases ha
  simp [set, ScriptedChannel.respond]

/-- A request that changes nothing. -/
theorem answers_of_look {r : ChannelRequest} {reply : r.Reply}
    (h : (w.channel c).respond r = (reply, w.channel c)) :
    Answers w (.asked (.channel c r) reply) w := by
  have ha := Answers.channel (w := w) c r
  rwa [h, set, Function.update_eq_self] at ha

/-- Whoever listens to a channel goes on listening. -/
theorem AnswersAll.listened (h : AnswersAll w es w') (hw : w.Listened) : w'.Listened := by
  induction h with
  | rest => exact hw
  | change first _ ih => exact ih fun c => first.listener_eq ▸ hw c
  | answer first _ ih => exact ih fun c => first.listener_eq ▸ hw c

/-- The low mark of a channel stays where none is set. -/
theorem AnswersAll.lowMark_eq (h : AnswersAll w es w')
    (hes : ∀ e ∈ es, ∀ d n, e ≠ .asked (.channel d (.setLowMark n)) ()) :
    (w'.channel c).lowMark = (w.channel c).lowMark := by
  induction h with
  | rest => rfl
  | change first _ ih => exact (ih hes).trans first.lowMark_eq
  | answer first _ ih =>
    obtain ⟨he, hes⟩ := List.forall_mem_cons.mp hes
    exact (ih hes).trans (first.lowMark_eq he)

/-- There are bytes above the low mark of a channel, or the report that there are none is on its
way. -/
structure WillReport (w : ScriptedChannels) (c : ChannelHandle) (low : ℕ) : Prop where
  lowMark : (w.channel c).lowMark = some low
  above : low < (w.channel c).buffered ∨ c ∈ w.posted

/-- **Bytes that drain away are reported.** -/
theorem WillReport.changesUnasked (h : w.WillReport c low) (hw : w.Listened)
    (hd : ChangesUnasked w w') : w'.WillReport c low := by
  refine ⟨hd.lowMark_eq.trans h.lowMark, ?_⟩
  cases hd with
  | close d | plan d plan =>
    refine h.above.imp_left fun habove => habove.trans_eq ?_
    symm
    exact congr_set (·.buffered) rfl
  | drain d bytes =>
    rcases h.above with habove | hposted
    case inr => exact .inr (List.mem_append_left _ hposted)
    by_cases hcd : c = d
    case neg => exact .inl (by simpa [drained, set, hcd] using habove)
    subst hcd
    by_cases hleft : (w.channel c).buffered - bytes ≤ low
    · obtain ⟨e, he⟩ := List.exists_mem_of_ne_nil _
        ((w.channel c).reports_drain (hw c) h.lowMark habove hleft)
      exact .inr (List.mem_append_right _ (List.mem_map_of_mem (f := fun _ => c) he))
    · refine .inl ?_
      simpa [drained, set, ScriptedChannel.drain] using not_le.mp hleft

/-- So it is while the channels change unasked. -/
theorem WillReport.answersAll (h : w.WillReport c low) (hw : w.Listened) (hs : AnswersAll w [] w') :
    w'.WillReport c low := by
  generalize hnone : ([] : List Entry) = es at hs
  induction hs with
  | rest => exact h
  | change first _ ih =>
    exact ih (h.changesUnasked hw first) (fun c => first.listener_eq ▸ hw c) hnone
  | answer => cases hnone

/-- **A channel that was seen with bytes above its low mark will report.** -/
theorem AnswersAll.willReport (hs : AnswersAll w (.asked (.channel c .bufferedAmount) n :: []) w')
    (hw : w.Listened) (hmark : (w.channel c).lowMark = some low) (hn : low < n) :
    w'.WillReport c low := by
  obtain ⟨v, v', hv, ha, hlast⟩ := hs.cons
  obtain ⟨rfl, rfl⟩ := ha.of_bufferedAmount
  have hlow := (hv.lowMark_eq (List.forall_mem_nil _)).trans hmark
  exact WillReport.answersAll ⟨hlow, .inl hn⟩ (hv.listened hw) hlast

end

end ScriptedChannels

namespace TransferQueue

open ScriptedChannels

/-! ## The queue on its channels

A job is paused where its channel was seen full to the high mark, which is above the low mark. From
there on the channel cannot fall to the low mark unreported. -/

/-- Its active job has an attached channel that reports at the low mark of the job, which is below
its high mark. -/
structure ReportsAtLowMark (q : TransferQueue) (w : ScriptedChannels) : Prop where
  listened : w.Listened
  marked : ∀ a ∈ q.active, ∃ c, q.channel = some c
    ∧ (w.channel c).lowMark = some a.watermarks.low ∧ a.watermarks.low < a.watermarks.high

/-- And if the job is paused, the channel has a report to make. -/
structure WakesPaused (q : TransferQueue) (w : ScriptedChannels) :
    Prop extends ReportsAtLowMark q w where
  willReport : ∀ c ∈ q.channel, ∀ a ∈ q.active, a.paused = true → w.WillReport c a.watermarks.low

/-- The high mark of a job is above its low mark, whatever the sizes are. -/
theorem low_lt_high (q : TransferQueue) (job : TransferJob) :
    (q.watermarksFor job).low < (q.watermarksFor job).high := by
  show q.chunkSize < max (min job.total q.limits.maxBuffered) (q.chunkSize + 1)
  omega

section
variable {limits : TransferLimits} {q q' : TransferQueue} {w w' : ScriptedChannels}
  {es : List Entry} {rs : List TransferProgress}

/-- Without an active job there is none to wake. -/
theorem wakesPaused_of_idle (hw : w.Listened) (hidle : q.active = none) : q.WakesPaused w where
  listened := hw
  marked := by simp [hidle]
  willReport := by simp [hidle]

/-- Nor is there one where the active job does not pause. -/
theorem ReportsAtLowMark.wakesPaused (h : q.ReportsAtLowMark w)
    (hp : ∀ a ∈ q.active, a.paused = false) : q.WakesPaused w where
  toReportsAtLowMark := h
  willReport _ _ a ha hpaused := by simp [hp a ha] at hpaused

/-- The low mark of the active job stays where none is set. -/
theorem ReportsAtLowMark.answersAll (h : q.ReportsAtLowMark w) (hs : AnswersAll w es w')
    (hes : ∀ e ∈ es, ∀ d n, e ≠ .asked (.channel d (.setLowMark n)) ()) :
    q.ReportsAtLowMark w' := by
  refine ⟨hs.listened h.listened, fun a ha => ?_⟩
  obtain ⟨c, hc, hmark, hlt⟩ := h.marked a ha
  exact ⟨c, hc, (hs.lowMark_eq hes).trans hmark, hlt⟩

/-- The channels may change unasked. -/
theorem WakesPaused.answersAll (h : q.WakesPaused w) (hs : AnswersAll w [] w') :
    q.WakesPaused w' where
  toReportsAtLowMark := h.toReportsAtLowMark.answersAll hs (List.forall_mem_nil _)
  willReport c hc a ha hp := (h.willReport c hc a ha hp).answersAll h.listened hs

/-- The active job looks different now. -/
theorem ReportsAtLowMark.activate (h : q.ReportsAtLowMark w) {a b : ActiveTransfer}
    (ha : q.active = some a) (hb : b.watermarks = a.watermarks) :
    ReportsAtLowMark { q with active := some b } w where
  listened := h.listened
  marked := by
    rintro _ ⟨⟩
    rw [hb]
    exact h.marked a ha

/-- **A job that pauses will be woken**: the channel was seen full to the high mark. -/
theorem ReportsAtLowMark.pauses (h : q.ReportsAtLowMark w) {c : ChannelHandle}
    {a b : ActiveTransfer} {n : ℕ} (hc : q.channel = some c) (ha : q.active = some a)
    (hn : a.watermarks.low < n) (hb : b.watermarks = a.watermarks)
    (hs : AnswersAll w [.asked (.channel c .bufferedAmount) n] w') :
    WakesPaused { q with active := some b } w' where
  toReportsAtLowMark := (h.answersAll hs (by simp)).activate ha hb
  willReport d hd e he _ := by
    obtain rfl := Option.some.inj (hc.symm.trans hd)
    obtain rfl := Option.some.inj he
    obtain ⟨_, hc', hmark, -⟩ := h.marked a ha
    obtain rfl := Option.some.inj (hc.symm.trans hc')
    rw [hb]
    exact hs.willReport h.listened hmark hn

/-- **After a move a paused job will still be woken.** -/
theorem WakesPaused.move (h : q.WakesPaused w) (hm : Move q es rs q') (hs : AnswersAll w es w') :
    q'.WakesPaused w' := by
  cases hm with
  | look hc isOpen =>
    obtain ⟨v, v', hv, ha, hlast⟩ := hs.cons
    obtain rfl := ha.of_isOpen
    exact (h.answersAll hv).answersAll hlast
  | refuse _ hidle | silence _ hidle => exact wakesPaused_of_idle (hs.listened h.listened) hidle
  | last | broken | lost => exact wakesPaused_of_idle (hs.listened h.listened) rfl
  | @begin c id job started rest hc hidle hw hst =>
    obtain ⟨v, v', hv, ha, hlast⟩ := hs.cons
    have hmark := hlast.lowMark_eq (c := c) (by simp)
    refine ReportsAtLowMark.wakesPaused ⟨hs.listened h.listened, ?_⟩ ?_
    · rintro _ ⟨⟩
      exact ⟨c, hc, hmark.trans ha.of_setLowMark, q.low_lt_high job⟩
    · rintro _ ⟨⟩
      rfl
  | chunk hc ha hp hn hnext hopen =>
    refine ReportsAtLowMark.wakesPaused ((h.toReportsAtLowMark.answersAll hs ?_).activate ha rfl) ?_
    · simp [asksSend, asksRoom]
    · rintro _ ⟨⟩
      exact hp
  | @full c a n hc ha hp hn =>
    have hlooks : AnswersAll w ([.asked (.channel c .isOpen) true]
        ++ [.asked (.channel c .bufferedAmount) n]) w' := hs
    obtain ⟨v, hv, hlast⟩ := hlooks.split
    obtain ⟨_, -, -, hlt⟩ := h.marked a ha
    exact (h.toReportsAtLowMark.answersAll hv (by simp)).pauses hc ha (hlt.trans_le hn) rfl hlast

theorem WakesPaused.moves (h : q.WakesPaused w) (hm : Moves q es rs q') (hs : AnswersAll w es w') :
    q'.WakesPaused w' := by
  induction hm generalizing w with
  | refl => exact h.answersAll hs
  | step first _ ih =>
    obtain ⟨v, hv, hv'⟩ := hs.split
    exact ih (h.move first hv) hv'

/-- **So it will after an opening.** A queue that is told that its channel has drained looks how
much waits in it, so that the report need not be on its way any longer. -/
theorem ReportsAtLowMark.opening (h : q.ReportsAtLowMark w) {c : Call} (hc : c.Admissible q)
    (hkeep : c ≠ .bufferedAmountLow → q.WakesPaused w) (ho : Opening q c es rs q')
    (hs : AnswersAll w es w') : q'.WakesPaused w' := by
  cases ho with
  | enqueue job =>
    have hnext := (hkeep (by simp)).answersAll hs
    exact ⟨⟨hnext.listened, hnext.marked⟩, hnext.willReport⟩
  | attach c m =>
    refine wakesPaused_of_idle (hs.listened h.listened) ?_
    by_contra hne
    obtain ⟨a, ha⟩ := Option.ne_none_iff_exists'.mp hne
    obtain ⟨_, hsome, -⟩ := h.marked a ha
    exact absurd (hsome.symm.trans hc) (by simp)
  | wake hch ha hp hn =>
    refine ReportsAtLowMark.wakesPaused ((h.answersAll hs (by simp)).activate ha rfl) ?_
    rintro _ ⟨⟩
    rfl
  | sleep hch ha hp hn =>
    have hnext := h.pauses hch ha hn rfl hs
    rwa [← ha] at hnext
  | idle hp =>
    refine (h.answersAll hs (by simp)).wakesPaused fun a ha => ?_
    obtain ⟨c, hsome, -⟩ := h.marked a ha
    exact hp a ha (Option.isSome_of_mem hsome)
  | closed => exact wakesPaused_of_idle (hs.listened h.listened) rfl

/-- A call. -/
theorem ReportsAtLowMark.ran (h : q.ReportsAtLowMark w) {c : Call} (hc : c.Admissible q)
    (hkeep : c ≠ .bufferedAmountLow → q.WakesPaused w) (hr : q.Ran c es rs q')
    (hs : AnswersAll w es w') :
    q'.WakesPaused w' := by
  obtain ⟨es₁, rs₁, q₁, es₂, rs₂, ho, hm, rfl, rfl⟩ := hr
  obtain ⟨v, hv, hv'⟩ := hs.split
  exact (h.opening hc hkeep ho hv).moves hm hv'

/-- Where a queue can come to on scripted channels. A report is delivered some time after it was
posted; a call to say that the channel has drained, or closed, may come without any. -/
inductive ScriptedRun (limits : TransferLimits) : TransferQueue → ScriptedChannels → Prop
  | start {w : ScriptedChannels} (hw : w.Listened) (hposted : w.posted = []) :
    ScriptedRun limits (new limits) w
  /-- The channels change unasked. -/
  | change {q : TransferQueue} {w w' : ScriptedChannels} (before : ScriptedRun limits q w)
    (hd : ChangesUnasked w w') :
    ScriptedRun limits q w'
  /-- The queue is called. -/
  | call {q q' : TransferQueue} {w w' : ScriptedChannels} {c : Call} {es : List Entry}
    {rs : List TransferProgress} (before : ScriptedRun limits q w) (hc : c.Admissible q)
    (hrun : May (fun _ _ => c.run q) es (rs, q')) (hs : AnswersAll w es w') :
    ScriptedRun limits q' w'
  /-- A report that a channel has drained is delivered. -/
  | deliver {q q' : TransferQueue} {w w' : ScriptedChannels} {es : List Entry}
    {rs : List TransferProgress}
    {earlier later : List ChannelHandle} {c : ChannelHandle} (before : ScriptedRun limits q w)
    (hposted : w.posted = earlier ++ c :: later)
    (hrun : May (fun _ _ => q.onBufferedAmountLow) es (rs, q'))
    (hs : AnswersAll { w with posted := earlier ++ later } es w') : ScriptedRun limits q' w'
  /-- The queue pumps. -/
  | pump {q q' : TransferQueue} {w w' : ScriptedChannels} {es : List Entry}
    {rs : List TransferProgress}
    (before : ScriptedRun limits q w) (hrun : May (fun _ _ => q.pump) es (rs, q'))
    (hs : AnswersAll w es w') : ScriptedRun limits q' w'

/-- **In every run a paused job will be woken.** -/
theorem ScriptedRun.wakesPaused (h : ScriptedRun limits q w) : q.Settled ∧ q.WakesPaused w := by
  induction h with
  | start hw => exact ⟨settled_new limits, wakesPaused_of_idle hw rfl⟩
  | change _ hd ih => exact ⟨ih.1, ih.2.answersAll (.change hd (.rest _))⟩
  | call _ hc hrun hs ih =>
    have hran := hrun.spec fun ω _ => yields_run ih.1 hc.made
    exact ⟨ih.1.ran hc.made hran, ih.2.toReportsAtLowMark.ran hc (fun _ => ih.2) hran hs⟩
  | @deliver q _ _ _ _ _ _ _ _ _ _ hrun hs ih =>
    have hlow : Call.bufferedAmountLow.Admissible q := trivial
    have hran := hrun.spec fun ω _ => yields_run ih.1 hlow.made
    refine ⟨ih.1.ran hlow.made hran, ReportsAtLowMark.ran ?_ hlow (absurd rfl) hran hs⟩
    exact ⟨ih.2.listened, ih.2.marked⟩
  | pump _ hrun hs ih =>
    have hmoves := hrun.spec fun ω _ => yields_pump ih.1
    exact ⟨ih.1.moves hmoves, ih.2.moves hmoves hs⟩

/-- **A paused job is woken**: the channel reports at the low mark of the job, and either there are
bytes above it or the report is on its way. -/
theorem ScriptedRun.paused_wakes (h : ScriptedRun limits q w) {c : ChannelHandle}
    {a : ActiveTransfer} (hc : q.channel = some c) (ha : q.active = some a) (hp : a.paused = true) :
    (w.channel c).lowMark = some a.watermarks.low
      ∧ (a.watermarks.low < (w.channel c).buffered ∨ c ∈ w.posted) :=
  let hreport := h.wakesPaused.2.willReport c hc a ha hp
  ⟨hreport.lowMark, hreport.above⟩

end

/-! ## A run with a pause

A file is announced over a channel that holds so much already that none of its bytes can be sent. -/

/-- A world in which every channel holds so many bytes, and everything succeeds. -/
structure FilledTo where
  /-- The bytes that wait. -/
  bytes : ℕ

instance : World FilledTo where
  perform
    | .channel _ .bufferedAmount, b => (b.bytes, b)
    | r, b => ((World.perform r (⟨⟩ : Willing)).1, b)

theorem bind_eq_of_eq {σ α β : Type} {m : StateM σ α} {f : α → StateM σ β} {t t' : σ} {a : α}
    {r : β × σ} (hm : m t = (a, t')) (hf : f a t' = r) : (m >>= f) t = r := by
  rw [← hf]
  exact congrArg (fun out : α × σ => f out.1 out.2) hm

section
variable {q : TransferQueue} {c : ChannelHandle} {i : ℕ} {job started : TransferJob}
  {t : Recorded FilledTo}

/-- Nothing of a job is sent to a channel that is full. -/
theorem sendUntilFull_filledTo {high : ℕ} (hjob : job.isComplete = false)
    (h : high ≤ t.world.bytes) :
    sendUntilFull c high job t
      = ((.full, job), ⟨t.world, t.record ++ asksRoom c t.world.bytes⟩) := by
  have hrecord : t.record ++ asksRoom c t.world.bytes
      = t.record ++ [.asked (.channel c .isOpen) true]
        ++ [.asked (.channel c .bufferedAmount) t.world.bytes] := by
    rw [List.append_assoc]
    rfl
  rw [sendUntilFull, hjob, if_neg Bool.false_ne_true, hrecord]
  refine bind_eq_of_eq rfl (bind_eq_of_eq (a := t.world.bytes) rfl ?_)
  rw [if_pos h]
  rfl

/-- A job is announced. -/
theorem start_filledTo (hs : job.start q.chunkSize q.maxMessage = .ok started) :
    q.start c i job t = (.ok ⟨i, started, q.watermarksFor job, false⟩,
      ⟨t.world, t.record ++ asksAnnounce c (q.watermarksFor job).low started (.ok ())⟩) := by
  have hannounce : announce c (q.watermarksFor job).low started t = (.ok (),
      ⟨t.world, t.record ++ asksAnnounce c (q.watermarksFor job).low started (.ok ())⟩) := by
    rw [asksAnnounce, ← List.singleton_append, ← List.append_assoc]
    rfl
  rw [start, hs]
  exact bind_eq_of_eq hannounce rfl

/-- A job that finds its channel full is announced and paused. -/
theorem sendWaiting_filledTo (rest : List (ℕ × TransferJob))
    (hs : job.start q.chunkSize q.maxMessage = .ok started) (hopen : started.isComplete = false)
    (hfull : (q.watermarksFor job).high ≤ t.world.bytes) :
    sendWaiting c ((i, job) :: rest) q t
      = (([started.progress i .sending, started.progress i .paused],
          { q with waiting := rest, active := some ⟨i, started, q.watermarksFor job, true⟩ }),
        ⟨t.world, t.record ++ [.asked (.channel c .isOpen) true]
          ++ asksAnnounce c (q.watermarksFor job).low started (.ok ())
          ++ asksRoom c t.world.bytes⟩) := by
  have hsend := sendUntilFull_filledTo (c := c) hopen
    (t := ⟨t.world, t.record ++ [.asked (.channel c .isOpen) true]
      ++ asksAnnounce c (q.watermarksFor job).low started (.ok ())⟩) hfull
  rw [sendWaiting]
  refine bind_eq_of_eq rfl (bind_eq_of_eq (start_filledTo (q := { q with waiting := rest }) hs) ?_)
  exact bind_eq_of_eq (bind_eq_of_eq hsend rfl) rfl

end

/-- The file of three bytes waits. -/
def sampleWaiting : TransferQueue := { new {} with nextId := 2, waiting := [(1, sampleJob)] }

/-- It is sent byte for byte, and it is paused. -/
def sampleActive : ActiveTransfer := ⟨1, { sampleJob with chunkSize := 1 }, ⟨1, 3⟩, true⟩

/-- The queue when it is paused. -/
def samplePaused : TransferQueue :=
  { new {} with
    channel := some sampleChannel, maxMessage := 1, nextId := 2, active := some sampleActive }

/-- Somebody listens to all channels, and one byte waits in each. -/
def sampleChannels : ScriptedChannels :=
  { channel := fun c => { handle := c, buffered := 1, listener := some 1 } }

/-- The channels after the announcement. -/
def sampleFilled : ScriptedChannels :=
  let marked := sampleChannels.set sampleChannel
    ((sampleChannels.channel sampleChannel).respond (.setLowMark 1)).2
  marked.set sampleChannel
    ((marked.channel sampleChannel).respond (.sendText sampleActive.job.announcement.text)).2

/-- The file is announced, and its channel found full. -/
theorem scriptedRun_sampleFilled : ScriptedRun {} samplePaused sampleFilled := by
  have hjob : TransferJob.new "clip.wav" "audio/wav" sampleJob.source = .ok sampleJob := rfl
  have hwaiting : ScriptedRun {} sampleWaiting sampleChannels :=
    .call (c := .enqueue sampleJob) (.start (fun c => by simp [sampleChannels]) rfl) ⟨_, _, _, hjob⟩
      ⟨Willing, inferInstance, ⟨⟩, rfl, rfl⟩ (.rest _)
  have hfull : 3 ≤ (sampleFilled.channel sampleChannel).buffered := by decide +kernel
  have hstart : sampleJob.start 1 1 = .ok sampleActive.job := rfl
  have hsend := sendWaiting_filledTo (c := sampleChannel) (i := 1)
    (q := { sampleWaiting with channel := some sampleChannel, maxMessage := 1 })
    (t := ⟨⟨(sampleFilled.channel sampleChannel).buffered⟩, []⟩) [] hstart rfl hfull
  have hattach : May (fun _ _ => Call.run sampleWaiting (.attach sampleChannel 1))
      ([.asked (.channel sampleChannel .isOpen) true]
        ++ asksAnnounce sampleChannel 1 sampleActive.job (.ok ())
        ++ asksRoom sampleChannel (sampleFilled.channel sampleChannel).buffered)
      (_, samplePaused) :=
    ⟨FilledTo, inferInstance, _, congrArg (·.1) hsend, congrArg (·.2.record) hsend⟩
  refine hwaiting.call (c := .attach sampleChannel 1) rfl hattach ?_
  refine .answer (answers_of_look rfl) (.answer (.channel _ _) (.answer (.channel _ _) ?_))
  exact .answer (answers_of_look rfl) (.answer (answers_of_look rfl) (.rest _))

/-- When the announcement has drained, the report is on its way. -/
theorem paused_wakes_sampleFilled :
    ScriptedRun {} samplePaused (sampleFilled.drained sampleChannel 100)
      ∧ samplePaused.channel = some sampleChannel ∧ samplePaused.active = some sampleActive
      ∧ sampleActive.paused = true
      ∧ ((sampleFilled.drained sampleChannel 100).channel sampleChannel).lowMark
          = some sampleActive.watermarks.low
      ∧ (sampleActive.watermarks.low
            < ((sampleFilled.drained sampleChannel 100).channel sampleChannel).buffered
          ∨ sampleChannel ∈ (sampleFilled.drained sampleChannel 100).posted) :=
  have hv := scriptedRun_sampleFilled.change (.drain sampleChannel 100)
  ⟨hv, rfl, rfl, rfl, hv.paused_wakes rfl rfl rfl⟩

end TransferQueue

end Transfer

end CameraViewer
