import CameraViewer.Proofs.Session.Channels
import CameraViewer.Proofs.Transfer.Limits

/-!
# Proofs/Session/Chunks — chunks keep to what was negotiated

When a channel is handed to the transfer queue, the description of the other side that is in force
then (`inForce`) settles how much a message may take. `Run.keepsToSizes`: as long as the channel is
there, no chunk goes beyond that, whatever becomes of the description in the meantime; where nothing
may be sent at all, every file that is begun fails; and what is reported as completed was sent
whole.
-/

namespace CameraViewer.Session

open Config Link Negotiation Peer Signal Transfer World

/-! ## What is sent -/

/-- What is sent over a channel makes use of it. -/
theorem usedChannel?_of_offered? {e : Entry} {x : ChannelHandle × Rehearsal.ChannelFrame}
    (h : offered? e = some x) : usedChannel? e = some x.1 := by
  unfold offered? at h
  split at h
  · obtain rfl := Option.some.inj h
    rfl
  · obtain rfl := Option.some.inj h
    rfl
  · cases h

/-- What a channel takes was sent. -/
theorem offered?_of_frame? {e : Entry} {x : ChannelHandle × Rehearsal.ChannelFrame}
    (h : frame? e = some x) : offered? e = some x := by
  unfold frame? at h
  split at h
  · exact h
  · exact h
  · cases h

theorem taken_eq_nil {es : List Entry} (h : ∀ e ∈ es, offered? e = none) : taken es = [] := by
  refine List.filterMap_eq_nil_iff.mpr fun e he => ?_
  by_contra hframe
  obtain ⟨x, hframe⟩ := Option.ne_none_iff_exists'.mp hframe
  exact absurd ((h e he).symm.trans (offered?_of_frame? hframe)) nofun

namespace Supervisor

/-- The description of the other side that is in force after a step. -/
def inForce (step : Step) : Option String :=
  step.after.session.bind fun live => live.machine.remoteDescriptor.map (·.sdp)

/-! ## What was negotiated

The greatest message is read off the remote description when the channel is handed over, and later
descriptions do not change it. -/

/-- The greatest message comes from the description that is in force. -/
theorem maxMessageOf_eq (s : Supervisor) (m : Machine) :
    s.maxMessageOf m = maxMessageFor s.config.limits (m.remoteDescriptor.map (·.sdp)) := by
  rw [maxMessageOf]
  cases m.remoteDescriptor <;> rfl

section
variable {config : ClientConfig} {steps : List Step} {s : Supervisor} {step : Step}
  {ch : ChannelHandle}

/-- What is sent in a call of the queue fits. -/
theorem fits_of_ran {q q' : TransferQueue} {c : TransferQueue.Call} {fs : List Entry}
    {rs : List TransferProgress} (hq : q.Fitted)
    (hc : ∀ channel m, c = .attach channel m → q.channel = none) (hran : q.Ran c fs rs q') :
    q'.SendsFitting (fs ++ shownTransfers rs) :=
  List.forall_mem_append.mpr ⟨hran.fits hq hc,
    TransferQueue.sendsFitting_of_none (List.forall_mem_map.mpr fun _ _ => rfl)⟩

/-- Where no channel is used, all that is sent fits. -/
theorem sendsFitting_of_unused {q : TransferQueue} {es : List Entry} (h : Unused es) :
    q.SendsFitting es :=
  fun e he _ hx => absurd ((h e he).symm.trans (usedChannel?_of_offered? hx)) nofun

/-- **What is sent with a step fits**, by what the queue has settled after it. -/
theorem Serves.fits (h : Serves step) (hq : step.before.transfers.Fitted) :
    step.after.transfers.SendsFitting step.made := by
  cases h with
  | goesOn h =>
    cases h with
    | rests _ hunused => exact sendsFitting_of_unused hunused
    | takes hran hmade | drains hran hmade =>
      rw [hmade]
      exact fits_of_ran hq (by simp) hran
  | attaches h hhands =>
    obtain ⟨live, fs, gs, rs, -, hmade, hfs, hran⟩ := hhands
    rw [hmade]
    refine List.forall_mem_append.mpr ⟨sendsFitting_of_unused hfs, fits_of_ran hq ?_ hran⟩
    exact fun _ _ _ => h.detached
  | loses _ _ hunused => exact sendsFitting_of_unused hunused

/-- The queue of a run sends what fits, and its bounds are those of the configuration. -/
theorem Run.fitted (hr : Run config steps s) :
    s.transfers.Fitted ∧ s.transfers.limits = config.limits := by
  obtain ⟨h, ht, -⟩ := hr.tracks
  obtain ⟨L, hL⟩ := ht.trail.ledger
  rw [← ht.queue_eq]
  exact ⟨ht.trail.fitted, hL.limits_eq⟩

/-- **The greatest message is the one that was negotiated when the channel was handed over.** -/
theorem Run.attuned (hr : Run config steps s) (hch : s.transfers.channel = some ch) :
    ∃ n handing, HandedBy steps n ch handing
      ∧ s.transfers.maxMessage = maxMessageFor config.limits (inForce handing) := by
  obtain ⟨n, handing, -, hby, ⟨live, fs, gs, rs, hs, -, -, hran⟩, hmax⟩ := hr.handedBy hch
  refine ⟨n, handing, hby, ?_⟩
  obtain ⟨front, since, rfl, -, -⟩ := hby
  obtain ⟨hrun, hmay⟩ := hr.split rfl
  rw [hmax, hran.maxMessage_eq, maxMessageOf_eq, (hrun.call hmay).trail.config_eq, inForce, hs]
  rfl

/-! ## Runs -/

/-- What was settled when the channel was handed over, for every frame that is sent. -/
theorem Run.sends {before later : List Step} (hr : Run config steps s)
    (hsteps : steps = before ++ step :: later) {e : Entry} (he : e ∈ step.made)
    {frame : Rehearsal.ChannelFrame} (hframe : offered? e = some (ch, frame)) :
    ∃ n handing m, HandedBy (before ++ [step]) n ch handing
      ∧ m = maxMessageFor config.limits (inForce handing)
      ∧ chunkSizeFor m config.limits.chunkCap ≤ m
      ∧ ∀ data, frame = .binary data → 0 < data.size
        ∧ data.size ≤ chunkSizeFor m config.limits.chunkCap := by
  obtain ⟨t, l, c, es, t'⟩ := step
  obtain ⟨hrun, hmay⟩ := hr.split hsteps
  have hnext := hrun.call hmay
  have hserves := hrun.serves hmay
  obtain ⟨n, handing, hby, hmax⟩ :=
    hnext.attuned (hserves.used he (usedChannel?_of_offered? hframe))
  obtain ⟨hfits, hsize⟩ := hserves.fits hrun.fitted.1 e he _ hframe
  have hchunk : t'.transfers.chunkSize
      = chunkSizeFor (maxMessageFor config.limits (inForce handing)) config.limits.chunkCap := by
    rw [TransferQueue.chunkSize, hmax, hnext.fitted.2]
  refine ⟨n, handing, _, hby, rfl, ?_, ?_⟩
  · rw [← hchunk, ← hmax]
    exact hfits
  · rw [← hchunk]
    exact hsize

/-- With a bound of zero nothing is sent. -/
theorem Run.unsent (hr : Run config steps s) (hcap : 1 ≤ config.limits.chunkCap)
    {remote : Option String} (hbound : Bounds config.limits remote 0) :
    ∀ step ∈ steps, ∀ e ∈ step.made, offered? e = none := by
  intro step hmem e he
  obtain ⟨before, later, hsteps⟩ := List.append_of_mem hmem
  by_contra hsent
  obtain ⟨⟨ch, frame⟩, hframe⟩ := Option.ne_none_iff_exists'.mp hsent
  obtain ⟨n, handing, m, -, rfl, hfits, -⟩ := hr.sends hsteps he hframe
  have hle := hfits.trans (maxMessageFor_le_localMax _ _)
  rw [hbound.localMax_eq_zero hcap rfl] at hle
  exact absurd (chunkSizeFor_pos _ _) (not_lt.mpr hle)

/-- What is said of the sizes in a run. -/
structure KeepsToSizes (config : ClientConfig) (steps : List Step) (s : Supervisor) : Prop where
  /-- A chunk is not empty, and exceeds none of the bounds that were in force when its channel was
  handed over. -/
  chunks : ∀ before step later, steps = before ++ step :: later →
    ∀ e ∈ step.made, ∀ ch data, offered? e = some (ch, .binary data) →
      0 < data.size ∧ ∃ n handing, HandedBy (before ++ [step]) n ch handing
        ∧ ∀ bound, Bounds config.limits (inForce handing) bound → data.size ≤ bound
  /-- With a bound of zero nothing is sent, and every file that does not wait any more has failed.
  -/
  refused : ∀ remote, Bounds config.limits remote 0 →
    (∀ step ∈ steps, ∀ e ∈ step.made, offered? e = none)
      ∧ ∀ id, 1 ≤ id → id ≤ (clips steps).length →
        (id ∈ s.transfers.waiting.map Prod.fst
            ∧ statesOf id (updatesIn (recordOf steps)) = [.waiting])
          ∨ ∃ reason, statesOf id (updatesIn (recordOf steps)) = [.waiting, .failed reason]
  /-- What is reported as completed was sent whole, each file with frames of its own. -/
  completed : ∃ shipments : List Shipment, (shipments.map Shipment.id).Nodup
    ∧ (shipments.flatMap Shipment.tagged).Sublist (taken (recordOf steps))
    ∧ ∀ p ∈ updatesIn (recordOf steps), p.state = .completed →
      ∃ sent ∈ shipments, TransferQueue.SentWhole (clips steps) p sent

/-- **Chunks keep to what was negotiated**, and what is reported as completed was sent whole. -/
theorem Run.keepsToSizes (hr : Run config steps s) (hcap : 1 ≤ config.limits.chunkCap) :
    KeepsToSizes config steps s := by
  obtain ⟨h, ⟨htrail, hqueue, hreports, hasked⟩, hclips⟩ := hr.tracks
  obtain ⟨L, hL⟩ := htrail.ledger
  refine ⟨?_, fun remote hbound => ?_, L, (List.nodup_append.mp hL.nodup).1, ?_, ?_⟩
  · intro before step later hsteps e he ch data hframe
    obtain ⟨n, handing, m, hby, rfl, hfits, hsize⟩ := hr.sends hsteps he hframe
    obtain ⟨hpos, hle⟩ := hsize data rfl
    exact ⟨hpos, n, handing, hby, fun bound hb => hle.trans (chunkSizeFor_le hcap hfits hb)⟩
  · have hnothing := hr.unsent hcap hbound
    have htaken : taken h.record = [] := by
      refine taken_eq_nil fun e he => ?_
      obtain ⟨step, hmem, he⟩ := List.mem_flatMap.mp (hasked.subset he)
      exact hnothing step hmem e he
    refine ⟨hnothing, fun id hpos hle => ?_⟩
    rw [← hreports, ← hqueue]
    exact hL.refused htaken ⟨hpos, hclips ▸ hle⟩
  · rw [← hL.taken_eq]
    exact hasked.filterMap frame?
  · intro p hp hstate
    rw [← hclips]
    exact hL.sentWhole htrail (hreports ▸ hp) hstate

/-- An offer of a side that takes two bytes at a time. -/
def tightOffer : Envelope := .sessionDescription (.offer "v=0\r\na=max-message-size: 2\r\n")

/-- A file of three bytes is sent to a side that takes two at a time. -/
def tightSteps : List Step :=
  let opened := play (new {}) sampleLink .linkOpen
  let described := opened.after.play sampleLink (.frame tightOffer.text)
  let channel := described.after.play sampleLink (.peer ⟨1, .channelOpen fileChannel⟩)
  let connected := channel.after.play sampleLink (.peer ⟨1, .connectivity .connected⟩)
  [opened, described, channel, connected,
    connected.after.play sampleLink (clipCall "a.wav" TransferQueue.sampleJob.source)]

/-- The size of a chunk that is sent. -/
def chunkSizeOf? (e : Entry) : Option ℕ :=
  match offered? e with
  | some (_, .binary data) => some data.size
  | _ => none

/-- It goes out in chunks of two bytes and of one. -/
theorem keepsToSizes_tightSteps : ∃ s, Run {} tightSteps s ∧ KeepsToSizes {} tightSteps s
    ∧ (recordOf tightSteps).filterMap chunkSizeOf? = [2, 1]
    ∧ (updatesIn (recordOf tightSteps)).map (·.state) = [.waiting, .sending, .completed] := by
  have hstart : Run {} [] (new {}) := .start
  have hopened := hstart.play sampleLink .linkOpen
  have hdescribed := hopened.play sampleLink (.frame tightOffer.text)
  have hchannel := hdescribed.play sampleLink (.peer ⟨1, .channelOpen fileChannel⟩)
  have hconnected := hchannel.play sampleLink (.peer ⟨1, .connectivity .connected⟩)
  have hr := hconnected.play sampleLink (clipCall "a.wav" TransferQueue.sampleJob.source)
  exact ⟨_, hr, hr.keepsToSizes (by decide), by decide +kernel, by decide +kernel⟩

end

end Supervisor

end CameraViewer.Session
