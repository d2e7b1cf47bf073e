import CameraViewer.Proofs.Negotiation.Requests
import CameraViewer.Proofs.Session.Moves

/-!
# Proofs/Session/Entries — what a supervisor asks, and of whom

Every entry that a move leaves in the record is of one of a few kinds (`Move.entries`): a peer is
asked only while its session is the current one, a new peer is asked for only while there is none,
and what is written of a negotiation was made by the current session.
-/

namespace CameraViewer.Session

open Config Control Link Negotiation Peer Signal Transfer World

/-! ## What is behind the scenes

Most entries concern neither the viewer nor the capture, and the record of a session is described by
those that do. -/

/-- A message written to the socket of an open link. -/
inductive Written (link : RelayLink) (e : Envelope) : Entry → Prop
  | intro {socket : ℕ} (hopen : link.state = .opened) (hsocket : link.socket = some socket)
    (reached : Bool) : Written link e (.asked (.write socket e.text) reached)

/-- All that sending leaves is a message written, if any. -/
theorem Sends.entries {link : RelayLink} {e : Envelope} {es : List Entry}
    {r : Except LinkError Unit} (h : Sends link e es r) : ∀ x ∈ es, Written link e x := by
  cases h with
  | written hopen hsocket reached =>
    exact List.forall_mem_singleton.mpr (.intro hopen hsocket reached)
  | unsent => exact List.forall_mem_nil _

/-- An entry from behind the scenes: neither the viewer nor the capture sees it, and it makes no
peer. -/
inductive IsBackstage : Entry → Prop
  | told (session : ℕ) (r : PeerRequest) (reply : Except PeerError r.Answer) :
    IsBackstage (Machine.told session r reply)
  | channel (c : ChannelHandle) (r : ChannelRequest) (reply : r.Reply) :
    IsBackstage (.asked (.channel c r) reply)
  | noted (sample : Sample) : IsBackstage (.asked (.note sample) ())
  | written (socket : ℕ) (text : String) (reached : Bool) :
    IsBackstage (.asked (.write socket text) reached)

theorem Sends.backstage {link : RelayLink} {e : Envelope} {es : List Entry}
    {r : Except LinkError Unit} (h : Sends link e es r) : ∀ x ∈ es, IsBackstage x := by
  cases h with
  | written => exact List.forall_mem_singleton.mpr (.written ..)
  | unsent => exact List.forall_mem_nil _

theorem backstage_asks {channel : Option ChannelHandle} {es : List Entry}
    (h : ∀ x ∈ es, TransferQueue.Asks channel x) : ∀ x ∈ es, IsBackstage x := by
  intro x hx
  cases h x hx with
  | channel _ r reply => exact .channel _ r reply
  | noted sample => exact .noted sample

/-- A negotiation is behind the scenes, since it makes no peer. -/
theorem backstage_negotiation {l : RelayLink} {session : ℕ} {record es : List Entry}
    (h : ∀ x ∈ es, Machine.Made (Writes l) session record x) : ∀ x ∈ es, IsBackstage x := by
  intro x hx
  cases h x hx with
  | told r reply => exact .told session r reply
  | timed measure => exact .noted _
  | handed hw hmem =>
    obtain ⟨r, hw⟩ := hw
    exact hw.backstage x hmem

theorem backstage_closes (live : LiveSession) : ∀ x ∈ Supervisor.closes live, IsBackstage x := by
  rw [Supervisor.closes]
  exact List.forall_mem_map.mpr fun c _ => .channel c .close _

namespace Supervisor

/-! ## What a move may leave

One relation for all moves, so that a property of the record is checked once for each kind of entry.
-/

/-- The messages that may go out with a move that leaves `es`. -/
inductive Authored (P : Grant) (s : Supervisor) (es : List Entry) : Envelope → Prop
  | plain {e : Envelope} (he : IsPlainMessage e) : Authored P s es e
  | description {live : LiveSession} {d : SessionDescriptor} (hs : s.session = some live)
    (hmade : Machine.MadeBy live.id es d) : Authored P s es (.sessionDescription d)
  | candidate {live : LiveSession} {c : Candidate} (hs : s.session = some live)
    (hown : P.report live.id (.localCandidate c)) :
    Authored P s es (.candidate c)

/-- What the viewer may be shown: nothing of the link, and controls only where there are new ones.
-/
def Grant.Shows (P : Grant) : ViewerEvent → Prop
  | .link _ => False
  | .catalog _ => P.catalog
  | _ => True

/-- Plain events may be shown on every occasion. -/
theorem Grant.shows_of_isPlain {P : Grant} {e : ViewerEvent} (he : e.IsPlain) : P.Shows e := by
  cases e <;> trivial

/-- The entries a move that leaves `es` may consist of. -/
inductive Made (P : Grant) (l : RelayLink) (s : Supervisor) (es : List Entry) : Entry → Prop
  | shown {e : ViewerEvent} (he : P.Shows e) : Made P l s es (shown e)
  | written {e : Envelope} {x : Entry} (he : Authored P s es e) (hx : Written l e x) :
    Made P l s es x
  | told {live : LiveSession} (hs : s.session = some live) (r : PeerRequest)
    (reply : Except PeerError r.Answer) : Made P l s es (Machine.told live.id r reply)
  | used (hserve : P.Serves) (c : ChannelHandle) (r : ChannelRequest) (reply : r.Reply) :
    Made P l s es (.asked (.channel c r) reply)
  | closed (c : ChannelHandle) : Made P l s es (.asked (.channel c .close) ())
  | noted (sample : Sample) : Made P l s es (.asked (.note sample) ())
  | acquired (reply : Except PeerError LocalMedia) : Made P l s es (.asked .acquireMedia reply)
  | stopped (media : LocalMedia) : Made P l s es (.asked (.stopMedia media) ())
  | created (hs : s.session = none) (hnew : P.session) (reply : Except PeerError Unit) :
    Made P l s es (.asked (.createPeer s.nextSetup) reply)

section
variable {P : Grant} {l : RelayLink} {s s' : Supervisor} {es fs : List Entry}
  {live : LiveSession}

theorem made_shownTransfers (reports : List TransferProgress) :
    ∀ x ∈ shownTransfers reports, Made P l s es x := by
  rw [shownTransfers]
  exact List.forall_mem_map.mpr fun _ _ => .shown trivial

theorem made_stops (media : List LocalMedia) : ∀ x ∈ stops media, Made P l s es x := by
  rw [stops]
  exact List.forall_mem_map.mpr fun m _ => .stopped m

theorem made_shownChange (before : Connectivity) (m : Machine) :
    ∀ x ∈ shownChange before m, Made P l s es x := by
  rw [shownChange]
  split_ifs
  · exact List.forall_mem_nil _
  · exact List.forall_mem_singleton.mpr (.shown trivial)

/-- Ending all publishing stops media, and then asks the peer to release what it publishes. -/
theorem made_releases (hs : s.session = some live) (media : List LocalMedia)
    (released : Except PeerError ℕ) :
    ∀ x ∈ stops media ++ [Machine.told live.id .releaseOutbound released], Made P l s es x :=
  List.forall_mem_append.mpr ⟨made_stops _, List.forall_mem_singleton.mpr (.told hs _ _)⟩

/-- A message goes out only where the move may author it. -/
theorem made_sends {e : Envelope} {r : Except LinkError Unit} (he : Authored P s es e)
    (h : Sends l e fs r) : ∀ x ∈ fs, Made P l s es x :=
  fun x hx => .written he (h.entries x hx)

/-- The queue is served only where the occasion allows it. -/
theorem made_asks {channel : Option ChannelHandle} (hserve : P.Serves)
    (h : ∀ x ∈ fs, TransferQueue.Asks channel x) : ∀ x ∈ fs, Made P l s es x := by
  intro x hx
  cases h x hx with
  | channel _ r reply => exact .used hserve _ r reply
  | noted sample => exact .noted sample

/-- What the negotiation of the current session leaves. -/
theorem made_negotiation (hs : s.session = some live) (hsub : fs ⊆ es)
    (h : ∀ x ∈ fs, Machine.Made (Writes l) live.id fs x) : ∀ x ∈ fs, Made P l s es x := by
  intro x hx
  cases h x hx with
  | told r reply => exact .told hs r reply
  | timed measure => exact .noted _
  | handed hw hmem hmade =>
    obtain ⟨r, hw⟩ := hw
    exact .written (.description hs (hmade.mono hsub)) (hw.entries x hmem)

/-- To take up talking a source is acquired, attached, announced and offered. -/
theorem made_acquired (hs : s.session = some live) (source : LocalMedia)
    {started : List Entry} {r : Except LinkError Unit} {m : Machine}
    {offered : Except PeerError Unit} (hstart : Sends l (.start .talk true) started r)
    (hoffer : Machine.Offers (Writes l) false live.machine fs offered m) (hsub : fs ⊆ es)
    {rest : List Entry} (hrest : ∀ x ∈ rest, Made P l s es x) :
    ∀ x ∈ Entry.asked .acquireMedia (.ok source)
      :: Machine.told live.id (.attachMedia source) (.ok ()) :: (started ++ (fs ++ rest)),
      Made P l s es x := by
  refine List.forall_mem_cons.mpr ⟨.acquired _, List.forall_mem_cons.mpr ⟨.told hs _ _, ?_⟩⟩
  have hannounced : ∀ x ∈ started, Made P l s es x :=
    made_sends (e := .start .talk true) (.plain trivial) hstart
  have hnegotiated := made_negotiation (P := P) hs hsub hoffer.entries
  exact List.forall_mem_append.mpr ⟨hannounced, List.forall_mem_append.mpr ⟨hnegotiated, hrest⟩⟩

/-! ## The moves -/

/-- What the end of the current session leaves; its negotiation may have moved on before. -/
theorem TearsDown.entries {ended : LiveSession} {s'' : Supervisor} (h : TearsDown s' ended fs s'')
    (hs : s.session = some live) (hid : ended.id = live.id) (hsub : fs ⊆ es) :
    ∀ x ∈ fs, Made P l s es x := by
  cases h with
  | intro released hstop =>
    rw [releases, hid]
    refine List.forall_mem_append.mpr ⟨made_releases hs _ _, List.forall_mem_append.mpr ⟨?_, ?_⟩⟩
    · rw [closes]
      exact List.forall_mem_map.mpr fun c _ => .closed c
    refine List.forall_mem_append.mpr ⟨made_shownTransfers _, List.forall_mem_append.mpr ⟨?_, ?_⟩⟩
    · refine made_negotiation hs (List.Subset.trans ?_ hsub) ?_
      · intro x hx
        simp [hx]
      · have hall := hstop.entries (H := Writes l)
        rwa [show ended.machine.session = live.id from hid] at hall
    refine List.forall_mem_append.mpr ⟨made_shownChange _ _, ?_⟩
    rw [shownSilence]
    split_ifs
    · exact List.forall_mem_singleton.mpr (.shown trivial)
    · exact List.forall_mem_nil _

/-- **What a move asks, and of whom.** -/
theorem Move.entries (h : Move P l s es s') : ∀ x ∈ es, Made P l s es x := by
  cases h with
  | tell he => exact List.forall_mem_singleton.mpr (.shown (Grant.shows_of_isPlain he))
  | send he h => exact made_sends (.plain he) h
  | servers | control | recording | channel | clear => exact List.forall_mem_nil _
  | catalog hcatalog => exact List.forall_mem_singleton.mpr (.shown hcatalog)
  | enqueue hclip _ h =>
    exact List.forall_mem_append.mpr ⟨made_asks (.inl hclip) h.entries, made_shownTransfers _⟩
  | drained _ hown h =>
    have hserve : P.Serves := .inr (.inl ⟨_, _, hown⟩)
    exact List.forall_mem_append.mpr ⟨made_asks hserve h.entries, made_shownTransfers _⟩
  | attach _ hown _ _ _ h =>
    have hserve : P.Serves := .inr (.inr ⟨_, hown⟩)
    exact List.forall_mem_append.mpr ⟨made_asks hserve h.entries, made_shownTransfers _⟩
  | negotiate hs _ h | report hs h =>
    refine List.forall_mem_append.mpr ⟨made_negotiation hs ?_ h.entries, made_shownChange _ _⟩
    exact List.subset_append_left _ _
  | @degrade live _ _ _ m hs h =>
    refine List.forall_mem_append.mpr ⟨made_negotiation hs (List.subset_append_left _ _)
      h.entries, ?_⟩
    refine List.forall_mem_append.mpr ⟨made_shownChange _ _, List.forall_mem_append.mpr ⟨?_, ?_⟩⟩
    · have hid : LiveSession.id { live with machine := m } = live.id := h.session_eq
      rw [releases, hid]
      exact made_releases hs _ _
    · exact List.forall_mem_singleton.mpr (.shown trivial)
  | collapse hs h _ _ hend =>
    refine List.forall_mem_append.mpr ⟨made_negotiation hs (List.subset_append_left _ _)
      h.entries, ?_⟩
    refine List.forall_mem_append.mpr ⟨made_shownChange _ _, hend.entries hs h.session_eq ?_⟩
    intro x hx
    simp [hx]
  | candidate hs hown h => exact made_sends (.candidate hs hown) h
  | detach => exact made_shownTransfers _
  | talkDenied => exact List.forall_mem_singleton.mpr (.acquired _)
  | talkRefused hs =>
    refine List.forall_mem_cons.mpr ⟨.acquired _, List.forall_mem_cons.mpr ⟨.told hs _ _, ?_⟩⟩
    exact List.forall_mem_singleton.mpr (.stopped _)
  | talkFailed hs _ source hstart hoffer hstop =>
    refine made_acquired hs source hstart hoffer ?_ ?_
    · intro x hx
      simp [hx]
    · refine List.forall_mem_append.mpr ⟨made_stops _, ?_⟩
      exact made_sends (e := .start .talk false) (.plain trivial) hstop
  | talkStarted hs _ source hstart hoffer =>
    refine made_acquired hs source hstart hoffer ?_ (List.forall_mem_singleton.mpr (.shown trivial))
    intro x hx
    simp [hx]
  | talkStopped hs _ hstop =>
    refine List.forall_mem_append.mpr ⟨made_stops _, List.forall_mem_append.mpr ⟨?_, ?_⟩⟩
    · exact made_sends (e := .start .talk false) (.plain trivial) hstop
    · exact List.forall_mem_singleton.mpr (.shown trivial)
  | teardown hs h => exact h.entries hs rfl (List.Subset.refl _)
  | refused hs hnew => exact List.forall_mem_singleton.mpr (.created hs hnew _)
  | created hs hnew =>
    exact List.forall_mem_cons.mpr ⟨.created hs hnew _,
      List.forall_mem_singleton.mpr (.shown trivial)⟩

/-- Each entry of a sequence of moves is of one of them. -/
theorem Moves.entries (h : Moves P l s es s') : ∀ x ∈ es, ∃ before between fs,
    Moves P l s before between ∧ Made P l between fs x ∧ before ⊆ es ∧ fs ⊆ es := by
  induction h with
  | refl => exact List.forall_mem_nil _
  | @step s s₁ s' fs gs first rest ih =>
    intro x hx
    rcases List.mem_append.mp hx with hx | hx
    · exact ⟨[], s, fs, .refl s, first.entries x hx, List.nil_subset _, List.subset_append_left _ _⟩
    · obtain ⟨before, between, hs, hmoves, hmade, hbefore, hhs⟩ := ih x hx
      refine ⟨fs ++ before, between, hs, .step first hmoves, hmade, ?_, ?_⟩
      · exact List.append_subset.mpr
          ⟨List.subset_append_left _ _, List.subset_append_of_subset_right _ hbefore⟩
      · exact List.subset_append_of_subset_right _ hhs

end

end Supervisor

end CameraViewer.Session
