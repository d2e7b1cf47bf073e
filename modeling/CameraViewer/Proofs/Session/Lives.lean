import CameraViewer.Proofs.Negotiation.States
import CameraViewer.Proofs.Session.Entries
import CameraViewer.Proofs.Session.Runs
import Mathlib.Data.List.Chain

/-!
# Proofs/Session/Lives — what the viewer sees of a session

The viewer is told the state of a session each time it changes. `Life` lists the histories a
session can have. `Advance` says what can become of the latest session with a move: it stays as it
is, moves on, ends or gives way to the next one, and the viewer is told just that.
`Run.tellsLegalLives` draws the conclusion for all runs.
-/

namespace CameraViewer.Session

open Config Control Link Negotiation Peer Signal Transfer World

/-! ## Lives

The states told of a session are built up one by one, so that what holds of a life is proved by
induction on it. -/

/-- What was told of a session, and the state it is in while it is the current one. -/
inductive Life : Option Connectivity → List Connectivity → Prop
  | untold : Life none []
  | created : Life (some .new) [.new]
  | moved {a b : Connectivity} {told : List Connectivity} (before : Life (some a) told)
    (hmove : a.canMoveTo b = true) (hopen : b ≠ .closed) : Life (some b) (told ++ [b])
  | closed {a : Connectivity} {told : List Connectivity} (before : Life (some a) told) :
    Life none (told ++ [.closed])

namespace Life

variable {now : Option Connectivity} {told : List Connectivity}

/-- While a session goes on, its state is the last that was told, and it was never said to be
closed. -/
theorem current {state : Connectivity} (h : Life (some state) told) :
    told.getLast? = some state ∧ Connectivity.closed ∉ told := by
  generalize hnow : some state = now at h
  induction h generalizing state with
  | untold => cases hnow
  | closed => cases hnow
  | created =>
    obtain rfl := Option.some.inj hnow
    exact ⟨rfl, by decide⟩
  | moved _ _ hopen ih =>
    obtain rfl := Option.some.inj hnow
    refine ⟨List.getLast?_concat, fun hmem => ?_⟩
    rcases List.mem_append.mp hmem with hmem | hmem
    · exact (ih rfl).2 hmem
    · exact hopen (List.mem_singleton.mp hmem).symm

theorem ne_closed {state : Connectivity} (h : Life (some state) told) : state ≠ .closed := by
  obtain ⟨hlast, hnever⟩ := h.current
  rintro rfl
  exact hnever (List.mem_of_getLast? hlast)

/-- A session that goes on was told of at least once, when it began. -/
theorem ne_nil {state : Connectivity} (h : Life (some state) told) : told ≠ [] := by
  rintro rfl
  exact nomatch h.current.1

/-- **A life begins with a new session.** -/
theorem head?_eq (h : Life now told) : ∀ state ∈ told.head?, state = .new := by
  induction h with
  | untold => simp
  | created => simp
  | moved before _ _ ih | closed before ih =>
    rwa [List.head?_append_of_ne_nil _ before.ne_nil]

/-- **A life makes legal moves only.** -/
theorem legal (h : Life now told) : told.IsChain fun a b => a.canMoveTo b = true := by
  induction h with
  | untold => exact .nil
  | created => exact .singleton _
  | moved before hmove _ ih =>
    refine List.isChain_append.mpr ⟨ih, .singleton _, ?_⟩
    rw [before.current.1]
    rintro _ ⟨⟩ _ ⟨⟩
    exact hmove
  | @closed a told before ih =>
    refine List.isChain_append.mpr ⟨ih, .singleton _, ?_⟩
    have hopen := before.ne_closed
    rw [before.current.1]
    rintro _ ⟨⟩ _ ⟨⟩
    revert hopen
    cases a <;> decide

/-- **A life that is over was said to be closed at last, and once.** -/
theorem ended (h : Life none told) (hlived : told ≠ []) :
    told.getLast? = some .closed ∧ told.count .closed = 1 := by
  cases h with
  | untold => exact absurd rfl hlived
  | closed before =>
    refine ⟨List.getLast?_concat, ?_⟩
    rw [List.count_append, List.count_eq_zero.mpr before.current.2]
    rfl

end Life

/-! ## What the record says of lives -/

/-- The state of a session, where the viewer is told one. -/
def life? : Entry → Option (ℕ × Connectivity)
  | .asked (.tell (.connectivity id state)) _ => some (id, state)
  | _ => none

/-- The session a peer is asked for, and whether there is one then. -/
def creation? : Entry → Option (ℕ × Bool)
  | .asked (.createPeer setup) reply => some (setup.session, reply.isOk)
  | _ => none

/-- All that is told of the states of sessions. -/
def lives (record : List Entry) : List (ℕ × Connectivity) := record.filterMap life?

/-- The sessions for which a peer is asked for. -/
def creations (record : List Entry) : List (ℕ × Bool) := record.filterMap creation?

/-- The states told of one session. -/
def lifeOf (id : ℕ) (record : List Entry) : List Connectivity :=
  (lives record).filterMap fun p => if p.1 = id then some p.2 else none

@[simp] theorem lives_append (es fs : List Entry) : lives (es ++ fs) = lives es ++ lives fs :=
  List.filterMap_append

@[simp] theorem creations_append (es fs : List Entry) :
    creations (es ++ fs) = creations es ++ creations fs :=
  List.filterMap_append

/-- Entries that say nothing of the states of sessions, and make no peer. -/
def IsSilent (e : Entry) : Prop := life? e = none ∧ creation? e = none

/-- A silent record tells nothing of sessions. -/
theorem lives_of_silent {es : List Entry} (h : ∀ e ∈ es, IsSilent e) : lives es = [] :=
  List.filterMap_eq_nil_iff.mpr fun e he => (h e he).1

theorem creations_of_silent {es : List Entry} (h : ∀ e ∈ es, IsSilent e) : creations es = [] :=
  List.filterMap_eq_nil_iff.mpr fun e he => (h e he).2

theorem silent_of_backstage {es : List Entry} (h : ∀ e ∈ es, IsBackstage e) :
    ∀ e ∈ es, IsSilent e := by
  intro e he
  cases h e he <;> exact ⟨rfl, rfl⟩

theorem silent_shownTransfers (reports : List TransferProgress) :
    ∀ x ∈ shownTransfers reports, IsSilent x :=
  List.forall_mem_map.mpr fun _ _ => ⟨rfl, rfl⟩

theorem silent_stops (media : List LocalMedia) : ∀ x ∈ stops media, IsSilent x :=
  List.forall_mem_map.mpr fun _ _ => ⟨rfl, rfl⟩

theorem silent_shown {e : ViewerEvent} (he : e.IsPlain) : IsSilent (shown e) := by
  cases e <;> first | exact he.elim | exact ⟨rfl, rfl⟩

theorem silent_aside {x : Entry} (h : Supervisor.IsAside x) : IsSilent x := by
  cases h <;> exact ⟨rfl, rfl⟩

theorem creations_shownChange (before : Connectivity) (m : Machine) :
    creations (shownChange before m) = [] := by
  rw [shownChange]
  split_ifs <;> rfl

namespace Supervisor

/-! ## The latest session -/

/-- The number of the latest session, and its state while it is the current one. -/
structure LatestSession where
  last : ℕ
  now : Option Connectivity

/-- The latest session of a supervisor. -/
def latestSession (s : Supervisor) : LatestSession := ⟨s.lastSession, s.connectivity⟩

/-- What can become of the latest session, with all that is told meanwhile and the peers that are
asked for. -/
inductive Advance : LatestSession → List (ℕ × Connectivity) → List (ℕ × Bool) → LatestSession → Prop
  | still (p : LatestSession) : Advance p [] [] p
  | moved {n : ℕ} {a b : Connectivity} (hmove : a.canMoveTo b = true) (hopen : b ≠ .closed) :
    Advance ⟨n, some a⟩ [(n, b)] [] ⟨n, some b⟩
  | ended {n : ℕ} {a : Connectivity} : Advance ⟨n, some a⟩ [(n, .closed)] [] ⟨n, none⟩
  | refused {n : ℕ} : Advance ⟨n, none⟩ [] [(n + 1, false)] ⟨n + 1, none⟩
  | created {n : ℕ} : Advance ⟨n, none⟩ [(n + 1, .new)] [(n + 1, true)] ⟨n + 1, some .new⟩

/-- The negotiation of a session that goes on. -/
structure Ongoing (n : ℕ) (m : Machine) : Prop where
  session : m.session = n
  opened : m.state ≠ .closed
  restart : m.restartInFlight = true → m.state ≠ .new

/-- The current session is the latest one, and goes on. -/
def LatestOngoing (s : Supervisor) : Prop := ∀ live ∈ s.session, Ongoing s.lastSession live.machine

/-- What a move tells of the states of sessions, and that the current session is still the latest
one. -/
structure TellsStates (s : Supervisor) (es : List Entry) (s' : Supervisor) : Prop where
  advance : Advance s.latestSession (lives es) (creations es) s'.latestSession
  latestOngoing : s'.LatestOngoing

section
variable {P : Grant} {l : RelayLink} {s s' : Supervisor} {es fs gs : List Entry}
  {live : LiveSession}

theorem latestSession_of_eq_some (hs : s.session = some live) :
    s.latestSession = ⟨s.lastSession, some live.machine.state⟩ := by
  rw [latestSession, connectivity, hs]
  rfl

theorem latestSession_of_eq_none (hs : s.session = none) :
    s.latestSession = ⟨s.lastSession, none⟩ := by
  rw [latestSession, connectivity, hs]
  rfl

theorem sessionId_of_eq_some (hs : s.session = some live) : s.sessionId = some live.id :=
  congrArg (Option.map LiveSession.id) hs

theorem sessionId_of_eq_none (hs : s.session = none) : s.sessionId = none :=
  congrArg (Option.map LiveSession.id) hs

theorem sessionId_ne (hs : s.session = none) (id : ℕ) : s.sessionId ≠ some id := by
  rw [sessionId_of_eq_none hs]
  exact nofun

/-- The current session is the latest one as soon as its negotiation belongs to it. -/
theorem latestOngoing_of_eq_some (hs : s.session = some live)
    (h : Ongoing s.lastSession live.machine) :
    s.LatestOngoing := by
  intro other hother
  obtain rfl := Option.some.inj (hs.symm.trans hother)
  exact h

/-- Nothing is said, and the state of the session is as before. -/
theorem tellsStates_of_silent (ha : s'.LatestOngoing) (hes : ∀ x ∈ es, IsSilent x)
    (hlast : s'.lastSession = s.lastSession) (hnow : s'.connectivity = s.connectivity) :
    TellsStates s es s' := by
  refine ⟨?_, ha⟩
  rw [lives_of_silent hes, creations_of_silent hes]
  have hlatest : s'.latestSession = s.latestSession := by
    rw [latestSession, latestSession, hlast, hnow]
  rw [hlatest]
  exact .still _

/-- Nothing is said, and the current session, though it changes, is in the same state. -/
theorem tellsStates_of_state_eq {live' : LiveSession} (hs : s.session = some live)
    (hs' : s'.session = some live') (hlast : s'.lastSession = s.lastSession)
    (hm : Ongoing s.lastSession live'.machine) (hstate : live'.machine.state = live.machine.state)
    (hes : ∀ x ∈ es, IsSilent x) : TellsStates s es s' := by
  refine tellsStates_of_silent (latestOngoing_of_eq_some hs' (hlast ▸ hm)) hes hlast ?_
  rw [connectivity, connectivity, hs, hs', Option.map_some, Option.map_some, hstate]

/-- The negotiation goes on. -/
theorem Ongoing.moves {n : ℕ} {m m' : Machine} (hm : Ongoing n m) (hmoves : Machine.Moves m m')
    (hsession : m'.session = m.session) (hopen : m'.state ≠ .closed) : Ongoing n m' :=
  ⟨hsession.trans hm.session, hopen, hmoves.restart hm.restart⟩

/-- The negotiation of the current session goes on, and the viewer is told. -/
theorem tellsStates_of_moves {live' : LiveSession} {m : Machine} (ha : s.LatestOngoing)
    (hs : s.session = some live) (hs' : s'.session = some live') (hm : live'.machine = m)
    (hlast : s'.lastSession = s.lastSession) (hmoves : Machine.Moves live.machine m)
    (hsession : m.session = live.machine.session) (hopen : m.state ≠ .closed)
    (hes : ∀ x ∈ es, IsSilent x) (hfs : ∀ x ∈ fs, IsSilent x) :
    TellsStates s (es ++ (shownChange live.machine.state m ++ fs)) s' := by
  subst hm
  have hongoing : Ongoing s.lastSession live'.machine := (ha live hs).moves hmoves hsession hopen
  refine ⟨?_, latestOngoing_of_eq_some hs' (hlast ▸ hongoing)⟩
  rw [lives_append, lives_append, lives_of_silent hes, lives_of_silent hfs, creations_append,
    creations_append, creations_of_silent hes, creations_of_silent hfs, creations_shownChange,
    List.append_nil, latestSession_of_eq_some hs, latestSession_of_eq_some hs', hlast, shownChange]
  split_ifs with hsame
  · rw [hsame]
    exact .still _
  · have hmove := hmoves.move.resolve_left hsame
    rw [← hongoing.session]
    exact .moved hmove hopen

/-- What the end of a session says of it. -/
theorem TearsDown.said (h : TearsDown s live es s') :
    lives es = (if live.machine.state = .closed then [] else [(live.id, .closed)])
      ∧ creations es = [] ∧ s'.session = none ∧ s'.lastSession = s.lastSession := by
  cases h with
  | @intro es change m released hstop =>
    have hreleases : ∀ x ∈ releases live released, IsSilent x :=
      List.forall_mem_append.mpr ⟨silent_stops _, List.forall_mem_singleton.mpr ⟨rfl, rfl⟩⟩
    have hcloses := silent_of_backstage (backstage_closes live)
    have hstops := silent_of_backstage (backstage_negotiation (l := default) hstop.entries)
    have hsilence : ∀ x ∈ shownSilence live s, IsSilent x := by
      rw [shownSilence]
      split_ifs
      · exact List.forall_mem_singleton.mpr ⟨rfl, rfl⟩
      · exact List.forall_mem_nil _
    have hreports := silent_shownTransfers s.transfers.onChannelClosed.1
    refine ⟨?_, ?_, rfl, rfl⟩
    · simp only [lives_append, lives_of_silent hreleases, lives_of_silent hcloses,
        lives_of_silent hreports, lives_of_silent hstops, lives_of_silent hsilence, List.nil_append,
        List.append_nil]
      cases hstop with
      | closed hclosed => rw [if_pos hclosed, shownChange, if_pos rfl]; rfl
      | stopped hopen =>
        have hended : shownChange live.machine.state live.machine.ended
            = [shown (.connectivity live.id .closed)] := if_neg hopen.symm
        rw [if_neg hopen, hended]
        rfl
    · simp only [creations_append, creations_of_silent hreleases, creations_of_silent hcloses,
        creations_of_silent hreports, creations_of_silent hstops, creations_of_silent hsilence,
        creations_shownChange, List.append_nil]

/-- The end of the current session. -/
theorem tellsStates_of_past (ha : s.LatestOngoing) (hs : s.session = some live)
    (hlives : lives es = [(live.id, .closed)]) (hcreations : creations es = [])
    (hend : s'.session = none) (hlast : s'.lastSession = s.lastSession) : TellsStates s es s' := by
  refine ⟨?_, fun other hother => ?_⟩
  · have hid : live.id = s.lastSession := (ha live hs).session
    rw [latestSession_of_eq_some hs, latestSession_of_eq_none hend, hlast, hlives, hcreations, hid]
    exact .ended
  · rw [hend] at hother
    cases hother

/-- What a negotiation that goes on makes of its state. -/
theorem moves_of_continues {H : Envelope → List Entry → Prop} {m m' : Machine} {c : Machine.Call}
    {r : Machine.Outcome} (hcall : Continues c) (h : Machine.Performs H m c es r m') :
    Machine.Moves m m' ∧ (m.state ≠ .closed → m'.state ≠ .closed) ∧ m'.session = m.session := by
  cases h with
  | descriptor h => exact ⟨h.moves.1, h.moves.2, h.session_eq⟩
  | candidate h => exact ⟨h.moves.1, h.moves.2, by cases h <;> rfl⟩
  | offer h => exact ⟨h.moves.1, h.moves.2, h.session_eq⟩
  | report => exact hcall.elim
  | stop => exact hcall.elim

/-- What is needed to talk. -/
theorem of_canTalk (h : s.canTalk live = true) :
    s.config.talkBack = true ∧ s.flags.talking = false ∧ live.machine.state = .connected := by
  rw [canTalk, Bool.and_eq_true, Bool.and_eq_true, Bool.and_eq_true, Bool.not_eq_true'] at h
  exact ⟨h.1.1.1, h.1.1.2, of_decide_eq_true h.1.2⟩

/-- An offer in a session whose media may go live leaves its state as it is. -/
theorem tellsStates_of_offer {live' : LiveSession} {m : Machine} {r : Except PeerError Unit}
    (ha : s.LatestOngoing) (hs : s.session = some live) (htalk : s.canTalk live = true)
    (hoffer : Machine.Offers (Writes l) false live.machine fs r m) (hs' : s'.session = some live')
    (hm : live'.machine = m) (hlast : s'.lastSession = s.lastSession) (hes : ∀ x ∈ es, IsSilent x) :
    TellsStates s es s' := by
  subst hm
  obtain ⟨hmoves, hopen⟩ := hoffer.moves
  have hongoing := (ha live hs).moves hmoves hoffer.session_eq (hopen (ha live hs).opened)
  have hstate := hoffer.state_eq (of_canTalk htalk).2.2
  exact tellsStates_of_state_eq hs hs' hlast hongoing hstate hes

/-- To take up talking a source is acquired, attached, announced and offered; none of that is told
of. -/
theorem silent_talk {source : LocalMedia} {session : ℕ} {e : Envelope} {r : Except LinkError Unit}
    {m m' : Machine} {offered : Except PeerError Unit} (hstart : Sends l e es r)
    (hoffer : Machine.Offers (Writes l) false m fs offered m') (hgs : ∀ x ∈ gs, IsSilent x) :
    ∀ x ∈ Entry.asked .acquireMedia (.ok source)
      :: Machine.told session (.attachMedia source) (.ok ()) :: (es ++ (fs ++ gs)), IsSilent x := by
  refine List.forall_mem_cons.mpr ⟨⟨rfl, rfl⟩, List.forall_mem_cons.mpr ⟨⟨rfl, rfl⟩, ?_⟩⟩
  have hstarted := silent_of_backstage hstart.backstage
  have hoffered := silent_of_backstage (backstage_negotiation hoffer.entries)
  exact List.forall_mem_append.mpr ⟨hstarted, List.forall_mem_append.mpr ⟨hoffered, hgs⟩⟩

/-- **Every move tells of the states of sessions what becomes of them.** -/
theorem Move.tellsStates (ha : s.LatestOngoing) (h : Move P l s es s') : TellsStates s es s' := by
  cases h with
  | tell he =>
    exact tellsStates_of_silent ha (List.forall_mem_singleton.mpr (silent_shown he)) rfl rfl
  | send _ h | candidate _ _ h =>
    exact tellsStates_of_silent ha (silent_of_backstage h.backstage) rfl rfl
  | servers | control | recording | clear =>
    exact tellsStates_of_silent ha (List.forall_mem_nil _) rfl rfl
  | catalog | talkDenied =>
    exact tellsStates_of_silent ha (List.forall_mem_singleton.mpr ⟨rfl, rfl⟩) rfl rfl
  | enqueue _ _ h | drained _ _ h =>
    refine tellsStates_of_silent ha (List.forall_mem_append.mpr ⟨?_, silent_shownTransfers _⟩)
      rfl rfl
    exact silent_of_backstage (backstage_asks h.entries)
  | negotiate hs hcall h =>
    obtain ⟨hmoves, hopen, hsession⟩ := moves_of_continues hcall h
    rw [← List.append_nil (shownChange _ _)]
    exact tellsStates_of_moves ha hs rfl rfl rfl hmoves hsession (hopen (ha _ hs).opened)
      (silent_of_backstage (backstage_negotiation h.entries)) (List.forall_mem_nil _)
  | report hs h hstate =>
    rw [← List.append_nil (shownChange _ _)]
    refine tellsStates_of_moves ha hs rfl rfl rfl (h.moves (ha _ hs).restart) h.session_eq ?_
      (silent_of_backstage (backstage_negotiation h.entries)) (List.forall_mem_nil _)
    rcases hstate with hsame | ⟨-, -, hopen⟩
    · rw [hsame]
      exact (ha _ hs).opened
    · exact hopen
  | degrade hs h _ hstate released =>
    refine tellsStates_of_moves ha hs rfl rfl rfl (h.moves (ha _ hs).restart) h.session_eq ?_
      (silent_of_backstage (backstage_negotiation h.entries)) ?_
    · rcases hstate with hstate | hstate <;> simp [hstate]
    · refine List.forall_mem_append.mpr ⟨List.forall_mem_append.mpr ⟨silent_stops _, ?_⟩, ?_⟩
      · exact List.forall_mem_singleton.mpr ⟨rfl, rfl⟩
      · exact List.forall_mem_singleton.mpr ⟨rfl, rfl⟩
  | @collapse live reported es fs change m s' hs h hchange hstate hend =>
    obtain ⟨hlives, hcreations, hnone, hlast⟩ := hend.said
    have hes := silent_of_backstage (backstage_negotiation h.entries)
    have hid : m.session = live.id := h.session_eq
    refine tellsStates_of_past ha hs ?_ ?_ hnone hlast
    · rw [lives_append, lives_append, lives_of_silent hes, hlives, if_pos hstate, shownChange,
        if_neg hchange, hid, hstate]
      rfl
    · rw [creations_append, creations_append, creations_of_silent hes, hcreations,
        creations_shownChange]
      rfl
  | channel hs => exact tellsStates_of_state_eq hs rfl rfl (ha _ hs :) rfl (List.forall_mem_nil _)
  | attach hs _ _ _ _ h =>
    refine tellsStates_of_state_eq hs rfl rfl (ha _ hs :) rfl ?_
    refine List.forall_mem_append.mpr ⟨silent_of_backstage (backstage_asks h.entries), ?_⟩
    exact silent_shownTransfers _
  | detach hs => exact tellsStates_of_state_eq hs rfl rfl (ha _ hs :) rfl (silent_shownTransfers _)
  | talkRefused =>
    refine tellsStates_of_silent ha (List.forall_mem_cons.mpr ⟨⟨rfl, rfl⟩, ?_⟩) rfl rfl
    exact List.forall_mem_cons.mpr ⟨⟨rfl, rfl⟩, List.forall_mem_singleton.mpr ⟨rfl, rfl⟩⟩
  | talkFailed hs htalk source hstart hoffer hstop =>
    refine tellsStates_of_offer ha hs htalk hoffer rfl rfl rfl (silent_talk hstart hoffer ?_)
    exact List.forall_mem_append.mpr ⟨silent_stops _, silent_of_backstage hstop.backstage⟩
  | talkStarted hs htalk source hstart hoffer =>
    refine tellsStates_of_offer ha hs htalk hoffer rfl rfl rfl (silent_talk hstart hoffer ?_)
    exact List.forall_mem_singleton.mpr ⟨rfl, rfl⟩
  | talkStopped hs _ hstop =>
    refine tellsStates_of_state_eq hs rfl rfl (ha _ hs :) rfl ?_
    have hwritten := silent_of_backstage hstop.backstage
    refine List.forall_mem_append.mpr ⟨silent_stops _, List.forall_mem_append.mpr ⟨hwritten, ?_⟩⟩
    exact List.forall_mem_singleton.mpr ⟨rfl, rfl⟩
  | teardown hs h =>
    obtain ⟨hlives, hcreations, hnone, hlast⟩ := h.said
    rw [if_neg (ha _ hs).opened] at hlives
    exact tellsStates_of_past ha hs hlives hcreations hnone hlast
  | refused hs =>
    have hnone : { s with lastSession := s.lastSession + 1 }.session = none := hs
    refine ⟨?_, fun live hlive => ?_⟩
    · rw [latestSession_of_eq_none hs, latestSession_of_eq_none hnone]
      exact .refused
    · rw [hs] at hlive
      cases hlive
  | created hs =>
    refine ⟨?_, latestOngoing_of_eq_some rfl ⟨rfl, by simp, by simp⟩⟩
    rw [latestSession_of_eq_none hs]
    exact .created

end

/-! ## Runs

The record of a run is the histories of its sessions, one after the other; each move continues them
by what becomes of the latest session. -/

/-- A record up to the latest session: each session has had a life, and they came one after the
other. -/
structure TellsHistories (record : List Entry) (p : LatestSession) : Prop where
  life : ∀ id, Life (if id = p.last then p.now else none) (lifeOf id record)
  told_le : ∀ x ∈ lives record, x.1 ≤ p.last
  asked_le : ∀ x ∈ creations record, x.1 ≤ p.last
  ordered : (lives record).Pairwise fun x y => x.1 ≤ y.1
  increasing : (creations record).Pairwise fun x y => x.1 < y.1
  created_iff : ∀ id, (id, true) ∈ creations record ↔ lifeOf id record ≠ []

/-- The states told of a session, after a few more were told. -/
theorem lifeOf_append (id : ℕ) (es fs : List Entry) :
    lifeOf id (es ++ fs)
      = lifeOf id es ++ (lives fs).filterMap fun p => if p.1 = id then some p.2 else none := by
  rw [lifeOf, lives_append, List.filterMap_append, lifeOf]

/-- Nothing was told of sessions yet to come. -/
theorem TellsHistories.lifeOf_eq_nil {record : List Entry} {p : LatestSession}
    (h : TellsHistories record p) {id : ℕ} (hid : p.last < id) : lifeOf id record = [] := by
  refine List.filterMap_eq_nil_iff.mpr fun x hx => if_neg ?_
  rintro rfl
  exact absurd (h.told_le x hx) (not_le.mpr hid)

/-- The histories go on with a state that is told of the latest session. -/
theorem TellsHistories.tell {record es : List Entry} {n : ℕ} {a b : Option Connectivity}
    {state : Connectivity} (h : TellsHistories record ⟨n, a⟩) (hlives : lives es = [(n, state)])
    (hcreations : creations es = []) (hlife : Life b (lifeOf n record ++ [state]))
    (hborn : lifeOf n record ≠ []) :
    TellsHistories (record ++ es) ⟨n, b⟩ := by
  have hlifeOf : ∀ id, lifeOf id (record ++ es)
      = lifeOf id record ++ if n = id then [state] else [] := by
    intro id
    rw [lifeOf_append, hlives]
    by_cases hid : n = id <;> simp [hid]
  refine ⟨fun id => ?_, fun x hx => ?_, ?_, ?_, ?_, fun id => ?_⟩
  · rw [hlifeOf]
    by_cases hid : id = n
    · subst hid
      rwa [if_pos rfl, if_pos rfl]
    · have hsame := h.life id
      rw [if_neg hid] at hsame
      rwa [if_neg hid, if_neg (Ne.symm hid), List.append_nil]
  · rw [lives_append, hlives] at hx
    rcases List.mem_append.mp hx with hx | hx
    · exact h.told_le x hx
    · obtain rfl := List.mem_singleton.mp hx
      exact le_rfl
  · rw [creations_append, hcreations, List.append_nil]
    exact h.asked_le
  · rw [lives_append, hlives]
    refine List.pairwise_append.mpr ⟨h.ordered, List.pairwise_singleton _ _, fun x hx y hy => ?_⟩
    obtain rfl := List.mem_singleton.mp hy
    exact h.told_le x hx
  · rw [creations_append, hcreations, List.append_nil]
    exact h.increasing
  · rw [creations_append, hcreations, List.append_nil, h.created_iff, hlifeOf]
    by_cases hid : n = id
    · subst hid
      simp [hborn]
    · simp [hid]

/-- The histories go on with a peer that is asked for. -/
theorem TellsHistories.ask {record es : List Entry} {n : ℕ} {m : Bool}
    (h : TellsHistories record ⟨n, none⟩) (hlives : lives es = if m then [(n + 1, .new)] else [])
    (hcreations : creations es = [(n + 1, m)]) :
    TellsHistories (record ++ es) ⟨n + 1, if m then some .new else none⟩ := by
  have hfresh : lifeOf (n + 1) record = [] := h.lifeOf_eq_nil (Nat.lt_succ_self n)
  have hlifeOf : ∀ id, lifeOf id (record ++ es)
      = lifeOf id record ++ if n + 1 = id ∧ m = true then [.new] else [] := by
    intro id
    rw [lifeOf_append, hlives]
    by_cases hid : n + 1 = id <;> cases m <;> simp [hid]
  refine ⟨fun id => ?_, fun x hx => ?_, fun x hx => ?_, ?_, ?_, fun id => ?_⟩
  · rw [hlifeOf]
    by_cases hid : id = n + 1
    · subst hid
      rw [hfresh, if_pos rfl]
      cases m
      · simpa using Life.untold
      · simpa using Life.created
    · have hsame := h.life id
      rw [ite_self] at hsame
      rwa [if_neg hid, if_neg fun hnew => hid hnew.1.symm, List.append_nil]
  · rw [lives_append, hlives] at hx
    rcases List.mem_append.mp hx with hx | hx
    · exact (h.told_le x hx).trans (Nat.le_succ n)
    · cases m
      · cases hx
      · obtain rfl := List.mem_singleton.mp hx
        exact le_rfl
  · rw [creations_append, hcreations] at hx
    rcases List.mem_append.mp hx with hx | hx
    · exact (h.asked_le x hx).trans (Nat.le_succ n)
    · obtain rfl := List.mem_singleton.mp hx
      exact le_rfl
  · rw [lives_append, hlives]
    refine List.pairwise_append.mpr ⟨h.ordered, by cases m <;> simp, fun x hx y hy => ?_⟩
    cases m
    · cases hy
    · obtain rfl := List.mem_singleton.mp hy
      exact (h.told_le x hx).trans (Nat.le_succ n)
  · rw [creations_append, hcreations]
    refine List.pairwise_append.mpr ⟨h.increasing, List.pairwise_singleton _ _, fun x hx y hy => ?_⟩
    obtain rfl := List.mem_singleton.mp hy
    exact Nat.lt_succ_of_le (h.asked_le x hx)
  · rw [creations_append, hcreations, List.mem_append, h.created_iff, hlifeOf]
    by_cases hid : n + 1 = id
    · subst hid
      cases m <;> simp [hfresh]
    · simp [hid, Ne.symm hid]

/-- At the start there is no session, and nothing was told. -/
theorem tellsHistories_start : TellsHistories [] ⟨0, none⟩ where
  life id := by
    rw [ite_self]
    exact .untold
  told_le := List.forall_mem_nil _
  asked_le := List.forall_mem_nil _
  ordered := .nil
  increasing := .nil
  created_iff _ := by simp [creations, lifeOf, lives]

/-- **Whatever becomes of the latest session continues the histories.** -/
theorem TellsHistories.advance {record es : List Entry} {p p' : LatestSession}
    (h : TellsHistories record p) (hb : Advance p (lives es) (creations es) p') :
    TellsHistories (record ++ es) p' := by
  generalize hlives : lives es = ls at hb
  generalize hcreations : creations es = cs at hb
  cases hb with
  | still =>
    have hlifeOf : ∀ id, lifeOf id (record ++ es) = lifeOf id record := by
      intro id
      rw [lifeOf_append, hlives, List.filterMap_nil, List.append_nil]
    have hl : lives (record ++ es) = lives record := by rw [lives_append, hlives, List.append_nil]
    have hc : creations (record ++ es) = creations record := by
      rw [creations_append, hcreations, List.append_nil]
    exact ⟨fun id => hlifeOf id ▸ h.life id, hl ▸ h.told_le, hc ▸ h.asked_le, hl ▸ h.ordered,
      hc ▸ h.increasing, fun id => by rw [hc, hlifeOf, h.created_iff]⟩
  | @moved n a b hmove hopen =>
    have hlife := h.life n
    rw [if_pos rfl] at hlife
    exact h.tell hlives hcreations (hlife.moved hmove hopen) hlife.ne_nil
  | @ended n a =>
    have hlife := h.life n
    rw [if_pos rfl] at hlife
    exact h.tell hlives hcreations hlife.closed hlife.ne_nil
  | refused => exact h.ask (m := false) hlives hcreations
  | created => exact h.ask (m := true) hlives hcreations

/-- On a trail the record tells the histories of all sessions. -/
theorem Trail.tellsHistories {config : ClientConfig} {record : List Entry} {s : Supervisor}
    (ht : Trail config record s) : TellsHistories record s.latestSession ∧ s.LatestOngoing := by
  induction ht with
  | start => exact ⟨tellsHistories_start, fun live hlive => nomatch hlive⟩
  | aside _ hes ih =>
    have htells := tellsStates_of_silent ih.2 (fun x hx => silent_aside (hes x hx)) rfl rfl
    exact ⟨ih.1.advance htells.advance, ih.2⟩
  | move _ hm ih =>
    have htells := hm.tellsStates ih.2
    exact ⟨ih.1.advance htells.advance, htells.latestOngoing⟩

/-- The current session is alive in the record, in the state it is in. -/
theorem Trail.current {config : ClientConfig} {record : List Entry} {s : Supervisor}
    {live : LiveSession} (ht : Trail config record s) (hlive : s.session = some live) :
    Life (some live.machine.state) (lifeOf live.id record) := by
  obtain ⟨hc, ha⟩ := ht.tellsHistories
  have hlife := hc.life live.id
  have hlast : live.id = s.latestSession.last := (ha live hlive).session
  rwa [if_pos hlast, latestSession_of_eq_some hlive] at hlife

/-- A session that had a peer and is not the current one is over. -/
theorem Trail.past {config : ClientConfig} {record : List Entry} {s : Supervisor} {id : ℕ}
    (ht : Trail config record s) (hid : (id, true) ∈ creations record)
    (hother : s.sessionId ≠ some id) :
    (lifeOf id record).getLast? = some .closed ∧ (lifeOf id record).count .closed = 1 := by
  obtain ⟨hc, ha⟩ := ht.tellsHistories
  have hlife := hc.life id
  have hnone : (if id = s.latestSession.last then s.latestSession.now else none) = none := by
    refine ite_eq_right_iff.mpr fun hlast => Option.map_eq_none_iff.mpr ?_
    refine Option.eq_none_iff_forall_not_mem.mpr fun live hlive => hother ?_
    rw [sessionId, Option.mem_def.mp hlive, hlast]
    exact congrArg some (ha live hlive).session
  rw [hnone] at hlife
  exact hlife.ended ((hc.created_iff id).mp hid)

/-- What the viewer is told of sessions is legal and true. -/
structure TellsLegalLives (record : List Entry) (s : Supervisor) : Prop where
  /-- A session is first said to be new. -/
  begins : ∀ id, ∀ state ∈ (lifeOf id record).head?, state = .new
  /-- What follows on a state is a legal move. -/
  legal : ∀ id, (lifeOf id record).IsChain fun a b => a.canMoveTo b = true
  /-- The last that is told of the current session is the state of its negotiation, -/
  current : ∀ live ∈ s.session, (lifeOf live.id record).getLast? = some live.machine.state
  /-- which is not closed. -/
  opened : ∀ live ∈ s.session, live.machine.state ≠ .closed
  /-- Any other session that ever had a peer is closed at last, and once. -/
  past : ∀ id, (id, true) ∈ creations record → s.sessionId ≠ some id →
    (lifeOf id record).getLast? = some .closed ∧ (lifeOf id record).count .closed = 1
  /-- Sessions have ever greater numbers, -/
  increasing : (creations record).Pairwise fun x y => x.1 < y.1
  /-- and nothing is told of an older one after a newer one. -/
  ordered : (lives record).Pairwise fun x y => x.1 ≤ y.1
  /-- Just the sessions that had a peer are told of. -/
  created_iff : ∀ id, (id, true) ∈ creations record ↔ lifeOf id record ≠ []

/-- **The viewer sees the true and legal life of every session**, in every run of a supervisor. -/
theorem Run.tellsLegalLives {config : ClientConfig} {steps : List Step} {s : Supervisor}
    (hr : Run config steps s) : TellsLegalLives (recordOf steps) s := by
  have ht := hr.trail
  obtain ⟨hc, ha⟩ := ht.tellsHistories
  exact ⟨fun id => (hc.life id).head?_eq, fun id => (hc.life id).legal,
    fun live hlive => (ht.current hlive).current.1, fun live hlive => (ha live hlive).opened,
    fun id hid hother => ht.past hid hother, hc.increasing, hc.ordered, hc.created_iff⟩

/-- A link that is open. -/
def sampleLink : RelayLink :=
  { RelayLink.new "wss://relay" 5000 with state := .opened, socket := some 7 }

/-- Two openings of the link; the peer of the first session connects and then closes. -/
def sampleSteps : List Step :=
  let first := play (new {}) sampleLink .linkOpen
  let second := first.after.play sampleLink (.peer ⟨1, .connectivity .connected⟩)
  let third := second.after.play sampleLink (.peer ⟨1, .connectivity .closed⟩)
  [first, second, third, third.after.play sampleLink .linkOpen]

/-- Of the sample the viewer sees one whole life, and the beginning of another. -/
theorem tellsLegalLives_sampleSteps :
    ∃ s, Run {} sampleSteps s ∧ TellsLegalLives (recordOf sampleSteps) s
    ∧ lifeOf 1 (recordOf sampleSteps) = [.new, .connected, .closed]
    ∧ lifeOf 2 (recordOf sampleSteps) = [.new] := by
  have hstart : Run {} [] (new {}) := .start
  have hfirst := hstart.play sampleLink .linkOpen
  have hsecond := hfirst.play sampleLink (.peer ⟨1, .connectivity .connected⟩)
  have hthird := hsecond.play sampleLink (.peer ⟨1, .connectivity .closed⟩)
  have hr := hthird.play sampleLink .linkOpen
  exact ⟨_, hr, hr.tellsLegalLives, by decide, by decide⟩

end Supervisor

end CameraViewer.Session
