import CameraViewer.Proofs.Session.Deliveries
import CameraViewer.Proofs.Session.Endings
import CameraViewer.Proofs.Signal.Servers

/-!
# Proofs/Session/Servers — which servers a peer is made with

The relay may announce servers at any time, and they outlive the session: they are kept for the next
peer, whatever happens until then. So a peer is made with the servers that were announced last
before the link opened, or with the configured ones (`LastAnnounced`). No other call asks for a
peer, and no session is set up twice, so what is announced later does not reach it
(`Run.usesLastAnnounced`).
-/

namespace CameraViewer.Session

open Channel Config Control Link Negotiation Peer Signal Transfer World

/-! ## What the record says of setups -/

/-- What a peer is to be made with, where one is asked for. -/
def setup? : Entry → Option PeerSetup
  | .asked (.createPeer setup) _ => some setup
  | _ => none

/-- What the peers that were asked for are made with, in order. -/
def setupsIn (record : List Entry) : List PeerSetup := record.filterMap setup?

@[simp] theorem setupsIn_append (es fs : List Entry) :
    setupsIn (es ++ fs) = setupsIn es ++ setupsIn fs :=
  List.filterMap_append

/-- A setup names the session that its peer is for. -/
theorem sessions_setupsIn (record : List Entry) :
    (setupsIn record).map PeerSetup.session = (creations record).map Prod.fst := by
  rw [setupsIn, creations, List.map_filterMap, List.map_filterMap]
  refine List.filterMap_congr fun e _ => ?_
  unfold setup? creation?
  split <;> simp_all

/-- Setups ascend as the sessions do. -/
theorem ascending_setupsIn {record : List Entry}
    (h : (creations record).Pairwise fun x y => x.1 < y.1) :
    (setupsIn record).Pairwise fun a b => a.session < b.session := by
  have hsessions : ((creations record).map Prod.fst).Pairwise (· < ·) := List.pairwise_map.mpr h
  rw [← sessions_setupsIn] at hsessions
  exact List.pairwise_map.mp hsessions

/-- Where no peer is asked for, there is no setup. -/
theorem setupsIn_eq_nil {record : List Entry} (h : creations record = []) :
    setupsIn record = [] := by
  rw [← List.map_eq_nil_iff (f := PeerSetup.session), sessions_setupsIn, h, List.map_nil]

namespace Supervisor

/-! ## Which call announces servers -/

/-- A call brings a text that announces servers. -/
def Call.Announces (call : Call) (servers : List IceServer) : Prop :=
  ∃ text, call = .frame text ∧ Signal.Announces text servers

/-- What the relay announced last, or the configured servers where it announced none. -/
inductive LastAnnounced (config : ClientConfig) : List Step → List IceServer → Prop
  | configured {steps : List Step} (h : ∀ step ∈ steps, ∀ servers, ¬step.call.Announces servers) :
    LastAnnounced config steps config.iceServers
  | announced {before after : List Step} {step : Step} {servers : List IceServer}
    (h : step.call.Announces servers)
    (hafter : ∀ later ∈ after, ∀ servers, ¬later.call.Announces servers) :
    LastAnnounced config (before ++ step :: after) servers

section
variable {config : ClientConfig} {steps : List Step} {step : Step} {servers : List IceServer}

/-- Before any call the configured servers stand. -/
theorem lastAnnounced_nil_iff : LastAnnounced config [] servers ↔ config.iceServers = servers := by
  constructor
  · intro h
    generalize hsteps : ([] : List Step) = steps at h
    cases h with
    | configured => rfl
    | announced => simp at hsteps
  · rintro rfl
    exact .configured (List.forall_mem_nil _)

/-- One more call announces other servers, or leaves those announced before. -/
theorem lastAnnounced_concat_iff : LastAnnounced config (steps ++ [step]) servers
    ↔ step.call.Announces servers
      ∨ (∀ servers, ¬step.call.Announces servers) ∧ LastAnnounced config steps servers := by
  constructor
  · intro h
    generalize hall : steps ++ [step] = all at h
    cases h with
    | configured hnone =>
      subst hall
      obtain ⟨hbefore, hstep⟩ := List.forall_mem_append.mp hnone
      exact .inr ⟨hstep step List.mem_cons_self, .configured hbefore⟩
    | announced h hafter =>
      rcases split_concat hall with ⟨rfl, rfl, -⟩ | ⟨rest, rfl, rfl⟩
      · exact .inl h
      · obtain ⟨hrest, hstep⟩ := List.forall_mem_append.mp hafter
        exact .inr ⟨hstep step List.mem_cons_self, .announced h hrest⟩
  · rintro (h | ⟨hstep, h⟩)
    · exact .announced h (List.forall_mem_nil _)
    · have hone : ∀ later ∈ [step], ∀ servers, ¬later.call.Announces servers :=
        List.forall_mem_singleton.mpr hstep
      cases h with
      | configured hnone => exact .configured (List.forall_mem_append.mpr ⟨hnone, hone⟩)
      | announced h hafter =>
        rw [List.append_assoc, List.cons_append]
        exact .announced h (List.forall_mem_append.mpr ⟨hafter, hone⟩)

end

/-! ## What keeps the servers

Only one handler writes the field, so every other operation is walked through and leaves it
(`keeps_run`). `Returns` is enough: what is asked on the way does not matter. -/

/-- The servers of the next session stay. -/
def Keeps (s s' : Supervisor) : Prop := s'.iceServers = s.iceServers

section
variable {ω : Type} [World ω] {s s' : Supervisor} {link : RelayLink} {live : LiveSession}
  {es : List Entry} {text : String}

/-- The end of a session keeps the servers for the next one. -/
theorem TearsDown.keeps (h : TearsDown s live es s') : Keeps s s' := by
  cases h
  rfl

theorem keeps_teardown (s : Supervisor) : Returns (σ := Recorded ω) s.teardown (Keeps s) := by
  cases hs : s.session with
  | none =>
    rw [teardown, hs]
    exact returns_pure rfl
  | some live => exact (yields_teardown_of hs).returns fun _ _ h => h.keeps

theorem keeps_shutdown (s : Supervisor) : Returns (σ := Recorded ω) s.shutdown (Keeps s) := by
  rw [shutdown]
  exact (keeps_teardown s).bind fun _ h => returns_pure h

theorem keeps_attachChannelIfReady (s : Supervisor) :
    Returns (σ := ω) s.attachChannelIfReady (Keeps s) := by
  rw [attachChannelIfReady]
  repeat' split
  · exact returns_pure rfl
  · exact returns_pure rfl
  · exact returns_pure rfl
  · exact returns_bind fun _ => returns_bind fun _ => returns_pure rfl

theorem keeps_releaseMedia (s : Supervisor) : Returns (σ := ω) s.releaseMedia (Keeps s) := by
  rw [releaseMedia]
  split
  · exact returns_pure rfl
  · repeat refine returns_bind fun _ => ?_
    exact returns_pure rfl

/-- What follows a change of the current session touches no servers. -/
theorem keeps_onTransition (t : Transition) (s : Supervisor) :
    Returns (σ := Recorded ω) (s.onTransition t) (Keeps s) := by
  rw [onTransition]
  split
  · exact returns_pure rfl
  refine returns_bind fun _ => ?_
  cases t.target with
  | connected => exact keeps_attachChannelIfReady s
  | disconnected | failed => exact keeps_releaseMedia s
  | closed => exact keeps_teardown s
  | new | connecting => exact returns_pure rfl

theorem keeps_onNotices (notices : List ChannelNotice) (s : Supervisor) :
    Returns (σ := ω) (onNotices notices s) (Keeps s) := by
  induction notices generalizing s with
  | nil => exact returns_pure rfl
  | cons notice rest ih =>
    cases notice with
    | notify message =>
      rw [onNotices]
      exact returns_bind fun _ => ih s
    | catalog c =>
      rw [onNotices, replaceCatalog, bind_assoc]
      exact returns_bind fun _ => ih { s with catalog := c.normalized }

theorem keeps_onPeerEvent (link : RelayLink) (s : Supervisor) (e : SessionEvent) :
    Returns (σ := Recorded ω) (s.onPeerEvent link e) (Keeps s) := by
  rw [onPeerEvent]
  split
  · exact returns_pure rfl
  rename_i live hs
  split
  case isFalse => exact returns_pure rfl
  cases e.event with
  | localCandidate | remoteTrack =>
    rw [onReport]
    exact returns_bind fun _ => returns_pure rfl
  | connectivity reported =>
    rw [onReport]
    refine returns_bind fun r => ?_
    obtain ⟨change, machine⟩ := r
    cases change with
    | none => exact returns_pure rfl
    | some t => exact keeps_onTransition t _
  | channelOpen channel =>
    rw [onReport]
    split
    · exact returns_pure rfl
    · exact keeps_attachChannelIfReady _
  | channelText text =>
    rw [onReport, onChannelText]
    split
    · exact keeps_onNotices _ s
    · exact returns_pure rfl
  | channelBinary => exact returns_pure rfl
  | channelClosed label =>
    rw [onReport]
    split
    · exact returns_pure rfl
    · exact returns_bind fun _ => returns_pure rfl
  | bufferedAmountLow label =>
    rw [onReport]
    split
    · exact returns_pure rfl
    · exact returns_bind fun _ => returns_bind fun _ => returns_pure rfl

theorem keeps_talk (link : RelayLink) (start : Bool) (s : Supervisor) :
    Returns (σ := ω) (s.talk link start) (Keeps s) := by
  rw [talk]
  split
  · exact returns_pure rfl
  rename_i live hs
  split
  · rw [talkStart]
    split
    · exact returns_pure rfl
    refine returns_bind fun acquired => ?_
    split
    · exact returns_pure rfl
    refine returns_bind fun attached => ?_
    split
    · exact returns_bind fun _ => returns_pure rfl
    rw [talkOver]
    refine returns_bind fun _ => returns_bind fun r => ?_
    split
    · exact returns_bind fun _ => returns_bind fun _ => returns_pure rfl
    · exact returns_bind fun _ => returns_pure rfl
  · rw [talkStop]
    split
    · exact returns_pure rfl
    · repeat refine returns_bind fun _ => ?_
      exact returns_pure rfl

theorem keeps_onCommand (link : RelayLink) (s : Supervisor) (c : SessionCommand) :
    Returns (σ := Recorded ω) (s.onCommand link c) (Keeps s) := by
  cases c with
  | offer =>
    rw [onCommand, offer]
    split
    · exact returns_pure rfl
    · exact returns_bind fun _ => returns_bind fun _ => returns_pure rfl
  | record start =>
    rw [onCommand, record]
    split
    · exact returns_pure rfl
    refine returns_bind fun r => ?_
    split <;> exact returns_pure rfl
  | talk start => exact keeps_talk link start s
  | sendClip name mime data =>
    rw [onCommand, sendClip]
    split
    · exact returns_bind fun _ => returns_pure rfl
    · exact returns_bind fun _ => returns_bind fun _ => returns_pure rfl
  | setControl | toggleControl | resetControls | status =>
    rw [onCommand]
    exact returns_bind fun _ => returns_pure rfl
  | stop | shutdown => exact keeps_shutdown s

/-- An opening of the link reads the servers, and keeps them. -/
theorem keeps_onLinkOpen (link : RelayLink) (s : Supervisor) :
    Returns (σ := Recorded ω) (s.onLinkOpen link) (Keeps s) := by
  rw [onLinkOpen]
  refine (keeps_teardown s).bind fun between h => ?_
  refine returns_bind fun reply => ?_
  split
  · exact returns_pure h
  · exact returns_bind fun _ => returns_pure h

/-- **Whatever else happens**, the servers of the next session stay. -/
theorem keeps_run (link : RelayLink) (s : Supervisor) {call : Call}
    (hcall : ∀ text, call ≠ .frame text) :
    Returns (σ := Recorded ω) (call.run link s) (Keeps s) := by
  cases call with
  | linkOpen => exact keeps_onLinkOpen link s
  | frame text => exact absurd rfl (hcall text)
  | peer event => exact keeps_onPeerEvent link s event
  | command cmd => exact keeps_onCommand link s cmd

/-! ## What changes them -/

/-- What becomes of the servers of the next session with a call: those that it announces are kept,
or those that were kept before. -/
inductive Registers (s : Supervisor) (call : Call) (s' : Supervisor) : Prop
  | announced (h : call.Announces s'.iceServers)
  | kept (h : ∀ servers, ¬call.Announces servers) (hkept : Keeps s s')

theorem Adopts.keeps {c : Option Catalog} (h : Adopts s c es s') : Keeps s s' := by
  cases h <;> rfl

/-- Only the handler of an announcement changes them. -/
theorem Handles.keeps {e : Envelope} (h : Handles link s e es s') (he : ∀ l, e ≠ .iceServers l) :
    Keeps s s' := by
  cases h with
  | iceServers l => exact absurd rfl (he l)
  | _ => rfl

/-- A text that carries another message announces none. -/
theorem not_announces_of_carries {c : Option Catalog} {e : Option Envelope} (h : Carries text c e)
    (he : ∀ l, e ≠ some (.iceServers l)) (servers : List IceServer) :
    ¬(Call.frame text).Announces servers := by
  rintro ⟨_, heq, hannounces⟩
  cases heq
  obtain ⟨c', l, hl, -⟩ := announces_iff.mp hannounces
  exact he l (carries_unique h hl).2

/-- **A text registers what it announces**, and nothing else. -/
theorem Handled.registers {routed : Routed} (h : Handled link s text es routed s') :
    Registers s (.frame text) s' := by
  cases h with
  | malformed h =>
    refine .kept ?_ rfl
    rintro servers ⟨_, heq, hannounces⟩
    cases heq
    obtain ⟨c, l, hl, -⟩ := announces_iff.mp hannounces
    exact h _ _ hl
  | ignored h => exact .kept (not_announces_of_carries h nofun) rfl
  | catalog h hc => exact .kept (not_announces_of_carries h nofun) hc.keeps
  | @message c e _ _ mid _ h hc he =>
    by_cases hservers : ∃ l, e = .iceServers l
    · obtain ⟨l, rfl⟩ := hservers
      cases he
      exact .announced ⟨text, rfl, announces_iff.mpr ⟨c, l, h, rfl⟩⟩
    · have hother : ∀ l, e ≠ .iceServers l := fun l hl => hservers ⟨l, hl⟩
      refine .kept (not_announces_of_carries h fun l hl => hother l (Option.some.inj hl)) ?_
      exact (he.keeps hother).trans hc.keeps

/-- **The servers of the next session change only with a text that announces others.** -/
theorem Call.registers {call : Call} (h : May (fun _ _ => call.run link s) es s') :
    Registers s call s' := by
  by_cases hframe : ∃ text, call = .frame text
  · obtain ⟨text, rfl⟩ := hframe
    refine h.spec (P := fun _ s' => Registers s (.frame text) s') fun ω _ => ?_
    exact (yields_handled link text s).bind_pure fun _ _ hr => hr.registers
  · have hother : ∀ text, call ≠ .frame text := fun text htext => hframe ⟨text, htext⟩
    refine .kept ?_ (h.returns fun ω _ => keeps_run link s hother)
    rintro servers ⟨text, htext, -⟩
    exact hother text htext

/-! ## What a peer is made with

The end of the session before comes between the announcement and the next peer, and keeps the
servers. -/

/-- The session that begins asks for its peer with what is kept. -/
theorem Begins.setupsIn_eq (h : Begins link s es s') : setupsIn es = [s.nextSetup] := by
  cases h with
  | refused | started => rfl
  | @offered m fs r h =>
    have hoffer : creations fs = [] :=
      creations_of_silent (silent_of_backstage (backstage_negotiation h.entries))
    have hnone : setupsIn (fs ++ shownChange .new m) = [] :=
      setupsIn_eq_nil (by rw [creations_append, hoffer, creations_shownChange]; rfl)
    exact congrArg (List.cons s.nextSetup) hnone

/-- The end of a session changes nothing of what the next peer is made with. -/
theorem TearsDown.nextSetup_eq (h : TearsDown s live es s') : s'.nextSetup = s.nextSetup := by
  cases h
  rfl

/-- **An opening of the link asks for one peer**, with the servers that are kept. -/
theorem yields_setup (link : RelayLink) (s : Supervisor) :
    Yields (ω := ω) (s.onLinkOpen link) fun es _ => setupsIn es = [s.nextSetup] := by
  refine (yields_begins link s).mono fun es s' h => ?_
  obtain ⟨-, h⟩ | ⟨live, ended, begun, between, -, rfl, hend, h⟩ := h
  · exact h.setupsIn_eq
  · rw [setupsIn_append, setupsIn_eq_nil hend.said.2.1, h.setupsIn_eq, hend.nextSetup_eq]
    rfl

end

/-! ## Runs -/

section
variable {config : ClientConfig} {steps : List Step} {s : Supervisor}

/-- What is said of the servers of the peers of a run. -/
structure UsesLastAnnounced (config : ClientConfig) (steps : List Step) : Prop where
  /-- An opening of the link asks for one peer, with the servers announced last before it. -/
  opened : ∀ before step later, steps = before ++ step :: later → step.call = .linkOpen →
    ∃ setup, setupsIn step.made = [setup]
      ∧ ∀ servers, LastAnnounced config before servers ↔ setup.iceServers = servers
  /-- No other call asks for a peer. -/
  only : ∀ step ∈ steps, step.call ≠ .linkOpen → setupsIn step.made = []
  /-- What a session was set up with is all that it is ever set up with. -/
  fixed : ∀ before later, steps = before ++ later → ∀ setup ∈ setupsIn (recordOf before),
    (setupsIn (recordOf steps)).filter (·.session = setup.session) = [setup]

/-- The servers for the next session are those announced last. -/
theorem Run.lastAnnounced_iff (hr : Run config steps s) {servers : List IceServer} :
    LastAnnounced config steps servers ↔ s.iceServers = servers := by
  induction hr with
  | start => exact lastAnnounced_nil_iff
  | call before hmay ih =>
    rw [lastAnnounced_concat_iff, ih]
    cases Call.registers hmay with
    | announced h =>
      constructor
      · rintro (h' | ⟨hnone, -⟩)
        · obtain ⟨text, rfl, hnew⟩ := h
          obtain ⟨_, heq, hnew'⟩ := h'
          cases heq
          exact announces_unique hnew hnew'
        · exact absurd h (hnone _)
      · rintro rfl
        exact .inl h
    | kept hnone hkept =>
      rw [hkept]
      exact ⟨fun h => (h.resolve_left (hnone _)).2, fun h => .inr ⟨hnone, h⟩⟩

/-- Where numbers ascend, each stands once. -/
theorem filter_session_eq {setups : List PeerSetup}
    (h : setups.Pairwise fun a b => a.session < b.session) {setup : PeerSetup}
    (hmem : setup ∈ setups) :
    setups.filter (·.session = setup.session) = [setup] := by
  obtain ⟨front, back, rfl⟩ := List.append_of_mem hmem
  obtain ⟨-, hback, hfront⟩ := List.pairwise_append.mp h
  have hearlier : front.filter (·.session = setup.session) = [] :=
    List.filter_eq_nil_iff.mpr fun x hx => by
      simpa using (hfront x hx setup List.mem_cons_self).ne
  have hlater : back.filter (·.session = setup.session) = [] :=
    List.filter_eq_nil_iff.mpr fun x hx => by
      simpa using ((List.pairwise_cons.mp hback).1 x hx).ne'
  rw [List.filter_append, hearlier, List.filter_cons_of_pos (by simp), hlater, List.nil_append]

/-- **Every peer is made with the servers that were announced last**, and keeps them. -/
theorem Run.usesLastAnnounced (hr : Run config steps s) : UsesLastAnnounced config steps := by
  refine ⟨fun before step later hsteps hcall => ?_, fun step hstep hcall => ?_,
    fun before later hsteps setup hsetup => ?_⟩
  · obtain ⟨hbefore, hmay⟩ := hr.split hsteps
    rw [hcall] at hmay
    have hsetup := hmay.spec fun ω _ => yields_setup step.link step.before
    exact ⟨_, hsetup, fun servers => hbefore.lastAnnounced_iff⟩
  · obtain ⟨before, later, rfl⟩ := List.append_of_mem hstep
    obtain ⟨hbefore, hmay⟩ := hr.split rfl
    have hmoves := hmay.spec fun ω _ => yields_run step.link hbefore.trail.ready step.call
    exact setupsIn_eq_nil (hmoves.creations_eq_nil hcall)
  · refine filter_session_eq (ascending_setupsIn hr.trail.tellsHistories.1.increasing) ?_
    rw [hsteps, recordOf_append, setupsIn_append]
    exact List.mem_append_left _ hsetup

/-- A text that announces what it lists. -/
def announcement (servers : Json.Value) : String :=
  (Json.Value.object [("type", .string "iceServers"), ("iceServers", servers)]).text

/-- Two servers as they are written: one has two addresses and a user. -/
def listedServers : Json.Value :=
  .array [.object [("urls", .string "stun:one")],
    .object [("username", .string "user"), ("credential", .string "secret"),
      ("urls", .array [.string "turn:two", .string "turn:three"])]]

/-- Servers that do not fit are announced, and the link opens; others are announced in a
configuration, the session is stopped, and the link opens again. -/
def servedSteps : List Step :=
  let first := play (new {}) sampleLink (.frame (announcement (.array [.object []])))
  let second := first.after.play sampleLink .linkOpen
  let third := second.after.play sampleLink
    (.frame (announcement (.object [("iceServers", listedServers), ("ttl", .int 60)])))
  let fourth := third.after.play sampleLink (.command .stop)
  [first, second, third, fourth, fourth.after.play sampleLink .linkOpen]

theorem run_servedSteps : ∃ s, Run {} servedSteps s := by
  have hstart : Run {} [] (new {}) := .start
  have hfirst := hstart.play sampleLink (.frame (announcement (.array [.object []])))
  have hsecond := hfirst.play sampleLink .linkOpen
  have hthird := hsecond.play sampleLink
    (.frame (announcement (.object [("iceServers", listedServers), ("ttl", .int 60)])))
  have hfourth := hthird.play sampleLink (.command .stop)
  exact ⟨_, hfourth.play sampleLink .linkOpen⟩

/-- The servers of its two peers. -/
def servedLists : List (List IceServer) :=
  [({} : ClientConfig).iceServers,
    [.stun "stun:one", ⟨.many ["turn:two", "turn:three"], some "user", some "secret"⟩]]

/-- The first peer of the sample is made with the configured servers, since the list that came
before did not fit; the second with those announced in between. -/
theorem usesLastAnnounced_servedSteps : ∃ s, Run {} servedSteps s ∧ UsesLastAnnounced {} servedSteps
    ∧ (setupsIn (recordOf servedSteps)).map PeerSetup.iceServers = servedLists := by
  obtain ⟨s, hr⟩ := run_servedSteps
  exact ⟨s, hr, hr.usesLastAnnounced, by decide +kernel⟩

end

end Supervisor

end CameraViewer.Session
