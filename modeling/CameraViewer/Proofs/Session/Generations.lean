import CameraViewer.Proofs.Session.Peers
import CameraViewer.Proofs.Session.Turns
import CameraViewer.Proofs.Signal.Texts

/-!
# Proofs/Session/Generations — sessions of different connections never mix

While the link is open, the current session is the one that was created when it opened
(`Standing`). So what comes in over a connection goes to its own session, and what a session says
of its negotiation goes out over its own connection (`Run.unmixed`).
-/

namespace CameraViewer.Session

open Config Link Negotiation Peer Signal World

namespace Supervisor

/-! ## What is written, and by whom

Every message on the wire is traced to the session whose negotiation made it, so that it can be held
against the connection it goes over. -/

/-- Where a message comes from that may go out with the entries `made`; a session it comes from is
one of `owner`. -/
inductive Origin (P : Grant) (made : List Entry) (owner : ℕ → Prop) : Envelope → Prop
  | plain {e : Envelope} (he : IsPlainMessage e) : Origin P made owner e
  | description {id : ℕ} {d : SessionDescriptor} (ho : owner id)
    (hmade : Machine.MadeBy id made d) :
    Origin P made owner (.sessionDescription d)
  | candidate {id : ℕ} {c : Candidate} (ho : owner id)
    (hown : P.report id (.localCandidate c)) :
    Origin P made owner (.candidate c)

/-- A text went to the socket of an open link, and was a message of known origin. -/
def Posted (P : Grant) (l : RelayLink) (made : List Entry) (owner : ℕ → Prop) (socket : ℕ)
    (text : String) : Prop :=
  l.state = .opened ∧ l.socket = some socket ∧ ∃ e : Envelope, e.text = text ∧ Origin P made owner e

section
variable {P : Grant} {l : RelayLink} {s s' : Supervisor} {es : List Entry} {socket : ℕ}
  {text : String} {reached : Bool}

/-- What a move may author has an origin. -/
theorem Authored.origin {owner : ℕ → Prop} {fs : List Entry} {e : Envelope} (h : Authored P s fs e)
    (howner : ∀ live, s.session = some live → owner live.id) (hsub : fs ⊆ es) :
    Origin P es owner e := by
  cases h with
  | plain he => exact .plain he
  | description hs hmade => exact .description (howner _ hs) (hmade.mono hsub)
  | candidate hs hown => exact .candidate (howner _ hs) hown

/-- What moves write is of the current session, or of one they create. -/
theorem Moves.posted (ha : s.LatestOngoing) (h : Moves P l s es s')
    (hx : .asked (.write socket text) reached ∈ es) :
    Posted P l es (fun id => s.sessionId = some id ∨ (id, true) ∈ creations es) socket text := by
  obtain ⟨before, between, fs, hmoves, hmade, hbefore, hfs⟩ := h.entries _ hx
  have howner : ∀ live, between.session = some live →
      s.sessionId = some live.id ∨ (live.id, true) ∈ creations es := by
    intro live hlive
    refine (hmoves.current ha (sessionId_of_eq_some hlive)).imp_right fun hcreated => ?_
    exact List.filterMap_subset creation? hbefore hcreated
  generalize hentry : Entry.asked (.write socket text) reached = x at hmade
  cases hmade with
  | @written e _ he hx =>
    cases hx with
    | intro hopen hsocket =>
      injection hentry with hrequest
      injection hrequest with hsame htext
      subst hsame
      exact ⟨hopen, hsocket, e, htext.symm, he.origin howner hfs⟩
  | _ => cases hentry

/-- An origin within a part of a record is one within the whole. -/
theorem Origin.mono {made : List Entry} {owner owner' : ℕ → Prop} {e : Envelope}
    (h : Origin P made owner e) (hsub : made ⊆ es) (howner : ∀ id, owner id → owner' id) :
    Origin P es owner' e := by
  cases h with
  | plain he => exact .plain he
  | description ho hmade => exact .description (howner _ ho) (hmade.mono hsub)
  | candidate ho hown => exact .candidate (howner _ ho) hown

theorem Posted.mono {made : List Entry} {owner owner' : ℕ → Prop}
    (h : Posted P l made owner socket text) (hsub : made ⊆ es)
    (howner : ∀ id, owner id → owner' id) : Posted P l es owner' socket text := by
  obtain ⟨hopen, hsocket, e, htext, horigin⟩ := h
  exact ⟨hopen, hsocket, e, htext, horigin.mono hsub howner⟩

/-- What has an origin is one of the messages this side sends. -/
theorem Origin.isSpoken {made : List Entry} {owner : ℕ → Prop} {e : Envelope}
    (h : Origin P made owner e) : e.IsSpoken := by
  cases h with
  | plain he => cases e <;> trivial
  | description | candidate => trivial

/-- A text of known origin that is the text of a description comes from a session that made it. -/
theorem Posted.description {made : List Entry} {owner : ℕ → Prop} {d : SessionDescriptor}
    (h : Posted P l made owner socket (Envelope.sessionDescription d).text) :
    ∃ id, owner id ∧ Machine.MadeBy id made d := by
  obtain ⟨-, -, e, htext, horigin⟩ := h
  have hspoken : (Envelope.sessionDescription d).IsSpoken := trivial
  obtain rfl := Envelope.eq_of_text_eq horigin.isSpoken hspoken htext
  cases horigin with
  | plain he => exact he.elim
  | description ho hmade => exact ⟨_, ho, hmade⟩

/-- A text of known origin that is the text of a candidate comes from a session that found it. -/
theorem Posted.candidate {made : List Entry} {owner : ℕ → Prop} {c : Candidate}
    (h : Posted P l made owner socket (Envelope.candidate c).text) :
    ∃ id, owner id ∧ P.report id (.localCandidate c) := by
  obtain ⟨-, -, e, htext, horigin⟩ := h
  have hspoken : (Envelope.candidate c).IsSpoken := trivial
  obtain rfl := Envelope.eq_of_text_eq horigin.isSpoken hspoken htext
  cases horigin with
  | plain he => exact he.elim
  | candidate ho hown => exact ⟨_, ho, hown⟩

/-- The grant to start a session, and nothing else. -/
def Grant.fresh : Grant := ⟨fun _ _ => False, False, True, False⟩

/-- **What an opening of the link writes** is of the session it creates. -/
theorem Opens.posted (ha : s.LatestOngoing) (h : Opens l s es s') (hnew : P.session)
    (hx : .asked (.write socket text) reached ∈ es) :
    Posted P l es (fun id => (id, true) ∈ creations es) socket text := by
  obtain ⟨ended, asked, begun, between, next, rfl, hended, hnone, hasked, hbegun⟩ := h
  have hbetween : between.LatestOngoing := (hended .none l).latestOngoing ha
  rcases List.mem_append.mp hx with hx | hx
  · have hclosed := ((hended .none default).posted ha hx).1
    cases hclosed
  · have hmoves : Moves P l between (asked ++ begun) s' := .step (hasked P hnew) (hbegun P)
    refine (hmoves.posted hbetween hx).mono (List.subset_append_right _ _) fun id hid => ?_
    rw [sessionId_of_eq_none hnone] at hid
    rw [creations_append]
    exact List.mem_append_right _ (hid.resolve_left nofun)

/-- **After an opening of the link** the current session, if any, is the one it created. -/
theorem Opens.current {id : ℕ} (ha : s.LatestOngoing) (h : Opens l s es s')
    (hid : s'.sessionId = some id) :
    (id, true) ∈ creations es := by
  obtain ⟨ended, asked, begun, between, next, rfl, hended, hnone, hasked, hbegun⟩ := h
  have hmoves : Moves .fresh l between (asked ++ begun) s' :=
    .step (hasked .fresh trivial) (hbegun .fresh)
  have hcurrent := hmoves.current ((hended .none l).latestOngoing ha) hid
  rw [sessionId_of_eq_none hnone] at hcurrent
  rw [creations_append]
  exact List.mem_append_right _ (hcurrent.resolve_left nofun)

/-- An opening of the link asks for at most one peer. -/
theorem Opens.length_creations_le (ha : s.LatestOngoing) (h : Opens l s es s') :
    (creations es).length ≤ 1 := by
  obtain ⟨ended, asked, begun, between, next, rfl, hended, hnone, hasked, hbegun⟩ := h
  have htells := (hasked .fresh trivial).tellsStates ((hended .none l).latestOngoing ha)
  rw [creations_append, creations_append, (hended .none l).creations_eq_nil id,
    (hbegun .none).creations_eq_nil id, List.nil_append, List.append_nil]
  exact htells.advance.length_creations_le

end

end Supervisor

namespace Client

/-! ## Connections and their sessions

The invariant `Standing` ties the latest attempt to the socket of the link and to the current
session. A turn either leaves both alone (`Standing.stays`), or is one of the few that change them.
-/

/-- The session was created when an attempt came to its socket. -/
def CreatedAt (steps : List Step) (g id : ℕ) : Prop :=
  ∃ step ∈ steps, ∃ socket, step.turn = .link ⟨g, .opened socket⟩ ∧ (id, true) ∈ creations step.made

/-- The socket is the one that an attempt came to. -/
def BroughtBy (steps : List Step) (g socket : ℕ) : Prop :=
  ∃ step ∈ steps, step.turn = .link ⟨g, .opened socket⟩

/-- How link, session and reports stand to each other between two turns. -/
structure Standing (steps : List Step) (c : Client) : Prop where
  /-- No attempt reports before it was started. -/
  early : ∀ g, c.link.generation < g → reportsOf g steps = []
  /-- A latest attempt that is up made the link open. -/
  opened : phase? (reportsOf c.link.generation steps) = some .up → c.link.state = .opened
  /-- The socket of an open link is that of the latest attempt, -/
  socket : c.link.state = .opened → ∃ socket, c.link.socket = some socket
    ∧ BroughtBy steps c.link.generation socket
  /-- and the current session was created when it opened. -/
  session : c.link.state = .opened → ∀ id, c.supervisor.sessionId = some id →
    CreatedAt steps c.link.generation id

section
variable {steps : List Step} {c c' : Client} {now : ℕ} {t : Turn} {es : List Entry} {more : Bool}
  {g id : ℕ} {url : String} {config : ClientConfig}

theorem CreatedAt.append (h : CreatedAt steps g id) (later : List Step) :
    CreatedAt (steps ++ later) g id := by
  obtain ⟨step, hmem, hstep⟩ := h
  exact ⟨step, List.mem_append_left _ hmem, hstep⟩

theorem BroughtBy.append {socket : ℕ} (h : BroughtBy steps g socket) (later : List Step) :
    BroughtBy (steps ++ later) g socket := by
  obtain ⟨step, hmem, hstep⟩ := h
  exact ⟨step, List.mem_append_left _ hmem, hstep⟩

/-- A session that a turn asks for is created at that opening. -/
theorem createdAt_last {socket : ℕ} (ht : t = .link ⟨g, .opened socket⟩)
    (hid : (id, true) ∈ creations es) : CreatedAt (steps ++ [⟨t, c, es, c'⟩]) g id :=
  ⟨_, List.mem_append_right _ List.mem_cons_self, socket, ht, hid⟩

/-- The socket of that turn is the one of that attempt. -/
theorem broughtBy_last {socket : ℕ} (ht : t = .link ⟨g, .opened socket⟩) :
    BroughtBy (steps ++ [⟨t, c, es, c'⟩]) g socket :=
  ⟨_, List.mem_append_right _ List.mem_cons_self, ht⟩

/-- A turn more is one report more of the attempt it comes from. -/
theorem reportsOf_concat (step : Step) :
    reportsOf g (steps ++ [step]) = reportsOf g steps ++ (step.turn.reportOf? g).toList := by
  rw [reportsOf, List.filterMap_append, reportsOf, List.filterMap_cons, List.filterMap_nil]
  cases step.turn.reportOf? g <;> rfl

theorem phase?_concat (reports : List LinkReport) (r : LinkReport) :
    phase? (reports ++ [r]) = (phase? reports).bind fun p => p.next? r := by
  rw [phase?, List.foldlM_append, phase?]
  cases List.foldlM Phase.next? Phase.dialing reports with
  | none => rfl
  | some p =>
    change (p.next? r).bind some = p.next? r
    cases p.next? r <;> rfl

/-- Only an attempt that is up reports texts. -/
theorem phase?_of_message {reports : List LinkReport} {text : String}
    (h : (phase? (reports ++ [.message text])).isSome = true) : phase? reports = some .up := by
  rw [phase?_concat] at h
  cases hphase : phase? reports with
  | none =>
    rw [hphase] at h
    cases h
  | some p =>
    rw [hphase] at h
    cases p with
    | up => rfl
    | dialing | past => cases h

/-- An attempt comes to its socket before it reports anything else. -/
theorem eq_nil_of_opened {reports : List LinkReport} {socket : ℕ}
    (h : (phase? (reports ++ [.opened socket])).isSome = true) : reports = [] := by
  rw [phase?_concat] at h
  rcases List.eq_nil_or_concat reports with rfl | ⟨rest, last, rfl⟩
  · rfl
  rw [List.concat_eq_append, phase?_concat] at h
  cases hphase : phase? rest with
  | none =>
    rw [hphase] at h
    cases h
  | some p =>
    rw [hphase] at h
    cases p <;> cases last <;> cases h

theorem phase?_closed_ne (reports : List LinkReport) (reason : String) :
    phase? (reports ++ [.closed reason]) ≠ some .up := by
  rw [phase?_concat]
  cases phase? reports with
  | none => nofun
  | some p => cases p <;> nofun

/-- Only an attempt that comes to its socket starts a session. -/
theorem not_session_of_ne_link (h : ∀ e, t ≠ .link e) : ¬t.grant.session := by
  rintro ⟨g, socket, hlink⟩
  exact h _ hlink

theorem not_session_of_message {text : String} (h : t = .link ⟨g, .message text⟩) :
    ¬t.grant.session := by
  rintro ⟨g', socket, hlink⟩
  cases h.symm.trans hlink

/-- What does not come from an attempt is no report of one. -/
theorem reportOf?_eq_none (h : ∀ e, t ≠ .link e) : t.reportOf? g = none := by
  cases t <;> first | rfl | exact absurd rfl (h _)

/-- No attempt reports before it was started. -/
theorem Timely.reportOf?_eq_none (h : Timely steps c t) (hg : c.link.generation < g) :
    t.reportOf? g = none := by
  cases t with
  | link e =>
    have hle : e.generation ≤ c.link.generation := h.1
    exact if_neg (by omega)
  | _ => rfl

/-- At the start no attempt has reported anything. -/
theorem standing_start (hstate : c.link.state = .connecting) : Standing [] c := by
  have hclosed : c.link.state ≠ .opened := by
    rw [hstate]
    decide
  exact ⟨fun _ _ => rfl, nofun, fun hopen => absurd hopen hclosed,
    fun hopen => absurd hopen hclosed⟩

/-- Texts come in while the link is open. -/
theorem Standing.open_of_message {text : String} (hs : Standing steps c)
    (ht : Timely steps c (.link ⟨c.link.generation, .message text⟩)) : c.link.state = .opened :=
  hs.opened (phase?_of_message ht.2)

/-- A turn of which the latest attempt knows nothing. -/
theorem Standing.open_of_up (hs : Standing steps c) (hreport : t.reportOf? c.link.generation = none)
    (hup : phase? (reportsOf c.link.generation (steps ++ [⟨t, c, es, c'⟩])) = some .up) :
    c.link.state = .opened := by
  rw [reportsOf_concat, hreport, Option.toList_none, List.append_nil] at hup
  exact hs.opened hup

/-- No attempt reports before it was started, nor with this turn. -/
theorem Standing.early_concat (hs : Standing steps c) (ht : Timely steps c t)
    (hg : c.link.generation < g) : reportsOf g (steps ++ [⟨t, c, es, c'⟩]) = [] := by
  rw [reportsOf_concat, hs.early g hg, ht.reportOf?_eq_none hg]
  rfl

/-- A turn that leaves the link alone and starts no session. -/
theorem Standing.stays (hs : Standing steps c) (ht : Timely steps c t) (hlink : c'.link = c.link)
    (hopen : phase? (reportsOf c.link.generation (steps ++ [⟨t, c, es, c'⟩])) = some .up →
      c.link.state = .opened)
    (hsession : ∀ id, c'.supervisor.sessionId = some id → c.supervisor.sessionId = some id) :
    Standing (steps ++ [⟨t, c, es, c'⟩]) c' := by
  refine ⟨fun g hg => ?_, fun hup => ?_, fun hopen => ?_, fun hopen id hid => ?_⟩
  · rw [hlink] at hg
    exact hs.early_concat ht hg
  · rw [hlink] at hup ⊢
    exact hopen hup
  · rw [hlink] at hopen ⊢
    obtain ⟨socket, hsocket, hbrought⟩ := hs.socket hopen
    exact ⟨socket, hsocket, hbrought.append _⟩
  · rw [hlink] at hopen ⊢
    exact (hs.session hopen id (hsession id hid)).append _

/-- **Every turn keeps the standing.** -/
theorem Standing.turn (hs : Standing steps c) (ha : c.supervisor.LatestOngoing)
    (ht : Timely steps c t) (h : Turned now c t es (c', true)) :
    Standing (steps ++ [⟨t, c, es, c'⟩]) c' := by
  cases h with
  | stale hturn hstale =>
    subst hturn
    exact hs.stays ht rfl (hs.open_of_up (if_neg hstale)) fun _ => id
  | waited hturn | ticked hturn =>
    subst hturn
    exact hs.stays ht rfl (hs.open_of_up rfl) fun _ => id
  | called hturn h =>
    have hnew := not_session_of_ne_link hturn.ne_link
    exact hs.stays ht rfl (hs.open_of_up (reportOf?_eq_none hturn.ne_link)) fun _ =>
      h.sessionId_of ha hnew
  | message hturn h =>
    have hopen := hs.open_of_message (hturn ▸ ht)
    exact hs.stays ht rfl (fun _ => hopen) fun _ => h.sessionId_of ha (not_session_of_message hturn)
  | @opened socket es s hturn h =>
    refine ⟨fun g => hs.early_concat ht, fun _ => rfl, fun _ => ⟨socket, rfl, broughtBy_last hturn⟩,
      fun _ id hid => createdAt_last hturn ?_⟩
    have hcreated : (id, true) ∈ creations es := h.current ha hid
    exact hcreated
  | @closed reason hturn =>
    refine ⟨fun g => hs.early_concat ht, fun hup => ?_, nofun, nofun⟩
    change phase? (reportsOf c.link.generation _) = _ at hup
    have hreport : t.reportOf? c.link.generation = some (.closed reason) := by
      rw [hturn]
      exact if_pos rfl
    rw [reportsOf_concat, hreport] at hup
    exact absurd hup (phase?_closed_ne _ _)
  | redialed =>
    have hlater : c.link.generation < c.link.generation + 1 := Nat.lt_succ_self _
    refine ⟨fun g hg => hs.early_concat ht (hlater.trans hg), fun hup => ?_, nofun, nofun⟩
    change phase? (reportsOf (c.link.generation + 1) _) = _ at hup
    rw [hs.early_concat ht hlater] at hup
    cases hup

/-- The invariant holds as long as turns may follow. -/
theorem Run.standing (hr : Run url config steps c true) : Standing steps c := by
  generalize hmore : true = more at hr
  induction hr with
  | start hmay =>
    obtain ⟨-, hlink, -⟩ := hmay.spec fun _ _ => yields_start _ config
    refine standing_start ?_
    rw [hlink]
    rfl
  | turn before ht hmay ih =>
    subst hmore
    exact (ih rfl).turn before.trail.1.tellsHistories.2 ht (before.turned hmay)

/-! ## Runs -/

/-- Every turn of a run was taken from a run. -/
theorem Run.split (hr : Run url config steps c more) {before later : List Step} {step : Step}
    (hsteps : steps = before ++ step :: later) :
    Run url config before step.before true ∧ Timely before step.before step.turn
      ∧ ∃ now more', Turned now step.before step.turn step.made (step.after, more') := by
  induction hr generalizing later with
  | start => simp at hsteps
  | @turn steps c c' now t es more hbefore ht hmay ih =>
    rcases split_concat hsteps with ⟨rfl, rfl, -⟩ | ⟨rest, -, hrest⟩
    · exact ⟨hbefore, ht, now, more, hbefore.turned hmay⟩
    · exact ih hrest

/-- What an opening of the link asks for. -/
theorem Turned.length_creations_le {socket : ℕ} {r : Client × Bool}
    (ha : c.supervisor.LatestOngoing) (h : Turned now c t es r)
    (ht : t = .link ⟨g, .opened socket⟩) : (creations es).length ≤ 1 := by
  cases h with
  | stale | waited => exact Nat.zero_le 1
  | opened _ h =>
    have hle := h.length_creations_le ha
    exact hle
  | closed | ticked => exact Nat.zero_le 1
  | message hturn => cases ht.symm.trans hturn
  | called hturn | finished hturn => exact absurd ht (hturn.ne_link _)
  | redialed hturn => cases ht.symm.trans hturn

/-- Different openings are of different connections, and create different sessions. -/
theorem Run.apart (hr : Run url config steps c more) {before between later : List Step}
    {step step' : Step} {g' id' socket socket' : ℕ}
    (hsteps : steps = before ++ step :: (between ++ step' :: later))
    (hturn : step.turn = .link ⟨g, .opened socket⟩)
    (hturn' : step'.turn = .link ⟨g', .opened socket'⟩) (hid : (id, true) ∈ creations step.made)
    (hid' : (id', true) ∈ creations step'.made) :
    g ≠ g' ∧ id < id' := by
  constructor
  · rintro rfl
    have hsplit : steps = (before ++ step :: between) ++ step' :: later := by
      rw [hsteps, List.append_assoc, List.cons_append]
    obtain ⟨-, htimely, -⟩ := hr.split hsplit
    rw [hturn'] at htimely
    have hnone := eq_nil_of_opened htimely.2
    have hreport : step.turn.reportOf? g = some (.opened socket) := by
      rw [hturn]
      exact if_pos rfl
    have hmem : LinkReport.opened socket ∈ reportsOf g (before ++ step :: between) :=
      List.mem_filterMap.mpr ⟨step, List.mem_append_right _ List.mem_cons_self, hreport⟩
    rw [hnone] at hmem
    cases hmem
  · have hincreasing := hr.trail.1.tellsHistories.1.increasing
    rw [hsteps, recordOf_append, recordOf_cons, recordOf_append, recordOf_cons, creations_append,
      creations_append, creations_append, creations_append] at hincreasing
    have hlater := (List.pairwise_append.mp (List.pairwise_append.mp hincreasing).2.1).2.2
    exact hlater _ hid _ (List.mem_append_right _ (List.mem_append_left _ hid'))

/-- A connection has its own session, and no other has the same. -/
theorem Run.createdAt_unique (hr : Run url config steps c more) {g' id' : ℕ}
    (h : CreatedAt steps g id) (h' : CreatedAt steps g' id') : g = g' ↔ id = id' := by
  obtain ⟨step, hmem, socket, hturn, hid⟩ := h
  obtain ⟨step', hmem', socket', hturn', hid'⟩ := h'
  obtain ⟨before, later, rfl⟩ := List.append_of_mem hmem
  rcases List.mem_append.mp hmem' with hmem' | hmem'
  · obtain ⟨before', between, rfl⟩ := List.append_of_mem hmem'
    have hsteps : before' ++ step' :: between ++ step :: later
        = before' ++ step' :: (between ++ step :: later) := by
      rw [List.append_assoc, List.cons_append]
    have happart := hr.apart hsteps hturn' hturn hid' hid
    exact iff_of_false happart.1.symm happart.2.ne'
  rcases List.mem_cons.mp hmem' with rfl | hmem'
  · obtain ⟨hrun, -, now, more', hturned⟩ := hr.split rfl
    have hlength := hturned.length_creations_le hrun.trail.1.tellsHistories.2 hturn
    have hg : g = g' := by
      have hlink := hturn.symm.trans hturn'
      injection hlink with hevent
      injection hevent
    refine iff_of_true hg ?_
    cases hcreations : creations step'.made with
    | nil =>
      rw [hcreations] at hid
      cases hid
    | cons x rest =>
      rw [hcreations] at hid hid' hlength
      have hnone : rest.length ≤ 0 := Nat.le_of_succ_le_succ hlength
      obtain rfl : rest = [] := List.length_eq_zero_iff.mp (Nat.le_zero.mp hnone)
      have hsame := (List.mem_singleton.mp hid).trans (List.mem_singleton.mp hid').symm
      exact (Prod.mk.inj hsame).1
  · obtain ⟨between, later', rfl⟩ := List.append_of_mem hmem'
    have happart := hr.apart rfl hturn hturn' hid hid'
    exact iff_of_false happart.1 happart.2.ne

/-- What the current session writes in a turn that creates none. -/
theorem Standing.posted {s : Supervisor} {socket : ℕ} {text : String} {reached : Bool}
    (hs : Standing steps c) (ha : c.supervisor.LatestOngoing) (hnew : ¬t.grant.session)
    (h : Supervisor.Moves t.grant c.link c.supervisor es s)
    (hx : .asked (.write socket text) reached ∈ es) :
    BroughtBy steps c.link.generation socket
      ∧ Supervisor.Posted t.grant c.link es (fun id => CreatedAt steps c.link.generation id) socket
        text := by
  have hposted := h.posted ha hx
  have hopen := hposted.1
  obtain ⟨socket', hsocket, hbrought⟩ := hs.socket hopen
  obtain rfl := Option.some.inj (hposted.2.1.symm.trans hsocket)
  refine ⟨hbrought, hposted.mono (List.Subset.refl _) fun id hid => ?_⟩
  rw [h.creations_eq_nil hnew] at hid
  exact hs.session hopen id (hid.resolve_right List.not_mem_nil)

/-- What is written in a turn, and by whom. -/
theorem Standing.written {r : Client × Bool} {socket : ℕ} {text : String} {reached : Bool}
    (hs : Standing steps c) (ha : c.supervisor.LatestOngoing) (h : Turned now c t es r)
    (hx : .asked (.write socket text) reached ∈ es) :
    ∃ l, BroughtBy (steps ++ [⟨t, c, es, r.1⟩]) c.link.generation socket
      ∧ Supervisor.Posted t.grant l es
          (fun id => CreatedAt (steps ++ [⟨t, c, es, r.1⟩]) c.link.generation id) socket text := by
  have hlater : ∀ {fs : List Entry} {s : Supervisor}, fs ⊆ es → ¬t.grant.session →
      Supervisor.Moves t.grant c.link c.supervisor fs s → .asked (.write socket text) reached ∈ fs →
      ∃ l, BroughtBy (steps ++ [⟨t, c, es, r.1⟩]) c.link.generation socket
        ∧ Supervisor.Posted t.grant l es
          (fun id => CreatedAt (steps ++ [⟨t, c, es, r.1⟩]) c.link.generation id) socket text := by
    intro fs s hsub hnew hmoves hmem
    obtain ⟨hbrought, hposted⟩ := hs.posted ha hnew hmoves hmem
    exact ⟨c.link, hbrought.append _, hposted.mono hsub fun id hid => hid.append _⟩
  cases h with
  | stale | waited => cases hx
  | @opened socket' es s hturn h =>
    have hmem := (List.mem_cons.mp hx).resolve_left nofun
    have hposted := h.posted (P := t.grant) ha ⟨_, _, hturn⟩ hmem
    obtain rfl : socket' = socket := Option.some.inj hposted.2.1
    refine ⟨c.linkAfter now (.opened socket'), broughtBy_last hturn, ?_⟩
    exact hposted.mono (List.subset_cons_self _ _) fun id hid => createdAt_last hturn hid
  | message hturn h => exact hlater (List.Subset.refl _) (not_session_of_message hturn) h hx
  | called hturn h => exact hlater (List.Subset.refl _) (not_session_of_ne_link hturn.ne_link) h hx
  | finished hturn h =>
    rcases List.mem_append.mp hx with hx | hx
    · exact hlater (List.subset_append_left _ _) (not_session_of_ne_link hturn.ne_link) h hx
    · cases aside_finished c.link _ hx
  | closed | ticked => cases List.mem_singleton.mp hx
  | redialed => cases aside_redialed c.link _ hx

/-- Where a text goes that comes in. -/
theorem Standing.routed {r : Client × Bool} {text : String} (hs : Standing steps c)
    (ha : c.supervisor.LatestOngoing) (ht : Timely steps c t) (h : Turned now c t es r)
    (hturn : t = .link ⟨g, .message text⟩) :
    es = [] ∧ r.1 = c
      ∨ ∀ id, c.supervisor.sessionId = some id ∨ r.1.supervisor.sessionId = some id →
        CreatedAt steps g id := by
  cases h with
  | stale => exact .inl ⟨rfl, rfl⟩
  | @message text' es s hlink h =>
    obtain rfl : c.link.generation = g := by
      have hevent := hlink.symm.trans hturn
      injection hevent with hevent
      injection hevent
    have hopen := hs.open_of_message (hturn ▸ ht)
    have hnew := not_session_of_message hlink
    right
    rintro id (hid | hid)
    · exact hs.session hopen id hid
    · exact hs.session hopen id (h.sessionId_of ha hnew hid)
  | opened hlink | closed hlink | redialed hlink | waited hlink | ticked hlink =>
    cases hlink.symm.trans hturn
  | called hother | finished hother => exact absurd hturn (hother.ne_link _)

/-- No turn of a run brings the session of one connection together with another connection. -/
structure Unmixed (steps : List Step) : Prop where
  /-- A text that comes in is dropped, or the current session, if any, was created when its
  connection opened, and stays the current one. -/
  routed : ∀ before step later g text, steps = before ++ step :: later →
    step.turn = .link ⟨g, .message text⟩ →
      step.made = [] ∧ step.after = step.before
        ∨ ∀ id, step.before.supervisor.sessionId = some id
            ∨ step.after.supervisor.sessionId = some id → CreatedAt before g id
  /-- A text that goes out goes to the socket of the latest connection; a description or a
  candidate comes from the session that was created when this opened. -/
  written : ∀ before step later socket text reached, steps = before ++ step :: later →
    .asked (.write socket text) reached ∈ step.made →
      BroughtBy (before ++ [step]) step.before.link.generation socket
        ∧ (∀ d, text = (Envelope.sessionDescription d).text →
          ∃ id, CreatedAt (before ++ [step]) step.before.link.generation id
            ∧ Machine.MadeBy id step.made d)
        ∧ ∀ c, text = (Envelope.candidate c).text →
          ∃ id, CreatedAt (before ++ [step]) step.before.link.generation id
            ∧ step.turn = .peer ⟨id, .localCandidate c⟩
  /-- A connection has its own session, and no other has the same. -/
  own : ∀ g id g' id', CreatedAt steps g id → CreatedAt steps g' id' → (g = g' ↔ id = id')
  /-- A peer is asked for when all before it are torn down, and they are asked for nothing any
  more. -/
  inTurn : Supervisor.Orderly (recordOf steps)
  /-- At any time at most one peer is not torn down. -/
  single : ∀ record id id', record <+: recordOf steps → (id, true) ∈ creations record →
    (id', true) ∈ creations record → ¬Supervisor.TornDown id record →
    ¬Supervisor.TornDown id' record →
      id = id'

/-- **Sessions of different connections never mix**, in every run of the client. -/
theorem Run.unmixed (hr : Run url config steps c more) : Unmixed steps := by
  have horderly := hr.trail.1.orderly.1
  refine ⟨?_, ?_, fun g id g' id' h h' => hr.createdAt_unique h h', horderly, ?_⟩
  · rintro before ⟨t, c, es, c'⟩ later g text hsteps hturn
    obtain ⟨hrun, htimely, now, more', hturned⟩ := hr.split hsteps
    exact hrun.standing.routed hrun.trail.1.tellsHistories.2 htimely hturned hturn
  · rintro before ⟨t, c, es, c'⟩ later socket text reached hsteps hx
    obtain ⟨hrun, -, now, more', hturned⟩ := hr.split hsteps
    obtain ⟨l, hbrought, hposted⟩ := hrun.standing.written hrun.trail.1.tellsHistories.2 hturned hx
    refine ⟨hbrought, ?_, ?_⟩
    · rintro d rfl
      exact hposted.description
    · rintro x rfl
      exact hposted.candidate
  · rintro record id id' ⟨rest, hrest⟩ hid hid' hup hup'
    rw [← hrest] at horderly
    exact (Supervisor.orderly_append.mp horderly).1.unique hid hid' hup hup'

/-- The client after its start, when this side has to make the first offer. -/
def sampleStart : Client := (played fun _ _ => start "wss://relay" { role := .offer } 0).1

/-- The link opens, the peer finds a candidate and a text comes in, then the link closes; it is
opened anew. -/
def sampleSteps : List Step :=
  let first := sampleStart.play 0 (.link ⟨1, .opened 7⟩)
  let second := first.after.play 10 (.peer ⟨1, .localCandidate (.ofText "near")⟩)
  let third := second.after.play 20 (.link ⟨1, .message "hello"⟩)
  let fourth := third.after.play 30 (.link ⟨1, .closed "gone"⟩)
  let fifth := fourth.after.play 6000 .reconnect
  [first, second, third, fourth, fifth, fifth.after.play 6010 (.link ⟨2, .opened 8⟩)]

/-- The sample has a session for each of its two connections. -/
theorem unmixed_sampleSteps : ∃ c, Run "wss://relay" { role := .offer } sampleSteps c true
    ∧ Unmixed sampleSteps ∧ creations (recordOf sampleSteps) = [(1, true), (2, true)]
    ∧ lifeOf 1 (recordOf sampleSteps) = [.new, .connecting, .closed] := by
  have hstart : Run "wss://relay" { role := .offer } [] sampleStart true := .start (may_played _)
  have hfirst := hstart.play 0 (t := .link ⟨1, .opened 7⟩) ⟨by decide, by decide⟩
  have hsecond := Run.play hfirst 10 (t := .peer ⟨1, .localCandidate (.ofText "near")⟩) trivial
  have hthird := Run.play hsecond 20 (t := .link ⟨1, .message "hello"⟩) ⟨by decide, by decide⟩
  have hfourth := Run.play hthird 30 (t := .link ⟨1, .closed "gone"⟩) ⟨by decide, by decide⟩
  have hfifth := Run.play hfourth 6000 (t := .reconnect) trivial
  have hr := Run.play hfifth 6010 (t := .link ⟨2, .opened 8⟩) ⟨by decide, by decide⟩
  exact ⟨_, hr, hr.unmixed, by decide, by decide⟩

end

end Client

end CameraViewer.Session
