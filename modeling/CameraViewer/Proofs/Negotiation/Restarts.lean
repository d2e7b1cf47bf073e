import CameraViewer.Proofs.Negotiation.Outstanding
import Mathlib.Tactic.ByContra

/-!
# Proofs/Negotiation/Restarts — a connection is repaired once before it is given up

A failure of a connection that stood leads to one offer over new network paths. While that is under
way the session is connecting or disconnected (`Mending`), so that the next failure finds no
connection that could be repaired again: it leaves the session disconnected. `Run.repairs` says so
of every run. A session that ends meanwhile is closed for good.
-/

namespace CameraViewer.Negotiation

open Peer Signal World

namespace Machine

/-! ## Restarts

Two restarts are told apart by what the session does between them, so the invariant `Mending` ties
the flag of a restart to the state of the session. -/

/-- The peer is asked for an offer over new network paths. -/
def asksRestart : Entry → Bool
  | .asked (.peer _ (.createOffer true)) _ => true
  | _ => false

/-- How often a record asks for such an offer. -/
def restartsIn (record : List Entry) : ℕ := record.countP asksRestart

/-- Such an offer is made and sent. -/
def Step.SendsRestart (step : Step) : Prop := 0 < restartsIn step.made ∧ sentIn step.made ≠ []

/-- The connection stands after a call, and did not before. -/
def Step.Connects (step : Step) : Prop :=
  step.before.state ≠ .connected ∧ step.after.state = .connected

/-- The session is over: it is stopped, or its peer reports that it is closed. -/
def Call.Ends (c : Call) : Prop := c = .stop ∨ c = .connectivity .closed

/-- A call that says nothing of whether the connection stands or has failed. -/
def Call.Aside (c : Call) : Prop := c ≠ .connectivity .connected ∧ c ≠ .connectivity .failed

/-- A restart is under way only while the session is connecting or disconnected, or when it is over.
-/
def Mending (m : Machine) : Prop :=
  m.restartInFlight = true → m.state = .connecting ∨ m.state = .disconnected ∨ m.state = .closed

/-- A restart that is under way is over before the session is connected. -/
theorem Mending.ne_connected {m : Machine} (h : m.Mending) (hr : m.restartInFlight = true) :
    m.state ≠ .connected := by
  rcases h hr with hs | hs | hs <;> simp [hs]

/-- Only calls about descriptors ask for a restart. -/
theorem asksRestart_of_not_call {e : Entry} (h : ¬ IsDescriptorCall e) : asksRestart e = false := by
  unfold asksRestart
  split
  · exact absurd trivial h
  · rfl

/-- A record without such calls has no restart. -/
theorem restartsIn_of_mute {es : List Entry} (h : ∀ e ∈ es, IsMute e) : restartsIn es = 0 :=
  List.countP_eq_zero.mpr fun e he => by simp [asksRestart_of_not_call (h e he).1]

variable {m m' : Machine} {es : List Entry}

/-! ## What one call asks -/

/-- A negotiation asks for a restart at most once, and only where it is meant to. -/
theorem NegotiatesOffer.restartsIn_eq {restart : Bool} {r : Except PeerError SessionDescriptor}
    (h : NegotiatesOffer m.session restart es r) : restartsIn es = restart.toNat := by
  cases h <;> cases restart <;> rfl

/-- An attempt to offer asks at most once, and only for what it is meant to. -/
theorem Offers.restartsIn_eq {restart : Bool} {r : Except PeerError Unit}
    (h : Offers Handed restart m es r m') (hopen : m.state ≠ .closed)
    (hidle : m.awaitingAnswer = false) :
    restartsIn es = restart.toNat := by
  cases h with
  | closed hclosed => exact absurd hclosed hopen
  | forbidden _ hawait => exact absurd (hidle.symm.trans hawait) Bool.false_ne_true
  | refused _ _ h => exact h.restartsIn_eq
  | made _ _ h hsink =>
    obtain ⟨result, rfl⟩ := hsink
    rw [restartsIn, List.countP_cons, List.countP_append]
    exact h.restartsIn_eq

theorem Offers.restartsIn_false {r : Except PeerError Unit} (h : Offers Handed false m es r m') :
    restartsIn es = 0 := by
  by_cases hidle : m.state ≠ .closed ∧ m.awaitingAnswer = false
  · exact h.restartsIn_eq hidle.1 hidle.2
  · cases h with
    | closed | forbidden => rfl
    | refused ho ha | made ho ha => exact absurd ⟨ho, ha⟩ hidle

/-- Nothing that the other side sends asks for a restart. -/
theorem TakesDescriptor.restartsIn_eq {d : SessionDescriptor}
    {r : Except PeerError DescriptorOutcome} (h : TakesDescriptor Handed m d es r m') :
    restartsIn es = 0 := by
  cases h with
  | closed | duplicate => rfl
  | offer _ _ _ h =>
    cases h with
    | forbidden => rfl
    | refused _ h => cases h <;> rfl
    | @answered _ fs gs _ _ _ h hsink hflush =>
      obtain ⟨result, rfl⟩ := hsink
      cases h
      have hafter : restartsIn gs = 0 := restartsIn_of_mute hflush.mute
      exact hafter
  | answer _ _ _ h =>
    cases h with
    | forbidden | refused => rfl
    | @applied es _ _ hflush =>
      have hafter : restartsIn es = 0 := restartsIn_of_mute hflush.mute
      exact hafter

/-- **A restart is asked for exactly when a connection that stood has failed.** -/
theorem Performs.restartsIn_eq {c : Call} {r : Outcome} (h : Performs Handed m c es r m')
    (hm : m.Mending) :
    let step : Step := ⟨m, c, es, r, m'⟩
    (step.IsRestart → restartsIn es = 1) ∧ (¬ step.IsRestart → restartsIn es = 0) := by
  intro step
  cases h with
  | descriptor h => exact ⟨fun hs => (nomatch hs.1), fun _ => h.restartsIn_eq⟩
  | candidate h | stop h =>
    refine ⟨fun hs => (nomatch hs.1), fun _ => ?_⟩
    cases h <;> rfl
  | offer h => exact ⟨fun hs => (nomatch hs.1), fun _ => h.restartsIn_false⟩
  | @report reported _ _ _ h =>
    cases h with
    | closed hclosed =>
      refine ⟨fun hs => ?_, fun _ => rfl⟩
      have hconnected : m.state = .connected := hs.2
      rw [hclosed] at hconnected
      cases hconnected
    | failed hopen hreported h =>
      cases h with
      | again hr => exact ⟨fun hs => absurd hs.2 (hm.ne_connected hr), fun _ => rfl⟩
      | restarted _ hconnected h | refused _ hconnected h =>
        refine ⟨fun _ => h.restartsIn_eq hopen rfl, fun hs => absurd ⟨?_, hconnected⟩ hs⟩
        exact congrArg Call.connectivity hreported
      | plain _ hconnected => exact ⟨fun hs => absurd hs.2 hconnected, fun _ => rfl⟩
    | progress _ hreported h =>
      refine ⟨fun hs => absurd ?_ hreported, fun _ => restartsIn_of_mute h.mute⟩
      exact Call.connectivity.inj hs.1

/-- Where a restart is asked for, a connection has failed that stood. -/
theorem Performs.isRestart {c : Call} {r : Outcome} (h : Performs Handed m c es r m')
    (hm : m.Mending) (hpos : 0 < restartsIn es) : Step.IsRestart ⟨m, c, es, r, m'⟩ := by
  by_contra hnot
  have hnone : restartsIn es = 0 := (h.restartsIn_eq hm).2 hnot
  omega

/-! ## What becomes of the flag

Only a connection that stands, a failure and the end of the session touch the flag. -/

/-- Candidates that are handed over leave a restart under way. -/
theorem Flushes.restart_eq (h : Flushes m es m') : m'.restartInFlight = m.restartInFlight :=
  h.moves_iff.2

section
variable {H : Envelope → List Entry → Prop}

theorem Offers.restart_eq {restart : Bool} {r : Except PeerError Unit}
    (h : Offers H restart m es r m') :
    m'.restartInFlight = m.restartInFlight := by
  cases h <;> rfl

theorem TakesDescriptor.restart_eq {d : SessionDescriptor} {r : Except PeerError DescriptorOutcome}
    (h : TakesDescriptor H m d es r m') : m'.restartInFlight = m.restartInFlight := by
  cases h with
  | closed | duplicate => rfl
  | offer _ _ _ h =>
    cases h with
    | forbidden | refused => rfl
    | answered _ _ _ hflush => exact hflush.restart_eq
  | answer _ _ _ h =>
    cases h with
    | forbidden | refused => rfl
    | applied _ hflush => exact hflush.restart_eq

/-- **Whatever is said of other things, a restart goes on.** -/
theorem Performs.restart_eq {c : Call} {r : Outcome} (h : Performs H m c es r m') (hc : c.Aside)
    (hends : ¬ c.Ends) : m'.restartInFlight = m.restartInFlight := by
  cases h with
  | descriptor h => exact h.restart_eq
  | candidate h => cases h <;> rfl
  | offer h => exact h.restart_eq
  | report h =>
    cases h with
    | closed => rfl
    | failed _ hreported => exact absurd (congrArg _ hreported) hc.2
    | progress _ _ h =>
      cases h with
      | ignored | moved => rfl
      | connected _ hreported => exact absurd (congrArg _ hreported) hc.1
  | stop => exact absurd (.inl rfl) hends

/-- A call that leaves the flag, and the state but for a session that starts to connect. -/
theorem mending_of_state_or (hm : m.Mending) (hrestart : m'.restartInFlight = m.restartInFlight)
    (hstate : m'.state = m.state ∨ m'.state = .connecting) : m'.Mending := by
  intro hr
  rcases hstate with hs | hs
  · rw [hs]
    exact hm (hrestart ▸ hr)
  · exact .inl hs

/-- **Every call keeps to it.** -/
theorem Performs.mending {c : Call} {r : Outcome} (h : Performs H m c es r m') (hm : m.Mending) :
    m'.Mending := by
  cases h with
  | descriptor h => exact mending_of_state_or hm h.restart_eq h.state_or
  | candidate h => cases h <;> exact hm
  | offer h => exact mending_of_state_or hm h.restart_eq h.state_or
  | @report reported _ _ _ h =>
    cases h with
    | closed => exact hm
    | failed _ _ h =>
      cases h with
      | again => exact fun hr => (nomatch hr)
      | restarted => exact fun _ => .inl rfl
      | refused => exact fun _ => .inr (.inl rfl)
      | plain hr => exact fun hr' => absurd (hr.symm.trans hr') Bool.false_ne_true
    | progress _ hfailed h =>
      cases h with
      | ignored => exact hm
      | connected => exact fun hr => (nomatch hr)
      | moved hmove hconnected =>
        intro _
        cases reported with
        | connecting => exact .inl rfl
        | disconnected => exact .inr (.inl rfl)
        | closed => exact .inr (.inr rfl)
        | new =>
          rw [canMoveTo_new] at hmove
          cases hmove
        | connected | failed => contradiction
  | stop h =>
    cases h with
    | closed => exact hm
    | stopped => exact fun hr => (nomatch hr)

/-- A report of failure leaves no connection that stands. -/
theorem Reports.ne_connected {change : Option Transition} (h : Reports H m .failed es change m') :
    m'.state ≠ .connected := by
  cases h with
  | closed hclosed => simp [hclosed]
  | failed _ _ h => cases h <;> simp
  | progress _ hreported => exact absurd rfl hreported

/-- **A failure under a restart leaves the session disconnected.** -/
theorem Performs.disconnected {c : Call} {r : Outcome} (h : Performs H m c es r m')
    (hfailed : c = .connectivity .failed) (hopen : m.state ≠ .closed)
    (hr : m.restartInFlight = true) : m'.state = .disconnected := by
  subst hfailed
  cases h with
  | report h =>
    cases h with
    | closed hclosed => exact absurd hclosed hopen
    | failed _ _ h =>
      cases h with
      | again => rfl
      | restarted h | refused h | plain h => exact absurd (h.symm.trans hr) Bool.false_ne_true
    | progress _ hreported => exact absurd rfl hreported

/-- A call that ends a session closes it. -/
theorem Performs.closed_of_ends {c : Call} {r : Outcome} (h : Performs H m c es r m')
    (hends : c.Ends) :
    m'.state = .closed := by
  by_cases hopen : m.state = .closed
  · exact h.closed hopen
  cases h with
  | descriptor | candidate | offer => rcases hends with h | h <;> cases h
  | report h =>
    rcases hends with hstop | hreported
    · cases hstop
    · exact (h.closed_iff hopen).mpr (Call.connectivity.inj hreported)
  | stop h =>
    cases h with
    | closed hclosed => exact hclosed
    | stopped => rfl

/-- No other does. -/
theorem Performs.ne_closed {c : Call} {r : Outcome} (h : Performs H m c es r m')
    (hopen : m.state ≠ .closed) (hends : ¬ c.Ends) : m'.state ≠ .closed := by
  cases h with
  | descriptor h => exact h.moves.2 hopen
  | candidate h => exact h.moves.2 hopen
  | offer h => exact h.moves.2 hopen
  | report h =>
    intro hclosed
    exact hends (.inr (congrArg _ ((h.closed_iff hopen).mp hclosed)))
  | stop => exact absurd (.inl rfl) hends

end

/-- A restart that is sent is under way. -/
theorem Performs.underway {c : Call} {r : Outcome} (h : Performs Handed m c es r m')
    (hrestart : Step.IsRestart ⟨m, c, es, r, m'⟩) (hsent : sentIn es ≠ []) :
    m'.restartInFlight = true ∧ m'.state ≠ .closed := by
  obtain ⟨rfl, hconnected⟩ : c = .connectivity .failed ∧ m.state = .connected := hrestart
  cases h with
  | report h =>
    cases h with
    | closed | progress => exact absurd rfl (by assumption)
    | failed _ _ h =>
      cases h with
      | again | plain => exact absurd rfl hsent
      | restarted => exact ⟨rfl, nofun⟩
      | refused _ _ h =>
        rcases h.sentIn_eq with ⟨d, hr, -⟩ | ⟨-, hnone, -⟩
        · cases hr
        · exact absurd hnone hsent

/-! ## Runs -/

section
variable {session : ℕ} {role : DescriptorRole} {steps : List Step}

/-- The invariant holds of every run, since every call keeps it. -/
theorem Run.mending (hr : Run session role steps m) : m.Mending := by
  induction hr with
  | start => exact fun h => (nomatch h)
  | call _ hmay ih => exact hmay.performs.mending ih

/-- After a failure no connection stands until the session connects again. -/
theorem Run.ne_connected (hr : Run session role steps m)
    (hsince : Since Step.IsRestart (fun step => ¬ step.Connects) steps) : m.state ≠ .connected := by
  induction hr with
  | start =>
    obtain ⟨front, step, back, heq, -⟩ := hsince
    simp at heq
  | @call steps m m' c es r before hmay ih =>
    rcases since_concat.mp hsince with ⟨hcall, -⟩ | ⟨hsince, hkept⟩
    · obtain rfl : c = .connectivity .failed := hcall
      cases hmay.performs with
      | report h => exact h.ne_connected
    · exact fun hconnected => hkept ⟨ih hsince, hconnected⟩

/-- A restart is under way until the session connects, fails again or ends. -/
theorem Run.underway (hr : Run session role steps m)
    (hsince : Since Step.SendsRestart (fun step => step.call.Aside ∧ ¬ step.call.Ends) steps) :
    m.restartInFlight = true ∧ m.state ≠ .closed := by
  induction hr with
  | start =>
    obtain ⟨front, step, back, heq, -⟩ := hsince
    simp at heq
  | @call steps m m' c es r before hmay ih =>
    have hperforms := hmay.performs
    rcases since_concat.mp hsince with ⟨hpos, hsent⟩ | ⟨hsince, haside, hends⟩
    · exact hperforms.underway (hperforms.isRestart before.mending hpos) hsent
    · obtain ⟨hflag, hopen⟩ := ih hsince
      exact ⟨(hperforms.restart_eq haside hends).trans hflag, hperforms.ne_closed hopen hends⟩

/-- A session that has ended is closed. -/
theorem Run.closed_of_ends (hr : Run session role steps m)
    (hends : ∃ step ∈ steps, step.call.Ends) :
    m.state = .closed := by
  induction hr with
  | start => simp at hends
  | call before hmay ih =>
    obtain ⟨step, hmem, hend⟩ := hends
    rcases List.mem_append.mp hmem with hmem | hmem
    · exact hmay.performs.closed (ih ⟨step, hmem, hend⟩)
    · obtain rfl := List.mem_singleton.mp hmem
      exact hmay.performs.closed_of_ends hend

theorem Run.restartsIn_eq (hr : Run session role steps m) {front back : List Step} {step : Step}
    (hsteps : steps = front ++ step :: back) :
    (step.IsRestart → restartsIn step.made = 1) ∧ (¬ step.IsRestart → restartsIn step.made = 0) :=
  let ⟨hbefore, hperforms⟩ := hr.split hsteps
  hperforms.restartsIn_eq hbefore.mending

/-- Every restart of a run repairs a connection that stood. -/
theorem Run.isRestart (hr : Run session role steps m) {front back : List Step} {step : Step}
    (hsteps : steps = front ++ step :: back) (hpos : 0 < restartsIn step.made) : step.IsRestart :=
  let ⟨hbefore, hperforms⟩ := hr.split hsteps
  hperforms.isRestart hbefore.mending hpos

/-- Between two restarts the session connects. -/
theorem Run.exists_connects (hr : Run session role steps m) {front middle back : List Step}
    {first second : Step} (hsteps : steps = front ++ first :: middle ++ second :: back)
    (hfirst : 0 < restartsIn first.made) (hsecond : 0 < restartsIn second.made) :
    ∃ step ∈ middle, step.Connects := by
  by_contra hnone
  have hearly : steps = front ++ first :: (middle ++ second :: back) := by simp [hsteps]
  have hrestart : first.IsRestart := hr.isRestart hearly hfirst
  have hsince : Since Step.IsRestart (fun step => ¬ step.Connects) (front ++ first :: middle) :=
    ⟨front, first, middle, rfl, hrestart, fun step hstep hconn => hnone ⟨step, hstep, hconn⟩⟩
  exact (hr.split hsteps).1.ne_connected hsince (hr.isRestart hsteps hsecond).2

/-- A failure in a state without a connection is not repaired. -/
theorem Run.restartsIn_eq_zero (hr : Run session role steps m) {front back : List Step}
    {step : Step} (hsteps : steps = front ++ step :: back)
    (hstate : step.before.state ≠ .connected) :
    restartsIn step.made = 0 :=
  (hr.restartsIn_eq hsteps).2 fun hrestart => hstate hrestart.2

/-- The first failure under a restart that was sent leaves the session disconnected. -/
theorem Run.disconnected (hr : Run session role steps m) {front middle back : List Step}
    {first second : Step} (hsteps : steps = front ++ first :: middle ++ second :: back)
    (hfirst : first.SendsRestart) (hmiddle : ∀ step ∈ middle, step.call.Aside ∧ ¬ step.call.Ends)
    (hsecond : second.call = .connectivity .failed) :
    restartsIn second.made = 0 ∧ second.after.state = .disconnected := by
  obtain ⟨hbefore, hperforms⟩ := hr.split hsteps
  obtain ⟨hflag, hopen⟩ := hbefore.underway ⟨front, first, middle, rfl, hfirst, hmiddle⟩
  refine ⟨hr.restartsIn_eq_zero hsteps ?_, hperforms.disconnected hsecond hopen hflag⟩
  exact hbefore.mending.ne_connected hflag

/-- A session that has ended is not repaired, and stays closed. -/
theorem Run.staysClosed (hr : Run session role steps m) {before back : List Step} {step : Step}
    (hsteps : steps = before ++ step :: back) (hends : ∃ earlier ∈ before, earlier.call.Ends) :
    restartsIn step.made = 0 ∧ step.after.state = .closed := by
  obtain ⟨hbefore, hperforms⟩ := hr.split hsteps
  have hclosed := hbefore.closed_of_ends hends
  refine ⟨hr.restartsIn_eq_zero hsteps ?_, hperforms.closed hclosed⟩
  rw [hclosed]
  nofun

/-- What is said of the restarts of a run. -/
structure Repairs (steps : List Step) (m : Machine) : Prop where
  /-- A restart is asked for, once, exactly when a connection that stood has failed. -/
  asked : ∀ step ∈ steps, (step.IsRestart → restartsIn step.made = 1)
    ∧ (¬ step.IsRestart → restartsIn step.made = 0)
  /-- Between two restarts the session connects again. -/
  between : ∀ front first middle second back,
    steps = front ++ first :: middle ++ second :: back →
    0 < restartsIn first.made → 0 < restartsIn second.made → ∃ step ∈ middle, step.Connects
  /-- The next failure after a restart that was sent, if it comes before a connection, leaves the
  session disconnected; if the session ended meanwhile, it leaves it closed. -/
  next : ∀ front first middle second back,
    steps = front ++ first :: middle ++ second :: back → first.SendsRestart →
    (∀ step ∈ middle, step.call.Aside) → second.call = .connectivity .failed →
    restartsIn second.made = 0
      ∧ ((∀ step ∈ middle, ¬ step.call.Ends) → second.after.state = .disconnected)
      ∧ ((∃ step ∈ middle, step.call.Ends) → second.after.state = .closed)
  /-- A restart is under way only while the session is connecting or disconnected, or when it is
  over. -/
  mending : m.Mending

/-- **A connection is repaired once before it is given up**, whatever the peer refuses. -/
theorem Run.repairs (hr : Run session role steps m) : Repairs steps m where
  asked step hstep := by
    obtain ⟨front, back, hsteps⟩ := List.append_of_mem hstep
    exact hr.restartsIn_eq hsteps
  between front first middle second back hsteps := hr.exists_connects hsteps
  next front first middle second back hsteps hfirst haside hsecond := by
    by_cases hends : ∃ step ∈ middle, step.call.Ends
    · have hclosed := hr.staysClosed hsteps (hends.imp fun step h => ⟨by simp [h.1], h.2⟩)
      refine ⟨hclosed.1, fun hnone => ?_, fun _ => hclosed.2⟩
      obtain ⟨step, hstep, hend⟩ := hends
      exact absurd hend (hnone step hstep)
    · have hgoesOn := hr.disconnected hsteps hfirst
        (fun step hstep => ⟨haside step hstep, fun hend => hends ⟨step, hstep, hend⟩⟩) hsecond
      exact ⟨hgoesOn.1, fun _ => hgoesOn.2, fun h => absurd h hends⟩
  mending := hr.mending

/-- A connection fails, the session goes on under the restart, and fails again before it connects.
-/
def mendedSteps : List Step :=
  playAll { session := 1, role := .offer }
    [.initiate, .descriptor (.answer "first"), .connectivity .connected, .connectivity .failed,
      .candidate (.ofText "between"), .connectivity .disconnected,
      .descriptor (.offer "theirs"), .initiate, .descriptor (.answer "second"), .initiate,
      .connectivity .failed, .connectivity .connected, .connectivity .failed]

/-- The second failure leaves the session of the sample disconnected, the third is repaired again.
-/
theorem repairs_mendedSteps : ∃ m, Run 1 .offer mendedSteps m ∧ Repairs mendedSteps m
    ∧ (mendedSteps.drop 10).map (fun step => (restartsIn step.made, step.after.state))
      = [(0, .disconnected), (0, .connected), (1, .connecting)] := by
  obtain ⟨m, hr⟩ := run_playAll 1 .offer _
  exact ⟨m, hr, hr.repairs, by decide⟩

/-- Every restart that fails before the session connects leaves it disconnected. -/
def GivesWay (steps : List Step) : Prop :=
  ∀ front first middle second back, steps = front ++ first :: middle ++ second :: back →
    first.SendsRestart → (∀ step ∈ middle, step.call.Aside) →
    second.call = .connectivity .failed → second.after.state = .disconnected

/-- A session that is closed under a restart. -/
def endedSteps : List Step :=
  playAll { session := 1, role := .offer }
    [.initiate, .connectivity .connected, .connectivity .failed, .connectivity .closed,
      .connectivity .failed]

/-- It stays closed. -/
theorem not_givesWay_endedSteps : ∃ m, Run 1 .offer endedSteps m ∧ ¬ GivesWay endedSteps := by
  obtain ⟨m, hr⟩ := run_playAll 1 .offer _
  refine ⟨m, hr, fun hgives => ?_⟩
  have hdisconnected := hgives [_, _] _ [_] _ [] rfl ⟨by decide, by decide⟩
    (by simp [Call.Aside]) rfl
  cases hdisconnected

end

end Machine

end CameraViewer.Negotiation
