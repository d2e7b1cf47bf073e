import CameraViewer.Proofs.Negotiation.Rejections
import CameraViewer.Session.Supervisor

/-!
# Proofs/Negotiation/Settlement — how an offer stops waiting

An offer of this side waits for its answer, and while it waits the session neither offers nor talks.
`Run.settles`: an answer that the peer adopts ends the wait, after any history, if it is another
than the one that was applied last. One that repeats it is ignored by design, and the offer goes on
waiting (`not_settles_repeatedStep`).

A restart that the peer refuses ends the wait too, without an answer (`MayPerform.forfeits`): the
session is left disconnected, the answer is no longer applied when it comes, and another offer is
made before it.
-/

namespace CameraViewer.Negotiation

open Peer Signal World

namespace Machine

variable {m m' : Machine} {es : List Entry}

/-! ## Offering again -/

/-- Another offer may be made: the peer is asked for one, and if it refuses nothing, the offer is
made and waits. -/
structure MayOffer (m : Machine) : Prop where
  asked : ∀ es r m', MayPerform m .initiate es (.offer r, m') →
    ∃ reply, told m.session (.createOffer false) reply ∈ es
  made : ∀ es r m', MayPerform m .initiate es (.offer r, m') → Accepting es →
    r = .ok () ∧ m'.awaitingAnswer = true

/-- An open session for whose answer nothing waits asks its peer for the offer. -/
theorem Offers.asked {H : Envelope → List Entry → Prop} {restart : Bool} {r : Except PeerError Unit}
    (h : Offers H restart m es r m') (hopen : m.state ≠ .closed)
    (hidle : m.awaitingAnswer = false) :
    ∃ reply, told m.session (.createOffer restart) reply ∈ es := by
  cases h with
  | closed hclosed => exact absurd hclosed hopen
  | forbidden _ hawait => exact absurd (hidle.symm.trans hawait) Bool.false_ne_true
  | refused _ _ h => cases h <;> exact ⟨_, List.mem_cons_of_mem _ List.mem_cons_self⟩
  | made _ _ h =>
    cases h
    exact ⟨_, List.mem_cons_of_mem _ List.mem_cons_self⟩

/-- **Nothing but an offer that waits keeps an open session from offering.** -/
theorem mayOffer (hopen : m.state ≠ .closed) (hidle : m.awaitingAnswer = false) : m.MayOffer where
  asked es r m' hmay := by
    cases hmay.performs with
    | offer h => exact h.asked hopen hidle
  made es r m' hmay hacc := by
    cases hmay.performs with
    | offer h =>
      rcases h.sentIn_eq with ⟨d, rfl, -, rfl, -⟩ | ⟨⟨e, rfl⟩, -⟩
      · exact ⟨rfl, rfl⟩
      · obtain ⟨-, -, hstuck⟩ := h.forbidden_of_accepting hacc
        rcases hstuck with hclosed | hawait
        · exact absurd hclosed hopen
        · exact absurd (hidle.symm.trans hawait) Bool.false_ne_true

/-! ## Answers

An answer that is new and not refused ends the wait, and one that repeats the answer before it
leaves the offer waiting. -/

/-- The peer refuses a descriptor of the other side. -/
def RefusesRemote (session : ℕ) (d : SessionDescriptor) (es : List Entry) : Prop :=
  ∃ e, told session (.setRemote d) (.error e) ∈ es

/-- **What an answer leads to** that ends the wait of an offer. -/
structure Settles (m : Machine) (d : SessionDescriptor) (es : List Entry)
    (r : Except PeerError DescriptorOutcome) (m' : Machine) : Prop where
  /-- The peer is asked to adopt it, and then gets the candidates that waited. -/
  asked : ∃ fs, es = told m.session (.setRemote d) (.ok ()) :: fs ∧ HandsOver m.session m.pending fs
  applied : r = .ok .answerApplied
  /-- It is the remote descriptor, no offer waits, and all else is as it was. -/
  settled : m' = { m with remoteDescriptor := some d, awaitingAnswer := false, pending := [] }
  /-- The session may offer again, -/
  offers : m'.MayOffer
  /-- and the microphone may be started wherever it may be started at all. -/
  talks : ∀ (s : Session.Supervisor) (live : Session.LiveSession), live.machine = m' →
    m'.state = .connected → s.config.talkBack = true → s.flags.talking = false →
    s.canTalk live = true

/-- Once both descriptors are known, all candidates that wait are handed over. -/
theorem Flushes.of_pair (h : Flushes m es m') (hpair : m.hasPair = true) :
    HandsOver m.session m.pending es ∧ m' = { m with pending := [] } := by
  cases h with
  | handed _ h => exact ⟨h, rfl⟩
  | kept hnone => exact absurd (hnone.symm.trans hpair) Bool.false_ne_true

/-- An answer that is not refused is applied, if an offer waits for it. -/
theorem Applies.settles_of_await {d : SessionDescriptor} {r : Except PeerError DescriptorOutcome}
    (h : Applies m d es r m') (hopen : m.state ≠ .closed) (hawait : m.awaitingAnswer = true)
    (hlocal : m.localDescriptor.isSome = true) (haccept : ¬ RefusesRemote m.session d es) :
    Settles m d es r m' := by
  cases h with
  | forbidden hidle => exact absurd (hidle.symm.trans hawait) Bool.false_ne_true
  | refused _ e => exact absurd ⟨e, List.mem_cons_self⟩ haccept
  | applied _ hflush =>
    have hpair : (m.withApplied d).hasPair = true := by simp [hasPair, withApplied, hlocal]
    obtain ⟨hpassed, rfl⟩ := hflush.of_pair hpair
    refine ⟨⟨_, rfl, hpassed⟩, rfl, rfl, mayOffer hopen rfl, ?_⟩
    intro s live hlive hconnected htalk hquiet
    have hstate : live.machine.state = .connected := hlive ▸ hconnected
    have hidle : live.machine.awaitingAnswer = false := by rw [hlive]; rfl
    simp [Session.Supervisor.canTalk, htalk, hquiet, hstate, hidle]

/-- A copy of the remote descriptor is ignored. -/
theorem TakesDescriptor.of_same {H : Envelope → List Entry → Prop} {d : SessionDescriptor}
    {r : Except PeerError DescriptorOutcome} (h : TakesDescriptor H m d es r m')
    (hopen : m.state ≠ .closed) (hsame : m.remoteDescriptor = some d) :
    es = [] ∧ r = .ok .duplicate ∧ m' = m := by
  cases h with
  | closed hclosed => exact absurd hclosed hopen
  | duplicate => exact ⟨rfl, rfl, rfl⟩
  | offer _ hnew | answer _ hnew => exact absurd hsame hnew

/-- **An answer settles the offer that waits**, after any history, if it is new and the peer adopts
it; one that repeats the answer applied last is ignored. -/
theorem Run.settles {session : ℕ} {role : DescriptorRole} {steps : List Step}
    (hr : Run session role steps m) (hopen : m.state ≠ .closed) (hawait : m.awaitingAnswer = true)
    {d : SessionDescriptor} (hrole : d.role = .answer) {r : Except PeerError DescriptorOutcome}
    (hmay : MayPerform m (.descriptor d) es (.descriptor r, m')) :
    (m.remoteDescriptor ≠ some d → ¬ RefusesRemote m.session d es → Settles m d es r m')
      ∧ (m.remoteDescriptor = some d → es = [] ∧ r = .ok .duplicate ∧ m' = m) := by
  obtain ⟨offer, hoffer, -⟩ := hr.isUnanswered hawait
  cases hmay.performs with
  | descriptor h =>
    refine ⟨fun hnew haccept => ?_, h.of_same hopen⟩
    cases h with
    | closed hclosed => exact absurd hclosed hopen
    | duplicate _ hsame => exact absurd hsame hnew
    | offer _ _ hother => exact absurd (hrole.symm.trans hother) nofun
    | answer _ _ _ h => exact h.settles_of_await hopen hawait (by rw [hoffer]; rfl) haccept

/-- A session that is connected and has offered a second time. -/
def renewed : Machine :=
  let first := Machine.play { session := 1, role := .offer } .initiate
  let second := first.after.play (.descriptor (.answer "first"))
  let third := second.after.play (.connectivity .connected)
  (third.after.play .initiate).after

theorem run_renewed : ∃ steps, Run 1 .offer steps renewed := by
  have hstart : Run 1 .offer [] _ := .start
  have hr := (((hstart.play .initiate).play (.descriptor (.answer "first"))).play
    (.connectivity .connected)).play .initiate
  exact ⟨_, hr⟩

/-- The second offer is answered. -/
def answeredStep : Step := renewed.venture [] (.descriptor (.answer "second"))

theorem mayPerform_answeredStep : MayPerform renewed (.descriptor (.answer "second"))
    answeredStep.made (.descriptor (.ok .answerApplied), answeredStep.after) :=
  mayPerform_venture renewed [] (.descriptor (.answer "second"))

/-- The second offer is answered with the answer to the first. -/
def repeatedStep : Step := renewed.venture [] (.descriptor (.answer "first"))

theorem mayPerform_repeatedStep : MayPerform renewed (.descriptor (.answer "first"))
    repeatedStep.made (.descriptor (.ok .duplicate), repeatedStep.after) :=
  mayPerform_venture renewed [] (.descriptor (.answer "first"))

/-- A new answer settles the offer of the sample, and the one before is ignored. -/
theorem settles_answeredStep : (∃ steps, Run 1 .offer steps renewed) ∧ renewed.state = .connected
    ∧ renewed.awaitingAnswer = true
    ∧ Settles renewed (.answer "second") answeredStep.made (.ok .answerApplied) answeredStep.after
    ∧ repeatedStep.made = [] ∧ repeatedStep.after = renewed := by
  obtain ⟨steps, hr⟩ := run_renewed
  have hopen : renewed.state ≠ .closed := by decide
  have hawait : renewed.awaitingAnswer = true := by decide
  have hignored := (hr.settles hopen hawait rfl mayPerform_repeatedStep).2 (by decide)
  refine ⟨⟨steps, hr⟩, by decide, hawait, ?_, hignored.1, hignored.2.2⟩
  refine (hr.settles hopen hawait rfl mayPerform_answeredStep).1 (by decide) ?_
  rintro ⟨e, he⟩
  exact nomatch List.mem_singleton.mp he

/-- That is ignored, and the offer goes on waiting. -/
theorem not_settles_repeatedStep : (∃ steps, Run 1 .offer steps renewed) ∧ renewed.state ≠ .closed
    ∧ renewed.awaitingAnswer = true
    ∧ MayPerform renewed (.descriptor (.answer "first")) repeatedStep.made
        (.descriptor (.ok .duplicate), repeatedStep.after)
    ∧ ¬ RefusesRemote renewed.session (.answer "first") repeatedStep.made
    ∧ ¬ Settles renewed (.answer "first") repeatedStep.made (.ok .duplicate)
    repeatedStep.after := by
  refine ⟨run_renewed, by decide, by decide, mayPerform_repeatedStep, ?_, ?_⟩
  · rintro ⟨e, he⟩
    cases he
  · intro h
    exact nomatch h.applied

/-! ## Restarts that are refused

The restart is asked for after the wait of the earlier offer was ended, so a refusal leaves no offer
waiting at all. -/

/-- The peer refuses to make an offer over new network paths, or to adopt it. -/
def RefusesRestart (session : ℕ) (es : List Entry) : Prop :=
  ∃ e, told session (.createOffer true) (.error e) ∈ es
    ∨ ∃ d, told session (.setLocal d) (.error e) ∈ es

/-- **What a refused restart leads to.** -/
structure Forfeits (m : Machine) (es : List Entry) (change : Option Transition) (m' : Machine) :
    Prop where
  change_eq : change = some ⟨.connected, .disconnected⟩
  unsent : ∀ e ∈ es, ¬ IsHanded e
  /-- The session is disconnected and no offer waits; all else is as it was. -/
  after_eq : m' = { m with state := .disconnected, awaitingAnswer := false }
  /-- So nothing but the state changes where no offer waited. -/
  kept : m.awaitingAnswer = false → m' = { m with state := .disconnected }
  /-- The answer to an offer that waited is not applied when it comes. -/
  late : ∀ d, d.role = .answer → ∀ fs r m₁, MayPerform m' (.descriptor d) fs (.descriptor r, m₁) →
    fs = [] ∧ m₁ = m'
      ∧ r = if m.remoteDescriptor = some d then .ok .duplicate
          else .error (.forbidden .applyAnswer .disconnected)
  /-- Another offer may be made before it. -/
  offers : m'.MayOffer

/-- Where the peer refuses an offer, the attempt fails. -/
theorem Offers.not_refusesRestart {restart : Bool} (h : Offers Handed restart m es (.ok ()) m')
    (session : ℕ) : ¬ RefusesRestart session es := by
  cases h with
  | made _ _ h hsink =>
    obtain ⟨result, rfl⟩ := hsink
    cases h
    simp [RefusesRestart, timed, told]

/-- An answer for which no offer waits changes nothing. -/
theorem TakesDescriptor.of_idle {H : Envelope → List Entry → Prop} {d : SessionDescriptor}
    {r : Except PeerError DescriptorOutcome} (h : TakesDescriptor H m d es r m')
    (hrole : d.role = .answer) (hopen : m.state ≠ .closed) (hidle : m.awaitingAnswer = false) :
    es = [] ∧ m' = m
      ∧ r = if m.remoteDescriptor = some d then .ok .duplicate
          else .error (.forbidden .applyAnswer m.state) := by
  cases h with
  | closed hclosed => exact absurd hclosed hopen
  | duplicate _ hsame => exact ⟨rfl, rfl, (if_pos hsame).symm⟩
  | offer _ _ hother => exact absurd (hrole.symm.trans hother) nofun
  | answer _ hnew _ h =>
    cases h with
    | forbidden => exact ⟨rfl, rfl, (if_neg hnew).symm⟩
    | refused hawait | applied hawait => exact absurd (hidle.symm.trans hawait) Bool.false_ne_true

/-- The session that has forfeited its offer. -/
theorem forfeits_of_eq {change : Option Transition}
    (hchange : change = some ⟨.connected, .disconnected⟩) (hes : ∀ e ∈ es, ¬ IsHanded e)
    (hafter : m' = { m with state := .disconnected, awaitingAnswer := false }) :
    Forfeits m es change m' := by
  subst hafter
  refine ⟨hchange, hes, rfl, fun hidle => by rw [← hidle], fun d hrole fs r m₁ hmay => ?_,
    mayOffer nofun rfl⟩
  cases hmay.performs with
  | descriptor h => exact h.of_idle hrole nofun rfl

/-- **A restart that the peer refuses disconnects the session and forfeits the offer that waits.**
-/
theorem MayPerform.forfeits {change : Option Transition} (hconnected : m.state = .connected)
    (hmay : MayPerform m (.connectivity .failed) es (.change change, m'))
    (hrefused : RefusesRestart m.session es) : Forfeits m es change m' := by
  cases hmay.performs with
  | report h =>
    cases h with
    | closed hclosed => exact absurd (hconnected.symm.trans hclosed) nofun
    | progress _ hreported => exact absurd rfl hreported
    | failed _ _ h =>
      cases h with
      | again | plain => simp [RefusesRestart] at hrefused
      | restarted _ _ h => exact absurd hrefused (h.not_refusesRestart m.session)
      | refused _ _ h =>
        have huntouched := h.untouched
        have hafter := huntouched.unchanged
        refine forfeits_of_eq ?_ huntouched.unsent (by rw [hafter])
        rw [transitionFrom, if_neg (by simp [hconnected]), hconnected]

/-- The connection of the sample fails while its second offer waits, and the peer refuses to make
another. -/
def refusedRestartStep : Step := renewed.venture [true] (.connectivity .failed)

theorem mayPerform_refusedRestartStep :
    MayPerform renewed (.connectivity .failed) refusedRestartStep.made
    (.change (some ⟨.connected, .disconnected⟩), refusedRestartStep.after) :=
  mayPerform_venture renewed [true] (.connectivity .failed)

theorem refusesRestart_refusedRestartStep :
    RefusesRestart renewed.session refusedRestartStep.made :=
  ⟨.connection "refused", .inl (List.mem_cons_of_mem _ List.mem_cons_self)⟩

/-- The sample forfeits its offer. -/
theorem forfeits_refusedRestartStep :
    (∃ steps, Run 1 .offer steps renewed) ∧ renewed.state = .connected
    ∧ RefusesRestart renewed.session refusedRestartStep.made
    ∧ Forfeits renewed refusedRestartStep.made (some ⟨.connected, .disconnected⟩)
    refusedRestartStep.after :=
  have hconnected : renewed.state = .connected := by decide
  ⟨run_renewed, hconnected, refusesRestart_refusedRestartStep,
    mayPerform_refusedRestartStep.forfeits hconnected refusesRestart_refusedRestartStep⟩

/-- More than the state of the sample changes: its offer waits no longer, so that its answer is
refused. -/
theorem not_kept_refusedRestartStep :
    (∃ steps, Run 1 .offer steps renewed) ∧ renewed.state = .connected
    ∧ MayPerform renewed (.connectivity .failed) refusedRestartStep.made
        (.change (some ⟨.connected, .disconnected⟩), refusedRestartStep.after)
    ∧ RefusesRestart renewed.session refusedRestartStep.made
    ∧ refusedRestartStep.after ≠ { renewed with state := .disconnected }
    ∧ (refusedRestartStep.after.venture [] (.descriptor (.answer "second"))).outcome
        = .descriptor (.error (.forbidden .applyAnswer .disconnected)) :=
  ⟨run_renewed, by decide, mayPerform_refusedRestartStep, refusesRestart_refusedRestartStep,
    by decide, rfl⟩

end Machine

end CameraViewer.Negotiation
