import CameraViewer.Proofs.Negotiation.Signalling

/-!
# Proofs/Negotiation/Outstanding — at most one offer waits for its answer

Whatever the peer refuses, an offer of this side is sent only when no earlier one waits, or to
restart a connection that failed, and then it takes the place of the one that waits. `Turns` says
what each call means for the offer that waits. `Run.outstanding` reads off a run that answers are
applied to the latest offer. An offer that is given up with a refused restart is out of its reach.
-/

namespace CameraViewer.Negotiation

open Peer Signal World

/-! ## What has been since

The offer that waits is the latest one, unless an answer was applied or the offer was given up since
it was sent: this says "since" of a list. -/

/-- Something in a list satisfies `P`, and all that comes after it satisfies `Q`. -/
def Since {α : Type} (P Q : α → Prop) (xs : List α) : Prop :=
  ∃ front x back, xs = front ++ x :: back ∧ P x ∧ ∀ y ∈ back, Q y

/-- An element more is the one that counts, or leaves what has been since as it is. -/
theorem since_concat {α : Type} {P Q : α → Prop} {xs : List α} {x : α} :
    Since P Q (xs ++ [x]) ↔ P x ∨ Since P Q xs ∧ Q x := by
  constructor
  · rintro ⟨front, y, back, heq, hy, hback⟩
    rcases split_concat heq with ⟨rfl, rfl, rfl⟩ | ⟨rest, rfl, hxs⟩
    · exact .inl hy
    · obtain ⟨hrest, hx⟩ := List.forall_mem_append.mp hback
      exact .inr ⟨⟨front, y, rest, hxs, hy, hrest⟩, List.forall_mem_singleton.mp hx⟩
  · rintro (hx | ⟨⟨front, y, back, rfl, hy, hback⟩, hx⟩)
    · exact ⟨xs, x, [], rfl, hx, List.forall_mem_nil _⟩
    · refine ⟨front, y, back ++ [x], List.append_assoc _ _ _, hy, ?_⟩
      exact List.forall_mem_append.mpr ⟨hback, List.forall_mem_singleton.mpr hx⟩

namespace Machine

/-! ## Offers of this side

A call sends at most one offer of this side, so what a call means for the offer that waits is one of
five things. -/

/-- The offer of this side that a call sends: all it sends, unless it answers a remote offer. -/
def Step.localOffer? (step : Step) : Option SessionDescriptor :=
  match step.call with
  | .descriptor _ => none
  | _ => (sentIn step.made).head?

/-- The call applies an answer. -/
def Step.appliesAnswer (step : Step) : Bool :=
  match step.outcome with
  | .descriptor (.ok .answerApplied) => true
  | _ => false

/-- A connection that stood is reported as failed, which calls for a restart. -/
def Step.IsRestart (step : Step) : Prop :=
  step.call = .connectivity .failed ∧ step.before.state = .connected

/-- An offer waits, and the restart that should take its place is refused. -/
def Step.GivesUp (step : Step) : Prop :=
  step.IsRestart ∧ step.before.awaitingAnswer = true ∧ step.localOffer? = none

/-- What a call means for the offer that waits. -/
inductive Step.Turns (step : Step) : Prop
  /-- An offer is sent, and waits. -/
  | offers {d : SessionDescriptor} (hoffer : step.localOffer? = some d)
    (hanswer : step.appliesAnswer = false) (hopen : step.before.state ≠ .closed)
    (hidle : step.before.awaitingAnswer = false ∨ step.IsRestart)
    (hlocal : step.after.localDescriptor = some d) (hawait : step.after.awaitingAnswer = true)
  /-- The offer that waits is answered. -/
  | applies (hoffer : step.localOffer? = none) (hanswer : step.appliesAnswer = true)
    (hbefore : step.before.awaitingAnswer = true) (hawait : step.after.awaitingAnswer = false)
  /-- The offer that waits is given up. -/
  | givesUp (hoffer : step.localOffer? = none) (hanswer : step.appliesAnswer = false)
    (hgiven : step.GivesUp) (hawait : step.after.awaitingAnswer = false)
  /-- The session ends. -/
  | ends (hoffer : step.localOffer? = none) (hanswer : step.appliesAnswer = false)
    (hclosed : step.after.state = .closed) (hawait : step.after.awaitingAnswer = false)
  /-- Nothing changes about it. -/
  | keeps (hoffer : step.localOffer? = none) (hanswer : step.appliesAnswer = false)
    (hawait : step.after.awaitingAnswer = step.before.awaitingAnswer)
    (hlocal : step.before.awaitingAnswer = true →
      step.after.localDescriptor = step.before.localDescriptor)

section
variable {m m' : Machine} {es : List Entry}

/-- An attempt to offer sends the offer it made, or nothing. -/
theorem Offers.sentIn_eq {restart : Bool} {r : Except PeerError Unit}
    (h : Offers Handed restart m es r m') :
    (∃ d, r = .ok () ∧ sentIn es = [d] ∧ m' = m.withOffer d ∧ m.state ≠ .closed
      ∧ m.awaitingAnswer = false)
    ∨ (∃ e, r = .error e) ∧ sentIn es = [] ∧ m' = m := by
  cases h with
  | closed | forbidden => exact .inr ⟨⟨_, rfl⟩, rfl, rfl⟩
  | refused _ _ h =>
    refine .inr ⟨⟨_, rfl⟩, ?_, rfl⟩
    cases h <;> rfl
  | made hopen hawait h hsink =>
    obtain ⟨result, rfl⟩ := hsink
    cases h
    exact .inl ⟨_, rfl, rfl, rfl, hopen, hawait⟩

/-- Candidates that are handed over say nothing of offers. -/
theorem Flushes.descriptors_eq (h : Flushes m es m') :
    m'.awaitingAnswer = m.awaitingAnswer ∧ m'.localDescriptor = m.localDescriptor := by
  cases h <;> exact ⟨rfl, rfl⟩

/-- A descriptor of the other side may answer the offer that waits, and sends none of this side. -/
theorem TakesDescriptor.turns {d : SessionDescriptor} {r : Except PeerError DescriptorOutcome}
    (h : TakesDescriptor Handed m d es r m') :
    Step.Turns ⟨m, .descriptor d, es, .descriptor r, m'⟩ := by
  cases h with
  | closed | duplicate => exact .keeps rfl rfl rfl fun _ => rfl
  | offer _ _ _ h =>
    cases h with
    | forbidden | refused => exact .keeps rfl rfl rfl fun _ => rfl
    | answered hawait _ _ hflush =>
      refine .keeps rfl rfl hflush.descriptors_eq.1 fun h => ?_
      exact absurd (hawait.symm.trans h) Bool.false_ne_true
  | answer _ _ _ h =>
    cases h with
    | forbidden | refused => exact .keeps rfl rfl rfl fun _ => rfl
    | applied hawait hflush => exact .applies rfl rfl hawait hflush.descriptors_eq.1

/-- A failure sends another offer, or gives up the one that waits. -/
theorem Fails.turns {change : Option Transition} (h : Fails Handed m es m') :
    Step.Turns ⟨m, .connectivity .failed, es, .change change, m'⟩ := by
  cases h with
  | again | plain => exact .keeps rfl rfl rfl fun _ => rfl
  | restarted _ hconnected h =>
    rcases h.sentIn_eq with ⟨d, -, hsent, rfl, hopen, -⟩ | ⟨⟨e, he⟩, -⟩
    · exact .offers (congrArg List.head? hsent) rfl hopen (.inr ⟨rfl, hconnected⟩) rfl rfl
    · cases he
  | refused _ hconnected h =>
    rcases h.sentIn_eq with ⟨d, hr, -⟩ | ⟨-, hsent, rfl⟩
    · cases hr
    · have hoffer := congrArg List.head? hsent
      cases hawait : m.awaitingAnswer
      · exact .keeps hoffer rfl hawait.symm fun _ => rfl
      · exact .givesUp hoffer rfl ⟨⟨rfl, hconnected⟩, hawait, hoffer⟩ rfl

/-- A report of progress may send the first offer. -/
theorem Progresses.turns {reported : Connectivity} {change : Option Transition}
    (h : Progresses m reported es m') :
    Step.Turns ⟨m, .connectivity reported, es, .change change, m'⟩ := by
  have hoffer := congrArg List.head? (sentIn_of_mute h.mute)
  cases h with
  | ignored | connected | moved => exact .keeps hoffer rfl rfl fun _ => rfl

/-- **What a call means for the offer that waits.** -/
theorem Performs.turns {c : Call} {r : Outcome} (h : Performs Handed m c es r m') :
    Step.Turns ⟨m, c, es, r, m'⟩ := by
  cases h with
  | descriptor h => exact h.turns
  | candidate h => cases h <;> exact .keeps rfl rfl rfl fun _ => rfl
  | offer h =>
    rcases h.sentIn_eq with ⟨d, -, hsent, rfl, hopen, hawait⟩ | ⟨-, hsent, rfl⟩
    · exact .offers (congrArg List.head? hsent) rfl hopen (.inl hawait) rfl rfl
    · exact .keeps (congrArg List.head? hsent) rfl rfl fun _ => rfl
  | report h =>
    cases h with
    | closed => exact .keeps rfl rfl rfl fun _ => rfl
    | failed _ hreported h =>
      rw [hreported]
      exact h.turns
    | progress _ _ h => exact h.turns
  | stop h =>
    cases h with
    | closed => exact .keeps rfl rfl rfl fun _ => rfl
    | stopped => exact .ends rfl rfl rfl rfl

/-- All that an attempt to offer sends is the first that it sends. -/
theorem Offers.sentIn_toList {restart : Bool} {r : Except PeerError Unit}
    (h : Offers Handed restart m es r m') : sentIn es = (sentIn es).head?.toList := by
  rcases h.sentIn_eq with ⟨d, -, hsent, -⟩ | ⟨-, hsent, -⟩
  all_goals
    rw [hsent]
    rfl

/-- **What a call sends** is one offer of this side, or the answer to a remote one. -/
theorem Performs.sentIn_eq {c : Call} {r : Outcome} (h : Performs Handed m c es r m') :
    let step : Step := ⟨m, c, es, r, m'⟩
    sentIn es = step.localOffer?.toList
      ∨ ∃ offer, c = .descriptor offer ∧ offer.role = .offer ∧ r = .descriptor (.ok .answered) := by
  cases h with
  | descriptor h =>
    cases h with
    | closed | duplicate => exact .inl rfl
    | offer _ _ hrole h =>
      cases h with
      | forbidden => exact .inl rfl
      | refused _ h => cases h <;> exact .inl rfl
      | answered => exact .inr ⟨_, rfl, hrole, rfl⟩
    | answer _ _ _ h =>
      cases h with
      | forbidden | refused => exact .inl rfl
      | @applied es _ _ hflush =>
        have hsent : sentIn es = [] := sentIn_of_mute hflush.mute
        exact .inl hsent
  | candidate h => cases h <;> exact .inl rfl
  | offer h => exact .inl h.sentIn_toList
  | report h =>
    cases h with
    | closed => exact .inl rfl
    | failed _ _ h =>
      cases h with
      | again | plain => exact .inl rfl
      | restarted _ _ h | refused _ _ h => exact .inl h.sentIn_toList
    | progress _ _ h =>
      have hsent := sentIn_of_mute h.mute
      exact .inl (hsent.trans (congrArg (fun ds => ds.head?.toList) hsent).symm)
  | stop h =>
    cases h with
    | closed | stopped => exact .inl rfl

end

/-! ## Runs -/

section
variable {session : ℕ} {role : DescriptorRole} {steps : List Step} {m : Machine}

/-- The latest offer of a run, which is not answered yet. -/
def IsUnanswered (d : SessionDescriptor) : List Step → Prop :=
  Since (fun step => step.localOffer? = some d) fun step =>
    step.localOffer? = none ∧ step.appliesAnswer = false

/-- An offer of a run is neither answered nor given up since. -/
def Awaits : List Step → Prop :=
  Since (fun step => step.localOffer?.isSome = true) fun step =>
    step.appliesAnswer = false ∧ ¬ step.GivesUp

/-- The offer that waits is the latest one. -/
theorem Run.isUnanswered (hr : Run session role steps m) (hawait : m.awaitingAnswer = true) :
    ∃ d, m.localDescriptor = some d ∧ IsUnanswered d steps := by
  induction hr with
  | start => cases hawait
  | call before hmay ih =>
    cases hmay.performs.turns with
    | @offers d hoffer _ _ _ hlocal => exact ⟨d, hlocal, since_concat.mpr (.inl hoffer)⟩
    | applies _ _ _ h | givesUp _ _ _ h | ends _ _ _ h =>
      exact absurd (h.symm.trans hawait) Bool.false_ne_true
    | keeps hoffer hanswer h hlocal =>
      have hbefore := h.symm.trans hawait
      obtain ⟨d, hd, hsince⟩ := ih hbefore
      exact ⟨d, (hlocal hbefore).trans hd, since_concat.mpr (.inr ⟨hsince, hoffer, hanswer⟩)⟩

/-- An offer that is neither answered nor given up waits until the end of the session. -/
theorem Run.awaitingAnswer (hr : Run session role steps m) (hawaits : Awaits steps) :
    m.awaitingAnswer = true ∨ m.state = .closed := by
  induction hr with
  | start =>
    obtain ⟨front, step, back, heq, -⟩ := hawaits
    simp at heq
  | @call steps m m' c es r before hmay ih =>
    have hperforms := hmay.performs
    rcases since_concat.mp hawaits with hoffer | ⟨hawaits, hanswer, hkept⟩
    · cases hperforms.turns with
      | offers _ _ _ _ _ hawait => exact .inl hawait
      | applies h | givesUp h | ends h | keeps h =>
        rw [h] at hoffer
        cases hoffer
    · rcases ih hawaits with hawait | hclosed
      · cases hperforms.turns with
        | offers _ _ _ _ _ hawait => exact .inl hawait
        | applies _ h => exact absurd (hanswer.symm.trans h) Bool.false_ne_true
        | givesUp _ _ h => exact absurd h hkept
        | ends _ _ h => exact .inr h
        | keeps _ _ h => exact .inl (h.trans hawait)
      · exact .inr (hperforms.closed hclosed)

/-- What is said of the offers of a run. -/
structure Outstanding (steps : List Step) : Prop where
  /-- All that is sent is one offer of this side at a time, or answers a remote offer. -/
  sent : ∀ step ∈ steps, sentIn step.made = step.localOffer?.toList
    ∨ ∃ offer, step.call = .descriptor offer ∧ offer.role = .offer
      ∧ step.outcome = .descriptor (.ok .answered)
  /-- Between two offers an answer was applied, unless the later one is a restart. Nothing is said
  where an offer was given up in between. -/
  between : ∀ front first middle second back,
    steps = front ++ first :: middle ++ second :: back →
    first.localOffer?.isSome = true → second.localOffer?.isSome = true →
    (∀ step ∈ middle, ¬ step.GivesUp) →
    (∃ step ∈ middle, step.appliesAnswer = true) ∨ second.IsRestart
  /-- An answer is applied to the latest offer, which is still the local descriptor, and only once.
  -/
  applied : ∀ front step back, steps = front ++ step :: back → step.appliesAnswer = true →
    ∃ d, step.before.localDescriptor = some d ∧ IsUnanswered d front

/-- **At most one offer waits for its answer**, and a restart supersedes the one that does. -/
theorem Run.outstanding (hr : Run session role steps m) : Outstanding steps where
  sent step hstep := by
    obtain ⟨front, back, rfl⟩ := List.append_of_mem hstep
    exact (hr.split rfl).2.sentIn_eq
  between front first middle second back hsteps hfirst hsecond hkept := by
    obtain ⟨hbefore, hperforms⟩ := hr.split hsteps
    by_cases hanswer : ∃ step ∈ middle, step.appliesAnswer = true
    · exact .inl hanswer
    refine .inr ?_
    have hawaits : Awaits (front ++ first :: middle) :=
      ⟨front, first, middle, rfl, hfirst, fun step hstep =>
        ⟨Bool.eq_false_iff.mpr fun h => hanswer ⟨step, hstep, h⟩, hkept step hstep⟩⟩
    cases hperforms.turns with
    | offers _ _ hopen hidle =>
      refine hidle.resolve_left fun hidle => ?_
      rcases hbefore.awaitingAnswer hawaits with hawait | hclosed
      · exact Bool.false_ne_true (hidle.symm.trans hawait)
      · exact hopen hclosed
    | applies h | givesUp h | ends h | keeps h =>
      rw [h] at hsecond
      cases hsecond
  applied front step back hsteps hanswer := by
    obtain ⟨hbefore, hperforms⟩ := hr.split hsteps
    cases hperforms.turns with
    | applies _ _ hawait => exact hbefore.isUnanswered hawait
    | offers _ h | givesUp _ h | ends _ h | keeps _ h =>
      exact absurd (h.symm.trans hanswer) Bool.false_ne_true

/-- An offer is sent, the connection fails before its answer comes, and then an answer comes. -/
def overtakenSteps : List Step :=
  let first := Machine.play { session := 1, role := .offer } .initiate
  let second := first.after.play (.connectivity .connected)
  let third := second.after.play (.connectivity .failed)
  [first, second, third, third.after.play (.descriptor (.answer "late"))]

theorem run_overtakenSteps : ∃ m, Run 1 .offer overtakenSteps m := by
  have hstart : Run 1 .offer [] _ := .start
  have hr := (((hstart.play .initiate).play (.connectivity .connected)).play
    (.connectivity .failed)).play (.descriptor (.answer "late"))
  exact ⟨_, hr⟩

/-- The answer of the sample is applied to the restart. -/
theorem outstanding_overtakenSteps : ∃ m, Run 1 .offer overtakenSteps m ∧ Outstanding overtakenSteps
    ∧ overtakenSteps.map Step.appliesAnswer = [false, false, false, true] := by
  obtain ⟨m, hr⟩ := run_overtakenSteps
  exact ⟨m, hr, hr.outstanding, by decide⟩

/-- Between any two offers an answer was applied. -/
def Alternates (steps : List Step) : Prop :=
  ∀ front first middle second back, steps = front ++ first :: middle ++ second :: back →
    first.localOffer?.isSome = true → second.localOffer?.isSome = true →
    ∃ step ∈ middle, step.appliesAnswer = true

/-- The restart of the sample does not wait for an answer. -/
theorem not_alternates_overtakenSteps :
    ∃ m, Run 1 .offer overtakenSteps m ∧ ¬ Alternates overtakenSteps := by
  obtain ⟨m, hr⟩ := run_overtakenSteps
  refine ⟨m, hr, fun halternates => ?_⟩
  obtain ⟨step, hstep, hanswer⟩ := halternates [] _ [_] _ [_] rfl rfl rfl
  obtain rfl := List.mem_singleton.mp hstep
  cases hanswer

end

end Machine

end CameraViewer.Negotiation
