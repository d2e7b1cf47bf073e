import CameraViewer.Proofs.Negotiation.Adoptions

/-!
# Proofs/Negotiation/Rejections — a call that fails leaves the machine as it was

Wherever in a call the peer refuses, the machine changes only when nothing can be refused any more.
`MayPerform.rejected` says what this means for a call that returns an error: the machine is as it
was, nothing was sent, what waits still waits, and a descriptor that comes again is not taken for a
repetition.
-/

namespace CameraViewer.Negotiation

open Peer Signal World

namespace Machine

/-- The call returned an error. -/
inductive Outcome.IsError : Outcome → Prop
  | descriptor (e : PeerError) : IsError (.descriptor (.error e))
  | candidate (e : PeerError) : IsError (.candidate (.error e))
  | offer (e : PeerError) : IsError (.offer (.error e))

/-- A message is handed to the sink. -/
def IsHanded : Entry → Prop
  | .handed _ _ => True
  | _ => False

/-- The calls that a machine may get from some state on. -/
inductive RunFrom (m : Machine) : List Step → Machine → Prop
  | rest : RunFrom m [] m
  | call {steps : List Step} {m₁ m₂ : Machine} {c : Call} {es : List Entry} {r : Outcome}
    (before : RunFrom m steps m₁) (hmay : MayPerform m₁ c es (r, m₂)) :
    RunFrom m (steps ++ [⟨m₁, c, es, r, m₂⟩]) m₂

section
variable {H : Envelope → List Entry → Prop} {m m' : Machine} {es : List Entry}

/-! ## What an error leaves

A refusal leaves the operation before the machine is changed, so the machine after an error is the
one before. -/

/-- The machine is as it was, nothing was sent, and the peer got no candidate but the one that
came. -/
structure Untouched (m : Machine) (c : Call) (es : List Entry) (m' : Machine) : Prop where
  unchanged : m' = m
  unsent : ∀ e ∈ es, ¬ IsHanded e
  kept : passed es <+: c.candidate?.toList

theorem untouched_of_nothing (c : Call) : Untouched m c [] m :=
  ⟨rfl, List.forall_mem_nil _, List.nil_prefix⟩

/-- An answer that the peer refuses is not sent. -/
theorem NegotiatesAnswer.untouched {offer d : SessionDescriptor} {e : PeerError}
    (h : NegotiatesAnswer m.session offer es (.error e)) :
    Untouched m (.descriptor d) (timed .answerRemoteOffer :: es) m := by
  cases h <;> exact ⟨rfl, by simp [timed, told, IsHanded], List.nil_prefix⟩

theorem NegotiatesOffer.untouched {restart : Bool} {e : PeerError}
    (h : NegotiatesOffer m.session restart es (.error e)) :
    Untouched m .initiate (timed .localOffer :: es) m := by
  cases h <;> exact ⟨rfl, by simp [timed, told, IsHanded], List.nil_prefix⟩

/-- Wherever the peer refuses a descriptor of the other side, or what has to be made for it, nothing
was stored. -/
theorem TakesDescriptor.untouched {d : SessionDescriptor} {e : PeerError}
    (h : TakesDescriptor H m d es (.error e) m') : Untouched m (.descriptor d) es m' := by
  cases h with
  | closed => exact untouched_of_nothing _
  | offer _ _ _ h =>
    cases h with
    | forbidden => exact untouched_of_nothing _
    | refused _ h => exact h.untouched
  | answer _ _ _ h =>
    cases h with
    | forbidden => exact untouched_of_nothing _
    | refused => exact ⟨rfl, by simp [told, IsHanded], List.nil_prefix⟩

/-- A candidate that the peer refuses is all that it got. -/
theorem TakesCandidate.untouched {c : Candidate} {e : PeerError}
    (h : TakesCandidate m c es (.error e) m') : Untouched m (.candidate c) es m' := by
  cases h with
  | closed => exact untouched_of_nothing _
  | refused => exact ⟨rfl, by simp [told, IsHanded], List.prefix_rfl⟩

theorem Offers.untouched {restart : Bool} {e : PeerError}
    (h : Offers H restart m es (.error e) m') :
    Untouched m .initiate es m' := by
  cases h with
  | closed | forbidden => exact untouched_of_nothing _
  | refused _ _ h => exact h.untouched

/-- **A call that returns an error leaves the machine untouched.** -/
theorem Performs.untouched {c : Call} {r : Outcome} (h : Performs H m c es r m') (hr : r.IsError) :
    Untouched m c es m' := by
  cases h with
  | descriptor h =>
    cases hr
    exact h.untouched
  | candidate h =>
    cases hr
    exact h.untouched
  | offer h =>
    cases hr
    exact h.untouched
  | report | stop => cases hr

/-! ## A descriptor that comes again

What was refused was not stored, so it cannot be taken for a repetition. -/

/-- A machine that does not take a descriptor for a repetition. -/
def Unknown (d : SessionDescriptor) (m : Machine) : Prop :=
  m.state = .closed ∨ m.remoteDescriptor ≠ some d

/-- It is the turn of a descriptor: an answer comes while an offer waits for it, and an offer while
none does. -/
def IsTurnOf (m : Machine) (d : SessionDescriptor) : Prop :=
  m.awaitingAnswer = decide (d.role = .answer)

/-- A descriptor is treated as new: it is not ignored as a repetition. If it is its turn the peer is
asked to adopt it, and if nothing is refused it is taken. -/
structure TreatedAsNew (m : Machine) (d : SessionDescriptor) (es : List Entry)
    (r : Except PeerError DescriptorOutcome) : Prop where
  not_duplicate : r ≠ .ok .duplicate
  asked : m.state ≠ .closed → m.IsTurnOf d → ∃ reply, told m.session (.setRemote d) reply ∈ es
  taken : m.state ≠ .closed → m.IsTurnOf d → Accepting es →
    r = .ok (if d.role = .offer then .answered else .answerApplied)

/-- A descriptor that was refused is unknown to the machine. -/
theorem TakesDescriptor.unknown {d : SessionDescriptor} {e : PeerError}
    (h : TakesDescriptor H m d es (.error e) m') : m'.Unknown d := by
  rw [h.untouched.unchanged]
  cases h with
  | closed hclosed => exact .inl hclosed
  | offer _ hnew | answer _ hnew => exact .inr hnew

/-- It stays unknown until it is taken. -/
theorem Performs.unknown {d : SessionDescriptor} {c : Call} {r : Outcome}
    (h : Performs H m c es r m') (hm : m.Unknown d)
    (htaken : Step.taken? ⟨m, c, es, r, m'⟩ ≠ some d) : m'.Unknown d := by
  refine hm.imp h.closed fun hnew => ?_
  rw [h.remote_eq]
  cases hstep : Step.taken? ⟨m, c, es, r, m'⟩ with
  | none => exact hnew
  | some d' => rwa [hstep] at htaken

/-- A descriptor stays unknown over later calls that do not take it. -/
theorem RunFrom.unknown {d : SessionDescriptor} {steps : List Step} (hr : RunFrom m steps m')
    (hm : m.Unknown d) (htaken : ∀ step ∈ steps, step.taken? ≠ some d) : m'.Unknown d := by
  induction hr with
  | rest => exact hm
  | call _ hmay ih =>
    obtain ⟨hbefore, hlast⟩ := List.forall_mem_append.mp htaken
    exact hmay.performs.unknown (ih hbefore) (hlast _ List.mem_cons_self)

/-- **An unknown descriptor is treated as new.** -/
theorem TakesDescriptor.treatedAsNew {d : SessionDescriptor}
    {r : Except PeerError DescriptorOutcome} (h : TakesDescriptor H m d es r m')
    (hm : m.Unknown d) : TreatedAsNew m d es r := by
  cases h with
  | closed hclosed => exact ⟨nofun, absurd hclosed, absurd hclosed⟩
  | duplicate hopen hsame => exact absurd hsame (hm.resolve_left hopen)
  | offer _ _ hrole h =>
    cases h with
    | forbidden hawait =>
      have hturn : ¬ m.IsTurnOf d := by simp [IsTurnOf, hawait, hrole]
      exact ⟨nofun, fun _ ht => absurd ht hturn, fun _ ht => absurd ht hturn⟩
    | refused _ h =>
      refine ⟨nofun, fun _ _ => ?_, fun _ _ hacc => ?_⟩
      · cases h <;> exact ⟨_, List.mem_cons_of_mem _ List.mem_cons_self⟩
      · exact absurd (List.forall_mem_cons.mp hacc).2 h.not_accepting
    | answered _ h =>
      refine ⟨nofun, fun _ _ => ?_, fun _ _ _ => ?_⟩
      · cases h
        exact ⟨_, List.mem_cons_of_mem _ List.mem_cons_self⟩
      · rw [if_pos hrole]
  | answer _ _ hrole h =>
    cases h with
    | forbidden hawait =>
      have hturn : ¬ m.IsTurnOf d := by simp [IsTurnOf, hawait, hrole]
      exact ⟨nofun, fun _ ht => absurd ht hturn, fun _ ht => absurd ht hturn⟩
    | refused =>
      refine ⟨nofun, fun _ _ => ⟨_, List.mem_cons_self⟩, fun _ _ hacc => ?_⟩
      exact nomatch hacc _ List.mem_cons_self
    | applied =>
      refine ⟨nofun, fun _ _ => ⟨_, List.mem_cons_self⟩, fun _ _ _ => ?_⟩
      rw [hrole]
      rfl

/-- What is said of a call that returned an error. -/
structure Rejected (m : Machine) (c : Call) (es : List Entry) (m' : Machine) : Prop
    extends Untouched m c es m' where
  /-- A descriptor that was refused is treated as new whenever it comes again, until it is taken. -/
  resent : ∀ d, c = .descriptor d → ∀ steps m₁, RunFrom m' steps m₁ →
    (∀ step ∈ steps, step.taken? ≠ some d) → ∀ fs r m₂,
    MayPerform m₁ (.descriptor d) fs (.descriptor r, m₂) → TreatedAsNew m₁ d fs r

/-- **A call that returns an error leaves the machine as it was**, wherever the peer refused. -/
theorem MayPerform.rejected {c : Call} {r : Outcome} (h : MayPerform m c es (r, m'))
    (hr : r.IsError) :
    Rejected m c es m' where
  toUntouched := h.performs.untouched hr
  resent := by
    rintro d rfl steps m₁ hrun htaken fs r₁ m₂ hmay
    have hunknown : m'.Unknown d := by
      cases h.performs with
      | descriptor h =>
        cases hr
        exact h.unknown
    cases hmay.performs with
    | descriptor hagain => exact hagain.treatedAsNew (hrun.unknown hunknown htaken)

/-- An offer comes while a candidate waits, and the peer adopts it but makes no answer. -/
def unansweredStep : Step :=
  Machine.venture { session := 1, role := .answer, pending := [.ofText "early"] } [false, true]
    (.descriptor (.offer "remote"))

/-- When the offer of the sample comes again it is answered, and the candidate is handed over. -/
theorem rejected_unansweredStep :
    MayPerform unansweredStep.before unansweredStep.call unansweredStep.made
        (unansweredStep.outcome, unansweredStep.after)
      ∧ unansweredStep.outcome.IsError
      ∧ Rejected unansweredStep.before unansweredStep.call unansweredStep.made unansweredStep.after
      ∧ (unansweredStep.after.play unansweredStep.call).taken? = some (.offer "remote")
      ∧ passed (unansweredStep.after.play unansweredStep.call).made = [.ofText "early"] :=
  have hmay := mayPerform_venture unansweredStep.before [false, true] unansweredStep.call
  ⟨hmay, .descriptor _, hmay.rejected (.descriptor _), by decide, by decide⟩

end

end Machine

end CameraViewer.Negotiation
