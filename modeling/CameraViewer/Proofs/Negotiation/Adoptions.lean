import CameraViewer.Proofs.Negotiation.Outstanding

/-!
# Proofs/Negotiation/Adoptions — what is signalled is what the peer adopted

A negotiation sends a description of its own side when its peer has adopted it, and only then.
`Adopts` says so of one call, and `Run.signalled` of a run: what was sent is what was adopted, the
local descriptor is the last of it, and the remote descriptor is the last that a call has taken.
-/

namespace CameraViewer.Negotiation

open Peer Signal World

namespace Machine

/-! ## What is adopted and taken

Both are read off the record: the descriptions the peer adopted, and the descriptors of the other
side that a call answered or applied. -/

/-- The description of this side that the peer adopts. -/
def adopted? : Entry → Option SessionDescriptor
  | .asked (.peer _ (.setLocal d)) (.ok ()) => some d
  | _ => none

/-- The descriptions of this side that the peer adopted, in order. -/
def adoptedIn (record : List Entry) : List SessionDescriptor := record.filterMap adopted?

/-- The descriptor of the other side that a call takes: it answers it, or applies it. -/
def Step.taken? (step : Step) : Option SessionDescriptor :=
  match step.call, step.outcome with
  | .descriptor d, .descriptor (.ok .answered) => some d
  | .descriptor d, .descriptor (.ok .answerApplied) => some d
  | _, _ => none

/-- The descriptors of the other side that were taken, in order. -/
def takenIn (steps : List Step) : List SessionDescriptor := steps.filterMap Step.taken?

@[simp] theorem adoptedIn_append (es fs : List Entry) :
    adoptedIn (es ++ fs) = adoptedIn es ++ adoptedIn fs :=
  List.filterMap_append

/-- A call more takes one descriptor more, or none. -/
theorem takenIn_concat (steps : List Step) (step : Step) :
    takenIn (steps ++ [step]) = takenIn steps ++ step.taken?.toList := by
  rw [takenIn, List.filterMap_append]
  cases h : step.taken? <;> simp [takenIn, h]

theorem adopted?_of_not_call {e : Entry} (h : ¬ IsDescriptorCall e) : adopted? e = none := by
  unfold adopted?
  split
  · exact absurd trivial h
  · rfl

/-- A record without calls about descriptors adopts nothing. -/
theorem adoptedIn_of_mute {es : List Entry} (h : ∀ e ∈ es, IsMute e) : adoptedIn es = [] :=
  List.filterMap_eq_nil_iff.mpr fun e he => adopted?_of_not_call (h e he).1

/-! ## One call -/

/-- What was sent was adopted, and the local descriptor is the last of it. -/
structure Adopts (m : Machine) (es : List Entry) (m' : Machine) : Prop where
  sent : sentIn es = adoptedIn es
  local_eq : m'.localDescriptor = (adoptedIn es).getLast?.or m.localDescriptor

variable {m m' : Machine} {es : List Entry}

/-- Without such a call nothing is sent, and the local descriptor stays. -/
theorem adopts_of_mute (hes : ∀ e ∈ es, IsMute e)
    (hlocal : m'.localDescriptor = m.localDescriptor) :
    Adopts m es m' := by
  refine ⟨?_, ?_⟩
  · rw [sentIn_of_mute hes, adoptedIn_of_mute hes]
  · rw [adoptedIn_of_mute hes, hlocal]
    rfl

/-- One after the other. -/
theorem Adopts.trans {m₁ : Machine} {fs : List Entry} (h : Adopts m es m₁) (h' : Adopts m₁ fs m') :
    Adopts m (es ++ fs) m' where
  sent := by rw [sentIn_append, adoptedIn_append, h.sent, h'.sent]
  local_eq := by
    rw [h'.local_eq, h.local_eq, adoptedIn_append, List.getLast?_append, Option.or_assoc]

/-- A refused answer was not adopted. -/
theorem NegotiatesAnswer.adopts {offer : SessionDescriptor} {e : PeerError}
    (h : NegotiatesAnswer m.session offer es (.error e)) :
    Adopts m (timed .answerRemoteOffer :: es) m := by
  cases h <;> exact ⟨rfl, rfl⟩

/-- Nor was a refused offer. -/
theorem NegotiatesOffer.adopts {restart : Bool} {e : PeerError}
    (h : NegotiatesOffer m.session restart es (.error e)) :
    Adopts m (timed .localOffer :: es) m := by
  cases h <;> exact ⟨rfl, rfl⟩

/-- Candidates that are handed over are none of it. -/
theorem Flushes.adopts (h : Flushes m es m') : Adopts m es m' :=
  adopts_of_mute h.mute h.descriptors_eq.2

/-- **An answer is adopted and sent.** -/
theorem Answers.adopts {offer : SessionDescriptor} {r : Except PeerError DescriptorOutcome}
    (h : Answers Handed m offer es r m') : Adopts m es m' := by
  cases h with
  | forbidden => exact ⟨rfl, rfl⟩
  | refused _ h => exact h.adopts
  | @answered es fs gs answer _ _ h hsink hflush =>
    obtain ⟨result, rfl⟩ := hsink
    cases h
    have hmade : Adopts m [timed .answerRemoteOffer, told m.session (.setRemote offer) (.ok ()),
        told m.session .createAnswer (.ok answer), told m.session (.setLocal answer) (.ok ()),
        .handed (.sessionDescription answer) result] (m.withAnswer offer answer) := ⟨rfl, rfl⟩
    exact hmade.trans hflush.adopts

/-- An answer that is applied adopts nothing of this side. -/
theorem Applies.adopts {answer : SessionDescriptor} {r : Except PeerError DescriptorOutcome}
    (h : Applies m answer es r m') : Adopts m es m' := by
  cases h with
  | forbidden | refused => exact ⟨rfl, rfl⟩
  | applied _ hflush =>
    have htold : Adopts m [told m.session (.setRemote answer) (.ok ())] (m.withApplied answer) :=
      ⟨rfl, rfl⟩
    exact htold.trans hflush.adopts

/-- **An offer is adopted and sent.** -/
theorem Offers.adopts {restart : Bool} {r : Except PeerError Unit}
    (h : Offers Handed restart m es r m') : Adopts m es m' := by
  cases h with
  | closed | forbidden => exact ⟨rfl, rfl⟩
  | refused _ _ h => exact h.adopts
  | made _ _ h hsink =>
    obtain ⟨result, rfl⟩ := hsink
    cases h
    exact ⟨rfl, rfl⟩

/-- **Every call** sends what the peer adopts in it. -/
theorem Performs.adopts {c : Call} {r : Outcome} (h : Performs Handed m c es r m') :
    Adopts m es m' := by
  cases h with
  | descriptor h =>
    cases h with
    | closed | duplicate => exact ⟨rfl, rfl⟩
    | offer _ _ _ h => exact h.adopts
    | answer _ _ _ h => exact h.adopts
  | candidate h => cases h <;> exact ⟨rfl, rfl⟩
  | offer h => exact h.adopts
  | report h =>
    cases h with
    | closed => exact ⟨rfl, rfl⟩
    | failed _ _ h =>
      cases h with
      | again | plain => exact ⟨rfl, rfl⟩
      | restarted _ _ h | refused _ _ h => exact ⟨h.adopts.sent, h.adopts.local_eq⟩
    | progress _ _ h =>
      refine adopts_of_mute h.mute ?_
      cases h <;> rfl
  | stop h =>
    refine adopts_of_mute h.mute ?_
    cases h <;> rfl

/-- Candidates that are handed over do not touch the remote descriptor. -/
theorem Flushes.remote_eq (h : Flushes m es m') : m'.remoteDescriptor = m.remoteDescriptor := by
  cases h <;> rfl

theorem Offers.remote_eq {H : Envelope → List Entry → Prop} {restart : Bool}
    {r : Except PeerError Unit} (h : Offers H restart m es r m') :
    m'.remoteDescriptor = m.remoteDescriptor := by
  cases h <;> rfl

/-- **The remote descriptor is the one that was taken last.** -/
theorem Performs.remote_eq {H : Envelope → List Entry → Prop} {c : Call} {r : Outcome}
    (h : Performs H m c es r m') :
    m'.remoteDescriptor = (Step.taken? ⟨m, c, es, r, m'⟩).or m.remoteDescriptor := by
  cases h with
  | descriptor h =>
    cases h with
    | closed | duplicate => rfl
    | offer _ _ _ h =>
      cases h with
      | forbidden | refused => rfl
      | answered _ _ _ hflush => exact hflush.remote_eq
    | answer _ _ _ h =>
      cases h with
      | forbidden | refused => rfl
      | applied _ hflush => exact hflush.remote_eq
  | candidate h => cases h <;> rfl
  | offer h => exact h.remote_eq
  | report h =>
    cases h with
    | closed => rfl
    | failed _ _ h =>
      cases h with
      | again | plain => rfl
      | restarted _ _ h | refused _ _ h => exact h.remote_eq
    | progress _ _ h => cases h <;> rfl
  | stop h => cases h <;> rfl

/-! ## Runs -/

/-- What is said of the descriptors of a run. -/
structure Signalled (steps : List Step) (m : Machine) : Prop where
  /-- What was sent is what the peer adopted, each once and in order. -/
  sent : sentIn (recordOf steps) = adoptedIn (recordOf steps)
  /-- The local descriptor is the last of it, -/
  local_eq : m.localDescriptor = (sentIn (recordOf steps)).getLast?
  /-- and the remote one is the last that was answered or applied. -/
  remote_eq : m.remoteDescriptor = (takenIn steps).getLast?

/-- **What is signalled is what the peer adopted**, whatever it refuses and whatever is lost. -/
theorem Run.signalled {session : ℕ} {role : DescriptorRole} {steps : List Step}
    (hr : Run session role steps m) : Signalled steps m := by
  induction hr with
  | start => exact ⟨rfl, rfl, rfl⟩
  | @call steps m m' c es r before hmay ih =>
    have hadopts := hmay.performs.adopts
    refine ⟨?_, ?_, ?_⟩
    · rw [recordOf_concat, sentIn_append, adoptedIn_append, ih.sent, hadopts.sent]
    · rw [recordOf_concat, sentIn_append, List.getLast?_append, hadopts.local_eq, hadopts.sent,
        ih.local_eq]
    · rw [takenIn_concat, List.getLast?_append, hmay.performs.remote_eq, ih.remote_eq]
      cases Step.taken? ⟨m, c, es, r, m'⟩ <;> rfl

/-- An offer that the peer makes but does not adopt, one that is adopted and lost, its answer, and
two restarts, the first of them refused. -/
def refusedOfferSteps : List Step :=
  let s₁ := Machine.venture { session := 1, role := .offer } [false, true] .initiate
  let s₂ := s₁.after.venture [] .initiate
  let s₃ := s₂.after.venture [true] (.descriptor (.answer "refused"))
  let s₄ := s₃.after.venture [] (.descriptor (.answer "applied"))
  let s₅ := s₄.after.venture [] (.connectivity .connected)
  let s₆ := s₅.after.venture [true] (.connectivity .failed)
  let s₇ := s₆.after.venture [] (.connectivity .connected)
  [s₁, s₂, s₃, s₄, s₅, s₆, s₇, s₇.after.venture [] (.connectivity .failed)]

/-- The sample sends two offers, and takes one answer. -/
theorem signalled_refusedOfferSteps :
    ∃ m, Run 1 .offer refusedOfferSteps m ∧ Signalled refusedOfferSteps m
      ∧ (sentIn (recordOf refusedOfferSteps)).length = 2
      ∧ takenIn refusedOfferSteps = [.answer "applied"] := by
  have hstart : Run 1 .offer [] _ := .start
  have hr := (((((((hstart.venture [false, true] .initiate).venture [] .initiate).venture [true]
    (.descriptor (.answer "refused"))).venture [] (.descriptor (.answer "applied"))).venture []
    (.connectivity .connected)).venture [true] (.connectivity .failed)).venture []
    (.connectivity .connected)).venture [] (.connectivity .failed)
  exact ⟨_, hr, hr.signalled, by decide, by decide⟩

end Machine

end CameraViewer.Negotiation
