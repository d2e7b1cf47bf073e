import CameraViewer.Proofs.Negotiation.Runs

/-!
# Proofs/Negotiation/Candidates — what becomes of remote candidates

`Run.candidates`: until the session is closed, the candidates handed to the peer and those that
wait are all that came, in the order they came; the peer gets them only once it has adopted
descriptors of both sides, and then none waits.
-/

namespace CameraViewer.Negotiation

open Peer Signal World

namespace Machine

/-! ## Reading a record

Whether a peer may be offered a candidate is read off the record: a side counts from the entry in
which the peer adopted its descriptor. -/

/-- The candidate handed to the peer, whatever it said. -/
def passed? : Entry → Option Candidate
  | .asked (.peer _ (.addCandidate c)) _ => some c
  | _ => none

/-- The candidates handed to the peer, in order. -/
def passed (record : List Entry) : List Candidate := record.filterMap passed?

/-- The candidate a call brings. -/
def Call.candidate? : Call → Option Candidate
  | .candidate c => some c
  | _ => none

/-- The candidates that came, in order. -/
def given (steps : List Step) : List Candidate := steps.filterMap fun s => s.call.candidate?

/-- Of which sides the peer has adopted a descriptor. -/
structure Sides where
  /-- It has one of this side. -/
  localSet : Bool := false
  /-- It has one of the other side. -/
  remoteSet : Bool := false

/-- The sides after one more entry. -/
def Sides.next (s : Sides) : Entry → Sides
  | .asked (.peer _ (.setLocal _)) (.ok ()) => { s with localSet := true }
  | .asked (.peer _ (.setRemote _)) (.ok ()) => { s with remoteSet := true }
  | _ => s

/-- The sides after a record. -/
def Sides.after (s : Sides) (record : List Entry) : Sides := record.foldl Sides.next s

/-- Candidates are handed over only while the peer has descriptors of both sides. -/
def Orderly : Sides → List Entry → Prop
  | _, [] => True
  | s, e :: rest =>
    (passed? e ≠ none → s.localSet = true ∧ s.remoteSet = true) ∧ Orderly (s.next e) rest

/-- Candidates are read entry by entry. -/
@[simp] theorem passed_append (es fs : List Entry) : passed (es ++ fs) = passed es ++ passed fs :=
  List.filterMap_append

@[simp] theorem Sides.after_append (s : Sides) (es fs : List Entry) :
    s.after (es ++ fs) = (s.after es).after fs :=
  List.foldl_append

/-- A record is in order if its beginning is, and what follows is from there. -/
theorem orderly_append {s : Sides} {es fs : List Entry} :
    Orderly s (es ++ fs) ↔ Orderly s es ∧ Orderly (s.after es) fs := by
  induction es generalizing s with
  | nil => simp [Orderly, Sides.after]
  | cons e rest ih =>
    rw [List.cons_append, Orderly, Orderly, ih, and_assoc]
    rfl

/-- Without candidates everything is in order. -/
theorem orderly_of_passed_eq_nil {s : Sides} {es : List Entry} (h : passed es = []) :
    Orderly s es := by
  induction es generalizing s with
  | nil => trivial
  | cons e rest ih =>
    rw [passed, List.filterMap_cons] at h
    cases he : passed? e with
    | none =>
      rw [he] at h
      exact ⟨fun hne => absurd he hne, ih h⟩
    | some c =>
      rw [he] at h
      cases h

/-- No side is ever lost. -/
theorem Sides.next_le (s : Sides) (e : Entry) :
    (s.localSet = true → (s.next e).localSet = true)
      ∧ (s.remoteSet = true → (s.next e).remoteSet = true) := by
  unfold next
  split <;> simp_all

/-- A side that is there stays. -/
theorem Sides.after_le (s : Sides) (es : List Entry) :
    (s.localSet = true → (s.after es).localSet = true)
      ∧ (s.remoteSet = true → (s.after es).remoteSet = true) := by
  induction es generalizing s with
  | nil => exact ⟨id, id⟩
  | cons e rest ih =>
    exact ⟨fun h => (ih _).1 ((s.next_le e).1 h), fun h => (ih _).2 ((s.next_le e).2 h)⟩

/-! ## Invariants

A machine knows which descriptors it has, the record which of them the peer adopted. `Covers` keeps
the two together. `Paired` rules out that candidates are forgotten: as soon as both descriptors are
there, none waits. -/

/-- A descriptor of the other side is there only beside one of this side, and beside both no
candidate waits. -/
structure Paired (m : Machine) : Prop where
  remote : m.remoteDescriptor.isSome = true → m.localDescriptor.isSome = true
  awaiting : m.awaitingAnswer = true → m.localDescriptor.isSome = true
  pending : m.hasPair = true → m.pending = []

/-- The peer has adopted the descriptors the machine has. -/
structure Covers (s : Sides) (m : Machine) : Prop where
  localSet : m.localDescriptor.isSome = true → s.localSet = true
  remoteSet : m.remoteDescriptor.isSome = true → s.remoteSet = true

/-- What a peer has adopted it keeps. -/
theorem Covers.after {s : Sides} {m : Machine} (h : Covers s m) (es : List Entry) :
    Covers (s.after es) m :=
  ⟨fun hl => (s.after_le es).1 (h.localSet hl), fun hr => (s.after_le es).2 (h.remoteSet hr)⟩

theorem hasPair_iff {m : Machine} :
    m.hasPair = true ↔ m.localDescriptor.isSome = true ∧ m.remoteDescriptor.isSome = true := by
  rw [hasPair, Bool.and_eq_true]

/-- All candidates are passed on, refused or not, -/
theorem HandsOver.passed_eq {session : ℕ} {cs : List Candidate} {es : List Entry}
    (h : HandsOver session cs es) : passed es = cs := by
  induction h with
  | nil => rfl
  | cons _ _ ih => exact congrArg _ ih

/-- and none too early, if both sides are there. -/
theorem HandsOver.orderly {session : ℕ} {cs : List Candidate} {es : List Entry}
    (h : HandsOver session cs es) {s : Sides} (hl : s.localSet = true) (hr : s.remoteSet = true) :
    Orderly s es := by
  induction h with
  | nil => trivial
  | cons _ _ ih => exact ⟨fun _ => ⟨hl, hr⟩, ih⟩

/-- What every operation keeps, `came` being the candidates it brings. -/
structure Keeps (s : Sides) (m : Machine) (came : List Candidate) (es : List Entry) (m' : Machine) :
    Prop where
  order : m'.state ≠ .closed → passed es ++ m'.pending = m.pending ++ came
  orderly : Orderly s es
  both : passed es ≠ [] → m'.hasPair = true
  paired : m'.Paired
  covers : Covers (s.after es) m'

section
variable {s : Sides} {m m' : Machine} {es fs : List Entry}

/-- Nothing is handed over and nothing comes. -/
theorem keeps_quiet (hes : passed es = []) (hpending : m'.state ≠ .closed → m'.pending = m.pending)
    (hpaired : m'.Paired) (hcovers : Covers (s.after es) m') : Keeps s m [] es m' where
  order hopen := by rw [hes, hpending hopen, List.nil_append, List.append_nil]
  orderly := orderly_of_passed_eq_nil hes
  both h := absurd hes h
  paired := hpaired
  covers := hcovers

/-- First something without candidates. -/
theorem Keeps.after {m₁ : Machine} (hes : passed es = []) (hpending : m₁.pending = m.pending)
    (h : Keeps (s.after es) m₁ [] fs m') : Keeps s m [] (es ++ fs) m' where
  order hopen := by rw [passed_append, hes, List.nil_append, h.order hopen, hpending]
  orderly := orderly_append.mpr ⟨orderly_of_passed_eq_nil hes, h.orderly⟩
  both hne := h.both (by rwa [passed_append, hes, List.nil_append] at hne)
  paired := h.paired
  covers := by
    rw [Sides.after_append]
    exact h.covers

/-- **What waits is handed over once, in order.** -/
theorem Flushes.keeps (hf : Flushes m es m') (hc : Covers s m)
    (hremote : m.remoteDescriptor.isSome = true → m.localDescriptor.isSome = true)
    (hawaiting : m.awaitingAnswer = true → m.localDescriptor.isSome = true) :
    Keeps s m [] es m' := by
  cases hf with
  | handed hpair h =>
    obtain ⟨hl, hr⟩ := hasPair_iff.mp hpair
    refine ⟨fun _ => ?_, h.orderly (hc.localSet hl) (hc.remoteSet hr), fun _ => hpair,
      ⟨hremote, hawaiting, fun _ => rfl⟩, ⟨(hc.after es).localSet, (hc.after es).remoteSet⟩⟩
    rw [h.passed_eq]
  | kept hpair =>
    exact keeps_quiet rfl (fun _ => rfl) ⟨hremote, hawaiting, fun h => by simp [hpair] at h⟩ hc

theorem NegotiatesAnswer.passed_eq {session : ℕ} {offer : SessionDescriptor}
    {r : Except PeerError SessionDescriptor} (h : NegotiatesAnswer session offer es r) :
    passed es = [] := by
  cases h <;> rfl

theorem NegotiatesOffer.passed_eq {session : ℕ} {restart : Bool}
    {r : Except PeerError SessionDescriptor} (h : NegotiatesOffer session restart es r) :
    passed es = [] := by
  cases h <;> rfl

theorem Handed.passed_eq {e : Envelope} (h : Handed e es) : passed es = [] := by
  obtain ⟨result, rfl⟩ := h
  rfl

/-- **The answer to an offer hands over what waited for it.** -/
theorem Answers.keeps {offer : SessionDescriptor} {r : Except PeerError DescriptorOutcome}
    (h : Answers Handed m offer es r m') (hp : m.Paired) (hc : Covers s m) :
    Keeps s m [] es m' := by
  cases h with
  | forbidden => exact keeps_quiet rfl (fun _ => rfl) hp hc
  | refused _ h => exact keeps_quiet h.passed_eq (fun _ => rfl) hp (hc.after _)
  | @answered es fs gs answer _ hawait h hsink hflush =>
    have hbefore : passed (timed .answerRemoteOffer :: (es ++ fs)) = [] := by
      rw [← List.singleton_append, passed_append, passed_append, h.passed_eq, hsink.passed_eq]
      rfl
    have hadopted : Covers (s.after (timed .answerRemoteOffer :: (es ++ fs)))
        (m.withAnswer offer answer) := by
      rw [← List.cons_append, Sides.after_append]
      refine Covers.after ?_ fs
      cases h
      exact ⟨fun _ => rfl, fun _ => rfl⟩
    have hkeeps := hflush.keeps hadopted (fun _ => rfl) (fun _ => rfl)
    have hpending : (m.withAnswer offer answer).pending = m.pending := rfl
    have hall := hkeeps.after hbefore hpending
    rwa [List.cons_append, List.append_assoc] at hall

/-- **So does an answer that is applied.** -/
theorem Applies.keeps {answer : SessionDescriptor} {r : Except PeerError DescriptorOutcome}
    (h : Applies m answer es r m') (hp : m.Paired) (hc : Covers s m) : Keeps s m [] es m' := by
  cases h with
  | forbidden => exact keeps_quiet rfl (fun _ => rfl) hp hc
  | refused => exact keeps_quiet rfl (fun _ => rfl) hp (hc.after _)
  | @applied es _ hawait hflush =>
    have hlocal := hp.awaiting hawait
    have hadopted : Covers (s.after [told m.session (.setRemote answer) (.ok ())])
        (m.withApplied answer) :=
      ⟨(hc.after _).localSet, fun _ => rfl⟩
    have hkeeps := hflush.keeps hadopted (fun _ => hlocal) (fun _ => hlocal)
    have hpending : (m.withApplied answer).pending = m.pending := rfl
    exact hkeeps.after rfl hpending

/-- A descriptor of the other side brings no candidate, and may let those go that wait. -/
theorem TakesDescriptor.keeps {d : SessionDescriptor} {r : Except PeerError DescriptorOutcome}
    (h : TakesDescriptor Handed m d es r m') (hp : m.Paired) (hc : Covers s m) :
    Keeps s m [] es m' := by
  cases h with
  | closed | duplicate => exact keeps_quiet rfl (fun _ => rfl) hp hc
  | offer _ _ _ h => exact h.keeps hp hc
  | answer _ _ _ h => exact h.keeps hp hc

/-- **A candidate is handed over at once, or waits at the end of the line.** -/
theorem TakesCandidate.keeps {c : Candidate} {r : Except PeerError CandidateOutcome}
    (h : TakesCandidate m c es r m') (hp : m.Paired) (hc : Covers s m) : Keeps s m [c] es m' := by
  have hboth : m.hasPair = true → s.localSet = true ∧ s.remoteSet = true := fun hpair =>
    ⟨hc.localSet (hasPair_iff.mp hpair).1, hc.remoteSet (hasPair_iff.mp hpair).2⟩
  cases h with
  | closed hclosed =>
    exact ⟨fun hopen => absurd hclosed hopen, trivial, fun hne => absurd rfl hne, hp, hc⟩
  | refused hopen hpair | applied hopen hpair =>
    refine ⟨fun _ => ?_, ⟨fun _ => hboth hpair, trivial⟩, fun _ => hpair, hp, hc.after _⟩
    rw [hp.pending hpair]
    rfl
  | buffered hopen hpair =>
    refine ⟨fun _ => rfl, trivial, fun hne => absurd rfl hne, ⟨hp.remote, hp.awaiting, fun h => ?_⟩,
      ⟨hc.localSet, hc.remoteSet⟩⟩
    exact absurd (hpair.symm.trans h) Bool.false_ne_true

/-- An attempt to offer hands over nothing; whatever it leads to, what waits goes on waiting. -/
theorem Offers.quiet {restart : Bool} {r : Except PeerError Unit}
    (h : Offers Handed restart m es r m') (hp : m.Paired) (hc : Covers s m) :
    passed es = [] ∧ m'.pending = m.pending ∧ m'.Paired ∧ Covers (s.after es) m' := by
  cases h with
  | closed | forbidden => exact ⟨rfl, rfl, hp, hc⟩
  | refused _ _ h => exact ⟨h.passed_eq, rfl, hp, hc.after _⟩
  | @made es fs offer _ _ h hsink =>
    refine ⟨?_, rfl, ⟨fun _ => rfl, fun _ => rfl, fun hpair => ?_⟩, ?_⟩
    · rw [← List.singleton_append, passed_append, passed_append, h.passed_eq, hsink.passed_eq]
      rfl
    · have hremote := (hasPair_iff.mp hpair).2
      exact hp.pending (hasPair_iff.mpr ⟨hp.remote hremote, hremote⟩)
    · refine ⟨fun _ => ?_, (hc.after _).remoteSet⟩
      rw [← List.cons_append, Sides.after_append]
      refine (Sides.after_le _ fs).1 ?_
      cases h
      rfl

/-- A failed connection has no effect on candidates. -/
theorem Fails.keeps (h : Fails Handed m es m') (hp : m.Paired) (hc : Covers s m) :
    Keeps s m [] es m' := by
  have hp' : Paired { m with awaitingAnswer := false } :=
    ⟨hp.remote, fun h => absurd h Bool.false_ne_true, hp.pending⟩
  have hc' : Covers s { m with awaitingAnswer := false } := ⟨hc.localSet, hc.remoteSet⟩
  cases h with
  | again | plain =>
    exact keeps_quiet rfl (fun _ => rfl) ⟨hp.remote, hp.awaiting, hp.pending⟩
      ⟨hc.localSet, hc.remoteSet⟩
  | restarted _ _ h | refused _ _ h =>
    obtain ⟨hes, hpending, hpaired, hcovers⟩ := h.quiet hp' hc'
    exact keeps_quiet hes (fun _ => hpending) ⟨hpaired.remote, hpaired.awaiting, hpaired.pending⟩
      ⟨hcovers.localSet, hcovers.remoteSet⟩

theorem Progresses.keeps {reported : Connectivity} (h : Progresses m reported es m') (hp : m.Paired)
    (hc : Covers s m) : Keeps s m [] es m' := by
  have hpaired : ∀ state restartInFlight connectedOnce,
      Paired { m with state, restartInFlight, connectedOnce } := fun _ _ _ =>
    ⟨hp.remote, hp.awaiting, hp.pending⟩
  cases h with
  | ignored => exact keeps_quiet rfl (fun _ => rfl) hp hc
  | connected =>
    refine keeps_quiet ?_ (fun _ => rfl) (hpaired _ _ _)
      ⟨(hc.after _).localSet, (hc.after _).remoteSet⟩
    cases m.connectedOnce <;> rfl
  | moved => exact keeps_quiet rfl (fun _ => rfl) (hpaired _ _ _) ⟨hc.localSet, hc.remoteSet⟩

/-- **Every call keeps the invariants.** -/
theorem Performs.keeps {c : Call} {r : Outcome} (h : Performs Handed m c es r m') (hp : m.Paired)
    (hc : Covers s m) : Keeps s m c.candidate?.toList es m' := by
  cases h with
  | descriptor h => exact h.keeps hp hc
  | candidate h => exact h.keeps hp hc
  | offer h =>
    obtain ⟨hes, hpending, hpaired, hcovers⟩ := h.quiet hp hc
    exact keeps_quiet hes (fun _ => hpending) hpaired hcovers
  | report h =>
    cases h with
    | closed => exact keeps_quiet rfl (fun _ => rfl) hp hc
    | failed _ _ h => exact h.keeps hp hc
    | progress _ _ h => exact h.keeps hp hc
  | stop h =>
    cases h with
    | closed => exact keeps_quiet rfl (fun _ => rfl) hp hc
    | stopped =>
      refine keeps_quiet rfl (fun hopen => absurd rfl hopen)
        ⟨hp.remote, fun h => absurd h Bool.false_ne_true, fun _ => rfl⟩ ?_
      exact ⟨(hc.after _).localSet, (hc.after _).remoteSet⟩

/-! ## Runs -/

/-- A closed machine stays closed. -/
theorem Performs.closed {c : Call} {r : Outcome} {H : Envelope → List Entry → Prop}
    (h : Performs H m c es r m') (hclosed : m.state = .closed) : m'.state = .closed := by
  cases h with
  | descriptor h => cases h <;> first | exact hclosed | contradiction
  | candidate h => cases h <;> exact hclosed
  | offer h => cases h <;> first | exact hclosed | contradiction
  | report h => cases h <;> first | exact hclosed | contradiction
  | stop h => cases h <;> first | exact hclosed | rfl

/-- What is said of the candidates of a run. -/
structure Faithful (steps : List Step) (m : Machine) : Prop where
  /-- Until the end, what was handed over and what waits is what came, in order. -/
  inOrder : m.state ≠ .closed → passed (recordOf steps) ++ m.pending = given steps
  /-- Candidates are handed over only when the peer has adopted descriptors of both sides, -/
  orderly : Orderly {} (recordOf steps)
  /-- and only by a machine that has both. -/
  both : ∀ s ∈ steps, passed s.made ≠ [] → s.after.hasPair = true
  /-- A machine that has both keeps no candidate waiting. -/
  empty : m.hasPair = true → m.pending = []

/-- **Remote candidates are handed over exactly once, in the order they came**, and neither too
early nor too late. -/
theorem Run.candidates {session : ℕ} {role : DescriptorRole} {steps : List Step}
    (hr : Run session role steps m) : Faithful steps m := by
  suffices h : Faithful steps m ∧ m.Paired ∧ Covers (({} : Sides).after (recordOf steps)) m from h.1
  induction hr with
  | start =>
    refine ⟨⟨fun _ => rfl, trivial, by simp, fun _ => rfl⟩, ⟨by simp, by simp, fun _ => rfl⟩, ?_⟩
    exact ⟨by simp, by simp⟩
  | @call steps m m' c es r before hmay ih =>
    obtain ⟨hfaithful, hpaired, hcovers⟩ := ih
    have hkeeps := hmay.performs.keeps hpaired hcovers
    have hrecord : recordOf (steps ++ [⟨m, c, es, r, m'⟩]) = recordOf steps ++ es := by
      simp [recordOf]
    have hgiven : given (steps ++ [⟨m, c, es, r, m'⟩]) = given steps ++ c.candidate?.toList := by
      rw [given, List.filterMap_append]
      cases hc : c.candidate? <;> simp [given, hc]
    refine ⟨⟨fun hopen => ?_, ?_, fun t ht => ?_, hkeeps.paired.pending⟩, hkeeps.paired, ?_⟩
    · have hopen' : m.state ≠ .closed := fun hclosed => hopen (hmay.performs.closed hclosed)
      rw [hrecord, hgiven, passed_append, List.append_assoc, hkeeps.order hopen,
        ← List.append_assoc, hfaithful.inOrder hopen']
    · rw [hrecord]
      exact orderly_append.mpr ⟨hfaithful.orderly, hkeeps.orderly⟩
    · rcases List.mem_append.mp ht with ht | ht
      · exact hfaithful.both t ht
      · obtain rfl := List.mem_singleton.mp ht
        exact hkeeps.both
    · rw [hrecord, Sides.after_append]
      exact hkeeps.covers

/-- A candidate that comes before the offer, the offer, and a candidate after it. -/
def sampleSteps : List Step :=
  let first := Machine.play { session := 1, role := .answer } (.candidate (.ofText "early"))
  let second := first.after.play (.descriptor (.offer "remote"))
  [first, second, second.after.play (.candidate (.ofText "late"))]

/-- The sample hands over both candidates, in order. -/
theorem faithful_sampleSteps : ∃ m, Run 1 .answer sampleSteps m ∧ Faithful sampleSteps m
    ∧ passed (recordOf sampleSteps) = [.ofText "early", .ofText "late"] := by
  have hstart : Run 1 .answer [] _ := .start
  have hearly := hstart.play (.candidate (.ofText "early"))
  have hr := (hearly.play (.descriptor (.offer "remote"))).play (.candidate (.ofText "late"))
  exact ⟨_, hr, hr.candidates, by decide⟩

end

end Machine

end CameraViewer.Negotiation
