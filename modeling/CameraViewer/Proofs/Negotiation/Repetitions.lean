import CameraViewer.Proofs.Negotiation.Adoptions

/-!
# Proofs/Negotiation/Repetitions — a descriptor that comes again does nothing

A descriptor that was answered or applied is the remote one until another is taken, whatever is
reported, offered and refused meanwhile (`remote_runAll`). So a copy of it finds itself there: it is
said to be a repetition, nothing is asked and nothing is sent, and without the copies everything
goes the same way (`MayPerform.harmless`).

Both sides of that comparison run in one world from one state of it on, whose answers may depend on
all that was asked before.
-/

namespace CameraViewer.Negotiation

open Peer Signal World

namespace Machine

/-- The call brings a descriptor. -/
def Call.brings (d : SessionDescriptor) : Call → Bool
  | .descriptor d' => d' = d
  | _ => false

section
variable {ω : Type} [World ω]

/-- Calls one after the other, each with what it returns. -/
def runAll (sink : SignalSink ω) : List Call → Machine → StateM ω (List (Call × Outcome) × Machine)
  | [], m => pure ([], m)
  | c :: rest, m => do
    let (r, next) ← c.run sink m
    let (log, last) ← runAll sink rest next
    return ((c, r) :: log, last)

theorem runAll_cons (sink : SignalSink ω) (c : Call) (rest : List Call) (m : Machine) (w : ω) :
    let first := c.run sink m w
    let others := runAll sink rest first.1.2 first.2
    runAll sink (c :: rest) m w = (((c, first.1.1) :: others.1.1, others.1.2), others.2) := rfl

/-- Every call is logged. -/
theorem map_fst_runAll (sink : SignalSink ω) (calls : List Call) (m : Machine) (w : ω) :
    (runAll sink calls m w).1.1.map Prod.fst = calls := by
  induction calls generalizing m w with
  | nil => rfl
  | cons c rest ih => rw [runAll_cons, List.map_cons, ih]

/-- What the first calls return does not depend on those that follow. -/
theorem mem_runAll_append {sink : SignalSink ω} {front back : List Call} {m : Machine} {w : ω}
    {x : Call × Outcome} (hx : x ∈ (runAll sink front m w).1.1) :
    x ∈ (runAll sink (front ++ back) m w).1.1 := by
  induction front generalizing m w with
  | nil => cases hx
  | cons c rest ih =>
    rw [List.cons_append, runAll_cons]
    rw [runAll_cons] at hx
    rcases List.mem_cons.mp hx with rfl | hx
    · exact List.mem_cons_self
    · exact List.mem_cons_of_mem _ (ih hx)

/-! ## Copies

A copy is recognized before the peer is asked anything. -/

variable {m : Machine} {d : SessionDescriptor}

/-- **A copy of the remote descriptor is a repetition**, and nothing else. -/
theorem onRemoteDescriptor_of_same (sink : SignalSink ω) (hopen : m.state ≠ .closed)
    (hsame : m.remoteDescriptor = some d) :
    m.onRemoteDescriptor sink d = pure (.ok .duplicate, m) := by
  rw [onRemoteDescriptor, if_neg hopen, if_pos hsame]

/-- To a session that is closed it is nothing either. -/
theorem exists_run_of_brings (sink : SignalSink ω) (hsame : m.remoteDescriptor = some d) {c : Call}
    (hc : c.brings d = true) : ∃ r, c.run sink m = pure (r, m) := by
  cases c with
  | descriptor d' =>
    obtain rfl : d' = d := of_decide_eq_true hc
    by_cases hclosed : m.state = .closed
    · refine ⟨.descriptor (.error .closed), ?_⟩
      rw [Call.run, onRemoteDescriptor, if_pos hclosed]
      rfl
    · refine ⟨.descriptor (.ok .duplicate), ?_⟩
      rw [Call.run, onRemoteDescriptor_of_same sink hclosed hsame]
      rfl
  | candidate | initiate | connectivity | stop => cases hc

end

/-! ## What comes between them

The remote descriptor is the only thing that tells a copy from a new descriptor, and it stays until
another one is taken. -/

/-- No other descriptor was answered or applied. -/
def TakesOnly (d : SessionDescriptor) (log : List (Call × Outcome)) : Prop :=
  ∀ d' r, (.descriptor d', .descriptor (.ok r)) ∈ log → r ≠ .duplicate → d' = d

section
variable {ω : Type} [World ω] {sink : SignalSink ω} {m : Machine} {d : SessionDescriptor}

/-- What a call takes, it was called with, and it did not take it for a copy. -/
theorem taken?_eq_some {step : Step} {d' : SessionDescriptor} (h : step.taken? = some d') :
    ∃ r, step.call = .descriptor d' ∧ step.outcome = .descriptor (.ok r) ∧ r ≠ .duplicate := by
  unfold Step.taken? at h
  split at h
  · rename_i hcall houtcome
    obtain rfl := Option.some.inj h
    exact ⟨_, hcall, houtcome, nofun⟩
  · rename_i hcall houtcome
    obtain rfl := Option.some.inj h
    exact ⟨_, hcall, houtcome, nofun⟩
  · cases h

/-- A call that takes no other descriptor leaves the remote one. -/
theorem remote_run (hsame : m.remoteDescriptor = some d) {c : Call} {t : Recorded ω}
    (htakes : TakesOnly d [(c, (c.run (recording sink) m t).1.1)]) :
    (c.run (recording sink) m t).1.2.remoteDescriptor = some d := by
  have hsink : ∀ e, Yields (recording sink e) fun es _ => Handed e es := fun e =>
    yields_recording e fun result => ⟨result, rfl⟩
  obtain ⟨es, -, hperforms⟩ := yields_run hsink c m t
  rw [hperforms.remote_eq, hsame]
  cases htaken : Step.taken? ⟨m, c, es, _, _⟩ with
  | none => rfl
  | some d' =>
    obtain ⟨r, hcall, houtcome, hnew⟩ := taken?_eq_some htaken
    obtain rfl := htakes d' r (List.mem_singleton.mpr (Prod.ext hcall.symm houtcome.symm)) hnew
    rfl

/-- **The remote descriptor stays until another is taken.** -/
theorem remote_runAll (hsame : m.remoteDescriptor = some d) {calls : List Call} {t : Recorded ω}
    (htakes : TakesOnly d (runAll (recording sink) calls m t).1.1) :
    (runAll (recording sink) calls m t).1.2.remoteDescriptor = some d := by
  induction calls generalizing m t with
  | nil => exact hsame
  | cons c rest ih =>
    rw [runAll_cons] at htakes ⊢
    refine ih (remote_run hsame fun d' r hr => htakes d' r ?_) fun d' r hr => htakes d' r ?_
    · exact List.mem_cons.mpr (.inl (List.mem_singleton.mp hr))
    · exact List.mem_cons_of_mem _ hr

/-- **Without the copies everything goes the same way.** -/
theorem runAll_filter (hsame : m.remoteDescriptor = some d) {calls : List Call} {t : Recorded ω}
    (htakes : TakesOnly d (runAll (recording sink) calls m t).1.1) :
    let all := runAll (recording sink) calls m t
    runAll (recording sink) (calls.filter (!·.brings d)) m t
      = ((all.1.1.filter (!·.1.brings d), all.1.2), all.2) := by
  induction calls generalizing m t with
  | nil => rfl
  | cons c rest ih =>
    rw [runAll_cons] at htakes ⊢
    have hrest := ih (remote_run hsame fun d' r hr => htakes d' r (List.mem_cons.mpr (.inl
      (List.mem_singleton.mp hr)))) fun d' r hr => htakes d' r (List.mem_cons_of_mem _ hr)
    cases hc : c.brings d
    · simp only [List.filter_cons, hc, Bool.not_false, if_true]
      rw [runAll_cons, hrest]
    · obtain ⟨r, hr⟩ := exists_run_of_brings (recording sink) hsame hc
      simp only [List.filter_cons, hc, Bool.not_true, Bool.false_eq_true, if_false]
      rw [hr] at hrest ⊢
      exact hrest

/-- What is said of the copies of a descriptor among later calls. -/
structure Harmless (sink : SignalSink ω) (d : SessionDescriptor) (calls : List Call) (m : Machine)
    (w : ω) : Prop where
  /-- A copy that comes while the session is open is a repetition: it asks nothing and sends
  nothing, and the machine stays the same. -/
  ignored : ∀ front back, calls = front ++ .descriptor d :: back →
    let out := runAll sink front m w
    out.1.2.state ≠ .closed →
      out.1.2.onRemoteDescriptor sink d out.2 = ((.ok .duplicate, out.1.2), out.2)
  /-- Without the copies all other calls return, ask and leave the same. -/
  removed : let all := runAll sink calls m w
    runAll sink (calls.filter (!·.brings d)) m w
      = ((all.1.1.filter (!·.1.brings d), all.1.2), all.2)

/-- **A descriptor that comes again is harmless**, whatever comes between, as long as no other is
taken. -/
theorem MayPerform.harmless {m₀ : Machine} {es : List Entry} {r : DescriptorOutcome}
    (hmay : MayPerform m₀ (.descriptor d) es (.descriptor (.ok r), m)) (hnew : r ≠ .duplicate)
    {calls : List Call} {t : Recorded ω}
    (htakes : TakesOnly d (runAll (recording sink) calls m t).1.1) :
    Harmless (recording sink) d calls m t := by
  have hsame : m.remoteDescriptor = some d := by
    have htaken : Step.taken? ⟨m₀, .descriptor d, es, .descriptor (.ok r), m⟩ = some d := by
      cases r with
      | duplicate => exact absurd rfl hnew
      | answered | answerApplied => rfl
    rw [hmay.performs.remote_eq, htaken]
    rfl
  refine ⟨?_, runAll_filter hsame htakes⟩
  rintro front back rfl out hopen
  have hfront : TakesOnly d (runAll (recording sink) front m t).1.1 := fun d' r hr =>
    htakes d' r (mem_runAll_append hr)
  rw [onRemoteDescriptor_of_same (recording sink) hopen (remote_runAll hsame hfront)]
  rfl

end

/-- The answer to a first offer. -/
def firstAnswer : Step :=
  let offered := Machine.play { session := 1, role := .offer } .initiate
  offered.after.venture [] (.descriptor (.answer "first"))

/-- It comes again twice: while another offer waits, and after a restart was refused. -/
def callsAfter : List Call :=
  [.connectivity .connected, .initiate, .descriptor (.answer "first"), .candidate (.ofText "late"),
    .connectivity .failed, .descriptor (.answer "first")]

/-- The peer refuses the candidate and the restart among them, and no message is sent. -/
def logAfter : List (Call × Outcome) :=
  (runAll (recording fun _ => pure (.error .notConnected)) callsAfter firstAnswer.after
    (⟨⟨[false, false, true, true]⟩, []⟩ : Recorded Fickle)).1.1

/-- The copies do no harm there. -/
theorem harmless_callsAfter : MayPerform firstAnswer.before (.descriptor (.answer "first"))
      firstAnswer.made (.descriptor (.ok .answerApplied), firstAnswer.after)
    ∧ logAfter.map Prod.snd
      = [.change (some ⟨.connecting, .connected⟩), .offer (.ok ()), .descriptor (.ok .duplicate),
        .candidate (.error (.connection "refused")),
        .change (some ⟨.connected, .disconnected⟩), .descriptor (.ok .duplicate)]
    ∧ TakesOnly (.answer "first") logAfter
    ∧ Harmless (recording fun _ => pure (.error .notConnected)) (.answer "first") callsAfter
      firstAnswer.after (⟨⟨[false, false, true, true]⟩, []⟩ : Recorded Fickle) := by
  have hmay : MayPerform firstAnswer.before (.descriptor (.answer "first")) firstAnswer.made
      (.descriptor (.ok .answerApplied), firstAnswer.after) := mayPerform_venture _ [] _
  have htakes : TakesOnly (.answer "first") logAfter := by
    intro d' r hr _
    have hcall := List.mem_map_of_mem (f := Prod.fst) hr
    rw [logAfter, map_fst_runAll] at hcall
    simpa [callsAfter] using hcall
  exact ⟨hmay, rfl, htakes, hmay.harmless nofun htakes⟩

end Machine

end CameraViewer.Negotiation
