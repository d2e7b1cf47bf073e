import CameraViewer.Negotiation.Machine
import CameraViewer.Proofs.World.Record

/-!
# Proofs/Negotiation/Steps — what a negotiation can do

One relation for each operation of the machine says what it asks of its peer, what it hands to its
sink, what it returns, and which machine is left, for every way the peer may answer. `H e es` says
that handing over the message `e` adds `es` to the record, so that the relations serve any sink.
The lemmas named `yields_` show that the operations do nothing else.
-/

namespace CameraViewer.Negotiation

open Peer Signal World

namespace Machine

/-- What a request to the peer of a session adds to the record. -/
def told (session : ℕ) (r : PeerRequest) (reply : Except PeerError r.Answer) : Entry :=
  .asked (.peer session r) reply

/-- What noting a stretch of time adds to the record. -/
def timed (measure : Measure) : Entry := .asked (.note (.elapsed measure)) ()

variable {H : Envelope → List Entry → Prop}

/-! ## Candidates

A peer takes candidates only when it has descriptors of both sides. Until then the machine keeps
them, and passes them on as soon as the second descriptor is there. -/

/-- Candidates are offered to the peer one after the other, whatever it says. -/
inductive HandsOver (session : ℕ) : List Candidate → List Entry → Prop
  | nil : HandsOver session [] []
  | cons {c : Candidate} {rest : List Candidate} {es : List Entry} (reply : Except PeerError Unit)
    (hrest : HandsOver session rest es) :
    HandsOver session (c :: rest) (told session (.addCandidate c) reply :: es)

/-- What waits is handed over if both descriptors are there. -/
inductive Flushes (m : Machine) : List Entry → Machine → Prop
  | handed {es : List Entry} (hpair : m.hasPair = true) (h : HandsOver m.session m.pending es) :
    Flushes m es { m with pending := [] }
  | kept (hpair : m.hasPair = false) : Flushes m [] m

/-- What becomes of a remote candidate. -/
inductive TakesCandidate (m : Machine) (c : Candidate) :
    List Entry → Except PeerError CandidateOutcome → Machine → Prop
  | closed (hclosed : m.state = .closed) : TakesCandidate m c [] (.error .closed) m
  | refused (hopen : m.state ≠ .closed) (hpair : m.hasPair = true) (e : PeerError) :
    TakesCandidate m c [told m.session (.addCandidate c) (.error e)] (.error e) m
  | applied (hopen : m.state ≠ .closed) (hpair : m.hasPair = true) :
    TakesCandidate m c [told m.session (.addCandidate c) (.ok ())] (.ok .applied) m
  | buffered (hopen : m.state ≠ .closed) (hpair : m.hasPair = false) :
    TakesCandidate m c [] (.ok .buffered) { m with pending := m.pending ++ [c] }

/-! ## Descriptors

Each exchange consists of a few requests, and the first one that the peer refuses ends it. What is
listed for every exchange are its entries up to there, and the machine it leaves. -/

/-- The peer takes an offer and answers it, or refuses one of the steps. -/
inductive NegotiatesAnswer (session : ℕ) (offer : SessionDescriptor) :
    List Entry → Except PeerError SessionDescriptor → Prop
  | noRemote (e : PeerError) :
    NegotiatesAnswer session offer [told session (.setRemote offer) (.error e)] (.error e)
  | noAnswer (e : PeerError) :
    NegotiatesAnswer session offer
      [told session (.setRemote offer) (.ok ()), told session .createAnswer (.error e)] (.error e)
  | noLocal (answer : SessionDescriptor) (e : PeerError) :
    NegotiatesAnswer session offer
      [told session (.setRemote offer) (.ok ()), told session .createAnswer (.ok answer),
        told session (.setLocal answer) (.error e)] (.error e)
  | made (answer : SessionDescriptor) :
    NegotiatesAnswer session offer
      [told session (.setRemote offer) (.ok ()), told session .createAnswer (.ok answer),
        told session (.setLocal answer) (.ok ())] (.ok answer)

/-- The peer makes an offer and adopts it, or refuses one of the steps. -/
inductive NegotiatesOffer (session : ℕ) (restart : Bool) :
    List Entry → Except PeerError SessionDescriptor → Prop
  | noOffer (e : PeerError) :
    NegotiatesOffer session restart [told session (.createOffer restart) (.error e)] (.error e)
  | noLocal (offer : SessionDescriptor) (e : PeerError) :
    NegotiatesOffer session restart
      [told session (.createOffer restart) (.ok offer), told session (.setLocal offer) (.error e)]
      (.error e)
  | made (offer : SessionDescriptor) :
    NegotiatesOffer session restart
      [told session (.createOffer restart) (.ok offer), told session (.setLocal offer) (.ok ())]
      (.ok offer)

/-- The machine that has answered an offer; what waits is still to be handed over. -/
def withAnswer (offer answer : SessionDescriptor) (m : Machine) : Machine :=
  { m with
    localDescriptor := some answer
    remoteDescriptor := some offer
    state := if m.state = .new then .connecting else m.state }

/-- The machine that has applied an answer; what waits is still to be handed over. -/
def withApplied (answer : SessionDescriptor) (m : Machine) : Machine :=
  { m with remoteDescriptor := some answer, awaitingAnswer := false }

/-- The machine that has sent an offer. -/
def withOffer (offer : SessionDescriptor) (m : Machine) : Machine :=
  { m with localDescriptor := some offer, awaitingAnswer := true, state := stateAfterOffer m.state }

/-- What becomes of a remote offer. -/
inductive Answers (H : Envelope → List Entry → Prop) (m : Machine) (offer : SessionDescriptor) :
    List Entry → Except PeerError DescriptorOutcome → Machine → Prop
  | forbidden (hawait : m.awaitingAnswer = true) :
    Answers H m offer [] (.error (.forbidden .acceptOffer m.state)) m
  | refused {es : List Entry} {e : PeerError} (hawait : m.awaitingAnswer = false)
    (h : NegotiatesAnswer m.session offer es (.error e)) :
    Answers H m offer (timed .answerRemoteOffer :: es) (.error e) m
  | answered {es fs gs : List Entry} {answer : SessionDescriptor} {m' : Machine}
    (hawait : m.awaitingAnswer = false) (h : NegotiatesAnswer m.session offer es (.ok answer))
    (hsink : H (.sessionDescription answer) fs)
    (hflush : Flushes (m.withAnswer offer answer) gs m') :
    Answers H m offer (timed .answerRemoteOffer :: (es ++ (fs ++ gs))) (.ok .answered) m'

/-- What becomes of a remote answer. -/
inductive Applies (m : Machine) (answer : SessionDescriptor) :
    List Entry → Except PeerError DescriptorOutcome → Machine → Prop
  | forbidden (hawait : m.awaitingAnswer = false) :
    Applies m answer [] (.error (.forbidden .applyAnswer m.state)) m
  | refused (hawait : m.awaitingAnswer = true) (e : PeerError) :
    Applies m answer [told m.session (.setRemote answer) (.error e)] (.error e) m
  | applied {es : List Entry} {m' : Machine} (hawait : m.awaitingAnswer = true)
    (hflush : Flushes (m.withApplied answer) es m') :
    Applies m answer (told m.session (.setRemote answer) (.ok ()) :: es) (.ok .answerApplied) m'

/-- What becomes of a remote descriptor. -/
inductive TakesDescriptor (H : Envelope → List Entry → Prop) (m : Machine) (d : SessionDescriptor) :
    List Entry → Except PeerError DescriptorOutcome → Machine → Prop
  | closed (hclosed : m.state = .closed) : TakesDescriptor H m d [] (.error .closed) m
  | duplicate (hopen : m.state ≠ .closed) (hsame : m.remoteDescriptor = some d) :
    TakesDescriptor H m d [] (.ok .duplicate) m
  | offer {es : List Entry} {r : Except PeerError DescriptorOutcome} {m' : Machine}
    (hopen : m.state ≠ .closed) (hnew : m.remoteDescriptor ≠ some d) (hrole : d.role = .offer)
    (h : Answers H m d es r m') : TakesDescriptor H m d es r m'
  | answer {es : List Entry} {r : Except PeerError DescriptorOutcome} {m' : Machine}
    (hopen : m.state ≠ .closed) (hnew : m.remoteDescriptor ≠ some d) (hrole : d.role = .answer)
    (h : Applies m d es r m') : TakesDescriptor H m d es r m'

/-- What becomes of an attempt to offer. -/
inductive Offers (H : Envelope → List Entry → Prop) (restart : Bool) (m : Machine) :
    List Entry → Except PeerError Unit → Machine → Prop
  | closed (hclosed : m.state = .closed) : Offers H restart m [] (.error .closed) m
  | forbidden (hopen : m.state ≠ .closed) (hawait : m.awaitingAnswer = true) :
    Offers H restart m [] (.error (.forbidden .createOffer m.state)) m
  | refused {es : List Entry} {e : PeerError} (hopen : m.state ≠ .closed)
    (hawait : m.awaitingAnswer = false) (h : NegotiatesOffer m.session restart es (.error e)) :
    Offers H restart m (timed .localOffer :: es) (.error e) m
  | made {es fs : List Entry} {offer : SessionDescriptor} (hopen : m.state ≠ .closed)
    (hawait : m.awaitingAnswer = false) (h : NegotiatesOffer m.session restart es (.ok offer))
    (hsink : H (.sessionDescription offer) fs) :
    Offers H restart m (timed .localOffer :: (es ++ fs)) (.ok ()) (m.withOffer offer)

/-! ## Reports on the connection -/

/-- What a report of failure leads to. -/
inductive Fails (H : Envelope → List Entry → Prop) (m : Machine) : List Entry → Machine → Prop
  | again (hrestart : m.restartInFlight = true) :
    Fails H m [] { m with restartInFlight := false, state := .disconnected }
  | restarted {es : List Entry} {m' : Machine} (hrestart : m.restartInFlight = false)
    (hconnected : m.state = .connected)
    (h : Offers H true { m with awaitingAnswer := false } es (.ok ()) m') :
    Fails H m es { m' with restartInFlight := true, state := .connecting }
  | refused {es : List Entry} {e : PeerError} {m' : Machine} (hrestart : m.restartInFlight = false)
    (hconnected : m.state = .connected)
    (h : Offers H true { m with awaitingAnswer := false } es (.error e) m') :
    Fails H m es { m' with state := .disconnected }
  | plain (hrestart : m.restartInFlight = false) (hconnected : m.state ≠ .connected) :
    Fails H m [] { m with state := .failed }

/-- What any other report leads to. -/
inductive Progresses (m : Machine) (reported : Connectivity) : List Entry → Machine → Prop
  | ignored (hmove : m.state.canMoveTo reported = false) : Progresses m reported [] m
  | connected (hmove : m.state.canMoveTo .connected = true) (hreported : reported = .connected) :
    Progresses m reported (if m.connectedOnce then [] else [timed .timeToConnected])
      { m with state := .connected, restartInFlight := false, connectedOnce := true }
  | moved (hmove : m.state.canMoveTo reported = true) (hreported : reported ≠ .connected) :
    Progresses m reported [] { m with state := reported }

/-- What a report leads to. -/
inductive Reports (H : Envelope → List Entry → Prop) (m : Machine) (reported : Connectivity) :
    List Entry → Option Transition → Machine → Prop
  | closed (hclosed : m.state = .closed) : Reports H m reported [] none m
  | failed {es : List Entry} {m' : Machine} (hopen : m.state ≠ .closed)
    (hreported : reported = .failed)
    (h : Fails H m es m') : Reports H m reported es (m'.transitionFrom m.state) m'
  | progress {es : List Entry} {m' : Machine} (hopen : m.state ≠ .closed)
    (hreported : reported ≠ .failed) (h : Progresses m reported es m') :
    Reports H m reported es (m'.transitionFrom m.state) m'

/-- What the end of a session leads to. -/
inductive Stops (m : Machine) : List Entry → Option Transition → Machine → Prop
  | closed (hclosed : m.state = .closed) : Stops m [] none m
  | stopped (hopen : m.state ≠ .closed) (reply : Except PeerError Unit) :
    Stops m [told m.session .close reply] (some ⟨m.state, .closed⟩) m.ended

/-! ## The session stays the same -/

section
variable {m m' : Machine} {es : List Entry}

/-- Handing over candidates is done in the session they came to. -/
theorem Flushes.session_eq (h : Flushes m es m') : m'.session = m.session := by
  cases h <;> rfl

/-- An attempt to offer stays in its session. -/
theorem Offers.session_eq {restart : Bool} {r : Except PeerError Unit}
    (h : Offers H restart m es r m') :
    m'.session = m.session := by
  cases h <;> rfl

theorem TakesCandidate.state_eq {c : Candidate} {r : Except PeerError CandidateOutcome}
    (h : TakesCandidate m c es r m') : m'.state = m.state := by
  cases h <;> rfl

/-- A descriptor of the other side stays in it too, -/
theorem TakesDescriptor.session_eq {d : SessionDescriptor} {r : Except PeerError DescriptorOutcome}
    (h : TakesDescriptor H m d es r m') : m'.session = m.session := by
  cases h with
  | closed | duplicate => rfl
  | offer _ _ _ h =>
    cases h with
    | forbidden | refused => rfl
    | answered _ _ _ hflush => exact hflush.session_eq
  | answer _ _ _ h =>
    cases h with
    | forbidden | refused => rfl
    | applied _ hflush => exact hflush.session_eq

/-- and so does a report on the connection. -/
theorem Reports.session_eq {reported : Connectivity} {change : Option Transition}
    (h : Reports H m reported es change m') : m'.session = m.session := by
  cases h with
  | closed => rfl
  | failed _ _ h =>
    cases h with
    | again | plain => rfl
    | restarted _ _ h | refused _ _ h => exact h.session_eq
  | progress _ _ h => cases h <;> rfl

/-- What a report returns is the change it made. -/
theorem Reports.change_eq {reported : Connectivity} {change : Option Transition}
    (h : Reports H m reported es change m') : change = m'.transitionFrom m.state := by
  cases h with
  | closed => rw [transitionFrom, if_pos rfl]
  | failed | progress => rfl

/-- A report returns no change and leaves the state, or returns the change that it made of it. -/
theorem Reports.change_or {reported : Connectivity} {change : Option Transition}
    (h : Reports H m reported es change m') :
    change = none ∧ m'.state = m.state
      ∨ change = some ⟨m.state, m'.state⟩ ∧ m'.state ≠ m.state := by
  rw [h.change_eq, transitionFrom]
  split
  · rename_i hsame
    exact .inl ⟨rfl, hsame⟩
  · rename_i hdiffers
    exact .inr ⟨rfl, hdiffers⟩

end

/-! ## The operations do nothing else

Every operation of the machine has a relation above that says all it can do. From here on the
operations are never opened again: what follows is shown of the relations. -/

section
variable {ω : Type} [World ω]

/-- **Offering candidates** is handing them over one by one. -/
theorem yields_offerCandidates (session : ℕ) (cs : List Candidate) :
    Yields (ω := ω) (offerCandidates session cs) fun es _ => HandsOver session cs es := by
  induction cs with
  | nil => exact yields_pure .nil
  | cons c rest ih =>
    rw [offerCandidates]
    exact yields_ask_bind _ fun reply => ih.mono fun _ _ h => .cons reply h

/-- **Flushing** hands over all that waits, or nothing. -/
theorem yields_flush (m : Machine) : Yields (ω := ω) m.flush fun es r => Flushes m es r := by
  rw [flush]
  cases hpair : m.hasPair
  · exact yields_pure (.kept hpair)
  · refine (yields_offerCandidates m.session m.pending).bind_pure fun es _ h => ?_
    exact .handed hpair h

/-- **A remote candidate** is handed over, kept, or refused. -/
theorem yields_onRemoteCandidate (c : Candidate) (m : Machine) :
    Yields (ω := ω) (m.onRemoteCandidate c) fun es r => TakesCandidate m c es r.1 r.2 := by
  rw [onRemoteCandidate]
  by_cases hclosed : m.state = .closed
  · rw [if_pos hclosed]
    exact yields_pure (.closed hclosed)
  rw [if_neg hclosed]
  cases hpair : m.hasPair
  · exact yields_pure (.buffered hclosed hpair)
  refine yields_ask_bind _ fun reply => ?_
  rcases reply with e | ⟨⟩
  · exact yields_pure (.refused hclosed hpair e)
  · exact yields_pure (.applied hclosed hpair)

/-- The exchange behind the answer to an offer. -/
theorem yields_negotiateAnswer (session : ℕ) (offer : SessionDescriptor) :
    Yields (ω := ω) (negotiateAnswer session offer) fun es r =>
      NegotiatesAnswer session offer es r := by
  rw [negotiateAnswer]
  refine yields_ask_bind _ fun remote => ?_
  rcases remote with e | ⟨⟩
  · exact yields_pure (.noRemote e)
  refine yields_ask_bind _ fun answer => ?_
  rcases answer with e | answer
  · exact yields_pure (.noAnswer e)
  refine yields_ask_bind _ fun set => ?_
  rcases set with e | ⟨⟩
  · exact yields_pure (.noLocal answer e)
  · exact yields_pure (.made answer)

/-- The exchange behind an offer of this side. -/
theorem yields_negotiateOffer (session : ℕ) (restart : Bool) :
    Yields (ω := ω) (negotiateOffer session restart) fun es r =>
      NegotiatesOffer session restart es r := by
  rw [negotiateOffer]
  refine yields_ask_bind _ fun offer => ?_
  rcases offer with e | offer
  · exact yields_pure (.noOffer e)
  refine yields_ask_bind _ fun set => ?_
  rcases set with e | ⟨⟩
  · exact yields_pure (.noLocal offer e)
  · exact yields_pure (.made offer)

variable {sink : SignalSink (Recorded ω)} (hsink : ∀ e, Yields (sink e) fun es _ => H e es)

include hsink

/-- **A remote offer** is answered if the peer refuses nothing. -/
theorem yields_answerOffer (offer : SessionDescriptor) (m : Machine) :
    Yields (m.answerOffer sink offer) fun es r => Answers H m offer es r.1 r.2 := by
  rw [answerOffer]
  by_cases hawait : m.awaitingAnswer = true
  · rw [if_pos hawait]
    exact yields_pure (.forbidden hawait)
  rw [if_neg hawait]
  rw [Bool.not_eq_true] at hawait
  refine yields_ask_bind _ fun _ => (yields_negotiateAnswer m.session offer).bind fun es r h => ?_
  rcases r with e | answer
  · refine yields_pure ?_
    rw [List.append_nil]
    exact .refused hawait h
  refine (hsink _).bind fun fs _ hfs => (yields_flush (m.withAnswer offer answer)).bind_pure
    fun gs m' hgs => ?_
  exact .answered hawait h hfs hgs

omit hsink in
/-- **A remote answer** is applied if an offer waits for one and the peer adopts it. -/
theorem yields_applyAnswer (answer : SessionDescriptor) (m : Machine) :
    Yields (ω := ω) (m.applyAnswer answer) fun es r => Applies m answer es r.1 r.2 := by
  rw [applyAnswer]
  cases hawait : m.awaitingAnswer
  case false => exact yields_pure (.forbidden hawait)
  refine yields_ask_bind _ fun reply => ?_
  rcases reply with e | ⟨⟩
  · exact yields_pure (.refused hawait e)
  refine (yields_flush (m.withApplied answer)).bind_pure fun es m' hes => ?_
  exact .applied hawait hes

/-- **A descriptor of the other side** is answered or applied by its role, unless it comes again or
too late. -/
theorem yields_onRemoteDescriptor (d : SessionDescriptor) (m : Machine) :
    Yields (m.onRemoteDescriptor sink d) fun es r => TakesDescriptor H m d es r.1 r.2 := by
  rw [onRemoteDescriptor]
  by_cases hclosed : m.state = .closed
  · rw [if_pos hclosed]
    exact yields_pure (.closed hclosed)
  rw [if_neg hclosed]
  by_cases hsame : m.remoteDescriptor = some d
  · rw [if_pos hsame]
    exact yields_pure (.duplicate hclosed hsame)
  rw [if_neg hsame]
  cases hrole : d.role
  · exact (yields_answerOffer hsink d m).mono fun _ _ h => .offer hclosed hsame hrole h
  · exact (yields_applyAnswer d m).mono fun _ _ h => .answer hclosed hsame hrole h

/-- **An attempt to offer**, for the first time or over new network paths. -/
theorem yields_offer (restart : Bool) (m : Machine) :
    Yields (m.offer sink restart) fun es r => Offers H restart m es r.1 r.2 := by
  rw [offer]
  by_cases hclosed : m.state = .closed
  · rw [if_pos hclosed]
    exact yields_pure (.closed hclosed)
  rw [if_neg hclosed]
  cases hawait : m.awaitingAnswer
  case true => exact yields_pure (.forbidden hclosed hawait)
  refine yields_ask_bind _ fun _ => (yields_negotiateOffer m.session restart).bind fun es r h => ?_
  rcases r with e | d
  · refine yields_pure ?_
    rw [List.append_nil]
    exact .refused hclosed hawait h
  refine (hsink _).bind_pure fun fs _ hfs => ?_
  exact .made hclosed hawait h hfs

/-- A report of failure restarts a session that was connected. -/
theorem yields_onFailure (m : Machine) : Yields (m.onFailure sink) fun es r => Fails H m es r := by
  rw [onFailure]
  by_cases hrestart : m.restartInFlight = true
  · rw [if_pos hrestart]
    exact yields_pure (.again hrestart)
  rw [if_neg hrestart]
  rw [Bool.not_eq_true] at hrestart
  by_cases hconnected : m.state = .connected
  · rw [if_pos hconnected, restart]
    refine (yields_offer hsink true { m with awaitingAnswer := false }).bind fun es r h => ?_
    obtain ⟨e | ⟨⟩, m'⟩ := r
    · refine yields_pure ?_
      rw [List.append_nil]
      exact .refused hrestart hconnected h
    · refine yields_pure ?_
      rw [List.append_nil]
      exact .restarted hrestart hconnected h
  · rw [if_neg hconnected]
    exact yields_pure (.plain hrestart hconnected)

omit hsink in
theorem yields_onProgress (reported : Connectivity) (m : Machine) :
    Yields (ω := ω) (m.onProgress reported) fun es r => Progresses m reported es r := by
  rw [onProgress]
  cases hmove : m.state.canMoveTo reported
  case false => exact yields_pure (.ignored hmove)
  by_cases hreported : reported = .connected
  · have hdone := Progresses.connected (m := m) (by rw [← hmove, hreported]) hreported
    rw [if_pos rfl, if_pos hreported]
    cases honce : m.connectedOnce
    · rw [honce] at hdone
      exact yields_ask_bind _ fun _ => yields_pure hdone
    · rw [honce] at hdone
      exact yields_pure hdone
  · rw [if_pos rfl, if_neg hreported]
    exact yields_pure (.moved hmove hreported)

/-- **A report on the connection** is taken until the session is closed. -/
theorem yields_onConnectivity (reported : Connectivity) (m : Machine) :
    Yields (m.onConnectivity sink reported) fun es r => Reports H m reported es r.1 r.2 := by
  rw [onConnectivity]
  by_cases hclosed : m.state = .closed
  · rw [if_pos hclosed]
    exact yields_pure (.closed hclosed)
  rw [if_neg hclosed]
  by_cases hreported : reported = .failed
  · rw [if_pos hreported]
    refine (yields_onFailure hsink m).bind_pure fun es m' h => ?_
    exact .failed hclosed hreported h
  · rw [if_neg hreported]
    refine (yields_onProgress reported m).bind_pure fun es m' h => ?_
    exact .progress hclosed hreported h

omit hsink in
/-- **The end of a session** closes its peer, once. -/
theorem yields_stop (m : Machine) : Yields (ω := ω) m.stop fun es r => Stops m es r.1 r.2 := by
  rw [stop]
  by_cases hclosed : m.state = .closed
  · rw [if_pos hclosed]
    exact yields_pure (.closed hclosed)
  rw [if_neg hclosed]
  exact yields_ask_bind _ fun reply => yields_pure (.stopped hclosed reply)

end

end Machine

end CameraViewer.Negotiation
