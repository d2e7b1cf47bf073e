import CameraViewer.Proofs.Negotiation.Runs

/-!
# Proofs/Negotiation/States — how the state of a negotiation moves

Whatever becomes of a call, the state of the machine stays or makes a move of the table
(`Offers.moves`, `TakesDescriptor.moves`, `Reports.moves`), and only a report of the peer or the
end of the session closes it.
-/

namespace CameraViewer.Negotiation

open Peer Signal World

namespace Machine

/-- No move makes a session new again. -/
theorem canMoveTo_new (state : Connectivity) : state.canMoveTo .new = false := by
  cases state <;> rfl

/-! ## Legal moves

A negotiation has its state, and a flag for a restart that is under way. The flag matters here
because a report of failure during a restart would not be a legal move from `new`. -/

/-- The state stays or makes a legal move, and a restart is never under way in a new session. -/
structure Moves (m m' : Machine) : Prop where
  move : m'.state = m.state ∨ m.state.canMoveTo m'.state = true
  restart : (m.restartInFlight = true → m.state ≠ .new) →
    m'.restartInFlight = true → m'.state ≠ .new

variable {H : Envelope → List Entry → Prop} {m m' : Machine} {es : List Entry}

/-- What leaves both the state and the flag alone makes no move. -/
theorem moves_of_state_eq (hstate : m'.state = m.state)
    (hrestart : m'.restartInFlight = m.restartInFlight) :
    Moves m m' :=
  ⟨.inl hstate, fun h hr => hstate ▸ h (hrestart ▸ hr)⟩

/-- An answer or an offer connects what is not connected. -/
theorem moves_of_connecting (hstate : m'.state = .connecting)
    (hmove : m.state.canMoveTo .connecting) :
    Moves m m' :=
  ⟨.inr (hstate ▸ hmove), fun _ _ => by simp [hstate]⟩

theorem Flushes.moves_iff (h : Flushes m es m') : m'.state = m.state
    ∧ m'.restartInFlight = m.restartInFlight := by
  cases h <;> exact ⟨rfl, rfl⟩

/-- **An attempt to offer makes a legal move**, and does not close the session. -/
theorem Offers.moves {restart : Bool} {r : Except PeerError Unit} (h : Offers H restart m es r m') :
    Moves m m' ∧ (m.state ≠ .closed → m'.state ≠ .closed) := by
  cases h with
  | closed | forbidden | refused => exact ⟨moves_of_state_eq rfl rfl, id⟩
  | made hopen =>
    cases hstate : m.state
    case closed => exact absurd hstate hopen
    case connecting | connected =>
      have hsame : stateAfterOffer m.state = m.state := by rw [hstate]; rfl
      exact ⟨moves_of_state_eq hsame rfl, fun _ => by simp [withOffer, hstate, stateAfterOffer]⟩
    all_goals
      have hconnecting : stateAfterOffer m.state = .connecting := by rw [hstate]; rfl
      refine ⟨moves_of_connecting hconnecting (by rw [hstate]; rfl), fun _ => ?_⟩
      simp [withOffer, hconnecting]

/-- An offer on a connected session leaves it connected. -/
theorem Offers.state_eq {restart : Bool} {r : Except PeerError Unit}
    (h : Offers H restart m es r m') (hconnected : m.state = .connected) : m'.state = m.state := by
  cases h with
  | closed | forbidden | refused => rfl
  | made =>
    rw [withOffer, hconnected]
    rfl

/-- **An offer connects a session or leaves its state.** -/
theorem Offers.state_or {restart : Bool} {r : Except PeerError Unit}
    (h : Offers H restart m es r m') :
    m'.state = m.state ∨ m'.state = .connecting := by
  cases h with
  | closed | forbidden | refused => exact .inl rfl
  | made =>
    rw [withOffer]
    cases m.state with
    | new | failed | disconnected => exact .inr rfl
    | connecting | connected | closed => exact .inl rfl

/-- **So does a descriptor of the other side.** -/
theorem TakesDescriptor.state_or {d : SessionDescriptor} {r : Except PeerError DescriptorOutcome}
    (h : TakesDescriptor H m d es r m') : m'.state = m.state ∨ m'.state = .connecting := by
  cases h with
  | closed | duplicate => exact .inl rfl
  | offer _ _ _ h =>
    cases h with
    | forbidden | refused => exact .inl rfl
    | answered _ _ _ hflush =>
      rw [hflush.moves_iff.1, withAnswer]
      split
      · exact .inr rfl
      · exact .inl rfl
  | answer _ _ _ h =>
    cases h with
    | forbidden | refused => exact .inl rfl
    | applied _ hflush => exact .inl hflush.moves_iff.1

/-- **A descriptor of the other side moves the state legally**, and does not close it. -/
theorem TakesDescriptor.moves {d : SessionDescriptor} {r : Except PeerError DescriptorOutcome}
    (h : TakesDescriptor H m d es r m') :
    Moves m m' ∧ (m.state ≠ .closed → m'.state ≠ .closed) := by
  cases h with
  | closed | duplicate => exact ⟨moves_of_state_eq rfl rfl, id⟩
  | offer _ _ _ h =>
    cases h with
    | forbidden | refused => exact ⟨moves_of_state_eq rfl rfl, id⟩
    | answered _ _ _ hflush =>
      obtain ⟨hstate, hrestart⟩ := hflush.moves_iff
      by_cases hnew : m.state = .new
      · have hconnecting : m'.state = .connecting := by rw [hstate, withAnswer, if_pos hnew]
        refine ⟨moves_of_connecting hconnecting (by rw [hnew]; rfl), fun _ => ?_⟩
        rw [hconnecting]
        decide
      · have hsame : m'.state = m.state := by rw [hstate, withAnswer, if_neg hnew]
        exact ⟨moves_of_state_eq hsame hrestart, fun hopen => hsame ▸ hopen⟩
  | answer _ _ _ h =>
    cases h with
    | forbidden | refused => exact ⟨moves_of_state_eq rfl rfl, id⟩
    | applied _ hflush =>
      obtain ⟨hstate, hrestart⟩ := hflush.moves_iff
      exact ⟨moves_of_state_eq hstate hrestart, fun hopen => hstate ▸ hopen⟩

/-- **A candidate changes no state.** -/
theorem TakesCandidate.moves {c : Candidate} {r : Except PeerError CandidateOutcome}
    (h : TakesCandidate m c es r m') : Moves m m' ∧ (m.state ≠ .closed → m'.state ≠ .closed) := by
  cases h <;> exact ⟨moves_of_state_eq rfl rfl, id⟩

/-! ## Reports

But for the order to stop, only a report can close a session, and only a report says that it is
connected. -/

/-- A report makes a legal move, given that a restart is never under way in a new session. -/
theorem Reports.moves {reported : Connectivity} {change : Option Transition}
    (h : Reports H m reported es change m') (hrestart : m.restartInFlight = true → m.state ≠ .new) :
    Moves m m' := by
  cases h with
  | closed => exact moves_of_state_eq rfl rfl
  | failed hopen _ h =>
    cases h with
    | again hr =>
      refine ⟨?_, fun _ h => nomatch h⟩
      have hnew := hrestart hr
      cases hstate : m.state <;> first | exact .inl rfl | exact .inr rfl | contradiction
    | restarted _ hconnected => exact moves_of_connecting rfl (by rw [hconnected]; rfl)
    | refused hr hconnected h =>
      refine ⟨.inr (by rw [hconnected]; rfl), fun _ _ => by simp⟩
    | plain =>
      refine ⟨?_, fun _ _ => by simp⟩
      cases hstate : m.state <;> first | exact .inl rfl | exact .inr rfl | contradiction
  | progress _ _ h =>
    cases h with
    | ignored => exact moves_of_state_eq rfl rfl
    | connected hmove => exact ⟨.inr hmove, fun _ h => nomatch h⟩
    | moved hmove =>
      refine ⟨.inr hmove, fun _ _ hnew => ?_⟩
      have hnew' : reported = .new := hnew
      rw [hnew', canMoveTo_new] at hmove
      cases hmove

/-- **A report closes a session just if it says so.** -/
theorem Reports.closed_iff {reported : Connectivity} {change : Option Transition}
    (h : Reports H m reported es change m') (hopen : m.state ≠ .closed) :
    m'.state = .closed ↔ reported = .closed := by
  cases h with
  | closed hclosed => exact absurd hclosed hopen
  | failed _ hreported h =>
    rw [hreported]
    cases h <;> simp
  | progress _ _ h =>
    cases h with
    | ignored hmove =>
      refine ⟨fun hclosed => absurd hclosed hopen, ?_⟩
      rintro rfl
      cases hstate : m.state <;> simp [hstate, Connectivity.canMoveTo] at hmove hopen
    | connected _ hreported => simp [hreported]
    | moved => exact Iff.rfl

/-- **A report that changes the state connects a session just if it says so.** -/
theorem Reports.connected_iff {reported : Connectivity} {change : Option Transition}
    (h : Reports H m reported es change m') (hchange : m'.state ≠ m.state) :
    m'.state = .connected ↔ reported = .connected := by
  cases h with
  | closed => exact absurd rfl hchange
  | failed _ hreported h =>
    rw [hreported]
    cases h <;> simp
  | progress _ _ h =>
    cases h with
    | ignored => exact absurd rfl hchange
    | connected _ hreported => simp [hreported]
    | moved => exact Iff.rfl

end Machine

end CameraViewer.Negotiation
