import CameraViewer.Proofs.Negotiation.Runs

/-!
# Proofs/Negotiation/Requests — what a negotiation asks, and of whom

A negotiation asks nothing but its own peer, notes times, and hands to its sink only descriptions
that this peer has just made (`Performs.entries`). Before its end it asks for nothing but
descriptors and candidates (`Performs.signals`), so that only its end closes its peer
(`Performs.closings_eq`).
-/

namespace CameraViewer.Negotiation

open Peer Signal World

/-! ## What a record says of peers

A negotiation has one peer, that of its session. It asks no other, and what it hands over it has
first been given by that peer. -/

/-- The session whose peer is asked for something. -/
def addressee? : Entry → Option ℕ
  | .asked (.peer id _) _ => some id
  | _ => none

/-- The session whose peer is closed. -/
def closing? : Entry → Option ℕ
  | .asked (.peer id .close) _ => some id
  | _ => none

/-- The sessions whose peers are closed, in order. -/
def closings (record : List Entry) : List ℕ := record.filterMap closing?

@[simp] theorem closings_nil : closings [] = [] := rfl

@[simp] theorem closings_append (es fs : List Entry) :
    closings (es ++ fs) = closings es ++ closings fs :=
  List.filterMap_append

/-- To close a peer is to ask it. -/
theorem addressee?_of_closing? {e : Entry} {id : ℕ} (h : closing? e = some id) :
    addressee? e = some id := by
  unfold closing? at h
  split at h
  · exact h
  · cases h

/-- Who does not ask a peer does not close it. -/
theorem not_mem_closings {es : List Entry} {id : ℕ} (h : ∀ e ∈ es, addressee? e ≠ some id) :
    id ∉ closings es := by
  intro hid
  obtain ⟨e, he, hclosing⟩ := List.mem_filterMap.mp hid
  exact h e he (addressee?_of_closing? hclosing)

/-- Who asks no peer closes none. -/
theorem closings_eq_nil {es : List Entry} (h : ∀ e ∈ es, addressee? e = none) : closings es = [] :=
  List.eq_nil_iff_forall_not_mem.mpr fun _ => not_mem_closings fun e he => by simp [h e he]

namespace Machine

/-- A description the peer of a session has made, by a record. -/
def MadeBy (session : ℕ) (record : List Entry) (d : SessionDescriptor) : Prop :=
  (∃ restart, told session (.createOffer restart) (.ok d) ∈ record)
    ∨ told session .createAnswer (.ok d) ∈ record

/-- What a peer has made is not unmade. -/
theorem MadeBy.mono {session : ℕ} {record record' : List Entry} {d : SessionDescriptor}
    (h : MadeBy session record d) (hsub : record ⊆ record') : MadeBy session record' d :=
  h.imp (fun ⟨restart, hmem⟩ => ⟨restart, hsub hmem⟩) fun hmem => hsub hmem

/-- An entry a negotiation can leave in a record. -/
inductive Made (H : Envelope → List Entry → Prop) (session : ℕ) (record : List Entry) : Entry → Prop
  | told (r : PeerRequest) (reply : Except PeerError r.Answer) :
    Made H session record (told session r reply)
  | timed (measure : Measure) : Made H session record (timed measure)
  | handed {d : SessionDescriptor} {es : List Entry} {e : Entry} (h : H (.sessionDescription d) es)
    (hmem : e ∈ es) (hmade : MadeBy session record d) : Made H session record e

variable {H : Envelope → List Entry → Prop} {m m' : Machine} {es : List Entry} {session : ℕ}

/-- Candidates go to the peer of the session. -/
theorem HandsOver.entries {cs : List Candidate} {record : List Entry}
    (h : HandsOver session cs es) :
    ∀ e ∈ es, Made H session record e := by
  induction h with
  | nil => simp
  | cons reply _ ih =>
    intro e he
    rcases List.mem_cons.mp he with rfl | he
    · exact .told _ _
    · exact ih e he

theorem Flushes.entries {record : List Entry} (h : Flushes m es m') :
    ∀ e ∈ es, Made H m.session record e := by
  cases h with
  | handed _ h => exact h.entries
  | kept => simp

/-- An answer is asked of the peer of the session, -/
theorem NegotiatesAnswer.entries {offer : SessionDescriptor}
    {r : Except PeerError SessionDescriptor} {record : List Entry}
    (h : NegotiatesAnswer session offer es r) :
    ∀ e ∈ es, Made H session record e := by
  cases h <;> simp only [List.forall_mem_cons, List.not_mem_nil, false_implies, implies_true,
    and_true]
  · exact .told _ _
  · exact ⟨.told _ _, .told _ _⟩
  · exact ⟨.told _ _, .told _ _, .told _ _⟩
  · exact ⟨.told _ _, .told _ _, .told _ _⟩

/-- **and the answer is what that peer made.** -/
theorem NegotiatesAnswer.madeBy {offer answer : SessionDescriptor}
    (h : NegotiatesAnswer session offer es (.ok answer)) : MadeBy session es answer := by
  cases h
  exact .inr (by simp)

/-- An offer is asked of the peer of the session, -/
theorem NegotiatesOffer.entries {restart : Bool} {r : Except PeerError SessionDescriptor}
    {record : List Entry} (h : NegotiatesOffer session restart es r) :
    ∀ e ∈ es, Made H session record e := by
  cases h <;> simp only [List.forall_mem_cons, List.not_mem_nil, false_implies, implies_true,
    and_true]
  · exact .told _ _
  · exact ⟨.told _ _, .told _ _⟩
  · exact ⟨.told _ _, .told _ _⟩

/-- **and the offer is what that peer made.** -/
theorem NegotiatesOffer.madeBy {restart : Bool} {offer : SessionDescriptor}
    (h : NegotiatesOffer session restart es (.ok offer)) : MadeBy session es offer := by
  cases h
  exact .inl ⟨restart, by simp⟩

/-- **An attempt to offer** hands over nothing but the offer of the peer. -/
theorem Offers.entries {restart : Bool} {r : Except PeerError Unit}
    (h : Offers H restart m es r m') :
    ∀ e ∈ es, Made H m.session es e := by
  cases h with
  | closed | forbidden => simp
  | refused _ _ h =>
    intro e he
    rcases List.mem_cons.mp he with rfl | he
    · exact .timed _
    · exact h.entries e he
  | made _ _ h hsink =>
    intro e he
    rcases List.mem_cons.mp he with rfl | he
    · exact .timed _
    rcases List.mem_append.mp he with he | he
    · exact h.entries e he
    · exact .handed hsink he (h.madeBy.mono fun x hx => by simp [hx])

/-- **The answer to an offer** hands over nothing but the answer of the peer. -/
theorem Answers.entries {offer : SessionDescriptor} {r : Except PeerError DescriptorOutcome}
    (h : Answers H m offer es r m') : ∀ e ∈ es, Made H m.session es e := by
  cases h with
  | forbidden => simp
  | refused _ h =>
    intro e he
    rcases List.mem_cons.mp he with rfl | he
    · exact .timed _
    · exact h.entries e he
  | answered _ h hsink hflush =>
    intro e he
    rcases List.mem_cons.mp he with rfl | he
    · exact .timed _
    rcases List.mem_append.mp he with he | he
    · exact h.entries e he
    rcases List.mem_append.mp he with he | he
    · exact .handed hsink he (h.madeBy.mono fun x hx => by simp [hx])
    · exact hflush.entries e he

/-- To apply an answer hands over nothing. -/
theorem Applies.entries {answer : SessionDescriptor} {r : Except PeerError DescriptorOutcome}
    (h : Applies m answer es r m') : ∀ e ∈ es, Made H m.session es e := by
  cases h with
  | forbidden => simp
  | refused =>
    intro e he
    obtain rfl := List.mem_singleton.mp he
    exact .told _ _
  | applied _ hflush =>
    intro e he
    rcases List.mem_cons.mp he with rfl | he
    · exact .told _ _
    · exact hflush.entries e he

/-- **A report** hands over nothing but the offer of a restart. -/
theorem Reports.entries {reported : Connectivity} {change : Option Transition}
    (h : Reports H m reported es change m') : ∀ e ∈ es, Made H m.session es e := by
  cases h with
  | closed => simp
  | failed _ _ h =>
    cases h with
    | again | plain => simp
    | restarted _ _ h | refused _ _ h => exact h.entries
  | progress _ _ h =>
    cases h with
    | ignored | moved => simp
    | connected =>
      cases m.connectedOnce
      · intro e he
        obtain rfl := List.mem_singleton.mp he
        exact .timed _
      · simp

/-- The end of a session asks only its own peer. -/
theorem Stops.entries {change : Option Transition} (h : Stops m es change m') :
    ∀ e ∈ es, Made H m.session es e := by
  cases h with
  | closed => simp
  | stopped =>
    intro e he
    obtain rfl := List.mem_singleton.mp he
    exact .told _ _

/-- **Every call** asks its own peer only, and hands over what that has made. -/
theorem Performs.entries {c : Call} {r : Outcome} (h : Performs H m c es r m') :
    ∀ e ∈ es, Made H m.session es e := by
  cases h with
  | descriptor h =>
    cases h with
    | closed | duplicate => simp
    | offer _ _ _ h => exact h.entries
    | answer _ _ _ h => exact h.entries
  | candidate h =>
    cases h with
    | closed | buffered => simp
    | refused | applied =>
      intro e he
      obtain rfl := List.mem_singleton.mp he
      exact .told _ _
  | offer h => exact h.entries
  | report h => exact h.entries
  | stop h => exact h.entries

/-! ## Neither media nor an end

Before it ends, a negotiation asks for descriptors and candidates only. So it neither attaches media
nor closes its peer, whatever the peer answers. -/

/-- A request that a negotiation makes before its end: it has to do with descriptors or candidates.
-/
def IsSignalling : PeerRequest → Prop
  | .createOffer _ | .createAnswer | .setLocal _ | .setRemote _ | .addCandidate _ => True
  | .attachMedia _ | .releaseOutbound | .close => False

/-- An entry a negotiation can leave before its end. -/
inductive Signals (H : Envelope → List Entry → Prop) (session : ℕ) : Entry → Prop
  | told (r : PeerRequest) (reply : Except PeerError r.Answer) (hr : IsSignalling r) :
    Signals H session (told session r reply)
  | timed (measure : Measure) : Signals H session (timed measure)
  | handed {e : Envelope} {es : List Entry} {x : Entry} (h : H e es) (hmem : x ∈ es) :
    Signals H session x

theorem HandsOver.signals {cs : List Candidate} (h : HandsOver session cs es) :
    ∀ e ∈ es, Signals H session e := by
  induction h with
  | nil => exact List.forall_mem_nil _
  | cons reply _ ih => exact List.forall_mem_cons.mpr ⟨.told (.addCandidate _) reply trivial, ih⟩

theorem Flushes.signals (h : Flushes m es m') : ∀ e ∈ es, Signals H m.session e := by
  cases h with
  | handed _ h => exact h.signals
  | kept => exact List.forall_mem_nil _

/-- An answer is a matter of descriptors. -/
theorem NegotiatesAnswer.signals {offer : SessionDescriptor}
    {r : Except PeerError SessionDescriptor} (h : NegotiatesAnswer session offer es r) :
    ∀ e ∈ es, Signals H session e := by
  cases h <;> simp only [List.forall_mem_cons, List.not_mem_nil, false_implies, implies_true,
    and_true]
  · exact .told _ _ trivial
  · exact ⟨.told _ _ trivial, .told _ _ trivial⟩
  · exact ⟨.told _ _ trivial, .told _ _ trivial, .told _ _ trivial⟩
  · exact ⟨.told _ _ trivial, .told _ _ trivial, .told _ _ trivial⟩

theorem NegotiatesOffer.signals {restart : Bool} {r : Except PeerError SessionDescriptor}
    (h : NegotiatesOffer session restart es r) : ∀ e ∈ es, Signals H session e := by
  cases h <;> simp only [List.forall_mem_cons, List.not_mem_nil, false_implies, implies_true,
    and_true]
  · exact .told _ _ trivial
  · exact ⟨.told _ _ trivial, .told _ _ trivial⟩
  · exact ⟨.told _ _ trivial, .told _ _ trivial⟩

/-- An attempt to offer asks for descriptors only. -/
theorem Offers.signals {restart : Bool} {r : Except PeerError Unit}
    (h : Offers H restart m es r m') : ∀ e ∈ es, Signals H m.session e := by
  cases h with
  | closed | forbidden => exact List.forall_mem_nil _
  | refused _ _ h => exact List.forall_mem_cons.mpr ⟨.timed _, h.signals⟩
  | made _ _ h hsink =>
    refine List.forall_mem_cons.mpr ⟨.timed _, List.forall_mem_append.mpr ⟨h.signals, ?_⟩⟩
    exact fun e he => .handed hsink he

/-- The answer to an offer asks for descriptors and candidates only. -/
theorem Answers.signals {offer : SessionDescriptor} {r : Except PeerError DescriptorOutcome}
    (h : Answers H m offer es r m') : ∀ e ∈ es, Signals H m.session e := by
  cases h with
  | forbidden => exact List.forall_mem_nil _
  | refused _ h => exact List.forall_mem_cons.mpr ⟨.timed _, h.signals⟩
  | answered _ h hsink hflush =>
    refine List.forall_mem_cons.mpr ⟨.timed _, List.forall_mem_append.mpr ⟨h.signals, ?_⟩⟩
    exact List.forall_mem_append.mpr ⟨fun e he => .handed hsink he, hflush.signals⟩

theorem Applies.signals {answer : SessionDescriptor} {r : Except PeerError DescriptorOutcome}
    (h : Applies m answer es r m') : ∀ e ∈ es, Signals H m.session e := by
  cases h with
  | forbidden => exact List.forall_mem_nil _
  | refused => exact List.forall_mem_singleton.mpr (.told _ _ trivial)
  | applied _ hflush => exact List.forall_mem_cons.mpr ⟨.told _ _ trivial, hflush.signals⟩

/-- A report asks for nothing else either. -/
theorem Reports.signals {reported : Connectivity} {change : Option Transition}
    (h : Reports H m reported es change m') : ∀ e ∈ es, Signals H m.session e := by
  cases h with
  | closed => exact List.forall_mem_nil _
  | failed _ _ h =>
    cases h with
    | again | plain => exact List.forall_mem_nil _
    | restarted _ _ h | refused _ _ h => exact h.signals
  | progress _ _ h =>
    cases h with
    | ignored | moved => exact List.forall_mem_nil _
    | connected =>
      cases m.connectedOnce
      · exact List.forall_mem_singleton.mpr (.timed _)
      · exact List.forall_mem_nil _

/-- **Before its end a negotiation asks its peer only for descriptors and candidates.** -/
theorem Performs.signals {c : Call} {r : Outcome} (h : Performs H m c es r m') (hc : c ≠ .stop) :
    ∀ e ∈ es, Signals H m.session e := by
  cases h with
  | descriptor h =>
    cases h with
    | closed | duplicate => exact List.forall_mem_nil _
    | offer _ _ _ h => exact h.signals
    | answer _ _ _ h => exact h.signals
  | candidate h =>
    cases h with
    | closed | buffered => exact List.forall_mem_nil _
    | refused | applied => exact List.forall_mem_singleton.mpr (.told _ _ trivial)
  | offer h => exact h.signals
  | report h => exact h.signals
  | stop => exact absurd rfl hc

/-! ## Closing the peer -/

/-- **A session that ends closes its peer**, unless it has ended before. -/
theorem Stops.closings_eq {change : Option Transition} (h : Stops m es change m') :
    closings es = if m.state = .closed then [] else [m.session] := by
  cases h with
  | closed hclosed => rw [if_pos hclosed, closings_nil]
  | stopped hopen =>
    rw [if_neg hopen]
    rfl

section
variable (hsink : ∀ e es, H e es → closings es = [])

include hsink

/-- Signalling closes no peer. -/
theorem closings_of_signals (h : ∀ e ∈ es, Signals H session e) : closings es = [] := by
  refine List.filterMap_eq_nil_iff.mpr fun e he => ?_
  cases h e he with
  | told r _ hr => cases r <;> first | rfl | exact hr.elim
  | timed => rfl
  | handed hwritten hmem => exact List.filterMap_eq_nil_iff.mp (hsink _ _ hwritten) e hmem

theorem Offers.closings_eq {restart : Bool} {r : Except PeerError Unit}
    (h : Offers H restart m es r m') : closings es = [] :=
  closings_of_signals hsink h.signals

theorem Reports.closings_eq {reported : Connectivity} {change : Option Transition}
    (h : Reports H m reported es change m') : closings es = [] :=
  closings_of_signals hsink h.signals

/-- **Only the end of a session closes its peer.** -/
theorem Performs.closings_eq {c : Call} {r : Outcome} (h : Performs H m c es r m')
    (hc : c ≠ .stop) :
    closings es = [] :=
  closings_of_signals hsink (h.signals hc)

end

end Machine

end CameraViewer.Negotiation
