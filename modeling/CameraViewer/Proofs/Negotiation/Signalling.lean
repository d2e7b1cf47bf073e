import CameraViewer.Proofs.Negotiation.Candidates
import CameraViewer.Proofs.Negotiation.States
import Mathlib.Logic.ExistsUnique

/-!
# Proofs/Negotiation/Signalling — offers and answers take turns

A peer is **stable** or has an offer of this side that is not answered. `Follows` is the protocol
between the two: which calls about descriptors may come in which state, and where they lead.
`Run.signalling`: over a peer that accepts descriptors a negotiation keeps to that protocol,
whatever is reported, offered and answered meanwhile, and always knows the state of its peer.
-/

namespace CameraViewer.Negotiation

open Peer Signal World

namespace Machine

/-! ## The protocol -/

/-- The state of a peer between two exchanges of descriptors. -/
inductive Signalling
  /-- No offer waits for an answer. -/
  | stable
  /-- An offer of this side waits for an answer. -/
  | haveLocalOffer
deriving DecidableEq, Repr

/-- A request about descriptors. -/
def IsDescriptorCall : Entry → Prop
  | .asked (.peer _ (.createOffer _)) _ => True
  | .asked (.peer _ .createAnswer) _ => True
  | .asked (.peer _ (.setLocal _)) _ => True
  | .asked (.peer _ (.setRemote _)) _ => True
  | _ => False

/-- A request about descriptors that the peer refuses. -/
def refusesDescriptor : Entry → Bool
  | .asked (.peer _ (.createOffer _)) (.error _) => true
  | .asked (.peer _ .createAnswer) (.error _) => true
  | .asked (.peer _ (.setLocal _)) (.error _) => true
  | .asked (.peer _ (.setRemote _)) (.error _) => true
  | _ => false

/-- **The protocol of offers and answers**: what is asked of the peer of a session from one state
to another. Nothing comes between the calls of one exchange. -/
inductive Follows (session : ℕ) : Signalling → List Entry → Signalling → Prop
  | done (s : Signalling) : Follows session s [] s
  /-- Anything else may happen between two exchanges. -/
  | aside {s t : Signalling} {e : Entry} {rest : List Entry} (he : ¬ IsDescriptorCall e)
    (h : Follows session s rest t) : Follows session s (e :: rest) t
  /-- A remote offer comes only when no offer of this side waits, and is answered at once. -/
  | answered {t : Signalling} {offer answer : SessionDescriptor} {rest : List Entry}
    (hrole : offer.role = .offer) (h : Follows session .stable rest t) :
    Follows session .stable
      (told session (.setRemote offer) (.ok ()) :: told session .createAnswer (.ok answer)
        :: told session (.setLocal answer) (.ok ()) :: rest) t
  /-- An offer of this side takes the place of one that waits only as a restart. -/
  | offered {s t : Signalling} {restart : Bool} {offer : SessionDescriptor} {rest : List Entry}
    (hrestart : s = .haveLocalOffer → restart = true) (h : Follows session .haveLocalOffer rest t) :
    Follows session s
      (told session (.createOffer restart) (.ok offer) :: told session (.setLocal offer) (.ok ())
        :: rest) t
  /-- A remote answer comes only when an offer waits for it. -/
  | applied {t : Signalling} {answer : SessionDescriptor} {rest : List Entry}
    (hrole : answer.role = .answer) (h : Follows session .stable rest t) :
    Follows session .haveLocalOffer (told session (.setRemote answer) (.ok ()) :: rest) t

variable {session : ℕ} {s t u : Signalling} {es fs : List Entry}

/-- The protocol goes on from where it was left. -/
theorem Follows.trans (h : Follows session s es t) (h' : Follows session t fs u) :
    Follows session s (es ++ fs) u := by
  induction h with
  | done => exact h'
  | aside he _ ih => exact .aside he (ih h')
  | answered hrole _ ih => exact .answered hrole (ih h')
  | offered hrestart _ ih => exact .offered hrestart (ih h')
  | applied hrole _ ih => exact .applied hrole (ih h')

/-- Requests about other things do not matter to it. -/
theorem follows_aside (h : ∀ e ∈ es, ¬ IsDescriptorCall e) : Follows session s es s := by
  induction es with
  | nil => exact .done s
  | cons e rest ih =>
    obtain ⟨he, hrest⟩ := List.forall_mem_cons.mp h
    exact .aside he (ih hrest)

/-- **The calls decide the state**: the protocol leads to one state only. -/
theorem Follows.unique (h : Follows session s es t) (h' : Follows session s es u) : t = u := by
  induction h with
  | done =>
    cases h'
    rfl
  | aside he _ ih =>
    cases h' with
    | aside _ h' => exact ih h'
    | answered | offered | applied => exact absurd trivial he
  | answered _ _ ih =>
    cases h' with
    | aside he => exact absurd trivial he
    | answered _ h' => exact ih h'
  | offered _ _ ih =>
    cases h' with
    | aside he => exact absurd trivial he
    | offered _ h' => exact ih h'
  | applied _ _ ih =>
    cases h' with
    | aside he => exact absurd trivial he
    | applied _ h' => exact ih h'

/-! ## What is offered and sent

Of two offers of this side, the one that counts is the later. An offer that is made but refused when
it is to be adopted is never sent. -/

/-- The offer the peer makes. -/
def offer? : Entry → Option SessionDescriptor
  | .asked (.peer _ (.createOffer _)) (.ok d) => some d
  | _ => none

/-- The descriptor that is sent, whether or not it arrives. -/
def sent? : Entry → Option SessionDescriptor
  | .handed (.sessionDescription d) _ => some d
  | _ => none

/-- The offers the peer made, in order. -/
def offersIn (record : List Entry) : List SessionDescriptor := record.filterMap offer?

/-- The descriptors that were sent, in order. -/
def sentIn (record : List Entry) : List SessionDescriptor := record.filterMap sent?

@[simp] theorem offersIn_append (es fs : List Entry) :
    offersIn (es ++ fs) = offersIn es ++ offersIn fs :=
  List.filterMap_append

@[simp] theorem sentIn_append (es fs : List Entry) : sentIn (es ++ fs) = sentIn es ++ sentIn fs :=
  List.filterMap_append

/-- An entry that is neither about descriptors nor sends one. -/
def IsMute (e : Entry) : Prop := ¬ IsDescriptorCall e ∧ sent? e = none

/-- An offer is made only when the peer is asked for one. -/
theorem offer?_of_not_call {e : Entry} (h : ¬ IsDescriptorCall e) : offer? e = none := by
  unfold offer?
  split
  · exact absurd trivial h
  · rfl

theorem offersIn_of_mute (h : ∀ e ∈ es, IsMute e) : offersIn es = [] :=
  List.filterMap_eq_nil_iff.mpr fun e he => offer?_of_not_call (h e he).1

theorem sentIn_of_mute (h : ∀ e ∈ es, IsMute e) : sentIn es = [] :=
  List.filterMap_eq_nil_iff.mpr fun e he => (h e he).2

/-- What is mute leaves the peer as it is. -/
theorem follows_of_mute (h : ∀ e ∈ es, IsMute e) : Follows session s es s :=
  follows_aside fun e he => (h e he).1

/-- Candidates are no descriptors. -/
theorem HandsOver.mute {cs : List Candidate} (h : HandsOver session cs es) :
    ∀ e ∈ es, IsMute e := by
  induction h with
  | nil => exact List.forall_mem_nil _
  | cons _ _ ih => exact List.forall_mem_cons.mpr ⟨⟨id, rfl⟩, ih⟩

theorem Flushes.mute {m m' : Machine} (h : Flushes m es m') : ∀ e ∈ es, IsMute e := by
  cases h with
  | handed _ h => exact h.mute
  | kept => exact List.forall_mem_nil _

/-! ## The machine knows the state of its peer

The state of the peer is not a field of the machine. It can be told from whether an offer waits, as
long as the machine is not closed. -/

/-- The offer of this side that waits is the latest that the peer made, and the latest that was
sent. -/
def IsLatestOffer (record : List Entry) (d : SessionDescriptor) : Prop :=
  (offersIn record).getLast? = some d ∧ (sentIn record).getLast? = some d

/-- What a machine that is not closed knows of its peer. -/
structure KnowsPeer (record : List Entry) (s : Signalling) (m : Machine) : Prop where
  awaiting : m.awaitingAnswer = true ↔ s = .haveLocalOffer
  latest : s = .haveLocalOffer → ∃ d, m.localDescriptor = some d ∧ IsLatestOffer record d

section
variable {m m' : Machine} {record : List Entry}

/-- Without calls about descriptors the machine knows what it knew. -/
theorem KnowsPeer.mute (ht : KnowsPeer record s m) (hes : ∀ e ∈ es, IsMute e)
    (hawait : m'.awaitingAnswer = m.awaitingAnswer)
    (hlocal : m'.localDescriptor = m.localDescriptor) :
    KnowsPeer (record ++ es) s m' where
  awaiting := hawait ▸ ht.awaiting
  latest hs := by
    obtain ⟨d, hd, hoffer, hsent⟩ := ht.latest hs
    refine ⟨d, hlocal.trans hd, ?_, ?_⟩
    · rw [offersIn_append, offersIn_of_mute hes, List.append_nil, hoffer]
    · rw [sentIn_append, sentIn_of_mute hes, List.append_nil, hsent]

/-- The calls of a machine are as the protocol wants them, and it knows where they lead. -/
def Keeping (record : List Entry) (s : Signalling) (es : List Entry) (m m' : Machine) : Prop :=
  ∃ t, Follows m.session s es t ∧ (m'.state ≠ .closed → KnowsPeer (record ++ es) t m')

/-- A mute call leaves machine and peer in step. -/
theorem keeping_of_mute (ht : KnowsPeer record s m) (hes : ∀ e ∈ es, IsMute e)
    (hawait : m'.awaitingAnswer = m.awaitingAnswer)
    (hlocal : m'.localDescriptor = m.localDescriptor) :
    Keeping record s es m m' :=
  ⟨s, follows_of_mute hes, fun _ => ht.mute hes hawait hlocal⟩

/-- Nothing was refused. -/
def Accepting (es : List Entry) : Prop := ∀ e ∈ es, refusesDescriptor e = false

theorem accepting_append : Accepting (es ++ fs) ↔ Accepting es ∧ Accepting fs :=
  List.forall_mem_append

/-- An answer fails only over a peer that refuses something, -/
theorem NegotiatesAnswer.not_accepting {offer : SessionDescriptor} {e : PeerError}
    (h : NegotiatesAnswer session offer es (.error e)) : ¬ Accepting es := by
  intro hacc
  cases h <;> exact nomatch hacc _ (List.mem_of_getLast? rfl)

/-- and so does an offer. -/
theorem NegotiatesOffer.not_accepting {restart : Bool} {e : PeerError}
    (h : NegotiatesOffer session restart es (.error e)) : ¬ Accepting es := by
  intro hacc
  cases h <;> exact nomatch hacc _ (List.mem_of_getLast? rfl)

/-- An offer that is made is the latest, and waits. One of them may wait before only if this is a
restart. -/
theorem Offers.made_knowsPeer {restart : Bool} (h : Offers Handed restart m es (.ok ()) m')
    (hrestart : s = .haveLocalOffer → restart = true) :
    Follows m.session s es .haveLocalOffer ∧ KnowsPeer (record ++ es) .haveLocalOffer m' := by
  cases h with
  | @made es fs offer _ _ h hsink =>
    obtain ⟨result, rfl⟩ := hsink
    cases h
    refine ⟨.aside id (.offered hrestart (follows_aside ?_)), ⟨fun _ => rfl, fun _ => rfl⟩,
      fun _ => ⟨offer, rfl, ?_, ?_⟩⟩
    · exact List.forall_mem_singleton.mpr id
    · rw [offersIn_append]
      exact List.getLast?_concat
    · rw [sentIn_append]
      exact List.getLast?_concat

/-- Over an accepting peer only the state of the machine can keep it from offering. -/
theorem Offers.forbidden_of_accepting {restart : Bool} {e : PeerError}
    (h : Offers Handed restart m es (.error e) m') (hacc : Accepting es) :
    es = [] ∧ m' = m ∧ (m.state = .closed ∨ m.awaitingAnswer = true) := by
  cases h with
  | closed hclosed => exact ⟨rfl, rfl, .inl hclosed⟩
  | forbidden _ hawait => exact ⟨rfl, rfl, .inr hawait⟩
  | refused _ _ h => exact absurd (List.forall_mem_cons.mp hacc).2 h.not_accepting

/-- **An attempt to offer** is made only while no offer waits. -/
theorem Offers.keeping {r : Except PeerError Unit} (h : Offers Handed false m es r m')
    (hacc : Accepting es) (ht : KnowsPeer record s m) : Keeping record s es m m' := by
  rcases r with e | ⟨⟩
  · obtain ⟨rfl, rfl, -⟩ := h.forbidden_of_accepting hacc
    exact keeping_of_mute ht (List.forall_mem_nil _) rfl rfl
  · have hstable : s ≠ .haveLocalOffer := fun hs => by
      have hawait := ht.awaiting.mpr hs
      cases h with
      | made _ hidle => exact absurd (hidle.symm.trans hawait) Bool.false_ne_true
    obtain ⟨hfollows, hknows⟩ := h.made_knowsPeer fun hs => absurd hs hstable
    exact ⟨.haveLocalOffer, hfollows, fun _ => hknows⟩

/-- **A remote offer** is taken only while no offer of this side waits. -/
theorem Answers.keeping {offer : SessionDescriptor} {r : Except PeerError DescriptorOutcome}
    (h : Answers Handed m offer es r m') (hrole : offer.role = .offer) (hacc : Accepting es)
    (ht : KnowsPeer record s m) : Keeping record s es m m' := by
  cases h with
  | forbidden => exact keeping_of_mute ht (List.forall_mem_nil _) rfl rfl
  | refused _ h => exact absurd (List.forall_mem_cons.mp hacc).2 h.not_accepting
  | @answered es fs gs answer _ hawait h hsink hflush =>
    obtain ⟨result, rfl⟩ := hsink
    obtain rfl : s = .stable := by
      cases s
      · rfl
      · exact absurd (hawait.symm.trans (ht.awaiting.mpr rfl)) Bool.false_ne_true
    cases h
    have hafter := hflush.mute
    have hawait' : m'.awaitingAnswer = false := by cases hflush <;> exact hawait
    refine ⟨.stable, .aside id (.answered hrole (.aside id (follows_of_mute hafter))), fun _ => ?_⟩
    exact ⟨by simp [hawait'], fun hs => nomatch hs⟩

/-- **A remote answer** is taken only while an offer waits for it. -/
theorem Applies.keeping {answer : SessionDescriptor} {r : Except PeerError DescriptorOutcome}
    (h : Applies m answer es r m') (hrole : answer.role = .answer) (hacc : Accepting es)
    (ht : KnowsPeer record s m) : Keeping record s es m m' := by
  cases h with
  | forbidden => exact keeping_of_mute ht (List.forall_mem_nil _) rfl rfl
  | refused => exact nomatch hacc _ List.mem_cons_self
  | @applied es _ hawait hflush =>
    obtain rfl := ht.awaiting.mp hawait
    have hawait' : m'.awaitingAnswer = false := by cases hflush <;> rfl
    refine ⟨.stable, .applied hrole (follows_of_mute hflush.mute), fun _ => ?_⟩
    exact ⟨by simp [hawait'], fun hs => nomatch hs⟩

/-- **A report of failure** restarts even while an offer waits. -/
theorem Fails.keeping (h : Fails Handed m es m') (hacc : Accepting es) (ht : KnowsPeer record s m) :
    Keeping record s es m m' := by
  cases h with
  | again | plain => exact keeping_of_mute ht (List.forall_mem_nil _) rfl rfl
  | restarted _ _ h =>
    have hmade : Follows m.session s es .haveLocalOffer
        ∧ KnowsPeer (record ++ es) .haveLocalOffer _ := h.made_knowsPeer fun _ => rfl
    exact ⟨.haveLocalOffer, hmade.1, fun _ => ⟨hmade.2.awaiting, hmade.2.latest⟩⟩
  | refused _ hconnected h =>
    obtain ⟨-, -, hstate | hawait⟩ := h.forbidden_of_accepting hacc
    · exact absurd (hconnected.symm.trans hstate) (by decide)
    · cases hawait

theorem Progresses.mute {reported : Connectivity} (h : Progresses m reported es m') :
    ∀ e ∈ es, IsMute e := by
  cases h with
  | ignored | moved => exact List.forall_mem_nil _
  | connected =>
    cases m.connectedOnce
    · exact List.forall_mem_singleton.mpr ⟨id, rfl⟩
    · exact List.forall_mem_nil _

/-- The end of a session sends no descriptor. -/
theorem Stops.mute {change : Option Transition} (h : Stops m es change m') :
    ∀ e ∈ es, IsMute e := by
  cases h with
  | closed => exact List.forall_mem_nil _
  | stopped => exact List.forall_mem_singleton.mpr ⟨id, rfl⟩

/-- **Every call keeps to the protocol.** -/
theorem Performs.keeping {c : Call} {r : Outcome} (h : Performs Handed m c es r m')
    (hacc : Accepting es) (ht : KnowsPeer record s m) : Keeping record s es m m' := by
  cases h with
  | descriptor h =>
    cases h with
    | closed | duplicate => exact keeping_of_mute ht (List.forall_mem_nil _) rfl rfl
    | offer _ _ hrole h => exact h.keeping hrole hacc ht
    | answer _ _ hrole h => exact h.keeping hrole hacc ht
  | candidate h =>
    cases h with
    | closed | buffered => exact keeping_of_mute ht (List.forall_mem_nil _) rfl rfl
    | refused | applied =>
      exact keeping_of_mute ht (List.forall_mem_singleton.mpr ⟨id, rfl⟩) rfl rfl
  | offer h => exact h.keeping hacc ht
  | report h =>
    cases h with
    | closed => exact keeping_of_mute ht (List.forall_mem_nil _) rfl rfl
    | failed _ _ h => exact h.keeping hacc ht
    | progress _ _ h =>
      have hawait : m'.awaitingAnswer = m.awaitingAnswer := by cases h <;> rfl
      have hlocal : m'.localDescriptor = m.localDescriptor := by cases h <;> rfl
      exact keeping_of_mute ht h.mute hawait hlocal
  | stop h =>
    cases h with
    | closed => exact keeping_of_mute ht (List.forall_mem_nil _) rfl rfl
    | stopped =>
      exact ⟨s, follows_aside (List.forall_mem_singleton.mpr id), fun hopen => absurd rfl hopen⟩

/-- No call changes the session of a machine. -/
theorem Performs.session_eq {c : Call} {r : Outcome} {H : Envelope → List Entry → Prop}
    (h : Performs H m c es r m') : m'.session = m.session := by
  cases h with
  | descriptor h => exact h.session_eq
  | candidate h => cases h <;> rfl
  | offer h => exact h.session_eq
  | report h => exact h.session_eq
  | stop h => cases h <;> rfl

/-- **A call that finds the machine closed, or closes it, asks nothing about descriptors.** -/
theorem Performs.mute_of_closed {c : Call} {r : Outcome} (h : Performs Handed m c es r m')
    (hclosed : m'.state = .closed) : ∀ e ∈ es, IsMute e := by
  cases h with
  | descriptor h =>
    have hopen := h.moves.2
    cases h with
    | closed | duplicate => exact List.forall_mem_nil _
    | offer ho | answer ho => exact absurd hclosed (hopen ho)
  | candidate h =>
    cases h with
    | closed | buffered => exact List.forall_mem_nil _
    | refused | applied => exact List.forall_mem_singleton.mpr ⟨id, rfl⟩
  | offer h =>
    have hopen := h.moves.2
    cases h with
    | closed | forbidden => exact List.forall_mem_nil _
    | refused ho | made ho => exact absurd hclosed (hopen ho)
  | report h =>
    cases h with
    | closed => exact List.forall_mem_nil _
    | failed _ _ h =>
      cases h with
      | again | plain => exact List.forall_mem_nil _
      | restarted | refused => cases hclosed
    | progress _ _ h => exact h.mute
  | stop h => exact h.mute

end

/-! ## Runs

A machine that is closed knows nothing more of its peer, and asks it nothing more about descriptors.
So a run follows the protocol to its end, but the machine knows the state of the peer only until
then. -/

/-- A run keeps to the protocol, and its machine knows the state of the peer. -/
structure Disciplined (session : ℕ) (steps : List Step) (m : Machine) (s : Signalling) : Prop where
  /-- What was asked about descriptors is as the protocol wants it. -/
  follows : Follows session .stable (recordOf steps) s
  /-- Until the end the flag of the machine says whether an offer of this side waits, -/
  awaiting : m.state ≠ .closed → (m.awaitingAnswer = true ↔ s = .haveLocalOffer)
  /-- and such an offer is the local descriptor, the latest that was made and sent. -/
  latest : m.state ≠ .closed → s = .haveLocalOffer →
    ∃ d, m.localDescriptor = some d ∧ IsLatestOffer (recordOf steps) d
  /-- Nothing is asked about descriptors by a call that finds or leaves the machine closed. -/
  closed : ∀ step ∈ steps, step.before.state = .closed ∨ step.after.state = .closed →
    ∀ e ∈ step.made, ¬ IsDescriptorCall e

/-- **Over a peer that accepts descriptors, offers and answers take turns**, and the machine always
knows whose turn it is. -/
theorem Run.signalling {session : ℕ} {role : DescriptorRole} {steps : List Step} {m : Machine}
    (hr : Run session role steps m) (hacc : Accepting (recordOf steps)) :
    ∃! s, Disciplined session steps m s := by
  suffices h : m.session = session ∧ ∃ s, Disciplined session steps m s by
    obtain ⟨-, s, hs⟩ := h
    exact ⟨s, hs, fun t ht => ht.follows.unique hs.follows⟩
  induction hr with
  | start =>
    refine ⟨rfl, .stable, .done _, fun _ => ?_, fun _ hs => (nomatch hs), List.forall_mem_nil _⟩
    simp
  | @call steps m m' c es r before hmay ih =>
    have hrecord : recordOf (steps ++ [⟨m, c, es, r, m'⟩]) = recordOf steps ++ es := by
      simp [recordOf]
    rw [hrecord] at hacc
    obtain ⟨hacc, haccCall⟩ := accepting_append.mp hacc
    obtain ⟨rfl, s, hs⟩ := ih hacc
    have hperforms := hmay.performs
    have hmute : m.state = .closed ∨ m'.state = .closed → ∀ e ∈ es, IsMute e := fun hclosed =>
      hperforms.mute_of_closed (hclosed.elim hperforms.closed id)
    obtain ⟨t, hfollows, hknows⟩ : Keeping (recordOf steps) s es m m' := by
      by_cases hclosed : m.state = .closed
      · have hopen := hperforms.closed hclosed
        exact ⟨s, follows_of_mute (hmute (.inl hclosed)), fun h => absurd hopen h⟩
      · exact hperforms.keeping haccCall ⟨hs.awaiting hclosed, hs.latest hclosed⟩
    refine ⟨hperforms.session_eq, t, ?_, fun hopen => (hknows hopen).awaiting, ?_, ?_⟩
    · rw [hrecord]
      exact hs.follows.trans hfollows
    · rw [hrecord]
      exact fun hopen => (hknows hopen).latest
    · refine List.forall_mem_append.mpr ⟨hs.closed, List.forall_mem_singleton.mpr fun hclosed => ?_⟩
      exact fun e he => (hmute hclosed e he).1

/-- An offer is answered, another one is repaired by a restart before its answer comes, a remote
offer in between is refused, and the session ends. -/
def exchangeSteps : List Step :=
  let s₁ := Machine.play { session := 1, role := .offer } .initiate
  let s₂ := s₁.after.play (.descriptor (.answer "first"))
  let s₃ := s₂.after.play (.connectivity .connected)
  let s₄ := s₃.after.play .initiate
  let s₅ := s₄.after.play (.descriptor (.offer "collision"))
  let s₆ := s₅.after.play (.connectivity .failed)
  let s₇ := s₆.after.play (.descriptor (.answer "second"))
  [s₁, s₂, s₃, s₄, s₅, s₆, s₇]

/-- The sample comes to a stable peer, over two offers and a restart. -/
theorem disciplined_exchangeSteps :
    ∃ m, Run 1 .offer exchangeSteps m ∧ Accepting (recordOf exchangeSteps)
    ∧ (∃! s, Disciplined 1 exchangeSteps m s) ∧ (offersIn (recordOf exchangeSteps)).length = 3 := by
  have hstart : Run 1 .offer [] _ := .start
  have hr := ((((((hstart.play .initiate).play (.descriptor (.answer "first"))).play
    (.connectivity .connected)).play .initiate).play (.descriptor (.offer "collision"))).play
    (.connectivity .failed)).play (.descriptor (.answer "second"))
  have hacc : Accepting (recordOf exchangeSteps) := by
    rw [Accepting]
    decide
  exact ⟨_, hr, hacc, hr.signalling hacc, by decide⟩

end Machine

end CameraViewer.Negotiation
