import CameraViewer.Link.Basic
import Mathlib.Data.Nat.Notation

/-!
# Proofs/World/Record — what a machine asks of the world

`Recorded ω` is a world that writes down every request and its answer. `Yields m P` says that `m`,
in any world, only adds to that record, and that what it adds and returns satisfies `P`. Rules for
it follow the structure of `m`. `May m es a` says that in some world `m` adds `es` and returns
`a`: a world may answer as it likes, so this is all that can become of `m`. `Willing` is the world
in which everything succeeds.
-/

namespace CameraViewer.World

open Link Signal

/-- One line of the record: a request with its answer, or a message handed to a sink with its
result. -/
inductive Entry
  | asked (r : Request) (reply : r.Reply)
  | handed (e : Envelope) (result : Except LinkError Unit)

/-- A world with a record of what was asked of it. -/
structure Recorded (ω : Type) where
  /-- The world itself. -/
  world : ω
  /-- What was asked and answered, the oldest first. -/
  record : List Entry

instance {ω : Type} [World ω] : World (Recorded ω) where
  perform r t :=
    ((perform r t.world).1, ⟨(perform r t.world).2, t.record ++ [.asked r (perform r t.world).1]⟩)

/-- A sink with a record of what was handed to it. -/
def recording {ω : Type} (sink : Envelope → StateM ω (Except LinkError Unit)) (e : Envelope) :
    StateM (Recorded ω) (Except LinkError Unit) :=
  fun t => ((sink e t.world).1, ⟨(sink e t.world).2, t.record ++ [.handed e (sink e t.world).1]⟩)

variable {ω α β : Type}

/-- Whatever the world is like, `m` only adds to the record, and that satisfies `P`. -/
def Yields (m : StateM (Recorded ω) α) (P : List Entry → α → Prop) : Prop :=
  ∀ t, ∃ es, (m t).2.record = t.record ++ es ∧ P es (m t).1

/-- Where a list with a last element is split, the split is at that element or before it. -/
theorem split_concat {xs front back : List α} {x y : α} (h : xs ++ [x] = front ++ y :: back) :
    (xs = front ∧ x = y ∧ back = []) ∨ ∃ rest, back = rest ++ [x] ∧ xs = front ++ y :: rest := by
  rcases List.eq_nil_or_concat back with rfl | ⟨rest, last, rfl⟩
  · obtain ⟨hxs, hlast⟩ := List.append_inj' h rfl
    exact .inl ⟨hxs, (List.cons.inj hlast).1, rfl⟩
  · rw [List.concat_eq_append, ← List.cons_append, ← List.append_assoc] at h
    obtain ⟨hxs, hlast⟩ := List.append_inj' h rfl
    obtain rfl := (List.cons.inj hlast).1
    exact .inr ⟨rest, List.concat_eq_append, hxs⟩

/-- `Q` holds of every entry of a record and what stands before it. -/
def Throughout (Q : List Entry → Entry → Prop) (record : List Entry) : Prop :=
  ∀ before e after, record = before ++ e :: after → Q before e

/-- A record that goes on is judged entry by entry. -/
theorem throughout_append {Q : List Entry → Entry → Prop} {record es : List Entry} :
    Throughout Q (record ++ es)
      ↔ Throughout Q record ∧ Throughout (fun before e => Q (record ++ before) e) es := by
  refine ⟨fun h => ⟨fun before e after heq => ?_, fun before e after heq => ?_⟩, ?_⟩
  · exact h before e (after ++ es) (by rw [heq, List.append_assoc, List.cons_append])
  · exact h (record ++ before) e after (by rw [heq, List.append_assoc])
  · rintro ⟨hrecord, hes⟩ before e after heq
    rcases List.append_eq_append_iff.mp heq with ⟨rest, rfl, hrest⟩ | ⟨rest, hleft, hright⟩
    · exact hes rest e after hrest
    · cases rest with
      | nil =>
        rw [List.append_nil] at hleft
        have hturn := hes [] e after hright.symm
        rwa [hleft, List.append_nil] at hturn
      | cons x rest =>
        obtain ⟨rfl, -⟩ := List.cons.inj hright
        exact hrecord before e rest hleft

/-- What holds of an entry by itself holds throughout. -/
theorem throughout_of_mem {Q : List Entry → Entry → Prop} {es : List Entry}
    (h : ∀ before, ∀ e ∈ es, Q before e) : Throughout Q es := by
  rintro before e after rfl
  exact h before e (List.mem_append_right _ List.mem_cons_self)

theorem throughout_singleton {Q : List Entry → Entry → Prop} {e : Entry} (h : Q [] e) :
    Throughout Q [e] := by
  intro before x after heq
  obtain ⟨rfl, hx⟩ | ⟨-, hx⟩ := List.append_eq_singleton_iff.mp heq.symm
  · rwa [(List.cons.inj hx).1]
  · cases hx

/-! ## Rules

What an operation asks is composed like the operation itself, one rule for each way of putting
operations together. -/

/-- What asks nothing leaves the record as it is. -/
theorem yields_pure {a : α} {P : List Entry → α → Prop} (h : P [] a) :
    Yields (ω := ω) (pure a) P :=
  fun _ => ⟨[], (List.append_nil _).symm, h⟩

/-- One after the other. -/
theorem Yields.bind {m : StateM (Recorded ω) α} {f : α → StateM (Recorded ω) β}
    {P : List Entry → α → Prop} {Q : List Entry → β → Prop} (hm : Yields m P)
    (hf : ∀ es a, P es a → Yields (f a) fun fs b => Q (es ++ fs) b) : Yields (m >>= f) Q := by
  intro t
  obtain ⟨es, hes, h⟩ := hm t
  obtain ⟨fs, hfs, h'⟩ := hf _ _ h (m t).2
  refine ⟨es ++ fs, ?_, h'⟩
  rw [← List.append_assoc, ← hes]
  exact hfs

theorem Yields.mono {m : StateM (Recorded ω) α} {P Q : List Entry → α → Prop} (hm : Yields m P)
    (h : ∀ es a, P es a → Q es a) : Yields m Q := fun t =>
  let ⟨es, hes, hp⟩ := hm t
  ⟨es, hes, h _ _ hp⟩

/-- First something that adds the same to the record in every world. -/
theorem Yields.bind_eq {m : StateM (Recorded ω) α} {f : α → StateM (Recorded ω) β} {es : List Entry}
    {Q : List Entry → β → Prop} (hm : Yields m fun fs _ => fs = es)
    (hf : ∀ a, Yields (f a) fun fs b => Q (es ++ fs) b) : Yields (m >>= f) Q :=
  hm.bind fun _ a he => by
    subst he
    exact hf a

/-- Nothing is asked after `m`. -/
theorem Yields.bind_pure {m : StateM (Recorded ω) α} {f : α → β} {P : List Entry → α → Prop}
    {Q : List Entry → β → Prop} (hm : Yields m P) (h : ∀ es a, P es a → Q es (f a)) :
    Yields (m >>= fun a => pure (f a)) Q := by
  refine hm.bind fun es a ha => yields_pure ?_
  rw [List.append_nil]
  exact h es a ha

/-- Nothing is asked after something that adds the same to the record in every world. -/
theorem Yields.bind_eq_pure {m : StateM (Recorded ω) α} {f : α → β} {es : List Entry}
    {Q : List Entry → β → Prop} (hm : Yields m fun fs _ => fs = es) (h : ∀ a, Q es (f a)) :
    Yields (m >>= fun a => pure (f a)) Q := by
  refine hm.bind_pure fun fs a hfs => ?_
  rw [hfs]
  exact h a

/-- A message that is handed to the sink stands in the record with its result. -/
theorem yields_recording {sink : Envelope → StateM ω (Except LinkError Unit)} (e : Envelope)
    {P : List Entry → Except LinkError Unit → Prop} (h : ∀ result, P [.handed e result] result) :
    Yields (recording sink e) P :=
  fun _ => ⟨_, rfl, h _⟩

variable [World ω]

theorem yields_ask (r : Request) {P : List Entry → r.Reply → Prop}
    (h : ∀ reply, P [.asked r reply] reply) : Yields (ω := ω) (ask r) P :=
  fun _ => ⟨_, rfl, h _⟩

/-- A request first, then the rest with its answer. -/
theorem yields_ask_bind (r : Request) {f : r.Reply → StateM (Recorded ω) β}
    {Q : List Entry → β → Prop}
    (h : ∀ reply, Yields (f reply) fun es b => Q (.asked r reply :: es) b) :
    Yields (ask r >>= f) Q :=
  (yields_ask r (P := fun es reply => es = [.asked r reply]) fun _ => rfl).bind fun _ reply he => by
    subst he
    exact h reply

/-- In some world, `m` adds `es` to the record and returns `a`. -/
def May (m : ∀ (ω : Type) [World ω], StateM ω α) (es : List Entry) (a : α) : Prop :=
  ∃ (ω : Type) (_ : World ω) (w : ω),
    (m (Recorded ω) ⟨w, []⟩).1 = a ∧ (m (Recorded ω) ⟨w, []⟩).2.record = es

/-- What holds in every world holds of all that may happen. -/
theorem May.spec {m : ∀ (ω : Type) [World ω], StateM ω α} {es : List Entry} {a : α}
    {P : List Entry → α → Prop} (h : May m es a)
    (hm : ∀ (ω : Type) [World ω], Yields (m (Recorded ω)) P) : P es a := by
  obtain ⟨ω, _, w, rfl, rfl⟩ := h
  obtain ⟨fs, hfs, hp⟩ := hm ω ⟨w, []⟩
  rw [List.nil_append] at hfs
  rwa [hfs]

/-- Where nothing is done, nothing is asked. -/
theorem May.of_pure {m : ∀ (ω : Type) [World ω], StateM ω α} {es : List Entry} {a b : α}
    (h : May m es a) (hm : ∀ (ω : Type) [World ω], m (Recorded ω) = pure b) : es = [] ∧ a = b := by
  refine h.spec (P := fun es a => es = [] ∧ a = b) fun ω _ => ?_
  rw [hm ω]
  exact yields_pure ⟨rfl, rfl⟩

/-! ## What is returned

Some facts need only the answer, and hold in worlds without a record too. -/

section
variable {σ : Type}

/-- Whatever the world is like, what `m` returns satisfies `P`. -/
def Returns (m : StateM σ α) (P : α → Prop) : Prop := ∀ t, P (m t).1

theorem returns_pure {a : α} {P : α → Prop} (h : P a) : Returns (σ := σ) (pure a) P := fun _ => h

/-- What comes first does not matter. -/
theorem returns_bind {m : StateM σ α} {f : α → StateM σ β} {P : β → Prop}
    (h : ∀ a, Returns (f a) P) : Returns (m >>= f) P :=
  fun _ => h _ _

/-- What comes first matters. -/
theorem Returns.bind {m : StateM σ α} {f : α → StateM σ β} {P : α → Prop} {Q : β → Prop}
    (hm : Returns m P) (hf : ∀ a, P a → Returns (f a) Q) : Returns (m >>= f) Q :=
  fun t => hf _ (hm t) _

/-- What comes next is only done with what may be returned. -/
theorem Returns.bind_congr {m : StateM σ α} {f g : α → StateM σ β} {P : α → Prop}
    (hm : Returns m P) (h : ∀ a, P a → f a = g a) : m >>= f = m >>= g :=
  funext fun t => congrFun (h _ (hm t)) _

/-- What the record shows of an answer. -/
theorem Yields.returns {m : StateM (Recorded σ) α} {P : List Entry → α → Prop} {Q : α → Prop}
    (h : Yields m P) (hpq : ∀ es a, P es a → Q a) : Returns m Q := fun t =>
  let ⟨_, _, hp⟩ := h t
  hpq _ _ hp

/-- What is returned, besides what is asked. -/
theorem Yields.of_returns {m : StateM (Recorded σ) α} {P : List Entry → α → Prop} {Q : α → Prop}
    (h : Yields m P) (hq : Returns m Q) : Yields m fun _ a => Q a := fun t =>
  let ⟨es, hes, _⟩ := h t
  ⟨es, hes, hq t⟩

/-- What every world returns may be returned. -/
theorem May.returns {m : ∀ (ω : Type) [World ω], StateM ω α} {es : List Entry} {a : α}
    {P : α → Prop} (h : May m es a) (hm : ∀ (ω : Type) [World ω], Returns (m (Recorded ω)) P) :
    P a := by
  obtain ⟨ω, _, w, rfl, -⟩ := h
  exact hm ω _

end

/-! ## Worlds that are willing, or not

Samples are played in worlds that can be run; what happens there may happen. -/

/-- What a willing peer answers. -/
def willingAnswer : (r : Peer.PeerRequest) → r.Answer
  | .createOffer _ => .offer "local"
  | .createAnswer => .answer "local"
  | .setLocal _ => ()
  | .setRemote _ => ()
  | .addCandidate _ => ()
  | .attachMedia _ => ()
  | .releaseOutbound => (0 : ℕ)
  | .close => ()

/-- What an open, empty channel answers. -/
def willingChannel : (r : ChannelRequest) → r.Reply
  | .isOpen => true
  | .bufferedAmount => (0 : ℕ)
  | .setLowMark _ => ()
  | .sendText _ => .ok ()
  | .sendBytes _ => .ok ()
  | .close => ()

/-- The world in which everything succeeds. -/
structure Willing where

instance : World Willing where
  perform
    | .createPeer _, w => (.ok (), w)
    | .peer _ r, w => (.ok (willingAnswer r), w)
    | .channel _ r, w => (willingChannel r, w)
    | .acquireMedia, w => (.ok default, w)
    | .stopMedia _, w => ((), w)
    | .dial _ _, w => ((), w)
    | .hangUp _, w => ((), w)
    | .write _ _, w => (true, w)
    | .tell _, w => ((), w)
    | .note _, w => ((), w)

/-- A world whose peers refuse as a script says, request by request, and accept when it has ended.
All else succeeds. -/
structure Fickle where
  /-- Whether the requests to come are refused. -/
  script : List Bool

instance : World Fickle where
  perform
    | .peer _ r, w =>
      (if w.script.head? = some true then .error (.connection "refused") else .ok (willingAnswer r),
        ⟨w.script.tail⟩)
    | r, w => ((World.perform r (⟨⟩ : Willing)).1, w)

/-- What `m` does in the willing world. -/
def played (m : ∀ (ω : Type) [World ω], StateM ω α) : α × Recorded Willing :=
  m (Recorded Willing) ⟨⟨⟩, []⟩

/-- **What is played may happen.** -/
theorem may_played (m : ∀ (ω : Type) [World ω], StateM ω α) :
    May m (played m).2.record (played m).1 :=
  ⟨Willing, inferInstance, ⟨⟩, rfl, rfl⟩

end CameraViewer.World
