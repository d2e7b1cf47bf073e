import CameraViewer.Proofs.World.Record

/-!
# Proofs/World/Loops — loops, one turn at a time

`loop turn n` takes at most `n` turns. A turn ends with the state of the next turn or with the
result of the loop. The world may answer every turn as it likes: the loop can be in the states
`Heads` when it begins a turn. Where turns are `Measured`, a loop written as a recursion is left
after so many turns with the result of the recursion (`Measured.loop_eq`), and asks no more than the
measure says (`Measured.yields_whole`).
-/

namespace CameraViewer.World

/-! ## Loops -/

/-- What a turn of a loop comes to. -/
inductive Turn (σ ρ : Type)
  /-- There is another turn. -/
  | again (next : σ)
  /-- The loop is left. -/
  | leave (result : ρ)

section
variable {ω σ ρ : Type}

/-- The rest of a loop after a turn. -/
def Turn.rest (whole : σ → StateM ω ρ) : Turn σ ρ → StateM ω ρ
  | .again next => whole next
  | .leave result => pure result

/-- A loop of at most so many turns, with its result if it was left. -/
def loop (turn : σ → StateM ω (Turn σ ρ)) : ℕ → σ → StateM ω (Option ρ)
  | 0, _ => pure none
  | n + 1, s => do
    match ← turn s with
    | .again next => loop turn n next
    | .leave result => return some result

/-! ## Measured loops

A loop with a bound on its turns is total by construction; that the bound is never reached is what
has to be shown. -/

/-- The states a loop that begins in `s` can be in when it begins a turn. -/
inductive Heads (turn : ∀ (ω : Type) [World ω], σ → StateM ω (Turn σ ρ)) (s : σ) : σ → Prop
  | start : Heads turn s s
  | again {s' next : σ} {es : List Entry} (before : Heads turn s s')
    (hmay : May (fun ω _ => turn ω s') es (.again next)) : Heads turn s next

/-- A sound state is left sound by every turn that is not the last. Such a turn lowers `turns`, and
it lowers `asks` by what it asked. -/
def Measured (turn : σ → StateM (Recorded ω) (Turn σ ρ)) (Sound : σ → Prop) (turns asks : σ → ℕ) :
    Prop :=
  ∀ s, Sound s → Yields (turn s) fun es t => match t with
    | .again next => Sound next ∧ turns next < turns s ∧ es.length + asks next ≤ asks s
    | .leave _ => es.length ≤ asks s

variable {turn : σ → StateM (Recorded ω) (Turn σ ρ)} {Sound : σ → Prop} {turns asks : σ → ℕ}
  {whole : σ → StateM (Recorded ω) ρ}

/-- Every turn of a measured loop begins in a sound state. -/
theorem Heads.sound {turn : ∀ (ω : Type) [World ω], σ → StateM ω (Turn σ ρ)} {s s' : σ}
    (h : Heads turn s s')
    (hm : ∀ (ω : Type) [World ω], Measured (ω := ω) (turn (Recorded ω)) Sound turns asks)
    (hs : Sound s) : Sound s' := by
  induction h with
  | start => exact hs
  | again _ hmay ih => exact (hmay.spec fun ω _ => hm ω _ ih).1

/-- **A measured loop is left**, with the result of the recursion that takes the same turns. -/
theorem Measured.loop_eq (hm : Measured turn Sound turns asks)
    (hwhole : ∀ s, Sound s → whole s = turn s >>= Turn.rest whole) (n : ℕ) (s : σ) (hs : Sound s)
    (hn : turns s < n) : loop turn n s = some <$> whole s := by
  induction n generalizing s with
  | zero => exact absurd hn (Nat.not_lt_zero _)
  | succ n ih =>
    rw [loop, hwhole s hs, map_bind]
    have hturn : Returns (turn s) fun t => ∀ next, t = .again next → Sound next
      ∧ turns next < turns s :=
      (hm s hs).returns fun _ _ ht next htn => by
        subst htn
        exact ⟨ht.1, ht.2.1⟩
    refine hturn.bind_congr fun t ht => ?_
    cases t with
    | again next =>
      obtain ⟨hnext, hlt⟩ := ht next rfl
      exact ih next hnext (by omega)
    | leave result => exact (map_pure ..).symm

/-- A measured loop asks no more than the measure says. -/
theorem Measured.yields_whole (hm : Measured turn Sound turns asks)
    (hwhole : ∀ s, Sound s → whole s = turn s >>= Turn.rest whole) (s : σ) (hs : Sound s) :
    Yields (whole s) fun es _ => es.length ≤ asks s := by
  induction h : turns s using Nat.strongRecOn generalizing s with
  | ind k ih =>
    rw [hwhole s hs]
    refine (hm s hs).bind fun es t ht => ?_
    cases t with
    | again next =>
      obtain ⟨hnext, hturns, hasks⟩ := ht
      refine (ih _ (h ▸ hturns) next hnext rfl).mono fun fs _ hfs => ?_
      rw [List.length_append]
      omega
    | leave result => exact yields_pure (by rwa [List.append_nil])

end

end CameraViewer.World
