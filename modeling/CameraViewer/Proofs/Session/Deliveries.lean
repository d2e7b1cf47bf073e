import CameraViewer.Proofs.Session.Operations
import CameraViewer.Proofs.Signal.Frames

/-!
# Proofs/Session/Deliveries — a text is handled as a whole or not at all

What becomes of a text of the relay depends on what it carries (`Handled`): a catalog replaces the
one before, and then the message goes to the handler of its kind (`Handles`). A text that carries
nothing leaves the supervisor as it was, and nothing is asked of the world. So do texts of the
device (`Heard`). `texts_handledWhole` puts this together with what texts carry.
-/

namespace CameraViewer.Session

open Channel Control Link Negotiation Signal World

namespace Supervisor

/-! ## What becomes of a text -/

/-- What becomes of a text of the relay. -/
inductive Handled (link : RelayLink) (s : Supervisor) (text : String) :
    List Entry → Routed → Supervisor → Prop
  | malformed (h : ∀ c e, ¬ Carries text c e) : Handled link s text [] .malformed s
  | ignored (h : Carries text none none) : Handled link s text [] .ignored s
  | catalog {c : Catalog} {es : List Entry} {s' : Supervisor} (h : Carries text (some c) none)
    (hc : Adopts s (some c) es s') : Handled link s text es .dispatched s'
  | message {c : Option Catalog} {e : Envelope} {es fs : List Entry} {mid s' : Supervisor}
    (h : Carries text c (some e)) (hc : Adopts s c es mid) (he : Handles link mid e fs s') :
    Handled link s text (es ++ fs) .dispatched s'

/-- What becomes of a text of the device. -/
inductive Heard (s : Supervisor) (text : String) : List Entry → Supervisor → Prop
  | dropped (h : ∀ notice c, ¬ Says text notice c) : Heard s text [] s
  | said {notice : Option String} {c : Option Catalog} {es : List Entry} {s' : Supervisor}
    (h : Says text notice c) (hc : Adopts s c es s') :
    Heard s text ((notice.map fun message => shown (.notice message)).toList ++ es) s'

/-! ## Nothing else does

What a text carries decides the route, and the route decides the handlers, so each case is one
handler after the other. -/

section
variable {ω : Type} [World ω]

/-- What a text carries is routed: the catalog first, then the message. -/
theorem route_of_carries {text : String} {c : Option Catalog} {e : Option Envelope}
    (h : Carries text c e) : route text
      = (if c.isSome || e.isSome then .dispatched else .ignored,
        (c.map Delivery.catalog).toList ++ (e.map Delivery.message).toList) := by
  obtain ⟨tag, htag⟩ := carries_iff.mp h
  rw [route, htag]
  cases c <;> cases e <;> rfl

/-- A text that carries nothing is malformed, and nothing of it is delivered. -/
theorem route_of_carries_nothing {text : String} (h : ∀ c e, ¬ Carries text c e) :
    route text = (.malformed, []) := by
  rw [route]
  split
  · rfl
  · rename_i f hf
    exact absurd (carries_iff.mpr ⟨f.tag, hf⟩) (h f.catalog f.envelope)

/-- Deliveries are handled one after the other. -/
theorem onDeliveries_append (link : RelayLink) (xs ys : List Delivery) (s : Supervisor) :
    onDeliveries (ω := ω) link (xs ++ ys) s
      = onDeliveries link xs s >>= fun s => onDeliveries link ys s := by
  induction xs generalizing s with
  | nil => rfl
  | cons x rest ih =>
    cases x with
    | catalog c => simp only [List.cons_append, onDeliveries, ih, bind_assoc]
    | message e => simp only [List.cons_append, onDeliveries, ih, bind_assoc]

/-- What is delivered first is the catalog. -/
theorem yields_adopted (link : RelayLink) (c : Option Catalog) (s : Supervisor) :
    Yields (ω := ω) (onDeliveries link (c.map Delivery.catalog).toList s)
      fun es s' => Adopts s c es s' := by
  cases c with
  | none => exact yields_pure .kept
  | some c => exact (yields_replaceCatalog c s).bind_pure fun _ _ h => h

/-- **A text of the relay is handled by what it carries.** -/
theorem yields_handled (link : RelayLink) (text : String) (s : Supervisor) :
    Yields (ω := ω) (s.dispatch link text) fun es r => Handled link s text es r.1 r.2 := by
  rw [dispatch]
  by_cases hcarries : ∃ c e, Carries text c e
  · obtain ⟨c, e, h⟩ := hcarries
    rw [route_of_carries h]
    cases e with
    | none =>
      simp only [Option.map_none, Option.toList_none, List.append_nil, Option.isSome_none,
        Bool.or_false]
      refine (yields_adopted link c s).bind_pure fun es s' hc => ?_
      cases c with
      | none =>
        cases hc
        exact .ignored h
      | some c => exact .catalog h hc
    | some e =>
      simp only [Option.map_some, Option.toList_some, onDeliveries_append, bind_assoc,
        Option.isSome_some, Bool.or_true, if_true]
      refine (yields_adopted link c s).bind fun es mid hc => ?_
      rw [onDeliveries, bind_assoc]
      exact (yields_onMessage link mid e).bind_pure fun fs s' he => .message h hc he
  · rw [route_of_carries_nothing fun c e h => hcarries ⟨c, e, h⟩]
    exact yields_pure (.malformed fun c e h => hcarries ⟨c, e, h⟩)

/-- **A text of the device is handled by what it says.** -/
theorem yields_heard (text : String) (s : Supervisor) :
    Yields (ω := ω) (s.onChannelText text) fun es s' => Heard s text es s' := by
  have hadopts : ∀ c : Option Catalog,
      Yields (ω := ω) (onNotices (c.map ChannelNotice.catalog).toList s)
        fun es s' => Adopts s c es s' := fun c => by
    cases c with
    | none => exact yields_pure .kept
    | some c => exact (yields_replaceCatalog c s).bind_pure fun _ _ h => h
  rw [onChannelText]
  split
  · rename_i ns hread
    obtain ⟨notice, c, rfl⟩ := ChannelNotice.exists_sayings hread
    have hsays := says_iff.mpr hread
    cases notice with
    | none => exact (hadopts c).mono fun es s' h => .said hsays h
    | some message =>
      exact yields_ask_bind _ fun _ => (hadopts c).mono fun es s' h => .said hsays h
  · rename_i err hread
    refine yields_pure (.dropped fun notice c h => ?_)
    cases hread.symm.trans (says_iff.mp h)

end

/-! ## As a whole or not at all -/

/-- What holds of a text, whichever supervisor it comes to. -/
structure HandledWhole (text : String) : Prop where
  /-- A text of the relay carries just what is read from it, -/
  carried : ∀ c e, Carries text c e ↔ ∃ tag, Frame.read text = .ok ⟨tag, e, c⟩
  /-- and nothing at all if it is no object or any part of it is unfit. -/
  nothing : (∀ c e, ¬ Carries text c e)
    ↔ ∀ members, Json.Value.read? text = some (.object members) → Unfit members
  /-- All that it carries is handled, the catalog first. -/
  handled : ∀ link s es routed s',
    May (fun ω _ => s.dispatch (ω := ω) link text) es (routed, s') →
    Handled link s text es routed s'
  /-- A text of the device says just what is read from it, -/
  told : ∀ notice c, Says text notice c ↔ ChannelNotice.read text = .ok (sayings notice c)
  /-- and all of it is handled, the notice first. -/
  heard : ∀ s es s', May (fun ω _ => s.onChannelText (ω := ω) text) es s' → Heard s text es s'

/-- **Texts are handled as a whole or not at all.** -/
theorem texts_handledWhole (text : String) : HandledWhole text where
  carried _ _ := carries_iff
  nothing := carries_nothing_iff
  handled link s _ _ _ h := h.spec fun _ _ => yields_handled link text s
  told _ _ := says_iff
  heard s _ _ h := h.spec fun _ _ => yields_heard text s

end Supervisor

end CameraViewer.Session
