import CameraViewer.Proofs.Control.Catalogs
import CameraViewer.Proofs.Control.Ranges
import CameraViewer.Proofs.Session.Deliveries
import CameraViewer.Proofs.Session.Lives

/-!
# Proofs/Session/Controls — the controls of the device, as they are shown and set

New controls come under `ctrls` in a text of the relay or of the device (`Call.Brings`). The viewer
is shown every catalog that comes in, normalized, and the supervisor keeps the latest one but for
the present values (`Run.presents`): so a control that came unshifted is set to values in the range
of the device. `offset` is read from the text like any other field, and a control that comes with
one is not normalized: `below_contrastSteps` is such a run.

A value that the device reports of a control is presented shifted, and set under its name it is sent
as it was reported (`setControl_of_reported`).
-/

namespace CameraViewer.Session

open Channel Config Control Link Negotiation Peer Signal World

/-! ## What the viewer is shown of the controls -/

/-- The controls, where the viewer is shown any. -/
def catalog? : Entry → Option Catalog
  | .asked (.tell (.catalog c)) _ => some c
  | _ => none

/-- All controls that the viewer is shown, in order. -/
def catalogsIn (record : List Entry) : List Catalog := record.filterMap catalog?

@[simp] theorem catalogsIn_append (es fs : List Entry) :
    catalogsIn (es ++ fs) = catalogsIn es ++ catalogsIn fs :=
  List.filterMap_append

/-! ## What is written -/

/-- What writing a message to a socket leaves. -/
def Wrote (socket : ℕ) (e : Envelope) (es : List Entry) : Prop :=
  ∃ reached, es = [.asked (.write socket e.text) reached]

/-- Over an open link a message that is sent is written to its socket. -/
theorem Sends.wrote {link : RelayLink} {socket : ℕ} {e : Envelope} {es : List Entry}
    {r : Except LinkError Unit} (h : Sends link e es r) (hopen : link.state = .opened)
    (hsocket : link.socket = some socket) : Wrote socket e es := by
  obtain ⟨-, hsocket', reached⟩ | hclosed := h
  · obtain rfl := Option.some.inj (hsocket.symm.trans hsocket')
    exact ⟨reached, rfl⟩
  · exact absurd hsocket (hclosed socket hopen)

namespace Supervisor

section
variable {P : Grant} {l : RelayLink} {s s' : Supervisor} {es : List Entry}

/-- **Without new controls the viewer is shown none.** -/
theorem Moves.catalogsIn_eq_nil (h : Moves P l s es s') (hnone : ¬P.catalog) :
    catalogsIn es = [] := by
  refine List.filterMap_eq_nil_iff.mpr fun x hx => ?_
  obtain ⟨_, _, _, _, hmade, _, _⟩ := h.entries x hx
  cases hmade with
  | @shown e he =>
    cases e with
    | catalog c => exact absurd he hnone
    | _ => rfl
  | written _ hx =>
    cases hx
    rfl
  | _ => rfl

/-- The end of a session keeps the controls. -/
theorem TearsDown.catalog_eq {live : LiveSession} (h : TearsDown s live es s') :
    s'.catalog = s.catalog := by
  cases h
  rfl

/-- Without new controls only present values change. -/
theorem Move.outline_eq (h : Move P l s es s') (hnone : ¬P.catalog) :
    s'.catalog.outline = s.catalog.outline := by
  cases h with
  | catalog hcatalog => exact absurd hcatalog hnone
  | control v => exact s.catalog.outline_note v
  | collapse _ _ _ _ h | teardown _ h => exact congrArg Catalog.outline h.catalog_eq
  | _ => rfl

theorem Moves.outline_eq (h : Moves P l s es s') (hnone : ¬P.catalog) :
    s'.catalog.outline = s.catalog.outline := by
  induction h with
  | refl => rfl
  | step first _ ih => exact ih.trans (first.outline_eq hnone)

end

/-! ## What a call does with new controls

New controls come in texts of the relay and of the device; either kind is read as a whole before the
catalog is replaced. -/

/-- New controls come with a call: in a text of the relay, or in one of the device over the channel
of the current session. -/
def Call.Brings (s : Supervisor) : Call → Catalog → Prop
  | .frame text, c => ∃ e, Carries text (some c) e
  | .peer ⟨session, .channelText text⟩, c =>
    s.sessionId = some session ∧ ∃ notice, Says text notice (some c)
  | _, _ => False

/-- What becomes of the controls with a call. -/
inductive Refreshes (s : Supervisor) (call : Call) (es : List Entry) (s' : Supervisor) : Prop
  /-- New ones are shown and kept. -/
  | replaced {c : Catalog} (hc : call.Brings s c) (hshown : catalogsIn es = [c.normalized])
    (hkept : s'.catalog.outline = c.normalized.outline)
  /-- The old ones are kept, and nothing is shown. -/
  | kept (hc : ∀ c, ¬call.Brings s c) (hshown : catalogsIn es = [])
    (hkept : s'.catalog.outline = s.catalog.outline)

/-- A text of the device says one thing. -/
theorem says_unique {text : String} {c c' : Option Catalog} {notice notice' : Option String}
    (h : Says text notice c) (h' : Says text notice' c') : c = c' :=
  (sayings_inj.mp (Except.ok.inj ((says_iff.mp h).symm.trans (says_iff.mp h')))).2

section
variable {link : RelayLink} {s s' : Supervisor} {es : List Entry} {text : String}

/-- A message changes nothing of the controls but present values. -/
theorem Handles.refreshes {e : Envelope} (h : Handles link s e es s') :
    catalogsIn es = [] ∧ s'.catalog.outline = s.catalog.outline :=
  have hmoves : Moves .none link s es s' := h.moves
  ⟨hmoves.catalogsIn_eq_nil id, hmoves.outline_eq id⟩

theorem Handled.refreshes {routed : Routed} (h : Handled link s text es routed s') :
    Refreshes s (.frame text) es s' := by
  cases h with
  | malformed h => exact .kept (fun c ⟨e, hc⟩ => h _ _ hc) rfl rfl
  | ignored h => exact .kept (fun c ⟨e, hc⟩ => nomatch (carries_unique h hc).1) rfl rfl
  | catalog h hc =>
    cases hc
    exact .replaced ⟨_, h⟩ rfl rfl
  | message h hc he =>
    obtain ⟨hshown, hkept⟩ := he.refreshes
    cases hc with
    | kept => exact .kept (fun c ⟨e, hc⟩ => nomatch (carries_unique h hc).1) hshown hkept
    | replaced c =>
      refine .replaced ⟨_, h⟩ ?_ hkept
      rw [catalogsIn_append, hshown]
      rfl

theorem Heard.refreshes (h : Heard s text es s') {session : ℕ} (hs : s.sessionId = some session) :
    Refreshes s (.peer ⟨session, .channelText text⟩) es s' := by
  cases h with
  | dropped h => exact .kept (fun c ⟨_, notice, hc⟩ => h _ _ hc) rfl rfl
  | @said notice c es s' h hc =>
    cases hc with
    | kept =>
      refine .kept (fun c ⟨_, notice, hc⟩ => nomatch says_unique h hc) ?_ rfl
      cases notice <;> rfl
    | replaced c =>
      refine .replaced ⟨hs, _, h⟩ ?_ rfl
      cases notice <;> rfl

/-- **What a call does with new controls**: all that comes in is shown and kept. -/
theorem Call.refreshes (hr : s.Ready) {call : Call} (h : May (fun _ _ => call.run link s) es s') :
    Refreshes s call es s' := by
  have hother (hcall : ¬call.IsText) : Refreshes s call es s' := by
    have hmoves := h.spec fun ω _ => yields_run link hr call
    refine .kept (fun c hc => ?_) (hmoves.catalogsIn_eq_nil hcall) (hmoves.outline_eq hcall)
    unfold Call.Brings at hc
    split at hc
    · exact hcall trivial
    · exact hcall trivial
    · exact hc
  cases call with
  | frame text =>
    refine h.spec fun ω _ => ?_
    exact (yields_handled link text s).bind_pure fun es r hr => hr.refreshes
  | peer event =>
    obtain ⟨session, e⟩ := event
    cases e with
    | channelText text =>
      refine h.spec fun ω _ => ?_
      rw [Call.run, onPeerEvent]
      split
      · rename_i hs
        exact yields_pure (.kept (fun c hc => sessionId_ne hs session hc.1) rfl rfl)
      · rename_i live hs
        have hcurrent := sessionId_of_eq_some hs
        split
        · rename_i hid
          have hnow := hcurrent.trans (congrArg some hid)
          exact (yields_heard text s).mono fun _ _ h => h.refreshes hnow
        · rename_i hid
          refine yields_pure (.kept (fun c hc => hid ?_) rfl rfl)
          exact Option.some.inj (hcurrent.symm.trans hc.1)
    | _ => exact hother id
  | _ => exact hother id

end

/-! ## Setting a control

The viewer sets a control by its name and the value that is presented; the device knows it by its
number and its own value. -/

/-- Over an open link a command sends just this message, and changes nothing. -/
def Transmits (s : Supervisor) (cmd : SessionCommand) (e : Envelope) : Prop :=
  ∀ link socket es s', link.state = .opened → link.socket = some socket →
    May (fun ω _ => s.onCommand (ω := ω) link cmd) es s' → Wrote socket e es ∧ s' = s

/-- **A control is set under its name**: its number and its value on the device are sent. -/
theorem transmits_setControl {s : Supervisor} {name : String} {d : ControlDescriptor}
    (hfind : s.catalog.find? name = some d) (htoggle : d.isToggle = false) (v : Int64) :
    s.Transmits (.setControl name v) (.setControl d.id (d.deviceValue v)) := by
  intro link socket es s' hopen hsocket h
  have hvalue : deviceValueOf v d = d.deviceValue v := if_neg (by simp [htoggle])
  have hsent (ω : Type) [World ω] : Yields (ω := ω) (s.sendControl link name (deviceValueOf v))
      fun es _ => Wrote socket (.setControl d.id (d.deviceValue v)) es := by
    rw [sendControl, hfind]
    simp only [hvalue]
    exact (yields_send link _).bind_pure fun es r hsends => hsends.wrote hopen hsocket
  refine h.spec (P := fun es s' => Wrote socket _ es ∧ s' = s) fun ω _ => ?_
  exact (hsent ω).bind_pure fun es _ hwrote => ⟨hwrote, rfl⟩

/-! ## Runs -/

/-- The catalogs that a run brought, in order. -/
inductive Brought : List Step → List Catalog → Prop
  | start : Brought [] []
  | replaced {steps : List Step} {step : Step} {cs : List Catalog} {c : Catalog}
    (before : Brought steps cs) (hc : step.call.Brings step.before c) :
    Brought (steps ++ [step]) (cs ++ [c])
  | kept {steps : List Step} {step : Step} {cs : List Catalog} (before : Brought steps cs)
    (hc : ∀ c, ¬step.call.Brings step.before c) : Brought (steps ++ [step]) cs

/-- The catalog that came last; without any there are no controls. -/
def latest (cs : List Catalog) : Catalog := cs.getLast?.getD .empty

/-- **All catalogs that come in are shown, and the latest is kept** but for present values. -/
theorem Run.brought {config : ClientConfig} {steps : List Step} {s : Supervisor}
    (hr : Run config steps s) :
    ∃ cs, Brought steps cs ∧ catalogsIn (recordOf steps) = cs.map Catalog.normalized
      ∧ s.catalog.outline = (latest cs).normalized.outline := by
  induction hr with
  | start => exact ⟨[], .start, rfl, rfl⟩
  | @call steps s s' link call es before hmay ih =>
    obtain ⟨cs, hcs, hshown, hkept⟩ := ih
    rw [recordOf_append, recordOf_singleton, catalogsIn_append, hshown]
    obtain ⟨hc, hshown, hlatest⟩ | ⟨hc, hshown, hsame⟩ := Call.refreshes before.trail.ready hmay
    · refine ⟨cs ++ [_], hcs.replaced hc, ?_, ?_⟩
      · rw [hshown, List.map_append, List.map_singleton]
      · rw [hlatest, latest, List.getLast?_concat]
        rfl
    · refine ⟨cs, hcs.kept hc, ?_, hsame.trans hkept⟩
      rw [hshown, List.append_nil]

/-- A control `d` of the device is presented as `n`: normalized, whatever its present value; if it
came unshifted then from zero or above. -/
structure Displays (n d : ControlDescriptor) : Prop where
  normalized : n = { d.normalized with value := n.value }
  nonneg : d.offset = 0 → 0 ≤ n.min

/-- What is presented of a control is decided by its normalized form and by whether it came
unshifted. -/
theorem displays_iff {n d : ControlDescriptor} :
    Displays n d ↔ n = { d.normalized with value := n.value } := by
  refine ⟨Displays.normalized, fun h => ⟨h, fun hfresh => ?_⟩⟩
  rw [h]
  exact ControlDescriptor.normalized_min_nonneg hfresh

/-- Under the name of a control `d` the control `n` is set: every value that is presented is sent to
`d`, and if that came unshifted then it is a value in its range. -/
def Sets (s : Supervisor) (name : String) (n d : ControlDescriptor) : Prop :=
  ∀ v, s.Transmits (.setControl name v) (.setControl d.id (n.deviceValue v))
    ∧ (d.offset = 0 → d.min ≤ d.max → n.Within v → d.Within (n.deviceValue v))

/-- A control that is displayed so is set so. -/
theorem Displays.sets {s : Supervisor} {name : String} {n d : ControlDescriptor}
    (h : Displays n d) (hfind : s.catalog.find? name = some n) (htoggle : n.isToggle = false) :
    s.Sets name n d := by
  intro v
  have hsent := transmits_setControl hfind htoggle v
  have hid : n.id = d.id := by
    rw [h.normalized]
    exact d.normalized_kind.1
  rw [hid] at hsent
  refine ⟨hsent, fun hfresh horder hv => ?_⟩
  rw [h.normalized] at hv ⊢
  exact ControlDescriptor.within_deviceValue hfresh horder hv

/-- What becomes of the controls in a run that brought the catalogs `cs`. -/
structure Presents (record : List Entry) (s : Supervisor) (cs : List Catalog) : Prop where
  /-- The viewer is shown each of them, normalized, and nothing else. -/
  shown : catalogsIn record = cs.map Catalog.normalized
  /-- So each control in them is displayed, -/
  displayed : ∀ c ∈ cs, ∀ name n, c.normalized.find? name = some n →
    ∃ d, c.find? name = some d ∧ Displays n d
  /-- and those of the latest one are kept, where they can be set under their names. -/
  kept : ∀ name n, s.catalog.find? name = some n →
    ∃ d, (latest cs).find? name = some d ∧ Displays n d ∧ (n.isToggle = false → s.Sets name n d)
  /-- None of these is lost. -/
  found : ∀ name d, (latest cs).find? name = some d → ∃ n, s.catalog.find? name = some n

/-- **The controls in a run**: they are displayed and can be set, one that came unshifted from zero
or above and to values in the range of the device. -/
theorem Run.presents {config : ClientConfig} {steps : List Step} {s : Supervisor}
    (hr : Run config steps s) : ∃ cs, Brought steps cs ∧ Presents (recordOf steps) s cs := by
  obtain ⟨cs, hcs, hshown, hkept⟩ := hr.brought
  refine ⟨cs, hcs, hshown, fun c _ name n hn => ?_, fun name n hn => ?_, fun name d hd => ?_⟩
  · rw [Catalog.normalized, Catalog.find?_map] at hn
    obtain ⟨d, hd, rfl⟩ := Option.map_eq_some_iff.mp hn
    exact ⟨d, hd, displays_iff.mpr rfl⟩
  · obtain ⟨n', hn', heq⟩ := Catalog.find?_of_outline_eq hkept hn
    rw [Catalog.normalized, Catalog.find?_map] at hn'
    obtain ⟨d, hd, rfl⟩ := Option.map_eq_some_iff.mp hn'
    have hdisplays := displays_iff.mpr heq
    exact ⟨d, hd, hdisplays, hdisplays.sets hn⟩
  · have hnormalized : (latest cs).normalized.find? name = some d.normalized := by
      rw [Catalog.normalized, Catalog.find?_map, hd, Option.map_some]
    obtain ⟨n, hn, -⟩ := Catalog.find?_of_outline_eq hkept.symm hnormalized
    exact ⟨n, hn⟩

/-- A text of the relay with controls, and a roster of nobody. -/
def controlsText (c : Catalog) : String :=
  (Json.Value.object ((Envelope.roster []).frameMembers (some c) [])).text

/-- The contrast of a camera, from below zero to above; its present value is not known. -/
def contrast (offset : Int64) : ControlDescriptor :=
  { id := 42, min := -10, max := 10, step := 1, default := 0, controlType := integerType
    value := none
    offset }

/-- Only the contrast can be set. -/
def contrastOnly (offset : Int64) : Catalog :=
  ⟨[("Contrast", contrast offset)], List.pairwise_singleton ..⟩

/-- A session starts, and controls come in. -/
def contrastSteps (offset : Int64) : List Step :=
  let opened := play (new {}) sampleLink .linkOpen
  [opened, opened.after.play sampleLink (.frame (controlsText (contrastOnly offset)))]

/-- What the supervisor has come to then. -/
def contrastEnd (offset : Int64) : Supervisor :=
  ((play (new {}) sampleLink .linkOpen).after.play sampleLink
    (.frame (controlsText (contrastOnly offset)))).after

/-- Both samples are runs, whatever the offset they come with. -/
theorem run_contrastSteps (offset : Int64) :
    Run {} (contrastSteps offset) (contrastEnd offset) := by
  have hstart : Run {} [] (new {}) := .start
  exact (hstart.play sampleLink .linkOpen).play sampleLink _

theorem catalog_contrastEnd : (contrastEnd 0).catalog = (contrastOnly 0).normalized := by
  decide +kernel

theorem catalog_contrastEnd_shifted : (contrastEnd 15).catalog = contrastOnly 15 := by
  decide +kernel

theorem brought_contrastSteps : Brought (contrastSteps 15) [contrastOnly 15] := by
  have hread : Frame.read (controlsText (contrastOnly 15))
      = .ok ⟨some SignalKind.roster.wire, some (.roster []), some (contrastOnly 15)⟩ :=
    Frame.read_text (e := .roster []) (c := some (contrastOnly 15)) trivial (Envelope.leaves_nil _)
      (List.Perm.refl _) (by decide)
  have hopened : Brought [play (new {}) sampleLink .linkOpen] [] := .kept .start fun _ => id
  exact hopened.replaced ⟨_, carries_iff.mpr ⟨_, hread⟩⟩

/-- The contrast as it is presented where it comes unshifted: zero is sent as minus ten. -/
def presentedContrast : ControlDescriptor := { contrast 10 with min := 0, max := 20, default := 10 }

theorem find?_contrastEnd : (contrastEnd 0).catalog.find? "Contrast" = some presentedContrast := by
  rw [catalog_contrastEnd]
  decide

/-- The contrast of the sample is presented from zero, and zero is sent as the least value of the
device. -/
theorem presents_contrastSteps : Run {} (contrastSteps 0) (contrastEnd 0)
    ∧ (∃ cs, Brought (contrastSteps 0) cs
      ∧ Presents (recordOf (contrastSteps 0)) (contrastEnd 0) cs)
    ∧ (contrastEnd 0).catalog.find? "Contrast" = some presentedContrast
    ∧ (contrastEnd 0).Transmits (.setControl "Contrast" 0) (.setControl 42 (-10)) :=
  ⟨run_contrastSteps 0, (run_contrastSteps 0).presents, find?_contrastEnd,
    transmits_setControl find?_contrastEnd rfl 0⟩

/-- A contrast that comes with an offset is presented from below zero, and zero is sent as a value
that is not in the range of the device. -/
theorem below_contrastSteps : Run {} (contrastSteps 15) (contrastEnd 15)
    ∧ Brought (contrastSteps 15) [contrastOnly 15]
    ∧ (contrastOnly 15).find? "Contrast" = some (contrast 15)
    ∧ (contrast 15).min ≤ (contrast 15).max
    ∧ (contrastEnd 15).catalog.find? "Contrast" = some (contrast 15) ∧ ¬0 ≤ (contrast 15).min
    ∧ (contrast 15).isToggle = false ∧ (contrast 15).Within 0
    ∧ (contrastEnd 15).Transmits (.setControl "Contrast" 0) (.setControl 42 (-15))
    ∧ ¬(contrast 15).Within (-15) := by
  have hfind : (contrastEnd 15).catalog.find? "Contrast" = some (contrast 15) := by
    rw [catalog_contrastEnd_shifted]
    rfl
  exact ⟨run_contrastSteps 15, brought_contrastSteps, rfl, by decide, hfind, by decide, rfl,
    by decide, transmits_setControl hfind rfl 0, by decide⟩

/-! ## What the device reports of a control -/

/-- The control under a name was exchanged, and nothing else. -/
structure Exchanges (s : Supervisor) (name : String) (d : ControlDescriptor) (s' : Supervisor) :
    Prop where
  found : s'.catalog.find? name = some d
  others : ∀ other, other ≠ name → s'.catalog.find? other = s.catalog.find? other
  rest : s' = { s with catalog := s'.catalog }

/-- A value that the device reports of a control is noted under its name, and nothing else changes.
-/
theorem exchanges_dispatch {s s' : Supervisor} {link : RelayLink} {name text : String}
    {d : ControlDescriptor} {v : Int64} {reset : Bool} {es : List Entry} {routed : Routed}
    (hfind : s.catalog.find? name = some d) (honly : s.catalog.OnlyAt name d.id)
    (htext : Carries text none (some (.userControl (some ⟨d.id, v⟩) reset)))
    (h : May (fun ω _ => s.dispatch (ω := ω) link text) es (routed, s')) :
    s.Exchanges name { d with value := some (v + d.offset) } s' := by
  obtain hnone | hnone | ⟨hother, -⟩ | ⟨hsame, hadopts, hhandles⟩ :=
    h.spec fun ω _ => yields_handled link text s
  · exact absurd htext (hnone _ _)
  · exact nomatch (carries_unique htext hnone).2
  · exact nomatch (carries_unique htext hother).2
  · obtain ⟨rfl, heq⟩ := carries_unique htext hsame
    obtain rfl := Option.some.inj heq
    cases hadopts
    cases hhandles
    have hnoted := Catalog.find?_note hfind honly v
    refine ⟨?_, fun other hne => ?_, rfl⟩
    · exact (hnoted name).trans (if_pos rfl)
    · exact (hnoted other).trans (if_neg hne)

/-- The text of a message to set a control is read as that message. -/
theorem carries_setControl (id : UInt32) (v : Int64) :
    Carries (Envelope.setControl id v).text none (some (.setControl id v)) := by
  have hread : Frame.read (Envelope.setControl id v).text
      = .ok ⟨some SignalKind.userControl.wire, some (.setControl id v), none⟩ :=
    Frame.read_text (e := .setControl id v) (c := none) trivial (Envelope.leaves_nil _)
      (List.Perm.refl _) (Nat.le_of_ble_eq_true rfl)
  exact carries_iff.mpr ⟨_, hread⟩

/-- **What the device reports and what is set are inverse**: a value reported of a control is noted
under its name as presented, nothing else changes, and that presented value is sent as the reported
one. -/
theorem setControl_of_reported {s : Supervisor} {name text : String} {d : ControlDescriptor}
    {v : Int64} {reset : Bool} (hfind : s.catalog.find? name = some d)
    (htoggle : d.isToggle = false) (honly : s.catalog.OnlyAt name d.id)
    (hfits : Fits (v.toInt + d.offset.toInt))
    (htext : Carries text none (some (.userControl (some ⟨d.id, v⟩) reset))) :
    ∃ p : Int64, p.toInt = v.toInt + d.offset.toInt
      ∧ ∀ link es routed s', May (fun ω _ => s.dispatch (ω := ω) link text) es (routed, s') →
        s.Exchanges name { d with value := some p } s'
          ∧ s'.Transmits (.setControl name p) (.setControl d.id v)
          ∧ Carries (Envelope.setControl d.id v).text none (some (.setControl d.id v)) := by
  refine ⟨v + d.offset, hfits.toInt_add, fun link es routed s' h => ?_⟩
  have hexchanges := exchanges_dispatch hfind honly htext h
  have hsent := transmits_setControl hexchanges.found htoggle (v + d.offset)
  have hvalue : ControlDescriptor.deviceValue { d with value := some (v + d.offset) }
    (v + d.offset) = v :=
    ControlDescriptor.deviceValue_add hfits
  rw [hvalue] at hsent
  exact ⟨hexchanges, hsent, carries_setControl d.id v⟩

/-- The device reports a contrast of four: fourteen is noted, and fourteen is sent as four. -/
theorem setControl_of_reported_contrast : Run {} (contrastSteps 0) (contrastEnd 0)
    ∧ ∃ p : Int64, p.toInt = 14
      ∧ ∀ link es routed s', May (fun ω _ => (contrastEnd 0).dispatch (ω := ω) link
          (Envelope.setControl 42 4).text) es (routed, s') →
        s'.catalog.find? "Contrast" = some { presentedContrast with value := some p }
          ∧ s'.Transmits (.setControl "Contrast" p) (.setControl 42 4) := by
  have honly : (contrastEnd 0).catalog.OnlyAt "Contrast" presentedContrast.id := by
    rw [catalog_contrastEnd]
    decide
  obtain ⟨p, hp, hreported⟩ := setControl_of_reported (v := 4) find?_contrastEnd rfl honly
    (by decide)
    (carries_setControl 42 4)
  refine ⟨run_contrastSteps 0, p, hp, fun link es routed s' h => ?_⟩
  obtain ⟨hexchanges, hsent, -⟩ := hreported link es routed s' h
  exact ⟨hexchanges.found, hsent⟩

end Supervisor

end CameraViewer.Session
