import CameraViewer.Proofs.Json.Reading
import CameraViewer.Signal.Envelope

/-!
# Proofs/Signal/Texts — messages are told apart by their texts

Of the messages this side sends, no two have the same text (`Envelope.eq_of_text_eq`).
-/

namespace CameraViewer.Signal

open Json Control

/-! ## Plain parts

Nothing that this side sends has a double in it. -/

theorem isWord_uint16 (n : UInt16) : IsWord n.toNat := by
  have := n.toNat_lt
  constructor <;> omega

theorem isWord_uint32 (n : UInt32) : IsWord n.toNat := by
  have := n.toNat_lt
  constructor <;> omega

/-- Every integer of 64 bits can be held by a document, whatever its sign. -/
theorem isWord_int64 (n : Int64) : IsWord n.toInt := by
  have hlow := n.le_toInt
  have hhigh := n.toInt_lt
  constructor <;> omega

/-- A member that may be left out is plain if its value is. -/
theorem plainMembers_optional {name : String} {v : Option Value} (h : ∀ w ∈ v, w.Plain) :
    PlainMembers (Value.optional name v) := by
  cases v with
  | none => trivial
  | some w => exact ⟨h w rfl, trivial⟩

/-- Two groups of members are plain together if each is. -/
theorem plainMembers_append {ms ns : List (String × Value)} :
    PlainMembers (ms ++ ns) ↔ PlainMembers ms ∧ PlainMembers ns := by
  simp only [plainMembers_iff, List.mem_append, or_imp, forall_and]

/-- A description is told in texts. -/
theorem SessionDescriptor.plain_toValue (d : SessionDescriptor) : d.toValue.Plain := by
  simp [toValue, plainMembers_iff]

theorem Candidate.plain_toValue (c : Candidate) : c.toValue.Plain := by
  rw [toValue, plain_object, plainMembers_append, plainMembers_append, plainMembers_append]
  refine ⟨⟨⟨⟨plain_string _, trivial⟩, plainMembers_optional ?_⟩, plainMembers_optional ?_⟩,
    plainMembers_optional ?_⟩
  · simp
  · simp [isWord_uint16]
  · simp

theorem plain_controlValue (v : ControlValue) : v.toValue.Plain := by
  simp [ControlValue.toValue, plainMembers_iff, isWord_uint32, isWord_int64]

/-! ## Equal values -/

/-- A member that may be left out is found again, where its name is not used again. -/
theorem optional_append_inj {name : String} {v v' : Option Value} {ms ms' : List (String × Value)}
    (hms : ∀ m ∈ ms, m.1 ≠ name) (hms' : ∀ m ∈ ms', m.1 ≠ name)
    (h : Value.optional name v ++ ms = Value.optional name v' ++ ms') : v = v' ∧ ms = ms' := by
  cases v <;> cases v'
  · exact ⟨rfl, h⟩
  · subst h
    exact absurd rfl (hms _ List.mem_cons_self)
  · subst h
    exact absurd rfl (hms' _ List.mem_cons_self)
  · obtain ⟨hv, hrest⟩ := List.cons.inj h
    exact ⟨congrArg some (Prod.mk.inj hv).2, hrest⟩

/-- What may be left out is told by what is left out. -/
theorem optional_inj {name : String} {v v' : Option Value}
    (h : Value.optional name v = Value.optional name v') : v = v' := by
  have hnil : Value.optional name v ++ [] = Value.optional name v' ++ [] := by rw [h]
  exact (optional_append_inj (List.forall_mem_nil _) (List.forall_mem_nil _) hnil).1

/-- A member that may be left out has no other name. -/
theorem optional_ne {name other : String} (h : other ≠ name) (v : Option Value) :
    ∀ m ∈ Value.optional other v, m.1 ≠ name := by
  cases v with
  | none => exact List.forall_mem_nil _
  | some w => exact List.forall_mem_singleton.mpr h

theorem string_injective : Function.Injective Value.string := fun _ _ => Value.string.inj

/-- Integers are told apart by their values. -/
theorem uint16_injective : Function.Injective fun n : UInt16 => Value.int n.toNat := by
  intro n m h
  have hnat : n.toNat = m.toNat := by simpa [Value.int] using h
  exact UInt16.toNat_inj.mp hnat

theorem DescriptorRole.wire_injective : Function.Injective DescriptorRole.wire := by
  intro a b h
  cases a <;> cases b <;> first | rfl | exact absurd h (by decide)

theorem RemoteCommand.wire_injective : Function.Injective RemoteCommand.wire := by
  intro a b h
  cases a <;> cases b <;> first | rfl | exact absurd h (by decide)

theorem CommandArg.wire_injective : Function.Injective CommandArg.wire := by
  intro a b h
  cases a <;> cases b <;> first | rfl | exact absurd h (by decide)

/-- No two kinds have the same tag. -/
theorem SignalKind.wire_injective : Function.Injective SignalKind.wire := by
  intro a b h
  cases a <;> cases b <;> first | rfl | exact absurd h (by decide)

/-- Descriptions are told apart by their values. -/
theorem SessionDescriptor.toValue_injective : Function.Injective SessionDescriptor.toValue := by
  rintro ⟨role, sdp⟩ ⟨role', sdp'⟩ h
  simp only [toValue, Value.object.injEq, List.cons.injEq, Prod.mk.injEq, Value.string.injEq,
    true_and, and_true] at h
  obtain ⟨hrole, rfl⟩ := h
  rw [DescriptorRole.wire_injective hrole]

theorem Candidate.toValue_injective : Function.Injective Candidate.toValue := by
  rintro ⟨text, mid, line, fragment⟩ ⟨text', mid', line', fragment'⟩ h
  rw [toValue, toValue, List.append_assoc, List.append_assoc, List.append_assoc,
    List.append_assoc] at h
  obtain ⟨htext, hrest⟩ := List.cons.inj (Value.object.inj h)
  have hlater : ∀ line fragment : Option Value,
      ∀ m ∈ Value.optional "sdpMLineIndex" line ++ Value.optional "usernameFragment" fragment,
        m.1 ≠ "sdpMid" := fun line fragment =>
    List.forall_mem_append.mpr ⟨optional_ne (by decide) line, optional_ne (by decide) fragment⟩
  obtain ⟨hmid, hrest⟩ := optional_append_inj (hlater _ _) (hlater _ _) hrest
  obtain ⟨hline, hfragment⟩ :=
    optional_append_inj (optional_ne (by decide) _) (optional_ne (by decide) _) hrest
  obtain rfl : text = text' := Value.string.inj (Prod.mk.inj htext).2
  obtain rfl : mid = mid' := Option.map_injective string_injective hmid
  obtain rfl : line = line' := Option.map_injective uint16_injective hline
  obtain rfl : fragment = fragment' :=
    Option.map_injective string_injective (optional_inj hfragment)
  rfl

theorem controlValue_injective : Function.Injective ControlValue.toValue := by
  rintro ⟨id, value⟩ ⟨id', value'⟩ h
  simp only [ControlValue.toValue, Value.object.injEq, List.cons.injEq, Prod.mk.injEq, Value.int,
    Value.number.injEq, Number.int.injEq, true_and, and_true] at h
  obtain ⟨hid, hvalue⟩ := h
  obtain rfl : id = id' := UInt32.toNat_inj.mp (Int.ofNat_inj.mp hid)
  obtain rfl : value = value' := Int64.toInt_inj.mp hvalue
  rfl

/-! ## Messages

A text is read as one value, and the value of a message tells its kind and all of its fields. -/

namespace Envelope

/-- The messages this side sends: those of a negotiation, and those to the device. -/
def IsSpoken : Envelope → Prop
  | .sessionDescription _ | .candidate _ | .userControl _ _ | .command _ _ => True
  | _ => False

/-- What this side sends is plain. -/
theorem plain_toValue {e : Envelope} (h : e.IsSpoken) : e.toValue.Plain := by
  rw [toValue, plain_object]
  refine ⟨plain_string _, ?_⟩
  cases e with
  | sessionDescription d => exact ⟨d.plain_toValue, trivial⟩
  | candidate c => exact ⟨c.plain_toValue, trivial⟩
  | userControl data reset =>
    refine plainMembers_append.mpr ⟨plainMembers_optional ?_, plainMembers_optional ?_⟩
    · simp [plain_controlValue]
    · cases reset <;> simp
  | command cmd arg => exact ⟨plain_string _, plain_string _, trivial⟩
  | roster | iceServers | recordRefused => exact h.elim

/-- Messages are told apart by their values. -/
theorem toValue_inj {e e' : Envelope} (he : e.IsSpoken) (h : e.toValue = e'.toValue) : e = e' := by
  obtain ⟨htag, hfields⟩ := List.cons.inj (Value.object.inj h)
  have hkind : e.kind = e'.kind := SignalKind.wire_injective (Value.string.inj (Prod.mk.inj htag).2)
  cases e with
  | roster | iceServers | recordRefused => exact he.elim
  | sessionDescription d =>
    cases e' with
    | sessionDescription d' =>
      have hdata := (Prod.mk.inj (List.cons.inj hfields).1).2
      rw [SessionDescriptor.toValue_injective hdata]
    | _ => exact nomatch hkind
  | candidate c =>
    cases e' with
    | candidate c' =>
      have hdata := (Prod.mk.inj (List.cons.inj hfields).1).2
      rw [Candidate.toValue_injective hdata]
    | _ => exact nomatch hkind
  | userControl data reset =>
    cases e' with
    | userControl data' reset' =>
      obtain ⟨hdata, hreset⟩ :=
        optional_append_inj (optional_ne (by decide) _) (optional_ne (by decide) _) hfields
      have hflag : reset = reset' := by
        have hsame := optional_inj hreset
        cases reset <;> cases reset' <;> first | rfl | exact nomatch hsame
      rw [Option.map_injective controlValue_injective hdata, hflag]
    | _ => exact nomatch hkind
  | command cmd arg =>
    cases e' with
    | command cmd' arg' =>
      obtain ⟨hcmd, hrest⟩ := List.cons.inj hfields
      have harg := Value.string.inj (Prod.mk.inj (List.cons.inj hrest).1).2
      rw [RemoteCommand.wire_injective (Value.string.inj (Prod.mk.inj hcmd).2),
        CommandArg.wire_injective harg]
    | _ => exact nomatch hkind

/-- **No two messages this side sends have the same text.** -/
theorem eq_of_text_eq {e e' : Envelope} (he : e.IsSpoken) (he' : e'.IsSpoken)
    (h : e.text = e'.text) :
    e = e' :=
  toValue_inj he (Value.eq_of_text_eq (plain_toValue he) (plain_toValue he') h)

end Envelope

end CameraViewer.Signal
