import CameraViewer.Channel.Notice
import CameraViewer.Proofs.Signal.RoundTrip

/-!
# Proofs/Signal/Frames — what a text carries

A text of the relay that can be read carries a catalog, exactly if there is anything under `ctrls`,
and a message, exactly if its type is one of the known tags; the message is of the kind that the tag
names (`Carries`, `carries_iff`). A text of the device says a notice and a catalog (`Says`,
`says_iff`). One part that does not fit spoils the whole text.
-/

namespace CameraViewer

namespace Json

/-! ## Parts of an object -/

/-- The names in an object that was read differ. -/
theorem Value.distinct_of_read? {text : String} {members : List (String × Value)}
    (h : Value.read? text = some (.object members)) : Distinct members :=
  (Value.isRead_of_read? h).members.1

theorem text?_tree_eq_some_iff {v : Value} {s : String} :
    v.tree.text? = some s ↔ v = .string s := by
  cases v <;> simp [Value.tree, Tree.text?]

end Json

namespace Signal

open Json Control

variable {text : String} {members : List (String × Value)} {c : Option Catalog}
  {e : Option Envelope}

/-! ## Tags -/

/-- A kind is found by its tag, and by no other. -/
theorem SignalKind.ofWire?_eq_some_iff {tag : String} {k : SignalKind} :
    ofWire? tag = some k ↔ tag = k.wire := by
  refine ⟨fun h => ?_, fun h => h ▸ ofWire?_wire k⟩
  unfold ofWire? at h
  grind [wire]

/-- The fields of a kind make up a message of that kind. -/
theorem Envelope.kind_of_ofFields? {k : SignalKind} {t : Tree} {e : Envelope}
    (h : ofFields? k t = some e) : e.kind = k := by
  cases k <;> simp only [ofFields?, bind, Option.bind_eq_some_iff] at h <;>
    obtain ⟨fields, -, h⟩ := h <;> split at h <;>
    simp only [Option.bind_eq_some_iff, reduceCtorEq] at h
  all_goals grind [kind]

/-- **The message in an object is of the kind that its tag names.** -/
theorem Envelope.member?_type (hmembers : Distinct members) {e : Envelope}
    (h : ofTree? (Value.object members).tree = some e) :
    member? "type" members = some (.string e.kind.wire) := by
  rw [ofTree?] at h
  split at h
  · simp only [bind, Option.bind_eq_some_iff] at h
    obtain ⟨⟨tag, rest⟩, htagged, k, hk, hfields⟩ := h
    have htype : tag = k.wire := SignalKind.ofWire?_eq_some_iff.mp hk
    rw [kind_of_ofFields? hfields, ← htype]
    rw [Value.tree, Tree.tagged?, if_pos (all_isSome_treeMembers members)] at htagged
    simp only [bind, pure, Option.bind_some, Option.bind_eq_some_iff, Option.map_eq_some_iff,
      uniqueMember?_treeMembers _ hmembers] at htagged
    obtain ⟨_, ⟨v, hv, rfl⟩, name, hname, heq⟩ := htagged
    obtain ⟨rfl, -⟩ := Prod.mk.inj (Option.some.inj heq)
    rw [hv, text?_tree_eq_some_iff.mp hname]
  · cases h

/-! ## Texts of the relay

What a text carries is said without the parser (`Carries`, `Unfit`), and then the parser is shown to
find just that (`carries_iff`). -/

/-- What stands under `ctrls` in an object: nothing at all, or a catalog. -/
inductive HoldsCatalog (members : List (String × Value)) : Option Catalog → Prop
  | absent (h : member? "ctrls" members = none) : HoldsCatalog members none
  | found {raw : Value} {c : Catalog} (h : member? "ctrls" members = some raw)
    (hc : Catalog.ofTree? raw.tree = some c) : HoldsCatalog members (some c)

/-- The message of an object: none if its type is no known tag, else one of the kind of its tag. -/
inductive HoldsMessage (members : List (String × Value)) : Option Envelope → Prop
  | absent (h : ∀ k : SignalKind, member? "type" members ≠ some (.string k.wire)) :
    HoldsMessage members none
  | found {e : Envelope} (h : member? "type" members = some (.string e.kind.wire))
    (he : Envelope.ofTree? (Value.object members).tree = some e) : HoldsMessage members (some e)

/-- A text of the relay is an object with a catalog or a type, and what it carries are the catalog
and the message of that object. -/
def Carries (text : String) (c : Option Catalog) (e : Option Envelope) : Prop :=
  ∃ members, Value.read? text = some (.object members) ∧ HoldsCatalog members c
    ∧ HoldsMessage members e ∧ (c.isSome ∨ ∃ tag, member? "type" members = some (.string tag))

/-- What stands under `ctrls` is read as it is held. -/
theorem catalogIn_eq_ok_iff : catalogIn members = .ok c ↔ HoldsCatalog members c := by
  rw [catalogIn]
  constructor
  · intro h
    split at h
    · rename_i hctrls
      obtain rfl := Except.ok.inj h
      exact .absent hctrls
    · rename_i raw hctrls
      split at h
      · rename_i found hfound
        obtain rfl := Except.ok.inj h
        exact .found hctrls hfound
      · cases h
  · rintro (hctrls | ⟨hctrls, hfound⟩)
    · rw [hctrls]
    · simp [hctrls, hfound]

/-- The text under a name, where it is one. -/
def textUnder (name : String) (members : List (String × Value)) : Option String :=
  (member? name members).bind stringOf?

theorem textUnder_eq_some_iff {name s : String} :
    textUnder name members = some s ↔ member? name members = some (.string s) := by
  have hstring : ∀ v : Value, stringOf? v = some s ↔ v = .string s := fun v => by
    cases v <;> simp [stringOf?]
  simp [textUnder, Option.bind_eq_some_iff, hstring]

/-- The message of an object is read as it is held. -/
theorem envelopeIn_eq_ok_iff (hmembers : Distinct members) :
    envelopeIn members (textUnder "type" members) = .ok e ↔ HoldsMessage members e := by
  have hknown : ∀ k, (textUnder "type" members).bind SignalKind.ofWire? = some k
      ↔ member? "type" members = some (.string k.wire) := fun k => by
    simp [Option.bind_eq_some_iff, SignalKind.ofWire?_eq_some_iff, textUnder_eq_some_iff]
  rw [envelopeIn]
  constructor
  · intro h
    split at h
    · rename_i hunknown
      obtain rfl := Except.ok.inj h
      refine .absent fun k hk => ?_
      rw [(hknown k).mpr hk] at hunknown
      exact nomatch hunknown
    · split at h
      · rename_i found hfound
        obtain rfl := Except.ok.inj h
        exact .found (Envelope.member?_type hmembers hfound) hfound
      · exact nomatch h
  · rintro (hunknown | ⟨htype, hfound⟩)
    · have hnone : (textUnder "type" members).bind SignalKind.ofWire? = none :=
        Option.eq_none_iff_forall_ne_some.mpr fun k hk => hunknown k ((hknown k).mp hk)
      rw [hnone]
    · simp [(hknown _).mpr htype, hfound]

/-- A text has to be an object. -/
theorem objectOfText_eq_ok_iff :
    objectOfText text = .ok members ↔ Value.read? text = some (.object members) := by
  rw [objectOfText]
  split <;> simp_all

/-- A computation that may fail succeeds if both of its parts do. -/
theorem bind_eq_ok_iff {ε α β : Type} {x : Except ε α} {f : α → Except ε β} {b : β} :
    (x >>= f) = .ok b ↔ ∃ a, x = .ok a ∧ f a = .ok b := by
  cases x <;> simp [bind, Except.bind]

/-- A frame has to have a type or a catalog. -/
theorem not_missing_iff : ¬ ((textUnder "type" members).isNone ∧ c.isNone)
    ↔ c.isSome ∨ ∃ tag, member? "type" members = some (.string tag) := by
  simp only [← textUnder_eq_some_iff, ← Option.isSome_iff_exists]
  cases textUnder "type" members <;> cases c <;> simp

/-- The reader, step by step. -/
theorem Frame.read_eq (text : String) : Frame.read text = do
    let members ← objectOfText text
    let catalog ← catalogIn members
    if (textUnder "type" members).isNone ∧ catalog.isNone then .error .missingType else pure ()
    let envelope ← envelopeIn members (textUnder "type" members)
    return ⟨textUnder "type" members, envelope, catalog⟩ := rfl

/-- **A text of the relay is read exactly if it carries something**, and just that is found. -/
theorem carries_iff : Carries text c e ↔ ∃ tag, Frame.read text = .ok ⟨tag, e, c⟩ := by
  constructor
  · rintro ⟨members, hread, hc, he, hany⟩
    have hobject := objectOfText_eq_ok_iff.mpr hread
    have hcatalog := catalogIn_eq_ok_iff.mpr hc
    have hmessage := (envelopeIn_eq_ok_iff (Value.distinct_of_read? hread)).mpr he
    refine ⟨textUnder "type" members, ?_⟩
    rw [Frame.read_eq, hobject]
    simp only [bind, Except.bind, pure, Except.pure, hcatalog, if_neg (not_missing_iff.mpr hany),
      hmessage]
  · rintro ⟨tag, h⟩
    simp only [Frame.read_eq, bind_eq_ok_iff, objectOfText_eq_ok_iff, catalogIn_eq_ok_iff] at h
    obtain ⟨members, hread, found, hc, h⟩ := h
    split at h
    · obtain ⟨_, herror, -⟩ := bind_eq_ok_iff.mp h
      exact nomatch herror
    · rename_i hany
      obtain ⟨message, hmessage, heq⟩ := bind_eq_ok_iff.mp h
      obtain ⟨rfl, rfl, rfl⟩ := Frame.mk.inj (Except.ok.inj heq)
      have he := (envelopeIn_eq_ok_iff (Value.distinct_of_read? hread)).mp hmessage
      exact ⟨members, hread, hc, he, not_missing_iff.mp hany⟩

/-- What a text carries is one thing. -/
theorem carries_unique {c' : Option Catalog} {e' : Option Envelope} (h : Carries text c e)
    (h' : Carries text c' e') : c = c' ∧ e = e' := by
  obtain ⟨tag, hread⟩ := carries_iff.mp h
  obtain ⟨tag', hread'⟩ := carries_iff.mp h'
  obtain ⟨-, he, hc⟩ := Frame.mk.inj (Except.ok.inj (hread.symm.trans hread'))
  exact ⟨hc, he⟩

/-- Members that are no frame: something is wrong under `ctrls`, or with the fields of a known tag,
or there is neither a catalog nor a type. -/
inductive Unfit (members : List (String × Value)) : Prop
  | catalog {raw : Value} (h : member? "ctrls" members = some raw)
    (hc : Catalog.ofTree? raw.tree = none)
  | message {k : SignalKind} (h : member? "type" members = some (.string k.wire))
    (he : Envelope.ofTree? (Value.object members).tree = none)
  | missing (h : member? "ctrls" members = none)
    (htype : ∀ tag, member? "type" members ≠ some (.string tag))

theorem exists_holdsCatalog (h : ¬ Unfit members) : ∃ c, HoldsCatalog members c := by
  cases hctrls : member? "ctrls" members with
  | none => exact ⟨none, .absent hctrls⟩
  | some raw =>
    cases hc : Catalog.ofTree? raw.tree with
    | none => exact absurd (.catalog hctrls hc) h
    | some c => exact ⟨some c, .found hctrls hc⟩

theorem exists_holdsMessage (hmembers : Distinct members) (h : ¬ Unfit members) :
    ∃ e, HoldsMessage members e := by
  by_cases hknown : ∃ k : SignalKind, member? "type" members = some (.string k.wire)
  · obtain ⟨k, hk⟩ := hknown
    cases he : Envelope.ofTree? (Value.object members).tree with
    | none => exact absurd (.message hk he) h
    | some e => exact ⟨some e, .found (Envelope.member?_type hmembers he) he⟩
  · exact ⟨none, .absent (not_exists.mp hknown)⟩

/-- **A text carries nothing exactly if it is no object or an unfit one**: a part that does not fit
spoils the others. -/
theorem carries_nothing_iff : (∀ c e, ¬ Carries text c e)
    ↔ ∀ members, Value.read? text = some (.object members) → Unfit members := by
  constructor
  · intro h members hread
    by_contra hfit
    obtain ⟨c, hc⟩ := exists_holdsCatalog hfit
    obtain ⟨e, he⟩ := exists_holdsMessage (Value.distinct_of_read? hread) hfit
    have hany := not_or.mp fun hany => h c e ⟨members, hread, hc, he, hany⟩
    cases hc with
    | absent hctrls => exact hfit (.missing hctrls (not_exists.mp hany.2))
    | found => exact hany.1 rfl
  · rintro h c e ⟨members, hread, hc, he, hany⟩
    rcases h members hread with ⟨hctrls, hwrong⟩ | ⟨htype, hwrong⟩ | ⟨hctrls, htype⟩
    · cases hc with
      | absent hnone => exact nomatch hctrls.symm.trans hnone
      | found hfound hright =>
        obtain rfl := Option.some.inj (hctrls.symm.trans hfound)
        exact nomatch hwrong.symm.trans hright
    · cases he with
      | absent hnone => exact hnone _ htype
      | found hfound hright => exact nomatch hwrong.symm.trans hright
    · rcases hany with hsome | ⟨tag, htag⟩
      · cases hc with
        | absent => exact nomatch hsome
        | found hfound => exact nomatch hctrls.symm.trans hfound
      · exact htype tag htag

-- A catalog that fits is lost with a description that has no fields, and a roster with a catalog
-- that
-- is a list.
example : Unfit [("ctrls", .object []), ("type", .string "sdp")] :=
  .message (k := .sessionDescription) rfl rfl

example : Unfit [("ctrls", .array []), ("data", .array []), ("type", .string "users")] :=
  .catalog rfl rfl

end Signal

namespace Channel

open Json Control Signal

variable {text : String} {c : Option Catalog} {notice : Option String}

/-! ## Texts of the device -/

/-- A text of the device is an object, and what it says are the notice and the catalog of that
object. -/
def Says (text : String) (notice : Option String) (c : Option Catalog) : Prop :=
  ∃ members, Value.read? text = some (.object members)
    ∧ (∀ message, notice = some message ↔ member? "notify" members = some (.string message))
    ∧ HoldsCatalog members c

/-- What is said in a text, one by one, the notice first. -/
def sayings (notice : Option String) (c : Option Catalog) : List ChannelNotice :=
  (notice.map .notify).toList ++ (c.map .catalog).toList

/-- What is said tells the notice and the catalog apart. -/
theorem sayings_inj {notice notice' : Option String} {c c' : Option Catalog} :
    sayings notice c = sayings notice' c' ↔ notice = notice' ∧ c = c' := by
  cases notice <;> cases notice' <;> cases c <;> cases c' <;> simp [sayings]

theorem ChannelNotice.read_eq (text : String) : read text = do
    let members ← objectOfText text
    let c ← catalogIn members
    return sayings (textUnder "notify" members) c := by
  rw [read]
  refine bind_congr fun members => bind_congr fun c => ?_
  rw [← textUnder]
  cases textUnder "notify" members <;> cases c <;> rfl

/-- What is found in a text is a notice and a catalog. -/
theorem ChannelNotice.exists_sayings {ns : List ChannelNotice} (h : read text = .ok ns) :
    ∃ notice c, ns = sayings notice c := by
  simp only [read_eq, bind_eq_ok_iff] at h
  obtain ⟨members, -, c, -, heq⟩ := h
  exact ⟨_, c, (Except.ok.inj heq).symm⟩

/-- **A text of the device is read exactly if it says something**, and just that is found. -/
theorem says_iff : Says text notice c ↔ ChannelNotice.read text = .ok (sayings notice c) := by
  simp only [ChannelNotice.read_eq, bind_eq_ok_iff, objectOfText_eq_ok_iff, catalogIn_eq_ok_iff]
  constructor
  · rintro ⟨members, hread, hnotice, hc⟩
    have heq : notice = textUnder "notify" members := Option.ext fun message => by
      rw [textUnder_eq_some_iff]
      exact hnotice message
    exact ⟨members, hread, c, hc, heq ▸ rfl⟩
  · rintro ⟨members, hread, found, hc, heq⟩
    obtain ⟨rfl, rfl⟩ := sayings_inj.mp (Except.ok.inj heq)
    exact ⟨members, hread, fun _ => textUnder_eq_some_iff, hc⟩

end Channel

end CameraViewer
