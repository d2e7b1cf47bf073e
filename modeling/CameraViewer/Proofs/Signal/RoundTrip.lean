import CameraViewer.Proofs.Signal.Decoding
import CameraViewer.Signal.Frame

/-!
# Proofs/Signal/RoundTrip — a frame gives back what was put into it

A frame is written as one object: the members of a message, a catalog under `ctrls` if there is one,
and whatever else shall travel along. `Frame.read_text`: its text is read as just that message and
that catalog, in whichever order the members stand. What carries this is that a member is found by
its name alone (`member?_perm`) and that no name is used twice.
-/

namespace CameraViewer

namespace Json

variable {β : Type}

/-! ## Members in any order -/

/-- **What a name stands for does not depend on the order of the members.** -/
theorem member?_perm (name : String) {members others : List (String × β)} (h : Distinct others)
    (hperm : members.Perm others) : member? name members = member? name others := by
  have hmembers : Distinct members := (hperm.map Prod.fst).nodup_iff.mpr h
  ext value
  rw [member?_eq_some_iff hmembers, member?_eq_some_iff h, hperm.mem_iff]

/-- Two groups without a common name are distinct together. -/
theorem Distinct.append {members others : List (String × β)} (h : Distinct members)
    (hothers : Distinct others) (hne : ∀ m ∈ members, ∀ n ∈ others, m.1 ≠ n.1) :
    Distinct (members ++ others) := by
  rw [Distinct, List.map_append, List.nodup_append]
  refine ⟨h, hothers, fun a ha b hb => ?_⟩
  obtain ⟨m, hm, rfl⟩ := List.mem_map.mp ha
  obtain ⟨n, hn, rfl⟩ := List.mem_map.mp hb
  exact hne m hm n hn

/-- Dropping one name leaves what the others stand for. -/
theorem member?_filter_ne {name other : String} (h : name ≠ other) (members : List (String × β)) :
    member? name (members.filter (·.1 ≠ other)) = member? name members := by
  induction members with
  | nil => rfl
  | cons m rest ih =>
    rw [List.filter_cons]
    split
    · rw [member?, member?, ih]
    · rename_i hother
      have hm : m.1 = other := by simpa using hother
      rw [ih, member?, if_neg (fun heq => h (heq.symm.trans hm))]

theorem filter_treeMembers (other : String) (members : List (String × Value)) :
    (treeMembers members).filter (·.1 ≠ some other)
      = treeMembers (members.filter (·.1 ≠ other)) := by
  rw [treeMembers_eq_map, treeMembers_eq_map, List.filter_map]
  simp [Function.comp_def]

end Json

namespace Signal

open Json Control

/-! ## Messages -/

/-- The names of the fields of a kind. -/
def SignalKind.fieldNames : SignalKind → List String
  | .userControl => ["data", "reset"]
  | .command => ["cmd", "arg"]
  | .iceServers => ["iceServers"]
  | .sessionDescription | .candidate | .roster | .recordRefused => ["data"]

theorem SignalKind.ofWire?_wire (k : SignalKind) : ofWire? k.wire = some k := by
  cases k <;> rfl

namespace Envelope

/-- A message tells only fields of its kind. -/
theorem keys_fields (e : Envelope) : (e.fields.map Prod.fst).Sublist e.kind.fieldNames := by
  cases e with
  | userControl data reset =>
    exact keys_append (keys_optional "data" (data.map ControlValue.toValue))
      (keys_optional "reset" (if reset then some (.bool true) else none))
  | _ => exact List.Sublist.refl _

/-- A message that documents can hold: the reason of a refusal is a value without doubles, its
objects sorted. -/
def Tellable : Envelope → Prop
  | .recordRefused data => data.Plain ∧ data.Canonical
  | _ => True

/-- **A message is found in its fields**, once they are told apart. -/
theorem ofFields?_of_record {e : Envelope} (he : e.Tellable)
    (hdepth : ∀ m ∈ e.fields, m.2.depth ≤ depthLimit) {t : Tree}
    (h : t.record? e.kind.fieldNames
      = some (e.kind.fieldNames.map fun name => (member? name e.fields).map Value.rereadTree)) :
    ofFields? e.kind t = some e := by
  cases e with
  | sessionDescription data =>
    simp only [kind, SignalKind.fieldNames, fields] at h ⊢
    simp [ofFields?, h, member?, SessionDescriptor.ofTree?_rereadTree]
  | candidate data =>
    simp only [kind, SignalKind.fieldNames, fields] at h ⊢
    simp [ofFields?, h, member?, Candidate.ofTree?_rereadTree]
  | userControl data reset =>
    have hdata := optionalField_map ControlValue.ofTree?_rereadTree rfl data
    simp only [kind, SignalKind.fieldNames, fields] at h ⊢
    cases reset <;>
      simp [-Option.map_map, ofFields?, h, member?_append, hdata, orDefault, Tree.flag?]
  | command cmd arg =>
    simp only [kind, SignalKind.fieldNames, fields] at h ⊢
    simp [ofFields?, h, member?, RemoteCommand.ofTree?_wire, CommandArg.ofTree?_wire]
  | roster data =>
    simp only [kind, SignalKind.fieldNames, fields] at h ⊢
    simp [ofFields?, h, member?, list?_rereadTree RosterEntry.ofTree?_rereadTree]
  | iceServers servers =>
    simp only [kind, SignalKind.fieldNames, fields] at h ⊢
    simp [ofFields?, h, member?, IceServerList.ofTree?_rereadTree]
  | recordRefused data =>
    have hdata : data.rereadTree.value? depthLimit = some data := by
      have hvalue := Value.value?_written he.1.storable (hdepth ("data", data) (by simp [fields]))
      rw [Value.written_eq_tree he.1, Value.reread_eq_self he.1 he.2] at hvalue
      rwa [Value.rereadTree, Value.reread_eq_self he.1 he.2]
    simp only [kind, SignalKind.fieldNames, fields] at h ⊢
    simp [ofFields?, h, member?, hdata]

theorem type_not_mem_fieldNames (k : SignalKind) : "type" ∉ k.fieldNames := by
  cases k <;> decide

/-- An object is decoded by its tag, from the fields that its kind has. -/
theorem ofTree?_of_tag {members : List (String × Value)} (hmembers : Distinct members)
    (hread : (Value.object members).tree.isReadable) {k : SignalKind}
    (htag : member? "type" members = some (.string k.wire)) :
    ∃ rest : Tree, rest.record? k.fieldNames
        = some (k.fieldNames.map fun name => (member? name members).map Value.tree)
      ∧ ofTree? (Value.object members).tree = ofFields? k rest := by
  have hrest : Distinct (members.filter (·.1 ≠ "type")) :=
    hmembers.sublist (List.filter_sublist.map Prod.fst)
  have htagged : (Value.object members).tree.tagged?
      = some (k.wire, (Value.object (members.filter (·.1 ≠ "type"))).tree) := by
    rw [Value.tree, Value.tree, ← filter_treeMembers, Tree.tagged?, all_isSome_treeMembers,
      uniqueMember?_treeMembers _ hmembers, htag]
    rfl
  refine ⟨(Value.object (members.filter (·.1 ≠ "type"))).tree, ?_, ?_⟩
  · rw [record?_tree _ hrest]
    refine congrArg some (List.map_congr_left fun name hname => ?_)
    have hne : name ≠ "type" := fun heq => type_not_mem_fieldNames k (heq ▸ hname)
    rw [member?_filter_ne hne]
  · rw [ofTree?, hread, htagged]
    generalize (Value.object (members.filter (·.1 ≠ "type"))).tree = record
    simp [SignalKind.ofWire?_wire]

/-- **A message is found in every object that has its tag and its fields**, whatever else is in it.
-/
theorem ofTree?_tree {e : Envelope} (he : e.Tellable)
    (hdepth : ∀ m ∈ e.fields, m.2.depth ≤ depthLimit) {members : List (String × Value)}
    (hmembers : Distinct members) (hread : (Value.object members).tree.isReadable)
    (htag : member? "type" members = some (.string e.kind.wire))
    (hfields : ∀ name ∈ e.kind.fieldNames,
      member? name members = (member? name e.fields).map Value.reread) :
    ofTree? (Value.object members).tree = some e := by
  obtain ⟨rest, hrest, hdecode⟩ := ofTree?_of_tag hmembers hread htag
  rw [hdecode]
  refine ofFields?_of_record he hdepth (hrest.trans ?_)
  refine congrArg some (List.map_congr_left fun name hname => ?_)
  rw [hfields name hname, Option.map_map]
  rfl

/-- What is told in a message are integers and texts. -/
theorem plain_fields {e : Envelope} (he : e.Tellable) : PlainMembers e.fields := by
  cases e with
  | roster data => exact ⟨plain_array_map RosterEntry.plain_toValue data, trivial⟩
  | iceServers servers => exact ⟨servers.plain_toValue, trivial⟩
  | recordRefused data => exact ⟨he.1, trivial⟩
  | sessionDescription d => exact ⟨d.plain_toValue, trivial⟩
  | candidate c => exact ⟨c.plain_toValue, trivial⟩
  | userControl data reset => exact (plain_object.mp (plain_toValue (by trivial))).2
  | command cmd arg => exact ⟨plain_string _, plain_string _, trivial⟩

end Envelope

/-! ## Frames

A frame holds more than the message, so all of it has to keep off the names of the fields. -/

/-- The members of a frame: those of a message, a catalog, and what else travels along. -/
def Envelope.frameMembers (e : Envelope) (c : Option Catalog) (further : List (String × Value)) :
    List (String × Value) :=
  ("type", .string e.kind.wire)
    :: (e.fields ++ (Value.optional "ctrls" (c.map Catalog.toValue) ++ further))

/-- Members that may travel along with a message: distinct ones, under none of the names that it or
the catalog uses. -/
structure Envelope.Leaves (e : Envelope) (further : List (String × Value)) : Prop where
  distinct : Distinct further
  notType : ∀ m ∈ further, m.1 ≠ "type"
  notCatalog : ∀ m ∈ further, m.1 ≠ "ctrls"
  notField : ∀ m ∈ further, m.1 ∉ e.kind.fieldNames
  storable : StorableMembers further

variable {e : Envelope} {c : Option Catalog} {further members : List (String × Value)}

theorem ctrls_not_mem_fieldNames (k : SignalKind) : "ctrls" ∉ k.fieldNames := by
  cases k <;> decide

theorem Envelope.fst_mem_fieldNames {m : String × Value} (h : m ∈ e.fields) :
    m.1 ∈ e.kind.fieldNames :=
  e.keys_fields.subset (List.mem_map.mpr ⟨m, h, rfl⟩)

theorem nodup_fieldNames (k : SignalKind) : k.fieldNames.Nodup := by
  cases k <;> decide

theorem fst_of_mem_optional {name : String} {v : Option Value} {m : String × Value}
    (h : m ∈ Value.optional name v) : m.1 = name := by
  by_contra hne
  exact optional_ne (Ne.symm hne) v m h rfl

/-- **No name is used twice in a frame.** -/
theorem Envelope.Leaves.distinct_frameMembers (h : e.Leaves further) (c : Option Catalog) :
    Distinct (e.frameMembers c further) := by
  have hfields : Distinct e.fields := .of_sublist e.keys_fields (nodup_fieldNames e.kind)
  have hcatalog : Distinct (Value.optional "ctrls" (c.map Catalog.toValue)) :=
    .of_sublist (keys_optional _ _) (by decide)
  have htail : Distinct (Value.optional "ctrls" (c.map Catalog.toValue) ++ further) :=
    hcatalog.append h.distinct fun m hm n hn heq =>
      h.notCatalog n hn (heq.symm.trans (fst_of_mem_optional hm))
  have hrest : Distinct
      (e.fields ++ (Value.optional "ctrls" (c.map Catalog.toValue) ++ further)) := by
    refine hfields.append htail fun m hm n hn heq => ?_
    have hname := fst_mem_fieldNames hm
    rcases List.mem_append.mp hn with hn | hn
    · exact ctrls_not_mem_fieldNames e.kind (fst_of_mem_optional hn ▸ heq ▸ hname)
    · exact h.notField n hn (heq ▸ hname)
  refine List.nodup_cons.mpr ⟨fun hmem => ?_, hrest⟩
  obtain ⟨m, hm, hname : m.1 = "type"⟩ := List.mem_map.mp hmem
  rcases List.mem_append.mp hm with hm | hm
  · exact type_not_mem_fieldNames e.kind (hname ▸ fst_mem_fieldNames hm)
  · rcases List.mem_append.mp hm with hm | hm
    · exact absurd (hname.symm.trans (fst_of_mem_optional hm)) (by decide)
    · exact h.notType m hm hname

/-- Under the name of a field stands what the message says there. -/
theorem Envelope.Leaves.member?_field (h : e.Leaves further) (c : Option Catalog) {name : String}
    (hname : name ∈ e.kind.fieldNames) :
    member? name (e.frameMembers c further) = member? name e.fields := by
  have htype : ¬ "type" = name := fun heq => type_not_mem_fieldNames e.kind (heq ▸ hname)
  have hcatalog : ¬ "ctrls" = name := fun heq => ctrls_not_mem_fieldNames e.kind (heq ▸ hname)
  have hfurther : member? name further = none :=
    member?_eq_none fun m hm heq => h.notField m hm (heq ▸ hname)
  rw [frameMembers, member?, if_neg htype, member?_append, member?_append, member?_optional,
    if_neg hcatalog, hfurther, Option.or_none, Option.or_none]

/-- Under `ctrls` stands the catalog. -/
theorem Envelope.Leaves.member?_catalog (h : e.Leaves further) (c : Option Catalog) :
    member? "ctrls" (e.frameMembers c further) = c.map Catalog.toValue := by
  have hfields : member? "ctrls" e.fields = none := member?_eq_none fun m hm heq =>
    ctrls_not_mem_fieldNames e.kind (heq ▸ fst_mem_fieldNames hm)
  have hfurther : member? "ctrls" further = none := member?_eq_none h.notCatalog
  rw [frameMembers, member?, if_neg (by decide), member?_append, member?_append, member?_optional,
    if_pos rfl, hfields, hfurther, Option.none_or, Option.or_none]

theorem storableMembers_append {ms ns : List (String × Value)} :
    StorableMembers (ms ++ ns) ↔ StorableMembers ms ∧ StorableMembers ns := by
  simp only [storableMembers_iff, List.mem_append, or_imp, forall_and]

theorem Envelope.Leaves.storable_frameMembers (h : e.Leaves further) (he : e.Tellable)
    (c : Option Catalog) : StorableMembers (e.frameMembers c further) := by
  have hcatalog : PlainMembers (Value.optional "ctrls" (c.map Catalog.toValue)) :=
    plainMembers_optional (by simp [Catalog.plain_toValue])
  have htag : (Value.string e.kind.wire).Plain := plain_string _
  refine ⟨htag.storable, storableMembers_append.mpr ⟨(plain_fields he).storable, ?_⟩⟩
  exact storableMembers_append.mpr ⟨hcatalog.storable, h.storable⟩

/-- **A frame gives back what was put into it**, in whichever order its members stand. -/
theorem Frame.read_text (he : e.Tellable) (h : e.Leaves further)
    (hperm : members.Perm (e.frameMembers c further))
    (hdepth : (Value.object members).depth ≤ depthLimit) :
    Frame.read (Value.object members).text = .ok ⟨some e.kind.wire, some e, c⟩ := by
  have hdistinct : Distinct members :=
    (hperm.map Prod.fst).nodup_iff.mpr (h.distinct_frameMembers c)
  have hstorable : (Value.object members).Storable := by
    rw [Value.Storable, storableMembers_iff]
    exact fun m hm => storableMembers_iff.mp (h.storable_frameMembers he c) m (hperm.mem_iff.mp hm)
  have hmembers : objectOfText (Value.object members).text
      = .ok (canonicalMembers (rereadMembers members)) := by
    rw [objectOfText, Value.read?_text hstorable hdepth, Value.reread]
  have hfound : ∀ name, member? name (canonicalMembers (rereadMembers members))
      = (member? name (e.frameMembers c further)).map Value.reread := fun name => by
    rw [member?_reread_members name hdistinct, member?_perm name (h.distinct_frameMembers c) hperm]
  have hread : (Value.object (canonicalMembers (rereadMembers members))).tree.isReadable := by
    have hreadable := Value.isReadable_tree_reread hstorable hdepth
    rwa [Value.reread] at hreadable
  have hfields : ∀ m ∈ e.fields, m.2.depth ≤ depthLimit := fun m hm => by
    have hmem : m ∈ members :=
      hperm.mem_iff.mpr (List.mem_cons_of_mem _ (List.mem_append_left _ hm))
    rw [Value.depth] at hdepth
    exact depthMembers_le_iff.mp (Nat.le_of_succ_le hdepth) m hmem
  have hdistinctRead := distinct_canonicalMembers (rereadMembers members)
  generalize canonicalMembers (rereadMembers members) = found at *
  have htag : member? "type" found = some (.string e.kind.wire) := by
    rw [hfound, Envelope.frameMembers, member?, if_pos rfl, Option.map_some, Value.reread]
  have hcatalog : catalogIn found = .ok c := by
    rw [catalogIn, hfound, h.member?_catalog]
    cases c with
    | none => rfl
    | some c =>
      have hc : Catalog.ofTree? c.toValue.reread.tree = some c := Catalog.ofTree?_rereadTree c
      simp [hc]
  have henvelope : envelopeIn found (some e.kind.wire) = .ok (some e) := by
    have he' := Envelope.ofTree?_tree he hfields hdistinctRead hread htag fun name hname => by
      rw [hfound, h.member?_field c hname]
    simp [envelopeIn, SignalKind.ofWire?_wire, he']
  have hstring : (member? "type" found).bind stringOf? = some e.kind.wire := by
    rw [htag]
    rfl
  simp [Frame.read, hmembers, bind, Except.bind, pure, Except.pure, hstring, hcatalog, henvelope]

theorem Envelope.leaves_nil (e : Envelope) : e.Leaves [] where
  distinct := List.nodup_nil
  notType := List.forall_mem_nil _
  notCatalog := List.forall_mem_nil _
  notField := List.forall_mem_nil _
  storable := trivial

/-- **A frame gives back what was put into it**: the message and the catalog, in whichever order the
members stand and whatever travels along. In particular the text of a message is read as that
message. -/
theorem Frame.read_frameMembers (he : e.Tellable) (h : e.Leaves further)
    (hperm : members.Perm (e.frameMembers c further))
    (hdepth : (Value.object members).depth ≤ depthLimit) :
    Frame.read (Value.object members).text = .ok ⟨some e.kind.wire, some e, c⟩
      ∧ Frame.read e.text = .ok ⟨some e.kind.wire, some e, none⟩ := by
  refine ⟨read_text he h hperm hdepth, ?_⟩
  have hown : (("type", Value.string e.kind.wire) :: e.fields).Perm (e.frameMembers none []) := by
    simp [Envelope.frameMembers, Value.optional]
  refine read_text he e.leaves_nil hown ?_
  have hsub : ∀ m ∈ ("type", Value.string e.kind.wire) :: e.fields, m ∈ members := fun m hm =>
    hperm.mem_iff.mpr (by
      rcases List.mem_cons.mp hm with rfl | hm
      · exact List.mem_cons_self
      · exact List.mem_cons_of_mem _ (List.mem_append_left _ hm))
  rw [Value.depth] at hdepth ⊢
  have hlimit := depthMembers_le_iff.mp (Nat.le_of_lt_succ hdepth)
  exact Nat.succ_le_of_lt (Nat.lt_succ_of_le
    (depthMembers_le_iff.mpr fun m hm => hlimit m (hsub m hm)))

/-- A refusal with a reason of its own. -/
def sampleRefusal : Envelope :=
  .recordRefused (.object [("code", .int (-5)), ("reasons", .array [.string "full", .null])])

/-- A catalog of one control. -/
def sampleCatalog : Catalog :=
  Catalog.ofList [("brightness", ⟨9963776, -10, 10, 1, 0, 1, some 3, 0⟩)]

/-- What travels along: one and a half, and an object. -/
def sampleFurther : List (String × Value) :=
  [("ratio", .number (.float false ⟨6755399441055744, -52⟩)), ("origin", .object [("host", .null)])]

/-- The members in reverse. -/
theorem Frame.read_frameMembers_reverse :
    Frame.read (Value.object
        (sampleRefusal.frameMembers (some sampleCatalog) sampleFurther).reverse).text
      = .ok ⟨some "record", some sampleRefusal, some sampleCatalog⟩
      ∧ Frame.read sampleRefusal.text = .ok ⟨some "record", some sampleRefusal, none⟩ := by
  have he : sampleRefusal.Tellable := by
    constructor
    · simp [Value.Plain, PlainMembers, PlainItems, IsWord]
    · rw [Value.Canonical]
      refine ⟨by unfold Ascending; decide, ?_⟩
      simp [Value.Canonical, CanonicalMembers, CanonicalItems, Value.int]
  have h : sampleRefusal.Leaves sampleFurther := by
    have hfinite : (⟨6755399441055744, -52⟩ : Binary64).Finite := by decide
    refine ⟨by decide, by decide, by decide, by decide, ?_⟩
    simp [sampleFurther, StorableMembers, Value.Storable, Number.Storable, hfinite]
  exact Frame.read_frameMembers he h (List.reverse_perm _) (by decide)

end Signal

end CameraViewer
