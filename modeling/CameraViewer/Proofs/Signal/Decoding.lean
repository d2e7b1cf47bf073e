import CameraViewer.Proofs.Json.Records
import CameraViewer.Proofs.Signal.Texts

/-!
# Proofs/Signal/Decoding — what is told in a message is found in it again

Each record of a message is decoded from the document that is read where it was written, one lemma
for each type: what was left out is found as missing. None of them holds a double.
-/

namespace CameraViewer

namespace Json

/-! ## Leaves -/

@[simp] theorem rereadTree_string (s : String) :
    (Value.string s).rereadTree = .string (some s) := by
  rw [Value.rereadTree, Value.reread, Value.tree]

@[simp] theorem rereadTree_bool (b : Bool) : (Value.bool b).rereadTree = .bool b := by
  rw [Value.rereadTree, Value.reread, Value.tree]

/-- An integer of 64 bits is read as itself. -/
theorem rereadTree_int {n : ℤ} (h : IsWord n) :
    (Value.int n).rereadTree = .number (some (.int n)) := by
  rw [Value.rereadTree, Value.reread_eq_self (plain_int.mpr h)
    (by simp [Value.int, Value.Canonical]),
    Value.int, Value.tree]

theorem text?_string (s : String) : (Value.string s).rereadTree.text? = some s := by
  rw [rereadTree_string, Tree.text?]

/-- An integer of 16 bits is decoded at that width. -/
theorem uint16?_int (n : UInt16) : (Value.int n.toNat).rereadTree.uint16? = some n := by
  have hlt := n.toNat_lt
  have hn : (0 : ℤ) ≤ (n.toNat : ℤ) ∧ (n.toNat : ℤ) < UInt16.size := by rw [UInt16.size]; omega
  rw [rereadTree_int (Signal.isWord_uint16 n), Tree.uint16?, Tree.natBelow?, Tree.int?,
    Option.bind_some, if_pos hn, Option.map_some, Int.toNat_natCast, UInt16.ofNat_toNat]

theorem uint32?_int (n : UInt32) : (Value.int n.toNat).rereadTree.uint32? = some n := by
  have hlt := n.toNat_lt
  have hn : (0 : ℤ) ≤ (n.toNat : ℤ) ∧ (n.toNat : ℤ) < UInt32.size := by rw [UInt32.size]; omega
  rw [rereadTree_int (Signal.isWord_uint32 n), Tree.uint32?, Tree.natBelow?, Tree.int?,
    Option.bind_some, if_pos hn, Option.map_some, Int.toNat_natCast, UInt32.ofNat_toNat]

theorem int64?_int (n : Int64) : (Value.int n.toInt).rereadTree.int64? = some n := by
  have hn : -0x8000000000000000 ≤ n.toInt ∧ n.toInt < 0x8000000000000000 :=
    ⟨n.le_toInt, n.toInt_lt⟩
  rw [rereadTree_int (Signal.isWord_int64 n), Tree.int64?, Tree.int?, Option.bind_some, if_pos hn,
    Int64.ofInt_toInt]

/-! ## Members that may be left out

A field at its default is not told, and what is not told is decoded as the default. -/

/-- A member that may be left out stands under its own name. -/
@[simp] theorem member?_optional (name other : String) (v : Option Value) :
    member? name (Value.optional other v) = if other = name then v else none := by
  cases v with
  | none => simp [Value.optional, member?]
  | some w => rfl

/-- Keys among distinct names are distinct. -/
theorem Distinct.of_sublist {β : Type} {members : List (String × β)} {names : List String}
    (h : (members.map Prod.fst).Sublist names) (hnames : names.Nodup) : Distinct members :=
  hnames.sublist h

/-- A member that may be left out has no other key than its name. -/
theorem keys_optional (name : String) (v : Option Value) :
    ((Value.optional name v).map Prod.fst).Sublist [name] := by
  cases v with
  | none => exact List.nil_sublist _
  | some w => exact List.Sublist.refl _

/-- The keys of two groups of members come from the names of both. -/
theorem keys_append {β : Type} {members others : List (String × β)} {names more : List String}
    (h : (members.map Prod.fst).Sublist names) (hothers : (others.map Prod.fst).Sublist more) :
    ((members ++ others).map Prod.fst).Sublist (names ++ more) := by
  rw [List.map_append]
  exact h.append hothers

/-- A part that may be `null` is decoded where it is none. -/
theorem nullable?_of_decode {α : Type} {decode : Tree → Option α} (hnull : decode .null = none)
    {t : Tree} {a : α} (h : decode t = some a) : t.nullable? decode = some (some a) := by
  cases t with
  | null => rw [hnull] at h; exact nomatch h
  | _ => simp [Tree.nullable?, h]

/-! ## Plain lists

Each part of a message is found in the document of its value, one lemma for each kind of part. -/

theorem plainItems_map {α : Type} {encode : α → Value} (h : ∀ a, (encode a).Plain)
    (items : List α) :
    PlainItems (items.map encode) := by
  induction items with
  | nil => trivial
  | cons a rest ih => exact ⟨h a, ih⟩

theorem plain_array_map {α : Type} {encode : α → Value} (h : ∀ a, (encode a).Plain)
    (items : List α) : (Value.array (items.map encode)).Plain := by
  rw [Value.Plain]; exact plainItems_map h items

end Json

namespace Control

open Json Signal

/-- A value of a control is found as it was told. -/
theorem ControlValue.ofTree?_rereadTree (v : ControlValue) :
    ControlValue.ofTree? v.toValue.rereadTree = some v := by
  have hkeys : Distinct [("id", Value.int v.id.toNat), ("value", Value.int v.value.toInt)] :=
    .of_sublist (List.Sublist.refl ["id", "value"]) (by decide)
  rw [ControlValue.ofTree?, ControlValue.toValue, record?_rereadTree _ hkeys]
  simp [member?, uint32?_int, int64?_int]

@[simp] theorem orDefault_some {α : Type} (default : α) (decode : Tree → Option α) (t : Tree) :
    orDefault default decode (some t) = decode t := rfl

/-- A field that is left out at its default is found there. -/
theorem orDefault_map {α : Type} [DecidableEq α] (default : α) {decode : Tree → Option α}
    {encode : α → Value} (h : ∀ a, decode (encode a).rereadTree = some a) (a : α) :
    orDefault default decode ((if a = default then none else some (encode a)).map Value.rereadTree)
      = some a := by
  split
  · rename_i heq
    rw [heq]
    rfl
  · exact h a

/-- A control is found as it was told, its default fields left out. -/
theorem ControlDescriptor.ofTree?_rereadTree (d : ControlDescriptor) :
    ControlDescriptor.ofTree? d.toValue.rereadTree = some d := by
  obtain ⟨id, min, max, step, default, controlType, value, offset⟩ := d
  have hkeys : Distinct ([("id", Value.int id.toNat), ("min", Value.int min.toInt),
        ("max", Value.int max.toInt), ("step", Value.int step.toInt),
        ("default", Value.int default.toInt), ("type", Value.int controlType.toNat)]
      ++ Value.optional "value" (value.map fun v => .int v.toInt)
      ++ Value.optional "offset" (if offset == 0 then none else some (.int offset.toInt))) :=
    .of_sublist (keys_append (keys_append
      (List.Sublist.refl ["id", "min", "max", "step", "default", "type"]) (keys_optional _ _))
      (keys_optional _ _)) (by decide)
  have hvalue : orDefault none (Tree.nullable? Tree.int64?)
      ((value.map fun v => Value.int v.toInt).map Value.rereadTree) = some value := by
    cases value with
    | none => rfl
    | some v => exact nullable?_of_decode rfl (int64?_int v)
  have hoffset := orDefault_map 0 int64?_int offset
  rw [ControlDescriptor.ofTree?, ControlDescriptor.toValue, record?_rereadTree _ hkeys]
  simp [-Option.map_map, member?_append, member?, uint32?_int, int64?_int, hvalue, hoffset]

/-- **A catalog is found as it was told.** -/
theorem Catalog.ofTree?_rereadTree (c : Catalog) :
    Catalog.ofTree? c.toValue.rereadTree = some c := by
  obtain ⟨entries, hasc⟩ := c
  have hmembers : rereadMembers (entries.map fun e => (e.1, e.2.toValue))
      = entries.map fun e => (e.1, e.2.toValue.reread) := by
    rw [rereadMembers_eq_map, List.map_map]
    rfl
  have hsorted : Ascending (entries.map fun e => (e.1, e.2.toValue.reread)) :=
    List.pairwise_map.mpr hasc
  have hentries : ∀ es : List (String × ControlDescriptor),
      Catalog.entries? (treeMembers (es.map fun e => (e.1, e.2.toValue.reread))) = some es := by
    intro es
    induction es with
    | nil => rfl
    | cons e rest ih =>
      have he : ControlDescriptor.ofTree? e.2.toValue.reread.tree = some e.2 :=
        ControlDescriptor.ofTree?_rereadTree e.2
      rw [List.map_cons, treeMembers, Catalog.entries?, he, ih]
      rfl
  rw [Catalog.toValue, Value.rereadTree, Value.reread, hmembers, canonicalMembers_eq_self hsorted,
    Value.tree, Catalog.ofTree?, hentries, Option.map_some]
  exact congrArg some (Catalog.ext (canonicalMembers_eq_self hasc))

/-- All that is told of a control are integers and texts. -/
theorem ControlDescriptor.plain_toValue (d : ControlDescriptor) : d.toValue.Plain := by
  rw [ControlDescriptor.toValue, plain_object, plainMembers_append, plainMembers_append]
  refine ⟨⟨?_, plainMembers_optional ?_⟩, plainMembers_optional ?_⟩
  · simp [plainMembers_iff, isWord_uint32, isWord_int64]
  · simp [isWord_int64]
  · split <;> simp [isWord_int64]

theorem Catalog.plain_toValue (c : Catalog) : c.toValue.Plain := by
  rw [Catalog.toValue, plain_object, plainMembers_iff]
  intro m hm
  obtain ⟨e, -, rfl⟩ := List.mem_map.mp hm
  exact ControlDescriptor.plain_toValue e.2

end Control

namespace Signal

open Json Control

/-- **An optional field is found where it was written**, and as missing where it was left out. -/
theorem optionalField_map {α : Type} {decode : Tree → Option α} {encode : α → Value}
    (h : ∀ a, decode (encode a).rereadTree = some a) (hnull : decode .null = none) (x : Option α) :
    Candidate.optionalField decode ((x.map encode).map Value.rereadTree) = some x := by
  cases x with
  | none => rfl
  | some a => exact nullable?_of_decode hnull (h a)

/-- A role is decoded from its name on the wire. -/
theorem DescriptorRole.ofTree?_wire (held : Bool) (r : DescriptorRole) :
    DescriptorRole.ofTree? held (.string (some r.wire)) = some r := by
  cases r <;> rfl

theorem RemoteCommand.ofTree?_wire (held : Bool) (c : RemoteCommand) :
    RemoteCommand.ofTree? held (.string (some c.wire)) = some c := by
  cases c <;> rfl

theorem CommandArg.ofTree?_wire (held : Bool) (a : CommandArg) :
    CommandArg.ofTree? held (.string (some a.wire)) = some a := by
  cases a <;> rfl

/-- A description is found as it was told. -/
theorem SessionDescriptor.ofTree?_rereadTree (held : Bool) (d : SessionDescriptor) :
    ofTree? held d.toValue.rereadTree = some d := by
  have hkeys : Distinct [("type", Value.string d.role.wire), ("sdp", Value.string d.sdp)] :=
    .of_sublist (List.Sublist.refl ["type", "sdp"]) (by decide)
  rw [ofTree?, toValue, record?_rereadTree _ hkeys]
  simp [member?, DescriptorRole.ofTree?_wire, Tree.text?]

/-- A candidate is found as it was told, its optional fields left out or not. -/
theorem Candidate.ofTree?_rereadTree (c : Candidate) : ofTree? c.toValue.rereadTree = some c := by
  obtain ⟨text, mid, line, fragment⟩ := c
  have hkeys : Distinct ([("candidate", Value.string text)]
      ++ Value.optional "sdpMid" (mid.map .string)
      ++ Value.optional "sdpMLineIndex" (line.map fun n => .int n.toNat)
      ++ Value.optional "usernameFragment" (fragment.map .string)) :=
    .of_sublist (keys_append (keys_append (keys_append (List.Sublist.refl ["candidate"])
      (keys_optional _ _)) (keys_optional _ _)) (keys_optional _ _)) (by decide)
  rw [ofTree?, toValue, record?_rereadTree _ hkeys]
  simp [-Option.map_map, member?_append, member?, Tree.text?, optionalField_map text?_string rfl,
    optionalField_map uint16?_int rfl]

theorem RosterEntry.ofTree?_rereadTree (e : RosterEntry) :
    ofTree? e.toValue.rereadTree = some e := by
  have hkeys : Distinct [("name", Value.string e.name), ("indate", Value.string e.indate)] :=
    .of_sublist (List.Sublist.refl ["name", "indate"]) (by decide)
  rw [ofTree?, toValue, record?_rereadTree _ hkeys]
  simp [member?, Tree.text?]

/-- The addresses of a server are found as they were told, one or many. -/
theorem IceUrls.ofTree?_rereadTree (u : IceUrls) : ofTree? u.toValue.rereadTree = some u := by
  cases u with
  | one url => simp [toValue, ofTree?, Tree.text?]
  | many urls =>
    rw [toValue, ofTree?, list?_rereadTree text?_string urls]
    rfl

/-- A server is found as it was told, with or without a user. -/
theorem IceServer.ofTree?_rereadTree (s : IceServer) : ofTree? s.toValue.rereadTree = some s := by
  obtain ⟨urls, username, credential⟩ := s
  have hkeys : Distinct ([("urls", urls.toValue)]
      ++ Value.optional "username" (username.map .string)
      ++ Value.optional "credential" (credential.map .string)) :=
    .of_sublist (keys_append (keys_append (List.Sublist.refl ["urls"]) (keys_optional _ _))
      (keys_optional _ _)) (by decide)
  rw [ofTree?, toValue, record?_rereadTree _ hkeys]
  simp [-Option.map_map, member?_append, member?, IceUrls.ofTree?_rereadTree,
    optionalField_map text?_string rfl]

theorem IceServerList.ofTree?_rereadTree (l : IceServerList) :
    ofTree? l.toValue.rereadTree = some l := by
  cases l with
  | config servers =>
    have hkeys : Distinct [("iceServers", Value.array (servers.map IceServer.toValue))] :=
      .of_sublist (List.Sublist.refl ["iceServers"]) (by decide)
    have hconfig : configOfTree? (toValue (.config servers)).rereadTree = some servers := by
      rw [configOfTree?, toValue, namedRecord?_rereadTree _ hkeys]
      simp [member?, list?_rereadTree IceServer.ofTree?_rereadTree]
    rw [ofTree?, hconfig]
  | bare servers =>
    rw [toValue, ofTree?, list?_rereadTree IceServer.ofTree?_rereadTree servers]
    rfl

/-! ## Values of messages -/

theorem RosterEntry.plain_toValue (e : RosterEntry) : e.toValue.Plain := by
  simp [toValue, plainMembers_iff]

theorem IceServer.plain_toValue (s : IceServer) : s.toValue.Plain := by
  rw [toValue, plain_object, plainMembers_append, plainMembers_append]
  refine ⟨⟨⟨?_, trivial⟩, plainMembers_optional (by simp)⟩, plainMembers_optional (by simp)⟩
  cases s.urls with
  | one url => exact plain_string url
  | many urls => exact plain_array_map plain_string urls

theorem IceServerList.plain_toValue (l : IceServerList) : l.toValue.Plain := by
  cases l with
  | config servers =>
    exact plain_object.mpr ⟨plain_array_map IceServer.plain_toValue servers, trivial⟩
  | bare servers => exact plain_array_map IceServer.plain_toValue servers

end Signal

end CameraViewer
