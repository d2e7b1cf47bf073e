import CameraViewer.Proofs.Json.Canonical

/-!
# Proofs/Json/Records — fields of a record that was written

A reader of records finds under each name what was written there (`record?_tree`,
`record?_rereadTree`), wherever it stands among the members and whatever else does. Of a value that
was read (`Value.IsRead`) it finds the fields that the value holds, by name or in order, and nothing
else (`record?_eq_some_iff`).
-/

namespace CameraViewer.Json

/-! ## Documents of lists -/

theorem treeItems_eq_map (items : List Value) : treeItems items = items.map Value.tree := by
  induction items with
  | nil => rfl
  | cons v rest ih => rw [treeItems, ih, List.map_cons]

theorem treeMembers_eq_map (members : List (String × Value)) :
    treeMembers members = members.map fun m => (some m.1, m.2.tree) := by
  induction members with
  | nil => rfl
  | cons m rest ih => rw [treeMembers, ih, List.map_cons]

/-- Every name of a written object can be read. -/
theorem all_isSome_treeMembers (members : List (String × Value)) :
    (treeMembers members).all (·.1.isSome) := by
  rw [treeMembers_eq_map, List.all_map]
  simp

/-! ## Members by name

A reader looks fields up by name and refuses doubled ones, so names have to be distinct. -/

/-- What is made of all values is made of the one that is found. -/
theorem member?_map {β γ : Type} (f : β → γ) (name : String) (members : List (String × β)) :
    member? name (members.map fun m => (m.1, f m.2)) = (member? name members).map f := by
  induction members with
  | nil => rfl
  | cons m rest ih =>
    rw [List.map_cons, member?, member?]
    split
    · rfl
    · exact ih

/-- **A name stands for a value exactly if they are a member.** -/
theorem member?_eq_some_iff {β : Type} {name : String} {value : β} {members : List (String × β)}
    (h : Distinct members) : member? name members = some value ↔ (name, value) ∈ members := by
  induction members with
  | nil => simp [member?]
  | cons m rest ih =>
    obtain ⟨k, v⟩ := m
    obtain ⟨hk, hrest⟩ := List.nodup_cons.mp h
    rw [member?, List.mem_cons]
    split
    · rename_i heq
      subst heq
      have hother : (k, value) ∉ rest := fun hmem => hk (List.mem_map.mpr ⟨_, hmem, rfl⟩)
      simp [hother, eq_comm]
    · rename_i hne
      have hfirst : (name, value) ≠ (k, v) := fun heq => hne (Prod.mk.inj heq).1.symm
      simp [ih hrest, hfirst]

theorem Distinct.map {β γ : Type} (f : β → γ) {members : List (String × β)} (h : Distinct members) :
    Distinct (members.map fun m => (m.1, f m.2)) := by
  rw [Distinct, List.map_map]
  exact h

theorem distinct_canonicalMembers {β : Type} (members : List (String × β)) :
    Distinct (canonicalMembers members) :=
  (ascending_canonicalMembers members).distinct

/-- Among distinct members a name has one value at most. -/
theorem valuesOf_treeMembers (name : String) {members : List (String × Value)}
    (h : Distinct members) :
    valuesOf name (treeMembers members) = ((member? name members).map Value.tree).toList := by
  induction members with
  | nil => rfl
  | cons m rest ih =>
    obtain ⟨k, v⟩ := m
    obtain ⟨hm, hrest⟩ := List.nodup_cons.mp h
    have hothers := ih hrest
    rw [valuesOf] at hothers ⊢
    rw [treeMembers, List.filterMap_cons, hothers, member?]
    by_cases hname : k = name
    · have hnone : member? name rest = none := member?_eq_none fun x hx hx' =>
        hm (List.mem_map.mpr ⟨x, hx, hx'.trans hname.symm⟩)
      simp [hname, hnone]
    · simp [hname]

/-- **Among distinct members a reader finds what a name stands for.** -/
theorem uniqueMember?_treeMembers (name : String) {members : List (String × Value)}
    (h : Distinct members) :
    uniqueMember? (treeMembers members) name = some ((member? name members).map Value.tree) := by
  rw [uniqueMember?, valuesOf_treeMembers name h]
  cases member? name members <;> rfl

theorem fieldsByName?_treeMembers (names : List String) {members : List (String × Value)}
    (h : Distinct members) :
    fieldsByName? names (treeMembers members)
      = some (names.map fun name => (member? name members).map Value.tree) := by
  rw [fieldsByName?, if_pos (all_isSome_treeMembers members)]
  induction names with
  | nil => rfl
  | cons name names ih =>
    rw [List.mapM_cons, uniqueMember?_treeMembers name h, ih]
    rfl

/-- **The fields of a record are found by their names.** -/
theorem record?_tree (names : List String) {members : List (String × Value)}
    (h : Distinct members) :
    (Value.object members).tree.record? names
      = some (names.map fun name => (member? name members).map Value.tree) :=
  fieldsByName?_treeMembers names h

/-- The document that is read of a written value. -/
def Value.rereadTree (v : Value) : Tree := v.reread.tree

theorem member?_reread_members (name : String) {members : List (String × Value)}
    (h : Distinct members) :
    member? name (canonicalMembers (rereadMembers members))
      = (member? name members).map Value.reread := by
  rw [rereadMembers_eq_map, member?_canonicalMembers name (h.map Value.reread), member?_map]

/-- **The fields of a record that was sorted in reading are found as well.** -/
theorem record?_rereadTree (names : List String) {members : List (String × Value)}
    (h : Distinct members) :
    (Value.object members).rereadTree.record? names
      = some (names.map fun name => (member? name members).map Value.rereadTree) := by
  rw [Value.rereadTree, Value.reread, record?_tree names (distinct_canonicalMembers _)]
  simp only [member?_reread_members _ h, Option.map_map]
  rfl

/-- A record with names only is found in an object too. -/
theorem namedRecord?_rereadTree (names : List String) {members : List (String × Value)}
    (h : Distinct members) :
    (Value.object members).rereadTree.namedRecord? names
      = some (names.map fun name => (member? name members).map Value.rereadTree) := by
  rw [← record?_rereadTree names h, Value.rereadTree, Value.reread, Value.tree]
  rfl

/-! ## Lists -/

/-- **The items of a list are decoded one by one.** -/
theorem list?_rereadTree {α : Type} {decode : Tree → Option α} {encode : α → Value}
    (h : ∀ a, decode (encode a).rereadTree = some a) (items : List α) :
    (Value.array (items.map encode)).rereadTree.list? decode = some items := by
  rw [Value.rereadTree, Value.reread, Value.tree, Tree.list?, rereadItems_eq_map, treeItems_eq_map]
  induction items with
  | nil => rfl
  | cons a rest ih =>
    have hfirst : decode (encode a).reread.tree = some a := h a
    rw [List.map_cons, List.map_cons, List.map_cons, List.mapM_cons, hfirst, ih]
    rfl

/-- **A list is decoded exactly if each of its items is.** -/
theorem mapM_eq_some_iff {α β : Type} {f : α → Option β} {xs : List α} {ys : List β} :
    xs.mapM f = some ys ↔ List.Forall₂ (fun x y => f x = some y) xs ys := by
  induction xs generalizing ys with
  | nil => simp [eq_comm]
  | cons x xs ih =>
    simp only [List.mapM_cons, List.forall₂_cons_left_iff, bind, pure, Option.bind_eq_some_iff, ih,
      Option.some.injEq, eq_comm (a := ys), exists_and_left]

/-- A value is decoded as a list exactly if it is an array of decodable items. -/
theorem list?_tree_eq_some_iff {α : Type} {decode : Tree → Option α} {v : Value} {xs : List α} :
    v.tree.list? decode = some xs
      ↔ ∃ items, v = .array items
      ∧ List.Forall₂ (fun item x => decode item.tree = some x) items xs := by
  cases v with
  | array items =>
    rw [Value.tree, Tree.list?, treeItems_eq_map, mapM_eq_some_iff, List.forall₂_map_left_iff]
    simp
  | _ => simp [Value.tree, Tree.list?]

/-! ## Values that were read

What a value may hold inside is known once it was read: its parts were accepted, and its names are
distinct. -/

/-- A value as it may stand in a text that was read. -/
def Value.IsRead (v : Value) : Prop := ∃ levels, v.tree.value? levels = some v

/-- What was read is read again within the same depth. -/
theorem Value.value?_of_read? {text : String} {v : Value} (h : Value.read? text = some v) :
    v.tree.value? depthLimit = some v := by
  obtain ⟨t, -, ht⟩ := Option.bind_eq_some_iff.mp h
  exact Tree.value?_tree ht

theorem Value.isRead_of_read? {text : String} {v : Value} (h : Value.read? text = some v) :
    v.IsRead :=
  ⟨depthLimit, value?_of_read? h⟩

theorem Value.isReadable_of_read? {text : String} {v : Value} (h : Value.read? text = some v) :
    v.tree.isReadable := by
  rw [Tree.isReadable, value?_of_read? h]
  rfl

theorem value?_of_mem_treeItems {items : List Value} {levels : ℕ}
    (h : values? levels (treeItems items) = some items) :
    ∀ v ∈ items, v.tree.value? levels = some v := by
  induction items with
  | nil => simp
  | cons v rest ih =>
    obtain ⟨hv, hrest⟩ : v.tree.value? levels = some v
        ∧ values? levels (treeItems rest) = some rest := by
      simpa [treeItems, values?, Option.bind_eq_some_iff] using h
    exact List.forall_mem_cons.mpr ⟨hv, ih hrest⟩

theorem Value.IsRead.items {items : List Value} (h : (Value.array items).IsRead) :
    ∀ v ∈ items, v.IsRead := by
  obtain ⟨levels, h⟩ := h
  rw [Value.tree] at h
  cases levels with
  | zero => exact nomatch h
  | succ levels =>
    have hitems : values? levels (treeItems items) = some items := by simpa [Tree.value?] using h
    exact fun v hv => ⟨levels, value?_of_mem_treeItems hitems v hv⟩

/-- **The members of an object that was read are distinct**, and their values were read. -/
theorem Value.IsRead.members {members : List (String × Value)} (h : (Value.object members).IsRead) :
    Distinct members ∧ ∀ m ∈ members, m.2.IsRead := by
  obtain ⟨levels, h⟩ := h
  rw [Value.tree] at h
  cases levels with
  | zero => exact nomatch h
  | succ levels =>
    rw [Tree.value?, Option.map_eq_some_iff] at h
    obtain ⟨found, hfound, heq⟩ := h
    have hmembers : canonicalMembers found = members := Value.object.inj heq
    refine ⟨hmembers ▸ distinct_canonicalMembers found, fun m hm => ⟨levels, ?_⟩⟩
    exact value?_tree_of_mem hfound m (mem_of_mem_canonicalMembers (hmembers ▸ hm))

theorem Value.IsRead.member {members : List (String × Value)} (h : (Value.object members).IsRead)
    {name : String} {v : Value} (hv : member? name members = some v) : v.IsRead :=
  h.members.2 _ ((member?_eq_some_iff h.members.1).mp hv)

/-- The fields of a record: the members of an object, by their names, or the items of an array, in
order, where the last ones may be missing. -/
inductive Holds (names : List String) : Value → List (Option Value) → Prop
  | named (members : List (String × Value)) :
    Holds names (.object members) (names.map fun name => member? name members)
  | ordered (items : List Value) (h : items.length ≤ names.length) :
    Holds names (.array items) (items.map some ++ List.replicate (names.length - items.length) none)

/-- **The fields that are found are those that the value holds.** -/
theorem record?_eq_some_iff {names : List String} {v : Value} (hv : v.IsRead)
    {found : List (Option Tree)} :
    v.tree.record? names = some found
      ↔ ∃ fields, Holds names v fields ∧ found = fields.map (Option.map Value.tree) := by
  constructor
  · intro h
    cases v with
    | object members =>
      rw [record?_tree names hv.members.1] at h
      exact ⟨_, .named members, by rw [← Option.some.inj h, List.map_map]; rfl⟩
    | array items =>
      rw [Value.tree, Tree.record?, fieldsInOrder?, treeItems_eq_map, List.length_map] at h
      split at h
      · rename_i hlength
        exact ⟨_, .ordered items hlength, by rw [← Option.some.inj h]; simp [Function.comp_def]⟩
      · cases h
    | _ => simp [Value.tree, Tree.record?] at h
  · rintro ⟨fields, hfields, rfl⟩
    cases hfields with
    | named members => rw [record?_tree names hv.members.1, List.map_map]; rfl
    | ordered items hlength =>
      rw [Value.tree, Tree.record?, fieldsInOrder?, treeItems_eq_map, List.length_map,
        if_pos hlength]
      simp [Function.comp_def]

end CameraViewer.Json
