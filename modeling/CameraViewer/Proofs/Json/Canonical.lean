import CameraViewer.Control.Catalog
import CameraViewer.Proofs.Json.Reading

/-!
# Proofs/Json/Canonical — the value of a text

`Value.read?_text`: the text of a value is read as `Value.reread` of it, the same value with its
objects sorted and each double as its literal spells it. What was read is its own value
(`Tree.value?_tree`), so a second reader that is handed it finds all of it.
-/

namespace CameraViewer.Json

variable {β : Type}

/-! ## Sorted members

Sorting keeps the last member of each name, so for distinct names it changes the order only. -/

/-- The keys of members are distinct. -/
def Distinct (members : List (String × β)) : Prop := (members.map Prod.fst).Nodup

instance (members : List (String × β)) : Decidable (Distinct members) :=
  inferInstanceAs (Decidable (members.map Prod.fst).Nodup)

/-- A member that is inserted replaces the one of its name. -/
theorem member?_insertMember (name key : String) (value : β) (members : List (String × β)) :
    member? name (insertMember key value members)
      = if key = name then some value else member? name members := by
  induction members with
  | nil => rfl
  | cons m rest ih =>
    obtain ⟨k, v⟩ := m
    rw [insertMember]
    split
    · rfl
    · split
      · rename_i h
        subst h
        simp only [member?]
        split <;> simp_all
      · rename_i hne
        simp only [member?, ih]
        split <;> simp_all

/-- A name that no member has stands for nothing. -/
theorem member?_eq_none {name : String} {members : List (String × β)}
    (h : ∀ m ∈ members, m.1 ≠ name) : member? name members = none := by
  induction members with
  | nil => rfl
  | cons m rest ih =>
    rw [member?, if_neg (h m List.mem_cons_self)]
    exact ih fun x hx => h x (List.mem_cons_of_mem _ hx)

theorem member?_append (name : String) (members others : List (String × β)) :
    member? name (members ++ others) = (member? name members).or (member? name others) := by
  induction members with
  | nil => rfl
  | cons m rest ih =>
    rw [List.cons_append, member?, member?]
    split
    · rfl
    · exact ih

/-- Inserting one after the other keeps what each name stands for. -/
theorem member?_foldl_insertMember (name : String) {members : List (String × β)}
    (h : Distinct members) : ∀ acc : List (String × β),
      member? name (members.foldl (fun acc m => insertMember m.1 m.2 acc) acc)
        = (member? name members).or (member? name acc) := by
  induction members with
  | nil => exact fun _ => rfl
  | cons m rest ih =>
    intro acc
    obtain ⟨hm, hrest⟩ := List.nodup_cons.mp h
    rw [List.foldl_cons, ih hrest, member?_insertMember, member?]
    split
    · rename_i heq
      have hnone : member? name rest = none := member?_eq_none fun x hx hname =>
        hm (List.mem_map.mpr ⟨x, hx, hname.trans heq.symm⟩)
      rw [hnone]
      rfl
    · rfl

/-- **Sorting keeps what is found under each name.** -/
theorem member?_canonicalMembers (name : String) {members : List (String × β)}
    (h : Distinct members) :
    member? name (canonicalMembers members) = member? name members := by
  rw [canonicalMembers, member?_foldl_insertMember name h, member?, Option.or_none]

/-- A member behind all others comes to the end. -/
theorem insertMember_eq_append {key : String} (value : β) {members : List (String × β)}
    (h : ∀ m ∈ members, m.1 < key) :
    insertMember key value members = members ++ [(key, value)] := by
  induction members with
  | nil => rfl
  | cons m rest ih =>
    have hm : m.1 < key := h m List.mem_cons_self
    rw [insertMember, if_neg (fun hlt => String.lt_irrefl _ (String.lt_trans hm hlt)),
      if_neg (fun heq => String.lt_irrefl _ (heq ▸ hm)), ih
      fun x hx => h x (List.mem_cons_of_mem _ hx)]
    rfl

/-- Hence ascending members are inserted in their order. -/
theorem foldl_insertMember_eq_append (members : List (String × β)) : ∀ acc,
    Ascending (acc ++ members) →
      members.foldl (fun acc m => insertMember m.1 m.2 acc) acc = acc ++ members := by
  induction members with
  | nil => simp
  | cons m rest ih =>
    intro acc h
    have hbelow : ∀ x ∈ acc, x.1 < m.1 := fun x hx =>
      (List.pairwise_append.mp h).2.2 x hx m List.mem_cons_self
    rw [List.foldl_cons, insertMember_eq_append m.2 hbelow, ih]
    · simp
    · simpa using h

/-- **Ascending members are canonical.** -/
theorem canonicalMembers_eq_self {members : List (String × β)} (h : Ascending members) :
    canonicalMembers members = members :=
  foldl_insertMember_eq_append members [] h

/-- Ascending names differ. -/
theorem Ascending.distinct {members : List (String × β)} (h : Ascending members) :
    Distinct members := by
  refine List.pairwise_map.mpr (h.imp fun {a b} hlt heq => ?_)
  rw [heq] at hlt
  exact String.lt_irrefl _ hlt

/-- Inserting adds one member at most. -/
theorem eq_or_mem_of_mem_insertMember {m : String × β} {key : String} {value : β}
    {members : List (String × β)} (h : m ∈ insertMember key value members) :
    m = (key, value) ∨ m ∈ members := by
  induction members with
  | nil => exact .inl (List.mem_singleton.mp h)
  | cons x rest ih =>
    rw [insertMember] at h
    split at h
    · exact List.mem_cons.mp h
    · split at h
      · exact (List.mem_cons.mp h).imp_right (List.mem_cons_of_mem _)
      · rcases List.mem_cons.mp h with rfl | h
        · exact .inr List.mem_cons_self
        · exact (ih h).imp_right (List.mem_cons_of_mem _)

/-- Sorting adds no member. -/
theorem mem_of_mem_canonicalMembers {m : String × β} {members : List (String × β)}
    (h : m ∈ canonicalMembers members) : m ∈ members := by
  have hfold : ∀ (ms acc : List (String × β)),
      m ∈ ms.foldl (fun acc m => insertMember m.1 m.2 acc) acc → m ∈ ms ∨ m ∈ acc := by
    intro ms
    induction ms with
    | nil => exact fun _ => .inr
    | cons x rest ih =>
      intro acc hm
      rcases ih _ hm with hm | hm
      · exact .inl (List.mem_cons_of_mem _ hm)
      · rcases eq_or_mem_of_mem_insertMember hm with rfl | hm
        · exact .inl List.mem_cons_self
        · exact .inr hm
  exact (hfold members [] h).resolve_right List.not_mem_nil

/-! ## Depth

A document is refused where its brackets nest too deep, so the depth of what was written has to be
known. -/

mutual

/-- How deep brackets nest in a value. -/
def Value.depth : Value → ℕ
  | .array items => depthItems items + 1
  | .object members => depthMembers members + 1
  | _ => 0

/-- The greatest depth of the items. -/
def depthItems : List Value → ℕ
  | [] => 0
  | v :: rest => max v.depth (depthItems rest)

/-- The greatest depth of the values of members. -/
def depthMembers : List (String × Value) → ℕ
  | [] => 0
  | (_, v) :: rest => max v.depth (depthMembers rest)

end

theorem depthMembers_le_iff {members : List (String × Value)} {n : ℕ} :
    depthMembers members ≤ n ↔ ∀ m ∈ members, m.2.depth ≤ n := by
  induction members with
  | nil => simp [depthMembers]
  | cons m rest ih => simp [depthMembers, ih]

/-! ## Values of texts

A document is first read as written and then as a value; the second step sorts objects and rounds
doubles. -/

mutual

/-- A value whose numbers documents can hold. -/
def Value.Storable : Value → Prop
  | .number n => n.Storable
  | .array items => StorableItems items
  | .object members => StorableMembers members
  | _ => True

/-- Items that documents can hold. -/
def StorableItems : List Value → Prop
  | [] => True
  | v :: rest => v.Storable ∧ StorableItems rest

/-- Members with values that documents can hold. -/
def StorableMembers : List (String × Value) → Prop
  | [] => True
  | (_, v) :: rest => v.Storable ∧ StorableMembers rest

end

theorem storableMembers_iff {members : List (String × Value)} :
    StorableMembers members ↔ ∀ m ∈ members, m.2.Storable := by
  induction members with
  | nil => simp [StorableMembers]
  | cons m rest ih => simp [StorableMembers, ih]

mutual

/-- Plain values can be held by documents. -/
theorem Value.Plain.storable : ∀ {v : Value}, v.Plain → v.Storable
  | .null, _ | .bool _, _ | .string _, _ => by simp [Value.Storable]
  | .number (.int n), h => by simpa [Value.Storable, Number.Storable, Value.Plain] using h
  | .number (.float _ _), h => absurd h (by simp [Value.Plain])
  | .array items, h => by
    rw [Value.Storable]; exact PlainItems.storable (by simpa [Value.Plain] using h)
  | .object members, h => by
    rw [Value.Storable]; exact PlainMembers.storable (plain_object.mp h)

theorem PlainItems.storable : ∀ {vs : List Value}, PlainItems vs → StorableItems vs
  | [], _ => trivial
  | v :: vs, h => by
    have hvs : v.Plain ∧ PlainItems vs := by simpa [PlainItems] using h
    exact ⟨hvs.1.storable, PlainItems.storable hvs.2⟩

theorem PlainMembers.storable : ∀ {ms : List (String × Value)}, PlainMembers ms → StorableMembers ms
  | [], _ => trivial
  | (k, v) :: ms, h => by
    have hms : v.Plain ∧ PlainMembers ms := by simpa [PlainMembers] using h
    exact ⟨hms.1.storable, PlainMembers.storable hms.2⟩

end

/-- The number that is read where one was written. -/
def Number.reread (n : Number) : Number := n.literal.value?.getD n

mutual

/-- The value that is read where one was written: objects are sorted, a double may be its neighbour.
-/
def Value.reread : Value → Value
  | .null => .null
  | .bool b => .bool b
  | .number n => .number n.reread
  | .string s => .string s
  | .array items => .array (rereadItems items)
  | .object members => .object (canonicalMembers (rereadMembers members))

/-- Items as they are read again. -/
def rereadItems : List Value → List Value
  | [] => []
  | v :: rest => v.reread :: rereadItems rest

/-- Members as they are read again, in the order they were written. -/
def rereadMembers : List (String × Value) → List (String × Value)
  | [] => []
  | (k, v) :: rest => (k, v.reread) :: rereadMembers rest

end

theorem rereadItems_eq_map (items : List Value) : rereadItems items = items.map Value.reread := by
  induction items with
  | nil => rfl
  | cons v rest ih => rw [rereadItems, ih, List.map_cons]

theorem rereadMembers_eq_map (members : List (String × Value)) :
    rereadMembers members = members.map fun m => (m.1, m.2.reread) := by
  induction members with
  | nil => rfl
  | cons m rest ih => rw [rereadMembers, ih, List.map_cons]

mutual

/-- **What was written has a value where its nesting is allowed.** -/
theorem Value.value?_written : ∀ {v : Value}, v.Storable → ∀ {levels : ℕ}, v.depth ≤ levels →
    v.written.value? levels = some v.reread
  | .null, _, _, _ | .bool _, _, _, _ | .string _, _, _, _ => by
    simp [Value.written, Tree.value?, Value.reread]
  | .number n, h, _, _ => by
    obtain ⟨m, hm⟩ := n.exists_value?_literal (by simpa [Value.Storable] using h)
    simp [Value.written, Tree.value?, Value.reread, Number.reread, hm]
  | .array items, h, levels, hd => by
    rw [Value.depth] at hd
    obtain ⟨levels, rfl⟩ : ∃ n, levels = n + 1 := ⟨levels - 1, by omega⟩
    have hitems := values?_writtenItems (by simpa [Value.Storable] using h)
      (by omega : depthItems items ≤ levels)
    rw [Value.written, Tree.value?, hitems, Value.reread]
    rfl
  | .object members, h, levels, hd => by
    rw [Value.depth] at hd
    obtain ⟨levels, rfl⟩ : ∃ n, levels = n + 1 := ⟨levels - 1, by omega⟩
    have hmembers := memberValues?_writtenMembers (by simpa [Value.Storable] using h)
      (by omega : depthMembers members ≤ levels)
    rw [Value.written, Tree.value?, hmembers, Value.reread]
    rfl

/-- Items that were written have values where their nesting is allowed. -/
theorem values?_writtenItems : ∀ {vs : List Value}, StorableItems vs → ∀ {levels : ℕ},
    depthItems vs ≤ levels → values? levels (writtenItems vs) = some (rereadItems vs)
  | [], _, _, _ => by simp [writtenItems, values?, rereadItems]
  | v :: vs, h, levels, hd => by
    have hvs : v.Storable ∧ StorableItems vs := by simpa [StorableItems] using h
    rw [depthItems] at hd
    have hfirst := Value.value?_written hvs.1 (by omega : v.depth ≤ levels)
    have hothers := values?_writtenItems hvs.2 (by omega : depthItems vs ≤ levels)
    simp [writtenItems, values?, rereadItems, hfirst, hothers]

theorem memberValues?_writtenMembers : ∀ {ms : List (String × Value)}, StorableMembers ms →
    ∀ {levels : ℕ}, depthMembers ms ≤ levels →
      memberValues? levels (writtenMembers ms) = some (rereadMembers ms)
  | [], _, _, _ => by simp [writtenMembers, memberValues?, rereadMembers]
  | (k, v) :: ms, h, levels, hd => by
    have hms : v.Storable ∧ StorableMembers ms := by simpa [StorableMembers] using h
    rw [depthMembers] at hd
    have hfirst := Value.value?_written hms.1 (by omega : v.depth ≤ levels)
    have hothers := memberValues?_writtenMembers hms.2 (by omega : depthMembers ms ≤ levels)
    simp [writtenMembers, memberValues?, rereadMembers, hfirst, hothers]

end

/-- **The text of a value is read as that value**, sorted and with its doubles as they were written.
-/
theorem Value.read?_text {v : Value} (hv : v.Storable) (hd : v.depth ≤ depthLimit) :
    Value.read? v.text = some v.reread := by
  rw [Value.read?, Tree.read?_written]
  exact Value.value?_written hv hd

/-! ## Values that were read -/

/-- Members whose values are their own are read as themselves. -/
theorem memberValues?_treeMembers {members : List (String × Value)} {levels : ℕ}
    (h : ∀ m ∈ members, m.2.tree.value? levels = some m.2) :
    memberValues? levels (treeMembers members) = some members := by
  induction members with
  | nil => simp [treeMembers, memberValues?]
  | cons m rest ih =>
    have hfirst := h m List.mem_cons_self
    have hothers := ih fun x hx => h x (List.mem_cons_of_mem _ hx)
    simp [treeMembers, memberValues?, hfirst, hothers]

mutual

/-- **What was read is its own value**, at the nesting it was read with. -/
theorem Tree.value?_tree : ∀ {t : Tree} {levels : ℕ} {v : Value}, t.value? levels = some v →
    v.tree.value? levels = some v
  | .null, levels, v, h => by
    obtain rfl : Value.null = v := by simpa [Tree.value?] using h
    simp [Value.tree, Tree.value?]
  | .bool b, levels, v, h => by
    obtain rfl : Value.bool b = v := by simpa [Tree.value?] using h
    simp [Value.tree, Tree.value?]
  | .number n, levels, v, h => by
    obtain ⟨n, rfl, rfl⟩ : ∃ m, n = some m ∧ Value.number m = v := by simpa [Tree.value?] using h
    simp [Value.tree, Tree.value?]
  | .string s, levels, v, h => by
    obtain ⟨s, rfl, rfl⟩ : ∃ m, s = some m ∧ Value.string m = v := by simpa [Tree.value?] using h
    simp [Value.tree, Tree.value?]
  | .array items, 0, v, h | .object items, 0, v, h => by simp [Tree.value?] at h
  | .array items, levels + 1, v, h => by
    obtain ⟨vs, hvs, rfl⟩ : ∃ vs, values? levels items = some vs ∧ Value.array vs = v := by
      simpa [Tree.value?] using h
    simp [Value.tree, Tree.value?, values?_treeItems hvs]
  | .object members, levels + 1, v, h => by
    obtain ⟨ms, hms, rfl⟩ : ∃ ms, memberValues? levels members = some ms
        ∧ Value.object (canonicalMembers ms) = v := by simpa [Tree.value?] using h
    have hvalues := memberValues?_treeMembers fun m hm =>
      value?_tree_of_mem hms m (mem_of_mem_canonicalMembers hm)
    simp [Value.tree, Tree.value?, hvalues, canonicalMembers_eq_self
      (ascending_canonicalMembers ms)]

theorem values?_treeItems : ∀ {ts : List Tree} {levels : ℕ} {vs : List Value},
    values? levels ts = some vs → values? levels (treeItems vs) = some vs
  | [], levels, vs, h => by
    obtain rfl : [] = vs := by simpa [values?] using h
    simp [treeItems, values?]
  | t :: ts, levels, vs, h => by
    obtain ⟨w, hw, ws, hws, rfl⟩ : ∃ w, t.value? levels = some w
        ∧ ∃ ws, values? levels ts = some ws ∧ w :: ws = vs := by
      simpa [values?, Option.bind_eq_some_iff] using h
    simp [treeItems, values?, Tree.value?_tree hw, values?_treeItems hws]

theorem value?_tree_of_mem : ∀ {ts : List (Option String × Tree)} {levels : ℕ}
    {ms : List (String × Value)}, memberValues? levels ts = some ms →
      ∀ m ∈ ms, m.2.tree.value? levels = some m.2
  | [], levels, ms, h, m, hm => by
    obtain rfl : [] = ms := by simpa [memberValues?] using h
    exact absurd hm List.not_mem_nil
  | (key, t) :: ts, levels, ms, h, m, hm => by
    obtain ⟨k, rfl, w, hw, ws, hws, rfl⟩ : ∃ k, key = some k ∧ ∃ w, t.value? levels = some w
        ∧ ∃ ws, memberValues? levels ts = some ws ∧ (k, w) :: ws = ms := by
      simpa [memberValues?, Option.bind_eq_some_iff] using h
    rcases List.mem_cons.mp hm with rfl | hm
    · exact Tree.value?_tree hw
    · exact value?_tree_of_mem hws m hm

end

/-- **A value that was read can be handed on to a second reader.** -/
theorem Value.isReadable_tree_reread {v : Value} (hv : v.Storable) (hd : v.depth ≤ depthLimit) :
    v.reread.tree.isReadable := by
  rw [Tree.isReadable, Tree.value?_tree (Value.value?_written hv hd)]
  rfl

/-! ## Canonical values

Where objects are sorted already and no double is written, a value comes back unchanged. -/

mutual

/-- A value whose objects ascend. -/
def Value.Canonical : Value → Prop
  | .array items => CanonicalItems items
  | .object members => Ascending members ∧ CanonicalMembers members
  | _ => True

/-- Items whose objects ascend. -/
def CanonicalItems : List Value → Prop
  | [] => True
  | v :: rest => v.Canonical ∧ CanonicalItems rest

/-- Members with values whose objects ascend. -/
def CanonicalMembers : List (String × Value) → Prop
  | [] => True
  | (_, v) :: rest => v.Canonical ∧ CanonicalMembers rest

end

mutual

/-- **A canonical value without doubles is read as itself.** -/
theorem Value.reread_eq_self : ∀ {v : Value}, v.Plain → v.Canonical → v.reread = v
  | .null, _, _ | .bool _, _, _ | .string _, _, _ => by rw [Value.reread]
  | .number (.int n), h, _ => by
    have hn := value?_literalOf (by simpa [Value.Plain] using h : IsWord n)
    rw [Value.reread, Number.reread, Number.literal, hn, Option.getD_some]
  | .number (.float _ _), h, _ => absurd h (by simp [Value.Plain])
  | .array items, h, hc => by
    rw [Value.reread, rereadItems_eq_self (by simpa [Value.Plain] using h)
      (by simpa [Value.Canonical] using hc)]
  | .object members, h, hc => by
    obtain ⟨hasc, hc⟩ : Ascending members ∧ CanonicalMembers members := by
      simpa [Value.Canonical] using hc
    rw [Value.reread, rereadMembers_eq_self (plain_object.mp h) hc, canonicalMembers_eq_self hasc]

theorem rereadItems_eq_self : ∀ {vs : List Value}, PlainItems vs → CanonicalItems vs →
    rereadItems vs = vs
  | [], _, _ => rfl
  | v :: vs, h, hc => by
    have hvs : v.Plain ∧ PlainItems vs := by simpa [PlainItems] using h
    have hcs : v.Canonical ∧ CanonicalItems vs := by simpa [CanonicalItems] using hc
    rw [rereadItems, Value.reread_eq_self hvs.1 hcs.1, rereadItems_eq_self hvs.2 hcs.2]

theorem rereadMembers_eq_self : ∀ {ms : List (String × Value)}, PlainMembers ms →
    CanonicalMembers ms → rereadMembers ms = ms
  | [], _, _ => rfl
  | (k, v) :: ms, h, hc => by
    have hms : v.Plain ∧ PlainMembers ms := by simpa [PlainMembers] using h
    have hcs : v.Canonical ∧ CanonicalMembers ms := by simpa [CanonicalMembers] using hc
    rw [rereadMembers, Value.reread_eq_self hms.1 hcs.1, rereadMembers_eq_self hms.2 hcs.2]

end

end CameraViewer.Json
