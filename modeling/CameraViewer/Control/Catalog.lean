import CameraViewer.Control.Descriptor

/-!
# Control/Catalog — the controls of a device by name

A catalog is sorted by name and holds each name once; the type carries the proof. A device sends it
whole, and it is normalized control by control.
-/

namespace CameraViewer

namespace Json

/-- Members in ascending order of their keys, each key once. -/
def Ascending {β : Type} (members : List (String × β)) : Prop :=
  members.Pairwise fun a b => a.1 < b.1

theorem mem_insertMember {β : Type} {key : String} {value : β} {m : String × β}
    {members : List (String × β)} (h : m ∈ insertMember key value members) :
    m.1 = key ∨ m ∈ members := by
  induction members with
  | nil => simp only [insertMember, List.mem_singleton] at h; exact .inl (by rw [h])
  | cons first rest ih =>
    obtain ⟨k, v⟩ := first
    simp only [insertMember] at h
    split at h
    · rcases List.mem_cons.1 h with h | h
      · exact .inl (by rw [h])
      · exact .inr h
    · split at h
      · rcases List.mem_cons.1 h with h | h
        · exact .inl (by rw [h])
        · exact .inr (List.mem_cons_of_mem _ h)
      · rcases List.mem_cons.1 h with h | h
        · exact .inr (h ▸ List.mem_cons_self)
        · exact (ih h).imp_right (List.mem_cons_of_mem _)

/-- **Putting a member in its place keeps the order.** -/
theorem ascending_insertMember {β : Type} (key : String) (value : β) {members : List (String × β)}
    (h : Ascending members) : Ascending (insertMember key value members) := by
  induction members with
  | nil => simp [insertMember, Ascending]
  | cons first rest ih =>
    obtain ⟨k, v⟩ := first
    have hrest : Ascending rest := (List.pairwise_cons.1 h).2
    have hfirst := (List.pairwise_cons.1 h).1
    simp only [insertMember]
    split
    · rename_i hlt
      refine List.pairwise_cons.2 ⟨fun m hm => ?_, h⟩
      rcases List.mem_cons.1 hm with rfl | hm
      · exact hlt
      · exact String.lt_trans hlt (hfirst m hm)
    · split
      · rename_i heq
        exact List.pairwise_cons.2 ⟨fun m hm => heq ▸ hfirst m hm, hrest⟩
      · rename_i hlt hne
        refine List.pairwise_cons.2 ⟨fun m hm => ?_, ih hrest⟩
        rcases mem_insertMember hm with hm | hm
        · show k < m.1
          rw [hm]; grind
        · exact hfirst m hm

theorem ascending_foldl_insertMember {β : Type} (members acc : List (String × β))
    (h : Ascending acc) :
    Ascending (members.foldl (fun acc m => insertMember m.1 m.2 acc) acc) := by
  induction members generalizing acc with
  | nil => exact h
  | cons m rest ih => exact ih _ (ascending_insertMember m.1 m.2 h)

/-- **Canonical members ascend.** -/
theorem ascending_canonicalMembers {β : Type} (members : List (String × β)) :
    Ascending (canonicalMembers members) :=
  ascending_foldl_insertMember members [] List.Pairwise.nil

end Json

namespace Control

open Json

/-! ## Catalogs -/

/-- The controls of a device, sorted by name. -/
structure Catalog where
  /-- Names and controls in ascending order. -/
  entries : List (String × ControlDescriptor)
  /-- The order of the names, which also makes them distinct. -/
  ascending : Ascending entries

namespace Catalog

/-- No controls. -/
def empty : Catalog := ⟨[], List.Pairwise.nil⟩

instance : Inhabited Catalog := ⟨empty⟩

@[ext] theorem ext {a b : Catalog} (h : a.entries = b.entries) : a = b := by
  cases a; cases b; cases h; rfl

instance : DecidableEq Catalog := fun a b =>
  if h : a.entries = b.entries then .isTrue (ext h) else .isFalse fun e => h (e ▸ rfl)

/-- The catalog of a list of entries, the last of each name. -/
def ofList (entries : List (String × ControlDescriptor)) : Catalog :=
  ⟨canonicalMembers entries, ascending_canonicalMembers entries⟩

/-- The control of a name. -/
def find? (c : Catalog) (name : String) : Option ControlDescriptor := member? name c.entries

/-- Every control changed in place. -/
def map (f : ControlDescriptor → ControlDescriptor) (c : Catalog) : Catalog :=
  ⟨c.entries.map fun e => (e.1, f e.2), by
    unfold Ascending
    exact List.pairwise_map.2 c.ascending⟩

/-- Every control normalized. -/
def normalized (c : Catalog) : Catalog := c.map ControlDescriptor.normalized

/-! ## Present values

A value comes with the number of its control. Where several controls have that number, the first of
them takes it. -/

/-- Changes the first entry whose control has a number. -/
def changeFirst (id : UInt32) (f : ControlDescriptor → ControlDescriptor) :
    List (String × ControlDescriptor) → List (String × ControlDescriptor)
  | [] => []
  | (name, d) :: rest =>
    if d.id = id then (name, f d) :: rest else (name, d) :: changeFirst id f rest

/-- Changing a control changes no name. -/
theorem map_fst_changeFirst (id : UInt32) (f : ControlDescriptor → ControlDescriptor)
    (entries : List (String × ControlDescriptor)) :
    (changeFirst id f entries).map (·.1) = entries.map (·.1) := by
  induction entries with
  | nil => rfl
  | cons e rest ih => simp only [changeFirst]; split <;> simp [ih]

theorem ascending_changeFirst {id : UInt32} {f : ControlDescriptor → ControlDescriptor}
    {entries : List (String × ControlDescriptor)} (h : Ascending entries) :
    Ascending (changeFirst id f entries) := by
  have hkeys := map_fst_changeFirst id f entries
  have : ((changeFirst id f entries).map (·.1)).Pairwise (· < ·) := by
    rw [hkeys]; exact List.pairwise_map.2 h
  exact List.pairwise_map.1 this

/-- The device has set a control: the first entry of its number takes the value, in the presented
range. -/
def note (c : Catalog) (v : ControlValue) : Catalog :=
  ⟨changeFirst v.id (fun d => { d with value := some (v.value + d.offset) }) c.entries,
    ascending_changeFirst c.ascending⟩

/-- The named descriptors of an object's members. -/
def entries? : List (Option String × Tree) → Option (List (String × ControlDescriptor))
  | [] => some []
  | (key, t) :: rest => do
    let name ← key
    let d ← ControlDescriptor.ofTree? t
    let es ← entries? rest
    return (name, d) :: es

/-- The catalog of an object; a later entry replaces an earlier one of its name. -/
def ofTree? : Tree → Option Catalog
  | .object members => (entries? members).map ofList
  | _ => none

/-- The catalog as an object. -/
def toValue (c : Catalog) : Value := .object (c.entries.map fun e => (e.1, e.2.toValue))

end Catalog

end Control

end CameraViewer
