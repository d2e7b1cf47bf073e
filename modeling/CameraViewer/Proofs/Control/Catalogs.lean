import CameraViewer.Control.Catalog
import CameraViewer.Proofs.Json.Records

/-!
# Proofs/Control/Catalogs — what a catalog holds under a name

A name stands for at most one control. A control that the device has set is found by its number:
where no other has that number, just the entry of its name takes the value (`find?_note`). What a
catalog says besides the present values is never touched by that (`outline_note`).
-/

namespace CameraViewer.Control

open Json

section
variable {entries : List (String × ControlDescriptor)} {name other : String} {d : ControlDescriptor}
  {f : ControlDescriptor → ControlDescriptor}

/-! ## Changing one control -/

/-- **Where a number is used once, changing its first entry changes that of one name.** -/
theorem member?_changeFirst (hentries : Distinct entries) (hmem : (name, d) ∈ entries)
    (honly : ∀ e ∈ entries, e.2.id = d.id → e.1 = name) :
    member? other (Catalog.changeFirst d.id f entries)
      = if other = name then some (f d) else member? other entries := by
  induction entries with
  | nil => exact absurd hmem List.not_mem_nil
  | cons first rest ih =>
    obtain ⟨k, x⟩ := first
    obtain ⟨hk, hrest⟩ := List.nodup_cons.mp hentries
    rw [Catalog.changeFirst]
    by_cases hid : x.id = d.id
    · obtain rfl : k = name := honly _ List.mem_cons_self hid
      obtain hfirst | hlater := List.mem_cons.mp hmem
      · obtain rfl : d = x := (Prod.mk.inj hfirst).2
        rw [if_pos rfl, member?, member?]
        simp only [eq_comm]
        split <;> rfl
      · exact absurd (List.mem_map.mpr ⟨_, hlater, rfl⟩) hk
    · have hne : (name, d) ≠ (k, x) := fun heq => hid (by rw [(Prod.mk.inj heq).2])
      have hlater := (List.mem_cons.mp hmem).resolve_left hne
      have hname : k ≠ name := fun heq => hk (heq ▸ List.mem_map.mpr ⟨_, hlater, rfl⟩)
      rw [if_neg hid, member?, member?, ih hrest hlater
        fun e he => honly e (List.mem_cons_of_mem _ he)]
      by_cases hother : k = other
      · rw [if_pos hother, if_pos hother, if_neg fun heq => hname (hother.trans heq)]
      · rw [if_neg hother, if_neg hother]

/-- What no change of a control touches is not touched by changing one. -/
theorem map_changeFirst {g : ControlDescriptor → ControlDescriptor} (h : ∀ d, g (f d) = g d)
    (id : UInt32) :
    (Catalog.changeFirst id f entries).map (fun e => (e.1, g e.2))
      = entries.map fun e => (e.1, g e.2) := by
  induction entries with
  | nil => rfl
  | cons first rest ih =>
    rw [Catalog.changeFirst]
    split
    · rw [List.map_cons, List.map_cons, h]
    · rw [List.map_cons, List.map_cons, ih]

end

/-- A control without its present value. -/
def ControlDescriptor.outline (d : ControlDescriptor) : ControlDescriptor :=
  { d with value := none }

namespace Catalog

variable {c c' : Catalog} {name : String} {d : ControlDescriptor}

/-! ## The controls of a catalog

Controls are found by their names and reported by their numbers, which need not differ. -/

/-- A control is found under its name. -/
theorem find?_eq_some_iff : c.find? name = some d ↔ (name, d) ∈ c.entries :=
  member?_eq_some_iff c.ascending.distinct

/-- What is made of all controls is made of the one that is found. -/
theorem find?_map (f : ControlDescriptor → ControlDescriptor) (c : Catalog) (name : String) :
    (c.map f).find? name = (c.find? name).map f :=
  member?_map f name c.entries

/-- No other control has the number of this one. -/
def OnlyAt (c : Catalog) (name : String) (id : UInt32) : Prop :=
  ∀ other d, c.find? other = some d → d.id = id → other = name

theorem onlyAt_iff {id : UInt32} : c.OnlyAt name id ↔ ∀ e ∈ c.entries, e.2.id = id → e.1 = name :=
  ⟨fun h e he => h e.1 e.2 (find?_eq_some_iff.mpr he),
    fun h other d hd => h (other, d) (find?_eq_some_iff.mp hd)⟩

instance (c : Catalog) (name : String) (id : UInt32) : Decidable (c.OnlyAt name id) :=
  decidable_of_iff _ onlyAt_iff.symm

/-- **A control that was set takes the value under its name, and no other does.** -/
theorem find?_note (h : c.find? name = some d) (honly : c.OnlyAt name d.id) (v : Int64)
    (other : String) :
    (c.note ⟨d.id, v⟩).find? other
      = if other = name then some { d with value := some (v + d.offset) } else c.find? other :=
  member?_changeFirst c.ascending.distinct (find?_eq_some_iff.mp h) (onlyAt_iff.mp honly)

/-- A catalog without the present values. -/
def outline (c : Catalog) : Catalog := c.map ControlDescriptor.outline

theorem outline_note (c : Catalog) (v : ControlValue) : (c.note v).outline = c.outline := by
  refine Catalog.ext (map_changeFirst (g := ControlDescriptor.outline) ?_ v.id)
  exact fun d => rfl

/-- Catalogs of one outline differ in present values only. -/
theorem find?_of_outline_eq (h : c.outline = c'.outline) (hfind : c.find? name = some d) :
    ∃ d', c'.find? name = some d' ∧ d = { d' with value := d.value } := by
  have hsame : (c.find? name).map ControlDescriptor.outline
      = (c'.find? name).map ControlDescriptor.outline := by
    rw [← find?_map, ← find?_map]
    exact congrArg (find? · name) h
  rw [hfind, Option.map_some] at hsame
  obtain ⟨d', hd', heq⟩ := Option.map_eq_some_iff.mp hsame.symm
  refine ⟨d', hd', ?_⟩
  obtain ⟨⟩ := d
  obtain ⟨⟩ := d'
  cases heq
  rfl

end Catalog

end CameraViewer.Control
