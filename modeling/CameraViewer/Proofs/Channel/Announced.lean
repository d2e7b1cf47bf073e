import CameraViewer.Channel.Announcement
import CameraViewer.Proofs.Json.Reading

/-!
# Proofs/Channel/Announced — the receiver learns what was announced

`ChannelControl.ofTree?_read` reads the text that goes before a file back as the announcement it was
written from.
-/

namespace CameraViewer.Channel

open Json

/-! ## What is written -/

theorem isWord_uint64 (n : UInt64) : IsWord n.toNat := by
  have := n.toNat_lt
  constructor <;> omega

/-- What is written of a text over the channel is plain. -/
theorem ChannelControl.plain_toValue (c : ChannelControl) : c.toValue.Plain := by
  obtain ⟨f⟩ := c
  simp [ChannelControl.toValue, FileAnnouncement.toValue, plainMembers_iff, isWord_uint64]

/-! ## What is read

An announcement may have more members than are read, and its size is any document that stands for
the number. -/

/-- A number of 64 bits is read from a document that stands for it. -/
theorem uint64?_number {n : ℤ} {m : UInt64} (h : n = m.toNat) :
    (Tree.number (some (.int n))).uint64? = some m := by
  have hm := m.toNat_lt
  have hn : (0 : ℤ) ≤ n ∧ n < UInt64.size := by rw [UInt64.size]; omega
  have hback : UInt64.ofNat n.toNat = m := by rw [h, Int.toNat_natCast, UInt64.ofNat_toNat]
  rw [Tree.uint64?, Tree.natBelow?, Tree.int?, Option.bind_some, if_pos hn, Option.map_some, hback]

/-- An announcement is found in its own record, whatever document stands for its size. -/
theorem FileAnnouncement.ofTree?_object {mime name : String} {size : UInt64} {t : Tree}
    (h : t.uint64? = some size) :
    FileAnnouncement.ofTree? (.object [(some "type", .string (some mime)), (some "size", t),
      (some "name", .string (some name))]) = some ⟨mime, size, name⟩ := by
  simp [FileAnnouncement.ofTree?, Tree.record?, fieldsByName?, uniqueMember?, valuesOf,
    Tree.text?, h]

/-- **What was written of a file is read again.** -/
theorem FileAnnouncement.ofTree?_tree (a : FileAnnouncement) :
    FileAnnouncement.ofTree? a.toValue.tree = some a := by
  simp only [toValue, Value.tree, treeMembers, Value.int]
  exact ofTree?_object (uint64?_number rfl)

theorem ChannelControl.isReadable_tree (c : ChannelControl) : c.toValue.tree.isReadable := by
  obtain ⟨f⟩ := c
  rw [Tree.isReadable, depthLimit, show 127 = 125 + 1 + 1 from rfl]
  simp [ChannelControl.toValue, FileAnnouncement.toValue, Value.tree, treeMembers, Value.int,
    Tree.value?, memberValues?]

/-- A text is found in its own object, whatever document stands for its file. -/
theorem ChannelControl.ofTree?_object {file : FileAnnouncement} {t : Tree}
    (hread : (Tree.object [(some "type", .string (some "sendfile")), (some "file", t)]).isReadable)
    (h : FileAnnouncement.ofTree? t = some file) :
    ChannelControl.ofTree? (.object [(some "type", .string (some "sendfile")), (some "file", t)])
      = some (.sendFile file) := by
  simp [ChannelControl.ofTree?, hread, Tree.tagged?, uniqueMember?, valuesOf, Tree.text?,
    Tree.record?,
    fieldsByName?, h]

/-- What was written of a text is read again. -/
theorem ChannelControl.ofTree?_tree (c : ChannelControl) :
    ChannelControl.ofTree? c.toValue.tree = some c := by
  have hread := c.isReadable_tree
  obtain ⟨f⟩ := c
  simp only [toValue, Value.tree, treeMembers] at hread ⊢
  exact ofTree?_object hread f.ofTree?_tree

/-- **What was announced is read from the text of the announcement.** -/
theorem ChannelControl.ofTree?_read (c : ChannelControl) :
    (Tree.read? c.text).bind ChannelControl.ofTree? = some c := by
  rw [ChannelControl.text, Tree.read?_text c.plain_toValue, Option.bind_some, c.ofTree?_tree]

end CameraViewer.Channel
