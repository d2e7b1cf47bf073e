import CameraViewer.Proofs.Signal.Frames

/-!
# Proofs/Signal/Servers — which texts announce servers

The relay announces servers in a text of the type `iceServers`: a bare list, or a configuration with
a list and whatever else. A server has one address or a list of them. `Announces` says this of the
values in a text. The decoder tries one shape after the other, and finds the same: a text carries
servers exactly if it announces them, all of them in their order (`announces_iff`). One server that
does not fit spoils the whole text.
-/

namespace CameraViewer.Signal

open Json Control

/-! ## Servers in a value

The forms that an announcement may have are listed apart from the decoder. -/

/-- The addresses of a server: a string, or a list of strings. -/
inductive Addresses : Value → IceUrls → Prop
  | one (url : String) : Addresses (.string url) (.one url)
  | many (urls : List String) : Addresses (.array (urls.map .string)) (.many urls)

/-- A text that may be missing, or `null`. -/
inductive MayTell : Option Value → Option String → Prop
  | missing : MayTell none none
  | null : MayTell (some .null) none
  | told (text : String) : MayTell (some (.string text)) (some text)

/-- A record of a server, with addresses and perhaps a user. -/
def Describes (v : Value) (server : IceServer) : Prop :=
  ∃ urls username credential,
    Holds ["urls", "username", "credential"] v [some urls, username, credential]
      ∧ Addresses urls server.urls ∧ MayTell username server.username
      ∧ MayTell credential server.credential

/-- Servers in their order, as a bare list or as the list of a configuration. -/
inductive Lists : Value → List IceServer → Prop
  | bare {items : List Value} {servers : List IceServer}
    (h : List.Forall₂ Describes items servers) :
    Lists (.array items) servers
  | config {members : List (String × Value)} {items : List Value} {servers : List IceServer}
    (hitems : member? "iceServers" members = some (.array items))
    (h : List.Forall₂ Describes items servers) : Lists (.object members) servers

/-- A text announces servers: it is an object of their type that lists them, and what stands under
`ctrls` fits. -/
def Announces (text : String) (servers : List IceServer) : Prop :=
  ∃ members raw, Value.read? text = some (.object members) ∧ (∃ c, HoldsCatalog members c)
    ∧ member? "type" members = some (.string "iceServers")
    ∧ member? "iceServers" members = some raw ∧ Lists raw servers

/-! ## What is decoded -/

section
variable {v : Value} {members : List (String × Value)}

/-- Addresses are decoded as they are written, one or many. -/
theorem urls_ofTree?_iff {urls : IceUrls} :
    IceUrls.ofTree? v.tree = some urls ↔ Addresses v urls := by
  have hmany : ∀ found : List String, v.tree.list? Tree.text? = some found
      ↔ v = .array (found.map .string) := fun found => by
    simp only [list?_tree_eq_some_iff, text?_tree_eq_some_iff]
    constructor
    · rintro ⟨items, rfl, h⟩
      rw [← List.forall₂_map_right_iff, List.forall₂_eq_eq_eq] at h
      rw [h]
    · rintro rfl
      exact ⟨_, rfl, by simp [List.forall₂_map_left_iff, List.forall₂_same]⟩
  constructor
  · intro h
    rw [IceUrls.ofTree?] at h
    split at h
    · rename_i url hurl
      obtain rfl := text?_tree_eq_some_iff.mp hurl
      exact Option.some.inj h ▸ .one url
    · obtain ⟨found, hfound, rfl⟩ := Option.map_eq_some_iff.mp h
      exact (hmany found).mp hfound ▸ .many found
  · rintro (url | urls)
    · rfl
    · rw [IceUrls.ofTree?, (hmany urls).mpr rfl]
      rfl

theorem optionalField_text_iff {told : Option Value} {text : Option String} :
    Candidate.optionalField Tree.text? (told.map Value.tree) = some text ↔ MayTell told text := by
  constructor
  · intro h
    rcases told with _ | v
    · exact Option.some.inj h ▸ .missing
    · cases v with
      | null => exact Option.some.inj h ▸ .null
      | string s => exact Option.some.inj h ▸ .told s
      | _ => cases h
  · rintro (_ | _ | text) <;> rfl

theorem server_ofTree?_iff (hv : v.IsRead) {server : IceServer} :
    IceServer.ofTree? v.tree = some server ↔ Describes v server := by
  constructor
  · intro h
    simp only [IceServer.ofTree?, bind, Option.bind_eq_some_iff, record?_eq_some_iff hv] at h
    obtain ⟨_, ⟨fields, hfields, rfl⟩, h⟩ := h
    split at h
    · rename_i heq
      obtain ⟨urls, username, credential, rfl⟩ : ∃ urls username credential,
          fields = [urls, username, credential] :=
        List.length_eq_three.mp (by simpa using congrArg List.length heq)
      obtain ⟨rfl, rfl, rfl⟩ := by simpa using heq.symm
      simp only [Option.bind_eq_some_iff, Option.map_eq_some_iff, optionalField_text_iff] at h
      obtain ⟨_, ⟨urls, rfl, rfl⟩, found, hurls, user, huser, secret, hsecret, heq⟩ := h
      obtain rfl := Option.some.inj heq
      exact ⟨_, _, _, hfields, urls_ofTree?_iff.mp hurls, huser, hsecret⟩
    · cases h
  · rintro ⟨urls, username, credential, hfields, hurls, huser, hsecret⟩
    have hrecord := (record?_eq_some_iff hv).mpr ⟨_, hfields, rfl⟩
    rw [IceServer.ofTree?, hrecord]
    simp [-Option.map_eq_map, urls_ofTree?_iff.mpr hurls, optionalField_text_iff.mpr huser,
      optionalField_text_iff.mpr hsecret]

theorem servers_list?_iff (hv : v.IsRead) {servers : List IceServer} :
    v.tree.list? IceServer.ofTree? = some servers
      ↔ ∃ items, v = .array items ∧ List.Forall₂ Describes items servers := by
  rw [list?_tree_eq_some_iff]
  refine exists_congr fun items => and_congr_right fun hitems => ?_
  subst hitems
  constructor <;> intro h
  · have hread := (List.forall₂_and_left items servers).mpr ⟨hv.items, h⟩
    exact hread.imp fun _ _ ⟨hitem, h⟩ => (server_ofTree?_iff hitem).mp h
  · have hread := (List.forall₂_and_left items servers).mpr ⟨hv.items, h⟩
    exact hread.imp fun _ _ ⟨hitem, h⟩ => (server_ofTree?_iff hitem).mpr h

theorem configOfTree?_iff (hv : v.IsRead) {servers : List IceServer} :
    IceServerList.configOfTree? v.tree = some servers
      ↔ ∃ members items, v = .object members ∧ member? "iceServers" members = some (.array items)
        ∧ List.Forall₂ Describes items servers := by
  cases v with
  | object members =>
    have hfields : (Value.object members).tree.namedRecord? ["iceServers"]
        = some [(member? "iceServers" members).map Value.tree] :=
      record?_tree ["iceServers"] hv.members.1
    rw [IceServerList.configOfTree?, hfields]
    cases hlist : member? "iceServers" members with
    | none => simp [hlist]
    | some raw =>
      simp [hlist, servers_list?_iff (hv.member hlist)]
  | _ => simp [IceServerList.configOfTree?, Value.tree, Tree.namedRecord?]

/-- **The servers that are decoded are those that the value lists.** -/
theorem serverList_ofTree?_iff (hv : v.IsRead) {servers : List IceServer} :
    (∃ l, IceServerList.ofTree? v.tree = some l ∧ l.toList = servers) ↔ Lists v servers := by
  rw [IceServerList.ofTree?]
  constructor
  · rintro ⟨l, hl, rfl⟩
    split at hl
    · rename_i servers hconfig
      obtain ⟨members, items, rfl, hitems, h⟩ := (configOfTree?_iff hv).mp hconfig
      exact Option.some.inj hl ▸ .config hitems h
    · obtain ⟨servers, hbare, rfl⟩ := Option.map_eq_some_iff.mp hl
      obtain ⟨items, rfl, h⟩ := (servers_list?_iff hv).mp hbare
      exact .bare h
  · rintro (@⟨items, servers, h⟩ | ⟨hitems, h⟩)
    · have hbare := (servers_list?_iff hv).mpr ⟨items, rfl, h⟩
      exact ⟨.bare servers, by rw [hbare]; rfl, rfl⟩
    · have hconfig := (configOfTree?_iff hv).mpr ⟨_, _, rfl, hitems, h⟩
      exact ⟨.config servers, by rw [hconfig], rfl⟩

/-! ## What is announced

The list is a part of a text of the relay, so it is announced only if the whole text fits. -/

/-- **The servers of a message are those under its name.** -/
theorem iceServers_ofTree?_iff {text : String} (hread : Value.read? text = some (.object members))
    (htype : member? "type" members = some (.string "iceServers")) {servers : List IceServer} :
    (∃ l, Envelope.ofTree? (Value.object members).tree = some (.iceServers l) ∧ l.toList = servers)
      ↔ ∃ raw, member? "iceServers" members = some raw ∧ Lists raw servers := by
  have hv := Value.isRead_of_read? hread
  obtain ⟨rest, hrest, hdecode⟩ := Envelope.ofTree?_of_tag (k := .iceServers) hv.members.1
    (Value.isReadable_of_read? hread) htype
  rw [SignalKind.fieldNames, List.map_singleton] at hrest
  rw [hdecode, Envelope.ofFields?, hrest]
  cases hraw : member? "iceServers" members with
  | none => simp
  | some raw =>
    simp [Option.bind_eq_some_iff, ← serverList_ofTree?_iff (hv.member hraw)]

/-- **A text carries servers exactly if it announces them.** -/
theorem announces_iff {text : String} {servers : List IceServer} : Announces text servers
    ↔ ∃ c l, Carries text c (some (.iceServers l)) ∧ l.toList = servers := by
  constructor
  · rintro ⟨members, raw, hread, ⟨c, hc⟩, htype, hraw, hlists⟩
    obtain ⟨l, hl, heq⟩ := (iceServers_ofTree?_iff hread htype).mpr ⟨raw, hraw, hlists⟩
    exact ⟨c, l, ⟨members, hread, hc, .found htype hl, .inr ⟨_, htype⟩⟩, heq⟩
  · rintro ⟨c, l, ⟨members, hread, hc, hmessage, -⟩, heq⟩
    cases hmessage with
    | found htype hl =>
      obtain ⟨raw, hraw, hlists⟩ := (iceServers_ofTree?_iff hread htype).mp ⟨l, hl, heq⟩
      exact ⟨members, raw, hread, ⟨c, hc⟩, htype, hraw, hlists⟩

/-- A text announces one list only. -/
theorem announces_unique {text : String} {servers servers' : List IceServer}
    (h : Announces text servers) (h' : Announces text servers') : servers = servers' := by
  obtain ⟨c, l, hl, rfl⟩ := announces_iff.mp h
  obtain ⟨c', l', hl', rfl⟩ := announces_iff.mp h'
  obtain ⟨-, he⟩ := carries_unique hl hl'
  cases he
  rfl

end

end CameraViewer.Signal
