import CameraViewer.CommandLine.Reader
import CameraViewer.Proofs.Signal.Frames
import Mathlib.Data.List.TakeWhile

/-!
# Proofs/CommandLine/Spelling — what the words of a command line ask for

The words of a command line spell settings with their values, attached or in a word of their own,
and switches (`Spells`). The reader takes a word of its own only when it has seen what comes next,
but it follows a command line exactly if that spells something, and does what it spells in order
(`readWords_ok_iff`).
-/

namespace CameraViewer.CommandLine

open Signal (bind_eq_ok_iff)

/-! ## Words -/

/-- A word that does not look like a name: one dash alone, or no dash in front. -/
def IsPlain (word : String) : Prop := ∀ c rest, word.toList ≠ '-' :: c :: rest

/-- A name can stand behind two dashes and in front of an equals sign. -/
def IsName (name : String) : Prop := name ≠ "" ∧ '=' ∉ name.toList

theorem Setting.isName (s : Setting) : IsName s.name := by
  cases s <;> exact ⟨by decide, by decide⟩

theorem Switch.isName (w : Switch) : IsName w.name := by
  cases w <;> exact ⟨by decide, by decide⟩

theorem toList_dashes (name : String) : ("--" ++ name).toList = '-' :: '-' :: name.toList := by
  rw [String.toList_append]
  rfl

/-- What follows two dashes is a name, and what is attached to it. -/
theorem ofWord_dashes {text : String} (h : text ≠ "") :
    Token.ofWord ("--" ++ text)
      = .long (String.ofList (text.toList.takeWhile (· ≠ '='))) (attached? text.toList) := by
  have hne : text.toList ≠ [] := fun hnil => h (String.toList_eq_nil_iff.mp hnil)
  obtain ⟨c, cs, hcs⟩ := List.exists_cons_of_ne_nil hne
  rw [Token.ofWord, toList_dashes, hcs]
  rfl

/-- The word of a name, with what is attached to it. -/
def longWord (name : String) : Option String → String
  | none => "--" ++ name
  | some value => "--" ++ (name ++ "=" ++ value)

theorem toList_attached (name value : String) :
    (name ++ "=" ++ value).toList = name.toList ++ '=' :: value.toList := by
  rw [String.toList_append, String.toList_append, List.append_assoc]
  rfl

theorem toList_longWord (name : String) (value : Option String) :
    (longWord name value).toList
      = '-' :: '-' :: (name.toList ++ (value.map fun value => '=' :: value.toList).getD []) := by
  cases value with
  | none => rw [longWord, toList_dashes, Option.map_none, Option.getD_none, List.append_nil]
  | some value => rw [longWord, toList_dashes, toList_attached, Option.map_some, Option.getD_some]

section
variable {name word : String} {value : Option String}

/-- No character of a name ends it. -/
theorem IsName.forall_ne (h : IsName name) : ∀ c ∈ name.toList, decide (c ≠ '=') = true := by
  intro c hc
  simpa using ne_of_mem_of_not_mem hc h.2

/-- **The word of a name is read as that name.** -/
theorem ofWord_longWord (h : IsName name) (value : Option String) :
    Token.ofWord (longWord name value) = .long name value := by
  cases value with
  | none =>
    rw [longWord, ofWord_dashes h.1, attached?, List.takeWhile_eq_self_iff.mpr h.forall_ne,
      List.dropWhile_eq_nil_iff.mpr h.forall_ne, String.ofList_toList]
  | some value =>
    have hne : name ++ "=" ++ value ≠ "" := fun heq => by
      simpa [heq] using (toList_attached name value).symm
    rw [longWord, ofWord_dashes hne, toList_attached, attached?,
      List.takeWhile_append_of_pos h.forall_ne, List.dropWhile_append_of_pos h.forall_ne]
    simp

/-- What is attached begins behind the first equals sign. -/
theorem attached?_cons (c : Char) (cs : List Char) :
    attached? (c :: cs) = if c = '=' then some (String.ofList cs) else attached? cs := by
  by_cases hc : c = '=' <;> simp [attached?, hc]

/-- A text is what stands in front of the first equals sign, and what is attached. -/
theorem takeWhile_append_attached? (cs : List Char) :
    cs.takeWhile (· ≠ '=') ++ ((attached? cs).map fun value => '=' :: value.toList).getD []
      = cs := by
  induction cs with
  | nil => rfl
  | cons c cs ih =>
    rw [attached?_cons, List.takeWhile_cons]
    by_cases hc : c = '='
    · simp [hc]
    · simpa [hc] using ih

/-- **A word that is read as a name is the word of it.** -/
theorem eq_longWord (h : Token.ofWord word = .long name value) : word = longWord name value := by
  rw [Token.ofWord] at h
  split at h
  case h_2 rest _ heq =>
    obtain ⟨rfl, rfl⟩ := Token.long.inj h
    rw [← String.toList_inj, toList_longWord, heq, String.toList_ofList,
      takeWhile_append_attached? rest]
  all_goals cases h

end

/-- A word is read as plain exactly if it looks like no name. -/
theorem ofWord_plain_iff {word text : String} :
    Token.ofWord word = .plain text ↔ text = word ∧ IsPlain word := by
  rw [Token.ofWord]
  constructor
  · intro h
    split at h
    case h_4 hother =>
      exact ⟨(Token.plain.inj h).symm, fun c rest heq => hother c rest heq⟩
    all_goals cases h
  · rintro ⟨rfl, h⟩
    split
    case h_4 => rfl
    all_goals exact absurd ‹_› (h _ _)

theorem eq_dashes {word : String} (h : Token.ofWord word = .terminator) : word = "--" := by
  rw [Token.ofWord] at h
  split at h
  case h_1 heq => exact String.toList_inj.mp heq
  all_goals cases h

/-! ## What words spell

The grammar says which words ask for what, and the reader follows exactly the words of the grammar
whose items can be done. -/

/-- One thing that is asked for. -/
inductive Item
  /-- A setting with a value. -/
  | given (s : Setting) (value : String)
  /-- A switch. -/
  | on (w : Switch)

/-- Does what is asked for. -/
def Item.take (a : Arguments) : Item → Except Refusal Arguments
  | .given s value => a.put s value
  | .on w => a.turnOn w

/-- What the words of a command line ask for, in order. Nothing but their end follows two dashes. -/
inductive Spells : List String → List Item → Prop
  | nil : Spells [] []
  | dashes : Spells ["--"] []
  | attached (s : Setting) (value : String) {rest : List String} {items : List Item}
    (h : Spells rest items) :
    Spells (longWord s.name (some value) :: rest) (.given s value :: items)
  | apart (s : Setting) {value : String} (hvalue : IsPlain value) {rest : List String}
    {items : List Item} (h : Spells rest items) :
    Spells (longWord s.name none :: value :: rest) (.given s value :: items)
  | switch (w : Switch) {rest : List String} {items : List Item} (h : Spells rest items) :
    Spells (longWord w.name none :: rest) (.on w :: items)

/-- A setting is found under its name. -/
theorem Setting.ofName?_name (s : Setting) : ofName? s.name = some s := by
  cases s <;> rfl

theorem Setting.name_of_ofName? {name : String} {s : Setting} (h : ofName? name = some s) :
    s.name = name := by
  simpa using List.find?_some h

/-- No switch has the name of a setting. -/
theorem Setting.ofName?_switch (w : Switch) : ofName? w.name = none := by
  cases w <;> rfl

theorem Switch.ofName?_name (w : Switch) : ofName? w.name = some w := by
  cases w <;> rfl

theorem Switch.name_of_ofName? {name : String} {w : Switch} (h : ofName? name = some w) :
    w.name = name := by
  simpa using List.find?_some h

namespace Reader

/-- What waits to be taken, unless it lacks its value. -/
def pending? (r : Reader) : Option (List Item) :=
  match r.waiting with
  | none => some []
  | some (_, none) => none
  | some (s, some value) => some [.given s value]

section
variable {r : Reader} {pending items : List Item} {words : List String} {a : Arguments}

theorem finish_eq (h : r.pending? = some pending) :
    r.finish = pending.foldlM Item.take r.taken := by
  obtain ⟨taken, waiting⟩ := r
  rcases waiting with _ | ⟨s, _ | value⟩
  · obtain rfl := Option.some.inj h
    rfl
  · cases h
  · obtain rfl := Option.some.inj h
    rw [List.foldlM_cons]
    cases hput : taken.put s value <;> simp [finish, Item.take, hput]

/-- Nothing is taken while a setting lacks its value. -/
theorem pending?_of_finish (h : r.finish = .ok a) : r.pending? ≠ none := by
  obtain ⟨taken, waiting⟩ := r
  rcases waiting with _ | ⟨s, _ | value⟩
  · nofun
  · cases h
  · nofun

/-- The name of a setting is read as that setting, with or without a value attached. -/
theorem readName_setting (s : Setting) (value : Option String) (r : Reader) :
    r.readName s.name value = r.readSetting s value := by
  rw [readName, s.ofName?_name]

theorem readName_switch (w : Switch) (r : Reader) : r.readName w.name none = r.readSwitch w := by
  rw [readName, Setting.ofName?_switch, w.ofName?_name]
  rfl

/-- A name is read before the words that follow it. -/
theorem readWords_long {word name : String} {value : Option String}
    (h : Token.ofWord word = .long name value) (r : Reader) (rest : List String) :
    r.readWords (word :: rest) = r.readName name value >>= fun r => r.readWords rest := by
  rw [readWords.eq_def]
  simp only [h]
  rfl

theorem readWords_short {word : String} {letter : Char} (h : Token.ofWord word = .short letter)
    (r : Reader) (rest : List String) :
    r.readWords (word :: rest) = r.readLetter letter >>= fun r => r.readWords rest := by
  rw [readWords.eq_def]
  simp only [h]
  rfl

theorem readWords_plain {word text : String} (h : Token.ofWord word = .plain text) (r : Reader)
    (rest : List String) :
    r.readWords (word :: rest) = r.readPlain text >>= fun r => r.readWords rest := by
  rw [readWords.eq_def]
  simp only [h]
  rfl

theorem readWords_dashes (r : Reader) : r.readWords ["--"] = r.finish := rfl

/-- **What is spelled is done**, after what waits. -/
theorem readWords_ok_iff_of_spells (h : Spells words items) (hr : r.pending? = some pending) :
    r.readWords words = .ok a ↔ (pending ++ items).foldlM Item.take r.taken = .ok a := by
  induction h generalizing r pending with
  | nil => rw [readWords, finish_eq hr, List.append_nil]
  | dashes => rw [readWords_dashes, finish_eq hr, List.append_nil]
  | @attached s value rest items _ ih =>
    rw [readWords_long (ofWord_longWord s.isName _), readName_setting, readSetting, finish_eq hr,
      List.foldlM_append]
    simp only [bind_assoc, pure_bind, bind_eq_ok_iff, List.foldlM_cons]
    refine exists_congr fun taken => and_congr_right fun _ => exists_congr fun next =>
      and_congr_right fun _ => ?_
    exact ih (r := { taken := next }) rfl
  | @apart s value hvalue rest items _ ih =>
    rw [readWords_long (ofWord_longWord s.isName _), readName_setting, readSetting, finish_eq hr,
      List.foldlM_append]
    simp only [bind_assoc, pure_bind, bind_eq_ok_iff]
    refine exists_congr fun taken => and_congr_right fun _ => ?_
    rw [readWords_plain (ofWord_plain_iff.mpr ⟨rfl, hvalue⟩)]
    exact ih (r := { taken, waiting := some (s, some value) }) rfl
  | @switch w rest items _ ih =>
    rw [readWords_long (ofWord_longWord w.isName _), readName_switch, readSwitch, finish_eq hr,
      List.foldlM_append]
    simp only [bind_assoc, pure_bind, bind_eq_ok_iff, List.foldlM_cons]
    refine exists_congr fun taken => and_congr_right fun _ => exists_congr fun next =>
      and_congr_right fun _ => ?_
    exact ih (r := { taken := next }) rfl

/-- What comes of a name: a setting that is taken or waits for its value, or a switch. -/
theorem readName_ok {name : String} {value : Option String} {next : Reader}
    (h : r.readName name value = .ok next) : r.pending? ≠ none
      ∧ ((∃ s taken, Setting.name s = name
          ∧ next = { taken, waiting := if value.isNone then some (s, none) else none })
        ∨ ∃ w taken, Switch.name w = name ∧ value = none ∧ next = { taken }) := by
  rw [readName] at h
  split at h
  · rename_i s hs
    obtain ⟨taken, hfinish, h⟩ := bind_eq_ok_iff.mp h
    refine ⟨pending?_of_finish hfinish, .inl ?_⟩
    cases value with
    | none => exact ⟨s, taken, Setting.name_of_ofName? hs, (Except.ok.inj h).symm⟩
    | some value =>
      obtain ⟨put, -, h⟩ := bind_eq_ok_iff.mp h
      exact ⟨s, put, Setting.name_of_ofName? hs, (Except.ok.inj h).symm⟩
  · rename_i w _ hw
    split at h
    · cases h
    · rename_i hvalue
      obtain ⟨taken, hfinish, h⟩ := bind_eq_ok_iff.mp h
      obtain ⟨turned, -, h⟩ := bind_eq_ok_iff.mp h
      exact ⟨pending?_of_finish hfinish, .inr ⟨w, turned, Switch.name_of_ofName? hw,
        by simpa using hvalue, (Except.ok.inj h).symm⟩⟩
  · cases h

/-- A letter asks for nothing that is followed. -/
theorem readLetter_ne_ok (letter : Char) (r next : Reader) : r.readLetter letter ≠ .ok next := by
  intro h
  rw [readLetter] at h
  split at h
  · rename_i w hw
    obtain ⟨taken, -, h⟩ := bind_eq_ok_iff.mp h
    obtain ⟨_, h, -⟩ := bind_eq_ok_iff.mp h
    unfold Switch.ofLetter? at hw
    split at hw <;> cases hw <;> cases h
  · cases h

/-- A plain word is the value of the setting that waits. -/
theorem readPlain_ok {text : String} {next : Reader} (h : r.readPlain text = .ok next) :
    r.pending? = none ∧ next.pending? ≠ none := by
  obtain ⟨taken, waiting⟩ := r
  rcases waiting with _ | ⟨s, _ | value⟩
  · cases h
  · obtain rfl := Except.ok.inj h
    exact ⟨rfl, nofun⟩
  · cases h

/-- **Words that are followed spell something**, and in front of it stands the value of a setting
that lacks it. -/
theorem spells_of_readWords (h : r.readWords words = .ok a) :
    (r.pending? ≠ none → ∃ items, Spells words items)
      ∧ (r.pending? = none → ∃ value rest items, words = value :: rest ∧ IsPlain value
        ∧ Spells rest items) := by
  induction words generalizing r with
  | nil =>
    rw [readWords] at h
    exact ⟨fun _ => ⟨[], .nil⟩, fun hnone => absurd hnone (pending?_of_finish h)⟩
  | cons word rest ih =>
    cases htoken : Token.ofWord word with
    | long name value =>
      rw [readWords_long htoken, bind_eq_ok_iff] at h
      obtain ⟨next, hnext, h⟩ := h
      obtain rfl := eq_longWord htoken
      obtain ⟨hpending, hname⟩ := readName_ok hnext
      refine ⟨fun _ => ?_, fun hnone => absurd hnone hpending⟩
      rcases hname with ⟨s, taken, rfl, rfl⟩ | ⟨w, taken, rfl, rfl, rfl⟩
      · cases value with
        | none =>
          obtain ⟨value, rest, items, rfl, hvalue, hitems⟩ := (ih h).2 rfl
          exact ⟨_, .apart s hvalue hitems⟩
        | some value =>
          obtain ⟨items, hitems⟩ := (ih h).1 nofun
          exact ⟨_, .attached s value hitems⟩
      · obtain ⟨items, hitems⟩ := (ih h).1 nofun
        exact ⟨_, .switch w hitems⟩
    | short letter =>
      rw [readWords_short htoken, bind_eq_ok_iff] at h
      obtain ⟨next, hnext, -⟩ := h
      exact absurd hnext (readLetter_ne_ok letter r next)
    | plain text =>
      rw [readWords_plain htoken, bind_eq_ok_iff] at h
      obtain ⟨next, hnext, h⟩ := h
      obtain ⟨rfl, hplain⟩ := ofWord_plain_iff.mp htoken
      obtain ⟨hnone, hpending⟩ := readPlain_ok hnext
      obtain ⟨items, hitems⟩ := (ih h).1 hpending
      exact ⟨fun hsome => absurd hnone hsome, fun _ => ⟨_, rest, items, rfl, hplain, hitems⟩⟩
    | terminator =>
      obtain rfl := eq_dashes htoken
      cases rest with
      | nil => exact ⟨fun _ => ⟨[], .dashes⟩, fun hnone => absurd hnone (pending?_of_finish h)⟩
      | cons next rest => cases h

/-- **A command line is followed exactly if it spells what can be done**, one thing after the other.
-/
theorem readWords_ok_iff : ({} : Reader).readWords words = .ok a
    ↔ ∃ items, Spells words items ∧ items.foldlM Item.take {} = .ok a := by
  constructor
  · intro h
    obtain ⟨items, hitems⟩ := (spells_of_readWords h).1 nofun
    exact ⟨items, hitems, (readWords_ok_iff_of_spells (r := {}) hitems rfl).mp h⟩
  · rintro ⟨items, hitems, h⟩
    exact (readWords_ok_iff_of_spells (r := {}) hitems rfl).mpr h

end

end Reader

end CameraViewer.CommandLine
