import CameraViewer.CommandLine.Invocation
import CameraViewer.Proofs.CommandLine.Spelling

/-!
# Proofs/CommandLine/Transparency — a command line changes what it names

The settings come from the environment, and a command line puts its own in place of those it names
(`Arguments.transparent`). The codec is read twice: with the settings, where letters may be of
either case, and by the command line where no argument gives it, and there they have to be small. So
a program whose settings name a codec in capital letters does not start without an argument for it
(`refused_capitals`).
-/

namespace CameraViewer.CommandLine

open Config Peer Signal Telemetry

/-! ## What arguments say -/

/-- The value that was read for a setting is that of a text. -/
def Setting.Reads (s : Setting) (value : String) (a : Arguments) : Prop :=
  match s with
  | .scheme => a.scheme = some value
  | .host => a.host = some value
  | .port => ∃ port, Arguments.readPort? value = some port ∧ a.port = some port
  | .path => a.path = some value
  | .sendClip => a.sendClip = some value
  | .codec => ∃ codec, Codec.ofExactName? value = some codec ∧ a.codec = some codec
  | .statusInterval =>
    ∃ ms, Text.readNumeral? UInt64.size value.toList = some ms ∧ a.statusMs = some ms
  | .logLevel => ∃ level, LogLevel.ofName? value = some level ∧ a.logLevel = some level
  | .logFile => a.logFile = some value

/-- What was read for a setting is as before. -/
def Setting.Kept (s : Setting) (a a' : Arguments) : Prop :=
  a'.has s = a.has s ∧ ∀ value, s.Reads value a → s.Reads value a'

/-- A setting is read that was not before, and nothing else. -/
structure Arguments.Puts (a : Arguments) (s : Setting) (value : String) (a' : Arguments) :
    Prop where
  fresh : a.has s = false
  reads : s.Reads value a'
  offer : a'.offer = a.offer
  others : ∀ other, other ≠ s → other.Kept a a'

/-- What items ask for is what the arguments hold. -/
structure Tells (items : List Item) (a : Arguments) : Prop where
  reads : ∀ s value, .given s value ∈ items → s.Reads value a
  only : ∀ s, a.has s = true → ∃ value, .given s value ∈ items
  offer : a.offer = true ↔ .on .offer ∈ items

section
variable {s : Setting} {value : String} {a a' : Arguments} {items : List Item}

theorem Setting.Reads.has (h : s.Reads value a) : a.has s = true := by
  cases s with
  | port | codec | statusInterval | logLevel =>
    obtain ⟨_, -, h⟩ := h
    exact Option.isSome_of_eq_some h
  | _ => exact Option.isSome_of_eq_some h

theorem orRefuse_ok {α : Type} {r : Refusal} {x : Option α} {v : α}
    (h : Arguments.orRefuse r x = .ok v) : x = some v := by
  cases x with
  | none => cases h
  | some w => exact congrArg some (Except.ok.inj h)

theorem readPath_ok {path : String} (h : Arguments.readPath s value = .ok path) : path = value := by
  rw [Arguments.readPath] at h
  split at h
  · cases h
  · exact (Except.ok.inj h).symm

theorem Arguments.fresh_of_put (h : a.put s value = .ok a') : a.has s = false := by
  by_contra hrepeated
  rw [Bool.not_eq_false] at hrepeated
  rw [put.eq_def, if_pos hrepeated] at h
  cases h

/-- What is taken is read, and no other setting is touched. -/
theorem Arguments.puts_of_put (h : a.put s value = .ok a') : a.Puts s value a' := by
  have hfresh := fresh_of_put h
  have hnot : ¬a.has s = true := by simp [hfresh]
  rw [put.eq_def, if_neg hnot] at h
  cases s with
  | scheme | host | path =>
    obtain rfl := Except.ok.inj h
    refine ⟨hfresh, rfl, rfl, fun other hother => ?_⟩
    cases other <;> first | exact absurd rfl hother | exact ⟨rfl, fun _ => id⟩
  | sendClip | logFile =>
    obtain ⟨path, hpath, hput⟩ := bind_eq_ok_iff.mp h
    obtain rfl := Except.ok.inj hput
    obtain rfl := readPath_ok hpath
    refine ⟨hfresh, rfl, rfl, fun other hother => ?_⟩
    cases other <;> first | exact absurd rfl hother | exact ⟨rfl, fun _ => id⟩
  | port | codec | statusInterval | logLevel =>
    obtain ⟨read, hread, h⟩ := bind_eq_ok_iff.mp h
    obtain rfl := Except.ok.inj h
    refine ⟨hfresh, ⟨read, orRefuse_ok hread, rfl⟩, rfl, fun other hother => ?_⟩
    cases other <;> first | exact absurd rfl hother | exact ⟨rfl, fun _ => id⟩

/-- A switch leaves the settings alone. -/
theorem Arguments.kept_of_turnOn {w : Switch} (h : a.turnOn w = .ok a') :
    (∀ s, Setting.Kept s a a') ∧ (a'.offer = true ↔ a.offer = true ∨ w = .offer) := by
  cases w with
  | offer | record | talk =>
    simp only [turnOn] at h
    split at h
    · cases h
    obtain rfl := Except.ok.inj h
    refine ⟨fun s => ?_, by simp⟩
    cases s <;> exact ⟨rfl, fun _ => id⟩
  | help | version => cases h

/-- What is kept goes on to be told, and so does what is taken. -/
theorem Tells.put (ht : Tells items a) (h : a.Puts s value a') :
    Tells (items ++ [.given s value]) a' where
  reads other v hv := by
    rcases List.mem_append.mp hv with hbefore | hlast
    · have hreads := ht.reads other v hbefore
      have hother : other ≠ s := by
        rintro rfl
        exact Bool.false_ne_true (h.fresh.symm.trans hreads.has)
      exact (h.others other hother).2 v hreads
    · obtain ⟨rfl, rfl⟩ := Item.given.inj (List.mem_singleton.mp hlast)
      exact h.reads
  only other hhas := by
    by_cases hother : other = s
    · exact ⟨value, by simp [hother]⟩
    · rw [(h.others other hother).1] at hhas
      exact (ht.only other hhas).imp fun _ => List.mem_append_left _
  offer := by simp [h.offer, ht.offer]

theorem Tells.turnOn {w : Switch} (ht : Tells items a) (h : a.turnOn w = .ok a') :
    Tells (items ++ [.on w]) a' where
  reads s v hv := by
    have hv : .given s v ∈ items := by simpa using hv
    exact ((Arguments.kept_of_turnOn h).1 s).2 v (ht.reads s v hv)
  only s hhas := by
    rw [((Arguments.kept_of_turnOn h).1 s).1] at hhas
    exact (ht.only s hhas).imp fun _ => List.mem_append_left _
  offer := by simp [(Arguments.kept_of_turnOn h).2, ht.offer, eq_comm]

/-- **What is done one after the other is told.** -/
theorem tells_of_foldlM (h : items.foldlM Item.take {} = .ok a) : Tells items a := by
  induction items using List.reverseRecOn generalizing a with
  | nil =>
    obtain rfl := Except.ok.inj h
    refine ⟨by simp, fun s hs => ?_, by simp⟩
    cases s <;> cases hs
  | append_singleton items item ih =>
    rw [List.foldlM_append] at h
    obtain ⟨between, hbetween, h⟩ := bind_eq_ok_iff.mp h
    rw [List.foldlM_cons] at h
    obtain ⟨_, htake, h⟩ := bind_eq_ok_iff.mp h
    obtain rfl := Except.ok.inj h
    cases item with
    | given s value => exact (ih hbetween).put (Arguments.puts_of_put htake)
    | on w => exact (ih hbetween).turnOn htake

end

/-! ## What the environment gives

The command line looks at the variables too, and of these the codec is read more narrowly than by
the settings. -/

/-- Only variables of the settings are set. -/
def SetsOnly (env : Environment) : Prop := ∀ name, (env name).isSome → name ∈ variableNames

section
variable {env : Environment} {c : ClientConfig} {words : List String} {a : Arguments}

theorem SetsOnly.eq_none (h : SetsOnly env) {name : String} (hname : name ∉ variableNames) :
    env name = none :=
  Option.not_isSome_iff_eq_none.mp fun hsome => hname (h name hsome)

/-- A variable that is not set gives nothing. -/
theorem orVariable_of_eq_none {s : Setting} {name : String} (h : env name = none) (a : Arguments) :
    a.orVariable env (s, name) = pure a := by
  rw [Arguments.orVariable, h]
  exact ite_self _

/-- Of the variables of the settings the command line only looks at that of the codec. -/
theorem read_eq (henv : SetsOnly env) (words : List String) : Arguments.read words env
    = ({} : Reader).readWords words >>= fun a => a.orVariable env (.codec, codecVar) := by
  have hlevel : env logLevelVar = none := henv.eq_none (by decide)
  have hfile : env logFileVar = none := henv.eq_none (by decide)
  simp only [Arguments.read, settingVars, List.foldlM_cons, List.foldlM_nil,
    orVariable_of_eq_none hlevel, orVariable_of_eq_none hfile, bind_pure]

/-- The codec of the settings is the one that was read for it. -/
theorem readCodec_of_ofEnvironment (h : ClientConfig.ofEnvironment env = .ok c) :
    readCodec env = .ok c.codec := by
  rw [ClientConfig.ofEnvironment] at h
  simp only [bind_eq_ok_iff] at h
  obtain ⟨port, -, reconnect, -, role, -, codec, hcodec, status, -, heq⟩ := h
  obtain rfl := Except.ok.inj heq
  exact hcodec

/-- The preferred codec is the one that the variable names in letters of either case. -/
theorem codec_of_ofEnvironment (h : ClientConfig.ofEnvironment env = .ok c) :
    (env codecVar = none ∧ c.codec = none)
      ∨ ∃ name codec, env codecVar = some name ∧ Codec.ofName? name = some codec
        ∧ c.codec = some codec := by
  have hcodec := readCodec_of_ofEnvironment h
  rw [readCodec] at hcodec
  split at hcodec
  · rename_i hnone
    exact .inl ⟨hnone, (Except.ok.inj hcodec).symm⟩
  · rename_i name hname
    split at hcodec
    · rename_i codec hread
      exact .inr ⟨name, codec, hname, hread, (Except.ok.inj hcodec).symm⟩
    · cases hcodec

/-- A name in small letters is read the same with and without regard to their case. -/
theorem ofExactName?_of_small {name : String} (h : Text.lowerAscii name = name) :
    Codec.ofExactName? name = Codec.ofName? name := by
  rw [Codec.ofName?, h]
  rfl

theorem small_of_ofExactName? {name : String} {codec : Codec}
    (h : Codec.ofExactName? name = some codec) : Text.lowerAscii name = name := by
  unfold Codec.ofExactName? at h
  split at h
  · decide +kernel
  · decide +kernel
  · decide +kernel
  · cases h

/-- Of a codec that is not given the command line reads the exact name. -/
theorem orVariable_codec {name : String} (ha : a.codec = none) (h : env codecVar = some name) :
    a.orVariable env (.codec, codecVar) = match Codec.ofExactName? name with
      | some codec => .ok { a with codec := some codec }
      | none => .error (.unknownChoice .codec name) := by
  have hfresh : ¬a.has .codec = true := by simp [Arguments.has, ha]
  rw [Arguments.orVariable, if_neg hfresh]
  simp only [h]
  rw [Arguments.put.eq_def, if_neg hfresh]
  cases Codec.ofExactName? name <;> rfl

/-- **A codec from a variable changes nothing**: the settings have it. -/
theorem override_eq_of_read (henv : SetsOnly env) (hc : ClientConfig.ofEnvironment env = .ok c)
    (h : Arguments.read words env = .ok a) :
    ∃ given, ({} : Reader).readWords words = .ok given ∧ a.override c = given.override c := by
  rw [read_eq henv] at h
  obtain ⟨given, hgiven, h⟩ := bind_eq_ok_iff.mp h
  refine ⟨given, hgiven, ?_⟩
  rcases codec_of_ofEnvironment hc with ⟨hnone, -⟩ | ⟨name, codec, hname, hread, hcodec⟩
  · rw [orVariable_of_eq_none hnone] at h
    rw [Except.ok.inj h]
  · cases hgivencodec : given.codec with
    | some other =>
      have hhas : given.has .codec = true := Option.isSome_of_eq_some hgivencodec
      rw [Arguments.orVariable, if_pos hhas] at h
      rw [Except.ok.inj h]
    | none =>
      rw [orVariable_codec hgivencodec hname] at h
      split at h
      · rename_i exact hexact
        have hsame := ofExactName?_of_small (small_of_ofExactName? hexact)
        obtain rfl : exact = codec := Option.some.inj (hexact.symm.trans (hsame.trans hread))
        obtain rfl := Except.ok.inj h
        simp [Arguments.override, hgivencodec, hcodec]
      · cases h

theorem override_default (c : ClientConfig) : ({} : Arguments).override c = c := by
  cases c
  rfl

/-- Where the settings can be read, the program runs with them, overridden by the arguments. -/
theorem invocation_eq (hc : ClientConfig.ofEnvironment env = .ok c) (a : Arguments) :
    ∃ i, a.invocation env = .ok i ∧ i.config = a.override c := by
  rw [Arguments.invocation, hc]
  exact ⟨_, rfl, rfl⟩

end

/-! ## What a command line changes -/

/-- The setting that an argument names: it has the value of the argument, and without one it is as
it was. -/
structure Named {α : Type} (items : List Item) (s : Setting) (read : String → Option α)
    (old new : α) :
    Prop where
  given : ∀ value, .given s value ∈ items → read value = some new
  other : (∀ value, .given s value ∉ items) → new = old

/-- What the argument for an interval makes of the one before: zero says nothing. -/
def readInterval? (old : Option ℕ) (value : String) : Option (Option ℕ) :=
  (Text.readNumeral? UInt64.size value.toList).map fun ms => if ms = 0 then old else some ms

/-- The settings have the values of the arguments that name them, and the others are as they were.
-/
structure Follows (items : List Item) (c c' : ClientConfig) : Prop where
  scheme : Named items .scheme some c.endpoint.scheme c'.endpoint.scheme
  host : Named items .host some c.endpoint.host c'.endpoint.host
  port : Named items .port (fun value => (Arguments.readPort? value).map some) c.endpoint.port
    c'.endpoint.port
  path : Named items .path some c.endpoint.path c'.endpoint.path
  role : (.on .offer ∈ items → c'.role = .offer) ∧ (.on .offer ∉ items → c'.role = c.role)
  codec : Named items .codec (fun value => (Codec.ofExactName? value).map some) c.codec c'.codec
  statusMs : Named items .statusInterval (readInterval? c.statusMs) c.statusMs c'.statusMs
  others : c' = { c with
    endpoint := c'.endpoint
    role := c'.role
    codec := c'.codec
    statusMs := c'.statusMs }

section
variable {items : List Item} {a : Arguments}

theorem Tells.has_eq_false (h : Tells items a) {s : Setting}
    (hs : ∀ value, .given s value ∉ items) :
    a.has s = false := by
  by_contra hhas
  obtain ⟨value, hvalue⟩ := h.only s (Bool.not_eq_false _ ▸ hhas)
  exact hs value hvalue

/-- A setting of the program that depends on one argument. -/
theorem Tells.named {α β : Type} {s : Setting} {read : String → Option α} {old : α} {x : Option β}
    (h : Tells items a) (new : Option β → α) (hx : a.has s = x.isSome)
    (hread : ∀ value, s.Reads value a → read value = some (new x)) (hold : new none = old) :
    Named items s read old (new x) := by
  refine ⟨fun value hvalue => hread value (h.reads s value hvalue), fun hnone => ?_⟩
  have hmissing : x = none := by simpa [hx] using h.has_eq_false hnone
  rw [hmissing, hold]

/-- A setting that is a text has the text of its argument. -/
theorem Tells.named_text {s : Setting} {old : String} {x : Option String} (h : Tells items a)
    (hx : a.has s = x.isSome) (hread : ∀ value, s.Reads value a → x = some value) :
    Named items s some old (x.getD old) := by
  refine h.named (·.getD old) hx (fun value hvalue => ?_) rfl
  rw [hread value hvalue]
  rfl

/-- **Arguments change the settings that they name.** -/
theorem Tells.follows (h : Tells items a) (c : ClientConfig) : Follows items c (a.override c) where
  scheme := h.named_text rfl fun _ => id
  host := h.named_text rfl fun _ => id
  port := by
    refine h.named (· <|> c.endpoint.port) rfl ?_ rfl
    rintro value ⟨port, hvalue, hport⟩
    rw [hvalue, hport]
    rfl
  path := h.named_text rfl fun _ => id
  role := by
    rw [← h.offer]
    exact ⟨fun hoffer => if_pos hoffer, fun hoffer => if_neg hoffer⟩
  codec := by
    refine h.named (· <|> c.codec) rfl ?_ rfl
    rintro value ⟨codec, hvalue, hcodec⟩
    rw [hvalue, hcodec]
    rfl
  statusMs := by
    refine h.named (x := a.statusMs) (fun ms => ms.filter (· > 0) <|> c.statusMs) rfl ?_ rfl
    rintro value ⟨ms, hvalue, hms⟩
    rw [readInterval?, hvalue, hms]
    by_cases hzero : ms = 0
    · simp [hzero, Option.filter_some]
    · simp [hzero, Option.filter_some, Nat.pos_of_ne_zero hzero]
  others := rfl

/-- What is said of a command line where the environment gives certain settings. -/
structure Transparent (env : Environment) (c : ClientConfig) : Prop where
  /-- Without arguments the program has just these, if the variable of the codec, where it is set,
  has small letters; -/
  bare : (∀ name, env codecVar = some name → Text.lowerAscii name = name) →
    ∃ a i, Arguments.read [] env = .ok a ∧ a.invocation env = .ok i ∧ i.config = c
  /-- with capital letters it does not start. -/
  refused : ∀ name, env codecVar = some name → Text.lowerAscii name ≠ name →
    Arguments.read [] env = .error (.unknownChoice .codec name)
  /-- A command line that is followed spells something, -/
  spelled : ∀ words a, Arguments.read words env = .ok a → ∃ items, Spells words items
  /-- and the program has the settings of the environment but for those that it names. -/
  followed : ∀ words a, Arguments.read words env = .ok a →
    ∃ i, a.invocation env = .ok i ∧ ∀ items, Spells words items → Follows items c i.config

/-- **A command line changes what it names**, and nothing else; without any, a codec is only taken
from its variable if that is written in small letters. -/
theorem Arguments.transparent {env : Environment} {c : ClientConfig} (henv : SetsOnly env)
    (hc : ClientConfig.ofEnvironment env = .ok c) : Transparent env c where
  bare hsmall := by
    obtain ⟨a, ha⟩ : ∃ a, Arguments.read [] env = .ok a := by
      rw [read_eq henv]
      rcases codec_of_ofEnvironment hc with ⟨hnone, -⟩ | ⟨name, codec, hname, hread, -⟩
      · exact ⟨_, orVariable_of_eq_none (s := .codec) hnone {}⟩
      · have hexact := (ofExactName?_of_small (hsmall name hname)).trans hread
        refine ⟨{ codec := some codec }, (orVariable_codec (a := {}) rfl hname).trans ?_⟩
        rw [hexact]
    obtain ⟨given, hgiven, hsame⟩ := override_eq_of_read henv hc ha
    obtain rfl : {} = given := Except.ok.inj hgiven
    obtain ⟨i, hi, hconfig⟩ := invocation_eq hc a
    exact ⟨a, i, ha, hi, hconfig.trans (hsame.trans (override_default c))⟩
  refused name hname hcapital := by
    rw [read_eq henv]
    refine (orVariable_codec (a := {}) rfl hname).trans ?_
    cases hexact : Codec.ofExactName? name with
    | none => rfl
    | some codec => exact absurd (small_of_ofExactName? hexact) hcapital
  spelled words a h := by
    obtain ⟨given, hgiven, -⟩ := override_eq_of_read henv hc h
    obtain ⟨items, hitems, -⟩ := Reader.readWords_ok_iff.mp hgiven
    exact ⟨items, hitems⟩
  followed words a h := by
    obtain ⟨given, hgiven, hsame⟩ := override_eq_of_read henv hc h
    obtain ⟨i, hi, hconfig⟩ := invocation_eq hc a
    refine ⟨i, hi, fun items hitems => ?_⟩
    rw [hconfig, hsame]
    have hdone := (Reader.readWords_ok_iff_of_spells (r := {}) hitems rfl).mp hgiven
    exact (tells_of_foldlM hdone).follows c

end

/-! ## Capital letters

The two readers of a codec differ in letters of the other case, and only there. -/

/-- Variables in a list set only what they name. -/
theorem setsOnly_ofList {vars : List (String × String)} (h : ∀ v ∈ vars, v.1 ∈ variableNames) :
    SetsOnly (.ofList vars) := by
  intro name hsome
  by_contra hname
  have hnone : vars.lookup name = none := List.lookup_eq_none_iff.mpr fun v hv =>
    bne_iff_ne.mpr fun heq => hname (heq ▸ h v hv)
  rw [Environment.ofList, hnone] at hsome
  cases hsome

/-- A camera with a codec and an interval. -/
def cameraVars : Environment :=
  .ofList [(hostVar, "camera.local"), (codecVar, "vp8"), (statusVar, " 250 ")]

/-- The settings that these variables give. -/
def cameraConfig : ClientConfig :=
  { endpoint := { host := "camera.local" }, codec := some .vp8, statusMs := some 250 }

/-- The arguments of the sample change the port and the role, and its interval of zero changes
nothing. -/
theorem transparent_cameraVars : SetsOnly cameraVars
    ∧ ClientConfig.ofEnvironment cameraVars = .ok cameraConfig
    ∧ Transparent cameraVars cameraConfig
    ∧ ∃ a, Arguments.read ["--port=8443", "--status-interval-ms", "0", "--offer"] cameraVars = .ok a
      ∧ a.override cameraConfig
        = { cameraConfig with
            endpoint := { host := "camera.local", port := some 8443 }
            role := .offer } := by
  have hvars : SetsOnly cameraVars := setsOnly_ofList (by decide)
  have hconfig : ClientConfig.ofEnvironment cameraVars = .ok cameraConfig := by decide +kernel
  exact ⟨hvars, hconfig, Arguments.transparent hvars hconfig, _, rfl, rfl⟩

/-- The settings may name a codec in capital letters, and the command line refuses it: a program
with such a variable does not start. -/
theorem refused_capitals : SetsOnly (.ofList [(codecVar, "VP8")])
    ∧ ClientConfig.ofEnvironment (.ofList [(codecVar, "VP8")]) = .ok { codec := some .vp8 }
    ∧ Arguments.read [] (.ofList [(codecVar, "VP8")]) = .error (.unknownChoice .codec "VP8") :=
  ⟨setsOnly_ofList (by decide), by decide +kernel, by decide +kernel⟩

end CameraViewer.CommandLine
