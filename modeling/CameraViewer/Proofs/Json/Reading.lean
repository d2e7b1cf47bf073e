import CameraViewer.Proofs.Json.Doubles

/-!
# Proofs/Json/Reading — what is written can be read

`Tree.read?_written`: the text of a value is read as its document, each number as the one that its
literal spells. For a value without doubles that is the document of the value itself
(`Tree.read?_text`), so such values are told apart by their texts (`Value.eq_of_text_eq`).
-/

namespace CameraViewer.Json

/-! ## Plain values -/

mutual

/-- A value whose numbers are integers of 64 bits. -/
def Value.Plain : Value → Prop
  | .number (.int n) => IsWord n
  | .number (.float _ _) => False
  | .array items => PlainItems items
  | .object members => PlainMembers members
  | _ => True

/-- Plain items. -/
def PlainItems : List Value → Prop
  | [] => True
  | v :: rest => v.Plain ∧ PlainItems rest

/-- Members with plain values. -/
def PlainMembers : List (String × Value) → Prop
  | [] => True
  | (_, v) :: rest => v.Plain ∧ PlainMembers rest

end

@[simp] theorem plain_string (s : String) : (Value.string s).Plain := by simp [Value.Plain]

@[simp] theorem plain_bool (b : Bool) : (Value.bool b).Plain := by simp [Value.Plain]

@[simp] theorem plain_int {n : ℤ} : (Value.int n).Plain ↔ IsWord n := by
  simp [Value.int, Value.Plain]

@[simp] theorem plain_object {members : List (String × Value)} :
    (Value.object members).Plain ↔ PlainMembers members := by simp [Value.Plain]

/-- Members are plain if all of their values are. -/
theorem plainMembers_iff {members : List (String × Value)} :
    PlainMembers members ↔ ∀ m ∈ members, m.2.Plain := by
  induction members with
  | nil => simp [PlainMembers]
  | cons m rest ih => simp [PlainMembers, ih]

/-! ## Reading a value

The first character tells which kind of value follows, so the texts are told apart by how they
start. -/

theorem skipSpace_cons {c : Char} (h : isSpace c = false) (cs : List Char) :
    skipSpace (c :: cs) = c :: cs := by
  rw [skipSpace, List.dropWhile_cons, h]
  rfl

/-- A number starts with a character that starts nothing else. -/
theorem numberHead {c : Char} (h : c = '-' ∨ ∃ d < 10, c = Nat.digitChar d) :
    isSpace c = false ∧ c ∉ ['n', 't', 'f', '"', '[', ']', '{'] := by
  rcases h with rfl | ⟨d, hd, rfl⟩
  · decide
  · interval_cases d <;> decide

/-- The text of a value starts with neither a blank nor a closing bracket. -/
theorem exists_render_eq_cons (v : Value) :
    ∃ c cs, v.render = c :: cs ∧ isSpace c = false ∧ c ≠ ']' := by
  rcases v with _ | (_ | _) | n | s | (_ | ⟨_, _⟩) | (_ | ⟨⟨_, _⟩, _⟩)
  case number =>
    obtain ⟨c, cs, h, hc⟩ := n.wellFormed_literal.exists_render_eq_cons
    have hhead := numberHead hc
    rw [n.render_literal] at h
    exact ⟨c, cs, by rw [Value.render, h], hhead.1, fun he => hhead.2 (by simp [he])⟩
  case string => exact ⟨_, _, by rw [Value.render, renderString], by decide, by decide⟩
  all_goals exact ⟨_, _, by rw [Value.render], by decide, by decide⟩

/-- A text that starts like a number is read as a literal. -/
theorem readTree_number {c : Char} (h : c = '-' ∨ ∃ d < 10, c = Nat.digitChar d) (fuel : ℕ)
    (cs : List Char) :
    readTree (fuel + 1) (c :: cs)
      = (readLiteral (c :: cs)).map fun p => (.number p.1.value?, p.2) := by
  obtain ⟨hspace, hhead⟩ := numberHead h
  rw [readTree, skipSpace_cons hspace]
  split
  case h_7 => cases readLiteral (c :: cs) <;> rfl
  all_goals
    rename_i heq
    exact absurd (List.cons.inj heq).1 fun he => hhead (by simp [he])

/-- A written string is read as that string. -/
theorem readTree_string (fuel : ℕ) (s : String) (rest : List Char) :
    readTree (fuel + 1) (renderString s ++ rest) = some (.string (some s), rest) := by
  rw [renderString, List.cons_append, readTree, skipSpace_cons (by decide), List.append_assoc]
  simp [readString_escaped]

mutual

/-- What is read where a value was written: a double may be read as its neighbour. -/
def Value.written : Value → Tree
  | .null => .null
  | .bool b => .bool b
  | .number n => .number n.literal.value?
  | .string s => .string (some s)
  | .array items => .array (writtenItems items)
  | .object members => .object (writtenMembers members)

/-- What is read where items were written. -/
def writtenItems : List Value → List Tree
  | [] => []
  | v :: rest => v.written :: writtenItems rest

/-- What is read where members were written. -/
def writtenMembers : List (String × Value) → List (Option String × Tree)
  | [] => []
  | (k, v) :: rest => (some k, v.written) :: writtenMembers rest

end

mutual

/-- **The text of a value is read as what was written**, and what follows is left. -/
theorem readTree_render : ∀ (v : Value) (fuel : ℕ), v.render.length ≤ fuel →
    ∀ rest, Breaks rest → readTree fuel (v.render ++ rest) = some (v.written, rest)
  | v, 0, hf, _, _ => by
    obtain ⟨c, cs, h, -⟩ := exists_render_eq_cons v
    simp [h] at hf
  | .null, fuel + 1, _, rest, _ => by
    rw [Value.render, Value.written, List.cons_append, readTree, skipSpace_cons (by decide)]
    rfl
  | .bool b, fuel + 1, _, rest, _ => by
    cases b
    all_goals
      rw [Value.render, Value.written, List.cons_append, readTree, skipSpace_cons (by decide)]
      rfl
  | .number n, fuel + 1, _, rest, h => by
    obtain ⟨c, cs, hn, hc⟩ := n.wellFormed_literal.exists_render_eq_cons
    have hlit := readLiteral_render n.wellFormed_literal h
    rw [hn, List.cons_append] at hlit
    rw [n.render_literal] at hn
    rw [Value.render, hn, List.cons_append, readTree_number hc, hlit, Option.map_some,
      Value.written]
  | .string s, fuel + 1, _, rest, _ => by
    rw [Value.render, readTree_string, Value.written]
  | .array [], fuel + 1, _, rest, _ => by
    rw [Value.render, Value.written, List.cons_append, readTree, skipSpace_cons (by decide)]
    rfl
  | .array (v :: vs), fuel + 1, hf, rest, _ => by
    rw [Value.render, List.length_cons, List.length_append] at hf
    have hbreak : Breaks (renderItems vs ++ rest) := by
      cases vs <;> rw [renderItems, List.cons_append] <;> constructor
    have hfirst := readTree_render v fuel (by omega) _ hbreak
    have hothers := readItems_render vs fuel (by omega) rest
    obtain ⟨c, cs, hc, hspace, hclose⟩ := exists_render_eq_cons v
    rw [Value.render, List.cons_append, readTree, skipSpace_cons (by decide), List.append_assoc]
    rw [hc, List.cons_append] at hfirst ⊢
    simp only [skipSpace_cons hspace]
    split
    · rename_i heq
      exact absurd (List.cons.inj heq).1 hclose
    · simp [hfirst, hothers, Value.written, writtenItems]
  | .object [], fuel + 1, _, rest, _ => by
    rw [Value.render, Value.written, List.cons_append, readTree, skipSpace_cons (by decide)]
    rfl
  | .object ((k, v) :: ms), fuel + 1, hf, rest, _ => by
    simp only [Value.render, List.length_cons, List.length_append] at hf
    have hlen : (renderString k ++ ':' :: v.render).length ≤ fuel := by
      simp only [List.length_append, List.length_cons]; omega
    have hfirst := readMember_render k v ms fuel hlen rest
    have hothers := readMembers_render ms fuel (by omega) rest
    rw [Value.render, List.cons_append, readTree, skipSpace_cons (by decide)]
    simp only [renderString, List.cons_append, List.append_assoc, List.nil_append] at hfirst ⊢
    simp [skipSpace_cons, isSpace, hfirst, hothers, Value.written, writtenMembers]

/-- Items are read up to their bracket. -/
theorem readItems_render : ∀ (vs : List Value) (fuel : ℕ), (renderItems vs).length ≤ fuel →
    ∀ rest, readItems fuel (renderItems vs ++ rest) = some (writtenItems vs, rest)
  | vs, 0, hf, _ => by cases vs <;> simp [renderItems] at hf
  | [], fuel + 1, _, rest => by
    rw [renderItems, List.cons_append, readItems, skipSpace_cons (by decide)]
    rfl
  | v :: vs, fuel + 1, hf, rest => by
    rw [renderItems, List.length_cons, List.length_append] at hf
    have hbreak : Breaks (renderItems vs ++ rest) := by
      cases vs <;> rw [renderItems, List.cons_append] <;> constructor
    have hfirst := readTree_render v fuel (by omega) _ hbreak
    have hothers := readItems_render vs fuel (by omega) rest
    rw [renderItems, List.cons_append, readItems, skipSpace_cons (by decide), List.append_assoc]
    simp [hfirst, hothers, writtenItems]

/-- A member is read up to the next one. -/
theorem readMember_render (k : String) : ∀ (v : Value) (ms : List (String × Value)) (fuel : ℕ),
    (renderString k ++ ':' :: v.render).length ≤ fuel → ∀ rest,
      readMember fuel (renderString k ++ ':' :: (v.render ++ (renderMembers ms ++ rest)))
        = some ((some k, v.written), renderMembers ms ++ rest)
  | v, _, 0, hf, _ => by simp at hf
  | v, ms, fuel + 1, hf, rest => by
    have hbreak : Breaks (renderMembers ms ++ rest) := by
      rcases ms with _ | ⟨⟨_, _⟩, _⟩ <;> rw [renderMembers, List.cons_append] <;> constructor
    have hlen : v.render.length ≤ fuel := by simp [renderString] at hf; omega
    have hvalue := readTree_render v fuel hlen _ hbreak
    rw [renderString, List.cons_append, readMember, skipSpace_cons (by decide), List.append_assoc]
    simp [readString_escaped, skipSpace_cons, isSpace, hvalue]

/-- Members are read up to their brace. -/
theorem readMembers_render : ∀ (ms : List (String × Value)) (fuel : ℕ),
    (renderMembers ms).length ≤ fuel → ∀ rest,
      readMembers fuel (renderMembers ms ++ rest) = some (writtenMembers ms, rest)
  | ms, 0, hf, _ => by rcases ms with _ | ⟨⟨_, _⟩, _⟩ <;> simp [renderMembers] at hf
  | [], fuel + 1, _, rest => by
    rw [renderMembers, List.cons_append, readMembers, skipSpace_cons (by decide)]
    rfl
  | (k, v) :: ms, fuel + 1, hf, rest => by
    simp only [renderMembers, List.length_cons, List.length_append] at hf
    have hlen : (renderString k ++ ':' :: v.render).length ≤ fuel := by
      simp only [List.length_append, List.length_cons]; omega
    have hfirst := readMember_render k v ms fuel hlen rest
    have hothers := readMembers_render ms fuel (by omega) rest
    rw [renderMembers, List.cons_append, readMembers, skipSpace_cons (by decide)]
    simp [hfirst, hothers, writtenMembers]

end

/-- **The text of a value is read as what was written.** -/
theorem Tree.read?_written (v : Value) : Tree.read? v.text = some v.written := by
  have h := readTree_render v (2 * v.render.length + 2) (by omega) [] .nil
  rw [List.append_nil] at h
  simp [Tree.read?, Value.text, h, skipSpace]

mutual

/-- Without doubles the document of a value is what was written. -/
theorem Value.written_eq_tree : ∀ {v : Value}, v.Plain → v.written = v.tree
  | .null, _ | .bool _, _ | .string _, _ => by rw [Value.written, Value.tree]
  | .number (.int n), h => by
    rw [Value.written, Value.tree, Number.literal, value?_literalOf
      (by simpa [Value.Plain] using h)]
  | .number (.float _ _), h => absurd h (by simp [Value.Plain])
  | .array items, h => by
    rw [Value.written, Value.tree, writtenItems_eq_treeItems (by simpa [Value.Plain] using h)]
  | .object members, h => by
    rw [Value.written, Value.tree, writtenMembers_eq_treeMembers (plain_object.mp h)]

theorem writtenItems_eq_treeItems : ∀ {vs : List Value}, PlainItems vs →
    writtenItems vs = treeItems vs
  | [], _ => rfl
  | v :: vs, h => by
    have hvs : v.Plain ∧ PlainItems vs := by simpa [PlainItems] using h
    rw [writtenItems, treeItems, Value.written_eq_tree hvs.1, writtenItems_eq_treeItems hvs.2]

theorem writtenMembers_eq_treeMembers : ∀ {ms : List (String × Value)}, PlainMembers ms →
    writtenMembers ms = treeMembers ms
  | [], _ => rfl
  | (k, v) :: ms, h => by
    have hms : v.Plain ∧ PlainMembers ms := by simpa [PlainMembers] using h
    rw [writtenMembers, treeMembers, Value.written_eq_tree hms.1,
      writtenMembers_eq_treeMembers hms.2]

end

/-- **The text of a plain value is read as its document.** -/
theorem Tree.read?_text {v : Value} (hv : v.Plain) : Tree.read? v.text = some v.tree := by
  rw [Tree.read?_written, Value.written_eq_tree hv]

/-! ## Values and their documents

A text is read as one document, and a document is that of one value, so texts tell values apart. -/

mutual

/-- A document is that of one value only. -/
theorem Value.tree_injective : ∀ {v w : Value}, v.tree = w.tree → v = w
  | v, .null, h => by cases v <;> simp [Value.tree] at h ⊢
  | v, .bool _, h => by cases v <;> simp [Value.tree] at h ⊢; exact h
  | v, .number _, h => by cases v <;> simp [Value.tree] at h ⊢; exact h
  | v, .string _, h => by cases v <;> simp [Value.tree] at h ⊢; exact h
  | .array _, .array _, h => by
    simp only [Value.tree, Tree.array.injEq] at h
    exact congrArg Value.array (treeItems_injective h)
  | .object _, .object _, h => by
    simp only [Value.tree, Tree.object.injEq] at h
    exact congrArg Value.object (treeMembers_injective h)

theorem treeItems_injective : ∀ {vs ws : List Value}, treeItems vs = treeItems ws → vs = ws
  | [], [], _ => rfl
  | [], _ :: _, h => by simp [treeItems] at h
  | _ :: _, [], h => by simp [treeItems] at h
  | _ :: _, _ :: _, h => by
    simp only [treeItems, List.cons.injEq] at h
    rw [Value.tree_injective h.1, treeItems_injective h.2]

theorem treeMembers_injective : ∀ {ms ns : List (String × Value)},
    treeMembers ms = treeMembers ns → ms = ns
  | [], [], _ => rfl
  | [], _ :: _, h => by simp [treeMembers] at h
  | _ :: _, [], h => by simp [treeMembers] at h
  | (_, _) :: _, (_, _) :: _, h => by
    simp only [treeMembers, List.cons.injEq, Prod.mk.injEq, Option.some.injEq] at h
    rw [h.1.1, Value.tree_injective h.1.2, treeMembers_injective h.2]

end

/-- **Plain values are told apart by their texts.** -/
theorem Value.eq_of_text_eq {v w : Value} (hv : v.Plain) (hw : w.Plain) (h : v.text = w.text) :
    v = w := by
  have hread := Tree.read?_text hv
  rw [h, Tree.read?_text hw, Option.some.injEq] at hread
  exact (Value.tree_injective hread).symm

end CameraViewer.Json
