import CameraViewer.Proofs.Text.Lines
import CameraViewer.Transfer.Limits

/-!
# Proofs/Transfer/Limits — what bounds the size of a message

A description announces a size in one of its lines (`Announces`); where several lines do, the first
of them counts. With what this side takes and the cap on chunks, that makes the bounds that a
message keeps to (`Bounds`), and `chunkSizeFor_le` says that a chunk which is no greater than a
message may be exceeds none of them.
-/

namespace CameraViewer.Transfer

open Text

/-! ## What a description announces

The announcement is specified by the characters of its line, apart from how lines are read. -/

/-- A line announces a size: it consists of the attribute and a number of 64 bits, and blanks may
stand around both. -/
def AnnouncesIn (line : List Char) (n : ℕ) : Prop :=
  ∃ before gap value after, line = before ++ (maxMessageAttribute.toList ++
    (gap ++ (value ++ after)))
    ∧ Blank before ∧ Blank gap ∧ Blank after ∧ IsNumeral value n ∧ n < UInt64.size

/-- A description announces a size: that of its first line which announces one. -/
def Announces (sdp : String) (n : ℕ) : Prop :=
  ∃ earlier line later, sdp.toList.splitOn '\n' = earlier ++ line :: later ∧ AnnouncesIn line n
    ∧ ∀ other ∈ earlier, ∀ m, ¬AnnouncesIn other m

theorem blank_append {cs ds : List Char} (hcs : Blank cs) (hds : Blank ds) : Blank (cs ++ ds) :=
  List.forall_mem_append.mpr ⟨hcs, hds⟩

/-- The attribute with a numeral behind it has no blanks at its ends. -/
theorem trimmed_announcement {gap value : List Char} {n : ℕ} (h : IsNumeral value n) :
    Trimmed (maxMessageAttribute.toList ++ (gap ++ value)) := by
  obtain ⟨htrimmed, hne⟩ := h.trimmed
  refine ⟨fun c hc => ?_, fun c hc => htrimmed.last c ?_⟩
  · obtain rfl : 'a' = c := Option.some.inj hc
    rfl
  · rwa [← List.append_assoc, List.getLast?_append_of_ne_nil _ hne] at hc

/-- **A line is read as what it announces.** -/
theorem announcedIn?_eq_some_iff {line : List Char} {n : ℕ} :
    announcedIn? line = some n ↔ AnnouncesIn line n := by
  rw [announcedIn?, Option.bind_eq_some_iff]
  constructor
  · rintro ⟨rest, hrest, hvalue⟩
    obtain ⟨hnumeral, hlt⟩ := readNumeral?_eq_some_iff.mp hvalue
    obtain ⟨before, after, hbefore, hafter, hline⟩ := exists_trim line
    obtain ⟨gap, inner, hgap, hinner, hsplit⟩ := exists_trim rest
    have hrest' : rest ++ after = gap ++ (trim rest ++ (inner ++ after)) := by
      conv_lhs => rw [hsplit]
      simp only [List.append_assoc]
    refine ⟨before, gap, trim rest, inner ++ after, hline.trans ?_, hbefore, hgap,
      blank_append hinner hafter, hnumeral, hlt⟩
    rw [dropLead?_eq_some_iff.mp hrest, List.append_assoc, hrest']
  · rintro ⟨before, gap, value, after, rfl, hbefore, hgap, hafter, hnumeral, hlt⟩
    have hwhole : maxMessageAttribute.toList ++ (gap ++ (value ++ after))
        = maxMessageAttribute.toList ++ (gap ++ value) ++ after := by simp only [List.append_assoc]
    rw [hwhole, trim_append hbefore hafter (trimmed_announcement hnumeral)]
    refine ⟨gap ++ value, dropLead?_append _ _, ?_⟩
    have htrim := trim_append hgap (List.forall_mem_nil _) hnumeral.trimmed.1
    rw [List.append_nil] at htrim
    rw [htrim]
    exact readNumeral?_eq_some_iff.mpr ⟨hnumeral, hlt⟩

/-- A line that announces nothing is passed over. -/
theorem announcedIn?_eq_none_iff {line : List Char} :
    announcedIn? line = none ↔ ∀ n, ¬AnnouncesIn line n := by
  rw [Option.eq_none_iff_forall_ne_some]
  exact forall_congr' fun n => not_congr announcedIn?_eq_some_iff

/-- **A description is read as what it announces.** -/
theorem announcedMax?_eq_some_iff {sdp : String} {n : ℕ} :
    announcedMax? sdp = some n ↔ Announces sdp n := by
  rw [announcedMax?, splitAtChar_eq_splitOn, List.findSome?_eq_some_iff]
  simp only [announcedIn?_eq_some_iff, announcedIn?_eq_none_iff]
  rfl

/-- The first line has no number, and the second counts. -/
example : announcedMax? "a=max-message-size:many\r\n a=max-message-size: +8192 \r\n"
    = some 8192 := by
  decide

/-! ## The bounds of a message -/

/-- What a message may not exceed, where the other side described itself so. -/
inductive Bounds (limits : TransferLimits) (remote : Option String) : ℕ → Prop
  /-- The cap on chunks. -/
  | cap : Bounds limits remote limits.chunkCap
  /-- What this side takes. -/
  | here : Bounds limits remote limits.localMax
  /-- What the other side announced; zero sets no bound. -/
  | there {sdp : String} {n : ℕ} (hremote : remote = some sdp) (hsaid : Announces sdp n)
    (hn : n ≠ 0) : Bounds limits remote n

/-- The greatest message both sides take. -/
def maxMessageFor (limits : TransferLimits) : Option String → ℕ
  | some sdp => negotiatedMax sdp limits.localMax
  | none => limits.localMax

section
variable {limits : TransferLimits} {remote : Option String} {n : ℕ}

/-- Without an announcement, or with one of zero, it is what this side takes. -/
theorem negotiatedMax_eq (sdp : String) (localMax : ℕ) :
    negotiatedMax sdp localMax = localMax ∧ (∀ n, Announces sdp n → n = 0)
      ∨ ∃ n, Announces sdp n ∧ negotiatedMax sdp localMax = min n localMax := by
  simp only [← announcedMax?_eq_some_iff, negotiatedMax]
  split
  · rename_i hnone
    exact .inl ⟨rfl, fun n hn => absurd (hnone.symm.trans hn) nofun⟩
  · rename_i hzero
    exact .inl ⟨rfl, fun n hn => (Option.some.inj (hzero.symm.trans hn)).symm⟩
  · rename_i m _ hm
    exact .inr ⟨m, hm, rfl⟩

/-- A description announces one size. -/
theorem Announces.unique {sdp : String} {m : ℕ} (hn : Announces sdp n) (hm : Announces sdp m) :
    n = m :=
  Option.some.inj ((announcedMax?_eq_some_iff.mpr hn).symm.trans (announcedMax?_eq_some_iff.mpr hm))

/-- What this side takes bounds a message in any case. -/
theorem maxMessageFor_le_localMax (limits : TransferLimits) (remote : Option String) :
    maxMessageFor limits remote ≤ limits.localMax := by
  cases remote with
  | none => exact le_rfl
  | some sdp =>
    rcases negotiatedMax_eq sdp limits.localMax with ⟨hmax, -⟩ | ⟨m, -, hmax⟩
    · exact hmax.le
    · exact hmax.trans_le (min_le_right _ _)

/-- What the other side announced bounds a message. -/
theorem maxMessageFor_le {sdp : String} (hsaid : Announces sdp n) (hn : n ≠ 0) :
    maxMessageFor limits (some sdp) ≤ n := by
  rcases negotiatedMax_eq sdp limits.localMax with ⟨-, hzero⟩ | ⟨m, hm, hmax⟩
  · exact absurd (hzero n hsaid) hn
  · obtain rfl := hm.unique hsaid
    exact hmax.trans_le (min_le_left _ _)

/-- With a bound of zero this side takes nothing. -/
theorem Bounds.localMax_eq_zero (h : Bounds limits remote n) (hcap : 1 ≤ limits.chunkCap)
    (hn : n = 0) : limits.localMax = 0 := by
  cases h with
  | cap => omega
  | here => exact hn
  | there _ _ hne => exact absurd hn hne

/-- **A chunk that a message can take exceeds no bound.** -/
theorem chunkSizeFor_le (hcap : 1 ≤ limits.chunkCap)
    (hfits : chunkSizeFor (maxMessageFor limits remote) limits.chunkCap
      ≤ maxMessageFor limits remote)
    (hn : Bounds limits remote n) :
    chunkSizeFor (maxMessageFor limits remote) limits.chunkCap ≤ n := by
  cases hn with
  | cap => exact max_le (min_le_right _ _) hcap
  | here => exact hfits.trans (maxMessageFor_le_localMax limits remote)
  | there hremote hsaid hn =>
    subst hremote
    exact hfits.trans (maxMessageFor_le hsaid hn)

end

end CameraViewer.Transfer
