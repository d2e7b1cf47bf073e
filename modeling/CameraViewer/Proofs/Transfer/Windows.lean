import CameraViewer.Transfer.Job
import Mathlib.Tactic.Ring

/-!
# Proofs/Transfer/Windows — a file cut into chunks

`Payload.windows p n` is the file as consecutive windows of `n` bytes, the last of them maybe
shorter. Laid end to end they are the file (`flatMap_windows`), and a job hands them out in order
(`nextChunk?_cut`).
-/

namespace CameraViewer.Transfer

namespace Payload

/-! ## Windows -/

/-- The window number `i` of a file. -/
def window (p : Payload) (n i : ℕ) : Bytes := p.bytes.extract (i * n) (min (i * n + n) p.size)

/-- The number of windows. -/
def windowCount (p : Payload) (n : ℕ) : ℕ := (p.size + n - 1) / n

/-- A file as consecutive windows. -/
def windows (p : Payload) (n : ℕ) : List Bytes := (List.range (p.windowCount n)).map (p.window n)

variable {p : Payload} {n i : ℕ}

@[simp] theorem length_windows : (p.windows n).length = p.windowCount n := by simp [windows]

/-- A window that starts within the file is one of them. -/
theorem lt_windowCount (hn : 0 < n) : i < p.windowCount n ↔ i * n < p.size := by
  rw [windowCount, Nat.lt_iff_add_one_le, Nat.le_div_iff_mul_le hn, Nat.add_mul, Nat.one_mul]
  omega

theorem windowCount_pos (hn : 0 < n) (hp : 0 < p.size) : 0 < p.windowCount n := by
  rw [lt_windowCount hn]
  omega

/-- The last window is the one whose end is the end of the file. -/
theorem windowCount_eq (hn : 0 < n) (hi : i < p.windowCount n) (hend : p.size ≤ i * n + n) :
    p.windowCount n = i + 1 := by
  have hlast : ¬ i + 1 < p.windowCount n := by
    rw [lt_windowCount hn, Nat.add_mul, Nat.one_mul]
    omega
  omega

/-- **Every window is full but the last, which is not empty.** -/
theorem size_window (hn : 0 < n) (hi : i < p.windowCount n) :
    (p.window n i).size = (if i + 1 < p.windowCount n then n else p.size - i * n)
      ∧ 0 < (p.window n i).size ∧ (p.window n i).size ≤ n := by
  rw [lt_windowCount hn] at hi
  have hnext : (i + 1) * n = i * n + n := by ring
  have hsize : (p.window n i).size = min (i * n + n) p.size - i * n := by
    rw [window, Array.size_extract]
    simp only [size]
    omega
  simp only [lt_windowCount hn, hsize, hnext]
  split <;> omega

/-- The windows before one lay out the file up to it. -/
theorem flatMap_window (k : ℕ) :
    (List.range k).flatMap (fun i => (p.window n i).toList)
      = p.bytes.toList.take (min (k * n) p.size) := by
  induction k with
  | zero => simp
  | succ k ih =>
    have hle : min (k * n) p.size ≤ min ((k + 1) * n) p.size := by
      have : (k + 1) * n = k * n + n := by ring
      omega
    have hwindow : (p.window n k).toList
        = (p.bytes.toList.drop (min (k * n) p.size)).take
            (min ((k + 1) * n) p.size - min (k * n) p.size) := by
      have hlen : p.bytes.toList.length = p.size := Array.length_toList
      rw [window, Array.toList_extract, Nat.succ_mul]
      rcases Nat.le_total (k * n) p.size with h | h
      · rw [Nat.min_eq_left h]
      · rw [Nat.min_eq_right h, List.drop_of_length_le (by omega)]
        simp [List.extract_eq_take_drop, List.drop_of_length_le (hlen.trans_le h)]
    rw [List.range_succ, List.flatMap_append, ih, List.flatMap_singleton, hwindow, ← List.take_add,
      Nat.add_sub_cancel' hle]

/-- **Laid end to end, the windows are the file.** -/
theorem flatMap_windows (hn : 0 < n) : (p.windows n).flatMap Array.toList = p.bytes.toList := by
  have hall : p.size ≤ p.windowCount n * n := by
    have := (lt_windowCount (p := p) (i := p.windowCount n) hn).not.mp (lt_irrefl _)
    omega
  rw [windows, List.flatMap_map, flatMap_window, Nat.min_eq_right hall, size, ← Array.length_toList,
    List.take_length]

end Payload

namespace TransferJob

/-! ## The cursor

A job hands out the windows in order, so its cursor is told by the number of windows that were
handed out. -/

/-- A job in the middle of its file, with `k` windows handed out. -/
def cut (j : TransferJob) (n k : ℕ) : TransferJob := { j with chunkSize := n, queued := k * n }

variable {j : TransferJob} {n k : ℕ}

theorem isComplete_cut (hn : 0 < n) :
    (j.cut n k).isComplete = false ↔ k < j.source.windowCount n := by
  rw [Payload.lt_windowCount hn, isComplete, decide_eq_false_iff_not, not_le]
  rfl

/-- **The next chunk is the next window.** -/
theorem nextChunk?_cut (hn : 0 < n) (hk : k < j.source.windowCount n) :
    ∃ next, (j.cut n k).nextChunk? = some (j.source.window n k, next)
      ∧ (if next.isComplete then j.source.windowCount n = k + 1
          else next = j.cut n (k + 1) ∧ k + 1 < j.source.windowCount n) := by
  have hopen := (isComplete_cut hn).mpr hk
  have hend : (k + 1) * n = k * n + n := by ring
  refine ⟨{ j.cut n k with queued := min (k * n + n) j.source.size }, ?_, ?_⟩
  · rw [nextChunk?, hopen, if_neg (by simpa using show (j.cut n k).chunkSize ≠ 0 from hn.ne')]
    rfl
  · by_cases hle : j.source.size ≤ k * n + n
    · rw [if_pos (by simpa [isComplete, total, cut] using hle)]
      exact Payload.windowCount_eq hn hk hle
    · have hlt : k * n + n < j.source.size := by omega
      rw [if_neg (by simpa [isComplete, total, cut] using hlt), Payload.lt_windowCount hn, hend]
      refine ⟨?_, hlt⟩
      rw [Nat.min_eq_left hlt.le, cut, cut, hend]

/-- Handing out a chunk of a job that was cut hands out its window, and leaves it complete or cut
further. -/
theorem eq_window_of_nextChunk? {started next : TransferJob} {chunk : Bytes} (hn : 0 < n)
    (hk : k < j.source.windowCount n) (hcut : started = j.cut n k)
    (hnext : started.nextChunk? = some (chunk, next)) :
    chunk = j.source.window n k
      ∧ (if next.isComplete then j.source.windowCount n = k + 1
          else next = j.cut n (k + 1) ∧ k + 1 < j.source.windowCount n) := by
  obtain ⟨next', hnext', hafter⟩ := nextChunk?_cut hn hk
  rw [hcut, hnext'] at hnext
  obtain ⟨rfl, rfl⟩ := Prod.mk.inj (Option.some.inj hnext)
  exact ⟨rfl, hafter⟩

end TransferJob

end CameraViewer.Transfer
