import CameraViewer.Telemetry.Summary
import Mathlib.Algebra.Order.BigOperators.Group.List
import Mathlib.Algebra.Order.Ring.Nat
import Mathlib.Data.List.Induction

/-!
# Proofs/Telemetry/Averages — what a summary tells of its samples

A summary keeps four numbers of all samples so far. `Tells` says what they are in terms of the
samples; one more sample keeps that (`Tells.add`), so it holds after any number of them
(`tells_ofSamples`).

The four numbers have no bound here. They only grow, so where those at the end stay within 64 bits
(`Fits`), those before did too, and nothing overflowed on the way (`Fits.earlier`).

The average divides by a number of 32 bits. It is exact of fewer than `2 ^ 32` samples; of more it
is zero, however long they were (`Tells.average_eq`).
-/

namespace CameraViewer.Telemetry.Summary

/-! ## Samples -/

/-- What is added to a summary. -/
inductive Sample
  /-- A duration in nanoseconds. -/
  | elapsed (duration : ℕ)
  /-- A number of bytes. -/
  | bytes (size : ℕ)
deriving DecidableEq, Repr

namespace Sample

/-- The duration of a sample that has one. -/
def duration? : Sample → Option ℕ
  | .elapsed d => some d
  | .bytes _ => none

/-- The bytes of a sample that has some. -/
def size? : Sample → Option ℕ
  | .elapsed _ => none
  | .bytes n => some n

end Sample

/-- The durations among samples. -/
def durations (xs : List Sample) : List ℕ := xs.filterMap Sample.duration?

/-- The numbers of bytes among samples. -/
def sizes (xs : List Sample) : List ℕ := xs.filterMap Sample.size?

/-- One more sample. -/
def add (s : Summary) : Sample → Summary
  | .elapsed d => s.addElapsed d
  | .bytes n => s.addBytes n

/-- The summary of samples, in their order. -/
def ofSamples (xs : List Sample) : Summary := xs.foldl add {}

variable {s : Summary} {xs ys : List Sample}

/-- What is read off one more sample comes last. -/
theorem filterMap_concat (f : Sample → Option ℕ) (xs : List Sample) (x : Sample) :
    (xs ++ [x]).filterMap f = xs.filterMap f ++ (f x).toList := by
  rw [List.filterMap_append, List.filterMap_cons]
  cases f x <;> rfl

theorem length_durations_le (xs : List Sample) : (durations xs).length ≤ xs.length :=
  List.length_filterMap_le _ _

/-- The samples are added one after the other. -/
theorem ofSamples_concat (xs : List Sample) (x : Sample) :
    ofSamples (xs ++ [x]) = (ofSamples xs).add x := List.foldl_concat ..

/-! ## The four numbers

The fields of a summary are said in terms of the whole list, so that one more sample is one step of
the induction. -/

/-- A summary says what is true of its samples. -/
structure Tells (s : Summary) (xs : List Sample) : Prop where
  count_eq : s.count = xs.length
  total_eq : s.total = (durations xs).sum
  /-- No sample is longer than the longest, -/
  le_longest : ∀ d ∈ durations xs, d ≤ s.longest
  /-- which is one of them, and zero where there is none. -/
  longest_mem : s.longest ∈ durations xs ∨ durations xs = [] ∧ s.longest = 0
  bytes_eq : s.bytes = (sizes xs).sum

theorem tells_nil : Tells {} [] where
  count_eq := rfl
  total_eq := rfl
  le_longest := List.forall_mem_nil _
  longest_mem := .inr ⟨rfl, rfl⟩
  bytes_eq := rfl

/-- The longer of the longest so far and one more is the longest of all. -/
theorem Tells.max_mem (h : s.Tells xs) (d : ℕ) : max s.longest d ∈ durations xs ++ [d] := by
  obtain hmem | ⟨-, hzero⟩ := h.longest_mem
  · obtain hmax | hmax := max_choice s.longest d
    · exact List.mem_append_left _ (hmax.symm ▸ hmem)
    · exact List.mem_append_right _ (List.mem_singleton.mpr hmax)
  · rw [hzero, Nat.zero_max]
    exact List.mem_append_right _ (List.mem_singleton_self d)

/-- A duration counts, adds up, and may be the longest. -/
theorem Tells.addElapsed (h : s.Tells xs) (d : ℕ) :
    (s.addElapsed d).Tells (xs ++ [.elapsed d]) := by
  have hdurations : durations (xs ++ [.elapsed d]) = durations xs ++ [d] :=
    filterMap_concat _ xs _
  have hsizes : sizes (xs ++ [.elapsed d]) = sizes xs :=
    (filterMap_concat _ xs _).trans (List.append_nil _)
  refine ⟨?_, ?_, ?_, ?_, hsizes ▸ h.bytes_eq⟩
  · rw [List.length_append, ← h.count_eq]
    rfl
  · rw [hdurations, List.sum_append, List.sum_singleton, ← h.total_eq]
    rfl
  · rw [hdurations]
    intro e he
    obtain he | he := List.mem_append.mp he
    · exact le_max_of_le_left (h.le_longest e he)
    · exact le_max_of_le_right (List.mem_singleton.mp he).le
  · rw [hdurations]
    exact .inl (h.max_mem d)

theorem Tells.addBytes (h : s.Tells xs) (n : ℕ) : (s.addBytes n).Tells (xs ++ [.bytes n]) := by
  have hdurations : durations (xs ++ [.bytes n]) = durations xs :=
    (filterMap_concat _ xs _).trans (List.append_nil _)
  have hsizes : sizes (xs ++ [.bytes n]) = sizes xs ++ [n] := filterMap_concat _ xs _
  refine ⟨?_, hdurations ▸ h.total_eq, hdurations ▸ h.le_longest, hdurations ▸ h.longest_mem,
    ?_⟩
  · rw [List.length_append, ← h.count_eq]
    rfl
  · rw [hsizes, List.sum_append, List.sum_singleton, ← h.bytes_eq]
    rfl

/-- One more sample is told of as well. -/
theorem Tells.add (h : s.Tells xs) : ∀ x : Sample, (s.add x).Tells (xs ++ [x])
  | .elapsed d => h.addElapsed d
  | .bytes n => h.addBytes n

/-- **A summary says what is true of its samples**, however many they are. -/
theorem tells_ofSamples (xs : List Sample) : (ofSamples xs).Tells xs := by
  induction xs using List.reverseRecOn with
  | nil => exact tells_nil
  | append_singleton xs x ih =>
    rw [ofSamples_concat]
    exact ih.add x

/-- No duration is longer than all together. -/
theorem Tells.longest_le_total (h : s.Tells xs) : s.longest ≤ s.total := by
  rw [h.total_eq]
  obtain hmem | ⟨-, hzero⟩ := h.longest_mem
  · exact List.le_sum_of_mem hmem
  · rw [hzero]
    exact Nat.zero_le _

/-! ## Numbers of 64 bits

Every number only grows with further samples, so it is enough that the last ones fit. -/

/-- The numbers stay within 64 bits; of a duration, its whole seconds do. -/
structure Fits (s : Summary) : Prop where
  count : s.count < 2 ^ 64
  total : s.total < 2 ^ 64 * 10 ^ 9
  longest : s.longest < 2 ^ 64 * 10 ^ 9
  bytes : s.bytes < 2 ^ 64

/-- One more sample makes no number smaller. -/
theorem Fits.of_add {x : Sample} (h : (s.add x).Fits) : s.Fits := by
  obtain ⟨hcount, htotal, hlongest, hbytes⟩ := h
  cases x with
  | elapsed d =>
    simp only [Summary.add, addElapsed] at hcount htotal hlongest hbytes
    exact ⟨by omega, by omega, by omega, hbytes⟩
  | bytes n =>
    simp only [Summary.add, addBytes] at hcount htotal hlongest hbytes
    exact ⟨by omega, htotal, hlongest, by omega⟩

/-- **Where the last summary fits, so did every one before it.** -/
theorem Fits.earlier (hfirst : ys <+: xs) (h : (ofSamples xs).Fits) : (ofSamples ys).Fits := by
  obtain ⟨zs, rfl⟩ := hfirst
  induction zs using List.reverseRecOn with
  | nil => rwa [List.append_nil] at h
  | append_singleton zs z ih =>
    rw [← List.append_assoc, ofSamples_concat] at h
    exact ih h.of_add

/-! ## The average

The total is divided by the count as a number of 32 bits, and where the count is none of these, the
average is zero. -/

/-- Fewer than `2 ^ 32` samples are averaged, and the average is rounded down; more average to zero.
-/
theorem Tells.average_eq (h : s.Tells xs) :
    s.average = if xs.length < 2 ^ 32 then (durations xs).sum / xs.length else 0 := by
  rw [average, h.count_eq, h.total_eq]
  refine if_congr ?_ rfl rfl
  rw [countMax, UInt32.size]
  omega

/-- All samples together are no longer than if each was the longest. -/
theorem Tells.total_le (h : s.Tells xs) : s.total ≤ s.count * s.longest :=
  calc
    s.total = (durations xs).sum := h.total_eq
    _ ≤ (durations xs).length • s.longest := List.sum_le_card_nsmul _ _ h.le_longest
    _ ≤ xs.length * s.longest := Nat.mul_le_mul_right _ (length_durations_le xs)
    _ = s.count * s.longest := by rw [h.count_eq]

/-- The average is no longer than the longest. -/
theorem Tells.average_le_longest (h : s.Tells xs) : s.average ≤ s.longest := by
  rw [average]
  split
  · exact Nat.div_le_of_le_mul h.total_le
  · exact Nat.zero_le _

/-- **A summary counts its samples, adds them up and knows the longest; it averages fewer than `2 ^
32` of them, and more to zero.** No number was too great on the way if none is at the end. -/
theorem averages_ofSamples (xs : List Sample) :
    ((ofSamples xs).Fits → ∀ ys, ys <+: xs → (ofSamples ys).Fits)
      ∧ (ofSamples xs).Tells xs
      ∧ (ofSamples xs).average
        = (if xs.length < 2 ^ 32 then (durations xs).sum / xs.length else 0)
      ∧ (ofSamples xs).average ≤ (ofSamples xs).longest :=
  have htells := tells_ofSamples xs
  ⟨fun h _ hfirst => h.earlier hfirst, htells, htells.average_eq, htells.average_le_longest⟩

/-- A chunk and two durations. -/
def mixedSamples : List Sample := [.bytes 16384, .elapsed 3, .elapsed 8]

/-- The chunk of the sample counts too, so the two durations are divided by three. -/
theorem averages_mixedSamples :
    ofSamples mixedSamples = { count := 3, total := 11, longest := 8, bytes := 16384 }
      ∧ (∀ ys, ys <+: mixedSamples → (ofSamples ys).Fits)
      ∧ (ofSamples mixedSamples).Tells mixedSamples
      ∧ (ofSamples mixedSamples).average = 3 := by
  obtain ⟨hfits, htells, haverage, -⟩ := averages_ofSamples mixedSamples
  exact ⟨rfl, hfits ⟨by decide, by decide, by decide, by decide⟩, htells, haverage⟩

/-! ## Too many samples to average -/

/-- Samples that all took one second. -/
def seconds (n : ℕ) : List Sample := List.replicate n (.elapsed (10 ^ 9))

variable {n : ℕ}

theorem count_seconds (n : ℕ) : (ofSamples (seconds n)).count = n := by
  rw [(tells_ofSamples _).count_eq, seconds, List.length_replicate]

theorem total_seconds (n : ℕ) : (ofSamples (seconds n)).total = n * 10 ^ 9 := by
  have hdurations : durations (seconds n) = List.replicate n (10 ^ 9) :=
    List.filterMap_replicate_of_some rfl
  rw [(tells_ofSamples _).total_eq, hdurations, List.sum_replicate_nat]

theorem bytes_seconds (n : ℕ) : (ofSamples (seconds n)).bytes = 0 := by
  have hsizes : sizes (seconds n) = [] := List.filterMap_replicate_of_none rfl
  rw [(tells_ofSamples _).bytes_eq, hsizes, List.sum_nil]

/-- No number is too great as long as the count is not. -/
theorem fits_seconds (hn : n < 2 ^ 64) : (ofSamples (seconds n)).Fits := by
  have htotal : (ofSamples (seconds n)).total < 2 ^ 64 * 10 ^ 9 := by
    rw [total_seconds]
    omega
  refine ⟨?_, htotal, (tells_ofSamples _).longest_le_total.trans_lt htotal, ?_⟩
  · rwa [count_seconds]
  · rw [bytes_seconds]
    exact Nat.two_pow_pos 64

/-- From `2 ^ 32` samples on the average is lost. -/
theorem average_seconds (hn : 2 ^ 32 ≤ n) : (ofSamples (seconds n)).average = 0 := by
  rw [(tells_ofSamples _).average_eq, seconds, List.length_replicate]
  exact if_neg hn.not_gt

/-- With `2 ^ 32` samples of a second each no number is too great on the way, and still they average
to zero instead of one second. -/
theorem not_averaged_seconds :
    (∀ ys, ys <+: seconds (2 ^ 32) → (ofSamples ys).Fits)
      ∧ (ofSamples (seconds (2 ^ 32))).count = 2 ^ 32
      ∧ (ofSamples (seconds (2 ^ 32))).total / (ofSamples (seconds (2 ^ 32))).count = 10 ^ 9
      ∧ (ofSamples (seconds (2 ^ 32))).average = 0 := by
  refine ⟨fun _ hfirst => (fits_seconds ?_).earlier hfirst, count_seconds _, ?_,
    average_seconds le_rfl⟩
  · omega
  · rw [total_seconds, count_seconds]
    exact Nat.mul_div_cancel_left _ (Nat.two_pow_pos 32)

end CameraViewer.Telemetry.Summary
