import GraphicSurface.Segments

/-! `CloneBuffer`: the copy of a buffer, shared out among threads. -/

namespace GraphicSurface

open Segments

def blockSize : ℕ := 1024 * 1024

structure CopyJob where
  dest : ℕ
  src : ℕ
  size : ℕ
deriving DecidableEq

namespace CopyJob

def bytes (job : CopyJob) : List (ℕ × ℕ) :=
  (List.range job.size).map fun k => (job.dest + k, job.src + k)

def target (job : CopyJob) : Finset ℕ := Finset.Ico job.dest (job.dest + job.size)

/-- Source and destination do not overlap, as `memcpy` asks. -/
def Apart (job : CopyJob) : Prop := ∀ k < job.size, ∀ l < job.size, job.dest + k ≠ job.src + l

/-- The stretch `s` of a copy from `src` to `dest`. -/
def place (dest src : ℕ) (s : ℕ × ℕ) : CopyJob := ⟨dest + s.1, src + s.1, s.2⟩

end CopyJob

/-- `SECUREC_MEM_MAX_LEN` of the library. -/
def securecMemMaxLen : ℕ := 0x7fffffff

def eRange : ℤ := 34

/-- What the library's `memcpy_s` promises, called with one size for both sides: the copies of
single bytes that it makes, in whatever order and however often, or the error. -/
structure MemcpyS (memcpyS : CopyJob → Except ℤ (List (ℕ × ℕ))) : Prop where
  copies : ∀ job : CopyJob, job.size ≠ 0 → job.size ≤ securecMemMaxLen → job.Apart →
    ∃ writes, memcpyS job = .ok writes ∧ ∀ w, w ∈ writes ↔ w ∈ job.bytes
  refuses : ∀ job : CopyJob, job.size = 0 ∨ securecMemMaxLen < job.size →
    memcpyS job = .error eRange

/-- An error is only logged. -/
def copyBlock (memcpyS : CopyJob → Except ℤ (List (ℕ × ℕ))) (job : CopyJob) : List (ℕ × ℕ) :=
  match memcpyS job with
  | .ok writes => writes
  | .error _ => []

/-- The loop that starts the threads, `left` of them yet to come, and the two pointers after it. -/
def startThreads (blocksPerThread remainingBlocks : ℕ) :
    (left i currentDest currentSrc : ℕ) → List CopyJob × ℕ × ℕ
  | 0, _, currentDest, currentSrc => ([], currentDest, currentSrc)
  | left + 1, i, currentDest, currentSrc =>
    let blocksToCopy := blocksPerThread + if i < remainingBlocks then 1 else 0
    let lengthToCopy := blocksToCopy * blockSize
    match startThreads blocksPerThread remainingBlocks left (i + 1) (currentDest + lengthToCopy)
        (currentSrc + lengthToCopy) with
    | (jobs, ends) => (⟨currentDest, currentSrc, lengthToCopy⟩ :: jobs, ends)

/-- Zero is the null pointer. -/
def cloneBuffer (dest src totalSize hardwareConcurrency : ℕ) : List CopyJob :=
  if dest = 0 ∨ src = 0 then []
  else
    let numBlocks := totalSize / blockSize
    let lastBlockSize := totalSize % blockSize
    let numThreads := if hardwareConcurrency > 0 then hardwareConcurrency else 1
    match startThreads (numBlocks / numThreads) (numBlocks % numThreads) numThreads 0 dest src with
    | (jobs, currentDest, currentSrc) =>
      jobs ++ if lastBlockSize > 0 then [⟨currentDest, currentSrc, lastBlockSize⟩] else []

/-- The lengths of the threads from the `i`th on. -/
def threadLengths (blocksPerThread remainingBlocks left i : ℕ) : List ℕ :=
  (List.range' i left).map fun i =>
    (blocksPerThread + if i < remainingBlocks then 1 else 0) * blockSize

variable {dest src totalSize hardwareConcurrency q r left i o : ℕ}

theorem startThreads_eq : startThreads q r left i (dest + o) (src + o) =
    ((layOut o (threadLengths q r left i)).map (CopyJob.place dest src),
      dest + (o + (threadLengths q r left i).sum), src + (o + (threadLengths q r left i).sum)) := by
  induction left generalizing i o with
  | zero => simp [startThreads, threadLengths, layOut]
  | succ left ih =>
    rw [startThreads, add_assoc, add_assoc, ih]
    simp [threadLengths, layOut, List.range'_succ, CopyJob.place, add_assoc]

theorem threadLengths_sum :
    (threadLengths q r left i).sum = (q * left + (min r (i + left) - min r i)) * blockSize := by
  induction left generalizing i with
  | zero => simp [threadLengths]
  | succ left ih =>
    have hcons : threadLengths q r (left + 1) i =
        (q + if i < r then 1 else 0) * blockSize :: threadLengths q r left (i + 1) := by
      simp [threadLengths, List.range'_succ]
    rw [hcons, List.sum_cons, ih, ← add_mul, Nat.mul_succ]
    congr 1
    split_ifs <;> omega

theorem threadLengths_total {numBlocks numThreads : ℕ} (hthreads : 0 < numThreads) :
    (threadLengths (numBlocks / numThreads) (numBlocks % numThreads) numThreads 0).sum =
      numBlocks * blockSize := by
  have hrest : numBlocks % numThreads < numThreads := Nat.mod_lt _ hthreads
  have hsplit := Nat.div_add_mod' numBlocks numThreads
  rw [threadLengths_sum]
  congr 1
  omega

/-- Zero threads count as one. -/
def threadCount (hardwareConcurrency : ℕ) : ℕ :=
  if hardwareConcurrency > 0 then hardwareConcurrency else 1

theorem threadCount_pos (hardwareConcurrency : ℕ) : 0 < threadCount hardwareConcurrency := by
  unfold threadCount
  split_ifs <;> omega

def jobLengths (totalSize hardwareConcurrency : ℕ) : List ℕ :=
  threadLengths (totalSize / blockSize / threadCount hardwareConcurrency)
      (totalSize / blockSize % threadCount hardwareConcurrency) (threadCount hardwareConcurrency) 0 ++
    if totalSize % blockSize > 0 then [totalSize % blockSize] else []

theorem jobLengths_sum : (jobLengths totalSize hardwareConcurrency).sum = totalSize := by
  have hlast : (if totalSize % blockSize > 0 then [totalSize % blockSize] else []).sum =
      totalSize % blockSize := by
    split_ifs with h
    · exact List.sum_singleton
    · exact (Nat.eq_zero_of_not_pos h).symm
  rw [jobLengths, List.sum_append, threadLengths_total (threadCount_pos _), hlast]
  exact Nat.div_add_mod' totalSize blockSize

theorem cloneBuffer_eq (hdest : dest ≠ 0) (hsrc : src ≠ 0) :
    cloneBuffer dest src totalSize hardwareConcurrency =
      (layOut 0 (jobLengths totalSize hardwareConcurrency)).map (CopyJob.place dest src) := by
  set blocks := threadLengths (totalSize / blockSize / threadCount hardwareConcurrency)
    (totalSize / blockSize % threadCount hardwareConcurrency) (threadCount hardwareConcurrency) 0
    with hblocks
  have hloop : startThreads (totalSize / blockSize / threadCount hardwareConcurrency)
      (totalSize / blockSize % threadCount hardwareConcurrency) (threadCount hardwareConcurrency) 0
      dest src =
      ((layOut 0 blocks).map (CopyJob.place dest src), dest + blocks.sum, src + blocks.sum) := by
    have heq : startThreads (totalSize / blockSize / threadCount hardwareConcurrency)
        (totalSize / blockSize % threadCount hardwareConcurrency) (threadCount hardwareConcurrency) 0
        (dest + 0) (src + 0) = _ := startThreads_eq
    rwa [add_zero, add_zero, ← hblocks, zero_add] at heq
  have hjobs : cloneBuffer dest src totalSize hardwareConcurrency =
      (layOut 0 blocks).map (CopyJob.place dest src) ++
        if totalSize % blockSize > 0 then
          [⟨dest + blocks.sum, src + blocks.sum, totalSize % blockSize⟩] else [] := by
    rw [cloneBuffer, if_neg (not_or.mpr ⟨hdest, hsrc⟩)]
    dsimp only
    rw [← threadCount, hloop]
  rw [hjobs, jobLengths, ← hblocks, layOut_append, List.map_append]
  congr 1
  split_ifs
  · simp [layOut, CopyJob.place]
  · rfl

def longestShare (totalSize hardwareConcurrency : ℕ) : ℕ :=
  (totalSize / blockSize / threadCount hardwareConcurrency +
    if 0 < totalSize / blockSize % threadCount hardwareConcurrency then 1 else 0) * blockSize

theorem jobLengths_bounded :
    (∀ n ∈ jobLengths totalSize hardwareConcurrency, n ≤ securecMemMaxLen) ↔
      longestShare totalSize hardwareConcurrency ≤ securecMemMaxLen := by
  have hpos := threadCount_pos hardwareConcurrency
  constructor
  · intro h
    refine h _ (List.mem_append_left _ (List.mem_map.mpr ⟨0, ?_, rfl⟩))
    exact List.mem_range'_1.mpr ⟨le_rfl, by omega⟩
  · intro h n hn
    rcases List.mem_append.mp hn with hn | hn
    · obtain ⟨i, -, rfl⟩ := List.mem_map.mp hn
      refine le_trans (Nat.mul_le_mul_right blockSize (Nat.add_le_add_left ?_ _)) h
      split_ifs <;> omega
    · have hblock : blockSize ≤ securecMemMaxLen := by decide
      split_ifs at hn with hlast
      · rw [List.mem_singleton.mp hn]
        exact le_trans (Nat.mod_lt _ (by decide)).le hblock
      · exact absurd hn List.not_mem_nil

theorem cloneBuffer_bounded (hdest : dest ≠ 0) (hsrc : src ≠ 0) :
    (∀ job ∈ cloneBuffer dest src totalSize hardwareConcurrency, job.size ≤ securecMemMaxLen) ↔
      longestShare totalSize hardwareConcurrency ≤ securecMemMaxLen := by
  have hlengths : (∀ n ∈ jobLengths totalSize hardwareConcurrency, n ≤ securecMemMaxLen) ↔
      ∀ n ∈ (layOut 0 (jobLengths totalSize hardwareConcurrency)).map Prod.snd,
        n ≤ securecMemMaxLen := by
    rw [layOut_lengths]
  rw [← jobLengths_bounded, cloneBuffer_eq hdest hsrc, hlengths]
  simp only [List.forall_mem_map, CopyJob.place]

namespace CopyJob

/-- The jobs are parts of one copy: each has the same offset on both sides, no two write the same
byte, and together they write all of it. -/
structure SharedOut (whole : CopyJob) (jobs : List CopyJob) : Prop where
  offsets : ∀ job ∈ jobs, ∃ offset, job.dest = whole.dest + offset ∧
    job.src = whole.src + offset ∧ offset + job.size ≤ whole.size
  disjoint : jobs.Pairwise fun job job' => Disjoint job.target job'.target
  covers : ∀ a, (∃ job ∈ jobs, a ∈ job.target) ↔ a ∈ whole.target

variable {job whole : CopyJob} {jobs : List CopyJob} {w : ℕ × ℕ}

theorem mem_target {a : ℕ} : a ∈ job.target ↔ job.dest ≤ a ∧ a < job.dest + job.size :=
  Finset.mem_Ico

theorem mem_bytes : w ∈ job.bytes ↔ ∃ k < job.size, w = (job.dest + k, job.src + k) := by
  simp only [bytes, List.mem_map, List.mem_range, eq_comm]

theorem SharedOut.mem_bytes_iff (h : whole.SharedOut jobs) :
    (∃ job ∈ jobs, w ∈ job.bytes) ↔ w ∈ whole.bytes := by
  constructor
  · rintro ⟨job, hjob, hw⟩
    obtain ⟨k, hk, rfl⟩ := mem_bytes.mp hw
    obtain ⟨offset, hdest, hsrc, hend⟩ := h.offsets job hjob
    exact mem_bytes.mpr ⟨offset + k, by omega, by rw [hdest, hsrc, add_assoc, add_assoc]⟩
  · intro hw
    obtain ⟨k, hk, rfl⟩ := mem_bytes.mp hw
    obtain ⟨job, hjob, htarget⟩ := (h.covers (whole.dest + k)).mpr (mem_target.mpr (by omega))
    obtain ⟨offset, hdest, hsrc, hend⟩ := h.offsets job hjob
    have hbounds := mem_target.mp htarget
    refine ⟨job, hjob, mem_bytes.mpr ⟨k - offset, by omega, ?_⟩⟩
    rw [Prod.mk.injEq]
    omega

theorem bytes_apart (hapart : whole.Apart) {w w' : ℕ × ℕ} (hw : w ∈ whole.bytes)
    (hw' : w' ∈ whole.bytes) : w.2 ≠ w'.1 := by
  obtain ⟨k, hk, rfl⟩ := mem_bytes.mp hw
  obtain ⟨l, hl, rfl⟩ := mem_bytes.mp hw'
  exact (hapart l hl k hk).symm

theorem bytes_single {w w' : ℕ × ℕ} (hw : w ∈ whole.bytes) (hw' : w' ∈ whole.bytes)
    (hsame : w.1 = w'.1) : w.2 = w'.2 := by
  obtain ⟨k, hk, rfl⟩ := mem_bytes.mp hw
  obtain ⟨l, hl, rfl⟩ := mem_bytes.mp hw'
  dsimp only at hsame ⊢
  omega

theorem SharedOut.apart (h : whole.SharedOut jobs) (hapart : whole.Apart) (hjob : job ∈ jobs) :
    job.Apart := by
  obtain ⟨offset, hdest, hsrc, hend⟩ := h.offsets job hjob
  intro k hk l hl
  rw [hdest, hsrc, add_assoc, add_assoc]
  exact hapart _ (by omega) _ (by omega)

variable {memcpyS : CopyJob → Except ℤ (List (ℕ × ℕ))} {order : List (ℕ × ℕ)}

theorem mem_copyBlock (hmemcpy : MemcpyS memcpyS) (hapart : job.Apart) :
    w ∈ copyBlock memcpyS job ↔ job.size ≤ securecMemMaxLen ∧ w ∈ job.bytes := by
  by_cases hsize : job.size = 0 ∨ securecMemMaxLen < job.size
  · rw [copyBlock, hmemcpy.refuses job hsize]
    refine iff_of_false List.not_mem_nil ?_
    rintro ⟨hle, hw⟩
    obtain ⟨k, hk, -⟩ := mem_bytes.mp hw
    omega
  · obtain ⟨hzero, hle⟩ := not_or.mp hsize
    obtain ⟨writes, hok, hmem⟩ := hmemcpy.copies job hzero (not_lt.mp hle) hapart
    rw [copyBlock, hok]
    exact (hmem w).trans (and_iff_right (not_lt.mp hle)).symm

theorem SharedOut.mem_order (h : whole.SharedOut jobs) (hmemcpy : MemcpyS memcpyS)
    (hapart : whole.Apart) (horder : order.Perm (jobs.flatMap (copyBlock memcpyS))) :
    w ∈ order ↔ ∃ job ∈ jobs, job.size ≤ securecMemMaxLen ∧ w ∈ job.bytes := by
  rw [horder.mem_iff, List.mem_flatMap]
  exact exists_congr fun job => and_congr_right fun hjob =>
    mem_copyBlock hmemcpy (h.apart hapart hjob)

theorem SharedOut.copyCells_accepted (h : whole.SharedOut jobs) (hmemcpy : MemcpyS memcpyS)
    (hapart : whole.Apart) (horder : order.Perm (jobs.flatMap (copyBlock memcpyS)))
    (memory : ℕ → UInt8) :
    copyCells memory order =
      copyCells memory ((jobs.filter fun job => job.size ≤ securecMemMaxLen).flatMap bytes) := by
  have hmem : ∀ w, w ∈ (jobs.filter fun job => job.size ≤ securecMemMaxLen).flatMap bytes ↔
      ∃ job ∈ jobs, job.size ≤ securecMemMaxLen ∧ w ∈ job.bytes := by
    intro w
    simp [List.mem_flatMap, and_assoc]
  have hwhole : ∀ w ∈ (jobs.filter fun job => job.size ≤ securecMemMaxLen).flatMap bytes,
      w ∈ whole.bytes := by
    intro w hw
    obtain ⟨job, hjob, -, hbyte⟩ := (hmem w).mp hw
    exact h.mem_bytes_iff.mp ⟨job, hjob, hbyte⟩
  exact copyCells_congr (fun w hw w' hw' => bytes_apart hapart (hwhole w hw) (hwhole w' hw'))
    (fun w hw w' hw' => bytes_single (hwhole w hw) (hwhole w' hw'))
    fun w => (h.mem_order hmemcpy hapart horder).trans (hmem w).symm

/-- No other job writes where a refused one should have written. -/
theorem SharedOut.untouched_of_refused (h : whole.SharedOut jobs) (hmemcpy : MemcpyS memcpyS)
    (hapart : whole.Apart) (horder : order.Perm (jobs.flatMap (copyBlock memcpyS)))
    {job : CopyJob} (hjob : job ∈ jobs) (hlong : securecMemMaxLen < job.size) :
    ∀ w ∈ order, w.1 ≠ job.dest := by
  rintro w hw heq
  obtain ⟨job', hjob', hshort, hw⟩ := (h.mem_order hmemcpy hapart horder).mp hw
  obtain ⟨k, hk, rfl⟩ := mem_bytes.mp hw
  have hne : job ≠ job' := by
    rintro rfl
    exact absurd hshort (not_le.mpr hlong)
  have hsymm : Std.Symm fun a b : CopyJob => Disjoint a.target b.target :=
    ⟨fun _ _ hab => hab.symm⟩
  have hdisjoint := h.disjoint.forall hjob hjob' hne
  exact Finset.disjoint_left.mp hdisjoint (mem_target.mpr ⟨le_rfl, by omega⟩)
    (mem_target.mpr (by dsimp only at heq; omega))

/-- A refused job leaves its destination, so the result is one copy exactly when none is refused. -/
theorem SharedOut.copyCells_eq_iff (h : whole.SharedOut jobs) (hmemcpy : MemcpyS memcpyS)
    (hapart : whole.Apart) (horder : order.Perm (jobs.flatMap (copyBlock memcpyS))) :
    (∀ memory : ℕ → UInt8, copyCells memory order = copyCells memory whole.bytes) ↔
      ∀ job ∈ jobs, job.size ≤ securecMemMaxLen := by
  constructor
  · intro hsame job hjob
    by_contra hlong
    have hfirst : (job.dest, job.src) ∈ job.bytes := mem_bytes.mpr ⟨0, by omega, rfl⟩
    have hbyte := h.mem_bytes_iff.mp ⟨job, hjob, hfirst⟩
    have huntouched := h.untouched_of_refused hmemcpy hapart horder hjob (not_le.mp hlong)
    have hat := congrFun (hsame fun a => if a = job.dest then 0 else 1) job.dest
    have hcopied : copyCells (fun a => if a = job.dest then (0 : UInt8) else 1) whole.bytes job.dest =
        if job.src = job.dest then 0 else 1 :=
      copyCells_of_mem (fun w hw w' hw' => bytes_apart hapart hw hw')
        (fun w hw w' hw' => bytes_single hw hw') hbyte
    have hsrc : job.src ≠ job.dest := bytes_apart hapart hbyte hbyte
    rw [copyCells_of_untouched huntouched, hcopied, if_pos rfl, if_neg hsrc] at hat
    exact absurd hat (by decide)
  · intro hall memory
    refine copyCells_congr (fun w hw w' hw' => bytes_apart hapart hw hw')
      (fun w hw w' hw' => bytes_single hw hw') fun w => ?_
    rw [h.mem_order hmemcpy hapart horder, ← h.mem_bytes_iff]
    exact exists_congr fun job => and_congr_right fun hjob => and_iff_right (hall job hjob)

theorem sharedOut_layOut {lengths : List ℕ} (dest src : ℕ) :
    SharedOut ⟨dest, src, lengths.sum⟩ ((layOut 0 lengths).map (place dest src)) := by
  refine ⟨?_, ?_, fun a => ?_⟩
  · intro job hjob
    obtain ⟨s, hs, rfl⟩ := List.mem_map.mp hjob
    have hbounds := layOut_bounds hs
    refine ⟨s.1, rfl, rfl, ?_⟩
    simp only [place]
    omega
  · refine List.pairwise_map.mpr (layOut_ordered.imp fun {s t} hst => ?_)
    refine Finset.disjoint_left.mpr fun a ha ha' => ?_
    have hleft := mem_target.mp ha
    have hright := mem_target.mp ha'
    simp only [place] at hleft hright
    omega
  · rw [mem_target]
    constructor
    · rintro ⟨job, hjob, ha⟩
      obtain ⟨s, hs, rfl⟩ := List.mem_map.mp hjob
      have hbounds := layOut_bounds hs
      have htarget := mem_target.mp ha
      simp only [place] at htarget
      dsimp only
      omega
    · rintro ⟨hlow, hhigh⟩
      dsimp only at hlow hhigh
      obtain ⟨s, hs, hk⟩ := layOut_covers.mpr
        (show 0 ≤ a - dest ∧ a - dest < 0 + lengths.sum by omega)
      refine ⟨_, List.mem_map_of_mem hs, mem_target.mpr ?_⟩
      simp only [place]
      omega

end CopyJob

theorem cloneBuffer_sharedOut (hdest : dest ≠ 0) (hsrc : src ≠ 0) :
    CopyJob.SharedOut ⟨dest, src, totalSize⟩
      (cloneBuffer dest src totalSize hardwareConcurrency) := by
  have hshared : CopyJob.SharedOut ⟨dest, src, (jobLengths totalSize hardwareConcurrency).sum⟩ _ :=
    CopyJob.sharedOut_layOut dest src
  rwa [jobLengths_sum, ← cloneBuffer_eq hdest hsrc] at hshared

/-- The jobs partition the copy for every size. What they do in any order is to copy the bytes of
the jobs that `memcpy_s` takes, and that is one copy exactly when it takes the longest. -/
theorem cloneBuffer_copies (hdest : dest ≠ 0) (hsrc : src ≠ 0) (totalSize hardwareConcurrency : ℕ) :
    CopyJob.SharedOut ⟨dest, src, totalSize⟩ (cloneBuffer dest src totalSize hardwareConcurrency) ∧
    ∀ memcpyS, MemcpyS memcpyS → CopyJob.Apart ⟨dest, src, totalSize⟩ →
      ∀ order, order.Perm
        ((cloneBuffer dest src totalSize hardwareConcurrency).flatMap (copyBlock memcpyS)) →
      (∀ memory : ℕ → UInt8, copyCells memory order =
        copyCells memory (((cloneBuffer dest src totalSize hardwareConcurrency).filter
          fun job => job.size ≤ securecMemMaxLen).flatMap CopyJob.bytes)) ∧
      ((∀ memory : ℕ → UInt8,
          copyCells memory order = copyCells memory (CopyJob.bytes ⟨dest, src, totalSize⟩)) ↔
        longestShare totalSize hardwareConcurrency ≤ securecMemMaxLen) := by
  have hshared : CopyJob.SharedOut ⟨dest, src, totalSize⟩
      (cloneBuffer dest src totalSize hardwareConcurrency) := cloneBuffer_sharedOut hdest hsrc
  refine ⟨hshared, fun memcpyS hmemcpy hapart order horder => ⟨fun memory => ?_, ?_⟩⟩
  · exact hshared.copyCells_accepted hmemcpy hapart horder memory
  · rw [hshared.copyCells_eq_iff hmemcpy hapart horder]
    exact cloneBuffer_bounded hdest hsrc

/-- A `memcpy_s` that copies byte by byte. -/
def copyBytewise (job : CopyJob) : Except ℤ (List (ℕ × ℕ)) :=
  if job.size = 0 ∨ securecMemMaxLen < job.size then .error eRange else .ok job.bytes

theorem memcpyS_copyBytewise : MemcpyS copyBytewise where
  copies job hzero hle _ :=
    ⟨job.bytes, if_neg (not_or.mpr ⟨hzero, not_lt.mpr hle⟩), fun _ => Iff.rfl⟩
  refuses _ hsize := if_pos hsize

/-- A block and one byte more for two threads: the second thread has nothing to do, and the byte is
copied by a third. -/
theorem cloneBuffer_copies_partial : MemcpyS copyBytewise ∧ ∀ memory : ℕ → UInt8,
    copyCells memory ((cloneBuffer 1 4194304 1048577 2).flatMap (copyBlock copyBytewise)) =
      copyCells memory (CopyJob.bytes ⟨1, 4194304, 1048577⟩) :=
  ⟨memcpyS_copyBytewise,
    ((cloneBuffer_copies (by decide) (by decide) 1048577 2).2 copyBytewise memcpyS_copyBytewise
      (fun k hk l _ => by dsimp only at hk ⊢; omega) _ (List.Perm.refl _)).2.mpr (by decide)⟩

/-- Two GiB for one thread: the only job is refused. -/
theorem cloneBuffer_copies_nothing : MemcpyS copyBytewise ∧
    CopyJob.Apart ⟨1, 2 ^ 40, 2 ^ 31⟩ ∧
    ¬ ∀ memory : ℕ → UInt8,
      copyCells memory ((cloneBuffer 1 (2 ^ 40) (2 ^ 31) 1).flatMap (copyBlock copyBytewise)) =
        copyCells memory (CopyJob.bytes ⟨1, 2 ^ 40, 2 ^ 31⟩) := by
  have hapart : CopyJob.Apart ⟨1, 2 ^ 40, 2 ^ 31⟩ := fun k hk l _ => by
    dsimp only at hk ⊢
    omega
  have hjobs : cloneBuffer 1 (2 ^ 40) (2 ^ 31) 1 = [⟨1, 2 ^ 40, 2 ^ 31⟩] := by decide
  have hrefused : copyBytewise ⟨1, 2 ^ 40, 2 ^ 31⟩ = .error eRange := if_pos (by decide)
  refine ⟨memcpyS_copyBytewise, hapart, fun h => ?_⟩
  have hbyte : (1, 2 ^ 40) ∈ CopyJob.bytes ⟨1, 2 ^ 40, 2 ^ 31⟩ :=
    CopyJob.mem_bytes.mpr ⟨0, by decide, rfl⟩
  have hcopied (memory : ℕ → UInt8) :
      copyCells memory (CopyJob.bytes ⟨1, 2 ^ 40, 2 ^ 31⟩) ((1, 2 ^ 40) : ℕ × ℕ).1 =
        memory ((1, 2 ^ 40) : ℕ × ℕ).2 :=
    copyCells_of_mem (fun w hw w' hw' => CopyJob.bytes_apart hapart hw hw')
      (fun w hw w' hw' => CopyJob.bytes_single hw hw') hbyte
  have hat := congrFun (h fun a => if a = 1 then 0 else 1) 1
  rw [hjobs, List.flatMap_singleton, copyBlock, hrefused] at hat
  exact absurd (hat.trans (hcopied _)) (by decide)

end GraphicSurface
