import Mathlib.Order.Monotone.Basic
import ZohoIotSdk.Log.Rotation

/-!
# Compression of a log file

`compressAndSaveFile` reads the log file in pieces and writes them to the compressed file. After
the loop it removes the source in both branches, also in the one for a write that has failed; a
read that has failed looks like the end of the file; and nobody looks at what `gzclose` returns,
which writes what is left in the buffers of `zlib`.

`compressAndSaveFile_keeps_iff`: the source is still there or the compressed file holds all of it,
if and only if a file could not be opened, the source could not be removed, or no read and no
write fails before the end, and the compressed file is complete when it is closed.
-/

namespace ZohoIotSdk

open Files (Directory)

/-! ## The loop -/

/-- How many bytes are read before turn `k` of a file that is long enough. -/
def GzipAnswer.bytesBefore (ans : GzipAnswer) : ℕ → ℕ
  | 0 => 0
  | k + 1 => ans.bytesBefore k + min (ans.fread k) chunk

/-- In every turn from `k` on that begins before the position `length`, the read returns
something and the write succeeds. -/
def GzipAnswer.ReachesFrom (ans : GzipAnswer) (k length : ℕ) : Prop :=
  ∀ j, k ≤ j → ans.bytesBefore j < length → 0 < ans.fread j ∧ ans.gzwrite j = true

section Loop

variable {ans : GzipAnswer} {fuel k length : ℕ} {rest done : List Char}

/-- The reads only move forward in the source. -/
theorem GzipAnswer.bytesBefore_mono (ans : GzipAnswer) : Monotone ans.bytesBefore :=
  monotone_nat_of_le_succ fun _ => Nat.le_add_right _ _

/-- What has been read needs no further turn. -/
theorem GzipAnswer.ReachesFrom.of_le (h : length ≤ ans.bytesBefore k) :
    ans.ReachesFrom k length := by
  intro j hj hlt
  have hmono := ans.bytesBefore_mono hj
  omega

/-- The rest is reached when this turn succeeds and the next ones do. -/
theorem GzipAnswer.reachesFrom_iff (h : ans.bytesBefore k < length) : ans.ReachesFrom k length ↔
    (0 < ans.fread k ∧ ans.gzwrite k = true) ∧ ans.ReachesFrom (k + 1) length := by
  constructor
  · intro hreach
    exact ⟨hreach k (Nat.le_refl k) h, fun j hj => hreach j (by omega)⟩
  · rintro ⟨hk, hreach⟩ j hj
    obtain rfl | hlt := Nat.eq_or_lt_of_le hj
    · exact fun _ => hk
    · exact hreach j hlt

theorem ne_append_of_length (h : rest.length ≠ 0) : done ≠ done ++ rest := by
  intro heq
  have hlength := congrArg List.length heq
  rw [List.length_append] at hlength
  omega

/-- A turn that reads and writes something. -/
theorem compressLoop_next (fuel : ℕ) (done : List Char) (hread : ans.fread k ≠ 0)
    (hrest : rest.length ≠ 0) (hwrite : ans.gzwrite k = true) :
    ∃ n, n = min (ans.fread k) (min chunk rest.length) ∧ 0 < n ∧
      compressLoop ans (fuel + 1) k rest done =
        compressLoop ans fuel (k + 1) (rest.drop n) (done ++ rest.take n) := by
  have hchunk : 0 < chunk := by decide
  have hpos : min (ans.fread k) (min chunk rest.length) ≠ 0 := by omega
  refine ⟨_, rfl, Nat.pos_of_ne_zero hpos, ?_⟩
  rw [compressLoop]
  simp only [if_neg hpos, if_pos hwrite]

/-- A turn in which the read or the write fails. -/
theorem compressLoop_fail (h : ¬ (0 < ans.fread k ∧ ans.gzwrite k = true)) :
    (compressLoop ans (fuel + 1) k rest done).1 = done := by
  rw [compressLoop]
  split
  · rfl
  · split
    · rename_i hpos hwrite
      exact absurd ⟨by omega, hwrite⟩ h
    · rfl

/-- The loop writes everything if and only if no read and no write fails before the end. -/
theorem compressLoop_whole_iff (hfuel : rest.length < fuel) :
    (compressLoop ans fuel k rest done).1 = done ++ rest ↔
      ans.ReachesFrom k (ans.bytesBefore k + rest.length) := by
  induction fuel generalizing k rest done with
  | zero => omega
  | succ fuel ih =>
    by_cases hrest : rest.length = 0
    · have hreach : ans.ReachesFrom k (ans.bytesBefore k + rest.length) := .of_le (by omega)
      rw [compressLoop, List.length_eq_zero_iff.mp hrest] at *
      simpa using hreach
    · rw [GzipAnswer.reachesFrom_iff (by omega)]
      by_cases hturn : 0 < ans.fread k ∧ ans.gzwrite k = true
      · obtain ⟨n, hn, hpos, hnext⟩ := compressLoop_next fuel done
          (Nat.ne_of_gt hturn.1) hrest hturn.2
        have hsplit : done ++ rest = (done ++ rest.take n) ++ rest.drop n := by
          rw [List.append_assoc, List.take_append_drop]
        have hposition : ans.bytesBefore (k + 1) =
            ans.bytesBefore k + min (ans.fread k) chunk := rfl
        rw [hnext, hsplit, ih (by rw [List.length_drop]; omega), List.length_drop]
        simp only [hturn, and_self, true_and]
        by_cases hend : n = rest.length
        · -- the position is no longer exact, but nothing is left
          exact iff_of_true (.of_le (by omega)) (.of_le (by omega))
        · have htotal : ans.bytesBefore (k + 1) + (rest.length - n) =
              ans.bytesBefore k + rest.length := by omega
          rw [htotal]
      · rw [compressLoop_fail hturn]
        simp only [hturn, false_and, iff_false]
        exact ne_append_of_length hrest

/-- A loop that ended in a failed write has not written everything. -/
theorem compressLoop_incomplete (h : (compressLoop ans fuel k rest done).2 = false) :
    (compressLoop ans fuel k rest done).1 ≠ done ++ rest := by
  induction fuel generalizing k rest done with
  | zero => simp [compressLoop] at h
  | succ fuel ih =>
    have hsome : min (ans.fread k) (min chunk rest.length) ≠ 0 := by
      intro hzero
      simp [compressLoop, hzero] at h
    have hrest : rest.length ≠ 0 := by omega
    by_cases hwrite : ans.gzwrite k = true
    · obtain ⟨n, -, -, hnext⟩ := compressLoop_next fuel done (by omega) hrest hwrite
      rw [hnext] at h ⊢
      have hleft := ih h
      rwa [List.append_assoc, List.take_append_drop] at hleft
    · rw [compressLoop_fail fun hturn => hwrite hturn.2]
      exact ne_append_of_length hrest

end Loop

/-! ## The files -/

section Save

variable {zl : Zlib} {ans : GzipAnswer} {source compressed : CString} {d : Directory CString Char}
  {content : List Char}

/-- Removing a file takes its name away if the call succeeds. -/
theorem read_removeFile (succeeds : Bool) (name name' : CString) (d : Directory CString Char) :
    (removeFile succeeds name d).read name' =
      if succeeds = true ∧ name' = name then none else d.read name' := by
  cases succeeds with
  | false => simp [removeFile]
  | true => simp [removeFile, Directory.read_remove]

/-- What the compressed file holds before the source is dealt with. -/
theorem read_overwritten (d : Directory CString Char) (name name' : CString)
    (written : List Char) :
    ((d.openWrite name).2.write (d.openWrite name).1 written).read name' =
      if name' = name then some written else d.read name' := by
  rw [Directory.read_write Directory.lookup_openWrite, Directory.read_openWrite]
  split
  · rfl
  · rfl

/-- The source is still there, or the compressed file holds all of it. -/
def KeepsSource (zl : Zlib) (source compressed : CString) (content : List Char)
    (d : Directory CString Char) : Prop :=
  d.read source = some content ∨ (d.read compressed).bind zl.decompress = some content

/-- A compressed file that is cut off is not decompressed: its end is missing. -/
def Zlib.RefusesCut (zl : Zlib) : Prop :=
  ∀ content n, n < (zl.compress content).length →
    zl.decompress ((zl.compress content).take n) = none

/-- The compressed file is closed without an error, or has all of its bytes when that fails. -/
def GzipAnswer.Completes (ans : GzipAnswer) (length : ℕ) : Prop := ∀ n ∈ ans.gzclose, length ≤ n

/-- What a compressed file holds after it was closed. -/
theorem decompress_closed_iff (hcut : zl.RefusesCut) (written : List Char) :
    zl.decompress (ans.closed (zl.compress written)) = some content ↔
      written = content ∧ ans.Completes (zl.compress content).length := by
  unfold GzipAnswer.closed GzipAnswer.Completes
  cases hclose : ans.gzclose with
  | none => simp [zl.lossless]
  | some n =>
    by_cases hn : n < (zl.compress written).length
    · have hnone := hcut written n hn
      refine iff_of_false (by simp [hnone]) ?_
      rintro ⟨rfl, hcompletes⟩
      exact absurd (hcompletes n rfl) (Nat.not_le.mpr hn)
    · have hwhole : (zl.compress written).take n = zl.compress written :=
        List.take_of_length_le (Nat.not_lt.mp hn)
      simp only [hwhole, zl.lossless, Option.some_inj]
      refine ⟨fun heq => ⟨heq, fun m hm => ?_⟩, And.left⟩
      rw [← heq, ← Option.some_inj.mp hm]
      exact Nat.not_lt.mp hn

/-- Unless the source can be opened and removed, it stays. -/
theorem read_source_kept (hne : source ≠ compressed) (hread : d.read source = some content)
    (h : ¬ (ans.gzopen = true ∧ ans.fopen = true ∧ ans.removeSource = true)) :
    (compressAndSaveFile zl ans source compressed d).read source = some content := by
  unfold compressAndSaveFile
  by_cases hgzopen : ans.gzopen = true
  · have hopened : (d.openWrite compressed).2.read source = some content := by
      rw [Directory.read_openWrite, if_neg hne, hread]
    by_cases hfopen : ans.fopen = true
    · have hremove : ans.removeSource = false := by simpa [hgzopen, hfopen] using h
      simp only [hgzopen, hfopen, if_true, hopened]
      split
      · simp [read_removeFile, hremove, read_overwritten, hne, hread]
      · simp [read_removeFile, hremove, read_overwritten, hne, hread]
    · simp [hgzopen, hfopen, read_overwritten, hne, hread]
  · simp [hgzopen, hread]

/-- If the source can be opened and removed, then it is kept if and only if the loop has written
everything and the compressed file is complete. -/
theorem keepsSource_iff_whole (hcut : zl.RefusesCut) (hne : source ≠ compressed)
    (hread : d.read source = some content) (hgzopen : ans.gzopen = true)
    (hfopen : ans.fopen = true) (hremove : ans.removeSource = true) :
    KeepsSource zl source compressed content (compressAndSaveFile zl ans source compressed d) ↔
      (compressLoop ans (content.length + 1) 0 content []).1 = content ∧
        ans.Completes (zl.compress content).length := by
  have hopened : (d.openWrite compressed).2.read source = some content := by
    rw [Directory.read_openWrite, if_neg hne, hread]
  have hincomplete : (compressLoop ans (content.length + 1) 0 content []).2 = false →
      (compressLoop ans (content.length + 1) 0 content []).1 ≠ [] ++ content :=
    compressLoop_incomplete
  rw [List.nil_append] at hincomplete
  unfold KeepsSource compressAndSaveFile
  simp only [hgzopen, hfopen, if_true, hopened]
  generalize compressLoop ans (content.length + 1) 0 content [] = written at hincomplete ⊢
  obtain ⟨written, complete⟩ := written
  have hclosed : zl.decompress (ans.closed (zl.compress written)) = some content ↔
      written = content ∧ ans.Completes (zl.compress content).length :=
    decompress_closed_iff hcut written
  cases complete with
  | true => simp [read_removeFile, hremove, read_overwritten, hne.symm, hclosed]
  | false =>
    have hpart : written ≠ content := hincomplete rfl
    cases ans.removeCompressed with
    | true => simp [read_removeFile, hremove, hne.symm, hpart]
    | false => simp [read_removeFile, hremove, read_overwritten, hne.symm, hclosed]

/-- With a `zlib` that does not take a file that is cut off for a whole one: the source is lost
exactly if it can be opened and removed, and a read or a write fails before its end or the
compressed file is not complete when it is closed. -/
theorem compressAndSaveFile_keeps_iff (zl : Zlib) (hcut : zl.RefusesCut) (ans : GzipAnswer)
    (source compressed : CString) (hne : source ≠ compressed) (d : Directory CString Char)
    (content : List Char) (hread : d.read source = some content) :
    KeepsSource zl source compressed content (compressAndSaveFile zl ans source compressed d) ↔
      (ans.gzopen = true → ans.fopen = true → ans.removeSource = true →
        (∀ k, ans.bytesBefore k < content.length → 0 < ans.fread k ∧ ans.gzwrite k = true) ∧
          ans.Completes (zl.compress content).length) := by
  by_cases hlose : ans.gzopen = true ∧ ans.fopen = true ∧ ans.removeSource = true
  · obtain ⟨hgzopen, hfopen, hremove⟩ := hlose
    have hwhole : (compressLoop ans (content.length + 1) 0 content []).1 = [] ++ content ↔
        ans.ReachesFrom 0 (ans.bytesBefore 0 + content.length) :=
      compressLoop_whole_iff (Nat.lt_succ_self content.length)
    rw [List.nil_append] at hwhole
    rw [keepsSource_iff_whole hcut hne hread hgzopen hfopen hremove, hwhole]
    simp [hgzopen, hfopen, hremove, GzipAnswer.ReachesFrom, GzipAnswer.bytesBefore]
  · refine iff_of_true (.inl (read_source_kept hne hread hlose)) ?_
    intro hgzopen hfopen hremove
    exact absurd ⟨hgzopen, hfopen, hremove⟩ hlose

end Save

/-- A file with a tag before each byte and at the end. -/
def tagged (content : List Char) : List Char := content.flatMap (fun c => ['c', c]) ++ ['e']

/-- The content of a file with tags. -/
def untagged : List Char → Option (List Char)
  | ['e'] => some []
  | 'c' :: c :: rest => (untagged rest).map (c :: ·)
  | _ => none

/-- A tagged text is recovered. -/
theorem untagged_tagged (content : List Char) : untagged (tagged content) = some content := by
  induction content with
  | nil => rfl
  | cons c content ih =>
    show (untagged (tagged content)).map (c :: ·) = _
    rw [ih]
    rfl

/-- A `zlib` that tags the content. -/
def taggingZlib : Zlib := ⟨tagged, untagged, untagged_tagged⟩

/-- The tagged texts are recovered whole or not at all. -/
theorem refusesCut_taggingZlib : taggingZlib.RefusesCut := by
  intro content
  show ∀ n, n < (tagged content).length → untagged ((tagged content).take n) = none
  induction content with
  | nil =>
    intro n hn
    obtain rfl : n = 0 := Nat.lt_one_iff.mp hn
    rfl
  | cons c content ih =>
    intro n hn
    match n, hn with
    | 0, _ => rfl
    | 1, _ => rfl
    | n + 2, hn =>
      show (untagged ((tagged content).take n)).map (c :: ·) = none
      have hlength : n < (tagged content).length := by
        have htwo : (tagged (c :: content)).length = (tagged content).length + 2 := rfl
        omega
      rw [ih n hlength]
      rfl

/-- A directory with one log file. -/
def oneLog (name content : CString) : Directory CString Char :=
  let d : Directory CString Char := .empty
  (d.openWrite name).2.write (d.openWrite name).1 content

theorem read_oneLog (name content : CString) : (oneLog name content).read name = some content := by
  rw [oneLog, read_overwritten, if_pos rfl]

/-- A short log is kept when it is compressed. -/
def ShortLogKept (ans : GzipAnswer) : Prop :=
  KeepsSource taggingZlib "./zoho_SDK_logs.log".toList "./zoho_SDK_logs.gz".toList
    "started\n".toList (compressAndSaveFile taggingZlib ans "./zoho_SDK_logs.log".toList
      "./zoho_SDK_logs.gz".toList (oneLog "./zoho_SDK_logs.log".toList "started\n".toList))

/-- Nothing fails. -/
theorem compressAndSaveFile_keeps_sample : ShortLogKept {} := by
  refine (compressAndSaveFile_keeps_iff taggingZlib refusesCut_taggingZlib {} _ _ (by decide) _ _
    (read_oneLog _ _)).mpr fun _ _ _ => ⟨fun k _ => ⟨?_, rfl⟩, ?_⟩
  · exact (by decide : 0 < chunk)
  · intro n hn
    exact absurd hn (by simp)

/-- On a full disk the write goes to the buffers of `zlib`, and `gzclose` fails: the source is
removed, and the compressed file is empty. If the buffers cannot be allocated, the first write
fails: both files are removed. -/
theorem failed_write_loses_log :
    ¬ ShortLogKept { gzclose := some 0 } ∧ ¬ ShortLogKept { gzwrite := fun _ => false } := by
  have hkeeps : ∀ ans : GzipAnswer, ans.gzopen = true → ans.fopen = true →
      ans.removeSource = true → (ShortLogKept ans ↔
        (compressLoop ans ("started\n".toList.length + 1) 0 "started\n".toList []).1 =
          "started\n".toList ∧ ans.Completes (taggingZlib.compress "started\n".toList).length) :=
    fun _ => keepsSource_iff_whole refusesCut_taggingZlib (by decide) (read_oneLog _ _)
  constructor
  · intro hkept
    have hboth := (hkeeps _ rfl rfl rfl).mp hkept
    exact absurd (hboth.2 0 rfl) (by decide)
  · intro hkept
    have hboth := (hkeeps _ rfl rfl rfl).mp hkept
    exact absurd hboth.1 (by decide)

end ZohoIotSdk
