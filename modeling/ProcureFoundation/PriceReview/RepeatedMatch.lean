import ProcureFoundation.PriceReview.RowCoverage
import ProcureFoundation.PriceReview.Summary

/-!
# Matching the same files again

Every call of the match operation appends the lines of the staged rows to those that the
review already has. Each row is represented once exactly when the review had no lines,
after one call unless there is nothing to match, and when no new row is shared.
-/

namespace ProcureFoundation.PriceReview

open Ingestion Matching Outcome

inductive FileType where
  | previous
  | new
deriving DecidableEq

structure PriceReviewFile where
  fileType : FileType
  stagedRows : Option (List PriceListRow)
deriving DecidableEq

inductive ReviewStatus where
  | draft
  | reviewRequired
  | analysing
deriving DecidableEq

structure Review where
  status : ReviewStatus
  files : List PriceReviewFile
  lines : List LineRow
deriving DecidableEq

/-- Of several files of one type the last one counts. -/
def Review.file (review : Review) (fileType : FileType) : Option PriceReviewFile :=
  (review.files.filter fun file => file.fileType == fileType).getLast?

def runProductMatching (tools : TextTools) (review : Review) : Except String Review :=
  match review.file .previous, review.file .new with
  | some previousFile, some newFile =>
    match previousFile.stagedRows, newFile.stagedRows with
    | some oldRows, some newRows => do
      let (lines, rows) ← runMatching tools oldRows newRows
      return { review with
        lines := review.lines ++ rows
        status := if lines.any (·.matchStatus == .reviewRequired) then .reviewRequired
          else .analysing }
    | _, _ => .error "Both files must have a confirmed column mapping before matching"
  | _, _ => .error "Both 'previous' and 'new' price list files must be uploaded"

def matchTimes (tools : TextTools) : ℕ → Review → Except String Review
  | 0, review => .ok review
  | n + 1, review => do
    let review ← runProductMatching tools review
    matchTimes tools n review

def Review.staged (review : Review) (fileType : FileType) : Option (List PriceListRow) :=
  (review.file fileType).bind PriceReviewFile.stagedRows

/-- The rows of the table mention each staged row once and no other row. -/
structure RepresentsRows (oldRows newRows : List PriceListRow) (rows : List LineRow) : Prop where
  old : (carriedOld rows).Perm (oldRows.map fun row => (ListSide.ofRow row).stored)
  new : (carriedNew rows).Perm (newRows.map fun row => (ListSide.ofRow row).stored)

variable {tools : TextTools} {oldRows newRows : List PriceListRow} {review after : Review} {n : ℕ}

theorem Review.staged_congr (h : after.files = review.files) (fileType : FileType) :
    after.staged fileType = review.staged fileType := by
  rw [staged, file, h]
  rfl

theorem runProductMatching_ok (hPrevious : review.staged .previous = some oldRows)
    (hNewFile : review.staged .new = some newRows) (hNew : Staged newRows)
    (h : runProductMatching tools review = .ok after) :
    after.files = review.files ∧
      after.lines = review.lines ++
        (pairLines tools oldRows newRows).map PriceReviewLine.inserted := by
  obtain ⟨previousFile, hPreviousFile, hOldRows⟩ := Option.bind_eq_some_iff.mp hPrevious
  obtain ⟨newFile, hFile, hNewRows⟩ := Option.bind_eq_some_iff.mp hNewFile
  rw [runProductMatching, hPreviousFile, hFile] at h
  dsimp only at h
  rw [hOldRows, hNewRows] at h
  obtain ⟨result, hRun, h⟩ := exists_of_bind_eq_ok h
  obtain ⟨-, rfl⟩ := (runMatching_eq_ok hNew).mp hRun
  obtain rfl := Except.ok.inj h
  exact ⟨rfl, rfl⟩

theorem matchTimes_ok (hPrevious : review.staged .previous = some oldRows)
    (hNewFile : review.staged .new = some newRows) (hNew : Staged newRows)
    (h : matchTimes tools n review = .ok after) : after.lines = review.lines ++
      (List.replicate n ((pairLines tools oldRows newRows).map PriceReviewLine.inserted)).flatten := by
  induction n generalizing review with
  | zero =>
    obtain rfl := Except.ok.inj h
    exact (List.append_nil _).symm
  | succ n ih =>
    obtain ⟨next, hNext, h⟩ := exists_of_bind_eq_ok h
    obtain ⟨hFiles, hLines⟩ := runProductMatching_ok hPrevious hNewFile hNew hNext
    have hStaged := Review.staged_congr hFiles
    rw [ih ((hStaged _).trans hPrevious) ((hStaged _).trans hNewFile) h, hLines, List.append_assoc,
      List.replicate_succ, List.flatten_cons]

theorem filter_stored (sides : List (ListSide Decimal)) :
    (sides.map ListSide.stored).filter (·.supplierSku.isSome) =
      (sides.filter (·.supplierSku.isSome)).map ListSide.stored :=
  List.filter_map

theorem carriedOld_inserted (lines : List (PriceReviewLine Decimal)) :
    carriedOld (lines.map PriceReviewLine.inserted) = (carriedOld lines).map ListSide.stored := by
  rw [carriedOld, carriedOld, ← filter_stored, List.map_map, List.map_map]
  rfl

theorem carriedNew_inserted (lines : List (PriceReviewLine Decimal)) :
    carriedNew (lines.map PriceReviewLine.inserted) = (carriedNew lines).map ListSide.stored := by
  rw [carriedNew, carriedNew, ← filter_stored, List.map_map, List.map_map]
  rfl

theorem length_filter_map_copies {β : Type} (side : LineRow → β) (carried : β → Bool)
    (rows : List LineRow) (n : ℕ) :
    (((List.replicate n rows).flatten.map side).filter carried).length =
      n * ((rows.map side).filter carried).length := by
  induction n with
  | zero => rw [Nat.zero_mul]; rfl
  | succ n ih =>
    rw [List.replicate_succ, List.flatten_cons, List.map_append, List.filter_append,
      List.length_append, ih, Nat.succ_mul, Nat.add_comm]

theorem length_carriedOld_copies (earlier rows : List LineRow) (n : ℕ) :
    (carriedOld (earlier ++ (List.replicate n rows).flatten)).length =
      (carriedOld earlier).length + n * (carriedOld rows).length := by
  rw [carriedOld, List.map_append, List.filter_append, List.length_append, length_filter_map_copies]
  rfl

theorem length_carriedNew_copies (earlier rows : List LineRow) (n : ℕ) :
    (carriedNew (earlier ++ (List.replicate n rows).flatten)).length =
      (carriedNew earlier).length + n * (carriedNew rows).length := by
  rw [carriedNew, List.map_append, List.filter_append, List.length_append, length_filter_map_copies]
  rfl

/-- No line of the review mentions a row of an earlier match. -/
structure Unmatched (rows : List LineRow) : Prop where
  old : carriedOld rows = []
  new : carriedNew rows = []

variable {earlier : List LineRow}

theorem representsRows_once (hOld : Staged oldRows) (hNew : Staged newRows)
    (hEarlier : Unmatched earlier) (hShared : NoSharedRow tools oldRows newRows) :
    RepresentsRows oldRows newRows
      (earlier ++ (pairLines tools oldRows newRows).map PriceReviewLine.inserted) := by
  obtain ⟨hOldSides, hNewSides⟩ := (coversRows_iff hOld hNew).mpr hShared
  constructor
  · rw [carriedOld, List.map_append, List.filter_append, ← carriedOld, ← carriedOld, hEarlier.old,
      List.nil_append, carriedOld_inserted, ← Function.comp_def ListSide.stored, ← List.map_map]
    exact hOldSides.map _
  · rw [carriedNew, List.map_append, List.filter_append, ← carriedNew, ← carriedNew, hEarlier.new,
      List.nil_append, carriedNew_inserted, ← Function.comp_def ListSide.stored, ← List.map_map]
    exact hNewSides.map _

theorem once_or_empty {earlierLength copies length : ℕ} (hPos : 1 ≤ n) (hCopies : length ≤ copies)
    (h : earlierLength + n * copies = length) : earlierLength = 0 ∧ (n = 1 ∨ length = 0) := by
  have hOnce : copies ≤ n * copies := Nat.le_mul_of_pos_left copies hPos
  have hEarlier : earlierLength = 0 := by omega
  refine ⟨hEarlier, ?_⟩
  obtain hZero | hLength := Nat.eq_zero_or_pos length
  · exact .inr hZero
  · have hSame : n * copies = 1 * copies := by omega
    exact .inl (Nat.eq_of_mul_eq_mul_right (hLength.trans_le hCopies) hSame)

theorem copies_represent (hOld : Staged oldRows) (hNew : Staged newRows) (hPos : 1 ≤ n)
    (h : RepresentsRows oldRows newRows
      (earlier ++ (List.replicate n
        ((pairLines tools oldRows newRows).map PriceReviewLine.inserted)).flatten)) :
    Unmatched earlier ∧ (n = 1 ∨ oldRows = [] ∧ newRows = []) ∧
      NoSharedRow tools oldRows newRows := by
  have hOldLength := h.old.length_eq
  have hNewLength := h.new.length_eq
  rw [length_carriedOld_copies, carriedOld_inserted, List.length_map, carriedOld_pairLines hOld,
    List.length_map, List.length_map] at hOldLength
  rw [length_carriedNew_copies, carriedNew_inserted, List.length_map, List.length_map] at hNewLength
  have hCopies := @length_le_carriedNew tools oldRows newRows hNew
  obtain ⟨hOldEarlier, hOldTimes⟩ := once_or_empty hPos le_rfl hOldLength
  obtain ⟨hNewEarlier, hNewTimes⟩ := once_or_empty hPos hCopies hNewLength
  have hShared : NoSharedRow tools oldRows newRows := by
    rw [← length_carriedNew hNew]
    have hOnce := Nat.le_mul_of_pos_left (carriedNew (pairLines tools oldRows newRows)).length hPos
    omega
  refine ⟨⟨List.length_eq_zero_iff.mp hOldEarlier, List.length_eq_zero_iff.mp hNewEarlier⟩, ?_,
    hShared⟩
  obtain hOnce | hNoOld := hOldTimes
  · exact .inl hOnce
  · obtain hOnce | hNoNew := hNewTimes
    · exact .inl hOnce
    · exact .inr ⟨List.length_eq_zero_iff.mp hNoOld, List.length_eq_zero_iff.mp hNoNew⟩

theorem copies_of_empty (n : ℕ) :
    (List.replicate n ((pairLines tools [] []).map PriceReviewLine.inserted)).flatten = [] := by
  rw [List.flatten_eq_nil_iff]
  intro rows hRows
  exact List.eq_of_mem_replicate hRows

theorem exists_runProductMatching (hPrevious : review.staged .previous = some oldRows)
    (hNewFile : review.staged .new = some newRows) (hNew : Staged newRows)
    (hInsertable : ∀ row ∈ oldRows ++ newRows, Insertable row) :
    ∃ after, runProductMatching tools review = .ok after := by
  obtain ⟨previousFile, hPreviousFile, hOldRows⟩ := Option.bind_eq_some_iff.mp hPrevious
  obtain ⟨newFile, hFile, hNewRows⟩ := Option.bind_eq_some_iff.mp hNewFile
  rw [runProductMatching, hPreviousFile, hFile]
  dsimp only
  rw [hOldRows, hNewRows]
  exact ⟨_, bind_of_eq_ok ((runMatching_eq_ok hNew).mpr ⟨hInsertable, rfl⟩) _⟩

theorem exists_matchTimes (hPrevious : review.staged .previous = some oldRows)
    (hNewFile : review.staged .new = some newRows) (hNew : Staged newRows)
    (hInsertable : ∀ row ∈ oldRows ++ newRows, Insertable row) (n : ℕ) :
    ∃ after, matchTimes tools n review = .ok after := by
  induction n generalizing review with
  | zero => exact ⟨review, rfl⟩
  | succ n ih =>
    obtain ⟨next, hNext⟩ :=
      @exists_runProductMatching tools _ _ _ hPrevious hNewFile hNew hInsertable
    have hFiles := (runProductMatching_ok hPrevious hNewFile hNew hNext).1
    have hStaged := Review.staged_congr hFiles
    obtain ⟨after, hAfter⟩ := ih ((hStaged _).trans hPrevious) ((hStaged _).trans hNewFile)
    exact ⟨after, (bind_of_eq_ok hNext _).trans hAfter⟩

/-- After `n` calls a review represents each staged row once, with the summary of the first call,
exactly when nothing was matched before, `n` is one or nothing is staged, and no new row is shared.
-/
theorem repeated_match_represents (tools : TextTools)
    {mappedOld mappedNew oldRows newRows : List PriceListRow} {review once after : Review} {n : ℕ}
    (hPos : 1 ≤ n) (hOld : stagedRows mappedOld = .ok oldRows)
    (hNew : stagedRows mappedNew = .ok newRows) (hPrevious : review.staged .previous = some oldRows)
    (hNewFile : review.staged .new = some newRows)
    (hOnce : runProductMatching tools review = .ok once)
    (hAfter : matchTimes tools n review = .ok after) :
    (RepresentsRows oldRows newRows after.lines ∧ getSummary after.lines = getSummary once.lines) ↔
      Unmatched review.lines ∧ (n = 1 ∨ oldRows = [] ∧ newRows = []) ∧
        NoSharedRow tools oldRows newRows := by
  have hOldStaged := staged_of_stagedRows hOld
  have hNewStaged := staged_of_stagedRows hNew
  have hLines := matchTimes_ok hPrevious hNewFile hNewStaged hAfter
  obtain ⟨-, hOnceLines⟩ := runProductMatching_ok hPrevious hNewFile hNewStaged hOnce
  constructor
  · rintro ⟨hRepresents, -⟩
    exact copies_represent hOldStaged hNewStaged hPos (hLines ▸ hRepresents)
  · rintro ⟨hUnmatched, hTimes, hShared⟩
    have hSame : after.lines = once.lines := by
      obtain rfl | ⟨rfl, rfl⟩ := hTimes
      · rw [hLines, hOnceLines, List.replicate_one, List.flatten_singleton]
      · rw [hLines, hOnceLines, copies_of_empty]
        rfl
    rw [hSame, hOnceLines]
    exact ⟨representsRows_once hOldStaged hNewStaged hUnmatched hShared, rfl⟩

def flourReview : Review where
  status := .draft
  files := [⟨.previous, some [plainRow "FL-10" "120.50"]⟩, ⟨.new, some [plainRow "FL-10" "120.50"]⟩]
  lines := []

theorem insertable_flour : ∀ row ∈ [plainRow "FL-10" "120.50"] ++ [plainRow "FL-10" "120.50"],
    Insertable row := by
  decide +kernel

theorem flour_matched_once : ∃ once, runProductMatching asciiTools flourReview = .ok once ∧
    RepresentsRows [plainRow "FL-10" "120.50"] [plainRow "FL-10" "120.50"] once.lines := by
  obtain ⟨once, hOnce⟩ := @exists_runProductMatching asciiTools _ _ flourReview rfl rfl
    (staged_of_stagedRows staged_flour) insertable_flour
  have hTimes : matchTimes asciiTools 1 flourReview = .ok once := bind_of_eq_ok hOnce _
  exact ⟨once, hOnce,
    ((repeated_match_represents asciiTools le_rfl staged_flour staged_flour rfl rfl hOnce
    hTimes).mpr ⟨⟨rfl, rfl⟩, .inl rfl, List.pairwise_singleton _ _⟩).1⟩

theorem flour_matched_twice :
    ¬ ∀ (tools : TextTools) (mappedOld mappedNew oldRows newRows : List PriceListRow)
    (review once after : Review) (n : ℕ), 1 ≤ n → stagedRows mappedOld = .ok oldRows →
      stagedRows mappedNew = .ok newRows → review.staged .previous = some oldRows →
      review.staged .new = some newRows → review.lines = [] →
        runProductMatching tools review = .ok once →
      matchTimes tools n review = .ok after →
      RepresentsRows oldRows newRows after.lines ∧
        getSummary after.lines = getSummary once.lines := by
  intro h
  have hStaged := staged_of_stagedRows staged_flour
  obtain ⟨once, hOnce⟩ :=
    @exists_runProductMatching asciiTools _ _ flourReview rfl rfl hStaged insertable_flour
  obtain ⟨after, hAfter⟩ :=
    @exists_matchTimes asciiTools _ _ flourReview rfl rfl hStaged insertable_flour 2
  obtain ⟨hRepresents, -⟩ :=
    h asciiTools _ _ _ _ flourReview once after 2 (by decide) staged_flour staged_flour rfl rfl
      rfl hOnce hAfter
  have hLines := matchTimes_ok rfl rfl hStaged hAfter
  obtain ⟨-, hTimes | hEmpty, -⟩ :=
    copies_represent hStaged hStaged (by decide) (hLines ▸ hRepresents)
  · exact nomatch hTimes
  · exact nomatch hEmpty.1

end ProcureFoundation.PriceReview
