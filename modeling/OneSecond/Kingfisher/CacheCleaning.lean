import OneSecond.Dictionaries
import OneSecond.Sorting

/-!
# Cleaning the disk cache (`Kingfisher/Sources/ImageCache.swift`)

Expired files are deleted, and where the others are larger than the limit, the
oldest of them until less than half of the limit is left.  A removal which throws
is passed over: its file counts as deleted, and stays.

Sizes are of type `UInt`, which has as many bits as the device's word and whose
arithmetic traps: `none` is a crash.  The files whose size is subtracted are among
those whose size was added, so only adding can trap.  The order in which a
dictionary lists its entries is part of the sort routine.
-/

namespace OneSecond

namespace Kingfisher

open Dictionaries Sorting

variable {URL Date : Type} [DecidableEq URL] [LinearOrder Date]

structure URLResourceValues (Date : Type) where
  isDirectory : Option Bool
  contentAccessDate : Option Date
  totalFileAllocatedSize : Option ℕ

/-- What the cache directory contains, with the resource values where they can be had. -/
abbrev Contents (URL Date : Type) := List (URL × Option (URLResourceValues Date))

/-- The values of `UInt` are below. -/
def boundUInt (bits : ℕ) : ℕ := 2 ^ bits

/-- Addition of `UInt`. -/
def addUInt (bits first second : ℕ) : Option ℕ :=
  if first + second < boundUInt bits then some (first + second) else none

/-- Subtraction of `UInt`. -/
def subtractUInt (first second : ℕ) : Option ℕ :=
  if second ≤ first then some (first - second) else none

/-- An entry of `cachedFiles`. -/
abbrev CachedFile (URL Date : Type) := Sigma fun _ : URL => URLResourceValues Date

/-- What `travelCachedFiles` returns. -/
structure CachedFiles (URL Date : Type) where
  urlsToDelete : List URL
  diskCacheSize : ℕ
  cachedFiles : AList fun _ : URL => URLResourceValues Date

namespace DiskCache

/-- The later one of the last access and the expiry date is the expiry date. -/
def expired (onlyForCacheSize : Bool) (expiredDate : Option Date)
    (values : URLResourceValues Date) : Bool :=
  match onlyForCacheSize, expiredDate, values.contentAccessDate with
  | false, some expiredDate, some lastAccessData => lastAccessData ≤ expiredDate
  | _, _, _ => false

def travelFile (bits : ℕ) (onlyForCacheSize : Bool) (expiredDate : Option Date)
    (travelled : CachedFiles URL Date) (file : URL × Option (URLResourceValues Date)) :
    Option (CachedFiles URL Date) :=
  match file.2 with
  | none => some travelled
  | some values =>
      if values.isDirectory = some true then some travelled
      else if expired onlyForCacheSize expiredDate values then
        some { travelled with urlsToDelete := travelled.urlsToDelete ++ [file.1] }
      else
        match values.totalFileAllocatedSize with
        | none => some travelled
        | some fileSize =>
            (addUInt bits travelled.diskCacheSize fileSize).map fun diskCacheSize =>
              { travelled with
                diskCacheSize
                cachedFiles :=
                  if onlyForCacheSize then travelled.cachedFiles
                  else travelled.cachedFiles.insert file.1 values }

def travelCachedFiles (bits : ℕ) (onlyForCacheSize : Bool) (expiredDate : Option Date)
    (contents : Contents URL Date) : Option (CachedFiles URL Date) :=
  contents.foldlM (travelFile bits onlyForCacheSize expiredDate) ⟨[], 0, ∅⟩

/-- The predicate the cached files are sorted by. -/
def accessedBefore (resourceValue1 resourceValue2 : URLResourceValues Date) : Bool :=
  match resourceValue1.contentAccessDate, resourceValue2.contentAccessDate with
  | some date1, some date2 => date1 < date2
  | _, _ => true

def keysSortedByValue (sort : SortRoutine (CachedFile URL Date))
    (cachedFiles : AList fun _ : URL => URLResourceValues Date) : List URL :=
  (sort.sorted (fun file other => accessedBefore file.2 other.2) cachedFiles.entries).map Sigma.fst

/-- The loop over the sorted files. -/
def deleteOldest (cachedFiles : AList fun _ : URL => URLResourceValues Date) (targetSize : ℕ)
    (diskCacheSize : ℕ) (urlsToDelete : List URL) : List URL → Option (List URL)
  | [] => some urlsToDelete
  | fileURL :: sortedFiles =>
      let subtracted :=
        match (cachedFiles.lookup fileURL).bind (·.totalFileAllocatedSize) with
        | some fileSize => subtractUInt diskCacheSize fileSize
        | none => some diskCacheSize
      subtracted.bind fun diskCacheSize =>
        if diskCacheSize < targetSize then some (urlsToDelete ++ [fileURL])
        else deleteOldest cachedFiles targetSize diskCacheSize (urlsToDelete ++ [fileURL])
          sortedFiles

/-- The URLs whose removal is attempted. -/
def cleanExpiredDiskCache (bits : ℕ) (sort : SortRoutine (CachedFile URL Date))
    (maxDiskCacheSize : ℕ) (expiredDate : Option Date) (contents : Contents URL Date) :
    Option (List URL) :=
  (travelCachedFiles bits false expiredDate contents).bind fun travelled =>
    if 0 < maxDiskCacheSize ∧ maxDiskCacheSize < travelled.diskCacheSize then
      deleteOldest travelled.cachedFiles (maxDiskCacheSize / 2) travelled.diskCacheSize
        travelled.urlsToDelete (keysSortedByValue sort travelled.cachedFiles)
    else some travelled.urlsToDelete

/-- The directory after these removals; `fails` tells where `removeItem` throws. -/
def removeItems (fails : URL → Bool) (urlsToDelete : List URL) (contents : Contents URL Date) :
    Contents URL Date :=
  contents.filter fun file => file.1 ∉ urlsToDelete || fails file.1

def calculateDiskCacheSize (bits : ℕ) (expiredDate : Option Date) (contents : Contents URL Date) :
    Option ℕ :=
  (travelCachedFiles bits true expiredDate contents).map CachedFiles.diskCacheSize

def fileSize (file : CachedFile URL Date) : ℕ := file.2.totalFileAllocatedSize.getD 0

/-- The files whose size is added. -/
def counted (onlyForCacheSize : Bool) (expiredDate : Option Date) (contents : Contents URL Date) :
    List (CachedFile URL Date) :=
  contents.filterMap fun file => file.2.bind fun values =>
    if values.isDirectory = some true || expired onlyForCacheSize expiredDate values ||
        values.totalFileAllocatedSize.isNone then none
    else some ⟨file.1, values⟩

def insertAll (cachedFiles : AList fun _ : URL => URLResourceValues Date)
    (files : List (CachedFile URL Date)) : AList fun _ : URL => URLResourceValues Date :=
  files.foldl (fun cachedFiles file => cachedFiles.insert file.1 file.2) cachedFiles

def expiredFiles (onlyForCacheSize : Bool) (expiredDate : Option Date)
    (contents : Contents URL Date) : List URL :=
  contents.filterMap fun file => file.2.bind fun values =>
    if values.isDirectory ≠ some true ∧ expired onlyForCacheSize expiredDate values then some file.1
    else none

section Travelling

variable {expiredDate : Option Date} {contents : Contents URL Date}
  {onlyForCacheSize : Bool} {bits : ℕ}

omit [DecidableEq URL] in
/-- A file which counts. -/
theorem counted_cons (url : URL) (contents : Contents URL Date)
    {values : URLResourceValues Date} {added : ℕ}
    (directory : values.isDirectory ≠ some true)
    (isExpired : expired onlyForCacheSize expiredDate values = false)
    (size : values.totalFileAllocatedSize = some added) :
    counted onlyForCacheSize expiredDate ((url, some values) :: contents) =
        ⟨url, values⟩ :: counted onlyForCacheSize expiredDate contents ∧
      expiredFiles onlyForCacheSize expiredDate ((url, some values) :: contents) =
        expiredFiles onlyForCacheSize expiredDate contents ∧
      fileSize (⟨url, values⟩ : CachedFile URL Date) = added := by
  refine ⟨?_, ?_, ?_⟩
  · simp [counted, directory, isExpired, size]
  · simp [expiredFiles, isExpired]
  · simp [fileSize, size]

/-- What is added up and collected on the way through the directory. -/
theorem foldlM_travelFile (travelled : CachedFiles URL Date)
    (small : travelled.diskCacheSize < boundUInt bits) :
    contents.foldlM (travelFile bits onlyForCacheSize expiredDate) travelled =
      if travelled.diskCacheSize +
          ((counted onlyForCacheSize expiredDate contents).map fileSize).sum < boundUInt bits then
        some ⟨travelled.urlsToDelete ++ expiredFiles onlyForCacheSize expiredDate contents,
          travelled.diskCacheSize +
            ((counted onlyForCacheSize expiredDate contents).map fileSize).sum,
          if onlyForCacheSize then travelled.cachedFiles
          else insertAll travelled.cachedFiles (counted onlyForCacheSize expiredDate contents)⟩
      else none := by
  induction contents generalizing travelled with
  | nil => simp [counted, expiredFiles, insertAll, small]
  | cons file contents ih =>
      obtain ⟨url, values⟩ := file
      rw [List.foldlM_cons]
      cases values with
      | none => simp [travelFile, ih travelled small, counted, expiredFiles]
      | some values =>
          by_cases directory : values.isDirectory = some true
          · simp [travelFile, directory, ih travelled small, counted, expiredFiles]
          cases isExpired : expired onlyForCacheSize expiredDate values with
          | true =>
              have next := ih
                { travelled with urlsToDelete := travelled.urlsToDelete ++ [url] } small
              simp [travelFile, directory, isExpired, next, counted, expiredFiles]
          | false =>
              cases size : values.totalFileAllocatedSize with
              | none =>
                  simp [travelFile, directory, isExpired, size, ih travelled small, counted,
                    expiredFiles]
              | some added =>
                  have ⟨isCounted, notExpired, isSize⟩ :=
                    counted_cons url contents directory isExpired size
                  rw [isCounted, notExpired, List.map_cons, List.sum_cons, isSize, insertAll,
                    List.foldl_cons, ← Nat.add_assoc]
                  by_cases fits : travelled.diskCacheSize + added < boundUInt bits
                  · have next := ih ⟨travelled.urlsToDelete,
                      travelled.diskCacheSize + added,
                      if onlyForCacheSize then travelled.cachedFiles
                      else travelled.cachedFiles.insert url values⟩ fits
                    simp only [travelFile, directory, isExpired, size, addUInt, fits, if_true,
                      if_false, Bool.false_eq_true, Option.map_some, Option.bind_eq_bind,
                      Option.bind_some, next]
                    cases onlyForCacheSize with
                    | true => rfl
                    | false => rfl
                  · have stops : ¬ travelled.diskCacheSize + added +
                        ((counted onlyForCacheSize expiredDate contents).map fileSize).sum <
                          boundUInt bits := by
                      omega
                    simp [travelFile, directory, isExpired, size, addUInt, fits, stops]

theorem travelCachedFiles_eq (bits : ℕ) (onlyForCacheSize : Bool) (expiredDate : Option Date)
    (contents : Contents URL Date) :
    travelCachedFiles bits onlyForCacheSize expiredDate contents =
      if ((counted onlyForCacheSize expiredDate contents).map fileSize).sum < boundUInt bits then
        some ⟨expiredFiles onlyForCacheSize expiredDate contents,
          ((counted onlyForCacheSize expiredDate contents).map fileSize).sum,
          if onlyForCacheSize then ∅
          else insertAll ∅ (counted onlyForCacheSize expiredDate contents)⟩
      else none := by
  rw [travelCachedFiles, foldlM_travelFile _ (show 0 < boundUInt bits by simp [boundUInt])]
  simp

omit [DecidableEq URL] in
/-- Only files of the directory are counted. -/
theorem counted_sublist (onlyForCacheSize : Bool) (expiredDate : Option Date)
    (contents : Contents URL Date) :
    ((counted onlyForCacheSize expiredDate contents).map Sigma.fst).Sublist
      (contents.map Prod.fst) := by
  induction contents with
  | nil => exact .slnil
  | cons file contents ih =>
      obtain ⟨url, values⟩ := file
      rw [counted, List.filterMap_cons]
      split
      · exact .cons _ ih
      · next counts =>
          rcases Option.bind_eq_some_iff.mp counts with ⟨values, _, isFile⟩
          split at isFile
          · cases isFile
          · cases isFile
            exact .cons_cons _ ih

omit [LinearOrder Date] in
/-- Files with keys of their own are all kept in the dictionary. -/
theorem entries_insertAll {files : List (CachedFile URL Date)}
    (cachedFiles : AList fun _ : URL => URLResourceValues Date)
    (distinct : (files.map Sigma.fst).Nodup)
    (new : ∀ file ∈ files, file.1 ∉ cachedFiles) :
    (insertAll cachedFiles files).entries = files.reverse ++ cachedFiles.entries := by
  induction files generalizing cachedFiles with
  | nil => rfl
  | cons file files ih =>
      rcases List.nodup_cons.mp distinct with ⟨fresh, apart⟩
      have later := ih (cachedFiles.insert file.1 file.2) apart ?_
      · rw [insertAll, List.foldl_cons]
        change (insertAll _ files).entries = _
        rw [later, AList.entries_insert_of_notMem (new file (.head _))]
        simp
      · intro other occurs
        rw [AList.mem_insert, not_or]
        refine ⟨?_, new other (.tail _ occurs)⟩
        intro same
        exact fresh (List.mem_map.mpr ⟨other, occurs, same⟩)

omit [LinearOrder Date] in
/-- The loop never traps on files of the dictionary which make up what is left of the size.  It
deletes the first ones, as many as needed and at least one. -/
theorem deleteOldest_eq {cachedFiles : AList fun _ : URL => URLResourceValues Date}
    {diskCacheSize : ℕ} (targetSize : ℕ) (urlsToDelete : List URL)
    {sortedFiles : List (CachedFile URL Date)}
    (listed : ∀ file ∈ sortedFiles, cachedFiles.lookup file.1 = some file.2)
    (enough : (sortedFiles.map fileSize).sum ≤ diskCacheSize) :
    ∃ oldest left, oldest ++ left = sortedFiles ∧
      deleteOldest cachedFiles targetSize diskCacheSize urlsToDelete
        (sortedFiles.map Sigma.fst) = some (urlsToDelete ++ oldest.map Sigma.fst) ∧
      (sortedFiles ≠ [] → oldest ≠ []) ∧
      (left = [] ∨ diskCacheSize < targetSize + (oldest.map fileSize).sum) ∧
      ∀ before last, oldest = before ++ [last] →
        before = [] ∨ targetSize + (before.map fileSize).sum ≤ diskCacheSize := by
  induction sortedFiles generalizing diskCacheSize urlsToDelete with
  | nil => exact ⟨[], [], rfl, by simp [deleteOldest], by simp, .inl rfl, by simp⟩
  | cons file sortedFiles ih =>
      rw [List.map_cons, List.sum_cons] at enough
      have subtracted : (match (cachedFiles.lookup file.1).bind (·.totalFileAllocatedSize) with
          | some fileSize => subtractUInt diskCacheSize fileSize
          | none => some diskCacheSize) = some (diskCacheSize - fileSize file) := by
        rw [listed file (.head _), Option.bind_some]
        cases size : file.2.totalFileAllocatedSize with
        | none => simp [fileSize, size]
        | some added =>
            have isSize : fileSize file = added := by simp [fileSize, size]
            have fits : added ≤ diskCacheSize := by omega
            simp [subtractUInt, isSize, fits]
      rw [List.map_cons, deleteOldest, subtracted]
      simp only [Option.bind_some]
      by_cases below : diskCacheSize - fileSize file < targetSize
      · rw [if_pos below]
        refine ⟨[file], sortedFiles, rfl, rfl, by simp, .inr ?_, ?_⟩
        · simp only [List.map_cons, List.map_nil, List.sum_cons, List.sum_nil]
          omega
        · intro before last split
          left
          have shorter : [] ++ [file] = before ++ [last] := split
          exact (List.append_inj' shorter rfl).1.symm
      · rw [if_neg below]
        rcases ih (urlsToDelete ++ [file.1])
          (fun other occurs => listed other (.tail _ occurs))
          (show (sortedFiles.map fileSize).sum ≤ diskCacheSize - fileSize file by omega) with
          ⟨oldest, left, split, deleted, _, reaches, needed⟩
        refine ⟨file :: oldest, left, by rw [List.cons_append, split], ?_, by simp, ?_, ?_⟩
        · rw [deleted]
          simp
        · rcases reaches with all | less
          · exact .inl all
          · right
            rw [List.map_cons, List.sum_cons]
            omega
        · intro before last cut
          cases before with
          | nil => exact .inl rfl
          | cons first before =>
              right
              rcases List.cons.inj cut with ⟨rfl, rest⟩
              rw [List.map_cons, List.sum_cons]
              rcases needed before last rest with rfl | more
              · simp only [List.map_nil, List.sum_nil]
                omega
              · omega

omit [DecidableEq URL] in
/-- Where every file has a date, the predicate is an ordering. -/
theorem strictWeakOn_accessedBefore {files : Set (CachedFile URL Date)}
    (dated : ∀ file ∈ files, file.2.contentAccessDate.isSome) :
    StrictWeakOn (fun file other : CachedFile URL Date => accessedBefore file.2 other.2) files := by
  have compared : ∀ a ∈ files, ∃ date, a.2.contentAccessDate = some date :=
    fun a isFile => Option.isSome_iff_exists.mp (dated a isFile)
  refine ⟨?_, ?_, ?_, ?_⟩
  · intro a isA
    rcases compared a isA with ⟨date, isDate⟩
    simp [accessedBefore, isDate]
  · intro a isA b isB
    rcases compared a isA with ⟨dateA, isDateA⟩
    rcases compared b isB with ⟨dateB, isDateB⟩
    simpa [accessedBefore, isDateA, isDateB] using le_of_lt
  · intro a isA b isB c isC
    rcases compared a isA with ⟨dateA, isDateA⟩
    rcases compared b isB with ⟨dateB, isDateB⟩
    rcases compared c isC with ⟨dateC, isDateC⟩
    simpa [accessedBefore, isDateA, isDateB, isDateC] using lt_trans
  · intro a isA b isB c isC
    rcases compared a isA with ⟨dateA, isDateA⟩
    rcases compared b isB with ⟨dateB, isDateB⟩
    rcases compared c isC with ⟨dateC, isDateC⟩
    simp only [accessedBefore, isDateA, isDateB, isDateC, decide_eq_false_iff_not, not_lt]
    rintro ⟨leBA, leAB⟩ ⟨leCB, leBC⟩
    exact ⟨leCB.trans leBA, leAB.trans leBC⟩

/-- A cleaning deletes the `oldest` of the files which count and leaves the others. -/
structure OldestFirst (sort : SortRoutine (CachedFile URL Date)) (maxDiskCacheSize : ℕ)
    (oldest left : List (CachedFile URL Date)) : Prop where
  within : maxDiskCacheSize = 0 ∨ ((oldest ++ left).map fileSize).sum ≤ maxDiskCacheSize →
    oldest = []
  below : 0 < maxDiskCacheSize → maxDiskCacheSize < ((oldest ++ left).map fileSize).sum →
    left = [] ∨ (left.map fileSize).sum < maxDiskCacheSize / 2
  /-- Without its last deletion too much would be left. -/
  needed : ∀ before last, oldest = before ++ [last] →
    maxDiskCacheSize / 2 ≤ fileSize last + (left.map fileSize).sum
  older : sort.OrdersElements → (∀ file ∈ oldest ++ left, file.2.contentAccessDate.isSome) →
    ∀ file ∈ oldest, ∀ other ∈ left, ∀ date otherDate,
      file.2.contentAccessDate = some date → other.2.contentAccessDate = some otherDate →
        date ≤ otherDate

variable {sort : SortRoutine (CachedFile URL Date)} {maxDiskCacheSize : ℕ} {deleted : List URL}

omit [DecidableEq URL] in
theorem OldestFirst.of_within {files : List (CachedFile URL Date)}
    (within : ¬ (0 < maxDiskCacheSize ∧ maxDiskCacheSize < (files.map fileSize).sum)) :
    OldestFirst sort maxDiskCacheSize [] files where
  within := fun _ => rfl
  below := by
    intro limited more
    exact absurd ⟨limited, more⟩ within
  needed := by simp
  older := by simp

omit [DecidableEq URL] in
/-- What the loop deletes of the sorted files, if they are more than the limit. -/
theorem OldestFirst.of_loop {oldest left : List (CachedFile URL Date)}
    (limited : 0 < maxDiskCacheSize)
    (more : maxDiskCacheSize < ((oldest ++ left).map fileSize).sum)
    (sorted : sort.OrdersElements → (∀ file ∈ oldest ++ left, file.2.contentAccessDate.isSome) →
      (oldest ++ left).Pairwise fun file other => accessedBefore other.2 file.2 = false)
    (reaches : left = [] ∨
      ((oldest ++ left).map fileSize).sum < maxDiskCacheSize / 2 + (oldest.map fileSize).sum)
    (needed : ∀ before last, oldest = before ++ [last] → before = [] ∨
      maxDiskCacheSize / 2 + (before.map fileSize).sum ≤ ((oldest ++ left).map fileSize).sum) :
    OldestFirst sort maxDiskCacheSize oldest left := by
  rw [List.map_append, List.sum_append] at more reaches needed
  refine ⟨?_, ?_, ?_, ?_⟩
  · rw [List.map_append, List.sum_append]
    omega
  · intro _ _
    rcases reaches with all | less
    · exact .inl all
    · exact .inr (by omega)
  · intro before last split
    have total : (oldest.map fileSize).sum = (before.map fileSize).sum + fileSize last := by
      simp [split]
    rcases needed before last split with rfl | enough
    · simp only [List.map_nil, List.sum_nil] at total
      omega
    · omega
  · intro ordersElements dated file isOldest other isLeft date otherDate isDate isOther
    have ⟨_, _, across⟩ := List.pairwise_append.mp (sorted ordersElements dated)
    have ordered := across file isOldest other isLeft
    simpa [accessedBefore, isDate, isOther] using ordered

theorem cleaned_of_small (bits : ℕ) (sort : SortRoutine (CachedFile URL Date))
    (maxDiskCacheSize : ℕ) (distinct : (contents.map Prod.fst).Nodup)
    (small : ((counted false expiredDate contents).map fileSize).sum < boundUInt bits) :
    ∃ oldest left, (oldest ++ left).Perm (counted false expiredDate contents) ∧
      cleanExpiredDiskCache bits sort maxDiskCacheSize expiredDate contents =
        some (expiredFiles false expiredDate contents ++ oldest.map Sigma.fst) ∧
      OldestFirst sort maxDiskCacheSize oldest left := by
  have travelled := travelCachedFiles_eq bits false expiredDate contents
  rw [if_pos small, if_neg Bool.false_ne_true] at travelled
  have entries := entries_insertAll ∅
    (distinct.sublist (counted_sublist false expiredDate contents)) (by simp)
  rw [cleanExpiredDiskCache, travelled, Option.bind_some]
  generalize counted false expiredDate contents = files at *
  generalize insertAll ∅ files = cachedFiles at *
  dsimp only
  split
  next exceeds =>
    have sortedPerm : (sort.sorted (fun file other => accessedBefore file.2 other.2)
        cachedFiles.entries).Perm files := by
      apply (sort.sorted_perm _ _).trans
      rw [entries]
      simp
    have sorted := fun ordersElements : sort.OrdersElements =>
      ordersElements (fun file other => accessedBefore file.2 other.2) cachedFiles.entries
    rw [keysSortedByValue]
    generalize isSorted : sort.sorted (fun file other => accessedBefore file.2 other.2)
      cachedFiles.entries = sortedFiles at *
    have total : (sortedFiles.map fileSize).sum = (files.map fileSize).sum :=
      (sortedPerm.map fileSize).sum_eq
    have listed : ∀ file ∈ sortedFiles, cachedFiles.lookup file.1 = some file.2 := by
      intro file occurs
      apply mem_entries_iff.mp
      simpa [entries] using sortedPerm.subset occurs
    rcases deleteOldest_eq (maxDiskCacheSize / 2)
      (expiredFiles false expiredDate contents) listed total.le with
      ⟨oldest, left, rfl, removed, _, reaches, needed⟩
    refine ⟨oldest, left, sortedPerm, removed, ?_⟩
    rw [← total] at exceeds reaches needed
    apply OldestFirst.of_loop exceeds.1 exceeds.2 ?_ reaches needed
    intro ordersElements dated
    apply sorted ordersElements
    apply strictWeakOn_accessedBefore
    intro file occurs
    apply dated file
    apply sortedPerm.mem_iff.mpr
    simpa [entries] using occurs
  next within =>
    exact ⟨[], files, .refl _, by simp, .of_within within⟩

theorem small_of_cleaned
    (cleaned :
      cleanExpiredDiskCache bits sort maxDiskCacheSize expiredDate contents = some deleted) :
    ((counted false expiredDate contents).map fileSize).sum < boundUInt bits := by
  by_contra large
  rw [cleanExpiredDiskCache, travelCachedFiles_eq, if_neg large] at cleaned
  cases cleaned

/-- A cleaning crashes only where the sizes of the files do not fit.  It deletes the expired files
and the oldest of the others. -/
theorem cleanExpiredDiskCache_oldestFirst (bits : ℕ) (sort : SortRoutine (CachedFile URL Date))
    (maxDiskCacheSize : ℕ) (expiredDate : Option Date)
    (distinct : (contents.map Prod.fst).Nodup) :
    (cleanExpiredDiskCache bits sort maxDiskCacheSize expiredDate contents = none ↔
      boundUInt bits ≤ ((counted false expiredDate contents).map fileSize).sum) ∧
    ∀ deleted,
      cleanExpiredDiskCache bits sort maxDiskCacheSize expiredDate contents = some deleted →
      ∃ oldest left, (oldest ++ left).Perm (counted false expiredDate contents) ∧
        deleted = expiredFiles false expiredDate contents ++ oldest.map Sigma.fst ∧
        OldestFirst sort maxDiskCacheSize oldest left := by
  constructor
  · constructor
    · intro crashes
      by_contra small
      rcases cleaned_of_small bits sort maxDiskCacheSize distinct
        (not_le.mp small) with ⟨oldest, left, _, cleaned, _⟩
      rw [crashes] at cleaned
      cases cleaned
    · intro large
      rw [cleanExpiredDiskCache, travelCachedFiles_eq, if_neg (not_lt.mpr large)]
      rfl
  · intro deleted cleaned
    rcases cleaned_of_small bits sort maxDiskCacheSize distinct
      (small_of_cleaned cleaned) with ⟨oldest, left, split, removed, oldestFirst⟩
    rw [cleaned, Option.some.injEq] at removed
    exact ⟨oldest, left, split, removed, oldestFirst⟩

omit [DecidableEq URL] in
theorem mem_expiredFiles_iff (expiredDate : Option Date)
    (distinct : (contents.map Prod.fst).Nodup) {url : URL} {values : URLResourceValues Date}
    (occurs : (url, some values) ∈ contents) :
    url ∈ expiredFiles false expiredDate contents ↔
      values.isDirectory ≠ some true ∧ expired false expiredDate values = true := by
  rw [expiredFiles, List.mem_filterMap]
  constructor
  · rintro ⟨⟨other, otherValues⟩, otherOccurs, isExpired⟩
    rcases Option.bind_eq_some_iff.mp isExpired with ⟨held, rfl, isUrl⟩
    split at isUrl
    next holds =>
      cases isUrl
      have same := List.inj_on_of_nodup_map distinct otherOccurs occurs rfl
      cases same
      exact holds
    next => cases isUrl
  · intro isExpired
    exact ⟨(url, some values), occurs, by simp [isExpired]⟩

/-- What a later look at the size counts is what was left. -/
theorem counted_cleaned (laterDate : Option Date) {oldest left : List (CachedFile URL Date)}
    (distinct : (contents.map Prod.fst).Nodup)
    (split : (oldest ++ left).Perm (counted false expiredDate contents)) :
    (counted true laterDate (contents.filter fun file =>
      file.1 ∉ expiredFiles false expiredDate contents ++ oldest.map Sigma.fst)).Perm left := by
  have remaining : counted true laterDate (contents.filter fun file =>
      file.1 ∉ expiredFiles false expiredDate contents ++ oldest.map Sigma.fst) =
      (counted false expiredDate contents).filter fun file => file.1 ∉ oldest.map Sigma.fst := by
    rw [counted, counted, List.filterMap_filter, List.filter_filterMap]
    apply List.filterMap_congr
    rintro ⟨url, values⟩ occurs
    cases values with
    | none => simp
    | some values =>
        have isExpired := mem_expiredFiles_iff expiredDate distinct occurs
        by_cases directory : values.isDirectory = some true
        · simp [directory]
        cases old : expired false expiredDate values with
        | true =>
            have gone : url ∈ expiredFiles false expiredDate contents :=
              isExpired.mpr ⟨directory, old⟩
            simp [gone, old]
        | false =>
            have notOnly : expired true laterDate values = false := rfl
            have kept : url ∉ expiredFiles false expiredDate contents := by
              simp [isExpired, old]
            cases size : values.totalFileAllocatedSize with
            | none => simp [size]
            | some added =>
                by_cases isOldest : url ∈ oldest.map Sigma.fst
                · simp [isOldest, directory, old, size, Option.filter]
                · simp [isOldest, directory, old, notOnly, size, kept, Option.filter]
  rw [remaining]
  apply (split.symm.filter _).trans
  have apart : ((oldest ++ left).map Sigma.fst).Nodup :=
    (split.map Sigma.fst).nodup_iff.mpr (distinct.sublist (counted_sublist _ _ _))
  rw [List.map_append] at apart
  have disjoint := List.disjoint_of_nodup_append apart
  rw [List.filter_append, List.filter_eq_nil_iff.mpr, List.filter_eq_self.mpr, List.nil_append]
  · intro file isLeft
    have stays : file.1 ∉ oldest.map Sigma.fst := fun isOldest =>
      disjoint isOldest (List.mem_map_of_mem isLeft)
    simpa using stays
  · intro file isOldest
    have goes : file.1 ∈ oldest.map Sigma.fst := List.mem_map_of_mem isOldest
    simpa using goes

omit [LinearOrder Date] in
/-- What stays in the directory is what nobody tried to remove, and what could not be removed. -/
theorem removeItems_perm (fails : URL → Bool) (urlsToDelete : List URL)
    (contents : Contents URL Date) :
    (removeItems fails urlsToDelete contents).Perm
      ((contents.filter fun file => file.1 ∉ urlsToDelete) ++
        contents.filter fun file => file.1 ∈ urlsToDelete && fails file.1) := by
  have parts := List.filter_append_perm (fun file => file.1 ∉ urlsToDelete)
    (removeItems fails urlsToDelete contents)
  rw [removeItems, List.filter_filter, List.filter_filter] at parts
  apply parts.symm.trans
  apply List.Perm.of_eq
  congr 1
  · apply List.filter_congr
    intro file _
    by_cases tried : file.1 ∈ urlsToDelete
    · simp [tried]
    · simp [tried]
  · apply List.filter_congr
    intro file _
    by_cases tried : file.1 ∈ urlsToDelete
    · simp [tried]
    · simp [tried]

/-- The size of the files which could not be removed. -/
def unremovedSize (fails : URL → Bool) (urlsToDelete : List URL) (contents : Contents URL Date) :
    ℕ :=
  ((counted true none (contents.filter fun file =>
    file.1 ∈ urlsToDelete && fails file.1)).map fileSize).sum

/-- After a cleaning the limit is kept by the files which nobody tried to remove, and where the
unexpired files did not keep it before, these are less than half of it.  The files whose removal
failed are counted besides. -/
theorem calculateDiskCacheSize_cleaned (distinct : (contents.map Prod.fst).Nodup)
    (limited : 0 < maxDiskCacheSize)
    (cleaned :
      cleanExpiredDiskCache bits sort maxDiskCacheSize expiredDate contents = some deleted)
    (fails : URL → Bool) (laterDate : Option Date) :
    ∃ kept, calculateDiskCacheSize bits laterDate (removeItems fails deleted contents) =
        (if kept + unremovedSize fails deleted contents < boundUInt bits then
          some (kept + unremovedSize fails deleted contents) else none) ∧
      kept ≤ maxDiskCacheSize ∧
      (maxDiskCacheSize < ((counted false expiredDate contents).map fileSize).sum →
        kept = 0 ∨ kept < maxDiskCacheSize / 2) := by
  have small := small_of_cleaned cleaned
  rcases cleaned_of_small bits sort maxDiskCacheSize distinct small with
    ⟨oldest, left, split, removed, oldestFirst⟩
  rw [cleaned, Option.some.injEq] at removed
  subst removed
  generalize tried : expiredFiles false expiredDate contents ++ oldest.map Sigma.fst = deleted
  have total : ((oldest ++ left).map fileSize).sum =
      ((counted false expiredDate contents).map fileSize).sum :=
    (split.map fileSize).sum_eq
  have below : maxDiskCacheSize < ((counted false expiredDate contents).map fileSize).sum →
      (left.map fileSize).sum = 0 ∨ (left.map fileSize).sum < maxDiskCacheSize / 2 := by
    intro more
    rw [← total] at more
    rcases oldestFirst.below limited more with rfl | less
    · exact .inl rfl
    · exact .inr less
  have within : (left.map fileSize).sum ≤ maxDiskCacheSize := by
    rw [List.map_append, List.sum_append] at total
    by_cases more : maxDiskCacheSize < ((counted false expiredDate contents).map fileSize).sum
    · rcases below more with none | less
      · omega
      · omega
    · omega
  have stays : ((counted true laterDate (removeItems fails deleted contents)).map fileSize).sum =
      (left.map fileSize).sum + unremovedSize fails deleted contents := by
    have untried := counted_cleaned laterDate distinct split
    rw [tried] at untried
    have remains := (removeItems_perm fails deleted contents).filterMap fun file =>
      file.2.bind fun values =>
        if values.isDirectory = some true || expired true laterDate values ||
            values.totalFileAllocatedSize.isNone then none
        else some (⟨file.1, values⟩ : CachedFile URL Date)
    rw [List.filterMap_append] at remains
    rw [unremovedSize, ← (untried.map fileSize).sum_eq, ← List.sum_append, ← List.map_append]
    exact (remains.map fileSize).sum_eq
  refine ⟨(left.map fileSize).sum, ?_, within, below⟩
  rw [calculateDiskCacheSize, travelCachedFiles_eq, stays]
  split
  · rfl
  · rfl

end Travelling

/-- An expired file and three others. -/
def fourFiles : Contents String ℕ :=
  [("acorn", some ⟨some false, some 7, some 45⟩), ("ice", some ⟨some false, some 3, some 40⟩),
    ("old", some ⟨some false, some 1, some 200⟩), ("green", some ⟨some false, some 5, some 30⟩)]

theorem cleanExpiredDiskCache_oldestFirst_fourFiles :
    ∃ oldest left : List (CachedFile String ℕ),
      (oldest ++ left).Perm (counted false (some 2) fourFiles) ∧
      ["old", "ice", "green"] =
        expiredFiles false (some 2) fourFiles ++ oldest.map Sigma.fst ∧
      ∀ file ∈ oldest, ∀ other ∈ left, ∀ date otherDate,
        file.2.contentAccessDate = some date → other.2.contentAccessDate = some otherDate →
          date ≤ otherDate := by
  have distinct : (fourFiles.map Prod.fst).Nodup := by decide
  rcases (cleanExpiredDiskCache_oldestFirst 64 .insertion 100 (some 2) distinct).2
    ["old", "ice", "green"] (by decide +kernel) with
    ⟨oldest, left, split, deleted, oldestFirst⟩
  refine ⟨oldest, left, split, deleted, oldestFirst.older SortRoutine.insertion_ordersElements ?_⟩
  intro file occurs
  have dated : ∀ file ∈ counted false (some 2) fourFiles, file.2.contentAccessDate.isSome := by
    decide
  exact dated file (split.subset occurs)

/-- The file which was accessed longest ago cannot be removed. -/
theorem calculateDiskCacheSize_cleaned_fourFiles :
    ∃ kept, calculateDiskCacheSize 64 (some 2)
        (removeItems (fun url => url == "ice") ["old", "ice", "green"] fourFiles) =
          some (kept + 40) ∧ kept ≤ 100 ∧ (kept = 0 ∨ kept < 50) := by
  rcases calculateDiskCacheSize_cleaned (by decide) (by decide)
    (show cleanExpiredDiskCache 64 .insertion 100 (some 2) fourFiles =
      some ["old", "ice", "green"] by decide +kernel)
    (fun url => url == "ice") (some 2) with ⟨kept, counts, within, below⟩
  have unremoved : unremovedSize (fun url => url == "ice") ["old", "ice", "green"] fourFiles =
      40 := by
    decide
  have exceeded : 100 < ((counted false (some 2) fourFiles).map fileSize).sum := by decide
  have fits : kept + 40 < boundUInt 64 := by
    rw [boundUInt]
    omega
  rw [unremoved, if_pos fits] at counts
  exact ⟨kept, counts, within, below exceeded⟩

end DiskCache

end Kingfisher

end OneSecond
