import OneSecond.Kingfisher.Flights

/-!
# Every request is answered once

What was requested is, request by request, answered, in a load, waiting for a
cancelled load to fail, or on its way to a load (`accounted`).  No step of an
orderly run loses or doubles one.
-/

namespace OneSecond

namespace Kingfisher

open Runs Dictionaries

variable {URL Image : Type} [DecidableEq URL]

namespace ImageDownloader

/-- The requests which wait in the loads of the dictionary. -/
def pending (downloader : ImageDownloader URL Image) : Multiset (URL × Content Image) :=
  total (fun url reference => ((downloader.load reference).contents.map (Prod.mk url) :
    Multiset (URL × Content Image))) downloader.fetchLoads

/-- The requests which wait for a cancelled load to fail. -/
def waiting (downloader : ImageDownloader URL Image) : Multiset (URL × Content Image) :=
  (downloader.cancelQueue.map fun block => (block.url, block.content) :
    List (URL × Content Image))

/-- The requests whose completion handler was called, once for each call. -/
def answered (downloader : ImageDownloader URL Image) : Multiset (URL × Content Image) :=
  (downloader.answers.map fun answer => (answer.url, answer.content) : List (URL × Content Image))

/-- All the places a request can be in. -/
def accounted (downloader : ImageDownloader URL Image) : Multiset (URL × Content Image) :=
  downloader.answered + downloader.pending + downloader.waiting + downloader.preparing

end ImageDownloader

namespace DownloadEvent

/-- The request an event makes. -/
def requested : DownloadEvent URL Image → Multiset (URL × Content Image)
  | .downloadImage url content => {(url, content)}
  | _ => 0

end DownloadEvent

namespace ImageDownloader

variable {downloader after : ImageDownloader URL Image} {url : URL} {reference task place : ℕ}
  {event : DownloadEvent URL Image}

omit [DecidableEq URL] in
theorem Fails.requested {error : DownloadError} {ended : DataTask URL}
    (fails : downloader.Fails task event error ended) : event.requested = 0 := by
  cases fails with
  | session code => rfl
  | refused invalid => rfl

theorem pending_congr (fetchLoads : after.fetchLoads = downloader.fetchLoads)
    (contents : ∀ url reference, downloader.fetchLoad url = some reference →
      (after.load reference).contents = (downloader.load reference).contents) :
    after.pending = downloader.pending := by
  rw [pending, pending, fetchLoads]
  apply total_congr
  intro url reference found
  rw [contents url reference found]

/-- Removing a load takes its requests out of the dictionary. -/
theorem pending_erase (found : downloader.fetchLoad url = some reference)
    (fetchLoads : after.fetchLoads = downloader.fetchLoads.erase url)
    (contents : ∀ other, (after.load other).contents = (downloader.load other).contents) :
    downloader.pending =
      ((downloader.load reference).contents.map (Prod.mk url) : List (URL × Content Image)) +
        after.pending := by
  rw [pending, pending, fetchLoads, total_erase found]
  simp only [contents]

theorem pending_join (sound : downloader.Sound) {content : Content Image} {count : ℤ}
    (found : downloader.fetchLoad url = some reference)
    (fetchLoads : after.fetchLoads = downloader.fetchLoads)
    (loads : after.load = Function.update downloader.load reference
      { downloader.load reference with
        contents := (downloader.load reference).contents ++ [content]
        downloadTaskCount := count }) :
    after.pending = downloader.pending + {(url, content)} := by
  rw [pending, fetchLoads]
  apply total_update found
  · simp only [loads, Function.update_self, List.map_append, List.map_singleton,
      ← Multiset.coe_add, Multiset.coe_singleton]
  · intro other otherReference differs looked
    have apart : otherReference ≠ reference := by
      rintro rfl
      exact differs (sound.url_eq looked found rfl)
    simp [loads, apart]

theorem pending_make (sound : downloader.Sound) {content : Content Image}
    (unknown : downloader.fetchLoad url = none)
    (fetchLoads : after.fetchLoads = downloader.fetchLoads.insert url downloader.loads)
    (loads : after.load = Function.update downloader.load downloader.loads
      ⟨[content], [], 1, some downloader.tasks, none⟩) :
    after.pending = downloader.pending + {(url, content)} := by
  rw [pending, fetchLoads, total_insert (AList.lookup_eq_none.mp unknown), pending, add_comm]
  congr 1
  · apply total_congr
    intro other reference looked
    have older : reference ≠ downloader.loads := by
      have made := (sound.registered other reference looked).1
      omega
    simp [loads, older]
  · simp [loads]

omit [DecidableEq URL] in
/-- Whatever the images, each content is answered, in order. -/
theorem map_processContents (url : URL) (statusCode : Option ℤ) (data : Data)
    (imageCache : List (String × Image)) (contents : List (Content Image)) :
    (processContents url statusCode data imageCache contents).map
      (fun answer => (answer.url, answer.content)) = contents.map (Prod.mk url) := by
  induction contents generalizing imageCache with
  | nil => rfl
  | cons content contents ih =>
      simp only [processContents]
      split
      · simp [ih]
      · split
        · simp [ih]
        · simp [ih]

/-- A step which keeps who waits in the loads. -/
theorem accounted_of_kept {more : Multiset (URL × Content Image)}
    (fetchLoads : after.fetchLoads = downloader.fetchLoads)
    (contents : ∀ other, (after.load other).contents = (downloader.load other).contents)
    (moved : after.answered + after.waiting + after.preparing =
      downloader.answered + downloader.waiting + downloader.preparing + more) :
    after.accounted = downloader.accounted + more := by
  have kept := pending_congr fetchLoads fun _ reference _ => contents reference
  calc
    after.accounted =
        after.answered + after.waiting + after.preparing + downloader.pending := by
      rw [accounted, kept]
      abel
    _ = downloader.accounted + more := by
      rw [moved, accounted]
      abel

/-- A step which answers a load. -/
theorem accounted_of_erased (found : downloader.fetchLoad url = some reference)
    (fetchLoads : after.fetchLoads = downloader.fetchLoads.erase url)
    (contents : ∀ other, (after.load other).contents = (downloader.load other).contents)
    (answered : after.answered = downloader.answered +
      ((downloader.load reference).contents.map (Prod.mk url) : List (URL × Content Image)))
    (waiting : after.waiting = downloader.waiting)
    (preparing : after.preparing = downloader.preparing) :
    after.accounted = downloader.accounted := by
  rw [accounted, accounted, answered, waiting, preparing, pending_erase found fetchLoads contents]
  abel

/-- A step accounts for the request it makes, and loses and doubles none. -/
theorem accounted_next (sound : downloader.Sound) (moves : downloader.Moves event after) :
    after.accounted = downloader.accounted + event.requested := by
  cases moves with
  | wait found nobody =>
      refine accounted_of_kept rfl (read_update ImageFetchLoad.contents rfl) ?_
      simp only [answered, waiting, List.map_append, List.map_singleton, ← Multiset.coe_add,
        Multiset.coe_singleton, DownloadEvent.requested]
      abel
  | send wanted =>
      refine accounted_of_kept rfl (fun _ => rfl) ?_
      simp only [← Multiset.coe_add, Multiset.coe_singleton, add_assoc]
      rfl
  | join sent found =>
      rw [accounted, pending_join sound found (by rfl) (by rfl)]
      simp only [accounted, answered, waiting, coe_eraseIdx sent, DownloadEvent.requested]
      abel
  | make sent unknown idle =>
      rw [accounted, pending_make sound unknown (by rfl) (by rfl)]
      simp only [accounted, answered, waiting, coe_eraseIdx sent, DownloadEvent.requested]
      abel
  | resume queue passes =>
      refine accounted_of_kept rfl (read_update ImageFetchLoad.contents rfl) ?_
      simp only [answered, waiting, queue, List.map_cons, ← Multiset.cons_coe,
        ← Multiset.coe_add, ← Multiset.singleton_add, DownloadEvent.requested]
      abel
  | cancel found =>
      refine accounted_of_kept rfl (read_update ImageFetchLoad.contents rfl) ?_
      exact (add_zero _).symm
  | cancelNothing => exact (add_zero _).symm
  | respond running => exact (add_zero _).symm
  | receive running found isTask =>
      refine accounted_of_kept rfl (read_update ImageFetchLoad.contents rfl) ?_
      exact (add_zero _).symm
  | receiveNothing running request unknown => exact (add_zero _).symm
  | @fail event error ended url task reference running found isTask fails =>
      have answers : ((fun answer => (answer.url, answer.content)) ∘ failure error url :
          Content Image → URL × Content Image) = Prod.mk url := rfl
      rw [fails.requested, add_zero]
      refine accounted_of_erased found rfl (read_update ImageFetchLoad.contents rfl) ?_ rfl rfl
      simp only [answered, List.map_append, List.map_map, ← Multiset.coe_add, answers]
  | finish running request unknown => exact (add_zero _).symm
  | complete running request => exact (add_zero _).symm
  | fetch queued found => exact (add_zero _).symm
  | fetchNothing queued unknown => exact (add_zero _).symm
  | process queued looked found isTask =>
      refine Eq.trans ?_ (add_zero downloader.accounted).symm
      refine accounted_of_erased found rfl (fun _ => rfl) ?_ rfl rfl
      simp only [answered, List.map_append, map_processContents, ← Multiset.coe_add]

variable {history : History (ImageDownloader URL Image) (DownloadEvent URL Image)}

/-- All the requests a history made. -/
def requests (history : History (ImageDownloader URL Image) (DownloadEvent URL Image)) :
    Multiset (URL × Content Image) :=
  (history.map fun occurrence => occurrence.2.requested).sum

theorem accounted_of_run (run : Run (orderly URL Image) .new history downloader) :
    downloader.accounted = requests history := by
  have account := run.account accounted (fun occurrence => occurrence.2.requested)
    fun run step => accounted_next (sound_of_run run) (moves_of_run run step)
  rw [account]
  exact zero_add _

/-- Nothing is under way: no request, no data task and no block of the process queue. -/
structure AtRest (downloader : ImageDownloader URL Image) : Prop where
  preparing : downloader.preparing = []
  tasks : ∀ task, ¬ downloader.Live task
  processQueue : downloader.processQueue = []

omit [DecidableEq URL] in
theorem atRest_of_completed (preparing : downloader.preparing = [])
    (processQueue : downloader.processQueue = [])
    (completed : ∀ task < downloader.tasks, (downloader.task task).completed = true) :
    downloader.AtRest := by
  refine ⟨preparing, ?_, processQueue⟩
  rintro task ⟨resumed, running⟩
  rw [completed task resumed] at running
  cases running

theorem Sound.fetchLoads_of_atRest (sound : downloader.Sound) (rest : downloader.AtRest) :
    downloader.fetchLoads = ∅ := by
  apply AList.ext
  apply List.eq_nil_iff_forall_not_mem.mpr
  rintro ⟨url, reference⟩ present
  rcases sound.registered url reference (mem_entries_iff.mp present) with
    ⟨_, task, _, resumed, _, queued⟩
  have running : (downloader.task task).completed = false := by
    rw [Bool.eq_false_iff]
    intro completed
    rcases queued completed with ⟨block, isQueued, _⟩
    simp [rest.processQueue] at isQueued
  exact rest.tasks task ⟨resumed, running⟩

/-- Nobody waits for a load to fail as long as every load has somebody left. -/
structure Uncancelled (downloader : ImageDownloader URL Image) : Prop where
  wanted : ∀ url reference, downloader.fetchLoad url = some reference →
    0 < (downloader.load reference).downloadTaskCount
  cancelQueue : downloader.cancelQueue = []

theorem Uncancelled.of_le (uncancelled : downloader.Uncancelled)
    (kept : ∀ url reference, after.fetchLoad url = some reference →
      downloader.fetchLoad url = some reference ∧
        (downloader.load reference).downloadTaskCount ≤
          (after.load reference).downloadTaskCount)
    (cancelQueue : after.cancelQueue = downloader.cancelQueue) : after.Uncancelled where
  wanted := by
    intro url reference looked
    rcases kept url reference looked with ⟨found, fewer⟩
    exact (uncancelled.wanted url reference found).trans_le fewer
  cancelQueue := cancelQueue.trans uncancelled.cancelQueue

theorem Uncancelled.of_eq (uncancelled : downloader.Uncancelled)
    (fetchLoads : after.fetchLoads = downloader.fetchLoads)
    (counts : ∀ other, (after.load other).downloadTaskCount =
      (downloader.load other).downloadTaskCount)
    (cancelQueue : after.cancelQueue = downloader.cancelQueue) : after.Uncancelled := by
  refine uncancelled.of_le ?_ cancelQueue
  intro url reference looked
  rw [fetchLoad, fetchLoads] at looked
  exact ⟨looked, (counts reference).ge⟩

theorem Uncancelled.erase (uncancelled : downloader.Uncancelled)
    (fetchLoads : after.fetchLoads = downloader.fetchLoads.erase url)
    (counts : ∀ other, (after.load other).downloadTaskCount =
      (downloader.load other).downloadTaskCount)
    (cancelQueue : after.cancelQueue = downloader.cancelQueue) : after.Uncancelled := by
  refine uncancelled.of_le ?_ cancelQueue
  intro other reference looked
  rw [fetchLoad, fetchLoads] at looked
  exact ⟨lookup_of_erase looked, (counts reference).ge⟩

/-- Only cancelling takes anybody away from a load. -/
theorem Uncancelled.next (uncancelled : downloader.Uncancelled)
    (sound : downloader.Sound) (kept : ∀ task, event ≠ .cancelDownloadingTask task)
    (moves : downloader.Moves event after) : after.Uncancelled := by
  cases moves with
  | wait found nobody =>
      have wanted := uncancelled.wanted _ _ found
      omega
  | send wanted => exact uncancelled.of_eq rfl (fun _ => rfl) rfl
  | @join url content place reference sent found =>
      refine uncancelled.of_le ?_ rfl
      intro other looking looked
      refine ⟨looked, ?_⟩
      by_cases same : looking = reference
      · subst same
        simp
      · simp [same]
  | @make url content place sent unknown idle =>
      refine ⟨?_, uncancelled.cancelQueue⟩
      intro other reference looked
      by_cases same : other = url
      · subst same
        have isNew : reference = downloader.loads := by
          simpa [fetchLoad, eq_comm] using looked
        subst isNew
        simp
      · rw [fetchLoad, AList.lookup_insert_ne same] at looked
        have older : reference ≠ downloader.loads := by
          have made := (sound.registered other reference looked).1
          omega
        simpa [older] using uncancelled.wanted other reference looked
  | resume queue passes =>
      rw [uncancelled.cancelQueue] at queue
      cases queue
  | cancel found => exact absurd rfl (kept _)
  | cancelNothing => exact uncancelled
  | respond running => exact uncancelled.of_eq rfl (fun _ => rfl) rfl
  | receive running found isTask =>
      exact uncancelled.of_eq rfl (read_update ImageFetchLoad.downloadTaskCount rfl) rfl
  | receiveNothing running request unknown => exact uncancelled
  | fail running found isTask fails =>
      exact uncancelled.erase rfl (read_update ImageFetchLoad.downloadTaskCount rfl) rfl
  | finish running request unknown => exact uncancelled.of_eq rfl (fun _ => rfl) rfl
  | complete running request => exact uncancelled.of_eq rfl (fun _ => rfl) rfl
  | fetch queued found => exact uncancelled.of_eq rfl (fun _ => rfl) rfl
  | fetchNothing queued unknown => exact uncancelled.of_eq rfl (fun _ => rfl) rfl
  | process queued looked found isTask => exact uncancelled.erase rfl (fun _ => rfl) rfl

theorem uncancelled_of_run (run : Run (orderly URL Image) .new history downloader)
    (kept : ∀ occurrence ∈ history, ∀ task, occurrence.2 ≠ .cancelDownloadingTask task) :
    downloader.Uncancelled := by
  induction run with
  | nil =>
      refine ⟨?_, rfl⟩
      intro url reference found
      simp [new, fetchLoad] at found
  | snoc run step ih =>
      have before := ih fun occurrence occurred =>
        kept occurrence (List.mem_cons_of_mem _ occurred)
      exact before.next (sound_of_run run) (kept _ List.mem_cons_self) (moves_of_run run step)

/-- Nobody is answered more often than asked, in any orderly run.  When nothing is under way any
more, everybody has been answered except for those who wait for a load to fail; somebody
cancelled there, and where nobody cancels everybody has been answered. -/
theorem answered_at_rest (run : Run (orderly URL Image) .new history downloader) :
    downloader.answered ≤ requests history ∧
      (downloader.AtRest → downloader.answered + downloader.waiting = requests history ∧
        ((∀ occurrence ∈ history, ∀ task, occurrence.2 ≠ .cancelDownloadingTask task) →
          downloader.answered = requests history)) := by
  have account := accounted_of_run run
  constructor
  · rw [← account, accounted, add_assoc, add_assoc]
    exact Multiset.le_add_right _ _
  · intro rest
    have nothingPending : downloader.pending = 0 := by
      rw [pending, (sound_of_run run).fetchLoads_of_atRest rest, total_empty]
    have settled : downloader.answered + downloader.waiting = requests history := by
      rw [← account, accounted, nothingPending, rest.preparing, add_zero]
      exact (add_zero _).symm
    refine ⟨settled, ?_⟩
    intro kept
    have nobody : downloader.waiting = 0 := by
      rw [waiting, (uncancelled_of_run run kept).cancelQueue]
      rfl
    rw [← settled, nobody, add_zero]

/-- A caller whose image is the number of bytes. -/
def caller (completionHandler : ℕ) : Content ℕ :=
  ⟨completionHandler, ⟨"length", fun data => some data.length⟩, id⟩

/-- Two callers share a download; the second one joins it while its data arrives. -/
def sharedDownload : List (DownloadEvent ℕ ℕ) :=
  [.downloadImage 0 (caller 0), .prepareFetchLoad 0, .didReceiveResponse 0 (some 200),
    .downloadImage 0 (caller 1), .didReceiveData 0 [137], .prepareFetchLoad 0,
    .didReceiveData 0 [80, 78], .didCompleteWithError 0 none, .fetch 0, .process 0]

theorem answered_at_rest_sharedDownload :
    ∃ (history : History (ImageDownloader ℕ ℕ) (DownloadEvent ℕ ℕ))
      (downloader : ImageDownloader ℕ ℕ), Run (orderly ℕ ℕ) .new history downloader ∧
        downloader.answers.length = 2 ∧ downloader.answered = requests history := by
  have script := exists_orderly_run sharedDownload
    (fun history downloader => downloader.answers.length == 2 &&
      downloader.preparing.isEmpty && downloader.processQueue.isEmpty &&
      (List.range downloader.tasks).all (fun task => (downloader.task task).completed) &&
      history.all (fun occurrence =>
        match occurrence.2 with
        | .cancelDownloadingTask _ => false
        | _ => true)) (by decide +kernel)
  rcases script with ⟨history, downloader, run, tested⟩
  simp only [Bool.and_eq_true, beq_iff_eq, List.isEmpty_iff, List.all_eq_true,
    List.mem_range] at tested
  rcases tested with ⟨⟨⟨⟨both, preparing⟩, processQueue⟩, completed⟩, kept⟩
  refine ⟨history, downloader, run, both, ?_⟩
  have rest := atRest_of_completed preparing processQueue completed
  apply ((answered_at_rest run).2 rest).2
  intro occurrence occurred task cancelled
  have allowed := kept occurrence occurred
  rw [cancelled] at allowed
  cases allowed

end ImageDownloader

end Kingfisher

end OneSecond
