import OneSecond.Kingfisher.Answers
import OneSecond.Kingfisher.KingfisherManager

/-!
# Every retrieval completes once

The steps of a manager which concern its downloader are a run of the downloader
(`downloads_of_run`), so what was proved of the downloader alone holds inside the
manager.  A retrieval is in one place at a time: a read in the cache, a result or
an answer whose handler has not run, a request of the downloader, or completed.
-/

namespace OneSecond

namespace Kingfisher

open Runs Dictionaries

variable {URL Image : Type} [DecidableEq URL]

namespace ImageDownloader

variable {downloader after : ImageDownloader URL Image} {event : DownloadEvent URL Image}

/-- The requests which have not been answered. -/
def unanswered (downloader : ImageDownloader URL Image) : Multiset (URL × Content Image) :=
  downloader.pending + downloader.waiting + downloader.preparing

/-- What a step answers comes after what was answered before. -/
theorem answers_next (moves : downloader.Moves event after) :
    after.answers = downloader.answers ++ after.answers.drop downloader.answers.length := by
  cases moves with
  | _ => simp

theorem unanswered_next (sound : downloader.Sound) (moves : downloader.Moves event after) :
    after.unanswered + ((after.answers.drop downloader.answers.length).map
        fun answer => (answer.url, answer.content) : List (URL × Content Image)) =
      downloader.unanswered + event.requested := by
  have accounted := accounted_next sound moves
  have answered : after.answered = downloader.answered +
      ((after.answers.drop downloader.answers.length).map
        fun answer => (answer.url, answer.content) : List (URL × Content Image)) := by
    rw [ImageDownloader.answered, ImageDownloader.answered, Multiset.coe_add, ← List.map_append,
      ← answers_next moves]
  apply add_left_cancel (a := downloader.answered)
  calc
    downloader.answered + (after.unanswered +
        ((after.answers.drop downloader.answers.length).map
          fun answer => (answer.url, answer.content) : List (URL × Content Image))) =
        after.accounted := by
      rw [ImageDownloader.accounted, answered, unanswered]
      abel
    _ = downloader.answered + (downloader.unanswered + event.requested) := by
      rw [accounted, ImageDownloader.accounted, unanswered]
      abel

theorem answers_setup (url : URL) (content : Content Image) :
    (downloader.setup url content).answers = downloader.answers := by
  unfold setup
  split
  · dsimp only
    split
    · rfl
    · rfl
  · rfl

end ImageDownloader

namespace CacheHandler

def retrieval : CacheHandler URL → ℕ
  | .tryToRetrieveImageFromCache retrieval _ => retrieval
  | .notModified retrieval _ => retrieval

end CacheHandler

/-- The retrieval whose handler a block will call. -/
def IOBlock.retrieval : IOBlock Image (CacheHandler URL) → Multiset ℕ
  | .retrieve _ completionHandler => {completionHandler.retrieval}
  | .putBack _ completionHandler _ => {completionHandler.retrieval}
  | _ => 0

namespace KingfisherManager

variable {options : ManagerOptions URL Image} {manager after : KingfisherManager URL Image}
  {event : ManagerEvent URL Image} {files : String → Option Data}
  {history : History (KingfisherManager URL Image) (ManagerEvent URL Image)}

/-- The steps of a manager, each with what it finds. -/
inductive Moves (options : ManagerOptions URL Image) (manager : KingfisherManager URL Image) :
    ManagerEvent URL Image → KingfisherManager URL Image → Prop where
  | retrieveImage (url : URL) :
      Moves options manager (.retrieveImage url) (manager.retrieveImage options url)
  | cacheResult {place : ℕ} {result : CacheResult Image (CacheHandler URL)}
      (occurs : manager.cacheResults[place]? = some result) :
      Moves options manager (.cacheResult place) (handleCacheResult options
        { manager with cacheResults := manager.cacheResults.eraseIdx place } result)
  | answer {place : ℕ} {answer : Answer URL Image}
      (occurs : manager.answers[place]? = some answer) :
      Moves options manager (.answer place) (handleAnswer options
        { manager with answers := manager.answers.eraseIdx place } answer)
  | cache {event : CacheEvent Image (CacheHandler URL)}
      {cache : ImageCache Image (CacheHandler URL)}
      {result : Option (CacheResult Image (CacheHandler URL))} (own : CacheOwn event = true)
      (handled : manager.cache.handle options.cacheSerializer event = some (cache, result)) :
      Moves options manager (.cache event)
        { manager with cache, cacheResults := manager.cacheResults ++ result.toList }
  | download {event : DownloadEvent URL Image} {downloader : ImageDownloader URL Image}
      (own : DownloadOwn event = true)
      (downloaded : manager.downloader.next event = some downloader) :
      Moves options manager (.download event)
        { manager with
          downloader
          answers := manager.answers ++
            downloader.answers.drop manager.downloader.answers.length }

theorem moves_of_next (stepped : manager.next options event = some after) :
    manager.Moves options event after := by
  cases event with
  | retrieveImage url =>
      cases stepped
      exact .retrieveImage url
  | cacheResult place =>
      simp only [next] at stepped
      split at stepped
      next result occurs =>
        cases stepped
        exact .cacheResult occurs
      next => cases stepped
  | answer place =>
      simp only [next] at stepped
      split at stepped
      next answer occurs =>
        cases stepped
        exact .answer occurs
      next => cases stepped
  | cache event =>
      simp only [next, Option.ite_none_right_eq_some] at stepped
      rcases stepped with ⟨own, stepped⟩
      split at stepped
      next cache result handled =>
        cases stepped
        exact .cache own handled
      next => cases stepped
  | download event =>
      simp only [next, Option.ite_none_right_eq_some] at stepped
      rcases stepped with ⟨own, stepped⟩
      split at stepped
      next downloader downloaded =>
        cases stepped
        exact .download own downloaded
      next => cases stepped

/-- The retrievals which wait for a block of the cache. -/
def reading (cache : ImageCache Image (CacheHandler URL)) : Multiset ℕ :=
  (cache.ioQueue.map IOBlock.retrieval).sum

/-- The retrievals whose handlers the cache calls. -/
def called (results : List (CacheResult Image (CacheHandler URL))) : Multiset ℕ :=
  (results.map fun result => result.completionHandler.retrieval : List ℕ)

/-- The retrievals which wait for the downloader. -/
def downloading (downloader : ImageDownloader URL Image) : Multiset ℕ :=
  downloader.unanswered.map fun request => request.2.completionHandler

/-- The retrievals whose handlers the downloader calls. -/
def answering (manager : KingfisherManager URL Image) : Multiset ℕ :=
  (manager.answers.map fun answer => answer.content.completionHandler : List ℕ)

/-- All the places a retrieval can be in. -/
def accounted (manager : KingfisherManager URL Image) : Multiset ℕ :=
  (manager.completed.map Prod.fst : List ℕ) + reading manager.cache +
    called manager.cacheResults + downloading manager.downloader + manager.answering

omit [DecidableEq URL] in
@[simp]
theorem accounted_complete (retrieval : ℕ) (image : Option Image) :
    (manager.complete retrieval image).accounted = manager.accounted + {retrieval} := by
  simp only [accounted, complete, List.map_append, List.map_singleton, ← Multiset.coe_add,
    Multiset.coe_singleton]
  abel

theorem downloading_setup {downloader : ImageDownloader URL Image} (sound : downloader.Sound)
    (url : URL) (content : Content Image) :
    downloading (downloader.setup url content) =
      downloading downloader + {content.completionHandler} := by
  have moves : downloader.Moves (.downloadImage url content) (downloader.setup url content) :=
    sound.moves trivial rfl
  have moved := ImageDownloader.unanswered_next sound moves
  rw [ImageDownloader.answers_setup, List.drop_length] at moved
  simp only [List.map_nil, Multiset.coe_nil, add_zero] at moved
  rw [downloading, downloading, moved, Multiset.map_add]
  rfl

theorem accounted_downloadAndCacheImage (sound : manager.downloader.Sound) (retrieval : ℕ)
    (url : URL) :
    (manager.downloadAndCacheImage options retrieval url).accounted =
      manager.accounted + {retrieval} := by
  unfold downloadAndCacheImage
  split
  · exact accounted_complete retrieval none
  · simp only [accounted, downloading_setup sound, content]
    abel

theorem accounted_handleCacheResult (sound : manager.downloader.Sound)
    (result : CacheResult Image (CacheHandler URL)) :
    (manager.handleCacheResult options result).accounted =
      manager.accounted + {result.completionHandler.retrieval} := by
  unfold handleCacheResult
  split
  next retrieval url isHandler =>
    rw [isHandler]
    split
    · exact accounted_complete retrieval _
    · exact accounted_downloadAndCacheImage sound retrieval url
  next retrieval url isHandler =>
    rw [isHandler]
    exact accounted_complete retrieval _

omit [DecidableEq URL] in
theorem called_append (results more : List (CacheResult Image (CacheHandler URL))) :
    called (results ++ more) = called results + called more := by
  simp only [called, List.map_append, Multiset.coe_add]

omit [DecidableEq URL] in
/-- Asking the cache: the handler is called or waits. -/
theorem reading_retrieveImage (cache : ImageCache Image (CacheHandler URL)) (key : String)
    (handler : CacheHandler URL) :
    reading (cache.retrieveImage key handler).1 +
        called (cache.retrieveImage key handler).2.toList =
      reading cache + {handler.retrieval} := by
  unfold ImageCache.retrieveImage
  split
  · rfl
  · simp [reading, called, IOBlock.retrieval]

omit [DecidableEq URL] in
theorem reading_queued (cache : ImageCache Image (CacheHandler URL))
    {memoryCache : String → Option Image} {block : IOBlock Image (CacheHandler URL)}
    (silent : block.retrieval = 0) :
    reading { cache with memoryCache, ioQueue := cache.ioQueue ++ [block] } = reading cache := by
  simp [reading, silent]

omit [DecidableEq URL] in
/-- What the cache does by itself: a handler which waited is called or waits. -/
theorem reading_handle {serializer : CacheSerializer Image}
    {cache next : ImageCache Image (CacheHandler URL)}
    {cacheEvent : CacheEvent Image (CacheHandler URL)}
    {result : Option (CacheResult Image (CacheHandler URL))} (own : CacheOwn cacheEvent = true)
    (handled : cache.handle serializer cacheEvent = some (next, result)) :
    reading next + called result.toList = reading cache := by
  cases cacheEvent with
  | store => cases own
  | retrieveImage => cases own
  | removeImage key fromMemory fromDisk =>
      cases handled
      apply (add_zero _).trans
      cases fromDisk with
      | true =>
          cases fromMemory with
          | true => exact reading_queued cache rfl
          | false => exact reading_queued cache rfl
      | false =>
          cases fromMemory with
          | true => rfl
          | false => rfl
  | evict key =>
      cases handled
      exact add_zero _
  | clearMemoryCache =>
      cases handled
      exact add_zero _
  | clearDiskCache =>
      cases handled
      exact (add_zero _).trans (reading_queued cache rfl)
  | cleanExpiredDiskCache keys =>
      cases handled
      exact (add_zero _).trans (reading_queued cache rfl)
  | performBlock =>
      cases queue : cache.ioQueue with
      | nil => simp [ImageCache.handle, queue] at handled
      | cons block blocks =>
          simp only [ImageCache.handle, queue, Option.some.injEq] at handled
          have before : reading cache = block.retrieval + (blocks.map IOBlock.retrieval).sum := by
            rw [reading, queue, List.map_cons, List.sum_cons]
          rw [before]
          cases block with
          | retrieve key handler =>
              simp only [ImageCache.performBlock] at handled
              split at handled
              · cases handled
                simp [reading, called, IOBlock.retrieval]
              · cases handled
                exact add_comm _ _
          | putBack key handler image =>
              cases handled
              exact add_comm _ _
          | createFile =>
              cases handled
              exact add_comm _ _
          | removeItem =>
              cases handled
              exact add_comm _ _
          | removeAll =>
              cases handled
              exact add_comm _ _
          | removeItems =>
              cases handled
              exact add_comm _ _

/-- An image in memory completes the retrieval; otherwise a read is queued. -/
theorem retrieveImage_eq (url : URL) :
    manager.retrieveImage options url =
      match manager.cache.memoryCache (options.absoluteString url) with
      | some image =>
          { manager with retrievals := manager.retrievals ++ [url] }.complete
            manager.retrievals.length (some image)
      | none =>
          { manager with
            retrievals := manager.retrievals ++ [url]
            cache := { manager.cache with ioQueue := manager.cache.ioQueue ++
              [.retrieve (options.absoluteString url)
                (.tryToRetrieveImageFromCache manager.retrievals.length url)] } } := by
  unfold retrieveImage ImageCache.retrieveImage
  dsimp only
  cases manager.cache.memoryCache (options.absoluteString url) with
  | some image => rfl
  | none => rfl

theorem accounted_retrieveImage (url : URL) :
    (manager.retrieveImage options url).accounted =
      manager.accounted + {manager.retrievals.length} := by
  rw [retrieveImage_eq]
  split
  · exact accounted_complete _ _
  · simp only [accounted, reading, List.map_append, List.map_singleton, List.sum_append,
      List.sum_singleton, IOBlock.retrieval, CacheHandler.retrieval, answering]
    abel

omit [DecidableEq URL] in
theorem accounted_handleAnswer (answer : Answer URL Image) :
    (manager.handleAnswer options answer).accounted =
      manager.accounted + {answer.content.completionHandler} := by
  unfold handleAnswer
  dsimp only
  split
  · have moved := reading_retrieveImage manager.cache (options.absoluteString answer.url)
      (.notModified answer.content.completionHandler answer.url)
    generalize manager.cache.retrieveImage (options.absoluteString answer.url)
      (.notModified answer.content.completionHandler answer.url) = retrieved at moved
    calc
      _ = (reading retrieved.1 + called retrieved.2.toList) +
          ((manager.completed.map Prod.fst : List ℕ) + called manager.cacheResults +
            downloading manager.downloader + manager.answering) := by
        simp only [accounted, called_append, answering]
        abel
      _ = manager.accounted + {answer.content.completionHandler} := by
        rw [moved, accounted]
        simp only [CacheHandler.retrieval]
        abel
  · exact accounted_complete _ _
  · apply (accounted_complete _ _).trans
    have stored : ∀ image data key, reading (manager.cache.store image data key true) =
        reading manager.cache := by
      intro image data key
      exact reading_queued manager.cache rfl
    simp only [accounted, stored, answering]

/-- The step of the downloader in a step of the manager. -/
def downloadEvent (options : ManagerOptions URL Image) (manager : KingfisherManager URL Image) :
    ManagerEvent URL Image → Option (DownloadEvent URL Image)
  | .download event => some event
  | .cacheResult place =>
      match manager.cacheResults[place]? with
      | some ⟨.tryToRetrieveImageFromCache retrieval url, _, none, _⟩ =>
          if (options.absoluteString url).isEmpty then none
          else some (.downloadImage url (content options retrieval))
      | _ => none
  | _ => none

/-- What the downloader has done in a history of the manager. -/
def downloads (options : ManagerOptions URL Image)
    (history : History (KingfisherManager URL Image) (ManagerEvent URL Image)) :
    History (ImageDownloader URL Image) (DownloadEvent URL Image) :=
  history.filterMap fun occurrence =>
    (downloadEvent options occurrence.1 occurrence.2).map (Prod.mk occurrence.1.downloader)

omit [DecidableEq URL] in
/-- The downloader takes steps of its own, and is asked where the cache has nothing. -/
theorem downloadEvent_cases {download : DownloadEvent URL Image}
    (isDownload : downloadEvent options manager event = some download) :
    event = .download download ∨ ∃ result ∈ manager.cacheResults, ∃ retrieval url,
      result.completionHandler = .tryToRetrieveImageFromCache retrieval url ∧
      download = .downloadImage url (content options retrieval) := by
  cases event with
  | download event =>
      cases isDownload
      exact .inl rfl
  | cacheResult place =>
      right
      simp only [downloadEvent] at isDownload
      split at isDownload
      next retrieval url key cacheType occurs =>
        split at isDownload
        · cases isDownload
        · cases isDownload
          exact ⟨_, List.mem_of_getElem? occurs, retrieval, url, rfl, rfl⟩
      next => cases isDownload
  | retrieveImage => cases isDownload
  | answer => cases isDownload
  | cache => cases isDownload

omit [DecidableEq URL] in
theorem mem_downloads {download : ImageDownloader URL Image × DownloadEvent URL Image}
    (occurred : download ∈ downloads options history) : ∃ occurrence ∈ history,
      downloadEvent options occurrence.1 occurrence.2 = some download.2 := by
  rcases List.mem_filterMap.mp occurred with ⟨occurrence, occurs, isDownload⟩
  rcases Option.map_eq_some_iff.mp isDownload with ⟨event, isEvent, rfl⟩
  exact ⟨occurrence, occurs, isEvent⟩

/-- The downloader takes the step which the manager's step says, or none. -/
inductive Downloads (manager after : KingfisherManager URL Image) :
    Option (DownloadEvent URL Image) → Prop where
  | idle (same : after.downloader = manager.downloader) : Downloads manager after none
  | step {event : DownloadEvent URL Image} (orderly : manager.downloader.Orderly event)
      (stepped : manager.downloader.next event = some after.downloader) :
      Downloads manager after (some event)

theorem downloads_next (orderly : manager.Orderly event)
    (stepped : manager.next options event = some after) :
    Downloads manager after (downloadEvent options manager event) := by
  cases moves_of_next stepped with
  | retrieveImage url =>
      apply Downloads.idle
      rw [retrieveImage_eq]
      split
      · rfl
      · rfl
  | @cacheResult place result occurs =>
      obtain ⟨handler, key, image, cacheType⟩ := result
      cases handler with
      | notModified retrieval url =>
          simp only [downloadEvent, occurs]
          exact .idle rfl
      | tryToRetrieveImageFromCache retrieval url =>
          cases image with
          | some image =>
              simp only [downloadEvent, occurs]
              exact .idle rfl
          | none =>
              simp only [downloadEvent, occurs, handleCacheResult, downloadAndCacheImage]
              split
              · exact .idle rfl
              · exact .step trivial rfl
  | answer occurs =>
      apply Downloads.idle
      unfold handleAnswer
      dsimp only
      split
      · rfl
      · rfl
      · rfl
  | cache own handled => exact .idle rfl
  | download own downloaded => exact .step orderly downloaded

omit [DecidableEq URL] in
theorem downloads_cons_of_none (silent : downloadEvent options manager event = none) :
    downloads options ((manager, event) :: history) = downloads options history := by
  rw [downloads, List.filterMap_cons]
  simp [silent, downloads]

omit [DecidableEq URL] in
theorem downloads_cons_of_some {download : DownloadEvent URL Image}
    (isDownload : downloadEvent options manager event = some download) :
    downloads options ((manager, event) :: history) =
      (manager.downloader, download) :: downloads options history := by
  rw [downloads, List.filterMap_cons]
  simp [isDownload, downloads]

theorem downloads_of_run (run : Run (orderly options) (launched files) history manager) :
    Run (ImageDownloader.orderly URL Image) .new (downloads options history)
      manager.downloader := by
  induction run with
  | nil => exact .nil
  | @snoc history manager after event run step ih =>
      have downloaded := downloads_next step.1 step.2
      generalize isDownload : downloadEvent options manager event = download at downloaded
      cases downloaded with
      | idle same =>
          rw [downloads_cons_of_none isDownload, same]
          exact ih
      | step orderly stepped =>
          rw [downloads_cons_of_some isDownload]
          exact ih.snoc ⟨orderly, stepped⟩

theorem sound_of_run (run : Run (orderly options) (launched files) history manager) :
    manager.downloader.Sound :=
  ImageDownloader.sound_of_run (downloads_of_run run)

/-- A response for a download is one the downloader takes as valid. -/
def Accepted : ManagerEvent URL Image → Prop
  | .download event => event.Accepted
  | _ => True

omit [DecidableEq URL] in
theorem accepted_of_downloads {download : ImageDownloader URL Image × DownloadEvent URL Image}
    (accepted : ∀ occurrence ∈ history, Accepted occurrence.2)
    (occurred : download ∈ downloads options history) : download.2.Accepted := by
  rcases mem_downloads occurred with ⟨occurrence, occurs, isDownload⟩
  rcases downloadEvent_cases isDownload with isEvent | ⟨_, _, _, _, _, asks⟩
  · have valid := accepted occurrence occurs
    rwa [isEvent] at valid
  · rw [asks]
    trivial

/-- Where every response was accepted, whatever comes next is orderly. -/
theorem orderly_of_accepted (run : Run (orderly options) (launched files) history manager)
    (accepted : ∀ occurrence ∈ history, Accepted occurrence.2)
    (event : ManagerEvent URL Image) : manager.Orderly event := by
  cases event with
  | download event =>
      apply (ImageDownloader.claimed_of_run (downloads_of_run run)).orderly
      apply ImageDownloader.not_refused_of_accepted
      exact fun download occurred => accepted_of_downloads accepted occurred
  | _ => trivial

/-- The manager where every response is accepted. -/
def accepting (options : ManagerOptions URL Image) :
    System (KingfisherManager URL Image) (ManagerEvent URL Image) :=
  (system options).restrict fun _ event => Accepted event

/-- As for the downloader alone, only a refused response can make a run disorderly. -/
theorem orderly_of_accepting (run : Run (accepting options) (launched files) history manager) :
    Run (orderly options) (launched files) history manager := by
  have accepted := run.delivered
  induction run with
  | nil => exact .nil
  | @snoc history manager after event run step ih =>
      have earlier : ∀ occurrence ∈ history, Accepted occurrence.2 := fun occurrence occurred =>
        accepted occurrence (List.mem_cons_of_mem _ occurred)
      exact (ih earlier).snoc ⟨orderly_of_accepted (ih earlier) earlier event, step.2⟩

/-- The retrieval an event makes. -/
def retrieved (manager : KingfisherManager URL Image) : ManagerEvent URL Image → Multiset ℕ
  | .retrieveImage _ => {manager.retrievals.length}
  | _ => 0

omit [DecidableEq URL] in
/-- Taking out one of the things which wait, whatever they wait for. -/
theorem coe_map_eraseIdx {Item : Type} {items : List Item} {item : Item} {place : ℕ}
    (retrieval : Item → ℕ) (occurs : items[place]? = some item) :
    (items.map retrieval : Multiset ℕ) =
      (items.eraseIdx place).map retrieval + {retrieval item} := by
  rw [← Multiset.map_coe, coe_eraseIdx occurs, Multiset.map_add, Multiset.map_singleton,
    add_comm, Multiset.map_coe]

/-- What the downloader does by itself: a retrieval which waited is answered or waits. -/
theorem downloading_next {downloader next : ImageDownloader URL Image}
    {event : DownloadEvent URL Image} (sound : downloader.Sound)
    (orderly : downloader.Orderly event) (own : DownloadOwn event = true)
    (downloaded : downloader.next event = some next) :
    downloading next + ((next.answers.drop downloader.answers.length).map
        fun answer => answer.content.completionHandler : List ℕ) =
      downloading downloader := by
  have nothing : event.requested = 0 := by
    cases event with
    | downloadImage => cases own
    | _ => rfl
  have moved := ImageDownloader.unanswered_next sound (sound.moves orderly downloaded)
  rw [nothing, add_zero] at moved
  rw [downloading, downloading, ← moved, Multiset.map_add, Multiset.map_coe, List.map_map]
  rfl

/-- A step accounts for the retrieval it makes, and loses and doubles none. -/
theorem accounted_next (sound : manager.downloader.Sound) (orderly : manager.Orderly event)
    (stepped : manager.next options event = some after) :
    after.accounted = manager.accounted + manager.retrieved event := by
  cases moves_of_next stepped with
  | retrieveImage url => exact accounted_retrieveImage url
  | @cacheResult place result occurs =>
      apply (accounted_handleCacheResult (by exact sound) result).trans
      have waited := coe_map_eraseIdx (fun result => result.completionHandler.retrieval) occurs
      simp only [accounted, called, waited, retrieved, answering]
      abel
  | @answer place answer occurs =>
      apply (accounted_handleAnswer answer).trans
      have waited := coe_map_eraseIdx (fun answer => answer.content.completionHandler) occurs
      simp only [accounted, answering, waited, retrieved]
      abel
  | cache own handled =>
      have moved := reading_handle own handled
      simp only [accounted, called_append, ← moved, retrieved, answering]
      abel
  | download own downloaded =>
      have moved := downloading_next sound orderly own downloaded
      simp only [accounted, answering, List.map_append, ← Multiset.coe_add, ← moved, retrieved]
      abel

/-- The URL an event asks for. -/
def asked : ManagerEvent URL Image → List URL
  | .retrieveImage url => [url]
  | _ => []

theorem retrievals_handleCacheResult (result : CacheResult Image (CacheHandler URL)) :
    (manager.handleCacheResult options result).retrievals = manager.retrievals := by
  unfold handleCacheResult
  split
  · split
    · rfl
    · unfold downloadAndCacheImage
      split
      · rfl
      · rfl
  · rfl

omit [DecidableEq URL] in
theorem retrievals_handleAnswer (answer : Answer URL Image) :
    (manager.handleAnswer options answer).retrievals = manager.retrievals := by
  unfold handleAnswer
  dsimp only
  split
  · rfl
  · rfl
  · rfl

theorem retrievals_next (stepped : manager.next options event = some after) :
    after.retrievals = manager.retrievals ++ asked event := by
  cases moves_of_next stepped with
  | retrieveImage url =>
      rw [retrieveImage_eq]
      split
      · rfl
      · rfl
  | cacheResult occurs => exact (retrievals_handleCacheResult _).trans (List.append_nil _).symm
  | answer occurs => exact (retrievals_handleAnswer _).trans (List.append_nil _).symm
  | cache own handled => exact (List.append_nil _).symm
  | download own downloaded => exact (List.append_nil _).symm

theorem completed_downloadAndCacheImage (retrieval : ℕ) (url : URL) :
    manager.completed <+: (manager.downloadAndCacheImage options retrieval url).completed := by
  unfold downloadAndCacheImage
  split
  · exact List.prefix_append _ _
  · exact List.prefix_rfl

theorem completed_handleCacheResult (result : CacheResult Image (CacheHandler URL)) :
    manager.completed <+: (manager.handleCacheResult options result).completed := by
  unfold handleCacheResult
  split
  · split
    · exact List.prefix_append _ _
    · exact completed_downloadAndCacheImage _ _
  · exact List.prefix_append _ _

omit [DecidableEq URL] in
theorem completed_handleAnswer (answer : Answer URL Image) :
    manager.completed <+: (manager.handleAnswer options answer).completed := by
  unfold handleAnswer
  dsimp only
  split
  · exact List.prefix_rfl
  · exact List.prefix_append _ _
  · exact List.prefix_append _ _

/-- A completion is never taken back. -/
theorem completed_next (stepped : manager.next options event = some after) :
    manager.completed <+: after.completed := by
  cases moves_of_next stepped with
  | retrieveImage url =>
      rw [retrieveImage_eq]
      split
      · exact List.prefix_append _ _
      · exact List.prefix_rfl
  | cacheResult occurs =>
      apply List.IsPrefix.trans ?_ (completed_handleCacheResult _)
      exact List.prefix_rfl
  | answer occurs =>
      apply List.IsPrefix.trans ?_ (completed_handleAnswer _)
      exact List.prefix_rfl
  | cache own handled => exact List.prefix_rfl
  | download own downloaded => exact List.prefix_rfl

/-- Nothing is under way. -/
structure AtRest (manager : KingfisherManager URL Image) : Prop where
  reading : reading manager.cache = 0
  cacheResults : manager.cacheResults = []
  downloader : manager.downloader.AtRest
  answers : manager.answers = []

theorem accounted_of_run (run : Run (orderly options) (launched files) history manager) :
    manager.accounted = Multiset.range manager.retrievals.length := by
  induction run with
  | nil => rfl
  | @snoc history manager after event run step ih =>
      rw [accounted_next (sound_of_run run) step.1 step.2, ih, retrievals_next step.2]
      cases event with
      | retrieveImage url =>
          rw [asked, List.length_append, List.length_singleton, Multiset.range_succ,
            ← Multiset.singleton_add, add_comm]
          rfl
      | _ => simp [retrieved, asked]

theorem completed_le (run : Run (orderly options) (launched files) history manager) :
    ((manager.completed.map Prod.fst : List ℕ) : Multiset ℕ) ≤
      Multiset.range manager.retrievals.length := by
  rw [← accounted_of_run run, accounted, add_assoc, add_assoc, add_assoc]
  exact Multiset.le_add_right _ _

/-- At rest, a retrieval has completed or waits for a load to fail. -/
theorem completed_of_atRest (run : Run (orderly options) (launched files) history manager)
    (rest : manager.AtRest) :
    ((manager.completed.map Prod.fst : List ℕ) : Multiset ℕ) +
        manager.downloader.waiting.map (fun request => request.2.completionHandler) =
      Multiset.range manager.retrievals.length := by
  have nothingPending : manager.downloader.pending = 0 := by
    rw [ImageDownloader.pending, (sound_of_run run).fetchLoads_of_atRest rest.downloader,
      total_empty]
  rw [← accounted_of_run run, accounted, rest.reading, rest.cacheResults, answering, rest.answers,
    downloading, ImageDownloader.unanswered, nothingPending, rest.downloader.preparing]
  simp [called]

/-- Nobody waits for a load to fail where nobody cancels. -/
theorem waiting_of_run (run : Run (orderly options) (launched files) history manager)
    (kept : ∀ occurrence ∈ history, ∀ task,
      occurrence.2 ≠ .download (.cancelDownloadingTask task)) :
    manager.downloader.waiting = 0 := by
  have uncancelled := ImageDownloader.uncancelled_of_run (downloads_of_run run) ?_
  · rw [ImageDownloader.waiting, uncancelled.cancelQueue]
    rfl
  · rintro ⟨downloader, _⟩ occurred task rfl
    rcases mem_downloads occurred with ⟨occurrence, occurs, isCancel⟩
    rcases downloadEvent_cases isCancel with isEvent | ⟨_, _, _, _, _, asks⟩
    · exact kept occurrence occurs task isEvent
    · cases asks

theorem completed_perm_range (run : Run (orderly options) (launched files) history manager)
    (rest : manager.AtRest)
    (kept : ∀ occurrence ∈ history, ∀ task,
      occurrence.2 ≠ .download (.cancelDownloadingTask task)) :
    (manager.completed.map Prod.fst).Perm (List.range manager.retrievals.length) := by
  have settled := completed_of_atRest run rest
  rw [waiting_of_run run kept, Multiset.map_zero, add_zero] at settled
  exact Multiset.coe_eq_coe.mp settled

/-- Every retrieval completes at most once, in any orderly run.  When nothing is under way
any more, each has completed once, except for those whose request waits for a load to fail; and
where nobody cancels, each has. -/
theorem completed_once (run : Run (orderly options) (launched files) history manager) :
    (manager.completed.map Prod.fst).Nodup ∧
      (manager.AtRest →
        ((manager.completed.map Prod.fst : List ℕ) : Multiset ℕ) +
            manager.downloader.waiting.map (fun request => request.2.completionHandler) =
          Multiset.range manager.retrievals.length ∧
        ((∀ occurrence ∈ history, ∀ task,
            occurrence.2 ≠ .download (.cancelDownloadingTask task)) →
          (manager.completed.map Prod.fst).Perm (List.range manager.retrievals.length))) := by
  constructor
  · apply Multiset.coe_nodup.mp
    exact Multiset.nodup_of_le (completed_le run) (Multiset.nodup_range _)
  · intro rest
    exact ⟨completed_of_atRest run rest, completed_perm_range run rest⟩

/-- Images are the bytes they are made of, and URLs their absolute strings. -/
def plain : ManagerOptions String Data := ⟨ImageCache.bytes, ⟨"", some⟩, id⟩

/-- An image is retrieved twice before it is in the cache; one task downloads it. -/
def retrievedTwice : List (ManagerEvent String Data) :=
  [.retrieveImage "sub", .retrieveImage "sub", .cache .performBlock, .cache .performBlock,
    .cacheResult 0, .cacheResult 0, .download (.prepareFetchLoad 0),
    .download (.prepareFetchLoad 0), .download (.didReceiveData 0 [137]),
    .download (.didCompleteWithError 0 none), .download (.fetch 0), .download (.process 0),
    .answer 1, .answer 0]

/-- Scripts of the manager. -/
theorem exists_manager_run (script : List (ManagerEvent String Data))
    (test : History (KingfisherManager String Data) (ManagerEvent String Data) →
      KingfisherManager String Data → Bool)
    (passes : (execute (fun manager event =>
      if manager.Orderly event then manager.next plain event else none)
        (launched fun _ => none) script).any (fun result => test result.1 result.2) = true) :
    ∃ history manager, Run (orderly plain) (launched fun _ => none) history manager ∧
      test history manager = true :=
  exists_restricted_run (fun {_ _ _} => id) script test passes

theorem completed_once_retrievedTwice :
    ∃ (history : History (KingfisherManager String Data) (ManagerEvent String Data))
      (manager : KingfisherManager String Data),
      Run (orderly plain) (launched fun _ => none) history manager ∧
        manager.downloader.tasks = 1 ∧ manager.retrievals.length = 2 ∧
          (manager.completed.map Prod.fst).Perm (List.range manager.retrievals.length) := by
  have script := exists_manager_run retrievedTwice
    (fun history manager => manager.downloader.tasks == 1 && manager.retrievals.length == 2 &&
      decide (reading manager.cache = 0) && manager.cacheResults.isEmpty &&
      manager.answers.isEmpty && manager.downloader.preparing.isEmpty &&
      manager.downloader.processQueue.isEmpty &&
      (List.range manager.downloader.tasks).all
        (fun task => (manager.downloader.task task).completed) &&
      history.all (fun occurrence => occurrence.2.Own || !(asked occurrence.2).isEmpty))
    (by decide +kernel)
  rcases script with ⟨history, manager, run, tested⟩
  simp only [Bool.and_eq_true, beq_iff_eq, List.isEmpty_iff, List.all_eq_true, List.mem_range,
    decide_eq_true_eq] at tested
  rcases tested with ⟨⟨⟨⟨⟨⟨⟨⟨oneTask, two⟩, nothingRead⟩, cacheResults⟩, answers⟩, preparing⟩,
    processQueue⟩, completed⟩, kept⟩
  refine ⟨history, manager, run, oneTask, two, ?_⟩
  have finished := ImageDownloader.atRest_of_completed preparing processQueue completed
  apply ((completed_once run).2 ⟨nothingRead, cacheResults, finished, answers⟩).2
  intro occurrence occurred task cancelled
  have allowed := kept occurrence occurred
  rw [cancelled] at allowed
  cases allowed

end KingfisherManager

end Kingfisher

end OneSecond
