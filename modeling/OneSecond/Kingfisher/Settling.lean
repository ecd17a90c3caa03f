import OneSecond.Kingfisher.Retrievals
import OneSecond.Kingfisher.Waiting

/-!
# The manager comes to rest

Left alone by its callers, a manager can always finish what is under way, when the
cache, the server and the queues do their part (`retrievals_settle`).  Everything
under way has a price which covers what it may still cause: a read may lead to a
download, the answer of a server which has nothing new to a second read, and that
one to nothing more.  The downloader is brought to rest in one go.
-/

namespace OneSecond

namespace Kingfisher

open Runs Dictionaries

variable {URL Image : Type} [DecidableEq URL]

def CacheHandler.price : CacheHandler URL → ℕ
  | .tryToRetrieveImageFromCache _ _ => 7
  | .notModified _ _ => 1

def IOBlock.price : IOBlock Image (CacheHandler URL) → ℕ
  | .retrieve _ completionHandler => completionHandler.price + 2
  | .putBack _ completionHandler _ => completionHandler.price + 1
  | _ => 1

namespace KingfisherManager

variable {options : ManagerOptions URL Image} {manager after : KingfisherManager URL Image}
  {event : ManagerEvent URL Image} {files : String → Option Data}
  {history : History (KingfisherManager URL Image) (ManagerEvent URL Image)}

/-- The manager, left alone by its callers. -/
def settling (options : ManagerOptions URL Image) :
    System (KingfisherManager URL Image) (ManagerEvent URL Image) :=
  (orderly options).restrict fun _ event => event.Own = true

/-- Nothing is under way, and nothing is left to write. -/
structure Settled (manager : KingfisherManager URL Image) : Prop where
  rest : manager.AtRest
  ioQueue : manager.cache.ioQueue = []

def queuePrice (cache : ImageCache Image (CacheHandler URL)) : ℕ :=
  (cache.ioQueue.map IOBlock.price).sum

def resultsPrice (results : List (CacheResult Image (CacheHandler URL))) : ℕ :=
  (results.map fun result => result.completionHandler.price).sum

open Classical in
noncomputable def downloadPrice (downloader : ImageDownloader URL Image) : ℕ :=
  5 * downloader.unanswered.card + if downloader.AtRest then 0 else 1

omit [DecidableEq URL] in
theorem downloadPrice_of_atRest {downloader : ImageDownloader URL Image}
    (rest : downloader.AtRest) : downloadPrice downloader = 5 * downloader.unanswered.card := by
  simp [downloadPrice, rest]

omit [DecidableEq URL] in
theorem downloadPrice_of_not_atRest {downloader : ImageDownloader URL Image}
    (busy : ¬ downloader.AtRest) :
    downloadPrice downloader = 5 * downloader.unanswered.card + 1 := by
  simp [downloadPrice, busy]

/-- The price of all that is under way. -/
noncomputable def remaining (manager : KingfisherManager URL Image) : ℕ :=
  queuePrice manager.cache + resultsPrice manager.cacheResults + 4 * manager.answers.length +
    downloadPrice manager.downloader

/-- Some steps lead closer to rest. -/
def Closer (options : ManagerOptions URL Image) (manager : KingfisherManager URL Image) : Prop :=
  ∃ later after, Run (settling options) manager later after ∧ after.downloader.Sound ∧
    after.remaining < manager.remaining

theorem sound_next (sound : manager.downloader.Sound) (orderly : manager.Orderly event)
    (stepped : manager.next options event = some after) : after.downloader.Sound := by
  have downloaded := downloads_next orderly stepped
  generalize downloadEvent options manager event = download at downloaded
  cases downloaded with
  | idle same =>
      rw [same]
      exact sound
  | step orderly downloading => exact sound.next (sound.moves orderly downloading)

theorem closer_of_step (sound : manager.downloader.Sound) (orderly : manager.Orderly event)
    (own : event.Own = true) (stepped : manager.next options event = some after)
    (nearer : after.remaining < manager.remaining) : manager.Closer options :=
  ⟨_, after, Run.nil.snoc ⟨own, orderly, stepped⟩, sound_next sound orderly stepped, nearer⟩

omit [DecidableEq URL] in
theorem resultsPrice_append (first second : List (CacheResult Image (CacheHandler URL))) :
    resultsPrice (first ++ second) = resultsPrice first + resultsPrice second := by
  simp [resultsPrice]

omit [DecidableEq URL] in
/-- A block costs more than what it leaves behind. -/
theorem queuePrice_performBlock (serializer : CacheSerializer Image)
    {cache : ImageCache Image (CacheHandler URL)} {block : IOBlock Image (CacheHandler URL)}
    {blocks : List (IOBlock Image (CacheHandler URL))} (queue : cache.ioQueue = block :: blocks) :
    ∃ performed, cache.handle serializer .performBlock = some performed ∧
      queuePrice performed.1 + resultsPrice performed.2.toList < queuePrice cache := by
  have before : queuePrice cache = block.price + (blocks.map IOBlock.price).sum := by
    rw [queuePrice, queue, List.map_cons, List.sum_cons]
  refine ⟨ImageCache.performBlock serializer { cache with ioQueue := blocks } block, ?_, ?_⟩
  · simp [ImageCache.handle, queue]
  · rw [before]
    cases block with
    | retrieve key completionHandler =>
        simp only [ImageCache.performBlock]
        split
        · change completionHandler.price + 1 + (blocks.map IOBlock.price).sum + 0 <
            completionHandler.price + 2 + (blocks.map IOBlock.price).sum
          omega
        · change (blocks.map IOBlock.price).sum + (completionHandler.price + 0) <
            completionHandler.price + 2 + (blocks.map IOBlock.price).sum
          omega
    | putBack key completionHandler image =>
        change (blocks.map IOBlock.price).sum + (completionHandler.price + 0) <
          completionHandler.price + 1 + (blocks.map IOBlock.price).sum
        omega
    | _ =>
        change (blocks.map IOBlock.price).sum + 0 < 1 + (blocks.map IOBlock.price).sum
        omega

theorem performBlock_closer (sound : manager.downloader.Sound)
    (queue : manager.cache.ioQueue ≠ []) : manager.Closer options := by
  rcases List.exists_cons_of_ne_nil queue with ⟨block, blocks, isQueue⟩
  rcases queuePrice_performBlock options.cacheSerializer isQueue with ⟨performed, handled, less⟩
  have stepped : manager.next options (.cache .performBlock) =
      some { manager with
        cache := performed.1
        cacheResults := manager.cacheResults ++ performed.2.toList } := by
    simp [next, CacheOwn, handled]
  apply closer_of_step sound (by trivial) rfl stepped
  simp only [remaining, resultsPrice_append]
  omega

omit [DecidableEq URL] in
@[simp]
theorem remaining_complete (retrieval : ℕ) (image : Option Image) :
    (manager.complete retrieval image).remaining = manager.remaining :=
  rfl

theorem downloadPrice_setup {downloader : ImageDownloader URL Image} (sound : downloader.Sound)
    (url : URL) (content : Content Image) :
    downloadPrice (downloader.setup url content) ≤ downloadPrice downloader + 6 := by
  have moves : downloader.Moves (.downloadImage url content) (downloader.setup url content) :=
    sound.moves trivial rfl
  have moved := congrArg Multiset.card (ImageDownloader.unanswered_next sound moves)
  rw [ImageDownloader.answers_setup, List.drop_length] at moved
  simp only [List.map_nil, Multiset.coe_nil, add_zero, Multiset.card_add,
    DownloadEvent.requested, Multiset.card_singleton] at moved
  unfold downloadPrice
  rw [moved]
  split
  · omega
  · omega

theorem remaining_handleCacheResult (sound : manager.downloader.Sound)
    (result : CacheResult Image (CacheHandler URL)) :
    (manager.handleCacheResult options result).remaining <
      manager.remaining + result.completionHandler.price := by
  unfold handleCacheResult
  split
  next retrieval url isHandler =>
    rw [isHandler, CacheHandler.price]
    split
    · rw [remaining_complete]
      omega
    · unfold downloadAndCacheImage
      split
      · rw [remaining_complete]
        omega
      · have more := downloadPrice_setup sound url (content options retrieval)
        simp only [remaining]
        omega
  next retrieval url isHandler =>
    rw [isHandler, CacheHandler.price, remaining_complete]
    omega

theorem cacheResult_closer (sound : manager.downloader.Sound)
    (called : manager.cacheResults ≠ []) : manager.Closer options := by
  rcases List.exists_cons_of_ne_nil called with ⟨result, others, isCalled⟩
  have stepped : manager.next options (.cacheResult 0) =
      some (handleCacheResult options { manager with cacheResults := others } result) := by
    simp [next, isCalled]
  apply closer_of_step sound (by trivial) rfl stepped
  apply (remaining_handleCacheResult (by exact sound) result).trans_le
  simp only [remaining, isCalled, resultsPrice, List.map_cons, List.sum_cons]
  omega

omit [DecidableEq URL] in
theorem queuePrice_concat (cache : ImageCache Image (CacheHandler URL))
    {memoryCache : String → Option Image} (block : IOBlock Image (CacheHandler URL)) :
    queuePrice { cache with memoryCache, ioQueue := cache.ioQueue ++ [block] } =
      queuePrice cache + block.price := by
  simp [queuePrice]

omit [DecidableEq URL] in
/-- Asking the cache once more. -/
theorem queuePrice_retrieveImage (cache : ImageCache Image (CacheHandler URL)) (key : String)
    (retrieval : ℕ) (url : URL) :
    queuePrice (cache.retrieveImage key (.notModified retrieval url)).1 +
        resultsPrice (cache.retrieveImage key (.notModified retrieval url)).2.toList ≤
      queuePrice cache + 3 := by
  unfold ImageCache.retrieveImage
  split
  · change queuePrice cache + 1 ≤ queuePrice cache + 3
    omega
  · rw [queuePrice_concat]
    exact le_refl _

omit [DecidableEq URL] in
theorem remaining_handleAnswer (answer : Answer URL Image) :
    (manager.handleAnswer options answer).remaining < manager.remaining + 4 := by
  unfold handleAnswer
  dsimp only
  split
  · have asked := queuePrice_retrieveImage manager.cache (options.absoluteString answer.url)
      answer.content.completionHandler answer.url
    simp only [remaining, resultsPrice_append]
    omega
  · rw [remaining_complete]
    omega
  next image data isImage =>
    have stored : queuePrice (manager.cache.store image (some data)
        (options.absoluteString answer.url) true) = queuePrice manager.cache + 1 :=
      queuePrice_concat manager.cache _
    rw [remaining_complete]
    simp only [remaining, stored]
    omega

theorem answer_closer (sound : manager.downloader.Sound) (answered : manager.answers ≠ []) :
    manager.Closer options := by
  rcases List.exists_cons_of_ne_nil answered with ⟨answer, others, isAnswered⟩
  have stepped : manager.next options (.answer 0) =
      some (handleAnswer options { manager with answers := others } answer) := by
    simp [next, isAnswered]
  apply closer_of_step sound (by trivial) rfl stepped
  apply (remaining_handleAnswer answer).trans_le
  simp only [remaining, isAnswered, List.length_cons]
  omega

/-- The manager while its downloader goes on, with what was answered meanwhile. -/
def withDownloader (manager : KingfisherManager URL Image)
    (downloader : ImageDownloader URL Image) : KingfisherManager URL Image :=
  { manager with
    downloader
    answers := manager.answers ++
      downloader.answers.drop manager.downloader.answers.length }

/-- What the downloader does alone, it does in the manager. -/
theorem run_withDownloader (options : ManagerOptions URL Image)
    {downloader : ImageDownloader URL Image}
    {later : History (ImageDownloader URL Image) (DownloadEvent URL Image)}
    (sound : manager.downloader.Sound)
    (run : Run (ImageDownloader.settling URL Image) manager.downloader later downloader) :
    downloader.Sound ∧ manager.downloader.answers <+: downloader.answers ∧
      downloader.unanswered.card +
          (downloader.answers.length - manager.downloader.answers.length) =
        manager.downloader.unanswered.card ∧
      ∃ history, Run (settling options) manager history (manager.withDownloader downloader) := by
  induction run with
  | nil =>
      refine ⟨sound, List.prefix_rfl, by simp, [], ?_⟩
      have same : manager.withDownloader manager.downloader = manager := by
        simp [withDownloader]
      rw [same]
      exact .nil
  | @snoc later downloader next event run step ih =>
      rcases ih with ⟨soundThere, grown, balance, history, reached⟩
      rcases step with ⟨own, orderly, stepped⟩
      have moves := soundThere.moves orderly stepped
      have answers := ImageDownloader.answers_next moves
      have grows : downloader.answers <+: next.answers := ⟨_, answers.symm⟩
      have moved := congrArg Multiset.card (ImageDownloader.unanswered_next soundThere moves)
      rw [DownloadEvent.requested_of_own own, add_zero, Multiset.card_add, Multiset.coe_card,
        List.length_map, List.length_drop] at moved
      refine ⟨soundThere.next moves, grown.trans grows, ?_, ?_⟩
      · have before := grown.length_le
        have now := grows.length_le
        omega
      · have handledThere : downloader.next event = some next := stepped
        have isOwn : DownloadOwn event = true := by
          cases event with
          | downloadImage => exact own.elim
          | _ => rfl
        have alone : ManagerEvent.Own (.download event : ManagerEvent URL Image) = true := by
          cases event with
          | cancelDownloadingTask => exact own.elim
          | _ => rfl
        have more : next.answers.drop manager.downloader.answers.length =
            downloader.answers.drop manager.downloader.answers.length ++
              next.answers.drop downloader.answers.length := by
          conv_lhs => rw [answers]
          exact List.drop_append_of_le_length grown.length_le
        have handled : (manager.withDownloader downloader).next options (.download event) =
            some (manager.withDownloader next) := by
          simp [KingfisherManager.next, isOwn, withDownloader, handledThere, more]
        exact ⟨_, reached.snoc ⟨alone, orderly, handled⟩⟩

theorem downloader_closer (sound : manager.downloader.Sound)
    (busy : ¬ manager.downloader.AtRest) : manager.Closer options := by
  rcases sound.comesToRest with ⟨later, downloader, run, soundThere, settled⟩
  rcases run_withDownloader options sound run with
    ⟨_, grown, balance, history, reached⟩
  refine ⟨history, _, reached, soundThere, ?_⟩
  have answered := grown.length_le
  simp only [remaining, withDownloader, downloadPrice_of_not_atRest busy,
    downloadPrice_of_atRest settled.rest, List.length_append, List.length_drop]
  omega

theorem comesToRest (sound : manager.downloader.Sound) :
    ∃ later after, Run (settling options) manager later after ∧ after.downloader.Sound ∧
      after.Settled := by
  apply exists_run_of_progress
    (fun manager : KingfisherManager URL Image => manager.downloader.Sound) Settled remaining ?_
    sound
  intro manager sound notSettled
  by_cases queue : manager.cache.ioQueue = []
  · by_cases called : manager.cacheResults = []
    · by_cases answered : manager.answers = []
      · apply downloader_closer sound
        intro rest
        refine notSettled ⟨⟨?_, called, rest, answered⟩, queue⟩
        rw [reading, queue, List.map_nil, List.sum_nil]
      · exact answer_closer sound answered
    · exact cacheResult_closer sound called
  · exact performBlock_closer sound queue

omit [DecidableEq URL] in
theorem asked_of_own (own : event.Own = true) : asked event = [] := by
  cases event with
  | retrieveImage => cases own
  | _ => rfl

end KingfisherManager

end Kingfisher

end OneSecond
