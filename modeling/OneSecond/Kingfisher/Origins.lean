import OneSecond.Kingfisher.Retrievals

/-!
# Where the images come from

Whatever is in memory, in a file or on its way was fetched for its key, or was in
a file at launch (`Traced`).  No order of reads, evictions and stores gives a
retrieval an image of another key.
-/

namespace OneSecond

namespace Kingfisher

open Runs

variable {URL Image : Type} [DecidableEq URL]

namespace ImageCache

variable {Handler : Type} {serializer : CacheSerializer Image} {found : String → Option Data}
  {fetched more : String → Image → Data → Prop} {asks wants : Handler → String → Prop}
  {cache next : ImageCache Image Handler} {key : String} {image : Image} {data : Data}
  {result : CacheResult Image Handler}

/-- The data of a file: of an image which was fetched, or found at launch. -/
def Filed (serializer : CacheSerializer Image) (found : String → Option Data)
    (fetched : String → Image → Data → Prop) (key : String) (data : Data) : Prop :=
  (∃ image original, fetched key image original ∧
    serializer.data image (some original) = some data) ∨ found key = some data

/-- An image which was fetched for the key, or is read from its file. -/
def Genuine (serializer : CacheSerializer Image) (found : String → Option Data)
    (fetched : String → Image → Data → Prop) (key : String) (image : Image) : Prop :=
  (∃ data, fetched key image data) ∨
    ∃ data, Filed serializer found fetched key data ∧ serializer.image data = some image

theorem Filed.mono (filed : Filed serializer found fetched key data)
    (grown : ∀ key image data, fetched key image data → more key image data) :
    Filed serializer found more key data := by
  rcases filed with ⟨image, original, isFetched, written⟩ | isFound
  · exact .inl ⟨image, original, grown _ _ _ isFetched, written⟩
  · exact .inr isFound

theorem Genuine.mono (genuine : Genuine serializer found fetched key image)
    (grown : ∀ key image data, fetched key image data → more key image data) :
    Genuine serializer found more key image := by
  rcases genuine with ⟨data, isFetched⟩ | ⟨data, filed, reads⟩
  · exact .inl ⟨data, grown _ _ _ isFetched⟩
  · exact .inr ⟨data, filed.mono grown, reads⟩

/-- A result for the key its handler asks for. -/
structure Answers (serializer : CacheSerializer Image) (found : String → Option Data)
    (fetched : String → Image → Data → Prop) (asks : Handler → String → Prop)
    (result : CacheResult Image Handler) : Prop where
  asks : asks result.completionHandler result.key
  genuine : ∀ image, result.image = some image →
    Genuine serializer found fetched result.key image

theorem Answers.mono (answers : Answers serializer found fetched asks result)
    (grown : ∀ key image data, fetched key image data → more key image data)
    (kept : ∀ handler key, asks handler key → wants handler key) :
    Answers serializer found more wants result :=
  ⟨kept _ _ answers.asks, fun image isImage => (answers.genuine image isImage).mono grown⟩

/-- What a block of the queue has to do with its key. -/
def BlockTraced (serializer : CacheSerializer Image) (found : String → Option Data)
    (fetched : String → Image → Data → Prop) (asks : Handler → String → Prop) :
    IOBlock Image Handler → Prop
  | .createFile key image original => ∃ data, original = some data ∧ fetched key image data
  | .retrieve key handler => asks handler key
  | .putBack key handler image =>
      asks handler key ∧ Genuine serializer found fetched key image
  | _ => True

/-- Everything in the cache comes from what was fetched for its key. -/
structure Traced (serializer : CacheSerializer Image) (found : String → Option Data)
    (fetched : String → Image → Data → Prop) (asks : Handler → String → Prop)
    (cache : ImageCache Image Handler) : Prop where
  memory : ∀ key image, cache.memoryCache key = some image →
    Genuine serializer found fetched key image
  files : ∀ key data, cache.files key = some data → Filed serializer found fetched key data
  blocks : ∀ block ∈ cache.ioQueue, BlockTraced serializer found fetched asks block

theorem Traced.mono (traced : cache.Traced serializer found fetched asks)
    (grown : ∀ key image data, fetched key image data → more key image data)
    (kept : ∀ handler key, asks handler key → wants handler key) :
    cache.Traced serializer found more wants where
  memory key image held := (traced.memory key image held).mono grown
  files key data held := (traced.files key data held).mono grown
  blocks := by
    intro block queued
    have before := traced.blocks block queued
    cases block with
    | createFile key image original =>
        rcases before with ⟨data, isData, isFetched⟩
        exact ⟨data, isData, grown _ _ _ isFetched⟩
    | retrieve key handler => exact kept _ _ before
    | putBack key handler image => exact ⟨kept _ _ before.1, before.2.mono grown⟩
    | removeItem => trivial
    | removeAll => trivial
    | removeItems => trivial

/-- Memory forgets or learns of the right images, and more blocks are queued. -/
theorem Traced.queued (traced : cache.Traced serializer found fetched asks)
    {memoryCache : String → Option Image} {blocks : List (IOBlock Image Handler)}
    (memory : ∀ key image, memoryCache key = some image →
      cache.memoryCache key = some image ∨ Genuine serializer found fetched key image)
    (new : ∀ block ∈ blocks, BlockTraced serializer found fetched asks block) :
    ({ cache with memoryCache, ioQueue := cache.ioQueue ++ blocks } :
      ImageCache Image Handler).Traced serializer found fetched asks where
  memory := by
    intro key image held
    rcases memory key image held with before | genuine
    · exact traced.memory key image before
    · exact genuine
  files := traced.files
  blocks := by
    intro block queued
    rcases List.mem_append.mp queued with before | isNew
    · exact traced.blocks block before
    · exact new block isNew

/-- A fetched image is stored with its data. -/
theorem Traced.store (traced : cache.Traced serializer found fetched asks)
    (isFetched : fetched key image data) :
    (cache.store image (some data) key true).Traced serializer found fetched asks := by
  apply traced.queued
  · intro other held isHeld
    by_cases same : other = key
    · subst same
      have isImage : image = held := by simpa using isHeld
      subst isImage
      exact .inr (.inl ⟨data, isFetched⟩)
    · left
      simpa [same] using isHeld
  · intro block isBlock
    cases List.mem_singleton.mp isBlock
    exact ⟨data, rfl, isFetched⟩

theorem Traced.retrieveImage {handler : Handler}
    (traced : cache.Traced serializer found fetched asks) (asked : asks handler key) :
    (cache.retrieveImage key handler).1.Traced serializer found fetched asks ∧
      ∀ result ∈ (cache.retrieveImage key handler).2,
        Answers serializer found fetched asks result := by
  unfold ImageCache.retrieveImage
  split
  next image held =>
    refine ⟨traced, ?_⟩
    intro result isResult
    cases isResult
    refine ⟨asked, ?_⟩
    intro other isImage
    cases isImage
    exact traced.memory key image held
  next =>
    constructor
    · apply traced.queued
      · intro other held isHeld
        exact .inl isHeld
      · intro block isBlock
        cases List.mem_singleton.mp isBlock
        exact asked
    · intro result isResult
      cases isResult

/-- A block leaves the queue; what it writes into memory and files is of the right kind. -/
theorem Traced.dequeue (traced : cache.Traced serializer found fetched asks)
    {block : IOBlock Image Handler} {blocks : List (IOBlock Image Handler)}
    {memoryCache : String → Option Image} {files : String → Option Data}
    (queue : cache.ioQueue = block :: blocks)
    (memory : ∀ key image, memoryCache key = some image →
      cache.memoryCache key = some image ∨ Genuine serializer found fetched key image)
    (written : ∀ key data, files key = some data →
      cache.files key = some data ∨ Filed serializer found fetched key data) :
    (⟨memoryCache, files, blocks⟩ : ImageCache Image Handler).Traced serializer found fetched
      asks where
  memory := by
    intro key image held
    rcases memory key image held with before | genuine
    · exact traced.memory key image before
    · exact genuine
  files := by
    intro key data held
    rcases written key data held with before | filed
    · exact traced.files key data before
    · exact filed
  blocks := by
    intro other queued
    apply traced.blocks other
    rw [queue]
    exact List.mem_cons_of_mem block queued

theorem Traced.performBlock (traced : cache.Traced serializer found fetched asks)
    {block : IOBlock Image Handler} {blocks : List (IOBlock Image Handler)}
    (queue : cache.ioQueue = block :: blocks) :
    (performBlock serializer { cache with ioQueue := blocks } block).1.Traced serializer found
        fetched asks ∧
      ∀ result ∈ (performBlock serializer { cache with ioQueue := blocks } block).2,
        Answers serializer found fetched asks result := by
  have own : BlockTraced serializer found fetched asks block :=
    traced.blocks block (queue ▸ List.mem_cons_self)
  -- a block of another kind leaves memory alone, and only `createFile` writes a file
  have deletes : ∀ files : String → Option Data,
      (∀ key data, files key = some data →
        cache.files key = some data ∨ Filed serializer found fetched key data) →
      (⟨cache.memoryCache, files, blocks⟩ : ImageCache Image Handler).Traced serializer found
        fetched asks :=
    fun files written => traced.dequeue queue (fun _ _ held => .inl held) written
  cases block with
  | createFile key image original =>
      rcases own with ⟨data, rfl, isFetched⟩
      refine ⟨deletes _ ?_, by simp [ImageCache.performBlock]⟩
      intro other written isWritten
      cases isEncoded : serializer.data image (some data) with
      | some encoded =>
          by_cases same : other = key
          · subst same
            right
            left
            refine ⟨image, data, isFetched, ?_⟩
            simpa [IOBlock.perform, isEncoded] using isWritten
          · left
            simpa [IOBlock.perform, isEncoded, same] using isWritten
      | none =>
          left
          simpa [IOBlock.perform, isEncoded] using isWritten
  | removeItem key =>
      refine ⟨deletes _ ?_, by simp [ImageCache.performBlock]⟩
      intro other data held
      by_cases same : other = key
      · simp [IOBlock.perform, same] at held
      · left
        simpa [IOBlock.perform, same] using held
  | removeAll =>
      refine ⟨deletes _ ?_, by simp [ImageCache.performBlock]⟩
      intro other data held
      cases held
  | removeItems keys =>
      refine ⟨deletes _ ?_, by simp [ImageCache.performBlock]⟩
      intro other data held
      simp only [IOBlock.perform] at held
      split at held
      · cases held
      · exact .inl held
  | retrieve key handler =>
      have rest := deletes cache.files fun _ _ held => .inl held
      cases isFound : (cache.files key).bind serializer.image with
      | some image =>
          have performed : ImageCache.performBlock serializer { cache with ioQueue := blocks }
              (.retrieve key handler) =
                ({ cache with ioQueue := .putBack key handler image :: blocks }, none) := by
            simp [ImageCache.performBlock, diskImage, isFound]
          rcases Option.bind_eq_some_iff.mp isFound with ⟨data, held, reads⟩
          rw [performed]
          refine ⟨⟨rest.memory, rest.files, ?_⟩, by simp⟩
          intro other queued
          rcases List.mem_cons.mp queued with rfl | later
          · exact ⟨own, .inr ⟨data, traced.files key data held, reads⟩⟩
          · exact rest.blocks other later
      | none =>
          have performed : ImageCache.performBlock serializer { cache with ioQueue := blocks }
              (.retrieve key handler) =
                ({ cache with ioQueue := blocks }, some ⟨handler, key, none, .none⟩) := by
            simp [ImageCache.performBlock, diskImage, isFound]
          rw [performed]
          refine ⟨rest, ?_⟩
          intro result isResult
          cases isResult
          exact ⟨own, fun image isImage => by cases isImage⟩
  | putBack key handler image =>
      constructor
      · apply traced.dequeue queue
        · intro other held isHeld
          by_cases same : other = key
          · subst same
            have isImage : image = held := by simpa using isHeld
            subst isImage
            exact .inr own.2
          · left
            simpa [same] using isHeld
        · exact fun _ _ held => .inl held
      · intro result isResult
        cases isResult
        refine ⟨own.1, ?_⟩
        intro other isImage
        cases isImage
        exact own.2

/-- What the cache does by itself. -/
theorem Traced.handle {event : CacheEvent Image Handler}
    {result : Option (CacheResult Image Handler)}
    (traced : cache.Traced serializer found fetched asks)
    (stored : ∀ image original key toDisk, event ≠ .store image original key toDisk)
    (retrieved : ∀ key handler, event ≠ .retrieveImage key handler)
    (handled : cache.handle serializer event = some (next, result)) :
    next.Traced serializer found fetched asks ∧
      ∀ called ∈ result, Answers serializer found fetched asks called := by
  have forgets : ∀ forgotten key image,
      Function.update cache.memoryCache forgotten none key = some image →
        cache.memoryCache key = some image := by
    intro forgotten key image held
    by_cases same : key = forgotten
    · simp [same] at held
    · simpa [same] using held
  have keeps : ∀ {memoryCache : String → Option Image},
      (∀ key image, memoryCache key = some image → cache.memoryCache key = some image) →
      ({ cache with memoryCache } : ImageCache Image Handler).Traced serializer found fetched
        asks :=
    fun kept => ⟨fun key image held => traced.memory key image (kept key image held),
      traced.files, traced.blocks⟩
  cases event with
  | store => exact absurd rfl (stored _ _ _ _)
  | retrieveImage => exact absurd rfl (retrieved _ _)
  | removeImage key fromMemory fromDisk =>
      cases handled
      refine ⟨?_, by simp⟩
      cases fromDisk with
      | true =>
          cases fromMemory with
          | true =>
              exact traced.queued (fun other image held => .inl (forgets key other image held))
                (by simp [BlockTraced])
          | false => exact traced.queued (fun _ _ held => .inl held) (by simp [BlockTraced])
      | false =>
          cases fromMemory with
          | true => exact keeps (forgets key)
          | false => exact traced
  | evict key =>
      cases handled
      exact ⟨keeps (forgets key), by simp⟩
  | clearMemoryCache =>
      cases handled
      refine ⟨keeps ?_, by simp⟩
      intro key image held
      cases held
  | clearDiskCache =>
      cases handled
      exact ⟨traced.queued (fun _ _ held => .inl held) (by simp [BlockTraced]), by simp⟩
  | cleanExpiredDiskCache keys =>
      cases handled
      exact ⟨traced.queued (fun _ _ held => .inl held) (by simp [BlockTraced]), by simp⟩
  | performBlock =>
      cases queue : cache.ioQueue with
      | nil => simp [ImageCache.handle, queue] at handled
      | cons block blocks =>
          simp only [ImageCache.handle, queue, Option.some.injEq] at handled
          have performed := traced.performBlock queue
          rw [handled] at performed
          exact performed

end ImageCache

namespace KingfisherManager

variable {options : ManagerOptions URL Image} {manager after : KingfisherManager URL Image}
  {event : ManagerEvent URL Image} {files : String → Option Data}
  {history : History (KingfisherManager URL Image) (ManagerEvent URL Image)}
  {fetched : String → Image → Data → Prop} {asked : ℕ → URL → Prop} {retrieval : ℕ} {url : URL}

/-- A handler is for the URL its retrieval asked for, and is called for the key of this URL. -/
def Asks (options : ManagerOptions URL Image) (asked : ℕ → URL → Prop) :
    CacheHandler URL → String → Prop
  | .tryToRetrieveImageFromCache retrieval url, key =>
      asked retrieval url ∧ key = options.absoluteString url
  | .notModified retrieval url, key => asked retrieval url ∧ key = options.absoluteString url

/-- An answer to a retrieval, with an image which was fetched. -/
structure Replies (options : ManagerOptions URL Image) (fetched : String → Image → Data → Prop)
    (asked : ℕ → URL → Prop) (answer : Answer URL Image) : Prop where
  asked : asked answer.content.completionHandler answer.url
  fetched : ∀ image data, answer.result = .ok (image, data) →
    fetched (options.absoluteString answer.url) image data

/-- Every image in the manager's reach comes from what was fetched for its key. -/
structure Traced (options : ManagerOptions URL Image) (files : String → Option Data)
    (fetched : String → Image → Data → Prop) (asked : ℕ → URL → Prop)
    (manager : KingfisherManager URL Image) : Prop where
  cache : manager.cache.Traced options.cacheSerializer files fetched (Asks options asked)
  cacheResults : ∀ result ∈ manager.cacheResults,
    ImageCache.Answers options.cacheSerializer files fetched (Asks options asked) result
  answers : ∀ answer ∈ manager.answers, Replies options fetched asked answer
  completed : ∀ retrieval image, (retrieval, some image) ∈ manager.completed →
    ∃ url, asked retrieval url ∧
      ImageCache.Genuine options.cacheSerializer files fetched (options.absoluteString url) image

omit [DecidableEq URL] in
theorem Traced.mono {more : String → Image → Data → Prop} {wanted : ℕ → URL → Prop}
    (traced : manager.Traced options files fetched asked)
    (grown : ∀ key image data, fetched key image data → more key image data)
    (kept : ∀ retrieval url, asked retrieval url → wanted retrieval url) :
    manager.Traced options files more wanted := by
  have keptAsks : ∀ handler key, Asks options asked handler key →
      Asks options wanted handler key := by
    intro handler key asks
    cases handler with
    | tryToRetrieveImageFromCache => exact ⟨kept _ _ asks.1, asks.2⟩
    | notModified => exact ⟨kept _ _ asks.1, asks.2⟩
  constructor
  · exact traced.cache.mono grown keptAsks
  · intro result called
    exact (traced.cacheResults result called).mono grown keptAsks
  · intro answer answered
    have before := traced.answers answer answered
    exact ⟨kept _ _ before.asked,
      fun image data isImage => grown _ _ _ (before.fetched image data isImage)⟩
  · intro retrieval image isCompleted
    rcases traced.completed retrieval image isCompleted with ⟨url, isAsked, genuine⟩
    exact ⟨url, kept _ _ isAsked, genuine.mono grown⟩

omit [DecidableEq URL] in
theorem Traced.complete (traced : manager.Traced options files fetched asked)
    {image : Option Image} (isAsked : asked retrieval url)
    (genuine : ∀ held, image = some held → ImageCache.Genuine options.cacheSerializer files fetched
      (options.absoluteString url) held) :
    (manager.complete retrieval image).Traced options files fetched asked where
  cache := traced.cache
  cacheResults := traced.cacheResults
  answers := traced.answers
  completed := by
    intro other held isCompleted
    rcases List.mem_append.mp isCompleted with before | now
    · exact traced.completed other held before
    · cases List.mem_singleton.mp now
      exact ⟨url, isAsked, genuine held rfl⟩

theorem Traced.downloadAndCacheImage (traced : manager.Traced options files fetched asked)
    (isAsked : asked retrieval url) :
    (manager.downloadAndCacheImage options retrieval url).Traced options files fetched asked := by
  unfold KingfisherManager.downloadAndCacheImage
  split
  · apply traced.complete isAsked
    intro held isHeld
    cases isHeld
  · exact ⟨traced.cache, traced.cacheResults, traced.answers, traced.completed⟩

theorem Traced.handleCacheResult (traced : manager.Traced options files fetched asked)
    {result : CacheResult Image (CacheHandler URL)}
    (answers : ImageCache.Answers options.cacheSerializer files fetched (Asks options asked)
      result) :
    (manager.handleCacheResult options result).Traced options files fetched asked := by
  obtain ⟨handler, key, image, cacheType⟩ := result
  have genuine := answers.genuine
  cases handler with
  | tryToRetrieveImageFromCache retrieval url =>
      rcases answers.asks with ⟨isAsked, rfl⟩
      cases image with
      | some image => exact traced.complete isAsked genuine
      | none => exact traced.downloadAndCacheImage isAsked
  | notModified retrieval url =>
      rcases answers.asks with ⟨isAsked, rfl⟩
      exact traced.complete isAsked genuine

omit [DecidableEq URL] in
/-- The cache changes, and calls handlers later. -/
theorem Traced.withCache (traced : manager.Traced options files fetched asked)
    {cache : ImageCache Image (CacheHandler URL)}
    {results : List (CacheResult Image (CacheHandler URL))}
    (tracedCache : cache.Traced options.cacheSerializer files fetched (Asks options asked))
    (answers : ∀ result ∈ results,
      ImageCache.Answers options.cacheSerializer files fetched (Asks options asked) result) :
    ({ manager with cache, cacheResults := manager.cacheResults ++ results } :
      KingfisherManager URL Image).Traced options files fetched asked where
  cache := tracedCache
  cacheResults := by
    intro result called
    rcases List.mem_append.mp called with before | now
    · exact traced.cacheResults result before
    · exact answers result now
  answers := traced.answers
  completed := traced.completed

theorem Traced.retrieveImage (traced : manager.Traced options files fetched asked)
    (isAsked : asked manager.retrievals.length url) :
    (manager.retrieveImage options url).Traced options files fetched asked := by
  have asks : Asks options asked (.tryToRetrieveImageFromCache manager.retrievals.length url)
      (options.absoluteString url) := ⟨isAsked, rfl⟩
  have retrieved := traced.cache.retrieveImage asks
  unfold KingfisherManager.retrieveImage
  dsimp only
  generalize manager.cache.retrieveImage (options.absoluteString url)
    (.tryToRetrieveImageFromCache manager.retrievals.length url) = called at retrieved
  rcases called with ⟨cache, called⟩
  have queued : ({ manager with retrievals := manager.retrievals ++ [url], cache } :
      KingfisherManager URL Image).Traced options files fetched asked :=
    ⟨retrieved.1, traced.cacheResults, traced.answers, traced.completed⟩
  cases called with
  | some result => exact queued.handleCacheResult (retrieved.2 result rfl)
  | none => exact queued

omit [DecidableEq URL] in
theorem Traced.handleAnswer (traced : manager.Traced options files fetched asked)
    {answer : Answer URL Image} (replies : Replies options fetched asked answer) :
    (manager.handleAnswer options answer).Traced options files fetched asked := by
  unfold KingfisherManager.handleAnswer
  dsimp only
  split
  · have asks : Asks options asked
        (.notModified answer.content.completionHandler answer.url)
        (options.absoluteString answer.url) := ⟨replies.asked, rfl⟩
    have retrieved := traced.cache.retrieveImage asks
    apply traced.withCache retrieved.1
    intro result called
    exact retrieved.2 result (Option.mem_toList.mp called)
  · apply traced.complete replies.asked
    intro held isHeld
    cases isHeld
  next image data isImage =>
    have isFetched := replies.fetched image data isImage
    have stored : ({ manager with
        cache := manager.cache.store image (some data) (options.absoluteString answer.url) true } :
        KingfisherManager URL Image).Traced options files fetched asked :=
      ⟨traced.cache.store isFetched, traced.cacheResults, traced.answers, traced.completed⟩
    apply stored.complete replies.asked
    intro held isHeld
    cases isHeld
    exact .inl ⟨data, isFetched⟩

/-- A step which fetches nothing wrong, and asks for nothing wrong. -/
theorem Traced.next (traced : manager.Traced options files fetched asked)
    (isAsked : ∀ url, event = .retrieveImage url → asked manager.retrievals.length url)
    (replies : ∀ answer ∈ after.downloader.answers.drop manager.downloader.answers.length,
      Replies options fetched asked answer)
    (stepped : manager.next options event = some after) :
    after.Traced options files fetched asked := by
  cases moves_of_next stepped with
  | retrieveImage url => exact traced.retrieveImage (isAsked url rfl)
  | @cacheResult place result occurs =>
      have rest : ({ manager with cacheResults := manager.cacheResults.eraseIdx place } :
          KingfisherManager URL Image).Traced options files fetched asked :=
        ⟨traced.cache,
          fun other called => traced.cacheResults other (List.mem_of_mem_eraseIdx called),
          traced.answers, traced.completed⟩
      apply rest.handleCacheResult
      exact traced.cacheResults result (List.mem_of_getElem? occurs)
  | @answer place answer occurs =>
      have rest : ({ manager with answers := manager.answers.eraseIdx place } :
          KingfisherManager URL Image).Traced options files fetched asked :=
        ⟨traced.cache, traced.cacheResults,
          fun other answered => traced.answers other (List.mem_of_mem_eraseIdx answered),
          traced.completed⟩
      apply rest.handleAnswer
      exact traced.answers answer (List.mem_of_getElem? occurs)
  | cache own handled =>
      have kept := traced.cache.handle
        (by rintro _ _ _ _ rfl; cases own) (by rintro _ _ rfl; cases own) handled
      apply traced.withCache kept.1
      intro called isCalled
      exact kept.2 called (Option.mem_toList.mp isCalled)
  | download own downloaded =>
      refine ⟨traced.cache, traced.cacheResults, ?_, traced.completed⟩
      intro answer answered
      rcases List.mem_append.mp answered with before | now
      · exact traced.answers answer before
      · exact replies answer now

/-- What the downloader answered with. -/
def Fetched (options : ManagerOptions URL Image) (manager : KingfisherManager URL Image)
    (key : String) (image : Image) (data : Data) : Prop :=
  ∃ answer ∈ manager.downloader.answers, options.absoluteString answer.url = key ∧
    answer.result = .ok (image, data)

/-- The URL a retrieval was called with. -/
def Asked (manager : KingfisherManager URL Image) (retrieval : ℕ) (url : URL) : Prop :=
  manager.retrievals[retrieval]? = some url

/-- A request of the downloader is one of the manager's, for the URL of its retrieval. -/
def Sent (options : ManagerOptions URL Image) (manager : KingfisherManager URL Image)
    (request : URL × Content Image) : Prop :=
  ∃ retrieval, manager.Asked retrieval request.1 ∧ request.2 = content options retrieval

omit [DecidableEq URL] in
theorem asked_of_append {more : List URL}
    (retrievals : after.retrievals = manager.retrievals ++ more)
    (isAsked : manager.Asked retrieval url) : after.Asked retrieval url := by
  rw [Asked, retrievals]
  exact List.getElem?_append_left (List.getElem?_eq_some_iff.mp isAsked).1 ▸ isAsked

theorem answers_grow (run : Run (orderly options) (launched files) history manager)
    (step : (orderly options).Step manager event after) :
    after.downloader.answers = manager.downloader.answers ++
      after.downloader.answers.drop manager.downloader.answers.length := by
  have downloaded := downloads_next step.1 step.2
  generalize downloadEvent options manager event = download at downloaded
  cases downloaded with
  | idle same => simp [same]
  | step orderly stepped =>
      exact ImageDownloader.answers_next ((sound_of_run run).moves orderly stepped)

/-- The manager and what it asked of its downloader. -/
structure Tracked (options : ManagerOptions URL Image) (files : String → Option Data)
    (history : History (KingfisherManager URL Image) (ManagerEvent URL Image))
    (manager : KingfisherManager URL Image) : Prop where
  traced : manager.Traced options files (manager.Fetched options) manager.Asked
  sent : ∀ request ∈ ImageDownloader.requests (downloads options history),
    manager.Sent options request

/-- A step keeps the manager's requests for the URLs of their retrievals. -/
theorem sent_next (sent : ∀ request ∈ ImageDownloader.requests (downloads options history),
      manager.Sent options request)
    (traced : manager.Traced options files fetched manager.Asked)
    (stepped : manager.next options event = some after) :
    ∀ request ∈ ImageDownloader.requests (downloads options ((manager, event) :: history)),
      after.Sent options request := by
  have grown := retrievals_next stepped
  intro request requested
  have isSent : manager.Sent options request := by
    cases isDownload : downloadEvent options manager event with
    | none =>
        rw [downloads_cons_of_none isDownload] at requested
        exact sent request requested
    | some download =>
        rw [downloads_cons_of_some isDownload, ImageDownloader.requests, List.map_cons,
          List.sum_cons] at requested
        rcases Multiset.mem_add.mp requested with isNew | before
        · rcases downloadEvent_cases isDownload with
            rfl | ⟨result, called, retrieval, url, isHandler, rfl⟩
          · -- the downloader asks for nothing by itself
            cases moves_of_next stepped with
            | download own downloaded =>
                cases download with
                | downloadImage => cases own
                | _ => cases isNew
          · have isRequest := Multiset.mem_singleton.mp isNew
            subst isRequest
            have asks := (traced.cacheResults result called).asks
            rw [isHandler] at asks
            exact ⟨retrieval, asks.1, rfl⟩
        · exact sent request before
  rcases isSent with ⟨retrieval, isAsked, isContent⟩
  exact ⟨retrieval, asked_of_append grown isAsked, isContent⟩

/-- What the downloader answers, it was asked for. -/
theorem sent_of_answered (run : Run (orderly options) (launched files) history manager)
    (sent : ∀ request ∈ ImageDownloader.requests (downloads options history),
      manager.Sent options request) {answer : Answer URL Image}
    (answered : answer ∈ manager.downloader.answers) :
    manager.Sent options (answer.url, answer.content) := by
  apply sent
  rw [← ImageDownloader.accounted_of_run (downloads_of_run run), ImageDownloader.accounted,
    add_assoc, add_assoc]
  apply Multiset.mem_add.mpr
  left
  exact Multiset.mem_coe.mpr (List.mem_map.mpr ⟨answer, answered, rfl⟩)

theorem replies_of_run (run : Run (orderly options) (launched files) history manager)
    (sent : ∀ request ∈ ImageDownloader.requests (downloads options history),
      manager.Sent options request) :
    ∀ answer ∈ manager.downloader.answers,
      Replies options (manager.Fetched options) manager.Asked answer := by
  intro answer answered
  rcases sent_of_answered run sent answered with ⟨retrieval, isAsked, isContent⟩
  constructor
  · change answer.content = content options retrieval at isContent
    rw [isContent]
    exact isAsked
  · intro image data isImage
    exact ⟨answer, answered, rfl, isImage⟩

theorem tracked_of_run (run : Run (orderly options) (launched files) history manager) :
    Tracked options files history manager := by
  apply run.historyInvariant (motive := Tracked options files)
  · constructor
    · refine ⟨⟨?_, ?_, ?_⟩, ?_, ?_, ?_⟩
      · intro key image held
        cases held
      · intro key data held
        exact .inr held
      · intro block queued
        cases queued
      · intro result called
        cases called
      · intro answer answered
        cases answered
      · intro retrieval image completed
        cases completed
    · intro request requested
      cases requested
  · intro history manager after event run tracked step
    have grown := retrievals_next step.2
    have answers := answers_grow run step
    have sent := sent_next tracked.sent tracked.traced step.2
    refine ⟨?_, sent⟩
    have kept : manager.Traced options files (after.Fetched options) after.Asked := by
      apply tracked.traced.mono
      · rintro key image data ⟨answer, answered, isFetched⟩
        refine ⟨answer, ?_, isFetched⟩
        rw [answers]
        exact List.mem_append_left _ answered
      · intro retrieval url isAsked
        exact asked_of_append grown isAsked
    apply kept.next ?_ ?_ step.2
    · rintro url rfl
      rw [Asked, grown]
      exact List.getElem?_concat_length
    · intro answer isNew
      exact replies_of_run (run.snoc step) sent answer (List.mem_of_mem_drop isNew)

/-- The processor makes the image of all the data which a finished task for the key received. -/
def Downloaded (options : ManagerOptions URL Image)
    (history : History (KingfisherManager URL Image) (ManagerEvent URL Image))
    (manager : KingfisherManager URL Image) (key : String) (image : Image) (data : Data) : Prop :=
  ∃ task url, (manager.downloader.task task).originalRequest = some url ∧
    (manager.downloader.task task).completed = true ∧ options.absoluteString url = key ∧
    data = ImageDownloader.received task (downloads options history) ∧
    options.processor.process data = some image

theorem downloaded_of_fetched (run : Run (orderly options) (launched files) history manager)
    {key : String} {image : Image} {data : Data}
    (isFetched : manager.Fetched options key image data) :
    Downloaded options history manager key image data := by
  have sent := (tracked_of_run run).sent
  rcases isFetched with ⟨answer, answered, rfl, isImage⟩
  rcases sent_of_answered run sent answered with ⟨retrieval, _, isContent⟩
  change answer.content = content options retrieval at isContent
  rcases ImageDownloader.explained_of_run (downloads_of_run run) answer answered with
    ⟨task, _, request, ⟨completed, tells⟩ | ⟨_, isFailure, _⟩ | ⟨_, _, isFailure, _⟩⟩
  · rw [isImage, isContent] at tells
    rcases tells with ⟨same, made, ⟨other, asks, _, processed⟩, modified⟩
    -- whoever made the image, it was with the processor of all
    rcases sent _ asks with ⟨_, _, isOther⟩
    change other = content options _ at isOther
    rw [isOther] at processed
    refine ⟨task, answer.url, request, completed, rfl, same, ?_⟩
    rw [same, modified]
    exact processed
  · rw [isImage] at isFailure
    cases isFailure
  · rw [isImage] at isFailure
    cases isFailure

theorem traced_of_run (run : Run (orderly options) (launched files) history manager) :
    manager.Traced options files (Downloaded options history manager) manager.Asked := by
  apply (tracked_of_run run).traced.mono
  · intro key image data isFetched
    exact downloaded_of_fetched run isFetched
  · exact fun _ _ isAsked => isAsked

/-- Whatever the order of the steps in an orderly run, a retrieval completes with an image of its
own key: one which was made of all the data some task for this key received, or which is read from
a file that holds such an image or was found at launch. -/
theorem completed_genuine (run : Run (orderly options) (launched files) history manager)
    {image : Image} (completed : (retrieval, some image) ∈ manager.completed) :
    ∃ url, manager.retrievals[retrieval]? = some url ∧
      ImageCache.Genuine options.cacheSerializer files (Downloaded options history manager)
        (options.absoluteString url) image := by
  rcases (traced_of_run run).completed retrieval image completed with ⟨url, isAsked, genuine⟩
  exact ⟨url, isAsked, genuine⟩

/-- The image is read from its file after it was evicted. -/
theorem completed_genuine_evicted :
    ∃ (history : History (KingfisherManager String Data) (ManagerEvent String Data))
      (manager : KingfisherManager String Data),
      Run (orderly plain) (launched fun _ => none) history manager ∧
        ∃ url, manager.retrievals[2]? = some url ∧
          ImageCache.Genuine ImageCache.bytes (fun _ => none) (Downloaded plain history manager)
            url [137] := by
  have script := exists_manager_run
    (retrievedTwice ++ [.cache (.evict "sub"), .cache .performBlock, .cache .performBlock,
      .retrieveImage "sub", .cache .performBlock, .cache .performBlock, .cacheResult 0])
    (fun _ manager => decide ((2, some [137]) ∈ manager.completed)) (by decide +kernel)
  rcases script with ⟨history, manager, run, tested⟩
  exact ⟨history, manager, run, completed_genuine run (of_decide_eq_true tested)⟩

end KingfisherManager

end Kingfisher

end OneSecond
