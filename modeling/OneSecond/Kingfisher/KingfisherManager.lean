import OneSecond.Kingfisher.Flights
import OneSecond.Kingfisher.ImageCache

/-!
# Retrieving images (`Kingfisher/Sources/KingfisherManager.swift`)

The manager looks an image up in the cache and downloads what is not there; what
is downloaded is stored under the absolute string of its URL.  `setImage` calls it
without options: with the default processor, whatever is in the cache, and nothing
modified.

Cache and downloader take their steps in any order, and their completion handlers
run some time later.  `system` has all these orders, and responses of every
status; what is proved of the manager is about the `orderly` runs among them, in
which no URL is fetched afresh while a task of it goes on.
-/

namespace OneSecond

namespace Kingfisher

open Runs

variable {URL Image : Type} [DecidableEq URL]

/-- The closures the manager passes to the cache, for a retrieval of the URL. -/
inductive CacheHandler (URL : Type) where
  | tryToRetrieveImageFromCache (retrieval : ℕ) (url : URL)
  /-- After the server answered that its image is not modified. -/
  | notModified (retrieval : ℕ) (url : URL)

/-- What does not change: how images are written and made, and how a URL reads. -/
structure ManagerOptions (URL Image : Type) where
  cacheSerializer : CacheSerializer Image
  processor : ImageProcessor Image
  absoluteString : URL → String

structure KingfisherManager (URL Image : Type) where
  cache : ImageCache Image (CacheHandler URL)
  downloader : ImageDownloader URL Image
  /-- The calls of `retrieveImage` so far.  A retrieval is called by its place. -/
  retrievals : List URL
  /-- Results of the cache and answers of the downloader whose handlers have not run yet. -/
  cacheResults : List (CacheResult Image (CacheHandler URL))
  answers : List (Answer URL Image)
  /-- The calls of the retrievals' own handlers. -/
  completed : List (ℕ × Option Image)

namespace KingfisherManager

variable (options : ManagerOptions URL Image)

def launched (files : String → Option Data) : KingfisherManager URL Image :=
  ⟨.launched files, .new, [], [], [], []⟩

def complete (manager : KingfisherManager URL Image) (retrieval : ℕ) (image : Option Image) :
    KingfisherManager URL Image :=
  { manager with completed := manager.completed ++ [(retrieval, image)] }

/-- A download for a retrieval: with the default processor, and not modified. -/
def content (retrieval : ℕ) : Content Image := ⟨retrieval, options.processor, id⟩

/-- Without a URL to speak of, `downloadImage` fails at once. -/
def downloadAndCacheImage (manager : KingfisherManager URL Image) (retrieval : ℕ) (url : URL) :
    KingfisherManager URL Image :=
  if (options.absoluteString url).isEmpty then manager.complete retrieval none
  else { manager with downloader := manager.downloader.setup url (content options retrieval) }

/-- The closures passed to the cache. -/
def handleCacheResult (manager : KingfisherManager URL Image)
    (result : CacheResult Image (CacheHandler URL)) : KingfisherManager URL Image :=
  match result.completionHandler with
  | .tryToRetrieveImageFromCache retrieval url =>
      match result.image with
      | some image => manager.complete retrieval (some image)
      | none => manager.downloadAndCacheImage options retrieval url
  | .notModified retrieval _ => manager.complete retrieval result.image

/-- An image in memory is handed over at once. -/
def retrieveImage (manager : KingfisherManager URL Image) (url : URL) :
    KingfisherManager URL Image :=
  let retrieval := manager.retrievals.length
  let manager := { manager with retrievals := manager.retrievals ++ [url] }
  match manager.cache.retrieveImage (options.absoluteString url)
      (.tryToRetrieveImageFromCache retrieval url) with
  | (cache, some result) => { manager with cache }.handleCacheResult options result
  | (cache, none) => { manager with cache }

/-- The closure passed to the downloader. -/
def handleAnswer (manager : KingfisherManager URL Image) (answer : Answer URL Image) :
    KingfisherManager URL Image :=
  let retrieval := answer.content.completionHandler
  let key := options.absoluteString answer.url
  match answer.result with
  | .error .notModified =>
      -- told on the process queue, so that also a hit in memory is handed over later
      let (cache, result) := manager.cache.retrieveImage key (.notModified retrieval answer.url)
      { manager with cache, cacheResults := manager.cacheResults ++ result.toList }
  | .error _ => manager.complete retrieval none
  | .ok (image, originalData) =>
      let cache := manager.cache.store image (some originalData) key true
      { manager with cache }.complete retrieval (some image)

end KingfisherManager

inductive ManagerEvent (URL Image : Type) where
  | retrieveImage (url : URL)
  /-- A handler passed to the cache runs. -/
  | cacheResult (place : ℕ)
  /-- A handler passed to the downloader runs. -/
  | answer (place : ℕ)
  | cache (event : CacheEvent Image (CacheHandler URL))
  | download (event : DownloadEvent URL Image)

/-- What happens without the callers of the manager. -/
def ManagerEvent.Own : ManagerEvent URL Image → Bool
  | .retrieveImage _ => false
  | .download (.cancelDownloadingTask _) => false
  | _ => true

namespace KingfisherManager

/-- Images are stored and retrieved by the manager only. -/
def CacheOwn : CacheEvent Image (CacheHandler URL) → Bool
  | .store _ _ _ _ => false
  | .retrieveImage _ _ => false
  | _ => true

/-- Downloads are asked for by the manager only. -/
def DownloadOwn : DownloadEvent URL Image → Bool
  | .downloadImage _ _ => false
  | _ => true

def next (options : ManagerOptions URL Image) (manager : KingfisherManager URL Image) :
    ManagerEvent URL Image → Option (KingfisherManager URL Image)
  | .retrieveImage url => some (manager.retrieveImage options url)
  | .cacheResult place =>
      match manager.cacheResults[place]? with
      | some result =>
          some (handleCacheResult options
            { manager with cacheResults := manager.cacheResults.eraseIdx place } result)
      | none => none
  | .answer place =>
      match manager.answers[place]? with
      | some answer =>
          some (handleAnswer options
            { manager with answers := manager.answers.eraseIdx place } answer)
      | none => none
  | .cache event =>
      if CacheOwn event then
        match manager.cache.handle options.cacheSerializer event with
        | some (cache, result) =>
            some { manager with
              cache, cacheResults := manager.cacheResults ++ result.toList }
        | none => none
      else none
  | .download event =>
      if DownloadOwn event then
        match manager.downloader.next event with
        | some downloader =>
            some { manager with
              downloader
              answers := manager.answers ++
                downloader.answers.drop manager.downloader.answers.length }
        | none => none
      else none

/-- The manager under every order of calls, cache and downloads. -/
def system (options : ManagerOptions URL Image) :
    System (KingfisherManager URL Image) (ManagerEvent URL Image) where
  Step manager event after := manager.next options event = some after

/-- The downloader makes a load only while its URL is idle. -/
def Orderly (manager : KingfisherManager URL Image) : ManagerEvent URL Image → Prop
  | .download event => manager.downloader.Orderly event
  | _ => True

instance (manager : KingfisherManager URL Image) : DecidablePred manager.Orderly
  | .download event => inferInstanceAs (Decidable (manager.downloader.Orderly event))
  | .retrieveImage _ => .isTrue trivial
  | .cacheResult _ => .isTrue trivial
  | .answer _ => .isTrue trivial
  | .cache _ => .isTrue trivial

/-- The manager in orderly runs. -/
def orderly (options : ManagerOptions URL Image) :
    System (KingfisherManager URL Image) (ManagerEvent URL Image) :=
  (system options).restrict Orderly

end KingfisherManager

end Kingfisher

end OneSecond
