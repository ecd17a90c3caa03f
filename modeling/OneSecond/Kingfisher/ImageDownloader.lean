import OneSecond.Dictionaries
import OneSecond.Runs.History

/-!
# Downloading images (`Kingfisher/Sources/ImageDownloader.swift`)

A downloader keeps one `ImageFetchLoad` for every URL being fetched; requests
for the URL join it, and its one data task answers them all.  Requests, the
session's delegate calls, the blocks of the process queue and those of the
cancel queue run on different queues and meet only in the barrier sections, so
the sections are the steps: `DownloadEvent` lists them, and `next` is what each
does, with responses of every status.  Calls on the main queue are one step each,
also where they look a load up and change it later: as long as no URL is fetched
afresh while a refused task of it goes on, all that another queue can do to the
load in between is let a request join it, or finish it after a `setup` has looked
it up, and either might as well come after the call.

The loads are objects: the dictionary holds references, and a load which was
removed from it may still be read by a block which captured it.  The parts of a
request which are left out do not reach this state: its progress block,
priority, time-out and modifier, the download delegate, the callback queue and
background decoding.
-/

namespace OneSecond

namespace Kingfisher

open Runs

abbrev Data := List UInt8

/-- `ImageProcessor`: what it is called, and what image it makes of some data. -/
structure ImageProcessor (Image : Type) where
  identifier : String
  process : Data → Option Image

/-- A callback waiting for a download, and the options it came with. -/
structure Content (Image : Type) where
  /-- The caller the completion handler belongs to. -/
  completionHandler : ℕ
  processor : ImageProcessor Image
  imageModifier : Image → Image

inductive DownloadError where
  | badData
  | notModified
  | invalidStatusCode (statusCode : ℤ)
  /-- An error of the URL session, such as a time-out or a cancellation. -/
  | session (code : ℤ)
  deriving DecidableEq, Repr

/-- A call of a completion handler. -/
structure Answer (URL Image : Type) where
  content : Content Image
  url : URL
  result : Except DownloadError (Image × Data)

structure ImageFetchLoad (Image : Type) where
  contents : List (Content Image)
  responseData : Data
  downloadTaskCount : ℤ
  /-- The data task of `downloadTask`. -/
  downloadTask : Option ℕ
  /-- The value of the semaphore, once it is made. -/
  cancelSemaphore : Option ℕ

namespace ImageFetchLoad

def new {Image : Type} : ImageFetchLoad Image := ⟨[], [], 0, none, none⟩

end ImageFetchLoad

structure DataTask (URL : Type) where
  originalRequest : Option URL
  statusCode : Option ℤ
  completed : Bool

/-- A block of `cancelQueue`: it waits for the semaphore of a load, and then goes on to prepare
the request.  The queue is taken to be free as soon as the block has passed the semaphore. -/
structure CancelBlock (URL Image : Type) where
  fetchLoad : ℕ
  url : URL
  content : Content Image

/-- A block of `processQueue`, for a task which completed; from its first barrier section on it
holds a load. -/
structure ProcessBlock (URL : Type) where
  task : ℕ
  url : URL
  fetchLoad : Option ℕ

structure ImageDownloader (URL Image : Type) where
  fetchLoads : AList fun _ : URL => ℕ
  /-- The loads made so far. -/
  load : ℕ → ImageFetchLoad Image
  loads : ℕ
  /-- The data tasks resumed so far. -/
  task : ℕ → DataTask URL
  tasks : ℕ
  /-- Whether the session handler holds the downloader. -/
  downloadHolder : Bool
  /-- Requests on their way to `prepareFetchLoad`. -/
  preparing : List (URL × Content Image)
  /-- A serial queue: only its first block runs. -/
  cancelQueue : List (CancelBlock URL Image)
  /-- A concurrent queue. -/
  processQueue : List (ProcessBlock URL)
  answers : List (Answer URL Image)

namespace ImageDownloader

variable {URL Image : Type} [DecidableEq URL]

/-- `ImageDownloader(name:)`. -/
def new : ImageDownloader URL Image where
  fetchLoads := ∅
  load := fun _ => .new
  loads := 0
  task := fun _ => ⟨none, none, false⟩
  tasks := 0
  downloadHolder := false
  preparing := []
  cancelQueue := []
  processQueue := []
  answers := []

def fetchLoad (downloader : ImageDownloader URL Image) (url : URL) : Option ℕ :=
  downloader.fetchLoads.lookup url

def setLoad (downloader : ImageDownloader URL Image) (reference : ℕ)
    (load : ImageFetchLoad Image) : ImageDownloader URL Image :=
  { downloader with load := Function.update downloader.load reference load }

def setTask (downloader : ImageDownloader URL Image) (reference : ℕ) (task : DataTask URL) :
    ImageDownloader URL Image :=
  { downloader with task := Function.update downloader.task reference task }

/-- `setup`: a request for a URL whose load has nobody left waits on the cancel queue until that
load has failed; any other goes on. -/
def setup (downloader : ImageDownloader URL Image) (url : URL) (content : Content Image) :
    ImageDownloader URL Image :=
  match downloader.fetchLoad url with
  | some reference =>
      let load := downloader.load reference
      if load.downloadTaskCount = 0 then
        let downloader :=
          downloader.setLoad reference { load with
            cancelSemaphore := some (load.cancelSemaphore.getD 0) }
        { downloader with
          cancelQueue := downloader.cancelQueue ++ [⟨reference, url, content⟩] }
      else { downloader with preparing := downloader.preparing ++ [(url, content)] }
  | none => { downloader with preparing := downloader.preparing ++ [(url, content)] }

/-- The closure `started` of `downloadImage`: the first request for a load resumes its task. -/
def started (downloader : ImageDownloader URL Image) (url : URL) (reference : ℕ) :
    ImageDownloader URL Image :=
  let load := downloader.load reference
  match load.downloadTask with
  | some _ =>
      downloader.setLoad reference { load with
        downloadTaskCount := load.downloadTaskCount + 1 }
  | none =>
      let downloader := downloader.setLoad reference { load with
        downloadTask := some downloader.tasks
        downloadTaskCount := load.downloadTaskCount + 1 }
      let downloader := downloader.setTask downloader.tasks ⟨some url, none, false⟩
      { downloader with tasks := downloader.tasks + 1, downloadHolder := true }

/-- The barrier section of `prepareFetchLoad`. -/
def prepareFetchLoad (downloader : ImageDownloader URL Image) (url : URL)
    (content : Content Image) : ImageDownloader URL Image :=
  match downloader.fetchLoad url with
  | some reference =>
      let load := downloader.load reference
      let downloader := downloader.setLoad reference { load with
        contents := load.contents ++ [content] }
      downloader.started url reference
  | none =>
      let reference := downloader.loads
      let load : ImageFetchLoad Image := .new
      let load := { load with contents := [content] }
      let downloader := downloader.setLoad reference load
      let downloader := { downloader with
        loads := downloader.loads + 1
        fetchLoads := downloader.fetchLoads.insert url reference }
      downloader.started url reference

/-- `cancelDownloadingTask`: the last one to cancel cancels the data task itself, which shows
later, in how the task completes. -/
def cancelDownloadingTask (downloader : ImageDownloader URL Image) (task : ℕ) :
    ImageDownloader URL Image :=
  match (downloader.task task).originalRequest.bind downloader.fetchLoad with
  | some reference =>
      let load := downloader.load reference
      downloader.setLoad reference { load with downloadTaskCount := load.downloadTaskCount - 1 }
  | none => downloader

def cleanFetchLoad (downloader : ImageDownloader URL Image) (url : URL) :
    ImageDownloader URL Image :=
  if downloader.downloadHolder then
    let downloader := { downloader with fetchLoads := downloader.fetchLoads.erase url }
    if downloader.fetchLoads.entries.isEmpty then { downloader with downloadHolder := false }
    else downloader
  else downloader

/-- The loop over `signal()`: it wakes the block which waits, if one does, and signals once
more. -/
def signalled (downloader : ImageDownloader URL Image) (reference : ℕ) (value : ℕ) : ℕ :=
  match downloader.cancelQueue with
  | block :: _ => if block.fetchLoad = reference then value + 2 else value + 1
  | [] => value + 1

def failure (error : DownloadError) (url : URL) (content : Content Image) : Answer URL Image :=
  ⟨content, url, .error error⟩

def callCompletionHandlerFailure (downloader : ImageDownloader URL Image) (error : DownloadError)
    (url : URL) : ImageDownloader URL Image :=
  if downloader.downloadHolder then
    match downloader.fetchLoad url with
    | some reference =>
        let downloader := downloader.cleanFetchLoad url
        let load := downloader.load reference
        let downloader := downloader.setLoad reference { load with
          cancelSemaphore := load.cancelSemaphore.map (downloader.signalled reference) }
        { downloader with
          answers := downloader.answers ++ load.contents.map (failure error url) }
    | none => downloader
  else downloader

/-- Without an image, a response of status 304 is told apart from bad data. -/
def noImage (statusCode : Option ℤ) : DownloadError :=
  if statusCode = some 304 then .notModified else .badData

def result (content : Content Image) (statusCode : Option ℤ) (data : Data) :
    Option Image → Except DownloadError (Image × Data)
  | some image => .ok (content.imageModifier image, data)
  | none => .error (noImage statusCode)

/-- The loop of `processImage` over the contents: a processor's image is kept, under the
processor's identifier, for the contents which come later. -/
def processContents (url : URL) (statusCode : Option ℤ) (data : Data) :
    List (String × Image) → List (Content Image) → List (Answer URL Image)
  | _, [] => []
  | imageCache, content :: contents =>
      match imageCache.lookup content.processor.identifier with
      | some image =>
          ⟨content, url, result content statusCode data (some image)⟩ ::
            processContents url statusCode data imageCache contents
      | none =>
          match content.processor.process data with
          | some image =>
              ⟨content, url, result content statusCode data (some image)⟩ ::
                processContents url statusCode data
                  ((content.processor.identifier, image) :: imageCache) contents
          | none =>
              ⟨content, url, result content statusCode data none⟩ ::
                processContents url statusCode data imageCache contents

/-- `isValidStatusCode`, as the downloader itself implements it. -/
def isValidStatusCode (statusCode : ℤ) : Bool :=
  200 ≤ statusCode && statusCode < 400

def didReceiveResponse (downloader : ImageDownloader URL Image) (task : ℕ)
    (statusCode : Option ℤ) : ImageDownloader URL Image :=
  let downloader := downloader.setTask task { downloader.task task with statusCode }
  if downloader.downloadHolder then
    match statusCode, (downloader.task task).originalRequest with
    | some statusCode, some url =>
        if isValidStatusCode statusCode then downloader
        else downloader.callCompletionHandlerFailure (.invalidStatusCode statusCode) url
    | _, _ => downloader
  else downloader

def didReceiveData (downloader : ImageDownloader URL Image) (task : ℕ) (data : Data) :
    ImageDownloader URL Image :=
  if downloader.downloadHolder then
    match (downloader.task task).originalRequest.bind downloader.fetchLoad with
    | some reference =>
        let load := downloader.load reference
        downloader.setLoad reference { load with responseData := load.responseData ++ data }
    | none => downloader
  else downloader

/-- `processImage`, up to the block it hands to the process queue. -/
def processImage (downloader : ImageDownloader URL Image) (task : ℕ) (url : URL) :
    ImageDownloader URL Image :=
  if downloader.downloadHolder then
    { downloader with processQueue := downloader.processQueue ++ [⟨task, url, none⟩] }
  else downloader

def didCompleteWithError (downloader : ImageDownloader URL Image) (task : ℕ)
    (error : Option ℤ) : ImageDownloader URL Image :=
  let downloader := downloader.setTask task { downloader.task task with completed := true }
  match (downloader.task task).originalRequest with
  | none => downloader
  | some url =>
      match error with
      | some code => downloader.callCompletionHandlerFailure (.session code) url
      | none => downloader.processImage task url

/-- The first barrier section of a block: it looks its load up, and is done without one. -/
def fetch (downloader : ImageDownloader URL Image) (place : ℕ) (block : ProcessBlock URL) :
    ImageDownloader URL Image :=
  match downloader.fetchLoad block.url with
  | some reference =>
      { downloader with
        processQueue :=
          downloader.processQueue.set place { block with fetchLoad := some reference } }
  | none => { downloader with processQueue := downloader.processQueue.eraseIdx place }

/-- The rest of the block: the load is cleaned up, and its callbacks are answered. -/
def process (downloader : ImageDownloader URL Image) (place : ℕ) (block : ProcessBlock URL)
    (reference : ℕ) : ImageDownloader URL Image :=
  let downloader := downloader.cleanFetchLoad block.url
  let load := downloader.load reference
  { downloader with
    processQueue := downloader.processQueue.eraseIdx place
    answers := downloader.answers ++
      processContents block.url (downloader.task block.task).statusCode load.responseData []
        load.contents }

end ImageDownloader

inductive DownloadEvent (URL Image : Type) where
  | downloadImage (url : URL) (content : Content Image)
  /-- A request enters its barrier section; several may be on their way. -/
  | prepareFetchLoad (place : ℕ)
  /-- The first block of the cancel queue passes its semaphore. -/
  | resume
  | cancelDownloadingTask (task : ℕ)
  | didReceiveResponse (task : ℕ) (statusCode : Option ℤ)
  | didReceiveData (task : ℕ) (data : Data)
  | didCompleteWithError (task : ℕ) (error : Option ℤ)
  | fetch (place : ℕ)
  | process (place : ℕ)

namespace ImageDownloader

variable {URL Image : Type} [DecidableEq URL]

/-- The session calls its delegate for a task until it has completed. -/
def Live (downloader : ImageDownloader URL Image) (task : ℕ) : Prop :=
  task < downloader.tasks ∧ (downloader.task task).completed = false

instance (downloader : ImageDownloader URL Image) (task : ℕ) : Decidable (downloader.Live task) :=
  inferInstanceAs (Decidable (_ ∧ _))

/-- A block passes a semaphore with a positive value, and one which is gone. -/
def passes (downloader : ImageDownloader URL Image) (block : CancelBlock URL Image) : Bool :=
  (downloader.load block.fetchLoad).cancelSemaphore ≠ some 0

def next (downloader : ImageDownloader URL Image) :
    DownloadEvent URL Image → Option (ImageDownloader URL Image)
  | .downloadImage url content => some (downloader.setup url content)
  | .prepareFetchLoad place =>
      match downloader.preparing[place]? with
      | some (url, content) =>
          some (({ downloader with
            preparing := downloader.preparing.eraseIdx place } : ImageDownloader URL Image)
              |>.prepareFetchLoad url content)
      | none => none
  | .resume =>
      match downloader.cancelQueue with
      | block :: blocks =>
          if downloader.passes block then
            let load := downloader.load block.fetchLoad
            let downloader := downloader.setLoad block.fetchLoad { load with
              cancelSemaphore := none }
            some { downloader with
              cancelQueue := blocks
              preparing := downloader.preparing ++ [(block.url, block.content)] }
          else none
      | [] => none
  | .cancelDownloadingTask task =>
      if task < downloader.tasks then some (downloader.cancelDownloadingTask task) else none
  | .didReceiveResponse task statusCode =>
      if downloader.Live task then some (downloader.didReceiveResponse task statusCode) else none
  | .didReceiveData task data =>
      if downloader.Live task then some (downloader.didReceiveData task data) else none
  | .didCompleteWithError task error =>
      if downloader.Live task then some (downloader.didCompleteWithError task error) else none
  | .fetch place =>
      match downloader.processQueue[place]? with
      | some block =>
          if block.fetchLoad = none then some (downloader.fetch place block) else none
      | none => none
  | .process place =>
      match downloader.processQueue[place]? with
      | some block =>
          match block.fetchLoad with
          | some reference => some (downloader.process place block reference)
          | none => none
      | none => none

end ImageDownloader

/-- The downloader under every order of its steps. -/
def downloads (URL Image : Type) [DecidableEq URL] :
    System (ImageDownloader URL Image) (DownloadEvent URL Image) where
  Step downloader event after := downloader.next event = some after

end Kingfisher

end OneSecond
