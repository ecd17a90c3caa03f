import OneSecond.Kingfisher.ImageDownloader

/-!
# Which downloads are under way

A task whose response was refused goes on without a load.  As long as nobody
fetches its URL afresh meanwhile (`Orderly`) it does no harm: a load is in the
dictionary only as long as its data task, or the process block of that task, is
under way, and no two tasks of a URL run at a time (`Sound`).  This is what single
sections of the downloader rely on and do not check.
-/

namespace OneSecond

namespace Kingfisher

open Runs Dictionaries

variable {URL Image : Type} [DecidableEq URL]

namespace ImageDownloader

variable {downloader after : ImageDownloader URL Image} {url : URL} {reference task place : ℕ}
  {event : DownloadEvent URL Image}

/-- No task of the URL runs, and none waits to be processed. -/
def Idle (downloader : ImageDownloader URL Image) (url : URL) : Prop :=
  (∀ task < downloader.tasks, (downloader.task task).completed = false →
    (downloader.task task).originalRequest ≠ some url) ∧
  ∀ block ∈ downloader.processQueue, block.url ≠ url

instance (downloader : ImageDownloader URL Image) (url : URL) : Decidable (downloader.Idle url) :=
  inferInstanceAs (Decidable (_ ∧ _))

/-- A request makes a load only while its URL is idle. -/
def Orderly (downloader : ImageDownloader URL Image) : DownloadEvent URL Image → Prop
  | .prepareFetchLoad place => ∀ request ∈ downloader.preparing[place]?,
      downloader.fetchLoad request.1 = none → downloader.Idle request.1
  | _ => True

instance (downloader : ImageDownloader URL Image) : DecidablePred downloader.Orderly
  | .prepareFetchLoad place =>
      inferInstanceAs (Decidable (∀ request ∈ downloader.preparing[place]?, _))
  | .downloadImage _ _ => .isTrue trivial
  | .resume => .isTrue trivial
  | .cancelDownloadingTask _ => .isTrue trivial
  | .didReceiveResponse _ _ => .isTrue trivial
  | .didReceiveData _ _ => .isTrue trivial
  | .didCompleteWithError _ _ => .isTrue trivial
  | .fetch _ => .isTrue trivial
  | .process _ => .isTrue trivial

omit [DecidableEq URL] in
theorem setTask_task_self (ended : DataTask URL) :
    (downloader.setTask task ended).task task = ended := by
  simp [setTask]

omit [DecidableEq URL] in
/-- What runs after a task has ended is another task, and ran before. -/
theorem running_of_ended {other : ℕ} (runs : (Function.update downloader.task task
      { downloader.task task with completed := true } other).completed = false) :
    other ≠ task ∧ (downloader.task other).completed = false := by
  have differs : other ≠ task := by
    rintro rfl
    simp at runs
  exact ⟨differs, by simpa [differs] using runs⟩

theorem cleanFetchLoad_eq (held : downloader.downloadHolder = true) :
    downloader.cleanFetchLoad url =
      { downloader with
        fetchLoads := downloader.fetchLoads.erase url
        downloadHolder := !(downloader.fetchLoads.erase url).entries.isEmpty } := by
  unfold cleanFetchLoad
  cases empty : (downloader.fetchLoads.erase url).entries.isEmpty with
  | true => simp [held, empty]
  | false => simp [held, empty]

theorem callCompletionHandlerFailure_eq (held : downloader.downloadHolder = true)
    (found : downloader.fetchLoad url = some reference) (error : DownloadError) :
    downloader.callCompletionHandlerFailure error url =
      { downloader with
        fetchLoads := downloader.fetchLoads.erase url
        downloadHolder := !(downloader.fetchLoads.erase url).entries.isEmpty
        load := Function.update downloader.load reference
          { downloader.load reference with
            cancelSemaphore :=
              (downloader.load reference).cancelSemaphore.map (downloader.signalled reference) }
        answers := downloader.answers ++
          (downloader.load reference).contents.map (failure error url) } := by
  simp only [callCompletionHandlerFailure, held, if_true, found, cleanFetchLoad_eq held]
  rfl

theorem callCompletionHandlerFailure_of_unknown (unknown : downloader.fetchLoad url = none)
    (error : DownloadError) : downloader.callCompletionHandlerFailure error url = downloader := by
  simp [callCompletionHandlerFailure, unknown]

theorem prepareFetchLoad_of_found (content : Content Image)
    (found : downloader.fetchLoad url = some reference)
    (started : (downloader.load reference).downloadTask = some task) :
    downloader.prepareFetchLoad url content =
      downloader.setLoad reference { downloader.load reference with
        contents := (downloader.load reference).contents ++ [content]
        downloadTaskCount := (downloader.load reference).downloadTaskCount + 1 } := by
  simp [prepareFetchLoad, found, ImageDownloader.started, setLoad, started]

theorem prepareFetchLoad_of_new (content : Content Image)
    (new : downloader.fetchLoad url = none) :
    downloader.prepareFetchLoad url content =
      { downloader with
        fetchLoads := downloader.fetchLoads.insert url downloader.loads
        load := Function.update downloader.load downloader.loads
          ⟨[content], [], 1, some downloader.tasks, none⟩
        loads := downloader.loads + 1
        task := Function.update downloader.task downloader.tasks ⟨some url, none, false⟩
        tasks := downloader.tasks + 1
        downloadHolder := true } := by
  simp [prepareFetchLoad, new, ImageDownloader.started, setLoad, setTask, ImageFetchLoad.new]

/-- A running task is the only one of its URL, and the load of the URL, if there is one, is its
own. -/
structure Flight (downloader : ImageDownloader URL Image) (task : ℕ) (url : URL) : Prop where
  request : (downloader.task task).originalRequest = some url
  load : ∀ reference, downloader.fetchLoad url = some reference →
    (downloader.load reference).downloadTask = some task
  blocks : ∀ block ∈ downloader.processQueue, block.url ≠ url
  alone : ∀ other, downloader.Live other → (downloader.task other).originalRequest = some url →
    other = task

theorem Flight.url_eq {other : URL} (flight : downloader.Flight task url)
    (request : (downloader.task task).originalRequest = some other) : url = other :=
  Option.some.inj (flight.request.symm.trans request)

/-- The dictionary, the tasks and the process queue agree on which downloads are under way. -/
structure Sound (downloader : ImageDownloader URL Image) : Prop where
  holder : downloader.downloadHolder = !downloader.fetchLoads.entries.isEmpty
  registered : ∀ url reference, downloader.fetchLoad url = some reference →
    reference < downloader.loads ∧ ∃ task, (downloader.load reference).downloadTask = some task ∧
      task < downloader.tasks ∧ (downloader.task task).originalRequest = some url ∧
      ((downloader.task task).completed = true → ∃ block ∈ downloader.processQueue, block.url = url)
  live : ∀ task, downloader.Live task → ∃ url, downloader.Flight task url
  blocks : ∀ block ∈ downloader.processQueue,
    (∀ reference, downloader.fetchLoad block.url = some reference →
      (downloader.load reference).downloadTask = some block.task) ∧
    ∀ fetched ∈ block.fetchLoad, downloader.fetchLoad block.url = some fetched
  distinct : downloader.processQueue.Pairwise fun block other => block.url ≠ other.url

theorem sound_new : (new : ImageDownloader URL Image).Sound where
  holder := rfl
  registered := by
    intro url reference found
    simp [new, fetchLoad] at found
  live := by
    rintro task ⟨resumed, _⟩
    simp [new] at resumed
  blocks := by simp [new]
  distinct := by simp [new]

/-- Sections which register nothing, resume no task and queue no block. -/
theorem Sound.shrink (sound : downloader.Sound)
    (holder : after.downloadHolder = !after.fetchLoads.entries.isEmpty)
    (fetchLoads : ∀ url reference, after.fetchLoad url = some reference →
      downloader.fetchLoad url = some reference)
    (loads : after.loads = downloader.loads) (tasks : after.tasks = downloader.tasks)
    (downloadTask : ∀ reference,
      (after.load reference).downloadTask = (downloader.load reference).downloadTask)
    (request : ∀ task,
      (after.task task).originalRequest = (downloader.task task).originalRequest)
    (completed : ∀ task, (after.task task).completed = false →
      (downloader.task task).completed = false)
    (remaining : after.processQueue.Sublist downloader.processQueue)
    (queued : ∀ url reference task, after.fetchLoad url = some reference →
      (downloader.load reference).downloadTask = some task → (after.task task).completed = true →
        ∃ block ∈ after.processQueue, block.url = url)
    (looked : ∀ block ∈ after.processQueue, ∀ fetched ∈ block.fetchLoad,
      after.fetchLoad block.url = some fetched) : after.Sound where
  holder := holder
  registered := by
    intro url reference found
    rcases sound.registered url reference (fetchLoads url reference found) with
      ⟨made, task, isTask, resumed, asked, _⟩
    rw [loads, tasks, downloadTask]
    exact ⟨made, task, isTask, resumed, (request task).trans asked,
      queued url reference task found isTask⟩
  live := by
    have wasLive : ∀ task, after.Live task → downloader.Live task := by
      rintro task ⟨resumed, running⟩
      rw [tasks] at resumed
      exact ⟨resumed, completed task running⟩
    intro task running
    rcases sound.live task (wasLive task running) with ⟨url, flight⟩
    refine ⟨url, (request task).trans flight.request, ?_, ?_, ?_⟩
    · intro reference found
      rw [downloadTask]
      exact flight.load reference (fetchLoads url reference found)
    · intro block isQueued
      exact flight.blocks block (remaining.subset isQueued)
    · intro other runs asked
      rw [request] at asked
      exact flight.alone other (wasLive other runs) asked
  blocks := by
    intro block isQueued
    refine ⟨?_, looked block isQueued⟩
    intro reference found
    rw [downloadTask]
    exact (sound.blocks block (remaining.subset isQueued)).1 reference
      (fetchLoads block.url reference found)
  distinct := sound.distinct.sublist remaining

/-- Sections which leave the dictionary, the tasks of the loads and the process queue alone. -/
theorem Sound.of_eq (sound : downloader.Sound)
    (fetchLoads : after.fetchLoads = downloader.fetchLoads)
    (loads : after.loads = downloader.loads) (tasks : after.tasks = downloader.tasks)
    (downloadTask : ∀ reference,
      (after.load reference).downloadTask = (downloader.load reference).downloadTask)
    (request : ∀ task,
      (after.task task).originalRequest = (downloader.task task).originalRequest)
    (completed : ∀ task, (after.task task).completed = (downloader.task task).completed)
    (holder : after.downloadHolder = downloader.downloadHolder)
    (processQueue : after.processQueue = downloader.processQueue) : after.Sound := by
  have same : ∀ url, after.fetchLoad url = downloader.fetchLoad url := by
    intro url
    rw [fetchLoad, fetchLoad, fetchLoads]
  apply sound.shrink (by rw [holder, fetchLoads, sound.holder]) ?_ loads tasks downloadTask request
  · intro task running
    rwa [← completed]
  · rw [processQueue]
  · intro url reference task found isTask ended
    rw [same] at found
    rw [completed] at ended
    rw [processQueue]
    rcases sound.registered url reference found with ⟨_, other, isOther, _, _, queued⟩
    rw [isTask, Option.some.injEq] at isOther
    rw [← isOther] at queued
    exact queued ended
  · intro block isQueued fetched looked
    rw [processQueue] at isQueued
    rw [same]
    exact (sound.blocks block isQueued).2 fetched looked
  · intro url reference found
    rwa [same] at found

/-- A load belongs to the URL its task was made for. -/
theorem Sound.url_eq (sound : downloader.Sound) {other : URL} {found : ℕ}
    (here : downloader.fetchLoad url = some reference)
    (there : downloader.fetchLoad other = some found)
    (same : (downloader.load reference).downloadTask = (downloader.load found).downloadTask) :
    url = other := by
  rcases sound.registered url reference here with ⟨_, task, isTask, _, request, _⟩
  rcases sound.registered other found there with ⟨_, otherTask, isOther, _, otherRequest, _⟩
  rw [isTask, isOther, Option.some.injEq] at same
  rw [same, otherRequest, Option.some.injEq] at request
  exact request.symm

/-- The downloader is held as long as anything is registered. -/
theorem Sound.held (sound : downloader.Sound) (found : downloader.fetchLoad url = some reference) :
    downloader.downloadHolder = true := by
  rw [sound.holder]
  have present := mem_entries_iff.mpr found
  cases entries : downloader.fetchLoads.entries with
  | nil => simp [entries] at present
  | cons entry rest => rfl

/-- Nothing is registered while the downloader is not held. -/
theorem Sound.unknown (sound : downloader.Sound) (left : downloader.downloadHolder = false)
    (url : URL) : downloader.fetchLoad url = none := by
  rw [Option.eq_none_iff_forall_ne_some]
  intro reference found
  rw [sound.held found] at left
  cases left

/-- The task of a load is on its way for the URL of the load. -/
theorem Sound.flight (sound : downloader.Sound) (running : downloader.Live task)
    (found : downloader.fetchLoad url = some reference)
    (isTask : (downloader.load reference).downloadTask = some task) :
    downloader.Flight task url := by
  rcases sound.registered url reference found with ⟨_, other, isOther, _, request, _⟩
  rw [isTask, Option.some.injEq] at isOther
  subst isOther
  rcases sound.live task running with ⟨flown, flight⟩
  cases flight.url_eq request
  exact flight

/-- A task of a load has completed if and only if its block is queued. -/
theorem Sound.completed_iff (sound : downloader.Sound)
    (found : downloader.fetchLoad url = some reference)
    (isTask : (downloader.load reference).downloadTask = some task) :
    (downloader.task task).completed = true ↔
      ∃ block ∈ downloader.processQueue, block.url = url := by
  rcases sound.registered url reference found with ⟨_, other, isOther, resumed, _, queued⟩
  rw [isTask, Option.some.injEq] at isOther
  subst isOther
  refine ⟨queued, ?_⟩
  rintro ⟨block, isQueued, same⟩
  by_contra running
  have flight := sound.flight ⟨resumed, by simpa using running⟩ found isTask
  exact flight.blocks block isQueued same

/-- The two ways a task can fail, what its callers are told, and what becomes of it. -/
inductive Fails (downloader : ImageDownloader URL Image) (task : ℕ) :
    DownloadEvent URL Image → DownloadError → DataTask URL → Prop where
  | session (code : ℤ) :
      downloader.Fails task (.didCompleteWithError task (some code)) (.session code)
        { downloader.task task with completed := true }
  | refused {statusCode : ℤ} (invalid : isValidStatusCode statusCode = false) :
      downloader.Fails task (.didReceiveResponse task (some statusCode))
        (.invalidStatusCode statusCode)
        { downloader.task task with statusCode := some statusCode }

omit [DecidableEq URL] in
theorem Fails.request {error : DownloadError} {ended : DataTask URL}
    (fails : downloader.Fails task event error ended) :
    ended.originalRequest = (downloader.task task).originalRequest := by
  cases fails with
  | session code => rfl
  | refused invalid => rfl

omit [DecidableEq URL] in
theorem Fails.running {error : DownloadError} {ended : DataTask URL}
    (fails : downloader.Fails task event error ended) (running : ended.completed = false) :
    (downloader.task task).completed = false := by
  cases fails with
  | session code => cases running
  | refused invalid => exact running

/-- A task fails: its load is answered with the error and is gone. -/
theorem callCompletionHandlerFailure_setTask (sound : downloader.Sound)
    (found : downloader.fetchLoad url = some reference) (error : DownloadError)
    (ended : DataTask URL) :
    (downloader.setTask task ended).callCompletionHandlerFailure error url =
      { downloader with
        fetchLoads := downloader.fetchLoads.erase url
        downloadHolder := !(downloader.fetchLoads.erase url).entries.isEmpty
        load := Function.update downloader.load reference
          { downloader.load reference with
            cancelSemaphore :=
              (downloader.load reference).cancelSemaphore.map (downloader.signalled reference) }
        task := Function.update downloader.task task ended
        answers := downloader.answers ++
          (downloader.load reference).contents.map (failure error url) } := by
  have held : (downloader.setTask task ended).downloadHolder = true := sound.held found
  have looked : (downloader.setTask task ended).fetchLoad url = some reference := found
  rw [callCompletionHandlerFailure_eq held looked]
  rfl

/-- The steps of a sound downloader, each with what it finds and writes. -/
inductive Moves (downloader : ImageDownloader URL Image) :
    DownloadEvent URL Image → ImageDownloader URL Image → Prop where
  | wait {url : URL} {content : Content Image} {reference : ℕ}
      (found : downloader.fetchLoad url = some reference)
      (nobody : (downloader.load reference).downloadTaskCount = 0) :
      downloader.Moves (.downloadImage url content) { downloader with
        load := Function.update downloader.load reference { downloader.load reference with
          cancelSemaphore := some ((downloader.load reference).cancelSemaphore.getD 0) }
        cancelQueue := downloader.cancelQueue ++ [⟨reference, url, content⟩] }
  | send {url : URL} {content : Content Image}
      (wanted : ∀ reference, downloader.fetchLoad url = some reference →
        (downloader.load reference).downloadTaskCount ≠ 0) :
      downloader.Moves (.downloadImage url content) { downloader with
        preparing := downloader.preparing ++ [(url, content)] }
  | join {url : URL} {content : Content Image} {place reference : ℕ}
      (sent : downloader.preparing[place]? = some (url, content))
      (found : downloader.fetchLoad url = some reference) :
      downloader.Moves (.prepareFetchLoad place) { downloader with
        preparing := downloader.preparing.eraseIdx place
        load := Function.update downloader.load reference { downloader.load reference with
          contents := (downloader.load reference).contents ++ [content]
          downloadTaskCount := (downloader.load reference).downloadTaskCount + 1 } }
  | make {url : URL} {content : Content Image} {place : ℕ}
      (sent : downloader.preparing[place]? = some (url, content))
      (unknown : downloader.fetchLoad url = none) (idle : downloader.Idle url) :
      downloader.Moves (.prepareFetchLoad place) { downloader with
        preparing := downloader.preparing.eraseIdx place
        fetchLoads := downloader.fetchLoads.insert url downloader.loads
        load := Function.update downloader.load downloader.loads
          ⟨[content], [], 1, some downloader.tasks, none⟩
        loads := downloader.loads + 1
        task := Function.update downloader.task downloader.tasks ⟨some url, none, false⟩
        tasks := downloader.tasks + 1
        downloadHolder := true }
  | resume {block : CancelBlock URL Image} {blocks : List (CancelBlock URL Image)}
      (queue : downloader.cancelQueue = block :: blocks)
      (passes : downloader.passes block = true) :
      downloader.Moves .resume { downloader with
        load := Function.update downloader.load block.fetchLoad
          { downloader.load block.fetchLoad with cancelSemaphore := none }
        cancelQueue := blocks
        preparing := downloader.preparing ++ [(block.url, block.content)] }
  | cancel {url : URL} {task reference : ℕ}
      (found : downloader.fetchLoad url = some reference) :
      downloader.Moves (.cancelDownloadingTask task) { downloader with
        load := Function.update downloader.load reference { downloader.load reference with
          downloadTaskCount := (downloader.load reference).downloadTaskCount - 1 } }
  | cancelNothing {task : ℕ} : downloader.Moves (.cancelDownloadingTask task) downloader
  | respond {task : ℕ} {statusCode : Option ℤ} (running : downloader.Live task) :
      downloader.Moves (.didReceiveResponse task statusCode) { downloader with
        task := Function.update downloader.task task
          { downloader.task task with statusCode } }
  | receive {url : URL} {task reference : ℕ} {data : Data} (running : downloader.Live task)
      (found : downloader.fetchLoad url = some reference)
      (isTask : (downloader.load reference).downloadTask = some task) :
      downloader.Moves (.didReceiveData task data) { downloader with
        load := Function.update downloader.load reference { downloader.load reference with
          responseData := (downloader.load reference).responseData ++ data } }
  | receiveNothing {url : URL} {task : ℕ} {data : Data} (running : downloader.Live task)
      (request : (downloader.task task).originalRequest = some url)
      (unknown : downloader.fetchLoad url = none) :
      downloader.Moves (.didReceiveData task data) downloader
  | fail {event : DownloadEvent URL Image} {error : DownloadError} {ended : DataTask URL}
      {url : URL} {task reference : ℕ} (running : downloader.Live task)
      (found : downloader.fetchLoad url = some reference)
      (isTask : (downloader.load reference).downloadTask = some task)
      (fails : downloader.Fails task event error ended) :
      downloader.Moves event { downloader with
        fetchLoads := downloader.fetchLoads.erase url
        downloadHolder := !(downloader.fetchLoads.erase url).entries.isEmpty
        load := Function.update downloader.load reference { downloader.load reference with
          cancelSemaphore :=
            (downloader.load reference).cancelSemaphore.map (downloader.signalled reference) }
        task := Function.update downloader.task task ended
        answers := downloader.answers ++
          (downloader.load reference).contents.map (failure error url) }
  | finish {url : URL} {task : ℕ} {error : Option ℤ} (running : downloader.Live task)
      (request : (downloader.task task).originalRequest = some url)
      (unknown : downloader.fetchLoad url = none) :
      downloader.Moves (.didCompleteWithError task error) { downloader with
        task := Function.update downloader.task task
          { downloader.task task with completed := true } }
  | complete {url : URL} {task : ℕ} (running : downloader.Live task)
      (request : (downloader.task task).originalRequest = some url) :
      downloader.Moves (.didCompleteWithError task none) { downloader with
        task := Function.update downloader.task task
          { downloader.task task with completed := true }
        processQueue := downloader.processQueue ++ [⟨task, url, none⟩] }
  | fetch {place reference : ℕ} {block : ProcessBlock URL}
      (queued : downloader.processQueue[place]? = some block)
      (found : downloader.fetchLoad block.url = some reference) :
      downloader.Moves (.fetch place) { downloader with
        processQueue :=
          downloader.processQueue.set place { block with fetchLoad := some reference } }
  | fetchNothing {place : ℕ} {block : ProcessBlock URL}
      (queued : downloader.processQueue[place]? = some block)
      (unknown : downloader.fetchLoad block.url = none) :
      downloader.Moves (.fetch place) { downloader with
        processQueue := downloader.processQueue.eraseIdx place }
  | process {place reference : ℕ} {block : ProcessBlock URL}
      (queued : downloader.processQueue[place]? = some block)
      (looked : block.fetchLoad = some reference)
      (found : downloader.fetchLoad block.url = some reference)
      (isTask : (downloader.load reference).downloadTask = some block.task) :
      downloader.Moves (.process place) { downloader with
        fetchLoads := downloader.fetchLoads.erase block.url
        downloadHolder := !(downloader.fetchLoads.erase block.url).entries.isEmpty
        processQueue := downloader.processQueue.eraseIdx place
        answers := downloader.answers ++
          processContents block.url (downloader.task block.task).statusCode
            (downloader.load reference).responseData [] (downloader.load reference).contents }

theorem Sound.moves_didReceiveResponse (sound : downloader.Sound) (running : downloader.Live task)
    (statusCode : Option ℤ) :
    downloader.Moves (.didReceiveResponse task statusCode)
      (downloader.didReceiveResponse task statusCode) := by
  rcases sound.live task running with ⟨url, flight⟩
  unfold didReceiveResponse
  have asked : ((downloader.setTask task
      { downloader.task task with statusCode }).task task).originalRequest = some url := by
    rw [setTask_task_self]
    exact flight.request
  dsimp only
  rw [asked]
  cases statusCode with
  | none =>
      dsimp only
      rw [ite_self]
      exact .respond running
  | some code =>
      dsimp only
      split
      · split
        · exact .respond running
        · next invalid =>
            cases found : downloader.fetchLoad url with
            | none =>
                rw [callCompletionHandlerFailure_of_unknown (by exact found)]
                exact .respond running
            | some reference =>
                rw [callCompletionHandlerFailure_setTask sound found]
                exact .fail running found (flight.load reference found)
                  (.refused (by simpa using invalid))
      · exact .respond running

theorem Sound.moves_didReceiveData (sound : downloader.Sound) (running : downloader.Live task)
    (data : Data) :
    downloader.Moves (.didReceiveData task data) (downloader.didReceiveData task data) := by
  rcases sound.live task running with ⟨url, flight⟩
  unfold didReceiveData
  rw [flight.request, Option.bind_some]
  cases found : downloader.fetchLoad url with
  | none =>
      split
      · exact .receiveNothing running flight.request found
      · exact .receiveNothing running flight.request found
  | some reference =>
      rw [if_pos (sound.held found)]
      exact .receive running found (flight.load reference found)

theorem Sound.moves_didCompleteWithError (sound : downloader.Sound)
    (running : downloader.Live task) (error : Option ℤ) :
    downloader.Moves (.didCompleteWithError task error)
      (downloader.didCompleteWithError task error) := by
  rcases sound.live task running with ⟨url, flight⟩
  unfold didCompleteWithError
  have asked : ((downloader.setTask task
      { downloader.task task with completed := true }).task task).originalRequest = some url := by
    rw [setTask_task_self]
    exact flight.request
  dsimp only
  rw [asked]
  cases error with
  | none =>
      simp only [processImage]
      split
      · exact .complete running flight.request
      · next left =>
          have released : downloader.downloadHolder = false := Bool.eq_false_iff.mpr left
          exact .finish running flight.request (sound.unknown released url)
  | some code =>
      dsimp only
      cases found : downloader.fetchLoad url with
      | none =>
          rw [callCompletionHandlerFailure_of_unknown (by exact found)]
          exact .finish running flight.request found
      | some reference =>
          rw [callCompletionHandlerFailure_setTask sound found]
          exact .fail running found (flight.load reference found) (.session code)

theorem Sound.moves (sound : downloader.Sound) (orderly : downloader.Orderly event)
    (stepped : downloader.next event = some after) : downloader.Moves event after := by
  cases event with
  | downloadImage url content =>
      cases stepped
      unfold setup
      split
      · next reference found =>
          dsimp only
          split
          · next nobody => exact .wait found nobody
          · next somebody =>
              apply Moves.send
              intro other looked
              rw [found, Option.some.injEq] at looked
              rwa [← looked]
      · next unknown =>
          apply Moves.send
          intro reference looked
          rw [unknown] at looked
          cases looked
  | prepareFetchLoad place =>
      simp only [ImageDownloader.next] at stepped
      split at stepped
      · next url content sent =>
          cases stepped
          cases found : downloader.fetchLoad url with
          | some reference =>
              rcases sound.registered url reference found with ⟨_, task, started, _⟩
              rw [prepareFetchLoad_of_found content (by exact found) (by exact started)]
              exact .join sent found
          | none =>
              rw [prepareFetchLoad_of_new content (by exact found)]
              exact .make sent found (orderly (url, content) sent found)
      · cases stepped
  | resume =>
      simp only [ImageDownloader.next] at stepped
      split at stepped
      · next block blocks queue =>
          simp only [Option.ite_none_right_eq_some] at stepped
          rcases stepped with ⟨passes, ⟨⟩⟩
          exact .resume queue passes
      · cases stepped
  | cancelDownloadingTask task =>
      simp only [ImageDownloader.next, Option.ite_none_right_eq_some] at stepped
      rcases stepped with ⟨_, ⟨⟩⟩
      unfold cancelDownloadingTask
      split
      · next reference asked =>
          rcases Option.bind_eq_some_iff.mp asked with ⟨url, _, found⟩
          exact .cancel found
      · exact .cancelNothing
  | didReceiveResponse task statusCode =>
      simp only [ImageDownloader.next, Option.ite_none_right_eq_some] at stepped
      rcases stepped with ⟨running, ⟨⟩⟩
      exact sound.moves_didReceiveResponse running statusCode
  | didReceiveData task data =>
      simp only [ImageDownloader.next, Option.ite_none_right_eq_some] at stepped
      rcases stepped with ⟨running, ⟨⟩⟩
      exact sound.moves_didReceiveData running data
  | didCompleteWithError task error =>
      simp only [ImageDownloader.next, Option.ite_none_right_eq_some] at stepped
      rcases stepped with ⟨running, ⟨⟩⟩
      exact sound.moves_didCompleteWithError running error
  | fetch place =>
      simp only [ImageDownloader.next] at stepped
      split at stepped
      · next block queued =>
          simp only [Option.ite_none_right_eq_some] at stepped
          rcases stepped with ⟨_, ⟨⟩⟩
          unfold ImageDownloader.fetch
          split
          · next reference found => exact .fetch queued found
          · next unknown => exact .fetchNothing queued unknown
      · cases stepped
  | process place =>
      simp only [ImageDownloader.next] at stepped
      split at stepped
      · next block queued =>
          split at stepped
          · next fetched looked =>
              cases stepped
              rcases sound.blocks block (List.mem_of_getElem? queued) with ⟨isTask, registered⟩
              have found := registered fetched looked
              rw [ImageDownloader.process, cleanFetchLoad_eq (sound.held found)]
              exact .process queued looked found (isTask fetched found)
          · cases stepped
      · cases stepped

/-- A load is gone, and no block for it is left. -/
theorem Sound.erase (sound : downloader.Sound) (here : downloader.fetchLoad url = some reference)
    (isTask : (downloader.load reference).downloadTask = some task)
    (fetchLoads : after.fetchLoads = downloader.fetchLoads.erase url)
    (loads : after.loads = downloader.loads) (tasks : after.tasks = downloader.tasks)
    (downloadTask : ∀ other,
      (after.load other).downloadTask = (downloader.load other).downloadTask)
    (request : ∀ other,
      (after.task other).originalRequest = (downloader.task other).originalRequest)
    (running : (after.task task).completed = false → (downloader.task task).completed = false)
    (completed : ∀ other, other ≠ task →
      (after.task other).completed = (downloader.task other).completed)
    (holder : after.downloadHolder = !(downloader.fetchLoads.erase url).entries.isEmpty)
    (remaining : after.processQueue.Sublist downloader.processQueue)
    (others : ∀ block, block ∈ after.processQueue ↔
      block ∈ downloader.processQueue ∧ block.url ≠ url) : after.Sound := by
  -- what is registered afterwards was registered before, for another URL
  have before : ∀ other found, after.fetchLoad other = some found →
      other ≠ url ∧ downloader.fetchLoad other = some found := by
    intro other found looked
    rw [fetchLoad, fetchLoads] at looked
    have differs : other ≠ url := by
      rintro rfl
      rw [AList.lookup_erase] at looked
      cases looked
    rw [AList.lookup_erase_ne differs] at looked
    exact ⟨differs, looked⟩
  apply sound.shrink (by rw [holder, fetchLoads]) (fun other found looked => (before _ _ looked).2)
    loads tasks downloadTask request ?_ remaining
  · intro other held otherTask looked isOther ended
    rcases before other held looked with ⟨differs, found⟩
    have otherTaskNe : otherTask ≠ task := by
      rintro rfl
      exact differs (sound.url_eq found here (isOther.trans isTask.symm))
    rw [completed otherTask otherTaskNe] at ended
    rcases (sound.completed_iff found isOther).mp ended with ⟨block, queued, same⟩
    exact ⟨block, (others block).mpr ⟨queued, by rwa [same]⟩, same⟩
  · intro block isQueued fetched looked
    rcases (others block).mp isQueued with ⟨wasQueued, differs⟩
    rw [fetchLoad, fetchLoads, AList.lookup_erase_ne differs]
    exact (sound.blocks block wasQueued).2 fetched looked
  · intro other runs
    by_cases same : other = task
    · subst same
      exact running runs
    · rwa [← completed other same]

theorem Sound.setLoad (sound : downloader.Sound) {load : ImageFetchLoad Image}
    (same : load.downloadTask = (downloader.load reference).downloadTask) :
    (downloader.setLoad reference load).Sound :=
  sound.of_eq rfl rfl rfl (read_update ImageFetchLoad.downloadTask same) (fun _ => rfl)
    (fun _ => rfl) rfl rfl

/-- The dictionary does not look at the queues of requests, nor at the answers. -/
theorem Sound.queues (sound : downloader.Sound) (preparing : List (URL × Content Image))
    (cancelQueue : List (CancelBlock URL Image)) :
    ({ downloader with preparing, cancelQueue } : ImageDownloader URL Image).Sound :=
  sound.of_eq rfl rfl rfl (fun _ => rfl) (fun _ => rfl) (fun _ => rfl) rfl rfl

/-- A new load has a task of its own. -/
theorem Sound.make (sound : downloader.Sound) (unknown : downloader.fetchLoad url = none)
    (idle : downloader.Idle url) (content : Content Image) :
    ({ downloader with
      fetchLoads := downloader.fetchLoads.insert url downloader.loads
      load := Function.update downloader.load downloader.loads
        ⟨[content], [], 1, some downloader.tasks, none⟩
      loads := downloader.loads + 1
      task := Function.update downloader.task downloader.tasks ⟨some url, none, false⟩
      tasks := downloader.tasks + 1
      downloadHolder := true } : ImageDownloader URL Image).Sound := by
  have new : url ∉ downloader.fetchLoads := AList.lookup_eq_none.mp unknown
  -- loads and tasks made before are other ones
  have older : ∀ other reference, downloader.fetchLoad other = some reference →
      reference ≠ downloader.loads := by
    intro other reference looked
    have made := (sound.registered other reference looked).1
    omega
  have earlier : ∀ task, task < downloader.tasks + 1 → task ≠ downloader.tasks →
      task < downloader.tasks := by
    omega
  refine ⟨?_, ?_, ?_, ?_, sound.distinct⟩
  · rw [AList.entries_insert_of_notMem new]
    rfl
  · intro other reference looked
    by_cases same : other = url
    · subst same
      have isNew : reference = downloader.loads := by
        simpa [fetchLoad, eq_comm] using looked
      subst isNew
      exact ⟨Nat.lt_succ_self _, downloader.tasks, by simp, Nat.lt_succ_self _, by simp, by simp⟩
    · rw [fetchLoad, AList.lookup_insert_ne same] at looked
      rcases sound.registered other reference looked with
        ⟨made, task, isTask, resumed, request, queued⟩
      have olderTask : task ≠ downloader.tasks := by omega
      refine ⟨Nat.lt_succ_of_lt made, task, ?_, Nat.lt_succ_of_lt resumed, ?_, ?_⟩
      · simpa [older other reference looked] using isTask
      · simpa [olderTask] using request
      · simpa [olderTask] using queued
  · rintro task ⟨resumed, running⟩
    by_cases isNew : task = downloader.tasks
    · subst isNew
      refine ⟨url, by simp, ?_, idle.2, ?_⟩
      · intro reference looked
        have isNew : downloader.loads = reference := by
          simpa [fetchLoad] using looked
        simp [isNew]
      · rintro other ⟨otherResumed, runs⟩ asked
        by_contra differs
        simp only [Function.update_of_ne differs] at runs asked
        exact idle.1 other (earlier other otherResumed differs) runs asked
    · have inside := earlier task resumed isNew
      simp only [Function.update_of_ne isNew] at running
      rcases sound.live task ⟨inside, running⟩ with ⟨other, flight⟩
      have differs : other ≠ url := by
        rintro rfl
        exact idle.1 task inside running flight.request
      refine ⟨other, by simpa [isNew] using flight.request, ?_, flight.blocks, ?_⟩
      · intro reference looked
        rw [fetchLoad, AList.lookup_insert_ne differs] at looked
        simpa [older other reference looked] using flight.load reference looked
      · rintro another ⟨anotherResumed, runs⟩ asked
        by_cases isOther : another = downloader.tasks
        · subst isOther
          simp only [Function.update_self, Option.some.injEq] at asked
          exact absurd asked.symm differs
        · simp only [Function.update_of_ne isOther] at runs asked
          exact flight.alone another ⟨earlier another anotherResumed isOther, runs⟩ asked
  · intro block queued
    have differs := idle.2 block queued
    rcases sound.blocks block queued with ⟨isTask, fetched⟩
    refine ⟨?_, ?_⟩
    · intro reference looked
      rw [fetchLoad, AList.lookup_insert_ne differs] at looked
      simpa [older block.url reference looked] using isTask reference looked
    · intro held isHeld
      rw [fetchLoad, AList.lookup_insert_ne differs]
      exact fetched held isHeld

/-- A task which has completed is followed by its block. -/
theorem Sound.complete (sound : downloader.Sound) (running : downloader.Live task)
    (asked : (downloader.task task).originalRequest = some url) :
    ({ downloader with
      task := Function.update downloader.task task { downloader.task task with completed := true }
      processQueue := downloader.processQueue ++ [⟨task, url, none⟩] } :
        ImageDownloader URL Image).Sound := by
  rcases sound.live task running with ⟨flown, flight⟩
  cases flight.url_eq asked
  have request : ∀ other, (Function.update downloader.task task
      { downloader.task task with completed := true } other).originalRequest =
      (downloader.task other).originalRequest :=
    read_update DataTask.originalRequest rfl
  refine ⟨sound.holder, ?_, ?_, ?_, ?_⟩
  · intro other held looked
    rcases sound.registered other held looked with
      ⟨made, otherTask, isOther, resumed, otherRequest, queued⟩
    refine ⟨made, otherTask, isOther, resumed, (request otherTask).trans otherRequest, ?_⟩
    intro ended
    by_cases same : otherTask = task
    · subst same
      rw [asked, Option.some.injEq] at otherRequest
      exact ⟨_, List.mem_append_right _ (List.mem_singleton_self _), otherRequest⟩
    · simp only [Function.update_of_ne same] at ended
      rcases queued ended with ⟨block, isQueued, isOther⟩
      exact ⟨block, List.mem_append_left _ isQueued, isOther⟩
  · rintro other ⟨resumed, runsThen⟩
    rcases running_of_ended runsThen with ⟨differs, runs⟩
    rcases sound.live other ⟨resumed, runs⟩ with ⟨otherUrl, otherFlight⟩
    refine ⟨otherUrl, (request other).trans otherFlight.request, otherFlight.load, ?_, ?_⟩
    · intro block isQueued
      rcases List.mem_append.mp isQueued with earlier | last
      · exact otherFlight.blocks block earlier
      · cases List.mem_singleton.mp last
        rintro rfl
        exact differs (flight.alone other ⟨resumed, runs⟩ otherFlight.request)
    · rintro another ⟨anotherResumed, anotherRunsThen⟩ anotherAsked
      rcases running_of_ended anotherRunsThen with ⟨apart, anotherRuns⟩
      simp only [Function.update_of_ne apart] at anotherAsked
      exact otherFlight.alone another ⟨anotherResumed, anotherRuns⟩ anotherAsked
  · intro block queued
    rcases List.mem_append.mp queued with earlier | last
    · exact sound.blocks block earlier
    · cases List.mem_singleton.mp last
      exact ⟨flight.load, by simp⟩
  · rw [List.pairwise_append]
    refine ⟨sound.distinct, by simp, ?_⟩
    intro block queued last isLast
    cases List.mem_singleton.mp isLast
    exact flight.blocks block queued

/-- A block which looks its load up changes nothing but itself. -/
theorem Sound.fetch (sound : downloader.Sound) {block : ProcessBlock URL}
    (queued : downloader.processQueue[place]? = some block)
    (found : downloader.fetchLoad block.url = some reference) :
    ({ downloader with
      processQueue :=
        downloader.processQueue.set place { block with fetchLoad := some reference } } :
          ImageDownloader URL Image).Sound := by
  have urls : (downloader.processQueue.set place { block with fetchLoad := some reference }).map
      ProcessBlock.url = downloader.processQueue.map ProcessBlock.url := map_set queued rfl
  refine ⟨sound.holder, ?_, ?_, ?_, ?_⟩
  · intro other held looked
    rcases sound.registered other held looked with
      ⟨made, task, isOther, resumed, request, isQueued⟩
    refine ⟨made, task, isOther, resumed, request, ?_⟩
    simp only [← List.mem_map, urls] at isQueued ⊢
    exact isQueued
  · intro task running
    rcases sound.live task running with ⟨url, flight⟩
    refine ⟨url, flight.request, flight.load, ?_, flight.alone⟩
    intro other isQueued
    rcases List.mem_or_eq_of_mem_set isQueued with earlier | rfl
    · exact flight.blocks other earlier
    · exact flight.blocks block (List.mem_of_getElem? queued)
  · intro other isQueued
    rcases List.mem_or_eq_of_mem_set isQueued with earlier | rfl
    · exact sound.blocks other earlier
    · refine ⟨(sound.blocks block (List.mem_of_getElem? queued)).1, ?_⟩
      rintro fetched ⟨⟩
      exact found
  · apply List.pairwise_map.mp
    rw [urls]
    exact List.pairwise_map.mpr sound.distinct

/-- A task without a load is over. -/
theorem Sound.finish (sound : downloader.Sound)
    (asked : (downloader.task task).originalRequest = some url)
    (unknown : downloader.fetchLoad url = none) :
    ({ downloader with
      task := Function.update downloader.task task
        { downloader.task task with completed := true } } : ImageDownloader URL Image).Sound := by
  refine sound.shrink sound.holder (fun _ _ => id) rfl rfl (fun _ => rfl)
    (read_update DataTask.originalRequest rfl) ?_ (List.Sublist.refl _) ?_
    fun block isQueued => (sound.blocks block isQueued).2
  · intro other runs
    exact (running_of_ended runs).2
  · intro other reference held found isHeld ended
    change downloader.fetchLoad other = some reference at found
    have differs : held ≠ task := by
      rintro rfl
      rcases sound.registered other reference found with ⟨_, own, isOwn, _, request, _⟩
      rw [isHeld, Option.some.injEq] at isOwn
      rw [← isOwn, asked, Option.some.injEq] at request
      rw [request, found] at unknown
      cases unknown
    simp only [Function.update_of_ne differs] at ended
    exact (sound.completed_iff found isHeld).mp ended

theorem Sound.next (sound : downloader.Sound) (moves : downloader.Moves event after) :
    after.Sound := by
  cases moves with
  | wait found nobody =>
      refine Sound.queues (sound.setLoad ?_) _ _
      rfl
  | send wanted => exact sound.queues _ _
  | join sent found =>
      refine Sound.queues (sound.setLoad ?_) _ _
      rfl
  | make sent unknown idle => exact Sound.queues (sound.make unknown idle _) _ _
  | resume queue passes =>
      refine Sound.queues (sound.setLoad ?_) _ _
      rfl
  | cancel found =>
      apply sound.setLoad
      rfl
  | cancelNothing => exact sound
  | respond running =>
      exact sound.of_eq rfl rfl rfl (fun _ => rfl) (read_update DataTask.originalRequest rfl)
        (read_update DataTask.completed rfl) rfl rfl
  | receive running found isTask =>
      apply sound.setLoad
      rfl
  | receiveNothing running request unknown => exact sound
  | fail running found isTask fails =>
      have flight := sound.flight running found isTask
      refine sound.erase found isTask rfl rfl rfl (read_update ImageFetchLoad.downloadTask rfl)
        (read_update DataTask.originalRequest fails.request) ?_ ?_ rfl (List.Sublist.refl _) ?_
      · simpa using fails.running
      · intro other differs
        simp [differs]
      · intro block
        exact ⟨fun queued => ⟨queued, flight.blocks block queued⟩, fun queued => queued.1⟩
  | finish running request unknown => exact sound.finish request unknown
  | complete running request => exact sound.complete running request
  | fetch queued found => exact sound.fetch queued found
  | @fetchNothing place block queued unknown =>
      have others : ∀ other, other ∈ downloader.processQueue.eraseIdx place ↔
          other ∈ downloader.processQueue ∧ other.url ≠ block.url := fun other =>
        mem_eraseIdx_iff sound.distinct queued
      refine sound.shrink sound.holder (fun _ _ => id) rfl rfl (fun _ => rfl) (fun _ => rfl)
        (fun _ => id) (List.eraseIdx_sublist ..) ?_ ?_
      · intro url reference task found isTask ended
        rcases (sound.completed_iff found isTask).mp ended with ⟨other, isQueued, same⟩
        refine ⟨other, (others other).mpr ⟨isQueued, ?_⟩, same⟩
        intro isBlock
        have known : downloader.fetchLoad url = some reference := found
        rw [← same, isBlock, unknown] at known
        cases known
      · intro other isQueued
        exact (sound.blocks other ((others other).mp isQueued).1).2
  | process queued looked found isTask =>
      refine sound.erase found isTask rfl rfl rfl (fun _ => rfl) (fun _ => rfl) id
        (fun _ _ => rfl) rfl (List.eraseIdx_sublist ..) ?_
      intro other
      exact mem_eraseIdx_iff sound.distinct queued

variable {history : History (ImageDownloader URL Image) (DownloadEvent URL Image)}

/-- The downloader in orderly runs. -/
def orderly (URL Image : Type) [DecidableEq URL] :
    System (ImageDownloader URL Image) (DownloadEvent URL Image) :=
  (downloads URL Image).restrict Orderly

/-- Scripts of the downloader. -/
theorem exists_orderly_run (script : List (DownloadEvent URL Image))
    (test : History (ImageDownloader URL Image) (DownloadEvent URL Image) →
      ImageDownloader URL Image → Bool)
    (passes : (execute (fun downloader event =>
      if downloader.Orderly event then downloader.next event else none) .new script).any
        (fun result => test result.1 result.2) = true) :
    ∃ history downloader, Run (orderly URL Image) .new history downloader ∧
      test history downloader = true :=
  exists_restricted_run (fun {_ _ _} => id) script test passes

theorem sound_of_run (run : Run (orderly URL Image) .new history downloader) :
    downloader.Sound :=
  run.invariant Sound sound_new fun sound step => sound.next (sound.moves step.1 step.2)

/-- Each step of a run is one of those listed. -/
theorem moves_of_run (run : Run (orderly URL Image) .new history downloader)
    (step : (orderly URL Image).Step downloader event after) : downloader.Moves event after :=
  (sound_of_run run).moves step.1 step.2

end ImageDownloader

end Kingfisher

end OneSecond
