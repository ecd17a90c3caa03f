import OneSecond.Kingfisher.Refusals

/-!
# What the answers say

In orderly runs a successful answer holds the data which one task of its URL
received, all of it and nothing else, whichever other downloads ran at the same
time.  Its image was made of this data by a processor with the name of the
caller's own, and changed by the caller's own modifier; a failure tells why there
is no image.
-/

namespace OneSecond

namespace Kingfisher

open Runs Dictionaries

variable {URL Image : Type} [DecidableEq URL]

namespace ImageDownloader

variable {downloader after : ImageDownloader URL Image} {url : URL} {reference task place : ℕ}
  {history : History (ImageDownloader URL Image) (DownloadEvent URL Image)}
  {event : DownloadEvent URL Image}

/-- An image which a processor of this name makes of the data for one of the callers. -/
def MadeFor (callers : Set (Content Image)) (data : Data) (identifier : String)
    (image : Image) : Prop :=
  ∃ other ∈ callers, other.processor.identifier = identifier ∧
    other.processor.process data = some image

/-- The result a caller may get for some data. -/
def Tells (callers : Set (Content Image)) (statusCode : Option ℤ) (data : Data)
    (content : Content Image) : Except DownloadError (Image × Data) → Prop
  | .ok (image, held) => held = data ∧ ∃ made,
      MadeFor callers data content.processor.identifier made ∧ image = content.imageModifier made
  | .error error => content.processor.process data = none ∧ error = noImage statusCode

omit [DecidableEq URL] in
theorem tells_processContents (url : URL) (statusCode : Option ℤ) (data : Data)
    (callers : Set (Content Image)) (contents : List (Content Image))
    (imageCache : List (String × Image))
    (made : ∀ identifier image, imageCache.lookup identifier = some image →
      MadeFor callers data identifier image)
    (among : ∀ content ∈ contents, content ∈ callers) :
    ∀ answer ∈ processContents url statusCode data imageCache contents,
      answer.url = url ∧ Tells callers statusCode data answer.content answer.result := by
  induction contents generalizing imageCache with
  | nil => simp [processContents]
  | cons content contents ih =>
      have amongRest : ∀ other ∈ contents, other ∈ callers :=
        fun other occurs => among other (List.mem_cons_of_mem _ occurs)
      simp only [processContents]
      split
      · next image kept =>
          intro answer answered
          rcases List.mem_cons.mp answered with rfl | later
          · exact ⟨rfl, rfl, image, made _ image kept, rfl⟩
          · exact ih imageCache made amongRest answer later
      · split
        · next image processed =>
            intro answer answered
            have own : MadeFor callers data content.processor.identifier image :=
              ⟨content, among content List.mem_cons_self, rfl, processed⟩
            rcases List.mem_cons.mp answered with rfl | later
            · exact ⟨rfl, rfl, image, own, rfl⟩
            · apply ih _ ?_ amongRest answer later
              intro identifier held looked
              rw [List.lookup_cons] at looked
              split at looked
              · next same =>
                  cases looked
                  rw [beq_iff_eq.mp same]
                  exact own
              · exact made identifier held looked
        · next failed =>
            intro answer answered
            rcases List.mem_cons.mp answered with rfl | later
            · exact ⟨rfl, failed, rfl⟩
            · exact ih imageCache made amongRest answer later

omit [DecidableEq URL] in
theorem Tells.mono {callers more : Set (Content Image)} {statusCode : Option ℤ} {data : Data}
    {content : Content Image} {result : Except DownloadError (Image × Data)}
    (tells : Tells callers statusCode data content result) (fewer : callers ⊆ more) :
    Tells more statusCode data content result := by
  cases result with
  | error error => exact tells
  | ok held =>
      rcases tells with ⟨same, image, ⟨other, occurs, named, processed⟩, modified⟩
      exact ⟨same, image, ⟨other, fewer occurs, named, processed⟩, modified⟩

/-- The data an event brings for a task. -/
def data (task : ℕ) : DownloadEvent URL Image → Data
  | .didReceiveData other data => if other = task then data else []
  | _ => []

/-- All the data which came for a task. -/
def received (task : ℕ) : History (ImageDownloader URL Image) (DownloadEvent URL Image) → Data
  | [] => []
  | occurrence :: older => received task older ++ data task occurrence.2

omit [DecidableEq URL] in
theorem received_of_nothing (nothing : data task event = []) :
    received task ((downloader, event) :: history) = received task history := by
  rw [received, nothing, List.append_nil]

/-- The callers who asked for a URL. -/
def callers (url : URL) (history : History (ImageDownloader URL Image) (DownloadEvent URL Image)) :
    Set (Content Image) :=
  { content | (url, content) ∈ requests history }

omit [DecidableEq URL] in
theorem callers_subset (url : URL)
    (occurrence : ImageDownloader URL Image × DownloadEvent URL Image) :
    callers url history ⊆ callers url (occurrence :: history) := by
  intro content asked
  change (url, content) ∈ requests (occurrence :: history)
  rw [requests, List.map_cons, List.sum_cons]
  exact Multiset.mem_add.mpr (Or.inr asked)

omit [DecidableEq URL] in
theorem Fails.data {error : DownloadError} {ended : DataTask URL}
    (fails : downloader.Fails task event error ended) (other : ℕ) :
    ImageDownloader.data other event = [] := by
  cases fails with
  | session code => rfl
  | refused invalid => rfl

/-- An answer comes of a task of its URL: of the data which this received before it was over, of its
error, or of its refused response. -/
def Explained (history : History (ImageDownloader URL Image) (DownloadEvent URL Image))
    (downloader : ImageDownloader URL Image) (answer : Answer URL Image) : Prop :=
  ∃ task, task < downloader.tasks ∧
    (downloader.task task).originalRequest = some answer.url ∧
    ((downloader.task task).completed = true ∧
        Tells (callers answer.url history) (downloader.task task).statusCode
          (received task history) answer.content answer.result ∨
      (∃ code, answer.result = .error (.session code) ∧
        ∃ occurrence ∈ history, occurrence.2 = .didCompleteWithError task (some code)) ∨
      ∃ statusCode, isValidStatusCode statusCode = false ∧
        answer.result = .error (.invalidStatusCode statusCode) ∧
        ∃ occurrence ∈ history, occurrence.2 = .didReceiveResponse task (some statusCode))

structure Faithful (history : History (ImageDownloader URL Image) (DownloadEvent URL Image))
    (downloader : ImageDownloader URL Image) : Prop where
  responseData : ∀ url reference task, downloader.fetchLoad url = some reference →
    (downloader.load reference).downloadTask = some task →
    (downloader.load reference).responseData = received task history
  unsent : ∀ task, downloader.tasks ≤ task → received task history = []
  explained : ∀ answer ∈ downloader.answers, Explained history downloader answer

/-- A task keeps its request. -/
theorem Moves.request (moves : downloader.Moves event after) (resumed : task < downloader.tasks) :
    task < after.tasks ∧
      (after.task task).originalRequest = (downloader.task task).originalRequest := by
  cases moves with
  | make sent unknown idle =>
      refine ⟨Nat.lt_succ_of_lt resumed, ?_⟩
      simp [resumed.ne]
  | respond running => exact ⟨resumed, read_update DataTask.originalRequest (by rfl) task⟩
  | fail running found isTask fails =>
      exact ⟨resumed, read_update DataTask.originalRequest fails.request task⟩
  | finish running request unknown =>
      exact ⟨resumed, read_update DataTask.originalRequest (by rfl) task⟩
  | complete running request => exact ⟨resumed, read_update DataTask.originalRequest (by rfl) task⟩
  | _ => exact ⟨resumed, rfl⟩

/-- What is over stays as it is. -/
theorem Moves.over (moves : downloader.Moves event after) (resumed : task < downloader.tasks)
    (completed : (downloader.task task).completed = true) :
    after.task task = downloader.task task ∧ data task event = [] := by
  have differs : ∀ other, downloader.Live other → task ≠ other := by
    rintro other ⟨_, running⟩ rfl
    rw [completed] at running
    cases running
  cases moves with
  | make sent unknown idle =>
      refine ⟨?_, rfl⟩
      simp [resumed.ne]
  | respond running => exact ⟨by simp [differs _ running], rfl⟩
  | receive running found isTask => exact ⟨rfl, if_neg (differs _ running).symm⟩
  | receiveNothing running request unknown => exact ⟨rfl, if_neg (differs _ running).symm⟩
  | fail running found isTask fails => exact ⟨by simp [differs _ running], fails.data task⟩
  | finish running request unknown => exact ⟨by simp [differs _ running], rfl⟩
  | complete running request => exact ⟨by simp [differs _ running], rfl⟩
  | _ => exact ⟨rfl, rfl⟩

theorem Explained.step {answer : Answer URL Image} (explained : Explained history downloader answer)
    (moves : downloader.Moves event after) :
    Explained ((downloader, event) :: history) after answer := by
  rcases explained with ⟨task, resumed, request, reason⟩
  rcases moves.request resumed with ⟨resumedThen, sameRequest⟩
  refine ⟨task, resumedThen, sameRequest.trans request, ?_⟩
  rcases reason with ⟨completed, tells⟩ | ⟨code, failed, occurrence, occurred, isFailure⟩ |
    ⟨statusCode, invalid, failed, occurrence, occurred, isResponse⟩
  · left
    rcases moves.over resumed completed with ⟨same, nothing⟩
    rw [same, received_of_nothing nothing]
    exact ⟨completed, tells.mono (callers_subset answer.url _)⟩
  · exact .inr (.inl ⟨code, failed, occurrence, List.mem_cons_of_mem _ occurred, isFailure⟩)
  · exact .inr (.inr
      ⟨statusCode, invalid, failed, occurrence, List.mem_cons_of_mem _ occurred, isResponse⟩)

/-- Steps which bring no data, and register nothing. -/
theorem Faithful.responseData_of_eq (faithful : Faithful history downloader)
    (fetchLoads : ∀ url reference, after.fetchLoad url = some reference →
      downloader.fetchLoad url = some reference)
    (downloadTask : ∀ other,
      (after.load other).downloadTask = (downloader.load other).downloadTask)
    (responseData : ∀ other,
      (after.load other).responseData = (downloader.load other).responseData)
    (nothing : ∀ task, data task event = []) :
    ∀ url reference task, after.fetchLoad url = some reference →
      (after.load reference).downloadTask = some task →
      (after.load reference).responseData = received task ((downloader, event) :: history) := by
  intro url reference task found isTask
  rw [downloadTask] at isTask
  rw [responseData, received_of_nothing (nothing task)]
  exact faithful.responseData url reference task (fetchLoads url reference found) isTask

theorem Faithful.responseData_step (faithful : Faithful history downloader)
    (sound : downloader.Sound) (moves : downloader.Moves event after) :
    ∀ url reference task, after.fetchLoad url = some reference →
      (after.load reference).downloadTask = some task →
      (after.load reference).responseData = received task ((downloader, event) :: history) := by
  have nothing : ∀ url reference, downloader.fetchLoad url = some reference →
      downloader.fetchLoad url = some reference := fun _ _ => id
  cases moves with
  | wait _ _ =>
      exact faithful.responseData_of_eq nothing (read_update ImageFetchLoad.downloadTask rfl)
        (read_update ImageFetchLoad.responseData rfl) (fun _ => rfl)
  | join _ _ =>
      exact faithful.responseData_of_eq nothing (read_update ImageFetchLoad.downloadTask rfl)
        (read_update ImageFetchLoad.responseData rfl) (fun _ => rfl)
  | @make other content place sent unknown idle =>
      intro url reference task found isTask
      by_cases same : url = other
      · subst same
        have isNew : reference = downloader.loads := by
          simpa [fetchLoad, eq_comm] using found
        subst isNew
        have newTask : task = downloader.tasks := by
          simpa [eq_comm] using isTask
        subst newTask
        rw [received_of_nothing rfl, faithful.unsent downloader.tasks (le_refl _)]
        simp
      · rw [fetchLoad, AList.lookup_insert_ne same] at found
        have older : reference ≠ downloader.loads := by
          have made := (sound.registered url reference found).1
          omega
        simp only [Function.update_of_ne older] at isTask ⊢
        rw [received_of_nothing rfl]
        exact faithful.responseData url reference task found isTask
  | resume _ _ =>
      exact faithful.responseData_of_eq nothing (read_update ImageFetchLoad.downloadTask rfl)
        (read_update ImageFetchLoad.responseData rfl) (fun _ => rfl)
  | cancel _ =>
      exact faithful.responseData_of_eq nothing (read_update ImageFetchLoad.downloadTask rfl)
        (read_update ImageFetchLoad.responseData rfl) (fun _ => rfl)
  | @receive other receiver held bytes running looked isReceiver =>
      intro url reference task found isTask
      by_cases same : reference = held
      · subst same
        simp only [Function.update_self] at isTask ⊢
        have isSame : receiver = task := Option.some.inj (isReceiver.symm.trans isTask)
        rw [received, data, if_pos isSame, faithful.responseData url reference task found isTask]
      · simp only [Function.update_of_ne same] at isTask ⊢
        -- another load has another task
        have differs : receiver ≠ task := by
          rintro rfl
          have sameUrl := sound.url_eq looked found (isReceiver.trans isTask.symm)
          subst sameUrl
          exact same (Option.some.inj (found.symm.trans looked))
        have nothing : data task (.didReceiveData receiver bytes : DownloadEvent URL Image) = [] :=
          if_neg differs
        rw [received_of_nothing nothing]
        exact faithful.responseData url reference task found isTask
  | @receiveNothing other receiver bytes running request unknown =>
      intro url reference task found isTask
      -- the task which received has no load, and so is another one
      have differs : receiver ≠ task := by
        rintro rfl
        have flight := sound.flight running found isTask
        rw [← flight.url_eq request, found] at unknown
        cases unknown
      have silent : data task (.didReceiveData receiver bytes : DownloadEvent URL Image) = [] :=
        if_neg differs
      rw [received_of_nothing silent]
      exact faithful.responseData url reference task found isTask
  | fail _ _ _ fails =>
      exact faithful.responseData_of_eq (fun _ _ => lookup_of_erase)
        (read_update ImageFetchLoad.downloadTask rfl)
        (read_update ImageFetchLoad.responseData rfl) fails.data
  | process _ _ _ _ =>
      exact faithful.responseData_of_eq (fun _ _ => lookup_of_erase) (fun _ => rfl)
        (fun _ => rfl) (fun _ => rfl)
  | _ =>
      exact faithful.responseData_of_eq nothing (fun _ => rfl) (fun _ => rfl) (fun _ => rfl)

theorem Faithful.unsent_step (faithful : Faithful history downloader)
    (moves : downloader.Moves event after) (task : ℕ) (unsent : after.tasks ≤ task) :
    received task ((downloader, event) :: history) = [] := by
  have nothing : downloader.tasks ≤ task ∧ data task event = [] := by
    cases moves with
    | make _ _ _ => exact ⟨Nat.le_of_succ_le unsent, rfl⟩
    | receive running found isTask =>
        exact ⟨unsent, if_neg (running.1.trans_le unsent).ne⟩
    | receiveNothing running request unknown =>
        exact ⟨unsent, if_neg (running.1.trans_le unsent).ne⟩
    | fail running found isTask fails => exact ⟨unsent, fails.data task⟩
    | _ => exact ⟨unsent, rfl⟩
  rw [received_of_nothing nothing.2]
  exact faithful.unsent task nothing.1

/-- Those who wait in a load have asked for its URL. -/
theorem asked_of_mem (asked : downloader.accounted = requests history)
    (found : downloader.fetchLoad url = some reference) :
    ∀ content ∈ (downloader.load reference).contents, content ∈ callers url history := by
  intro content waits
  have inLoad : (url, content) ∈ downloader.pending := by
    rw [pending, total_erase found]
    apply Multiset.mem_add.mpr
    left
    exact Multiset.mem_coe.mpr (List.mem_map_of_mem waits)
  change (url, content) ∈ requests history
  rw [← asked, accounted]
  apply Multiset.mem_add.mpr
  left
  apply Multiset.mem_add.mpr
  left
  exact Multiset.mem_add.mpr (Or.inr inLoad)

theorem Faithful.step (faithful : Faithful history downloader) (sound : downloader.Sound)
    (asked : downloader.accounted = requests history)
    (moves : downloader.Moves event after) :
    Faithful ((downloader, event) :: history) after where
  responseData := faithful.responseData_step sound moves
  unsent := faithful.unsent_step moves
  explained := by
    have earlier : ∀ answer ∈ downloader.answers,
        Explained ((downloader, event) :: history) after answer :=
      fun answer answered => (faithful.explained answer answered).step moves
    cases moves with
    | @fail event error ended url task reference running found isTask fails =>
        intro answer answered
        rcases List.mem_append.mp answered with before | now
        · exact earlier answer before
        · rcases List.mem_map.mp now with ⟨content, _, rfl⟩
          have flight := sound.flight running found isTask
          refine ⟨task, running.1, ?_, Or.inr ?_⟩
          · exact (read_update DataTask.originalRequest fails.request task).trans flight.request
          · cases fails with
            | session code => exact .inl ⟨code, rfl, _, List.mem_cons_self, rfl⟩
            | refused invalid => exact .inr ⟨_, invalid, rfl, _, List.mem_cons_self, rfl⟩
    | @process place reference block queued looked found isTask =>
        intro answer answered
        rcases List.mem_append.mp answered with before | now
        · exact earlier answer before
        · have told := tells_processContents block.url (downloader.task block.task).statusCode
            (downloader.load reference).responseData (callers block.url history) _ []
            (by simp) (asked_of_mem asked found) answer now
          rcases sound.registered block.url reference found with
            ⟨_, held, isHeld, resumed, request, _⟩
          have same : held = block.task := Option.some.inj (isHeld.symm.trans isTask)
          subst same
          have completed := (sound.completed_iff found isTask).mpr
            ⟨block, List.mem_of_getElem? queued, rfl⟩
          have whole := faithful.responseData block.url reference block.task found isTask
          refine ⟨block.task, resumed, by rw [request, told.1], Or.inl ⟨completed, ?_⟩⟩
          rw [whole] at told
          rw [received_of_nothing rfl, told.1]
          exact told.2.mono (callers_subset block.url _)
    | _ => exact earlier

/-- Every answer of every orderly run is explained by one task of its URL: it holds what this task
received, and the image made of it, or tells why there is none. -/
theorem explained_of_run (run : Run (orderly URL Image) .new history downloader) :
    ∀ answer ∈ downloader.answers, Explained history downloader answer := by
  have faithful : Faithful history downloader := by
    apply run.historyInvariant (motive := Faithful)
    · exact ⟨by simp [new, fetchLoad], fun _ _ => rfl, by simp [new]⟩
    · intro history downloader after event run faithful step
      exact faithful.step (sound_of_run run) (accounted_of_run run) (moves_of_run run step)
  exact faithful.explained

theorem explained_sharedDownload :
    ∃ (history : History (ImageDownloader ℕ ℕ) (DownloadEvent ℕ ℕ))
      (downloader : ImageDownloader ℕ ℕ), Run (orderly ℕ ℕ) .new history downloader ∧
        downloader.answers.length = 2 ∧
          ∀ answer ∈ downloader.answers, Explained history downloader answer := by
  have script := exists_orderly_run sharedDownload
    (fun _ downloader => downloader.answers.length == 2) (by decide +kernel)
  rcases script with ⟨history, downloader, run, tested⟩
  exact ⟨history, downloader, run, beq_iff_eq.mp tested, explained_of_run run⟩

/-- A URL is downloaded once at a time: two tasks for it never run together, and a load for it which
is registered meanwhile is that of the running task.  There is one unless the server's response was
refused. -/
theorem single_flight (run : Run (orderly URL Image) .new history downloader)
    (running : downloader.Live task) :
    ∃ url, (downloader.task task).originalRequest = some url ∧
      (∀ other, downloader.Live other → (downloader.task other).originalRequest = some url →
        other = task) ∧
      (∀ reference, downloader.fetchLoad url = some reference →
        (downloader.load reference).downloadTask = some task) ∧
      (¬ Refused history task → ∃ reference, downloader.fetchLoad url = some reference) := by
  rcases (sound_of_run run).live task running with ⟨url, flight⟩
  refine ⟨url, flight.request, flight.alone, flight.load, ?_⟩
  intro kept
  exact Option.ne_none_iff_exists'.mp
    ((claimed_of_run run).tasks task url kept running flight.request)

theorem single_flight_sharedDownload :
    ∃ (history : History (ImageDownloader ℕ ℕ) (DownloadEvent ℕ ℕ))
      (downloader : ImageDownloader ℕ ℕ), Run (orderly ℕ ℕ) .new history downloader ∧
        ∃ url reference, (downloader.task 0).originalRequest = some url ∧
          downloader.fetchLoad url = some reference ∧
          (downloader.load reference).downloadTask = some 0 ∧
          ∀ other, downloader.Live other → (downloader.task other).originalRequest = some url →
            other = 0 := by
  have script := exists_orderly_run (sharedDownload.take 6)
    (fun history downloader => decide (downloader.Live 0) &&
      history.all fun occurrence => decide occurrence.2.Accepted) (by decide +kernel)
  rcases script with ⟨history, downloader, run, tested⟩
  simp only [Bool.and_eq_true, List.all_eq_true, decide_eq_true_eq] at tested
  rcases tested with ⟨running, accepted⟩
  rcases single_flight run running with ⟨url, request, alone, load, registered⟩
  rcases registered (not_refused_of_accepted accepted 0) with ⟨reference, found⟩
  exact ⟨history, downloader, run, url, reference, request, found, load reference found, alone⟩

end ImageDownloader

end Kingfisher

end OneSecond
