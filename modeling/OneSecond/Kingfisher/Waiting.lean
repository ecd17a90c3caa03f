import OneSecond.Kingfisher.Downloads

/-!
# Requests behind a cancelled load

A request for a URL whose load has nobody left waits, on a serial queue, for the
semaphore of that load.  The semaphore is signalled where the load fails, and
only there.  So the downloader can always be brought to rest (`settles`), but
not everybody is answered then: a block whose load has completed all the same is
never woken, and nothing behind it is (`resumes_iff`).  All this is about orderly
runs.
-/

namespace OneSecond

namespace Kingfisher

open Runs Dictionaries

variable {URL Image : Type} [DecidableEq URL]

namespace DownloadEvent

/-- What happens without the callers of the downloader. -/
def Own : DownloadEvent URL Image → Prop
  | .downloadImage _ _ => False
  | .cancelDownloadingTask _ => False
  | _ => True

omit [DecidableEq URL] in
theorem requested_of_own {event : DownloadEvent URL Image} (own : event.Own) :
    event.requested = 0 := by
  cases event with
  | downloadImage url content => exact own.elim
  | _ => rfl

end DownloadEvent

namespace ImageDownloader

variable {downloader after : ImageDownloader URL Image} {url : URL} {reference task place : ℕ}
  {block : CancelBlock URL Image} {blocks : List (CancelBlock URL Image)}
  {history later : History (ImageDownloader URL Image) (DownloadEvent URL Image)}

/-- The downloader, left alone by its callers. -/
def settling (URL Image : Type) [DecidableEq URL] :
    System (ImageDownloader URL Image) (DownloadEvent URL Image) :=
  (orderly URL Image).restrict fun _ event => event.Own

/-- Nothing is under way, and the cancel queue does not move either. -/
structure Settled (downloader : ImageDownloader URL Image) : Prop where
  rest : downloader.AtRest
  blocked : ∀ block blocks, downloader.cancelQueue = block :: blocks →
    downloader.passes block = false

def running (tasks : ℕ) (task : ℕ → DataTask URL) : Finset ℕ :=
  (Finset.range tasks).filter fun reference => (task reference).completed = false

/-- How far it is to rest. -/
def unsettled (downloader : ImageDownloader URL Image) : ℕ :=
  4 * downloader.cancelQueue.length + 3 * downloader.preparing.length +
    total (fun _ _ => 1) downloader.fetchLoads +
    (running downloader.tasks downloader.task).card + downloader.processQueue.length

section Running

variable {tasks : ℕ} {tasksOf : ℕ → DataTask URL}

omit [DecidableEq URL] in
@[simp]
theorem mem_running : reference ∈ running tasks tasksOf ↔
    reference < tasks ∧ (tasksOf reference).completed = false := by
  simp [running]

omit [DecidableEq URL] in
theorem card_running_of_ended (resumed : reference < tasks)
    (runs : (tasksOf reference).completed = false) :
    (running tasks (Function.update tasksOf reference
      ⟨(tasksOf reference).originalRequest, (tasksOf reference).statusCode, true⟩)).card <
      (running tasks tasksOf).card := by
  apply Finset.card_lt_card
  rw [Finset.ssubset_iff_of_subset]
  · refine ⟨reference, mem_running.mpr ⟨resumed, runs⟩, ?_⟩
    simp
  · intro other runsThen
    rw [mem_running] at runsThen ⊢
    refine ⟨runsThen.1, ?_⟩
    by_cases same : other = reference
    · subst same
      simp at runsThen
    · simpa [same] using runsThen.2

omit [DecidableEq URL] in
theorem card_running_of_resumed (resumed : DataTask URL) :
    (running (tasks + 1) (Function.update tasksOf tasks resumed)).card ≤
      (running tasks tasksOf).card + 1 := by
  have more : running (tasks + 1) (Function.update tasksOf tasks resumed) ⊆
      insert tasks (running tasks tasksOf) := by
    intro other runs
    rw [mem_running] at runs
    rw [Finset.mem_insert, mem_running]
    by_cases isNew : other = tasks
    · exact .inl isNew
    · rw [Function.update_of_ne isNew] at runs
      exact .inr ⟨by omega, runs.2⟩
  exact (Finset.card_le_card more).trans (Finset.card_insert_le ..)

end Running

theorem settling_step (event : DownloadEvent URL Image) (orderly : downloader.Orderly event)
    (own : event.Own) (handled : downloader.next event = some after) :
    Run (settling URL Image) downloader [(downloader, event)] after :=
  Run.nil.snoc ⟨own, orderly, handled⟩

/-- Some steps lead closer to rest. -/
def Closer (downloader : ImageDownloader URL Image) : Prop :=
  ∃ later after, Run (settling URL Image) downloader later after ∧ after.Sound ∧
    after.unsettled < downloader.unsettled

theorem Sound.closer (sound : downloader.Sound) (event : DownloadEvent URL Image)
    (orderly : downloader.Orderly event) (own : event.Own)
    (handled : (downloader.next event).isSome = true)
    (nearer : ∀ after, downloader.Moves event after → after.unsettled < downloader.unsettled) :
    downloader.Closer := by
  rcases Option.isSome_iff_exists.mp handled with ⟨after, handled⟩
  have moves := sound.moves orderly handled
  exact ⟨_, after, settling_step event orderly own handled, sound.next moves,
    nearer after moves⟩

/-- A running task can fail, with its load or without one. -/
theorem task_closer (sound : downloader.Sound) (running : downloader.Live task) :
    downloader.Closer := by
  apply sound.closer (.didCompleteWithError task (some 0)) trivial trivial
    (by simp [next, running])
  intro after moves
  cases moves with
  | fail runs found isTask fails =>
      cases fails with
      | session code =>
          have fewer := card_running_of_ended runs.1 runs.2
          simp only [unsettled, total_erase found]
          omega
  | finish runs request unknown =>
      have fewer := card_running_of_ended runs.1 runs.2
      simp only [unsettled]
      omega

/-- A block which has looked its load up answers it. -/
theorem process_closer {block : ProcessBlock URL} (sound : downloader.Sound)
    (queued : downloader.processQueue[place]? = some block)
    (looked : block.fetchLoad = some reference) : downloader.Closer := by
  apply sound.closer (.process place) trivial trivial (by simp [next, queued, looked])
  intro after moves
  have inside : place < downloader.processQueue.length := (List.getElem?_eq_some_iff.mp queued).1
  cases moves with
  | fail _ _ _ fails => cases fails
  | process queued looked found isTask =>
      simp only [unsettled, total_erase found, List.length_eraseIdx_of_lt inside]
      omega

/-- A block of the process queue answers its load, if there is one. -/
theorem block_closer {block : ProcessBlock URL} (sound : downloader.Sound)
    (queued : downloader.processQueue[place]? = some block) : downloader.Closer := by
  have inside : place < downloader.processQueue.length := (List.getElem?_eq_some_iff.mp queued).1
  cases looked : block.fetchLoad with
  | some fetched => exact process_closer sound queued looked
  | none =>
      -- the block has to look its load up first
      have handled : downloader.next (.fetch place) = some (downloader.fetch place block) := by
        simp [next, queued, looked]
      have soundThen := sound.next (sound.moves (by trivial) handled)
      cases found : downloader.fetchLoad block.url with
      | none =>
          refine ⟨_, _, settling_step (.fetch place) trivial trivial handled, soundThen, ?_⟩
          simp only [fetch, found, unsettled, List.length_eraseIdx_of_lt inside]
          omega
      | some reference =>
          have fetchedNow : (downloader.fetch place block).processQueue[place]? =
              some { block with fetchLoad := some reference } := by
            simp [fetch, found, inside]
          rcases process_closer soundThen fetchedNow rfl with ⟨later, after, run, kept, closer⟩
          have same : (downloader.fetch place block).unsettled = downloader.unsettled := by
            simp [fetch, found, unsettled]
          refine ⟨_, after, (settling_step (.fetch place) trivial trivial handled).append run,
            kept, ?_⟩
          omega

/-- The first request on its way gets to its load, once no task and no block is left. -/
theorem prepareFetchLoad_closer {sent : URL × Content Image}
    {others : List (URL × Content Image)} (sound : downloader.Sound)
    (idle : ∀ url, downloader.Idle url) (preparing : downloader.preparing = sent :: others) :
    downloader.Closer := by
  apply sound.closer (.prepareFetchLoad 0) (fun request _ _ => idle request.1) trivial
    (by simp [next, preparing])
  intro after moves
  cases moves with
  | join sent found =>
      simp only [unsettled, preparing, List.eraseIdx_cons_zero, List.length_cons]
      omega
  | @make url content place sent unknown idle =>
      have more : (running (downloader.tasks + 1) (Function.update downloader.task downloader.tasks
          ⟨some url, none, false⟩)).card ≤ (running downloader.tasks downloader.task).card + 1 :=
        card_running_of_resumed _
      simp only [unsettled, preparing, List.eraseIdx_cons_zero, List.length_cons,
        total_insert (AList.lookup_eq_none.mp unknown)]
      omega
  | fail _ _ _ fails => cases fails

/-- The cancel queue moves. -/
theorem resume_closer (sound : downloader.Sound) (queue : downloader.cancelQueue = block :: blocks)
    (passes : downloader.passes block = true) : downloader.Closer := by
  apply sound.closer .resume trivial trivial (by simp [next, queue, passes])
  intro after moves
  cases moves with
  | fail _ _ _ fails => cases fails
  | resume isQueue passes =>
      simp only [unsettled, isQueue, List.length_cons, List.length_append, List.length_nil]
      omega

theorem Sound.comesToRest (sound : downloader.Sound) :
    ∃ later after, Run (settling URL Image) downloader later after ∧ after.Sound ∧
      after.Settled := by
  apply exists_run_of_progress Sound Settled unsettled ?_ sound
  intro downloader sound notSettled
  by_cases tasks : ∃ task, downloader.Live task
  · rcases tasks with ⟨task, running⟩
    exact task_closer sound running
  push Not at tasks
  cases processQueue : downloader.processQueue with
  | cons block queued =>
      have first : downloader.processQueue[0]? = some block := by
        rw [processQueue]
        rfl
      exact block_closer sound first
  | nil =>
      cases preparing : downloader.preparing with
      | cons sent others =>
          apply prepareFetchLoad_closer sound ?_ preparing
          intro url
          refine ⟨?_, by simp [processQueue]⟩
          intro task resumed running
          exact absurd ⟨resumed, running⟩ (tasks task)
      | nil =>
          have blocked : ¬ ∀ block blocks, downloader.cancelQueue = block :: blocks →
              downloader.passes block = false :=
            fun blocked => notSettled ⟨⟨preparing, tasks, processQueue⟩, blocked⟩
          push Not at blocked
          rcases blocked with ⟨block, blocks, queue, passes⟩
          exact resume_closer sound queue (by simpa using passes)

/-- Whatever has happened, the downloader comes to rest once its callers leave it alone and the
server and the queues do their part; then everybody has been answered except for those behind a
load which cannot fail any more, and where nobody has cancelled everybody. -/
theorem settles (run : Run (orderly URL Image) .new history downloader) :
    ∃ later after, Run (settling URL Image) downloader later after ∧ after.Settled ∧
      after.answered + after.waiting = requests history ∧
      ((∀ occurrence ∈ history, ∀ task, occurrence.2 ≠ .cancelDownloadingTask task) →
        after.answered = requests history) := by
  rcases (sound_of_run run).comesToRest with ⟨later, after, settling, sound, settled⟩
  have whole := run.append settling.of_restrict
  have alone : ∀ occurrence ∈ later, occurrence.2.Own := settling.delivered
  have asked : requests (later ++ history) = requests history := by
    rw [requests, List.map_append, List.sum_append, requests, add_eq_right]
    apply List.sum_eq_zero
    intro asked occurred
    rcases List.mem_map.mp occurred with ⟨occurrence, isLater, rfl⟩
    exact DownloadEvent.requested_of_own (alone occurrence isLater)
  have answers := (answered_at_rest whole).2 settled.rest
  rw [asked] at answers
  refine ⟨later, after, settling, settled, answers.1, ?_⟩
  intro kept
  apply answers.2
  intro occurrence occurred task cancelled
  rcases List.mem_append.mp occurred with isLater | earlier
  · have own := alone occurrence isLater
    rw [cancelled] at own
    exact own
  · exact kept occurrence earlier task cancelled

theorem settles_sharedDownload :
    ∃ (history : History (ImageDownloader ℕ ℕ) (DownloadEvent ℕ ℕ))
      (downloader : ImageDownloader ℕ ℕ), Run (orderly ℕ ℕ) .new history downloader ∧
        downloader.answers = [] ∧ ∃ later after, Run (settling ℕ ℕ) downloader later after ∧
          after.answered + after.waiting = requests history := by
  -- the first part of the download: both callers have asked, and data has come
  have script := exists_orderly_run (sharedDownload.take 5)
    (fun _ downloader => downloader.answers.isEmpty) (by decide +kernel)
  rcases script with ⟨history, downloader, run, tested⟩
  rcases settles run with ⟨later, after, settling, _, answers, _⟩
  exact ⟨history, downloader, run, List.isEmpty_iff.mp tested, later, after, settling, answers⟩

/-- The load a block waits for can still fail. -/
def MayFail (downloader : ImageDownloader URL Image) (block : CancelBlock URL Image) : Prop :=
  ∃ url task, downloader.fetchLoad url = some block.fetchLoad ∧
    (downloader.load block.fetchLoad).downloadTask = some task ∧ downloader.Live task

/-- A block can be waited for: it passes its semaphore, or its load can still fail. -/
def Hopeful (downloader : ImageDownloader URL Image) (block : CancelBlock URL Image) : Prop :=
  downloader.passes block = true ∨ downloader.MayFail block

/-- The first block of the cancel queue goes on. -/
def resumes (occurrence : ImageDownloader URL Image × DownloadEvent URL Image) : Bool :=
  match occurrence.2 with
  | .resume => true
  | _ => false

/-- A block of the cancel queue waits, with some others ahead of it, and its load will not fail. -/
structure Stuck (ahead : ℕ) (block : CancelBlock URL Image)
    (downloader : ImageDownloader URL Image) : Prop where
  sound : downloader.Sound
  queued : downloader.cancelQueue[ahead]? = some block
  made : block.fetchLoad < downloader.loads
  semaphore : (downloader.load block.fetchLoad).cancelSemaphore = some 0
  completed : ∀ url task, downloader.fetchLoad url = some block.fetchLoad →
    (downloader.load block.fetchLoad).downloadTask = some task →
    (downloader.task task).completed = true

/-- Steps which keep the queue, the semaphores and the tasks of the loads. -/
theorem Stuck.of_eq {ahead : ℕ} (stuck : Stuck ahead block downloader) (sound : after.Sound)
    (cancelQueue : after.cancelQueue = downloader.cancelQueue)
    (loads : after.loads = downloader.loads)
    (semaphore : ∀ other,
      (after.load other).cancelSemaphore = (downloader.load other).cancelSemaphore)
    (downloadTask : ∀ other,
      (after.load other).downloadTask = (downloader.load other).downloadTask)
    (fetchLoads : ∀ url, after.fetchLoad url = some block.fetchLoad →
      downloader.fetchLoad url = some block.fetchLoad)
    (completed : ∀ task, (downloader.task task).completed = true →
      (after.task task).completed = true) : Stuck ahead block after where
  sound := sound
  queued := by
    rw [cancelQueue]
    exact stuck.queued
  made := by
    rw [loads]
    exact stuck.made
  semaphore := (semaphore block.fetchLoad).trans stuck.semaphore
  completed := by
    intro url task looked isTask
    rw [downloadTask] at isTask
    exact completed task (stuck.completed url task (fetchLoads url looked) isTask)

/-- The others ahead may go on, but not the block. -/
theorem Stuck.resume {ahead : ℕ} {first : CancelBlock URL Image}
    (stuck : Stuck ahead block downloader) (sound : after.Sound)
    (queue : downloader.cancelQueue = first :: blocks) (passes : downloader.passes first = true)
    (written : after = { downloader with
      load := Function.update downloader.load first.fetchLoad
        { downloader.load first.fetchLoad with cancelSemaphore := none }
      cancelQueue := blocks
      preparing := downloader.preparing ++ [(first.url, first.content)] }) :
    ∃ fewer, ahead = fewer + 1 ∧ Stuck fewer block after := by
  have differs : block.fetchLoad ≠ first.fetchLoad := by
    intro same
    simp [ImageDownloader.passes, ← same, stuck.semaphore] at passes
  cases ahead with
  | zero =>
      have isQueued := stuck.queued
      rw [queue, List.getElem?_cons_zero, Option.some.injEq] at isQueued
      exact absurd (congrArg CancelBlock.fetchLoad isQueued.symm) differs
  | succ fewer =>
      have isQueued := stuck.queued
      rw [queue, List.getElem?_cons_succ] at isQueued
      subst written
      refine ⟨fewer, rfl, sound, isQueued, stuck.made, ?_, ?_⟩
      · simpa [differs] using stuck.semaphore
      · intro url task looked isTask
        simp only [Function.update_of_ne differs] at isTask
        exact stuck.completed url task looked isTask

theorem Stuck.next {event : DownloadEvent URL Image} {ahead : ℕ}
    (stuck : Stuck ahead block downloader) (moves : downloader.Moves event after) :
    ∃ left, (if resumes (downloader, event) then 1 else 0) + left = ahead ∧
      Stuck left block after := by
  have sound := stuck.sound.next moves
  cases moves with
  | @wait url content reference found nobody =>
      refine ⟨ahead, Nat.zero_add _, sound, ?_, stuck.made, ?_, ?_⟩
      · have inside := (List.getElem?_eq_some_iff.mp stuck.queued).1
        rw [List.getElem?_append_left inside]
        exact stuck.queued
      · by_cases same : block.fetchLoad = reference
        · simp [← same, stuck.semaphore]
        · simpa [same] using stuck.semaphore
      · intro other task looked isTask
        apply stuck.completed other task looked
        rw [← isTask]
        refine Eq.symm (read_update ImageFetchLoad.downloadTask ?_ block.fetchLoad)
        rfl
  | send wanted =>
      exact ⟨ahead, Nat.zero_add _,
        stuck.of_eq sound rfl rfl (fun _ => rfl) (fun _ => rfl) (fun _ => id) (fun _ => id)⟩
  | join sent found =>
      exact ⟨ahead, Nat.zero_add _,
        stuck.of_eq sound rfl rfl (read_update ImageFetchLoad.cancelSemaphore rfl)
          (read_update ImageFetchLoad.downloadTask rfl) (fun _ => id) (fun _ => id)⟩
  | @make url content place sent unknown idle =>
      have older : block.fetchLoad ≠ downloader.loads := stuck.made.ne
      refine ⟨ahead, Nat.zero_add _, sound, stuck.queued, Nat.lt_succ_of_lt stuck.made, ?_, ?_⟩
      · simpa [older] using stuck.semaphore
      · intro other task looked isTask
        have differs : other ≠ url := by
          rintro rfl
          simp [fetchLoad, older.symm] at looked
        rw [fetchLoad, AList.lookup_insert_ne differs] at looked
        simp only [Function.update_of_ne older] at isTask
        have resumed : task ≠ downloader.tasks := by
          rcases stuck.sound.registered other block.fetchLoad looked with
            ⟨_, held, isHeld, resumed, _⟩
          rw [isTask, Option.some.injEq] at isHeld
          omega
        simpa [resumed] using stuck.completed other task looked isTask
  | resume queue passes =>
      rcases stuck.resume sound queue passes rfl with ⟨fewer, rfl, stuckThen⟩
      exact ⟨fewer, Nat.add_comm .., stuckThen⟩
  | cancel found =>
      exact ⟨ahead, Nat.zero_add _,
        stuck.of_eq sound rfl rfl (read_update ImageFetchLoad.cancelSemaphore rfl)
          (read_update ImageFetchLoad.downloadTask rfl) (fun _ => id) (fun _ => id)⟩
  | cancelNothing => exact ⟨ahead, Nat.zero_add _, stuck⟩
  | respond running =>
      refine ⟨ahead, Nat.zero_add _,
        stuck.of_eq sound rfl rfl (fun _ => rfl) (fun _ => rfl) (fun _ => id) ?_⟩
      intro task completed
      rw [← completed]
      refine read_update DataTask.completed ?_ task
      rfl
  | receive running found isTask =>
      exact ⟨ahead, Nat.zero_add _,
        stuck.of_eq sound rfl rfl (read_update ImageFetchLoad.cancelSemaphore rfl)
          (read_update ImageFetchLoad.downloadTask rfl) (fun _ => id) (fun _ => id)⟩
  | receiveNothing running request unknown => exact ⟨ahead, Nat.zero_add _, stuck⟩
  | @fail event error ended url task reference running found isTask fails =>
      -- the load which fails is another one: its task runs
      have differs : block.fetchLoad ≠ reference := by
        intro same
        have completed := stuck.completed url task (by rw [found, same]) (by rw [same, isTask])
        rw [running.2] at completed
        cases completed
      refine ⟨ahead, ?_, sound, stuck.queued, stuck.made, ?_, ?_⟩
      · cases fails with
        | session code => exact Nat.zero_add _
        | refused invalid => exact Nat.zero_add _
      · simpa [differs] using stuck.semaphore
      · intro other held looked isHeld
        simp only [Function.update_of_ne differs] at isHeld
        have completed := stuck.completed other held (lookup_of_erase looked) isHeld
        have apart : held ≠ task := by
          rintro rfl
          rw [running.2] at completed
          cases completed
        simpa [apart] using completed
  | @finish url task error running request unknown =>
      refine ⟨ahead, Nat.zero_add _,
        stuck.of_eq sound rfl rfl (fun _ => rfl) (fun _ => rfl) (fun _ => id) ?_⟩
      intro other completed
      by_cases same : other = task
      · simp [same]
      · simpa [same] using completed
  | @complete url task running request =>
      refine ⟨ahead, Nat.zero_add _,
        stuck.of_eq sound rfl rfl (fun _ => rfl) (fun _ => rfl) (fun _ => id) ?_⟩
      intro other completed
      by_cases same : other = task
      · simp [same]
      · simpa [same] using completed
  | fetch queued found =>
      exact ⟨ahead, Nat.zero_add _,
        stuck.of_eq sound rfl rfl (fun _ => rfl) (fun _ => rfl) (fun _ => id) (fun _ => id)⟩
  | fetchNothing queued unknown =>
      exact ⟨ahead, Nat.zero_add _,
        stuck.of_eq sound rfl rfl (fun _ => rfl) (fun _ => rfl) (fun _ => id) (fun _ => id)⟩
  | process queued looked found isTask =>
      exact ⟨ahead, Nat.zero_add _, stuck.of_eq sound rfl rfl (fun _ => rfl) (fun _ => rfl)
        (fun _ => lookup_of_erase) (fun _ => id)⟩

/-- Only a resumption takes a block off the queue, the first one. -/
theorem cancelQueue_next {event : DownloadEvent URL Image}
    (moves : downloader.Moves event after) :
    downloader.cancelQueue.drop (if resumes (downloader, event) then 1 else 0) <+:
      after.cancelQueue := by
  cases moves with
  | wait found nobody => exact List.prefix_append ..
  | resume queue passes =>
      rw [queue]
      exact List.prefix_refl _
  | fail running found isTask fails =>
      cases fails with
      | session code => exact List.prefix_refl _
      | refused invalid => exact List.prefix_refl _
  | _ => exact List.prefix_refl _

theorem made_of_run (run : Run (orderly URL Image) .new history downloader) :
    ∀ block ∈ downloader.cancelQueue, block.fetchLoad < downloader.loads := by
  induction run with
  | nil => simp [new]
  | snoc run step ih =>
      have moves := moves_of_run run step
      intro block queued
      cases moves with
      | wait found nobody =>
          rcases List.mem_append.mp queued with earlier | last
          · exact ih block earlier
          · cases List.mem_singleton.mp last
            exact ((sound_of_run run).registered _ _ found).1
      | make sent unknown idle => exact Nat.lt_succ_of_lt (ih block queued)
      | resume queue passes =>
          apply ih block
          rw [queue]
          exact List.mem_cons_of_mem _ queued
      | _ => exact ih block queued

theorem stuck_of_run (run : Run (orderly URL Image) .new history downloader)
    (queued : downloader.cancelQueue[place]? = some block)
    (hopeless : ¬ downloader.Hopeful block) : Stuck place block downloader where
  sound := sound_of_run run
  queued := queued
  made := made_of_run run block (List.mem_of_getElem? queued)
  semaphore := by
    by_contra open'
    apply hopeless
    left
    simpa [passes] using open'
  completed := by
    intro url task looked isTask
    by_contra running
    apply hopeless
    right
    rcases (sound_of_run run).registered url block.fetchLoad looked with
      ⟨_, held, isHeld, resumed, _⟩
    have same : held = task := Option.some.inj (isHeld.symm.trans isTask)
    subst same
    exact ⟨url, held, looked, isTask, resumed, by simpa using running⟩

theorem Stuck.run {ahead : ℕ} (stuck : Stuck ahead block downloader)
    (run : Run (orderly URL Image) downloader later after) :
    ∃ left, later.countP resumes + left = ahead ∧ Stuck left block after := by
  induction run with
  | nil => exact ⟨ahead, by simp, stuck⟩
  | snoc run step ih =>
      rcases ih with ⟨left, counted, stuckThen⟩
      rcases stuckThen.next (stuckThen.sound.moves step.1 step.2) with ⟨fewer, moved, stuckNow⟩
      refine ⟨fewer, ?_, stuckNow⟩
      rw [List.countP_cons]
      omega

/-- What is left of the queue stays in front. -/
theorem cancelQueue_of_run (sound : downloader.Sound)
    (run : Run (orderly URL Image) downloader later after) :
    after.Sound ∧ downloader.cancelQueue.drop (later.countP resumes) <+: after.cancelQueue := by
  induction run with
  | nil => exact ⟨sound, by simp⟩
  | snoc run step ih =>
      rcases ih with ⟨soundThen, grown⟩
      have moves := soundThen.moves step.1 step.2
      refine ⟨soundThen.next moves, ?_⟩
      rw [List.countP_cons, ← List.drop_drop]
      exact (grown.drop _).trans (cancelQueue_next moves)

omit [DecidableEq URL] in
/-- A failing load signals its semaphore more than once, and every block of it passes. -/
theorem passes_of_failed (block : CancelBlock URL Image)
    (semaphore : (after.load block.fetchLoad).cancelSemaphore =
      (downloader.load block.fetchLoad).cancelSemaphore.map
        (downloader.signalled block.fetchLoad)) : after.passes block = true := by
  have woken : ∀ value, downloader.signalled block.fetchLoad value ≠ 0 := by
    intro value
    unfold signalled
    split
    · split
      · omega
      · omega
    · omega
  cases held : (downloader.load block.fetchLoad).cancelSemaphore with
  | none => simp [ImageDownloader.passes, semaphore, held]
  | some value => simpa [ImageDownloader.passes, semaphore, held] using woken value

/-- A failing load takes hope from nobody. -/
theorem Hopeful.fail {other : CancelBlock URL Image} (hopeful : downloader.Hopeful other)
    (sound : downloader.Sound) (found : downloader.fetchLoad url = some reference)
    (isTask : (downloader.load reference).downloadTask = some task)
    (fetchLoads : after.fetchLoads = downloader.fetchLoads.erase url)
    (load : after.load = Function.update downloader.load reference
      { downloader.load reference with
        cancelSemaphore :=
          (downloader.load reference).cancelSemaphore.map (downloader.signalled reference) })
    (tasks : after.tasks = downloader.tasks)
    (completed : ∀ held, held ≠ task →
      (after.task held).completed = (downloader.task held).completed) : after.Hopeful other := by
  by_cases same : other.fetchLoad = reference
  · have signalled : (after.load other.fetchLoad).cancelSemaphore =
        (downloader.load other.fetchLoad).cancelSemaphore.map
          (downloader.signalled other.fetchLoad) := by
      rw [load, same]
      simp
    exact .inl (passes_of_failed other signalled)
  · rcases hopeful with passes | ⟨otherUrl, otherTask, looked, isOther, resumed, runs⟩
    · left
      simpa [ImageDownloader.passes, load, same] using passes
    · right
      have urlNe : otherUrl ≠ url := by
        rintro rfl
        rw [found, Option.some.injEq] at looked
        exact same looked.symm
      have taskNe : otherTask ≠ task := by
        rintro rfl
        exact urlNe (sound.url_eq looked found (isOther.trans isTask.symm))
      refine ⟨otherUrl, otherTask, ?_, ?_, ?_, ?_⟩
      · rw [fetchLoad, fetchLoads, AList.lookup_erase_ne urlNe]
        exact looked
      · simpa [load, same] using isOther
      · rw [tasks]
        exact resumed
      · rw [completed otherTask taskNe]
        exact runs

/-- Nor does a resumption. -/
theorem Hopeful.resume {other : CancelBlock URL Image} (hopeful : downloader.Hopeful other)
    (block : CancelBlock URL Image) (blocks : List (CancelBlock URL Image))
    (preparing : List (URL × Content Image)) :
    ({ downloader with
      load := Function.update downloader.load block.fetchLoad
        { downloader.load block.fetchLoad with cancelSemaphore := none }
      cancelQueue := blocks
      preparing } : ImageDownloader URL Image).Hopeful other := by
  rcases hopeful with passes | ⟨url, task, looked, isTask, running⟩
  · left
    by_cases same : other.fetchLoad = block.fetchLoad
    · simp [ImageDownloader.passes, same]
    · simpa [ImageDownloader.passes, same] using passes
  · right
    refine ⟨url, task, looked, ?_, running⟩
    rw [← isTask]
    exact read_update ImageFetchLoad.downloadTask (by rfl) other.fetchLoad

/-- The first block goes on, after a failure of its load if it has to wait, and takes hope from
none of the others. -/
theorem resumes_first (sound : downloader.Sound) (queue : downloader.cancelQueue = block :: blocks)
    (hopeful : downloader.Hopeful block) :
    ∃ later after, Run (orderly URL Image) downloader later after ∧ after.Sound ∧
      after.cancelQueue = blocks ∧ later.countP resumes = 1 ∧
      ∀ other, downloader.Hopeful other → after.Hopeful other := by
  -- where the block passes it goes on
  have goesOn : ∀ downloader : ImageDownloader URL Image, downloader.Sound →
      downloader.cancelQueue = block :: blocks → downloader.passes block = true →
      ∃ after, Run (orderly URL Image) downloader [(downloader, .resume)] after ∧ after.Sound ∧
        after.cancelQueue = blocks ∧
        ∀ other, downloader.Hopeful other → after.Hopeful other := by
    intro downloader sound queue passes
    have handled : (downloader.next .resume).isSome = true := by
      simp [next, queue, passes]
    rcases Option.isSome_iff_exists.mp handled with ⟨after, handled⟩
    have moves := sound.moves (by trivial) handled
    refine ⟨after, Run.nil.snoc ⟨trivial, handled⟩, sound.next moves, ?_⟩
    cases moves with
    | fail _ _ _ fails => cases fails
    | resume isQueue _ =>
        rw [queue, List.cons.injEq] at isQueue
        rcases isQueue with ⟨rfl, rfl⟩
        exact ⟨rfl, fun other hopeful => hopeful.resume block blocks _⟩
  by_cases passes : downloader.passes block = true
  · rcases goesOn downloader sound queue passes with ⟨after, run, soundThen, left, kept⟩
    exact ⟨_, after, run, soundThen, left, rfl, kept⟩
  · rcases hopeful.resolve_left passes with ⟨url, task, looked, isTask, running⟩
    have handled : downloader.next (.didCompleteWithError task (some 0)) =
        some (downloader.didCompleteWithError task (some 0)) := by
      simp [next, running]
    have moves := sound.moves (by trivial) handled
    have failed : Run (orderly URL Image) downloader
        [(downloader, .didCompleteWithError task (some 0))] _ :=
      Run.nil.snoc ⟨trivial, handled⟩
    have woken : (downloader.didCompleteWithError task (some 0)).cancelQueue = block :: blocks ∧
        (downloader.didCompleteWithError task (some 0)).passes block = true ∧
        ∀ other, downloader.Hopeful other →
          (downloader.didCompleteWithError task (some 0)).Hopeful other := by
      have soundThen := sound.next moves
      generalize downloader.didCompleteWithError task (some 0) = after at moves
      cases moves with
      | @fail _ error ended other failing reference runs found isOther fails =>
          have isSame : failing = task := by
            cases fails with
            | session code => rfl
          subst isSame
          have flight := sound.flight running looked isTask
          have same := flight.url_eq (sound.flight runs found isOther).request
          subst same
          rw [looked, Option.some.injEq] at found
          subst found
          refine ⟨queue, ?_, ?_⟩
          · apply @passes_of_failed _ _ downloader
            simp
          intro waiting hopeful
          refine hopeful.fail sound looked isTask rfl rfl rfl ?_
          intro held differs
          simp [differs]
      | finish _ request unknown =>
          have flight := sound.flight running looked isTask
          rw [flight.url_eq request, unknown] at looked
          cases looked
    rcases goesOn _ (sound.next moves) woken.1 woken.2.1 with
      ⟨after, run, soundThen, left, kept⟩
    exact ⟨_, after, failed.append run, soundThen, left, rfl,
      fun other hopeful => kept other (woken.2.2 other hopeful)⟩

/-- The first blocks go on, one after the other, if all of them can. -/
theorem resumes_all (number : ℕ) (sound : downloader.Sound)
    (inside : number ≤ downloader.cancelQueue.length)
    (hopeful : ∀ block ∈ downloader.cancelQueue.take number, downloader.Hopeful block) :
    ∃ later after, Run (orderly URL Image) downloader later after ∧
      later.countP resumes = number := by
  induction number generalizing downloader with
  | zero => exact ⟨[], downloader, .nil, rfl⟩
  | succ number ih =>
      cases queue : downloader.cancelQueue with
      | nil =>
          rw [queue] at inside
          simp at inside
      | cons block blocks =>
          rw [queue] at inside hopeful
          rw [List.take_succ_cons] at hopeful
          rcases resumes_first sound queue (hopeful block List.mem_cons_self) with
            ⟨first, middle, run, soundThen, left, once, kept⟩
          have hopefulThen : ∀ other ∈ middle.cancelQueue.take number, middle.Hopeful other := by
            rw [left]
            intro other isOther
            exact kept other (hopeful other (List.mem_cons_of_mem _ isOther))
          have insideThen : number ≤ middle.cancelQueue.length := by
            rw [left]
            simpa using inside
          rcases ih soundThen insideThen hopefulThen with ⟨later, after, rest, counted⟩
          refine ⟨later ++ first, after, run.append rest, ?_⟩
          rw [List.countP_append, counted, once]

/-- A request on the cancel queue goes on, in some continuation, if and only if it and all requests
ahead of it can be waited for.  Otherwise no continuation gets to it: the queue keeps it, and all
that is behind it. -/
theorem resumes_iff (run : Run (orderly URL Image) .new history downloader)
    (waits : place < downloader.cancelQueue.length) :
    ((∃ later after, Run (orderly URL Image) downloader later after ∧
        place < later.countP resumes) ↔
      ∀ block ∈ downloader.cancelQueue.take (place + 1), downloader.Hopeful block) ∧
    (¬ (∀ block ∈ downloader.cancelQueue.take (place + 1), downloader.Hopeful block) →
      ∀ later after, Run (orderly URL Image) downloader later after →
        later.countP resumes ≤ place ∧
        downloader.cancelQueue.drop (later.countP resumes) <+: after.cancelQueue) := by
  have sound := sound_of_run run
  have hopeless : ¬ (∀ block ∈ downloader.cancelQueue.take (place + 1),
      downloader.Hopeful block) → ∀ later after,
      Run (orderly URL Image) downloader later after → later.countP resumes ≤ place := by
    intro hopeless later after continued
    push Not at hopeless
    rcases hopeless with ⟨block, isAhead, hopeless⟩
    rcases List.mem_iff_getElem?.mp isAhead with ⟨ahead, isPlace⟩
    rw [List.getElem?_take] at isPlace
    split at isPlace
    next near =>
      rcases (stuck_of_run run isPlace hopeless).run continued with ⟨left, counted, _⟩
      omega
    next => cases isPlace
  refine ⟨⟨?_, ?_⟩, ?_⟩
  · rintro ⟨later, after, continued, gone⟩
    by_contra stuck
    have few := hopeless stuck later after continued
    omega
  · intro hopeful
    rcases resumes_all (place + 1) sound waits hopeful with ⟨later, after, continued, counted⟩
    exact ⟨later, after, continued, by omega⟩
  · intro stuck later after continued
    exact ⟨hopeless stuck later after continued, (cancelQueue_of_run sound continued).2⟩

/-- The first caller cancels after the data task has completed; the second caller asks before the
block of that task has run.  A third request waits behind, for a load which can fail. -/
theorem resumes_iff_cancelledTooLate :
    ∃ (history : History (ImageDownloader ℕ ℕ) (DownloadEvent ℕ ℕ))
      (downloader : ImageDownloader ℕ ℕ), Run (orderly ℕ ℕ) .new history downloader ∧
        downloader.cancelQueue.length = 2 ∧
        ¬ ∃ later after, Run (orderly ℕ ℕ) downloader later after ∧ 1 < later.countP resumes := by
  have script := exists_orderly_run ([.downloadImage 0 (caller 0), .prepareFetchLoad 0,
      .didReceiveData 0 [255], .didCompleteWithError 0 none, .cancelDownloadingTask 0,
      .downloadImage 0 (caller 1), .fetch 0, .process 0, .downloadImage 1 (caller 2),
      .prepareFetchLoad 0, .cancelDownloadingTask 1, .downloadImage 1 (caller 3)] :
        List (DownloadEvent ℕ ℕ))
    (fun _ downloader => downloader.cancelQueue.length == 2 &&
      downloader.cancelQueue.head?.any fun block => !downloader.passes block &&
        downloader.fetchLoads.entries.all fun entry => entry.2 != block.fetchLoad)
    (by decide +kernel)
  rcases script with ⟨history, downloader, run, tested⟩
  simp only [Bool.and_eq_true, beq_iff_eq, Option.any_eq_true] at tested
  rcases tested with ⟨two, block, first, waits, noLoad⟩
  refine ⟨history, downloader, run, two, ?_⟩
  rw [(resumes_iff run (by omega)).1]
  intro hopeful
  have ahead : block ∈ downloader.cancelQueue.take (1 + 1) := by
    rw [List.take_of_length_le (by omega)]
    exact List.mem_of_head? first
  rcases hopeful block ahead with passes | ⟨url, task, looked, _⟩
  · simp [passes] at waits
  · have differs := List.all_eq_true.mp noLoad _ (mem_entries_iff.mpr looked)
    simp at differs

end ImageDownloader

end Kingfisher

end OneSecond
