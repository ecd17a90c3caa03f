import OneSecond.Kingfisher.Downloads

/-!
# Refused responses

A task loses its load only where its response is refused, or where it is over
(`Claimed`).  So where the server's responses are accepted every run is orderly
(`orderly_of_accepting`).  Where a response was refused a run is orderly up to the
first request which fetches the URL afresh too early.
-/

namespace OneSecond

namespace Kingfisher

open Runs Dictionaries

variable {URL Image : Type} [DecidableEq URL]

namespace DownloadEvent

/-- A response has no status code or one the downloader takes as valid. -/
def Accepted : DownloadEvent URL Image → Prop
  | .didReceiveResponse _ (some statusCode) =>
      ImageDownloader.isValidStatusCode statusCode = true
  | _ => True

instance : DecidablePred (Accepted : DownloadEvent URL Image → Prop)
  | .didReceiveResponse _ (some statusCode) =>
      inferInstanceAs (Decidable (ImageDownloader.isValidStatusCode statusCode = true))
  | .didReceiveResponse _ none => .isTrue trivial
  | .downloadImage _ _ => .isTrue trivial
  | .prepareFetchLoad _ => .isTrue trivial
  | .resume => .isTrue trivial
  | .cancelDownloadingTask _ => .isTrue trivial
  | .didReceiveData _ _ => .isTrue trivial
  | .didCompleteWithError _ _ => .isTrue trivial
  | .fetch _ => .isTrue trivial
  | .process _ => .isTrue trivial

end DownloadEvent

namespace ImageDownloader

variable {downloader after : ImageDownloader URL Image} {url : URL} {reference task place : ℕ}
  {event : DownloadEvent URL Image}
  {history : History (ImageDownloader URL Image) (DownloadEvent URL Image)}

/-- A response for the task was refused. -/
def Refused (history : History (ImageDownloader URL Image) (DownloadEvent URL Image)) (task : ℕ) :
    Prop :=
  ∃ occurrence ∈ history, ∃ statusCode, isValidStatusCode statusCode = false ∧
    occurrence.2 = .didReceiveResponse task (some statusCode)

/-- What is under way has a load, as long as no response for it was refused. -/
structure Claimed (history : History (ImageDownloader URL Image) (DownloadEvent URL Image))
    (downloader : ImageDownloader URL Image) : Prop where
  tasks : ∀ task url, ¬ Refused history task → downloader.Live task →
    (downloader.task task).originalRequest = some url → downloader.fetchLoad url ≠ none
  blocks : ∀ block ∈ downloader.processQueue, ¬ Refused history block.task →
    downloader.fetchLoad block.url ≠ none

omit [DecidableEq URL] in
theorem not_refused_of_cons (kept : ¬ Refused ((downloader, event) :: history) task) :
    ¬ Refused history task := by
  rintro ⟨occurrence, occurred, refusal⟩
  exact kept ⟨occurrence, List.mem_cons_of_mem _ occurred, refusal⟩

/-- Sections which take some loads away, and what was under way for them. -/
theorem Claimed.shrink (claimed : Claimed history downloader) (gone : URL → Prop)
    (fetchLoads : ∀ url, ¬ gone url → after.fetchLoad url = downloader.fetchLoad url)
    (tasks : ∀ task url, ¬ Refused ((downloader, event) :: history) task → after.Live task →
      (after.task task).originalRequest = some url →
      downloader.Live task ∧ (downloader.task task).originalRequest = some url ∧ ¬ gone url)
    (blocks : ∀ block ∈ after.processQueue, ¬ gone block.url ∧
      (¬ Refused history block.task → downloader.fetchLoad block.url ≠ none)) :
    Claimed ((downloader, event) :: history) after where
  tasks := by
    intro task url kept running asked
    rcases tasks task url kept running asked with ⟨wasRunning, wasAsked, stays⟩
    rw [fetchLoads url stays]
    exact claimed.tasks task url (not_refused_of_cons kept) wasRunning wasAsked
  blocks := by
    intro block queued kept
    rcases blocks block queued with ⟨stays, registered⟩
    rw [fetchLoads block.url stays]
    exact registered (not_refused_of_cons kept)

/-- Sections which leave the dictionary alone. -/
theorem Claimed.of_eq (claimed : Claimed history downloader)
    (fetchLoads : after.fetchLoads = downloader.fetchLoads) (tasks : after.tasks = downloader.tasks)
    (request : ∀ task,
      (after.task task).originalRequest = (downloader.task task).originalRequest)
    (completed : ∀ task, (after.task task).completed = false →
      (downloader.task task).completed = false)
    (blocks : ∀ block ∈ after.processQueue, ¬ Refused history block.task →
      downloader.fetchLoad block.url ≠ none) : Claimed ((downloader, event) :: history) after := by
  apply claimed.shrink (fun _ => False)
  · intro url _
    rw [fetchLoad, fetchLoad, fetchLoads]
  · rintro task url _ ⟨resumed, running⟩ asked
    rw [tasks] at resumed
    rw [request] at asked
    exact ⟨⟨resumed, completed task running⟩, asked, id⟩
  · intro block queued
    exact ⟨id, blocks block queued⟩

/-- A task loses its load only where its response is refused. -/
theorem Claimed.next (claimed : Claimed history downloader) (sound : downloader.Sound)
    (moves : downloader.Moves event after) : Claimed ((downloader, event) :: history) after := by
  cases moves with
  | @make url content place sent unknown idle =>
      have stays : ∀ other, downloader.fetchLoad other ≠ none →
          (downloader.fetchLoads.insert url downloader.loads).lookup other ≠ none := by
        intro other registered
        by_cases same : other = url
        · subst same
          simp
        · rw [AList.lookup_insert_ne same]
          exact registered
      refine ⟨?_, ?_⟩
      · rintro task other kept ⟨resumed, running⟩ asked
        by_cases isNew : task = downloader.tasks
        · subst isNew
          have same : url = other := by simpa using asked
          subst same
          simp [fetchLoad]
        · simp only [Function.update_of_ne isNew] at running asked
          have inside : task < downloader.tasks := by
            simp only at resumed
            omega
          exact stays other
            (claimed.tasks task other (not_refused_of_cons kept) ⟨inside, running⟩ asked)
      · intro block queued kept
        exact stays _ (claimed.blocks block queued (not_refused_of_cons kept))
  | @fail event error ended url task reference running found isTask fails =>
      have flight := sound.flight running found isTask
      refine claimed.shrink (· = url) ?_ ?_ ?_
      · intro other differs
        exact AList.lookup_erase_ne differs
      · rintro other asked kept ⟨resumed, runs⟩ isAsked
        have differs : other ≠ task := by
          rintro rfl
          cases fails with
          | session code => simp at runs
          | refused invalid => exact kept ⟨_, List.mem_cons_self, _, invalid, rfl⟩
        simp only [Function.update_of_ne differs] at runs isAsked
        refine ⟨⟨resumed, runs⟩, isAsked, ?_⟩
        rintro rfl
        exact differs (flight.alone other ⟨resumed, runs⟩ isAsked)
      · intro block queued
        exact ⟨flight.blocks block queued, claimed.blocks block queued⟩
  | @finish url task error running request unknown =>
      exact claimed.of_eq rfl rfl (read_update DataTask.originalRequest rfl)
        (fun other runs => (running_of_ended runs).2) claimed.blocks
  | @complete url task running request =>
      refine claimed.of_eq rfl rfl (read_update DataTask.originalRequest rfl) ?_ ?_
      · intro other runs
        exact (running_of_ended runs).2
      · intro block queued kept
        rcases List.mem_append.mp queued with earlier | last
        · exact claimed.blocks block earlier kept
        · cases List.mem_singleton.mp last
          exact claimed.tasks task url kept running request
  | @fetch place reference block queued found =>
      refine claimed.of_eq rfl rfl (fun _ => rfl) (fun _ => id) ?_
      intro other isQueued kept
      rcases List.mem_or_eq_of_mem_set isQueued with earlier | rfl
      · exact claimed.blocks other earlier kept
      · exact claimed.blocks block (List.mem_of_getElem? queued) kept
  | @fetchNothing place block queued unknown =>
      refine claimed.of_eq rfl rfl (fun _ => rfl) (fun _ => id) ?_
      intro other isQueued
      exact claimed.blocks other (List.mem_of_mem_eraseIdx isQueued)
  | @process place reference block queued looked found isTask =>
      refine claimed.shrink (· = block.url) ?_ ?_ ?_
      · intro other differs
        exact AList.lookup_erase_ne differs
      · rintro task url _ running asked
        refine ⟨running, asked, ?_⟩
        rintro rfl
        rcases sound.live task running with ⟨flown, flight⟩
        exact flight.blocks block (List.mem_of_getElem? queued) (flight.url_eq asked).symm
      · intro other isQueued
        rcases (mem_eraseIdx_iff sound.distinct queued).mp isQueued with ⟨wasQueued, differs⟩
        exact ⟨differs, claimed.blocks other wasQueued⟩
  | @respond task statusCode running =>
      have completed : ∀ other, (Function.update downloader.task task
          { downloader.task task with statusCode } other).completed =
          (downloader.task other).completed :=
        read_update DataTask.completed rfl
      refine claimed.of_eq rfl rfl (read_update DataTask.originalRequest rfl) ?_ claimed.blocks
      intro other runs
      rwa [← completed]
  | _ => exact claimed.of_eq rfl rfl (fun _ => rfl) (fun _ => id) claimed.blocks

theorem claimed_of_run (run : Run (orderly URL Image) .new history downloader) :
    Claimed history downloader := by
  induction run with
  | nil =>
      refine ⟨?_, by simp [new]⟩
      rintro task url _ ⟨resumed, _⟩
      simp [new] at resumed
  | snoc run step ih => exact ih.next (sound_of_run run) (moves_of_run run step)

/-- Where no response was refused, whatever comes next is orderly. -/
theorem Claimed.orderly (claimed : Claimed history downloader)
    (kept : ∀ task, ¬ Refused history task) (event : DownloadEvent URL Image) :
    downloader.Orderly event := by
  cases event with
  | prepareFetchLoad place =>
      intro request _ unknown
      constructor
      · intro task resumed running asked
        exact claimed.tasks task request.1 (kept task) ⟨resumed, running⟩ asked unknown
      · rintro block queued same
        apply claimed.blocks block queued (kept block.task)
        rw [same, unknown]
  | _ => trivial

omit [DecidableEq URL] in
theorem not_refused_of_accepted (accepted : ∀ occurrence ∈ history, occurrence.2.Accepted)
    (task : ℕ) : ¬ Refused history task := by
  rintro ⟨occurrence, occurred, statusCode, invalid, isResponse⟩
  have valid := accepted occurrence occurred
  rw [isResponse] at valid
  change isValidStatusCode statusCode = true at valid
  rw [invalid] at valid
  cases valid

/-- The downloader where every response is accepted. -/
def accepting (URL Image : Type) [DecidableEq URL] :
    System (ImageDownloader URL Image) (DownloadEvent URL Image) :=
  (downloads URL Image).restrict fun _ event => event.Accepted

/-- Only a refused response can make a run disorderly. -/
theorem orderly_of_accepting (run : Run (accepting URL Image) .new history downloader) :
    Run (orderly URL Image) .new history downloader := by
  have accepted := run.delivered
  induction run with
  | nil => exact .nil
  | @snoc history downloader after event run step ih =>
      have earlier : ∀ occurrence ∈ history, occurrence.2.Accepted := fun occurrence occurred =>
        accepted occurrence (List.mem_cons_of_mem _ occurred)
      have claimed := claimed_of_run (ih earlier)
      exact (ih earlier).snoc ⟨claimed.orderly (not_refused_of_accepted earlier) event, step.2⟩

/-- A task whose response was refused goes on.  When it completes beside the task of a later
caller, both blocks find the load of that caller. -/
example :
    (execute next (new : ImageDownloader ℕ ℕ)
      [.downloadImage 0 (caller 0), .prepareFetchLoad 0, .didReceiveResponse 0 (some 404),
        .downloadImage 0 (caller 1), .prepareFetchLoad 0, .didCompleteWithError 0 none,
        .didCompleteWithError 1 none, .fetch 0, .fetch 1, .process 0, .process 0]).any
      (fun result => result.2.answers.map (fun answer => answer.content.completionHandler) =
        [0, 1, 1]) = true := by
  decide +kernel

/-- The same is orderly where the refused task completes first. -/
example :
    (execute (fun (downloader : ImageDownloader ℕ ℕ) event =>
      if downloader.Orderly event then downloader.next event else none) .new
      [.downloadImage 0 (caller 0), .prepareFetchLoad 0, .didReceiveResponse 0 (some 404),
        .downloadImage 0 (caller 1), .didCompleteWithError 0 none, .prepareFetchLoad 0,
        .didCompleteWithError 1 none, .fetch 0, .process 0]).any
      (fun result => result.2.answers.map (fun answer => answer.content.completionHandler) =
        [0, 1]) = true := by
  decide +kernel

end ImageDownloader

end Kingfisher

end OneSecond
