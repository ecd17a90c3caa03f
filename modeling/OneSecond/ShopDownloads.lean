import OneSecond.Kingfisher.Origins
import OneSecond.ShopImages

/-!
# From the catalogue to the image views

The shop's cells and the manager which retrieves their images, run together:
`setImage` passes a closure for its image view to `retrieveImage`, and what a
retrieval completes with is handed to its closure at once, both being on the main
queue.  The shop asks for images in no other way, and cancels no download.  A
later visit of the shop loads cells of its own.

The image views go through a run of `ShopImages`, where images arrive from
anywhere (`Mirrors`), the manager through one of its own (`managed_of_run`).  So
what was proved of each holds of both together: in orderly runs the images shown
were made for the URLs of the entries.
-/

namespace OneSecond

open Runs Kingfisher Dictionaries

variable {URL Image : Type}

structure ShopDownloads (URL Image : Type) where
  leftImageViews : List (ImageView URL Image)
  manager : KingfisherManager URL Image
  /-- The closures of the manager's retrievals, in their order. -/
  closures : List (Retrieval URL)

inductive ShopEvent (URL Image : Type) where
  | cellForItemAt (call : CellCall)
  | manager (event : ManagerEvent URL Image)

/-- The URL whose image an entry's cell asks the manager for. -/
def CellCall.imageURL (url : String → Option URL) (call : CellCall) : Option URL :=
  call.shop.powerUps[call.row]?.bind (PowerUp.leftImage url)

namespace ShopDownloads

variable [DecidableEq URL]

/-- The shop opens, with the files of earlier launches. -/
def opened (files : String → Option Data) : ShopDownloads URL Image :=
  ⟨[], .launched files, []⟩

/-- The closure of a retrieval is called. -/
def complete (shop : ShopDownloads URL Image) (completion : ℕ × Option Image) :
    ShopDownloads URL Image :=
  match shop.closures[completion.1]? with
  | some closure =>
      match shop.leftImageViews[closure.cell]? with
      | some view =>
          { shop with
            leftImageViews :=
              shop.leftImageViews.set closure.cell (view.retrieved closure.url completion.2) }
      | none => shop
  | none => shop

/-- The manager takes a step, and what it completes is handed on. -/
def advance (shop : ShopDownloads URL Image) (manager : KingfisherManager URL Image) :
    ShopDownloads URL Image :=
  (manager.completed.drop shop.manager.completed.length).foldl complete { shop with manager }

/-- `cellForItemAt`, as far as images go. -/
def cellForItemAt (url : String → Option URL) (options : ManagerOptions URL Image)
    (shop : ShopDownloads URL Image) (call : CellCall) (view : ImageView URL Image)
    (powerUp : PowerUp) : ShopDownloads URL Image :=
  let leftImageViews := call.setView shop.leftImageViews (powerUp.setLeftImage url view)
  match powerUp.leftImage url with
  | some imageURL =>
      let closure : Retrieval URL := ⟨call.cell shop.leftImageViews, imageURL⟩
      let shop := { shop with leftImageViews, closures := shop.closures ++ [closure] }
      shop.advance (shop.manager.retrieveImage options imageURL)
  | none => { shop with leftImageViews }

def next (url : String → Option URL) (options : ManagerOptions URL Image)
    (shop : ShopDownloads URL Image) : ShopEvent URL Image → Option (ShopDownloads URL Image)
  | .cellForItemAt call =>
      match call.dequeuedView shop.leftImageViews, call.shop.powerUps[call.row]? with
      | some view, some powerUp => some (shop.cellForItemAt url options call view powerUp)
      | _, _ => none
  | .manager event =>
      if event.Own then (shop.manager.next options event).map shop.advance else none

/-- The shop under every order of calls and of the manager's steps. -/
def system (url : String → Option URL) (options : ManagerOptions URL Image) :
    System (ShopDownloads URL Image) (ShopEvent URL Image) where
  Step shop event after := shop.next url options event = some after

/-- The manager's downloader makes a load only while its URL is idle. -/
def Orderly (shop : ShopDownloads URL Image) : ShopEvent URL Image → Prop
  | .manager event => shop.manager.Orderly event
  | .cellForItemAt _ => True

instance (shop : ShopDownloads URL Image) : DecidablePred shop.Orderly
  | .manager event => inferInstanceAs (Decidable (shop.manager.Orderly event))
  | .cellForItemAt _ => .isTrue trivial

/-- The shop in orderly runs. -/
def orderly (url : String → Option URL) (options : ManagerOptions URL Image) :
    System (ShopDownloads URL Image) (ShopEvent URL Image) :=
  (system url options).restrict Orderly

/-- The step of the manager in a step of the shop. -/
def managerEvent (url : String → Option URL) : ShopEvent URL Image → Option (ManagerEvent URL Image)
  | .cellForItemAt call => (call.imageURL url).map .retrieveImage
  | .manager event => some event

/-- What the manager has done. -/
def managed (url : String → Option URL)
    (history : History (ShopDownloads URL Image) (ShopEvent URL Image)) :
    History (KingfisherManager URL Image) (ManagerEvent URL Image) :=
  history.filterMap fun occurrence =>
    (managerEvent url occurrence.2).map (Prod.mk occurrence.1.manager)

/-- The calls for the cells. -/
def cellCalls (history : History (ShopDownloads URL Image) (ShopEvent URL Image)) :
    History (ShopImages URL Image) (ImageEvent Image) :=
  history.filterMap fun occurrence =>
    match occurrence.2 with
    | .cellForItemAt call => some (⟨occurrence.1.leftImageViews, []⟩, .cellForItemAt call)
    | .manager _ => none

section Runs

variable {url : String → Option URL} {options : ManagerOptions URL Image}
  {shop after : ShopDownloads URL Image} {event : ShopEvent URL Image}
  {history : History (ShopDownloads URL Image) (ShopEvent URL Image)}
  {seen : History (ShopImages URL Image) (ImageEvent Image)} {images : ShopImages URL Image}
  {delivered : List (ℕ × Option Image)} {completion : ℕ × Option Image}
  {files : String → Option Data}

@[simp]
theorem manager_complete : (shop.complete completion).manager = shop.manager := by
  unfold complete
  split
  · split
    · rfl
    · rfl
  · rfl

@[simp]
theorem closures_complete : (shop.complete completion).closures = shop.closures := by
  unfold complete
  split
  · split
    · rfl
    · rfl
  · rfl

theorem manager_completeAll (completions : List (ℕ × Option Image)) :
    (completions.foldl complete shop).manager = shop.manager := by
  induction completions generalizing shop with
  | nil => rfl
  | cons completion completions ih =>
      rw [List.foldl_cons, ih]
      exact manager_complete

theorem closures_completeAll (completions : List (ℕ × Option Image)) :
    (completions.foldl complete shop).closures = shop.closures := by
  induction completions generalizing shop with
  | nil => rfl
  | cons completion completions ih =>
      rw [List.foldl_cons, ih]
      exact closures_complete

@[simp]
theorem manager_advance (manager : KingfisherManager URL Image) :
    (shop.advance manager).manager = manager :=
  manager_completeAll _

@[simp]
theorem closures_advance (manager : KingfisherManager URL Image) :
    (shop.advance manager).closures = shop.closures :=
  closures_completeAll _

/-- What a step of the shop is. -/
theorem next_cases (stepped : shop.next url options event = some after) :
    (∃ call view powerUp, event = .cellForItemAt call ∧
      call.dequeuedView shop.leftImageViews = some view ∧
      call.shop.powerUps[call.row]? = some powerUp ∧
      after = shop.cellForItemAt url options call view powerUp) ∨
    ∃ managerEvent manager, event = .manager managerEvent ∧ managerEvent.Own = true ∧
      shop.manager.next options managerEvent = some manager ∧ after = shop.advance manager := by
  cases event with
  | cellForItemAt call =>
      left
      simp only [next] at stepped
      split at stepped
      next view powerUp dequeued isEntry =>
        cases stepped
        exact ⟨call, view, powerUp, rfl, dequeued, isEntry, rfl⟩
      next => cases stepped
  | manager managerEvent =>
      right
      simp only [next, Option.ite_none_right_eq_some, Option.map_eq_some_iff] at stepped
      rcases stepped with ⟨own, manager, managerStepped, rfl⟩
      exact ⟨managerEvent, manager, rfl, own, managerStepped, rfl⟩

/-- The manager takes the step which the shop's step says, or none. -/
inductive Manages (options : ManagerOptions URL Image)
    (manager after : KingfisherManager URL Image) : Option (ManagerEvent URL Image) → Prop where
  | idle (same : after = manager) : Manages options manager after none
  | step {event : ManagerEvent URL Image} (orderly : manager.Orderly event)
      (stepped : manager.next options event = some after) :
      Manages options manager after (some event)

theorem manages_next (orderly : shop.Orderly event)
    (stepped : shop.next url options event = some after) :
    Manages options shop.manager after.manager (managerEvent url event) := by
  rcases next_cases stepped with
    ⟨call, view, powerUp, rfl, _, isEntry, rfl⟩ | ⟨event, manager, rfl, _, managerStepped, rfl⟩
  · unfold cellForItemAt
    simp only [managerEvent, CellCall.imageURL, isEntry, Option.bind_some]
    split
    next imageURL wanted =>
      rw [wanted]
      apply Manages.step (by trivial)
      rw [manager_advance]
      rfl
    next wanted =>
      rw [wanted]
      exact .idle rfl
  · rw [manager_advance]
    exact .step orderly managerStepped

omit [DecidableEq URL] in
theorem managed_cons (shop : ShopDownloads URL Image) (event : ShopEvent URL Image) :
    managed url ((shop, event) :: history) =
      ((managerEvent url event).map (Prod.mk shop.manager)).toList ++ managed url history := by
  rw [managed, List.filterMap_cons]
  cases managerEvent url event with
  | none => rfl
  | some managerEvent => rfl

theorem managed_of_run (run : Run (orderly url options) (opened files) history shop) :
    Run (KingfisherManager.orderly options) (.launched files) (managed url history)
      shop.manager := by
  induction run with
  | nil => exact .nil
  | @snoc history shop after event run step ih =>
      have manages := manages_next step.1 step.2
      rw [managed_cons]
      generalize managerEvent url event = managerStep at manages
      cases manages with
      | idle same =>
          rw [same]
          exact ih
      | step orderly stepped => exact ih.snoc ⟨orderly, stepped⟩

/-- A response for a download is one the downloader takes as valid. -/
def Accepted : ShopEvent URL Image → Prop
  | .manager event => KingfisherManager.Accepted event
  | .cellForItemAt _ => True

omit [DecidableEq URL] in
theorem accepted_of_managed
    {managing : KingfisherManager URL Image × ManagerEvent URL Image}
    (accepted : ∀ occurrence ∈ history, Accepted occurrence.2)
    (occurred : managing ∈ managed url history) : KingfisherManager.Accepted managing.2 := by
  rcases List.mem_filterMap.mp occurred with ⟨⟨shop, event⟩, occurs, isManaging⟩
  rcases Option.map_eq_some_iff.mp isManaging with ⟨managerStep, isStep, rfl⟩
  cases event with
  | cellForItemAt call =>
      rcases Option.map_eq_some_iff.mp isStep with ⟨_, _, rfl⟩
      trivial
  | manager event =>
      cases isStep
      exact accepted _ occurs

/-- The shop where every response is accepted. -/
def accepting (url : String → Option URL) (options : ManagerOptions URL Image) :
    System (ShopDownloads URL Image) (ShopEvent URL Image) :=
  (system url options).restrict fun _ event => Accepted event

/-- As for the manager, only a refused response can make a run disorderly. -/
theorem orderly_of_accepting (run : Run (accepting url options) (opened files) history shop) :
    Run (orderly url options) (opened files) history shop := by
  have accepted := run.delivered
  induction run with
  | nil => exact .nil
  | @snoc history shop after event run step ih =>
      have earlier : ∀ occurrence ∈ history, Accepted occurrence.2 := fun occurrence occurred =>
        accepted occurrence (List.mem_cons_of_mem _ occurred)
      refine (ih earlier).snoc ⟨?_, step.2⟩
      cases event with
      | manager event =>
          exact KingfisherManager.orderly_of_accepted (managed_of_run (ih earlier))
            (fun managing occurred => accepted_of_managed earlier occurred) event
      | cellForItemAt call => trivial

/-- The shop cancels no download. -/
theorem uncancelled_of_run (run : Run (orderly url options) (opened files) history shop) :
    ∀ occurrence ∈ managed url history, ∀ task,
      occurrence.2 ≠ .download (.cancelDownloadingTask task) := by
  induction run with
  | nil =>
      intro occurrence occurred
      cases occurred
  | @snoc history shop after event run step ih =>
      intro occurrence occurred task cancelled
      rw [managed_cons] at occurred
      rcases List.mem_append.mp occurred with now | before
      · rcases Option.map_eq_some_iff.mp (Option.mem_toList.mp now) with
          ⟨managerStep, isStep, rfl⟩
        change managerStep = _ at cancelled
        subst cancelled
        rcases next_cases step.2 with
          ⟨call, _, _, rfl, _⟩ | ⟨managerEvent, _, rfl, own, _⟩
        · rcases Option.map_eq_some_iff.mp isStep with ⟨_, _, isOther⟩
          cases isOther
        · cases isStep
          cases own
      · exact ih occurrence before task cancelled

/-- Each retrieval has a closure, which is for its URL. -/
theorem urls_of_run (run : Run (orderly url options) (opened files) history shop) :
    shop.closures.map Retrieval.url = shop.manager.retrievals := by
  induction run with
  | nil => rfl
  | @snoc history shop after event run step ih =>
      rcases next_cases step.2 with
        ⟨call, view, powerUp, rfl, _, isEntry, rfl⟩ |
        ⟨event, manager, rfl, own, managerStepped, rfl⟩
      · unfold cellForItemAt
        dsimp only
        split
        next imageURL wanted =>
          have asks : shop.manager.next options (.retrieveImage imageURL) =
              some (shop.manager.retrieveImage options imageURL) := rfl
          rw [manager_advance, closures_advance, KingfisherManager.retrievals_next asks,
            List.map_append, ih]
          rfl
        next => exact ih
      · rw [manager_advance, closures_advance, KingfisherManager.retrievals_next managerStepped, ih]
        cases event with
        | retrieveImage => cases own
        | _ => exact (List.append_nil _).symm

/-- The closures which some completions call. -/
def called (shop : ShopDownloads URL Image) (completions : List (ℕ × Option Image)) :
    Multiset (Retrieval URL) :=
  (completions.filterMap fun completion => shop.closures[completion.1]? : List (Retrieval URL))

omit [DecidableEq URL] in
theorem called_append (completions more : List (ℕ × Option Image)) :
    shop.called (completions ++ more) = shop.called completions + shop.called more := by
  simp only [called, List.filterMap_append, Multiset.coe_add]

theorem called_complete (completions : List (ℕ × Option Image)) :
    (shop.complete completion).called completions = shop.called completions := by
  simp only [called, closures_complete]

omit [DecidableEq URL] in
theorem called_eq (completions : List (ℕ × Option Image)) :
    shop.called completions = ((completions.map Prod.fst).filterMap
      (fun retrieval => shop.closures[retrieval]?) : Multiset (Retrieval URL)) := by
  rw [called, List.filterMap_map]
  rfl

/-- The image views have gone through a run of `ShopImages`, where the closures were called with
what the retrievals completed with. -/
structure Mirrors (shop : ShopDownloads URL Image) (delivered : List (ℕ × Option Image))
    (seen : History (ShopImages URL Image) (ImageEvent Image)) (images : ShopImages URL Image) :
    Prop where
  views : images.leftImageViews = shop.leftImageViews
  underWay : (images.retrievals : Multiset (Retrieval URL)) + shop.called delivered =
    (shop.closures : Multiset (Retrieval URL))
  cells : ∀ closure ∈ shop.closures, closure.cell < shop.leftImageViews.length
  known : ∀ completion ∈ delivered, completion.1 < shop.closures.length
  told : ∀ occurrence ∈ seen, ∀ place image, occurrence.2 = .retrieved place image →
    ∃ closure retrieval, occurrence.1.retrievals[place]? = some closure ∧
      (retrieval, image) ∈ delivered ∧ shop.closures[retrieval]? = some closure

/-- A completion is an arrival at the image views. -/
theorem Mirrors.complete (mirrors : Mirrors shop delivered seen images) {closure : Retrieval URL}
    (isClosure : shop.closures[completion.1]? = some closure)
    (fits : shop.called (delivered ++ [completion]) ≤ shop.closures) :
    ∃ place after, (ShopImages.system url).Step images (.retrieved place completion.2) after ∧
      Mirrors (shop.complete completion) (delivered ++ [completion])
        ((images, .retrieved place completion.2) :: seen) after := by
  have one : shop.called [completion] = {closure} := by simp [called, isClosure]
  have underWay : closure ∈ images.retrievals := by
    rw [called_append, one, ← mirrors.underWay, add_comm] at fits
    exact Multiset.mem_coe.mp (Multiset.singleton_le.mp (le_of_add_le_add_right fits))
  rcases List.mem_iff_getElem?.mp underWay with ⟨place, isPlace⟩
  have inside := mirrors.cells closure (List.mem_of_getElem? isClosure)
  obtain ⟨view, isView⟩ : ∃ view, shop.leftImageViews[closure.cell]? = some view :=
    ⟨_, List.getElem?_eq_getElem inside⟩
  have completed : shop.complete completion =
      { shop with
        leftImageViews :=
          shop.leftImageViews.set closure.cell (view.retrieved closure.url completion.2) } := by
    simp [ShopDownloads.complete, isClosure, isView]
  refine ⟨place, ⟨shop.leftImageViews.set closure.cell (view.retrieved closure.url completion.2),
    images.retrievals.eraseIdx place⟩, ?_, ?_⟩
  · simp [ShopImages.system, ShopImages.next, isPlace, mirrors.views, isView]
  · rw [completed]
    refine ⟨rfl, ?_, ?_, ?_, ?_⟩
    · change (images.retrievals.eraseIdx place : Multiset (Retrieval URL)) +
        shop.called (delivered ++ [completion]) = shop.closures
      rw [called_append, one, ← mirrors.underWay, coe_eraseIdx isPlace]
      abel
    · intro other isOther
      rw [List.length_set]
      exact mirrors.cells other isOther
    · intro other isOther
      rcases List.mem_append.mp isOther with before | now
      · exact mirrors.known other before
      · rw [List.mem_singleton.mp now]
        exact (List.getElem?_eq_some_iff.mp isClosure).1
    · intro occurrence occurred other image isArrival
      rcases List.mem_cons.mp occurred with rfl | before
      · cases isArrival
        exact ⟨closure, completion.1, isPlace, by simp, isClosure⟩
      · rcases mirrors.told occurrence before other image isArrival with
          ⟨held, retrieval, isHeld, isDelivered, isKept⟩
        exact ⟨held, retrieval, isHeld, List.mem_append_left _ isDelivered, isKept⟩

/-- Arrivals configure no cell. -/
theorem Mirrors.completeAll (more : List (ℕ × Option Image))
    (mirrors : Mirrors shop delivered seen images)
    (run : Run (ShopImages.system url) ⟨[], []⟩ seen images)
    (known : ∀ completion ∈ more, completion.1 < shop.closures.length)
    (fits : shop.called (delivered ++ more) ≤ shop.closures) :
    ∃ later images', Run (ShopImages.system url) ⟨[], []⟩ later images' ∧
      Mirrors (more.foldl ShopDownloads.complete shop) (delivered ++ more) later images' ∧
      ∀ cell, ShopImages.configuredFor cell later = ShopImages.configuredFor cell seen := by
  induction more generalizing shop delivered seen images with
  | nil =>
      refine ⟨seen, images, run, ?_, fun _ => rfl⟩
      rw [List.append_nil]
      exact mirrors
  | cons completion more ih =>
      have split : delivered ++ completion :: more = (delivered ++ [completion]) ++ more := by simp
      have isClosure := List.getElem?_eq_getElem (known completion List.mem_cons_self)
      rw [split] at fits ⊢
      have fewer : shop.called (delivered ++ [completion]) ≤ shop.closures := by
        apply le_trans ?_ fits
        rw [called_append (delivered ++ [completion])]
        exact Multiset.le_add_right _ _
      rcases mirrors.complete isClosure fewer with ⟨place, next, step, mirrorsNext⟩
      have knownNext : ∀ other ∈ more, other.1 < (shop.complete completion).closures.length := by
        intro other isOther
        rw [closures_complete]
        exact known other (List.mem_cons_of_mem _ isOther)
      rw [← closures_complete, ← called_complete] at fits
      rcases ih mirrorsNext (run.snoc step) knownNext fits with
        ⟨later, images', laterRun, result, same⟩
      refine ⟨later, images', laterRun, result, ?_⟩
      intro cell
      rw [same, ShopImages.configuredFor_cons_of_other rfl]

/-- The manager's step is over for the image views once its completions have arrived. -/
theorem Mirrors.advance {manager : KingfisherManager URL Image}
    (mirrors : Mirrors shop shop.manager.completed seen images)
    (run : Run (ShopImages.system url) ⟨[], []⟩ seen images)
    (grows : shop.manager.completed <+: manager.completed)
    (once : ((manager.completed.map Prod.fst : List ℕ) : Multiset ℕ) ≤
      Multiset.range shop.closures.length) :
    ∃ later images', Run (ShopImages.system url) ⟨[], []⟩ later images' ∧
      Mirrors (shop.advance manager) manager.completed later images' ∧
      ∀ cell, ShopImages.configuredFor cell later = ShopImages.configuredFor cell seen := by
  have started : Mirrors { shop with manager } shop.manager.completed seen images :=
    ⟨mirrors.views, mirrors.underWay, mirrors.cells, mirrors.known, mirrors.told⟩
  have fits : shop.called manager.completed ≤ shop.closures := by
    rw [called_eq]
    exact coe_filterMap_getElem?_le once
  rcases grows with ⟨more, isMore⟩
  have known : ∀ completion ∈ more, completion.1 < shop.closures.length := by
    intro completion isCompletion
    apply Multiset.mem_range.mp
    apply Multiset.mem_of_le once
    rw [← isMore]
    exact Multiset.mem_coe.mpr (List.mem_map_of_mem (List.mem_append_right _ isCompletion))
  unfold ShopDownloads.advance
  rw [← isMore, List.drop_left]
  rw [← isMore] at fits
  exact started.completeAll more run known fits

omit [DecidableEq URL] in
theorem called_of_append {more : List (Retrieval URL)} {completions : List (ℕ × Option Image)}
    (closures : after.closures = shop.closures ++ more)
    (known : ∀ completion ∈ completions, completion.1 < shop.closures.length) :
    after.called completions = shop.called completions := by
  rw [called, called]
  congr 1
  apply List.filterMap_congr
  intro completion isCompletion
  rw [closures, List.getElem?_append_left (known completion isCompletion)]

/-- A cell is configured. -/
theorem Mirrors.configure (mirrors : Mirrors shop delivered seen images) {call : CellCall}
    {view : ImageView URL Image} {powerUp : PowerUp}
    (dequeued : call.dequeuedView shop.leftImageViews = some view)
    (isEntry : call.shop.powerUps[call.row]? = some powerUp)
    (views : after.leftImageViews =
      call.setView shop.leftImageViews (powerUp.setLeftImage url view))
    (closures : after.closures = shop.closures ++
      ((powerUp.leftImage url).map (Retrieval.mk (call.cell shop.leftImageViews))).toList) :
    ∃ next, (ShopImages.system url).Step images (.cellForItemAt call) next ∧
      Mirrors after delivered ((images, .cellForItemAt call) :: seen) next := by
  have loaded : (call.dequeuedView shop.leftImageViews).isSome = true := by
    rw [dequeued]
    rfl
  have changes := fun cell => CellCall.getElem?_setView (powerUp.setLeftImage url view) cell loaded
  have inside : ∀ cell, cell = call.cell shop.leftImageViews ∨ cell < shop.leftImageViews.length →
      cell < after.leftImageViews.length := by
    intro cell isCell
    by_contra beyond
    have nothing := changes cell
    rw [← views, List.getElem?_eq_none (not_lt.mp beyond)] at nothing
    rcases isCell with rfl | isCell
    · simp at nothing
    · rw [List.getElem?_eq_getElem isCell] at nothing
      split at nothing
      · cases nothing
      · cases nothing
  refine ⟨⟨after.leftImageViews, images.retrievals ++
    ((powerUp.leftImage url).map (Retrieval.mk (call.cell shop.leftImageViews))).toList⟩, ?_, ?_⟩
  · simp [ShopImages.system, ShopImages.next, mirrors.views, dequeued, isEntry, views]
  · refine ⟨rfl, ?_, ?_, ?_, ?_⟩
    · rw [called_of_append closures mirrors.known, closures, ← Multiset.coe_add,
        ← Multiset.coe_add, ← mirrors.underWay]
      abel
    · intro closure isClosure
      rw [closures] at isClosure
      apply inside
      rcases List.mem_append.mp isClosure with before | now
      · exact .inr (mirrors.cells closure before)
      · rcases Option.map_eq_some_iff.mp (Option.mem_toList.mp now) with ⟨_, _, rfl⟩
        exact .inl rfl
    · intro completion isCompletion
      have before := mirrors.known completion isCompletion
      rw [closures, List.length_append]
      omega
    · intro occurrence occurred place image isArrival
      rcases List.mem_cons.mp occurred with rfl | before
      · cases isArrival
      · rcases mirrors.told occurrence before place image isArrival with
          ⟨closure, retrieval, isHeld, isDelivered, isKept⟩
        refine ⟨closure, retrieval, isHeld, isDelivered, ?_⟩
        rw [closures]
        exact ShopImages.getElem?_append_of_some isKept

/-- The completions of a reached manager fit the closures. -/
theorem completed_le (run : Run (orderly url options) (opened files) history shop) :
    ((shop.manager.completed.map Prod.fst : List ℕ) : Multiset ℕ) ≤
      Multiset.range shop.closures.length := by
  have within := KingfisherManager.completed_le (managed_of_run run)
  rw [← urls_of_run run, List.length_map] at within
  exact within

omit [DecidableEq URL] in
theorem configuredFor_cons {event : ImageEvent Image} {other : ShopImages URL Image}
    {others : History (ShopImages URL Image) (ImageEvent Image)} (cell : ℕ)
    (views : images.leftImageViews = other.leftImageViews)
    (same : ShopImages.configuredFor cell seen = ShopImages.configuredFor cell others) :
    ShopImages.configuredFor cell ((images, event) :: seen) =
      ShopImages.configuredFor cell ((other, event) :: others) := by
  have configures : ShopImages.configures cell (images, event) =
      ShopImages.configures cell (other, event) := by
    simp only [ShopImages.configures, views]
  unfold ShopImages.configuredFor at same ⊢
  rw [List.filterMap_cons, List.filterMap_cons, same, configures]
  rfl

/-- The image views are those of a run of `ShopImages` with the same calls. -/
structure Mirrored (url : String → Option URL)
    (history : History (ShopDownloads URL Image) (ShopEvent URL Image))
    (shop : ShopDownloads URL Image)
    (seen : History (ShopImages URL Image) (ImageEvent Image)) (images : ShopImages URL Image) :
    Prop where
  run : Run (ShopImages.system url) ⟨[], []⟩ seen images
  mirrors : Mirrors shop shop.manager.completed seen images
  configuredFor : ∀ cell, ShopImages.configuredFor cell seen =
    ShopImages.configuredFor cell (cellCalls history)

theorem Mirrored.cellForItemAt (run : Run (orderly url options) (opened files) history shop)
    (mirrored : Mirrored url history shop seen images) {call : CellCall}
    {view : ImageView URL Image} {powerUp : PowerUp}
    (step : (orderly url options).Step shop (.cellForItemAt call)
      (shop.cellForItemAt url options call view powerUp))
    (dequeued : call.dequeuedView shop.leftImageViews = some view)
    (isEntry : call.shop.powerUps[call.row]? = some powerUp) :
    ∃ later images', Mirrored url ((shop, .cellForItemAt call) :: history)
      (shop.cellForItemAt url options call view powerUp) later images' := by
  have same : ∀ cell, ShopImages.configuredFor cell ((images, .cellForItemAt call) :: seen) =
      ShopImages.configuredFor cell (cellCalls ((shop, .cellForItemAt call) :: history)) :=
    fun cell => configuredFor_cons cell mirrored.mirrors.views (mirrored.configuredFor cell)
  have once := completed_le (run.snoc step)
  let shown : ShopDownloads URL Image :=
    { shop with
      leftImageViews := call.setView shop.leftImageViews (powerUp.setLeftImage url view)
      closures := shop.closures ++
        ((powerUp.leftImage url).map (Retrieval.mk (call.cell shop.leftImageViews))).toList }
  rcases mirrored.mirrors.configure dequeued isEntry (show shown.leftImageViews = _ from rfl)
    (show shown.closures = _ from rfl) with ⟨next, configured, mirrors⟩
  cases wanted : powerUp.leftImage url with
  | none =>
      have result : shop.cellForItemAt url options call view powerUp = shown := by
        simp [ShopDownloads.cellForItemAt, shown, wanted]
      rw [result]
      exact ⟨_, next, mirrored.run.snoc configured, mirrors, same⟩
  | some imageURL =>
      have result : shop.cellForItemAt url options call view powerUp =
          shown.advance (shop.manager.retrieveImage options imageURL) := by
        simp [ShopDownloads.cellForItemAt, shown, wanted]
      have asks : shop.manager.next options (.retrieveImage imageURL) =
        some (shop.manager.retrieveImage options imageURL) := rfl
      rw [result, manager_advance, closures_advance] at once
      rcases mirrors.advance (mirrored.run.snoc configured)
        (KingfisherManager.completed_next asks) once with
        ⟨later, images', laterRun, mirrorsThen, unchanged⟩
      refine ⟨later, images', laterRun, ?_, ?_⟩
      · rw [result, manager_advance]
        exact mirrorsThen
      · intro cell
        rw [unchanged]
        exact same cell

theorem mirrored_of_run (run : Run (orderly url options) (opened files) history shop) :
    ∃ seen images, Mirrored url history shop seen images := by
  induction run with
  | nil =>
      refine ⟨[], ⟨[], []⟩, .nil, ⟨rfl, rfl, ?_, ?_, ?_⟩, fun _ => rfl⟩
      · intro closure isClosure
        cases isClosure
      · intro completion isCompletion
        cases isCompletion
      · intro occurrence occurred
        cases occurred
  | @snoc history shop after event run step ih =>
      rcases ih with ⟨seen, images, mirrored⟩
      rcases next_cases step.2 with
        ⟨call, view, powerUp, rfl, dequeued, isEntry, rfl⟩ | ⟨event, manager, rfl, _, stepped, rfl⟩
      · exact mirrored.cellForItemAt run step dequeued isEntry
      · have once := completed_le (run.snoc step)
        rw [manager_advance, closures_advance] at once
        rcases mirrored.mirrors.advance mirrored.run (KingfisherManager.completed_next stepped)
          once with ⟨later, images', laterRun, mirrors, same⟩
        refine ⟨later, images', laterRun, ?_, ?_⟩
        · rw [manager_advance]
          exact mirrors
        · intro cell
          rw [same]
          exact mirrored.configuredFor cell

/-- What comes for a URL comes from a retrieval of this URL. -/
theorem completed_of_brings (run : Run (orderly url options) (opened files) history shop)
    (mirrored : Mirrored url history shop seen images) {cell : ℕ} {imageURL : URL} {image : Image}
    {occurrence : ShopImages URL Image × ImageEvent Image} (occurred : occurrence ∈ seen)
    (brought : ShopImages.brings cell (some imageURL) occurrence = some image) :
    ∃ retrieval, shop.manager.Asked retrieval imageURL ∧
      (retrieval, some image) ∈ shop.manager.completed := by
  unfold ShopImages.brings at brought
  split at brought
  next => cases brought
  next place arrived isArrival =>
    split at brought
    next held isHeld =>
      rw [Option.ite_none_right_eq_some] at brought
      rcases brought with ⟨⟨_, isUrl⟩, rfl⟩
      rcases mirrored.mirrors.told occurrence occurred place (some image) isArrival with
        ⟨closure, retrieval, isClosure, completed, isKept⟩
      have same : closure = held := Option.some.inj (isClosure.symm.trans isHeld)
      subst same
      refine ⟨retrieval, ?_, completed⟩
      rw [KingfisherManager.Asked, ← urls_of_run run, List.getElem?_map, isKept]
      exact isUrl
    next => cases brought

theorem genuine_of_brings (run : Run (orderly url options) (opened files) history shop)
    (mirrored : Mirrored url history shop seen images) {cell : ℕ} {imageURL : URL} {image : Image}
    {occurrence : ShopImages URL Image × ImageEvent Image} (occurred : occurrence ∈ seen)
    (brought : ShopImages.brings cell (some imageURL) occurrence = some image) :
    ImageCache.Genuine options.cacheSerializer files
      (KingfisherManager.Downloaded options (managed url history) shop.manager)
      (options.absoluteString imageURL) image := by
  rcases completed_of_brings run mirrored occurred brought with ⟨retrieval, isAsked, completed⟩
  have traced := KingfisherManager.traced_of_run (managed_of_run run)
  rcases traced.completed retrieval image completed with ⟨other, isOther, genuine⟩
  have same : imageURL = other := Option.some.inj (isAsked.symm.trans isOther)
  rw [same]
  exact genuine

omit [DecidableEq URL] in
theorem asked_eq {cell : ℕ} {others : History (ShopImages URL Image) (ImageEvent Image)}
    (same : ShopImages.configuredFor cell seen = ShopImages.configuredFor cell others) :
    ShopImages.asked url cell seen = ShopImages.asked url cell others := by
  rw [ShopImages.asked, ShopImages.asked, same]

/-- An image which is shown came for the last URL asked for. -/
theorem Mirrored.genuine_of_shown {cell : ℕ} {view : ImageView URL Image} {image : Image}
    (run : Run (orderly url options) (opened files) history shop)
    (mirrored : Mirrored url history shop seen images)
    (shown : shop.leftImageViews[cell]? = some view) (isImage : view.image = some image) :
    ∃ imageURL, ShopImages.asked url cell (cellCalls history) = some imageURL ∧
      ImageCache.Genuine options.cacheSerializer files
        (KingfisherManager.Downloaded options (managed url history) shop.manager)
        (options.absoluteString imageURL) image := by
  rw [← mirrored.mirrors.views] at shown
  rw [(ShopImages.follows_of_run mirrored.run).image cell view shown,
    asked_eq (mirrored.configuredFor cell)] at isImage
  rcases List.exists_of_findSome?_eq_some isImage with ⟨occurrence, recent, brought⟩
  cases wanted : ShopImages.asked url cell (cellCalls history) with
  | none =>
      rw [wanted, ShopImages.brings_none] at brought
      cases brought
  | some imageURL =>
      rw [wanted] at brought
      have occurred : occurrence ∈ seen := (List.takeWhile_sublist _).mem recent
      exact ⟨imageURL, rfl, genuine_of_brings run mirrored occurred brought⟩

/-- Whatever the order in which cells are reused, images cached and evicted, downloads shared and
handlers called in an orderly run: the image a cell shows was made for the last URL the cell asked
for. -/
theorem shown_genuine {cell : ℕ} {view : ImageView URL Image} {image : Image}
    (run : Run (orderly url options) (opened files) history shop)
    (shown : shop.leftImageViews[cell]? = some view) (isImage : view.image = some image) :
    ∃ imageURL, ShopImages.asked url cell (cellCalls history) = some imageURL ∧
      ImageCache.Genuine options.cacheSerializer files
        (KingfisherManager.Downloaded options (managed url history) shop.manager)
        (options.absoluteString imageURL) image := by
  rcases mirrored_of_run run with ⟨seen, images, mirrored⟩
  exact mirrored.genuine_of_shown run shown isImage

/-- At rest all closures have been called. -/
theorem Mirrored.retrievals_of_atRest
    (run : Run (orderly url options) (opened files) history shop)
    (mirrored : Mirrored url history shop seen images) (rest : shop.manager.AtRest) :
    images.retrievals = [] := by
  have all := KingfisherManager.completed_perm_range (managed_of_run run) rest
    (uncancelled_of_run run)
  rw [← urls_of_run run, List.length_map] at all
  have underWay := mirrored.mirrors.underWay
  rw [called_eq, coe_filterMap_getElem?_of_perm all] at underWay
  exact Multiset.coe_eq_zero _ |>.mp (add_eq_right.mp underWay)

end Runs

/-- A cell is reused for the entry with an image, which is then downloaded; another cell finds it in
memory. -/
def twoCells : List (ShopEvent String Data) :=
  [.cellForItemAt ⟨ShopImages.oneImage, 1, none⟩, .cellForItemAt ⟨ShopImages.oneImage, 0, some 0⟩,
    .manager (.cache .performBlock), .manager (.cacheResult 0),
    .manager (.download (.prepareFetchLoad 0)), .manager (.download (.didReceiveData 0 [137])),
    .manager (.download (.didCompleteWithError 0 none)), .manager (.download (.fetch 0)),
    .manager (.download (.process 0)), .manager (.answer 0),
    .cellForItemAt ⟨ShopImages.oneImage, 0, none⟩]

/-- Scripts of the shop. -/
theorem exists_shop_run (script : List (ShopEvent String Data))
    (test : History (ShopDownloads String Data) (ShopEvent String Data) →
      ShopDownloads String Data → Bool)
    (passes : (execute (fun shop event => if shop.Orderly event then
        shop.next some KingfisherManager.plain event else none) (opened fun _ => none) script).any
      (fun result => test result.1 result.2) = true) :
    ∃ history shop, Run (orderly some KingfisherManager.plain) (opened fun _ => none) history shop ∧
      test history shop = true :=
  exists_restricted_run (fun {_ _ _} => id) script test passes

theorem shown_genuine_twoCells :
    ∃ (history : History (ShopDownloads String Data) (ShopEvent String Data))
      (shop : ShopDownloads String Data),
      Run (orderly some KingfisherManager.plain) (opened fun _ => none) history shop ∧
        ∃ imageURL, ShopImages.asked some 1 (cellCalls history) = some imageURL ∧
          ImageCache.Genuine ImageCache.bytes (fun _ => none)
            (KingfisherManager.Downloaded KingfisherManager.plain (managed some history)
              shop.manager) imageURL [137] := by
  have script := exists_shop_run twoCells
    (fun _ shop => shop.leftImageViews[1]?.any fun view => decide (view.image = some [137]))
    (by decide +kernel)
  rcases script with ⟨history, shop, run, tested⟩
  rcases Option.any_eq_true _ _ |>.mp tested with ⟨view, shown, isImage⟩
  exact ⟨history, shop, run, shown_genuine run shown (of_decide_eq_true isImage)⟩

end ShopDownloads

end OneSecond
