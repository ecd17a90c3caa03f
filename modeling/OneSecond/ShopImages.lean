import OneSecond.Cells

/-!
# Images of the shop

`kf.setImage(with:)` clears an image view, keeps the URL it was called with, and
retrieves the image, which arrives later, in any order, and is shown if the view
still keeps that URL.  `cellForItemAt` calls it for entries with an image URL.
For an entry without one it clears the image but leaves the URL kept, and an
image which then arrives for that URL is shown on the cell of another entry.
-/

namespace OneSecond

open Runs

namespace Kingfisher

/-- An image view, with the URL which `kf` keeps for it.  Placeholders and indicators, of which
none is ever set, and the task of the retrieval, which is not read, are left out. -/
structure ImageView (URL Image : Type) where
  image : Option Image
  webURL : Option URL

namespace ImageView

variable {URL Image : Type}

/-- `setImage(with:)`, up to the retrieval. -/
def setImage (view : ImageView URL Image) (resource : Option URL) : ImageView URL Image :=
  { view with image := none, webURL := resource }

/-- The completion handler of `setImage(with:)`. -/
def retrieved [DecidableEq URL] (view : ImageView URL Image) (imageURL : URL)
    (image : Option Image) : ImageView URL Image :=
  if some imageURL = view.webURL then
    match image with
    | some image => { view with image := some image }
    | none => view
  else view

variable [DecidableEq URL] {view : ImageView URL Image} {imageURL : URL} {image : Option Image}

theorem webURL_retrieved : (view.retrieved imageURL image).webURL = view.webURL := by
  unfold retrieved
  split
  · cases image <;> rfl
  · rfl

theorem image_retrieved :
    (view.retrieved imageURL image).image =
      (if some imageURL = view.webURL then image else none).or view.image := by
  unfold retrieved
  split
  · cases image <;> rfl
  · rfl

end ImageView

/-- A call of `retrieveImage`, for the image view of a cell. -/
structure Retrieval (URL : Type) where
  cell : ℕ
  url : URL

end Kingfisher

open Kingfisher

variable {URL Image : Type}

/-- The image views of the cells loaded so far, and the retrievals under way. -/
structure ShopImages (URL Image : Type) where
  leftImageViews : List (ImageView URL Image)
  retrievals : List (Retrieval URL)

inductive ImageEvent (Image : Type) where
  | cellForItemAt (call : CellCall)
  /-- The retrieval at this place ends, with an image or without. -/
  | retrieved (place : ℕ) (image : Option Image)

namespace CellCall

/-- The image view of the cell which is handed back; a loaded one keeps no URL. -/
def dequeuedView (views : List (ImageView URL Image)) (call : CellCall) :
    Option (ImageView URL Image) :=
  match call.reused with
  | none => some ⟨none, none⟩
  | some cell => views[cell]?

def cell (views : List (ImageView URL Image)) (call : CellCall) : ℕ :=
  call.reused.getD views.length

def setView (views : List (ImageView URL Image)) (call : CellCall) (view : ImageView URL Image) :
    List (ImageView URL Image) :=
  match call.reused with
  | none => views ++ [view]
  | some cell => views.set cell view

theorem getElem?_setView {views : List (ImageView URL Image)} {call : CellCall}
    (view : ImageView URL Image) (cell : ℕ) (loaded : (call.dequeuedView views).isSome = true) :
    (call.setView views view)[cell]? =
      if call.cell views = cell then some view else views[cell]? := by
  cases reused : call.reused with
  | none =>
      simp only [setView, CellCall.cell, reused, Option.getD_none]
      grind
  | some old =>
      simp only [dequeuedView, reused] at loaded
      simp only [setView, CellCall.cell, reused, Option.getD_some]
      grind

end CellCall

namespace PowerUp

/-- The URL whose image the entry is to be shown with. -/
def leftImage (url : String → Option URL) (powerUp : PowerUp) : Option URL :=
  powerUp.imageUrl.bind url

/-- The image part of `cellForItemAt`. -/
def setLeftImage (url : String → Option URL) (powerUp : PowerUp) (view : ImageView URL Image) :
    ImageView URL Image :=
  match powerUp.imageUrl with
  | some imageUrl => view.setImage (url imageUrl)
  | none => { view with image := none }

end PowerUp

namespace ShopImages

variable [DecidableEq URL]

def next (url : String → Option URL) (images : ShopImages URL Image) :
    ImageEvent Image → Option (ShopImages URL Image)
  | .cellForItemAt call =>
      match call.dequeuedView images.leftImageViews, call.shop.powerUps[call.row]? with
      | some view, some powerUp =>
          some {
            leftImageViews :=
              call.setView images.leftImageViews (powerUp.setLeftImage url view)
            retrievals := images.retrievals ++
              ((powerUp.leftImage url).map
                (Retrieval.mk (call.cell images.leftImageViews))).toList }
      | _, _ => none
  | .retrieved place image =>
      match images.retrievals[place]? with
      | some retrieval =>
          match images.leftImageViews[retrieval.cell]? with
          | some view =>
              some {
                leftImageViews :=
                  images.leftImageViews.set retrieval.cell (view.retrieved retrieval.url image)
                retrievals := images.retrievals.eraseIdx place }
          | none => none
      | none => none

/-- The image views under every order of calls and arrivals. -/
def system (url : String → Option URL) : System (ShopImages URL Image) (ImageEvent Image) where
  Step images event after := images.next url event = some after

omit [DecidableEq URL] in
/-- The cell which an occurrence configures. -/
def configures (cell : ℕ) (occurrence : ShopImages URL Image × ImageEvent Image) : Bool :=
  match occurrence.2 with
  | .cellForItemAt call => call.cell occurrence.1.leftImageViews = cell
  | .retrieved _ _ => false

/-- The entry which an occurrence configures a cell for. -/
def entry (occurrence : ShopImages URL Image × ImageEvent Image) : Option PowerUp :=
  match occurrence.2 with
  | .cellForItemAt call => call.shop.powerUps[call.row]?
  | .retrieved _ _ => none

/-- The entries a cell was configured for, latest first. -/
def configuredFor (cell : ℕ) (history : History (ShopImages URL Image) (ImageEvent Image)) :
    List PowerUp :=
  history.filterMap fun occurrence => if configures cell occurrence then entry occurrence else none

/-- The URL of the latest entry with an image URL. -/
def asked (url : String → Option URL) (cell : ℕ)
    (history : History (ShopImages URL Image) (ImageEvent Image)) : Option URL :=
  ((configuredFor cell history).findSome? PowerUp.imageUrl).bind url

/-- The image which an occurrence brings a cell for a URL. -/
def brings (cell : ℕ) (url : Option URL)
    (occurrence : ShopImages URL Image × ImageEvent Image) : Option Image :=
  match occurrence.2 with
  | .cellForItemAt _ => none
  | .retrieved place image =>
      match occurrence.1.retrievals[place]? with
      | some retrieval => if retrieval.cell = cell ∧ some retrieval.url = url then image else none
      | none => none

section Runs

variable {url : String → Option URL} {images after : ShopImages URL Image} {cell : ℕ}
  {history : History (ShopImages URL Image) (ImageEvent Image)} {event : ImageEvent Image}

/-- A view keeps the URL asked for last, and shows the last image which came for it since its cell
was configured. -/
structure Follows (url : String → Option URL)
    (history : History (ShopImages URL Image) (ImageEvent Image))
    (images : ShopImages URL Image) : Prop where
  webURL : ∀ cell view, images.leftImageViews[cell]? = some view →
    view.webURL = asked url cell history
  image : ∀ cell view, images.leftImageViews[cell]? = some view →
    view.image = (since (configures cell) history).findSome? (brings cell (asked url cell history))
  unused : ∀ cell, images.leftImageViews[cell]? = none → configuredFor cell history = []

omit [DecidableEq URL] in
theorem configuredFor_cons_of_configures {occurrence : ShopImages URL Image × ImageEvent Image}
    {powerUp : PowerUp} (configured : configures cell occurrence = true)
    (isEntry : entry occurrence = some powerUp) :
    configuredFor cell (occurrence :: history) = powerUp :: configuredFor cell history := by
  simp [configuredFor, configured, isEntry]

omit [DecidableEq URL] in
theorem configuredFor_cons_of_other {occurrence : ShopImages URL Image × ImageEvent Image}
    (other : configures cell occurrence = false) :
    configuredFor cell (occurrence :: history) = configuredFor cell history := by
  simp [configuredFor, other]

omit [DecidableEq URL] in
theorem asked_cons_of_other {occurrence : ShopImages URL Image × ImageEvent Image}
    (other : configures cell occurrence = false) :
    asked url cell (occurrence :: history) = asked url cell history := by
  rw [asked, configuredFor_cons_of_other other, asked]

/-- The view a cell is configured with keeps its URL, unless the entry has one. -/
theorem Follows.dequeued (follows : Follows url history images) {call : CellCall}
    {view : ImageView URL Image} (dequeued : call.dequeuedView images.leftImageViews = some view) :
    view.webURL = asked url (call.cell images.leftImageViews) history := by
  cases reused : call.reused with
  | none =>
      have isNew : call.cell images.leftImageViews = images.leftImageViews.length := by
        simp [CellCall.cell, reused]
      have loaded : (⟨none, none⟩ : ImageView URL Image) = view := by
        simpa [CellCall.dequeuedView, reused] using dequeued
      have unused : configuredFor images.leftImageViews.length history = [] := by
        apply follows.unused
        simp
      rw [isNew, asked, unused, ← loaded]
      rfl
  | some old =>
      have isOld : call.cell images.leftImageViews = old := by simp [CellCall.cell, reused]
      have loaded : images.leftImageViews[old]? = some view := by
        simpa [CellCall.dequeuedView, reused] using dequeued
      rw [isOld]
      exact follows.webURL old view loaded

theorem Follows.cellForItemAt (follows : Follows url history images) {call : CellCall}
    (handled : images.next url (.cellForItemAt call) = some after) :
    Follows url ((images, .cellForItemAt call) :: history) after := by
  simp only [next] at handled
  split at handled
  · next view powerUp dequeued isEntry =>
      cases handled
      have loaded : (call.dequeuedView images.leftImageViews).isSome = true := by
        rw [dequeued]
        rfl
      have changes := fun cell =>
        CellCall.getElem?_setView (powerUp.setLeftImage url view) cell loaded
      have configured : ∀ cell, call.cell images.leftImageViews = cell →
          configures cell (images, (ImageEvent.cellForItemAt call : ImageEvent Image)) = true := by
        intro cell same
        simp [configures, same]
      have other : ∀ cell, call.cell images.leftImageViews ≠ cell →
          configures cell (images, (ImageEvent.cellForItemAt call : ImageEvent Image)) = false := by
        intro cell differs
        simp [configures, differs]
      refine ⟨?_, ?_, ?_⟩
      · intro cell held shown
        rw [changes] at shown
        by_cases same : call.cell images.leftImageViews = cell
        · rw [if_pos same, Option.some.injEq] at shown
          rw [asked, configuredFor_cons_of_configures (configured cell same) isEntry, ← shown]
          cases imageUrl : powerUp.imageUrl with
          | some text => simp [PowerUp.setLeftImage, imageUrl, ImageView.setImage]
          | none =>
              have kept := follows.dequeued dequeued
              rw [same] at kept
              simp [PowerUp.setLeftImage, imageUrl, kept, asked]
        · rw [if_neg same] at shown
          rw [asked_cons_of_other (other cell same)]
          exact follows.webURL cell held shown
      · intro cell held shown
        rw [changes] at shown
        by_cases same : call.cell images.leftImageViews = cell
        · rw [if_pos same, Option.some.injEq] at shown
          rw [since_cons_of_reset (configured cell same), ← shown]
          cases imageUrl : powerUp.imageUrl with
          | some text => simp [PowerUp.setLeftImage, imageUrl, ImageView.setImage]
          | none => simp [PowerUp.setLeftImage, imageUrl]
        · rw [if_neg same] at shown
          rw [asked_cons_of_other (other cell same), since_cons_of_not_reset (other cell same),
            List.findSome?_cons]
          exact follows.image cell held shown
      · intro cell missing
        rw [changes] at missing
        by_cases same : call.cell images.leftImageViews = cell
        · rw [if_pos same] at missing
          cases missing
        · rw [if_neg same] at missing
          rw [configuredFor_cons_of_other (other cell same)]
          exact follows.unused cell missing
  · cases handled

theorem Follows.retrieved (follows : Follows url history images) {place : ℕ} {image : Option Image}
    (handled : images.next url (.retrieved place image) = some after) :
    Follows url ((images, .retrieved place image) :: history) after := by
  simp only [next] at handled
  split at handled
  · next retrieval underWay =>
      split at handled
      · next view isView =>
          cases handled
          have other : ∀ cell, configures cell (images, ImageEvent.retrieved place image) = false :=
            fun _ => rfl
          have changes : ∀ cell, (images.leftImageViews.set retrieval.cell
              (view.retrieved retrieval.url image))[cell]? =
                if retrieval.cell = cell then some (view.retrieved retrieval.url image)
                else images.leftImageViews[cell]? := by
            intro cell
            grind
          have brought : ∀ cell, brings cell (asked url cell history)
              (images, ImageEvent.retrieved place image) =
                if retrieval.cell = cell ∧ some retrieval.url = asked url cell history then image
                else none := by
            intro cell
            simp [brings, underWay]
          refine ⟨?_, ?_, ?_⟩
          · intro cell held shown
            rw [changes] at shown
            rw [asked_cons_of_other (other cell)]
            split at shown
            · next same =>
                cases shown
                subst same
                rw [ImageView.webURL_retrieved]
                exact follows.webURL retrieval.cell view isView
            · exact follows.webURL cell held shown
          · intro cell held shown
            rw [changes] at shown
            rw [asked_cons_of_other (other cell), since_cons_of_not_reset (other cell),
              List.findSome?_cons, brought]
            split at shown
            · next same =>
                cases shown
                subst same
                rw [ImageView.image_retrieved, follows.webURL retrieval.cell view isView,
                  follows.image retrieval.cell view isView]
                simp only [true_and]
                split
                · cases image <;> rfl
                · rfl
            · next differs =>
                rw [if_neg (fun both => differs both.1)]
                exact follows.image cell held shown
          · intro cell missing
            rw [configuredFor_cons_of_other (other cell)]
            apply follows.unused
            rw [changes] at missing
            split at missing
            · cases missing
            · exact missing
      · cases handled
  · cases handled

theorem follows_of_run (run : Run (system url) ⟨[], []⟩ history images) :
    Follows url history images := by
  apply run.historyInvariant (motive := Follows url)
  · exact ⟨by simp, by simp, fun _ _ => rfl⟩
  · intro history images after event run follows step
    cases event with
    | cellForItemAt call => exact follows.cellForItemAt step
    | retrieved place image => exact follows.retrieved step

/-- Every image a view shows came for the URL of the entry which its cell was last configured for,
after it was. -/
def ShowsEntries (url : String → Option URL)
    (history : History (ShopImages URL Image) (ImageEvent Image)) (images : ShopImages URL Image) :
    Prop :=
  ∀ cell view image, images.leftImageViews[cell]? = some view → view.image = some image →
    ∃ powerUp ∈ (configuredFor cell history).head?,
      ∃ occurrence ∈ since (configures cell) history,
        brings cell (powerUp.leftImage url) occurrence = some image

theorem brings_none (occurrence : ShopImages URL Image × ImageEvent Image) :
    brings cell (none : Option URL) occurrence = none := by
  unfold brings
  split
  · rfl
  · split
    · simp
    · rfl

/-- The views show images of their entries only, in every order of arrivals, exactly when no image
arrives on the cell of an entry without an image URL, for the URL which was kept there. -/
theorem showsEntries_iff (run : Run (system url) ⟨[], []⟩ history images) :
    ShowsEntries url history images ↔
      ∀ cell powerUp, (configuredFor cell history).head? = some powerUp →
        powerUp.imageUrl = none → ∀ occurrence ∈ since (configures cell) history,
          brings cell (asked url cell history) occurrence = none := by
  have follows := follows_of_run run
  constructor
  · intro showsEntries cell powerUp latest noUrl occurrence occurred
    by_contra arrived
    cases shown : images.leftImageViews[cell]? with
    | none =>
        rw [follows.unused cell shown] at latest
        cases latest
    | some view =>
        have isSome : view.image.isSome = true := by
          rw [follows.image cell view shown, List.findSome?_isSome_iff]
          exact ⟨occurrence, occurred, Option.ne_none_iff_isSome.mp arrived⟩
        rcases Option.isSome_iff_exists.mp isSome with ⟨image, isImage⟩
        rcases showsEntries cell view image shown isImage with ⟨other, isLatest, found, _, brought⟩
        rw [latest, Option.mem_def, Option.some.injEq] at isLatest
        subst isLatest
        rw [PowerUp.leftImage, noUrl, Option.bind_none, brings_none] at brought
        cases brought
  · intro nothing cell view image shown isImage
    rw [follows.image cell view shown] at isImage
    rcases List.exists_of_findSome?_eq_some isImage with ⟨occurrence, occurred, brought⟩
    cases configured : configuredFor cell history with
    | nil =>
        rw [asked, configured, List.findSome?_nil, Option.bind_none, brings_none] at brought
        cases brought
    | cons powerUp earlier =>
        refine ⟨powerUp, rfl, occurrence, occurred, ?_⟩
        cases imageUrl : powerUp.imageUrl with
        | none =>
            have latest : (configuredFor cell history).head? = some powerUp := by
              rw [configured, List.head?_cons]
            rw [nothing cell powerUp latest imageUrl occurrence occurred] at brought
            cases brought
        | some text =>
            rw [PowerUp.leftImage, imageUrl]
            rw [asked, configured, List.findSome?_cons, imageUrl] at brought
            exact brought

theorem exists_image_run (url : String → Option URL) (script : List (ImageEvent Image))
    (test : History (ShopImages URL Image) (ImageEvent Image) → ShopImages URL Image → Bool)
    (passes : (execute (next url) ⟨[], []⟩ script).any
      (fun result => test result.1 result.2) = true) :
    ∃ history images, Run (system url) ⟨[], []⟩ history images ∧ test history images = true :=
  exists_run_of_execute (fun {_ _ _} => id) script test passes

/-- A shop whose first entry has an image URL, and whose second one has none. -/
def oneImage : ShopController :=
  { ShopController.instantiate with
    powerUps := [
      .ofDictionary fun key => if key = "imageUrl" then some (.string "shield.png") else none,
      .ofDictionary fun _ => none] }

/-- The cell of the first row is reused for the second before the image of the first arrives. -/
theorem showsEntries_reused :
    ∃ (history : History (ShopImages String ℕ) (ImageEvent ℕ)) (images : ShopImages String ℕ),
      Run (system some) ⟨[], []⟩ history images ∧ ¬ ShowsEntries some history images := by
  have script := exists_image_run some
    ([.cellForItemAt ⟨oneImage, 0, none⟩, .cellForItemAt ⟨oneImage, 1, some 0⟩,
      .retrieved 0 (some 7)] : List (ImageEvent ℕ))
    (fun history _ =>
      ((configuredFor 0 history).head?.any fun powerUp => powerUp.imageUrl = none) &&
        (since (configures 0) history).any fun occurrence =>
          (brings 0 (asked some 0 history) occurrence).isSome)
    (by decide +kernel)
  rcases script with ⟨history, images, run, tested⟩
  simp only [Bool.and_eq_true, Option.any_eq_true, List.any_eq_true, decide_eq_true_eq] at tested
  rcases tested with ⟨⟨powerUp, latest, noUrl⟩, occurrence, occurred, arrived⟩
  refine ⟨history, images, run, ?_⟩
  rw [showsEntries_iff run]
  intro nothing
  rw [nothing 0 powerUp latest noUrl occurrence occurred] at arrived
  cases arrived

/-- The image for the entry of a cell has come, or is on its way. -/
def Promised (url : String → Option URL)
    (history : History (ShopImages URL Image) (ImageEvent Image)) (images : ShopImages URL Image) :
    Prop :=
  ∀ cell powerUp imageURL, (configuredFor cell history).head? = some powerUp →
    powerUp.leftImage url = some imageURL →
    (∃ occurrence ∈ since (configures cell) history,
      (brings cell (some imageURL) occurrence).isSome = true) ∨
      ∃ (place : ℕ) (retrieval : Retrieval URL), images.retrievals[place]? = some retrieval ∧
        retrieval.cell = cell ∧ retrieval.url = imageURL

omit [DecidableEq URL] in
theorem getElem?_append_of_some {retrievals more : List (Retrieval URL)} {place : ℕ}
    {retrieval : Retrieval URL} (found : retrievals[place]? = some retrieval) :
    (retrievals ++ more)[place]? = some retrieval := by
  have inside := (List.getElem?_eq_some_iff.mp found).1
  rw [List.getElem?_append_left inside]
  exact found

theorem Promised.cellForItemAt (promised : Promised url history images) {call : CellCall}
    (handled : images.next url (.cellForItemAt call) = some after) :
    Promised url ((images, .cellForItemAt call) :: history) after := by
  simp only [next] at handled
  split at handled
  · next view powerUp dequeued isEntry =>
      cases handled
      intro cell latestEntry imageURL latest wanted
      by_cases same : call.cell images.leftImageViews = cell
      · have configured :
            configures cell
              (images, (ImageEvent.cellForItemAt call : ImageEvent Image)) = true := by
          simp [configures, same]
        rw [configuredFor_cons_of_configures configured isEntry, List.head?_cons,
          Option.some.injEq] at latest
        subst latest
        right
        refine ⟨images.retrievals.length, ⟨cell, imageURL⟩, ?_, rfl, rfl⟩
        simp [wanted, same]
      · have other :
            configures cell
              (images, (ImageEvent.cellForItemAt call : ImageEvent Image)) = false := by
          simp [configures, same]
        rw [configuredFor_cons_of_other other] at latest
        rw [since_cons_of_not_reset other]
        rcases promised cell latestEntry imageURL latest wanted with
          ⟨occurrence, occurred, brought⟩ | ⟨place, retrieval, underWay, isCell, isUrl⟩
        · exact Or.inl ⟨occurrence, List.mem_cons_of_mem _ occurred, brought⟩
        · exact Or.inr ⟨place, retrieval, getElem?_append_of_some underWay, isCell, isUrl⟩
  · cases handled

theorem Promised.retrieved (promised : Promised url history images) {place : ℕ} {image : Image}
    (handled : images.next url (.retrieved place (some image)) = some after) :
    Promised url ((images, .retrieved place (some image)) :: history) after := by
  simp only [next] at handled
  split at handled
  · next arrived isArrived =>
      split at handled
      · next view isView =>
          cases handled
          intro cell powerUp imageURL latest wanted
          have other : configures cell (images, ImageEvent.retrieved place (some image)) = false :=
            rfl
          rw [configuredFor_cons_of_other other] at latest
          rw [since_cons_of_not_reset other]
          rcases promised cell powerUp imageURL latest wanted with
            ⟨occurrence, occurred, brought⟩ | ⟨held, retrieval, underWay, isCell, isUrl⟩
          · exact Or.inl ⟨occurrence, List.mem_cons_of_mem _ occurred, brought⟩
          · by_cases same : held = place
            · -- the image which was on its way has come
              subst same
              rw [isArrived, Option.some.injEq] at underWay
              subst underWay
              left
              refine ⟨_, List.mem_cons_self, ?_⟩
              simp [brings, isArrived, isCell, isUrl]
            · right
              have remains : retrieval ∈ images.retrievals.eraseIdx place := by
                rw [List.mem_eraseIdx_iff_getElem?]
                exact ⟨held, same, underWay⟩
              rcases List.mem_iff_getElem?.mp remains with ⟨moved, found⟩
              exact ⟨moved, retrieval, found, isCell, isUrl⟩
      · cases handled
  · cases handled

theorem promised_of_run (run : Run (system url) ⟨[], []⟩ history images)
    (succeeded : ∀ occurrence ∈ history, ∀ place, occurrence.2 ≠ .retrieved place none) :
    Promised url history images := by
  induction run with
  | nil => simp [Promised, configuredFor]
  | snoc run step ih =>
      have promised := ih fun occurrence occurred =>
        succeeded occurrence (List.mem_cons_of_mem _ occurred)
      rename_i history images after event
      cases event with
      | cellForItemAt call => exact promised.cellForItemAt step
      | retrieved place image =>
          cases image with
          | none => exact absurd rfl (succeeded _ List.mem_cons_self place)
          | some image => exact promised.retrieved step

omit [DecidableEq URL] in
theorem asked_of_latest {powerUp : PowerUp} {imageUrl : String}
    (latest : (configuredFor cell history).head? = some powerUp)
    (isUrl : powerUp.imageUrl = some imageUrl) : asked url cell history = url imageUrl := by
  cases configured : configuredFor cell history with
  | nil => simp [configured] at latest
  | cons first earlier =>
      have isFirst : first = powerUp := by simpa [configured] using latest
      rw [asked, configured, List.findSome?_cons, isFirst, isUrl]
      rfl

/-- What was promised has come once nothing is under way. -/
theorem isSome_of_promised {view : ImageView URL Image} {powerUp : PowerUp} {imageURL : URL}
    (run : Run (system url) ⟨[], []⟩ history images) (promised : Promised url history images)
    (rest : images.retrievals = []) (shown : images.leftImageViews[cell]? = some view)
    (latest : (configuredFor cell history).head? = some powerUp)
    (wanted : powerUp.leftImage url = some imageURL) : view.image.isSome = true := by
  rcases Option.bind_eq_some_iff.mp wanted with ⟨imageUrl, isUrl, isImageURL⟩
  rw [(follows_of_run run).image cell view shown, asked_of_latest latest isUrl, isImageURL,
    List.findSome?_isSome_iff]
  rcases promised cell powerUp imageURL latest wanted with
    brought | ⟨place, retrieval, underWay, _⟩
  · exact brought
  · simp [rest] at underWay

/-- Once nothing is under way any more, and if no retrieval failed, a cell whose entry has an image
URL shows an image that came for it, if there is such a URL, and none otherwise. -/
theorem settled_images {view : ImageView URL Image} {powerUp : PowerUp} {imageUrl : String}
    (run : Run (system url) ⟨[], []⟩ history images)
    (succeeded : ∀ occurrence ∈ history, ∀ place, occurrence.2 ≠ .retrieved place none)
    (rest : images.retrievals = []) (shown : images.leftImageViews[cell]? = some view)
    (latest : (configuredFor cell history).head? = some powerUp)
    (isUrl : powerUp.imageUrl = some imageUrl) :
    (view.image.isSome = true ↔ (url imageUrl).isSome = true) ∧
      ∀ image ∈ view.image, ∃ occurrence ∈ since (configures cell) history,
        brings cell (url imageUrl) occurrence = some image := by
  have image := (follows_of_run run).image cell view shown
  rw [asked_of_latest latest isUrl] at image
  constructor
  · constructor
    · intro isSome
      by_contra noUrl
      rw [image, Option.not_isSome_iff_eq_none.mp noUrl, List.findSome?_isSome_iff] at isSome
      rcases isSome with ⟨occurrence, _, brought⟩
      rw [brings_none] at brought
      cases brought
    · intro hasUrl
      rcases Option.isSome_iff_exists.mp hasUrl with ⟨imageURL, isImageURL⟩
      have wanted : powerUp.leftImage url = some imageURL := by
        rw [PowerUp.leftImage, isUrl]
        exact isImageURL
      exact isSome_of_promised run (promised_of_run run succeeded) rest shown latest wanted
  · intro shownImage isImage
    rw [image] at isImage
    exact List.exists_of_findSome?_eq_some isImage

/-- The other order: the cell of the second row is reused for the first. -/
theorem settled_images_reused :
    ∃ (history : History (ShopImages String ℕ) (ImageEvent ℕ)) (images : ShopImages String ℕ)
      (view : ImageView String ℕ), Run (system some) ⟨[], []⟩ history images ∧
        images.leftImageViews[0]? = some view ∧ view.image.isSome = true := by
  have script := exists_image_run some
    ([.cellForItemAt ⟨oneImage, 1, none⟩, .cellForItemAt ⟨oneImage, 0, some 0⟩,
      .retrieved 0 (some 7)] : List (ImageEvent ℕ))
    (fun history images => images.retrievals.isEmpty && images.leftImageViews[0]?.isSome &&
      ((configuredFor 0 history).head?.any fun powerUp => powerUp.imageUrl = some "shield.png") &&
      history.all fun occurrence =>
        match occurrence.2 with
        | .retrieved _ image => image.isSome
        | .cellForItemAt _ => true)
    (by decide +kernel)
  rcases script with ⟨history, images, run, tested⟩
  simp only [Bool.and_eq_true, List.isEmpty_iff, Option.any_eq_true, List.all_eq_true,
    decide_eq_true_eq] at tested
  rcases tested with ⟨⟨⟨rest, loaded⟩, powerUp, latest, isUrl⟩, succeeded⟩
  rcases Option.isSome_iff_exists.mp loaded with ⟨view, shown⟩
  refine ⟨history, images, view, run, shown, ?_⟩
  apply (settled_images run ?_ rest shown latest isUrl).1.mpr rfl
  intro occurrence occurred place failed
  have allowed := succeeded occurrence occurred
  rw [failed] at allowed
  cases allowed

end Runs

end ShopImages

end OneSecond
