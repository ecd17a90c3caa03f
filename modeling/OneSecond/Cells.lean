import OneSecond.Catalogue

/-!
# Reused cells

The collection view hands `cellForItemAt` either a cell loaded from
`ShopTableViewCell.xib` or one which an earlier call has configured.  The title
and the image are set by every call, the price and the description only for
entries which have them: a cell keeps the last price and the last description it
was given.
-/

namespace OneSecond

open Runs

variable {URL : Type} {url : String → Option URL}

namespace ShopTableViewCell

/-- The cell as `ShopTableViewCell.xib` lays it out. -/
def fromNib : ShopTableViewCell URL where
  titleLabel := some "Ice Freeze"
  labelPrize := some "10"
  labelDescription := some "Label"
  leftImageView := none

/-- The cell after it was configured for an entry. -/
def configure (url : String → Option URL) (cell : ShopTableViewCell URL) (powerUp : PowerUp) :
    ShopTableViewCell URL where
  titleLabel := powerUp.title
  labelPrize := (powerUp.cost.map toString).or cell.labelPrize
  labelDescription := powerUp.text.or cell.labelDescription
  leftImageView := powerUp.imageUrl.bind url

/-- Only the price 10 reads like the nib's. -/
theorem forall_toString_eq_ten_iff (last : Option ℤ) :
    (∀ text ∈ last.map toString, text = "10") ↔ ∀ cost ∈ last, cost = 10 := by
  have nib : "10" = toString (10 : ℤ) := rfl
  constructor
  · intro reads cost isLast
    have text : toString cost = "10" := reads _ (Option.mem_map_of_mem toString isLast)
    exact Int.repr_injective (text.trans nib)
  · intro reads text isLast
    rcases Option.mem_map.mp isLast with ⟨cost, costLast, rfl⟩
    rw [reads cost costLast, nib]

/-- A text which is not set shows what was set before, or else the nib's. -/
theorem or_or_eq_iff (given last : Option String) (nib : String) :
    given.or (last.or (some nib)) = given.or (some nib) ↔
      (given = none → ∀ text ∈ last, text = nib) := by
  cases given with
  | none => cases last <;> simp
  | some _ => simp

theorem configure_eq_configure_iff {cell : ShopTableViewCell URL} {powerUp : PowerUp} :
    cell.configure url powerUp = fromNib.configure url powerUp ↔
      (powerUp.cost.map toString).or cell.labelPrize =
          (powerUp.cost.map toString).or (some "10") ∧
        powerUp.text.or cell.labelDescription = powerUp.text.or (some "Label") := by
  simp [configure, fromNib]

end ShopTableViewCell

open ShopTableViewCell

theorem ShopController.cellForItemAt_eq_configure (shop : ShopController)
    (cell : ShopTableViewCell URL) (row : ℕ) :
    shop.cellForItemAt url cell row = shop.powerUps[row]?.map (cell.configure url) := by
  cases entry : shop.powerUps[row]? with
  | none => simp [cellForItemAt, entry]
  | some powerUp =>
      simp only [cellForItemAt, entry, configure, Option.map_some]
      cases powerUp.cost <;> cases powerUp.text <;> cases powerUp.imageUrl <;> rfl

/-- A call of `collectionView(_:cellForItemAt:)`, with what `dequeueReusableCell` does in it. -/
structure CellCall where
  shop : ShopController
  row : ℕ
  /-- The cell handed back, by the order in which the cells were loaded; `none` loads one more. -/
  reused : Option ℕ

namespace CellCall

/-- `dequeueReusableCell`, when these cells have been loaded. -/
def dequeued (cells : List (ShopTableViewCell URL)) (call : CellCall) :
    Option (ShopTableViewCell URL) :=
  match call.reused with
  | none => some fromNib
  | some place => cells[place]?

/-- The number of the cell the call configures. -/
def place (cells : List (ShopTableViewCell URL)) (call : CellCall) : ℕ :=
  call.reused.getD cells.length

def returned (url : String → Option URL) (cells : List (ShopTableViewCell URL))
    (call : CellCall) : Option (ShopTableViewCell URL) :=
  (call.dequeued cells).bind fun cell => call.shop.cellForItemAt url cell call.row

/-- What a freshly loaded cell shows for the entry. -/
def fresh (url : String → Option URL) (call : CellCall) : Option (ShopTableViewCell URL) :=
  call.shop.cellForItemAt url fromNib call.row

/-- The cells after a call which returned `cell`: the configured one has changed, or is new. -/
def after (cells : List (ShopTableViewCell URL)) (call : CellCall)
    (cell : ShopTableViewCell URL) : List (ShopTableViewCell URL) :=
  match call.reused with
  | none => cells ++ [cell]
  | some place => cells.set place cell

end CellCall

def cellSystem (url : String → Option URL) : System (List (ShopTableViewCell URL)) CellCall where
  Step cells call next := ∃ cell, call.returned url cells = some cell ∧ next = call.after cells cell

/-- The entries a cell was configured for, latest first. -/
def configuredFor (place : ℕ) (history : History (List (ShopTableViewCell URL)) CellCall) :
    List PowerUp :=
  history.filterMap fun occurrence =>
    if occurrence.2.place occurrence.1 = place then
      occurrence.2.shop.powerUps[occurrence.2.row]?
    else none

/-- Each call returned what a freshly loaded cell would show. -/
def NoLeak (url : String → Option URL)
    (history : History (List (ShopTableViewCell URL)) CellCall) : Prop :=
  ∀ occurrence ∈ history, occurrence.2.returned url occurrence.1 = occurrence.2.fresh url

/-- A call does not fall back on text which an earlier one left: for an entry without a price the
cell was last given the price of the nib or none, and likewise for the description. -/
def FallsBackOnNib (older : History (List (ShopTableViewCell URL)) CellCall) (call : CellCall) :
    Prop :=
  ∀ place ∈ call.reused, ∀ powerUp ∈ call.shop.powerUps[call.row]?,
    (powerUp.cost = none → ∀ cost ∈ (configuredFor place older).findSome? PowerUp.cost, cost = 10) ∧
    (powerUp.text = none →
      ∀ text ∈ (configuredFor place older).findSome? PowerUp.text, text = "Label")

section Runs

variable {cells : List (ShopTableViewCell URL)} {cell : ShopTableViewCell URL} {call : CellCall}
  {history older : History (List (ShopTableViewCell URL)) CellCall} {place : ℕ}

namespace CellCall

theorem returned_eq_some_iff :
    call.returned url cells = some cell ↔
      ∃ old powerUp, call.dequeued cells = some old ∧
        call.shop.powerUps[call.row]? = some powerUp ∧ cell = old.configure url powerUp := by
  simp only [returned, ShopController.cellForItemAt_eq_configure, Option.bind_eq_some_iff,
    Option.map_eq_some_iff]
  constructor
  · rintro ⟨old, dequeued, powerUp, entry, rfl⟩
    exact ⟨old, powerUp, dequeued, entry, rfl⟩
  · rintro ⟨old, powerUp, dequeued, entry, rfl⟩
    exact ⟨old, dequeued, powerUp, entry, rfl⟩

theorem getElem?_after (cell : ShopTableViewCell URL) (place : ℕ)
    (loaded : (call.dequeued cells).isSome = true) :
    (call.after cells cell)[place]? =
      if call.place cells = place then some cell else cells[place]? := by
  cases reused : call.reused with
  | none =>
      simp only [after, CellCall.place, reused, Option.getD_none]
      grind
  | some old =>
      simp only [dequeued, reused] at loaded
      simp only [after, CellCall.place, reused, Option.getD_some]
      grind

end CellCall

theorem configuredFor_cons (occurrence : List (ShopTableViewCell URL) × CellCall) :
    configuredFor place (occurrence :: history) =
      (if occurrence.2.place occurrence.1 = place then
        occurrence.2.shop.powerUps[occurrence.2.row]? else none).toList ++
        configuredFor place history := by
  simp only [configuredFor, List.filterMap_cons]
  split <;> simp_all

/-- A label which is set only for entries with a text for it shows the last text it was given, and
what the nib laid out before it was given any. -/
structure Remembers (shows : ShopTableViewCell URL → Option String)
    (text : PowerUp → Option String)
    (history : History (List (ShopTableViewCell URL)) CellCall)
    (cells : List (ShopTableViewCell URL)) : Prop where
  shown : ∀ place cell, cells[place]? = some cell →
    shows cell = ((configuredFor place history).findSome? text).or (shows fromNib)
  unused : ∀ place, cells[place]? = none → configuredFor place history = []

section Label

variable {shows : ShopTableViewCell URL → Option String} {text : PowerUp → Option String}

theorem Remembers.dequeued (remembers : Remembers shows text history cells)
    (dequeued : call.dequeued cells = some cell) :
    shows cell =
      ((configuredFor (call.place cells) history).findSome? text).or (shows fromNib) := by
  cases reused : call.reused with
  | none =>
      have isNew : call.place cells = cells.length := by simp [CellCall.place, reused]
      have loaded : fromNib = cell := by
        simpa [CellCall.dequeued, reused] using dequeued
      have unused : configuredFor cells.length history = [] := by
        apply remembers.unused
        simp
      rw [isNew, unused, ← loaded]
      rfl
  | some old =>
      have isOld : call.place cells = old := by simp [CellCall.place, reused]
      have loaded : cells[old]? = some cell := by
        simpa [CellCall.dequeued, reused] using dequeued
      rw [isOld]
      exact remembers.shown old cell loaded

theorem remembers_of_run
    (kept : ∀ cell powerUp, shows (configure url cell powerUp) = (text powerUp).or (shows cell))
    (run : Run (cellSystem url) [] history cells) : Remembers shows text history cells := by
  apply run.historyInvariant (motive := Remembers shows text)
  · exact ⟨by simp, fun _ _ => rfl⟩
  intro older cells next call _ remembers step
  rcases step with ⟨cell, returned, rfl⟩
  rcases CellCall.returned_eq_some_iff.mp returned with ⟨old, powerUp, dequeued, entry, rfl⟩
  have found : (call.dequeued cells).isSome = true := by
    rw [dequeued]
    rfl
  have changes := fun place => call.getElem?_after (old.configure url powerUp) place found
  refine ⟨?_, ?_⟩
  · intro place cell loaded
    rw [changes] at loaded
    rw [configuredFor_cons]
    by_cases configured : call.place cells = place
    · rw [if_pos configured, Option.some.injEq] at loaded
      rw [if_pos configured, entry, ← loaded, ← configured, kept, remembers.dequeued dequeued]
      cases given : text powerUp with
      | none => simp [given]
      | some _ => simp [given]
    · rw [if_neg configured] at loaded
      rw [if_neg configured]
      exact remembers.shown place cell loaded
  · intro place missing
    rw [changes] at missing
    rw [configuredFor_cons]
    by_cases configured : call.place cells = place
    · rw [if_pos configured] at missing
      cases missing
    · rw [if_neg configured] at missing
      rw [if_neg configured, remembers.unused place missing]
      rfl

end Label

theorem texts_of_run (run : Run (cellSystem url) [] history cells)
    (dequeued : call.dequeued cells = some cell) :
    cell.labelPrize =
        (((configuredFor (call.place cells) history).findSome? PowerUp.cost).map toString).or
          (some "10") ∧
      cell.labelDescription =
        ((configuredFor (call.place cells) history).findSome? PowerUp.text).or (some "Label") := by
  have prize : Remembers ShopTableViewCell.labelPrize (fun powerUp => powerUp.cost.map toString)
      history cells := remembers_of_run (fun _ _ => rfl) run
  have description : Remembers ShopTableViewCell.labelDescription PowerUp.text history cells :=
    remembers_of_run (fun _ _ => rfl) run
  refine ⟨?_, description.dequeued dequeued⟩
  rw [List.map_findSome?]
  exact prize.dequeued dequeued

/-- A call returns what a fresh cell shows exactly when it does not fall back on earlier text. -/
theorem returned_eq_fresh_iff (run : Run (cellSystem url) [] older cells)
    (returned : call.returned url cells = some cell) :
    call.returned url cells = call.fresh url ↔ FallsBackOnNib older call := by
  rcases CellCall.returned_eq_some_iff.mp returned with ⟨old, powerUp, dequeued, entry, rfl⟩
  rcases texts_of_run run dequeued with ⟨prize, description⟩
  have fresh : call.fresh url = some (configure url fromNib powerUp) := by
    rw [CellCall.fresh, ShopController.cellForItemAt_eq_configure, entry, Option.map_some]
  rw [returned, fresh, Option.some.injEq, configure_eq_configure_iff, FallsBackOnNib]
  cases reused : call.reused with
  | none =>
      have loaded : fromNib = old := by
        simpa [CellCall.dequeued, reused] using dequeued
      subst loaded
      constructor
      · intro _ place handedBack
        cases handedBack
      · intro _
        exact ⟨rfl, rfl⟩
  | some place =>
      have isOld : call.place cells = place := by simp [CellCall.place, reused]
      rw [isOld] at prize description
      rw [prize, description, entry, or_or_eq_iff, or_or_eq_iff, forall_toString_eq_ten_iff,
        Option.map_eq_none_iff]
      constructor
      · rintro keeps _ ⟨⟩ _ ⟨⟩
        exact keeps
      · intro keeps
        exact keeps place rfl powerUp rfl

/-- Reused cells leak nothing exactly when every call which sets no price or no description falls
back on what the nib laid out. -/
theorem noLeak_iff (run : Run (cellSystem url) [] history cells) :
    NoLeak url history ↔
      ∀ cells call older, (cells, call) :: older <:+ history → FallsBackOnNib older call := by
  constructor
  · intro noLeak cells call older cut
    rcases run.before cut with ⟨olderRun, _, cell, returned, _⟩
    apply (returned_eq_fresh_iff olderRun returned).mp
    exact noLeak (cells, call) (cut.subset (List.mem_cons_self ..))
  · rintro fallsBack ⟨cells, call⟩ occurred
    rcases List.append_of_mem occurred with ⟨later, older, split⟩
    have cut : (cells, call) :: older <:+ history := ⟨later, split.symm⟩
    rcases run.before cut with ⟨olderRun, _, cell, returned, _⟩
    exact (returned_eq_fresh_iff olderRun returned).mpr (fallsBack cells call older cut)

end Runs

/-- In a shop with two entries a cell is loaded for the first row, and reused for the second. -/
def scroll (url : String → Option URL) (first second : PowerUp) :
    History (List (ShopTableViewCell URL)) CellCall :=
  let shop := { ShopController.instantiate with powerUps := [first, second] }
  [([configure url fromNib first], ⟨shop, 1, some 0⟩), ([], ⟨shop, 0, none⟩)]

theorem run_scroll (url : String → Option URL) (first second : PowerUp) :
    Run (cellSystem url) [] (scroll url first second)
      [configure url (configure url fromNib first) second] := by
  apply Run.snoc
  · apply Run.snoc Run.nil
    exact ⟨_, CellCall.returned_eq_some_iff.mpr ⟨fromNib, first, rfl, rfl, rfl⟩, rfl⟩
  · exact ⟨_, CellCall.returned_eq_some_iff.mpr ⟨_, second, rfl, rfl, rfl⟩, rfl⟩

/-- Neither of two entries leaves a description, and the second has a price of its own. -/
theorem noLeak_priced :
    NoLeak (some : String → Option String)
      (scroll some (.ofDictionary (App.catalogueEntry "Shield" 25 1))
        (.ofDictionary (App.catalogueEntry "Ice Freeze" 10 2))) := by
  apply (noLeak_iff (run_scroll _ _ _)).mpr
  intro cells call older cut
  rcases List.suffix_cons_iff.mp cut with reuse | earlier
  · cases reuse
    rintro _ ⟨⟩ _ ⟨⟩
    exact ⟨by decide, by decide⟩
  · rcases List.suffix_cons_iff.mp earlier with load | none
    · cases load
      intro _ handedBack
      cases handedBack
    · simp at none

/-- A cell which showed the price 25 shows it again for an entry without a price, for which a
fresh cell shows 10. -/
theorem not_noLeak_unpriced :
    (∃ cells, Run (cellSystem (some : String → Option String)) []
      (scroll some (.ofDictionary (App.catalogueEntry "Shield" 25 1)) (.ofDictionary fun _ => none))
      cells ∧ cells.map ShopTableViewCell.labelPrize = [some "25"]) ∧
      ¬NoLeak (some : String → Option String)
        (scroll some (.ofDictionary (App.catalogueEntry "Shield" 25 1))
          (.ofDictionary fun _ => none)) := by
  refine ⟨⟨_, run_scroll _ _ _, by decide⟩, ?_⟩
  intro noLeak
  have same := noLeak _ (List.mem_cons_self ..)
  have prize : (some "25" : Option String) = some "10" :=
    congrArg (fun cell => cell.bind ShopTableViewCell.labelPrize) same
  exact absurd prize (by decide)

end OneSecond
