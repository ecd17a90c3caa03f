import OneSecond.Currency

/-!
# What a selection buys

`cellForItemAt` shows the catalogue entry of a row, its price included, while
`didSelectItemAt` looks at no entry: it charges 5 acorns and goes by the row
number alone.  The two theorems below compare what is shown with what is bought,
and say exactly when they agree.
-/

namespace OneSecond

open Runs Sorting

namespace ShopController

variable {shop : ShopController} {userDefault : UserDefaults} {row : ℕ}

/-- A selection of the row adds a unit of the currency, in memory and in the store. -/
def Grants (shop : ShopController) (userDefault : UserDefaults) (row : ℕ) (currency : Currency) :
    Prop :=
  (shop.didSelectItemAt userDefault row).1.balance currency = shop.balance currency + 1 ∧
    (shop.didSelectItemAt userDefault row).2.integer currency.key =
      userDefault.integer currency.key + 1

/-- A selection of the row adds one unit of one kind of power-up and none of the other, in memory
and in the store. -/
def AddsOneUnit (shop : ShopController) (userDefault : UserDefaults) (row : ℕ) : Prop :=
  ∃ kind, kind ≠ Currency.acorn ∧ ∀ other, other ≠ Currency.acorn →
    (shop.didSelectItemAt userDefault row).1.balance other =
        shop.balance other + amount kind 1 other ∧
      (shop.didSelectItemAt userDefault row).2.integer other.key =
        userDefault.integer other.key + amount kind 1 other

/-- A selection of the row costs `price`: who can pay it pays it for one unit, and who cannot is
refused. -/
def Charges (shop : ShopController) (userDefault : UserDefaults) (row : ℕ) (price : ℤ) : Prop :=
  (price ≤ shop.acornNumber →
    (shop.didSelectItemAt userDefault row).1.acornNumber = shop.acornNumber - price ∧
      (shop.didSelectItemAt userDefault row).2.integer .acorn =
        userDefault.integer .acorn - price ∧
      shop.AddsOneUnit userDefault row) ∧
    (shop.acornNumber < price → shop.didSelectItemAt userDefault row = (shop, userDefault))

/-- The shop's copies are the stored balances. -/
def Agrees (shop : ShopController) (userDefault : UserDefaults) : Prop :=
  ∀ currency : Currency, userDefault.integer currency.key = shop.balance currency

theorem grants_iff (agrees : shop.Agrees userDefault) (accepted : shop.acornNumber ≥ 5)
    (currency : Currency) : shop.Grants userDefault row currency ↔ currency = kindOfRow row := by
  rw [Grants, (didSelectItemAt_of_accepted userDefault row accepted).1,
    stored_of_accepted accepted (fun _ => rfl) agrees, agrees currency, and_self]
  simp only [Pi.add_apply, amount, add_right_inj]
  by_cases same : currency = kindOfRow row
  · simp [same, kindOfRow_ne_acorn]
  · simp only [same, if_false, iff_false]
    split
    · decide
    · decide

theorem kindOfRow_eq_iff (row other : ℕ) :
    kindOfRow row = kindOfRow other ↔ (row = 0 ↔ other = 0) := by
  by_cases first : row = 0
  · by_cases otherFirst : other = 0
    · simp [kindOfRow, first, otherFirst]
    · simp [kindOfRow, first, otherFirst]
  · by_cases otherFirst : other = 0
    · simp [kindOfRow, first, otherFirst]
    · simp [kindOfRow, first, otherFirst]

theorem addsOneUnit_of_accepted (agrees : shop.Agrees userDefault)
    (accepted : shop.acornNumber ≥ 5) : shop.AddsOneUnit userDefault row := by
  refine ⟨kindOfRow row, kindOfRow_ne_acorn row, ?_⟩
  intro other notAcorn
  rw [(didSelectItemAt_of_accepted userDefault row accepted).1,
    stored_of_accepted accepted (fun _ => rfl) agrees, agrees other]
  simp [amount, notAcorn]

theorem debit_of_accepted (accepted : shop.acornNumber ≥ 5) :
    (shop.didSelectItemAt userDefault row).1.acornNumber = shop.acornNumber - 5 ∧
      (shop.didSelectItemAt userDefault row).2.integer .acorn = shop.acornNumber - 5 := by
  rcases didSelectItemAt_of_accepted userDefault row accepted with ⟨balances, written⟩
  have notAcorn : Currency.acorn ≠ kindOfRow row := (kindOfRow_ne_acorn row).symm
  refine ⟨?_, ?_⟩
  · have debited := congrFun balances .acorn
    simp only [Pi.add_apply, amount, notAcorn, if_true, if_false, add_zero] at debited
    exact debited
  · have otherKey : DefaultsKey.acorn ≠ (kindOfRow row).key := by
      intro same
      exact notAcorn (Currency.key_inj.mp same)
    simp [written, otherKey]

theorem charges_iff_of_agrees (agrees : shop.Agrees userDefault) (price : ℤ) :
    shop.Charges userDefault row price ↔
      price = 5 ∨ shop.acornNumber < 5 ∧ shop.acornNumber < price := by
  have acorn : userDefault.integer .acorn = shop.acornNumber := agrees .acorn
  by_cases accepted : shop.acornNumber ≥ 5
  · have debit : (shop.didSelectItemAt userDefault row).1.acornNumber = shop.acornNumber - 5 ∧
        (shop.didSelectItemAt userDefault row).2.integer .acorn = shop.acornNumber - 5 :=
      debit_of_accepted accepted
    have unit : shop.AddsOneUnit userDefault row := addsOneUnit_of_accepted agrees accepted
    constructor
    · rintro ⟨pays, refused⟩
      left
      by_cases affordable : price ≤ shop.acornNumber
      · have paid := (pays affordable).1
        omega
      · have unchanged := refused (by omega)
        rw [unchanged] at debit
        have debited : shop.acornNumber = shop.acornNumber - 5 := debit.1
        omega
    · rintro (isFive | ⟨poor, _⟩)
      · subst isFive
        refine ⟨fun _ => ⟨debit.1, by rw [debit.2, acorn], unit⟩, ?_⟩
        intro notAffordable
        omega
      · omega
  · have refused : shop.acornNumber < 5 := by omega
    have unchanged : shop.didSelectItemAt userDefault row = (shop, userDefault) :=
      didSelectItemAt_of_refused refused
    constructor
    · rintro ⟨pays, _⟩
      by_cases affordable : price ≤ shop.acornNumber
      · rcases (pays affordable).2.2 with ⟨kind, isPowerUp, adds⟩
        have added := (adds kind isPowerUp).1
        rw [unchanged] at added
        simp [amount] at added
      · omega
    · intro either
      refine ⟨?_, fun _ => unchanged⟩
      intro affordable
      omega

theorem cellForItemAt_eq {URL : Type} (url : String → Option URL)
    (cell : ShopTableViewCell URL) {other : ShopController} {place : ℕ}
    (same : shop.powerUps[row]? = other.powerUps[place]?) :
    shop.cellForItemAt url cell row = other.cellForItemAt url cell place := by
  simp only [cellForItemAt, same]

theorem labelPrize_cellForItemAt {URL : Type} (url : String → Option URL)
    (cell : ShopTableViewCell URL) {powerUp : PowerUp} {price : ℤ}
    (entry : shop.powerUps[row]? = some powerUp) (priced : powerUp.cost = some price) :
    (shop.cellForItemAt url cell row).map ShopTableViewCell.labelPrize =
      some (some (toString price)) := by
  simp only [cellForItemAt, entry, priced]
  cases powerUp.text <;> cases powerUp.imageUrl <;> rfl

end ShopController

namespace App

/-- The shop, while it is in front. -/
def shop : App → Option ShopController
  | .shopScreen _ shop => some shop
  | _ => none

def catalogueEntry (name : String) (cost tier : ℤ) : Dictionary := fun key =>
  if key = "name" then some (.string name)
  else if key = "cost" then some (.int cost)
  else if key = "tier" then some (.int tier)
  else none

def shopVisit (catalogue : List Dictionary) : List Event :=
  .buttonShop :: catalogue.map fun dictionary => .childAdded (.dictionary dictionary)

section Runs

variable {sort : SortRoutine PowerUp} {device otherDevice : Device}
  {history otherHistory : History App Event} {vc otherVc : ViewController}
  {shop otherShop : ShopController} {row otherRow : ℕ} {powerUp : PowerUp}

theorem agrees_of_run (run : Run (system sort) (firstLaunch device) history (.shopScreen vc shop)) :
    shop.Agrees vc.userDefault := by
  have books := books_of_run run
  intro currency
  rw [books.2.1]
  rfl

/-- Two rows with the same entry show the same cell; selecting them grants the same kind of
power-up exactly when both or neither of them is the first row. -/
theorem sameKind_iff
    (run : Run (system sort) (firstLaunch device) history (.shopScreen vc shop))
    (otherRun : Run (system sort) (firstLaunch otherDevice) otherHistory
      (.shopScreen otherVc otherShop))
    (entry : shop.powerUps[row]? = some powerUp)
    (otherEntry : otherShop.powerUps[otherRow]? = some powerUp)
    (accepted : shop.acornNumber ≥ 5) (otherAccepted : otherShop.acornNumber ≥ 5) :
    (∀ (URL : Type) (url : String → Option URL) (cell : ShopTableViewCell URL),
        shop.cellForItemAt url cell row = otherShop.cellForItemAt url cell otherRow) ∧
      ((∀ currency, shop.Grants vc.userDefault row currency ↔
          otherShop.Grants otherVc.userDefault otherRow currency) ↔
        (row = 0 ↔ otherRow = 0)) := by
  have agrees := agrees_of_run run
  have otherAgrees := agrees_of_run otherRun
  refine ⟨?_, ?_⟩
  · intro URL url cell
    exact ShopController.cellForItemAt_eq url cell (entry.trans otherEntry.symm)
  rw [← ShopController.kindOfRow_eq_iff]
  constructor
  · intro same
    have granted : shop.Grants vc.userDefault row (ShopController.kindOfRow row) :=
      (ShopController.grants_iff agrees accepted _).mpr rfl
    exact (ShopController.grants_iff otherAgrees otherAccepted _).mp ((same _).mp granted)
  · intro same currency
    rw [ShopController.grants_iff agrees accepted, ShopController.grants_iff otherAgrees
      otherAccepted, same]

/-- A cell shows its entry's cost; a selection charges it exactly when it is 5, or when the player
has fewer than 5 acorns and cannot pay it. -/
theorem charges_iff {price : ℤ}
    (run : Run (system sort) (firstLaunch device) history (.shopScreen vc shop))
    (entry : shop.powerUps[row]? = some powerUp) (priced : powerUp.cost = some price) :
    (∀ (URL : Type) (url : String → Option URL) (cell : ShopTableViewCell URL),
        (shop.cellForItemAt url cell row).map ShopTableViewCell.labelPrize =
          some (some (toString price))) ∧
      (shop.Charges vc.userDefault row price ↔
        price = 5 ∨ shop.acornNumber < 5 ∧ shop.acornNumber < price) := by
  refine ⟨?_, ShopController.charges_iff_of_agrees (agrees_of_run run) price⟩
  intro URL url cell
  exact ShopController.labelPrize_cellForItemAt url cell entry priced

end Runs

/-- A visit to the shop on a fresh installation, with 20 acorns. -/
theorem exists_shopVisit (catalogue : List Dictionary) (test : ShopController → Bool)
    (passes : (execute (deliver .insertion) (firstLaunch .fresh) (shopVisit catalogue)).any
      (fun result => result.2.shop.any test) = true) :
    ∃ history vc shop,
      Run (uikit .insertion) (firstLaunch .fresh) history (.shopScreen vc shop) ∧
        test shop = true := by
  rcases exists_uikit_run .insertion (firstLaunch .fresh) (shopVisit catalogue)
    (fun _ app => app.shop.any test) passes with ⟨history, app, run, tested⟩
  rcases (Option.any_eq_true _ _).mp tested with ⟨shop, front, isShop⟩
  cases app with
  | terminated device => cases front
  | mainScreen vc => cases front
  | shopScreen vc _ =>
      cases front
      exact ⟨history, vc, shop, run, isShop⟩

/-- An entry which stands in different rows of the catalogues below. -/
def soldEntry : PowerUp := .ofDictionary (catalogueEntry "Ice Freeze" 5 3)

/-- Behind one other entry or two, the entry grants the same kind. -/
theorem sameKind_soldEntry :
    ∃ history vc shop otherHistory otherVc otherShop,
      Run (uikit .insertion) (firstLaunch .fresh) history (.shopScreen vc shop) ∧
        Run (uikit .insertion) (firstLaunch .fresh) otherHistory (.shopScreen otherVc otherShop) ∧
        shop.powerUps[1]? = some soldEntry ∧ otherShop.powerUps[2]? = some soldEntry ∧
        ∀ currency, shop.Grants vc.userDefault 1 currency ↔
          otherShop.Grants otherVc.userDefault 2 currency := by
  rcases exists_shopVisit [catalogueEntry "Shield" 5 1, catalogueEntry "Ice Freeze" 5 3]
    (fun shop => shop.powerUps[1]? == some soldEntry && decide (shop.acornNumber ≥ 5))
    (by decide +kernel) with ⟨history, vc, shop, run, tested⟩
  rcases exists_shopVisit
    [catalogueEntry "Shield" 5 1, catalogueEntry "Fire" 5 2, catalogueEntry "Ice Freeze" 5 3]
    (fun shop => shop.powerUps[2]? == some soldEntry && decide (shop.acornNumber ≥ 5))
    (by decide +kernel) with ⟨otherHistory, otherVc, otherShop, otherRun, otherTested⟩
  simp only [Bool.and_eq_true, beq_iff_eq, decide_eq_true_iff] at tested otherTested
  rcases tested with ⟨entry, rich⟩
  rcases otherTested with ⟨otherEntry, otherRich⟩
  have same := (sameKind_iff run.of_restrict otherRun.of_restrict entry otherEntry rich
    otherRich).2.mpr (by decide)
  exact ⟨history, vc, shop, otherHistory, otherVc, otherShop, run, otherRun, entry, otherEntry,
    same⟩

/-- Alone in the list the entry is a green power-up; behind another one it is an ice one. -/
theorem not_sameKind_soldEntry :
    ∃ history vc shop otherHistory otherVc otherShop,
      Run (uikit .insertion) (firstLaunch .fresh) history (.shopScreen vc shop) ∧
        Run (uikit .insertion) (firstLaunch .fresh) otherHistory (.shopScreen otherVc otherShop) ∧
        shop.powerUps[0]? = some soldEntry ∧ otherShop.powerUps[1]? = some soldEntry ∧
        shop.Grants vc.userDefault 0 .green ∧ otherShop.Grants otherVc.userDefault 1 .ice ∧
        ¬∀ currency, shop.Grants vc.userDefault 0 currency ↔
          otherShop.Grants otherVc.userDefault 1 currency := by
  rcases exists_shopVisit [catalogueEntry "Ice Freeze" 5 3]
    (fun shop => shop.powerUps[0]? == some soldEntry && decide (shop.acornNumber ≥ 5))
    (by decide +kernel) with ⟨history, vc, shop, run, tested⟩
  rcases exists_shopVisit [catalogueEntry "Shield" 5 1, catalogueEntry "Ice Freeze" 5 3]
    (fun shop => shop.powerUps[1]? == some soldEntry && decide (shop.acornNumber ≥ 5))
    (by decide +kernel) with ⟨otherHistory, otherVc, otherShop, otherRun, otherTested⟩
  simp only [Bool.and_eq_true, beq_iff_eq, decide_eq_true_iff] at tested otherTested
  rcases tested with ⟨entry, rich⟩
  rcases otherTested with ⟨otherEntry, otherRich⟩
  have agrees := agrees_of_run run.of_restrict
  have otherAgrees := agrees_of_run otherRun.of_restrict
  have green : shop.Grants vc.userDefault 0 .green :=
    (ShopController.grants_iff agrees rich .green).mpr rfl
  have ice : otherShop.Grants otherVc.userDefault 1 .ice :=
    (ShopController.grants_iff otherAgrees otherRich .ice).mpr rfl
  refine ⟨history, vc, shop, otherHistory, otherVc, otherShop, run, otherRun, entry, otherEntry,
    green, ice, ?_⟩
  intro same
  have alsoGreen := (ShopController.grants_iff otherAgrees otherRich .green).mp
    ((same .green).mp green)
  exact absurd alsoGreen (by decide)

/-- An entry which costs 5 is charged as shown. -/
theorem charges_five :
    ∃ history vc shop,
      Run (uikit .insertion) (firstLaunch .fresh) history (.shopScreen vc shop) ∧
        shop.powerUps[0]? = some soldEntry ∧ shop.Charges vc.userDefault 0 5 := by
  rcases exists_shopVisit [catalogueEntry "Ice Freeze" 5 3]
    (fun shop => shop.powerUps[0]? == some soldEntry) (by decide +kernel) with
    ⟨history, vc, shop, run, tested⟩
  have entry := beq_iff_eq.mp tested
  exact ⟨history, vc, shop, run, entry, (charges_iff run.of_restrict entry rfl).2.mpr (Or.inl rfl)⟩

/-- An entry which costs 10 is sold to a player with 20 acorns for 5. -/
theorem not_charges_ten :
    ∃ history vc shop powerUp,
      Run (uikit .insertion) (firstLaunch .fresh) history (.shopScreen vc shop) ∧
        shop.powerUps[0]? = some powerUp ∧ powerUp.cost = some 10 ∧ shop.acornNumber = 20 ∧
        ¬shop.Charges vc.userDefault 0 10 := by
  rcases exists_shopVisit [catalogueEntry "Ice Freeze" 10 3]
    (fun shop => shop.acornNumber == 20 && shop.powerUps[0]? ==
      some (.ofDictionary (catalogueEntry "Ice Freeze" 10 3))) (by decide +kernel) with
    ⟨history, vc, shop, run, tested⟩
  simp only [Bool.and_eq_true, beq_iff_eq] at tested
  rcases tested with ⟨twenty, entry⟩
  refine ⟨history, vc, shop, _, run, entry, rfl, twenty, ?_⟩
  rintro ⟨pays, _⟩
  have debited : (shop.didSelectItemAt vc.userDefault 0).1.acornNumber = shop.acornNumber - 5 :=
    (ShopController.debit_of_accepted (by omega)).1
  have paid := (pays (by omega)).1
  omega

end App

end OneSecond
