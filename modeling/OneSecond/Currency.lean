import OneSecond.Occurrences

/-!
# The three currencies

Acorns, green and ice power-ups are held in the main screen's fields, copied into
a shop when it opens, and persisted in the defaults database, from which the main
screen reads them again.  `Books` is the agreement of the copies with one
account `book`; its shape changes with the screen in front: under the shop the
main screen's fields may be stale, and the shop's copies are the ones that agree.
Each handler keeps the agreement, with the account it moves to; along a run the
account is the opening one and what was booked since.
-/

namespace OneSecond

open Runs Sorting

inductive Currency where
  | acorn
  | green
  | ice
  deriving DecidableEq, Repr

namespace Currency

def key : Currency → DefaultsKey
  | .acorn => .acorn
  | .green => .green
  | .ice => .ice

/-- The amount granted to a player who has nothing of it at the first launch. -/
def grant : Currency → ℤ
  | .acorn => 20
  | .green => 5
  | .ice => 5

@[simp]
theorem key_inj {currency other : Currency} : currency.key = other.key ↔ currency = other := by
  cases currency <;> cases other <;> simp [key]

@[simp]
theorem key_ne_best (currency : Currency) : currency.key ≠ .best := by
  cases currency <;> simp [key]

@[simp]
theorem bool_ne_key (currency : Currency) : DefaultsKey.bool ≠ currency.key := by
  cases currency <;> simp [key]

end Currency

def ViewController.balance (vc : ViewController) : Currency → ℤ
  | .acorn => vc.acornNumber
  | .green => vc.greenNumber
  | .ice => vc.iceNumber

def ShopController.balance (shop : ShopController) : Currency → ℤ
  | .acorn => shop.acornNumber
  | .green => shop.greenNumber
  | .ice => shop.iceNumber

/-- An amount of one currency. -/
def amount (currency : Currency) (value : ℤ) : Currency → ℤ :=
  fun other => if other = currency then value else 0

@[simp]
theorem amount_zero (currency : Currency) : amount currency 0 = 0 := by
  funext other
  simp [amount]

/-- A balance stored under its key books its change, and leaves the other balances alone. -/
theorem integer_set_booked {userDefault : UserDefaults} {book : Currency → ℤ}
    (stored : ∀ currency : Currency, userDefault.integer currency.key = book currency)
    (currency : Currency) (value : ℤ) (other : Currency) :
    (userDefault.set (book currency + value) currency.key).integer other.key =
      (book + amount currency value) other := by
  by_cases same : other = currency
  · subst same
    simp [amount]
  · simp [amount, same, stored]

namespace ViewController

/-- The first launch is over: the flag is set in memory and in the store. -/
structure Loaded (vc : ViewController) : Prop where
  inMemory : vc.boolCheckUserDefault = true
  stored : vc.userDefault.bool .bool = true

/-- The controller's fields and the store both hold what `book` says. -/
structure Books (vc : ViewController) (book : Currency → ℤ) : Prop where
  loaded : vc.Loaded
  held : ∀ currency, vc.balance currency = book currency
  stored : ∀ currency, vc.userDefault.integer currency.key = book currency

variable {vc : ViewController} {book : Currency → ℤ}

/-- Handlers which touch neither the balances nor their store nor the flags keep the books. -/
theorem Books.of_eq {after : ViewController} (books : vc.Books book)
    (flag : after.boolCheckUserDefault = vc.boolCheckUserDefault)
    (balance : after.balance = vc.balance)
    (storedFlag : after.userDefault.bool .bool = vc.userDefault.bool .bool)
    (stored : ∀ currency : Currency,
      after.userDefault.integer currency.key = vc.userDefault.integer currency.key) :
    after.Books book where
  loaded := ⟨flag.trans books.loaded.inMemory, storedFlag.trans books.loaded.stored⟩
  held currency := by rw [balance, books.held]
  stored currency := by rw [stored, books.stored]

/-- Handlers which move one balance, and store it, book the difference. -/
theorem Books.booked {after : ViewController} (books : vc.Books book) (currency : Currency)
    (value : ℤ) (flag : after.boolCheckUserDefault = vc.boolCheckUserDefault)
    (balance : after.balance = vc.balance + amount currency value)
    (written : after.userDefault =
      vc.userDefault.set (vc.balance currency + value) currency.key) :
    after.Books (book + amount currency value) where
  loaded := by
    refine ⟨flag.trans books.loaded.inMemory, ?_⟩
    rw [written, UserDefaults.bool_set_of_ne _ (Currency.bool_ne_key currency)]
    exact books.loaded.stored
  held other := by rw [balance, Pi.add_apply, books.held, Pi.add_apply]
  stored other := by
    rw [written, books.held]
    apply integer_set_booked books.stored

theorem Books.endRound (books : vc.Books book) : vc.endRound.Books book := by
  rw [endRound_eq]
  exact books.of_eq rfl rfl rfl fun _ => rfl

theorem Books.stopWon (books : vc.Books book) : vc.stopWon.Books (book + amount .acorn 1) := by
  rw [stopWon_eq]
  have won : ({ vc with
      acornNumber := vc.acornNumber + 1
      userDefault := vc.userDefault.set (vc.acornNumber + 1) .acorn } : ViewController).Books
      (book + amount .acorn 1) := by
    refine books.booked .acorn 1 rfl ?_ rfl
    funext currency
    cases currency <;> simp [balance, amount]
  apply won.of_eq
  · rfl
  · rfl
  · simp
  · intro currency
    simp

theorem Books.scoreLost (books : vc.Books book) : vc.scoreLost.Books book := by
  rw [scoreLost_eq]
  apply books.of_eq
  · rfl
  · rfl
  · by_cases better : vc.score > vc.best <;> simp [better]
  · intro currency
    by_cases better : vc.score > vc.best <;> simp [better]

theorem Books.timerStops (books : vc.Books book) :
    vc.timerStops.Books (book + amount .acorn (if vc.stopWins then 1 else 0)) := by
  rcases vc.timerStops_cases with ⟨wins, ended⟩ | ⟨misses, _, ended⟩ | ⟨misses, _, ended⟩
  · rw [wins, ended]
    exact books.endRound.stopWon
  · rw [misses, ended]
    simp only [Bool.false_eq_true, if_false, amount_zero, add_zero]
    exact books.endRound.of_eq rfl rfl rfl fun _ => rfl
  · rw [misses, ended]
    simp only [Bool.false_eq_true, if_false, amount_zero, add_zero]
    exact books.endRound.scoreLost.of_eq rfl rfl rfl fun _ => rfl

theorem Books.timerRuns (books : vc.Books book) : vc.timerRuns.Books book := by
  rw [timerRuns_eq]
  exact books.of_eq rfl rfl rfl fun _ => rfl

theorem Books.startStopButtonTapped (books : vc.Books book) :
    vc.startStopButtonTapped.Books
      (book + amount .acorn
        (if winningStop (.mainScreen vc, .startStopButtonTapped) then 1 else 0)) := by
  cases running : vc.isTimerRunning with
  | true =>
      have verdict : winningStop (.mainScreen vc, .startStopButtonTapped) = vc.stopWins := by
        simp [winningStop, running]
      rcases vc.stop_eq running with ⟨circle, ended⟩
      rw [ended, verdict]
      exact books.timerStops.of_eq rfl rfl rfl fun _ => rfl
  | false =>
      have noStop : winningStop (.mainScreen vc, .startStopButtonTapped) = false := by
        simp [winningStop, running]
      rcases vc.start_eq running with ⟨circle, started⟩
      rw [started, noStop]
      simp only [Bool.false_eq_true, if_false, amount_zero, add_zero]
      exact books.timerRuns.of_eq rfl rfl rfl fun _ => rfl

theorem Books.buttonShop (books : vc.Books book) :
    vc.buttonShop.Books
      (book + amount .acorn (if winningStop (.mainScreen vc, .buttonShop) then 1 else 0)) := by
  cases running : vc.isTimerRunning with
  | true =>
      have verdict : winningStop (.mainScreen vc, .buttonShop) = vc.stopWins := by
        simp [winningStop, running]
      rw [buttonShop_of_running vc running, verdict]
      exact books.timerStops.of_eq rfl rfl rfl fun _ => rfl
  | false =>
      have noStop : winningStop (.mainScreen vc, .buttonShop) = false := by
        simp [winningStop, running]
      rw [buttonShop_of_stopped vc running, noStop]
      simpa using books

/-- Written by the observer and then again by the handler, a tap on Ice is booked once. -/
theorem Books.buttonIceTapped (books : vc.Books book) :
    vc.buttonIceTapped.Books (book + amount .ice (-1)) := by
  rw [buttonIceTapped_eq]
  refine books.booked .ice (-1) rfl ?_ rfl
  funext currency
  cases currency <;> simp [balance, amount, sub_eq_add_neg]

theorem Books.buttonGreenTapped (books : vc.Books book) :
    vc.buttonGreenTapped.Books (book + amount .green (-1)) := by
  rw [buttonGreenTapped_eq]
  refine books.booked .green (-1) rfl ?_ rfl
  funext currency
  cases currency <;> simp [balance, amount, sub_eq_add_neg]

theorem Loaded.fire (loaded : vc.Loaded) (timer : Timer TimerBlock) : (vc.fire timer).Loaded := by
  rcases vc.fire_writes timer with ⟨_, _, _, _, _, _, written⟩
  rw [written]
  exact ⟨loaded.inMemory, loaded.stored⟩

theorem Books.fire (books : vc.Books book) (timer : Timer TimerBlock) :
    (vc.fire timer).Books book := by
  rcases vc.fire_writes timer with ⟨_, _, _, _, _, _, written⟩
  rw [written]
  exact books.of_eq rfl rfl rfl fun _ => rfl

/-- However stale the fields, reading the store again brings them back to the book. -/
theorem Books.viewDidAppear (loaded : vc.Loaded)
    (stored : ∀ currency : Currency, vc.userDefault.integer currency.key = book currency) :
    vc.viewDidAppear.Books book := by
  have acorn := stored .acorn
  have green := stored .green
  have ice := stored .ice
  simp only [Currency.key] at acorn green ice
  rw [ViewController.viewDidAppear, setupUserDefaultSetLabel_of_loaded vc loaded.inMemory]
  refine ⟨⟨loaded.inMemory, by simpa using loaded.stored⟩, ?_, ?_⟩
  · intro currency
    cases currency with
    | acorn => simp [balance, acorn]
    | green => simp [balance, green]
    | ice => simp [balance, ice]
  · intro currency
    cases currency with
    | acorn => simp [Currency.key, acorn]
    | green => simp [Currency.key, green]
    | ice => simp [Currency.key, ice]

/-- What the first launch leaves of the balances found in the store. -/
def opening (device : Device) (currency : Currency) : ℤ :=
  if device.userDefault.bool .bool then device.userDefault.integer currency.key
  else starter (device.userDefault.integer currency.key) currency.grant

theorem Books.grantStarters
    (agree : ∀ currency : Currency,
      vc.userDefault.integer currency.key = vc.balance currency) :
    vc.grantStarters.Books fun currency => starter (vc.balance currency) currency.grant := by
  have acorn := agree .acorn
  have green := agree .green
  have ice := agree .ice
  simp only [Currency.key, balance] at acorn green ice
  simp only [ViewController.grantStarters, grantIce_eq, grantGreen_eq, grantAcorn_eq]
  refine ⟨⟨by simp, by simp⟩, ?_, ?_⟩
  · intro currency
    cases currency <;> rfl
  · intro currency
    cases currency with
    | acorn =>
        change _ = starter vc.acornNumber 20
        simp [Currency.key, starter, acorn]
    | green =>
        change _ = starter vc.greenNumber 5
        simp [Currency.key, starter, green]
    | ice =>
        change _ = starter vc.iceNumber 5
        simp [Currency.key, starter, ice]

theorem Books.setupUserDefaultSetLabel
    (flag : vc.boolCheckUserDefault = vc.userDefault.bool .bool)
    (agree : ∀ currency : Currency,
      vc.userDefault.integer currency.key = vc.balance currency) :
    vc.setupUserDefaultSetLabel.Books (opening vc.device) := by
  cases loaded : vc.userDefault.bool .bool with
  | true =>
      refine Books.viewDidAppear ⟨flag.trans loaded, loaded⟩ ?_
      intro currency
      simp [opening, device, loaded]
  | false =>
      have starters : vc.setupUserDefaultSetLabel = vc.reloadBest.grantStarters := by
        simp [ViewController.setupUserDefaultSetLabel, reloadBest, setBest_eq, flag, loaded]
      have granted : vc.reloadBest.grantStarters.Books
          fun currency => starter (vc.balance currency) currency.grant :=
        Books.grantStarters agree
      have openingEq : opening vc.device =
          fun currency => starter (vc.balance currency) currency.grant := by
        funext currency
        simp [opening, device, loaded, agree]
      rw [starters, openingEq]
      exact granted

theorem Books.launch (device : Device) : (launch device).Books (opening device) := by
  have loading : ((instantiate device).shouldShowOverlayEffect true).setupUserDefaultSetLabel.Books
      (opening device) := by
    apply Books.setupUserDefaultSetLabel
    · rfl
    · intro currency
      cases currency <;> rfl
  exact loading.of_eq rfl rfl rfl fun _ => rfl

end ViewController

namespace ShopController

variable {shop : ShopController} {userDefault : UserDefaults} {row : ℕ}

def kindOfRow (row : ℕ) : Currency := if row = 0 then .green else .ice

theorem kindOfRow_ne_acorn (row : ℕ) : kindOfRow row ≠ .acorn := by
  unfold kindOfRow
  split
  · simp
  · simp

theorem didSelectItemAt_of_accepted (userDefault : UserDefaults) (row : ℕ)
    (accepted : shop.acornNumber ≥ 5) :
    (shop.didSelectItemAt userDefault row).1.balance =
        shop.balance + (amount .acorn (-5) + amount (kindOfRow row) 1) ∧
      (shop.didSelectItemAt userDefault row).2 =
        (userDefault.set (shop.acornNumber - 5) .acorn).set
          (shop.balance (kindOfRow row) + 1) (kindOfRow row).key := by
  by_cases first : row = 0
  · refine ⟨?_, by simp [didSelectItemAt, accepted, first, kindOfRow, balance, Currency.key]⟩
    funext currency
    cases currency <;>
      simp [didSelectItemAt, accepted, first, kindOfRow, updateLabels, balance, amount,
        sub_eq_add_neg]
  · refine ⟨?_, by simp [didSelectItemAt, accepted, first, kindOfRow, balance, Currency.key]⟩
    funext currency
    cases currency <;>
      simp [didSelectItemAt, accepted, first, kindOfRow, updateLabels, balance, amount,
        sub_eq_add_neg]

/-- What an accepted selection stores, it stores for balances which agreed with the store. -/
theorem stored_of_accepted {book : Currency → ℤ} (accepted : shop.acornNumber ≥ 5)
    (held : ∀ currency, shop.balance currency = book currency)
    (stored : ∀ currency : Currency, userDefault.integer currency.key = book currency)
    (currency : Currency) :
    (shop.didSelectItemAt userDefault row).2.integer currency.key =
      (book + (amount .acorn (-5) + amount (kindOfRow row) 1)) currency := by
  have paid : ∀ currency : Currency,
      (userDefault.set (shop.acornNumber - 5) .acorn).integer currency.key =
        (book + amount .acorn (-5)) currency := by
    have booked := integer_set_booked stored .acorn (-5)
    rw [← held .acorn] at booked
    exact booked
  have untouched : shop.balance (kindOfRow row) = (book + amount .acorn (-5)) (kindOfRow row) := by
    simp [held, amount, kindOfRow_ne_acorn]
  rw [(didSelectItemAt_of_accepted userDefault row accepted).2, untouched, ← add_assoc]
  exact integer_set_booked paid _ 1 currency

theorem didSelectItemAt_of_refused (refused : shop.acornNumber < 5) :
    shop.didSelectItemAt userDefault row = (shop, userDefault) := by
  have notAccepted : ¬shop.acornNumber ≥ 5 := by omega
  simp [didSelectItemAt, notAccepted]

end ShopController

def booking (occurrence : App × Event) : Currency → ℤ
  | .acorn => (if winningStop occurrence then 1 else 0) -
      if acceptedSelection occurrence then 5 else 0
  | .green => (if grantsGreen occurrence then 1 else 0) - if greenTap occurrence then 1 else 0
  | .ice => (if grantsIce occurrence then 1 else 0) - if iceTap occurrence then 1 else 0

namespace App

/-- Wherever the balances are looked up on the screen in front, and in the store, they are what
`book` says. -/
def Books : App → (Currency → ℤ) → Prop
  | .terminated device, book =>
      device.userDefault.bool .bool = true ∧
        ∀ currency : Currency, device.userDefault.integer currency.key = book currency
  | .mainScreen vc, book => vc.Books book
  | .shopScreen vc shop, book =>
      vc.Loaded ∧ (∀ currency, shop.balance currency = book currency) ∧
        ∀ currency : Currency, vc.userDefault.integer currency.key = book currency

theorem Books.stored {app : App} {book : Currency → ℤ} (books : app.Books book)
    (currency : Currency) : app.userDefault.integer currency.key = book currency := by
  cases app with
  | terminated device => exact books.2 currency
  | mainScreen vc => exact ViewController.Books.stored books currency
  | shopScreen vc shop => exact books.2.2 currency

/-- Only stops, taps on a power-up and selections book anything. -/
theorem booking_eq_zero {occurrence : App × Event} (noStop : winningStop occurrence = false)
    (noSelection : acceptedSelection occurrence = false) (noGreen : grantsGreen occurrence = false)
    (noIce : grantsIce occurrence = false) (noGreenTap : greenTap occurrence = false)
    (noIceTap : iceTap occurrence = false) : booking occurrence = 0 := by
  funext currency
  cases currency <;> simp [booking, *]

theorem booking_of_stop {occurrence : App × Event}
    (noSelection : acceptedSelection occurrence = false) (noGreen : grantsGreen occurrence = false)
    (noIce : grantsIce occurrence = false) (noGreenTap : greenTap occurrence = false)
    (noIceTap : iceTap occurrence = false) :
    booking occurrence = amount .acorn (if winningStop occurrence then 1 else 0) := by
  funext currency
  cases currency <;> simp [booking, amount, *]

theorem booking_buttonIceTapped (vc : ViewController) :
    booking (.mainScreen vc, .buttonIceTapped) = amount .ice (-1) := by
  funext currency
  cases currency <;> rfl

theorem booking_buttonGreenTapped (vc : ViewController) :
    booking (.mainScreen vc, .buttonGreenTapped) = amount .green (-1) := by
  funext currency
  cases currency <;> rfl

theorem booking_of_accepted {vc : ViewController} {shop : ShopController} {row : ℕ}
    (accepted : shop.acornNumber ≥ 5) :
    booking (.shopScreen vc shop, .didSelectItemAt row) =
      amount .acorn (-5) + amount (ShopController.kindOfRow row) 1 := by
  funext currency
  by_cases first : row = 0
  · cases currency <;>
      simp [booking, amount, winningStop, roundStopped, acceptedSelection, grantsGreen, grantsIce,
        greenTap, iceTap, accepted, first, ShopController.kindOfRow]
  · cases currency <;>
      simp [booking, amount, winningStop, roundStopped, acceptedSelection, grantsGreen, grantsIce,
        greenTap, iceTap, accepted, first, ShopController.kindOfRow]

theorem booking_of_refused {vc : ViewController} {shop : ShopController} {row : ℕ}
    (refused : shop.acornNumber < 5) :
    booking (.shopScreen vc shop, .didSelectItemAt row) = 0 := by
  have notAccepted : ¬5 ≤ shop.acornNumber := by omega
  apply booking_eq_zero <;>
    simp [winningStop, roundStopped, acceptedSelection, grantsGreen, grantsIce, greenTap, iceTap,
      notAccepted]

theorem Books.presentShop {vc : ViewController} {book : Currency → ℤ} (books : vc.Books book) :
    Books (.shopScreen vc vc.presentShop) book :=
  ⟨books.loaded, books.held, books.stored⟩

theorem Books.select {vc : ViewController} {shop : ShopController} {book : Currency → ℤ}
    (books : Books (.shopScreen vc shop) book) (row : ℕ) :
    Books (.shopScreen { vc with userDefault := (shop.didSelectItemAt vc.userDefault row).2 }
      (shop.didSelectItemAt vc.userDefault row).1)
      (book + booking (.shopScreen vc shop, .didSelectItemAt row)) := by
  rcases books with ⟨loaded, held, stored⟩
  by_cases accepted : shop.acornNumber ≥ 5
  · rcases ShopController.didSelectItemAt_of_accepted vc.userDefault row accepted with
      ⟨balance, written⟩
    rw [booking_of_accepted accepted]
    refine ⟨⟨loaded.inMemory, ?_⟩, ?_, ?_⟩
    · simpa [written] using loaded.stored
    · intro currency
      rw [balance, Pi.add_apply, held]
      rfl
    · exact ShopController.stored_of_accepted accepted held stored
  · have refused : shop.acornNumber < 5 := by omega
    rw [ShopController.didSelectItemAt_of_refused refused, booking_of_refused refused, add_zero]
    exact ⟨loaded, held, stored⟩

/-- One step keeps the agreement and books what its occurrence books. -/
theorem Books.step {sort : SortRoutine PowerUp} {app next : App} {event : Event}
    {book : Currency → ℤ} (books : app.Books book) (step : Step sort app event next) :
    next.Books (book + booking (app, event)) := by
  cases step with
  | launch device =>
      rcases books with ⟨flagged, stored⟩
      have same : ViewController.opening device = book := by
        funext currency
        simp [ViewController.opening, flagged, stored]
      rw [booking_eq_zero rfl rfl rfl rfl rfl rfl, add_zero, ← same]
      exact ViewController.Books.launch device
  | killMain vc =>
      rw [booking_eq_zero rfl rfl rfl rfl rfl rfl, add_zero]
      exact ⟨books.loaded.stored, ViewController.Books.stored books⟩
  | killShop vc shop =>
      rw [booking_eq_zero rfl rfl rfl rfl rfl rfl, add_zero]
      exact ⟨books.1.stored, books.2.2⟩
  | startStop vc =>
      rw [booking_of_stop rfl rfl rfl rfl rfl]
      exact ViewController.Books.startStopButtonTapped books
  | ice vc =>
      rw [booking_buttonIceTapped]
      exact ViewController.Books.buttonIceTapped books
  | green vc =>
      rw [booking_buttonGreenTapped]
      exact ViewController.Books.buttonGreenTapped books
  | openShop vc =>
      rw [booking_of_stop rfl rfl rfl rfl rfl]
      exact Books.presentShop (ViewController.Books.buttonShop books)
  | fireMain vc timer scheduled =>
      rw [booking_eq_zero rfl rfl rfl rfl rfl rfl, add_zero]
      exact ViewController.Books.fire books timer
  | fireShop vc shop timer scheduled =>
      rw [booking_eq_zero rfl rfl rfl rfl rfl rfl, add_zero]
      refine ⟨books.1.fire timer, books.2.1, ?_⟩
      rw [ViewController.fire_userDefault]
      exact books.2.2
  | appearMain vc =>
      rw [booking_eq_zero rfl rfl rfl rfl rfl rfl, add_zero]
      exact ViewController.Books.viewDidAppear books.loaded (ViewController.Books.stored books)
  | appearShop vc shop =>
      rw [booking_eq_zero rfl rfl rfl rfl rfl rfl, add_zero]
      have again := ViewController.Books.viewDidAppear books.1 books.2.2
      exact ⟨again.loaded, books.2.1, again.stored⟩
  | childAdded vc shop snapshot =>
      rw [booking_eq_zero rfl rfl rfl rfl rfl rfl, add_zero]
      refine ⟨books.1, ?_, books.2.2⟩
      intro currency
      rw [← books.2.1 currency]
      cases snapshot <;> cases currency <;> rfl
  | select vc shop row shown => exact Books.select books row
  | back vc shop =>
      rw [booking_eq_zero rfl rfl rfl rfl rfl rfl, add_zero]
      exact ViewController.Books.viewDidAppear books.1 books.2.2

section Runs

variable {sort : SortRoutine PowerUp} {device : Device} {history : History App Event} {app : App}

/-- In every state reached some account is agreed on, and it is the persisted one. -/
theorem books_of_run (run : Run (system sort) (firstLaunch device) history app) :
    app.Books fun currency => app.userDefault.integer currency.key := by
  have agreed : ∃ book, app.Books book := by
    apply run.invariant (fun app => ∃ book, app.Books book)
    · exact ⟨_, ViewController.Books.launch device⟩
    · rintro state next event ⟨book, books⟩ step
      exact ⟨_, books.step step⟩
  rcases agreed with ⟨book, books⟩
  have persisted : book = fun currency : Currency => app.userDefault.integer currency.key := by
    funext currency
    rw [books.stored]
  rwa [← persisted]

theorem loaded_of_run {vc : ViewController}
    (run : Run (system sort) (firstLaunch device) history app)
    (shown : app.viewController = some vc) : vc.Loaded := by
  have books := books_of_run run
  cases app with
  | terminated killed => cases shown
  | mainScreen _ =>
      cases shown
      exact ViewController.Books.loaded books
  | shopScreen _ shop =>
      cases shown
      exact books.1

theorem persisted_eq_booked (run : Run (system sort) (firstLaunch device) history app)
    (currency : Currency) :
    app.userDefault.integer currency.key =
      ViewController.opening device currency +
        (history.map fun occurrence => booking occurrence currency).sum := by
  have opens : (firstLaunch device).userDefault.integer currency.key =
      ViewController.opening device currency :=
    (ViewController.Books.launch device).stored currency
  rw [← opens]
  apply run.ledger (fun app => app.userDefault.integer currency.key) _
  intro history state next event run step
  exact ((books_of_run run).step step).stored currency

/-- The ledger of the three currencies: whatever is won, bought and used up is booked once, in
the store and on the screen in front, across kills and launches. -/
theorem currency_ledger (run : Run (system sort) (firstLaunch device) history app) :
    (app.userDefault.integer .acorn = ViewController.opening device .acorn +
        history.countP winningStop - 5 * history.countP acceptedSelection) ∧
      (app.userDefault.integer .green = ViewController.opening device .green +
        history.countP grantsGreen - history.countP greenTap) ∧
      (app.userDefault.integer .ice = ViewController.opening device .ice +
        history.countP grantsIce - history.countP iceTap) ∧
      (∀ vc, app = .mainScreen vc → vc.acornNumber = vc.userDefault.integer .acorn ∧
        vc.greenNumber = vc.userDefault.integer .green ∧
        vc.iceNumber = vc.userDefault.integer .ice) ∧
      (∀ vc shop, app = .shopScreen vc shop → shop.acornNumber = vc.userDefault.integer .acorn ∧
        shop.greenNumber = vc.userDefault.integer .green ∧
        shop.iceNumber = vc.userDefault.integer .ice) ∧
      ∀ killed, app = .terminated killed → ∀ currency : Currency,
        (ViewController.launch killed).userDefault.integer currency.key =
          killed.userDefault.integer currency.key := by
  have books := books_of_run run
  refine ⟨?_, ?_, ?_, ?_, ?_, ?_⟩
  · have booked := persisted_eq_booked run .acorn
    simp only [booking, sum_map_sub_ite] at booked
    simp only [Currency.key] at booked
    omega
  · have booked := persisted_eq_booked run .green
    simp only [booking, sum_map_sub_ite] at booked
    simp only [Currency.key] at booked
    omega
  · have booked := persisted_eq_booked run .ice
    simp only [booking, sum_map_sub_ite] at booked
    simp only [Currency.key] at booked
    omega
  · rintro vc rfl
    have held := ViewController.Books.held books
    exact ⟨held .acorn, held .green, held .ice⟩
  · rintro vc shop rfl
    have held := books.2.1
    exact ⟨held .acorn, held .green, held .ice⟩
  · rintro killed rfl currency
    have relaunch : Step sort (.terminated killed) .launch (firstLaunch killed) := .launch killed
    have launched := books.step relaunch
    rw [booking_eq_zero rfl rfl rfl rfl rfl rfl, add_zero] at launched
    exact launched.stored currency

end Runs

/-- One round won on a fresh installation. -/
theorem currency_ledger_roundOfOneSecond :
    ∃ (history : History App Event) (app : App),
      Run (system .insertion) (firstLaunch .fresh) history app ∧
        history.countP winningStop = 1 ∧ app.userDefault.integer .acorn = 21 := by
  have round := exists_run .insertion (firstLaunch .fresh) roundOfOneSecond
    (fun history _ => history.countP winningStop = 1 ∧ history.countP acceptedSelection = 0)
    (by decide +kernel)
  rcases round with ⟨history, app, run, tested⟩
  rcases of_decide_eq_true tested with ⟨won, bought⟩
  have opens : ViewController.opening .fresh .acorn = 20 := by decide
  have ledger := (currency_ledger run).1
  rw [won, bought, opens] at ledger
  exact ⟨history, app, run, won, ledger⟩

end App

end OneSecond
