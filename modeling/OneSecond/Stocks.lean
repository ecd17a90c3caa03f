import OneSecond.Rounds

/-!
# Stocks

No handler checks a stock before it takes a unit off it: that the stocks stay
above zero rests on the buttons.  A tap on Ice or Green is delivered only in a
round whose Start saw the stock above zero, and takes the button away; a
selection checks the acorns itself.  Whatever an occurrence books can therefore
be paid, and the copies of the balances, stale or not, are never below zero.
-/

namespace OneSecond

open Runs Sorting

theorem ViewController.starter_nonneg {balance grant : ℤ} (nonneg : 0 ≤ balance)
    (granted : 0 ≤ grant) : 0 ≤ starter balance grant := by
  unfold starter
  split
  · exact granted
  · exact nonneg

namespace App

variable {sort : SortRoutine PowerUp} {device : Device} {history : History App Event} {app : App}

theorem opening_nonneg
    (stocked : ∀ currency : Currency, 0 ≤ device.userDefault.integer currency.key)
    (currency : Currency) : 0 ≤ ViewController.opening device currency := by
  unfold ViewController.opening
  split
  · exact stocked currency
  · apply ViewController.starter_nonneg (stocked currency)
    cases currency with
    | acorn => decide
    | green => decide
    | ice => decide

/-- Only taps on a power-up and accepted selections take anything off a balance. -/
theorem booking_nonneg {occurrence : App × Event}
    (noSelection : acceptedSelection occurrence = false)
    (noGreenTap : greenTap occurrence = false) (noIceTap : iceTap occurrence = false)
    (currency : Currency) : 0 ≤ booking occurrence currency := by
  cases currency with
  | acorn =>
      simp only [booking, noSelection]
      split <;> decide
  | green =>
      simp only [booking, noGreenTap]
      split <;> decide
  | ice =>
      simp only [booking, noIceTap]
      split <;> decide

/-- Whatever an occurrence books of a currency can be paid from its balance. -/
theorem booking_covered (run : Run (uikit sort) (firstLaunch device) history app)
    {next : App} {event : Event} (step : (uikit sort).Step app event next)
    (stocked : ∀ currency : Currency, 0 ≤ app.userDefault.integer currency.key)
    (currency : Currency) :
    0 ≤ app.userDefault.integer currency.key + booking (app, event) currency := by
  have books := books_of_run run.of_restrict
  have stock := stocked currency
  rcases step with ⟨delivered, step⟩
  cases step with
  | ice vc =>
      have tappable := (ViewController.iceTappable_iff ((shows_after run).2 vc rfl)).mp delivered
      have held : vc.iceNumber = vc.userDefault.integer .ice := ViewController.Books.held books .ice
      rw [booking_buttonIceTapped]
      cases currency with
      | ice =>
          simp only [userDefault, Currency.key, amount] at stock ⊢
          omega
      | acorn => simpa [amount] using stock
      | green => simpa [amount] using stock
  | green vc =>
      have left :=
        (ViewController.isRunning_of_greenTappable ((shows_after run).2 vc rfl) delivered).2
      have held : vc.greenNumber = vc.userDefault.integer .green :=
        ViewController.Books.held books .green
      rw [booking_buttonGreenTapped]
      cases currency with
      | green =>
          simp only [userDefault, Currency.key, amount] at stock ⊢
          omega
      | acorn => simpa [amount] using stock
      | ice => simpa [amount] using stock
  | select vc shop row shown =>
      have held : shop.acornNumber = vc.userDefault.integer .acorn := books.2.1 .acorn
      by_cases accepted : shop.acornNumber ≥ 5
      · rw [booking_of_accepted accepted]
        simp only [userDefault, Pi.add_apply, amount] at stock ⊢
        cases currency with
        | acorn =>
            simp only [Currency.key] at stock ⊢
            have notBought : Currency.acorn ≠ ShopController.kindOfRow row :=
              (ShopController.kindOfRow_ne_acorn row).symm
            simp only [notBought, if_true, if_false]
            omega
        | green =>
            simp only [reduceCtorEq, if_false]
            split
            · omega
            · omega
        | ice =>
            simp only [reduceCtorEq, if_false]
            split
            · omega
            · omega
      · rw [booking_of_refused (not_le.mp accepted)]
        simpa using stock
  | _ => exact Int.add_nonneg stock (booking_nonneg rfl rfl rfl currency)

theorem persisted_nonneg (run : Run (uikit sort) (firstLaunch device) history app)
    (stocked : ∀ currency : Currency, 0 ≤ device.userDefault.integer currency.key) :
    ∀ currency : Currency, 0 ≤ app.userDefault.integer currency.key := by
  apply run.historyInvariant
    (motive := fun _ app => ∀ currency : Currency, 0 ≤ app.userDefault.integer currency.key)
  · intro currency
    have opens : (firstLaunch device).userDefault.integer currency.key =
        ViewController.opening device currency :=
      (ViewController.Books.launch device).stored currency
    rw [opens]
    exact opening_nonneg stocked currency
  · intro history state next event run nonneg step currency
    have booked := ((books_of_run run.of_restrict).step step.2).stored currency
    rw [booked]
    exact booking_covered run step nonneg currency

/-- The main screen's own copies stay above zero, also while they are stale under the shop. -/
theorem held_nonneg (run : Run (uikit sort) (firstLaunch device) history app)
    (stocked : ∀ currency : Currency, 0 ≤ device.userDefault.integer currency.key) :
    ∀ vc, app.viewController = some vc → ∀ currency, 0 ≤ vc.balance currency := by
  apply run.historyInvariant
    (motive := fun _ app => ∀ vc, app.viewController = some vc →
      ∀ currency, 0 ≤ vc.balance currency)
  · intro vc shown currency
    cases shown
    rw [(ViewController.Books.launch device).held]
    exact opening_nonneg stocked currency
  intro history state next event run nonneg step vc shown currency
  have books := books_of_run (run.snoc step).of_restrict
  have persisted := persisted_nonneg (run.snoc step) stocked currency
  cases next with
  | terminated killed => cases shown
  | mainScreen _ =>
      cases shown
      rw [ViewController.Books.held books]
      exact persisted
  | shopScreen _ shop =>
      cases shown
      -- only the opening of the shop and a new appearance under it write the fields
      cases step.2 with
      | openShop before =>
          have copied : before.buttonShop.presentShop.balance currency =
              before.buttonShop.balance currency := by
            cases currency <;> rfl
          rw [← copied, books.2.1]
          exact persisted
      | fireShop before _ timer scheduled =>
          rcases before.fire_writes timer with ⟨_, _, _, _, _, _, written⟩
          rw [written]
          exact nonneg before rfl currency
      | appearShop before _ =>
          have earlier := books_of_run run.of_restrict
          have again := ViewController.Books.viewDidAppear earlier.1 earlier.2.2
          rw [again.held]
          exact persisted_nonneg run stocked currency
      | childAdded before shop snapshot => exact nonneg _ rfl currency
      | select before shop row shownRow => exact nonneg before rfl currency

/-- Stocks never go negative, in memory, in the shop or in the store, and a round uses each
power-up at most once. -/
theorem stocks_nonneg (run : Run (uikit sort) (firstLaunch device) history app)
    (stocked : ∀ currency : Currency, 0 ≤ device.userDefault.integer currency.key) :
    (∀ currency : Currency, 0 ≤ app.userDefault.integer currency.key) ∧
      (∀ vc, app.viewController = some vc → ∀ currency, 0 ≤ vc.balance currency) ∧
      (∀ vc shop, app = .shopScreen vc shop → ∀ currency, 0 ≤ shop.balance currency) ∧
      (since startsRound history).countP iceTap ≤ 1 ∧
      (since startsRound history).countP greenTap ≤ 1 := by
  refine ⟨persisted_nonneg run stocked, held_nonneg run stocked, ?_, iceTap_once run,
    (greenTap_once run).1⟩
  rintro vc shop rfl currency
  have books := books_of_run run.of_restrict
  rw [books.2.1]
  exact persisted_nonneg run stocked currency

/-- A round of a fresh installation in which both power-ups are used. -/
theorem stocks_nonneg_bothTapped :
    ∃ (history : History App Event) (app : App),
      Run (uikit .insertion) (firstLaunch .fresh) history app ∧ history.countP iceTap = 1 ∧
        history.countP greenTap = 1 ∧
        ∀ currency : Currency, 0 ≤ app.userDefault.integer currency.key := by
  have script := exists_uikit_run .insertion (firstLaunch .fresh)
    [.startStopButtonTapped, .buttonIceTapped, .buttonGreenTapped, .startStopButtonTapped]
    (fun history _ => history.countP iceTap = 1 ∧ history.countP greenTap = 1)
    (by decide +kernel)
  rcases script with ⟨history, app, run, tested⟩
  rcases of_decide_eq_true tested with ⟨ice, green⟩
  have stocked : ∀ currency : Currency, 0 ≤ Device.fresh.userDefault.integer currency.key := by
    intro currency
    cases currency <;> decide
  exact ⟨history, app, run, ice, green, (stocks_nonneg run stocked).1⟩

end App

end OneSecond
