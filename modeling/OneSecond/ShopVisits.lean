import OneSecond.Shopping
import OneSecond.Stocks

/-!
# Visits to the shop, and what everything is worth

While the shop stays in front only selections move the balances: the first ones
are bought, as many as can be paid at 5 acorns each, and all later ones are
refused (`shop_visit`).  As a power-up costs 5 acorns and is worth nothing but
its use, acorns and power-ups together only grow by rounds won and shrink by
power-ups used (`wealth_ledger`).
-/

namespace OneSecond

open Runs Sorting

/-- What buying at some rows, one after the other, changes. -/
def spent (rows : List ℕ) : Currency → ℤ
  | .acorn => -5 * rows.length
  | .green => rows.countP (· = 0)
  | .ice => rows.countP (· ≠ 0)

@[simp]
theorem spent_nil : spent [] = 0 := by
  funext currency
  cases currency <;> simp [spent]

theorem spent_concat (rows : List ℕ) (row : ℕ) :
    spent (rows ++ [row]) =
      spent rows + (amount .acorn (-5) + amount (ShopController.kindOfRow row) 1) := by
  funext currency
  by_cases first : row = 0
  · cases currency with
    | acorn =>
        simp [spent, amount, first, ShopController.kindOfRow]
        omega
    | green => simp [spent, amount, first, ShopController.kindOfRow]
    | ice => simp [spent, amount, first, ShopController.kindOfRow]
  · cases currency with
    | acorn =>
        simp [spent, amount, first, ShopController.kindOfRow]
        omega
    | green => simp [spent, amount, first, ShopController.kindOfRow]
    | ice => simp [spent, amount, first, ShopController.kindOfRow]

/-- How many selections some acorns pay. -/
def affordable (acorns : ℤ) : ℕ := (acorns / 5).toNat

/-- The selections which were bought are the first ones; the next is bought if there are acorns
for it. -/
theorem take_affordable_concat (acorns : ℤ) (rows : List ℕ) (row : ℕ) :
    (rows ++ [row]).take (affordable acorns) =
      rows.take (affordable acorns) ++
        if acorns - 5 * (rows.take (affordable acorns)).length ≥ 5 then [row] else [] := by
  rw [List.take_append, List.length_take]
  congr 1
  unfold affordable
  by_cases left : rows.length < (acorns / 5).toNat
  · rw [if_pos (by omega), List.take_of_length_le (by simp; omega)]
  · rw [if_neg (by omega), Nat.sub_eq_zero_of_le (by omega), List.take_zero]

namespace App

/-- The row an occurrence selects in the shop. -/
def selectedRow : App × Event → Option ℕ
  | (.shopScreen _ _, .didSelectItemAt row) => some row
  | _ => none

/-- The rows which were selected, in the order of the taps. -/
def selectedRows (visit : History App Event) : List ℕ :=
  (visit.filterMap selectedRow).reverse

theorem selectedRows_cons_of_none {occurrence : App × Event} {visit : History App Event}
    (other : selectedRow occurrence = none) :
    selectedRows (occurrence :: visit) = selectedRows visit := by
  simp [selectedRows, other]

theorem selectedRows_cons_of_some {occurrence : App × Event} {visit : History App Event} {row : ℕ}
    (selected : selectedRow occurrence = some row) :
    selectedRows (occurrence :: visit) = selectedRows visit ++ [row] := by
  simp [selectedRows, selected]

/-- All occurrences of a visit have the shop in front. -/
def InShop (visit : History App Event) : Prop :=
  ∀ occurrence ∈ visit, occurrence.1.shop.isSome = true

section Runs

variable {sort : SortRoutine PowerUp} {device : Device} {history visit : History App Event}
  {app next : App} {event : Event} {vc : ViewController} {shop : ShopController}
  {book : Currency → ℤ}

/-- In the shop only selections book anything. -/
theorem booking_of_unselected (step : Step sort app event next)
    (inShop : app.shop.isSome = true) (unselected : selectedRow (app, event) = none) :
    booking (app, event) = 0 ∧ acceptedSelection (app, event) = false := by
  cases step with
  | select vc shop row shown => cases unselected
  | killShop vc shop => exact ⟨booking_eq_zero rfl rfl rfl rfl rfl rfl, rfl⟩
  | fireShop vc shop timer scheduled => exact ⟨booking_eq_zero rfl rfl rfl rfl rfl rfl, rfl⟩
  | appearShop vc shop => exact ⟨booking_eq_zero rfl rfl rfl rfl rfl rfl, rfl⟩
  | childAdded vc shop snapshot => exact ⟨booking_eq_zero rfl rfl rfl rfl rfl rfl, rfl⟩
  | back vc shop => exact ⟨booking_eq_zero rfl rfl rfl rfl rfl rfl, rfl⟩
  | _ => cases inShop

theorem books_of_visit (books : App.Books (.shopScreen vc shop) book)
    (run : Run (system sort) (.shopScreen vc shop) visit app) (inShop : InShop visit) :
    app.Books (book + spent ((selectedRows visit).take (affordable (book .acorn)))) ∧
      visit.countP acceptedSelection =
        ((selectedRows visit).take (affordable (book .acorn))).length := by
  induction run with
  | nil => simpa [selectedRows] using books
  | @snoc visit app next event run step ih =>
      rcases ih fun occurrence occurred => inShop occurrence (List.mem_cons_of_mem _ occurred) with
        ⟨kept, counted⟩
      have stepped := kept.step step
      have here := inShop _ List.mem_cons_self
      cases selected : selectedRow (app, event) with
      | none =>
          rcases booking_of_unselected step here selected with ⟨nothing, notAccepted⟩
          rw [nothing, add_zero] at stepped
          rw [selectedRows_cons_of_none selected,
            List.countP_cons_of_neg (by simp [notAccepted])]
          exact ⟨stepped, counted⟩
      | some row =>
          cases step with
          | select vc shop other shown =>
              have same : other = row := Option.some.inj selected
              subst same
              have held : shop.acornNumber = book .acorn -
                  5 * ((selectedRows visit).take (affordable (book .acorn))).length := by
                have acorns := kept.2.1 .acorn
                simp only [ShopController.balance, Pi.add_apply, spent] at acorns
                omega
              rw [selectedRows_cons_of_some selected, take_affordable_concat, ← held]
              by_cases accepted : shop.acornNumber ≥ 5
              · rw [booking_of_accepted accepted, add_assoc, ← spent_concat] at stepped
                rw [if_pos accepted, List.countP_cons_of_pos (by simpa [acceptedSelection]),
                  List.length_append, counted]
                exact ⟨stepped, rfl⟩
              · rw [booking_of_refused (not_le.mp accepted), add_zero] at stepped
                rw [if_neg accepted, List.append_nil,
                  List.countP_cons_of_neg (by simpa [acceptedSelection] using accepted)]
                exact ⟨stepped, counted⟩
          | _ => cases selected

/-- A visit to the shop, from any state reached: of all the rows selected the first ones are
bought, as many as the acorns pay, whatever else happens in between; the store and the shop's own
copies say so, also when the visit has ended. -/
theorem shop_visit (run : Run (system sort) (firstLaunch device) history (.shopScreen vc shop))
    (stay : Run (system sort) (.shopScreen vc shop) visit app) (inShop : InShop visit) :
    let bought := (selectedRows visit).take (shop.acornNumber / 5).toNat
    visit.countP acceptedSelection = bought.length ∧
      app.userDefault.integer .acorn = shop.acornNumber - 5 * bought.length ∧
      app.userDefault.integer .green = shop.greenNumber + bought.countP (· = 0) ∧
      app.userDefault.integer .ice = shop.iceNumber + bought.countP (· ≠ 0) ∧
      ∀ after, app.shop = some after → ∀ currency : Currency,
        after.balance currency = app.userDefault.integer currency.key := by
  intro bought
  have opened := books_of_run run
  have held : ∀ currency, shop.balance currency = vc.userDefault.integer currency.key := opened.2.1
  have acorns : shop.acornNumber = vc.userDefault.integer Currency.acorn.key := held .acorn
  have isBought : (selectedRows visit).take
      (affordable (vc.userDefault.integer Currency.acorn.key)) = bought := by
    rw [← acorns]
    rfl
  rcases books_of_visit opened stay inShop with ⟨books, counted⟩
  change app.Books ((fun currency : Currency => vc.userDefault.integer currency.key) + spent
    ((selectedRows visit).take (affordable (vc.userDefault.integer Currency.acorn.key)))) at books
  change visit.countP acceptedSelection = ((selectedRows visit).take
    (affordable (vc.userDefault.integer Currency.acorn.key))).length at counted
  rw [isBought] at books counted
  have stored : ∀ currency : Currency, app.userDefault.integer currency.key =
      shop.balance currency + spent bought currency := by
    intro currency
    rw [books.stored, Pi.add_apply, held]
  refine ⟨counted, ?_, ?_, ?_, ?_⟩
  · have acorn := stored .acorn
    simp only [Currency.key, ShopController.balance, spent] at acorn
    omega
  · exact stored .green
  · exact stored .ice
  · intro after shown currency
    cases app with
    | terminated killed => cases shown
    | mainScreen _ => cases shown
    | shopScreen _ _ =>
        cases shown
        rw [books.2.1, books.stored]

/-- What a purse is worth in acorns. -/
def worth (purse : Currency → ℤ) : ℤ := purse .acorn + 5 * (purse .green + purse .ice)

theorem worth_add (purse change : Currency → ℤ) :
    worth (purse + change) = worth purse + worth change := by
  simp only [worth, Pi.add_apply]
  omega

/-- A selection is worth nothing; a win is worth an acorn, and a power-up used takes five. -/
theorem worth_booking (occurrence : App × Event) :
    worth (booking occurrence) =
      (if winningStop occurrence then 1 else 0) -
        (if greenTap occurrence || iceTap occurrence then 5 else 0) := by
  rcases occurrence with ⟨app, event⟩
  have selection : grantsGreen (app, event) = true ∧ grantsIce (app, event) = false ∧
        acceptedSelection (app, event) = true ∨
      grantsGreen (app, event) = false ∧ grantsIce (app, event) = true ∧
        acceptedSelection (app, event) = true ∨
      grantsGreen (app, event) = false ∧ grantsIce (app, event) = false ∧
        acceptedSelection (app, event) = false := by
    cases app with
    | shopScreen vc shop =>
        cases event with
        | didSelectItemAt row =>
            by_cases accepted : shop.acornNumber ≥ 5
            · by_cases first : row = 0
              · simp [grantsGreen, grantsIce, acceptedSelection, accepted, first]
              · simp [grantsGreen, grantsIce, acceptedSelection, accepted, first]
            · simp [grantsGreen, grantsIce, acceptedSelection, accepted]
        | _ => exact Or.inr (Or.inr ⟨rfl, rfl, rfl⟩)
    | _ => exact Or.inr (Or.inr ⟨rfl, rfl, rfl⟩)
  have oneTap : greenTap (app, event) = false ∨ iceTap (app, event) = false := by
    cases event with
    | buttonGreenTapped => exact Or.inr rfl
    | _ => exact Or.inl rfl
  have traded : ((if grantsGreen (app, event) then 1 else 0) +
      (if grantsIce (app, event) then 1 else 0) : ℤ) =
        if acceptedSelection (app, event) then 1 else 0 := by
    rcases selection with ⟨green, ice, paid⟩ | ⟨green, ice, paid⟩ | ⟨green, ice, paid⟩
    · simp [green, ice, paid]
    · simp [green, ice, paid]
    · simp [green, ice, paid]
  have used : ((if greenTap (app, event) then 1 else 0) +
      (if iceTap (app, event) then 1 else 0) : ℤ) =
        if greenTap (app, event) || iceTap (app, event) then 1 else 0 := by
    rcases oneTap with noGreen | noIce
    · simp [noGreen]
    · simp [noIce]
  simp only [worth, booking]
  grind

/-- Acorns and power-ups together are what they were at first, and an acorn for each round won,
less five for each power-up used; buying changes nothing.  Where only what can be tapped is tapped
and no balance was negative at first, nobody ever uses more power-ups than a fifth of what was
there and was won. -/
theorem wealth_ledger (run : Run (system sort) (firstLaunch device) history app) :
    worth (fun currency => app.userDefault.integer currency.key) =
        worth (ViewController.opening device) + history.countP winningStop -
          5 * history.countP (fun occurrence => greenTap occurrence || iceTap occurrence) ∧
      (Run (uikit sort) (firstLaunch device) history app →
        (∀ currency : Currency, 0 ≤ device.userDefault.integer currency.key) →
        5 * (history.countP (fun occurrence => greenTap occurrence || iceTap occurrence) : ℤ) ≤
          worth (ViewController.opening device) + history.countP winningStop) := by
  have opens : (fun currency : Currency => (firstLaunch device).userDefault.integer currency.key) =
      ViewController.opening device := by
    funext currency
    exact (ViewController.Books.launch device).stored currency
  have ledger : worth (fun currency => app.userDefault.integer currency.key) =
      worth (ViewController.opening device) + (history.map fun occurrence =>
        (if winningStop occurrence then 1 else 0) -
          if greenTap occurrence || iceTap occurrence then (5 : ℤ) else 0).sum := by
    rw [← opens]
    apply run.ledger (fun app => worth fun currency => app.userDefault.integer currency.key)
    intro history app next event run step
    have booked := (books_of_run run).step step
    rw [← worth_booking, ← worth_add]
    congr 1
    funext currency
    exact booked.stored currency
  rw [sum_map_sub_ite] at ledger
  constructor
  · omega
  · intro delivered stocked
    have left : 0 ≤ worth fun currency => app.userDefault.integer currency.key := by
      have stocks := persisted_nonneg delivered stocked
      have acorn := stocks .acorn
      have green := stocks .green
      have ice := stocks .ice
      simp only [worth]
      omega
    omega

end Runs

/-- The main screen under the shop, on a fresh installation. -/
def underShop : ViewController := (ViewController.launch .fresh).buttonShop

/-- The shop with one entry. -/
def oneEntry : ShopController :=
  underShop.presentShop.observePowerUps .insertion (.dictionary (catalogueEntry "Shield" 5 1))

/-- The 20 acorns of a fresh installation pay four of five selections. -/
theorem shop_visit_fiveTaps :
    ∃ (visit : History App Event) (app : App),
      Run (system .insertion) (.shopScreen underShop oneEntry) visit app ∧
        (selectedRows visit).length = 5 ∧ visit.countP acceptedSelection = 4 := by
  have front : Run (system .insertion) (firstLaunch .fresh) _
      (.shopScreen underShop underShop.presentShop) :=
    Run.nil.snoc (Step.openShop (ViewController.launch .fresh))
  have opened : Run (system .insertion) (firstLaunch .fresh) _ (.shopScreen underShop oneEntry) :=
    front.snoc (Step.childAdded underShop underShop.presentShop _)
  have script := exists_run .insertion (.shopScreen underShop oneEntry)
    [.didSelectItemAt 0, .didSelectItemAt 0,
      .childAdded (.dictionary (catalogueEntry "Ice Freeze" 10 2)), .didSelectItemAt 1,
      .viewDidAppear, .didSelectItemAt 1, .didSelectItemAt 0, .kill]
    (fun visit _ => (selectedRows visit).length = 5 ∧
      visit.all fun occurrence => occurrence.1.shop.isSome)
    (by decide +kernel)
  rcases script with ⟨visit, app, stay, tested⟩
  rcases of_decide_eq_true tested with ⟨five, inShop⟩
  have bought := (shop_visit opened stay (List.all_eq_true.mp inShop)).1
  have acorns : oneEntry.acornNumber = 20 := by decide +kernel
  refine ⟨visit, app, stay, five, ?_⟩
  rw [bought, acorns, List.length_take, five]
  rfl

/-- A round in which both power-ups are used, and no win. -/
theorem wealth_ledger_bothTapped :
    ∃ (history : History App Event) (app : App),
      Run (uikit .insertion) (firstLaunch .fresh) history app ∧ history.countP greenTap = 1 ∧
        worth (fun currency => app.userDefault.integer currency.key) = 60 ∧
        5 * (history.countP (fun occurrence => greenTap occurrence || iceTap occurrence) : ℤ) ≤
          70 := by
  have script := exists_uikit_run .insertion (firstLaunch .fresh)
    [.startStopButtonTapped, .buttonIceTapped, .buttonGreenTapped, .startStopButtonTapped]
    (fun history _ => history.countP greenTap = 1 ∧ history.countP winningStop = 0 ∧
      history.countP (fun occurrence => greenTap occurrence || iceTap occurrence) = 2)
    (by decide +kernel)
  rcases script with ⟨history, app, run, tested⟩
  rcases of_decide_eq_true tested with ⟨green, won, used⟩
  have stocked : ∀ currency : Currency, 0 ≤ Device.fresh.userDefault.integer currency.key := by
    intro currency
    cases currency with
    | acorn => decide
    | green => decide
    | ice => decide
  have opens : worth (ViewController.opening .fresh) = 70 := by decide
  have ledger := (wealth_ledger run.of_restrict).1
  have covered := (wealth_ledger run.of_restrict).2 run stocked
  rw [won, used, opens] at ledger
  rw [won, opens] at covered
  exact ⟨history, app, run, green, ledger, covered⟩

end App

end OneSecond
