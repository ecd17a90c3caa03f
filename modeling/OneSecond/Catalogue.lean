import OneSecond.Shopping

/-!
# The order of the catalogue

The shop sorts its list after every delivery with a comparator which reads the
tier of its first argument twice.  Between entries with a tier it therefore
never says that one comes before the other, and an entry without a tier comes
before everything, itself included.  The list is left to the sort routine: the
deliveries below are in the order of their tiers, whatever the routine, exactly
when all tiers are the same.
-/

namespace OneSecond

open Runs Sorting

namespace PowerUp

/-- The second argument is never looked at. -/
theorem areInIncreasingOrder_eq (p1 p2 : PowerUp) :
    areInIncreasingOrder p1 p2 = p1.tier.isNone := by
  cases tier : p1.tier with
  | none => simp [areInIncreasingOrder, tier]
  | some tier1 => simp [areInIncreasingOrder, tier]

theorem areInIncreasingOrder_of_tiered {p1 : PowerUp} (p2 : PowerUp)
    (tiered : p1.tier.isSome = true) : areInIncreasingOrder p1 p2 = false := by
  rw [areInIncreasingOrder_eq]
  simpa using tiered

/-- The comparator obeys the laws among some entries exactly when each of them has a tier. -/
theorem strictWeakOn_areInIncreasingOrder_iff (entries : Set PowerUp) :
    StrictWeakOn areInIncreasingOrder entries ↔ ∀ p ∈ entries, p.tier.isSome = true := by
  constructor
  · intro laws p mem
    have irreflexive := laws.irreflexive p mem
    rw [areInIncreasingOrder_eq] at irreflexive
    simpa using irreflexive
  · intro tiered
    refine ⟨?_, ?_, ?_, ?_⟩
    · intro a memA
      exact areInIncreasingOrder_of_tiered a (tiered a memA)
    · intro a _ b memB _
      exact areInIncreasingOrder_of_tiered a (tiered b memB)
    · intro a memA b _ c _ before
      rw [areInIncreasingOrder_of_tiered b (tiered a memA)] at before
      cases before
    · intro a memA b _ c memC _ _
      exact ⟨areInIncreasingOrder_of_tiered c (tiered a memA),
        areInIncreasingOrder_of_tiered a (tiered c memC)⟩

/-- An entry delivered without a tier comes before itself, so the comparator is no strict weak
ordering of the entries the server can deliver. -/
theorem not_strictWeakOn_areInIncreasingOrder :
    areInIncreasingOrder (ofDictionary fun _ => none) (ofDictionary fun _ => none) = true ∧
      ¬StrictWeakOn areInIncreasingOrder Set.univ ∧
      ¬IsStrictWeakOrder PowerUp fun p1 p2 => areInIncreasingOrder p1 p2 = true := by
  have beforeItself :
      areInIncreasingOrder (ofDictionary fun _ => none) (ofDictionary fun _ => none) = true := rfl
  have lawless : ¬StrictWeakOn areInIncreasingOrder Set.univ := by
    intro laws
    have irreflexive := laws.irreflexive (ofDictionary fun _ => none) trivial
    rw [beforeItself] at irreflexive
    cases irreflexive
  exact ⟨beforeItself, lawless, fun ordering => lawless (strictWeakOn_univ_iff.mpr ordering)⟩

/-- `p1` may stand before `p2` in a list ordered by tier. -/
def TierLE (p1 p2 : PowerUp) : Prop :=
  ∀ tier1 ∈ p1.tier, ∀ tier2 ∈ p2.tier, tier1 ≤ tier2

/-- A dictionary the server may deliver for the entry. -/
def dictionary (powerUp : PowerUp) : Dictionary := fun key =>
  if key = "cost" then powerUp.cost.map .int
  else if key = "imageUrl" then powerUp.imageUrl.map .string
  else if key = "name" then powerUp.title.map .string
  else if key = "maximumLevels" then powerUp.maximumLevels.map .int
  else if key = "backgroundEffectImageUrl" then powerUp.backgroundEffectImageUrl.map .string
  else if key = "description_it" then powerUp.text.map .string
  else if key = "tier" then powerUp.tier.map .int
  else none

theorem map_int_bind_asInt (value : Option ℤ) :
    (value.map AnyValue.int).bind AnyValue.asInt = value := by
  cases value <;> rfl

theorem map_string_bind_asString (value : Option String) :
    (value.map AnyValue.string).bind AnyValue.asString = value := by
  cases value <;> rfl

theorem ofDictionary_dictionary (powerUp : PowerUp) :
    ofDictionary powerUp.dictionary = powerUp := by
  cases powerUp with
  | mk cost imageUrl title maximumLevels backgroundEffectImageUrl text tier =>
      rw [ofDictionary, mk.injEq]
      exact ⟨map_int_bind_asInt cost, map_string_bind_asString imageUrl,
        map_string_bind_asString title, map_int_bind_asInt maximumLevels,
        map_string_bind_asString backgroundEffectImageUrl, map_string_bind_asString text,
        map_int_bind_asInt tier⟩

end PowerUp

namespace ShopController

/-- The list after the deliveries of some entries, one after the other, into an empty shop. -/
def listed (sort : SortRoutine PowerUp) (entries : List PowerUp) : List PowerUp :=
  entries.foldl
    (fun powerUps entry => sort.sorted PowerUp.areInIncreasingOrder (powerUps ++ [entry])) []

variable {sort : SortRoutine PowerUp} {entries : List PowerUp} {entry : PowerUp}

theorem listed_concat :
    listed sort (entries ++ [entry]) =
      sort.sorted PowerUp.areInIncreasingOrder (listed sort entries ++ [entry]) := by
  simp [listed]

theorem listed_perm (sort : SortRoutine PowerUp) (entries : List PowerUp) :
    (listed sort entries).Perm entries := by
  induction entries using List.reverseRecOn with
  | nil => rfl
  | append_singleton entries entry ih =>
      rw [listed_concat]
      exact (sort.sorted_perm _ _).trans (ih.append_right [entry])

theorem never_before_of_tiered (tiered : ∀ p ∈ entries ++ [entry], p.tier.isSome = true) :
    ∀ a ∈ listed sort entries ++ [entry], ∀ b ∈ listed sort entries ++ [entry],
      PowerUp.areInIncreasingOrder a b = false := by
  intro a memA b _
  apply PowerUp.areInIncreasingOrder_of_tiered
  exact tiered a (((listed_perm sort entries).append_right [entry]).mem_iff.mp memA)

/-- Insertion sort keeps entries with tiers in the order in which they arrive. -/
theorem listed_insertion (tiered : ∀ p ∈ entries, p.tier.isSome = true) :
    listed .insertion entries = entries := by
  induction entries using List.reverseRecOn with
  | nil => rfl
  | append_singleton entries entry ih =>
      have earlier : listed .insertion entries = entries := by
        apply ih
        intro p mem
        exact tiered p (List.mem_append_left _ mem)
      rw [listed_concat, SortRoutine.insertion_of_never_before (never_before_of_tiered tiered),
        earlier]

theorem listed_insertionFromEnd (tiered : ∀ p ∈ entries ++ [entry], p.tier.isSome = true) :
    listed .insertionFromEnd (entries ++ [entry]) =
      entry :: (listed .insertionFromEnd entries).reverse := by
  rw [listed_concat, SortRoutine.insertionFromEnd_of_never_before (never_before_of_tiered tiered),
    List.reverse_append]
  rfl

/-- Whatever the routine, the list is ordered by tier only if all tiers are the same. -/
theorem tiers_eq_of_listed_ordered (tiered : ∀ p ∈ entries, p.tier.isSome = true)
    (ordered : ∀ sort, (listed sort entries).Pairwise PowerUp.TierLE) :
    ∀ p ∈ entries, ∀ q ∈ entries, p.tier = q.tier := by
  induction entries using List.reverseRecOn with
  | nil => simp
  | append_singleton entries last _ =>
      -- In order of arrival every tier is at most the last one; from the end it is at least that.
      have arrival := ordered .insertion
      rw [listed_insertion tiered] at arrival
      have fromEnd := ordered .insertionFromEnd
      rw [listed_insertionFromEnd tiered] at fromEnd
      have sameAsLast : ∀ p ∈ entries ++ [last], p.tier = last.tier := by
        intro p mem
        rcases List.mem_append.mp mem with earlier | isLast
        · rcases Option.isSome_iff_exists.mp (tiered p mem) with ⟨tier, hasTier⟩
          rcases Option.isSome_iff_exists.mp (tiered last (by simp)) with ⟨lastTier, hasLastTier⟩
          have atMost : tier ≤ lastTier :=
            (List.pairwise_append.mp arrival).2.2 p earlier last (List.mem_singleton_self last)
              tier hasTier lastTier hasLastTier
          have listedEarlier : p ∈ (listed .insertionFromEnd entries).reverse :=
            List.mem_reverse.mpr ((listed_perm _ entries).mem_iff.mpr earlier)
          have atLeast : lastTier ≤ tier :=
            (List.pairwise_cons.mp fromEnd).1 p listedEarlier lastTier hasLastTier tier hasTier
          rw [hasTier, hasLastTier, le_antisymm atMost atLeast]
        · rw [List.mem_singleton.mp isLast]
      intro p memP q memQ
      rw [sameAsLast p memP, sameAsLast q memQ]

end ShopController

namespace App

/-- The entry which arrives, if the occurrence is a delivery to the shop in front. -/
def arrival : App × Event → Option PowerUp
  | (.shopScreen _ _, .childAdded snapshot) => APIService.observePowerUps snapshot
  | _ => none

/-- A tap on the shop button, which puts a new shop in front. -/
def opensShop : App × Event → Bool
  | (.mainScreen _, .buttonShop) => true
  | _ => false

/-- The entries delivered to the shop in front, in the order of their arrival. -/
def arrivals (history : History App Event) : List PowerUp :=
  ((since opensShop history).filterMap arrival).reverse

/-- After each of the deliveries the shop lists what has arrived, ordered by tier; and entries
with different tiers make one list, in whatever order they arrive. -/
structure ShopOrdered (entries : List PowerUp) : Prop where
  ordered : ∀ sort device history vc shop,
    Run (uikit sort) (firstLaunch device) history (.shopScreen vc shop) →
    arrivals history <+: entries →
    shop.powerUps.Perm (arrivals history) ∧ shop.powerUps.Pairwise PowerUp.TierLE
  determined : entries.Pairwise (fun p q => p.tier ≠ q.tier) →
    ∀ sort device history vc shop otherDevice otherHistory otherVc otherShop,
    Run (uikit sort) (firstLaunch device) history (.shopScreen vc shop) →
    Run (uikit sort) (firstLaunch otherDevice) otherHistory (.shopScreen otherVc otherShop) →
    arrivals history = entries → (arrivals otherHistory).Perm entries →
    shop.powerUps = otherShop.powerUps

section Runs

variable {sort : SortRoutine PowerUp} {device : Device} {app next : App} {event : Event}
  {history : History App Event} {vc : ViewController} {shop : ShopController}

/-- A step which leaves a shop in front opened it, delivered an entry to it, or left its list
alone. -/
theorem Step.powerUps (step : Step sort app event (.shopScreen vc shop)) :
    (opensShop (app, event) = true ∧ shop.powerUps = []) ∨
      opensShop (app, event) = false ∧ ∃ oldVc old, app = .shopScreen oldVc old ∧
        ((arrival (app, event) = none ∧ shop.powerUps = old.powerUps) ∨
          ∃ entry, arrival (app, event) = some entry ∧
            shop.powerUps =
              sort.sorted PowerUp.areInIncreasingOrder (old.powerUps ++ [entry])) := by
  cases step with
  | openShop vc => exact Or.inl ⟨rfl, rfl⟩
  | fireShop vc shop timer scheduled =>
      exact Or.inr ⟨rfl, vc, shop, rfl, Or.inl ⟨rfl, rfl⟩⟩
  | appearShop vc shop => exact Or.inr ⟨rfl, vc, shop, rfl, Or.inl ⟨rfl, rfl⟩⟩
  | childAdded vc shop snapshot =>
      right
      refine ⟨rfl, vc, shop, rfl, ?_⟩
      cases snapshot with
      | dictionary dictionary => exact Or.inr ⟨_, rfl, rfl⟩
      | other => exact Or.inl ⟨rfl, rfl⟩
  | select vc old row shown =>
      right
      refine ⟨rfl, vc, old, rfl, Or.inl ⟨rfl, ?_⟩⟩
      simp only [ShopController.didSelectItemAt]
      split
      · split <;> rfl
      · rfl

theorem arrivals_of_opensShop {occurrence : App × Event} (opens : opensShop occurrence = true) :
    arrivals (occurrence :: history) = [] := by
  simp [arrivals, since_cons_of_reset opens]

theorem arrivals_cons {occurrence : App × Event} (notOpening : opensShop occurrence = false) :
    arrivals (occurrence :: history) = arrivals history ++ (arrival occurrence).toList := by
  rw [arrivals, since_cons_of_not_reset notOpening]
  cases arrived : arrival occurrence with
  | none => simp [arrivals, arrived]
  | some entry => simp [arrivals, arrived]

/-- The list of the shop in front is what its deliveries make of the empty list. -/
theorem powerUps_of_run
    (run : Run (system sort) (firstLaunch device) history (.shopScreen vc shop)) :
    shop.powerUps = ShopController.listed sort (arrivals history) := by
  suffices everywhere : ∀ {app}, Run (system sort) (firstLaunch device) history app →
      ∀ vc shop, app = .shopScreen vc shop →
        shop.powerUps = ShopController.listed sort (arrivals history) from
    everywhere run vc shop rfl
  intro app run
  apply run.historyInvariant
    (motive := fun history app => ∀ vc shop, app = .shopScreen vc shop →
      shop.powerUps = ShopController.listed sort (arrivals history))
  · intro vc shop front
    cases front
  intro history app next event run listed step vc shop front
  subst front
  rcases step.powerUps with ⟨opens, empty⟩ | ⟨notOpening, oldVc, old, rfl, change⟩
  · rw [empty, arrivals_of_opensShop opens]
    rfl
  rw [arrivals_cons notOpening]
  have earlier := listed oldVc old rfl
  rcases change with ⟨nothing, same⟩ | ⟨entry, arrived, sorted⟩
  · rw [same, earlier, nothing, Option.toList_none, List.append_nil]
  · rw [sorted, earlier, arrived, Option.toList_some, ShopController.listed_concat]

theorem exists_arrivals (sort : SortRoutine PowerUp) (device : Device) (entries : List PowerUp) :
    ∃ history vc shop, Run (uikit sort) (firstLaunch device) history (.shopScreen vc shop) ∧
      arrivals history = entries := by
  induction entries using List.reverseRecOn with
  | nil =>
      have opened : (uikit sort).Step (firstLaunch device) .buttonShop _ :=
        ⟨trivial, .openShop (ViewController.launch device)⟩
      exact ⟨_, _, _, Run.nil.snoc opened, rfl⟩
  | append_singleton entries entry ih =>
      rcases ih with ⟨history, vc, shop, run, arrived⟩
      refine ⟨_, _, _, run.snoc ⟨trivial, .childAdded vc shop (.dictionary entry.dictionary)⟩, ?_⟩
      rw [arrivals_cons rfl, arrived, arrival, APIService.observePowerUps,
        PowerUp.ofDictionary_dictionary]
      rfl

/-- Entries with a tier are listed in order, whatever the routine and the order of arrival,
exactly when they all have the same tier. -/
theorem shopOrdered_iff (entries : List PowerUp)
    (tiered : ∀ p ∈ entries, p.tier.isSome = true) :
    ShopOrdered entries ↔ ∀ p ∈ entries, ∀ q ∈ entries, p.tier = q.tier := by
  constructor
  · intro shopOrdered
    apply ShopController.tiers_eq_of_listed_ordered tiered
    intro sort
    rcases exists_arrivals sort .fresh entries with ⟨history, vc, shop, run, arrived⟩
    have ordered := (shopOrdered.ordered sort _ _ _ _ run (by rw [arrived])).2
    rw [powerUps_of_run run.of_restrict, arrived] at ordered
    exact ordered
  · intro same
    refine ⟨?_, ?_⟩
    · intro sort device history vc shop run soFar
      rw [powerUps_of_run run.of_restrict]
      have perm := ShopController.listed_perm sort (arrivals history)
      refine ⟨perm, ?_⟩
      apply List.pairwise_of_forall_mem_list
      intro p memP q memQ tier1 isTier1 tier2 isTier2
      have sameTier := same p (soFar.subset (perm.mem_iff.mp memP)) q
        (soFar.subset (perm.mem_iff.mp memQ))
      rw [isTier1, isTier2] at sameTier
      exact (Option.some.inj sameTier).le
    · intro distinct sort device history vc shop otherDevice otherHistory otherVc otherShop run
        otherRun arrived otherArrived
      have alike : arrivals otherHistory = entries := by
        -- Entries of one tier whose tiers differ pairwise are at most one.
        cases entries with
        | nil => exact otherArrived.eq_nil
        | cons entry others =>
            cases others with
            | nil => exact List.perm_singleton.mp otherArrived
            | cons other rest =>
                have different := (List.pairwise_cons.mp distinct).1 other (by simp)
                exact absurd (same entry (by simp) other (by simp)) different
      rw [powerUps_of_run run.of_restrict, powerUps_of_run otherRun.of_restrict, arrived, alike]

theorem shopOrdered_sameTier :
    ShopOrdered [.ofDictionary (catalogueEntry "Shield" 5 3),
      .ofDictionary (catalogueEntry "Ice Freeze" 10 3)] :=
  (shopOrdered_iff _ (by decide)).mpr (by decide)

/-- An entry of tier 2 which arrives before one of tier 1 stays in front of it. -/
theorem not_shopOrdered_twoOne :
    (∃ history vc shop,
      Run (uikit .insertion) (firstLaunch .fresh) history (.shopScreen vc shop) ∧
        arrivals history = [.ofDictionary (catalogueEntry "Shield" 5 2),
          .ofDictionary (catalogueEntry "Ice Freeze" 5 1)] ∧
        shop.powerUps.map PowerUp.tier = [some 2, some 1]) ∧
      ¬ShopOrdered [.ofDictionary (catalogueEntry "Shield" 5 2),
        .ofDictionary (catalogueEntry "Ice Freeze" 5 1)] := by
  rcases exists_arrivals .insertion .fresh [.ofDictionary (catalogueEntry "Shield" 5 2),
    .ofDictionary (catalogueEntry "Ice Freeze" 5 1)] with ⟨history, vc, shop, run, arrived⟩
  have kept := powerUps_of_run run.of_restrict
  rw [arrived, ShopController.listed_insertion (by decide)] at kept
  refine ⟨⟨history, vc, shop, run, arrived, by rw [kept]; rfl⟩, ?_⟩
  intro shopOrdered
  have ordered := (shopOrdered.ordered _ _ _ _ _ run (by rw [arrived])).2
  rw [kept] at ordered
  have twoLEOne := (List.pairwise_cons.mp ordered).1 _ (List.mem_singleton_self _) 2 rfl 1 rfl
  omega

end Runs

end App

end OneSecond
