import OneSecond.Platform
import OneSecond.Sorting

/-!
# The shop (`PowerUp.swift`, `APIService.swift`, `ShopController.swift`)

The catalogue lives on a server: `APIService.observePowerUps` decodes every
`childAdded` delivery into a `PowerUp`, and the shop appends it to its list and
sorts the list anew.  The collection view shows one cell for each entry, and
selecting a row buys a power-up.

The sort routine is a parameter (`Sorting.SortRoutine`), since the comparator
given to it decides how much of its contract can be used.  So is the decoding
of image URLs, `URL(string:)`.
-/

namespace OneSecond

open Sorting

/-- A value of the delivered dictionary, as far as the casts `as? Int` and `as? String` tell
values apart. -/
inductive AnyValue where
  | int (value : ℤ)
  | string (value : String)
  | other
  deriving DecidableEq, Repr

namespace AnyValue

/-- `as? Int`. -/
def asInt : AnyValue → Option ℤ
  | .int value => some value
  | _ => none

/-- `as? String`. -/
def asString : AnyValue → Option String
  | .string value => some value
  | _ => none

end AnyValue

/-- `[String: Any]`. -/
abbrev Dictionary := String → Option AnyValue

/-- `snapshot.value`: a dictionary or something else. -/
inductive SnapshotValue where
  | dictionary (dictionary : Dictionary)
  | other

structure PowerUp where
  cost : Option ℤ
  imageUrl : Option String
  title : Option String
  maximumLevels : Option ℤ
  backgroundEffectImageUrl : Option String
  text : Option String
  tier : Option ℤ
  deriving DecidableEq, Repr

namespace PowerUp

/-- `PowerUp.init(dictionary:)`. -/
def ofDictionary (dictionary : Dictionary) : PowerUp where
  cost := (dictionary "cost").bind AnyValue.asInt
  imageUrl := (dictionary "imageUrl").bind AnyValue.asString
  title := (dictionary "name").bind AnyValue.asString
  maximumLevels := (dictionary "maximumLevels").bind AnyValue.asInt
  backgroundEffectImageUrl := (dictionary "backgroundEffectImageUrl").bind AnyValue.asString
  text := (dictionary "description_it").bind AnyValue.asString
  tier := (dictionary "tier").bind AnyValue.asInt

/-- The comparator closure of `ShopController.observePowerUps`. -/
def areInIncreasingOrder (p1 _p2 : PowerUp) : Bool :=
  match p1.tier, p1.tier with
  | some tier1, some tier2 => tier1 < tier2
  | _, _ => true

end PowerUp

/-- `APIService.observePowerUps`: the entry, if any, a delivery hands to its completion. -/
def APIService.observePowerUps : SnapshotValue → Option PowerUp
  | .dictionary dictionary => some (PowerUp.ofDictionary dictionary)
  | .other => none

/-- `ShopTableViewCell`: the texts of its labels and what its image view shows. -/
structure ShopTableViewCell (URL : Type) where
  titleLabel : Option String
  labelPrize : Option String
  labelDescription : Option String
  leftImageView : Option URL
  deriving DecidableEq, Repr

structure ShopController where
  powerUps : List PowerUp
  acornNumber : ℤ
  iceNumber : ℤ
  greenNumber : ℤ
  labelAcorn : UILabel
  labelIce : UILabel
  labelGreen : UILabel

namespace ShopController

/-- The controller as it is instantiated, with the labels of `Main.storyboard`. -/
def instantiate : ShopController where
  powerUps := []
  acornNumber := 0
  iceNumber := 0
  greenNumber := 0
  labelAcorn := ⟨"0"⟩
  labelIce := ⟨"0"⟩
  labelGreen := ⟨"0"⟩

/-- The three statements which `viewDidLoad` and `didSelectItemAt` share. -/
def updateLabels (shop : ShopController) : ShopController :=
  { shop with
    labelAcorn := ⟨toString shop.acornNumber⟩
    labelGreen := ⟨toString shop.greenNumber⟩
    labelIce := ⟨toString shop.iceNumber⟩ }

/-- Besides filling the labels, `viewDidLoad` starts the observation of the catalogue. -/
def viewDidLoad (shop : ShopController) : ShopController :=
  shop.updateLabels

/-- The completion of `observePowerUps`. -/
def append (sort : SortRoutine PowerUp) (shop : ShopController) (powerUp : PowerUp) :
    ShopController :=
  let shop := { shop with powerUps := shop.powerUps ++ [powerUp] }
  { shop with powerUps := sort.sorted PowerUp.areInIncreasingOrder shop.powerUps }

/-- A `childAdded` delivery arrives. -/
def observePowerUps (sort : SortRoutine PowerUp) (shop : ShopController)
    (snapshot : SnapshotValue) : ShopController :=
  match APIService.observePowerUps snapshot with
  | some powerUp => shop.append sort powerUp
  | none => shop

/-- `collectionView(_:numberOfItemsInSection:)`. -/
def numberOfItemsInSection (shop : ShopController) : ℕ :=
  shop.powerUps.length

/-- `collectionView(_:cellForItemAt:)` on a dequeued cell, which a former call may have
configured.  `powerUps[indexPath.row]` traps outside the list. -/
def cellForItemAt {URL : Type} (url : String → Option URL) (shop : ShopController)
    (cell : ShopTableViewCell URL) (row : ℕ) : Option (ShopTableViewCell URL) :=
  match shop.powerUps[row]? with
  | none => none
  | some powerUp =>
    let cell := { cell with titleLabel := powerUp.title }
    let cell : ShopTableViewCell URL :=
      match powerUp.cost with
      | some cost => { cell with labelPrize := some (toString cost) }
      | none => cell
    let cell : ShopTableViewCell URL :=
      match powerUp.text with
      | some text => { cell with labelDescription := some text }
      | none => cell
    match powerUp.imageUrl with
    | some imageUrl => some { cell with leftImageView := url imageUrl }
    | none => some { cell with leftImageView := none }

/-- `collectionView(_:didSelectItemAt:)`. -/
def didSelectItemAt (shop : ShopController) (userDefault : UserDefaults) (row : ℕ) :
    ShopController × UserDefaults :=
  if shop.acornNumber ≥ 5 then
    let shop := { shop with acornNumber := shop.acornNumber - 5 }
    let userDefault := userDefault.set shop.acornNumber .acorn
    if row = 0 then
      let shop := { shop with greenNumber := shop.greenNumber + 1 }
      let userDefault := userDefault.set shop.greenNumber .green
      (shop.updateLabels, userDefault)
    else
      let shop := { shop with iceNumber := shop.iceNumber + 1 }
      let userDefault := userDefault.set shop.iceNumber .ice
      (shop.updateLabels, userDefault)
  else (shop, userDefault)

end ShopController

end OneSecond
