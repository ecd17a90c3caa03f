import Mathlib

/-!
# Sums over dictionaries

A dictionary is an `AList` with values of one type.  `total` adds up what its
entries are worth; inserting a new key adds the worth of its entry, removing a
key takes it away, and only entries which are looked up matter.

The last parts are about maps changed at one key, about lists whose elements
have distinct keys, changed at one place, and about the items at several places.
-/

namespace Dictionaries

universe u v w

variable {Key : Type u} {Value : Type v} {Worth : Type w} [AddCommMonoid Worth]

/-- Everything the entries are worth. -/
def total (worth : Key → Value → Worth) (dictionary : AList fun _ : Key => Value) : Worth :=
  (dictionary.entries.map fun entry => worth entry.1 entry.2).sum

variable {worth other : Key → Value → Worth} {dictionary : AList fun _ : Key => Value}
  {key : Key} {value : Value}

@[simp]
theorem total_empty : total worth ∅ = 0 := rfl

variable [DecidableEq Key]

theorem total_insert (new : key ∉ dictionary) :
    total worth (dictionary.insert key value) = worth key value + total worth dictionary := by
  rw [total, total, AList.entries_insert_of_notMem new]
  simp

theorem mem_entries_iff :
    (⟨key, value⟩ : Sigma fun _ : Key => Value) ∈ dictionary.entries ↔
      dictionary.lookup key = some value :=
  AList.mem_lookup_iff.symm

theorem ne_of_lookup_erase {removed : Key}
    (found : (dictionary.erase removed).lookup key = some value) : key ≠ removed := by
  rintro rfl
  rw [AList.lookup_erase] at found
  cases found

theorem total_erase (found : dictionary.lookup key = some value) :
    total worth dictionary = worth key value + total worth (dictionary.erase key) := by
  have present : key ∈ dictionary.entries.keys :=
    List.mem_keys_of_mem (mem_entries_iff.mpr found)
  rcases List.exists_of_kerase present with ⟨held, before, after, absent, split, erased⟩
  have same : held = value := by
    have looked : dictionary.lookup key = some held := by
      apply mem_entries_iff.mp
      rw [split]
      simp
    rw [found, Option.some.injEq] at looked
    exact looked.symm
  have rest : (dictionary.erase key).entries = before ++ after := erased
  rw [total, total, rest, split, same]
  simp [add_left_comm]

/-- What is left after removing a key was there before. -/
theorem lookup_of_erase {removed : Key}
    (found : (dictionary.erase removed).lookup key = some value) :
    dictionary.lookup key = some value := by
  rwa [AList.lookup_erase_ne (ne_of_lookup_erase found)] at found

theorem total_congr
    (agree : ∀ key value, dictionary.lookup key = some value → worth key value = other key value) :
    total worth dictionary = total other dictionary := by
  rw [total, total]
  apply congrArg List.sum
  apply List.map_congr_left
  rintro ⟨key, value⟩ present
  exact agree key value (mem_entries_iff.mp present)

/-- Changing what one entry is worth. -/
theorem total_update (found : dictionary.lookup key = some value) {more : Worth}
    (grows : other key value = worth key value + more)
    (agree : ∀ otherKey otherValue, otherKey ≠ key →
      dictionary.lookup otherKey = some otherValue →
      other otherKey otherValue = worth otherKey otherValue) :
    total other dictionary = total worth dictionary + more := by
  have rest : total other (dictionary.erase key) = total worth (dictionary.erase key) := by
    apply total_congr
    intro otherKey otherValue remains
    exact agree otherKey otherValue (ne_of_lookup_erase remains) (lookup_of_erase remains)
  rw [total_erase found, total_erase found, rest, grows]
  ac_rfl

/-- What is read of the values does not change where the new value reads as the old one did. -/
theorem read_update {Field : Type*} {values : Key → Value} (read : Value → Field)
    (same : read value = read (values key)) (other : Key) :
    read (Function.update values key value other) = read (values other) := by
  by_cases equal : other = key
  · subst equal
    simp [same]
  · simp [equal]

section Places

variable {Item : Type*} {key : Item → Key} {items : List Item} {place : ℕ} {old new item : Item}

omit [DecidableEq Key] in
theorem map_set (found : items[place]? = some old) (same : key new = key old) :
    (items.set place new).map key = items.map key := by
  apply List.ext_getElem?
  intro other
  rw [List.getElem?_map, List.getElem?_map, List.getElem?_set]
  split
  · next equal =>
      subst equal
      split
      · simp [found, same]
      · next beyond =>
          rw [List.getElem?_eq_none (not_lt.mp beyond)] at found
          cases found
  · rfl

omit [DecidableEq Key] in
/-- Taking out one item leaves the items with other keys. -/
theorem mem_eraseIdx_iff (distinct : items.Pairwise fun item other => key item ≠ key other)
    (found : items[place]? = some old) :
    item ∈ items.eraseIdx place ↔ item ∈ items ∧ key item ≠ key old := by
  rw [List.mem_eraseIdx_iff_getElem?]
  have apart := List.pairwise_iff_getElem.mp distinct
  rcases List.getElem?_eq_some_iff.mp found with ⟨here, isOld⟩
  constructor
  · rintro ⟨other, differs, isItem⟩
    rcases List.getElem?_eq_some_iff.mp isItem with ⟨there, isItem⟩
    refine ⟨isItem ▸ List.getElem_mem there, ?_⟩
    rw [← isItem, ← isOld]
    rcases Nat.lt_or_gt_of_ne differs with before | behind
    · exact apart _ _ there here before
    · exact (apart _ _ here there behind).symm
  · rintro ⟨occurs, differs⟩
    rcases List.mem_iff_getElem?.mp occurs with ⟨other, isItem⟩
    refine ⟨other, ?_, isItem⟩
    rintro rfl
    rw [found, Option.some.injEq] at isItem
    exact differs (congrArg key isItem.symm)

omit [DecidableEq Key] in
/-- One item and all the others. -/
theorem coe_eraseIdx (found : items[place]? = some old) :
    (items : Multiset Item) = {old} + items.eraseIdx place := by
  rcases List.getElem?_eq_some_iff.mp found with ⟨here, isOld⟩
  rw [Multiset.singleton_add, Multiset.cons_coe, Multiset.coe_eq_coe, ← isOld]
  exact (List.getElem_cons_eraseIdx_perm here).symm

omit [DecidableEq Key] in
theorem filterMap_getElem?_range (items : List Item) :
    ((List.range items.length).filterMap fun place => items[place]?) = items := by
  have isMap : ((List.range items.length).map fun place => items[place]?) = items.map some := by
    apply List.ext_getElem
    · simp
    · simp
  calc
    _ = ((List.range items.length).map fun place => items[place]?).filterMap id := by
      rw [List.filterMap_map]
      rfl
    _ = items := by
      rw [isMap, List.filterMap_map]
      exact List.filterMap_some

omit [DecidableEq Key] in
/-- The items at distinct places are among the items. -/
theorem coe_filterMap_getElem?_le {places : List ℕ}
    (distinct : (places : Multiset ℕ) ≤ Multiset.range items.length) :
    (places.filterMap (fun place => items[place]?) : Multiset Item) ≤ items := by
  have fewer := Multiset.filterMap_le_filterMap (fun place => items[place]?) distinct
  rw [Multiset.range, Multiset.filterMap_coe, Multiset.filterMap_coe,
    filterMap_getElem?_range] at fewer
  exact fewer

omit [DecidableEq Key] in
/-- The items at all the places are all the items. -/
theorem coe_filterMap_getElem?_of_perm {places : List ℕ}
    (all : places.Perm (List.range items.length)) :
    (places.filterMap (fun place => items[place]?) : Multiset Item) = items := by
  apply Multiset.coe_eq_coe.mpr
  exact (all.filterMap _).trans (List.Perm.of_eq (filterMap_getElem?_range items))

end Places

end Dictionaries
