import Mathlib.Data.List.Sort
import Mathlib.Order.Defs.Unbundled

/-!
# Sort routines with a comparator

The contract of a library sort taking a Boolean "comes before" predicate: the
result is always a permutation, and it is ordered when the predicate is a
strict weak ordering.  For any other predicate the order is unspecified.
-/

namespace Sorting

universe u

/-- The laws of a strict weak ordering, for a predicate compared on some elements only. -/
structure StrictWeakOn {α : Type u} (before : α → α → Bool) (elements : Set α) : Prop where
  irreflexive : ∀ a ∈ elements, before a a = false
  asymmetric : ∀ a ∈ elements, ∀ b ∈ elements, before a b = true → before b a = false
  transitive : ∀ a ∈ elements, ∀ b ∈ elements, ∀ c ∈ elements,
    before a b = true → before b c = true → before a c = true
  incomparable_transitive : ∀ a ∈ elements, ∀ b ∈ elements, ∀ c ∈ elements,
    before a b = false ∧ before b a = false → before b c = false ∧ before c b = false →
      before a c = false ∧ before c a = false

theorem strictWeakOn_univ_iff {α : Type u} {before : α → α → Bool} :
    StrictWeakOn before Set.univ ↔ IsStrictWeakOrder α fun a b => before a b = true := by
  constructor
  · intro laws
    refine { irrefl := ?_, trans := ?_, incomp_trans := ?_ }
    · intro a
      simpa using laws.irreflexive a trivial
    · intro a b c
      exact laws.transitive a trivial b trivial c trivial
    · intro a b c
      simpa using laws.incomparable_transitive a trivial b trivial c trivial
  · intro ordering
    refine ⟨?_, ?_, ?_, ?_⟩
    · intro a _
      simpa using ordering.irrefl a
    · intro a _ b _ forwards
      rw [Bool.eq_false_iff]
      intro backwards
      exact ordering.irrefl a (ordering.trans _ _ _ forwards backwards)
    · intro a _ b _ c _
      exact ordering.trans a b c
    · intro a _ b _ c _
      simpa using ordering.incomp_trans a b c

/-- A sort routine together with its contract. -/
structure SortRoutine (α : Type u) where
  sorted : (α → α → Bool) → List α → List α
  sorted_perm : ∀ (before : α → α → Bool) (list : List α), (sorted before list).Perm list
  sorted_pairwise : ∀ (before : α → α → Bool) (list : List α),
    IsStrictWeakOrder α (fun a b => before a b = true) →
      (sorted before list).Pairwise fun a b => before b a = false

namespace SortRoutine

variable {α : Type u}

/-- Not coming after is total and transitive when coming before is a strict weak ordering. -/
theorem total_trans_of_isStrictWeakOrder {before : α → α → Bool}
    (ordering : IsStrictWeakOrder α fun a b => before a b = true) :
    (∀ a b, before b a = false ∨ before a b = false) ∧
      ∀ a b c, before b a = false → before c b = false → before c a = false := by
  constructor
  · intro a b
    cases forwards : before a b with
    | false => exact Or.inr rfl
    | true =>
        left
        rw [Bool.eq_false_iff]
        intro backwards
        exact ordering.irrefl a (ordering.trans _ _ _ forwards backwards)
  · intro a b c notBA notCB
    rw [Bool.eq_false_iff]
    intro beforeCA
    cases beforeAB : before a b with
    | true =>
        have beforeCB : before c b = true := ordering.trans _ _ _ beforeCA beforeAB
        simp [notCB] at beforeCB
    | false =>
        cases beforeBC : before b c with
        | true =>
            have beforeBA : before b a = true := ordering.trans _ _ _ beforeBC beforeCA
            simp [notBA] at beforeBA
        | false =>
            have incomparable := ordering.incomp_trans a b c (by simp [beforeAB, notBA])
              (by simp [beforeBC, notCB])
            exact incomparable.2 beforeCA

/-- The contract, for a predicate which is an ordering of the elements of the list only. -/
def OrdersElements (sort : SortRoutine α) : Prop :=
  ∀ (before : α → α → Bool) (list : List α), StrictWeakOn before {a | a ∈ list} →
    (sort.sorted before list).Pairwise fun a b => before b a = false

/-- Insertion sort meets the contract. -/
def insertion : SortRoutine α where
  sorted before list := list.insertionSort fun a b => before b a = false
  sorted_perm before list := List.perm_insertionSort _ list
  sorted_pairwise before list ordering := by
    have contract := total_trans_of_isStrictWeakOrder ordering
    have total : Std.Total fun a b : α => before b a = false := ⟨contract.1⟩
    have trans : IsTrans α fun a b : α => before b a = false := ⟨contract.2⟩
    exact List.pairwise_insertionSort _ list

/-- Insertion sort compares nothing but the elements. -/
theorem insertion_ordersElements : (insertion : SortRoutine α).OrdersElements := by
  intro before list laws
  have ordering : IsStrictWeakOrder { a // a ∈ list } fun a b => before a.1 b.1 = true := by
    apply strictWeakOn_univ_iff.mp
    refine ⟨?_, ?_, ?_, ?_⟩
    · intro a _
      exact laws.irreflexive a a.2
    · intro a _ b _
      exact laws.asymmetric a a.2 b b.2
    · intro a _ b _ c _
      exact laws.transitive a a.2 b b.2 c c.2
    · intro a _ b _ c _
      exact laws.incomparable_transitive a a.2 b b.2 c c.2
  have sorted := insertion.sorted_pairwise (fun a b : { a // a ∈ list } => before a.1 b.1)
    list.attach ordering
  have same := List.map_insertionSort (fun a b : { a // a ∈ list } => before b.1 a.1 = false)
    (fun a b => before b a = false) Subtype.val list.attach (fun _ _ _ _ => Iff.rfl)
  rw [List.attach_map_subtype_val] at same
  change (list.insertionSort fun a b => before b a = false).Pairwise _
  rw [← same, List.pairwise_map]
  exact sorted

/-- Insertion sort which takes the elements from the end of the list. -/
def insertionFromEnd : SortRoutine α where
  sorted before list := insertion.sorted before list.reverse
  sorted_perm before list := (insertion.sorted_perm before _).trans list.reverse_perm
  sorted_pairwise before list := insertion.sorted_pairwise before list.reverse

/-- A list in which nothing comes before anything is left as it is. -/
theorem insertion_of_never_before {before : α → α → Bool} {list : List α}
    (never : ∀ a ∈ list, ∀ b ∈ list, before a b = false) :
    insertion.sorted before list = list := by
  apply List.Pairwise.insertionSort_eq
  apply List.pairwise_of_forall_mem_list
  intro a memA b memB
  exact never b memB a memA

theorem insertionFromEnd_of_never_before {before : α → α → Bool} {list : List α}
    (never : ∀ a ∈ list, ∀ b ∈ list, before a b = false) :
    insertionFromEnd.sorted before list = list.reverse := by
  apply insertion_of_never_before
  intro a memA b memB
  exact never a (List.mem_reverse.mp memA) b (List.mem_reverse.mp memB)

end SortRoutine

end Sorting
