import Mathlib.Data.List.Sort
import MessagePack.Header.Sort
import MessagePack.Proofs.Header.Consistency
import MessagePack.Proofs.Header.Reference

/-!
# Sorted headers

Headers that are the same in the order can still differ, as an integer with and
one without a sign do. So a sorted list is determined by its headers only up to
the places of the same headers among themselves, and these are the places that
they had before. The first header of each run is then the one that came first of
its class, and these first headers stand in strict order. Their keys are those
of the list, each once, so any two lists with the same classes of headers have
the same keys there.
-/

namespace MessagePack.Header

variable {left right header last : Header} {headers : List Header}

/-! ## Sorting -/

/-- Of two headers one does not come after the other. -/
theorem le_total (left right : Header) : left ≤ right ∨ right ≤ left := by
  by_cases greater : left.compare right = .gt
  · exact .inr (not_greater_of_greater greater)
  · exact .inl greater

/-- The test that sorting makes is transitive, as the comparison is. -/
theorem isLE_trans (first second third : Header) (below : (first.compare second).isLE = true)
    (above : (second.compare third).isLE = true) : (first.compare third).isLE = true :=
  Std.TransCmp.isLE_trans below above

/-- The test that sorting makes holds one way or the other. -/
theorem isLE_total (left right : Header) :
    ((left.compare right).isLE || (right.compare left).isLE) = true := by
  rw [Bool.or_eq_true, Ordering.isLE_iff_ne_gt, Ordering.isLE_iff_ne_gt]
  exact le_total left right

/-- Sorting keeps the headers, each as often as it was there. -/
theorem sort_perm (headers : List Header) : (sort headers).Perm headers :=
  List.mergeSort_perm headers _

/-- In a sorted list no header comes after a later one. -/
theorem sort_pairwise (headers : List Header) : (sort headers).Pairwise (· ≤ ·) := by
  have tested := List.pairwise_mergeSort isLE_trans isLE_total headers
  exact tested.imp Ordering.isLE_iff_ne_gt.mp

/-- A list that stands in order is not changed by sorting, not even where
headers are the same. -/
theorem sort_of_pairwise (inOrder : headers.Pairwise (· ≤ ·)) : sort headers = headers :=
  List.mergeSort_of_pairwise (inOrder.imp Ordering.isLE_iff_ne_gt.mpr)

/-- Headers that are the same as one another stand in order in any arrangement,
so that sorting has no reason to move them. -/
theorem filter_same_pairwise (header : Header) (headers : List Header) :
    (headers.filter (·.same header)).Pairwise (· ≤ ·) := by
  apply List.pairwise_of_forall_mem_list
  intro left leftMember right rightMember
  have leftSame := same_iff.mp (List.mem_filter.mp leftMember).2
  have rightSame := same_iff.mp (List.mem_filter.mp rightMember).2
  have equal : left.compare right = .eq := compare_eq_iff.mpr (leftSame.trans rightSame.symm)
  change left.compare right ≠ .gt
  rw [equal]
  decide

/-- Sorting leaves the headers of one class as they stood among themselves.

Proof: the headers of a class are in order where they stand, and a stable sort
keeps them as a sublist of its result. They are all of the class that there are,
since sorting only permutes. -/
theorem filter_sort (header : Header) (headers : List Header) :
    (sort headers).filter (·.same header) = headers.filter (·.same header) := by
  have kept : (headers.filter (·.same header)).Sublist (sort headers) := by
    apply List.sublist_mergeSort isLE_trans isLE_total _ List.filter_sublist
    exact (filter_same_pairwise header headers).imp Ordering.isLE_iff_ne_gt.mpr
  have inner := kept.filter (·.same header)
  rw [List.filter_filter] at inner
  simp only [Bool.and_self] at inner
  exact (inner.eq_of_length ((sort_perm headers).filter _).length_eq.symm).symm

/-! ## Runs -/

/-- The first header of a class begins a run, so it is also the first of the
class among the headers that begin a run. The induction is on the headers after
the one that begins the current run. -/
theorem find?_runStartsAfter (header last : Header) (headers : List Header) :
    (last :: runStartsAfter last headers).find? (·.same header) =
      (last :: headers).find? (·.same header) := by
  induction headers generalizing last with
  | nil => rfl
  | cons next rest inductionHypothesis =>
    rw [runStartsAfter]
    split
    · rename_i alike
      have classes : next.same header = last.same header := by
        rw [Bool.eq_iff_iff, same_iff, same_iff, same_iff.mp alike]
      rw [inductionHypothesis, List.find?_cons, List.find?_cons, List.find?_cons, classes]
      cases last.same header <;> rfl
    · rw [List.find?_cons, inductionHypothesis]
      rfl

/-- The headers that begin a run represent every class by its first header. -/
theorem find?_runStarts (header : Header) (headers : List Header) :
    (runStarts headers).find? (·.same header) = headers.find? (·.same header) := by
  cases headers with
  | nil => rfl
  | cons last headers => exact find?_runStartsAfter header last headers

/-- Of headers in order those that begin a run stand in strict order: the next
run begins with a header that is not the same as the last one and does not come
before it. -/
theorem runStartsAfter_isChain (inOrder : (last :: headers).Pairwise (· ≤ ·)) :
    (last :: runStartsAfter last headers).IsChain (· < ·) := by
  induction headers generalizing last with
  | nil => exact .singleton last
  | cons next rest inductionHypothesis =>
    obtain ⟨least, later⟩ := List.pairwise_cons.mp inOrder
    rw [runStartsAfter]
    split
    · apply inductionHypothesis
      exact inOrder.sublist (.cons_cons last (List.sublist_cons_self next rest))
    · rename_i unlike
      have notAfter : last.compare next ≠ .gt := least next List.mem_cons_self
      have before : last.compare next = .lt := by
        cases order : last.compare next with
        | lt => rfl
        | eq => exact absurd (same_iff_compare.mpr order) unlike
        | gt => exact absurd order notAfter
      exact .cons_cons before (inductionHypothesis later)

/-- Of headers in order those that begin a run stand in strict order, each
before all later ones. -/
theorem runStarts_pairwise (inOrder : headers.Pairwise (· ≤ ·)) :
    (runStarts headers).Pairwise (· < ·) := by
  have transitive : IsTrans Header (· < ·) := ⟨fun _ _ _ => Std.TransCmp.lt_trans⟩
  cases headers with
  | nil => exact .nil
  | cons last headers => exact List.isChain_iff_pairwise.mp (runStartsAfter_isChain inOrder)

/-- In strict order a class has one header at most, and it is the one that is
found first. -/
theorem filter_same_of_pairwise (strict : headers.Pairwise (· < ·)) (header : Header) :
    headers.filter (·.same header) = (headers.find? (·.same header)).toList := by
  induction headers with
  | nil => rfl
  | cons first rest inductionHypothesis =>
    obtain ⟨least, later⟩ := List.pairwise_cons.mp strict
    rw [List.filter_cons, List.find?_cons]
    by_cases alike : first.same header = true
    · have others : rest.filter (·.same header) = [] := by
        apply List.filter_eq_nil_iff.mpr
        intro next member same
        have less : first.compare next = .lt := least next member
        have key := (same_iff.mp alike).trans (same_iff.mp same).symm
        rw [compare_eq_iff.mpr key] at less
        cases less
      rw [if_pos alike, alike, others]
      rfl
    · rw [if_neg alike, Bool.eq_false_iff.mpr alike]
      exact inductionHypothesis later

/-! ## Classes -/

/-- The comparison of keys is lexicographic, so it is lawful. -/
instance : Std.TransCmp Key.compare :=
  inferInstanceAs (Std.TransCmp (compareLex (compareOn Key.family) (compareOn Key.bits)))

/-- The keys of headers in strict order are in strict order, since headers
compare as their keys. -/
theorem map_key_pairwise (strict : headers.Pairwise (· < ·)) :
    (headers.map key).Pairwise fun first second => first.compare second = .lt :=
  List.pairwise_map.mpr strict

/-- In strict order no key occurs twice. -/
theorem map_key_nodup (strict : headers.Pairwise (· < ·)) : (headers.map key).Nodup := by
  rw [List.nodup_iff_pairwise_ne]
  apply (map_key_pairwise strict).imp
  rintro key _ less rfl
  have equal : key.compare key = .eq := Std.ReflCmp.compare_self
  rw [equal] at less
  cases less

/-- A key is found in a list exactly if the list has a header of its class. -/
theorem mem_map_key : header.key ∈ headers.map key ↔
    ∃ member ∈ headers, member.same header = true := by
  simp only [List.mem_map, same_iff]

/-- Lists in strict order that represent the same classes have the same keys, in
the same order.

Proof: each list has every key once, so the keys of one are a permutation of
those of the other, and two permutations of each other that are in strict order
are equal. -/
theorem map_key_eq {left right : List Header} (leftStrict : left.Pairwise (· < ·))
    (rightStrict : right.Pairwise (· < ·))
    (classes : ∀ header, (∃ member ∈ left, member.same header = true) ↔
      ∃ member ∈ right, member.same header = true) :
    left.map key = right.map key := by
  have members (header : Header) : header.key ∈ left.map key ↔ header.key ∈ right.map key := by
    rw [mem_map_key, mem_map_key]
    exact classes header
  have perm : (left.map key).Perm (right.map key) := by
    rw [List.perm_ext_iff_of_nodup (map_key_nodup leftStrict) (map_key_nodup rightStrict)]
    intro key
    constructor
    · intro member
      obtain ⟨header, _, rfl⟩ := List.mem_map.mp member
      exact (members header).mp member
    · intro member
      obtain ⟨header, _, rfl⟩ := List.mem_map.mp member
      exact (members header).mpr member
  refine perm.eq_of_pairwise ?_ (map_key_pairwise leftStrict) (map_key_pairwise rightStrict)
  intro first second _ _ less greater
  rw [Std.OrientedCmp.gt_iff_lt.mpr greater] at less
  cases less

/-- The first headers of the runs of a sorted list represent the classes of the
list, and no others. -/
theorem exists_mem_runStarts (header : Header) (headers : List Header) :
    (∃ member ∈ runStarts (sort headers), member.same header = true) ↔
      ∃ member ∈ headers, member.same header = true := by
  rw [← List.find?_isSome, find?_runStarts, List.find?_isSome]
  simp only [(sort_perm headers).mem_iff]

/-! ## Blocks of one rank -/

/-- A header that does not come after another has no greater rank, by the order
of headers by what they stand for. -/
theorem rank_le (notAfter : left ≤ right) : left.kind.rank ≤ right.kind.rank := by
  by_contra greater
  apply notAfter
  rw [compare_eq_reference, reference, Nat.compare_eq_gt.mpr (Nat.not_le.mp greater)]
  rfl

/-- Within one rank a header that does not come after another stands for no
greater number. -/
theorem magnitude_le (notAfter : left ≤ right) (alike : left.kind.rank = right.kind.rank) :
    left.magnitude ≤ right.magnitude := by
  by_contra greater
  apply notAfter
  rw [compare_eq_reference, reference, Nat.compare_eq_eq.mpr alike, Ordering.eq_then,
    Int.compare_eq_gt.mpr (Int.not_le.mp greater)]

/-- Every rank is one of the first ten numbers. -/
theorem rank_lt (kind : Kind) : kind.rank < 10 := by
  cases kind <;> decide

/-- Where numbers do not fall along a list, those below a bound come before all
others. If the first number is not below the bound, nothing that follows is
below it either. -/
theorem filter_lt_append {α : Type} {number : α → Nat} {list : List α}
    (rising : list.Pairwise fun left right => number left ≤ number right) (bound : Nat) :
    list.filter (number · < bound) ++ list.filter (bound ≤ number ·) = list := by
  induction list with
  | nil => rfl
  | cons first rest inductionHypothesis =>
    obtain ⟨least, later⟩ := List.pairwise_cons.mp rising
    by_cases below : number first < bound
    · rw [List.filter_cons_of_pos (by simpa using below),
        List.filter_cons_of_neg (by simpa using below), List.cons_append, inductionHypothesis later]
    · have above : bound ≤ number first := Nat.not_lt.mp below
      have others : ∀ next ∈ first :: rest, decide (bound ≤ number next) = true := by
        intro next member
        apply decide_eq_true
        rcases List.mem_cons.mp member with rfl | member
        · exact above
        · exact above.trans (least next member)
      have nothing : (first :: rest).filter (number · < bound) = [] := by
        apply List.filter_eq_nil_iff.mpr
        intro next member
        simpa using others next member
      rw [nothing, List.nil_append, List.filter_eq_self.mpr others]

/-- Where numbers do not fall along a list, it is made of one block for each
number, in order.

Proof: by induction on a bound of the numbers. Those below the last number come
before it and are made of their blocks by the induction hypothesis; what is left
is the block of the last number. -/
theorem flatMap_filter {α : Type} {number : α → Nat} {bound : Nat} {list : List α}
    (rising : list.Pairwise fun left right => number left ≤ number right)
    (bounded : ∀ member ∈ list, number member < bound) :
    (List.range bound).flatMap (fun place => list.filter (number · = place)) = list := by
  induction bound generalizing list with
  | zero =>
    have empty : list = [] := by
      apply List.eq_nil_iff_forall_not_mem.mpr
      intro member inside
      exact Nat.not_lt_zero _ (bounded member inside)
    rw [empty]
    rfl
  | succ bound inductionHypothesis =>
    have lower := inductionHypothesis (rising.filter (number · < bound)) (by simp)
    have blocks : (List.range bound).flatMap (fun place =>
        (list.filter (number · < bound)).filter (number · = place)) =
        (List.range bound).flatMap (fun place => list.filter (number · = place)) := by
      apply List.flatMap_congr
      intro place inside
      rw [List.filter_filter]
      apply List.filter_congr
      intro member _
      have small := List.mem_range.mp inside
      grind
    have last : list.filter (bound ≤ number ·) = list.filter (number · = bound) := by
      apply List.filter_congr
      intro member inside
      have small := bounded member inside
      grind
    rw [List.range_succ, List.flatMap_append, ← blocks, lower, List.flatMap_singleton, ← last]
    exact filter_lt_append rising bound

/-- Sorting is canonical, up to what the order does not tell apart.

A sorted list has the headers of the list, none before a lesser one, and those
of one class as they stood among themselves; sorting it again changes nothing.
The first headers of its runs stand in strict order and represent each class of
the list once, by its first header. Lists with the same classes lead to headers
that are the same one by one, and so to as many.

A sorted list is made of one block for each rank, in the order of the ranks, and
within a block the numbers do not fall; those of integers are the integers
themselves.

Proof: the laws of a stable merge sort give the first four parts, and the
headers that begin a run of a list in order stand in strict order and represent
every class by its first header. Two lists with the same classes therefore have
the same keys there, and headers with one key are the same. The blocks are those
of a list whose ranks do not fall, and within a rank the order is that of the
numbers. -/
theorem sorting_canonical :
    (∀ headers : List Header,
      (sort headers).Perm headers ∧
      (sort headers).Pairwise (fun left right => left.compare right ≠ .gt) ∧
      (∀ header, (sort headers).filter (·.same header) = headers.filter (·.same header)) ∧
      sort (sort headers) = sort headers ∧
      (runStarts (sort headers)).Pairwise (fun left right => left.compare right = .lt) ∧
      (∀ header, (runStarts (sort headers)).filter (·.same header) =
        (headers.find? (·.same header)).toList) ∧
      (List.range 10).flatMap (fun rank => (sort headers).filter (·.kind.rank = rank)) =
        sort headers ∧
      ∀ rank, ((sort headers).filter (·.kind.rank = rank)).Pairwise
        fun left right => left.magnitude ≤ right.magnitude) ∧
    ∀ left right : List Header,
      (∀ header, (∃ member ∈ left, member.same header = true) ↔
        ∃ member ∈ right, member.same header = true) →
      List.Forall₂ (fun first second => first.same second = true) (runStarts (sort left))
        (runStarts (sort right)) := by
  constructor
  · intro headers
    have inOrder := sort_pairwise headers
    have strict := runStarts_pairwise inOrder
    refine ⟨sort_perm headers, inOrder, fun header => filter_sort header headers,
      sort_of_pairwise inOrder, strict, ?_, ?_, ?_⟩
    · intro header
      rw [filter_same_of_pairwise strict, find?_runStarts, ← List.head?_filter, filter_sort,
        List.head?_filter]
    · exact flatMap_filter (inOrder.imp rank_le) fun header _ => rank_lt header.kind
    · intro rank
      apply (inOrder.filter _).imp_of_mem
      intro left right leftMember rightMember notAfter
      have leftRank := of_decide_eq_true (List.mem_filter.mp leftMember).2
      have rightRank := of_decide_eq_true (List.mem_filter.mp rightMember).2
      exact magnitude_le notAfter (leftRank.trans rightRank.symm)
  · intro left right classes
    have keys : (runStarts (sort left)).map key = (runStarts (sort right)).map key := by
      apply map_key_eq (runStarts_pairwise (sort_pairwise left))
        (runStarts_pairwise (sort_pairwise right))
      intro header
      rw [exists_mem_runStarts, exists_mem_runStarts]
      exact classes header
    have paired := List.forall₂_eq_eq_eq ▸ keys
    rw [List.forall₂_map_left_iff, List.forall₂_map_right_iff] at paired
    exact paired.imp fun _ _ => same_iff.mpr

/-- Five with a sign and five without are one class, represented by the first,
and arrays are one class whatever their sizes. A list that has these classes in
another order and once each leads to the same headers. -/
theorem five_represented_once :
    let left := [array 2, int 5, nil, uint 5, array 7]
    let right := [uint 5, nil, array 0]
    (runStarts (sort left)).filter (·.same (uint 5)) = [int 5] ∧
    (sort left).filter (·.same (array 0)) = [array 2, array 7] ∧
    List.Forall₂ (fun first second => first.same second = true) (runStarts (sort left))
      (runStarts (sort right)) := by
  intro left right
  obtain ⟨sorted, canonical⟩ := sorting_canonical
  obtain ⟨_, _, stable, _, _, first, _⟩ := sorted left
  refine ⟨first (uint 5), stable (array 0), ?_⟩
  apply canonical
  intro header
  have leftKeys : left.map key =
      [key (array 0), key (uint 5), key nil, key (uint 5), key (array 0)] := rfl
  have rightKeys : right.map key = [key (uint 5), key nil, key (array 0)] := rfl
  rw [← mem_map_key, ← mem_map_key, leftKeys, rightKeys]
  simp only [List.mem_cons, List.not_mem_nil, or_false]
  tauto

end MessagePack.Header
