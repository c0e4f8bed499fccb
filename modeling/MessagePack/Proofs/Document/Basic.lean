import MessagePack.Header.Basic
import MessagePack.Nesting.Basic

/-!
# Documents and their walks

A document is a tree of values in which every compound declares a size in its
header and also has an actual one: the elements of an array, the pairs of a map,
or the bytes of a body that goes by in pieces. The two may differ anywhere in
the tree.

A reader or a writer walks through a document from the outside in. It opens each
compound with the declared size and closes it after its content, and it lets an
element go by before each element of an array and before each key and each value
of a map. Every call of a walk is marked with whether it exposes a lie of its
own compound: the first unit beyond the declared ones does, and so do the later
ones and a closing that comes too early. The marks are computed from the tree
alone.
-/

namespace MessagePack

/-- A value as its headers declare it and as it actually is. The content of an
array or a map is a list of documents of any length, whatever the count in front
of it says. -/
inductive Document where
  | scalar (header : Header) (single : header.isCompound = false)
  /-- A string, a binary blob or an extension, with the sizes of the pieces that
  its body goes by in. -/
  | body (header : Header) (inBytes : header.kind.isByteCounted = true) (pieces : List UInt64)
  | array (count : UInt32) (elements : List Document)
  | map (count : UInt32) (pairs : List (Document × Document))

namespace Document

/-- The bytes of some pieces together, as a number without bounds. -/
def total : List UInt64 → Nat
  | [] => 0
  | piece :: pieces => piece.toNat + total pieces

/-- Every compound of the document has the size that its header declares, at
every level of the tree. A scalar has nothing to declare. -/
inductive Truthful : Document → Prop where
  | scalar (header : Header) (single : header.isCompound = false) : Truthful (.scalar header single)
  | body {header : Header} {inBytes : header.kind.isByteCounted = true} {pieces : List UInt64}
      (counted : header.declaredSize.toNat = total pieces) : Truthful (.body header inBytes pieces)
  | array {count : UInt32} {elements : List Document} (counted : count.toNat = elements.length)
      (inside : ∀ element ∈ elements, Truthful element) : Truthful (.array count elements)
  | map {count : UInt32} {pairs : List (Document × Document)}
      (counted : count.toNat = pairs.length) (keys : ∀ pair ∈ pairs, Truthful pair.1)
      (values : ∀ pair ∈ pairs, Truthful pair.2) : Truthful (.map count pairs)

/-- A call of a walk, and whether it exposes that its compound has more or fewer
units than it declares. -/
structure Visit where
  call : Nesting.Call
  exposes : Bool
  deriving DecidableEq, Repr

/-- The call that opens a compound. No header is wrong by itself, so an opening
never exposes anything. -/
def opening (header : Header) : Visit := ⟨.push header.kind header.declaredSize, false⟩

/-- The call that closes a compound after its actual content. It exposes a
content that is too small; one that is too large was exposed before. -/
def closing (header : Header) (actual : Nat) : Visit :=
  ⟨.pop header.kind, actual < header.declaredSize.toNat⟩

/-- The pieces of a body after so many bytes. The first one that goes beyond the
declared size is marked, and so is every piece after that. -/
def walkPieces (declared : Nat) : Nat → List UInt64 → List Visit
  | _, [] => []
  | seen, piece :: pieces =>
    ⟨.bytes piece, declared < seen + piece.toNat⟩ ::
      walkPieces declared (seen + piece.toNat) pieces

mutual

/-- The calls of a walk through a document, in order. A scalar has no calls of
its own: what contains it lets an element go by for it. -/
def walk : Document → List Visit
  | .scalar _ _ => []
  | .body header _ pieces =>
    opening header :: (walkPieces header.declaredSize.toNat 0 pieces ++
      [closing header (total pieces)])
  | .array count elements =>
    opening (.array count) :: (walkElements count.toNat 0 elements ++
      [closing (.array count) elements.length])
  | .map count pairs =>
    opening (.map count) :: (walkPairs count.toNat 0 pairs ++ [closing (.map count) pairs.length])

/-- The elements of an array after so many others. Before each one an element
goes by, which is marked if all that were declared have gone by before. -/
def walkElements (declared seen : Nat) : List Document → List Visit
  | [] => []
  | element :: elements =>
    ⟨.element, declared ≤ seen⟩ ::
      (walk element ++ walkElements declared (seen + 1) elements)

/-- The pairs of a map after so many others. Before a key and before its value
an element goes by, and both are marked if all pairs that were declared have
gone by before. -/
def walkPairs (declared seen : Nat) : List (Document × Document) → List Visit
  | [] => []
  | (key, value) :: pairs =>
    ⟨.element, declared ≤ seen⟩ ::
      (walk key ++ ⟨.element, declared ≤ seen⟩ ::
        (walk value ++ walkPairs declared (seen + 1) pairs))

end

/-! ## Which walks expose nothing -/

/-- No call of the walk exposes a lie of its compound. -/
def Silent (visits : List Visit) : Prop := ∀ visit ∈ visits, visit.exposes = false

@[simp] theorem silent_nil : Silent [] := by simp [Silent]

@[simp] theorem silent_cons (visit : Visit) (visits : List Visit) :
    Silent (visit :: visits) ↔ visit.exposes = false ∧ Silent visits := by simp [Silent]

@[simp] theorem silent_append (visits more : List Visit) :
    Silent (visits ++ more) ↔ Silent visits ∧ Silent more := by
  simp only [Silent, List.mem_append, or_imp, forall_and]

/-- The header of an array declares its count. -/
@[simp] theorem declaredSize_array (count : UInt32) :
    (Header.array count).declaredSize.toNat = count.toNat := by
  simp [Header.declaredSize, Header.count?]

/-- The header of a map declares its count. -/
@[simp] theorem declaredSize_map (count : UInt32) :
    (Header.map count).declaredSize.toNat = count.toNat := by
  simp [Header.declaredSize, Header.count?]

/-- Pieces expose nothing exactly if they stay within the declared size
together.

Proof: by induction on the pieces. If the first piece stays within the size the
rest starts within it, and otherwise the first piece is marked and the whole is
too large as well. -/
theorem silent_walkPieces {declared seen : Nat} {pieces : List UInt64} (within : seen ≤ declared) :
    Silent (walkPieces declared seen pieces) ↔ seen + total pieces ≤ declared := by
  induction pieces generalizing seen with
  | nil => simp [walkPieces, total, within]
  | cons piece pieces inductionHypothesis =>
    simp only [walkPieces, silent_cons, decide_eq_false_iff_not, Nat.not_lt, total]
    by_cases fits : seen + piece.toNat ≤ declared
    · rw [inductionHypothesis fits, Nat.add_assoc]
      simp [fits]
    · constructor
      · rintro ⟨first, _⟩
        exact absurd first fits
      · intro all
        omega

mutual

/-- A walk exposes nothing exactly if the document is truthful.

Proof: by induction on the tree, together with the same for elements and pairs.
The marks inside a compound say that its content is not too large and the mark
of its closing that it is not too small. -/
theorem silent_walk (document : Document) : Silent document.walk ↔ document.Truthful := by
  cases document with
  | scalar header single => simp [walk, Truthful.scalar]
  | body header inBytes pieces =>
    simp only [walk, opening, closing, silent_cons, silent_append, silent_nil,
      silent_walkPieces (Nat.zero_le _), decide_eq_false_iff_not, true_and, and_true]
    constructor
    · rintro ⟨notMore, notFewer⟩
      exact .body (by omega)
    · rintro (_ | ⟨counted⟩)
      omega
  | array count elements =>
    simp only [walk, opening, closing, silent_cons, silent_append, silent_nil,
      silent_walkElements count.toNat 0 elements (Nat.zero_le _), declaredSize_array,
      decide_eq_false_iff_not, true_and, and_true]
    constructor
    · rintro ⟨⟨notMore, inside⟩, notFewer⟩
      exact .array (by omega) inside
    · rintro (_ | _ | ⟨counted, inside⟩)
      exact ⟨⟨by omega, inside⟩, by omega⟩
  | map count pairs =>
    simp only [walk, opening, closing, silent_cons, silent_append, silent_nil,
      silent_walkPairs count.toNat 0 pairs (Nat.zero_le _), declaredSize_map,
      decide_eq_false_iff_not, true_and, and_true]
    constructor
    · rintro ⟨⟨notMore, keys, values⟩, notFewer⟩
      exact .map (by omega) keys values
    · rintro (_ | _ | _ | ⟨counted, keys, values⟩)
      exact ⟨⟨by omega, keys, values⟩, by omega⟩

/-- Elements expose nothing exactly if they are not too many and each is
truthful. -/
theorem silent_walkElements (declared seen : Nat) (elements : List Document)
    (within : seen ≤ declared) :
    Silent (walkElements declared seen elements) ↔
      seen + elements.length ≤ declared ∧ ∀ element ∈ elements, element.Truthful := by
  cases elements with
  | nil => simp [walkElements, within]
  | cons element elements =>
    simp only [walkElements, silent_cons, silent_append, silent_walk element,
      decide_eq_false_iff_not, List.forall_mem_cons, List.length_cons]
    by_cases room : seen + 1 ≤ declared
    · rw [silent_walkElements declared (seen + 1) elements room]
      constructor
      · rintro ⟨_, first, few, rest⟩
        exact ⟨by omega, first, rest⟩
      · rintro ⟨few, first, rest⟩
        exact ⟨by omega, first, by omega, rest⟩
    · constructor
      · rintro ⟨one, _⟩
        omega
      · rintro ⟨few, _⟩
        omega

/-- Pairs expose nothing exactly if they are not too many and the keys and
values are truthful. The mark of a value adds nothing to that of its key. -/
theorem silent_walkPairs (declared seen : Nat) (pairs : List (Document × Document))
    (within : seen ≤ declared) :
    Silent (walkPairs declared seen pairs) ↔
      seen + pairs.length ≤ declared ∧ (∀ pair ∈ pairs, pair.1.Truthful) ∧
        ∀ pair ∈ pairs, pair.2.Truthful := by
  match pairs with
  | [] => simp [walkPairs, within]
  | (key, value) :: pairs =>
    simp only [walkPairs, silent_cons, silent_append, silent_walk key, silent_walk value,
      decide_eq_false_iff_not, List.forall_mem_cons, List.length_cons]
    by_cases room : seen + 1 ≤ declared
    · rw [silent_walkPairs declared (seen + 1) pairs room]
      constructor
      · rintro ⟨_, key, _, value, few, keys, values⟩
        exact ⟨by omega, ⟨key, keys⟩, value, values⟩
      · rintro ⟨few, ⟨key, keys⟩, value, values⟩
        exact ⟨by omega, key, by omega, value, by omega, keys, values⟩
    · constructor
      · rintro ⟨one, _⟩
        omega
      · rintro ⟨few, _⟩
        omega

end

end Document

end MessagePack
