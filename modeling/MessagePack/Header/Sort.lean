import MessagePack.Header.Order

/-!
# Sorting headers

Sorting is stable: headers that are the same in the order keep the places they
had among themselves. In a sorted list the same headers stand together, and
keeping the first of each run leaves one header for each class, namely the one
that came first.
-/

namespace MessagePack.Header

/-- The headers in order, with the same headers left as they stood. The order
has ties between different headers, which is why stability shows. -/
def sort (headers : List Header) : List Header :=
  headers.mergeSort fun left right => (left.compare right).isLE

/-- The first header of each run of the same headers, after a run that began
with `last`. A run is compared with its first header throughout. -/
def runStartsAfter (last : Header) : List Header → List Header
  | [] => []
  | header :: rest =>
    if last.same header then runStartsAfter last rest else header :: runStartsAfter header rest

/-- The first header of each run of the same headers. Only neighbours are
compared, so a class that is spread over a list that is not sorted is kept more
than once. -/
def runStarts : List Header → List Header
  | [] => []
  | header :: rest => header :: runStartsAfter header rest

end MessagePack.Header
