import MessagePack.Header.Order

/-!
# Tables keyed by headers

Two tables with one set of operations. An ordered table keeps its entries in the
order of their headers and finds them by comparing. A hashed table spreads its
entries over buckets by a digest of what a header feeds to a hash function, and
within a bucket finds them by sameness; nothing is asked of the digest. Storing
a value under a header that is the same as a stored one keeps the stored header
and replaces its value.
-/

namespace MessagePack.Header

universe u
variable {α : Type u}

/-- A request to a table. The same requests are put to tables of both kinds. -/
inductive TableCall (α : Type u) where
  | insert (header : Header) (value : α)
  | get (header : Header)
  | remove (header : Header)

/-- The header that a request is about. -/
def TableCall.header : TableCall α → Header
  | insert header _ | get header | remove header => header

/-- A table whose entries stand in the order of their headers. The order is an
invariant of the requests and not of the type. -/
structure OrderedTable (α : Type u) where
  entries : List (Header × α)

namespace OrderedTable

/-- The table without entries. -/
def empty : OrderedTable α := ⟨[]⟩

/-- The value stored under a header, in entries that are in order. The search
ends with the first entry that comes after the header. -/
def find? (header : Header) : List (Header × α) → Option α
  | [] => none
  | entry :: rest =>
    match header.compare entry.1 with
    | .lt => none
    | .eq => some entry.2
    | .gt => find? header rest

/-- Entries in order with a value stored, under the header already there if it
is the same. A new entry goes in front of the first one that comes after it. -/
def store (header : Header) (value : α) : List (Header × α) → List (Header × α)
  | [] => [(header, value)]
  | entry :: rest =>
    match header.compare entry.1 with
    | .lt => (header, value) :: entry :: rest
    | .eq => (entry.1, value) :: rest
    | .gt => entry :: store header value rest

/-- Entries in order without the one stored under a header, if there is one. -/
def discard (header : Header) : List (Header × α) → List (Header × α)
  | [] => []
  | entry :: rest =>
    match header.compare entry.1 with
    | .lt => entry :: rest
    | .eq => rest
    | .gt => entry :: discard header rest

/-- The number of entries. -/
def size (table : OrderedTable α) : Nat := table.entries.length

/-- The number of entries whose header is less than the one given. They are at
the front. -/
def below (table : OrderedTable α) (header : Header) : Nat :=
  (table.entries.takeWhile fun entry => entry.1.compare header == .lt).length

/-- Carries out a request. The answer is the value that was stored under its
header before, also where the request stores another or none. -/
def perform (table : OrderedTable α) (call : TableCall α) : OrderedTable α × Option α :=
  let found := find? call.header table.entries
  match call with
  | .insert header value => (⟨store header value table.entries⟩, found)
  | .get _ => (table, found)
  | .remove header => (⟨discard header table.entries⟩, found)

end OrderedTable

/-- A table whose entries are spread over buckets by a digest. The digest is any
function at all and the number of buckets never changes. -/
structure HashedTable (α : Type u) where
  digest : Nat × UInt64 → Nat
  buckets : List (List (Header × α))

namespace HashedTable

/-- The table without entries, with one bucket more than `extra`, so that there
is a bucket for every header. -/
def empty (digest : Nat × UInt64 → Nat) (extra : Nat) : HashedTable α :=
  ⟨digest, List.replicate (extra + 1) []⟩

/-- The bucket in which a header belongs. Headers that are the same feed the
same to the digest and so belong together. -/
def place (table : HashedTable α) (header : Header) : Nat :=
  table.digest header.hashInput % table.buckets.length

/-- The value stored under a header in one bucket. All of its entries are tried,
since those of a bucket are in no order. -/
def find? (header : Header) : List (Header × α) → Option α
  | [] => none
  | entry :: rest => if entry.1.same header then some entry.2 else find? header rest

/-- A bucket with a value stored, under the header already there if it is the
same. A new entry goes to the end. -/
def store (header : Header) (value : α) : List (Header × α) → List (Header × α)
  | [] => [(header, value)]
  | entry :: rest =>
    if entry.1.same header then (entry.1, value) :: rest else entry :: store header value rest

/-- A bucket without the entry stored under a header, if there is one. -/
def discard (header : Header) : List (Header × α) → List (Header × α)
  | [] => []
  | entry :: rest => if entry.1.same header then rest else entry :: discard header rest

/-- The number of entries. -/
def size (table : HashedTable α) : Nat := table.buckets.flatten.length

/-- The table with one bucket changed, the one in which the header belongs. No
other bucket is looked at. -/
def updateBucket (table : HashedTable α) (header : Header)
    (change : List (Header × α) → List (Header × α)) : HashedTable α :=
  { table with buckets := table.buckets.modify (table.place header) change }

/-- Carries out a request. The answer is the value that was stored under its
header before, as in an ordered table. -/
def perform (table : HashedTable α) (call : TableCall α) : HashedTable α × Option α :=
  let found := find? call.header (table.buckets.getD (table.place call.header) [])
  match call with
  | .insert header value => (table.updateBucket header (store header value), found)
  | .get _ => (table, found)
  | .remove header => (table.updateBucket header (discard header), found)

end HashedTable

end MessagePack.Header
