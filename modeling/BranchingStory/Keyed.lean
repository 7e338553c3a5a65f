/-!
Lists of entries under text keys, in the two orders that a story shows: ascending by key for maps of
values, and by first appearance for the fields of a document. Keys compare by code point.
-/

namespace BranchingStory.Keyed

variable {α : Type}

/-- The value of the first entry under `key`. -/
def get? (key : String) : List (String × α) → Option α
  | [] => none
  | (k, v) :: rest => if k = key then some v else get? key rest

/-- Whether some entry stands under `key`. -/
def contains (key : String) (entries : List (String × α)) : Bool :=
  (get? key entries).isSome

/-- The keys in order. -/
def keys (entries : List (String × α)) : List String :=
  entries.map Prod.fst

/-- Writes an entry into entries in ascending key order, over an entry of the same key. -/
def insert (key : String) (value : α) : List (String × α) → List (String × α)
  | [] => [(key, value)]
  | (k, v) :: rest =>
    if key < k then (key, value) :: (k, v) :: rest
    else if key = k then (key, value) :: rest
    else (k, v) :: insert key value rest

/-- Entries in ascending key order; of entries with one key the last remains. -/
def ascending : List (String × α) → List (String × α)
  | [] => []
  | (k, v) :: rest =>
    let later := ascending rest
    if contains k later then later else insert k v later

/-- Writes an entry in order of appearance: a known key keeps its place, a new one comes last. -/
def put (key : String) (value : α) : List (String × α) → List (String × α)
  | [] => [(key, value)]
  | (k, v) :: rest => if k = key then (k, value) :: rest else (k, v) :: put key value rest

/-- Entries with distinct keys in order of first appearance, each with its last value. -/
def distinct (entries : List (String × α)) : List (String × α) :=
  entries.foldl (fun done entry => put entry.1 entry.2 done) []

/-- An entry found under a key is smaller than the entries it was found in. -/
theorem sizeOf_lt_of_get?_eq_some [SizeOf α] {key : String} {v : α} :
    ∀ {entries : List (String × α)}, get? key entries = some v → sizeOf v + 2 < sizeOf entries
  | (k, w) :: rest, h => by
    unfold get? at h
    split at h
    · cases h
      simp only [List.cons.sizeOf_spec, Prod.mk.sizeOf_spec]
      have : 0 < sizeOf rest := by
        cases rest
        · simp
        · rw [List.cons.sizeOf_spec]; omega
      omega
    · have := sizeOf_lt_of_get?_eq_some h
      simp only [List.cons.sizeOf_spec]
      omega

end BranchingStory.Keyed
