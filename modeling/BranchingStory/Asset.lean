import BranchingStory.Json.Record
import BranchingStory.Text.Case

/-!
Assets of a story and how they are found by key: by identifier, name or path, exactly or in normal
form.
-/

namespace BranchingStory

/-- What a host knows about an asset. -/
structure Asset where
  id : Option String := none
  name : Option String := none
  path : Option String := none
  data : Option String := none
  url : Option String := none
  src : Option String := none
  size : Option Float := none

namespace Asset

/-- An asset from its tree; every part may be missing. -/
def decode? (tree : Json) : Option Asset := do
  let r ← Json.Record.of? ["id", "name", "path", "data", "url", "src", "size"] tree
  return {
    id := ← r.withDefault 0 "id" none (Json.nullable Json.text?)
    name := ← r.withDefault 1 "name" none (Json.nullable Json.text?)
    path := ← r.withDefault 2 "path" none (Json.nullable Json.text?)
    data := ← r.withDefault 3 "data" none (Json.nullable Json.text?)
    url := ← r.withDefault 4 "url" none (Json.nullable Json.text?)
    src := ← r.withDefault 5 "src" none (Json.nullable Json.text?)
    size := ← r.withDefault 6 "size" none (Json.nullable Json.float?) }

/-- The characters without a last piece `.extension`, which has neither points nor slashes in it. -/
def dropExtension (cs : List Char) : List Char :=
  let backwards := cs.reverse
  let extension := backwards.takeWhile (fun c => c != '.' && c != '/')
  match backwards.dropWhile (fun c => c != '.' && c != '/') with
  | '.' :: stem => if extension.isEmpty then cs else stem.reverse
  | _ => cs

/-- A letter from `a` to `z` or a digit; any other character becomes an underscore. -/
def keyChar (c : Char) : Char :=
  if ('a' ≤ c && c ≤ 'z') || ('0' ≤ c && c ≤ '9') then c else '_'

/-- The normal form of a key: without extension, in lower case, with underscores for all characters
but letters and digits. -/
def normalizeKey (key : String) : String :=
  let stem := String.ofList (dropExtension key.toList)
  String.ofList ((Text.lower stem).toList.map keyChar)

/-- Whether a part of an asset is the key itself. -/
def exact (part : Asset → Option String) (key : String) (a : Asset) : Bool :=
  match part a with
  | some s => s == key
  | none => false

/-- Whether a part of an asset has the normal form of the key. -/
def alike (part : Asset → Option String) (key : String) (a : Asset) : Bool :=
  match part a with
  | some s => normalizeKey s == normalizeKey key
  | none => false

/-- The tests by which a key finds an asset, best first. -/
def tests (key : String) : List (Asset → Bool) :=
  [exact id key, alike id key, exact name key, exact path key, alike name key, alike path key]

/-- The asset that a key finds: the first one in the list that passes the best test. -/
def find? (assets : List Asset) (key : String) : Option Asset :=
  (tests key).findSome? (fun test => assets.find? test)

/-- The position of the asset that a key finds. -/
def findIndex? (assets : List Asset) (key : String) : Option Nat :=
  (tests key).findSome? (fun test => assets.findIdx? test)

/-- What a host loads for an asset: its data, else its url, source or path. -/
def source? (a : Asset) : Option String :=
  a.data <|> a.url <|> a.src <|> a.path

end Asset

end BranchingStory
