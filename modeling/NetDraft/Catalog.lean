/-
The models and cables that the simulator knows.

Validation and listing see a catalog only as an inventory: the keys of each kind.  A listing shows
the keys that begin with a given text, whatever the case of its letters, and tells how many keys
there are in all.
-/
import NetDraft.Dict
import NetDraft.Text.Join
import NetDraft.Text.Lowercase

namespace NetDraft

/-! ### Kinds of entries -/

/-- The kinds of catalog entries. -/
inductive Kind where
  | devices
  | modules
  | links
deriving DecidableEq, Repr

namespace Kind

/-- All kinds, in the order in which catalogs list them. -/
def all : List Kind := [devices, modules, links]

/-- The name of the kind. -/
def name : Kind → String
  | devices => "devices"
  | modules => "modules"
  | links => "links"

/-- The place of the kind among all of them. -/
def index : Kind → Fin 3
  | devices => 0
  | modules => 1
  | links => 2

/-- The kind at a place among all of them. -/
def ofIndex : Fin 3 → Kind
  | 0 => devices
  | 1 => modules
  | 2 => links

/-- The kind with the given name in letters of either case, or else the name in lower case. -/
def ofText (text : String) : Except String Kind :=
  let lower := Text.lowercase text
  match all.find? fun kind => kind.name = lower with
  | some kind => .ok kind
  | none => .error lower

/-- The words in which an unknown name, already in lower case, is reported. -/
def unknownMessage (lower : String) : String :=
  "invalid arguments for listCatalog: unknown catalog kind '" ++ lower
    ++ "', expected devices, modules or links"

end Kind

/-! ### Listing an inventory -/

/-- The keys of each kind. -/
structure Inventory where
  keys : Kind → List String

/-- The keys that a listing shows, and the number of all keys of its kind. -/
structure Listing where
  totalKnown : Nat
  entries : List String
deriving DecidableEq

namespace Inventory

/-- Whether a key belongs to a kind. -/
def has (inv : Inventory) (kind : Kind) (key : String) : Bool := (inv.keys kind).contains key

theorem has_eq_true {inv : Inventory} {kind : Kind} {key : String} :
    inv.has kind key = true ↔ key ∈ inv.keys kind := by
  simp [has]

/-- How many keys a kind has. -/
def count (inv : Inventory) (kind : Kind) : Nat := (inv.keys kind).length

/-- The most entries that a listing may be asked for. -/
def maxLimit : Nat := 500

/-- Whether a key begins with a text, both taken in lower case. -/
def matchesStart (startsWith key : String) : Bool :=
  (Text.lowercase startsWith).toList.isPrefixOf (Text.lowercase key).toList

/-- The first keys of a kind, in ascending order, among those that begin with a text; `none` if
the number of entries asked for is not between one and `maxLimit`. -/
def list? (inv : Inventory) (kind : Kind) (limit : Int) (startsWith : String) : Option Listing :=
  if 1 ≤ limit ∧ limit ≤ maxLimit then
    let found := (inv.keys kind).filter (matchesStart startsWith)
    some ⟨inv.count kind, (found.mergeSort (· ≤ ·)).take limit.toNat⟩
  else none

/-- The words in which an inadmissible limit is reported. -/
def limitMessage (limit : Int) : String :=
  "limit must be between 1 and " ++ Text.decimal maxLimit ++ ", got "
    ++ String.ofList (Text.signedDigits limit)

end Inventory

/-! ### Catalogs -/

/-- What a catalog tells about a key. -/
structure Descriptor where
  category : Option String
  description : Option String
deriving DecidableEq

/-- The entries of each kind. -/
structure Catalog where
  devices : Dict Descriptor
  modules : Dict Descriptor
  links : Dict Descriptor

namespace Catalog

/-- The entries of a kind. -/
def table (c : Catalog) : Kind → Dict Descriptor
  | .devices => c.devices
  | .modules => c.modules
  | .links => c.links

/-- The keys of each kind. -/
def inventory (c : Catalog) : Inventory := ⟨fun kind => (c.table kind).keys⟩

/-- The first kind with an entry whose key is empty. -/
def emptyKey? (c : Catalog) : Option Kind :=
  Kind.all.find? fun kind => c.inventory.has kind ""

end Catalog

end NetDraft
