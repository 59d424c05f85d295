/-! Bundles of a worksheet: the handle that the service gives, the metadata that the user gives,
and the place on the worksheet where a new bundle goes. -/
namespace WorksheetUpload

/-- A position after an item of a worksheet, a signed number of 64 bits. -/
structure SortKey where
  value : Int
  lower : -0x8000000000000000 ≤ value
  upper : value < 0x8000000000000000
  deriving DecidableEq

namespace SortKey

def ofInt? (n : Int) : Option SortKey :=
  if h : -0x8000000000000000 ≤ n ∧ n < 0x8000000000000000 then some ⟨n,h.1,h.2⟩ else none

theorem ofInt?_eq_some_iff {n : Int} {k : SortKey} : ofInt? n = some k ↔ n = k.value := by
  unfold ofInt?
  split
  · rw [Option.some.injEq]
    constructor
    · rintro rfl; rfl
    · intro h; subst h; rfl
  · rename_i h
    simp only [reduceCtorEq, false_iff]
    rintro rfl
    exact h ⟨k.lower,k.upper⟩

/-- The canonical decimal of a key. -/
def text (k : SortKey) : String := toString k.value

end SortKey

/-- Where a new bundle is put: a worksheet, and the item after which it goes. -/
structure Target where
  worksheet : String
  after : Option SortKey
  deriving DecidableEq

/-- The name that the service gave to a bundle. It may be any text. -/
structure Handle where
  text : String
  deriving DecidableEq, Repr

/-- What the user says about a bundle. -/
structure Metadata where
  name : String
  description : String
  tags : List String
  deriving DecidableEq, Repr

end WorksheetUpload
