/-! Areas of the window that things can be dropped on. -/
namespace WorksheetUpload

/-- A point of the window. -/
structure Point where
  x : Float32
  y : Float32

/-- A rectangle that holds its edges. -/
structure Rect where
  min : Point
  max : Point

def Rect.contains (r : Rect) (p : Point) : Bool :=
  r.min.x ≤ p.x && p.x ≤ r.max.x && r.min.y ≤ p.y && p.y ≤ r.max.y

inductive DropTarget
  | directory | file
  deriving DecidableEq, Repr

/-- An area, which nobody has seen before it is painted. -/
structure DropZone where
  hovering : Bool
  rect : Option Rect

namespace DropZone

def contains (z : DropZone) (p : Point) : Bool := z.rect.any (·.contains p)

/-- An area is dimmed, by this many tenths, while something hovers over it. -/
def opacity (z : DropZone) : Nat := if z.hovering then 5 else 10

/-- Things dropped inside the directory area are directories. What falls anywhere else, or nobody
knows where, is a file. -/
def route (directory : DropZone) (pointer : Option Point) : DropTarget :=
  if pointer.any directory.contains then .directory else .file

end DropZone
end WorksheetUpload
