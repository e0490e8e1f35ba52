import ModalEditing.Selection

/-! Text objects: spans of text around the cursor. Extensions bring their own. -/

namespace ModalEditing

structure TextObject where
  find? : Text → (cursor count : Nat) → Option Span
  shape : Shape := .character

namespace TextObject

/-- The shape of a selection that takes in the object and had the given shape before. -/
def shapeFor (o : TextObject) (current : Shape) : Shape :=
  if current = .character then o.shape else current

def fixed (r : Option Span) (shape : Shape := .character) : TextObject where
  find? _ _ _ := r
  shape := shape

def ahead (shape : Shape := .character) : TextObject where
  find? _ cursor count := some (Span.between cursor (cursor + count))
  shape := shape

end TextObject

end ModalEditing
