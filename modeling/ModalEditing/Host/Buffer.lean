import ModalEditing.Action
import ModalEditing.Text.Basic

/-! The text on the side of a host: what each action of the editor does to it. -/

namespace ModalEditing

namespace Text

def removeSpan (t : Text) (r : Span) : Text :=
  let r := r.clamp t.size
  t.remove r.start r.stop

def insertClamped (t : Text) (p : Nat) (s : String) : Text := t.insertAt (min p t.size) s

/-- Types over the character at the offset. A newline is not typed over. -/
def typeOver (t : Text) (p : Nat) (s : String) : Text :=
  let p := min p t.size
  let t := if p < t.size ∧ t[p]? ≠ some '\n' then t.remove p (p + 1) else t
  t.insertAt p s

def apply (t : Text) : Action → Text
  | .operate o span _ _ _ => if o.removes then t.removeSpan span else t
  | .insertText p s => t.insertClamped p s
  | .replaceText p s => t.typeOver p s
  | .setCursor _ | .setSelection _ | .bell => t

def applyAll (t : Text) (as : Array Action) : Text := as.foldl apply t

end Text

end ModalEditing
