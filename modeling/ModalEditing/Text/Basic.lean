/-! The text being edited: its characters in order, addressed by offsets from zero.
The offset `size` lies past the last character and holds none. -/

namespace ModalEditing

abbrev Text := Array Char

namespace Text

def ofString (s : String) : Text := s.toList.toArray

def toString (t : Text) : String := String.ofList t.toList

def slice (t : Text) (start stop : Nat) : Text := t.extract start stop

def remove (t : Text) (start stop : Nat) : Text :=
  t.extract 0 start ++ t.extract stop t.size

def insertAt (t : Text) (p : Nat) (s : String) : Text :=
  t.extract 0 p ++ ofString s ++ t.extract p t.size

theorem size_ofString (s : String) : (ofString s).size = s.length := by
  simp [ofString, String.length_toList]

theorem size_remove {t : Text} {start stop : Nat} (h : start ≤ stop) (hs : stop ≤ t.size) :
    (t.remove start stop).size + (stop - start) = t.size := by
  simp [remove]
  omega

theorem size_insertAt {t : Text} {p : Nat} (s : String) (h : p ≤ t.size) :
    (t.insertAt p s).size = t.size + s.length := by
  simp [insertAt, size_ofString]
  omega

end Text

end ModalEditing
