import ModalEditing.Host.Tour

/-! Prints the tour of the indentation objects. -/

namespace ModalEditing

def printTour : IO Unit :=
  match Tour.lines with
  | .ok lines => lines.forM IO.println
  | .error fault => throw (IO.userError fault.message)

end ModalEditing

def main : IO Unit := ModalEditing.printTour
