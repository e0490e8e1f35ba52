import ModalEditing.Keymap.Registry
import ModalEditing.TextObject.IndentBlock

/-! The standard mappings, and the extension with the indentation objects. -/

namespace ModalEditing

def motionKeys : List (String × Motion) :=
  [("h", .left), ("l", .right), ("k", .up), ("j", .down), ("0", .lineStart), ("^", .firstNonBlank),
   ("$", .lineEnd), ("G", .fileEnd), ("w", .wordForward), ("b", .wordBackward), ("e", .wordEnd),
   ("gg", .fileStart)]

def operators : List Operator := [.delete, .change, .yank, .shiftRight, .shiftLeft]

def normalKeys : List (List Key × EditCommand) :=
  [(Key.typing "i", .enterInsert), (Key.typing "a", .append), (Key.typing "I", .insertAtLineStart),
   (Key.typing "A", .appendAtLineEnd), (Key.typing "R", .enterReplace),
   (Key.typing "gh", .enterSelect .character), (Key.typing "gH", .enterSelect .line),
   ([Key.plain 'g', Key.ctrl 'h'], .enterSelect .block)]

def selectionKeys : List (ModeSet × Key × EditCommand) :=
  let normalOrVisual : ModeSet := { normal := true, visual := true }
  [(normalOrVisual, Key.plain 'v', .toggleVisual .character),
   (normalOrVisual, Key.plain 'V', .toggleVisual .line),
   (normalOrVisual, Key.ctrl 'v', .toggleVisual .block),
   (.selecting, Key.ctrl 'g', .toggleSelectVisual),
   -- during a single Visual command this goes straight back to Select
   (.selecting, Key.ctrl 'o', .singleVisualCommand),
   ({ visual := true }, Key.plain 'o', .swapEnds)]

def standardEntries : List Registration :=
  motionKeys.map (fun (ks, m) => .handler .commands (Key.typing ks) (.motion m)) ++
  operators.map (fun o => .handler .commands [Key.plain o.key] (.operator o)) ++
  normalKeys.map (fun (ks, c) => .handler { normal := true } ks (.command c)) ++
  selectionKeys.map (fun (modes, k, c) => .handler modes [k] (.command c))

def Registry.standard : Registry := Registry.registerEach {} standardEntries

def indentHandlers : List (String × IndentBlock) :=
  [("textobj-indent-ai", .withAbove), ("textobj-indent-aI", .withBoth),
   ("textobj-indent-ii", .inner)]

def indentKeys : List (String × String) :=
  [("ai", "textobj-indent-ai"), ("aI", "textobj-indent-aI"), ("ii", "textobj-indent-ii"),
   ("iI", "textobj-indent-ii")]

def indentObjects : Registration :=
  .extension "textobj-indent"
    (indentHandlers.map (fun (name, b) =>
        .handler .objects (Key.plugged name) (.textObject b.toTextObject)) ++
      indentKeys.map (fun (ks, name) =>
        .keys .objects (Key.typing ks) (Key.plugged name) true))

def Keymap.standard : Keymap := (Registry.standard.registerEach [indentObjects]).keymap

def shippedExtension (name : String) : Except Fault Registration :=
  if name = "textobj-indent" then .ok indentObjects else .error (.unknownExtension name)

end ModalEditing
