import ModalEditing.Command.Operator
import ModalEditing.Quoted

/-! What can be wrong with a configuration or with a command being typed. -/

namespace ModalEditing

inductive Fault where
  | keyName (written : String)
  | modeLetters (written : String)
  | registerName (c : Char)
  | operatorClash (pending got : Operator)
  | endlessMapping (limit : Nat)
  | unknownExtension (name : String)
  | duplicateExtension (name : String)
  | settings (detail : String)
deriving DecidableEq, Inhabited

namespace Fault

def message : Fault → String
  | keyName written => "invalid key notation: " ++ written
  | modeLetters written => "invalid mode mask: " ++ Quoted.text written
  | registerName c => "invalid register name: " ++ Quoted.char c
  | operatorClash pending got =>
    "operator " ++ got.label ++ " entered while " ++ pending.label ++ " is pending"
  | endlessMapping limit => "mapping expansion exceeded depth " ++ Nat.repr limit
  | unknownExtension name => "unknown extension: " ++ name
  | duplicateExtension name => "extension already registered: " ++ name
  | settings detail => "invalid configuration: " ++ detail

end Fault

end ModalEditing
