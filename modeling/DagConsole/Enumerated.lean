/-! Enumerations whose members have names in text. -/
namespace DagConsole

/-- A finite type whose members are listed in order and named. -/
class Enumerated (α : Type) where
  members : List α
  name : α → String

namespace Enumerated

variable {α : Type} [Enumerated α]

/-- The member with exactly this name. -/
def ofName? (text : String) : Option α := members.find? fun member => name member == text

/-- The place of a name among the members. -/
def index (member : α) : Nat := (members (α := α)).findIdx fun other => name other == name member

end Enumerated

end DagConsole
