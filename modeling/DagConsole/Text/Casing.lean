/-! Spellings of names made of several words. -/
namespace DagConsole.Text

/-- Capitalises the letters that follow an underscore and drops the underscores. -/
def joinWords (capital : Bool) : List Char → List Char
  | [] => []
  | '_' :: rest => joinWords true rest
  | c :: rest => (if capital then c.toUpper else c) :: joinWords false rest

/-- Writes a name of lower-case words joined by underscores as capitalised words run together. -/
def capitalized (name : String) : String := String.ofList (joinWords true name.toList)

end DagConsole.Text
