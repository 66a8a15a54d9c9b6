import Protogen.Name.Words
import Protogen.Text.CaseMap

/-!
# Case styles

The three styles of generated names. `pascal` capitalises the first letter of
each word and lowers the others one by one; `snake` lowers each word as a text
of its own and puts underscores between the words; `screaming` is `snake` in
capitals.
-/

namespace Protogen

namespace Name

open Text

def pascalWord : List Char → List Char
  | [] => []
  | c :: cs => upperChar c ++ cs.flatMap lowerChar

def pascal (name : String) : String := String.ofList ((words name).flatMap pascalWord)

def snake (name : String) : String :=
  "_".intercalate ((words name).map fun word => lowercase (String.ofList word))

def screaming (name : String) : String := uppercase (snake name)

end Name

end Protogen
