/-!
Environment variables as a list of entries, each a name and a value. A name is looked up in the text
of the entries, so one that holds an equals sign can reach into a value.
-/

namespace R3000

/-- Variables, the one that is found first at the front. -/
abbrev Variables := List (String × String)

namespace Variables

/-- The text of an entry. -/
def entry (e : String × String) : List Char := e.1.toList ++ '=' :: e.2.toList

/-- What follows a name and an equals sign at the front of an entry. -/
def behind? (name : List Char) (entry : List Char) : Option (List Char) :=
  if (name ++ ['=']).isPrefixOf entry then some (entry.drop (name.length + 1)) else none

/-- The value under a name. The empty name is under none, and names hold no NUL. -/
def find? (vs : Variables) (name : String) : Option String :=
  if name = "" ∨ '\x00' ∈ name.toList then none
  else (vs.findSome? fun e => behind? name.toList (entry e)).map String.ofList

/-- Whether a value can be put into the environment: there a NUL would end it. -/
def isStorable (value : String) : Bool := !value.toList.contains '\x00'

end Variables

end R3000
