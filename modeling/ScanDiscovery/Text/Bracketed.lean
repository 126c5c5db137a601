/-!
# Text.Bracketed — lists and records on one line

Items stand between brackets, and named values between braces after the name of what they make up, with a comma
and a blank between two of them.
-/
namespace ScanDiscovery.Text

def separated (items : List String) : String := ", ".intercalate items

def bracketed (items : List String) : String := "[" ++ separated items ++ "]"

def record (name : String) (fields : List (String × String)) : String :=
  name ++ " \x7b " ++ separated (fields.map fun (label, value) => label ++ ": " ++ value) ++ " \x7d"

example : bracketed [] = "[]" := by decide

example : bracketed ["Flatbed", "ADF"] = "[Flatbed, ADF]" := by decide

end ScanDiscovery.Text
