namespace LanWatch.Text

/-!
# Letter case

Keys, switches and levels are written in ASCII letters, and only these have two cases here.

* `lower`, `upper` — a text with its ASCII letters in one case.
-/

/-- A text with its ASCII letters in lower case. -/
def lower (text : String) : String :=
  String.ofList (text.toList.map Char.toLower)

/-- A text with its ASCII letters in upper case. -/
def upper (text : String) : String :=
  String.ofList (text.toList.map Char.toUpper)

example : upper "native_vlan" = "NATIVE_VLAN" := by decide
example : lower "ÄBC" = "Äbc" := by decide

end LanWatch.Text
