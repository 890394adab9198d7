import TypeGrading.Config.Reader
import TypeGrading.Pattern.Standard
import TypeGrading.Text.Json

/-!
# What commands rely on

Regular expressions, the reading of configs and the writing of JSON are the business of other
libraries.

* `Libraries`: what is asked of them;
* `Libraries.standard`: the ones of this project.
-/

namespace TypeGrading.Command

/-- An engine for regular expressions, a way to read configs, and a way to write JSON. -/
structure Libraries where
  patterns : Pattern.Engine
  readConfig : Config.Reading
  writeJson : Text.Json → String

/-- The engine, the reader and the printer of this project. -/
def Libraries.standard : Libraries := ⟨.standard, Config.parse, Text.Json.pretty⟩

end TypeGrading.Command
