import BindingGen.Failure
import BindingGen.Path

/-!
# Where files are kept

The three things that a run does with files. A run works for every store: the file tree of this
library and the files of a computer alike.
-/

namespace BindingGen

/-- Reads a text, tells whether there is a regular file, and gives a file a new content. A write
that fails leaves the store as it was. -/
class FileStore (m : Type → Type) where
  readText : Path → m (Except FileFault String)
  isFile : Path → m Bool
  writeText : Path → String → m (Except FileFault Unit)

end BindingGen
