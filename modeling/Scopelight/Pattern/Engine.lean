import Scopelight.Pattern.Reference
import Scopelight.Pattern.Scanner

/-!
# Engines

The standard engine and its lenient variant, which never objects to a construct before it
is compiled.
-/

namespace Scopelight

namespace Engine

/-- Compile all patterns of a list into one scanner. -/
def compileScanner (patterns : List String) : Except CompileError Scanner :=
  (Pattern.compileAll patterns).map Pattern.scanner

def standard : Engine where
  compile := compileScanner
  unsupportedFeature pattern := Pattern.unsupportedFeature pattern.toList

/-- The standard engine without the check for unsupported constructs. -/
def lenient : Engine where
  compile := compileScanner
  unsupportedFeature _ := none

end Engine

end Scopelight
