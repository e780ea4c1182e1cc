import EditImpact.Files.Glob
import EditImpact.Files.Path
import EditImpact.Language

/-!
What a file is by its name: its language, whether it is a source, a binary or a test, and which
directories are never looked into.
-/

namespace EditImpact.Files

def languageOf (path : Path) : Option Language := Language.ofExtension path.lowerEnding

def sourceEndings : List String :=
  [".js", ".jsx", ".ts", ".tsx", ".py", ".java", ".cs", ".go", ".rs"]

def binaryEndings : List String :=
  [".exe", ".dll", ".so", ".dylib", ".bin", ".jpg", ".jpeg", ".png", ".gif", ".pdf", ".zip", ".tar",
    ".gz"]

def isSource (path : Path) : Bool := sourceEndings.contains path.lowerEnding

def isBinary (path : Path) : Bool := binaryEndings.contains path.lowerEnding

/-- Globs of test names in any language. -/
def commonTestGlobs : List String := ["*.test.*", "*.spec.*", "test_*.*", "*_test.*"]

def testGlobs (extra : List String) : List String :=
  commonTestGlobs ++ extra ++ Language.known.flatMap Language.testGlobs

/-- Source files with the name of a test. -/
def isTest (path : Path) (extra : List String) : Bool :=
  isSource path && Glob.anyCovers (testGlobs extra) path.name

/-- Whether a path mentions tests anywhere, in any case of letters. -/
def mentionsTests (path : String) : Bool :=
  let lowered := Text.lower path.toList
  Text.occursIn "test".toList lowered || Text.occursIn "spec".toList lowered

/-- Directories that conventionally hold tests. -/
def testDirectories : List String :=
  ["test", "tests", "__tests__", "spec", "specs", "test-src", "src/test", "src/tests"]

/-- Directories of dependencies, caches, build results and tools. -/
def prunedDirectories : List String :=
  [".git", ".svn", ".hg", ".impactlens", "node_modules", "coverage", ".nyc_output", ".next",
    ".nuxt", "__pycache__", "venv", ".venv", ".tox", "dist", "build", "out", "target", "bin", "obj",
    "vendor", ".vscode", ".idea"]

/-- Whether a directory is never looked into: its name starts with a dot, or it is listed. -/
def isExcluded (name : String) (extra : List String) : Bool :=
  name.toList.head? == some '.' || prunedDirectories.contains name || extra.contains name

end EditImpact.Files
