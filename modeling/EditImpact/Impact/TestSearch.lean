import EditImpact.Impact.Downstream

/-!
Tests of a source file: by name, by import, by a mention of a broken symbol, or by their place in a
directory of tests. Nearer tests come first.
-/

namespace EditImpact.Impact

open Files

/-- What marks a file name as that of a test. -/
def testAffix : Pattern :=
  open Pattern in
  firstOf [
    lit "." ++ anyWord ["test", "spec"] ++ textEnd,
    textStart ++ lit "test_",
    lit "_test" ++ textEnd,
    lit "Test" ++ opt (lit "s") ++ textEnd]

/-- The name of what a test file tests. -/
def testedName (fileName : String) : List Char :=
  testAffix.erase (Path.ofString fileName).stem.toList

/-- Whether the name of a test file contains the name of a source, in any case of letters. -/
def namesSource (testName sourceStem : String) : Bool :=
  sourceStem != "" && Text.occursIn (Text.lower sourceStem.toList) (Text.lower (testedName testName))

/-- Whether a name is that of a test file. -/
def isNamedTest (scan : Settings.Scan) (path : Path) : Bool := isTest path scan.testGlobs

/-- The tests below the directory of a source that are named after it. -/
def nearbyTests (files : FileSystem) (scan : Settings.Scan) (source : Path) :
    Timed (List Path) := do
  let source ← files.real source
  let walked ← .walking (walkWith files scan) [source.parent] fun path => do
    let candidate ← judgeOther files scan (isNamedTest scan) source path
    return candidate && namesSource path.name source.stem
  files.reals walked.files

/-- Whether a test has to do with a source or one of the symbols. -/
def isRelated (files : FileSystem) (source : Path) (symbols : List String) (path : Path) : Bool :=
  namesSource path.name source.stem ||
    match files.read path with
    | .error _ => false
    | .ok content =>
      imports (importPatterns source) content ||
        symbols.any (fun symbol => mentions symbol.toList content) ||
        (path.segments.contains "__tests__" &&
          (Text.occursIn source.stem.toList content || Text.occursIn source.name.toList content))

/-- How near a test is: beside the source, in a directory of tests, or elsewhere. -/
def proximity (directory root path : Path) : Nat :=
  if path.parent == directory then 0
  else
    match path.relativeTo? root with
    | none => 2
    | some relative =>
      let place := '/' :: relative.toString.toList
      if testDirectories.any fun name => Text.occursIn (("/" ++ name ++ "/").toList) place then 1
      else 2

/-- Nearer paths first, then by name. -/
def comesBefore (directory root a b : Path) : Bool :=
  let first := proximity directory root a
  let second := proximity directory root b
  first < second || (first == second && a.toString ≤ b.toString)

/-- All tests of a source, below its directory and below the root. -/
def findTests (files : FileSystem) (scan : Settings.Scan) (source : Path) (root : Option Path)
    (symbols : List String) : Timed (List Path) := do
  let source ← files.real source
  let directory := source.parent
  let root ← files.real (root.getD directory)
  let roots := if directory == root then [directory] else [directory, root]
  let walked ←
    .walking (walkWith files scan) roots (judgeOther files scan (isNamedTest scan) source)
  let found := (← files.reals walked.files).filter (isRelated files source symbols)
  return (distinctPaths found).mergeSort (comesBefore directory root)

end EditImpact.Impact
