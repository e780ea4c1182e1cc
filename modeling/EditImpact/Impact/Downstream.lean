import EditImpact.ChangeSet
import EditImpact.Files.Timed
import EditImpact.Impact.Mention
import EditImpact.Settings.Basic

/-!
Files that a change may affect: those below the directory of the changed file that import it or
mention a broken symbol.
-/

namespace EditImpact.Impact

open Files

/-- The files found by a scan; `skipped` could not be read. -/
structure Scanned where
  files : List Path := []
  timedOut : Bool := false
  skipped : List Path := []

def walkWith (files : FileSystem) (scan : Settings.Scan) : Walk :=
  { files := files, extraExcluded := scan.extraExcluded, timeout := some scan.timeout }

/-- Whether a file is another one than the source, with a fitting name and size. -/
def judgeOther (files : FileSystem) (scan : Settings.Scan) (named : Path → Bool)
    (source path : Path) : Except Failure Bool := do
  let real ← files.real path
  if real != source && named path then scan.admits (files.size path) else return false

/-- Whether a name is that of a file with source text. -/
def isNamed (scan : Settings.Scan) (path : Path) : Bool :=
  Glob.anyCovers scan.sourceGlobs path.name

/-- Whether a text depends on the source or on one of the symbols. -/
def dependsOn (source : Path) (symbols : List String) (content : List Char) : Bool :=
  imports (importPatterns source) content ||
    symbols.any fun symbol => references symbol.toList content

def isUnreadable (files : FileSystem) (path : Path) : Bool :=
  match files.read path with
  | .ok _ => false
  | .error _ => true

def isDownstream (files : FileSystem) (source : Path) (symbols : List String) (path : Path) : Bool :=
  match files.read path with
  | .ok content => dependsOn source symbols content
  | .error _ => false

/-- Scans for dependent files; without a broken symbol there are none. -/
def scanDownstream (files : FileSystem) (scan : Settings.Scan) (source : Path)
    (changes : ChangeSet) : Timed Scanned := do
  let source ← files.real source
  if changes.isEmpty then return {}
  let walked ←
    .walking (walkWith files scan) [source.parent] (judgeOther files scan (isNamed scan) source)
  let downstream ←
    files.reals (walked.files.filter (isDownstream files source changes.symbols))
  return {
    files := distinctPaths downstream
    timedOut := walked.timedOut
    skipped := walked.files.filter (isUnreadable files) }

end EditImpact.Impact
